import EngineClient.Number.Decimal

/-!
# Keys of tables

An entry of a table stands under a text, a number, a flag or the null value. Numbers and
flags of equal value are the same key, whatever their kind; a mark for no number is the same
key as nothing, itself included. Main statement: every other key is the same as itself.
-/

namespace EngineClient

inductive Key where
  | text (s : String)
  | null
  | bool (b : Bool)
  | int (i : Int)
  | real (x : Binary64)
  | decimal (d : Decimal)
  deriving DecidableEq, Repr, Inhabited

namespace Key

instance : Coe String Key := ⟨.text⟩

def text? : Key → Option String
  | .text s => some s
  | _ => none

def number? : Key → Option Decimal
  | .text _ => none
  | .null => none
  | .bool b => some (.ofInt b.toNat)
  | .int i => some (.ofInt i)
  | .real x => some (.ofBinary64 x)
  | .decimal d => some d

def same (a b : Key) : Bool :=
  match a, b with
  | .text s, .text t => s == t
  | .null, .null => true
  | a, b =>
      match a.number?, b.number? with
      | some x, some y => x.order? y == some .eq
      | _, _ => false

def isNan (k : Key) : Bool :=
  match k.number? with
  | some d => d.isNan
  | none => false

@[simp] theorem same_text (s t : String) : same (.text s) (.text t) = (s == t) := rfl

theorem same_self {k : Key} (h : k.isNan = false) : k.same k = true := by
  cases k with
  | text s => simp [same]
  | null => rfl
  | bool b => cases b <;> decide
  | int i =>
      have := Decimal.order?_self (d := .ofInt i) rfl
      simp [same, number?, this]
  | real x =>
      simp only [isNan, number?] at h
      simp [same, number?, Decimal.order?_self h]
  | decimal d =>
      simp only [isNan, number?] at h
      simp [same, number?, Decimal.order?_self h]

/-! ## Order -/

def kindName : Key → String
  | .text _ => "str"
  | .null => "NoneType"
  | .bool _ => "bool"
  | .int _ => "int"
  | .real _ => "float"
  | .decimal _ => "decimal.Decimal"

end Key

inductive KeyError where
  /-- Keys of two kinds that have no common order. -/
  | incomparable (left right : String)
  /-- A mark for no number in a comparison of decimals. -/
  | unordered
  /-- A kind of key that has no text. -/
  | unwritable (kind : String)
  deriving DecidableEq, Repr

namespace KeyError

def message : KeyError → String
  | .incomparable left right =>
      "'<' not supported between instances of '" ++ left ++ "' and '" ++ right ++ "'"
  | .unordered => "[<class 'decimal.InvalidOperation'>]"
  | .unwritable kind => "keys must be str, int, float, bool or None, not " ++ kind

end KeyError

namespace Key

def isDecimal : Key → Bool
  | .decimal _ => true
  | _ => false

/-- Whether a key comes before another: texts by their characters, numbers by value. -/
def less (a b : Key) : Except KeyError Bool :=
  match a, b with
  | .text s, .text t => .ok (decide (s < t))
  | a, b =>
      match a.number?, b.number? with
      | some x, some y =>
          match x.order? y with
          | some o => .ok (o == .lt)
          | none => if a.isDecimal || b.isDecimal then .error .unordered else .ok false
      | _, _ => .error (.incomparable a.kindName b.kindName)

/-! ## Sorting -/

/-- Where a key goes among `sorted`, between the positions `low` and `high`: behind every
key that does not come after it, found by halving the range. -/
def position {α : Type} (sorted : Array (Key × α)) (k : Key) (low high : Nat) :
    Except KeyError Nat :=
  if low < high then
    let middle := low + (high - low) / 2
    match sorted[middle]? with
    | none => .ok low
    | some e =>
        match k.less e.1 with
        | .error why => .error why
        | .ok true => position sorted k low middle
        | .ok false => position sorted k (middle + 1) high
  else .ok low
termination_by high - low
decreasing_by all_goals omega

def placeAll {α : Type} (sorted : Array (Key × α)) : List (Key × α) →
    Except KeyError (Array (Key × α))
  | [] => .ok sorted
  | e :: es =>
      match position sorted e.1 0 sorted.size with
      | .error why => .error why
      | .ok i => placeAll (sorted.insertIdxIfInBounds i e) es

/-- The entries at the head of a list that go down, or else do not go down, each against
the one before it: those after `e`, and the rest. -/
def spanRun {α : Type} (down : Bool) (e : Key × α) : List (Key × α) →
    Except KeyError (List (Key × α) × List (Key × α))
  | [] => .ok ([], [])
  | f :: es =>
      match f.1.less e.1 with
      | .error why => .error why
      | .ok lower =>
          if lower = down then
            match spanRun down f es with
            | .error why => .error why
            | .ok (run, rest) => .ok (f :: run, rest)
          else .ok ([], f :: es)

/-- Entries ordered by key. The run at the head, turned round if it goes down, is taken as it
is; the rest is put to its places. -/
def sortRuns {α : Type} : List (Key × α) → Except KeyError (List (Key × α))
  | [] => .ok []
  | [e] => .ok [e]
  | e :: f :: es =>
      match f.1.less e.1 with
      | .error why => .error why
      | .ok down =>
          match spanRun down e (f :: es) with
          | .error why => .error why
          | .ok (run, rest) =>
              let head := if down then (e :: run).reverse else e :: run
              (placeAll head.toArray rest).map Array.toList

def textEntries? {α : Type} : List (Key × α) → Option (List (String × α))
  | [] => some []
  | (.text s, a) :: es => (textEntries? es).map ((s, a) :: ·)
  | _ :: _ => none

def sortEntries {α : Type} (es : List (Key × α)) : Except KeyError (List (Key × α)) :=
  match textEntries? es with
  | some es =>
      .ok ((es.mergeSort fun a b => decide (a.1 ≤ b.1)).map fun e => (.text e.1, e.2))
  | none => sortRuns es

end Key
end EngineClient
