import EngineClient.Value.Key

/-!
# Values

The values that travel between the client, the engine, the configuration and the
user: requests carry the scalar ones, answers and settings may nest. A table keeps
its entries in the order in which their keys first appeared.
-/

namespace EngineClient

inductive MomentKind where
  | dateTime
  | date
  | time
  deriving DecidableEq, Repr

inductive Value where
  | null
  | bool (b : Bool)
  | int (i : Int)
  | real (x : Binary64)
  /-- A decimal number that an answer carried. -/
  | decimal (d : Decimal)
  | text (s : String)
  | list (items : List Value)
  | tuple (items : List Value)
  | table (entries : List (Key × Value))
  /-- A string of octets. -/
  | octets (bs : List UInt8)
  /-- Octets that an answer carried in base 64. -/
  | blob (bs : List UInt8)
  /-- A date and time as an answer spelled it. -/
  | stamp (spelling : String)
  /-- A date or time of a settings file, in its standard spelling. -/
  | moment (kind : MomentKind) (spelling : String)
  deriving Repr, Inhabited

/-- Entries with distinct keys, in the order of their first appearance. -/
abbrev Table := List (Key × Value)

/-! ## Tables -/

namespace Table

def get? (t : Table) (key : Key) : Option Value :=
  (t.find? fun e => key.same e.1).map (·.2)

/-- A table with the value under a key replaced, the key kept as it first appeared; a new
key comes last. -/
def set (t : Table) (key : Key) (v : Value) : Table :=
  match t with
  | [] => [(key, v)]
  | (k, w) :: t => if key.same k then (k, v) :: t else (k, w) :: set t key v

def erase (t : Table) (key : Key) : Table :=
  t.filter fun e => !key.same e.1

theorem get?_set_self (t : Table) {key : Key} (v : Value) (h : key.isNan = false) :
    get? (set t key v) key = some v := by
  induction t with
  | nil => simp [set, get?, Key.same_self h]
  | cons e t ih =>
      by_cases he : key.same e.1 = true
      · simp [set, get?, he]
      · simp only [get?, Option.map_eq_some_iff] at ih ⊢
        simp [set, he, ih]

theorem get?_set_of_ne (t : Table) {key other : String} (v : Value) (hne : key ≠ other) :
    get? (set t key v) other = get? t other := by
  have hno : Key.same (.text other) (.text key) = false := by simpa using hne.symm
  induction t with
  | nil => simp [set, get?, hne.symm]
  | cons e t ih =>
      by_cases h : Key.same (.text key) e.1 = true
      · cases e with
        | mk k w =>
            cases k with
            | text s =>
                have : key = s := by simpa using h
                subst this
                simp [set, get?, hno]
            | _ => simp [Key.same, Key.number?] at h
      · by_cases ho : Key.same (.text other) e.1 = true
        · simp [set, h, get?, ho]
        · simp only [get?] at ih
          simp [set, h, get?, ho, ih]

def ofEntries (entries : List (Key × Value)) : Table :=
  entries.foldl (fun t e => set t e.1 e.2) []

end Table

namespace Value

/-! ## Depth -/

mutual

/-- How many containers stand one inside the other in a value. -/
def depth : Value → Nat
  | .list items => depthOfItems items + 1
  | .tuple items => depthOfItems items + 1
  | .table entries => depthOfEntries entries + 1
  | _ => 0

def depthOfItems : List Value → Nat
  | [] => 0
  | v :: vs => max v.depth (depthOfItems vs)

def depthOfEntries : List (Key × Value) → Nat
  | [] => 0
  | (_, v) :: es => max v.depth (depthOfEntries es)

end

def nested : Nat → Value
  | 0 => .list []
  | n + 1 => .list [nested n]

theorem depth_nested (n : Nat) : (nested n).depth = n + 1 := by
  induction n with
  | zero => rfl
  | succ n ih =>
      rw [nested, depth, depthOfItems, depthOfItems, ih]
      rfl

/-! ## Kinds -/

def kindName : Value → String
  | .null => "NoneType"
  | .bool _ => "bool"
  | .int _ => "int"
  | .real _ => "float"
  | .decimal _ => "Decimal"
  | .text _ => "str"
  | .list _ => "list"
  | .tuple _ => "tuple"
  | .table _ => "dict"
  | .octets _ => "bytes"
  | .blob _ => "Binary"
  | .stamp _ => "DateTime"
  | .moment .dateTime _ => "datetime"
  | .moment .date _ => "date"
  | .moment .time _ => "time"

/-- Whether a value counts as true where a flag is expected. -/
def isTrue : Value → Bool
  | .null => false
  | .bool b => b
  | .int i => i != 0
  | .real x => x.isNonzero
  | .decimal d => !d.isZero
  | .text s => !s.isEmpty
  | .list items => !items.isEmpty
  | .tuple items => !items.isEmpty
  | .table entries => !entries.isEmpty
  | .octets bs => !bs.isEmpty
  | _ => true

def text? : Value → Option String
  | .text s => some s
  | _ => none

/-- The text that a value is equal to as a name: a date and time is equal to its spelling. -/
def name? : Value → Option String
  | .text s => some s
  | .stamp spelling => some spelling
  | _ => none

def ofText? : Option String → Value
  | some s => .text s
  | none => .null

end Value
end EngineClient
