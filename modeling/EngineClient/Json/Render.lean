import EngineClient.Value.Display

/-!
# JSON text of values

Values as one line of printable ASCII: every other character is written as an escape,
outside the basic plane as a pair of them. Values that JSON does not know are written
as texts, and so are the keys that are no texts but have one. Of several things that cannot
be written the one that comes first is reported.
-/

namespace EngineClient
namespace Json

inductive WriteError where
  | keys (e : KeyError)
  /-- Containers too deep inside each other. -/
  | tooDeep
  | longInteger
  deriving DecidableEq, Repr

def WriteError.message : WriteError → String
  | .keys e => e.message
  | .tooDeep => "maximum recursion depth exceeded while encoding a JSON object"
  | .longInteger => Value.longIntegerMessage

/-! ## Strings -/

def unitEscape (n : Nat) : List Char :=
  '\\' :: 'u' :: Text.hexPadded 4 n

def escapeChar (c : Char) : List Char :=
  if c = '"' then ['\\', '"']
  else if c = '\\' then ['\\', '\\']
  else if c = '\n' then ['\\', 'n']
  else if c = '\r' then ['\\', 'r']
  else if c = '\t' then ['\\', 't']
  else if c.toNat = 8 then ['\\', 'b']
  else if c.toNat = 12 then ['\\', 'f']
  else if 0x20 ≤ c.toNat ∧ c.toNat < 0x7F then [c]
  else if c.toNat < 0x10000 then unitEscape c.toNat
  else
    let n := c.toNat - 0x10000
    unitEscape (0xD800 + n / 0x400) ++ unitEscape (0xDC00 + n % 0x400)

def stringChars (cs : List Char) : List Char :=
  '"' :: cs.flatMap escapeChar ++ ['"']

def string (s : String) : List Char :=
  stringChars s.toList

/-! ## Numbers -/

/-- The style of numbers: the words for the infinities and for no number differ from
those of messages. -/
def numberStyle : Binary64.DecimalStyle :=
  { Binary64.plainStyle with infinity := "Infinity", notANumber := "NaN" }

/-! ## Layout -/

structure Layout where
  /-- Whether entries are ordered by key. -/
  sorted : Bool
  /-- The columns of one level of indentation; none keeps everything on one line. -/
  indent? : Option Nat
  /-- The text for a value that JSON does not know. -/
  words : Value → String

def line : Layout := { sorted := true, indent? := none, words := Value.plain }

def recordLine : Layout := { sorted := false, indent? := none, words := Value.display }

def page : Layout := { sorted := true, indent? := some 2, words := Value.plain }

/-- What stands before an item at a depth, at its end and between two items. -/
def Layout.newline (l : Layout) (depth : Nat) : List Char :=
  match l.indent? with
  | none => []
  | some columns => '\n' :: List.replicate (columns * depth) ' '

def Layout.separator (l : Layout) (depth : Nat) : List Char :=
  match l.indent? with
  | none => [',', ' ']
  | some _ => ',' :: l.newline depth

/-- Items between brackets; a container without items stays on one line. -/
def Layout.bracket (l : Layout) (depth : Nat) (opening closing : Char)
    (items : List (List Char)) : List Char :=
  if items.isEmpty then [opening, closing]
  else
    opening :: l.newline (depth + 1) ++ List.intercalate (l.separator (depth + 1)) items ++
      l.newline depth ++ [closing]

/-! ## Scalars -/

def flagChars (b : Bool) : List Char :=
  (if b then "true" else "false").toList

def realChars (x : Binary64) : List Char :=
  (x.toTextIn numberStyle).toList

def integerChars (i : Int) : Except WriteError (List Char) :=
  if Literal.isLong i then .error .longInteger else .ok (Text.decimalInt i).toList

def keyChars : Key → Except WriteError (List Char)
  | .text s => .ok s.toList
  | .null => .ok "null".toList
  | .bool b => .ok (flagChars b)
  | .int i => integerChars i
  | .real x => .ok (realChars x)
  | .decimal d => .error (.keys (.unwritable (Key.decimal d).kindName))

/-! ## Entries -/

def entryLine (e : Key × Except WriteError (List Char)) : Except WriteError (List Char) :=
  match keyChars e.1, e.2 with
  | .error why, _ => .error why
  | .ok _, .error why => .error why
  | .ok k, .ok v => .ok (stringChars k ++ ':' :: ' ' :: v)

def entryLines : List (Key × Except WriteError (List Char)) → Except WriteError (List (List Char))
  | [] => .ok []
  | e :: es =>
      match entryLine e with
      | .error why => .error why
      | .ok l => (entryLines es).map (l :: ·)

def Layout.entries (l : Layout) (es : List (Key × Except WriteError (List Char))) :
    Except WriteError (List (List Char)) :=
  if l.sorted then
    match Key.sortEntries es with
    | .error why => .error (.keys why)
    | .ok es => entryLines es
  else entryLines es

/-! ## Values -/

mutual

/-- The text of a value that stands inside so many containers. -/
def chars (l : Layout) (depth : Nat) : Value → Except WriteError (List Char)
  | .null => .ok "null".toList
  | .bool b => .ok (flagChars b)
  | .int i => integerChars i
  | .real x => .ok (realChars x)
  | .text s => .ok (string s)
  | .list items =>
      if depth < Value.maxDepth then
        (itemChars l (depth + 1) items).map (l.bracket depth '[' ']')
      else .error .tooDeep
  | .tuple items =>
      if depth < Value.maxDepth then
        (itemChars l (depth + 1) items).map (l.bracket depth '[' ']')
      else .error .tooDeep
  | .table entries =>
      if depth < Value.maxDepth then
        (l.entries (entryChars l (depth + 1) entries)).map (l.bracket depth '\x7b' '\x7d')
      else .error .tooDeep
  | .decimal d => .ok (string (l.words (.decimal d)))
  | .octets bs => .ok (string (l.words (.octets bs)))
  | .blob bs => .ok (string (l.words (.blob bs)))
  | .stamp s => .ok (string (l.words (.stamp s)))
  | .moment kind s => .ok (string (l.words (.moment kind s)))

def itemChars (l : Layout) (depth : Nat) : List Value → Except WriteError (List (List Char))
  | [] => .ok []
  | v :: vs =>
      match chars l depth v with
      | .error why => .error why
      | .ok cs => (itemChars l depth vs).map (cs :: ·)

def entryChars (l : Layout) (depth : Nat) :
    List (Key × Value) → List (Key × Except WriteError (List Char))
  | [] => []
  | (k, v) :: es => (k, chars l depth v) :: entryChars l depth es

end

def render (l : Layout) (v : Value) : Except WriteError String :=
  (chars l 0 v).map String.ofList

end Json
end EngineClient
