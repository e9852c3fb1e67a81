import EngineClient.Number.Literal
import EngineClient.Text.Utf8
import EngineClient.Value.Basic

/-!
# Settings

One setting at a time: how a value from a settings file, the environment or a caller
becomes a text, a number or a flag. Numbers and flags may be written as text; octets
count as the text that they encode.
-/

namespace EngineClient
namespace Config

/-! ## Problems -/

inductive SettingProblem where
  | notText
  | notUnicode
  | notList
  | notInteger
  | unreadableInteger
  | oversizedInteger
  | fractional
  | notFinite
  | notAtLeast (bound : Nat)
  | notAtMost (bound : Nat)
  | notFlag
  | unreadableFlag
  | notNumber
  | unreadableNumber
  | notPositive
  /-- A rule of the setting itself, in words. -/
  | refused (reason : String)
  deriving DecidableEq, Repr

namespace SettingProblem

def code : SettingProblem → String
  | .notText => "string_type"
  | .notUnicode => "string_unicode"
  | .notList => "list_type"
  | .notInteger => "int_type"
  | .unreadableInteger => "int_parsing"
  | .oversizedInteger => "int_parsing_size"
  | .fractional => "int_from_float"
  | .notFinite => "finite_number"
  | .notAtLeast _ => "greater_than_equal"
  | .notAtMost _ => "less_than_equal"
  | .notFlag => "bool_type"
  | .unreadableFlag => "bool_parsing"
  | .notNumber => "float_type"
  | .unreadableNumber => "float_parsing"
  | .notPositive => "greater_than"
  | .refused _ => "value_error"

def text : SettingProblem → String
  | .notText => "Input should be a valid string"
  | .notUnicode => "Input should be a valid string, unable to parse raw data as a unicode string"
  | .notList => "Input should be a valid list"
  | .notInteger => "Input should be a valid integer"
  | .unreadableInteger => "Input should be a valid integer, unable to parse string as an integer"
  | .oversizedInteger => "Unable to parse input string as an integer, exceeded maximum size"
  | .fractional => "Input should be a valid integer, got a number with a fractional part"
  | .notFinite => "Input should be a finite number"
  | .notAtLeast bound =>
      "Input should be greater than or equal to " ++ Text.decimal bound
  | .notAtMost bound => "Input should be less than or equal to " ++ Text.decimal bound
  | .notFlag => "Input should be a valid boolean"
  | .unreadableFlag => "Input should be a valid boolean, unable to interpret input"
  | .notNumber => "Input should be a valid number"
  | .unreadableNumber => "Input should be a valid number, unable to parse string as a number"
  | .notPositive => "Input should be greater than 0"
  | .refused reason => "Value error, " ++ reason

end SettingProblem

/-! ## Texts -/

/-- The text that a value holds: none if it holds none, an error if it holds octets
that are not UTF-8. -/
def spelling (bad : SettingProblem) : Value → Except SettingProblem (Option String)
  | .text s => .ok (some s)
  | .octets bs =>
      match Text.Utf8.decodeText bs with
      | .ok s => .ok (some s)
      | .error _ => .error bad
  | _ => .ok none

def textSetting (v : Value) : Except SettingProblem String :=
  match spelling .notUnicode v with
  | .ok (some s) => .ok s
  | .ok none => .error .notText
  | .error p => .error p

def optionalTextSetting : Value → Except SettingProblem (Option String)
  | .null => .ok none
  | v => (textSetting v).map some

/-! ## Integers -/

/-- A text without its underscores, each of which must stand alone between two other
characters. -/
def withoutUnderscores? (cs : List Char) : Option (List Char) :=
  match cs with
  | [] => some []
  | ['_'] => none
  | '_' :: '_' :: _ => none
  | c :: cs => (withoutUnderscores? cs).map fun rest => if c = '_' then rest else c :: rest

def withoutZeroFraction (cs : List Char) : List Char :=
  match cs.dropWhile (· != '.') with
  | '.' :: '0' :: zeros => if zeros.all (· = '0') then cs.takeWhile (· != '.') else cs
  | _ => cs

/-- A literal without a plus sign before it; no minus sign may follow one. -/
def withoutPlus? : List Char → Option (List Char)
  | '+' :: '-' :: _ => none
  | '+' :: cs => some cs
  | cs => some cs

def beginsNumber (c : Char) : Bool :=
  ('1' ≤ c && c ≤ '9') || c == '-'

/-- A literal without the zeros before its first digit or its sign, among which any
underscores may stand; the last of them is kept if no other digit follows. -/
def withoutLeadingZeros? (cs : List Char) : Option (List Char) :=
  let isFiller (c : Char) : Bool := c == '0' || c == '_'
  if cs.head? = some '0' then
    match cs.dropWhile isFiller with
    | [] => cs.getLast?.map ([·])
    | '.' :: fraction => (cs.takeWhile isFiller).getLast?.map (· :: '.' :: fraction)
    | c :: rest => if beginsNumber c then some (c :: rest) else none
  else if cs.head?.any beginsNumber then some cs
  else none

/-- A literal as a sign and digits: white space, a plus sign, leading zeros, a fraction of
zeros and underscores are dropped, in this order. -/
def plainInteger? (cs : List Char) : Option (List Char) := do
  let cs ← withoutPlus? (Text.trimBy Text.isSpace cs)
  let cs ← withoutLeadingZeros? cs
  let cs := withoutZeroFraction cs
  if cs.head? = some '_' then none else withoutUnderscores? cs

/-- The integer that a minus sign, if there is one, and digits write. -/
def signedNumber? : List Char → Option Int
  | '-' :: ds => (Literal.wholeNumber? ds).map fun n => -(n : Int)
  | ds => (Literal.wholeNumber? ds).map fun n => (n : Int)

def integerText (cs : List Char) : Except SettingProblem Int :=
  match plainInteger? cs with
  | none => .error .unreadableInteger
  | some cs =>
      match signedNumber? cs with
      | none => .error .unreadableInteger
      | some i => if Literal.maxIntegerDigits < cs.length then .error .oversizedInteger else .ok i

/-- Whether an integer fits into 64 bits with a sign. -/
def isShort (i : Int) : Bool :=
  -9223372036854775808 ≤ i && i ≤ 9223372036854775807

/-- The integer that a real is equal to, if its size fits into 63 bits. -/
def integerReal (x : Binary64) : Except SettingProblem Int :=
  match x with
  | .finite .. =>
      match x.toInt? with
      | none => .error .fractional
      | some i => if i.natAbs < 9223372036854775808 then .ok i else .error .oversizedInteger
  | _ => .error .notFinite

def integerSetting (v : Value) : Except SettingProblem Int :=
  match v with
  | .int i => .ok i
  | .bool b => .ok (if b then 1 else 0)
  | .real x => integerReal x
  | v =>
      match spelling .unreadableInteger v with
      | .ok (some s) => integerText s.toList
      | .ok none => .error .notInteger
      | .error p => .error p

def boundedSetting (low high : Nat) (v : Value) : Except SettingProblem Nat :=
  match integerSetting v with
  | .error p => .error p
  | .ok i =>
      if i < low then .error (.notAtLeast low)
      else if high < i then .error (.notAtMost high)
      else .ok i.toNat

/-! ## Flags -/

def setWords : List String := ["1", "on", "t", "true", "y", "yes"]

def unsetWords : List String := ["0", "off", "f", "false", "n", "no"]

def integerFlag (i : Int) : Except SettingProblem Bool :=
  if i = 0 then .ok false
  else if i = 1 then .ok true
  else .error .unreadableFlag

def textFlag (s : String) : Except SettingProblem Bool :=
  let word := String.ofList (s.toList.map Char.toLower)
  if setWords.contains word then .ok true
  else if unsetWords.contains word then .ok false
  else .error .unreadableFlag

def flagSetting (v : Value) : Except SettingProblem Bool :=
  match v with
  | .bool b => .ok b
  | .int i => if isShort i then integerFlag i else .error .notFlag
  | .real x =>
      match integerReal x with
      | .ok i => integerFlag i
      | .error _ => .error .notFlag
  | v =>
      match spelling .unreadableFlag v with
      | .ok (some s) => textFlag s
      | .ok none => .error .notFlag
      | .error p => .error p

/-! ## Numbers -/

/-- The number that a text writes; white space around it is skipped, or else single
underscores are. -/
def numberText (cs : List Char) : Except SettingProblem Binary64 :=
  match Literal.plainReal? (Text.trimBy Text.isSpace cs) with
  | some x => .ok x
  | none =>
      if cs.head? = some '_' then .error .unreadableNumber
      else
        match (withoutUnderscores? cs).bind Literal.plainReal? with
        | some x => .ok x
        | none => .error .unreadableNumber

def numberSetting (v : Value) : Except SettingProblem Binary64 :=
  match v with
  | .real x => .ok x
  | .bool b => .ok (.ofInt (if b then 1 else 0))
  | .int i =>
      match Binary64.ofInt i with
      | .infinite _ => .error .notNumber
      | x => .ok x
  | v =>
      match spelling .unreadableNumber v with
      | .ok (some s) => numberText s.toList
      | .ok none => .error .notNumber
      | .error p => .error p

def positiveSetting (v : Value) : Except SettingProblem Binary64 :=
  match numberSetting v with
  | .error p => .error p
  | .ok x => if Binary64.zero.lt x then .ok x else .error .notPositive

end Config
end EngineClient
