import EngineClient.Number.Literal
import EngineClient.Number.Shortest
import EngineClient.Text.Preview
import EngineClient.Text.Quoted
import EngineClient.Value.Basic

/-!
# Values in messages

How a message shows a value: texts between quotes, containers with their brackets, a
tuple of one with a comma of its own. Where a message speaks in a value's own words,
a text stands without quotes. Very long integers, and containers too deep inside each
other, cannot be shown.
-/

namespace EngineClient
namespace Value

def latin (bs : List UInt8) : String :=
  String.ofList (bs.map fun b => Char.ofNat b.toNat)

def displayDecimal (d : Decimal) : String :=
  "Decimal('" ++ d.toText ++ "')"

def displayKey : Key → String
  | .text s => Text.quoted s
  | .null => "None"
  | .bool b => if b then "True" else "False"
  | .int i => Text.decimalInt i
  | .real x => x.toText
  | .decimal d => displayDecimal d

/-- A key in its own words: a text stands as it is. -/
def plainKey : Key → String
  | .text s => s
  | .decimal d => d.toText
  | k => displayKey k

mutual

def display : Value → String
  | .null => "None"
  | .bool b => if b then "True" else "False"
  | .int i => Text.decimalInt i
  | .real x => x.toText
  | .decimal d => displayDecimal d
  | .text s => Text.quoted s
  | .list items => "[" ++ String.intercalate ", " (displayItems items) ++ "]"
  | .tuple [item] => "(" ++ display item ++ ",)"
  | .tuple items => "(" ++ String.intercalate ", " (displayItems items) ++ ")"
  | .table entries => "\x7b" ++ String.intercalate ", " (displayEntries entries) ++ "\x7d"
  | .octets bs => Text.quotedOctets bs
  | .blob bs => latin bs
  | .stamp s => s
  | .moment _ s => s

def displayItems : List Value → List String
  | [] => []
  | v :: vs => display v :: displayItems vs

def displayEntries : List (Key × Value) → List String
  | [] => []
  | (k, v) :: es => (displayKey k ++ ": " ++ display v) :: displayEntries es

end

/-- A value in its own words: a text and a decimal number stand as they are. -/
def plain : Value → String
  | .text s => s
  | .decimal d => d.toText
  | v => display v

/-! ## Values that cannot be shown -/

inductive ShowError where
  /-- Containers too deep inside each other. -/
  | tooDeep
  | longInteger
  deriving DecidableEq, Repr

def longIntegerMessage : String :=
  "Exceeds the limit (4300 digits) for integer string conversion; " ++
    "use sys.set_int_max_str_digits() to increase the limit"

def ShowError.message : ShowError → String
  | .tooDeep => "maximum recursion depth exceeded while getting the repr of an object"
  | .longInteger => longIntegerMessage

/-- How many containers can be written one inside the other. -/
def maxDepth : Nat := 980

def unshownInteger? (i : Int) : Option ShowError :=
  if Literal.isLong i then some .longInteger else none

def unshownKey? : Key → Option ShowError
  | .int i => unshownInteger? i
  | _ => none

mutual

/-- The first reason why a value, inside so many containers, cannot be shown. -/
def unshownAt? (depth : Nat) : Value → Option ShowError
  | .int i => unshownInteger? i
  | .list items => if depth < maxDepth then unshownItem? (depth + 1) items else some .tooDeep
  | .tuple items => if depth < maxDepth then unshownItem? (depth + 1) items else some .tooDeep
  | .table entries =>
      if depth < maxDepth then unshownMember? (depth + 1) entries else some .tooDeep
  | _ => none

def unshownItem? (depth : Nat) : List Value → Option ShowError
  | [] => none
  | v :: vs => (unshownAt? depth v).or (unshownItem? depth vs)

def unshownMember? (depth : Nat) : List (Key × Value) → Option ShowError
  | [] => none
  | (k, v) :: es => (unshownKey? k).or ((unshownAt? depth v).or (unshownMember? depth es))

end

def unshown? (v : Value) : Option ShowError :=
  unshownAt? 0 v

end Value

/-! ## Summaries of arguments -/

def summaryLimit : Nat := 60

def summarizeArgument (v : Value) : String :=
  String.ofList (Text.shorten summaryLimit v.display.toList)

def summarize (args : List Value) : String :=
  String.intercalate ", " (args.map summarizeArgument)

end EngineClient
