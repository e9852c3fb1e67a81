import EngineClient.Toml.Lexical
import EngineClient.Value.Basic

/-!
# Numbers of settings files

Integers in four bases and decimal reals. Single underscores may stand between two
digits; a decimal number has no needless zero in front.
-/

namespace EngineClient
namespace Toml

/-! ## Digits -/

/-- Further digits, each of which may have an underscore before it, without the
underscores; and what follows. -/
def moreDigits (isDigit : Char → Bool) : List Char → List Char × List Char
  | [] => ([], [])
  | '_' :: c :: cs =>
      if isDigit c then
        let (ds, rest) := moreDigits isDigit cs
        (c :: ds, rest)
      else ([], '_' :: c :: cs)
  | c :: cs =>
      if isDigit c then
        let (ds, rest) := moreDigits isDigit cs
        (c :: ds, rest)
      else ([], c :: cs)

def digits? (isDigit : Char → Bool) : List Char → Option (List Char × List Char)
  | [] => none
  | c :: cs =>
      if isDigit c then
        let (ds, rest) := moreDigits isDigit cs
        some (c :: ds, rest)
      else none

def valueInBase (base : Nat) (ds : List Char) : Nat :=
  ds.foldl (fun n c => n * base + (Text.hexValue? c).getD 0) 0

/-! ## Integers -/

def bases : List (Char × Nat × (Char → Bool)) :=
  [('x', 16, fun c => (Text.hexValue? c).isSome), ('b', 2, fun c => c == '0' || c == '1'),
    ('o', 8, fun c => '0' ≤ c && c ≤ '7')]

def readBased? : List Char → Option (Nat × List Char)
  | '0' :: mark :: cs =>
      (bases.find? (·.1 == mark)).bind fun (_, base, isDigit) =>
        (digits? isDigit cs).map fun (ds, rest) => (valueInBase base ds, rest)
  | _ => none

/-- A decimal whole number: zero, or digits that start with another one. -/
def readWhole? (cs : List Char) : Option (List Char × List Char) :=
  match cs with
  | '0' :: rest => some (['0'], rest)
  | cs => digits? Char.isDigit cs

/-! ## Reals -/

/-- A fraction with its point, nothing if there is none. -/
def readFractionDigits (cs : List Char) : List Char × List Char :=
  match cs with
  | '.' :: rest =>
      match digits? Char.isDigit rest with
      | some (ds, rest) => ('.' :: ds, rest)
      | none => ([], cs)
  | cs => ([], cs)

/-- A power of ten with its mark, nothing if there is none. -/
def readPower (cs : List Char) : List Char × List Char :=
  match cs with
  | mark :: rest =>
      if mark = 'e' ∨ mark = 'E' then
        let (sign, rest) : List Char × List Char :=
          match rest with
          | '+' :: rest => ([], rest)
          | '-' :: rest => (['-'], rest)
          | rest => ([], rest)
        match digits? Char.isDigit rest with
        | some (ds, rest) => ('e' :: sign ++ ds, rest)
        | none => ([], cs)
      else ([], cs)
  | [] => ([], cs)

/-- A decimal number: an integer unless it has a fraction or a power. -/
def readDecimal? (cs : List Char) : Option (Reading (Value × List Char)) :=
  let (negative, body) := Literal.splitSign cs
  (readWhole? body).map fun (whole, rest) =>
    let (fraction, rest) := readFractionDigits rest
    let (power, rest) := readPower rest
    if fraction.isEmpty && power.isEmpty then
      if Literal.maxIntegerDigits < whole.length then .error (.longInteger whole.length)
      else
        let n := Literal.digitsValue 0 whole
        .ok (.int (if negative then -(n : Int) else n), rest)
    else
      match Literal.unsignedReal? negative (whole ++ fraction ++ power) with
      | some x => .ok (.real x, rest)
      | none => .error .malformed

/-- The words for the infinities and for no number. -/
def specialReals : List (List Char × Binary64) :=
  [("inf".toList, .infinite false), ("nan".toList, .nan), ("+inf".toList, .infinite false),
    ("-inf".toList, .infinite true), ("+nan".toList, .nan), ("-nan".toList, .nan)]

def readNumber? (cs : List Char) : Option (Reading (Value × List Char)) :=
  match readBased? cs with
  | some (n, rest) => some (.ok (.int n, rest))
  | none =>
      match readDecimal? cs with
      | some r => some r
      | none =>
          specialReals.findSome? fun e =>
            (afterWord? e.1 cs).map fun rest => .ok (.real e.2, rest)

end Toml
end EngineClient
