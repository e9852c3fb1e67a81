import EngineClient.Toml.Lexical
import EngineClient.Value.Basic

/-!
# Dates and times of settings files

A date, a time of day, or both with an offset from universal time. A moment is kept in
its standard spelling: a fraction of a second takes six digits and is left out when it
is zero, and an offset is written with its sign, hours and minutes.
-/

namespace EngineClient
namespace Toml

/-! ## Fixed digits -/

def fixedNumber? (width : Nat) (cs : List Char) : Option (Nat × List Char) :=
  let digits := cs.take width
  if digits.length = width then (Literal.wholeNumber? digits).map (·, cs.drop width) else none

def boundedNumber? (width low high : Nat) (cs : List Char) : Option (Nat × List Char) :=
  match fixedNumber? width cs with
  | some (n, rest) => if low ≤ n ∧ n ≤ high then some (n, rest) else none
  | none => none

def paddedDecimal (width n : Nat) : String :=
  let digits := Nat.toDigits 10 n
  String.ofList (List.replicate (width - digits.length) '0' ++ digits)

/-! ## Dates -/

def isLeapYear (year : Nat) : Bool :=
  (year % 4 == 0 && year % 100 != 0) || year % 400 == 0

def daysIn (year month : Nat) : Nat :=
  if month = 2 then (if isLeapYear year then 29 else 28)
  else if month = 4 ∨ month = 6 ∨ month = 9 ∨ month = 11 then 30
  else 31

/-- A date as it is written; the day may be too late for its month. -/
structure Date where
  year : Nat
  month : Nat
  day : Nat
  deriving DecidableEq, Repr

def Date.isValid (d : Date) : Bool :=
  0 < d.year && d.day ≤ daysIn d.year d.month

def Date.text (d : Date) : String :=
  paddedDecimal 4 d.year ++ "-" ++ paddedDecimal 2 d.month ++ "-" ++ paddedDecimal 2 d.day

def readDate? (cs : List Char) : Option (Date × List Char) := do
  let (year, cs) ← fixedNumber? 4 cs
  let cs ← afterWord? ['-'] cs
  let (month, cs) ← boundedNumber? 2 1 12 cs
  let cs ← afterWord? ['-'] cs
  let (day, cs) ← boundedNumber? 2 1 31 cs
  return (⟨year, month, day⟩, cs)

/-! ## Times -/

structure TimeOfDay where
  hour : Nat
  minute : Nat
  second : Nat
  micros : Nat
  deriving DecidableEq, Repr

def TimeOfDay.text (t : TimeOfDay) : String :=
  paddedDecimal 2 t.hour ++ ":" ++ paddedDecimal 2 t.minute ++ ":" ++ paddedDecimal 2 t.second ++
    if t.micros = 0 then "" else "." ++ paddedDecimal 6 t.micros

/-- A fraction of a second in millionths; later digits are dropped. -/
def readFraction (cs : List Char) : Nat × List Char :=
  match cs with
  | '.' :: rest =>
      let (digits, rest) := Literal.spanDigits rest
      if digits.isEmpty then (0, cs)
      else
        let kept := digits.take 6
        (Literal.digitsValue 0 (kept ++ List.replicate (6 - kept.length) '0'), rest)
  | _ => (0, cs)

def readTime? (cs : List Char) : Option (TimeOfDay × List Char) := do
  let (hour, cs) ← boundedNumber? 2 0 23 cs
  let cs ← afterWord? [':'] cs
  let (minute, cs) ← boundedNumber? 2 0 59 cs
  let cs ← afterWord? [':'] cs
  let (second, cs) ← boundedNumber? 2 0 59 cs
  let (micros, cs) := readFraction cs
  return (⟨hour, minute, second, micros⟩, cs)

/-! ## Offsets -/

def offsetText (negative : Bool) (hours minutes : Nat) : String :=
  let sign := if negative && 0 < hours + minutes then "-" else "+"
  sign ++ paddedDecimal 2 hours ++ ":" ++ paddedDecimal 2 minutes

/-- The spelling of an offset from universal time, nothing if there is none. -/
def readOffset (cs : List Char) : String × List Char :=
  match cs with
  | 'Z' :: rest => (offsetText false 0 0, rest)
  | 'z' :: rest => (offsetText false 0 0, rest)
  | sign :: rest =>
      let read : Option (String × List Char) := do
        let negative ← if sign = '-' then some true else if sign = '+' then some false else none
        let (hours, rest) ← boundedNumber? 2 0 23 rest
        let rest ← afterWord? [':'] rest
        let (minutes, rest) ← boundedNumber? 2 0 59 rest
        return (offsetText negative hours minutes, rest)
      read.getD ("", cs)
  | [] => ("", cs)

/-! ## Moments -/

def timeAfterDate? (cs : List Char) : Option (TimeOfDay × List Char) :=
  match cs with
  | c :: cs => if c = 'T' ∨ c = 't' ∨ c = ' ' then readTime? cs else none
  | [] => none

/-- A date, a time or both at the head of a text; none if the text starts with neither. -/
def readMoment? (cs : List Char) : Option (Reading (Value × List Char)) :=
  match readDate? cs with
  | some (date, rest) =>
      some (if date.isValid then
        match timeAfterDate? rest with
        | some (time, rest) =>
            let (offset, rest) := readOffset rest
            .ok (.moment .dateTime (date.text ++ "T" ++ time.text ++ offset), rest)
        | none => .ok (.moment .date date.text, rest)
      else .error .malformed)
  | none =>
      match readTime? cs with
      | some (time, rest) => some (.ok (.moment .time time.text, rest))
      | none => none

end Toml
end EngineClient
