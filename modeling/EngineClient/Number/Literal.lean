import EngineClient.Number.Binary64
import EngineClient.Text.Blank
import EngineClient.Text.Digit

/-!
# Number literals

Reading integers and reals from text. White space around a literal is skipped, the
digits may come from any script, and single underscores may stand between digits.
-/

namespace EngineClient
namespace Literal

/-! ## Digits -/

/-- A literal with its digits in ASCII and without separators; a separator is an
underscore between two digits. `afterDigit` says whether a digit was read last. -/
def plainDigits? (afterDigit : Bool) : List Char → Option (List Char)
  | [] => some []
  | '_' :: c :: cs =>
      if afterDigit && (Text.digitValue? c).isSome then plainDigits? false (c :: cs) else none
  | c :: cs =>
      match Text.digitValue? c with
      | some d => (plainDigits? true cs).map (Char.ofNat ('0'.toNat + d) :: ·)
      | none => if c = '_' then none else (plainDigits? false cs).map (c :: ·)

/-- The whole number that ASCII digits write, continuing from `value`. -/
def digitsValue (value : Nat) : List Char → Nat
  | [] => value
  | c :: cs => digitsValue (value * 10 + (c.toNat - '0'.toNat)) cs

theorem digitsValue_append (value : Nat) (xs ys : List Char) :
    digitsValue value (xs ++ ys) = digitsValue (digitsValue value xs) ys := by
  induction xs generalizing value with
  | nil => rfl
  | cons c xs ih => exact ih _

/-- The whole number that a text of ASCII digits writes; no text is empty. -/
def wholeNumber? (cs : List Char) : Option Nat :=
  if cs.isEmpty || !cs.all Char.isDigit then none else some (digitsValue 0 cs)

/-- A sign at the head of a literal (whether it is negative), and what follows. -/
def splitSign : List Char → Bool × List Char
  | '-' :: cs => (true, cs)
  | '+' :: cs => (false, cs)
  | cs => (false, cs)

/-! ## Integers -/

def maxIntegerDigits : Nat := 4300

/-- Whether an integer has more digits than a text may show of one. -/
def isLong (i : Int) : Bool :=
  maxIntegerDigits < (Nat.toDigits 10 i.natAbs).length

inductive IntegerError where
  | malformed
  | tooLong (digits : Nat)
  deriving DecidableEq, Repr

def isRunChar (c : Char) : Bool :=
  c = '_' || (Text.digitValue? c).isSome

/-- The integer that a text writes. The limit holds for the run of digits at its head, so it
is noticed before anything that follows them. -/
def integer (cs : List Char) : Except IntegerError Int :=
  let (negative, body) := splitSign (Text.trimBy Text.isSpace cs)
  match (plainDigits? false (body.takeWhile isRunChar)).bind fun ds =>
      (wholeNumber? ds).map fun n => (n, ds.length) with
  | none => .error .malformed
  | some (n, count) =>
      if maxIntegerDigits < count then .error (.tooLong count)
      else if body.all isRunChar then .ok (if negative then -(n : Int) else n)
      else .error .malformed

/-! ## Hexadecimal integers -/

def isAsciiSpace (c : Char) : Bool :=
  (9 ≤ c.toNat && c.toNat ≤ 13) || c = ' '

/-- The whole number that hexadecimal digits write, continuing from `value`; underscores
may stand between digits. `afterDigit` says whether a digit was read last. -/
def hexDigits? (afterDigit : Bool) (value : Nat) : List Char → Option Nat
  | [] => if afterDigit then some value else none
  | c :: cs =>
      match Text.hexValue? c with
      | some d => hexDigits? true (value * 16 + d) cs
      | none => if afterDigit && c = '_' then hexDigits? false value cs else none

/-- Hexadecimal digits without the mark before them; an underscore may follow the mark. -/
def afterHexMark : List Char → List Char
  | '0' :: x :: cs =>
      if x = 'x' ∨ x = 'X' then
        match cs with
        | '_' :: cs => cs
        | cs => cs
      else '0' :: x :: cs
  | cs => cs

/-- The integer that ASCII text writes in hexadecimal, with a sign, a mark or both. -/
def hexInteger? (cs : List Char) : Option Int :=
  let (negative, body) := splitSign (Text.trimBy isAsciiSpace cs)
  (hexDigits? false 0 (afterHexMark body)).map fun n => if negative then -(n : Int) else n

/-! ## Reals -/

def spanDigits (cs : List Char) : List Char × List Char :=
  (cs.takeWhile Char.isDigit, cs.dropWhile Char.isDigit)

/-- The power of ten after a mantissa: nothing, or an `e` with a signed whole number. -/
def power? : List Char → Option Int
  | [] => some 0
  | c :: cs =>
      if c = 'e' ∨ c = 'E' then
        let (negative, digits) := splitSign cs
        (wholeNumber? digits).map fun n => if negative then -(n : Int) else n
      else none

def unsignedReal? (negative : Bool) (cs : List Char) : Option Binary64 :=
  let (whole, rest) := spanDigits cs
  let (fraction, rest) :=
    match rest with
    | '.' :: rest => spanDigits rest
    | rest => ([], rest)
  if whole.isEmpty && fraction.isEmpty then none
  else
    (power? rest).map fun power =>
      .ofDecimal negative (digitsValue 0 (whole ++ fraction)) (power - fraction.length)

/-- The real that ASCII text writes; the words for infinity and for no number are read
in any case. -/
def plainReal? (cs : List Char) : Option Binary64 :=
  let (negative, body) := splitSign cs
  let word := String.ofList (body.map Char.toLower)
  if word == "inf" || word == "infinity" then some (.infinite negative)
  else if word == "nan" then some .nan
  else unsignedReal? negative body

def real? (cs : List Char) : Option Binary64 :=
  (plainDigits? false (Text.trimBy Text.isSpace cs)).bind plainReal?

end Literal
end EngineClient
