import EngineClient.Number.Literal

/-!
# Decimal numbers

Numbers in base ten that keep every digit they were written with, so `1.50` and `1.5`
are equal but do not look alike. Beside the numbers stand two infinities and the marks
for no number, which may carry a whole number of their own. Main statements: equal
numbers order as equal, and an integer is the decimal of its own digits.
-/

namespace EngineClient

/-- A decimal number; `finite s n e` is `n * 10 ^ e`, negated when `s` holds. A `nan` that
is signalling refuses every comparison. -/
inductive Decimal where
  | nan (negative signaling : Bool) (payload : Nat)
  | infinite (negative : Bool)
  | finite (negative : Bool) (digits : Nat) (exponent : Int)
  deriving DecidableEq, Repr, Inhabited

namespace Decimal

def width (n : Nat) : Nat := (Nat.toDigits 10 n).length

/-! ## Limits -/

def maxLead : Int := 999999999999999999

def minExponent : Int := -1999999999999999997

def isRepresentable (digits : Nat) (exponent : Int) : Bool :=
  minExponent ≤ exponent && exponent + (width digits : Int) - 1 ≤ maxLead

/-! ## Reading -/

inductive ReadError where
  | malformed
  /-- Digits too far from the point on either side. -/
  | outOfRange
  deriving DecidableEq, Repr

/-- The characters of a literal: blanks at its ends and all underscores are dropped, the
digits of every script become those of ASCII. -/
def plainChars (cs : List Char) : List Char :=
  ((Text.trimBy Text.isBlank cs).filter (· != '_')).map fun c =>
    match Text.digitValue? c with
    | some d => Char.ofNat ('0'.toNat + d)
    | none => c

/-- The text after a word, which stands at the head of another in any case. -/
def afterWord? : (word : List Char) → List Char → Option (List Char)
  | [], cs => some cs
  | _ :: _, [] => none
  | w :: word, c :: cs => if c.toLower = w then afterWord? word cs else none

/-- A mark for no number: its word, then digits or nothing. -/
def readNan? (negative : Bool) (cs : List Char) : Option Decimal :=
  let marked (signaling : Bool) (rest : List Char) : Option Decimal :=
    if rest.all Char.isDigit then some (.nan negative signaling (Literal.digitsValue 0 rest))
    else none
  match afterWord? "nan".toList cs, afterWord? "snan".toList cs with
  | some rest, _ => marked false rest
  | none, some rest => marked true rest
  | none, none => none

def readUnsigned (negative : Bool) (cs : List Char) : Except ReadError Decimal :=
  let (whole, rest) := Literal.spanDigits cs
  let (fraction, rest) :=
    match rest with
    | '.' :: rest => Literal.spanDigits rest
    | rest => ([], rest)
  if whole.isEmpty && fraction.isEmpty then .error .malformed
  else
    match Literal.power? rest with
    | none => .error .malformed
    | some power =>
        let digits := Literal.digitsValue 0 (whole ++ fraction)
        let exponent := power - fraction.length
        if isRepresentable digits exponent then .ok (.finite negative digits exponent)
        else .error .outOfRange

def read (cs : List Char) : Except ReadError Decimal :=
  let (negative, body) := Literal.splitSign (plainChars cs)
  match readNan? negative body with
  | some d => .ok d
  | none =>
      if afterWord? "inf".toList body = some [] ∨ afterWord? "infinity".toList body = some [] then
        .ok (.infinite negative)
      else readUnsigned negative body

/-! ## Writing -/

/-- The mantissa of digits with the point behind the first `point` of them. -/
def placePoint (digits : List Char) (point : Int) : List Char :=
  if point ≤ 0 then '0' :: '.' :: List.replicate (-point).toNat '0' ++ digits
  else if (digits.length : Int) ≤ point then
    digits ++ List.replicate (point.toNat - digits.length) '0'
  else digits.take point.toNat ++ '.' :: digits.drop point.toNat

/-- The text of a finite number without its sign: every digit is kept, and a power is
written if the exponent is positive or more than five zeros would follow the point. -/
def magnitudeChars (digits : Nat) (exponent : Int) : List Char :=
  let cs := Nat.toDigits 10 digits
  let left := exponent + (cs.length : Int)
  if exponent ≤ 0 ∧ -6 < left then placePoint cs left
  else
    let power := left - 1
    let mark :=
      if power = 0 then []
      else 'E' :: (if power < 0 then '-' else '+') :: Nat.toDigits 10 power.natAbs
    placePoint cs 1 ++ mark

def toText : Decimal → String
  | .nan negative signaling payload =>
      (if negative then "-" else "") ++ (if signaling then "sNaN" else "NaN") ++
        (if payload = 0 then "" else Text.decimal payload)
  | .infinite negative => (if negative then "-" else "") ++ "Infinity"
  | .finite negative digits exponent =>
      (if negative then "-" else "") ++ String.ofList (magnitudeChars digits exponent)

/-! ## Other numbers as decimals -/

def ofInt (i : Int) : Decimal :=
  .finite (decide (i < 0)) i.natAbs 0

def ofBinary64 : Binary64 → Decimal
  | .nan => .nan false false 0
  | .infinite negative => .infinite negative
  | .finite negative m (.ofNat k) => .finite negative (m * Nat.pow 2 k) 0
  | .finite negative m (.negSucc k) =>
      .finite negative (m * Nat.pow 5 (k + 1)) (.negSucc k)

/-! ## Order -/

def isZero : Decimal → Bool
  | .finite _ digits _ => digits == 0
  | _ => false

def isNan : Decimal → Bool
  | .nan .. => true
  | _ => false

/-- The order of two positive numbers. The numbers of their digits before the point decide
first, so that only digits of like places are ever lined up. -/
def magnitudeOrder (n : Nat) (e : Int) (n' : Nat) (e' : Int) : Ordering :=
  match compare (e + width n) (e' + width n') with
  | .eq =>
      let low := min e e'
      compare (n * Nat.pow 10 (e - low).toNat) (n' * Nat.pow 10 (e' - low).toNat)
  | o => o

/-- The order of two numbers; a mark for no number has none. -/
def order? : Decimal → Decimal → Option Ordering
  | .nan .., _ => none
  | _, .nan .. => none
  | .infinite a, .infinite b => some (compare b.toNat a.toNat)
  | .infinite a, .finite .. => some (if a then .lt else .gt)
  | .finite .., .infinite b => some (if b then .gt else .lt)
  | .finite a n e, .finite b n' e' =>
      if n = 0 ∧ n' = 0 then some .eq
      else if n = 0 then some (if b then .gt else .lt)
      else if n' = 0 then some (if a then .lt else .gt)
      else
        match a, b with
        | false, false => some (magnitudeOrder n e n' e')
        | true, true => some (magnitudeOrder n' e' n e)
        | true, false => some .lt
        | false, true => some .gt

theorem magnitudeOrder_self (n : Nat) (e : Int) : magnitudeOrder n e n e = .eq := by
  simp [magnitudeOrder]

theorem order?_self {d : Decimal} (h : d.isNan = false) : d.order? d = some .eq := by
  cases d with
  | nan => simp [isNan] at h
  | infinite a => simp [order?]
  | finite a n e => cases a <;> by_cases hn : n = 0 <;> simp [order?, hn, magnitudeOrder_self]

end Decimal
end EngineClient
