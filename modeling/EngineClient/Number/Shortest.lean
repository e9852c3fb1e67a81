import EngineClient.Number.Binary64
import EngineClient.Text.Digit

/-!
# Shortest decimal text

A finite number is written with the fewest digits that read back as the number, and
of those with the digits nearest to it. The digits are found on exact whole numbers:
for one digit, two digits and so on, the two neighbours of the number on that decimal
grid are tested against the interval of reals that round to it.
-/

namespace EngineClient
namespace Binary64

/-! ## The interval of a number -/

/-- The reals that round to a number, over one denominator: the lower end, the number,
the upper end, and whether the ends belong. -/
structure Interval where
  low : Nat
  value : Nat
  high : Nat
  den : Nat
  closed : Bool
  deriving Repr

/-- The interval of `m * 2 ^ e`. Below a power of two the numbers lie closer. -/
def Interval.of (m : Nat) (e : Int) : Interval :=
  let narrow := m == Nat.pow 2 (mantissaBits - 1) && decide (minExponent < e)
  let (num, den) : Nat × Nat :=
    match e with
    | .ofNat k => (Nat.pow 2 k, 4)
    | .negSucc k => (1, 4 * Nat.pow 2 (k + 1))
  { low := (4 * m - (if narrow then 1 else 2)) * num
    value := 4 * m * num
    high := (4 * m + 2) * num
    den := den
    closed := m % 2 == 0 }

/-- Whether `n * unit` lies in the interval, `unit` being `up / down`. -/
def Interval.holds (i : Interval) (n up down : Nat) : Bool :=
  let x := n * up * i.den
  let low := i.low * down
  let high := i.high * down
  if i.closed then low ≤ x && x ≤ high else low < x && x < high

/-! ## Digits -/

def leadingExponent (num den : Nat) : Int :=
  if den ≤ num then ((Nat.toDigits 10 (num / den)).length : Int) - 1
  else
    let q := (den + num - 1) / num
    Int.negOfNat (Nat.toDigits 10 (q - 1)).length

/-- The multiple of the grid `10 ^ grid` that reads back and lies nearest. -/
def nearestOn? (i : Interval) (grid : Int) : Option Nat :=
  let (up, down) : Nat × Nat :=
    match grid with
    | .ofNat k => (Nat.pow 10 k, 1)
    | .negSucc k => (1, Nat.pow 10 (k + 1))
  let below := i.value * down / (up * i.den)
  let above := below + 1
  match i.holds below up down, i.holds above up down with
  | true, false => some below
  | false, true => some above
  | false, false => none
  | true, true =>
      let under := i.value * down - below * up * i.den
      let beyond := above * up * i.den - i.value * down
      if under < beyond then some below
      else if beyond < under then some above
      else some (if below % 2 = 0 then below else above)

/-- The shortest digits with at least `digits` of them: a whole number and the power of
ten it counts. -/
def digitsFrom (i : Interval) (lead : Int) : (left : Nat) → (digits : Nat) → Nat × Int
  | 0, _ => (i.value / i.den, 0)
  | left + 1, digits =>
      let grid := lead - digits + 1
      match nearestOn? i grid with
      | some n => (n, grid)
      | none => digitsFrom i lead left (digits + 1)

def maxDigits : Nat := 17

/-- The shortest digits of `m * 2 ^ e` with `0 < m`, and the power of ten they count. -/
def shortestDigits (m : Nat) (e : Int) : Nat × Int :=
  let i := Interval.of m e
  digitsFrom i (leadingExponent i.value i.den) (maxDigits + 1) 1

/-! ## Layout -/

structure DecimalStyle where
  /-- The least exponent of the first digit that is written without a power. -/
  positionalFrom : Int
  /-- The least exponent of the first digit that is written with a power. -/
  powerFrom : Int
  /-- The least number of digits of a written power. -/
  powerDigits : Nat
  infinity : String
  notANumber : String

/-- The style of messages: a power is written from `1e+16` up and below `1e-04`. -/
def plainStyle : DecimalStyle :=
  { positionalFrom := -4
    powerFrom := 16
    powerDigits := 2
    infinity := "inf"
    notANumber := "nan" }

def withoutTrailingZeros (cs : List Char) : List Char :=
  (cs.reverse.dropWhile (· == '0')).reverse

/-- A positive number written from its digits; `lead` is the exponent of the first. -/
def writeDigits (style : DecimalStyle) (digits : List Char) (lead : Int) : List Char :=
  if style.positionalFrom ≤ lead ∧ lead < style.powerFrom then
    if lead < 0 then
      '0' :: '.' :: List.replicate (-lead - 1).toNat '0' ++ digits
    else
      let whole := lead.toNat + 1
      let front := digits.take whole ++ List.replicate (whole - digits.length) '0'
      let back := digits.drop whole
      front ++ '.' :: (if back.isEmpty then ['0'] else back)
  else
    let power := Nat.toDigits 10 lead.natAbs
    let mark := if lead < 0 then '-' else '+'
    let fraction := if digits.length ≤ 1 then [] else '.' :: digits.drop 1
    digits.take 1 ++ fraction ++
      'e' :: mark :: List.replicate (style.powerDigits - power.length) '0' ++ power

def toTextIn (style : DecimalStyle) : Binary64 → String
  | .nan => style.notANumber
  | .infinite negative => (if negative then "-" else "") ++ style.infinity
  | .finite negative m e =>
      let sign := if negative then ['-'] else []
      if m = 0 then String.ofList (sign ++ ['0', '.', '0'])
      else
        let (n, power) := shortestDigits m e
        let cs := Nat.toDigits 10 n
        let lead := power + (cs.length : Int) - 1
        String.ofList (sign ++ writeDigits style (withoutTrailingZeros cs) lead)

def toText (x : Binary64) : String :=
  toTextIn plainStyle x

end Binary64
end EngineClient
