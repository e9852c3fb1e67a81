/-!
# Binary64 numbers

The numbers of the 64-bit binary format, held exactly: a sign, a mantissa and a
power of two. Every operation computes the exact result on whole numbers and then
takes the nearest number of the format, a tie going to the even mantissa.
-/

namespace EngineClient

/-- A number of the 64-bit binary format; `finite s m e` is `m * 2 ^ e`, negated when
`s` holds. A normal form has `m < 2 ^ 53` and either `2 ^ 52 ≤ m` or the least `e`. -/
inductive Binary64 where
  | nan
  | infinite (negative : Bool)
  | finite (negative : Bool) (mantissa : Nat) (exponent : Int)
  deriving DecidableEq, Repr, Inhabited

namespace Binary64

/-! ## The format -/

def minExponent : Int := -1074

def maxExponent : Int := 971

def mantissaBits : Nat := 53

def zero : Binary64 := .finite false 0 minExponent

/-! ## Rounding -/

/-- The whole number nearest to `num / den`, a tie going to the even one. -/
def roundQuotient (num den : Nat) : Nat :=
  let q := num / den
  let twice := 2 * (num % den)
  if twice < den then q
  else if den < twice then q + 1
  else q + q % 2

theorem roundQuotient_le (num den : Nat) : roundQuotient num den ≤ num / den + 1 := by
  simp only [roundQuotient]
  split
  · omega
  · split <;> omega

theorem le_roundQuotient (num den : Nat) : num / den ≤ roundQuotient num den := by
  simp only [roundQuotient]
  split
  · omega
  · split <;> omega

/-- `num / den` measured in units of `2 ^ e`, as a quotient of whole numbers. -/
def inUnits (num den : Nat) (e : Int) : Nat × Nat :=
  match e with
  | .ofNat k => (num, den * Nat.pow 2 k)
  | .negSucc k => (num * Nat.pow 2 (k + 1), den)

/-- The exponent that leaves `num / den` with a full mantissa, or the least one. -/
def exponentFor (num den : Nat) : Int :=
  let low : Int := (Nat.log2 num : Int) - (Nat.log2 den : Int) - mantissaBits
  let (n, d) := inUnits num den low
  max minExponent (if Nat.pow 2 mantissaBits ≤ n / d then low + 1 else low)

def ofRatio (negative : Bool) (num den : Nat) : Binary64 :=
  if num = 0 then .finite negative 0 minExponent
  else
    let e := exponentFor num den
    let (n, d) := inUnits num den e
    let m := roundQuotient n d
    let (m, e) :=
      if m = Nat.pow 2 mantissaBits then (Nat.pow 2 (mantissaBits - 1), e + 1) else (m, e)
    if maxExponent < e then .infinite negative else .finite negative m e

def ofInt (i : Int) : Binary64 :=
  ofRatio (i < 0) i.natAbs 1

def ofDecimal (negative : Bool) (digits : Nat) (exponent : Int) : Binary64 :=
  if digits = 0 then .finite negative 0 minExponent
  else
    let size : Int := (Nat.log2 digits : Int)
    if 400 < exponent then .infinite negative
    else if exponent < -400 - size then .finite negative 0 minExponent
    else
      match exponent with
      | .ofNat k => ofRatio negative (digits * Nat.pow 10 k) 1
      | .negSucc k => ofRatio negative digits (Nat.pow 10 (k + 1))

/-! ## Exact values -/

def toRatio? : Binary64 → Option (Int × Nat)
  | .finite negative m e =>
      let sign : Int := if negative then -1 else 1
      match e with
      | .ofNat k => some (sign * (m * Nat.pow 2 k : Nat), 1)
      | .negSucc k => some (sign * m, Nat.pow 2 (k + 1))
  | _ => none

def toInt? (x : Binary64) : Option Int :=
  match x.toRatio? with
  | some (n, d) => if n % d = 0 then some (n / d) else none
  | none => none

/-! ## Order -/

def lt : Binary64 → Binary64 → Bool
  | .nan, _ => false
  | _, .nan => false
  | .infinite a, .infinite b => a && !b
  | .infinite a, .finite .. => a
  | .finite .., .infinite b => !b
  | x@(.finite ..), y@(.finite ..) =>
      match x.toRatio?, y.toRatio? with
      | some (n, d), some (n', d') => decide (n * d' < n' * d)
      | _, _ => false

def le (x y : Binary64) : Bool :=
  match x, y with
  | .nan, _ => false
  | _, .nan => false
  | x, y => !lt y x

def isNonzero : Binary64 → Bool
  | .finite _ m _ => m != 0
  | _ => true

/-! ## Addition -/

def add : Binary64 → Binary64 → Binary64
  | .nan, _ => .nan
  | _, .nan => .nan
  | .infinite a, .infinite b => if a = b then .infinite a else .nan
  | .infinite a, .finite .. => .infinite a
  | .finite .., .infinite b => .infinite b
  | x@(.finite a m e), y@(.finite b m' e') =>
      match x.toRatio?, y.toRatio? with
      | some (n, d), some (n', d') =>
          let sum := n * d' + n' * d
          if sum = 0 then
            .finite (a && b && m == 0 && m' == 0) 0 (min minExponent (min e e'))
          else ofRatio (sum < 0) sum.natAbs (d * d')
      | _, _ => .nan

instance : Add Binary64 := ⟨add⟩

end Binary64
end EngineClient
