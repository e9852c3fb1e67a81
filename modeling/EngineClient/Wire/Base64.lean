/-!
# Base 64

Three octets are written as four characters of six bits each. A reader skips every
character outside the alphabet and stops at the padding that completes a group.
-/

namespace EngineClient
namespace Wire
namespace Base64

/-! ## Alphabet -/

def digit (n : Nat) : Char :=
  if n < 26 then Char.ofNat ('A'.toNat + n)
  else if n < 52 then Char.ofNat ('a'.toNat + (n - 26))
  else if n < 62 then Char.ofNat ('0'.toNat + (n - 52))
  else if n = 62 then '+'
  else '/'

def value? (c : Char) : Option Nat :=
  if 'A' ≤ c ∧ c ≤ 'Z' then some (c.toNat - 'A'.toNat)
  else if 'a' ≤ c ∧ c ≤ 'z' then some (c.toNat - 'a'.toNat + 26)
  else if '0' ≤ c ∧ c ≤ '9' then some (c.toNat - '0'.toNat + 52)
  else if c = '+' then some 62
  else if c = '/' then some 63
  else none

/-! ## Writing -/

def groups : List UInt8 → List Char
  | a :: b :: c :: bs =>
      let n := a.toNat * 65536 + b.toNat * 256 + c.toNat
      digit (n / 262144) :: digit (n / 4096 % 64) :: digit (n / 64 % 64) :: digit (n % 64) ::
        groups bs
  | [a, b] =>
      let n := a.toNat * 256 + b.toNat
      [digit (n / 1024), digit (n / 16 % 64), digit (n % 16 * 4), '=']
  | [a] => [digit (a.toNat / 4), digit (a.toNat % 4 * 16), '=', '=']
  | [] => []

def lineOctets : Nat := 57

/-- Lines of at most `lineOctets` octets each; `budget` bounds their number. -/
def linesOf : (budget : Nat) → List UInt8 → List Char
  | 0, _ => []
  | _, [] => []
  | budget + 1, bs =>
      groups (bs.take lineOctets) ++ '\n' :: linesOf budget (bs.drop lineOctets)

def encode (bs : List UInt8) : List Char :=
  linesOf bs.length bs

/-! ## Reading -/

inductive Error where
  | padding
  /-- So many digits, one more than full groups have. -/
  | count (digits : Nat)
  deriving DecidableEq, Repr

/-- The digits of a text up to its padding, and whether the padding was there. `place`
counts the digits of the open group, `pads` the padding characters since the last one. -/
def digits (place pads : Nat) : List Char → List Nat × Bool
  | [] => ([], false)
  | c :: cs =>
      if c = '=' then
        if place < 2 then digits place pads cs
        else if 4 ≤ place + pads + 1 then ([], true)
        else digits place (pads + 1) cs
      else
        match value? c with
        | none => digits place pads cs
        | some d =>
            let (ds, padded) := digits ((place + 1) % 4) 0 cs
            (d :: ds, padded)

/-- The octets that digits carry; what the last group lacks for an octet is dropped. -/
def octets : List Nat → List UInt8
  | a :: b :: c :: d :: ds =>
      .ofNat (a * 4 + b / 16) :: .ofNat (b % 16 * 16 + c / 4) :: .ofNat (c % 4 * 64 + d) ::
        octets ds
  | [a, b, c] => [.ofNat (a * 4 + b / 16), .ofNat (b % 16 * 16 + c / 4)]
  | [a, b] => [.ofNat (a * 4 + b / 16)]
  | _ => []

def decode (cs : List Char) : Except Error (List UInt8) :=
  let (ds, padded) := digits 0 0 cs
  if padded || ds.length % 4 = 0 then .ok (octets ds)
  else if ds.length % 4 = 1 then .error (.count ds.length)
  else .error .padding

end Base64
end Wire
end EngineClient
