/-!
# UTF-8

A strict decoder that says where and why it stops, and the encoder beside it. Each
first octet fixes how many continuation octets follow and the range of the first
of them, so overlong forms and surrogates are refused at their second octet.
-/

namespace EngineClient
namespace Text
namespace Utf8

/-! ## Errors -/

inductive Reason where
  /-- No character starts with this octet. -/
  | start
  /-- An octet that cannot continue the character. -/
  | continuation
  /-- The text ends inside a character. -/
  | truncated
  deriving DecidableEq, Repr

/-- What stopped a decoder: the octets of the broken character that were in order,
from their position in the input. -/
structure Malformed where
  position : Nat
  first : UInt8
  length : Nat
  reason : Reason
  deriving DecidableEq, Repr

/-! ## Decoding -/

/-- What a first octet calls for: the bits it carries, and the range of each octet
that must follow. -/
def shape? (b : Nat) : Option (Nat × List (Nat × Nat)) :=
  let tail := (0x80, 0xBF)
  if b < 0x80 then some (b, [])
  else if b < 0xC2 then none
  else if b < 0xE0 then some (b - 0xC0, [tail])
  else if b = 0xE0 then some (0, [(0xA0, 0xBF), tail])
  else if b = 0xED then some (0xD, [(0x80, 0x9F), tail])
  else if b < 0xF0 then some (b - 0xE0, [tail, tail])
  else if b = 0xF0 then some (0, [(0x90, 0xBF), tail, tail])
  else if b < 0xF4 then some (b - 0xF0, [tail, tail, tail])
  else if b = 0xF4 then some (4, [(0x80, 0x8F), tail, tail])
  else none

/-- The code point that starts with the bits `point` and continues through octets in
the given ranges; or how many octets were in order, and why the next was not. -/
def continued (point : Nat) : List (Nat × Nat) → List UInt8 → Except (Nat × Reason) Nat
  | [], _ => .ok point
  | _ :: _, [] => .error (1, .truncated)
  | r :: rs, b :: bs =>
      if r.1 ≤ b.toNat ∧ b.toNat ≤ r.2 then
        (continued (point * 64 + (b.toNat - 0x80)) rs bs).mapError
          fun e => (e.1 + 1, e.2)
      else .error (1, .continuation)

/-- The first character of a string of octets, and the number of octets it takes. -/
def first (b : UInt8) (bs : List UInt8) : Except (Nat × Reason) (Char × Nat) :=
  match shape? b.toNat with
  | none => .error (1, .start)
  | some (point, ranges) =>
      (continued point ranges bs).map fun n => (Char.ofNat n, ranges.length)

/-- Decodes octets from `position` on; `skip` octets belong to the character read
last. -/
def decodeFrom (position skip : Nat) : List UInt8 → Except Malformed (List Char)
  | [] => .ok []
  | b :: bs =>
      match skip with
      | skip + 1 => decodeFrom (position + 1) skip bs
      | 0 =>
          match first b bs with
          | .error e => .error ⟨position, b, e.1, e.2⟩
          | .ok (c, more) => (decodeFrom (position + 1) more bs).map (c :: ·)

def decode (bs : List UInt8) : Except Malformed (List Char) :=
  decodeFrom 0 0 bs

def decodeText (bs : List UInt8) : Except Malformed String :=
  (decode bs).map String.ofList

/-! ## Encoding -/

def encode (cs : List Char) : List UInt8 :=
  cs.flatMap String.utf8EncodeChar

def encodeText (s : String) : List UInt8 :=
  encode s.toList

def size (cs : List Char) : Nat :=
  (encode cs).length

end Utf8
end Text
end EngineClient
