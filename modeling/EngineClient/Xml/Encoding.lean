import EngineClient.Text.Utf8
import EngineClient.Xml.Glyph

/-!
# Encodings

How the octets of a document stand for its characters: in UTF-8, in units of two octets,
or one octet a character, by a table. A document says by its first octets which of the
first two it is in.
-/

namespace EngineClient
namespace Xml

inductive Encoding where
  | utf8
  | ascii
  | latin1
  /-- Units of two octets, the greater half first or last. -/
  | utf16 (greaterFirst : Bool)
  /-- The characters of the 256 octets, as far as they have one. -/
  | table (characters : Array (Option Char))
  deriving DecidableEq, Repr

namespace Encoding

def least : Encoding → Nat
  | .utf16 _ => 2
  | _ => 1

/-! ## UTF-8 -/

def length (b : UInt8) : Nat :=
  if b < 0xC0 then 1 else if b < 0xE0 then 2 else if b < 0xF0 then 3
  else if b < 0xF5 then 4 else 1

/-- What an octet stands for, before others, and how many of those belong to it. -/
def signUtf8 (b : UInt8) (bs : List UInt8) : Sign × Nat :=
  match Text.Utf8.first b bs with
  | .ok (c, more) =>
      if isChar c then (.char c (if more = 0 then .narrow else .wide), more)
      else (if more = 0 then .alien else .broken, 0)
  | .error _ =>
      if length b = 1 then (.alien, 0)
      else if (bs.take (length b - 1)).length < length b - 1 then (.cut, 0)
      else (.broken, 0)

/-- Decodes UTF-8 from an offset on; `skip` octets belong to the glyph read last. -/
def decodeUtf8 (read : List Glyph) (offset skip : Nat) : List UInt8 → List Glyph
  | [] => read.reverse
  | b :: bs =>
      match skip with
      | skip + 1 => decodeUtf8 read (offset + 1) skip bs
      | 0 =>
          let (sign, more) := signUtf8 b bs
          decodeUtf8 (⟨sign, offset⟩ :: read) (offset + 1) more bs

/-! ## Units of two octets -/

def isLead (n : Nat) : Bool :=
  0xD800 ≤ n && n < 0xDC00

/-- The character of a pair of units; of the second one only the lower bits count. -/
def pairChar (n m : Nat) : Char :=
  Char.ofNat (0x10000 + n % 1024 * 1024 + m % 1024)

def signUnit (n : Nat) : Sign :=
  let c := Char.ofNat n
  if 0xDC00 ≤ n && n < 0xE000 then .alien
  else if isChar c then .char c (if n < 128 then .narrow else if n < 256 then .latin else .wide)
  else .alien

/-- Decodes units of two octets from an offset on; an octet that is left is no glyph. -/
def decodeUnits (greaterFirst : Bool) (read : List Glyph) (offset : Nat) :
    List UInt8 → List Glyph
  | a :: b :: c :: d :: bs =>
      let unit (x y : UInt8) : Nat :=
        if greaterFirst then x.toNat * 256 + y.toNat else y.toNat * 256 + x.toNat
      if isLead (unit a b) then
        decodeUnits greaterFirst
          (⟨.char (pairChar (unit a b) (unit c d)) .wide, offset⟩ :: read) (offset + 4) bs
      else
        decodeUnits greaterFirst (⟨signUnit (unit a b), offset⟩ :: read) (offset + 2)
          (c :: d :: bs)
  | a :: b :: _ =>
      let n := if greaterFirst then a.toNat * 256 + b.toNat else b.toNat * 256 + a.toNat
      (⟨if isLead n then .cut else signUnit n, offset⟩ :: read).reverse
  | _ => read.reverse

/-! ## One octet a character -/

def signOctet (e : Encoding) (b : UInt8) : Sign :=
  let narrow (c : Char) (form : Form) : Sign := if isChar c then .char c form else .alien
  match e with
  | .latin1 => narrow (Char.ofNat b.toNat) .latin
  | .table characters =>
      match characters[b.toNat]?.join with
      | some c => narrow c .narrow
      | none => .alien
  | _ => if b < 128 then narrow (Char.ofNat b.toNat) .narrow else .alien

def decodeOctets (e : Encoding) (read : List Glyph) (offset : Nat) : List UInt8 → List Glyph
  | [] => read.reverse
  | b :: bs => decodeOctets e (⟨signOctet e b, offset⟩ :: read) (offset + 1) bs

/-! ## Decoding -/

def decode (e : Encoding) (offset : Nat) (bs : List UInt8) : List Glyph :=
  match e with
  | .utf8 => decodeUtf8 [] offset 0 bs
  | .utf16 greaterFirst => decodeUnits greaterFirst [] offset bs
  | e => decodeOctets e [] offset bs

/-! ## Detection -/

/-- The encoding that the first octets of a document show, and how many of them are a mark
and not text; nothing if more octets must be seen. -/
def detect? : List UInt8 → Option (Encoding × Nat)
  | [b] => if b = 0xFE ∨ b = 0xFF ∨ b = 0xEF ∨ b = 0x00 ∨ b = 0x3C then none else some (.utf8, 0)
  | 0xFE :: 0xFF :: _ => some (.utf16 true, 2)
  | 0xFF :: 0xFE :: _ => some (.utf16 false, 2)
  | [0xEF, 0xBB] => none
  | 0xEF :: 0xBB :: 0xBF :: _ => some (.utf8, 3)
  | 0x00 :: _ :: _ => some (.utf16 true, 0)
  | _ :: 0x00 :: _ => some (.utf16 false, 0)
  | _ => some (.utf8, 0)

end Encoding
end Xml
end EngineClient
