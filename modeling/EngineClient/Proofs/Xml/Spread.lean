import EngineClient.Proofs.Text.Utf8
import EngineClient.Xml.Encoding

/-!
# The glyphs of a text in UTF-8

What is written in UTF-8 is read as the same characters, each of them one glyph behind the
octets of those before it. Main statement: `decodeUtf8_encode`.
-/

namespace EngineClient

/-!
## Glyphs
-/

namespace Xml

open Text.Utf8

def glyphAt (offset : Nat) (c : Char) : Glyph :=
  ⟨.char c (if c.toNat < 128 then .narrow else .wide), offset⟩

/-- The glyphs of characters, the first of them behind `offset` octets. -/
def spread (offset : Nat) : List Char → List Glyph
  | [] => []
  | c :: cs => glyphAt offset c :: spread (offset + c.utf8Size) cs

@[simp] theorem length_spread (offset : Nat) (cs : List Char) :
    (spread offset cs).length = cs.length := by
  induction cs generalizing offset with
  | nil => rfl
  | cons c cs ih => rw [spread, List.length_cons, ih, List.length_cons]

theorem decodeUtf8_skip (read : List Glyph) (offset : Nat) (bs rest : List UInt8) :
    Encoding.decodeUtf8 read offset bs.length (bs ++ rest) =
      Encoding.decodeUtf8 read (offset + bs.length) 0 rest := by
  induction bs generalizing offset with
  | nil => rfl
  | cons b bs ih =>
      rw [List.length_cons, List.cons_append, Encoding.decodeUtf8, ih]
      congr 1
      omega

theorem form_of_encode {c : Char} {b : UInt8} {bs : List UInt8}
    (h : String.utf8EncodeChar c = b :: bs) :
    (if bs.length = 0 then Form.narrow else .wide) =
      if c.toNat < 128 then Form.narrow else .wide := by
  have hlength : (b :: bs).length = c.utf8Size := by
    rw [← h, String.length_utf8EncodeChar]
  have hone : bs.length = 0 ↔ c.toNat < 128 := by
    rw [List.length_cons] at hlength
    have hsize : c.utf8Size = 1 ↔ c.toNat ≤ 127 := Char.utf8Size_eq_one_iff
    omega
  simp only [hone]

theorem decodeUtf8_encode {cs : List Char} (h : forall c, c ∈ cs -> isChar c = true)
    (read : List Glyph) (offset : Nat) :
    Encoding.decodeUtf8 read offset 0 (encode cs) = read.reverse ++ spread offset cs := by
  induction cs generalizing read offset with
  | nil => exact (List.append_nil _).symm
  | cons c cs ih =>
      rcases first_encode c with ⟨b, bs, hencode, hfirst⟩
      have hsign : Encoding.signUtf8 b (bs ++ encode cs) =
          ((glyphAt offset c).sign, bs.length) := by
        unfold Encoding.signUtf8
        rw [hfirst]
        simp only [h c List.mem_cons_self, if_true, glyphAt, form_of_encode hencode]
      have hsize : bs.length + 1 = c.utf8Size := by
        rw [← String.length_utf8EncodeChar, hencode, List.length_cons]
      unfold encode
      rw [List.flatMap_cons, hencode, List.cons_append]
      change Encoding.decodeUtf8 read offset 0 (b :: (bs ++ encode cs)) = _
      rw [Encoding.decodeUtf8, hsign]
      dsimp only
      rw [decodeUtf8_skip, ih fun d hd => h d (List.mem_cons_of_mem _ hd)]
      rw [List.reverse_cons, List.append_assoc, spread, ← hsize, Nat.add_assoc,
        Nat.add_comm 1]
      rfl

end Xml
end EngineClient
