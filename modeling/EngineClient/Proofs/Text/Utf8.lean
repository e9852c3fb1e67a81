import EngineClient.Text.Utf8

/-!
# Texts written in UTF-8

A decoder reads back what was written, character by character. Main statements: `first_encode`
and `decode_encode`.
-/

namespace EngineClient
namespace Text
namespace Utf8

/-!
## One character
-/

theorem continued_cons {point b : Nat} {r : Nat × Nat} {rs : List (Nat × Nat)}
    {bs : List UInt8} {n : Nat} (hb : b < 256) (hr : r.1 ≤ b ∧ b ≤ r.2)
    (h : continued (point * 64 + (b - 0x80)) rs bs = .ok n) :
    continued point (r :: rs) (UInt8.ofNat b :: bs) = .ok n := by
  have hoctet : (UInt8.ofNat b).toNat = b := by
    simp [Nat.mod_eq_of_lt hb]
  rw [continued, hoctet, if_pos hr, h]
  rfl

theorem first_of_shape {b point n : Nat} {ranges : List (Nat × Nat)} {bs : List UInt8}
    (hb : b < 256) (hshape : shape? b = some (point, ranges))
    (h : continued point ranges bs = .ok n) :
    first (UInt8.ofNat b) bs = .ok (Char.ofNat n, ranges.length) := by
  have hoctet : (UInt8.ofNat b).toNat = b := by
    simp [Nat.mod_eq_of_lt hb]
  rw [first, hoctet, hshape]
  simp only [h]
  rfl

theorem first_two {n : Nat} (hlow : 0x7F < n) (hhigh : n ≤ 0x7FF) (rest : List UInt8) :
    first (UInt8.ofNat (n / 64 % 32 + 192)) (UInt8.ofNat (n % 64 + 128) :: rest) =
      .ok (Char.ofNat n, 1) := by
  have hpoint : n / 64 % 32 + 192 - 0xC0 = n / 64 := by omega
  have hshape : shape? (n / 64 % 32 + 192) = some (n / 64, [(0x80, 0xBF)]) := by
    unfold shape?
    rw [if_neg (by omega), if_neg (by omega), if_pos (by omega), hpoint]
  have hlast : n / 64 * 64 + (n % 64 + 128 - 0x80) = n := by omega
  apply first_of_shape (by omega) hshape
  apply continued_cons (by omega) ⟨by omega, by omega⟩
  rw [hlast, continued]

theorem shape?_three {n : Nat} (hlow : 0x7FF < n) (hhigh : n ≤ 0xFFFF) :
    exists r, shape? (n / 4096 % 16 + 224) = some (n / 4096, [r, (0x80, 0xBF)]) ∧
      (r = (0xA0, 0xBF) ∧ n < 0x1000 ∨ r = (0x80, 0x9F) ∧ 0xD000 ≤ n ∧ n < 0xE000 ∨
        r = (0x80, 0xBF)) := by
  have hpoint : n / 4096 % 16 + 224 - 0xE0 = n / 4096 := by omega
  unfold shape?
  rw [if_neg (by omega), if_neg (by omega), if_neg (by omega)]
  by_cases hfirst : n / 4096 % 16 + 224 = 0xE0
  · have hzero : n / 4096 = 0 := by omega
    rw [if_pos hfirst, hzero]
    exact ⟨_, rfl, Or.inl ⟨rfl, by omega⟩⟩
  · rw [if_neg hfirst]
    by_cases hlast : n / 4096 % 16 + 224 = 0xED
    · have hd : n / 4096 = 0xD := by omega
      rw [if_pos hlast, hd]
      exact ⟨_, rfl, Or.inr (Or.inl ⟨rfl, by omega, by omega⟩)⟩
    · rw [if_neg hlast, if_pos (by omega), hpoint]
      exact ⟨_, rfl, Or.inr (Or.inr rfl)⟩

theorem first_three {n : Nat} (hlow : 0x7FF < n) (hhigh : n ≤ 0xFFFF)
    (hvalid : n < 0xD800 ∨ 0xDFFF < n) (rest : List UInt8) :
    first (UInt8.ofNat (n / 4096 % 16 + 224))
        (UInt8.ofNat (n / 64 % 64 + 128) :: UInt8.ofNat (n % 64 + 128) :: rest) =
      .ok (Char.ofNat n, 2) := by
  rcases shape?_three hlow hhigh with ⟨r, hshape, hr⟩
  have hsecond : r.1 ≤ n / 64 % 64 + 128 ∧ n / 64 % 64 + 128 ≤ r.2 := by
    rcases hr with ⟨rfl, _⟩ | ⟨rfl, _, _⟩ | rfl
    · exact ⟨by omega, by omega⟩
    · exact ⟨by omega, by omega⟩
    · exact ⟨by omega, by omega⟩
  have hlast :
      (n / 4096 * 64 + (n / 64 % 64 + 128 - 0x80)) * 64 + (n % 64 + 128 - 0x80) = n := by
    omega
  apply first_of_shape (by omega) hshape
  apply continued_cons (by omega) hsecond
  apply continued_cons (by omega) ⟨by omega, by omega⟩
  rw [hlast, continued]

theorem shape?_four {n : Nat} (hlow : 0xFFFF < n) (hhigh : n < 0x110000) :
    exists r, shape? (n / 262144 % 8 + 240) = some (n / 262144, [r, (0x80, 0xBF), (0x80, 0xBF)]) ∧
      (r = (0x90, 0xBF) ∧ n < 0x40000 ∨ r = (0x80, 0x8F) ∧ 0x100000 ≤ n ∨ r = (0x80, 0xBF)) := by
  have hpoint : n / 262144 % 8 + 240 - 0xF0 = n / 262144 := by omega
  unfold shape?
  rw [if_neg (by omega), if_neg (by omega), if_neg (by omega), if_neg (by omega),
    if_neg (by omega), if_neg (by omega)]
  by_cases hfirst : n / 262144 % 8 + 240 = 0xF0
  · have hzero : n / 262144 = 0 := by omega
    rw [if_pos hfirst, hzero]
    exact ⟨_, rfl, Or.inl ⟨rfl, by omega⟩⟩
  · rw [if_neg hfirst]
    by_cases hlast : n / 262144 % 8 + 240 < 0xF4
    · rw [if_pos hlast, hpoint]
      exact ⟨_, rfl, Or.inr (Or.inr rfl)⟩
    · have hfour : n / 262144 = 4 := by omega
      rw [if_neg hlast, if_pos (by omega), hfour]
      exact ⟨_, rfl, Or.inr (Or.inl ⟨rfl, by omega⟩)⟩

theorem first_four {n : Nat} (hlow : 0xFFFF < n) (hhigh : n < 0x110000) (rest : List UInt8) :
    first (UInt8.ofNat (n / 262144 % 8 + 240))
        (UInt8.ofNat (n / 4096 % 64 + 128) :: UInt8.ofNat (n / 64 % 64 + 128) ::
          UInt8.ofNat (n % 64 + 128) :: rest) =
      .ok (Char.ofNat n, 3) := by
  rcases shape?_four hlow hhigh with ⟨r, hshape, hr⟩
  have hsecond : r.1 ≤ n / 4096 % 64 + 128 ∧ n / 4096 % 64 + 128 ≤ r.2 := by
    rcases hr with ⟨rfl, _⟩ | ⟨rfl, _⟩ | rfl
    · exact ⟨by omega, by omega⟩
    · exact ⟨by omega, by omega⟩
    · exact ⟨by omega, by omega⟩
  have hlast :
      ((n / 262144 * 64 + (n / 4096 % 64 + 128 - 0x80)) * 64 + (n / 64 % 64 + 128 - 0x80)) * 64 +
        (n % 64 + 128 - 0x80) = n := by
    omega
  apply first_of_shape (by omega) hshape
  apply continued_cons (by omega) hsecond
  apply continued_cons (by omega) ⟨by omega, by omega⟩
  apply continued_cons (by omega) ⟨by omega, by omega⟩
  rw [hlast, continued]

theorem first_encode (c : Char) :
    exists b bs, String.utf8EncodeChar c = b :: bs ∧
      forall rest, first b (bs ++ rest) = .ok (c, bs.length) := by
  have hvalid : c.toNat < 0xD800 ∨ 0xDFFF < c.toNat ∧ c.toNat < 0x110000 := c.valid
  have hback : Char.ofNat c.toNat = c := Char.ofNat_toNat c
  unfold String.utf8EncodeChar
  dsimp only
  rw [show c.val.toNat = c.toNat from rfl]
  by_cases hone : c.toNat ≤ 127
  · rw [if_pos hone]
    refine ⟨_, _, rfl, ?_⟩
    intro rest
    have hshape : shape? c.toNat = some (c.toNat, []) := by
      unfold shape?
      rw [if_pos (by omega)]
    have hfirst : first (UInt8.ofNat c.toNat) rest = _ := first_of_shape (by omega) hshape rfl
    rw [hback] at hfirst
    exact hfirst
  rw [if_neg hone]
  by_cases htwo : c.toNat ≤ 2047
  · rw [if_pos htwo]
    refine ⟨_, _, rfl, ?_⟩
    intro rest
    have hfirst := first_two (by omega) htwo rest
    rw [hback] at hfirst
    exact hfirst
  rw [if_neg htwo]
  by_cases hthree : c.toNat ≤ 65535
  · rw [if_pos hthree]
    refine ⟨_, _, rfl, ?_⟩
    intro rest
    have hfirst := first_three (by omega) hthree (by omega) rest
    rw [hback] at hfirst
    exact hfirst
  · rw [if_neg hthree]
    refine ⟨_, _, rfl, ?_⟩
    intro rest
    have hfirst := first_four (n := c.toNat) (by omega) (by omega) rest
    rw [hback] at hfirst
    exact hfirst

/-!
## Texts
-/

theorem size_cons (c : Char) (cs : List Char) : size (c :: cs) = c.utf8Size + size cs := by
  unfold size encode
  rw [List.flatMap_cons, List.length_append, String.length_utf8EncodeChar]

theorem encode_append (cs ds : List Char) : encode (cs ++ ds) = encode cs ++ encode ds :=
  List.flatMap_append

theorem size_append (cs ds : List Char) : size (cs ++ ds) = size cs + size ds := by
  unfold size
  rw [encode_append, List.length_append]

theorem decodeFrom_skip (position : Nat) (bs rest : List UInt8) :
    decodeFrom position bs.length (bs ++ rest) = decodeFrom (position + bs.length) 0 rest := by
  induction bs generalizing position with
  | nil => rfl
  | cons b bs ih =>
      rw [List.length_cons, List.cons_append, decodeFrom, ih]
      congr 1
      omega

theorem decodeFrom_encode (position : Nat) (cs : List Char) :
    decodeFrom position 0 (encode cs) = .ok cs := by
  induction cs generalizing position with
  | nil => rfl
  | cons c cs ih =>
      rcases first_encode c with ⟨b, bs, hencode, hfirst⟩
      unfold encode
      rw [List.flatMap_cons, hencode, List.cons_append]
      change decodeFrom position 0 (b :: (bs ++ encode cs)) = _
      rw [decodeFrom, hfirst]
      dsimp only
      rw [decodeFrom_skip, ih]
      rfl

theorem decode_encode (cs : List Char) : decode (encode cs) = .ok cs :=
  decodeFrom_encode 0 cs

end Utf8
end Text
end EngineClient
