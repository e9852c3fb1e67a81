import EngineClient.Json.Read
import EngineClient.Json.Render
import Mathlib.Data.List.Basic

/-!
# Strings in JSON

A string is written in printable ASCII and read as the characters that it was, those outside the
basic plane from the two units that stand for them. Main statement: `readString?_escaped`.
-/

namespace EngineClient

namespace Text

theorem hexValue?_hexDigit {d : Nat} (h : d < 16) : hexValue? (hexDigit d) = some d := by
  have hall : forall e : Fin 16, hexValue? (hexDigit e) = some e.val := by
    decide
  exact hall ⟨d, h⟩

theorem hexPadded_four (n : Nat) :
    hexPadded 4 n =
      [hexDigit (n / 16 / 16 / 16 % 16), hexDigit (n / 16 / 16 % 16), hexDigit (n / 16 % 16),
        hexDigit (n % 16)] :=
  rfl

end Text

namespace Json

/-!
## Printable characters
-/

def IsPlain (c : Char) : Prop :=
  0x20 ≤ c.toNat ∧ c.toNat < 0x7F

instance (c : Char) : Decidable (IsPlain c) :=
  inferInstanceAs (Decidable (_ ∧ _))

theorem isPlain_of_all {cs : List Char} (h : cs.all (fun c => decide (IsPlain c)) = true) :
    forall c, c ∈ cs -> IsPlain c := by
  intro c hc
  exact of_decide_eq_true (List.all_eq_true.mp h c hc)

theorem isPlain_hexDigit (n : Nat) : IsPlain (Text.hexDigit (n % 16)) := by
  have hall : forall d : Fin 16, IsPlain (Text.hexDigit d) := by
    decide
  exact hall ⟨n % 16, Nat.mod_lt n (by decide)⟩

theorem isPlain_unitEscape {n : Nat} {d : Char} (h : d ∈ unitEscape n) : IsPlain d := by
  rw [unitEscape, Text.hexPadded_four] at h
  simp only [List.mem_cons, List.not_mem_nil, or_false] at h
  rcases h with rfl | rfl | rfl | rfl | rfl | rfl
  · decide
  · decide
  · exact isPlain_hexDigit _
  · exact isPlain_hexDigit _
  · exact isPlain_hexDigit _
  · exact isPlain_hexDigit _

theorem isPlain_escapeChar {c d : Char} (h : d ∈ escapeChar c) : IsPlain d := by
  have hpair : forall e, d ∈ ['\\', e] -> IsPlain e -> IsPlain d := by
    intro e hmem he
    simp only [List.mem_cons, List.not_mem_nil, or_false] at hmem
    rcases hmem with rfl | rfl
    · decide
    · exact he
  unfold escapeChar at h
  split at h
  · exact hpair _ h (by decide)
  split at h
  · exact hpair _ h (by decide)
  split at h
  · exact hpair _ h (by decide)
  split at h
  · exact hpair _ h (by decide)
  split at h
  · exact hpair _ h (by decide)
  split at h
  · exact hpair _ h (by decide)
  split at h
  · exact hpair _ h (by decide)
  split at h
  · rename_i hplain
    rw [List.mem_singleton.mp h]
    exact hplain
  split at h
  · exact isPlain_unitEscape h
  · rcases List.mem_append.mp h with h | h
    · exact isPlain_unitEscape h
    · exact isPlain_unitEscape h

theorem isPlain_stringChars {cs : List Char} {d : Char} (h : d ∈ stringChars cs) : IsPlain d := by
  rw [stringChars, List.cons_append] at h
  rcases List.mem_cons.mp h with rfl | h
  · decide
  · rcases List.mem_append.mp h with h | h
    · rcases List.mem_flatMap.mp h with ⟨c, _, hc⟩
      exact isPlain_escapeChar hc
    · rw [List.mem_singleton.mp h]
      decide

/-!
## Units
-/

theorem readUnit?_hexPadded {n : Nat} (h : n < 0x10000) (rest : List Char) :
    readUnit? (Text.hexPadded 4 n ++ rest) = some (n, rest) := by
  have hmod : forall m, m % 16 < 16 := fun m => Nat.mod_lt m (by decide)
  have hsum :
      ((n / 16 / 16 / 16 % 16 * 16 + n / 16 / 16 % 16) * 16 + n / 16 % 16) * 16 + n % 16 = n := by
    omega
  rw [Text.hexPadded_four]
  simp only [List.cons_append, List.nil_append, readUnit?, Text.hexValue?_hexDigit (hmod _),
    Option.bind_eq_bind, Option.bind_some, Option.pure_def, hsum]

theorem readEscape?_unit {c : Char} (h : c.toNat < 0x10000) (rest : List Char) :
    readEscape? ('u' :: Text.hexPadded 4 c.toNat ++ rest) = some (c, rest) := by
  have hvalid : c.toNat < 0xD800 ∨ 0xDFFF < c.toNat ∧ c.toNat < 0x110000 := c.valid
  have hhigh : ¬ (0xD800 ≤ c.toNat ∧ c.toNat < 0xDC00) := by
    omega
  have hlow : ¬ (0xDC00 ≤ c.toNat ∧ c.toNat < 0xE000) := by
    omega
  rw [List.cons_append, readEscape?, readUnit?_hexPadded h]
  simp only [Option.bind_eq_bind, Option.bind_some, hhigh, hlow, if_false, Option.pure_def,
    Char.ofNat_toNat]

theorem readEscape?_pair {high low : Nat} (hhigh : 0xD800 ≤ high ∧ high < 0xDC00)
    (hlow : 0xDC00 ≤ low ∧ low < 0xE000) (rest : List Char) :
    readEscape? ('u' :: Text.hexPadded 4 high ++ (unitEscape low ++ rest)) =
      some (Char.ofNat (0x10000 + (high - 0xD800) * 0x400 + (low - 0xDC00)), rest) := by
  have hfirst : high < 0x10000 := by
    omega
  have hsecond : low < 0x10000 := by
    omega
  have hafter : after? ['\\', 'u'] (unitEscape low ++ rest) =
      some (Text.hexPadded 4 low ++ rest) := by
    simp [unitEscape, after?]
  rw [List.cons_append, readEscape?, readUnit?_hexPadded hfirst]
  simp only [Option.bind_eq_bind, Option.bind_some, hhigh, and_self, if_true, hafter,
    readUnit?_hexPadded hsecond, hlow, Option.pure_def]

theorem readEscape?_units {c : Char} (h : 0x10000 ≤ c.toNat) (rest : List Char) :
    readEscape?
        ('u' :: Text.hexPadded 4 (0xD800 + (c.toNat - 0x10000) / 0x400) ++
          (unitEscape (0xDC00 + (c.toNat - 0x10000) % 0x400) ++ rest)) =
      some (c, rest) := by
  have hvalid : c.toNat < 0xD800 ∨ 0xDFFF < c.toNat ∧ c.toNat < 0x110000 := c.valid
  have hback : forall n, 0x10000 ≤ n ->
      0x10000 + (0xD800 + (n - 0x10000) / 0x400 - 0xD800) * 0x400 +
        (0xDC00 + (n - 0x10000) % 0x400 - 0xDC00) = n := by
    omega
  rw [readEscape?_pair (by omega) (by omega), hback c.toNat h, Char.ofNat_toNat]

/-!
## Texts
-/

theorem readString?_of_readEscape? {cs tail : List Char} {c : Char}
    (h : readEscape? cs = some (c, tail)) (budget : Nat) :
    readString? (budget + 1) ('\\' :: cs) =
      (readString? budget tail).map fun r => (c :: r.1, r.2) := by
  rw [readString?, if_neg (by decide), if_pos rfl, h]
  simp only [Option.bind_eq_bind, Option.bind_some]
  cases readString? budget tail <;> rfl

theorem readString?_escapeChar (c : Char) (rest : List Char) (budget : Nat) :
    readString? (budget + 1) (escapeChar c ++ rest) =
      (readString? budget rest).map fun r => (c :: r.1, r.2) := by
  unfold escapeChar
  split
  · rename_i hc
    rw [hc]
    exact readString?_of_readEscape? rfl budget
  rename_i hquote
  split
  · rename_i hc
    rw [hc]
    exact readString?_of_readEscape? rfl budget
  rename_i hslash
  split
  · rename_i hc
    rw [hc]
    exact readString?_of_readEscape? rfl budget
  split
  · rename_i hc
    rw [hc]
    exact readString?_of_readEscape? rfl budget
  split
  · rename_i hc
    rw [hc]
    exact readString?_of_readEscape? rfl budget
  split
  · rename_i hc
    rw [← Char.ofNat_toNat c, hc]
    exact readString?_of_readEscape? rfl budget
  split
  · rename_i hc
    rw [← Char.ofNat_toNat c, hc]
    exact readString?_of_readEscape? rfl budget
  split
  · rw [List.singleton_append, readString?, if_neg hquote, if_neg hslash]
    cases readString? budget rest <;> rfl
  split
  · rename_i hbasic
    exact readString?_of_readEscape? (readEscape?_unit hbasic rest) budget
  · rename_i hbasic
    have hunits := readEscape?_units (Nat.le_of_not_lt hbasic) rest
    rw [← List.append_assoc] at hunits
    exact readString?_of_readEscape? hunits budget

theorem readString?_escaped (cs rest : List Char) {budget : Nat} (h : cs.length < budget) :
    readString? budget (cs.flatMap escapeChar ++ '"' :: rest) = some (cs, rest) := by
  induction cs generalizing budget with
  | nil =>
      cases budget with
      | zero => cases h
      | succ budget => rfl
  | cons c cs ih =>
      cases budget with
      | zero => cases h
      | succ budget =>
          have hrest := ih (Nat.lt_of_succ_lt_succ h)
          rw [List.flatMap_cons, List.append_assoc, readString?_escapeChar, hrest]
          rfl

theorem length_le_flatMap_escapeChar (cs : List Char) :
    cs.length ≤ (cs.flatMap escapeChar).length := by
  have hpos : forall c, 0 < (escapeChar c).length := by
    intro c
    unfold escapeChar
    repeat' split
    all_goals simp [unitEscape]
  induction cs with
  | nil => exact Nat.le_refl 0
  | cons c cs ih =>
      have hc := hpos c
      rw [List.flatMap_cons, List.length_append, List.length_cons]
      omega

end Json
end EngineClient
