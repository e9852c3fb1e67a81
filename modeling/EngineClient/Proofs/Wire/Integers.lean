import EngineClient.Number.Literal
import EngineClient.Wire.Decoder
import EngineClient.Wire.Message
import Mathlib.Data.List.TakeWhile

/-!
# Integers as they are written

The decimal digits of an integer are read as that integer, as long as they are not too many
for a reader. Main statement: `decodeInteger_decimalInt`.
-/

namespace EngineClient

/-!
## Digits
-/

namespace Text

theorem isDigit_range {c : Char} (h : c.isDigit = true) : 48 ≤ c.toNat ∧ c.toNat ≤ 57 := by
  simp only [Char.isDigit, Bool.and_eq_true, decide_eq_true_eq] at h
  exact h

theorem digitValue?_of_isDigit {c : Char} (h : c.isDigit = true) :
    digitValue? c = some (c.toNat - 48) := by
  rcases isDigit_range h with ⟨hlow, hhigh⟩
  have hzeros : digitZeros = 0x30 :: digitZeros.tail := rfl
  rw [digitValue?, hzeros, List.find?_cons_of_pos]
  · rfl
  · rw [Bool.and_eq_true, decide_eq_true_eq, decide_eq_true_eq]
    omega

theorem not_isSpace_of_range {c : Char} (h : 45 ≤ c.toNat ∧ c.toNat ≤ 57) :
    isSpace c = false := by
  have hnot : ¬isSpace c = true := by
    unfold isSpace
    simp only [Bool.or_eq_true, Bool.and_eq_true, decide_eq_true_eq, beq_iff_eq]
    omega
  exact Bool.eq_false_iff.mpr hnot

theorem trimBy_eq_self {p : Char -> Bool} {cs : List Char}
    (h : forall c, c ∈ cs -> p c = false) : trimBy p cs = cs := by
  have hdrop : forall ds : List Char, (forall d, d ∈ ds -> p d = false) -> ds.dropWhile p = ds := by
    intro ds hds
    cases ds with
    | nil => rfl
    | cons d ds =>
        rw [List.dropWhile_cons_of_neg]
        rw [hds d List.mem_cons_self]
        exact Bool.false_ne_true
  unfold trimBy
  rw [hdrop cs h, hdrop cs.reverse (fun d hd => h d (List.mem_reverse.mp hd)), List.reverse_reverse]

end Text

namespace Literal

theorem plainDigits?_of_isDigit {cs : List Char} (h : forall c, c ∈ cs -> c.isDigit = true)
    (afterDigit : Bool) : plainDigits? afterDigit cs = some cs := by
  induction cs generalizing afterDigit with
  | nil => rfl
  | cons c cs ih =>
      have hc := h c List.mem_cons_self
      have hrange := Text.isDigit_range hc
      have hback : Char.ofNat ('0'.toNat + (c.toNat - 48)) = c := by
        have hsum : '0'.toNat + (c.toNat - 48) = c.toNat := by
          show 48 + (c.toNat - 48) = c.toNat
          omega
        rw [hsum, Char.ofNat_toNat]
      have hline : c ≠ '_' := by
        rintro rfl
        exact absurd hc (by decide)
      rw [plainDigits?, Text.digitValue?_of_isDigit hc]
      · simp only [ih (fun d hd => h d (List.mem_cons_of_mem c hd)), Option.map_some, hback]
      · intro d ds hd
        exact absurd hd hline

theorem digitsValue_eq (value : Nat) (cs : List Char) :
    digitsValue value cs = Nat.ofDigitChars 10 cs value := by
  induction cs generalizing value with
  | nil => rfl
  | cons c cs ih =>
      rw [Nat.ofDigitChars_cons, Nat.mul_comm 10, ← ih]
      rfl

theorem splitSign_of_isDigit {cs : List Char} (h : forall c, c ∈ cs -> c.isDigit = true) :
    splitSign cs = (false, cs) := by
  unfold splitSign
  split
  · exact absurd (h '-' List.mem_cons_self) (by decide)
  · exact absurd (h '+' List.mem_cons_self) (by decide)
  · rfl

theorem integer_of_splitSign {cs digits : List Char} {negative : Bool}
    (hsign : splitSign cs = (negative, digits)) (hspace : forall c, c ∈ cs -> Text.isSpace c = false)
    (hne : digits ≠ []) (hdigits : forall c, c ∈ digits -> c.isDigit = true)
    (hlength : digits.length ≤ maxIntegerDigits) :
    integer cs =
      .ok (if negative then -(Nat.ofDigitChars 10 digits 0 : Int)
        else Nat.ofDigitChars 10 digits 0) := by
  have hrun : forall c, c ∈ digits -> isRunChar c = true := by
    intro c hc
    unfold isRunChar
    rw [Text.digitValue?_of_isDigit (hdigits c hc)]
    exact Bool.or_true _
  have hwhole : wholeNumber? digits = some (Nat.ofDigitChars 10 digits 0) := by
    have hall : digits.all Char.isDigit = true := List.all_eq_true.mpr hdigits
    unfold wholeNumber?
    rw [List.isEmpty_eq_false_iff.mpr hne, hall, digitsValue_eq]
    rfl
  have hruns : digits.all isRunChar = true := List.all_eq_true.mpr hrun
  have htake : digits.takeWhile isRunChar = digits := List.takeWhile_eq_self_iff.mpr hrun
  unfold integer
  rw [Text.trimBy_eq_self hspace, hsign]
  simp only [htake, plainDigits?_of_isDigit hdigits, Option.bind_some,
    hwhole, Option.map_some, Nat.not_lt.mpr hlength, if_false, hruns, if_true]

end Literal

/-!
## Integers
-/

namespace Wire

theorem toList_decimalInt_ofNat (n : Nat) :
    (Text.decimalInt (.ofNat n)).toList = Nat.toDigits 10 n :=
  String.toList_ofList

theorem toList_decimalInt_negSucc (n : Nat) :
    (Text.decimalInt (.negSucc n)).toList = '-' :: Nat.toDigits 10 (n + 1) := by
  show ("-" ++ String.ofList _).toList = _
  rw [String.toList_append, String.toList_ofList, String.toList_ofList]
  exact List.singleton_append

theorem isDigit_of_mem {n : Nat} {c : Char} (h : c ∈ Nat.toDigits 10 n) : c.isDigit = true :=
  Nat.isDigit_of_mem_toDigits (by decide) (by decide) h

theorem range_of_mem_decimalInt {i : Int} {c : Char} (h : c ∈ (Text.decimalInt i).toList) :
    45 ≤ c.toNat ∧ c.toNat ≤ 57 := by
  have hdigit : forall n, c ∈ Nat.toDigits 10 n -> 45 ≤ c.toNat ∧ c.toNat ≤ 57 := by
    intro n hc
    have hrange := Text.isDigit_range (isDigit_of_mem hc)
    omega
  cases i with
  | ofNat n =>
      rw [toList_decimalInt_ofNat] at h
      exact hdigit n h
  | negSucc n =>
      rw [toList_decimalInt_negSucc] at h
      rcases List.mem_cons.mp h with rfl | h
      · decide
      · exact hdigit (n + 1) h

theorem decimalInt_ne_nil (i : Int) : (Text.decimalInt i).toList ≠ [] := by
  cases i with
  | ofNat n =>
      rw [toList_decimalInt_ofNat]
      exact Nat.toDigits_ne_nil
  | negSucc n =>
      rw [toList_decimalInt_negSucc]
      exact List.cons_ne_nil _ _

theorem integer_decimalInt {i : Int}
    (h : (Nat.toDigits 10 i.natAbs).length ≤ Literal.maxIntegerDigits) :
    Literal.integer (Text.decimalInt i).toList = .ok i := by
  have hspace : forall c, c ∈ (Text.decimalInt i).toList -> Text.isSpace c = false := fun c hc =>
    Text.not_isSpace_of_range (range_of_mem_decimalInt hc)
  cases i with
  | ofNat n =>
      rw [toList_decimalInt_ofNat] at hspace ⊢
      rw [Literal.integer_of_splitSign (Literal.splitSign_of_isDigit fun c => isDigit_of_mem) hspace
        Nat.toDigits_ne_nil (fun c => isDigit_of_mem) h, Nat.ofDigitChars_ten_toDigits]
      rfl
  | negSucc n =>
      rw [toList_decimalInt_negSucc] at hspace ⊢
      have hsign : Literal.splitSign ('-' :: Nat.toDigits 10 (n + 1)) =
          (true, Nat.toDigits 10 (n + 1)) := rfl
      rw [Literal.integer_of_splitSign hsign hspace Nat.toDigits_ne_nil (fun c => isDigit_of_mem) h,
        Nat.ofDigitChars_ten_toDigits]
      rfl

theorem length_toDigits_le {n : Nat} (h : n ≤ 2147483648) :
    (Nat.toDigits 10 n).length ≤ Literal.maxIntegerDigits := by
  have hten : (Nat.toDigits 10 n).length ≤ 10 := by
    rw [Nat.length_toDigits_le_iff (by decide) (by decide)]
    omega
  exact Nat.le_trans hten (by decide)

theorem decodeInteger_decimalInt {i : Int} (h : isCarried i = true) :
    decodeInteger (Text.decimalInt i).toList = .ok i := by
  simp only [isCarried, Bool.and_eq_true, decide_eq_true_eq] at h
  have hsize : i.natAbs ≤ 2147483648 := by omega
  rw [decodeInteger, integer_decimalInt (length_toDigits_le hsize)]

end Wire
end EngineClient
