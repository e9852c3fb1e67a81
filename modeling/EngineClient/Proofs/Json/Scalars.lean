import EngineClient.Proofs.Json.Strings
import EngineClient.Proofs.Wire.Integers

/-!
# Words, numbers and strings of JSON

A text that shows a value is read as that value whatever stands behind it, as long as that does
not go on a number. Main statements: `readAs_int`, `readAs_text`.
-/

namespace EngineClient

namespace Json

/-!
## Reading in front of a rest
-/

/-- What may stand behind a value: nothing that goes on a number. -/
def Stops (rest : List Char) : Prop :=
  rest.head?.all (fun c => !isNumberChar c) = true

def Starts (c : Char) : Prop :=
  c ≠ ' ' ∧ c ≠ '\n' ∧ c ≠ '\r' ∧ c ≠ '\t' ∧ c ≠ ']'

instance (c : Char) : Decidable (Starts c) :=
  inferInstanceAs (Decidable (_ ∧ _))

theorem stops_cons {c : Char} (h : isNumberChar c = false) (cs : List Char) :
    Stops (c :: cs) := by
  simp [Stops, h]

/-- A text of printable ASCII is read as a value, whatever stands behind it. -/
structure ReadAs (cs : List Char) (v : Value) : Prop where
  plain : forall c, c ∈ cs -> IsPlain c
  starts : exists c tail, cs = c :: tail ∧ Starts c
  read : forall (rest : List Char) (budget : Nat), Stops rest -> cs.length ≤ budget ->
    readValue? budget (cs ++ rest) = some (v, rest)

theorem skipSpace_of_starts {c : Char} (h : Starts c) (cs : List Char) :
    skipSpace (c :: cs) = c :: cs := by
  rcases h with ⟨hspace, hfeed, hreturn, htab, _⟩
  simp [skipSpace, hspace, hfeed, hreturn, htab]

theorem readValue?_space (budget : Nat) (cs : List Char) :
    readValue? budget (' ' :: cs) = readValue? budget cs := by
  have hskip : skipSpace (' ' :: cs) = skipSpace cs := by
    simp [skipSpace]
  cases budget with
  | zero => rw [readValue?, readValue?]
  | succ budget => rw [readValue?, readValue?, hskip]

theorem readItems?_space (budget : Nat) (cs : List Char) :
    readItems? budget (' ' :: cs) = readItems? budget cs := by
  cases budget with
  | zero => rw [readItems?, readItems?]
  | succ budget => rw [readItems?, readItems?, readValue?_space]

theorem readEntries?_space (budget : Nat) (cs : List Char) :
    readEntries? budget (' ' :: cs) = readEntries? budget cs := by
  have hskip : skipSpace (' ' :: cs) = skipSpace cs := by
    simp [skipSpace]
  cases budget with
  | zero => rw [readEntries?, readEntries?]
  | succ budget => rw [readEntries?, readEntries?, hskip]

theorem readValue?_quote (budget : Nat) (cs : List Char) :
    readValue? (budget + 1) ('"' :: cs) =
      (readString? (budget + 1) cs).map fun r => (.text (String.ofList r.1), r.2) := by
  rw [readValue?, skipSpace_of_starts (by decide)]
  rfl

theorem readValue?_emptyList (budget : Nat) (cs : List Char) :
    readValue? (budget + 1) ('[' :: ']' :: cs) = some (.list [], cs) := by
  have hskip : skipSpace (']' :: cs) = ']' :: cs := by
    simp [skipSpace]
  rw [readValue?, skipSpace_of_starts (by decide)]
  simp only [hskip]

theorem readValue?_items {c : Char} (h : Starts c) (budget : Nat) (cs : List Char) :
    readValue? (budget + 1) ('[' :: c :: cs) =
      (readItems? budget (c :: cs)).map fun r => (.list r.1, r.2) := by
  rw [readValue?, skipSpace_of_starts (by decide)]
  simp only [skipSpace_of_starts h]
  split
  · rename_i heq
    exact absurd (List.cons.inj heq).1 h.2.2.2.2
  · rfl

/-!
## Scalars
-/

theorem readAs_scalar {c : Char} {cs : List Char} {v : Value}
    (hplain : forall d, d ∈ c :: cs -> IsPlain d) (hstarts : Starts c)
    (hscalar : c ≠ '"' ∧ c ≠ '[' ∧ c ≠ '\x7b')
    (h : forall rest, Stops rest -> readScalar? (c :: cs ++ rest) = some (v, rest)) :
    ReadAs (c :: cs) v := by
  refine ⟨hplain, ⟨c, cs, rfl, hstarts⟩, ?_⟩
  intro rest budget hrest hbudget
  cases budget with
  | zero => cases hbudget
  | succ budget =>
      have hread := h rest hrest
      rw [List.cons_append] at hread ⊢
      rw [readValue?, skipSpace_of_starts hstarts]
      split
      · rename_i heq
        exact absurd (List.cons.inj heq).1 hscalar.1
      · rename_i heq
        exact absurd (List.cons.inj heq).1 hscalar.2.1
      · rename_i heq
        exact absurd (List.cons.inj heq).1 hscalar.2.2
      · exact hread

theorem readAs_null : ReadAs "null".toList .null :=
  readAs_scalar (isPlain_of_all (by decide)) (by decide) (by decide) fun _ _ => rfl

theorem readAs_bool (b : Bool) : ReadAs (flagChars b) (.bool b) := by
  cases b with
  | true => exact readAs_scalar (isPlain_of_all (by decide)) (by decide) (by decide) fun _ _ => rfl
  | false => exact readAs_scalar (isPlain_of_all (by decide)) (by decide) (by decide) fun _ _ => rfl

theorem isNumberChar_of_range {c : Char} (h : c.isDigit = true) : isNumberChar c = true := by
  simp [isNumberChar, h]

theorem readNumber?_of_splitSign {cs digits rest : List Char} {negative : Bool}
    (hsign : Literal.splitSign cs = (negative, digits))
    (hnumber : forall c, c ∈ cs -> isNumberChar c = true) (hne : digits ≠ [])
    (hdigits : forall c, c ∈ digits -> c.isDigit = true) (hrest : Stops rest) :
    readNumber? (cs ++ rest) =
      some (.int (if negative then -(Nat.ofDigitChars 10 digits 0 : Int)
        else Nat.ofDigitChars 10 digits 0), rest) := by
  have hnext : rest.takeWhile isNumberChar = [] ∧ rest.dropWhile isNumberChar = rest := by
    cases rest with
    | nil => exact ⟨rfl, rfl⟩
    | cons c rest =>
        have hc : isNumberChar c = false := by
          simpa [Stops] using hrest
        simp [hc]
  have hwhole : Literal.wholeNumber? digits = some (Nat.ofDigitChars 10 digits 0) := by
    have hall : digits.all Char.isDigit = true := List.all_eq_true.mpr hdigits
    unfold Literal.wholeNumber?
    rw [List.isEmpty_eq_false_iff.mpr hne, hall, Literal.digitsValue_eq]
    rfl
  unfold readNumber?
  simp only [List.takeWhile_append_of_pos hnumber, List.dropWhile_append_of_pos hnumber,
    hnext.1, hnext.2, List.append_nil, hsign, hwhole]

/-- No word starts like a number. -/
theorem readScalar?_of_digit {c : Char} {cs : List Char}
    (h : c.isDigit = true ∨ c = '-' ∧ forall d, cs.head? = some d -> d.isDigit = true) :
    readScalar? (c :: cs) = readNumber? (c :: cs) := by
  have hletter : forall {w d : Char}, d.isDigit = true -> w.isDigit = false -> w ≠ d := by
    rintro w d hd hw rfl
    rw [hw] at hd
    cases hd
  have hwords : (words.findSome? fun w => (after? w.1 (c :: cs)).map (w.2, ·)) = none := by
    rcases h with hc | ⟨rfl, hnext⟩
    · simp [words, after?, hletter hc]
    · cases cs with
      | nil => simp [words, after?]
      | cons d cs =>
          have hd := hnext d rfl
          simp [words, after?, hletter hd]
  unfold readScalar?
  rw [hwords]

theorem readAs_int (i : Int) : ReadAs (Text.decimalInt i).toList (.int i) := by
  have hplain : forall c, c ∈ (Text.decimalInt i).toList -> IsPlain c := by
    intro c hc
    have hrange := Wire.range_of_mem_decimalInt hc
    exact ⟨by omega, by omega⟩
  cases i with
  | ofNat n =>
      have hdigits : forall c, c ∈ Nat.toDigits 10 n -> c.isDigit = true :=
        fun c => Wire.isDigit_of_mem
      rw [Wire.toList_decimalInt_ofNat] at hplain ⊢
      cases hcs : Nat.toDigits 10 n with
      | nil => exact absurd hcs Nat.toDigits_ne_nil
      | cons c cs =>
          have hne : Nat.toDigits 10 n ≠ [] := Nat.toDigits_ne_nil
          rw [hcs] at hplain hdigits hne
          have hc := hdigits c List.mem_cons_self
          have hother : forall d : Char, d.isDigit = false -> c ≠ d := by
            rintro d hd rfl
            rw [hc] at hd
            cases hd
          refine readAs_scalar hplain ?_ ?_ ?_
          · exact ⟨hother _ rfl, hother _ rfl, hother _ rfl, hother _ rfl, hother _ rfl⟩
          · exact ⟨hother _ rfl, hother _ rfl, hother _ rfl⟩
          · intro rest hrest
            rw [List.cons_append, readScalar?_of_digit (Or.inl hc), ← List.cons_append,
              readNumber?_of_splitSign (Literal.splitSign_of_isDigit hdigits)
                (fun d hd => isNumberChar_of_range (hdigits d hd)) hne hdigits hrest,
              ← hcs, Nat.ofDigitChars_ten_toDigits]
            rfl
  | negSucc n =>
      have hdigits : forall c, c ∈ Nat.toDigits 10 (n + 1) -> c.isDigit = true :=
        fun c => Wire.isDigit_of_mem
      rw [Wire.toList_decimalInt_negSucc] at hplain ⊢
      refine readAs_scalar hplain (by decide) (by decide) ?_
      intro rest hrest
      have hnumber : forall d, d ∈ '-' :: Nat.toDigits 10 (n + 1) -> isNumberChar d = true := by
        intro d hd
        rcases List.mem_cons.mp hd with rfl | hd
        · decide
        · exact isNumberChar_of_range (hdigits d hd)
      have hhead : forall d, (Nat.toDigits 10 (n + 1) ++ rest).head? = some d ->
          d.isDigit = true := by
        intro d hd
        cases hcs : Nat.toDigits 10 (n + 1) with
        | nil => exact absurd hcs Nat.toDigits_ne_nil
        | cons c cs =>
            rw [hcs] at hd hdigits
            cases hd
            exact hdigits d List.mem_cons_self
      have hsign : Literal.splitSign ('-' :: Nat.toDigits 10 (n + 1)) =
          (true, Nat.toDigits 10 (n + 1)) := rfl
      rw [List.cons_append, readScalar?_of_digit (Or.inr ⟨rfl, hhead⟩), ← List.cons_append,
        readNumber?_of_splitSign hsign hnumber Nat.toDigits_ne_nil hdigits hrest,
        Nat.ofDigitChars_ten_toDigits]
      rfl

theorem readAs_text (s : String) : ReadAs (string s) (.text s) := by
  refine ⟨fun c => isPlain_stringChars, ⟨'"', _, rfl, by decide⟩, ?_⟩
  intro rest budget _ hbudget
  have hlength := length_le_flatMap_escapeChar s.toList
  simp only [string, stringChars, List.cons_append, List.length_cons, List.length_append,
    List.append_assoc, List.nil_append] at hbudget ⊢
  cases budget with
  | zero => omega
  | succ budget =>
      rw [readValue?_quote, readString?_escaped _ _ (by omega), Option.map_some,
        String.ofList_toList]

end Json
end EngineClient
