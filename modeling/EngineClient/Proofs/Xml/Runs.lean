import EngineClient.Proofs.Xml.Reading

/-!
# Text between tags

Line ends, references, and runs of other characters are read as the text that they are. A run
goes on to the next line end, reference or tag, so it must be followed by one of these.
Main statement: `Yields.run`.
-/

namespace EngineClient
namespace Xml

open Text.Utf8

/-!
## Line ends and references
-/

theorem Yields.lineEnd : Yields anyNext ['\n'] [.text ['\n']] := by
  have hplain : ContentToken.text ['\n'] ≠ .plainStart := by
    intro h
    cases h
  refine .of_token ?_ hplain (List.cons_ne_nil _ _) ?_ (Nat.zero_le _) ?_
  · exact List.forall_mem_singleton.mpr rfl
  · intro size offset rest _
    rfl
  · intro t expand size p direct start
    rfl

theorem scanContent_reference {size : Nat} {name : List Char} (hname : IsPlainName name)
    (offset : Nat) (rest : List Char) :
    scanContent { size } (spread offset ('&' :: (name ++ ';' :: rest))) =
      .ok (.reference (.entity name), spread (offset + 1 + Text.Utf8.size name + 1) rest) := by
  have hscan : scanName (spread (offset + 1) (name ++ ';' :: rest)) = _ :=
    scanName_spread hname (by decide) (offset + 1)
  change Scan.toToken
    ((scanReference (spread (offset + 1) (name ++ ';' :: rest))).map _) = _
  cases name with
  | nil => exact absurd rfl hname.1
  | cons d name =>
      have hmark : (glyphAt (offset + 1) d).is '#' = false :=
        is_glyphAt_of_isAlpha (hname.2 d List.mem_cons_self) '#' (by decide)
      rw [List.cons_append, spread] at hscan ⊢
      simp only [scanReference, hmark, Bool.false_eq_true, if_false, hscan]
      rfl

theorem Yields.reference {name : List Char} {c : Char} (hname : IsPlainName name)
    (hchar : namedChar? name = some c) :
    Yields anyNext ('&' :: (name ++ [';'])) [.text [c]] := by
  have hplain : ContentToken.reference (.entity name) ≠ .plainStart := by
    intro h
    cases h
  have hsize : size ('&' :: (name ++ [';'])) = 1 + size name + 1 := by
    rw [size_cons, size_append]
    show 1 + (size name + 1) = _
    omega
  have hmore : 1 ≤ size ('&' :: (name ++ [';'])) := by
    rw [hsize]
    omega
  refine .of_token ?_ hplain (List.cons_ne_nil _ _) ?_ hmore ?_
  · simp only [List.forall_mem_cons, List.forall_mem_append]
    exact ⟨rfl, chars_of_isPlainName hname, rfl, List.forall_mem_nil _⟩
  · intro size offset rest _
    rw [hsize, List.cons_append, List.append_assoc]
    simp only [← Nat.add_assoc]
    exact scanContent_reference hname offset rest
  · intro t expand size p direct start
    simp only [readToken, readReference, hchar]
    rfl

/-!
## Runs
-/

/-- What may stand in a run of text: it is no mark, and ends no section. -/
def IsPlain (c : Char) : Prop :=
  isChar c = true ∧ endsRun c = false ∧ c ≠ '>'

instance (c : Char) : Decidable (IsPlain c) :=
  inferInstanceAs (Decidable (_ ∧ _ ∧ _))

theorem isPlain_ne {c : Char} (h : IsPlain c) :
    c ≠ '<' ∧ c ≠ '&' ∧ c ≠ '\r' ∧ c ≠ '\n' := by
  have hends := h.2.1
  simpa [endsRun, and_assoc] using hends

theorem scanRun_stop {c : Char} (h : endsRun c = true) (read : List Char) (offset : Nat)
    (rest : List Char) :
    scanRun read (spread offset (c :: rest)) = .ok (read.reverse, spread offset (c :: rest)) := by
  rw [spread, scanRun]
  simp only [show (glyphAt offset c).char? = some c from rfl, h, if_true]

theorem exists_second {cs rest : List Char} (hcs : forall c, c ∈ cs -> IsPlain c)
    (hrest : rest.head?.any endsRun = true) :
    exists c ds, cs ++ rest = c :: ds ∧ (c = ']' -> exists d es, ds = d :: es ∧ d ≠ '>') := by
  have hmark : forall d, endsRun d = true -> d ≠ ']' ∧ d ≠ '>' := by
    intro d hd
    constructor
    · rintro rfl
      exact absurd hd (by decide)
    · rintro rfl
      exact absurd hd (by decide)
  cases rest with
  | nil => cases hrest
  | cons e rest =>
      cases cs with
      | nil => exact ⟨e, rest, rfl, fun he => absurd he (hmark e hrest).1⟩
      | cons c cs =>
          refine ⟨c, cs ++ e :: rest, rfl, ?_⟩
          intro _
          cases cs with
          | nil => exact ⟨e, rest, rfl, (hmark e hrest).2⟩
          | cons d cs =>
              have hd := hcs d (List.mem_cons_of_mem _ List.mem_cons_self)
              exact ⟨d, cs ++ e :: rest, rfl, hd.2.2⟩

theorem scanRun_cons {c : Char} {cs rest : List Char} (hc : IsPlain c)
    (hcs : forall d, d ∈ cs -> IsPlain d) (hrest : rest.head?.any endsRun = true)
    (read : List Char) (offset : Nat) :
    scanRun read (spread offset (c :: cs ++ rest)) =
      scanRun (c :: read) (spread (offset + c.utf8Size) (cs ++ rest)) := by
  rcases exists_second hcs hrest with ⟨d, ds, hds, hsecond⟩
  have hends : ¬endsRun c = true := by
    rw [hc.2.1]
    exact Bool.false_ne_true
  rw [List.cons_append, hds, spread, scanRun]
  simp only [show (glyphAt offset c).char? = some c from rfl, if_neg hends]
  by_cases hbracket : c = ']'
  · rw [if_pos hbracket, spread]
    by_cases hd : d = ']'
    · rcases hsecond hd with ⟨e, es, rfl, he⟩
      simp only [is_glyphAt, hd, beq_self_eq_true, if_true, spread, beq_eq_false_iff_ne.mpr he,
        Bool.false_eq_true, if_false]
    · simp only [is_glyphAt, beq_eq_false_iff_ne.mpr hd, Bool.false_eq_true, if_false]
  · rw [if_neg hbracket]

theorem scanRun_spread {cs rest : List Char} (hcs : forall c, c ∈ cs -> IsPlain c)
    (hrest : rest.head?.any endsRun = true) (read : List Char) (offset : Nat) :
    scanRun read (spread offset (cs ++ rest)) =
      .ok (read.reverse ++ cs, spread (offset + size cs) rest) := by
  induction cs generalizing read offset with
  | nil =>
      cases rest with
      | nil => cases hrest
      | cons e rest =>
          rw [List.nil_append, scanRun_stop hrest, List.append_nil]
          rfl
  | cons c cs ih =>
      have hcs' := fun d hd => hcs d (List.mem_cons_of_mem c hd)
      rw [scanRun_cons (hcs c List.mem_cons_self) hcs' hrest, ih hcs', size_cons,
        List.reverse_cons, List.append_assoc, Nat.add_assoc]
      rfl

theorem scanBracket_spread {cs rest : List Char} (hcs : forall c, c ∈ cs -> IsPlain c)
    (hrest : rest.head?.any endsRun = true) (offset : Nat) :
    scanBracket (spread offset (cs ++ rest)) =
      Scan.toToken ((scanRun [']'] (spread offset (cs ++ rest))).map
        fun (cs, rest) => (.text cs, rest)) := by
  rcases exists_second hcs hrest with ⟨c, ds, hds, hsecond⟩
  rw [hds, spread]
  unfold scanBracket
  by_cases hc : c = ']'
  · rcases hsecond hc with ⟨d, es, rfl, hd⟩
    simp [spread, is_glyphAt, hd]
  · simp [is_glyphAt, hc]

theorem scanContent_run {size : Nat} {c : Char} {cs rest : List Char} (hc : IsPlain c)
    (hcs : forall d, d ∈ cs -> IsPlain d) (hrest : rest.head?.any endsRun = true)
    (offset : Nat) :
    scanContent { size } (spread offset (c :: cs ++ rest)) =
      .ok (.text (c :: cs), spread (offset + c.utf8Size + Text.Utf8.size cs) rest) := by
  rcases isPlain_ne hc with ⟨hopen, hamp, hreturn, hfeed⟩
  rw [List.cons_append, spread, scanContent]
  simp only [show (glyphAt offset c).char? = some c from rfl, if_neg hopen, if_neg hamp,
    if_neg hreturn, if_neg hfeed]
  by_cases hbracket : c = ']'
  · subst hbracket
    rw [if_pos rfl, scanBracket_spread hcs hrest, scanRun_spread hcs hrest]
    rfl
  · rw [if_neg hbracket, scanRun_spread hcs hrest]
    rfl

theorem Yields.run {cs : List Char} (hne : cs ≠ []) (hcs : forall c, c ∈ cs -> IsPlain c) :
    Yields endsRun cs [.text cs] := by
  have hplain : ContentToken.text cs ≠ .plainStart := by
    intro h
    cases h
  refine .of_token (fun c hc => (hcs c hc).1) hplain hne ?_ (Nat.zero_le _) ?_
  · intro size offset rest hrest
    cases cs with
    | nil => exact absurd rfl hne
    | cons c cs =>
        rw [scanContent_run (hcs c List.mem_cons_self)
          (fun d hd => hcs d (List.mem_cons_of_mem c hd)) hrest, size_cons, Nat.add_assoc]
  · intro t expand size p direct start
    rfl

end Xml
end EngineClient
