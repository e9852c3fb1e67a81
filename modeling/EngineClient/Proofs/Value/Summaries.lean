import EngineClient.Proofs.Json.Strings
import EngineClient.Proofs.Transport.Classes
import EngineClient.Proofs.Wire.Integers

/-!
# Summaries of arguments

However long the arguments of a request are, their summary is a short line: it holds printable
characters only, and it grants each argument sixty of them. Main statement: `bounded_summarize`.
-/

namespace EngineClient

/-!
## Printable characters
-/

namespace Text

def lineBreaks : List Char :=
  ['\n', '\x0b', '\x0c', '\r', '\x1c', '\x1d', '\x1e', '\u0085', '\u2028', '\u2029']

theorem not_mem_lineBreaks {c : Char} (h : isPrintable c = true) : c ∉ lineBreaks := by
  have hhidden : lineBreaks.all (fun d => !isPrintable d) = true := by decide +kernel
  intro hmem
  have hno := List.all_eq_true.mp hhidden c hmem
  rw [h] at hno
  cases hno

theorem isPrintable_of_isPlain {c : Char} (h : Json.IsPlain c) : isPrintable c = true := by
  have hapart : hiddenRanges.all (fun r => decide (r.2 < 0x20 ∨ 0x7F ≤ r.1)) = true := by
    decide +kernel
  rcases h with ⟨hlow, hhigh⟩
  have hnone : hiddenRanges.any (fun r => r.1 ≤ c.toNat && c.toNat ≤ r.2) = false := by
    rw [List.any_eq_false]
    intro r hr
    have hside := of_decide_eq_true (List.all_eq_true.mp hapart r hr)
    simp only [Bool.and_eq_true, decide_eq_true_eq, not_and]
    omega
  simp [isPrintable, hnone]

/-!
## Quoted text
-/

theorem isPlain_of_mem_hexPadded {width n : Nat} {c : Char} (h : c ∈ hexPadded width n) :
    Json.IsPlain c := by
  induction width generalizing n with
  | zero => cases h
  | succ width ih =>
      rcases List.mem_append.mp h with h | h
      · exact ih h
      · rw [List.mem_singleton.mp h]
        exact Json.isPlain_hexDigit n

theorem isPlain_of_mem_hexEscape {c d : Char} (h : d ∈ hexEscape c) : Json.IsPlain d := by
  have hmarked : forall mark width, Json.IsPlain mark ->
      d ∈ '\\' :: mark :: hexPadded width c.toNat -> Json.IsPlain d := by
    intro mark width hmark hmem
    rcases List.mem_cons.mp hmem with rfl | hmem
    · decide
    · rcases List.mem_cons.mp hmem with rfl | hmem
      · exact hmark
      · exact isPlain_of_mem_hexPadded hmem
  unfold hexEscape at h
  split at h
  · exact hmarked 'x' 2 (by decide) h
  split at h
  · exact hmarked 'u' 4 (by decide) h
  · exact hmarked 'U' 8 (by decide) h

theorem isPlain_quoteFor (cs : List Char) : Json.IsPlain (quoteFor cs) := by
  unfold quoteFor
  split
  · decide
  · decide

theorem isPrintable_of_mem_quoteChar {quote c d : Char} (hquote : Json.IsPlain quote)
    (h : d ∈ quoteChar quote c) : isPrintable d = true := by
  have hpair : forall e, Json.IsPlain e -> d ∈ ['\\', e] -> isPrintable d = true := by
    intro e he hmem
    simp only [List.mem_cons, List.not_mem_nil, or_false] at hmem
    rcases hmem with rfl | rfl
    · exact isPrintable_of_isPlain (by decide)
    · exact isPrintable_of_isPlain he
  unfold quoteChar at h
  split at h
  · rename_i hmark
    rcases hmark with rfl | rfl
    · exact hpair _ hquote h
    · exact hpair _ (by decide) h
  split at h
  · exact hpair 'n' (by decide) h
  split at h
  · exact hpair 'r' (by decide) h
  split at h
  · exact hpair 't' (by decide) h
  split at h
  · rename_i hprintable
    rw [List.mem_singleton.mp h]
    exact hprintable
  · exact isPrintable_of_isPlain (isPlain_of_mem_hexEscape h)

theorem isPrintable_of_mem_quoted {s : String} {c : Char} (h : c ∈ (quoted s).toList) :
    isPrintable c = true := by
  have hquote := isPlain_quoteFor s.toList
  rw [quoted, String.toList_ofList, quotedChars, List.cons_append] at h
  rcases List.mem_cons.mp h with rfl | h
  · exact isPrintable_of_isPlain hquote
  · rcases List.mem_append.mp h with h | h
    · rcases List.mem_flatMap.mp h with ⟨d, _, hd⟩
      exact isPrintable_of_mem_quoteChar hquote hd
    · rw [List.mem_singleton.mp h]
      exact isPrintable_of_isPlain hquote

theorem mem_of_mem_shorten {limit : Nat} {cs : List Char} {c : Char}
    (h : c ∈ shorten limit cs) : c ∈ cs ∨ c = '.' := by
  unfold shorten at h
  split at h
  · exact Or.inl h
  · rcases List.mem_append.mp h with h | h
    · exact Or.inl (List.mem_of_mem_take h)
    · simp only [ellipsis, List.mem_cons, List.not_mem_nil, or_false, or_self] at h
      exact Or.inr h

theorem shorten_eq_self_iff {limit : Nat} (hlimit : ellipsis.length ≤ limit) {cs : List Char} :
    shorten limit cs = cs ↔ cs.length ≤ limit := by
  constructor
  · intro h
    rw [← h]
    exact length_shorten_le hlimit cs
  · exact shorten_of_le

end Text

/-!
## Arguments
-/

theorem isPrintable_of_mem_display {v : Value} (hv : v.IsArgument) {c : Char}
    (h : c ∈ v.display.toList) : Text.isPrintable c = true := by
  cases hv with
  | text s =>
      rw [Value.display] at h
      exact Text.isPrintable_of_mem_quoted h
  | int hi =>
      rw [Value.display] at h
      have hrange := Wire.range_of_mem_decimalInt h
      exact Text.isPrintable_of_isPlain ⟨by omega, by omega⟩

theorem isPrintable_of_mem_summarizeArgument {v : Value} (hv : v.IsArgument) {c : Char}
    (h : c ∈ (summarizeArgument v).toList) : Text.isPrintable c = true := by
  rw [summarizeArgument, String.toList_ofList] at h
  rcases Text.mem_of_mem_shorten h with h | rfl
  · exact isPrintable_of_mem_display hv h
  · exact Text.isPrintable_of_isPlain (by decide)

theorem length_summarizeArgument_le (v : Value) : (summarizeArgument v).length ≤ summaryLimit := by
  rw [summarizeArgument, String.length_ofList]
  exact Text.length_shorten_le (by decide) _

/-- An argument is shown whole exactly if sixty characters are enough for it. -/
theorem summarizeArgument_eq_display_iff (v : Value) :
    summarizeArgument v = v.display ↔ v.display.length ≤ summaryLimit := by
  have hshown := @Text.shorten_eq_self_iff summaryLimit (by decide) v.display.toList
  rw [← String.length_toList, ← hshown, summarizeArgument, ← String.toList_inj,
    String.toList_ofList]

theorem summarizeArgument_of_lt {v : Value} (h : summaryLimit < v.display.length) :
    summarizeArgument v = String.ofList (v.display.toList.take 57) ++ "..." := by
  rw [← String.length_toList] at h
  have hlong : ¬ v.display.toList.length ≤ summaryLimit := Nat.not_le.mpr h
  rw [summarizeArgument, Text.shorten, if_neg hlong, String.ofList_append]
  rfl

/-!
## Whole summaries
-/

theorem summarize_cons_cons (v w : Value) (vs : List Value) :
    summarize (v :: w :: vs) = summarizeArgument v ++ ", " ++ summarize (w :: vs) := by
  simp only [summarize, List.map_cons, String.intercalate_cons_cons]

theorem summarize_singleton (v : Value) : summarize [v] = summarizeArgument v := by
  simp only [summarize, List.map_cons, List.map_nil, String.intercalate_singleton]

theorem mem_of_mem_summarize {args : List Value} {c : Char} (h : c ∈ (summarize args).toList) :
    (exists v, v ∈ args ∧ c ∈ (summarizeArgument v).toList) ∨ c ∈ [',', ' '] := by
  induction args with
  | nil => cases h
  | cons v vs ih =>
      cases vs with
      | nil =>
          rw [summarize_singleton] at h
          exact Or.inl ⟨v, List.mem_singleton_self v, h⟩
      | cons w ws =>
          rw [summarize_cons_cons, String.toList_append, String.toList_append] at h
          rcases List.mem_append.mp h with h | h
          · rcases List.mem_append.mp h with h | h
            · exact Or.inl ⟨v, List.mem_cons_self, h⟩
            · exact Or.inr h
          · rcases ih h with ⟨u, hu, hc⟩ | hc
            · exact Or.inl ⟨u, List.mem_cons_of_mem v hu, hc⟩
            · exact Or.inr hc

theorem length_summarize_le (args : List Value) :
    (summarize args).length ≤ summaryLimit * args.length + 2 * (args.length - 1) := by
  induction args with
  | nil => decide
  | cons v vs ih =>
      have hv := length_summarizeArgument_le v
      cases vs with
      | nil =>
          rw [summarize_singleton]
          exact hv
      | cons w ws =>
          have hcomma : ", ".length = 2 := rfl
          rw [summarize_cons_cons, String.length_append, String.length_append]
          simp only [summaryLimit, List.length_cons] at ih hv ⊢
          omega

theorem isPrintable_of_mem_summarize {args : List Value}
    (hargs : forall v, v ∈ args -> v.IsArgument) {c : Char} (h : c ∈ (summarize args).toList) :
    Text.isPrintable c = true := by
  rcases mem_of_mem_summarize h with ⟨v, hv, hc⟩ | hc
  · exact isPrintable_of_mem_summarizeArgument (hargs v hv) hc
  · simp only [List.mem_cons, List.not_mem_nil, or_false] at hc
    rcases hc with rfl | rfl
    · exact Text.isPrintable_of_isPlain (by decide)
    · exact Text.isPrintable_of_isPlain (by decide)

/-!
## Reports of failures
-/

/-- The arguments that a client error shows, if it is about a request. -/
def ClientErrorKind.arguments? : ClientErrorKind → Option String
  | .transportFailure arguments => some arguments
  | .transportTimeout arguments => some arguments
  | _ => none

namespace Transport

/-- What the report of a failed request says in front of the arguments. -/
def lead (url : String) (timeout : Binary64) (f : Fault) : String :=
  match Outcome.ofFault f with
  | .timeout => "no answer from " ++ url ++ " within " ++ timeout.toText ++ "s"
  | _ => "request to " ++ url ++ " failed: " ++ f.message

/-- A request that failed is reported with the summary of its arguments, and nothing else in
the report depends on them. -/
theorem report_of_failure {f : Fault}
    (h : Outcome.ofFault f = .timeout ∨ Outcome.ofFault f = .trouble) {r : Request}
    (hargs : forall v, v ∈ r.args -> v.IsArgument) :
    exists e : ClientError, report r f = .chained e f ∧
      e.kind.arguments? = some (summarize r.args) ∧
      e.detail = ClientError.withArguments (lead r.url r.timeout f) (summarize r.args) := by
  rcases h with h | h
  · refine ⟨.transportTimeout (lead r.url r.timeout f) (some r.method) (summarize r.args),
      ?_, rfl, rfl⟩
    simp only [report, lead, h, showing_of_isArgument hargs]
  · refine ⟨.transportFailure (lead r.url r.timeout f) (some r.method) (summarize r.args),
      ?_, rfl, rfl⟩
    simp only [report, lead, h, showing_of_isArgument hargs]

end Transport

/-!
## Main statement
-/

/-- The summary of arguments is one line of printable characters, with at most sixty for each
argument and two for each comma between them. It shows an argument whole exactly if sixty
characters are enough, and otherwise its first fifty-seven and three dots. The report of a
request that failed holds this summary and nothing else of the arguments. -/
theorem bounded_summarize {args : List Value} (hargs : forall v, v ∈ args -> v.IsArgument) :
    (forall c, c ∈ (summarize args).toList ->
        Text.isPrintable c = true ∧ c ∉ Text.lineBreaks) ∧
      (summarize args).length ≤ 60 * args.length + 2 * (args.length - 1) ∧
      (exists parts : List String,
        summarize args = String.intercalate ", " parts ∧
          List.Forall₂
            (fun v part => (part = v.display ↔ v.display.length ≤ 60) ∧
              (60 < v.display.length ->
                part = String.ofList (v.display.toList.take 57) ++ "..."))
            args parts) ∧
      forall (r : Transport.Request) (f : Fault), r.args = args ->
        Transport.Outcome.ofFault f = .timeout ∨ Transport.Outcome.ofFault f = .trouble ->
          exists e : ClientError, Transport.report r f = .chained e f ∧
            e.kind.arguments? = some (summarize args) ∧
            e.detail =
              ClientError.withArguments (Transport.lead r.url r.timeout f) (summarize args) := by
  refine ⟨?_, length_summarize_le args, ⟨args.map summarizeArgument, rfl, ?_⟩, ?_⟩
  · intro c hc
    have hprintable := isPrintable_of_mem_summarize hargs hc
    exact ⟨hprintable, Text.not_mem_lineBreaks hprintable⟩
  · rw [List.forall₂_map_right_iff, List.forall₂_same]
    intro v _
    exact ⟨summarizeArgument_eq_display_iff v, summarizeArgument_of_lt⟩
  · intro r f hr hf
    subst hr
    exact Transport.report_of_failure hf hargs

def proposalArguments (text : String) : List Value :=
  [.text text, .int 5, .text "a.py"]

/-- However large a file is, the summary of a request for proposals in it is short. -/
theorem bounded_proposalArguments :
    (forall text v, v ∈ proposalArguments text -> v.IsArgument) ∧
      forall text, (summarize (proposalArguments text)).length ≤ 184 := by
  have hargs : forall text v, v ∈ proposalArguments text -> v.IsArgument := by
    intro text v hv
    simp only [proposalArguments, List.mem_cons, List.not_mem_nil, or_false] at hv
    rcases hv with rfl | rfl | rfl
    · exact .text _
    · exact .int (by decide)
    · exact .text _
  exact ⟨hargs, fun text => (bounded_summarize (hargs text)).2.1⟩

end EngineClient
