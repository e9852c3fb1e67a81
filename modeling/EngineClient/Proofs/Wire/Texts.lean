import EngineClient.Proofs.Xml.Runs
import EngineClient.Wire.Message

/-!
# Escaped texts

An escaped text is read as the text that it was, in one piece or several: no character of it
is taken for markup, and none is lost. Main statement: `yields_escape`.
-/

namespace EngineClient
namespace Wire

open Xml

/-- A character that a message keeps: a document may hold it, and a reader does not take it
for a line end. -/
def IsKept (c : Char) : Prop :=
  isChar c = true ∧ c ≠ '\r'

instance (c : Char) : Decidable (IsKept c) :=
  inferInstanceAs (Decidable (_ ∧ _))

theorem isKept_of_all {cs : List Char} (h : cs.all (fun c => decide (IsKept c)) = true) :
    forall c, c ∈ cs -> IsKept c := by
  intro c hc
  exact of_decide_eq_true (List.all_eq_true.mp h c hc)

def YieldsText (part cs : List Char) : Prop :=
  exists texts : List (List Char), texts.flatten = cs ∧ Yields endsRun part (texts.map .text)

namespace YieldsText

variable {part run cs : List Char} {c : Char}

theorem nil : YieldsText [] [] :=
  ⟨[], rfl, .nil⟩

theorem single (h : Yields endsRun part [.text cs]) : YieldsText part cs :=
  ⟨[cs], List.append_nil cs, h⟩

theorem cons (hpart : Yields anyNext part [.text [c]]) {rest : List Char}
    (h : YieldsText rest cs) : YieldsText (part ++ rest) (c :: cs) := by
  rcases h with ⟨texts, hflatten, hyields⟩
  refine ⟨[c] :: texts, ?_, hpart.append hyields⟩
  rw [List.flatten_cons, hflatten]
  rfl

theorem run_append (hrun : forall d, d ∈ run -> IsPlain d) {rest : List Char}
    (hrest : rest.head?.any endsRun = true) (h : YieldsText rest cs) :
    YieldsText (run ++ rest) (run ++ cs) := by
  rcases h with ⟨texts, hflatten, hyields⟩
  cases run with
  | nil => exact ⟨texts, hflatten, hyields⟩
  | cons d run =>
      refine ⟨(d :: run) :: texts, ?_, ?_⟩
      · rw [List.flatten_cons, hflatten]
      · exact (Yields.run (List.cons_ne_nil d run) hrun).append_of_head? hyields hrest

end YieldsText

theorem escapeChar_cases {c : Char} (h : IsKept c) :
    escapeChar c = [c] ∧ IsPlain c ∨
      Yields anyNext (escapeChar c) [.text [c]] ∧ (escapeChar c).head?.any endsRun = true := by
  by_cases hamp : c = '&'
  · subst hamp
    exact Or.inr ⟨Yields.reference (by decide : IsPlainName "amp".toList) rfl, rfl⟩
  by_cases hopen : c = '<'
  · subst hopen
    exact Or.inr ⟨Yields.reference (by decide : IsPlainName "lt".toList) rfl, rfl⟩
  by_cases hclose : c = '>'
  · subst hclose
    exact Or.inr ⟨Yields.reference (by decide : IsPlainName "gt".toList) rfl, rfl⟩
  by_cases hfeed : c = '\n'
  · subst hfeed
    exact Or.inr ⟨Yields.lineEnd, rfl⟩
  · left
    have hends : endsRun c = false := by
      simp [endsRun, hamp, hopen, hfeed, h.2]
    constructor
    · simp [escapeChar, hamp, hopen, hclose]
    · exact ⟨h.1, hends, hclose⟩

theorem yields_run_escape {run cs : List Char} (hrun : forall c, c ∈ run -> IsPlain c)
    (hcs : forall c, c ∈ cs -> IsKept c) : YieldsText (run ++ escape cs) (run ++ cs) := by
  induction cs generalizing run with
  | nil =>
      cases run with
      | nil => exact .nil
      | cons c run =>
          rw [show escape [] = [] from rfl, List.append_nil]
          exact .single (.run (List.cons_ne_nil c run) hrun)
  | cons c cs ih =>
      have hcs' := fun d hd => hcs d (List.mem_cons_of_mem c hd)
      have hcons : escape (c :: cs) = escapeChar c ++ escape cs := List.flatMap_cons
      rcases escapeChar_cases (hcs c List.mem_cons_self) with ⟨hself, hplain⟩ | ⟨hpiece, hhead⟩
      · have hrun' : forall d, d ∈ run ++ [c] -> IsPlain d := by
          intro d hd
          rcases List.mem_append.mp hd with hd | hd
          · exact hrun d hd
          · rw [List.mem_singleton.mp hd]
            exact hplain
        have hlonger := ih hrun' hcs'
        rw [List.append_assoc, List.append_assoc] at hlonger
        rw [hcons, hself]
        exact hlonger
      · have hrest : YieldsText (escape cs) cs := ih (List.forall_mem_nil _) hcs'
        rw [hcons]
        apply YieldsText.run_append hrun _ (hrest.cons hpiece)
        cases hescape : escapeChar c with
        | nil =>
            rw [hescape] at hhead
            cases hhead
        | cons d ds =>
            rw [hescape] at hhead
            exact hhead

theorem yields_escape {cs : List Char} (h : forall c, c ∈ cs -> IsKept c) :
    YieldsText (escape cs) cs :=
  yields_run_escape (List.forall_mem_nil _) h

end Wire
end EngineClient
