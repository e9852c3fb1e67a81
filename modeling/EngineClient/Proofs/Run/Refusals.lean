import EngineClient.Proofs.Editor.Following
import EngineClient.Proofs.Run.Queries
import EngineClient.Proofs.Transport.Classes

/-!
# What refuses arguments

Only the check of a command refuses its arguments. Neither looking at the session, nor reading
files, nor following them, nor decoding an answer does; what the transport fails with is passed
on as it is.
-/

namespace EngineClient

open Act

def Fault.IsRefusal (f : Fault) : Prop :=
  exists e, f.clientError? = some e ∧ e.kind = .contract

namespace Fault

variable {f : Fault}

theorem not_isRefusal_of_foreign (h : f.clientError? = none) : ¬ f.IsRefusal := by
  rintro ⟨e, he, _⟩
  rw [h] at he
  cases he

theorem IsUnresolved.not_isRefusal (h : f.IsUnresolved) : ¬ f.IsRefusal := by
  cases h <;> exact not_isRefusal_of_foreign rfl

theorem IsFailureOf.not_isRefusal {command : String} (h : f.IsFailureOf command) :
    ¬ f.IsRefusal := by
  rcases h with ⟨e, arguments, he, hkind, _⟩
  rintro ⟨e', he', hkind'⟩
  rw [he] at he'
  cases he'
  rw [hkind] at hkind'
  cases hkind'

end Fault

/-!
## Acts that fail only so

Whatever the world, the act fails only with faults that have a property.
-/

namespace Act

variable {α β : Type} {P : Fault → Prop} {x : Act α} {g : α → Act β}

def FailsOnly (P : Fault → Prop) (x : Act α) : Prop :=
  forall w f w', x w = .error f w' -> P f

theorem FailsOnly.pure (a : α) : FailsOnly P (pure a : Act α) := by
  intro w f w' h
  cases h

theorem FailsOnly.throw {f : Fault} (h : P f) : FailsOnly P (throw f : Act α) := by
  intro w g w' hg
  cases hg
  exact h

theorem FailsOnly.modify (k : World → World) : FailsOnly P (modify k : Act PUnit) := by
  intro w f w' h
  cases h

theorem FailsOnly.client : FailsOnly P client := by
  intro w f w' h
  cases h

theorem FailsOnly.disk : FailsOnly P disk := by
  intro w f w' h
  cases h

theorem FailsOnly.ofExcept {r : Except Fault α} (h : Fault.All P r) :
    FailsOnly P (Act.ofExcept r) := by
  intro w f w' hrun
  exact h f (ofExcept_eq_error hrun).1

theorem FailsOnly.bind (hx : FailsOnly P x) (hg : forall a, FailsOnly P (g a)) :
    FailsOnly P (x >>= g) := by
  intro w f w' h
  rcases bind_eq_error h with hfirst | ⟨a, w₁, _, hrest⟩
  · exact hx w f w' hfirst
  · exact hg a w₁ f w' hrest

end Act

/-!
## Files

Following the files fails only for a path that cannot be resolved, and so does reading the
text of a file, or for what reading a file can come to.
-/

namespace Editor

theorem failsOnly_revert (path : String) : FailsOnly Fault.IsUnresolved (revert path) := by
  unfold revert
  refine .bind .disk fun d => .bind (.bind .client fun _ => .pure _) fun b => ?_
  refine .bind (.ofExcept fun f hf => (Buffers.isLost_of_revert hf).isUnresolved) fun r => ?_
  refine .bind (.modify _) fun _ => ?_
  split
  · exact .bind (.modify _) fun _ => .pure _
  · exact .bind (.pure _) fun _ => .pure _

theorem failsOnly_revertEach (paths : List String) :
    FailsOnly Fault.IsUnresolved (BufferHost.revertEach revert paths) := by
  induction paths with
  | nil => exact .pure _
  | cons path paths ih => exact .bind (failsOnly_revert path) fun _ => .bind ih fun _ => .pure _

theorem failsOnly_reconcile (targets? : Option (List String)) :
    FailsOnly Fault.IsUnresolved (host.reconcile targets?) := by
  have heach : forall paths, FailsOnly Fault.IsUnresolved (do
      let reverted ← BufferHost.revertEach host.revert paths
      return (⟨paths, reverted⟩ : BufferHost.Reconciliation)) :=
    fun paths => .bind (failsOnly_revertEach paths) fun _ => .pure _
  unfold BufferHost.reconcile
  refine .bind (.modify _) fun _ => ?_
  cases targets? with
  | some targets => exact heach targets
  | none => exact .bind (.bind (.bind .client fun _ => .pure _) fun _ => .pure _) heach

theorem failsOnly_maybeSync (targets? : Option (List String)) :
    FailsOnly Fault.IsUnresolved (maybeSync targets?) := by
  unfold maybeSync
  refine .bind (.modify _) fun _ => .bind .client fun c => ?_
  unfold BufferHost.following
  split
  · cases c.editor? with
    | none => exact .pure _
    | some b =>
        refine .bind (failsOnly_reconcile targets?) fun r => ?_
        exact .bind (.modify _) fun _ => .pure _
  · exact .pure _

end Editor

theorem Disk.not_isRefusal_of_readText {d : Disk} {p : Path} {f : Fault}
    (h : d.readText p = .error f) : ¬ f.IsRefusal := by
  cases hnul : hasNul p.text with
  | true =>
      simp only [readText, readOctets, hnul, if_true] at h
      cases h
      exact Fault.not_isRefusal_of_foreign rfl
  | false =>
      have hforeseen := foreseen_of_readText hnul h
      rintro ⟨e, he, _⟩
      cases f with
      | client e => cases hforeseen
      | chained e cause => cases hforeseen
      | _ => cases he

namespace Operations

theorem failsOnly_sourceText (p : Path) :
    FailsOnly (fun f => ¬ f.IsRefusal) (sourceText p) := by
  have hread : FailsOnly (fun f => ¬ f.IsRefusal)
      (do Act.ofExcept ((← Act.disk).readText p) : Act String) := by
    exact .bind .disk fun d => .ofExcept fun f hf => Disk.not_isRefusal_of_readText hf
  refine .bind .client fun c => ?_
  cases c.editor? with
  | none =>
      refine .bind (.pure none) fun buffered => ?_
      cases buffered with
      | none => exact hread
      | some text => exact .pure text
  | some b =>
      refine .bind .disk fun d => .bind (.ofExcept fun f hf => ?_) fun buffered => ?_
      · exact (Buffers.isUnresolved_of_key (Fault.of_map_eq_error hf)).not_isRefusal
      · cases buffered with
        | none => exact hread
        | some text => exact .pure text

end Operations

/-!
## The session

As long as the engine can be looked at, a command is refused a session because none runs.
-/

namespace Session

variable {w w' : World} {n : Nat} {s : Session}

theorem not_unseen_of_runs (h : Runs w n s) (f : Fault) : ¬ Unseen w f := by
  rcases h with ⟨_, i, e, hwatched, _⟩
  rintro ⟨t, j, d, ht, hj, hd, hfault⟩
  rw [hwatched.session] at ht
  cases ht
  rw [hwatched.number] at hj
  cases hj
  rw [hwatched.engine] at hd
  cases hd
  rw [hwatched.seen] at hfault
  cases hfault

theorem unseen_of_outside (houtside : w.Outside w') {f : Fault} (h : Unseen w' f) :
    Unseen w f := by
  rcases h with ⟨s, i, e', hs, hi, he', hfault⟩
  rw [houtside.client] at hs
  rcases forall₂_getElem? houtside.engines he' with ⟨e, he, hfades⟩
  refine ⟨s, i, e, hs, hi, he, ?_⟩
  rw [← hfades.temper]
  exact hfault

theorem not_isRefusal_of_requireRunning (hapart : w.IsApart) (hseen : forall f, ¬ Unseen w f)
    {command : String} {f : Fault} (h : requireRunning command w = .error f w') :
    ¬ f.IsRefusal := by
  unfold requireRunning at h
  rcases bind_eq_error h with hrun | ⟨running, w₁, hrun, hrest⟩
  · have hasked := asked_isRunning hapart
    rw [hrun] at hasked
    cases hasked with
    | fault hunseen => exact absurd hunseen (hseen f)
  · cases running with
    | true =>
        rw [if_pos rfl, bind_run_of_ok (client_run w₁)] at hrest
        cases hn : w₁.client.current? with
        | none =>
            rw [hn] at hrest
            cases hrest
            exact Fault.not_isRefusal_of_foreign rfl
        | some n =>
            rw [hn] at hrest
            cases hrest
    | false =>
        cases hrest
        rintro ⟨e, he, hkind⟩
        cases he
        cases hkind

theorem failsOnly_ofNumber (n : Nat) : FailsOnly (fun f => ¬ f.IsRefusal) (ofNumber n) := by
  unfold ofNumber
  refine .bind .client fun c => ?_
  split
  · exact .pure _
  · exact .throw (Fault.not_isRefusal_of_foreign rfl)

end Session

/-!
## The answer

What the transport answers is passed on, or else what it fails with. Decoding an answer fails
as the command fails.
-/

/-- Over connections, a call is refused only if a peer fails so. -/
theorem Transport.peer_of_refusal {w w' : World} (hwire : w.surroundings.transport = .wire)
    {s : Session} {method : String} {args : List Value} {f : Fault}
    (h : call s method args w = .error f w') (hrefusal : f.IsRefusal) :
    .unreachable f ∈ w.surroundings.peers ∨ .fails f ∈ w.surroundings.peers := by
  cases hout : outcome ⟨s.url, w.client.options.timeout, method, args⟩ w.surroundings.peers with
  | ok v =>
      rcases call_of_outcome_ok hwire hout with ⟨w₁, hcall⟩
      rw [hcall] at h
      cases h
  | error g =>
      rcases call_of_outcome_error hwire hout with ⟨w₁, hcall⟩
      rw [hcall] at h
      cases h
      -- What the transport reports itself is never of the kind that refuses arguments.
      rcases hrefusal with ⟨e, he, hkind⟩
      have hother := ofFault_of_contract he hkind
      have hsame : reported w.surroundings.log?
          ⟨s.url, w.client.options.timeout, method, args⟩ g = g := by
        simp only [reported, hother, report]
      rw [hsame] at he ⊢
      cases unreported_of_outcome hout (isWireTrouble_of_other hother) with
      | peer hp => exact hp
      | _ => cases he

theorem Dispatch.refusal_of_send {c : Command} {n : Nat} {s : Session} {args : List Value}
    {w w' : World} {f : Fault} (h : send c n s args w = .error f w') (hrefusal : f.IsRefusal) :
    exists w₁, Transport.call s c.name args w = .error f w₁ := by
  have hsettle : FailsOnly Fault.IsUnresolved (settle c n s args) :=
    .bind (.modify _) fun _ => .bind (Editor.failsOnly_maybeSync _) fun _ => .pure _
  have hrecord : forall answer : Value, FailsOnly Fault.IsUnresolved (do
      record logger .debug "dispatched" [("method", .text c.name)]
      return answer) :=
    fun _ => .bind (.modify _) fun _ => .pure _
  unfold send at h
  rcases bind_eq_error h with hcall | ⟨answer, w₁, _, hrest⟩
  · exact ⟨w', hcall⟩
  · -- Once there is an answer, only following the files can fail.
    have hunresolved : f.IsUnresolved := by
      split at hrest
      · exact FailsOnly.bind hsettle (fun _ => hrecord answer) w₁ f w' hrest
      · exact hrecord answer w₁ f w' hrest
    exact absurd hrefusal hunresolved.not_isRefusal

namespace Operations

variable {w w' : World} {f : Fault}

theorem not_isRefusal_of_resources (hapart : w.IsApart)
    (hseen : forall f, ¬ Session.Unseen w f) {c : Command} {answer : Value}
    (h : resources c answer w = .error f w') : ¬ f.IsRefusal := by
  unfold resources at h
  rcases bind_eq_error h with hroot | ⟨root, w₁, _, hread⟩
  · rcases bind_eq_error hroot with hrun | ⟨n, w₁, _, hnumber⟩
    · exact Session.not_isRefusal_of_requireRunning hapart hseen hrun
    · refine FailsOnly.bind (Session.failsOnly_ofNumber n) (fun _ => .pure _) w₁ f w' hnumber
  · exact (isFailureOf_of_readAnswer (ofExcept_eq_error hread).1).not_isRefusal

end Operations

theorem Query.not_isRefusal_of_decode {w w' : World} (hapart : w.IsApart)
    (hseen : forall f, ¬ Session.Unseen w f) {q : Query} {answer : Value} {f : Fault}
    (h : q.decode answer w = .error f w') : ¬ f.IsRefusal := by
  cases q with
  | resources directory? => exact Operations.not_isRefusal_of_resources hapart hseen h
  | proposals path position text =>
      have hread := (ofExcept_eq_error h).1
      exact (Operations.isFailureOf_of_readAnswer hread).not_isRefusal
  | history stack =>
      -- Null is read without a session.
      by_cases hnull : answer = .null
      · subst hnull
        cases h
      · rw [decode_history hnull] at h
        rcases bind_eq_error h with hitems | ⟨descriptions, w₁, hitems, hrest⟩
        · exact (History.isFailureOf_of_items (ofExcept_eq_error hitems).1).not_isRefusal
        · cases (ofExcept_eq_ok hitems).2
          rcases bind_eq_error hrest with hrun | ⟨n, w₂, _, hmarks⟩
          · exact Session.not_isRefusal_of_requireRunning hapart hseen hrun
          · exact FailsOnly.bind (Session.failsOnly_ofNumber n)
              (fun _ => .bind .client fun _ => .pure _) w₂ f w' hmarks

end EngineClient
