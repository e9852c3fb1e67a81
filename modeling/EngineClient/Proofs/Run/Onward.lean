import EngineClient.Proofs.Dispatch.Accounting

/-!
# The session in use along a run

A run goes on from a world by moves, and between them by what happens elsewhere. A move that
neither opens nor closes keeps the session in use, or gives it up because its engine has
ended. The generation of a session that is kept grows by one if a command changed files and
its answer arrived, and stays as it is otherwise.
-/

namespace EngineClient

/-!
## Engines that have ended
-/

def World.HasEnded (w : World) (i : Nat) : Prop :=
  forall e, w.engines[i]? = some e -> e.isAlive = false

namespace World.HasEnded

variable {w w' : World} {i : Nat}

theorem steady (hsteady : w.Steady w') (h : w.HasEnded i) : w'.HasEnded i := by
  intro e he
  rcases forall₂_getElem? hsteady.engines he with ⟨d, hd, houtlasts⟩
  cases halive : e.isAlive with
  | false => rfl
  | true =>
      have hlives := houtlasts halive
      rw [h d hd] at hlives
      cases hlives

theorem wanes (hwanes : w.Wanes w') (h : w.HasEnded i) : w'.HasEnded i :=
  h.steady (.of_outside (.of_wanes hwanes))

theorem close (hclose : Session.close w = .ok () w') (h : w.HasEnded i) : w'.HasEnded i := by
  have hwanes := Session.wanes_close w
  rw [Act.after_of_ok hclose] at hwanes
  refine wanes hwanes ?_
  intro e he
  rw [w.factor_retire World.engines fun _ _ => rfl] at he
  exact h e he

theorem calm (hcalm : w.Calm w') (h : w.HasEnded i) : w'.HasEnded i :=
  hcalm.keeps (P := fun v => v.HasEnded i) (fun _ _ => steady) (fun _ _ => close) h

theorem of_close {s : Session} (hs : w.client.session? = some s) (hi : s.engine? = some i)
    (hclose : Session.close w = .ok () w') : w'.HasEnded i := by
  rw [Session.close_of_some hs] at hclose
  rcases Session.finish_eq_ok hclose with ⟨w₁, hstop, hwanes⟩
  rw [hi] at hstop
  have hended : w₁.HasEnded i := Session.dead_of_stopEngine hstop
  exact hended.wanes hwanes

end World.HasEnded

/-!
## The session in use
-/

/-- Along a calm passage the session in use is kept, or it is given up when its engine has
ended. -/
theorem World.Calm.keeps_or_ends {w w' : World} (h : w.Calm w') :
    w.SamePosts w' ∨
      w'.client.session? = none ∧
        forall s i, w.client.session? = some s -> s.engine? = some i -> w'.HasEnded i := by
  refine h.keeps (P := fun v => w.SamePosts v ∨ v.client.session? = none ∧
    forall s i, w.client.session? = some s -> s.engine? = some i -> v.HasEnded i) ?_ ?_ ?_
  · rintro v v' hsteady (hsame | ⟨hnone, hended⟩)
    · exact Or.inl ⟨hsteady.current.trans hsame.current, hsteady.posts.trans hsame.posts⟩
    · right
      constructor
      · have hpost := hsteady.post_session?
        rw [hnone] at hpost
        exact Option.map_eq_none_iff.mp hpost
      · intro s i hs hi
        exact (hended s i hs hi).steady hsteady
  · rintro v v' hclose (hsame | ⟨hnone, hended⟩)
    · cases ht : v.client.session? with
      | none =>
          rw [Session.close_of_none ht] at hclose
          cases hclose
          exact Or.inl hsame
      | some t =>
          right
          constructor
          · rw [← Act.after_of_ok hclose]
            exact Session.session?_after_close v
          · intro s i hs hi
            have hpost := hsame.post_session?
            rw [ht, hs] at hpost
            have hengine : t.engine? = s.engine? :=
              congrArg Prod.snd (Option.some.inj hpost)
            exact .of_close ht (hengine.trans hi) hclose
    · rw [Session.close_of_none hnone] at hclose
      cases hclose
      exact Or.inr ⟨hnone, hended⟩
  · exact Or.inl ⟨rfl, rfl⟩

/-!
## How many sessions were begun
-/

namespace Session

open Act

theorem epoch_after_close (w : World) : (close.after w).client.epoch = w.client.epoch :=
  (still_close w).factor (·.client.epoch) fun _ => List.length_map _

theorem epoch_of_prepare {directory : String} {l : Launch} {w w₁ : World}
    (h : prepare directory w = .ok l w₁) : w₁.client.epoch = w.client.epoch := by
  rcases prepare_keeps (P := fun v => v.client.epoch = w.client.epoch) (fun _ _ _ hv => hv) h
    with ⟨w₀, hclose, hkeeps⟩
  refine hkeeps ?_
  rw [← after_of_ok hclose]
  exact epoch_after_close w

theorem epoch_begun (w : World) (l : Launch) :
    (w.begun l).client.epoch = w.client.epoch + 1 :=
  List.length_append

/-- An open begins a session, or it leaves none in use. -/
theorem epoch_after_openOn (directory : String) (w : World) :
    ((openOn directory).after w).client.epoch = w.client.epoch + 1 ∨
      ((openOn directory).after w).client.epoch = w.client.epoch ∧
        ((openOn directory).after w).client.session? = none := by
  have hopens := opens_openOn directory w
  unfold after
  cases hrun : openOn directory w with
  | ok n w' =>
      rw [hrun] at hopens
      left
      cases hopens with
      | @connected l w₁ w₂ _ i hprepare hstart hwanes =>
          rcases startEngine_eq_ok hstart with ⟨_, _, _, _, _, rfl⟩
          have hconnected : w'.client.epoch = (w₁.begun l).client.epoch := by
            rw [hwanes.client]
            exact List.length_modify ..
          rw [hconnected, epoch_begun, epoch_of_prepare hprepare]
  | error f w' =>
      rw [hrun] at hopens
      cases hopens with
      | unprepared hprepare =>
          exact Or.inr ⟨epoch_after_close w, session?_after_close w⟩
      | @withdrawn l w₁ w₂ _ _ _ hprepare hstart hos hwanes =>
          left
          have hwithdrawn : w'.client.epoch = (w₁.begun l).client.epoch := by
            rw [hwanes.client]
            rcases startEngine_eq_error hstart with rfl | rfl
            · rfl
            · rfl
          rw [hwithdrawn, epoch_begun, epoch_of_prepare hprepare]
      | @stranded l w₁ _ _ hprepare hstart hother =>
          left
          have hstranded : w'.client.epoch = (w₁.begun l).client.epoch := by
            rcases startEngine_eq_error hstart with rfl | rfl
            · rfl
            · rfl
          rw [hstranded, epoch_begun, epoch_of_prepare hprepare]

end Session

theorem World.Calm.epoch {w w' : World} (h : w.Calm w') :
    w'.client.epoch = w.client.epoch := by
  refine h.keeps (P := fun v => v.client.epoch = w.client.epoch) ?_ ?_ rfl
  · intro v v' hsteady hv
    rw [hsteady.samePosts.epoch, hv]
  · intro v v' hclose hv
    rw [← Act.after_of_ok hclose, Session.epoch_after_close, hv]

/-!
## Generations
-/

namespace Act

/-- In surroundings apart from the client, the act leaves the tally as it is. -/
abbrev Tallied {α : Type} (x : Act α) : Prop :=
  x.Moves (Within World.IsApart (Agree World.tally))

theorem tallied_of_outside {α : Type} {x : Act α} (h : x.Outside) : x.Tallied := by
  intro w hapart
  rcases h w hapart with ⟨hapart', houtside⟩
  exact ⟨hapart', World.tally_of_outside houtside⟩

theorem tallied_of_still {α : Type} {x : Act α} (hstill : x.Still) (hcalm : x.Calm) :
    x.Tallied := by
  intro w hapart
  exact ⟨(hcalm w hapart).1, World.tally_of_still (hstill w)⟩

end Act

namespace Session

open Act

theorem tallied_isRunning : isRunning.Tallied :=
  tallied_of_still still_isRunning calm_isRunning

theorem tallied_requireRunning (command : String) : (requireRunning command).Tallied :=
  moves_requireRunning tallied_isRunning command

theorem tallied_waitBy {τ : Type} {clock : Clock τ}
    (hpause : (modify clock.pause : Act PUnit).Tallied) (limit? : Option Value) :
    (waitBy clock limit?).Tallied :=
  moves_waitBy (tallied_of_outside outside_isReachable) tallied_isRunning hpause
    (fun _ _ _ _ => tallied_of_outside (outside_emit _))
    limit?

theorem tallied_waitUntilReady (limit? : Option Value) : (waitUntilReady limit?).Tallied := by
  have hpause : (modify Clock.ofWorld.pause : Act PUnit).Tallied :=
    tallied_of_outside (outside_of_agree fun _ => rfl)
  exact tallied_waitBy hpause limit?

end Session

namespace Dispatch

open Act

def Changes (w : World) (c : Command) (args : List Value) : Prop :=
  c.mutating = true ∧
    exists n s w₁ v w₂,
      Sent w c args n s w₁ ∧ Transport.call s c.name args w₁ = .ok v w₂

theorem current_of_requireRunning {w w' : World} (hapart : w.IsApart) {command : String}
    {n : Nat} (h : Session.requireRunning command w = .ok n w') :
    w.client.current? = some n ∧ w'.client = w.client := by
  unfold Session.requireRunning at h
  rcases bind_eq_ok h with ⟨running, w₁, hrun, h⟩
  have hasked := Session.asked_isRunning hapart
  rw [hrun] at hasked
  have hclient : running = true -> w₁.client = w.client := by
    intro htrue
    cases hasked with
    | missing hs hi hmissing => rfl
    | alive hwatched halive => rfl
    | none hs => cases htrue
    | idle hs hidle => cases htrue
    | exited hwatched hdead hwanes hclose => cases htrue
  cases running with
  | false =>
      cases h
  | true =>
      rw [if_pos rfl, bind_run_of_ok (client_run w₁), hclient rfl] at h
      cases hn : w.client.current? with
      | none =>
          rw [hn] at h
          cases h
      | some m =>
          rw [hn] at h
          cases h
          exact ⟨rfl, hclient rfl⟩

theorem Sent.current {w w₁ : World} (hapart : w.IsApart) {c : Command} {args : List Value}
    {n : Nat} {s : Session} (h : Sent w c args n s w₁) : w.client.current? = some n := by
  rcases h.running with ⟨w₀, hrun, _⟩
  exact (current_of_requireRunning hapart hrun).1

theorem Sent.isApart {w w₁ : World} (hapart : w.IsApart) {c : Command} {args : List Value}
    {n : Nat} {s : Session} (h : Sent w c args n s w₁) : w₁.IsApart := by
  rcases h.running with ⟨w₀, hrun, _, rfl⟩
  have hasked := (Session.calm_requireRunning c.name w hapart).1
  rw [after_of_ok hrun] at hasked
  exact hasked.of_eq rfl rfl

theorem generations_after_send {w : World} (hapart : w.IsApart) (c : Command)
    (args : List Value) :
    (¬ Changes w c args ->
      ((c.send args).after w).tally.generations = w.tally.generations) ∧
    (Changes w c args ->
      exists n,
        w.client.current? = some n ∧
          ((c.send args).after w).tally.generations =
            w.tally.generations.modify n (· + 1)) := by
  rcases sent_or_stopped w c args with ⟨n, s, w₁, hsent⟩ | ⟨hnone, f, w₁, hrun, hstill⟩
  · have hapart₁ := hsent.isApart hapart
    have htally : w₁.tally = w.tally := World.tally_of_still hsent.still
    have hcalled := congrArg Tally.generations (tally_after_call hapart₁ s c args)
    rw [after_of_run_eq hsent.issued]
    cases hcall : Transport.call s c.name args w₁ with
    | error f w₂ =>
        rw [after_of_error hcall, htally] at hcalled
        rw [after_of_error (send_of_error hcall)]
        refine ⟨fun _ => hcalled, ?_⟩
        rintro ⟨_, m, t, w₃, v, w₄, hsent', hcall'⟩
        rcases hsent.unique hsent' with ⟨_, rfl, rfl⟩
        rw [hcall] at hcall'
        cases hcall'
    | ok v w₂ =>
        rw [after_of_ok hcall, htally] at hcalled
        cases hmutating : c.mutating with
        | false =>
            rcases send_of_reading (n := n) hcall hmutating with ⟨w', hrun, hsame⟩
            rw [after_of_ok hrun, hsame]
            refine ⟨fun _ => hcalled, ?_⟩
            rintro ⟨htrue, _⟩
            rw [hmutating] at htrue
            cases htrue
        | true =>
            have hsettled := congrArg Tally.generations
              (tally_after_send_of_mutating (n := n) hcall hmutating)
            refine ⟨fun hkept => ?_, fun _ => ⟨n, hsent.current hapart, ?_⟩⟩
            · exact absurd ⟨hmutating, n, s, w₁, v, w₂, hsent, hcall⟩ hkept
            · refine hsettled.trans ?_
              exact congrArg (·.modify n (· + 1)) hcalled
  · rw [after_of_error hrun]
    refine ⟨fun _ => congrArg Tally.generations (World.tally_of_still hstill), ?_⟩
    rintro ⟨_, n, s, w₂, _, _, hsent, _⟩
    exact absurd hsent (hnone n s w₂)

end Dispatch

/-!
## Moves
-/

namespace Move

def Changes (w : World) : Move → Prop
  | .dispatch method args =>
      exists c, Command.find method = .ok c ∧ Dispatch.Changes w c args
  | _ => False

theorem generations_after {w : World} (hapart : w.IsApart) {m : Move} (h : m.Watches) :
    (¬ m.Changes w -> (m.after w).tally.generations = w.tally.generations) ∧
    (m.Changes w ->
      exists n,
        w.client.current? = some n ∧
          (m.after w).tally.generations = w.tally.generations.modify n (· + 1)) := by
  have hquiet : forall {α : Type} {x : Act α}, x.Tallied ->
      (x.after w).tally.generations = w.tally.generations :=
    fun hx => congrArg Tally.generations (hx w hapart).2
  cases m with
  | openOn directory => exact h.elim
  | close => exact h.elim
  | isRunning => exact ⟨fun _ => hquiet Session.tallied_isRunning, False.elim⟩
  | requireRunning command =>
      exact ⟨fun _ => hquiet (Session.tallied_requireRunning command), False.elim⟩
  | waitUntilReady limit? =>
      exact ⟨fun _ => hquiet (Session.tallied_waitUntilReady limit?), False.elim⟩
  | dispatch method args =>
      cases hfind : Command.find method with
      | error f =>
          have hrun : (EngineClient.dispatch method args).after w = w :=
            Act.after_of_error (dispatch_of_unknown hfind args w)
          refine ⟨fun _ => congrArg (·.tally.generations) hrun, ?_⟩
          rintro ⟨c, hfound, _⟩
          rw [hfind] at hfound
          cases hfound
      | ok c =>
          have hsend := Dispatch.generations_after_send hapart c args
          simp only [Move.after, Move.Changes, dispatch_of_found hfind, hfind]
          constructor
          · intro hkept
            exact hsend.1 fun hchanges => hkept ⟨c, rfl, hchanges⟩
          · rintro ⟨d, hd, hchanges⟩
            cases hd
            exact hsend.2 hchanges

/-- A move that neither opens nor closes keeps the session in use, and its generation grows by
one exactly if the move changes files; or the session is given up, its engine having ended. -/
theorem session_after {w : World} (hapart : w.IsApart) {m : Move} (h : m.Watches) :
    (exists s s',
      w.client.session? = some s ∧ (m.after w).client.session? = some s' ∧
        s'.post = s.post ∧ (¬ m.Changes w -> s'.generation = s.generation) ∧
        (m.Changes w -> s'.generation = s.generation + 1)) ∨
      (m.after w).client.session? = none ∧
        forall s i, w.client.session? = some s -> s.engine? = some i ->
          (m.after w).HasEnded i := by
  rcases (Move.calm hapart h).keeps_or_ends with hsame | hgone
  · have hpost := hsame.post_session?
    cases hs : w.client.session? with
    | none =>
        right
        rw [hs] at hpost
        refine ⟨Option.map_eq_none_iff.mp hpost, ?_⟩
        intro s i hsome
        cases hsome
    | some s =>
        left
        rw [hs] at hpost
        rcases Option.map_eq_some_iff.mp hpost with ⟨s', hs', hpost'⟩
        rcases Client.session?_eq_some_iff.mp hs with ⟨n, hn, hns⟩
        rcases Client.session?_eq_some_iff.mp hs' with ⟨n', hn', hns'⟩
        rw [hsame.current, hn] at hn'
        cases hn'
        have hgeneration : w.tally.generations[n]? = some s.generation := by
          simp [World.tally, hns]
        have hgeneration' : (m.after w).tally.generations[n]? = some s'.generation := by
          simp [World.tally, hns']
        rcases generations_after hapart h with ⟨hkept, hgrown⟩
        refine ⟨s, s', rfl, hs', hpost', ?_, ?_⟩
        · intro hstays
          rw [hkept hstays, hgeneration] at hgeneration'
          exact (Option.some.inj hgeneration').symm
        · intro hchanges
          rcases hgrown hchanges with ⟨k, hk, hmodify⟩
          rw [hn] at hk
          cases hk
          rw [hmodify, List.getElem?_modify_eq, hgeneration] at hgeneration'
          exact (Option.some.inj hgeneration').symm
  · exact Or.inr hgone

end Move

/-!
## Runs that go on
-/

/-- The moves of a run that goes on from a world, each with the world in which it is made. -/
inductive World.Leads (w : World) : List (World × Move) → World → Prop where
  | refl : w.Leads [] w
  | elsewhere {steps : List (World × Move)} {v v' : World} (h : w.Leads steps v)
      (hstep : v.Elsewhere v') : w.Leads steps v'
  | move {steps : List (World × Move)} {v : World} (h : w.Leads steps v) (m : Move) :
      w.Leads (steps ++ [(v, m)]) (m.after v)

theorem World.Leads.trans {v w w' : World} {steps steps' : List (World × Move)}
    (h : v.Leads steps w) (h' : w.Leads steps' w') : v.Leads (steps ++ steps') w' := by
  induction h' with
  | refl =>
      rwa [List.append_nil]
  | elsewhere _ hstep ih =>
      exact ih.elsewhere hstep
  | move _ m ih =>
      rw [← List.append_assoc]
      exact ih.move m

theorem World.Leads.reached {opened : List Nat} {w w' : World} {steps : List (World × Move)}
    (h : w.Leads steps w') (hreached : Reached (fun _ _ => True) opened w) :
    exists opened', Reached (fun _ _ => True) opened' w' := by
  induction h with
  | refl =>
      exact ⟨opened, hreached⟩
  | elsewhere _ hstep ih =>
      rcases ih with ⟨opened', hreached'⟩
      exact ⟨opened', hreached'.elsewhere hstep⟩
  | move _ m ih =>
      rcases ih with ⟨opened', hreached'⟩
      exact ⟨_, hreached'.move m trivial⟩

theorem World.Elsewhere.of_surroundings {w : World} (hapart : w.IsApart) {s : Surroundings}
    (h : s.IsApart) : w.Elsewhere { w with surroundings := s } where
  client := rfl
  engines := List.forall₂_refl w.engines
  trail := rfl
  apart := ⟨hapart.engines, h⟩

theorem World.Elsewhere.session? {w w' : World} (h : w.Elsewhere w') :
    w'.client.session? = w.client.session? := by
  have hsessions := congrArg Client.sessions h.client
  have hcurrent := congrArg Client.current? h.client
  change w'.client.sessions = w.client.sessions at hsessions
  change w'.client.current? = w.client.current? at hcurrent
  unfold Client.session?
  rw [hsessions, hcurrent]

theorem World.Elsewhere.epoch {w w' : World} (h : w.Elsewhere w') :
    w'.client.epoch = w.client.epoch :=
  congrArg (fun c => c.sessions.length) h.client

end EngineClient
