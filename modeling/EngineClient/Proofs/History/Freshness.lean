import EngineClient.History
import EngineClient.Proofs.Run.Onward

/-!
# Which history entries hold

An entry stands as long as the session that it was read in is in use and its generation has
not grown. A move that opens or closes a session, or that changes files, makes it outdated,
and an outdated entry stays so in every run. Main statement: `isCurrent_of_fetched`.
-/

namespace EngineClient

/-!
## What disturbs entries
-/

/-- The move opens or closes a session, or it changes files and its answer arrives. -/
def Move.Disturbs (w : World) (m : Move) : Prop :=
  ¬ m.Watches ∨ m.Changes w

def Undisturbed (steps : List (World × Move)) : Prop :=
  forall p, p ∈ steps -> ¬ p.2.Disturbs p.1

theorem undisturbed_nil : Undisturbed [] := by
  intro p hp
  cases hp

theorem undisturbed_append_singleton {steps : List (World × Move)} {w : World} {m : Move} :
    Undisturbed (steps ++ [(w, m)]) ↔ Undisturbed steps ∧ ¬ m.Disturbs w := by
  constructor
  · intro h
    constructor
    · exact fun p hp => h p (List.mem_append_left _ hp)
    · exact h (w, m) (List.mem_append_right _ (List.mem_singleton_self _))
  · rintro ⟨hsteps, hlast⟩ p hp
    rcases List.mem_append.mp hp with hp | hp
    · exact hsteps p hp
    · rw [List.mem_singleton.mp hp]
      exact hlast

theorem World.Leads.isApart {w w' : World} {steps : List (World × Move)}
    (h : w.Leads steps w') (hapart : w.IsApart) : w'.IsApart := by
  induction h with
  | refl => exact hapart
  | elsewhere _ hstep _ => exact hstep.apart
  | move _ m ih => exact m.isApart ih

namespace HistoryEntry

variable {e : HistoryEntry} {i : Nat} {w w' : World}

/-!
## Outdated entries
-/

/-- A later session was begun, or the session in use, if there is one, has a higher
generation. -/
def Outdated (e : HistoryEntry) (w : World) : Prop :=
  e.epoch < w.client.epoch ∨
    w.client.epoch = e.epoch ∧
      forall s, w.client.session? = some s -> e.generation < s.generation

theorem Outdated.epoch_le (h : e.Outdated w) : e.epoch ≤ w.client.epoch := by
  rcases h with hlater | ⟨hsame, _⟩
  · exact Nat.le_of_lt hlater
  · exact Nat.le_of_eq hsame.symm

theorem Outdated.elsewhere (hstep : w.Elsewhere w') (h : e.Outdated w) : e.Outdated w' := by
  unfold Outdated
  rw [hstep.epoch, hstep.session?]
  exact h

theorem outdated_of_none (hepoch : e.epoch ≤ w.client.epoch)
    (hnone : w.client.session? = none) : e.Outdated w := by
  rcases Nat.lt_or_eq_of_le hepoch with hlater | hsame
  · exact Or.inl hlater
  · refine Or.inr ⟨hsame.symm, ?_⟩
    intro s hs
    rw [hnone] at hs
    cases hs

theorem outdated_of_switch (hepoch : e.epoch ≤ w.client.epoch) {m : Move}
    (hswitch : ¬ m.Watches) : e.Outdated (m.after w) := by
  cases m with
  | openOn directory =>
      rcases Session.epoch_after_openOn directory w with hnext | ⟨hsame, hnone⟩
      · left
        change e.epoch < ((Session.openOn directory).after w).client.epoch
        rw [hnext]
        exact Nat.lt_succ_of_le hepoch
      · refine outdated_of_none ?_ hnone
        change e.epoch ≤ ((Session.openOn directory).after w).client.epoch
        rwa [hsame]
  | close =>
      refine outdated_of_none ?_ (Session.session?_after_close w)
      change e.epoch ≤ (Session.close.after w).client.epoch
      rwa [Session.epoch_after_close]
  | _ => exact absurd trivial hswitch

theorem Outdated.move (hapart : w.IsApart) (m : Move) (h : e.Outdated w) :
    e.Outdated (m.after w) := by
  by_cases hwatches : m.Watches
  · have hepoch := (Move.calm hapart hwatches).epoch
    rcases h with hlater | ⟨hsame, hgrown⟩
    · left
      rwa [hepoch]
    · refine Or.inr ⟨hepoch.trans hsame, ?_⟩
      intro t ht
      rcases Move.session_after hapart hwatches with
        ⟨s, s', hs, hs', _, hkept, hnext⟩ | ⟨hnone, _⟩
      · rw [hs'] at ht
        cases ht
        have hlt := hgrown s hs
        by_cases hchanges : m.Changes w
        · rw [hnext hchanges]
          exact Nat.lt_succ_of_lt hlt
        · rwa [hkept hchanges]
      · rw [hnone] at ht
        cases ht
  · exact outdated_of_switch h.epoch_le hwatches

theorem Outdated.leads {steps : List (World × Move)} (hapart : w.IsApart)
    (hleads : w.Leads steps w') (h : e.Outdated w) : e.Outdated w' := by
  induction hleads with
  | refl => exact h
  | elsewhere _ hstep ih => exact ih.elsewhere hstep
  | move hleads m ih => exact ih.move (hleads.isApart hapart) m

/-!
## Entries that stand
-/

/-- The session that an entry was read in is in use with the engine of a number, and its
generation is still the entry's. -/
structure Stands (e : HistoryEntry) (i : Nat) (w : World) : Prop where
  epoch : w.client.epoch = e.epoch
  session :
    exists s,
      w.client.session? = some s ∧ s.post = (.running, some i) ∧ s.generation = e.generation

theorem Stands.elsewhere (hstep : w.Elsewhere w') (h : e.Stands i w) : e.Stands i w' := by
  constructor
  · rw [hstep.epoch]
    exact h.epoch
  · rw [hstep.session?]
    exact h.session

/-- An entry that stands is outdated by a move that disturbs entries. Any other move leaves it
standing, or finds that the engine has ended. -/
theorem Stands.move (hapart : w.IsApart) (m : Move) (h : e.Stands i w) :
    (m.Disturbs w -> e.Outdated (m.after w)) ∧
      (¬ m.Disturbs w ->
        e.Stands i (m.after w) ∨ e.Outdated (m.after w) ∧ (m.after w).HasEnded i) := by
  have hle : e.epoch ≤ w.client.epoch := Nat.le_of_eq h.epoch.symm
  by_cases hwatches : m.Watches
  · have hepoch : (m.after w).client.epoch = e.epoch :=
      (Move.calm hapart hwatches).epoch.trans h.epoch
    rcases h.session with ⟨s, hs, hpost, hgeneration⟩
    rcases Move.session_after hapart hwatches with
      ⟨t, s', ht, hs', hpost', hkept, hnext⟩ | ⟨hnone, hended⟩
    · rw [hs] at ht
      cases ht
      constructor
      · rintro (hswitch | hchanges)
        · exact absurd hwatches hswitch
        · refine Or.inr ⟨hepoch, ?_⟩
          intro u hu
          rw [hs'] at hu
          cases hu
          rw [hnext hchanges, hgeneration]
          exact Nat.lt_succ_self _
      · intro hcalm
        have hstays : ¬ m.Changes w := fun hchanges => hcalm (Or.inr hchanges)
        left
        exact ⟨hepoch, s', hs', hpost'.trans hpost, (hkept hstays).trans hgeneration⟩
    · have houtdated : e.Outdated (m.after w) :=
        outdated_of_none (Nat.le_of_eq hepoch.symm) hnone
      have hengine : s.engine? = some i := congrArg Prod.snd hpost
      exact ⟨fun _ => houtdated, fun _ => Or.inr ⟨houtdated, hended s i hs hengine⟩⟩
  · have houtdated := outdated_of_switch (m := m) hle hwatches
    exact ⟨fun _ => houtdated, fun hcalm => absurd (Or.inl hwatches) hcalm⟩

/-!
## Entries in a run
-/

/-- What has become of an entry after the steps of a run: it stands, its engine has ended, or
a step has disturbed it. -/
inductive Fate (e : HistoryEntry) (i : Nat) (steps : List (World × Move)) (w : World) : Prop where
  | stands (hcalm : Undisturbed steps) (h : e.Stands i w)
  | ended (hcalm : Undisturbed steps) (h : e.Outdated w) (hended : w.HasEnded i)
  | disturbed (hnot : ¬ Undisturbed steps) (h : e.Outdated w)

theorem Fate.elsewhere {steps : List (World × Move)} (hstep : w.Elsewhere w')
    (h : e.Fate i steps w) : e.Fate i steps w' := by
  cases h with
  | stands hcalm h => exact .stands hcalm (h.elsewhere hstep)
  | ended hcalm h hended => exact .ended hcalm (h.elsewhere hstep) (hended.steady hstep.steady)
  | disturbed hnot h => exact .disturbed hnot (h.elsewhere hstep)

theorem Fate.move {steps : List (World × Move)} (hapart : w.IsApart) (m : Move)
    (h : e.Fate i steps w) : e.Fate i (steps ++ [(w, m)]) (m.after w) := by
  by_cases hdisturbs : m.Disturbs w
  · have hnot : ¬ Undisturbed (steps ++ [(w, m)]) :=
      fun hcalm => (undisturbed_append_singleton.mp hcalm).2 hdisturbs
    cases h with
    | stands hcalm h => exact .disturbed hnot ((h.move hapart m).1 hdisturbs)
    | ended hcalm h hended => exact .disturbed hnot (h.move hapart m)
    | disturbed hnot' h => exact .disturbed hnot (h.move hapart m)
  · cases h with
    | stands hcalm h =>
        have hcalm' := undisturbed_append_singleton.mpr ⟨hcalm, hdisturbs⟩
        rcases (h.move hapart m).2 hdisturbs with hstands | ⟨houtdated, hended⟩
        · exact .stands hcalm' hstands
        · exact .ended hcalm' houtdated hended
    | ended hcalm h hended =>
        have hcalm' := undisturbed_append_singleton.mpr ⟨hcalm, hdisturbs⟩
        have hwatches : m.Watches := not_not.mp fun hswitch => hdisturbs (Or.inl hswitch)
        exact .ended hcalm' (h.move hapart m) (hended.calm (Move.calm hapart hwatches))
    | disturbed hnot h =>
        refine .disturbed (fun hcalm => hnot ?_) (h.move hapart m)
        exact (undisturbed_append_singleton.mp hcalm).1

theorem Stands.fate {steps : List (World × Move)} (hapart : w.IsApart)
    (h : e.Stands i w) (hleads : w.Leads steps w') : e.Fate i steps w' := by
  -- `Fate` is closed under every step of a run, `Stands` alone is not: an engine may end.
  induction hleads with
  | refl => exact .stands undisturbed_nil h
  | elsewhere _ hstep ih => exact ih.elsewhere hstep
  | move hleads m ih => exact ih.move (hleads.isApart hapart) m

end HistoryEntry

/-- The engine of a number lives, as a look at it shows. -/
def World.Lives (w : World) (i : Nat) : Prop :=
  exists d, w.engines[i]? = some d ∧ d.look.isAlive = true

theorem World.HasEnded.not_lives {w : World} {i : Nat} (h : w.HasEnded i) : ¬ w.Lives i := by
  rintro ⟨d, hd, hlives⟩
  have halive := (Engine.Fades.look d).alive hlives
  rw [h d hd] at halive
  cases halive

namespace History

open Act

/-!
## Asking whether an entry holds
-/

theorem isCurrent_of_none {w : World} (h : w.client.current? = none) (e : HistoryEntry) :
    isCurrent e w = .ok false w := by
  unfold isCurrent
  rw [bind_run_of_ok (client_run w), h]
  rfl

theorem isCurrent_of_error {w w' : World} {f : Fault} {s : Session}
    (hs : w.client.session? = some s) (hrun : Session.isRunning w = .error f w')
    (e : HistoryEntry) : isCurrent e w = .error f w' := by
  rcases Client.session?_eq_some_iff.mp hs with ⟨n, hn, _⟩
  unfold isCurrent
  rw [bind_run_of_ok (client_run w), hn]
  exact bind_run_of_error hrun

theorem isCurrent_of_false {w w' : World} (hrun : Session.isRunning w = .ok false w')
    (e : HistoryEntry) :
    isCurrent e w = .ok false w ∨ isCurrent e w = .ok false w' := by
  cases hn : w.client.current? with
  | none =>
      exact Or.inl (isCurrent_of_none hn e)
  | some n =>
      right
      unfold isCurrent
      rw [bind_run_of_ok (client_run w), hn]
      exact bind_run_of_ok hrun

theorem isCurrent_of_true {w w' : World} {s : Session} (hs : w.client.session? = some s)
    (hrun : Session.isRunning w = .ok true w') (hclient : w'.client = w.client)
    (e : HistoryEntry) :
    isCurrent e w =
      .ok (e.epoch == w.client.epoch && e.generation == s.generation) w' := by
  rcases Client.session?_eq_some_iff.mp hs with ⟨n, hn, hns⟩
  have hnumber : Session.ofNumber n w' = .ok s w' := by
    refine Session.ofNumber_run ?_
    rwa [hclient]
  unfold isCurrent
  rw [bind_run_of_ok (client_run w), hn]
  refine (bind_run_of_ok hrun).trans ?_
  rw [if_pos rfl, bind_run_of_ok hnumber, bind_run_of_ok (client_run w'), hclient]
  rfl

theorem checkCurrent_of_true {w w' : World} {e : HistoryEntry}
    (h : isCurrent e w = .ok true w') : checkCurrent e w = .ok e w' := by
  unfold checkCurrent
  rw [bind_run_of_ok h]
  rfl

theorem checkCurrent_of_false {w w' : World} {e : HistoryEntry}
    (h : isCurrent e w = .ok false w') : checkCurrent e w = .error (stale e) w' := by
  unfold checkCurrent
  rw [bind_run_of_ok h]
  rfl

theorem checkCurrent_of_error {w w' : World} {e : HistoryEntry} {f : Fault}
    (h : isCurrent e w = .error f w') : checkCurrent e w = .error f w' := by
  unfold checkCurrent
  exact bind_run_of_error h

theorem isCurrent_of_outdated {w : World} (hapart : w.IsApart) {e : HistoryEntry}
    (h : e.Outdated w) :
    (exists f, Session.Unseen w f ∧ isCurrent e w = .error f w) ∨
      exists w', isCurrent e w = .ok false w' ∧ e.Outdated w' ∧ w'.IsApart := by
  have hasked := Session.asked_isRunning hapart
  have hmarks : forall {s : Session} {w' : World}, w.client.session? = some s ->
      Session.isRunning w = .ok true w' -> w'.client = w.client ->
        isCurrent e w = .ok false w' := by
    intro s w' hs hrun hclient
    rw [isCurrent_of_true hs hrun hclient]
    have hdiffers : (e.epoch == w.client.epoch && e.generation == s.generation) = false := by
      rcases h with hlater | ⟨_, hgrown⟩
      · simp [Nat.ne_of_lt hlater]
      · simp [Nat.ne_of_lt (hgrown s hs)]
    rw [hdiffers]
  cases hrun : Session.isRunning w with
  | error f w' =>
      rw [hrun] at hasked
      cases hasked with
      | fault hunseen =>
          rcases hunseen with ⟨s, i, d, hs, hrest⟩
          exact Or.inl ⟨f, ⟨s, i, d, hs, hrest⟩, isCurrent_of_error hs hrun e⟩
  | ok running w' =>
      right
      rw [hrun] at hasked
      cases hasked with
      | none hs =>
          exact ⟨w, (isCurrent_of_false hrun e).elim id id, h, hapart⟩
      | idle hs hidle =>
          exact ⟨w, (isCurrent_of_false hrun e).elim id id, h, hapart⟩
      | missing hs hi hmissing =>
          exact ⟨w, hmarks hs hrun rfl, h, hapart⟩
      | @alive s i d hwatched halive =>
          have hlooked := Session.calm_isRunning w hapart
          rw [after_of_ok hrun] at hlooked
          exact ⟨_, hmarks hwatched.session hrun rfl, h, hlooked.1⟩
      | exited hwatched hdead hwanes hclose =>
          rcases isCurrent_of_false hrun e with hfalse | hfalse
          · exact ⟨w, hfalse, h, hapart⟩
          · -- The look itself closed the session, as any other move may.
            have houtdated : e.Outdated (Move.isRunning.after w) := h.move hapart .isRunning
            have hcalm := Session.calm_isRunning w hapart
            rw [Move.after, after_of_ok hrun] at houtdated
            rw [after_of_ok hrun] at hcalm
            exact ⟨w', hfalse, houtdated, hcalm.1⟩

theorem isCurrent_of_stands {w : World} (hapart : w.IsApart) (hnumbered : w.IsNumbered)
    {e : HistoryEntry} {i : Nat} (h : e.Stands i w) :
    (exists f, Session.Unseen w f ∧ isCurrent e w = .error f w) ∨
      (w.Lives i ∧ exists w', isCurrent e w = .ok true w') ∨
        ¬ w.Lives i ∧
          exists w', isCurrent e w = .ok false w' ∧ e.Outdated w' ∧ w'.IsApart := by
  rcases h.session with ⟨s, hs, hpost, hgeneration⟩
  have hstate : s.state = .running := congrArg Prod.fst hpost
  have hengine : s.engine? = some i := congrArg Prod.snd hpost
  have hasked := Session.asked_isRunning hapart
  cases hrun : Session.isRunning w with
  | error f w' =>
      rw [hrun] at hasked
      cases hasked with
      | fault hunseen => exact Or.inl ⟨f, hunseen, isCurrent_of_error hs hrun e⟩
  | ok running w' =>
      right
      rw [hrun] at hasked
      cases hasked with
      | none hnone =>
          rw [hs] at hnone
          cases hnone
      | idle ht hidle =>
          rw [hs] at ht
          cases ht
          rw [hidle hstate] at hengine
          cases hengine
      | missing ht hi hmissing =>
          -- No run leads to a session in use whose engine was never started.
          have hlt := hnumbered _ _ ht hi
          rw [List.getElem?_eq_getElem hlt] at hmissing
          cases hmissing
      | @alive t j d hwatched halive =>
          left
          have ht := hwatched.session
          rw [hs] at ht
          cases ht
          have hi := hwatched.number
          rw [hengine] at hi
          cases hi
          constructor
          · exact ⟨d, hwatched.engine, halive⟩
          · have htrue := isCurrent_of_true hs hrun rfl e
            rw [h.epoch, hgeneration, beq_self_eq_true, beq_self_eq_true] at htrue
            exact ⟨_, htrue⟩
      | @exited t j d w₁ _ hwatched hdead hwanes hclose =>
          right
          have ht := hwatched.session
          rw [hs] at ht
          cases ht
          have hi := hwatched.number
          rw [hengine] at hi
          cases hi
          have hcalm := Session.calm_isRunning w hapart
          rw [after_of_ok hrun] at hcalm
          have hnone : w'.client.session? = none := by
            rw [← after_of_ok hclose]
            exact Session.session?_after_close w₁
          have houtdated : e.Outdated w' := by
            refine HistoryEntry.outdated_of_none ?_ hnone
            exact Nat.le_of_eq (hcalm.2.epoch.trans h.epoch).symm
          constructor
          · rintro ⟨c, hc, hlives⟩
            rw [hwatched.engine] at hc
            cases hc
            rw [hdead] at hlives
            cases hlives
          · rcases Client.session?_eq_some_iff.mp hs with ⟨n, hn, _⟩
            refine ⟨w', ?_, houtdated, hcalm.1⟩
            unfold isCurrent
            rw [bind_run_of_ok (client_run w), hn]
            exact bind_run_of_ok hrun

theorem not_isCurrent_of_leads {w w' w'' : World} {steps : List (World × Move)}
    (hapart : w.IsApart) {e : HistoryEntry} (h : e.Outdated w) (hleads : w.Leads steps w') :
    isCurrent e w' ≠ .ok true w'' := by
  intro hcurrent
  rcases isCurrent_of_outdated (hleads.isApart hapart) (h.leads hapart hleads) with
    ⟨f, _, hrun⟩ | ⟨v, hrun, _⟩
  · rw [hcurrent] at hrun
    cases hrun
  · rw [hcurrent] at hrun
    cases hrun

/-!
## Fetching entries
-/

theorem fetch_eq_ok {stack : HistoryStack} {w w' : World} {es : List HistoryEntry}
    (h : fetch stack w = .ok es w') {e : HistoryEntry} (he : e ∈ es) :
    exists v w₁ descriptions n s,
      (command stack).send [] w = .ok v w₁ ∧
        items (command stack).name v = .ok descriptions ∧
        Session.requireRunning (command stack).name w₁ = .ok n w' ∧
        w'.client.sessions[n]? = some s ∧
        es = HistoryEntry.ofStack stack w'.client.epoch s.generation descriptions := by
  unfold fetch at h
  rcases bind_eq_ok h with ⟨v, w₁, hsend, hread⟩
  split at hread
  · cases hread
    cases he
  · rcases bind_eq_ok hread with ⟨descriptions, w₂, hitems, hask⟩
    rcases ofExcept_eq_ok hitems with ⟨hdescriptions, rfl⟩
    rcases bind_eq_ok hask with ⟨n, w₃, hrunning, hnumber⟩
    rcases bind_eq_ok hnumber with ⟨s, w₄, hnumber, hmark⟩
    rcases Session.ofNumber_eq_ok hnumber with ⟨hs, rfl⟩
    rw [bind_run_of_ok (client_run w₄)] at hmark
    cases hmark
    exact ⟨v, w₂, descriptions, n, s, hsend, hdescriptions, hrunning, hs, rfl⟩

theorem running_of_requireRunning {w w' : World} (hapart : w.IsApart)
    (hnumbered : w.IsNumbered) {command : String} {n : Nat}
    (h : Session.requireRunning command w = .ok n w') :
    exists s i, w'.client.session? = some s ∧ s.post = (.running, some i) := by
  have hasked := Session.asked_isRunning hapart
  have hclient := (Dispatch.current_of_requireRunning hapart h).2
  cases hrun : Session.isRunning w with
  | error f w₁ =>
      unfold Session.requireRunning at h
      rw [bind_run_of_error hrun] at h
      cases h
  | ok running w₁ =>
      cases running with
      | false =>
          rw [Session.requireRunning_of_stopped hrun] at h
          cases h
      | true =>
          rw [hrun] at hasked
          cases hasked with
          | missing hs hi hmissing =>
              have hlt := hnumbered _ _ hs hi
              rw [List.getElem?_eq_getElem hlt] at hmissing
              cases hmissing
          | @alive s i d hwatched halive =>
              refine ⟨s, i, ?_, Prod.ext hwatched.running hwatched.number⟩
              rw [hclient]
              exact hwatched.session

/-- Entries stand when they are fetched, and the run of the client goes on from there. -/
theorem stands_of_fetch {opened : List Nat} {w w' : World}
    (h : Reached (fun _ _ => True) opened w) {stack : HistoryStack} {es : List HistoryEntry}
    (hfetch : fetch stack w = .ok es w') {e : HistoryEntry} (he : e ∈ es) :
    (exists opened', Reached (fun _ _ => True) opened' w') ∧
      exists s i, w'.client.session? = some s ∧ s.engine? = some i ∧ e.Stands i w' := by
  rcases fetch_eq_ok hfetch he with
    ⟨v, w₁, descriptions, n, s, hsend, hitems, hrunning, hs, rfl⟩
  have hsent := h.move (.dispatch (.text (command stack).name) []) trivial
  rw [Move.after, dispatch_of_found (command stack).find_name, after_of_ok hsend] at hsent
  have hapart := hsent.isApart
  have hasked := hsent.move (.requireRunning (command stack).name) trivial
  rw [Move.after, after_of_ok hrunning] at hasked
  rcases running_of_requireRunning hapart (World.IsNumbered.of_reached hsent) hrunning with
    ⟨t, i, ht, hpost⟩
  rcases Dispatch.current_of_requireRunning hapart hrunning with ⟨hn, hclient⟩
  have hst : w'.client.session? = some s := by
    refine Client.session?_eq_some_iff.mpr ⟨n, ?_, hs⟩
    rwa [hclient]
  rw [hst] at ht
  cases ht
  refine ⟨⟨_, hasked⟩, s, i, hst, congrArg Prod.snd hpost, ?_⟩
  rcases List.mem_mapIdx.mp he with ⟨k, hk, rfl⟩
  exact ⟨rfl, s, hst, hpost, rfl⟩

/-!
## Which entries hold
-/

/-- At any time after an entry was fetched it holds exactly if its engine lives, no session was
opened or closed, and no command that changes files was answered, unless looking at the engine
fails. Once it does not hold it never does again. -/
theorem isCurrent_of_fetched {opened : List Nat} {w₀ w w' : World}
    (h : Reached (fun _ _ => True) opened w₀) {stack : HistoryStack} {es : List HistoryEntry}
    (hfetch : fetch stack w₀ = .ok es w) {steps : List (World × Move)}
    (hleads : w.Leads steps w') {e : HistoryEntry} (he : e ∈ es) :
    exists s i,
      w.client.session? = some s ∧ s.engine? = some i ∧
        ((exists f,
            Session.Unseen w' f ∧ isCurrent e w' = .error f w' ∧
              checkCurrent e w' = .error f w') ∨
          (Undisturbed steps ∧ w'.Lives i) ∧
            (exists w'', isCurrent e w' = .ok true w'' ∧ checkCurrent e w' = .ok e w'') ∨
          ¬ (Undisturbed steps ∧ w'.Lives i) ∧
            exists w'',
              isCurrent e w' = .ok false w'' ∧ checkCurrent e w' = .error (stale e) w'' ∧
                forall later v v', w''.Leads later v -> isCurrent e v ≠ .ok true v') := by
  rcases stands_of_fetch h hfetch he with ⟨⟨opened₁, hreached⟩, s, i, hs, hi, hstands⟩
  rcases hleads.reached hreached with ⟨opened', hreached'⟩
  have hapart' := hreached'.isApart
  have hfails : forall {f : Fault}, Session.Unseen w' f -> isCurrent e w' = .error f w' ->
      exists f, Session.Unseen w' f ∧ isCurrent e w' = .error f w' ∧
        checkCurrent e w' = .error f w' :=
    fun hunseen hrun => ⟨_, hunseen, hrun, checkCurrent_of_error hrun⟩
  have hends : forall {w'' : World}, isCurrent e w' = .ok false w'' -> e.Outdated w'' ->
      w''.IsApart ->
        exists w'', isCurrent e w' = .ok false w'' ∧ checkCurrent e w' = .error (stale e) w'' ∧
          forall later v v', w''.Leads later v -> isCurrent e v ≠ .ok true v' := by
    intro w'' hrun houtdated hapart''
    refine ⟨w'', hrun, checkCurrent_of_false hrun, ?_⟩
    intro later v v' hlater
    exact not_isCurrent_of_leads hapart'' houtdated hlater
  refine ⟨s, i, hs, hi, ?_⟩
  cases hstands.fate hreached.isApart hleads with
  | stands hcalm hstands' =>
      rcases isCurrent_of_stands hapart' (World.IsNumbered.of_reached hreached') hstands' with
        ⟨f, hunseen, hrun⟩ | ⟨hlives, w'', hrun⟩ | ⟨hdead, w'', hrun, houtdated, hapart''⟩
      · exact Or.inl (hfails hunseen hrun)
      · exact Or.inr (Or.inl ⟨⟨hcalm, hlives⟩, w'', hrun, checkCurrent_of_true hrun⟩)
      · refine Or.inr (Or.inr ⟨?_, hends hrun houtdated hapart''⟩)
        exact fun hboth => hdead hboth.2
  | ended hcalm houtdated hended =>
      rcases isCurrent_of_outdated hapart' houtdated with
        ⟨f, hunseen, hrun⟩ | ⟨w'', hrun, houtdated'', hapart''⟩
      · exact Or.inl (hfails hunseen hrun)
      · refine Or.inr (Or.inr ⟨?_, hends hrun houtdated'' hapart''⟩)
        exact fun hboth => hended.not_lives hboth.2
  | disturbed hnot houtdated =>
      rcases isCurrent_of_outdated hapart' houtdated with
        ⟨f, hunseen, hrun⟩ | ⟨w'', hrun, houtdated'', hapart''⟩
      · exact Or.inl (hfails hunseen hrun)
      · refine Or.inr (Or.inr ⟨?_, hends hrun houtdated'' hapart''⟩)
        exact fun hboth => hnot hboth.1

def changedTwice : World :=
  { firstSession with
    surroundings :=
      { replies :=
          [(Command.undoHistory.name, [{ result := .ok (.list [.text "b", .text "a"]) }])] } }

theorem reached_changedTwice : Reached (fun _ _ => True) [0] changedTwice := by
  have hreached : Reached (fun _ _ => True) [0] firstSession := reached_firstSession trivial
  refine hreached.elsewhere (.of_surroundings hreached.isApart ⟨?_, ?_, ?_⟩)
  · intro plan hplan
    cases hplan
  · simp
  · intro entry hentry r hr
    rw [List.mem_singleton.mp hentry] at hr
    rw [List.mem_singleton.mp hr]
    intro effect heffect
    cases heffect

def fetchedTwice : World :=
  (fetch .undo).after changedTwice

theorem changes_fetchedTwice :
    (Move.dispatch (.text Command.undo.name) []).Changes fetchedTwice := by
  have hrunning : Session.requireRunning Command.undo.name fetchedTwice =
      .ok 0 (fetchedTwice.looked 0) := rfl
  exact ⟨.undo, rfl, rfl, 0, _, _, .null, _, ⟨rfl, _, hrunning, rfl, rfl⟩, by rfl⟩

theorem isCurrent_until_undo :
    exists es,
      fetch .undo changedTwice = .ok es fetchedTwice ∧ es.length = 2 ∧
        forall e, e ∈ es ->
          (exists w, isCurrent e fetchedTwice = .ok true w) ∧
            exists w,
              isCurrent e ((dispatch (.text Command.undo.name) []).after fetchedTwice) =
                .ok false w := by
  have hfetch : fetch .undo changedTwice =
      .ok (HistoryEntry.ofStack .undo 1 0 [.text "b", .text "a"]) fetchedTwice := rfl
  refine ⟨_, hfetch, rfl, ?_⟩
  intro e he
  constructor
  · rcases isCurrent_of_fetched reached_changedTwice hfetch .refl he with
      ⟨s, i, hs, hi, ⟨f, ⟨t, j, d, ht, hj, hd, hfault⟩, _⟩ | ⟨_, w', hrun, _⟩ | ⟨hnot, _⟩⟩
    · cases ht
      cases hj
      cases hd
      cases hfault
    · exact ⟨w', hrun⟩
    · cases hs
      cases hi
      exact absurd ⟨undisturbed_nil, _, rfl, rfl⟩ hnot
  · rcases isCurrent_of_fetched reached_changedTwice hfetch
        (.move .refl (.dispatch (.text Command.undo.name) [])) he with
      ⟨s, i, hs, hi, ⟨f, ⟨t, j, d, ht, hj, hd, hfault⟩, _⟩ | ⟨⟨hcalm, _⟩, _⟩ | ⟨_, w', hrun, _⟩⟩
    · cases ht
      cases hj
      cases hd
      cases hfault
    · exact absurd (Or.inr changes_fetchedTwice) (hcalm _ (List.mem_singleton_self _))
    · exact ⟨w', hrun⟩

end History
end EngineClient
