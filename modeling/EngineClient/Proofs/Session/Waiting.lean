import EngineClient.Proofs.Dispatch.Steps
import EngineClient.Proofs.Run.Calm
import EngineClient.Proofs.Session.Mortal

/-!
# Waits that break off

Waiting for a mortal engine fails with an error of the client, unless an attempt to reach it
goes wrong in a way of its own. Such a fault is passed on as it is, and the client stays as it
was. Main statement: `broken_of_waitUntilReady`.
-/

namespace EngineClient

/-- After attempts to reach an engine the client is as it was; engines have come nearer to
their end, and plans for attempts were used up. -/
structure World.Tried (w w' : World) : Prop where
  client : w'.client = w.client
  engines : List.Forall₂ Engine.Fades w.engines w'.engines
  probes : forall plan, plan ∈ w'.surroundings.probes -> plan ∈ w.surroundings.probes
  apart : w'.IsApart

theorem World.Tried.trans {w w' w'' : World} (h : w.Tried w') (h' : w'.Tried w'') :
    w.Tried w'' where
  client := h'.client.trans h.client
  engines := forall₂_trans h.engines h'.engines
  probes plan hplan := h.probes plan (h'.probes plan hplan)
  apart := h'.apart

theorem World.Tried.of_surroundings {w w' : World}
    (houtside : w'.IsApart ∧ w.Outside w') (h : w'.surroundings = w.surroundings) :
    w.Tried w' := by
  refine ⟨houtside.2.client, houtside.2.engines, ?_, houtside.1⟩
  intro plan hplan
  rw [h] at hplan
  exact hplan

namespace Session

open Act

variable {w w' : World} {f : Fault}

/-!
## Attempts
-/

theorem surroundings_meet {plan : ProbePlan} (h : plan ≠ .close) (w : World) :
    ((meet plan).after w).surroundings = w.surroundings := by
  cases plan with
  | close => exact absurd rfl h
  | _ => rfl

theorem fault_of_meet {plan : ProbePlan} (hplan : plan ≠ .close)
    (h : meet plan w = .error f w') : f.isOs = true ∨ plan = .fail f := by
  cases plan with
  | accept => cases h
  | close => exact absurd rfl hplan
  | fail g =>
      cases h
      exact Or.inr rfl
  | _ =>
      cases h
      exact Or.inl rfl

def nextProbe (w : World) : ProbePlan × List ProbePlan :=
  (nextRepeating w.surroundings.probes).getD (.accept, [])

theorem mem_nextProbe (w : World) :
    ((nextProbe w).1 ∈ w.surroundings.probes ∨ (nextProbe w).1 = .accept) ∧
      forall plan, plan ∈ (nextProbe w).2 -> plan ∈ w.surroundings.probes := by
  unfold nextProbe
  cases hnext : nextRepeating w.surroundings.probes with
  | none => simp
  | some next =>
      rcases mem_of_nextRepeating hnext with ⟨hmem, hrest⟩
      exact ⟨Or.inl hmem, hrest⟩

theorem nextProbe_ne_close (h : w.IsApart) : (nextProbe w).1 ≠ .close := by
  intro hclose
  rcases (mem_nextProbe w).1 with hmem | haccept
  · rw [hclose] at hmem
    exact h.surroundings.probes hmem
  · rw [hclose] at haccept
    cases haccept

theorem probe_run (w : World) :
    probe w = meet (nextProbe w).1
      { w with
        surroundings := { w.surroundings with probes := (nextProbe w).2 }
        trail := { w.trail with probes := w.trail.probes + 1 } } :=
  rfl

theorem tried_probe (h : w.IsApart) : w.Tried (probe.after w) := by
  rcases outside_probe w h with ⟨hapart, houtside⟩
  refine ⟨houtside.client, houtside.engines, ?_, hapart⟩
  intro plan hplan
  rw [after_of_run_eq (probe_run w), surroundings_meet (nextProbe_ne_close h)] at hplan
  exact (mem_nextProbe w).2 plan hplan

theorem fault_of_probe (hapart : w.IsApart) (h : probe w = .error f w') :
    f.isOs = true ∨ .fail f ∈ w.surroundings.probes := by
  rw [probe_run] at h
  rcases fault_of_meet (nextProbe_ne_close hapart) h with hos | hplan
  · exact Or.inl hos
  · right
    rcases (mem_nextProbe w).1 with hmem | haccept
    · rw [hplan] at hmem
      exact hmem
    · rw [hplan] at haccept
      cases haccept

theorem after_isReachable (w : World) : isReachable.after w = probe.after w := by
  unfold isReachable
  cases hprobe : probe w with
  | ok u w₁ =>
      rw [after_bind_of_ok (attempt_ok hprobe), after_of_ok hprobe]
      rfl
  | error f w₁ =>
      rw [after_bind_of_ok (attempt_error hprobe), after_of_error hprobe]
      cases hos : f.isOs with
      | true => rw [after_of_ok (by simp only [hos]; rfl)]
      | false => rw [after_of_error (by simp only [hos]; rfl)]

theorem tried_isReachable (h : w.IsApart) : w.Tried (isReachable.after w) := by
  rw [after_isReachable]
  exact tried_probe h

theorem fault_of_isReachable (hapart : w.IsApart) (h : isReachable w = .error f w') :
    f.isOs = false ∧ .fail f ∈ w.surroundings.probes := by
  unfold isReachable at h
  cases hprobe : probe w with
  | ok u w₁ =>
      rw [bind_run_of_ok (attempt_ok hprobe)] at h
      cases h
  | error g w₁ =>
      rw [bind_run_of_ok (attempt_error hprobe)] at h
      cases hos : g.isOs with
      | true =>
          simp only [hos] at h
          cases h
      | false =>
          simp only [hos] at h
          cases h
          rcases fault_of_probe hapart hprobe with hyes | hplan
          · rw [hos] at hyes
            cases hyes
          · exact ⟨hos, hplan⟩

/-!
## Looks at the engine
-/

theorem tried_isRunning (hapart : w.IsApart) (h : isRunning w = .ok true w') : w.Tried w' := by
  have hasked := asked_isRunning hapart
  rw [h] at hasked
  cases hasked with
  | missing hs hi hmissing =>
      exact .of_surroundings ⟨hapart, refl_of _ w⟩ rfl
  | @alive s i e hwatched halive =>
      have houtside := outside_of_wanes (wanes_mapEngine i Engine.Fades.look) w hapart
      exact .of_surroundings houtside rfl

theorem not_unseen_of_mortal (h : w.IsMortal) : ¬ Unseen w f := by
  rintro ⟨s, i, e, hs, hi, he, hfault⟩
  rw [(h e (List.mem_of_getElem? he)).look] at hfault
  cases hfault

theorem isRunning_ne_error (hapart : w.IsApart) (hmortal : w.IsMortal) :
    isRunning w ≠ .error f w' := by
  intro h
  have hasked := asked_isRunning hapart
  rw [h] at hasked
  cases hasked with
  | fault hunseen => exact not_unseen_of_mortal hmortal hunseen

/-!
## Waits
-/

/-- The fault is none of the client, and an attempt to reach the engine went wrong with it. -/
structure BreaksOff (w : World) (f : Fault) (w' : World) : Prop where
  tried : w.Tried w'
  plan : .fail f ∈ w.surroundings.probes
  os : f.isOs = false

theorem BreaksOff.of_tried {w₁ : World} (h : w.Tried w₁) (h' : BreaksOff w₁ f w') :
    BreaksOff w f w' :=
  ⟨h.trans h'.tried, h.probes _ h'.plan, h'.os⟩

theorem broken_of_tryUntil {deadline : Binary64} {url limit : String} {n : Nat}
    (hapart : w.IsApart) (hmortal : w.IsMortal)
    (h : tryUntil Clock.ofWorld deadline url limit n w = .error f w')
    (hclient : f.clientError? = none) : BreaksOff w f w' := by
  induction n generalizing w with
  | zero =>
      cases h
      cases hclient
  | succ n ih =>
      unfold tryUntil at h
      have htried := tried_isReachable hapart
      rcases bind_eq_error h with hbroken | ⟨reached, w₁, hreach, h⟩
      · rcases fault_of_isReachable hapart hbroken with ⟨hos, hplan⟩
        rw [after_of_error hbroken] at htried
        exact ⟨htried, hplan, hos⟩
      rw [after_of_ok hreach] at htried
      cases reached with
      | true => cases h
      | false =>
          rcases bind_eq_error h with hlook | ⟨running, w₂, hrun, h⟩
          · exact absurd hlook (isRunning_ne_error htried.apart (hmortal.of_fades htried.engines))
          cases running with
          | false =>
              cases h
              cases hclient
          | true =>
              have htried' := htried.trans (tried_isRunning htried.apart hrun)
              rcases bind_eq_error h with hget | ⟨v, w₃, hget, h⟩
              · cases hget
              cases hget
              by_cases hlate : Clock.ofWorld.reached deadline (Clock.ofWorld.now w₂) = true
              · simp only [hlate] at h
                cases h
                cases hclient
              · simp only [hlate] at h
                rcases bind_eq_error h with hpause | ⟨_, w₄, hpause, h⟩
                · cases hpause
                cases hpause
                have hpaused : w₂.Tried w₂.paused :=
                  ⟨rfl, List.forall₂_refl _, fun _ => id, htried'.apart.of_eq rfl rfl⟩
                have hall := htried'.trans hpaused
                exact .of_tried hall (ih hall.apart (hmortal.of_fades hall.engines) h)

theorem session_of_isRunning (hapart : w.IsApart) (h : isRunning w = .ok true w') :
    exists s, w.client.session? = some s := by
  have hasked := asked_isRunning hapart
  rw [h] at hasked
  cases hasked with
  | missing hs hi hmissing => exact ⟨_, hs⟩
  | alive hwatched halive => exact ⟨_, hwatched.session⟩

theorem tried_requireRunning {command : String} {n : Nat} (hapart : w.IsApart)
    (h : requireRunning command w = .ok n w') :
    w.Tried w' ∧ exists s, w'.client.sessions[n]? = some s := by
  unfold requireRunning at h
  rcases bind_eq_ok h with ⟨running, w₁, hrun, h⟩
  cases running with
  | false => cases h
  | true =>
      have htried := tried_isRunning hapart hrun
      rcases session_of_isRunning hapart hrun with ⟨s, hs⟩
      rw [← htried.client] at hs
      rcases Client.session?_eq_some_iff.mp hs with ⟨m, hm, hms⟩
      rw [if_pos rfl, bind_run_of_ok (client_run w₁), hm] at h
      cases h
      exact ⟨htried, s, hms⟩

theorem clientError_of_requireRunning {command : String} (hapart : w.IsApart)
    (hmortal : w.IsMortal) (h : requireRunning command w = .error f w') :
    f.clientError? ≠ none := by
  unfold requireRunning at h
  rcases bind_eq_error h with hlook | ⟨running, w₁, hrun, h⟩
  · exact absurd hlook (isRunning_ne_error hapart hmortal)
  cases running with
  | false =>
      cases h
      exact Option.some_ne_none _
  | true =>
      rcases session_of_isRunning hapart hrun with ⟨s, hs⟩
      rw [← (tried_isRunning hapart hrun).client] at hs
      rcases Client.session?_eq_some_iff.mp hs with ⟨m, hm, _⟩
      rw [if_pos rfl, bind_run_of_ok (client_run w₁), hm] at h
      cases h

theorem attempts_pos (t : TimeLimit) : exists n, t.attempts = n + 1 := by
  unfold TimeLimit.attempts
  split
  · exact ⟨_, rfl⟩
  · exact ⟨_, rfl⟩

/-- The limit of a wait: the given one, or that of the options. -/
def limitOf (o : Options) : Option Value → Except Fault TimeLimit
  | some v => TimeLimit.ofValue v
  | none => .ok (TimeLimit.ofSeconds o.timeout)

/-- Once its session is known to run, a wait is nothing but attempts up to a deadline. -/
theorem waitBy_of_running {τ : Type} (clock : Clock τ) {limit? : Option Value}
    {limit : TimeLimit} {n : Nat} {s : Session} {w₁ : World}
    (hrequire : requireRunning waitCommand w = .ok n w₁) (hs : w₁.client.sessions[n]? = some s)
    (hlimit : limitOf w₁.client.options limit? = .ok limit) :
    waitBy clock limit? w =
      tryUntil clock (clock.after (clock.now w₁) limit.seconds) s.url limit.text limit.attempts
        w₁ := by
  unfold waitBy
  rw [bind_run_of_ok hrequire, bind_run_of_ok (ofNumber_run hs)]
  cases limit? with
  | none =>
      cases hlimit
      rfl
  | some v =>
      have hgiven : TimeLimit.ofValue v = .ok limit := hlimit
      dsimp only
      rw [hgiven]
      rfl

theorem waitUntilReady_of_error {n : Nat} {s : Session} {w₁ : World}
    (hrequire : requireRunning waitCommand w = .ok n w₁) (hs : w₁.client.sessions[n]? = some s)
    (hreach : isReachable w₁ = .error f w') : waitUntilReady none w = .error f w' := by
  unfold waitUntilReady
  rw [waitBy_of_running _ hrequire hs rfl]
  rcases attempts_pos (TimeLimit.ofSeconds w₁.client.options.timeout) with ⟨m, hm⟩
  rw [hm]
  exact bind_run_of_error hreach

theorem broken_of_waitUntilReady (hapart : w.IsApart) (hmortal : w.IsMortal)
    (h : waitUntilReady none w = .error f w') (hclient : f.clientError? = none) :
    BreaksOff w f w' := by
  unfold waitUntilReady waitBy at h
  rcases bind_eq_error h with hrequire | ⟨n, w₁, hrequire, h⟩
  · exact absurd hclient (clientError_of_requireRunning hapart hmortal hrequire)
  rcases tried_requireRunning hapart hrequire with ⟨htried, s, hs⟩
  rw [bind_run_of_ok (ofNumber_run hs)] at h
  exact .of_tried htried
    (broken_of_tryUntil htried.apart (hmortal.of_fades htried.engines) h hclient)

end Session
end EngineClient
