import EngineClient.Proofs.Run.Onward
import EngineClient.Proofs.Session.FailedOpen
import EngineClient.Proofs.Session.Waiting
import Mathlib.Data.Rat.Cast.Order
import Mathlib.Data.Rat.Floor
import Mathlib.Tactic.Linarith
import Mathlib.Tactic.NormNum
import Mathlib.Tactic.Ring

/-!
# How a wait is decided

A wait is a row of attempts that fail while the engine lives and there is time left, each followed
by a pause, and one last attempt that decides it: the engine answers, it has exited, or the
deadline is reached. An exact clock that goes on by a tenth of a second in each pause bounds the
row by the limit. Main statement: `wait_decides`.
-/

namespace EngineClient

/-!
## Surroundings and clocks
-/

/-- Attempts to reach an engine go wrong only with errors of the operating system. -/
def World.Refuses (w : World) : Prop :=
  forall f, .fail f ∈ w.surroundings.probes -> f.isOs = true

/-- Surroundings are apart and at most refuse attempts, and the engine of the session in use was
started and can be looked at. -/
structure World.IsOrderly (w : World) : Prop where
  apart : w.IsApart
  numbered : w.IsNumbered
  seen : forall f, ¬ Session.Unseen w f
  refuses : w.Refuses

/-- A clock of exact times that never goes back, and goes on by a tenth of a second at least in a
pause. Engines may exit in a pause, and other attempts be planned. -/
structure Clock.IsExact {τ : Type} [Field τ] [LinearOrder τ] (clock : Clock τ) : Prop where
  after : forall (t : τ) (x : Binary64) (n : Int) (d : Nat), x.toRatio? = some (n, d) ->
    clock.after t x = t + n / d
  reached : forall deadline now, clock.reached deadline now = decide (deadline ≤ now)
  reaching : forall w, clock.now w ≤ clock.now (Session.isReachable.after w)
  looking : forall w, clock.now w ≤ clock.now (Session.isRunning.after w)
  pausing : forall w, clock.now w + 1 / 10 ≤ clock.now (clock.pause w)
  outside : (modify clock.pause : Act PUnit).Outside
  probes : forall w, (clock.pause w).trail.probes = w.trail.probes
  refuses : forall w, w.Refuses -> (clock.pause w).Refuses

namespace Session

open Act

variable {w w' : World} {s : Session} {i : Nat}

/-!
## Steps of a wait
-/

/-- The engine of a session in use is waited for. -/
structure Awaits (w : World) (s : Session) (i : Nat) : Prop where
  apart : w.IsApart
  refuses : w.Refuses
  watched : exists e, Watched w s i e

theorem Watched.of_fades {e : Engine} (h : Watched w s i e) (hclient : w'.client = w.client)
    (hengines : List.Forall₂ Engine.Fades w.engines w'.engines) : exists e', Watched w' s i e' := by
  rcases List.getElem?_eq_some_iff.mp h.engine with ⟨hlt, _⟩
  rw [hengines.length_eq] at hlt
  have he' : w'.engines[i]? = some w'.engines[i] := List.getElem?_eq_getElem hlt
  rcases forall₂_getElem? hengines he' with ⟨d, hd, hfades⟩
  cases h.engine.symm.trans hd
  refine ⟨_, ?_, h.running, h.number, he', ?_⟩
  · rw [hclient]
    exact h.session
  · rw [hfades.temper]
    exact h.seen

theorem Awaits.of_tried (h : Awaits w s i) (htried : w.Tried w') : Awaits w' s i where
  apart := htried.apart
  refuses f hf := h.refuses f (htried.probes _ hf)
  watched := by
    rcases h.watched with ⟨e, hwatched⟩
    exact hwatched.of_fades htried.client htried.engines

theorem still_meet (plan : ProbePlan) : (meet plan).Still := by
  cases plan with
  | accept => exact .pure _
  | refuse => exact .throw _
  | timeOut => exact .throw _
  | fail f => exact .throw _
  | exit code => exact .bind (fun _ => rfl) fun _ => .throw _
  | close => exact .bind still_close fun _ => .throw _

theorem factor_isReachable {γ : Type} (k : Trail → γ)
    (hk : forall t, k { t with emissions := [] } = k t) (w : World) :
    k (isReachable.after w).trail = k { w.trail with probes := w.trail.probes + 1 } := by
  rw [after_isReachable, after_of_run_eq (probe_run w)]
  exact (still_meet _ _).factor (fun v => k v.trail) fun v => hk v.trail

theorem exists_reach (h : Awaits w s i) :
    exists reached w₁,
      isReachable w = .ok reached w₁ ∧ Awaits w₁ s i ∧ w₁.client = w.client ∧
        w₁.trail.probes = w.trail.probes + 1 := by
  have htried := tried_isReachable h.apart
  have hprobes := factor_isReachable Trail.probes (fun _ => rfl) w
  cases hreach : isReachable w with
  | ok reached w₁ =>
      rw [after_of_ok hreach] at htried hprobes
      exact ⟨reached, w₁, rfl, h.of_tried htried, htried.client, hprobes⟩
  | error f w₁ =>
      rcases fault_of_isReachable h.apart hreach with ⟨hother, hplan⟩
      rw [h.refuses f hplan] at hother
      cases hother

theorem probes_isRunning (w : World) :
    (isRunning.after w).trail.probes = w.trail.probes :=
  (still_isRunning w).factor (·.trail.probes) fun _ => rfl

theorem look_of_watched {e : Engine} (hapart : w.IsApart) (h : Watched w s i e) :
    e.look.isAlive = true ∧ isRunning w = .ok true (w.looked i) ∨
      e.look.isAlive = false ∧
        exists w', isRunning w = .ok false w' ∧ w'.client.session? = none := by
  cases halive : e.look.isAlive with
  | true => exact Or.inl ⟨rfl, isRunning_of_alive h hapart halive⟩
  | false =>
      rcases isRunning_of_exited h hapart halive with ⟨w₁, w', _, hclose, hrun⟩
      refine Or.inr ⟨rfl, w', hrun, ?_⟩
      rw [← after_of_ok hclose]
      exact session?_after_close w₁

/-!
## Attempts that decide nothing
-/

variable {τ : Type} [Field τ] [LinearOrder τ] {clock : Clock τ} {deadline : τ}

/-- Attempts that failed while the engine lived and there was time left, each followed by a
pause. -/
inductive Retries {τ : Type} (clock : Clock τ) (deadline : τ) : World → Nat → World → Prop where
  | none (w : World) : Retries clock deadline w 0 w
  | again {w w₁ w₂ v : World} {k : Nat} (hreach : isReachable w = .ok false w₁)
      (hrun : isRunning w₁ = .ok true w₂)
      (hearly : clock.reached deadline (clock.now w₂) = false)
      (hrest : Retries clock deadline (clock.pause w₂) k v) :
      Retries clock deadline w (k + 1) v

theorem Awaits.paused (hclock : clock.IsExact) (h : Awaits w s i) :
    Awaits (clock.pause w) s i ∧ (clock.pause w).client = w.client := by
  rcases hclock.outside w h.apart with ⟨hapart, houtside⟩
  refine ⟨⟨hapart, hclock.refuses w h.refuses, ?_⟩, houtside.client⟩
  rcases h.watched with ⟨e, hwatched⟩
  exact hwatched.of_fades houtside.client houtside.engines

theorem Awaits.looked {w₁ w₂ : World} {reached : Bool} (h : Awaits w s i)
    (hreach : isReachable w = .ok reached w₁) (hrun : isRunning w₁ = .ok true w₂) :
    Awaits w₂ s i ∧ w₂.client = w.client ∧ w₂.trail.probes = w.trail.probes + 1 := by
  rcases exists_reach h with ⟨reached', w₁', hreach', hawaits, hclient, hprobes⟩
  cases hreach.symm.trans hreach'
  have htried := tried_isRunning hawaits.apart hrun
  have hlooked := probes_isRunning w₁
  rw [after_of_ok hrun] at hlooked
  exact ⟨hawaits.of_tried htried, htried.client.trans hclient, hlooked.trans hprobes⟩

theorem Retries.awaits {k : Nat} {v : World} (h : Retries clock deadline w k v)
    (hclock : clock.IsExact) (hawaits : Awaits w s i) :
    Awaits v s i ∧ v.client = w.client ∧ v.trail.probes = w.trail.probes + k := by
  induction h with
  | none w => exact ⟨hawaits, rfl, rfl⟩
  | @again w w₁ w₂ v k hreach hrun hearly _ ih =>
      rcases hawaits.looked hreach hrun with ⟨hawaits₂, hclient₂, hprobes₂⟩
      rcases hawaits₂.paused hclock with ⟨hawaits₃, hclient₃⟩
      rcases ih hawaits₃ with ⟨hlast, hclient, hprobes⟩
      refine ⟨hlast, hclient.trans (hclient₃.trans hclient₂), ?_⟩
      rw [hprobes, hclock.probes, hprobes₂, Nat.add_right_comm]
      rfl

theorem reading_le (hclock : clock.IsExact) {w₁ w₂ : World} {reached running : Bool}
    (hreach : isReachable w = .ok reached w₁) (hrun : isRunning w₁ = .ok running w₂) :
    clock.now w ≤ clock.now w₂ := by
  have hreaching := hclock.reaching w
  have hlooking := hclock.looking w₁
  rw [after_of_ok hreach] at hreaching
  rw [after_of_ok hrun] at hlooking
  exact hreaching.trans hlooking

theorem Retries.early [IsStrictOrderedRing τ] {k : Nat} {v : World}
    (h : Retries clock deadline w (k + 1) v) (hclock : clock.IsExact) :
    clock.now w + k / 10 < deadline := by
  induction k generalizing w with
  | zero =>
      cases h with
      | @again _ w₁ w₂ _ _ hreach hrun hearly hrest =>
          have hnow := reading_le hclock hreach hrun
          have hleft : clock.now w₂ < deadline := by
            rw [hclock.reached] at hearly
            simpa using hearly
          simpa using hnow.trans_lt hleft
  | succ k ih =>
      cases h with
      | @again _ w₁ w₂ _ _ hreach hrun hearly hrest =>
          have hnow := reading_le hclock hreach hrun
          have hpause := hclock.pausing w₂
          have hrest := ih hrest
          push_cast
          linarith

/-!
## The attempt that decides
-/

/-- The last attempt of a wait, and what comes of it. -/
inductive Decides {τ : Type} (clock : Clock τ) (deadline : τ) (url limit : String) (v : World) :
    EStateM.Result Fault World Unit → Prop where
  | reached {v₁ : World} (hreach : isReachable v = .ok true v₁) :
      Decides clock deadline url limit v
        (.ok () ((record logger .debug "engine_ready" [("url", .text url)]).after v₁))
  | exited {v₁ w' : World} (hreach : isReachable v = .ok false v₁)
      (hrun : isRunning v₁ = .ok false w') :
      Decides clock deadline url limit v (.error exitedEarly w')
  | late {v₁ w' : World} (hreach : isReachable v = .ok false v₁)
      (hrun : isRunning v₁ = .ok true w')
      (hlate : clock.reached deadline (clock.now w') = true) :
      Decides clock deadline url limit v (.error (notReady url limit) w')

/-- Attempts go on until one of them decides, unless there are not enough of them. -/
theorem exists_retries (hclock : clock.IsExact) (deadline : τ) (url limit : String) (n : Nat)
    (h : Awaits w s i) :
    exists k v, Retries clock deadline w k v ∧
      (k = n ∨
        Decides clock deadline url limit v (tryUntil clock deadline url limit n w)) := by
  -- The deadline is fixed before the first attempt: the induction is on the attempts left, and the
  -- state they start from is general.
  induction n generalizing w with
  | zero => exact ⟨0, w, .none w, Or.inl rfl⟩
  | succ n ih =>
      rcases exists_reach h with ⟨reached, w₁, hreach, hawaits, _, _⟩
      rcases hawaits.watched with ⟨e, hwatched⟩
      unfold tryUntil
      rw [bind_run_of_ok hreach]
      cases reached with
      | true => exact ⟨0, w, .none w, Or.inr (.reached hreach)⟩
      | false =>
          rw [if_neg Bool.false_ne_true]
          rcases look_of_watched hawaits.apart hwatched with
            ⟨_, hrun⟩ | ⟨_, w', hrun, _⟩
          · rw [bind_run_of_ok hrun, if_neg (by decide), bind_run_of_ok (get_run _)]
            by_cases hlate : clock.reached deadline (clock.now (w₁.looked i)) = true
            · rw [if_pos hlate]
              exact ⟨0, w, .none w, Or.inr (.late hreach hrun hlate)⟩
            · have hpause : (modify clock.pause : Act PUnit) (w₁.looked i) =
                  .ok () (clock.pause (w₁.looked i)) := rfl
              rw [if_neg hlate, bind_run_of_ok hpause]
              rcases h.looked hreach hrun with ⟨hlooked, _, _⟩
              rcases ih (hlooked.paused hclock).1 with ⟨k, v, hretries, hends⟩
              have hearly : clock.reached deadline (clock.now (w₁.looked i)) = false :=
                Bool.eq_false_of_not_eq_true hlate
              refine ⟨k + 1, v, .again hreach hrun hearly hretries, ?_⟩
              exact hends.imp_left (congrArg (· + 1))
          · rw [bind_run_of_ok hrun, if_pos Bool.not_false]
            exact ⟨0, w, .none w, Or.inr (.exited hreach hrun)⟩

/-!
## How many attempts there are
-/

theorem lt_of_early [IsStrictOrderedRing τ] {now : τ} {k d : Nat} {n : Int}
    (h : now + k / 10 < now + n / d) : (k : ℚ) / 10 < n / d := by
  have hcast : (((k : ℚ) / 10 : ℚ) : τ) < (((n : ℚ) / d : ℚ) : τ) := by
    push_cast
    linarith
  exact Rat.cast_lt.mp hcast

theorem attempts_of_exact {t : TimeLimit} {n : Int} {d : Nat}
    (h : t.seconds.toRatio? = some (n, d)) : t.attempts = (20 * n / d).toNat + 4 := by
  rw [TimeLimit.attempts, h]

theorem not_early_of_attempts {n : Int} {d k : Nat} (hk : k + 1 = (20 * n / d).toNat + 4) :
    ¬ (k : ℚ) / 10 < n / d := by
  intro h
  have hfloor := Int.lt_floor_add_one (((20 * n : Int) : ℚ) / (d : ℚ))
  rw [Rat.floor_intCast_div_natCast] at hfloor
  have hcount : 20 * n / (d : Int) ≤ (k : Int) - 3 := by
    have hnat := Int.self_le_toNat (20 * n / (d : Int))
    omega
  have hbound : (((20 * n / (d : Int) : Int)) : ℚ) ≤ (k : ℚ) - 3 := by exact_mod_cast hcount
  have hsplit : ((20 * n : Int) : ℚ) / d = 20 * (n / d) := by
    push_cast
    ring
  rw [hsplit] at hfloor
  have hpos : (0 : ℚ) ≤ k := Nat.cast_nonneg k
  linarith

theorem succ_le_ceil {k d : Nat} {n : Int} (h : (k : ℚ) / 10 < n / d) :
    (k : Int) + 1 ≤ ⌈((n : ℚ) / d) / (1 / 10)⌉ := by
  rw [Int.add_one_le_iff, Int.lt_ceil, div_div_eq_mul_div]
  push_cast
  linarith

theorem exists_decided [IsStrictOrderedRing τ] (hclock : clock.IsExact) (h : Awaits w s i)
    (url : String) {limit : TimeLimit} {n : Int} {d : Nat}
    (hexact : limit.seconds.toRatio? = some (n, d)) :
    exists k v,
      Retries clock (clock.now w + n / d) w k v ∧
        Decides clock (clock.now w + n / d) url limit.text v
          (tryUntil clock (clock.now w + n / d) url limit.text limit.attempts w) ∧
        ((k + 1 : Nat) : Int) ≤ max 1 (⌈((n : ℚ) / d) / (1 / 10)⌉ + 1) := by
  rcases exists_retries hclock (clock.now w + n / d) url limit.text limit.attempts h with
    ⟨k, v, hretries, hends⟩
  have hearly : forall j, k = j + 1 -> (j : ℚ) / 10 < n / d := by
    rintro j rfl
    exact lt_of_early (hretries.early hclock)
  refine ⟨k, v, hretries, ?_, ?_⟩
  -- There are two attempts for each tenth of a second in the limit, and a pause takes a tenth at
  -- least: the time runs out before the attempts.
  · rcases hends with hspent | hdecides
    · rw [attempts_of_exact hexact] at hspent
      exact absurd (hearly _ hspent) (not_early_of_attempts rfl)
    · exact hdecides
  · cases k with
    | zero => exact le_max_left _ _
    | succ j =>
        have hceil := succ_le_ceil (hearly j rfl)
        refine le_max_of_le_right ?_
        push_cast
        linarith

/-!
## The verdict
-/

/-- What a wait comes to: it returns if the last attempt reached the engine, it fails early if the
engine is found exited after that attempt failed, and it times out if the engine lives and the
deadline is reached. There is nothing else that it comes to. -/
structure Verdict {τ : Type} [LE τ] (clock : Clock τ) (deadline : τ) (limit : TimeLimit)
    (s : Session) (i : Nat) (e : Engine) (reached : Bool) (v : World)
    (r : EStateM.Result Fault World Unit) : Prop where
  decided : exists w', r = .ok () w' ∨ r = .error exitedEarly w' ∨
    r = .error (notReady s.url limit.text) w'
  returns : (exists w', r = .ok () w') ↔ reached = true
  exits : (exists w', r = .error exitedEarly w') ↔ reached = false ∧ e.look.isAlive = false
  timesOut : (exists w', r = .error (notReady s.url limit.text) w') ↔
    reached = false ∧ e.look.isAlive = true ∧ deadline ≤ clock.now (v.looked i)
  closed : forall w', r = .error exitedEarly w' ->
    w'.client.session? = none ∧ w'.client.state = .closed
  running : forall w', r = .error (notReady s.url limit.text) w' ->
    w'.client.session? = some s ∧ w'.client.state = .running

theorem exitedEarly_ne_notReady (url limit : String) : exitedEarly ≠ notReady url limit := by
  intro h
  cases h

theorem Watched.state {e : Engine} (h : Watched w s i e) : w.client.state = .running := by
  rw [Client.state, h.session]
  exact h.running

theorem verdict_of_decides {limit : TimeLimit} {v v₁ : World} {e : Engine} {reached : Bool}
    {r : EStateM.Result Fault World Unit} (hclock : clock.IsExact)
    (h : Decides clock deadline s.url limit.text v r) (hreach : isReachable v = .ok reached v₁)
    (hapart : v₁.IsApart) (hwatched : Watched v₁ s i e) :
    Verdict clock deadline limit s i e reached v₁ r := by
  cases h with
  | reached hreach' =>
      cases hreach.symm.trans hreach'
      refine ⟨⟨_, Or.inl rfl⟩, ?_, ?_, ?_, ?_, ?_⟩
      · simp
      · simp
      · simp
      · intro w' hw'
        cases hw'
      · intro w' hw'
        cases hw'
  | @exited _ w' hreach' hrun =>
      cases hreach.symm.trans hreach'
      rcases look_of_watched hapart hwatched with ⟨_, hrun'⟩ | ⟨hdead, w'', hrun', hnone⟩
      · cases hrun.symm.trans hrun'
      cases hrun.symm.trans hrun'
      refine ⟨⟨_, Or.inr (Or.inl rfl)⟩, ?_, ?_, ?_, ?_, ?_⟩
      · simp
      · simp [hdead]
      · simp [hdead, exitedEarly_ne_notReady]
      · intro w' hw'
        cases hw'
        exact ⟨hnone, state_of_session?_none hnone⟩
      · intro w' hw'
        cases hw'
  | @late _ w' hreach' hrun hlate =>
      cases hreach.symm.trans hreach'
      rcases look_of_watched hapart hwatched with ⟨halive, hrun'⟩ | ⟨_, w'', hrun', _⟩
      · cases hrun.symm.trans hrun'
        rw [hclock.reached] at hlate
        refine ⟨⟨_, Or.inr (Or.inr rfl)⟩, ?_, ?_, ?_, ?_, ?_⟩
        · simp
        · simp [halive, (exitedEarly_ne_notReady s.url limit.text).symm]
        · simpa [halive] using hlate
        · intro w' hw'
          cases hw'
        · intro w' hw'
          cases hw'
          exact ⟨hwatched.session, hwatched.state⟩
      · cases hrun.symm.trans hrun'

theorem waitBy_of_not_runs {τ : Type} (clock : Clock τ) (horderly : w.IsOrderly)
    (hstopped : forall n s, ¬ Runs w n s) (limit? : Option Value) :
    exists w', waitBy clock limit? w = .error (notRunning waitCommand w'.client.state) w' ∧
      w'.trail.probes = w.trail.probes := by
  rcases requireRunning_of_not_runs horderly.apart horderly.numbered hstopped waitCommand with
    ⟨f, w', hrequire, rfl | hunseen⟩
  · refine ⟨w', ?_, ?_⟩
    · unfold waitBy
      exact bind_run_of_error hrequire
    · have hstill := (still_requireRunning waitCommand).of_error hrequire
      exact hstill.factor (·.trail.probes) fun _ => rfl
  · exact absurd hunseen (horderly.seen f)

omit [Field τ] [LinearOrder τ] in
theorem probes_of_decides {x : Act Unit} {url limit : String} {v v₁ : World} {reached : Bool}
    (h : Decides clock deadline url limit v (x w)) (hreach : isReachable v = .ok reached v₁) :
    (x.after w).trail.probes = v₁.trail.probes := by
  have hlooked := probes_isRunning v₁
  generalize hr : x w = r at h
  cases h with
  | reached hreach' =>
      cases hreach.symm.trans hreach'
      rw [after_of_ok hr]
      rfl
  | exited hreach' hrun =>
      cases hreach.symm.trans hreach'
      rw [after_of_ok hrun] at hlooked
      rw [after_of_error hr, hlooked]
  | late hreach' hrun hlate =>
      cases hreach.symm.trans hreach'
      rw [after_of_ok hrun] at hlooked
      rw [after_of_error hr, hlooked]

omit [Field τ] in
theorem Verdict.late {limit : TimeLimit} {v : World} {e : Engine}
    {r : EStateM.Result Fault World Unit} (h : Verdict clock deadline limit s i e false v r)
    (halive : e.look.isAlive = true) :
    deadline ≤ clock.now (v.looked i) ∧ exists w', r = .error (notReady s.url limit.text) w' := by
  rcases h.decided with ⟨w', hr | hr | hr⟩
  · cases h.returns.mp ⟨w', hr⟩
  · have hdead := (h.exits.mp ⟨w', hr⟩).2
    rw [halive] at hdead
    cases hdead
  · exact ⟨(h.timesOut.mp ⟨w', hr⟩).2.2, w', hr⟩

theorem awaits_of_wanes {w₁ : World} {e : Engine} (horderly : w.IsOrderly)
    (hwatched : Watched w s i e) (hwanes : w.Wanes w₁) : Awaits w₁ s i where
  apart := horderly.apart.of_wanes hwanes
  refuses f hf := by
    rw [hwanes.factor World.surroundings fun _ => rfl] at hf
    exact horderly.refuses f hf
  watched := hwatched.of_fades hwanes.client hwanes.engines

/-- Waiting for the engine of a session by an exact clock, in surroundings that at most refuse.
No command is handed over, and neither sessions nor generations change. Without a running session
nothing is tried. Otherwise there is an attempt, and at most one more than the tenths of a second
in the limit, and the last of them decides: all before it failed while the engine lived and there
was time left. -/
theorem wait_decides [IsStrictOrderedRing τ] (hclock : clock.IsExact) (horderly : w.IsOrderly)
    (limit? : Option Value) :
    ((waitBy clock limit?).after w).tally = w.tally ∧
      ((waitBy clock limit?).after w).client.epoch = w.client.epoch ∧
      ((forall n s, ¬ Runs w n s) ->
        exists w', waitBy clock limit? w = .error (notRunning waitCommand w'.client.state) w' ∧
          w'.trail.probes = w.trail.probes) ∧
      forall n s limit num den, Runs w n s -> limitOf w.client.options limit? = .ok limit ->
        limit.seconds.toRatio? = some (num, den) ->
        exists w₁ k v reached v₁ i e,
          requireRunning waitCommand w = .ok n w₁ ∧
            Retries clock (clock.now w₁ + num / den) w₁ k v ∧
            isReachable v = .ok reached v₁ ∧ Watched v₁ s i e ∧
            ((waitBy clock limit?).after w).trail.probes = w.trail.probes + (k + 1) ∧
            ((k + 1 : Nat) : Int) ≤ max 1 (⌈((num : ℚ) / den) / (1 / 10)⌉ + 1) ∧
            Verdict clock (clock.now w₁ + num / den) limit s i e reached v₁
              (waitBy clock limit? w) := by
  have htallied := tallied_waitBy (tallied_of_outside hclock.outside) limit? w horderly.apart
  have hcalm := calm_waitBy (calm_of_outside hclock.outside) limit? w horderly.apart
  refine ⟨htallied.2, hcalm.2.epoch, fun hstopped => ?_, ?_⟩
  · exact waitBy_of_not_runs clock horderly hstopped limit?
  intro n s limit num den hruns hlimit hexact
  rcases requireRunning_of_runs horderly.apart hruns waitCommand with ⟨w₁, hrequire, hwanes⟩
  have hs : w₁.client.sessions[n]? = some s := by
    rw [hwanes.client]
    exact hruns.session
  rw [← hwanes.client] at hlimit
  have hwait := waitBy_of_running clock hrequire hs hlimit
  rw [hclock.after _ _ _ _ hexact] at hwait
  rcases hruns with ⟨_, i, e₀, hwatched, _⟩
  have hawaits : Awaits w₁ s i := awaits_of_wanes horderly hwatched hwanes
  rcases exists_decided hclock hawaits s.url hexact with ⟨k, v, hretries, hdecides, hbound⟩
  rw [← hwait] at hdecides
  rcases hretries.awaits hclock hawaits with ⟨hlast, _, hprobes⟩
  rcases exists_reach hlast with ⟨reached, v₁, hreach, hawaits₁, _, hprobes₁⟩
  rcases hawaits₁.watched with ⟨e, hwatched₁⟩
  have htrail : w₁.trail.probes = w.trail.probes :=
    hwanes.factor (·.trail.probes) fun _ => rfl
  refine ⟨w₁, k, v, reached, v₁, i, e, hrequire, hretries, hreach, hwatched₁, ?_, hbound,
    verdict_of_decides hclock hdecides hreach hawaits₁.apart hwatched₁⟩
  rw [probes_of_decides hdecides hreach, hprobes₁, hprobes, htrail, Nat.add_assoc]

/-!
## Waits with time for one pause
-/

def tenthsClock : Clock ℚ where
  now w := w.trail.pauses / 10
  after t x :=
    match x.toRatio? with
    | some (n, d) => t + n / d
    | none => t
  reached deadline now := decide (deadline ≤ now)
  pause := World.paused

theorem isExact_tenthsClock : tenthsClock.IsExact where
  after t x n d h := by
    unfold tenthsClock
    dsimp only
    rw [h]
  reached _ _ := rfl
  reaching w := by
    have hpauses := factor_isReachable Trail.pauses (fun _ => rfl) w
    unfold tenthsClock
    dsimp only
    rw [hpauses]
  looking w := by
    have hpauses := (still_isRunning w).factor (·.trail.pauses) fun _ => rfl
    unfold tenthsClock
    dsimp only at hpauses ⊢
    rw [hpauses]
  pausing w := by
    unfold tenthsClock World.paused
    push_cast
    linarith
  outside := outside_of_agree fun _ => rfl
  probes _ := rfl
  refuses _ := id

def refusedSession (plans : List ProbePlan) : World :=
  { firstSession with
    surroundings := { firstSession.surroundings with probes := .refuse :: plans } }

theorem isOrderly_refusedSession (plans : List ProbePlan)
    (h : forall plan, plan ∈ plans -> plan = .accept) : (refusedSession plans).IsOrderly := by
  have hreached : Reached (fun _ _ => True) [0] firstSession := reached_firstSession trivial
  have hsurroundings := hreached.isApart.surroundings
  have hengines : (refusedSession plans).engines = [firstEngine] := rfl
  have hplans : forall plan, plan ∈ (refusedSession plans).surroundings.probes ->
      plan = .refuse ∨ plan = .accept := by
    intro plan hplan
    exact (List.mem_cons.mp hplan).imp_right (h plan)
  refine ⟨⟨hreached.isApart.engines, hsurroundings.spawns, ?_, hsurroundings.replies⟩, ?_, ?_, ?_⟩
  · intro hclose
    rcases hplans _ hclose with heq | heq
    · cases heq
    · cases heq
  · exact fun s i hs => World.IsNumbered.of_reached hreached s i hs
  · rintro f ⟨s, i, e, _, _, he, hfault⟩
    have hmem := List.mem_of_getElem? he
    rw [hengines, List.mem_singleton] at hmem
    rw [hmem] at hfault
    cases hfault
  · intro f hf
    rcases hplans _ hf with heq | heq
    · cases heq
    · cases heq

def refusedOnce (plans : List ProbePlan) : World :=
  (((isReachable.after ((refusedSession plans).looked 0)).looked 0).paused)

theorem isReachable_refusedSession (plans : List ProbePlan) :
    isReachable ((refusedSession plans).looked 0) =
      .ok false (isReachable.after ((refusedSession plans).looked 0)) := by
  cases plans with
  | nil => rfl
  | cons plan plans => rfl

theorem isRunning_refusedSession (plans : List ProbePlan) :
    isRunning (isReachable.after ((refusedSession plans).looked 0)) =
      .ok true ((isReachable.after ((refusedSession plans).looked 0)).looked 0) := by
  cases plans with
  | nil => rfl
  | cons plan plans => rfl

theorem lives_of_watched {v : World} {s : Session} {i : Nat} {e d : Engine}
    (h : Watched v s i e) (hengines : v.engines = [d]) (hd : d.look.isAlive = true) :
    e.look.isAlive = true := by
  have hmem := List.mem_of_getElem? h.engine
  rw [hengines, List.mem_singleton] at hmem
  rw [hmem]
  exact hd

theorem second_of_retries {plans : List ProbePlan} {deadline : ℚ} {k : Nat} {v v₁ : World}
    {limit : TimeLimit} {s : Session} {i : Nat} {e : Engine} {reached : Bool}
    {r : EStateM.Result Fault World Unit} (hdeadline : 0 < deadline) (hk : k ≤ 1)
    (h : Retries tenthsClock deadline ((refusedSession plans).looked 0) k v)
    (hreach : isReachable v = .ok reached v₁) (hwatched : Watched v₁ s i e)
    (hverdict : Verdict tenthsClock deadline limit s i e reached v₁ r) :
    k = 1 ∧ v = refusedOnce plans := by
  cases h with
  | none =>
      cases hreach.symm.trans (isReachable_refusedSession plans)
      have hengines : (isReachable.after ((refusedSession plans).looked 0)).engines =
          [firstEngine.look] := by
        cases plans with
        | nil => rfl
        | cons plan plans => rfl
      have hstart : tenthsClock.now
          ((isReachable.after ((refusedSession plans).looked 0)).looked i) = 0 := by
        cases plans with
        | nil => exact zero_div _
        | cons plan plans => exact zero_div _
      have hlate := (hverdict.late (lives_of_watched hwatched hengines rfl)).1
      rw [hstart] at hlate
      exact absurd hdeadline (not_lt.mpr hlate)
  | again hreach₁ hrun₁ _ hrest =>
      cases hreach₁.symm.trans (isReachable_refusedSession plans)
      cases hrun₁.symm.trans (isRunning_refusedSession plans)
      cases hrest with
      | none => exact ⟨rfl, rfl⟩
      | again => omega

def sixteenth : Binary64 := .ofRatio false 1 16

theorem toRatio?_sixteenth : sixteenth.toRatio? = some (4503599627370496, 72057594037927936) := by
  decide

theorem times_of_sixteenth (plans : List ProbePlan) {k : Nat}
    (h : ((k + 1 : Nat) : Int) ≤
      max 1 (⌈(((4503599627370496 : Int) : ℚ) / (72057594037927936 : Nat)) / (1 / 10)⌉ + 1)) :
    (0 : ℚ) < tenthsClock.now ((refusedSession plans).looked 0) +
        (4503599627370496 : Int) / (72057594037927936 : Nat) ∧ k ≤ 1 := by
  have hstart : tenthsClock.now ((refusedSession plans).looked 0) = 0 := zero_div _
  have hceil : ⌈(((4503599627370496 : Int) : ℚ) / (72057594037927936 : Nat)) / (1 / 10)⌉ ≤ 1 := by
    rw [Int.ceil_le]
    norm_num
  constructor
  · rw [hstart]
    norm_num
  · omega

/-- With that limit there is a second attempt: it times out if it is refused as well, and the wait
returns if the engine answers. -/
theorem wait_refusedSession :
    (exists url limit w',
      waitBy tenthsClock (some (.real sixteenth)) (refusedSession []) =
          .error (notReady url limit) w' ∧
        w'.trail.probes = 2 ∧ w'.client.state = .running) ∧
      exists w',
        waitBy tenthsClock (some (.real sixteenth)) (refusedSession [.accept]) = .ok () w' ∧
          w'.trail.probes = 2 := by
  have hlimit : limitOf newClient.client.options (some (.real sixteenth)) =
      .ok (.ofSeconds sixteenth) := rfl
  have hruns : forall plans, exists s, Runs (refusedSession plans) 0 s := fun plans =>
    ⟨_, rfl, 0, firstEngine, ⟨rfl, rfl, rfl, rfl, rfl⟩, rfl⟩
  have hrun : forall plans, requireRunning waitCommand (refusedSession plans) =
      .ok 0 ((refusedSession plans).looked 0) := fun plans => rfl
  have hfirst := wait_decides isExact_tenthsClock (isOrderly_refusedSession [] (by simp))
    (some (.real sixteenth))
  have hsecond := wait_decides isExact_tenthsClock
    (isOrderly_refusedSession [.accept] (by simp)) (some (.real sixteenth))
  constructor
  · rcases hruns [] with ⟨s, hs⟩
    rcases hfirst.2.2.2 0 s _ _ _ hs hlimit toRatio?_sixteenth with
      ⟨w₁, k, v, reached, v₁, i, e, hrequire, hretries, hreach, hwatched, hprobes, hbound,
        hverdict⟩
    cases hrequire.symm.trans (hrun [])
    rcases times_of_sixteenth [] hbound with ⟨hdeadline, hk⟩
    rcases second_of_retries hdeadline hk hretries hreach hwatched hverdict with ⟨rfl, rfl⟩
    have hrefused : exists v₁, isReachable (refusedOnce []) = .ok false v₁ ∧
        v₁.engines = [firstEngine.look.look] := ⟨_, rfl, rfl⟩
    rcases hrefused with ⟨v₂, hrefused, hengines⟩
    cases hreach.symm.trans hrefused
    rcases (hverdict.late (lives_of_watched hwatched hengines rfl)).2 with ⟨w', hr⟩
    rw [after_of_error hr] at hprobes
    exact ⟨s.url, _, w', hr, hprobes, (hverdict.running w' hr).2⟩
  · rcases hruns [.accept] with ⟨s, hs⟩
    rcases hsecond.2.2.2 0 s _ _ _ hs hlimit toRatio?_sixteenth with
      ⟨w₁, k, v, reached, v₁, i, e, hrequire, hretries, hreach, hwatched, hprobes, hbound,
        hverdict⟩
    cases hrequire.symm.trans (hrun [.accept])
    rcases times_of_sixteenth [.accept] hbound with ⟨hdeadline, hk⟩
    rcases second_of_retries hdeadline hk hretries hreach hwatched hverdict with ⟨rfl, rfl⟩
    have haccepted : exists v₁, isReachable (refusedOnce [.accept]) = .ok true v₁ := ⟨_, rfl⟩
    rcases haccepted with ⟨v₂, haccepted⟩
    cases hreach.symm.trans haccepted
    rcases hverdict.returns.mpr rfl with ⟨w', hr⟩
    rw [after_of_ok hr] at hprobes
    exact ⟨w', hr, hprobes⟩

end Session
end EngineClient
