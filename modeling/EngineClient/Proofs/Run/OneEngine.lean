import EngineClient.Proofs.Run.Basic
import EngineClient.Proofs.Session.Opening

/-!
# One engine at a time

As long as closes do not fail, at most one engine lives, and it is the engine of the session
in use. The invariant is kept by steady steps and by closes, and therefore by every calm
passage; an open closes first, so the engine that it starts is alone. Main statement:
`one_engine_of_reached`.
-/

namespace EngineClient

/-- A session that was given up: it is closed and has no engine. -/
def Session.IsOver (s : Session) : Prop :=
  s.state = .closed ∧ s.engine? = none

/-- Of the engines that were started only that of the session in use may live. Sessions that
were opened and are not in use any more are over, and no engine ever had company when it was
started. -/
structure OneEngine (opened : List Nat) (w : World) : Prop where
  alone :
    forall i e, w.engines[i]? = some e -> e.isAlive = true ->
      exists s, w.client.session? = some s ∧ s.state = .running ∧ s.engine? = some i
  ended :
    forall n, n ∈ opened -> w.client.current? ≠ some n ->
      exists s, w.client.sessions[n]? = some s ∧ s.IsOver
  known : forall n, n ∈ opened -> n < w.client.sessions.length
  companions : forall k, k ∈ w.trail.companions -> k = 0

namespace OneEngine

variable {opened : List Nat} {w w' : World}

/-!
## Steady steps
-/

theorem steady (hsteady : w.Steady w') (h : OneEngine opened w) : OneEngine opened w' := by
  constructor
  · intro i e he halive
    rcases forall₂_getElem? hsteady.engines he with ⟨d, hd, houtlasts⟩
    rcases h.alone i d hd (houtlasts halive) with ⟨s, hs, hstate, hi⟩
    have hpost := hsteady.post_session?
    rw [hs] at hpost
    rcases Option.map_eq_some_iff.mp hpost with ⟨s', hs', hpost⟩
    refine ⟨s', hs', ?_, ?_⟩
    · exact (congrArg Prod.fst hpost).trans hstate
    · exact (congrArg Prod.snd hpost).trans hi
  · intro n hn hcurrent
    rw [hsteady.current] at hcurrent
    rcases h.ended n hn hcurrent with ⟨s, hs, hclosed, hnone⟩
    have hpost := hsteady.post_getElem? n
    rw [hs] at hpost
    rcases Option.map_eq_some_iff.mp hpost with ⟨s', hs', hpost⟩
    refine ⟨s', hs', ?_, ?_⟩
    · exact (congrArg Prod.fst hpost).trans hclosed
    · exact (congrArg Prod.snd hpost).trans hnone
  · intro n hn
    have hlength := congrArg List.length hsteady.posts
    simp only [List.length_map] at hlength
    rw [hlength]
    exact h.known n hn
  · rw [hsteady.companions]
    exact h.companions

/-!
## Closing
-/

theorem over_of_session?_none (h : OneEngine opened w) (hnone : w.client.session? = none) :
    forall n, n ∈ opened -> exists s, w.client.sessions[n]? = some s ∧ s.IsOver := by
  intro n hn
  by_cases hcurrent : w.client.current? = some n
  · have hknown := h.known n hn
    simp [Client.session?, hcurrent] at hnone
    omega
  · exact h.ended n hn hcurrent

theorem dead_of_session?_none (h : OneEngine opened w) (hnone : w.client.session? = none)
    {i : Nat} {e : Engine} (he : w.engines[i]? = some e) : e.isAlive = false := by
  cases halive : e.isAlive with
  | false => rfl
  | true =>
      rcases h.alone i e he halive with ⟨s, hs, _⟩
      rw [hnone] at hs
      cases hs

/-- Closing that succeeds leaves no engine alive. -/
theorem dead_of_close (h : OneEngine opened w) (hclose : Session.close w = .ok () w')
    {i : Nat} {e : Engine} (he : w'.engines[i]? = some e) : e.isAlive = false := by
  cases hs : w.client.session? with
  | none =>
      rw [Session.close_of_none hs] at hclose
      cases hclose
      exact h.dead_of_session?_none hs he
  | some s =>
      rw [Session.close_of_some hs] at hclose
      rcases Session.finish_eq_ok hclose with ⟨w₁, hstop, hwanes⟩
      have hstopped := (Session.wanes_stopEngine s.engine?).of_ok hstop
      cases halive : e.isAlive with
      | false => rfl
      | true =>
          -- An engine that still lives lived before as well, so it was the one to be stopped.
          rcases forall₂_getElem? hwanes.engines he with ⟨d, hd, hfades⟩
          rcases forall₂_getElem? hstopped.engines hd with ⟨c, hc, hfades'⟩
          rw [w.factor_retire World.engines fun _ _ => rfl] at hc
          have hlives := hfades.alive halive
          rcases h.alone i c hc (hfades'.alive hlives) with ⟨t, ht, _, hi⟩
          rw [hs] at ht
          cases ht
          rw [hi] at hstop
          rw [Session.dead_of_stopEngine hstop d hd] at hlives
          cases hlives

theorem over_of_retire (h : OneEngine opened w) {n : Nat} (hn : n ∈ opened) :
    exists s, w.retire.client.sessions[n]? = some s ∧ s.IsOver := by
  cases hs : w.client.session? with
  | none =>
      rw [World.retire_of_none hs]
      exact h.over_of_session?_none hs n hn
  | some s =>
      rcases Client.session?_eq_some_iff.mp hs with ⟨m, hm, hms⟩
      have hsessions : w.retire.client.sessions =
          w.client.sessions.modify m fun s =>
            { s with state := .closed, engine? := none, stream? := none } := by
        unfold World.retire
        rw [hm, hs]
        rfl
      rw [hsessions]
      by_cases hnm : m = n
      · subst hnm
        refine ⟨{ s with state := .closed, engine? := none, stream? := none }, ?_, rfl, rfl⟩
        rw [List.getElem?_modify_eq, hms]
        rfl
      · rw [List.getElem?_modify_ne _ _ hnm]
        refine h.ended n hn ?_
        rw [hm]
        exact fun heq => hnm (Option.some.inj heq)

theorem close (hclose : Session.close w = .ok () w') (h : OneEngine opened w) :
    OneEngine opened w' := by
  have hwanes := Session.wanes_close w
  rw [Act.after_of_ok hclose] at hwanes
  constructor
  · intro i e he halive
    rw [h.dead_of_close hclose he] at halive
    cases halive
  · intro n hn _
    rw [hwanes.client]
    exact h.over_of_retire hn
  · intro n hn
    rw [hwanes.client]
    rcases h.over_of_retire hn with ⟨s, hs, _⟩
    exact (List.getElem?_eq_some_iff.mp hs).1
  · rw [hwanes.factor (·.trail.companions) fun _ => rfl,
      w.factor_retire (·.trail.companions) fun _ _ => rfl]
    exact h.companions

/-!
## Opening
-/

/-- No engine lives, and every session that was opened is over. -/
structure Quiet (opened : List Nat) (w : World) : Prop where
  dead : forall e, e ∈ w.engines -> e.isAlive = false
  ended : forall n, n ∈ opened -> exists s, w.client.sessions[n]? = some s ∧ s.IsOver
  companions : forall k, k ∈ w.trail.companions -> k = 0

theorem quiet_of_close (h : OneEngine opened w) (hclose : Session.close w = .ok () w') :
    Quiet opened w' := by
  have hclosed := h.close hclose
  constructor
  · intro e he
    rcases List.getElem?_of_mem he with ⟨i, hi⟩
    exact h.dead_of_close hclose hi
  · refine hclosed.over_of_session?_none ?_
    rw [← Act.after_of_ok hclose]
    exact Session.session?_after_close w
  · exact hclosed.companions

/-- In a quiet world it does not matter which session is in use. -/
theorem of_quiet (h : Quiet opened w) : OneEngine opened w := by
  constructor
  · intro i e he halive
    rw [h.dead e (List.mem_of_getElem? he)] at halive
    cases halive
  · intro n hn _
    exact h.ended n hn
  · intro n hn
    rcases h.ended n hn with ⟨s, hs, _⟩
    exact (List.getElem?_eq_some_iff.mp hs).1
  · exact h.companions

theorem Quiet.begun (h : Quiet opened w) (l : Session.Launch) : Quiet opened (w.begun l) := by
  refine ⟨h.dead, ?_, h.companions⟩
  intro n hn
  rcases h.ended n hn with ⟨s, hs, hover⟩
  refine ⟨s, ?_, hover⟩
  change (w.client.sessions ++ [_])[n]? = some s
  rw [List.getElem?_append_left (List.getElem?_eq_some_iff.mp hs).1]
  exact hs

theorem Quiet.started (h : Quiet opened w) {argv : List String} {output? : Option Nat}
    {f : Fault} (hstart : Session.startEngine argv output? w = .error f w') :
    Quiet opened w' := by
  rcases Session.startEngine_eq_error hstart with rfl | rfl
  · exact h
  · exact ⟨h.dead, h.ended, h.companions⟩

/-- An engine that is started in a quiet world is alone, and its session is in use. -/
theorem Quiet.connected (h : Quiet opened w) {l : Session.Launch} {i : Nat}
    (hstart : Session.startEngine l.argv l.stream? (w.begun l) = .ok i w') :
    OneEngine (opened ++ [w.client.epoch]) (w'.connected w.client.epoch i l.stream?) := by
  rcases Session.startEngine_eq_ok hstart with ⟨rfl, pid, cwd, temper, _, rfl⟩
  constructor
  · intro j e he halive
    change (w.engines ++ [_])[j]? = some e at he
    rcases Nat.lt_or_ge j w.engines.length with hj | hj
    · rw [List.getElem?_append_left hj] at he
      rw [h.dead e (List.mem_of_getElem? he)] at halive
      cases halive
    · have hlast : j = w.engines.length := by
        have hlt := (List.getElem?_eq_some_iff.mp he).1
        rw [List.length_append, List.length_singleton] at hlt
        omega
      rw [hlast]
      exact ⟨_, Session.session?_connected hstart, rfl, rfl⟩
  · intro n hn hcurrent
    have hlast : n ≠ w.client.epoch := fun heq => hcurrent (by rw [heq]; rfl)
    rcases List.mem_append.mp hn with hn | hn
    · rcases (h.begun l).ended n hn with ⟨s, hs, hover⟩
      refine ⟨s, ?_, hover⟩
      change ((w.begun l).client.sessions.modify w.client.epoch _)[n]? = some s
      rw [List.getElem?_modify_ne _ _ (Ne.symm hlast)]
      exact hs
    · exact absurd (List.mem_singleton.mp hn) hlast
  · intro n hn
    change n < ((w.client.sessions ++ [_]).modify w.client.epoch _).length
    rw [List.length_modify, List.length_append]
    rcases List.mem_append.mp hn with hn | hn
    · rcases h.ended n hn with ⟨s, hs, _⟩
      exact Nat.lt_add_right _ (List.getElem?_eq_some_iff.mp hs).1
    · rw [List.mem_singleton.mp hn]
      exact Nat.lt_succ_self _
  · intro k hk
    rcases List.mem_append.mp hk with hk | hk
    · exact h.companions k hk
    · rw [List.mem_singleton.mp hk]
      refine List.countP_eq_zero.mpr ?_
      intro e he halive
      rw [h.dead e he] at halive
      cases halive

theorem openOn {directory : String} (h : OneEngine opened w)
    (hclean : exists w₀, Session.close w = .ok () w₀) :
    OneEngine (opened ++ (Move.openOn directory).opened w)
      ((Session.openOn directory).after w) := by
  rcases hclean with ⟨w₀, hclose⟩
  have hquiet := h.quiet_of_close hclose
  have hprepared : forall {l : Session.Launch} {w₁ : World},
      Session.prepare directory w = .ok l w₁ -> Quiet opened w₁ := by
    intro l w₁ hprepare
    rcases Session.prepare_keeps (P := Quiet opened)
      (fun v _ _ hv => ⟨hv.dead, hv.ended, hv.companions⟩) hprepare with ⟨w₀', hclose', hkeeps⟩
    rw [hclose] at hclose'
    cases hclose'
    exact hkeeps hquiet
  have hopens := Session.opens_openOn directory w
  cases hrun : Session.openOn directory w with
  | ok n w' =>
      rw [hrun] at hopens
      rw [Act.after_of_ok hrun]
      simp only [Move.opened, hrun]
      cases hopens with
      | connected hprepare hstart hwanes =>
          have hconnected := (hprepared hprepare).connected hstart
          exact hconnected.steady (.of_outside (.of_wanes hwanes))
  | error f w' =>
      rw [hrun] at hopens
      rw [Act.after_of_error hrun]
      simp only [Move.opened, hrun, List.append_nil]
      -- No engine was started, so what closing left behind stays quiet.
      cases hopens with
      | unprepared hprepare =>
          rw [Act.after_of_ok hclose]
          exact of_quiet hquiet
      | withdrawn hprepare hstart hos hwanes =>
          have hstarted := ((hprepared hprepare).begun _).started hstart
          refine steady (.of_outside (.of_wanes hwanes)) ?_
          exact of_quiet ⟨hstarted.dead, hstarted.ended, hstarted.companions⟩
      | stranded hprepare hstart hother =>
          exact of_quiet (((hprepared hprepare).begun _).started hstart)

/-!
## Runs
-/

theorem calm (hcalm : w.Calm w') (h : OneEngine opened w) : OneEngine opened w' :=
  hcalm.keeps (fun _ _ => steady) (fun _ _ => close) h

theorem fresh (h : w.IsFresh) : OneEngine [] w := by
  refine of_quiet ⟨?_, ?_, ?_⟩
  · intro e he
    rw [h.engines] at he
    cases he
  · intro n hn
    cases hn
  · intro k hk
    rw [h.companions] at hk
    cases hk

/-- Every move keeps the invariant, unless the close that it begins with fails. -/
theorem move (hapart : w.IsApart) (h : OneEngine opened w) {m : Move}
    (hclean : m.ClosesCleanly w) : OneEngine (opened ++ m.opened w) (m.after w) := by
  cases m with
  | openOn directory =>
      exact h.openOn hclean
  | close =>
      rcases hclean with ⟨w', hclose⟩
      have hclosed := h.close hclose
      rw [← Act.after_of_ok hclose] at hclosed
      show OneEngine (opened ++ []) _
      rw [List.append_nil]
      exact hclosed
  | _ =>
      show OneEngine (opened ++ []) _
      rw [List.append_nil]
      exact h.calm (Move.calm hapart trivial)

theorem of_reached (h : Reached (fun w m => m.ClosesCleanly w) opened w) :
    OneEngine opened w := by
  induction h with
  | fresh hfresh =>
      exact fresh hfresh
  | elsewhere _ hstep ih =>
      exact ih.steady hstep.steady
  | move hreached m hclean ih =>
      exact ih.move hreached.isApart hclean

end OneEngine

/-- In a run whose closes do not fail, no engine lived when another was started. At most one
engine lives, and it is the engine of the session in use, which is running. Every session
that was opened and is not in use any more is closed and has no engine. A session that is
seen to run is in use. -/
theorem one_engine_of_reached {opened : List Nat} {w : World}
    (h : Reached (fun w m => m.ClosesCleanly w) opened w) :
    (forall k, k ∈ w.trail.companions -> k = 0) ∧
      (forall (i j : Nat) (d e : Engine),
        w.engines[i]? = some d -> w.engines[j]? = some e ->
          d.isAlive = true -> e.isAlive = true -> i = j) ∧
      (forall (i : Nat) (e : Engine), w.engines[i]? = some e -> e.isAlive = true ->
        exists s, w.client.session? = some s ∧ s.state = .running ∧ s.engine? = some i) ∧
      (forall n, n ∈ opened -> w.client.current? ≠ some n ->
        exists s, w.client.sessions[n]? = some s ∧ s.state = .closed ∧ s.engine? = none) ∧
      (forall w', Session.isRunning w = .ok true w' ->
        exists s, w'.client.session? = some s) := by
  have hone := OneEngine.of_reached h
  refine ⟨hone.companions, ?_, hone.alone, hone.ended, ?_⟩
  · intro i j d e hd he hlives hlives'
    rcases hone.alone i d hd hlives with ⟨s, hs, _, hi⟩
    rcases hone.alone j e he hlives' with ⟨t, ht, _, hj⟩
    rw [hs] at ht
    cases ht
    rw [hi] at hj
    exact Option.some.inj hj
  · intro w' hrun
    have hasked := Session.asked_isRunning h.isApart
    rw [hrun] at hasked
    cases hasked with
    | missing hs hi hmissing => exact ⟨_, hs⟩
    | alive hwatched halive => exact ⟨_, hwatched.session⟩

/-!
## A second session
-/

def closedSession : World :=
  Session.close.after firstSession

def secondEngine : Engine :=
  Engine.start 4002 (Session.rootLaunch closedSession).argv (Path.ofText "/").text none {}

/-- The world in which the client opened the root once more, while its first engine lived. -/
def secondSession : World :=
  (Session.connect (Session.rootLaunch closedSession) 1
    (Session.starting closedSession.client.options ⟨.single, []⟩).url 1).after
      ((closedSession.begun (Session.rootLaunch closedSession)).spawned secondEngine)

theorem close_firstSession : Session.close firstSession = .ok () closedSession := rfl

theorem openOn_firstSession : Session.openOn "/" firstSession = .ok 1 secondSession := by
  have hprepare := Session.prepare_root_of_close close_firstSession rfl
  have hstart :
      Session.startEngine (Session.rootLaunch closedSession).argv none
        (closedSession.begun (Session.rootLaunch closedSession)) =
        .ok 1 ((closedSession.begun (Session.rootLaunch closedSession)).spawned secondEngine) := rfl
  have hopen := Act.bind_run_of_ok (g := Session.launch) hprepare
  rw [Session.launch_of_ok hstart] at hopen
  exact hopen

theorem reached_secondSession {admits : World → Move → Prop}
    (h : admits newClient (.openOn "/")) (h' : admits firstSession (.openOn "/")) :
    Reached admits [0, 1] secondSession := by
  have hreached := Reached.move (reached_firstSession h) (.openOn "/") h'
  simp only [Move.opened, Move.after, openOn_firstSession, Act.after_of_ok openOn_firstSession]
    at hreached
  exact hreached

/-- The second open ends the engine of the first session before it starts its own. -/
theorem one_engine_of_second_open :
    (exists e, firstSession.engines[0]? = some e ∧ e.isAlive = true) ∧
      (exists e, secondSession.engines[0]? = some e ∧ e.isAlive = false) ∧
      secondSession.trail.companions = [0, 0] ∧
      (exists s, secondSession.client.session? = some s ∧ s.state = .running ∧
        s.engine? = some 1) ∧
      exists s, secondSession.client.sessions[0]? = some s ∧ s.state = .closed ∧
        s.engine? = none := by
  have hreached : Reached (fun w m => m.ClosesCleanly w) [0, 1] secondSession :=
    reached_secondSession ⟨newClient, Session.close_of_none rfl⟩ ⟨closedSession, rfl⟩
  have hengine : secondSession.engines[1]? = some secondEngine := rfl
  rcases one_engine_of_reached hreached with ⟨_, _, halone, hended, _⟩
  refine ⟨⟨_, engines_firstSession, rfl⟩, ⟨_, rfl, rfl⟩, rfl, halone 1 _ hengine rfl, ?_⟩
  exact hended 0 (by simp) nofun

end EngineClient
