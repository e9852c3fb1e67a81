import EngineClient.Proofs.Run.Calm
import EngineClient.Proofs.Session.Opening

/-!
# Runs of a client

The user of a client makes one move after another. Between two moves the surroundings go
on: engines exit, files change, buffers are edited. A world is reached if such a run leads
to it from a fresh client. What every run keeps is shown by what each move keeps.
-/

namespace EngineClient

/-!
## Moves
-/

inductive Move where
  | openOn (directory : String)
  | close
  | isRunning
  | requireRunning (command : String)
  | waitUntilReady (limit? : Option Value)
  | dispatch (method : Value) (args : List Value)

namespace Move

def after (w : World) : Move → World
  | .openOn directory => (Session.openOn directory).after w
  | .close => Session.close.after w
  | .isRunning => Session.isRunning.after w
  | .requireRunning command => (Session.requireRunning command).after w
  | .waitUntilReady limit? => (Session.waitUntilReady limit?).after w
  | .dispatch method args => (EngineClient.dispatch method args).after w

def opened (w : World) : Move → List Nat
  | .openOn directory =>
      match Session.openOn directory w with
      | .ok n _ => [n]
      | .error _ _ => []
  | _ => []

/-- The close that a move begins with does not fail. -/
def ClosesCleanly (w : World) : Move → Prop
  | .openOn _ => exists w', Session.close w = .ok () w'
  | .close => exists w', Session.close w = .ok () w'
  | _ => True

end Move

/-!
## Reached worlds
-/

/-- A client that has not been used, in surroundings apart from it. -/
structure World.IsFresh (w : World) : Prop where
  sessions : w.client.sessions = []
  current : w.client.current? = none
  engines : w.engines = []
  companions : w.trail.companions = []
  surroundings : w.surroundings.IsApart

/-- What may happen while the client stands still: engines exit and surroundings apart from
the client change, and so may the buffers of its editor. -/
structure World.Elsewhere (w w' : World) : Prop where
  client :
    { w'.client with editor? := w.client.editor?, follows := w.client.follows } = w.client
  engines : List.Forall₂ Engine.Outlasts w.engines w'.engines
  trail : w'.trail = w.trail
  apart : w'.IsApart

/-- The worlds that runs of admitted moves lead to, with the sessions that were opened. -/
inductive Reached (admits : World → Move → Prop) : List Nat → World → Prop where
  | fresh {w : World} (h : w.IsFresh) : Reached admits [] w
  | elsewhere {opened : List Nat} {w w' : World} (h : Reached admits opened w)
      (hstep : w.Elsewhere w') : Reached admits opened w'
  | move {opened : List Nat} {w : World} (h : Reached admits opened w) (m : Move)
      (hm : admits w m) : Reached admits (opened ++ m.opened w) (m.after w)

theorem World.IsFresh.isApart {w : World} (h : w.IsFresh) : w.IsApart := by
  refine ⟨?_, h.surroundings⟩
  intro e he
  rw [h.engines] at he
  cases he

theorem World.Elsewhere.steady {w w' : World} (h : w.Elsewhere w') : w.Steady w' where
  current := by
    have hcurrent := congrArg Client.current? h.client
    exact hcurrent
  posts := by
    have hsessions := congrArg Client.sessions h.client
    exact congrArg (List.map Session.post) hsessions
  engines := h.engines
  companions := congrArg Trail.companions h.trail

/-!
## Opening apart from the client
-/

namespace World.IsApart

variable {w w' : World}

theorem spent (h : w.IsApart) : w.spent.IsApart :=
  ⟨h.engines, fun plan hplan => h.surroundings.spawns plan (List.mem_of_mem_tail hplan),
    h.surroundings.probes, h.surroundings.replies⟩

theorem startEngine (h : w.IsApart) (argv : List String) (output? : Option Nat) :
    ((Session.startEngine argv output?).after w).IsApart := by
  cases hstart : Session.startEngine argv output? w with
  | error f w₁ =>
      rw [Act.after_of_error hstart]
      rcases Session.startEngine_eq_error hstart with rfl | rfl
      · exact h
      · exact h.spent
  | ok i w₁ =>
      rw [Act.after_of_ok hstart]
      rcases Session.startEngine_eq_ok hstart with ⟨_, pid, cwd, temper, hplan, rfl⟩
      have htemper : temper.IsApart := by
        cases hspawns : w.surroundings.spawns with
        | nil =>
            rw [hspawns] at hplan
            cases hplan
            rfl
        | cons plan plans =>
            rw [hspawns] at hplan
            have hmem := h.surroundings.spawns plan (by rw [hspawns]; exact List.mem_cons_self)
            change plan = _ at hplan
            rw [hplan] at hmem
            exact hmem
      refine ⟨?_, h.spent.surroundings⟩
      intro e he
      rcases List.mem_append.mp he with he | he
      · exact h.engines e he
      · rw [List.mem_singleton.mp he]
        exact htemper

theorem openOn (h : w.IsApart) (directory : String) :
    ((Session.openOn directory).after w).IsApart := by
  apply Session.after_openOn h.close
  · intro v v' hengines hsurroundings hv
    exact hv.of_eq hengines hsurroundings
  · intro v v' hends hv
    exact hv.of_wanes hends
  · intro v argv output? hv
    exact hv.startEngine argv output?

end World.IsApart

namespace Move

def Watches : Move → Prop
  | .openOn _ => False
  | .close => False
  | _ => True

theorem passage (w : World) {m : Move} (h : m.Watches) :
    Act.Within World.IsApart World.Calm w (m.after w) := by
  cases m with
  | openOn directory => exact h.elim
  | close => exact h.elim
  | isRunning => exact Session.calm_isRunning w
  | requireRunning command => exact Session.calm_requireRunning command w
  | waitUntilReady limit? => exact Session.calm_waitUntilReady limit? w
  | dispatch method args => exact Dispatch.calm_dispatch method args w

theorem calm {w : World} (hapart : w.IsApart) {m : Move} (h : m.Watches) :
    w.Calm (m.after w) :=
  (passage w h hapart).2

theorem isApart {w : World} (hapart : w.IsApart) (m : Move) : (m.after w).IsApart := by
  cases m with
  | openOn directory => exact hapart.openOn directory
  | close => exact hapart.close
  | _ => exact And.left (passage w trivial hapart)

end Move

theorem Reached.isApart {admits : World → Move → Prop} {opened : List Nat} {w : World}
    (h : Reached admits opened w) : w.IsApart := by
  induction h with
  | fresh hfresh => exact hfresh.isApart
  | elsewhere _ hstep _ => exact hstep.apart
  | move _ m _ ih => exact m.isApart ih

/-!
## A first session
-/

def newClient : World where
  disk := .bare
  client := { home? := some "/" }

def firstEngine : Engine :=
  Engine.start 4001 (Session.rootLaunch newClient).argv (Path.ofText "/").text none {}

def firstSession : World :=
  (Session.connect (Session.rootLaunch newClient) 0
    (Session.starting newClient.client.options ⟨.single, []⟩).url 0).after
      ((newClient.begun (Session.rootLaunch newClient)).spawned firstEngine)

theorem newClient_isFresh : newClient.IsFresh where
  sessions := rfl
  current := rfl
  engines := rfl
  companions := rfl
  surroundings := .of_plain rfl rfl rfl

theorem openOn_newClient : Session.openOn "/" newClient = .ok 0 firstSession := by
  have hprepare := Session.prepare_root (w := newClient) rfl rfl
  have hstart :
      Session.startEngine (Session.rootLaunch newClient).argv none
        (newClient.begun (Session.rootLaunch newClient)) =
        .ok 0 ((newClient.begun (Session.rootLaunch newClient)).spawned firstEngine) := rfl
  have hopen := Act.bind_run_of_ok (g := Session.launch) hprepare
  rw [Session.launch_of_ok hstart] at hopen
  exact hopen

theorem reached_firstSession {admits : World → Move → Prop}
    (h : admits newClient (.openOn "/")) : Reached admits [0] firstSession := by
  have hreached := Reached.move (.fresh newClient_isFresh) (.openOn "/") h
  simp only [Move.opened, Move.after, openOn_newClient, Act.after_of_ok openOn_newClient]
    at hreached
  exact hreached

theorem engines_firstSession : firstSession.engines[0]? = some firstEngine := rfl

end EngineClient
