import EngineClient.Fault

/-!
# Engines

An engine process from the client's side: whether it has exited, and how it takes
being asked to end and being killed. What an engine will do on its own is its temper.
-/

namespace EngineClient

structure Temper where
  /-- The exit code of an engine that has exited as soon as it started. -/
  exitCode? : Option Int := none
  /-- After this many looks at it, the engine exits with a code. -/
  exitAfterLooks? : Option (Nat × Int) := none
  /-- At this look, the client is closed while it waits for the result. -/
  closesClientAtLook? : Option Nat := none
  /-- The exit code after being asked to end; an engine may refuse. -/
  onTerminate? : Option Int := some (-15)
  /-- The exit code after being killed. -/
  onKill? : Option Int := some (-9)
  lookFault? : Option Fault := none
  terminateFault? : Option Fault := none
  killFault? : Option Fault := none
  /-- What goes wrong with waiting for the end of an engine. -/
  waitFault? : Option Fault := none
  /-- What goes wrong with waiting for the end of an engine that was killed. -/
  lastWaitFault? : Option Fault := none
  deriving Repr

structure Engine where
  pid : Nat
  argv : List String
  cwd : String
  /-- The stream that takes the engine's output; without one the output is dropped. -/
  output? : Option Nat
  exit? : Option Int
  terminated : Bool
  killed : Bool
  /-- How often the client has looked whether the engine lives. -/
  looks : Nat
  temper : Temper
  deriving Repr

namespace Engine

def start (pid : Nat) (argv : List String) (cwd : String) (output? : Option Nat)
    (temper : Temper) : Engine :=
  { pid, argv, cwd, output?, exit? := temper.exitCode?, terminated := false, killed := false
    looks := 0, temper }

def isAlive (e : Engine) : Bool :=
  e.exit?.isNone

/-! ## Looking -/

structure Sight where
  exit? : Option Int
  /-- Whether the client is closed before the look returns. -/
  closesClient : Bool
  deriving DecidableEq, Repr

def look (e : Engine) : Engine :=
  let looks := e.looks + 1
  match e.exit?, e.temper.exitAfterLooks? with
  | none, some (after, code) =>
      if after < looks then { e with looks, exit? := some code } else { e with looks }
  | _, _ => { e with looks }

def sight (e : Engine) : Sight :=
  if e.temper.closesClientAtLook? = some e.looks then ⟨none, true⟩ else ⟨e.exit?, false⟩

/-! ## Signals -/

def terminate (e : Engine) : Engine :=
  { e with terminated := true, exit? := e.temper.onTerminate?.or e.exit? }

def kill (e : Engine) : Engine :=
  { e with killed := true, exit? := e.temper.onKill?.or e.exit? }

def await (e : Engine) : Except Fault Unit :=
  match if e.killed then e.temper.lastWaitFault? else e.temper.waitFault? with
  | some f => .error f
  | none => if e.isAlive then .error (.waitTimedOut e.argv) else .ok ()

theorem isAlive_of_await {e : Engine} (h : e.await = .ok ()) : e.isAlive = false := by
  unfold await at h
  split at h
  · cases h
  · cases halive : e.isAlive with
    | true =>
        rw [halive] at h
        cases h
    | false => rfl

end Engine
end EngineClient
