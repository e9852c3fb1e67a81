import EngineClient.Session.Lifecycle

/-!
# Waiting for an engine

An engine that was just started does not answer at once. The client tries to reach it,
pauses, and tries again, until it answers, exits, or the time is up. The time is read
from a clock, which may be any that a pause moves forward.
-/

namespace EngineClient

/-! ## Clocks -/

structure Clock (τ : Type) where
  now : World → τ
  /-- The time that lies a number of seconds after another. -/
  after : τ → Binary64 → τ
  /-- Whether a time has been reached. -/
  reached : τ → τ → Bool
  /-- The world after a pause between two attempts. -/
  pause : World → World

def pauseSeconds : Binary64 :=
  .ofRatio false 1 10

def World.paused (w : World) : World :=
  { w with
    clock := w.clock + pauseSeconds
    trail := { w.trail with pauses := w.trail.pauses + 1 } }

def Clock.ofWorld : Clock Binary64 :=
  { now := World.clock, after := (· + ·), reached := fun deadline now => deadline.le now
    pause := World.paused }

/-! ## Time limits -/

structure TimeLimit where
  seconds : Binary64
  text : String
  deriving Repr

namespace TimeLimit

def ofSeconds (x : Binary64) : TimeLimit :=
  ⟨x, x.toText⟩

def ofValue : Value → Except Fault TimeLimit
  | .real x => .ok (ofSeconds x)
  | .int i =>
      match Binary64.ofInt i with
      | .infinite _ => .error .realRange
      | x => .ok ⟨x, Text.decimalInt i⟩
  | .bool b => .ok ⟨.ofInt (if b then 1 else 0), (Value.bool b).display⟩
  | v =>
      .error (.foreign "TypeError"
        ("unsupported operand type(s) for +: 'float' and '" ++ v.kindName ++ "'"))

/-- More attempts than any clock allows within a time limit: an endless wait is given up
after a million. -/
def attempts (t : TimeLimit) : Nat :=
  match t.seconds.toRatio? with
  | some (n, d) => (20 * n / d).toNat + 4
  | none => 1000000

end TimeLimit

namespace Session

/-! ## Attempts -/

def refused : Fault :=
  .os (.ofCode 111 "Connection refused" none)

def meet : ProbePlan → Act Unit
  | .accept => return ()
  | .refuse => throw refused
  | .timeOut => throw (.os { kind := .timedOut, code? := none, text := "timed out" })
  | .fail f => throw f
  | .exit code => do
      Act.exitNewest code
      throw refused
  | .close => do
      close
      throw refused

def probe : Act Unit := do
  let w ← get
  let (plan, probes) := (nextRepeating w.surroundings.probes).getD (.accept, [])
  set { w with
    surroundings := { w.surroundings with probes }
    trail := { w.trail with probes := w.trail.probes + 1 } }
  meet plan

def isReachable : Act Bool := do
  match ← Act.attempt probe with
  | .ok () => return true
  | .error f => if f.isOs then return false else throw f

/-! ## The wait -/

def waitCommand : String := "wait_until_ready"

def exitedEarly : Fault :=
  .client ⟨.spawnFailure, "engine exited before accepting connections", some waitCommand⟩

def notReady (url limit : String) : Fault :=
  .client (.transportTimeout
    ("engine at " ++ url ++ " not ready within " ++ limit ++ "s") (some waitCommand) "")

/-- Tries to reach the engine until it answers, exits, or the deadline is reached; at
most a number of times. -/
def tryUntil {τ : Type} (clock : Clock τ) (deadline : τ) (url limit : String) :
    Nat → Act Unit
  | 0 => throw (notReady url limit)
  | n + 1 => do
      if ← isReachable then
        Act.record logger .debug "engine_ready" [("url", .text url)]
      else if !(← isRunning) then throw exitedEarly
      else if clock.reached deadline (clock.now (← get)) then throw (notReady url limit)
      else
        modify clock.pause
        tryUntil clock deadline url limit n

def waitBy {τ : Type} (clock : Clock τ) (limit? : Option Value) : Act Unit := do
  let s ← ofNumber (← requireRunning waitCommand)
  let limit ←
    match limit? with
    | some v => Act.ofExcept (TimeLimit.ofValue v)
    | none => pure (TimeLimit.ofSeconds (← Act.client).options.timeout)
  let deadline := clock.after (clock.now (← get)) limit.seconds
  tryUntil clock deadline s.url limit.text limit.attempts

def waitUntilReady (limit? : Option Value) : Act Unit :=
  waitBy Clock.ofWorld limit?

end Session
end EngineClient
