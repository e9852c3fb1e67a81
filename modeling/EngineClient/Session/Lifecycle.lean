import EngineClient.World

/-!
# The life of a session

Opening, watching and closing the one session of a client. Closing always gives up the
session first and then ends its engine: it asks, waits, kills and waits again. Looking
at an engine may close the client; the look then shows the engine alive.
-/

namespace EngineClient
namespace Session

def logger : String := "session"

/-! ## Engines -/

def look (i : Nat) : Act Engine.Sight := do
  match (← get).engines[i]? with
  | none => return ⟨none, false⟩
  | some e =>
      match e.temper.lookFault? with
      | some f => throw f
      | none =>
          Act.mapEngine i Engine.look
          return e.look.sight

def terminate (i : Nat) : Act Unit := do
  match (← get).engines[i]?.bind (·.temper.terminateFault?) with
  | some f => throw f
  | none => Act.mapEngine i Engine.terminate

def kill (i : Nat) : Act Unit := do
  match (← get).engines[i]?.bind (·.temper.killFault?) with
  | some f => throw f
  | none => Act.mapEngine i Engine.kill

def await (i : Nat) : Act Unit := do
  match (← get).engines[i]? with
  | none => return ()
  | some e => Act.ofExcept e.await

/-- Ends an engine that lives: it is asked first, and killed if it does not end in time. -/
def endEngine (i : Nat) : Act Unit := do
  terminate i
  match ← Act.attempt (await i) with
  | .ok () => return ()
  | .error (.waitTimedOut _) =>
      kill i
      await i
  | .error f => throw f

def stopEngine (engine? : Option Nat) : Act Unit := do
  match engine? with
  | none => return ()
  | some i =>
      match (← look i).exit? with
      | some _ => return ()
      | none => endEngine i

/-! ## Closing -/

/-- Ends the engine of a session that was given up, and closes its stream whatever becomes
of the engine. -/
def finish (s : Session) : Act Unit := do
  let ended ← Act.attempt (stopEngine s.engine?)
  match s.stream? with
  | some i => Act.closeStream i
  | none => pure ()
  Act.ofExcept ended
  Act.record logger .info "session_closed" [("directory", .text s.directory.text)]

/-- Gives up the session and ends its engine. The session is closed whatever becomes of
the engine. -/
def close : Act Unit := do
  let c ← Act.client
  match c.current?, c.session? with
  | some n, some s =>
      Act.mapClient (·.retire n)
      finish s
  | _, _ => return ()

/-! ## Watching -/

/-- The exit code that a look at an engine shows; the look may close the client. -/
def poll (i : Nat) : Act (Option Int) := do
  let sight ← look i
  if sight.closesClient then close
  return sight.exit?

/-- What a look at its engine says of a session: it runs, or it is closed as its engine has
exited. -/
def heed (s : Session) : Option Int → Act Bool
  | none => return true
  | some code => do
      Act.record logger .warning "engine_exited"
        [("directory", .text s.directory.text), ("returncode", .int code)]
      close
      return false

/-- Whether the session runs; a session whose engine has exited is closed. -/
def isRunning : Act Bool := do
  match (← Act.client).session? with
  | none => return false
  | some s =>
      match s.state, s.engine? with
      | .running, some i => heed s (← poll i)
      | _, _ => return false

def notRunning (command : String) (state : SessionState) : Fault :=
  .client ⟨.notRunning, "no running session (state: " ++ state.name ++ ")", some command⟩

def requireRunning (command : String) : Act Nat := do
  if ← isRunning then
    match (← Act.client).current? with
    | some n => return n
    | none =>
        throw (.unreachable "running session without a session value"
          [("command", .text command)])
  else throw (notRunning command (← Act.client).state)

def ofNumber (n : Nat) : Act Session := do
  match (← Act.client).sessions[n]? with
  | some s => return s
  | none => throw (.unreachable "session without a number" [])

/-! ## Opening -/

def openError (detail : String) (cause : Fault) : Fault :=
  .chained ⟨.spawnFailure, detail, some "open"⟩ cause

/-- Opens the stream for the output of the next engine, if the options name a file. -/
def openServerLog (o : Options) : Act (Option Nat) := do
  match o.serverLog? with
  | none => return none
  | some "" => return none
  | some file =>
      let p ← Act.ofExcept ((← Act.disk).expandUser (Path.ofText file))
      match (← Act.disk).openAppend p with
      | .ok d =>
          let n := (← get).streams.length
          modify fun w => { w with disk := d, streams := w.streams ++ [⟨p.text, false⟩] }
          return some n
      | .error f =>
          if f.isOs then
            throw (openError
              ("could not open server log " ++ Text.quoted p.text ++ ": " ++ f.message) f)
          else throw f

def missingProgram (argv : List String) : Fault :=
  if argv.any Disk.hasNul then .embeddedNul
  else .os (DiskProblem.missing.error (argv.headD ""))

def spawn (argv : List String) (cwd : String) (output? : Option Nat) : Act Nat := do
  let plans := (← get).surroundings.spawns
  modify fun w => { w with surroundings := { w.surroundings with spawns := plans.tail } }
  match plans.headD (.start {}) with
  | .fail f => throw f
  | .missing => throw (missingProgram argv)
  | .start temper =>
      let w ← get
      let n := w.engines.length
      let e := Engine.start (w.surroundings.firstPid + n) argv cwd output? temper
      let companions := w.trail.companions ++ [w.engines.countP Engine.isAlive]
      set { w with engines := w.engines ++ [e], trail := { w.trail with companions } }
      return n

def startDirectory (c : Client) (d : Disk) : Except Fault String :=
  match c.home? with
  | some home => .ok (Path.ofText home).text
  | none => d.homePath.map Path.text

def startEngine (argv : List String) (output? : Option Nat) : Act Nat := do
  let cwd ← Act.ofExcept (startDirectory (← Act.client) (← Act.disk))
  spawn argv cwd output?

def launchArgv (directory : Path) : Act (List String) := do
  return (← Act.client).options.launchArgv directory.text

structure Launch where
  directory : Path
  argv : List String
  /-- The number of the stream that takes the engine's output. -/
  stream? : Option Nat
  deriving DecidableEq, Repr

def prepare (directory : String) : Act Launch := do
  close
  let place ← Act.ofExcept ((← Act.disk).canonical (Path.ofText directory))
  let argv ← launchArgv place
  let stream? ← openServerLog (← Act.client).options
  return ⟨place, argv, stream?⟩

def connect (l : Launch) (n : Nat) (url : String) (i : Nat) : Act Nat := do
  Act.mapSession n fun s =>
    { s with engine? := some i, stream? := l.stream?, state := .running }
  let pid := ((← get).engines[i]?.map (·.pid)).getD 0
  Act.record logger .info "session_opened"
    [("directory", .text l.directory.text), ("url", .text url), ("pid", .int pid)]
  return n

/-- Takes back a session whose engine the operating system did not start. -/
def withdraw (l : Launch) (f : Fault) : Act Nat := do
  match l.stream? with
  | some i => Act.closeStream i
  | none => pure ()
  Act.mapClient Client.release
  Act.record logger .warning "engine_spawn_failed"
    [("argv", .list (l.argv.map .text)), ("error", .text f.message)]
  throw (openError
    ("could not start " ++ Text.quoted (l.argv.headD "") ++ ": " ++ f.message) f)

/-- Begins a session and starts its engine, and gives its number. An error of the operating
system takes the session back. -/
def launch (l : Launch) : Act Nat := do
  let c ← Act.client
  let n := c.epoch
  let s := starting c.options l.directory
  Act.mapClient (·.begin s)
  match ← Act.attempt (startEngine l.argv l.stream?) with
  | .ok i => connect l n s.url i
  | .error f => if f.isOs then withdraw l f else throw f

/-- Opens a session on a directory, closing the one before it, and gives its number. -/
def openOn (directory : String) : Act Nat := do
  launch (← prepare directory)

end Session
end EngineClient
