import EngineClient.Buffers
import EngineClient.Disk.Change
import EngineClient.Engine
import EngineClient.Log.Record
import EngineClient.Session.Basic

/-!
# The world of a client

A client acts on a world: the disk, the clock, the engines it started, the streams it
opened. What the surroundings will do is part of the world as well, so that a law about
every world is a law about every behaviour of the surroundings. An act changes the world
and gives a result or a fault; the world of a fault is the world in which it happened.
-/

namespace EngineClient

/-! ## What will happen -/

inductive SpawnPlan where
  | start (temper : Temper)
  | fail (f : Fault)
  /-- The program does not exist. -/
  | missing
  deriving Repr

inductive ProbePlan where
  | accept
  | refuse
  | timeOut
  /-- The attempt goes wrong in a way of its own. -/
  | fail (f : Fault)
  /-- The newest engine exits, then the attempt is refused. -/
  | exit (code : Int)
  /-- The client is closed, then the attempt is refused. -/
  | close
  deriving Repr

inductive Effect where
  | change (c : DiskChange)
  /-- The newest engine exits. -/
  | exit (code : Int)
  | close
  | open (directory : String)
  | setState (s : SessionState)
  | edit (path text : String)
  deriving DecidableEq, Repr

structure Reply where
  effects : List Effect := []
  result : Except Fault Value := .ok .null

/-- What the peer of a connection does: it cannot be reached, it takes the request and the
connection fails before a response is read, or it sends octets and closes the connection. -/
inductive Peer where
  | unreachable (f : Fault)
  | fails (f : Fault)
  | sends (response : List UInt8)
  deriving Repr

inductive TransportKind where
  /-- Replies arrive as they are. -/
  | direct
  /-- Replies arrive through a proxy, whose faults are classified. -/
  | proxied
  /-- Replies are read from the octets of a connection. -/
  | wire
  deriving DecidableEq, Repr

structure Surroundings where
  spawns : List SpawnPlan := []
  /-- The process number of the first engine. -/
  firstPid : Nat := 4001
  /-- The last plan repeats. -/
  probes : List ProbePlan := [.accept]
  /-- The replies to each command, by its name; the last one repeats. -/
  replies : List (String × List Reply) := []
  /-- The last peer repeats. -/
  peers : List Peer := []
  transport : TransportKind := .direct
  /-- How records of warnings are written, if they are. -/
  log? : Option Log.Renderer := some .json

/-- The next element of a list whose last element repeats, and what is left. -/
def nextRepeating {α : Type} : List α → Option (α × List α)
  | [] => none
  | [a] => some (a, [a])
  | a :: as => some (a, as)

theorem mem_of_nextRepeating {α : Type} {as rest : List α} {a : α}
    (h : nextRepeating as = some (a, rest)) : a ∈ as ∧ forall b, b ∈ rest -> b ∈ as := by
  cases as with
  | nil =>
      cases h
  | cons b bs =>
      cases bs with
      | nil =>
          cases h
          exact ⟨List.mem_singleton_self _, fun _ => id⟩
      | cons c cs =>
          cases h
          exact ⟨List.mem_cons_self, fun _ => List.mem_cons_of_mem _⟩

/-! ## What has happened -/

inductive Call where
  | direct (method : String) (args : List Value)
  | proxied (method : String) (args : List Value) (url : String) (timeout : Binary64)
  /-- One connection; nothing was written if it could not be made. -/
  | wire (host : String) (timeout : Binary64) (request body : String)
  deriving Repr

inductive Emission where
  | out (s : String)
  | err (s : String)
  | record (r : Log.Record)
  deriving Repr

/-- What has happened, oldest first. -/
structure Trail where
  calls : List Call := []
  emissions : List Emission := []
  /-- How many attempts were made to reach a starting engine. -/
  probes : Nat := 0
  /-- How many pauses were made between attempts. -/
  pauses : Nat := 0
  /-- The commands that were handed to the transport, with their arguments. -/
  requests : List (String × List Value) := []
  /-- The files that each request to follow the files named. -/
  reconciliations : List (Option (List String)) := []
  /-- How many engines lived at each start of another one. -/
  companions : List Nat := []

structure LogStream where
  path : String
  closed : Bool
  deriving DecidableEq, Repr

/-! ## The client and its world -/

structure Client where
  options : Options := Config.defaults
  /-- The directory that engines are started in, if not the user's home. -/
  home? : Option String := none
  /-- Every session, oldest first. -/
  sessions : List Session := []
  /-- The number of the session in use. -/
  current? : Option Nat := none
  editor? : Option Buffers := none
  /-- Whether buffers follow the files. -/
  follows : Bool := false
  /-- How often buffers were made to follow the files. -/
  syncs : Nat := 0

namespace Client

def epoch (c : Client) : Nat :=
  c.sessions.length

def session? (c : Client) : Option Session :=
  c.current?.bind fun n => c.sessions[n]?

def state (c : Client) : SessionState :=
  match c.session? with
  | some s => s.state
  | none => .closed

def mapSession (c : Client) (n : Nat) (f : Session → Session) : Client :=
  { c with sessions := c.sessions.modify n f }

def begin (c : Client) (s : Session) : Client :=
  { c with sessions := c.sessions ++ [s], current? := some c.sessions.length }

def release (c : Client) : Client :=
  { c with current? := none }

def retire (c : Client) (n : Nat) : Client :=
  release <| c.mapSession n fun s =>
    { s with state := .closed, engine? := none, stream? := none }

end Client

structure World where
  disk : Disk
  clock : Binary64 := .zero
  engines : List Engine := []
  streams : List LogStream := []
  client : Client := {}
  surroundings : Surroundings := {}
  trail : Trail := {}

/-! ## Acts -/

abbrev Act := EStateM Fault World

namespace Act

/-- An act that gives the result of a computation without effects. -/
def ofExcept {α : Type} : Except Fault α → Act α
  | .ok a => pure a
  | .error f => throw f

def attempt {α : Type} (x : Act α) : Act (Except Fault α) := fun w =>
  match x w with
  | .ok a w => .ok (.ok a) w
  | .error f w => .ok (.error f) w

theorem attempt_ok {α : Type} {x : Act α} {w w' : World} {a : α} (h : x w = .ok a w') :
    attempt x w = .ok (.ok a) w' := by
  simp [attempt, h]

theorem attempt_error {α : Type} {x : Act α} {w w' : World} {f : Fault}
    (h : x w = .error f w') : attempt x w = .ok (.error f) w' := by
  simp [attempt, h]

/-! ## Parts of the world -/

def client : Act Client :=
  return (← get).client

def disk : Act Disk :=
  return (← get).disk

def mapClient (f : Client → Client) : Act Unit :=
  modify fun w => { w with client := f w.client }

def mapSession (n : Nat) (f : Session → Session) : Act Unit :=
  mapClient (·.mapSession n f)

def mapEngine (i : Nat) (f : Engine → Engine) : Act Unit :=
  modify fun w => { w with engines := w.engines.modify i f }

def exitNewest (code : Int) : Act Unit :=
  modify fun w =>
    { w with engines := w.engines.modify (w.engines.length - 1) fun e =>
        { e with exit? := some code } }

def closeStream (i : Nat) : Act Unit :=
  modify fun w => { w with streams := w.streams.modify i fun s => { s with closed := true } }

/-! ## Traces -/

def emit (e : Emission) : Act Unit :=
  modify fun w => { w with trail := { w.trail with emissions := w.trail.emissions ++ [e] } }

def note (c : Call) : Act Unit :=
  modify fun w => { w with trail := { w.trail with calls := w.trail.calls ++ [c] } }

def noteRequest (method : String) (args : List Value) : Act Unit :=
  modify fun w =>
    { w with trail := { w.trail with requests := w.trail.requests ++ [(method, args)] } }

def noteReconciliation (targets? : Option (List String)) : Act Unit :=
  modify fun w =>
    { w with
      trail := { w.trail with reconciliations := w.trail.reconciliations ++ [targets?] } }

def record (logger : String) (level : Log.Level) (event : String) (fields : Table) : Act Unit :=
  emit (.record { logger := Log.loggerName logger, level, event := .text event, fields })

end Act
end EngineClient
