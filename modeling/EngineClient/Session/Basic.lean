import EngineClient.Config.Options
import EngineClient.Path

/-!
# Sessions

A session binds a client to one engine on one directory. Its generation counts the
commands that changed files.
-/

namespace EngineClient

inductive SessionState where
  | closed
  | starting
  | running
  deriving DecidableEq, Repr

namespace SessionState

def name : SessionState → String
  | .closed => "closed"
  | .starting => "starting"
  | .running => "running"

def ofName? : String → Option SessionState
  | "closed" => some .closed
  | "starting" => some .starting
  | "running" => some .running
  | _ => none

end SessionState

structure Session where
  host : String
  port : Nat
  /-- The resolved directory that the session was opened on. -/
  directory : Path
  /-- The number of the session's engine. -/
  engine? : Option Nat
  state : SessionState
  generation : Nat
  /-- The number of the stream that takes the engine's output. -/
  stream? : Option Nat
  deriving DecidableEq, Repr

namespace Session

def starting (o : Options) (directory : Path) : Session :=
  { host := o.host, port := o.port, directory, engine? := none, state := .starting
    generation := 0, stream? := none }

def url (s : Session) : String :=
  "http://" ++ s.host ++ ":" ++ Text.decimal s.port ++ "/"

end Session
end EngineClient
