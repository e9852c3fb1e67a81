import EngineClient.Command
import EngineClient.Session.Ready
import EngineClient.Transport.Call

/-!
# Dispatch

How a command is issued: its name and arguments are checked, a session must run, and
then exactly one request is sent. There is no second try. A command that changes files
counts in the generation of its session and makes buffers follow the files: those of
the file that it is mainly about, or all of them.
-/

namespace EngineClient
namespace Dispatch

def logger : String := "dispatcher"

/-- The files whose buffers follow a command in a session: none are named if the
command is not mainly about one. -/
def targets? (c : Command) (s : Session) (args : List Value) : Option (List String) :=
  (c.primaryTarget? args).map fun target => [(s.directory / Path.ofText target).text]

def settle (c : Command) (n : Nat) (s : Session) (args : List Value) : Act Unit := do
  Act.mapSession n fun s => { s with generation := s.generation + 1 }
  let _ ← Editor.maybeSync (targets? c s args)

def send (c : Command) (n : Nat) (s : Session) (args : List Value) : Act Value := do
  let result ← Transport.call s c.name args
  if c.mutating then settle c n s args
  Act.record logger .debug "dispatched" [("method", .text c.name)]
  return result

def issue (c : Command) (args : List Value) : Act Value := do
  let n ← Session.requireRunning c.name
  let s ← Session.ofNumber n
  Act.record logger .debug "dispatch" [("method", .text c.name), ("arity", .int args.length)]
  send c n s args

end Dispatch

def dispatch (method : Value) (args : List Value) : Act Value := do
  let c ← Act.ofExcept (Command.find method)
  Act.ofExcept (c.check args)
  Dispatch.issue c args

def Command.send (c : Command) (args : List Value) : Act Value :=
  dispatch (.text c.name) args

end EngineClient
