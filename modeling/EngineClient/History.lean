import EngineClient.Answer.History
import EngineClient.Dispatch

/-!
# Undo and redo

The engine alone knows what can be undone. Entries of its stacks are numbered as they
were answered and hold until the next command that changes files, or until the session
is opened again or closed.
-/

namespace EngineClient
namespace History

def undo : Act Value :=
  Command.undo.send []

def redo : Act Value :=
  Command.redo.send []

def command : HistoryStack → Command
  | .undo => .undoHistory
  | .redo => .redoHistory

def notSequence (command : String) (v : Value) : Fault :=
  .client (.transportFailure ("expected a sequence, got " ++ v.kindName) (some command) "")

def items (command : String) : Value → Except Fault (List Value)
  | .null => .ok []
  | .list vs => .ok vs
  | .tuple vs => .ok vs
  | v => .error (notSequence command v)

def fetch (stack : HistoryStack) : Act (List HistoryEntry) := do
  let c := command stack
  match ← c.send [] with
  | .null => return []
  | v =>
      let descriptions ← Act.ofExcept (items c.name v)
      let s ← Session.ofNumber (← Session.requireRunning c.name)
      return HistoryEntry.ofStack stack (← Act.client).epoch s.generation descriptions

def undoHistory : Act (List HistoryEntry) :=
  fetch .undo

def redoHistory : Act (List HistoryEntry) :=
  fetch .redo

/-- Whether an entry still holds: its session runs and no command has changed files
since. -/
def isCurrent (e : HistoryEntry) : Act Bool := do
  match (← Act.client).current? with
  | none => return false
  | some n =>
      if ← Session.isRunning then
        let s ← Session.ofNumber n
        return e.epoch == (← Act.client).epoch && e.generation == s.generation
      else return false

def stale (e : HistoryEntry) : Fault :=
  .client ⟨.staleHistory,
    e.stack.name ++ " entry " ++ Text.decimal e.index ++
      " predates the latest change; re-fetch history",
    some (e.stack.name ++ "_history")⟩

def checkCurrent (e : HistoryEntry) : Act HistoryEntry := do
  if ← isCurrent e then return e else throw (stale e)

end History
end EngineClient
