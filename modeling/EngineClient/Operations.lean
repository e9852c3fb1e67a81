import EngineClient.Answer.Proposal
import EngineClient.Answer.Resource
import EngineClient.History
import EngineClient.Path

/-!
# Operations

What a user can ask of the engine, with answers read into resources and proposals.
Offsets and positions count characters from zero.
-/

namespace EngineClient
namespace Operations

def logger : String := "operations"

/-! ## Reading answers -/

def malformed (what command : String) (f : Fault) : Fault :=
  .chained (.transportFailure
    ("malformed " ++ what ++ " in answer: " ++ f.message) (some command) "") f

def readItems {α : Type} (read : Value → Except Fault α) : List Value → Except Fault (List α)
  | [] => .ok []
  | v :: vs =>
      match read v with
      | .error f => .error f
      | .ok a => (readItems read vs).map (a :: ·)

def readAnswer {α : Type} (what command : String) (read : Value → Except Fault α)
    (answer : Value) : Except Fault (List α) :=
  match History.items command answer with
  | .error f => .error f
  | .ok vs => (readItems read vs).mapError (malformed what command)

def root (command : String) : Act Path := do
  return (← Session.ofNumber (← Session.requireRunning command)).directory

/-! ## Resources -/

/-- The resources in an answer, with their paths below the session's directory. -/
def resources (c : Command) (answer : Value) : Act (List Resource) := do
  let root ← root c.name
  Act.ofExcept (readAnswer "resource" c.name (fun v => (Resource.read v).map (·.resolved root))
    answer)

def getAllResources : Act (List Resource) := do
  resources .getAllResources (← Command.getAllResources.send [])

def getChildren (path : Value) : Act (List Resource) := do
  resources .getChildren (← Command.getChildren.send [path])

/-- The resources in a directory; a file has none, and the engine is not asked. -/
def childrenOf (r : Resource) : Act (List Resource) :=
  if r.isDirectory then getChildren (.text r.path) else return []

/-! ## Renaming -/

/-- Renames what stands at an offset of a file, or without an offset the module itself. -/
def rename (newName path offset : Value) : Act Value :=
  match offset with
  | .null => Command.rename.send [newName, path]
  | offset => Command.rename.send [newName, path, offset]

/-- Renames the module in the current buffer and shows it at its new place. -/
def renameCurrentFile (newName : String) : Act String := do
  match (← Act.client).editor?.bind (·.current?) with
  | none =>
      throw (.client ⟨.contract, "no current file to rename", some Command.rename.name⟩)
  | some current =>
      let _ ← rename (.text newName) (.text current) .null
      let p ← Act.ofExcept ((Path.ofText current).renamed newName)
      Editor.closeFile current
      Editor.openFile p.text
      Act.record logger .info "current_file_renamed"
        [("old", .text current), ("new", .text p.text)]
      return p.text

/-! ## Extracting -/

def extractMethod (name path start stop : Value) : Act Value :=
  Command.extractMethod.send [name, path, start, stop]

def extractVariable (name path start stop : Value) : Act Value :=
  Command.extractVariable.send [name, path, start, stop]

/-! ## Proposals -/

/-- The text of a file: that of its buffer if it is open, else what is on the disk. -/
def sourceText (p : Path) : Act String := do
  let buffered ←
    match (← Act.client).editor? with
    | some b => Act.ofExcept (Buffers.text? (← Act.disk) b p.text)
    | none => pure none
  match buffered with
  | some s => return s
  | none => Act.ofExcept ((← Act.disk).readText p)

/-- What the engine proposes at a position of a file; without a text, the text of the
file is sent. -/
def codeAssist (path : String) (position text : Value) : Act (List Proposal) := do
  let source := (← root Command.codeAssist.name) / Path.ofText path
  let text ←
    match text with
    | .null => pure (.text (← sourceText source))
    | text => pure text
  let answer ← Command.codeAssist.send [text, position, .text path]
  Act.ofExcept (readAnswer "proposal" Command.codeAssist.name Proposal.read answer)

end Operations

/-!
## What programs are offered
-/

def version : String := "0.1.0"

def exportedNames : List String :=
  ["ClientConfig", "CommandContractError", "ConfigError", "Method", "NotRunningError",
    "ProcessSpawnFailure", "RefactorOperations", "RemoteFault", "RopeLinkError", "Session",
    "SessionManager", "SessionState", "StaleHistoryError", "TransportFailure",
    "TransportTimeout", "__version__", "build_operations", "load_client_config"]

end EngineClient
