import EngineClient.CommandLine.Arguments
import EngineClient.Config.Layers
import EngineClient.Session.Ready
import EngineClient.Shell.Loop

/-!
# Running a command line

The shell opens a session on its root, runs the lines it is given and closes the session
again; the other task shows the options of a root. A fault of the client ends a task with
a message and a status, any other fault escapes.
-/

namespace EngineClient
namespace CommandLine

inductive Status where
  | done
  /-- No session could be opened, or its engine did not answer. -/
  | notOpened
  /-- The options are not valid. -/
  | badOptions
  /-- The command line is not understood, or its root is not what it should be. -/
  | usage
  deriving DecidableEq, Repr

def Status.code : Status → Nat
  | .done => 0
  | .notOpened => 1
  | .badOptions => 2
  | .usage => 2

def escapedCode : Nat := 1

/-! ## Roots -/

/-- The root of a task, as it was written: a tilde stands for itself. Links in it are
followed as far as they lead. -/
def rootPath (d : Disk) (root : String) : Except Fault Path :=
  d.realPath root

/-- Whether a task can have a root: the shell needs a directory, and no task takes a
file. -/
def isRoot (d : Disk) (t : Task) (root : Path) : Bool :=
  match t with
  | .shell => d.isDirectory root
  | .config => !d.isFile root

/-! ## Tasks -/

/-- The options of a task, or its status if the configuration is at fault. -/
def findOptions (i : Invocation) (env : Config.Environment) (root : Path) :
    Act (Except Status Options) := do
  match Config.load (← Act.disk) (some root) (i.config?.map Path.ofText) env [] with
  | .ok o => return .ok o
  | .error f =>
      if f.clientError?.isSome then
        Shell.complain ("config: " ++ f.message)
        return .error .badOptions
      else throw f

def openSession (root : Path) (waits : Bool) : Act Unit := do
  let _ ← Session.openOn root.text
  if waits then Session.waitUntilReady none

def runLinesAndClose (interactive : Bool) (input : Shell.Input) : Act Status := do
  let ran ← Act.attempt (Shell.runInput interactive input)
  Session.close
  let _ ← Act.ofExcept ran
  return .done

def runShell (i : Invocation) (o : Options) (root : Path) (interactive : Bool)
    (input : Shell.Input) : Act Status := do
  Act.mapClient fun c => { c with options := o, editor? := some {}, follows := o.autoRevert }
  match ← Act.attempt (openSession root i.waits) with
  | .ok () => runLinesAndClose interactive input
  | .error f =>
      if f.clientError?.isSome then
        Session.close
        Shell.complain f.message
        return .notOpened
      else throw f

def showOptions (o : Options) : Act Status := do
  Shell.say (← Act.ofExcept ((Json.render Json.page (.table o.toTable)).mapError .unwritten))
  return .done

def runOn (i : Invocation) (env : Config.Environment) (interactive : Bool)
    (input : Shell.Input) : Act Status := do
  let root ← Act.ofExcept (rootPath (← Act.disk) i.root)
  if !isRoot (← Act.disk) i.task root then return .usage
  if i.task = .shell then
    let _ ← Act.ofExcept (Log.thresholdOfWord i.level)
  match ← findOptions i env root with
  | .error status => return status
  | .ok o =>
      match i.task with
      | .shell =>
          runShell i o root interactive { input with text := Text.unifyLineEnds input.text }
      | .config => showOptions o

def run (i : Invocation) (env : Config.Environment) (interactive : Bool)
    (input : List Char) : Act Status :=
  runOn i env interactive { text := input }

/-! ## Output -/

def threshold (i : Invocation) : Int :=
  ((Log.thresholdOfWord i.level).toOption).getD Log.Level.warning.number

def outputText (es : List Emission) : String :=
  String.join (es.map fun e => match e with | .out s => s | _ => "")

/-- What emissions write about trouble; records below a level are left out. -/
def troubleText (least : Int) (timestamp : String) (es : List Emission) : String :=
  String.join (es.map fun e =>
    match e with
    | .out _ => ""
    | .err s => s
    | .record r => if r.passes least then r.line timestamp ++ "\n" else "")

end CommandLine
end EngineClient
