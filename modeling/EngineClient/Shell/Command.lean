import EngineClient.Operations
import EngineClient.Output

/-!
# Shell commands

The commands of the line shell: their names, how many words they take, and the
operation that each stands for.
-/

namespace EngineClient
namespace Shell

def integerArgument (word name : String) : Except Fault Int :=
  match Literal.integer word.toList with
  | .ok i => .ok i
  | .error _ =>
      .error (.badArgument (name ++ " must be an integer, got " ++ Text.quoted word))

inductive ShellCommand where
  | resources
  | children
  | undo
  | redo
  | undoHistory
  | redoHistory
  | rename
  | extractMethod
  | extractVariable
  | assist
  deriving DecidableEq, Repr

namespace ShellCommand

def all : List ShellCommand :=
  [.resources, .children, .undo, .redo, .undoHistory, .redoHistory, .rename, .extractMethod,
    .extractVariable, .assist]

def name : ShellCommand → String
  | .resources => "resources"
  | .children => "children"
  | .undo => "undo"
  | .redo => "redo"
  | .undoHistory => "undo-history"
  | .redoHistory => "redo-history"
  | .rename => "rename"
  | .extractMethod => "extract-method"
  | .extractVariable => "extract-variable"
  | .assist => "assist"

def ofName? (s : String) : Option ShellCommand :=
  all.find? (·.name == s)

def arity : ShellCommand → Nat × Nat
  | .children => (1, 1)
  | .rename => (2, 3)
  | .extractMethod => (4, 4)
  | .extractVariable => (4, 4)
  | .assist => (2, 2)
  | _ => (0, 0)

def integer (word argument : String) : Act Value := do
  return .int (← Act.ofExcept (integerArgument word argument))

def run (c : ShellCommand) (args : List String) : Act Outcome := do
  match c, args with
  | .resources, _ => return .resources (← Operations.getAllResources)
  | .children, path :: _ => return .resources (← Operations.getChildren (.text path))
  | .undo, _ => return .value (← History.undo)
  | .redo, _ => return .value (← History.redo)
  | .undoHistory, _ => return .history (← History.undoHistory)
  | .redoHistory, _ => return .history (← History.redoHistory)
  | .rename, [newName, path] =>
      return .value (← Operations.rename (.text newName) (.text path) .null)
  | .rename, newName :: path :: offset :: _ =>
      let offset ← integer offset "offset"
      return .value (← Operations.rename (.text newName) (.text path) offset)
  | .extractMethod, name :: path :: start :: stop :: _ =>
      let start ← integer start "begin"
      let stop ← integer stop "end"
      return .value (← Operations.extractMethod (.text name) (.text path) start stop)
  | .extractVariable, name :: path :: start :: stop :: _ =>
      let start ← integer start "begin"
      let stop ← integer stop "end"
      return .value (← Operations.extractVariable (.text name) (.text path) start stop)
  | .assist, path :: position :: _ =>
      let position ← integer position "position"
      return .proposals (← Operations.codeAssist path position .null)
  | _, _ => return .value .null

end ShellCommand
end Shell
end EngineClient
