import EngineClient.Shell.Command
import EngineClient.Shell.Words
import EngineClient.Text.Line

/-!
# The line shell

One command on each line, until a line asks to stop or the lines end. A command that
fails is reported under its name, and the next line is read.
-/

namespace EngineClient
namespace Shell

/-! ## Output -/

def say (s : String) : Act Unit :=
  Act.emit (.out (printedLine s))

def complain (s : String) : Act Unit :=
  Act.emit (.err (printedLine s))

def showLines : List String → Act Unit
  | [] => pure ()
  | l :: ls => do
      say l
      showLines ls

def showOutcome (o : Outcome) : Act Unit := do
  showLines o.lines.1
  match o.lines.2 with
  | none => pure ()
  | some f => throw f

/-! ## Failures -/

/-- What the shell says about a fault of a command; faults that it does not expect end
it. -/
def complaint? (name : String) (f : Fault) : Option String :=
  let named := name ++ ": " ++ f.message
  match f.clientError? with
  | some e => some (if (e.command?.getD "").isEmpty then named else e.message)
  | none =>
      match f with
      | .badArgument _ => some named
      | f => if f.isOs || f.isUndecodable then some named else none

def runCommand (c : ShellCommand) (args : List String) : Act Unit := do
  match ← Act.attempt (c.run args) with
  | .ok outcome => showOutcome outcome
  | .error f =>
      match complaint? c.name f with
      | some s => complain s
      | none => throw f

/-! ## Lines -/

def stopWords : List String := ["quit", "exit"]

def runWords (name : String) (args : List String) : Act Unit :=
  match ShellCommand.ofName? name with
  | none => complain (name ++ ": unknown command")
  | some c =>
      let (fewest, most) := c.arity
      if fewest ≤ args.length ∧ args.length ≤ most then runCommand c args
      else
        complain (name ++ ": expected " ++ Text.decimal fewest ++ ".." ++ Text.decimal most ++
          " arguments, got " ++ Text.decimal args.length)

def runLine (line : String) : Act Bool := do
  match split line with
  | .error e =>
      complain ("parse: " ++ e.message)
      return true
  | .ok [] => return true
  | .ok (name :: args) =>
      if stopWords.contains name then return false
      else
        runWords name args
        return true

def prompt : String := "ropelink> "

/-- Runs the lines of a text until one of them stops the shell, and gives the text that
was not read. -/
def runLines (interactive : Bool) (cs : List Char) : Act (List Char) := do
  if interactive then Act.emit (.out prompt)
  match cs with
  | [] => return []
  | c :: cs =>
      if ← runLine (String.ofList (Text.splitLine (c :: cs)).1) then
        runLines interactive (Text.splitLine (c :: cs)).2
      else return (Text.splitLine (c :: cs)).2
termination_by cs.length
decreasing_by exact Text.splitLine_rest_lt c cs

/-! ## Input that breaks off -/

structure Input where
  text : List Char
  broken? : Option Fault := none
  deriving Repr

/-- Runs the lines of a text until one of them stops the shell or reading on fails, and gives
the text that was not read. -/
def runUntil (interactive : Bool) (broken? : Option Fault) (cs : List Char) :
    Act (List Char) := do
  if interactive then Act.emit (.out prompt)
  match cs with
  | [] =>
      match broken? with
      | none => return []
      | some f => throw f
  | c :: cs =>
      if ← runLine (String.ofList (Text.splitLine (c :: cs)).1) then
        runUntil interactive broken? (Text.splitLine (c :: cs)).2
      else return (Text.splitLine (c :: cs)).2
termination_by cs.length
decreasing_by exact Text.splitLine_rest_lt c cs

theorem runUntil_none (interactive : Bool) (cs : List Char) :
    runUntil interactive none cs = runLines interactive cs := by
  induction cs using Text.lines.induct with
  | case1 => rw [runUntil, runLines]
  | case2 c cs ih => rw [runUntil, runLines, ih]

def runInput (interactive : Bool) (input : Input) : Act (List Char) :=
  runUntil interactive input.broken? input.text

end Shell
end EngineClient
