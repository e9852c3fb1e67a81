/-!
# Command-line arguments

The first argument names the command; options and at most one root directory follow in any
order. An option that takes a value has it behind an equals sign or as the next argument,
whatever that is. Behind two dashes every argument is a root.
-/

namespace EngineClient
namespace CommandLine

inductive Task where
  /-- Runs the line shell. -/
  | shell
  /-- Shows the options. -/
  | config
  deriving DecidableEq, Repr

def Task.ofName? : String → Option Task
  | "shell" => some .shell
  | "config" => some .config
  | _ => none

structure Invocation where
  task : Task
  root : String := "."
  /-- The settings file, if not the one of the root. -/
  config? : Option String := none
  /-- Whether the shell waits for its engine. -/
  waits : Bool := true
  /-- The word for the least level of records that are shown. -/
  level : String := "WARNING"
  deriving DecidableEq, Repr

/-! ## Options -/

inductive Switch where
  | config
  | level
  | waits (b : Bool)
  deriving DecidableEq, Repr

namespace Switch

def ofName? (t : Task) (name : List Char) : Option Switch :=
  if name = "--config".toList then some .config
  else if t = .config then none
  else if name = "--log-level".toList then some .level
  else if name = "--wait".toList then some (.waits true)
  else if name = "--no-wait".toList then some (.waits false)
  else none

def takesValue : Switch → Bool
  | .waits _ => false
  | _ => true

def set (s : Switch) (value : String) (i : Invocation) : Invocation :=
  match s with
  | .config => { i with config? := some value }
  | .level => { i with level := value }
  | .waits b => { i with waits := b }

end Switch

/-! ## Reading -/

/-- Whether an argument is an option: a dash alone is none. -/
def isOption (arg : String) : Bool :=
  match arg.toList with
  | '-' :: _ :: _ => true
  | _ => false

def splitOption (arg : String) : List Char × Option String :=
  let name := arg.toList.takeWhile (· != '=')
  match arg.toList.dropWhile (· != '=') with
  | _ :: value => (name, some (String.ofList value))
  | [] => (name, none)

def readArguments (i : Invocation) : List String → Option (Invocation × List String)
  | [] => some (i, [])
  | arg :: args =>
      if arg = "--" then some (i, args)
      else if isOption arg then
        let (name, value?) := splitOption arg
        match Switch.ofName? i.task name, value?, args with
        | none, _, _ => none
        | some s, some value, args =>
            if s.takesValue then readArguments (s.set value i) args else none
        | some s, none, value :: args =>
            if s.takesValue then readArguments (s.set value i) args
            else readArguments (s.set "" i) (value :: args)
        | some s, none, [] => if s.takesValue then none else some (s.set "" i, [])
      else (readArguments i args).map fun r => (r.1, arg :: r.2)
termination_by args => args.length

def parse? (args : List String) : Option Invocation :=
  let args := if args.head? = some "--" then args.tail else args
  match args with
  | [] => none
  | name :: args =>
      match Task.ofName? name with
      | none => none
      | some task =>
          match readArguments { task } args with
          | some (i, []) => some i
          | some (i, [root]) => some { i with root }
          | _ => none

end CommandLine
end EngineClient
