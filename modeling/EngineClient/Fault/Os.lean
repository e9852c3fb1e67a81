import EngineClient.Fault.Arguments

/-!
# Errors of the operating system, made

An error of the operating system from its arguments: a number, a text, and up to two
files. Fewer than two arguments, or more than five, are a text only.
-/

namespace EngineClient
namespace OsError

def isStructured (args : List Value) : Bool :=
  2 ≤ args.length && args.length ≤ 5

/-- A value as the number of an error: a flag is one as well. -/
def number? : Value → Option Int
  | .int i => some i
  | .bool b => some (if b then 1 else 0)
  | _ => none

/-- The file of an error; a call that would have waited may give a count of octets. -/
def fileOf (kind : OsKind) (v : Value) : Except Fault (Option Value) :=
  match kind, v with
  | _, .null => .ok none
  | .wouldBlock, .int i =>
      if Fault.isIndex i then .ok none
      else .error (.foreign "ValueError" "cannot fit 'int' into an index-sized integer")
  | .wouldBlock, .bool _ => .ok none
  | .wouldBlock, .real x => .error (Fault.noInteger (.real x))
  | _, v => .ok (some v)

def said (text : String) : Option Value → Value → String
  | none, _ => text
  | some file, .null => text ++ ": " ++ file.display
  | some file, target => text ++ ": " ++ file.display ++ " -> " ++ target.display

def ofArguments (kind : OsKind) (args : List Value) : Except Fault OsError :=
  if isStructured args then
    (fileOf kind (args[2]?.getD .null)).map fun file? =>
      let text := said ((args[1]?.getD Value.null).plain) file? (args[4]?.getD .null)
      match args[0]?.getD .null with
      | .int i => { kind, code? := some i, text }
      | code => { kind, code? := none, text := "[Errno " ++ code.plain ++ "] " ++ text }
  else .ok { kind, code? := none, text := Fault.plainArguments args }

def ofOpenArguments (args : List Value) : Except Fault OsError :=
  let number? := if isStructured args then args.head?.bind number? else none
  ofArguments ((number?.map OsKind.ofCode).getD .other) args

def kinds : List (String × OsKind) :=
  [("FileNotFoundError", .notFound), ("PermissionError", .permission),
    ("FileExistsError", .exists), ("NotADirectoryError", .notADirectory),
    ("IsADirectoryError", .isADirectory), ("BlockingIOError", .wouldBlock),
    ("InterruptedError", .interrupted), ("ProcessLookupError", .noProcess),
    ("ChildProcessError", .noChild), ("BrokenPipeError", .brokenPipe),
    ("ConnectionError", .connection), ("ConnectionAbortedError", .aborted),
    ("ConnectionResetError", .reset), ("TimeoutError", .timedOut),
    ("ConnectionRefusedError", .refused), ("gaierror", .lookup)]

def standardName : String → String
  | "timeout" => "TimeoutError"
  | "IOError" | "EnvironmentError" => "OSError"
  | name => name

/-- The error that a name and arguments describe, if the name is one of these. -/
def named? (name : String) (args : List Value) (named : Table) :
    Option (Except Fault OsError) :=
  let name := standardName name
  let made? :=
    if name = "OSError" then some (ofOpenArguments args)
    else (kinds.lookup name).map fun kind => ofArguments kind args
  made?.map fun made =>
    match Fault.unfitNames? name [] named with
    | some f => .error f
    | none => made

end OsError
end EngineClient
