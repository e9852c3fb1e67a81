import EngineClient.Config.Setting

/-!
# Options

The options of a client: where the engine listens, how it is started, how long to wait
for it, and whether buffers follow the files. Options come from a table of settings;
keys that name no option are ignored, and a missing key takes its default.
-/

namespace EngineClient

/-- How the engine is started: by one name, whatever it holds, or by several words. -/
inductive Program where
  | single (name : String)
  | words (ws : List String)
  deriving DecidableEq, Repr

namespace Program

def argv : Program → List String
  | .single name => [name]
  | .words ws => ws

def toValue : Program → Value
  | .single name => .text name
  | .words ws => .list (ws.map .text)

end Program

structure Options where
  host : String
  port : Nat
  program : Program
  /-- Whether buffers are read again after a command that changes files. -/
  autoRevert : Bool
  timeout : Binary64
  /-- The file that the engine's output is appended to. -/
  serverLog? : Option String
  deriving Repr

namespace Config

/-! ## Defaults -/

def defaults : Options :=
  { host := "127.0.0.1", port := 6942, program := .single "rope-server", autoRevert := false
    timeout := .ofInt 30, serverLog? := none }

def minPort : Nat := 1

def maxPort : Nat := 65535

/-! ## The program -/

/-- One step on the way to a value: into an entry, or to an item. -/
inductive PlaceStep where
  | key (name : String)
  | index (i : Nat)
  deriving DecidableEq, Repr

def PlaceStep.text : PlaceStep → String
  | .key name => name
  | .index i => Text.decimal i

/-- A problem and the way to the value that has it, outermost step first. -/
structure OptionProblem where
  place : List PlaceStep
  problem : SettingProblem
  deriving DecidableEq, Repr

def OptionProblem.placeText (p : OptionProblem) : String :=
  String.intercalate "." (p.place.map PlaceStep.text)

def programName (s : String) : Except SettingProblem Program :=
  if Text.isBlankText s then .error (.refused "server_program must not be empty")
  else .ok (.single s)

/-- The program that words name; blank words are left out. -/
def programWords (ws : List String) : Except SettingProblem Program :=
  match ws.filter fun w => !Text.isBlankText w with
  | [] => .error (.refused "server_program must name at least one token")
  | ws => .ok (.words ws)

def items? : Value → Option (List Value)
  | .list vs => some vs
  | .tuple vs => some vs
  | _ => none

def wordProblems (position : Nat) : List Value → List (Nat × SettingProblem)
  | [] => []
  | v :: vs =>
      match textSetting v with
      | .ok _ => wordProblems (position + 1) vs
      | .error p => (position, p) :: wordProblems (position + 1) vs

def wordsOf (vs : List Value) : List String :=
  vs.filterMap fun v => (textSetting v).toOption

def program (v : Value) : Except (List OptionProblem) Program :=
  let inProgram (p : SettingProblem) : List OptionProblem := [⟨[.key "server_program"], p⟩]
  match textSetting v with
  | .ok s => (programName s).mapError inProgram
  | .error notName =>
      let name : OptionProblem := ⟨[.key "server_program", .key "str"], notName⟩
      let place : List PlaceStep := [.key "server_program", .key "list[str]"]
      match items? v with
      | none => .error [name, ⟨place, .notList⟩]
      | some vs =>
          match wordProblems 0 vs with
          | [] => (programWords (wordsOf vs)).mapError inProgram
          | ps => .error (name :: ps.map fun p => ⟨place ++ [.index p.1], p.2⟩)

/-! ## Tables -/

def setting {α : Type} (t : Table) (key : String) (read : Value → Except SettingProblem α)
    (default : α) : Except (List OptionProblem) α :=
  match t.get? key with
  | none => .ok default
  | some v => (read v).mapError fun p => [⟨[.key key], p⟩]

def programSetting (t : Table) : Except (List OptionProblem) Program :=
  match t.get? "server_program" with
  | none => .ok defaults.program
  | some v => program v

def problemsOf {α : Type} : Except (List OptionProblem) α → List OptionProblem
  | .ok _ => []
  | .error ps => ps

/-- The options that a table of settings describes, or all its problems in the order
of the options. -/
def validate (t : Table) : Except (List OptionProblem) Options :=
  let host := setting t "host" textSetting defaults.host
  let port := setting t "port" (boundedSetting minPort maxPort) defaults.port
  let program := programSetting t
  let autoRevert := setting t "auto_revert" flagSetting defaults.autoRevert
  let timeout := setting t "timeout_seconds" positiveSetting defaults.timeout
  let serverLog := setting t "server_log" optionalTextSetting defaults.serverLog?
  match host, port, program, autoRevert, timeout, serverLog with
  | .ok host, .ok port, .ok program, .ok autoRevert, .ok timeout, .ok serverLog =>
      .ok ⟨host, port, program, autoRevert, timeout, serverLog⟩
  | host, port, program, autoRevert, timeout, serverLog =>
      .error (problemsOf host ++ problemsOf port ++ problemsOf program ++
        problemsOf autoRevert ++ problemsOf timeout ++ problemsOf serverLog)

end Config

namespace Options

def url (o : Options) : String :=
  "http://" ++ o.host ++ ":" ++ Text.decimal o.port ++ "/"

def toTable (o : Options) : Table :=
  [("host", .text o.host), ("port", .int o.port), ("server_program", o.program.toValue),
    ("auto_revert", .bool o.autoRevert), ("timeout_seconds", .real o.timeout),
    ("server_log", .ofText? o.serverLog?)]

def launchArgv (o : Options) (directory : String) : List String :=
  o.program.argv ++ ["-V", directory]

end Options
end EngineClient
