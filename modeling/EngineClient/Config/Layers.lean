import EngineClient.Config.Options
import EngineClient.Disk.Lookup
import EngineClient.Fault
import EngineClient.Text.Upper
import EngineClient.Toml.Document

/-!
# Layers of settings

Options come from four layers: what the caller passes, the environment, the settings
file, the defaults. A layer hides what the layers below it say about the same option.
A settings file that is missing or malformed counts as empty.
-/

namespace EngineClient
namespace Config

/-! ## The settings file -/

def fileName : String := "ropelink.toml"

def sectionName : String := "client"

/-- The settings file: the one that the caller names, or the one in the project's root. -/
def filePath (root? path? : Option Path) (cwd : Path) : Path :=
  path?.getD (root?.getD cwd / Path.ofText fileName)

def tableOfText (s : String) : Except Fault Table :=
  match Toml.read s.toList with
  | .ok t => .ok t
  | .error .malformed => .ok []
  | .error (.longInteger digits) => .error (.decode (.longInteger digits))
  | .error .tooDeep => .error .tooDeep

def loadFile (d : Disk) (p : Path) : Except Fault Table :=
  match d.readText p with
  | .ok s => tableOfText s
  | .error f => if f.isOs then .ok [] else .error f

def loadTable (d : Disk) (root? path? : Option Path) : Except Fault Table :=
  loadFile d (filePath root? path? (Location.path d.cwd))

def sectionOf (t : Table) : Table :=
  match t.get? sectionName with
  | some (.table entries) => entries
  | _ => []

def loadSection (d : Disk) (root? path? : Option Path) : Except Fault Table :=
  (loadTable d root? path?).map sectionOf

/-! ## The environment -/

abbrev Environment := List (String × String)

def optionVariables : List (String × String) :=
  [("host", "ROPELINK_HOST"), ("port", "ROPELINK_PORT"),
    ("server_program", "ROPELINK_SERVER_PROGRAM"), ("auto_revert", "ROPELINK_AUTO_REVERT"),
    ("timeout_seconds", "ROPELINK_TIMEOUT_SECONDS"), ("server_log", "ROPELINK_SERVER_LOG")]

def flagOption : String := "auto_revert"

def configError (detail : String) : ClientError :=
  ⟨.config, detail, none⟩

def variableFlag (envName word : String) : Except Fault Bool :=
  let w := Text.lower word
  if ["1", "true", "yes", "on"].contains w then .ok true
  else if ["0", "false", "no", "off"].contains w then .ok false
  else .error (.client (configError
    ("invalid boolean for " ++ envName ++ ": " ++ Text.quoted word)))

def variableText? (env : Environment) (envName : String) : Option String :=
  let word := Text.trim ((env.lookup envName).getD "")
  if word.isEmpty then none else some word

def variableValue? (env : Environment) (option envName : String) :
    Except Fault (Option Value) :=
  match variableText? env envName with
  | none => .ok none
  | some word =>
      if option = flagOption then (variableFlag envName word).map fun b => some (.bool b)
      else .ok (some (.text word))

def environmentEntries (env : Environment) : List (String × String) → Except Fault Table
  | [] => .ok []
  | (option, envName) :: rest =>
      match variableValue? env option envName with
      | .error f => .error f
      | .ok none => environmentEntries env rest
      | .ok (some v) => (environmentEntries env rest).map ((option, v) :: ·)

def environmentTable (env : Environment) : Except Fault Table :=
  environmentEntries env optionVariables

/-! ## Merging -/

/-- A table with the entries of a higher layer put over its own; null entries say
nothing. -/
def overlay (upper lower : Table) : Table :=
  upper.foldl (fun t e => match e.2 with | .null => t | v => t.set e.1 v) lower

def optionReport (ps : List OptionProblem) : String :=
  String.intercalate "\n" (ps.map fun p => p.placeText ++ ": " ++ p.problem.text)

def optionError (ps : List OptionProblem) : Fault :=
  let detail :=
    match ps with
    | p :: _ => "invalid value for " ++ p.placeText ++ ": " ++ p.problem.text
    | [] => "invalid value for config: invalid"
  .chained (configError detail) (.invalid (optionReport ps))

def optionsOf (t : Table) : Except Fault Options :=
  (validate t).mapError optionError

def load (d : Disk) (root? path? : Option Path) (env : Environment) (overrides : Table) :
    Except Fault Options := do
  let file ← loadSection d root? path?
  let surrounding ← environmentTable env
  optionsOf (overlay overrides (overlay surrounding file))

end Config
end EngineClient
