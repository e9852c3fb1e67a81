import EngineClient.Fault

/-!
# Commands

The closed catalog of commands that an engine understands: what each takes, whether it
changes files, and which argument names the file it is mainly about. Main statements:
a name is known exactly when it is a command's, and `Command.check` accepts exactly the
arguments that `Command.Accepts` describes.
-/

namespace EngineClient

/-! ## The catalog -/

inductive ParamKind where
  | text
  | integer
  deriving DecidableEq, Repr

def ParamKind.name : ParamKind → String
  | .text => "str"
  | .integer => "int"

/-- Whether a value fits a parameter; a truth value is no integer. -/
def ParamKind.accepts : ParamKind → Value → Bool
  | .text, .text _ => true
  | .integer, .int _ => true
  | _, _ => false

structure Param where
  name : String
  kind : ParamKind
  optional : Bool := false
  deriving DecidableEq, Repr

inductive Command where
  | getAllResources
  | getChildren
  | undo
  | redo
  | undoHistory
  | redoHistory
  | rename
  | extractMethod
  | extractVariable
  | codeAssist
  deriving DecidableEq, Repr

namespace Command

def all : List Command :=
  [.getAllResources, .getChildren, .undo, .redo, .undoHistory, .redoHistory, .rename,
    .extractMethod, .extractVariable, .codeAssist]

def name : Command → String
  | .getAllResources => "get_all_resources"
  | .getChildren => "get_children"
  | .undo => "undo"
  | .redo => "redo"
  | .undoHistory => "undo_history"
  | .redoHistory => "redo_history"
  | .rename => "rename"
  | .extractMethod => "extract_method"
  | .extractVariable => "extract_variable"
  | .codeAssist => "code_assist"

private def extractParams : List Param :=
  [⟨"name", .text, false⟩, ⟨"file_path", .text, false⟩, ⟨"begin", .integer, false⟩,
    ⟨"end", .integer, false⟩]

def params : Command → List Param
  | .getChildren => [⟨"path", .text, false⟩]
  | .rename =>
      [⟨"new_name", .text, false⟩, ⟨"path", .text, false⟩, ⟨"offset", .integer, true⟩]
  | .extractMethod => extractParams
  | .extractVariable => extractParams
  | .codeAssist =>
      [⟨"full_buffer_text", .text, false⟩, ⟨"position", .integer, false⟩,
        ⟨"file_path", .text, false⟩]
  | _ => []

def mutating : Command → Bool
  | .undo => true
  | .redo => true
  | .rename => true
  | .extractMethod => true
  | .extractVariable => true
  | _ => false

def targetParam? : Command → Option Nat
  | .rename => some 1
  | .extractMethod => some 1
  | .extractVariable => some 1
  | _ => none

def minArity (c : Command) : Nat :=
  (c.params.filter (!·.optional)).length

def maxArity (c : Command) : Nat :=
  c.params.length

/-! ## Names -/

def ofName? (s : String) : Option Command :=
  all.find? (·.name == s)

theorem mem_all (c : Command) : c ∈ all := by
  cases c <;> decide

theorem name_injective {c d : Command} (h : c.name = d.name) : c = d := by
  cases c <;> cases d <;> first | rfl | exact absurd h (by decide)

theorem ofName?_name (c : Command) : ofName? c.name = some c := by
  cases c <;> decide

theorem name_of_ofName? {s : String} {c : Command} (h : ofName? s = some c) : c.name = s := by
  simpa using List.find?_some h

def contractError (command detail : String) : Fault :=
  .client ⟨.contract, detail, some command⟩

/-- The command that a value names. A value that names none is shown in the error, if it can
be. -/
def find (method : Value) : Except Fault Command :=
  match method.name?.bind ofName? with
  | some c => .ok c
  | none =>
      match method.unshown? with
      | some e => .error (.unshown e)
      | none => .error (contractError method.plain ("unknown command " ++ method.display))

/-! ## Arguments -/

def arityText (c : Command) : String :=
  if c.minArity = c.maxArity then Text.decimal c.maxArity
  else Text.decimal c.minArity ++ ".." ++ Text.decimal c.maxArity

/-- The first parameter that its argument does not fit, and that argument. -/
def mismatch? (params : List Param) (args : List Value) : Option (Param × Value) :=
  (params.zip args).find? fun e => !e.1.kind.accepts e.2

def check (c : Command) (args : List Value) : Except Fault Unit :=
  if c.minArity ≤ args.length ∧ args.length ≤ c.maxArity then
    match mismatch? c.params args with
    | none => .ok ()
    | some (p, v) =>
        .error (contractError c.name
          ("argument " ++ Text.quoted p.name ++ " must be " ++ p.kind.name ++ ", got " ++
            v.kindName))
  else
    .error (contractError c.name
      ("expected " ++ c.arityText ++ " arguments, got " ++ Text.decimal args.length))

/-- Arguments that fit: as many as the command takes, each of its parameter's kind. -/
def Accepts (c : Command) (args : List Value) : Prop :=
  c.minArity ≤ args.length ∧ args.length ≤ c.maxArity ∧
    ∀ e ∈ c.params.zip args, e.1.kind.accepts e.2 = true

theorem check_eq_ok_iff (c : Command) (args : List Value) :
    c.check args = .ok () ↔ c.Accepts args := by
  unfold check Accepts
  by_cases h : c.minArity ≤ args.length ∧ args.length ≤ c.maxArity
  · simp only [h, and_self, if_true, true_and]
    cases hm : mismatch? c.params args with
    | none =>
        have hall : ∀ e ∈ c.params.zip args, e.1.kind.accepts e.2 = true := by
          simpa [mismatch?] using hm
        simpa using hall
    | some e =>
        have hmem := List.mem_of_find?_eq_some hm
        have hbad : e.1.kind.accepts e.2 = false := by
          simpa using List.find?_some hm
        constructor
        · intro hok
          cases hok
        · intro hall
          have := hall e hmem
          rw [hbad] at this
          cases this
  · simp only [h, if_false]
    constructor
    · intro hok
      cases hok
    · intro hall
      exact absurd ⟨hall.1, hall.2.1⟩ h

def primaryTarget? (c : Command) (args : List Value) : Option String :=
  (c.targetParam?.bind fun i => args[i]?).bind Value.text?

end Command
end EngineClient
