import EngineClient.Text.Preview
import EngineClient.Value.Display

/-!
# Problems of an answer

What is wrong with a value that should describe a resource or a proposal, and the
report that lists the problems in the order of the fields.
-/

namespace EngineClient

inductive ProblemKind where
  | missing
  | notText
  | notUnicode
  /-- Neither of the words for a kind of resource. -/
  | notKind
  /-- No table, where the named model calls for one. -/
  | notTable (model : String)
  deriving DecidableEq, Repr

def ProblemKind.code : ProblemKind → String
  | .missing => "missing"
  | .notText => "string_type"
  | .notUnicode => "string_unicode"
  | .notKind => "enum"
  | .notTable _ => "model_type"

def ProblemKind.text : ProblemKind → String
  | .missing => "Field required"
  | .notText => "Input should be a valid string"
  | .notUnicode => "Input should be a valid string, unable to parse raw data as a unicode string"
  | .notKind => "Input should be 'file' or 'directory'"
  | .notTable model => "Input should be a valid dictionary or instance of " ++ model

/-- A problem: the field it is in, unless it is with the whole value, and the value as
messages show it. -/
structure Problem where
  field? : Option String
  kind : ProblemKind
  shown : String
  shownKind : String
  deriving DecidableEq, Repr

namespace Problem

def inField (field : String) (kind : ProblemKind) (v : Value) : Problem :=
  ⟨some field, kind, v.display, v.kindName⟩

def ofWhole (kind : ProblemKind) (v : Value) : Problem :=
  ⟨none, kind, v.display, v.kindName⟩

def lines (p : Problem) : List String :=
  (match p.field? with | some field => [field] | none => []) ++
    ["  " ++ p.kind.text ++ " [type=" ++ p.kind.code ++ ", input_value=" ++
        String.ofList (Text.preview p.shown.toList) ++ ", input_type=" ++ p.shownKind ++ "]",
      "    For further information visit https://errors.pydantic.dev/2.14/v/" ++ p.kind.code]

end Problem

/-- The report of all problems of a value that should describe a `model`. -/
def problemReport (model : String) (ps : List Problem) : String :=
  let count :=
    match ps with
    | [_] => "1 validation error for "
    | ps => Text.decimal ps.length ++ " validation errors for "
  String.intercalate "\n" ((count ++ model) :: ps.flatMap Problem.lines)

/-! ## Fields -/

def readTextField (field : String) (v : Value) : Except Problem String :=
  match v with
  | .text s => .ok s
  | .octets bs =>
      match Text.Utf8.decodeText bs with
      | .ok s => .ok s
      | .error _ => .error (.inField field .notUnicode v)
  | v => .error (.inField field .notText v)

def readOptionalField (entries : Table) (field : String) : Except Problem (Option String) :=
  match entries.get? field with
  | none => .ok none
  | some .null => .ok none
  | some v => (readTextField field v).map some

def problemOf {α : Type} : Except Problem α → List Problem
  | .ok _ => []
  | .error p => [p]

end EngineClient
