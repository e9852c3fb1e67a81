import EngineClient.Answer.Problem
import EngineClient.Path

/-!
# Resources

The files and directories of a project, as an engine lists them. An engine may write
one as a plain path, with a slash after a directory, or as a table with a kind or with
a flag for directories; all of them mean the same resource.
-/

namespace EngineClient

inductive ResourceKind where
  | file
  | directory
  deriving DecidableEq, Repr

namespace ResourceKind

def name : ResourceKind → String
  | .file => "file"
  | .directory => "directory"

def ofName? : String → Option ResourceKind
  | "file" => some .file
  | "directory" => some .directory
  | _ => none

def display : ResourceKind → String
  | .file => "<ResourceKind.FILE: 'file'>"
  | .directory => "<ResourceKind.DIRECTORY: 'directory'>"

def ofFlag (isFolder : Bool) : ResourceKind :=
  if isFolder then .directory else .file

theorem ofName?_name (k : ResourceKind) : ofName? k.name = some k := by
  cases k <;> decide

end ResourceKind

structure Resource where
  path : String
  kind : ResourceKind
  deriving DecidableEq, Repr

namespace Resource

/-! ## Reading -/

inductive KindSource where
  | given (v : Value)
  | known (k : ResourceKind)
  | absent

/-- A path as an engine writes it: one or more slashes at its end mark a directory,
unless it holds nothing else. -/
def ofPathText (s : String) : Resource :=
  let front := (s.toList.reverse.dropWhile (· = '/')).reverse
  if s.toList.getLast? = some '/' ∧ front ≠ [] then ⟨String.ofList front, .directory⟩
  else ⟨s, .file⟩

def kindOfValue? : Value → Option ResourceKind
  | .text s => ResourceKind.ofName? s
  | .octets bs => (Text.Utf8.decodeText bs).toOption.bind ResourceKind.ofName?
  | _ => none

def readKind : KindSource → Except Problem ResourceKind
  | .absent => .ok .file
  | .known k => .ok k
  | .given v =>
      match kindOfValue? v with
      | some k => .ok k
      | none => .error (.inField "kind" .notKind v)

/-- The entries of a table, with a kind from its flag if it has no kind of its own: the
entries left, and the source of the kind. -/
def kindSource (entries : Table) : Table × KindSource :=
  match entries.get? "kind", entries.get? "is_folder" with
  | some v, _ => (entries, .given v)
  | none, some flag => (entries.erase "is_folder", .known (.ofFlag flag.isTrue))
  | none, none => (entries, .absent)

/-- The table that a resource is read from, as messages show it: a kind taken from a
flag stands last. -/
def shownTable (entries : Table) (source : KindSource) : String :=
  let shown := Value.displayEntries entries
  let shown :=
    match source with
    | .known k => shown ++ ["'kind': " ++ k.display]
    | _ => shown
  "\x7b" ++ String.intercalate ", " shown ++ "\x7d"

def readPath (entries : Table) (source : KindSource) : Except Problem String :=
  match entries.get? "path" with
  | some v => readTextField "path" v
  | none => .error ⟨some "path", .missing, shownTable entries source, "dict"⟩

def ofTable (entries : Table) : Except (List Problem) Resource :=
  let (entries, source) := kindSource entries
  match readPath entries source, readKind source with
  | .ok path, .ok kind => .ok ⟨path, kind⟩
  | path, kind => .error (problemOf path ++ problemOf kind)

def ofValue : Value → Except (List Problem) Resource
  | .text s => .ok (ofPathText s)
  | .table entries => ofTable entries
  | v => .error [.ofWhole (.notTable "ProjectResource") v]

/-- The resource that a value describes, its problems reported in one text. -/
def read (v : Value) : Except Fault Resource :=
  (ofValue v).mapError fun ps => .invalid (problemReport "ProjectResource" ps)

/-! ## Use -/

def isDirectory (r : Resource) : Bool :=
  r.kind == .directory

def name (r : Resource) : String :=
  (Path.ofText r.path).name

/-- A resource with its path below a root; a rooted path stays. -/
def resolved (r : Resource) (root : Path) : Resource :=
  let p := Path.ofText r.path
  if p.isAbsolute then r else { r with path := (root / p).text }

def toValue (r : Resource) : Value :=
  .table [("path", .text r.path), ("kind", .text r.kind.name)]

end Resource
end EngineClient
