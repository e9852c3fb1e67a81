import EngineClient.Path

/-!
# The disk

Files, directories and links by location. A location is a list of names from the root
and never passes through a link; the root is always a directory. The working
directory and the home directories belong to the disk as well.
-/

namespace EngineClient

abbrev Location := List String

inductive Node where
  | directory
  | file (content : List UInt8)
  /-- A file that may be neither read nor written. -/
  | sealed (content : List UInt8)
  | link (target : String)
  deriving DecidableEq, Repr

structure Disk where
  nodes : List (Location × Node)
  /-- The working directory. -/
  cwd : Location
  /-- The user's home directory. -/
  home : String
  /-- The home directories of other users, by name. -/
  accounts : List (String × String)
  deriving DecidableEq, Repr

def Disk.bare : Disk :=
  { nodes := [], cwd := [], home := "/", accounts := [] }

inductive DiskProblem where
  | missing
  | exists
  | notDirectory
  | isDirectory
  | notEmpty
  /-- A directory that should go inside itself. -/
  | inside
  | nameTooLong
  | tooManyLinks
  /-- A file that may not be opened. -/
  | forbidden
  deriving DecidableEq, Repr

def DiskProblem.error (p : DiskProblem) (file : String) : OsError :=
  match p with
  | .missing => .ofCode 2 "No such file or directory" (some file)
  | .exists => .ofCode 17 "File exists" (some file)
  | .notDirectory => .ofCode 20 "Not a directory" (some file)
  | .isDirectory => .ofCode 21 "Is a directory" (some file)
  | .notEmpty => .ofCode 39 "Directory not empty" (some file)
  | .inside => .ofCode 22 "Invalid argument" (some file)
  | .nameTooLong => .ofCode 36 "File name too long" (some file)
  | .tooManyLinks => .ofCode 40 "Too many levels of symbolic links" (some file)
  | .forbidden => .ofCode 13 "Permission denied" (some file)

def Location.path (loc : Location) : Path :=
  ⟨.single, loc⟩

namespace Disk

/-! ## Entries -/

def node? (d : Disk) (loc : Location) : Option Node :=
  match loc with
  | [] => some .directory
  | _ => (d.nodes.find? (·.1 == loc)).map (·.2)

def linkTarget? (d : Disk) (loc : Location) : Option String :=
  match d.node? loc with
  | some (.link target) => some target
  | _ => none

def put (d : Disk) (loc : Location) (n : Node) : Disk :=
  { d with nodes := (loc, n) :: d.nodes.filter (·.1 != loc) }

def remove (d : Disk) (loc : Location) : Disk :=
  { d with nodes := d.nodes.filter fun e => !loc.isPrefixOf e.1 }

def relocate (d : Disk) (source target : Location) : Disk :=
  let kept := (d.remove target).nodes
  { d with nodes := kept.map fun e =>
      if source.isPrefixOf e.1 then (target ++ e.1.drop source.length, e.2) else e }

def hasEntries (d : Disk) (loc : Location) : Bool :=
  d.nodes.any fun e => loc.isPrefixOf e.1 && e.1 != loc

theorem node?_put_self (d : Disk) {loc : Location} (n : Node) (h : loc ≠ []) :
    (d.put loc n).node? loc = some n := by
  cases loc with
  | nil => exact absurd rfl h
  | cons a as => simp [put, node?]

theorem node?_put_of_ne (d : Disk) {loc other : Location} (n : Node) (h : loc ≠ other) :
    (d.put loc n).node? other = d.node? other := by
  cases other with
  | nil => rfl
  | cons a as =>
      have hfind : ∀ l : List (Location × Node),
          (l.filter (·.1 != loc)).find? (·.1 == a :: as) = l.find? (·.1 == a :: as) := by
        intro l
        induction l with
        | nil => rfl
        | cons e l ih =>
            by_cases he : e.1 = loc
            · have : e.1 ≠ a :: as := fun hh => h (he ▸ hh)
              simp [he, h, ih]
            · by_cases ho : e.1 = a :: as
              · have : ¬ a :: as = loc := fun hh => he (ho.trans hh)
                simp [ho, this]
              · simp [he, ho, ih]
      simp [put, node?, h, hfind]

end Disk
end EngineClient
