import EngineClient.Disk.Resolve

/-!
# Changing the disk

What programs beside the client do to files: writing, deleting, moving, making
directories and links, allowing them to be opened or not. Parents are made where they are missing.
-/

namespace EngineClient

inductive DiskChange where
  | write (path : String) (content : List UInt8)
  | delete (path : String)
  | move (source target : String)
  | makeDirectory (path : String)
  | removeTree (path : String)
  | link (path target : String)
  /-- Lets a file be opened, or no longer. -/
  | permit (path : String) (opens : Bool)
  deriving DecidableEq, Repr

namespace Disk

/-! ## Directories -/

def makeOne (d : Disk) (p : Path) : Except DiskProblem Disk :=
  match d.locate .entry p with
  | .error problem => .error problem
  | .ok loc =>
      match d.node? loc with
      | some _ => .error .exists
      | none => .ok (d.put loc .directory)

/-- What stands in for a failure to make a directory: one that exists already is left
alone. -/
def orStanding (d : Disk) (p : Path) (problem : DiskProblem) : Except OsError Disk :=
  if d.isDirectory p then .ok d else .error (problem.error p.text)

/-- Makes the directory whose parts are given last part first, and the directories above
it as far as they are missing. -/
def makeUpward (d : Disk) (root : PathRoot) : List String → Except OsError Disk
  | [] =>
      match d.makeOne ⟨root, []⟩ with
      | .ok d => .ok d
      | .error problem => d.orStanding ⟨root, []⟩ problem
  | name :: above =>
      let p : Path := ⟨root, (name :: above).reverse⟩
      match d.makeOne p with
      | .ok d => .ok d
      | .error .missing =>
          match makeUpward d root above with
          | .error e => .error e
          | .ok d =>
              match d.makeOne p with
              | .ok d => .ok d
              | .error problem => d.orStanding p problem
      | .error problem => d.orStanding p problem

/-- Makes a directory with its parents; one that exists is left alone. -/
def makeDirectory (d : Disk) (p : Path) : Except OsError Disk :=
  d.makeUpward p.root p.parts.reverse

/-! ## Files -/

/-- Puts content into a file, which may be new; its directory must exist. -/
def writeFile (d : Disk) (p : Path) (content : List UInt8) : Except OsError Disk :=
  match d.locate .creation p with
  | .error problem => .error (problem.error p.text)
  | .ok loc =>
      match d.node? loc with
      | some .directory => .error (DiskProblem.isDirectory.error p.text)
      | some (.sealed _) => .error (DiskProblem.forbidden.error p.text)
      | _ => .ok (d.put loc (.file content))

/-- Opens a file for appending: it exists afterwards, its content unchanged. -/
def openAppend (d : Disk) (p : Path) : Except Fault Disk :=
  if hasNul p.text then .error .embeddedNul
  else
    match d.locate .creation p with
    | .error problem => .error (.os (problem.error p.text))
    | .ok loc =>
        match d.node? loc with
        | some .directory => .error (.os (DiskProblem.isDirectory.error p.text))
        | some (.sealed _) => .error (.os (DiskProblem.forbidden.error p.text))
        | some _ => .ok d
        | none => .ok (d.put loc (.file []))

/-! ## Changes -/

def linkedTree : OsError :=
  { kind := .other, code? := none, text := "Cannot call rmtree on a symbolic link" }

private def removeFile (d : Disk) (p : Path) : Except OsError Disk :=
  match d.locate .entry p with
  | .error problem => .error (problem.error p.text)
  | .ok loc =>
      match d.node? loc with
      | none => .error (DiskProblem.missing.error p.text)
      | some .directory => .error (DiskProblem.isDirectory.error p.text)
      | some _ => .ok (d.remove loc)

private def removeTree (d : Disk) (p : Path) : Except OsError Disk :=
  match d.locate .entry p with
  | .error problem => .error (problem.error p.text)
  | .ok loc =>
      match d.node? loc with
      | none => .error (DiskProblem.missing.error p.text)
      | some .directory => .ok (d.remove loc)
      | some (.file _) => .error (DiskProblem.notDirectory.error p.text)
      | some (.sealed _) => .error (DiskProblem.notDirectory.error p.text)
      | some (.link _) =>
          match d.stat p with
          | .error problem => .error (problem.error p.text)
          | .ok _ => .error linkedTree

private def moveProblem? (d : Disk) (a b : Location) : Option DiskProblem :=
  match d.node? a, d.node? b with
  | none, _ => some .missing
  | some node, other? =>
      if a != b && a.isPrefixOf b then some .inside
      else if a != b && b.isPrefixOf a then some .notEmpty
      else
        match node, other? with
        | .directory, some .directory => if a != b && d.hasEntries b then some .notEmpty else none
        | .directory, some _ => some .notDirectory
        | _, some .directory => some .isDirectory
        | _, _ => none

private def moveEntry (d : Disk) (source target : Path) : Except OsError Disk :=
  let refuse (problem : DiskProblem) : Except OsError Disk :=
    .error { problem.error source.text with target? := some target.text }
  match d.locate .entry source, d.locate .entry target with
  | .error problem, _ => refuse problem
  | _, .error problem => refuse problem
  | .ok a, .ok b =>
      match moveProblem? d a b with
      | some problem => refuse problem
      | none => .ok (if a == b then d else d.relocate a b)

private def linkEntry (d : Disk) (p : Path) (target : String) : Except OsError Disk :=
  match d.locate .entry p with
  | .error problem => .error (problem.error p.text)
  | .ok loc =>
      match d.node? loc with
      | some .directory => .error (DiskProblem.exists.error p.text)
      | _ => .ok (d.put loc (.link target))

private def permitFile (d : Disk) (p : Path) (opens : Bool) : Except OsError Disk :=
  match d.locate .target p with
  | .error problem => .error (problem.error p.text)
  | .ok loc =>
      let node (content : List UInt8) : Node := if opens then .file content else .sealed content
      match d.node? loc with
      | some (.file content) => .ok (d.put loc (node content))
      | some (.sealed content) => .ok (d.put loc (node content))
      | some .directory => .error (DiskProblem.isDirectory.error p.text)
      | _ => .error (DiskProblem.missing.error p.text)

def change (d : Disk) : DiskChange → Except Fault Disk
  | .write path content => lift path do
      let p := Path.ofText path
      (← d.makeDirectory p.parent).writeFile p content
  | .delete path => lift path (removeFile d (Path.ofText path))
  | .move source target => lift (source ++ target) do
      let p := Path.ofText target
      moveEntry (← d.makeDirectory p.parent) (Path.ofText source) p
  | .makeDirectory path => lift path (d.makeDirectory (Path.ofText path))
  | .removeTree path => lift path (removeTree d (Path.ofText path))
  | .link path target => lift path do
      let p := Path.ofText path
      linkEntry (← d.makeDirectory p.parent) p target
  | .permit path opens => lift path (permitFile d (Path.ofText path) opens)
where
  lift (names : String) (r : Except OsError Disk) : Except Fault Disk :=
    if hasNul names then .error .embeddedNul else r.mapError .os

theorem change_link_of_located {d d' : Disk} {path : String} {loc : Location}
    (hnul : hasNul path = false)
    (hparent : d.makeDirectory (Path.ofText path).parent = .ok d')
    (hlocate : d'.locate .entry (Path.ofText path) = .ok loc)
    (hnode : d'.node? loc ≠ some .directory) (target : String) :
    d.change (.link path target) = .ok (d'.put loc (.link target)) := by
  have hentry : linkEntry d' (Path.ofText path) target = .ok (d'.put loc (.link target)) := by
    rw [linkEntry, hlocate]
    dsimp only
    split
    · rename_i h
      exact absurd h hnode
    · rfl
  have hrun : (d.makeDirectory (Path.ofText path).parent >>= fun made =>
      linkEntry made (Path.ofText path) target) = .ok (d'.put loc (.link target)) := by
    simp only [hparent, bind, Except.bind, hentry]
  rw [change]
  dsimp only
  rw [hrun, change.lift, hnul]
  rfl

def changeAll (d : Disk) (cs : List DiskChange) : Except Fault Disk :=
  cs.foldlM change d

end Disk
end EngineClient
