import EngineClient.Disk.Basic
import EngineClient.Text.Line

/-!
# Looking up files

How a path leads to a location: step by step, following links, at most forty of them.
The last name may be missing, so that a file can be made there. The target of a link is
walked as it is spelled: a dot in it, or a slash at its end, asks for a directory.
-/

namespace EngineClient
namespace Disk

/-! ## Walking a path -/

def maxLinks : Nat := 40

def maxNameSize : Nat := 255

def maxPathSize : Nat := 4096

def isRooted (s : String) : Bool :=
  s.toList.head? == some '/'

inductive Purpose where
  /-- The entry under the last name, even if it is a link. -/
  | entry
  /-- What the path leads to. -/
  | target
  /-- What the path leads to, or the place to make a file. -/
  | creation
  deriving DecidableEq, Repr

/-- The steps that a text spells: its names and dots, and an empty one for a slash at its
end. -/
def stepsOf (cs : List Char) : List String :=
  let ps := Path.pieces cs
  let steps := (ps.filter (!·.isEmpty)).map String.ofList
  if ps.getLast?.all (·.isEmpty) && !steps.isEmpty then steps ++ [""] else steps

def walk (d : Disk) (purpose : Purpose) (budget : Nat) (loc : Location) :
    List String → Except DiskProblem Location
  | [] => .ok loc
  | name :: rest =>
      match d.node? loc with
      | none => .error .missing
      | some .directory =>
          if purpose = .creation ∧ rest = [""] then .error .isDirectory
          else if name = "" ∨ name = "." then walk d purpose budget loc rest
          else if name = ".." then walk d purpose budget loc.dropLast rest
          else if maxNameSize < Text.Utf8.size name.toList then .error .nameTooLong
          else
            match d.linkTarget? (loc ++ [name]) with
            | none => walk d purpose budget (loc ++ [name]) rest
            | some target =>
                if rest.isEmpty && purpose == .entry then .ok (loc ++ [name])
                else
                  match budget with
                  | 0 => .error .tooManyLinks
                  | budget + 1 =>
                      walk d purpose budget (if isRooted target then [] else loc)
                        (stepsOf target.toList ++ rest)
      | some _ => .error .notDirectory
termination_by names => (budget, names.length)

def locate (d : Disk) (purpose : Purpose) (p : Path) : Except DiskProblem Location :=
  if maxPathSize ≤ Text.Utf8.size p.text.toList then .error .nameTooLong
  else d.walk purpose maxLinks (if p.isAbsolute then [] else d.cwd) p.parts

def stat (d : Disk) (p : Path) : Except DiskProblem Node := do
  let loc ← d.locate .target p
  match d.node? loc with
  | some n => .ok n
  | none => .error .missing

def exists? (d : Disk) (p : Path) : Bool :=
  (d.stat p).isOk

def isDirectory (d : Disk) (p : Path) : Bool :=
  match d.stat p with
  | .ok .directory => true
  | _ => false

def isFile (d : Disk) (p : Path) : Bool :=
  match d.stat p with
  | .ok (.file _) => true
  | .ok (.sealed _) => true
  | _ => false

/-! ## Reading -/

def hasNul (s : String) : Bool :=
  s.toList.contains (Char.ofNat 0)

def readOctets (d : Disk) (p : Path) : Except Fault (List UInt8) :=
  if hasNul p.text then .error .embeddedNul
  else
    match d.stat p with
    | .ok (.file content) => .ok content
    | .ok (.sealed _) => .error (.os (DiskProblem.forbidden.error p.text))
    | .ok _ => .error (.os (DiskProblem.isDirectory.error p.text))
    | .error problem => .error (.os (problem.error p.text))

def decodeFile (content : List UInt8) : Except Fault String :=
  match Text.Utf8.decode content with
  | .ok cs => .ok (String.ofList (Text.unifyLineEnds cs))
  | .error e => .error (.undecodable e)

def readText (d : Disk) (p : Path) : Except Fault String :=
  (d.readOctets p).bind decodeFile

end Disk
end EngineClient
