import EngineClient.Fault

/-!
# Paths

A path as written: whether it is rooted, and its parts. Empty parts and single dots
carry no meaning and are dropped; `..` stays, since what it means depends on links.
Exactly two slashes at the start are a root of their own.
-/

namespace EngineClient

inductive PathRoot where
  | relative
  | single
  | double
  deriving DecidableEq, Repr

def PathRoot.text : PathRoot → String
  | .relative => ""
  | .single => "/"
  | .double => "//"

structure Path where
  root : PathRoot
  parts : List String
  deriving DecidableEq, Repr

namespace Path

/-! ## Reading and writing -/

def pieces : List Char → List (List Char)
  | [] => [[]]
  | c :: cs =>
      if c = '/' then [] :: pieces cs
      else
        match pieces cs with
        | [] => [[c]]
        | p :: ps => (c :: p) :: ps

theorem pieces_ne_nil (cs : List Char) : pieces cs ≠ [] := by
  cases cs with
  | nil => simp [pieces]
  | cons c cs =>
      by_cases h : c = '/'
      · simp [pieces, h]
      · simp only [pieces, h, if_false]
        split <;> simp

def joinPieces : List (List Char) → List Char
  | [] => []
  | [p] => p
  | p :: q :: ps => p ++ '/' :: joinPieces (q :: ps)

theorem joinPieces_cons_nil (ps : List (List Char)) (h : ps ≠ []) :
    joinPieces ([] :: ps) = '/' :: joinPieces ps := by
  cases ps with
  | nil => exact absurd rfl h
  | cons q qs => rfl

theorem joinPieces_pieces (cs : List Char) : joinPieces (pieces cs) = cs := by
  induction cs with
  | nil => rfl
  | cons c cs ih =>
      by_cases h : c = '/'
      · simp [pieces, h, joinPieces_cons_nil _ (pieces_ne_nil cs), ih]
      · simp only [pieces, h, if_false]
        cases hp : pieces cs with
        | nil => exact absurd hp (pieces_ne_nil cs)
        | cons p ps =>
            rw [hp] at ih
            cases ps with
            | nil => simpa [joinPieces] using ih
            | cons q qs => simpa [joinPieces] using ih

/-- Whether a piece is a part: neither empty nor a single dot. -/
def isPart (piece : List Char) : Bool :=
  !piece.isEmpty && piece != ['.']

def partsOf (cs : List Char) : List String :=
  ((pieces cs).filter isPart).map String.ofList

def rootOf (cs : List Char) : PathRoot :=
  match (cs.takeWhile (· = '/')).length with
  | 0 => .relative
  | 2 => .double
  | _ => .single

def ofText (s : String) : Path :=
  ⟨rootOf s.toList, partsOf s.toList⟩

/-- The path as text; the empty path is a single dot. -/
def text (p : Path) : String :=
  let s := p.root.text ++ String.intercalate "/" p.parts
  if s.isEmpty then "." else s

def isAbsolute (p : Path) : Bool :=
  p.root != .relative

/-! ## Parts -/

def name (p : Path) : String :=
  p.parts.getLastD ""

/-- A name split before its last dot, unless that dot is its first or last character. -/
def splitSuffix (name : List Char) : List Char × List Char :=
  let ending := (name.reverse.takeWhile (· != '.')).reverse
  match name.reverse.dropWhile (· != '.') with
  | '.' :: front =>
      if ending.isEmpty || front.isEmpty then (name, [])
      else (front.reverse, '.' :: ending)
  | _ => (name, [])

theorem splitSuffix_append (name : List Char) :
    (splitSuffix name).1 ++ (splitSuffix name).2 = name := by
  have h := List.takeWhile_append_dropWhile (p := (· != '.')) (l := name.reverse)
  simp only [splitSuffix]
  split
  · rename_i front heq
    split
    · simp
    · rw [heq] at h
      have := congrArg List.reverse h
      simpa using this
  · simp

def suffix (p : Path) : String :=
  String.ofList (splitSuffix p.name.toList).2

def stem (p : Path) : String :=
  String.ofList (splitSuffix p.name.toList).1

def parent (p : Path) : Path :=
  { p with parts := p.parts.dropLast }

/-! ## Building -/

/-- A path below another; a rooted path replaces what it is joined to. -/
def join (p q : Path) : Path :=
  if q.isAbsolute then q else { p with parts := p.parts ++ q.parts }

instance : HDiv Path Path Path := ⟨join⟩

theorem join_of_isAbsolute {p q : Path} (h : q.isAbsolute = true) : p / q = q := by
  simp [HDiv.hDiv, join, h]

def isName (s : String) : Bool :=
  let p := ofText s
  p.root == .relative && p.parts.length == 1 && s.toList.getLast? != some '/'

def withName (p : Path) (s : String) : Except Fault Path :=
  if p.name.isEmpty then .error (.emptyName p.text)
  else if !isName s then .error (.invalidName s)
  else .ok { p with parts := p.parts.dropLast ++ [s] }

/-! ## Renaming modules -/

def packageFile : String := "__init__.py"

/-- Where a module lands when it is renamed: its directory and its suffix stay, but a package is
a directory, so its directory is what changes. -/
def renamed (p : Path) (newName : String) : Except Fault Path :=
  if p.name = packageFile then .ok (p.parent.parent / ofText newName / ofText p.name)
  else p.withName (newName ++ p.suffix)

end Path
end EngineClient
