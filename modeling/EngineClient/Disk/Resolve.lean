import EngineClient.Disk.Lookup

/-!
# Resolving paths

The one spelling of a path that is absolute, has no `..` and passes through no link.
Names that do not exist resolve to themselves. A link is known by its spelling, which is
relative while the path is. A chain of links that returns to a link being followed is
left as it stands; it is an error only if the disk refuses it.
-/

namespace EngineClient
namespace Disk

/-! ## Homes -/

def homeOf (d : Disk) (user : String) : Option String :=
  if user.isEmpty then some d.home
  else (d.accounts.find? (·.1 == user)).map (·.2)

/-- A home directory without slashes at its end; one without a name is the root. -/
def homeText (home : String) : String :=
  match home.toList.reverse.dropWhile (· = '/') with
  | [] => "/"
  | cs => String.ofList cs.reverse

def expandUser (d : Disk) (p : Path) : Except Fault Path :=
  match p.root, p.parts with
  | .relative, first :: rest =>
      match first.toList with
      | '~' :: user =>
          if user.contains (Char.ofNat 0) then .error .embeddedNul
          else
            match (d.homeOf (String.ofList user)).map homeText with
            | none => .error .noHome
            | some home =>
                if home.toList.head? = some '~' then .error .noHome
                else .ok (Path.ofText home / ⟨.relative, rest⟩)
      | _ => .ok p
  | _, _ => .ok p

def homePath (d : Disk) : Except Fault Path :=
  d.expandUser (Path.ofText "~")

/-! ## Spellings -/

/-- Names with each `..` cancelled against the name before it. -/
def cancelDots (loc : Location) : List String → Location
  | [] => loc
  | name :: rest => cancelDots (if name = ".." then loc.dropLast else loc ++ [name]) rest

theorem cancelDots_append (loc : Location) (xs ys : List String) :
    cancelDots loc (xs ++ ys) = cancelDots (cancelDots loc xs) ys := by
  induction xs generalizing loc with
  | nil => rfl
  | cons x xs ih => exact ih _

/-- The target of the link that a path names. No link in front of the last name is
followed, since the path was resolved up to there. -/
def linkAt? (d : Disk) (p : Path) : Option String :=
  if maxPathSize ≤ Text.Utf8.size p.text.toList then none
  else d.linkTarget? (cancelDots (if p.isAbsolute then [] else d.cwd) p.parts)

def below (p : Path) (name : String) : Path :=
  { p with parts := p.parts ++ [name] }

/-- The path of one name less; a relative path goes on above where it starts. -/
def above (p : Path) : Path :=
  if p.isAbsolute then p.parent
  else if p.parts.getLast?.all (· == "..") then below p ".."
  else p.parent

/-- A text after another, with a slash between them; a rooted text replaces the other. -/
def joinText (first second : List Char) : List Char :=
  if second.head? == some '/' then second
  else if first.getLast? == some '/' then first ++ second
  else first ++ '/' :: second

def absolutePath (d : Disk) (cs : List Char) : Path :=
  match Path.rootOf cs with
  | .relative => ⟨.single, cancelDots d.cwd (Path.partsOf cs)⟩
  | root => ⟨root, cancelDots [] (Path.partsOf cs)⟩

/-! ## Links -/

/-- How far a path was resolved: to its end, or to a link that is being followed already;
then the text is that link with what comes after it. -/
inductive Reached where
  | path (p : Path)
  | loop (text : List Char)
  deriving DecidableEq, Repr

def Reached.text : Reached → List Char
  | .path ⟨.relative, []⟩ => []
  | .path p => p.text.toList
  | .loop text => text

/-- The links that were met, with the path that each leads to; none as long as the link
is being followed. -/
abbrev Met := List (Path × Option Path)

def maxDepth : Nat := 980

def resolvePieces (d : Disk) (depth : Nat) (met : Met) (p : Path) :
    List (List Char) → Except Fault (Met × Reached)
  | [] => .ok (met, .path p)
  | piece :: rest =>
      if !Path.isPart piece then resolvePieces d depth met p rest
      else if piece = ['.', '.'] then resolvePieces d depth met (above p) rest
      else if piece.contains (Char.ofNat 0) then .error .embeddedNul
      else
        let next := below p (String.ofList piece)
        match d.linkAt? next, met.lookup next with
        | none, _ => resolvePieces d depth met next rest
        | some _, some (some known) => resolvePieces d depth met known rest
        | some _, some none =>
            .ok (met, .loop (joinText next.text.toList (Path.joinPieces rest)))
        | some target, none =>
            match depth with
            | 0 => .error .tooDeep
            | depth + 1 =>
                match resolvePieces d depth ((next, none) :: met)
                    (if isRooted target then ⟨.single, []⟩ else p)
                    (Path.pieces target.toList) with
                | .error e => .error e
                | .ok (met, .loop text) =>
                    .ok (met, .loop (joinText text (Path.joinPieces rest)))
                | .ok (met, .path known) =>
                    resolvePieces d (depth + 1) ((next, some known) :: met) known rest
termination_by rest => (depth, rest.length)

/-- The absolute path that a text resolves to, whether or not a loop stopped it. -/
def realPath (d : Disk) (text : String) : Except Fault Path :=
  let start : Path := ⟨if isRooted text then .single else .relative, []⟩
  (d.resolvePieces maxDepth [] start (Path.pieces text.toList)).map fun r =>
    d.absolutePath r.2.text

def resolve (d : Disk) (p : Path) : Except Fault Path :=
  match d.realPath p.text with
  | .error e => .error e
  | .ok real =>
      if hasNul real.text then .error .embeddedNul
      else
        match d.stat real with
        | .error .tooManyLinks => .error (.linkLoop real.text)
        | _ => .ok real

def canonical (d : Disk) (p : Path) : Except Fault Path :=
  (d.expandUser p).bind d.resolve

end Disk
end EngineClient
