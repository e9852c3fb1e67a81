import EngineClient.Xml.Tag

/-!
# Entities

The texts that a document type gives names to, and what a reference to one of them comes
to. A declared entity must not refer to itself, and outside the document nothing is read.
All texts together must not be far longer than the document.
-/

namespace EngineClient
namespace Xml

/-! ## Declared entities -/

inductive EntityContent where
  /-- A text in the document, and how many octets it takes. -/
  | text (glyphs : List Glyph) (size : Nat)
  /-- Something outside the document. -/
  | outer
  /-- Something outside the document that is no text. -/
  | binary
  deriving Repr

structure Entity where
  name : List Char
  content : EntityContent := .outer
  deriving Repr

structure DocumentType where
  /-- The entities, in the order of their declaration. -/
  entities : List Entity := []
  /-- Whether parts outside the document may declare more. -/
  hasOuterParts : Bool := false
  standalone : Bool := false
  /-- Whether declarations still count: behind a part that was not read they do not. -/
  isReading : Bool := true
  deriving Repr

namespace DocumentType

def mustDeclare (t : DocumentType) : Bool :=
  t.standalone || !t.hasOuterParts

def entity? (t : DocumentType) (name : List Char) : Option Entity :=
  t.entities.find? (·.name == name)

/-- Declares an entity; the first declaration of a name is the one that counts. -/
def declare (t : DocumentType) (name : List Char) : DocumentType :=
  if (t.entity? name).isSome then t else { t with entities := t.entities ++ [{ name }] }

def define (t : DocumentType) (name : List Char) (content : EntityContent) : DocumentType :=
  { t with
    entities := t.entities.map fun e => if e.name == name then { e with content } else e }

/-- The entity that a reference means while others are open; without one it is skipped. -/
def resolve (t : DocumentType) (opened : List (List Char)) (name : List Char) :
    Except Flaw (Option Entity) :=
  match t.entity? name with
  | none => if t.mustDeclare then .error .undefinedEntity else .ok none
  | some e =>
      if opened.contains name then .error .recursiveEntity
      else
        match e.content with
        | .binary => .error .binaryEntity
        | _ => .ok (some e)

end DocumentType

/-! ## Amplification -/

/-- Up to so many octets, the texts of entities may be as long as they like. -/
def freeOctets : Nat := 8388608

/-- Beyond that, they may be at most so many times as long as the document. -/
def maxAmplification : Nat := 100

/-- Whether a document of which so many octets were read may have so many octets of
entities. -/
def isAllowed (direct expanded : Nat) : Bool :=
  direct + expanded < freeOctets || direct + expanded ≤ maxAmplification * direct

/-! ## Values of attributes -/

/-- A flaw, and its offset unless it is the one of the whole token. -/
structure ValueFlaw where
  flaw : Flaw
  offset? : Option Nat := none
  deriving Repr

/-- The offset of a halt in a value; a reference that is not finished is refused where it
starts. -/
def ValueFlaw.ofHalt (start : Nat) : Halt → ValueFlaw
  | .invalid offset => ⟨.invalidToken, some offset⟩
  | _ => ⟨.invalidToken, some start⟩

/-- How many octets entities took after the text of another one was checked. -/
abbrev EntityCheck := List (List Char) → Nat → Entity → Nat → Except Flaw Nat

/-- Checks a reference in a value; `direct` octets of the document were read. -/
def checkReference (t : DocumentType) (check : EntityCheck) (opened : List (List Char))
    (direct offset expanded : Nat) : Reference → Except ValueFlaw Nat
  | .number (some _) => .ok expanded
  | .number none => .error ⟨.badCharacterNumber, some offset⟩
  | .entity name =>
      if (namedChar? name).isSome then .ok (expanded + 1)
      else
        match t.resolve opened name with
        | .error .undefinedEntity => .error ⟨.undefinedEntity, none⟩
        | .error f => .error ⟨f, some offset⟩
        | .ok none => .ok expanded
        | .ok (some e) =>
            match e.content with
            | .text _ _ => (check opened direct e expanded).mapError fun f => ⟨f, none⟩
            | _ => .error ⟨.outerEntity, some offset⟩

/-- Checks the value of an attribute; the octets of an entity are counted as they are
read. -/
def checkValue (t : DocumentType) (check : EntityCheck) (opened : List (List Char))
    (direct : Nat) (isEntity : Bool) (expanded : Nat) :
    List Glyph → Except ValueFlaw Nat
  | [] => .ok expanded
  | g :: gs =>
      let expanded := if isEntity then expanded + (g.char?.map Char.utf8Size).getD 1 else expanded
      if !isAllowed direct expanded then .error ⟨.amplification, none⟩
      else if g.is '<' then .error ⟨.invalidToken, some g.offset⟩
      else if g.is '&' then
        match scanReference gs with
        | .error h => .error (.ofHalt g.offset h)
        | .ok (r, _) =>
            match checkReference t check opened direct g.offset expanded r with
            | .error f => .error f
            | .ok expanded => checkValue t check opened direct isEntity expanded gs
      else checkValue t check opened direct isEntity expanded gs

/-- Checks the text of an entity in a value; entities lie in each other at most `depth`
deep. -/
def checkEntity (t : DocumentType) : (depth : Nat) → EntityCheck
  | 0 => fun _ _ _ _ => .error .recursiveEntity
  | depth + 1 => fun opened direct e expanded =>
      match e.content with
      | .text gs _ =>
          (checkValue t (checkEntity t depth) (e.name :: opened) direct true expanded gs).mapError
            ValueFlaw.flaw
      | _ => .ok expanded

/-- Checks the value of an attribute of the document, or of the text of open entities. -/
def DocumentType.checkAttribute (t : DocumentType) (opened : List (List Char))
    (direct expanded : Nat) (value : List Glyph) : Except ValueFlaw Nat :=
  checkValue t (checkEntity t (t.entities.length + 1)) opened direct false expanded value

/-- Checks attributes in order: that a name is new, and then its value. -/
def DocumentType.checkAttributes (t : DocumentType) (opened : List (List Char))
    (direct expanded : Nat) (seen : List (List Char)) : List Attribute → Except ValueFlaw Nat
  | [] => .ok expanded
  | a :: as =>
      if seen.contains a.name then .error ⟨.duplicateAttribute, some a.offset⟩
      else
        match t.checkAttribute opened direct expanded a.value with
        | .error f => .error f
        | .ok expanded => t.checkAttributes opened direct expanded (a.name :: seen) as

end Xml
end EngineClient
