import EngineClient.Xml.Content
import EngineClient.Xml.Entity

/-!
# Reading content

The content of the root element as a run of events. A reader knows which elements are
open; an entity is read in place of its reference, and closes what it opens.
-/

namespace EngineClient
namespace Xml

/-! ## Readers -/

structure Progress where
  /-- The events, the last one first. -/
  events : List Event := []
  /-- The open elements of the text that is being read, the innermost one first. -/
  elements : List (List Char) := []
  /-- How many octets entities took. -/
  expanded : Nat := 0
  deriving Repr

structure Level where
  bounds : Bounds
  /-- The entities that are open, the innermost one first. -/
  opened : List (List Char) := []
  /-- In an entity, how many octets of the document were read. -/
  ground? : Option Nat := none
  deriving Repr

inductive Verdict where
  /-- A flaw at an offset of the text. -/
  | refused (flaw : Flaw) (offset : Nat)
  | paused (why : Pause) (rest : List Glyph)
  /-- The root element is closed. -/
  | closed (rest : List Glyph)
  deriving Repr

/-- Reads an entity while others are open; the number of octets of the document that were
read comes first. -/
abbrev Expander := (direct : Nat) → (opened : List (List Char)) → Entity → Progress →
  Progress × Option Flaw

namespace Progress

def say (p : Progress) (es : List Event) : Progress :=
  { p with events := es ++ p.events }

def sayText (p : Progress) (cs : List Char) : Progress :=
  p.say [.text cs]

end Progress

/-! ## Tokens -/

/-- What a token makes of a reader: the reader as it goes on, or as it was at a flaw. -/
abbrev Step := Progress × Option (Flaw × Nat)

def readStart (t : DocumentType) (lv : Level) (direct start : Nat) (tag : Tag) (p : Progress) :
    Step :=
  match t.checkAttributes lv.opened direct p.expanded [] tag.attributes with
  | .error f => (p, some (f.flaw, f.offset?.getD start))
  | .ok expanded =>
      let p := { p with expanded }
      if tag.empty then (p.say [.stop tag.name, .start tag.name], none)
      else ({ p.say [.start tag.name] with elements := tag.name :: p.elements }, none)

def readStop (start : Nat) (name : List Char) (offset : Nat) (p : Progress) : Step :=
  match p.elements with
  | [] => (p, some (.straddlingEntity, start))
  | e :: es =>
      if e = name then ({ p.say [.stop name] with elements := es }, none)
      else (p, some (.mismatchedTag, offset))

def readReference (t : DocumentType) (expand : Expander) (lv : Level) (direct start : Nat)
    (r : Reference) (p : Progress) : Step :=
  match r with
  | .number (some c) => (p.sayText [c], none)
  | .number none => (p, some (.badCharacterNumber, start))
  | .entity name =>
      match namedChar? name with
      | some c => ({ p.sayText [c] with expanded := p.expanded + 1 }, none)
      | none =>
          match t.resolve lv.opened name with
          | .error f => (p, some (f, start))
          | .ok none => (p, none)
          | .ok (some e) =>
              let (p, flaw?) := expand direct lv.opened e p
              (p, flaw?.map (·, start))

def readToken (t : DocumentType) (expand : Expander) (lv : Level) (direct start : Nat)
    (token : ContentToken) (p : Progress) : Step :=
  match token with
  | .start tag => readStart t lv direct start tag p
  | .stop name offset => readStop start name offset p
  | .text cs => (p.sayText cs, none)
  | .reference r => readReference t expand lv direct start r p
  | .note => (p, none)
  | .declaration => (p, some (.misplacedDeclaration, start))
  | .plainStart => (p, none)

def Progress.count (p : Progress) (lv : Level) (start stop : Nat) : Progress :=
  if lv.ground?.isSome then { p with expanded := p.expanded + (stop - start) } else p

/-! ## Texts -/

/-- Reads content; `budget` bounds the number of its tokens, and `plain` tells whether it
begins in a section of plain text. -/
def readContent (t : DocumentType) (expand : Expander) (lv : Level) :
    (budget : Nat) → (plain : Bool) → List Glyph → Progress → Progress × Verdict
  | 0, _, gs, p => (p, .paused .ended gs)
  | budget + 1, true, gs, p =>
      match scanPlain gs with
      | .error .unfinished => (p, .paused .inPlain gs)
      | .error h => (p, .paused (.halted h) gs)
      | .ok (token, rest) =>
          let start := offsetOf lv.bounds.size gs
          let stop := offsetOf lv.bounds.size rest
          let p := p.count lv start stop
          if !isAllowed (lv.ground?.getD stop) p.expanded then (p, .refused .amplification start)
          else
            match token with
            | .text cs => readContent t expand lv budget true rest (p.sayText cs)
            | .stop => readContent t expand lv budget false rest p
  | budget + 1, false, gs, p =>
      match scanContent lv.bounds gs with
      | .error why => (p, .paused why gs)
      | .ok (token, rest) =>
          let start := offsetOf lv.bounds.size gs
          let stop := offsetOf lv.bounds.size rest
          let direct := lv.ground?.getD stop
          let p := p.count lv start stop
          if !isAllowed direct p.expanded then (p, .refused .amplification start)
          else
            match readToken t expand lv direct start token p with
            | (p, some (f, offset)) => (p, .refused f offset)
            | (p, none) =>
                if lv.ground?.isNone && p.elements.isEmpty then (p, .closed rest)
                else readContent t expand lv budget (token matches .plainStart) rest p

/-! ## Entities -/

def entityFlaw? (elements : List (List Char)) : Pause → Option Flaw
  | .ended => if elements.isEmpty then none else some .straddlingEntity
  | .trailing _ => if elements.isEmpty then none else some .straddlingEntity
  | .inPlain => some .unclosedSection
  | .halted .unfinished => some .unclosedToken
  | .halted .cut => some .partialCharacter
  | .halted (.invalid _) => some .invalidToken

/-- Reads the text of an entity; entities lie in each other at most `depth` deep. -/
def expandEntity (t : DocumentType) : (depth : Nat) → Expander
  | 0 => fun _ _ _ p => (p, some .recursiveEntity)
  | depth + 1 => fun direct opened e p =>
      match e.content with
      | .text gs size =>
          let lv : Level :=
            { bounds := { size }, opened := e.name :: opened, ground? := some direct }
          match readContent t (expandEntity t depth) lv (gs.length + 1) false gs
              { p with elements := [] } with
          | (q, .refused f _) => (q, some f)
          | (q, .closed _) => ({ q with elements := p.elements }, none)
          | (q, .paused why _) =>
              let q := match why with | .trailing cs => q.sayText cs | _ => q
              match entityFlaw? q.elements why with
              | some f => (q, some f)
              | none => ({ q with elements := p.elements }, none)
      | _ => (p, none)

def DocumentType.read (t : DocumentType) (b : Bounds) (gs : List Glyph) (p : Progress) :
    Progress × Verdict :=
  readContent t (expandEntity t (t.entities.length + 1)) { bounds := b } (gs.length + 1) false gs
    p

end Xml
end EngineClient
