import EngineClient.Xml.Block
import EngineClient.Xml.CodePage
import EngineClient.Xml.Declaration
import EngineClient.Xml.Prolog.Grammar
import EngineClient.Xml.Prolog.Literal
import EngineClient.Xml.Reader

/-!
# Documents

What a string of octets says when it is read as a document: the events up to its end or
up to the first flaw. A document is a prolog, the root element, and what follows it. The
end of a text is a flaw only if nothing follows it.
-/

namespace EngineClient
namespace Xml

/-! ## The prolog -/

inductive Connector where
  | sequence
  | alternative
  deriving DecidableEq, Repr

structure Prolog where
  state : PrologState := .fresh
  type : DocumentType := {}
  /-- The entity that is being declared, if its declaration counts. -/
  current? : Option (List Char) := none
  /-- The groups that are open, the innermost one first, with what joins their parts. -/
  groups : List (Option Connector) := []
  deriving Repr

inductive PartEnd where
  /-- A flaw, at an offset. -/
  | refused (flaw : Flaw) (offset : Nat)
  /-- The text ends, or could go on, at some glyphs. -/
  | waiting (rest : List Glyph)
  /-- Another part begins. -/
  | passed (rest : List Glyph)
  deriving Repr

namespace Prolog

def join (p : Prolog) (c : Connector) : Except ValueFlaw Prolog :=
  match p.groups with
  | [] => .ok p
  | c? :: outer =>
      if c?.any (· != c) then .error ⟨.unexpectedToken, none⟩
      else .ok { p with groups := some c :: outer }

def name (p : Prolog) (name : List Char) : Prolog :=
  if p.type.isReading && (namedChar? name).isNone && (p.type.entity? name).isNone then
    { p with type := p.type.declare name, current? := some name }
  else { p with current? := none }

def define (p : Prolog) (content : EntityContent) : Prolog :=
  match p.current? with
  | some name => if p.type.isReading then { p with type := p.type.define name content } else p
  | none => p

/-- Takes a token in its role; `direct` octets of the document were read. -/
def act (p : Prolog) (direct : Nat) : Role → Except ValueFlaw Prolog
  | .outerType => .ok { p with type := { p.type with hasOuterParts := true } }
  | .publicName value => (checkPublicName value).map fun _ => p
  | .outerTypeName value =>
      (checkPublicName value).map fun _ =>
        { p with type := { p.type with hasOuterParts := true } }
  | .entity cs => .ok (p.name cs)
  | .parameter => .ok { p with current? := none }
  | .entityValue value =>
      if p.type.isReading then (entityContent value).map p.define else .ok p
  | .dataFormat => .ok (p.define .binary)
  | .attributeDefault value =>
      if p.type.isReading then (p.type.checkAttribute [] direct 0 value).map fun _ => p else .ok p
  | .groupStart => .ok { p with groups := none :: p.groups }
  | .groupEnd => .ok { p with groups := p.groups.tail }
  | .sequence => p.join .sequence
  | .alternative => p.join .alternative
  | .parameterReference =>
      .ok { p with
        type := { p.type with hasOuterParts := true, isReading := p.type.standalone } }
  | _ => .ok p

def misplaced : Markup → Flaw
  | .parameter => .strayParameter
  | .declaration _ => .misplacedDeclaration
  | _ => .unexpectedToken

end Prolog

def PartEnd.ofHalt (start : Nat) : Halt → PartEnd
  | .unfinished => .refused .unclosedToken start
  | .cut => .refused .partialCharacter start
  | .invalid offset => .refused .invalidToken offset

def Halt.mayPass : Halt → Bool
  | .invalid _ => false
  | _ => true

/-- Reads the prolog of a text of `size` octets, of which more may follow unless it is
`whole`; `budget` bounds the number of tokens. -/
def readProlog (whole : Bool) (size : Nat) :
    (budget : Nat) → List Glyph → Prolog → Prolog × PartEnd
  | 0, gs, p => (p, .waiting gs)
  | budget + 1, gs, p =>
      let start := offsetOf size gs
      match scanMarkupToken gs with
      | .error h =>
          (p, if !whole && h.mayPass then .waiting gs else .ofHalt start h)
      | .ok none => (p, .waiting gs)
      | .ok (some lexeme) =>
          if lexeme.isOpen && !whole then (p, .waiting gs)
          else
            match p.state.step lexeme.token with
            | none => (p, .refused (Prolog.misplaced lexeme.token) start)
            | some (_, .root) => (p, .passed gs)
            | some (state, role) =>
                match p.act (offsetOf size lexeme.rest) role with
                | .error f => (p, .refused f.flaw (f.offset?.getD start))
                | .ok p =>
                    if lexeme.isOpen && !(lexeme.token matches .space) then
                      (p, .refused .noElement size)
                    else readProlog whole size budget lexeme.rest { p with state }

/-! ## Behind the root element -/

def splitLineEnds (least : Nat) : List Glyph → List Nat
  | g :: h :: gs =>
      let border := g.offset + least
      if g.is '\r' && h.is '\n' && border % blockSize == 0 then
        border :: splitLineEnds least (h :: gs)
      else splitLineEnds least (h :: gs)
  | _ => []

/-- What the borders of blocks could change about the reading of what follows the root
element. -/
structure Tail where
  /-- The borders that split a line end between tokens. -/
  splits : List Nat := []
  /-- Where the token begins that could not be read to its end. -/
  halted? : Option Nat := none
  deriving Repr

/-- Reads what follows the root element; entities took `expanded` octets. -/
def readEpilog (whole : Bool) (b : Bounds) (expanded : Nat) :
    (budget : Nat) → Tail → List Glyph → Tail × PartEnd
  | 0, tail, gs => (tail, .waiting gs)
  | budget + 1, tail, gs =>
      let start := offsetOf b.size gs
      match scanMarkupToken gs with
      | .error h =>
          ({ tail with halted? := some start },
            if !whole && h.mayPass then .waiting gs else .ofHalt start h)
      | .ok none => (tail, .waiting gs)
      | .ok (some lexeme) =>
          if !isAllowed (offsetOf b.size lexeme.rest) expanded then
            (tail, .refused .amplification start)
          else
            match lexeme.token with
            | .space =>
                let splits := tail.splits ++ splitLineEnds b.least (gs.takeWhile Glyph.isSpace)
                if lexeme.isOpen then ({ tail with splits }, .passed [])
                else readEpilog whole b expanded budget { tail with splits } lexeme.rest
            | .note => readEpilog whole b expanded budget tail lexeme.rest
            | _ => (tail, .refused .junkAfterRoot start)

/-! ## Readings -/

structure Reading where
  events : List Event
  stop? : Option Stop
  /-- How many octets were taken. -/
  taken : Nat
  tail : Tail := {}
  /-- The flaw of an octet that is left behind an open line end, if it is read by itself. -/
  leftover? : Option Stop := none
  deriving Repr

/-- A text in its encoding: its octets, and how many of them are a mark before it. -/
structure Source where
  octets : List UInt8
  encoding : Encoding
  mark : Nat
  deriving Repr

namespace Source

def size (s : Source) : Nat :=
  s.octets.length

def glyphs (s : Source) : List Glyph :=
  s.encoding.decode s.mark (s.octets.drop s.mark)

def bounds (s : Source) : Bounds :=
  ⟨s.encoding.least, s.size⟩

def isOdd (s : Source) : Bool :=
  s.size % s.encoding.least != 0

def place (s : Source) (offset : Nat) : Place :=
  ((s.encoding.decode 0 s.octets).takeWhile (·.offset < offset)).foldl Place.past {}

def stopped (s : Source) (events : List Event) (flaw : Flaw) (offset : Nat) : Reading :=
  { events, stop? := some ⟨flaw, s.place offset⟩, taken := s.size }

def waiting (events : List Event) (taken : Nat) : Reading :=
  { events, stop? := none, taken }

/-- A reading up to glyphs at the end of the text; the end is a flaw if the text is
`whole`. -/
def ended (s : Source) (whole : Bool) (events : List Event) (flaw? : Option Flaw)
    (rest : List Glyph) : Reading :=
  let offset := offsetOf (s.size - s.size % s.encoding.least) rest
  let flaw? := if rest.isEmpty && s.isOdd then some .unclosedToken else flaw?
  match whole, flaw? with
  | true, some flaw => s.stopped events flaw offset
  | _, _ => waiting events offset

def readEnd (s : Source) (whole : Bool) (p : Progress) (rest : List Glyph) : Reading :=
  let events := p.events.reverse
  match readEpilog whole s.bounds p.expanded (rest.length + 1) {} rest with
  | (tail, .refused flaw offset) => { s.stopped events flaw offset with tail }
  | (tail, .waiting rest) => { s.ended whole events none rest with tail }
  | (tail, .passed _) =>
      let offset := s.size - s.size % s.encoding.least
      let leftover? := if s.isOdd then some ⟨.unclosedToken, s.place offset⟩ else none
      { waiting events s.size with tail, leftover? }

def readPause (s : Source) (whole : Bool) (p : Progress) (rest : List Glyph) : Pause → Reading
  | .ended => s.ended whole p.events.reverse (some .noElement) rest
  | .trailing cs =>
      if whole then
        let stop := if cs = ['\n'] then rest else []
        s.stopped (p.sayText cs).events.reverse .noElement (offsetOf s.size stop)
      else waiting p.events.reverse (offsetOf s.size rest)
  | .inPlain =>
      if whole then s.stopped p.events.reverse .unclosedSection (offsetOf s.size rest)
      else waiting p.events.reverse (offsetOf s.size rest)
  | .halted h =>
      if h.mayPass && !whole then waiting p.events.reverse (offsetOf s.size rest)
      else
        match PartEnd.ofHalt (offsetOf s.size rest) h with
        | .refused flaw offset => s.stopped p.events.reverse flaw offset
        | _ => waiting p.events.reverse s.size

def readRoot (s : Source) (whole : Bool) (t : DocumentType) (gs : List Glyph) : Reading :=
  match t.read s.bounds gs {} with
  | (p, .refused flaw offset) => s.stopped p.events.reverse flaw offset
  | (p, .paused why rest) => s.readPause whole p rest why
  | (p, .closed rest) => s.readEnd whole p rest

def readFrom (s : Source) (whole : Bool) (p : Prolog) (gs : List Glyph) : Reading :=
  match readProlog whole s.size (gs.length + 1) gs p with
  | (_, .refused flaw offset) => s.stopped [] flaw offset
  | (_, .waiting rest) => s.ended whole [] (some .noElement) rest
  | (p, .passed rest) => s.readRoot whole p.type rest

def declared (s : Source) (d : Declaration) : Except (Flaw × Nat) Source :=
  match d.encoding? with
  | none => .ok s
  | some (name, gs) =>
      match s.encoding.declared name with
      | .ok encoding => .ok { s with encoding }
      | .error f => .error (f, offsetOf s.size gs)

/-- Reads a document with a declaration at its start, and some glyphs behind it. -/
def readDeclared (s : Source) (whole : Bool) (body rest : List Glyph) : Reading :=
  let bodyEnd := offsetOf s.size rest - 2 * s.encoding.least
  match Declaration.read body with
  | .error bad => s.stopped [] .badDeclaration (offsetOf bodyEnd bad)
  | .ok d =>
      match s.declared d with
      | .error (flaw, offset) => s.stopped [] flaw offset
      | .ok next =>
          let read := offsetOf s.size rest
          next.readFrom whole
            { state := .leading, type := { standalone := d.standalone } }
            (next.encoding.decode read (next.octets.drop read))

end Source

/-- Reads octets, to which others may follow unless they are `whole`, at one go. -/
def readAtOnce (whole : Bool) (octets : List UInt8) : Reading :=
  match Encoding.detect? octets with
  | none => { events := [], stop? := if whole then some ⟨.unclosedToken, {}⟩ else none, taken := 0 }
  | some (encoding, mark) =>
      let s : Source := { octets, encoding, mark }
      let gs := s.glyphs
      match scanMarkupToken gs with
      | .ok (some ⟨.declaration body, rest, _⟩) => s.readDeclared whole body rest
      | _ => s.readFrom whole {} gs

/-! ## Blocks -/

/-- Where a reader that is fed a document piece by piece tries to read on, behind `fed`
octets of which it took some. -/
def triesFrom (octets : List UInt8) :
    (sizes : List Nat) → (fed taken : Nat) → Buffer → List Nat
  | [], _, _, _ => []
  | size :: sizes, fed, taken, b =>
      let fed := fed + size
      let b := b.fill size
      if b.isEnough size then
        let next := (readAtOnce false (octets.take fed)).taken
        fed :: triesFrom octets sizes fed next (b.drain (next - taken))
      else triesFrom octets sizes fed taken b

def fullBlocks (octets : List UInt8) : List Nat :=
  List.replicate (octets.length / blockSize) blockSize

def tries (octets : List UInt8) : List Nat :=
  triesFrom octets (fullBlocks octets) 0 0 {}

/-- Whether a reader of octets tries to read on before it learns that none follow. -/
def triesLast (octets : List UInt8) : Bool :=
  (triesFrom octets (fullBlocks octets ++ [octets.length % blockSize]) 0 0 {}).contains
    octets.length

/-- The first flaw that a reader of octets finds where it tries to read on behind an
offset. -/
def stopBehind? (octets : List UInt8) (offset : Nat) : Option Stop :=
  ((tries octets).filter (offset < ·)).findSome? fun border =>
    (readAtOnce false (octets.take border)).stop?

/-- A reading whose flaw is the one that comes first when the octets are taken block by
block. Behind the root element a token that ends with a block is read as it is there. -/
def Reading.stopInBlocks (r : Reading) (octets : List UInt8) : Reading :=
  match r.tail.halted?.bind (stopBehind? octets) with
  | some s => { r with stop? := some s }
  | none => r

/-- A reading whose flaw is placed as by a reader that takes the octets block by block: where
it tried to read on inside a line end of two characters, each of them counts as a line
end. -/
def Reading.placeInBlocks (r : Reading) (octets : List UInt8) : Reading :=
  match r.stop?, r.tail.splits with
  | none, _ => r
  | some _, [] => r
  | some s, splits =>
      let borders := tries octets
      let lines := (splits.filter (borders.contains ·)).length
      { r with stop? := some { s with place := { s.place with line := s.place.line + lines } } }

/-- A reading that ends with the flaw of an octet left behind, if there was a try before
the end. -/
def Reading.stopAtLeftover (r : Reading) (octets : List UInt8) : Reading :=
  match r.leftover? with
  | some s => if triesLast octets then { r with stop? := some s } else r
  | none => r

def Reading.inBlocks (r : Reading) (octets : List UInt8) : Reading :=
  (r.stopInBlocks octets).placeInBlocks octets

def read (octets : List UInt8) : Reading :=
  ((readAtOnce true octets).stopAtLeftover octets).inBlocks octets

def readBroken (octets : List UInt8) : Reading :=
  (readAtOnce false (octets.take ((tries octets).getLast?.getD 0))).inBlocks octets

end Xml
end EngineClient
