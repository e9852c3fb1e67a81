import EngineClient.Xml.Glyph

/-!
# Declarations

The declaration at the head of a document: its version, its encoding, whether it stands
alone, in this order, of which only the version must be there. What does not follow this
form is refused at its first character; the place is given by the glyphs from there on.
-/

namespace EngineClient
namespace Xml

structure Declaration where
  /-- The name of its encoding, and the glyphs from there on. -/
  encoding? : Option (List Char × List Glyph) := none
  standalone : Bool := false
  deriving Repr

namespace Declaration

abbrev Reading := Except (List Glyph)

/-- One assignment of a declaration, each part with the glyphs from there on. -/
structure Assignment where
  name : List Char
  value : List Char
  fromName : List Glyph
  fromValue : List Glyph
  deriving Repr

def isValueChar (g : Glyph) : Bool :=
  g.char?.any fun c => c.isAlphanum || c == '.' || c == '-' || c == '_'

def isNamePart (g : Glyph) : Bool :=
  g.char?.any fun c => c.toNat < 128 && c != '=' && !isSpace c

def readEquals (gs : List Glyph) : Reading (List Glyph) :=
  match gs.dropWhile Glyph.isSpace with
  | [] => .error []
  | g :: rest => if g.is '=' then .ok rest else .error (g :: rest)

/-- A value between quotes, with the glyphs from its first one on, and what follows. -/
def readValue (gs : List Glyph) : Reading (List Char × List Glyph × List Glyph) :=
  match gs.dropWhile Glyph.isSpace with
  | [] => .error []
  | quote :: gs =>
      if quote.is '"' || quote.is '\'' then
        match gs.dropWhile isValueChar with
        | [] => .error []
        | g :: rest =>
            if g.char? = quote.char? then
              .ok (lettersOf (gs.takeWhile isValueChar), gs, rest)
            else .error (g :: rest)
      else .error (quote :: gs)

def readAssignment (gs : List Glyph) : Reading (Option (Assignment × List Glyph)) :=
  match gs with
  | [] => .ok none
  | g :: _ =>
      if !g.isSpace then .error gs
      else
        match gs.dropWhile Glyph.isSpace with
        | [] => .ok none
        | start =>
            if (start.takeWhile isNamePart).isEmpty then .error start
            else do
              let gs ← readEquals (start.dropWhile isNamePart)
              let (value, fromValue, rest) ← readValue gs
              return some (⟨lettersOf (start.takeWhile isNamePart), value, start, fromValue⟩, rest)

/-- The last assignment: whether the document stands alone. -/
def readStandalone (a : Assignment) (rest : List Glyph) : Reading Bool :=
  if a.name ≠ "standalone".toList then .error a.fromName
  else if a.value ≠ "yes".toList ∧ a.value ≠ "no".toList then .error a.fromValue
  else if (rest.dropWhile Glyph.isSpace).isEmpty then .ok (a.value = "yes".toList)
  else .error (rest.dropWhile Glyph.isSpace)

def readEncoding (a : Assignment) (rest : List Glyph) : Reading Declaration :=
  if a.name = "encoding".toList then
    if a.value.head?.any Char.isAlpha then do
      let standalone ←
        match ← readAssignment rest with
        | some (b, rest) => readStandalone b rest
        | none => pure false
      return { encoding? := some (a.value, a.fromValue), standalone }
    else .error a.fromValue
  else (readStandalone a rest).map fun standalone => { standalone }

def read (gs : List Glyph) : Reading Declaration := do
  match ← readAssignment gs with
  | none => .error gs
  | some (a, rest) =>
      if a.name ≠ "version".toList then .error a.fromName
      else
        match ← readAssignment rest with
        | none => return {}
        | some (b, rest) => readEncoding b rest

end Declaration
end Xml
end EngineClient
