import EngineClient.Xml.Basic

/-!
# Glyphs

A text as a reader of tokens sees it: one glyph for each character, with the number of
octets before it. Octets that make up no character are glyphs too, so that a reader can
say where they stand. A glyph also knows how wide its encoding writes it, since some
tokens take narrow characters only.
-/

namespace EngineClient
namespace Xml

/-! ## Signs -/

inductive Form where
  /-- In the fewest octets that it has for any character. -/
  | narrow
  /-- As narrow, in an encoding whose octets are the first 256 characters. -/
  | latin
  /-- In more octets, or as a character beyond the first 256. -/
  | wide
  deriving DecidableEq, Repr

inductive Sign where
  | char (c : Char) (form : Form)
  /-- The first octet of a character that its other octets do not complete. -/
  | broken
  /-- The first octet of a character that the end of the text cuts off. -/
  | cut
  /-- An octet that begins no character, or a character that no document may hold. -/
  | alien
  deriving DecidableEq, Repr

structure Glyph where
  sign : Sign
  /-- How many octets stand before it. -/
  offset : Nat
  deriving DecidableEq, Repr

namespace Glyph

/-! ## Classes -/

def char? (g : Glyph) : Option Char :=
  match g.sign with
  | .char c _ => some c
  | _ => none

def is (g : Glyph) (c : Char) : Bool :=
  g.char? == some c

def isSpace (g : Glyph) : Bool :=
  g.char?.any Xml.isSpace

def isText (g : Glyph) : Bool :=
  g.char?.isSome

/-- Three signs of the first 256 characters count as letters where octets are characters. -/
def isLatinLetter (c : Char) : Bool :=
  c == '\u00aa' || c == '\u00b5' || c == '\u00ba'

def isNameStart (g : Glyph) : Bool :=
  match g.sign with
  | .char c form => Xml.isNameStart c || (form = .latin && isLatinLetter c)
  | _ => false

def isNameChar (g : Glyph) : Bool :=
  match g.sign with
  | .char c form => Xml.isNameChar c || (form = .latin && isLatinLetter c)
  | _ => false

/-- Whether a glyph may stand in a keyword: a narrow character that starts names. -/
def isKeywordChar (g : Glyph) : Bool :=
  match g.sign with
  | .char _ .wide => false
  | _ => g.isNameStart

/-- Whether a glyph behind an angle bracket looks like the start of an element; wide
characters are not told apart. -/
def looksLikeName (g : Glyph) : Bool :=
  match g.sign with
  | .char _ .wide => true
  | .broken => true
  | .cut => true
  | _ => g.isNameStart

def digit? (base : Nat) (g : Glyph) : Option Nat :=
  (g.char?.bind Text.hexValue?).filter (· < base)

theorem isNameChar_of_isNameStart {g : Glyph} (h : g.isNameStart = true) :
    g.isNameChar = true := by
  unfold isNameStart at h
  unfold isNameChar
  split at h
  · simp only [Bool.or_eq_true] at h ⊢
    exact h.imp_left Xml.isNameChar_of_isNameStart
  · contradiction

end Glyph

/-! ## Texts -/

def lettersOf (gs : List Glyph) : List Char :=
  gs.filterMap Glyph.char?

/-- The offset of the first of some glyphs, in a text of `size` octets. -/
def offsetOf (size : Nat) : List Glyph → Nat
  | [] => size
  | g :: _ => g.offset

def Place.past (p : Place) (g : Glyph) : Place :=
  p.next (g.char?.getD '?')

/-- The glyphs of characters in UTF-8, the first of them behind `offset` octets; those read
come last first. -/
def glyphsFrom (read : List Glyph) (offset : Nat) : List Char → List Glyph × Nat
  | [] => (read.reverse, offset)
  | c :: cs =>
      let form : Form := if c.toNat < 128 then .narrow else .wide
      glyphsFrom (⟨.char c form, offset⟩ :: read) (offset + c.utf8Size) cs

/-- The glyphs of a text in UTF-8, and how many octets it takes. -/
def glyphsOf (cs : List Char) : List Glyph × Nat :=
  glyphsFrom [] 0 cs

end Xml
end EngineClient
