import EngineClient.Number.Literal
import EngineClient.Xml.Name

/-!
# What a reader of documents reports

A document is read as a run of events. A reader that cannot go on says what is wrong and
where: lines count from one, columns from zero, and a column counts characters.
-/

namespace EngineClient
namespace Xml

/-! ## Events -/

/-- What a document holds, one thing after the other; attributes are checked and
dropped. -/
inductive Event where
  | start (name : List Char)
  | stop (name : List Char)
  | text (cs : List Char)
  deriving DecidableEq, Repr

/-! ## Places -/

structure Place where
  line : Nat := 1
  column : Nat := 0
  /-- Whether the character before is a carriage return. -/
  afterReturn : Bool := false
  deriving DecidableEq, Repr

namespace Place

/-- The place behind a character; a carriage return and the line feed behind it are one
line end. -/
def next (p : Place) (c : Char) : Place :=
  if c = '\r' then ⟨p.line + 1, 0, true⟩
  else if c = '\n' then if p.afterReturn then ⟨p.line, 0, false⟩ else ⟨p.line + 1, 0, false⟩
  else ⟨p.line, p.column + 1, false⟩

def behind (p : Place) (cs : List Char) : Place :=
  cs.foldl next p

theorem behind_append (p : Place) (xs ys : List Char) :
    p.behind (xs ++ ys) = (p.behind xs).behind ys :=
  List.foldl_append

end Place

/-! ## Encodings that are refused -/

inductive EncodingRefusal where
  | unknown
  /-- A code for octets and not for characters. -/
  | notText
  /-- A character may take several octets. -/
  | multiOctet
  /-- A code for the labels of host names. -/
  | labels
  /-- A code that reads nothing at all. -/
  | void
  /-- A code that holds ASCII only. -/
  | asciiOnly
  deriving DecidableEq, Repr

/-! ## Flaws -/

inductive Flaw where
  /-- A character that cannot stand where it does. -/
  | invalidToken
  /-- The text ends inside a token. -/
  | unclosedToken
  /-- The text ends inside a character. -/
  | partialCharacter
  /-- An end tag that does not fit the open element. -/
  | mismatchedTag
  | duplicateAttribute
  | undefinedEntity
  /-- An entity whose text refers to itself. -/
  | recursiveEntity
  /-- An entity that opens an element it does not close, or closes one it did not open. -/
  | straddlingEntity
  /-- A reference to an entity that is no text. -/
  | binaryEntity
  /-- A reference in an attribute to an entity outside the document. -/
  | outerEntity
  /-- A reference to a parameter inside a declaration. -/
  | strayParameter
  | badPublicName
  /-- Entities that make far more text of a document than it holds. -/
  | amplification
  /-- A reference to no character of a document. -/
  | badCharacterNumber
  /-- The text ends before the root element does. -/
  | noElement
  | junkAfterRoot
  /-- A token that cannot stand where it does. -/
  | unexpectedToken
  | misplacedDeclaration
  | badDeclaration
  | unclosedSection
  /-- The declaration names an encoding that is not the one of the text. -/
  | wrongEncoding
  /-- The declaration names an encoding that does not keep the characters of tags. -/
  | unfitEncoding
  | refusedEncoding (name : String) (why : EncodingRefusal)
  deriving DecidableEq, Repr

def Flaw.message : Flaw → String
  | .invalidToken => "not well-formed (invalid token)"
  | .unclosedToken => "unclosed token"
  | .partialCharacter => "partial character"
  | .mismatchedTag => "mismatched tag"
  | .duplicateAttribute => "duplicate attribute"
  | .undefinedEntity => "undefined entity"
  | .recursiveEntity => "recursive entity reference"
  | .straddlingEntity => "asynchronous entity"
  | .binaryEntity => "reference to binary entity"
  | .outerEntity => "reference to external entity in attribute"
  | .strayParameter => "illegal parameter entity reference"
  | .badPublicName => "illegal character(s) in public id"
  | .amplification =>
      "limit on input amplification factor (from DTD and entities) breached"
  | .badCharacterNumber => "reference to invalid character number"
  | .noElement => "no element found"
  | .junkAfterRoot => "junk after document element"
  | .unexpectedToken => "syntax error"
  | .misplacedDeclaration => "XML or text declaration not at start of entity"
  | .badDeclaration => "XML declaration not well-formed"
  | .unclosedSection => "unclosed CDATA section"
  | .wrongEncoding => "encoding specified in XML declaration is incorrect"
  | .unfitEncoding => "unknown encoding"
  | .refusedEncoding _ _ => "unknown encoding"

structure Stop where
  flaw : Flaw
  place : Place
  deriving DecidableEq, Repr

def Stop.message (s : Stop) : String :=
  s.flaw.message ++ ": line " ++ Text.decimal s.place.line ++ ", column " ++
    Text.decimal s.place.column

end Xml
end EngineClient
