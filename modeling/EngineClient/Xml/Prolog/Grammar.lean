import EngineClient.Xml.Prolog.Token

/-!
# The grammar of the prolog

Which tokens may follow each other before the root element, as a machine whose states are
the places in a declaration. A token that has no place refuses the document; one that has
says what it means there.
-/

namespace EngineClient
namespace Xml

/-! ## States -/

inductive PrologState where
  /-- At the start of the document. -/
  | fresh
  /-- Before the document type. -/
  | leading
  /-- Behind the document type. -/
  | typed
  | typeName
  | typeSource
  | typePublic
  | typeSystem
  | typeSubset
  | typeEnd
  /-- Between the declarations of the document type. -/
  | subset
  | entityName
  | parameterName
  | entityValue (parameter : Bool)
  | entityPublic (parameter : Bool)
  | entitySystem (parameter : Bool)
  | entityData
  | entityNotation
  | notationName
  | notationSource
  | notationPublic
  | notationSystem
  | notationEnd
  | attributeElement
  | attributeName
  | attributeType
  /-- In a group of values: before one of them, or behind it. -/
  | choice (behind : Bool)
  | notations
  | notationChoice (behind : Bool)
  | attributeDefault
  | attributeFixed
  | elementName
  | elementContent
  | groupStart
  /-- In a group of text and elements: behind the text, before or behind a name. -/
  | mixedText
  | mixedName
  | mixedEnd
  /-- In so many groups of elements, before or behind one of them. -/
  | particle (depth : Nat)
  | particleEnd (depth : Nat)
  /-- Before the bracket that ends a declaration. -/
  | closing
  deriving DecidableEq, Repr

/-! ## Roles -/

inductive Role where
  | nothing
  /-- The document type names a part outside the document. -/
  | outerType
  /-- The public name of something. -/
  | publicName (value : List Glyph)
  /-- The public name of the document type. -/
  | outerTypeName (value : List Glyph)
  | entity (name : List Char)
  | parameter
  | entityValue (value : List Glyph)
  | dataFormat
  | attributeDefault (value : List Glyph)
  | groupStart
  | groupEnd
  | sequence
  | alternative
  | parameterReference
  | root
  deriving Repr

/-- What a token makes of a place: the next place, and what the token means. -/
abbrev Turn := Option (PrologState × Role)

def turn (s : PrologState) : Turn :=
  some (s, .nothing)

/-! ## Turns -/

namespace PrologState

def stepOutside (s : PrologState) (m : Markup) : Turn :=
  match m with
  | .space => turn (if s = .fresh then .leading else s)
  | .note => turn (if s = .fresh then .leading else s)
  | .head keyword =>
      if keyword = "DOCTYPE".toList ∧ s ≠ .typed then turn .typeName else none
  | .root => some (s, .root)
  | _ => none

def stepType (s : PrologState) (m : Markup) : Turn :=
  match s, m with
  | .typeName, .name _ => turn .typeSource
  | .typeSource, .openBracket => turn .subset
  | .typeSource, .close => turn .typed
  | .typeSource, .name cs =>
      if cs = "SYSTEM".toList then turn .typeSystem
      else if cs = "PUBLIC".toList then turn .typePublic
      else none
  | .typePublic, .literal value => some (.typeSystem, .outerTypeName value)
  | .typeSystem, .literal _ => some (.typeSubset, .outerType)
  | .typeSubset, .openBracket => turn .subset
  | .typeSubset, .close => turn .typed
  | .typeEnd, .close => turn .typed
  | _, _ => none

def stepSubset (m : Markup) : Turn :=
  match m with
  | .note => turn .subset
  | .parameter => some (.subset, .parameterReference)
  | .closeBracket => turn .typeEnd
  | .head keyword =>
      if keyword = "ENTITY".toList then turn .entityName
      else if keyword = "ATTLIST".toList then turn .attributeElement
      else if keyword = "ELEMENT".toList then turn .elementName
      else if keyword = "NOTATION".toList then turn .notationName
      else none
  | _ => none

def stepEntity (s : PrologState) (m : Markup) : Turn :=
  match s, m with
  | .entityName, .percent => turn .parameterName
  | .entityName, .name cs => some (.entityValue false, .entity cs)
  | .parameterName, .name _ => some (.entityValue true, .parameter)
  | .entityValue parameter, .name cs =>
      if cs = "SYSTEM".toList then turn (.entitySystem parameter)
      else if cs = "PUBLIC".toList then turn (.entityPublic parameter)
      else none
  | .entityValue _, .literal value => some (.closing, .entityValue value)
  | .entityPublic parameter, .literal value =>
      some (.entitySystem parameter, .publicName value)
  | .entitySystem parameter, .literal _ => turn (if parameter then .closing else .entityData)
  | .entityData, .close => turn .subset
  | .entityData, .name cs => if cs = "NDATA".toList then turn .entityNotation else none
  | .entityNotation, .name _ => some (.closing, .dataFormat)
  | _, _ => none

def stepNotation (s : PrologState) (m : Markup) : Turn :=
  match s, m with
  | .notationName, .name _ => turn .notationSource
  | .notationSource, .name cs =>
      if cs = "SYSTEM".toList then turn .notationSystem
      else if cs = "PUBLIC".toList then turn .notationPublic
      else none
  | .notationPublic, .literal value => some (.notationEnd, .publicName value)
  | .notationSystem, .literal _ => turn .closing
  | .notationEnd, .literal _ => turn .closing
  | .notationEnd, .close => turn .subset
  | _, _ => none

def attributeTypes : List String :=
  ["CDATA", "ID", "IDREF", "IDREFS", "ENTITY", "ENTITIES", "NMTOKEN", "NMTOKENS"]

def stepAttributes (s : PrologState) (m : Markup) : Turn :=
  match s, m with
  | .attributeElement, .name _ => turn .attributeName
  | .attributeName, .close => turn .subset
  | .attributeName, .name _ => turn .attributeType
  | .attributeType, .name cs =>
      if attributeTypes.contains (String.ofList cs) then turn .attributeDefault
      else if cs = "NOTATION".toList then turn .notations
      else none
  | .attributeType, .openParen => turn (.choice false)
  | .choice false, .word => turn (.choice true)
  | .choice false, .name _ => turn (.choice true)
  | .choice true, .closeParen none => turn .attributeDefault
  | .choice true, .bar => turn (.choice false)
  | .notations, .openParen => turn (.notationChoice false)
  | .notationChoice false, .name _ => turn (.notationChoice true)
  | .notationChoice true, .closeParen none => turn .attributeDefault
  | .notationChoice true, .bar => turn (.notationChoice false)
  | .attributeDefault, .keyword cs =>
      if cs = "IMPLIED".toList ∨ cs = "REQUIRED".toList then turn .attributeName
      else if cs = "FIXED".toList then turn .attributeFixed
      else none
  | .attributeDefault, .literal value => some (.attributeName, .attributeDefault value)
  | .attributeFixed, .literal value => some (.attributeName, .attributeDefault value)
  | _, _ => none

def closeGroup (depth : Nat) : Turn :=
  some (if depth = 1 then .closing else .particleEnd (depth - 1), .groupEnd)

def stepElement (s : PrologState) (m : Markup) : Turn :=
  match s, m with
  | .elementName, .name _ => turn .elementContent
  | .elementContent, .name cs =>
      if cs = "EMPTY".toList ∨ cs = "ANY".toList then turn .closing else none
  | .elementContent, .openParen => some (.groupStart, .groupStart)
  | .groupStart, .keyword cs => if cs = "PCDATA".toList then turn .mixedText else none
  | .groupStart, .openParen => some (.particle 2, .groupStart)
  | .groupStart, .name _ => turn (.particleEnd 1)
  | .groupStart, .countedName => turn (.particleEnd 1)
  | .mixedText, .closeParen none => some (.closing, .groupEnd)
  | .mixedText, .closeParen (some '*') => some (.closing, .groupEnd)
  | .mixedText, .bar => turn .mixedName
  | .mixedName, .name _ => turn .mixedEnd
  | .mixedEnd, .closeParen (some '*') => some (.closing, .groupEnd)
  | .mixedEnd, .bar => turn .mixedName
  | .particle depth, .openParen => some (.particle (depth + 1), .groupStart)
  | .particle depth, .name _ => turn (.particleEnd depth)
  | .particle depth, .countedName => turn (.particleEnd depth)
  | .particleEnd depth, .closeParen _ => closeGroup depth
  | .particleEnd depth, .comma => some (.particle depth, .sequence)
  | .particleEnd depth, .bar => some (.particle depth, .alternative)
  | _, _ => none

/-- What a token makes of a place, if it may stand there. Space stands anywhere. -/
def step (s : PrologState) (m : Markup) : Turn :=
  match s with
  | .fresh => s.stepOutside m
  | .leading => s.stepOutside m
  | .typed => s.stepOutside m
  | s =>
      match m with
      | .space => turn s
      | m =>
          match s with
          | .subset => stepSubset m
          | .closing => if m matches .close then turn .subset else none
          | s =>
              (s.stepType m).or <| (s.stepEntity m).or <| (s.stepNotation m).or <|
                (s.stepAttributes m).or (s.stepElement m)

end PrologState
end Xml
end EngineClient
