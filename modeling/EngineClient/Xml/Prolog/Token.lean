import EngineClient.Xml.Scan

/-!
# Tokens of the prolog

What stands before the root element is cut into names, literals, marks and the heads of
declarations. A token that ends with the text may go on with more of it, which is why a
token tells whether it is still open.
-/

namespace EngineClient
namespace Xml

inductive Markup where
  | space
  /-- A comment or an instruction. -/
  | note
  | declaration (body : List Glyph)
  /-- The head of a declaration in the document type. -/
  | head (keyword : List Char)
  /-- The bracket that ends a declaration. -/
  | close
  | name (cs : List Char)
  /-- A name with a mark that says how often it occurs. -/
  | countedName
  /-- A run of the characters of names that is no name. -/
  | word
  | literal (value : List Glyph)
  | openBracket
  | closeBracket
  | openParen
  /-- A closing parenthesis, with the mark behind it. -/
  | closeParen (mark? : Option Char)
  | comma
  | bar
  | percent
  /-- A reference to a parameter. -/
  | parameter
  /-- A name behind a number sign. -/
  | keyword (cs : List Char)
  /-- The angle bracket of the root element, which stays to be read. -/
  | root
  /-- A mark that no declaration has. -/
  | stray
  deriving Repr

/-- A token, the glyphs behind it, and whether more text could change it. -/
structure Lexeme where
  token : Markup
  rest : List Glyph
  isOpen : Bool := false
  deriving Repr

def complete (token : Markup) (rest : List Glyph) : Except Halt Lexeme :=
  .ok { token, rest }

def lastly (token : Markup) : Except Halt Lexeme :=
  .ok { token, rest := [], isOpen := true }

/-! ## Space -/

/-- Skips space; a carriage return that ends the text is left, since a line feed may
follow it. -/
def skipClosedSpace : List Glyph → List Glyph
  | [] => []
  | g :: gs => if g.isSpace && !(g.is '\r' && gs.isEmpty) then skipClosedSpace gs else g :: gs

/-! ## Names and literals -/

def comesNext (cs : List Char) (gs : List Glyph) : Bool :=
  gs.head?.any fun g => g.char?.any (cs.contains ·)

def spaces : List Char := [' ', '\t', '\n', '\r']

def scanNameEnd (token : Markup) (isName : Bool) (rest : List Glyph) : Except Halt Lexeme :=
  if rest.isEmpty then lastly token
  else if comesNext (['>', ')', ',', '|', '[', '%'] ++ spaces) rest then complete token rest
  else if isName && comesNext ['?', '*', '+'] rest then complete .countedName rest.tail
  else .error (.beforeText rest)

def scanWordLike (gs : List Glyph) : Except Halt Lexeme :=
  let rest := gs.dropWhile Glyph.isNameChar
  if gs.head?.any Glyph.isNameStart then
    scanNameEnd (.name (lettersOf (gs.takeWhile Glyph.isNameChar))) true rest
  else if gs.head?.any Glyph.isNameChar then scanNameEnd .word false rest
  else .error (.beforeText gs)

/-- Reads a literal to its closing quote; what was read comes last first. Only a few
characters may stand behind it. -/
def scanLiteral (quote : Char) (read : List Glyph) : List Glyph → Except Halt Lexeme
  | [] => .error .unfinished
  | g :: gs =>
      if g.is quote then
        if gs.isEmpty then lastly (.literal read.reverse)
        else if comesNext (['>', '%', '['] ++ spaces) gs then complete (.literal read.reverse) gs
        else .error (.before gs)
      else if g.isText then scanLiteral quote (g :: read) gs
      else .error (.beforeText (g :: gs))

/-! ## Marks with names -/

/-- Reads behind a percent sign: a reference, or the sign alone. -/
def scanPercent (gs : List Glyph) : Except Halt Lexeme :=
  if comesNext ('%' :: spaces) gs then complete .percent gs
  else
    match scanName gs with
    | .error h => .error h
    | .ok (_, []) => .error .unfinished
    | .ok (_, g :: rest) =>
        if g.is ';' then complete .parameter rest else .error (.beforeText (g :: rest))

def scanKeyword (gs : List Glyph) : Except Halt Lexeme :=
  match scanName gs with
  | .error h => .error h
  | .ok (name, rest) =>
      if rest.isEmpty then lastly (.keyword name)
      else if comesNext ([')', '>', '%', '|'] ++ spaces) rest then complete (.keyword name) rest
      else .error (.beforeText rest)

/-! ## Brackets -/

def scanHead (gs : List Glyph) : Except Halt Lexeme :=
  let rest := gs.dropWhile Glyph.isKeywordChar
  let token := Markup.head (lettersOf (gs.takeWhile Glyph.isKeywordChar))
  if comesNext ['%'] rest then
    if rest.tail.isEmpty then .error .unfinished
    else if comesNext ('%' :: spaces) rest.tail then .error (.before rest)
    else complete token rest
  else if comesNext spaces rest then complete token rest
  else .error (.before rest)

def scanBang (gs : List Glyph) : Except Halt Lexeme :=
  match gs with
  | [] => .error .unfinished
  | g :: after =>
      if g.is '-' then (scanCommentStart after).map fun (_, rest) => { token := .note, rest }
      else if g.is '[' then complete .stray after
      else if g.isKeywordChar then scanHead gs
      else .error (.invalid g.offset)

/-- Reads behind an angle bracket; `start` are the glyphs from the bracket on. -/
def scanAngle (start gs : List Glyph) : Except Halt Lexeme :=
  match gs with
  | [] => .error .unfinished
  | g :: after =>
      if g.is '!' then scanBang after
      else if g.is '?' then
        (scanInstruction after).map fun (i, rest) =>
          match i with
          | .other => { token := .note, rest }
          | .declaration body => { token := .declaration body, rest }
      else if g.looksLikeName then complete .root start
      else .error (.invalid g.offset)

def scanCloseBracket (gs : List Glyph) : Except Halt Lexeme :=
  if gs.isEmpty then lastly .closeBracket
  else if comesNext [']'] gs then
    if gs.tail.isEmpty then .error .unfinished
    else if comesNext ['>'] gs.tail then complete .stray gs.tail.tail
    else complete .closeBracket gs
  else complete .closeBracket gs

def scanCloseParen (gs : List Glyph) : Except Halt Lexeme :=
  if gs.isEmpty then lastly (.closeParen none)
  else if comesNext ['*', '?', '+'] gs then
    complete (.closeParen (gs.head?.bind Glyph.char?)) gs.tail
  else if comesNext (['>', ',', '|', ')'] ++ spaces) gs then complete (.closeParen none) gs
  else .error (.before gs)

/-! ## Tokens -/

def scanMark (c : Char) (start gs : List Glyph) : Except Halt Lexeme :=
  match c with
  | '"' => scanLiteral '"' [] gs
  | '\'' => scanLiteral '\'' [] gs
  | '<' => scanAngle start gs
  | '%' => scanPercent gs
  | ',' => complete .comma gs
  | '[' => complete .openBracket gs
  | ']' => scanCloseBracket gs
  | '(' => complete .openParen gs
  | ')' => scanCloseParen gs
  | '|' => complete .bar gs
  | '>' => complete .close gs
  | '#' => scanKeyword gs
  | _ => scanWordLike start

/-- Reads the next token of the prolog; there is none at the end of the text. -/
def scanMarkupToken : List Glyph → Except Halt (Option Lexeme)
  | [] => .ok none
  | g :: gs =>
      if g.is '\r' && gs.isEmpty then (lastly .space).map some
      else if g.isSpace then (complete .space (skipClosedSpace gs)).map some
      else
        match g.char? with
        | some c => (scanMark c (g :: gs) gs).map some
        | none => .error (.beforeText (g :: gs))

end Xml
end EngineClient
