import EngineClient.Xml.Tag

/-!
# Content

The tokens between the start tag and the end tag of an element: tags, text, references,
comments, instructions, and sections in which nothing but their end is a token. Every
line end in a text is read as a line feed.
-/

namespace EngineClient
namespace Xml

/-! ## Tokens of content -/

structure Bounds where
  /-- The fewest octets of a character. -/
  least : Nat := 1
  /-- How many octets the text takes. -/
  size : Nat
  deriving Repr

inductive ContentToken where
  | start (t : Tag)
  /-- An end tag, with the offset of its name. -/
  | stop (name : List Char) (offset : Nat)
  | text (cs : List Char)
  | reference (r : Reference)
  /-- A comment or an instruction. -/
  | note
  | declaration
  /-- The head of a section of plain text. -/
  | plainStart
  deriving Repr

inductive Pause where
  /-- Its text ends between two tokens. -/
  | ended
  /-- Its text ends with characters that others could change. -/
  | trailing (cs : List Char)
  /-- Its text ends in a section of plain text. -/
  | inPlain
  | halted (h : Halt)
  deriving Repr

/-! ## Text -/

def endsRun (c : Char) : Bool :=
  c == '<' || c == '&' || c == '\r' || c == '\n'

/-- Reads a run of text; what was read comes last first. The brackets that end a section
are refused. -/
def scanRun (read : List Char) : List Glyph → Scan (List Char)
  | [] => .ok (read.reverse, [])
  | g :: gs =>
      match g.char? with
      | none => .ok (read.reverse, g :: gs)
      | some c =>
          if endsRun c then .ok (read.reverse, g :: gs)
          else if c = ']' then
            match gs with
            | [] => .ok (read.reverse, g :: gs)
            | h :: after =>
                if h.is ']' then
                  match after with
                  | [] => .ok (read.reverse, g :: gs)
                  | i :: _ =>
                      if i.is '>' then .error (.invalid i.offset) else scanRun (c :: read) gs
                else scanRun (c :: read) gs
          else scanRun (c :: read) gs

def skipLineFeed : List Glyph → List Glyph
  | [] => []
  | g :: gs => if g.is '\n' then gs else g :: gs

/-! ## Markup -/

/-- The word that begins a section of plain text, behind its first bracket. -/
def plainWord : List Char := "CDATA[".toList

/-- Reads the head of a section of plain text behind its first bracket; it is not judged
before the text has room for it. -/
def scanPlainStart (b : Bounds) (gs : List Glyph) : Scan Unit :=
  if b.size < offsetOf b.size gs + plainWord.length * b.least then .error .unfinished
  else scanWord plainWord gs

def scanMarkup (b : Bounds) (gs : List Glyph) : Scan ContentToken :=
  match gs with
  | [] => .error .unfinished
  | g :: after =>
      if g.is '!' then
        match after with
        | [] => .error .unfinished
        | h :: rest =>
            if h.is '-' then (scanCommentStart rest).map fun (_, rest) => (.note, rest)
            else if h.is '[' then (scanPlainStart b rest).map fun (_, rest) => (.plainStart, rest)
            else .error (.invalid h.offset)
      else if g.is '?' then
        (scanInstruction after).map fun (i, rest) =>
          match i with
          | .other => (.note, rest)
          | .declaration _ => (.declaration, rest)
      else if g.is '/' then
        (scanEndTag after).map fun (name, rest) => (.stop name (offsetOf b.size after), rest)
      else (scanStartTag gs).map fun (t, rest) => (.start t, rest)

def Scan.toToken (s : Scan ContentToken) : Except Pause (ContentToken × List Glyph) :=
  s.mapError Pause.halted

def scanBracket (gs : List Glyph) : Except Pause (ContentToken × List Glyph) :=
  match gs with
  | [] => .error (.trailing [']'])
  | g :: after =>
      if g.is ']' && after.isEmpty then .error (.trailing [']', ']'])
      else if g.is ']' && after.head?.any (·.is '>') then .error (.halted (.before after))
      else Scan.toToken ((scanRun [']'] gs).map fun (cs, rest) => (.text cs, rest))

def scanContent (b : Bounds) : List Glyph → Except Pause (ContentToken × List Glyph)
  | [] => .error .ended
  | g :: gs =>
      match g.char? with
      | none => .error (.halted (.beforeText (g :: gs)))
      | some c =>
          if c = '<' then Scan.toToken (scanMarkup b gs)
          else if c = '&' then
            Scan.toToken ((scanReference gs).map fun (r, rest) => (.reference r, rest))
          else if c = '\n' then .ok (.text ['\n'], gs)
          else if c = '\r' then
            if gs.isEmpty then .error (.trailing ['\n'])
            else .ok (.text ['\n'], skipLineFeed gs)
          else if c = ']' then scanBracket gs
          else Scan.toToken ((scanRun [c] gs).map fun (cs, rest) => (.text cs, rest))

/-! ## Sections of plain text -/

inductive PlainToken where
  | text (cs : List Char)
  | stop
  deriving Repr

def endsPlainRun (g : Glyph) : Bool :=
  !g.isText || g.is '\r' || g.is '\n' || g.is ']'

def scanPlainRun (first : List Char) (gs : List Glyph) : PlainToken × List Glyph :=
  (.text (first ++ lettersOf (gs.takeWhile (!endsPlainRun ·))), gs.dropWhile (!endsPlainRun ·))

def scanPlain : List Glyph → Scan PlainToken
  | [] => .error .unfinished
  | g :: gs =>
      match g.char? with
      | none => .error (.beforeText (g :: gs))
      | some c =>
          if c = '\n' then .ok (.text ['\n'], gs)
          else if c = '\r' then
            if gs.isEmpty then .error .unfinished else .ok (.text ['\n'], skipLineFeed gs)
          else if c = ']' then
            match gs with
            | [] => .error .unfinished
            | h :: after =>
                if h.is ']' then
                  match after with
                  | [] => .error .unfinished
                  | i :: rest =>
                      if i.is '>' then .ok (.stop, rest) else .ok (scanPlainRun [c] gs)
                else .ok (scanPlainRun [c] gs)
          else .ok (scanPlainRun [c] gs)

end Xml
end EngineClient
