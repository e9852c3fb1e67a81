import EngineClient.Fault
import EngineClient.Number.Literal
import EngineClient.Text.Line

/-!
# Heads of responses

The status line and the headers of a response, read from octets taken as the first 256
characters. Interim responses before the final one are skipped.
-/

namespace EngineClient
namespace Http

structure Head where
  version : String
  status : Nat
  reason : String
  headers : List (String × String) := []
  deriving DecidableEq, Repr

abbrev Reading := Except HttpError

/-! ## Lines -/

def maxLine : Nat := 65536

def maxHeaders : Nat := 100

def readLine (what : String) (cs : List Char) : Reading (List Char × List Char) :=
  let (line, rest) := Text.splitLine cs
  if maxLine < line.length then .error (.lineTooLong what) else .ok (line, rest)

/-- A line that ends the headers; so does the end of the text. -/
def isBlankLine (line : List Char) : Bool :=
  line == [] || line == ['\n'] || line == ['\r', '\n']

/-- The header lines up to the blank line, and what follows it; with the blank line there
may be `room` of them. -/
def readHeaderLines : (room : Nat) → List Char → Reading (List (List Char) × List Char)
  | room, cs => do
      let (line, rest) ← readLine "header line" cs
      match room with
      | 0 => .error (.general ("got more than " ++ Text.decimal maxHeaders ++ " headers"))
      | room + 1 =>
          if isBlankLine line then return ([], rest)
          else
            let (lines, rest) ← readHeaderLines room rest
            return (line :: lines, rest)

/-! ## Headers -/

def isHeaderNameChar (c : Char) : Bool :=
  0x21 ≤ c.toNat && c.toNat ≤ 0x7E && c != ':'

def isIndent (c : Char) : Bool :=
  c == ' ' || c == '\t'

def withoutLineEnds (cs : List Char) : List Char :=
  (cs.reverse.dropWhile (· == '\n')).reverse

/-- The headers of lines; an indented line goes on with the header before it, a line of a
mail envelope is skipped, and any other line that is no header ends them. -/
def headersOf : List (List Char) → List (String × String)
  | [] => []
  | line :: lines =>
      let name := line.takeWhile isHeaderNameChar
      match line.dropWhile isHeaderNameChar with
      | ':' :: value =>
          let more := lines.takeWhile fun l => l.head?.any isIndent
          let value := withoutLineEnds (value.dropWhile isIndent ++ more.flatten)
          let rest := headersOf lines
          if name.isEmpty then rest else (String.ofList name, String.ofList value) :: rest
      | c :: _ =>
          if (name.isEmpty && isIndent c) || (name = "From".toList && c = ' ') then
            headersOf lines
          else []
      | [] => []

/-- The headers of a text. There a carriage return alone ends a line too. -/
def headersOfText (cs : List Char) : List (String × String) :=
  headersOf (Text.lines (Text.unifyLineEnds cs))

def Head.values (h : Head) (name : String) : List String :=
  (h.headers.filter fun e => e.1.toList.map Char.toLower == name.toList).map (·.2)

def Head.header? (h : Head) (name : String) : Option String :=
  (h.values name).head?

def Head.joined (h : Head) (name : String) : String :=
  String.intercalate ", " (h.values name)

/-! ## Status lines -/

def nextWord (cs : List Char) : List Char × List Char :=
  let cs := cs.dropWhile Text.isBlank
  (cs.takeWhile fun c => !Text.isBlank c,
    (cs.dropWhile fun c => !Text.isBlank c).dropWhile Text.isBlank)

def statusOf? (cs : List Char) : Option Nat :=
  match Literal.integer cs with
  | .ok i => if 100 ≤ i ∧ i ≤ 999 then some i.toNat else none
  | .error _ => none

/-- The head that a status line begins. Without a reason the status is all that follows the
version, with the blanks at the end of the line. -/
def readStatusLine (line : List Char) : Reading Head :=
  let (version, rest) := nextWord line
  let (word, reason) := nextWord rest
  let status := if reason.isEmpty then rest else word
  if !"HTTP/".toList.isPrefixOf version then .error (.badStatusLine (String.ofList line))
  else
    match statusOf? status with
    | none => .error (.badStatusLine (String.ofList line))
    | some status =>
        .ok { version := String.ofList version, status
              reason := Text.trim (String.ofList reason) }

def isKnownVersion (version : String) : Bool :=
  version == "HTTP/0.9" || "HTTP/1.".toList.isPrefixOf version.toList

/-! ## Heads -/

/-- The head of the final response, and what follows it; `budget` bounds the number of
interim responses. The peer may have closed the connection before it sent one. -/
def readHead : (budget : Nat) → List Char → Except Fault (Head × List Char)
  | 0, _ => .error (.disconnected "Remote end closed connection without response")
  | budget + 1, cs =>
      if cs.isEmpty then .error (.disconnected "Remote end closed connection without response")
      else do
        let (line, rest) ← (readLine "status line" cs).mapError Fault.http
        let head ← (readStatusLine line).mapError Fault.http
        if head.status = 100 then
          let (_, rest) ← (readHeaderLines maxHeaders rest).mapError Fault.http
          readHead budget rest
        else if isKnownVersion head.version then
          let (lines, rest) ← (readHeaderLines maxHeaders rest).mapError Fault.http
          return ({ head with headers := headersOfText lines.flatten }, rest)
        else throw (.http (.unknownProtocol head.version))

end Http
end EngineClient
