/-!
# Words of a shell line

A line is split into words at white space. Single quotes keep everything between them;
double quotes keep everything but a backslash before a double quote or a backslash;
outside quotes a backslash keeps the next character. Beside the splitter stands the
quoting that it undoes.
-/

namespace EngineClient
namespace Shell

inductive SplitError where
  | openQuotation
  | openEscape
  deriving DecidableEq, Repr

def SplitError.message : SplitError → String
  | .openQuotation => "No closing quotation"
  | .openEscape => "No escaped character"

inductive SplitMode where
  | between
  | word
  | singleQuoted
  | doubleQuoted
  deriving DecidableEq, Repr

def isWordSpace (c : Char) : Bool :=
  c == ' ' || c == '\t' || c == '\r' || c == '\n'

/-- Splits the rest of a line; `done` holds the characters of the word being read, last
one first. -/
def scan : SplitMode → (done : List Char) → List Char → Except SplitError (List (List Char))
  | .between, _, [] => .ok []
  | .word, done, [] => .ok [done.reverse]
  | .singleQuoted, _, [] => .error .openQuotation
  | .doubleQuoted, _, [] => .error .openQuotation
  | .singleQuoted, done, c :: cs =>
      if c = '\'' then scan .word done cs else scan .singleQuoted (c :: done) cs
  | .doubleQuoted, _, ['\\'] => .error .openEscape
  | .doubleQuoted, done, '\\' :: c :: cs =>
      scan .doubleQuoted (if c = '"' ∨ c = '\\' then c :: done else c :: '\\' :: done) cs
  | .doubleQuoted, done, c :: cs =>
      if c = '"' then scan .word done cs else scan .doubleQuoted (c :: done) cs
  | .between, _, ['\\'] => .error .openEscape
  | .word, _, ['\\'] => .error .openEscape
  | .between, _, '\\' :: c :: cs => scan .word [c] cs
  | .word, done, '\\' :: c :: cs => scan .word (c :: done) cs
  | .between, done, c :: cs =>
      if isWordSpace c then scan .between done cs
      else if c = '\'' then scan .singleQuoted [] cs
      else if c = '"' then scan .doubleQuoted [] cs
      else scan .word [c] cs
  | .word, done, c :: cs =>
      if isWordSpace c then (scan .between [] cs).map (done.reverse :: ·)
      else if c = '\'' then scan .singleQuoted done cs
      else if c = '"' then scan .doubleQuoted done cs
      else scan .word (c :: done) cs

def split (line : String) : Except SplitError (List String) :=
  (scan .between [] line.toList).map fun ws => ws.map String.ofList

/-! ## Quoting -/

/-- A character inside single quotes; a single quote ends them and stands in double
quotes. -/
def quoteWordChar (c : Char) : List Char :=
  if c = '\'' then ['\'', '"', '\'', '"', '\''] else [c]

def quoteWord (w : List Char) : List Char :=
  '\'' :: w.flatMap quoteWordChar ++ ['\'']

def quoteWords (ws : List String) : String :=
  String.ofList (List.intercalate [' '] (ws.map fun w => quoteWord w.toList))

end Shell
end EngineClient
