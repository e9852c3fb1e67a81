import EngineClient.Number.Literal

/-!
# Characters of settings files

What may stand where in a settings file, and what is skipped between its tokens. A
file that breaks a rule is malformed as a whole; only an oversized integer and values
that nest too deeply are told apart.
-/

namespace EngineClient
namespace Toml

inductive TomlError where
  | malformed
  /-- A decimal integer with more digits than an integer literal may have. -/
  | longInteger (digits : Nat)
  /-- A value within more arrays and tables than can be read one inside the other. -/
  | tooDeep
  deriving DecidableEq, Repr

/-- The result of reading; most steps give what they read and the text that follows. -/
abbrev Reading := Except TomlError

/-! ## Character classes -/

def isSpace (c : Char) : Bool :=
  c == ' ' || c == '\t'

def isSpaceOrLineEnd (c : Char) : Bool :=
  isSpace c || c == '\n'

def isBareKeyChar (c : Char) : Bool :=
  c.isAlphanum || c == '-' || c == '_'

def isKeyStart (c : Char) : Bool :=
  isBareKeyChar c || c == '"' || c == '\''

def isControl (c : Char) : Bool :=
  (c.toNat < 32 && c != '\t') || c.toNat == 127

/-- A control character that a text of several lines may not hold. -/
def isControlInLines (c : Char) : Bool :=
  isControl c && c != '\n'

/-! ## Skipping -/

def skipSpace (cs : List Char) : List Char :=
  cs.dropWhile isSpace

def skipComment (cs : List Char) : Reading (List Char) :=
  match cs with
  | '#' :: cs =>
      if (cs.takeWhile (· != '\n')).any isControl then .error .malformed
      else .ok (cs.dropWhile (· != '\n'))
  | cs => .ok cs

def skipBetweenItems : (budget : Nat) → List Char → Reading (List Char)
  | 0, cs => .ok cs
  | budget + 1, cs =>
      match cs.dropWhile isSpaceOrLineEnd with
      | '#' :: cs =>
          match skipComment ('#' :: cs) with
          | .ok cs => skipBetweenItems budget cs
          | .error e => .error e
      | cs => .ok cs

def afterWord? : (word : List Char) → List Char → Option (List Char)
  | [], cs => some cs
  | _ :: _, [] => none
  | w :: word, c :: cs => if w = c then afterWord? word cs else none

end Toml
end EngineClient
