import EngineClient.Toml.Lexical

/-!
# Texts of settings files

Texts between quotes, on one line or on several. Between double quotes a backslash
starts an escape; between single quotes every character stands for itself. Steps work
on a budget of the length of the text, which no text exhausts.
-/

namespace EngineClient
namespace Toml

/-! ## Escapes -/

/-- The character of a code point, unless it is no character. -/
def characterOf? (n : Nat) : Option Char :=
  if n < 0xD800 ∨ (0xE000 ≤ n ∧ n < 0x110000) then some (Char.ofNat n) else none

def readCodePoint (width : Nat) (cs : List Char) : Reading (Char × List Char) :=
  let digits := cs.take width
  match digits.mapM Text.hexValue? with
  | some ds =>
      if ds.length = width then
        match characterOf? (ds.foldl (fun n d => n * 16 + d) 0) with
        | some c => .ok (c, cs.drop width)
        | none => .error .malformed
      else .error .malformed
  | none => .error .malformed

def readEscape (cs : List Char) : Reading (Char × List Char) :=
  match cs with
  | 'b' :: cs => .ok (Char.ofNat 8, cs)
  | 't' :: cs => .ok ('\t', cs)
  | 'n' :: cs => .ok ('\n', cs)
  | 'f' :: cs => .ok (Char.ofNat 12, cs)
  | 'r' :: cs => .ok ('\r', cs)
  | '"' :: cs => .ok ('"', cs)
  | '\\' :: cs => .ok ('\\', cs)
  | 'u' :: cs => readCodePoint 4 cs
  | 'U' :: cs => readCodePoint 8 cs
  | _ => .error .malformed

/-- What follows a backslash at the end of a line: space up to the line end, then all
space and line ends. At the end of the file nothing follows. -/
def skipLineEnd (cs : List Char) : Reading (List Char) :=
  match skipSpace cs with
  | [] => .ok []
  | '\n' :: cs => .ok (cs.dropWhile isSpaceOrLineEnd)
  | _ => .error .malformed

/-! ## Texts with escapes -/

def readBasic : (budget : Nat) → List Char → Reading (List Char × List Char)
  | 0, _ => .error .malformed
  | _ + 1, [] => .error .malformed
  | _ + 1, '"' :: cs => .ok ([], cs)
  | budget + 1, '\\' :: cs => do
      let (c, cs) ← readEscape cs
      let (rest, cs) ← readBasic budget cs
      return (c :: rest, cs)
  | budget + 1, c :: cs =>
      if isControl c then .error .malformed
      else do
        let (rest, cs) ← readBasic budget cs
        return (c :: rest, cs)

/-- The characters of a text on several lines up to its three closing quotes. -/
def readBasicLines : (budget : Nat) → List Char → Reading (List Char × List Char)
  | 0, _ => .error .malformed
  | _ + 1, [] => .error .malformed
  | _ + 1, '"' :: '"' :: '"' :: cs => .ok ([], cs)
  | budget + 1, '\\' :: c :: cs =>
      if isSpaceOrLineEnd c then do
        let cs ← skipLineEnd (c :: cs)
        readBasicLines budget cs
      else do
        let (c, cs) ← readEscape (c :: cs)
        let (rest, cs) ← readBasicLines budget cs
        return (c :: rest, cs)
  | budget + 1, c :: cs =>
      if isControlInLines c || c == '\\' then .error .malformed
      else do
        let (rest, cs) ← readBasicLines budget cs
        return (c :: rest, cs)

/-! ## Texts without escapes -/

def readPlain : List Char → Reading (List Char × List Char)
  | [] => .error .malformed
  | '\'' :: cs => .ok ([], cs)
  | c :: cs =>
      if isControl c then .error .malformed
      else (readPlain cs).map fun (rest, cs) => (c :: rest, cs)

/-- The characters of a plain text on several lines up to its three closing quotes. -/
def readPlainLines : List Char → Reading (List Char × List Char)
  | [] => .error .malformed
  | '\'' :: '\'' :: '\'' :: cs => .ok ([], cs)
  | c :: cs =>
      if isControlInLines c then .error .malformed
      else (readPlainLines cs).map fun (rest, cs) => (c :: rest, cs)

/-! ## Quotes -/

def skipFirstLineEnd : List Char → List Char
  | '\n' :: cs => cs
  | cs => cs

/-- Up to two more quotes after the closing ones belong to the text. -/
def extraQuotes (quote : Char) (cs : List Char) : List Char × List Char :=
  match cs with
  | a :: b :: rest =>
      if a = quote ∧ b = quote then ([quote, quote], rest)
      else if a = quote then ([quote], b :: rest)
      else ([], cs)
  | [a] => if a = quote then ([quote], []) else ([], cs)
  | [] => ([], [])

def withExtraQuotes (quote : Char) (r : Reading (List Char × List Char)) :
    Reading (List Char × List Char) := do
  let (body, cs) ← r
  let (more, cs) := extraQuotes quote cs
  return (body ++ more, cs)

def readLineText (cs : List Char) : Reading (String × List Char) :=
  match cs with
  | '"' :: rest => (readBasic (rest.length + 1) rest).map fun (s, rest) => (String.ofList s, rest)
  | '\'' :: rest => (readPlain rest).map fun (s, rest) => (String.ofList s, rest)
  | _ => .error .malformed

def readText (cs : List Char) : Reading (String × List Char) :=
  match cs with
  | '"' :: '"' :: '"' :: rest =>
      let rest := skipFirstLineEnd rest
      (withExtraQuotes '"' (readBasicLines (rest.length + 1) rest)).map
        fun (s, rest) => (String.ofList s, rest)
  | '\'' :: '\'' :: '\'' :: rest =>
      (withExtraQuotes '\'' (readPlainLines (skipFirstLineEnd rest))).map
        fun (s, rest) => (String.ofList s, rest)
  | cs => readLineText cs

end Toml
end EngineClient
