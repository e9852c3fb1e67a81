import EngineClient.Number.Literal
import EngineClient.Value.Basic

/-!
# Reading JSON

The reader beside the renderer: it keeps the order in which keys appear, reads
integers of any size, and accepts the words for the infinities and for no number.
Each step works on a budget of the length of the text, which no text exhausts.
-/

namespace EngineClient
namespace Json

/-! ## Tokens -/

def skipSpace (cs : List Char) : List Char :=
  cs.dropWhile fun c => c = ' ' || c = '\n' || c = '\r' || c = '\t'

def after? : (word : List Char) → List Char → Option (List Char)
  | [], cs => some cs
  | _ :: _, [] => none
  | w :: word, c :: cs => if w = c then after? word cs else none

def readUnit? : List Char → Option (Nat × List Char)
  | a :: b :: c :: d :: cs => do
      let a ← Text.hexValue? a
      let b ← Text.hexValue? b
      let c ← Text.hexValue? c
      let d ← Text.hexValue? d
      return (((a * 16 + b) * 16 + c) * 16 + d, cs)
  | _ => none

def readEscape? : List Char → Option (Char × List Char)
  | 'u' :: cs => do
      let (high, cs) ← readUnit? cs
      if 0xD800 ≤ high ∧ high < 0xDC00 then
        let cs ← after? ['\\', 'u'] cs
        let (low, cs) ← readUnit? cs
        if 0xDC00 ≤ low ∧ low < 0xE000 then
          return (Char.ofNat (0x10000 + (high - 0xD800) * 0x400 + (low - 0xDC00)), cs)
        else none
      else if 0xDC00 ≤ high ∧ high < 0xE000 then none
      else return (Char.ofNat high, cs)
  | 'n' :: cs => some ('\n', cs)
  | 'r' :: cs => some ('\r', cs)
  | 't' :: cs => some ('\t', cs)
  | 'b' :: cs => some (Char.ofNat 8, cs)
  | 'f' :: cs => some (Char.ofNat 12, cs)
  | '"' :: cs => some ('"', cs)
  | '\\' :: cs => some ('\\', cs)
  | '/' :: cs => some ('/', cs)
  | _ => none

def readString? : (budget : Nat) → List Char → Option (List Char × List Char)
  | 0, _ => none
  | _ + 1, [] => none
  | budget + 1, c :: cs =>
      if c = '"' then some ([], cs)
      else if c = '\\' then do
        let (c, cs) ← readEscape? cs
        let (rest, cs) ← readString? budget cs
        return (c :: rest, cs)
      else do
        let (rest, cs) ← readString? budget cs
        return (c :: rest, cs)

def isNumberChar (c : Char) : Bool :=
  c.isDigit || c = '-' || c = '+' || c = '.' || c = 'e' || c = 'E'

def readNumber? (cs : List Char) : Option (Value × List Char) :=
  let body := cs.takeWhile isNumberChar
  let rest := cs.dropWhile isNumberChar
  let (negative, digits) := Literal.splitSign body
  match Literal.wholeNumber? digits with
  | some n => some (.int (if negative then -(n : Int) else n), rest)
  | none => (Literal.plainReal? body).map fun x => (.real x, rest)

def words : List (List Char × Value) :=
  [("null".toList, .null), ("true".toList, .bool true), ("false".toList, .bool false),
    ("NaN".toList, .real .nan), ("Infinity".toList, .real (.infinite false)),
    ("-Infinity".toList, .real (.infinite true))]

def readScalar? (cs : List Char) : Option (Value × List Char) :=
  match words.findSome? fun w => (after? w.1 cs).map (w.2, ·) with
  | some r => some r
  | none => readNumber? cs

/-! ## Values -/

mutual

def readValue? : (budget : Nat) → List Char → Option (Value × List Char)
  | 0, _ => none
  | budget + 1, cs =>
      match skipSpace cs with
      | '"' :: cs => (readString? (budget + 1) cs).map fun (s, cs) => (.text (String.ofList s), cs)
      | '[' :: cs =>
          match skipSpace cs with
          | ']' :: cs => some (.list [], cs)
          | cs => (readItems? budget cs).map fun (vs, cs) => (.list vs, cs)
      | '\x7b' :: cs =>
          match skipSpace cs with
          | '\x7d' :: cs => some (.table [], cs)
          | cs => (readEntries? budget cs).map fun (es, cs) => (.table (Table.ofEntries es), cs)
      | cs => readScalar? cs

def readItems? : (budget : Nat) → List Char → Option (List Value × List Char)
  | 0, _ => none
  | budget + 1, cs => do
      let (v, cs) ← readValue? budget cs
      match skipSpace cs with
      | ',' :: cs =>
          let (vs, cs) ← readItems? budget cs
          return (v :: vs, cs)
      | ']' :: cs => return ([v], cs)
      | _ => none

def readEntries? : (budget : Nat) → List Char → Option (List (Key × Value) × List Char)
  | 0, _ => none
  | budget + 1, cs => do
      let cs ← after? ['"'] (skipSpace cs)
      let (k, cs) ← readString? (budget + 1) cs
      let cs ← after? [':'] (skipSpace cs)
      let (v, cs) ← readValue? budget cs
      match skipSpace cs with
      | ',' :: cs =>
          let (es, cs) ← readEntries? budget cs
          return ((String.ofList k, v) :: es, cs)
      | '\x7d' :: cs => return ([(String.ofList k, v)], cs)
      | _ => none

end

def read? (cs : List Char) : Option Value :=
  match readValue? (cs.length + 1) cs with
  | some (v, rest) => if (skipSpace rest).isEmpty then some v else none
  | none => none

end Json
end EngineClient
