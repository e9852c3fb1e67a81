import EngineClient.Xml.Glyph

/-!
# Scanners

Readers of the parts that tokens are made of: names, references, comments, instructions.
Each takes the glyphs from some point on and gives what it read and the glyphs that are
left, or says why it had to halt.
-/

namespace EngineClient
namespace Xml

/-! ## Halts -/

inductive Halt where
  /-- The text ends inside the token. -/
  | unfinished
  /-- The text ends inside a character. -/
  | cut
  /-- What stands at an offset cannot stand there. -/
  | invalid (offset : Nat)
  deriving DecidableEq, Repr

abbrev Scan (α : Type) := Except Halt (α × List Glyph)

def Halt.before : List Glyph → Halt
  | [] => .unfinished
  | g :: _ => .invalid g.offset

/-- The halt before glyphs of which the first one cannot stand there, where a character
that is cut off might still fit. -/
def Halt.beforeText : List Glyph → Halt
  | [] => .unfinished
  | g :: _ => if g.sign = .cut then .cut else .invalid g.offset

/-! ## Names and space -/

def skipSpace (gs : List Glyph) : List Glyph :=
  gs.dropWhile Glyph.isSpace

theorem length_skipSpace_le (gs : List Glyph) : (skipSpace gs).length ≤ gs.length :=
  (List.dropWhile_sublist _).length_le

def scanName : List Glyph → Scan (List Char)
  | [] => .error .unfinished
  | g :: gs =>
      if g.isNameStart then
        .ok (lettersOf (g :: gs.takeWhile Glyph.isNameChar), gs.dropWhile Glyph.isNameChar)
      else .error (.beforeText (g :: gs))

theorem length_lt_of_scanName {gs rest : List Glyph} {name : List Char}
    (h : scanName gs = .ok (name, rest)) : rest.length < gs.length := by
  cases gs with
  | nil => simp [scanName] at h
  | cons g gs =>
      simp only [scanName] at h
      split at h
      · simp only [Except.ok.injEq, Prod.mk.injEq] at h
        obtain ⟨-, rfl⟩ := h
        have := (List.dropWhile_sublist (l := gs) Glyph.isNameChar).length_le
        simp only [List.length_cons]
        omega
      · contradiction

def scanWord : List Char → List Glyph → Scan Unit
  | [], gs => .ok ((), gs)
  | c :: cs, g :: gs => if g.is c then scanWord cs gs else .error (.before (g :: gs))
  | _ :: _, [] => .error .unfinished

/-! ## References -/

inductive Reference where
  /-- A character by its number; no document holds every number. -/
  | number (c? : Option Char)
  | entity (name : List Char)
  deriving DecidableEq, Repr

def namedChar? (name : List Char) : Option Char :=
  match String.ofList name with
  | "amp" => some '&'
  | "lt" => some '<'
  | "gt" => some '>'
  | "quot" => some '"'
  | "apos" => some '\''
  | _ => none

def numberLimit : Nat := 0x110000

def numberOf (base : Nat) (ds : List Nat) : Nat :=
  ds.foldl (fun n d => min (n * base + d) numberLimit) 0

def numberedChar? (n : Nat) : Option Char :=
  if h : n.isValidChar then
    let c := Char.ofNatAux n h
    if isChar c then some c else none
  else none

def scanNumber (base : Nat) (gs : List Glyph) : Scan Reference :=
  let isDigit (g : Glyph) : Bool := (g.digit? base).isSome
  let digits := (gs.takeWhile isDigit).filterMap (Glyph.digit? base)
  match gs.dropWhile isDigit with
  | [] => .error .unfinished
  | g :: rest =>
      if !digits.isEmpty && g.is ';' then .ok (.number (numberedChar? (numberOf base digits)), rest)
      else .error (.invalid g.offset)

def scanReference : List Glyph → Scan Reference
  | [] => .error .unfinished
  | g :: gs =>
      if g.is '#' then
        match gs with
        | [] => .error .unfinished
        | x :: digits => if x.is 'x' then scanNumber 16 digits else scanNumber 10 gs
      else
        match scanName (g :: gs) with
        | .error h => .error h
        | .ok (_, []) => .error .unfinished
        | .ok (name, h :: rest) =>
            if h.is ';' then .ok (.entity name, rest) else .error (.beforeText (h :: rest))

/-! ## Comments -/

def scanComment : List Glyph → Scan Unit
  | [] => .error .unfinished
  | g :: gs =>
      if g.is '-' then
        match gs with
        | [] => .error .unfinished
        | h :: after =>
            if h.is '-' then
              match after with
              | [] => .error .unfinished
              | i :: rest => if i.is '>' then .ok ((), rest) else .error (.invalid i.offset)
            else scanComment gs
      else if g.isText then scanComment gs
      else .error (.beforeText (g :: gs))

def scanCommentStart : List Glyph → Scan Unit
  | [] => .error .unfinished
  | g :: gs => if g.is '-' then scanComment gs else .error (.invalid g.offset)

/-! ## Instructions -/

/-- An instruction, or the declaration of the document, which has the form of one. -/
inductive Instruction where
  | other
  | declaration (body : List Glyph)
  deriving Repr

/-- Reads the body of an instruction to its end; what was read comes last first. -/
def scanBody (read : List Glyph) : List Glyph → Scan (List Glyph)
  | [] => .error .unfinished
  | g :: gs =>
      if g.is '?' then
        match gs with
        | [] => .error .unfinished
        | h :: rest =>
            if h.is '>' then .ok (read.reverse, rest) else scanBody (g :: read) gs
      else if g.isText then scanBody (g :: read) gs
      else .error (.beforeText (g :: gs))

/-- Whether a target is `xml` in other letters. -/
def isReserved (target : List Char) : Bool :=
  target.map Char.toLower = "xml".toList && target != "xml".toList

def instructionOf (target : List Char) (body : List Glyph) : Instruction :=
  if target = "xml".toList then .declaration body else .other

def scanInstruction (gs : List Glyph) : Scan Instruction :=
  match scanName gs with
  | .error h => .error h
  | .ok (_, []) => .error .unfinished
  | .ok (target, g :: after) =>
      if !g.isSpace && !g.is '?' then .error (.beforeText (g :: after))
      else if isReserved target then .error (.invalid g.offset)
      else if g.isSpace then
        (scanBody [g] after).map fun (body, rest) => (instructionOf target body, rest)
      else
        match after with
        | [] => .error .unfinished
        | h :: rest =>
            if h.is '>' then .ok (instructionOf target [], rest) else .error (.invalid h.offset)

end Xml
end EngineClient
