import EngineClient.Xml.Entity
import EngineClient.Xml.Prolog.Token

/-!
# Literals of the prolog

What declarations give between quotes: the texts of entities, in which the numbers of
characters are replaced at once and other references stay, and public names, which are
made of few characters.
-/

namespace EngineClient
namespace Xml

/-! ## Texts of entities -/

inductive TextMode where
  | plain
  /-- In the number of a character that was taken already. -/
  | inNumber
  /-- Behind a carriage return. -/
  | afterReturn
  deriving DecidableEq, Repr

/-- The flaw of a percent sign, behind which no reference may follow. -/
def percentFlaw (offset : Nat) (gs : List Glyph) : ValueFlaw :=
  match scanPercent gs with
  | .error h => .ofHalt offset h
  | .ok lexeme =>
      match lexeme.token with
      | .parameter => ⟨.strayParameter, some offset⟩
      | _ => .ofHalt offset (.before gs)

/-- The text of an entity by the value of its declaration; what was read comes last
first. -/
def readEntityText (mode : TextMode) (read : List Char) :
    List Glyph → Except ValueFlaw (List Char)
  | [] => .ok read.reverse
  | g :: gs =>
      match g.char? with
      | none => .error ⟨.invalidToken, some g.offset⟩
      | some c =>
          if mode = .inNumber then readEntityText (if c = ';' then .plain else mode) read gs
          else if c = '%' then .error (percentFlaw g.offset gs)
          else if c = '\n' ∧ mode = .afterReturn then readEntityText .plain read gs
          else if c = '\r' then readEntityText .afterReturn ('\n' :: read) gs
          else if c = '&' then
            match scanReference gs with
            | .error h => .error (.ofHalt g.offset h)
            | .ok (.number none, _) => .error ⟨.badCharacterNumber, some g.offset⟩
            | .ok (.number (some d), _) => readEntityText .inNumber (d :: read) gs
            | .ok (.entity _, _) => readEntityText .plain (c :: read) gs
          else readEntityText .plain (c :: read) gs

def entityContent (value : List Glyph) : Except ValueFlaw EntityContent :=
  (readEntityText .plain [] value).map fun cs =>
    .text (glyphsOf cs).1 (glyphsOf cs).2

/-! ## Public names -/

def publicMarks : List Char :=
  ['-', '\'', '(', ')', '+', ',', '.', '/', ':', '=', '?', ';', '!', '*', '#', '@', '$', '_', '%',
    ' ', '\r', '\n']

def isPublicChar (g : Glyph) : Bool :=
  g.char?.any fun c => c.isAlphanum || publicMarks.contains c

def checkPublicName (value : List Glyph) : Except ValueFlaw Unit :=
  match value.find? (!isPublicChar ·) with
  | none => .ok ()
  | some g => .error ⟨.badPublicName, some g.offset⟩

end Xml
end EngineClient
