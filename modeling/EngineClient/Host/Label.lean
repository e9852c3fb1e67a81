import EngineClient.Host.Composition
import EngineClient.Host.Label.Table
import EngineClient.Host.Punycode
import EngineClient.Text.Quoted

/-!
# Labels

The parts of a host name. A label is folded, must hold characters that a label may hold and
keep to one direction of writing, and is then told in ASCII. Main statement: a label that is
accepted is neither empty nor longer than 63 characters.
-/

namespace EngineClient
namespace Host

inductive LabelError where
  /-- Nothing, or too much. -/
  | size
  | refused (c : Char)
  /-- Letters of both directions. -/
  | mixedDirections
  /-- Letters that run leftward, but not at both ends. -/
  | openDirection
  /-- The mark of labels that are told in ASCII. -/
  | marked
  deriving DecidableEq, Repr

def LabelError.message : LabelError → String
  | .size => "label empty or too long"
  | .refused c => "Invalid character " ++ Text.quoted (String.singleton c)
  | .mixedDirections => "Violation of BIDI requirement 2"
  | .openDirection => "Violation of BIDI requirement 3"
  | .marked => "Label starts with ACE prefix"

/-! ## Classes -/

def refusedRows : List (List Nat) := Text.rows refusedRuns
def leftwardRows : List (List Nat) := Text.rows leftwardRuns
def rightwardRows : List (List Nat) := Text.rows rightwardRuns

def isRefused (c : Char) : Bool := Text.inRuns refusedRows c.toNat
def isLeftward (c : Char) : Bool := Text.inRuns leftwardRows c.toNat
def isRightward (c : Char) : Bool := Text.inRuns rightwardRows c.toNat

def isAscii (c : Char) : Bool := c.toNat < 128

/-! ## Labels -/

/-- Refuses letters that run leftward beside others, or not at both ends. -/
def checkDirection (cs : List Char) : Except LabelError Unit :=
  if !cs.any isLeftward then .ok ()
  else if cs.any isRightward then .error .mixedDirections
  else if cs.head?.any isLeftward && cs.getLast?.any isLeftward then .ok ()
  else .error .openDirection

def prepare (cs : List Char) : Except LabelError (List Char) :=
  let cs := folded cs
  match cs.find? isRefused with
  | some c => .error (.refused c)
  | none => (checkDirection cs).map fun _ => cs

def mark : List Char := "xn--".toList

def sized (cs : List Char) : Except LabelError (List Char) :=
  if 0 < cs.length ∧ cs.length < 64 then .ok cs else .error .size

def encodeLabel (cs : List Char) : Except LabelError (List Char) :=
  if cs.all isAscii then sized cs
  else
    match prepare cs with
    | .error e => .error e
    | .ok cs =>
        if cs.all isAscii then sized cs
        else if mark.isPrefixOf cs then .error .marked
        else sized (mark ++ Punycode.encode cs)

theorem length_of_sized {cs ds : List Char} (h : sized cs = .ok ds) :
    0 < ds.length ∧ ds.length < 64 := by
  simp only [sized] at h
  split at h
  · cases h
    assumption
  · cases h

/-! ## Names -/

def isDot (c : Char) : Bool :=
  c = '.' || c.toNat = 0x3002 || c.toNat = 0xFF0E || c.toNat = 0xFF61

def labels (cs : List Char) : List (List Char) :=
  let parts := Text.pieces '.' (cs.map fun c => if isDot c then '.' else c)
  if parts.getLast? = some [] then parts.dropLast else parts

/-- Refuses a name with a label that cannot be used; a name of ASCII is taken as it is. -/
def checkName (cs : List Char) : Except LabelError Unit :=
  if cs.all isAscii then .ok () else (labels cs).forM fun l => (encodeLabel l).map fun _ => ()

end Host
end EngineClient
