import EngineClient.Xml.Scan

/-!
# Tags

A start tag is read to its end before its attributes are judged. Main statement: reading
an attribute takes at least one glyph, so the attributes of a tag come to an end.
-/

namespace EngineClient
namespace Xml

/-! ## Attributes -/

structure Attribute where
  name : List Char
  /-- Where its name stands. -/
  offset : Nat
  /-- What stands between its quotes. -/
  value : List Glyph
  deriving Repr

/-- Reads a value to its closing quote; what was read comes last first. -/
def scanValue (quote : Char) (read : List Glyph) : List Glyph → Scan (List Glyph)
  | [] => .error .unfinished
  | g :: gs =>
      if g.is quote then .ok (read.reverse, gs)
      else if g.is '&' then
        match scanReference gs with
        | .error h => .error h
        | .ok _ => scanValue quote (g :: read) gs
      else if g.isText && !g.is '<' then scanValue quote (g :: read) gs
      else .error (.beforeText (g :: gs))

theorem length_lt_of_scanValue {quote : Char} {read gs value rest : List Glyph}
    (h : scanValue quote read gs = .ok (value, rest)) : rest.length < gs.length := by
  induction gs generalizing read with
  | nil => simp [scanValue] at h
  | cons g gs ih =>
      simp only [scanValue] at h
      split at h
      · simp only [Except.ok.injEq, Prod.mk.injEq] at h
        simp [h.2]
      · split at h
        · split at h
          · contradiction
          · exact Nat.lt_succ_of_lt (ih h)
        · split at h
          · exact Nat.lt_succ_of_lt (ih h)
          · contradiction

def scanAssigned (gs : List Glyph) : Scan (List Glyph) :=
  match gs, skipSpace gs with
  | _, [] => .error .unfinished
  | gs, g :: after =>
      if g.is '=' then
        match skipSpace after with
        | [] => .error .unfinished
        | q :: value =>
            if q.is '"' then scanValue '"' [] value
            else if q.is '\'' then scanValue '\'' [] value
            else .error (.invalid q.offset)
      else if gs.head?.any Glyph.isSpace then .error (.invalid g.offset)
      else .error (.beforeText (g :: after))

theorem length_lt_of_scanAssigned {gs value rest : List Glyph}
    (h : scanAssigned gs = .ok (value, rest)) : rest.length < gs.length := by
  have hskip := length_skipSpace_le gs
  unfold scanAssigned at h
  split at h
  · contradiction
  · rename_i g after hg
    rw [hg] at hskip
    simp only [List.length_cons] at hskip
    split at h
    · have hquote := length_skipSpace_le after
      split at h
      · contradiction
      · rename_i q cs hq
        rw [hq] at hquote
        simp only [List.length_cons] at hquote
        split at h
        · have := length_lt_of_scanValue h
          omega
        · split at h
          · have := length_lt_of_scanValue h
            omega
          · contradiction
    · split at h <;> contradiction

def scanAttribute (gs : List Glyph) : Scan Attribute :=
  match scanName gs with
  | .error h => .error h
  | .ok (name, rest) =>
      match scanAssigned rest with
      | .error h => .error h
      | .ok (value, rest) => .ok (⟨name, offsetOf 0 gs, value⟩, rest)

theorem length_lt_of_scanAttribute {gs rest : List Glyph} {a : Attribute}
    (h : scanAttribute gs = .ok (a, rest)) : rest.length < gs.length := by
  unfold scanAttribute at h
  split at h
  · contradiction
  · rename_i name between hname
    split at h
    · contradiction
    · rename_i value after hvalue
      simp only [Except.ok.injEq, Prod.mk.injEq] at h
      have hlt := length_lt_of_scanName hname
      have hlt' := length_lt_of_scanAssigned hvalue
      rw [← h.2]
      omega

/-! ## Start tags -/

/-- Reads the end of a start tag: whether the element is empty. What else stands there is
refused with a halt of its own. -/
def scanTagEnd (otherwise : Halt) : List Glyph → Scan Bool
  | [] => .error .unfinished
  | g :: gs =>
      if g.is '>' then .ok (false, gs)
      else if g.is '/' then
        match gs with
        | [] => .error .unfinished
        | h :: rest => if h.is '>' then .ok (true, rest) else .error (.invalid h.offset)
      else .error otherwise

/-- Reads attributes to the end of a start tag; those read come last first. -/
def scanAttributes (read : List Attribute) (gs : List Glyph) :
    Scan (List Attribute × Bool) :=
  if gs.head?.any Glyph.isNameStart then
    match _hread : scanAttribute gs with
    | .error h => .error h
    | .ok (_, []) => .error .unfinished
    | .ok (a, g :: after) =>
        if g.isSpace then scanAttributes (a :: read) (skipSpace after)
        else
          (scanTagEnd (.invalid g.offset) (g :: after)).map fun (empty, rest) =>
            (((a :: read).reverse, empty), rest)
  else (scanTagEnd (.beforeText gs) gs).map fun (empty, rest) => ((read.reverse, empty), rest)
termination_by gs.length
decreasing_by
  have hlt := length_lt_of_scanAttribute _hread
  have hskip := length_skipSpace_le after
  simp only [List.length_cons] at hlt
  omega

structure Tag where
  name : List Char
  attributes : List Attribute := []
  /-- Whether it is the end tag of its element too. -/
  empty : Bool := false
  deriving Repr

def scanStartTag (gs : List Glyph) : Scan Tag :=
  match scanName gs with
  | .error h => .error h
  | .ok (name, rest) =>
      if rest.head?.any Glyph.isSpace then
        (scanAttributes [] (skipSpace rest)).map fun ((attributes, empty), rest) =>
          (⟨name, attributes, empty⟩, rest)
      else
        (scanTagEnd (.beforeText rest) rest).map fun (empty, rest) => (⟨name, [], empty⟩, rest)

/-! ## End tags -/

def scanEndTag (gs : List Glyph) : Scan (List Char) :=
  match scanName gs with
  | .error h => .error h
  | .ok (name, rest) =>
      match skipSpace rest with
      | [] => .error .unfinished
      | g :: after =>
          if g.is '>' then .ok (name, after)
          else if rest.head?.any Glyph.isSpace then .error (.invalid g.offset)
          else .error (.beforeText rest)

end Xml
end EngineClient
