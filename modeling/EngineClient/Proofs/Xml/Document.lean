import EngineClient.Proofs.Xml.Reading
import EngineClient.Wire.Message
import EngineClient.Xml.Document

/-!
# Reading a written document

A declaration, a root element and a line end are read to the end: the events are those of the
root element, and nothing stops the reader, in whatever blocks it takes the octets.
Main statements: `Yields.readAtOnce_document`, `read_of_waiting`.
-/

namespace EngineClient
namespace Xml

open Text.Utf8

/-!
## The declaration
-/

def declared : List Char :=
  "<?xml version='1.0'?>".toList

def declaredBody : List Char :=
  " version='1.0'".toList

theorem declaration_eq : Wire.declaration = declared ++ ['\n'] :=
  rfl

theorem scan_declared (rest : List Char) :
    scanMarkupToken (spread 0 (declared ++ rest)) =
      .ok (some ⟨.declaration (spread 5 declaredBody), spread (size declared) rest, false⟩) :=
  rfl

theorem read_declaredBody : Declaration.read (spread 5 declaredBody) = .ok {} :=
  rfl

/-!
## Octets
-/

def sourceOf (cs : List Char) : Source :=
  { octets := encode cs, encoding := .utf8, mark := 0 }

theorem detect_declared (rest : List Char) :
    Encoding.detect? (encode (declared ++ rest)) = some (.utf8, 0) :=
  rfl

theorem glyphs_sourceOf {cs : List Char} (h : forall c, c ∈ cs -> isChar c = true) :
    (sourceOf cs).glyphs = spread 0 cs :=
  decodeUtf8_encode h [] 0

theorem decode_behind {front cs : List Char} (h : forall c, c ∈ cs -> isChar c = true) :
    (sourceOf (front ++ cs)).encoding.decode (size front)
        ((sourceOf (front ++ cs)).octets.drop (size front)) = spread (size front) cs := by
  have hdrop : (encode (front ++ cs)).drop (size front) = encode cs := by
    rw [encode_append]
    exact List.drop_left
  show Encoding.decodeUtf8 [] (size front) 0 ((encode (front ++ cs)).drop (size front)) = _
  rw [hdrop]
  exact decodeUtf8_encode h [] (size front)

theorem isOdd_sourceOf (cs : List Char) : (sourceOf cs).isOdd = false := by
  show ((sourceOf cs).size % 1 != 0) = false
  rw [Nat.mod_one]
  rfl

/-!
## Behind the declaration
-/

theorem looksLikeName_glyphAt {c : Char} (h : c.isAlpha = true) (offset : Nat) :
    (glyphAt offset c).looksLikeName = true := by
  have hstart := isNameStart_glyphAt h offset
  by_cases hnarrow : c.toNat < 128
  · simp only [glyphAt, hnarrow, if_true] at hstart ⊢
    exact hstart
  · simp only [glyphAt, hnarrow, if_false]
    rfl

theorem scan_root {name rest : List Char} (hname : IsPlainName name) (offset : Nat) :
    scanMarkupToken (spread offset ('<' :: name ++ rest)) =
      .ok (some ⟨.root, spread offset ('<' :: name ++ rest), false⟩) := by
  cases name with
  | nil => exact absurd rfl hname.1
  | cons c name =>
      have hc := hname.2 c List.mem_cons_self
      change (scanAngle _ (glyphAt (offset + 1) c :: _)).map some = _
      simp only [scanAngle, is_glyphAt_of_isAlpha hc '!' (by decide),
        is_glyphAt_of_isAlpha hc '?' (by decide), looksLikeName_glyphAt hc, Bool.false_eq_true,
        if_false, if_true]
      rfl

theorem readProlog_root {name rest : List Char} (hname : IsPlainName name)
    (size budget offset : Nat) (t : DocumentType) :
    readProlog true size (budget + 1 + 1) (spread offset ('\n' :: '<' :: name ++ rest))
        { state := .leading, type := t } =
      ({ state := .leading, type := t }, .passed (spread (offset + 1) ('<' :: name ++ rest))) := by
  have hspace : scanMarkupToken (spread offset ('\n' :: '<' :: name ++ rest)) =
      .ok (some ⟨.space, spread (offset + 1) ('<' :: name ++ rest), false⟩) := rfl
  rw [readProlog, hspace]
  change readProlog true size (budget + 1) (spread (offset + 1) ('<' :: name ++ rest)) _ = _
  rw [readProlog, scan_root hname]
  rfl

/-!
## Behind the root element
-/

theorem readEpilog_lineEnd {size expanded : Nat} (hexpanded : expanded ≤ size) (offset : Nat) :
    readEpilog true { size } expanded 2 {} (spread offset ['\n']) = ({}, .waiting []) := by
  have hspace : scanMarkupToken (spread offset ['\n']) = .ok (some ⟨.space, [], false⟩) := rfl
  have hallowed : isAllowed (offsetOf size []) expanded = true := isAllowed_of_le hexpanded
  rw [readEpilog, hspace]
  simp only [hallowed, Bool.not_true, Bool.false_eq_true, if_false]
  rfl

theorem readEnd_lineEnd {cs : List Char} {p : Progress} (hexpanded : p.expanded ≤ (sourceOf cs).size)
    (offset : Nat) :
    (sourceOf cs).readEnd true p (spread offset ['\n']) =
      Source.waiting p.events.reverse (sourceOf cs).size := by
  have hepilog : readEpilog true (sourceOf cs).bounds p.expanded 2 {} (spread offset ['\n']) =
      ({}, .waiting []) := readEpilog_lineEnd hexpanded offset
  unfold Source.readEnd
  rw [length_spread]
  simp only [List.length_singleton, hepilog, Source.ended, isOdd_sourceOf, Bool.and_false,
    Bool.false_eq_true, if_false]
  show Source.waiting p.events.reverse ((sourceOf cs).size - (sourceOf cs).size % 1) = _
  rw [Nat.mod_one, Nat.sub_zero]

/-!
## Documents
-/

/-- A reader that takes octets block by block reads them as at one go, if nothing stops it and
no token halts it behind the root element. -/
theorem read_of_waiting {octets : List UInt8} {es : List Event} {taken : Nat}
    (h : readAtOnce true octets = Source.waiting es taken) :
    read octets = Source.waiting es taken := by
  unfold read
  rw [h]
  rfl

theorem readAtOnce_declared {rest : List Char} (hchars : forall c, c ∈ rest -> isChar c = true)
    (hne : rest ≠ []) :
    readAtOnce true (encode (declared ++ rest)) =
      (sourceOf (declared ++ rest)).readFrom true { state := .leading }
        (spread (size declared) rest) := by
  have hglyphs : (sourceOf (declared ++ rest)).glyphs = spread 0 (declared ++ rest) := by
    apply glyphs_sourceOf
    intro c hc
    rcases List.mem_append.mp hc with hc | hc
    · exact List.all_eq_true.mp (by decide : declared.all isChar = true) c hc
    · exact hchars c hc
  have hread : readAtOnce true (encode (declared ++ rest)) =
      (sourceOf (declared ++ rest)).readDeclared true (spread 5 declaredBody)
        (spread (size declared) rest) := by
    unfold sourceOf at hglyphs ⊢
    unfold readAtOnce
    simp only [detect_declared, hglyphs, scan_declared]
  rw [hread]
  unfold Source.readDeclared
  rw [read_declaredBody]
  show (sourceOf (declared ++ rest)).readFrom true { state := .leading }
    ((sourceOf (declared ++ rest)).encoding.decode
      (offsetOf (sourceOf (declared ++ rest)).size (spread (size declared) rest))
      ((sourceOf (declared ++ rest)).octets.drop
        (offsetOf (sourceOf (declared ++ rest)).size (spread (size declared) rest)))) = _
  rw [offsetOf_spread hne, decode_behind hchars]

theorem Yields.readFrom_root {name content : List Char} {es : List Event}
    (h : Yields endsRun content es) (hname : IsPlainName name) {cs : List Char} {offset : Nat}
    (hsize : offset + 1 + size (tagged name content) ≤ (sourceOf cs).size) :
    exists taken,
      (sourceOf cs).readFrom true { state := .leading }
          (spread offset ('\n' :: (tagged name content ++ ['\n']))) =
        Source.waiting (.start name :: (es ++ [.stop name])) taken := by
  rcases h.read_root hname (List.cons_ne_nil '\n' []) {} (expandEntity {} 1) (sourceOf cs).size
    (offset + 1) (Nat.lt_succ_self _) with ⟨p, hread, hevents, hexpanded⟩
  have hprolog : exists rest, tagged name content ++ ['\n'] = '<' :: name ++ rest :=
    ⟨_, tagged_append name content ['\n']⟩
  refine ⟨(sourceOf cs).size, ?_⟩
  have hpassed : readProlog true (sourceOf cs).size
      ((spread offset ('\n' :: (tagged name content ++ ['\n']))).length + 1)
      (spread offset ('\n' :: (tagged name content ++ ['\n']))) { state := .leading } =
      ({ state := .leading }, .passed (spread (offset + 1) (tagged name content ++ ['\n']))) := by
    rcases hprolog with ⟨rest, hrest⟩
    rw [hrest, length_spread]
    exact readProlog_root hname _ _ _ _
  unfold Source.readFrom
  rw [hpassed]
  show (sourceOf cs).readRoot true {} (spread (offset + 1) (tagged name content ++ ['\n'])) = _
  unfold Source.readRoot
  have hread' : DocumentType.read {} (sourceOf cs).bounds
      (spread (offset + 1) (tagged name content ++ ['\n'])) {} = _ := hread
  rw [hread']
  show (sourceOf cs).readEnd true p _ = _
  rw [readEnd_lineEnd (Nat.le_trans hexpanded hsize), hevents, List.reverse_reverse]

theorem Yields.readAtOnce_document {name content : List Char} {es : List Event}
    (h : Yields endsRun content es) (hname : IsPlainName name) :
    exists taken,
      readAtOnce true (encode (Wire.declaration ++ tagged name content ++ ['\n'])) =
        Source.waiting (.start name :: (es ++ [.stop name])) taken := by
  have hchars : forall c, c ∈ '\n' :: (tagged name content ++ ['\n']) -> isChar c = true := by
    simp only [List.forall_mem_cons, List.forall_mem_append]
    exact ⟨rfl, chars_of_tagged hname h.chars, rfl, List.forall_mem_nil _⟩
  have htext : Wire.declaration ++ tagged name content ++ ['\n'] =
      declared ++ '\n' :: (tagged name content ++ ['\n']) := by
    rw [declaration_eq, List.append_assoc, List.append_assoc]
    rfl
  have hsize : size declared + 1 + size (tagged name content) ≤
      (sourceOf (declared ++ '\n' :: (tagged name content ++ ['\n']))).size := by
    show _ ≤ size (declared ++ '\n' :: (tagged name content ++ ['\n']))
    rw [size_append, size_cons, size_append]
    show _ ≤ size declared + (1 + _)
    omega
  rcases h.readFrom_root hname hsize with ⟨taken, hread⟩
  refine ⟨taken, ?_⟩
  rw [htext, readAtOnce_declared hchars (List.cons_ne_nil _ _), hread]

end Xml
end EngineClient
