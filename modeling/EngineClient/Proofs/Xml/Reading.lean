import EngineClient.Proofs.Xml.Spread
import EngineClient.Xml.Reader

/-!
# Reading what was written

A part of a text yields events if a reader that comes to it inside of an element says them and
goes on behind it, with the same elements open. Parts are put together from runs of text,
references, and elements. Main statement: `Yields.element`.
-/

namespace EngineClient
namespace Xml

open Text.Utf8

/-!
## Names of tags
-/

def IsPlainName (name : List Char) : Prop :=
  name ≠ [] ∧ forall c, c ∈ name -> c.isAlpha = true

theorem isPlainName_iff (name : List Char) :
    (!name.isEmpty && name.all Char.isAlpha) = true ↔ IsPlainName name := by
  unfold IsPlainName
  rw [Bool.and_eq_true, Bool.not_eq_true', List.isEmpty_eq_false_iff, List.all_eq_true]

instance (name : List Char) : Decidable (IsPlainName name) :=
  decidable_of_iff _ (isPlainName_iff name)

theorem isNameStart_glyphAt {c : Char} (h : c.isAlpha = true) (offset : Nat) :
    (glyphAt offset c).isNameStart = true := by
  simp [glyphAt, Glyph.isNameStart, isNameStart, h]

theorem isNameChar_glyphAt (offset : Nat) (c : Char) :
    (glyphAt offset c).isNameChar = isNameChar c := by
  unfold glyphAt Glyph.isNameChar
  dsimp only
  split <;> simp

theorem is_glyphAt (offset : Nat) (c d : Char) : (glyphAt offset c).is d = (c == d) :=
  rfl

theorem is_glyphAt_of_isAlpha {c : Char} (h : c.isAlpha = true) (d : Char)
    (hd : d.isAlpha = false) {offset : Nat} : (glyphAt offset c).is d = false := by
  rw [is_glyphAt, beq_eq_false_iff_ne]
  rintro rfl
  rw [h] at hd
  cases hd

theorem takeWhile_spread {name rest : List Char} {c : Char}
    (hname : forall d, d ∈ name -> d.isAlpha = true) (hc : isNameChar c = false) (offset : Nat) :
    (spread offset (name ++ c :: rest)).takeWhile Glyph.isNameChar = spread offset name ∧
      (spread offset (name ++ c :: rest)).dropWhile Glyph.isNameChar =
        spread (offset + size name) (c :: rest) := by
  induction name generalizing offset with
  | nil =>
      constructor
      · exact List.takeWhile_cons_of_neg (by rw [isNameChar_glyphAt, hc]; exact Bool.false_ne_true)
      · exact List.dropWhile_cons_of_neg (by rw [isNameChar_glyphAt, hc]; exact Bool.false_ne_true)
  | cons d name ih =>
      rcases ih (fun e he => hname e (List.mem_cons_of_mem _ he)) (offset + d.utf8Size) with
        ⟨htake, hdrop⟩
      have hstart := isNameStart_glyphAt (hname d List.mem_cons_self) offset
      have hchar := Glyph.isNameChar_of_isNameStart hstart
      rw [List.cons_append, spread, List.takeWhile_cons_of_pos hchar,
        List.dropWhile_cons_of_pos hchar, htake, hdrop, size_cons, Nat.add_assoc]
      exact ⟨rfl, rfl⟩

theorem lettersOf_spread (offset : Nat) (cs : List Char) : lettersOf (spread offset cs) = cs := by
  induction cs generalizing offset with
  | nil => rfl
  | cons c cs ih =>
      have hrest := ih (offset + c.utf8Size)
      unfold lettersOf at hrest ⊢
      rw [spread, List.filterMap_cons_some (rfl : (glyphAt offset c).char? = some c), hrest]

theorem scanName_spread {name rest : List Char} {c : Char} (hname : IsPlainName name)
    (hc : isNameChar c = false) (offset : Nat) :
    scanName (spread offset (name ++ c :: rest)) =
      .ok (name, spread (offset + size name) (c :: rest)) := by
  rcases hname with ⟨hne, hletters⟩
  cases name with
  | nil => exact absurd rfl hne
  | cons d name =>
      have hstart := isNameStart_glyphAt (hletters d List.mem_cons_self) offset
      rcases takeWhile_spread (fun e he => hletters e (List.mem_cons_of_mem _ he)) hc
        (offset + d.utf8Size) with ⟨htake, hdrop⟩
      rw [List.cons_append, spread, scanName, if_pos hstart, htake, hdrop]
      rw [size_cons, Nat.add_assoc]
      exact congrArg (fun letters => Except.ok (letters, _)) (lettersOf_spread offset (d :: name))

/-!
## Passages of a reader
-/

variable {t : DocumentType} {expand : Expander} {lv : Level} {p p' p'' : Progress}
  {gs gs' gs'' : List Glyph}

/-- A reader passes from one place to another: what comes of reading on is the same. -/
def Passes (t : DocumentType) (expand : Expander) (lv : Level) (p : Progress)
    (gs : List Glyph) (p' : Progress) (gs' : List Glyph) : Prop :=
  forall budget, gs.length < budget ->
    exists budget', gs'.length < budget' ∧
      readContent t expand lv budget false gs p = readContent t expand lv budget' false gs' p'

theorem Passes.refl : Passes t expand lv p gs p gs :=
  fun budget h => ⟨budget, h, rfl⟩

theorem Passes.trans (h : Passes t expand lv p gs p' gs')
    (h' : Passes t expand lv p' gs' p'' gs'') : Passes t expand lv p gs p'' gs'' := by
  intro budget hbudget
  rcases h budget hbudget with ⟨budget', hbudget', hread⟩
  rcases h' budget' hbudget' with ⟨budget'', hbudget'', hread'⟩
  exact ⟨budget'', hbudget'', hread.trans hread'⟩

def ground (size : Nat) : Level :=
  { bounds := { size } }

theorem isAllowed_of_le {direct expanded : Nat} (h : expanded ≤ direct) :
    isAllowed direct expanded = true := by
  have hmost : direct + expanded ≤ maxAmplification * direct := by
    unfold maxAmplification
    omega
  simp [isAllowed, hmost]

theorem offsetOf_spread {cs : List Char} (h : cs ≠ []) (size offset : Nat) :
    offsetOf size (spread offset cs) = offset := by
  cases cs with
  | nil => exact absurd rfl h
  | cons c cs => rfl

section Token

variable {size offset offset' : Nat} {token : ContentToken} {cs rest : List Char}

theorem readContent_of_token
    (hscan : scanContent { size } (spread offset cs) = .ok (token, spread offset' rest))
    (hplain : token ≠ .plainStart) (hrest : rest ≠ []) (hexpanded : p.expanded ≤ offset')
    (hread : forall direct start,
      readToken t expand (ground size) direct start token p = (p', none)) (budget : Nat) :
    readContent t expand (ground size) (budget + 1) false (spread offset cs) p =
      if p'.elements.isEmpty then (p', .closed (spread offset' rest))
      else readContent t expand (ground size) budget false (spread offset' rest) p' := by
  have hallowed := isAllowed_of_le hexpanded
  unfold ground at hread ⊢
  rw [readContent, hscan]
  simp only [Progress.count, Option.isSome_none, Option.getD_none, Bool.false_eq_true, if_false,
    offsetOf_spread hrest, hallowed, hread]
  cases token with
  | plainStart => exact absurd rfl hplain
  | _ => rfl

theorem Passes.one
    (hscan : scanContent { size } (spread offset cs) = .ok (token, spread offset' rest))
    (hplain : token ≠ .plainStart) (hrest : rest ≠ []) (hshort : rest.length < cs.length)
    (hexpanded : p.expanded ≤ offset')
    (hread : forall direct start,
      readToken t expand (ground size) direct start token p = (p', none))
    (hopen : p'.elements ≠ []) :
    Passes t expand (ground size) p (spread offset cs) p' (spread offset' rest) := by
  intro budget hbudget
  rw [length_spread] at hbudget
  cases budget with
  | zero => exact absurd hbudget (Nat.not_lt_zero _)
  | succ budget =>
      refine ⟨budget, by rw [length_spread]; omega, ?_⟩
      rw [readContent_of_token hscan hplain hrest hexpanded hread, if_neg]
      rw [List.isEmpty_iff]
      exact hopen

end Token

/-!
## Tokens
-/

theorem scanStartTag_spread {name rest : List Char} (hname : IsPlainName name) (offset : Nat) :
    scanStartTag (spread offset (name ++ '>' :: rest)) =
      .ok (⟨name, [], false⟩, spread (offset + size name + 1) rest) := by
  unfold scanStartTag
  rw [scanName_spread hname (by decide)]
  rfl

theorem scanStartTag_empty {name rest : List Char} (hname : IsPlainName name) (offset : Nat) :
    scanStartTag (spread offset (name ++ '/' :: '>' :: rest)) =
      .ok (⟨name, [], true⟩, spread (offset + size name + 1 + 1) rest) := by
  unfold scanStartTag
  rw [scanName_spread hname (by decide)]
  rfl

theorem scanEndTag_spread {name rest : List Char} (hname : IsPlainName name) (offset : Nat) :
    scanEndTag (spread offset (name ++ '>' :: rest)) =
      .ok (name, spread (offset + size name + 1) rest) := by
  unfold scanEndTag
  rw [scanName_spread hname (by decide)]
  rfl

theorem scanMarkup_of_name {b : Bounds} {name rest : List Char} (hname : IsPlainName name)
    (offset : Nat) :
    scanMarkup b (spread offset (name ++ rest)) =
      (scanStartTag (spread offset (name ++ rest))).map fun (t, rest) => (.start t, rest) := by
  rcases hname with ⟨hne, hletters⟩
  cases name with
  | nil => exact absurd rfl hne
  | cons c name =>
      have hc := hletters c List.mem_cons_self
      unfold scanMarkup
      rw [List.cons_append, spread]
      simp only [is_glyphAt_of_isAlpha hc '!' (by decide), is_glyphAt_of_isAlpha hc '?' (by decide),
        is_glyphAt_of_isAlpha hc '/' (by decide)]
      rfl

theorem scanContent_start {size : Nat} {name rest : List Char} (hname : IsPlainName name)
    (offset : Nat) :
    scanContent { size } (spread offset ('<' :: name ++ '>' :: rest)) =
      .ok (.start ⟨name, [], false⟩, spread (offset + 1 + Text.Utf8.size name + 1) rest) := by
  change Scan.toToken (scanMarkup _ (spread (offset + 1) (name ++ '>' :: rest))) = _
  rw [scanMarkup_of_name hname, scanStartTag_spread hname]
  rfl

theorem scanContent_empty {size : Nat} {name rest : List Char} (hname : IsPlainName name)
    (offset : Nat) :
    scanContent { size } (spread offset ('<' :: name ++ '/' :: '>' :: rest)) =
      .ok (.start ⟨name, [], true⟩, spread (offset + 1 + Text.Utf8.size name + 1 + 1) rest) := by
  change Scan.toToken (scanMarkup _ (spread (offset + 1) (name ++ '/' :: '>' :: rest))) = _
  rw [scanMarkup_of_name hname, scanStartTag_empty hname]
  rfl

theorem scanContent_stop {size : Nat} {name rest : List Char} (hname : IsPlainName name)
    (offset : Nat) :
    scanContent { size } (spread offset ('<' :: '/' :: name ++ '>' :: rest)) =
      .ok (.stop name (offset + 1 + 1), spread (offset + 1 + 1 + Text.Utf8.size name + 1) rest) := by
  change Scan.toToken ((scanEndTag (spread (offset + 1 + 1) (name ++ '>' :: rest))).map _) = _
  rw [scanEndTag_spread hname]
  rcases hname with ⟨hne, _⟩
  cases name with
  | nil => exact absurd rfl hne
  | cons c name => rfl

/-!
## Parts
-/

/-- A part of a text yields events, if one of certain characters follows it: inside of an
element a reader says them and passes the part, with the same elements open. References took
no more octets than were read. -/
structure Yields (next : Char -> Bool) (part : List Char) (es : List Event) : Prop where
  chars : forall c, c ∈ part -> isChar c = true
  passes : forall (t : DocumentType) (expand : Expander) (size offset : Nat) (rest : List Char)
    (p : Progress), rest.head?.any next = true -> p.elements ≠ [] -> p.expanded ≤ offset ->
      exists p',
        Passes t expand (ground size) p (spread offset (part ++ rest)) p'
            (spread (offset + Text.Utf8.size part) rest) ∧
          p'.elements = p.elements ∧ p'.events = es.reverse ++ p.events ∧
            p'.expanded ≤ offset + Text.Utf8.size part

def anyNext (_ : Char) : Bool :=
  true

theorem ne_nil_of_head? {next : Char -> Bool} {rest : List Char}
    (h : rest.head?.any next = true) : rest ≠ [] := by
  rintro rfl
  cases h

theorem head?_anyNext {rest : List Char} (h : rest ≠ []) : rest.head?.any anyNext = true := by
  cases rest with
  | nil => exact absurd rfl h
  | cons c rest => rfl

namespace Yields

variable {next next' : Char -> Bool} {a b part name : List Char} {es es' : List Event}

theorem nil : Yields next [] [] where
  chars := by
    intro c hc
    cases hc
  passes := by
    intro t expand size offset rest p _ _ hexpanded
    exact ⟨p, .refl, rfl, rfl, hexpanded⟩

theorem append_of_next (ha : Yields next a es) (hb : Yields next' b es')
    (hnext : forall rest : List Char, rest.head?.any next' = true ->
      (b ++ rest).head?.any next = true) :
    Yields next' (a ++ b) (es ++ es') where
  chars := by
    intro c hc
    rcases List.mem_append.mp hc with hc | hc
    · exact ha.chars c hc
    · exact hb.chars c hc
  passes := by
    intro t expand size offset rest p hrest hopen hexpanded
    rcases ha.passes t expand size offset (b ++ rest) p (hnext rest hrest) hopen hexpanded with
      ⟨p₁, hpasses, helements, hevents, hexpanded₁⟩
    rw [← helements] at hopen
    rcases hb.passes t expand size _ rest p₁ hrest hopen hexpanded₁ with
      ⟨p₂, hpasses', helements', hevents', hexpanded₂⟩
    rw [size_append, ← Nat.add_assoc, List.append_assoc]
    refine ⟨p₂, hpasses.trans hpasses', helements'.trans helements, ?_, hexpanded₂⟩
    rw [hevents', hevents, List.reverse_append, List.append_assoc]

/-- Anything may follow a part that does not care. -/
theorem append (ha : Yields anyNext a es) (hb : Yields next b es') :
    Yields next (a ++ b) (es ++ es') := by
  apply ha.append_of_next hb
  intro rest hrest
  apply head?_anyNext
  intro h
  exact ne_nil_of_head? hrest (List.append_eq_nil_iff.mp h).2

theorem append_of_head? (ha : Yields next a es) (hb : Yields next' b es')
    (hhead : b.head?.any next = true) : Yields next' (a ++ b) (es ++ es') := by
  apply ha.append_of_next hb
  intro rest _
  cases b with
  | nil => cases hhead
  | cons c b => exact hhead

theorem mono (h : Yields next part es) (hnext : forall c, next' c = true -> next c = true) :
    Yields next' part es where
  chars := h.chars
  passes := by
    intro t expand size offset rest p hrest
    apply h.passes
    cases rest with
    | nil => cases hrest
    | cons c rest => exact hnext c hrest

theorem of_token (hchars : forall c, c ∈ part -> isChar c = true) {token : ContentToken}
    (hplain : token ≠ .plainStart) (hne : part ≠ [])
    (hscan : forall (size offset : Nat) (rest : List Char), rest.head?.any next = true ->
      scanContent { size } (spread offset (part ++ rest)) =
        .ok (token, spread (offset + Text.Utf8.size part) rest))
    {more : Nat} (hmore : more ≤ Text.Utf8.size part)
    (hread : forall (t : DocumentType) (expand : Expander) (size : Nat) (p : Progress)
      (direct start : Nat),
      readToken t expand (ground size) direct start token p =
        ({ p with events := es.reverse ++ p.events, expanded := p.expanded + more }, none)) :
    Yields next part es where
  chars := hchars
  passes := by
    intro t expand size offset rest p hrest hopen hexpanded
    have hshort : rest.length < (part ++ rest).length := by
      have hlength := List.length_pos_iff.mpr hne
      rw [List.length_append]
      omega
    refine ⟨_, .one (hscan size offset rest hrest) hplain (ne_nil_of_head? hrest) hshort ?_
      (hread t expand size p) hopen, rfl, rfl, ?_⟩
    · exact Nat.le_trans hexpanded (Nat.le_add_right _ _)
    · show p.expanded + more ≤ offset + Text.Utf8.size part
      omega

end Yields

theorem range_of_isAlpha {c : Char} (h : c.isAlpha = true) : 0x41 ≤ c.toNat ∧ c.toNat ≤ 0x7A := by
  rcases (Bool.or_eq_true _ _).mp h with hupper | hlower
  · have hrange : 0x41 ≤ c.toNat ∧ c.toNat ≤ 0x5A := of_decide_eq_true hupper
    omega
  · have hrange := (Bool.and_eq_true _ _).mp hlower
    have hlow : 0x61 ≤ c.toNat := of_decide_eq_true hrange.1
    have hhigh : c.toNat ≤ 0x7A := of_decide_eq_true hrange.2
    omega

theorem isChar_of_isAlpha {c : Char} (h : c.isAlpha = true) : isChar c = true := by
  have hrange := range_of_isAlpha h
  unfold isChar
  simp only [Bool.or_eq_true, Bool.and_eq_true, decide_eq_true_eq]
  left
  right
  omega

theorem chars_of_isPlainName {name : List Char} (h : IsPlainName name) :
    forall c, c ∈ name -> isChar c = true :=
  fun c hc => isChar_of_isAlpha (h.2 c hc)

/-!
## Elements
-/

theorem Passes.start {size offset : Nat} {name rest : List Char} (hname : IsPlainName name)
    (hrest : rest ≠ []) (hexpanded : p.expanded ≤ offset) :
    Passes t expand (ground size) p (spread offset ('<' :: name ++ '>' :: rest))
      { p with events := .start name :: p.events, elements := name :: p.elements }
      (spread (offset + 1 + Text.Utf8.size name + 1) rest) := by
  apply Passes.one (scanContent_start hname offset)
  · intro h
    cases h
  · exact hrest
  · simp only [List.length_append, List.length_cons]
    omega
  · omega
  · exact fun _ _ => rfl
  · exact List.cons_ne_nil _ _

theorem Yields.passes_inside {name content : List Char} {es : List Event}
    (h : Yields endsRun content es) (hname : IsPlainName name) (t : DocumentType) (expand : Expander)
    (size offset : Nat) (rest : List Char) {p : Progress} (hexpanded : p.expanded ≤ offset) :
    exists p',
      Passes t expand (ground size) p
          (spread offset ('<' :: name ++ '>' :: (content ++ ('<' :: '/' :: name ++ '>' :: rest))))
          p'
          (spread (offset + 1 + Text.Utf8.size name + 1 + Text.Utf8.size content)
            ('<' :: '/' :: name ++ '>' :: rest)) ∧
        p'.elements = name :: p.elements ∧ p'.events = es.reverse ++ .start name :: p.events ∧
          p'.expanded ≤ offset + 1 + Text.Utf8.size name + 1 + Text.Utf8.size content := by
  have hstart : Passes t expand (ground size) p
      (spread offset ('<' :: name ++ '>' :: (content ++ ('<' :: '/' :: name ++ '>' :: rest)))) _ _ :=
    .start hname (by simp) hexpanded
  rcases h.passes t expand size (offset + 1 + Text.Utf8.size name + 1)
    ('<' :: '/' :: name ++ '>' :: rest)
    { p with events := .start name :: p.events, elements := name :: p.elements } rfl
    (List.cons_ne_nil _ _) (by show p.expanded ≤ _; omega) with
    ⟨p', hpasses, helements, hevents, hexpanded'⟩
  exact ⟨p', hstart.trans hpasses, helements, hevents, hexpanded'⟩

theorem readStop_cons {name : List Char} {names : List (List Char)}
    (h : p.elements = name :: names) (start offset : Nat) :
    readStop start name offset p =
      ({ p with events := .stop name :: p.events, elements := names }, none) := by
  unfold readStop
  rw [h]
  exact if_pos rfl

theorem Passes.stop {size offset : Nat} {name rest : List Char} {names : List (List Char)}
    (hname : IsPlainName name) (hrest : rest ≠ []) (helements : p.elements = name :: names)
    (hnames : names ≠ []) (hexpanded : p.expanded ≤ offset) :
    Passes t expand (ground size) p (spread offset ('<' :: '/' :: name ++ '>' :: rest))
      { p with events := .stop name :: p.events, elements := names }
      (spread (offset + 1 + 1 + Text.Utf8.size name + 1) rest) := by
  apply Passes.one (scanContent_stop hname offset)
  · intro h
    cases h
  · exact hrest
  · simp only [List.length_append, List.length_cons]
    omega
  · omega
  · exact fun _ start => readStop_cons helements start _
  · exact hnames

def tagged (name content : List Char) : List Char :=
  '<' :: name ++ '>' :: (content ++ ('<' :: '/' :: name ++ ['>']))

theorem tagged_append (name content rest : List Char) :
    tagged name content ++ rest =
      '<' :: name ++ '>' :: (content ++ ('<' :: '/' :: name ++ '>' :: rest)) := by
  simp [tagged]

theorem size_tagged (name content : List Char) :
    size (tagged name content) = 1 + size name + 1 + size content + 1 + 1 + size name + 1 := by
  have hopen : ('<' : Char).utf8Size = 1 := rfl
  have hslash : ('/' : Char).utf8Size = 1 := rfl
  have hclose : ('>' : Char).utf8Size = 1 := rfl
  have hnil : size [] = 0 := rfl
  simp only [tagged, List.cons_append, size_cons, size_append, hopen, hslash, hclose, hnil]
  omega

theorem chars_of_tagged {name content : List Char} (hname : IsPlainName name)
    (hcontent : forall c, c ∈ content -> isChar c = true) :
    forall c, c ∈ tagged name content -> isChar c = true := by
  have hletters := chars_of_isPlainName hname
  simp only [tagged, List.cons_append, List.forall_mem_cons, List.forall_mem_append]
  exact ⟨rfl, hletters, rfl, hcontent, rfl, rfl, hletters, rfl, List.forall_mem_nil _⟩

theorem Yields.element {name content : List Char} {es : List Event}
    (h : Yields endsRun content es) (hname : IsPlainName name) :
    Yields anyNext (tagged name content) (.start name :: (es ++ [.stop name])) where
  chars := chars_of_tagged hname h.chars
  passes := by
    intro t expand size offset rest p hrest hopen hexpanded
    rcases h.passes_inside hname t expand size offset rest hexpanded with
      ⟨p', hpasses, helements, hevents, hexpanded'⟩
    have hrest' := ne_nil_of_head? hrest
    refine ⟨{ p' with events := .stop name :: p'.events, elements := p.elements }, ?_, rfl, ?_, ?_⟩
    · rw [tagged_append, size_tagged]
      simp only [← Nat.add_assoc]
      exact hpasses.trans (.stop hname hrest' helements hopen hexpanded')
    · show Event.stop name :: p'.events = _
      rw [hevents]
      simp
    · show p'.expanded ≤ _
      rw [size_tagged]
      omega

theorem Yields.empty {name : List Char} (hname : IsPlainName name) :
    Yields anyNext ('<' :: name ++ ['/', '>']) [.start name, .stop name] := by
  have hplain : ContentToken.start ⟨name, [], true⟩ ≠ .plainStart := by
    intro h
    cases h
  refine .of_token ?_ hplain (List.cons_ne_nil _ _) ?_ (Nat.zero_le _) ?_
  · simp only [List.cons_append, List.forall_mem_cons, List.forall_mem_append]
    exact ⟨rfl, chars_of_isPlainName hname, rfl, rfl, List.forall_mem_nil _⟩
  · intro size offset rest _
    have hsize : Text.Utf8.size ('<' :: name ++ ['/', '>']) = 1 + Text.Utf8.size name + 1 + 1 := by
      rw [List.cons_append, size_cons, size_append]
      show 1 + (Text.Utf8.size name + 2) = _
      omega
    rw [hsize, List.append_assoc]
    simp only [← Nat.add_assoc]
    exact scanContent_empty hname offset
  · intro t expand size p direct start
    rfl

theorem Yields.read_root {name content rest : List Char} {es : List Event}
    (h : Yields endsRun content es) (hname : IsPlainName name) (hrest : rest ≠ []) (t : DocumentType)
    (expand : Expander) (size offset : Nat) {budget : Nat}
    (hbudget : (spread offset (tagged name content ++ rest)).length < budget) :
    exists p,
      readContent t expand (ground size) budget false (spread offset (tagged name content ++ rest))
          {} = (p, .closed (spread (offset + Text.Utf8.size (tagged name content)) rest)) ∧
        p.events = (.start name :: (es ++ [.stop name])).reverse ∧
          p.expanded ≤ offset + Text.Utf8.size (tagged name content) := by
  have hzero : ({} : Progress).expanded ≤ offset := Nat.zero_le _
  rw [tagged_append] at hbudget ⊢
  rcases h.passes_inside hname t expand size offset rest hzero with
    ⟨p', hpasses, helements, hevents, hexpanded⟩
  rcases hpasses budget hbudget with ⟨budget', hbudget', hread⟩
  refine ⟨{ p' with events := .stop name :: p'.events, elements := [] }, ?_, ?_, ?_⟩
  · cases budget' with
    | zero => exact absurd hbudget' (Nat.not_lt_zero _)
    | succ budget' =>
        rw [hread, readContent_of_token (scanContent_stop hname _) (by intro h; cases h) hrest
          (by omega) (fun _ start => readStop_cons helements start _), size_tagged]
        simp only [← Nat.add_assoc]
        rfl
  · show Event.stop name :: p'.events = _
    rw [hevents]
    simp
  · show p'.expanded ≤ _
    rw [size_tagged]
    omega

end Xml
end EngineClient
