import EngineClient.Proofs.Wire.Integers
import EngineClient.Proofs.Wire.Texts

/-!
# Decoding what was written

A decoder that comes to a written value ends with that value on top of the ones that it had,
whatever these were: lists and structs put theirs away until the end tag. Main statement:
`Carried.carries`.
-/

namespace EngineClient
namespace Wire

open Xml

/-!
## What a decoder makes of a part
-/

/-- A part of a message takes a decoder from one state to another. -/
def Says (next : Char -> Bool) (part : List Char) (d d' : Decoder) : Prop :=
  exists es, Yields next part es ∧ d.run es = .ok d'

variable {next : Char -> Bool} {a b part content : List Char} {d d' d'' : Decoder}

theorem element_eq_tagged (name : String) (content : List Char) :
    element name content = tagged name.toList content := by
  simp [element, tagged]

theorem run_singleton (d : Decoder) (e : Event) : d.run [e] = d.step e := by
  rw [Decoder.run]
  cases d.step e <;> rfl

theorem run_start_stop {name : List Char} (h : d.start name = .ok d') :
    d.run [.start name, .stop name] = d'.stop name := by
  rw [Decoder.run, Decoder.step, h]
  exact run_singleton d' (.stop name)

theorem run_append_of_ok {es es' : List Event} (h : d.run es = .ok d') :
    d.run (es ++ es') = d'.run es' := by
  rw [Decoder.run_append, h]
  rfl

theorem run_texts (texts : List (List Char)) (d : Decoder) :
    d.run (texts.map .text) = .ok { d with text := texts.flatten.reverse ++ d.text } := by
  induction texts generalizing d with
  | nil => rfl
  | cons cs texts ih =>
      show ({ d with text := cs.reverseAux d.text } : Decoder).run (texts.map .text) = _
      rw [ih, List.reverseAux_eq, List.flatten_cons, List.reverse_append, List.append_assoc]

namespace Says

theorem nil : Says next [] d d :=
  ⟨[], .nil, rfl⟩

theorem append (ha : Says anyNext a d d') (hb : Says next b d' d'') : Says next (a ++ b) d d'' := by
  rcases ha with ⟨es, hyields, hrun⟩
  rcases hb with ⟨es', hyields', hrun'⟩
  refine ⟨es ++ es', hyields.append hyields', ?_⟩
  rw [run_append_of_ok hrun, hrun']

theorem inside (h : Says anyNext part d d') : Says next part d d' := by
  rcases h with ⟨es, hyields, hrun⟩
  exact ⟨es, hyields.mono fun _ _ => rfl, hrun⟩

theorem lineEnd : Says anyNext ['\n'] d { d with text := '\n' :: d.text } :=
  ⟨_, .lineEnd, rfl⟩

theorem text {cs : List Char} (h : YieldsText part cs) :
    Says endsRun part d { d with text := cs.reverse ++ d.text } := by
  rcases h with ⟨texts, rfl, hyields⟩
  exact ⟨_, hyields, run_texts texts d⟩

theorem element {name : String} {inner inner' : Decoder} (hname : IsPlainName name.toList)
    (hstart : d.start name.toList = .ok inner) (hcontent : Says endsRun content inner inner')
    (hstop : inner'.stop name.toList = .ok d') :
    Says anyNext (element name content) d d' := by
  rcases hcontent with ⟨es, hyields, hrun⟩
  refine ⟨.start name.toList :: (es ++ [.stop name.toList]), ?_, ?_⟩
  · rw [element_eq_tagged]
    exact hyields.element hname
  · rw [Decoder.run, Decoder.step, hstart]
    show inner.run (es ++ [.stop name.toList]) = _
    rw [run_append_of_ok hrun, run_singleton]
    exact hstop

end Says

/-!
## Tags
-/

theorem start_of_tag {name : String} {e : Element} (h : Element.ofTag? name.toList = some e)
    (hlist : e ≠ .list) (hstruct : e ≠ .struct) (d : Decoder) :
    d.start name.toList = .ok { d with text := [], opened := some e == some .value } := by
  unfold Decoder.start
  rw [h]
  simp [hlist, hstruct]

theorem start_of_group {name : String} {e : Element} (h : Element.ofTag? name.toList = some e)
    (hgroup : e = .list ∨ e = .struct) (d : Decoder) :
    d.start name.toList =
      .ok { d with text := [], opened := false, items := [], outer := d.items :: d.outer } := by
  unfold Decoder.start
  rw [h]
  rcases hgroup with rfl | rfl
  · simp
  · simp

theorem start_of_none {name : String} (h : Element.ofTag? name.toList = none)
    (hopened : d.opened = false) :
    d.start name.toList = .ok { d with text := [], opened := false } := by
  unfold Decoder.start
  rw [h, hopened]
  simp

theorem stop_of_none {name : String} (h : Element.ofTag? name.toList = none) (d : Decoder) :
    d.stop name.toList = .ok d := by
  unfold Decoder.stop
  rw [h]

/-!
## Scalars
-/

/-- A part puts a value on top of those that a decoder has, and changes nothing else but the
text that it read last. -/
def Carries (next : Char -> Bool) (part : List Char) (v : Value) : Prop :=
  forall d : Decoder, exists text,
    Says next part d { d with items := v :: d.items, opened := false, text }

theorem tag_value : Element.ofTag? "value".toList = some .value := by
  decide

theorem Carries.value {v : Value} (h : Carries endsRun content v) :
    Carries anyNext (element "value" content) v := by
  intro d
  rcases h { d with text := [], opened := true } with ⟨text, hsays⟩
  refine ⟨text, hsays.element (by decide) (start_of_tag tag_value (by decide) (by decide) d) ?_⟩
  unfold Decoder.stop
  rw [tag_value]
  rfl

theorem Carries.line {v : Value} (h : Carries anyNext part v) :
    Carries anyNext (part ++ ['\n']) v := by
  intro d
  rcases h d with ⟨text, hsays⟩
  exact ⟨'\n' :: text, hsays.append .lineEnd⟩

theorem carries_kind {kind : String} {e : Element} {cs : List Char} {v : Value}
    (hname : IsPlainName kind.toList) (htag : Element.ofTag? kind.toList = some e)
    (he : e ≠ .list ∧ e ≠ .struct ∧ e ≠ .value)
    (hstop : forall d : Decoder, d.text = cs.reverse -> d.stop kind.toList = .ok (d.push v))
    (h : YieldsText content cs) : Carries anyNext (element kind content) v := by
  intro d
  have hstart : d.start kind.toList = .ok { d with text := [], opened := false } := by
    rw [start_of_tag htag he.1 he.2.1]
    simp [he.2.2]
  refine ⟨cs.reverse, Says.element hname hstart (Says.text h) ?_⟩
  rw [hstop _ (List.append_nil _)]
  simp only [Decoder.push, List.append_nil]

theorem Carries.inside {v : Value} (h : Carries anyNext part v) : Carries next part v := by
  intro d
  rcases h d with ⟨text, hsays⟩
  exact ⟨text, hsays.inside⟩

theorem Carries.scalar {kind : String} {v : Value} (h : Carries anyNext (element kind content) v) :
    Carries anyNext (scalarText kind content) v :=
  h.inside.value.line

theorem carries_escape {kind : String} (hname : IsPlainName kind.toList)
    (htag : Element.ofTag? kind.toList = some .text) {s : String}
    (h : forall c, c ∈ s.toList -> IsKept c) :
    Carries anyNext (element kind (escape s.toList)) (.text s) := by
  refine carries_kind hname htag (by decide) ?_ (yields_escape h)
  intro d hd
  unfold Decoder.stop
  rw [htag, hd, List.reverse_reverse]
  simp only [String.ofList_toList]

theorem carries_null : Carries anyNext (valueText .null) .null := by
  have hnil : Carries endsRun "<nil/>".toList .null := by
    intro d
    have htag : Element.ofTag? "nil".toList = some .null := by
      decide
    refine ⟨[], Says.inside ⟨_, Yields.empty (by decide : IsPlainName "nil".toList), ?_⟩⟩
    rw [run_start_stop (start_of_tag htag (by decide) (by decide) d)]
    unfold Decoder.stop
    rw [htag]
    rfl
  rw [valueText]
  exact hnil.value

theorem carries_bool (b : Bool) : Carries anyNext (valueText (.bool b)) (.bool b) := by
  have hplain : forall c, c ∈ [if b then '1' else '0'] -> IsPlain c := by
    intro c hc
    rw [List.mem_singleton.mp hc]
    cases b with
    | false => exact ⟨by decide, by decide, by decide⟩
    | true => exact ⟨by decide, by decide, by decide⟩
  have htag : Element.ofTag? "boolean".toList = some .flag := by
    decide
  rw [valueText]
  refine (carries_kind (by decide) htag (by decide) ?_
    (.single (.run (List.cons_ne_nil _ _) hplain))).scalar
  intro d hd
  unfold Decoder.stop
  rw [htag, hd]
  cases b with
  | false => rfl
  | true => rfl

theorem isPlain_of_range {c : Char} (h : 45 ≤ c.toNat ∧ c.toNat ≤ 57) : IsPlain c := by
  have hne : forall d : Char, d.toNat < 45 ∨ 57 < d.toNat -> c ≠ d := by
    rintro d hd rfl
    omega
  have hchar : isChar c = true := by
    unfold isChar
    simp only [Bool.or_eq_true, Bool.and_eq_true, decide_eq_true_eq]
    left
    right
    omega
  refine ⟨hchar, ?_, hne '>' (by decide)⟩
  simp [endsRun, hne '<' (by decide), hne '&' (by decide), hne '\r' (by decide),
    hne '\n' (by decide)]

theorem carries_int {i : Int} (h : isCarried i = true) :
    Carries anyNext (valueText (.int i)) (.int i) := by
  have htag : Element.ofTag? "int".toList = some .integer := by
    decide
  rw [valueText]
  refine (carries_kind (by decide) htag (by decide) ?_ (.single (.run ?_ ?_))).scalar
  · intro d hd
    unfold Decoder.stop
    rw [htag, hd, List.reverse_reverse]
    simp only [decodeInteger_decimalInt h]
    rfl
  · exact decimalInt_ne_nil i
  · exact fun c hc => isPlain_of_range (range_of_mem_decimalInt hc)

theorem carries_text {s : String} (h : forall c, c ∈ s.toList -> IsKept c) :
    Carries anyNext (valueText (.text s)) (.text s) := by
  have htag : Element.ofTag? "string".toList = some .text := by
    decide
  rw [valueText]
  exact (carries_escape (by decide) htag h).scalar

/-!
## Lists
-/

theorem says_items {items : List Value}
    (h : forall v, v ∈ items -> Carries anyNext (valueText v) v) (d : Decoder)
    (hopened : d.opened = false) :
    exists text,
      Says anyNext (itemsText items) d { d with items := items.reverse ++ d.items, text } := by
  induction items generalizing d with
  | nil =>
      rw [itemsText]
      exact ⟨d.text, Says.nil⟩
  | cons v items ih =>
      rcases h v List.mem_cons_self d with ⟨text, hfirst⟩
      rcases ih (fun w hw => h w (List.mem_cons_of_mem v hw))
        { d with items := v :: d.items, opened := false, text } rfl with ⟨text', hrest⟩
      refine ⟨text', ?_⟩
      rw [itemsText, List.reverse_cons, List.append_assoc, hopened]
      exact hfirst.append hrest

theorem carries_listText {items : List Value}
    (h : forall v, v ∈ items -> Carries anyNext (valueText v) v) :
    Carries anyNext (listText items) (.list items) := by
  have harray : Element.ofTag? "array".toList = some .list := by
    decide
  have hdata : Element.ofTag? "data".toList = none := by
    decide
  have hlist : Carries endsRun (element "array" (element "data" ('\n' :: itemsText items)))
      (.list items) := by
    intro d
    rcases says_items h
      { d with items := [], outer := d.items :: d.outer, text := ['\n'], opened := false } rfl with
      ⟨text, hitems⟩
    refine ⟨text, Says.inside (Says.element (by decide) (start_of_group harray (Or.inl rfl) d)
      (Says.inside (Says.element (by decide) (start_of_none hdata rfl)
        (Says.inside (Says.lineEnd.append hitems)) (stop_of_none hdata _))) ?_)⟩
    unfold Decoder.stop
    rw [harray]
    simp [Decoder.close]
  rw [listText]
  exact hlist.value.line

/-!
## Structs
-/

def entriesOf (members : List (String × Value)) : List (Key × Value) :=
  members.map fun e => (.text e.1, e.2)

def pairsOf (members : List (String × Value)) : List Value :=
  members.flatMap fun e => [.text e.1, e.2]

theorem set_new {t : Table} {key : Key} (v : Value) (h : forall e, e ∈ t -> key.same e.1 = false) :
    Table.set t key v = t ++ [(key, v)] := by
  induction t with
  | nil => rfl
  | cons e t ih =>
      have he : ¬key.same e.1 = true := by
        rw [h e List.mem_cons_self]
        exact Bool.false_ne_true
      rw [Table.set, if_neg he, ih fun f hf => h f (List.mem_cons_of_mem e hf)]
      rfl

theorem gather_pairs {members : List (String × Value)} (hkeys : (members.map (·.1)).Nodup)
    (t : Table)
    (h : forall e, e ∈ members -> forall f, f ∈ t -> Key.same (.text e.1) f.1 = false) :
    gather t (pairsOf members) = .ok (t ++ entriesOf members) := by
  induction members generalizing t with
  | nil =>
      show Except.ok t = _
      rw [entriesOf, List.map_nil, List.append_nil]
  | cons e members ih =>
      rw [List.map_cons, List.nodup_cons] at hkeys
      have hset := set_new e.2 (h e List.mem_cons_self)
      show gather (Table.set t (.text e.1) e.2) (pairsOf members) = _
      rw [hset, ih hkeys.2]
      · rw [List.append_assoc]
        rfl
      · intro f hf g hg
        rcases List.mem_append.mp hg with hg | hg
        · exact h f (List.mem_cons_of_mem e hf) g hg
        · rw [List.mem_singleton.mp hg, Key.same_text, beq_eq_false_iff_ne]
          intro heq
          exact hkeys.1 (List.mem_map.mpr ⟨f, hf, heq⟩)

theorem tag_name : Element.ofTag? "name".toList = some .text := by
  decide

theorem says_members {members : List (String × Value)}
    (hkeys : forall e, e ∈ members -> forall c, c ∈ e.1.toList -> IsKept c)
    (hvalues : forall e, e ∈ members -> Carries anyNext (valueText e.2) e.2) (d : Decoder)
    (hopened : d.opened = false) :
    exists text,
      Says anyNext (membersText (entriesOf members)) d
        { d with items := (pairsOf members).reverse ++ d.items, text } := by
  have hmember : Element.ofTag? "member".toList = none := by
    decide
  induction members generalizing d with
  | nil =>
      rw [entriesOf, List.map_nil, membersText]
      exact ⟨d.text, Says.nil⟩
  | cons e members ih =>
      rcases carries_escape (by decide) tag_name (hkeys e List.mem_cons_self)
        { d with text := ['\n'], opened := false } with ⟨text, hname⟩
      rcases hvalues e List.mem_cons_self
        { d with items := .text e.1 :: d.items, text := '\n' :: text, opened := false } with
        ⟨text', hvalue⟩
      rcases ih (fun f hf => hkeys f (List.mem_cons_of_mem e hf))
        (fun f hf => hvalues f (List.mem_cons_of_mem e hf))
        { d with items := e.2 :: .text e.1 :: d.items, text := '\n' :: text', opened := false }
        rfl with ⟨text'', hrest⟩
      refine ⟨text'', ?_⟩
      have hinside : Says anyNext
          ('\n' :: element "name" (escape e.1.toList) ++ '\n' :: valueText e.2)
          { d with text := [], opened := false }
          { d with items := e.2 :: .text e.1 :: d.items, text := text', opened := false } :=
        (Says.lineEnd.append hname).append (Says.lineEnd.append hvalue)
      have hfirst := (Says.element (by decide) (start_of_none hmember hopened) (Says.inside hinside)
        (stop_of_none hmember _)).append (Says.lineEnd.append hrest)
      have hitems : (pairsOf (e :: members)).reverse ++ d.items =
          (pairsOf members).reverse ++ e.2 :: .text e.1 :: d.items := by
        simp [pairsOf]
      rw [hitems, hopened]
      rw [entriesOf, List.map_cons, membersText]
      exact hfirst

theorem carries_table {members : List (String × Value)} (hnodup : (members.map (·.1)).Nodup)
    (hkeys : forall e, e ∈ members -> forall c, c ∈ e.1.toList -> IsKept c)
    (hvalues : forall e, e ∈ members -> Carries anyNext (valueText e.2) e.2) :
    Carries anyNext (valueText (.table (entriesOf members))) (.table (entriesOf members)) := by
  have htag : Element.ofTag? "struct".toList = some .struct := by
    decide
  have hstruct : Carries endsRun (element "struct" ('\n' :: membersText (entriesOf members)))
      (.table (entriesOf members)) := by
    intro d
    rcases says_members hkeys hvalues
      { d with items := [], outer := d.items :: d.outer, text := ['\n'], opened := false } rfl with
      ⟨text, hmembers⟩
    refine ⟨text, Says.inside (Says.element (by decide) (start_of_group htag (Or.inr rfl) d)
      (Says.inside (Says.lineEnd.append hmembers)) ?_)⟩
    unfold Decoder.stop
    rw [htag]
    simp [gather_pairs hnodup [] (fun _ _ f hf => absurd hf List.not_mem_nil), Decoder.close,
      Except.map]
  rw [valueText]
  exact hstruct.value.line

/-!
## Values
-/

/-- The values that a message carries as they are: none but those built from the null value,
flags, integers of 32 bits and kept texts, by lists and by structs with distinct keys. -/
inductive Carried : Value -> Prop where
  | null : Carried .null
  | bool (b : Bool) : Carried (.bool b)
  | int {i : Int} (h : isCarried i = true) : Carried (.int i)
  | text {s : String} (h : forall c, c ∈ s.toList -> IsKept c) : Carried (.text s)
  | list {items : List Value} (h : forall v, v ∈ items -> Carried v) : Carried (.list items)
  | table {members : List (String × Value)} (hnodup : (members.map (·.1)).Nodup)
      (hkeys : forall e, e ∈ members -> forall c, c ∈ e.1.toList -> IsKept c)
      (hvalues : forall e, e ∈ members -> Carried e.2) : Carried (.table (entriesOf members))

theorem Carried.carries {v : Value} (h : Carried v) : Carries anyNext (valueText v) v := by
  induction h with
  | null => exact carries_null
  | bool b => exact carries_bool b
  | int h => exact carries_int h
  | text h => exact carries_text h
  | list _ ih =>
      rw [valueText]
      exact carries_listText ih
  | table hnodup hkeys _ ih => exact carries_table hnodup hkeys ih

end Wire
end EngineClient
