import EngineClient.Proofs.Json.Scalars
import EngineClient.Proofs.Wire.Values

/-!
# Data on a line of JSON

Data is written on one line of printable ASCII, the entries of each table in the order of their
keys, and the line is read as the same data, unless its containers are too deep inside each
other. Main statements: `Value.Data.read_line` and `Value.Data.render_of_deep`.
-/

namespace EngineClient

open Wire (entriesOf set_new)

/-!
## Data
-/

/-- The data that commands give: null values, flags, integers that are not too long, texts, and
what lists and tables with distinct texts for keys make of them. -/
inductive Value.Data : Value → Prop where
  | null : Data .null
  | bool (b : Bool) : Data (.bool b)
  | int {i : Int} (h : (Nat.toDigits 10 i.natAbs).length ≤ Literal.maxIntegerDigits) :
      Data (.int i)
  | text (s : String) : Data (.text s)
  | list {items : List Value} (h : forall v, v ∈ items -> Data v) : Data (.list items)
  | table {members : List (String × Value)} (hnodup : (members.map (·.1)).Nodup)
      (hvalues : forall e, e ∈ members -> Data e.2) : Data (.table (entriesOf members))

theorem Value.Data.nested (n : Nat) : (Value.nested n).Data := by
  induction n with
  | zero => exact .list fun v hv => nomatch hv
  | succ n ih =>
      refine .list fun v hv => ?_
      rw [List.mem_singleton.mp hv]
      exact ih

mutual

def Value.Same : Value → Value → Prop
  | .list vs, .list ws => SameItems vs ws
  | .table es, .table fs => es.length = fs.length ∧ SameEntries es fs
  | v, w => v = w

def SameItems : List Value → List Value → Prop
  | [], [] => True
  | v :: vs, w :: ws => v.Same w ∧ SameItems vs ws
  | _, _ => False

def SameEntries : List (Key × Value) → Table → Prop
  | [], _ => True
  | (k, v) :: es, fs => (exists w, fs.get? k = some w ∧ v.Same w) ∧ SameEntries es fs

end

theorem sameEntries_of_forall {es : List (Key × Value)} {fs : Table}
    (h : forall e, e ∈ es -> exists w, fs.get? e.1 = some w ∧ e.2.Same w) :
    SameEntries es fs := by
  induction es with
  | nil =>
      rw [SameEntries]
      trivial
  | cons e es ih =>
      rw [SameEntries]
      exact ⟨h e List.mem_cons_self, ih fun f hf => h f (List.mem_cons_of_mem e hf)⟩

theorem SameEntries.forall {es : List (Key × Value)} {fs : Table} (h : SameEntries es fs) :
    forall e, e ∈ es -> exists w, fs.get? e.1 = some w ∧ e.2.Same w := by
  induction es with
  | nil =>
      intro e he
      cases he
  | cons e es ih =>
      rw [SameEntries] at h
      intro f hf
      rcases List.mem_cons.mp hf with rfl | hf
      · exact h.1
      · exact ih h.2 f hf

theorem Value.Same.of_table {members : List (String × Value)} {w : Value}
    (h : (Value.table (entriesOf members)).Same w) :
    exists fs : Table,
      w = .table fs ∧ fs.length = members.length ∧
        forall e, e ∈ members -> exists u, fs.get? (.text e.1) = some u ∧ e.2.Same u := by
  cases w with
  | table fs =>
      rw [Value.Same] at h
      refine ⟨fs, rfl, ?_, fun e he => ?_⟩
      · rw [← h.1, entriesOf, List.length_map]
      · exact h.2.forall (.text e.1, e.2) (List.mem_map.mpr ⟨e, he, rfl⟩)
  | _ => simp [Value.Same] at h

theorem Value.Same.of_int {i : Int} {w : Value} (h : (Value.int i).Same w) : w = .int i := by
  simpa [Value.Same] using h.symm

/-!
## Tables with distinct keys
-/

namespace Table

theorem get?_entriesOf {members : List (String × Value)} (hnodup : (members.map (·.1)).Nodup)
    {e : String × Value} (he : e ∈ members) : get? (entriesOf members) (.text e.1) = some e.2 := by
  induction members with
  | nil => cases he
  | cons f members ih =>
      rw [List.map_cons, List.nodup_cons] at hnodup
      rcases List.mem_cons.mp he with rfl | he
      · simp [get?, entriesOf]
      · have hne : e.1 ≠ f.1 := by
          intro heq
          exact hnodup.1 (List.mem_map.mpr ⟨e, he, heq⟩)
        have hrest := ih hnodup.2 he
        simp only [get?, entriesOf] at hrest ⊢
        rw [List.map_cons, List.find?_cons_of_neg (by simpa using hne)]
        exact hrest

theorem foldl_set_entriesOf {members : List (String × Value)} (t : Table)
    (hnodup : (members.map (·.1)).Nodup)
    (h : forall e, e ∈ members -> forall f, f ∈ t -> Key.same (.text e.1) f.1 = false) :
    (entriesOf members).foldl (fun t e => set t e.1 e.2) t = t ++ entriesOf members := by
  induction members generalizing t with
  | nil => exact (List.append_nil t).symm
  | cons e members ih =>
      rw [List.map_cons, List.nodup_cons] at hnodup
      have hset := set_new e.2 (h e List.mem_cons_self)
      show (entriesOf members).foldl _ (set t (.text e.1) e.2) = _
      rw [hset, ih _ hnodup.2]
      · exact List.append_assoc _ _ _
      · intro f hf g hg
        rcases List.mem_append.mp hg with hg | hg
        · exact h f (List.mem_cons_of_mem e hf) g hg
        · rw [List.mem_singleton.mp hg, Key.same_text, beq_eq_false_iff_ne]
          intro heq
          exact hnodup.1 (List.mem_map.mpr ⟨f, hf, heq⟩)

theorem ofEntries_entriesOf {members : List (String × Value)}
    (hnodup : (members.map (·.1)).Nodup) : ofEntries (entriesOf members) = entriesOf members :=
  foldl_set_entriesOf [] hnodup fun _ _ _ hf => absurd hf List.not_mem_nil

end Table

namespace Json

/-!
## Lists
-/

def comma : List Char := [',', ' ']

theorem intercalate_cons {t : List Char} {ts : List (List Char)} (h : ts ≠ []) :
    List.intercalate comma (t :: ts) = t ++ ',' :: ' ' :: List.intercalate comma ts := by
  cases ts with
  | nil => exact absurd rfl h
  | cons u us =>
      rw [List.intercalate_cons_cons, List.append_assoc]
      rfl

theorem plain_intercalate {ts : List (List Char)}
    (h : forall t, t ∈ ts -> forall c, c ∈ t -> IsPlain c) :
    forall c, c ∈ List.intercalate comma ts -> IsPlain c := by
  induction ts with
  | nil =>
      intro c hc
      cases hc
  | cons t ts ih =>
      have hhead := h t List.mem_cons_self
      have hrest := ih fun u hu => h u (List.mem_cons_of_mem t hu)
      intro c hc
      by_cases hts : ts = []
      · rw [hts, List.intercalate_singleton] at hc
        exact hhead c hc
      · rw [intercalate_cons hts] at hc
        rcases List.mem_append.mp hc with hc | hc
        · exact hhead c hc
        · rcases List.mem_cons.mp hc with rfl | hc
          · decide
          · rcases List.mem_cons.mp hc with rfl | hc
            · decide
            · exact hrest c hc

theorem readItems?_intercalate {ts : List (List Char)} {ws : List Value}
    (h : List.Forall₂ ReadAs ts ws) (hne : ts ≠ []) (rest : List Char) {budget : Nat}
    (hbudget : (List.intercalate comma ts).length < budget) :
    readItems? budget (List.intercalate comma ts ++ ']' :: rest) = some (ws, rest) := by
  have hspace : forall cs, skipSpace (']' :: cs) = ']' :: cs := by
    intro cs
    simp [skipSpace]
  have hcomma : forall cs, skipSpace (',' :: cs) = ',' :: cs := by
    intro cs
    simp [skipSpace]
  induction h generalizing budget with
  | nil => exact absurd rfl hne
  | @cons t w ts ws hread hrest ih =>
      cases budget with
      | zero => cases hbudget
      | succ budget =>
          rw [readItems?]
          by_cases hts : ts = []
          · subst hts
            cases hrest
            rw [List.intercalate_singleton] at hbudget ⊢
            rw [hread.read _ budget (stops_cons rfl _) (by omega)]
            simp only [Option.bind_eq_bind, Option.bind_some, hspace, Option.pure_def]
          · rw [intercalate_cons hts] at hbudget ⊢
            simp only [List.length_append, List.length_cons] at hbudget
            rw [List.append_assoc, List.cons_append, List.cons_append,
              hread.read _ budget (stops_cons rfl _) (by omega)]
            have hlong : (List.intercalate comma ts).length < budget := by
              omega
            have hothers := ih hts hlong
            simp only [Option.bind_eq_bind, Option.bind_some, hcomma, readItems?_space, hothers,
              Option.pure_def]

theorem bracket_line (depth : Nat) (opening closing : Char) (ts : List (List Char)) :
    line.bracket depth opening closing ts =
      opening :: List.intercalate comma ts ++ [closing] := by
  cases ts with
  | nil => rfl
  | cons t ts => simp [Layout.bracket, Layout.newline, Layout.separator, line, comma]

theorem plain_bracket {opening closing : Char} (hopening : IsPlain opening)
    (hclosing : IsPlain closing) {ts : List (List Char)}
    (h : forall t, t ∈ ts -> forall c, c ∈ t -> IsPlain c) (depth : Nat) :
    forall c, c ∈ line.bracket depth opening closing ts -> IsPlain c := by
  intro c hc
  rw [bracket_line, List.cons_append] at hc
  rcases List.mem_cons.mp hc with rfl | hc
  · exact hopening
  · rcases List.mem_append.mp hc with hc | hc
    · exact plain_intercalate h c hc
    · rw [List.mem_singleton.mp hc]
      exact hclosing

theorem readAs_list {ts : List (List Char)} {ws : List Value} (h : List.Forall₂ ReadAs ts ws)
    (depth : Nat) : ReadAs (line.bracket depth '[' ']' ts) (.list ws) := by
  have hplain : forall t, t ∈ ts -> forall c, c ∈ t -> IsPlain c := by
    clear depth
    induction h with
    | nil =>
        intro t ht
        cases ht
    | cons hread _ ih =>
        intro u hu
        rcases List.mem_cons.mp hu with rfl | hu
        · exact hread.plain
        · exact ih u hu
  refine ⟨plain_bracket (by decide) (by decide) hplain depth, ?_, ?_⟩
  · rw [bracket_line]
    exact ⟨'[', _, rfl, by decide⟩
  · intro rest budget _ hbudget
    rw [bracket_line] at hbudget ⊢
    simp only [List.cons_append, List.append_assoc, List.nil_append, List.length_cons,
      List.length_append] at hbudget ⊢
    cases budget with
    | zero => omega
    | succ budget =>
        cases h with
        | nil => exact readValue?_emptyList budget rest
        | @cons t w ts ws hread hrest =>
            rcases hread.starts with ⟨c, tail, htext, hstarts⟩
            have hlong : (List.intercalate comma (t :: ts)).length < budget := by
              omega
            have hitems := readItems?_intercalate (.cons hread hrest) (List.cons_ne_nil t ts) rest
              hlong
            have hfirst : exists tail,
                List.intercalate comma (t :: ts) ++ ']' :: rest = c :: tail := by
              by_cases hts : ts = []
              · rw [hts, List.intercalate_singleton, htext]
                exact ⟨_, rfl⟩
              · rw [intercalate_cons hts, htext]
                exact ⟨_, rfl⟩
            rcases hfirst with ⟨tail, hfirst⟩
            rw [hfirst] at hitems ⊢
            rw [readValue?_items hstarts, hitems]
            rfl

/-!
## Tables
-/

def entryText (k : String) (cs : List Char) : List Char :=
  string k ++ ':' :: ' ' :: cs

theorem plain_entryText {k : String} {cs : List Char} (h : forall c, c ∈ cs -> IsPlain c) :
    forall c, c ∈ entryText k cs -> IsPlain c := by
  intro c hc
  rcases List.mem_append.mp hc with hc | hc
  · exact isPlain_stringChars hc
  · rcases List.mem_cons.mp hc with rfl | hc
    · decide
    · rcases List.mem_cons.mp hc with rfl | hc
      · decide
      · exact h c hc

/-- The keys of a table, each with the text of what is under it and what that is read as. -/
abbrev Shown := List (String × List Char × Value)

def Shown.texts (ms : Shown) : List (List Char) :=
  ms.map fun m => entryText m.1 m.2.1

def Shown.members (ms : Shown) : List (String × Value) :=
  ms.map fun m => (m.1, m.2.2)

/-- What is read behind a value under a key: more entries, or the end of the table. -/
def readFurther? (budget : Nat) (k : String) (v : Value) (tail : List Char) :
    Option (List (Key × Value) × List Char) :=
  match skipSpace tail with
  | ',' :: rest => (readEntries? budget rest).bind fun r => some ((.text k, v) :: r.1, r.2)
  | '\x7d' :: rest => some ([(.text k, v)], rest)
  | _ => none

theorem readEntries?_key (budget : Nat) (k : String) (cs : List Char) (v : Value)
    (tail : List Char) (h : k.toList.length ≤ budget)
    (hread : readValue? budget (' ' :: cs) = some (v, tail)) :
    readEntries? (budget + 1) (string k ++ ':' :: ' ' :: cs) = readFurther? budget k v tail := by
  have hquote : forall ds, skipSpace ('"' :: ds) = '"' :: ds := by
    intro ds
    simp [skipSpace]
  have hcolon : forall ds, skipSpace (':' :: ds) = ':' :: ds := by
    intro ds
    simp [skipSpace]
  have hkey := readString?_escaped k.toList (':' :: ' ' :: cs) (Nat.lt_succ_of_le h)
  rw [string, stringChars, List.cons_append, List.cons_append, List.append_assoc,
    List.singleton_append, readEntries?, hquote]
  simp only [after?, if_true, Option.bind_eq_bind, Option.bind_some, hkey, hcolon, hread,
    String.ofList_toList, Option.pure_def]
  rfl

theorem readEntries?_intercalate {ms : Shown} (h : forall m, m ∈ ms -> ReadAs m.2.1 m.2.2)
    (hne : ms ≠ []) (rest : List Char) {budget : Nat}
    (hbudget : (List.intercalate comma ms.texts).length < budget) :
    readEntries? budget (List.intercalate comma ms.texts ++ '\x7d' :: rest) =
      some (entriesOf ms.members, rest) := by
  have hbrace : forall cs, skipSpace ('\x7d' :: cs) = '\x7d' :: cs := by
    intro cs
    simp [skipSpace]
  have hcomma : forall cs, skipSpace (',' :: cs) = ',' :: cs := by
    intro cs
    simp [skipSpace]
  induction ms generalizing budget with
  | nil => exact absurd rfl hne
  | cons m ms ih =>
      have hread := h m List.mem_cons_self
      have hkey := length_le_flatMap_escapeChar m.1.toList
      cases budget with
      | zero => cases hbudget
      | succ budget =>
          by_cases hms : ms = []
          · subst hms
            simp only [Shown.texts, List.map_cons, List.map_nil, List.intercalate_singleton,
              entryText, string, stringChars, List.length_append, List.length_cons] at hbudget
            simp only [Shown.texts, List.map_cons, List.map_nil, List.intercalate_singleton,
              entryText, List.append_assoc, List.cons_append]
            rw [readEntries?_key budget m.1 _ m.2.2 ('\x7d' :: rest) (by omega)
              (by rw [readValue?_space, hread.read _ budget (stops_cons rfl _) (by omega)]),
              readFurther?, hbrace]
            rfl
          · have htexts : Shown.texts ms ≠ [] := by
              simpa [Shown.texts] using hms
            have hsplit : List.intercalate comma (Shown.texts (m :: ms)) =
                entryText m.1 m.2.1 ++ ',' :: ' ' :: List.intercalate comma (Shown.texts ms) :=
              intercalate_cons htexts
            rw [hsplit] at hbudget ⊢
            simp only [entryText, string, stringChars, List.length_append, List.length_cons]
              at hbudget
            have hlong : (List.intercalate comma (Shown.texts ms)).length < budget := by
              omega
            have hothers := ih (fun n hn => h n (List.mem_cons_of_mem m hn)) hms hlong
            simp only [entryText, List.append_assoc, List.cons_append]
            rw [readEntries?_key budget m.1 _ m.2.2 _ (by omega)
              (by rw [readValue?_space, hread.read _ budget (stops_cons rfl _) (by omega)]),
              readFurther?, hcomma]
            simp only [readEntries?_space, hothers, Option.bind_some]
            rfl

theorem readValue?_emptyTable (budget : Nat) (cs : List Char) :
    readValue? (budget + 1) ('\x7b' :: '\x7d' :: cs) = some (.table [], cs) := by
  have hskip : skipSpace ('\x7d' :: cs) = '\x7d' :: cs := by
    simp [skipSpace]
  rw [readValue?, skipSpace_of_starts (by decide)]
  simp only [hskip]

theorem readValue?_entries (budget : Nat) (cs : List Char) :
    readValue? (budget + 1) ('\x7b' :: '"' :: cs) =
      (readEntries? budget ('"' :: cs)).map fun r => (.table (Table.ofEntries r.1), r.2) := by
  have hskip : skipSpace ('"' :: cs) = '"' :: cs := by
    simp [skipSpace]
  rw [readValue?, skipSpace_of_starts (by decide)]
  simp only [hskip]
  rfl

theorem readAs_table {ms : Shown} (h : forall m, m ∈ ms -> ReadAs m.2.1 m.2.2)
    (hnodup : (ms.members.map (·.1)).Nodup) (depth : Nat) :
    ReadAs (line.bracket depth '\x7b' '\x7d' ms.texts) (.table (entriesOf ms.members)) := by
  have hplain : forall t, t ∈ ms.texts -> forall c, c ∈ t -> IsPlain c := by
    intro t ht
    rcases List.mem_map.mp ht with ⟨m, hm, rfl⟩
    exact plain_entryText (h m hm).plain
  refine ⟨plain_bracket (by decide) (by decide) hplain depth, ?_, ?_⟩
  · rw [bracket_line]
    exact ⟨'\x7b', _, rfl, by decide⟩
  · intro rest budget _ hbudget
    rw [bracket_line] at hbudget ⊢
    simp only [List.cons_append, List.append_assoc, List.nil_append, List.length_cons,
      List.length_append] at hbudget ⊢
    cases budget with
    | zero => omega
    | succ budget =>
        by_cases hms : ms = []
        · subst hms
          exact readValue?_emptyTable budget rest
        · have hlong : (List.intercalate comma ms.texts).length < budget := by
            omega
          have hentries := readEntries?_intercalate h hms rest hlong
          have hfirst : exists tail,
              List.intercalate comma ms.texts ++ '\x7d' :: rest = '"' :: tail := by
            cases ms with
            | nil => exact absurd rfl hms
            | cons m ms =>
                by_cases hrest : Shown.texts ms = []
                · simp only [Shown.texts] at hrest
                  simp only [Shown.texts, List.map_cons, hrest, List.intercalate_singleton]
                  exact ⟨_, rfl⟩
                · have hsplit := intercalate_cons (t := entryText m.1 m.2.1) hrest
                  simp only [Shown.texts, List.map_cons] at hsplit ⊢
                  rw [hsplit]
                  exact ⟨_, rfl⟩
          rcases hfirst with ⟨tail, hfirst⟩
          rw [hfirst] at hentries ⊢
          rw [readValue?_entries, hentries, Option.map_some, Table.ofEntries_entriesOf hnodup]

/-!
## Sorted entries
-/

def Shown.entries (ms : Shown) : List (Key × Except WriteError (List Char)) :=
  ms.map fun m => (.text m.1, .ok m.2.1)

theorem textEntries?_texts {α : Type} (es : List (String × α)) :
    Key.textEntries? (es.map fun e => (.text e.1, e.2)) = some es := by
  induction es with
  | nil => rfl
  | cons e es ih => simp only [List.map_cons, Key.textEntries?, ih, Option.map_some]

theorem sortEntries_texts {α : Type} (es : List (String × α)) :
    Key.sortEntries (es.map fun e => (.text e.1, e.2)) =
      .ok ((es.mergeSort fun a b => decide (a.1 ≤ b.1)).map fun e => (.text e.1, e.2)) := by
  rw [Key.sortEntries, textEntries?_texts]

def Shown.sorted (ms : Shown) : Shown :=
  ms.mergeSort fun a b => decide (a.1 ≤ b.1)

theorem sortEntries_entries (ms : Shown) :
    Key.sortEntries ms.entries = .ok ms.sorted.entries := by
  have hsort : (ms.map fun m => (m.1, (.ok m.2.1 : Except WriteError (List Char)))).mergeSort
      (fun a b => decide (a.1 ≤ b.1)) = ms.sorted.map fun m => (m.1, .ok m.2.1) :=
    (List.map_mergeSort (f := fun m : String × List Char × Value =>
      (m.1, (.ok m.2.1 : Except WriteError (List Char)))) fun _ _ _ _ => rfl).symm
  have htexts : ms.entries =
      (ms.map fun m => (m.1, (.ok m.2.1 : Except WriteError (List Char)))).map
        fun e => (.text e.1, e.2) := by
    rw [Shown.entries, List.map_map]
    rfl
  rw [htexts, sortEntries_texts, hsort, Shown.entries, List.map_map]
  rfl

theorem entryLines_entries (ms : Shown) : entryLines ms.entries = .ok ms.texts := by
  induction ms with
  | nil => rfl
  | cons m ms ih =>
      simp only [Shown.entries, Shown.texts] at ih
      simp only [Shown.entries, Shown.texts, List.map_cons, entryLines, entryLine, keyChars, ih]
      rfl

theorem entries_line (ms : Shown) : line.entries ms.entries = .ok ms.sorted.texts := by
  have hsorted : line.sorted = true := rfl
  rw [Layout.entries, if_pos hsorted, sortEntries_entries]
  exact entryLines_entries ms.sorted

/-!
## Values
-/

/-- A value has one text, wherever there is room for its containers, and that text is read as
the same data. -/
structure Written (v : Value) (cs : List Char) (w : Value) : Prop where
  chars : forall depth, depth + v.depth ≤ Value.maxDepth -> chars line depth v = .ok cs
  reads : ReadAs cs w
  same : v.Same w

theorem itemChars_of_written {items : List Value}
    (h : forall v, v ∈ items -> exists cs w, Written v cs w) :
    exists ts ws,
      (forall depth, depth + Value.depthOfItems items ≤ Value.maxDepth ->
          itemChars line depth items = .ok ts) ∧
        List.Forall₂ ReadAs ts ws ∧ SameItems items ws := by
  induction items with
  | nil =>
      refine ⟨[], [], fun depth _ => ?_, .nil, ?_⟩
      · rw [itemChars]
      · rw [SameItems]
        trivial
  | cons v items ih =>
      rcases h v List.mem_cons_self with ⟨cs, w, hv⟩
      rcases ih fun u hu => h u (List.mem_cons_of_mem v hu) with ⟨ts, ws, hchars, hread, hsame⟩
      refine ⟨cs :: ts, w :: ws, fun depth hroom => ?_, .cons hv.reads hread, ?_⟩
      · rw [Value.depthOfItems] at hroom
        rw [itemChars, hv.chars depth (by omega), hchars depth (by omega)]
        rfl
      · rw [SameItems]
        exact ⟨hv.same, hsame⟩

theorem entryChars_of_written {members : List (String × Value)}
    (h : forall e, e ∈ members -> exists cs w, Written e.2 cs w) :
    exists ms : Shown,
      (forall depth, depth + Value.depthOfEntries (entriesOf members) ≤ Value.maxDepth ->
          entryChars line depth (entriesOf members) = ms.entries) ∧
        ms.map (·.1) = members.map (·.1) ∧ (forall m, m ∈ ms -> ReadAs m.2.1 m.2.2) ∧
        forall e, e ∈ members -> exists m, m ∈ ms ∧ m.1 = e.1 ∧ e.2.Same m.2.2 := by
  induction members with
  | nil =>
      refine ⟨[], fun depth _ => ?_, rfl, fun _ hm => absurd hm List.not_mem_nil,
        fun _ he => absurd he List.not_mem_nil⟩
      show entryChars line depth [] = _
      rw [entryChars]
      rfl
  | cons e members ih =>
      rcases h e List.mem_cons_self with ⟨cs, w, he⟩
      rcases ih fun f hf => h f (List.mem_cons_of_mem e hf) with ⟨ms, hchars, hkeys, hread, hsame⟩
      refine ⟨(e.1, cs, w) :: ms, fun depth hroom => ?_, ?_, ?_, ?_⟩
      · change depth + max e.2.depth (Value.depthOfEntries (entriesOf members)) ≤ _ at hroom
        show entryChars line depth ((.text e.1, e.2) :: entriesOf members) = _
        rw [entryChars, he.chars depth (by omega), hchars depth (by omega)]
        rfl
      · rw [List.map_cons, List.map_cons, hkeys]
      · intro m hm
        rcases List.mem_cons.mp hm with rfl | hm
        · exact he.reads
        · exact hread m hm
      · intro f hf
        rcases List.mem_cons.mp hf with rfl | hf
        · exact ⟨_, List.mem_cons_self, rfl, he.same⟩
        · rcases hsame f hf with ⟨m, hm, hkey, hvalue⟩
          exact ⟨m, List.mem_cons_of_mem _ hm, hkey, hvalue⟩

theorem written_table {members : List (String × Value)}
    (hnodup : (members.map (·.1)).Nodup)
    (h : forall e, e ∈ members -> exists cs w, Written e.2 cs w) :
    exists cs w, Written (.table (entriesOf members)) cs w := by
  rcases entryChars_of_written h with ⟨ms, hchars, hkeys, hread, hsame⟩
  have hperm : ms.sorted.Perm ms := List.mergeSort_perm ms _
  have hmembers : forall ns : Shown, ns.members.map (·.1) = ns.map (·.1) := by
    intro ns
    simp [Shown.members]
  have hsorted : (ms.sorted.members.map (·.1)).Nodup := by
    rw [hmembers, (hperm.map _).nodup_iff, hkeys]
    exact hnodup
  have hlength : (entriesOf members).length = (entriesOf ms.sorted.members).length := by
    have hcount := congrArg List.length hkeys
    have hsort := hperm.length_eq
    simp only [List.length_map] at hcount
    simp only [entriesOf, Shown.members, List.length_map]
    omega
  have htext : forall depth, line.bracket depth '\x7b' '\x7d' ms.sorted.texts =
      line.bracket 0 '\x7b' '\x7d' ms.sorted.texts := by
    intro depth
    rw [bracket_line, bracket_line]
  refine ⟨line.bracket 0 '\x7b' '\x7d' ms.sorted.texts, .table (entriesOf ms.sorted.members),
    ?_, readAs_table (fun m hm => hread m (hperm.mem_iff.mp hm)) hsorted 0, ?_⟩
  · intro depth hroom
    rw [Value.depth] at hroom
    rw [chars, if_pos (by omega), hchars (depth + 1) (by omega), entries_line, ← htext depth]
    rfl
  · rw [Value.Same]
    refine ⟨hlength, sameEntries_of_forall ?_⟩
    intro e he
    rcases List.mem_map.mp he with ⟨f, hf, rfl⟩
    rcases hsame f hf with ⟨m, hm, hkey, hvalue⟩
    have hmem : (m.1, m.2.2) ∈ ms.sorted.members :=
      List.mem_map.mpr ⟨m, hperm.mem_iff.mpr hm, rfl⟩
    have hget := Table.get?_entriesOf hsorted hmem
    rw [hkey] at hget
    exact ⟨m.2.2, hget, hvalue⟩

theorem integerChars_of_short {i : Int}
    (h : (Nat.toDigits 10 i.natAbs).length ≤ Literal.maxIntegerDigits) :
    integerChars i = .ok (Text.decimalInt i).toList := by
  have hshort : Literal.isLong i = false := decide_eq_false (Nat.not_lt.mpr h)
  rw [integerChars, hshort]
  rfl

theorem written_of_data {v : Value} (h : v.Data) : exists cs w, Written v cs w := by
  induction h with
  | null => exact ⟨_, _, fun depth _ => by rw [chars], readAs_null, by simp [Value.Same]⟩
  | bool b => exact ⟨_, _, fun depth _ => by rw [chars], readAs_bool b, by simp [Value.Same]⟩
  | @int i h =>
      refine ⟨_, _, fun depth _ => ?_, readAs_int i, by simp [Value.Same]⟩
      rw [chars, integerChars_of_short h]
  | text s => exact ⟨_, _, fun depth _ => by rw [chars], readAs_text s, by simp [Value.Same]⟩
  | list _ ih =>
      rcases itemChars_of_written ih with ⟨ts, ws, hchars, hread, hsame⟩
      refine ⟨line.bracket 0 '[' ']' ts, .list ws, fun depth hroom => ?_, readAs_list hread 0, ?_⟩
      · rw [Value.depth] at hroom
        rw [chars, if_pos (by omega), hchars (depth + 1) (by omega), Except.map, bracket_line,
          bracket_line]
      · rw [Value.Same]
        exact hsame
  | table hnodup _ ih => exact written_table hnodup ih

/-!
## Too many containers
-/

theorem mapM_eq_error {α β ε : Type} {f : α -> Except ε β} {why : ε} {as : List α}
    (h : forall a, a ∈ as -> f a = .error why ∨ exists b, f a = .ok b)
    (hfails : exists a, a ∈ as ∧ f a = .error why) : as.mapM f = .error why := by
  induction as with
  | nil =>
      rcases hfails with ⟨a, ha, _⟩
      cases ha
  | cons a as ih =>
      rw [List.mapM_cons]
      rcases h a List.mem_cons_self with herror | ⟨b, hb⟩
      · rw [herror]
        rfl
      · have hrest : as.mapM f = .error why := by
          apply ih fun c hc => h c (List.mem_cons_of_mem a hc)
          rcases hfails with ⟨c, hc, herror⟩
          rcases List.mem_cons.mp hc with rfl | hc
          · rw [hb] at herror
            cases herror
          · exact ⟨c, hc, herror⟩
        rw [hb, hrest]
        rfl

theorem entryLines_eq_mapM (es : List (Key × Except WriteError (List Char))) :
    entryLines es = es.mapM entryLine := by
  induction es with
  | nil => rfl
  | cons e es ih =>
      rw [entryLines, List.mapM_cons, ih]
      cases entryLine e with
      | error why => rfl
      | ok l => rfl

theorem itemChars_eq_mapM (depth : Nat) (items : List Value) :
    itemChars line depth items = items.mapM (chars line depth) := by
  induction items with
  | nil =>
      rw [itemChars]
      rfl
  | cons v items ih =>
      rw [itemChars, List.mapM_cons, ih]
      cases chars line depth v with
      | error why => rfl
      | ok cs => rfl

theorem entryLine_text (name : String) (r : Except WriteError (List Char)) :
    entryLine (.text name, r) =
      r.map fun cs => stringChars name.toList ++ ':' :: ' ' :: cs := by
  cases r with
  | error why => rfl
  | ok cs => rfl

theorem entryLines_of_deep {es : List (String × Except WriteError (List Char))}
    (h : forall e, e ∈ es -> e.2 = .error .tooDeep ∨ exists cs, e.2 = .ok cs)
    (hdeep : exists e, e ∈ es ∧ e.2 = .error .tooDeep) :
    entryLines (es.map fun e => (.text e.1, e.2)) = .error .tooDeep := by
  rw [entryLines_eq_mapM]
  apply mapM_eq_error
  · intro e he
    rcases List.mem_map.mp he with ⟨f, hf, rfl⟩
    rw [entryLine_text]
    rcases h f hf with herror | ⟨cs, hcs⟩
    · rw [herror]
      exact Or.inl rfl
    · rw [hcs]
      exact Or.inr ⟨_, rfl⟩
  · rcases hdeep with ⟨f, hf, herror⟩
    refine ⟨_, List.mem_map_of_mem hf, ?_⟩
    rw [entryLine_text, herror]
    rfl

theorem entries_of_deep {es : List (String × Except WriteError (List Char))}
    (h : forall e, e ∈ es -> e.2 = .error .tooDeep ∨ exists cs, e.2 = .ok cs)
    (hdeep : exists e, e ∈ es ∧ e.2 = .error .tooDeep) :
    line.entries (es.map fun e => (.text e.1, e.2)) = .error .tooDeep := by
  have hsorted : line.sorted = true := rfl
  have hperm := List.mergeSort_perm es fun a b => decide (a.1 ≤ b.1)
  rw [Layout.entries, if_pos hsorted, sortEntries_texts]
  apply entryLines_of_deep fun e he => h e (hperm.mem_iff.mp he)
  rcases hdeep with ⟨e, he, herror⟩
  exact ⟨e, hperm.mem_iff.mpr he, herror⟩

theorem entryChars_entriesOf (depth : Nat) (members : List (String × Value)) :
    entryChars line depth (entriesOf members) =
      (members.map fun e => (e.1, chars line depth e.2)).map fun e => (.text e.1, e.2) := by
  induction members with
  | nil =>
      show entryChars line depth [] = _
      rw [entryChars]
      rfl
  | cons e members ih =>
      show entryChars line depth ((.text e.1, e.2) :: entriesOf members) = _
      rw [entryChars, ih]
      rfl

/-- There is no room at a depth for the containers of a value. -/
def IsDeepAt (depth : Nat) (v : Value) : Prop :=
  Value.maxDepth < depth + v.depth

theorem exists_deep_item {depth : Nat} {items : List Value} (hdepth : depth ≤ Value.maxDepth)
    (h : Value.maxDepth < depth + Value.depthOfItems items) :
    exists v, v ∈ items ∧ IsDeepAt depth v := by
  induction items with
  | nil =>
      rw [Value.depthOfItems] at h
      omega
  | cons v items ih =>
      rw [Value.depthOfItems] at h
      by_cases hv : IsDeepAt depth v
      · exact ⟨v, List.mem_cons_self, hv⟩
      · unfold IsDeepAt at hv
        rcases ih (by omega) with ⟨u, hu, hdeep⟩
        exact ⟨u, List.mem_cons_of_mem v hu, hdeep⟩

theorem depthOfEntries_entriesOf (members : List (String × Value)) :
    Value.depthOfEntries (entriesOf members) = Value.depthOfItems (members.map (·.2)) := by
  induction members with
  | nil =>
      show Value.depthOfEntries [] = _
      rw [Value.depthOfEntries, List.map_nil, Value.depthOfItems]
  | cons e members ih =>
      show Value.depthOfEntries ((.text e.1, e.2) :: entriesOf members) = _
      rw [Value.depthOfEntries, ih, List.map_cons, Value.depthOfItems]

/-- A value that stands at a depth with room for more has its text there, or is too deep. -/
theorem chars_of_data {v : Value} (h : v.Data) {depth : Nat}
    (hdeep : IsDeepAt depth v -> chars line depth v = .error .tooDeep) :
    chars line depth v = .error .tooDeep ∨ exists cs, chars line depth v = .ok cs := by
  by_cases hv : IsDeepAt depth v
  · exact Or.inl (hdeep hv)
  · rcases written_of_data h with ⟨cs, w, hwritten⟩
    exact Or.inr ⟨cs, hwritten.chars depth (Nat.not_lt.mp hv)⟩

theorem chars_of_deep {v : Value} (h : v.Data) {depth : Nat} (hdepth : depth ≤ Value.maxDepth)
    (hdeep : IsDeepAt depth v) : chars line depth v = .error .tooDeep := by
  induction h generalizing depth with
  | @list items hdata ih =>
      rw [IsDeepAt, Value.depth] at hdeep
      rw [chars]
      split
      · rename_i hroom
        have hitems : exists v, v ∈ items ∧ IsDeepAt (depth + 1) v :=
          exists_deep_item hroom (by omega)
        rcases hitems with ⟨v, hv, hvdeep⟩
        rw [itemChars_eq_mapM, mapM_eq_error
          (fun u hu => chars_of_data (hdata u hu) (ih u hu hroom)) ⟨v, hv, ih v hv hroom hvdeep⟩]
        rfl
      · rfl
  | @table members hnodup hdata ih =>
      rw [IsDeepAt, Value.depth, depthOfEntries_entriesOf] at hdeep
      rw [chars]
      split
      · rename_i hroom
        have hitems : exists v, v ∈ members.map (·.2) ∧ IsDeepAt (depth + 1) v :=
          exists_deep_item hroom (by omega)
        rcases hitems with ⟨v, hv, hvdeep⟩
        rcases List.mem_map.mp hv with ⟨e, he, rfl⟩
        rw [entryChars_entriesOf, entries_of_deep]
        · rfl
        · intro f hf
          rcases List.mem_map.mp hf with ⟨g, hg, rfl⟩
          exact chars_of_data (hdata g hg) (ih g hg hroom)
        · exact ⟨_, List.mem_map.mpr ⟨e, he, rfl⟩, ih e he hroom hvdeep⟩
      · rfl
  | _ =>
      simp only [IsDeepAt, Value.depth] at hdeep
      omega

/-- A line that shows a value: printable ASCII, which is read as the same data. -/
structure Shows (l : String) (v : Value) : Prop where
  plain : forall c, c ∈ l.toList -> IsPlain c
  reads : exists w, read? l.toList = some w ∧ v.Same w

end Json

theorem Value.Data.read_line {v : Value} (h : v.Data) (hdepth : v.depth ≤ Value.maxDepth) :
    exists l, Json.render Json.line v = .ok l ∧ Json.Shows l v := by
  rcases Json.written_of_data h with ⟨cs, w, hchars, hread, hsame⟩
  have hwhole := hread.read [] (cs.length + 1) rfl (Nat.le_succ _)
  rw [List.append_nil] at hwhole
  refine ⟨String.ofList cs, ?_, ?_, w, ?_, hsame⟩
  · rw [Json.render, hchars 0 ((Nat.zero_add _).trans_le hdepth)]
    rfl
  · rw [String.toList_ofList]
    exact hread.plain
  · rw [String.toList_ofList, Json.read?, hwhole]
    rfl

/-- Data that is too deep has no line. -/
theorem Value.Data.render_of_deep {v : Value} (h : v.Data) (hdepth : Value.maxDepth < v.depth) :
    Json.render Json.line v = .error .tooDeep := by
  have hdeep : Json.IsDeepAt 0 v := hdepth.trans_eq (Nat.zero_add _).symm
  rw [Json.render, Json.chars_of_deep h (Nat.zero_le _) hdeep]
  rfl

end EngineClient
