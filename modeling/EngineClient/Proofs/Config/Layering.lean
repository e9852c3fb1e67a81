import EngineClient.Proofs.Config.Checks
import EngineClient.Proofs.Disk.Entries
import EngineClient.Proofs.Text.Utf8
import EngineClient.Proofs.Toml.Limits
import Mathlib.Data.List.Nodup

/-!
# Layers of settings, as one table

Loading options checks the table that gives each option the first of what the caller passes,
what the environment says, what the settings file says and the default. What a higher layer
hides, and what no option is named by, has no effect, unless the settings file nests too
deeply to be read at all. Main statement: `load_of_layers`.
-/

namespace EngineClient

theorem flatMap_eq_of_single {α β : Type} {f : α -> List β} {l : List α} {a : α} (hl : l.Nodup)
    (ha : a ∈ l) (h : forall b, b ∈ l -> b ≠ a -> f b = []) : l.flatMap f = f a := by
  rcases List.append_of_mem ha with ⟨before, after, rfl⟩
  rw [List.nodup_middle, List.nodup_cons, List.mem_append, not_or] at hl
  have hbefore : before.flatMap f = [] := List.flatMap_eq_nil_iff.mpr fun b hb =>
    h b (List.mem_append_left _ hb) fun heq => hl.1.1 (heq ▸ hb)
  have hafter : after.flatMap f = [] := List.flatMap_eq_nil_iff.mpr fun b hb =>
    h b (List.mem_append_right _ (List.mem_cons_of_mem a hb)) fun heq => hl.1.2 (heq ▸ hb)
  rw [List.flatMap_append, List.flatMap_cons, hbefore, hafter, List.nil_append, List.append_nil]

/-!
## Tables over tables
-/

namespace Table

def IsDistinct (t : Table) : Prop :=
  t.Pairwise fun e f => e.1.same f.1 = false

theorem text_same_iff {s : String} {k : Key} : Key.same (.text s) k = true ↔ k = .text s := by
  cases k with
  | text t =>
      simp only [Key.same_text, beq_iff_eq, Key.text.injEq]
      exact eq_comm
  | _ => simp [Key.same, Key.number?]

theorem get?_cons (e : Key × Value) (t : Table) (s : String) :
    get? (e :: t) s = if e.1 = .text s then some e.2 else get? t s := by
  by_cases h : e.1 = .text s
  · simp [get?, h]
  · have hno : Key.same (.text s) e.1 = false :=
      Bool.eq_false_iff.mpr fun hs => h (text_same_iff.mp hs)
    simp [get?, h, hno]

theorem same_text_iff {s : String} {k : Key} : k.same (.text s) = true ↔ k = .text s := by
  cases k with
  | text t => simp
  | _ => simp [Key.same, Key.number?]

theorem get?_set (t : Table) (k : Key) (v : Value) (s : String) :
    get? (set t k v) s = if k = .text s then some v else get? t s := by
  by_cases hk : k = .text s
  · subst hk
    rw [if_pos rfl, get?_set_self t v rfl]
  · rw [if_neg hk]
    induction t with
    | nil => rw [set, get?_cons, if_neg hk]
    | cons e t ih =>
        by_cases he : k.same e.1 = true
        · have hne : e.1 ≠ .text s := fun h => hk (same_text_iff.mp (h ▸ he))
          rw [set, if_pos he, get?_cons, get?_cons, if_neg hne, if_neg hne]
        · rw [set, if_neg he, get?_cons, get?_cons, ih]

end Table

namespace Config

/-- What a table says about an option; null says nothing. -/
def said? (t : Table) (option : String) : Option Value :=
  match t.get? option with
  | some .null => none
  | v? => v?

theorem said?_of_missing {t : Table} {option : String} (h : t.get? option = none) :
    said? t option = none := by
  simp [said?, h]

theorem get?_eq_none_of_isDistinct {e : Key × Value} {t : Table} {s : String}
    (h : Table.IsDistinct (e :: t)) (hs : e.1 = .text s) : t.get? s = none := by
  simp only [Table.get?, Option.map_eq_none_iff, List.find?_eq_none]
  intro f hf
  have hno := List.rel_of_pairwise_cons h hf
  rw [hs] at hno
  simp [hno]

theorem overlay_cons_of_ne (k : Key) {v : Value} (hv : v ≠ .null) (upper lower : Table) :
    overlay ((k, v) :: upper) lower = overlay upper (lower.set k v) := by
  cases v with
  | null => exact absurd rfl hv
  | _ => rfl

theorem said?_cons_self (option : String) {v : Value} (hv : v ≠ .null) (t : Table) :
    said? ((.text option, v) :: t) option = some v := by
  simp [said?, Table.get?_cons, hv]

theorem said?_cons_of_ne {k : Key} {option : String} (hk : k ≠ .text option) (v : Value)
    (t : Table) : said? ((k, v) :: t) option = said? t option := by
  simp [said?, Table.get?_cons, hk]

theorem get?_overlay {upper : Table} (hupper : upper.IsDistinct) (lower : Table)
    (option : String) :
    (overlay upper lower).get? option = (said? upper option).or (lower.get? option) := by
  induction upper generalizing lower with
  | nil => rfl
  | cons e upper ih =>
      rcases e with ⟨k, v⟩
      have hrest := ih (List.Pairwise.of_cons hupper)
      by_cases hv : v = .null
      · subst hv
        show (overlay upper lower).get? option = _
        by_cases hk : k = .text option
        · have hmissing := said?_of_missing (get?_eq_none_of_isDistinct hupper hk)
          rw [hrest, hmissing, hk, said?, Table.get?_cons, if_pos rfl]
        · rw [hrest, said?_cons_of_ne hk]
      · rw [overlay_cons_of_ne k hv, hrest, Table.get?_set]
        by_cases hk : k = .text option
        · have hmissing := said?_of_missing (get?_eq_none_of_isDistinct hupper hk)
          rw [hmissing, hk, said?_cons_self option hv, if_pos rfl]
          rfl
        · rw [said?_cons_of_ne hk, if_neg hk]

/-!
## The environment
-/

def flagWords : List String := ["1", "true", "yes", "on"] ++ ["0", "false", "no", "off"]

/-- The trimmed text of the variable for the flag, if it is no word for a flag. -/
def misworded? (env : Environment) : Option String :=
  (variableText? env "ROPELINK_AUTO_REVERT").filter fun word => Text.lower word ∉ flagWords

def surrounding? (env : Environment) (option envName : String) : Option Value :=
  (variableText? env envName).map fun word =>
    if option = flagOption then .bool (["1", "true", "yes", "on"].contains (Text.lower word))
    else .text word

theorem variableFlag_eq_ok (envName : String) {word : String}
    (h : Text.lower word ∈ flagWords) :
    variableFlag envName word =
      .ok (["1", "true", "yes", "on"].contains (Text.lower word)) := by
  simp only [variableFlag]
  split
  · next ht => rw [ht]
  · next ht =>
      have hf : ["0", "false", "no", "off"].contains (Text.lower word) = true := by
        rcases List.mem_append.mp h with hset | hunset
        · exact absurd (List.contains_iff_mem.mpr hset) ht
        · exact List.contains_iff_mem.mpr hunset
      rw [if_pos hf, Bool.eq_false_iff.mpr ht]

theorem variableFlag_eq_error (envName : String) {word : String}
    (h : Text.lower word ∉ flagWords) :
    variableFlag envName word = .error (.client (configError
      ("invalid boolean for " ++ envName ++ ": " ++ Text.quoted word))) := by
  rw [flagWords, List.mem_append, not_or] at h
  rw [variableFlag, if_neg fun hset => h.1 (List.contains_iff_mem.mp hset),
    if_neg fun hunset => h.2 (List.contains_iff_mem.mp hunset)]

theorem variableValue?_of_text {option : String} (h : option ≠ flagOption) (env : Environment)
    (envName : String) :
    variableValue? env option envName = .ok (surrounding? env option envName) := by
  rw [variableValue?, surrounding?]
  cases variableText? env envName with
  | none => rfl
  | some word => simp [h]

theorem variableValue?_of_misworded {env : Environment} {word : String}
    (h : misworded? env = some word) :
    variableValue? env flagOption "ROPELINK_AUTO_REVERT" = .error (.client (configError
      ("invalid boolean for ROPELINK_AUTO_REVERT: " ++ Text.quoted word))) := by
  rcases Option.filter_eq_some_iff.mp h with ⟨htext, hword⟩
  rw [variableValue?, htext]
  have hno : Text.lower word ∉ flagWords := by simpa using hword
  simp only [if_true, variableFlag_eq_error "ROPELINK_AUTO_REVERT" hno]
  rfl

theorem variableValue?_of_worded {env : Environment} (h : misworded? env = none) :
    variableValue? env flagOption "ROPELINK_AUTO_REVERT" =
      .ok (surrounding? env flagOption "ROPELINK_AUTO_REVERT") := by
  rw [variableValue?, surrounding?]
  rw [misworded?] at h
  cases htext : variableText? env "ROPELINK_AUTO_REVERT" with
  | none => rfl
  | some word =>
      rw [htext, Option.filter_some] at h
      have hword : Text.lower word ∈ flagWords := by simpa using h
      simp [variableFlag_eq_ok _ hword, Except.map]

def surroundings (env : Environment) (names : List (String × String)) : Table :=
  names.filterMap fun e => (surrounding? env e.1 e.2).map fun v => (.text e.1, v)

theorem environmentEntries_eq_ok {env : Environment} {names : List (String × String)}
    (h : forall e, e ∈ names -> variableValue? env e.1 e.2 = .ok (surrounding? env e.1 e.2)) :
    environmentEntries env names = .ok (surroundings env names) := by
  induction names with
  | nil => rfl
  | cons e names ih =>
      have hrest := ih fun f hf => h f (List.mem_cons_of_mem e hf)
      rw [environmentEntries, h e List.mem_cons_self, surroundings, List.filterMap_cons]
      cases surrounding? env e.1 e.2 with
      | none => exact hrest
      | some v =>
          simp only [hrest]
          rfl

theorem environmentEntries_eq_error {env : Environment} {fault : Fault}
    {before after : List (String × String)} {e : String × String}
    (hbefore : forall f, f ∈ before -> exists v?, variableValue? env f.1 f.2 = .ok v?)
    (he : variableValue? env e.1 e.2 = .error fault) :
    environmentEntries env (before ++ e :: after) = .error fault := by
  induction before with
  | nil => rw [List.nil_append, environmentEntries, he]
  | cons f before ih =>
      have hrest := ih fun g hg => hbefore g (List.mem_cons_of_mem f hg)
      rcases hbefore f List.mem_cons_self with ⟨v?, hv⟩
      rw [List.cons_append, environmentEntries, hv]
      cases v? with
      | none => exact hrest
      | some v =>
          simp only [hrest]
          rfl

theorem optionVariables_split :
    optionVariables =
      [("host", "ROPELINK_HOST"), ("port", "ROPELINK_PORT"),
        ("server_program", "ROPELINK_SERVER_PROGRAM")] ++
      (flagOption, "ROPELINK_AUTO_REVERT") ::
        [("timeout_seconds", "ROPELINK_TIMEOUT_SECONDS"), ("server_log", "ROPELINK_SERVER_LOG")] :=
  rfl

theorem environmentTable_of_misworded {env : Environment} {word : String}
    (h : misworded? env = some word) :
    environmentTable env = .error (.client (configError
      ("invalid boolean for ROPELINK_AUTO_REVERT: " ++ Text.quoted word))) := by
  rw [environmentTable, optionVariables_split]
  apply environmentEntries_eq_error
  · intro f hf
    refine ⟨_, variableValue?_of_text ?_ env f.2⟩
    intro hflag
    simp only [List.mem_cons, List.not_mem_nil, or_false] at hf
    rcases hf with rfl | rfl | rfl <;> exact absurd hflag (by decide)
  · exact variableValue?_of_misworded h

theorem environmentTable_of_worded {env : Environment} (h : misworded? env = none) :
    environmentTable env = .ok (surroundings env optionVariables) := by
  apply environmentEntries_eq_ok
  intro e he
  by_cases hflag : e.1 = flagOption
  · have hname : e.2 = "ROPELINK_AUTO_REVERT" := by
      simp only [optionVariables, List.mem_cons, List.not_mem_nil, or_false] at he
      rcases he with rfl | rfl | rfl | rfl | rfl | rfl <;>
        first | rfl | exact absurd hflag (by decide)
    rw [hflag, hname]
    exact variableValue?_of_worded h
  · exact variableValue?_of_text hflag env e.2

theorem surrounding?_ne_null (env : Environment) (option envName : String) :
    surrounding? env option envName ≠ some .null := by
  rw [surrounding?]
  cases variableText? env envName with
  | none => simp
  | some word => by_cases h : option = flagOption <;> simp [h]

theorem said?_surroundings (env : Environment) {names : List (String × String)}
    (hnames : (names.map (·.1)).Nodup) {e : String × String} (he : e ∈ names) :
    said? (surroundings env names) e.1 = surrounding? env e.1 e.2 := by
  have hmissing {names : List (String × String)} {option : String}
      (h : option ∉ names.map (·.1)) : said? (surroundings env names) option = none := by
    induction names with
    | nil => rfl
    | cons f names ih =>
        rw [List.map_cons, List.mem_cons, not_or] at h
        rw [surroundings, List.filterMap_cons]
        cases surrounding? env f.1 f.2 with
        | none => exact ih h.2
        | some v =>
            show said? ((.text f.1, v) :: surroundings env names) option = none
            rw [said?_cons_of_ne (by simpa using Ne.symm h.1), ih h.2]
  induction names with
  | nil => cases he
  | cons f names ih =>
      rw [List.map_cons, List.nodup_cons] at hnames
      rw [surroundings, List.filterMap_cons]
      rcases List.mem_cons.mp he with rfl | he
      · cases hv : surrounding? env e.1 e.2 with
        | none => exact hmissing hnames.1
        | some v =>
            have hne : v ≠ .null := fun h => surrounding?_ne_null env e.1 e.2 (h ▸ hv)
            exact said?_cons_self e.1 hne _
      · have hrest := ih hnames.2 he
        have hne : f.1 ≠ e.1 := fun h => hnames.1 (h ▸ List.mem_map_of_mem he)
        cases surrounding? env f.1 f.2 with
        | none => exact hrest
        | some v =>
            show said? ((.text f.1, v) :: surroundings env names) e.1 = _
            rw [said?_cons_of_ne (by simpa using hne), hrest]

theorem isDistinct_surroundings (env : Environment) {names : List (String × String)}
    (hnames : (names.map (·.1)).Nodup) : (surroundings env names).IsDistinct := by
  induction names with
  | nil => exact List.Pairwise.nil
  | cons f names ih =>
      rw [List.map_cons, List.nodup_cons] at hnames
      rw [surroundings, List.filterMap_cons]
      cases surrounding? env f.1 f.2 with
      | none => exact ih hnames.2
      | some v =>
          refine List.Pairwise.cons ?_ (ih hnames.2)
          intro g hg
          rcases List.mem_filterMap.mp hg with ⟨e, he, hentry⟩
          rcases Option.map_eq_some_iff.mp hentry with ⟨w, -, rfl⟩
          have hne : f.1 ≠ e.1 := fun h => hnames.1 (h ▸ List.mem_map_of_mem he)
          simpa using hne

/-!
## The settings file
-/

/-- The settings file at a place is not there, or it is text in which no integer has too many
digits. -/
def IsLegible (d : Disk) (p : Path) : Prop :=
  match d.readText p with
  | .ok s => forall digits, Toml.read s.toList ≠ .error (.longInteger digits)
  | .error f => f.isOs = true

/-- The table of a settings file: the empty one without a file and for malformed text, and
none for values that nest too deeply. -/
def fileTable? (d : Disk) (p : Path) : Option Table :=
  match d.readText p with
  | .error _ => some []
  | .ok s =>
      match Toml.read s.toList with
      | .ok t => some t
      | .error .malformed => some []
      | .error _ => none

theorem loadFile_of_legible {d : Disk} {p : Path} (h : IsLegible d p) :
    loadFile d p =
      match fileTable? d p with
      | some t => .ok t
      | none => .error .tooDeep := by
  unfold IsLegible at h
  unfold loadFile fileTable?
  cases hread : d.readText p with
  | error f =>
      rw [hread] at h
      exact if_pos h
  | ok s =>
      rw [hread] at h
      simp only [tableOfText]
      cases hs : Toml.read s.toList with
      | ok t => rfl
      | error e =>
          cases e with
          | malformed => rfl
          | longInteger digits => exact absurd hs (h digits)
          | tooDeep => rfl

theorem isEntry_fileName : Disk.IsEntry fileName :=
  ⟨⟨rfl, by simp [fileName], by simp [fileName]⟩, by decide, rfl⟩

def arraysDisk (n : Nat) : Disk :=
  { Disk.bare with
    nodes := [([fileName], .file (Text.Utf8.encode (Toml.entryText (Toml.arrays n []))))] }

theorem readText_arraysDisk (n : Nat) :
    (arraysDisk n).readText ⟨.single, [fileName]⟩ =
      .ok (String.ofList (Toml.entryText (Toml.arrays n []))) := by
  have hends : '\r' ∉ Toml.entryText (Toml.arrays n []) := by
    simp [Toml.entryText, Toml.not_mem_arrays]
  have hlink : (arraysDisk n).linkTarget? [fileName] = none := by
    simp [arraysDisk, Disk.linkTarget?, Disk.node?]
  have hnode : (arraysDisk n).node? [fileName] =
      some (.file (Text.Utf8.encode (Toml.entryText (Toml.arrays n [])))) := by
    simp [arraysDisk, Disk.node?]
  rw [Disk.readText_name isEntry_fileName hlink, hnode]
  simp only [Disk.decodeFile, Text.Utf8.decode_encode, Text.unifyLineEnds_of_not_mem hends]

theorem isLegible_arraysDisk (n : Nat) : IsLegible (arraysDisk n) ⟨.single, [fileName]⟩ := by
  rw [IsLegible, readText_arraysDisk]
  intro digits
  rw [String.toList_ofList, Toml.read_arrays]
  split
  · exact nofun
  · exact nofun

theorem fileTable?_arraysDisk (n : Nat) :
    fileTable? (arraysDisk n) ⟨.single, [fileName]⟩ =
      if 2 * (n + 1) ≤ Toml.maxRoom then some [(.text "a", Value.nested n)] else none := by
  rw [fileTable?, readText_arraysDisk]
  simp only [String.toList_ofList, Toml.read_arrays]
  by_cases hroom : 2 * (n + 1) ≤ Toml.maxRoom
  · rw [if_pos hroom, if_pos hroom]
  · rw [if_neg hroom, if_neg hroom]

/-!
## The layers
-/

/-- What options are loaded from: a disk with the settings file, the environment, and what the
caller passes. -/
structure Sources where
  disk : Disk
  root? : Option Path
  path? : Option Path
  env : Environment
  passed : Table
  distinct : passed.IsDistinct
  legible : IsLegible disk (filePath root? path? (Location.path disk.cwd))

namespace Sources

def load (s : Sources) : Except Fault Options :=
  Config.load s.disk s.root? s.path? s.env s.passed

def file? (s : Sources) : Option Table :=
  fileTable? s.disk (filePath s.root? s.path? (Location.path s.disk.cwd))

def file (s : Sources) : Table :=
  s.file?.getD []

/-- What the layers say about the option of a variable, the highest layer first. -/
def value? (s : Sources) (e : String × String) : Option Value :=
  ((said? s.passed e.1).or (surrounding? s.env e.1 e.2)).or ((sectionOf s.file).get? e.1)

/-- Every option with the first value that a layer gives to it. -/
def table (s : Sources) : Table :=
  optionVariables.map fun e => (.text e.1, (s.value? e).getD (defaultOf e.1))

theorem settled_overlay (s : Sources) {e : String × String} (he : e ∈ optionVariables) :
    settled (overlay s.passed (overlay (surroundings s.env optionVariables) (sectionOf s.file)))
      e.1 = (s.value? e).getD (defaultOf e.1) := by
  have hnames : (optionVariables.map (·.1)).Nodup := by decide
  rw [settled, get?_overlay s.distinct, get?_overlay (isDistinct_surroundings s.env hnames),
    said?_surroundings s.env hnames he, value?, Option.or_assoc]

theorem settled_table (s : Sources) {e : String × String} (he : e ∈ optionVariables) :
    settled s.table e.1 = (s.value? e).getD (defaultOf e.1) := by
  have hmap {names : List (String × String)} (hnames : (names.map (·.1)).Nodup)
      (he : e ∈ names) (f : String × String -> Value) :
      Table.get? (names.map fun e => (.text e.1, f e)) e.1 = some (f e) := by
    induction names with
    | nil => cases he
    | cons g names ih =>
        rw [List.map_cons, List.nodup_cons] at hnames
        rw [List.map_cons, Table.get?_cons]
        rcases List.mem_cons.mp he with rfl | he
        · rw [if_pos rfl]
        · have hne : g.1 ≠ e.1 := fun h => hnames.1 (h ▸ List.mem_map_of_mem he)
          rw [if_neg (by simpa using hne), ih hnames.2 he]
  rw [settled, table, hmap (by decide) he, Option.getD_some]

theorem load_of_file?_eq_none {s : Sources} (h : s.file? = none) :
    s.load = .error .tooDeep := by
  rw [file?] at h
  rw [load, Config.load, loadSection, loadTable, loadFile_of_legible s.legible, h]
  rfl

theorem loadSection_of_file? {s : Sources} (h : s.file?.isSome = true) :
    loadSection s.disk s.root? s.path? = .ok (sectionOf s.file) := by
  rcases Option.isSome_iff_exists.mp h with ⟨t, ht⟩
  rw [file, ht]
  rw [file?] at ht
  rw [loadSection, loadTable, loadFile_of_legible s.legible, ht]
  rfl

theorem load_of_misworded {s : Sources} (hfile : s.file?.isSome = true) {word : String}
    (h : misworded? s.env = some word) :
    s.load = .error (.client (configError
      ("invalid boolean for ROPELINK_AUTO_REVERT: " ++ Text.quoted word))) := by
  rw [load, Config.load, loadSection_of_file? hfile, environmentTable_of_misworded h]
  rfl

theorem load_of_worded {s : Sources} (hfile : s.file?.isSome = true)
    (h : misworded? s.env = none) : s.load = optionsOf s.table := by
  rw [load, Config.load, loadSection_of_file? hfile, environmentTable_of_worded h]
  show optionsOf (overlay _ _) = optionsOf s.table
  rw [optionsOf, optionsOf, validate_congr]
  intro option hoption
  rcases List.mem_map.mp hoption with ⟨e, he, rfl⟩
  rw [settled_overlay s he, settled_table s he]

/-! ### Refusals -/

theorem problemsOf_validate_alone {t : Table} {option : String} (h : option ∈ optionNames) :
    problemsOf (validate [(.text option, settled t option)]) = problemsUnder t option := by
  have hothers : forall other, other ∈ optionNames -> other ≠ option ->
      problemsUnder [(.text option, settled t option)] other = [] := by
    intro other _ hne
    apply problemsUnder_of_default
    rw [settled, Table.get?_cons, if_neg (by simpa using Ne.symm hne)]
    rfl
  have hself : settled [(.text option, settled t option)] option = settled t option := by
    rw [settled, Table.get?_cons, if_pos rfl]
    rfl
  rw [problemsOf_validate, flatMap_eq_of_single (by decide) h hothers, problemsUnder_congr hself]

theorem problemsOf_validate_table (s : Sources) :
    problemsOf (validate s.table) = s.table.flatMap fun e => problemsOf (validate [e]) := by
  rw [problemsOf_validate, table, List.flatMap_map, optionNames, List.flatMap_map]
  apply List.flatMap_congr
  intro e he
  rw [← settled_table s he, problemsOf_validate_alone (List.mem_map_of_mem he)]
  rfl

/-- The first setting of a table that is refused when it stands alone. -/
def firstRefused? (t : Table) : Option (Key × Value) :=
  t.find? fun e => !(validate [e]).isOk

theorem problemsOf_of_isOk {e : Key × Value} (h : (validate [e]).isOk = true) :
    problemsOf (validate [e]) = [] := by
  cases hv : validate [e] with
  | ok o => rfl
  | error ps =>
      rw [hv] at h
      cases h

theorem validate_of_firstRefused?_eq_none {s : Sources} (h : firstRefused? s.table = none) :
    exists o, validate s.table = .ok o := by
  apply ok_of_problemsOf (validate_ne_nil s.table)
  rw [problemsOf_validate_table, List.flatMap_eq_nil_iff]
  intro e he
  have hok := List.find?_eq_none.mp h e he
  exact problemsOf_of_isOk (by simpa using hok)

theorem problems_of_firstRefused? {s : Sources} {e : Key × Value}
    (h : firstRefused? s.table = some e) :
    exists p rest others, problemsOf (validate [e]) = p :: rest ∧
      validate s.table = .error (p :: rest ++ others) := by
  rcases List.find?_eq_some_iff_append.mp h with ⟨hbad, before, after, hsplit, hbefore⟩
  cases halone : validate [e] with
  | ok o =>
      rw [halone] at hbad
      cases hbad
  | error ps =>
      cases ps with
      | nil => exact absurd halone (validate_ne_nil [e])
      | cons p rest =>
          have hnone : before.flatMap (fun e => problemsOf (validate [e])) = [] := by
            rw [List.flatMap_eq_nil_iff]
            intro f hf
            exact problemsOf_of_isOk (by simpa using hbefore f hf)
          have hall := problemsOf_validate_table s
          rw [hsplit, List.flatMap_append, List.flatMap_cons, hnone, halone, List.nil_append,
            ← hsplit] at hall
          refine ⟨p, rest, after.flatMap fun e => problemsOf (validate [e]), rfl, ?_⟩
          cases hv : validate s.table with
          | ok o =>
              rw [hv] at hall
              cases hall
          | error qs =>
              rw [hv] at hall
              exact congrArg Except.error hall

theorem name_of_firstRefused? {s : Sources} {e : Key × Value}
    (h : firstRefused? s.table = some e) {p : OptionProblem}
    (hp : p ∈ problemsOf (validate [e])) :
    exists name, e.1 = .text name ∧ p.place.head? = some (.key name) := by
  have hmem : e ∈ s.table := List.mem_of_find?_eq_some h
  rw [table, List.mem_map] at hmem
  rcases hmem with ⟨f, hf, rfl⟩
  refine ⟨f.1, rfl, ?_⟩
  rw [← settled_table s hf, problemsOf_validate_alone (List.mem_map_of_mem hf)] at hp
  exact place_of_mem_problemsUnder hp

/-! ### What makes no difference -/

/-- Two sources say the same about the option of a variable, as far as no higher layer hides
it. -/
structure ShowSame (s s' : Sources) (e : String × String) : Prop where
  passed : said? s'.passed e.1 = said? s.passed e.1
  surrounding : said? s.passed e.1 = none ->
    surrounding? s'.env e.1 e.2 = surrounding? s.env e.1 e.2
  written : said? s.passed e.1 = none -> surrounding? s.env e.1 e.2 = none ->
    (sectionOf s'.file).get? e.1 = (sectionOf s.file).get? e.1

theorem ShowSame.value?_eq {s s' : Sources} {e : String × String} (h : ShowSame s s' e) :
    s'.value? e = s.value? e := by
  rw [value?, value?, h.passed]
  cases hpassed : said? s.passed e.1 with
  | some v => simp only [Option.some_or]
  | none =>
      rw [h.surrounding hpassed, Option.none_or]
      cases hsurrounding : surrounding? s.env e.1 e.2 with
      | some v => simp only [Option.some_or]
      | none => rw [h.written hpassed hsurrounding]

theorem table_of_showSame {s s' : Sources}
    (h : forall e, e ∈ optionVariables -> ShowSame s s' e) : s'.table = s.table := by
  apply List.map_congr_left
  intro e he
  rw [(h e he).value?_eq]

/-- Loading fails for a settings file whose values nest too deeply, whatever else is said.
Given a table by the file, it fails for a word that is none for a flag. Otherwise it checks the
table that gives every option the first value of a layer: it gives the options of that table, or
names the first option whose value is refused. Nothing that a higher layer hides, and nothing
under a name that no option has, makes a difference. -/
theorem load_of_layers (s : Sources) :
    (s.file? = none -> s.load = .error .tooDeep) ∧
    (s.file?.isSome = true ->
      (forall word, misworded? s.env = some word ->
        s.load = .error (.client (configError
          ("invalid boolean for ROPELINK_AUTO_REVERT: " ++ Text.quoted word)))) ∧
      (misworded? s.env = none ->
        s.load = optionsOf s.table ∧
        (firstRefused? s.table = none ->
          exists o, validate s.table = .ok o ∧ s.load = .ok o) ∧
        (forall e, firstRefused? s.table = some e ->
          exists name p rest report, e.1 = .text name ∧ p.place.head? = some (.key name) ∧
            problemsOf (validate [e]) = p :: rest ∧
            s.load = .error (.chained (configError
              ("invalid value for " ++ p.placeText ++ ": " ++ p.problem.text)) report)) ∧
        forall s' : Sources, s'.file?.isSome = true -> misworded? s'.env = none ->
          (forall e, e ∈ optionVariables -> ShowSame s s' e) -> s'.load = s.load)) := by
  refine ⟨load_of_file?_eq_none, fun hfile => ⟨fun word => load_of_misworded hfile, ?_⟩⟩
  intro h
  have hload := load_of_worded hfile h
  refine ⟨hload, ?_, ?_, ?_⟩
  · intro hnone
    rcases validate_of_firstRefused?_eq_none hnone with ⟨o, ho⟩
    refine ⟨o, ho, ?_⟩
    rw [hload, optionsOf, ho]
    rfl
  · intro e he
    rcases problems_of_firstRefused? he with ⟨p, rest, others, halone, hv⟩
    have hp : p ∈ problemsOf (validate [e]) := halone ▸ List.mem_cons_self
    rcases name_of_firstRefused? he hp with ⟨name, hname, hplace⟩
    refine ⟨name, p, rest, .invalid (optionReport (p :: rest ++ others)), hname, hplace,
      halone, ?_⟩
    rw [hload, optionsOf, hv]
    rfl
  · intro s' hfile' h' hsame
    rw [hload, load_of_worded hfile' h', table_of_showSame hsame]

/-- A word that is no port in the environment, below a port that the caller passes, over a disk
with a settings file of nested arrays under a name that no option has. -/
def hiddenWord (n : Nat) : Sources where
  disk := arraysDisk n
  root? := some ⟨.single, []⟩
  path? := none
  env := [("ROPELINK_PORT", "none"), ("ROPELINK_AUTO_REVERT", " Yes ")]
  passed := [("port", .int 7000), ("colour", .text "red")]
  distinct := List.pairwise_pair.mpr rfl
  legible := isLegible_arraysDisk n

theorem file?_hiddenWord (n : Nat) :
    (hiddenWord n).file? =
      if 2 * (n + 1) ≤ Toml.maxRoom then some [(.text "a", Value.nested n)] else none :=
  fileTable?_arraysDisk n

theorem firstRefused?_hiddenWord {n : Nat} (h : 2 * (n + 1) ≤ Toml.maxRoom) :
    firstRefused? (hiddenWord n).table = none := by
  have hfile : sectionOf (hiddenWord n).file = [] := by
    rw [file, file?_hiddenWord, if_pos h]
    rfl
  unfold table value?
  rw [hfile]
  -- Of the sources only what is passed and the environment are left, the same for all arrays.
  change firstRefused? (optionVariables.map fun e =>
    (.text e.1, (((said? (hiddenWord 0).passed e.1).or
      (surrounding? (hiddenWord 0).env e.1 e.2)).or (Table.get? [] e.1)).getD
        (defaultOf e.1))) = none
  exact Option.isNone_iff_eq_none.mp (by decide +kernel)

/-- The options are loaded with as many arrays as there is room for, and with no more. -/
theorem load_hiddenWord :
    (exists o, validate (hiddenWord 489).table = .ok o ∧ (hiddenWord 489).load = .ok o) ∧
      (hiddenWord 490).load = .error .tooDeep := by
  have hroom : 2 * (489 + 1) ≤ Toml.maxRoom := by decide
  have hfile : (hiddenWord 489).file?.isSome = true := by
    rw [file?_hiddenWord, if_pos hroom]
    rfl
  have hworded : misworded? (hiddenWord 489).env = none := by decide +kernel
  have hdeep : (hiddenWord 490).file? = none := by
    rw [file?_hiddenWord, if_neg (by decide)]
  constructor
  · exact (((load_of_layers (hiddenWord 489)).2 hfile).2 hworded).2.1
      (firstRefused?_hiddenWord hroom)
  · exact (load_of_layers (hiddenWord 490)).1 hdeep

end Sources

end Config
end EngineClient
