import EngineClient.Proofs.Config.Checks
import EngineClient.Session.Lifecycle

/-!
# Accepted options

Options that a table was accepted with are usable: the engine can be asked under their port and
started by their words. Checking them again changes nothing. Main statement:
`validate_toTable`.
-/

namespace EngineClient

/-!
## Usable options
-/

/-- Words that can start a program: there are some, and none of them is blank. -/
structure Program.IsUsable (p : Program) : Prop where
  named : p.argv ≠ []
  filled : forall w, w ∈ p.argv -> Text.isBlankText w = false

/-- Options within the bounds of their checks. -/
structure Options.IsUsable (o : Options) : Prop where
  port : Config.minPort ≤ o.port ∧ o.port ≤ Config.maxPort
  program : o.program.IsUsable
  timeout : Binary64.zero.lt o.timeout = true

namespace Config

inductive Spells : Value → String → Prop where
  | text (s : String) : Spells (.text s) s
  | octets {bs : List UInt8} {s : String} (h : Text.Utf8.decodeText bs = .ok s) :
      Spells (.octets bs) s

theorem textSetting_eq_ok_iff {v : Value} {s : String} : textSetting v = .ok s ↔ Spells v s := by
  constructor
  · intro h
    cases v with
    | text u =>
        cases h
        exact .text _
    | octets bs =>
        simp only [textSetting, spelling] at h
        cases hbs : Text.Utf8.decodeText bs with
        | ok u =>
            rw [hbs] at h
            cases h
            exact .octets hbs
        | error e =>
            rw [hbs] at h
            cases h
    | _ => cases h
  · intro h
    cases h with
    | text s => rfl
    | octets h => simp only [textSetting, spelling, h]

theorem Spells.unique {v : Value} {r s : String} (hr : Spells v r) (hs : Spells v s) : r = s := by
  rw [← textSetting_eq_ok_iff] at hr hs
  rw [hr] at hs
  exact Except.ok.inj hs

/-- The words that a table starts the engine by: the default, one text whatever it holds, or the
texts of a list that are not blank, in their order. -/
inductive Tokens (t : Table) : List String → Prop where
  | missing (h : t.get? "server_program" = none) : Tokens t ["rope-server"]
  | single {v : Value} {s : String} (h : t.get? "server_program" = some v) (hs : Spells v s) :
      Tokens t [s]
  | words {v : Value} {vs : List Value} {ss : List String}
      (h : t.get? "server_program" = some v) (hitems : v = .list vs ∨ v = .tuple vs)
      (hs : List.Forall₂ Spells vs ss) : Tokens t (ss.filter fun w => !Text.isBlankText w)

theorem forall₂_spells_unique {vs : List Value} {rs ss : List String}
    (hr : List.Forall₂ Spells vs rs) (hs : List.Forall₂ Spells vs ss) : rs = ss := by
  induction hr generalizing ss with
  | nil =>
      cases hs
      rfl
  | cons hhead _ ih =>
      cases hs with
      | cons hhead' htail =>
          rw [hhead.unique hhead', ih htail]

theorem not_spells_of_items {v : Value} {vs : List Value} {s : String}
    (h : v = .list vs ∨ v = .tuple vs) : ¬ Spells v s := by
  rcases h with rfl | rfl
  · rintro ⟨⟩
  · rintro ⟨⟩

theorem Tokens.unique {t : Table} {rs ss : List String} (hr : Tokens t rs) (hs : Tokens t ss) :
    rs = ss := by
  cases hr with
  | missing hnone =>
      cases hs with
      | missing => rfl
      | single h => exact absurd (hnone.symm.trans h) nofun
      | words h => exact absurd (hnone.symm.trans h) nofun
  | single hv hspells =>
      cases hs with
      | missing hnone => exact absurd (hnone.symm.trans hv) nofun
      | single h hspells' =>
          cases Option.some.inj (hv.symm.trans h)
          rw [hspells.unique hspells']
      | words h hitems _ =>
          cases Option.some.inj (hv.symm.trans h)
          exact absurd hspells (not_spells_of_items hitems)
  | words hv hitems hall =>
      cases hs with
      | missing hnone => exact absurd (hnone.symm.trans hv) nofun
      | single h hspells =>
          cases Option.some.inj (hv.symm.trans h)
          exact absurd hspells (not_spells_of_items hitems)
      | words h hitems' hall' =>
          cases Option.some.inj (hv.symm.trans h)
          rcases hitems with rfl | rfl
          · rcases hitems' with heq | heq
            · cases heq
              rw [forall₂_spells_unique hall hall']
            · cases heq
          · rcases hitems' with heq | heq
            · cases heq
            · cases heq
              rw [forall₂_spells_unique hall hall']

/-!
## Programs
-/

theorem programName_eq_ok {s : String} {p : Program} (h : programName s = .ok p) :
    Text.isBlankText s = false ∧ p = .single s := by
  unfold programName at h
  split at h
  · cases h
  · rename_i hfilled
    cases h
    exact ⟨Bool.not_eq_true _ ▸ hfilled, rfl⟩

theorem programWords_eq_ok {ws : List String} {p : Program} (h : programWords ws = .ok p) :
    ws.filter (fun w => !Text.isBlankText w) ≠ [] ∧
      p = .words (ws.filter fun w => !Text.isBlankText w) := by
  unfold programWords at h
  split at h
  · cases h
  · rename_i hsome
    cases h
    exact ⟨hsome, rfl⟩

theorem forall₂_wordsOf {vs : List Value} {position : Nat} (h : wordProblems position vs = []) :
    List.Forall₂ Spells vs (wordsOf vs) := by
  induction vs generalizing position with
  | nil => exact .nil
  | cons v vs ih =>
      rw [wordProblems] at h
      cases hv : textSetting v with
      | ok s =>
          rw [hv] at h
          have hwords : wordsOf (v :: vs) = s :: wordsOf vs := by
            simp [wordsOf, hv, Except.toOption]
          rw [hwords]
          exact .cons (textSetting_eq_ok_iff.mp hv) (ih h)
      | error p =>
          rw [hv] at h
          cases h

theorem ok_of_mapError {ε ε' α : Type} {r : Except ε α} {k : ε → ε'} {a : α}
    (h : r.mapError k = .ok a) : r = .ok a := by
  cases r with
  | ok b =>
      cases h
      rfl
  | error e => cases h

theorem program_eq_ok {v : Value} {p : Program} (h : program v = .ok p) :
    (exists s, Spells v s ∧ Text.isBlankText s = false ∧ p = .single s) ∨
      exists vs ss, (v = .list vs ∨ v = .tuple vs) ∧ List.Forall₂ Spells vs ss ∧
        ss.filter (fun w => !Text.isBlankText w) ≠ [] ∧
        p = .words (ss.filter fun w => !Text.isBlankText w) := by
  simp only [program] at h
  split at h
  · rename_i s hs
    rcases programName_eq_ok (ok_of_mapError h) with ⟨hfilled, hp⟩
    exact Or.inl ⟨s, textSetting_eq_ok_iff.mp hs, hfilled, hp⟩
  · split at h
    · cases h
    · rename_i vs hitems
      have hshape : v = .list vs ∨ v = .tuple vs := by
        cases v with
        | list ws =>
            cases hitems
            exact Or.inl rfl
        | tuple ws =>
            cases hitems
            exact Or.inr rfl
        | _ => cases hitems
      split at h
      · rename_i hnone
        rcases programWords_eq_ok (ok_of_mapError h) with ⟨hsome, hp⟩
        exact Or.inr ⟨vs, wordsOf vs, hshape, forall₂_wordsOf hnone, hsome, hp⟩
      · cases h

theorem isUsable_of_program {v : Value} {p : Program} (h : program v = .ok p) : p.IsUsable := by
  rcases program_eq_ok h with ⟨s, _, hfilled, rfl⟩ | ⟨_, ss, _, _, hsome, rfl⟩
  · refine ⟨List.cons_ne_nil _ _, ?_⟩
    intro w hw
    rw [List.mem_singleton.mp hw]
    exact hfilled
  · refine ⟨hsome, ?_⟩
    intro w hw
    simpa using (List.mem_filter.mp hw).2

theorem program_toValue {p : Program} (h : p.IsUsable) : program p.toValue = .ok p := by
  cases p with
  | single s =>
      have hs := h.filled s (List.mem_singleton_self s)
      simp [Program.toValue, program, textSetting, spelling, programName, hs, Except.mapError]
  | words ws =>
      have hproblems : forall (position : Nat) (us : List String),
          wordProblems position (us.map .text) = [] := by
        intro position us
        induction us generalizing position with
        | nil => rfl
        | cons u us ih => exact ih (position + 1)
      have hwords : wordsOf (ws.map .text) = ws := by
        simp [wordsOf, List.filterMap_map, textSetting, spelling, Except.toOption]
      have hkept : ws.filter (fun w => !Text.isBlankText w) = ws := by
        rw [List.filter_eq_self]
        intro w hw
        simp [h.filled w hw]
      have hprogram : programWords ws = .ok (.words ws) := by
        unfold programWords
        rw [hkept]
        split
        · exact absurd rfl h.named
        · rfl
      simp [Program.toValue, program, textSetting, spelling, items?, hproblems, hwords, hprogram,
        Except.mapError]

theorem tokens_of_programSetting {t : Table} {p : Program} (h : programSetting t = .ok p) :
    Tokens t p.argv := by
  unfold programSetting at h
  split at h
  · rename_i hnone
    cases h
    exact .missing hnone
  · rename_i v hv
    rcases program_eq_ok h with ⟨s, hs, _, rfl⟩ | ⟨vs, ss, hshape, hs, _, rfl⟩
    · exact .single hv hs
    · exact .words hv hshape hs

/-!
## Bounded numbers
-/

theorem boundedSetting_eq_ok {low high n : Nat} {v : Value}
    (h : boundedSetting low high v = .ok n) : low ≤ n ∧ n ≤ high := by
  unfold boundedSetting at h
  split at h
  · cases h
  · split at h
    · cases h
    · split at h
      · cases h
      · cases h
        omega

theorem boundedSetting_int {low high n : Nat} (hlow : low ≤ n) (hhigh : n ≤ high) :
    boundedSetting low high (.int n) = .ok n := by
  have hnotlow : ¬ ((n : Int) < low) := by omega
  have hnothigh : ¬ ((high : Int) < n) := by omega
  simp [boundedSetting, integerSetting, hnotlow, hnothigh]

theorem positiveSetting_eq_ok {v : Value} {x : Binary64} (h : positiveSetting v = .ok x) :
    Binary64.zero.lt x = true := by
  unfold positiveSetting at h
  split at h
  · cases h
  · split at h
    · rename_i hlt
      cases h
      exact hlt
    · cases h

/-!
## Tables
-/

theorem read_of_setting {α : Type} {key : String} {default a : α}
    {read : Value -> Except SettingProblem α} (hdefault : read (defaultOf key) = .ok default)
    {t : Table} (h : setting t key read default = .ok a) : read (settled t key) = .ok a := by
  rw [setting_eq_of_default hdefault] at h
  exact ok_of_mapError h

theorem validate_eq_ok_iff {t : Table} {o : Options} :
    validate t = .ok o ↔
      setting t "host" textSetting defaults.host = .ok o.host ∧
        setting t "port" (boundedSetting minPort maxPort) defaults.port = .ok o.port ∧
        programSetting t = .ok o.program ∧
        setting t "auto_revert" flagSetting defaults.autoRevert = .ok o.autoRevert ∧
        setting t "timeout_seconds" positiveSetting defaults.timeout = .ok o.timeout ∧
        setting t "server_log" optionalTextSetting defaults.serverLog? = .ok o.serverLog? := by
  constructor
  · intro h
    simp only [validate] at h
    split at h
    · rename_i hhost hport hprogram hrevert htimeout hlog
      cases h
      exact ⟨hhost, hport, hprogram, hrevert, htimeout, hlog⟩
    · cases h
  · rintro ⟨hhost, hport, hprogram, hrevert, htimeout, hlog⟩
    simp only [validate, hhost, hport, hprogram, hrevert, htimeout, hlog]

theorem isUsable_of_validate {t : Table} {o : Options} (h : validate t = .ok o) :
    o.IsUsable := by
  rcases validate_eq_ok_iff.mp h with ⟨_, hport, hprogram, _, htimeout, _⟩
  rw [programSetting_eq] at hprogram
  exact
    { port := boundedSetting_eq_ok (read_of_setting (by rfl) hport)
      program := isUsable_of_program hprogram
      timeout := positiveSetting_eq_ok (read_of_setting positiveSetting_default htimeout) }

theorem validate_of_isUsable {o : Options} (h : o.IsUsable) : validate o.toTable = .ok o := by
  have hport : boundedSetting minPort maxPort (.int o.port) = .ok o.port :=
    boundedSetting_int h.port.1 h.port.2
  have htimeout : positiveSetting (.real o.timeout) = .ok o.timeout := by
    simp [positiveSetting, numberSetting, h.timeout]
  have hlog : optionalTextSetting (.ofText? o.serverLog?) = .ok o.serverLog? := by
    cases o.serverLog? with
    | none => rfl
    | some s => rfl
  rw [validate_eq_ok_iff]
  refine ⟨?_, ?_, ?_, ?_, ?_, ?_⟩
  · rfl
  · simp [setting, Options.toTable, Table.get?, hport, Except.mapError]
  · simp [programSetting, Options.toTable, Table.get?, program_toValue h.program]
  · simp [setting, Options.toTable, Table.get?, flagSetting, Except.mapError]
  · simp [setting, Options.toTable, Table.get?, htimeout, Except.mapError]
  · simp [setting, Options.toTable, Table.get?, hlog, Except.mapError]

/-- Options that were accepted are accepted again as they are. Their words can start the engine,
and they are those of the table; their port is one, and their time limit is above zero. On a
directory, the engine is started by these words, with the directory after a switch. -/
theorem validate_toTable {t : Table} {o : Options} (h : validate t = .ok o) :
    validate o.toTable = .ok o ∧
      o.program.argv ≠ [] ∧
      (forall w, w ∈ o.program.argv -> Text.isBlankText w = false) ∧
      (forall ws, Tokens t ws ↔ ws = o.program.argv) ∧
      (1 ≤ o.port ∧ o.port ≤ 65535) ∧
      Binary64.zero.lt o.timeout = true ∧
      forall (directory : Path) (w : World), w.client.options = o ->
        Session.launchArgv directory w = .ok (o.program.argv ++ ["-V", directory.text]) w := by
  have husable := isUsable_of_validate h
  have htokens := tokens_of_programSetting (validate_eq_ok_iff.mp h).2.2.1
  refine ⟨validate_of_isUsable husable, husable.program.named, husable.program.filled, ?_,
    husable.port, husable.timeout, ?_⟩
  · intro ws
    constructor
    · intro hws
      exact hws.unique htokens
    · rintro rfl
      exact htokens
  · rintro directory w rfl
    rfl

def mixedSettings : Table :=
  [("port", .text "6001"),
    ("server_program", .list [.text "python3", .text " ", .text "/opt/my engine/server.py"]),
    ("auto_revert", .text "Yes"), ("timeout_seconds", .int 5)]

def fiveSeconds : Binary64 := .finite false 5629499534213120 (-50)

theorem validate_mixedSettings :
    exists o, validate mixedSettings = .ok o ∧ validate o.toTable = .ok o ∧
      o.program.argv = ["python3", "/opt/my engine/server.py"] ∧ o.port = 6001 ∧
      o.timeout = fiveSeconds := by
  have hfive : Binary64.ofInt 5 = fiveSeconds := by decide +kernel
  have hlt : Binary64.zero.lt fiveSeconds = true := by decide +kernel
  have hnumber : numberSetting (.int 5) = .ok fiveSeconds := by
    simp only [numberSetting, hfive]
    rfl
  have htimeout : positiveSetting (.int 5) = .ok fiveSeconds := by
    simp [positiveSetting, hnumber, hlt]
  have hvalid : validate mixedSettings =
      .ok ⟨"127.0.0.1", 6001, .words ["python3", "/opt/my engine/server.py"], true, fiveSeconds,
        none⟩ := by
    rw [validate_eq_ok_iff]
    refine ⟨rfl, rfl, rfl, rfl, ?_, rfl⟩
    simp [mixedSettings, setting, Table.get?, htimeout, Except.mapError]
  exact ⟨_, hvalid, (validate_toTable hvalid).1, rfl, rfl, rfl⟩

end Config
end EngineClient
