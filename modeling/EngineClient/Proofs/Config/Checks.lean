import EngineClient.Config.Layers
import Mathlib.Data.List.Basic

/-!
# The check of a table of settings

A table is checked option by option, in the order of the options. A missing setting
counts as its default, which passes its own check; the problems of one option depend on
its value alone and name it; the problems of a table are those of its options.
-/

namespace EngineClient
namespace Config

def optionNames : List String := optionVariables.map (·.1)

def defaultOf (option : String) : Value :=
  (defaults.toTable.get? option).getD .null

def settled (t : Table) (option : String) : Value :=
  (t.get? option).getD (defaultOf option)

/-!
## One option

Each of the six options is read by its own check. Reading the default gives the default,
so that a missing entry and an entry with the default are checked alike.
-/

theorem setting_eq_of_default {α : Type} {key : String} {default : α}
    {read : Value -> Except SettingProblem α} (hdefault : read (defaultOf key) = .ok default)
    (t : Table) :
    setting t key read default = (read (settled t key)).mapError fun p => [⟨[.key key], p⟩] := by
  cases hv : t.get? key with
  | none => simp [setting, settled, hv, hdefault, Except.mapError]
  | some v => simp [setting, settled, hv]

theorem setting_congr {α : Type} {key : String} {default : α}
    {read : Value -> Except SettingProblem α} (hdefault : read (defaultOf key) = .ok default)
    {t t' : Table} (h : settled t key = settled t' key) :
    setting t key read default = setting t' key read default := by
  rw [setting_eq_of_default hdefault, setting_eq_of_default hdefault, h]

theorem positiveSetting_default :
    positiveSetting (defaultOf "timeout_seconds") = .ok defaults.timeout := by
  have hvalue : defaultOf "timeout_seconds" = .real defaults.timeout := by
    simp [defaultOf, Options.toTable, Table.get?]
  have hlt : Binary64.zero.lt defaults.timeout = true := by decide +kernel
  simp [hvalue, positiveSetting, numberSetting, hlt]

theorem programSetting_eq (t : Table) :
    programSetting t = program (settled t "server_program") := by
  have hdefault : program (defaultOf "server_program") = .ok defaults.program := by rfl
  cases hv : t.get? "server_program" with
  | none => simp [programSetting, settled, hv, hdefault]
  | some v => simp [programSetting, settled, hv]

def problemsUnder (t : Table) (option : String) : List OptionProblem :=
  match option with
  | "host" => problemsOf (setting t "host" textSetting defaults.host)
  | "port" => problemsOf (setting t "port" (boundedSetting minPort maxPort) defaults.port)
  | "server_program" => problemsOf (programSetting t)
  | "auto_revert" => problemsOf (setting t "auto_revert" flagSetting defaults.autoRevert)
  | "timeout_seconds" =>
      problemsOf (setting t "timeout_seconds" positiveSetting defaults.timeout)
  | "server_log" => problemsOf (setting t "server_log" optionalTextSetting defaults.serverLog?)
  | _ => []

theorem programSetting_congr {t t' : Table}
    (h : settled t "server_program" = settled t' "server_program") :
    programSetting t = programSetting t' := by
  rw [programSetting_eq, programSetting_eq, h]

theorem problemsUnder_congr {t t' : Table} {option : String}
    (h : settled t option = settled t' option) :
    problemsUnder t option = problemsUnder t' option := by
  unfold problemsUnder
  split
  case h_3 => rw [programSetting_congr h]
  case h_5 => rw [setting_congr positiveSetting_default h]
  case h_7 => rfl
  all_goals rw [setting_congr (by rfl) h]

theorem problemsUnder_of_default {t : Table} {option : String}
    (h : settled t option = defaultOf option) : problemsUnder t option = [] := by
  have hnone : problemsUnder [] option = [] := by
    unfold problemsUnder
    split <;> rfl
  have hempty : settled t option = settled [] option := h
  rw [problemsUnder_congr hempty, hnone]

/-! ### Refusals -/

def AllName {α : Type} (option : String) (r : Except (List OptionProblem) α) : Prop :=
  forall p, p ∈ problemsOf r -> p.place.head? = some (.key option)

theorem allName_mapError {α : Type} {option : String} (r : Except SettingProblem α) :
    AllName option (r.mapError fun why => [⟨[.key option], why⟩]) := by
  intro p hp
  cases r with
  | ok a => cases hp
  | error why =>
      rw [List.mem_singleton.mp hp]
      rfl

theorem allName_setting {α : Type} (t : Table) (key : String) (default : α)
    (read : Value -> Except SettingProblem α) : AllName key (setting t key read default) := by
  unfold setting
  split
  · intro p hp
    cases hp
  · exact allName_mapError _

theorem allName_program (v : Value) : AllName "server_program" (program v) := by
  simp only [program]
  split
  · exact allName_mapError _
  · split
    · intro p hp
      rcases List.mem_pair.mp hp with rfl | rfl <;> rfl
    · split
      · exact allName_mapError _
      · intro p hp
        rcases List.mem_cons.mp hp with rfl | hp
        · rfl
        · rcases List.mem_map.mp hp with ⟨q, -, rfl⟩
          rfl

theorem place_of_mem_problemsUnder {t : Table} {option : String} {p : OptionProblem}
    (hp : p ∈ problemsUnder t option) : p.place.head? = some (.key option) := by
  unfold problemsUnder at hp
  split at hp
  case h_3 =>
    rw [programSetting_eq] at hp
    exact allName_program _ p hp
  case h_7 => cases hp
  all_goals exact allName_setting t _ _ _ p hp

theorem setting_ne_nil {α : Type} (t : Table) (key : String) (default : α)
    (read : Value -> Except SettingProblem α) : setting t key read default ≠ .error [] := by
  unfold setting
  split
  · simp
  · next v _ => cases read v <;> simp [Except.mapError]

theorem program_ne_nil (v : Value) : program v ≠ .error [] := by
  have hin (r : Except SettingProblem Program) :
      (r.mapError fun why => [(⟨[.key "server_program"], why⟩ : OptionProblem)]) ≠ .error [] := by
    cases r <;> simp [Except.mapError]
  simp only [program]
  split
  · exact hin _
  · split
    · simp
    · split
      · exact hin _
      · simp

/-!
## The whole table
-/

theorem problemsOf_validate (t : Table) :
    problemsOf (validate t) = optionNames.flatMap (problemsUnder t) := by
  have hall : optionNames.flatMap (problemsUnder t) =
      problemsUnder t "host" ++ problemsUnder t "port" ++ problemsUnder t "server_program" ++
        problemsUnder t "auto_revert" ++ problemsUnder t "timeout_seconds" ++
        problemsUnder t "server_log" := by
    simp [optionNames, optionVariables]
  rw [hall]
  simp only [validate, problemsUnder]
  split
  · next hhost hport hprogram hrevert htimeout hlog =>
      rw [hhost, hport, hprogram, hrevert, htimeout, hlog]
      rfl
  · rfl

theorem ok_of_problemsOf {α : Type} {r : Except (List OptionProblem) α} (hne : r ≠ .error [])
    (h : problemsOf r = []) : exists a, r = .ok a := by
  cases r with
  | ok a => exact ⟨a, rfl⟩
  | error ps => exact absurd (congrArg Except.error h) hne

theorem validate_ne_nil (t : Table) : validate t ≠ .error [] := by
  simp only [validate]
  split
  · simp
  · next hnot =>
      intro h
      simp only [Except.error.injEq, List.append_eq_nil_iff] at h
      rcases h with ⟨⟨⟨⟨⟨hhost, hport⟩, hprogram⟩, hrevert⟩, htimeout⟩, hlog⟩
      rcases ok_of_problemsOf (setting_ne_nil _ _ _ _) hhost with ⟨a, ha⟩
      rcases ok_of_problemsOf (setting_ne_nil _ _ _ _) hport with ⟨b, hb⟩
      rcases ok_of_problemsOf (programSetting_eq t ▸ program_ne_nil _) hprogram with ⟨c, hc⟩
      rcases ok_of_problemsOf (setting_ne_nil _ _ _ _) hrevert with ⟨d, hd⟩
      rcases ok_of_problemsOf (setting_ne_nil _ _ _ _) htimeout with ⟨e, he⟩
      rcases ok_of_problemsOf (setting_ne_nil _ _ _ _) hlog with ⟨f, hf⟩
      exact hnot a b c d e f ha hb hc hd he hf

theorem validate_congr {t t' : Table}
    (h : forall option, option ∈ optionNames -> settled t option = settled t' option) :
    validate t = validate t' := by
  simp only [optionNames, optionVariables, List.map_cons, List.map_nil, List.forall_mem_cons]
    at h
  rcases h with ⟨hhost, hport, hprogram, hrevert, htimeout, hlog, -⟩
  rw [validate, validate, setting_congr (by rfl) hhost, setting_congr (by rfl) hport,
    programSetting_congr hprogram, setting_congr (by rfl) hrevert,
    setting_congr positiveSetting_default htimeout, setting_congr (by rfl) hlog]

end Config
end EngineClient
