import EngineClient.Proofs.CommandLine.Shutdown
import EngineClient.Proofs.Config.Layering
import EngineClient.Proofs.Disk.Entries

/-!
# Settings files that spoil a configuration

A settings file that is not there or is malformed counts as empty. Not every file is tolerated
so: a name that no file can have, octets that are no text, an integer with too many digits and
values that nest too deeply are faults of their own. No error of the client is made of them, so
they end a task where a bad setting would be reported. Main statement: `loads_or_spoiled`.
-/

namespace EngineClient

def Fault.IsConfigError (f : Fault) : Prop :=
  exists e, f.clientError? = some e ∧ e.kind = .config

namespace Config

/-!
## The file
-/

/-- What the settings file at a place holds: nothing if it cannot be opened or is malformed,
or else the table that its text writes. -/
inductive Holds (d : Disk) (p : Path) : Table -> Prop where
  | absent (fault : Fault) (hread : d.readText p = .error fault) (hos : fault.isOs = true) :
      Holds d p []
  | malformed (s : String) (hread : d.readText p = .ok s)
      (hs : Toml.read s.toList = .error .malformed) : Holds d p []
  | written (s : String) (t : Table) (hread : d.readText p = .ok s)
      (hs : Toml.read s.toList = .ok t) : Holds d p t

theorem loadFile_of_holds {d : Disk} {p : Path} {t : Table} (h : Holds d p t) :
    loadFile d p = .ok t := by
  cases h with
  | absent fault hread hos => simp [loadFile, hread, hos]
  | malformed s hread hs => simp [loadFile, hread, tableOfText, hs]
  | written s t hread hs => simp [loadFile, hread, tableOfText, hs]

/-- Why a settings file gives no table, not even an empty one. -/
inductive Spoils (d : Disk) (p : Path) : Fault → Prop where
  | name (hnul : Disk.hasNul p.text = true) : Spoils d p .embeddedNul
  | octets {content : List UInt8} {e : Text.Utf8.Malformed}
      (hnul : Disk.hasNul p.text = false) (hfile : d.stat p = .ok (.file content))
      (h : Text.Utf8.decode content = .error e) : Spoils d p (.undecodable e)
  | number {s : String} {digits : Nat} (hread : d.readText p = .ok s)
      (h : Toml.read s.toList = .error (.longInteger digits)) :
      Spoils d p (.decode (.longInteger digits))
  | nesting {s : String} (hread : d.readText p = .ok s)
      (h : Toml.read s.toList = .error .tooDeep) : Spoils d p .tooDeep

variable {d : Disk} {p : Path} {f : Fault}

/-- What spoils a file is no error of the client, and none of the operating system. -/
theorem Spoils.foreign (h : Spoils d p f) : f.clientError? = none ∧ f.isOs = false := by
  cases h <;> exact ⟨rfl, rfl⟩

theorem loadFile_of_spoils (h : Spoils d p f) : loadFile d p = .error f := by
  have hreads : forall {f}, f.isOs = false -> d.readText p = .error f ->
      loadFile d p = .error f := by
    intro f hos hread
    simp [loadFile, hread, hos]
  cases h with
  | name hnul =>
      apply hreads rfl
      simp [Disk.readText, Disk.readOctets, hnul, Except.bind]
  | octets hnul hfile h =>
      apply hreads rfl
      simp [Disk.readText, Disk.readOctets, hnul, hfile, Except.bind, Disk.decodeFile, h]
  | number hread h => simp [loadFile, hread, tableOfText, h]
  | nesting hread h => simp [loadFile, hread, tableOfText, h]

theorem holds_of_not_file (hnul : Disk.hasNul p.text = false)
    (h : forall content, d.stat p ≠ .ok (.file content)) : Holds d p [] := by
  have hread : exists e, d.readText p = .error (.os e) := by
    simp only [Disk.readText, Disk.readOctets, hnul]
    cases hstat : d.stat p with
    | error problem => exact ⟨_, rfl⟩
    | ok n =>
        cases n with
        | file content => exact absurd hstat (h content)
        | sealed content => exact ⟨_, rfl⟩
        | directory => exact ⟨_, rfl⟩
        | link target => exact ⟨_, rfl⟩
  rcases hread with ⟨e, hread⟩
  exact .absent _ hread rfl

theorem holds_or_spoils (d : Disk) (p : Path) :
    (exists t, Holds d p t) ∨ exists f, Spoils d p f := by
  cases hnul : Disk.hasNul p.text with
  | true => exact Or.inr ⟨_, .name hnul⟩
  | false =>
      by_cases hfile : exists content, d.stat p = .ok (.file content)
      · rcases hfile with ⟨content, hfile⟩
        cases hdecode : Text.Utf8.decode content with
        | error e => exact Or.inr ⟨_, .octets hnul hfile hdecode⟩
        | ok cs =>
            have hread : d.readText p = .ok (String.ofList (Text.unifyLineEnds cs)) := by
              simp [Disk.readText, Disk.readOctets, hnul, hfile, Except.bind, Disk.decodeFile,
                hdecode]
            cases htoml : Toml.read (String.ofList (Text.unifyLineEnds cs)).toList with
            | ok t => exact Or.inl ⟨t, .written _ t hread htoml⟩
            | error e =>
                cases e with
                | malformed => exact Or.inl ⟨[], .malformed _ hread htoml⟩
                | longInteger digits => exact Or.inr ⟨_, .number hread htoml⟩
                | tooDeep => exact Or.inr ⟨_, .nesting hread htoml⟩
      · exact Or.inl ⟨[], holds_of_not_file hnul fun content h => hfile ⟨content, h⟩⟩

theorem loadFile_eq_ok_iff {t : Table} : loadFile d p = .ok t ↔ Holds d p t := by
  constructor
  · -- A file holds a table or is spoiled, and what is read tells which.
    intro h
    rcases holds_or_spoils d p with ⟨t', hholds⟩ | ⟨f, hspoils⟩
    · rw [loadFile_of_holds hholds] at h
      cases h
      exact hholds
    · rw [loadFile_of_spoils hspoils] at h
      cases h
  · exact loadFile_of_holds

theorem loadFile_eq_error_iff : loadFile d p = .error f ↔ Spoils d p f := by
  constructor
  · intro h
    rcases holds_or_spoils d p with ⟨t, hholds⟩ | ⟨f', hspoils⟩
    · rw [loadFile_of_holds hholds] at h
      cases h
    · rw [loadFile_of_spoils hspoils] at h
      cases h
      exact hspoils
  · exact loadFile_of_spoils

/-!
## The options
-/

theorem isConfigError_of_environmentTable {env : Environment}
    (h : environmentTable env = .error f) : f.IsConfigError := by
  cases hword : misworded? env with
  | none =>
      rw [environmentTable_of_worded hword] at h
      cases h
  | some word =>
      rw [environmentTable_of_misworded hword] at h
      cases h
      exact ⟨_, rfl, rfl⟩

theorem isConfigError_of_optionsOf {t : Table} (h : optionsOf t = .error f) :
    f.IsConfigError := by
  unfold optionsOf at h
  cases hvalid : validate t with
  | ok o =>
      rw [hvalid] at h
      cases h
  | error ps =>
      rw [hvalid] at h
      cases h
      exact ⟨_, rfl, rfl⟩

def settingsFile (d : Disk) (root? path? : Option Path) : Path :=
  filePath root? path? (Location.path d.cwd)

theorem load_of_spoils {root? path? : Option Path} (h : Spoils d (settingsFile d root? path?) f)
    (env : Environment) (passed : Table) : load d root? path? env passed = .error f := by
  have htable : loadTable d root? path? = .error f := loadFile_of_spoils h
  rw [load, loadSection, htable]
  rfl

theorem spoils_of_load {root? path? : Option Path} {env : Environment} {passed : Table}
    (h : load d root? path? env passed = .error f) :
    f.IsConfigError ∨ Spoils d (settingsFile d root? path?) f := by
  unfold load loadSection at h
  cases htable : loadTable d root? path? with
  | error g =>
      rw [htable] at h
      cases h
      exact Or.inr (loadFile_eq_error_iff.mp htable)
  | ok t =>
      rw [htable] at h
      cases henv : environmentTable env with
      | error g =>
          rw [henv] at h
          cases h
          exact Or.inl (isConfigError_of_environmentTable henv)
      | ok surrounding =>
          rw [henv] at h
          exact Or.inl (isConfigError_of_optionsOf h)

/-!
## The tasks

A task reports an error of the client, and any other fault escapes it.
-/

section Tasks

open Act CommandLine

variable {w : World} {i : Invocation} {env : Environment} {root : Path} {interactive : Bool}
  {input : Shell.Input}

theorem runOn_of_configError (harrives : Arrives i w root)
    (hload : load w.disk (some root) (i.config?.map Path.ofText) env [] = .error f)
    (hfault : f.IsConfigError) :
    runOn i env interactive input w =
      .ok .badOptions ((Shell.complain ("config: " ++ f.message)).after w) := by
  rcases hfault with ⟨e, he, _⟩
  have hfound : findOptions i env root w =
      .ok (.error .badOptions) ((Shell.complain ("config: " ++ f.message)).after w) := by
    unfold findOptions
    rw [bind_run_of_ok (disk_run w), hload]
    simp only [he]
    rfl
  rw [runOn_of_arrives harrives, bind_run_of_ok hfound]
  rfl

theorem runOn_of_foreign (harrives : Arrives i w root)
    (hload : load w.disk (some root) (i.config?.map Path.ofText) env [] = .error f)
    (hfault : f.clientError? = none) :
    runOn i env interactive input w = .error f w := by
  have hfound : findOptions i env root w = .error f w := by
    unfold findOptions
    rw [bind_run_of_ok (disk_run w), hload]
    simp only [hfault]
    rfl
  rw [runOn_of_arrives harrives, bind_run_of_error hfound]

end Tasks

/-- A settings file gives the table that it holds, the empty one wherever there is no file, and
fails exactly if it is spoiled. Loading options fails for what spoils the file, or else with an
error about the configuration, and never otherwise. A task reports the latter; the former, which
is no error of the client, escapes it. -/
theorem loads_or_spoiled (d : Disk) (root? path? : Option Path) (env : Environment)
    (passed : Table) :
    (forall t, loadTable d root? path? = .ok t ↔ Holds d (settingsFile d root? path?) t) ∧
    (forall f, loadTable d root? path? = .error f ↔ Spoils d (settingsFile d root? path?) f) ∧
    (Disk.hasNul (settingsFile d root? path?).text = false ->
      (forall content, d.stat (settingsFile d root? path?) ≠ .ok (.file content)) ->
        Holds d (settingsFile d root? path?) []) ∧
    (forall f, load d root? path? env passed = .error f ->
      f.IsConfigError ∨ Spoils d (settingsFile d root? path?) f) ∧
    (forall f, Spoils d (settingsFile d root? path?) f ->
      load d root? path? env passed = .error f ∧ ¬ f.IsConfigError) ∧
    forall (w : World) (i : CommandLine.Invocation) root (interactive : Bool)
      (input : Shell.Input) f,
      CommandLine.Arrives i w root ->
      load w.disk (some root) (i.config?.map Path.ofText) env [] = .error f ->
        f.IsConfigError ∧
            CommandLine.runOn i env interactive input w =
              .ok .badOptions ((Shell.complain ("config: " ++ f.message)).after w) ∨
          Spoils w.disk (settingsFile w.disk (some root) (i.config?.map Path.ofText)) f ∧
            CommandLine.runOn i env interactive input w = .error f w := by
  refine ⟨fun _ => loadFile_eq_ok_iff, fun _ => loadFile_eq_error_iff, holds_of_not_file,
    fun _ => spoils_of_load, ?_, ?_⟩
  · -- The file is read before the environment, so nothing else can be reported instead.
    intro f hspoils
    refine ⟨load_of_spoils hspoils env passed, ?_⟩
    rintro ⟨e, he, _⟩
    rw [hspoils.foreign.1] at he
    cases he
  · intro w i root interactive input f harrives hload
    rcases spoils_of_load hload with hconfig | hspoils
    · exact Or.inl ⟨hconfig, runOn_of_configError harrives hload hconfig⟩
    · exact Or.inr ⟨hspoils, runOn_of_foreign harrives hload hspoils.foreign.1⟩

def mangled : Disk :=
  { Disk.bare with nodes := [([fileName], .file [0xff])] }

theorem spoils_mangled :
    Spoils mangled (settingsFile mangled (some ⟨.single, []⟩) none)
      (.undecodable ⟨0, 0xff, 1, .start⟩) := by
  have hname : Disk.IsEntry fileName :=
    ⟨⟨rfl, by simp [fileName], by simp [fileName]⟩, by decide, rfl⟩
  have hfile : mangled.stat ⟨.single, [fileName]⟩ = .ok (.file [0xff]) := by
    rw [Disk.stat_name hname rfl]
    rfl
  exact .octets rfl hfile rfl

/-- The options of a root with such a file are shown by no task and reported by none. -/
theorem runOn_mangled :
    loadTable mangled (some ⟨.single, []⟩) none = .error (.undecodable ⟨0, 0xff, 1, .start⟩) ∧
      CommandLine.runOn { task := .config, root := "/" } [] false { text := [] }
          { newClient with disk := mangled } =
        .error (.undecodable ⟨0, 0xff, 1, .start⟩) { newClient with disk := mangled } := by
  let w : World := { newClient with disk := mangled }
  have harrives : CommandLine.Arrives { task := .config, root := "/" } w ⟨.single, []⟩ := by
    refine ⟨Disk.realPath_root mangled, ?_, nofun⟩
    change (!mangled.isFile ⟨.single, []⟩) = true
    rw [Disk.isFile, Disk.stat_root]
    rfl
  rcases loads_or_spoiled mangled (some ⟨.single, []⟩) none [] [] with
    ⟨_, hspoiled, _, _, hload, htasks⟩
  rcases hload _ spoils_mangled with ⟨hfails, hforeign⟩
  refine ⟨(hspoiled _).mpr spoils_mangled, ?_⟩
  rcases htasks w _ _ false { text := [] } _ harrives hfails with ⟨hconfig, _⟩ | ⟨_, hrun⟩
  · exact absurd hconfig hforeign
  · exact hrun

end Config
end EngineClient
