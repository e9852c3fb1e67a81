import EngineClient.CommandLine.Run
import EngineClient.Proofs.Log.Threshold
import EngineClient.Proofs.Run.OneEngine
import EngineClient.Proofs.Session.FailedOpen
import EngineClient.Proofs.Session.Waiting
import EngineClient.Proofs.Shell.Passages

/-!
# What a shell leaves behind

Whatever a shell reads, it closes its session once it has begun to read. Before that, a fault
of the client closes the session as well. Any other fault of the start of the engine, or of
the wait for it, escapes past both closes. Main statement: `clear_of_runOn_iff`.
-/

namespace EngineClient

/-- The client is closed, and no engine that it started lives. -/
structure World.IsClear (w : World) : Prop where
  session : w.client.session? = none
  state : w.client.state = .closed
  dead : forall e, e ∈ w.engines -> e.isAlive = false

/-- Only the engine of the session in use may live, and it can be ended. -/
structure World.IsTended (w : World) : Prop where
  one : exists opened, OneEngine opened w
  apart : w.IsApart
  mortal : w.IsMortal

namespace World

variable {w w' : World}

theorem IsClear.of_eq (h : w.IsClear) (hclient : w'.client = w.client)
    (hengines : w'.engines = w.engines) : w'.IsClear := by
  constructor
  · rw [hclient]
    exact h.session
  · rw [hclient]
    exact h.state
  · rw [hengines]
    exact h.dead

namespace IsTended

theorem of_fresh (h : w.IsFresh) : w.IsTended := by
  refine ⟨⟨[], .fresh h⟩, h.isApart, ?_⟩
  intro e he
  rw [h.engines] at he
  cases he

theorem calm {α : Type} {x : Act α} (hx : x.Calm) (h : w.IsTended) : (x.after w).IsTended := by
  rcases hx w h.apart with ⟨hapart, hcalm⟩
  rcases h.one with ⟨opened, hone⟩
  refine ⟨⟨opened, hone.calm hcalm⟩, hapart, ?_⟩
  apply hcalm.keeps_gentle (P := World.IsMortal) _ _ h.mortal
  · intro v v' hgentle hv
    exact hv.of_fades hgentle.engines
  · intro v v' hclose hv
    rw [← Act.after_of_ok hclose]
    exact hv.close

theorem openOn (h : w.IsTended)
    (hplans : forall plan, plan ∈ w.surroundings.spawns -> plan.IsMortal)
    (directory : String) : ((Session.openOn directory).after w).IsTended := by
  rcases h.one with ⟨opened, hone⟩
  constructor
  · exact ⟨_, hone.openOn (Session.exists_close_of_mortal h.mortal)⟩
  · exact h.apart.openOn directory
  · exact Session.mortal_openOn h.mortal hplans directory

/-- Among engines that are tended, no session means that nothing is left. -/
theorem clear_of_session?_none (h : w.IsTended) (hnone : w.client.session? = none) :
    w.IsClear := by
  rcases h.one with ⟨opened, hone⟩
  refine ⟨hnone, Session.state_of_session?_none hnone, ?_⟩
  intro e he
  rcases List.getElem?_of_mem he with ⟨i, hi⟩
  exact hone.dead_of_session?_none hnone hi

theorem clear_of_close (h : w.IsTended) :
    exists w', Session.close w = .ok () w' ∧ w'.IsClear := by
  rcases Session.exists_close_of_mortal h.mortal with ⟨w', hclose⟩
  rcases h.one with ⟨opened, hone⟩
  have hnone := Session.session?_after_close w
  rw [Act.after_of_ok hclose] at hnone
  refine ⟨w', hclose, hnone, Session.state_of_session?_none hnone, ?_⟩
  intro e he
  rcases List.getElem?_of_mem he with ⟨i, hi⟩
  exact hone.dead_of_close hclose hi

end IsTended

theorem IsFresh.clear (h : w.IsFresh) : w.IsClear := by
  apply (IsTended.of_fresh h).clear_of_session?_none
  unfold Client.session?
  rw [h.current]
  rfl

def configured (w : World) (o : Options) : World :=
  { w with
    client := { w.client with options := o, editor? := some {}, follows := o.autoRevert } }

theorem IsFresh.configured (h : w.IsFresh) (o : Options) : (w.configured o).IsFresh :=
  ⟨h.sessions, h.current, h.engines, h.companions, h.surroundings⟩

end World

namespace CommandLine

open Act

variable {w w' : World} {root : Path} {waits : Bool} {f : Fault}

/-!
## Lines
-/

theorem exists_attempt {α : Type} (x : Act α) (w : World) :
    exists res, attempt x w = .ok res (x.after w) := by
  unfold attempt after
  cases x w with
  | ok a w' => exact ⟨_, rfl⟩
  | error f w' => exact ⟨_, rfl⟩

theorem clear_runLinesAndClose (h : w.IsTended) (interactive : Bool) (input : Shell.Input) :
    ((runLinesAndClose interactive input).after w).IsClear := by
  unfold runLinesAndClose
  rcases exists_attempt (Shell.runInput interactive input) w with ⟨ran, hran⟩
  rw [after_bind_of_ok hran]
  rcases (h.calm (Shell.calm_runInput interactive input)).clear_of_close with
    ⟨w₁, hclose, hclear⟩
  rw [after_bind_of_ok hclose]
  rw [after_bind_of_idle (fun _ _ => rfl), after_ofExcept]
  exact hclear

/-!
## Opening
-/

/-- A fault escapes that leaves the session in use: one of starting the engine, or one of
waiting for it. -/
inductive Abandons (root : Path) (waits : Bool) (w : World) : Prop where
  | start {l : Session.Launch} {w₁ w₂ : World} {f : Fault}
      (hprepare : Session.prepare root.text w = .ok l w₁)
      (hstart : Session.startEngine l.argv l.stream? (w₁.begun l) = .error f w₂)
      (hos : f.isOs = false) (hclient : f.clientError? = none)
  | wait {n : Nat} {w₁ w₂ : World} {f : Fault} (hwaits : waits = true)
      (hopen : Session.openOn root.text w = .ok n w₁)
      (hwait : Session.waitUntilReady none w₁ = .error f w₂) (hclient : f.clientError? = none)

/-- A session is in use still: it got no engine, or an attempt to reach its engine went wrong
with a fault of its own. -/
inductive IsLeft (w : World) (f : Fault) (w' : World) : Prop where
  | starting {s : Session} (session : w'.client.session? = some s)
      (state : s.state = .starting) (engine : s.engine? = none)
  | running {s : Session} (session : w'.client.session? = some s)
      (state : s.state = .running) (plan : .fail f ∈ w.surroundings.probes)

theorem IsLeft.not_clear (h : IsLeft w f w') : ¬ w'.IsClear := by
  intro hclear
  have hnone := hclear.session
  cases h with
  | starting hsession _ _ =>
      rw [hsession] at hnone
      cases hnone
  | running hsession _ _ =>
      rw [hsession] at hnone
      cases hnone

theorem IsLeft.of_configured {o : Options} (h : IsLeft (w.configured o) f w') :
    IsLeft w f w' := by
  cases h with
  | starting hsession hstate hengine => exact .starting hsession hstate hengine
  | running hsession hstate hplan => exact .running hsession hstate hplan

theorem probes_openOn (directory : String) (w : World) :
    ((Session.openOn directory).after w).surroundings.probes = w.surroundings.probes := by
  apply Session.after_openOn (P := fun v => v.surroundings.probes = w.surroundings.probes)
  · rw [(Session.wanes_close w).factor World.surroundings fun _ => rfl,
      w.factor_retire World.surroundings fun _ _ => rfl]
  · intro v v' _ hsurroundings hv
    rw [hsurroundings]
    exact hv
  · intro v v' hends hv
    rw [hends.factor World.surroundings fun _ => rfl]
    exact hv
  · intro v argv output? hv
    cases hstart : Session.startEngine argv output? v with
    | ok i v' =>
        rw [after_of_ok hstart]
        rcases Session.startEngine_eq_ok hstart with ⟨_, _, _, _, _, rfl⟩
        exact hv
    | error f v' =>
        rw [after_of_error hstart]
        rcases Session.startEngine_eq_error hstart with rfl | rfl
        · exact hv
        · exact hv

theorem running_of_openOn {directory : String} {n : Nat}
    (h : Session.openOn directory w = .ok n w') :
    exists s, w'.client.session? = some s ∧ s.state = .running := by
  have hopens := Session.opens_openOn directory w
  rw [h] at hopens
  cases hopens with
  | connected hprepare hstart hwanes =>
      rw [hwanes.client]
      exact ⟨_, Session.session?_connected hstart, rfl⟩

theorem Abandons.left (h : Abandons root waits w) (htended : w.IsTended)
    (hplans : forall plan, plan ∈ w.surroundings.spawns -> plan.IsMortal) :
    exists f w',
      openSession root waits w = .error f w' ∧ f.isOs = false ∧ f.clientError? = none ∧
        IsLeft w f w' := by
  unfold openSession
  cases h with
  | @start l w₁ w₂ f hprepare hstart hos hclient =>
      have hopen : Session.openOn root.text w = .error f w₂ := by
        unfold Session.openOn
        rw [bind_run_of_ok hprepare, Session.launch_of_error hstart, hos]
        rfl
      rcases Session.stranded_of_start hprepare hstart with ⟨_, _, _, hsession, _, _⟩
      exact ⟨f, w₂, bind_run_of_error hopen, hos, hclient, .starting hsession rfl rfl⟩
  | @wait n w₁ w₂ f hwaits hopen hwait hclient =>
      have htended₁ := htended.openOn hplans root.text
      have hprobes := probes_openOn root.text w
      rw [after_of_ok hopen] at htended₁ hprobes
      have hbroken :=
        Session.broken_of_waitUntilReady htended₁.apart htended₁.mortal hwait hclient
      have hplan := hbroken.plan
      rw [hprobes] at hplan
      rcases running_of_openOn hopen with ⟨s, hs, hrunning⟩
      rw [← hbroken.tried.client] at hs
      refine ⟨f, w₂, ?_, hbroken.os, hclient, .running hs hrunning hplan⟩
      rw [bind_run_of_ok hopen, if_pos hwaits]
      exact hwait

/-- A fault that escapes otherwise leaves no session in use. -/
theorem session?_of_escaped (h : openSession root waits w = .error f w')
    (hclient : f.clientError? = none) (hkept : ¬ Abandons root waits w) :
    w'.client.session? = none := by
  unfold openSession at h
  rcases bind_eq_error h with hopen | ⟨n, w₁, hopen, h⟩
  · have hopens := Session.opens_openOn root.text w
    rw [hopen] at hopens
    cases hopens with
    | unprepared hprepare => exact Session.session?_after_close w
    | withdrawn hprepare hstart hos hwanes =>
        rw [hwanes.client]
        rfl
    | stranded hprepare hstart hother =>
        exact absurd (.start hprepare hstart hother hclient) hkept
  · cases hwaits : waits with
    | false =>
        rw [hwaits] at h
        cases h
    | true =>
        rw [if_pos hwaits] at h
        exact absurd (.wait hwaits hopen h hclient) hkept

theorem tended_openSession (h : w.IsTended)
    (hplans : forall plan, plan ∈ w.surroundings.spawns -> plan.IsMortal) :
    ((openSession root waits).after w).IsTended := by
  have hopened := h.openOn hplans root.text
  unfold openSession
  cases hopen : Session.openOn root.text w with
  | error f w₁ =>
      rw [after_of_error hopen] at hopened
      rw [after_bind_of_error hopen]
      exact hopened
  | ok n w₁ =>
      rw [after_of_ok hopen] at hopened
      rw [after_bind_of_ok hopen]
      cases waits with
      | false => exact hopened
      | true => exact hopened.calm (Session.calm_waitUntilReady none)

/-!
## The shell
-/

variable {o : Options} {i : Invocation} {interactive : Bool} {input : Shell.Input}

theorem runShell_of_ok (h : openSession root i.waits (w.configured o) = .ok () w') :
    runShell i o root interactive input w = runLinesAndClose interactive input w' := by
  unfold runShell
  rw [bind_run_of_ok (rfl : mapClient _ w = .ok () (w.configured o))]
  exact bind_run_of_ok (attempt_ok h)

theorem runShell_of_error (h : openSession root i.waits (w.configured o) = .error f w') :
    runShell i o root interactive input w =
      (if f.clientError?.isSome then (do
        Session.close
        Shell.complain f.message
        return .notOpened)
      else throw f : Act Status) w' := by
  unfold runShell
  rw [bind_run_of_ok (rfl : mapClient _ w = .ok () (w.configured o))]
  exact bind_run_of_ok (attempt_error h)

theorem runShell_of_abandons (h : Abandons root i.waits (w.configured o)) (hfresh : w.IsFresh)
    (hplans : forall plan, plan ∈ w.surroundings.spawns -> plan.IsMortal) :
    exists f w',
      runShell i o root interactive input w = .error f w' ∧ f.isOs = false ∧
        f.clientError? = none ∧ IsLeft w f w' := by
  rcases h.left (.of_fresh (hfresh.configured o)) hplans with
    ⟨f, w', hopen, hos, hclient, hleft⟩
  refine ⟨f, w', ?_, hos, hclient, hleft.of_configured⟩
  rw [runShell_of_error hopen, hclient]
  rfl

theorem clear_runShell (hfresh : w.IsFresh)
    (hplans : forall plan, plan ∈ w.surroundings.spawns -> plan.IsMortal)
    (hkept : ¬ Abandons root i.waits (w.configured o)) :
    ((runShell i o root interactive input).after w).IsClear := by
  have htended : ((openSession root i.waits).after (w.configured o)).IsTended :=
    tended_openSession (.of_fresh (hfresh.configured o)) hplans
  cases hopen : openSession root i.waits (w.configured o) with
  | ok u w₁ =>
      rw [after_of_ok hopen] at htended
      rw [after_of_run_eq (runShell_of_ok hopen)]
      exact clear_runLinesAndClose htended interactive input
  | error f w₁ =>
      rw [after_of_error hopen] at htended
      rw [after_of_run_eq (runShell_of_error hopen)]
      cases hclient : f.clientError? with
      | none =>
          exact htended.clear_of_session?_none (session?_of_escaped hopen hclient hkept)
      | some e =>
          rcases htended.clear_of_close with ⟨w₂, hclose, hclear⟩
          rw [if_pos Option.isSome_some, after_bind_of_ok hclose]
          exact hclear.of_eq rfl rfl

/-!
## Invocations
-/

/-- The task gets as far as its configuration: it has a root, and the shell a level. -/
structure Arrives (i : Invocation) (w : World) (root : Path) : Prop where
  path : rootPath w.disk i.root = .ok root
  place : isRoot w.disk i.task root = true
  level : i.task = .shell -> (Log.thresholdOfWord i.level).isOk = true

def carryOut (i : Invocation) (root : Path) (interactive : Bool) (input : Shell.Input)
    (found : Except Status Options) : Act Status :=
  match found with
  | .error status => pure status
  | .ok o =>
      match i.task with
      | .shell => runShell i o root interactive { input with text := Text.unifyLineEnds input.text }
      | .config => showOptions o

theorem runOn_of_arrives (h : Arrives i w root) (env : Config.Environment) :
    runOn i env interactive input w =
      (findOptions i env root >>= carryOut i root interactive input) w := by
  unfold runOn
  rw [bind_run_of_ok (disk_run w), h.path]
  rw [bind_run_of_ok (rfl : ofExcept (.ok root) w = .ok root w)]
  rw [bind_run_of_ok (disk_run w), h.place]
  cases htask : i.task with
  | config =>
      unfold carryOut
      rw [htask]
      rfl
  | shell =>
      have hlevel := h.level htask
      unfold carryOut
      rw [htask]
      cases hthreshold : Log.thresholdOfWord i.level with
      | error f =>
          rw [hthreshold] at hlevel
          cases hlevel
      | ok n => rfl

/-- The invocation is one of a shell that finds its root and its options. -/
structure Configured (i : Invocation) (env : Config.Environment) (w : World) (root : Path)
    (o : Options) : Prop where
  task : i.task = .shell
  path : rootPath w.disk i.root = .ok root
  directory : isRoot w.disk .shell root = true
  level : (Log.thresholdOfWord i.level).isOk = true
  options : Config.load w.disk (some root) (i.config?.map Path.ofText) env [] = .ok o

variable {env : Config.Environment}

theorem Configured.runOn (h : Configured i env w root o) :
    CommandLine.runOn i env interactive input w =
      runShell i o root interactive { input with text := Text.unifyLineEnds input.text } w := by
  have hfound : findOptions i env root w = .ok (.ok o) w := by
    unfold findOptions
    rw [bind_run_of_ok (disk_run w), h.options]
    rfl
  have harrives : Arrives i w root := by
    refine ⟨h.path, ?_, fun _ => h.level⟩
    rw [h.task]
    exact h.directory
  rw [runOn_of_arrives harrives, bind_run_of_ok hfound]
  unfold carryOut
  rw [h.task]

theorem findOptions_eq_ok (h : findOptions i env root w = .ok (.ok o) w') :
    Config.load w.disk (some root) (i.config?.map Path.ofText) env [] = .ok o := by
  unfold findOptions at h
  rw [bind_run_of_ok (disk_run w)] at h
  cases hload : Config.load w.disk (some root) (i.config?.map Path.ofText) env [] with
  | ok o' =>
      rw [hload] at h
      cases h
      rfl
  | error f =>
      rw [hload] at h
      cases hclient : f.clientError? <;> simp only [hclient] at h <;> cases h

/-- The act changes neither the client nor an engine. -/
abbrev Idle {α : Type} (x : Act α) : Prop :=
  x.Moves (Agree fun w => (w.client, w.engines))

theorem idle_findOptions (i : Invocation) (env : Config.Environment) (root : Path) :
    Idle (findOptions i env root) := by
  unfold findOptions
  refine Moves.bind .disk fun d => ?_
  split
  · exact .pure _
  · split
    · exact .bind (fun _ => rfl) fun _ => .pure _
    · exact .throw _

theorem idle_showOptions (o : Options) : Idle (showOptions o) := by
  unfold showOptions
  refine Moves.bind (.ofExcept _) fun page => ?_
  exact .bind (fun _ => rfl) fun _ => .pure _

theorem Idle.clear {α : Type} {x : Act α} (hx : Idle x) (h : w.IsClear) :
    (x.after w).IsClear := by
  have hagree := hx w
  simp only [Agree, Prod.mk.injEq] at hagree
  exact h.of_eq hagree.1 hagree.2

/-- An invocation that starts no shell starts no engine. -/
theorem clear_of_not_configured (h : w.IsClear)
    (hother : ¬ exists root o, Configured i env w root o) :
    ((runOn i env interactive input).after w).IsClear := by
  unfold runOn
  rw [after_bind_of_ok (disk_run w)]
  cases hpath : rootPath w.disk i.root with
  | error f => exact h
  | ok root =>
      rw [after_bind_of_ok (rfl : ofExcept (.ok root) w = .ok root w)]
      rw [after_bind_of_ok (disk_run w)]
      cases hdirectory : isRoot w.disk i.task root with
      | false => exact h
      | true =>
          cases htask : i.task with
          | config =>
              apply Idle.clear _ h
              apply Moves.bind (idle_findOptions i env root)
              intro found
              cases found with
              | error status => exact .pure _
              | ok o => exact idle_showOptions o
          | shell =>
              cases hlevel : Log.thresholdOfWord i.level with
              | error f => exact h
              | ok n =>
                  have hfound := (idle_findOptions i env root).clear h
                  show ((findOptions i env root >>= _).after w).IsClear
                  cases hrun : findOptions i env root w with
                  | error f w₁ =>
                      rw [after_of_error hrun] at hfound
                      rw [after_bind_of_error hrun]
                      exact hfound
                  | ok found w₁ =>
                      rw [after_of_ok hrun] at hfound
                      rw [after_bind_of_ok hrun]
                      cases found with
                      | error status => exact hfound
                      | ok o =>
                          rw [htask] at hdirectory
                          exact absurd ⟨root, o, htask, hpath, hdirectory,
                            by rw [hlevel]; rfl, findOptions_eq_ok hrun⟩ hother

/-- When a shell or another task ends, the client is closed and no engine of it lives, unless
a fault escaped from starting the engine or from waiting for it. Then the run ends with that
fault, which is neither one of the operating system nor one of the client, and a session is
still in use. -/
theorem clear_of_runOn_iff (hfresh : w.IsFresh)
    (hplans : forall plan, plan ∈ w.surroundings.spawns -> plan.IsMortal)
    (i : Invocation) (env : Config.Environment) (interactive : Bool) (input : Shell.Input) :
    (((runOn i env interactive input).after w).IsClear ↔
        ¬ exists root o,
          Configured i env w root o ∧ Abandons root i.waits (w.configured o)) ∧
      (forall root o, Configured i env w root o -> Abandons root i.waits (w.configured o) ->
        exists f w',
          runOn i env interactive input w = .error f w' ∧ f.isOs = false ∧
            f.clientError? = none ∧ IsLeft w f w') := by
  have hleft : forall root o, Configured i env w root o ->
      Abandons root i.waits (w.configured o) ->
        exists f w',
          runOn i env interactive input w = .error f w' ∧ f.isOs = false ∧
            f.clientError? = none ∧ IsLeft w f w' := by
    intro root o hconfigured habandons
    rw [hconfigured.runOn]
    exact runShell_of_abandons habandons hfresh hplans
  refine ⟨⟨?_, ?_⟩, hleft⟩
  · rintro hclear ⟨root, o, hconfigured, habandons⟩
    rcases hleft root o hconfigured habandons with ⟨f, w', hrun, _, _, hleft⟩
    rw [after_of_error hrun] at hclear
    exact hleft.not_clear hclear
  · intro hkept
    by_cases hconfigured : exists root o, Configured i env w root o
    · rcases hconfigured with ⟨root, o, hconfigured⟩
      rw [after_of_run_eq hconfigured.runOn]
      exact clear_runShell hfresh hplans fun h => hkept ⟨root, o, hconfigured, h⟩
    · exact clear_of_not_configured hfresh.clear hconfigured

def namelessHost : World :=
  { newClient with
    surroundings := { probes := [.fail (.foreign "UnicodeError" "label empty or too long")] } }

theorem namelessHost_isFresh : namelessHost.IsFresh where
  sessions := rfl
  current := rfl
  engines := rfl
  companions := rfl
  surroundings := by
    refine ⟨?_, ?_, ?_⟩
    · intro plan hplan
      cases hplan
    · intro hclose
      cases List.mem_singleton.mp hclose
    · intro entry hentry
      cases hentry

def rootShell : Invocation :=
  { task := .shell, root := "/", config? := some "/", level := "warning" }

theorem configured_rootShell :
    Configured rootShell [] namelessHost ⟨.single, []⟩ Config.defaults where
  task := rfl
  path := Disk.realPath_root _
  directory := by
    unfold isRoot Disk.isDirectory
    rw [Disk.stat_root]
  level := by
    have hword : Text.lower "WARNING" = "warning" := by decide +kernel
    have hmem : ("WARNING", (30 : Int)) ∈ Log.thresholdWords := by decide +kernel
    have hlevel := Log.thresholdOfWord_lower hmem
    rw [hword] at hlevel
    show (Log.thresholdOfWord "warning").isOk = true
    rw [hlevel]
    rfl
  options := by
    have hfile : Config.loadFile .bare ⟨.single, []⟩ = .ok [] := by
      unfold Config.loadFile
      rw [Disk.readText_root]
      rfl
    show Config.load .bare _ (some (Path.ofText "/")) [] [] = _
    rw [Disk.ofText_root]
    unfold Config.load Config.loadSection Config.loadTable
    rw [show Config.filePath _ _ _ = ⟨.single, []⟩ from rfl, hfile]
    rfl

def namelessSession : World :=
  (Session.connect (Session.rootLaunch namelessHost) 0
    (Session.starting Config.defaults ⟨.single, []⟩).url 0).after
      (((namelessHost.configured Config.defaults).begun
        (Session.rootLaunch namelessHost)).spawned firstEngine)

theorem openOn_namelessHost :
    Session.openOn "/" (namelessHost.configured Config.defaults) = .ok 0 namelessSession := by
  have hprepare :=
    Session.prepare_root (w := namelessHost.configured Config.defaults) rfl rfl
  have hstart :
      Session.startEngine (Session.rootLaunch namelessHost).argv none
        ((namelessHost.configured Config.defaults).begun (Session.rootLaunch namelessHost)) =
        .ok 0 (((namelessHost.configured Config.defaults).begun
          (Session.rootLaunch namelessHost)).spawned firstEngine) := rfl
  have hopen := bind_run_of_ok (g := Session.launch) hprepare
  exact hopen.trans (Session.launch_of_ok hstart)

theorem wait_namelessSession :
    exists w',
      Session.waitUntilReady none namelessSession =
          .error (.foreign "UnicodeError" "label empty or too long") w' ∧
        w'.engines[0]?.map Engine.isAlive = some true := by
  have hrequire : Session.requireRunning Session.waitCommand namelessSession =
      .ok 0 (namelessSession.looked 0) := rfl
  exact ⟨_, Session.waitUntilReady_of_error hrequire rfl rfl, rfl⟩

/-- The shell leaves a living engine behind. -/
theorem left_of_rootShell :
    exists f w',
      runOn rootShell [] false { text := [] } namelessHost = .error f w' ∧ ¬ w'.IsClear ∧
        IsLeft namelessHost f w' ∧
          exists e, e ∈ w'.engines ∧ e.isAlive = true := by
  have hopen := openOn_namelessHost
  rcases wait_namelessSession with ⟨w₁, hwait, halive⟩
  rw [← Disk.text_root] at hopen
  have habandons : Abandons ⟨.single, []⟩ true (namelessHost.configured Config.defaults) :=
    .wait rfl hopen hwait rfl
  have hplans : forall plan, plan ∈ namelessHost.surroundings.spawns -> plan.IsMortal := by
    intro plan hplan
    cases hplan
  rcases clear_of_runOn_iff namelessHost_isFresh hplans rootShell [] false { text := [] } with
    ⟨hclear, hleft⟩
  rcases hleft _ _ configured_rootShell habandons with ⟨f, w', hrun, _, _, hleft⟩
  have hopened : openSession ⟨.single, []⟩ rootShell.waits
      (namelessHost.configured Config.defaults) = .error _ w₁ :=
    (bind_run_of_ok hopen).trans hwait
  have hrun' := hrun.symm.trans
    (configured_rootShell.runOn.trans (runShell_of_error hopened))
  cases hrun'
  refine ⟨_, w₁, hrun, ?_, hleft, ?_⟩
  · rw [after_of_error hrun] at hclear
    exact fun h => hclear.mp h ⟨_, _, configured_rootShell, habandons⟩
  · rcases Option.map_eq_some_iff.mp halive with ⟨e, he, halive⟩
    exact ⟨e, List.mem_of_getElem? he, halive⟩

end CommandLine
end EngineClient
