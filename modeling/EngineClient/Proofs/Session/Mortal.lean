import EngineClient.Proofs.Session.Opening

/-!
# Engines that can be ended

An engine is mortal if it can be looked at, asked, waited for and killed, and dies when it is
killed. As long as every engine is mortal, closing a session does not fail, and opening one
starts a mortal engine if only such are planned. Main statement: `exists_close_of_mortal`.
-/

namespace EngineClient

/-- Nothing that the client does to the engine goes wrong, and killing it ends it. -/
structure Temper.IsMortal (t : Temper) : Prop where
  look : t.lookFault? = none
  terminate : t.terminateFault? = none
  kill : t.killFault? = none
  wait : t.waitFault? = none
  lastWait : t.lastWaitFault? = none
  dies : t.onKill?.isSome = true

def SpawnPlan.IsMortal : SpawnPlan → Prop
  | .start temper => temper.IsMortal
  | _ => True

def World.IsMortal (w : World) : Prop :=
  forall e, e ∈ w.engines -> e.temper.IsMortal

theorem World.IsMortal.of_fades {w w' : World} (h : w.IsMortal)
    (hfades : List.Forall₂ Engine.Fades w.engines w'.engines) : w'.IsMortal := by
  intro e he
  rcases List.getElem?_of_mem he with ⟨i, hi⟩
  rcases forall₂_getElem? hfades hi with ⟨d, hd, hde⟩
  rw [hde.temper]
  exact h d (List.mem_of_getElem? hd)

theorem World.IsMortal.retire {w : World} (h : w.IsMortal) : w.retire.IsMortal := by
  intro e he
  rw [w.factor_retire World.engines fun _ _ => rfl] at he
  exact h e he

theorem World.IsMortal.close {w : World} (h : w.IsMortal) :
    (Session.close.after w).IsMortal :=
  h.retire.of_fades (Session.wanes_close w).engines

theorem Engine.await_eq_of_mortal {e : Engine} (h : e.temper.IsMortal) :
    e.await = if e.isAlive then .error (.waitTimedOut e.argv) else .ok () := by
  simp [await, h.wait, h.lastWait]

theorem Engine.await_of_mortal {e : Engine} (h : e.temper.IsMortal) :
    e.await = .ok () ∨ e.await = .error (.waitTimedOut e.argv) := by
  rw [Engine.await_eq_of_mortal h]
  cases e.isAlive with
  | true => exact Or.inr rfl
  | false => exact Or.inl rfl

theorem Engine.await_kill {e : Engine} (h : e.temper.IsMortal) : e.kill.await = .ok () := by
  rcases Option.isSome_iff_exists.mp h.dies with ⟨code, hcode⟩
  rw [Engine.await_eq_of_mortal (e := e.kill) h]
  simp [isAlive, kill, hcode]

namespace Session

open Act

variable {w : World}

theorem exists_look_of_mortal (h : w.IsMortal) (i : Nat) :
    exists sight w', look i w = .ok sight w' := by
  unfold look
  rw [bind_run_of_ok (get_run w)]
  cases he : w.engines[i]? with
  | none => exact ⟨_, _, rfl⟩
  | some e =>
      simp only [(h e (List.mem_of_getElem? he)).look]
      exact ⟨_, _, rfl⟩

theorem exists_terminate_of_mortal (h : w.IsMortal) (i : Nat) :
    exists w', terminate i w = .ok () w' := by
  unfold terminate
  rw [bind_run_of_ok (get_run w)]
  cases he : w.engines[i]? with
  | none => exact ⟨_, rfl⟩
  | some e =>
      simp only [Option.bind_some, (h e (List.mem_of_getElem? he)).terminate]
      exact ⟨_, rfl⟩

theorem await_of_mortal (h : w.IsMortal) (i : Nat) :
    await i w = .ok () w ∨ exists argv, await i w = .error (.waitTimedOut argv) w := by
  unfold await
  rw [bind_run_of_ok (get_run w)]
  cases he : w.engines[i]? with
  | none => exact Or.inl rfl
  | some e =>
      rcases e.await_of_mortal (h e (List.mem_of_getElem? he)) with hok | htimeout
      · left
        simp only [hok]
        rfl
      · right
        simp only [htimeout]
        exact ⟨_, rfl⟩

theorem exists_kill_await_of_mortal (h : w.IsMortal) (i : Nat) :
    exists w', (do kill i; await i : Act Unit) w = .ok () w' := by
  have hkill : kill i w = .ok () { w with engines := w.engines.modify i Engine.kill } := by
    unfold kill
    rw [bind_run_of_ok (get_run w)]
    cases he : w.engines[i]? with
    | none => rfl
    | some e =>
        simp only [Option.bind_some, (h e (List.mem_of_getElem? he)).kill]
        rfl
  have hkilled : (w.engines.modify i Engine.kill)[i]? = w.engines[i]?.map Engine.kill :=
    List.getElem?_modify_eq ..
  rw [bind_run_of_ok hkill]
  unfold await
  rw [bind_run_of_ok (get_run _), hkilled]
  cases he : w.engines[i]? with
  | none => exact ⟨_, rfl⟩
  | some e =>
      rw [Option.map_some]
      simp only [e.await_kill (h e (List.mem_of_getElem? he))]
      exact ⟨_, rfl⟩

theorem exists_endEngine_of_mortal (h : w.IsMortal) (i : Nat) :
    exists w', endEngine i w = .ok () w' := by
  rcases exists_terminate_of_mortal h i with ⟨w₁, hasked⟩
  have hmortal : w₁.IsMortal := h.of_fades ((wanes_terminate i).of_ok hasked).engines
  unfold endEngine
  rw [bind_run_of_ok hasked]
  rcases await_of_mortal hmortal i with hended | ⟨argv, hstayed⟩
  · rw [bind_run_of_ok (attempt_ok hended)]
    exact ⟨_, rfl⟩
  · rw [bind_run_of_ok (attempt_error hstayed)]
    exact exists_kill_await_of_mortal hmortal i

theorem exists_stopEngine_of_mortal (h : w.IsMortal) (engine? : Option Nat) :
    exists w', stopEngine engine? w = .ok () w' := by
  cases engine? with
  | none => exact ⟨_, rfl⟩
  | some i =>
      rcases exists_look_of_mortal h i with ⟨sight, w₁, hlook⟩
      have hmortal : w₁.IsMortal := h.of_fades ((wanes_look i).of_ok hlook).engines
      unfold stopEngine
      dsimp only
      rw [bind_run_of_ok hlook]
      cases sight.exit? with
      | some code => exact ⟨_, rfl⟩
      | none => exact exists_endEngine_of_mortal hmortal i

/-- Among mortal engines, closing does not fail. -/
theorem exists_close_of_mortal (h : w.IsMortal) : exists w', close w = .ok () w' := by
  cases hs : w.client.session? with
  | none => exact ⟨w, close_of_none hs⟩
  | some s =>
      rcases exists_stopEngine_of_mortal h.retire s.engine? with ⟨w₁, hstop⟩
      rw [close_of_some hs, finish_of_ok hstop]
      exact ⟨_, rfl⟩

/-!
## Opening
-/

theorem mortal_startEngine (h : w.IsMortal)
    (hplans : forall plan, plan ∈ w.surroundings.spawns -> plan.IsMortal)
    (argv : List String) (output? : Option Nat) :
    ((startEngine argv output?).after w).IsMortal ∧
      forall plan, plan ∈ ((startEngine argv output?).after w).surroundings.spawns ->
        plan.IsMortal := by
  have hrest : forall plan, plan ∈ w.surroundings.spawns.tail -> plan.IsMortal :=
    fun plan hplan => hplans plan (List.mem_of_mem_tail hplan)
  cases hstart : startEngine argv output? w with
  | error f w₁ =>
      rw [after_of_error hstart]
      rcases startEngine_eq_error hstart with rfl | rfl
      · exact ⟨h, hplans⟩
      · exact ⟨h, hrest⟩
  | ok i w₁ =>
      rw [after_of_ok hstart]
      rcases startEngine_eq_ok hstart with ⟨_, pid, cwd, temper, hplan, rfl⟩
      have htemper : temper.IsMortal := by
        cases hspawns : w.surroundings.spawns with
        | nil =>
            rw [hspawns] at hplan
            cases hplan
            exact ⟨rfl, rfl, rfl, rfl, rfl, rfl⟩
        | cons plan plans =>
            rw [hspawns] at hplan hplans
            have hmortal := hplans plan List.mem_cons_self
            change plan = _ at hplan
            rw [hplan] at hmortal
            exact hmortal
      refine ⟨?_, hrest⟩
      intro e he
      rcases List.mem_append.mp he with he | he
      · exact h e he
      · rw [List.mem_singleton.mp he]
        exact htemper

theorem mortal_openOn (h : w.IsMortal)
    (hplans : forall plan, plan ∈ w.surroundings.spawns -> plan.IsMortal)
    (directory : String) : ((openOn directory).after w).IsMortal := by
  have hboth : ((openOn directory).after w).IsMortal ∧
      forall plan, plan ∈ ((openOn directory).after w).surroundings.spawns -> plan.IsMortal := by
    apply after_openOn
      (P := fun v => v.IsMortal ∧ forall plan, plan ∈ v.surroundings.spawns -> plan.IsMortal)
    · refine ⟨h.close, ?_⟩
      rw [(wanes_close w).factor World.surroundings fun _ => rfl,
        w.factor_retire World.surroundings fun _ _ => rfl]
      exact hplans
    · rintro v v' hengines hsurroundings ⟨hv, hrest⟩
      unfold World.IsMortal
      rw [hengines, hsurroundings]
      exact ⟨hv, hrest⟩
    · rintro v v' hends ⟨hv, hrest⟩
      refine ⟨hv.of_fades hends.engines, ?_⟩
      rw [hends.factor World.surroundings fun _ => rfl]
      exact hrest
    · rintro v argv output? ⟨hv, hrest⟩
      exact mortal_startEngine hv hrest argv output?
  exact hboth.1

end Session
end EngineClient
