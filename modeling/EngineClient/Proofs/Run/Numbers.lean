import EngineClient.Proofs.Run.Basic

/-!
# The engine of the session in use

A session names its engine by a number. In every run, whatever fails in it, the engine that
the session in use names was started.
-/

namespace EngineClient

/-- The engine of the session in use was started. -/
def World.IsNumbered (w : World) : Prop :=
  forall s i, w.client.session? = some s -> s.engine? = some i -> i < w.engines.length

namespace World.IsNumbered

variable {w w' : World}

theorem of_session?_none (h : w.client.session? = none) : w.IsNumbered := by
  intro s i hs
  rw [h] at hs
  cases hs

theorem of_engine?_none {s : Session} (hs : w.client.session? = some s)
    (hnone : s.engine? = none) : w.IsNumbered := by
  intro t i ht hi
  rw [hs] at ht
  cases ht
  rw [hnone] at hi
  cases hi

theorem steady (hsteady : w.Steady w') (h : w.IsNumbered) : w'.IsNumbered := by
  intro s' i hs' hi
  have hpost := hsteady.post_session?
  rw [hs'] at hpost
  rcases Option.map_eq_some_iff.mp hpost.symm with ⟨s, hs, hpost⟩
  rw [← hsteady.engines.length_eq]
  exact h s i hs ((congrArg Prod.snd hpost).trans hi)

theorem close (w : World) : (Session.close.after w).IsNumbered :=
  of_session?_none (Session.session?_after_close w)

theorem calm (hcalm : w.Calm w') (h : w.IsNumbered) : w'.IsNumbered := by
  refine hcalm.keeps (P := World.IsNumbered) (fun _ _ => steady) ?_ h
  intro v v' hclose _
  rw [← Act.after_of_ok hclose]
  exact close v

theorem connected {l : Session.Launch} {i : Nat}
    (hstart : Session.startEngine l.argv l.stream? (w.begun l) = .ok i w') :
    (w'.connected w.client.epoch i l.stream?).IsNumbered := by
  intro s j hs hj
  rw [Session.session?_connected hstart] at hs
  cases hs
  cases hj
  rcases Session.startEngine_eq_ok hstart with ⟨rfl, pid, cwd, temper, _, rfl⟩
  change w.engines.length < (w.engines ++ [_]).length
  rw [List.length_append]
  exact Nat.lt_succ_self _

theorem openOn (directory : String) (w : World) :
    ((Session.openOn directory).after w).IsNumbered := by
  have hopens := Session.opens_openOn directory w
  unfold Act.after
  cases hrun : Session.openOn directory w with
  | ok n w' =>
      rw [hrun] at hopens
      cases hopens with
      | connected hprepare hstart hwanes =>
          exact (connected hstart).steady (.of_outside (.of_wanes hwanes))
  | error f w' =>
      rw [hrun] at hopens
      cases hopens with
      | unprepared hprepare =>
          exact close w
      | withdrawn hprepare hstart hos hwanes =>
          refine of_session?_none ?_
          rw [hwanes.client]
          rfl
      | @stranded l w₁ _ _ hprepare hstart hother =>
          -- The session that is left in use has no engine to name.
          refine of_engine?_none (s := Session.starting w₁.client.options l.directory) ?_ rfl
          rcases Session.startEngine_eq_error hstart with rfl | rfl
          · exact Session.session?_begun w₁ l
          · exact Session.session?_begun w₁ l

theorem of_reached {admits : World → Move → Prop} {opened : List Nat}
    (h : Reached admits opened w) : w.IsNumbered := by
  induction h with
  | fresh hfresh =>
      refine of_session?_none ?_
      rw [Client.session?, hfresh.current]
      rfl
  | elsewhere _ hstep ih =>
      exact ih.steady hstep.steady
  | @move _ w hreached m _ ih =>
      cases m with
      | openOn directory => exact openOn directory w
      | close => exact close w
      | _ => exact ih.calm (Move.calm hreached.isApart trivial)

end World.IsNumbered
end EngineClient
