import EngineClient.Proofs.Run.Outside

/-!
# Whether a session runs

A look at an engine that is apart from the client shows whether it has exited. A session
runs as long as its engine is not seen to have exited; when it is, the session is closed,
and closing cannot fail. Closing that succeeds leaves the engine dead.
-/

namespace EngineClient

def World.looked (w : World) (i : Nat) : World :=
  { w with engines := w.engines.modify i Engine.look }

theorem Engine.sight_look {e : Engine} (h : e.temper.IsApart) :
    e.look.sight = ⟨e.look.exit?, false⟩ := by
  have htemper : e.look.temper = e.temper := (Engine.Fades.look e).temper
  unfold Engine.sight
  rw [htemper, h]
  rfl

theorem Engine.exit?_look {e : Engine} {code : Int} (h : e.exit? = some code) :
    e.look.exit? = some code := by
  simp [Engine.look, h]

namespace Session

open Act

/-!
## Looks
-/

theorem look_of_none {w : World} {i : Nat} (h : w.engines[i]? = none) :
    look i w = .ok ⟨none, false⟩ w := by
  unfold look
  rw [bind_run_of_ok (get_run w), h]
  rfl

theorem look_of_fault {w : World} {i : Nat} {e : Engine} {f : Fault}
    (h : w.engines[i]? = some e) (hfault : e.temper.lookFault? = some f) :
    look i w = .error f w := by
  unfold look
  rw [bind_run_of_ok (get_run w), h]
  simp [hfault]

theorem look_of_some {w : World} {i : Nat} {e : Engine} (h : w.engines[i]? = some e)
    (hfault : e.temper.lookFault? = none) : look i w = .ok e.look.sight (w.looked i) := by
  unfold look
  rw [bind_run_of_ok (get_run w), h]
  simp only [hfault]
  rfl

theorem poll_of_some {w : World} {i : Nat} {e : Engine} (h : w.engines[i]? = some e)
    (hapart : e.temper.IsApart) (hfault : e.temper.lookFault? = none) :
    poll i w = .ok e.look.exit? (w.looked i) := by
  unfold poll
  rw [bind_run_of_ok (look_of_some h hfault), Engine.sight_look hapart]
  rfl

theorem look_eq_ok {w w' : World} {i : Nat} {sight : Engine.Sight}
    (h : look i w = .ok sight w') :
    w.engines[i]? = none ∧ sight = ⟨none, false⟩ ∧ w' = w ∨
      exists e, w.engines[i]? = some e ∧ sight = e.look.sight ∧ w' = w.looked i := by
  cases he : w.engines[i]? with
  | none =>
      rw [look_of_none he] at h
      cases h
      exact Or.inl ⟨rfl, rfl, rfl⟩
  | some e =>
      cases hfault : e.temper.lookFault? with
      | some f =>
          rw [look_of_fault he hfault] at h
          cases h
      | none =>
          rw [look_of_some he hfault] at h
          cases h
          exact Or.inr ⟨e, rfl, rfl, rfl⟩

/-!
## Engines that are ended
-/

theorem dead_of_sight {e : Engine} {code : Int} (h : e.sight.exit? = some code) :
    e.isAlive = false := by
  unfold Engine.sight at h
  split at h
  · cases h
  · change e.exit? = some code at h
    unfold Engine.isAlive
    rw [h]
    rfl

theorem await_eq_ok {w w' : World} {i : Nat} (h : await i w = .ok () w') :
    w' = w ∧ forall e, w.engines[i]? = some e -> e.isAlive = false := by
  unfold await at h
  rw [bind_run_of_ok (get_run w)] at h
  cases he : w.engines[i]? with
  | none =>
      rw [he] at h
      cases h
      refine ⟨rfl, ?_⟩
      intro e he'
      cases he'
  | some e =>
      rw [he] at h
      rcases ofExcept_eq_ok h with ⟨hawait, rfl⟩
      refine ⟨rfl, ?_⟩
      intro e' he'
      cases he'
      exact Engine.isAlive_of_await hawait

theorem dead_of_endEngine {w w' : World} {i : Nat} (h : endEngine i w = .ok () w') :
    forall e, w'.engines[i]? = some e -> e.isAlive = false := by
  unfold endEngine at h
  rcases bind_eq_ok h with ⟨_, w₁, _, h⟩
  rcases bind_eq_ok h with ⟨res, w₂, hawait, h⟩
  cases hfirst : await i w₁ with
  | ok u w₃ =>
      cases hawait.symm.trans (attempt_ok hfirst)
      cases h
      rcases await_eq_ok hfirst with ⟨rfl, hdead⟩
      exact hdead
  | error f w₃ =>
      cases hawait.symm.trans (attempt_error hfirst)
      cases f with
      | waitTimedOut argv =>
          rcases bind_eq_ok h with ⟨_, w₄, _, h⟩
          rcases await_eq_ok h with ⟨rfl, hdead⟩
          exact hdead
      | _ => cases h

/-- Once stopping an engine succeeded, the engine does not live. -/
theorem dead_of_stopEngine {w w' : World} {i : Nat} (h : stopEngine (some i) w = .ok () w') :
    forall e, w'.engines[i]? = some e -> e.isAlive = false := by
  unfold stopEngine at h
  rcases bind_eq_ok h with ⟨sight, w₁, hlook, h⟩
  cases hexit : sight.exit? with
  | none =>
      rw [hexit] at h
      exact dead_of_endEngine h
  | some code =>
      rw [hexit] at h
      cases h
      rcases look_eq_ok hlook with ⟨_, rfl, _⟩ | ⟨e, he, rfl, rfl⟩
      · cases hexit
      · intro e' he'
        change (w.engines.modify i Engine.look)[i]? = some e' at he'
        rw [List.getElem?_modify_eq, he] at he'
        cases he'
        exact dead_of_sight hexit

theorem stopEngine_of_exited {w : World} {i : Nat} {e : Engine} {code : Int}
    (he : w.engines[i]? = some e) (hapart : e.temper.IsApart)
    (hfault : e.temper.lookFault? = none) (hexit : e.exit? = some code) :
    stopEngine (some i) w = .ok () (w.looked i) := by
  unfold stopEngine
  refine (bind_run_of_ok (look_of_some he hfault)).trans ?_
  rw [Engine.sight_look hapart, Engine.exit?_look hexit]
  rfl

/-!
## Closing
-/

theorem finish_eq_ok {s : Session} {w w' : World} (h : s.finish w = .ok () w') :
    exists w₁, stopEngine s.engine? w = .ok () w₁ ∧ w₁.Wanes w' := by
  cases hstop : stopEngine s.engine? w with
  | ok _ w₁ =>
      rw [finish_of_ok hstop] at h
      exact ⟨w₁, rfl, (World.Wanes.shut w₁ _).trans ((wanes_record _ _ _ _).of_ok h)⟩
  | error f w₁ =>
      rw [finish_of_error hstop] at h
      cases h

theorem close_of_exited {w : World} {s : Session} {i : Nat} {e : Engine} {code : Int}
    (hs : w.client.session? = some s) (hi : s.engine? = some i) (he : w.engines[i]? = some e)
    (hapart : e.temper.IsApart) (hfault : e.temper.lookFault? = none)
    (hexit : e.exit? = some code) : exists w', close w = .ok () w' := by
  have hstop : stopEngine s.engine? w.retire = .ok () (w.retire.looked i) := by
    rw [hi]
    rw [← w.factor_retire World.engines fun _ _ => rfl] at he
    exact stopEngine_of_exited he hapart hfault hexit
  rw [close_of_some hs, finish_of_ok hstop]
  exact ⟨_, rfl⟩

/-!
## Watching
-/

theorem isRunning_of_none {w : World} (h : w.client.session? = none) :
    isRunning w = .ok false w := by
  unfold isRunning
  rw [bind_run_of_ok (client_run w), h]
  rfl

theorem isRunning_of_idle {w : World} {s : Session} (hs : w.client.session? = some s)
    (hidle : s.state = .running -> s.engine? = none) : isRunning w = .ok false w := by
  unfold isRunning
  rw [bind_run_of_ok (client_run w), hs]
  cases hstate : s.state with
  | closed => simp [hstate]
  | starting => simp [hstate]
  | running => simp [hstate, hidle hstate]

theorem running_of_not_idle {s : Session} (h : ¬ (s.state = .running -> s.engine? = none)) :
    s.state = .running ∧ exists i, s.engine? = some i := by
  have hstate : s.state = .running := by
    by_contra hstate
    exact h fun hrunning => absurd hrunning hstate
  exact ⟨hstate, Option.ne_none_iff_exists'.mp fun hnone => h fun _ => hnone⟩

theorem isRunning_of_running {w : World} {s : Session} {i : Nat}
    (hs : w.client.session? = some s) (hstate : s.state = .running) (hi : s.engine? = some i) :
    isRunning w = (poll i >>= heed s) w := by
  unfold isRunning
  rw [bind_run_of_ok (client_run w), hs]
  simp only [hstate, hi]

structure Watched (w : World) (s : Session) (i : Nat) (e : Engine) : Prop where
  session : w.client.session? = some s
  running : s.state = .running
  number : s.engine? = some i
  engine : w.engines[i]? = some e
  seen : e.temper.lookFault? = none

theorem isRunning_of_alive {w : World} {s : Session} {i : Nat} {e : Engine}
    (h : Watched w s i e) (hapart : w.IsApart) (halive : e.look.isAlive = true) :
    isRunning w = .ok true (w.looked i) := by
  have hexit : e.look.exit? = none := by simpa [Engine.isAlive] using halive
  have htemper := hapart.engines e (List.mem_of_getElem? h.engine)
  rw [isRunning_of_running h.session h.running h.number]
  rw [bind_run_of_ok (poll_of_some h.engine htemper h.seen), hexit]
  rfl

theorem isRunning_of_exited {w : World} {s : Session} {i : Nat} {e : Engine}
    (h : Watched w s i e) (hapart : w.IsApart) (hdead : e.look.isAlive = false) :
    exists w₁ w', w.Wanes w₁ ∧ close w₁ = .ok () w' ∧ isRunning w = .ok false w' := by
  have hexit : exists code, e.look.exit? = some code := by
    cases hexit : e.look.exit? with
    | none => simp [Engine.isAlive, hexit] at hdead
    | some code => exact ⟨code, rfl⟩
  rcases hexit with ⟨code, hexit⟩
  have htemper := hapart.engines e (List.mem_of_getElem? h.engine)
  have hlook : e.look.temper = e.temper := (Engine.Fades.look e).temper
  let w₁ := (record logger .warning "engine_exited"
    [("directory", .text s.directory.text), ("returncode", .int code)]).after (w.looked i)
  have hwanes : w.Wanes w₁ :=
    World.Wanes.trans (wanes_mapEngine i Engine.Fades.look w) (wanes_record _ _ _ _ _)
  have he : w₁.engines[i]? = some e.look := by
    change (w.engines.modify i Engine.look)[i]? = some e.look
    rw [List.getElem?_modify_eq, h.engine]
    rfl
  -- The engine is looked at once more while the session is closed, and is still dead.
  rcases close_of_exited (w := w₁) h.session h.number he (by rwa [hlook])
    (by rw [hlook]; exact h.seen) hexit with ⟨w', hclose⟩
  refine ⟨w₁, w', hwanes, hclose, ?_⟩
  rw [isRunning_of_running h.session h.running h.number]
  rw [bind_run_of_ok (poll_of_some h.engine htemper h.seen), hexit]
  refine (bind_run_of_ok (rfl : record _ _ _ _ _ = .ok () w₁)).trans ?_
  exact bind_run_of_ok hclose

theorem isRunning_of_missing {w : World} {s : Session} {i : Nat}
    (hs : w.client.session? = some s) (hstate : s.state = .running) (hi : s.engine? = some i)
    (hmissing : w.engines[i]? = none) : isRunning w = .ok true w := by
  have hpoll : poll i w = .ok none w := by
    unfold poll
    rw [bind_run_of_ok (look_of_none hmissing)]
    rfl
  rw [isRunning_of_running hs hstate hi, bind_run_of_ok hpoll]
  rfl

theorem isRunning_of_fault {w : World} {s : Session} {i : Nat} {e : Engine} {f : Fault}
    (hs : w.client.session? = some s) (hstate : s.state = .running) (hi : s.engine? = some i)
    (he : w.engines[i]? = some e) (hfault : e.temper.lookFault? = some f) :
    isRunning w = .error f w := by
  have hpoll : poll i w = .error f w := by
    unfold poll
    exact bind_run_of_error (look_of_fault he hfault)
  rw [isRunning_of_running hs hstate hi, bind_run_of_error hpoll]

def Unseen (w : World) (f : Fault) : Prop :=
  exists s i e,
    w.client.session? = some s ∧ s.engine? = some i ∧ w.engines[i]? = some e ∧
      e.temper.lookFault? = some f

/-- The ways in which asking whether a session runs can go, in surroundings apart from the
client. -/
inductive Asked (w : World) : EStateM.Result Fault World Bool → Prop where
  | none (h : w.client.session? = none) : Asked w (.ok false w)
  | idle {s : Session} (hs : w.client.session? = some s)
      (hidle : s.state = .running -> s.engine? = .none) : Asked w (.ok false w)
  | missing {s : Session} {i : Nat} (hs : w.client.session? = some s)
      (hi : s.engine? = some i) (hmissing : w.engines[i]? = .none) : Asked w (.ok true w)
  | fault {f : Fault} (hunseen : Unseen w f) : Asked w (.error f w)
  | alive {s : Session} {i : Nat} {e : Engine} (h : Watched w s i e)
      (halive : e.look.isAlive = true) : Asked w (.ok true (w.looked i))
  | exited {s : Session} {i : Nat} {e : Engine} {w₁ w' : World} (h : Watched w s i e)
      (hdead : e.look.isAlive = false) (hwanes : w.Wanes w₁) (hclose : close w₁ = .ok () w') :
      Asked w (.ok false w')

theorem asked_isRunning {w : World} (hapart : w.IsApart) : Asked w (isRunning w) := by
  cases hs : w.client.session? with
  | none =>
      rw [isRunning_of_none hs]
      exact .none hs
  | some s =>
      by_cases hidle : s.state = .running -> s.engine? = none
      · rw [isRunning_of_idle hs hidle]
        exact .idle hs hidle
      · rcases running_of_not_idle hidle with ⟨hstate, i, hi⟩
        cases he : w.engines[i]? with
        | none =>
            rw [isRunning_of_missing hs hstate hi he]
            exact .missing hs hi he
        | some e =>
            cases hfault : e.temper.lookFault? with
            | some f =>
                rw [isRunning_of_fault hs hstate hi he hfault]
                exact .fault ⟨s, i, e, hs, hi, he, hfault⟩
            | none =>
                have hwatched : Watched w s i e := ⟨hs, hstate, hi, he, hfault⟩
                cases halive : e.look.isAlive with
                | true =>
                    rw [isRunning_of_alive hwatched hapart halive]
                    exact .alive hwatched halive
                | false =>
                    rcases isRunning_of_exited hwatched hapart halive with
                      ⟨w₁, w', hwanes, hclose, hrun⟩
                    rw [hrun]
                    exact .exited hwatched halive hwanes hclose

end Session
end EngineClient
