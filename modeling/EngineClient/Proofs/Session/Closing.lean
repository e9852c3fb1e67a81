import EngineClient.Proofs.Run.Basic
import EngineClient.Proofs.Session.FailedOpen

/-!
# What closing releases, and how it ends an engine

A process is ended by calls of its methods, each of which may raise. The calls are told apart for
any process whatsoever, and the process that notes every call shows that no other ones are made.
Closing a session ends its engine in this way, and whatever comes of that the session is released.
Main statement: `close_releases`.
-/

namespace EngineClient

/-!
## Processes
-/

structure Process (σ : Type) where
  poll : EStateM Fault σ (Option Int)
  terminate : EStateM Fault σ Unit
  await : EStateM Fault σ Unit
  kill : EStateM Fault σ Unit

namespace Process

variable {σ α : Type}

def attempt (x : EStateM Fault σ α) : EStateM Fault σ (Except Fault α) := fun s =>
  match x s with
  | .ok a s => .ok (.ok a) s
  | .error f s => .ok (.error f) s

/-- Ends a process that lives: it is asked first, and killed if it does not end in time. -/
def escalate (p : Process σ) : EStateM Fault σ Unit := do
  p.terminate
  match ← attempt p.await with
  | .ok () => return ()
  | .error (.waitTimedOut _) =>
      p.kill
      p.await
  | .error f => throw f

/-- Ends a process, unless it has exited. -/
def stop (p : Process σ) : EStateM Fault σ Unit := do
  match ← p.poll with
  | some _ => return ()
  | none => p.escalate

def ofEngine (i : Nat) : Process World where
  poll := do return (← Session.look i).exit?
  terminate := Session.terminate i
  await := Session.await i
  kill := Session.kill i

section Sequences

variable {β : Type} {x : EStateM Fault σ α} {g : α → EStateM Fault σ β} {s s' : σ}

theorem bind_of_ok {a : α} (h : x s = .ok a s') : (x >>= g) s = g a s' := by
  simp [bind, EStateM.bind, h]

theorem bind_of_error {f : Fault} (h : x s = .error f s') : (x >>= g) s = .error f s' := by
  simp [bind, EStateM.bind, h]

theorem attempt_of_ok {a : α} (h : x s = .ok a s') : attempt x s = .ok (.ok a) s' := by
  simp [attempt, h]

theorem attempt_of_error {f : Fault} (h : x s = .error f s') :
    attempt x s = .ok (.error f) s' := by
  simp [attempt, h]

end Sequences

theorem endEngine_eq_escalate (i : Nat) : Session.endEngine i = (ofEngine i).escalate := by
  funext w
  unfold Session.endEngine escalate
  cases hask : (ofEngine i).terminate w with
  | error f w₁ => exact (bind_of_error hask).trans (bind_of_error hask).symm
  | ok _ w₁ =>
      refine (bind_of_ok hask).trans (Eq.trans ?_ (bind_of_ok hask).symm)
      cases hwait : (ofEngine i).await w₁ with
      | ok u w₂ =>
          refine (bind_of_ok (Act.attempt_ok hwait)).trans
            (Eq.trans ?_ (bind_of_ok (attempt_of_ok hwait)).symm)
          rfl
      | error f w₂ =>
          refine (bind_of_ok (Act.attempt_error hwait)).trans
            (Eq.trans ?_ (bind_of_ok (attempt_of_error hwait)).symm)
          cases f <;> rfl

theorem stopEngine_eq_stop (i : Nat) : Session.stopEngine (some i) = (ofEngine i).stop := by
  funext w
  unfold stop
  dsimp only [Session.stopEngine]
  cases hlook : Session.look i w with
  | error f w₁ =>
      have hpoll : (ofEngine i).poll w = .error f w₁ := bind_of_error hlook
      rw [bind_of_error hlook, bind_of_error hpoll]
  | ok sight w₁ =>
      have hpoll : (ofEngine i).poll w = .ok sight.exit? w₁ := bind_of_ok hlook
      refine (bind_of_ok hlook).trans (Eq.trans ?_ (bind_of_ok hpoll).symm)
      cases sight.exit? with
      | some code => rfl
      | none => exact congrFun (endEngine_eq_escalate i) w₁

/-!
## Calls
-/

inductive Event where
  | polled (r : Except Fault (Option Int))
  | asked (r : Except Fault Unit)
  | awaited (r : Except Fault Unit)
  | killed (r : Except Fault Unit)

/-- The call raises nothing, unless it waits and that times out. -/
def Event.IsMild : Event → Prop
  | .polled r => exists exit?, r = .ok exit?
  | .asked r => r = .ok ()
  | .awaited r => r = .ok () ∨ exists argv, r = .error (.waitTimedOut argv)
  | .killed r => r = .ok ()

def ending (r : Except Fault α) (s : σ) : EStateM.Result Fault σ α :=
  match r with
  | .ok a => .ok a s
  | .error f => .error f s

def noting (event : Except Fault α → Event) (x : EStateM Fault σ α) :
    EStateM Fault (σ × List Event) α := fun s =>
  match x s.1 with
  | .ok a s' => .ok a (s', s.2 ++ [event (.ok a)])
  | .error f s' => .error f (s', s.2 ++ [event (.error f)])

def noted (p : Process σ) : Process (σ × List Event) where
  poll := noting .polled p.poll
  terminate := noting .asked p.terminate
  await := noting .awaited p.await
  kill := noting .killed p.kill

theorem noting_run {event : Except Fault α → Event} {x : EStateM Fault σ α} {s s' : σ}
    {r : Except Fault α} (h : x s = ending r s') (before : List Event) :
    noting event x (s, before) = ending r (s', before ++ [event r]) := by
  cases r with
  | ok a => simp [noting, ending] at h ⊢; rw [h]
  | error f => simp [noting, ending] at h ⊢; rw [h]

/-- The process is asked to end at most once, and only if it was seen alive. It is killed only after
that and after a wait that timed out. If no call raises but waits that time out, then that fails
exactly if the wait behind the kill does. -/
structure IsMeasured (events : List Event) (r : Except Fault Unit) : Prop where
  asked : forall j q, events[j]? = some (.asked q) ->
    j = 1 ∧ events[0]? = some (.polled (.ok none))
  killed : forall j q, events[j]? = some (.killed q) ->
    j = 3 ∧ events[1]? = some (.asked (.ok ())) ∧
      exists argv, events[2]? = some (.awaited (.error (.waitTimedOut argv)))
  fails : (forall e, e ∈ events -> e.IsMild) ->
    ((exists f, r = .error f) ↔
      exists argv, events[4]? = some (.awaited (.error (.waitTimedOut argv))))

/-- The calls that end a process, with the states between them: it cannot be polled or has
exited; asking it goes wrong, or it is waited for, and that does not time out; killing it goes
wrong, or it is waited for again. -/
inductive Stops (p : Process σ) (s : σ) : List Event → Except Fault Unit → σ → Prop where
  | unseen {f : Fault} {s₁ : σ} (hpoll : p.poll s = .error f s₁) :
      Stops p s [.polled (.error f)] (.error f) s₁
  | exited {code : Int} {s₁ : σ} (hpoll : p.poll s = .ok (some code) s₁) :
      Stops p s [.polled (.ok (some code))] (.ok ()) s₁
  | unasked {f : Fault} {s₁ s₂ : σ} (hpoll : p.poll s = .ok none s₁)
      (hask : p.terminate s₁ = .error f s₂) :
      Stops p s [.polled (.ok none), .asked (.error f)] (.error f) s₂
  | awaited {r : Except Fault Unit} {s₁ s₂ s₃ : σ} (hpoll : p.poll s = .ok none s₁)
      (hask : p.terminate s₁ = .ok () s₂) (hwait : p.await s₂ = ending r s₃)
      (hintime : forall argv, r ≠ .error (.waitTimedOut argv)) :
      Stops p s [.polled (.ok none), .asked (.ok ()), .awaited r] r s₃
  | unkilled {argv : List String} {f : Fault} {s₁ s₂ s₃ s₄ : σ}
      (hpoll : p.poll s = .ok none s₁) (hask : p.terminate s₁ = .ok () s₂)
      (hwait : p.await s₂ = .error (.waitTimedOut argv) s₃) (hkill : p.kill s₃ = .error f s₄) :
      Stops p s
        [.polled (.ok none), .asked (.ok ()), .awaited (.error (.waitTimedOut argv)),
          .killed (.error f)] (.error f) s₄
  | killed {argv : List String} {r : Except Fault Unit} {s₁ s₂ s₃ s₄ s₅ : σ}
      (hpoll : p.poll s = .ok none s₁) (hask : p.terminate s₁ = .ok () s₂)
      (hwait : p.await s₂ = .error (.waitTimedOut argv) s₃) (hkill : p.kill s₃ = .ok () s₄)
      (hlast : p.await s₄ = ending r s₅) :
      Stops p s
        [.polled (.ok none), .asked (.ok ()), .awaited (.error (.waitTimedOut argv)),
          .killed (.ok ()), .awaited r] r s₅

theorem exists_ending (x : EStateM Fault σ α) (s : σ) : exists r s', x s = ending r s' := by
  cases h : x s with
  | ok a s' => exact ⟨.ok a, s', rfl⟩
  | error f s' => exact ⟨.error f, s', rfl⟩

theorem exists_stops (p : Process σ) (s : σ) : exists events r s', Stops p s events r s' := by
  cases hpoll : p.poll s with
  | error f s₁ => exact ⟨_, _, _, .unseen hpoll⟩
  | ok exit? s₁ =>
      cases exit? with
      | some code => exact ⟨_, _, _, .exited hpoll⟩
      | none =>
          cases hask : p.terminate s₁ with
          | error f s₂ => exact ⟨_, _, _, .unasked hpoll hask⟩
          | ok _ s₂ =>
              rcases exists_ending p.await s₂ with ⟨r, s₃, hwait⟩
              by_cases hlate : exists argv, r = .error (.waitTimedOut argv)
              · rcases hlate with ⟨argv, rfl⟩
                cases hkill : p.kill s₃ with
                | error f s₄ => exact ⟨_, _, _, .unkilled hpoll hask hwait hkill⟩
                | ok _ s₄ =>
                    rcases exists_ending p.await s₄ with ⟨r, s₅, hlast⟩
                    exact ⟨_, _, _, .killed hpoll hask hwait hkill hlast⟩
              · exact ⟨_, _, _, .awaited hpoll hask hwait fun argv hr => hlate ⟨argv, hr⟩⟩

namespace Stops

variable {p : Process σ} {s s' : σ} {events : List Event} {r : Except Fault Unit}

theorem run (h : Stops p s events r s') : p.stop s = ending r s' := by
  unfold stop
  cases h with
  | unseen hpoll => exact bind_of_error hpoll
  | exited hpoll =>
      rw [bind_of_ok hpoll]
      rfl
  | unasked hpoll hask =>
      rw [bind_of_ok hpoll]
      exact bind_of_error hask
  | awaited hpoll hask hwait hintime =>
      rw [bind_of_ok hpoll]
      dsimp only [escalate]
      rw [bind_of_ok hask]
      cases r with
      | ok u =>
          rw [bind_of_ok (attempt_of_ok hwait)]
          rfl
      | error f =>
          rw [bind_of_ok (attempt_of_error hwait)]
          cases f with
          | waitTimedOut argv => exact absurd rfl (hintime argv)
          | _ => rfl
  | unkilled hpoll hask hwait hkill =>
      rw [bind_of_ok hpoll]
      dsimp only [escalate]
      rw [bind_of_ok hask, bind_of_ok (attempt_of_error hwait)]
      exact bind_of_error hkill
  | killed hpoll hask hwait hkill hlast =>
      rw [bind_of_ok hpoll]
      dsimp only [escalate]
      rw [bind_of_ok hask, bind_of_ok (attempt_of_error hwait)]
      exact (bind_of_ok hkill).trans hlast

theorem noted (h : Stops p s events r s') : Stops p.noted (s, []) events r (s', events) := by
  cases h with
  | unseen hpoll => exact .unseen (noting_run (r := .error _) hpoll [])
  | exited hpoll => exact .exited (noting_run (r := .ok _) hpoll [])
  | unasked hpoll hask =>
      exact .unasked (noting_run (r := .ok _) hpoll []) (noting_run (r := .error _) hask _)
  | awaited hpoll hask hwait hintime =>
      exact .awaited (noting_run (r := .ok _) hpoll []) (noting_run (r := .ok _) hask _)
        (noting_run hwait _) hintime
  | unkilled hpoll hask hwait hkill =>
      exact .unkilled (noting_run (r := .ok _) hpoll []) (noting_run (r := .ok _) hask _)
        (noting_run (r := .error _) hwait _) (noting_run (r := .error _) hkill _)
  | killed hpoll hask hwait hkill hlast =>
      exact .killed (noting_run (r := .ok _) hpoll []) (noting_run (r := .ok _) hask _)
        (noting_run (r := .error _) hwait _) (noting_run (r := .ok _) hkill _)
        (noting_run hlast _)

theorem fails_iff (h : Stops p s events r s') (hmild : forall e, e ∈ events -> e.IsMild) :
    (exists f, r = .error f) ↔
      exists argv, events[4]? = some (.awaited (.error (.waitTimedOut argv))) := by
  cases h with
  | unseen hpoll =>
      rcases hmild _ List.mem_cons_self with ⟨exit?, hraised⟩
      cases hraised
  | exited hpoll => simp
  | @unasked f _ _ hpoll hask => cases hmild (.asked (.error f)) (by simp)
  | awaited hpoll hask hwait hintime =>
      rcases hmild (.awaited r) (by simp) with rfl | ⟨argv, rfl⟩
      · simp
      · exact absurd rfl (hintime argv)
  | @unkilled _ f _ _ _ _ hpoll hask hwait hkill => cases hmild (.killed (.error f)) (by simp)
  | killed hpoll hask hwait hkill hlast =>
      rcases hmild (.awaited r) (by simp) with rfl | ⟨argv, rfl⟩
      · simp
      · simp

theorem isMeasured (h : Stops p s events r s') : IsMeasured events r where
  -- The rows of calls are known up to their outcomes, and none has more than five.
  asked j q hj := by
    cases h <;> rcases j with _ | _ | _ | _ | _ | j <;> simp_all
  killed j q hj := by
    cases h <;> rcases j with _ | _ | _ | _ | _ | j <;> simp_all
  fails := h.fails_iff

end Stops

end Process

namespace Session

open Act

/-!
## Releasing
-/

variable {w w₁ : World} {s : Session} {n : Nat}

/-- The session of a number was closed: it has neither engine nor stream any more, and the stream
that it had is closed. -/
structure IsReleased (w w' : World) (n : Nat) (s : Session) : Prop where
  session : w'.client.sessions[n]? = some s.settled
  stream : forall j t, s.stream? = some j -> w.streams[j]? = some t ->
    w'.streams[j]? = some { t with closed := true }

theorem finish_of_ending {r : Except Fault Unit}
    (h : stopEngine s.engine? w = Process.ending r w₁) :
    s.finish w = Process.ending r (s.finish.after w) ∧
      (s.finish.after w).streams = (w₁.shut s.stream?).streams ∧
      (s.finish.after w).engines = w₁.engines := by
  cases r with
  | ok u =>
      have hrun := finish_of_ok h
      rw [after_of_run_eq hrun]
      exact ⟨hrun, rfl, rfl⟩
  | error f =>
      have hrun := finish_of_error h
      rw [after_of_error hrun]
      exact ⟨hrun, rfl, rfl⟩

theorem shut_of_wanes (hwanes : w.Wanes w₁) {stream? : Option Nat} {j : Nat} {t : LogStream}
    (hj : stream? = some j) (ht : w.streams[j]? = some t) :
    (w₁.shut stream?).streams[j]? = some { t with closed := true } := by
  have hstreams : w₁.streams.map (fun t => { t with closed := true }) =
      w.streams.map (fun t => { t with closed := true }) :=
    hwanes.factor (fun v => v.streams.map fun t => ({ t with closed := true } : LogStream))
      fun v => by simp [World.offEngines]
  have hsame := congrArg (·[j]?) hstreams
  simp only [List.getElem?_map, ht] at hsame
  subst hj
  show (w₁.streams.modify j fun t => { t with closed := true })[j]? = _
  rw [List.getElem?_modify_eq]
  exact hsame

theorem isReleased_after_close (hn : w.client.current? = some n)
    (hs : w.client.sessions[n]? = some s) : IsReleased w (close.after w) n s := by
  have hsession : w.client.session? = some s := Client.session?_eq_some_iff.mpr ⟨n, hn, hs⟩
  have hretired : w.retire.client = w.client.retire n := by
    rw [World.retire, hn, hsession]
  constructor
  · rw [(wanes_close w).client, hretired]
    simp [Client.retire, Client.release, Client.mapSession, hs, settled]
  · intro j t hj ht
    rcases Process.exists_ending (stopEngine s.engine?) w.retire with ⟨r, w₁, hstop⟩
    have hwanes : w.retire.Wanes w₁ := by
      have hmoves := wanes_stopEngine s.engine? w.retire
      cases r with
      | ok u => rwa [after_of_ok hstop] at hmoves
      | error f => rwa [after_of_error hstop] at hmoves
    rw [after_of_run_eq (close_of_some hsession), (finish_of_ending hstop).2.1]
    refine shut_of_wanes hwanes hj ?_
    rw [w.factor_retire World.streams fun _ _ => rfl]
    exact ht

/-- Closing releases the session, whether it returns or raises: the client has none, and that
which it had is closed, without engine and with its stream closed. A second close does nothing.
The engine is ended by measured calls; noting them shows that there are no others, closing raises
what they raise, and leaves engines as they do. -/
theorem close_releases (w : World) :
    (close.after w).client.session? = none ∧
      (close.after w).client.state = .closed ∧
      close (close.after w) = .ok () (close.after w) ∧
      (w.client.session? = none -> close w = .ok () w) ∧
      forall n s, w.client.current? = some n -> w.client.sessions[n]? = some s ->
        IsReleased w (close.after w) n s ∧
          (s.engine? = none -> close w = .ok () (close.after w)) ∧
          forall i, s.engine? = some i ->
            stopEngine (some i) = (Process.ofEngine i).stop ∧
              exists events r w₁,
                (Process.ofEngine i).stop w.retire = Process.ending r w₁ ∧
                  (Process.ofEngine i).noted.stop (w.retire, []) =
                    Process.ending r (w₁, events) ∧
                  Process.IsMeasured events r ∧
                  close w = Process.ending r (close.after w) ∧
                  (close.after w).engines = w₁.engines := by
  have hnone := session?_after_close w
  refine ⟨hnone, state_of_session?_none hnone, close_of_none hnone, close_of_none, ?_⟩
  intro n s hn hs
  have hsession : w.client.session? = some s := Client.session?_eq_some_iff.mpr ⟨n, hn, hs⟩
  have hclose : forall r w₁, stopEngine s.engine? w.retire = Process.ending r w₁ ->
      close w = Process.ending r (close.after w) ∧ (close.after w).engines = w₁.engines := by
    intro r w₁ hstop
    rcases finish_of_ending hstop with ⟨hrun, _, hengines⟩
    rw [after_of_run_eq (close_of_some hsession), close_of_some hsession]
    exact ⟨hrun, hengines⟩
  refine ⟨isReleased_after_close hn hs, ?_, ?_⟩
  · intro hengine
    refine (hclose (.ok ()) w.retire ?_).1
    rw [hengine]
    rfl
  · intro i hengine
    rcases Process.exists_stops (Process.ofEngine i) w.retire with ⟨events, r, w₁, hstops⟩
    have hstop : stopEngine s.engine? w.retire = Process.ending r w₁ := by
      rw [hengine, Process.stopEngine_eq_stop, hstops.run]
    exact ⟨Process.stopEngine_eq_stop i, events, r, w₁, hstops.run, hstops.noted.run,
      hstops.isMeasured, hclose r w₁ hstop⟩

def stubbornSession : World :=
  { firstSession with
    engines := firstSession.engines.map fun e =>
      { e with temper := { onTerminate? := none, onKill? := none } } }

/-- Closing it fails, and it is released all the same. -/
theorem close_stubbornSession :
    exists f s, close stubbornSession = .error f (close.after stubbornSession) ∧
      (close.after stubbornSession).client.session? = none ∧
      IsReleased stubbornSession (close.after stubbornSession) 0 s := by
  have hraises : exists f w', close stubbornSession = .error f w' := ⟨_, _, rfl⟩
  rcases close_releases stubbornSession with ⟨hnone, _, _, _, hreleases⟩
  rcases hreleases 0 _ rfl rfl with ⟨hreleased, _, hends⟩
  rcases hends 0 rfl with ⟨_, _, r, _, _, _, _, hclose, _⟩
  cases r with
  | ok u =>
      rcases hraises with ⟨f, w', hraised⟩
      cases hclose.symm.trans hraised
  | error f => exact ⟨f, _, hclose, hnone, hreleased⟩

end Session
end EngineClient
