import EngineClient.Proofs.Disk.Root
import EngineClient.Proofs.Session.Watch

/-!
# The steps of opening a session

Opening closes the session in use, settles what the next one needs, begins it and starts
its engine. Each of these steps is taken apart here: what the world is when the step is
done, and what it is when the step fails.
-/

namespace EngineClient
namespace Session

open Act

/-!
## Closing the session before
-/

theorem session?_retire (w : World) : w.retire.client.session? = none := by
  unfold World.retire
  split
  · rfl
  · rename_i h
    cases hs : w.client.session? with
    | none =>
        rfl
    | some s =>
        rcases Client.session?_eq_some_iff.mp hs with ⟨n, hn, _⟩
        exact absurd hs (h n s hn)

theorem session?_after_close (w : World) : (close.after w).client.session? = none := by
  rw [(wanes_close w).client]
  exact session?_retire w

theorem engines_length_after_close (w : World) :
    (close.after w).engines.length = w.engines.length := by
  have hlength := (wanes_close w).engines.length_eq
  rw [← hlength, w.factor_retire World.engines fun _ _ => rfl]

theorem streams_length_after_close (w : World) :
    (close.after w).streams.length = w.streams.length := by
  have hlength :=
    (wanes_close w).factor (fun v => v.streams.length) fun v => List.length_map _
  exact hlength.trans (w.factor_retire (fun v => v.streams.length) fun _ _ => rfl)

/-!
## Settling what is needed
-/

theorem openServerLog_eq_ok {o : Options} {w w' : World} {stream? : Option Nat}
    (h : openServerLog o w = .ok stream? w') :
    stream? = none ∧ w' = w ∨
      exists disk path,
        stream? = some w.streams.length ∧
          w' = { w with disk, streams := w.streams ++ [⟨path, false⟩] } := by
  unfold openServerLog at h
  generalize o.serverLog? = file? at h
  split at h
  · cases h
    exact Or.inl ⟨rfl, rfl⟩
  · cases h
    exact Or.inl ⟨rfl, rfl⟩
  · rcases bind_eq_ok h with ⟨d, w₁, hd, h⟩
    cases hd
    rcases bind_eq_ok h with ⟨p, w₂, hp, h⟩
    cases (ofExcept_eq_ok hp).2
    rcases bind_eq_ok h with ⟨d', w₃, hd', h⟩
    cases hd'
    cases hopen : w.disk.openAppend p with
    | ok d =>
        rw [hopen] at h
        cases h
        exact Or.inr ⟨_, _, rfl, rfl⟩
    | error f =>
        rw [hopen] at h
        cases hos : f.isOs <;> simp [hos] at h

theorem openServerLog_eq_error {o : Options} {w w' : World} {f : Fault}
    (h : openServerLog o w = .error f w') : w' = w := by
  unfold openServerLog at h
  generalize o.serverLog? = file? at h
  split at h
  · cases h
  · cases h
  · rcases bind_eq_error h with hd | ⟨d, w₁, hd, h⟩
    · cases hd
    cases hd
    rcases bind_eq_error h with hp | ⟨p, w₂, hp, h⟩
    · exact (ofExcept_eq_error hp).2
    cases (ofExcept_eq_ok hp).2
    rcases bind_eq_error h with hd' | ⟨d', w₃, hd', h⟩
    · cases hd'
    cases hd'
    cases hopen : w.disk.openAppend p with
    | ok d =>
        rw [hopen] at h
        cases h
    | error g =>
        rw [hopen] at h
        cases hos : g.isOs with
        | true =>
            simp only [hos] at h
            cases h
            rfl
        | false =>
            simp only [hos] at h
            cases h
            rfl

theorem prepare_eq_ok {directory : String} {l : Launch} {w w' : World}
    (h : prepare directory w = .ok l w') :
    exists w₀,
      close w = .ok () w₀ ∧
        (l.stream? = none ∧ w' = w₀ ∨
          exists disk path,
            l.stream? = some w₀.streams.length ∧
              w' = { w₀ with disk, streams := w₀.streams ++ [⟨path, false⟩] }) := by
  unfold prepare at h
  rcases bind_eq_ok h with ⟨_, w₀, hclose, h⟩
  rcases bind_eq_ok h with ⟨d, w₁, hd, h⟩
  cases hd
  rcases bind_eq_ok h with ⟨place, w₂, hplace, h⟩
  cases (ofExcept_eq_ok hplace).2
  rcases bind_eq_ok h with ⟨argv, w₃, hargv, h⟩
  cases hargv
  rcases bind_eq_ok h with ⟨c, w₄, hc, h⟩
  cases hc
  rcases bind_eq_ok h with ⟨stream?, w₅, hstream, h⟩
  cases h
  exact ⟨w₀, hclose, openServerLog_eq_ok hstream⟩

/-- Preparing a session closes the one before and changes nothing else but files. -/
theorem prepare_keeps {P : World → Prop}
    (hfiles : forall v disk streams, P v -> P { v with disk, streams }) {directory : String}
    {l : Launch} {w w₁ : World} (h : prepare directory w = .ok l w₁) :
    exists w₀, close w = .ok () w₀ ∧ (P w₀ -> P w₁) := by
  rcases prepare_eq_ok h with ⟨w₀, hclose, ⟨_, rfl⟩ | ⟨disk, path, _, rfl⟩⟩
  · exact ⟨_, hclose, id⟩
  · exact ⟨w₀, hclose, hfiles w₀ _ _⟩

def rootLaunch (w : World) : Launch :=
  ⟨⟨.single, []⟩, w.client.options.launchArgv (⟨.single, []⟩ : Path).text, none⟩

theorem prepare_root_of_close {w w₀ : World} (hclose : close w = .ok () w₀)
    (hlog : w₀.client.options.serverLog? = none) : prepare "/" w = .ok (rootLaunch w₀) w₀ := by
  unfold prepare
  rw [bind_run_of_ok hclose, bind_run_of_ok (disk_run _), Disk.canonical_root]
  rw [bind_run_of_ok (rfl : ofExcept (.ok _) w₀ = .ok _ w₀)]
  rw [bind_run_of_ok (rfl : launchArgv _ w₀ = .ok _ w₀), bind_run_of_ok (client_run w₀)]
  unfold openServerLog
  rw [hlog]
  rfl

theorem prepare_root {w : World} (hsession : w.client.session? = none)
    (hlog : w.client.options.serverLog? = none) : prepare "/" w = .ok (rootLaunch w) w :=
  prepare_root_of_close (close_of_none hsession) hlog

theorem prepare_eq_error {directory : String} {f : Fault} {w w' : World}
    (h : prepare directory w = .error f w') : w' = close.after w := by
  unfold prepare at h
  rcases bind_eq_error h with hclose | ⟨_, w₀, hclose, h⟩
  · exact (after_of_error hclose).symm
  rw [after_of_ok hclose]
  rcases bind_eq_error h with hd | ⟨d, w₁, hd, h⟩
  · cases hd
  cases hd
  rcases bind_eq_error h with hplace | ⟨place, w₂, hplace, h⟩
  · exact (ofExcept_eq_error hplace).2
  cases (ofExcept_eq_ok hplace).2
  rcases bind_eq_error h with hargv | ⟨argv, w₃, hargv, h⟩
  · cases hargv
  cases hargv
  rcases bind_eq_error h with hc | ⟨c, w₄, hc, h⟩
  · cases hc
  cases hc
  rcases bind_eq_error h with hstream | ⟨stream?, w₅, hstream, h⟩
  · exact openServerLog_eq_error hstream
  · cases h

end Session

/-!
## Starting an engine
-/

namespace World

def spent (w : World) : World :=
  { w with surroundings := { w.surroundings with spawns := w.surroundings.spawns.tail } }

def spawned (w : World) (e : Engine) : World :=
  { w.spent with
    engines := w.engines ++ [e]
    trail :=
      { w.trail with
        companions := w.trail.companions ++ [w.engines.countP Engine.isAlive] } }

def begun (w : World) (l : Session.Launch) : World :=
  { w with client := w.client.begin (Session.starting w.client.options l.directory) }

def connected (w : World) (n i : Nat) (stream? : Option Nat) : World :=
  { w with
    client := w.client.mapSession n fun s =>
      { s with engine? := some i, stream?, state := .running } }

def withdrawn (w : World) (stream? : Option Nat) : World :=
  { w.shut stream? with client := w.client.release }

end World

namespace Session

open Act

theorem startEngine_eq_ok {argv : List String} {output? : Option Nat} {w w' : World} {i : Nat}
    (h : startEngine argv output? w = .ok i w') :
    i = w.engines.length ∧
      exists pid cwd temper,
        w.surroundings.spawns.headD (.start {}) = .start temper ∧
          w' = w.spawned (Engine.start pid argv cwd output? temper) := by
  unfold startEngine at h
  rcases bind_eq_ok h with ⟨c, w₁, hc, h⟩
  cases hc
  rcases bind_eq_ok h with ⟨d, w₂, hd, h⟩
  cases hd
  rcases bind_eq_ok h with ⟨cwd, w₃, hcwd, h⟩
  cases (ofExcept_eq_ok hcwd).2
  unfold spawn at h
  rcases bind_eq_ok h with ⟨w₄, w₅, hw, h⟩
  cases hw
  rcases bind_eq_ok h with ⟨_, w₆, hspent, h⟩
  cases hspent
  cases hplan : w.surroundings.spawns.headD (.start {}) with
  | start temper =>
      simp only [hplan] at h
      cases h
      exact ⟨rfl, _, cwd, temper, rfl, rfl⟩
  | fail f =>
      simp only [hplan] at h
      cases h
  | missing =>
      simp only [hplan] at h
      cases h

theorem startEngine_eq_error {argv : List String} {output? : Option Nat} {w w' : World}
    {f : Fault} (h : startEngine argv output? w = .error f w') : w' = w ∨ w' = w.spent := by
  unfold startEngine at h
  rcases bind_eq_error h with hc | ⟨c, w₁, hc, h⟩
  · cases hc
  cases hc
  rcases bind_eq_error h with hd | ⟨d, w₂, hd, h⟩
  · cases hd
  cases hd
  rcases bind_eq_error h with hcwd | ⟨cwd, w₃, hcwd, h⟩
  · exact Or.inl (ofExcept_eq_error hcwd).2
  cases (ofExcept_eq_ok hcwd).2
  right
  unfold spawn at h
  rcases bind_eq_error h with hw | ⟨w₄, w₅, hw, h⟩
  · cases hw
  cases hw
  rcases bind_eq_error h with hspent | ⟨_, w₆, hspent, h⟩
  · cases hspent
  cases hspent
  cases hplan : w.surroundings.spawns.headD (.start {}) with
  | start temper =>
      simp only [hplan] at h
      cases h
  | fail f =>
      simp only [hplan] at h
      cases h
      rfl
  | missing =>
      simp only [hplan] at h
      cases h
      rfl

/-!
## The start of a session
-/

theorem session?_begun (w : World) (l : Launch) :
    (w.begun l).client.session? = some (starting w.client.options l.directory) := by
  simp [World.begun, Client.begin, Client.session?]

theorem session?_connected {l : Launch} {w w₁ : World} {i : Nat}
    (hstart : startEngine l.argv l.stream? (w.begun l) = .ok i w₁) :
    (w₁.connected w.client.epoch i l.stream?).client.session? =
      some { starting w.client.options l.directory with
        engine? := some i, stream? := l.stream?, state := .running } := by
  rcases startEngine_eq_ok hstart with ⟨_, _, _, _, _, rfl⟩
  rw [Client.session?_eq_some_iff]
  refine ⟨w.client.epoch, rfl, ?_⟩
  change ((w.client.sessions ++ [_]).modify w.client.sessions.length _)[w.client.epoch]? = _
  rw [Client.epoch, List.getElem?_modify_eq, List.getElem?_concat_length]
  rfl

theorem launch_of_ok {l : Launch} {w w₁ : World} {i : Nat}
    (h : startEngine l.argv l.stream? (w.begun l) = .ok i w₁) :
    launch l w =
      connect l w.client.epoch (starting w.client.options l.directory).url i w₁ := by
  unfold launch
  rw [bind_run_of_ok (client_run w)]
  rw [bind_run_of_ok (rfl : mapClient _ w = .ok () (w.begun l))]
  rw [bind_run_of_ok (attempt_ok h)]

theorem launch_of_error {l : Launch} {w w₁ : World} {f : Fault}
    (h : startEngine l.argv l.stream? (w.begun l) = .error f w₁) :
    launch l w = if f.isOs then withdraw l f w₁ else .error f w₁ := by
  unfold launch
  rw [bind_run_of_ok (client_run w)]
  rw [bind_run_of_ok (rfl : mapClient _ w = .ok () (w.begun l))]
  rw [bind_run_of_ok (attempt_error h)]
  dsimp only
  split <;> rfl

theorem connect_run (l : Launch) (n : Nat) (url : String) (i : Nat) (w : World) :
    exists w', connect l n url i w = .ok n w' ∧ (w.connected n i l.stream?).Wanes w' :=
  ⟨_, rfl, wanes_record _ _ _ _ _⟩

theorem withdraw_run (l : Launch) (f : Fault) (w : World) :
    exists g w',
      withdraw l f w = .error (openError g f) w' ∧ (w.withdrawn l.stream?).Wanes w' := by
  unfold withdraw World.withdrawn
  cases l.stream? with
  | none => exact ⟨_, _, rfl, wanes_record _ _ _ _ _⟩
  | some i => exact ⟨_, _, rfl, wanes_record _ _ _ _ _⟩

/-- What becomes of opening a session: it is not prepared, it gets its engine, it is taken
back, or it is left without an engine. -/
inductive Opens (directory : String) (w : World) : EStateM.Result Fault World Nat → Prop where
  | unprepared {f : Fault} (hprepare : prepare directory w = .error f (close.after w)) :
      Opens directory w (.error f (close.after w))
  | connected {l : Launch} {w₁ w₂ w' : World} {i : Nat}
      (hprepare : prepare directory w = .ok l w₁)
      (hstart : startEngine l.argv l.stream? (w₁.begun l) = .ok i w₂)
      (hwanes : (w₂.connected w₁.client.epoch i l.stream?).Wanes w') :
      Opens directory w (.ok w₁.client.epoch w')
  | withdrawn {l : Launch} {w₁ w₂ w' : World} {f g : Fault}
      (hprepare : prepare directory w = .ok l w₁)
      (hstart : startEngine l.argv l.stream? (w₁.begun l) = .error f w₂) (hos : f.isOs = true)
      (hwanes : (w₂.withdrawn l.stream?).Wanes w') : Opens directory w (.error g w')
  | stranded {l : Launch} {w₁ w₂ : World} {f : Fault}
      (hprepare : prepare directory w = .ok l w₁)
      (hstart : startEngine l.argv l.stream? (w₁.begun l) = .error f w₂)
      (hother : f.isOs = false) : Opens directory w (.error f w₂)

theorem opens_openOn (directory : String) (w : World) :
    Opens directory w (openOn directory w) := by
  unfold openOn
  cases hprepare : prepare directory w with
  | error f w₁ =>
      rw [bind_run_of_error hprepare]
      cases prepare_eq_error hprepare
      exact .unprepared hprepare
  | ok l w₁ =>
      rw [bind_run_of_ok hprepare]
      cases hstart : startEngine l.argv l.stream? (w₁.begun l) with
      | ok i w₂ =>
          rw [launch_of_ok hstart]
          rcases connect_run l w₁.client.epoch (starting w₁.client.options l.directory).url i w₂
            with ⟨w', hrun, hwanes⟩
          rw [hrun]
          exact .connected hprepare hstart hwanes
      | error f w₂ =>
          rw [launch_of_error hstart]
          cases hos : f.isOs with
          | true =>
              rw [if_pos rfl]
              rcases withdraw_run l f w₂ with ⟨g, w', hrun, hwanes⟩
              rw [hrun]
              exact .withdrawn hprepare hstart hos hwanes
          | false =>
              rw [if_neg Bool.false_ne_true]
              exact .stranded hprepare hstart hos

/-- What closing leaves and what every step from there keeps, opening leaves as well. -/
theorem after_openOn {P : World → Prop} {directory : String} {w : World}
    (hclosed : P (close.after w))
    (hsame : forall v v', v'.engines = v.engines -> v'.surroundings = v.surroundings ->
      P v -> P v')
    (hwanes : forall v v', v.Wanes v' -> P v -> P v')
    (hstart : forall v argv output?, P v -> P ((startEngine argv output?).after v)) :
    P ((openOn directory).after w) := by
  have hbegun : forall {l : Launch} {w₁ : World}, prepare directory w = .ok l w₁ ->
      P ((startEngine l.argv l.stream?).after (w₁.begun l)) := by
    intro l w₁ hprepare
    rcases prepare_keeps (P := P) (fun v _ _ => hsame v _ rfl rfl) hprepare with
      ⟨w₀, hclose, hkeeps⟩
    rw [after_of_ok hclose] at hclosed
    exact hstart _ _ _ (hsame w₁ _ rfl rfl (hkeeps hclosed))
  have hopens := opens_openOn directory w
  cases hrun : openOn directory w with
  | ok n w' =>
      rw [hrun] at hopens
      rw [after_of_ok hrun]
      cases hopens with
      | @connected l w₁ w₂ _ i hprepare hstarted hends =>
          have hbegun := hbegun hprepare
          rw [after_of_ok hstarted] at hbegun
          exact hwanes _ _ hends (hsame w₂ _ rfl rfl hbegun)
  | error f w' =>
      rw [hrun] at hopens
      rw [after_of_error hrun]
      cases hopens with
      | unprepared hprepare =>
          exact hclosed
      | @withdrawn l w₁ w₂ _ f _ hprepare hstarted hos hends =>
          have hbegun := hbegun hprepare
          rw [after_of_error hstarted] at hbegun
          exact hwanes _ _ hends (hsame w₂ _ rfl rfl hbegun)
      | stranded hprepare hstarted hother =>
          have hbegun := hbegun hprepare
          rwa [after_of_error hstarted] at hbegun

end Session
end EngineClient
