import EngineClient.Proofs.Act
import EngineClient.Session.Lifecycle
import Mathlib.Data.List.Forall2

/-!
# What watching a session leaves alone

Looking at an engine and ending it change that engine at most, and only towards its end.
Closing a session gives the session up first and does nothing else to the client. So
everything but the life of sessions, their generations included, stays as it is.
-/

namespace EngineClient

/-!
## Lists changed in place
-/

section Lists

variable {α β : Type}

theorem map_modify {g : α → β} {f : α → α} {k : β → β} (h : forall a, g (f a) = k (g a))
    (n : Nat) (as : List α) : (as.modify n f).map g = (as.map g).modify n k := by
  induction as generalizing n with
  | nil => simp
  | cons a as ih =>
      cases n with
      | zero => simp [h]
      | succ n => simp [ih]

theorem map_modify_of_eq {g : α → β} {f : α → α} (h : forall a, g (f a) = g a)
    (n : Nat) (as : List α) : (as.modify n f).map g = as.map g := by
  rw [map_modify (k := id) h, List.modify_id]

theorem forall₂_modify {R : α → α → Prop} [Std.Refl R] {f : α → α} (h : forall a, R a (f a))
    (n : Nat) (as : List α) : List.Forall₂ R as (as.modify n f) := by
  induction as generalizing n with
  | nil =>
      rw [List.modify_nil]
      exact .nil
  | cons a as ih =>
      cases n with
      | zero => exact .cons (h a) (List.forall₂_refl as)
      | succ n => exact .cons (refl_of R a) (ih n)

theorem forall₂_trans {R : α → α → Prop} [IsTrans α R] {as bs cs : List α}
    (hfirst : List.Forall₂ R as bs) (hsecond : List.Forall₂ R bs cs) :
    List.Forall₂ R as cs := by
  induction hsecond generalizing as with
  | nil =>
      exact hfirst
  | cons hstep _ ih =>
      cases hfirst with
      | cons hhead htail =>
          exact .cons (trans_of R hhead hstep) (ih htail)

theorem forall₂_getElem? {R : α → β → Prop} {as : List α} {bs : List β}
    (h : List.Forall₂ R as bs) {i : Nat} {b : β} (hb : bs[i]? = some b) :
    exists a, as[i]? = some a ∧ R a b := by
  induction h generalizing i with
  | nil =>
      cases hb
  | @cons a _ _ _ hab _ ih =>
      cases i with
      | zero =>
          cases hb
          exact ⟨a, rfl, hab⟩
      | succ i =>
          exact ih hb

end Lists

/-!
## Engines near their end
-/

structure Engine.Fades (e e' : Engine) : Prop where
  temper : e'.temper = e.temper
  alive : e'.isAlive = true -> e.isAlive = true

namespace Engine.Fades

instance : IsPreorder Engine Engine.Fades where
  refl _ := ⟨rfl, id⟩
  trans _ _ _ h h' := ⟨h'.temper.trans h.temper, h.alive ∘ h'.alive⟩

theorem of_exit {e e' : Engine} (htemper : e'.temper = e.temper)
    (h : forall code, e.exit? = some code -> e'.exit?.isSome = true) : e.Fades e' := by
  refine ⟨htemper, ?_⟩
  unfold Engine.isAlive
  cases hexit : e.exit? with
  | none => simp
  | some code =>
      have hsome := h code hexit
      cases hexit' : e'.exit? with
      | none => simp [hexit'] at hsome
      | some code' => simp

theorem look (e : Engine) : e.Fades e.look := by
  unfold Engine.look
  cases hexit : e.exit? with
  | none =>
      refine ⟨?_, fun _ => by simp [Engine.isAlive, hexit]⟩
      split
      · dsimp only
        split <;> rfl
      · rfl
  | some code =>
      refine ⟨rfl, fun h => ?_⟩
      simp [Engine.isAlive] at h

theorem terminate (e : Engine) : e.Fades e.terminate := by
  refine of_exit rfl ?_
  intro code hcode
  simp [Engine.terminate, hcode]

theorem kill (e : Engine) : e.Fades e.kill := by
  refine of_exit rfl ?_
  intro code hcode
  simp [Engine.kill, hcode]

end Engine.Fades

/-!
## Worlds in which engines end
-/

/-- A world without its engines, without which streams are closed, and without records. -/
def World.offEngines (w : World) : World :=
  { w with
    engines := []
    streams := w.streams.map fun s => { s with closed := true }
    trail := { w.trail with emissions := [] } }

def LogStream.Fades (s s' : LogStream) : Prop :=
  s.closed = true -> s'.closed = true

instance : IsPreorder LogStream LogStream.Fades where
  refl _ := id
  trans _ _ _ h h' := h' ∘ h

/-- Engines come nearer to their end, and streams may be closed; nothing else changes but
the records. -/
structure World.Wanes (w w' : World) : Prop where
  rest : w'.offEngines = w.offEngines
  engines : List.Forall₂ Engine.Fades w.engines w'.engines
  streams : List.Forall₂ LogStream.Fades w.streams w'.streams

namespace World.Wanes

theorem of_streams {w w' : World} (hrest : w'.offEngines = w.offEngines)
    (hengines : w'.engines = w.engines)
    (hstreams : List.Forall₂ LogStream.Fades w.streams w'.streams) : w.Wanes w' := by
  refine ⟨hrest, ?_, hstreams⟩
  rw [hengines]
  exact List.forall₂_refl w.engines

theorem of_engines {w w' : World} (hrest : w'.offEngines = w.offEngines)
    (hengines : List.Forall₂ Engine.Fades w.engines w'.engines)
    (hstreams : w'.streams = w.streams) : w.Wanes w' := by
  refine ⟨hrest, hengines, ?_⟩
  rw [hstreams]
  exact List.forall₂_refl w.streams

theorem of_records {w w' : World} (hrest : w'.offEngines = w.offEngines)
    (hengines : w'.engines = w.engines) (hstreams : w'.streams = w.streams) : w.Wanes w' := by
  refine of_streams hrest hengines ?_
  rw [hstreams]
  exact List.forall₂_refl w.streams

theorem refl (w : World) : w.Wanes w :=
  of_records rfl rfl rfl

theorem trans {w w' w'' : World} (h : w.Wanes w') (h' : w'.Wanes w'') : w.Wanes w'' where
  rest := h'.rest.trans h.rest
  engines := forall₂_trans h.engines h'.engines
  streams := forall₂_trans h.streams h'.streams

theorem factor {γ : Type} {w w' : World} (h : w.Wanes w') (k : World → γ)
    (hk : forall v, k v.offEngines = k v) : k w' = k w :=
  Act.Agree.factor h.rest k hk

theorem client {w w' : World} (h : w.Wanes w') : w'.client = w.client :=
  h.factor World.client fun _ => rfl

end World.Wanes

instance : IsPreorder World World.Wanes where
  refl w := .refl w
  trans _ _ _ h h' := h.trans h'

namespace Act

theorem wanes_record (logger : String) (level : Log.Level) (event : String) (fields : Table) :
    (record logger level event fields).Moves World.Wanes :=
  fun _ => .of_records rfl rfl rfl

theorem wanes_mapEngine (i : Nat) {f : Engine → Engine}
    (h : forall e : Engine, e.Fades (f e)) :
    (mapEngine i f).Moves World.Wanes :=
  fun w => .of_engines rfl (forall₂_modify h i w.engines) rfl

theorem wanes_closeStream (i : Nat) : (closeStream i).Moves World.Wanes := by
  intro w
  have hmap :=
    map_modify_of_eq (g := fun s : LogStream => { s with closed := true })
      (f := fun s => { s with closed := true }) (fun _ => rfl) i w.streams
  refine .of_streams ?_ rfl ?_
  · simp only [World.offEngines, after, closeStream, modify_run, hmap]
  · exact forall₂_modify (fun _ _ => rfl) i w.streams

end Act

namespace Session

open Act

theorem wanes_look (i : Nat) : (look i).Moves World.Wanes := by
  unfold look
  refine .bind .get fun w => ?_
  split
  · exact .pure _
  · split
    · exact .throw _
    · exact .bind (wanes_mapEngine i Engine.Fades.look) fun _ => .pure _

theorem wanes_terminate (i : Nat) : (terminate i).Moves World.Wanes := by
  unfold terminate
  refine .bind .get fun w => ?_
  split
  · exact .throw _
  · exact wanes_mapEngine i Engine.Fades.terminate

theorem wanes_kill (i : Nat) : (kill i).Moves World.Wanes := by
  unfold kill
  refine .bind .get fun w => ?_
  split
  · exact .throw _
  · exact wanes_mapEngine i Engine.Fades.kill

theorem wanes_await (i : Nat) : (await i).Moves World.Wanes := by
  unfold await
  refine .bind .get fun w => ?_
  split
  · exact .pure _
  · exact .ofExcept _

theorem wanes_endEngine (i : Nat) : (endEngine i).Moves World.Wanes := by
  unfold endEngine
  refine .bind (wanes_terminate i) fun _ => ?_
  refine .bind (.attempt (wanes_await i)) fun r => ?_
  split
  · exact .pure _
  · exact .bind (wanes_kill i) fun _ => wanes_await i
  · exact .throw _

theorem wanes_stopEngine (engine? : Option Nat) : (stopEngine engine?).Moves World.Wanes := by
  unfold stopEngine
  split
  · exact .pure _
  · refine .bind (wanes_look _) fun sight => ?_
    split
    · exact .pure _
    · exact wanes_endEngine _

end Session

/-!
## Giving up a session
-/

theorem Client.session?_eq_some_iff {c : Client} {s : Session} :
    c.session? = some s ↔ exists n, c.current? = some n ∧ c.sessions[n]? = some s :=
  Option.bind_eq_some_iff

/-- The world in which the session in use was given up, its engine not yet ended. -/
def World.retire (w : World) : World :=
  match w.client.current?, w.client.session? with
  | some n, some _ => { w with client := w.client.retire n }
  | _, _ => w

theorem World.retire_of_none {w : World} (h : w.client.session? = none) : w.retire = w := by
  unfold World.retire
  rw [h]
  cases w.client.current? <;> rfl

theorem World.factor_retire {γ : Type} (w : World) (k : World → γ)
    (hk : forall v c, k { v with client := c } = k v) : k w.retire = k w := by
  unfold World.retire
  split
  · exact hk w _
  · rfl

def World.shut (w : World) (stream? : Option Nat) : World :=
  { w with
    streams :=
      match stream? with
      | some i => w.streams.modify i fun s => { s with closed := true }
      | none => w.streams }

theorem World.Wanes.shut (w : World) (stream? : Option Nat) : w.Wanes (w.shut stream?) := by
  cases stream? with
  | none => exact .refl w
  | some i => exact Act.wanes_closeStream i w

namespace Session

open Act

theorem finish_of_ok {s : Session} {w w₁ : World} (h : stopEngine s.engine? w = .ok () w₁) :
    s.finish w =
      record logger .info "session_closed" [("directory", .text s.directory.text)]
        (w₁.shut s.stream?) := by
  unfold finish
  rw [bind_run_of_ok (attempt_ok h)]
  cases s.stream? <;> rfl

theorem finish_of_error {s : Session} {w w₁ : World} {f : Fault}
    (h : stopEngine s.engine? w = .error f w₁) :
    s.finish w = .error f (w₁.shut s.stream?) := by
  unfold finish
  rw [bind_run_of_ok (attempt_error h)]
  cases s.stream? <;> rfl

theorem wanes_finish (s : Session) : s.finish.Moves World.Wanes := by
  intro w
  have hstop := wanes_stopEngine s.engine?
  cases h : stopEngine s.engine? w with
  | ok _ w₁ =>
      have hshut := (hstop.of_ok h).trans (.shut w₁ s.stream?)
      rw [after_of_run_eq (finish_of_ok h)]
      exact hshut.trans (wanes_record _ _ _ _ _)
  | error f w₁ =>
      rw [after_of_error (finish_of_error h)]
      exact (hstop.of_error h).trans (.shut w₁ s.stream?)

theorem close_of_none {w : World} (h : w.client.session? = none) : close w = .ok () w := by
  unfold close
  rw [bind_run_of_ok (client_run w), h]
  cases w.client.current? <;> rfl

theorem close_of_some {w : World} {s : Session} (h : w.client.session? = some s) :
    close w = s.finish w.retire := by
  rcases Client.session?_eq_some_iff.mp h with ⟨n, hn, _⟩
  unfold close World.retire
  rw [bind_run_of_ok (client_run w), hn, h]
  rfl

theorem wanes_close (w : World) : w.retire.Wanes (close.after w) := by
  cases hs : w.client.session? with
  | none =>
      rw [after_of_ok (close_of_none hs), World.retire_of_none hs]
      exact .refl w
  | some s =>
      rw [after_of_run_eq (close_of_some hs)]
      exact wanes_finish s w.retire

end Session

/-!
## Everything but the life of sessions
-/

/-- A session without its life: neither its state nor what belongs to its engine. -/
def Session.settled (s : Session) : Session :=
  { s with state := .closed, engine? := none, stream? := none }

/-- A world without the life of its sessions, and without records. -/
def World.still (w : World) : World :=
  { w.offEngines with
    streams := []
    client :=
      { w.client with
        current? := none
        sessions := w.client.sessions.map Session.settled } }

theorem World.still_retire (w : World) : w.retire.still = w.still := by
  have hmap : forall n, (w.client.retire n).sessions.map Session.settled =
      w.client.sessions.map Session.settled := by
    intro n
    exact map_modify_of_eq (g := Session.settled)
      (f := fun s => { s with state := .closed, engine? := none, stream? := none })
      (fun _ => rfl) n w.client.sessions
  unfold World.retire
  split
  · rename_i n s hn hs
    simp only [World.still, World.offEngines, hmap]
    rfl
  · rfl

namespace Act

/-- The act leaves everything but the life of sessions alone. -/
abbrev Still {α : Type} (x : Act α) : Prop :=
  x.Moves (Agree World.still)

theorem still_of_wanes {α : Type} {x : Act α} (h : x.Moves World.Wanes) : x.Still :=
  fun w => (h w).factor World.still fun _ => rfl

end Act

namespace Session

open Act

theorem still_close : close.Still := by
  intro w
  have hwanes := (wanes_close w).factor World.still fun _ => rfl
  exact hwanes.trans w.still_retire

theorem still_poll (i : Nat) : (poll i).Still := by
  unfold poll
  refine .bind (still_of_wanes (wanes_look i)) fun sight => ?_
  split
  · exact .bind still_close fun _ => .pure _
  · exact .pure _

theorem still_heed (s : Session) (exit? : Option Int) : (heed s exit?).Still := by
  cases exit? with
  | none => exact .pure _
  | some code =>
      refine .bind (still_of_wanes (wanes_record _ _ _ _)) fun _ => ?_
      exact .bind still_close fun _ => .pure _

theorem still_isRunning : isRunning.Still := by
  unfold isRunning
  refine .bind .client fun c => ?_
  split
  · exact .pure _
  · split
    · exact .bind (still_poll _) fun exit? => still_heed _ exit?
    · exact .pure _

/-- Asking for the running session moves worlds as the look at its engine does. -/
theorem moves_requireRunning {R : World → World → Prop} [IsPreorder World R]
    (hrun : isRunning.Moves R) (command : String) : (requireRunning command).Moves R := by
  unfold requireRunning
  refine .bind hrun fun running => ?_
  split
  · refine .bind .client fun c => ?_
    split
    · exact .pure _
    · exact .throw _
  · exact .bind .client fun c => .throw _

theorem moves_ofNumber {R : World → World → Prop} [IsPreorder World R] (n : Nat) :
    (ofNumber n).Moves R := by
  unfold ofNumber
  refine .bind .client fun c => ?_
  split
  · exact .pure _
  · exact .throw _

theorem still_requireRunning (command : String) : (requireRunning command).Still :=
  moves_requireRunning still_isRunning command

end Session
end EngineClient
