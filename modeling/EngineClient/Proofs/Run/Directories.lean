import EngineClient.Proofs.Disk.Links
import EngineClient.Proofs.Run.Onward

/-!
# The directories of sessions

A session is opened on a directory that was resolved, so its path is rooted, and it keeps
that directory as long as there is the client. In every run all sessions are on rooted
directories.
-/

namespace EngineClient

open Act

def World.directories (w : World) : List Path :=
  w.client.sessions.map (·.directory)

/-!
## Acts that open no session

Watching a session, waiting for its engine and dispatching a command leave the directories
alone.
-/

theorem directories_of_still {w w' : World} (h : Agree World.still w w') :
    w'.directories = w.directories := by
  refine h.factor World.directories ?_
  intro v
  exact List.map_map

theorem directories_of_client {w w' : World} (h : w'.client = w.client) :
    w'.directories = w.directories :=
  congrArg (fun c => c.sessions.map (·.directory)) h

/-- In surroundings apart from the client, the act leaves the directories alone. -/
abbrev Act.StaysPut {α : Type} (x : Act α) : Prop :=
  x.Moves (Within World.IsApart (Agree World.directories))

theorem staysPut_of_outside {α : Type} {x : Act α} (h : x.Outside) : x.StaysPut := by
  intro w hapart
  rcases h w hapart with ⟨hapart', houtside⟩
  exact ⟨hapart', directories_of_client houtside.client⟩

theorem staysPut_of_still {α : Type} {x : Act α} (hstill : x.Still) (hcalm : x.Calm) :
    x.StaysPut := by
  intro w hapart
  exact ⟨(hcalm w hapart).1, directories_of_still (hstill w)⟩

theorem Session.staysPut_isRunning : isRunning.StaysPut :=
  staysPut_of_still still_isRunning calm_isRunning

theorem Session.staysPut_waitUntilReady (limit? : Option Value) :
    (waitUntilReady limit?).StaysPut := by
  have hpause : (modify Clock.ofWorld.pause : Act PUnit).StaysPut :=
    staysPut_of_outside (outside_of_agree fun _ => rfl)
  apply moves_waitBy
  · exact staysPut_of_outside outside_isReachable
  · exact staysPut_isRunning
  · exact hpause
  · intro logger level event fields
    exact staysPut_of_outside (outside_emit _)

theorem directories_mapSession {f : Session → Session}
    (hf : forall s, (f s).directory = s.directory) (w : World) (n : Nat) :
    ({ w with client := w.client.mapSession n f } : World).directories = w.directories :=
  map_modify_of_eq hf n w.client.sessions

namespace Dispatch

theorem directories_settle (c : Command) (n : Nat) (s : Session) (args : List Value) :
    (settle c n s args).Moves (Agree World.directories) := by
  have hcount : (mapSession n fun s => { s with generation := s.generation + 1 }).Moves
      (Agree World.directories) :=
    fun w => directories_mapSession (f := fun s => { s with generation := s.generation + 1 })
      (fun _ => rfl) w n
  have hsync : (Editor.maybeSync (targets? c s args)).Moves (Agree World.directories) :=
    Editor.part_after_maybeSync World.directories (fun _ => rfl) _
  exact .bind hcount fun _ => .bind hsync fun _ => .pure _

theorem directories_after_send {w : World} (hapart : w.IsApart) (c : Command) (n : Nat)
    (s : Session) (args : List Value) :
    ((send c n s args).after w).directories = w.directories := by
  have hrecord : (record logger .debug "dispatched" [("method", .text c.name)]).Moves
      (Agree World.directories) := fun _ => rfl
  unfold send
  rw [part_after_bind World.directories]
  · exact directories_of_client (client_after_call hapart s c args)
  · intro answer
    split
    · exact .bind (directories_settle c n s args) fun _ => .bind hrecord fun _ => .pure _
    · exact .bind hrecord fun _ => .pure _

theorem directories_after_dispatch {w : World} (hapart : w.IsApart) (method : Value)
    (args : List Value) :
    ((dispatch method args).after w).directories = w.directories := by
  cases hfind : Command.find method with
  | error f => rw [after_of_error (dispatch_of_unknown hfind args w)]
  | ok c =>
      rw [dispatch_of_found hfind]
      rcases sent_or_stopped w c args with ⟨n, s, w₁, hsent⟩ | ⟨_, f, w₁, hrun, hstill⟩
      · rw [after_of_run_eq hsent.issued]
        have hsame := directories_after_send (hsent.isApart hapart) c n s args
        exact hsame.trans (directories_of_still hsent.still)
      · rw [after_of_error hrun]
        exact directories_of_still hstill

end Dispatch

theorem Move.directories_after {w : World} (hapart : w.IsApart) {m : Move}
    (h : forall directory, m ≠ .openOn directory) : (m.after w).directories = w.directories := by
  cases m with
  | openOn directory => exact absurd rfl (h directory)
  | close => exact directories_of_still (Session.still_close w)
  | isRunning => exact (Session.staysPut_isRunning w hapart).2
  | requireRunning command =>
      exact directories_of_still (Session.still_requireRunning command w)
  | waitUntilReady limit? => exact (Session.staysPut_waitUntilReady limit? w hapart).2
  | dispatch method args => exact Dispatch.directories_after_dispatch hapart method args

/-!
## Opening

The directory of the session that is begun was resolved.
-/

theorem Disk.isAbsolute_absolutePath (d : Disk) (cs : List Char) :
    (d.absolutePath cs).isAbsolute = true := by
  unfold absolutePath
  split
  · rfl
  · rename_i hroot
    simpa [Path.isAbsolute] using hroot

theorem Disk.isAbsolute_of_canonical {d : Disk} {p place : Path} (h : d.canonical p = .ok place) :
    place.isAbsolute = true := by
  rcases canonical_eq_ok h with ⟨q, _, hreal, _⟩
  rw [realPath_eq] at hreal
  cases hreach : d.reach q.text with
  | error f =>
      rw [hreach] at hreal
      cases hreal
  | ok r =>
      rw [hreach] at hreal
      cases hreal
      exact d.isAbsolute_absolutePath _

namespace Session

theorem isAbsolute_of_prepare {directory : String} {l : Launch} {w w' : World}
    (h : prepare directory w = .ok l w') : l.directory.isAbsolute = true := by
  unfold prepare at h
  rcases bind_eq_ok h with ⟨_, w₀, _, h⟩
  rcases bind_eq_ok h with ⟨d, w₁, _, h⟩
  rcases bind_eq_ok h with ⟨place, w₂, hplace, h⟩
  rcases bind_eq_ok h with ⟨argv, w₃, _, h⟩
  rcases bind_eq_ok h with ⟨c, w₄, _, h⟩
  rcases bind_eq_ok h with ⟨stream?, w₅, _, h⟩
  cases h
  exact Disk.isAbsolute_of_canonical (ofExcept_eq_ok hplace).1

theorem directories_of_prepare {directory : String} {l : Launch} {w w₁ : World}
    (h : prepare directory w = .ok l w₁) : w₁.directories = w.directories := by
  rcases prepare_keeps (P := fun v => v.directories = w.directories) (fun _ _ _ hv => hv) h with
    ⟨w₀, hclose, hkeeps⟩
  apply hkeeps
  rw [← after_of_ok hclose]
  exact directories_of_still (still_close w)

theorem directories_begun (w : World) (l : Launch) :
    (w.begun l).directories = w.directories ++ [l.directory] :=
  List.map_append

theorem directories_connected (w : World) (n i : Nat) (stream? : Option Nat) :
    (w.connected n i stream?).directories = w.directories :=
  directories_mapSession
    (f := fun s => { s with engine? := some i, stream?, state := .running }) (fun _ => rfl) w n

theorem directories_after_openOn (directory : String) (w : World) :
    ((openOn directory).after w).directories = w.directories ∨
      exists place,
        place.isAbsolute = true ∧
          ((openOn directory).after w).directories = w.directories ++ [place] := by
  have hbegun : forall {l : Launch} {w₁ : World}, prepare directory w = .ok l w₁ ->
      (w₁.begun l).directories = w.directories ++ [l.directory] := by
    intro l w₁ hprepare
    rw [directories_begun, directories_of_prepare hprepare]
  have hopens := opens_openOn directory w
  unfold after
  cases hrun : openOn directory w with
  | ok n w' =>
      rw [hrun] at hopens
      cases hopens with
      | @connected l w₁ w₂ _ i hprepare hstart hwanes =>
          right
          refine ⟨l.directory, isAbsolute_of_prepare hprepare, ?_⟩
          rw [← hbegun hprepare]
          refine (directories_of_client hwanes.client).trans ?_
          refine (directories_connected w₂ w₁.client.epoch i l.stream?).trans ?_
          rcases startEngine_eq_ok hstart with ⟨_, _, _, _, _, rfl⟩
          rfl
  | error f w' =>
      rw [hrun] at hopens
      cases hopens with
      | unprepared hprepare => exact Or.inl (directories_of_still (still_close w))
      | @withdrawn l w₁ w₂ _ _ _ hprepare hstart hos hwanes =>
          right
          refine ⟨l.directory, isAbsolute_of_prepare hprepare, ?_⟩
          rw [← hbegun hprepare]
          refine (directories_of_client hwanes.client).trans ?_
          rcases startEngine_eq_error hstart with rfl | rfl
          · rfl
          · rfl
      | @stranded l w₁ w₂ _ hprepare hstart hother =>
          -- The session that was begun stays, though it was not opened.
          right
          refine ⟨l.directory, isAbsolute_of_prepare hprepare, ?_⟩
          rw [← hbegun hprepare]
          rcases startEngine_eq_error hstart with rfl | rfl
          · rfl
          · rfl

end Session

/-!
## Runs
-/

/-- All sessions are on rooted directories. -/
def World.IsRooted (w : World) : Prop :=
  forall p, p ∈ w.directories -> p.isAbsolute = true

namespace World.IsRooted

variable {w w' : World}

theorem of_eq (h : w.IsRooted) (hsame : w'.directories = w.directories) : w'.IsRooted := by
  intro p hp
  rw [hsame] at hp
  exact h p hp

theorem of_reached {admits : World → Move → Prop} {opened : List Nat}
    (h : Reached admits opened w) : w.IsRooted := by
  induction h with
  | fresh hfresh =>
      intro p hp
      rw [directories, hfresh.sessions] at hp
      cases hp
  | elsewhere _ hstep ih =>
      have hsessions := congrArg Client.sessions hstep.client
      exact ih.of_eq (congrArg (fun sessions => sessions.map (·.directory)) hsessions)
  | @move _ w hreached m _ ih =>
      cases m with
      | openOn directory =>
          rcases Session.directories_after_openOn directory w with hsame | ⟨place, hplace, hnew⟩
          · exact ih.of_eq hsame
          · intro p hp
            change p ∈ ((Session.openOn directory).after w).directories at hp
            rw [hnew] at hp
            rcases List.mem_append.mp hp with hp | hp
            · exact ih p hp
            · rw [List.mem_singleton.mp hp]
              exact hplace
      | _ => exact ih.of_eq (Move.directories_after hreached.isApart (by simp))

theorem session (h : w.IsRooted) {n : Nat} {s : Session} (hs : w.client.sessions[n]? = some s) :
    s.directory.isAbsolute = true :=
  h s.directory (List.mem_map_of_mem (List.mem_of_getElem? hs))

end World.IsRooted
end EngineClient
