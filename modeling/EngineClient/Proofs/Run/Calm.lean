import EngineClient.Dispatch
import EngineClient.Proofs.Session.Running
import Mathlib.Logic.Relation

/-!
# Calm passages

Between one open and the next, and without closing, a client passes only through steady
steps and through closes that succeed: the closes of sessions whose engine was seen to have
exited. So what steady steps and such closes keep is kept by watching a session, by waiting
for its engine and by every dispatch.
-/

namespace EngineClient

def Session.post (s : Session) : SessionState × Option Nat :=
  (s.state, s.engine?)

/-- The second engine does not live without the first. -/
def Engine.Outlasts (e e' : Engine) : Prop :=
  e'.isAlive = true -> e.isAlive = true

instance : Std.Refl Engine.Outlasts where
  refl _ := id

/-- The same session is in use, and every session is at the same post. -/
structure World.SamePosts (w w' : World) : Prop where
  current : w'.client.current? = w.client.current?
  posts : w'.client.sessions.map Session.post = w.client.sessions.map Session.post

namespace World.SamePosts

theorem epoch {w w' : World} (h : w.SamePosts w') : w'.client.epoch = w.client.epoch := by
  have hlength := congrArg List.length h.posts
  rwa [List.length_map, List.length_map] at hlength

theorem post_getElem? {w w' : World} (h : w.SamePosts w') (n : Nat) :
    w'.client.sessions[n]?.map Session.post = w.client.sessions[n]?.map Session.post := by
  have hposts := congrArg (fun posts => posts[n]?) h.posts
  simpa only [List.getElem?_map] using hposts

theorem post_session? {w w' : World} (h : w.SamePosts w') :
    w'.client.session?.map Session.post = w.client.session?.map Session.post := by
  unfold Client.session?
  rw [h.current]
  cases w.client.current? with
  | none => rfl
  | some n => exact h.post_getElem? n

end World.SamePosts

/-- Every session stays at its post, and no engine is started. -/
structure World.Steady (w w' : World) : Prop where
  current : w'.client.current? = w.client.current?
  posts : w'.client.sessions.map Session.post = w.client.sessions.map Session.post
  engines : List.Forall₂ Engine.Outlasts w.engines w'.engines
  companions : w'.trail.companions = w.trail.companions

namespace World.Steady

theorem samePosts {w w' : World} (h : w.Steady w') : w.SamePosts w' :=
  ⟨h.current, h.posts⟩

theorem post_getElem? {w w' : World} (h : w.Steady w') (n : Nat) :
    w'.client.sessions[n]?.map Session.post = w.client.sessions[n]?.map Session.post :=
  h.samePosts.post_getElem? n

theorem post_session? {w w' : World} (h : w.Steady w') :
    w'.client.session?.map Session.post = w.client.session?.map Session.post :=
  h.samePosts.post_session?

end World.Steady

structure World.Gentle (w w' : World) : Prop where
  current : w'.client.current? = w.client.current?
  posts : w'.client.sessions.map Session.post = w.client.sessions.map Session.post
  engines : List.Forall₂ Engine.Fades w.engines w'.engines
  companions : w'.trail.companions = w.trail.companions

namespace World.Gentle

theorem steady {w w' : World} (h : w.Gentle w') : w.Steady w' :=
  ⟨h.current, h.posts, h.engines.imp fun _ _ hfades => hfades.alive, h.companions⟩

theorem of_outside {w w' : World} (h : w.Outside w') : w.Gentle w' where
  current := by rw [h.client]
  posts := by rw [h.client]
  engines := h.engines
  companions := by
    have hledger := congrArg Trail.companions h.ledger
    exact hledger

end World.Gentle

theorem World.Steady.of_outside {w w' : World} (h : w.Outside w') : w.Steady w' :=
  (World.Gentle.of_outside h).steady

/-- Gentle steps, and closes that succeed. -/
def World.Calm : World → World → Prop :=
  Relation.ReflTransGen fun w w' => w.Gentle w' ∨ Session.close w = .ok () w'

instance : IsPreorder World World.Calm where
  refl _ := .refl
  trans _ _ _ h h' := Relation.ReflTransGen.trans h h'

theorem World.Calm.of_gentle {w w' : World} (h : w.Gentle w') : w.Calm w' :=
  .single (.inl h)

theorem World.Calm.of_close {w w' : World} (h : Session.close w = .ok () w') : w.Calm w' :=
  .single (.inr h)

/-- What gentle steps and closes that succeed keep is kept along every calm passage. -/
theorem World.Calm.keeps_gentle {P : World → Prop}
    (hgentle : forall w w', w.Gentle w' -> P w -> P w')
    (hclose : forall w w', Session.close w = .ok () w' -> P w -> P w') {w w' : World}
    (h : w.Calm w') (hw : P w) : P w' := by
  induction h with
  | refl => exact hw
  | tail _ hstep ih =>
      rcases hstep with hstep | hstep
      · exact hgentle _ _ hstep ih
      · exact hclose _ _ hstep ih

/-- What steady steps and closes that succeed keep is kept along every calm passage. -/
theorem World.Calm.keeps {P : World → Prop} (hsteady : forall w w', w.Steady w' -> P w -> P w')
    (hclose : forall w w', Session.close w = .ok () w' -> P w -> P w') {w w' : World}
    (h : w.Calm w') (hw : P w) : P w' :=
  h.keeps_gentle (fun w w' hgentle => hsteady w w' hgentle.steady) hclose hw

theorem World.IsApart.retire {w : World} (h : w.IsApart) : w.retire.IsApart :=
  h.of_eq (w.factor_retire World.engines fun _ _ => rfl)
    (w.factor_retire World.surroundings fun _ _ => rfl)

theorem World.IsApart.close {w : World} (h : w.IsApart) : (Session.close.after w).IsApart :=
  h.retire.of_wanes (Session.wanes_close w)

namespace Act

/-- In surroundings apart from the client, the act is a calm passage. -/
abbrev Calm {α : Type} (x : Act α) : Prop :=
  x.Moves (Within World.IsApart World.Calm)

theorem calm_of_outside {α : Type} {x : Act α} (h : x.Outside) : x.Calm := by
  intro w hapart
  rcases h w hapart with ⟨hapart', houtside⟩
  exact ⟨hapart', .of_gentle (.of_outside houtside)⟩

theorem calm_record (logger : String) (level : Log.Level) (event : String) (fields : Table) :
    (record logger level event fields).Calm :=
  calm_of_outside (outside_emit _)

end Act

/-!
## Watching
-/

namespace Session

open Act

theorem calm_of_wanes_close {w w₁ w' : World} (hapart : w.IsApart) (hwanes : w.Wanes w₁)
    (hclose : close w₁ = .ok () w') : w'.IsApart ∧ w.Calm w' := by
  constructor
  · rw [← after_of_ok hclose]
    exact (hapart.of_wanes hwanes).close
  · exact trans_of _ (World.Calm.of_gentle (.of_outside (.of_wanes hwanes)))
      (World.Calm.of_close hclose)

theorem calm_isRunning : isRunning.Calm := by
  intro w hapart
  have hasked := asked_isRunning hapart
  unfold after
  cases hrun : isRunning w with
  | ok running w' =>
      rw [hrun] at hasked
      cases hasked with
      | none h => exact ⟨hapart, refl_of _ w⟩
      | idle hs hidle => exact ⟨hapart, refl_of _ w⟩
      | missing hs hi hmissing => exact ⟨hapart, refl_of _ w⟩
      | @alive s i e h halive =>
          exact calm_of_outside
            (outside_of_wanes (wanes_mapEngine i Engine.Fades.look)) w hapart
      | exited h hdead hwanes hclose => exact calm_of_wanes_close hapart hwanes hclose
  | error f w' =>
      rw [hrun] at hasked
      cases hasked with
      | fault hunseen => exact ⟨hapart, refl_of _ w⟩

theorem calm_requireRunning (command : String) : (requireRunning command).Calm :=
  moves_requireRunning calm_isRunning command

theorem calm_ofNumber (n : Nat) : (ofNumber n).Calm :=
  moves_ofNumber n

/-!
## Waiting

A wait moves worlds as the attempts, the looks at the engine, the pauses and the records do
that it is made of.
-/

section Waits

variable {R : World → World → Prop} [IsPreorder World R] {τ : Type} {clock : Clock τ}

theorem moves_tryUntil (hreach : isReachable.Moves R) (hrun : isRunning.Moves R)
    (hpause : (modify clock.pause : Act PUnit).Moves R)
    (hrecord : forall logger level event fields, (record logger level event fields).Moves R)
    (deadline : τ) (url limit : String) (n : Nat) :
    (tryUntil clock deadline url limit n).Moves R := by
  -- The attempts that are left count down.
  induction n with
  | zero =>
      exact .throw _
  | succ n ih =>
      unfold tryUntil
      refine .bind hreach fun reached => ?_
      split
      · exact hrecord _ _ _ _
      · refine .bind hrun fun running => ?_
        split
        · exact .throw _
        · refine .bind .get fun w => ?_
          split
          · exact .throw _
          · exact .bind hpause fun _ => ih

theorem moves_waitBy (hreach : isReachable.Moves R) (hrun : isRunning.Moves R)
    (hpause : (modify clock.pause : Act PUnit).Moves R)
    (hrecord : forall logger level event fields, (record logger level event fields).Moves R)
    (limit? : Option Value) : (waitBy clock limit?).Moves R := by
  have htry : forall (s : Session) (limit : TimeLimit), (do
      let w ← get
      tryUntil clock (clock.after (clock.now w) limit.seconds) s.url limit.text
        limit.attempts : Act Unit).Moves R :=
    fun s limit => .bind .get fun w => moves_tryUntil hreach hrun hpause hrecord _ _ _ _
  unfold waitBy
  refine .bind (moves_requireRunning hrun _) fun n => ?_
  refine .bind (moves_ofNumber n) fun s => ?_
  split
  · exact .bind (.ofExcept _) fun limit => htry s limit
  · exact .bind .client fun c => htry s _

end Waits

theorem calm_waitBy {τ : Type} {clock : Clock τ}
    (hpause : (modify clock.pause : Act PUnit).Calm) (limit? : Option Value) :
    (waitBy clock limit?).Calm :=
  moves_waitBy (calm_of_outside outside_isReachable) calm_isRunning hpause calm_record limit?

theorem calm_waitUntilReady (limit? : Option Value) : (waitUntilReady limit?).Calm := by
  have hpause : (modify Clock.ofWorld.pause : Act PUnit).Calm :=
    calm_of_outside (outside_of_agree fun _ => rfl)
  exact calm_waitBy hpause limit?

end Session

/-!
## Dispatches
-/

namespace Dispatch

open Act

theorem calm_maybeSync (targets? : Option (List String)) :
    (Editor.maybeSync targets?).Calm := by
  intro w hapart
  have hpart {γ : Type} (k : World → γ) (hk : forall v, k v.offEditor = k v) :=
    Editor.part_after_maybeSync k hk targets? w
  have hengines := hpart World.engines fun _ => rfl
  have hsurroundings := hpart World.surroundings fun _ => rfl
  have hcurrent := hpart (fun v => v.client.current?) fun _ => rfl
  have hsessions := hpart (fun v => v.client.sessions) fun _ => rfl
  have hcompanions := hpart (fun v => v.trail.companions) fun _ => rfl
  refine ⟨hapart.of_eq hengines hsurroundings, .of_gentle ⟨hcurrent, ?_, ?_, hcompanions⟩⟩
  · exact congrArg (List.map Session.post) hsessions
  · rw [hengines]
    exact List.forall₂_refl w.engines

theorem calm_count (n : Nat) :
    (mapSession n fun s => { s with generation := s.generation + 1 }).Calm := by
  intro w hapart
  have hposts := map_modify_of_eq (g := Session.post)
    (f := fun s => { s with generation := s.generation + 1 }) (fun _ => rfl) n w.client.sessions
  refine ⟨hapart.of_eq rfl rfl, .of_gentle ⟨rfl, hposts, ?_, rfl⟩⟩
  exact List.forall₂_refl w.engines

theorem calm_call (s : Session) (method : String) (args : List Value) :
    (Transport.call s method args).Calm := by
  intro w hapart
  have hnoted : w.Gentle ((noteRequest method args).after w) :=
    ⟨rfl, rfl, List.forall₂_refl w.engines, rfl⟩
  rcases Transport.outside_call s method args w (hapart.of_eq rfl rfl) with
    ⟨hapart', houtside⟩
  exact ⟨hapart', trans_of _ (World.Calm.of_gentle hnoted) (.of_gentle (.of_outside houtside))⟩

theorem calm_send (c : Command) (n : Nat) (s : Session) (args : List Value) :
    (send c n s args).Calm := by
  have hsettle : (settle c n s args).Calm :=
    .bind (calm_count n) fun _ => .bind (calm_maybeSync _) fun _ => .pure _
  unfold send
  refine .bind (calm_call s c.name args) fun result => ?_
  split
  · exact .bind hsettle fun _ => .bind (calm_record _ _ _ _) fun _ => .pure _
  · exact .bind (calm_record _ _ _ _) fun _ => .pure _

theorem calm_issue (c : Command) (args : List Value) : (issue c args).Calm := by
  unfold issue
  refine .bind (Session.calm_requireRunning c.name) fun n => ?_
  refine .bind (Session.calm_ofNumber n) fun s => ?_
  exact .bind (calm_record _ _ _ _) fun _ => calm_send c n s args

theorem calm_dispatch (method : Value) (args : List Value) : (dispatch method args).Calm := by
  unfold dispatch
  refine .bind (.ofExcept _) fun c => ?_
  exact .bind (.ofExcept _) fun _ => calm_issue c args

end Dispatch
end EngineClient
