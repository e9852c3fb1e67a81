import EngineClient.Proofs.History.Freshness

/-!
# Whether an engine agrees with entries that hold

An engine keeps a stack of changes to undo and one of changes to redo, and changes them only
when it applies a request that changes files. The client counts the answers to such requests,
not the requests: while an entry holds, the engine has applied none but requests whose calls
failed. Main statement: `agrees_or_lost`.
-/

namespace EngineClient

/-!
## Two parties
-/

structure Stacks where
  undo : List Value
  redo : List Value

def Stacks.of (k : Stacks) : HistoryStack → List Value
  | .undo => k.undo
  | .redo => k.redo

namespace Move

def Requests (w : World) : Move → Prop
  | .dispatch method args =>
      exists c n s w₁,
        Command.find method = .ok c ∧ c.mutating = true ∧ Dispatch.Sent w c args n s w₁
  | _ => False

def Loses (w : World) : Move → Prop
  | .dispatch method args =>
      exists c n s w₁ f w₂,
        Command.find method = .ok c ∧ c.mutating = true ∧ Dispatch.Sent w c args n s w₁ ∧
          Transport.call s c.name args w₁ = .error f w₂
  | _ => False

theorem loses_or_changes {w : World} {m : Move} (h : m.Requests w) :
    m.Loses w ∨ m.Changes w := by
  cases m with
  | dispatch method args =>
      rcases h with ⟨c, n, s, w₁, hfind, hmutating, hsent⟩
      cases hcall : Transport.call s c.name args w₁ with
      | error f w₂ => exact Or.inl ⟨c, n, s, w₁, f, w₂, hfind, hmutating, hsent, hcall⟩
      | ok v w₂ => exact Or.inr ⟨c, hfind, hmutating, n, s, w₁, v, w₂, hsent, hcall⟩
  | _ => exact h.elim

end Move

/-- What is done at a turn: the client makes a move or fetches entries, or the engine applies a
request by itself. -/
inductive Deed where
  | move (m : Move)
  | fetch (stack : HistoryStack)
  | apply

def Deed.after (w : World) : Deed → World
  | .move m => m.after w
  | .fetch stack => (History.fetch stack).after w
  | .apply => w

/-- A deed, the world in which it is done, and the stacks of the engine before and after. -/
structure Turn where
  deed : Deed
  world : World
  before : Stacks
  after : Stacks

namespace Turn

def Lost (t : Turn) : Prop :=
  exists m, t.deed = .move m ∧ m.Loses t.world

/-- The engine may change its stacks when a session is opened or closed, when it is given a
request that changes files, or when such a request is still to be applied the call of which
has failed. -/
def MayChange (earlier : List Turn) (t : Turn) : Prop :=
  match t.deed with
  | .move m => ¬ m.Watches ∨ m.Requests t.world
  | .fetch _ => False
  | .apply => exists u, u ∈ earlier ∧ u.Lost

theorem MayChange.mono {earlier later : List Turn} {t : Turn} (h : t.MayChange earlier)
    (hlater : forall u, u ∈ earlier -> u ∈ later) : t.MayChange later := by
  unfold MayChange at h ⊢
  cases hdeed : t.deed with
  | move m =>
      rw [hdeed] at h
      exact h
  | fetch stack =>
      rw [hdeed] at h
      exact h
  | apply =>
      rw [hdeed] at h
      rcases h with ⟨u, hu, hlost⟩
      exact ⟨u, hlater u hu, hlost⟩

def Answers (t : Turn) : Prop :=
  forall stack v w,
    t.deed = .fetch stack -> (History.command stack).send [] t.world = .ok v w ->
      History.items (History.command stack).name v = .ok (t.before.of stack)

/-- What an engine does at a turn that keeps its stacks as it should. -/
structure Fair (earlier : List Turn) (t : Turn) : Prop where
  changes : t.after ≠ t.before -> t.MayChange earlier
  answers : t.Answers

end Turn

/-- The turns of a client and an engine that go on from a world and stacks. -/
inductive Plays (earlier : List Turn) (w : World) (k : Stacks) :
    List Turn → World → Stacks → Prop where
  | refl : Plays earlier w k [] w k
  | elsewhere {turns : List Turn} {v v' : World} {l : Stacks}
      (h : Plays earlier w k turns v l) (hstep : v.Elsewhere v') :
      Plays earlier w k turns v' l
  | turn {turns : List Turn} {v : World} {l : Stacks} (h : Plays earlier w k turns v l)
      (d : Deed) (l' : Stacks) (hfair : Turn.Fair (earlier ++ turns) ⟨d, v, l, l'⟩) :
      Plays earlier w k (turns ++ [⟨d, v, l, l'⟩]) (d.after v) l'

namespace History

open Act

theorem leads_fetch (stack : HistoryStack) (w : World) :
    exists steps, w.Leads steps ((fetch stack).after w) := by
  let query : Move := .dispatch (.text (command stack).name) []
  have hquery : query.after w = ((command stack).send []).after w :=
    congrArg (·.after w) (dispatch_of_found (command stack).find_name [])
  have hasked := World.Leads.move .refl query (w := w)
  unfold fetch
  cases hsend : (command stack).send [] w with
  | error f w₁ =>
      rw [hquery, after_of_error hsend] at hasked
      rw [after_bind_of_error hsend]
      exact ⟨_, hasked⟩
  | ok v w₁ =>
      rw [hquery, after_of_ok hsend] at hasked
      rw [after_bind_of_ok hsend]
      split
      · exact ⟨_, hasked⟩
      · cases hitems : items (command stack).name v with
        | error f =>
            exact ⟨_, hasked⟩
        | ok descriptions =>
            have hmarked : forall n u, (do
                let s ← Session.ofNumber n
                return HistoryEntry.ofStack stack (← Act.client).epoch s.generation
                  descriptions : Act (List HistoryEntry)).after u = u :=
              fun n u => (after_bind_of_idle (fun _ _ => rfl) u).trans (Session.after_ofNumber n u)
            have hchecked := hasked.move (.requireRunning (command stack).name)
            change w.Leads _ ((Session.requireRunning (command stack).name).after w₁) at hchecked
            rw [← after_bind_of_idle hmarked w₁] at hchecked
            exact ⟨_, hchecked⟩

theorem undisturbed_of_isCurrent {opened : List Nat} {w₀ w w' w'' : World}
    (h : Reached (fun _ _ => True) opened w₀) {stack : HistoryStack} {es : List HistoryEntry}
    (hfetch : fetch stack w₀ = .ok es w) {e : HistoryEntry} (he : e ∈ es)
    {steps : List (World × Move)} (hleads : w.Leads steps w')
    (hcurrent : isCurrent e w' = .ok true w'') : Undisturbed steps := by
  rcases stands_of_fetch h hfetch he with ⟨⟨opened', hreached⟩, _, _, _, _, hstands⟩
  cases hstands.fate hreached.isApart hleads with
  | stands hcalm _ => exact hcalm
  | ended hcalm _ _ => exact hcalm
  | disturbed _ houtdated =>
      exact absurd hcurrent
        (not_isCurrent_of_leads (hleads.isApart hreached.isApart) houtdated .refl)

end History

namespace Plays

variable {earlier turns : List Turn} {w w' : World} {k k' : Stacks}

/-- A run of client and engine is a run of the client, and the client's moves in it are
steps of that. -/
theorem leads (h : Plays earlier w k turns w' k') :
    exists steps,
      w.Leads steps w' ∧
        forall t m, t ∈ turns -> t.deed = .move m -> (t.world, m) ∈ steps := by
  induction h with
  | refl =>
      exact ⟨[], .refl, fun _ _ ht => absurd ht List.not_mem_nil⟩
  | elsewhere _ hstep ih =>
      rcases ih with ⟨steps, hleads, hmoves⟩
      exact ⟨steps, hleads.elsewhere hstep, hmoves⟩
  | @turn turns v l _ d l' _ ih =>
      rcases ih with ⟨steps, hleads, hmoves⟩
      have hnext : exists steps',
          v.Leads steps' (d.after v) ∧ forall m, d = .move m -> (v, m) ∈ steps' := by
        cases d with
        | move m =>
            refine ⟨_, World.Leads.move .refl m, ?_⟩
            intro m' hm
            cases hm
            exact List.mem_singleton_self _
        | fetch stack =>
            rcases History.leads_fetch stack v with ⟨steps', hleads'⟩
            exact ⟨steps', hleads', fun _ hm => nomatch hm⟩
        | apply =>
            exact ⟨[], .refl, fun _ hm => nomatch hm⟩
      rcases hnext with ⟨steps', hleads', hmove⟩
      refine ⟨steps ++ steps', hleads.trans hleads', ?_⟩
      intro t m ht hm
      rcases List.mem_append.mp ht with ht | ht
      · exact List.mem_append_left _ (hmoves t m ht hm)
      · rw [List.mem_singleton.mp ht] at hm ⊢
        exact List.mem_append_right _ (hmove m hm)

theorem mayChange (h : Plays earlier w k turns w' k') {t : Turn} (ht : t ∈ turns)
    (hchanges : t.after ≠ t.before) : t.MayChange (earlier ++ turns) := by
  induction h with
  | refl => cases ht
  | elsewhere _ _ ih => exact ih ht
  | @turn turns v l _ d l' hfair ih =>
      rw [← List.append_assoc]
      rcases List.mem_append.mp ht with ht | ht
      · exact (ih ht).mono fun _ hu => List.mem_append_left _ hu
      · rw [List.mem_singleton.mp ht] at hchanges ⊢
        exact (hfair.changes hchanges).mono fun _ hu => List.mem_append_left _ hu

theorem stacks_eq (h : Plays earlier w k turns w' k')
    (hkept : forall t, t ∈ turns -> t.after = t.before) : k' = k := by
  induction h with
  | refl => rfl
  | elsewhere _ _ ih => exact ih hkept
  | @turn turns v l _ d l' _ ih =>
      have hlast : l' = l := hkept _ (List.mem_append_right _ (List.mem_singleton_self _))
      rw [hlast]
      exact ih fun t ht => hkept t (List.mem_append_left _ ht)

/-- If no move of the client disturbs entries, stacks change only with requests that were
lost. -/
theorem lost_of_undisturbed (h : Plays earlier w k turns w' k') {steps : List (World × Move)}
    (hcalm : Undisturbed steps)
    (hmoves : forall t m, t ∈ turns -> t.deed = .move m -> (t.world, m) ∈ steps) {t : Turn}
    (ht : t ∈ turns) (hchanges : t.after ≠ t.before) :
    t.Lost ∨ t.deed = .apply ∧ exists u, u ∈ earlier ++ turns ∧ u.Lost := by
  have hmay := h.mayChange ht hchanges
  unfold Turn.MayChange at hmay
  cases hdeed : t.deed with
  | move m =>
      left
      rw [hdeed] at hmay
      have hquiet := hcalm _ (hmoves t m ht hdeed)
      rcases hmay with hswitch | hrequests
      · exact absurd (Or.inl hswitch) hquiet
      · rcases Move.loses_or_changes hrequests with hloses | hanswered
        · exact ⟨m, hdeed, hloses⟩
        · exact absurd (Or.inr hanswered) hquiet
  | fetch stack =>
      rw [hdeed] at hmay
      exact hmay.elim
  | apply =>
      right
      rw [hdeed] at hmay
      exact ⟨rfl, hmay⟩

end Plays

theorem Turn.not_lost_of_fetch {t : Turn} {stack : HistoryStack} (h : t.deed = .fetch stack) :
    ¬ t.Lost := by
  rintro ⟨m, hm, _⟩
  rw [h] at hm
  cases hm

namespace History

open Act

/-- While an entry holds, its engine changed its stacks only in turns in which a request that
changes files was lost, or by applying such a request later. If none was lost, the stack of the
entry is the one that it was read from, and its position holds its description. -/
theorem agrees_or_lost {earlier turns : List Turn} {w₀ w₁ w₂ w w' : World}
    {k₀ k₁ k : Stacks} (hfresh : w₀.IsFresh) (hearlier : Plays [] w₀ k₀ earlier w₁ k₁)
    {stack : HistoryStack} (hfair : Turn.Fair earlier ⟨.fetch stack, w₁, k₁, k₁⟩)
    {es : List HistoryEntry} (hfetch : fetch stack w₁ = .ok es w₂)
    (hturns : Plays (earlier ++ [⟨.fetch stack, w₁, k₁, k₁⟩]) w₂ k₁ turns w k)
    {e : HistoryEntry} (he : e ∈ es) (hcurrent : isCurrent e w = .ok true w') :
    (forall t, t ∈ turns -> t.after ≠ t.before ->
      t.Lost ∨ t.deed = .apply ∧ exists u, u ∈ earlier ++ turns ∧ u.Lost) ∧
    ((forall t, t ∈ earlier ++ turns -> ¬ t.Lost) ->
      k.of e.stack = k₁.of e.stack ∧ (k.of e.stack)[e.index]? = some e.description) := by
  rcases hearlier.leads with ⟨steps₁, hleads₁, _⟩
  rcases hleads₁.reached (.fresh hfresh) with ⟨opened, hreached⟩
  rcases hturns.leads with ⟨steps, hleads, hmoves⟩
  have hcalm := undisturbed_of_isCurrent hreached hfetch he hleads hcurrent
  have hchanged : forall t, t ∈ turns -> t.after ≠ t.before ->
      t.Lost ∨ t.deed = .apply ∧ exists u, u ∈ earlier ++ turns ∧ u.Lost := by
    intro t ht hchanges
    refine (hturns.lost_of_undisturbed hcalm hmoves ht hchanges).imp_right ?_
    rintro ⟨hdeed, u, hu, hlost⟩
    refine ⟨hdeed, u, ?_, hlost⟩
    -- The fetch is one of the turns before these, and it is not the one that was lost.
    rw [List.append_assoc] at hu
    rcases List.mem_append.mp hu with hu | hu
    · exact List.mem_append_left _ hu
    · rcases List.mem_cons.mp hu with rfl | hu
      · exact absurd hlost (Turn.not_lost_of_fetch rfl)
      · exact List.mem_append_right _ hu
  refine ⟨hchanged, ?_⟩
  intro hnone
  have hkept : k = k₁ := by
    refine hturns.stacks_eq ?_
    intro t ht
    by_contra hchanges
    rcases hchanged t ht hchanges with hlost | ⟨_, u, hu, hlost⟩
    · exact hnone t (List.mem_append_right _ ht) hlost
    · exact hnone u hu hlost
  rcases fetch_eq_ok hfetch he with ⟨v, w₃, descriptions, n, s, hsend, hitems, _, _, rfl⟩
  have hanswer := hfair.answers stack v w₃ rfl hsend
  rw [hitems] at hanswer
  cases hanswer
  rcases List.mem_mapIdx.mp he with ⟨i, hi, rfl⟩
  rw [hkept]
  exact ⟨rfl, List.getElem?_eq_getElem hi⟩

def losingUndo : World :=
  { firstSession with
    surroundings :=
      { replies :=
          [(Command.undoHistory.name, [{ result := .ok (.list [.text "b", .text "a"]) }]),
            (Command.undo.name,
              [{ result := .error (.os { kind := .timedOut, code? := none, text := "" }) }])]
        transport := .proxied } }

def fetchedLosingUndo : World :=
  (fetch .undo).after losingUndo

def twoDone : Stacks :=
  ⟨[.text "b", .text "a"], []⟩

def oneUndone : Stacks :=
  ⟨[.text "a"], [.text "b"]⟩

theorem losingUndo_isApart : losingUndo.surroundings.IsApart := by
  refine ⟨fun plan hplan => (nomatch hplan), by simp [losingUndo], ?_⟩
  intro entry hentry r hr effect heffect
  simp only [losingUndo, List.mem_cons, List.not_mem_nil, or_false] at hentry
  rcases hentry with rfl | rfl
  · rw [List.mem_singleton.mp hr] at heffect
    cases heffect
  · rw [List.mem_singleton.mp hr] at heffect
    cases heffect

def opening : List Turn :=
  [⟨.move (.openOn "/"), newClient, twoDone, twoDone⟩]

theorem plays_opening : Plays [] newClient twoDone opening losingUndo twoDone := by
  have hreached : Reached (fun _ _ => True) [0] firstSession := reached_firstSession trivial
  have hopen : Plays [] newClient twoDone opening ((Session.openOn "/").after newClient) twoDone :=
    .turn .refl (.move (.openOn "/")) twoDone
      ⟨fun h => absurd rfl h, fun _ _ _ h => nomatch h⟩
  rw [after_of_ok openOn_newClient] at hopen
  exact hopen.elsewhere (.of_surroundings hreached.isApart losingUndo_isApart)

theorem fetch_losingUndo :
    fetch .undo losingUndo = .ok (HistoryEntry.ofStack .undo 1 0 twoDone.undo) fetchedLosingUndo :=
  rfl

theorem fair_fetch_losingUndo :
    Turn.Fair opening ⟨.fetch .undo, losingUndo, twoDone, twoDone⟩ := by
  refine ⟨fun h => absurd rfl h, ?_⟩
  intro stack v w hstack hsend
  cases hstack
  cases hsend
  rfl

theorem requests_undo_fetchedLosingUndo :
    (Move.dispatch (.text Command.undo.name) []).Requests fetchedLosingUndo := by
  have hrunning : Session.requireRunning Command.undo.name fetchedLosingUndo =
      .ok 0 (fetchedLosingUndo.looked 0) := rfl
  exact ⟨.undo, 0, _, _, rfl, rfl, rfl, _, hrunning, rfl, rfl⟩

theorem plays_undo :
    Plays (opening ++ [⟨.fetch .undo, losingUndo, twoDone, twoDone⟩]) fetchedLosingUndo twoDone
      [⟨.move (.dispatch (.text Command.undo.name) []), fetchedLosingUndo, twoDone, oneUndone⟩]
      ((dispatch (.text Command.undo.name) []).after fetchedLosingUndo) oneUndone :=
  .turn .refl (.move (.dispatch (.text Command.undo.name) [])) oneUndone
    ⟨fun _ => Or.inr requests_undo_fetchedLosingUndo, fun _ _ _ h => nomatch h⟩

/-- Entries still hold after an undo that the engine applied and the answer to which is
lost. -/
theorem isCurrent_after_lost_undo :
    exists es,
      fetch .undo losingUndo = .ok es fetchedLosingUndo ∧ es.length = 2 ∧
        (Move.dispatch (.text Command.undo.name) []).Loses fetchedLosingUndo ∧
          forall e, e ∈ es ->
            (exists w,
              isCurrent e ((dispatch (.text Command.undo.name) []).after fetchedLosingUndo) =
                .ok true w) ∧
              [Value.text "a"][e.index]? ≠ some e.description := by
  have hcurrent : forall e, e ∈ HistoryEntry.ofStack .undo 1 0 twoDone.undo ->
      exists w, isCurrent e ((dispatch (.text Command.undo.name) []).after fetchedLosingUndo) =
        .ok true w := by
    intro e he
    rcases List.mem_mapIdx.mp he with ⟨i, hi, rfl⟩
    exact ⟨_, rfl⟩
  refine ⟨_, fetch_losingUndo, rfl, ?_, ?_⟩
  · rcases hcurrent _ List.mem_cons_self with ⟨w, hw⟩
    have hlost := (agrees_or_lost newClient_isFresh plays_opening fair_fetch_losingUndo
      fetch_losingUndo plays_undo List.mem_cons_self hw).1 _ List.mem_cons_self
    rcases hlost (by simp [twoDone, oneUndone]) with ⟨m, hm, hloses⟩ | ⟨happly, _⟩
    · cases hm
      exact hloses
    · cases happly
  · intro e he
    refine ⟨hcurrent e he, ?_⟩
    rcases List.mem_mapIdx.mp he with ⟨i, hi, rfl⟩
    match i, hi with
    | 0, _ => simp [twoDone]
    | 1, _ => simp [twoDone]

end History
end EngineClient
