import EngineClient.Proofs.Dispatch.Steps
import EngineClient.Proofs.Run.Numbers

/-!
# The accounts of a dispatch

A dispatch hands its command to the transport once if the command is known, its arguments
fit and a session runs, and not at all otherwise. It counts in the generation of the session
and makes buffers follow the files once if the command changes files and the transport gave
an answer, and not at all otherwise. Main statement: `accounts_of_dispatch`.
-/

namespace EngineClient

/-!
## Tallies
-/

/-- What a client keeps count of: the requests that it handed to the transport, the requests
to follow the files, the generations of its sessions, and the state of its editor. -/
structure Tally where
  requests : List (String × List Value)
  reconciliations : List (Option (List String))
  generations : List Nat
  syncs : Nat
  editor? : Option Buffers

namespace Tally

def requested (t : Tally) (c : Command) (args : List Value) : Tally :=
  { t with requests := t.requests ++ [(c.name, args)] }

/-- The tally, up to the buffers, after a command of a session changed files. -/
def settled (t : Tally) (n : Nat) (targets? : Option (List String)) (follows : Bool) : Tally :=
  { t with
    reconciliations := t.reconciliations ++ [targets?]
    generations := t.generations.modify n (· + 1)
    syncs := if follows ∧ t.editor?.isSome then t.syncs + 1 else t.syncs
    editor? := none }

def offEditor (t : Tally) : Tally :=
  { t with editor? := none }

end Tally

def World.tally (w : World) : Tally where
  requests := w.trail.requests
  reconciliations := w.trail.reconciliations
  generations := w.client.sessions.map (·.generation)
  syncs := w.client.syncs
  editor? := w.client.editor?

theorem World.tally_of_still {w w' : World} (h : w'.still = w.still) : w'.tally = w.tally := by
  refine Act.Agree.factor h World.tally ?_
  intro v
  simp only [World.tally, World.still, World.offEngines, List.map_map]
  rfl

theorem World.tally_of_outside {w w' : World} (h : w.Outside w') : w'.tally = w.tally := by
  have hrequests := congrArg Trail.requests h.ledger
  have hreconciliations := congrArg Trail.reconciliations h.ledger
  change w'.trail.requests = w.trail.requests at hrequests
  change w'.trail.reconciliations = w.trail.reconciliations at hreconciliations
  simp only [World.tally, h.client, hrequests, hreconciliations]

/-!
## Asking for a running session
-/

namespace Session

open Act

/-- The session of a number is in use and marked as running, and a look at its engine shows
that it has not exited. -/
def Runs (w : World) (n : Nat) (s : Session) : Prop :=
  w.client.current? = some n ∧
    exists i e, Watched w s i e ∧ e.look.isAlive = true

theorem Runs.session {w : World} {n : Nat} {s : Session} (h : Runs w n s) :
    w.client.sessions[n]? = some s := by
  rcases h with ⟨hn, _, _, hwatched, _⟩
  rcases Client.session?_eq_some_iff.mp hwatched.session with ⟨m, hm, hs⟩
  rw [hn] at hm
  cases hm
  exact hs

theorem requireRunning_of_runs {w : World} (hapart : w.IsApart) {n : Nat} {s : Session}
    (h : Runs w n s) (command : String) :
    exists w₁, requireRunning command w = .ok n w₁ ∧ w.Wanes w₁ := by
  rcases h with ⟨hn, i, e, hwatched, halive⟩
  refine ⟨w.looked i, ?_, wanes_mapEngine i Engine.Fades.look w⟩
  have hclient : client (w.looked i) = .ok w.client (w.looked i) := rfl
  unfold requireRunning
  rw [bind_run_of_ok (isRunning_of_alive hwatched hapart halive), if_pos rfl,
    bind_run_of_ok hclient, hn]
  rfl

theorem requireRunning_of_stopped {w w' : World} (h : isRunning w = .ok false w')
    (command : String) :
    requireRunning command w = .error (notRunning command w'.client.state) w' := by
  unfold requireRunning
  rw [bind_run_of_ok h]
  rfl

/-- Without a running session a command is refused, unless looking at an engine fails. -/
theorem requireRunning_of_not_runs {w : World} (hapart : w.IsApart) (hnumbered : w.IsNumbered)
    (h : forall n s, ¬ Runs w n s) (command : String) :
    exists f w',
      requireRunning command w = .error f w' ∧
        (f = notRunning command w'.client.state ∨ Unseen w f) := by
  have hasked := asked_isRunning hapart
  cases hrun : isRunning w with
  | ok running w' =>
      have hstopped : running = false := by
        rw [hrun] at hasked
        cases hasked with
        | none hs => rfl
        | idle hs hidle => rfl
        | exited hwatched hdead hwanes hclose => rfl
        | missing hs hi hmissing =>
            -- No run leads to a session in use whose engine was never started.
            have hlt := hnumbered _ _ hs hi
            rw [List.getElem?_eq_getElem hlt] at hmissing
            cases hmissing
        | alive hwatched halive =>
            rcases Client.session?_eq_some_iff.mp hwatched.session with ⟨n, hn, _⟩
            exact absurd ⟨hn, _, _, hwatched, halive⟩ (h n _)
      rw [hstopped] at hrun
      exact ⟨_, w', requireRunning_of_stopped hrun command, Or.inl rfl⟩
  | error f w' =>
      rw [hrun] at hasked
      cases hasked with
      | fault hunseen =>
          refine ⟨f, w, ?_, Or.inr hunseen⟩
          unfold requireRunning
          exact bind_run_of_error hrun

end Session
/-!
## Sending
-/

namespace Dispatch

open Act

theorem tally_after_call {w : World} (hapart : w.IsApart) (s : Session) (c : Command)
    (args : List Value) :
    ((Transport.call s c.name args).after w).tally = w.tally.requested c args := by
  have hnoted : ((noteRequest c.name args).after w).IsApart := hapart.of_eq rfl rfl
  have houtside := (Transport.outside_call s c.name args w hnoted).2
  rw [World.tally_of_outside houtside]
  rfl

theorem client_after_call {w : World} (hapart : w.IsApart) (s : Session) (c : Command)
    (args : List Value) : ((Transport.call s c.name args).after w).client = w.client := by
  have hnoted : ((noteRequest c.name args).after w).IsApart := hapart.of_eq rfl rfl
  have houtside := (Transport.outside_call s c.name args w hnoted).2
  rw [houtside.client]
  rfl

theorem tally_after_settle (c : Command) (n : Nat) (s : Session) (args : List Value)
    (w : World) :
    ((settle c n s args).after w).tally.offEditor =
      w.tally.settled n (targets? c s args) w.client.follows := by
  unfold settle
  rw [after_bind_of_ok (rfl : mapSession n _ w = .ok () _)]
  rw [part_after_bind (fun v => v.tally.offEditor) _ fun _ => .pure _]
  rw [Editor.part_after_maybeSync (fun v => v.tally.offEditor) fun _ => rfl]
  have hgenerations :=
    map_modify (g := fun s : Session => s.generation)
      (f := fun s => { s with generation := s.generation + 1 }) (k := (· + 1))
      (fun _ => rfl) n w.client.sessions
  simp only [World.tally, World.synced, Client.mapSession, Tally.offEditor, Tally.settled,
    hgenerations]
  rfl

theorem tally_record (logger : String) (level : Log.Level) (event : String) (fields : Table) :
    (record logger level event fields).Moves (Agree World.tally) :=
  fun _ => rfl

/-- A command that changes no files gives its answer and counts nothing. -/
theorem send_of_reading {c : Command} {n : Nat} {s : Session} {args : List Value}
    {w w₁ : World} {v : Value} (h : Transport.call s c.name args w = .ok v w₁)
    (hreading : c.mutating = false) :
    exists w', send c n s args w = .ok v w' ∧ w'.tally = w₁.tally := by
  unfold send
  rw [bind_run_of_ok h, hreading]
  exact ⟨_, rfl, tally_record _ _ _ _ _⟩

theorem tally_after_send_of_mutating {c : Command} {n : Nat} {s : Session}
    {args : List Value} {w w₁ : World} {v : Value}
    (h : Transport.call s c.name args w = .ok v w₁) (hmutating : c.mutating = true) :
    ((send c n s args).after w).tally.offEditor =
      w₁.tally.settled n (targets? c s args) w₁.client.follows := by
  unfold send
  rw [after_bind_of_ok h, hmutating, if_pos rfl]
  rw [part_after_bind (fun v => v.tally.offEditor)]
  · exact tally_after_settle c n s args w₁
  · intro _
    have hrecord := tally_record logger .debug "dispatched" [("method", .text c.name)]
    refine .bind (hrecord.mono fun w w' hw => ?_) fun _ => .pure _
    exact congrArg Tally.offEditor hw

theorem dispatch_of_runs {w : World} (hapart : w.IsApart) {method : Value} {c : Command}
    {args : List Value} {n : Nat} {s : Session} (hfind : Command.find method = .ok c)
    (haccepts : c.Accepts args) (hruns : Session.Runs w n s) :
    exists w₁, w.Wanes w₁ ∧ dispatch method args w = send c n s args w₁ := by
  rcases Session.requireRunning_of_runs hapart hruns c.name with ⟨w₀, hrun, hwanes⟩
  have hs : w₀.client.sessions[n]? = some s := by
    rw [hwanes.client]
    exact hruns.session
  refine ⟨announced c args w₀, hwanes.trans (wanes_record _ _ _ _ _), ?_⟩
  rw [dispatch_of_fit hfind ((c.check_eq_ok_iff args).mpr haccepts), issue_of_running hrun hs]

end Dispatch

/-!
## Every dispatch
-/

open Act Session in
/-- In every reached world a dispatch keeps its accounts. A value that no command is named by,
or arguments that do not fit, are refused before anything else happens: with an error about
commands, unless the value cannot be shown in one. Without a running session the command is
refused, and nothing is counted. Over a running session the transport gets the command once,
with its arguments: a fault is passed on, and only the request is counted; an answer is given
back, and if the command changes files its session's generation grows by one and buffers are
asked to follow the files once. -/
theorem accounts_of_dispatch {admits : World → Move → Prop} {opened : List Nat} {w : World}
    (h : Reached admits opened w) (method : Value) (args : List Value) :
    ((forall c : Command, method.name? ≠ some c.name) ->
      exists f, Command.Unknown method f ∧ dispatch method args w = .error f w) ∧
    (forall c : Command, method.name? = some c.name -> ¬ c.Accepts args ->
      exists f, f.IsContract ∧ dispatch method args w = .error f w) ∧
    (forall c : Command, method.name? = some c.name -> c.Accepts args ->
      (forall n s, ¬ Runs w n s) ->
      exists f w',
        dispatch method args w = .error f w' ∧ w'.tally = w.tally ∧
          (f = notRunning c.name w'.client.state ∨ Unseen w f)) ∧
    (forall (c : Command) n s, method.name? = some c.name -> c.Accepts args -> Runs w n s ->
      exists w₁,
        w₁.client = w.client ∧ w₁.tally = w.tally ∧
        (forall f w', Transport.call s c.name args w₁ = .error f w' ->
          dispatch method args w = .error f w' ∧ w'.tally = w.tally.requested c args) ∧
        (forall v w₂, Transport.call s c.name args w₁ = .ok v w₂ ->
          (forall u w', dispatch method args w = .ok u w' -> u = v) ∧
          (c.mutating = false ->
            exists w',
              dispatch method args w = .ok v w' ∧ w'.tally = w.tally.requested c args) ∧
          (c.mutating = true ->
            ((dispatch method args).after w).tally.offEditor =
              (w.tally.requested c args).settled n (Dispatch.targets? c s args)
                w.client.follows))) := by
  have hapart := h.isApart
  refine ⟨?_, ?_, ?_, ?_⟩
  · intro hnameless
    cases hfind : Command.find method with
    | ok c => exact absurd (Command.find_eq_ok_iff.mp hfind) (hnameless c)
    | error f => exact ⟨f, Command.unknown_of_find hfind, dispatch_of_unknown hfind args w⟩
  · intro c hname hmisfit
    have hfind := Command.find_of_name hname
    cases hcheck : c.check args with
    | ok _ => exact absurd ((c.check_eq_ok_iff args).mp hcheck) hmisfit
    | error f =>
        exact ⟨f, Command.isContract_of_check hcheck, dispatch_of_misfit hfind hcheck w⟩
  · intro c hname haccepts hidle
    have hfind := Command.find_of_name hname
    rcases requireRunning_of_not_runs hapart (.of_reached h) hidle c.name with
      ⟨f, w', hrun, hfault⟩
    have hstill := (still_requireRunning c.name).of_error hrun
    refine ⟨f, w', ?_, World.tally_of_still hstill, hfault⟩
    rw [dispatch_of_fit hfind ((c.check_eq_ok_iff args).mpr haccepts)]
    exact Dispatch.issue_of_error hrun args
  · intro c n s hname haccepts hruns
    have hfind := Command.find_of_name hname
    rcases Dispatch.dispatch_of_runs hapart hfind haccepts hruns with ⟨w₁, hwanes, hsend⟩
    have hapart₁ := hapart.of_wanes hwanes
    have htally : w₁.tally = w.tally := World.tally_of_outside (.of_wanes hwanes)
    have hrequested := Dispatch.tally_after_call hapart₁ s c args
    have hclient := Dispatch.client_after_call hapart₁ s c args
    rw [htally] at hrequested
    rw [hwanes.client] at hclient
    refine ⟨w₁, hwanes.client, htally, ?_, ?_⟩
    · intro f w' hcall
      rw [after_of_error hcall] at hrequested
      exact ⟨hsend.trans (Dispatch.send_of_error hcall), hrequested⟩
    · intro v w₂ hcall
      rw [after_of_ok hcall] at hrequested hclient
      refine ⟨?_, ?_, ?_⟩
      · intro u w' hdispatch
        rw [hsend] at hdispatch
        rcases Dispatch.send_eq_ok hdispatch with ⟨_, hanswer⟩
        rw [hcall] at hanswer
        cases hanswer
        rfl
      · intro hreading
        rcases Dispatch.send_of_reading (n := n) hcall hreading with ⟨w', hrun, hsame⟩
        exact ⟨w', hsend.trans hrun, hsame.trans hrequested⟩
      · intro hmutating
        have hsettled := Dispatch.tally_after_send_of_mutating (n := n) hcall hmutating
        rw [hrequested, hclient] at hsettled
        rw [after_of_run_eq hsend]
        exact hsettled

def longNumber : Int :=
  Nat.pow 10 Literal.maxIntegerDigits

theorem lt_length_toDigits_pow {count : Nat} (h : 0 < count) :
    count < (Nat.toDigits 10 (Nat.pow 10 count : Int).natAbs).length := by
  have hbound := Nat.length_toDigits_le_iff (n := Nat.pow 10 count) (by decide : 1 < 10) h
  rw [Int.natAbs_natCast]
  exact Nat.lt_of_not_le fun hle => Nat.lt_irrefl _ (hbound.mp hle)

theorem isLong_longNumber : Literal.isLong longNumber = true :=
  decide_eq_true (lt_length_toDigits_pow (by decide))

/-- A value that is no command gets no error about commands if it is too long a number, and a
date and time that spells a command is dispatched as that command. -/
theorem dispatch_longNumber :
    Reached (fun _ _ => True) [0] firstSession ∧
      (exists f,
        dispatch (.int longNumber) [] firstSession = .error f firstSession ∧ ¬ f.IsContract) ∧
      dispatch (.stamp Command.undo.name) [] = dispatch (.text Command.undo.name) [] := by
  have hunshown : (Value.int longNumber).unshown? = some .longInteger := by
    show Value.unshownInteger? longNumber = _
    rw [Value.unshownInteger?, if_pos isLong_longNumber]
  have hfind : Command.find (.int longNumber) = .error (.unshown .longInteger) := by
    simp only [Command.find, Value.name?, Option.bind_none, hunshown]
  refine ⟨reached_firstSession trivial, ⟨_, dispatch_of_unknown hfind [] _, ?_⟩, ?_⟩
  · rintro ⟨command, detail, hcontract⟩
    cases hcontract
  · have hstamp : Command.find (.stamp Command.undo.name) = .ok .undo := Command.find_of_name rfl
    unfold dispatch
    rw [Command.find_name, hstamp]

theorem undo_of_first_session :
    Reached (fun _ _ => True) [0] firstSession ∧
      exists s,
        Session.Runs firstSession 0 s ∧
          ((dispatch (.text Command.undo.name) []).after firstSession).tally.requests =
            [(Command.undo.name, [])] := by
  have hreached : Reached (fun _ _ => True) [0] firstSession := reached_firstSession trivial
  have hwatched := Session.Watched.mk (w := firstSession) rfl rfl rfl engines_firstSession rfl
  have hruns : Session.Runs firstSession 0 _ := ⟨rfl, 0, firstEngine, hwatched, rfl⟩
  rcases accounts_of_dispatch hreached (.text Command.undo.name) [] with ⟨_, _, _, hissued⟩
  rcases hissued .undo 0 _ rfl
    ((Command.undo.check_eq_ok_iff []).mp rfl) hruns with ⟨w₁, _, _, hfault, hanswer⟩
  refine ⟨hreached, _, hruns, ?_⟩
  cases hcall : Transport.call _ Command.undo.name [] w₁ with
  | error f w' =>
      rcases hfault f w' hcall with ⟨hrun, htally⟩
      rw [Act.after_of_error hrun, htally]
      rfl
  | ok v w₂ =>
      have hsettled := (hanswer v w₂ hcall).2.2 rfl
      have hrequests := congrArg Tally.requests hsettled
      exact hrequests

end EngineClient
