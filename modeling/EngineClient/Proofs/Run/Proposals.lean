import EngineClient.Proofs.Shell.Requests

/-!
# Asking for proposals

Proposals are asked for with a text: the one that is given, or else that of the buffer of the
file, or else that on the disk. An empty text is a text. The engine gets one request with the
text, the position and the path as it was spelled, or it gets none because there is no text to
send or no session to send it over. Main statement: `tally_after_codeAssist`.
-/

namespace EngineClient

open Act

/-!
## Texts
-/

theorem Disk.readText_eq_ok_iff {d : Disk} {p : Path} {text : String} :
    d.readText p = .ok text ↔
      exists content cs,
        d.readOctets p = .ok content ∧ Text.Utf8.decode content = .ok cs ∧
          text = String.ofList (Text.unifyLineEnds cs) := by
  unfold Disk.readText
  constructor
  · intro h
    cases hread : d.readOctets p with
    | error f =>
        rw [hread] at h
        cases h
    | ok content =>
        rw [hread] at h
        change Disk.decodeFile content = .ok text at h
        unfold Disk.decodeFile at h
        cases hdecode : Text.Utf8.decode content with
        | error e =>
            rw [hdecode] at h
            cases h
        | ok cs =>
            rw [hdecode] at h
            cases h
            exact ⟨content, cs, rfl, hdecode, rfl⟩
  · rintro ⟨content, cs, hread, hdecode, rfl⟩
    rw [hread]
    change Disk.decodeFile content = _
    simp only [Disk.decodeFile, hdecode]

namespace Operations

variable {w w₁ : World} {n : Nat} {s : Session}

/-- No buffer holds a text for a path: there is no editor, or it has no file open under the key
of the path. -/
inductive Unbuffered (w : World) (p : Path) : Prop where
  | detached (h : w.client.editor? = none)
  | closed {b : Buffers} {k : String} (hb : w.client.editor? = some b)
      (hk : Buffers.key w.disk p.text = .ok k) (hclosed : b.get? k = none)

/-- The text that proposals are asked for with: the given one, or else that of the buffer under
the key of the file, or else what the file on the disk holds. -/
inductive Supplies (w : World) (p : Path) : Option String → String → Prop where
  | given (text : String) : Supplies w p (some text) text
  | buffer {b : Buffers} {k text : String} (hb : w.client.editor? = some b)
      (hk : Buffers.key w.disk p.text = .ok k) (htext : b.get? k = some text) :
      Supplies w p none text
  | file {content : List UInt8} {cs : List Char} (h : Unbuffered w p)
      (hread : w.disk.readOctets p = .ok content)
      (hdecode : Text.Utf8.decode content = .ok cs) :
      Supplies w p none (String.ofList (Text.unifyLineEnds cs))

theorem sourceOf_of_unbuffered {p : Path} (h : Unbuffered w p) :
    Shell.sourceOf w.client.editor? w.disk p = w.disk.readText p := by
  cases h with
  | detached hnone => simp only [Shell.sourceOf, hnone]
  | closed hb hk hclosed => simp only [Shell.sourceOf, hb, Buffers.text?, hk, Except.map, hclosed]

theorem supplies_none_iff {p : Path} {text : String} :
    Supplies w p none text ↔ Shell.sourceOf w.client.editor? w.disk p = .ok text := by
  constructor
  · intro h
    cases h with
    | buffer hb hk htext => simp only [Shell.sourceOf, hb, Buffers.text?, hk, Except.map, htext]
    | file hnone hread hdecode =>
        rw [sourceOf_of_unbuffered hnone]
        exact Disk.readText_eq_ok_iff.mpr ⟨_, _, hread, hdecode, rfl⟩
  · intro h
    have hfile : Unbuffered w p -> Supplies w p none text := by
      intro hnone
      rw [sourceOf_of_unbuffered hnone] at h
      rcases Disk.readText_eq_ok_iff.mp h with ⟨content, cs, hread, hdecode, rfl⟩
      exact .file hnone hread hdecode
    cases hb : w.client.editor? with
    | none => exact hfile (.detached hb)
    | some b =>
        cases hk : Buffers.key w.disk p.text with
        | error f =>
            simp only [Shell.sourceOf, hb, Buffers.text?, hk, Except.map] at h
            cases h
        | ok k =>
            cases htext : b.get? k with
            | none => exact hfile (.closed hb hk htext)
            | some t =>
                simp only [Shell.sourceOf, hb, Buffers.text?, hk, Except.map, htext] at h
                cases h
                exact .buffer hb hk htext

/-!
## Settling the arguments

The engine is looked at first; no look changes the text.
-/

abbrev proposals (path : String) (position : Int) (text? : Option String) : Query :=
  .proposals path (.int position) (.ofText? text?)

def proposalValues (path : String) (position : Int) (text : String) : List Value :=
  [.text text, .int position, .text path]

theorem request_proposals (hapart : w.IsApart) (hruns : Session.Runs w n s) (path : String)
    (position : Int) (text? : Option String) :
    w.Wanes (Session.isRunning.after w) ∧
      (forall text, Supplies w (s.directory / Path.ofText path) text? text ->
        (proposals path position text?).request w =
          .ok (proposalValues path position text) (Session.isRunning.after w)) ∧
      ((forall text, ¬ Supplies w (s.directory / Path.ofText path) text? text) ->
        exists f, (proposals path position text?).request w =
          .error f (Session.isRunning.after w)) := by
  rcases root_of_runs hapart hruns Command.codeAssist.name with ⟨w₁, hroot, hwanes⟩
  have hlooked : Session.isRunning.after w = w₁ := by
    rw [← Shell.after_root Command.codeAssist.name, after_of_ok hroot]
  have hdisk : w₁.disk = w.disk := hwanes.factor World.disk fun _ => rfl
  rw [hlooked]
  refine ⟨hwanes, ?_⟩
  cases text? with
  | some t =>
      have hrequest : (proposals path position (some t)).request w =
          .ok (proposalValues path position t) w₁ := by
        simp only [Query.request, Value.ofText?]
        rw [bind_run_of_ok hroot]
        rfl
      constructor
      · intro text hsupplies
        cases hsupplies
        exact hrequest
      · intro hnone
        exact absurd (.given t) (hnone t)
  | none =>
      have hrequest : (proposals path position none).request w =
          (sourceText (s.directory / Path.ofText path) >>= fun text =>
            (pure (proposalValues path position text) : Act (List Value))) w₁ := by
        simp only [Query.request, Value.ofText?]
        rw [bind_run_of_ok hroot]
        simp only [pure_bind]
        rfl
      have hsource : sourceText (s.directory / Path.ofText path) w₁ =
          Act.ofExcept (Shell.sourceOf w.client.editor? w.disk (s.directory / Path.ofText path))
            w₁ := by
        rw [Shell.sourceText_run, hwanes.client, hdisk]
      rw [hrequest]
      constructor
      · intro text hsupplies
        rw [supplies_none_iff.mp hsupplies] at hsource
        exact bind_run_of_ok hsource
      · intro hnone
        cases hof : Shell.sourceOf w.client.editor? w.disk (s.directory / Path.ofText path) with
        | ok text => exact absurd (supplies_none_iff.mpr hof) (hnone text)
        | error f =>
            rw [hof] at hsource
            exact ⟨f, bind_run_of_error hsource⟩

/-!
## Refusals
-/

theorem refused_of_not_runs (hapart : w.IsApart) (hnumbered : w.IsNumbered)
    (hidle : forall n s, ¬ Session.Runs w n s) (command : String) :
    exists f w', Session.requireRunning command w = .error f w' ∧ w'.tally = w.tally := by
  rcases Session.requireRunning_of_not_runs hapart hnumbered hidle command with ⟨f, w', hrun, _⟩
  exact ⟨f, w', hrun, World.tally_of_still ((Session.still_requireRunning command).of_error hrun)⟩

theorem codeAssist_of_not_runs (hapart : w.IsApart) (hnumbered : w.IsNumbered)
    (hidle : forall n s, ¬ Session.Runs w n s) (path : String) (position text : Value) :
    exists f w', codeAssist path position text w = .error f w' ∧ w'.tally = w.tally := by
  rcases refused_of_not_runs hapart hnumbered hidle Command.codeAssist.name with
    ⟨f, w', hrun, htally⟩
  have hroot : root Command.codeAssist.name w = .error f w' := bind_run_of_error hrun
  exact ⟨f, w', bind_run_of_error hroot, htally⟩

/-- A session that does not run any more is not replaced by another. -/
theorem not_runs_of_client (hruns : Session.Runs w n s) (hclient : w₁.client = w.client)
    (hdied : ¬ Session.Runs w₁ n s) : forall m t, ¬ Session.Runs w₁ m t := by
  intro m t hother
  have hm : m = n := by
    have hcurrent := hother.1
    rw [hclient, hruns.1] at hcurrent
    exact (Option.some.inj hcurrent).symm
  subst hm
  have ht : s = t := by
    have hsession := hother.session
    rw [hclient, hruns.session] at hsession
    exact Option.some.inj hsession
  subst ht
  exact hdied hother

/-!
## Sending
-/

theorem tally_after_send (hapart : w.IsApart) {c : Command} (hreading : c.mutating = false)
    (n : Nat) (s : Session) (args : List Value) :
    ((Dispatch.send c n s args).after w).tally = w.tally.requested c args := by
  have hcalled := Dispatch.tally_after_call hapart s c args
  cases hcall : Transport.call s c.name args w with
  | error f w' =>
      rw [after_of_error hcall] at hcalled
      rw [after_of_error (Dispatch.send_of_error hcall), hcalled]
  | ok v w' =>
      rw [after_of_ok hcall] at hcalled
      rcases Dispatch.send_of_reading (n := n) hcall hreading with ⟨w'', hrun, hsame⟩
      rw [after_of_ok hrun, hsame, hcalled]

theorem codeAssist_of_request {path : String} {position : Int} {text? : Option String}
    {values : List Value} (h : (proposals path position text?).request w = .ok values w₁) :
    codeAssist path (.int position) (.ofText? text?) w =
      (Command.codeAssist.send values >>= (proposals path position text?).decode) w₁ := by
  have hrun := congrFun (proposals path position text?).run_eq w
  rw [bind_run_of_ok h] at hrun
  exact hrun

theorem accepts_proposalValues (path : String) (position : Int) (text : String) :
    Command.codeAssist.Accepts (proposalValues path position text) :=
  (Command.check_eq_ok_iff _ _).mp rfl

theorem tally_of_sent (hapart : w₁.IsApart) (hruns : Session.Runs w₁ n s) {path text : String}
    {position : Int} {text? : Option String}
    (h : (proposals path position text?).request w =
      .ok (proposalValues path position text) w₁) :
    ((codeAssist path (.int position) (.ofText? text?)).after w).tally =
      w₁.tally.requested .codeAssist (proposalValues path position text) := by
  rcases Dispatch.dispatch_of_runs hapart (Command.find_name .codeAssist)
    (accepts_proposalValues path position text) hruns with ⟨w₂, hwanes, hsend⟩
  have hdecode : forall answer v,
      ((proposals path position text?).decode answer).after v = v := fun _ v =>
    after_ofExcept _ v
  rw [after_of_run_eq (codeAssist_of_request h), after_bind_of_idle hdecode]
  unfold Command.send
  rw [after_of_run_eq hsend, tally_after_send (hapart.of_wanes hwanes) rfl,
    World.tally_of_outside (.of_wanes hwanes)]

theorem refused_of_stopped (hapart : w₁.IsApart) (hnumbered : w₁.IsNumbered)
    (hidle : forall n s, ¬ Session.Runs w₁ n s) {path text : String} {position : Int}
    {text? : Option String}
    (h : (proposals path position text?).request w =
      .ok (proposalValues path position text) w₁) :
    exists f w', codeAssist path (.int position) (.ofText? text?) w = .error f w' ∧
      w'.tally = w₁.tally := by
  rcases refused_of_not_runs hapart hnumbered hidle Command.codeAssist.name with
    ⟨f, w', hrun, htally⟩
  have hcheck := (Command.check_eq_ok_iff _ _).mpr (accepts_proposalValues path position text)
  have hsend : Command.codeAssist.send (proposalValues path position text) w₁ = .error f w' := by
    unfold Command.send
    rw [dispatch_of_fit (Command.find_name .codeAssist) hcheck]
    exact Dispatch.issue_of_error hrun _
  refine ⟨f, w', ?_, htally⟩
  rw [codeAssist_of_request h]
  exact bind_run_of_error hsend

/-!
## Main statement
-/

/-- In every reached world, asking for proposals makes one request or none. Over a session that
runs, and still runs when the text is found, the engine gets the text, the position and the path
as it was spelled. If no session runs or there is no text, asking fails and nothing is
requested. Whatever comes of it, generations, synchronisations and buffers stay as they are. -/
theorem tally_after_codeAssist {admits : World → Move → Prop} {opened : List Nat}
    (h : Reached admits opened w) (path : String) (position : Int) (text? : Option String) :
    ((forall n s, ¬ Session.Runs w n s) ->
      exists f w', codeAssist path (.int position) (.ofText? text?) w = .error f w' ∧
        w'.tally = w.tally) ∧
    forall n s, Session.Runs w n s ->
      (forall text, Supplies w (s.directory / Path.ofText path) text? text ->
        (Session.Runs (Session.isRunning.after w) n s ->
          ((codeAssist path (.int position) (.ofText? text?)).after w).tally =
            w.tally.requested .codeAssist [.text text, .int position, .text path]) ∧
        (¬ Session.Runs (Session.isRunning.after w) n s ->
          exists f w', codeAssist path (.int position) (.ofText? text?) w = .error f w' ∧
            w'.tally = w.tally)) ∧
      ((forall text, ¬ Supplies w (s.directory / Path.ofText path) text? text) ->
        exists f w', codeAssist path (.int position) (.ofText? text?) w = .error f w' ∧
          w'.tally = w.tally) := by
  have hapart := h.isApart
  have hnumbered := World.IsNumbered.of_reached h
  refine ⟨fun hidle => codeAssist_of_not_runs hapart hnumbered hidle path _ _, ?_⟩
  intro n s hruns
  rcases request_proposals hapart hruns path position text? with ⟨hwanes, hsupplied, htextless⟩
  have htally : (Session.isRunning.after w).tally = w.tally :=
    World.tally_of_outside (.of_wanes hwanes)
  have hcalm := Session.calm_isRunning w hapart
  constructor
  · intro text hsupplies
    have hrequest := hsupplied text hsupplies
    constructor
    · intro hstays
      rw [tally_of_sent hcalm.1 hstays hrequest, htally]
      rfl
    · intro hdied
      rw [← htally]
      exact refused_of_stopped hcalm.1 (hnumbered.calm hcalm.2)
        (not_runs_of_client hruns hwanes.client hdied) hrequest
  · intro hnone
    rcases htextless hnone with ⟨f, hrequest⟩
    refine ⟨f, _, ?_, htally⟩
    have hrun := congrFun (proposals path position text?).run_eq w
    rw [bind_run_of_error hrequest] at hrun
    exact hrun

theorem reached_openedFirst (d : Disk) (follows : Bool) :
    Reached (fun _ _ => True) [0] (openedFirst d follows) := by
  have hreached : Reached (fun _ _ => True) [0] firstSession := reached_firstSession trivial
  apply hreached.elsewhere
  constructor
  · rfl
  · exact List.forall₂_refl firstSession.engines
  · rfl
  · exact isApart_openedFirst d follows

/-- The text of the buffer is sent although the file holds another, and an empty text is sent
although there is a buffer. -/
theorem requests_openedFirst :
    ((codeAssist "a.py" (.int 5) .null).after
        (openedFirst .rewritten false)).tally.requests =
      [("code_assist", [.text "old", .int 5, .text "a.py"])] ∧
    ((codeAssist "a.py" (.int 5) (.text "")).after
        (openedFirst .rewritten false)).tally.requests =
      [("code_assist", [.text "", .int 5, .text "a.py"])] := by
  have hreached := reached_openedFirst .rewritten false
  have hwatched := Session.Watched.mk (w := openedFirst .rewritten false) rfl rfl rfl
    engines_firstSession rfl
  have hruns : Session.Runs (openedFirst .rewritten false) 0 _ :=
    ⟨rfl, 0, firstEngine, hwatched, rfl⟩
  have hlooked : (Session.isRunning.after (openedFirst .rewritten false)).engines[0]? =
      some firstEngine.look := rfl
  have hstays : Session.Runs (Session.isRunning.after (openedFirst .rewritten false)) 0 _ :=
    ⟨rfl, 0, _, Session.Watched.mk rfl rfl rfl hlooked rfl, rfl⟩
  constructor
  · have hbuffer : Supplies (openedFirst .rewritten false) (Path.ofText "/" / Path.ofText "a.py")
        none "old" := by
      refine .buffer rfl ?_ (rfl : oldBuffers.get? "/a.py" = some "old")
      exact Buffers.key_a rfl
    have hsent := ((tally_after_codeAssist hreached "a.py" 5 none).2 0 _ hruns).1 "old" hbuffer
    exact congrArg Tally.requests (hsent.1 hstays)
  · have hsent :=
      ((tally_after_codeAssist hreached "a.py" 5 (some "")).2 0 _ hruns).1 "" (.given "")
    exact congrArg Tally.requests (hsent.1 hstays)

end Operations
end EngineClient
