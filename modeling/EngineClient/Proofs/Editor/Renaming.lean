import EngineClient.Proofs.Disk.Entries
import EngineClient.Proofs.Dispatch.Accounting
import EngineClient.Proofs.Editor.Following

/-!
# The editor around a rename of the current file

A rename of the current file takes steps, and each of them can be the last: the request and the
turn that follows it, the name of the new place, closing the buffer of the old one, reading the
file at the new one. What the editor shows at the end of each is told apart. Main statement:
`ends_renameCurrentFile`.
-/

namespace EngineClient
namespace Buffers

variable {d : Disk} {b b' : Buffers} {k j text : String}

/-!
## Buffers on the way
-/

def followed (follows : Bool) (d : Disk) (b : Buffers) (path : String) : Except Fault Buffers :=
  if follows then (revert d b path).map (·.buffers) else .ok b

/-- The file under a key is shown as it is on the disk, and nothing in it is unsaved. The buffer
of the file under another key is closed, and all others are the same. -/
structure Turns (d : Disk) (k j : String) (b b' : Buffers) : Prop where
  current : b'.current? = some j
  text : exists text, d.readText (Path.ofText j) = .ok text ∧ b'.get? j = some text
  unmarked : b'.isMarked j = false
  closed : k ≠ j -> b'.get? k = none ∧ b'.isMarked k = false
  beside : forall i, i ≠ k -> i ≠ j -> b'.get? i = b.get? i ∧ b'.isMarked i = b.isMarked i

theorem turns_load_drop (hread : d.readText (Path.ofText j) = .ok text) (b : Buffers)
    (k : String) : Turns d k j b ((b.drop k).load j text) where
  current := rfl
  text := ⟨text, hread, get?_setText_self j text _⟩
  unmarked := by simp [isMarked, load, unmark]
  closed hne := by
    constructor
    · exact (get?_setText_of_ne hne text _).trans (get?_drop_self b k)
    · refine (contains_filter_of_ne hne _).trans ?_
      simp [drop, withText]
  beside i hk hj := by
    constructor
    · exact (get?_setText_of_ne hj text _).trans (get?_drop_of_ne b hk)
    · exact (contains_filter_of_ne hj _).trans (contains_filter_of_ne hk b.modified)

theorem openFile_eq_error {path : String} {f : Fault}
    (h : openFile d b path = .error f) :
    key d path = .error f ∨
      exists j, key d path = .ok j ∧ d.readText (Path.ofText j) = .error f := by
  cases hkey : key d path with
  | error g =>
      simp only [openFile, hkey, bind, Except.bind] at h
      cases h
      exact Or.inl rfl
  | ok j =>
      cases hread : d.readText (Path.ofText j) with
      | error g =>
          simp only [openFile, hkey, hread, bind, Except.bind] at h
          cases h
          exact Or.inr ⟨j, rfl, hread⟩
      | ok text =>
          rw [openFile_of_ok hkey hread] at h
          cases h

end Buffers

namespace Dispatch

open Act

theorem send_of_named {c : Command} {n : Nat} {s : Session} {args : List Value} {w w₁ : World}
    {v : Value} {b : Buffers} {target : String}
    (hcall : Transport.call s c.name args w = .ok v w₁) (hmutating : c.mutating = true)
    (htarget : targets? c s args = some [target]) (hb : w₁.client.editor? = some b) :
    exists w', w'.disk = w₁.disk ∧
      match Buffers.followed w₁.client.follows w₁.disk b target with
      | .ok b' => w'.client.editor? = some b' ∧ send c n s args w = .ok v w'
      | .error f => w'.client.editor? = some b ∧ send c n s args w = .error f w' := by
  let counted := (mapSession n fun s => { s with generation := s.generation + 1 }).after w₁
  cases hfollows : w₁.client.follows with
  | false =>
      have hidle : Editor.Leaves (Editor.maybeSync (targets? c s args)) counted w₁.desk none :=
        Editor.maybeSync_of_idle (w := counted) hfollows _
      rcases leaves_send (n := n) hcall hmutating hidle with ⟨w', hdesk, hrun⟩
      refine ⟨w', congrArg Prod.fst hdesk, ?_, hrun⟩
      exact (congrArg Prod.snd hdesk).trans hb
  | true =>
      cases hrevert : Buffers.revert w₁.disk b target with
      | error f =>
          have hstopped : Editor.Leaves (Editor.maybeSync (targets? c s args)) counted
              (w₁.disk, some b) (some f) := by
            refine Editor.leaves_maybeSync (w := counted) hb hfollows _ ?_
            rw [htarget]
            exact .stopped hrevert
          rcases leaves_send (n := n) hcall hmutating hstopped with ⟨w', hdesk, hrun⟩
          refine ⟨w', congrArg Prod.fst hdesk, ?_⟩
          rw [Buffers.followed, if_pos rfl, hrevert]
          exact ⟨congrArg Prod.snd hdesk, hrun⟩
      | ok r =>
          have htried : Editor.Leaves (Editor.maybeSync (targets? c s args)) counted
              (w₁.disk, some r.buffers) none := by
            refine Editor.leaves_maybeSync (w := counted) hb hfollows _ ?_
            rw [htarget]
            exact .tried hrevert (.done _)
          rcases leaves_send (n := n) hcall hmutating htried with ⟨w', hdesk, hrun⟩
          refine ⟨w', congrArg Prod.fst hdesk, ?_⟩
          rw [Buffers.followed, if_pos rfl, hrevert]
          exact ⟨congrArg Prod.snd hdesk, hrun⟩

theorem requests_after_send {c : Command} {n : Nat} {s : Session} {args : List Value}
    {w w₁ : World} {v : Value} (hapart : w.IsApart)
    (hcall : Transport.call s c.name args w = .ok v w₁) (hmutating : c.mutating = true) :
    ((send c n s args).after w).trail.requests = w.trail.requests ++ [(c.name, args)] := by
  have hsettled := congrArg Tally.requests (tally_after_send_of_mutating (n := n) hcall hmutating)
  have hrequested := tally_after_call hapart s c args
  rw [after_of_ok hcall] at hrequested
  rw [hrequested] at hsettled
  exact hsettled

end Dispatch

namespace Operations

open Act

variable {newName current : String} {w w' : World} {b b' : Buffers}

/-!
## The request
-/

/-- The engine answered the one request to rename the current file, from a world with buffers to
one in which they followed that file. -/
structure Answered (newName current : String) (w w' : World) (b b' : Buffers) : Prop where
  editor : w.client.editor? = some b
  named : b.current? = some current
  requests : w'.trail.requests =
    w.trail.requests ++ [(Command.rename.name, [.text newName, .text current])]
  followed : exists n s w₁ w₂ v,
    Dispatch.Sent w .rename [.text newName, .text current] n s w₁ ∧
      Transport.call s Command.rename.name [.text newName, .text current] w₁ = .ok v w₂ ∧
      w₂.disk = w'.disk ∧
      Buffers.followed w.client.follows w'.disk b (s.directory / Path.ofText current).text =
        .ok b'

theorem Answered.of_eq {w'' : World} (h : Answered newName current w w' b b')
    (hdisk : w''.disk = w'.disk) (hrequests : w''.trail.requests = w'.trail.requests) :
    Answered newName current w w'' b b' where
  editor := h.editor
  named := h.named
  requests := hrequests.trans h.requests
  followed := by
    rw [hdisk]
    exact h.followed

/-- The ways in which a request to rename the current file can go: the buffers are as they were,
or it was answered and they are what that left. -/
inductive Requested (newName current : String) (w : World) (b : Buffers) :
    EStateM.Result Fault World Value → Prop where
  | refused {f : Fault} {w' : World} (heditor : w'.client.editor? = some b) :
      Requested newName current w b (.error f w')
  | answered {v : Value} {w' : World} {b' : Buffers} (heditor : w'.client.editor? = some b')
      (h : Answered newName current w w' b b') : Requested newName current w b (.ok v w')

theorem requested_of_sent {n : Nat} {s : Session} {w₁ : World} (hapart : w.IsApart)
    (hb : w.client.editor? = some b) (hnamed : b.current? = some current)
    (hsent : Dispatch.Sent w .rename [.text newName, .text current] n s w₁) :
    Requested newName current w b
      (Dispatch.send .rename n s [.text newName, .text current] w₁) := by
  have hapart₁ := hsent.isApart hapart
  have hclient := Dispatch.client_after_call hapart₁ s .rename [.text newName, .text current]
  have heditor : w₁.client.editor? = some b :=
    (congrArg Prod.snd (World.desk_of_still hsent.still)).trans hb
  cases hcall : Transport.call s Command.rename.name [.text newName, .text current] w₁ with
  | error f w₂ =>
      rw [after_of_error hcall] at hclient
      rw [Dispatch.send_of_error hcall]
      exact .refused ((congrArg (·.editor?) hclient).trans heditor)
  | ok v w₂ =>
      rw [after_of_ok hcall] at hclient
      have hb₂ : w₂.client.editor? = some b := (congrArg (·.editor?) hclient).trans heditor
      have hfollows : w₂.client.follows = w.client.follows := by
        rw [hclient]
        exact hsent.still.factor (fun v => v.client.follows) fun _ => rfl
      have htrail : w₁.trail.requests = w.trail.requests :=
        hsent.still.factor (fun v => v.trail.requests) fun _ => rfl
      have hrequests := Dispatch.requests_after_send (n := n) hapart₁ hcall rfl
      rcases Dispatch.send_of_named (n := n) hcall rfl rfl hb₂ with ⟨w', hdisk, hsend⟩
      rw [hfollows, ← hdisk] at hsend
      cases hfollowed : Buffers.followed w.client.follows w'.disk b
          (s.directory / Path.ofText current).text with
      | error f =>
          rw [hfollowed] at hsend
          rw [hsend.2]
          exact .refused hsend.1
      | ok b' =>
          rw [hfollowed] at hsend
          rw [after_of_ok hsend.2, htrail] at hrequests
          rw [hsend.2]
          refine .answered hsend.1 ⟨hb, hnamed, hrequests, ?_⟩
          exact ⟨n, s, w₁, w₂, v, hsent, hcall, hdisk.symm, hfollowed⟩

theorem requested_of_current (hapart : w.IsApart)
    (hcurrent : w.client.editor?.bind (·.current?) = some current) (newName : String) :
    exists b, w.client.editor? = some b ∧
      Requested newName current w b (rename (.text newName) (.text current) .null w) := by
  rcases Option.bind_eq_some_iff.mp hcurrent with ⟨b, hb, hnamed⟩
  refine ⟨b, hb, ?_⟩
  change Requested newName current w b
    (Command.rename.send [.text newName, .text current] w)
  rcases Dispatch.sent_or_stopped w .rename [.text newName, .text current] with
    ⟨n, s, w₁, hsent⟩ | ⟨_, f, w₁, hrun, hstill⟩
  · rw [hsent.issued]
    exact requested_of_sent hapart hb hnamed hsent
  · rw [hrun]
    exact .refused ((congrArg Prod.snd (World.desk_of_still hstill)).trans hb)

theorem editor_of_refused {f : Fault} (hapart : w.IsApart)
    (hcurrent : w.client.editor?.bind (·.current?) = some current)
    (hrename : rename (.text newName) (.text current) .null w = .error f w') :
    w'.client.editor? = w.client.editor? := by
  rcases requested_of_current hapart hcurrent newName with ⟨b, hb, hrequested⟩
  rw [hrename] at hrequested
  cases hrequested with
  | refused heditor => exact heditor.trans hb.symm

theorem answered_of_ok {v : Value} (hapart : w.IsApart)
    (hcurrent : w.client.editor?.bind (·.current?) = some current)
    (hrename : rename (.text newName) (.text current) .null w = .ok v w') :
    exists b b', w'.client.editor? = some b' ∧ Answered newName current w w' b b' := by
  rcases requested_of_current hapart hcurrent newName with ⟨b, hb, hrequested⟩
  rw [hrename] at hrequested
  cases hrequested with
  | answered heditor h => exact ⟨b, _, heditor, h⟩

/-!
## The steps after it
-/

theorem requests_setBuffers (b : Buffers) :
    (Editor.setBuffers b).Moves (Agree fun v => v.trail.requests) :=
  fun _ => rfl

theorem requests_closeFile (path : String) :
    (Editor.closeFile path).Moves (Agree fun v => v.trail.requests) :=
  .bind .disk fun _ => .bind (.bind .client fun _ => .pure _) fun _ =>
    .bind (.ofExcept _) requests_setBuffers

theorem requests_openFile (path : String) :
    (Editor.openFile path).Moves (Agree fun v => v.trail.requests) :=
  .bind .disk fun _ => .bind (.bind .client fun _ => .pure _) fun _ =>
    .bind (.ofExcept _) requests_setBuffers

/-- Nothing that follows the request to rename the current file is another request. -/
theorem requests_after_renameCurrentFile
    (hcurrent : w.client.editor?.bind (·.current?) = some current) (newName : String) :
    ((renameCurrentFile newName).after w).trail.requests =
      ((rename (.text newName) (.text current) .null).after w).trail.requests := by
  rw [after_of_run_eq (renameCurrentFile_of_current hcurrent)]
  refine part_after_bind (fun v => v.trail.requests) _ (fun _ => ?_) w
  refine .bind (.ofExcept _) fun p => ?_
  refine .bind (requests_closeFile current) fun _ => ?_
  refine .bind (requests_openFile p.text) fun _ => ?_
  exact .bind (fun _ => rfl) fun _ => .pure _

theorem rename_of_followed {n : Nat} {s : Session} {w₁ w₂ : World} {v : Value}
    (hsent : Dispatch.Sent w .rename [.text newName, .text current] n s w₁)
    (hcall : Transport.call s Command.rename.name [.text newName, .text current] w₁ = .ok v w₂)
    (hb : w₂.client.editor? = some b)
    (h : Buffers.followed w₂.client.follows w₂.disk b
      (s.directory / Path.ofText current).text = .ok b') :
    exists w', rename (.text newName) (.text current) .null w = .ok v w' ∧ w'.disk = w₂.disk ∧
      w'.client.editor? = some b' := by
  rcases Dispatch.send_of_named (n := n) hcall rfl rfl hb with ⟨w', hsame, hsend⟩
  rw [h] at hsend
  exact ⟨w', hsent.issued.trans hsend.2, hsame, hsend.1⟩

theorem renameCurrentFile_of_opened {k : String} {v : Value} {p : Path} {b'' : Buffers}
    (hcurrent : w.client.editor?.bind (·.current?) = some current)
    (hrename : rename (.text newName) (.text current) .null w = .ok v w')
    (hplace : (Path.ofText current).renamed newName = .ok p) (hb : w'.client.editor? = some b')
    (hkey : Buffers.key w'.disk current = .ok k)
    (hopen : Buffers.openFile w'.disk (b'.drop k) p.text = .ok b'') :
    exists w'', renameCurrentFile newName w = .ok p.text w'' ∧ w''.desk = (w'.disk, some b'') := by
  have hrun := renameCurrentFile_of_renamed hcurrent hrename hplace hkey
  rw [hb, Option.getD_some, bind_run_of_ok (Editor.openFile_of_ok hopen)] at hrun
  exact ⟨_, hrun, rfl⟩

inductive Ends (newName : String) (w : World) : EStateM.Result Fault World String → Prop where
  /-- The buffers are as they were. -/
  | untouched {f : Fault} {w' : World} (heditor : w'.client.editor? = w.client.editor?) :
      Ends newName w (.error f w')
  /-- The request was answered, and then the new place has no name or the old one no key. -/
  | misplaced {current : String} {f : Fault} {w' : World} {b b' : Buffers}
      (h : Answered newName current w w' b b')
      (hplace : (Path.ofText current).renamed newName = .error f ∨
        Buffers.key w'.disk current = .error f)
      (heditor : w'.client.editor? = some b') : Ends newName w (.error f w')
  /-- The request was answered, the buffer of the old file was closed, and then the file at the
  new place cannot be read. -/
  | closed {current k path : String} {f : Fault} {w' : World} {b b' : Buffers}
      (h : Answered newName current w w' b b')
      (hplace : ((Path.ofText current).renamed newName).map Path.text = .ok path)
      (hkey : Buffers.key w'.disk current = .ok k)
      (hunread : Buffers.key w'.disk path = .error f ∨
        exists j, Buffers.key w'.disk path = .ok j ∧
          w'.disk.readText (Path.ofText j) = .error f)
      (heditor : w'.client.editor? = some (b'.drop k)) : Ends newName w (.error f w')
  /-- The request was answered, and the editor turned to the file at the new place. -/
  | moved {current k j path : String} {w' : World} {b b' b'' : Buffers}
      (h : Answered newName current w w' b b')
      (hplace : ((Path.ofText current).renamed newName).map Path.text = .ok path)
      (hkey : Buffers.key w'.disk current = .ok k) (hnew : Buffers.key w'.disk path = .ok j)
      (heditor : w'.client.editor? = some b'') (hturns : Buffers.Turns w'.disk k j b' b'') :
      Ends newName w (.ok path w')

end Operations

/-!
## Three files
-/

namespace Disk

def rewritten : Disk :=
  { bare with nodes := [(["a.py"], .file [110, 101, 119])] }

/-- A disk with a link to nothing where a file was, and another file beside it. -/
def relinked : Disk :=
  { bare with nodes := [(["a.py"], .link "c.py"), (["b.py"], .file [116])] }

theorem isEntry_a : IsEntry "a.py" :=
  ⟨⟨rfl, by simp, by simp⟩, by decide, rfl⟩

theorem isEntry_b : IsEntry "b.py" :=
  ⟨⟨rfl, by simp, by simp⟩, by decide, rfl⟩

theorem isEntry_c : IsEntry "c.py" :=
  ⟨⟨rfl, by simp, by simp⟩, by decide, rfl⟩

theorem text_a : (⟨.single, ["a.py"]⟩ : Path).text = "/a.py" := rfl

theorem text_b : (⟨.single, ["b.py"]⟩ : Path).text = "/b.py" := rfl

theorem text_c : (⟨.single, ["c.py"]⟩ : Path).text = "/c.py" := rfl

end Disk

namespace Buffers

theorem key_relinked : key Disk.relinked "/a.py" = .ok "/c.py" := by
  have hkey := @key_link .relinked _ _ Disk.isEntry_a Disk.isEntry_c rfl rfl
  rwa [Disk.text_a, Disk.text_c] at hkey

theorem key_a {d : Disk} (h : d.linkTarget? ["a.py"] = none) : key d "/a.py" = .ok "/a.py" := by
  have hkey := key_name Disk.isEntry_a h
  rwa [Disk.text_a] at hkey

theorem key_b {d : Disk} (h : d.linkTarget? ["b.py"] = none) : key d "/b.py" = .ok "/b.py" := by
  have hkey := key_name Disk.isEntry_b h
  rwa [Disk.text_b] at hkey

theorem readText_a : Disk.rewritten.readText (Path.ofText "/a.py") = .ok "new" := by
  have hread := readText_name (d := .rewritten) Disk.isEntry_a rfl
  rwa [Disk.text_a] at hread

theorem readText_b : Disk.relinked.readText (Path.ofText "/b.py") = .ok "t" := by
  have hread := readText_name (d := .relinked) Disk.isEntry_b rfl
  rwa [Disk.text_b] at hread

theorem readText_missing : Disk.rewritten.readText (Path.ofText "/b.py") =
    .error (.os (DiskProblem.missing.error "/b.py")) := by
  have hread := readText_name (d := .rewritten) Disk.isEntry_b rfl
  rwa [Disk.text_b] at hread

end Buffers

namespace Operations

open Act

variable {w : World}

def oldBuffers : Buffers :=
  { texts := [("/a.py", "old")], current? := some "/a.py" }

def openedFirst (d : Disk) (follows : Bool) : World :=
  { firstSession with
    disk := d
    client := { firstSession.client with editor? := some oldBuffers, follows := follows } }

theorem isApart_openedFirst (d : Disk) (follows : Bool) : (openedFirst d follows).IsApart := by
  have hreached : Reached (fun _ _ => True) [0] firstSession := reached_firstSession trivial
  exact hreached.isApart.of_eq rfl rfl

theorem sent_openedFirst (d : Disk) (follows : Bool) (newName : String) :
    exists s w₁ w₂,
      Dispatch.Sent (openedFirst d follows) .rename [.text newName, .text "/a.py"] 0 s w₁ ∧
        s.directory = ⟨.single, []⟩ ∧
        Transport.call s Command.rename.name [.text newName, .text "/a.py"] w₁ = .ok .null w₂ ∧
        w₂.disk = d ∧ w₂.client.follows = follows ∧ w₂.client.editor? = some oldBuffers :=
  ⟨_, _, _, ⟨rfl, _, rfl, rfl, rfl⟩, rfl, rfl, rfl, rfl, rfl⟩

theorem rename_openedFirst {d : Disk} {follows : Bool} {b' : Buffers}
    (h : Buffers.followed follows d oldBuffers "/a.py" = .ok b') (newName : String) :
    exists w', rename (.text newName) (.text "/a.py") .null (openedFirst d follows) =
      .ok .null w' ∧ w'.disk = d ∧ w'.client.editor? = some b' := by
  have htext : ((⟨.single, []⟩ : Path) / Path.ofText "/a.py").text = "/a.py" := rfl
  rcases sent_openedFirst d follows newName with ⟨s, w₁, w₂, hsent, hs, hcall, hdisk, hfollows, hb⟩
  have hfollowed : Buffers.followed w₂.client.follows w₂.disk oldBuffers
      (s.directory / Path.ofText "/a.py").text = .ok b' := by
    rw [hs, htext, hfollows, hdisk]
    exact h
  rcases rename_of_followed hsent hcall hb hfollowed with ⟨w', hrename, hsame, hb'⟩
  exact ⟨w', hrename, hsame.trans hdisk, hb'⟩

theorem renamed_a : (Path.ofText "/a.py").renamed "b" = .ok ⟨.single, ["b.py"]⟩ ∧
    (Path.ofText "/a.py").renamed "b/c" = .error (.invalidName "b/c.py") :=
  ⟨rfl, rfl⟩

theorem renameCurrentFile_relinked :
    exists w', renameCurrentFile "b" (openedFirst .relinked false) = .ok "/b.py" w' ∧
      w'.desk = (Disk.relinked,
        some { texts := [("/a.py", "old"), ("/b.py", "t")], current? := some "/b.py" }) := by
  have hfollowed : Buffers.followed false .relinked oldBuffers "/a.py" = .ok oldBuffers := rfl
  rcases rename_openedFirst hfollowed "b" with ⟨w₁, hrename, hdisk, hb⟩
  have hkey : Buffers.key w₁.disk "/a.py" = .ok "/c.py" := by
    rw [hdisk]
    exact Buffers.key_relinked
  have hopen : Buffers.openFile w₁.disk (oldBuffers.drop "/c.py") "/b.py" =
      .ok ((oldBuffers.drop "/c.py").load "/b.py" "t") := by
    rw [hdisk]
    exact Buffers.openFile_of_ok (Buffers.key_b rfl) Buffers.readText_b
  rcases renameCurrentFile_of_opened rfl hrename renamed_a.1 hb hkey hopen with
    ⟨w', hrun, hdesk⟩
  refine ⟨w', hrun, ?_⟩
  rw [hdesk, hdisk]
  rfl

theorem renameCurrentFile_missing :
    exists f w', renameCurrentFile "b" (openedFirst .rewritten false) = .error f w' ∧
      w'.client.editor? = some {} := by
  have hfollowed : Buffers.followed false .rewritten oldBuffers "/a.py" = .ok oldBuffers := rfl
  rcases rename_openedFirst hfollowed "b" with ⟨w₁, hrename, hdisk, hb⟩
  have hkey : Buffers.key w₁.disk "/a.py" = .ok "/a.py" := by
    rw [hdisk]
    exact Buffers.key_a rfl
  have hopen : Buffers.openFile w₁.disk (oldBuffers.drop "/a.py") "/b.py" =
      .error (.os (DiskProblem.missing.error "/b.py")) := by
    have hnew : Buffers.key Disk.rewritten "/b.py" = .ok "/b.py" := Buffers.key_b rfl
    rw [hdisk]
    simp only [Buffers.openFile, hnew, Buffers.readText_missing, bind, Except.bind]
  have hrun := renameCurrentFile_of_renamed rfl hrename renamed_a.1 hkey
  rw [hb, Option.getD_some, Disk.text_b,
    bind_run_of_error (Editor.openFile_of_error hopen)] at hrun
  have hshown : oldBuffers.drop "/a.py" = {} := rfl
  exact ⟨_, _, hrun, congrArg some hshown⟩

theorem renameCurrentFile_misnamed :
    exists f w', renameCurrentFile "b/c" (openedFirst .rewritten true) = .error f w' ∧
      w'.client.editor? = some { texts := [("/a.py", "new")], current? := some "/a.py" } := by
  have hfollowed : Buffers.followed true .rewritten oldBuffers "/a.py" =
      .ok (oldBuffers.withText "/a.py" "new") := by
    have hkey : Buffers.key Disk.rewritten "/a.py" = .ok "/a.py" := Buffers.key_a rfl
    have hclean : (!oldBuffers.isOpen "/a.py" || oldBuffers.isMarked "/a.py") = false := rfl
    rw [Buffers.followed, if_pos rfl]
    simp only [Buffers.revert, hkey, hclean, Buffers.readText_a, bind, Except.bind]
    rfl
  rcases rename_openedFirst hfollowed "b/c" with ⟨w₁, hrename, hdisk, hb⟩
  have hrun := @renameCurrentFile_of_current "b/c" "/a.py" (openedFirst .rewritten true) rfl
  rw [bind_run_of_ok hrename, renamed_a.2] at hrun
  have hshown : oldBuffers.withText "/a.py" "new" =
      { texts := [("/a.py", "new")], current? := some "/a.py" } := rfl
  exact ⟨_, w₁, hrun, hb.trans (congrArg some hshown)⟩

/-!
## Every rename
-/

/-- Renaming the current file leaves the editor as it was, or the engine answered the one request.
Then the editor turns to the file at the new place, or it stops on the way: with the buffers that
followed the old file, or without the buffer of that file. -/
theorem ends_renameCurrentFile (hapart : w.IsApart) (newName : String) :
    Ends newName w (renameCurrentFile newName w) := by
  have hrenamed := renamed_renameCurrentFile newName w
  generalize hrun : renameCurrentFile newName w = r at hrenamed
  cases hrenamed with
  | idle hnone => exact .untouched rfl
  | refused hcurrent hrename => exact .untouched (editor_of_refused hapart hcurrent hrename)
  | kept hcurrent hrename hkept =>
      rcases answered_of_ok hapart hcurrent hrename with ⟨b, b', heditor, h⟩
      exact .misplaced h hkept heditor
  | closed hcurrent hrename hplace hkey hb' hopen =>
      rcases answered_of_ok hapart hcurrent hrename with ⟨b, b', heditor, h⟩
      rw [heditor] at hb'
      cases hb'
      exact .closed (h.of_eq rfl rfl) (congrArg (Except.map Path.text) hplace) hkey
        (Buffers.openFile_eq_error hopen) rfl
  | @moved current k v p _ _ w₁ w' hcurrent hrename hplace hkey hb' hopen hdesk =>
      rcases answered_of_ok hapart hcurrent hrename with ⟨b, b', heditor, h⟩
      have hrequests := requests_after_renameCurrentFile hcurrent newName
      rw [after_of_ok hrun, after_of_ok hrename] at hrequests
      rw [heditor] at hb'
      cases hb'
      rcases Buffers.openFile_eq_ok hopen with ⟨j, text, hnew, hread, rfl⟩
      have hdisk : w'.disk = w₁.disk := congrArg Prod.fst hdesk
      rw [← hdisk] at hkey hnew hread
      exact .moved (h.of_eq hdisk hrequests) (congrArg (Except.map Path.text) hplace) hkey hnew
        (congrArg Prod.snd hdesk) (Buffers.turns_load_drop hread _ k)

theorem renameCurrentFile_turns :
    (openedFirst .relinked false).IsApart ∧
      exists w' b,
        renameCurrentFile "b" (openedFirst .relinked false) = .ok "/b.py" w' ∧
          w'.trail.requests = [(Command.rename.name, [.text "b", .text "/a.py"])] ∧
          w'.client.editor? = some b ∧ b.current? = some "/b.py" ∧ b.get? "/b.py" = some "t" := by
  have hapart := isApart_openedFirst .relinked false
  have hends := ends_renameCurrentFile hapart "b"
  rcases renameCurrentFile_relinked with ⟨w', hrun, hdesk⟩
  have hdisk : w'.disk = Disk.relinked := congrArg Prod.fst hdesk
  rw [hrun] at hends
  cases hends with
  | @moved current k j _ _ b b' b'' h hplace hkey hnew heditor hturns =>
      have hb : some oldBuffers = some b := h.editor
      cases hb
      have hcurrent : some "/a.py" = some current := h.named
      cases hcurrent
      rw [hdisk, Buffers.key_b rfl] at hnew
      cases hnew
      rcases hturns.text with ⟨text, hread, htext⟩
      rw [hdisk, Buffers.readText_b] at hread
      cases hread
      exact ⟨hapart, w', b'', hrun, h.requests, heditor, hturns.current, htext⟩

/-- A rename of the current file that fails can leave other buffers, and one that succeeds can
leave the buffer of the old file open although the editor turned to another file. -/
theorem renameCurrentFile_leaves_traces :
    (exists f w', renameCurrentFile "b" (openedFirst .rewritten false) = .error f w' ∧
      w'.client.editor? ≠ (openedFirst .rewritten false).client.editor?) ∧
    (exists f w', renameCurrentFile "b/c" (openedFirst .rewritten true) = .error f w' ∧
      w'.client.editor? ≠ (openedFirst .rewritten true).client.editor?) ∧
    exists w' b, renameCurrentFile "b" (openedFirst .relinked false) = .ok "/b.py" w' ∧
      Buffers.key w'.disk "/a.py" ≠ Buffers.key w'.disk "/b.py" ∧
      w'.client.editor? = some b ∧ b.isOpen "/a.py" = true := by
  refine ⟨?_, ?_, ?_⟩
  · rcases renameCurrentFile_missing with ⟨f, w', hrun, heditor⟩
    refine ⟨f, w', hrun, ?_⟩
    rw [heditor]
    simp [openedFirst, oldBuffers]
  · rcases renameCurrentFile_misnamed with ⟨f, w', hrun, heditor⟩
    refine ⟨f, w', hrun, ?_⟩
    rw [heditor]
    simp [openedFirst, oldBuffers]
  · rcases renameCurrentFile_relinked with ⟨w', hrun, hdesk⟩
    refine ⟨w', _, hrun, ?_, congrArg Prod.snd hdesk, rfl⟩
    have hdisk : w'.disk = Disk.relinked := congrArg Prod.fst hdesk
    rw [hdisk, Buffers.key_relinked, Buffers.key_b rfl]
    simp

end Operations
end EngineClient
