import EngineClient.Proofs.Editor.Buffers
import EngineClient.Proofs.Run.Onward
import EngineClient.Proofs.Run.Operations

/-!
# Unsaved text through operations

Every operation but one keeps the text that a buffer holds unsaved: after a command the buffers
are at most read again. The one that renames the current file closes its buffer and reads the
file at its new place. Main statement: `unsaved_after_operation`.
-/

namespace EngineClient

/-!
## What operations do to buffers
-/

def World.Rereads (w w' : World) : Prop :=
  forall b, w.client.editor? = some b ->
    exists b', w'.client.editor? = some b' ∧ Buffers.Reread w'.disk b b'

def World.desk (w : World) : Disk × Option Buffers :=
  (w.disk, w.client.editor?)

theorem World.Rereads.of_editor_eq {w w' : World} (h : w'.client.editor? = w.client.editor?) :
    w.Rereads w' := by
  intro b hb
  exact ⟨b, h.trans hb, .refl⟩

theorem World.Rereads.of_desk_eq {w w' : World} (h : w'.desk = w.desk) : w.Rereads w' :=
  .of_editor_eq (congrArg Prod.snd h)

theorem World.desk_of_still {w w' : World} (h : Act.Agree World.still w w') :
    w'.desk = w.desk :=
  h.factor World.desk fun _ => rfl

namespace Act

/-- The act leaves the disk and the buffers alone. -/
abbrev Deskless {α : Type} (x : Act α) : Prop :=
  x.Moves (Agree World.desk)

/-- In surroundings apart from the client, the act reads buffers again at most. -/
def Rereads {α : Type} (x : Act α) : Prop :=
  forall w : World, w.IsApart -> w.Rereads (x.after w)

variable {α β : Type}

theorem Rereads.bind_deskless {x : Act α} {g : α → Act β} (hx : x.Rereads)
    (hg : forall a, (g a).Deskless) : (x >>= g).Rereads := by
  intro w hapart b hb
  rcases hx w hapart b hb with ⟨b', hb', hreread⟩
  have hdesk := part_after_bind World.desk x hg w
  refine ⟨b', ?_, ?_⟩
  · exact (congrArg Prod.snd hdesk).trans hb'
  · have hdisk : ((x >>= g).after w).disk = (x.after w).disk := congrArg Prod.fst hdesk
    rwa [hdisk]

theorem Rereads.deskless_bind {x : Act α} {g : α → Act β} (hcalm : x.Calm)
    (hx : x.Deskless) (hg : forall a, (g a).Rereads) : (x >>= g).Rereads := by
  intro w hapart
  have hx' := hx w
  have hapart' := (hcalm w hapart).1
  cases hrun : x w with
  | ok a w₁ =>
      rw [after_of_ok hrun] at hx' hapart'
      rw [after_bind_of_ok hrun]
      intro b hb
      refine hg a w₁ hapart' b ?_
      exact (congrArg Prod.snd hx').trans hb
  | error f w₁ =>
      rw [after_of_error hrun] at hx'
      rw [after_bind_of_error hrun]
      exact .of_desk_eq hx'

end Act

def World.showing (w : World) (b : Buffers) : World :=
  { w with client := { w.client with editor? := some b } }

namespace Editor

open Act

theorem closeFile_run (path : String) (w : World) :
    closeFile path w =
      match Buffers.closeFile w.disk (w.client.editor?.getD {}) path with
      | .ok b => .ok () (w.showing b)
      | .error f => .error f w := by
  have hbuffers : buffers w = .ok (w.client.editor?.getD {}) w := rfl
  unfold closeFile
  rw [bind_run_of_ok (disk_run w), bind_run_of_ok hbuffers]
  cases Buffers.closeFile w.disk (w.client.editor?.getD {}) path <;> rfl

theorem openFile_run (path : String) (w : World) :
    openFile path w =
      match Buffers.openFile w.disk (w.client.editor?.getD {}) path with
      | .ok b => .ok () (w.showing b)
      | .error f => .error f w := by
  have hbuffers : buffers w = .ok (w.client.editor?.getD {}) w := rfl
  unfold openFile
  rw [bind_run_of_ok (disk_run w), bind_run_of_ok hbuffers]
  cases Buffers.openFile w.disk (w.client.editor?.getD {}) path <;> rfl

theorem openFile_of_ok {path : String} {w : World} {b b' : Buffers}
    (h : Buffers.openFile w.disk b path = .ok b') :
    openFile path (w.showing b) = .ok () ((w.showing b).showing b') := by
  rw [openFile_run]
  change (match Buffers.openFile w.disk b path with
    | .ok b' => EStateM.Result.ok () ((w.showing b).showing b')
    | .error f => .error f (w.showing b)) = _
  rw [h]

theorem openFile_of_error {path : String} {w : World} {b : Buffers} {f : Fault}
    (h : Buffers.openFile w.disk b path = .error f) :
    openFile path (w.showing b) = .error f (w.showing b) := by
  rw [openFile_run]
  change (match Buffers.openFile w.disk b path with
    | .ok b' => EStateM.Result.ok () ((w.showing b).showing b')
    | .error f => .error f (w.showing b)) = _
  rw [h]

/-!
## Following the files
-/

/-- The disk stays as it is, and buffers are at most read again. -/
def Follows (w w' : World) : Prop :=
  w'.disk = w.disk ∧ w.Rereads w'

instance : IsPreorder World Follows where
  refl w := ⟨rfl, .of_desk_eq rfl⟩
  trans u v w h h' := by
    refine ⟨h'.1.trans h.1, ?_⟩
    intro b hb
    rcases h.2 b hb with ⟨b', hb', hreread⟩
    rcases h'.2 b' hb' with ⟨b'', hb'', hreread'⟩
    refine ⟨b'', hb'', ?_⟩
    rw [h'.1] at hreread' ⊢
    exact hreread.trans hreread'

theorem follows_of_desk {α : Type} {x : Act α} (h : x.Deskless) : x.Moves Follows := by
  intro w
  exact ⟨congrArg Prod.fst (h w), .of_desk_eq (h w)⟩

theorem follows_revert (path : String) : (revert path).Moves Follows := by
  intro w
  have hbuffers : buffers w = .ok (w.client.editor?.getD {}) w := rfl
  unfold revert
  rw [after_bind_of_ok (disk_run w), after_bind_of_ok hbuffers]
  cases hrevert : Buffers.revert w.disk (w.client.editor?.getD {}) path with
  | error f =>
      exact refl_of Follows w
  | ok r =>
      have hset : setBuffers r.buffers w = .ok () (w.showing r.buffers) := rfl
      rw [after_bind_of_ok (rfl : Act.ofExcept (.ok r) w = .ok r w), after_bind_of_ok hset]
      have hshown : Follows w (w.showing r.buffers) := by
        refine ⟨rfl, ?_⟩
        intro b hb
        rw [hb] at hrevert
        exact ⟨r.buffers, rfl, .revert .refl hrevert⟩
      refine trans_of Follows hshown (follows_of_desk ?_ (w.showing r.buffers))
      intro v
      split
      · rfl
      · rfl

theorem follows_revertEach (paths : List String) :
    (BufferHost.revertEach revert paths).Moves Follows := by
  induction paths with
  | nil =>
      exact .pure _
  | cons path paths ih =>
      exact .bind (follows_revert path) fun _ => .bind ih fun _ => .pure _

theorem follows_maybeSync (targets? : Option (List String)) :
    (maybeSync targets?).Moves Follows := by
  have hrecord : forall r : BufferHost.Reconciliation, (do
      record "buffers" .debug "buffers_reconciled"
        [("requested", .list (r.requested.map .text)), ("reverted", .list (r.reverted.map .text))]
      return r.reverted : Act (List String)).Moves Follows :=
    fun r => follows_of_desk fun _ => rfl
  have heach : forall paths, (do
      let reverted ← BufferHost.revertEach host.revert paths
      return (⟨paths, reverted⟩ : BufferHost.Reconciliation)).Moves Follows :=
    fun paths => .bind (follows_revertEach paths) fun _ => .pure _
  unfold maybeSync
  refine .bind (follows_of_desk fun _ => rfl) fun _ => .bind .client fun c => ?_
  unfold BufferHost.following
  split
  · cases c.editor? with
    | none =>
        exact .pure _
    | some b =>
        refine .bind ?_ hrecord
        unfold BufferHost.reconcile
        refine .bind (follows_of_desk fun _ => rfl) fun _ => ?_
        cases targets? with
        | some targets => exact heach targets
        | none => exact .bind (follows_of_desk fun _ => rfl) heach
  · exact .pure _

end Editor

namespace Dispatch

open Act

/-!
## Commands
-/

theorem follows_settle (c : Command) (n : Nat) (s : Session) (args : List Value) :
    (settle c n s args).Moves Editor.Follows :=
  .bind (Editor.follows_of_desk fun _ => rfl) fun _ =>
    .bind (Editor.follows_maybeSync _) fun _ => .pure _

theorem rereads_send (c : Command) (args : List Value) : (c.send args).Rereads := by
  intro w hapart
  rcases sent_or_stopped w c args with ⟨n, s, w₁, hsent⟩ | ⟨_, f, w₁, hrun, hstill⟩
  · have hdesk := World.desk_of_still hsent.still
    have hclient := client_after_call (hsent.isApart hapart) s c args
    rw [after_of_run_eq hsent.issued]
    unfold send
    cases hcall : Transport.call s c.name args w₁ with
    | error f w₂ =>
        rw [after_of_error hcall] at hclient
        rw [after_bind_of_error hcall]
        refine .of_editor_eq ?_
        rw [hclient]
        exact congrArg Prod.snd hdesk
    | ok v w₂ =>
        rw [after_of_ok hcall] at hclient
        rw [after_bind_of_ok hcall]
        have hrest : (do
            if c.mutating then settle c n s args
            record logger .debug "dispatched" [("method", .text c.name)]
            return v : Act Value).Moves Editor.Follows := by
          have hrecord : (record logger .debug "dispatched"
              [("method", .text c.name)]).Moves Editor.Follows :=
            Editor.follows_of_desk fun _ => rfl
          split
          · exact .bind (follows_settle c n s args) fun _ => .bind hrecord fun _ => .pure _
          · exact .bind hrecord fun _ => .pure _
        intro b hb
        refine (hrest w₂).2 b ?_
        rw [hclient]
        exact (congrArg Prod.snd hdesk).trans hb
  · rw [after_of_error hrun]
    exact .of_desk_eq (World.desk_of_still hstill)

end Dispatch

/-!
## Operations
-/

inductive Operation where
  | getAllResources
  | getChildren (path : Value)
  | rename (newName path offset : Value)
  | renameCurrentFile (newName : String)
  | extractMethod (name path start stop : Value)
  | extractVariable (name path start stop : Value)
  | undo
  | redo
  | fetch (stack : HistoryStack)
  | codeAssist (path : String) (position text : Value)

def Operation.after (w : World) : Operation → World
  | .getAllResources => Operations.getAllResources.after w
  | .getChildren path => (Operations.getChildren path).after w
  | .rename newName path offset => (Operations.rename newName path offset).after w
  | .renameCurrentFile newName => (Operations.renameCurrentFile newName).after w
  | .extractMethod name path start stop => (Operations.extractMethod name path start stop).after w
  | .extractVariable name path start stop =>
      (Operations.extractVariable name path start stop).after w
  | .undo => History.undo.after w
  | .redo => History.redo.after w
  | .fetch stack => (History.fetch stack).after w
  | .codeAssist path position text => (Operations.codeAssist path position text).after w

namespace Operations

open Act

theorem deskless_of_still {α : Type} {x : Act α} (h : x.Still) : x.Deskless :=
  fun w => World.desk_of_still (h w)

theorem deskless_requireRunning (command : String) :
    (Session.requireRunning command).Deskless :=
  deskless_of_still (Session.still_requireRunning command)

theorem deskless_root (command : String) : (root command).Deskless :=
  moves_root (deskless_requireRunning command)

theorem deskless_resources (c : Command) (answer : Value) : (resources c answer).Deskless :=
  moves_resources (deskless_requireRunning c.name) answer

theorem rereads_rename (newName path offset : Value) : (rename newName path offset).Rereads := by
  unfold rename
  split
  · exact Dispatch.rereads_send _ _
  · exact Dispatch.rereads_send _ _

theorem rereads_fetch (stack : HistoryStack) : (History.fetch stack).Rereads := by
  refine (Dispatch.rereads_send _ _).bind_deskless fun v => ?_
  split
  · exact .pure _
  · exact History.moves_marked (deskless_requireRunning _) v

theorem rereads_codeAssist (path : String) (position text : Value) :
    (codeAssist path position text).Rereads := by
  have hanswer : forall text, (do
      let answer ← Command.codeAssist.send [text, position, .text path]
      Act.ofExcept (readAnswer "proposal" Command.codeAssist.name Proposal.read answer) :
        Act (List Proposal)).Rereads :=
    fun text => (Dispatch.rereads_send _ _).bind_deskless fun _ => .ofExcept _
  unfold codeAssist
  refine .deskless_bind (calm_root _) (deskless_root _) fun directory => ?_
  split
  · refine .deskless_bind ?_ ?_ fun buffered => hanswer _
    · exact moves_sourceText _
    · exact moves_sourceText _
  · exact hanswer _

/-!
## The current file
-/

/-- The ways in which renaming the current file can go: it is not renamed, its buffer cannot be
closed, the file at its new place cannot be shown, or it is shown. -/
inductive Renamed (newName : String) (w : World) :
    EStateM.Result Fault World String → Prop where
  | idle {f : Fault} (hnone : w.client.editor?.bind (·.current?) = none) :
      Renamed newName w (.error f w)
  | refused {current : String} {f : Fault} {w₁ : World}
      (hcurrent : w.client.editor?.bind (·.current?) = some current)
      (hrename : rename (.text newName) (.text current) .null w = .error f w₁) :
      Renamed newName w (.error f w₁)
  | kept {current : String} {v : Value} {f : Fault} {w₁ : World}
      (hcurrent : w.client.editor?.bind (·.current?) = some current)
      (hrename : rename (.text newName) (.text current) .null w = .ok v w₁)
      (hkept : (Path.ofText current).renamed newName = .error f ∨
        Buffers.key w₁.disk current = .error f) :
      Renamed newName w (.error f w₁)
  | closed {current k : String} {v : Value} {f : Fault} {p : Path} {b : Buffers} {w₁ : World}
      (hcurrent : w.client.editor?.bind (·.current?) = some current)
      (hrename : rename (.text newName) (.text current) .null w = .ok v w₁)
      (hrenamed : (Path.ofText current).renamed newName = .ok p)
      (hkey : Buffers.key w₁.disk current = .ok k) (hb : w₁.client.editor?.getD {} = b)
      (hopen : Buffers.openFile w₁.disk (b.drop k) p.text = .error f) :
      Renamed newName w (.error f (w₁.showing (b.drop k)))
  | moved {current k : String} {v : Value} {p : Path} {b b' : Buffers} {w₁ w' : World}
      (hcurrent : w.client.editor?.bind (·.current?) = some current)
      (hrename : rename (.text newName) (.text current) .null w = .ok v w₁)
      (hrenamed : (Path.ofText current).renamed newName = .ok p)
      (hkey : Buffers.key w₁.disk current = .ok k) (hb : w₁.client.editor?.getD {} = b)
      (hopen : Buffers.openFile w₁.disk (b.drop k) p.text = .ok b')
      (hdesk : w'.desk = (w₁.disk, some b')) :
      Renamed newName w (.ok p.text w')

theorem renameCurrentFile_of_current {newName current : String} {w : World}
    (hcurrent : w.client.editor?.bind (·.current?) = some current) :
    renameCurrentFile newName w =
      (do
        let _ ← rename (.text newName) (.text current) .null
        let p ← Act.ofExcept ((Path.ofText current).renamed newName)
        Editor.closeFile current
        Editor.openFile p.text
        record logger .info "current_file_renamed"
          [("old", .text current), ("new", .text p.text)]
        return p.text) w := by
  unfold renameCurrentFile
  rw [bind_run_of_ok (client_run w), hcurrent]

theorem renameCurrentFile_of_renamed {newName current k : String} {v : Value} {p : Path}
    {w w₁ : World} (hcurrent : w.client.editor?.bind (·.current?) = some current)
    (hrename : rename (.text newName) (.text current) .null w = .ok v w₁)
    (hrenamed : (Path.ofText current).renamed newName = .ok p)
    (hkey : Buffers.key w₁.disk current = .ok k) :
    renameCurrentFile newName w =
      (do
        Editor.openFile p.text
        record logger .info "current_file_renamed"
          [("old", .text current), ("new", .text p.text)]
        return p.text) (w₁.showing ((w₁.client.editor?.getD {}).drop k)) := by
  have hclose : Editor.closeFile current w₁ =
      .ok () (w₁.showing ((w₁.client.editor?.getD {}).drop k)) := by
    rw [Editor.closeFile_run, Buffers.closeFile, hkey]
    rfl
  rw [renameCurrentFile_of_current hcurrent, bind_run_of_ok hrename, hrenamed,
    bind_run_of_ok (rfl : Act.ofExcept (.ok p) w₁ = .ok p w₁), bind_run_of_ok hclose]

theorem renamed_renameCurrentFile (newName : String) (w : World) :
    Renamed newName w (renameCurrentFile newName w) := by
  cases hcurrent : w.client.editor?.bind (·.current?) with
  | none =>
      unfold renameCurrentFile
      rw [bind_run_of_ok (client_run w), hcurrent]
      exact .idle hcurrent
  | some current =>
      cases hrename : rename (.text newName) (.text current) .null w with
      | error f w₁ =>
          rw [renameCurrentFile_of_current hcurrent, bind_run_of_error hrename]
          exact .refused hcurrent hrename
      | ok v w₁ =>
          cases hrenamed : (Path.ofText current).renamed newName with
          | error f =>
              rw [renameCurrentFile_of_current hcurrent, bind_run_of_ok hrename, hrenamed]
              exact .kept hcurrent hrename (Or.inl hrenamed)
          | ok p =>
              cases hkey : Buffers.key w₁.disk current with
              | error f =>
                  have hclose : Editor.closeFile current w₁ = .error f w₁ := by
                    rw [Editor.closeFile_run, Buffers.closeFile, hkey]
                    rfl
                  rw [renameCurrentFile_of_current hcurrent, bind_run_of_ok hrename, hrenamed,
                    bind_run_of_ok (rfl : Act.ofExcept (.ok p) w₁ = .ok p w₁),
                    bind_run_of_error hclose]
                  exact .kept hcurrent hrename (Or.inr hkey)
              | ok k =>
                  rw [renameCurrentFile_of_renamed hcurrent hrename hrenamed hkey]
                  let b := w₁.client.editor?.getD {}
                  cases hopen : Buffers.openFile w₁.disk (b.drop k) p.text with
                  | error f =>
                      have hrun : Editor.openFile p.text (w₁.showing (b.drop k)) =
                          .error f (w₁.showing (b.drop k)) :=
                        Editor.openFile_of_error hopen
                      rw [bind_run_of_error hrun]
                      exact .closed hcurrent hrename hrenamed hkey rfl hopen
                  | ok b' =>
                      have hrun : Editor.openFile p.text (w₁.showing (b.drop k)) =
                          .ok () ((w₁.showing (b.drop k)).showing b') :=
                        Editor.openFile_of_ok hopen
                      rw [bind_run_of_ok hrun]
                      exact .moved hcurrent hrename hrenamed hkey rfl hopen rfl

end Operations

/-!
## Unsaved text
-/

def World.Unsaved (w : World) (k t : String) : Prop :=
  exists b, w.client.editor? = some b ∧ b.Unsaved k t

theorem World.Unsaved.rereads {w w' : World} {k t : String} (h : w.Unsaved k t)
    (hrereads : w.Rereads w') : w'.Unsaved k t ∨ Buffers.Astray w'.disk k := by
  rcases h with ⟨b, hb, hunsaved⟩
  rcases hrereads b hb with ⟨b', hb', hreread⟩
  rcases hunsaved.reread hreread with hkept | hastray
  · exact Or.inl ⟨b', hb', hkept⟩
  · exact Or.inr hastray

namespace Operation

/-- The operation renames the current file, and the buffer under a key is the one that it closes
or the one that it reads the file at the new place into. -/
def GivesUp (w : World) (k : String) : Operation → Prop
  | .renameCurrentFile newName =>
      exists current v w₁ p c,
        w.client.editor?.bind (·.current?) = some current ∧
          Operations.rename (.text newName) (.text current) .null w = .ok v w₁ ∧
          (Path.ofText current).renamed newName = .ok p ∧
          Buffers.key w₁.disk current = .ok c ∧
          (k = c ∨
            Buffers.key w₁.disk p.text = .ok k ∧
              exists text, w₁.disk.readText (Path.ofText k) = .ok text)
  | _ => False

def Shows (w : World) (j : String) : Operation → Prop
  | .renameCurrentFile newName =>
      exists path w',
        Operations.renameCurrentFile newName w = .ok path w' ∧ Buffers.key w'.disk path = .ok j
  | _ => False

theorem not_unsaved_of_givesUp {w : World} {k : String} {op : Operation} (h : op.GivesUp w k)
    (t : String) : ¬ (op.after w).Unsaved k t := by
  cases op with
  | renameCurrentFile newName =>
      rintro ⟨b', hb', hunsaved⟩
      rcases h with ⟨current, v, w₁, p, c, hcurrent, hrename, hrenamed, hkey, hgiven⟩
      let b := w₁.client.editor?.getD {}
      have hrun := Operations.renameCurrentFile_of_renamed hcurrent hrename hrenamed hkey
      rw [Operation.after, Act.after_of_run_eq hrun] at hb'
      cases hopen : Buffers.openFile w₁.disk (b.drop c) p.text with
      | error f =>
          have hstops : Editor.openFile p.text (w₁.showing (b.drop c)) =
              .error f (w₁.showing (b.drop c)) :=
            Editor.openFile_of_error hopen
          rw [Act.after_bind_of_error hstops] at hb'
          cases hb'
          rcases hgiven with rfl | ⟨hnew, text, hread⟩
          · exact Buffers.not_unsaved_drop b k t hunsaved
          · rw [Buffers.openFile_of_ok hnew hread] at hopen
            cases hopen
      | ok b'' =>
          have hshows : Editor.openFile p.text (w₁.showing (b.drop c)) =
              .ok () ((w₁.showing (b.drop c)).showing b'') :=
            Editor.openFile_of_ok hopen
          rw [Act.after_bind_of_ok hshows] at hb'
          cases hb'
          rcases Buffers.openFile_eq_ok hopen with ⟨j, text, hnew, hread, rfl⟩
          rcases hgiven with rfl | ⟨hnew', _⟩
          · exact Buffers.not_unsaved_load_drop b k j text t hunsaved
          · rw [hnew] at hnew'
            cases hnew'
            exact Buffers.not_unsaved_load (b.drop c) k text t hunsaved
  | _ => exact h.elim

theorem not_unsaved_of_shows {w : World} {j : String} {op : Operation} (h : op.Shows w j)
    (t : String) : ¬ (op.after w).Unsaved j t := by
  cases op with
  | renameCurrentFile newName =>
      rintro ⟨b', hb', hunsaved⟩
      rcases h with ⟨path, w', hrun, hkey⟩
      have hrenamed := Operations.renamed_renameCurrentFile newName w
      rw [Operation.after, Act.after_of_ok hrun] at hb'
      rw [hrun] at hrenamed
      cases hrenamed with
      | @moved _ _ _ p b _ w₁ _ _ _ _ _ _ hopen hdesk =>
          rcases Buffers.openFile_eq_ok hopen with ⟨i, text, hnew, _, rfl⟩
          have hdisk : w'.disk = w₁.disk := congrArg Prod.fst hdesk
          have heditor : w'.client.editor? = some _ := congrArg Prod.snd hdesk
          rw [hdisk, hnew] at hkey
          cases hkey
          rw [heditor] at hb'
          cases hb'
          exact Buffers.not_unsaved_load _ _ text t hunsaved
  | _ => exact h.elim

theorem unsaved_of_renameCurrentFile {w : World} (hapart : w.IsApart) {k t newName : String}
    (h : w.Unsaved k t) (hkeeps : ¬ (Operation.renameCurrentFile newName).GivesUp w k) :
    ((Operations.renameCurrentFile newName).after w).Unsaved k t ∨
      Buffers.Astray ((Operations.renameCurrentFile newName).after w).disk k := by
  have hreads : forall current,
      w.Rereads ((Operations.rename (.text newName) (.text current) .null).after w) :=
    fun current => Operations.rereads_rename _ _ _ w hapart
  have hrenamed := Operations.renamed_renameCurrentFile newName w
  cases hrun : Operations.renameCurrentFile newName w with
  | error f w' =>
      rw [Act.after_of_error hrun]
      rw [hrun] at hrenamed
      cases hrenamed with
      | idle hnone =>
          exact Or.inl h
      | @refused current f w₁ hcurrent hrename =>
          have hrereads := hreads current
          rw [Act.after_of_error hrename] at hrereads
          exact h.rereads hrereads
      | @kept current v f w₁ hcurrent hrename hkept =>
          have hrereads := hreads current
          rw [Act.after_of_ok hrename] at hrereads
          exact h.rereads hrereads
      | @closed current c v f p b w₁ hcurrent hrename hplace hkey hb hopen =>
          have hrereads := hreads current
          rw [Act.after_of_ok hrename] at hrereads
          rcases h.rereads hrereads with ⟨b', hb', hunsaved⟩ | hastray
          · left
            rw [hb'] at hb
            cases hb
            refine ⟨_, rfl, hunsaved.drop ?_⟩
            intro hclosed
            exact hkeeps ⟨current, v, w₁, p, c, hcurrent, hrename, hplace, hkey, Or.inl hclosed⟩
          · exact Or.inr hastray
  | ok path w' =>
      rw [Act.after_of_ok hrun]
      rw [hrun] at hrenamed
      cases hrenamed with
      | @moved current c v p b b'' w₁ w' hcurrent hrename hplace hkey hb hopen hdesk =>
          have hrereads := hreads current
          rw [Act.after_of_ok hrename] at hrereads
          have hdisk : w'.disk = w₁.disk := congrArg Prod.fst hdesk
          rcases h.rereads hrereads with ⟨b', hb', hunsaved⟩ | hastray
          · left
            rw [hb'] at hb
            cases hb
            rcases Buffers.openFile_eq_ok hopen with ⟨j, text, hnew, hread, rfl⟩
            refine ⟨_, congrArg Prod.snd hdesk, (hunsaved.drop ?_).load ?_ text⟩
            · intro hclosed
              exact hkeeps ⟨current, v, w₁, p, c, hcurrent, hrename, hplace, hkey,
                Or.inl hclosed⟩
            · rintro rfl
              exact hkeeps ⟨current, v, w₁, p, c, hcurrent, hrename, hplace, hkey,
                Or.inr ⟨hnew, text, hread⟩⟩
          · right
            rwa [hdisk]

theorem rereads {w : World} (hapart : w.IsApart) {op : Operation}
    (hother : forall newName, op ≠ .renameCurrentFile newName) : w.Rereads (op.after w) := by
  cases op with
  | getAllResources =>
      exact (Dispatch.rereads_send _ _).bind_deskless
        (fun answer => Operations.deskless_resources _ answer) w hapart
  | getChildren path =>
      exact (Dispatch.rereads_send _ _).bind_deskless
        (fun answer => Operations.deskless_resources _ answer) w hapart
  | rename newName path offset => exact Operations.rereads_rename newName path offset w hapart
  | renameCurrentFile newName => exact absurd rfl (hother newName)
  | extractMethod name path start stop => exact Dispatch.rereads_send _ _ w hapart
  | extractVariable name path start stop => exact Dispatch.rereads_send _ _ w hapart
  | undo => exact Dispatch.rereads_send _ _ w hapart
  | redo => exact Dispatch.rereads_send _ _ w hapart
  | fetch stack => exact Operations.rereads_fetch stack w hapart
  | codeAssist path position text => exact Operations.rereads_codeAssist path position text w hapart

theorem unsaved_or_astray {w : World} (hapart : w.IsApart) {k t : String}
    (h : w.Unsaved k t) {op : Operation} (hkeeps : ¬ op.GivesUp w k) :
    (op.after w).Unsaved k t ∨ Buffers.Astray (op.after w).disk k := by
  by_cases hother : exists newName, op = .renameCurrentFile newName
  · rcases hother with ⟨newName, rfl⟩
    exact unsaved_of_renameCurrentFile hapart h hkeeps
  · refine h.rereads (rereads hapart ?_)
    exact fun newName hop => hother ⟨newName, hop⟩

/-- No operation but the one that renames the current file gives up text that was not saved, and
that one gives up the buffer of the current file and the one of the renamed file: then the text is
held unsaved neither under the same file nor under the renamed one. All other unsaved text is
kept, unless links on the disk lead a key astray. -/
theorem unsaved_after_operation {w : World} (hapart : w.IsApart) {k t : String}
    (h : w.Unsaved k t) (op : Operation) :
    (op.GivesUp w k ->
      ¬ (op.after w).Unsaved k t ∧
        forall j, op.Shows w j -> ¬ (op.after w).Unsaved j t) ∧
    (¬ op.GivesUp w k ->
      (op.after w).Unsaved k t ∨
        ¬ (op.after w).disk.IsLinkless ∧ Buffers.Astray (op.after w).disk k) := by
  constructor
  · intro hgives
    exact ⟨not_unsaved_of_givesUp hgives t, fun j hshows => not_unsaved_of_shows hshows t⟩
  · intro hkeeps
    rcases unsaved_or_astray hapart h hkeeps with hkept | hastray
    · exact Or.inl hkept
    · exact Or.inr ⟨hastray.not_isLinkless, hastray⟩

def editedFirst : World :=
  { firstSession with
    client :=
      { firstSession.client with
        editor? :=
          some
            { texts := [("/a.py", "unsaved")], modified := ["/a.py"], current? := some "/a.py" } } }

theorem renameCurrentFile_editedFirst :
    editedFirst.Unsaved "/a.py" "unsaved" ∧
      ¬ ((Operation.renameCurrentFile "b").after editedFirst).Unsaved "/a.py" "unsaved" := by
  have hreached : Reached (fun _ _ => True) [0] firstSession := reached_firstSession trivial
  have hapart : editedFirst.IsApart := hreached.isApart.of_eq rfl rfl
  have hunsaved : editedFirst.Unsaved "/a.py" "unsaved" := ⟨_, rfl, rfl, rfl⟩
  refine ⟨hunsaved, ?_⟩
  refine ((unsaved_after_operation hapart hunsaved (.renameCurrentFile "b")).1 ?_).1
  have hplace : exists p, (Path.ofText "/a.py").renamed "b" = .ok p := by
    have hsome : ((Path.ofText "/a.py").renamed "b").toBool = true := by
      decide +kernel
    cases hrenamed : (Path.ofText "/a.py").renamed "b" with
    | ok p => exact ⟨p, rfl⟩
    | error f =>
        rw [hrenamed] at hsome
        cases hsome
  have hkey : Buffers.key Disk.bare "/a.py" = .ok "/a.py" := by
    have htext : (⟨.single, ["a.py"]⟩ : Path).text = "/a.py" := by
      decide +kernel
    have hplain : forall name, name ∈ ["a.py"] -> Path.IsPlain name := by
      intro name hname
      rw [List.mem_singleton.mp hname]
      exact ⟨by decide +kernel, by decide +kernel, by decide⟩
    have hplainKey := Buffers.key_of_plain Disk.isLinkless_bare hplain (by decide +kernel)
    rwa [htext] at hplainKey
  rcases hplace with ⟨p, hplace⟩
  exact ⟨"/a.py", .null, _, p, "/a.py", rfl, rfl, hplace, hkey, Or.inl rfl⟩

end Operation
end EngineClient
