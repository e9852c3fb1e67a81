import EngineClient.Proofs.Disk.Unresolved
import EngineClient.Proofs.Editor.Unsaved

/-!
# Answers after following the files

A command that changed files is answered after the buffers were read again, each of them in turn.
Nothing that reading a file can come to keeps back the answer; only a path that cannot be resolved
does, and it stops the turn. Main statement: `answers_or_unresolved`.
-/

namespace EngineClient
namespace Buffers

variable {d : Disk} {b b' : Buffers}

/-!
## Turns
-/

/-- Paths are tried in order, and what is left of the buffers; the fault of the path that stopped
the turn, if one did. -/
inductive Tries (d : Disk) : Buffers → List String → Buffers → Option Fault → Prop where
  | done (b : Buffers) : Tries d b [] b none
  | tried {b b' : Buffers} {path : String} {paths : List String} {r : Revert}
      {stop? : Option Fault} (hrevert : revert d b path = .ok r)
      (hrest : Tries d r.buffers paths b' stop?) : Tries d b (path :: paths) b' stop?
  | stopped {b : Buffers} {path : String} {paths : List String} {f : Fault}
      (hrevert : revert d b path = .error f) : Tries d b (path :: paths) b (some f)

/-- The path has no key, or its key has none of its own. -/
def IsLost (d : Disk) (path : String) (f : Fault) : Prop :=
  key d path = .error f ∨ exists k, key d path = .ok k ∧ key d k = .error f

theorem IsLost.isUnresolved {path : String} {f : Fault} (h : IsLost d path f) :
    f.IsUnresolved := by
  rcases h with hkey | ⟨k, _, hkey⟩
  · exact isUnresolved_of_key hkey
  · exact isUnresolved_of_key hkey

/-- A buffer is read again, or left as it is, unless its path is lost. -/
theorem isLost_of_revert {path : String} {f : Fault} (h : revert d b path = .error f) :
    IsLost d path f := by
  have hreverts := reverts_revert d b path
  rw [h] at hreverts
  cases hreverts with
  | unresolved hkey => exact Or.inl hkey
  | unclosed hkey hclean hread hgone hagain => exact Or.inr ⟨_, hkey, hagain⟩
  | unread hkey hclean hread hother =>
      rw [foreseen_of_readText_key hkey hread] at hother
      cases hother

namespace Tries

variable {paths : List String} {stop? : Option Fault}

theorem exists_isLost {f : Fault} (h : Tries d b paths b' (some f)) :
    exists path, path ∈ paths ∧ IsLost d path f := by
  generalize hstop : some f = stop? at h
  induction h with
  | done => cases hstop
  | tried _ _ ih =>
      rcases ih hstop with ⟨path, hpath, hlost⟩
      exact ⟨path, List.mem_cons_of_mem _ hpath, hlost⟩
  | stopped hrevert =>
      cases hstop
      exact ⟨_, List.mem_cons_self, isLost_of_revert hrevert⟩

theorem exists_key (h : Tries d b paths b' none) :
    forall path, path ∈ paths -> exists k, key d path = .ok k := by
  generalize hstop : none = stop? at h
  induction h with
  | done =>
      intro path hpath
      cases hpath
  | @tried b b' first paths r stop? hrevert _ ih =>
      intro path hpath
      rcases List.mem_cons.mp hpath with rfl | hpath
      · cases hkey : key d path with
        | ok k => exact ⟨k, rfl⟩
        | error f =>
            have hfails : revert d b path = .error f := by
              rw [revert, hkey]
              rfl
            rw [hfails] at hrevert
            cases hrevert
      · exact ih hstop path hpath
  | stopped => cases hstop

end Tries

theorem exists_tries (d : Disk) (b : Buffers) (paths : List String) :
    exists b' stop?, Tries d b paths b' stop? := by
  induction paths generalizing b with
  | nil => exact ⟨b, none, .done b⟩
  | cons path paths ih =>
      cases hrevert : revert d b path with
      | error f => exact ⟨b, some f, .stopped hrevert⟩
      | ok r =>
          rcases ih r.buffers with ⟨b', stop?, hrest⟩
          exact ⟨b', stop?, .tried hrevert hrest⟩

end Buffers

namespace Editor

open Act

/-!
## Following
-/

/-- An act that leaves a desk and gives a result, or the fault that stopped it. -/
def Leaves {α : Type} (x : Act α) (w : World) (desk : Disk × Option Buffers)
    (stop? : Option Fault) : Prop :=
  exists w', w'.desk = desk ∧
    match stop? with
    | none => exists a, x w = .ok a w'
    | some f => x w = .error f w'

theorem Leaves.bind {α β : Type} {x : Act α} {g : α → Act β} {w : World}
    {desk : Disk × Option Buffers} {stop? : Option Fault} (h : Leaves x w desk stop?)
    (hg : forall a w', x w = .ok a w' -> w'.desk = desk -> Leaves (g a) w' desk none) :
    Leaves (x >>= g) w desk stop? := by
  rcases h with ⟨w', hdesk, hrun⟩
  cases stop? with
  | none =>
      rcases hrun with ⟨a, hrun⟩
      rcases hg a w' hrun hdesk with ⟨w'', hdesk', b, hrest⟩
      refine ⟨w'', hdesk', b, ?_⟩
      rw [bind_run_of_ok hrun, hrest]
  | some f => exact ⟨w', hdesk, bind_run_of_error hrun⟩

theorem leaves_revert {w : World} {b : Buffers} (hb : w.client.editor? = some b)
    (path : String) :
    match Buffers.revert w.disk b path with
    | .ok r => exists w', revert path w = .ok r.reverted w' ∧ w'.desk = (w.disk, some r.buffers)
    | .error f => revert path w = .error f w := by
  have hbuffers : buffers w = .ok b w := by
    show EStateM.Result.ok (w.client.editor?.getD {}) w = _
    rw [hb]
    rfl
  unfold revert
  rw [bind_run_of_ok (disk_run w), bind_run_of_ok hbuffers]
  cases hrevert : Buffers.revert w.disk b path with
  | error f => rfl
  | ok r =>
      rw [bind_run_of_ok (rfl : Act.ofExcept (.ok r) w = .ok r w),
        bind_run_of_ok (rfl : setBuffers r.buffers w = .ok () (w.showing r.buffers))]
      cases r.trouble? with
      | none => exact ⟨_, rfl, rfl⟩
      | some trouble => exact ⟨_, rfl, rfl⟩

theorem leaves_revertEach {d : Disk} {b b' : Buffers} {paths : List String}
    {stop? : Option Fault} (h : Buffers.Tries d b paths b' stop?) {w : World}
    (hw : w.desk = (d, some b)) :
    Leaves (BufferHost.revertEach revert paths) w (d, some b') stop? := by
  induction h generalizing w with
  | done b => exact ⟨w, hw, [], rfl⟩
  | @tried b b' path paths r stop? hrevert _ ih =>
      have hdisk : w.disk = d := congrArg Prod.fst hw
      have hrun := leaves_revert (congrArg Prod.snd hw) path
      rw [hdisk, hrevert] at hrun
      rcases hrun with ⟨w₁, hrun, hdesk⟩
      have hrest := (ih hdesk).bind (g := fun rest =>
        Pure.pure (if r.reverted then path :: rest else rest))
        fun rest w₂ _ hw₂ => ⟨w₂, hw₂, _, rfl⟩
      unfold BufferHost.revertEach Leaves
      rw [bind_run_of_ok hrun]
      exact hrest
  | @stopped b path paths f hrevert =>
      have hdisk : w.disk = d := congrArg Prod.fst hw
      have hrun := leaves_revert (congrArg Prod.snd hw) path
      rw [hdisk, hrevert] at hrun
      refine ⟨w, hw, ?_⟩
      unfold BufferHost.revertEach
      exact bind_run_of_error hrun

def begun (targets? : Option (List String)) (w : World) : World :=
  host.begin.after ((noteReconciliation targets?).after w)

theorem maybeSync_run {w : World} {b : Buffers} (hb : w.client.editor? = some b)
    (hfollows : w.client.follows = true) (targets? : Option (List String)) :
    maybeSync targets? w = (do
      let reverted ← BufferHost.revertEach revert (targets?.getD b.keys)
      record "buffers" .debug "buffers_reconciled"
        [("requested", .list ((targets?.getD b.keys).map .text)),
          ("reverted", .list (reverted.map .text))]
      return reverted) (begun targets? w) := by
  let w₁ := (noteReconciliation targets?).after w
  have hhost : BufferHost.following w.client.follows (w.client.editor?.map fun _ => host) =
      some host := by
    rw [hfollows, hb]
    rfl
  have hsync : maybeSync targets? w = follow targets? (some host) w₁ := by
    have hnote : noteReconciliation targets? w = .ok () w₁ := rfl
    unfold maybeSync
    rw [bind_run_of_ok hnote, bind_run_of_ok (client_run w₁)]
    show follow targets?
      (BufferHost.following w.client.follows (w.client.editor?.map fun _ => host)) w₁ = _
    rw [hhost]
  have hturn : host.reconcile targets? w₁ = (do
      let reverted ← BufferHost.revertEach revert (targets?.getD b.keys)
      return (⟨targets?.getD b.keys, reverted⟩ : BufferHost.Reconciliation))
        (begun targets? w) := by
    unfold BufferHost.reconcile
    rw [bind_run_of_ok (rfl : host.begin w₁ = .ok () (begun targets? w))]
    cases targets? with
    | some targets => rfl
    | none =>
        have hopen : host.openBuffers (begun none w) = .ok b.keys (begun none w) := by
          show EStateM.Result.ok ((w.client.editor?.getD {}).keys) (begun none w) = _
          rw [hb]
          rfl
        exact bind_run_of_ok hopen
  rw [hsync]
  cases heach : BufferHost.revertEach revert (targets?.getD b.keys) (begun targets? w) with
  | error f w₃ =>
      rw [bind_run_of_error heach] at hturn ⊢
      exact bind_run_of_error hturn
  | ok reverted w₃ =>
      rw [bind_run_of_ok heach] at hturn ⊢
      exact bind_run_of_ok hturn

theorem leaves_maybeSync {w : World} {b b' : Buffers} {stop? : Option Fault}
    (hb : w.client.editor? = some b) (hfollows : w.client.follows = true)
    (targets? : Option (List String))
    (h : Buffers.Tries w.disk b (targets?.getD b.keys) b' stop?) :
    Leaves (maybeSync targets?) w (w.disk, some b') stop? := by
  have hdesk : (begun targets? w).desk = (w.disk, some b) := by
    show (w.disk, w.client.editor?) = _
    rw [hb]
  unfold Leaves
  rw [maybeSync_run hb hfollows]
  refine (leaves_revertEach h hdesk).bind fun reverted w₃ _ hw₃ => ⟨_, ?_, _, rfl⟩
  exact hw₃

theorem maybeSync_of_idle {w : World} (hfollows : w.client.follows = false)
    (targets? : Option (List String)) :
    Leaves (maybeSync targets?) w w.desk none := by
  let w₁ := (noteReconciliation targets?).after w
  have hsync : maybeSync targets? w = .ok [] w₁ := by
    have hnote : noteReconciliation targets? w = .ok () w₁ := rfl
    unfold maybeSync
    rw [bind_run_of_ok hnote, bind_run_of_ok (client_run w₁)]
    show follow targets?
      (BufferHost.following w.client.follows (w.client.editor?.map fun _ => host)) w₁ = _
    rw [hfollows]
    rfl
  exact ⟨w₁, rfl, [], hsync⟩

end Editor

namespace Dispatch

open Act

/-!
## Answers
-/

/-- The answer of the transport, unless what follows it was stopped. -/
def answered (v : Value) (w : World) : Option Fault → EStateM.Result Fault World Value
  | none => .ok v w
  | some f => .error f w

theorem leaves_send {c : Command} {n : Nat} {s : Session} {args : List Value} {w w₁ : World}
    {v : Value} {desk : Disk × Option Buffers} {stop? : Option Fault}
    (hcall : Transport.call s c.name args w = .ok v w₁) (hmutating : c.mutating = true)
    (h : Editor.Leaves (Editor.maybeSync (targets? c s args))
      ((mapSession n fun s => { s with generation := s.generation + 1 }).after w₁) desk stop?) :
    exists w', w'.desk = desk ∧ send c n s args w = answered v w' stop? := by
  have hsettle : Editor.Leaves (settle c n s args) w₁ desk stop? := by
    unfold settle Editor.Leaves
    rw [bind_run_of_ok (rfl : mapSession n _ w₁ = .ok () _)]
    exact h.bind fun _ w₂ _ hw₂ => ⟨w₂, hw₂, _, rfl⟩
  rcases hsettle with ⟨w₂, hdesk, hrun⟩
  unfold send
  rw [bind_run_of_ok hcall, hmutating, if_pos rfl]
  cases stop? with
  | none =>
      rcases hrun with ⟨_, hrun⟩
      rw [bind_run_of_ok hrun]
      refine ⟨_, ?_, rfl⟩
      exact hdesk
  | some f => exact ⟨w₂, hdesk, bind_run_of_error hrun⟩

/-- A command that changed files and was answered by the transport, with buffers that follow the
files: its buffers are tried one after the other, the named one or all that are open. It gives the
answer if the turn comes to its end. What stops the turn is a path that cannot be resolved, or the
key of one; nothing that reading a file can come to does. -/
theorem answers_or_unresolved {c : Command} {args : List Value} {n : Nat} {s : Session}
    {w w₁ w₂ : World} {v : Value} {b : Buffers} (hsent : Sent w c args n s w₁)
    (hcall : Transport.call s c.name args w₁ = .ok v w₂) (hmutating : c.mutating = true)
    (hfollows : w₂.client.follows = true) (hb : w₂.client.editor? = some b) :
    exists b' stop? w',
      Buffers.Tries w₂.disk b ((targets? c s args).getD b.keys) b' stop? ∧
        w'.desk = (w₂.disk, some b') ∧
        c.send args w = answered v w' stop? ∧
        (forall f, stop? = some f -> f.IsUnresolved ∧
          exists path, path ∈ (targets? c s args).getD b.keys ∧
            Buffers.IsLost w₂.disk path f) ∧
        (stop? = none -> forall path, path ∈ (targets? c s args).getD b.keys ->
          exists k, Buffers.key w₂.disk path = .ok k) := by
  rcases Buffers.exists_tries w₂.disk b ((targets? c s args).getD b.keys) with
    ⟨b', stop?, htries⟩
  let counted := (mapSession n fun s => { s with generation := s.generation + 1 }).after w₂
  have hsync : Editor.Leaves (Editor.maybeSync (targets? c s args)) counted (w₂.disk, some b')
      stop? :=
    Editor.leaves_maybeSync (w := counted) hb hfollows _ htries
  rcases leaves_send hcall hmutating hsync with ⟨w', hdesk, hrun⟩
  refine ⟨b', stop?, w', htries, hdesk, hsent.issued.trans hrun, ?_, ?_⟩
  · rintro f rfl
    rcases htries.exists_isLost with ⟨path, hpath, hlost⟩
    exact ⟨hlost.isUnresolved, path, hpath, hlost⟩
  · rintro rfl
    exact htries.exists_key

/-- The first session on a disk with a link that leads to itself, with an editor that follows. -/
def loopedSession : World :=
  { firstSession with
    disk := .looped
    client := { firstSession.client with editor? := some {}, follows := true } }

def loopRename : List Value :=
  [.text "new", .text "loop"]

theorem rename_loopedSession :
    exists s w₁ w₂ w',
      Sent loopedSession .rename loopRename 0 s w₁ ∧
        Transport.call s Command.rename.name loopRename w₁ = .ok .null w₂ ∧
        Command.rename.send loopRename loopedSession = .error (.linkLoop "/loop") w' := by
  have htargets : forall s : Session, s.directory = ⟨.single, []⟩ ->
      targets? .rename s loopRename = some ["/loop"] := by
    intro s hs
    have htext : ((⟨.single, []⟩ : Path) / Path.ofText "loop").text = "/loop" := rfl
    show some [(s.directory / Path.ofText "loop").text] = _
    rw [hs, htext]
  have hsent : exists s w₁, Sent loopedSession .rename loopRename 0 s w₁ ∧
      s.directory = ⟨.single, []⟩ ∧
      exists w₂, Transport.call s Command.rename.name loopRename w₁ = .ok .null w₂ ∧
        w₂.disk = Disk.looped ∧ w₂.client.follows = true ∧ w₂.client.editor? = some {} :=
    ⟨_, _, ⟨rfl, _, rfl, rfl, rfl⟩, rfl, _, rfl, rfl, rfl, rfl⟩
  rcases hsent with ⟨s, w₁, hsent, hs, w₂, hcall, hdisk, hfollows, hb⟩
  rcases answers_or_unresolved hsent hcall rfl hfollows hb with
    ⟨b', stop?, w', _, _, hrun, hstopped, hwhole⟩
  rw [htargets s hs, hdisk] at hstopped hwhole
  cases stop? with
  | none =>
      rcases hwhole rfl "/loop" List.mem_cons_self with ⟨k, hkey⟩
      rw [Buffers.key_loop] at hkey
      cases hkey
  | some f =>
      rcases hstopped f rfl with ⟨_, path, hpath, hlost⟩
      rw [List.mem_singleton.mp hpath] at hlost
      rcases hlost with hkey | ⟨k, hkey, _⟩
      · rw [Buffers.key_loop] at hkey
        cases hkey
        exact ⟨s, w₁, w₂, w', hsent, hcall, hrun⟩
      · rw [Buffers.key_loop] at hkey
        cases hkey

end Dispatch
end EngineClient
