import EngineClient.Proofs.Act
import EngineClient.Reconcile

/-!
# What following the files leaves alone

Buffers that are read again change the editor and nothing else. Around them a request to
follow the files is noted, and counted if the buffers follow the files at all.
-/

namespace EngineClient

/-- A world without its editor and without records. -/
def World.offEditor (w : World) : World :=
  { w with
    client := { w.client with editor? := none }
    trail := { w.trail with emissions := [] } }

/-- The world in which a request to follow the files was noted and counted. -/
def World.synced (targets? : Option (List String)) (w : World) : World :=
  { w with
    client :=
      { w.client with
        syncs :=
          if w.client.follows ∧ w.client.editor?.isSome then w.client.syncs + 1
          else w.client.syncs }
    trail := { w.trail with reconciliations := w.trail.reconciliations ++ [targets?] } }

namespace Editor

open Act

/-- The act changes the editor at most. -/
abbrev Local {α : Type} (x : Act α) : Prop :=
  x.Moves (Agree World.offEditor)

theorem local_record (logger : String) (level : Log.Level) (event : String) (fields : Table) :
    Local (record logger level event fields) :=
  fun _ => rfl

theorem local_buffers : Local buffers :=
  .bind .client fun _ => .pure _

theorem local_setBuffers (b : Buffers) : Local (setBuffers b) :=
  fun _ => rfl

theorem local_revert (path : String) : Local (revert path) := by
  unfold revert
  refine .bind .disk fun d => ?_
  refine .bind local_buffers fun b => ?_
  refine .bind (.ofExcept _) fun r => ?_
  refine .bind (local_setBuffers _) fun _ => ?_
  split
  · exact .bind (local_record _ _ _ _) fun _ => .pure _
  · exact .pure _

theorem local_revertEach (paths : List String) :
    Local (BufferHost.revertEach revert paths) := by
  induction paths with
  | nil =>
      exact .pure _
  | cons path paths ih =>
      exact .bind (local_revert path) fun _ => .bind ih fun _ => .pure _

theorem reconcile_offEditor (targets? : Option (List String)) (w : World) :
    ((host.reconcile targets?).after w).offEditor =
      { w with client := { w.client with syncs := w.client.syncs + 1 } }.offEditor := by
  unfold BufferHost.reconcile
  refine part_after_bind World.offEditor host.begin (fun _ => ?_) w
  have hrest : forall paths, Local (do
      let reverted ← BufferHost.revertEach host.revert paths
      return (⟨paths, reverted⟩ : BufferHost.Reconciliation)) :=
    fun paths => .bind (local_revertEach paths) fun _ => .pure _
  cases targets? with
  | some targets =>
      exact hrest targets
  | none =>
      exact .bind (.bind local_buffers fun _ => .pure _) hrest

theorem follow_host_offEditor (targets? : Option (List String)) (w : World) :
    ((follow targets? (some host)).after w).offEditor =
      { w with client := { w.client with syncs := w.client.syncs + 1 } }.offEditor := by
  unfold follow
  rw [part_after_bind World.offEditor, reconcile_offEditor]
  intro r
  exact .bind (local_record _ _ _ _) fun _ => .pure _

theorem maybeSync_offEditor (targets? : Option (List String)) (w : World) :
    ((maybeSync targets?).after w).offEditor = (w.synced targets?).offEditor := by
  unfold maybeSync
  rw [after_bind_of_ok (rfl : noteReconciliation targets? w = .ok () _)]
  rw [after_bind_of_ok (client_run _)]
  cases hfollows : w.client.follows with
  | false =>
      simp [BufferHost.following, World.synced, World.offEditor, hfollows, after, follow]
  | true =>
      cases heditor : w.client.editor? with
      | none =>
          simp [BufferHost.following, World.synced, World.offEditor, hfollows, heditor, after,
            follow]
      | some b =>
          simp only [BufferHost.following, if_true, Option.map_some]
          rw [follow_host_offEditor]
          simp [World.synced, World.offEditor, hfollows, heditor]

theorem part_after_maybeSync {γ : Type} (k : World → γ) (hk : forall v, k v.offEditor = k v)
    (targets? : Option (List String)) (w : World) :
    k ((maybeSync targets?).after w) = k (w.synced targets?) := by
  have hsynced : Agree World.offEditor (w.synced targets?) ((maybeSync targets?).after w) :=
    maybeSync_offEditor targets? w
  exact hsynced.factor k hk

end Editor
end EngineClient
