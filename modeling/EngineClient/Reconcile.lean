import EngineClient.World

/-!
# Following the files

After a command that may have changed files, buffers are read again: the named ones,
or all that are open. Each is tried once, in order, and those that now agree with their
files are reported.
-/

namespace EngineClient

/-! ## Hosts of buffers -/

structure BufferHost (m : Type → Type) where
  /-- Takes note that buffers are about to be read again. -/
  begin : m Unit
  openBuffers : m (List String)
  /-- Reads the file of a buffer again, and says whether the buffer now agrees with it. -/
  revert : String → m Bool

namespace BufferHost

variable {m : Type → Type} [Monad m]

def revertEach (revert : String → m Bool) : List String → m (List String)
  | [] => pure []
  | path :: paths => do
      let reverted ← revert path
      let rest ← revertEach revert paths
      pure (if reverted then path :: rest else rest)

structure Reconciliation where
  requested : List String
  reverted : List String
  deriving DecidableEq, Repr

def reconcile (host : BufferHost m) (targets? : Option (List String)) : m Reconciliation := do
  host.begin
  let requested ←
    match targets? with
    | some targets => pure targets
    | none => host.openBuffers
  let reverted ← revertEach host.revert requested
  pure ⟨requested, reverted⟩

/-- The host to reconcile, if there is one and its buffers follow the files. -/
def following (follows : Bool) (host? : Option (BufferHost m)) : Option (BufferHost m) :=
  if follows then host? else none

end BufferHost

/-! ## The editor of a client -/

namespace Editor

def logger : String := "editor"

/-- The buffers of the editor; a client without one has none. -/
def buffers : Act Buffers := do
  return (← Act.client).editor?.getD {}

def setBuffers (b : Buffers) : Act Unit :=
  Act.mapClient fun c => { c with editor? := some b }

def openFile (path : String) : Act Unit := do
  setBuffers (← Act.ofExcept (Buffers.openFile (← Act.disk) (← buffers) path))

def closeFile (path : String) : Act Unit := do
  setBuffers (← Act.ofExcept (Buffers.closeFile (← Act.disk) (← buffers) path))

def edit (path text : String) : Act Unit := do
  setBuffers (← Act.ofExcept (Buffers.edit (← Act.disk) (← buffers) path text))

/-- Reads the file of a buffer again; trouble with it is recorded. -/
def revert (path : String) : Act Bool := do
  let r ← Act.ofExcept (Buffers.revert (← Act.disk) (← buffers) path)
  setBuffers r.buffers
  match r.trouble? with
  | some (k, f) =>
      Act.record logger .warning "buffer_revert_failed"
        [("path", .text k), ("error", .text f.message)]
  | none => pure ()
  return r.reverted

def host : BufferHost Act where
  begin := Act.mapClient fun c => { c with syncs := c.syncs + 1 }
  openBuffers := do return (← buffers).keys
  revert := revert

/-- Reads buffers of a host again, if there is one, and gives those that now agree with
their files. -/
def follow (targets? : Option (List String)) : Option (BufferHost Act) → Act (List String)
  | none => return []
  | some host => do
      let r ← host.reconcile targets?
      Act.record "buffers" .debug "buffers_reconciled"
        [("requested", .list (r.requested.map .text)), ("reverted", .list (r.reverted.map .text))]
      return r.reverted

/-- Reads buffers of the editor again, if they follow the files, and gives those that
now agree with them. -/
def maybeSync (targets? : Option (List String)) : Act (List String) := do
  Act.noteReconciliation targets?
  let c ← Act.client
  follow targets? (BufferHost.following c.follows (c.editor?.map fun _ => host))

end Editor
end EngineClient
