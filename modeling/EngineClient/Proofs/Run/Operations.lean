import EngineClient.Operations
import EngineClient.Proofs.Run.Calm

/-!
# Operations are calm

Whatever a user asks of the engine, the client passes only through gentle steps and closes
that succeed on the way to the answer or to the failure.
-/

namespace EngineClient

open Act

theorem Command.calm_send (c : Command) (args : List Value) : (c.send args).Calm :=
  Dispatch.calm_dispatch _ _

theorem History.moves_marked {R : World → World → Prop} [IsPreorder World R]
    {stack : HistoryStack} (h : (Session.requireRunning (command stack).name).Moves R)
    (answer : Value) : (do
      let descriptions ← Act.ofExcept (items (command stack).name answer)
      let s ← Session.ofNumber (← Session.requireRunning (command stack).name)
      return HistoryEntry.ofStack stack (← client).epoch s.generation descriptions :
        Act (List HistoryEntry)).Moves R := by
  refine .bind (.ofExcept _) fun descriptions => .bind h fun n => ?_
  exact .bind (Session.moves_ofNumber n) fun s => .bind .client fun c => .pure _

theorem History.calm_fetch (stack : HistoryStack) : (History.fetch stack).Calm := by
  apply Moves.bind (Command.calm_send _ _)
  intro v
  split
  · exact .pure _
  · exact moves_marked (Session.calm_requireRunning _) v

namespace Operations

variable {R : World → World → Prop} [IsPreorder World R]

theorem moves_root {command : String} (h : (Session.requireRunning command).Moves R) :
    (root command).Moves R :=
  .bind h fun n => .bind (Session.moves_ofNumber n) fun _ => .pure _

theorem moves_resources {c : Command} (h : (Session.requireRunning c.name).Moves R)
    (answer : Value) : (resources c answer).Moves R :=
  .bind (moves_root h) fun _ => .ofExcept _

theorem calm_root (command : String) : (root command).Calm :=
  moves_root (Session.calm_requireRunning command)

theorem calm_resources (c : Command) (answer : Value) : (resources c answer).Calm :=
  moves_resources (Session.calm_requireRunning c.name) answer

theorem calm_getAllResources : getAllResources.Calm :=
  .bind (Command.calm_send _ _) fun answer => calm_resources _ answer

theorem calm_getChildren (path : Value) : (getChildren path).Calm :=
  .bind (Command.calm_send _ _) fun answer => calm_resources _ answer

theorem calm_rename (newName path offset : Value) : (rename newName path offset).Calm := by
  unfold rename
  split
  · exact Command.calm_send _ _
  · exact Command.calm_send _ _

theorem moves_sourceText (p : Path) : (sourceText p).Moves R := by
  have hread : (do Act.ofExcept ((← Act.disk).readText p) : Act String).Moves R :=
    .bind .disk fun d => .ofExcept _
  refine .bind .client fun c => ?_
  cases c.editor? with
  | none =>
      refine .bind (.pure none) fun buffered => ?_
      cases buffered with
      | none => exact hread
      | some text => exact .pure text
  | some b =>
      refine .bind .disk fun d => .bind (.ofExcept _) fun buffered => ?_
      cases buffered with
      | none => exact hread
      | some text => exact .pure text

theorem calm_codeAssist (path : String) (position text : Value) :
    (codeAssist path position text).Calm := by
  have hanswer (text : Value) : (do
      let answer ← Command.codeAssist.send [text, position, .text path]
      Act.ofExcept (readAnswer "proposal" Command.codeAssist.name Proposal.read answer) :
        Act (List Proposal)).Calm :=
    .bind (Command.calm_send _ _) fun _ => .ofExcept _
  unfold codeAssist
  apply Moves.bind (calm_root _)
  intro directory
  split
  · exact .bind (moves_sourceText _) fun buffered => hanswer _
  · exact hanswer _

end Operations
end EngineClient
