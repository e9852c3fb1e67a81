import EngineClient.Proofs.Run.Operations
import EngineClient.Shell.Loop

/-!
# The shell is calm

A shell opens no session and closes none but by watching it: every line, and every run over an
input, is a calm passage. Main statement: `calm_runInput`.
-/

namespace EngineClient
namespace Shell

open Act

/-!
## Output
-/

theorem calm_emit (e : Emission) : (emit e).Calm :=
  calm_of_outside (outside_of_agree fun _ => rfl)

theorem calm_showLines (ls : List String) : (showLines ls).Calm := by
  induction ls with
  | nil => exact .pure _
  | cons l ls ih => exact .bind (calm_emit _) fun _ => ih

theorem calm_showOutcome (o : Outcome) : (showOutcome o).Calm := by
  apply Moves.bind (calm_showLines _)
  intro _
  split
  · exact .pure _
  · exact .throw _

/-!
## Commands
-/

theorem calm_integer (word argument : String) : (ShellCommand.integer word argument).Calm :=
  .bind (.ofExcept _) fun _ => .pure _

theorem calm_extract (c : Command) (name path start stop : String) : (do
    let start ← ShellCommand.integer start "begin"
    let stop ← ShellCommand.integer stop "end"
    return Outcome.value (← c.send [.text name, .text path, start, stop]) : Act Outcome).Calm := by
  apply Moves.bind (calm_integer _ _)
  intro first
  apply Moves.bind (calm_integer _ _)
  intro last
  exact .bind (Command.calm_send _ _) fun _ => .pure _

theorem calm_run (c : ShellCommand) (args : List String) : (c.run args).Calm := by
  have hshown {x : Act Value} (hx : x.Calm) : (do return Outcome.value (← x)).Calm :=
    .bind hx fun _ => .pure _
  have hfetched (stack : HistoryStack) :
      (do return Outcome.history (← History.fetch stack)).Calm :=
    .bind (History.calm_fetch stack) fun _ => .pure _
  unfold ShellCommand.run
  split
  · exact .bind Operations.calm_getAllResources fun _ => .pure _
  · exact .bind (Operations.calm_getChildren _) fun _ => .pure _
  · exact hshown (Command.calm_send _ _)
  · exact hshown (Command.calm_send _ _)
  · exact hfetched _
  · exact hfetched _
  · exact hshown (Operations.calm_rename _ _ _)
  · exact .bind (calm_integer _ _) fun _ => hshown (Operations.calm_rename _ _ _)
  · exact calm_extract .extractMethod _ _ _ _
  · exact calm_extract .extractVariable _ _ _ _
  · apply Moves.bind (calm_integer _ _)
    intro position
    exact .bind (Operations.calm_codeAssist _ _ _) fun _ => .pure _
  · exact .pure _

theorem calm_runCommand (c : ShellCommand) (args : List String) : (runCommand c args).Calm := by
  apply Moves.bind (.attempt (calm_run c args))
  intro ran
  split
  · exact calm_showOutcome _
  · split
    · exact calm_emit _
    · exact .throw _

/-!
## Lines
-/

theorem calm_runWords (name : String) (args : List String) : (runWords name args).Calm := by
  unfold runWords
  split
  · exact calm_emit _
  · dsimp only
    split
    · exact calm_runCommand _ _
    · exact calm_emit _

theorem calm_runLine (line : String) : (runLine line).Calm := by
  unfold runLine
  split
  · exact .bind (calm_emit _) fun _ => .pure _
  · exact .pure _
  · split
    · exact .pure _
    · exact .bind (calm_runWords _ _) fun _ => .pure _

theorem calm_prompted {α : Type} (interactive : Bool) {x : Act α} (hx : x.Calm) :
    (if interactive = true then (do emit (.out prompt); x) else x : Act α).Calm := by
  split
  · exact .bind (calm_emit _) fun _ => hx
  · exact hx

theorem calm_runUntil (interactive : Bool) (broken? : Option Fault) (cs : List Char) :
    (runUntil interactive broken? cs).Calm := by
  -- Each line is shorter than the text that begins with it.
  induction cs using Text.lines.induct with
  | case1 =>
      rw [runUntil.eq_def]
      apply calm_prompted interactive
      cases broken? with
      | none => exact .pure _
      | some f => exact .throw _
  | case2 c cs ih =>
      rw [runUntil.eq_def]
      apply calm_prompted interactive
      refine .bind (calm_runLine _) fun goes => ?_
      cases goes with
      | true => exact ih
      | false => exact .pure _

theorem calm_runInput (interactive : Bool) (input : Input) : (runInput interactive input).Calm :=
  calm_runUntil interactive input.broken? input.text

end Shell
end EngineClient
