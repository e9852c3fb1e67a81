import EngineClient.Proofs.Editor.Renaming
import EngineClient.Proofs.Run.Refusals
import EngineClient.Proofs.Shell.Lines
import EngineClient.Proofs.Shell.Quoting
import EngineClient.Proofs.Wire.Integers

/-!
# What lines ask of the engine

A command of the shell takes texts and integers. Written on a line, each in quotes, they reach
the engine as they are: the line is split into them, an integer is read from its digits, and
exactly one request is made, of the command of the catalog and with its arguments in order.
Main statement: `requests_of_line`.
-/

namespace EngineClient
namespace Shell

open Act

/-!
## Arguments
-/

inductive Arg where
  | text (s : String)
  | integer (i : Int)

namespace Arg

def kind : Arg → ParamKind
  | .text _ => .text
  | .integer _ => .integer

def word : Arg → String
  | .text s => s
  | .integer i => Text.decimalInt i

def value : Arg → Value
  | .text s => .text s
  | .integer i => .int i

def IsShort : Arg → Prop
  | .text _ => True
  | .integer i => (Nat.toDigits 10 i.natAbs).length ≤ Literal.maxIntegerDigits

instance (a : Arg) : Decidable a.IsShort :=
  match a with
  | .text _ => inferInstanceAs (Decidable True)
  | .integer i =>
      inferInstanceAs (Decidable ((Nat.toDigits 10 i.natAbs).length ≤ Literal.maxIntegerDigits))

theorem accepts_value (a : Arg) : a.kind.accepts a.value = true := by
  cases a <;> rfl

end Arg

namespace ShellCommand

def command : ShellCommand → Command
  | .resources => .getAllResources
  | .children => .getChildren
  | .undo => .undo
  | .redo => .redo
  | .undoHistory => .undoHistory
  | .redoHistory => .redoHistory
  | .rename => .rename
  | .extractMethod => .extractMethod
  | .extractVariable => .extractVariable
  | .assist => .codeAssist

/-- What stands at each position: a text, or an integer. -/
def kinds : ShellCommand → List ParamKind
  | .children => [.text]
  | .rename => [.text, .text, .integer]
  | .extractMethod => [.text, .text, .integer, .integer]
  | .extractVariable => [.text, .text, .integer, .integer]
  | .assist => [.text, .integer]
  | _ => []

/-- The arguments are as many as the command takes, each of its position's kind. -/
structure Takes (c : ShellCommand) (args : List Arg) : Prop where
  fewest : c.arity.1 ≤ args.length
  most : args.length ≤ c.arity.2
  kinds : args.map Arg.kind = c.kinds.take args.length
  short : forall a, a ∈ args -> a.IsShort

/-!
## The tables

The shell and the catalog agree on what a command takes. Only proposals differ: the shell
takes no text, and the engine gets the path last.
-/

variable {c : ShellCommand} {args : List Arg}

theorem kinds_eq (hc : c ≠ .assist) : c.kinds = c.command.params.map (·.kind) := by
  cases c with
  | assist => exact absurd rfl hc
  | _ => rfl

theorem arity_eq (hc : c ≠ .assist) : c.arity = (c.command.minArity, c.command.maxArity) := by
  cases c with
  | assist => exact absurd rfl hc
  | _ => rfl

theorem accepts_of_kinds {params : List Param}
    (h : args.map Arg.kind = (params.map (·.kind)).take args.length) :
    forall e, e ∈ params.zip (args.map Arg.value) -> e.1.kind.accepts e.2 = true := by
  -- Parameters past the last argument are not checked.
  induction args generalizing params with
  | nil => simp
  | cons a args ih =>
      cases params with
      | nil => simp
      | cons p params =>
          simp only [List.map_cons, List.length_cons, List.take_succ_cons, List.cons.injEq] at h
          intro e he
          rcases List.mem_cons.mp he with rfl | he
          · change p.kind.accepts a.value = true
            rw [← h.1]
            exact a.accepts_value
          · exact ih h.2 e he

theorem Takes.accepts (h : c.Takes args) (hc : c ≠ .assist) :
    c.command.Accepts (args.map Arg.value) := by
  have hkinds := h.kinds
  have hfewest := h.fewest
  have hmost := h.most
  rw [kinds_eq hc] at hkinds
  rw [arity_eq hc] at hfewest hmost
  refine ⟨?_, ?_, accepts_of_kinds hkinds⟩
  · rw [List.length_map]
    exact hfewest
  · rw [List.length_map]
    exact hmost

/-!
## Shapes

The lists of arguments that each command takes.
-/

/-- The ways in which a command can be given its arguments. -/
inductive Given : ShellCommand → List Arg → Prop where
  | bare {c : ShellCommand} (h : c.arity = (0, 0)) : Given c []
  | children (path : String) : Given .children [.text path]
  | rename (newName path : String) : Given .rename [.text newName, .text path]
  | renameAt (newName path : String) {offset : Int} (h : Arg.IsShort (.integer offset)) :
      Given .rename [.text newName, .text path, .integer offset]
  | extract {c : ShellCommand} (hc : c = .extractMethod ∨ c = .extractVariable)
      (name path : String) {start stop : Int} (hstart : Arg.IsShort (.integer start))
      (hstop : Arg.IsShort (.integer stop)) :
      Given c [.text name, .text path, .integer start, .integer stop]
  | assist (path : String) {position : Int} (h : Arg.IsShort (.integer position)) :
      Given .assist [.text path, .integer position]

theorem exists_text {ks : List ParamKind} (h : args.map Arg.kind = .text :: ks) :
    exists s rest, args = .text s :: rest ∧ rest.map Arg.kind = ks := by
  rcases List.map_eq_cons_iff.mp h with ⟨a, rest, rfl, ha, hrest⟩
  cases a with
  | text s => exact ⟨s, rest, rfl, hrest⟩
  | integer i => cases ha

theorem exists_integer {ks : List ParamKind} (h : args.map Arg.kind = .integer :: ks) :
    exists i rest, args = .integer i :: rest ∧ rest.map Arg.kind = ks := by
  rcases List.map_eq_cons_iff.mp h with ⟨a, rest, rfl, ha, hrest⟩
  cases a with
  | text s => cases ha
  | integer i => exact ⟨i, rest, rfl, hrest⟩

theorem given_of_texts (hkinds : args.map Arg.kind = [.text, .text]) : Given .rename args := by
  rcases exists_text hkinds with ⟨newName, _, rfl, hrest⟩
  rcases exists_text hrest with ⟨path, _, rfl, hrest₁⟩
  rw [List.map_eq_nil_iff.mp hrest₁]
  exact .rename newName path

theorem given_of_extract (hc : c = .extractMethod ∨ c = .extractVariable)
    (hkinds : args.map Arg.kind = [.text, .text, .integer, .integer])
    (hshort : forall a, a ∈ args -> a.IsShort) : Given c args := by
  rcases exists_text hkinds with ⟨name, _, rfl, hrest⟩
  rcases exists_text hrest with ⟨path, _, rfl, hrest₁⟩
  rcases exists_integer hrest₁ with ⟨start, _, rfl, hrest₂⟩
  rcases exists_integer hrest₂ with ⟨stop, _, rfl, hrest₃⟩
  rw [List.map_eq_nil_iff.mp hrest₃] at hshort ⊢
  exact .extract hc name path (hshort _ (by simp)) (hshort _ (by simp))

theorem given_of_bare (hc : c.arity = (0, 0)) (hmost : args.length ≤ c.arity.2) :
    Given c args := by
  rw [hc] at hmost
  rw [List.length_eq_zero_iff.mp (Nat.le_zero.mp hmost)]
  exact .bare hc

theorem Takes.given (h : c.Takes args) : Given c args := by
  rcases h with ⟨hfewest, hmost, hkinds, hshort⟩
  cases c with
  | children =>
      have hlength : args.length = 1 := Nat.le_antisymm hmost hfewest
      rw [hlength] at hkinds
      rcases exists_text hkinds with ⟨path, _, rfl, hrest⟩
      rw [List.map_eq_nil_iff.mp hrest]
      exact .children path
  | rename =>
      -- Only the offset of a renaming can be left out.
      rcases Nat.lt_or_eq_of_le hmost with hless | hlength
      · have hlength : args.length = 2 := Nat.le_antisymm (Nat.le_of_lt_succ hless) hfewest
        rw [hlength] at hkinds
        exact given_of_texts hkinds
      · rw [hlength] at hkinds
        rcases exists_text hkinds with ⟨newName, _, rfl, hrest⟩
        rcases exists_text hrest with ⟨path, _, rfl, hrest₁⟩
        rcases exists_integer hrest₁ with ⟨offset, _, rfl, hrest₂⟩
        rw [List.map_eq_nil_iff.mp hrest₂] at hshort ⊢
        exact .renameAt newName path (hshort _ (by simp))
  | extractMethod =>
      rw [Nat.le_antisymm hmost hfewest] at hkinds
      exact given_of_extract (Or.inl rfl) hkinds hshort
  | extractVariable =>
      rw [Nat.le_antisymm hmost hfewest] at hkinds
      exact given_of_extract (Or.inr rfl) hkinds hshort
  | assist =>
      rw [Nat.le_antisymm hmost hfewest] at hkinds
      rcases exists_text hkinds with ⟨path, _, rfl, hrest⟩
      rcases exists_integer hrest with ⟨position, _, rfl, hrest₁⟩
      rw [List.map_eq_nil_iff.mp hrest₁] at hshort ⊢
      exact .assist path (hshort _ (by simp))
  | _ => exact given_of_bare rfl hmost

/-!
## The parts of a command

The arguments of the request are settled, the request is made, and its answer is decoded. Only
proposals need more than the words: the text of the file.
-/

def settle (c : ShellCommand) (args : List Arg) : Act (List Value) :=
  match c, args with
  | .assist, [.text path, .integer position] =>
      (Query.proposals path (.int position) .null).request
  | _, args => pure (args.map Arg.value)

def finish (c : ShellCommand) (answer : Value) : Act Outcome :=
  match c with
  | .resources => do return .resources (← Operations.resources .getAllResources answer)
  | .children => do return .resources (← Operations.resources .getChildren answer)
  | .undoHistory => do return .history (← Query.decode (.history .undo) answer)
  | .redoHistory => do return .history (← Query.decode (.history .redo) answer)
  | .assist => do
      return .proposals (← Act.ofExcept
        (Operations.readAnswer "proposal" Command.codeAssist.name Proposal.read answer))
  | _ => pure (.value answer)

/-- The answer to a command that changes files is shown as it is, any other is decoded. -/
inductive Finishes (c : ShellCommand) (answer : Value) : Prop where
  | shows (hmutating : c.command.mutating = true) (h : c.finish answer = pure (.value answer))
  | decodes (q : Query) (k : List q.Item → Outcome) (hreading : c.command.mutating = false)
      (h : c.finish answer = do return k (← q.decode answer))

theorem finishes (c : ShellCommand) (answer : Value) : Finishes c answer := by
  cases c with
  | resources => exact .decodes (.resources none) .resources rfl rfl
  | children => exact .decodes (.resources (some .null)) .resources rfl rfl
  | undoHistory => exact .decodes (.history .undo) .history rfl rfl
  | redoHistory => exact .decodes (.history .redo) .history rfl rfl
  | assist => exact .decodes (.proposals "" .null .null) .proposals rfl rfl
  | _ => exact .shows rfl rfl

theorem integer_word {i : Int} (h : Arg.IsShort (.integer i)) (argument : String) :
    integer (Text.decimalInt i) argument = pure (.int i) := by
  rw [integer, integerArgument, Wire.integer_decimalInt h]
  rfl

theorem bind_run_query (q : Query) (k : List q.Item → Outcome) :
    (do return k (← q.run) : Act Outcome) =
      q.request >>= fun values => q.command.send values >>= fun answer => do
        return k (← q.decode answer) := by
  rw [q.run_eq]
  simp only [bind_assoc]

theorem run_eq (h : Given c args) :
    c.run (args.map Arg.word) =
      c.settle args >>= fun values => c.command.send values >>= c.finish := by
  cases h with
  | bare hc =>
      cases c with
      | resources => exact bind_run_query (.resources none) .resources
      | undo => rfl
      | redo => rfl
      | undoHistory => exact bind_run_query (.history .undo) .history
      | redoHistory => exact bind_run_query (.history .redo) .history
      | _ => cases hc
  | children path => exact bind_run_query (.resources (some (.text path))) .resources
  | rename newName path => rfl
  | renameAt newName path hoffset =>
      simp only [run, List.map_cons, List.map_nil, Arg.word, integer_word hoffset]
      rfl
  | extract hc name path hstart hstop =>
      rcases hc with rfl | rfl
      · simp only [run, List.map_cons, List.map_nil, Arg.word, integer_word hstart,
          integer_word hstop]
        rfl
      · simp only [run, List.map_cons, List.map_nil, Arg.word, integer_word hstart,
          integer_word hstop]
        rfl
  | @assist path position hposition =>
      simp only [run, List.map_cons, List.map_nil, Arg.word, integer_word hposition]
      exact bind_run_query (.proposals path (.int position) .null) .proposals

end ShellCommand

/-!
## Requests

Only handing a command to the transport makes a request.
-/

abbrev AsksNothing {α : Type} (x : Act α) : Prop :=
  x.Moves (Agree fun w => w.trail.requests)

theorem asksNothing_of_still {α : Type} {x : Act α} (h : x.Still) : AsksNothing x :=
  fun w => (h w).factor (·.trail.requests) fun _ => rfl

theorem asksNothing_finish (c : ShellCommand) (answer : Value) : AsksNothing (c.finish answer) := by
  cases c.finishes answer with
  | shows _ h =>
      rw [h]
      exact .pure _
  | decodes q k _ h =>
      rw [h]
      refine .bind (q.moves_decode (fun command => ?_) answer) fun _ => .pure _
      exact asksNothing_of_still (Session.still_requireRunning command)

theorem requests_after_send {w : World} (hapart : w.IsApart) (c : Command) (n : Nat) (s : Session)
    (args : List Value) :
    ((Dispatch.send c n s args).after w).trail.requests =
      w.trail.requests ++ [(c.name, args)] := by
  have hsync : AsksNothing (Editor.maybeSync (Dispatch.targets? c s args)) :=
    Editor.part_after_maybeSync (fun v => v.trail.requests) (fun _ => rfl) _
  have hrecord : AsksNothing (record Dispatch.logger .debug "dispatched"
      [("method", .text c.name)]) := fun _ => rfl
  have hcall := congrArg Tally.requests (Dispatch.tally_after_call hapart s c args)
  unfold Dispatch.send
  rw [part_after_bind (fun v => v.trail.requests)]
  · exact hcall
  · intro answer
    split
    · refine .bind ?_ fun _ => .bind hrecord fun _ => .pure _
      exact .bind (fun _ => rfl) fun _ => .bind hsync fun _ => .pure _
    · exact .bind hrecord fun _ => .pure _

theorem asksNothing_showOutcome (o : Outcome) : AsksNothing (showOutcome o) := by
  have hlines : forall ls, AsksNothing (showLines ls) := by
    intro ls
    induction ls with
    | nil => exact .pure _
    | cons l ls ih => exact .bind (fun _ => rfl) fun _ => ih
  refine .bind (hlines _) fun _ => ?_
  split
  · exact .pure _
  · exact .throw _

theorem requests_after_runLine {line : String} {c : ShellCommand} {words : List String}
    (h : Asks line c words) (w : World) :
    ((runLine line).after w).trail.requests = ((c.run words).after w).trail.requests := by
  rw [after_of_run_eq (runLine_of_asks h w)]
  rw [part_after_bind (fun v => v.trail.requests) _ fun _ => .pure _]
  unfold runCommand
  rw [part_after_bind (fun v => v.trail.requests), after_attempt]
  intro result
  cases result with
  | ok o => exact asksNothing_showOutcome o
  | error f =>
      dsimp only
      split
      · exact fun _ => rfl
      · exact .throw _

/-!
## What a command sends

The engine gets the arguments of the line. For proposals it gets the text of the file first,
and the path last; without a text there is nothing to send.
-/

/-- A command with arguments sends values to the engine. -/
inductive Sends (w : World) (s : Session) : ShellCommand → List Arg → List Value → Prop where
  | words {c : ShellCommand} {args : List Arg} (hc : c ≠ .assist) :
      Sends w s c args (args.map Arg.value)
  | text {path text : String} {position : Int}
      (htext : Operations.sourceText (s.directory / Path.ofText path) w = .ok text w) :
      Sends w s .assist [.text path, .integer position] [.text text, .int position, .text path]

variable {w w' : World} {n : Nat} {s : Session}

theorem Sends.unique {c : ShellCommand} {args : List Arg} {values values' : List Value}
    (h : Sends w s c args values) (h' : Sends w s c args values') : values = values' := by
  cases h with
  | words hc =>
      cases h' with
      | words => rfl
      | text => exact absurd rfl hc
  | text htext =>
      cases h' with
      | words hc => exact absurd rfl hc
      | text htext' =>
          rw [htext] at htext'
          cases htext'
          rfl

/-- The text of a file: that of its buffer, or else that on the disk. -/
def sourceOf (editor? : Option Buffers) (d : Disk) (p : Path) : Except Fault String :=
  match editor? with
  | none => d.readText p
  | some b =>
      match Buffers.text? d b p.text with
      | .error f => .error f
      | .ok (some text) => .ok text
      | .ok none => d.readText p

theorem sourceText_run (p : Path) (w : World) :
    Operations.sourceText p w = Act.ofExcept (sourceOf w.client.editor? w.disk p) w := by
  unfold Operations.sourceText sourceOf
  rw [bind_run_of_ok (client_run w)]
  cases w.client.editor? with
  | none => rfl
  | some b =>
      dsimp only
      rw [bind_run_of_ok (disk_run w)]
      cases Buffers.text? w.disk b p.text with
      | error f => rfl
      | ok text? => cases text? <;> rfl

/-- The text of a file can be obtained or not, whatever happens to engines and records. -/
theorem sourceText_or_error (hclient : w'.client = w.client) (hdisk : w'.disk = w.disk)
    (p : Path) :
    (exists text,
      Operations.sourceText p w = .ok text w ∧ Operations.sourceText p w' = .ok text w') ∨
    (forall text, Operations.sourceText p w ≠ .ok text w) ∧
      exists f, Operations.sourceText p w' = .error f w' := by
  rw [sourceText_run, sourceText_run, hclient, hdisk]
  cases sourceOf w.client.editor? w.disk p with
  | ok text => exact Or.inl ⟨text, rfl, rfl⟩
  | error f =>
      right
      constructor
      · intro text h
        cases h
      · exact ⟨f, rfl⟩

/-!
## Settling the arguments
-/

theorem after_requireRunning (command : String) (w : World) :
    (Session.requireRunning command).after w = Session.isRunning.after w := by
  refine after_bind_of_idle (fun running v => ?_) w
  cases running with
  | true =>
      rw [if_pos rfl, after_bind_of_ok (client_run v)]
      cases v.client.current? <;> rfl
  | false => rfl

theorem after_root (command : String) (w : World) :
    (Operations.root command).after w = Session.isRunning.after w := by
  have hidle : forall n v, (do return (← Session.ofNumber n).directory : Act Path).after v = v :=
    fun n v => (after_bind_of_idle (fun _ _ => rfl) v).trans (Session.after_ofNumber n v)
  exact (after_bind_of_idle hidle w).trans (after_requireRunning command w)

/-- The ways in which the arguments of a command are settled while its session runs. -/
inductive Settles (w : World) (n : Nat) (s : Session) (c : ShellCommand) (args : List Arg) :
    EStateM.Result Fault World (List Value) → Prop where
  | sends {values : List Value} {w₀ : World} (hsends : Sends w s c args values)
      (haccepts : c.command.Accepts values) (hwanes : w.Wanes w₀)
      (hruns : Session.Runs w₀ n s) : Settles w n s c args (.ok values w₀)
  | textless {f : Fault} {w₀ : World} (hc : c = .assist)
      (hnone : forall values, ¬ Sends w s c args values) (hwanes : w.Wanes w₀)
      (hfault : ¬ f.IsRefusal) : Settles w n s c args (.error f w₀)

theorem settle_assist_run {root : Path} {w₁ : World}
    (hroot : Operations.root Command.codeAssist.name w = .ok root w₁) (path : String)
    (position : Int) :
    ShellCommand.settle .assist [.text path, .integer position] w =
      (Operations.sourceText (root / Path.ofText path) >>= fun text =>
        (pure [.text text, .int position, .text path] : Act (List Value))) w₁ := by
  simp only [ShellCommand.settle, Query.request]
  rw [bind_run_of_ok hroot]
  simp only [pure_bind]

theorem settles_assist (hapart : w.IsApart) (hruns : Session.Runs w n s)
    (hstays : Session.Runs (Session.isRunning.after w) n s) (path : String) (position : Int) :
    Settles w n s .assist [.text path, .integer position]
      (ShellCommand.settle .assist [.text path, .integer position] w) := by
  rcases Operations.root_of_runs hapart hruns Command.codeAssist.name with ⟨w₁, hroot, hwanes⟩
  have hlooked : w₁ = Session.isRunning.after w := by
    rw [← after_root Command.codeAssist.name, after_of_ok hroot]
  -- The text is read after the look, in a world with the same files and buffers.
  have hdisk : w₁.disk = w.disk := hwanes.factor World.disk fun _ => rfl
  rw [settle_assist_run hroot]
  rcases sourceText_or_error hwanes.client hdisk (s.directory / Path.ofText path) with
    ⟨text, htext, htext₁⟩ | ⟨hnone, f, hfault⟩
  · rw [bind_run_of_ok htext₁]
    refine .sends (.text htext) ((Command.check_eq_ok_iff _ _).mp rfl) hwanes ?_
    rw [hlooked]
    exact hstays
  · rw [bind_run_of_error hfault]
    refine .textless rfl ?_ hwanes (Operations.failsOnly_sourceText _ w₁ f w₁ hfault)
    intro values hsends
    cases hsends with
    | words hc => exact hc rfl
    | text htext => exact hnone _ htext

theorem settles_settle (hapart : w.IsApart) (hruns : Session.Runs w n s) {c : ShellCommand}
    {args : List Arg} (htakes : c.Takes args)
    (hstays : c = .assist -> Session.Runs (Session.isRunning.after w) n s) :
    Settles w n s c args (c.settle args w) := by
  by_cases hc : c = .assist
  · subst hc
    cases htakes.given with
    | bare harity => cases harity
    | extract hother => rcases hother with hother | hother <;> cases hother
    | @assist path position hposition =>
        exact settles_assist hapart hruns (hstays rfl) path position
  · have hsettle : c.settle args w = .ok (args.map Arg.value) w := by
      unfold ShellCommand.settle
      split
      · exact absurd rfl hc
      · rfl
    rw [hsettle]
    exact .sends (.words hc) (htakes.accepts hc) (refl_of World.Wanes w) hruns

/-!
## Refusals

Nothing but the transport itself can refuse what a line asks for.
-/

theorem seen_after_send (hapart : w.IsApart) (hseen : forall f, ¬ Session.Unseen w f) {c : Command}
    (hreading : c.mutating = false) {args : List Value} {answer : Value} {w₁ : World}
    (h : Dispatch.send c n s args w = .ok answer w₁) :
    w₁.IsApart ∧ forall f, ¬ Session.Unseen w₁ f := by
  rcases bind_eq_ok h with ⟨v, w₂, hcall, hrest⟩
  rcases Transport.outside_call s c.name args w (hapart.of_eq rfl rfl) with ⟨hapart₂, houtside⟩
  rw [after_of_ok hcall] at hapart₂ houtside
  rw [hreading] at hrest
  cases hrest
  constructor
  · exact hapart₂.of_eq rfl rfl
  · intro f hunseen
    exact hseen f (Session.unseen_of_outside houtside hunseen)

theorem refusal_of_answer (hapart : w.IsApart) (hseen : forall f, ¬ Session.Unseen w f)
    {c : ShellCommand} {values : List Value} {f : Fault}
    (h : (Dispatch.send c.command n s values >>= c.finish) w = .error f w')
    (hrefusal : f.IsRefusal) :
    exists w₁, Transport.call s c.command.name values w = .error f w₁ := by
  rcases bind_eq_error h with hsend | ⟨answer, w₁, hsend, hfinish⟩
  · exact Dispatch.refusal_of_send hsend hrefusal
  · -- The engine has answered, and decoding an answer is no refusal.
    cases c.finishes answer with
    | shows _ hshown =>
        rw [hshown] at hfinish
        cases hfinish
    | decodes q k hreading hdecoded =>
        rw [hdecoded] at hfinish
        rcases seen_after_send hapart hseen hreading hsend with ⟨hapart₁, hseen₁⟩
        rcases bind_eq_error hfinish with hdecode | ⟨items, w₂, _, hreturn⟩
        · exact absurd hrefusal (Query.not_isRefusal_of_decode hapart₁ hseen₁ hdecode)
        · cases hreturn

/-!
## Lines
-/

def lineOf (c : ShellCommand) (args : List Arg) : String :=
  quoteWords (c.name :: args.map Arg.word)

theorem asks_lineOf {c : ShellCommand} {args : List Arg} (htakes : c.Takes args) :
    Asks (lineOf c args) c (args.map Arg.word) := by
  refine ⟨split_quoteWords _, ?_, ?_⟩
  · rw [List.length_map]
    exact htakes.fewest
  · rw [List.length_map]
    exact htakes.most

/-- What a command with arguments does while its session runs: it hands values to the
transport, or stops before. -/
inductive Proceeds (w : World) (n : Nat) (s : Session) (c : ShellCommand) (args : List Arg) :
    Prop where
  | sends {values : List Value} {w₁ : World} (hsends : Sends w s c args values)
      (haccepts : c.command.Accepts values) (hwanes : w.Wanes w₁)
      (hrun : c.run (args.map Arg.word) w =
        (Dispatch.send c.command n s values >>= c.finish) w₁) : Proceeds w n s c args
  | textless {f : Fault} {w₁ : World} (hc : c = .assist)
      (hnone : forall values, ¬ Sends w s c args values) (hwanes : w.Wanes w₁)
      (hfault : ¬ f.IsRefusal) (hrun : c.run (args.map Arg.word) w = .error f w₁) :
      Proceeds w n s c args

theorem proceeds_of_takes (hapart : w.IsApart) (hruns : Session.Runs w n s) {c : ShellCommand}
    {args : List Arg} (htakes : c.Takes args)
    (hstays : c = .assist -> Session.Runs (Session.isRunning.after w) n s) :
    Proceeds w n s c args := by
  have hrun := congrFun (ShellCommand.run_eq htakes.given) w
  have hsettles := settles_settle hapart hruns htakes hstays
  generalize hsettle : c.settle args w = settled at hsettles
  cases hsettles with
  | sends hsends haccepts hwanes hruns₀ =>
      rcases Dispatch.dispatch_of_runs (hapart.of_wanes hwanes) c.command.find_name haccepts hruns₀
        with ⟨w₁, hwanes₁, hsend⟩
      refine .sends hsends haccepts (hwanes.trans hwanes₁) ?_
      rw [hrun, bind_run_of_ok hsettle]
      change (dispatch (.text c.command.name) _ >>= c.finish) _ = _
      rw [bind_run, hsend, bind_run]
  | textless hc hnone hwanes hfault =>
      rw [bind_run_of_error hsettle] at hrun
      exact .textless hc hnone hwanes hfault hrun

theorem requests_of_wanes {w₁ : World} (hwanes : w.Wanes w₁) :
    w₁.trail.requests = w.trail.requests :=
  hwanes.factor (fun v => v.trail.requests) fun _ => rfl

/-- Over a running session, the quoted line of a command with arguments makes one request: of
the command of the catalog, with the arguments in order, which the catalog accepts. Only a line
that asks for proposals may make none, because there is no text to send; for it the session is
looked at twice, and runs both times. No such line is refused unless the transport itself does
so, and over connections only a peer can. -/
theorem requests_of_line (hapart : w.IsApart) (hruns : Session.Runs w n s) {c : ShellCommand}
    {args : List Arg} (htakes : c.Takes args)
    (hstays : c = .assist -> Session.Runs (Session.isRunning.after w) n s) :
    Asks (lineOf c args) c (args.map Arg.word) ∧
    (forall values, Sends w s c args values ->
      c.command.Accepts values ∧
        ((runLine (lineOf c args)).after w).trail.requests =
          w.trail.requests ++ [(c.command.name, values)]) ∧
    ((forall values, ¬ Sends w s c args values) ->
      c = .assist ∧
        ((runLine (lineOf c args)).after w).trail.requests = w.trail.requests) ∧
    forall f w', c.run (args.map Arg.word) w = .error f w' -> f.IsRefusal ->
      (exists values w₁ w₂,
        Sends w s c args values ∧ w.Wanes w₁ ∧
          Transport.call s c.command.name values w₁ = .error f w₂) ∧
      (w.surroundings.transport = .wire ->
        .unreachable f ∈ w.surroundings.peers ∨ .fails f ∈ w.surroundings.peers) := by
  have hasks := asks_lineOf htakes
  refine ⟨hasks, ?_⟩
  rw [requests_after_runLine hasks]
  cases proceeds_of_takes hapart hruns htakes hstays with
  | @sends values w₁ hsends haccepts hwanes hrun =>
      have hapart₁ := hapart.of_wanes hwanes
      have hrequests : ((c.run (args.map Arg.word)).after w).trail.requests =
          w.trail.requests ++ [(c.command.name, values)] := by
        rw [after_of_run_eq hrun,
          part_after_bind (fun v => v.trail.requests) _ (asksNothing_finish c),
          requests_after_send hapart₁, requests_of_wanes hwanes]
      refine ⟨?_, ?_, ?_⟩
      · intro values' hsends'
        cases hsends.unique hsends'
        exact ⟨haccepts, hrequests⟩
      · intro hnone
        exact absurd hsends (hnone values)
      · intro f w' hfails hrefusal
        rw [hrun] at hfails
        have hseen : forall f, ¬ Session.Unseen w₁ f := fun f hunseen =>
          Session.not_unseen_of_runs hruns f (Session.unseen_of_outside (.of_wanes hwanes) hunseen)
        rcases refusal_of_answer hapart₁ hseen hfails hrefusal with ⟨w₂, hcall⟩
        refine ⟨⟨values, w₁, w₂, hsends, hwanes, hcall⟩, fun hwire => ?_⟩
        have hsurroundings : w₁.surroundings = w.surroundings :=
          hwanes.factor World.surroundings fun _ => rfl
        rw [← hsurroundings] at hwire ⊢
        exact Transport.peer_of_refusal hwire hcall hrefusal
  | textless hc hnone hwanes hfault hrun =>
      refine ⟨?_, ?_, ?_⟩
      · intro values hsends
        exact absurd hsends (hnone values)
      · intro _
        rw [after_of_error hrun]
        exact ⟨hc, requests_of_wanes hwanes⟩
      · intro f w' hfails hrefusal
        rw [hrun] at hfails
        cases hfails
        exact absurd hrefusal hfault

def besideFile : World :=
  { firstSession with disk := .rewritten }

theorem sourceText_besideFile :
    Operations.sourceText (Path.ofText "/" / Path.ofText "a.py") besideFile =
      .ok "new" besideFile := by
  have hpath : Path.ofText "/" / Path.ofText "a.py" = Path.ofText "/a.py" := rfl
  rw [sourceText_run, hpath]
  exact congrArg (Act.ofExcept · besideFile) Buffers.readText_a

/-- A name with a quote in it, an empty path and a negative offset reach the engine, and so does
the text of a file for which proposals are asked. -/
theorem requests_besideFile :
    ((runLine (lineOf .rename [.text "it's", .text "", .integer (-7)])).after
        besideFile).trail.requests =
      [("rename", [.text "it's", .text "", .int (-7)])] ∧
    ((runLine (lineOf .assist [.text "a.py", .integer 5])).after besideFile).trail.requests =
      [("code_assist", [.text "new", .int 5, .text "a.py"])] := by
  have hreached : Reached (fun _ _ => True) [0] firstSession := reached_firstSession trivial
  have hapart : besideFile.IsApart := hreached.isApart.of_eq rfl rfl
  have hwatched := Session.Watched.mk (w := besideFile) rfl rfl rfl engines_firstSession rfl
  have hruns : Session.Runs besideFile 0 _ := ⟨rfl, 0, firstEngine, hwatched, rfl⟩
  have hlooked : (Session.isRunning.after besideFile).engines[0]? = some firstEngine.look := rfl
  have hstays : Session.Runs (Session.isRunning.after besideFile) 0 _ :=
    ⟨rfl, 0, _, Session.Watched.mk rfl rfl rfl hlooked rfl, rfl⟩
  constructor
  · have htakes : ShellCommand.rename.Takes [.text "it's", .text "", .integer (-7)] :=
      ⟨by decide, by decide, rfl, by decide⟩
    rcases requests_of_line hapart hruns htakes nofun with ⟨_, hsends, _⟩
    exact (hsends _ (.words nofun)).2
  · have htakes : ShellCommand.assist.Takes [.text "a.py", .integer 5] :=
      ⟨by decide, by decide, rfl, by decide⟩
    rcases requests_of_line hapart hruns htakes (fun _ => hstays) with ⟨_, hsends, _⟩
    exact (hsends _ (.text sourceText_besideFile)).2

end Shell
end EngineClient
