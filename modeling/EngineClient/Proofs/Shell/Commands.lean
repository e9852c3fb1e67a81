import EngineClient.Proofs.Editor.Buffers
import EngineClient.Proofs.Shell.Causes
import EngineClient.Shell.Command

/-!
# What ends a command of the shell

What a command does over connections, from following the files to reading the answer, fails
with a fault that the shell has words for or for a cause. Main statement: `cause_of_run`.
-/

namespace EngineClient
namespace Shell

open Act

variable {α : Type} {words : List String} {w w' : World} {f : Fault}

/-!
## Following the files
-/

theorem cause_of_key {path : String} (h : Buffers.key w.disk path = .error f) :
    Cause words w f :=
  .unresolved (Fault.of_map_eq_error h)

theorem cause_of_revert {b : Buffers} {path : String}
    (h : Buffers.revert w.disk b path = .error f) : Cause words w f := by
  have hreverts := Buffers.reverts_revert w.disk b path
  rw [h] at hreverts
  cases hreverts with
  | unresolved hkey => exact cause_of_key hkey
  | unclosed hkey hclean hread hgone hagain => exact cause_of_key hagain
  | unread hkey hclean hread hother => exact .unread hread

theorem accounts_revert (hw : w.IsWired) (path : String) :
    Accounts words (Editor.revert path) w := by
  refine .bind (.of_ground hw (disk_run w) rfl) fun d w₁ hdisk hw₁ => ?_
  cases hdisk
  have hbuffers : Editor.buffers w = .ok (w.client.editor?.getD {}) w := rfl
  refine .bind (.of_ground hw₁ hbuffers rfl) fun b w₂ hb hw₂ => ?_
  cases hb
  refine .bind (.ofExcept hw₂ fun f hf _ => cause_of_revert hf) fun r w₃ hr hw₃ => ?_
  refine .bind (.of_ground hw₃ (rfl : Editor.setBuffers r.buffers w₃ = .ok () _) rfl)
    fun _ w₄ _ hw₄ => ?_
  split
  · exact .bind (.of_ground hw₄ rfl rfl) fun _ w₅ _ hw₅ => .pure hw₅ _
  · exact .pure hw₄ _

theorem accounts_revertEach (hw : w.IsWired) (paths : List String) :
    Accounts words (BufferHost.revertEach Editor.revert paths) w := by
  induction paths generalizing w with
  | nil =>
      exact .pure hw _
  | cons path paths ih =>
      refine .bind (accounts_revert hw path) fun reverted w₁ _ hw₁ => ?_
      exact .bind (ih hw₁) fun rest w₂ _ hw₂ => .pure hw₂ _

theorem accounts_maybeSync (hw : w.IsWired) (targets? : Option (List String)) :
    Accounts words (Editor.maybeSync targets?) w := by
  have heach : forall {v : World}, v.IsWired -> forall paths, Accounts words (do
      let reverted ← BufferHost.revertEach Editor.host.revert paths
      return (⟨paths, reverted⟩ : BufferHost.Reconciliation)) v :=
    fun hv paths => .bind (accounts_revertEach hv paths) fun _ v₁ _ hv₁ => .pure hv₁ _
  refine .bind (.of_ground hw (rfl : noteReconciliation targets? w = .ok () _) rfl)
    fun _ w₁ _ hw₁ => ?_
  refine .bind (.of_ground hw₁ (client_run w₁) rfl) fun c w₂ _ hw₂ => ?_
  unfold BufferHost.following
  split
  · cases c.editor? with
    | none => exact .pure hw₂ _
    | some b =>
        refine .bind ?_ fun r w₃ _ hw₃ =>
          .bind (.of_ground hw₃ rfl rfl) fun _ w₄ _ hw₄ => .pure hw₄ _
        refine .bind (.of_ground hw₂ (rfl : Editor.host.begin w₂ = .ok () _) rfl)
          fun _ w₃ _ hw₃ => ?_
        cases targets? with
        | some targets => exact heach hw₃ targets
        | none =>
            refine .bind (.of_ground hw₃ (rfl : Editor.host.openBuffers w₃ = .ok _ w₃) rfl) ?_
            exact fun paths w₄ _ hw₄ => heach hw₄ paths
  · exact .pure hw₂ _

/-!
## Commands of the engine
-/

theorem accounts_count (hw : w.IsWired) (n : Nat) :
    Accounts words (mapSession n fun s => { s with generation := s.generation + 1 }) w := by
  let grow : Session → Session := fun s => { s with generation := s.generation + 1 }
  refine .of_ground hw (rfl : mapSession n grow w = .ok () _) ?_
  have hsession := w.client.session?_mapSession n (f := grow)
    (k := fun s => (s.engine?, s.url)) fun _ => rfl
  exact congrArg (fun session? => (session?, w.engines, w.disk, w.surroundings)) hsession

theorem accounts_settle (hw : w.IsWired) (c : Command) (n : Nat) (s : Session)
    (args : List Value) : Accounts words (Dispatch.settle c n s args) w := by
  refine .bind (accounts_count hw n) fun _ w₁ _ hw₁ => ?_
  exact .bind (accounts_maybeSync hw₁ _) fun _ w₂ _ hw₂ => .pure hw₂ _

theorem accounts_issue (hw : w.IsWired) {c : Command} {args : List Value}
    (haccepts : c.Accepts args) (hfit : Wire.itemsFit args = false -> Overflows words) :
    Accounts words (Dispatch.issue c args) w := by
  refine .bind (accounts_requireRunning hw c.name) fun n w₁ hrun hw₁ => ?_
  rcases session_of_requireRunning hw hrun with ⟨s, hn, hs⟩
  refine .bind (.of_ground hw₁ (Session.ofNumber_run hn) rfl) fun t w₂ ht hw₂ => ?_
  rw [Session.ofNumber_run hn] at ht
  cases ht
  refine .bind (.of_ground hw₂ rfl rfl) fun _ w₃ hrecord hw₃ => ?_
  cases hrecord
  refine .bind (accounts_call hw₃ hs haccepts hfit) fun v w₄ _ hw₄ => ?_
  have hrecord : forall {v₀ : World}, v₀.IsWired -> Accounts words (do
      record Dispatch.logger .debug "dispatched" [("method", .text c.name)]
      return v) v₀ :=
    fun hv₀ => .bind (.of_ground hv₀ rfl rfl) fun _ v₁ _ hv₁ => .pure hv₁ _
  split
  · exact .bind (accounts_settle hw₄ c n s args) fun _ w₅ _ hw₅ => hrecord hw₅
  · exact hrecord hw₄

theorem accounts_send (hw : w.IsWired) (c : Command) {args : List Value}
    (hfit : Wire.itemsFit args = false -> Overflows words) :
    Accounts words (c.send args) w := by
  cases hcheck : c.check args with
  | error f =>
      refine .of_error (dispatch_of_misfit c.find_name hcheck w) hw (.refl w) ?_
      rcases Command.isContract_of_check hcheck with ⟨command, detail, rfl⟩
      exact fun h => nomatch h.client
  | ok u =>
      exact .congr (dispatch_of_fit c.find_name hcheck w)
        (accounts_issue hw ((c.check_eq_ok_iff args).mp hcheck) hfit)

/-!
## Operations
-/

theorem not_isUnforeseen_of_items {command : String} {v : Value}
    (h : History.items command v = .error f) : ¬ f.IsUnforeseen := by
  intro hunforeseen
  unfold History.items at h
  split at h
  · cases h
  · cases h
  · cases h
  · cases h
    exact nomatch hunforeseen.client

theorem not_isUnforeseen_of_readAnswer {what command : String}
    {read : Value → Except Fault α} {answer : Value}
    (h : Operations.readAnswer what command read answer = .error f) : ¬ f.IsUnforeseen := by
  unfold Operations.readAnswer at h
  split at h
  · rename_i g hitems
    cases h
    exact not_isUnforeseen_of_items hitems
  · rename_i vs hitems
    cases hread : Operations.readItems read vs with
    | ok items =>
        rw [hread] at h
        cases h
    | error g =>
        rw [hread] at h
        cases h
        exact fun hunforeseen => nomatch hunforeseen.client

theorem accounts_root (hw : w.IsWired) (command : String) :
    Accounts words (Operations.root command) w := by
  refine .bind (accounts_requireRunning hw command) fun n w₁ hrun hw₁ => ?_
  rcases session_of_requireRunning hw hrun with ⟨s, hn, _⟩
  exact .bind (.of_ground hw₁ (Session.ofNumber_run hn) rfl) fun _ w₂ _ hw₂ => .pure hw₂ _

theorem accounts_resources (hw : w.IsWired) (c : Command) (answer : Value) :
    Accounts words (Operations.resources c answer) w := by
  refine .bind (accounts_root hw c.name) fun root w₁ _ hw₁ => ?_
  exact .ofExcept hw₁ fun f hf h => absurd h (not_isUnforeseen_of_readAnswer hf)

theorem accounts_fetch (hw : w.IsWired) (stack : HistoryStack) :
    Accounts words (History.fetch stack) w := by
  refine .bind (accounts_send hw _ fun h => nomatch h) fun v w₁ _ hw₁ => ?_
  split
  · exact .pure hw₁ _
  · refine .bind (.ofExcept hw₁ fun f hf h => absurd h (not_isUnforeseen_of_items hf))
      fun descriptions w₂ _ hw₂ => ?_
    refine .bind (accounts_requireRunning hw₂ _) fun n w₃ hrun hw₃ => ?_
    rcases session_of_requireRunning hw₂ hrun with ⟨s, hn, _⟩
    refine .bind (.of_ground hw₃ (Session.ofNumber_run hn) rfl) fun t w₄ _ hw₄ => ?_
    exact .bind (.of_ground hw₄ (client_run w₄) rfl) fun c w₅ _ hw₅ => .pure hw₅ _

theorem accounts_readText (hw : w.IsWired) (p : Path) :
    Accounts words (do Act.ofExcept ((← Act.disk).readText p)) w := by
  refine .bind (.of_ground hw (disk_run w) rfl) fun d w₁ hdisk hw₁ => ?_
  cases hdisk
  exact .ofExcept hw₁ fun f hf _ => .unread hf

theorem accounts_sourceText (hw : w.IsWired) (p : Path) :
    Accounts words (Operations.sourceText p) w := by
  refine .bind (.of_ground hw (client_run w) rfl) fun c w₁ _ hw₁ => ?_
  cases c.editor? with
  | none =>
      refine .bind (.pure hw₁ none) fun buffered w₂ hnone hw₂ => ?_
      cases hnone
      exact accounts_readText hw₂ p
  | some b =>
      refine .bind (.of_ground hw₁ (disk_run w₁) rfl) fun d w₂ hdisk hw₂ => ?_
      cases hdisk
      refine .bind (.ofExcept hw₂ fun f hf _ => cause_of_key (Fault.of_map_eq_error hf))
        fun buffered w₃ _ hw₃ => ?_
      cases buffered with
      | none => exact accounts_readText hw₃ p
      | some text => exact .pure hw₃ text

theorem accounts_codeAssist (hw : w.IsWired) (path : String) {position : Value}
    (hfit : Wire.fits position = false -> Overflows words) :
    Accounts words (Operations.codeAssist path position .null) w := by
  have hfits : forall text, Wire.itemsFit [.text text, position, .text path] = false ->
      Overflows words := by
    intro text h
    exact hfit (by simpa [Wire.itemsFit, Wire.fits] using h)
  refine .bind (accounts_root hw _) fun root w₁ _ hw₁ => ?_
  refine .bind (accounts_sourceText hw₁ _) fun text w₂ _ hw₂ => ?_
  refine .bind (.pure hw₂ _) fun sent w₃ hsent hw₃ => ?_
  cases hsent
  refine .bind (accounts_send hw₃ _ (hfits text)) fun answer w₄ _ hw₄ => ?_
  exact .ofExcept hw₄ fun f hf h => absurd h (not_isUnforeseen_of_readAnswer hf)

/-!
## Commands of the shell
-/

theorem accounts_integer (hw : w.IsWired) (word argument : String) :
    Accounts words (ShellCommand.integer word argument) w := by
  refine .bind (.ofExcept hw fun f hf h => ?_) fun i w₁ _ hw₁ => .pure hw₁ _
  unfold integerArgument at hf
  split at hf
  · cases hf
  · cases hf
    exact absurd rfl (h.argument _)

theorem overflows_of_integer {word argument : String} {v : Value} (hword : word ∈ words)
    (h : ShellCommand.integer word argument w = .ok v w') (hfits : Wire.fits v = false) :
    Overflows words := by
  unfold ShellCommand.integer at h
  rcases bind_eq_ok h with ⟨i, w₁, hread, hvalue⟩
  cases hvalue
  have hinteger := (ofExcept_eq_ok hread).1
  unfold integerArgument at hinteger
  split at hinteger
  · rename_i j hliteral
    cases hinteger
    exact ⟨word, i, hword, hliteral, hfits⟩
  · cases hinteger

theorem accounts_extract (hw : w.IsWired) (c : Command) {name path start stop : String}
    (hstart : start ∈ words) (hstop : stop ∈ words) :
    Accounts words (do
      let start ← ShellCommand.integer start "begin"
      let stop ← ShellCommand.integer stop "end"
      return Outcome.value (← c.send [.text name, .text path, start, stop])) w := by
  refine .bind (accounts_integer hw start _) fun first w₁ hfirst hw₁ => ?_
  refine .bind (accounts_integer hw₁ stop _) fun last w₂ hlast hw₂ => ?_
  refine .bind (accounts_send hw₂ c fun hmisfit => ?_) fun v w₃ _ hw₃ => .pure hw₃ _
  cases hfits : Wire.fits first with
  | false => exact overflows_of_integer hstart hfirst hfits
  | true =>
      have hfits' : Wire.fits last = false := by
        simpa [Wire.itemsFit, Wire.fits, hfits] using hmisfit
      exact overflows_of_integer hstop hlast hfits'

theorem accounts_run (hw : w.IsWired) (c : ShellCommand) (args : List String) :
    Accounts args (c.run args) w := by
  have hshown : forall {x : Act Value} {v : World}, Accounts args x v ->
      Accounts args (do return Outcome.value (← x)) v :=
    fun hx => .bind hx fun _ w₁ _ hw₁ => .pure hw₁ _
  unfold ShellCommand.run
  split
  · refine .bind ?_ fun rs w₁ _ hw₁ => .pure hw₁ _
    exact .bind (accounts_send hw _ fun h => nomatch h) fun v w₁ _ hw₁ =>
      accounts_resources hw₁ _ v
  · refine .bind ?_ fun rs w₁ _ hw₁ => .pure hw₁ _
    exact .bind (accounts_send hw _ fun h => nomatch h) fun v w₁ _ hw₁ =>
      accounts_resources hw₁ _ v
  · exact hshown (accounts_send hw _ fun h => nomatch h)
  · exact hshown (accounts_send hw _ fun h => nomatch h)
  · exact .bind (accounts_fetch hw _) fun es w₁ _ hw₁ => .pure hw₁ _
  · exact .bind (accounts_fetch hw _) fun es w₁ _ hw₁ => .pure hw₁ _
  · exact hshown (accounts_send hw _ fun h => nomatch h)
  · rename_i newName path offset rest
    refine .bind (accounts_integer hw offset _) fun i w₁ hi hw₁ => hshown ?_
    unfold Operations.rename
    split
    · exact accounts_send hw₁ _ fun h => nomatch h
    · refine accounts_send hw₁ _ fun hmisfit => ?_
      have hfits : Wire.fits i = false := by simpa [Wire.itemsFit, Wire.fits] using hmisfit
      exact overflows_of_integer (by simp) hi hfits
  · exact accounts_extract hw .extractMethod (by simp) (by simp)
  · exact accounts_extract hw .extractVariable (by simp) (by simp)
  · rename_i path position rest
    refine .bind (accounts_integer hw position _) fun i w₁ hi hw₁ => ?_
    refine .bind (accounts_codeAssist hw₁ path fun hmisfit => ?_) fun ps w₂ _ hw₂ => .pure hw₂ _
    exact overflows_of_integer (by simp) hi hmisfit
  · exact .pure hw _

/-- A command of the shell that the shell has no words for fails for a cause. -/
theorem cause_of_run (hw : w.IsWired) {c : ShellCommand} {args : List String}
    (h : c.run args w = .error f w') (hunforeseen : f.IsUnforeseen) : Cause args w f :=
  (accounts_run hw c args).cause f w' h hunforeseen

end Shell
end EngineClient
