import EngineClient.Proofs.Dispatch.Steps
import EngineClient.Proofs.Reconcile
import EngineClient.Proofs.Session.Watch
import EngineClient.Proofs.Transport.Exchange

/-!
# Requests written by one dispatch

A dispatched command makes at most one exchange, and nothing before or after the exchange
writes to a connection. So a command is written twice exactly if it gets to the exchange
and the peers there get its request twice.
-/

namespace EngineClient
namespace Dispatch

open Act

/-!
## Acts without calls
-/

abbrev Silent {α : Type} (x : Act α) : Prop :=
  x.Moves (Agree (·.trail.calls))

theorem silent_of_still {α : Type} {x : Act α} (h : x.Still) : Silent x := by
  intro w
  exact (h w).factor (·.trail.calls) fun _ => rfl

theorem silent_record (logger : String) (level : Log.Level) (event : String) (fields : Table) :
    Silent (record logger level event fields) :=
  silent_of_still (still_of_wanes (wanes_record _ _ _ _))

theorem silent_maybeSync (targets? : Option (List String)) :
    Silent (Editor.maybeSync targets?) :=
  Editor.part_after_maybeSync (fun v => v.trail.calls) (fun _ => rfl) targets?

theorem silent_settle (c : Command) (n : Nat) (s : Session) (args : List Value) :
    Silent (settle c n s args) := by
  unfold settle
  refine .bind (fun _ => rfl) fun _ => ?_
  exact .bind (silent_maybeSync _) fun _ => .pure _

/-!
## Commands that are sent
-/

/-- A command gets over a session to the transport: its arguments fit and the session
runs. -/
def Reaches (w : World) (c : Command) (args : List Value) (s : Session) : Prop :=
  c.Accepts args ∧
    exists n w₁, Session.requireRunning c.name w = .ok n w₁ ∧ w₁.client.sessions[n]? = some s

def Targets (w : World) (c : Command) (args : List Value) (t : Wire.Target) : Prop :=
  exists s,
    Reaches w c args s ∧
      Transport.target ⟨s.url, w.client.options.timeout, c.name, args⟩ = .ok t

theorem reaches_iff_sent {w : World} {c : Command} {args : List Value} {s : Session} :
    Reaches w c args s ↔ exists n w₁, Sent w c args n s w₁ := by
  constructor
  · rintro ⟨haccepts, n, w₀, hrun, hs⟩
    exact ⟨n, _, (c.check_eq_ok_iff args).mpr haccepts, w₀, hrun, hs, rfl⟩
  · rintro ⟨n, w₁, hcheck, w₀, hrun, hs, _⟩
    exact ⟨(c.check_eq_ok_iff args).mp hcheck, n, w₀, hrun, hs⟩

theorem reaches_unique {w : World} {c : Command} {args : List Value} {s t : Session}
    (hs : Reaches w c args s) (ht : Reaches w c args t) : s = t := by
  rcases reaches_iff_sent.mp hs with ⟨_, _, hsent⟩
  rcases reaches_iff_sent.mp ht with ⟨_, _, hsent'⟩
  exact (hsent.unique hsent').2.1.symm

/-- A command is sent over the session that it gets to; without one it is refused. Up to
then nothing but the client's sessions and engines changes. -/
theorem sent_or_refused (w : World) (c : Command) (args : List Value) :
    (exists n s w₁,
      Reaches w c args s ∧ Agree World.still w w₁ ∧
        dispatch (.text c.name) args w = send c n s args w₁) ∨
    ((forall s, ¬ Reaches w c args s) ∧
      exists f w₁,
        Agree World.still w w₁ ∧ dispatch (.text c.name) args w = .error f w₁) := by
  rcases sent_or_stopped w c args with ⟨n, s, w₁, hsent⟩ | ⟨hnone, f, w₁, hrun, hstill⟩
  · exact Or.inl ⟨n, s, w₁, reaches_iff_sent.mpr ⟨n, w₁, hsent⟩, hsent.still, hsent.issued⟩
  · right
    constructor
    · intro s hs
      rcases reaches_iff_sent.mp hs with ⟨n, w₂, hsent⟩
      exact hnone n s w₂ hsent
    · exact ⟨f, w₁, hstill, hrun⟩

/-!
## The exchange of a command
-/

theorem calls_after_send {w : World} (hwire : w.surroundings.transport = .wire)
    (c : Command) (n : Nat) (s : Session) (args : List Value) :
    ((send c n s args).after w).trail.calls =
      w.trail.calls ++
        Transport.wireCalls ⟨s.url, w.client.options.timeout, c.name, args⟩
          w.surroundings.peers := by
  unfold send
  rw [part_after_bind (·.trail.calls), Transport.calls_after_call hwire]
  intro result
  split
  · exact .bind (silent_settle _ _ _ _) fun _ => .bind (silent_record _ _ _ _) fun _ => .pure _
  · exact .bind (silent_record _ _ _ _) fun _ => .pure _

/-- A dispatch writes its command to connections at most twice, and nothing else. It writes
it twice exactly if the command gets to a target whose peers get its request twice: the
first takes it and loses the connection, and so the second gets it as well. The dispatch
gives a value only as the answer of the last connection, so every other failure of an
exchange is passed on. -/
theorem written_of_dispatch {w : World} (hwire : w.surroundings.transport = .wire)
    (c : Command) (args : List Value) :
    exists calls,
      ((dispatch (.text c.name) args).after w).trail.calls = w.trail.calls ++ calls ∧
        (forall k, k ∈ calls -> k.isWritten = true -> k.Carries c.name args) ∧
        calls.countP Call.isWritten ≤ 2 ∧
        (calls.countP Call.isWritten = 2 ↔
          exists t, Targets w c args t ∧ Transport.SentTwice t.text w.surroundings.peers) ∧
        (forall v w', dispatch (.text c.name) args w = .ok v w' ->
          exists t,
            Targets w c args t ∧
              (Transport.Exchange.ofPeers t.text w.surroundings.peers).1.result = .ok v) := by
  rcases sent_or_refused w c args with ⟨n, s, w₁, hs, hstill, hsend⟩ | ⟨hnone, f, w₁, hstill, hrun⟩
  · have hcalls : w₁.trail.calls = w.trail.calls := hstill.factor (·.trail.calls) fun _ => rfl
    have hsurroundings : w₁.surroundings = w.surroundings :=
      hstill.factor World.surroundings fun _ => rfl
    have hoptions : w₁.client.options = w.client.options :=
      hstill.factor (·.client.options) fun _ => rfl
    have hwire₁ : w₁.surroundings.transport = .wire := by
      rw [hsurroundings, hwire]
    have hafter := calls_after_send hwire₁ c n s args
    rw [hcalls, hsurroundings, hoptions, ← after_of_run_eq hsend] at hafter
    -- The calls are those of the one exchange; what precedes and follows it is silent.
    refine ⟨_, hafter, ?_, Transport.written_wireCalls_le_two _ _, ?_, ?_⟩
    · intro k hk hwritten
      have hcarries := Transport.carries_of_mem_wireCalls hk hwritten
      exact hcarries
    · rw [Transport.written_wireCalls_eq_two_iff]
      constructor
      · rintro ⟨t, ht, htwice⟩
        exact ⟨t, ⟨s, hs, ht⟩, htwice⟩
      · rintro ⟨t, ⟨s', hs', ht⟩, htwice⟩
        rw [← reaches_unique hs hs'] at ht
        exact ⟨t, ht, htwice⟩
    · intro v w' hdispatch
      rw [hsend] at hdispatch
      rcases send_eq_ok hdispatch with ⟨w₂, hcall⟩
      rcases Transport.call_eq_ok hwire₁ hcall with ⟨t, ht, hresult⟩
      rw [hoptions] at ht
      rw [hsurroundings] at hresult
      exact ⟨t, ⟨s, hs, ht⟩, hresult⟩
  · refine ⟨[], ?_, ?_, Nat.zero_le 2, ?_, ?_⟩
    · rw [after_of_error hrun, List.append_nil]
      exact hstill.factor (·.trail.calls) fun _ => rfl
    · intro k hk
      cases hk
    · constructor
      · intro hzero
        cases hzero
      · rintro ⟨t, ⟨s, hs, _⟩, _⟩
        exact absurd hs (hnone s)
    · intro v w' hdispatch
      rw [hrun] at hdispatch
      cases hdispatch

/-- A client that runs a session, and whose peers close every connection without an answer. -/
def lostConnection : World where
  disk := .bare
  engines := [Engine.start 4001 [] "/home" none {}]
  client :=
    { sessions :=
        [{ Session.starting Config.defaults ⟨.single, []⟩ with
            engine? := some 0, state := .running }]
      current? := some 0 }
  surroundings := { transport := .wire, peers := [.sends []] }

theorem undo_written_twice :
    lostConnection.surroundings.transport = .wire ∧
      exists calls,
        ((dispatch (.text Command.undo.name) []).after lostConnection).trail.calls = calls ∧
          (forall k, k ∈ calls -> k.isWritten = true -> k.Carries Command.undo.name []) ∧
          calls.countP Call.isWritten = 2 := by
  rcases written_of_dispatch (w := lostConnection) rfl .undo [] with ⟨calls, hcalls, hcarry, _⟩
  have htwice :
      ((dispatch (.text Command.undo.name) []).after lostConnection).trail.calls.countP
        Call.isWritten = 2 := by
    decide +kernel
  rw [hcalls] at htwice
  exact ⟨rfl, calls, hcalls, hcarry, htwice⟩

end Dispatch
end EngineClient
