import EngineClient.Dispatch
import EngineClient.Proofs.Session.Watch

/-!
# The steps of a dispatch

A dispatch passes three gates: the command must be known, its arguments must fit, and a
session must run. What it gives at each of them is stated once here.
-/

namespace EngineClient

open Act

theorem Command.find_of_name {method : Value} {c : Command} (h : method.name? = some c.name) :
    Command.find method = .ok c := by
  simp [Command.find, h, Command.ofName?_name]

theorem Command.find_name (c : Command) : Command.find (.text c.name) = .ok c :=
  Command.find_of_name rfl

theorem Command.find_eq_ok_iff {method : Value} {c : Command} :
    Command.find method = .ok c ↔ method.name? = some c.name := by
  constructor
  · intro h
    unfold Command.find at h
    split at h
    · rename_i d hd
      cases h
      rcases Option.bind_eq_some_iff.mp hd with ⟨s, hs, hname⟩
      rw [hs, Command.name_of_ofName? hname]
    · split at h <;> cases h
  · exact Command.find_of_name

def Fault.IsContract (f : Fault) : Prop :=
  exists command detail, f = Command.contractError command detail

/-- What a dispatch of a value that names no command ends with: an error that shows the value,
or the reason why it cannot be shown. -/
inductive Command.Unknown (method : Value) : Fault → Prop where
  | shown (h : method.unshown? = none) :
      Unknown method
        (Command.contractError method.plain ("unknown command " ++ method.display))
  | unshown {e : Value.ShowError} (h : method.unshown? = some e) : Unknown method (.unshown e)

theorem Command.unknown_of_find {method : Value} {f : Fault}
    (h : Command.find method = .error f) : Command.Unknown method f := by
  unfold Command.find at h
  split at h
  · cases h
  · split at h
    · rename_i hunshown
      cases h
      exact .unshown hunshown
    · rename_i hshown
      cases h
      exact .shown hshown

theorem Command.isContract_of_check {c : Command} {args : List Value} {f : Fault}
    (h : c.check args = .error f) : f.IsContract := by
  unfold Command.check at h
  split at h
  · split at h
    · cases h
    · cases h
      exact ⟨_, _, rfl⟩
  · cases h
    exact ⟨_, _, rfl⟩

theorem Session.ofNumber_run {n : Nat} {s : Session} {w : World}
    (h : w.client.sessions[n]? = some s) : Session.ofNumber n w = .ok s w := by
  unfold Session.ofNumber
  rw [bind_run_of_ok (client_run w), h]
  rfl

@[simp] theorem Session.after_ofNumber (n : Nat) (w : World) :
    (Session.ofNumber n).after w = w := by
  unfold Session.ofNumber
  rw [after_bind_of_ok (client_run w)]
  split <;> rfl

theorem Session.ofNumber_eq_ok {n : Nat} {s : Session} {w w' : World}
    (h : Session.ofNumber n w = .ok s w') : w.client.sessions[n]? = some s ∧ w' = w := by
  unfold Session.ofNumber at h
  rw [bind_run_of_ok (client_run w)] at h
  cases hs : w.client.sessions[n]? with
  | none =>
      rw [hs] at h
      cases h
  | some t =>
      rw [hs] at h
      cases h
      exact ⟨rfl, rfl⟩

theorem dispatch_of_unknown {method : Value} {f : Fault} (hfind : Command.find method = .error f)
    (args : List Value) (w : World) : dispatch method args w = .error f w := by
  unfold dispatch
  rw [hfind]
  rfl

theorem dispatch_of_misfit {method : Value} {c : Command} {args : List Value} {f : Fault}
    (hfind : Command.find method = .ok c) (hcheck : c.check args = .error f) (w : World) :
    dispatch method args w = .error f w := by
  unfold dispatch
  rw [hfind, bind_run_of_ok (rfl : ofExcept (.ok c) w = .ok c w), hcheck]
  rfl

theorem dispatch_of_fit {method : Value} {c : Command} {args : List Value}
    (hfind : Command.find method = .ok c) (hcheck : c.check args = .ok ()) (w : World) :
    dispatch method args w = Dispatch.issue c args w := by
  unfold dispatch
  rw [hfind, bind_run_of_ok (rfl : ofExcept (.ok c) w = .ok c w), hcheck]
  rfl

theorem dispatch_of_found {method : Value} {c : Command} (hfind : Command.find method = .ok c)
    (args : List Value) : dispatch method args = c.send args := by
  unfold Command.send dispatch
  rw [hfind, c.find_name]

namespace Dispatch

def announced (c : Command) (args : List Value) (w : World) : World :=
  (record logger .debug "dispatch"
    [("method", .text c.name), ("arity", .int args.length)]).after w

theorem issue_of_error {c : Command} {w w' : World} {f : Fault}
    (h : Session.requireRunning c.name w = .error f w') (args : List Value) :
    issue c args w = .error f w' := by
  unfold issue
  exact bind_run_of_error h

theorem issue_of_running {c : Command} {w w₁ : World} {n : Nat} {s : Session}
    (h : Session.requireRunning c.name w = .ok n w₁)
    (hs : w₁.client.sessions[n]? = some s) (args : List Value) :
    issue c args w = send c n s args (announced c args w₁) := by
  unfold issue
  rw [bind_run_of_ok h, bind_run_of_ok (Session.ofNumber_run hs)]
  rfl

theorem issue_of_lost {c : Command} {w w₁ : World} {n : Nat}
    (h : Session.requireRunning c.name w = .ok n w₁)
    (hs : w₁.client.sessions[n]? = none) (args : List Value) :
    issue c args w = .error (.unreachable "session without a number" []) w₁ := by
  unfold issue
  have hlost : Session.ofNumber n w₁ =
      .error (.unreachable "session without a number" []) w₁ := by
    unfold Session.ofNumber
    rw [bind_run_of_ok (client_run w₁), hs]
    rfl
  rw [bind_run_of_ok h, bind_run_of_error hlost]

/-!
## The handover
-/

/-- A command that fits is handed to the transport over the session of a number, and the world
at that moment. -/
structure Sent (w : World) (c : Command) (args : List Value) (n : Nat) (s : Session)
    (w₁ : World) : Prop where
  check : c.check args = .ok ()
  running :
    exists w₀,
      Session.requireRunning c.name w = .ok n w₀ ∧ w₀.client.sessions[n]? = some s ∧
        w₁ = announced c args w₀

theorem Sent.issued {w w₁ : World} {c : Command} {args : List Value} {n : Nat} {s : Session}
    (h : Sent w c args n s w₁) : c.send args w = send c n s args w₁ := by
  rcases h.running with ⟨w₀, hrun, hs, rfl⟩
  unfold Command.send
  rw [dispatch_of_fit c.find_name h.check, issue_of_running hrun hs]

theorem Sent.unique {w w₁ w₂ : World} {c : Command} {args : List Value} {m n : Nat}
    {s t : Session} (h : Sent w c args n s w₁) (h' : Sent w c args m t w₂) :
    m = n ∧ t = s ∧ w₂ = w₁ := by
  rcases h.running with ⟨w₀, hrun, hs, rfl⟩
  rcases h'.running with ⟨w₀', hrun', ht, rfl⟩
  rw [hrun] at hrun'
  cases hrun'
  rw [hs] at ht
  cases ht
  exact ⟨rfl, rfl, rfl⟩

theorem Sent.still {w w₁ : World} {c : Command} {args : List Value} {n : Nat} {s : Session}
    (h : Sent w c args n s w₁) : Agree World.still w w₁ := by
  rcases h.running with ⟨w₀, hrun, _, rfl⟩
  have hasked : Agree World.still w w₀ := (Session.still_requireRunning c.name).of_ok hrun
  exact trans_of (Agree World.still) hasked (still_of_wanes (wanes_record _ _ _ _) w₀)

/-- A command is handed to the transport or refused. Up to then nothing but the life of
sessions changes. -/
theorem sent_or_stopped (w : World) (c : Command) (args : List Value) :
    (exists n s w₁, Sent w c args n s w₁) ∨
      (forall n s w₁, ¬ Sent w c args n s w₁) ∧
        exists f w₁, c.send args w = .error f w₁ ∧ Agree World.still w w₁ := by
  have hstill := Session.still_requireRunning c.name
  unfold Command.send
  cases hcheck : c.check args with
  | error f =>
      right
      constructor
      · intro n s w₁ hsent
        rw [hsent.check] at hcheck
        cases hcheck
      · exact ⟨f, w, dispatch_of_misfit c.find_name hcheck w, rfl⟩
  | ok u =>
      rw [dispatch_of_fit c.find_name hcheck]
      cases hrun : Session.requireRunning c.name w with
      | error f w₁ =>
          right
          constructor
          · rintro n s w₂ ⟨_, w₀, hrunning, _⟩
            rw [hrun] at hrunning
            cases hrunning
          · exact ⟨f, w₁, issue_of_error hrun args, hstill.of_error hrun⟩
      | ok n w₁ =>
          cases hs : w₁.client.sessions[n]? with
          | none =>
              right
              constructor
              · rintro m s w₂ ⟨_, w₀, hrunning, hm, _⟩
                rw [hrun] at hrunning
                cases hrunning
                rw [hs] at hm
                cases hm
              · exact ⟨_, w₁, issue_of_lost hrun hs args, hstill.of_ok hrun⟩
          | some s =>
              exact Or.inl ⟨n, s, announced c args w₁, hcheck, w₁, hrun, hs, rfl⟩

/-!
## The answer
-/

theorem send_of_error {c : Command} {n : Nat} {s : Session} {args : List Value} {w w' : World}
    {f : Fault} (h : Transport.call s c.name args w = .error f w') :
    send c n s args w = .error f w' := by
  unfold send
  exact bind_run_of_error h

theorem send_eq_ok {c : Command} {n : Nat} {s : Session} {args : List Value} {w w' : World}
    {v : Value} (h : send c n s args w = .ok v w') :
    exists w₁, Transport.call s c.name args w = .ok v w₁ := by
  unfold send at h
  rcases bind_eq_ok h with ⟨u, w₁, hcall, hrest⟩
  cases hmutating : c.mutating with
  | false =>
      rw [hmutating] at hrest
      cases hrest
      exact ⟨w₁, hcall⟩
  | true =>
      rw [hmutating, if_pos rfl] at hrest
      rcases bind_eq_ok hrest with ⟨_, w₂, _, hlast⟩
      rcases bind_eq_ok hlast with ⟨_, w₃, _, hreturn⟩
      cases hreturn
      exact ⟨w₁, hcall⟩

end Dispatch
end EngineClient
