import EngineClient.Proofs.Act
import EngineClient.Transport.Call

/-!
# How often a request is written

An exchange makes one connection, or two when the first is lost. The request is written
to each connection whose peer takes it, so a lost connection that took the request is
followed by a second copy of it. Main statement: `written_wireCalls_eq_two_iff`.
-/

namespace EngineClient

def Peer.takes : Peer → Bool
  | .unreachable _ => false
  | _ => true

namespace Call

def isWritten : Call → Bool
  | .wire _ _ request _ => request != ""
  | _ => false

def Carries (k : Call) (method : String) (args : List Value) : Prop :=
  exists host timeout line,
    k = .wire host timeout line (String.ofList (Wire.requestText method args))

end Call

namespace Transport

open Act

/-!
## Contacts
-/

theorem contact_written (place : String) (p : Peer) :
    (contact place p).written = p.takes := by
  cases p <;> rfl

/-- The peers get one request twice: the first takes it and loses the connection, and the
one behind it takes it as well. -/
def SentTwice (place : String) (peers : List Peer) : Prop :=
  (nextPeer peers).1.takes = true ∧
    (contact place (nextPeer peers).1).isLost = true ∧
    (nextPeer (nextPeer peers).2).1.takes = true

def Exchange.writings (e : Exchange) : Nat :=
  e.contacts.countP (·.written)

theorem contacts_ofPeers_of_lost {place : String} {peers : List Peer}
    (h : (contact place (nextPeer peers).1).isLost = true) :
    (Exchange.ofPeers place peers).1.contacts =
      [contact place (nextPeer peers).1, contact place (nextPeer (nextPeer peers).2).1] := by
  simp [Exchange.ofPeers, h, Exchange.contacts]

theorem contacts_ofPeers_of_kept {place : String} {peers : List Peer}
    (h : (contact place (nextPeer peers).1).isLost = false) :
    (Exchange.ofPeers place peers).1.contacts = [contact place (nextPeer peers).1] := by
  simp [Exchange.ofPeers, h, Exchange.contacts]

theorem writings_ofPeers_le_two (place : String) (peers : List Peer) :
    (Exchange.ofPeers place peers).1.writings ≤ 2 := by
  unfold Exchange.writings
  refine Nat.le_trans List.countP_le_length ?_
  cases h : (contact place (nextPeer peers).1).isLost with
  | true =>
      rw [contacts_ofPeers_of_lost h]
      exact Nat.le_refl 2
  | false =>
      rw [contacts_ofPeers_of_kept h]
      exact Nat.le_succ 1

theorem writings_ofPeers_eq_two_iff (place : String) (peers : List Peer) :
    (Exchange.ofPeers place peers).1.writings = 2 ↔ SentTwice place peers := by
  unfold Exchange.writings SentTwice
  cases h : (contact place (nextPeer peers).1).isLost with
  | true =>
      rw [contacts_ofPeers_of_lost h]
      simp only [List.countP_cons, List.countP_nil, contact_written]
      cases (nextPeer peers).1.takes <;>
        cases (nextPeer (nextPeer peers).2).1.takes <;> simp
  | false =>
      rw [contacts_ofPeers_of_kept h]
      simp only [List.countP_cons, List.countP_nil, contact_written]
      cases (nextPeer peers).1.takes <;> simp

/-!
## Calls of an exchange
-/

theorem isWritten_call (r : Request) (t : Wire.Target) (c : Contact) :
    (c.call r t).isWritten = c.written := by
  unfold Contact.call
  split
  · rename_i h
    have hline : t.requestLine ≠ "" := by
      intro hempty
      have hlength := congrArg String.length hempty
      simp [Wire.Target.requestLine] at hlength
    simp [Call.isWritten, h, hline]
  · rename_i h
    simp [Call.isWritten, h]

theorem carries_call {r : Request} {t : Wire.Target} {c : Contact}
    (h : (c.call r t).isWritten = true) : (c.call r t).Carries r.method r.args := by
  rw [isWritten_call] at h
  unfold Contact.call
  rw [if_pos h]
  exact ⟨_, _, _, rfl⟩

def wireCalls (r : Request) (peers : List Peer) : List Call :=
  match target r with
  | .ok t => (Exchange.ofPeers t.text peers).1.contacts.map (·.call r t)
  | .error _ => []

theorem carries_of_mem_wireCalls {r : Request} {peers : List Peer} {k : Call}
    (hk : k ∈ wireCalls r peers) (h : k.isWritten = true) : k.Carries r.method r.args := by
  unfold wireCalls at hk
  split at hk
  · rcases List.mem_map.mp hk with ⟨c, _hc, rfl⟩
    exact carries_call h
  · cases hk

theorem countP_isWritten_map_call (r : Request) (t : Wire.Target) (cs : List Contact) :
    (cs.map (·.call r t)).countP Call.isWritten = cs.countP (·.written) := by
  rw [List.countP_map]
  congr 1
  funext c
  exact isWritten_call r t c

theorem written_wireCalls_le_two (r : Request) (peers : List Peer) :
    (wireCalls r peers).countP Call.isWritten ≤ 2 := by
  unfold wireCalls
  split
  · rename_i t _ht
    rw [countP_isWritten_map_call]
    exact writings_ofPeers_le_two t.text peers
  · exact Nat.zero_le 2

/-- A request is written twice exactly if its target can be asked and the peers there get
it twice. -/
theorem written_wireCalls_eq_two_iff (r : Request) (peers : List Peer) :
    (wireCalls r peers).countP Call.isWritten = 2 ↔
      exists t, target r = .ok t ∧ SentTwice t.text peers := by
  unfold wireCalls
  cases ht : target r with
  | ok t =>
      simp only [countP_isWritten_map_call]
      constructor
      · intro h
        exact ⟨t, rfl, (writings_ofPeers_eq_two_iff t.text peers).mp h⟩
      · rintro ⟨u, hu, h⟩
        cases hu
        exact (writings_ofPeers_eq_two_iff t.text peers).mpr h
  | error f =>
      simp

/-!
## The trail of an exchange
-/

theorem noteAll_run (r : Request) (t : Wire.Target) (cs : List Contact) (w : World) :
    noteAll r t cs w =
      .ok () { w with
        trail := { w.trail with calls := w.trail.calls ++ cs.map (·.call r t) } } := by
  induction cs generalizing w with
  | nil =>
      simp [noteAll]
  | cons c cs ih =>
      unfold noteAll
      rw [bind_run_of_ok (rfl : note (c.call r t) w = .ok () _), ih]
      simp

def exchanged (r : Request) (t : Wire.Target) (w : World) : World :=
  let (e, peers) := Exchange.ofPeers t.text w.surroundings.peers
  { w with
    surroundings := { w.surroundings with peers }
    trail := { w.trail with calls := w.trail.calls ++ e.contacts.map (·.call r t) } }

theorem exchange_of_target {r : Request} {t : Wire.Target} (ht : target r = .ok t) (w : World) :
    exchange r w =
      ofExcept (Exchange.ofPeers t.text w.surroundings.peers).1.result (exchanged r t w) := by
  unfold exchange
  rw [ht, bind_run_of_ok (rfl : ofExcept (.ok t) w = .ok t w), bind_run_of_ok (get_run w)]
  refine (bind_run_of_ok (set_run _ _)).trans ?_
  exact bind_run_of_ok (noteAll_run r t _ _)

theorem exchange_of_refused {r : Request} {f : Fault} (ht : target r = .error f) (w : World) :
    exchange r w = .error f w := by
  unfold exchange
  rw [ht]
  rfl

theorem calls_after_exchange (r : Request) (w : World) :
    ((exchange r).after w).trail.calls =
      w.trail.calls ++ wireCalls r w.surroundings.peers := by
  unfold wireCalls
  cases ht : target r with
  | error f =>
      rw [after_of_error (exchange_of_refused ht w)]
      exact (List.append_nil _).symm
  | ok t =>
      unfold after
      rw [exchange_of_target ht]
      exact congrArg (·.trail.calls) (after_ofExcept _ (exchanged r t w))

theorem calls_after_classified (r : Request) (x : Act Value) (w : World) :
    ((classified r x).after w).trail.calls = (x.after w).trail.calls := by
  have hrecord : forall f, (recordFault r f).Moves (Agree (·.trail.calls)) := by
    intro f
    unfold recordFault
    split
    · refine Moves.bind .get fun w => ?_
      exact .bind (.ofExcept _) fun _ _ => rfl
    · exact fun _ => rfl
    · exact fun _ => rfl
    · exact .pure _
  unfold classified
  refine (part_after_bind (·.trail.calls) (attempt x) ?_ w).trans ?_
  · intro res
    cases res with
    | ok v => exact .pure v
    | error f => exact .bind (hrecord f) fun _ => .throw _
  · rw [after_attempt]

theorem calls_after_call {w : World} (hwire : w.surroundings.transport = .wire)
    (s : Session) (method : String) (args : List Value) :
    ((call s method args).after w).trail.calls =
      w.trail.calls ++
        wireCalls ⟨s.url, w.client.options.timeout, method, args⟩ w.surroundings.peers := by
  unfold call
  rw [after_bind_of_ok (rfl : noteRequest method args w = .ok () _)]
  rw [after_bind_of_ok (get_run _)]
  simp only [hwire]
  rw [calls_after_classified, calls_after_exchange]

/-!
## Answers over the wire
-/

theorem classified_eq_ok {r : Request} {x : Act Value} {w w' : World} {v : Value}
    (h : classified r x w = .ok v w') : x w = .ok v w' := by
  unfold classified at h
  cases hx : x w with
  | ok u w₁ =>
      rw [bind_run_of_ok (attempt_ok hx)] at h
      cases h
      rfl
  | error f w₁ =>
      rw [bind_run_of_ok (attempt_error hx)] at h
      rcases bind_eq_ok h with ⟨_, w₂, _, hthrow⟩
      cases hthrow

theorem exchange_eq_ok {r : Request} {w w' : World} {v : Value}
    (h : exchange r w = .ok v w') :
    exists t,
      target r = .ok t ∧ (Exchange.ofPeers t.text w.surroundings.peers).1.result = .ok v := by
  cases ht : target r with
  | error f =>
      rw [exchange_of_refused ht] at h
      cases h
  | ok t =>
      rw [exchange_of_target ht] at h
      exact ⟨t, rfl, (ofExcept_eq_ok h).1⟩

theorem call_eq_ok {w w' : World} (hwire : w.surroundings.transport = .wire) {s : Session}
    {method : String} {args : List Value} {v : Value}
    (h : call s method args w = .ok v w') :
    exists t,
      target ⟨s.url, w.client.options.timeout, method, args⟩ = .ok t ∧
        (Exchange.ofPeers t.text w.surroundings.peers).1.result = .ok v := by
  unfold call at h
  rw [bind_run_of_ok (rfl : noteRequest method args w = .ok () _)] at h
  rw [bind_run_of_ok (get_run _)] at h
  simp only [hwire] at h
  have hexchange := exchange_eq_ok (classified_eq_ok h)
  exact hexchange

end Transport
end EngineClient
