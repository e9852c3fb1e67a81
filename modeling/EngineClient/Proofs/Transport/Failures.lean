import EngineClient.Proofs.Transport.Exchange
import EngineClient.Proofs.Transport.Reports

/-!
# What exchanges fail for

An exchange fails because its request fits no message, because its target can be asked by no
request, or for what the peer of its last connection does. Main statement:
`exchange_eq_error`.
-/

namespace EngineClient

/-!
## Errors of computations
-/

namespace Fault

variable {α β ε : Type} {P : Fault → Prop}

def All (P : Fault → Prop) (x : Except Fault α) : Prop :=
  forall f, x = .error f -> P f

theorem all_ok (a : α) : All P (.ok a : Except Fault α) := by
  intro f hf
  cases hf

theorem all_error {f : Fault} (h : P f) : All P (.error f : Except Fault α) := by
  intro g hg
  cases hg
  exact h

theorem all_mapError {x : Except ε α} {k : ε → Fault} (h : forall e, P (k e)) :
    All P (x.mapError k) := by
  cases x with
  | ok a => exact all_ok a
  | error e => exact all_error (h e)

theorem All.bind {x : Except Fault α} {g : α → Except Fault β} (hx : All P x)
    (hg : forall a, All P (g a)) : All P (x >>= g) := by
  cases x with
  | ok a => exact hg a
  | error f => exact all_error (hx f rfl)

theorem of_map_eq_error {x : Except Fault α} {g : α → β} {f : Fault}
    (h : x.map g = .error f) : x = .error f := by
  cases x with
  | ok a => cases h
  | error e =>
      cases h
      rfl

end Fault

/-!
## Requests
-/

namespace Transport

open Act

inductive Misfit (r : Request) : Fault → Prop where
  | http (e : HttpError) : Misfit r (.http e)
  | target (e : TargetError) : Misfit r (.target e)
  | number (h : Wire.itemsFit r.args = false) : Misfit r .integerRange

theorem misfit_of_target {r : Request} {f : Fault} (h : target r = .error f) :
    Misfit r f := by
  have hcheck : forall t : Wire.Target, Fault.All (Misfit r) t.check := by
    intro t
    refine .bind (Fault.all_mapError .http) fun _ => ?_
    refine .bind (Fault.all_mapError .http) fun _ => ?_
    refine .bind (Fault.all_mapError .http) fun _ => ?_
    refine .bind (Fault.all_mapError .target) fun _ => ?_
    exact Fault.all_mapError fun e => .target (.label e)
  have hall : Fault.All (Misfit r) (target r) := by
    refine .bind (Fault.all_mapError .target) fun _ => ?_
    split
    · rename_i hfit
      exact .bind (Fault.all_error (.number (by simpa using hfit))) fun _ =>
        .bind (hcheck _) fun _ => Fault.all_ok _
    · exact .bind (hcheck _) fun _ => Fault.all_ok _
  exact hall f h

theorem itemsFit_of_target {r : Request}
    (h : forall f, target r = .error f -> f.isWireTrouble = true) :
    Wire.itemsFit r.args = true := by
  cases hfit : Wire.itemsFit r.args with
  | true => rfl
  | false =>
      cases hauthority :
          Wire.Target.checkAuthority (Wire.Target.ofUrl r.url).authority with
      | error e =>
          have htarget : target r = .error (.target e) := by
            unfold target
            simp only [hauthority]
            rfl
          cases h _ htarget
      | ok u =>
          have htarget : target r = .error .integerRange := by
            unfold target
            simp only [hauthority, hfit]
            rfl
          cases h _ htarget

/-!
## Peers
-/

theorem mem_nextPeer (peers : List Peer) :
    ((nextPeer peers).1 ∈ peers ∨ (nextPeer peers).1 = .sends []) ∧
      forall p, p ∈ (nextPeer peers).2 -> p ∈ peers := by
  unfold nextPeer
  cases hnext : nextRepeating peers with
  | none => exact ⟨Or.inr rfl, fun _ => id⟩
  | some next =>
      rcases mem_of_nextRepeating hnext with ⟨hmem, hrest⟩
      exact ⟨Or.inl hmem, hrest⟩

theorem mem_of_mem_ofPeers {place : String} {peers : List Peer} {p : Peer}
    (h : p ∈ (Exchange.ofPeers place peers).2) : p ∈ peers := by
  unfold Exchange.ofPeers at h
  dsimp only at h
  split at h
  · exact (mem_nextPeer peers).2 p ((mem_nextPeer _).2 p h)
  · exact (mem_nextPeer peers).2 p h

theorem result_ofPeers (place : String) (peers : List Peer) :
    exists p,
      (p ∈ peers ∨ p = .sends []) ∧
        (Exchange.ofPeers place peers).1.result = (contact place p).result := by
  unfold Exchange.ofPeers
  dsimp only
  split
  · refine ⟨(nextPeer (nextPeer peers).2).1, ?_, rfl⟩
    rcases (mem_nextPeer (nextPeer peers).2).1 with hmem | hnone
    · exact Or.inl ((mem_nextPeer peers).2 _ hmem)
    · exact Or.inr hnone
  · exact ⟨_, (mem_nextPeer peers).1, rfl⟩

/-- An exchange that fails with an engine's fault, or as the transport has no class for, was
refused, or this is what came of a connection to a peer. -/
theorem exchange_eq_error {r : Request} {w w' : World} {f : Fault}
    (h : exchange r w = .error f w') (hkind : Outcome.ofFault f ≠ .trouble) :
    target r = .error f ∨
      exists p place, p ∈ w.surroundings.peers ∧ (contact place p).result = .error f := by
  cases ht : target r with
  | error g =>
      rw [exchange_of_refused ht] at h
      cases h
      exact Or.inl rfl
  | ok t =>
      right
      rw [exchange_of_target ht] at h
      have hresult := (ofExcept_eq_error h).1
      rcases result_ofPeers t.text w.surroundings.peers with ⟨p, hp, hcontact⟩
      rw [hcontact] at hresult
      rcases hp with hmem | rfl
      · exact ⟨p, t.text, hmem, hresult⟩
      · -- Without a peer the connection is closed, which the transport knows.
        cases hresult
        exact absurd rfl hkind

theorem itemsFit_of_exchange {r : Request} {w w' : World} {f : Fault}
    (h : exchange r w = .error f w') (htrouble : f.isWireTrouble = true) :
    Wire.itemsFit r.args = true := by
  apply itemsFit_of_target
  intro g hg
  rw [exchange_of_refused hg] at h
  cases h
  exact htrouble

end Transport

end EngineClient
