import EngineClient.Proofs.Run.Basic
import EngineClient.Proofs.Transport.Failures

/-!
# The classes of failed calls

A call over a connection gives the answer, or it fails with an error of one of three classes
that names its command, or with a fault of none of them. Main statement: which of these it is,
and what the faults of no class come from.
-/

namespace EngineClient

/-!
## What a response cannot be read for
-/

/-- Of no class of the transport is a fault of a reader only if a value could not be built, if
a count could not be asked for, or if compressed data breaks off or is corrupt. -/
def Fault.IsReaders (f : Fault) : Prop :=
  f.isWireTrouble = false ->
    (exists e, f = .decode e) ∨ f = .countRange ∨ exists e, f = .expand e

namespace Fault

theorem isReaders_of_trouble {f : Fault} (h : f.isWireTrouble = true) : f.IsReaders := by
  intro hno
  rw [h] at hno
  cases hno

theorem isReaders_decode (e : DecodeError) : (Fault.decode e).IsReaders :=
  fun _ => Or.inl ⟨e, rfl⟩

theorem isReaders_countRange : Fault.countRange.IsReaders :=
  fun _ => Or.inr (Or.inl rfl)

theorem isReaders_expand (e : ExpandError) : (Fault.expand e).IsReaders :=
  fun _ => Or.inr (Or.inr ⟨e, rfl⟩)

variable {α β : Type} {P : Fault → Prop}

theorem All.map {x : Except Fault α} (hx : All P x) (g : α → β) : All P (x.map g) :=
  fun f hf => hx f (of_map_eq_error hf)

end Fault

namespace Http

theorem isReaders_readHead (budget : Nat) (cs : List Char) :
    Fault.All Fault.IsReaders (readHead budget cs) := by
  have hhttp {α : Type} (x : Reading α) : Fault.All Fault.IsReaders (x.mapError Fault.http) :=
    Fault.all_mapError fun _ => Fault.isReaders_of_trouble rfl
  induction budget generalizing cs with
  | zero => exact Fault.all_error (Fault.isReaders_of_trouble rfl)
  | succ budget ih =>
      unfold readHead
      split
      · exact Fault.all_error (Fault.isReaders_of_trouble rfl)
      · apply Fault.All.bind (hhttp _)
        intro line
        apply Fault.All.bind (hhttp _)
        intro head
        split
        · apply Fault.All.bind (hhttp _)
          intro headers
          exact ih headers.2
        · split
          · apply Fault.All.bind (hhttp _)
            intro headers
            exact Fault.all_ok _
          · exact Fault.all_error (Fault.isReaders_of_trouble rfl)

theorem isReaders_atOnce (c : Chunks) : Fault.All Fault.IsReaders c.atOnce := by
  unfold Chunks.atOnce
  cases c.ending with
  | complete => exact Fault.all_ok _
  | refused e => exact Fault.all_error (Fault.isReaders_of_trouble rfl)
  | unreadable => exact Fault.all_error Fault.isReaders_countRange
  | endless rest => exact Fault.all_error (Fault.isReaders_of_trouble rfl)
  | broken size arrived =>
      apply Fault.all_error
      split
      · exact Fault.isReaders_of_trouble rfl
      · exact Fault.isReaders_countRange

theorem isReaders_readWhole (extent : Extent) (cs : List Char) :
    Fault.All Fault.IsReaders (readWhole extent cs) := by
  cases extent with
  | chunked => exact isReaders_atOnce _
  | «open» => exact Fault.all_ok _
  | length n =>
      unfold readWhole
      dsimp only
      split
      · exact Fault.all_error Fault.isReaders_countRange
      · split
        · exact Fault.all_error (Fault.isReaders_of_trouble rfl)
        · exact Fault.all_ok _

theorem isReaders_of_readBlocks {extent : Extent} {cs : List Char} {f : Fault}
    (h : (readBlocks extent cs).stop? = some f) : f.IsReaders := by
  cases extent with
  | chunked =>
      simp only [readBlocks, Chunks.inBlocks] at h
      split at h
      case h_1 => cases h
      case h_3 =>
        cases h
        exact Fault.isReaders_countRange
      all_goals
        cases h
        exact Fault.isReaders_of_trouble rfl
  | «open» => cases h
  | length n => cases h

end Http

namespace Wire

/-! ### Values -/

theorem isReaders_decodeOctets (cs : List Char) :
    Fault.All Fault.IsReaders (decodeOctets cs) := by
  unfold decodeOctets
  split
  · exact Fault.all_error (Fault.isReaders_decode _)
  · split
    · exact Fault.all_ok _
    · exact Fault.all_error (Fault.isReaders_decode _)
    · exact Fault.all_error (Fault.isReaders_decode _)

theorem isReaders_decodeInteger (cs : List Char) :
    Fault.All Fault.IsReaders (decodeInteger cs) := by
  unfold decodeInteger
  split
  · exact Fault.all_ok _
  · exact Fault.all_error (Fault.isReaders_decode _)
  · exact Fault.all_error (Fault.isReaders_decode _)

theorem isReaders_decodeReal (cs : List Char) : Fault.All Fault.IsReaders (decodeReal cs) := by
  unfold decodeReal
  split
  · exact Fault.all_ok _
  · exact Fault.all_error (Fault.isReaders_decode _)

theorem isReaders_decodeDecimal (cs : List Char) :
    Fault.All Fault.IsReaders (decodeDecimal cs) := by
  unfold decodeDecimal
  split
  · exact Fault.all_ok _
  · exact Fault.all_error (Fault.isReaders_decode _)
  · exact Fault.all_error (Fault.isReaders_decode _)

theorem isReaders_decodeFlag (cs : List Char) : Fault.All Fault.IsReaders (decodeFlag cs) := by
  unfold decodeFlag
  split
  · exact Fault.all_ok _
  · exact Fault.all_ok _
  · exact Fault.all_error (Fault.isReaders_decode _)

theorem isReaders_keyOf (v : Value) : Fault.All Fault.IsReaders (keyOf v) := by
  unfold keyOf
  split
  case h_6 => exact Fault.all_error (Fault.isReaders_decode _)
  case h_8 => exact Fault.all_error (Fault.isReaders_decode _)
  all_goals exact Fault.all_ok _

theorem isReaders_gather (t : Table) (vs : List Value) :
    Fault.All Fault.IsReaders (gather t vs) := by
  induction t, vs using gather.induct with
  | case1 t => exact Fault.all_ok _
  | case2 t v => exact Fault.all_error (Fault.isReaders_decode _)
  | case3 t k v vs key hkey ih =>
      rw [gather, hkey]
      exact ih
  | case4 t k v vs f hf =>
      rw [gather, hf]
      exact Fault.all_error (isReaders_keyOf k f hf)

/-! ### Messages -/

namespace Decoder

theorem isReaders_stop (d : Decoder) (name : List Char) :
    Fault.All Fault.IsReaders (d.stop name) := by
  simp only [stop]
  split
  case h_3 => exact (isReaders_decodeFlag _).map _
  case h_4 => exact (isReaders_decodeInteger _).map _
  case h_5 => exact (isReaders_decodeReal _).map _
  case h_6 => exact (isReaders_decodeDecimal _).map _
  case h_9 => exact (isReaders_gather _ _).map _
  case h_10 => exact (isReaders_decodeOctets _).map _
  all_goals exact Fault.all_ok _

theorem isReaders_step (d : Decoder) (e : Xml.Event) : Fault.All Fault.IsReaders (d.step e) := by
  cases e with
  | text cs => exact Fault.all_ok _
  | stop name => exact isReaders_stop d name
  | start name =>
      simp only [step, start]
      split
      · exact Fault.all_error (Fault.isReaders_of_trouble rfl)
      · split
        · exact Fault.all_ok _
        · exact Fault.all_ok _

theorem isReaders_run (d : Decoder) (es : List Xml.Event) :
    Fault.All Fault.IsReaders (d.run es) := by
  induction es generalizing d with
  | nil => exact Fault.all_ok d
  | cons e es ih =>
      cases hstep : d.step e with
      | ok d' =>
          rw [run, hstep]
          exact ih d'
      | error f =>
          rw [run, hstep]
          exact Fault.all_error (isReaders_step d e f hstep)

theorem isReaders_faultOf (vs : List Value) : (faultOf vs).IsReaders := by
  unfold faultOf
  split
  · exact Fault.isReaders_decode _
  · unfold faultOfTable
    split
    · exact Fault.isReaders_decode _
    · split
      · exact Fault.isReaders_decode _
      · split
        · exact Fault.isReaders_of_trouble rfl
        · exact Fault.isReaders_decode _
  · exact Fault.isReaders_decode _

theorem isReaders_finish (d : Decoder) : Fault.All Fault.IsReaders d.finish := by
  unfold finish
  split
  · exact Fault.all_error (Fault.isReaders_of_trouble rfl)
  · exact Fault.all_error (isReaders_faultOf _)
  · exact Fault.all_ok _

end Decoder

theorem isReaders_faultOfStop (s : Xml.Stop) : (faultOfStop s).IsReaders := by
  unfold faultOfStop
  split
  · exact Fault.isReaders_decode _
  · exact Fault.isReaders_of_trouble rfl

theorem isReaders_decodeBody (octets : List UInt8) {stop? : Option Fault}
    (hstop : forall f, stop? = some f -> f.IsReaders) :
    Fault.All Fault.IsReaders (decodeBody octets stop?) := by
  apply Fault.All.bind (Decoder.isReaders_run _ _)
  intro d
  split
  · exact Fault.all_error (isReaders_faultOfStop _)
  · exact Fault.all_error (hstop _ rfl)
  · exact Decoder.isReaders_finish d

theorem isReaders_faultOfTrouble (t : Gzip.Trouble) : (faultOfTrouble t).IsReaders := by
  cases t with
  | cut => exact Fault.isReaders_expand .cut
  | corrupt flaw => exact Fault.isReaders_expand (.corrupt flaw)
  | _ => exact Fault.isReaders_of_trouble rfl

theorem isReaders_decodeContent (head : Http.Head) (cs : List Char) :
    Fault.All Fault.IsReaders (decodeContent head cs) := by
  unfold decodeContent
  split
  · apply Fault.All.bind (Http.isReaders_readWhole _ _)
    intro body
    apply isReaders_decodeBody
    intro f hf
    rcases Option.map_eq_some_iff.mp hf with ⟨t, _, rfl⟩
    exact isReaders_faultOfTrouble t
  · apply isReaders_decodeBody
    intro f hf
    exact Http.isReaders_of_readBlocks hf

theorem isReaders_decodeResponse (place : String) (bs : List UInt8) :
    Fault.All Fault.IsReaders (decodeResponse place bs) := by
  have hrefused {α : Type} (e : AnswerError) :
      Fault.All Fault.IsReaders (.error (.answer e) : Except Fault α) :=
    Fault.all_error (Fault.isReaders_of_trouble rfl)
  apply Fault.All.bind (Http.isReaders_readHead _ _)
  rintro ⟨head, rest⟩
  dsimp only
  split
  · apply Fault.All.bind (isReaders_decodeContent _ _)
    intro vs
    exact Fault.all_ok _
  · split
    · apply Fault.All.bind (Http.isReaders_readWhole _ _)
      intro body
      exact hrefused _
    · exact hrefused _

end Wire

/-!
## Classes
-/

namespace Transport

open Act

/-- What a failed call ends with, by the fault that its request ran into: the engine's own
fault, a time limit that passed, or other trouble with the wire is reported under the name of
the command, with the fault as its cause; any other fault is not reported but passes, and what
cannot be written of an engine's fault takes the place of its report. -/
inductive Ends (log? : Option Log.Renderer) (r : Request) : Fault → Fault → Prop where
  | remoteFault {code text : Value} (hrecord : writeFault log? r code = .ok ())
      (hshown : [text, code].findSome? Value.unshown? = none) :
      Ends log? r (.answer (.fault code text))
        (.chained (.remoteFault text.plain (some r.method) code) (.answer (.fault code text)))
  | unwritten {code text : Value} {f : Fault} (h : Unwritten log? r code text f) :
      Ends log? r (.answer (.fault code text)) f
  | timeout {f : Fault} (h : f.isTimeout = true) :
      Ends log? r f (.chained (.transportTimeout
        ("no answer from " ++ r.url ++ " within " ++ r.timeout.toText ++ "s") (some r.method)
        (summarize r.args)) f)
  | failure {f : Fault} (hfault : forall code text, f ≠ .answer (.fault code text))
      (htimeout : f.isTimeout = false) (h : f.isWireTrouble = true) :
      Ends log? r f (.chained (.transportFailure
        ("request to " ++ r.url ++ " failed: " ++ f.message) (some r.method)
        (summarize r.args)) f)
  | unreported {f : Fault} (h : f.isWireTrouble = false) : Ends log? r f f

variable {log? : Option Log.Renderer} {r : Request}

def outcome (r : Request) (peers : List Peer) : Except Fault Value :=
  target r >>= fun t => (Exchange.ofPeers t.text peers).1.result

/-- Where a fault that is not reported comes from. -/
inductive Unreported (r : Request) (peers : List Peer) : Fault → Prop where
  /-- No request is made to the URL. -/
  | target {e : TargetError} (h : target r = .error (.target e)) : Unreported r peers (.target e)
  | number (h : Wire.itemsFit r.args = false) : Unreported r peers .integerRange
  /-- A peer sends what no value can be built from. -/
  | value {place : String} {bs : List UInt8} {e : DecodeError} (hp : .sends bs ∈ peers)
      (h : Wire.decodeResponse place bs = .error (.decode e)) : Unreported r peers (.decode e)
  | count {place : String} {bs : List UInt8} (hp : .sends bs ∈ peers)
      (h : Wire.decodeResponse place bs = .error .countRange) : Unreported r peers .countRange
  /-- A peer sends compressed data that breaks off or is corrupt. -/
  | compressed {place : String} {bs : List UInt8} {e : ExpandError} (hp : .sends bs ∈ peers)
      (h : Wire.decodeResponse place bs = .error (.expand e)) : Unreported r peers (.expand e)
  /-- A peer fails in a way of its own. -/
  | peer {f : Fault} (hp : .unreachable f ∈ peers ∨ .fails f ∈ peers) : Unreported r peers f

theorem unreported_of_outcome {r : Request} {peers : List Peer} {f : Fault}
    (h : outcome r peers = .error f) (hf : f.isWireTrouble = false) : Unreported r peers f := by
  unfold outcome at h
  cases ht : target r with
  | error g =>
      rw [ht] at h
      cases h
      cases misfit_of_target ht with
      | http e => cases hf
      | target e => exact .target ht
      | number hfit => exact .number hfit
  | ok t =>
      rw [ht] at h
      change (Exchange.ofPeers t.text peers).1.result = .error f at h
      rcases result_ofPeers t.text peers with ⟨p, hp, hcontact⟩
      rw [hcontact] at h
      rcases hp with hmem | rfl
      · cases p with
        | unreachable g =>
            cases h
            exact .peer (Or.inl hmem)
        | fails g =>
            cases h
            exact .peer (Or.inr hmem)
        | sends bs =>
            rcases Wire.isReaders_decodeResponse t.text bs f h hf with
              ⟨e, rfl⟩ | rfl | ⟨e, rfl⟩
            · exact .value hmem h
            · exact .count hmem h
            · exact .compressed hmem h
      · -- Without a peer the connection is closed, which the transport knows.
        cases h
        cases hf

theorem exchange_run (r : Request) (w : World) :
    (forall v, outcome r w.surroundings.peers = .ok v -> exists w', exchange r w = .ok v w') ∧
      forall f, outcome r w.surroundings.peers = .error f ->
        exists w',
          exchange r w = .error f w' ∧ w'.surroundings.log? = w.surroundings.log? := by
  unfold outcome
  cases ht : target r with
  | error g =>
      constructor
      · intro v hv
        cases hv
      · intro f hf
        cases hf
        exact ⟨w, exchange_of_refused ht w, rfl⟩
  | ok t =>
      rw [exchange_of_target ht]
      change (forall v, (Exchange.ofPeers t.text w.surroundings.peers).1.result = .ok v -> _) ∧
        forall f, (Exchange.ofPeers t.text w.surroundings.peers).1.result = .error f -> _
      constructor
      · intro v hv
        rw [hv]
        exact ⟨_, rfl⟩
      · intro f hf
        rw [hf]
        exact ⟨_, rfl, rfl⟩

theorem call_run {w : World} (hwire : w.surroundings.transport = .wire) (s : Session)
    (method : String) (args : List Value) :
    exists w₁, w₁.surroundings = w.surroundings ∧
      call s method args w =
        classified ⟨s.url, w.client.options.timeout, method, args⟩
          (exchange ⟨s.url, w.client.options.timeout, method, args⟩) w₁ := by
  unfold call
  rw [bind_run_of_ok (rfl : noteRequest method args w = .ok () _), bind_run_of_ok (get_run _)]
  simp only [hwire]
  exact ⟨(noteRequest method args).after w, rfl, rfl⟩

theorem call_of_outcome_ok {w : World} (hwire : w.surroundings.transport = .wire) {s : Session}
    {method : String} {args : List Value} {v : Value}
    (h : outcome ⟨s.url, w.client.options.timeout, method, args⟩ w.surroundings.peers = .ok v) :
    exists w', call s method args w = .ok v w' := by
  rcases call_run hwire s method args with ⟨w₁, hsurroundings, hcall⟩
  rw [← hsurroundings] at h
  rcases (exchange_run _ w₁).1 v h with ⟨w', hw'⟩
  exact ⟨w', hcall.trans (classified_of_ok hw')⟩

theorem call_of_outcome_error {w : World} (hwire : w.surroundings.transport = .wire) {s : Session}
    {method : String} {args : List Value} {f : Fault}
    (h : outcome ⟨s.url, w.client.options.timeout, method, args⟩ w.surroundings.peers = .error f) :
    exists w',
      call s method args w =
        .error (reported w.surroundings.log?
          ⟨s.url, w.client.options.timeout, method, args⟩ f) w' := by
  rcases call_run hwire s method args with ⟨w₁, hsurroundings, hcall⟩
  rw [← hsurroundings] at h ⊢
  rcases (exchange_run _ w₁).2 f h with ⟨w', hw', hlog⟩
  rcases classified_of_error hw' with ⟨emissions, hclassified⟩
  rw [hlog] at hclassified
  exact ⟨_, hcall.trans hclassified⟩

end Transport
end EngineClient
