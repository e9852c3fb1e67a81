import EngineClient.Command
import EngineClient.Proofs.Act
import EngineClient.Transport.Outcome
import EngineClient.Wire.Message
import Mathlib.Data.Nat.Digits.Defs

/-!
# What is reported of a fault

The fault of a request is written into a record, then it is reported. The engine's own fault may
hold a code or a text that cannot be written; then the reason for that takes the place of the
report. Main statement: `classified_of_error`.
-/

namespace EngineClient

/-!
## Arguments
-/

/-- What requests are made of: a text, or an integer that is not too long to be written. -/
inductive Value.IsArgument : Value → Prop where
  | text (s : String) : IsArgument (.text s)
  | int {i : Int} (h : (Nat.toDigits 10 i.natAbs).length ≤ Literal.maxIntegerDigits) :
      IsArgument (.int i)

theorem Literal.isLong_eq_false_iff {i : Int} :
    isLong i = false ↔ (Nat.toDigits 10 i.natAbs).length ≤ maxIntegerDigits := by
  simp [isLong]

theorem Value.IsArgument.unshown? {v : Value} (h : v.IsArgument) : v.unshown? = none := by
  cases h with
  | text s => rfl
  | @int i h =>
      show unshownInteger? i = none
      rw [unshownInteger?, Literal.isLong_eq_false_iff.mpr h]
      rfl

theorem Wire.short_of_isCarried {i : Int} (h : isCarried i = true) :
    (Nat.toDigits 10 i.natAbs).length ≤ Literal.maxIntegerDigits := by
  simp only [isCarried, Bool.and_eq_true, decide_eq_true_eq] at h
  have hlength := Nat.toDigits_length 10 i.natAbs 10 (by decide) (by omega)
  exact hlength.trans (by decide)

theorem Wire.fits_of_mem {args : List Value} (h : itemsFit args = true) {v : Value}
    (hv : v ∈ args) : fits v = true := by
  induction args with
  | nil => cases hv
  | cons u args ih =>
      rw [itemsFit, Bool.and_eq_true] at h
      rcases List.mem_cons.mp hv with rfl | hv
      · exact h.1
      · exact ih h.2 hv

theorem Command.exists_kind {c : Command} {args : List Value} (h : c.Accepts args) {v : Value}
    (hv : v ∈ args) : exists kind : ParamKind, kind.accepts v = true := by
  rcases h with ⟨_, hmost, hkinds⟩
  rcases List.mem_iff_getElem.mp hv with ⟨i, hi, rfl⟩
  have hparams : i < c.params.length := Nat.lt_of_lt_of_le hi hmost
  have hzip : i < (c.params.zip args).length := by
    rw [List.length_zip]
    omega
  have hmem := List.getElem_mem hzip
  rw [List.getElem_zip] at hmem
  exact ⟨c.params[i].kind, hkinds _ hmem⟩

theorem Command.isArgument_of_accepts {c : Command} {args : List Value} (h : c.Accepts args)
    (hfit : Wire.itemsFit args = true) {v : Value} (hv : v ∈ args) : v.IsArgument := by
  have hfits := Wire.fits_of_mem hfit hv
  rcases exists_kind h hv with ⟨kind, haccepts⟩
  cases v with
  | int i => exact .int (Wire.short_of_isCarried hfits)
  | text s => exact .text s
  | _ => cases kind <;> cases haccepts

namespace Transport

open Act

theorem showing_of_isArgument {args : List Value} (h : forall v, v ∈ args -> v.IsArgument)
    (e : ClientError) (cause : Fault) : showing args e cause = .chained e cause := by
  have hshown : args.findSome? Value.unshown? = none := by
    rw [List.findSome?_eq_none_iff]
    exact fun v hv => (h v hv).unshown?
  rw [showing, hshown]

/-!
## Kinds of faults
-/

theorem ofFault_eq_other {f : Fault} (h : f.isWireTrouble = false) :
    Outcome.ofFault f = .other := by
  cases f with
  | os e => cases h
  | answer e => cases h
  | disconnected text => cases h
  | http e => cases h
  | xml text => cases h
  | _ => rfl

theorem isWireTrouble_of_ofFault {f : Fault} (h : Outcome.ofFault f ≠ .other) :
    f.isWireTrouble = true := by
  cases htrouble : f.isWireTrouble with
  | true => rfl
  | false => exact absurd (ofFault_eq_other htrouble) h

theorem isWireTrouble_of_other {f : Fault} (h : Outcome.ofFault f = .other) :
    f.isWireTrouble = false := by
  unfold Outcome.ofFault at h
  split at h
  · cases h
  · split at h
    · cases h
    · split at h
      · cases h
      · rename_i htrouble
        simpa using htrouble

theorem eq_of_ofFault {f : Fault} {code text : Value}
    (h : Outcome.ofFault f = .remoteFault code text) : f = .answer (.fault code text) := by
  unfold Outcome.ofFault at h
  split at h
  · cases h
    rfl
  · split at h
    · cases h
    · split at h <;> cases h

theorem report_of_other {f : Fault} (h : Outcome.ofFault f = .other) (r : Request) :
    report r f = f := by
  unfold report
  rw [h]

/-!
## Reports
-/

theorem clientError?_of_writeFault {log? : Option Log.Renderer} {r : Request} {code : Value}
    {f : Fault} (h : writeFault log? r code = .error f) : f.clientError? = none := by
  unfold writeFault at h
  split at h
  · cases h
  · split at h <;> cases h
    rfl
  · split at h <;> cases h
    rfl

/-- What takes the place of the report of an engine's fault: its code cannot be written into a
record, or else its text or its code cannot be shown. -/
inductive Unwritten (log? : Option Log.Renderer) (r : Request) (code text : Value) :
    Fault → Prop where
  | record {f : Fault} (h : writeFault log? r code = .error f) : Unwritten log? r code text f
  | message {e : Value.ShowError} (hrecord : writeFault log? r code = .ok ())
      (h : [text, code].findSome? Value.unshown? = some e) :
      Unwritten log? r code text (.unshown e)

def reported (log? : Option Log.Renderer) (r : Request) (f : Fault) : Fault :=
  match Outcome.ofFault f with
  | .remoteFault code _ =>
      match writeFault log? r code with
      | .error why => why
      | .ok () => report r f
  | _ => report r f

/-- A request that fails ends with what is reported of its fault, and what it leaves differs in
its records alone. -/
theorem classified_of_error {r : Request} {x : Act Value} {w w' : World} {f : Fault}
    (h : x w = .error f w') :
    exists emissions,
      classified r x w =
        .error (reported w'.surroundings.log? r f)
          { w' with trail := { w'.trail with emissions } } := by
  unfold classified
  rw [bind_run_of_ok (attempt_error h)]
  cases houtcome : Outcome.ofFault f with
  | remoteFault code text =>
      cases hwrite : writeFault w'.surroundings.log? r code with
      | ok u =>
          have hrecord : recordFault r f w' = emit (.record (faultRecord r code)) w' := by
            simp only [recordFault, houtcome]
            rw [bind_run_of_ok (get_run w'), hwrite]
            rfl
          simp only [reported, houtcome, hwrite]
          exact ⟨_, bind_run_of_ok (hrecord.trans (modify_run _ w'))⟩
      | error why =>
          have hrecord : recordFault r f w' = .error why w' := by
            simp only [recordFault, houtcome]
            rw [bind_run_of_ok (get_run w'), hwrite]
            rfl
          simp only [reported, houtcome, hwrite]
          exact ⟨_, bind_run_of_error hrecord⟩
  | _ =>
      simp only [recordFault, reported, houtcome]
      exact ⟨_, rfl⟩

theorem classified_of_ok {r : Request} {x : Act Value} {w w' : World} {v : Value}
    (h : x w = .ok v w') : classified r x w = .ok v w' := by
  unfold classified
  rw [bind_run_of_ok (attempt_ok h)]
  rfl

/-- An engine's fault is reported with its code and its text, unless one of them cannot be
written. -/
theorem reported_fault (log? : Option Log.Renderer) (r : Request) (code text : Value) :
    reported log? r (.answer (.fault code text)) =
        .chained (.remoteFault text.plain (some r.method) code) (.answer (.fault code text)) ∧
        writeFault log? r code = .ok () ∧ [text, code].findSome? Value.unshown? = none ∨
      Unwritten log? r code text (reported log? r (.answer (.fault code text))) := by
  have houtcome : Outcome.ofFault (.answer (.fault code text)) = .remoteFault code text := rfl
  cases hwrite : writeFault log? r code with
  | error why =>
      right
      simp only [reported, houtcome, hwrite]
      exact .record hwrite
  | ok u =>
      cases hshown : [text, code].findSome? Value.unshown? with
      | none =>
          left
          refine ⟨?_, rfl, rfl⟩
          simp only [reported, houtcome, hwrite, report, showing, hshown]
      | some e =>
          right
          simp only [reported, houtcome, hwrite, report, showing, hshown]
          exact .message hwrite hshown

theorem untimed_faultRecord (r : Request) (code : Value) :
    (faultRecord r code).untimed =
      ([(.text "method", .text r.method), (.text "code", code),
        (.text "event", .text "remote_fault"), (.text "logger", .text "ropelink.transport"),
        (.text "level", .text "warning")] : Table) := by
  have hlogger : Log.loggerName logger = "ropelink.transport" := by decide +kernel
  simp [faultRecord, Log.Record.untimed, Log.Record.toTable, Log.Record.withEvent, Table.set,
    Table.erase, hlogger, Log.Level.name, Key.same]

theorem writeFault_int {i : Int}
    (h : (Nat.toDigits 10 i.natAbs).length ≤ Literal.maxIntegerDigits)
    (log? : Option Log.Renderer) (r : Request) : writeFault log? r (.int i) = .ok () := by
  have hshort := Literal.isLong_eq_false_iff.mpr h
  cases log? with
  | none => rfl
  | some renderer =>
      cases renderer with
      | console =>
          simp only [writeFault, (Value.IsArgument.int h).unshown?]
      | json =>
          have hroom : 0 < Value.maxDepth := by decide
          have hunsorted : Json.recordLine.sorted = false := rfl
          simp only [writeFault, untimed_faultRecord, Json.render, Json.chars, hroom, if_true,
            Json.entryChars, Json.Layout.entries, hunsorted, Json.entryLines, Json.entryLine,
            Json.keyChars, Json.integerChars, hshort, Except.map, Bool.false_eq_true, if_false]

theorem reported_int {i : Int}
    (h : (Nat.toDigits 10 i.natAbs).length ≤ Literal.maxIntegerDigits) (text : String)
    (log? : Option Log.Renderer) (r : Request) :
    reported log? r (.answer (.fault (.int i) (.text text))) =
      .chained (.remoteFault text (some r.method) (.int i))
        (.answer (.fault (.int i) (.text text))) := by
  have houtcome : Outcome.ofFault (.answer (.fault (.int i) (.text text))) =
      .remoteFault (.int i) (.text text) := rfl
  have hargs : forall v, v ∈ [Value.text text, .int i] -> v.IsArgument := by
    intro v hv
    simp only [List.mem_cons, List.not_mem_nil, or_false] at hv
    rcases hv with rfl | rfl
    · exact .text text
    · exact .int h
  simp only [reported, houtcome, writeFault_int h, report, showing_of_isArgument hargs]
  rfl

/-- The check of a command is reported only if it was what the request ran into. -/
theorem ofFault_of_contract {log? : Option Log.Renderer} {r : Request} {f : Fault}
    {e : ClientError} (h : (reported log? r f).clientError? = some e) (hkind : e.kind = .contract) :
    Outcome.ofFault f = .other := by
  have hshowing : forall shown e' cause, (showing shown e' cause).clientError? = some e ->
      e' = e := by
    intro shown e' cause hclient
    unfold showing at hclient
    split at hclient
    · cases hclient
    · cases hclient
      rfl
  unfold reported at h
  cases houtcome : Outcome.ofFault f with
  | other => rfl
  | timeout =>
      simp only [houtcome, report] at h
      cases hshowing _ _ _ h
      cases hkind
  | trouble =>
      simp only [houtcome, report] at h
      cases hshowing _ _ _ h
      cases hkind
  | remoteFault code text =>
      simp only [houtcome, report] at h
      split at h
      · rename_i why hwrite
        rw [clientError?_of_writeFault hwrite] at h
        cases h
      · cases hshowing _ _ _ h
        cases hkind

end Transport
end EngineClient
