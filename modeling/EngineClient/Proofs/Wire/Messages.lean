import EngineClient.Proofs.Wire.Values
import EngineClient.Proofs.Xml.Document
import EngineClient.Wire.Response

/-!
# Messages there and back

A request is decoded as the command and the arguments that it was written for; an answer as
its value, and a fault as its code and text. Main statements: `decodeCall_requestText`,
`decodeBody_answerText`, `decodeBody_faultText`.
-/

namespace EngineClient
namespace Wire

open Xml

/-!
## Documents
-/

variable {content : List Char} {d : Decoder}

def messageText (root : String) (content : List Char) : List Char :=
  declaration ++ element root content ++ ['\n']

theorem run_message {root : String} (hname : IsPlainName root.toList)
    (hroot : Element.ofTag? root.toList = none) (h : Says endsRun content {} d) :
    exists es taken,
      readAtOnce true (Text.Utf8.encode (messageText root content)) = Source.waiting es taken ∧
        ({} : Decoder).run es = .ok d := by
  rcases h with ⟨es, hyields, hrun⟩
  rcases hyields.readAtOnce_document hname with ⟨taken, hread⟩
  have hdecode : ({} : Decoder).run (.start root.toList :: (es ++ [.stop root.toList])) = .ok d := by
    rw [Decoder.run, Decoder.step, start_of_none hroot rfl]
    show ({} : Decoder).run (es ++ [.stop root.toList]) = _
    rw [run_append_of_ok hrun, run_singleton]
    exact stop_of_none hroot d
  unfold messageText
  rw [element_eq_tagged]
  exact ⟨_, taken, hread, hdecode⟩

theorem decodeBody_message {root : String} (hname : IsPlainName root.toList)
    (hroot : Element.ofTag? root.toList = none) (h : Says endsRun content {} d) :
    decodeBody (Text.Utf8.encode (messageText root content)) none = d.finish := by
  rcases run_message hname hroot h with ⟨es, taken, hread, hrun⟩
  unfold decodeBody
  simp only [Option.isNone_none, if_true, read_of_waiting hread]
  show ({} : Decoder).run es >>= _ = _
  rw [hrun]
  rfl

/-!
## Parameters
-/

theorem tag_param : Element.ofTag? "param".toList = none := by
  decide

theorem tag_params : Element.ofTag? "params".toList = some .params := by
  decide

theorem says_param {v : Value} (h : Carries anyNext (valueText v) v) (d : Decoder)
    (hopened : d.opened = false) :
    exists text,
      Says anyNext (element "param" ('\n' :: valueText v) ++ ['\n']) d
        { d with items := v :: d.items, opened := false, text } := by
  rcases h { d with text := ['\n'], opened := false } with ⟨text, hvalue⟩
  refine ⟨'\n' :: text, ?_⟩
  have hinside : Says endsRun ('\n' :: valueText v) { d with text := [], opened := false }
      { d with items := v :: d.items, text, opened := false } :=
    Says.inside (Says.lineEnd.append hvalue)
  exact (Says.element (by decide) (start_of_none tag_param hopened) hinside
    (stop_of_none tag_param _)).append .lineEnd

theorem says_each_param {vs : List Value} (h : forall v, v ∈ vs -> Carries anyNext (valueText v) v)
    (d : Decoder) (hopened : d.opened = false) :
    exists text,
      Says anyNext (vs.flatMap fun v => element "param" ('\n' :: valueText v) ++ ['\n']) d
        { d with items := vs.reverse ++ d.items, text } := by
  induction vs generalizing d with
  | nil => exact ⟨d.text, Says.nil⟩
  | cons v vs ih =>
      rcases says_param (h v List.mem_cons_self) d hopened with ⟨text, hfirst⟩
      rcases ih (fun w hw => h w (List.mem_cons_of_mem v hw))
        { d with items := v :: d.items, opened := false, text } rfl with ⟨text', hrest⟩
      refine ⟨text', ?_⟩
      rw [List.flatMap_cons, List.reverse_cons, List.append_assoc vs.reverse, hopened]
      exact hfirst.append hrest

theorem says_paramsText {vs : List Value} (h : forall v, v ∈ vs -> Carries anyNext (valueText v) v)
    (d : Decoder) :
    exists text,
      Says anyNext (paramsText vs) d
        { d with
          items := vs.reverse ++ d.items
          opened := false
          text
          closing? := some .params } := by
  rcases says_each_param h { d with text := ['\n'], opened := false } rfl with ⟨text, hparams⟩
  have helement : Says anyNext
      (element "params"
        ('\n' :: vs.flatMap fun v => element "param" ('\n' :: valueText v) ++ ['\n'])) d
      { d with items := vs.reverse ++ d.items, opened := false, text, closing? := some .params } := by
    refine Says.element (by decide) (start_of_tag tag_params (by decide) (by decide) d)
      (Says.inside (Says.lineEnd.append hparams)) ?_
    unfold Decoder.stop
    rw [tag_params]
  exact ⟨'\n' :: text, helement.append .lineEnd⟩

/-!
## Requests
-/

def decodeCall (octets : List UInt8) : Except Fault (Option String × List Value) := do
  let reading := Xml.readAtOnce true octets
  let decoder ← ({} : Decoder).run reading.events
  match reading.stop? with
  | some s => throw (faultOfStop s)
  | none => return (decoder.method?, ← decoder.finish)

theorem says_method {method : String} (hne : method.toList ≠ [])
    (hplain : forall c, c ∈ method.toList -> IsPlain c) (d : Decoder) :
    exists text,
      Says anyNext (element "methodName" method.toList) d
        { d with opened := false, text, closing? := some .method, method? := some method } := by
  have htag : Element.ofTag? "methodName".toList = some .method := by
    decide
  refine ⟨method.toList.reverse, Says.element (by decide)
    (start_of_tag htag (by decide) (by decide) d) (Says.text (.single (.run hne hplain))) ?_⟩
  unfold Decoder.stop
  rw [htag]
  simp

theorem decodeCall_requestText {method : String} (hne : method.toList ≠ [])
    (hplain : forall c, c ∈ method.toList -> IsPlain c) {args : List Value}
    (h : forall v, v ∈ args -> Carried v) :
    decodeCall (Text.Utf8.encode (requestText method args)) = .ok (some method, args) := by
  have hroot : Element.ofTag? "methodCall".toList = none := by
    decide
  rcases says_method hne hplain { text := ['\n'] } with ⟨text, hmethod⟩
  rcases says_paramsText (fun v hv => (h v hv).carries)
    { text := '\n' :: text, closing? := some .method, method? := some method } with ⟨text', hparams⟩
  have hline : Says anyNext ['\n']
      { text, closing? := some .method, method? := some method }
      { text := '\n' :: text, closing? := some .method, method? := some method } := .lineEnd
  have hsays : Says endsRun
      ('\n' :: element "methodName" method.toList ++ '\n' :: paramsText args) {} _ :=
    Says.inside ((Says.lineEnd.append hmethod).append (hline.append hparams))
  rcases run_message (by decide) hroot hsays with ⟨es, taken, hread, hrun⟩
  change readAtOnce true (Text.Utf8.encode (requestText method args)) = _ at hread
  unfold decodeCall
  rw [hread]
  show ({} : Decoder).run es >>= _ = _
  rw [hrun]
  show Except.ok (some method, (args.reverse ++ []).reverse) = _
  rw [List.append_nil, List.reverse_reverse]

/-!
## Answers
-/

theorem decodeBody_answerText {v : Value} (h : Carried v) :
    decodeBody (Text.Utf8.encode (answerText v)) none = .ok [v] := by
  have hroot : Element.ofTag? "methodResponse".toList = none := by
    decide
  have hvalues : forall w, w ∈ [v] -> Carries anyNext (valueText w) w := by
    intro w hw
    rw [List.mem_singleton.mp hw]
    exact h.carries
  rcases says_paramsText hvalues { text := ['\n'] } with ⟨text, hparams⟩
  exact decodeBody_message (by decide) hroot (Says.inside (Says.lineEnd.append hparams))

/-!
## Faults
-/

def faultMembers (code text : Value) : List (String × Value) :=
  [("faultCode", code), ("faultString", text)]

theorem mem_faultMembers {code text : Value} {e : String × Value}
    (h : e ∈ faultMembers code text) : e = ("faultCode", code) ∨ e = ("faultString", text) := by
  simpa [faultMembers] using h

theorem carried_fault {code text : Value} (hcode : Carried code) (htext : Carried text) :
    Carried (.table (entriesOf (faultMembers code text))) := by
  apply Carried.table
  · show ["faultCode", "faultString"].Nodup
    decide
  · intro e he
    rcases mem_faultMembers he with rfl | rfl
    · show forall c, c ∈ "faultCode".toList -> IsKept c
      exact isKept_of_all (by decide)
    · show forall c, c ∈ "faultString".toList -> IsKept c
      exact isKept_of_all (by decide)
  · intro e he
    rcases mem_faultMembers he with rfl | rfl
    · exact hcode
    · exact htext

theorem decodeBody_faultText {code text : Value} (hcode : Carried code) (htext : Carried text) :
    decodeBody (Text.Utf8.encode (faultText code text)) none =
      .error (.answer (.fault code text)) := by
  have hroot : Element.ofTag? "methodResponse".toList = none := by
    decide
  have htag : Element.ofTag? "fault".toList = some .fault := by
    decide
  rcases (carried_fault hcode htext).carries { text := ['\n'] } with ⟨read, hvalue⟩
  have hfault := Says.element (by decide)
    (start_of_tag htag (by decide) (by decide) { text := ['\n'] })
    (Says.inside (Says.lineEnd.append hvalue)) (by unfold Decoder.stop; rw [htag])
  exact decodeBody_message (by decide) hroot
    (Says.inside ((Says.lineEnd.append hfault).append .lineEnd))

end Wire
end EngineClient
