import EngineClient.Proofs.Transport.Classes
import EngineClient.Proofs.Wire.Messages

/-!
# What a call carries

Over a connection, a command and its arguments reach the engine as they are, and its answer or
its fault comes back as it is, however the response frames its body.
-/

namespace EngineClient

/-!
## Responses
-/

namespace Wire

theorem charsOf_append (bs bs' : List UInt8) : charsOf (bs ++ bs') = charsOf bs ++ charsOf bs' :=
  List.map_append

theorem octetsOf_charsOf (bs : List UInt8) : octetsOf (charsOf bs) = bs := by
  unfold octetsOf charsOf
  rw [List.map_map]
  conv => rhs; rw [← List.map_id bs]
  apply List.map_congr_left
  intro b _
  have hchar : (Char.ofNat b.toNat).toNat = b.toNat := by
    have hvalid : b.toNat.isValidChar := Or.inl (Nat.lt_trans b.toNat_lt (by decide))
    rw [Char.ofNat, dif_pos hvalid]
    rfl
  show UInt8.ofNat (Char.ofNat b.toNat).toNat = b
  rw [hchar, UInt8.ofNat_toNat]

/-- A response is a success with a body that is not compressed. -/
def Delivers (response body : List UInt8) : Prop :=
  exists head rest chars,
    Http.readHead (response.length + 1) (charsOf response) = .ok (head, rest) ∧
      head.status = 200 ∧ head.joined "content-encoding" ≠ compressedCoding ∧
        Http.readBlocks head.extent rest = ⟨chars, none⟩ ∧ octetsOf chars = body

theorem decodeResponse_of_delivers {place : String} {response body : List UInt8}
    (h : Delivers response body) :
    decodeResponse place response = (decodeBody body none).map answerValue := by
  rcases h with ⟨head, rest, chars, hhead, hstatus, hcoding, hblocks, rfl⟩
  unfold decodeResponse
  rw [hhead]
  show (if head.status = 200 then _ else _) = _
  rw [if_pos hstatus]
  unfold decodeContent
  rw [if_neg hcoding, hblocks]
  cases decodeBody (octetsOf chars) none <;> rfl

def plainLine : List Char :=
  "HTTP/1.1 200 OK\r\n".toList

def plainHead : Http.Head :=
  { version := "HTTP/1.1", status := 200, reason := "OK" }

def plainStart : List Char :=
  plainLine ++ ['\r', '\n']

theorem readHead_plain (budget : Nat) (rest : List Char) :
    Http.readHead (budget + 1) (plainStart ++ rest) = .ok (plainHead, rest) := by
  have hline : Http.readLine "status line" (plainStart ++ rest) =
      .ok (plainLine, '\r' :: '\n' :: rest) := rfl
  have hstatus : Http.readStatusLine plainLine = .ok plainHead := by
    decide +kernel
  have hheaders : Http.readHeaderLines Http.maxHeaders ('\r' :: '\n' :: rest) = .ok ([], rest) := rfl
  have hversion : Http.isKnownVersion plainHead.version = true := by
    decide +kernel
  have hnone : Http.headersOfText [] = [] := by
    simp [Http.headersOfText, Text.unifyLineEnds, Text.lines, Http.headersOf]
  rw [Http.readHead, if_neg (by exact Bool.false_ne_true), hline]
  simp only [Except.mapError, bind, Except.bind, hstatus, hheaders, hversion]
  rw [if_neg (by decide), if_pos trivial, List.flatten_nil, hnone]
  rfl

theorem delivers_plain (body : List UInt8) : Delivers (octetsOf plainStart ++ body) body := by
  have hstart : charsOf (octetsOf plainStart) = plainStart := by
    decide +kernel
  have hcoding : plainHead.joined "content-encoding" ≠ compressedCoding := by
    decide
  refine ⟨plainHead, charsOf body, charsOf body, ?_, rfl, hcoding, rfl, octetsOf_charsOf body⟩
  rw [charsOf_append, hstart]
  exact readHead_plain _ _

end Wire

/-!
## Calls
-/

namespace Transport

open Wire

/-- An exchange with peers ends with a response: the first peer sends it, or the connection to
that one is lost and the second peer does. -/
inductive EndsWith (place : String) (peers : List Peer) (response : List UInt8) : Prop where
  | first (h : (nextPeer peers).1 = .sends response)
  | second (hlost : (contact place (nextPeer peers).1).isLost = true)
      (h : (nextPeer (nextPeer peers).2).1 = .sends response)

theorem result_of_endsWith {place : String} {peers : List Peer} {response : List UInt8}
    (h : EndsWith place peers response)
    (hkept : (contact place (.sends response)).isLost = false) :
    (Exchange.ofPeers place peers).1.result = decodeResponse place response := by
  cases h with
  | first h =>
      rw [← h] at hkept
      simp only [Exchange.ofPeers, hkept, Exchange.result, Bool.false_eq_true, if_false]
      rw [h]
      rfl
  | second hlost h =>
      simp only [Exchange.ofPeers, hlost, Exchange.result, if_true]
      rw [h]
      rfl

/-- A request is answered with a body: it can be made, and the response that its exchange ends
with delivers the body. -/
def AnsweredWith (r : Request) (peers : List Peer) (body : List UInt8) : Prop :=
  exists t response, target r = .ok t ∧ EndsWith t.text peers response ∧ Delivers response body

theorem outcome_of_answeredWith {r : Request} {peers : List Peer} {body : List UInt8}
    (h : AnsweredWith r peers body)
    (hkept : forall f, decodeBody body none = .error f -> isLoss f = false) :
    outcome r peers = (decodeBody body none).map answerValue := by
  rcases h with ⟨t, response, ht, hends, hdelivers⟩
  have hdecode : decodeResponse t.text response = _ := decodeResponse_of_delivers hdelivers
  have hcontact : (contact t.text (.sends response)).isLost = false := by
    simp only [Contact.isLost, contact, hdecode]
    cases hbody : decodeBody body none with
    | ok vs => rfl
    | error f => exact hkept f hbody
  unfold outcome
  rw [ht, ← hdecode]
  exact result_of_endsWith hends hcontact

theorem call_of_answerText {w : World} (hwire : w.surroundings.transport = .wire) {s : Session}
    {method : String} {args : List Value} {v : Value} (hv : Carried v)
    (h : AnsweredWith ⟨s.url, w.client.options.timeout, method, args⟩ w.surroundings.peers
      (Text.Utf8.encode (answerText v))) :
    exists w', call s method args w = .ok v w' := by
  have hbody := decodeBody_answerText hv
  apply call_of_outcome_ok hwire
  rw [outcome_of_answeredWith h, hbody]
  · rfl
  · intro f hf
    rw [hbody] at hf
    cases hf

theorem call_of_faultText {w : World} (hwire : w.surroundings.transport = .wire) {s : Session}
    {method : String} {args : List Value} {code : Int} {text : String}
    (hcode : isCarried code = true) (htext : forall c, c ∈ text.toList -> IsKept c)
    (h : AnsweredWith ⟨s.url, w.client.options.timeout, method, args⟩ w.surroundings.peers
      (Text.Utf8.encode (faultText (.int code) (.text text)))) :
    exists w',
      call s method args w =
        .error (.chained (.remoteFault text (some method) (.int code))
          (.answer (.fault (.int code) (.text text)))) w' := by
  have hbody := decodeBody_faultText (.int hcode) (.text htext)
  have houtcome := outcome_of_answeredWith h (by
    intro f hf
    rw [hbody] at hf
    cases hf
    rfl)
  rw [hbody] at houtcome
  rcases call_of_outcome_error hwire houtcome with ⟨w', hcall⟩
  rw [reported_int (short_of_isCarried hcode)] at hcall
  exact ⟨w', hcall⟩

/-!
## Arguments
-/

/-- Arguments that a command accepts, with integers of 32 bits and kept texts, are carried. -/
theorem carried_of_accepts {c : Command} {args : List Value} (h : c.Accepts args)
    (hints : forall i, .int i ∈ args -> isCarried i = true)
    (htexts : forall s, .text s ∈ args -> forall ch, ch ∈ s.toList -> IsKept ch) :
    forall v, v ∈ args -> Carried v := by
  intro v hv
  rcases Command.exists_kind h hv with ⟨kind, haccepts⟩
  cases v with
  | int i => exact .int (hints i hv)
  | text s => exact .text (htexts s hv)
  | _ => cases kind <;> cases haccepts

theorem isPlain_of_mem_name (c : Command) {ch : Char} (h : ch ∈ c.name.toList) :
    Xml.IsPlain ch := by
  have hall : c.name.toList.all (fun ch => decide (Xml.IsPlain ch)) = true := by
    cases c <;> decide
  exact of_decide_eq_true (List.all_eq_true.mp hall ch h)

theorem name_ne_nil (c : Command) : c.name.toList ≠ [] := by
  cases c <;> decide

/-!
## Both ways
-/

/-- A request that reaches a peer is decoded there as the command and the arguments of the
call, and no text of an argument can end its value or add another. An answer that is carried
comes back as it is, and a fault with its code and its text. -/
theorem call_lossless {w : World} (hwire : w.surroundings.transport = .wire) (s : Session) :
    (forall (c : Command) (args : List Value), c.Accepts args ->
      (forall i, .int i ∈ args -> isCarried i = true) ->
      (forall t, .text t ∈ args -> forall ch, ch ∈ t.toList -> IsKept ch) ->
        decodeCall (Text.Utf8.encode (requestText c.name args)) = .ok (some c.name, args) ∧
          exists calls,
            ((call s c.name args).after w).trail.calls = w.trail.calls ++ calls ∧
              forall k, k ∈ calls -> k.isWritten = true -> k.Carries c.name args) ∧
      (forall (method : String) (args : List Value) (v : Value), Carried v ->
        AnsweredWith ⟨s.url, w.client.options.timeout, method, args⟩ w.surroundings.peers
          (Text.Utf8.encode (answerText v)) ->
        exists w', call s method args w = .ok v w') ∧
      forall (method : String) (args : List Value) (code : Int) (text : String),
        isCarried code = true -> (forall ch, ch ∈ text.toList -> IsKept ch) ->
        AnsweredWith ⟨s.url, w.client.options.timeout, method, args⟩ w.surroundings.peers
          (Text.Utf8.encode (faultText (.int code) (.text text))) ->
        exists w',
          call s method args w =
            .error (.chained (.remoteFault text (some method) (.int code))
              (.answer (.fault (.int code) (.text text)))) w' := by
  refine ⟨?_, ?_, ?_⟩
  · intro c args haccepts hints htexts
    have hcarried := carried_of_accepts haccepts hints htexts
    refine ⟨decodeCall_requestText (name_ne_nil c) (fun ch => isPlain_of_mem_name c) hcarried, _,
      calls_after_call hwire s c.name args, ?_⟩
    intro k hk hwritten
    have hcarries : k.Carries _ _ := carries_of_mem_wireCalls hk hwritten
    exact hcarries
  · intro method args v hv hanswered
    exact call_of_answerText hwire hv hanswered
  · intro method args code text hcode htext hanswered
    exact call_of_faultText hwire hcode htext hanswered

def markedText : String :=
  "</string>&amp;]]>\n"

def markedValue : Value :=
  .table (entriesOf [("<k>", .list [.null, .bool true, .int (-7), .text markedText])])

theorem isKept_markedText : forall ch, ch ∈ markedText.toList -> IsKept ch :=
  isKept_of_all (by decide)

theorem carried_markedValue : Carried markedValue := by
  have hlist : Carried (.list [.null, .bool true, .int (-7), .text markedText]) := by
    apply Carried.list
    intro v hv
    simp only [List.mem_cons, List.not_mem_nil, or_false] at hv
    rcases hv with rfl | rfl | rfl | rfl
    · exact .null
    · exact .bool true
    · exact .int (by decide)
    · exact .text isKept_markedText
  apply Carried.table
  · show ["<k>"].Nodup
    decide
  · intro e he
    rw [List.mem_singleton.mp he]
    exact isKept_of_all (by decide)
  · intro e he
    rw [List.mem_singleton.mp he]
    exact hlist

def sentTo (body : List UInt8) : World :=
  { firstSession with
    surroundings := { transport := .wire, peers := [.sends (octetsOf plainStart ++ body)] } }

def soleSession : Session :=
  { Session.starting newClient.client.options ⟨.single, []⟩ with
    engine? := some 0, state := .running }

def markedRename : List Value :=
  [.text markedText, .text "a&b.py", .int (-1)]

theorem answeredWith_sentTo (body : List UInt8) :
    AnsweredWith
      ⟨soleSession.url, (sentTo body).client.options.timeout, Command.rename.name, markedRename⟩
      (sentTo body).surroundings.peers body := by
  have htarget : (target ⟨soleSession.url, newClient.client.options.timeout,
      Command.rename.name, markedRename⟩).isOk = true := by
    decide +kernel
  cases ht : target ⟨soleSession.url, newClient.client.options.timeout, Command.rename.name,
      markedRename⟩ with
  | ok t => exact ⟨t, _, ht, .first rfl, delivers_plain body⟩
  | error f =>
      rw [ht] at htarget
      cases htarget

theorem markedRename_lossless :
    firstSession.client.session? = some soleSession ∧ Command.rename.Accepts markedRename ∧
      decodeCall (Text.Utf8.encode (requestText Command.rename.name markedRename)) =
          .ok (some Command.rename.name, markedRename) ∧
        (exists w,
          call soleSession Command.rename.name markedRename
            (sentTo (Text.Utf8.encode (answerText markedValue))) = .ok markedValue w) ∧
          exists w,
            call soleSession Command.rename.name markedRename
                (sentTo (Text.Utf8.encode (faultText (.int (-3)) (.text markedText)))) =
              .error (.chained (.remoteFault markedText (some Command.rename.name) (.int (-3)))
                (.answer (.fault (.int (-3)) (.text markedText)))) w := by
  have haccepts : Command.rename.Accepts markedRename := (Command.check_eq_ok_iff _ _).mp rfl
  have hints : forall i, .int i ∈ markedRename -> isCarried i = true := by
    intro i hi
    simp only [markedRename, List.mem_cons, List.not_mem_nil, or_false, reduceCtorEq, false_or,
      Value.int.injEq] at hi
    rw [hi]
    decide
  have htexts : forall t, .text t ∈ markedRename -> forall ch, ch ∈ t.toList -> IsKept ch := by
    intro t ht
    simp only [markedRename, List.mem_cons, List.not_mem_nil, or_false, reduceCtorEq,
      Value.text.injEq] at ht
    rcases ht with rfl | rfl
    · exact isKept_markedText
    · exact isKept_of_all (by decide)
  have hanswer := call_lossless (w := sentTo (Text.Utf8.encode (answerText markedValue))) rfl
    soleSession
  have hfault := call_lossless
    (w := sentTo (Text.Utf8.encode (faultText (.int (-3)) (.text markedText)))) rfl soleSession
  refine ⟨rfl, haccepts, (hanswer.1 _ _ haccepts hints htexts).1, ?_, ?_⟩
  · exact hanswer.2.1 _ _ _ carried_markedValue (answeredWith_sentTo _)
  · exact hfault.2.2 _ _ _ _ (by decide) isKept_markedText (answeredWith_sentTo _)

end Transport
end EngineClient
