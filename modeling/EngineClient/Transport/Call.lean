import EngineClient.Reconcile
import EngineClient.Session.Lifecycle
import EngineClient.Transport.Exchange

/-!
# Calls

One request and its answer, over the transport of the world. When an engine answers, its
effects come first, one after the other, then the result. An effect that fails takes the
place of the result.
-/

namespace EngineClient
namespace Transport

/-! ## Replies -/

def perform : Effect → Act Unit
  | .change c => do
      let d ← Act.ofExcept ((← Act.disk).change c)
      modify fun w => { w with disk := d }
  | .exit code => Act.exitNewest code
  | .close => Session.close
  | .open directory => do
      let _ ← Session.openOn directory
  | .setState s => do
      match (← Act.client).current? with
      | some n => Act.mapSession n fun session => { session with state := s }
      | none => pure ()
  | .edit path text => Editor.edit path text

def performAll : List Effect → Act Unit
  | [] => pure ()
  | e :: es => do
      perform e
      performAll es

def nextReply (method : String) :
    List (String × List Reply) → Reply × List (String × List Reply)
  | [] => ({}, [])
  | (name, replies) :: rest =>
      if name = method then
        match nextRepeating replies with
        | some (reply, replies) => (reply, (name, replies) :: rest)
        | none => ({}, (name, replies) :: rest)
      else
        let (reply, rest) := nextReply method rest
        (reply, (name, replies) :: rest)

def answer (method : String) : Act Value := do
  let w ← get
  let (reply, replies) := nextReply method w.surroundings.replies
  set { w with surroundings := { w.surroundings with replies } }
  performAll reply.effects
  Act.ofExcept reply.result

/-! ## Requests -/

def call (s : Session) (method : String) (args : List Value) : Act Value := do
  Act.noteRequest method args
  let w ← get
  let r : Request := { url := s.url, timeout := w.client.options.timeout, method, args }
  match w.surroundings.transport with
  | .direct =>
      Act.note (.direct method args)
      answer method
  | .proxied =>
      Act.note (.proxied method args r.url r.timeout)
      classified r (answer method)
  | .wire => classified r (exchange r)

end Transport
end EngineClient
