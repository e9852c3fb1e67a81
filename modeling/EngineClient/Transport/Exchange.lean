import EngineClient.Transport.Outcome
import EngineClient.Wire.Message
import EngineClient.Wire.Response
import EngineClient.Wire.Target

/-!
# Exchanges

A request over a connection of its own. If the connection is lost before a response
arrives, the request is made once more over a second connection; whatever comes of that
one is the outcome.
-/

namespace EngineClient
namespace Transport

/-! ## Contacts -/

/-- One connection: whether the request was written to it, and what came of it. -/
structure Contact where
  written : Bool
  result : Except Fault Value

def contact (place : String) : Peer → Contact
  | .unreachable f => ⟨false, .error f⟩
  | .fails f => ⟨true, .error f⟩
  | .sends bs => ⟨true, Wire.decodeResponse place bs⟩

/-- Whether a fault says that the connection was lost: the peer closed or reset it, or
nothing could be written to it any more. -/
def isLoss : Fault → Bool
  | .disconnected _ => true
  | .os e => e.code? = some 104 || e.code? = some 103 || e.code? = some 32
  | _ => false

def Contact.isLost (c : Contact) : Bool :=
  match c.result with
  | .ok _ => false
  | .error f => isLoss f

/-- The next peer, and the peers that are left; without any, the connection is closed. -/
def nextPeer (peers : List Peer) : Peer × List Peer :=
  (nextRepeating peers).getD (.sends [], peers)

structure Exchange where
  first : Contact
  second? : Option Contact := none

namespace Exchange

/-- The exchange of a request with the peers at a place, and the peers that are left. -/
def ofPeers (place : String) (peers : List Peer) : Exchange × List Peer :=
  let (peer, peers) := nextPeer peers
  let first := contact place peer
  if first.isLost then
    let (peer, peers) := nextPeer peers
    (⟨first, some (contact place peer)⟩, peers)
  else (⟨first, none⟩, peers)

def contacts (e : Exchange) : List Contact :=
  e.first :: e.second?.toList

def result (e : Exchange) : Except Fault Value :=
  (e.second?.getD e.first).result

end Exchange

/-! ## Requests -/

def Contact.call (c : Contact) (r : Request) (t : Wire.Target) : Call :=
  let peer := String.ofList t.peer
  if c.written then
    .wire peer r.timeout t.requestLine (String.ofList (Wire.requestText r.method r.args))
  else .wire peer r.timeout "" ""

def noteAll (r : Request) (t : Wire.Target) : List Contact → Act Unit
  | [] => pure ()
  | c :: cs => do
      Act.note (c.call r t)
      noteAll r t cs

/-- The target of a request. A target that cannot be reached, or a request that no message
can carry, is refused. -/
def target (r : Request) : Except Fault Wire.Target := do
  let t := Wire.Target.ofUrl r.url
  (Wire.Target.checkAuthority t.authority).mapError .target
  if !Wire.itemsFit r.args then throw .integerRange
  t.check
  return t

/-- Exchanges a request with the peers at its target. What is wrong with the request shows
before any connection is made. -/
def exchange (r : Request) : Act Value := do
  let t ← Act.ofExcept (target r)
  let w ← get
  let (e, peers) := Exchange.ofPeers t.text w.surroundings.peers
  set { w with surroundings := { w.surroundings with peers } }
  noteAll r t e.contacts
  Act.ofExcept e.result

end Transport
end EngineClient
