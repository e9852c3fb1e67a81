import EngineClient.World

/-!
# Outcomes of a request

What a client makes of a fault that a request ran into: the engine's own fault, an
answer that did not come in time, or any other trouble with the wire. Each names the
command and carries the fault as its cause; faults of other kinds pass unchanged.
-/

namespace EngineClient
namespace Transport

def logger : String := "transport"

/-- A request: where it goes, how long its answer may take, and what it asks. -/
structure Request where
  url : String
  timeout : Binary64
  method : String
  args : List Value
  deriving Repr

/-- The kinds of fault that a transport tells apart. -/
inductive Outcome where
  | remoteFault (code text : Value)
  | timeout
  | trouble
  | other
  deriving Repr

/-- The kind of a fault; a time limit that passed is no other trouble. -/
def Outcome.ofFault (f : Fault) : Outcome :=
  match f with
  | .answer (.fault code text) => .remoteFault code text
  | f => if f.isTimeout then .timeout else if f.isWireTrouble then .trouble else .other

/-- A report that shows values; one of them that cannot be shown takes its place. -/
def showing (shown : List Value) (e : ClientError) (cause : Fault) : Fault :=
  match shown.findSome? Value.unshown? with
  | some why => .unshown why
  | none => .chained e cause

def report (r : Request) (f : Fault) : Fault :=
  match Outcome.ofFault f with
  | .remoteFault code text =>
      showing [text, code] (.remoteFault text.plain (some r.method) code) f
  | .timeout =>
      showing r.args (.transportTimeout
        ("no answer from " ++ r.url ++ " within " ++ r.timeout.toText ++ "s") (some r.method)
        (summarize r.args)) f
  | .trouble =>
      showing r.args (.transportFailure
        ("request to " ++ r.url ++ " failed: " ++ f.message) (some r.method)
        (summarize r.args)) f
  | .other => f

def faultRecord (r : Request) (code : Value) : Log.Record :=
  { logger := Log.loggerName logger, level := .warning, event := .text "remote_fault",
    fields := [("method", .text r.method), ("code", code)] }

def writeFault (log? : Option Log.Renderer) (r : Request) (code : Value) : Except Fault Unit :=
  match log? with
  | none => .ok ()
  | some .console =>
      match code.unshown? with
      | some why => .error (.unshown why)
      | none => .ok ()
  | some .json =>
      match Json.render Json.recordLine (.table (faultRecord r code).untimed) with
      | .ok _ => .ok ()
      | .error why => .error (.unwritten why)

def recordFault (r : Request) (f : Fault) : Act Unit :=
  match Outcome.ofFault f with
  | .remoteFault code _ => do
      let w ← get
      Act.ofExcept (writeFault w.surroundings.log? r code)
      Act.emit (.record (faultRecord r code))
  | .timeout =>
      Act.record logger .warning "transport_timeout"
        [("method", .text r.method), ("timeout", .real r.timeout)]
  | .trouble =>
      Act.record logger .warning "transport_failure"
        [("method", .text r.method), ("error", .text f.message)]
  | .other => pure ()

def classified (r : Request) (exchange : Act Value) : Act Value := do
  match ← Act.attempt exchange with
  | .ok v => return v
  | .error f =>
      recordFault r f
      throw (report r f)

end Transport
end EngineClient
