import EngineClient.Json.Render
import EngineClient.Log.Level

/-!
# Log records

An event with its fields, its level and the name of its logger. Loggers of the client
share one name space. A record is written as one line of JSON, unless it goes to a
terminal. A request to log an event is refused if a field of it has a name that the call
uses itself.
-/

namespace EngineClient
namespace Log

def rootName : String := "ropelink"

/-- The full name of a logger; a name that starts with the name space is full already. -/
def loggerName (name : String) : String :=
  if rootName.toList.isPrefixOf name.toList then name else rootName ++ "." ++ name

structure Record where
  logger : String
  level : Level
  /-- What happened; null if the record does not say. -/
  event : Value
  fields : Table
  deriving Repr

namespace Record

def passes (r : Record) (threshold : Int) : Bool :=
  threshold ≤ r.level.number

def withEvent (event : Value) (t : Table) : Table :=
  match event with
  | .null => t
  | event => Table.set t "event" event

/-- A record as a table: its fields but for a fault that it mentions, then what every
record has. -/
def toTable (r : Record) : Table :=
  let t := Table.set (withEvent r.event r.fields) "logger" (.text r.logger)
  Table.erase (Table.set t "level" (.text r.level.name)) "exc_info"

def untimed (r : Record) : Table :=
  Table.erase r.toTable "timestamp"

/-- A record on one line, at a time; it is empty if a key of a field has no text. -/
def line (r : Record) (timestamp : String) : String :=
  ((Json.render Json.recordLine
    (.table (Table.set r.toTable "timestamp" (.text timestamp)))).toOption).getD ""

end Record

/-! ## Calls -/

structure Entry where
  logger : String
  verb : String
  event : Value
  fields : Table
  deriving Repr

namespace Entry

def callNames : List String := ["self", "event"]

/-- The call that takes what is logged with any verb, and the name that it uses itself. -/
def innerCall : String × String := ("_proxy_to_logger", "method_name")

def finishedName : String := "_record"

/-- The first field that a call cannot take, with the call that does not take it. -/
def taken? (verb : Verb) (fields : Table) : Option LogError :=
  match fields.findSome? (callName? ·.1) with
  | some name => some (.takenName verb.call name)
  | none =>
      if (Table.get? fields innerCall.2).isSome then some (.takenName innerCall.1 innerCall.2)
      else none
where
  /-- The name of the call that a key is. -/
  callName? (key : Key) : Option String :=
    callNames.find? fun name => Key.same (.text name) key

/-- Why the field that would be a finished record is none. -/
def noRecord? (fields : Table) : Option LogError :=
  match Table.get? fields finishedName with
  | none => none
  | some .null => none
  | some v => some (.noRecord v.kindName)

def recordWith (e : Entry) (verb : Verb) : Record :=
  { logger := loggerName e.logger, level := verb.level, event := e.event, fields := e.fields }

/-- The record of a request, if it passes a threshold. A field that should be a finished
record is looked at only then. -/
def record? (threshold : Int) (e : Entry) : Except LogError (Option Record) :=
  match Verb.ofName? e.verb with
  | none => .error (.unknownVerb e.verb)
  | some verb =>
      match taken? verb e.fields with
      | some trouble => .error trouble
      | none =>
          if (e.recordWith verb).passes threshold then
            match noRecord? e.fields with
            | some trouble => .error trouble
            | none => .ok (some (e.recordWith verb))
          else .ok none

theorem passes_of_record? {threshold : Int} {e : Entry} {r : Record}
    (h : e.record? threshold = .ok (some r)) : r.passes threshold = true := by
  unfold record? at h
  split at h
  · cases h
  · split at h
    · cases h
    · split at h
      · rename_i hpass
        split at h
        · cases h
        · cases h
          exact hpass
      · cases h

def records (threshold : Int) (entries : List Entry) : Except LogError (List Record) := do
  return (← entries.mapM (record? threshold)).filterMap id

end Entry

inductive Renderer where
  | json
  | console
  deriving DecidableEq, Repr

def Renderer.name : Renderer → String
  | .json => "JSONRenderer"
  | .console => "ConsoleRenderer"

/-- Records go to a terminal in its own form, unless JSON is asked for. -/
def rendererFor (jsonLogs terminal : Bool) : Renderer :=
  if jsonLogs || !terminal then .json else .console

end Log
end EngineClient
