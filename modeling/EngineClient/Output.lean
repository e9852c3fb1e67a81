import EngineClient.Answer.History
import EngineClient.Answer.Proposal
import EngineClient.Answer.Resource
import EngineClient.Json.Render
import EngineClient.Text.Ansi

/-!
# Output

What a command's result looks like to the user: a list takes one line for each item,
a null value is reported as success, and anything else is one line of JSON.
-/

namespace EngineClient

inductive Outcome where
  | value (v : Value)
  | resources (rs : List Resource)
  | proposals (ps : List Proposal)
  | history (es : List HistoryEntry)
  deriving Repr

namespace Outcome

def renderItem (v : Value) : Except Fault String :=
  (Json.render Json.line v).mapError .unwritten

/-- The values that show a result, each on a line of its own; none for success alone. -/
def items? : Outcome → Option (List Value)
  | .value .null => none
  | .value (.list items) => some items
  | .value v => some [v]
  | .resources rs => some (rs.map Resource.toValue)
  | .proposals ps => some (ps.map Proposal.toValue)
  | .history es => some (es.map HistoryEntry.toValue)

/-- Values on lines, as far as the first that has no text: the lines, and what is wrong with
that one. -/
def renderItems : List Value → List String × Option Fault
  | [] => ([], none)
  | v :: vs =>
      match renderItem v with
      | .ok l => (l :: (renderItems vs).1, (renderItems vs).2)
      | .error f => ([], some f)

/-- The lines that show a result, as far as it can be shown, and why no further. -/
def lines (o : Outcome) : List String × Option Fault :=
  match o.items? with
  | none => (["ok"], none)
  | some vs => renderItems vs

end Outcome

/-- A text as it is written to anything but a terminal, without its line end. -/
def printed (s : String) : String :=
  String.ofList (Text.withoutControls s.toList)

def printedLine (s : String) : String :=
  printed (s ++ "\n")

end EngineClient
