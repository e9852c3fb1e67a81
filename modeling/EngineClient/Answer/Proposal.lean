import EngineClient.Answer.Problem
import EngineClient.Fault

/-!
# Proposals

What an engine proposes for the text before a position: a name, and what else the
engine knows about it.
-/

namespace EngineClient

structure Proposal where
  name : String
  documentation? : Option String
  scope? : Option String
  type? : Option String
  deriving DecidableEq, Repr

namespace Proposal

def readName (entries : Table) : Except Problem String :=
  match entries.get? "name" with
  | some v => readTextField "name" v
  | none => .error (.inField "name" .missing (.table entries))

def ofTable (entries : Table) : Except (List Problem) Proposal :=
  let documentation := readOptionalField entries "documentation"
  let scope := readOptionalField entries "scope"
  let type := readOptionalField entries "type"
  match readName entries, documentation, scope, type with
  | .ok name, .ok documentation, .ok scope, .ok type =>
      .ok ⟨name, documentation, scope, type⟩
  | name, documentation, scope, type =>
      .error (problemOf name ++ problemOf documentation ++ problemOf scope ++ problemOf type)

def ofValue : Value → Except (List Problem) Proposal
  | .table entries => ofTable entries
  | v => .error [.ofWhole (.notTable "CodeAssistProposal") v]

/-- The proposal that a value describes, its problems reported in one text. -/
def read (v : Value) : Except Fault Proposal :=
  (ofValue v).mapError fun ps => .invalid (problemReport "CodeAssistProposal" ps)

def toValue (p : Proposal) : Value :=
  .table [("name", .text p.name), ("documentation", .ofText? p.documentation?),
    ("scope", .ofText? p.scope?), ("type", .ofText? p.type?)]

end Proposal
end EngineClient
