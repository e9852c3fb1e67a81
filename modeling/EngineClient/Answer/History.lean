import EngineClient.Value.Basic

/-!
# History entries

The engine keeps a stack of changes to undo and one of changes to redo. An entry is a
position in one of them, with the marks that tell whether it still holds: the epoch of
its session and the generation within it.
-/

namespace EngineClient

inductive HistoryStack where
  | undo
  | redo
  deriving DecidableEq, Repr

def HistoryStack.name : HistoryStack → String
  | .undo => "undo"
  | .redo => "redo"

structure HistoryEntry where
  index : Nat
  description : Value
  stack : HistoryStack
  epoch : Nat
  generation : Nat
  deriving Repr

namespace HistoryEntry

def ofStack (stack : HistoryStack) (epoch generation : Nat) (descriptions : List Value) :
    List HistoryEntry :=
  descriptions.mapIdx fun index description =>
    { index, description, stack, epoch, generation }

def toValue (e : HistoryEntry) : Value :=
  .table [("index", .int e.index), ("description", e.description)]

end HistoryEntry
end EngineClient
