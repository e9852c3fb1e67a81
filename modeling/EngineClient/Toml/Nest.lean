import EngineClient.Toml.Lexical
import EngineClient.Value.Basic

/-!
# Nested tables

A key with dots leads through nested tables; a list of tables on the way stands for
its last table. Marks remember which tables a file has declared and which values it
may no longer extend.
-/

namespace EngineClient
namespace Toml

abbrev Key := List String

/-! ## Tables -/

/-- Changes the table that a key leads to, making the tables that are missing on the
way. -/
def updateNest (throughLists : Bool) (f : Table → Reading Table) :
    Key → Table → Reading Table
  | [], t => f t
  | k :: ks, t =>
      match t.get? k with
      | none => (updateNest throughLists f ks []).map fun inner => t.set k (.table inner)
      | some (.table inner) =>
          (updateNest throughLists f ks inner).map fun inner => t.set k (.table inner)
      | some (.list items) =>
          match throughLists, items.getLast? with
          | true, some (.table inner) =>
              (updateNest throughLists f ks inner).map fun inner =>
                t.set k (.list (items.dropLast ++ [.table inner]))
          | _, _ => .error .malformed
      | some _ => .error .malformed

def addEntry (name : String) (v : Value) (t : Table) : Reading Table :=
  if (t.get? name).isSome then .error .malformed else .ok (t.set name v)

def addToList (name : String) (t : Table) : Reading Table :=
  match t.get? name with
  | none => .ok (t.set name (.list [.table []]))
  | some (.list items) => .ok (t.set name (.list (items ++ [.table []])))
  | some _ => .error .malformed

/-! ## Marks -/

structure Marks where
  /-- Tables that a header may not declare again. -/
  declared : List Key := []
  /-- Values that nothing may be added to. -/
  frozen : List Key := []
  /-- Tables that count as declared from the next header on. -/
  pending : List Key := []
  deriving DecidableEq, Repr

namespace Marks

def isDeclared (m : Marks) (k : Key) : Bool :=
  m.declared.contains k

/-- Whether a key lies at or below a frozen value. -/
def isFrozen (m : Marks) (k : Key) : Bool :=
  m.frozen.any fun f => f.isPrefixOf k

def declare (m : Marks) (k : Key) : Marks :=
  { m with declared := k :: m.declared }

def freeze (m : Marks) (k : Key) : Marks :=
  { m with frozen := k :: m.frozen }

def postpone (m : Marks) (k : Key) : Marks :=
  { m with pending := k :: m.pending }

def settle (m : Marks) : Marks :=
  { m with declared := m.pending ++ m.declared, pending := [] }

def release (m : Marks) (k : Key) : Marks :=
  { m with
    declared := m.declared.filter fun d => !k.isPrefixOf d
    frozen := m.frozen.filter fun f => !k.isPrefixOf f }

end Marks

/-- Whether a value is closed once it was written: no key may lead into it. -/
def isClosed : Value → Bool
  | .list _ => true
  | .table _ => true
  | _ => false

end Toml
end EngineClient
