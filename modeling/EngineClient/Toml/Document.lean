import EngineClient.Toml.Value

/-!
# Settings files

A file is a sequence of lines: entries, headers that open a table, headers that open
the next table of a list, comments. A table is declared once, and a value is written
once.
-/

namespace EngineClient
namespace Toml

/-- What has been read of a file: its tables, their marks, and the open header. -/
structure Document where
  root : Table := []
  marks : Marks := {}
  header : Key := []
  deriving Repr

namespace Document

def beginnings : Key → List Key
  | [] => []
  | [_] => []
  | k :: ks => [k] :: (beginnings ks).map (k :: ·)

/-- Marks the tables that a dotted key leads through, none of which a header may have
declared. -/
def passThrough (m : Marks) : List Key → Reading Marks
  | [] => .ok m
  | k :: ks => if m.isDeclared k then .error .malformed else passThrough (m.postpone k) ks

def addPair (d : Document) (k : Key) (v : Value) : Reading Document :=
  match k.getLast? with
  | none => .error .malformed
  | some name => do
      let parent := d.header ++ k.dropLast
      let marks ← passThrough d.marks ((beginnings k).map (d.header ++ ·))
      if marks.isFrozen parent then .error .malformed
      let root ← updateNest true (addEntry name v) parent d.root
      let marks := if isClosed v then marks.freeze (d.header ++ k) else marks
      return { d with root, marks }

def openTable (d : Document) (k : Key) : Reading Document :=
  if d.marks.isDeclared k || d.marks.isFrozen k then .error .malformed
  else
    (updateNest true .ok k d.root).map fun root =>
      { root, marks := d.marks.declare k, header := k }

def openListTable (d : Document) (k : Key) : Reading Document :=
  match k.getLast? with
  | none => .error .malformed
  | some name =>
      if d.marks.isFrozen k then .error .malformed
      else
        (updateNest true (addToList name) k.dropLast d.root).map fun root =>
          { root, marks := (d.marks.release k).declare k, header := k }

def readHeader (d : Document) (cs : List Char) : Reading (Document × List Char) :=
  let d := { d with marks := d.marks.settle }
  match cs with
  | '[' :: '[' :: cs => do
      let cs := skipSpace cs
      let (k, cs) ← readKey (cs.length + 1) cs
      let d ← d.openListTable k
      match cs with
      | ']' :: ']' :: cs => return (d, cs)
      | _ => .error .malformed
  | '[' :: cs => do
      let cs := skipSpace cs
      let (k, cs) ← readKey (cs.length + 1) cs
      let d ← d.openTable k
      match cs with
      | ']' :: cs => return (d, cs)
      | _ => .error .malformed
  | _ => .error .malformed

def readStatement (d : Document) (cs : List Char) : Reading (Document × List Char) :=
  match cs with
  | [] => .ok (d, [])
  | '[' :: _ => d.readHeader cs
  | c :: _ =>
      if isKeyStart c then do
        let (k, v, cs) ← readPair cs
        return (← d.addPair k v, cs)
      else if c = '#' ∨ c = '\n' then .ok (d, cs)
      else .error .malformed

def readLines : (budget : Nat) → Document → List Char → Reading Document
  | 0, _, _ => .error .malformed
  | budget + 1, d, cs => do
      let (d, cs) ← d.readStatement (skipSpace cs)
      match ← skipComment (skipSpace cs) with
      | [] => return d
      | '\n' :: cs => readLines budget d cs
      | _ => .error .malformed

end Document

def read (cs : List Char) : Reading Table :=
  (Document.readLines (cs.length + 1) {} cs).map (·.root)

end Toml
end EngineClient
