import EngineClient.Toml.Moment
import EngineClient.Toml.Nest
import EngineClient.Toml.Number
import EngineClient.Toml.Quoted

/-!
# Keys and values of settings files

A key is one name or several with dots between them. A value is a text, a flag, a
number, a moment, an array or a table on one line.
-/

namespace EngineClient
namespace Toml

/-! ## Keys -/

def readName (cs : List Char) : Reading (String × List Char) :=
  match cs with
  | c :: _ =>
      if isBareKeyChar c then
        .ok (String.ofList (cs.takeWhile isBareKeyChar), cs.dropWhile isBareKeyChar)
      else readLineText cs
  | [] => .error .malformed

def readKey : (budget : Nat) → List Char → Reading (Key × List Char)
  | 0, _ => .error .malformed
  | budget + 1, cs => do
      let (name, cs) ← readName cs
      match skipSpace cs with
      | '.' :: cs =>
          let (names, cs) ← readKey budget (skipSpace cs)
          return (name :: names, cs)
      | cs => return ([name], cs)

def afterEquals : List Char → Reading (List Char)
  | '=' :: cs => .ok (skipSpace cs)
  | _ => .error .malformed

/-! ## Values -/

def readScalar (cs : List Char) : Reading (Value × List Char) :=
  match cs with
  | '"' :: _ => (readText cs).map fun (s, cs) => (.text s, cs)
  | '\'' :: _ => (readText cs).map fun (s, cs) => (.text s, cs)
  | cs =>
      match afterWord? "true".toList cs, afterWord? "false".toList cs with
      | some cs, _ => .ok (.bool true, cs)
      | _, some cs => .ok (.bool false, cs)
      | none, none =>
          match readMoment? cs with
          | some r => r
          | none => (readNumber? cs).getD (.error .malformed)

def extendInline (t : Table) (m : Marks) (k : Key) (v : Value) : Reading (Table × Marks) :=
  match k.getLast? with
  | none => .error .malformed
  | some name =>
      if m.isFrozen k then .error .malformed
      else
        (updateNest false (addEntry name v) k.dropLast t).map fun t =>
          (t, if isClosed v then m.freeze k else m)

/-- How many calls a value may take that are one inside the other: two for an array and
three for a table on one line. -/
def maxRoom : Nat := 980

/-- The room that is left inside a value, if it has the calls for it. -/
def enter (calls room : Nat) : Reading Nat :=
  if calls ≤ room then .ok (room - calls) else .error .tooDeep

mutual

/-- A value; the budget bounds the steps, the room the calls inside one another. -/
def readValue : (budget room : Nat) → List Char → Reading (Value × List Char)
  | 0, _, _ => .error .malformed
  | budget + 1, room, cs =>
      match cs with
      | '[' :: cs => do
          let room ← enter 2 room
          match ← skipBetweenItems cs.length cs with
          | ']' :: cs => return (.list [], cs)
          | cs =>
              let (items, cs) ← readItems budget room cs
              return (.list items, cs)
      | '\x7b' :: cs => do
          let room ← enter 3 room
          match skipSpace cs with
          | '\x7d' :: cs => return (.table [], cs)
          | cs =>
              let (t, cs) ← readInline budget room [] {} cs
              return (.table t, cs)
      | cs => readScalar cs

/-- The items of an array up to its closing bracket, which a comma may precede. -/
def readItems : (budget room : Nat) → List Char → Reading (List Value × List Char)
  | 0, _, _ => .error .malformed
  | budget + 1, room, cs => do
      let (v, cs) ← readValue budget room cs
      match ← skipBetweenItems cs.length cs with
      | ']' :: cs => return ([v], cs)
      | ',' :: cs =>
          match ← skipBetweenItems cs.length cs with
          | ']' :: cs => return ([v], cs)
          | cs =>
              let (vs, cs) ← readItems budget room cs
              return (v :: vs, cs)
      | _ => .error .malformed

def readInline :
    (budget room : Nat) → Table → Marks → List Char → Reading (Table × List Char)
  | 0, _, _, _, _ => .error .malformed
  | budget + 1, room, t, m, cs => do
      let (k, cs) ← readKey (cs.length + 1) cs
      let (v, cs) ← readValue budget room (← afterEquals cs)
      let (t, m) ← extendInline t m k v
      match skipSpace cs with
      | '\x7d' :: cs => return (t, cs)
      | ',' :: cs => readInline budget room t m (skipSpace cs)
      | _ => .error .malformed

end

def readPair (cs : List Char) : Reading (Key × Value × List Char) := do
  let (k, cs) ← readKey (cs.length + 1) cs
  let cs ← afterEquals cs
  let (v, cs) ← readValue (cs.length + 1) maxRoom cs
  return (k, v, cs)

end Toml
end EngineClient
