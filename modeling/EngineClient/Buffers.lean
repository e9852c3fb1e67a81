import EngineClient.Disk.Resolve

/-!
# Buffers

The files that an editor holds in memory. A buffer is known by its key, the resolved
path of its file, so every spelling of a path reaches the same buffer. A buffer with
unsaved changes is marked, and reading files again never touches it.
-/

namespace EngineClient

structure Buffers where
  /-- The text of each buffer by its key, in the order in which they were opened. -/
  texts : List (String × String) := []
  /-- The keys of the buffers with unsaved changes. -/
  modified : List String := []
  /-- The buffer that the user works in. -/
  current? : Option String := none
  deriving DecidableEq, Repr

namespace Buffers

/-! ## Keys -/

def key (d : Disk) (path : String) : Except Fault String :=
  (d.canonical (Path.ofText path)).map Path.text

def keys (b : Buffers) : List String :=
  b.texts.map (·.1)

def get? (b : Buffers) (k : String) : Option String :=
  b.texts.lookup k

def isOpen (b : Buffers) (k : String) : Bool :=
  (b.get? k).isSome

def isMarked (b : Buffers) (k : String) : Bool :=
  b.modified.contains k

/-! ## Changes by key -/

/-- Texts with the text under a key replaced; a new key comes last. -/
def setText (k text : String) : List (String × String) → List (String × String)
  | [] => [(k, text)]
  | e :: es => if e.1 = k then (k, text) :: es else e :: setText k text es

def withText (b : Buffers) (k text : String) : Buffers :=
  { b with texts := setText k text b.texts }

def unmark (b : Buffers) (k : String) : Buffers :=
  { b with modified := b.modified.filter (· != k) }

def mark (b : Buffers) (k : String) : Buffers :=
  { b with modified := k :: b.modified.filter (· != k) }

def drop (b : Buffers) (k : String) : Buffers :=
  { texts := b.texts.filter (·.1 != k)
    modified := b.modified.filter (· != k)
    current? := if b.current? = some k then none else b.current? }

def load (b : Buffers) (k text : String) : Buffers :=
  { (b.withText k text).unmark k with current? := some k }

theorem get?_setText_self (k text : String) (es : List (String × String)) :
    (setText k text es).lookup k = some text := by
  induction es with
  | nil => simp [setText]
  | cons e es ih =>
      obtain ⟨j, old⟩ := e
      by_cases h : j = k
      · simp [setText, h]
      · have hne : (k == j) = false := by simp [Ne.symm h]
        simp [setText, h, List.lookup_cons, hne, ih]

theorem get?_setText_of_ne {k other : String} (h : other ≠ k) (text : String)
    (es : List (String × String)) : (setText k text es).lookup other = es.lookup other := by
  have hother : (other == k) = false := by simp [h]
  induction es with
  | nil => simp [setText, List.lookup_cons, hother]
  | cons e es ih =>
      obtain ⟨j, old⟩ := e
      by_cases he : j = k
      · simp [setText, he, List.lookup_cons, hother]
      · simp [setText, he, List.lookup_cons, ih]

/-! ## Operations -/

def text? (d : Disk) (b : Buffers) (path : String) : Except Fault (Option String) :=
  (key d path).map b.get?

def isModified (d : Disk) (b : Buffers) (path : String) : Except Fault Bool :=
  (key d path).map b.isMarked

def openFile (d : Disk) (b : Buffers) (path : String) : Except Fault Buffers := do
  let k ← key d path
  let text ← d.readText (Path.ofText k)
  return b.load k text

def closeFile (d : Disk) (b : Buffers) (path : String) : Except Fault Buffers :=
  (key d path).map b.drop

def edit (d : Disk) (b : Buffers) (path text : String) : Except Fault Buffers := do
  let k ← key d path
  if b.isOpen k then return (b.withText k text).mark k
  else throw (.missingKey path)

/-! ## Reading again -/

structure Revert where
  buffers : Buffers
  /-- Whether the buffer now agrees with its file: it holds its text, or it is closed
  because there is no file. -/
  reverted : Bool
  /-- The key of a buffer whose file cannot be read, and why. -/
  trouble? : Option (String × Fault) := none

/-- Reads the file of a buffer again, unless the buffer is marked. A buffer without a
file is closed; a file that cannot be read leaves its buffer alone. -/
def revert (d : Disk) (b : Buffers) (path : String) : Except Fault Revert := do
  let k ← key d path
  if !b.isOpen k || b.isMarked k then return { buffers := b, reverted := false }
  else
    match d.readText (Path.ofText k) with
    | .ok text => return { buffers := b.withText k text, reverted := true }
    | .error f =>
        if f.isNotFound then return { buffers := ← closeFile d b k, reverted := true }
        else if f.isOs || f.isUndecodable then
          return { buffers := b, reverted := false, trouble? := some (k, f) }
        else throw f

end Buffers
end EngineClient
