/-!
# Blocks

A reader that gets a document block by block keeps what it could not read yet in a buffer.
It does not try again for every block: only once there is twice as much as before, or when
the buffer would have to grow.
-/

namespace EngineClient
namespace Xml

def blockSize : Nat := 1024

def keptOctets : Nat := 1024

/-- A buffer: what was read, then what was not, then free room. -/
structure Buffer where
  room : Nat := 0
  /-- How many octets of it were read. -/
  start : Nat := 0
  /-- How many octets of it are in use. -/
  used : Nat := 0
  /-- How many octets there were when nothing could be read the last time. -/
  before : Nat := 0
  deriving Repr

namespace Buffer

/-- A size doubled until it is enough; `budget` bounds the number of doublings. -/
def grow (needed : Nat) : (budget : Nat) → Nat → Nat
  | 0, n => n
  | budget + 1, n => if needed ≤ n then n else grow needed budget (2 * n)

def makeRoom (b : Buffer) (n : Nat) : Buffer :=
  let kept := min b.start keptOctets
  let needed := n + (b.used - b.start) + kept
  if n ≤ b.room - b.used then b
  else
    { b with
      room :=
        if needed ≤ b.room then b.room
        else grow needed needed (2 * if b.room = 0 then blockSize else b.room)
      start := kept
      used := b.used - b.start + kept }

def fill (b : Buffer) (n : Nat) : Buffer :=
  let b := b.makeRoom n
  { b with used := b.used + n }

/-- Whether to try again: there is twice as much as before, or no room for a block more,
even in place of what was read. -/
def isEnough (b : Buffer) (n : Nat) : Bool :=
  2 * b.before ≤ b.used - b.start || b.room - b.used + (b.start - keptOctets) < n

def drain (b : Buffer) (n : Nat) : Buffer :=
  { b with start := b.start + n, before := if n = 0 then b.used - b.start else 0 }

end Buffer
end Xml
end EngineClient
