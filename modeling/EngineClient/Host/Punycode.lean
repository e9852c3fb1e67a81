/-!
# Punycode

A text in ASCII that stands for any text: its ASCII characters, then numbers that tell
which other characters there are and where. A number is written with digits of the base
36, the least first; where it ends is told by thresholds that adapt to the numbers before
it. Main statement: a threshold is never zero, so every number comes to an end.
-/

namespace EngineClient
namespace Host
namespace Punycode

/-- A digit of the base 36: a letter, then a figure. -/
def digit (n : Nat) : Char :=
  if n < 26 then Char.ofNat ('a'.toNat + n) else Char.ofNat ('0'.toNat + (n - 26))

/-- The digit below which the place ends a number; places count by the base. -/
def threshold (place bias : Nat) : Nat :=
  if place ≤ bias then 1 else min 26 (place - bias)

theorem threshold_pos (place bias : Nat) : 0 < threshold place bias := by
  simp only [threshold]
  split <;> omega

def number (bias place n : Nat) : List Char :=
  let t := threshold place bias
  if n < t then [digit n]
  else digit (t + (n - t) % (36 - t)) :: number bias (place + 36) ((n - t) / (36 - t))
termination_by n
decreasing_by
  have := threshold_pos place bias
  have := Nat.div_le_self (n - threshold place bias) (36 - threshold place bias)
  omega

def biasOf (size places : Nat) : Nat :=
  if 455 < size then biasOf (size / 35) (places + 36) else places + 36 * size / (size + 38)
termination_by size
decreasing_by omega

/-- The bias behind a number, when `count` characters are told. -/
def adapt (n count : Nat) (isFirst : Bool) : Nat :=
  let n := if isFirst then n / 700 else n / 2
  biasOf (n + n / count) 0

/-- A text that is being written: the numbers so far, the last one first, how far the next
one counts, how many characters were told, and how the next number is written. -/
structure State where
  written : List (List Char) := []
  distance : Nat := 0
  told : Nat
  bias : Nat := 72
  isFirst : Bool := true
  deriving Repr

/-- Passes a character while those of code `n` are told. -/
def State.pass (s : State) (n : Nat) (c : Char) : State :=
  if c.toNat < n then { s with distance := s.distance + 1 }
  else if c.toNat = n then
    { written := number s.bias 36 s.distance :: s.written
      distance := 0
      told := s.told + 1
      bias := adapt s.distance (s.told + 1) s.isFirst
      isFirst := false }
  else s

/-- Tells the characters of some codes, in ascending order, from the code `next` on. -/
def State.tell (cs : List Char) (s : State) (next : Nat) : List Nat → State
  | [] => s
  | n :: ns =>
      let start := { s with distance := s.distance + (n - next) * (s.told + 1) }
      let s := cs.foldl (fun s c => s.pass n c) start
      tell cs { s with distance := s.distance + 1 } (n + 1) ns

/-- The codes of the characters outside ASCII, in ascending order. -/
def codes (cs : List Char) : List Nat :=
  (((cs.map Char.toNat).filter (128 ≤ ·)).mergeSort fun a b => a ≤ b).eraseDups

def encode (cs : List Char) : List Char :=
  let plain := cs.filter (·.toNat < 128)
  let s := State.tell cs { told := plain.length } 128 (codes cs)
  (if plain.isEmpty then [] else plain ++ ['-']) ++ s.written.reverse.flatten

end Punycode
end Host
end EngineClient
