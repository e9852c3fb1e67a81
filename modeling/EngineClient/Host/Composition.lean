import EngineClient.Host.Composition.Table
import EngineClient.Host.Folding

/-!
# Composition

Letters and the marks behind them in their one spelling: marks stand in the order of their
classes, and a letter is put together with each of its marks that it makes a character with.
A mark is blocked by one of its own class before it.
-/

namespace EngineClient
namespace Host

/-! ## Marks -/

def markClassRows : List (List Nat) := Text.rows markClasses

def markPairRows : List (List Nat × List Nat) := Text.equations markPairs

/-- The class of a mark; what is no mark has class zero. -/
def markClass (c : Char) : Nat :=
  let n := c.toNat
  (markClassRows.findSome? fun r =>
    match r with
    | [first, last, k] => if first ≤ n ∧ n ≤ last then some k else none
    | _ => none).getD 0

def orderMarks (cs : List Char) : List Char :=
  (cs.splitBy fun a b => markClass a != 0 && markClass b != 0).flatMap fun run =>
    run.mergeSort fun a b => markClass a ≤ markClass b

/-! ## Pairs -/

/-- The second of two numbers whose first is `n`. -/
def paired? (n : Nat) : List Nat → Option Nat
  | a :: b :: rest => if a = n then some b else paired? n rest
  | _ => none

def syllable? (a b : Nat) : Option Nat :=
  if firstLead ≤ a ∧ a < firstLead + leadCount ∧ firstVowel ≤ b ∧ b < firstVowel + vowelCount then
    some (firstSyllable + ((a - firstLead) * vowelCount + (b - firstVowel)) * tailCount)
  else if firstSyllable ≤ a ∧ a < firstSyllable + syllableCount ∧
      (a - firstSyllable) % tailCount = 0 ∧ beforeTail < b ∧ b < beforeTail + tailCount then
    some (a + (b - beforeTail))
  else none

def pair? (a b : Char) : Option Char :=
  match syllable? a.toNat b.toNat with
  | some n => some (Char.ofNat n)
  | none =>
      ((markPairRows.find? (·.1 == [b.toNat])).bind fun e => paired? a.toNat e.2).map Char.ofNat

/-! ## Texts -/

/-- Puts `base` together with what follows it; the marks that were kept behind it come last
first, and `least` is the class of the newest of them. -/
def composeFrom (base : Char) (least : Nat) (kept : List Char) : List Char → List Char
  | [] => base :: kept.reverse
  | c :: cs =>
      let k := markClass c
      if least ≠ 0 ∧ k = 0 then base :: (kept.reverse ++ composeFrom c 0 [] cs)
      else if k < least ∨ (k = least ∧ k ≠ 0) then composeFrom base least (c :: kept) cs
      else
        match pair? base c with
        | some m => composeFrom m least kept cs
        | none =>
            if k = 0 then base :: (kept.reverse ++ composeFrom c 0 [] cs)
            else composeFrom base k (c :: kept) cs

def compose : List Char → List Char
  | [] => []
  | c :: cs => composeFrom c 0 [] cs

def folded (cs : List Char) : List Char :=
  compose (orderMarks (cs.flatMap foldChar))

end Host
end EngineClient
