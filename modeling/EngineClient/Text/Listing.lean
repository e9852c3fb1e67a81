import EngineClient.Text.Digit

/-!
# Listings

Tables of characters are kept as texts of hexadecimal numbers; this is how they are read.
-/

namespace EngineClient
namespace Text

def pieces (separator : Char) (cs : List Char) : List (List Char) :=
  cs.foldr (fun c ps =>
    if c = separator then [] :: ps
    else
      match ps with
      | p :: ps => (c :: p) :: ps
      | [] => [[c]]) [[]]

def hexNumber (cs : List Char) : Nat :=
  cs.foldl (fun n c => n * 16 + (hexValue? c).getD 0) 0

def numbers (cs : List Char) : List Nat :=
  ((pieces ' ' cs).filter (!·.isEmpty)).map hexNumber

def rows (listing : String) : List (List Nat) :=
  (pieces ';' listing.toList).map numbers

def equation (cs : List Char) : List Nat × List Nat :=
  (numbers (cs.takeWhile (· != '=')), numbers ((cs.dropWhile (· != '=')).drop 1))

def equations (listing : String) : List (List Nat × List Nat) :=
  (pieces ';' listing.toList).map equation

def inRuns (runs : List (List Nat)) (n : Nat) : Bool :=
  runs.any fun r =>
    match r with
    | first :: last :: _ => first ≤ n && n ≤ last
    | _ => false

/-! ## Mappings -/

/-- What characters stand for. A run has a first and a last character, the step from one to
the next, and what the first stands for; the others follow in the same steps. A group is a
text and the characters that stand for it. -/
structure Mapping where
  runs : List (List Nat)
  groups : List (List Nat × List Nat)
  deriving Repr

namespace Mapping

def ofListings (runs groups : String) : Mapping :=
  ⟨rows runs, equations groups⟩

def runTarget? (n : Nat) : List Nat → Option Nat
  | [first, last, step, target] =>
      if first ≤ n ∧ n ≤ last ∧ (n - first) % step = 0 then some (target + (n - first)) else none
  | _ => none

def target? (m : Mapping) (c : Char) : Option (List Char) :=
  match m.runs.findSome? (runTarget? c.toNat) with
  | some n => some [Char.ofNat n]
  | none => (m.groups.find? (·.2.contains c.toNat)).map fun e => e.1.map Char.ofNat

def apply (m : Mapping) (c : Char) : List Char :=
  (m.target? c).getD [c]

end Mapping
end Text
end EngineClient
