/-!
# Prefix codes of compressed data

Compressed data is read bit by bit, each octet from its lowest bit on. Symbols stand in it under
codes of different lengths, which are known by these lengths alone: shorter codes come first, and
codes of one length follow each other in the order of their symbols.
-/

namespace EngineClient
namespace Gzip

/-! ## Endings -/

inductive Flaw where
  | blockKind
  /-- A block of plain octets whose length and its complement differ. -/
  | plainLength
  | tooManySymbols
  /-- The codes of the lengths of codes. -/
  | lengthCodes
  | repetition
  /-- No code ends the block. -/
  | noEnd
  | literalCodes
  | distanceCodes
  | literal
  | distance
  /-- A distance back to before the first octet. -/
  | tooFar
  deriving DecidableEq, Repr

def Flaw.message : Flaw → String
  | .blockKind => "invalid block type"
  | .plainLength => "invalid stored block lengths"
  | .tooManySymbols => "too many length or distance symbols"
  | .lengthCodes => "invalid code lengths set"
  | .repetition => "invalid bit length repeat"
  | .noEnd => "invalid code -- missing end-of-block"
  | .literalCodes => "invalid literal/lengths set"
  | .distanceCodes => "invalid distances set"
  | .literal => "invalid literal/length code"
  | .distance => "invalid distance code"
  | .tooFar => "invalid distance too far back"

inductive Ending where
  | complete
  /-- The data breaks off. -/
  | cut
  | corrupt (flaw : Flaw)
  deriving DecidableEq, Repr

/-! ## Bits -/

/-- An octet of the output, with the count of octets that were taken from the data before it
came. -/
structure Piece where
  octet : UInt8
  taken : Nat
  deriving DecidableEq, Repr

structure Inflation where
  /-- The bits that are left of the octet that was taken last. -/
  held : List Bool := []
  rest : List UInt8
  taken : Nat := 0
  pieces : Array Piece := #[]
  deriving Repr

abbrev Inflate := EStateM Ending Inflation

def octetBits (b : UInt8) : List Bool :=
  (List.range 8).map b.toNat.testBit

def takeOctet : Inflate UInt8 := do
  let s ← get
  match s.rest with
  | [] => throw .cut
  | b :: rest =>
      set { s with rest, taken := s.taken + 1 }
      return b

def nextBit : Inflate Bool := do
  match (← get).held with
  | b :: held =>
      modify fun s => { s with held }
      return b
  | [] =>
      let b ← takeOctet
      modify fun s => { s with held := (octetBits b).tail }
      return b.toNat.testBit 0

def number : (size : Nat) → Inflate Nat
  | 0 => return 0
  | size + 1 => do
      let b ← nextBit
      return b.toNat + 2 * (← number size)

def alignOctet : Inflate Unit :=
  modify fun s => { s with held := [] }

def emit (b : UInt8) : Inflate Unit :=
  modify fun s => { s with pieces := s.pieces.push ⟨b, s.taken⟩ }

/-! ## Codes -/

/-- The symbols that have a code, by the length of their codes and in order. -/
abbrev Code := List (List Nat)

def symbolsOf (sizes : List Nat) (size : Nat) : List Nat :=
  (sizes.zipIdx.filter (·.1 = size)).map (·.2)

/-- How many codes of the greatest length are left over; none if there are too many codes. -/
def unused? : (unused : Nat) → Code → Option Nat
  | unused, [] => some unused
  | unused, symbols :: code =>
      if 2 * unused < symbols.length then none else unused? (2 * unused - symbols.length) code

/-- The code whose codes have given lengths; a symbol of length zero has none. One code of one
bit may stand alone, and so may no code at all, behind which nothing is found. -/
def codeOf? (lonely : Bool) (sizes : List Nat) : Option Code :=
  let longest := sizes.foldl max 0
  let code := (List.range longest).map fun n => symbolsOf sizes (n + 1)
  if longest = 0 then some [[]]
  else
    match unused? 1 code with
    | none => none
    | some unused => if unused = 0 ∨ lonely ∧ longest = 1 then some code else none

/-- The symbol under the next code, if there is one; the codes of one length are numbered from
`first` on. -/
def Code.symbolFrom? : Code → (first code : Nat) → Inflate (Option Nat)
  | [], _, _ => return none
  | symbols :: longer, first, code => do
      let code := 2 * code + (← nextBit).toNat
      match symbols[code - first]? with
      | some symbol => return some symbol
      | none => Code.symbolFrom? longer (2 * (first + symbols.length)) code

def Code.symbol? (c : Code) : Inflate (Option Nat) :=
  c.symbolFrom? 0 0

end Gzip
end EngineClient
