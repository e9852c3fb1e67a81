import EngineClient.Gzip.Code

/-!
# Expanding compressed data

Compressed data is a row of blocks. A block holds octets as they are, or codes for octets and for
repetitions of what came before, under codes that are fixed or that the block itself describes.
-/

namespace EngineClient
namespace Gzip

/-! ## Repetitions -/

/-- The least length that a symbol stands for, and how many bits say how much is added. -/
def lengthTable : List (Nat × Nat) :=
  [(3, 0), (4, 0), (5, 0), (6, 0), (7, 0), (8, 0), (9, 0), (10, 0), (11, 1), (13, 1), (15, 1),
    (17, 1), (19, 2), (23, 2), (27, 2), (31, 2), (35, 3), (43, 3), (51, 3), (59, 3), (67, 4),
    (83, 4), (99, 4), (115, 4), (131, 5), (163, 5), (195, 5), (227, 5), (258, 0)]

def distanceTable : List (Nat × Nat) :=
  [(1, 0), (2, 0), (3, 0), (4, 0), (5, 1), (7, 1), (9, 2), (13, 2), (17, 3), (25, 3), (33, 4),
    (49, 4), (65, 5), (97, 5), (129, 6), (193, 6), (257, 7), (385, 7), (513, 8), (769, 8),
    (1025, 9), (1537, 9), (2049, 10), (3073, 10), (4097, 11), (6145, 11), (8193, 12),
    (12289, 12), (16385, 13), (24577, 13)]

/-- The symbol that ends a block; the symbols before it are octets. -/
def endSymbol : Nat := 256

def measured (base? : Option (Nat × Nat)) (flaw : Flaw) : Inflate Nat :=
  match base? with
  | none => throw (.corrupt flaw)
  | some (least, size) => return least + (← number size)

def repeatBack (distance : Nat) : (count : Nat) → Inflate Unit
  | 0 => return ()
  | count + 1 => do
      let pieces := (← get).pieces
      if pieces.size < distance then throw (.corrupt .tooFar)
      emit ((pieces[pieces.size - distance]?.map (·.octet)).getD 0)
      repeatBack distance count

/-! ## Blocks -/

/-- The octets of a block up to the end of it; `budget` bounds the symbols. -/
def inflateSymbols (literals distances : Code) : (budget : Nat) → Inflate Unit
  | 0 => throw .cut
  | budget + 1 => do
      match ← literals.symbol? with
      | none => throw (.corrupt .literal)
      | some symbol =>
          if symbol < endSymbol then
            emit (UInt8.ofNat symbol)
            inflateSymbols literals distances budget
          else if symbol = endSymbol then return ()
          else
            let count ← measured lengthTable[symbol - endSymbol - 1]? .literal
            let distance ← measured ((← distances.symbol?).bind (distanceTable[·]?)) .distance
            repeatBack distance count
            inflateSymbols literals distances budget

def copyOctets : (count : Nat) → Inflate Unit
  | 0 => return ()
  | count + 1 => do
      emit (← takeOctet)
      copyOctets count

def inflatePlain : Inflate Unit := do
  alignOctet
  let count ← number 16
  let complement ← number 16
  if count + complement ≠ 0xffff then throw (.corrupt .plainLength)
  copyOctets count

def fixedLiterals : List Nat :=
  List.replicate 144 8 ++ List.replicate 112 9 ++ List.replicate 24 7 ++ List.replicate 8 8

def fixedDistances : List Nat := List.replicate 32 5

def inflateFixed (budget : Nat) : Inflate Unit :=
  inflateSymbols ((codeOf? true fixedLiterals).getD []) ((codeOf? true fixedDistances).getD [])
    budget

/-! ### Blocks with codes of their own -/

def lengthOrder : List Nat :=
  [16, 17, 18, 0, 8, 7, 9, 6, 10, 5, 11, 4, 12, 3, 13, 2, 14, 1, 15]

def numbers (size : Nat) : (count : Nat) → Inflate (List Nat)
  | 0 => return []
  | count + 1 => do
      let n ← number size
      return n :: (← numbers size count)

/-- The code of lengths. Without any code in it, every bit is a length of zero. -/
def lengthCode : (count : Nat) → Inflate Code := fun count => do
  let given := lengthOrder.zip (← numbers 3 count)
  let sizes := (List.range lengthOrder.length).map fun n => (given.lookup n).getD 0
  if sizes.all (· = 0) then return [[0, 0]]
  match codeOf? false sizes with
  | none => throw (.corrupt .lengthCodes)
  | some code => return code

/-- The lengths of codes, as many as given, the newest first; a symbol may repeat a length. -/
def codeSizes (code : Code) (count : Nat) : (budget : Nat) → List Nat → Inflate (List Nat)
  | 0, _ => throw .cut
  | budget + 1, sizes => do
      if count ≤ sizes.length then return sizes
      let symbol := (← code.symbol?).getD 0
      if symbol < 16 then codeSizes code count budget (symbol :: sizes)
      else
        let bits := if symbol = 16 then 2 else if symbol = 17 then 3 else 7
        let least := if symbol = 18 then 11 else 3
        let times := least + (← number bits)
        match symbol, sizes with
        | 16, [] => throw (.corrupt .repetition)
        | 16, size :: _ =>
            if count < sizes.length + times then throw (.corrupt .repetition)
            codeSizes code count budget (List.replicate times size ++ sizes)
        | _, _ =>
            if count < sizes.length + times then throw (.corrupt .repetition)
            codeSizes code count budget (List.replicate times 0 ++ sizes)

def inflateDynamic (budget : Nat) : Inflate Unit := do
  let literalCount := 257 + (← number 5)
  let distanceCount := 1 + (← number 5)
  let lengthCount := 4 + (← number 4)
  if 286 < literalCount ∨ 30 < distanceCount then throw (.corrupt .tooManySymbols)
  let code ← lengthCode lengthCount
  let count := literalCount + distanceCount
  let sizes := (← codeSizes code count (count + 1) []).reverse
  if sizes[endSymbol]?.getD 0 = 0 then throw (.corrupt .noEnd)
  match codeOf? true (sizes.take literalCount), codeOf? true (sizes.drop literalCount) with
  | none, _ => throw (.corrupt .literalCodes)
  | some _, none => throw (.corrupt .distanceCodes)
  | some literals, some distances => inflateSymbols literals distances budget

/-- Blocks up to the last one; `budget` bounds them and the symbols in them. -/
def inflateBlocks : (budget : Nat) → Inflate Unit
  | 0 => throw .cut
  | budget + 1 => do
      let last ← nextBit
      match ← number 2 with
      | 0 => inflatePlain
      | 1 => inflateFixed budget
      | 2 => inflateDynamic budget
      | _ => throw (.corrupt .blockKind)
      if last then return () else inflateBlocks budget

/-! ## Whole data -/

/-- What data comes to: its octets, how it ends, and how many octets were taken up to there. -/
structure Inflated where
  pieces : List Piece
  ending : Ending
  taken : Nat
  deriving Repr

/-- Expands data; every block and every symbol takes a bit of it. -/
def inflate (data : List UInt8) : Inflated :=
  match inflateBlocks (8 * data.length + 1) { rest := data } with
  | .ok _ s => ⟨s.pieces.toList, .complete, s.taken⟩
  | .error ending s => ⟨s.pieces.toList, ending, s.taken⟩

end Gzip
end EngineClient
