import EngineClient.Gzip.Inflate

/-!
# Reading compressed files

A compressed file is a row of members, each with a head in front of its data and a checksum and a
length behind it; zeros may stand between members. A reader expands the data piece by piece as
its buffer asks for it, and it gives its octets away in blocks. When something is wrong with a
piece, the octets of that piece and of the open block are lost.
-/

namespace EngineClient
namespace Gzip

inductive Trouble where
  /-- A member that does not start as members do, with what it starts with. -/
  | noMember (start : List UInt8)
  | method
  | checksum (given found : Nat)
  | length
  /-- The file breaks off. -/
  | cut
  | corrupt (flaw : Flaw)
  deriving DecidableEq, Repr

/-! ## Checksums -/

def checksumBit (c : UInt32) : UInt32 :=
  if c &&& 1 = 1 then (c >>> 1) ^^^ 0xedb88320 else c >>> 1

def checksumOctet (c : UInt32) (b : UInt8) : UInt32 :=
  (List.range 8).foldl (fun c _ => checksumBit c) (c ^^^ b.toUInt32)

def checksum (bs : List UInt8) : Nat :=
  (bs.foldl checksumOctet 0xffffffff ^^^ 0xffffffff).toNat

/-! ## Heads and tails of members -/

def skipOctets (count : Nat) (bs : List UInt8) : Except Trouble (List UInt8) :=
  if bs.length < count then .error .cut else .ok (bs.drop count)

def littleEndian (bs : List UInt8) : Nat :=
  bs.foldr (fun b n => b.toNat + 256 * n) 0

def skipText (bs : List UInt8) : List UInt8 :=
  (bs.dropWhile (· != 0)).tail

def memberStart : List UInt8 := [0x1f, 0x8b]

def readHead (bs : List UInt8) : Except Trouble (Option (List UInt8)) := do
  if bs.isEmpty then return none
  if bs.take 2 ≠ memberStart then throw (.noMember (bs.take 2))
  let data ← skipOctets 10 bs
  if bs[2]? ≠ some 8 then throw .method
  let flags := (bs[3]?.getD 0).toNat
  let data ←
    if flags.testBit 2 then do
      let rest ← skipOctets 2 data
      skipOctets (littleEndian (data.take 2)) rest
    else pure data
  let data := if flags.testBit 3 then skipText data else data
  let data := if flags.testBit 4 then skipText data else data
  let data ← if flags.testBit 1 then skipOctets 2 data else pure data
  return some data

def readTail (given : List UInt8) (bs : List UInt8) : Except Trouble (List UInt8) := do
  let rest ← skipOctets 8 bs
  let sum := littleEndian (bs.take 4)
  if sum ≠ checksum given then throw (.checksum sum (checksum given))
  if littleEndian ((bs.drop 4).take 4) ≠ given.length % Nat.pow 2 32 then throw .length
  return rest.dropWhile (· = 0)

/-! ## Pieces -/

/-- How many octets of a file are expanded at a time, and how many a buffer holds. -/
def bufferSize : Nat := 8192

structure Member where
  data : List UInt8
  /-- What is still to be given of its octets, and how they end. -/
  inflated : Inflated
  /-- How many octets of the data were taken. -/
  taken : Nat := 0
  /-- What was given of its octets. -/
  given : List UInt8 := []
  deriving Repr

def Member.ofData (data : List UInt8) : Member :=
  { data, inflated := inflate data }

inductive Place where
  | between (rest : List UInt8)
  | within (m : Member)
  /-- Behind the data of a member. -/
  | behind (m : Member)
  deriving Repr

/-- Expands the next octets of a member: as many as there is room for and as the octets that
are taken for it come to. -/
def Member.expand (m : Member) (room : Nat) : Except Trouble (List UInt8 × Place) :=
  let reach := min (m.taken + bufferSize) m.data.length
  let now := (m.inflated.pieces.take room).takeWhile (·.taken ≤ reach)
  let later := m.inflated.pieces.drop now.length
  let octets := now.map (·.octet)
  let left : Member :=
    { m with inflated := { m.inflated with pieces := later }, given := m.given ++ octets }
  match later.head?, m.inflated.ending with
  | some next, _ => .ok (octets, .within { left with taken := min next.taken reach })
  | none, .complete =>
      if m.inflated.taken ≤ reach then
        .ok (octets, .behind { left with taken := m.inflated.taken })
      else .ok (octets, .within { left with taken := reach })
  | none, .corrupt flaw =>
      if reach < m.inflated.taken then .ok (octets, .within { left with taken := reach })
      -- How far back a repetition reaches shows only where there is room for it.
      else if flaw = .tooFar ∧ now.length = room then
        .ok (octets, .within { left with taken := m.inflated.taken })
      else .error (.corrupt flaw)
  | none, .cut => .ok (octets, .within { left with taken := reach })

/-- The next octets of a file, as many as there is room for at most; none at its end. `budget`
bounds the steps up to them. -/
def readPiece (room : Nat) : (budget : Nat) → Place → Except Trouble (List UInt8 × Place)
  | 0, _ => .error .cut
  | budget + 1, .between rest =>
      match readHead rest with
      | .error e => .error e
      | .ok none => .ok ([], .between rest)
      | .ok (some data) => readPiece room budget (.within (.ofData data))
  | budget + 1, .behind m =>
      match readTail m.given (m.data.drop m.taken) with
      | .error e => .error e
      | .ok rest => readPiece room budget (.between rest)
  | budget + 1, .within m =>
      match m.expand room with
      | .error e => .error e
      | .ok ([], place) =>
          if m.taken < m.data.length then readPiece room budget place else .error .cut
      | .ok (octets, place) => .ok (octets, place)

/-! ## Files -/

structure Expanded where
  octets : List UInt8
  trouble? : Option Trouble := none
  deriving DecidableEq, Repr

/-- No octet of a file comes to more octets: eight codes of one bit, each for the longest
repetition. -/
def greatestYield : Nat := 8 * 258

/-- The octets of a file from a place on, in blocks; `waiting` octets wait in the buffer for a
block, `fresh` of them since a block was asked for. `budget` bounds the pieces. -/
def readFrom (block steps : Nat) : (budget : Nat) → (waiting fresh : Nat) → Place → List UInt8 →
    Expanded
  | 0, _, _, _, given => ⟨given, none⟩
  | budget + 1, waiting, fresh, place, given =>
      match readPiece (bufferSize - fresh) steps place with
      | .error e => ⟨given.take (given.length / block * block), some e⟩
      | .ok ([], _) => ⟨given, none⟩
      | .ok (octets, place) =>
          let full := waiting + octets.length
          if full < block then
            readFrom block steps budget full (fresh + octets.length) place (given ++ octets)
          else readFrom block steps budget (full % block) 0 place (given ++ octets)

def readFile (block : Nat) (file : List UInt8) : Expanded :=
  readFrom block (2 * file.length + 4) (greatestYield * file.length + 1) 0 0 (.between file) []

-- Four octets and a repetition of them, in a block of the fixed codes.
example : readFile 1024 [31, 139, 8, 0, 0, 0, 0, 0, 2, 3, 75, 76, 74, 78, 4, 35, 0, 24, 72, 45,
    70, 9, 0, 0, 0] = ⟨"abcabcabc".toUTF8.toList, none⟩ := by decide +kernel

end Gzip
end EngineClient
