import EngineClient.Http.Head

/-!
# Bodies of responses

Where a body ends: after the chunks it is cut into, after the length that its head gives,
or with the connection. A reader takes a body in blocks or as a whole. When a chunk breaks
off, the full blocks before it were taken, and the octets of the open block are lost.
-/

namespace EngineClient
namespace Http

/-! ## Extents -/

inductive Extent where
  | chunked
  | length (n : Nat)
  /-- The body lasts as long as the connection. -/
  | open
  deriving DecidableEq, Repr

def lengthOf? (value : String) : Option Nat :=
  match Literal.integer value.toList with
  | .ok (.ofNat n) => some n
  | _ => none

def Head.extent (h : Head) : Extent :=
  let coding := ((h.header? "transfer-encoding").getD "").toList.map Char.toLower
  if coding = "chunked".toList then .chunked
  else if h.status = 204 ∨ h.status = 304 ∨ h.status < 200 then .length 0
  else
    match (h.header? "content-length").bind lengthOf? with
    | some n => .length n
    | none => .open

/-! ## Chunks -/

inductive ChunkEnd where
  /-- With the last chunk and the lines behind it. -/
  | complete
  | refused (e : HttpError)
  /-- Within a chunk of a size, or before the size of one; with what arrived of it. -/
  | broken (size : Nat) (arrived : List Char)
  /-- With a chunk of negative size, which takes all there is and still lacks its end. -/
  | endless (rest : List Char)
  /-- With a size that no reader can ask for. -/
  | unreadable
  deriving DecidableEq, Repr

/-- Chunks as they arrived: the octets of the complete ones, and how they end. -/
structure Chunks where
  octets : List Char := []
  ending : ChunkEnd
  deriving Repr

def countLimit : Nat := 9223372036854775808

/-- The lines behind the last chunk, up to a blank one; `budget` bounds their number. -/
def readTrailer : (budget : Nat) → List Char → ChunkEnd
  | 0, _ => .complete
  | budget + 1, cs =>
      match readLine "trailer line" cs with
      | .error e => .refused e
      | .ok (line, rest) => if isBlankLine line then .complete else readTrailer budget rest

/-- The chunks of a body; `budget` bounds their number. -/
def readChunks : (budget : Nat) → List Char → Chunks
  | 0, _ => { ending := .broken 0 [] }
  | budget + 1, cs =>
      match readLine "chunk size" cs with
      | .error e => { ending := .refused e }
      | .ok (line, rest) =>
          match Literal.hexInteger? (line.takeWhile (· != ';')) with
          | none => { ending := .broken 0 [] }
          | some (.ofNat 0) => { ending := readTrailer budget rest }
          | some (.ofNat n) =>
              if rest.length < n then { ending := .broken n rest }
              else if rest.length < n + 2 then { octets := rest.take n, ending := .broken 0 [] }
              else
                let more := readChunks budget (rest.drop (n + 2))
                { more with octets := rest.take n ++ more.octets }
          | some (.negSucc n) =>
              { ending := if countLimit < n + 1 then .unreadable else .endless rest }

/-! ## Bodies -/

/-- What a reader took of a body, and what kept it from the rest. -/
structure Body where
  octets : List Char
  stop? : Option Fault := none
  deriving Repr

def blockSize : Nat := 1024

def fullBlocks (cs : List Char) : List Char :=
  cs.take (cs.length / blockSize * blockSize)

def openCount (cs : List Char) : Nat :=
  cs.length % blockSize

def brokenOff (received : Nat) : Fault :=
  .http (.incompleteRead received none)

def Chunks.inBlocks (c : Chunks) : Body :=
  match c.ending with
  | .complete => ⟨c.octets, none⟩
  | .refused e => ⟨fullBlocks c.octets, some (.http e)⟩
  | .unreadable => ⟨fullBlocks c.octets, some .countRange⟩
  | .endless rest => ⟨fullBlocks c.octets, some (brokenOff (openCount c.octets + rest.length))⟩
  | .broken _ arrived =>
      let all := fullBlocks (c.octets ++ arrived)
      ⟨all, some (brokenOff (if c.octets.length < all.length then 0 else openCount c.octets))⟩

def Chunks.atOnce (c : Chunks) : Except Fault (List Char) :=
  match c.ending with
  | .complete => .ok c.octets
  | .refused e => .error (.http e)
  | .unreadable => .error .countRange
  | .endless rest => .error (brokenOff (c.octets.length + rest.length))
  | .broken size _ =>
      .error (if size < countLimit then brokenOff c.octets.length else .countRange)

/-- A body taken block by block; one that is shorter than it should be is taken as it
is. -/
def readBlocks (extent : Extent) (cs : List Char) : Body :=
  match extent with
  | .open => ⟨cs, none⟩
  | .length n => ⟨cs.take n, none⟩
  | .chunked => (readChunks (cs.length + 1) cs).inBlocks

def readWhole (extent : Extent) (cs : List Char) : Except Fault (List Char) :=
  match extent with
  | .open => .ok cs
  | .length n =>
      if countLimit ≤ n then .error .countRange
      else if cs.length < n then
        .error (.http (.incompleteRead cs.length (some (n - cs.length))))
      else .ok (cs.take n)
  | .chunked => (readChunks (cs.length + 1) cs).atOnce

end Http
end EngineClient
