import EngineClient.Gzip.Reader
import EngineClient.Http.Body
import EngineClient.Wire.Decoder
import EngineClient.Xml.Document

/-!
# Responses

What the octets of a response say to a client: a status other than success is refused,
the body of a success is decoded as a message. Of several things that are wrong with a
response the one that comes first in it is reported.
-/

namespace EngineClient
namespace Wire

/-! ## Bodies -/

def faultOfStop (s : Xml.Stop) : Fault :=
  match s.flaw with
  | .refusedEncoding name why => .decode (.refusedEncoding name why)
  | _ => .xml s.message

/-- The values of a message; `stop?` kept its reader from the rest of it. -/
def decodeBody (octets : List UInt8) (stop? : Option Fault) : Except Fault (List Value) := do
  let reading := if stop?.isNone then Xml.read octets else Xml.readBroken octets
  let decoder ← ({} : Decoder).run reading.events
  match reading.stop?, stop? with
  | some s, _ => throw (faultOfStop s)
  | none, some f => throw f
  | none, none => decoder.finish

def answerValue : List Value → Value
  | [v] => v
  | vs => .tuple vs

/-! ## Responses -/

def charsOf (bs : List UInt8) : List Char :=
  bs.map fun b => Char.ofNat b.toNat

/-- The octets that stand for the first 256 characters. -/
def octetsOf (cs : List Char) : List UInt8 :=
  cs.map fun c => UInt8.ofNat c.toNat

def compressedCoding : String := "gzip"

private def checksumText (n : Nat) : String :=
  "0x" ++ String.ofList (Nat.toDigits 16 n)

def faultOfTrouble (t : Gzip.Trouble) : Fault :=
  let damaged (text : String) : Fault :=
    .os { kind := .notCompressed, code? := none, text := text }
  match t with
  | .noMember start => damaged ("Not a gzipped file (" ++ Text.quotedOctets start ++ ")")
  | .method => damaged "Unknown compression method"
  | .checksum given found =>
      damaged ("CRC check failed " ++ checksumText given ++ " != " ++ checksumText found)
  | .length => damaged "Incorrect length of data produced"
  | .cut => .expand .cut
  | .corrupt flaw => .expand (.corrupt flaw)

def decodeContent (head : Http.Head) (cs : List Char) : Except Fault (List Value) := do
  if head.joined "content-encoding" = compressedCoding then
    let body := Gzip.readFile Http.blockSize (octetsOf (← Http.readWhole head.extent cs))
    decodeBody body.octets (body.trouble?.map faultOfTrouble)
  else
    let body := Http.readBlocks head.extent cs
    decodeBody (octetsOf body.octets) body.stop?

/-- The answer in the response from a place. A body that comes with another status is taken
before the status is refused if its length is given. -/
def decodeResponse (place : String) (bs : List UInt8) : Except Fault Value := do
  let (head, rest) ← Http.readHead (bs.length + 1) (charsOf bs)
  if head.status = 200 then return answerValue (← decodeContent head rest)
  else
    if !(head.joined "content-length").isEmpty then
      let _ ← Http.readWhole head.extent rest
    throw (.answer (.status place (.int head.status) head.reason))

end Wire
end EngineClient
