import EngineClient.Text.Digit
import EngineClient.Text.Printable

/-!
# Quoted text

How messages show a text or a string of octets: between quotes, with every
character that cannot be shown written as an escape.
-/

namespace EngineClient
namespace Text

/-! ## Escapes -/

def hexEscape (c : Char) : List Char :=
  if c.toNat < 0x100 then '\\' :: 'x' :: hexPadded 2 c.toNat
  else if c.toNat < 0x10000 then '\\' :: 'u' :: hexPadded 4 c.toNat
  else '\\' :: 'U' :: hexPadded 8 c.toNat

def quoteChar (quote c : Char) : List Char :=
  if c = quote ∨ c = '\\' then ['\\', c]
  else if c = '\n' then ['\\', 'n']
  else if c = '\r' then ['\\', 'r']
  else if c = '\t' then ['\\', 't']
  else if isPrintable c then [c]
  else hexEscape c

/-- Single quotes, unless they occur inside and double quotes do not. -/
def quoteFor (cs : List Char) : Char :=
  if cs.contains '\'' && !cs.contains '"' then '"' else '\''

def quotedChars (cs : List Char) : List Char :=
  quoteFor cs :: cs.flatMap (quoteChar (quoteFor cs)) ++ [quoteFor cs]

def quoted (s : String) : String :=
  String.ofList (quotedChars s.toList)

/-! ## Octets -/

def quoteOctet (quote : Char) (b : UInt8) : List Char :=
  let c := Char.ofNat b.toNat
  if c = quote ∨ c = '\\' then ['\\', c]
  else if c = '\n' then ['\\', 'n']
  else if c = '\r' then ['\\', 'r']
  else if c = '\t' then ['\\', 't']
  else if 0x20 ≤ b.toNat ∧ b.toNat < 0x7F then [c]
  else '\\' :: 'x' :: hexPadded 2 b.toNat

def quotedOctets (bs : List UInt8) : String :=
  let quote := quoteFor (bs.map fun b => Char.ofNat b.toNat)
  String.ofList ('b' :: quote :: bs.flatMap (quoteOctet quote) ++ [quote])

end Text
end EngineClient
