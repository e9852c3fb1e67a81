import EngineClient.Xml.CodePage.Table

/-!
# Encodings by name

The encoding that a document means by the name in its declaration. A few names are taken
as they stand, in any case; for all others only letters and digits count, and what stands
between them is written as one underscore.
-/

namespace EngineClient
namespace Xml

/-! ## Names -/

def isWordChar (c : Char) : Bool :=
  c.isAlphanum || c == '.'

/-- A name in lower case, with one underscore for what stands between its words. -/
def plainName (name : List Char) : List Char :=
  let words := (name.map Char.toLower).splitBy fun a b => isWordChar a == isWordChar b
  List.intercalate ['_'] (words.filter fun w => w.all isWordChar)

def withoutDots (name : List Char) : List Char :=
  name.map fun c => if c = '.' then '_' else c

def isListed (names : String) (name : List Char) : Bool :=
  (names.toList.splitBy fun a b => a != ' ' && b != ' ').contains name

namespace CodePage

def isCalled (p : CodePage) (name : List Char) : Bool :=
  isListed p.aliases name || isListed p.aliases (withoutDots name) || isListed p.names name

def named? (name : List Char) : Option CodePage :=
  all.find? (·.isCalled (plainName name))

end CodePage

/-! ## Kinds -/

def asciiCharacters : List Char :=
  (List.range 128).map Char.ofNat

def upperControls : List Char :=
  (List.range 32).map fun n => Char.ofNat (128 + n)

def definedCharacters (cs : List Char) : List (Option Char) :=
  cs.map fun c => if c = '\uFFFD' then none else some c

def Encoding.ofPage (cs : List Char) : Encoding :=
  .table (definedCharacters cs).toArray

def CodeKind.encoding (name : String) : CodeKind → Except Flaw Encoding
  | .page upper => .ok (.ofPage (asciiCharacters ++ upper.toList))
  | .latinPage upper => .ok (.ofPage (asciiCharacters ++ upperControls ++ upper.toList))
  | .asciiWithout c =>
      .ok (.ofPage (asciiCharacters.map fun d => if d = c then '\uFFFD' else d))
  | .multiOctet => .error (.refusedEncoding name .multiOctet)
  | .notText => .error (.refusedEncoding name .notText)
  | .labels => .error (.refusedEncoding name .labels)
  | .void => .error (.refusedEncoding name .void)
  | .asciiOnly => .error (.refusedEncoding name .asciiOnly)
  | .unfit => .error .unfitEncoding

/-! ## Declared encodings -/

/-- The encoding of a name that readers know by themselves; units of two octets stay in
the order that they are in. -/
def Encoding.known? (current : Encoding) (name : List Char) : Option Encoding :=
  match String.ofList (name.map Char.toLower) with
  | "utf-8" => some .utf8
  | "iso-8859-1" => some .latin1
  | "us-ascii" => some .ascii
  | "utf-16" => some (if current.least = 2 then current else .utf16 true)
  | "utf-16be" => some (.utf16 true)
  | "utf-16le" => some (.utf16 false)
  | _ => none

/-- The encoding that a document goes on in when its declaration, read in the current one,
gives a name. -/
def Encoding.declared (current : Encoding) (name : List Char) : Except Flaw Encoding :=
  match current.known? name with
  | some e =>
      if e.least = current.least ∧ (e.least = 2 → e = current) then .ok e
      else .error .wrongEncoding
  | none =>
      match CodePage.named? name with
      | some p => p.kind.encoding (String.ofList name)
      | none => .error (.refusedEncoding (String.ofList name) .unknown)

end Xml
end EngineClient
