import EngineClient.Fault
import EngineClient.Wire.Base64
import EngineClient.Xml.Basic

/-!
# Decoding messages

The values of a message, from the events of its document. Each end tag of a scalar turns
the text before it into a value; the end of a list or a struct gathers the values since
its start. Elements of other names carry nothing; directly in a value they are refused.
-/

namespace EngineClient
namespace Wire

/-! ## Elements -/

inductive Element where
  | null
  | flag
  | integer
  | real
  | decimal
  | text
  | list
  | struct
  | octets
  | stamp
  | value
  | params
  | fault
  | method
  deriving DecidableEq, Repr

def Element.ofName? (name : String) : Option Element :=
  match name with
  | "nil" => some .null
  | "boolean" => some .flag
  | "i1" | "i2" | "i4" | "i8" | "int" | "biginteger" => some .integer
  | "double" | "float" => some .real
  | "bigdecimal" => some .decimal
  | "string" | "name" => some .text
  | "array" => some .list
  | "struct" => some .struct
  | "base64" => some .octets
  | "dateTime.iso8601" => some .stamp
  | "value" => some .value
  | "params" => some .params
  | "fault" => some .fault
  | "methodName" => some .method
  | _ => none

/-- A name without what stands before its last colon. -/
def localName (name : List Char) : List Char :=
  (name.reverse.takeWhile (· != ':')).reverse

def Element.ofTag? (name : List Char) : Option Element :=
  Element.ofName? (String.ofList (localName name))

/-! ## Scalars -/

def decodeOctets (cs : List Char) : Except Fault (List UInt8) :=
  match foreignPart? cs with
  | some part => .error (.decode (.foreignBase64 part))
  | none =>
      match Base64.decode cs with
      | .ok bs => .ok bs
      | .error .padding => .error (.decode .badPadding)
      | .error (.count n) => .error (.decode (.badBase64 n))

def decodeInteger (cs : List Char) : Except Fault Int :=
  match Literal.integer cs with
  | .ok i => .ok i
  | .error .malformed => .error (.decode (.badInteger (String.ofList cs)))
  | .error (.tooLong n) => .error (.decode (.longInteger n))

def decodeReal (cs : List Char) : Except Fault Binary64 :=
  match Literal.real? cs with
  | some x => .ok x
  | none => .error (.decode (.badReal (String.ofList cs)))

def decodeDecimal (cs : List Char) : Except Fault Decimal :=
  match Decimal.read cs with
  | .ok d => .ok d
  | .error .malformed => .error (.decode .badDecimal)
  | .error .outOfRange => .error (.decode .decimalRange)

def decodeFlag (cs : List Char) : Except Fault Bool :=
  match cs with
  | ['0'] => .ok false
  | ['1'] => .ok true
  | _ => .error (.decode .badFlag)

/-! ## Structs -/

def keyOf (v : Value) : Except Fault Key :=
  match v with
  | .text s => .ok (.text s)
  | .null => .ok .null
  | .bool b => .ok (.bool b)
  | .int i => .ok (.int i)
  | .real x => .ok (.real x)
  | .decimal (.nan _ true _) => .error (.decode .signalingKey)
  | .decimal d => .ok (.decimal d)
  | v => .error (.decode (.unusableKey v.kindName))

def gather (t : Table) : List Value → Except Fault Table
  | [] => .ok t
  | [_] => .error (.decode .missingItem)
  | k :: v :: vs =>
      match keyOf k with
      | .ok key => gather (Table.set t key v) vs
      | .error f => .error f

/-! ## Decoders -/

inductive Closing where
  | params
  | fault
  | method
  deriving DecidableEq, Repr

structure Decoder where
  /-- The values of the innermost open list or struct, the newest first. -/
  items : List Value := []
  /-- The values before each open list or struct, the innermost first. -/
  outer : List (List Value) := []
  /-- The text since the last start tag, the newest character first. -/
  text : List Char := []
  /-- Whether the last tag started a value. -/
  opened : Bool := false
  closing? : Option Closing := none
  /-- The command that a request asks for. -/
  method? : Option String := none
  deriving Repr

namespace Decoder

def push (d : Decoder) (v : Value) : Decoder :=
  { d with items := v :: d.items, opened := false }

def close (d : Decoder) (v : Value) : Decoder :=
  match d.outer with
  | before :: outer => { d with items := v :: before, outer, opened := false }
  | [] => d

def start (d : Decoder) (name : List Char) : Except Fault Decoder :=
  let element? := Element.ofTag? name
  if d.opened && element?.isNone then
    .error (.answer (.response
      [.text ("unknown tag " ++ Text.quoted (String.ofList (localName name)))]))
  else
    let d := { d with text := [], opened := element? == some .value }
    if element? = some .list ∨ element? = some .struct then
      .ok { d with items := [], outer := d.items :: d.outer }
    else .ok d

def stop (d : Decoder) (name : List Char) : Except Fault Decoder :=
  let cs := d.text.reverse
  match Element.ofTag? name with
  | none => .ok d
  | some .null => .ok (d.push .null)
  | some .flag => (decodeFlag cs).map fun b => d.push (.bool b)
  | some .integer => (decodeInteger cs).map fun i => d.push (.int i)
  | some .real => (decodeReal cs).map fun x => d.push (.real x)
  | some .decimal => (decodeDecimal cs).map fun x => d.push (.decimal x)
  | some .text => .ok (d.push (.text (String.ofList cs)))
  | some .list => .ok (d.close (.list d.items.reverse))
  | some .struct => (gather [] d.items.reverse).map fun t => d.close (.table t)
  | some .octets => (decodeOctets cs).map fun bs => d.push (.blob bs)
  | some .stamp => .ok (d.push (.stamp (Text.trim (String.ofList cs))))
  | some .value => .ok (if d.opened then d.push (.text (String.ofList cs)) else d)
  | some .params => .ok { d with closing? := some .params }
  | some .fault => .ok { d with closing? := some .fault }
  | some .method => .ok { d with closing? := some .method, method? := some (String.ofList cs) }

def step (d : Decoder) : Xml.Event → Except Fault Decoder
  | .start name => d.start name
  | .stop name => d.stop name
  | .text cs => .ok { d with text := cs.reverseAux d.text }

def run (d : Decoder) : List Xml.Event → Except Fault Decoder
  | [] => .ok d
  | e :: es =>
      match d.step e with
      | .ok d => run d es
      | .error f => .error f

theorem run_append (d : Decoder) (xs ys : List Xml.Event) :
    d.run (xs ++ ys) = d.run xs >>= fun d => d.run ys := by
  induction xs generalizing d with
  | nil => rfl
  | cons e xs ih =>
      cases h : d.step e with
      | error f => simp only [List.cons_append, run, h]; rfl
      | ok d' => simp only [List.cons_append, run, h, ih]

/-! ## Whole messages -/

def ownName : String := "self"

/-- The fault that a table describes; entries that say nothing about it are left out. -/
def faultOfTable (t : Table) : Fault :=
  if t.any (·.1.text?.isNone) then .decode .faultKey
  else if (t.get? ownName).isSome then .decode (.faultName ownName)
  else
    match t.get? "faultCode", t.get? "faultString" with
    | some code, some text => .answer (.fault code text)
    | code?, text? =>
        .decode (.faultIncomplete
          ((if code?.isNone then ["faultCode"] else []) ++
            (if text?.isNone then ["faultString"] else [])))

def faultOf : List Value → Fault
  | [] => .decode .missingItem
  | .table t :: _ => faultOfTable t
  | v :: _ => .decode (.faultNotTable v.kindName)

def finish (d : Decoder) : Except Fault (List Value) :=
  match d.closing? with
  | none => .error (.answer (.response []))
  | some .fault => .error (faultOf d.items.reverse)
  | some _ => .ok d.items.reverse

end Decoder
end Wire
end EngineClient
