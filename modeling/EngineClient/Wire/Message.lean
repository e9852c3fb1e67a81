import EngineClient.Text.Utf8
import EngineClient.Value.Display
import EngineClient.Wire.Base64

/-!
# Messages

The text of requests and answers. A value is an element named for its kind; in texts and
keys the ampersand and the angle brackets are written as references, so no text can end
its element. Integers are carried if they fit into 32 bits.
-/

namespace EngineClient
namespace Wire

/-! ## Texts -/

def escapeChar (c : Char) : List Char :=
  if c = '&' then "&amp;".toList
  else if c = '<' then "&lt;".toList
  else if c = '>' then "&gt;".toList
  else [c]

def escape (cs : List Char) : List Char :=
  cs.flatMap escapeChar

def element (name : String) (content : List Char) : List Char :=
  '<' :: name.toList ++ '>' :: content ++ '<' :: '/' :: name.toList ++ ['>']

/-! ## Values -/

def isCarried (i : Int) : Bool :=
  -2147483648 ≤ i && i ≤ 2147483647

mutual

def fits : Value → Bool
  | .int i => isCarried i
  | .list items => itemsFit items
  | .tuple items => itemsFit items
  | .table entries => entriesFit entries
  | _ => true

def itemsFit : List Value → Bool
  | [] => true
  | v :: vs => fits v && itemsFit vs

def entriesFit : List (Key × Value) → Bool
  | [] => true
  | (_, v) :: es => fits v && entriesFit es

end

def scalarText (kind : String) (content : List Char) : List Char :=
  element "value" (element kind content) ++ ['\n']

mutual

def valueText : Value → List Char
  | .null => "<value><nil/></value>".toList
  | .bool b => scalarText "boolean" [if b then '1' else '0']
  | .int i => scalarText "int" (Text.decimalInt i).toList
  | .real x => scalarText "double" x.toText.toList
  | .decimal d => scalarText "bigdecimal" d.toText.toList
  | .text s => scalarText "string" (escape s.toList)
  | .list items => listText items
  | .tuple items => listText items
  | .table entries =>
      element "value" (element "struct" ('\n' :: membersText entries)) ++ ['\n']
  | .octets bs => scalarText "base64" ('\n' :: Base64.encode bs)
  | .blob bs => scalarText "base64" ('\n' :: Base64.encode bs)
  | .stamp s => scalarText "dateTime.iso8601" (escape s.toList)
  | .moment _ s => scalarText "dateTime.iso8601" (escape s.toList)

def listText (items : List Value) : List Char :=
  element "value" (element "array" (element "data" ('\n' :: itemsText items))) ++ ['\n']

def itemsText : List Value → List Char
  | [] => []
  | v :: vs => valueText v ++ itemsText vs

def membersText : List (Key × Value) → List Char
  | [] => []
  | (k, v) :: es =>
      element "member"
          ('\n' :: element "name" (escape (Value.plainKey k).toList) ++ '\n' :: valueText v) ++
        '\n' :: membersText es

end

/-! ## Requests and answers -/

def declaration : List Char := "<?xml version='1.0'?>\n".toList

def paramsText (vs : List Value) : List Char :=
  element "params"
      ('\n' :: vs.flatMap fun v => element "param" ('\n' :: valueText v) ++ ['\n']) ++
    ['\n']

def requestText (method : String) (args : List Value) : List Char :=
  declaration ++
    element "methodCall"
      ('\n' :: element "methodName" method.toList ++ '\n' :: paramsText args) ++
    ['\n']

def answerText (v : Value) : List Char :=
  declaration ++ element "methodResponse" ('\n' :: paramsText [v]) ++ ['\n']

def faultText (code text : Value) : List Char :=
  declaration ++
    element "methodResponse"
      ('\n' ::
        element "fault"
          ('\n' :: valueText (.table [("faultCode", code), ("faultString", text)])) ++
        ['\n']) ++
    ['\n']

end Wire
end EngineClient
