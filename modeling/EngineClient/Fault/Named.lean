import EngineClient.Fault.Os
import EngineClient.Path

/-!
# Faults by name

The fault that the name of a class describes, together with the arguments it was made
with: the client's own errors, those of the wire, and any other error of the
surroundings. Arguments that a class does not take are a fault in its place.
-/

namespace EngineClient
namespace Fault

/-! ## The client's own errors -/

/-- An argument as text; without one, another text. -/
def plainOr (other : String) (v? : Option Value) : String :=
  (v?.map Value.plain).getD other

def commandOf : Option Value → Option String
  | some (.text s) => some s
  | _ => none

def tableOf : Option Value → Table
  | some (.table t) => t
  | _ => []

def plainKinds : List (String × ClientErrorKind) :=
  [("RopeLinkError", .general), ("NotRunningError", .notRunning),
    ("ProcessSpawnFailure", .spawnFailure), ("CommandContractError", .contract),
    ("StaleHistoryError", .staleHistory), ("ConfigError", .config)]

def transportKinds : List (String × (String → Option String → String → ClientError)) :=
  [("TransportFailure", ClientError.transportFailure),
    ("TransportTimeout", ClientError.transportTimeout)]

/-- An error of the client from the arguments of a detail, a command and whatever comes
third. -/
def clientOf (make : String → Option String → Option Value → ClientError) :
    List (Option Value) → Fault
  | [detail?, command?, third?] => .client (make (plainOr "" detail?) (commandOf command?) third?)
  | vs => .client (make (plainOr "" vs.head?.join) (commandOf vs[1]?.join) none)

def clientNamed? (name : String) (args : List Value) (named : Table) :
    Option (Except Fault Fault) :=
  match name with
  | "RemoteFault" =>
      some ((Parameters.bind
        ⟨"RemoteFault.__init__", ["fault_string"], ["command", "fault_code"]⟩ args named).map
        (clientOf fun text command? code? => .remoteFault text command? (code?.getD .null)))
  | "NeverThrown" =>
      some ((Parameters.bind ⟨"NeverThrown.__init__", ["reason"], ["env"]⟩ args named).map
        fun vs => .unreachable (plainOr "" vs.head?.join) (tableOf vs[1]?.join))
  | name =>
      match transportKinds.lookup name, plainKinds.lookup name with
      | some make, _ =>
          some ((Parameters.bind
            ⟨"TransportFailure.__init__", ["detail"], ["command", "args_summary"]⟩ args named).map
            (clientOf fun detail command? summary? => make detail command? (plainOr "" summary?)))
      | none, some kind =>
          some ((Parameters.bind ⟨"RopeLinkError.__init__", ["detail"], ["command"]⟩ args
            named).map (clientOf fun detail command? _ => ⟨kind, detail, command?⟩))
      | none, none => none

/-! ## Errors of the wire -/

def placed (call : String) (named : Table) (f : Fault) : Except Fault Fault :=
  match unfitNames? call [] named with
  | some unfit => .error unfit
  | none => .ok f

/-- A status line that is not one; without a line, what stands for it is shown. -/
def badStatusLine (line : Value) : Fault :=
  .http (.badStatusLine (if line.isTrue then line.plain else line.display))

def wireNamed? (name : String) (args : List Value) (named : Table) :
    Option (Except Fault Fault) :=
  match name with
  | "Fault" =>
      let own := ["faultCode", "faultString"]
      some ((Parameters.bind ⟨"Fault.__init__", own, []⟩ args
        (named.filter fun e => own.contains (Value.plainKey e.1))).map fun vs =>
          .answer (.fault (vs.head?.join.getD .null) (vs[1]?.join.getD .null)))
  | "ResponseError" => some (placed name named (.answer (.response args)))
  | "XmlRpcError" => some (placed "Error" named (.answer (.general args)))
  | "ProtocolError" =>
      some (.ok (.answer
        (.status (plainOr "" args.head?) (args[1]?.getD .null) (plainOr "None" args[2]?))))
  | "BadStatusLine" =>
      some ((Parameters.bind ⟨"BadStatusLine.__init__", ["line"], []⟩ args named).map fun vs =>
        badStatusLine (vs.head?.join.getD .null))
  | "RemoteDisconnected" =>
      some ((OsError.ofArguments .reset args).bind fun e =>
        placed name named (.disconnected e.message))
  | "CannotSendRequest" => some (placed name named (.http (.cannotSend (plainArguments args))))
  | "HTTPException" => some (placed name named (.http (.general (plainArguments args))))
  | "ExpatError" => some (placed name named (.xml (plainArguments args)))
  | _ => none

/-! ## Errors of texts -/

/-- Where a text could not be read or written: one place, with what stands there, or
several. -/
def placeText (one many : String) (shown? : Option String) (first past : Int) : String :=
  match if past = first + 1 then shown? else none with
  | some shown => one ++ " " ++ shown ++ " in position " ++ Text.decimalInt first
  | none =>
      many ++ " in position " ++ Text.decimalInt first ++ "-" ++ Text.decimalInt (past - 1)

def shownCharacter? (s : String) (i : Int) : Option String :=
  (s.toList[i.toNat]?).map fun c => "'" ++ String.ofList (Text.hexEscape c) ++ "'"

def shownOctet? (bs : List UInt8) (i : Int) : Option String :=
  (bs[i.toNat]?).map fun b => "0x" ++ String.ofList (Text.hexPadded 2 b.toNat)

def unreadable (args : List Value) : Except Fault Fault :=
  match args with
  | [codec, octets, first, past, reason] => do
      let codec ← textArgument 1 codec
      let first ← indexArgument first
      let past ← indexArgument past
      let reason ← textArgument 5 reason
      let bs ← match octets with
        | .octets bs => .ok bs
        | v => .error (unfit ("a bytes-like object is required, not '" ++ v.kindName ++ "'"))
      return .misread ("'" ++ codec ++ "' codec can't decode " ++
        placeText "byte" "bytes" (shownOctet? bs first) first past ++ ": " ++ reason)
  | args => .error (wrongCount "exactly 5" args.length)

def unwritable (args : List Value) : Except Fault Fault :=
  match args with
  | [codec, text, first, past, reason] => do
      let codec ← textArgument 1 codec
      let s ← textArgument 2 text
      let first ← indexArgument first
      let past ← indexArgument past
      let reason ← textArgument 5 reason
      return .foreign "UnicodeEncodeError" ("'" ++ codec ++ "' codec can't encode " ++
        placeText "character" "characters" (shownCharacter? s first) first past ++ ": " ++ reason)
  | args => .error (wrongCount "exactly 5" args.length)

def unchangeable (args : List Value) : Except Fault Fault :=
  match args with
  | [text, first, past, reason] => do
      let s ← textArgument 1 text
      let first ← indexArgument first
      let past ← indexArgument past
      let reason ← textArgument 4 reason
      return .foreign "UnicodeTranslateError" ("can't translate " ++
        placeText "character" "characters" (shownCharacter? s first) first past ++ ": " ++ reason)
  | args => .error (wrongCount "exactly 4" args.length)

/-! ## Errors of programs -/

def itemsOf : Value → Except Fault (List Value)
  | .list vs => .ok vs
  | .tuple vs => .ok vs
  | .text s => .ok (s.toList.map fun c => .text (String.singleton c))
  | .octets bs => .ok (bs.map fun b => .int b.toNat)
  | .table t => .ok (t.map fun e => .text (Value.plainKey e.1))
  | v => .error (unfit ("'" ++ v.kindName ++ "' object is not iterable"))

/-- The place in a program that items name: its file without directories, and its line. -/
def placeOf : List Value → Except Fault String
  | file :: line :: _ :: _ :: rest =>
      if 2 < rest.length then .error (wrongCount "at most 6" (rest.length + 4))
      else if rest.length = 1 then
        .error (unfit "end_offset must be provided when end_lineno is provided")
      else
        let file? := match file with
          | .text s => some (String.ofList ((Path.pieces s.toList).getLastD []))
          | _ => none
        let line? := match line with
          | .int i => some ("line " ++ Text.decimalInt i)
          | _ => none
        match [file?, line?].filterMap id with
        | [] => .ok ""
        | parts => .ok (" (" ++ String.intercalate ", " parts ++ ")")
  | items => .error (wrongCount "at least 4" items.length)

def sourceText (args : List Value) : Except Fault String :=
  let what := plainOr "None" args.head?
  match args with
  | [_, place] => ((itemsOf place).bind placeOf).map (what ++ ·)
  | _ => .ok what

/-- Why no group of errors can be made: none of the values is an error. -/
def groupFault : List Value → Fault
  | [name, errors] =>
      match textArgument 1 name, errors with
      | .error _, _ =>
          unfit ("BaseExceptionGroup.__new__() argument 1 must be str, not " ++ argumentKind name)
      | .ok _, .table _ => unfit "second argument (exceptions) must be a sequence"
      | .ok _, errors =>
          match itemsOf errors with
          | .error _ => unfit "second argument (exceptions) must be a sequence"
          | .ok [] =>
              .foreign "ValueError" "second argument (exceptions) must be a non-empty sequence"
          | .ok _ =>
              .foreign "ValueError" "Item 0 of second argument (exceptions) is not an exception"
  | args =>
      unfit ("BaseExceptionGroup.__new__() takes exactly 2 arguments (" ++
        Text.decimal args.length ++ " given)")

def groupNames : List String := ["ExceptionGroup", "BaseExceptionGroup"]

/-- The class that checks the names given to a class, and the names that it takes. -/
def allowedNames : String → String × List String
  | "ImportError" | "ModuleNotFoundError" => ("ImportError", ["name", "path"])
  | "AttributeError" => ("AttributeError", ["name", "obj"])
  | "NameError" | "UnboundLocalError" => ("NameError", ["name"])
  | name => (name, [])

def otherNamed (name : String) (args : List Value) : Except Fault Fault :=
  match name, args with
  | "UnicodeDecodeError", args => unreadable args
  | "UnicodeEncodeError", args => unwritable args
  | "UnicodeTranslateError", args => unchangeable args
  | "SyntaxError", args => (sourceText args).map (.foreign name)
  | "IndentationError", args => (sourceText args).map (.foreign name)
  | "TabError", args => (sourceText args).map (.foreign name)
  | "KeyError", [.text key] => .ok (.missingKey key)
  | "KeyError", [v] => .ok (.foreign name v.display)
  | name, args => .ok (.foreign name (plainArguments args))

/-! ## All names -/

/-- The fault that a name and arguments describe, or the fault of describing it. -/
def named (name : String) (args : List Value) (named : Table) : Except Fault Fault :=
  match OsError.named? name args named with
  | some made => made.map .os
  | none =>
      match (clientNamed? name args named).or (wireNamed? name args named) with
      | some made => made
      | none =>
          if groupNames.contains name then .error (groupFault args)
          else
            match unfitNames? (allowedNames name).1 (allowedNames name).2 named with
            | some f => .error f
            | none => otherNamed name args

end Fault
end EngineClient
