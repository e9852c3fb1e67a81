import EngineClient.Gzip.Code
import EngineClient.Host.Address
import EngineClient.Host.Label
import EngineClient.Json.Render
import EngineClient.Text.Utf8
import EngineClient.Xml.Basic

/-!
# Faults

Everything that can go wrong, by cause. The client's own errors name the command that
failed; the rest comes from the operating system, the wire or the data. `Fault.message`
holds the wording of each.
-/

namespace EngineClient

/-! ## Operating system -/

inductive OsKind where
  | notFound
  | permission
  | exists
  | notADirectory
  | isADirectory
  | wouldBlock
  | interrupted
  | noProcess
  | noChild
  | brokenPipe
  | aborted
  | reset
  | timedOut
  | refused
  /-- A connection that failed for no reason of its own. -/
  | connection
  /-- A host name without an address. -/
  | lookup
  /-- Data that is not compressed as it should be. -/
  | notCompressed
  | other
  deriving DecidableEq, Repr

def OsKind.ofCode (code : Int) : OsKind :=
  if code = 1 ∨ code = 13 then .permission
  else if code = 2 then .notFound
  else if code = 3 then .noProcess
  else if code = 4 then .interrupted
  else if code = 10 then .noChild
  else if code = 11 ∨ code = 114 ∨ code = 115 then .wouldBlock
  else if code = 17 then .exists
  else if code = 20 then .notADirectory
  else if code = 21 then .isADirectory
  else if code = 32 ∨ code = 108 then .brokenPipe
  else if code = 103 then .aborted
  else if code = 104 then .reset
  else if code = 110 then .timedOut
  else if code = 111 then .refused
  else .other

/-- An operating-system error: its number if it has one, the file it is about, and where
that file should have gone. -/
structure OsError where
  kind : OsKind
  code? : Option Int
  text : String
  file? : Option String := none
  target? : Option String := none
  deriving DecidableEq, Repr

namespace OsError

def ofCode (code : Int) (text : String) (file? : Option String) : OsError :=
  { kind := .ofCode code, code? := some code, text := text, file? := file? }

def message (e : OsError) : String :=
  match e.code? with
  | none => e.text
  | some code =>
      let what := "[Errno " ++ Text.decimalInt code ++ "] " ++ e.text
      match e.file?, e.target? with
      | none, _ => what
      | some file, none => what ++ ": " ++ Text.quoted file
      | some file, some target => what ++ ": " ++ Text.quoted file ++ " -> " ++ Text.quoted target

end OsError

/-! ## The client's own errors -/

inductive ClientErrorKind where
  | general
  /-- A command was issued while no session was running. -/
  | notRunning
  /-- The request was not delivered or its answer could not be read. -/
  | transportFailure (arguments : String)
  /-- The engine did not answer in time. -/
  | transportTimeout (arguments : String)
  /-- The engine answered with a fault. -/
  | remoteFault (code : Value) (text : String)
  | spawnFailure
  /-- The arguments do not fit the command. -/
  | contract
  | staleHistory
  | config
  deriving Repr

structure ClientError where
  kind : ClientErrorKind
  detail : String
  command? : Option String
  deriving Repr

namespace ClientError

def message (e : ClientError) : String :=
  match e.command? with
  | some command => if command.isEmpty then e.detail else command ++ ": " ++ e.detail
  | none => e.detail

/-- A detail followed by the arguments of the request, if there are any. -/
def withArguments (detail arguments : String) : String :=
  if arguments.isEmpty then detail else detail ++ " (args: " ++ arguments ++ ")"

def transportFailure (detail : String) (command? : Option String) (arguments : String) :
    ClientError :=
  ⟨.transportFailure arguments, withArguments detail arguments, command?⟩

def transportTimeout (detail : String) (command? : Option String) (arguments : String) :
    ClientError :=
  ⟨.transportTimeout arguments, withArguments detail arguments, command?⟩

/-- A fault of the engine; its code is shown unless it is null. -/
def remoteFault (text : String) (command? : Option String) (code : Value) : ClientError :=
  let detail :=
    match code with
    | .null => text
    | code => "[" ++ code.plain ++ "] " ++ text
  ⟨.remoteFault code text, "engine fault " ++ detail, command?⟩

end ClientError

/-! ## The wire -/

inductive HttpError where
  | general (text : String)
  | badStatusLine (line : String)
  | cannotSend (text : String)
  | incompleteRead (received : Nat) (missing? : Option Nat)
  | unknownProtocol (version : String)
  | lineTooLong (what : String)
  /-- A URL that no request can be made to. -/
  | badTarget (text : String)
  deriving DecidableEq, Repr

def HttpError.message : HttpError → String
  | .general text => text
  | .badStatusLine line => if line.isEmpty then "''" else line
  | .cannotSend text => text
  | .incompleteRead received none => "IncompleteRead(" ++ Text.decimal received ++ " bytes read)"
  | .incompleteRead received (some missing) =>
      "IncompleteRead(" ++ Text.decimal received ++ " bytes read, " ++
        Text.decimal missing ++ " more expected)"
  | .unknownProtocol version => version
  | .lineTooLong what => "got more than 65536 bytes when reading " ++ what
  | .badTarget text => text

/-! ### Texts outside ASCII -/

/-- A run of characters outside ASCII: the first, its position, how many there are. -/
structure ForeignPart where
  first : Char
  position : Nat
  count : Nat
  deriving DecidableEq, Repr

def foreignPart? (cs : List Char) : Option ForeignPart :=
  match cs.dropWhile Host.isAscii with
  | [] => none
  | c :: rest =>
      some
        { first := c
          position := (cs.takeWhile Host.isAscii).length
          count := ((c :: rest).takeWhile (!Host.isAscii ·)).length }

def ForeignPart.message (p : ForeignPart) : String :=
  let place :=
    if p.count ≤ 1 then
      "character '" ++ String.ofList (Text.hexEscape p.first) ++ "' in position " ++
        Text.decimal p.position
    else
      "characters in position " ++ Text.decimal p.position ++ "-" ++
        Text.decimal (p.position + p.count - 1)
  "'ascii' codec can't encode " ++ place ++ ": ordinal not in range(128)"

/-! ### Targets -/

inductive TargetError where
  /-- One of two brackets. -/
  | unmatchedBracket
  | address (e : Host.AddressError)
  /-- A character that looks like a mark of URLs. -/
  | lookalike (authority : String)
  | foreign (part : ForeignPart)
  | label (e : Host.LabelError)
  deriving DecidableEq, Repr

def TargetError.message : TargetError → String
  | .unmatchedBracket => "Invalid IPv6 URL"
  | .address .laterKind => "IPvFuture address is invalid"
  | .address .dotted => "An IPv4 address cannot be in brackets"
  | .address (.noAddress text) =>
      Text.quoted text ++ " does not appear to be an IPv4 or IPv6 address"
  | .lookalike authority =>
      "netloc '" ++ authority ++ "' contains invalid characters under NFKC normalization"
  | .foreign part => part.message
  | .label e => "encoding with 'idna' codec failed (UnicodeError: " ++ e.message ++ ")"

/-! ### Answers -/

inductive AnswerError where
  | general (args : List Value)
  | response (args : List Value)
  /-- A status other than success. -/
  | status (target : String) (code : Value) (reason : String)
  /-- The engine's own fault. -/
  | fault (code text : Value)
  deriving Repr

def AnswerError.message : AnswerError → String
  | .general args => "Error(" ++ String.intercalate ", " (args.map Value.display) ++ ")"
  | .response args => "ResponseError(" ++ String.intercalate ", " (args.map Value.display) ++ ")"
  | .status target code reason =>
      "<ProtocolError for " ++ target ++ ": " ++ code.plain ++ " " ++ reason ++ ">"
  | .fault code text => "<Fault " ++ code.plain ++ ": " ++ text.display ++ ">"

inductive DecodeError where
  | badInteger (text : String)
  | longInteger (digits : Nat)
  | badReal (text : String)
  | badDecimal
  /-- A decimal number too large or too fine to hold. -/
  | decimalRange
  | badFlag
  | badPadding
  /-- A count of base 64 characters that no octets have. -/
  | badBase64 (count : Nat)
  /-- Characters outside ASCII in base 64. -/
  | foreignBase64 (part : ForeignPart)
  | missingItem
  | unusableKey (kind : String)
  /-- A key that refuses to be compared. -/
  | signalingKey
  | faultNotTable (kind : String)
  | faultIncomplete (missing : List String)
  /-- A fault with an entry under something other than a text. -/
  | faultKey
  /-- A fault with an entry under a name that a fault uses itself. -/
  | faultName (name : String)
  | refusedEncoding (name : String) (why : Xml.EncodingRefusal)
  deriving DecidableEq, Repr

def refusalMessage (name : String) : Xml.EncodingRefusal → String
  | .unknown => "unknown encoding: " ++ name
  | .notText =>
      "'" ++ String.ofList (name.toList.take 400) ++
        "' is not a text encoding; use codecs.decode() to handle arbitrary codecs"
  | .multiOctet => "multi-byte encodings are not supported"
  | .labels =>
      "decoding with '" ++ name ++
        "' codec failed (UnicodeError: Unsupported error handling replace)"
  | .void => "decoding with '" ++ name ++ "' codec failed (UnicodeError: undefined encoding)"
  | .asciiOnly =>
      "'ascii' codec can't decode byte 0x80 in position 82: ordinal not in range(128)"

def DecodeError.message : DecodeError → String
  | .badInteger text =>
      "invalid literal for int() with base 10: " ++
        String.ofList ((Text.quotedChars text.toList).take 200)
  | .longInteger digits =>
      "Exceeds the limit (4300 digits) for integer string conversion: value has " ++
        Text.decimal digits ++ " digits; use sys.set_int_max_str_digits() to increase the limit"
  | .badReal text => "could not convert string to float: " ++ Text.quoted text
  | .badDecimal => "[<class 'decimal.ConversionSyntax'>]"
  | .decimalRange => "[<class 'decimal.InvalidOperation'>]"
  | .badFlag => "bad boolean value"
  | .badPadding => "Incorrect padding"
  | .badBase64 count =>
      "Invalid base64-encoded string: number of data characters (" ++ Text.decimal count ++
        ") cannot be 1 more than a multiple of 4"
  | .foreignBase64 part => part.message
  | .missingItem => "list index out of range"
  | .unusableKey kind => "unhashable type: '" ++ kind ++ "'"
  | .signalingKey => "Cannot hash a signaling NaN value"
  | .faultNotTable kind => "xmlrpc.client.Fault() argument after ** must be a mapping, not " ++ kind
  | .faultIncomplete [name] =>
      "Fault.__init__() missing 1 required positional argument: '" ++ name ++ "'"
  | .faultIncomplete names =>
      "Fault.__init__() missing " ++ Text.decimal names.length ++
        " required positional arguments: " ++
        String.intercalate " and " (names.map fun name => "'" ++ name ++ "'")
  | .faultKey => "keywords must be strings"
  | .faultName name => "Fault.__init__() got multiple values for argument '" ++ name ++ "'"
  | .refusedEncoding name why => refusalMessage name why

/-! ### Compressed answers -/

inductive ExpandError where
  /-- It breaks off. -/
  | cut
  | corrupt (flaw : Gzip.Flaw)
  deriving DecidableEq, Repr

def ExpandError.message : ExpandError → String
  | .cut => "Compressed file ended before the end-of-stream marker was reached"
  | .corrupt flaw => "Error -3 while decompressing data: " ++ flaw.message

/-! ## Records -/

inductive LogError where
  /-- A word that names nothing. -/
  | unknownWord (word : String)
  /-- A text that is no level. -/
  | unknownLevel (text : String)
  /-- A value that can be no level, as it is shown. -/
  | noLevel (shown : String)
  | unknownVerb (verb : String)
  /-- A field under a name that the call uses itself. -/
  | takenName (call name : String)
  /-- A field that should be a record, and is of some other kind. -/
  | noRecord (kind : String)
  deriving DecidableEq, Repr

def LogError.message : LogError → String
  | .unknownWord word => "module 'logging' has no attribute '" ++ word ++ "'"
  | .unknownLevel text => "Unknown level: " ++ Text.quoted text
  | .noLevel shown => "Level not an integer or a valid string: " ++ shown
  | .unknownVerb verb => "'BoundLogger' object has no attribute '" ++ verb ++ "'"
  | .takenName call name =>
      "BoundLogger." ++ call ++ "() got multiple values for argument '" ++ name ++ "'"
  | .noRecord kind => "'" ++ kind ++ "' object has no attribute 'name'"

/-! ## All faults -/

inductive Fault where
  | client (e : ClientError)
  /-- A client error that another fault led to. -/
  | chained (e : ClientError) (cause : Fault)
  | os (e : OsError)
  /-- The peer closed the connection without an answer. -/
  | disconnected (text : String)
  | http (e : HttpError)
  | answer (e : AnswerError)
  | xml (text : String)
  | decode (e : DecodeError)
  | expand (e : ExpandError)
  /-- An integer that the wire does not carry. -/
  | integerRange
  /-- A count of octets that no reader can ask for. -/
  | countRange
  | undecodable (e : Text.Utf8.Malformed)
  /-- A text that some other program could not read. -/
  | misread (text : String)
  | target (e : TargetError)
  /-- A value that fits no model of the client. -/
  | invalid (report : String)
  | embeddedNul
  | linkLoop (path : String)
  /-- Something nested too deep to follow. -/
  | tooDeep
  | noHome
  | invalidName (name : String)
  | emptyName (path : String)
  | missingKey (key : String)
  /-- A value that no message can show. -/
  | unshown (e : Value.ShowError)
  /-- A value that has no JSON text. -/
  | unwritten (e : Json.WriteError)
  /-- A real number too small for the value that was asked of it. -/
  | realRange
  | log (e : LogError)
  /-- A process that did not end in time. -/
  | waitTimedOut (argv : List String)
  | badArgument (text : String)
  /-- A state that the client takes for unreachable. -/
  | unreachable (reason : String) (environment : Table)
  /-- Any other error of the surroundings, by name. -/
  | foreign (name text : String)
  deriving Repr

def malformedMessage (e : Text.Utf8.Malformed) : String :=
  let place :=
    if e.length ≤ 1 then
      "byte 0x" ++ String.ofList (Text.hexPadded 2 e.first.toNat) ++ " in position " ++
        Text.decimal e.position
    else
      "bytes in position " ++ Text.decimal e.position ++ "-" ++
        Text.decimal (e.position + e.length - 1)
  let reason :=
    match e.reason with
    | .start => "invalid start byte"
    | .continuation => "invalid continuation byte"
    | .truncated => "unexpected end of data"
  "'utf-8' codec can't decode " ++ place ++ ": " ++ reason

namespace Fault

def message : Fault → String
  | .client e => e.message
  | .chained e _ => e.message
  | .os e => e.message
  | .disconnected text => text
  | .http e => e.message
  | .answer e => e.message
  | .xml text => text
  | .decode e => e.message
  | .expand e => e.message
  | .integerRange => "int exceeds XML-RPC limits"
  | .countRange => "cannot fit 'int' into an index-sized integer"
  | .undecodable e => malformedMessage e
  | .misread text => text
  | .target e => e.message
  | .invalid report => report
  | .embeddedNul => "embedded null byte"
  | .linkLoop path => "Symlink loop from " ++ Text.quoted path
  | .tooDeep => "maximum recursion depth exceeded"
  | .noHome => "Could not determine home directory."
  | .invalidName name => "Invalid name " ++ Text.quoted name
  | .emptyName path => "PosixPath(" ++ Text.quoted path ++ ") has an empty name"
  | .missingKey key => Text.quoted key
  | .unshown e => e.message
  | .unwritten e => e.message
  | .realRange => "int too large to convert to float"
  | .log e => e.message
  | .waitTimedOut argv =>
      "Command '" ++ Value.display (.list (argv.map .text)) ++ "' timed out after 5.0 seconds"
  | .badArgument text => text
  | .unreachable reason _ => reason
  | .foreign _ text => text

/-! ## Classes -/

def clientError? : Fault → Option ClientError
  | .client e => some e
  | .chained e _ => some e
  | _ => none

/-- An error of the operating system; a lost connection is one. -/
def isOs : Fault → Bool
  | .os _ => true
  | .disconnected _ => true
  | _ => false

def isNotFound : Fault → Bool
  | .os e => e.kind = .notFound
  | _ => false

def isTimeout : Fault → Bool
  | .os e => e.kind = .timedOut
  | _ => false

def isUndecodable : Fault → Bool
  | .undecodable _ => true
  | .misread _ => true
  | _ => false

/-- Trouble with a request that is neither the engine's fault nor a time limit. -/
def isWireTrouble : Fault → Bool
  | .os _ => true
  | .disconnected _ => true
  | .http _ => true
  | .answer _ => true
  | .xml _ => true
  | _ => false

end Fault
end EngineClient
