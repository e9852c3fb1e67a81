import EngineClient.Fault

/-!
# Targets

Where the URL of an engine points: the authority, which is a host with a port behind it
and perhaps a user before it, and the path that is asked for. What cannot be connected to
or asked for is refused: brackets around something other than an address, characters that
only look like the marks of a URL, blanks and control characters, and names that are no
host names. Main statement: authority and remainder are the URL behind its scheme, without
the characters that are dropped.
-/

namespace EngineClient
namespace Wire

/-! ## Splitting -/

def scheme : String := "http://"

def isDropped (c : Char) : Bool :=
  c == '\t' || c == '\n' || c == '\r'

def endsAuthority (c : Char) : Bool :=
  c == '/' || c == '?' || c == '#'

/-- A URL behind its scheme, without the characters that are dropped. -/
def urlBody (url : String) : List Char :=
  (url.toList.drop scheme.length).filter (!isDropped ·)

def urlAuthority (url : String) : List Char :=
  (urlBody url).takeWhile (!endsAuthority ·)

def urlRemainder (url : String) : List Char :=
  (urlBody url).dropWhile (!endsAuthority ·)

theorem urlAuthority_append_urlRemainder (url : String) :
    urlAuthority url ++ urlRemainder url = urlBody url :=
  List.takeWhile_append_dropWhile

/-- A mark with the text behind it; an empty text is left out with its mark. -/
def marked (mark : Char) (cs : List Char) : List Char :=
  if cs.isEmpty then [] else mark :: cs

/-- What is asked for by the remainder of a URL: its path, its query and its fragment. A path
that could be taken for an authority gets two slashes more. -/
def requestPath (cs : List Char) : List Char :=
  let front := cs.takeWhile (· != '#')
  let path := front.takeWhile (· != '?')
  let path := if ['/', '/'].isPrefixOf path then '/' :: '/' :: path else path
  path ++ marked '?' ((front.dropWhile (· != '?')).drop 1) ++
    marked '#' ((cs.dropWhile (· != '#')).drop 1)

structure Target where
  authority : List Char
  path : List Char
  deriving DecidableEq, Repr

namespace Target

def ofUrl (url : String) : Target :=
  ⟨urlAuthority url, requestPath (urlRemainder url)⟩

def text (t : Target) : String :=
  String.ofList (t.authority ++ t.path)

/-! ## Peers -/

/-- The host and the port: what stands behind the user. -/
def peer (t : Target) : List Char :=
  (t.authority.reverse.takeWhile (· != '@')).reverse

/-- A peer split at its last colon, unless that colon stands in brackets. -/
def splitPort (peer : List Char) : List Char × Option (List Char) :=
  let isInside (c : Char) : Bool := c != ':' && c != ']'
  match peer.reverse.dropWhile isInside with
  | ':' :: front => (front.reverse, some (peer.reverse.takeWhile isInside).reverse)
  | _ => (peer, none)

def withoutBrackets (host : List Char) : List Char :=
  if host.head? = some '[' ∧ host.getLast? = some ']' then host.tail.dropLast else host

/-! ## Authorities -/

/-- What stands between the first opening bracket and the next closing one. -/
def bracketed (cs : List Char) : List Char :=
  ((cs.dropWhile (· != '[')).drop 1).takeWhile (· != ']')

def lookalikes : List Nat :=
  [0x2047, 0x2048, 0x2049, 0x2100, 0x2101, 0x2105, 0x2106, 0x2A74, 0xFE13, 0xFE16, 0xFE55,
    0xFE56, 0xFE5F, 0xFE6B, 0xFF03, 0xFF0F, 0xFF1A, 0xFF1F, 0xFF20]

/-- Refuses an authority with brackets that are no pair or hold no address, or with a
character that looks like a mark. -/
def checkAuthority (cs : List Char) : Except TargetError Unit :=
  match cs.contains '[', cs.contains ']' with
  | true, true =>
      match Host.checkBracketed (bracketed cs) with
      | .error e => .error (.address e)
      | .ok () => checkLookalikes
  | false, false => checkLookalikes
  | _, _ => .error .unmatchedBracket
where
  /-- Refuses a character that looks like a mark. -/
  checkLookalikes : Except TargetError Unit :=
    if cs.any fun c => lookalikes.contains c.toNat then .error (.lookalike (String.ofList cs))
    else .ok ()

/-! ## Hosts, ports and paths -/

/-- A character that neither a host nor a path may hold. -/
def isRefused (c : Char) : Bool :=
  c.toNat ≤ 0x20 || c.toNat == 0x7F

def checkPart (part : List Char) : Except HttpError Unit :=
  match part.find? isRefused with
  | none => .ok ()
  | some c =>
      .error (.badTarget ("URL can't contain control characters. " ++
        Text.quoted (String.ofList part) ++ " (found at least " ++
        Text.quoted (String.singleton c) ++ ")"))

/-- Refuses a port that is no number; an empty one stands for the usual port. -/
def checkPort : Option (List Char) → Except HttpError Unit
  | none => .ok ()
  | some [] => .ok ()
  | some port =>
      match Literal.integer port with
      | .ok _ => .ok ()
      | .error _ => .error (.badTarget ("nonnumeric port: '" ++ String.ofList port ++ "'"))

def requestLine (t : Target) : String :=
  "POST " ++ String.ofList t.path ++ " HTTP/1.1"

/-- Refuses a request that is not written in ASCII. -/
def checkLine (line : String) : Except TargetError Unit :=
  match foreignPart? line.toList with
  | some part => .error (.foreign part)
  | none => .ok ()

def check (t : Target) : Except Fault Unit := do
  let (host, port?) := splitPort t.peer
  (checkPort port?).mapError .http
  (checkPart (withoutBrackets host)).mapError .http
  (checkPart t.path).mapError .http
  (checkLine t.requestLine).mapError .target
  (Host.checkName (withoutBrackets host)).mapError fun e => .target (.label e)

end Target
end Wire
end EngineClient
