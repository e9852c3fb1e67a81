import EngineClient.Text.Listing

/-!
# Addresses

The numeric addresses of hosts: four octets with dots between them, or eight groups of
hexadecimal digits with colons. Of the groups a run may be left out, and the last two may
be written as four octets; behind a percent sign stands the network that it belongs to.
-/

namespace EngineClient
namespace Host

/-! ## Octets -/

/-- A number from 0 to 255 in decimal, without zeros before it. -/
def isOctet (cs : List Char) : Bool :=
  !cs.isEmpty && cs.all Char.isDigit && cs.length ≤ 3 && (cs = ['0'] || cs.head? != some '0') &&
    cs.foldl (fun n c => n * 10 + (c.toNat - '0'.toNat)) 0 ≤ 255

def isDotted (cs : List Char) : Bool :=
  (Text.pieces '.' cs).length = 4 && (Text.pieces '.' cs).all isOctet

/-! ## Groups -/

def isGroup (cs : List Char) : Bool :=
  !cs.isEmpty && cs.length ≤ 4 && cs.all fun c => (Text.hexValue? c).isSome

/-- How many groups the last part of an address stands for, if it is one. -/
def lastWeight? (cs : List Char) : Option Nat :=
  if cs.contains '.' then if isDotted cs then some 2 else none
  else if isGroup cs then some 1
  else none

/-- How many groups parts stand for, if all of them are groups. -/
def weight? : List (List Char) → Option Nat
  | [] => some 0
  | [p] => lastWeight? p
  | p :: q :: ps => if isGroup p then (weight? (q :: ps)).map (· + 1) else none

/-- How many groups the parts before a gap stand for; none of them are octets. -/
def headWeight? (ps : List (List Char)) : Option Nat :=
  if ps.all isGroup then some ps.length else none

/-- Parts around a gap: those before the first empty one that is not at an end. -/
def spanGap : List (List Char) → List (List Char) × List (List Char)
  | [] => ([], [])
  | p :: ps => if p.isEmpty then ([], ps) else let (front, back) := spanGap ps; (p :: front, back)

def areGroups (parts : List (List Char)) : Bool :=
  let inner := (parts.drop 1).dropLast
  if inner.any List.isEmpty then
    let (front, back) :=
      match parts with
      | [] :: [] :: back => ([], back)
      | parts => spanGap parts
    let back := if back = [[]] then [] else back
    match headWeight? front, weight? back with
    | some m, some n => m + n < 8
    | _, _ => false
  else weight? parts = some 8

/-- An address of groups; a network that it belongs to has a name without percent signs. -/
def isColoned (cs : List Char) : Bool :=
  let scope := cs.dropWhile (· != '%')
  let parts := Text.pieces ':' (cs.takeWhile (· != '%'))
  (scope.isEmpty || (1 < scope.length && !scope.tail.contains '%')) && 3 ≤ parts.length &&
    areGroups parts

/-! ## Brackets -/

inductive AddressError where
  /-- An address of a later kind that is not written as one. -/
  | laterKind
  /-- Four octets, which need no brackets. -/
  | dotted
  | noAddress (text : String)
  deriving DecidableEq, Repr

/-- An address of a later kind: a version, a dot, and something behind it. -/
def isLaterKind (cs : List Char) : Bool :=
  let version := (cs.drop 1).takeWhile fun c => (Text.hexValue? c).isSome
  match (cs.drop 1).dropWhile fun c => (Text.hexValue? c).isSome with
  | '.' :: _ :: _ => !version.isEmpty
  | _ => false

/-- Refuses a host in brackets that is no address of groups and of no later kind. -/
def checkBracketed (cs : List Char) : Except AddressError Unit :=
  if cs.head? = some 'v' then if isLaterKind cs then .ok () else .error .laterKind
  else if isDotted cs then .error .dotted
  else if isColoned cs then .ok ()
  else .error (.noAddress (String.ofList cs))

end Host
end EngineClient
