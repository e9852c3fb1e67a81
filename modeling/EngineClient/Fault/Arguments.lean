import EngineClient.Fault

/-!
# Arguments of a fault

What a fault of some class is made with: arguments by place and arguments by name. A
class states its parameters; arguments that do not fit them are a fault themselves.
-/

namespace EngineClient
namespace Fault

def unfit (text : String) : Fault :=
  .foreign "TypeError" text

/-! ## Parameters -/

/-- The parameters of a class: the first of those by place are required, the others may
be given by name alone. -/
structure Parameters where
  call : String
  places : List String
  names : List String := []
  deriving Repr

namespace Parameters

def filled (p : Parameters) (args : List Value) : Nat :=
  min args.length p.places.length

def unfitName? (p : Parameters) (args : List Value) (name : String) : Option Fault :=
  if !(p.places ++ p.names).contains name then
    some (unfit (p.call ++ "() got an unexpected keyword argument '" ++ name ++ "'"))
  else if (p.places.take (p.filled args)).contains name then
    some (unfit (p.call ++ "() got multiple values for argument '" ++ name ++ "'"))
  else none

def tooMany (p : Parameters) (args : List Value) (named : Table) : Fault :=
  let count := (named.filter fun e => p.names.contains (Value.plainKey e.1)).length
  let were :=
    if count = 0 then " were given"
    else
      " positional arguments (and " ++ Text.decimal count ++ " keyword-only argument" ++
        (if count = 1 then "" else "s") ++ ") were given"
  unfit (p.call ++ "() takes " ++ Text.decimal (p.places.length + 1) ++
    " positional arguments but " ++ Text.decimal (args.length + 1) ++ were)

def missing (p : Parameters) (names : List String) : Fault :=
  unfit (p.call ++ "() missing " ++ Text.decimal names.length ++ " required positional argument" ++
    (if names.length = 1 then "" else "s") ++ ": " ++
    String.intercalate " and " (names.map fun name => "'" ++ name ++ "'"))

def bind (p : Parameters) (args : List Value) (named : Table) :
    Except Fault (List (Option Value)) :=
  let given := p.filled args
  let lacking := (p.places.drop given).filter fun name : String =>
    (Table.get? named (.text name)).isNone
  match named.findSome? (fun e => p.unfitName? args (Value.plainKey e.1)) with
  | some f => .error f
  | none =>
      if p.places.length < args.length then .error (p.tooMany args named)
      else if lacking.isEmpty then
        .ok (args.map some ++ (p.places.drop given ++ p.names).map fun name : String =>
          Table.get? named (.text name))
      else .error (p.missing lacking)

theorem length_le_of_bind {p : Parameters} {args : List Value} {named : Table}
    {vs : List (Option Value)} (h : p.bind args named = .ok vs) :
    args.length ≤ p.places.length := by
  unfold bind at h
  split at h
  · cases h
  · split at h
    · cases h
    · omega

end Parameters

/-! ## Classes without parameters -/

/-- Why a class that takes arguments by place, and some names, does not take others. -/
def unfitNames? (call : String) (allowed : List String) (named : Table) : Option Fault :=
  match named.find? fun e => !allowed.contains (Value.plainKey e.1) with
  | none => none
  | some (key, _) =>
      if allowed.isEmpty then some (unfit (call ++ "() takes no keyword arguments"))
      else if allowed.length < named.length then
        some (unfit (call ++ "() takes at most " ++ Text.decimal allowed.length ++
          " keyword argument" ++ (if allowed.length = 1 then "" else "s") ++ " (" ++
          Text.decimal named.length ++ " given)"))
      else
        some (unfit ("'" ++ Value.plainKey key ++ "' is an invalid keyword argument for " ++
          call ++ "()"))

/-- The arguments of a class as text: nothing, the only one, or all of them. -/
def plainArguments : List Value → String
  | [] => ""
  | [v] => v.plain
  | vs => (Value.tuple vs).display

/-! ## Arguments of some kind -/

def wrongCount (bound : String) (given : Nat) : Fault :=
  unfit ("function takes " ++ bound ++ " arguments (" ++ Text.decimal given ++ " given)")

def argumentKind : Value → String
  | .null => "None"
  | v => v.kindName

/-- An argument that must be a text; places count from one. -/
def textArgument (place : Nat) : Value → Except Fault String
  | .text s => .ok s
  | v =>
      .error (unfit ("argument " ++ Text.decimal place ++ " must be str, not " ++ argumentKind v))

def isIndex (i : Int) : Bool :=
  decide (-9223372036854775808 ≤ i ∧ i < 9223372036854775808)

def noInteger (v : Value) : Fault :=
  unfit ("'" ++ v.kindName ++ "' object cannot be interpreted as an integer")

def indexArgument : Value → Except Fault Int
  | .int i =>
      if isIndex i then .ok i
      else .error (.foreign "OverflowError" "Python int too large to convert to C ssize_t")
  | .bool b => .ok (if b then 1 else 0)
  | v => .error (noInteger v)

end Fault
end EngineClient
