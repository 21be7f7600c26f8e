/-
# Retrieved values

Rows come back as JSON values. A whole number and a number with a fraction are different values,
as only the first can stand for an identifier or a count. Readers say what they found wanting and
never guess: a number out of range, or one that is whole only by chance, is refused.
-/

import ContentQuery.Numeric.Decimal

namespace ContentQuery

/-- A JSON value. -/
inductive Json
  | null
  | bool (value : Bool)
  | integer (value : Int)
  | float (value : Binary64)
  | string (value : String)
  | array (items : List Json)
  | object (fields : List (String × Json))
deriving Inhabited

/-- Why a retrieved value does not have the form of an item. -/
inductive DecodeError
  | expected (form : String)
  | missing (field : String)
  | wrongLength (length : Nat)
deriving DecidableEq, Repr

/-- What a decoding error says. -/
def DecodeError.message : DecodeError → String
  | expected form => "expected " ++ form
  | missing field => "the field '" ++ field ++ "' is missing"
  | wrongLength length => "a sequence of length " ++ toString length ++ " does not fit"

namespace Json

/-- A natural number below a limit. -/
def readNatBelow (limit : Nat) : Json → Except DecodeError Nat
  | integer value =>
    if 0 ≤ value ∧ value < limit then .ok value.toNat
    else .error (.expected ("a natural number below " ++ toString limit))
  | _ => .error (.expected "a natural number")

/-- An unsigned number of 64 bits. -/
def readUInt64 (json : Json) : Except DecodeError UInt64 :=
  (json.readNatBelow UInt64.size).map UInt64.ofNat

/-- An unsigned number of 32 bits. -/
def readUInt32 (json : Json) : Except DecodeError UInt32 :=
  (json.readNatBelow UInt32.size).map UInt32.ofNat

/-- A text. -/
def readString : Json → Except DecodeError String
  | string value => .ok value
  | _ => .error (.expected "a text")

/-- The value of a field that must be there. -/
def required {α : Type} (name : String) (read : Json → Except DecodeError α) :
    Option Json → Except DecodeError α
  | some json => read json
  | none => .error (.missing name)

/-- The value of a field that may be missing or null. -/
def optional {α : Type} (read : Json → Except DecodeError α) :
    Option Json → Except DecodeError (Option α)
  | none | some null => .ok none
  | some json => (read json).map some

/-- The values of named fields. An object gives them by name, whatever else is in it; a sequence
gives them by position and may end early, but must not have more elements than there are names. -/
def namedFields (names : List String) : Json → Except DecodeError (List (Option Json))
  | object fields => .ok (names.map fun name => fields.lookup name)
  | array items =>
    if names.length < items.length then .error (.wrongLength items.length)
    else .ok ((List.range names.length).map fun position => items[position]?)
  | _ => .error (.expected "an object")

end Json

end ContentQuery
