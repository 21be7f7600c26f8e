/-
# Literals

The values that a query expression can hold. Three views of a literal matter. Its *comparable
form* is what the index stores: text and type names in lower case, references as the identity of
their item. The *order* is partial and stays inside one family of scalars, integers and floating
point numbers being one family. *Equality* is of structure, with the numeric equality on floating
point numbers, so an integer never equals a floating point number although the two may compare as
equal.
-/

import ContentQuery.Content.Reference
import ContentQuery.DateTime
import ContentQuery.Numeric.Decimal

namespace ContentQuery

/-- A literal of a query expression. -/
inductive Literal
  | null
  | bool (value : Bool)
  | int (value : Int64)
  | float (value : Binary64)
  | text (value : String)
  | dateTime (value : DateTime)
  | type (name : String)
  | content (reference : ContentRef)
  | list (items : List Literal)

/-- The largest integer that a literal can hold. -/
def Literal.maxInt : Nat := Nat.pow 2 63 - 1

/-- What a reference is compared by: its number, or its lower-cased path when it has no number. A
number beyond the largest integer stands for the largest integer. -/
def ContentRef.identity? (reference : ContentRef) : Option Literal :=
  match reference.id, reference.path with
  | some id, _ => some (.int (Int64.ofNat (min id.toNat Literal.maxInt)))
  | none, some path => some (.text (Text.lowerCase path))
  | none, none => none

namespace Literal

/-- Whether a literal is the null literal. -/
def isNull : Literal → Bool
  | null => true
  | _ => false

/-- Whether a literal is a list. -/
def isList : Literal → Bool
  | list _ => true
  | _ => false

/-- The truth value that a literal holds, if it is one. -/
def asBool? : Literal → Option Bool
  | bool value => some value
  | _ => none

mutual

/-- The form in which the index compares a literal. There is none exactly when the literal is, or
its list holds, a reference with neither number nor path. -/
def comparable? : Literal → Option Literal
  | text value => some (.text (Text.lowerCase value))
  | type name => some (.text (Text.lowerCase name))
  | content reference => reference.identity?
  | list items => (comparableItems? items).map list
  | other => some other

/-- The comparable forms of all items, if each has one. -/
def comparableItems? : List Literal → Option (List Literal)
  | [] => some []
  | item :: rest => do return (← comparable? item) :: (← comparableItems? rest)

end

/-- The order of two literals of one family; an integer meets a floating point number as the
floating point number nearest to it. Text is ordered by code points. -/
def compare? : Literal → Literal → Option Ordering
  | bool a, bool b => some (compare a b)
  | int a, int b => some (compare a.toInt b.toInt)
  | int a, float b => (Binary64.ofInt a.toInt).compare? b
  | float a, int b => a.compare? (Binary64.ofInt b.toInt)
  | float a, float b => a.compare? b
  | text a, text b => some (compare a b)
  | type a, type b => some (compare a b)
  | dateTime a, dateTime b => some (a.order b)
  | _, _ => none

mutual

/-- Equality of structure. Floating point numbers are compared by value, so this is not reflexive:
the word that is no number differs from itself. -/
def equals : Literal → Literal → Bool
  | null, null => true
  | bool a, bool b => a == b
  | int a, int b => a == b
  | float a, float b => a.equals b
  | text a, text b => a == b
  | dateTime a, dateTime b => a == b
  | type a, type b => a == b
  | content a, content b => a == b
  | list a, list b => equalItems a b
  | _, _ => false

/-- Equality of structure, item by item. -/
def equalItems : List Literal → List Literal → Bool
  | [], [] => true
  | a :: as, b :: bs => equals a b && equalItems as bs
  | _, _ => false

end

instance : BEq Literal := ⟨equals⟩

mutual

/-- The text of a literal as a reader of an expression sees it; nothing is escaped inside quotes.
-/
def toText : Literal → String
  | null => "null"
  | bool value => if value then "true" else "false"
  | int value => toString value.toInt
  | float value => value.toText
  | text value => "\"" ++ value ++ "\""
  | dateTime value => value.toText
  | type name => "typeof(" ++ name ++ ")"
  | content reference =>
    match reference.id, reference.path with
    | some id, _ => "content(" ++ toString id.toNat ++ ")"
    | none, some path => "content(" ++ path ++ ")"
    | none, none => "content(?)"
  | list items => "[" ++ ", ".intercalate (itemTexts items) ++ "]"

/-- The texts of all items. -/
def itemTexts : List Literal → List String
  | [] => []
  | item :: rest => toText item :: itemTexts rest

end

end Literal

end ContentQuery
