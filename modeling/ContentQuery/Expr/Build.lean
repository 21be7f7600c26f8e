/-
# Building expressions

The vocabulary in which queries are written: fields of the current item, conditions on text and
place in the tree, and the list of fields that a projection asks for.
-/

import ContentQuery.Expr.Basic

namespace ContentQuery.Expr

/-- A plain member. -/
def scalar (target : Expr) (name : String) : Expr := target.member name .scalar

/-- A member that refers to another item. -/
def referenceOf (target : Expr) (name : String) : Expr := target.member name .reference

/-- A plain field of the current item. -/
def field (name : String) : Expr := item.scalar name

/-- A field of the current item that refers to another item. -/
def reference (name : String) : Expr := item.referenceOf name

/-- Both conditions hold. -/
def and (left right : Expr) : Expr := .connect .and left right

/-- One of two conditions holds. -/
def or (left right : Expr) : Expr := .connect .or left right

/-- The text of a field starts with a text. -/
def startsWith (target start : Expr) : Expr := target.call "StartsWith" [start]

/-- The text of a field ends with a text. -/
def endsWith (target ending : Expr) : Expr := target.call "EndsWith" [ending]

/-- A text holds a text; or, where the receiver is a literal list, it holds the value of a field.
-/
def contains (target element : Expr) : Expr := target.call "Contains" [element]

/-- A field has a value. -/
def equalTo (target value : Expr) : Expr := target.call "Equals" [value]

/-- The current item lies below a path, or at it. -/
def inTree (path : Expr) : Expr := item.call "InTree" [path]

/-- The current item lies directly below a path. -/
def inFolder (path : Expr) : Expr := item.call "InFolder" [path]

/-- The current item is of a type or of a type below it. -/
def typeIs (typeName : String) : Expr := item.call "TypeIs" [literal (.type typeName)]

/-- The current item is of exactly a type. -/
def isType (typeName : String) : Expr := item.call "Type" [literal (.type typeName)]

/-- The fields that a projection asks for. -/
def project (fields : List Expr) : Expr := invoke "Project" fields

/-- A function of the current item: the expression itself if it is one, else with it as the body.
-/
def asLambda : Expr → Expr
  | lambda body => lambda body
  | body => lambda body

/-- The body of a function, or the expression itself if it is none. -/
def lambdaBody : Expr → Expr
  | lambda body => body
  | body => body

end ContentQuery.Expr
