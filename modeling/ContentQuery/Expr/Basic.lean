/-
# Query expressions

A query is an expression: a chain of operator calls that starts at a source, whose arguments are
conditions and keys over the current item. Literals that the program around the query supplies are
captured under their names, already evaluated; nothing in an expression runs code.
-/

import ContentQuery.Literal

namespace ContentQuery

/-- The six comparisons. -/
inductive Comparison
  | eq
  | ne
  | gt
  | ge
  | lt
  | le
deriving DecidableEq, Repr

namespace Comparison

/-- The comparison that holds after its two sides trade places. -/
def flipped : Comparison → Comparison
  | gt => lt
  | ge => le
  | lt => gt
  | le => ge
  | eq => eq
  | ne => ne

/-- The symbol of a comparison. -/
def symbol : Comparison → String
  | eq => "=="
  | ne => "!="
  | gt => ">"
  | ge => ">="
  | lt => "<"
  | le => "<="

end Comparison

/-- The two connectives of conditions. -/
inductive Connective
  | and
  | or
deriving DecidableEq, Repr

/-- The symbol of a connective. -/
def Connective.symbol : Connective → String
  | and => "&&"
  | or => "||"

/-- What a member holds: a plain value, or a reference to another item. -/
inductive MemberKind
  | scalar
  | reference
deriving DecidableEq, Repr

/-- A query expression. -/
inductive Expr
  /-- The start of a chain: all items of a type. -/
  | source (typeName : String)
  /-- The current item. -/
  | item
  | literal (value : Literal)
  /-- A literal of the surrounding program, under the name it has there. -/
  | captured (name : String) (value : Literal)
  | member (target : Expr) (name : String) (kind : MemberKind)
  /-- Access to a field by its key. -/
  | index (target : Expr) (key : String)
  | compare (op : Comparison) (left right : Expr)
  | connect (op : Connective) (left right : Expr)
  | not (operand : Expr)
  | conditional (test positive negative : Expr)
  /-- A conversion; a nullable one wraps a plain value. -/
  | convert (operand : Expr) (nullable : Bool)
  /-- A call of a method on a receiver. -/
  | call (receiver : Expr) (method : String) (arguments : List Expr)
  /-- A call without a receiver. -/
  | invoke (function : String) (arguments : List Expr)
  /-- A function of the current item, given by its body. -/
  | lambda (body : Expr)

namespace Expr

/-- Whether an expression is the current item itself. -/
def isItem : Expr → Bool
  | item => true
  | _ => false

mutual

/-- Equality of structure; literals are compared by `Literal.equals`, so this is not reflexive on
an expression that holds the word that is no number. -/
def equals : Expr → Expr → Bool
  | source a, source b => a == b
  | item, item => true
  | literal a, literal b => a == b
  | captured a v, captured b w => a == b && v == w
  | member a m j, member b n k => equals a b && m == n && j == k
  | index a k, index b l => equals a b && k == l
  | compare o a b, compare p c d => o == p && equals a c && equals b d
  | connect o a b, connect p c d => o == p && equals a c && equals b d
  | not a, not b => equals a b
  | conditional a b c, conditional d e f => equals a d && equals b e && equals c f
  | convert a m, convert b n => equals a b && m == n
  | call r m as, call s n bs => m == n && equals r s && equalAll as bs
  | invoke m as, invoke n bs => m == n && equalAll as bs
  | lambda a, lambda b => equals a b
  | _, _ => false

/-- Equality of structure, one by one. -/
def equalAll : List Expr → List Expr → Bool
  | [], [] => true
  | a :: as, b :: bs => equals a b && equalAll as bs
  | _, _ => false

end

instance : BEq Expr := ⟨equals⟩

mutual

/-- The text of an expression. -/
def toText : Expr → String
  | source typeName => "source<" ++ typeName ++ ">"
  | item => "x"
  | literal value => value.toText
  | captured name _ => name
  | member target name _ => toText target ++ "." ++ name
  | index target key => toText target ++ "[\"" ++ key ++ "\"]"
  | compare op left right => "(" ++ toText left ++ " " ++ op.symbol ++ " " ++ toText right ++ ")"
  | connect op left right => "(" ++ toText left ++ " " ++ op.symbol ++ " " ++ toText right ++ ")"
  | not operand => "!" ++ toText operand
  | conditional test positive negative =>
    "(" ++ toText test ++ " ? " ++ toText positive ++ " : " ++ toText negative ++ ")"
  | convert operand nullable =>
    (if nullable then "Nullable(" else "Convert(") ++ toText operand ++ ")"
  | call receiver method arguments =>
    toText receiver ++ "." ++ method ++ "(" ++ ", ".intercalate (texts arguments) ++ ")"
  | invoke function arguments => function ++ "(" ++ ", ".intercalate (texts arguments) ++ ")"
  | lambda body => "x => " ++ toText body

/-- The texts of all expressions of a list. -/
def texts : List Expr → List String
  | [] => []
  | e :: rest => toText e :: texts rest

end

end Expr

end ContentQuery
