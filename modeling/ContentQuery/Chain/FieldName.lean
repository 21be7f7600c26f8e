/-
# Fields of the current item

Which expressions name a field of the index. Conversions around them do not matter. Two members of
a member are fields too: the name of the content type is the type of the item, and the number of a
referenced item is what the reference itself is indexed by.
-/

import ContentQuery.Expr.Basic

namespace ContentQuery.Expr

/-- The expression inside any number of conversions. -/
def stripConversions : Expr → Expr
  | convert operand _ => stripConversions operand
  | e => e

/-- The field that a member of a member of the current item stands for. -/
def aliasedField? (parent : String) (kind : MemberKind) (name : String) : Option String :=
  if parent = "ContentType" ∧ name = "Name" then some "Type"
  else if kind = .reference ∧ name = "Id" then some parent
  else none

/-- The field of the index that an expression names. -/
def fieldName? (e : Expr) : Option String :=
  match e.stripConversions with
  | member item name _ => some name
  | member (member item parent kind) name _ => aliasedField? parent kind name
  | index item key => some key
  | _ => none

end ContentQuery.Expr
