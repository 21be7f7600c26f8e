/-
# Folding of closed parts

Before a query is compiled, every largest part of it that does not look at the current item is
replaced by its value, if it has one. The work is done in two walks. The first marks each node, in
the order in which a walk from the root meets them, with whether its part is closed and how many
nodes the part has. The second builds the new tree with a cursor into those marks: past a closed
part the cursor jumps by the part's span, elsewhere it steps to the first child.
-/

import ContentQuery.Expr.Children
import ContentQuery.Expr.Evaluate

namespace ContentQuery.Expr

/-- What the first walk notes at a node. -/
structure Mark where
  /-- Neither the current item, nor a source, nor a nullable conversion occurs from here down. -/
  closed : Bool
  /-- How many nodes there are from here down, this one included. -/
  span : Nat
deriving DecidableEq, Repr

/-- Whether a node by itself keeps its part open. -/
def opens : Expr → Bool
  | item | source _ | convert _ true => true
  | _ => false

/-- Whether a node is the current item or a source. -/
def isOrigin : Expr → Bool
  | item | source _ => true
  | _ => false

/-- Whether the current item or a source occurs in an expression. -/
def mentionsItem (e : Expr) : Bool :=
  e.isOrigin || e.children.attach.any fun ⟨child, _⟩ => mentionsItem child
termination_by sizeOf e
decreasing_by exact sizeOf_lt_of_mem_children ‹_›

/-- Whether the current item or a source occurs, said along the children. -/
theorem mentionsItem_eq (e : Expr) :
    e.mentionsItem = (e.isOrigin || e.children.any mentionsItem) := by
  rw [mentionsItem]; simp

/-- The mark of a node from the marks of its children's parts, each headed by the child's own. -/
def Mark.ofParts (opens : Bool) (parts : List (List Mark)) : Mark :=
  { closed := !opens && parts.all fun part => (part.head?.map Mark.closed).getD true
    span := 1 + parts.flatten.length }

/-- The marks of all nodes of an expression, each node before its children. -/
def marks (e : Expr) : List Mark :=
  let parts := e.children.attach.map fun ⟨child, _⟩ => marks child
  Mark.ofParts e.opens parts :: parts.flatten
termination_by sizeOf e
decreasing_by exact sizeOf_lt_of_mem_children ‹_›

/-- The marks of an expression, said along the children. -/
theorem marks_eq (e : Expr) :
    e.marks = Mark.ofParts e.opens (e.children.map marks) :: (e.children.map marks).flatten := by
  rw [marks]; simp

/-- The expression as a literal if it has a value, else as it is. -/
def evaluated (e : Expr) : Expr :=
  match e.evaluate? with
  | some value => literal value
  | none => e

/-- Folds an expression whose mark the cursor points at, and moves the cursor past its part. -/
def foldWith (table : Array Mark) (e : Expr) : StateM Nat Expr := do
  match table[← get]? with
  | none => return e
  | some mark =>
    if mark.closed then
      modify (· + mark.span)
      return e.evaluated
    else
      modify (· + 1)
      return e.withChildren (← e.children.attach.mapM fun ⟨child, _⟩ => foldWith table child)
termination_by sizeOf e
decreasing_by exact sizeOf_lt_of_mem_children ‹_›

/-- The folding of an expression, said along the children. -/
theorem foldWith_eq (table : Array Mark) (e : Expr) :
    foldWith table e = do
      match table[← get]? with
      | none => return e
      | some mark =>
        if mark.closed then
          modify (· + mark.span)
          return e.evaluated
        else
          modify (· + 1)
          return e.withChildren (← e.children.mapM (foldWith table)) := by
  rw [foldWith]; simp [List.mapM_subtype]

/-- An expression with its largest closed parts replaced by their values. One that nowhere
mentions an item or a source is not a query over items, and stays as it is. -/
def fold (e : Expr) : Expr :=
  if e.mentionsItem then (foldWith e.marks.toArray e |>.run 0).1 else e

end ContentQuery.Expr
