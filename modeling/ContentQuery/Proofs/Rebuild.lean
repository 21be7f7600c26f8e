/-
# Taking a node apart and rebuilding it

A node is its head, which is its kind and the data of its own, over its children. This module proves
that `children` and `withChildren` undo each other and that rebuilding keeps the head.

When a node is rebuilt from too few expressions, the current item stands in for the missing ones.
To say that this never happens, the children are drawn here one by one from the expressions that are
left, and a draw from nothing fails. Rebuilding by draws succeeds, and leaves nothing over, for as
many expressions as the node has children, and folding rebuilds no node from fewer.
-/

import ContentQuery.Expr.Build
import ContentQuery.Proofs.Folding

namespace ContentQuery.Expr

/-! ## Heads -/

/-- What a node is without its children. A call keeps the number of its arguments, and whether it
has a receiver. -/
inductive Head
  | source (typeName : String)
  | item
  | literal (value : Literal)
  | captured (name : String) (value : Literal)
  | member (name : String) (kind : MemberKind)
  | index (key : String)
  | compare (op : Comparison)
  | connect (op : Connective)
  | not
  | conditional
  | convert (nullable : Bool)
  | call (method : String) (hasReceiver : Bool) (count : Nat)
  | lambda

/-- The head of an expression. -/
def head : Expr → Head
  | source typeName => .source typeName
  | item => .item
  | literal value => .literal value
  | captured name value => .captured name value
  | member _ name kind => .member name kind
  | index _ key => .index key
  | compare op _ _ => .compare op
  | connect op _ _ => .connect op
  | not _ => .not
  | conditional _ _ _ => .conditional
  | convert _ nullable => .convert nullable
  | call _ method arguments => .call method true arguments.length
  | invoke function arguments => .call function false arguments.length
  | lambda _ => .lambda

/-- Rebuilding keeps the head, whatever the node is rebuilt from. -/
theorem head_withChildren (e : Expr) (others : List Expr) :
    (e.withChildren others).head = e.head := by
  cases e with
  | call receiver method arguments => simp only [withChildren, head, length_fill]
  | invoke function arguments => simp only [withChildren, head, length_fill]
  | _ => rfl

/-! ## Drawing children -/

/-- Takes the next of the expressions that are left; fails when none is left. -/
def draw : StateT (List Expr) Option Expr
  | [] => none
  | next :: rest => some (next, rest)

/-- Takes a number of expressions, one after the other. -/
def drawMany : Nat → StateT (List Expr) Option (List Expr)
  | 0 => return []
  | count + 1 => do
    let next ← draw
    return next :: (← drawMany count)

/-- A node rebuilt from expressions that are drawn in the order of `children`, the receiver of a
call first. -/
def rebuilt : Expr → StateT (List Expr) Option Expr
  | member _ name kind => return member (← draw) name kind
  | index _ key => return index (← draw) key
  | compare op _ _ => do
    let left ← draw
    return compare op left (← draw)
  | connect op _ _ => do
    let left ← draw
    return connect op left (← draw)
  | not _ => return not (← draw)
  | lambda _ => return lambda (← draw)
  | conditional _ _ _ => do
    let test ← draw
    let positive ← draw
    return conditional test positive (← draw)
  | convert _ nullable => return convert (← draw) nullable
  | call _ method arguments => do
    let receiver ← draw
    return call receiver method (← drawMany arguments.length)
  | invoke function arguments => return invoke function (← drawMany arguments.length)
  | e => return e

theorem drawMany_run (others : List Expr) :
    (drawMany others.length).run others = some (others, []) := by
  induction others with
  | nil => rfl
  | cons next rest ih =>
      show ((next :: ·) <$> drawMany rest.length).run rest = _
      rw [StateT.run_map, ih]
      rfl

theorem drawMany_run_of_lt {count : Nat} {others : List Expr} (hfew : others.length < count) :
    (drawMany count).run others = none := by
  induction others generalizing count with
  | nil =>
      obtain ⟨less, rfl⟩ := Nat.exists_eq_add_one_of_ne_zero (Nat.ne_of_gt hfew)
      rfl
  | cons next rest ih =>
      obtain ⟨less, rfl⟩ := Nat.exists_eq_add_one_of_ne_zero (Nat.ne_zero_of_lt hfew)
      show ((next :: ·) <$> drawMany less).run rest = _
      rw [StateT.run_map, ih (Nat.lt_of_succ_lt_succ hfew)]
      rfl

/-- From as many expressions as there are children, drawing rebuilds what `withChildren` does, and
nothing is left over. -/
theorem rebuilt_run {e : Expr} {others : List Expr}
    (hlength : others.length = e.children.length) :
    e.rebuilt.run others = some (e.withChildren others, []) := by
  cases e with
  | source | item | literal | captured =>
      obtain rfl := List.length_eq_zero_iff.mp hlength
      rfl
  | member | index | not | lambda | convert =>
      obtain ⟨child, rfl⟩ := List.length_eq_one_iff.mp hlength
      rfl
  | compare | connect =>
      obtain ⟨left, right, rfl⟩ := List.length_eq_two.mp hlength
      rfl
  | conditional =>
      obtain ⟨test, positive, negative, rfl⟩ := List.length_eq_three.mp hlength
      rfl
  | call receiver method arguments =>
      obtain ⟨other, rest, rfl⟩ := List.exists_cons_of_length_eq_add_one hlength
      have hrest : rest.length = arguments.length := Nat.succ.inj hlength
      show ((call other method ·) <$> drawMany arguments.length).run rest = _
      rw [StateT.run_map, ← hrest, drawMany_run]
      show some (call other method rest, []) =
        some (call other method (fill arguments.length rest), [])
      rw [fill_of_length_eq hrest]
  | invoke function arguments =>
      have hothers : others.length = arguments.length := hlength
      show ((invoke function ·) <$> drawMany arguments.length).run others = _
      rw [StateT.run_map, ← hothers, drawMany_run]
      show some (invoke function others, []) =
        some (invoke function (fill arguments.length others), [])
      rw [fill_of_length_eq hothers]

/-- From fewer expressions than there are children, some draw fails. -/
theorem rebuilt_run_of_lt {e : Expr} {others : List Expr}
    (hfew : others.length < e.children.length) : e.rebuilt.run others = none := by
  cases e with
  | source | item | literal | captured => cases hfew
  | member | index | not | lambda | convert =>
      obtain rfl := List.length_eq_zero_iff.mp (Nat.lt_one_iff.mp hfew)
      rfl
  | compare | connect =>
      match others, hfew with
      | [], _ | [_], _ => rfl
  | conditional =>
      match others, hfew with
      | [], _ | [_], _ | [_, _], _ => rfl
  | call receiver method arguments =>
      match others, hfew with
      | [], _ => rfl
      | other :: rest, hfew =>
          show ((call other method ·) <$> drawMany arguments.length).run rest = _
          rw [StateT.run_map, drawMany_run_of_lt (Nat.lt_of_succ_lt_succ hfew)]
          rfl
  | invoke function arguments =>
      have hshort : others.length < arguments.length := hfew
      show ((invoke function ·) <$> drawMany arguments.length).run others = _
      rw [StateT.run_map, drawMany_run_of_lt hshort]
      rfl

/-! ## Folding by draws -/

/-- The folding of an expression, with every node rebuilt from draws. -/
def foldByDraws (table : Array Mark) (e : Expr) : StateT Nat Option Expr := do
  match table[← get]? with
  | none => return e
  | some mark =>
    if mark.closed then
      modify (· + mark.span)
      return e.evaluated
    else
      modify (· + 1)
      let folded ← e.children.attach.mapM fun ⟨child, _⟩ => foldByDraws table child
      return (← e.rebuilt.run folded).1
termination_by sizeOf e
decreasing_by exact sizeOf_lt_of_mem_children ‹_›

theorem foldByDraws_eq (table : Array Mark) (e : Expr) :
    foldByDraws table e = do
      match table[← get]? with
      | none => return e
      | some mark =>
        if mark.closed then
          modify (· + mark.span)
          return e.evaluated
        else
          modify (· + 1)
          let folded ← e.children.mapM (foldByDraws table)
          return (← e.rebuilt.run folded).1 := by
  rw [foldByDraws]; simp [List.mapM_subtype]

/-- A walk over a list gives as many results as the list has members. -/
theorem length_mapM_run (walk : Expr → StateM Nat Expr) (es : List Expr) (cursor : Nat) :
    ((es.mapM walk).run cursor).1.length = es.length := by
  induction es generalizing cursor with
  | nil => rfl
  | cons e rest ih =>
      rw [List.mapM_cons, StateT.run_bind]
      show ((((walk e).run cursor).1 :: ·) <$> rest.mapM walk).run ((walk e).run cursor).2
        |>.1.length = _
      rw [StateT.run_map]
      exact congrArg (· + 1) (ih ((walk e).run cursor).2)

theorem mapM_foldByDraws_run (table : Array Mark) (es : List Expr)
    (hstep : ∀ e ∈ es, ∀ cursor,
      (foldByDraws table e).run cursor = some ((foldWith table e).run cursor)) (cursor : Nat) :
    (es.mapM (foldByDraws table)).run cursor = some ((es.mapM (foldWith table)).run cursor) := by
  induction es generalizing cursor with
  | nil => rfl
  | cons e rest ih =>
      have hrest := ih (fun child hmem => hstep child (List.mem_cons_of_mem e hmem))
        ((foldWith table e).run cursor).2
      rw [List.mapM_cons, List.mapM_cons, StateT.run_bind, StateT.run_bind,
        hstep e List.mem_cons_self]
      show ((((foldWith table e).run cursor).1 :: ·) <$> rest.mapM (foldByDraws table)).run
        ((foldWith table e).run cursor).2 = _
      rw [StateT.run_map, hrest]
      rfl

/-- Folding rebuilds every node from as many expressions as the node has children. -/
theorem foldByDraws_run (table : Array Mark) (e : Expr) (cursor : Nat) :
    (foldByDraws table e).run cursor = some ((foldWith table e).run cursor) := by
  induction e using induction_on_children generalizing cursor with
  | step e ih =>
      rw [foldByDraws_eq, foldWith_eq, StateT.run_bind, StateT.run_bind, StateT.run_get,
        StateT.run_get, pure_bind, pure_bind]
      cases table[cursor]? with
      | none => rfl
      | some mark =>
          cases hclosed : mark.closed with
          | true =>
              simp only [hclosed, if_true]
              rfl
          | false =>
              -- Only here do the two differ: one has a stand-in for a missing child, one fails.
              have hfolded := mapM_foldByDraws_run table e.children ih (cursor + 1)
              have hlength := length_mapM_run (foldWith table) e.children (cursor + 1)
              simp only [hclosed, Bool.false_eq_true, if_false]
              show (do
                let folded ← e.children.mapM (foldByDraws table)
                return (← e.rebuilt.run folded).1 : StateT Nat Option Expr).run (cursor + 1) = _
              rw [StateT.run_bind, hfolded]
              show (do
                return (← e.rebuilt.run ((e.children.mapM (foldWith table)).run (cursor + 1)).1).1
                : StateT Nat Option Expr).run
                  ((e.children.mapM (foldWith table)).run (cursor + 1)).2 = _
              rw [rebuilt_run hlength]
              rfl

/-- Taking apart and rebuilding undo each other. A node is what its own children make of it; other
expressions, as many as it has children, become its children in their order, under the head of the
node, and each of them is drawn once. From fewer some draw fails, and no draw of a folding does. -/
theorem withChildren_inverse_children (e : Expr) :
    e.withChildren e.children = e ∧
      (∀ others : List Expr, others.length = e.children.length →
        (e.withChildren others).children = others ∧ (e.withChildren others).head = e.head ∧
          e.rebuilt.run others = some (e.withChildren others, [])) ∧
      (∀ others : List Expr, others.length < e.children.length → e.rebuilt.run others = none) ∧
      ∀ (table : Array Mark) (cursor : Nat),
        (foldByDraws table e).run cursor = some ((foldWith table e).run cursor) := by
  refine ⟨withChildren_children e, ?_, fun others => rebuilt_run_of_lt,
    fun table cursor => foldByDraws_run table e cursor⟩
  intro others hlength
  exact ⟨children_withChildren hlength, head_withChildren e others, rebuilt_run hlength⟩

/-- A call on a receiver with two arguments, rebuilt from three expressions and from two. -/
theorem withChildren_inverse_children_of_call :
    let e := (field "Age").call "Between" [captured "low" (.int 1), captured "high" (.int 9)]
    let others := [field "Size", literal (.int 1), literal (.int 9)]
    others.length = e.children.length ∧
      (e.withChildren others).children = others ∧ (e.withChildren others).head = e.head ∧
      e.rebuilt.run others = some (e.withChildren others, []) ∧
      (others.take 2).length < e.children.length ∧ e.rebuilt.run (others.take 2) = none := by
  intro e others
  obtain ⟨-, hsame, hfew, -⟩ := withChildren_inverse_children e
  obtain ⟨hchildren, hhead, hdrawn⟩ := hsame others rfl
  have hshort : (others.take 2).length < e.children.length := Nat.lt_succ_self 2
  exact ⟨rfl, hchildren, hhead, hdrawn, hshort, hfew (others.take 2) hshort⟩

end ContentQuery.Expr
