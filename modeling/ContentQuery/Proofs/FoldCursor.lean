/-
# The cursor of the folding

`Folding` shows that folding with a table of marks is the recursion along the children. This module
looks at the way there. A node of an expression has an address, the numbers of the children on the
way to it, and the nodes are listed in the order of the table, each before its children. Whenever
the folding comes to a node, the cursor is at the place of that very node in the list: it is inside
the table, and the mark there is the mark of that node.

It is the address that is followed, and not the node, since an expression may hold equal nodes in
several places.
-/

import Mathlib
import ContentQuery.Proofs.Folding

namespace ContentQuery.Expr

/-! ## Nodes and addresses -/

/-- All nodes of an expression, each before its children. -/
def nodes (e : Expr) : List Expr :=
  e :: e.children.attach.flatMap fun ⟨child, _⟩ => nodes child
termination_by sizeOf e
decreasing_by exact sizeOf_lt_of_mem_children ‹_›

/-- The nodes of an expression, said along the children. -/
theorem nodes_eq (e : Expr) : e.nodes = e :: e.children.flatMap nodes := by
  rw [nodes]; simp

/-- The node at an address; the numbers of the children lead there from the root. -/
def nodeAt? (e : Expr) : List Nat → Option Expr
  | [] => some e
  | number :: address => e.children[number]?.bind (nodeAt? · address)

/-- How many nodes there are before the one at an address. -/
def offset (e : Expr) : List Nat → Nat
  | [] => 0
  | number :: address =>
    1 + ((e.children.take number).flatMap nodes).length +
      (e.children[number]?.map (offset · address)).getD 0

/-- A part is closed if it has no item, no source and no nullable conversion among its nodes. -/
theorem closed_eq_nodes (e : Expr) : e.closed = !e.nodes.any opens := by
  induction e using induction_on_children with
  | step e ih =>
      rw [closed_eq, nodes_eq, List.any_cons, List.any_flatMap, Bool.not_or,
        List.not_any_eq_all_not, all_congr_of_mem ih]

theorem mentionsItem_eq_nodes (e : Expr) : e.mentionsItem = e.nodes.any isOrigin := by
  induction e using induction_on_children with
  | step e ih =>
      rw [mentionsItem_eq, nodes_eq, List.any_cons, List.any_flatMap, any_congr_of_mem ih]

/-- The mark of a node: whether its part is closed, and how many nodes the part has. -/
def mark (e : Expr) : Mark := ⟨e.closed, e.nodes.length⟩

/-- The table holds the marks of the nodes, in their order. -/
theorem marks_eq_nodes (e : Expr) : e.marks = e.nodes.map mark := by
  induction e using induction_on_children with
  | step e ih =>
      have hparts : (e.children.map marks).flatten = (e.children.flatMap nodes).map mark := by
        rw [List.map_flatMap, List.flatMap_def, List.map_congr_left ih]
      have hlength : e.marks.length = e.nodes.length := by
        rw [marks_eq, List.length_cons, hparts, List.length_map, nodes_eq, List.length_cons]
      rw [marks_eq_cons, hparts, hlength, nodes_eq, List.map_cons, mark, nodes_eq]

theorem length_flatten_marks (es : List Expr) :
    (es.map marks).flatten.length = (es.flatMap nodes).length := by
  have hmarks : es.map marks = es.map (List.map mark ∘ nodes) :=
    List.map_congr_left fun e _ => marks_eq_nodes e
  rw [hmarks, ← List.map_map, ← List.map_flatten, List.length_map, List.flatMap_def]

/-- What is listed along the children stands on both sides of what is listed for one of them. -/
theorem flatMap_children_eq_append {β : Type} (f : Expr → List β) {e child : Expr} {number : Nat}
    (hchild : e.children[number]? = some child) :
    e.children.flatMap f = (e.children.take number).flatMap f ++
      (f child ++ (e.children.drop (number + 1)).flatMap f) := by
  obtain ⟨hnumber, rfl⟩ := List.getElem?_eq_some_iff.mp hchild
  rw [← List.flatMap_cons, ← List.flatMap_append, ← List.drop_eq_getElem_cons hnumber,
    List.take_append_drop]

/-- The address of a node leads to its place in the list. -/
theorem getElem?_nodes_offset {e node : Expr} {address : List Nat}
    (hnode : e.nodeAt? address = some node) : e.nodes[e.offset address]? = some node := by
  induction address generalizing e with
  | nil =>
      rw [nodes_eq]
      exact hnode
  | cons number address ih =>
      obtain ⟨child, hchild, hnode⟩ := Option.bind_eq_some_iff.mp hnode
      have hoffset : e.offset (number :: address) =
          ((e.children.take number).flatMap nodes).length + child.offset address + 1 := by
        rw [offset, hchild, Option.map_some, Option.getD_some]
        omega
      have hinside := ih hnode
      obtain ⟨hlt, -⟩ := List.getElem?_eq_some_iff.mp hinside
      rw [hoffset, nodes_eq, flatMap_children_eq_append nodes hchild, List.getElem?_cons_succ,
        List.getElem?_append_right (Nat.le_add_right _ _), Nat.add_sub_cancel_left,
        List.getElem?_append_left hlt, hinside]

/-- The mark of a node is at the place of the node. -/
theorem getElem?_marks_offset {e node : Expr} {address : List Nat}
    (hnode : e.nodeAt? address = some node) : e.marks[e.offset address]? = some node.mark := by
  rw [marks_eq_nodes, List.getElem?_map, getElem?_nodes_offset hnode, Option.map_some]

/-! ## The way of the cursor -/

/-- `Visits table e cursor address node position` says that the folding of `e`, begun with the
cursor at `cursor`, comes to the node at an address below `e`, with the cursor at `position`. There
is one rule for the call itself and one for the calls that it makes: below a node whose mark is
open, each child is folded with the cursor that the children before it have left. -/
inductive Visits (table : Array Mark) : Expr → Nat → List Nat → Expr → Nat → Prop
  | here {e : Expr} {cursor : Nat} : Visits table e cursor [] e cursor
  | child {e child node : Expr} {cursor number position : Nat} {address : List Nat} {found : Mark}
      (hmark : table[cursor]? = some found) (hopen : found.closed = false)
      (hchild : e.children[number]? = some child)
      (hvisits : Visits table child
        (((e.children.take number).mapM (foldWith table)).run (cursor + 1)).2
        address node position) :
      Visits table e cursor (number :: address) node position

/-- Where the marks of an expression stand in the table, the folding comes to its nodes with the
cursor at their places. -/
theorem Visits.position_eq {table : Array Mark} {e node : Expr} {cursor position : Nat}
    {address : List Nat} (hvisits : Visits table e cursor address node position)
    (before after : List Mark) (htable : table.toList = before ++ (e.marks ++ after))
    (hcursor : cursor = before.length) :
    e.nodeAt? address = some node ∧ position = before.length + e.offset address := by
  induction hvisits generalizing before after with
  | here => exact ⟨rfl, hcursor⟩
  | child hmark hopen hchild hvisits ih =>
      rename_i e child node cursor number position address found
      rw [marks_eq_cons, ← List.flatMap_def, flatMap_children_eq_append marks hchild,
        List.flatMap_def, List.flatMap_def] at htable
      -- The children before this one move the cursor to where its marks begin.
      have hearlier := mapM_foldWith_run table (e.children.take number)
        (fun e _ => foldWith_run table e) (before ++ [⟨e.closed, e.marks.length⟩])
        (child.marks ++ ((e.children.drop (number + 1)).map marks).flatten ++ after) (by
          rw [htable]
          simp only [List.append_assoc, List.cons_append, List.nil_append])
      rw [List.length_append, List.length_singleton, ← hcursor] at hearlier
      rw [hearlier] at ih
      obtain ⟨hnode, hposition⟩ := ih
        (before ++ ⟨e.closed, e.marks.length⟩ :: ((e.children.take number).map marks).flatten)
        (((e.children.drop (number + 1)).map marks).flatten ++ after)
        (by
          rw [htable]
          simp only [List.append_assoc, List.cons_append])
        (by
          rw [List.length_append, List.length_cons, hcursor]
          omega)
      refine ⟨Option.bind_eq_some_iff.mpr ⟨child, hchild, hnode⟩, ?_⟩
      rw [hposition, offset, hchild, Option.map_some, Option.getD_some, List.length_append,
        List.length_cons, length_flatten_marks]
      omega

/-- Wherever the folding of an expression comes to a node, the cursor is in the table, at the place
of that node and at its mark. -/
theorem Visits.getElem?_marks {e node : Expr} {address : List Nat} {position : Nat}
    (hvisits : Visits e.marks.toArray e 0 address node position) :
    e.nodeAt? address = some node ∧ position = e.offset address ∧
      e.nodes[position]? = some node ∧ e.marks[position]? = some node.mark := by
  obtain ⟨hnode, hposition⟩ := hvisits.position_eq [] []
    (by rw [List.append_nil, List.nil_append]) rfl
  rw [List.length_nil, Nat.zero_add] at hposition
  subst hposition
  exact ⟨hnode, rfl, getElem?_nodes_offset hnode, getElem?_marks_offset hnode⟩

/-- The recursion along the children, said with the nodes of a part: one with an item, a source or a
nullable conversion among them keeps its place and its children are folded; any other becomes its
value if it has one. -/
theorem foldParts_eq_nodes (e : Expr) : e.foldParts =
    if e.nodes.any opens then e.withChildren (e.children.map foldParts)
    else (e.evaluate?.map literal).getD e := by
  have hclosed := closed_eq_nodes e
  cases hopens : e.nodes.any opens with
  | true =>
      rw [hopens] at hclosed
      exact foldParts_of_open hclosed
  | false =>
      rw [hopens] at hclosed
      rw [foldParts_of_closed hclosed, evaluated]
      cases e.evaluate? <;> rfl

/-- For an expression with an item or a source among its nodes, folding with the table is the
recursion without it. On the way the cursor is always in the table, at the place and the mark of
the node that the folding has come to, and at the end it is past the last mark. -/
theorem fold_eq_foldParts_of_origin {e : Expr} (horigin : e.nodes.any isOrigin = true) :
    e.fold = e.foldParts ∧
      (∀ part : Expr, part.foldParts =
        if part.nodes.any opens then part.withChildren (part.children.map foldParts)
        else (part.evaluate?.map literal).getD part) ∧
      (∀ (address : List Nat) (node : Expr) (position : Nat),
        Visits e.marks.toArray e 0 address node position →
          e.nodeAt? address = some node ∧ position = e.offset address ∧
            e.nodes[position]? = some node ∧
            e.marks[position]? = some ⟨!node.nodes.any opens, node.nodes.length⟩) ∧
      (foldWith e.marks.toArray e).run 0 = (e.foldParts, e.nodes.length) := by
  refine ⟨?_, foldParts_eq_nodes, ?_, ?_⟩
  · refine fold_eq_foldParts ?_
    rwa [mentionsItem_eq_nodes]
  · intro address node position hvisits
    rw [← closed_eq_nodes]
    exact hvisits.getElem?_marks
  · have hrun := foldWith_run e.marks.toArray e [] [] (by
      rw [List.append_nil, List.nil_append])
    rw [List.length_nil, Nat.zero_add] at hrun
    rw [hrun, marks_eq_nodes, List.length_map]

/-- A comparison with a field, after an argument whose one mark the cursor skips. -/
theorem fold_eq_foldParts_of_argument :
    let limit := captured "limit" (.int 5)
    let test := compare .gt (member item "Age" .scalar) limit
    let e := invoke "Project" [limit, test]
    e.nodes.any isOrigin = true ∧ e.fold = e.foldParts ∧
      Visits e.marks.toArray e 0 [1] test 2 ∧ e.nodes[2]? = some test := by
  intro limit test e
  have horigin : e.nodes.any isOrigin = true := by
    cbv
  have hmark : e.marks.toArray[0]? = some ⟨false, 6⟩ := by
    cbv
  have hcursor : (((e.children.take 1).mapM (foldWith e.marks.toArray)).run (0 + 1)).2 = 2 := by
    cbv
  have hvisits : Visits e.marks.toArray e 0 [1] test 2 := by
    refine .child hmark rfl rfl ?_
    rw [hcursor]
    exact .here
  obtain ⟨hfold, -, hplaces, -⟩ := fold_eq_foldParts_of_origin horigin
  exact ⟨horigin, hfold, hvisits, (hplaces [1] test 2 hvisits).2.2.1⟩

end ContentQuery.Expr
