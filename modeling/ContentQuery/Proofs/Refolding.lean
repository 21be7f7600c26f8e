/-
# Folding an expression again

Folding puts literals in the places of larger parts, so a folded expression has a table of its own,
and a second folding goes by that one. This module proves that the second folding changes nothing.
What carries the proof is that folding changes no verdict: a closed part is closed after it, whether
it has become its value or has none, and an open part is open after it, at the address that it had.

Not everything closed is a literal after a folding. A part without a value stays as it is, also with
parts in it that would have one, and the second folding leaves it alone for the same reason.
-/

import ContentQuery.Proofs.FoldCursor
import ContentQuery.Proofs.Rebuild

namespace ContentQuery.Expr

/-! ## The second folding -/

theorem foldParts_foldParts (e : Expr) : e.foldParts.foldParts = e.foldParts := by
  induction e using induction_on_children with
  | step e ih =>
      rcases foldParts_cases e with ⟨value, -, -, hfold⟩ | ⟨-, -, hfold⟩ | ⟨hopen, hfold⟩
      · rw [hfold, foldParts_literal]
      · rw [hfold, hfold]
      · refine foldParts_eq_self (by rw [closed_foldParts, hopen]) ?_
        rw [hfold, children_withChildren_map]
        exact List.forall_mem_map.mpr ih

theorem fold_fold (e : Expr) : e.fold.fold = e.fold := by
  cases hmentions : e.mentionsItem with
  | true =>
      rw [fold_eq_foldParts (by rw [mentionsItem_fold, hmentions]), fold_eq_foldParts hmentions,
        foldParts_foldParts]
  | false => rw [fold_of_not_mentionsItem hmentions, fold_of_not_mentionsItem hmentions]

/-! ## Open parts keep their places -/

theorem closed_nodeAt? {e node : Expr} {address : List Nat} (hclosed : e.closed = true)
    (hnode : e.nodeAt? address = some node) : node.closed = true := by
  induction address generalizing e with
  | nil =>
      cases hnode
      exact hclosed
  | cons number address ih =>
      obtain ⟨child, hchild, hnode⟩ := Option.bind_eq_some_iff.mp hnode
      exact ih (closed_of_mem_children hclosed (List.mem_of_getElem? hchild)) hnode

/-- An open part is still where it was, folded. All parts around it are open, so folding keeps each
of them in its place too. -/
theorem nodeAt?_foldParts {e node : Expr} {address : List Nat}
    (hnode : e.nodeAt? address = some node) (hopen : node.closed = false) :
    e.foldParts.nodeAt? address = some node.foldParts := by
  induction address generalizing e with
  | nil =>
      cases hnode
      rfl
  | cons number address ih =>
      obtain ⟨child, hchild, hbelow⟩ := Option.bind_eq_some_iff.mp hnode
      have hwhole : e.closed = false := by
        refine Bool.eq_false_iff.mpr fun hclosed => ?_
        rw [closed_nodeAt? hclosed hnode] at hopen
        cases hopen
      rw [foldParts_of_open hwhole, nodeAt?, children_withChildren_map, List.getElem?_map, hchild]
      exact ih hbelow

theorem head_foldParts {e : Expr} (hopen : e.closed = false) : e.foldParts.head = e.head := by
  rw [foldParts_of_open hopen, head_withChildren]

/-- At the address of an open part there is an open part with the same head after the folding. -/
theorem exists_nodeAt?_fold {e node : Expr} {address : List Nat}
    (hnode : e.nodeAt? address = some node) (hopen : node.closed = false) :
    ∃ image, e.fold.nodeAt? address = some image ∧ image.head = node.head ∧
      image.closed = false := by
  cases hmentions : e.mentionsItem with
  | true =>
      rw [fold_eq_foldParts hmentions]
      exact ⟨node.foldParts, nodeAt?_foldParts hnode hopen, head_foldParts hopen,
        (closed_foldParts node).trans hopen⟩
  | false =>
      rw [fold_of_not_mentionsItem hmentions]
      exact ⟨node, hnode, rfl, hopen⟩

/-- Folding is stable. A second folding changes nothing; an item or a source occurs after folding
exactly if one did before; and where the table of the expression marks a part as open, there is a
part with the same head at the same address of the folded expression, and its table marks it as
open. -/
theorem fold_stable (e : Expr) :
    e.fold.fold = e.fold ∧ e.fold.nodes.any isOrigin = e.nodes.any isOrigin ∧
      ∀ (address : List Nat) (node : Expr) (found : Mark), e.nodeAt? address = some node →
        e.marks[e.offset address]? = some found → found.closed = false →
          ∃ (image : Expr) (again : Mark), e.fold.nodeAt? address = some image ∧
            image.head = node.head ∧ e.fold.marks[e.fold.offset address]? = some again ∧
            again.closed = false := by
  refine ⟨fold_fold e, ?_, ?_⟩
  · rw [← mentionsItem_eq_nodes, ← mentionsItem_eq_nodes, mentionsItem_fold]
  · intro address node found hnode hfound hopen
    obtain rfl : node.mark = found :=
      Option.some.inj ((getElem?_marks_offset hnode).symm.trans hfound)
    obtain ⟨image, himage, hhead, himageOpen⟩ := exists_nodeAt?_fold hnode hopen
    exact ⟨image, image.mark, himage, hhead, getElem?_marks_offset himage, himageOpen⟩

/-- A nullable conversion of a capture stays open, at the same address but at another place in the
table, as the part before it has become one literal. -/
theorem fold_stable_of_nullable :
    let limit := convert (captured "limit" (.int 5)) true
    let flag := not (captured "flag" (.bool false))
    let e := invoke "Any" [flag, compare .gt (field "Age") limit]
    e.nodeAt? [1, 1] = some limit ∧ e.marks[e.offset [1, 1]]? = some ⟨false, 2⟩ ∧
      e.offset [1, 1] = 6 ∧ e.fold.offset [1, 1] = 5 ∧ e.fold.fold = e.fold ∧
      ∃ (image : Expr) (again : Mark), e.fold.nodeAt? [1, 1] = some image ∧
        image.head = limit.head ∧ e.fold.marks[e.fold.offset [1, 1]]? = some again ∧
        again.closed = false := by
  intro limit flag e
  have hmark : e.marks[e.offset [1, 1]]? = some ⟨false, 2⟩ := by
    cbv
  have hoffset : e.offset [1, 1] = 6 := by
    cbv
  have hfolded : e.fold.offset [1, 1] = 5 := by
    cbv
  obtain ⟨hagain, -, hopen⟩ := fold_stable e
  exact ⟨rfl, hmark, hoffset, hfolded, hagain, hopen [1, 1] limit ⟨false, 2⟩ rfl hmark rfl⟩

end ContentQuery.Expr
