/-
# Values in the places of parts

A part that has a value can be replaced by the value before the whole is evaluated, and any number
of parts can be replaced at once, as long as none of them is inside another. This module proves that
the evaluation of the whole does not see the difference: it has the same value as before, or as
before it has none.

Parts are named by their addresses, since an expression may hold one part in several places of which
only some are replaced. Nothing is asked of the whole: a replaced part may be an operand that
evaluation never looks at, or lie below a node that has no value whatever its parts are.
-/

import ContentQuery.Expr.Build
import ContentQuery.Proofs.FoldCursor
import ContentQuery.Proofs.Rebuild

namespace ContentQuery.Expr

/-- Literals for some places of an expression, by the addresses of the places. -/
abbrev Substitution := List Nat → Option Literal

/-- The literals for the places at an address and below, by the addresses from there. -/
def Substitution.below (literals : Substitution) (address : List Nat) : Substitution :=
  fun rest => literals (address ++ rest)

/-- An expression with literals in places of it. Where two places are one inside the other, the
outer one counts. -/
def substituted (e : Expr) (literals : Substitution) : Expr :=
  match literals [] with
  | some value => literal value
  | none => e.withChildren (List.ofFn fun number : Fin e.children.length =>
      (e.children.get number).substituted (literals.below [number.val]))
termination_by sizeOf e
decreasing_by exact sizeOf_lt_of_mem_children (List.get_mem _ _)

/-- The literals are the values of parts of an expression, and no place is inside another. -/
structure Substitution.IsEvaluated (literals : Substitution) (e : Expr) : Prop where
  valued : ∀ (address : List Nat) (value : Literal), literals address = some value →
    ∃ part, e.nodeAt? address = some part ∧ part.evaluate? = some value
  disjoint : ∀ (address rest : List Nat) (value other : Literal), literals address = some value →
    literals (address ++ rest) = some other → rest = []

theorem substituted_of_some {e : Expr} {literals : Substitution} {value : Literal}
    (hroot : literals [] = some value) : e.substituted literals = literal value := by
  rw [substituted, hroot]

theorem substituted_of_none {e : Expr} {literals : Substitution} (hroot : literals [] = none) :
    e.substituted literals = e.withChildren (List.ofFn fun number : Fin e.children.length =>
      (e.children.get number).substituted (literals.below [number.val])) := by
  rw [substituted, hroot]

/-- Below a place that is not substituted itself, each child is substituted. -/
theorem getElem?_children_substituted {e : Expr} {literals : Substitution}
    (hroot : literals [] = none) (number : Nat) :
    (e.substituted literals).children[number]? =
      e.children[number]?.map (·.substituted (literals.below [number])) := by
  rw [substituted_of_none hroot, children_withChildren List.length_ofFn, List.getElem?_ofFn]
  by_cases hnumber : number < e.children.length
  · rw [dif_pos hnumber, List.getElem?_eq_getElem hnumber]
    rfl
  · rw [dif_neg hnumber, List.getElem?_eq_none (Nat.le_of_not_lt hnumber)]
    rfl

/-- At an address that no place is above, there is the part that was there, substituted. -/
theorem nodeAt?_substituted {e part : Expr} {literals : Substitution} {address : List Nat}
    (hpart : e.nodeAt? address = some part)
    (hfree : ∀ before, before <+: address → before ≠ address → literals before = none) :
    (e.substituted literals).nodeAt? address =
      some (part.substituted (literals.below address)) := by
  induction address generalizing e literals with
  | nil =>
      cases hpart
      rfl
  | cons number address ih =>
      obtain ⟨child, hchild, hpart⟩ := Option.bind_eq_some_iff.mp hpart
      have hroot : literals [] = none := hfree [] List.nil_prefix (List.cons_ne_nil _ _).symm
      rw [nodeAt?, getElem?_children_substituted hroot, hchild]
      refine ih hpart fun before habove hne => ?_
      refine hfree (number :: before) (List.cons_prefix_cons.mpr ⟨rfl, habove⟩) fun heq => ?_
      exact hne (List.cons.inj heq).2

namespace Substitution.IsEvaluated

variable {literals : Substitution} {e : Expr}

theorem below (heval : literals.IsEvaluated e) {child : Expr} {number : Nat}
    (hchild : e.children[number]? = some child) :
    (literals.below [number]).IsEvaluated child where
  valued := by
    intro address value hvalue
    obtain ⟨part, hpart, hpartValue⟩ := heval.valued (number :: address) value hvalue
    rw [nodeAt?, hchild] at hpart
    exact ⟨part, hpart, hpartValue⟩
  disjoint := fun address rest => heval.disjoint (number :: address) rest

/-- No place is above another. -/
theorem eq_none_above (heval : literals.IsEvaluated e) {before address : List Nat}
    {value : Literal} (hvalue : literals address = some value) (habove : before <+: address)
    (hne : before ≠ address) : literals before = none := by
  obtain ⟨rest, rfl⟩ := habove
  cases hbefore : literals before with
  | none => rfl
  | some other =>
      obtain rfl := heval.disjoint before rest other value hbefore hvalue
      exact absurd (List.append_nil before).symm hne

/-- The whole has the same value, or none again. The step is that a node has the value that the
values of its children give it; a place itself has the value of the part that was there. -/
theorem evaluate?_substituted (heval : literals.IsEvaluated e) :
    (e.substituted literals).evaluate? = e.evaluate? := by
  induction e using induction_on_children generalizing literals with
  | step e ih =>
      cases hroot : literals [] with
      | some value =>
          obtain ⟨part, hpart, hvalue⟩ := heval.valued [] value hroot
          cases hpart
          rw [substituted_of_some hroot, hvalue]
          rfl
      | none =>
          have hchildren (number : Fin e.children.length) :
              ((e.children.get number).substituted (literals.below [number.val])).evaluate? =
                (e.children.get number).evaluate? :=
            ih _ (List.get_mem _ _) (heval.below (List.getElem?_eq_getElem number.isLt))
          rw [substituted_of_none hroot]
          refine evaluate?_withChildren ?_
          rw [List.map_ofFn]
          calc List.ofFn (evaluate? ∘ fun number : Fin e.children.length =>
                (e.children.get number).substituted (literals.below [number.val]))
              = List.ofFn fun number : Fin e.children.length =>
                (e.children.get number).evaluate? :=
                congrArg List.ofFn (funext hchildren)
            _ = e.children.map evaluate? := List.ofFn_getElem_eq_map e.children evaluate?

end Substitution.IsEvaluated

/-- Evaluation is a congruence. With the values of any parts in the places of these parts, none of
them inside another, the whole has the value that it had, or none if it had none. Each of the places
holds its literal then, and every other address that is not below one of them holds a node with the
head that was there. -/
theorem evaluation_congruence {e : Expr} {literals : Substitution}
    (heval : literals.IsEvaluated e) :
    (e.substituted literals).evaluate? = e.evaluate? ∧
      (∀ (address : List Nat) (value : Literal), literals address = some value →
        (e.substituted literals).nodeAt? address = some (literal value)) ∧
      ∀ (address : List Nat) (part : Expr), e.nodeAt? address = some part →
        (∀ before, before <+: address → literals before = none) →
          ∃ image, (e.substituted literals).nodeAt? address = some image ∧
            image.head = part.head := by
  refine ⟨heval.evaluate?_substituted, ?_, ?_⟩
  · intro address value hvalue
    obtain ⟨part, hpart, -⟩ := heval.valued address value hvalue
    have hhere : literals.below address [] = some value := by
      rw [Substitution.below, List.append_nil, hvalue]
    rw [nodeAt?_substituted hpart fun before => heval.eq_none_above hvalue,
      substituted_of_some hhere]
  · intro address part hpart hfree
    have hhere : literals.below address [] = none := by
      rw [Substitution.below, List.append_nil, hfree address (List.prefix_refl address)]
    refine ⟨_, nodeAt?_substituted hpart fun before habove _ => hfree before habove, ?_⟩
    rw [substituted_of_none hhere, head_withChildren]

/-- A disjunction whose second operand has no value, as a field has none, but is never looked at: a
member of a capture is replaced in the first operand, and a capture in the second. -/
theorem evaluation_congruence_of_skipped_operand :
    let number := member (captured "owner" (.content ⟨some 7, none⟩)) "Id" .scalar
    let e := or (compare .lt (captured "limit" (.int 5)) number)
      (compare .eq (field "Age") (captured "age" (.int 3)))
    let literals : Substitution := fun address =>
      if address = [0, 1] then some (.int 7) else if address = [1, 1] then some (.int 3) else none
    literals.IsEvaluated e ∧ e.evaluate? = some (.bool true) ∧
      (e.substituted literals).evaluate? = some (.bool true) ∧
      (e.substituted literals).nodeAt? [0, 1] = some (literal (.int 7)) ∧
      (e.substituted literals).nodeAt? [1, 1] = some (literal (.int 3)) ∧
      ∃ image, (e.substituted literals).nodeAt? [1, 0] = some image ∧
        image.head = (field "Age").head := by
  intro number e literals
  have hplace {address : List Nat} {value : Literal} (hvalue : literals address = some value) :
      (address = [0, 1] ∧ value = .int 7) ∨ (address = [1, 1] ∧ value = .int 3) := by
    grind
  have heval : literals.IsEvaluated e := by
    constructor
    · intro address value hvalue
      rcases hplace hvalue with ⟨rfl, rfl⟩ | ⟨rfl, rfl⟩
      · exact ⟨number, rfl, rfl⟩
      · exact ⟨captured "age" (.int 3), rfl, rfl⟩
    · intro address rest value other hvalue hother
      have hlength : address.length = 2 ∧ (address ++ rest).length = 2 := by
        grind
      rw [List.length_append] at hlength
      exact List.length_eq_zero_iff.mp (by omega)
  have hvalue : e.evaluate? = some (.bool true) := rfl
  obtain ⟨hsame, hplaces, helsewhere⟩ := evaluation_congruence heval
  refine ⟨heval, hvalue, hsame.trans hvalue, hplaces [0, 1] _ rfl, hplaces [1, 1] _ rfl, ?_⟩
  refine helsewhere [1, 0] (field "Age") rfl fun before habove => ?_
  cases hbefore : literals before with
  | none => rfl
  | some value =>
      rcases hplace hbefore with ⟨rfl, -⟩ | ⟨rfl, -⟩ <;> simp at habove

end ContentQuery.Expr
