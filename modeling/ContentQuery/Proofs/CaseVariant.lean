/-
# Chains that differ in letter case

The index keeps text, type names and paths in lower case, so a literal that is compared with them
can be written in any case. This module says where such literals stand: as an operand of a
comparison with a field, as the argument of an equality of a field, among the items of a list that a
field is looked for in, and as the argument of the words for places and types. Two chains are
variants when they differ in the case of literals in such places only; everywhere else they are the
same, literals included. Patterns are not among the places, as the index takes them as they are.

Folding keeps variants. A closed part without such a place is folded to the same literal on both
chains, and an operand is folded to two literals that differ in case only.
-/

import Mathlib.Data.List.Forall2
import ContentQuery.Proofs.Folding
import ContentQuery.Proofs.Keyword

namespace ContentQuery

/-! ## Literals -/

namespace Literal

mutual

/-- Literals that differ in the case of letters only: of a text, of a type's name, of the path of a
reference, or of these among the items of a list. -/
inductive CaseVariant : Literal → Literal → Prop
  | refl (value : Literal) : CaseVariant value value
  | text {first second : String} (hlower : Text.lowerCase first = Text.lowerCase second) :
      CaseVariant (text first) (text second)
  | type {first second : String} (hlower : Text.lowerCase first = Text.lowerCase second) :
      CaseVariant (type first) (type second)
  | path {first second : String} (id : Option UInt64)
      (hlower : Text.lowerCase first = Text.lowerCase second) :
      CaseVariant (content ⟨id, some first⟩) (content ⟨id, some second⟩)
  | list {first second : List Literal} (hitems : ItemVariants first second) :
      CaseVariant (list first) (list second)

/-- Items that differ in the case of letters only, one by one. -/
inductive ItemVariants : List Literal → List Literal → Prop
  | nil : ItemVariants [] []
  | cons {first second : Literal} {rest others : List Literal} (hitem : CaseVariant first second)
      (hrest : ItemVariants rest others) : ItemVariants (first :: rest) (second :: others)

end

variable {first second : Literal}

mutual

theorem CaseVariant.symm {first second : Literal} :
    first.CaseVariant second → second.CaseVariant first
  | .refl value => .refl value
  | .text hlower => .text hlower.symm
  | .type hlower => .type hlower.symm
  | .path id hlower => .path id hlower.symm
  | .list hitems => .list hitems.symm

theorem ItemVariants.symm {first second : List Literal} :
    ItemVariants first second → ItemVariants second first
  | .nil => .nil
  | .cons hitem hrest => .cons hitem.symm hrest.symm

end

mutual

/-- The index has the same for two variants. -/
theorem CaseVariant.comparable?_eq {first second : Literal} :
    first.CaseVariant second → first.comparable? = second.comparable?
  | .refl _ => rfl
  | .text hlower | .type hlower => by rw [comparable?, comparable?, hlower]
  | .path (some _) _ => rfl
  | .path none hlower => by
      rw [comparable?, comparable?, ContentRef.identity?, ContentRef.identity?]
      exact congrArg (fun path => some (text path)) hlower
  | .list hitems => by rw [comparable?, comparable?, hitems.comparableItems?_eq]

theorem ItemVariants.comparableItems?_eq {first second : List Literal} :
    ItemVariants first second → comparableItems? first = comparableItems? second
  | .nil => rfl
  | .cons hitem hrest => by
      rw [comparableItems?, comparableItems?, hitem.comparable?_eq, hrest.comparableItems?_eq]

end

theorem CaseVariant.typeTerm?_eq (hvariant : first.CaseVariant second) :
    first.typeTerm? = second.typeTerm? := by
  cases hvariant with
  | text hlower | type hlower => exact congrArg some hlower
  | _ => rfl

theorem CaseVariant.pathTerm?_eq (hvariant : first.CaseVariant second) :
    first.pathTerm? = second.pathTerm? := by
  cases hvariant with
  | text hlower | path _ hlower => exact congrArg some hlower
  | _ => rfl

theorem CaseVariant.isList_eq (hvariant : first.CaseVariant second) :
    first.isList = second.isList := by
  cases hvariant <;> rfl

/-- A variant of a list is a list, with the same comparable forms. -/
theorem CaseVariant.exists_list {items : List Literal}
    (hvariant : (Literal.list items).CaseVariant second) :
    ∃ others, second = .list others ∧ (items = [] ↔ others = []) ∧
      comparableItems? items = comparableItems? others := by
  cases hvariant with
  | refl => exact ⟨items, rfl, .rfl, rfl⟩
  | list hitems =>
      refine ⟨_, rfl, ?_, hitems.comparableItems?_eq⟩
      cases hitems with
      | nil => rfl
      | cons => exact iff_of_false (List.cons_ne_nil _ _) (List.cons_ne_nil _ _)

/-- A variant of a reference has the members that the reference has, in variants. -/
theorem CaseVariant.exists_member? {reference : ContentRef} {name : String} {value : Literal}
    (hvariant : (content reference).CaseVariant second)
    (hmember : reference.member? name = some value) :
    ∃ other member, second = content other ∧ other.member? name = some member ∧
      value.CaseVariant member := by
  cases hvariant with
  | refl => exact ⟨reference, value, rfl, hmember, .refl value⟩
  | @path first other id hlower =>
      refine ⟨⟨id, some other⟩, ?_⟩
      rw [ContentRef.member?] at hmember ⊢
      by_cases hid : name = "Id"
      · rw [if_pos hid] at hmember ⊢
        exact ⟨value, rfl, hmember, .refl value⟩
      · rw [if_neg hid] at hmember ⊢
        obtain ⟨hpath, hvalue⟩ := Option.ite_none_right_eq_some.mp hmember
        obtain rfl := Option.some.inj hvalue
        exact ⟨.text other, rfl, if_pos hpath, .text hlower⟩

end Literal

namespace Expr

/-! ## Walks that agree on the children -/

/-- Lists that agree on a function place by place are mapped to the same list. -/
theorem map_eq_map_of_forall₂ {β : Type} {g : Expr → β} {first second : List Expr}
    (hagree : List.Forall₂ (fun e f => g e = g f) first second) :
    first.map g = second.map g := by
  have hmapped : List.Forall₂ (· = ·) (first.map g) (second.map g) :=
    List.forall₂_map_left_iff.mpr (List.forall₂_map_right_iff.mpr hagree)
  rwa [List.forall₂_eq_eq_eq] at hmapped

/-- Folding keeps two expressions related if evaluation does where they are closed, and folding
where they are open. -/
theorem foldParts_related {R : Expr → Expr → Prop} {first second : Expr}
    (hsame : first.closed = second.closed)
    (hclosed : first.closed = true → R first.evaluated second.evaluated)
    (hopen : first.closed = false → second.closed = false → R first.foldParts second.foldParts) :
    R first.foldParts second.foldParts := by
  cases hfirst : first.closed with
  | false => exact hopen hfirst (hsame ▸ hfirst)
  | true =>
      rw [foldParts_of_closed hfirst, foldParts_of_closed (hsame ▸ hfirst)]
      exact hclosed hfirst

/-! ## Operands -/

/-- Operands that are built alike over literals that differ in case. Of a reference an operand can
be a member, and of a choice either branch. -/
inductive OperandVariant : Expr → Expr → Prop
  | literal {first second : Literal} (hvalue : first.CaseVariant second) :
      OperandVariant (literal first) (literal second)
  | captured (name : String) {first second : Literal} (hvalue : first.CaseVariant second) :
      OperandVariant (captured name first) (captured name second)
  | convert (nullable : Bool) {first second : Expr} (hoperand : OperandVariant first second) :
      OperandVariant (convert first nullable) (convert second nullable)
  | member (name : String) (kind : MemberKind) {first second : Expr}
      (htarget : OperandVariant first second) :
      OperandVariant (member first name kind) (member second name kind)
  | conditional (test : Expr) {positive negative positive' negative' : Expr}
      (hpositive : OperandVariant positive positive')
      (hnegative : OperandVariant negative negative') :
      OperandVariant (conditional test positive negative) (conditional test positive' negative')

namespace OperandVariant

variable {first second : Expr}

theorem symm (hvariant : OperandVariant first second) : OperandVariant second first := by
  induction hvariant with
  | literal hvalue => exact .literal hvalue.symm
  | captured name hvalue => exact .captured name hvalue.symm
  | convert nullable _ ih => exact .convert nullable ih
  | member name kind _ ih => exact .member name kind ih
  | conditional test _ _ ihpositive ihnegative => exact .conditional test ihpositive ihnegative

theorem closed_eq (hvariant : OperandVariant first second) : first.closed = second.closed := by
  induction hvariant with
  | literal => rw [closed_literal, closed_literal]
  | captured => rw [closed_captured, closed_captured]
  | convert nullable _ ih =>
      refine closed_congr (by cases nullable <;> rfl) ?_
      simp only [children, List.map_cons, List.map_nil, ih]
  | member _ _ _ ih =>
      refine closed_congr rfl ?_
      simp only [children, List.map_cons, List.map_nil, ih]
  | conditional _ _ _ ihpositive ihnegative =>
      refine closed_congr rfl ?_
      simp only [children, List.map_cons, List.map_nil, ihpositive, ihnegative]

theorem mentionsItem_eq (hvariant : OperandVariant first second) :
    first.mentionsItem = second.mentionsItem := by
  induction hvariant with
  | literal | captured => exact mentionsItem_congr rfl rfl
  | convert _ _ ih | member _ _ _ ih =>
      refine mentionsItem_congr rfl ?_
      simp only [children, List.map_cons, List.map_nil, ih]
  | conditional _ _ _ ihpositive ihnegative =>
      refine mentionsItem_congr rfl ?_
      simp only [children, List.map_cons, List.map_nil, ihpositive, ihnegative]

/-- The value of a variant is a variant of the value. -/
theorem exists_evaluate? (hvariant : OperandVariant first second) :
    ∀ {value : Literal}, first.evaluate? = some value →
      ∃ other, second.evaluate? = some other ∧ value.CaseVariant other := by
  induction hvariant with
  | literal hvalue | captured _ hvalue =>
      intro value hsome
      cases hsome
      exact ⟨_, rfl, hvalue⟩
  | convert nullable _ ih =>
      intro value hsome
      cases nullable with
      | true => cases hsome
      | false => exact ih hsome
  | member name kind _ ih =>
      intro value hsome
      rw [evaluate?] at hsome ⊢
      split at hsome
      · rename_i reference htarget
        obtain ⟨target, hother, htargetVariant⟩ := ih htarget
        obtain ⟨other, member, rfl, hmember, hmemberVariant⟩ :=
          htargetVariant.exists_member? hsome
        exact ⟨member, by rw [hother]; exact hmember, hmemberVariant⟩
      · cases hsome
  | conditional test _ _ ihpositive ihnegative =>
      intro value hsome
      rw [evaluate?] at hsome ⊢
      cases htest : test.evaluate?.bind Literal.asBool? with
      | none =>
          rw [htest] at hsome
          cases hsome
      | some holds =>
          rw [htest] at hsome
          cases holds with
          | true => exact ihpositive hsome
          | false => exact ihnegative hsome

/-- An operand has a value when its variant does, and is as it was otherwise. -/
theorem evaluated (hvariant : OperandVariant first second) :
    OperandVariant first.evaluated second.evaluated := by
  rw [Expr.evaluated, Expr.evaluated]
  cases hfirst : first.evaluate? with
  | some value =>
      obtain ⟨other, hsecond, hvalue⟩ := hvariant.exists_evaluate? hfirst
      rw [hsecond]
      exact .literal hvalue
  | none =>
      cases hsecond : second.evaluate? with
      | none => exact hvariant
      | some other =>
          obtain ⟨value, hvalue, -⟩ := hvariant.symm.exists_evaluate? hsecond
          rw [hfirst] at hvalue
          cases hvalue

/-- Folding keeps operands variants. -/
theorem foldParts (hvariant : OperandVariant first second) :
    OperandVariant first.foldParts second.foldParts := by
  induction hvariant with
  | literal hvalue =>
      rw [foldParts_literal, foldParts_literal]
      exact .literal hvalue
  | captured name hvalue =>
      rw [foldParts_captured, foldParts_captured]
      exact .literal hvalue
  | convert nullable hoperand ih =>
      have hvariant := hoperand.convert nullable
      refine foldParts_related hvariant.closed_eq (fun _ => hvariant.evaluated) ?_
      intro hfirst hsecond
      rw [foldParts_of_open hfirst, foldParts_of_open hsecond]
      exact .convert nullable ih
  | member name kind htarget ih =>
      have hvariant := htarget.member name kind
      refine foldParts_related hvariant.closed_eq (fun _ => hvariant.evaluated) ?_
      intro hfirst hsecond
      rw [foldParts_of_open hfirst, foldParts_of_open hsecond]
      exact .member name kind ih
  | conditional test hpositive hnegative ihpositive ihnegative =>
      have hvariant := hpositive.conditional test hnegative
      refine foldParts_related hvariant.closed_eq (fun _ => hvariant.evaluated) ?_
      intro hfirst hsecond
      rw [foldParts_of_open hfirst, foldParts_of_open hsecond]
      exact .conditional test.foldParts ihpositive ihnegative

/-- An operand names no field, and neither does a variant of it. -/
theorem fieldName?_eq_none (hvariant : OperandVariant first second) : first.fieldName? = none := by
  induction hvariant with
  | literal | captured | conditional => rfl
  | convert _ _ ih => exact ih
  | member name kind htarget ih =>
      cases htarget with
      | member _ _ hinner => cases hinner <;> rfl
      | _ => rfl

/-- What is left of an operand without its conversions. -/
theorem stripConversions (hvariant : OperandVariant first second) :
    OperandVariant first.stripConversions second.stripConversions := by
  induction hvariant with
  | convert _ _ ih => exact ih
  | literal hvalue => exact .literal hvalue
  | captured name hvalue => exact .captured name hvalue
  | member name kind htarget _ => exact .member name kind htarget
  | conditional test hpositive hnegative _ _ => exact .conditional test hpositive hnegative

end OperandVariant

/-! ## Chains -/

/-- The words whose argument is kept in lower case: places, types, and the operator that narrows to
a type. -/
def caselessWords : List String := ["InTree", "InFolder", "TypeIs", "Type", "OfType"]

/-- Expressions that differ only in the case of literals where the index is compared with them.
There is a rule for each such place; everywhere else the nodes are the same. -/
inductive CaseVariant : Expr → Expr → Prop
  /-- A node over children that are variants, place by place. -/
  | node {e : Expr} {others : List Expr} (hlength : others.length = e.children.length)
      (hchildren : ∀ pair ∈ e.children.zip others, CaseVariant pair.1 pair.2) :
      CaseVariant e (e.withChildren others)
  | compareRight (op : Comparison) {left right other : Expr} {field : String}
      (hfield : left.fieldName? = some field) (hright : OperandVariant right other) :
      CaseVariant (compare op left right) (compare op left other)
  | compareLeft (op : Comparison) {left right other : Expr} {field : String}
      (hfield : right.fieldName? = some field) (hleft : OperandVariant left other) :
      CaseVariant (compare op left right) (compare op other right)
  | equals {receiver argument other : Expr} {field : String}
      (hfield : receiver.fieldName? = some field) (hargument : OperandVariant argument other) :
      CaseVariant (call receiver "Equals" [argument]) (call receiver "Equals" [other])
  /-- Which items a list has can vary as the receiver does. -/
  | contains {receiver argument other : Expr} {field : String}
      (hfield : argument.fieldName? = some field) (hreceiver : OperandVariant receiver other) :
      CaseVariant (call receiver "Contains" [argument]) (call other "Contains" [argument])
  | word {method : String} {receiver receiver' argument other : Expr}
      (hmethod : method ∈ caselessWords) (hreceiver : CaseVariant receiver receiver')
      (hargument : OperandVariant argument other) :
      CaseVariant (call receiver method [argument]) (call receiver' method [other])

/-- A comparison with a field is open. -/
theorem closed_compare_eq_false {op : Comparison} {left right child : Expr} {field : String}
    (hmem : child ∈ (compare op left right).children) (hfield : child.fieldName? = some field) :
    (compare op left right).closed = false :=
  closed_eq_false_of_mentionsItem (mentionsItem_of_child hmem (mentionsItem_of_fieldName? hfield))

namespace CaseVariant

variable {first second : Expr}

theorem of_children {others : List Expr}
    (hchildren : List.Forall₂ CaseVariant first.children others)
    (hnode : second = first.withChildren others) : first.CaseVariant second := by
  obtain ⟨hlength, hpairs⟩ := List.forall₂_iff_zip.mp hchildren
  rw [hnode]
  exact .node hlength.symm fun pair hmem => hpairs hmem

@[refl]
theorem refl (e : Expr) : e.CaseVariant e := by
  induction e using induction_on_children with
  | step e ih =>
      have hchildren : List.Forall₂ CaseVariant e.children e.children := by
        rw [List.forall₂_same]
        exact ih
      exact of_children hchildren e.withChildren_children.symm

theorem symm (hvariant : first.CaseVariant second) : second.CaseVariant first := by
  induction hvariant with
  | @node e others hlength _ ih =>
      have hpairs : List.Forall₂ (fun child other => other.CaseVariant child) e.children others :=
        List.forall₂_iff_zip.mpr ⟨hlength.symm, fun hmem => ih _ hmem⟩
      have hchildren : List.Forall₂ CaseVariant (e.withChildren others).children e.children := by
        rw [children_withChildren hlength]
        exact hpairs.flip
      refine of_children hchildren ?_
      rw [withChildren_withChildren, withChildren_children]
  | compareRight op hfield hright => exact .compareRight op hfield hright.symm
  | compareLeft op hfield hleft => exact .compareLeft op hfield hleft.symm
  | equals hfield hargument => exact .equals hfield hargument.symm
  | contains hfield hreceiver => exact .contains hfield hreceiver.symm
  | word hmethod _ hargument ih => exact .word hmethod ih hargument.symm

theorem closed_eq (hvariant : first.CaseVariant second) : first.closed = second.closed := by
  induction hvariant with
  | @node e others hlength _ ih =>
      refine closed_congr (opens_withChildren e others).symm ?_
      rw [children_withChildren hlength]
      exact map_eq_map_of_forall₂
        (List.forall₂_iff_zip.mpr ⟨hlength.symm, fun hmem => ih _ hmem⟩)
  | compareRight _ _ hoperand | compareLeft _ _ hoperand | equals _ hoperand
  | contains _ hoperand =>
      refine closed_congr rfl ?_
      simp only [children, List.map_cons, List.map_nil, hoperand.closed_eq]
  | word _ _ hargument ih =>
      refine closed_congr rfl ?_
      simp only [children, List.map_cons, List.map_nil, hargument.closed_eq, ih]

theorem mentionsItem_eq (hvariant : first.CaseVariant second) :
    first.mentionsItem = second.mentionsItem := by
  induction hvariant with
  | @node e others hlength _ ih =>
      refine mentionsItem_congr (isOrigin_withChildren e others).symm ?_
      rw [children_withChildren hlength]
      exact map_eq_map_of_forall₂
        (List.forall₂_iff_zip.mpr ⟨hlength.symm, fun hmem => ih _ hmem⟩)
  | compareRight _ _ hoperand | compareLeft _ _ hoperand | equals _ hoperand
  | contains _ hoperand =>
      refine mentionsItem_congr rfl ?_
      simp only [children, List.map_cons, List.map_nil, hoperand.mentionsItem_eq]
  | word _ _ hargument ih =>
      refine mentionsItem_congr rfl ?_
      simp only [children, List.map_cons, List.map_nil, hargument.mentionsItem_eq, ih]

/-- A closed part has the same value in both chains: no place is in a part that has one. -/
theorem evaluate?_eq (hvariant : first.CaseVariant second) (hclosed : first.closed = true) :
    first.evaluate? = second.evaluate? := by
  induction hvariant with
  | @node e others hlength _ ih =>
      have hpairs : List.Forall₂ (fun child other => child.evaluate? = other.evaluate?)
          e.children others :=
        List.forall₂_iff_zip.mpr ⟨hlength.symm, fun hmem =>
          ih _ hmem (closed_of_mem_children hclosed (List.of_mem_zip hmem).1)⟩
      exact (evaluate?_withChildren (map_eq_map_of_forall₂ hpairs).symm).symm
  | compareRight op hfield _ =>
      rw [closed_compare_eq_false List.mem_cons_self hfield] at hclosed
      cases hclosed
  | compareLeft op hfield _ =>
      rw [closed_compare_eq_false (List.mem_cons_of_mem _ (List.mem_singleton_self _)) hfield]
        at hclosed
      cases hclosed
  | equals | contains | word => rfl

theorem evaluated (hvariant : first.CaseVariant second) (hclosed : first.closed = true) :
    first.evaluated.CaseVariant second.evaluated := by
  rw [Expr.evaluated, Expr.evaluated, hvariant.evaluate?_eq hclosed]
  cases second.evaluate? with
  | none => exact hvariant
  | some value => exact refl _

/-- Folding keeps chains variants. -/
theorem foldParts (hvariant : first.CaseVariant second) :
    first.foldParts.CaseVariant second.foldParts := by
  refine foldParts_related hvariant.closed_eq hvariant.evaluated fun hfirst hsecond => ?_
  induction hvariant with
  | @node e others hlength hchildren ih =>
      have hpairs : List.Forall₂ (fun child other => child.foldParts.CaseVariant other.foldParts)
          e.children others :=
        List.forall₂_iff_zip.mpr ⟨hlength.symm, fun hmem =>
          foldParts_related (hchildren _ hmem).closed_eq (hchildren _ hmem).evaluated
            (ih _ hmem)⟩
      have hfolded : List.Forall₂ CaseVariant
          (e.withChildren (e.children.map Expr.foldParts)).children
          (others.map Expr.foldParts) := by
        rw [children_withChildren_map]
        exact List.forall₂_map_left_iff.mpr (List.forall₂_map_right_iff.mpr hpairs)
      rw [foldParts_of_open hfirst]
      refine of_children hfolded ?_
      rw [foldParts_of_open hsecond, children_withChildren hlength, withChildren_withChildren,
        withChildren_withChildren]
  | compareRight op hfield hright =>
      rw [foldParts_of_open hfirst, foldParts_of_open hsecond]
      exact .compareRight op ((fieldName?_foldParts _).trans hfield) hright.foldParts
  | compareLeft op hfield hleft =>
      rw [foldParts_of_open hfirst, foldParts_of_open hsecond]
      exact .compareLeft op ((fieldName?_foldParts _).trans hfield) hleft.foldParts
  | equals hfield hargument =>
      rw [foldParts_of_open hfirst, foldParts_of_open hsecond]
      exact .equals ((fieldName?_foldParts _).trans hfield) hargument.foldParts
  | contains hfield hreceiver =>
      rw [foldParts_of_open hfirst, foldParts_of_open hsecond]
      exact .contains ((fieldName?_foldParts _).trans hfield) hreceiver.foldParts
  | word hmethod hreceiver hargument ih =>
      rw [foldParts_of_open hfirst, foldParts_of_open hsecond]
      exact .word hmethod (foldParts_related hreceiver.closed_eq hreceiver.evaluated ih)
        hargument.foldParts

end CaseVariant

end Expr

end ContentQuery
