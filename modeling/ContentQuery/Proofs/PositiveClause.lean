/-
# Queries that only exclude

A group without a positive clause selects nothing on the server, so a lone negation at the root is
given a sibling that holds of every item. The test for it looks at groups of one clause. A
conjunction of two negations is a group of two, as each brings its own clause, and passes the test
although nothing in it is positive.

This module says exactly which chains are sent without a positive clause: those with two filters
that are both exclusions, and those with one filter that is a conjunction of two exclusions. With
three filters the first two are a clause by themselves, which must hold.
-/

import Mathlib
import ContentQuery.Proofs.Chain
import ContentQuery.Proofs.Keyword

namespace ContentQuery

open Outcome

/-! ## Exclusions -/

namespace Expr

/-- Whether a condition is a bare field or a negation of one, whose negation stays a field. -/
def isFlag : Expr → Bool
  | lambda body => body.isFlag
  | not operand => operand.isFlag
  | other => other.fieldName?.isSome

/-- Whether an expression is a literal list without items. -/
def isEmptyList : Expr → Bool
  | literal (.list []) => true
  | _ => false

/-- Whether a condition is an exclusion: it has a negation as its predicate. -/
def isExclusion : Expr → Bool
  | lambda body => body.isExclusion
  | compare op _ _ => op == .ne
  | not operand => !operand.isFlag
  | literal (.bool value) => !value
  | call receiver _ _ => receiver.isEmptyList
  | _ => false

/-- Whether a condition is a conjunction of two exclusions. -/
def isExclusionPair : Expr → Bool
  | lambda body => body.isExclusionPair
  | connect .and left right => left.isExclusion && right.isExclusion
  | _ => false

end Expr

/-- Whether conditions together only exclude. -/
def Expr.onlyExclude : List Expr → Bool
  | [condition] => condition.isExclusionPair
  | [first, second] => first.isExclusion && second.isExclusion
  | _ => false

/-- Whether a predicate is no group, or a group with a clause that must or should hold. -/
def Predicate.isPositive : Predicate → Bool
  | group clauses => clauses.any fun clause => clause.1 != .mustNot
  | _ => true

namespace Predicate

theorem isPositive_iff {p : Predicate} :
    p.isPositive = true ↔ ∀ clauses, p = group clauses →
      ∃ clause ∈ clauses, clause.1 = .must ∨ clause.1 = .should := by
  have hoccurrence (occurrence : Occurrence) :
      (occurrence != .mustNot) = true ↔ occurrence = .must ∨ occurrence = .should := by
    cases occurrence <;> decide
  cases p with
  | group clauses =>
      rw [isPositive, List.any_eq_true]
      simp only [hoccurrence, group.injEq, forall_eq']
  | _ =>
      refine iff_of_true rfl fun clauses hgroup => ?_
      cases hgroup

theorem isNegation_must (left right : Predicate) : (left.must right).isNegation = false := by
  rw [must, isNegation]
  rcases left.asClause with ⟨occurrence, p⟩
  cases occurrence <;> rfl

theorem asClause_isPositive (p : Predicate) : (p.asClause.1 != .mustNot) = !p.isNegation := by
  rw [asClause, isNegation]
  cases p.negated? <;> rfl

/-- A conjunction is positive unless both of its operands are negations. -/
theorem isPositive_must (left right : Predicate) :
    (left.must right).isPositive = !(left.isNegation && right.isNegation) := by
  rw [must, isPositive, List.any_cons, List.any_cons, List.any_nil, asClause_isPositive,
    asClause_isPositive, Bool.or_false, Bool.not_and]

/-- A lone negation becomes positive at the root. -/
theorem isPositive_anchored (p : Predicate) :
    p.anchored.isPositive = (p.isNegation || p.isPositive) := by
  rw [anchored, isNegation]
  cases p.negated? <;> rfl

/-- Of the comparisons only being different is a negation. -/
theorem isNegation_ofComparison? {field : String} {op : Comparison} {value : Literal}
    {p : Predicate} (hcompare : ofComparison? field op value = some p) :
    p.isNegation = (op == .ne) ∧ p.anchored.isPositive = true := by
  unfold ofComparison? at hcompare
  by_cases hlist : value.isList = true
  · rw [if_pos hlist] at hcompare
    cases hcompare
  · rw [if_neg hlist] at hcompare
    cases op with
    | eq | ne =>
        obtain rfl := Option.some.inj hcompare
        exact ⟨rfl, rfl⟩
    | gt | ge | lt | le =>
        by_cases hnull : value.isNull = true
        · simp only [hnull, if_true] at hcompare
          cases hcompare
        · simp only [hnull] at hcompare
          obtain rfl := Option.some.inj hcompare
          exact ⟨rfl, rfl⟩

theorem isNegation_ofComparison {op : Comparison} {left right site : Expr} {p : Predicate}
    (hcompare : ofComparison op left right site = .ok p) :
    p.isNegation = (op == .ne) ∧ p.anchored.isPositive = true := by
  obtain ⟨field, effective, value, form, hoperands, -, hp⟩ := ofComparison_eq_ok.mp hcompare
  rcases comparisonOperands?_eq_some hoperands with ⟨-, -, rfl⟩ | ⟨-, -, rfl⟩
  · exact isNegation_ofComparison? hp
  · have hflipped : (op.flipped == .ne) = (op == .ne) := by
      cases op <;> rfl
    rw [← hflipped]
    exact isNegation_ofComparison? hp

theorem isNegation_callForm {receiver argument : Expr} {method : String} {p : Predicate}
    (hform : CallForm receiver argument method p) :
    p.isNegation = receiver.isEmptyList ∧ p.anchored.isPositive = true := by
  have hfield {field : String} (hreceiver : receiver.fieldName? = some field) :
      receiver.isEmptyList = false := by
    cases receiver with
    | literal value => cases hreceiver
    | _ => rfl
  cases hform with
  | pattern hmethod hreceiver htext => exact ⟨(hfield hreceiver).symm, rfl⟩
  | amongNone hlist hargument => rw [hlist]; exact ⟨rfl, rfl⟩
  | @among field values forms hlist hvalues hargument hforms =>
      have hreceiver : receiver.isEmptyList = false := by
        rw [hlist]
        cases values with
        | nil => exact (hvalues rfl).elim
        | cons value rest => rfl
      cases forms with
      | nil => exact (Literal.comparableItems?_ne_nil hvalues hforms rfl).elim
      | cons form rest =>
          rw [hreceiver]
          cases rest <;> exact ⟨rfl, rfl⟩
  | equals hreceiver hvalue hscalar hform => exact ⟨(hfield hreceiver).symm, rfl⟩
  | place hmethod hitem hvalue hpath => rw [hitem]; exact ⟨rfl, rfl⟩
  | type hmethod hitem hvalue hname => rw [hitem]; exact ⟨rfl, rfl⟩

end Predicate

/-! ## Exclusions have negations as predicates -/

namespace Entry

/-- Whether an entry is a bare field. -/
def isFlag : Entry → Bool
  | flag _ _ => true
  | predicate _ => false

/-- An entry is of the kind that its condition has by its shape. -/
structure Fits (entry : Entry) (condition : Expr) : Prop where
  flag : entry.isFlag = condition.isFlag
  negation : entry.toPredicate.isNegation = condition.isExclusion
  positive : entry.toPredicate.anchored.isPositive = !condition.isExclusionPair

theorem fits_negate {entry : Entry} {condition : Expr} (hfits : entry.Fits condition) :
    entry.negate.Fits (.not condition) := by
  cases entry with
  | predicate p =>
      have hflag : condition.isFlag = false := hfits.flag.symm
      exact ⟨hfits.flag, by rw [Expr.isExclusion, hflag]; rfl, rfl⟩
  | flag field value =>
      have hflag : condition.isFlag = true := hfits.flag.symm
      exact ⟨hfits.flag, by rw [Expr.isExclusion, hflag]; rfl, rfl⟩

theorem fits_join {left right : Entry} {first second : Expr} (op : Connective)
    (hleft : left.Fits first) (hright : right.Fits second) :
    (join op left right).Fits (.connect op first second) := by
  cases op with
  | and =>
      refine ⟨rfl, Predicate.isNegation_must _ _, ?_⟩
      show (Predicate.must left.toPredicate right.toPredicate).anchored.isPositive = _
      rw [Predicate.isPositive_anchored, Predicate.isNegation_must, Predicate.isPositive_must,
        hleft.negation, hright.negation]
      rfl
  | or => exact ⟨rfl, rfl, rfl⟩

end Entry

/-- The entry of a condition is a bare field, a negation or a conjunction of two negations when the
condition is. -/
theorem Expr.EntryForm.fits {condition : Expr} {entry : Entry} (hform : EntryForm condition entry) :
    entry.Fits condition := by
  induction hform with
  | lambda hbody ih => exact ⟨ih.flag, ih.negation, ih.positive⟩
  | connect op hleft hright ihleft ihright => exact Entry.fits_join op ihleft ihright
  | compare hcompare =>
      obtain ⟨hnegation, hpositive⟩ := Predicate.isNegation_ofComparison hcompare
      exact ⟨rfl, hnegation, hpositive⟩
  | not hoperand ih => exact Entry.fits_negate ih
  | conditional htest hpositive hnegative => exact ⟨rfl, rfl, rfl⟩
  | literal value => cases value <;> exact ⟨rfl, rfl, rfl⟩
  | call hform =>
      obtain ⟨hnegation, hpositive⟩ := Predicate.isNegation_callForm hform
      exact ⟨rfl, hnegation, hpositive⟩
  | @field e field hfield =>
      have hflag : e.isFlag = true := by
        cases e with
        | member _ _ _ | index _ _ | convert _ _ => simp only [isFlag, hfield, Option.isSome_some]
        | _ => cases hfield
      cases e with
      | member _ _ _ | index _ _ | convert _ _ => exact ⟨hflag.symm, rfl, rfl⟩
      | _ => cases hfield

/-! ## Chains that only exclude -/

/-- The predicate of a condition is that of an entry that fits the condition. -/
theorem Expr.fits_of_predicate {condition : Expr} {p : Predicate}
    (hpredicate : condition.predicate = .ok p) :
    ∃ entry : Entry, entry.Fits condition ∧ entry.toPredicate = p := by
  obtain ⟨entry, hentry, hp⟩ := map_eq_ok.mp hpredicate
  exact ⟨entry, (entryForm_of_entry hentry).fits, hp⟩

/-- What is positive stays so under further conditions. -/
theorem Predicate.isPositive_foldl_must {p : Predicate} (hnegation : p.isNegation = false)
    (hpositive : p.isPositive = true) (ps : List Predicate) :
    (ps.foldl must p).anchored.isPositive = true := by
  induction ps generalizing p with
  | nil => rw [List.foldl_nil, isPositive_anchored, hpositive, Bool.or_true]
  | cons q rest ih =>
      refine ih (isNegation_must p q) ?_
      rw [isPositive_must, hnegation]
      rfl

/-- At the root only two exclusions, in two filters or in one, leave no positive clause. -/
theorem isPositive_conjunction? {conditions : List Expr} {ps : List Predicate} {p : Predicate}
    (hps : conditions.mapM Expr.predicate = .ok ps) (hp : Predicate.conjunction? ps = some p) :
    p.anchored.isPositive = !Expr.onlyExclude conditions := by
  rcases conditions with _ | ⟨first, _ | ⟨second, _ | ⟨third, later⟩⟩⟩
  · obtain rfl := Except.ok.inj hps
    cases hp
  · obtain ⟨q, others, hq, hothers, rfl⟩ := mapM_cons_eq_ok.mp hps
    obtain rfl := Except.ok.inj hothers
    obtain rfl := Option.some.inj hp
    obtain ⟨entry, hfits, rfl⟩ := Expr.fits_of_predicate hq
    exact hfits.positive
  · obtain ⟨q, others, hq, hothers, rfl⟩ := mapM_cons_eq_ok.mp hps
    obtain ⟨r, rest, hr, hrest, rfl⟩ := mapM_cons_eq_ok.mp hothers
    obtain rfl := Except.ok.inj hrest
    obtain rfl := Option.some.inj hp
    obtain ⟨left, hleft, rfl⟩ := Expr.fits_of_predicate hq
    obtain ⟨right, hright, rfl⟩ := Expr.fits_of_predicate hr
    show (left.toPredicate.must right.toPredicate).anchored.isPositive = _
    rw [Predicate.isPositive_anchored, Predicate.isNegation_must, Predicate.isPositive_must,
      hleft.negation, hright.negation]
    rfl
  · obtain ⟨q, others, -, hothers, rfl⟩ := mapM_cons_eq_ok.mp hps
    obtain ⟨r, rest, -, hrest, rfl⟩ := mapM_cons_eq_ok.mp hothers
    obtain ⟨t, final, -, -, rfl⟩ := mapM_cons_eq_ok.mp hrest
    obtain rfl := Option.some.inj hp
    -- The conjunction of the first two is no negation, so it must hold beside the third.
    refine Predicate.isPositive_foldl_must (Predicate.isNegation_must (q.must r) t) ?_ final
    rw [Predicate.isPositive_must, Predicate.isNegation_must]
    rfl

/-- Which roots keep a positive clause. A compiled chain is sent without one exactly when its
conditions, folded, are two exclusions: two filters, or one filter that joins them. -/
theorem Query.keeps_positive_clause_iff {chain : Expr} {options : QueryOptions} {query : Query}
    (hcompile : chain.compile options = .ok query) :
    (∀ clauses, query.predicate = some (.group clauses) →
        ∃ clause ∈ clauses, clause.1 = .must ∨ clause.1 = .should) ↔
      Expr.onlyExclude chain.fold.conditions = false := by
  obtain ⟨ps, hps, hpredicate⟩ := Expr.predicate_of_compile hcompile
  rw [hpredicate]
  cases hp : Predicate.conjunction? ps with
  | none =>
      have hconditions : Expr.onlyExclude chain.fold.conditions = false := by
        cases hnil : chain.fold.conditions with
        | nil => rfl
        | cons first rest =>
            rw [hnil] at hps
            obtain ⟨q, others, -, -, rfl⟩ := mapM_cons_eq_ok.mp hps
            cases hp
      refine iff_of_true (fun clauses hgroup => ?_) hconditions
      cases hgroup
  | some p =>
      have hpositive := isPositive_conjunction? hps hp
      rw [← Bool.not_eq_true', ← hpositive, Predicate.isPositive_iff, Option.map_some]
      simp only [Option.some.injEq]

/-- Two filters that each exclude one value. -/
def Expr.twoExclusions : Expr :=
  ((source "User").call "Where" [lambda (compare .ne (field "A") (literal (.int 1)))]).call "Where"
    [lambda (compare .ne (field "B") (literal (.int 2)))]

/-- They are sent as two excluded clauses and nothing else. -/
theorem Query.twoExclusions_keeps_no_positive_clause :
    ∃ query, Expr.twoExclusions.compile .default = .ok query ∧
      ¬ ∀ clauses, query.predicate = some (.group clauses) →
        ∃ clause ∈ clauses, clause.1 = .must ∨ clause.1 = .should := by
  have hcompile : Expr.twoExclusions.compile .default = .ok { Query.all with
      predicate := some (.group [(.mustNot, .hasValue "A" (.int 1)),
        (.mustNot, .hasValue "B" (.int 2))]) } := by
    cbv
  have hexclude : Expr.onlyExclude Expr.twoExclusions.fold.conditions = true := by
    cbv
  refine ⟨_, hcompile, fun hkept => ?_⟩
  have hkeep := (Query.keeps_positive_clause_iff hcompile).mp hkept
  rw [hexclude] at hkeep
  cases hkeep

end ContentQuery
