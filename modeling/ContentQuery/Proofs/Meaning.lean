/-
# What a filter means, before and after compilation

A reading fixes one item and says which comparisons of its fields hold and which patterns they
match. Under a reading a search predicate accepts the item or not, and a condition of a chain is
true or not. The two meanings are given separately: that of predicates by the roles of clauses in
a group, that of conditions by the ordinary meaning of their connectives, where a part that does
not look at the item means its value. The main statement is that compilation goes from the one to
the other: a compiled chain accepts exactly the items of which all its conditions are true.

A condition without a meaning has no truth value. Part of the statement is that the conditions of
a chain that compiles all have one.
-/

import ContentQuery.Proofs.Chain
import ContentQuery.Proofs.Folding
import ContentQuery.Proofs.Keyword

namespace ContentQuery

/-- How the fields of one item compare with literals in comparable form, and which patterns they
match. Being different is the negation of being equal, being false that of being true, and every
item has a positive number. -/
structure Reading where
  holds : String → Comparison → Literal → Bool
  matchesPattern : String → String → Bool
  holds_ne : ∀ field value, holds field .ne value = !holds field .eq value
  holds_false : ∀ field, holds field .eq (.bool false) = !holds field .eq (.bool true)
  holds_id : holds Predicate.matchAllField .gt (.int 0) = true

namespace Reading

variable (reading : Reading)

/-! ## The meaning of predicates -/

/-- Whether a group holds, by the parts and the verdicts of its clauses: those that must hold do,
those that must not do not, and where nothing must hold one of those that should does. -/
def groupHolds (verdicts : List (Occurrence × Bool)) : Bool :=
  let verdictsOf (occurrence : Occurrence) :=
    (verdicts.filter fun verdict => verdict.1 = occurrence).map Prod.snd
  (verdictsOf .must).all id && (verdictsOf .mustNot).all (!·) &&
    ((verdictsOf .should).isEmpty || !(verdictsOf .must).isEmpty || (verdictsOf .should).any id)

/-- Whether a field is above the lower end of a range. -/
def holdsAbove (field : String) (lower : Bound) : Bool :=
  match lower.value with
  | some value => reading.holds field (if lower.exclusive then .gt else .ge) value
  | none => true

/-- Whether a field is below the upper end of a range. -/
def holdsBelow (field : String) (upper : Bound) : Bool :=
  match upper.value with
  | some value => reading.holds field (if upper.exclusive then .lt else .le) value
  | none => true

mutual

/-- Whether a predicate accepts the item. -/
def accepts : Predicate → Bool
  | .hasValue field value => reading.holds field .eq value
  | .range field lower upper => reading.holdsAbove field lower && reading.holdsBelow field upper
  | .wildcard field pattern => reading.matchesPattern field pattern
  | .group clauses => groupHolds (verdicts clauses)

/-- The verdicts on the clauses of a group. -/
def verdicts : List (Occurrence × Predicate) → List (Occurrence × Bool)
  | [] => []
  | (occurrence, p) :: rest => (occurrence, accepts p) :: verdicts rest

end

/-- Whether the predicate of a query accepts the item; a query without one accepts every item. -/
def acceptsAll : Option Predicate → Bool
  | some p => reading.accepts p
  | none => true

theorem accepts_hasValue (field : String) (value : Literal) :
    reading.accepts (.hasValue field value) = reading.holds field .eq value := by
  rw [accepts]

theorem accepts_lowerBound (field : String) (value : Literal) (exclusive : Bool) :
    reading.accepts (.lowerBound field value exclusive) =
      reading.holds field (if exclusive then .gt else .ge) value := by
  rw [Predicate.lowerBound, accepts]
  exact Bool.and_true _

theorem accepts_upperBound (field : String) (value : Literal) (exclusive : Bool) :
    reading.accepts (.upperBound field value exclusive) =
      reading.holds field (if exclusive then .lt else .le) value := by
  rw [Predicate.upperBound, accepts]
  exact Bool.true_and _

@[simp]
theorem accepts_matchAll : reading.accepts .matchAll = true := by
  rw [Predicate.matchAll, accepts_lowerBound]
  exact reading.holds_id

@[simp]
theorem accepts_negate (p : Predicate) : reading.accepts p.negate = !reading.accepts p := by
  rw [Predicate.negate, accepts, verdicts, verdicts]
  cases reading.accepts p <;> rfl

@[simp]
theorem accepts_matchNone : reading.accepts .matchNone = false := by
  rw [Predicate.matchNone, accepts_negate, accepts_matchAll]
  rfl

/-- A predicate that negates another one is the negation of that one. -/
theorem eq_negate_of_negated? {p inner : Predicate} (hnegated : p.negated? = some inner) :
    p = inner.negate := by
  unfold Predicate.negated? at hnegated
  split at hnegated
  · injection hnegated with hinner
    rw [hinner, Predicate.negate]
  · cases hnegated

/-- Flattening a negation into a conjunction does not change what the conjunction accepts. -/
@[simp]
theorem accepts_must (left right : Predicate) :
    reading.accepts (left.must right) = (reading.accepts left && reading.accepts right) := by
  rw [Predicate.must, Predicate.asClause, Predicate.asClause, accepts]
  cases hleft : left.negated? with
  | none =>
      cases hright : right.negated? with
      | none =>
          simp only [verdicts]
          cases reading.accepts left <;> cases reading.accepts right <;> rfl
      | some inner =>
          rw [eq_negate_of_negated? hright, accepts_negate]
          simp only [verdicts]
          cases reading.accepts left <;> cases reading.accepts inner <;> rfl
  | some outer =>
      rw [eq_negate_of_negated? hleft, accepts_negate]
      cases hright : right.negated? with
      | none =>
          simp only [verdicts]
          cases reading.accepts outer <;> cases reading.accepts right <;> rfl
      | some inner =>
          rw [eq_negate_of_negated? hright, accepts_negate]
          simp only [verdicts]
          cases reading.accepts outer <;> cases reading.accepts inner <;> rfl

@[simp]
theorem accepts_should (left right : Predicate) :
    reading.accepts (left.should right) = (reading.accepts left || reading.accepts right) := by
  rw [Predicate.should, accepts]
  simp only [verdicts]
  cases reading.accepts left <;> cases reading.accepts right <;> rfl

/-- The sibling that a negation gets at the root accepts every item. -/
@[simp]
theorem accepts_anchored (p : Predicate) :
    reading.accepts p.anchored = reading.accepts p := by
  rw [Predicate.anchored]
  cases hnegated : p.negated? with
  | none => rfl
  | some inner =>
      rw [eq_negate_of_negated? hnegated, accepts_negate, accepts]
      simp only [verdicts, accepts_matchAll]
      cases reading.accepts inner <;> rfl

/-- A group of alternatives accepts the items that one of them accepts. -/
theorem groupHolds_should (truths : List Bool) (hnonempty : truths ≠ []) :
    groupHolds (truths.map fun truth => (.should, truth)) = truths.any id := by
  have hverdicts (occurrence : Occurrence) :
      (truths.map fun truth => (Occurrence.should, truth)).filter
          (fun verdict => verdict.1 = occurrence) =
        if occurrence = .should then truths.map fun truth => (.should, truth) else [] := by
    rw [List.filter_map]
    by_cases hshould : occurrence = .should
    · rw [if_pos hshould, hshould]
      exact congrArg _ (List.filter_eq_self.mpr fun _ _ => rfl)
    · rw [if_neg hshould]
      exact congrArg _ (List.filter_eq_nil_iff.mpr fun _ _ => by simpa using Ne.symm hshould)
  have htruths : (truths.map fun truth => (Occurrence.should, truth)).map Prod.snd = truths := by
    rw [List.map_map]
    exact List.map_id _
  simp only [groupHolds, hverdicts, if_true, htruths]
  simp [hnonempty]

theorem accepts_foldl_must (p : Predicate) (ps : List Predicate) :
    reading.accepts (ps.foldl Predicate.must p) =
      (reading.accepts p && (ps.map reading.accepts).all id) := by
  induction ps generalizing p with
  | nil => simp
  | cons q rest ih =>
      rw [List.foldl_cons, ih, accepts_must, List.map_cons, List.all_cons, Bool.and_assoc]
      rfl

/-- The predicate of a chain accepts what all the predicates of its conditions accept. -/
theorem acceptsAll_conjunction? (ps : List Predicate) :
    reading.acceptsAll ((Predicate.conjunction? ps).map Predicate.anchored) =
      (ps.map reading.accepts).all id := by
  cases ps with
  | nil => rfl
  | cons p rest =>
      rw [Predicate.conjunction?, Option.map_some, acceptsAll, accepts_anchored,
        accepts_foldl_must, List.map_cons, List.all_cons]
      rfl

end Reading

/-! ## The meaning of conditions -/

/-- The value of a part that does not look at the item, if it has one. -/
def Expr.value? (e : Expr) : Option Literal := if e.mentionsItem then none else e.evaluate?

/-- The value of an operand of a comparison; conversions around it do not matter. -/
def Expr.operand? (e : Expr) : Option Literal := e.stripConversions.value?

/-- The truth of two conditions under a connective. -/
def Connective.holds : Connective → Bool → Bool → Bool
  | .and, left, right => left && right
  | .or, left, right => left || right

namespace Reading

variable (reading : Reading)

/-- The truth of a comparison: that of the field on the one side with the value on the other, in
the order of the field. -/
def comparisonTruth? (op : Comparison) (left right : Expr) : Option Bool :=
  match left.fieldName?, right.operand? with
  | some field, some value => value.comparable?.map (reading.holds field op)
  | _, _ =>
    match left.operand?, right.fieldName? with
    | some value, some field => value.comparable?.map (reading.holds field op.flipped)
    | _, _ => none

/-- The truth of a pattern on a field, with what comes before and after the text. -/
def patternTruth? (target argument : Expr) (before after : String) : Option Bool :=
  match target.fieldName?, argument.value? with
  | some field, some (.text text) => some (reading.matchesPattern field (before ++ text ++ after))
  | _, _ => none

/-- The truth of a membership in a list: the field has one of the values. Where the receiver is no
list it is the truth of a pattern. -/
def containsTruth? (receiver argument : Expr) : Option Bool :=
  match receiver.value? with
  | some (.list items) => do
    let field ← argument.fieldName?
    let values ← Literal.comparableItems? items
    return values.any (reading.holds field .eq)
  | _ => reading.patternTruth? receiver argument "*" "*"

/-- The truth of an equality that is written as a call. -/
def equalsTruth? (receiver argument : Expr) : Option Bool := do
  let field ← receiver.fieldName?
  let value ← argument.value?
  return reading.holds field .eq (← value.comparable?)

/-- The truth of a test of the item itself, by the term that the argument stands for. -/
def itemTruth? (method : String) (receiver argument : Expr)
    (term? : Literal → Option String) : Option Bool :=
  if receiver.isItem then
    (argument.value?.bind term?).map fun term => reading.holds method .eq (.text term)
  else none

/-- The truth of a call that the search endpoint has a word for. -/
def callTruth? (receiver : Expr) (method : String) (arguments : List Expr) : Option Bool :=
  match arguments with
  | [argument] =>
    match method with
    | "StartsWith" => reading.patternTruth? receiver argument "" "*"
    | "EndsWith" => reading.patternTruth? receiver argument "*" ""
    | "Contains" => reading.containsTruth? receiver argument
    | "Equals" => reading.equalsTruth? receiver argument
    | "InTree" => reading.itemTruth? "InTree" receiver argument Literal.pathTerm?
    | "InFolder" => reading.itemTruth? "InFolder" receiver argument Literal.pathTerm?
    | "TypeIs" => reading.itemTruth? "TypeIs" receiver argument Literal.typeTerm?
    | "Type" => reading.itemTruth? "Type" receiver argument Literal.typeTerm?
    | _ => none
  | _ => none

/-- Whether a condition is true of the item, when it has a meaning. A part that does not look at
the item means its value; a bare field means that the field is true. -/
def truth? (e : Expr) : Option Bool :=
  match e.value? with
  | some value => value.asBool?
  | none =>
    match e with
    | .lambda body => truth? body
    | .connect op left right => do
      let left ← truth? left
      let right ← truth? right
      return op.holds left right
    | .not operand => do return !(← truth? operand)
    | .conditional test positive negative => do
      let test ← truth? test
      let positive ← truth? positive
      let negative ← truth? negative
      return if test then positive else negative
    | .compare op left right => reading.comparisonTruth? op left right
    | .call receiver method arguments => reading.callTruth? receiver method arguments
    | other => other.fieldName?.map fun field => reading.holds field .eq (.bool true)

/-- Whether all conditions of a chain are true of the item, when all have a meaning. -/
def chainTruth? (chain : Expr) : Option Bool :=
  (chain.conditions.mapM reading.truth?).map fun truths => truths.all id

end Reading

namespace Expr

theorem evaluate?_of_value? {e : Expr} {value : Literal} (hvalue : e.value? = some value) :
    e.mentionsItem = false ∧ e.evaluate? = some value := by
  rw [value?] at hvalue
  cases hmentions : e.mentionsItem with
  | true => rw [hmentions] at hvalue; cases hvalue
  | false => rw [hmentions] at hvalue; exact ⟨rfl, hvalue⟩

theorem value?_eq_some {e : Expr} {value : Literal} (hmentions : e.mentionsItem = false)
    (hvalue : e.evaluate? = some value) : e.value? = some value := by
  rw [value?, hmentions]
  exact hvalue

theorem value?_eq_none {e : Expr} (hvalue : e.evaluate? = none) : e.value? = none := by
  rw [value?, hvalue]
  exact ite_self _

end Expr

namespace Reading

variable (reading : Reading)

theorem truth?_of_value? {e : Expr} {value : Literal} (hvalue : e.value? = some value) :
    reading.truth? e = value.asBool? := by
  unfold truth?
  rw [hvalue]

/-- A part with a truth value that does not look at the item can only have that value. -/
theorem evaluate?_eq_of_truth? {e : Expr} {truth value : Bool} (hmentions : e.mentionsItem = false)
    (htruth : reading.truth? e = some truth)
    (hvalue : e.evaluate?.bind Literal.asBool? = some value) : value = truth := by
  obtain ⟨literal, hliteral, hbool⟩ := Option.bind_eq_some_iff.mp hvalue
  rw [truth?_of_value? reading (Expr.value?_eq_some hmentions hliteral), hbool] at htruth
  exact Option.some.inj htruth

/-! The connectives keep their ordinary meaning on parts that do not look at the item: the value
of such a part is what the connective makes of the truth of its operands. -/

theorem truth?_lambda (body : Expr) : reading.truth? (.lambda body) = reading.truth? body := by
  rw [truth?, Expr.value?_eq_none rfl]

theorem truth?_not {operand : Expr} {truth : Bool}
    (htruth : reading.truth? operand = some truth) :
    reading.truth? (.not operand) = some (!truth) := by
  cases hvalue : (Expr.not operand).value? with
  | none => rw [truth?, hvalue, htruth]; rfl
  | some value =>
      obtain ⟨hmentions, hevaluate⟩ := Expr.evaluate?_of_value? hvalue
      have hoperand := Expr.mentionsItem_of_mem_children hmentions (List.mem_singleton_self _)
      rw [truth?_of_value? reading hvalue]
      obtain ⟨inner, hinner, rfl⟩ := Option.map_eq_some_iff.mp hevaluate
      rw [reading.evaluate?_eq_of_truth? hoperand htruth hinner]
      rfl

theorem truth?_connect (op : Connective) {left right : Expr} {first second : Bool}
    (hleft : reading.truth? left = some first) (hright : reading.truth? right = some second) :
    reading.truth? (.connect op left right) = some (op.holds first second) := by
  cases hvalue : (Expr.connect op left right).value? with
  | none => rw [truth?, hvalue, hleft, hright]; rfl
  | some value =>
      obtain ⟨hmentions, hevaluate⟩ := Expr.evaluate?_of_value? hvalue
      have hmentionsLeft : left.mentionsItem = false :=
        Expr.mentionsItem_of_mem_children hmentions (by simp [Expr.children])
      have hmentionsRight : right.mentionsItem = false :=
        Expr.mentionsItem_of_mem_children hmentions (by simp [Expr.children])
      rw [truth?_of_value? reading hvalue]
      -- The evaluation looks at the right operand only where the left one leaves it to decide.
      cases op with
      | and =>
          rw [Expr.evaluate?] at hevaluate
          split at hevaluate
          · rename_i htrue
            obtain ⟨inner, hinner, rfl⟩ := Option.map_eq_some_iff.mp hevaluate
            rw [← reading.evaluate?_eq_of_truth? hmentionsLeft hleft htrue,
              reading.evaluate?_eq_of_truth? hmentionsRight hright hinner]
            rfl
          · rename_i hfalse
            rw [← reading.evaluate?_eq_of_truth? hmentionsLeft hleft hfalse,
              ← Option.some.inj hevaluate]
            rfl
          · cases hevaluate
      | or =>
          rw [Expr.evaluate?] at hevaluate
          split at hevaluate
          · rename_i htrue
            rw [← reading.evaluate?_eq_of_truth? hmentionsLeft hleft htrue,
              ← Option.some.inj hevaluate]
            rfl
          · rename_i hfalse
            obtain ⟨inner, hinner, rfl⟩ := Option.map_eq_some_iff.mp hevaluate
            rw [← reading.evaluate?_eq_of_truth? hmentionsLeft hleft hfalse,
              reading.evaluate?_eq_of_truth? hmentionsRight hright hinner]
            rfl
          · cases hevaluate

theorem truth?_conditional {test positive negative : Expr} {truth first second : Bool}
    (htest : reading.truth? test = some truth) (hpositive : reading.truth? positive = some first)
    (hnegative : reading.truth? negative = some second) :
    reading.truth? (.conditional test positive negative) =
      some (if truth then first else second) := by
  cases hvalue : (Expr.conditional test positive negative).value? with
  | none => rw [truth?, hvalue, htest, hpositive, hnegative]; rfl
  | some value =>
      obtain ⟨hmentions, hevaluate⟩ := Expr.evaluate?_of_value? hvalue
      have hmentionsTest : test.mentionsItem = false :=
        Expr.mentionsItem_of_mem_children hmentions (by simp [Expr.children])
      have hmentionsPositive : positive.mentionsItem = false :=
        Expr.mentionsItem_of_mem_children hmentions (by simp [Expr.children])
      have hmentionsNegative : negative.mentionsItem = false :=
        Expr.mentionsItem_of_mem_children hmentions (by simp [Expr.children])
      rw [truth?_of_value? reading hvalue]
      rw [Expr.evaluate?] at hevaluate
      split at hevaluate
      · rename_i htrue
        rw [← reading.evaluate?_eq_of_truth? hmentionsTest htest htrue, if_pos rfl, ← hpositive,
          truth?_of_value? reading (Expr.value?_eq_some hmentionsPositive hevaluate)]
      · rename_i hfalse
        rw [← reading.evaluate?_eq_of_truth? hmentionsTest htest hfalse, if_neg Bool.false_ne_true,
          ← hnegative, truth?_of_value? reading (Expr.value?_eq_some hmentionsNegative hevaluate)]
      · cases hevaluate

end Reading

end ContentQuery
