/-
# Lists in predicates

A list stands in a condition to be taken apart: a field that is in a list has one of its items, and
the predicate has an alternative for each. Nothing else takes a list. A comparison refuses it, and
so does an equality that is written as a call.

The taking apart goes one level deep. Each item is put into its comparable form and matched as it
is, and the comparable form of a list is a list. So a list inside a list reaches the predicate. This
module says exactly which lists do, by the tests that a condition is made of: what is left of it
when functions, connectives, negations and choices are taken away. What the server makes of a list
as a value is not claimed.
-/

import ContentQuery.Proofs.Agreement
import ContentQuery.Proofs.Meaning
import ContentQuery.Proofs.Shape

namespace ContentQuery

open Outcome

/-! ## Lists among comparable forms -/

namespace Literal

/-- Only a list has a list as its comparable form. -/
theorem comparable?_eq_list {value : Literal} {items : List Literal} :
    value.comparable? = some (.list items) ↔
      ∃ inner, value = .list inner ∧ comparableItems? inner = some items := by
  constructor
  · intro hform
    cases value with
    | list inner =>
        rw [comparable?] at hform
        obtain ⟨forms, hforms, hlist⟩ := Option.map_eq_some_iff.mp hform
        cases hlist
        exact ⟨inner, rfl, hforms⟩
    | content reference =>
        rw [comparable?, ContentRef.identity?] at hform
        split at hform <;> cases hform
    | _ => cases hform
  · rintro ⟨inner, rfl, hforms⟩
    rw [comparable?, hforms]
    rfl

/-- The comparable forms of items are those that an item has. -/
theorem mem_comparableItems? {values forms : List Literal}
    (hforms : comparableItems? values = some forms) (form : Literal) :
    form ∈ forms ↔ ∃ value ∈ values, value.comparable? = some form := by
  induction values generalizing forms with
  | nil =>
      obtain rfl := Option.some.inj hforms
      simp
  | cons value rest ih =>
      rw [comparableItems?] at hforms
      obtain ⟨first, hfirst, hrest⟩ := Option.bind_eq_some_iff.mp hforms
      obtain ⟨others, hothers, hcons⟩ := Option.bind_eq_some_iff.mp hrest
      obtain rfl := Option.some.inj hcons
      rw [List.mem_cons, ih hothers, List.exists_mem_cons_iff, hfirst, Option.some.injEq, eq_comm]

end Literal

/-! ## Matches inside predicates -/

namespace Predicate

variable {field : String} {items : List Literal}

/-- Somewhere in a predicate a field is matched with a list. -/
def MatchesList (p : Predicate) (field : String) (items : List Literal) : Prop :=
  hasValue field (.list items) ∈ p.nodes

theorem matchesList_hasValue {name : String} {value : Literal} :
    (hasValue name value).MatchesList field items ↔ name = field ∧ value = .list items := by
  rw [MatchesList, nodes, List.mem_singleton, hasValue.injEq, eq_comm (a := field),
    eq_comm (b := value)]
  exact fun _ => Predicate.noConfusion

theorem matchesList_group {clauses : List (Occurrence × Predicate)} :
    (group clauses).MatchesList field items ↔
      ∃ clause ∈ clauses, clause.2.MatchesList field items := by
  rw [MatchesList, nodes, List.mem_cons, mem_clauseNodes]
  exact or_iff_right Predicate.noConfusion

theorem not_matchesList_wildcard (name pattern : String) :
    ¬(wildcard name pattern).MatchesList field items := by
  simp [MatchesList, nodes]

theorem not_matchesList_matchAll : ¬matchAll.MatchesList field items := by
  simp [MatchesList, matchAll, lowerBound, nodes]

theorem matchesList_negate {p : Predicate} :
    p.negate.MatchesList field items ↔ p.MatchesList field items := by
  rw [negate, matchesList_group]
  simp

theorem not_matchesList_matchNone : ¬matchNone.MatchesList field items := by
  rw [matchNone, matchesList_negate]
  exact not_matchesList_matchAll

/-- A negation matches what it negates. -/
theorem matchesList_of_negated? {p inner : Predicate} (hnegated : p.negated? = some inner) :
    p.MatchesList field items ↔ inner.MatchesList field items := by
  rw [Reading.eq_negate_of_negated? hnegated, matchesList_negate]

theorem matchesList_asClause {p : Predicate} :
    p.asClause.2.MatchesList field items ↔ p.MatchesList field items := by
  rw [asClause]
  cases hnegated : p.negated? with
  | none => rfl
  | some inner => exact (matchesList_of_negated? hnegated).symm

theorem matchesList_must {left right : Predicate} :
    (left.must right).MatchesList field items ↔
      left.MatchesList field items ∨ right.MatchesList field items := by
  rw [must, matchesList_group, ← matchesList_asClause (p := left),
    ← matchesList_asClause (p := right)]
  simp

theorem matchesList_should {left right : Predicate} :
    (left.should right).MatchesList field items ↔
      left.MatchesList field items ∨ right.MatchesList field items := by
  rw [should, matchesList_group]
  simp

theorem matchesList_anchored {p : Predicate} :
    p.anchored.MatchesList field items ↔ p.MatchesList field items := by
  rw [anchored]
  cases hnegated : p.negated? with
  | none => rfl
  | some inner =>
      rw [matchesList_of_negated? hnegated, matchesList_group]
      simp [not_matchesList_matchAll]

theorem matchesList_foldl_must {p : Predicate} {ps : List Predicate} :
    (ps.foldl must p).MatchesList field items ↔
      ∃ q ∈ p :: ps, q.MatchesList field items := by
  induction ps generalizing p with
  | nil => simp
  | cons q rest ih =>
      rw [List.foldl_cons, ih]
      simp [matchesList_must, or_assoc]

/-- A conjunction matches what one of its parts matches. -/
theorem matchesList_conjunction? {ps : List Predicate} :
    (∃ p, (conjunction? ps).map anchored = some p ∧ p.MatchesList field items) ↔
      ∃ q ∈ ps, q.MatchesList field items := by
  cases ps with
  | nil => simp [conjunction?]
  | cons first rest => simp [conjunction?, matchesList_anchored, matchesList_foldl_must]

end Predicate

/-! ## Tests of conditions -/

namespace Expr

/-- The tests that a condition is made of. -/
def tests : Expr → List Expr
  | lambda body => body.tests
  | connect _ left right => left.tests ++ right.tests
  | not operand => operand.tests
  | conditional test positive negative => test.tests ++ positive.tests ++ negative.tests
  | e => [e]

/-- A test of whether a field is in a list that has a list among its items; `items` are the
comparable forms of the inner one. -/
def TestsForList (test : Expr) (field : String) (items : List Literal) : Prop :=
  ∃ argument values inner, test = call (literal (.list values)) "Contains" [argument] ∧
    argument.fieldName? = some field ∧ Literal.list inner ∈ values ∧
    Literal.comparableItems? inner = some items

/-- The tests that compare a field with a list, on either side or by a call. -/
inductive ComparesList (items : List Literal) : Expr → Prop
  | compare {op effective : Comparison} {left right : Expr} {field : String}
      (hoperands : Predicate.comparisonOperands? op left right =
        some (field, effective, .list items)) :
      ComparesList items (compare op left right)
  | equals {target : Expr} {field : String} (hfield : target.fieldName? = some field) :
      ComparesList items (call target "Equals" [literal (.list items)])

variable {field : String} {items : List Literal}

theorem exists_mem_append {P : Expr → Prop} {first second : List Expr} :
    (∃ e ∈ first ++ second, P e) ↔ (∃ e ∈ first, P e) ∨ ∃ e ∈ second, P e := by
  simp only [List.mem_append, or_and_right, exists_or]

theorem exists_mem_singleton {P : Expr → Prop} {e : Expr} : (∃ test ∈ [e], P test) ↔ P e := by
  simp only [List.mem_singleton, exists_eq_left]

/-- What names a field is a test by itself. -/
theorem tests_of_fieldName? {e : Expr} (hfield : e.fieldName? = some field) : e.tests = [e] := by
  cases e <;> first | rfl | cases hfield

/-- Only a call asks for a list. -/
theorem not_testsForList {e : Expr}
    (hcall : ∀ receiver method arguments, e ≠ call receiver method arguments) :
    ¬e.TestsForList field items := by
  rintro ⟨argument, values, inner, hmembership, -⟩
  exact hcall _ _ _ hmembership

/-- Of the calls that have a predicate only a membership matches a list, and it matches the lists
among its items. -/
theorem matchesList_iff_of_callForm {receiver argument : Expr} {method : String} {p : Predicate}
    (hform : Predicate.CallForm receiver argument method p) :
    p.MatchesList field items ↔ (call receiver method [argument]).TestsForList field items := by
  have hmembership (hfalse : ¬p.MatchesList field items)
      (hother : ∀ values, receiver = literal (.list values) → method = "Contains" → values = []) :
      p.MatchesList field items ↔ (call receiver method [argument]).TestsForList field items := by
    refine iff_of_false hfalse ?_
    rintro ⟨argument', values, inner, hcall, -, hinner, -⟩
    injection hcall with hreceiver hmethod
    rw [hother values hreceiver hmethod] at hinner
    cases hinner
  cases hform with
  | pattern hmethod hfield htext =>
      refine hmembership (Predicate.not_matchesList_wildcard _ _) ?_
      rintro values rfl
      cases hfield
  | amongNone hlist hfield =>
      refine hmembership Predicate.not_matchesList_matchNone ?_
      intro values hvalues _
      rw [hlist] at hvalues
      cases hvalues
      rfl
  | @among name values forms hlist hvalues hfield hforms =>
      rw [Predicate.matchesList_group, hlist]
      constructor
      · rintro ⟨clause, hclause, hmatches⟩
        obtain ⟨form, hform, rfl⟩ := List.mem_map.mp hclause
        obtain ⟨rfl, rfl⟩ := Predicate.matchesList_hasValue.mp hmatches
        obtain ⟨value, hvalue, hcomparable⟩ := (Literal.mem_comparableItems? hforms _).mp hform
        obtain ⟨inner, rfl, hinner⟩ := Literal.comparable?_eq_list.mp hcomparable
        exact ⟨argument, values, inner, rfl, hfield, hvalue, hinner⟩
      · rintro ⟨argument', values', inner, hcall, hfield', hmem, hinner⟩
        cases hcall
        obtain rfl := Option.some.inj (hfield.symm.trans hfield')
        have hform : Literal.list items ∈ forms :=
          (Literal.mem_comparableItems? hforms _).mpr
            ⟨_, hmem, Literal.comparable?_eq_list.mpr ⟨inner, rfl, hinner⟩⟩
        exact ⟨_, List.mem_map.mpr ⟨_, hform, rfl⟩, Predicate.matchesList_hasValue.mpr ⟨rfl, rfl⟩⟩
  | equals hfield hvalue hscalar hform =>
      refine hmembership (fun hmatches => ?_) fun _ _ hmethod => ?_
      · obtain ⟨-, rfl⟩ := Predicate.matchesList_hasValue.mp hmatches
        obtain ⟨inner, rfl, -⟩ := Literal.comparable?_eq_list.mp hform
        cases hscalar
      · exact absurd hmethod (by decide)
  | place hmethod hitem hvalue hpath =>
      refine hmembership (fun hmatches => ?_) ?_
      · cases (Predicate.matchesList_hasValue.mp hmatches).2
      · rintro values hreceiver -
        rw [hitem] at hreceiver
        cases hreceiver
  | type hmethod hitem hvalue hname =>
      refine hmembership (fun hmatches => ?_) ?_
      · cases (Predicate.matchesList_hasValue.mp hmatches).2
      · rintro values hreceiver -
        rw [hitem] at hreceiver
        cases hreceiver

/-- A comparison that has a predicate matches no list. -/
theorem not_matchesList_of_ofComparison {op : Comparison} {left right site : Expr} {p : Predicate}
    (hcompare : Predicate.ofComparison op left right site = .ok p) :
    ¬p.MatchesList field items := by
  obtain ⟨name, effective, value, form, -, -, hp⟩ := Predicate.ofComparison_eq_ok.mp hcompare
  have hname (form : Literal) (hscalar : ¬form.isList = true) :
      ¬(Predicate.hasValue name form).MatchesList field items := by
    intro hmatches
    rw [(Predicate.matchesList_hasValue.mp hmatches).2] at hscalar
    exact hscalar rfl
  unfold Predicate.ofComparison? at hp
  obtain ⟨hscalar, hop⟩ := Option.ite_none_left_eq_some.mp hp
  cases effective with
  | eq =>
      obtain rfl := Option.some.inj hop
      exact hname form hscalar
  | ne =>
      obtain rfl := Option.some.inj hop
      rw [Predicate.matchesList_negate]
      exact hname form hscalar
  | gt | ge | lt | le =>
      obtain ⟨-, hrange⟩ := Option.ite_none_left_eq_some.mp hop
      obtain rfl := Option.some.inj hrange
      simp [Predicate.MatchesList, Predicate.lowerBound, Predicate.upperBound, Predicate.nodes]

end Expr

namespace Entry

variable {field : String} {items : List Literal}

theorem matchesList_negate (entry : Entry) :
    entry.negate.toPredicate.MatchesList field items ↔
      entry.toPredicate.MatchesList field items := by
  cases entry with
  | predicate p => exact Predicate.matchesList_negate
  | flag name value => simp [negate, toPredicate, Predicate.matchesList_hasValue]

theorem matchesList_join (op : Connective) (left right : Entry) :
    (join op left right).toPredicate.MatchesList field items ↔
      left.toPredicate.MatchesList field items ∨ right.toPredicate.MatchesList field items := by
  cases op with
  | and => exact Predicate.matchesList_must
  | or => exact Predicate.matchesList_should

end Entry

namespace Expr

variable {field : String} {items : List Literal}

/-- The lists that a condition's predicate matches are those that its tests ask for. -/
theorem EntryForm.matchesList_iff {condition : Expr} {entry : Entry}
    (hform : EntryForm condition entry) :
    entry.toPredicate.MatchesList field items ↔
      ∃ test ∈ condition.tests, test.TestsForList field items := by
  induction hform with
  | lambda hbody ih => exact ih
  | connect op hleft hright ihleft ihright =>
      rw [Entry.matchesList_join, ihleft, ihright]
      exact exists_mem_append.symm
  | compare hcompare =>
      refine iff_of_false (not_matchesList_of_ofComparison hcompare) ?_
      exact fun hasks => not_testsForList (fun _ _ _ => Expr.noConfusion)
        (exists_mem_singleton.mp hasks)
  | not hoperand ih => exact (Entry.matchesList_negate _).trans ih
  | conditional htest hpositive hnegative ihtest ihpositive ihnegative =>
      rw [Entry.matchesList_join, Entry.matchesList_join, Entry.matchesList_join,
        Entry.matchesList_negate, ihtest, ihpositive, ihnegative, ← or_or_distrib_left, ← or_assoc]
      exact (or_congr_left exists_mem_append).symm.trans exists_mem_append.symm
  | literal value =>
      refine iff_of_false ?_ fun hasks => not_testsForList (fun _ _ _ => Expr.noConfusion)
        (exists_mem_singleton.mp hasks)
      cases value with
      | true => exact Predicate.not_matchesList_matchAll
      | false => exact Predicate.not_matchesList_matchNone
  | @call receiver argument method p hform =>
      show _ ↔ ∃ test ∈ [Expr.call receiver method [argument]], _
      rw [exists_mem_singleton]
      exact matchesList_iff_of_callForm hform
  | @field e name hfield =>
      rw [tests_of_fieldName? hfield, exists_mem_singleton]
      refine iff_of_false (fun hmatches => ?_) (not_testsForList ?_)
      · cases (Predicate.matchesList_hasValue.mp hmatches).2
      · rintro receiver method arguments rfl
        cases hfield

/-- The tests of all conditions. -/
theorem matchesList_iff_of_mapM_predicate {conditions : List Expr} {ps : List Predicate}
    (hps : conditions.mapM Expr.predicate = .ok ps) :
    (∃ p ∈ ps, p.MatchesList field items) ↔
      ∃ test ∈ conditions.flatMap tests, test.TestsForList field items := by
  induction conditions generalizing ps with
  | nil =>
      obtain rfl := Except.ok.inj hps
      simp
  | cons condition rest ih =>
      obtain ⟨p, others, hp, hothers, rfl⟩ := mapM_cons_eq_ok.mp hps
      obtain ⟨entry, hentry, rfl⟩ := map_eq_ok.mp hp
      rw [List.exists_mem_cons_iff, ih hothers, (entryForm_of_entry hentry).matchesList_iff,
        List.flatMap_cons, exists_mem_append]

/-- In a condition that has an entry every test has one. -/
theorem exists_entry_of_mem_tests {condition : Expr} {entry : Entry}
    (hform : EntryForm condition entry) :
    ∀ test ∈ condition.tests, ∃ result, EntryForm test result := by
  induction hform with
  | lambda hbody ih => exact ih
  | connect op hleft hright ihleft ihright =>
      exact List.forall_mem_append.mpr ⟨ihleft, ihright⟩
  | not hoperand ih => exact ih
  | conditional htest hpositive hnegative ihtest ihpositive ihnegative =>
      exact List.forall_mem_append.mpr
        ⟨List.forall_mem_append.mpr ⟨ihtest, ihpositive⟩, ihnegative⟩
  | compare hcompare => exact List.forall_mem_singleton.mpr ⟨_, .compare hcompare⟩
  | literal value => exact List.forall_mem_singleton.mpr ⟨_, .literal value⟩
  | call hform => exact List.forall_mem_singleton.mpr ⟨_, .call hform⟩
  | field hfield =>
      rw [tests_of_fieldName? hfield]
      exact List.forall_mem_singleton.mpr ⟨_, .field hfield⟩

/-! ## Comparisons with a list -/

/-- A comparison with a list is refused. Where a reference in the list has neither number nor path,
the comparison finds that out first. -/
theorem ComparesList.entry_eq_error {test : Expr} (hcompares : test.ComparesList items) :
    ∃ error, test.entry = .error error ∧
      (error = .unsupported test ∨
        (error = .unresolvableReference ∧ Literal.comparableItems? items = none)) := by
  cases hcompares with
  | @compare op effective left right name hoperands =>
      rw [entry, Predicate.ofComparison, hoperands]
      simp only [Literal.comparable, Literal.comparable?]
      cases hitems : Literal.comparableItems? items with
      | none => exact ⟨_, rfl, .inr ⟨rfl, rfl⟩⟩
      | some forms => exact ⟨_, rfl, .inl rfl⟩
  | equals hfield => exact ⟨_, rfl, .inl rfl⟩

theorem ComparesList.mentionsItem {test : Expr} (hcompares : test.ComparesList items) :
    test.mentionsItem = true := by
  cases hcompares with
  | compare hoperands =>
      rcases Predicate.comparisonOperands?_eq_some hoperands with
        ⟨hfield, -, -⟩ | ⟨-, hfield, -⟩
      · exact mentionsItem_of_child List.mem_cons_self (mentionsItem_of_fieldName? hfield)
      · exact mentionsItem_of_child (List.mem_cons_of_mem _ (List.mem_singleton_self _))
          (mentionsItem_of_fieldName? hfield)
  | equals hfield =>
      exact mentionsItem_of_child List.mem_cons_self (mentionsItem_of_fieldName? hfield)

/-- A filter that compares a field with a list, once captures in it are folded, does not compile on
any chain. -/
theorem ComparesList.compile_eq_error {chain test : Expr} {options : QueryOptions} {query : Query}
    (hmentions : chain.mentionsItem = true) (hcompile : chain.compile options = .ok query)
    (hcompares : test.foldParts.ComparesList items) :
    ∃ error, (chain.call "Where" [lambda test]).compile options = .error error ∧
      (error.kind = .unsupportedExpression ∨
        (error = .unresolvableReference ∧ Literal.comparableItems? items = none)) := by
  have htest : test.closed = false :=
    closed_eq_false_of_mentionsItem (by rw [← mentionsItem_foldParts, hcompares.mentionsItem])
  have hfold : (chain.call "Where" [lambda test]).fold =
      chain.foldParts.call "Where" [lambda test.foldParts] := by
    rw [fold_call_eq, hmentions, Bool.true_or, if_pos rfl, List.map_singleton,
      foldParts_lambda_of_open htest]
  obtain ⟨draft, ps, hadd, -⟩ := compile_eq_ok.mp hcompile
  rw [fold_eq_foldParts hmentions] at hadd
  obtain ⟨error, herror, hcause⟩ := hcompares.entry_eq_error
  let site := chain.foldParts.call "Where" [lambda test.foldParts]
  have hstep : ∃ error, draft.applyOperator .filter [lambda test.foldParts] site = .error error ∧
      (error.kind = .unsupportedExpression ∨
        (error = .unresolvableReference ∧ Literal.comparableItems? items = none)) := by
    by_cases hended : draft.terminal.isSome = true
    · exact ⟨_, Draft.applyOperator_of_ended hended _ _ _, .inl rfl⟩
    · refine ⟨error, ?_, hcause.imp_left fun hunsupported => by rw [hunsupported]; rfl⟩
      rw [Draft.applyOperator_filter hended, Draft.addFilter_eq, entry, herror]
      rfl
  obtain ⟨error, happly, hkind⟩ := hstep
  refine ⟨error, ?_, hkind⟩
  rw [compile, hfold]
  show (do
    let draft ← Draft.start.addChain site
    return (← draft.finish site).withOptions options) = _
  rw [@Draft.addChain_operator "Where" .filter rfl, hadd]
  show (do
    let draft ← draft.applyOperator .filter [lambda test.foldParts] site
    return (← draft.finish site).withOptions options) = _
  rw [happly]
  rfl

end Expr

/-! ## Compiled predicates -/

/-- What has become of the lists of a chain in its query. -/
structure Query.TakesListsApart (query : Query) (chain : Expr) : Prop where
  /-- No range ends at a list. -/
  range : ∀ p, query.predicate = some p → ∀ field lower upper, .range field lower upper ∈ p.nodes →
    ∀ items, lower.value ≠ some (.list items) ∧ upper.value ≠ some (.list items)
  /-- A list in which a field may be is taken apart: each item has an alternative. -/
  alternatives : ∀ test ∈ chain.fold.conditions.flatMap Expr.tests, ∀ values argument, values ≠ [] →
    test = .call (.literal (.list values)) "Contains" [argument] →
      ∃ field forms, argument.fieldName? = some field ∧
        Literal.comparableItems? values = some forms ∧
        test.predicate = .ok (.group (forms.map fun form => (.should, .hasValue field form)))
  /-- The lists that a field is matched with are the lists among the items of those lists. -/
  nested : ∀ field items, (∃ p, query.predicate = some p ∧ p.MatchesList field items) ↔
    ∃ test ∈ chain.fold.conditions.flatMap Expr.tests, test.TestsForList field items
  /-- No condition compares a field with a list. -/
  compared : ∀ test ∈ chain.fold.conditions.flatMap Expr.tests, ∀ items, ¬test.ComparesList items

theorem Expr.exists_entry_of_mapM_predicate {conditions : List Expr} {ps : List Predicate}
    (hps : conditions.mapM predicate = .ok ps) :
    ∀ test ∈ conditions.flatMap tests, ∃ entry, EntryForm test entry := by
  induction conditions generalizing ps with
  | nil => exact List.forall_mem_nil _
  | cons condition rest ih =>
      obtain ⟨p, others, hp, hothers, rfl⟩ := mapM_cons_eq_ok.mp hps
      obtain ⟨entry, hentry, rfl⟩ := map_eq_ok.mp hp
      rw [List.flatMap_cons]
      exact List.forall_mem_append.mpr
        ⟨exists_entry_of_mem_tests (entryForm_of_entry hentry), ih hothers⟩

/-- A call on a list that has a predicate has an alternative for each item. -/
theorem Predicate.CallForm.eq_alternatives {receiver argument : Expr} {method : String}
    {p : Predicate} {values : List Literal} (hform : CallForm receiver argument method p)
    (hreceiver : receiver = .literal (.list values)) (hvalues : values ≠ []) :
    ∃ field forms, argument.fieldName? = some field ∧
      Literal.comparableItems? values = some forms ∧
      p = .group (forms.map fun form => (.should, .hasValue field form)) := by
  subst hreceiver
  cases hform with
  | among hlist _ hfield hforms =>
      cases hlist
      exact ⟨_, _, hfield, hforms, rfl⟩
  | amongNone hlist hfield =>
      cases hlist
      exact absurd rfl hvalues
  | pattern _ hfield _ | equals hfield _ _ _ => cases hfield
  | place _ hitem _ _ | type _ hitem _ _ => cases hitem

/-- A range of a compiled predicate ends at a literal that has an order, and a list has none. -/
theorem Predicate.not_list_of_range {p : Predicate} (hp : p.IsWellShaped) {field : String}
    {lower upper : Bound} (hnode : .range field lower upper ∈ p.nodes) (items : List Literal) :
    lower.value ≠ some (.list items) ∧ upper.value ≠ some (.list items) := by
  have hend {bound : Bound} (hbound : bound.IsEnd) : bound.value ≠ some (.list items) := by
    intro hlist
    obtain ⟨value, hvalue, -, hordered⟩ := hbound
    obtain rfl := Option.some.inj (hvalue.symm.trans hlist)
    cases hordered
  rcases hp _ hnode with ⟨hlower, rfl⟩ | ⟨rfl, hupper⟩
  · exact ⟨hend hlower, nofun⟩
  · exact ⟨nofun, hend hupper⟩

/-- Which lists reach a predicate. A compiled chain has taken its lists apart, and only lists among
the items of those reach the predicate. A filter that compares a field with a list does not compile,
on any chain over items that does. -/
theorem Query.takesListsApart_of_compile {chain : Expr} {options : QueryOptions} {query : Query}
    (hcompile : chain.compile options = .ok query) :
    query.TakesListsApart chain ∧
      (chain.mentionsItem = true → ∀ test items, test.foldParts.ComparesList items →
        ∃ error, (chain.call "Where" [.lambda test]).compile options = .error error ∧
          (error.kind = .unsupportedExpression ∨
            (error = .unresolvableReference ∧ Literal.comparableItems? items = none))) := by
  obtain ⟨ps, hps, hpredicate⟩ := Expr.predicate_of_compile hcompile
  have hentries := Expr.exists_entry_of_mapM_predicate hps
  refine ⟨?_, fun hmentions test items hcompares =>
    hcompares.compile_eq_error hmentions hcompile⟩
  constructor
  case range =>
    intro p hp field lower upper hnode items
    exact Predicate.not_list_of_range (Query.isWellShaped_of_compile hcompile hp) hnode items
  case alternatives =>
    rintro test hmem values argument hvalues rfl
    obtain ⟨entry, hform⟩ := hentries _ hmem
    rw [Expr.predicate, hform.entry_eq]
    cases hform with
    | call hcall =>
        obtain ⟨field, forms, hfield, hforms, rfl⟩ := hcall.eq_alternatives rfl hvalues
        exact ⟨field, forms, hfield, hforms, rfl⟩
    | field hfield => cases hfield
  case nested =>
    intro field items
    rw [hpredicate, Predicate.matchesList_conjunction?]
    exact Expr.matchesList_iff_of_mapM_predicate hps
  case compared =>
    intro test hmem items hcompares
    obtain ⟨entry, hform⟩ := hentries test hmem
    obtain ⟨error, herror, -⟩ := hcompares.entry_eq_error
    rw [hform.entry_eq] at herror
    cases herror

/-- A filter that excludes the items of a list, one of which is a list. -/
def Expr.nestedRoles : Expr :=
  (source "User").call "Where" [lambda (not ((literal (.list [.text "Admin",
    .list [.text "Editor", .content (.ofPath "/R")]])).contains (field "Role")))]

/-- The inner list is excluded as one value, beside the outer list's own item. A second filter that
compares the field with a captured list does not compile. -/
theorem Query.takesListsApart_of_nestedRoles :
    ∃ query, Expr.nestedRoles.compile .default = .ok query ∧
      (∃ p, query.predicate = some p ∧ p.MatchesList "Role" [.text "editor", .text "/r"]) ∧
      ∃ error, (Expr.nestedRoles.call "Where" [.lambda
          (.compare .eq (.field "Role") (.captured "roles" (.list [.int 7])))]).compile .default =
            .error error ∧
        error.kind = .unsupportedExpression := by
  have hcompile : Expr.nestedRoles.compile .default = .ok { Query.all with
      predicate := some (.group [
        (.mustNot, .group [(.should, .hasValue "Role" (.text "admin")),
          (.should, .hasValue "Role" (.list [.text "editor", .text "/r"]))]),
        (.must, .matchAll)]) } := by
    cbv
  have htests : Expr.nestedRoles.fold.conditions.flatMap Expr.tests =
      [.call (.literal (.list [.text "Admin", .list [.text "Editor", .content (.ofPath "/R")]]))
        "Contains" [.field "Role"]] := by
    cbv
  have hinner : Literal.comparableItems? [.text "Editor", .content (.ofPath "/R")] =
      some [.text "editor", .text "/r"] := by
    cbv
  have hmentions : Expr.nestedRoles.mentionsItem = true :=
    Expr.mentionsItem_of_child List.mem_cons_self (Expr.mentionsItem_source "User")
  have hcompares : (Expr.compare .eq (.field "Role")
      (.captured "roles" (.list [.int 7]))).foldParts.ComparesList [.int 7] := by
    have hfold : (Expr.compare .eq (.field "Role") (.captured "roles" (.list [.int 7]))).foldParts =
        .compare .eq (.field "Role") (.literal (.list [.int 7])) := by
      cbv
    rw [hfold]
    exact .compare rfl
  obtain ⟨happart, hrefused⟩ := Query.takesListsApart_of_compile hcompile
  obtain ⟨error, herror, hkind⟩ := hrefused hmentions _ _ hcompares
  refine ⟨_, hcompile, (happart.nested "Role" _).mpr ?_, error, herror, ?_⟩
  · rw [htests]
    exact ⟨_, List.mem_singleton_self _, .field "Role", _, _, rfl, rfl,
      List.mem_cons_of_mem _ (List.mem_singleton_self _), hinner⟩
  · rcases hkind with hkind | ⟨-, hitems⟩
    · exact hkind
    · cases hitems

end ContentQuery
