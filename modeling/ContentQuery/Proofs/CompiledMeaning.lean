/-
# Compilation keeps the meaning of a filter

Two steps lie between a chain and its predicate. Folding replaces closed parts by their values;
as the truth of a part that does not look at the item is its value, nothing is true that was not.
The stack then makes an entry of each condition, and the entry's predicate accepts the item exactly
when the condition is true of it: a bare field counts as being true until it is negated, a literal
on the left flips its comparison, and a conditional is the choice between its branches.

A condition for which there is an entry always has a meaning. The converse fails: a part can have a
value and no entry, when a nullable conversion keeps it from being folded.
-/

import Mathlib
import ContentQuery.Proofs.Meaning

namespace ContentQuery

open Outcome

/-! ## Folding keeps the meaning -/

namespace Expr

theorem value?_foldParts (e : Expr) : e.foldParts.value? = e.value? := by
  rw [value?, value?, mentionsItem_foldParts, evaluate?_foldParts]

theorem operand?_foldParts (e : Expr) : e.foldParts.operand? = e.operand? := by
  rw [operand?, operand?, stripConversions_foldParts, value?_foldParts]

/-- Whether an expression has no truth of its own but that of the field that it may name. -/
def isBare : Expr → Bool
  | lambda _ | connect _ _ _ | not _ | conditional _ _ _ | compare _ _ _ | call _ _ _ => false
  | _ => true

theorem isBare_withChildren (e : Expr) (replacements : List Expr) :
    (e.withChildren replacements).isBare = e.isBare := by
  cases e <;> rfl

theorem value?_literal (value : Literal) : (literal value).value? = some value :=
  value?_eq_some (by rw [mentionsItem_eq]; rfl) rfl

theorem operand?_of_stripConversions {e : Expr} {value : Literal}
    (hliteral : e.stripConversions = literal value) : e.operand? = some value := by
  rw [operand?, hliteral, value?_literal]

theorem fieldName?_of_stripConversions {e : Expr} {value : Literal}
    (hliteral : e.stripConversions = literal value) : e.fieldName? = none := by
  rw [fieldName?, hliteral]

theorem value?_eq_none_of_mem_children {child e : Expr} {field : String} (hmem : child ∈ e.children)
    (hfield : child.fieldName? = some field) : e.value? = none := by
  have hmentions := mentionsItem_of_child hmem (mentionsItem_of_fieldName? hfield)
  rw [value?, hmentions]
  rfl

end Expr

namespace Reading

variable (reading : Reading)

/-- A call of the search endpoint's own words looks at fields and values only, so it means the same
after its parts are folded. -/
theorem callTruth?_foldParts (receiver : Expr) (method : String) (arguments : List Expr) :
    reading.callTruth? receiver.foldParts method (arguments.map Expr.foldParts) =
      reading.callTruth? receiver method arguments := by
  have hpattern (target argument : Expr) (before after : String) :
      reading.patternTruth? target.foldParts argument.foldParts before after =
        reading.patternTruth? target argument before after := by
    rw [patternTruth?, patternTruth?, Expr.fieldName?_foldParts, Expr.value?_foldParts]
  rcases arguments with _ | ⟨argument, _ | ⟨second, rest⟩⟩
  · rfl
  · simp only [List.map_cons, List.map_nil, callTruth?, hpattern, containsTruth?, equalsTruth?,
      itemTruth?, Expr.isItem_foldParts, Expr.fieldName?_foldParts, Expr.value?_foldParts]
  · rfl

theorem truth?_of_isBare {e : Expr} (hbare : e.isBare = true) (hvalue : e.value? = none) :
    reading.truth? e = e.fieldName?.map fun field => reading.holds field .eq (.bool true) := by
  cases e with
  | lambda _ | connect _ _ _ | not _ | conditional _ _ _ | compare _ _ _ | call _ _ _ => cases hbare
  | _ => simp only [truth?, hvalue]

/-- Folding a condition changes neither whether it is true nor whether it has a meaning. -/
theorem truth?_foldParts (e : Expr) : reading.truth? e.foldParts = reading.truth? e := by
  induction e using Expr.induction_on_children with
  | step e ih =>
      rcases Expr.foldParts_cases e with
        ⟨value, hclosed, hvalue, hfold⟩ | ⟨-, -, hfold⟩ | ⟨-, hfold⟩
      · have hmentions := Expr.not_mentionsItem_of_closed e hclosed
        rw [hfold, truth?_of_value? reading (Expr.value?_literal value),
          truth?_of_value? reading (Expr.value?_eq_some hmentions hvalue)]
      · rw [hfold]
      · have hvalue := Expr.value?_foldParts e
        cases hnone : e.value? with
        | some value =>
            rw [truth?_of_value? reading hnone, truth?_of_value? reading (hvalue.trans hnone)]
        | none =>
            have hfield := Expr.fieldName?_foldParts e
            rw [hnone, hfold] at hvalue
            rw [hfold] at hfield ⊢
            cases e with
            | lambda body =>
                have hbody := ih body (by simp [Expr.children])
                exact (reading.truth?_lambda _).trans (hbody.trans (reading.truth?_lambda _).symm)
            | connect op left right =>
                have hleft := ih left (by simp [Expr.children])
                have hright := ih right (by simp [Expr.children])
                change (Expr.connect op left.foldParts right.foldParts).value? = none at hvalue
                show reading.truth? (.connect op left.foldParts right.foldParts) = _
                simp only [truth?, hvalue, hnone, hleft, hright]
            | not operand =>
                have hoperand := ih operand (by simp [Expr.children])
                change (Expr.not operand.foldParts).value? = none at hvalue
                show reading.truth? (.not operand.foldParts) = _
                simp only [truth?, hvalue, hnone, hoperand]
            | conditional test positive negative =>
                have htest := ih test (by simp [Expr.children])
                have hpositive := ih positive (by simp [Expr.children])
                have hnegative := ih negative (by simp [Expr.children])
                change (Expr.conditional test.foldParts positive.foldParts
                  negative.foldParts).value? = none at hvalue
                show reading.truth? (.conditional test.foldParts positive.foldParts
                  negative.foldParts) = _
                simp only [truth?, hvalue, hnone, htest, hpositive, hnegative]
            | compare op left right =>
                change (Expr.compare op left.foldParts right.foldParts).value? = none at hvalue
                show reading.truth? (.compare op left.foldParts right.foldParts) = _
                simp only [truth?, hvalue, hnone, comparisonTruth?, Expr.fieldName?_foldParts,
                  Expr.operand?_foldParts]
            | call receiver method arguments =>
                rw [Expr.withChildren_call] at hvalue ⊢
                simp only [truth?, hvalue, hnone, callTruth?_foldParts]
            | _ =>
                rw [truth?_of_isBare reading (by rw [Expr.isBare_withChildren]; rfl) hvalue,
                  truth?_of_isBare reading rfl hnone, hfield]

end Reading

theorem Operator.condition?_map_foldParts (operator : Operator) (arguments : List Expr) :
    operator.condition? (arguments.map Expr.foldParts) =
      (operator.condition? arguments).map Expr.foldParts := by
  rcases arguments with _ | ⟨argument, _ | ⟨second, rest⟩⟩
  · cases operator <;> rfl
  · cases operator with
    | ofType =>
        have hopen : (Expr.item.call "TypeIs" [argument]).closed = false := by
          rw [Expr.closed_eq]
          simp [Expr.children]
        have hfold : (Expr.item.call "TypeIs" [argument]).foldParts =
            Expr.item.call "TypeIs" [argument.foldParts] := by
          rw [Expr.foldParts_of_open hopen, Expr.withChildren_call, Expr.foldParts_item]
          rfl
        simp only [List.map_cons, List.map_nil, condition?, Option.map_some, hfold]
    | terminal reduction =>
        simp only [List.map_cons, List.map_nil, condition?]
        by_cases haccepts : reduction.acceptsCondition = true
        · rw [if_pos haccepts, if_pos haccepts, Option.map_some]
        · rw [if_neg haccepts, if_neg haccepts, Option.map_none]
    | _ => rfl
  · cases operator <;> rfl

/-- What is neither a source nor a call is no chain, and folding does not make it one. -/
theorem Expr.conditions_foldParts_of_no_chain {e : Expr}
    (hsource : ∀ typeName, e = source typeName → False)
    (hcall : ∀ receiver method arguments, e = call receiver method arguments → False) :
    e.foldParts.conditions = [e.foldParts] := by
  rcases foldParts_cases e with ⟨value, -, -, hfold⟩ | ⟨-, -, hfold⟩ | ⟨-, hfold⟩
  · rw [hfold]
    rfl
  · rw [hfold, conditions.eq_3 e hsource hcall]
  · rw [hfold]
    cases e with
    | source typeName => exact (hsource typeName rfl).elim
    | call receiver method arguments => exact (hcall receiver method arguments rfl).elim
    | _ => rfl

namespace Reading

variable (reading : Reading)

/-- Folding a chain changes no truth of its conditions. A closed chain without a value is left as it
is, conditions and all, so it is not true that every condition is folded. -/
theorem map_truth?_conditions_foldParts (chain : Expr) :
    chain.foldParts.conditions.map reading.truth? = chain.conditions.map reading.truth? := by
  induction chain using Expr.conditions.induct with
  | case1 typeName =>
      rw [Expr.foldParts_of_open (by rw [Expr.closed_eq]; rfl)]
      rfl
  | case2 receiver method arguments operator hname ih =>
      rcases Expr.foldParts_cases (receiver.call method arguments) with
        ⟨value, -, hvalue, -⟩ | ⟨-, -, hfold⟩ | ⟨-, hfold⟩
      · cases hvalue
      · rw [hfold]
      · rw [hfold, Expr.withChildren_call, Expr.conditions, Expr.conditions, hname]
        simp only [List.map_append, ih, Operator.condition?_map_foldParts]
        cases operator.condition? arguments with
        | none => rfl
        | some condition =>
            simp only [Option.map_some, Option.toList_some, List.map_cons, List.map_nil,
              truth?_foldParts]
  | case3 receiver method arguments hname =>
      have htruth := reading.truth?_foldParts (receiver.call method arguments)
      rcases Expr.foldParts_cases (receiver.call method arguments) with
        ⟨value, -, hvalue, -⟩ | ⟨-, -, hfold⟩ | ⟨-, hfold⟩
      · cases hvalue
      · rw [hfold]
      · rw [hfold, Expr.withChildren_call] at htruth ⊢
        simp only [Expr.conditions, hname, List.map_cons, List.map_nil, htruth]
  | case4 condition hsource hcall =>
      rw [Expr.conditions_foldParts_of_no_chain hsource hcall,
        Expr.conditions.eq_3 condition hsource hcall, List.map_singleton, List.map_singleton,
        truth?_foldParts]

/-- Folding a whole chain changes nothing of what it means. -/
theorem chainTruth?_fold (chain : Expr) :
    reading.chainTruth? chain.fold = reading.chainTruth? chain := by
  have hmapM (conditions : List Expr) :
      conditions.mapM reading.truth? = (conditions.map reading.truth?).mapM id := by
    rw [List.mapM_map]
    rfl
  cases hmentions : chain.mentionsItem with
  | true =>
      rw [Expr.fold_eq_foldParts hmentions, chainTruth?, chainTruth?, hmapM,
        map_truth?_conditions_foldParts, ← hmapM]
  | false => rw [Expr.fold_of_not_mentionsItem hmentions]

/-! ## An entry means its condition -/

theorem accepts_entry_negate (entry : Entry) :
    reading.accepts entry.negate.toPredicate = !reading.accepts entry.toPredicate := by
  cases entry with
  | predicate p => exact reading.accepts_negate p
  | flag field value =>
      show reading.holds field .eq (.bool (!value)) = !reading.holds field .eq (.bool value)
      cases value with
      | true => exact reading.holds_false field
      | false => rw [reading.holds_false, Bool.not_not]; rfl

theorem accepts_entry_join (op : Connective) (left right : Entry) :
    reading.accepts (Entry.join op left right).toPredicate =
      op.holds (reading.accepts left.toPredicate) (reading.accepts right.toPredicate) := by
  cases op with
  | and => exact reading.accepts_must _ _
  | or => exact reading.accepts_should _ _

/-- The predicate of a comparison with a value accepts the items for which the comparison holds. -/
theorem accepts_ofComparison? {field : String} {op : Comparison} {value : Literal} {p : Predicate}
    (hcompare : Predicate.ofComparison? field op value = some p) :
    reading.accepts p = reading.holds field op value := by
  unfold Predicate.ofComparison? at hcompare
  by_cases hlist : value.isList = true
  · rw [if_pos hlist] at hcompare
    cases hcompare
  · rw [if_neg hlist] at hcompare
    cases op with
    | eq =>
        obtain rfl := Option.some.inj hcompare
        exact reading.accepts_hasValue field value
    | ne =>
        obtain rfl := Option.some.inj hcompare
        rw [accepts_negate, accepts_hasValue, reading.holds_ne]
    | gt | ge =>
        -- Null has no order, so these comparisons with it have no predicate.
        by_cases hnull : value.isNull = true
        · simp only [hnull, if_true] at hcompare
          cases hcompare
        · simp only [hnull] at hcompare
          obtain rfl := Option.some.inj hcompare
          exact reading.accepts_lowerBound field value _
    | lt | le =>
        by_cases hnull : value.isNull = true
        · simp only [hnull, if_true] at hcompare
          cases hcompare
        · simp only [hnull] at hcompare
          obtain rfl := Option.some.inj hcompare
          exact reading.accepts_upperBound field value _

theorem truth?_of_ofComparison {op : Comparison} {left right site : Expr} {p : Predicate}
    (hcompare : Predicate.ofComparison op left right site = .ok p) :
    reading.truth? (.compare op left right) = some (reading.accepts p) := by
  obtain ⟨field, effective, value, form, hoperands, hform, hp⟩ :=
    Predicate.ofComparison_eq_ok.mp hcompare
  rw [reading.accepts_ofComparison? hp]
  rcases Predicate.comparisonOperands?_eq_some hoperands with
    ⟨hfield, hliteral, rfl⟩ | ⟨hliteral, hfield, rfl⟩
  · have hvalue : (Expr.compare effective left right).value? = none :=
      Expr.value?_eq_none_of_mem_children (by simp [Expr.children]) hfield
    rw [truth?, hvalue]
    show reading.comparisonTruth? effective left right = _
    rw [comparisonTruth?, hfield, Expr.operand?_of_stripConversions hliteral]
    simp only [hform, Option.map_some]
  · have hvalue : (Expr.compare op left right).value? = none :=
      Expr.value?_eq_none_of_mem_children (by simp [Expr.children]) hfield
    rw [truth?, hvalue]
    show reading.comparisonTruth? op left right = _
    rw [comparisonTruth?, Expr.fieldName?_of_stripConversions hliteral,
      Expr.operand?_of_stripConversions hliteral, hfield]
    simp only [hform, Option.map_some]

/-- A field has one of several values when it is equal to one of them. -/
theorem accepts_among (field : String) {forms : List Literal} (hforms : forms ≠ []) :
    reading.accepts (.group (forms.map fun form => (.should, .hasValue field form))) =
      forms.any (reading.holds field .eq) := by
  have hverdicts (values : List Literal) :
      reading.verdicts (values.map fun value => (.should, .hasValue field value)) =
        (values.map (reading.holds field .eq)).map fun truth => (.should, truth) := by
    induction values with
    | nil => rw [List.map_nil, verdicts]; rfl
    | cons value rest ih =>
        rw [List.map_cons, verdicts, ih, accepts_hasValue]
        rfl
  rw [accepts, hverdicts, groupHolds_should _ (by simpa using hforms), List.any_map]
  rfl

theorem callTruth?_of_callForm {receiver argument : Expr} {method : String} {p : Predicate}
    (hform : Predicate.CallForm receiver argument method p) :
    reading.callTruth? receiver method [argument] = some (reading.accepts p) := by
  cases hform with
  | @pattern method before after field text hmethod hfield htext =>
      have hpattern : reading.patternTruth? receiver argument before after =
          some (reading.accepts (.wildcard field (before ++ text ++ after))) := by
        rw [patternTruth?, hfield, htext, Expr.value?_literal, accepts]
      have hlist : receiver.value? = none := by
        rw [Expr.value?, Expr.mentionsItem_of_fieldName? hfield]
        rfl
      simp only [List.mem_cons, Prod.mk.injEq, List.not_mem_nil, or_false] at hmethod
      rcases hmethod with ⟨rfl, rfl, rfl⟩ | ⟨rfl, rfl, rfl⟩ | ⟨rfl, rfl, rfl⟩
      · exact hpattern
      · exact hpattern
      · show reading.containsTruth? receiver argument = _
        rw [containsTruth?, hlist]
        exact hpattern
  | amongNone hlist hfield =>
      show reading.containsTruth? receiver argument = _
      rw [containsTruth?, hlist, Expr.value?_literal, hfield, accepts_matchNone]
      rfl
  | @among field values forms hlist hvalues hfield hforms =>
      have hnonempty := Literal.comparableItems?_ne_nil hvalues hforms
      show reading.containsTruth? receiver argument = _
      rw [containsTruth?, hlist, Expr.value?_literal, hfield, reading.accepts_among field hnonempty]
      show (do return (← Literal.comparableItems? values).any (reading.holds field .eq)) = _
      rw [hforms]
      rfl
  | @equals field value form hfield hvalue hscalar hform =>
      show reading.equalsTruth? receiver argument = _
      rw [equalsTruth?, hfield, hvalue, Expr.value?_literal, accepts_hasValue]
      show (do return reading.holds field .eq (← value.comparable?)) = _
      rw [hform]
      rfl
  | @place method path value hmethod hitem hvalue hpath =>
      have htest : reading.itemTruth? method receiver argument Literal.pathTerm? =
          some (reading.accepts (.hasValue method (.text path))) := by
        rw [itemTruth?, hitem, hvalue, Expr.value?_literal, accepts_hasValue]
        simp only [Expr.isItem, if_true, Option.bind_some, hpath, Option.map_some]
      simp only [List.mem_cons, List.not_mem_nil, or_false] at hmethod
      rcases hmethod with rfl | rfl
      · exact htest
      · exact htest
  | @type method name value hmethod hitem hvalue hname =>
      have htest : reading.itemTruth? method receiver argument Literal.typeTerm? =
          some (reading.accepts (.hasValue method (.text name))) := by
        rw [itemTruth?, hitem, hvalue, Expr.value?_literal, accepts_hasValue]
        simp only [Expr.isItem, if_true, Option.bind_some, hname, Option.map_some]
      simp only [List.mem_cons, List.not_mem_nil, or_false] at hmethod
      rcases hmethod with rfl | rfl
      · exact htest
      · exact htest

/-- A bare field is true when the field is. -/
theorem truth?_of_fieldName? {e : Expr} {field : String} (hfield : e.fieldName? = some field) :
    reading.truth? e = some (reading.holds field .eq (.bool true)) := by
  have hvalue : e.value? = none := by
    rw [Expr.value?, Expr.mentionsItem_of_fieldName? hfield]
    rfl
  have hbare : e.isBare = true := by
    cases e with
    | lambda _ | connect _ _ _ | not _ | conditional _ _ _ | compare _ _ _ | call _ _ _ =>
        cases hfield
    | _ => rfl
  rw [reading.truth?_of_isBare hbare hvalue, hfield, Option.map_some]

/-- A condition for which there is an entry is true exactly of the items that the entry's predicate
accepts. -/
theorem truth?_eq_accepts_entry {condition : Expr} {entry : Entry}
    (hform : Expr.EntryForm condition entry) :
    reading.truth? condition = some (reading.accepts entry.toPredicate) := by
  induction hform with
  | lambda hbody ih => rw [truth?_lambda, ih]
  | connect op hleft hright ihleft ihright =>
      rw [accepts_entry_join]
      exact reading.truth?_connect op ihleft ihright
  | compare hcompare => exact reading.truth?_of_ofComparison hcompare
  | not hoperand ih =>
      rw [accepts_entry_negate]
      exact reading.truth?_not ih
  | @conditional test positive negative tested first second htest hpositive hnegative ihtest
      ihpositive ihnegative =>
      simp only [accepts_entry_join, accepts_entry_negate, Connective.holds]
      rw [reading.truth?_conditional ihtest ihpositive ihnegative]
      cases reading.accepts tested.toPredicate <;> simp
  | literal value =>
      rw [truth?_of_value? reading (Expr.value?_literal _)]
      cases value with
      | true => exact congrArg some reading.accepts_matchAll.symm
      | false => exact congrArg some reading.accepts_matchNone.symm
  | call hform =>
      rw [truth?, Expr.value?_eq_none rfl]
      exact reading.callTruth?_of_callForm hform
  | @field e field hfield =>
      rw [reading.truth?_of_fieldName? hfield]
      exact congrArg some (reading.accepts_hasValue field (.bool true)).symm

/-- The conditions of a chain, one by one. -/
theorem mapM_truth?_of_mapM_predicate {conditions : List Expr} {ps : List Predicate}
    (hps : conditions.mapM Expr.predicate = .ok ps) :
    conditions.mapM reading.truth? = some (ps.map reading.accepts) := by
  induction conditions generalizing ps with
  | nil => rw [← Except.ok.inj hps]; rfl
  | cons condition rest ih =>
      obtain ⟨p, others, hp, hothers, rfl⟩ := mapM_cons_eq_ok.mp hps
      obtain ⟨entry, hentry, rfl⟩ := map_eq_ok.mp hp
      rw [List.mapM_cons, reading.truth?_eq_accepts_entry (Expr.entryForm_of_entry hentry),
        ih hothers]
      rfl

end Reading

/-- The meaning of filters is preserved. Whatever a reading says of an item, all conditions of a
chain that compiles have a meaning, and the compiled predicate accepts the item exactly when all of
them are true of it. -/
theorem Reading.acceptsAll_predicate_of_compile (reading : Reading) {chain : Expr}
    {options : QueryOptions} {query : Query} (hcompile : chain.compile options = .ok query) :
    reading.chainTruth? chain = some (reading.acceptsAll query.predicate) := by
  obtain ⟨ps, hps, hpredicate⟩ := Expr.predicate_of_compile hcompile
  rw [← chainTruth?_fold, hpredicate, acceptsAll_conjunction?, chainTruth?,
    reading.mapM_truth?_of_mapM_predicate hps, Option.map_some]

/-- The reading of an item of which every field is true and above everything. -/
def Reading.affirmative : Reading where
  holds _ op value :=
    match op, value with
    | .eq, .bool true => true
    | .ne, .bool true => false
    | .ne, _ | .gt, _ => true
    | _, _ => false
  matchesPattern _ _ := true
  holds_ne _ value := by
    cases value with
    | bool value => cases value <;> rfl
    | _ => rfl
  holds_false _ := rfl
  holds_id := rfl

/-- Two filters, one of them a negated field and the other with its field on the right, become one
group that accepts what both say. -/
theorem acceptsAll_predicate_of_two_filters :
    Reading.affirmative.chainTruth?
        (((Expr.source "User").call "Where" [.lambda (.not (.field "Hidden"))]).call "Where"
          [.lambda (.compare .ne (.literal (.int 30)) (.field "Age"))]) =
      some (Reading.affirmative.acceptsAll (some (.group
        [(.must, .hasValue "Hidden" (.bool false)), (.mustNot, .hasValue "Age" (.int 30))]))) := by
  have hcompile : (((Expr.source "User").call "Where" [.lambda (.not (.field "Hidden"))]).call
      "Where" [.lambda (.compare .ne (.literal (.int 30)) (.field "Age"))]).compile .default =
        .ok { Query.all with predicate := some (.group [(.must, .hasValue "Hidden" (.bool false)),
          (.mustNot, .hasValue "Age" (.int 30))]) } := by
    cbv
  exact Reading.affirmative.acceptsAll_predicate_of_compile hcompile

end ContentQuery
