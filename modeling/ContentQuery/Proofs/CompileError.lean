/-
# The errors of compilation

Whatever is wrong with a chain, the error that its compilation ends with is one of those that arise
before anything is sent: a part has no meaning, an operator is refused by name, or a reference names
no item. Each step of the compilation is shown to end with no other error; the steps are put
together as the compiler puts them together.
-/

import ContentQuery.Chain.Compile
import ContentQuery.Proofs.Condition

namespace ContentQuery

variable {α β : Type}

/-- A computation that can only end with an error of compilation. -/
def IsCompilation (outcome : Except QueryError α) : Prop :=
  ∀ error, outcome = .error error → error.isCompileError = true

namespace IsCompilation

theorem ok (value : α) : IsCompilation (.ok value) := by
  intro error herror
  cases herror

theorem error {error : QueryError} (hclass : error.isCompileError = true) :
    IsCompilation (.error error : Except QueryError α) := by
  rintro _ ⟨⟩
  exact hclass

theorem unsupported (site : Expr) : IsCompilation (.error (.unsupported site) : Except _ α) :=
  error rfl

theorem bind {first : Except QueryError α} {rest : α → Except QueryError β}
    (hfirst : IsCompilation first) (hrest : ∀ value, IsCompilation (rest value)) :
    IsCompilation (first >>= rest) := by
  cases first with
  | error cause => exact error (hfirst cause rfl)
  | ok value => exact hrest value

theorem map {first : Except QueryError α} (hfirst : IsCompilation first) (f : α → β) :
    IsCompilation (f <$> first) := by
  cases first with
  | error cause => exact error (hfirst cause rfl)
  | ok value => exact ok (f value)

theorem mapM {f : α → Except QueryError β} (hf : ∀ value, IsCompilation (f value))
    (values : List α) : IsCompilation (values.mapM f) := by
  induction values with
  | nil => exact ok []
  | cons value rest ih =>
      rw [List.mapM_cons]
      exact (hf value).bind fun result => ih.bind fun results => ok (result :: results)

end IsCompilation

open IsCompilation

/-! ## Predicates -/

theorem Literal.isCompilation_comparable (value : Literal) : IsCompilation value.comparable := by
  unfold comparable
  split
  · exact ok _
  · exact error rfl

namespace Predicate

theorem isCompilation_ofComparison (op : Comparison) (left right site : Expr) :
    IsCompilation (ofComparison op left right site) := by
  unfold ofComparison
  split
  · exact unsupported site
  · refine (Literal.isCompilation_comparable _).bind fun value => ?_
    split
    · exact ok _
    · exact unsupported site

theorem isCompilation_fieldOf (e site : Expr) : IsCompilation (fieldOf e site) := by
  unfold fieldOf
  split
  · exact ok _
  · exact unsupported site

theorem isCompilation_patternOf (argument : Expr) : IsCompilation (patternOf argument) := by
  unfold patternOf
  split
  · exact ok _
  · exact unsupported argument

theorem isCompilation_pathOf (argument : Expr) : IsCompilation (pathOf argument) := by
  unfold pathOf
  split
  · exact ok _
  · split
    · exact ok _
    · exact error rfl
  · exact unsupported argument

theorem isCompilation_anyOf (field : String) (values : List Literal) :
    IsCompilation (anyOf field values) := by
  unfold anyOf
  split
  · exact ok _
  · exact (mapM (fun value => (Literal.isCompilation_comparable value).map _) values).map group

theorem isCompilation_ofPattern (target argument site : Expr) (before after : String) :
    IsCompilation (ofPattern target argument site before after) :=
  (isCompilation_fieldOf target site).bind fun _ =>
    (isCompilation_patternOf argument).bind fun _ => ok _

theorem isCompilation_ofContains (receiver argument site : Expr) :
    IsCompilation (ofContains receiver argument site) := by
  unfold ofContains
  split
  · exact (isCompilation_fieldOf argument site).bind fun field => isCompilation_anyOf field _
  · exact isCompilation_ofPattern _ argument site "*" "*"

theorem isCompilation_ofEquals (receiver argument site : Expr) :
    IsCompilation (ofEquals receiver argument site) := by
  unfold ofEquals
  split
  · split
    · exact unsupported site
    · exact (isCompilation_fieldOf receiver site).bind fun _ =>
        (Literal.isCompilation_comparable _).bind fun _ => ok _
  · exact unsupported site

theorem isCompilation_ofPlace (method : String) (receiver argument site : Expr) :
    IsCompilation (ofPlace method receiver argument site) := by
  unfold ofPlace
  split
  · exact (isCompilation_pathOf argument).bind fun _ => ok _
  · exact unsupported site

theorem isCompilation_ofTypeTest (method : String) (receiver argument site : Expr) :
    IsCompilation (ofTypeTest method receiver argument site) := by
  unfold ofTypeTest
  split
  · split
    · exact ok _
    · exact unsupported site
  · exact unsupported site

theorem isCompilation_ofCall (receiver : Expr) (method : String) (arguments : List Expr)
    (site : Expr) : IsCompilation (ofCall receiver method arguments site) := by
  unfold ofCall
  split
  · rename_i argument
    split
    · exact isCompilation_ofPattern receiver argument site "" "*"
    · exact isCompilation_ofPattern receiver argument site "*" ""
    · exact isCompilation_ofContains receiver argument site
    · exact isCompilation_ofEquals receiver argument site
    · exact isCompilation_ofPlace "InTree" receiver argument site
    · exact isCompilation_ofPlace "InFolder" receiver argument site
    · exact isCompilation_ofTypeTest "TypeIs" receiver argument site
    · exact isCompilation_ofTypeTest "Type" receiver argument site
    · exact unsupported site
  · exact unsupported site

end Predicate

/-! ## Conditions -/

theorem Stack.isCompilation_callPredicate (receiver : Option Expr) (method : String)
    (arguments : List Expr) (site : Expr) :
    IsCompilation (callPredicate receiver method arguments site) := by
  unfold callPredicate
  split
  · exact error rfl
  · split
    · exact Predicate.isCompilation_ofCall _ method arguments site
    · exact unsupported site

theorem Expr.isCompilation_entry (condition : Expr) : IsCompilation condition.entry := by
  induction condition using entry.induct with
  | case1 body ih => rw [entry]; exact ih
  | case2 op left right ihleft ihright =>
      rw [entry]
      exact ihleft.bind fun _ => ihright.bind fun _ => ok _
  | case3 op left right =>
      rw [entry]
      exact (Predicate.isCompilation_ofComparison op left right _).map _
  | case4 operand ih => rw [entry]; exact ih.map _
  | case5 test positive negative ihtest ihpositive ihnegative =>
      rw [entry]
      exact ihtest.bind fun _ => ihpositive.bind fun _ => ihnegative.bind fun _ => ok _
  | case6 value => rw [entry]; exact ok _
  | case7 receiver method arguments =>
      rw [entry]
      exact (Stack.isCompilation_callPredicate _ method arguments _).map _
  | case8 function arguments =>
      rw [entry]
      exact (Stack.isCompilation_callPredicate _ function arguments _).map _
  | case9 other hlambda hconnect hcompare hnot hconditional hliteral hcall hinvoke field hfield =>
      rw [entry, hfield]
      · exact ok _
      all_goals assumption
  | case10 other hlambda hconnect hcompare hnot hconditional hliteral hcall hinvoke hfield =>
      rw [entry, hfield]
      · exact unsupported other
      all_goals assumption

namespace Stack

theorem isCompilation_pushCondition (condition : Expr) (stack : Stack) :
    IsCompilation (stack.pushCondition condition) := by
  rw [pushCondition_eq]
  exact condition.isCompilation_entry.map _

theorem isCompilation_pop (site : Expr) (stack : Stack) : IsCompilation (stack.pop site) := by
  cases stack with
  | nil => exact unsupported site
  | cons entry rest => exact ok _

theorem isCompilation_mergeFilter (site : Expr) (stack : Stack) :
    IsCompilation (stack.mergeFilter site) := by
  unfold mergeFilter
  split
  · exact (isCompilation_pop site stack).bind fun _ => (isCompilation_pop site _).bind fun _ => ok _
  · exact ok stack

end Stack

/-! ## Projections -/

namespace Projection

theorem isCompilation_addArguments (projection : Projection) (position : Nat)
    (arguments : List Expr) : IsCompilation (projection.addArguments position arguments) := by
  induction arguments generalizing projection position with
  | nil => exact ok projection
  | cons argument rest ih =>
      rw [addArguments]
      split
      · exact ih _ _
      · exact error rfl

theorem isCompilation_ofBody (body : Expr) : IsCompilation (ofBody body) := by
  unfold ofBody
  split
  · split
    · exact (isCompilation_addArguments _ 0 _).map minimal
    · exact unsupported _
  · exact unsupported body

end Projection

/-! ## Chains -/

namespace Draft

theorem isCompilation_countOf (arguments : List Expr) (site : Expr) :
    IsCompilation (countOf arguments site) := by
  unfold countOf
  split
  · split
    · exact ok _
    · exact unsupported site
  · exact unsupported site

theorem isCompilation_sortFieldOf (arguments : List Expr) (site : Expr) :
    IsCompilation (sortFieldOf arguments site) := by
  unfold sortFieldOf
  split
  · split
    · exact ok _
    · exact unsupported _
  · exact unsupported site

theorem isCompilation_addFilter (draft : Draft) (condition site : Expr) :
    IsCompilation (draft.addFilter condition site) :=
  (Stack.isCompilation_pushCondition condition draft.conditions).bind fun _ =>
    (Stack.isCompilation_mergeFilter site _).bind fun _ => ok _

theorem isCompilation_addTypeFilter (draft : Draft) (value : Literal) (site : Expr) :
    IsCompilation (draft.addTypeFilter value site) := by
  unfold addTypeFilter
  split
  · exact (Stack.isCompilation_mergeFilter site _).bind fun _ => ok _
  · exact unsupported site

theorem isCompilation_applyTerminal (draft : Draft) (terminal : Terminal) (arguments : List Expr)
    (site : Expr) : IsCompilation (draft.applyTerminal terminal arguments site) := by
  unfold applyTerminal
  split
  · exact (isCompilation_countOf arguments site).bind fun _ => ok _
  · exact ok _
  · exact (isCompilation_addFilter draft _ site).bind fun _ => ok _
  · exact unsupported site

theorem isCompilation_applyOperator (draft : Draft) (operator : Operator) (arguments : List Expr)
    (site : Expr) : IsCompilation (draft.applyOperator operator arguments site) := by
  unfold applyOperator
  split
  · exact unsupported site
  · split
    · exact isCompilation_addFilter draft _ site
    · exact isCompilation_addTypeFilter draft _ site
    · exact (isCompilation_sortFieldOf arguments site).bind fun _ => ok _
    · exact (isCompilation_sortFieldOf arguments site).bind fun _ => ok _
    · exact (isCompilation_countOf arguments site).bind fun _ => ok _
    · exact (isCompilation_countOf arguments site).bind fun _ => ok _
    · exact (Projection.isCompilation_ofBody _).bind fun _ => ok _
    · exact isCompilation_applyTerminal draft _ arguments site
    · exact unsupported site

theorem isCompilation_addChain (draft : Draft) (chain : Expr) :
    IsCompilation (draft.addChain chain) := by
  have hcondition (condition : Expr) : IsCompilation
      (do return { draft with conditions := ← draft.conditions.pushCondition condition }) :=
    (Stack.isCompilation_pushCondition condition draft.conditions).bind fun _ => ok _
  induction chain using addChain.induct with
  | case1 typeName => exact ok draft
  | case2 receiver method arguments hdisallowed =>
      rw [addChain, if_pos hdisallowed]
      exact error rfl
  | case3 receiver method arguments hallowed operator hname ih =>
      rw [addChain, if_neg hallowed, hname]
      exact ih.bind fun earlier => isCompilation_applyOperator earlier operator arguments _
  | case4 receiver method arguments hallowed hname =>
      rw [addChain, if_neg hallowed, hname]
      exact hcondition _
  | case5 condition hsource hcall =>
      rw [addChain.eq_3 _ _ hsource hcall]
      exact hcondition condition

theorem isCompilation_finish (draft : Draft) (site : Expr) : IsCompilation (draft.finish site) := by
  unfold finish
  split
  · exact ok _
  · exact ok _
  · exact unsupported site

end Draft

/-- A chain that does not compile ends with an error of compilation. -/
theorem Expr.isCompilation_compile (chain : Expr) (options : QueryOptions) :
    IsCompilation (chain.compile options) :=
  (Draft.isCompilation_addChain Draft.start chain.fold).bind fun draft =>
    (Draft.isCompilation_finish draft chain.fold).bind fun _ => ok _

end ContentQuery
