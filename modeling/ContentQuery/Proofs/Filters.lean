/-
# Filters in other words

A condition comes to a chain as a filter, as the argument of a terminal or as the type that a chain
is narrowed to, and several conditions come one by one or as one conjunction. Each has code of its
own, and the conditions are put together at different moments: a conjunction is joined while it is
walked, filters one after the other, a terminal's condition after all of them. This module proves
that none of it makes a difference: the two ways of saying it compile to one query, or fail with
errors of one kind, whatever the chain says before and after.

Two chains are compared as they are folded. The test of a type mentions the item and the type alone
does not, so the chain that is narrowed must mention a source for both to be folded alike, as every
chain over items does.
-/

import ContentQuery.Proofs.Agreement
import ContentQuery.Proofs.Run

namespace ContentQuery

/-! ## Conditions of terminals -/

namespace Draft

variable (draft : Draft)

/-- A condition of a terminal is a filter before it, on every draft. -/
theorem agrees_condition {terminal : Terminal} (haccepts : terminal.acceptsCondition = true)
    (condition site inner outer : Expr) :
    Agrees (draft.applyOperator (.terminal terminal) [condition] site)
      (draft.applyOperator .filter [condition] inner >>= fun filtered =>
        filtered.applyOperator (.terminal terminal) [] outer) := by
  by_cases hended : draft.terminal.isSome = true
  · rw [applyOperator_of_ended hended, applyOperator_of_ended hended]
    exact .error rfl
  · rw [applyOperator_terminal hended, applyOperator_filter hended,
      applyTerminal_singleton haccepts, addFilter_eq, addFilter_eq]
    cases condition.entry with
    | error cause => exact .error rfl
    | ok entry =>
        let filtered := { draft with conditions := draft.conditions.withFilter entry }
        -- the filter does not end the draft, so the terminal finds it open
        have hopen : ¬filtered.terminal.isSome = true := hended
        show Agrees (.ok (filtered.close terminal 0))
          (filtered.applyOperator (.terminal terminal) [] outer)
        rw [applyOperator_terminal hopen, applyTerminal_nil haccepts]

/-- Narrowing to a type is a filter with the test of the type, on every draft. -/
theorem agrees_ofType (argument site other : Expr) :
    Agrees (draft.applyOperator .ofType [argument] site)
      (draft.applyOperator .filter [.lambda (Expr.item.call "TypeIs" [argument])] other) := by
  by_cases hended : draft.terminal.isSome = true
  · rw [applyOperator_of_ended hended, applyOperator_of_ended hended]
    exact .error rfl
  · have htest : (Expr.lambda (Expr.item.call "TypeIs" [argument])).entry =
        Entry.predicate <$> Predicate.ofTypeTest "TypeIs" .item argument
          (Expr.item.call "TypeIs" [argument]) := rfl
    rw [applyOperator_filter hended, addFilter_eq, htest]
    unfold applyOperator
    rw [if_neg hended]
    cases argument with
    | literal value =>
        show Agrees (draft.addTypeFilter value site) _
        rw [addTypeFilter_eq, Predicate.ofTypeTest]
        cases value.typeTerm? with
        | none => exact .error rfl
        | some name => exact .ok _
    | _ => exact .error rfl

end Draft

namespace Expr

/-- A terminal with a condition compiles like the terminal after the condition as a filter. Both
chains have the same parts, so they are folded alike whether they mention the item or not. -/
theorem agrees_compile_condition {name : String} {terminal : Terminal}
    (hname : Operator.ofName? name = some (.terminal terminal))
    (haccepts : terminal.acceptsCondition = true) (chain condition : Expr)
    (options : QueryOptions) :
    Agrees ((chain.call name [condition]).compile options)
      (((chain.call "Where" [condition]).call name []).compile options) := by
  have hdrafts (folded condition : Expr) :
      Agrees (Draft.start.addChain (folded.call name [condition]))
        (Draft.start.addChain ((folded.call "Where" [condition]).call name [])) := by
    rw [Draft.addChain_operator hname, Draft.addChain_operator hname,
      @Draft.addChain_operator "Where" .filter rfl, bind_assoc]
    exact Agrees.bind (.refl _) fun draft => draft.agrees_condition haccepts condition _ _ _
  refine agrees_compile ?_ options
  rw [fold_call_eq, fold_call_eq (chain.call "Where" [condition]), mentionsItem_call]
  by_cases hmentions : (chain.mentionsItem || [condition].any mentionsItem) = true
  · have hwhere : (chain.call "Where" [condition]).foldParts =
        chain.foldParts.call "Where" [condition.foldParts] := by
      have hcall := (mentionsItem_call chain "Where" [condition]).trans hmentions
      rw [← fold_eq_foldParts hcall, fold_call_eq, if_pos hmentions]
      rfl
    rw [if_pos hmentions, if_pos (by rwa [List.any_nil, Bool.or_false]), hwhere]
    exact hdrafts chain.foldParts condition.foldParts
  · rw [if_neg hmentions, if_neg (by rwa [List.any_nil, Bool.or_false])]
    exact hdrafts chain condition

/-- A chain narrowed to a type goes on like the chain with the test of the type as a filter. -/
theorem interchangeable_ofType {chain : Expr} (hmentions : chain.mentionsItem = true)
    (argument : Expr) :
    Interchangeable (chain.call "OfType" [argument])
      (chain.call "Where" [lambda (item.call "TypeIs" [argument])]) where
  firstSpine := List.cons_ne_nil _ _
  secondSpine := List.cons_ne_nil _ _
  firstMentions := mentionsItem_of_child List.mem_cons_self hmentions
  secondMentions := mentionsItem_of_child List.mem_cons_self hmentions
  drafts := by
    have htest : (lambda (item.call "TypeIs" [argument])).foldParts =
        lambda (item.call "TypeIs" [argument.foldParts]) := by
      have hopen : (item.call "TypeIs" [argument]).closed = false := by
        rw [closed_eq]
        simp [children]
      rw [foldParts_lambda_of_open hopen, foldParts_call_of_open closed_item, foldParts_item]
      rfl
    have hchain := closed_eq_false_of_mentionsItem hmentions
    rw [foldParts_call_of_open hchain, foldParts_call_of_open hchain, List.map_singleton,
      List.map_singleton, htest, @Draft.addChain_operator "OfType" .ofType rfl,
      @Draft.addChain_operator "Where" .filter rfl]
    exact Agrees.bind (.refl _) fun draft => draft.agrees_ofType argument.foldParts _ _

/-- Conditions of terminals and narrowings to a type are filters. A terminal with a condition
compiles like the terminal on the chain that the condition filters; and narrowing to a type, between
any calls of a chain on a source, compiles like filtering by the test of the type. -/
theorem conditions_are_filters :
    (∀ (chain condition : Expr) (name : String) (terminal : Terminal) (options : QueryOptions),
      Operator.ofName? name = some (.terminal terminal) → terminal.acceptsCondition = true →
      Agrees ((chain.call name [condition]).compile options)
        (((chain.call "Where" [condition]).call name []).compile options)) ∧
    ∀ (typeName : String) (earlier later : List (String × List Expr)) (argument : Expr)
      (options : QueryOptions),
      let chain := (source typeName).continuedBy earlier
      Agrees (((chain.call "OfType" [argument]).continuedBy later).compile options)
        (((chain.call "Where" [lambda (item.call "TypeIs" [argument])]).continuedBy
          later).compile options) := by
  refine ⟨?_, ?_⟩
  · intro chain condition name terminal options hname haccepts
    exact agrees_compile_condition hname haccepts chain condition options
  · intro typeName earlier later argument options chain
    have hmentions : chain.mentionsItem = true :=
      mentionsItem_continuedBy (mentionsItem_source typeName) earlier
    exact ((interchangeable_ofType hmentions argument).continuedBy later).agrees_compile options

/-- A negated bare field is still a flag when the next condition comes. -/
theorem conditions_are_filters_of_flag :
    let hidden := ("Where", [lambda (not (field "Hidden"))])
    let chain := (source "User").continuedBy [hidden]
    Agrees ((chain.call "Count" [lambda (field "Enabled")]).compile .default)
      (((chain.call "Where" [lambda (field "Enabled")]).call "Count" []).compile .default) ∧
    Agrees
      (((chain.call "OfType" [literal (.type "Group")]).continuedBy [("Any", [])]).compile .default)
      (((chain.call "Where" [lambda (typeIs "Group")]).continuedBy
        [("Any", [])]).compile .default) := by
  intro hidden chain
  refine ⟨?_, ?_⟩
  · exact conditions_are_filters.1 chain _ "Count" .count .default rfl rfl
  · exact conditions_are_filters.2 "User" [hidden] [("Any", [])] _ .default

/-! ## Filters in a row -/

/-- The conjunction of conditions in their order, grouped from the left. -/
def conjunction (first : Expr) (rest : List Expr) : Expr := rest.foldl and first

theorem conjunction_append_singleton (first : Expr) (rest : List Expr) (last : Expr) :
    conjunction first (rest ++ [last]) = and (conjunction first rest) last :=
  List.foldl_append ..

theorem mentionsItem_conjunction {first : Expr} (hfirst : first.mentionsItem = true)
    (rest : List Expr) : (conjunction first rest).mentionsItem = true := by
  induction rest generalizing first with
  | nil => exact hfirst
  | cons next rest ih => exact ih (mentionsItem_of_child List.mem_cons_self hfirst)

/-- A conjunction of which the first condition mentions the item is folded condition by
condition. -/
theorem foldParts_conjunction {first : Expr} (hfirst : first.mentionsItem = true)
    (rest : List Expr) :
    (conjunction first rest).foldParts = conjunction first.foldParts (rest.map foldParts) := by
  induction rest generalizing first with
  | nil => rfl
  | cons next rest ih =>
      have hand : (and first next).mentionsItem = true :=
        mentionsItem_of_child List.mem_cons_self hfirst
      have hfold : (and first next).foldParts = and first.foldParts next.foldParts := by
        rw [foldParts_of_open (closed_eq_false_of_mentionsItem hand)]
        rfl
      show (conjunction (and first next) rest).foldParts = _
      rw [ih hand, hfold]
      rfl

/-- A function has the entry of its body. -/
theorem entry_lambdaBody (e : Expr) : e.lambdaBody.entry = e.entry := by
  cases e with
  | lambda body => rw [lambdaBody, entry]
  | _ => rfl

theorem entry_conjunction_lambdaBody (first : Expr) (rest : List Expr) :
    (conjunction first.lambdaBody (rest.map lambdaBody)).entry =
      (conjunction first rest).entry := by
  induction rest using List.reverseRecOn with
  | nil => exact entry_lambdaBody first
  | append_singleton rest last ih =>
      rw [List.map_append, List.map_singleton, conjunction_append_singleton,
        conjunction_append_singleton, and, and, entry, entry, ih, entry_lambdaBody]

theorem mentionsItem_lambdaBody (e : Expr) : e.lambdaBody.mentionsItem = e.mentionsItem := by
  cases e with
  | lambda body => rw [lambdaBody, mentionsItem_lambda]
  | _ => rfl

/-- Folding keeps the body of a function apart. -/
theorem lambdaBody_foldParts {e : Expr} (hmentions : e.mentionsItem = true) :
    e.foldParts.lambdaBody = e.lambdaBody.foldParts := by
  cases e with
  | lambda body =>
      rw [mentionsItem_lambda] at hmentions
      rw [foldParts_lambda_of_open (closed_eq_false_of_mentionsItem hmentions)]
      rfl
  | _ =>
      have hfold := foldParts_of_open (closed_eq_false_of_mentionsItem hmentions)
      rw [hfold]
      exact hfold.symm

/-- A chain with conditions as filters on it, the earliest first. -/
def filteredBy (chain : Expr) (conditions : List Expr) : Expr :=
  chain.continuedBy (conditions.map fun condition => ("Where", [condition]))

theorem filteredBy_append_singleton (chain : Expr) (conditions : List Expr) (last : Expr) :
    chain.filteredBy (conditions ++ [last]) =
      (chain.filteredBy conditions).call "Where" [last] := by
  rw [filteredBy, List.map_append, continuedBy, List.foldl_append]
  rfl

theorem spine_filteredBy_ne_nil (chain first : Expr) (rest : List Expr) :
    (chain.filteredBy (first :: rest)).spine ≠ [] := by
  rw [filteredBy, spine_continuedBy]
  simp

/-- Folding a filtered source folds the filters. -/
theorem foldParts_filteredBy (typeName : String) (conditions : List Expr) :
    ((source typeName).filteredBy conditions).foldParts =
      (source typeName).filteredBy (conditions.map foldParts) := by
  rw [filteredBy, foldParts_continuedBy (mentionsItem_source typeName), foldParts_source,
    filteredBy, List.map_map, List.map_map]
  rfl

end Expr

/-- Filters in a row leave what their conjunction leaves as one filter: its entry, or the first
error of a condition. -/
theorem Draft.addChain_filteredBy (typeName : String) (first : Expr) (rest : List Expr) :
    start.addChain ((Expr.source typeName).filteredBy (first :: rest)) =
      (fun entry => start.perform (.filter entry)) <$> (Expr.conjunction first rest).entry := by
  have hstart : ¬start.terminal.isSome = true := Bool.false_ne_true
  -- from the end: the last filter is merged with what the conjunction of the others has left
  induction rest using List.reverseRecOn with
  | nil =>
      show start.addChain ((Expr.source typeName).call "Where" [first]) = _
      rw [@addChain_operator "Where" .filter rfl]
      show start.applyOperator .filter [first] _ = _
      rw [applyOperator_filter hstart, addFilter_eq]
      rfl
  | append_singleton rest last ih =>
      rw [← List.cons_append, Expr.filteredBy_append_singleton,
        @addChain_operator "Where" .filter rfl, ih, Expr.conjunction_append_singleton,
        Expr.and, Expr.entry]
      cases (Expr.conjunction first rest).entry with
      | error cause => rfl
      | ok joined =>
          have hopen : ¬(start.perform (.filter joined)).terminal.isSome = true := hstart
          show (start.perform (.filter joined)).applyOperator .filter [last] _ = _
          rw [applyOperator_filter hopen, addFilter_eq]
          cases last.entry <;> rfl

namespace Expr

/-- Filters in a row and one filter by their conjunction leave the same draft. -/
theorem addChain_foldParts_filteredBy (typeName : String) {first joint : Expr} {rest : List Expr}
    (hmentions : ∀ condition ∈ first :: rest, condition.mentionsItem = true)
    (hjoint : joint.lambdaBody = conjunction first.lambdaBody (rest.map lambdaBody))
    (hmentionsJoint : joint.mentionsItem = true) :
    Draft.start.addChain ((source typeName).filteredBy (first :: rest)).foldParts =
      Draft.start.addChain ((source typeName).filteredBy [joint]).foldParts := by
  have hfirst := hmentions first List.mem_cons_self
  have hbody : first.lambdaBody.mentionsItem = true := (mentionsItem_lambdaBody first).trans hfirst
  have hbodies : (rest.map lambdaBody).map foldParts = (rest.map foldParts).map lambdaBody := by
    rw [List.map_map, List.map_map]
    exact List.map_congr_left fun condition hmem =>
      (lambdaBody_foldParts (hmentions condition (List.mem_cons_of_mem first hmem))).symm
  have hentry : (conjunction first.foldParts (rest.map foldParts)).entry = joint.foldParts.entry :=
    calc (conjunction first.foldParts (rest.map foldParts)).entry
      _ = (conjunction first.foldParts.lambdaBody ((rest.map foldParts).map lambdaBody)).entry :=
          (entry_conjunction_lambdaBody _ _).symm
      _ = (conjunction first.lambdaBody (rest.map lambdaBody)).foldParts.entry := by
          rw [foldParts_conjunction hbody, lambdaBody_foldParts hfirst, hbodies]
      _ = joint.foldParts.lambdaBody.entry := by
          rw [← hjoint, lambdaBody_foldParts hmentionsJoint]
      _ = joint.foldParts.entry := entry_lambdaBody _
  rw [foldParts_filteredBy, foldParts_filteredBy, List.map_cons, Draft.addChain_filteredBy, hentry]
  exact (Draft.addChain_filteredBy typeName joint.foldParts []).symm

/-- Filters in a row are one filter. A source that is filtered one condition after the other
compiles like the source filtered by their conjunction, grouped from the left, with any calls
after that. Each condition mentions the item, and is given as a function or by its body. -/
theorem filters_are_conjunction (typeName : String) (first : Expr) (rest : List Expr)
    (joint : Expr) (suffix : List (String × List Expr)) (options : QueryOptions)
    (hmentions : ∀ condition ∈ first :: rest, condition.mentionsItem = true)
    (hjoint : joint.lambdaBody = conjunction first.lambdaBody (rest.map lambdaBody)) :
    Agrees ((((source typeName).filteredBy (first :: rest)).continuedBy suffix).compile options)
      ((((source typeName).filteredBy [joint]).continuedBy suffix).compile options) := by
  have hmentionsJoint : joint.mentionsItem = true := by
    rw [← mentionsItem_lambdaBody, hjoint]
    refine mentionsItem_conjunction ?_ _
    rw [mentionsItem_lambdaBody]
    exact hmentions first List.mem_cons_self
  have hagree : Interchangeable ((source typeName).filteredBy (first :: rest))
      ((source typeName).filteredBy [joint]) := by
    constructor
    case firstSpine => exact spine_filteredBy_ne_nil _ first rest
    case secondSpine => exact spine_filteredBy_ne_nil _ joint []
    case firstMentions => exact mentionsItem_continuedBy (mentionsItem_source typeName) _
    case secondMentions => exact mentionsItem_continuedBy (mentionsItem_source typeName) _
    case drafts =>
      rw [addChain_foldParts_filteredBy typeName hmentions hjoint hmentionsJoint]
  exact (hagree.continuedBy suffix).agrees_compile options

/-- Three filters, of which the first leaves a flag, the second a negated flag and the third, given
by its body alone, a predicate. -/
theorem filters_are_conjunction_of_three :
    let filters := [lambda (field "Enabled"), lambda (not (field "Hidden")), typeIs "Group"]
    let joint := lambda (and (and (field "Enabled") (not (field "Hidden"))) (typeIs "Group"))
    let suffix := [("OrderBy", [lambda (field "Name")]), ("Count", [])]
    Agrees ((((source "User").filteredBy filters).continuedBy suffix).compile .default)
      ((((source "User").filteredBy [joint]).continuedBy suffix).compile .default) := by
  intro filters joint suffix
  have hitem : item.mentionsItem = true := mentionsItem_of_isItem rfl
  have hfield (name : String) : (field name).mentionsItem = true :=
    mentionsItem_of_child (List.mem_singleton_self item) hitem
  have hnot : (not (field "Hidden")).mentionsItem = true :=
    mentionsItem_of_child (List.mem_singleton_self _) (hfield "Hidden")
  have htype : (typeIs "Group").mentionsItem = true :=
    mentionsItem_of_child List.mem_cons_self hitem
  have hmentions : ∀ condition ∈ filters, condition.mentionsItem = true := by
    simp [filters, mentionsItem_lambda, hfield, hnot, htype]
  exact filters_are_conjunction "User" _ _ joint suffix .default hmentions rfl

end Expr

end ContentQuery
