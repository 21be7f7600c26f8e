/-
# Agreement up to the text of an error

Two chains can say one thing in different words. Where they fail, the error quotes the chain at
fault, and so the texts differ although nothing else does. Two results agree when they are the same
value, or errors of one kind. This module proves that compilation keeps agreement: where on its
chain an operator stands makes no difference but to the text of its errors, and so two chains that
make agreeing drafts can go on with the same calls and still agree, whether these are operators or
not.

Agreement is asked of the folded chains, as these are what is compiled. A chain that mentions a
source is folded call by call, so what follows does not change how the start is folded.
-/

import ContentQuery.Proofs.Spine

namespace ContentQuery

/-- Two results are the same value, or errors of one kind. -/
inductive Agrees {α : Type} : Except QueryError α → Except QueryError α → Prop
  | ok (value : α) : Agrees (.ok value) (.ok value)
  | error {first second : QueryError} (hkind : first.kind = second.kind) :
      Agrees (.error first) (.error second)

namespace Agrees

variable {α β γ : Type} {first second : Except QueryError α}

@[refl]
theorem refl (result : Except QueryError α) : Agrees result result := by
  cases result with
  | ok value => exact .ok value
  | error error => exact .error rfl

/-- Steps that agree on every value agree after steps that agree. -/
theorem bind {f g : α → Except QueryError β} (hfirst : Agrees first second)
    (hrest : ∀ value, Agrees (f value) (g value)) : Agrees (first >>= f) (second >>= g) := by
  cases hfirst with
  | ok value => exact hrest value
  | error hkind => exact .error hkind

/-- Results that agree still do when both are mapped. -/
theorem map (f : α → β) (hagree : Agrees first second) : Agrees (f <$> first) (f <$> second) := by
  cases hagree with
  | ok value => exact .ok (f value)
  | error hkind => exact .error hkind

/-- What agrees with a mapped value is the value, mapped. -/
theorem eq_ok_of_map {f : β → α} {value : β}
    (hagree : Agrees first (f <$> (.ok value : Except QueryError β))) : first = .ok (f value) := by
  have hvalue : Agrees first (.ok (f value)) := hagree
  cases hvalue with
  | ok => rfl

/-- What agrees with an error that was not mapped is an error of its kind. -/
theorem exists_error_of_map {f : β → α} {cause : QueryError}
    (hagree : Agrees first (f <$> (.error cause : Except QueryError β))) :
    ∃ error, first = .error error ∧ error.kind = cause.kind := by
  have hcause : Agrees first (.error cause) := hagree
  cases hcause with
  | error hkind => exact ⟨_, rfl, hkind⟩

/-- Steps that agree along a map agree after steps that do. -/
theorem bind_map {f : β → α} {result : Except QueryError β} {g : α → Except QueryError γ}
    {h : β → Except QueryError γ} (hfirst : Agrees first (f <$> result))
    (hrest : ∀ value, Agrees (g (f value)) (h value)) : Agrees (first >>= g) (result >>= h) := by
  cases result with
  | ok value =>
      rw [eq_ok_of_map hfirst]
      exact hrest value
  | error cause =>
      obtain ⟨error, rfl, hkind⟩ := exists_error_of_map hfirst
      exact .error hkind

end Agrees

/-! ## Operators -/

namespace Draft

/-- No operator follows a terminal. -/
theorem applyOperator_of_ended {draft : Draft} (hended : draft.terminal.isSome = true)
    (operator : Operator) (arguments : List Expr) (site : Expr) :
    draft.applyOperator operator arguments site = .error (.unsupported site) := by
  unfold applyOperator
  rw [if_pos hended]

theorem applyOperator_filter {draft : Draft} (hopen : ¬draft.terminal.isSome = true)
    (condition site : Expr) :
    draft.applyOperator .filter [condition] site = draft.addFilter condition site := by
  rw [applyOperator, if_neg hopen]

theorem applyOperator_terminal {draft : Draft} (hopen : ¬draft.terminal.isSome = true)
    (terminal : Terminal) (arguments : List Expr) (site : Expr) :
    draft.applyOperator (.terminal terminal) arguments site =
      draft.applyTerminal terminal arguments site := by
  rw [applyOperator, if_neg hopen]

variable (draft : Draft) (arguments : List Expr) (site other : Expr)

theorem agrees_countOf : Agrees (countOf arguments site) (countOf arguments other) := by
  unfold countOf
  split
  · split
    · rfl
    · exact .error rfl
  · exact .error rfl

theorem agrees_sortFieldOf : Agrees (sortFieldOf arguments site) (sortFieldOf arguments other) := by
  unfold sortFieldOf
  split
  · rfl
  · exact .error rfl

theorem agrees_addFilter (condition : Expr) :
    Agrees (draft.addFilter condition site) (draft.addFilter condition other) := by
  rw [addFilter_eq, addFilter_eq]

theorem agrees_addTypeFilter (value : Literal) :
    Agrees (draft.addTypeFilter value site) (draft.addTypeFilter value other) := by
  rw [addTypeFilter_eq, addTypeFilter_eq]
  cases value.typeTerm? with
  | none => exact .error rfl
  | some name => exact .ok _

theorem agrees_applyTerminal (terminal : Terminal) :
    Agrees (draft.applyTerminal terminal arguments site)
      (draft.applyTerminal terminal arguments other) := by
  cases haccepts : terminal.acceptsCondition with
  | false =>
      obtain ⟨orDefault, rfl⟩ := Terminal.eq_elementAt_of_not_acceptsCondition haccepts
      exact (agrees_countOf arguments site other).bind fun index => .refl _
  | true =>
      match arguments with
      | [] => rw [applyTerminal_nil haccepts, applyTerminal_nil haccepts]
      | [condition] =>
          rw [applyTerminal_singleton haccepts, applyTerminal_singleton haccepts]
          exact (agrees_addFilter draft site other condition).bind fun filtered => .refl _
      | _ :: _ :: _ =>
          cases terminal with
          | pick selection orDefault =>
              cases selection with
              | elementAt => cases haccepts
              | _ => exact .error rfl
          | _ => exact .error rfl

/-- Where an operator stands makes no difference but to the text of its errors. -/
theorem agrees_applyOperator (operator : Operator) :
    Agrees (draft.applyOperator operator arguments site)
      (draft.applyOperator operator arguments other) := by
  by_cases hended : draft.terminal.isSome = true
  · rw [applyOperator_of_ended hended, applyOperator_of_ended hended]
    exact .error rfl
  · unfold applyOperator
    rw [if_neg hended, if_neg hended]
    cases operator with
    | filter =>
        match arguments with
        | [condition] => exact agrees_addFilter draft site other condition
        | [] | _ :: _ :: _ => exact .error rfl
    | ofType =>
        match arguments with
        | [] => exact .error rfl
        | argument :: rest =>
            cases argument with
            | literal value =>
                cases rest with
                | nil => exact agrees_addTypeFilter draft site other value
                | cons _ _ => exact .error rfl
            | _ => exact .error rfl
    | orderBy descending => exact (agrees_sortFieldOf arguments site other).bind fun _ => .refl _
    | thenBy descending => exact (agrees_sortFieldOf arguments site other).bind fun _ => .refl _
    | take => exact (agrees_countOf arguments site other).bind fun _ => .refl _
    | skip => exact (agrees_countOf arguments site other).bind fun _ => .refl _
    | select =>
        match arguments with
        | [argument] => exact .refl _
        | [] | _ :: _ :: _ => exact .error rfl
    | terminal reduction => exact agrees_applyTerminal draft arguments site other reduction

theorem agrees_finish : Agrees (draft.finish site) (draft.finish other) := by
  unfold finish
  split
  · rfl
  · rfl
  · exact .error rfl

/-- One call more: it is refused on both chains, applied to both drafts, or a condition on
neither. -/
theorem agrees_addChain_call {first second : Expr} (hfirst : first.spine ≠ [])
    (hsecond : second.spine ≠ []) (hagree : Agrees (start.addChain first) (start.addChain second))
    (name : String) :
    Agrees (start.addChain (first.call name arguments))
      (start.addChain (second.call name arguments)) := by
  cases hdenied : Operator.isDisallowed name with
  | true =>
      rw [addChain, addChain, hdenied]
      exact .error rfl
  | false =>
      cases hname : Operator.ofName? name with
      | none =>
          rw [addChain_unknown start hfirst hdenied hname,
            addChain_unknown start hsecond hdenied hname]
          exact .error rfl
      | some operator =>
          rw [addChain_operator hname, addChain_operator hname]
          exact hagree.bind fun draft => agrees_applyOperator draft arguments _ _ operator

end Draft

/-! ## Chains that go on alike -/

namespace Expr

/-- Two chains over items that make agreeing drafts. Each has a call, so that none of them is a
field or the item, on which a word of the endpoint could be called. -/
structure Interchangeable (first second : Expr) : Prop where
  firstSpine : first.spine ≠ []
  secondSpine : second.spine ≠ []
  firstMentions : first.mentionsItem = true
  secondMentions : second.mentionsItem = true
  drafts : Agrees (Draft.start.addChain first.foldParts) (Draft.start.addChain second.foldParts)

namespace Interchangeable

variable {first second : Expr}

/-- One call more on both chains. -/
theorem call (hagree : Interchangeable first second) (name : String) (arguments : List Expr) :
    Interchangeable (first.call name arguments) (second.call name arguments) where
  firstSpine := List.cons_ne_nil _ _
  secondSpine := List.cons_ne_nil _ _
  firstMentions := mentionsItem_of_child List.mem_cons_self hagree.firstMentions
  secondMentions := mentionsItem_of_child List.mem_cons_self hagree.secondMentions
  drafts := by
    rw [foldParts_call_of_open (closed_eq_false_of_mentionsItem hagree.firstMentions),
      foldParts_call_of_open (closed_eq_false_of_mentionsItem hagree.secondMentions)]
    refine Draft.agrees_addChain_call _ ?_ ?_ hagree.drafts name
    · rw [spine_foldParts]
      exact hagree.firstSpine
    · rw [spine_foldParts]
      exact hagree.secondSpine

/-- Any calls more on both chains. -/
theorem continuedBy (hagree : Interchangeable first second)
    (calls : List (String × List Expr)) :
    Interchangeable (first.continuedBy calls) (second.continuedBy calls) := by
  induction calls generalizing first second with
  | nil => exact hagree
  | cons call rest ih =>
      rw [continuedBy_cons, continuedBy_cons]
      exact ih (hagree.call call.1 call.2)

end Interchangeable

/-- Filters on one chain whose folded conditions have the same entry, or the same error. -/
theorem interchangeable_filter {chain first second : Expr} (hmentions : chain.mentionsItem = true)
    (hentries : first.foldParts.entry = second.foldParts.entry) :
    Interchangeable (chain.call "Where" [first]) (chain.call "Where" [second]) where
  firstSpine := List.cons_ne_nil _ _
  secondSpine := List.cons_ne_nil _ _
  firstMentions := mentionsItem_of_child List.mem_cons_self hmentions
  secondMentions := mentionsItem_of_child List.mem_cons_self hmentions
  drafts := by
    have hopen := closed_eq_false_of_mentionsItem hmentions
    rw [foldParts_call_of_open hopen, foldParts_call_of_open hopen,
      @Draft.addChain_operator "Where" .filter rfl, @Draft.addChain_operator "Where" .filter rfl]
    refine (Agrees.refl _).bind fun draft => ?_
    show Agrees (draft.applyOperator .filter [first.foldParts] _)
      (draft.applyOperator .filter [second.foldParts] _)
    by_cases hended : draft.terminal.isSome = true
    · rw [Draft.applyOperator_of_ended hended, Draft.applyOperator_of_ended hended]
      exact .error rfl
    · rw [Draft.applyOperator_filter hended, Draft.applyOperator_filter hended,
        Draft.addFilter_eq, Draft.addFilter_eq, hentries]

/-- Chains whose foldings make agreeing drafts compile alike. -/
theorem agrees_compile {first second : Expr}
    (hdrafts : Agrees (Draft.start.addChain first.fold) (Draft.start.addChain second.fold))
    (options : QueryOptions) : Agrees (first.compile options) (second.compile options) := by
  rw [compile, compile]
  exact hdrafts.bind fun draft =>
    (Draft.agrees_finish draft _ _).bind fun query => .refl _

theorem Interchangeable.agrees_compile {first second : Expr}
    (hagree : Interchangeable first second) (options : QueryOptions) :
    Agrees (first.compile options) (second.compile options) := by
  refine Expr.agrees_compile ?_ options
  rw [fold_eq_foldParts hagree.firstMentions, fold_eq_foldParts hagree.secondMentions]
  exact hagree.drafts

end Expr

end ContentQuery
