/-
# Strict and lenient terminals

Each terminal that takes an item comes in two forms: a strict one, for which having no item is an
error, and a lenient one. They differ by their name alone, but what the name says is used in three
places: in the directives of the query, where the rows are reduced, and once more where a strict
terminal demands its item. This module proves that the two are twins: they send equal requests, they
find the same item, they fail for the same reasons, and where the lenient one has none the strict
one says what is missing.

Nothing is assumed of the retriever, whose rows and failures are arbitrary, but that it answers
equal requests equally. Nor is anything assumed of the chain, which may compile or not.
-/

import ContentQuery.Proofs.Agreement
import ContentQuery.Proofs.Retrieval

namespace ContentQuery

open Outcome

/-! ## Compiling the two forms -/

/-- The query for which having no row is an error. -/
def Query.strict (query : Query) : Query := { query with throwIfEmpty := true }

/-- A request does not say whether rows must be there. -/
theorem Query.toRequest_strict (query : Query) : query.strict.toRequest = query.toRequest := rfl

namespace Draft

/-- The draft that the strict terminal of a selection leaves, from the one that the lenient terminal
leaves. -/
def strict (selection : Selection) (draft : Draft) : Draft where
  conditions := draft.conditions
  query := draft.query.strict
  terminal := some (.pick selection false)

theorem applyTerminal_strict (draft : Draft) (selection : Selection) (arguments : List Expr)
    (site : Expr) :
    draft.applyTerminal (.pick selection false) arguments site =
      strict selection <$> draft.applyTerminal (.pick selection true) arguments site := by
  cases selection with
  | elementAt =>
      rw [applyTerminal, applyTerminal]
      cases countOf arguments site <;> rfl
  | _ =>
      cases arguments with
      | nil => rfl
      | cons condition rest =>
          cases rest with
          | nil =>
              rw [applyTerminal_singleton rfl, applyTerminal_singleton rfl]
              cases draft.addFilter condition site <;> rfl
          | cons _ _ => rfl

theorem agrees_finish_strict (draft : Draft) (selection : Selection) (options : QueryOptions)
    (site other : Expr) :
    Agrees (do return (← (draft.strict selection).finish site).withOptions options)
      (Query.strict <$> do return (← draft.finish other).withOptions options) := by
  have hlowered : (draft.strict selection).conditions.lowered = draft.conditions.lowered := rfl
  unfold finish
  rw [hlowered]
  split
  · exact .ok _
  · exact .ok _
  · exact .error rfl

/-- A picking terminal leaves the query of its chain under its own directives. Only the one that
takes a position looks at the index. -/
theorem query_of_applyTerminal_pick {draft next : Draft} {selection : Selection} {orDefault : Bool}
    {arguments : List Expr} {site : Expr} {index : UInt32}
    (hposition : selection = .elementAt → arguments = [ContentSet.countLiteral index])
    (happly : draft.applyTerminal (.pick selection orDefault) arguments site = .ok next) :
    next.query = pick draft.query selection orDefault index := by
  have hindex (query : Query)
      (haccepts : (Terminal.pick selection orDefault).acceptsCondition = true) :
      pick query selection orDefault 0 = pick query selection orDefault index := by
    cases selection with
    | elementAt => cases haccepts
    | _ => rfl
  rcases applyTerminal_ok happly with
    ⟨position, haccepts, hcount, rfl⟩ | ⟨haccepts, -, rfl⟩ |
    ⟨condition, filtered, haccepts, -, hfilter, rfl⟩
  · obtain ⟨_, hselection⟩ := Terminal.eq_elementAt_of_not_acceptsCondition haccepts
    cases hselection
    rw [hposition rfl, Expr.countOf_countLiteral] at hcount
    rw [Except.ok.inj hcount]
    rfl
  · exact hindex draft.query haccepts
  · rw [← (addFilter_keeps hfilter).1]
    exact hindex filtered.query haccepts

/-- The two forms on one chain leave drafts that differ in their form alone. -/
theorem agrees_addChain_strict (chain : Expr) (selection : Selection) (arguments : List Expr) :
    Agrees (start.addChain (chain.call (Terminal.pick selection false).name arguments))
      (strict selection <$>
        start.addChain (chain.call (Terminal.pick selection true).name arguments)) := by
  rw [addChain_operator (Operator.ofName?_name _), addChain_operator (Operator.ofName?_name _),
    map_bind]
  refine Agrees.bind (.refl _) fun draft => ?_
  by_cases hended : draft.terminal.isSome = true
  · rw [applyOperator_of_ended hended, applyOperator_of_ended hended]
    exact .error rfl
  · rw [applyOperator_terminal hended, applyOperator_terminal hended, applyTerminal_strict]
    exact (agrees_applyTerminal draft arguments _ _ _).map (strict selection)

end Draft

namespace Expr

variable {chain : Expr} {selection : Selection} {arguments : List Expr} {options : QueryOptions}

/-- The two forms on one chain compile to queries that differ in their form alone. -/
theorem agrees_compile_strict (chain : Expr) (selection : Selection) (arguments : List Expr)
    (options : QueryOptions) :
    Agrees ((chain.call (Terminal.pick selection false).name arguments).compile options)
      (Query.strict <$>
        (chain.call (Terminal.pick selection true).name arguments).compile options) := by
  obtain ⟨folded, rest, -, hfold⟩ := fold_call_parts chain arguments
  rw [compile, compile, hfold, hfold, map_bind]
  exact (Draft.agrees_addChain_strict folded selection rest).bind_map fun draft =>
    draft.agrees_finish_strict selection options _ _

/-- What the query of a lenient terminal says about having no row: it is no error, and the position
is the one that the terminal was given, if it takes one. -/
theorem directives_of_compile_lenient {query : Query} {index : UInt32}
    (hposition : selection = .elementAt → arguments = [ContentSet.countLiteral index])
    (hcompile : (chain.call (Terminal.pick selection true).name arguments).compile options =
      .ok query) :
    query.throwIfEmpty = false ∧
      query.elementIndex = if selection = .elementAt then some index else none := by
  obtain ⟨draft, -, hadd, -, -, rfl⟩ := compile_eq_ok.mp hcompile
  obtain ⟨folded, rest, hrest, hfold⟩ := fold_call_parts chain arguments
  rw [hfold, Draft.addChain_call (Operator.ofName?_name _)] at hadd
  obtain ⟨-, earlier, hearlier, happly⟩ := hadd
  obtain ⟨hopen, happlied⟩ := Draft.applied_of_applyOperator happly
  have hundecided := (Draft.isDirected_of_addChain hearlier).undecided hopen
  have hliteral (hselection : selection = .elementAt) :
      rest = [ContentSet.countLiteral index] := by
    rw [hposition hselection, List.map_singleton, ContentSet.countLiteral,
      foldParts_literal] at hrest
    exact hrest.elim id id
  show draft.query.throwIfEmpty = false ∧ draft.query.elementIndex = _
  rw [Draft.query_of_applyTerminal_pick hliteral happlied, Query.throwIfEmpty_pick,
    Query.elementIndex_pick hundecided.elementIndex]
  exact ⟨rfl, rfl⟩

end Expr

/-! ## Reading the rows -/

namespace Query

/-- Reducing rows strictly is reducing them leniently, and failing where nothing is found. -/
theorem pickItem_strict {α : Type} {query : Query} {selection : Selection} {index : UInt32}
    (hempty : query.throwIfEmpty = false)
    (hindex : query.elementIndex = if selection = .elementAt then some index else none)
    (items : List α) :
    query.strict.pickItem items = query.pickItem items >>= fun found =>
      found.elim (.error (absence selection index)) fun item => .ok (some item) := by
  have hsettle (found : Option α) : pickItem.settle query.strict found =
      pickItem.settle query found >>= fun found =>
        found.elim (.error (absence selection index)) fun item => .ok (some item) := by
    have hstrict : query.strict.elementIndex = query.elementIndex := rfl
    cases found with
    | some item => rfl
    | none =>
        rw [pickItem.settle, pickItem.settle, hempty, hstrict, hindex]
        cases selection <;> rfl
  have hselection : query.strict.selection = query.selection := rfl
  rw [pickItem, pickItem, hselection]
  split
  · split
    · rfl
    · exact hsettle _
  · exact hsettle _
  · exact hsettle _

/-- Where having no row is no error, the rows are at fault only when there are too many. -/
theorem eq_moreThanOneElement_of_pickItem {α : Type} {query : Query}
    (hempty : query.throwIfEmpty = false) {items : List α} {error : QueryError}
    (hpick : query.pickItem items = .error error) : error = .moreThanOneElement := by
  have hsettle (found : Option α) : pickItem.settle query found ≠ .error error := by
    intro hfound
    cases found with
    | some item => cases hfound
    | none =>
        rw [pickItem.settle, hempty] at hfound
        cases hfound
  unfold pickItem at hpick
  split at hpick
  · split at hpick
    · exact (Except.error.inj hpick).symm
    · exact (hsettle _ hpick).elim
  · exact (hsettle _ hpick).elim
  · exact (hsettle _ hpick).elim

end Query

/-! ## Twins -/

/-- What a strict and a lenient terminal can come to together; `absent` is the error of having no
item. -/
inductive TwinOutcomes {α : Type} (absent : QueryError) :
    Except QueryError α → Except QueryError (Option α) → Prop
  /-- Both find the same item. -/
  | found (item : α) : TwinOutcomes absent (.ok item) (.ok (some item))
  /-- There is none: the strict one says so. -/
  | missing : TwinOutcomes absent (.error absent) (.ok none)
  /-- Both fail for a reason of one kind, which is never that there is none. -/
  | failed {strict lenient : QueryError} (hkind : strict.kind = lenient.kind)
      (hclass : lenient.kind.toClass ≠ .notFound) :
      TwinOutcomes absent (.error strict) (.error lenient)

/-- A strict and a lenient terminal send equal requests, and whatever was sent and logged before,
they come to outcomes that go together. -/
structure AreTwins {α : Type} (absent : QueryError) (strict : Session α)
    (lenient : Session (Option α)) : Prop where
  requests : ∃ sent, ∀ journal,
    (strict.journalAfter journal).requests = journal.requests ++ sent ∧
      (lenient.journalAfter journal).requests = journal.requests ++ sent
  outcomes : ∀ journal other,
    TwinOutcomes absent (strict.outcome journal) (lenient.outcome other)

namespace ContentSet

variable {α : Type} (set : ContentSet α)

/-- The two forms of a query ask the same of the retriever, and read the answer as twins. -/
theorem twinOutcomes_picked {query : Query} {selection : Selection} {index : UInt32}
    (hempty : query.throwIfEmpty = false)
    (hindex : query.elementIndex = if selection = .elementAt then some index else none) :
    TwinOutcomes (Query.absence selection index)
      (set.picked query.strict >>= fun found => found.elim (.error .noElements) .ok)
      (set.picked query) := by
  rw [picked, picked, Query.toRequest_strict]
  cases set.retriever query.toRequest with
  | error cause => exact .failed rfl (ne_of_beq_false rfl)
  | ok response =>
      show TwinOutcomes _
        ((query.strict.pickItem response.items >>= set.leniently) >>= fun found =>
          found.elim (.error .noElements) .ok)
        (query.pickItem response.items >>= set.leniently)
      rw [Query.pickItem_strict hempty hindex]
      cases hpick : query.pickItem response.items with
      | error error =>
          obtain rfl := Query.eq_moreThanOneElement_of_pickItem hempty hpick
          exact .failed rfl (ne_of_beq_false rfl)
      | ok found =>
          cases found with
          | none => exact .missing
          | some json =>
              show TwinOutcomes _ (set.leniently (some json) >>= _) (set.leniently (some json))
              rw [leniently]
              cases set.itemType.decode json with
              | error cause => exact .failed rfl (ne_of_beq_false rfl)
              | ok item => exact .found item

/-- The two forms of a terminal have the same request, or none. -/
theorem requestFor?_strict (selection : Selection) (arguments : List Expr) :
    set.requestFor? (set.chainCall (Terminal.pick selection false).name arguments) =
      set.requestFor? (set.chainCall (Terminal.pick selection true).name arguments) := by
  have hagree := Expr.agrees_compile_strict set.chain selection arguments set.options
  rw [requestFor?, requestFor?, chainCall, chainCall]
  cases hcompile :
      (set.chain.call (Terminal.pick selection true).name arguments).compile set.options with
  | error cause =>
      rw [hcompile] at hagree
      obtain ⟨error, herror, -⟩ := Agrees.exists_error_of_map hagree
      rw [herror]
  | ok query =>
      rw [hcompile] at hagree
      rw [Agrees.eq_ok_of_map hagree]
      rfl

/-- The outcomes of the two forms go together: where the chain does not compile, it is for a reason
of one kind, and else the answer of the retriever is read by twins. -/
theorem twinOutcomes_pick {selection : Selection} {arguments : List Expr} {index : UInt32}
    (hposition : selection = .elementAt → arguments = [countLiteral index])
    (journal other : Journal) :
    TwinOutcomes (Query.absence selection index) ((set.pick selection arguments).outcome journal)
      ((set.pickOrDefault selection arguments).outcome other) := by
  have hagree := Expr.agrees_compile_strict set.chain selection arguments set.options
  rw [outcome_pick_eq, outcome_pickBy_eq, pickOrDefault, outcome_pickBy_eq, chainCall, chainCall]
  cases hcompile :
      (set.chain.call (Terminal.pick selection true).name arguments).compile set.options with
  | error cause =>
      rw [hcompile] at hagree
      obtain ⟨error, herror, hkind⟩ := Agrees.exists_error_of_map hagree
      have hclass : cause.kind.toClass = .unsupported :=
        eq_of_beq (Expr.isCompilation_compile _ _ cause hcompile)
      rw [herror]
      refine .failed hkind ?_
      rw [hclass]
      decide
  | ok query =>
      rw [hcompile] at hagree
      obtain ⟨hempty, hindex⟩ := Expr.directives_of_compile_lenient hposition hcompile
      rw [Agrees.eq_ok_of_map hagree]
      exact set.twinOutcomes_picked hempty hindex

/-- A strict terminal and the lenient one of the same selection and arguments are twins. -/
theorem areTwins_pick {selection : Selection} {arguments : List Expr} {index : UInt32}
    (hposition : selection = .elementAt → arguments = [countLiteral index]) :
    AreTwins (Query.absence selection index) (set.pick selection arguments)
      (set.pickOrDefault selection arguments) := by
  constructor
  case requests =>
    refine ⟨_, fun journal => ⟨(set.retrieves_pick selection arguments).requests journal, ?_⟩⟩
    rw [requestFor?_strict]
    exact (set.retrieves_pickBy (.pick selection true) arguments).requests journal
  case outcomes => exact set.twinOutcomes_pick hposition

/-- Strict and lenient terminals are twins, with a condition or without, on every set and whatever
its retriever answers. The error of having no item carries the position that was asked for, where
one was. -/
theorem twin_terminals :
    (∀ condition, AreTwins .noElements (set.first condition) (set.firstOrDefault condition)) ∧
    (∀ condition, AreTwins .noElements (set.single condition) (set.singleOrDefault condition)) ∧
    (∀ condition, AreTwins .noElements (set.last condition) (set.lastOrDefault condition)) ∧
    ∀ index, AreTwins (.indexOutOfRange index) (set.elementAt index)
      (set.elementAtOrDefault index) := by
  have htwins (selection : Selection) (hselection : selection ≠ .elementAt)
      (condition : Option Expr) :
      AreTwins (Query.absence selection 0) (set.pick selection (conditionArguments condition))
        (set.pickOrDefault selection (conditionArguments condition)) :=
    set.areTwins_pick fun hposition => (hselection hposition).elim
  refine ⟨?_, ?_, ?_, ?_⟩
  · exact htwins .first (by decide)
  · exact htwins .single (by decide)
  · exact htwins .last (by decide)
  · intro index
    have hposition : Selection.elementAt = .elementAt →
        [countLiteral index] = [countLiteral index] := fun _ => rfl
    exact set.areTwins_pick hposition

end ContentSet

end ContentQuery
