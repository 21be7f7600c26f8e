/-
# A terminal on an open chain

A chain of operators of which none ends it is open. A terminal added to an open chain compiles
whenever the chain does, and its query is the query of the chain with the directives of the
terminal: nothing that the chain said is said again, so the two queries differ in nothing else.
That is so although the chain is compiled a second time, under the terminal, from its own folding.
-/

import ContentQuery.ContentSet
import ContentQuery.Proofs.Chain
import ContentQuery.Proofs.Folding

namespace ContentQuery

open Outcome

/-! ## Open chains -/

/-- Whether an operator ends a chain. -/
def Operator.isTerminal : Operator → Bool
  | terminal _ => true
  | _ => false

/-- A terminal is the operator of its own name. -/
theorem Operator.ofName?_name (reduction : Terminal) :
    ofName? reduction.name = some (terminal reduction) := by
  cases reduction with
  | pick selection orDefault => cases selection <;> cases orDefault <;> rfl
  | _ => rfl

theorem Operator.isDisallowed_name (reduction : Terminal) :
    isDisallowed reduction.name = false :=
  isDisallowed_of_ofName? (ofName?_name reduction)

/-- Whether an expression is a source with any number of operators on it, none of which ends the
chain. -/
def Expr.isOpenChain : Expr → Bool
  | source _ => true
  | call receiver method _ =>
    receiver.isOpenChain && (Operator.ofName? method).any fun operator => !operator.isTerminal
  | _ => false

namespace Expr

theorem isOpenChain_call {receiver : Expr} {method : String} {arguments : List Expr} :
    (call receiver method arguments).isOpenChain = true ↔
      receiver.isOpenChain = true ∧
        ∃ operator, Operator.ofName? method = some operator ∧ operator.isTerminal = false := by
  rw [isOpenChain, Bool.and_eq_true, Option.any_eq_true]
  simp only [Bool.not_eq_true']

theorem mentionsItem_of_isOpenChain {chain : Expr} (hopen : chain.isOpenChain = true) :
    chain.mentionsItem = true := by
  induction chain using isOpenChain.induct with
  | case1 typeName => exact mentionsItem_source typeName
  | case2 receiver method arguments ih =>
      exact mentionsItem_of_child List.mem_cons_self (ih (isOpenChain_call.mp hopen).1)
  | case3 chain hsource hcall =>
      rw [isOpenChain.eq_3 chain hsource hcall] at hopen
      cases hopen

theorem closed_eq_false_of_isOpenChain {chain : Expr} (hopen : chain.isOpenChain = true) :
    chain.closed = false :=
  closed_eq_false_of_mentionsItem (mentionsItem_of_isOpenChain hopen)

/-- On an open chain a call is folded part by part. -/
theorem foldParts_call {receiver : Expr} (hopen : receiver.isOpenChain = true) (method : String)
    (arguments : List Expr) :
    (receiver.call method arguments).foldParts =
      receiver.foldParts.call method (arguments.map foldParts) :=
  foldParts_call_of_open (closed_eq_false_of_isOpenChain hopen) method arguments

theorem isOpenChain_foldParts {chain : Expr} (hopen : chain.isOpenChain = true) :
    chain.foldParts.isOpenChain = true := by
  induction chain using isOpenChain.induct with
  | case1 typeName =>
      rw [foldParts_source]
      rfl
  | case2 receiver method arguments ih =>
      obtain ⟨hreceiver, hmethod⟩ := isOpenChain_call.mp hopen
      rw [foldParts_call hreceiver]
      exact isOpenChain_call.mpr ⟨ih hreceiver, hmethod⟩
  | case3 chain hsource hcall =>
      rw [isOpenChain.eq_3 chain hsource hcall] at hopen
      cases hopen

end Expr

namespace Draft

/-- A draft to which operators can still be added: no terminal has ended it, and no position was
asked for. -/
structure IsOpen (draft : Draft) : Prop where
  terminal : draft.terminal = none
  position : draft.query.elementIndex = none

theorem isOpen_start : start.IsOpen := ⟨rfl, rfl⟩

/-- An operator that is no terminal leaves an open draft open. -/
theorem IsOpen.applyOperator {draft next : Draft} {operator : Operator} {arguments : List Expr}
    {site : Expr} {ps : List Predicate} (hopen : draft.IsOpen)
    (hstack : draft.conditions.Conjoins ps) (hoperator : operator.isTerminal = false)
    (happly : draft.applyOperator operator arguments site = .ok next) : next.IsOpen := by
  obtain ⟨-, happlied⟩ := applied_of_applyOperator happly
  cases operator with
  | filter =>
      obtain ⟨condition, -, hadd⟩ := happlied
      obtain ⟨p, -, -, hquery, hterminal⟩ := addFilter_ok hstack hadd
      exact ⟨hterminal.trans hopen.terminal, hquery ▸ hopen.position⟩
  | ofType =>
      obtain ⟨value, -, hadd⟩ := happlied
      obtain ⟨p, -, -, hquery, hterminal⟩ := addTypeFilter_ok hstack hadd
      exact ⟨hterminal.trans hopen.terminal, hquery ▸ hopen.position⟩
  | terminal reduction => cases hoperator
  | select =>
      obtain ⟨argument, projection, -, -, rfl⟩ := happlied
      exact ⟨hopen.terminal, hopen.position⟩
  | _ =>
      obtain ⟨_, -, rfl⟩ := happlied
      exact ⟨hopen.terminal, hopen.position⟩

/-- The draft of an open chain is open. -/
theorem isOpen_of_addChain {chain : Expr} {draft : Draft} (hchain : chain.isOpenChain = true)
    (hadd : start.addChain chain = .ok draft) : draft.IsOpen := by
  induction chain using Expr.isOpenChain.induct generalizing draft with
  | case1 typeName =>
      obtain rfl := Except.ok.inj hadd
      exact isOpen_start
  | case2 receiver method arguments ih =>
      obtain ⟨hreceiver, operator, hname, hoperator⟩ := Expr.isOpenChain_call.mp hchain
      obtain ⟨-, earlier, hearlier, happly⟩ := (addChain_call hname).mp hadd
      obtain ⟨ps, -, hconjoins⟩ := addChain_conjoins hearlier
      exact (ih hreceiver hearlier).applyOperator hconjoins hoperator happly
  | case3 chain hsource hcall =>
      rw [Expr.isOpenChain.eq_3 chain hsource hcall] at hchain
      cases hchain

/-- The directives of a terminal go with any settings, lists of fields and predicate. -/
theorem reduce_withOptions (query : Query) (predicate : Option Predicate) (options : QueryOptions)
    (terminal : Terminal) (index : UInt32) :
    { reduce query terminal index with predicate := predicate }.withOptions options =
      reduce ({ query with predicate := predicate }.withOptions options) terminal index := by
  cases terminal with
  | pick selection orDefault => cases selection <;> rfl
  | _ => rfl

end Draft

/-! ## Compiling a terminal -/

/-- A terminal on an open chain. Where its arguments close every draft at an index, the query of the
chain with the terminal is the query of the chain under the directives of the terminal. -/
theorem Expr.compile_terminal {chain : Expr} {options : QueryOptions} {query : Query}
    {name : String} {terminal : Terminal} {arguments : List Expr} {index : UInt32}
    (hopen : chain.isOpenChain = true) (hcompile : chain.compile options = .ok query)
    (hname : Operator.ofName? name = some (.terminal terminal))
    (hallowed : Operator.isDisallowed name = false)
    (hclose : ∀ (draft : Draft) (site : Expr),
      draft.applyTerminal terminal (arguments.map foldParts) site =
        .ok (draft.close terminal index)) :
    (chain.call name arguments).compile options = .ok (Draft.reduce query terminal index) := by
  obtain ⟨draft, ps, hadd, -, hconjoins, rfl⟩ := compile_eq_ok.mp hcompile
  rw [fold_eq_foldParts (mentionsItem_of_isOpenChain hopen)] at hadd
  have hterminal : draft.terminal = none :=
    (Draft.isOpen_of_addChain (isOpenChain_foldParts hopen) hadd).terminal
  have hfold : (chain.call name arguments).fold =
      chain.foldParts.call name (arguments.map foldParts) := by
    rw [fold_eq_foldParts (mentionsItem_of_child List.mem_cons_self
      (mentionsItem_of_isOpenChain hopen)), foldParts_call hopen]
  have hclosed : Draft.start.addChain (chain.call name arguments).fold =
      .ok (draft.close terminal index) := by
    rw [hfold, Draft.addChain_call hname]
    refine ⟨hallowed, draft, hadd, ?_⟩
    rw [Draft.applyOperator, hterminal]
    exact hclose draft _
  rw [compile, hclosed]
  show (do return (← (draft.close terminal index).finish _).withOptions options) = _
  rw [Draft.finish_eq hconjoins.lowered]
  exact congrArg Except.ok (Draft.reduce_withOptions draft.query _ options terminal index)

namespace Expr

variable {chain : Expr} {options : QueryOptions} {query : Query}

/-- The query of an open chain asks for no position. -/
theorem elementIndex_of_compile (hopen : chain.isOpenChain = true)
    (hcompile : chain.compile options = .ok query) : query.elementIndex = none := by
  obtain ⟨draft, ps, hadd, -, hconjoins, rfl⟩ := compile_eq_ok.mp hcompile
  rw [fold_eq_foldParts (mentionsItem_of_isOpenChain hopen)] at hadd
  exact (Draft.isOpen_of_addChain (isOpenChain_foldParts hopen) hadd).position

/-- A terminal without an argument. -/
theorem compile_terminal_nil {name : String} {terminal : Terminal}
    (hopen : chain.isOpenChain = true) (hcompile : chain.compile options = .ok query)
    (hname : Operator.ofName? name = some (.terminal terminal))
    (hallowed : Operator.isDisallowed name = false) (haccepts : terminal.acceptsCondition = true) :
    (chain.call name []).compile options = .ok (Draft.reduce query terminal 0) := by
  refine compile_terminal hopen hcompile hname hallowed fun draft site => ?_
  exact Draft.applyTerminal_nil haccepts draft site

/-- A row count as a literal is read back as the row count. -/
theorem countOf_countLiteral (count : UInt32) (site : Expr) :
    Draft.countOf [ContentSet.countLiteral count] site = .ok count := by
  have hcount : (Int64.ofNat count.toNat).toInt = count.toNat :=
    Int64.toInt_ofNat_of_lt (Nat.lt_trans count.toNat_lt_size (by decide))
  exact Draft.countOf_eq_ok.mpr ⟨_, rfl, hcount⟩

/-- A terminal that takes a position. -/
theorem compile_terminal_position (orDefault : Bool) (index : UInt32)
    (hopen : chain.isOpenChain = true) (hcompile : chain.compile options = .ok query) :
    (chain.call (Terminal.pick .elementAt orDefault).name [ContentSet.countLiteral index]).compile
        options = .ok (Draft.reduce query (.pick .elementAt orDefault) index) := by
  have hfold : [ContentSet.countLiteral index].map foldParts = [ContentSet.countLiteral index] := by
    rw [List.map_singleton, ContentSet.countLiteral, foldParts_literal]
  refine compile_terminal hopen hcompile (Operator.ofName?_name _) (Operator.isDisallowed_name _)
    fun draft site => ?_
  rw [hfold, Draft.applyTerminal, countOf_countLiteral]
  rfl

end Expr

end ContentQuery
