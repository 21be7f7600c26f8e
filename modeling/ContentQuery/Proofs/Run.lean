/-
# Chains as runs

A chain over a source is a list of calls, the innermost first. What a call does to a draft can be
read off its arguments alone: either it has an effect, which is then the same on every draft, or it
fails on all of them; only what follows a terminal fails for another reason. This module says which
effect a call has, without errors and without the places where they arise, and proves that compiling
a chain is performing the effects of its folded calls in turn. What holds of two orders of calls, or
of a call and what stands for it, can then be shown on effects.
-/

import ContentQuery.Proofs.Chain
import ContentQuery.Proofs.Folding

namespace ContentQuery

open Outcome

/-! ## Effects -/

/-- What a call does to a draft. -/
inductive Effect
  | filter (entry : Entry)
  | orderBy (key : SortKey)
  | thenBy (key : SortKey)
  | take (count : UInt32)
  | skip (count : UInt32)
  | select (projection : Projection)
  /-- Ends the chain, with a last filter where the terminal has a condition. -/
  | close (terminal : Terminal) (condition : Option Entry) (index : UInt32)

/-- `Does operator arguments effect` says which effect an operator has with arguments that it
accepts. There is one rule for each form of the arguments. -/
inductive Operator.Does : Operator → List Expr → Effect → Prop
  | filter {condition : Expr} {entry : Entry} (hentry : condition.entry = .ok entry) :
      Does .filter [condition] (.filter entry)
  | ofType {value : Literal} {name : String} (hname : value.typeTerm? = some name) :
      Does .ofType [.literal value] (.filter (.predicate (.hasValue "TypeIs" (.text name))))
  | orderBy {argument : Expr} {field : String}
      (hfield : argument.lambdaBody.fieldName? = some field) (descending : Bool) :
      Does (.orderBy descending) [argument] (.orderBy ⟨field, descending⟩)
  | thenBy {argument : Expr} {field : String}
      (hfield : argument.lambdaBody.fieldName? = some field) (descending : Bool) :
      Does (.thenBy descending) [argument] (.thenBy ⟨field, descending⟩)
  | take {number : Int64} {count : UInt32} (hcount : number.toInt = count.toNat) :
      Does .take [.literal (.int number)] (.take count)
  | skip {number : Int64} {count : UInt32} (hcount : number.toInt = count.toNat) :
      Does .skip [.literal (.int number)] (.skip count)
  | select {argument : Expr} {projection : Projection}
      (hbody : Projection.ofBody argument.lambdaBody = .ok projection) :
      Does .select [argument] (.select projection)
  | position {number : Int64} {index : UInt32} (hindex : number.toInt = index.toNat)
      (orDefault : Bool) :
      Does (.terminal (.pick .elementAt orDefault)) [.literal (.int number)]
        (.close (.pick .elementAt orDefault) none index)
  | terminal {terminal : Terminal} (haccepts : terminal.acceptsCondition = true) :
      Does (.terminal terminal) [] (.close terminal none 0)
  | terminalWhere {terminal : Terminal} {condition : Expr} {entry : Entry}
      (haccepts : terminal.acceptsCondition = true) (hentry : condition.entry = .ok entry) :
      Does (.terminal terminal) [condition] (.close terminal (some entry) 0)

namespace Draft

/-- A draft with an effect performed on it. -/
def perform (draft : Draft) : Effect → Draft
  | .filter entry => { draft with conditions := draft.conditions.withFilter entry }
  | .orderBy key => { draft with query := { draft.query with sort := [key] } }
  | .thenBy key => { draft with query := { draft.query with sort := draft.query.sort ++ [key] } }
  | .take count => { draft with query := { draft.query with top := some count } }
  | .skip count => { draft with query := { draft.query with skip := some count } }
  | .select projection =>
    { draft with query :=
      { draft.query with select := projection.select, expand := projection.expand } }
  | .close terminal condition index =>
    { draft with conditions := condition.toList.foldl Stack.withFilter draft.conditions }.close
      terminal index

/-- An operator succeeds exactly on a draft that no terminal has ended, with arguments that it
accepts, and then its effect is performed. -/
theorem applyOperator_eq_ok {draft next : Draft} {operator : Operator} {arguments : List Expr}
    {site : Expr} :
    draft.applyOperator operator arguments site = .ok next ↔
      draft.terminal = none ∧ ∃ effect, operator.Does arguments effect ∧
        next = draft.perform effect := by
  constructor
  · intro happly
    obtain ⟨hopen, happlied⟩ := applied_of_applyOperator happly
    refine ⟨hopen, ?_⟩
    cases operator with
    | filter =>
        obtain ⟨condition, rfl, hadd⟩ := happlied
        obtain ⟨entry, hentry, rfl⟩ := addFilter_eq_ok.mp hadd
        exact ⟨_, .filter hentry, rfl⟩
    | ofType =>
        obtain ⟨value, rfl, hadd⟩ := happlied
        obtain ⟨name, hname, rfl⟩ := addTypeFilter_eq_ok.mp hadd
        exact ⟨_, .ofType hname, rfl⟩
    | orderBy descending =>
        obtain ⟨field, hsort, rfl⟩ := happlied
        obtain ⟨argument, rfl, hfield⟩ := sortFieldOf_eq_ok.mp hsort
        exact ⟨_, .orderBy hfield descending, rfl⟩
    | thenBy descending =>
        obtain ⟨field, hsort, rfl⟩ := happlied
        obtain ⟨argument, rfl, hfield⟩ := sortFieldOf_eq_ok.mp hsort
        exact ⟨_, .thenBy hfield descending, rfl⟩
    | take =>
        obtain ⟨count, hcount, rfl⟩ := happlied
        obtain ⟨number, rfl, hnumber⟩ := countOf_eq_ok.mp hcount
        exact ⟨_, .take hnumber, rfl⟩
    | skip =>
        obtain ⟨count, hcount, rfl⟩ := happlied
        obtain ⟨number, rfl, hnumber⟩ := countOf_eq_ok.mp hcount
        exact ⟨_, .skip hnumber, rfl⟩
    | select =>
        obtain ⟨argument, projection, rfl, hbody, rfl⟩ := happlied
        exact ⟨_, .select hbody, rfl⟩
    | terminal reduction =>
        rcases applyTerminal_ok happlied with
          ⟨index, haccepts, hcount, rfl⟩ | ⟨haccepts, rfl, rfl⟩ |
          ⟨condition, filtered, haccepts, rfl, hadd, rfl⟩
        · obtain ⟨orDefault, rfl⟩ := Terminal.eq_elementAt_of_not_acceptsCondition haccepts
          obtain ⟨number, rfl, hnumber⟩ := countOf_eq_ok.mp hcount
          exact ⟨_, .position hnumber orDefault, rfl⟩
        · exact ⟨_, .terminal haccepts, rfl⟩
        · obtain ⟨entry, hentry, rfl⟩ := addFilter_eq_ok.mp hadd
          exact ⟨_, .terminalWhere haccepts hentry, rfl⟩
  · rintro ⟨hopen, effect, hdoes, rfl⟩
    have hterminal : ¬draft.terminal.isSome = true := by
      simp [hopen]
    unfold applyOperator
    rw [if_neg hterminal]
    cases hdoes with
    | filter hentry => exact addFilter_eq_ok.mpr ⟨_, hentry, rfl⟩
    | ofType hname => exact addTypeFilter_eq_ok.mpr ⟨_, hname, rfl⟩
    | orderBy hfield descending =>
        exact bind_eq_ok.mpr ⟨_, sortFieldOf_eq_ok.mpr ⟨_, rfl, hfield⟩, rfl⟩
    | thenBy hfield descending =>
        exact bind_eq_ok.mpr ⟨_, sortFieldOf_eq_ok.mpr ⟨_, rfl, hfield⟩, rfl⟩
    | take hcount => exact bind_eq_ok.mpr ⟨_, countOf_eq_ok.mpr ⟨_, rfl, hcount⟩, rfl⟩
    | skip hcount => exact bind_eq_ok.mpr ⟨_, countOf_eq_ok.mpr ⟨_, rfl, hcount⟩, rfl⟩
    | select hbody => exact bind_eq_ok.mpr ⟨_, hbody, rfl⟩
    | position hindex orDefault =>
        exact bind_eq_ok.mpr ⟨_, countOf_eq_ok.mpr ⟨_, rfl, hindex⟩, rfl⟩
    | terminal haccepts => exact applyTerminal_nil haccepts draft site
    | terminalWhere haccepts hentry =>
        exact (applyTerminal_singleton haccepts draft _ site).trans
          (bind_eq_ok.mpr ⟨_, addFilter_eq_ok.mpr ⟨_, hentry, rfl⟩, rfl⟩)

/-- The query of a draft whose stack holds one filter at most. -/
def finished (draft : Draft) : Query :=
  { draft.query with
    predicate := draft.conditions.head?.map fun entry => entry.toPredicate.anchored }

theorem finished_eq {draft : Draft} {ps : List Predicate} (hstack : draft.conditions.Conjoins ps) :
    draft.finished =
      { draft.query with predicate := (Predicate.conjunction? ps).map Predicate.anchored } := by
  have hhead : Predicate.conjunction? ps = draft.conditions.head?.map Entry.toPredicate := by
    rw [← List.head?_map, hstack, Option.head?_toList]
  rw [finished, hhead, Option.map_map]
  rfl

end Draft

/-- A chain compiles exactly when its folding makes a draft, and its query is the finished draft
under the options. -/
theorem Expr.compile_eq_ok_iff_finished {chain : Expr} {options : QueryOptions} {query : Query} :
    chain.compile options = .ok query ↔
      ∃ draft, Draft.start.addChain chain.fold = .ok draft ∧
        draft.finished.withOptions options = query := by
  constructor
  · intro hcompile
    obtain ⟨draft, ps, hadd, -, hconjoins, rfl⟩ := compile_eq_ok.mp hcompile
    exact ⟨draft, hadd, by rw [Draft.finished_eq hconjoins]⟩
  · rintro ⟨draft, hadd, rfl⟩
    obtain ⟨ps, hps, hconjoins⟩ := Draft.addChain_conjoins hadd
    exact compile_eq_ok.mpr ⟨draft, ps, hadd, hps, hconjoins, by rw [Draft.finished_eq hconjoins]⟩

/-! ## Calls in a row -/

/-- A call of an operator, under one of its names. -/
structure Call where
  name : String
  operator : Operator
  named : Operator.ofName? name = some operator
  arguments : List Expr

namespace Call

/-- The call as it is compiled, with its arguments folded. -/
def folded (call : Call) : Call :=
  { call with arguments := call.arguments.map Expr.foldParts }

/-- What a call does to the drafts that it does not fail on. -/
def Does (call : Call) (effect : Effect) : Prop := call.operator.Does call.arguments effect

end Call

namespace Expr

/-- An expression with calls on it, the innermost first. -/
def withCalls (receiver : Expr) (calls : List Call) : Expr :=
  calls.foldl (fun chain call => chain.call call.name call.arguments) receiver

theorem withCalls_cons (receiver : Expr) (call : Call) (calls : List Call) :
    receiver.withCalls (call :: calls) =
      (receiver.call call.name call.arguments).withCalls calls :=
  List.foldl_cons ..

theorem withCalls_eq_continuedBy (receiver : Expr) (calls : List Call) :
    receiver.withCalls calls =
      receiver.continuedBy (calls.map fun call => (call.name, call.arguments)) := by
  rw [withCalls, continuedBy, List.foldl_map]

/-- Folding goes to the arguments of each call. -/
theorem fold_source_withCalls (typeName : String) (calls : List Call) :
    ((source typeName).withCalls calls).fold =
      (source typeName).withCalls (calls.map Call.folded) := by
  have hsource := mentionsItem_source typeName
  rw [withCalls_eq_continuedBy, withCalls_eq_continuedBy,
    fold_eq_foldParts (mentionsItem_continuedBy hsource _), foldParts_continuedBy hsource,
    foldParts_source, List.map_map, List.map_map]
  rfl

end Expr

namespace Draft

/-- `Runs draft calls final` says that the calls, done one after the other, take a draft to
another. No call is done once a terminal has ended the draft. -/
inductive Runs : Draft → List Call → Draft → Prop
  | nil {draft : Draft} : Runs draft [] draft
  | cons {draft final : Draft} {call : Call} {effect : Effect} {rest : List Call}
      (hopen : draft.terminal = none) (hdoes : call.Does effect)
      (hrest : Runs (draft.perform effect) rest final) : Runs draft (call :: rest) final

theorem runs_append {draft final : Draft} {first second : List Call} :
    draft.Runs (first ++ second) final ↔
      ∃ middle, draft.Runs first middle ∧ middle.Runs second final := by
  induction first generalizing draft with
  | nil =>
      refine ⟨fun hruns => ⟨draft, .nil, hruns⟩, ?_⟩
      rintro ⟨middle, hfirst, hsecond⟩
      cases hfirst
      exact hsecond
  | cons call rest ih =>
      constructor
      · intro hruns
        cases hruns with
        | cons hopen hdoes hrest =>
            obtain ⟨middle, hfirst, hsecond⟩ := ih.mp hrest
            exact ⟨middle, .cons hopen hdoes hfirst, hsecond⟩
      · rintro ⟨middle, hfirst, hsecond⟩
        cases hfirst with
        | cons hopen hdoes hrest => exact .cons hopen hdoes (ih.mpr ⟨middle, hrest, hsecond⟩)

/-- Adding a chain of calls is adding what the calls are on and then running them. -/
theorem addChain_withCalls {draft final : Draft} {receiver : Expr} {calls : List Call} :
    draft.addChain (receiver.withCalls calls) = .ok final ↔
      ∃ middle, draft.addChain receiver = .ok middle ∧ middle.Runs calls final := by
  induction calls generalizing receiver with
  | nil =>
      refine ⟨fun hadd => ⟨final, hadd, .nil⟩, ?_⟩
      rintro ⟨middle, hadd, hruns⟩
      cases hruns
      exact hadd
  | cons call rest ih =>
      rw [Expr.withCalls_cons, ih]
      constructor
      · rintro ⟨next, hadd, hruns⟩
        obtain ⟨-, earlier, hearlier, happly⟩ := (addChain_call call.named).mp hadd
        obtain ⟨hopen, effect, hdoes, rfl⟩ := applyOperator_eq_ok.mp happly
        exact ⟨earlier, hearlier, .cons hopen hdoes hruns⟩
      · rintro ⟨earlier, hearlier, hruns⟩
        cases hruns with
        | cons hopen hdoes hrest =>
            exact ⟨_, (addChain_call call.named).mpr
              ⟨Operator.isDisallowed_of_ofName? call.named, earlier, hearlier,
                applyOperator_eq_ok.mpr ⟨hopen, _, hdoes, rfl⟩⟩, hrest⟩

end Draft

/-- Compiling a chain over a source is running its folded calls from the start. -/
theorem Expr.compile_withCalls {typeName : String} {calls : List Call} {options : QueryOptions}
    {query : Query} :
    ((source typeName).withCalls calls).compile options = .ok query ↔
      ∃ final, Draft.start.Runs (calls.map Call.folded) final ∧
        final.finished.withOptions options = query := by
  rw [compile_eq_ok_iff_finished, fold_source_withCalls]
  refine exists_congr fun final => and_congr_left fun _ => ?_
  rw [Draft.addChain_withCalls]
  constructor
  · rintro ⟨middle, hstart, hruns⟩
    obtain rfl := Except.ok.inj hstart
    exact hruns
  · exact fun hruns => ⟨Draft.start, rfl, hruns⟩

end ContentQuery
