/-
# What a compiled chain says

Each operator of a chain either adds one condition or none. This module reads the conditions off a
chain and proves that the predicate of a compiled chain is the conjunction of their predicates,
the earliest first, whatever sorting, paging and selection stand between them. It also inverts the
operators: from the success of one follows what its arguments were and what it did.
-/

import ContentQuery.Chain.Compile
import ContentQuery.Proofs.Condition
import ContentQuery.Proofs.Outcome

namespace ContentQuery

open Outcome

/-! ## Conditions of a chain -/

/-- The condition that an operator adds with its arguments, if it adds one. Narrowing to a type is
the test of the type. -/
def Operator.condition? : Operator → List Expr → Option Expr
  | .filter, [condition] => some condition
  | .ofType, [type] => some (Expr.item.call "TypeIs" [type])
  | .terminal reduction, [condition] => if reduction.acceptsCondition then some condition else none
  | _, _ => none

/-- The conditions of a chain, the earliest first. What is no operator on a chain is a condition by
itself. -/
def Expr.conditions : Expr → List Expr
  | source _ => []
  | call receiver method arguments =>
    match Operator.ofName? method with
    | some operator => receiver.conditions ++ (operator.condition? arguments).toList
    | none => [call receiver method arguments]
  | condition => [condition]

/-- The conjunction of predicates in their order; of none there is no predicate. -/
def Predicate.conjunction? : List Predicate → Option Predicate
  | [] => none
  | p :: ps => some (ps.foldl Predicate.must p)

theorem Predicate.conjunction?_append_singleton (ps : List Predicate) (p : Predicate) :
    conjunction? (ps ++ [p]) =
      some (match conjunction? ps with
        | none => p
        | some earlier => earlier.must p) := by
  cases ps with
  | nil => rfl
  | cons first rest =>
      rw [List.cons_append, conjunction?, List.foldl_append]
      rfl

/-- The stack between two operators of a chain: the conjunction of the conditions so far, and
nothing else. -/
def Stack.Conjoins (stack : Stack) (ps : List Predicate) : Prop :=
  stack.map Entry.toPredicate = (Predicate.conjunction? ps).toList

namespace Stack

theorem Conjoins.lowered {stack : Stack} {ps : List Predicate} (hstack : stack.Conjoins ps) :
    stack.lowered.Conjoins ps := by
  rw [Conjoins, Stack.lowered, List.map_map]
  exact hstack

/-- Merging a filter puts its predicate at the end of the conjunction. -/
theorem Conjoins.withFilter {stack : Stack} {ps : List Predicate} (hstack : stack.Conjoins ps)
    (entry : Entry) : (stack.withFilter entry).Conjoins (ps ++ [entry.toPredicate]) := by
  rw [Conjoins] at hstack
  rw [Conjoins, Predicate.conjunction?_append_singleton]
  cases hps : Predicate.conjunction? ps with
  | none =>
      rw [hps, Option.toList_none, List.map_eq_nil_iff] at hstack
      rw [hstack]
      rfl
  | some earlier =>
      rw [hps, Option.toList_some, List.map_eq_singleton_iff] at hstack
      obtain ⟨below, rfl, hbelow⟩ := hstack
      rw [← hbelow]
      rfl

/-- What adds no condition leaves the conjunction as it is. -/
theorem Conjoins.adding_none {stack : Stack} {ps : List Predicate} (hstack : stack.Conjoins ps) :
    ∃ added, ([] : List Expr).mapM Expr.predicate = .ok added ∧ stack.Conjoins (ps ++ added) := by
  refine ⟨[], rfl, ?_⟩
  rw [List.append_nil]
  exact hstack

theorem Conjoins.adding_one {stack : Stack} {ps : List Predicate} {p : Predicate} {condition : Expr}
    (hp : condition.predicate = .ok p) (hstack : stack.Conjoins (ps ++ [p])) :
    ∃ added, [condition].mapM Expr.predicate = .ok added ∧ stack.Conjoins (ps ++ added) :=
  ⟨[p], mapM_cons_eq_ok.mpr ⟨p, [], hp, rfl, rfl⟩, hstack⟩

end Stack

/-- Every terminal but that of a position accepts a condition. -/
theorem Terminal.acceptsCondition_of_ne_elementAt {terminal : Terminal}
    (hposition : ∀ orDefault, terminal = .pick .elementAt orDefault → False) :
    terminal.acceptsCondition = true := by
  unfold acceptsCondition
  split
  · exact (hposition _ rfl).elim
  · rfl

/-- Only the terminals of a position accept no condition. -/
theorem Terminal.eq_elementAt_of_not_acceptsCondition {terminal : Terminal}
    (haccepts : terminal.acceptsCondition = false) :
    ∃ orDefault, terminal = .pick .elementAt orDefault := by
  unfold acceptsCondition at haccepts
  split at haccepts
  · exact ⟨_, rfl⟩
  · cases haccepts

theorem Operator.condition?_terminal_eq_none {terminal : Terminal}
    (haccepts : terminal.acceptsCondition = false) (arguments : List Expr) :
    (Operator.terminal terminal).condition? arguments = none := by
  cases arguments with
  | nil => rfl
  | cons condition rest =>
      cases rest with
      | nil => rw [condition?, haccepts]; rfl
      | cons _ _ => rfl

/-- The name of an operator is refused by no list of names. -/
theorem Operator.isDisallowed_of_ofName? {name : String} {operator : Operator}
    (hname : ofName? name = some operator) : isDisallowed name = false := by
  have hunnamed : ∀ other ∈ disallowed, ofName? other = none := by decide
  cases hdisallowed : isDisallowed name with
  | false => rfl
  | true =>
      rw [hunnamed name (List.contains_iff_mem.mp hdisallowed)] at hname
      cases hname

/-! ## What an operator does when it succeeds -/

namespace Draft

/-- The arguments and the effect of an operator that succeeds. -/
def Applied (draft : Draft) (arguments : List Expr) (site : Expr) (next : Draft) : Operator → Prop
  | .filter => ∃ condition, arguments = [condition] ∧ draft.addFilter condition site = .ok next
  | .ofType => ∃ value, arguments = [.literal value] ∧ draft.addTypeFilter value site = .ok next
  | .orderBy descending => ∃ field, sortFieldOf arguments site = .ok field ∧
      next = { draft with query := { draft.query with sort := [⟨field, descending⟩] } }
  | .thenBy descending => ∃ field, sortFieldOf arguments site = .ok field ∧
      next = { draft with query :=
        { draft.query with sort := draft.query.sort ++ [⟨field, descending⟩] } }
  | .take => ∃ count, countOf arguments site = .ok count ∧
      next = { draft with query := { draft.query with top := some count } }
  | .skip => ∃ count, countOf arguments site = .ok count ∧
      next = { draft with query := { draft.query with skip := some count } }
  | .select => ∃ argument projection, arguments = [argument] ∧
      Projection.ofBody argument.lambdaBody = .ok projection ∧
      next = { draft with query :=
        { draft.query with select := projection.select, expand := projection.expand } }
  | .terminal reduction => draft.applyTerminal reduction arguments site = .ok next

/-- Nothing follows a terminal, and an operator that succeeds has done its part. -/
theorem applied_of_applyOperator {draft next : Draft} {operator : Operator}
    {arguments : List Expr} {site : Expr}
    (happly : draft.applyOperator operator arguments site = .ok next) :
    draft.terminal = none ∧ draft.Applied arguments site next operator := by
  unfold applyOperator at happly
  by_cases hterminal : draft.terminal.isSome = true
  · rw [if_pos hterminal] at happly
    cases happly
  · rw [if_neg hterminal] at happly
    refine ⟨by simpa using hterminal, ?_⟩
    split at happly
    · exact ⟨_, rfl, happly⟩
    · exact ⟨_, rfl, happly⟩
    · obtain ⟨field, hfield, hnext⟩ := bind_eq_ok.mp happly
      exact ⟨field, hfield, (Except.ok.inj hnext).symm⟩
    · obtain ⟨field, hfield, hnext⟩ := bind_eq_ok.mp happly
      exact ⟨field, hfield, (Except.ok.inj hnext).symm⟩
    · obtain ⟨count, hcount, hnext⟩ := bind_eq_ok.mp happly
      exact ⟨count, hcount, (Except.ok.inj hnext).symm⟩
    · obtain ⟨count, hcount, hnext⟩ := bind_eq_ok.mp happly
      exact ⟨count, hcount, (Except.ok.inj hnext).symm⟩
    · obtain ⟨projection, hprojection, hnext⟩ := bind_eq_ok.mp happly
      exact ⟨_, projection, rfl, hprojection, (Except.ok.inj hnext).symm⟩
    · exact happly
    · cases happly

/-- A row count is read from one literal number, which it equals. -/
theorem countOf_eq_ok {arguments : List Expr} {site : Expr} {count : UInt32} :
    countOf arguments site = .ok count ↔
      ∃ number, arguments = [.literal (.int number)] ∧ number.toInt = count.toNat := by
  constructor
  · intro hcount
    unfold countOf at hcount
    split at hcount
    · rename_i number
      split at hcount
      · rename_i hrange
        obtain rfl := Except.ok.inj hcount
        refine ⟨number, rfl, ?_⟩
        rw [UInt32.toNat_ofNat_of_lt' (by omega), Int.toNat_of_nonneg hrange.1]
      · cases hcount
    · cases hcount
  · rintro ⟨number, rfl, hnumber⟩
    have hbound : count.toNat < UInt32.size := count.toNat_lt_size
    rw [countOf, hnumber, if_pos (by omega), Int.toNat_natCast, UInt32.ofNat_toNat]

theorem sortFieldOf_eq_ok {arguments : List Expr} {site : Expr} {field : String} :
    sortFieldOf arguments site = .ok field ↔
      ∃ argument, arguments = [argument] ∧ argument.lambdaBody.fieldName? = some field := by
  constructor
  · intro hsort
    unfold sortFieldOf at hsort
    split at hsort
    · rename_i argument
      split at hsort
      · rename_i hfield
        obtain rfl := Except.ok.inj hsort
        exact ⟨argument, rfl, hfield⟩
      · cases hsort
    · cases hsort
  · rintro ⟨argument, rfl, hfield⟩
    rw [sortFieldOf, hfield]

/-- A filter is the entry of its condition, merged; it fails with the error of its condition, and
where it stands makes no difference. -/
theorem addFilter_eq (draft : Draft) (condition site : Expr) :
    draft.addFilter condition site =
      (fun entry => { draft with conditions := draft.conditions.withFilter entry }) <$>
        condition.entry := by
  rw [addFilter, Stack.pushCondition_eq]
  cases condition.entry with
  | error cause => rfl
  | ok entry =>
      show (do return { draft with
        conditions := ← Stack.mergeFilter site (entry :: draft.conditions) }) = _
      rw [Stack.mergeFilter_cons]
      rfl

/-- A filter is added exactly when its condition has an entry, and its entry is merged. -/
theorem addFilter_eq_ok {draft next : Draft} {condition site : Expr} :
    draft.addFilter condition site = .ok next ↔
      ∃ entry, condition.entry = .ok entry ∧
        next = { draft with conditions := draft.conditions.withFilter entry } := by
  rw [addFilter_eq, map_eq_ok]
  simp only [eq_comm]

theorem addTypeFilter_eq (draft : Draft) (value : Literal) (site : Expr) :
    draft.addTypeFilter value site =
      match value.typeTerm? with
      | some name => .ok { draft with
          conditions := draft.conditions.withFilter (.predicate (.hasValue "TypeIs" (.text name))) }
      | none => .error (.unsupported site) := by
  rw [addTypeFilter]
  cases value.typeTerm? with
  | none => rfl
  | some name =>
      show (do return { draft with
        conditions := ← Stack.mergeFilter site
          (.predicate (.hasValue "TypeIs" (.text name)) :: draft.conditions) }) = _
      rw [Stack.mergeFilter_cons]
      rfl

theorem addTypeFilter_eq_ok {draft next : Draft} {value : Literal} {site : Expr} :
    draft.addTypeFilter value site = .ok next ↔
      ∃ name, value.typeTerm? = some name ∧
        next = { draft with
          conditions :=
            draft.conditions.withFilter (.predicate (.hasValue "TypeIs" (.text name))) } := by
  rw [addTypeFilter_eq]
  cases value.typeTerm? with
  | none => simp
  | some name => simp [eq_comm]

/-- A filter that succeeds puts the predicate of its condition at the end of the conjunction and
changes nothing else. -/
theorem addFilter_ok {draft next : Draft} {condition site : Expr} {ps : List Predicate}
    (hstack : draft.conditions.Conjoins ps)
    (hadd : draft.addFilter condition site = .ok next) :
    ∃ p, condition.predicate = .ok p ∧ next.conditions.Conjoins (ps ++ [p]) ∧
      next.query = draft.query ∧ next.terminal = draft.terminal := by
  obtain ⟨entry, hentry, rfl⟩ := addFilter_eq_ok.mp hadd
  exact ⟨entry.toPredicate, map_eq_ok.mpr ⟨entry, hentry, rfl⟩, hstack.withFilter entry, rfl, rfl⟩

/-- Narrowing to a type that succeeds puts the test of the type at the end of the conjunction and
changes nothing else. -/
theorem addTypeFilter_ok {draft next : Draft} {value : Literal} {site : Expr}
    {ps : List Predicate} (hstack : draft.conditions.Conjoins ps)
    (hadd : draft.addTypeFilter value site = .ok next) :
    ∃ p, (Expr.item.call "TypeIs" [.literal value]).predicate = .ok p ∧
      next.conditions.Conjoins (ps ++ [p]) ∧ next.query = draft.query ∧
      next.terminal = draft.terminal := by
  obtain ⟨name, hname, rfl⟩ := addTypeFilter_eq_ok.mp hadd
  refine ⟨.hasValue "TypeIs" (.text name), ?_, hstack.withFilter _, rfl, rfl⟩
  rw [Expr.predicate, Expr.entry, Stack.callPredicate]
  show Entry.toPredicate <$> Entry.predicate <$>
    Predicate.ofTypeTest "TypeIs" .item (.literal value) _ = _
  rw [Predicate.ofTypeTest, hname]
  rfl

/-- A terminal that accepts a condition needs none. -/
theorem applyTerminal_nil {terminal : Terminal} (haccepts : terminal.acceptsCondition = true)
    (draft : Draft) (site : Expr) :
    draft.applyTerminal terminal [] site = .ok (draft.close terminal 0) := by
  cases terminal with
  | pick selection orDefault =>
      cases selection with
      | elementAt => cases haccepts
      | _ => rfl
  | _ => rfl

theorem applyTerminal_singleton {terminal : Terminal} (haccepts : terminal.acceptsCondition = true)
    (draft : Draft) (condition site : Expr) :
    draft.applyTerminal terminal [condition] site =
      (do return (← draft.addFilter condition site).close terminal 0) := by
  cases terminal with
  | pick selection orDefault =>
      cases selection with
      | elementAt => cases haccepts
      | _ => rfl
  | _ => rfl

/-- A terminal that succeeds has closed the draft: at a position, without a condition, or after its
condition became the last filter. -/
theorem applyTerminal_ok {draft next : Draft} {terminal : Terminal} {arguments : List Expr}
    {site : Expr} (happly : draft.applyTerminal terminal arguments site = .ok next) :
    (∃ index, terminal.acceptsCondition = false ∧ countOf arguments site = .ok index ∧
        next = draft.close terminal index) ∨
      (terminal.acceptsCondition = true ∧ arguments = [] ∧ next = draft.close terminal 0) ∨
      ∃ condition filtered, terminal.acceptsCondition = true ∧ arguments = [condition] ∧
        draft.addFilter condition site = .ok filtered ∧ next = filtered.close terminal 0 := by
  unfold applyTerminal at happly
  split at happly
  · obtain ⟨index, hindex, hnext⟩ := bind_eq_ok.mp happly
    exact .inl ⟨index, rfl, hindex, (Except.ok.inj hnext).symm⟩
  · rename_i hposition
    refine .inr (.inl ⟨?_, rfl, (Except.ok.inj happly).symm⟩)
    exact Terminal.acceptsCondition_of_ne_elementAt hposition
  · rename_i condition hposition
    obtain ⟨filtered, hfiltered, hnext⟩ := bind_eq_ok.mp happly
    exact .inr (.inr ⟨condition, filtered, Terminal.acceptsCondition_of_ne_elementAt hposition, rfl,
      hfiltered, (Except.ok.inj hnext).symm⟩)
  · cases happly

/-- One operator: its condition, if it adds one, has a predicate, which goes to the end of the
conjunction. -/
theorem applyOperator_conjoins {draft next : Draft} {operator : Operator}
    {arguments : List Expr} {site : Expr} {ps : List Predicate}
    (hstack : draft.conditions.Conjoins ps)
    (happly : draft.applyOperator operator arguments site = .ok next) :
    ∃ added, (operator.condition? arguments).toList.mapM Expr.predicate = .ok added ∧
      next.conditions.Conjoins (ps ++ added) := by
  obtain ⟨-, happlied⟩ := applied_of_applyOperator happly
  cases operator with
  | filter =>
      obtain ⟨condition, rfl, hadd⟩ := happlied
      obtain ⟨p, hp, hconjoins, -⟩ := addFilter_ok hstack hadd
      exact hconjoins.adding_one hp
  | ofType =>
      obtain ⟨value, rfl, hadd⟩ := happlied
      obtain ⟨p, hp, hconjoins, -⟩ := addTypeFilter_ok hstack hadd
      exact hconjoins.adding_one hp
  | terminal reduction =>
      rcases applyTerminal_ok happlied with
        ⟨index, haccepts, -, rfl⟩ | ⟨-, rfl, rfl⟩ | ⟨condition, filtered, haccepts, rfl, hadd, rfl⟩
      · rw [Operator.condition?_terminal_eq_none haccepts]
        exact hstack.lowered.adding_none
      · exact hstack.lowered.adding_none
      · obtain ⟨p, hp, hconjoins, -⟩ := addFilter_ok hstack hadd
        rw [Operator.condition?, if_pos haccepts]
        exact hconjoins.lowered.adding_one hp
  | select =>
      obtain ⟨argument, projection, rfl, -, rfl⟩ := happlied
      exact hstack.adding_none
  | _ =>
      obtain ⟨_, -, rfl⟩ := happlied
      exact hstack.adding_none

/-- A condition by itself, at the start of a chain, is a conjunction of one. -/
theorem pushCondition_start {condition : Expr} {draft : Draft}
    (hpush : (do return { start with conditions := ← start.conditions.pushCondition condition }) =
      Except.ok draft) :
    ∃ ps, [condition].mapM Expr.predicate = .ok ps ∧ draft.conditions.Conjoins ps := by
  rw [Stack.pushCondition_eq] at hpush
  obtain ⟨stack, hstack, hdraft⟩ := bind_eq_ok.mp hpush
  obtain ⟨entry, hentry, rfl⟩ := map_eq_ok.mp hstack
  obtain rfl := Except.ok.inj hdraft
  have hpredicate : condition.predicate = .ok entry.toPredicate :=
    map_eq_ok.mpr ⟨entry, hentry, rfl⟩
  exact ⟨[entry.toPredicate], mapM_cons_eq_ok.mpr ⟨_, [], hpredicate, rfl, rfl⟩, rfl⟩

/-- A chain whose last call is an operator compiles its receiver first, and then the operator. -/
theorem addChain_operator {method : String} {operator : Operator}
    (hname : Operator.ofName? method = some operator) (draft : Draft) (receiver : Expr)
    (arguments : List Expr) :
    draft.addChain (receiver.call method arguments) =
      draft.addChain receiver >>= fun earlier =>
        earlier.applyOperator operator arguments (receiver.call method arguments) := by
  rw [addChain, Operator.isDisallowed_of_ofName? hname, if_neg Bool.false_ne_true, hname]

/-- A chain whose last call is an operator makes a draft when its receiver does and the operator
succeeds on it. -/
theorem addChain_call {draft next : Draft} {receiver : Expr} {method : String}
    {arguments : List Expr} {operator : Operator}
    (hname : Operator.ofName? method = some operator) :
    draft.addChain (receiver.call method arguments) = .ok next ↔
      Operator.isDisallowed method = false ∧ ∃ earlier, draft.addChain receiver = .ok earlier ∧
        earlier.applyOperator operator arguments (receiver.call method arguments) = .ok next := by
  rw [addChain_operator hname, bind_eq_ok]
  exact (and_iff_right (Operator.isDisallowed_of_ofName? hname)).symm

/-- The whole chain: its conditions have predicates, and the stack holds their conjunction. -/
theorem addChain_conjoins {chain : Expr} {draft : Draft}
    (hadd : start.addChain chain = .ok draft) :
    ∃ ps, chain.conditions.mapM Expr.predicate = .ok ps ∧ draft.conditions.Conjoins ps := by
  induction chain using addChain.induct generalizing draft with
  | case1 typeName =>
      obtain rfl := Except.ok.inj hadd
      exact ⟨[], rfl, rfl⟩
  | case2 receiver method arguments hdisallowed =>
      rw [addChain, if_pos hdisallowed] at hadd
      cases hadd
  | case3 receiver method arguments hallowed operator hname ih =>
      obtain ⟨-, earlier, hearlier, happly⟩ := (addChain_call hname).mp hadd
      obtain ⟨ps, hps, hconjoins⟩ := ih hearlier
      obtain ⟨added, hadded, hnext⟩ := applyOperator_conjoins hconjoins happly
      refine ⟨ps ++ added, ?_, hnext⟩
      rw [Expr.conditions, hname]
      show (receiver.conditions ++ (operator.condition? arguments).toList).mapM _ = _
      rw [List.mapM_append, hps, hadded]
      rfl
  | case4 receiver method arguments hallowed hname =>
      rw [addChain, if_neg hallowed, hname] at hadd
      rw [Expr.conditions, hname]
      exact pushCondition_start hadd
  | case5 condition hsource hcall =>
      rw [addChain.eq_3 _ _ hsource hcall] at hadd
      rw [Expr.conditions.eq_3 _ hsource hcall]
      exact pushCondition_start hadd

/-- A draft of a chain is always finished: its stack holds at most one entry. -/
theorem finish_eq {draft : Draft} {ps : List Predicate} (hstack : draft.conditions.Conjoins ps)
    (site : Expr) :
    draft.finish site = .ok { draft.query with
      predicate := (Predicate.conjunction? ps).map Predicate.anchored } := by
  have hlowered := hstack.lowered
  rw [Stack.Conjoins] at hlowered
  rw [finish]
  cases hps : Predicate.conjunction? ps with
  | none =>
      rw [hps, Option.toList_none, List.map_eq_nil_iff] at hlowered
      rw [hlowered]
      rfl
  | some p =>
      rw [hps, Option.toList_some, List.map_eq_singleton_iff] at hlowered
      obtain ⟨entry, hentry, rfl⟩ := hlowered
      rw [hentry]
      rfl

end Draft

/-- A compiled chain is the draft of its folding, finished under the options. -/
theorem Expr.compile_eq_ok {chain : Expr} {options : QueryOptions} {query : Query} :
    chain.compile options = .ok query ↔
      ∃ draft ps, Draft.start.addChain chain.fold = .ok draft ∧
        chain.fold.conditions.mapM Expr.predicate = .ok ps ∧ draft.conditions.Conjoins ps ∧
        { draft.query with
          predicate := (Predicate.conjunction? ps).map Predicate.anchored }.withOptions options =
            query := by
  constructor
  · intro hcompile
    obtain ⟨draft, hdraft, hfinish⟩ := bind_eq_ok.mp hcompile
    obtain ⟨finished, hfinished, hquery⟩ := bind_eq_ok.mp hfinish
    obtain ⟨ps, hps, hconjoins⟩ := Draft.addChain_conjoins hdraft
    rw [Draft.finish_eq hconjoins] at hfinished
    obtain rfl := Except.ok.inj hfinished
    exact ⟨draft, ps, hdraft, hps, hconjoins, Except.ok.inj hquery⟩
  · rintro ⟨draft, ps, hdraft, -, hconjoins, rfl⟩
    rw [compile, hdraft]
    show (do return (← draft.finish chain.fold).withOptions options) = _
    rw [Draft.finish_eq hconjoins]
    rfl

/-- The predicate of a compiled chain is the conjunction of the predicates of the chain's
conditions, anchored at the root. -/
theorem Expr.predicate_of_compile {chain : Expr} {options : QueryOptions} {query : Query}
    (hcompile : chain.compile options = .ok query) :
    ∃ ps, chain.fold.conditions.mapM Expr.predicate = .ok ps ∧
      query.predicate = (Predicate.conjunction? ps).map Predicate.anchored := by
  obtain ⟨draft, ps, -, hps, -, rfl⟩ := compile_eq_ok.mp hcompile
  exact ⟨ps, hps, rfl⟩

end ContentQuery
