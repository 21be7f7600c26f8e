/-
# Consistency of the directives

What becomes of the rows of a query is said by several directives: count them, look for one, take
one, at a position, and whether having none is an error. Only a terminal says any of it, and
nothing follows a terminal, so no directive is set against another one. This module names what
consistent directives are and proves that every compiled query has them, whatever the operators and
their names, and that a terminal never asks for more rows than the chain below it did.

The chain below a terminal is compiled from a folding of its own. Below an operator whose receiver
is no query over items the two foldings can differ, but never in a row count.
-/

import ContentQuery.Proofs.Page

namespace ContentQuery

open Outcome

/-! ## Consistent directives -/

namespace Query

/-- At most so many rows are asked for. -/
def IsLimited (query : Query) (limit : UInt32) : Prop :=
  ∃ top, query.top = some top ∧ top ≤ limit

/-- The directives of a query agree on what becomes of its rows. -/
structure IsConsistent (query : Query) : Prop where
  /-- Rows that are counted are not taken. -/
  counting : query.countOnly = true →
    query.selection = none ∧ query.throwIfEmpty = false ∧ query.elementIndex = none
  /-- Whether there is a row is found out by counting, and one row is enough. -/
  existence : query.existenceOnly = true → query.countOnly = true ∧ query.IsLimited 1
  /-- Having no row is an error only where one is taken. -/
  emptiness : query.throwIfEmpty = true → query.selection ≠ none
  /-- A position is held exactly by the queries that take the row at one. -/
  position : (∃ index, query.elementIndex = some index) ↔ query.selection = some .elementAt
  /-- The window starts no earlier than the position, and holds one row or none. -/
  window : ∀ index, query.elementIndex = some index →
    (∃ skip, query.skip = some skip ∧ index ≤ skip) ∧
      (query.top = some 0 ∨ query.top = some 1)
  /-- The first row is the only one that is needed. -/
  first : query.selection = some .first → query.IsLimited 1
  /-- Two rows are enough to see that there is more than one. -/
  single : query.selection = some .single → query.IsLimited 2

/-- What the directives of a query say about its rows; the window is not part of it. -/
structure Decision where
  countOnly : Bool
  existenceOnly : Bool
  selection : Option Selection
  elementIndex : Option UInt32
  throwIfEmpty : Bool
deriving DecidableEq, Repr

/-- What the directives of a query say about its rows. -/
def decision (query : Query) : Decision where
  countOnly := query.countOnly
  existenceOnly := query.existenceOnly
  selection := query.selection
  elementIndex := query.elementIndex
  throwIfEmpty := query.throwIfEmpty

/-- Nothing is said yet about what becomes of the rows. -/
def IsUndecided (query : Query) : Prop := query.decision = all.decision

namespace IsUndecided

variable {query : Query} (hquery : query.IsUndecided)
include hquery

theorem countOnly : query.countOnly = false := congrArg Decision.countOnly hquery

theorem existenceOnly : query.existenceOnly = false := congrArg Decision.existenceOnly hquery

theorem selection : query.selection = none := congrArg Decision.selection hquery

theorem elementIndex : query.elementIndex = none := congrArg Decision.elementIndex hquery

theorem throwIfEmpty : query.throwIfEmpty = false := congrArg Decision.throwIfEmpty hquery

end IsUndecided

/-- Without a terminal there is nothing to contradict. -/
theorem IsUndecided.isConsistent {query : Query} (hquery : query.IsUndecided) :
    query.IsConsistent := by
  constructor <;> simp [hquery.countOnly, hquery.existenceOnly, hquery.selection,
    hquery.elementIndex, hquery.throwIfEmpty]

end Query

/-! ## What a terminal decides -/

namespace Draft

theorem narrowed_le_limit (top : Option UInt32) (limit : UInt32) : narrowed top limit ≤ limit := by
  rw [UInt32.le_iff_toNat_le, Query.narrowed_toNat]
  cases top with
  | none => exact Nat.le_refl _
  | some top => exact Nat.min_le_left _ _

theorem narrowed_le_top (top limit : UInt32) : narrowed (some top) limit ≤ top := by
  rw [UInt32.le_iff_toNat_le, Query.narrowed_toNat]
  exact Nat.min_le_right _ _

/-- A sum of row counts is no less than its second part, even where it saturates. -/
theorem le_saturatingAdd (m n : UInt32) : n ≤ saturatingAdd m n := by
  have hn : n.toNat < UInt32.size := n.toNat_lt_size
  rw [UInt32.le_iff_toNat_le, Query.saturatingAdd_toNat]
  omega

/-- The directives of a terminal are consistent when nothing was decided before it. -/
theorem isConsistent_reduce {query : Query} (hquery : query.IsUndecided) (terminal : Terminal)
    (index : UInt32) : (reduce query terminal index).IsConsistent := by
  cases terminal with
  | count =>
      constructor <;> simp [reduce, hquery.existenceOnly, hquery.selection, hquery.elementIndex,
        hquery.throwIfEmpty]
  | any =>
      constructor <;> simp [reduce, Query.IsLimited, narrowed_le_limit, hquery.selection,
        hquery.elementIndex, hquery.throwIfEmpty]
  | pick selection orDefault =>
      cases selection with
      | elementAt =>
          have hwindow : (∃ skip, some (saturatingAdd (query.skip.getD 0) index) = some skip ∧
              index ≤ skip) := ⟨_, rfl, le_saturatingAdd _ _⟩
          have hrows : (reduce query (.pick .elementAt orDefault) index).top = some 0 ∨
              (reduce query (.pick .elementAt orDefault) index).top = some 1 := by
            rw [reduce, pick]
            cases query.top with
            | none => exact .inr rfl
            | some top => by_cases hpast : top ≤ index <;> simp [hpast]
          constructor
          case window =>
            intro position hposition
            obtain rfl : index = position := Option.some.inj hposition
            exact ⟨hwindow, hrows⟩
          all_goals simp [reduce, pick, hquery.countOnly, hquery.existenceOnly]
      | _ =>
          constructor <;> simp [reduce, pick, Query.IsLimited, narrowed_le_limit, hquery.countOnly,
            hquery.existenceOnly, hquery.elementIndex]

/-- No terminal widens the window of the chain. -/
theorem isLimited_reduce {query : Query} {top : UInt32} (htop : query.top = some top)
    (terminal : Terminal) (index : UInt32) : (reduce query terminal index).IsLimited top := by
  have hnarrowed (limit : UInt32) : ∃ narrow, some (narrowed query.top limit) = some narrow ∧
      narrow ≤ top := ⟨_, rfl, htop ▸ narrowed_le_top top limit⟩
  cases terminal with
  | count => exact ⟨top, htop, UInt32.le_refl top⟩
  | any => exact hnarrowed 1
  | pick selection orDefault =>
      cases selection with
      | first => exact hnarrowed 1
      | single => exact hnarrowed 2
      | last => exact ⟨top, htop, UInt32.le_refl top⟩
      | elementAt =>
          refine ⟨if top ≤ index then 0 else 1, ?_, ?_⟩
          · rw [reduce, pick, htop]
          · -- inside the window there is room for one row, as the position is below its end
            simp only [UInt32.le_iff_toNat_le]
            by_cases hpast : top.toNat ≤ index.toNat
            · rw [if_pos hpast]
              exact Nat.zero_le _
            · rw [if_neg hpast]
              show 1 ≤ top.toNat
              omega

/-! ## Operators -/

theorem addFilter_keeps {draft next : Draft} {condition site : Expr}
    (hadd : draft.addFilter condition site = .ok next) :
    next.query = draft.query ∧ next.terminal = draft.terminal := by
  obtain ⟨entry, -, rfl⟩ := addFilter_eq_ok.mp hadd
  exact ⟨rfl, rfl⟩

theorem addTypeFilter_keeps {draft next : Draft} {value : Literal} {site : Expr}
    (hadd : draft.addTypeFilter value site = .ok next) :
    next.query = draft.query ∧ next.terminal = draft.terminal := by
  obtain ⟨name, -, rfl⟩ := addTypeFilter_eq_ok.mp hadd
  exact ⟨rfl, rfl⟩

/-- A terminal decides on the query that it finds, with a condition of its own or without. -/
theorem applyTerminal_reduces {draft next : Draft} {terminal : Terminal} {arguments : List Expr}
    {site : Expr} (happly : draft.applyTerminal terminal arguments site = .ok next) :
    next.terminal = some terminal ∧ ∃ index, next.query = reduce draft.query terminal index := by
  rcases applyTerminal_ok happly with
    ⟨index, -, -, rfl⟩ | ⟨-, -, rfl⟩ | ⟨condition, filtered, -, -, hadd, rfl⟩
  · exact ⟨rfl, index, rfl⟩
  · exact ⟨rfl, 0, rfl⟩
  · exact ⟨rfl, 0, congrArg (reduce · terminal 0) (addFilter_keeps hadd).1⟩

/-- Where the directives of a draft stand: before a terminal nothing is decided, and what a terminal
has decided is consistent. -/
structure IsDirected (draft : Draft) : Prop where
  undecided : draft.terminal = none → draft.query.IsUndecided
  consistent : draft.query.IsConsistent

theorem isDirected_start : start.IsDirected where
  undecided _ := rfl
  consistent := Query.IsUndecided.isConsistent rfl

/-- A draft that was not ended, and whose query still decides what it did, stays directed. -/
theorem IsDirected.of_decision_eq {draft next : Draft} (hdraft : draft.IsDirected)
    (hterminal : draft.terminal = none) (hdecision : next.query.decision = draft.query.decision) :
    next.IsDirected := by
  have hundecided : next.query.IsUndecided := hdecision.trans (hdraft.undecided hterminal)
  exact ⟨fun _ => hundecided, hundecided.isConsistent⟩

/-- One operator: only a terminal decides anything, and it comes when nothing was decided. -/
theorem IsDirected.applyOperator {draft next : Draft} {operator : Operator}
    {arguments : List Expr} {site : Expr} (hdraft : draft.IsDirected)
    (happly : draft.applyOperator operator arguments site = .ok next) : next.IsDirected := by
  obtain ⟨hterminal, happlied⟩ := applied_of_applyOperator happly
  cases operator with
  | filter =>
      obtain ⟨condition, -, hadd⟩ := happlied
      exact hdraft.of_decision_eq hterminal (congrArg Query.decision (addFilter_keeps hadd).1)
  | ofType =>
      obtain ⟨value, -, hadd⟩ := happlied
      exact hdraft.of_decision_eq hterminal (congrArg Query.decision (addTypeFilter_keeps hadd).1)
  | terminal reduction =>
      obtain ⟨hended, index, hquery⟩ := applyTerminal_reduces happlied
      refine ⟨fun hnone => ?_, ?_⟩
      · rw [hended] at hnone
        cases hnone
      · rw [hquery]
        exact isConsistent_reduce (hdraft.undecided hterminal) reduction index
  | select =>
      obtain ⟨argument, projection, -, -, rfl⟩ := happlied
      exact hdraft.of_decision_eq hterminal rfl
  | _ =>
      obtain ⟨_, -, rfl⟩ := happlied
      exact hdraft.of_decision_eq hterminal rfl

/-- A condition by itself decides nothing. -/
theorem pushCondition_keeps {draft next : Draft} {condition : Expr}
    (hpush : (do return { draft with conditions := ← draft.conditions.pushCondition condition }) =
      Except.ok next) :
    next.query = draft.query ∧ next.terminal = draft.terminal := by
  obtain ⟨conditions, -, hnext⟩ := bind_eq_ok.mp hpush
  obtain rfl := Except.ok.inj hnext
  exact ⟨rfl, rfl⟩

theorem isDirected_of_pushCondition {condition : Expr} {draft : Draft}
    (hpush : (do return { start with conditions := ← start.conditions.pushCondition condition }) =
      Except.ok draft) : draft.IsDirected :=
  isDirected_start.of_decision_eq rfl (congrArg Query.decision (pushCondition_keeps hpush).1)

/-- The whole chain: its directives are consistent after every operator. -/
theorem isDirected_of_addChain {chain : Expr} {draft : Draft}
    (hadd : start.addChain chain = .ok draft) : draft.IsDirected := by
  induction chain using addChain.induct generalizing draft with
  | case1 typeName =>
      obtain rfl := Except.ok.inj hadd
      exact isDirected_start
  | case2 receiver method arguments hdisallowed =>
      rw [addChain, if_pos hdisallowed] at hadd
      cases hadd
  | case3 receiver method arguments hallowed operator hname ih =>
      obtain ⟨-, earlier, hearlier, happly⟩ := (addChain_call hname).mp hadd
      exact (ih hearlier).applyOperator happly
  | case4 receiver method arguments hallowed hname =>
      rw [addChain, if_neg hallowed, hname] at hadd
      exact isDirected_of_pushCondition hadd
  | case5 condition hsource hcall =>
      rw [addChain.eq_3 _ _ hsource hcall] at hadd
      exact isDirected_of_pushCondition hadd

end Draft

/-! ## The window of a folded chain -/

namespace Expr

/-- A call has no value, so folding keeps it as a call: as it is, or with its parts folded. -/
theorem foldParts_call_cases (receiver : Expr) (method : String) (arguments : List Expr) :
    (receiver.call method arguments).foldParts = receiver.call method arguments ∨
      (receiver.call method arguments).foldParts =
        receiver.foldParts.call method (arguments.map foldParts) := by
  rcases foldParts_cases (receiver.call method arguments) with
    ⟨value, -, hvalue, -⟩ | ⟨-, -, hfold⟩ | ⟨-, hfold⟩
  · cases hvalue
  · exact .inl hfold
  · exact .inr (hfold.trans (withChildren_call receiver method arguments foldParts))

/-- Folding makes no chain of an expression that is none. -/
theorem foldParts_ne_call {e : Expr} (hcall : ∀ receiver method arguments,
    e ≠ call receiver method arguments) (receiver : Expr) (method : String)
    (arguments : List Expr) : e.foldParts ≠ call receiver method arguments := by
  intro heq
  rcases foldParts_cases e with ⟨value, -, -, hfold⟩ | ⟨-, -, hfold⟩ | ⟨-, hfold⟩
  · cases hfold.symm.trans heq
  · exact hcall _ _ _ (hfold.symm.trans heq)
  · have hshape := hfold.symm.trans heq
    cases e with
    | call first name rest => exact hcall _ _ _ rfl
    | _ => cases hshape

end Expr

namespace Draft

/-- A row count that can be read is a literal, and folding leaves it as it is. -/
theorem countOf_map_foldParts {arguments : List Expr} {site : Expr} {count : UInt32}
    (hcount : countOf arguments site = .ok count) (other : Expr) :
    countOf (arguments.map Expr.foldParts) other = .ok count := by
  obtain ⟨number, rfl, hnumber⟩ := countOf_eq_ok.mp hcount
  rw [List.map_singleton, Expr.foldParts_literal]
  exact countOf_eq_ok.mpr ⟨number, rfl, hnumber⟩

/-- A draft that is still open has not come from a terminal. -/
theorem isTerminal_eq_false_of_applyOperator {draft next : Draft} {operator : Operator}
    {arguments : List Expr} {site : Expr}
    (happly : draft.applyOperator operator arguments site = .ok next)
    (hopen : next.terminal = none) : operator.isTerminal = false := by
  obtain ⟨-, happlied⟩ := applied_of_applyOperator happly
  cases operator with
  | terminal reduction =>
      rw [(applyTerminal_reduces happlied).1] at hopen
      cases hopen
  | _ => rfl

/-- The window of a chain after an operator that does not end it. -/
theorem top_of_applyOperator {draft next : Draft} {operator : Operator} {arguments : List Expr}
    {site : Expr} (happly : draft.applyOperator operator arguments site = .ok next)
    (hoperator : operator.isTerminal = false) :
    (operator = .take ∧ ∃ count, countOf arguments site = .ok count ∧ next.query.top = some count) ∨
      (operator ≠ .take ∧ next.query.top = draft.query.top) := by
  obtain ⟨-, happlied⟩ := applied_of_applyOperator happly
  cases operator with
  | filter =>
      obtain ⟨condition, -, hadd⟩ := happlied
      exact .inr ⟨nofun, congrArg Query.top (addFilter_keeps hadd).1⟩
  | ofType =>
      obtain ⟨value, -, hadd⟩ := happlied
      exact .inr ⟨nofun, congrArg Query.top (addTypeFilter_keeps hadd).1⟩
  | terminal reduction => cases hoperator
  | take =>
      obtain ⟨count, hcount, rfl⟩ := happlied
      exact .inl ⟨rfl, count, hcount, rfl⟩
  | select =>
      obtain ⟨argument, projection, -, -, rfl⟩ := happlied
      exact .inr ⟨nofun, rfl⟩
  | _ =>
      obtain ⟨_, -, rfl⟩ := happlied
      exact .inr ⟨nofun, rfl⟩

/-- What is no operator on a chain leaves the window open. -/
theorem top_of_no_operator {e : Expr} {draft : Draft}
    (hoperator : ∀ receiver method arguments, e = .call receiver method arguments →
      Operator.ofName? method = none)
    (hadd : start.addChain e = .ok draft) : draft.query.top = none := by
  unfold addChain at hadd
  split at hadd
  · obtain rfl := Except.ok.inj hadd
    rfl
  · rename_i receiver method arguments
    rw [hoperator receiver method arguments rfl] at hadd
    split at hadd
    · cases hadd
    · exact congrArg Query.top (pushCondition_keeps hadd).1
  · exact congrArg Query.top (pushCondition_keeps hadd).1

/-- What is no call asks for no window, folded or not. -/
theorem top_of_not_call {e : Expr} {draft folded : Draft}
    (hcall : ∀ receiver method arguments, e ≠ .call receiver method arguments)
    (hadd : start.addChain e = .ok draft) (hfolded : start.addChain e.foldParts = .ok folded) :
    folded.query.top = draft.query.top := by
  have hdraft := top_of_no_operator (fun _ _ _ heq => (hcall _ _ _ heq).elim) hadd
  have hfold := top_of_no_operator
    (fun _ _ _ heq => (Expr.foldParts_ne_call hcall _ _ _ heq).elim) hfolded
  rw [hdraft, hfold]

/-- A chain asks for the same window whether its parts are folded or not. -/
theorem top_of_addChain_foldParts {chain : Expr} {draft folded : Draft}
    (hadd : start.addChain chain = .ok draft)
    (hfolded : start.addChain chain.foldParts = .ok folded) (hopen : folded.terminal = none) :
    folded.query.top = draft.query.top := by
  induction chain using addChain.induct generalizing draft folded with
  | case1 typeName => exact top_of_not_call (fun _ _ _ heq => by cases heq) hadd hfolded
  | case2 receiver method arguments hdisallowed =>
      rw [addChain, if_pos hdisallowed] at hadd
      cases hadd
  | case3 receiver method arguments hallowed operator hname ih =>
      rcases Expr.foldParts_call_cases receiver method arguments with hfold | hfold
      · rw [hfold, hadd] at hfolded
        rw [Except.ok.inj hfolded]
      · rw [hfold] at hfolded
        obtain ⟨-, earlier, hearlier, happly⟩ := (addChain_call hname).mp hadd
        obtain ⟨-, earlierFolded, hearlierFolded, happlyFolded⟩ := (addChain_call hname).mp hfolded
        have hoperator := isTerminal_eq_false_of_applyOperator happlyFolded hopen
        rcases top_of_applyOperator happly hoperator with
          ⟨rfl, count, hcount, htop⟩ | ⟨hother, htop⟩
        · -- both windows are the one of this operator
          rcases top_of_applyOperator happlyFolded hoperator with
            ⟨-, countFolded, hcountFolded, htopFolded⟩ | ⟨hother, -⟩
          · rw [countOf_map_foldParts hcount] at hcountFolded
            rw [htop, htopFolded, Except.ok.inj hcountFolded]
          · exact (hother rfl).elim
        · rcases top_of_applyOperator happlyFolded hoperator with
            ⟨htake, -⟩ | ⟨-, htopFolded⟩
          · exact (hother htake).elim
          · rw [htop, htopFolded]
            exact ih hearlier hearlierFolded (applied_of_applyOperator happlyFolded).1
  | case4 receiver method arguments hallowed hname =>
      have hdraft := top_of_no_operator (by rintro _ _ _ ⟨⟩; exact hname) hadd
      rcases Expr.foldParts_call_cases receiver method arguments with hfold | hfold
      · rw [hfold, hadd] at hfolded
        rw [Except.ok.inj hfolded]
      · rw [hfold] at hfolded
        rw [hdraft, top_of_no_operator (by rintro _ _ _ ⟨⟩; exact hname) hfolded]
  | case5 condition hsource hcall => exact top_of_not_call hcall hadd hfolded

end Draft

/-! ## Compiled queries -/

/-- Folding a call folds its receiver like the receiver alone, unless only the arguments mention
the item: then the receiver alone is no query, and its folding leaves it as it is. -/
theorem Expr.fold_call (receiver : Expr) (method : String) (arguments : List Expr) :
    ∃ folded rest, (receiver.call method arguments).fold = folded.call method rest ∧
      (folded = receiver.fold ∨ receiver.fold = receiver ∧ folded = receiver.foldParts) := by
  rw [fold_call_eq]
  cases hreceiver : receiver.mentionsItem with
  | true => exact ⟨receiver.foldParts, _, rfl, .inl (fold_eq_foldParts hreceiver).symm⟩
  | false =>
      have hself := fold_of_not_mentionsItem hreceiver
      cases arguments.any mentionsItem with
      | true => exact ⟨receiver.foldParts, _, rfl, .inr ⟨hself, rfl⟩⟩
      | false => exact ⟨receiver, arguments, rfl, .inl hself.symm⟩

/-- A terminal finds the window that the chain below it has by itself. -/
theorem Expr.top_below_terminal {receiver : Expr} {name : String} {arguments : List Expr}
    {terminal : Terminal} {options : QueryOptions} {query below : Query}
    (hname : Operator.ofName? name = some (.terminal terminal))
    (hcompile : (receiver.call name arguments).compile options = .ok query)
    (hbelow : receiver.compile options = .ok below) :
    ∃ (earlier : Query) (index : UInt32), earlier.top = below.top ∧
      query.top = (Draft.reduce earlier terminal index).top := by
  obtain ⟨draft, -, hadd, -, -, rfl⟩ := compile_eq_ok.mp hcompile
  obtain ⟨alone, -, halone, -, -, rfl⟩ := compile_eq_ok.mp hbelow
  obtain ⟨folded, rest, hfold, hreceiver⟩ := fold_call receiver name arguments
  rw [hfold, Draft.addChain_call hname] at hadd
  obtain ⟨-, earlier, hearlier, happly⟩ := hadd
  obtain ⟨hopen, happlied⟩ := Draft.applied_of_applyOperator happly
  obtain ⟨-, index, hquery⟩ := Draft.applyTerminal_reduces happlied
  have htop : draft.query.top = (Draft.reduce earlier.query terminal index).top :=
    congrArg Query.top hquery
  refine ⟨earlier.query, index, ?_, htop⟩
  rcases hreceiver with rfl | ⟨hself, rfl⟩
  · rw [halone] at hearlier
    rw [← Except.ok.inj hearlier]
    rfl
  · rw [hself] at halone
    exact Draft.top_of_addChain_foldParts halone hearlier hopen

namespace Query

theorem isConsistent_of_compile {chain : Expr} {options : QueryOptions} {query : Query}
    (hcompile : chain.compile options = .ok query) : query.IsConsistent := by
  obtain ⟨draft, -, hadd, -, -, rfl⟩ := Expr.compile_eq_ok.mp hcompile
  have hdraft := (Draft.isDirected_of_addChain hadd).consistent
  exact ⟨hdraft.counting, hdraft.existence, hdraft.emptiness, hdraft.position, hdraft.window,
    hdraft.first, hdraft.single⟩

/-- The directives of a compiled query are consistent, and a terminal keeps to the window of its
chain: it asks for no more rows than the chain by itself does. -/
theorem directives_of_compile {chain : Expr} {options : QueryOptions} {query : Query}
    (hcompile : chain.compile options = .ok query) :
    query.IsConsistent ∧
      ∀ (receiver : Expr) (name : String) (arguments : List Expr) (terminal : Terminal)
        (below : Query) (top : UInt32),
        chain = receiver.call name arguments →
        Operator.ofName? name = some (.terminal terminal) →
        receiver.compile options = .ok below → below.top = some top → query.IsLimited top := by
  refine ⟨isConsistent_of_compile hcompile, ?_⟩
  rintro receiver name arguments terminal below top rfl hname hbelow htop
  obtain ⟨earlier, index, hearlier, hquery⟩ := Expr.top_below_terminal hname hcompile hbelow
  obtain ⟨narrow, hnarrow, hle⟩ := Draft.isLimited_reduce (hearlier.trans htop) terminal index
  exact ⟨narrow, hquery.trans hnarrow, hle⟩

/-- The row at a position of a window that starts at the largest row count: the start saturates and
the window narrows to the one row. -/
theorem directives_of_late_position :
    let window := ((Expr.source "User").call "Skip" [.literal (.int 4294967295)]).call "Take"
      [.literal (.int 3)]
    ∃ query, (window.call "ElementAt" [.literal (.int 2)]).compile .default = .ok query ∧
      query.IsConsistent ∧ query.skip = some 4294967295 ∧ query.IsLimited 3 := by
  intro window
  have hbelow : window.compile .default =
      .ok { all with skip := some 4294967295, top := some 3 } := by
    cbv
  have hcompile : (window.call "ElementAt" [.literal (.int 2)]).compile .default =
      .ok { all with
        skip := some 4294967295, top := some 1, selection := some .elementAt,
        elementIndex := some 2, throwIfEmpty := true } :=
    Expr.compile_terminal_position false 2 (by decide) hbelow
  obtain ⟨hconsistent, hlimited⟩ := directives_of_compile hcompile
  exact ⟨_, hcompile, hconsistent, rfl, hlimited _ _ _ _ _ 3 rfl rfl hbelow rfl⟩

end Query

end ContentQuery
