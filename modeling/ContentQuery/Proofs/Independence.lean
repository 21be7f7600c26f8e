/-
# Filters beside directives

Every operator of a chain writes to one draft, but a filter writes to the conditions only, and what
sorts, pages or selects writes to the query only. So a filter and a directive next to each other may
trade places: neither changes what the other does, nor whether it fails, since a call fails for what
its own arguments are or because a terminal came before it.

Among themselves the directives are settled by order. The last row counts and the last selection
stand, and the keys are those since the last order that was started afresh.
-/

import Mathlib
import ContentQuery.Proofs.Run

namespace ContentQuery

/-! ## Kinds of operators and effects -/

/-- What an operator does in a chain: it narrows the items, it says how they are to be listed, or it
ends the chain. -/
inductive Operator.Kind
  | filter
  | directive
  | terminal
deriving DecidableEq, Repr

/-- The kind of an operator; what sorts, pages or selects is a directive. -/
def Operator.kind : Operator → Kind
  | filter | ofType => .filter
  | orderBy _ | thenBy _ | take | skip | select => .directive
  | terminal _ => .terminal

/-- The kind of the operators that an effect comes from. -/
def Effect.kind : Effect → Operator.Kind
  | filter _ => .filter
  | orderBy _ | thenBy _ | take _ | skip _ | select _ => .directive
  | close .. => .terminal

theorem Call.Does.kind_eq {call : Call} {effect : Effect} (hdoes : call.Does effect) :
    effect.kind = call.operator.kind := by
  obtain ⟨name, operator, named, arguments⟩ := call
  cases hdoes <;> rfl

/-- Calls without a terminal end nothing. -/
theorem Call.kind_ne_terminal_of_does {calls : List Call} {effects : List Effect}
    (hopen : ∀ call ∈ calls, call.operator.kind ≠ .terminal)
    (hdoes : List.Forall₂ Call.Does calls effects) :
    ∀ effect ∈ effects, effect.kind ≠ .terminal := by
  induction hdoes with
  | nil =>
      intro effect hmem
      cases hmem
  | cons hfirst hrest ih =>
      rw [List.forall_mem_cons] at hopen ⊢
      exact ⟨hfirst.kind_eq ▸ hopen.1, ih hopen.2⟩

/-! ## Independent effects -/

/-- Two effects that may trade places: neither ends the chain, and in either order they leave the
same draft. -/
structure Effect.IsIndependent (first second : Effect) : Prop where
  first_open : first.kind ≠ .terminal
  second_open : second.kind ≠ .terminal
  comm : ∀ draft : Draft,
    (draft.perform first).perform second = (draft.perform second).perform first

theorem Effect.IsIndependent.symm {first second : Effect} (hboth : first.IsIndependent second) :
    second.IsIndependent first where
  first_open := hboth.second_open
  second_open := hboth.first_open
  comm draft := (hboth.comm draft).symm

/-- A filter and a directive write to different places. -/
theorem Effect.isIndependent_of_kind {first second : Effect} (hfilter : first.kind = .filter)
    (hdirective : second.kind = .directive) : first.IsIndependent second := by
  refine ⟨hfilter ▸ nofun, hdirective ▸ nofun, fun draft => ?_⟩
  cases first with
  | filter entry =>
      cases second with
      | filter _ => cases hdirective
      | close _ _ _ => cases hdirective
      | _ => rfl
  | _ => cases hfilter

namespace Draft

/-- Only a terminal ends a draft. -/
theorem terminal_perform {effect : Effect} (hopen : effect.kind ≠ .terminal) (draft : Draft) :
    (draft.perform effect).terminal = draft.terminal := by
  cases effect with
  | close _ _ _ => exact absurd rfl hopen
  | _ => rfl

/-- Two calls at the start of a run whose effects are independent may trade places. -/
theorem Runs.swap {draft final : Draft} {first second : Call} {rest : List Call}
    (hindependent : ∀ {firstEffect secondEffect}, first.Does firstEffect →
      second.Does secondEffect → firstEffect.IsIndependent secondEffect)
    (hruns : draft.Runs (first :: second :: rest) final) :
    draft.Runs (second :: first :: rest) final := by
  cases hruns with
  | @cons _ _ _ firstEffect _ hopen hfirst hruns =>
      cases hruns with
      | @cons _ _ _ secondEffect _ _ hsecond hrest =>
          have hboth := hindependent hfirst hsecond
          have hopen' : (draft.perform secondEffect).terminal = none :=
            (terminal_perform hboth.second_open draft).trans hopen
          rw [hboth.comm] at hrest
          exact .cons hopen hsecond (.cons hopen' hfirst hrest)

/-- Anywhere in a run, a filter and a directive that follow each other may trade places. -/
theorem runs_swap {draft final : Draft} {before after : List Call} {filter directive : Call}
    (hfilter : filter.operator.kind = .filter)
    (hdirective : directive.operator.kind = .directive) :
    draft.Runs (before ++ filter :: directive :: after) final ↔
      draft.Runs (before ++ directive :: filter :: after) final := by
  have hindependent {firstEffect secondEffect : Effect} (hfirst : filter.Does firstEffect)
      (hsecond : directive.Does secondEffect) : firstEffect.IsIndependent secondEffect :=
    Effect.isIndependent_of_kind (hfirst.kind_eq.trans hfilter) (hsecond.kind_eq.trans hdirective)
  rw [runs_append, runs_append]
  apply exists_congr
  intro middle
  apply and_congr_right
  intro _
  constructor
  · exact Runs.swap hindependent
  · exact Runs.swap fun hsecond hfirst => (hindependent hfirst hsecond).symm

/-- The calls of a run have effects, and the run performs them. -/
theorem Runs.exists_effects {draft final : Draft} {calls : List Call}
    (hruns : draft.Runs calls final) :
    ∃ effects, List.Forall₂ Call.Does calls effects ∧ effects.foldl perform draft = final := by
  induction hruns with
  | nil => exact ⟨[], .nil, rfl⟩
  | cons hopen hdoes hrest ih =>
      obtain ⟨effects, heffects, hfinal⟩ := ih
      exact ⟨_, .cons hdoes heffects, hfinal⟩

end Draft

/-! ## The last of each kind -/

namespace Effect

variable {α : Type}

/-- What the last effect of a kind said, if there was one. -/
def last? (read : Effect → Option α) (effects : List Effect) : Option α :=
  (effects.filterMap read).getLast?

theorem last?_concat (read : Effect → Option α) (effects : List Effect) (effect : Effect) :
    last? read (effects ++ [effect]) = (read effect).or (last? read effects) := by
  rw [last?, List.filterMap_append, List.getLast?_append]
  cases hread : read effect with
  | none => rw [List.filterMap_cons_none hread]; rfl
  | some said => rw [List.filterMap_cons_some hread]; rfl

/-- The greatest number of rows that an effect sets. -/
def top? : Effect → Option UInt32
  | take count => some count
  | _ => none

/-- The number of rows to leave out that an effect sets. -/
def skip? : Effect → Option UInt32
  | skip count => some count
  | _ => none

/-- The key that an effect starts an order with. -/
def firstKey? : Effect → Option SortKey
  | orderBy key => some key
  | _ => none

/-- The key that an effect adds to the order there is. -/
def nextKey? : Effect → Option SortKey
  | thenBy key => some key
  | _ => none

/-- The fields that an effect asks for. -/
def projection? : Effect → Option Projection
  | select projection => some projection
  | _ => none

/-- The keys that effects sort by: the key of the last order that was started, if one was, and the
keys that were added after it. -/
def sortKeys (effects : List Effect) : List SortKey :=
  (last? firstKey? effects).toList ++
    (effects.rtakeWhile fun effect => effect.firstKey?.isNone).filterMap nextKey?

/-- The keys after an effect, from the keys before it. -/
def reorder (keys : List SortKey) : Effect → List SortKey
  | orderBy key => [key]
  | thenBy key => keys ++ [key]
  | _ => keys

/-- What starts no order keeps the keys before it, and may add one. -/
theorem sortKeys_concat_of_firstKey?_eq_none {effect : Effect} (hnone : effect.firstKey? = none)
    (effects : List Effect) :
    sortKeys (effects ++ [effect]) = sortKeys effects ++ [effect].filterMap nextKey? := by
  have hstarts : effect.firstKey?.isNone = true := by rw [hnone]; rfl
  rw [sortKeys, last?_concat, hnone, Option.none_or, List.rtakeWhile_concat, if_pos hstarts,
    List.filterMap_append, ← List.append_assoc, sortKeys]

/-- Only a started order drops the keys before it. -/
theorem sortKeys_concat (effects : List Effect) (effect : Effect) :
    sortKeys (effects ++ [effect]) = reorder (sortKeys effects) effect := by
  cases effect with
  | orderBy key =>
      rw [sortKeys, last?_concat, List.rtakeWhile_concat]
      rfl
  | thenBy key => exact sortKeys_concat_of_firstKey?_eq_none rfl effects
  | _ =>
      rw [sortKeys_concat_of_firstKey?_eq_none rfl]
      exact List.append_nil _

/-- The fields of the last selection, after one effect more. -/
theorem fields_concat (fields : Projection → List String) (effects : List Effect)
    (effect : Effect) :
    ((last? projection? (effects ++ [effect])).map fields).getD [] =
      (effect.projection?.map fields).getD (((last? projection? effects).map fields).getD []) := by
  rw [last?_concat]
  cases effect.projection? <;> rfl

end Effect

/-- A query that has, of some effects and under options, the last of each kind. Of the fields it has
those of the options where they are given, and else those of the last selection alone. -/
structure Query.KeepsLast (query : Query) (options : QueryOptions) (effects : List Effect) :
    Prop where
  top : query.top = Effect.last? Effect.top? effects
  skip : query.skip = Effect.last? Effect.skip? effects
  sort : query.sort = Effect.sortKeys effects
  select : query.select = options.select.getD
    (((Effect.last? Effect.projection? effects).map Projection.select).getD [])
  expand : query.expand = options.expand.getD
    (((Effect.last? Effect.projection? effects).map Projection.expand).getD [])

namespace Draft

/-- What an effect that does not end the chain leaves in the query: what it says itself, and else
what was there. -/
theorem query_perform {effect : Effect} (hopen : effect.kind ≠ .terminal) (draft : Draft) :
    (draft.perform effect).query =
      { draft.query with
        top := effect.top?.or draft.query.top
        skip := effect.skip?.or draft.query.skip
        sort := Effect.reorder draft.query.sort effect
        select := (effect.projection?.map Projection.select).getD draft.query.select
        expand := (effect.projection?.map Projection.expand).getD draft.query.expand } := by
  cases effect with
  | close _ _ _ => exact absurd rfl hopen
  | _ => rfl

/-- One effect more: it is the last of its kind, and what the other kinds said stands. -/
theorem keepsLast_perform {draft : Draft} {effects : List Effect} {effect : Effect}
    (hopen : effect.kind ≠ .terminal) (hkeeps : draft.query.KeepsLast .default effects) :
    (draft.perform effect).query.KeepsLast .default (effects ++ [effect]) := by
  rw [query_perform hopen]
  constructor
  case top => rw [Effect.last?_concat, ← hkeeps.top]
  case skip => rw [Effect.last?_concat, ← hkeeps.skip]
  case sort => rw [Effect.sortKeys_concat, ← hkeeps.sort]
  case select =>
    rw [Effect.fields_concat]
    exact congrArg (effect.projection?.map Projection.select).getD hkeeps.select
  case expand =>
    rw [Effect.fields_concat]
    exact congrArg (effect.projection?.map Projection.expand).getD hkeeps.expand

/-- The query of a run without a terminal keeps the last of each kind. -/
theorem keepsLast_foldl {effects : List Effect}
    (hopen : ∀ effect ∈ effects, effect.kind ≠ .terminal) :
    (effects.foldl perform start).query.KeepsLast .default effects := by
  induction effects using List.reverseRecOn with
  | nil => exact ⟨rfl, rfl, rfl, rfl, rfl⟩
  | append_singleton effects effect ih =>
      rw [List.forall_mem_append, List.forall_mem_singleton] at hopen
      rw [List.foldl_append]
      exact keepsLast_perform hopen.2 (ih hopen.1)

/-- Finishing a draft sets its predicate only, and options replace the lists of fields where they
have them. -/
theorem keepsLast_finished {draft : Draft} {effects : List Effect} (options : QueryOptions)
    (hkeeps : draft.query.KeepsLast .default effects) :
    (draft.finished.withOptions options).KeepsLast options effects where
  top := hkeeps.top
  skip := hkeeps.skip
  sort := hkeeps.sort
  select := congrArg options.select.getD hkeeps.select
  expand := congrArg options.expand.getD hkeeps.expand

end Draft

namespace Expr

/-- Filters and directives are independent along a chain. Where a filter and a directive follow each
other, the chain with the two in the other order compiles exactly when the chain does, and to the
same query. Where the chain has no terminal, its query keeps of the directives the last of each
kind. -/
theorem filters_and_directives_independent (typeName : String) (options : QueryOptions) :
    (∀ (before after : List Call) (filter directive : Call) (query : Query),
        filter.operator.kind = .filter → directive.operator.kind = .directive →
          (((source typeName).withCalls (before ++ filter :: directive :: after)).compile options =
              .ok query ↔
            ((source typeName).withCalls (before ++ directive :: filter :: after)).compile options =
              .ok query)) ∧
      ∀ (calls : List Call) (query : Query),
        (∀ call ∈ calls, call.operator.kind ≠ .terminal) →
          ((source typeName).withCalls calls).compile options = .ok query →
            ∃ effects, List.Forall₂ Call.Does (calls.map Call.folded) effects ∧
              query.KeepsLast options effects := by
  constructor
  · intro before after filter directive query hfilter hdirective
    rw [compile_withCalls, compile_withCalls]
    simp only [List.map_append, List.map_cons]
    apply exists_congr
    intro final
    apply and_congr_left
    intro _
    exact Draft.runs_swap hfilter hdirective
  · intro calls query hopen hcompile
    obtain ⟨final, hruns, rfl⟩ := compile_withCalls.mp hcompile
    obtain ⟨effects, hdoes, rfl⟩ := hruns.exists_effects
    have hcalls : ∀ call ∈ calls.map Call.folded, call.operator.kind ≠ .terminal :=
      List.forall_mem_map.mpr hopen
    have heffects := Call.kind_ne_terminal_of_does hcalls hdoes
    exact ⟨effects, hdoes, Draft.keepsLast_finished options (Draft.keepsLast_foldl heffects)⟩

/-- A chain with two row counts, and the same chain with its filter after its order. -/
theorem filter_swapped_with_order :
    let take (count : Int64) : Call := ⟨"Take", .take, rfl, [literal (.int count)]⟩
    let filter : Call := ⟨"Where", .filter, rfl,
      [lambda (compare .gt (field "Rank") (literal (.int 2)))]⟩
    let order : Call := ⟨"OrderBy", .orderBy false, rfl, [lambda (field "Due")]⟩
    let calls := [take 9, filter, order, take 5]
    ∃ query effects, ((source "Task").withCalls calls).compile .default = .ok query ∧
      ((source "Task").withCalls [take 9, order, filter, take 5]).compile .default = .ok query ∧
      query.top = some 5 ∧ query.sort = [⟨"Due", false⟩] ∧
      List.Forall₂ Call.Does (calls.map Call.folded) effects ∧
      query.KeepsLast .default effects := by
  intro take filter order calls
  have hcompile : ((source "Task").withCalls calls).compile .default =
      .ok { Query.all with
        predicate := some (.lowerBound "Rank" (.int 2) true)
        sort := [⟨"Due", false⟩]
        top := some 5 } := by
    cbv
  have hopen : ∀ call ∈ calls, call.operator.kind ≠ .terminal := by
    simp [calls, take, filter, order, Operator.kind]
  obtain ⟨hswap, hlast⟩ := filters_and_directives_independent "Task" .default
  obtain ⟨effects, hdoes, hkeeps⟩ := hlast calls _ hopen hcompile
  have hswapped := (hswap [take 9] [take 5] filter order _ rfl rfl).mp hcompile
  exact ⟨_, effects, hcompile, hswapped, rfl, rfl, hdoes, hkeeps⟩

end Expr

end ContentQuery
