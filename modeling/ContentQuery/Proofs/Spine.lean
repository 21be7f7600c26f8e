/-
# The spine of a chain

The calls of a chain, from the last one back to the source, are its spine. A compilation reads the
names on the spine from the outside inward and looks at no argument before the chain below has
compiled, so the outermost refused name decides whatever the arguments are. It then comes back
outward, and stops at the first call that finds the chain ended. This module proves both for chains
of any length, and that folding, which comes before all that, moves no call of the spine.

Nothing is said of calls inside arguments: they are on no spine, and are refused on their own.
-/

import ContentQuery.Proofs.Consistency
import ContentQuery.Proofs.Step

namespace ContentQuery

open Outcome

namespace Expr

/-- The names of the calls of a chain, the last call first. -/
def spine : Expr → List String
  | call receiver method _ => method :: receiver.spine
  | _ => []

theorem spine_eq_nil {e : Expr}
    (hcall : ∀ receiver method arguments, e ≠ call receiver method arguments) : e.spine = [] := by
  rw [spine.eq_2 e hcall]

/-- An expression with a spine is a call. -/
theorem eq_call_of_spine_eq_cons {e : Expr} {name : String} {rest : List String}
    (hspine : e.spine = name :: rest) :
    ∃ receiver arguments, e = call receiver name arguments ∧ receiver.spine = rest := by
  cases e with
  | call receiver method arguments =>
      obtain ⟨rfl, hrest⟩ := List.cons.inj hspine
      exact ⟨receiver, arguments, rfl, hrest⟩
  | _ => cases hspine

/-- Calls on a chain come before its own calls on the spine, the last one first. -/
theorem spine_continuedBy (receiver : Expr) (calls : List (String × List Expr)) :
    (receiver.continuedBy calls).spine = (calls.map Prod.fst).reverse ++ receiver.spine := by
  induction calls generalizing receiver with
  | nil => rfl
  | cons call rest ih =>
      rw [continuedBy_cons, ih, spine, List.map_cons, List.reverse_cons, List.append_assoc]
      rfl

/-- Folding neither hides a call of the spine nor adds one. -/
theorem spine_foldParts (e : Expr) : e.foldParts.spine = e.spine := by
  induction e using spine.induct with
  | case1 receiver method arguments ih =>
      rcases foldParts_call_cases receiver method arguments with hfold | hfold
      · rw [hfold]
      · rw [hfold, spine, spine, ih]
  | case2 e hcall =>
      rw [spine_eq_nil hcall, spine_eq_nil (foldParts_ne_call hcall)]

theorem spine_fold (e : Expr) : e.fold.spine = e.spine := by
  by_cases hmentions : e.mentionsItem = true
  · rw [fold_eq_foldParts hmentions, spine_foldParts]
  · rw [fold_of_not_mentionsItem (Bool.eq_false_iff.mpr hmentions)]

end Expr

/-! ## Refused names -/

namespace Draft

/-- The outermost refused name of a spine decides, as no argument is looked at before. -/
theorem addChain_disallowed (draft : Draft) {chain : Expr} {outer inner : List String}
    {denied : String} (hspine : chain.spine = outer ++ denied :: inner)
    (hdenied : Operator.isDisallowed denied = true)
    (houter : ∀ name ∈ outer, (Operator.ofName? name).isSome = true) :
    draft.addChain chain = .error (.disallowedOperator denied) := by
  -- on the calls outside the refused one: an operator compiles its receiver before anything else
  induction outer generalizing chain with
  | nil =>
      obtain ⟨receiver, arguments, rfl, -⟩ := Expr.eq_call_of_spine_eq_cons hspine
      rw [addChain, if_pos hdenied]
  | cons name rest ih =>
      obtain ⟨receiver, arguments, rfl, hrest⟩ := Expr.eq_call_of_spine_eq_cons hspine
      obtain ⟨operator, hname⟩ := Option.isSome_iff_exists.mp (houter name List.mem_cons_self)
      have hreceiver := ih hrest fun other hother => houter other (List.mem_cons_of_mem name hother)
      rw [addChain_operator hname, hreceiver]
      rfl

end Draft

/-! ## Calls on calls -/

/-- The words of the endpoint are about the item or a field of it, and a call is neither. -/
theorem Predicate.ofCall_call (receiver : Expr) (inner : String) (rest : List Expr)
    (method : String) (arguments : List Expr) (site : Expr) :
    ofCall (receiver.call inner rest) method arguments site = .error (.unsupported site) := by
  unfold ofCall
  split
  · rename_i argument
    -- only here the argument is looked at before the receiver, for the same error
    have hequals : ofEquals (receiver.call inner rest) argument site =
        .error (.unsupported site) := by
      unfold ofEquals
      split
      · split <;> rfl
      · rfl
    split
    case h_4 => exact hequals
    all_goals rfl
  · rfl

namespace Draft

/-- A call that is no operator and is not refused ends a chain of calls with an error. -/
theorem addChain_unknown (draft : Draft) {receiver : Expr} (hreceiver : receiver.spine ≠ [])
    {method : String} (hallowed : Operator.isDisallowed method = false)
    (hname : Operator.ofName? method = none) (arguments : List Expr) :
    draft.addChain (receiver.call method arguments) =
      .error (.unsupported (receiver.call method arguments)) := by
  cases hspine : receiver.spine with
  | nil => exact (hreceiver hspine).elim
  | cons inner names =>
      obtain ⟨below, rest, rfl, -⟩ := Expr.eq_call_of_spine_eq_cons hspine
      rw [addChain, hallowed, if_neg Bool.false_ne_true, hname]
      show (do return { draft with conditions := ← draft.conditions.pushCondition _ }) = _
      rw [Stack.pushCondition_eq, Expr.entry, Stack.callPredicate, hallowed,
        if_neg Bool.false_ne_true, Predicate.ofCall_call]
      rfl

/-! ## Misplaced terminals -/

/-- A chain with a terminal on its spine, if it makes a draft, ends with the terminal. -/
theorem ended_of_terminal_on_spine {chain : Expr} {outer inner : List String} {name : String}
    {terminal : Terminal} {draft : Draft} (hspine : chain.spine = outer ++ name :: inner)
    (hname : Operator.ofName? name = some (.terminal terminal))
    (hadd : start.addChain chain = .ok draft) :
    outer = [] ∧ draft.terminal = some terminal := by
  induction outer generalizing chain draft with
  | nil =>
      obtain ⟨receiver, arguments, rfl, -⟩ := Expr.eq_call_of_spine_eq_cons hspine
      obtain ⟨-, earlier, -, happly⟩ := (addChain_call hname).mp hadd
      exact ⟨rfl, (applyTerminal_reduces (applied_of_applyOperator happly).2).1⟩
  | cons last rest ih =>
      obtain ⟨receiver, arguments, rfl, hrest⟩ := Expr.eq_call_of_spine_eq_cons hspine
      cases hlast : Operator.ofName? last with
      | some operator =>
          -- the chain below has ended already, so the operator finds no open draft
          obtain ⟨-, earlier, hearlier, happly⟩ := (addChain_call hlast).mp hadd
          have hended := (ih hrest hearlier).2
          rw [(applied_of_applyOperator happly).1] at hended
          cases hended
      | none =>
          have hreceiver : receiver.spine ≠ [] := by
            rw [hrest]
            exact List.append_ne_nil_of_right_ne_nil rest (List.cons_ne_nil name inner)
          cases hdenied : Operator.isDisallowed last with
          | true =>
              rw [addChain, if_pos hdenied] at hadd
              cases hadd
          | false =>
              rw [addChain_unknown start hreceiver hdenied hlast] at hadd
              cases hadd

end Draft

/-! ## Sets -/

/-- No name on the spine of a set's chain is refused. -/
def AnySet.IsAllowed (source : AnySet) : Prop :=
  ∀ name ∈ source.set.chain.spine, Operator.isDisallowed name = false

/-- A set starts without calls, and no operator or setting puts a refused name on its chain. -/
theorem Step.isAllowed_made {repository : Repository} {sets : List AnySet}
    (hsets : ∀ source ∈ sets, source.IsAllowed) {step : Step} {made : AnySet}
    (hmade : step.made? repository sets = some made) : made.IsAllowed := by
  intro name hname
  rcases made_cases hmade with
    ⟨β, itemType, options, rfl⟩ | ⟨source, hsource, link, hlink⟩ | ⟨source, hsource, setting, rfl⟩
  · cases hname
  · obtain ⟨-, operator, arguments, hallowed, hchain⟩ := ContentSet.extended?_eq_some hlink
    rw [hchain, Expr.spine] at hname
    rcases List.mem_cons.mp hname with rfl | hbelow
    · exact hallowed
    · exact hsets source hsource name hbelow
  · refine hsets source hsource name ?_
    rw [← source.set.chain_withSetting setting]
    exact hname

/-- Refused and misplaced operators never compile. Where a refused name is on the spine and all
calls after it are operators, compilation fails and names it, whatever the arguments are; where a
call follows a terminal, compilation fails; and the operations on sets never make a chain with a
refused name. -/
theorem Expr.no_refused_or_misplaced_operator :
    (∀ (chain : Expr) (options : QueryOptions) (outer inner : List String) (denied : String),
      chain.spine = outer ++ denied :: inner → Operator.isDisallowed denied = true →
      (∀ name ∈ outer, (Operator.ofName? name).isSome = true) →
      chain.compile options = .error (.disallowedOperator denied)) ∧
    (∀ (chain : Expr) (options : QueryOptions) (outer inner : List String) (name : String)
      (terminal : Terminal), chain.spine = outer ++ name :: inner →
      Operator.ofName? name = some (.terminal terminal) → outer ≠ [] →
      ∀ query, chain.compile options ≠ .ok query) ∧
    ∀ (repository : Repository) (steps : List Step),
      ∀ source ∈ (repository.run steps .start).sets, source.IsAllowed := by
  refine ⟨?_, ?_, ?_⟩
  · intro chain options outer inner denied hspine hdenied houter
    rw [← spine_fold] at hspine
    rw [compile, Draft.addChain_disallowed Draft.start hspine hdenied houter]
    rfl
  · intro chain options outer inner name terminal hspine hname houter query hcompile
    rw [← spine_fold] at hspine
    obtain ⟨draft, -, hadd, -⟩ := compile_eq_ok.mp hcompile
    exact houter (Draft.ended_of_terminal_on_spine hspine hname hadd).1
  · intro repository steps
    refine repository.forall_sets_run
      (fun _ _ _ hearlier hmade => Step.isAllowed_made hearlier hmade) steps ?_
    intro source hsource
    cases hsource

/-- Two refused names, a row count that is none and a call after a terminal in one chain: the last
refused name is the one that is reported. Without them the terminal in the middle still fails. -/
theorem Expr.no_refused_or_misplaced_operator_of_reverse :
    let ended := (source "User").call "First" []
    let refused := ((ended.call "Union" [.item]).call "Reverse" []).call "Take" [.item]
    refused.compile .default = .error (.disallowedOperator "Reverse") ∧
      ∀ query, (ended.call "Take" [.item]).compile .default ≠ .ok query := by
  intro ended refused
  refine ⟨?_, ?_⟩
  · exact no_refused_or_misplaced_operator.1 refused .default ["Take"] ["Union", "First"] "Reverse"
      rfl (by decide) (by decide)
  · exact no_refused_or_misplaced_operator.2.1 _ .default ["Take"] [] "First" (.pick .first false)
      rfl rfl (by decide)

end ContentQuery
