/-
# Captures and the literals that they hold

A capture evaluates to its literal, so folding makes the one into the other wherever the capture is
in a part that has a value. A closed part without a value is left as it is, and a capture in it
stays a capture: it is stranded. That happens around a capture that is the whole body of a function,
since a function has no value, and the literal in its place would have been a condition.

This module proves that a chain compiles like the chain with literals for its captures, and to the
same query, except that nothing with a stranded capture compiles. The reason is that a chain that
compiles is read to its last node, and no reader accepts a capture.
-/

import Mathlib
import ContentQuery.Proofs.Chain
import ContentQuery.Proofs.Folding
import ContentQuery.Proofs.Keyword

namespace ContentQuery

open Outcome

namespace Expr

/-! ## Captures -/

/-- Whether an expression is a capture. -/
def isCapture : Expr → Bool
  | captured _ _ => true
  | _ => false

/-- Whether a capture occurs in an expression. -/
def holdsCapture (e : Expr) : Bool :=
  e.isCapture || e.children.attach.any fun ⟨child, _⟩ => holdsCapture child
termination_by sizeOf e
decreasing_by exact sizeOf_lt_of_mem_children ‹_›

/-- Whether a capture occurs in a largest closed part that has no value. -/
def strandsCapture (e : Expr) : Bool :=
  if e.closed then e.evaluate?.isNone && e.holdsCapture
  else e.children.attach.any fun ⟨child, _⟩ => strandsCapture child
termination_by sizeOf e
decreasing_by exact sizeOf_lt_of_mem_children ‹_›

/-- An expression with the literal of each capture in the place of the capture. -/
def reveal (e : Expr) : Expr :=
  match e with
  | captured _ value => literal value
  | e => e.withChildren (e.children.attach.map fun ⟨child, _⟩ => reveal child)
termination_by sizeOf e
decreasing_by exact sizeOf_lt_of_mem_children ‹_›

theorem holdsCapture_eq (e : Expr) :
    e.holdsCapture = (e.isCapture || e.children.any holdsCapture) := by
  rw [holdsCapture]; simp

theorem holdsCapture_eq_false {e : Expr} :
    e.holdsCapture = false ↔
      e.isCapture = false ∧ ∀ child ∈ e.children, child.holdsCapture = false := by
  rw [holdsCapture_eq, Bool.or_eq_false_iff, List.any_eq_false]
  simp only [Bool.not_eq_true]

theorem isCapture_withChildren (e : Expr) (replacements : List Expr) :
    (e.withChildren replacements).isCapture = e.isCapture := by
  cases e <;> rfl

theorem reveal_captured (name : String) (value : Literal) :
    (captured name value).reveal = literal value := by
  rw [reveal]

theorem reveal_of_not_capture {e : Expr} (hcapture : e.isCapture = false) :
    e.reveal = e.withChildren (e.children.map reveal) := by
  have hname : ∀ name value, e = captured name value → False := by
    rintro name value rfl
    cases hcapture
  rw [reveal.eq_2 e hname]
  simp

/-! ## Revealing commutes with folding -/

/-- The two things that can become of a node: a capture becomes its literal, any other node keeps
its place and its children are revealed. -/
theorem reveal_cases (e : Expr) :
    (∃ name value, e = captured name value ∧ e.reveal = literal value) ∨
      (e.isCapture = false ∧ e.reveal = e.withChildren (e.children.map reveal)) := by
  cases hcapture : e.isCapture with
  | true =>
      cases e with
      | captured name value => exact .inl ⟨name, value, rfl, reveal_captured name value⟩
      | _ => cases hcapture
  | false => exact .inr ⟨rfl, reveal_of_not_capture hcapture⟩

theorem closed_reveal (e : Expr) : e.reveal.closed = e.closed := by
  induction e using induction_on_children with
  | step e ih =>
      rcases reveal_cases e with ⟨name, value, rfl, hreveal⟩ | ⟨-, hreveal⟩
      · rw [hreveal, closed_literal, closed_captured]
      · rw [hreveal, closed_withChildren_map ih]

theorem mentionsItem_reveal (e : Expr) : e.reveal.mentionsItem = e.mentionsItem := by
  induction e using induction_on_children with
  | step e ih =>
      rcases reveal_cases e with ⟨name, value, rfl, hreveal⟩ | ⟨-, hreveal⟩
      · rw [hreveal, mentionsItem_eq, mentionsItem_eq]
        rfl
      · rw [hreveal, mentionsItem_withChildren_map ih]

theorem evaluate?_reveal (e : Expr) : e.reveal.evaluate? = e.evaluate? := by
  induction e using induction_on_children with
  | step e ih =>
      rcases reveal_cases e with ⟨name, value, rfl, hreveal⟩ | ⟨-, hreveal⟩
      · rw [hreveal]
        rfl
      · rw [hreveal, evaluate?_withChildren_map ih]

/-- Revealing and folding may trade places. -/
theorem foldParts_reveal (e : Expr) : e.reveal.foldParts = e.foldParts.reveal := by
  induction e using induction_on_children with
  | step e ih =>
      rcases foldParts_cases e with
        ⟨value, hclosed, hvalue, hfold⟩ | ⟨hclosed, hvalue, hfold⟩ | ⟨hopen, hfold⟩
      · have hliteral : (literal value).reveal = literal value := reveal_of_not_capture rfl
        rw [hfold, hliteral, foldParts_of_closed (by rw [closed_reveal, hclosed]), evaluated,
          evaluate?_reveal, hvalue]
      · rw [hfold, foldParts_of_closed (by rw [closed_reveal, hclosed]), evaluated,
          evaluate?_reveal, hvalue]
      · rcases reveal_cases e with ⟨name, value, rfl, -⟩ | ⟨hcapture, hreveal⟩
        · rw [closed_captured] at hopen
          cases hopen
        · have hchildren : e.children.map (foldParts ∘ reveal) =
              e.children.map (reveal ∘ foldParts) :=
            List.map_congr_left ih
          have hfolded : (e.withChildren (e.children.map foldParts)).isCapture = false := by
            rw [isCapture_withChildren, hcapture]
          rw [foldParts_of_open (by rw [closed_reveal, hopen]), hfold,
            reveal_of_not_capture hfolded, hreveal, children_withChildren_map,
            children_withChildren_map, withChildren_withChildren, withChildren_withChildren,
            List.map_map, List.map_map, hchildren]

/-- Folding a chain with literals for its captures is revealing the folded chain. -/
theorem fold_reveal (chain : Expr) : chain.reveal.fold = chain.fold.reveal := by
  cases hmentions : chain.mentionsItem with
  | true =>
      rw [fold_eq_foldParts hmentions, fold_eq_foldParts (by rw [mentionsItem_reveal, hmentions]),
        foldParts_reveal]
  | false =>
      have hreveal : chain.reveal.mentionsItem = false := by rw [mentionsItem_reveal, hmentions]
      rw [fold_of_not_mentionsItem hmentions, fold_of_not_mentionsItem hreveal]

/-- Where there is no capture there is nothing to reveal. -/
theorem reveal_eq_self {e : Expr} (hfree : e.holdsCapture = false) : e.reveal = e := by
  induction e using induction_on_children with
  | step e ih =>
      obtain ⟨hcapture, hchildren⟩ := holdsCapture_eq_false.mp hfree
      have hmap : e.children.map reveal = e.children.map id :=
        List.map_congr_left fun child hmem => ih child hmem (hchildren child hmem)
      rw [reveal_of_not_capture hcapture, hmap, List.map_id, withChildren_children]

theorem strandsCapture_of_closed {e : Expr} (hclosed : e.closed = true) :
    e.strandsCapture = (e.evaluate?.isNone && e.holdsCapture) := by
  rw [strandsCapture, if_pos hclosed]

theorem strandsCapture_of_open {e : Expr} (hopen : e.closed = false) :
    e.strandsCapture = e.children.any strandsCapture := by
  rw [strandsCapture, hopen]; simp

/-- The captures that folding leaves are the stranded ones. -/
theorem holdsCapture_foldParts (e : Expr) : e.foldParts.holdsCapture = e.strandsCapture := by
  induction e using induction_on_children with
  | step e ih =>
      rcases foldParts_cases e with
        ⟨value, hclosed, hvalue, hfold⟩ | ⟨hclosed, hvalue, hfold⟩ | ⟨hopen, hfold⟩
      · rw [hfold, strandsCapture_of_closed hclosed, hvalue, holdsCapture_eq]
        rfl
      · rw [hfold, strandsCapture_of_closed hclosed, hvalue]
        rfl
      · have hcapture : e.isCapture = false := by
          cases e with
          | captured name value => rw [closed_captured] at hopen; cases hopen
          | _ => rfl
        rw [hfold, holdsCapture_eq, isCapture_withChildren, hcapture, children_withChildren_map,
          strandsCapture_of_open hopen, List.any_map, Bool.false_or]
        exact any_congr_of_mem ih

/-! ## What compiles holds no capture -/

theorem holdsCapture_literal (value : Literal) : (literal value).holdsCapture = false := by
  rw [holdsCapture_eq]
  rfl

theorem holdsCapture_stripConversions (e : Expr) :
    e.stripConversions.holdsCapture = e.holdsCapture := by
  induction e using stripConversions.induct with
  | case1 operand nullable ih =>
      rw [stripConversions, ih, holdsCapture_eq (convert operand nullable)]
      simp [isCapture, children]
  | case2 e hconvert => rw [stripConversions.eq_2 e hconvert]

theorem holdsCapture_lambdaBody (e : Expr) : e.lambdaBody.holdsCapture = e.holdsCapture := by
  cases e with
  | lambda body =>
      rw [lambdaBody, holdsCapture_eq (lambda body)]
      simp [isCapture, children]
  | _ => rfl

theorem holdsCapture_of_fieldName? {e : Expr} {field : String}
    (hfield : e.fieldName? = some field) : e.holdsCapture = false := by
  rw [← holdsCapture_stripConversions]
  unfold fieldName? at hfield
  split at hfield
  · rename_i hstrip
    rw [hstrip]
    simp [holdsCapture_eq, isCapture, children]
  · rename_i hstrip
    rw [hstrip]
    simp [holdsCapture_eq, isCapture, children]
  · rename_i hstrip
    rw [hstrip]
    simp [holdsCapture_eq, isCapture, children]
  · cases hfield

theorem holdsCapture_of_stripConversions {e : Expr} {value : Literal}
    (hliteral : e.stripConversions = literal value) : e.holdsCapture = false := by
  rw [← holdsCapture_stripConversions, hliteral, holdsCapture_literal]

theorem holdsCapture_of_ofComparison {op : Comparison} {left right site : Expr} {p : Predicate}
    (hcompare : Predicate.ofComparison op left right site = .ok p) :
    left.holdsCapture = false ∧ right.holdsCapture = false := by
  obtain ⟨field, effective, value, form, hoperands, -⟩ :=
    Predicate.ofComparison_eq_ok.mp hcompare
  rcases Predicate.comparisonOperands?_eq_some hoperands with
    ⟨hfield, hliteral, -⟩ | ⟨hliteral, hfield, -⟩
  · exact ⟨holdsCapture_of_fieldName? hfield, holdsCapture_of_stripConversions hliteral⟩
  · exact ⟨holdsCapture_of_stripConversions hliteral, holdsCapture_of_fieldName? hfield⟩

theorem holdsCapture_of_callForm {receiver argument : Expr} {method : String} {p : Predicate}
    (hform : Predicate.CallForm receiver argument method p) :
    receiver.holdsCapture = false ∧ argument.holdsCapture = false := by
  have hitemFree : item.holdsCapture = false := by
    rw [holdsCapture_eq]
    rfl
  cases hform with
  | pattern hmethod hfield htext =>
      exact ⟨holdsCapture_of_fieldName? hfield, htext ▸ holdsCapture_literal _⟩
  | amongNone hlist hfield =>
      exact ⟨hlist ▸ holdsCapture_literal _, holdsCapture_of_fieldName? hfield⟩
  | among hlist hvalues hfield hforms =>
      exact ⟨hlist ▸ holdsCapture_literal _, holdsCapture_of_fieldName? hfield⟩
  | equals hfield hvalue hscalar hform =>
      exact ⟨holdsCapture_of_fieldName? hfield, hvalue ▸ holdsCapture_literal _⟩
  | place hmethod hitem hvalue hpath => exact ⟨hitem ▸ hitemFree, hvalue ▸ holdsCapture_literal _⟩
  | type hmethod hitem hvalue hname => exact ⟨hitem ▸ hitemFree, hvalue ▸ holdsCapture_literal _⟩

/-- No condition that has an entry holds a capture. -/
theorem EntryForm.holdsCapture_eq_false {condition : Expr} {entry : Entry}
    (hform : EntryForm condition entry) : condition.holdsCapture = false := by
  induction hform with
  | lambda hbody ih =>
      refine Expr.holdsCapture_eq_false.mpr ⟨rfl, ?_⟩
      simpa [children] using ih
  | connect op hleft hright ihleft ihright =>
      refine Expr.holdsCapture_eq_false.mpr ⟨rfl, ?_⟩
      simpa [children] using ⟨ihleft, ihright⟩
  | compare hcompare =>
      refine Expr.holdsCapture_eq_false.mpr ⟨rfl, ?_⟩
      simpa [children] using holdsCapture_of_ofComparison hcompare
  | not hoperand ih =>
      refine Expr.holdsCapture_eq_false.mpr ⟨rfl, ?_⟩
      simpa [children] using ih
  | conditional htest hpositive hnegative ihtest ihpositive ihnegative =>
      refine Expr.holdsCapture_eq_false.mpr ⟨rfl, ?_⟩
      simpa [children] using ⟨ihtest, ihpositive, ihnegative⟩
  | literal value => exact holdsCapture_literal _
  | call hform =>
      refine Expr.holdsCapture_eq_false.mpr ⟨rfl, ?_⟩
      simpa [children] using holdsCapture_of_callForm hform
  | field hfield => exact holdsCapture_of_fieldName? hfield

theorem holdsCapture_of_pushCondition {condition : Expr} {stack pushed : Stack}
    (hpush : stack.pushCondition condition = .ok pushed) : condition.holdsCapture = false := by
  rw [Stack.pushCondition_eq] at hpush
  obtain ⟨entry, hentry, -⟩ := map_eq_ok.mp hpush
  exact (entryForm_of_entry hentry).holdsCapture_eq_false

theorem holdsCapture_of_addFilter {draft next : Draft} {condition site : Expr}
    (hadd : draft.addFilter condition site = .ok next) : condition.holdsCapture = false := by
  obtain ⟨pushed, hpush, -⟩ := bind_eq_ok.mp hadd
  exact holdsCapture_of_pushCondition hpush

theorem holdsCapture_of_stepsTo? {e : Expr} {steps : List PathStep}
    (hsteps : Projection.stepsTo? e = some steps) : e.holdsCapture = false := by
  induction e using Projection.stepsTo?.induct generalizing steps with
  | case1 => rw [holdsCapture_eq]; rfl
  | case2 target name kind ih =>
      obtain ⟨earlier, hearlier, -⟩ := Option.map_eq_some_iff.mp hsteps
      refine holdsCapture_eq_false.mpr ⟨rfl, ?_⟩
      simpa [children] using ih hearlier
  | case3 target key ih =>
      obtain ⟨earlier, hearlier, -⟩ := Option.map_eq_some_iff.mp hsteps
      refine holdsCapture_eq_false.mpr ⟨rfl, ?_⟩
      simpa [children] using ih hearlier
  | case4 e hitem hmember hindex =>
      rw [Projection.stepsTo?.eq_4 e hitem hmember hindex] at hsteps
      cases hsteps

theorem holdsCapture_of_argumentSteps? {argument : Expr} {steps : List PathStep}
    (hsteps : Projection.argumentSteps? argument = some steps) : argument.holdsCapture = false := by
  have hstrip : (Projection.stripConversion argument).holdsCapture = argument.holdsCapture := by
    cases argument with
    | convert operand nullable =>
        rw [holdsCapture_eq (convert operand nullable)]
        simp [Projection.stripConversion, isCapture, children]
    | _ => rfl
  rw [← hstrip]
  unfold Projection.argumentSteps? at hsteps
  split at hsteps
  · rename_i hfound
    exact holdsCapture_of_stepsTo? hfound
  · cases hsteps

theorem holdsCapture_of_addArguments {arguments : List Expr} {projection result : Projection}
    {position : Nat} (hadd : projection.addArguments position arguments = .ok result) :
    ∀ argument ∈ arguments, argument.holdsCapture = false := by
  induction arguments generalizing projection position with
  | nil =>
      intro argument hmem
      cases hmem
  | cons first rest ih =>
      rw [Projection.addArguments] at hadd
      cases hsteps : Projection.argumentSteps? first with
      | none => rw [hsteps] at hadd; cases hadd
      | some steps =>
          rw [hsteps] at hadd
          intro argument hmem
          rcases List.mem_cons.mp hmem with rfl | hrest
          · exact holdsCapture_of_argumentSteps? hsteps
          · exact ih hadd argument hrest

theorem holdsCapture_of_ofBody {body : Expr} {projection : Projection}
    (hbody : Projection.ofBody body = .ok projection) : body.holdsCapture = false := by
  unfold Projection.ofBody at hbody
  split at hbody
  · rename_i function arguments
    by_cases hproject : function = "Project"
    · rw [if_pos hproject] at hbody
      obtain ⟨result, hadd, -⟩ := map_eq_ok.mp hbody
      exact holdsCapture_eq_false.mpr ⟨rfl, holdsCapture_of_addArguments hadd⟩
    · rw [if_neg hproject] at hbody
      cases hbody
  · cases hbody

theorem holdsCapture_of_sortFieldOf {arguments : List Expr} {site : Expr} {field : String}
    (hsort : Draft.sortFieldOf arguments site = .ok field) :
    ∀ argument ∈ arguments, argument.holdsCapture = false := by
  obtain ⟨argument, rfl, hfield⟩ := Draft.sortFieldOf_eq_ok.mp hsort
  have hfree := holdsCapture_of_fieldName? hfield
  rw [holdsCapture_lambdaBody] at hfree
  simpa using hfree

theorem holdsCapture_of_countOf {arguments : List Expr} {site : Expr} {count : UInt32}
    (hcount : Draft.countOf arguments site = .ok count) :
    ∀ argument ∈ arguments, argument.holdsCapture = false := by
  obtain ⟨number, rfl, -⟩ := Draft.countOf_eq_ok.mp hcount
  simpa using holdsCapture_literal (.int number)

/-- An operator that succeeds has read its arguments to the last node. -/
theorem holdsCapture_of_applied {draft next : Draft} {operator : Operator} {arguments : List Expr}
    {site : Expr} (happlied : draft.Applied arguments site next operator) :
    ∀ argument ∈ arguments, argument.holdsCapture = false := by
  cases operator with
  | filter =>
      obtain ⟨condition, rfl, hadd⟩ := happlied
      simpa using holdsCapture_of_addFilter hadd
  | ofType =>
      obtain ⟨value, rfl, -⟩ := happlied
      simpa using holdsCapture_literal value
  | orderBy descending =>
      obtain ⟨field, hsort, -⟩ := happlied
      exact holdsCapture_of_sortFieldOf hsort
  | thenBy descending =>
      obtain ⟨field, hsort, -⟩ := happlied
      exact holdsCapture_of_sortFieldOf hsort
  | take =>
      obtain ⟨count, hcount, -⟩ := happlied
      exact holdsCapture_of_countOf hcount
  | skip =>
      obtain ⟨count, hcount, -⟩ := happlied
      exact holdsCapture_of_countOf hcount
  | select =>
      obtain ⟨argument, projection, rfl, hbody, -⟩ := happlied
      have hfree := holdsCapture_of_ofBody hbody
      rw [holdsCapture_lambdaBody] at hfree
      simpa using hfree
  | terminal reduction =>
      rcases Draft.applyTerminal_ok happlied with
        ⟨index, -, hindex, -⟩ | ⟨-, rfl, -⟩ | ⟨condition, filtered, -, rfl, hadd, -⟩
      · exact holdsCapture_of_countOf hindex
      · intro argument hmem
        cases hmem
      · simpa using holdsCapture_of_addFilter hadd

/-- No chain that can be added to a draft holds a capture. -/
theorem holdsCapture_of_addChain {chain : Expr} {draft next : Draft}
    (hadd : draft.addChain chain = .ok next) : chain.holdsCapture = false := by
  induction chain using Draft.addChain.induct generalizing next with
  | case1 typeName => rw [holdsCapture_eq]; rfl
  | case2 receiver method arguments hdisallowed =>
      rw [Draft.addChain, if_pos hdisallowed] at hadd
      cases hadd
  | case3 receiver method arguments hallowed operator hname ih =>
      obtain ⟨-, earlier, hearlier, happly⟩ := (Draft.addChain_call hname).mp hadd
      obtain ⟨-, happlied⟩ := Draft.applied_of_applyOperator happly
      refine holdsCapture_eq_false.mpr ⟨rfl, fun child hmem => ?_⟩
      rcases List.mem_cons.mp hmem with rfl | hargument
      · exact ih hearlier
      · exact holdsCapture_of_applied happlied child hargument
  | case4 receiver method arguments hallowed hname =>
      rw [Draft.addChain, if_neg hallowed, hname] at hadd
      obtain ⟨pushed, hpush, -⟩ := bind_eq_ok.mp hadd
      exact holdsCapture_of_pushCondition hpush
  | case5 condition hsource hcall =>
      rw [Draft.addChain.eq_3 _ _ hsource hcall] at hadd
      obtain ⟨pushed, hpush, -⟩ := bind_eq_ok.mp hadd
      exact holdsCapture_of_pushCondition hpush

end Expr

/-- Captures are transparent, except where they are stranded. A chain over a source compiles to a
query exactly when the chain with literals for its captures does, and none of its captures is in a
closed part that has no value. -/
theorem Expr.compile_eq_ok_iff_reveal {chain : Expr} (hmentions : chain.mentionsItem = true)
    (options : QueryOptions) (query : Query) :
    chain.compile options = .ok query ↔
      chain.reveal.compile options = .ok query ∧ chain.strandsCapture = false := by
  have hstrands : chain.fold.holdsCapture = chain.strandsCapture := by
    rw [fold_eq_foldParts hmentions, holdsCapture_foldParts]
  have hsame (hfree : chain.fold.holdsCapture = false) :
      chain.reveal.compile options = chain.compile options := by
    rw [compile, compile, fold_reveal, reveal_eq_self hfree]
  constructor
  · intro hcompile
    obtain ⟨draft, ps, hadd, -⟩ := compile_eq_ok.mp hcompile
    have hfree := holdsCapture_of_addChain hadd
    exact ⟨(hsame hfree).trans hcompile, hstrands ▸ hfree⟩
  · rintro ⟨hreveal, hfree⟩
    rw [← hstrands] at hfree
    exact (hsame hfree).symm.trans hreveal

/-- A filter whose condition is a capture alone. -/
def Expr.capturedFlag : Expr :=
  (source "User").call "Where" [lambda (captured "flag" (.bool true))]

/-- It does not compile, and the filter with the literal alone does. -/
theorem Expr.capturedFlag_compiles_only_revealed :
    (∃ query, capturedFlag.reveal.compile .default = .ok query) ∧
      ∀ query, capturedFlag.compile .default ≠ .ok query := by
  have hmentions : capturedFlag.mentionsItem = true := by
    cbv
  have hreveal : capturedFlag.reveal.compile .default =
      .ok { Query.all with predicate := some .matchAll } := by
    cbv
  have hstrands : capturedFlag.strandsCapture = true := by
    cbv
  refine ⟨⟨_, hreveal⟩, fun query hcompile => ?_⟩
  have hfree := ((compile_eq_ok_iff_reveal hmentions .default query).mp hcompile).2
  rw [hstrands] at hfree
  cases hfree

end ContentQuery
