/-
# Letter case does not matter

Two chains that are variants in letter case compile to the same query, or neither of them compiles.
The argument follows a compilation that succeeds. What a condition sees of an operand is the field
that it names, whether it is the item, and the literal that it is; variants agree on the first two,
and on the comparable form, the path and the type of the third. So a condition that has an entry has
it in every variant, an operator does the same in every variant, and so does a chain. As being a
variant is symmetric, success on one side is success on the other.

Only results are compared. The error of a chain that does not compile quotes the chain, in the case
in which it is written.
-/

import Mathlib
import ContentQuery.Proofs.CaseVariant
import ContentQuery.Proofs.Run
import ContentQuery.Query.Fingerprint

namespace ContentQuery

open Outcome

namespace Expr

variable {first second : Expr}

/-! ## Nodes of variants -/

/-- Whether a node is of a kind that has a place for a varied literal. -/
def hasPlace : Expr → Bool
  | compare _ _ _ | call _ _ _ => true
  | _ => false

namespace CaseVariant

/-- A leaf stays as it is. -/
theorem eq_of_leaf (hvariant : first.CaseVariant second) (hleaf : first.children = []) :
    second = first := by
  cases hvariant with
  | @node e others hlength _ =>
      obtain rfl : others = [] := by
        rw [hleaf] at hlength
        exact List.length_eq_zero_iff.mp hlength
      have hself := withChildren_children first
      rwa [hleaf] at hself
  | _ => cases hleaf

/-- A node that has no place for a varied literal is the same node over variants. -/
theorem exists_children (hvariant : first.CaseVariant second) (hplain : first.hasPlace = false) :
    ∃ others, second = first.withChildren others ∧
      List.Forall₂ CaseVariant first.children others := by
  cases hvariant with
  | node hlength hchildren =>
      exact ⟨_, rfl, List.forall₂_iff_zip.mpr ⟨hlength.symm, fun hmem => hchildren _ hmem⟩⟩
  | _ => cases hplain

/-- An only child is a variant. -/
theorem exists_child {child : Expr} (hvariant : first.CaseVariant second)
    (hplain : first.hasPlace = false) (honly : first.children = [child]) :
    ∃ child', second = first.withChildren [child'] ∧ child.CaseVariant child' := by
  obtain ⟨others, rfl, hchildren⟩ := hvariant.exists_children hplain
  rw [honly] at hchildren
  cases hchildren with
  | cons hchild hrest =>
      cases hrest
      exact ⟨_, rfl, hchild⟩

theorem of_lambda {body : Expr} (hvariant : (lambda body).CaseVariant second) :
    ∃ body', second = lambda body' ∧ body.CaseVariant body' :=
  hvariant.exists_child rfl rfl

theorem of_not {operand : Expr} (hvariant : (not operand).CaseVariant second) :
    ∃ operand', second = not operand' ∧ operand.CaseVariant operand' :=
  hvariant.exists_child rfl rfl

theorem of_convert {operand : Expr} {nullable : Bool}
    (hvariant : (convert operand nullable).CaseVariant second) :
    ∃ operand', second = convert operand' nullable ∧ operand.CaseVariant operand' :=
  hvariant.exists_child rfl rfl

theorem of_member {target : Expr} {name : String} {kind : MemberKind}
    (hvariant : (member target name kind).CaseVariant second) :
    ∃ target', second = member target' name kind ∧ target.CaseVariant target' :=
  hvariant.exists_child rfl rfl

theorem of_index {target : Expr} {key : String} (hvariant : (index target key).CaseVariant second) :
    ∃ target', second = index target' key ∧ target.CaseVariant target' :=
  hvariant.exists_child rfl rfl

theorem of_connect {op : Connective} {left right : Expr}
    (hvariant : (connect op left right).CaseVariant second) :
    ∃ left' right', second = connect op left' right' ∧ left.CaseVariant left' ∧
      right.CaseVariant right' := by
  obtain ⟨others, rfl, hchildren⟩ := hvariant.exists_children rfl
  obtain ⟨left', rest, hleft, hrest, rfl⟩ := List.forall₂_cons_left_iff.mp hchildren
  cases hrest with
  | cons hright hnil => exact ⟨left', _, rfl, hleft, hright⟩

theorem of_conditional {test positive negative : Expr}
    (hvariant : (conditional test positive negative).CaseVariant second) :
    ∃ test' positive' negative', second = conditional test' positive' negative' ∧
      test.CaseVariant test' ∧ positive.CaseVariant positive' ∧ negative.CaseVariant negative' := by
  obtain ⟨others, rfl, hchildren⟩ := hvariant.exists_children rfl
  obtain ⟨test', rest, htest, hrest, rfl⟩ := List.forall₂_cons_left_iff.mp hchildren
  obtain ⟨positive', rest', hpositive, hrest', rfl⟩ := List.forall₂_cons_left_iff.mp hrest
  cases hrest' with
  | cons hnegative hnil => exact ⟨test', positive', _, rfl, htest, hpositive, hnegative⟩

theorem of_invoke {function : String} {arguments : List Expr}
    (hvariant : (invoke function arguments).CaseVariant second) :
    ∃ arguments', second = invoke function arguments' ∧
      List.Forall₂ CaseVariant arguments arguments' := by
  obtain ⟨others, rfl, hchildren⟩ := hvariant.exists_children rfl
  refine ⟨others, ?_, hchildren⟩
  exact congrArg (invoke function) (fill_of_length_eq hchildren.length_eq.symm)

/-- A call keeps its method, whichever place it has. -/
theorem of_call {receiver : Expr} {method : String} {arguments : List Expr}
    (hvariant : (call receiver method arguments).CaseVariant second) :
    ∃ receiver' arguments', second = call receiver' method arguments' := by
  cases hvariant with
  | node hlength hchildren => exact ⟨_, _, rfl⟩
  | equals | contains | word => exact ⟨_, _, rfl⟩

/-! ## Fields and paths -/

theorem isItem_eq (hvariant : first.CaseVariant second) : first.isItem = second.isItem := by
  cases hvariant with
  | node => cases first <;> rfl
  | _ => rfl

theorem aliasedMember?_eq (hvariant : first.CaseVariant second) (name : String) :
    first.aliasedMember? name = second.aliasedMember? name := by
  cases first with
  | member inner parent parentKind =>
      obtain ⟨inner', rfl, hinner⟩ := hvariant.of_member
      rw [aliasedMember?, aliasedMember?, hinner.isItem_eq]
  | _ =>
      cases hvariant <;> rfl

/-- Variants name the same field. -/
theorem fieldName?_eq (hvariant : first.CaseVariant second) :
    first.fieldName? = second.fieldName? := by
  induction first using induction_on_children generalizing second with
  | step first ih =>
      cases first with
      | convert operand nullable =>
          obtain ⟨operand', rfl, hoperand⟩ := hvariant.of_convert
          rw [fieldName?_convert, fieldName?_convert]
          exact ih operand (List.mem_singleton_self _) hoperand
      | member target name kind =>
          obtain ⟨target', rfl, htarget⟩ := hvariant.of_member
          rw [fieldName?_member, fieldName?_member, htarget.isItem_eq, htarget.aliasedMember?_eq]
      | index target key =>
          obtain ⟨target', rfl, htarget⟩ := hvariant.of_index
          rw [fieldName?_index, fieldName?_index, htarget.isItem_eq]
      | _ => cases hvariant <;> rfl

theorem stripConversions (hvariant : first.CaseVariant second) :
    first.stripConversions.CaseVariant second.stripConversions := by
  induction first using induction_on_children generalizing second with
  | step first ih =>
      cases first with
      | convert operand nullable =>
          obtain ⟨operand', rfl, hoperand⟩ := hvariant.of_convert
          show operand.stripConversions.CaseVariant operand'.stripConversions
          exact ih operand (List.mem_singleton_self _) hoperand
      | _ =>
          have hsecond : second.stripConversions = second := by
            cases hvariant <;> rfl
          rw [hsecond]
          exact hvariant

theorem lambdaBody (hvariant : first.CaseVariant second) :
    first.lambdaBody.CaseVariant second.lambdaBody := by
  cases first with
  | lambda body =>
      obtain ⟨body', rfl, hbody⟩ := hvariant.of_lambda
      exact hbody
  | _ =>
      have hsecond : second.lambdaBody = second := by
        cases hvariant <;> rfl
      rw [hsecond]
      exact hvariant

theorem stepsTo?_eq (hvariant : first.CaseVariant second) :
    Projection.stepsTo? first = Projection.stepsTo? second := by
  induction first using induction_on_children generalizing second with
  | step first ih =>
      cases first with
      | member target name kind =>
          obtain ⟨target', rfl, htarget⟩ := hvariant.of_member
          have hsteps := ih target (List.mem_singleton_self _) htarget
          rw [Projection.stepsTo?, Projection.stepsTo?, hsteps]
      | index target key =>
          obtain ⟨target', rfl, htarget⟩ := hvariant.of_index
          have hsteps := ih target (List.mem_singleton_self _) htarget
          rw [Projection.stepsTo?, Projection.stepsTo?, hsteps]
      | _ => cases hvariant <;> rfl

theorem argumentSteps?_eq (hvariant : first.CaseVariant second) :
    Projection.argumentSteps? first = Projection.argumentSteps? second := by
  have hstripped : (Projection.stripConversion first).CaseVariant
      (Projection.stripConversion second) := by
    cases first with
    | convert operand nullable =>
        obtain ⟨operand', rfl, hoperand⟩ := hvariant.of_convert
        exact hoperand
    | _ =>
        have hsecond : Projection.stripConversion second = second := by
          cases hvariant <;> rfl
        rw [hsecond]
        exact hvariant
  rw [Projection.argumentSteps?, Projection.argumentSteps?, hstripped.stepsTo?_eq]

/-- A projection asks for the same fields in every variant. -/
theorem addArguments_eq_ok {arguments arguments' : List Expr} {projection result : Projection}
    {position : Nat} (hvariants : List.Forall₂ CaseVariant arguments arguments')
    (hadd : projection.addArguments position arguments = .ok result) :
    projection.addArguments position arguments' = .ok result := by
  induction hvariants generalizing projection position with
  | nil => exact hadd
  | cons hargument hrest ih =>
      rw [Projection.addArguments, ← hargument.argumentSteps?_eq]
      rw [Projection.addArguments] at hadd
      split at hadd
      · exact ih hadd
      · cases hadd

theorem ofBody_eq_ok {projection : Projection} (hvariant : first.CaseVariant second)
    (hbody : Projection.ofBody first = .ok projection) :
    Projection.ofBody second = .ok projection := by
  cases first with
  | invoke function arguments =>
      obtain ⟨arguments', rfl, harguments⟩ := hvariant.of_invoke
      rw [Projection.ofBody] at hbody ⊢
      by_cases hproject : function = "Project"
      · rw [if_pos hproject] at hbody ⊢
        obtain ⟨asked, hasked, rfl⟩ := map_eq_ok.mp hbody
        exact map_eq_ok.mpr ⟨asked, addArguments_eq_ok harguments hasked, rfl⟩
      · rw [if_neg hproject] at hbody
        cases hbody
  | _ => cases hbody

end CaseVariant

/-! ## What a condition sees of an operand -/

/-- Two operands are the same to a condition, but for the case of a literal. -/
structure SeenAlike (first second : Expr) : Prop where
  field : ∀ {field}, first.fieldName? = some field → second.fieldName? = some field
  item : first = item → second = item
  constant : ∀ {value}, first = literal value →
    ∃ other, second = literal other ∧ value.CaseVariant other
  stripped : ∀ {value}, first.stripConversions = literal value →
    ∃ other, second.stripConversions = literal other ∧ value.CaseVariant other

theorem CaseVariant.seenAlike (hvariant : first.CaseVariant second) : first.SeenAlike second where
  field hfield := hvariant.fieldName?_eq ▸ hfield
  item hitem := by
    subst hitem
    exact hvariant.eq_of_leaf rfl
  constant {value} hliteral := by
    subst hliteral
    exact ⟨value, hvariant.eq_of_leaf rfl, .refl value⟩
  stripped {value} hliteral := by
    have hstripped := hvariant.stripConversions
    rw [hliteral] at hstripped
    exact ⟨value, hstripped.eq_of_leaf rfl, .refl value⟩

theorem OperandVariant.exists_literal {value : Literal}
    (hvariant : OperandVariant (Expr.literal value) second) :
    ∃ other, second = Expr.literal other ∧ value.CaseVariant other := by
  cases hvariant with
  | literal hvalue => exact ⟨_, rfl, hvalue⟩

theorem OperandVariant.seenAlike (hvariant : OperandVariant first second) :
    first.SeenAlike second where
  field hfield := by
    rw [hvariant.fieldName?_eq_none] at hfield
    cases hfield
  item hitem := by
    subst hitem
    cases hvariant
  constant hliteral := by
    subst hliteral
    exact hvariant.exists_literal
  stripped hliteral := by
    have hstripped := hvariant.stripConversions
    rw [hliteral] at hstripped
    exact hstripped.exists_literal

/-! ## Conditions -/

/-- Both sides of a comparison are the same to it. -/
theorem CaseVariant.of_compare {op : Comparison} {left right : Expr}
    (hvariant : (compare op left right).CaseVariant second) :
    ∃ left' right', second = compare op left' right' ∧ left.SeenAlike left' ∧
      right.SeenAlike right' := by
  cases hvariant with
  | node hlength hchildren =>
      obtain ⟨left', rest, hleft, hrest, rfl⟩ := List.forall₂_cons_left_iff.mp
        (List.forall₂_iff_zip.mpr ⟨hlength.symm, fun hmem => hchildren _ hmem⟩)
      cases hrest with
      | cons hright hnil => exact ⟨left', _, rfl, hleft.seenAlike, hright.seenAlike⟩
  | compareRight _ _ hright => exact ⟨left, _, rfl, (refl left).seenAlike, hright.seenAlike⟩
  | compareLeft _ _ hleft => exact ⟨_, right, rfl, hleft.seenAlike, (refl right).seenAlike⟩

/-- Sides that are the same to a comparison give it the same field and variants of a literal. -/
theorem SeenAlike.comparisonOperands? {op effective : Comparison} {left left' right right' : Expr}
    {field : String} {value : Literal} (hleft : left.SeenAlike left')
    (hright : right.SeenAlike right')
    (hoperands : Predicate.comparisonOperands? op left right = some (field, effective, value)) :
    ∃ other, Predicate.comparisonOperands? op left' right' = some (field, effective, other) ∧
      value.CaseVariant other := by
  rcases Predicate.comparisonOperands?_eq_some hoperands with
    ⟨hfield, hliteral, rfl⟩ | ⟨hliteral, hfield, rfl⟩
  · obtain ⟨other, hother, hvalue⟩ := hright.stripped hliteral
    refine ⟨other, ?_, hvalue⟩
    rw [Predicate.comparisonOperands?, hleft.field hfield, hother]
  · obtain ⟨other, hother, hvalue⟩ := hleft.stripped hliteral
    refine ⟨other, ?_, hvalue⟩
    have hnone : left'.fieldName? = none := by
      rw [fieldName?, hother]
    rw [Predicate.comparisonOperands?, hnone, hother, hright.field hfield]

/-- A comparison has the predicate of its variant. -/
theorem SeenAlike.ofComparison_eq_ok {op : Comparison} {left left' right right' site : Expr}
    {p : Predicate} (hleft : left.SeenAlike left') (hright : right.SeenAlike right')
    (hcompare : Predicate.ofComparison op left right site = .ok p) :
    Predicate.ofComparison op left' right' site = .ok p := by
  obtain ⟨field, effective, value, form, hoperands, hform, hp⟩ :=
    Predicate.ofComparison_eq_ok.mp hcompare
  obtain ⟨other, hother, hvalue⟩ := hleft.comparisonOperands? hright hoperands
  rw [hvalue.comparable?_eq] at hform
  exact Predicate.ofComparison_eq_ok.mpr ⟨field, effective, other, form, hother, hform, hp⟩

/-- The receiver and the argument of a call are the same to it, and a pattern is the same text. -/
theorem CaseVariant.of_call_singleton {receiver argument : Expr} {method : String}
    (hvariant : (call receiver method [argument]).CaseVariant second) :
    ∃ receiver' argument', second = call receiver' method [argument'] ∧
      receiver.SeenAlike receiver' ∧ argument.SeenAlike argument' ∧
      (method ∈ ["StartsWith", "EndsWith", "Contains"] →
        ∀ value, argument = literal value → argument' = literal value) := by
  cases hvariant with
  | node hlength hchildren =>
      obtain ⟨receiver', rest, hreceiver, hrest, rfl⟩ := List.forall₂_cons_left_iff.mp
        (List.forall₂_iff_zip.mpr ⟨hlength.symm, fun hmem => hchildren _ hmem⟩)
      obtain ⟨argument', nothing, hargument, hnil, rfl⟩ := List.forall₂_cons_left_iff.mp hrest
      refine ⟨receiver', argument', rfl, hreceiver.seenAlike, hargument.seenAlike, ?_⟩
      rintro - value rfl
      exact hargument.eq_of_leaf rfl
  | equals _ hargument =>
      refine ⟨receiver, _, rfl, (refl receiver).seenAlike, hargument.seenAlike, ?_⟩
      exact fun hmethod => absurd hmethod (by decide)
  | contains hfield hreceiver =>
      refine ⟨_, argument, rfl, hreceiver.seenAlike, (refl argument).seenAlike, ?_⟩
      rintro - value rfl
      cases hfield
  | word hmethod hreceiver hargument =>
      refine ⟨_, _, rfl, hreceiver.seenAlike, hargument.seenAlike, fun hpattern => ?_⟩
      have hdisjoint : ∀ word ∈ caselessWords, word ∉ ["StartsWith", "EndsWith", "Contains"] := by
        decide
      exact absurd hpattern (hdisjoint method hmethod)

/-- A call has the predicate of its variant. -/
theorem SeenAlike.callForm {receiver receiver' argument argument' : Expr} {method : String}
    {p : Predicate} (hreceiver : receiver.SeenAlike receiver')
    (hargument : argument.SeenAlike argument')
    (hpattern : method ∈ ["StartsWith", "EndsWith", "Contains"] →
      ∀ value, argument = literal value → argument' = literal value)
    (hform : Predicate.CallForm receiver argument method p) :
    Predicate.CallForm receiver' argument' method p := by
  cases hform with
  | pattern hmethod hfield htext =>
      have hword : method ∈ ["StartsWith", "EndsWith", "Contains"] :=
        List.mem_map_of_mem (f := Prod.fst) hmethod
      exact .pattern hmethod (hreceiver.field hfield) (hpattern hword _ htext)
  | amongNone hlist hfield =>
      obtain ⟨other, hother, hvalue⟩ := hreceiver.constant hlist
      obtain ⟨others, rfl, hnil, -⟩ := hvalue.exists_list
      rw [hnil.mp rfl] at hother
      exact .amongNone hother (hargument.field hfield)
  | among hlist hvalues hfield hforms =>
      obtain ⟨other, hother, hvalue⟩ := hreceiver.constant hlist
      obtain ⟨others, rfl, hnil, hsame⟩ := hvalue.exists_list
      exact .among hother (mt hnil.mpr hvalues) (hargument.field hfield) (hsame ▸ hforms)
  | equals hfield hliteral hscalar hform =>
      obtain ⟨other, hother, hvalue⟩ := hargument.constant hliteral
      rw [hvalue.isList_eq] at hscalar
      rw [hvalue.comparable?_eq] at hform
      exact .equals (hreceiver.field hfield) hother hscalar hform
  | place hmethod hitem hliteral hpath =>
      obtain ⟨other, hother, hvalue⟩ := hargument.constant hliteral
      rw [hvalue.pathTerm?_eq] at hpath
      exact .place hmethod (hreceiver.item hitem) hother hpath
  | type hmethod hitem hliteral hname =>
      obtain ⟨other, hother, hvalue⟩ := hargument.constant hliteral
      rw [hvalue.typeTerm?_eq] at hname
      exact .type hmethod (hreceiver.item hitem) hother hname

/-- A condition has the entry of its variant. -/
theorem EntryForm.of_variant {entry : Entry} (hform : EntryForm first entry)
    (hvariant : first.CaseVariant second) : EntryForm second entry := by
  induction hform generalizing second with
  | lambda hbody ih =>
      obtain ⟨body', rfl, hbody'⟩ := hvariant.of_lambda
      exact .lambda (ih hbody')
  | connect op hleft hright ihleft ihright =>
      obtain ⟨left', right', rfl, hleft', hright'⟩ := hvariant.of_connect
      exact .connect op (ihleft hleft') (ihright hright')
  | compare hcompare =>
      obtain ⟨left', right', rfl, hleft, hright⟩ := hvariant.of_compare
      exact .compare (hleft.ofComparison_eq_ok hright hcompare)
  | not hoperand ih =>
      obtain ⟨operand', rfl, hoperand'⟩ := hvariant.of_not
      exact .not (ih hoperand')
  | conditional htest hpositive hnegative ihtest ihpositive ihnegative =>
      obtain ⟨test', positive', negative', rfl, htest', hpositive', hnegative'⟩ :=
        hvariant.of_conditional
      exact .conditional (ihtest htest') (ihpositive hpositive') (ihnegative hnegative')
  | literal value =>
      rw [hvariant.eq_of_leaf rfl]
      exact .literal value
  | call hform =>
      obtain ⟨receiver', argument', rfl, hreceiver, hargument, hpattern⟩ :=
        hvariant.of_call_singleton
      exact .call (hreceiver.callForm hargument hpattern hform)
  | field hfield => exact .field (hvariant.fieldName?_eq ▸ hfield)

/-- Compiled to its entry, a condition is compiled to the entry of its variant. -/
theorem CaseVariant.entry_eq_ok {entry : Entry} (hvariant : first.CaseVariant second)
    (hentry : first.entry = .ok entry) : second.entry = .ok entry :=
  ((entryForm_of_entry hentry).of_variant hvariant).entry_eq

end Expr

/-! ## Operators -/

theorem Expr.CaseVariant.of_singleton {argument : Expr} {arguments : List Expr}
    (hvariants : List.Forall₂ CaseVariant [argument] arguments) :
    ∃ argument', arguments = [argument'] ∧ argument.CaseVariant argument' := by
  cases hvariants with
  | cons hargument hnil =>
      cases hnil
      exact ⟨_, rfl, hargument⟩

theorem Expr.CaseVariant.of_literal {value : Literal} {arguments : List Expr}
    (hvariants : List.Forall₂ CaseVariant [literal value] arguments) :
    arguments = [literal value] := by
  obtain ⟨argument', rfl, hargument⟩ := of_singleton hvariants
  rw [hargument.eq_of_leaf rfl]

/-- An operator does the same with variants of its arguments. -/
theorem Operator.Does.of_variants {operator : Operator} {arguments arguments' : List Expr}
    {effect : Effect} (hdoes : operator.Does arguments effect)
    (hvariants : List.Forall₂ Expr.CaseVariant arguments arguments') :
    operator.Does arguments' effect := by
  cases hdoes with
  | filter hentry =>
      obtain ⟨condition, rfl, hcondition⟩ := Expr.CaseVariant.of_singleton hvariants
      exact .filter (hcondition.entry_eq_ok hentry)
  | orderBy hfield descending =>
      obtain ⟨key, rfl, hkey⟩ := Expr.CaseVariant.of_singleton hvariants
      exact .orderBy (hkey.lambdaBody.fieldName?_eq ▸ hfield) descending
  | thenBy hfield descending =>
      obtain ⟨key, rfl, hkey⟩ := Expr.CaseVariant.of_singleton hvariants
      exact .thenBy (hkey.lambdaBody.fieldName?_eq ▸ hfield) descending
  | select hbody =>
      obtain ⟨argument, rfl, hargument⟩ := Expr.CaseVariant.of_singleton hvariants
      exact .select (hargument.lambdaBody.ofBody_eq_ok hbody)
  | terminalWhere haccepts hentry =>
      obtain ⟨condition, rfl, hcondition⟩ := Expr.CaseVariant.of_singleton hvariants
      exact .terminalWhere haccepts (hcondition.entry_eq_ok hentry)
  | terminal haccepts =>
      cases hvariants
      exact .terminal haccepts
  | ofType hname =>
      rw [Expr.CaseVariant.of_literal hvariants]
      exact .ofType hname
  | take hcount =>
      rw [Expr.CaseVariant.of_literal hvariants]
      exact .take hcount
  | skip hcount =>
      rw [Expr.CaseVariant.of_literal hvariants]
      exact .skip hcount
  | position hindex orDefault =>
      rw [Expr.CaseVariant.of_literal hvariants]
      exact .position hindex orDefault

namespace Expr

/-- A call of an operator is the call on a variant, with variants of its arguments; the type that a
chain is narrowed to may be a varied literal. -/
theorem CaseVariant.of_operator_call {receiver second : Expr} {method : String}
    {arguments : List Expr} {operator : Operator}
    (hvariant : (call receiver method arguments).CaseVariant second)
    (hname : Operator.ofName? method = some operator) :
    ∃ receiver' arguments', second = call receiver' method arguments' ∧
      receiver.CaseVariant receiver' ∧
      ∀ effect, operator.Does arguments effect → operator.Does arguments' effect := by
  cases hvariant with
  | node hlength hchildren =>
      obtain ⟨receiver', rest, hreceiver, hrest, rfl⟩ := List.forall₂_cons_left_iff.mp
        (List.forall₂_iff_zip.mpr ⟨hlength.symm, fun hmem => hchildren _ hmem⟩)
      refine ⟨receiver', rest, ?_, hreceiver, fun effect hdoes => hdoes.of_variants hrest⟩
      exact congrArg (call receiver' method) (fill_of_length_eq hrest.length_eq.symm)
  | equals | contains => cases hname
  | @word _ _ receiver' argument other hmethod hreceiver hargument =>
      refine ⟨receiver', [other], rfl, hreceiver, fun effect hdoes => ?_⟩
      simp only [caselessWords, List.mem_cons, List.not_mem_nil, or_false] at hmethod
      rcases hmethod with rfl | rfl | rfl | rfl | rfl
      · cases hname
      · cases hname
      · cases hname
      · cases hname
      · obtain rfl := Option.some.inj hname
        cases hdoes with
        | ofType hterm =>
            obtain ⟨other, rfl, hvalue⟩ := hargument.exists_literal
            exact .ofType (hvalue.typeTerm?_eq ▸ hterm)

/-! ## Chains -/

/-- A condition by itself makes the draft that its variant makes. -/
theorem CaseVariant.pushCondition_eq_ok {condition other : Expr} {draft next : Draft}
    (hvariant : condition.CaseVariant other)
    (hpush : (do return { draft with conditions := ← draft.conditions.pushCondition condition }) =
      Except.ok next) :
    (do return { draft with conditions := ← draft.conditions.pushCondition other }) =
      Except.ok next := by
  rw [Stack.pushCondition_eq] at hpush ⊢
  obtain ⟨stack, hstack, hnext⟩ := bind_eq_ok.mp hpush
  obtain ⟨entry, hentry, rfl⟩ := map_eq_ok.mp hstack
  exact bind_eq_ok.mpr ⟨_, map_eq_ok.mpr ⟨entry, hvariant.entry_eq_ok hentry, rfl⟩, hnext⟩

/-- A chain makes the draft that its variant makes. -/
theorem CaseVariant.addChain_eq_ok {chain other : Expr} {draft next : Draft}
    (hvariant : chain.CaseVariant other) (hadd : draft.addChain chain = .ok next) :
    draft.addChain other = .ok next := by
  induction chain using Draft.addChain.induct generalizing other next with
  | case1 typeName =>
      rw [hvariant.eq_of_leaf rfl]
      exact hadd
  | case2 receiver method arguments hdisallowed =>
      rw [Draft.addChain, if_pos hdisallowed] at hadd
      cases hadd
  | case3 receiver method arguments hallowed operator hname ih =>
      obtain ⟨-, earlier, hearlier, happly⟩ := (Draft.addChain_call hname).mp hadd
      obtain ⟨hopen, effect, hdoes, rfl⟩ := Draft.applyOperator_eq_ok.mp happly
      obtain ⟨receiver', arguments', rfl, hreceiver, hsame⟩ := hvariant.of_operator_call hname
      rw [Draft.addChain_operator hname, ih hreceiver hearlier]
      exact Draft.applyOperator_eq_ok.mpr ⟨hopen, effect, hsame effect hdoes, rfl⟩
  | case4 receiver method arguments hallowed hname =>
      obtain ⟨receiver', arguments', rfl⟩ := hvariant.of_call
      rw [Draft.addChain, if_neg hallowed, hname] at hadd ⊢
      exact hvariant.pushCondition_eq_ok hadd
  | case5 condition hsource hcall =>
      have hsource' (typeName : String) (hother : other = source typeName) : False := by
        subst hother
        exact hsource typeName (hvariant.symm.eq_of_leaf rfl)
      have hcall' (receiver : Expr) (method : String) (arguments : List Expr)
          (hother : other = call receiver method arguments) : False := by
        subst hother
        obtain ⟨receiver', arguments', hcondition⟩ := hvariant.symm.of_call
        exact hcall _ _ _ hcondition
      rw [Draft.addChain.eq_3 _ _ hsource hcall] at hadd
      rw [Draft.addChain.eq_3 _ _ hsource' hcall']
      exact hvariant.pushCondition_eq_ok hadd

theorem CaseVariant.fold {chain other : Expr} (hvariant : chain.CaseVariant other) :
    chain.fold.CaseVariant other.fold := by
  cases hmentions : chain.mentionsItem with
  | true =>
      rw [fold_eq_foldParts hmentions, fold_eq_foldParts (hvariant.mentionsItem_eq ▸ hmentions)]
      exact hvariant.foldParts
  | false =>
      have hother : other.mentionsItem = false := hvariant.mentionsItem_eq ▸ hmentions
      rw [fold_of_not_mentionsItem hmentions, fold_of_not_mentionsItem hother]
      exact hvariant

/-- A chain that compiles compiles to the query of its variant. -/
theorem CaseVariant.compile_eq_ok {chain other : Expr} {options : QueryOptions} {query : Query}
    (hvariant : chain.CaseVariant other) (hcompile : chain.compile options = .ok query) :
    other.compile options = .ok query := by
  obtain ⟨draft, hadd, hquery⟩ := compile_eq_ok_iff_finished.mp hcompile
  exact compile_eq_ok_iff_finished.mpr ⟨draft, hvariant.fold.addChain_eq_ok hadd, hquery⟩

end Expr

/-- Letter case does not matter. Of two chains that differ only in the case of literals where the
index is compared with them, one compiles when the other does, and then they compile to the same
query, with the same text and the same octets for its fingerprint. -/
theorem Query.same_in_every_case {first second : Expr} (hvariant : first.CaseVariant second)
    (options : QueryOptions) :
    ((∃ query, first.compile options = .ok query) ↔ ∃ query, second.compile options = .ok query) ∧
      ∀ query query', first.compile options = .ok query → second.compile options = .ok query' →
        query = query' ∧ query.toText = query'.toText ∧
          Fingerprint.preimage query.toText = Fingerprint.preimage query'.toText := by
  constructor
  · constructor
    · rintro ⟨query, hcompile⟩
      exact ⟨query, hvariant.compile_eq_ok hcompile⟩
    · rintro ⟨query, hcompile⟩
      exact ⟨query, hvariant.symm.compile_eq_ok hcompile⟩
  · intro query query' hfirst hsecond
    obtain rfl := Except.ok.inj ((hvariant.compile_eq_ok hfirst).symm.trans hsecond)
    exact ⟨rfl, rfl, rfl⟩

/-- What a person has of a type in one of two roles and in a state. -/
def Expr.assigned (type person role group state : String) : Expr :=
  ((source "Content").call "OfType" [literal (.type type)]).call "Where" [lambda
    (and (and (.compare .eq (reference "Owner") (.captured "owner" (.content (.ofPath person))))
        ((literal (.list [.text role, .content (.ofPath group)])).contains (field "Role")))
      ((field "State").equalTo (literal (.text state))))]

theorem Expr.caseVariant_assigned {type type' person person' role role' group group' : String}
    {state state' : String} (htype : Text.lowerCase type = Text.lowerCase type')
    (hperson : Text.lowerCase person = Text.lowerCase person')
    (hrole : Text.lowerCase role = Text.lowerCase role')
    (hgroup : Text.lowerCase group = Text.lowerCase group')
    (hstate : Text.lowerCase state = Text.lowerCase state') :
    (assigned type person role group state).CaseVariant
      (assigned type' person' role' group' state') := by
  refine .of_children (.cons ?narrowed (.cons (.of_children (.cons (.of_children
    (.cons (.of_children (.cons ?owner (.cons ?among .nil)) rfl)
      (.cons ?state .nil)) rfl) .nil) rfl) .nil)) rfl
  case narrowed => exact .word (by decide) (.refl _) (.literal (.type htype))
  case owner => exact .compareRight .eq rfl (.captured "owner" (.path none hperson))
  case among =>
    exact .contains rfl (.literal (.list (.cons (.text hrole) (.cons (.path none hgroup) .nil))))
  case state => exact .equals rfl (.literal (.text hstate))

/-- Two ways to write what a person has, both of them in mixed case. -/
theorem Query.same_in_every_case_of_assigned :
    let first := Expr.assigned "Task" "/Anna" "Admin" "/QA" "Open"
    let second := Expr.assigned "TASK" "/ANNA" "admin" "/qa" "open"
    first.CaseVariant second ∧ ∃ query query', first.compile .default = .ok query ∧
      second.compile .default = .ok query' ∧ query.toText = query'.toText ∧
      query.fingerprint = query'.fingerprint := by
  intro first second
  have hvariant : first.CaseVariant second := by
    refine Expr.caseVariant_assigned ?_ ?_ ?_ ?_ ?_ <;> cbv
  have hcompile : first.compile .default = .ok { Query.all with
      predicate := some (.group [
        (.must, .hasValue "TypeIs" (.text "task")),
        (.must, .group [
          (.must, .group [
            (.must, .hasValue "Owner" (.text "/anna")),
            (.must, .group [
              (.should, .hasValue "Role" (.text "admin")),
              (.should, .hasValue "Role" (.text "/qa"))])]),
          (.must, .hasValue "State" (.text "open"))])]) } := by
    cbv
  obtain ⟨hboth, hsame⟩ := Query.same_in_every_case hvariant .default
  obtain ⟨query', hquery'⟩ := hboth.mp ⟨_, hcompile⟩
  obtain ⟨-, htext, -⟩ := hsame _ query' hcompile hquery'
  refine ⟨hvariant, _, query', hcompile, hquery', htext, ?_⟩
  rw [Query.fingerprint, htext, Query.fingerprint]

end ContentQuery
