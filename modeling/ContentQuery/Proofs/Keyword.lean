/-
# What a condition that compiles looks like

A comparison or a call that has a predicate has it for a reason: one of its sides is a field, and
the other a literal of a kind that can stand there. This module inverts the compilation of
conditions. A comparison is inverted as it is; the calls are given as a relation with one rule for
each word of the search endpoint, and whole conditions as a relation with one rule for each shape
that has an entry. What is proved of all conditions that compile is proved by induction on these
rules, so a new kind of condition is a new rule and nothing else. The rules are complete as well:
what they allow is compiled, and to what they say.
-/

import ContentQuery.Proofs.Condition
import ContentQuery.Proofs.Outcome

namespace ContentQuery

open Outcome

namespace Literal

/-- The lower-cased path that a literal stands for, if it stands for one. -/
def pathTerm? : Literal → Option String
  | text path => some (Text.lowerCase path)
  | content reference => reference.pathTerm?
  | _ => none

theorem comparable_eq_ok {value form : Literal} :
    value.comparable = .ok form ↔ value.comparable? = some form := by
  rw [comparable]
  cases value.comparable? <;> simp

/-- No item is lost on the way to the comparable forms. -/
theorem comparableItems?_ne_nil {values forms : List Literal} (hvalues : values ≠ [])
    (hforms : comparableItems? values = some forms) : forms ≠ [] := by
  intro hempty
  cases values with
  | nil => exact hvalues rfl
  | cons value rest =>
      rw [comparableItems?, hempty] at hforms
      obtain ⟨form, -, hrest⟩ := Option.bind_eq_some_iff.mp hforms
      obtain ⟨others, -, hcons⟩ := Option.bind_eq_some_iff.mp hrest
      cases hcons

end Literal

namespace Predicate

variable {receiver left right argument target site : Expr}

/-! ## Comparisons -/

/-- A comparison has a field on one side and a literal on the other. -/
theorem comparisonOperands?_eq_some {op effective : Comparison} {field : String} {value : Literal}
    (hoperands : comparisonOperands? op left right = some (field, effective, value)) :
    (left.fieldName? = some field ∧ right.stripConversions = .literal value ∧ effective = op) ∨
      (left.stripConversions = .literal value ∧ right.fieldName? = some field ∧
        effective = op.flipped) := by
  unfold comparisonOperands? at hoperands
  split at hoperands
  · rename_i name literal hname hliteral
    cases hoperands
    exact .inl ⟨hname, hliteral, rfl⟩
  · split at hoperands
    · rename_i literal name hliteral hname
      cases hoperands
      exact .inr ⟨hliteral, hname, rfl⟩
    · cases hoperands

/-- A comparison that has a predicate has operands, and the literal among them a comparable form. -/
theorem ofComparison_eq_ok {op : Comparison} {p : Predicate} :
    ofComparison op left right site = .ok p ↔
      ∃ field effective value form,
        comparisonOperands? op left right = some (field, effective, value) ∧
        value.comparable? = some form ∧ ofComparison? field effective form = some p := by
  rw [ofComparison]
  cases hoperands : comparisonOperands? op left right with
  | none => simp
  | some operands =>
      obtain ⟨field, effective, value⟩ := operands
      constructor
      · intro hcompare
        obtain ⟨form, hform, hp⟩ := bind_eq_ok.mp hcompare
        refine ⟨field, effective, value, form, rfl, Literal.comparable_eq_ok.mp hform, ?_⟩
        cases hresult : ofComparison? field effective form with
        | none => rw [hresult] at hp; cases hp
        | some result => rw [hresult] at hp; rw [Except.ok.inj hp]
      · rintro ⟨field', effective', value', form, heq, hform, hp⟩
        cases heq
        refine bind_eq_ok.mpr ⟨form, Literal.comparable_eq_ok.mpr hform, ?_⟩
        rw [hp]

/-! ## Calls -/

theorem fieldOf_eq_ok {field : String} :
    fieldOf target site = .ok field ↔ target.fieldName? = some field := by
  rw [fieldOf]
  cases target.fieldName? <;> simp

theorem patternOf_eq_ok {text : String} :
    patternOf argument = .ok text ↔ argument = .literal (.text text) := by
  unfold patternOf
  split <;> simp_all

theorem pathOf_eq_ok {path : String} (hpath : pathOf argument = .ok path) :
    ∃ value, argument = .literal value ∧ value.pathTerm? = some path := by
  unfold pathOf at hpath
  split at hpath
  · exact ⟨_, rfl, congrArg some (Except.ok.inj hpath)⟩
  · rename_i reference
    refine ⟨.content reference, rfl, ?_⟩
    rw [Literal.pathTerm?]
    cases hterm : reference.pathTerm? with
    | none => rw [hterm] at hpath; cases hpath
    | some term => rw [hterm] at hpath; rw [Except.ok.inj hpath]
  · cases hpath

/-- The calls of one argument that have a predicate, each with its predicate. -/
inductive CallForm (receiver argument : Expr) : String → Predicate → Prop
  /-- The text of a field has a pattern. -/
  | pattern {method before after field text : String}
      (hmethod : (method, before, after) ∈
        [("StartsWith", "", "*"), ("EndsWith", "*", ""), ("Contains", "*", "*")])
      (hfield : receiver.fieldName? = some field) (htext : argument = .literal (.text text)) :
      CallForm receiver argument method (wildcard field (before ++ text ++ after))
  /-- No value is in the empty list. -/
  | amongNone {field : String} (hlist : receiver = .literal (.list []))
      (hfield : argument.fieldName? = some field) :
      CallForm receiver argument "Contains" matchNone
  /-- A field has one of the values of a list. -/
  | among {field : String} {values forms : List Literal}
      (hlist : receiver = .literal (.list values)) (hvalues : values ≠ [])
      (hfield : argument.fieldName? = some field)
      (hforms : Literal.comparableItems? values = some forms) :
      CallForm receiver argument "Contains"
        (group (forms.map fun form => (.should, hasValue field form)))
  /-- A field has a value, which is no list. -/
  | equals {field : String} {value form : Literal} (hfield : receiver.fieldName? = some field)
      (hvalue : argument = .literal value) (hscalar : value.isList = false)
      (hform : value.comparable? = some form) :
      CallForm receiver argument "Equals" (hasValue field form)
  /-- The item has a place in the tree. -/
  | place {method path : String} {value : Literal} (hmethod : method ∈ ["InTree", "InFolder"])
      (hitem : receiver = .item) (hvalue : argument = .literal value)
      (hpath : value.pathTerm? = some path) :
      CallForm receiver argument method (hasValue method (.text path))
  /-- The item has a type. -/
  | type {method name : String} {value : Literal} (hmethod : method ∈ ["TypeIs", "Type"])
      (hitem : receiver = .item) (hvalue : argument = .literal value)
      (hname : value.typeTerm? = some name) :
      CallForm receiver argument method (hasValue method (.text name))

theorem callForm_of_ofPattern {method before after : String} {p : Predicate}
    (hmethod : (method, before, after) ∈
      [("StartsWith", "", "*"), ("EndsWith", "*", ""), ("Contains", "*", "*")])
    (hpattern : ofPattern receiver argument site before after = .ok p) :
    CallForm receiver argument method p := by
  obtain ⟨field, hfield, hrest⟩ := bind_eq_ok.mp hpattern
  obtain ⟨text, htext, hp⟩ := bind_eq_ok.mp hrest
  rw [← Except.ok.inj hp]
  exact .pattern hmethod (fieldOf_eq_ok.mp hfield) (patternOf_eq_ok.mp htext)

/-- The alternatives of a list of values, one for each comparable form. -/
theorem mapM_alternative_eq_ok {field : String} {values : List Literal}
    {clauses : List (Occurrence × Predicate)}
    (halternatives : values.mapM (alternative field) = .ok clauses) :
    ∃ forms, Literal.comparableItems? values = some forms ∧
      clauses = forms.map fun form => (.should, hasValue field form) := by
  induction values generalizing clauses with
  | nil => exact ⟨[], rfl, (Except.ok.inj halternatives).symm⟩
  | cons value rest ih =>
      obtain ⟨clause, others, hclause, hothers, rfl⟩ := mapM_cons_eq_ok.mp halternatives
      obtain ⟨form, hform, rfl⟩ := map_eq_ok.mp hclause
      obtain ⟨forms, hforms, rfl⟩ := ih hothers
      refine ⟨form :: forms, ?_, rfl⟩
      rw [Literal.comparableItems?, Literal.comparable_eq_ok.mp hform, hforms]
      rfl

theorem callForm_of_ofContains {p : Predicate}
    (hcontains : ofContains receiver argument site = .ok p) :
    CallForm receiver argument "Contains" p := by
  unfold ofContains at hcontains
  split at hcontains
  · rename_i values
    obtain ⟨field, hfield, hany⟩ := bind_eq_ok.mp hcontains
    rw [fieldOf_eq_ok] at hfield
    rw [anyOf] at hany
    cases values with
    | nil =>
        rw [← Except.ok.inj hany]
        exact .amongNone rfl hfield
    | cons value rest =>
        obtain ⟨clauses, hclauses, rfl⟩ := map_eq_ok.mp hany
        obtain ⟨forms, hforms, rfl⟩ := mapM_alternative_eq_ok hclauses
        exact .among rfl (List.cons_ne_nil _ _) hfield hforms
  · exact callForm_of_ofPattern (by simp) hcontains

theorem callForm_of_ofEquals {p : Predicate} (hequals : ofEquals receiver argument site = .ok p) :
    CallForm receiver argument "Equals" p := by
  unfold ofEquals at hequals
  split at hequals
  · rename_i value
    by_cases hlist : value.isList = true
    · rw [if_pos hlist] at hequals
      cases hequals
    · rw [if_neg hlist] at hequals
      obtain ⟨field, hfield, hrest⟩ := bind_eq_ok.mp hequals
      obtain ⟨form, hform, hp⟩ := bind_eq_ok.mp hrest
      rw [← Except.ok.inj hp]
      exact .equals (fieldOf_eq_ok.mp hfield) rfl (Bool.eq_false_iff.mpr hlist)
        (Literal.comparable_eq_ok.mp hform)
  · cases hequals

theorem callForm_of_ofPlace {method : String} {p : Predicate}
    (hmethod : method ∈ ["InTree", "InFolder"])
    (hplace : ofPlace method receiver argument site = .ok p) :
    CallForm receiver argument method p := by
  unfold ofPlace at hplace
  by_cases hitem : receiver.isItem = true
  · rw [if_pos hitem] at hplace
    obtain ⟨path, hpath, hp⟩ := bind_eq_ok.mp hplace
    obtain ⟨value, hvalue, hterm⟩ := pathOf_eq_ok hpath
    have hreceiver : receiver = .item := by
      cases receiver with
      | item => rfl
      | _ => cases hitem
    rw [← Except.ok.inj hp]
    exact .place hmethod hreceiver hvalue hterm
  · rw [if_neg hitem] at hplace
    cases hplace

theorem callForm_of_ofTypeTest {method : String} {p : Predicate}
    (hmethod : method ∈ ["TypeIs", "Type"])
    (htest : ofTypeTest method receiver argument site = .ok p) :
    CallForm receiver argument method p := by
  unfold ofTypeTest at htest
  split at htest
  · split at htest
    · rename_i name hname
      rw [← Except.ok.inj htest]
      exact .type hmethod rfl rfl hname
    · cases htest
  · cases htest

/-- A call that has a predicate has one argument, and is one of the words that the endpoint has. -/
theorem callForm_of_ofCall {method : String} {arguments : List Expr} {p : Predicate}
    (hcall : ofCall receiver method arguments site = .ok p) :
    ∃ argument, arguments = [argument] ∧ CallForm receiver argument method p := by
  unfold ofCall at hcall
  split at hcall
  · rename_i argument
    refine ⟨argument, rfl, ?_⟩
    split at hcall
    · exact callForm_of_ofPattern (by simp) hcall
    · exact callForm_of_ofPattern (by simp) hcall
    · exact callForm_of_ofContains hcall
    · exact callForm_of_ofEquals hcall
    · exact callForm_of_ofPlace (by simp) hcall
    · exact callForm_of_ofPlace (by simp) hcall
    · exact callForm_of_ofTypeTest (by simp) hcall
    · exact callForm_of_ofTypeTest (by simp) hcall
    · cases hcall
  · cases hcall

/-! ## Calls compile to their predicates -/

theorem ofPattern_eq_ok {field text : String} (hfield : target.fieldName? = some field)
    (htext : argument = .literal (.text text)) (site : Expr) (before after : String) :
    ofPattern target argument site before after = .ok (wildcard field (before ++ text ++ after)) :=
  bind_eq_ok.mpr ⟨field, fieldOf_eq_ok.mpr hfield,
    bind_eq_ok.mpr ⟨text, patternOf_eq_ok.mpr htext, rfl⟩⟩

/-- Values that all have comparable forms have their alternatives. -/
theorem mapM_alternative_of_comparableItems? {values forms : List Literal}
    (hforms : Literal.comparableItems? values = some forms) (field : String) :
    values.mapM (alternative field) =
      .ok (forms.map fun form => (Occurrence.should, hasValue field form)) := by
  induction values generalizing forms with
  | nil =>
      obtain rfl := Option.some.inj hforms
      rfl
  | cons value rest ih =>
      rw [Literal.comparableItems?] at hforms
      obtain ⟨first, hfirst, hrest⟩ := Option.bind_eq_some_iff.mp hforms
      obtain ⟨others, hothers, hcons⟩ := Option.bind_eq_some_iff.mp hrest
      obtain rfl := Option.some.inj hcons
      have hclause : alternative field value = .ok (.should, hasValue field first) :=
        map_eq_ok.mpr ⟨first, Literal.comparable_eq_ok.mpr hfirst, rfl⟩
      exact mapM_cons_eq_ok.mpr ⟨_, _, hclause, ih hothers, rfl⟩

theorem pathOf_of_pathTerm? {value : Literal} {path : String}
    (hpath : value.pathTerm? = some path) : pathOf (.literal value) = .ok path := by
  unfold Literal.pathTerm? at hpath
  split at hpath
  · exact congrArg Except.ok (Option.some.inj hpath)
  · rw [pathOf, hpath]
  · cases hpath

/-- Each of the calls that have a predicate is compiled to it. -/
theorem CallForm.ofCall_eq {method : String} {p : Predicate}
    (hform : CallForm receiver argument method p) (site : Expr) :
    ofCall receiver method [argument] site = .ok p := by
  cases hform with
  | pattern hmethod hfield htext =>
      simp only [List.mem_cons, Prod.mk.injEq, List.not_mem_nil, or_false] at hmethod
      rcases hmethod with ⟨rfl, rfl, rfl⟩ | ⟨rfl, rfl, rfl⟩ | ⟨rfl, rfl, rfl⟩
      · exact ofPattern_eq_ok hfield htext site _ _
      · exact ofPattern_eq_ok hfield htext site _ _
      · show ofContains receiver argument site = _
        -- what names a field is no list
        unfold ofContains
        split
        · cases hfield
        · exact ofPattern_eq_ok hfield htext site _ _
  | amongNone hlist hfield =>
      rw [hlist]
      exact bind_eq_ok.mpr ⟨_, fieldOf_eq_ok.mpr hfield, rfl⟩
  | @among field values forms hlist hvalues hfield hforms =>
      rw [hlist]
      refine bind_eq_ok.mpr ⟨field, fieldOf_eq_ok.mpr hfield, ?_⟩
      rw [anyOf, if_neg (by simpa using hvalues), mapM_alternative_of_comparableItems? hforms]
      rfl
  | @equals field value form hfield hvalue hscalar hform =>
      rw [hvalue]
      show ofEquals receiver (.literal value) site = _
      rw [ofEquals, hscalar, if_neg Bool.false_ne_true]
      exact bind_eq_ok.mpr ⟨field, fieldOf_eq_ok.mpr hfield,
        bind_eq_ok.mpr ⟨form, Literal.comparable_eq_ok.mpr hform, rfl⟩⟩
  | @place method path value hmethod hitem hvalue hpath =>
      have hplace : ofPlace method receiver argument site = .ok (hasValue method (.text path)) := by
        rw [hitem, hvalue]
        exact bind_eq_ok.mpr ⟨path, pathOf_of_pathTerm? hpath, rfl⟩
      simp only [List.mem_cons, List.not_mem_nil, or_false] at hmethod
      rcases hmethod with rfl | rfl <;> exact hplace
  | @type method name value hmethod hitem hvalue hname =>
      have htest :
          ofTypeTest method receiver argument site = .ok (hasValue method (.text name)) := by
        rw [hitem, hvalue, ofTypeTest, hname]
      simp only [List.mem_cons, List.not_mem_nil, or_false] at hmethod
      rcases hmethod with rfl | rfl <;> exact htest

/-- No word of the endpoint is refused by its name. -/
theorem CallForm.isDisallowed_eq {method : String} {p : Predicate}
    (hform : CallForm receiver argument method p) : Operator.isDisallowed method = false := by
  cases hform with
  | pattern hmethod =>
      simp only [List.mem_cons, Prod.mk.injEq, List.not_mem_nil, or_false] at hmethod
      rcases hmethod with ⟨rfl, -⟩ | ⟨rfl, -⟩ | ⟨rfl, -⟩ <;> decide
  | place hmethod | type hmethod =>
      simp only [List.mem_cons, List.not_mem_nil, or_false] at hmethod
      rcases hmethod with rfl | rfl <;> decide
  | amongNone | among | equals => decide

end Predicate

/-! ## Whole conditions -/

namespace Expr

/-- The conditions that have an entry, each with its entry. -/
inductive EntryForm : Expr → Entry → Prop
  | lambda {body : Expr} {entry : Entry} (hbody : EntryForm body entry) :
      EntryForm (lambda body) entry
  | connect (op : Connective) {left right : Expr} {first second : Entry}
      (hleft : EntryForm left first) (hright : EntryForm right second) :
      EntryForm (connect op left right) (.join op first second)
  | compare {op : Comparison} {left right site : Expr} {p : Predicate}
      (hcompare : Predicate.ofComparison op left right site = .ok p) :
      EntryForm (compare op left right) (.predicate p)
  | not {operand : Expr} {entry : Entry} (hoperand : EntryForm operand entry) :
      EntryForm (not operand) entry.negate
  | conditional {test positive negative : Expr} {tested first second : Entry}
      (htest : EntryForm test tested) (hpositive : EntryForm positive first)
      (hnegative : EntryForm negative second) :
      EntryForm (conditional test positive negative)
        (.join .or (.join .and tested first) (.join .and tested.negate second))
  | literal (value : Bool) :
      EntryForm (literal (.bool value))
        (.predicate (if value then Predicate.matchAll else Predicate.matchNone))
  | call {receiver argument : Expr} {method : String} {p : Predicate}
      (hform : Predicate.CallForm receiver argument method p) :
      EntryForm (call receiver method [argument]) (.predicate p)
  | field {e : Expr} {field : String} (hfield : e.fieldName? = some field) :
      EntryForm e (.flag field true)

theorem callForm_of_callPredicate {receiver site : Expr} {method : String} {arguments : List Expr}
    {p : Predicate} (hcall : Stack.callPredicate (some receiver) method arguments site = .ok p) :
    ∃ argument, arguments = [argument] ∧ Predicate.CallForm receiver argument method p := by
  rw [Stack.callPredicate] at hcall
  by_cases hdisallowed : Operator.isDisallowed method = true
  · rw [if_pos hdisallowed] at hcall
    cases hcall
  · rw [if_neg hdisallowed] at hcall
    exact Predicate.callForm_of_ofCall hcall

/-- A condition that has an entry has one of the shapes for that. -/
theorem entryForm_of_entry {condition : Expr} {entry : Entry}
    (hentry : condition.entry = .ok entry) : EntryForm condition entry := by
  induction condition using Expr.entry.induct generalizing entry with
  | case1 body ih =>
      rw [Expr.entry] at hentry
      exact .lambda (ih hentry)
  | case2 op left right ihleft ihright =>
      rw [Expr.entry] at hentry
      obtain ⟨first, hleft, hrest⟩ := bind_eq_ok.mp hentry
      obtain ⟨second, hright, hjoin⟩ := bind_eq_ok.mp hrest
      rw [← Except.ok.inj hjoin]
      exact .connect op (ihleft hleft) (ihright hright)
  | case3 op left right =>
      rw [Expr.entry] at hentry
      obtain ⟨p, hp, rfl⟩ := map_eq_ok.mp hentry
      exact .compare hp
  | case4 operand ih =>
      rw [Expr.entry] at hentry
      obtain ⟨inner, hinner, rfl⟩ := map_eq_ok.mp hentry
      exact .not (ih hinner)
  | case5 test positive negative ihtest ihpositive ihnegative =>
      rw [Expr.entry] at hentry
      obtain ⟨tested, htest, hrest⟩ := bind_eq_ok.mp hentry
      obtain ⟨first, hpositive, hrest⟩ := bind_eq_ok.mp hrest
      obtain ⟨second, hnegative, hchoice⟩ := bind_eq_ok.mp hrest
      rw [← Except.ok.inj hchoice]
      exact .conditional (ihtest htest) (ihpositive hpositive) (ihnegative hnegative)
  | case6 value =>
      rw [Expr.entry] at hentry
      rw [← Except.ok.inj hentry]
      exact .literal value
  | case7 receiver method arguments =>
      rw [Expr.entry] at hentry
      obtain ⟨p, hp, rfl⟩ := map_eq_ok.mp hentry
      obtain ⟨argument, rfl, hform⟩ := callForm_of_callPredicate hp
      exact .call hform
  | case8 function arguments =>
      -- A call without a receiver is refused, by its name or as it is.
      rw [Expr.entry, Stack.callPredicate] at hentry
      obtain ⟨p, hp, -⟩ := map_eq_ok.mp hentry
      by_cases hdisallowed : Operator.isDisallowed function = true
      · rw [if_pos hdisallowed] at hp
        cases hp
      · rw [if_neg hdisallowed] at hp
        cases hp
  | case9 other hlambda hconnect hcompare hnot hconditional hliteral hcall hinvoke field hfield =>
      rw [Expr.entry, hfield] at hentry
      rw [← Except.ok.inj hentry]
      exact .field hfield
      all_goals assumption
  | case10 other hlambda hconnect hcompare hnot hconditional hliteral hcall hinvoke hfield =>
      rw [Expr.entry, hfield] at hentry
      cases hentry
      all_goals assumption

/-- Every shape for that has its entry. -/
theorem EntryForm.entry_eq {condition : Expr} {entry : Entry} (hform : EntryForm condition entry) :
    condition.entry = .ok entry := by
  induction hform with
  | lambda hbody ih => rwa [Expr.entry]
  | connect op hleft hright ihleft ihright =>
      rw [Expr.entry, ihleft, ihright]
      rfl
  | compare hcompare =>
      -- the place of a comparison is in its errors only
      rw [Expr.entry, Predicate.ofComparison_eq_ok.mpr (Predicate.ofComparison_eq_ok.mp hcompare)]
      rfl
  | not hoperand ih =>
      rw [Expr.entry, ih]
      rfl
  | conditional htest hpositive hnegative ihtest ihpositive ihnegative =>
      rw [Expr.entry, ihtest, ihpositive, ihnegative]
      rfl
  | literal value => rfl
  | call hform =>
      rw [Expr.entry, Stack.callPredicate, hform.isDisallowed_eq, if_neg Bool.false_ne_true,
        hform.ofCall_eq]
      rfl
  | @field e field hfield =>
      cases e with
      | member | index | convert => simp only [Expr.entry, hfield, pure, Except.pure]
      | _ => cases hfield

end Expr

end ContentQuery
