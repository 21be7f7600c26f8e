/-
# Folding without a table

The folding of an expression reads off a table which parts are closed and how far to skip. Said
without a table it is a recursion along the children: a closed part becomes its value if it has
one, an open node keeps its place and its children are folded. This module proves that the two
agree on every expression that mentions the current item or a source, and says what folding does
not touch: values, fields, conversions, what is closed, and whether the item is mentioned.

No order of evaluation is claimed here; a closed part without a value stays as it is, with
everything inside it.
-/

import ContentQuery.Chain.FieldName
import ContentQuery.Expr.Fold
import Mathlib.Data.List.Basic

namespace ContentQuery.Expr

/-! ## Nodes and their children -/

/-- Filling with as many expressions as there are places uses each of them once. -/
theorem fill_length (replacements : List Expr) : fill replacements.length replacements =
    replacements := by
  induction replacements with
  | nil => rfl
  | cons first rest ih =>
      rw [List.length_cons, fill, List.headD_cons, List.tail_cons, ih]

/-- Filling as many places as the list has gives the list. -/
theorem fill_of_length_eq {count : Nat} {replacements : List Expr}
    (hlength : replacements.length = count) : fill count replacements = replacements := by
  rw [← hlength, fill_length]

@[simp]
theorem withChildren_call (receiver : Expr) (method : String) (arguments : List Expr)
    (f : Expr → Expr) :
    (call receiver method arguments).withChildren ((call receiver method arguments).children.map f)
      = call (f receiver) method (arguments.map f) := by
  have hfill : fill arguments.length (arguments.map f) = arguments.map f :=
    fill_of_length_eq (List.length_map f)
  simp only [withChildren, children, List.map_cons, List.getD_cons_zero, List.drop_succ_cons,
    List.drop_zero, hfill]

/-- A node with other children in the places of its own has them. -/
theorem children_withChildren {e : Expr} {others : List Expr}
    (hlength : others.length = e.children.length) : (e.withChildren others).children = others := by
  cases e with
  | source | item | literal | captured => exact (List.length_eq_zero_iff.mp hlength).symm
  | member | index | not | lambda | convert =>
      obtain ⟨child, rfl⟩ := List.length_eq_one_iff.mp hlength
      rfl
  | compare | connect =>
      obtain ⟨left, right, rfl⟩ := List.length_eq_two.mp hlength
      rfl
  | conditional =>
      obtain ⟨test, positive, negative, rfl⟩ := List.length_eq_three.mp hlength
      rfl
  | call receiver method arguments =>
      obtain ⟨other, rest, rfl⟩ := List.exists_cons_of_length_eq_add_one hlength
      exact congrArg (other :: ·) (fill_of_length_eq (Nat.succ.inj hlength))
  | invoke function arguments => exact fill_of_length_eq hlength

/-- A node whose children are mapped has the mapped children. -/
theorem children_withChildren_map (e : Expr) (f : Expr → Expr) :
    (e.withChildren (e.children.map f)).children = e.children.map f :=
  children_withChildren (List.length_map f)

theorem length_fill (count : Nat) (replacements : List Expr) :
    (fill count replacements).length = count := by
  induction count generalizing replacements with
  | zero => rfl
  | succ count ih => rw [fill, List.length_cons, ih]

/-- The last replacement of the children counts. -/
theorem withChildren_withChildren (e : Expr) (first second : List Expr) :
    (e.withChildren first).withChildren second = e.withChildren second := by
  cases e with
  | call receiver method arguments => simp only [withChildren, length_fill]
  | invoke function arguments => simp only [withChildren, length_fill]
  | _ => rfl

/-- A node with its own children is the node. -/
theorem withChildren_children (e : Expr) : e.withChildren e.children = e := by
  cases e with
  | call receiver method arguments =>
      simp only [withChildren, children, List.getD_cons_zero, List.drop_succ_cons, List.drop_zero,
        fill_length]
  | invoke function arguments => simp only [withChildren, children, fill_length]
  | _ => rfl

theorem isOrigin_withChildren (e : Expr) (replacements : List Expr) :
    (e.withChildren replacements).isOrigin = e.isOrigin := by
  cases e <;> rfl

theorem opens_withChildren (e : Expr) (replacements : List Expr) :
    (e.withChildren replacements).opens = e.opens := by
  cases e with
  | convert operand nullable => cases nullable <;> rfl
  | _ => rfl

/-- Tests that agree on the members of a list agree on whether one of them passes. -/
theorem any_congr_of_mem {f g : Expr → Bool} {es : List Expr} (hagree : ∀ e ∈ es, f e = g e) :
    es.any f = es.any g := by
  induction es with
  | nil => rfl
  | cons e rest ih =>
      rw [List.any_cons, List.any_cons, hagree e List.mem_cons_self,
        ih fun child hmem => hagree child (List.mem_cons_of_mem e hmem)]

theorem all_congr_of_mem {f g : Expr → Bool} {es : List Expr} (hagree : ∀ e ∈ es, f e = g e) :
    es.all f = es.all g := by
  induction es with
  | nil => rfl
  | cons e rest ih =>
      rw [List.all_cons, List.all_cons, hagree e List.mem_cons_self,
        ih fun child hmem => hagree child (List.mem_cons_of_mem e hmem)]

/-! ## Mentions of the item -/

theorem mentionsItem_of_mem_children {child e : Expr} (hmentions : e.mentionsItem = false)
    (hmem : child ∈ e.children) : child.mentionsItem = false := by
  rw [mentionsItem_eq, Bool.or_eq_false_iff, List.any_eq_false] at hmentions
  exact Bool.eq_false_iff.mpr (hmentions.2 child hmem)

theorem mentionsItem_of_child {child e : Expr} (hmem : child ∈ e.children)
    (hmentions : child.mentionsItem = true) : e.mentionsItem = true := by
  rw [mentionsItem_eq, Bool.or_eq_true, List.any_eq_true]
  exact .inr ⟨child, hmem, hmentions⟩

theorem mentionsItem_call (receiver : Expr) (method : String) (arguments : List Expr) :
    (receiver.call method arguments).mentionsItem =
      (receiver.mentionsItem || arguments.any mentionsItem) := by
  rw [mentionsItem_eq]
  rfl

theorem mentionsItem_lambda (body : Expr) : (lambda body).mentionsItem = body.mentionsItem := by
  rw [mentionsItem_eq]
  exact Bool.or_false _

theorem mentionsItem_source (typeName : String) : (source typeName).mentionsItem = true := by
  rw [mentionsItem_eq]
  rfl

theorem mentionsItem_of_isItem {e : Expr} (hitem : e.isItem = true) : e.mentionsItem = true := by
  cases e with
  | item => rw [mentionsItem_eq]; rfl
  | _ => cases hitem

/-- Whether the item is mentioned is a matter of the node and of its children. -/
theorem mentionsItem_congr {e f : Expr} (horigin : e.isOrigin = f.isOrigin)
    (hchildren : e.children.map mentionsItem = f.children.map mentionsItem) :
    e.mentionsItem = f.mentionsItem := by
  have hany (g : Expr) : g.children.any mentionsItem = (g.children.map mentionsItem).any id := by
    rw [List.any_map, Function.id_comp]
  rw [mentionsItem_eq, mentionsItem_eq, horigin, hany e, hany f, hchildren]

theorem mentionsItem_withChildren_map {e : Expr} {f : Expr → Expr}
    (hsame : ∀ child ∈ e.children, (f child).mentionsItem = child.mentionsItem) :
    (e.withChildren (e.children.map f)).mentionsItem = e.mentionsItem := by
  refine mentionsItem_congr (isOrigin_withChildren e _) ?_
  rw [children_withChildren_map, List.map_map]
  exact List.map_congr_left hsame

/-! ## Closed parts -/

/-- Whether a part is closed: no item, no source and no nullable conversion from here down. -/
def closed (e : Expr) : Bool :=
  !e.opens && e.children.attach.all fun ⟨child, _⟩ => closed child
termination_by sizeOf e
decreasing_by exact sizeOf_lt_of_mem_children ‹_›

/-- Whether a part is closed, said along the children. -/
theorem closed_eq (e : Expr) : e.closed = (!e.opens && e.children.all closed) := by
  rw [closed]; simp

/-- Whether a part is closed is a matter of its node and of the parts below. -/
theorem closed_congr {e f : Expr} (hopens : e.opens = f.opens)
    (hchildren : e.children.map closed = f.children.map closed) : e.closed = f.closed := by
  have hall (g : Expr) : g.children.all closed = (g.children.map closed).all id := by
    rw [List.all_map, Function.id_comp]
  rw [closed_eq, closed_eq, hopens, hall e, hall f, hchildren]

theorem closed_withChildren_map {e : Expr} {f : Expr → Expr}
    (hsame : ∀ child ∈ e.children, (f child).closed = child.closed) :
    (e.withChildren (e.children.map f)).closed = e.closed := by
  refine closed_congr (opens_withChildren e _) ?_
  rw [children_withChildren_map, List.map_map]
  exact List.map_congr_left hsame

theorem closed_of_mem_children {child e : Expr} (hclosed : e.closed = true)
    (hmem : child ∈ e.children) : child.closed = true := by
  rw [closed_eq, Bool.and_eq_true, List.all_eq_true] at hclosed
  exact hclosed.2 child hmem

theorem closed_eq_false_of_child {child e : Expr} (hmem : child ∈ e.children)
    (hopen : child.closed = false) : e.closed = false := by
  cases hclosed : e.closed with
  | false => rfl
  | true => rw [← hopen, closed_of_mem_children hclosed hmem]

@[simp]
theorem closed_item : item.closed = false := by
  rw [closed_eq]
  rfl

theorem closed_literal (value : Literal) : (literal value).closed = true := by
  rw [closed_eq]
  rfl

theorem closed_captured (name : String) (value : Literal) :
    (captured name value).closed = true := by
  rw [closed_eq]
  rfl

theorem not_mentionsItem_of_closed (e : Expr) (hclosed : e.closed = true) :
    e.mentionsItem = false := by
  induction e using induction_on_children with
  | step e ih =>
      rw [closed_eq, Bool.and_eq_true, List.all_eq_true] at hclosed
      have horigin : e.isOrigin = false := by
        cases e <;> simp_all [opens, isOrigin]
      rw [mentionsItem_eq, horigin, Bool.false_or, List.any_eq_false]
      intro child hmem
      rw [ih child hmem (hclosed.2 child hmem)]
      exact Bool.false_ne_true

/-- What mentions the item or a source is open. -/
theorem closed_eq_false_of_mentionsItem {e : Expr} (hmentions : e.mentionsItem = true) :
    e.closed = false := by
  cases hclosed : e.closed with
  | false => rfl
  | true =>
      rw [not_mentionsItem_of_closed e hclosed] at hmentions
      cases hmentions

/-- The item is never a closed part. -/
theorem isItem_of_closed {e : Expr} (hclosed : e.closed = true) : e.isItem = false := by
  cases hitem : e.isItem with
  | false => rfl
  | true =>
      have hmentions := mentionsItem_of_isItem hitem
      rw [not_mentionsItem_of_closed e hclosed] at hmentions
      cases hmentions

/-- The table starts with the root's own mark: whether the part is closed, and how many marks the
part has. -/
theorem marks_eq_cons (e : Expr) :
    e.marks = ⟨e.closed, e.marks.length⟩ :: (e.children.map marks).flatten := by
  induction e using induction_on_children with
  | step e ih =>
      have hparts : e.children.all ((fun part => (part.head?.map Mark.closed).getD true) ∘ marks) =
          e.children.all closed := by
        refine all_congr_of_mem fun child hmem => ?_
        rw [Function.comp_apply, ih child hmem, List.head?_cons, Option.map_some, Option.getD_some]
      have hspan : e.marks.length = 1 + (e.children.map marks).flatten.length := by
        rw [marks_eq, List.length_cons, Nat.add_comm]
      rw [hspan, marks_eq, Mark.ofParts, List.all_map, hparts, ← closed_eq]

/-! ## Folding along the children -/

/-- An expression with its largest closed parts replaced by their values, without a table. -/
def foldParts (e : Expr) : Expr :=
  if e.closed then e.evaluated
  else e.withChildren (e.children.attach.map fun ⟨child, _⟩ => foldParts child)
termination_by sizeOf e
decreasing_by exact sizeOf_lt_of_mem_children ‹_›

theorem foldParts_of_closed {e : Expr} (hclosed : e.closed = true) :
    e.foldParts = e.evaluated := by
  rw [foldParts, if_pos hclosed]

theorem foldParts_literal (value : Literal) : (literal value).foldParts = literal value :=
  foldParts_of_closed (closed_literal value)

theorem foldParts_captured (name : String) (value : Literal) :
    (captured name value).foldParts = literal value :=
  foldParts_of_closed (closed_captured name value)

theorem foldParts_of_open {e : Expr} (hopen : e.closed = false) :
    e.foldParts = e.withChildren (e.children.map foldParts) := by
  rw [foldParts, hopen]; simp

/-- Folding leaves an open part as it is when it leaves its children as they are. -/
theorem foldParts_eq_self {e : Expr} (hopen : e.closed = false)
    (hchildren : ∀ child ∈ e.children, child.foldParts = child) : e.foldParts = e := by
  rw [foldParts_of_open hopen, List.map_congr_left hchildren, List.map_id', withChildren_children]

/-- A call on an open receiver is folded part by part. -/
theorem foldParts_call_of_open {receiver : Expr} (hopen : receiver.closed = false)
    (method : String) (arguments : List Expr) :
    (receiver.call method arguments).foldParts =
      receiver.foldParts.call method (arguments.map foldParts) := by
  have hcall : (receiver.call method arguments).closed = false := by
    rw [closed_eq]
    simp [children, hopen]
  rw [foldParts_of_open hcall, withChildren_call]

theorem foldParts_lambda_of_open {body : Expr} (hopen : body.closed = false) :
    (lambda body).foldParts = lambda body.foldParts := by
  have hlambda : (lambda body).closed = false := by
    rw [closed_eq]
    simp [children, hopen]
  rw [foldParts_of_open hlambda]
  rfl

/-- Walking over children moves the cursor past all their marks, if every child moves it past its
own. -/
theorem mapM_foldWith_run (table : Array Mark) (es : List Expr)
    (hstep : ∀ e ∈ es, ∀ before after : List Mark, table.toList = before ++ (e.marks ++ after) →
      (foldWith table e).run before.length =
        (e.foldParts, before.length + e.marks.length))
    (before after : List Mark)
    (htable : table.toList = before ++ ((es.map marks).flatten ++ after)) :
    (es.mapM (foldWith table)).run before.length =
      (es.map foldParts, before.length + (es.map marks).flatten.length) := by
  induction es generalizing before with
  | nil => rfl
  | cons e rest ih =>
      have hfirst := hstep e List.mem_cons_self before ((rest.map marks).flatten ++ after) (by
        rw [htable, List.map_cons, List.flatten_cons, List.append_assoc])
      have hrest := ih (fun child hmem => hstep child (List.mem_cons_of_mem _ hmem))
        (before ++ e.marks) (by
          rw [htable, List.map_cons, List.flatten_cons, List.append_assoc, List.append_assoc])
      rw [List.length_append] at hrest
      rw [List.mapM_cons, StateT.run_bind, hfirst]
      show ((foldParts e :: ·) <$> rest.mapM (foldWith table)).run (before.length + e.marks.length)
        = _
      rw [StateT.run_map, hrest, List.map_cons, List.map_cons, List.flatten_cons,
        List.length_append, ← Nat.add_assoc]
      rfl

/-- The cursor invariant. Started where the marks of an expression begin, the walk folds the
expression and ends where its marks end. -/
theorem foldWith_run (table : Array Mark) (e : Expr) (before after : List Mark)
    (htable : table.toList = before ++ (e.marks ++ after)) :
    (foldWith table e).run before.length = (e.foldParts, before.length + e.marks.length) := by
  induction e using induction_on_children generalizing before after with
  | step e ih =>
      have hmark : table[before.length]? = some ⟨e.closed, e.marks.length⟩ := by
        rw [← Array.getElem?_toList, htable, marks_eq_cons, List.cons_append,
          List.getElem?_append_right (Nat.le_refl _), Nat.sub_self, List.getElem?_cons_zero,
          ← marks_eq_cons]
      rw [foldWith_eq, StateT.run_bind, StateT.run_get, pure_bind, hmark]
      cases hclosed : e.closed with
      | true =>
          rw [foldParts_of_closed hclosed]
          rfl
      | false =>
          have htail : table.toList = (before ++ [⟨e.closed, e.marks.length⟩]) ++
              ((e.children.map marks).flatten ++ after) := by
            rw [htable, List.append_assoc]
            exact congrArg (fun own => before ++ (own ++ after)) (marks_eq_cons e)
          have hspan : e.marks.length = 1 + (e.children.map marks).flatten.length := by
            rw [marks_eq, List.length_cons, Nat.add_comm]
          have hchildren := mapM_foldWith_run table e.children ih _ after htail
          rw [List.length_append, List.length_singleton, Nat.add_assoc, ← hspan] at hchildren
          rw [foldParts_of_open hclosed]
          show (e.withChildren <$> e.children.mapM (foldWith table)).run (before.length + 1) = _
          rw [StateT.run_map, hchildren]
          rfl

/-- Folding is the recursion along the children, for every expression that is a query at all. -/
theorem fold_eq_foldParts {e : Expr} (hmentions : e.mentionsItem = true) :
    e.fold = e.foldParts := by
  have hrun := foldWith_run e.marks.toArray e [] [] (by
    rw [List.append_nil, List.nil_append])
  rw [fold, if_pos hmentions, ← List.length_nil, hrun]

/-- What mentions neither the item nor a source is left as it is. -/
theorem fold_of_not_mentionsItem {e : Expr} (hmentions : e.mentionsItem = false) : e.fold = e := by
  rw [fold, hmentions, if_neg Bool.false_ne_true]

/-- A call is folded part by part, its method aside, or stays as it is when no part mentions the
item or a source. -/
theorem fold_call_eq (receiver : Expr) (method : String) (arguments : List Expr) :
    (receiver.call method arguments).fold =
      if receiver.mentionsItem || arguments.any mentionsItem then
        receiver.foldParts.call method (arguments.map foldParts)
      else receiver.call method arguments := by
  have hcall := mentionsItem_call receiver method arguments
  by_cases hmentions : (receiver.mentionsItem || arguments.any mentionsItem) = true
  · rw [if_pos hmentions, fold_eq_foldParts (hcall.trans hmentions),
      foldParts_of_open (closed_eq_false_of_mentionsItem (hcall.trans hmentions)),
      withChildren_call]
  · rw [if_neg hmentions,
      fold_of_not_mentionsItem (hcall.trans (Bool.eq_false_iff.mpr hmentions))]

/-- What becomes of the parts of a call does not depend on its method. -/
theorem fold_call_parts (receiver : Expr) (arguments : List Expr) :
    ∃ (folded : Expr) (rest : List Expr), (rest = arguments.map foldParts ∨ rest = arguments) ∧
      ∀ method, (receiver.call method arguments).fold = folded.call method rest := by
  by_cases hmentions : (receiver.mentionsItem || arguments.any mentionsItem) = true
  · refine ⟨receiver.foldParts, arguments.map foldParts, .inl rfl, fun method => ?_⟩
    rw [fold_call_eq, if_pos hmentions]
  · refine ⟨receiver, arguments, .inr rfl, fun method => ?_⟩
    rw [fold_call_eq, if_neg hmentions]

/-! ## What folding keeps -/

theorem evaluate?_evaluated (e : Expr) : e.evaluated.evaluate? = e.evaluate? := by
  rw [evaluated]
  cases hvalue : e.evaluate? with
  | none => exact hvalue
  | some value => rfl

/-- The three things that can become of a node: its value, itself, or the node over its folded
children. -/
theorem foldParts_cases (e : Expr) :
    (∃ value, e.closed = true ∧ e.evaluate? = some value ∧ e.foldParts = literal value) ∨
      (e.closed = true ∧ e.evaluate? = none ∧ e.foldParts = e) ∨
      (e.closed = false ∧ e.foldParts = e.withChildren (e.children.map foldParts)) := by
  cases hclosed : e.closed with
  | true =>
      rw [foldParts_of_closed hclosed, evaluated]
      cases hvalue : e.evaluate? with
      | none => exact .inr (.inl ⟨rfl, rfl, rfl⟩)
      | some value => exact .inl ⟨value, rfl, rfl, rfl⟩
  | false => exact .inr (.inr ⟨rfl, foldParts_of_open hclosed⟩)

/-- A node has the same value when its children are replaced by ones of the same values. -/
theorem evaluate?_withChildren {e : Expr} {others : List Expr}
    (hvalues : others.map evaluate? = e.children.map evaluate?) :
    (e.withChildren others).evaluate? = e.evaluate? := by
  have hlength : others.length = e.children.length := by
    simpa using congrArg List.length hvalues
  cases e with
  | compare op left right =>
      obtain ⟨left', right', rfl⟩ := List.length_eq_two.mp hlength
      obtain ⟨hleft, hright⟩ : left'.evaluate? = left.evaluate? ∧
        right'.evaluate? = right.evaluate? := by simpa [children] using hvalues
      show (compare op left' right').evaluate? = _
      rw [evaluate?, evaluate?, hleft, hright]
  | connect op left right =>
      obtain ⟨left', right', rfl⟩ := List.length_eq_two.mp hlength
      obtain ⟨hleft, hright⟩ : left'.evaluate? = left.evaluate? ∧
        right'.evaluate? = right.evaluate? := by simpa [children] using hvalues
      show (connect op left' right').evaluate? = _
      cases op with
      | and => rw [evaluate?, evaluate?, hleft, hright]
      | or => rw [evaluate?, evaluate?, hleft, hright]
  | not operand =>
      obtain ⟨operand', rfl⟩ := List.length_eq_one_iff.mp hlength
      have hoperand : operand'.evaluate? = operand.evaluate? := by
        simpa [children] using hvalues
      show (not operand').evaluate? = _
      rw [evaluate?, evaluate?, hoperand]
  | conditional test positive negative =>
      obtain ⟨test', positive', negative', rfl⟩ := List.length_eq_three.mp hlength
      obtain ⟨htest, hpositive, hnegative⟩ : test'.evaluate? = test.evaluate? ∧
        positive'.evaluate? = positive.evaluate? ∧
        negative'.evaluate? = negative.evaluate? := by simpa [children] using hvalues
      show (conditional test' positive' negative').evaluate? = _
      rw [evaluate?, evaluate?, htest, hpositive, hnegative]
  | convert operand nullable =>
      obtain ⟨operand', rfl⟩ := List.length_eq_one_iff.mp hlength
      have hoperand : operand'.evaluate? = operand.evaluate? := by
        simpa [children] using hvalues
      show (convert operand' nullable).evaluate? = _
      cases nullable with
      | true => rfl
      | false => rw [evaluate?, evaluate?, hoperand]
  | member target name kind =>
      obtain ⟨target', rfl⟩ := List.length_eq_one_iff.mp hlength
      have htarget : target'.evaluate? = target.evaluate? := by
        simpa [children] using hvalues
      show (member target' name kind).evaluate? = _
      rw [evaluate?, evaluate?, htarget]
  | _ => rfl

theorem evaluate?_withChildren_map {e : Expr} {f : Expr → Expr}
    (hvalues : ∀ child ∈ e.children, (f child).evaluate? = child.evaluate?) :
    (e.withChildren (e.children.map f)).evaluate? = e.evaluate? := by
  refine evaluate?_withChildren ?_
  rw [List.map_map]
  exact List.map_congr_left hvalues

/-- Folding changes no value. -/
theorem evaluate?_foldParts (e : Expr) : e.foldParts.evaluate? = e.evaluate? := by
  induction e using induction_on_children with
  | step e ih =>
      cases hclosed : e.closed with
      | true => rw [foldParts_of_closed hclosed, evaluate?_evaluated]
      | false => rw [foldParts_of_open hclosed, evaluate?_withChildren_map ih]

/-- Folding neither hides nor adds the item or a source. -/
theorem mentionsItem_foldParts (e : Expr) : e.foldParts.mentionsItem = e.mentionsItem := by
  induction e using induction_on_children with
  | step e ih =>
      rcases foldParts_cases e with ⟨value, hclosed, -, hfold⟩ | ⟨-, -, hfold⟩ | ⟨-, hfold⟩
      · rw [hfold, not_mentionsItem_of_closed e hclosed, mentionsItem_eq]
        rfl
      · rw [hfold]
      · rw [hfold, mentionsItem_withChildren_map ih]

theorem mentionsItem_fold (e : Expr) : e.fold.mentionsItem = e.mentionsItem := by
  cases hmentions : e.mentionsItem with
  | true => rw [fold_eq_foldParts hmentions, mentionsItem_foldParts, hmentions]
  | false => rw [fold_of_not_mentionsItem hmentions, hmentions]

/-- Folding closes no part and opens none. -/
theorem closed_foldParts (e : Expr) : e.foldParts.closed = e.closed := by
  induction e using induction_on_children with
  | step e ih =>
      rcases foldParts_cases e with ⟨value, hclosed, -, hfold⟩ | ⟨-, -, hfold⟩ | ⟨-, hfold⟩
      · rw [hfold, closed_literal, hclosed]
      · rw [hfold]
      · rw [hfold, closed_withChildren_map ih]

@[simp]
theorem foldParts_item : item.foldParts = item := by
  rw [foldParts_of_open closed_item]
  rfl

/-- Folding an expression never makes it the current item, nor anything else of the item. -/
theorem isItem_foldParts (e : Expr) : e.foldParts.isItem = e.isItem := by
  rcases foldParts_cases e with ⟨value, hclosed, -, hfold⟩ | ⟨-, -, hfold⟩ | ⟨-, hfold⟩
  · rw [hfold, isItem_of_closed hclosed]
    rfl
  · rw [hfold]
  · rw [hfold]
    cases e <;> rfl

/-! ## Fields under folding -/

@[simp]
theorem fieldName?_convert (operand : Expr) (nullable : Bool) :
    (convert operand nullable).fieldName? = operand.fieldName? := rfl

/-- The field that a member of an expression stands for by an alias. -/
def aliasedMember? (name : String) : Expr → Option String
  | member inner parent parentKind =>
    if inner.isItem then aliasedField? parent parentKind name else none
  | _ => none

/-- A member names a field when it is a member of the item, or of a member of the item that has an
alias. -/
theorem fieldName?_member (target : Expr) (name : String) (kind : MemberKind) :
    (member target name kind).fieldName? =
      if target.isItem then some name else target.aliasedMember? name := by
  cases target with
  | member inner parent parentKind => cases inner <;> rfl
  | _ => rfl

theorem fieldName?_index (target : Expr) (key : String) :
    (index target key).fieldName? = if target.isItem then some key else none := by
  cases target <;> rfl

theorem mentionsItem_of_aliasedMember? {e : Expr} {name field : String}
    (hfield : e.aliasedMember? name = some field) : e.mentionsItem = true := by
  cases e with
  | member inner parent parentKind =>
      refine mentionsItem_of_child (List.mem_singleton_self inner) ?_
      by_cases hitem : inner.isItem = true
      · exact mentionsItem_of_isItem hitem
      · rw [aliasedMember?, if_neg hitem] at hfield
        cases hfield
  | _ => cases hfield

/-- What names a field mentions the item. -/
theorem mentionsItem_of_fieldName? {e : Expr} {field : String}
    (hfield : e.fieldName? = some field) : e.mentionsItem = true := by
  induction e using induction_on_children with
  | step e ih =>
      cases e with
      | convert operand nullable =>
          have hmem : operand ∈ (convert operand nullable).children := List.mem_singleton_self _
          exact mentionsItem_of_child hmem (ih operand hmem hfield)
      | member target name kind =>
          refine mentionsItem_of_child (List.mem_singleton_self target) ?_
          rw [fieldName?_member] at hfield
          by_cases hitem : target.isItem = true
          · exact mentionsItem_of_isItem hitem
          · rw [if_neg hitem] at hfield
            exact mentionsItem_of_aliasedMember? hfield
      | index target key =>
          refine mentionsItem_of_child (List.mem_singleton_self target) ?_
          rw [fieldName?_index] at hfield
          by_cases hitem : target.isItem = true
          · exact mentionsItem_of_isItem hitem
          · rw [if_neg hitem] at hfield
            cases hfield
      | _ => cases hfield

theorem aliasedMember?_eq_none_of_closed {e : Expr} (hclosed : e.closed = true) (name : String) :
    e.aliasedMember? name = none := by
  rw [Option.eq_none_iff_forall_ne_some]
  intro field hfield
  have hmentions := mentionsItem_of_aliasedMember? hfield
  rw [not_mentionsItem_of_closed e hclosed] at hmentions
  exact Bool.false_ne_true hmentions

/-- A closed part names no field, as a field is a field of the item. -/
theorem fieldName?_eq_none_of_closed {e : Expr} (hclosed : e.closed = true) :
    e.fieldName? = none := by
  rw [Option.eq_none_iff_forall_ne_some]
  intro field hfield
  have hmentions := mentionsItem_of_fieldName? hfield
  rw [not_mentionsItem_of_closed e hclosed] at hmentions
  exact Bool.false_ne_true hmentions

theorem aliasedMember?_foldParts (e : Expr) (name : String) :
    e.foldParts.aliasedMember? name = e.aliasedMember? name := by
  rcases foldParts_cases e with ⟨value, hclosed, -, hfold⟩ | ⟨-, -, hfold⟩ | ⟨-, hfold⟩
  · rw [hfold, aliasedMember?_eq_none_of_closed hclosed]
    rfl
  · rw [hfold]
  · rw [hfold]
    cases e with
    | member inner parent parentKind =>
        show (member inner.foldParts parent parentKind).aliasedMember? name = _
        rw [aliasedMember?, aliasedMember?, isItem_foldParts]
    | _ => rfl

/-- Folding changes no field: a field is never inside a closed part, and never outside one that is
folded. -/
theorem fieldName?_foldParts (e : Expr) : e.foldParts.fieldName? = e.fieldName? := by
  induction e using induction_on_children with
  | step e ih =>
      rcases foldParts_cases e with ⟨value, hclosed, -, hfold⟩ | ⟨-, -, hfold⟩ | ⟨-, hfold⟩
      · rw [hfold, fieldName?_eq_none_of_closed hclosed]
        rfl
      · rw [hfold]
      · rw [hfold]
        cases e with
        | convert operand nullable =>
            show (convert operand.foldParts nullable).fieldName? = _
            rw [fieldName?_convert, fieldName?_convert, ih operand (List.mem_singleton_self _)]
        | member target name kind =>
            show (member target.foldParts name kind).fieldName? = _
            rw [fieldName?_member, fieldName?_member, isItem_foldParts, aliasedMember?_foldParts]
        | index target key =>
            show (index target.foldParts key).fieldName? = _
            rw [fieldName?_index, fieldName?_index, isItem_foldParts]
        | _ => rfl

/-! ## Literals under folding -/

theorem closed_stripConversions {e : Expr} (hclosed : e.closed = true) :
    e.stripConversions.closed = true := by
  induction e using induction_on_children with
  | step e ih =>
      cases e with
      | convert operand nullable =>
          have hmem : operand ∈ (convert operand nullable).children := List.mem_singleton_self _
          exact ih operand hmem (closed_of_mem_children hclosed hmem)
      | _ => exact hclosed

/-- In a closed part no conversion is nullable, so none takes a value away. -/
theorem evaluate?_stripConversions {e : Expr} (hclosed : e.closed = true) :
    e.stripConversions.evaluate? = e.evaluate? := by
  induction e using induction_on_children with
  | step e ih =>
      cases e with
      | convert operand nullable =>
          have hmem : operand ∈ (convert operand nullable).children := List.mem_singleton_self _
          cases nullable with
          | true => rw [closed_eq] at hclosed; exact absurd hclosed Bool.false_ne_true
          | false =>
              rw [stripConversions, evaluate?]
              exact ih operand hmem (closed_of_mem_children hclosed hmem)
      | _ => rfl

theorem stripConversions_evaluated {e : Expr} (hclosed : e.closed = true) :
    e.evaluated.stripConversions = e.stripConversions.evaluated := by
  rw [evaluated, evaluated, evaluate?_stripConversions hclosed]
  cases e.evaluate? <;> rfl

/-- Taking conversions off and folding may trade places. -/
theorem stripConversions_foldParts (e : Expr) :
    e.foldParts.stripConversions = e.stripConversions.foldParts := by
  induction e using induction_on_children with
  | step e ih =>
      cases hclosed : e.closed with
      | true =>
          rw [foldParts_of_closed hclosed, foldParts_of_closed (closed_stripConversions hclosed),
            stripConversions_evaluated hclosed]
      | false =>
          cases e with
          | convert operand nullable =>
              rw [foldParts_of_open hclosed]
              exact ih operand (List.mem_singleton_self _)
          | _ =>
              simp only [stripConversions]
              rw [foldParts_of_open hclosed]
              rfl

/-! ## Calls on an expression -/

theorem foldParts_source (typeName : String) : (source typeName).foldParts = source typeName := by
  rw [foldParts_of_open (closed_eq_false_of_mentionsItem (mentionsItem_source typeName))]
  rfl

/-- An expression with calls on it, the innermost first, under any names. -/
def continuedBy (receiver : Expr) (calls : List (String × List Expr)) : Expr :=
  calls.foldl (fun chain call => chain.call call.1 call.2) receiver

theorem continuedBy_cons (receiver : Expr) (call : String × List Expr)
    (calls : List (String × List Expr)) :
    receiver.continuedBy (call :: calls) = (receiver.call call.1 call.2).continuedBy calls :=
  List.foldl_cons ..

theorem mentionsItem_continuedBy {receiver : Expr} (hmentions : receiver.mentionsItem = true)
    (calls : List (String × List Expr)) : (receiver.continuedBy calls).mentionsItem = true := by
  induction calls generalizing receiver with
  | nil => exact hmentions
  | cons call rest ih =>
      rw [continuedBy_cons]
      exact ih (mentionsItem_of_child List.mem_cons_self hmentions)

/-- Folding goes to the arguments of each call. -/
theorem foldParts_continuedBy {receiver : Expr} (hmentions : receiver.mentionsItem = true)
    (calls : List (String × List Expr)) :
    (receiver.continuedBy calls).foldParts =
      receiver.foldParts.continuedBy (calls.map fun call => (call.1, call.2.map foldParts)) := by
  induction calls generalizing receiver with
  | nil => rfl
  | cons call rest ih =>
      have hcall : (receiver.call call.1 call.2).mentionsItem = true :=
        mentionsItem_of_child List.mem_cons_self hmentions
      rw [continuedBy_cons, ih hcall,
        foldParts_call_of_open (closed_eq_false_of_mentionsItem hmentions), List.map_cons,
        continuedBy_cons]

end ContentQuery.Expr
