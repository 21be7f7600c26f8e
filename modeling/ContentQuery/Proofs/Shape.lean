/-
# The shape of compiled predicates

A compiled predicate is not any tree: its groups have clauses and keep alternatives apart from
clauses that must or must not hold, its ranges end on one side, and its literals are in the form
that the index compares. A node satisfies this by itself; the statement is about every node. It is
carried through the rules of conditions, the merging of filters and the sibling at the root, and
none of these looks below the clauses that it joins.
-/

import Mathlib
import ContentQuery.Proofs.Chain
import ContentQuery.Proofs.Keyword
import ContentQuery.Proofs.LowerCase

namespace ContentQuery

open Outcome

/-! ## Literals in comparable form -/

namespace Literal

/-- A literal that is its own comparable form. -/
def IsComparable (value : Literal) : Prop := value.comparable? = some value

/-- Whether a literal can end a range: it is a scalar that has an order. -/
def isOrdered : Literal → Bool
  | null | type _ | content _ | list _ => false
  | bool _ | int _ | float _ | text _ | dateTime _ => true

/-- The identity of a reference is a number or a lower-cased path. -/
theorem isComparable_of_identity? {reference : ContentRef} {form : Literal}
    (hform : reference.identity? = some form) : form.IsComparable := by
  unfold ContentRef.identity? at hform
  split at hform
  · obtain rfl := Option.some.inj hform
    rfl
  · obtain rfl := Option.some.inj hform
    rw [IsComparable, comparable?, Text.lowerCase_lowerCase]
  · cases hform

mutual

/-- A comparable form is its own comparable form. -/
theorem isComparable_of_comparable? : ∀ {value form : Literal},
    value.comparable? = some form → form.IsComparable
  | .null, _, hform | .bool _, _, hform | .int _, _, hform | .float _, _, hform
  | .dateTime _, _, hform => by
      obtain rfl := Option.some.inj hform
      rfl
  | .text value, _, hform | .type value, _, hform => by
      rw [comparable?] at hform
      obtain rfl := Option.some.inj hform
      rw [IsComparable, comparable?, Text.lowerCase_lowerCase]
  | .content reference, _, hform => by
      rw [comparable?] at hform
      exact isComparable_of_identity? hform
  | .list items, _, hform => by
      rw [comparable?] at hform
      obtain ⟨forms, hforms, rfl⟩ := Option.map_eq_some_iff.mp hform
      rw [IsComparable, comparable?, comparableItems?_of_comparableItems? hforms]
      rfl

/-- Comparable forms of items are their own comparable forms. -/
theorem comparableItems?_of_comparableItems? : ∀ {items forms : List Literal},
    comparableItems? items = some forms → comparableItems? forms = some forms
  | [], _, hforms => by
      rw [comparableItems?] at hforms
      obtain rfl := Option.some.inj hforms
      rfl
  | item :: rest, _, hforms => by
      rw [comparableItems?] at hforms
      obtain ⟨form, hform, hrest⟩ := Option.bind_eq_some_iff.mp hforms
      obtain ⟨others, hothers, hcons⟩ := Option.bind_eq_some_iff.mp hrest
      obtain rfl := Option.some.inj hcons
      have hfirst : form.comparable? = some form := isComparable_of_comparable? hform
      rw [comparableItems?, hfirst, comparableItems?_of_comparableItems? hothers]
      rfl

end

theorem isComparable_of_mem_comparableItems? {items forms : List Literal}
    (hforms : comparableItems? items = some forms) : ∀ form ∈ forms, form.IsComparable := by
  induction items generalizing forms with
  | nil =>
      obtain rfl := Option.some.inj hforms
      exact List.forall_mem_nil _
  | cons item rest ih =>
      rw [comparableItems?] at hforms
      obtain ⟨form, hform, hrest⟩ := Option.bind_eq_some_iff.mp hforms
      obtain ⟨others, hothers, hcons⟩ := Option.bind_eq_some_iff.mp hrest
      obtain rfl := Option.some.inj hcons
      exact List.forall_mem_cons.mpr ⟨isComparable_of_comparable? hform, ih hothers⟩

theorem isComparable_lowerCase (text : String) :
    (Literal.text (Text.lowerCase text)).IsComparable := by
  rw [IsComparable, comparable?, Text.lowerCase_lowerCase]

/-- The path that a literal stands for is in comparable form. -/
theorem isComparable_of_pathTerm? {value : Literal} {path : String}
    (hpath : value.pathTerm? = some path) : (text path).IsComparable := by
  unfold pathTerm? at hpath
  split at hpath
  · obtain rfl := Option.some.inj hpath
    exact isComparable_lowerCase _
  · obtain ⟨written, -, rfl⟩ := Option.map_eq_some_iff.mp hpath
    exact isComparable_lowerCase written
  · cases hpath

/-- So is the name that it gives a type by. -/
theorem isComparable_of_typeTerm? {value : Literal} {name : String}
    (hname : value.typeTerm? = some name) : (text name).IsComparable := by
  unfold typeTerm? at hname
  split at hname
  · obtain rfl := Option.some.inj hname
    exact isComparable_lowerCase _
  · obtain rfl := Option.some.inj hname
    exact isComparable_lowerCase _
  · cases hname

/-- What is in comparable form and neither null nor a list has an order. -/
theorem IsComparable.isOrdered {form : Literal} (hform : form.IsComparable)
    (hlist : form.isList = false) (hnull : form.isNull = false) : form.isOrdered = true := by
  rw [IsComparable] at hform
  cases form with
  | null => cases hnull
  | list items => cases hlist
  | type name =>
      rw [comparable?] at hform
      cases hform
  | content reference =>
      rw [comparable?, ContentRef.identity?] at hform
      split at hform <;> cases hform
  | _ => rfl

end Literal

/-- An end of a range that ends there, at a literal that has an order. -/
def Bound.IsEnd (bound : Bound) : Prop :=
  ∃ value, bound.value = some value ∧ value.IsComparable ∧ value.isOrdered = true

/-! ## Nodes of predicates -/

namespace Predicate

mutual

/-- A predicate and all predicates inside it. -/
def nodes : Predicate → List Predicate
  | group clauses => group clauses :: clauseNodes clauses
  | p => [p]

/-- All predicates inside the clauses of a group. -/
def clauseNodes : List (Occurrence × Predicate) → List Predicate
  | [] => []
  | (_, p) :: rest => nodes p ++ clauseNodes rest

end

/-- The shape of a node of a compiled predicate. -/
def NodeShape : Predicate → Prop
  | hasValue _ value => value.IsComparable
  | range _ lower upper => (lower.IsEnd ∧ upper = .unbounded) ∨ (lower = .unbounded ∧ upper.IsEnd)
  | wildcard _ _ => True
  | group clauses =>
    clauses ≠ [] ∧
      ((∀ clause ∈ clauses, clause.1 = .should) ∨ ∀ clause ∈ clauses, clause.1 ≠ .should)

/-- Every node of a predicate has its shape. -/
def IsWellShaped (p : Predicate) : Prop := ∀ node ∈ p.nodes, node.NodeShape

theorem mem_clauseNodes {node : Predicate} {clauses : List (Occurrence × Predicate)} :
    node ∈ clauseNodes clauses ↔ ∃ clause ∈ clauses, node ∈ clause.2.nodes := by
  induction clauses with
  | nil => simp [clauseNodes]
  | cons clause rest ih =>
      rw [clauseNodes, List.mem_append, ih]
      simp

/-- What holds of every node of a group holds of the group and of every node of its clauses. -/
theorem forall_mem_nodes_group {property : Predicate → Prop}
    {clauses : List (Occurrence × Predicate)} :
    (∀ node ∈ (group clauses).nodes, property node) ↔
      property (group clauses) ∧
        ∀ clause ∈ clauses, ∀ node ∈ clause.2.nodes, property node := by
  rw [nodes, List.forall_mem_cons]
  refine and_congr_right fun _ => ?_
  constructor
  · intro hnodes clause hclause node hnode
    exact hnodes node (mem_clauseNodes.mpr ⟨clause, hclause, hnode⟩)
  · intro hclauses node hnode
    obtain ⟨clause, hclause, hmem⟩ := mem_clauseNodes.mp hnode
    exact hclauses clause hclause node hmem

theorem isWellShaped_group {clauses : List (Occurrence × Predicate)} :
    (group clauses).IsWellShaped ↔
      (group clauses).NodeShape ∧ ∀ clause ∈ clauses, clause.2.IsWellShaped :=
  forall_mem_nodes_group

theorem isWellShaped_hasValue {field : String} {value : Literal} (hvalue : value.IsComparable) :
    (hasValue field value).IsWellShaped :=
  List.forall_mem_singleton.mpr hvalue

theorem isWellShaped_wildcard (field pattern : String) : (wildcard field pattern).IsWellShaped :=
  List.forall_mem_singleton.mpr trivial

theorem isWellShaped_lowerBound {value : Literal} (hvalue : value.IsComparable)
    (hordered : value.isOrdered = true) (field : String) (exclusive : Bool) :
    (lowerBound field value exclusive).IsWellShaped :=
  List.forall_mem_singleton.mpr (.inl ⟨⟨value, rfl, hvalue, hordered⟩, rfl⟩)

theorem isWellShaped_upperBound {value : Literal} (hvalue : value.IsComparable)
    (hordered : value.isOrdered = true) (field : String) (exclusive : Bool) :
    (upperBound field value exclusive).IsWellShaped :=
  List.forall_mem_singleton.mpr (.inr ⟨rfl, value, rfl, hvalue, hordered⟩)

theorem isWellShaped_matchAll : matchAll.IsWellShaped :=
  isWellShaped_lowerBound (show Literal.IsComparable (.int 0) from rfl) rfl _ _

/-- A group of clauses that all should hold, or none of which should. -/
theorem isWellShaped_negate {p : Predicate} (hp : p.IsWellShaped) : p.negate.IsWellShaped := by
  refine isWellShaped_group.mpr ⟨⟨List.cons_ne_nil _ _, .inr ?_⟩, ?_⟩
  · simp
  · simpa using hp

theorem isWellShaped_matchNone : matchNone.IsWellShaped := isWellShaped_negate isWellShaped_matchAll

/-- Of a negation its only clause is left, and that is a node too. -/
theorem isWellShaped_of_negated? {p inner : Predicate} (hp : p.IsWellShaped)
    (hnegated : p.negated? = some inner) : inner.IsWellShaped := by
  unfold negated? at hnegated
  split at hnegated
  · obtain rfl := Option.some.inj hnegated
    exact (isWellShaped_group.mp hp).2 _ (List.mem_singleton_self _)
  · cases hnegated

/-- The clause by which a predicate joins a conjunction is no alternative. -/
theorem asClause_shape {p : Predicate} (hp : p.IsWellShaped) :
    p.asClause.1 ≠ .should ∧ p.asClause.2.IsWellShaped := by
  rw [asClause]
  cases hnegated : p.negated? with
  | none => exact ⟨Occurrence.noConfusion, hp⟩
  | some inner => exact ⟨Occurrence.noConfusion, isWellShaped_of_negated? hp hnegated⟩

theorem isWellShaped_must {left right : Predicate} (hleft : left.IsWellShaped)
    (hright : right.IsWellShaped) : (left.must right).IsWellShaped := by
  obtain ⟨hleftOccurrence, hleftShape⟩ := asClause_shape hleft
  obtain ⟨hrightOccurrence, hrightShape⟩ := asClause_shape hright
  refine isWellShaped_group.mpr ⟨⟨List.cons_ne_nil _ _, .inr ?_⟩, ?_⟩
  · simp [hleftOccurrence, hrightOccurrence]
  · simp [hleftShape, hrightShape]

theorem isWellShaped_should {left right : Predicate} (hleft : left.IsWellShaped)
    (hright : right.IsWellShaped) : (left.should right).IsWellShaped := by
  refine isWellShaped_group.mpr ⟨⟨List.cons_ne_nil _ _, .inl ?_⟩, ?_⟩
  · simp
  · simp [hleft, hright]

theorem isWellShaped_anchored {p : Predicate} (hp : p.IsWellShaped) : p.anchored.IsWellShaped := by
  rw [anchored]
  cases hnegated : p.negated? with
  | none => exact hp
  | some inner =>
      have hinner := isWellShaped_of_negated? hp hnegated
      refine isWellShaped_group.mpr ⟨⟨List.cons_ne_nil _ _, .inr ?_⟩, ?_⟩
      · simp
      · simp [hinner, isWellShaped_matchAll]

theorem isWellShaped_foldl_must {p : Predicate} {ps : List Predicate} (hp : p.IsWellShaped)
    (hps : ∀ q ∈ ps, q.IsWellShaped) : (ps.foldl must p).IsWellShaped := by
  induction ps generalizing p with
  | nil => exact hp
  | cons q rest ih =>
      obtain ⟨hq, hrest⟩ := List.forall_mem_cons.mp hps
      exact ih (isWellShaped_must hp hq) hrest

/-! ## Conditions -/

theorem isWellShaped_ofComparison? {field : String} {op : Comparison} {form : Literal}
    {p : Predicate} (hform : form.IsComparable) (hcompare : ofComparison? field op form = some p) :
    p.IsWellShaped := by
  unfold ofComparison? at hcompare
  obtain ⟨hlist, hop⟩ := Option.ite_none_left_eq_some.mp hcompare
  have hordered (hnull : ¬ form.isNull = true) : form.isOrdered = true :=
    hform.isOrdered (Bool.eq_false_iff.mpr hlist) (Bool.eq_false_iff.mpr hnull)
  cases op with
  | eq =>
      obtain rfl := Option.some.inj hop
      exact isWellShaped_hasValue hform
  | ne =>
      obtain rfl := Option.some.inj hop
      exact isWellShaped_negate (isWellShaped_hasValue hform)
  | gt | ge =>
      obtain ⟨hnull, hp⟩ := Option.ite_none_left_eq_some.mp hop
      obtain rfl := Option.some.inj hp
      exact isWellShaped_lowerBound hform (hordered hnull) _ _
  | lt | le =>
      obtain ⟨hnull, hp⟩ := Option.ite_none_left_eq_some.mp hop
      obtain rfl := Option.some.inj hp
      exact isWellShaped_upperBound hform (hordered hnull) _ _

/-- A call's predicate: the literal of a path or a type is lowered on its own way. -/
theorem isWellShaped_of_callForm {receiver argument : Expr} {method : String} {p : Predicate}
    (hform : CallForm receiver argument method p) : p.IsWellShaped := by
  cases hform with
  | pattern hmethod hfield htext => exact isWellShaped_wildcard _ _
  | amongNone hlist hfield => exact isWellShaped_matchNone
  | @among field values forms hlist hvalues hfield hforms =>
      have hne := Literal.comparableItems?_ne_nil hvalues hforms
      have hcomparable := Literal.isComparable_of_mem_comparableItems? hforms
      refine isWellShaped_group.mpr ⟨⟨fun hnil => hne (List.map_eq_nil_iff.mp hnil), .inl ?_⟩, ?_⟩
      · exact List.forall_mem_map.mpr fun _ _ => rfl
      · exact List.forall_mem_map.mpr fun form hform =>
          isWellShaped_hasValue (hcomparable form hform)
  | equals hfield hvalue hscalar hform =>
      exact isWellShaped_hasValue (Literal.isComparable_of_comparable? hform)
  | place hmethod hitem hvalue hpath =>
      exact isWellShaped_hasValue (Literal.isComparable_of_pathTerm? hpath)
  | type hmethod hitem hvalue hname =>
      exact isWellShaped_hasValue (Literal.isComparable_of_typeTerm? hname)

end Predicate

namespace Entry

theorem isWellShaped_negate {entry : Entry} (hentry : entry.toPredicate.IsWellShaped) :
    entry.negate.toPredicate.IsWellShaped := by
  cases entry with
  | predicate p => exact Predicate.isWellShaped_negate hentry
  | flag field value => exact Predicate.isWellShaped_hasValue rfl

theorem isWellShaped_join {left right : Entry} (op : Connective)
    (hleft : left.toPredicate.IsWellShaped) (hright : right.toPredicate.IsWellShaped) :
    (join op left right).toPredicate.IsWellShaped := by
  cases op with
  | and => exact Predicate.isWellShaped_must hleft hright
  | or => exact Predicate.isWellShaped_should hleft hright

end Entry

/-- Each rule by which a condition has an entry builds a predicate of the shape. -/
theorem Expr.EntryForm.isWellShaped {condition : Expr} {entry : Entry}
    (hform : EntryForm condition entry) : entry.toPredicate.IsWellShaped := by
  induction hform with
  | lambda hbody ih => exact ih
  | connect op hleft hright ihleft ihright => exact Entry.isWellShaped_join op ihleft ihright
  | compare hcompare =>
      obtain ⟨field, effective, value, form, -, hform, hp⟩ :=
        Predicate.ofComparison_eq_ok.mp hcompare
      exact Predicate.isWellShaped_ofComparison? (Literal.isComparable_of_comparable? hform) hp
  | not hoperand ih => exact Entry.isWellShaped_negate ih
  | conditional htest hpositive hnegative ihtest ihpositive ihnegative =>
      apply Entry.isWellShaped_join
      · exact Entry.isWellShaped_join .and ihtest ihpositive
      · exact Entry.isWellShaped_join .and (Entry.isWellShaped_negate ihtest) ihnegative
  | literal value =>
      cases value with
      | true => exact Predicate.isWellShaped_matchAll
      | false => exact Predicate.isWellShaped_matchNone
  | call hform => exact Predicate.isWellShaped_of_callForm hform
  | field hfield => exact Predicate.isWellShaped_hasValue rfl

/-! ## Chains -/

theorem Predicate.isWellShaped_of_mapM_predicate {conditions : List Expr} {ps : List Predicate}
    (hps : conditions.mapM Expr.predicate = .ok ps) : ∀ p ∈ ps, p.IsWellShaped := by
  induction conditions generalizing ps with
  | nil =>
      obtain rfl := Except.ok.inj hps
      exact List.forall_mem_nil _
  | cons condition rest ih =>
      obtain ⟨p, others, hp, hothers, rfl⟩ := mapM_cons_eq_ok.mp hps
      obtain ⟨entry, hentry, rfl⟩ := map_eq_ok.mp hp
      exact List.forall_mem_cons.mpr ⟨(Expr.entryForm_of_entry hentry).isWellShaped, ih hothers⟩

/-- A compiled predicate is a conjunction of the conditions' predicates, and well shaped as these
are. -/
theorem Query.isWellShaped_of_compile {chain : Expr} {options : QueryOptions} {query : Query}
    {p : Predicate} (hcompile : chain.compile options = .ok query)
    (hp : query.predicate = some p) : p.IsWellShaped := by
  obtain ⟨ps, hps, hpredicate⟩ := Expr.predicate_of_compile hcompile
  rw [hpredicate] at hp
  obtain ⟨conjunction, hconjunction, rfl⟩ := Option.map_eq_some_iff.mp hp
  apply Predicate.isWellShaped_anchored
  have hshapes := Predicate.isWellShaped_of_mapM_predicate hps
  cases ps with
  | nil => cases hconjunction
  | cons first rest =>
      obtain rfl := Option.some.inj hconjunction
      obtain ⟨hfirst, hrest⟩ := List.forall_mem_cons.mp hshapes
      exact Predicate.isWellShaped_foldl_must hfirst hrest

/-- The shape of compiled predicates. In every group there is a clause, and alternatives stand
alone; every range has one end, at a literal with an order; and every literal is in comparable
form. -/
theorem Query.nodeShape_of_compile {chain : Expr} {options : QueryOptions} {query : Query}
    (hcompile : chain.compile options = .ok query) :
    ∀ p, query.predicate = some p → ∀ node ∈ p.nodes, node.NodeShape := by
  intro p hp
  exact Query.isWellShaped_of_compile hcompile hp

/-- A membership and a conditional between a range and the exclusion of a referenced item. -/
def Expr.memberOrRanked : Expr :=
  ((source "Task").call "Where"
      [lambda ((literal (.list [.text "Open", .type "Draft"])).contains (field "State"))]).call
    "Where" [lambda (conditional (field "Public")
      (compare .le (literal (.int 3)) (field "Rank"))
      (compare .ne (reference "Owner") (literal (.content (.ofPath "/Root/Bob")))))]

theorem Query.nodeShape_of_memberOrRanked :
    ∃ p, (∃ query, Expr.memberOrRanked.compile .default = .ok query ∧ query.predicate = some p) ∧
      p.nodes.length = 11 ∧ ∀ node ∈ p.nodes, node.NodeShape := by
  have hcompile : Expr.memberOrRanked.compile .default = .ok { Query.all with
      predicate := some (.group [
        (.must, .group [(.should, .hasValue "State" (.text "open")),
          (.should, .hasValue "State" (.text "draft"))]),
        (.must, .group [
          (.should, .group [(.must, .hasValue "Public" (.bool true)),
            (.must, .lowerBound "Rank" (.int 3) false)]),
          (.should, .group [(.must, .hasValue "Public" (.bool false)),
            (.mustNot, .hasValue "Owner" (.text "/root/bob"))])])]) } := by
    cbv
  exact ⟨_, ⟨_, hcompile, rfl⟩, rfl, Query.nodeShape_of_compile hcompile _ rfl⟩

end ContentQuery
