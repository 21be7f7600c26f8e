/-
# Filters on a reference

A field that refers to an item is indexed by the number of the item. A filter can compare the field
with a captured reference, or the number of the one with the number of the other. The first way puts
the reference into its comparable form, the second reads the number off it when the condition is
folded; numbers are unsigned and the integers of the index are signed.

As far as the numbers fit, the two ways are one filter in every place of every chain, and filters on
different numbers differ in predicate and text. Beyond the largest integer the ways part: the first
takes the largest integer in place of the number, so all references that far out are one, and the
second is refused. The path of a reference plays no part.
-/

import ContentQuery.Proofs.Agreement
import ContentQuery.Proofs.EqualityText

namespace ContentQuery

/-! ## Numbers in the index -/

namespace Literal

/-- What the index has for a number: the number, or the largest integer where that is less. -/
def ofNumber (id : UInt64) : Literal := .int (Int64.ofNat (min id.toNat maxInt))

theorem toInt_ofNat_of_le {n : Nat} (hn : n ≤ maxInt) : (Int64.ofNat n).toInt = n :=
  Int64.toInt_ofNat_of_lt (Nat.lt_of_le_of_lt hn (by decide))

theorem toTerm_int_ofNat {n : Nat} (hn : n ≤ maxInt) :
    (int (Int64.ofNat n)).toTerm = n.repr := by
  rw [toTerm, toInt_ofNat_of_le hn]
  rfl

/-- Two numbers are cut off to the same one exactly when they are the same or both are cut off. -/
theorem min_maxInt_eq_iff {first second : UInt64} :
    min first.toNat maxInt = min second.toNat maxInt ↔
      first = second ∨ (maxInt ≤ first.toNat ∧ maxInt ≤ second.toNat) := by
  rw [← UInt64.toNat_inj]
  omega

/-- Numbers have the same term in the index exactly when they are the same or both are cut off. -/
theorem toTerm_ofNumber_eq_iff {first second : UInt64} :
    (ofNumber first).toTerm = (ofNumber second).toTerm ↔
      first = second ∨ (maxInt ≤ first.toNat ∧ maxInt ≤ second.toNat) := by
  rw [ofNumber, ofNumber, toTerm_int_ofNat (Nat.min_le_right _ _),
    toTerm_int_ofNat (Nat.min_le_right _ _), Nat.repr_inj, min_maxInt_eq_iff]

/-- Numbers are the same in the index exactly when they have the same term there. -/
theorem ofNumber_eq_iff {first second : UInt64} :
    ofNumber first = ofNumber second ↔
      first = second ∨ (maxInt ≤ first.toNat ∧ maxInt ≤ second.toNat) := by
  refine ⟨fun hsame => toTerm_ofNumber_eq_iff.mp (congrArg toTerm hsame), fun halike => ?_⟩
  rw [ofNumber, min_maxInt_eq_iff.mpr halike, ofNumber]

end Literal

/-! ## The two filters -/

namespace Expr

/-- The condition that a field refers to the item of a captured reference. -/
def refersTo (field name : String) (reference : ContentRef) : Expr :=
  .compare .eq (.reference field) (.captured name (.content reference))

/-- The condition that the number of the item that a field refers to is that of a captured
reference. -/
def hasNumberOf (field name : String) (reference : ContentRef) : Expr :=
  .compare .eq ((Expr.reference field).scalar "Id")
    ((captured name (.content reference)).scalar "Id")

theorem closed_reference (field : String) : (reference field).closed = false :=
  closed_item_member field .reference

theorem foldParts_reference (field : String) : (reference field).foldParts = reference field :=
  foldParts_item_member field .reference

variable (field name : String) (path : Option String) {id : UInt64}

theorem foldParts_refersTo (reference : ContentRef) :
    (lambda (refersTo field name reference)).foldParts =
      lambda (.compare .eq (.reference field) (.literal (.content reference))) := by
  have hopen : (refersTo field name reference).closed = false :=
    closed_eq_false_of_child List.mem_cons_self (closed_reference field)
  rw [foldParts_lambda_of_open hopen, foldParts_of_open hopen]
  show lambda (.compare .eq (Expr.reference field).foldParts (captured name _).foldParts) = _
  rw [foldParts_reference, foldParts_captured]

/-- The number of a captured reference is folded to an integer when it fits one, and stays as it is
otherwise. -/
theorem foldParts_number :
    ((captured name (.content ⟨some id, path⟩)).scalar "Id").foldParts =
      if id.toNat ≤ Literal.maxInt then literal (.int (Int64.ofNat id.toNat))
      else (captured name (.content ⟨some id, path⟩)).scalar "Id" := by
  have hclosed : ((captured name (.content ⟨some id, path⟩)).scalar "Id").closed = true := by
    rw [closed_eq]
    exact List.all_eq_true.mpr (List.forall_mem_singleton.mpr (closed_captured name _))
  have hvalue : ((captured name (.content ⟨some id, path⟩)).scalar "Id").evaluate? =
      if id.toNat ≤ Literal.maxInt then some (.int (Int64.ofNat id.toNat)) else none := rfl
  rw [foldParts_of_closed hclosed, evaluated, hvalue]
  by_cases hfits : id.toNat ≤ Literal.maxInt
  · rw [if_pos hfits, if_pos hfits]
  · rw [if_neg hfits, if_neg hfits]

theorem foldParts_hasNumberOf :
    (lambda (hasNumberOf field name ⟨some id, path⟩)).foldParts =
      lambda (.compare .eq ((Expr.reference field).scalar "Id")
        (if id.toNat ≤ Literal.maxInt then literal (.int (Int64.ofNat id.toNat))
        else (captured name (.content ⟨some id, path⟩)).scalar "Id")) := by
  have htarget : ((Expr.reference field).scalar "Id").closed = false :=
    closed_eq_false_of_child (List.mem_singleton_self _) (closed_reference field)
  have htargetFold : ((Expr.reference field).scalar "Id").foldParts =
      (Expr.reference field).scalar "Id" :=
    foldParts_eq_self htarget (List.forall_mem_singleton.mpr (foldParts_reference field))
  have hopen : (hasNumberOf field name ⟨some id, path⟩).closed = false :=
    closed_eq_false_of_child List.mem_cons_self htarget
  rw [foldParts_lambda_of_open hopen, foldParts_of_open hopen]
  show lambda (.compare .eq ((Expr.reference field).scalar "Id").foldParts
    ((captured name _).scalar "Id").foldParts) = _
  rw [htargetFold, foldParts_number]

/-- A reference with a number is compared by what the index has for the number. -/
theorem entry_refersTo (id : UInt64) :
    (lambda (refersTo field name ⟨some id, path⟩)).foldParts.entry =
      .ok (.predicate (.hasValue field (.ofNumber id))) := by
  rw [foldParts_refersTo]
  rfl

/-- The number of the item that a field refers to is what the field itself is indexed by. -/
theorem fieldName?_number : ((Expr.reference field).scalar "Id").fieldName? = some field := by
  show aliasedField? field .reference "Id" = some field
  rw [aliasedField?, if_neg (by simp), if_pos ⟨rfl, rfl⟩]

theorem entry_hasNumberOf (hfits : id.toNat ≤ Literal.maxInt) :
    (lambda (hasNumberOf field name ⟨some id, path⟩)).foldParts.entry =
      .ok (.predicate (.hasValue field (.ofNumber id))) := by
  rw [foldParts_hasNumberOf, if_pos hfits, Literal.ofNumber, Nat.min_eq_left hfits, entry, entry,
    Predicate.ofComparison, Predicate.comparisonOperands?, fieldName?_number]
  rfl

/-- A number that does not fit is not folded, and a field is compared with literals only. -/
theorem entry_hasNumberOf_of_large (hlarge : ¬id.toNat ≤ Literal.maxInt) :
    (lambda (hasNumberOf field name ⟨some id, path⟩)).foldParts.entry =
      .error (.unsupported (hasNumberOf field name ⟨some id, path⟩)) := by
  rw [foldParts_hasNumberOf, if_neg hlarge, entry, entry, Predicate.ofComparison,
    Predicate.comparisonOperands?, fieldName?_number]
  rfl

/-- As far as the number fits, the two filters can stand for each other in any chain. -/
theorem interchangeable_number {chain : Expr} (hmentions : chain.mentionsItem = true)
    (hfits : id.toNat ≤ Literal.maxInt) :
    Interchangeable (chain.call "Where" [lambda (hasNumberOf field name ⟨some id, path⟩)])
      (chain.call "Where" [lambda (refersTo field name ⟨some id, path⟩)]) := by
  refine interchangeable_filter hmentions ?_
  rw [entry_hasNumberOf field name path hfits, entry_refersTo]

/-- A filter on a captured reference compiles, whatever its number is. -/
theorem compile_refersTo (typeName : String) (id : UInt64) (options : QueryOptions) :
    (filtered typeName (refersTo field name ⟨some id, path⟩)).compile options =
      .ok (.ofPredicate (.hasValue field (.ofNumber id)) options) := by
  rw [compile_filtered_eq, predicate, entry_refersTo]
  rfl

end Expr

/-- Filters on a captured reference. The filter on the reference compiles for every number, to the
match of the field with what the index has for the number. The filter on the number compiles as far
as the number fits, to the same query, and is refused otherwise; and as far as the number fits, the
two can stand for each other in any chain over items, whatever calls follow. Filters on two
references have the same predicate, and the same text, exactly when the numbers are the same or
neither is below the largest integer. -/
theorem Query.reference_filters (typeName field name : String) (options : QueryOptions)
    (id : UInt64) (path : Option String) :
    ∃ query,
      (Expr.filtered typeName (.refersTo field name ⟨some id, path⟩)).compile options = .ok query ∧
      query.predicate = some (.hasValue field (.ofNumber id)) ∧
      (Expr.filtered typeName (.hasNumberOf field name ⟨some id, path⟩)).compile options =
        (if id.toNat ≤ Literal.maxInt then .ok query
        else .error (.unsupported (.hasNumberOf field name ⟨some id, path⟩))) ∧
      (∀ (chain : Expr) (later : List (String × List Expr)), chain.mentionsItem = true →
        id.toNat ≤ Literal.maxInt →
        Agrees
          (((chain.call "Where"
            [.lambda (.hasNumberOf field name ⟨some id, path⟩)]).continuedBy later).compile options)
          (((chain.call "Where"
            [.lambda (.refersTo field name ⟨some id, path⟩)]).continuedBy later).compile options)) ∧
      ∀ (other : UInt64) (otherName : String) (otherPath : Option String), ∃ otherQuery,
        (Expr.filtered typeName (.refersTo field otherName ⟨some other, otherPath⟩)).compile
          options = .ok otherQuery ∧
        (query.predicate = otherQuery.predicate ↔
          id = other ∨ (Literal.maxInt ≤ id.toNat ∧ Literal.maxInt ≤ other.toNat)) ∧
        (query.toText = otherQuery.toText ↔
          id = other ∨ (Literal.maxInt ≤ id.toNat ∧ Literal.maxInt ≤ other.toNat)) := by
  refine ⟨_, Expr.compile_refersTo field name path typeName id options, rfl, ?_, ?_, ?_⟩
  · rw [Expr.compile_filtered_eq, Expr.predicate]
    by_cases hfits : id.toNat ≤ Literal.maxInt
    · rw [if_pos hfits, Expr.entry_hasNumberOf field name path hfits]
      rfl
    · rw [if_neg hfits, Expr.entry_hasNumberOf_of_large field name path hfits]
      rfl
  · intro chain later hmentions hfits
    exact ((Expr.interchangeable_number field name path hmentions hfits).continuedBy
      later).agrees_compile options
  · intro other otherName otherPath
    refine ⟨_, Expr.compile_refersTo field otherName otherPath typeName other options, ?_, ?_⟩
    · show some _ = some _ ↔ _
      rw [Option.some_inj, Predicate.hasValue.injEq, Literal.ofNumber_eq_iff]
      exact and_iff_right rfl
    · rw [Query.toText_ofPredicate_eq_iff]
      show field ++ ":" ++ _ = field ++ ":" ++ _ ↔ _
      rw [String.append_right_inj, Literal.toTerm_ofNumber_eq_iff]

/-- The least number that is no integer: the filter on the reference compiles and the filter on its
number does not, and the filter on the reference is that on the largest integer. -/
theorem Query.least_large_number_is_cut_off :
    let largest : UInt64 := 9223372036854775807
    let owner (id : UInt64) := Expr.refersTo "Owner" "r" (.ofId id)
    (∃ query, (Expr.filtered "User" (owner (largest + 1))).compile .default = .ok query) ∧
      (∃ error, (Expr.filtered "User"
        (.hasNumberOf "Owner" "r" (.ofId (largest + 1)))).compile .default = .error error) ∧
      largest ≠ largest + 1 ∧
      (Expr.filtered "User" (owner largest)).compile .default =
        (Expr.filtered "User" (owner (largest + 1))).compile .default := by
  intro largest owner
  have hlarge : ¬(largest + 1).toNat ≤ Literal.maxInt := by decide
  have hsame : Literal.ofNumber largest = Literal.ofNumber (largest + 1) :=
    Literal.ofNumber_eq_iff.mpr (.inr ⟨by decide, by decide⟩)
  refine ⟨⟨_, Expr.compile_refersTo ..⟩, ?_, by decide, ?_⟩
  · refine ⟨.unsupported (.hasNumberOf "Owner" "r" (.ofId (largest + 1))), ?_⟩
    rw [ContentRef.ofId, Expr.compile_filtered_eq, Expr.predicate,
      Expr.entry_hasNumberOf_of_large "Owner" "r" none hlarge]
    rfl
  · exact (Expr.compile_refersTo "Owner" "r" none "User" largest .default).trans
      (hsame ▸ (Expr.compile_refersTo "Owner" "r" none "User" (largest + 1) .default).symm)

end ContentQuery
