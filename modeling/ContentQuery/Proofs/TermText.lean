/-
# The characters of terms

What the uniqueness of query texts needs to know of the text of a literal: a term is never empty,
and numbers and dates are written with digits and four marks.
-/

import ContentQuery.Predicate.Text

namespace ContentQuery

/-! ## Numbers and dates -/

namespace Text

/-- A character of a number or a date: a digit, or one of the marks between digits. -/
def IsNumeric (c : Char) : Prop := c.isDigit = true ∨ c ∈ ['-', '.', ':', ' ']

/-- A text of such characters. -/
def AllNumeric (text : List Char) : Prop := ∀ c ∈ text, IsNumeric c

theorem AllNumeric.append {first second : List Char} (hfirst : AllNumeric first)
    (hsecond : AllNumeric second) : AllNumeric (first ++ second) := by
  intro c hc
  exact (List.mem_append.mp hc).elim (hfirst c) (hsecond c)

theorem allNumeric_toDigits (n : Nat) : AllNumeric (Nat.toDigits 10 n) := by
  intro c hc
  exact .inl (Nat.isDigit_of_mem_toDigits (by decide) (by decide) hc)

theorem allNumeric_zeros (count : Nat) : AllNumeric (List.replicate count '0') := by
  intro c hc
  rw [List.eq_of_mem_replicate hc]
  exact .inl (by decide)

/-- A mark between numbers. -/
theorem allNumeric_mark {c : Char} (hc : c ∈ ['-', '.', ':', ' ']) : AllNumeric [c] :=
  List.forall_mem_singleton.mpr (.inr hc)

theorem allNumeric_int (value : Int) : AllNumeric (toString value).toList := by
  rw [Int.toString_eq_repr, Int.repr_eq_if]
  split
  · rw [Nat.toList_repr]
    exact allNumeric_toDigits _
  · rw [String.toList_append, Nat.toList_repr]
    exact (allNumeric_mark (by decide)).append (allNumeric_toDigits _)

theorem int_ne_nil (value : Int) : (toString value).toList ≠ [] := by
  rw [Int.toString_eq_repr, Int.repr_eq_if]
  split
  · rw [Nat.toList_repr]
    exact Nat.toDigits_ne_nil
  · rw [String.toList_append]
    exact List.append_ne_nil_of_left_ne_nil (List.cons_ne_nil _ _) _

end Text

open Text

theorem Decimal.allNumeric_toPositional (d : Decimal) : AllNumeric d.toPositional.toList := by
  have hpadded (places : Nat) :
      AllNumeric (List.replicate places '0' ++ Nat.toDigits 10 d.digits) :=
    (allNumeric_zeros places).append (allNumeric_toDigits _)
  unfold toPositional
  split
  · rw [String.toList_ofList]
    exact (allNumeric_toDigits _).append (allNumeric_zeros _)
  · rw [String.toList_ofList]
    refine AllNumeric.append ?_ (AllNumeric.append (allNumeric_mark (by decide)) ?_)
    · intro c hc
      exact hpadded _ c (List.mem_of_mem_take hc)
    · intro c hc
      exact hpadded _ c (List.mem_of_mem_drop hc)

theorem Decimal.toPositional_ne_nil (d : Decimal) : d.toPositional.toList ≠ [] := by
  unfold toPositional
  split
  · rw [String.toList_ofList]
    exact List.append_ne_nil_of_left_ne_nil Nat.toDigits_ne_nil _
  · rw [String.toList_ofList]
    exact List.append_ne_nil_of_right_ne_nil _ (List.cons_ne_nil _ _)

namespace DateTime

theorem allNumeric_padded (width value : Nat) : AllNumeric (padded width value).toList := by
  rw [padded, String.toList_ofList]
  exact (allNumeric_zeros _).append (allNumeric_toDigits _)

theorem allNumeric_dateText (t : DateTime) : AllNumeric t.dateText.toList := by
  have hsign : AllNumeric (if t.year < 0 then "-" else "").toList := by
    split
    · exact allNumeric_mark (by decide)
    · exact List.forall_mem_nil _
  have hmark : AllNumeric "-".toList := allNumeric_mark (by decide)
  rw [dateText]
  simp only [String.toList_append]
  exact ((((hsign.append (allNumeric_padded _ _)).append hmark).append
    (allNumeric_padded _ _)).append hmark).append (allNumeric_padded _ _)

theorem allNumeric_indexText (t : DateTime) : AllNumeric t.indexText.toList := by
  have hblank : AllNumeric " ".toList := allNumeric_mark (by decide)
  have hcolon : AllNumeric ":".toList := allNumeric_mark (by decide)
  have hpoint : AllNumeric ".".toList := allNumeric_mark (by decide)
  rw [indexText]
  simp only [String.toList_append]
  exact ((((((((t.allNumeric_dateText.append hblank).append (allNumeric_padded _ _)).append
    hcolon).append (allNumeric_padded _ _)).append hcolon).append (allNumeric_padded _ _)).append
      hpoint).append (allNumeric_padded _ _))

end DateTime

/-! ## Terms -/

theorem Text.term_ne_nil (text : String) : (term text).toList ≠ [] := by
  unfold term
  split
  · rw [String.toList_ofList]
    exact List.cons_ne_nil _ _
  · rename_i hbare
    intro hnil
    rw [needsQuotes, hnil] at hbare
    exact hbare rfl

theorem Binary64.toText_ne_nil (x : Binary64) : x.toText.toList ≠ [] := by
  unfold toText
  split
  · exact List.cons_ne_nil _ _
  · rw [String.toList_append]
    refine List.append_ne_nil_of_right_ne_nil _ ?_
    split
    · exact List.cons_ne_nil _ _
    · exact Decimal.toPositional_ne_nil _

/-- No literal is written with nothing. -/
theorem Literal.toTerm_ne_nil (value : Literal) : value.toTerm.toList ≠ [] := by
  cases value with
  | null => exact List.cons_ne_nil _ _
  | bool value => cases value <;> exact List.cons_ne_nil _ _
  | int value => exact int_ne_nil _
  | float value => exact Binary64.toText_ne_nil value
  | text text | type name => exact term_ne_nil _
  | dateTime value =>
      rw [toTerm, String.toList_append]
      exact List.append_ne_nil_of_right_ne_nil _ (List.cons_ne_nil _ _)
  | content reference =>
      unfold toTerm
      split
      · rw [Nat.toString_eq_repr, Nat.toList_repr]
        exact Nat.toDigits_ne_nil
      · exact term_ne_nil _
      · exact List.cons_ne_nil _ _
  | list items =>
      rw [toTerm, String.toList_append]
      exact List.append_ne_nil_of_right_ne_nil _ (List.cons_ne_nil _ _)

end ContentQuery
