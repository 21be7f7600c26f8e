/-
# Where directives start

In the text of a query a directive starts with a blank, a point and a capital. The literals of a
compiled predicate never hold such a start: texts are in lower case there, and numbers and dates
have no capitals. Names and patterns are written as they are. Where none of these holds a start,
the text of the predicate holds none, so it ends where the first directive starts.
-/

import ContentQuery.Proofs.Shape
import ContentQuery.Proofs.TermText

namespace ContentQuery

/-! ## Texts without a start -/

namespace Text

/-- Whether a directive starts here: with a blank, a point and a capital of ASCII. -/
def startsDirective : List Char → Bool
  | first :: second :: third :: _ => first == ' ' && second == '.' && third.isUpper
  | _ => false

/-- Whether a directive starts anywhere in a text. -/
def holdsDirective : List Char → Bool
  | [] => false
  | c :: rest => startsDirective (c :: rest) || holdsDirective rest

/-- A text in which no directive starts, not even at its first character when a blank stands
before it. -/
def IsClean (text : List Char) : Prop := holdsDirective (' ' :: text) = false

/-- A text without capitals of ASCII. -/
def NoCapital (text : List Char) : Prop := ∀ c ∈ text, c.isUpper = false

instance (text : List Char) : Decidable (IsClean text) := inferInstanceAs (Decidable (_ = _))

/-- A text before its first directive. -/
def beforeDirective : List Char → List Char
  | [] => []
  | c :: rest => if startsDirective (c :: rest) then [] else c :: beforeDirective rest

/-- A character that is neither the point nor a capital cannot stand inside a start, so what comes
after it does not change whether a directive starts before it. -/
theorem startsDirective_append_cons {c : Char} (hpoint : c ≠ '.') (hcapital : c.isUpper = false)
    (first : Char) (text after : List Char) :
    startsDirective (first :: text ++ c :: after) = startsDirective (first :: text) := by
  match text with
  | [] =>
      have hpoint : (c == '.') = false := beq_eq_false_iff_ne.mpr hpoint
      cases after <;> simp [startsDirective, hpoint]
  | [second] => simp [startsDirective, hcapital]
  | second :: third :: rest => rfl

theorem holdsDirective_append_cons {c : Char} (hpoint : c ≠ '.') (hcapital : c.isUpper = false)
    (text after : List Char) :
    holdsDirective (text ++ c :: after) = (holdsDirective text || holdsDirective (c :: after)) := by
  induction text with
  | nil => rfl
  | cons first rest ih =>
      have hstart := startsDirective_append_cons hpoint hcapital first rest after
      rw [List.cons_append] at hstart
      rw [List.cons_append, holdsDirective, hstart, ih, ← Bool.or_assoc]
      rfl

theorem holdsDirective_cons_of_ne {c : Char} (hblank : c ≠ ' ') (text : List Char) :
    holdsDirective (c :: text) = holdsDirective text := by
  have hblank : (c == ' ') = false := beq_eq_false_iff_ne.mpr hblank
  have hstart : startsDirective (c :: text) = false := by
    match text with
    | [] | [_] => rfl
    | _ :: _ :: _ => simp [startsDirective, hblank]
  rw [holdsDirective, hstart, Bool.false_or]

/-- A directive starts with a blank before a point, so none starts where no blank is followed by a
point. -/
theorem holdsDirective_of_no_blankPoint {text : List Char} (hblank : ¬[' ', '.'] <:+: text) :
    holdsDirective text = false := by
  induction text with
  | nil => rfl
  | cons c rest ih =>
      have hstart : startsDirective (c :: rest) = false := by
        match rest with
        | [] | [_] => rfl
        | second :: third :: _ =>
            rw [startsDirective, Bool.and_eq_false_iff, Bool.eq_false_iff]
            refine .inl fun hsame => hblank ?_
            rw [Bool.and_eq_true, beq_iff_eq, beq_iff_eq] at hsame
            obtain ⟨rfl, rfl⟩ := hsame
            exact List.IsPrefix.isInfix ⟨_, rfl⟩
      have hrest : ¬[' ', '.'] <:+: rest := fun hinside =>
        hblank (hinside.trans (List.suffix_cons c rest).isInfix)
      rw [holdsDirective, hstart, ih hrest]
      rfl

/-- No directive starts inside a text without blanks. -/
theorem holdsDirective_append_of_noBlank {text : List Char} (hblank : ' ' ∉ text)
    (after : List Char) : holdsDirective (text ++ after) = holdsDirective after := by
  induction text with
  | nil => rfl
  | cons c rest ih =>
      rw [List.mem_cons, not_or] at hblank
      obtain ⟨hc, hrest⟩ := hblank
      rw [List.cons_append, holdsDirective_cons_of_ne (Ne.symm hc), ih hrest]

theorem NoCapital.append {first second : List Char} (hfirst : NoCapital first)
    (hsecond : NoCapital second) : NoCapital (first ++ second) := by
  intro c hc
  exact (List.mem_append.mp hc).elim (hfirst c) (hsecond c)

/-- No directive starts without a capital. -/
theorem NoCapital.holdsDirective_eq_false {text : List Char} (hcapital : NoCapital text) :
    holdsDirective text = false := by
  induction text with
  | nil => rfl
  | cons c rest ih =>
      have hstart : startsDirective (c :: rest) = false := by
        match rest with
        | [] | [_] => rfl
        | second :: third :: _ => simp [startsDirective, hcapital third]
      obtain ⟨-, hrest⟩ := List.forall_mem_cons.mp hcapital
      rw [holdsDirective, hstart, ih hrest]
      rfl

/-- Before a text that is empty or starts with a directive, a text without one is found again. -/
theorem beforeDirective_append {text after : List Char} (htext : holdsDirective text = false)
    (hafter : after = [] ∨ startsDirective after = true) :
    beforeDirective (text ++ after) = text := by
  induction text with
  | nil =>
      cases after with
      | nil => rfl
      | cons c rest =>
          rcases hafter with hnil | hstart
          · cases hnil
          · rw [List.nil_append, beforeDirective, if_pos hstart]
  | cons first rest ih =>
      rw [holdsDirective, Bool.or_eq_false_iff] at htext
      obtain ⟨hfirst, hrest⟩ := htext
      have hnot : startsDirective (first :: (rest ++ after)) = false := by
        rcases hafter with rfl | hstart
        · rw [List.append_nil, hfirst]
        -- What comes after begins with a blank, and a start has no blank but its first character.
        · match after, hstart with
          | blank :: _ :: _ :: _, hstart =>
              simp only [startsDirective, Bool.and_eq_true, beq_iff_eq] at hstart
              obtain ⟨⟨rfl, -⟩, -⟩ := hstart
              rw [← List.cons_append, startsDirective_append_cons (by decide) (by decide), hfirst]
      rw [List.cons_append, beforeDirective, if_neg (Bool.eq_false_iff.mp hnot), ih hrest]

/-- So two texts that go on with directives are equal only part by part. -/
theorem append_directives_inj {text text' after after' : List Char}
    (htext : holdsDirective text = false) (htext' : holdsDirective text' = false)
    (hafter : after = [] ∨ startsDirective after = true)
    (hafter' : after' = [] ∨ startsDirective after' = true)
    (hsame : text ++ after = text' ++ after') : text = text' ∧ after = after' := by
  have hfirst : text = text' := by
    rw [← beforeDirective_append htext hafter, hsame, beforeDirective_append htext' hafter']
  rw [hfirst] at hsame
  exact ⟨hfirst, List.append_cancel_left hsame⟩

/-! ## Clean texts -/

theorem NoCapital.isClean {text : List Char} (hcapital : NoCapital text) : IsClean text :=
  NoCapital.holdsDirective_eq_false (List.forall_mem_cons.mpr ⟨by decide, hcapital⟩)

theorem IsClean.holdsDirective_eq_false {text : List Char} (hclean : IsClean text) :
    holdsDirective text = false := by
  rw [IsClean, holdsDirective, Bool.or_eq_false_iff] at hclean
  exact hclean.2

/-- No directive starts across a character that is neither the point nor a capital. -/
theorem isClean_append_cons {text after : List Char} {c : Char} (hclean : IsClean text)
    (hpoint : c ≠ '.') (hcapital : c.isUpper = false)
    (hafter : holdsDirective (c :: after) = false) : IsClean (text ++ c :: after) := by
  rw [IsClean, ← List.cons_append, holdsDirective_append_cons hpoint hcapital, hclean, hafter]
  rfl

/-- A sign or a bracket before a text parts it from what stands before the two. -/
theorem isClean_cons {c : Char} {text : List Char} (hsign : c ∈ ['+', '-', '('])
    (htext : holdsDirective text = false) : IsClean (c :: text) := by
  have hsigns : ∀ sign ∈ ['+', '-', '('], sign ≠ '.' ∧ sign.isUpper = false ∧ sign ≠ ' ' := by
    simp [Char.isUpper]
  obtain ⟨hpoint, hcapital, hblank⟩ := hsigns c hsign
  rw [IsClean, ← List.singleton_append, holdsDirective_append_cons hpoint hcapital,
    holdsDirective_cons_of_ne hblank, htext]
  rfl

theorem isClean_parenthesized {text : String} (hclean : IsClean text.toList) :
    IsClean ("(" ++ text ++ ")").toList := by
  rw [String.toList_append, String.toList_append]
  refine isClean_cons (by decide) ?_
  show holdsDirective (text.toList ++ [')']) = false
  rw [holdsDirective_append_cons (by decide) (by decide), hclean.holdsDirective_eq_false]
  rfl

/-- Between blanks clean texts stay clean. -/
theorem isClean_intercalate {texts : List String} (hclean : ∀ text ∈ texts, IsClean text.toList) :
    IsClean (" ".intercalate texts).toList := by
  match texts with
  | [] => exact rfl
  | [text] =>
      rw [String.intercalate_singleton]
      exact hclean text (List.mem_singleton_self text)
  | text :: second :: rest =>
      obtain ⟨htext, hrest⟩ := List.forall_mem_cons.mp hclean
      rw [String.intercalate_cons_cons, String.append_assoc, String.toList_append,
        String.toList_append]
      exact isClean_append_cons htext (by decide) (by decide) (isClean_intercalate hrest)

end Text

/-! ## Terms -/

namespace Text

theorem IsNumeric.isUpper_eq_false {c : Char} (hnumeric : IsNumeric c) : c.isUpper = false := by
  rcases hnumeric with hdigit | hmark
  · obtain ⟨-, hlast⟩ := Char.isDigit_iff_toNat.mp hdigit
    rw [Char.isUpper, decide_eq_false_iff_not]
    rintro ⟨hfirst, -⟩
    have hfirst : 'A'.toNat ≤ c.toNat := UInt32.le_iff_toNat_le.mp hfirst
    exact absurd (Nat.le_trans hfirst hlast) (by decide)
  · have hmarks : ∀ mark ∈ ['-', '.', ':', ' '], mark.isUpper = false := by
      simp [Char.isUpper]
    exact hmarks c hmark

theorem AllNumeric.noCapital {text : List Char} (hnumeric : AllNumeric text) : NoCapital text := by
  intro c hc
  exact (hnumeric c hc).isUpper_eq_false

/-- Lower case has no capital. -/
theorem noCapital_lowerCase (text : String) : NoCapital (lowerCase text).toList := by
  intro c hc
  exact (isLower_of_mem_lowerCase hc).isUpper_eq_false

theorem noCapital_quote : NoCapital "'".toList := by
  simp [NoCapital, Char.isUpper]

theorem mem_escapeQuotes {text : List Char} {c : Char} (hc : c ∈ escapeQuotes text) :
    c = '\\' ∨ c ∈ text := by
  induction text with
  | nil => cases hc
  | cons first rest ih =>
      rw [escapeQuotes] at hc
      split at hc
      · simp only [List.mem_cons] at hc ⊢
        rcases hc with hc | hc | hc
        · exact .inl hc
        · exact .inr (.inl hc)
        · exact (ih hc).imp_right .inr
      · simp only [List.mem_cons] at hc ⊢
        rcases hc with hc | hc
        · exact .inr (.inl hc)
        · exact (ih hc).imp_right .inr

/-- The term of a text has no capital that the text has not. -/
theorem noCapital_term {text : String} (hcapital : NoCapital text.toList) :
    NoCapital (term text).toList := by
  have hescaped : NoCapital (escapeQuotes text.toList) := by
    intro c hc
    rcases mem_escapeQuotes hc with rfl | hc
    · decide
    · exact hcapital c hc
  unfold term
  split
  · rw [String.toList_ofList]
    exact (noCapital_quote.append hescaped).append noCapital_quote
  · exact hcapital

end Text

open Text

/-- A floating point number has capitals only where it is no number. -/
theorem Binary64.isClean_toText (x : Binary64) : IsClean x.toText.toList := by
  have hsign : NoCapital (if x.isNegative then "-" else "").toList := by
    split <;> simp [NoCapital, Char.isUpper]
  have hamount : NoCapital
      (if x.isInfinite then "inf" else x.shortest.toPositional).toList := by
    split
    · simp [NoCapital, Char.isUpper]
    · exact x.shortest.allNumeric_toPositional.noCapital
  unfold toText
  split
  · decide
  · rw [String.toList_append]
    exact (hsign.append hamount).isClean

namespace Literal

mutual

/-- What is written for a literal in comparable form is clean. -/
theorem isClean_toTerm : ∀ {value : Literal}, value.IsComparable → IsClean value.toTerm.toList
  | .null, _ => by decide
  | .bool value, _ => by cases value <;> decide
  | .int value, _ => (allNumeric_int value.toInt).noCapital.isClean
  | .float value, _ => value.isClean_toText
  | .text value, hform => by
      rw [IsComparable, comparable?] at hform
      have hlower : Text.lowerCase value = value := text.inj (Option.some.inj hform)
      rw [toTerm, ← hlower]
      exact (noCapital_term (noCapital_lowerCase value)).isClean
  | .dateTime value, _ => by
      rw [toTerm, String.toList_append, String.toList_append]
      exact ((noCapital_quote.append value.allNumeric_indexText.noCapital).append
        noCapital_quote).isClean
  | .type name, hform => by
      rw [IsComparable, comparable?] at hform
      cases hform
  | .content reference, hform => by
      rw [IsComparable, comparable?, ContentRef.identity?] at hform
      split at hform <;> cases hform
  | .list items, hform => by
      rw [IsComparable, comparable?] at hform
      obtain ⟨forms, hforms, hsame⟩ := Option.map_eq_some_iff.mp hform
      rw [list.inj hsame] at hforms
      have hitems := isComparable_of_mem_comparableItems? hforms
      rw [toTerm]
      exact isClean_parenthesized (isClean_intercalate (isClean_of_mem_itemTerms hitems))

theorem isClean_of_mem_itemTerms : ∀ {items : List Literal},
    (∀ item ∈ items, item.IsComparable) → ∀ term ∈ itemTerms items, IsClean term.toList
  | [], _ => List.forall_mem_nil _
  | item :: rest, hitems => by
      obtain ⟨hitem, hrest⟩ := List.forall_mem_cons.mp hitems
      rw [itemTerms]
      exact List.forall_mem_cons.mpr ⟨isClean_toTerm hitem, isClean_of_mem_itemTerms hrest⟩

end

end Literal

/-! ## Predicates -/

namespace Predicate

/-- No directive starts in the name of a node's field, nor in the pattern of a wildcard. -/
def NodeIsPlain : Predicate → Prop
  | hasValue field _ => IsClean field.toList
  | range field _ _ => IsClean field.toList
  | wildcard field pattern => IsClean field.toList ∧ holdsDirective pattern.toList = false
  | group _ => True

/-- No directive starts in what a predicate has of its own words: its names and patterns. -/
def IsPlain (p : Predicate) : Prop := ∀ node ∈ p.nodes, node.NodeIsPlain

instance : DecidablePred NodeIsPlain
  | hasValue field _ | range field _ _ => inferInstanceAs (Decidable (IsClean field.toList))
  | wildcard field pattern =>
    inferInstanceAs (Decidable (IsClean field.toList ∧ holdsDirective pattern.toList = false))
  | group _ => inferInstanceAs (Decidable True)

instance (p : Predicate) : Decidable p.IsPlain := inferInstanceAs (Decidable (∀ _ ∈ _, _))

/-- A field, a colon and what is written there. -/
theorem isClean_field {field text : String} (hfield : IsClean field.toList)
    (htext : holdsDirective text.toList = false) : IsClean (field ++ ":" ++ text).toList := by
  have hcolon : ":".toList = [':'] := rfl
  rw [String.append_assoc, String.toList_append, String.toList_append, hcolon,
    List.singleton_append]
  refine isClean_append_cons hfield (by decide) (by decide) ?_
  rw [holdsDirective_cons_of_ne (by decide), htext]

/-- A range of one end is written as a sign and a term. -/
theorem holdsDirective_rangeText {lower upper : Bound}
    (hshape : (lower.IsEnd ∧ upper = .unbounded) ∨ (lower = .unbounded ∧ upper.IsEnd)) :
    holdsDirective (rangeText lower upper).toList = false := by
  have hterm (sign : String) (hblank : ' ' ∉ sign.toList) (value : Literal)
      (hform : value.IsComparable) : holdsDirective (sign ++ value.toTerm).toList = false := by
    rw [String.toList_append, holdsDirective_append_of_noBlank hblank,
      (Literal.isClean_toTerm hform).holdsDirective_eq_false]
  rcases hshape with ⟨⟨value, hvalue, hform, -⟩, rfl⟩ | ⟨rfl, value, hvalue, hform, -⟩
  · rw [rangeText, hvalue]
    exact hterm _ (by split <;> decide) value hform
  · rw [rangeText, hvalue]
    exact hterm _ (by split <;> decide) value hform

mutual

/-- In the text of a plain predicate whose literals are in comparable form no directive starts. -/
theorem isClean_toText : ∀ {p : Predicate}, p.IsWellShaped → p.IsPlain → IsClean p.toText.toList
  | hasValue field value, hshape, hplain => by
      have hvalue : value.IsComparable := hshape _ (List.mem_singleton_self _)
      exact isClean_field (hplain _ (List.mem_singleton_self _))
        (Literal.isClean_toTerm hvalue).holdsDirective_eq_false
  | range field lower upper, hshape, hplain =>
      isClean_field (hplain _ (List.mem_singleton_self _))
        (holdsDirective_rangeText (hshape _ (List.mem_singleton_self _)))
  | wildcard field pattern, _, hplain => by
      obtain ⟨hfield, hpattern⟩ := hplain _ (List.mem_singleton_self _)
      exact isClean_field hfield hpattern
  | group clauses, hshape, hplain =>
      isClean_intercalate (isClean_of_mem_clauseTexts (isWellShaped_group.mp hshape).2
        (forall_mem_nodes_group.mp hplain).2)

theorem isClean_of_mem_clauseTexts : ∀ {clauses : List (Occurrence × Predicate)},
    (∀ clause ∈ clauses, clause.2.IsWellShaped) → (∀ clause ∈ clauses, clause.2.IsPlain) →
      ∀ text ∈ clauseTexts clauses, IsClean text.toList
  | [], _, _ => List.forall_mem_nil _
  | (occurrence, p) :: rest, hshape, hplain => by
      obtain ⟨hfirst, hrest⟩ := List.forall_mem_cons.mp hshape
      obtain ⟨hfirstPlain, hrestPlain⟩ := List.forall_mem_cons.mp hplain
      have htext : IsClean (if p.isGroup then "(" ++ p.toText ++ ")" else p.toText).toList := by
        split
        · exact isClean_parenthesized (isClean_toText hfirst hfirstPlain)
        · exact isClean_toText hfirst hfirstPlain
      rw [clauseTexts]
      refine List.forall_mem_cons.mpr ⟨?_, isClean_of_mem_clauseTexts hrest hrestPlain⟩
      rw [String.toList_append]
      cases occurrence with
      | should => exact htext
      | must | mustNot => exact isClean_cons (by decide) htext.holdsDirective_eq_false

end

end Predicate

end ContentQuery
