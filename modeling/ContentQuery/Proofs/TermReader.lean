/-
# Reading a term back

A text is written into a query as a term, and other parts of the query may follow it. This module
writes down a reader for terms, which knows nothing of how they are written, and asks when it gets
the text back and stops where the term ends. It does so for each text but one kind: a text that
needs quotes and ends in a backslash. There the backslash stands right before the closing quote,
the reader takes both for an escaped quote, and goes on into what follows. No other spelling would
help such a text, since no term at all is read as one.
-/

import ContentQuery.Text.Quoted

namespace ContentQuery.Text

/-! ## The reader -/

/-- The marks that a bare term ends before. -/
def delimiters : List Char := ['\x27', '"', '(', ')', '[', ']', '\x7b', '\x7d', ':']

/-- Whether a bare term goes on over a character. -/
def continuesBare (c : Char) : Bool := !(isWhiteSpace c || delimiters.contains c)

/-- What stands before the first single quote that has no backslash right before it, and what
stands after that quote; `previous` is the character before the text. -/
def readQuoted (previous : Char) : List Char → Option (List Char × List Char)
  | [] => none
  | c :: rest =>
    if c = '\x27' ∧ previous ≠ '\\' then some ([], rest)
    else (readQuoted c rest).map fun (body, left) => (c :: body, left)

/-- Takes the backslash away from each escaped quote. -/
def unescapeQuotes : List Char → List Char
  | '\\' :: '\x27' :: rest => '\x27' :: unescapeQuotes rest
  | c :: rest => c :: unescapeQuotes rest
  | [] => []

/-- Reads a term: the text it stands for, and what is left after it. A quoted term that does not
end has no text. -/
def readTerm : List Char → Option (List Char × List Char)
  | '\x27' :: rest =>
    (readQuoted '\x27' rest).map fun (body, left) => (unescapeQuotes body, left)
  | input => some (input.takeWhile continuesBare, input.dropWhile continuesBare)

/-- What can follow a term in a query: nothing, a blank or a closing bracket. -/
def FollowsTerm (rest : List Char) : Prop := ∀ c ∈ rest.head?, c ∈ [' ', ')', ']', '\x7d']

/-- Whether a text is written with its last backslash before the closing quote. -/
def EndsEscaped (text : List Char) : Prop :=
  needsQuotes text = true ∧ text.getLast? = some '\\'

/-! ## Quoted terms -/

/-- An escaped text does not start with a quote. -/
theorem escapeQuotes_ne_quote (text rest : List Char) : escapeQuotes text ≠ '\x27' :: rest := by
  cases text with
  | nil => exact (List.cons_ne_nil _ _).symm
  | cons c text =>
      rw [escapeQuotes]
      split
      · rintro ⟨⟩
      · rename_i hc
        intro heq
        exact hc (List.cons.inj heq).1

/-- Away from an escaped quote the backslashes are text. -/
theorem unescapeQuotes_cons {c : Char} {rest : List Char}
    (hescape : c = '\\' → ∀ left, rest ≠ '\x27' :: left) :
    unescapeQuotes (c :: rest) = c :: unescapeQuotes rest := by
  rw [unescapeQuotes.eq_def]
  split
  · rename_i left heq
    obtain ⟨hc, hrest⟩ := List.cons.inj heq
    exact absurd hrest (hescape hc left)
  · rename_i heq
    obtain ⟨rfl, rfl⟩ := List.cons.inj heq
    rfl
  · contradiction

theorem unescapeQuotes_escapeQuotes (text : List Char) :
    unescapeQuotes (escapeQuotes text) = text := by
  induction text with
  | nil => rfl
  | cons c text ih =>
      rw [escapeQuotes]
      split
      · rename_i hc
        rw [hc, unescapeQuotes, ih]
      · rw [unescapeQuotes_cons fun _ => escapeQuotes_ne_quote text, ih]

/-- The quotes of an escaped text are passed over; the one after it is found, unless the text ends
in a backslash. -/
theorem readQuoted_escapeQuotes {previous : Char} {text : List Char}
    (hlast : (previous :: text).getLast? ≠ some '\\') (rest : List Char) :
    readQuoted previous (escapeQuotes text ++ '\x27' :: rest) =
      some (escapeQuotes text, rest) := by
  induction text generalizing previous with
  | nil => exact if_pos ⟨rfl, fun hprevious => hlast (congrArg some hprevious)⟩
  | cons c text ih =>
      rw [List.getLast?_cons_cons] at hlast
      rw [escapeQuotes]
      split
      · rename_i hc
        rw [List.cons_append, List.cons_append, readQuoted, if_neg (by simp), readQuoted,
          if_neg (by simp), ih hlast]
        rfl
      · rename_i hc
        rw [List.cons_append, readQuoted, if_neg (fun hquote => hc hquote.1), ih hlast]
        rfl

/-- What is read between quotes does not end in a backslash. -/
theorem getLast?_of_readQuoted {previous : Char} {input body rest : List Char}
    (hread : readQuoted previous input = some (body, rest)) :
    (previous :: body).getLast? ≠ some '\\' := by
  induction input generalizing previous body with
  | nil => cases hread
  | cons c input ih =>
      rw [readQuoted] at hread
      split at hread
      · rename_i hquote
        cases hread
        exact fun hprevious => hquote.2 (Option.some.inj hprevious)
      · obtain ⟨⟨body, left⟩, hbody, heq⟩ := Option.map_eq_some_iff.mp hread
        cases heq
        rw [List.getLast?_cons_cons]
        exact ih hbody

/-- Taking backslashes away leaves the last character as it is. -/
theorem getLast?_unescapeQuotes (body : List Char) :
    (unescapeQuotes body).getLast? = body.getLast? := by
  fun_induction unescapeQuotes body with
  | case1 rest ih => rw [List.getLast?_cons, ih, List.getLast?_cons_cons, List.getLast?_cons]
  | case2 c rest _ ih => rw [List.getLast?_cons, ih, List.getLast?_cons]
  | case3 => rfl

/-! ## Bare terms -/

theorem continuesBare_eq (c : Char) : continuesBare c = !endsTerm c := rfl

/-- What can follow a term ends a bare one. -/
theorem FollowsTerm.cut {rest : List Char} (hrest : FollowsTerm rest) :
    rest.takeWhile continuesBare = [] ∧ rest.dropWhile continuesBare = rest := by
  cases rest with
  | nil => exact ⟨rfl, rfl⟩
  | cons c rest =>
      have hends : [' ', ')', ']', '\x7d'].all endsTerm = true := by
        decide
      have hc : ¬continuesBare c = true := by
        rw [continuesBare_eq, List.all_eq_true.mp hends c (hrest c rfl)]
        exact Bool.false_ne_true
      exact ⟨List.takeWhile_cons_of_neg hc, List.dropWhile_cons_of_neg hc⟩

theorem readTerm_bare {text rest : List Char} (hbare : needsQuotes text = false)
    (hrest : FollowsTerm rest) : readTerm (text ++ rest) = some (text, rest) := by
  rw [needsQuotes, Bool.or_eq_false_iff, List.isEmpty_eq_false_iff, List.any_eq_false] at hbare
  obtain ⟨hnonempty, hends⟩ := hbare
  have hall : ∀ c ∈ text, continuesBare c = true := fun c hc => by
    rw [continuesBare_eq, Bool.not_eq_true', ← Bool.not_eq_true]
    exact hends c hc
  have hquote (left : List Char) : text ++ rest ≠ '\x27' :: left := by
    intro heq
    obtain ⟨c, tail, rfl⟩ := List.exists_cons_of_ne_nil hnonempty
    rw [(List.cons.inj heq).1] at hends
    exact hends _ List.mem_cons_self (by decide)
  rw [readTerm.eq_2 _ fun left heq => hquote left heq, List.takeWhile_append_of_pos hall,
    List.dropWhile_append_of_pos hall, hrest.cut.1, hrest.cut.2, List.append_nil]

/-! ## The round trip -/

/-- A text that is written with its last backslash before the closing quote is read from nothing:
neither between quotes, which never follow a backslash, nor bare. -/
theorem readTerm_ne_of_endsEscaped {text : List Char} (htext : EndsEscaped text)
    (input rest : List Char) : readTerm input ≠ some (text, rest) := by
  obtain ⟨hneeds, hlast⟩ := htext
  intro hread
  rw [readTerm.eq_def] at hread
  split at hread
  · obtain ⟨⟨body, left⟩, hbody, heq⟩ := Option.map_eq_some_iff.mp hread
    cases heq
    rw [getLast?_unescapeQuotes] at hlast
    refine getLast?_of_readQuoted hbody ?_
    rw [List.getLast?_cons, hlast]
    rfl
  · obtain ⟨rfl, -⟩ := Prod.mk.inj (Option.some.inj hread)
    have hall : (input.takeWhile continuesBare).any endsTerm = false := by
      rw [List.any_eq_false]
      intro c hc
      have hc := List.all_eq_true.mp List.all_takeWhile c hc
      rwa [continuesBare_eq, Bool.not_eq_true', ← Bool.not_eq_true] at hc
    rw [needsQuotes, hall, Bool.or_false, List.isEmpty_iff] at hneeds
    rw [hneeds] at hlast
    cases hlast

/-- The condition is exact: in front of whatever can follow it, a term is read back as its text,
with that left, if and only if the text is not written with its last backslash before the closing
quote. Such a text is read from no input. -/
theorem readTerm_term (text : String) {rest : List Char} (hrest : FollowsTerm rest) :
    (readTerm ((term text).toList ++ rest) = some (text.toList, rest) ↔
        ¬EndsEscaped text.toList) ∧
      (EndsEscaped text.toList → ∀ input left, readTerm input ≠ some (text.toList, left)) := by
  refine ⟨⟨fun hread htext => readTerm_ne_of_endsEscaped htext _ _ hread, fun htext => ?_⟩,
    readTerm_ne_of_endsEscaped⟩
  rw [term]
  split
  · rename_i hneeds
    have hlast : ('\x27' :: text.toList).getLast? ≠ some '\\' := by
      cases hend : text.toList.getLast? with
      | none =>
          rw [List.getLast?_cons, hend]
          decide
      | some c =>
          rw [List.getLast?_cons, hend]
          intro hc
          exact htext ⟨hneeds, hend.trans hc⟩
    rw [String.toList_ofList, List.append_assoc, List.cons_append, readTerm,
      List.singleton_append, readQuoted_escapeQuotes hlast]
    exact congrArg (fun body => some (body, rest)) (unescapeQuotes_escapeQuotes text.toList)
  · rename_i hbare
    exact readTerm_bare (Bool.eq_false_iff.mpr hbare) hrest

/-- A text with a blank, a quote, a bracket and backslashes inside is read back; one with a blank
inside and a backslash at its end is read from nothing. -/
theorem readTerm_term_of_mixed :
    let rest := " +Owner:'x'".toList
    FollowsTerm rest ∧
      readTerm ((term "a\\' (b\\c").toList ++ rest) = some ("a\\' (b\\c".toList, rest) ∧
      ∀ input left, readTerm input ≠ some ("a b\\".toList, left) := by
  have hrest : FollowsTerm " +Owner:'x'".toList := by
    simp [FollowsTerm]
  have hmixed : ¬EndsEscaped "a\\' (b\\c".toList := fun htext => absurd htext.2 (by decide)
  have hends : EndsEscaped "a b\\".toList := ⟨by decide, by decide⟩
  exact ⟨hrest, (readTerm_term _ hrest).1.mpr hmixed, (readTerm_term _ hrest).2 hends⟩

/-- A text that ends in a backslash takes the start of the next clause with it. -/
theorem readTerm_term_of_backslash :
    let rest := " +Owner:'x'".toList
    FollowsTerm rest ∧
      readTerm ((term "a b\\").toList ++ rest) = some ("a b' +Owner:".toList, "x'".toList) ∧
      ¬∀ (text : String) (rest : List Char), FollowsTerm rest →
        readTerm ((term text).toList ++ rest) = some (text.toList, rest) := by
  have hrest : FollowsTerm " +Owner:'x'".toList := by
    simp [FollowsTerm]
  have hread : readTerm ((term "a b\\").toList ++ " +Owner:'x'".toList) =
      some ("a b' +Owner:".toList, "x'".toList) := by
    decide
  refine ⟨hrest, hread, fun hevery => ?_⟩
  have hwhole := hevery "a b\\" _ hrest
  rw [hread] at hwhole
  exact absurd hwhole (by decide)

end ContentQuery.Text
