/-
# Reading the groups of a predicate off its text

In the text of a predicate a group stands between parentheses unless it is the whole text, its
clauses have blanks between them, and a clause has a sign before it or none. What the leaves of the
predicate are is not said by the groups: a leaf is taken here as the text that it has. This module
proves that the rest can be read back. Where the texts of the leaves can be told from blanks,
parentheses and signs, two predicates of one text have the same groups, and the same leaves in the
same places. One thing remains open: a predicate that is a leaf, and the group of which that leaf is
the only clause and should hold, have the same text, since neither a sign nor parentheses are
written there.
-/

import ContentQuery.Predicate.Text
import ContentQuery.Proofs.Shape

namespace ContentQuery

/-! ## Words -/

namespace Text

/-- A text that can be told from what stands between the leaves of a predicate: there is something
in it, there is neither white space nor a parenthesis in it, and it does not start with a sign. -/
structure IsWord (text : List Char) : Prop where
  nonempty : text ≠ []
  unbroken : ∀ c ∈ text, isWhiteSpace c = false ∧ c ≠ '(' ∧ c ≠ ')'
  unsigned : ∀ c ∈ text.head?, c ≠ '+' ∧ c ≠ '-'

/-- Whether a text is a word, by a scan of its characters. -/
theorem isWord_iff {text : List Char} : IsWord text ↔
    (text != [] && text.all (fun c => !isWhiteSpace c && c != '(' && c != ')') &&
      text.head?.all fun c => c != '+' && c != '-') = true := by
  simp only [Bool.and_eq_true, bne_iff_ne, List.all_eq_true, Option.all_eq_true,
    Bool.not_eq_true', and_assoc]
  constructor
  · intro hword
    exact ⟨hword.nonempty, hword.unbroken, hword.unsigned⟩
  · rintro ⟨hnonempty, hunbroken, hunsigned⟩
    exact ⟨hnonempty, hunbroken, hunsigned⟩

instance (text : List Char) : Decidable (IsWord text) := decidable_of_iff _ isWord_iff.symm

/-- What can stand after a clause: the blank before the next one, the end of the group, or nothing
at the end of the text. -/
def FollowsClause (rest : List Char) : Prop := ∀ c ∈ rest.head?, c = ' ' ∨ c = ')'

/-- What can stand after the last clause of a group. -/
def FollowsGroup (rest : List Char) : Prop := ∀ c ∈ rest.head?, c = ')'

theorem FollowsGroup.followsClause {rest : List Char} (hrest : FollowsGroup rest) :
    FollowsClause rest := by
  intro c hc
  exact .inr (hrest c hc)

/-- Whether a character goes on with a word: it is neither of the two that can come after one. -/
def continuesWord (c : Char) : Bool := c != ' ' && c != ')'

theorem IsWord.takeWhile_append {word rest : List Char} (hword : IsWord word)
    (hrest : FollowsClause rest) : (word ++ rest).takeWhile continuesWord = word := by
  have hall : ∀ c ∈ word, continuesWord c = true := by
    intro c hc
    obtain ⟨hspace, -, hclosing⟩ := hword.unbroken c hc
    have hblank : c ≠ ' ' := by
      rintro rfl
      exact absurd hspace (by decide)
    rw [continuesWord, Bool.and_eq_true, bne_iff_ne, bne_iff_ne]
    exact ⟨hblank, hclosing⟩
  have hcut : rest.takeWhile continuesWord = [] := by
    cases rest with
    | nil => rfl
    | cons c rest =>
        refine List.takeWhile_cons_of_neg ?_
        rcases hrest c rfl with rfl | rfl <;> decide
  rw [List.takeWhile_append_of_pos hall, hcut, List.append_nil]

/-- Two words with what follows them are equal only part by part. -/
theorem IsWord.append_inj {word word' rest rest' : List Char} (hword : IsWord word)
    (hword' : IsWord word') (hrest : FollowsClause rest) (hrest' : FollowsClause rest')
    (hsame : word ++ rest = word' ++ rest') : word = word' ∧ rest = rest' := by
  have hfirst : word = word' := by
    rw [← hword.takeWhile_append hrest, hsame, hword'.takeWhile_append hrest']
  subst hfirst
  exact ⟨rfl, List.append_cancel_left hsame⟩

end Text

open Text

/-! ## Outlines -/

/-- The groups of a predicate over the texts of its leaves. -/
inductive Outline
  | leaf (text : String)
  | group (clauses : List (Occurrence × Outline))

/-- An outline is a leaf, and another one the group of which that leaf is the only clause and should
hold. -/
def Outline.IsOnlyClauseOf (bare whole : Outline) : Prop :=
  ∃ text, bare = leaf text ∧ whole = group [(.should, leaf text)]

namespace Predicate

mutual

/-- The outline of a predicate. -/
def outline : Predicate → Outline
  | group clauses => .group (clauseOutlines clauses)
  | p => .leaf p.toText

/-- The outlines of all clauses of a group. -/
def clauseOutlines : List (Occurrence × Predicate) → List (Occurrence × Outline)
  | [] => []
  | (occurrence, p) :: rest => (occurrence, outline p) :: clauseOutlines rest

end

/-- A node that can be read: a group has a clause, and the text of a leaf is a word. -/
def NodeIsReadable : Predicate → Prop
  | group clauses => clauses ≠ []
  | p => IsWord p.toText.toList

/-- Every node of a predicate can be read. -/
def IsReadable (p : Predicate) : Prop := ∀ node ∈ p.nodes, node.NodeIsReadable

instance : DecidablePred NodeIsReadable
  | group clauses => inferInstanceAs (Decidable (clauses ≠ []))
  | hasValue field value =>
    inferInstanceAs (Decidable (IsWord (hasValue field value).toText.toList))
  | range field lower upper =>
    inferInstanceAs (Decidable (IsWord (range field lower upper).toText.toList))
  | wildcard field pattern =>
    inferInstanceAs (Decidable (IsWord (wildcard field pattern).toText.toList))

instance (p : Predicate) : Decidable p.IsReadable := inferInstanceAs (Decidable (∀ _ ∈ _, _))

theorem isReadable_group {clauses : List (Occurrence × Predicate)} :
    (group clauses).IsReadable ↔ clauses ≠ [] ∧ ∀ clause ∈ clauses, clause.2.IsReadable :=
  forall_mem_nodes_group

theorem outline_of_not_isGroup {p : Predicate} (hleaf : p.isGroup = false) :
    p.outline = .leaf p.toText := by
  cases p with
  | group clauses => cases hleaf
  | _ => rfl

theorem isWord_of_isReadable {p : Predicate} (hp : p.IsReadable) (hleaf : p.isGroup = false) :
    IsWord p.toText.toList := by
  cases p with
  | group clauses => cases hleaf
  | _ => exact hp _ (List.mem_singleton_self _)

/-! ## Clauses in the text -/

/-- The text of a predicate as a clause, without its sign. -/
def clauseText (p : Predicate) : List Char :=
  (if p.isGroup then "(" ++ p.toText ++ ")" else p.toText).toList

/-- The clauses of a group, with a blank before each of them. -/
def spaced (clauses : List (Occurrence × Predicate)) : List Char :=
  clauses.flatMap fun (occurrence, p) => ' ' :: (occurrence.sign.toList ++ p.clauseText)

theorem clauseText_group (clauses : List (Occurrence × Predicate)) :
    (group clauses).clauseText = '(' :: (group clauses).toText.toList ++ [')'] := by
  rw [clauseText, isGroup, if_pos rfl, String.toList_append, String.toList_append]
  rfl

theorem clauseText_of_not_isGroup {p : Predicate} (hleaf : p.isGroup = false) :
    p.clauseText = p.toText.toList := by
  rw [clauseText, hleaf, if_neg Bool.false_ne_true]

/-- The text of a group is its clauses without the first of the blanks. -/
theorem cons_toText_group {clauses : List (Occurrence × Predicate)} (hclauses : clauses ≠ []) :
    ' ' :: (group clauses).toText.toList = spaced clauses := by
  induction clauses with
  | nil => exact absurd rfl hclauses
  | cons clause rest ih =>
      obtain ⟨occurrence, p⟩ := clause
      rw [toText, clauseTexts, spaced, List.flatMap_cons]
      cases rest with
      | nil =>
          rw [clauseTexts, String.intercalate_singleton, String.toList_append]
          simp [clauseText]
      | cons second rest =>
          have hrest := ih (List.cons_ne_nil _ _)
          rw [toText] at hrest
          rw [← spaced, ← hrest, clauseTexts, String.intercalate_cons_cons]
          simp [clauseText]

/-- A clause begins with a parenthesis or with the first character of a word, so its sign can be
told from it. -/
theorem head?_clauseText {p : Predicate} (hp : p.IsReadable) :
    ∃ c text, p.clauseText = c :: text ∧ c ≠ '+' ∧ c ≠ '-' ∧ (c = '(' ↔ p.isGroup = true) := by
  cases hgroup : p.isGroup with
  | false =>
      have hword := isWord_of_isReadable hp hgroup
      rw [clauseText_of_not_isGroup hgroup]
      obtain ⟨c, text, htext⟩ := List.exists_cons_of_ne_nil hword.nonempty
      rw [htext] at hword ⊢
      obtain ⟨hplus, hminus⟩ := hword.unsigned c rfl
      obtain ⟨-, hopening, -⟩ := hword.unbroken c List.mem_cons_self
      exact ⟨c, text, rfl, hplus, hminus, by simp [hopening]⟩
  | true =>
      cases p with
      | group clauses => exact ⟨'(', _, clauseText_group clauses, by decide, by decide, by simp⟩
      | _ => cases hgroup

/-- Signs are read back in front of clauses. -/
theorem sign_append_inj {occurrence occurrence' : Occurrence} {p q : Predicate}
    {rest rest' : List Char} (hp : p.IsReadable) (hq : q.IsReadable)
    (hsame : occurrence.sign.toList ++ p.clauseText ++ rest =
      occurrence'.sign.toList ++ q.clauseText ++ rest') :
    occurrence = occurrence' ∧ p.clauseText ++ rest = q.clauseText ++ rest' := by
  obtain ⟨c, text, hpText, hcPlus, hcMinus, -⟩ := head?_clauseText hp
  obtain ⟨d, text', hqText, hdPlus, hdMinus, -⟩ := head?_clauseText hq
  rw [hpText, hqText] at hsame ⊢
  clear hpText hqText
  cases occurrence <;> cases occurrence' <;> simp_all [Occurrence.sign, eq_comm]

/-- A leaf is read back in one way: it does not begin with a parenthesis, so neither does what it
could be taken for. -/
theorem leafText_append_inj {p q : Predicate} {rest rest' : List Char} (hleaf : p.isGroup = false)
    (hp : p.IsReadable) (hq : q.IsReadable) (hrest : FollowsClause rest)
    (hrest' : FollowsClause rest') (hsame : p.clauseText ++ rest = q.clauseText ++ rest') :
    p.outline = q.outline ∧ rest = rest' := by
  obtain ⟨c, text, hpText, -, -, hpGroup⟩ := head?_clauseText hp
  obtain ⟨d, text', hqText, -, -, hqGroup⟩ := head?_clauseText hq
  have hfirst : c = d := by
    rw [hpText, hqText] at hsame
    exact (List.cons.inj hsame).1
  have hleaf' : q.isGroup = false := by
    rw [← Bool.not_eq_true, ← hqGroup, ← hfirst, hpGroup, hleaf]
    exact Bool.false_ne_true
  rw [clauseText_of_not_isGroup hleaf, clauseText_of_not_isGroup hleaf'] at hsame
  obtain ⟨htext, hafter⟩ := (isWord_of_isReadable hp hleaf).append_inj
    (isWord_of_isReadable hq hleaf') hrest hrest' hsame
  rw [outline_of_not_isGroup hleaf, outline_of_not_isGroup hleaf', String.toList_inj.mp htext]
  exact ⟨rfl, hafter⟩

/-- What stands after the clauses of a group is no further clause. -/
theorem ne_spaced_cons {rest after : List Char} (hrest : FollowsGroup rest)
    (clause : Occurrence × Predicate) (clauses : List (Occurrence × Predicate)) :
    rest ≠ spaced (clause :: clauses) ++ after := by
  rintro rfl
  exact absurd (hrest ' ' rfl) (by decide)

theorem followsClause_spaced {clauses : List (Occurrence × Predicate)} {rest : List Char}
    (hrest : FollowsGroup rest) : FollowsClause (spaced clauses ++ rest) := by
  cases clauses with
  | nil => exact hrest.followsClause
  | cons clause clauses =>
      rintro c ⟨⟩
      exact .inl rfl

mutual

/-- A clause with what follows it is read back in one way. The induction is on the first predicate;
a group hands over to its clauses, which end at its closing parenthesis. -/
theorem clauseText_append_inj : ∀ {p q : Predicate} {rest rest' : List Char},
    p.IsReadable → q.IsReadable → FollowsClause rest → FollowsClause rest' →
      p.clauseText ++ rest = q.clauseText ++ rest' → p.outline = q.outline ∧ rest = rest'
  | group clauses, q, rest, rest', hp, hq, _, _, hsame => by
      obtain ⟨c, text, hqText, -, -, hqGroup⟩ := head?_clauseText hq
      have hopening : '(' = c := by
        rw [clauseText_group, hqText] at hsame
        exact (List.cons.inj hsame).1
      cases q with
      | group clauses' =>
          obtain ⟨hnonempty, hclauses⟩ := isReadable_group.mp hp
          obtain ⟨hnonempty', hclauses'⟩ := isReadable_group.mp hq
          have hinside : spaced clauses ++ ')' :: rest = spaced clauses' ++ ')' :: rest' := by
            rw [clauseText_group, clauseText_group] at hsame
            rw [← cons_toText_group hnonempty, ← cons_toText_group hnonempty']
            simpa using hsame
          have hend (after : List Char) : FollowsGroup (')' :: after) := by
            rintro c ⟨⟩
            rfl
          obtain ⟨houtlines, hafter⟩ :=
            spaced_append_inj hclauses hclauses' (hend rest) (hend rest') hinside
          rw [outline, outline, houtlines]
          exact ⟨rfl, (List.cons.inj hafter).2⟩
      | _ => exact absurd (hqGroup.mp hopening.symm) Bool.false_ne_true
  | hasValue _ _, _, _, _, hp, hq, hrest, hrest', hsame
  | range _ _ _, _, _, _, hp, hq, hrest, hrest', hsame
  | wildcard _ _, _, _, _, hp, hq, hrest, hrest', hsame =>
      leafText_append_inj rfl hp hq hrest hrest' hsame

/-- The clauses of a group are read back in one way, each up to where the next one starts. -/
theorem spaced_append_inj : ∀ {clauses clauses' : List (Occurrence × Predicate)}
    {rest rest' : List Char}, (∀ clause ∈ clauses, clause.2.IsReadable) →
      (∀ clause ∈ clauses', clause.2.IsReadable) → FollowsGroup rest → FollowsGroup rest' →
        spaced clauses ++ rest = spaced clauses' ++ rest' →
          clauseOutlines clauses = clauseOutlines clauses' ∧ rest = rest'
  | [], [], _, _, _, _, _, _, hsame => ⟨rfl, hsame⟩
  | [], clause :: clauses, _, _, _, _, hrest, _, hsame =>
      absurd hsame (ne_spaced_cons hrest clause clauses)
  | clause :: clauses, [], _, _, _, _, _, hrest', hsame =>
      absurd hsame.symm (ne_spaced_cons hrest' clause clauses)
  | (occurrence, p) :: clauses, (occurrence', q) :: clauses', rest, rest', hclauses, hclauses',
      hrest, hrest', hsame => by
      obtain ⟨hp, hothers⟩ := List.forall_mem_cons.mp hclauses
      obtain ⟨hq, hothers'⟩ := List.forall_mem_cons.mp hclauses'
      have hclause : occurrence.sign.toList ++ p.clauseText ++ (spaced clauses ++ rest) =
          occurrence'.sign.toList ++ q.clauseText ++ (spaced clauses' ++ rest') := by
        simpa [spaced] using hsame
      obtain ⟨rfl, hafter⟩ := sign_append_inj hp hq hclause
      obtain ⟨houtline, hafter⟩ := clauseText_append_inj hp hq (followsClause_spaced hrest)
        (followsClause_spaced hrest') hafter
      obtain ⟨houtlines, hafter⟩ := spaced_append_inj hothers hothers' hrest hrest' hafter
      rw [clauseOutlines, clauseOutlines, houtline, houtlines]
      exact ⟨rfl, hafter⟩

end

/-! ## Whole texts -/

/-- The clauses that a text is read as. A leaf stands there like a clause that should hold. -/
def rootClauses : Predicate → List (Occurrence × Predicate)
  | group clauses => clauses
  | p => [(.should, p)]

theorem isReadable_rootClauses {p : Predicate} (hp : p.IsReadable) :
    ∀ clause ∈ p.rootClauses, clause.2.IsReadable := by
  cases p with
  | group clauses => exact (isReadable_group.mp hp).2
  | _ => exact List.forall_mem_singleton.mpr hp

theorem cons_toText {p : Predicate} (hp : p.IsReadable) :
    ' ' :: p.toText.toList = spaced p.rootClauses := by
  cases p with
  | group clauses => exact cons_toText_group (isReadable_group.mp hp).1
  | _ => exact (List.append_nil _).symm

/-- Readable predicates have one text exactly when it is read as the same clauses. -/
theorem clauseOutlines_of_toText_eq {p q : Predicate} (hp : p.IsReadable) (hq : q.IsReadable)
    (hsame : p.toText = q.toText) :
    clauseOutlines p.rootClauses = clauseOutlines q.rootClauses := by
  have hspaced : spaced p.rootClauses ++ [] = spaced q.rootClauses ++ [] := by
    rw [← cons_toText hp, ← cons_toText hq, hsame]
  have hend : FollowsGroup [] := by
    rintro c ⟨⟩
  exact (spaced_append_inj (isReadable_rootClauses hp) (isReadable_rootClauses hq) hend hend
    hspaced).1

/-- The outline of a leaf is that of nothing else than a leaf of its text. -/
theorem eq_leaf_of_outline_eq {p : Predicate} {text : String} (houtline : p.outline = .leaf text) :
    p.toText = text ∧ p.isGroup = false := by
  cases p with
  | group clauses => cases houtline
  | _ => exact ⟨Outline.leaf.inj houtline, rfl⟩

mutual

/-- Everything that is written is in the outline. -/
theorem toText_of_outline_eq : ∀ {p q : Predicate}, p.outline = q.outline →
    p.toText = q.toText ∧ p.isGroup = q.isGroup
  | group clauses, group clauses', hsame => by
      rw [outline, outline] at hsame
      rw [toText, toText, clauseTexts_of_outlines_eq (Outline.group.inj hsame)]
      exact ⟨rfl, rfl⟩
  | group clauses, hasValue _ _, hsame | group clauses, range _ _ _, hsame
  | group clauses, wildcard _ _, hsame => by cases hsame
  | hasValue _ _, q, hsame | range _ _ _, q, hsame | wildcard _ _, q, hsame => by
      obtain ⟨htext, hleaf⟩ := eq_leaf_of_outline_eq hsame.symm
      exact ⟨htext.symm, hleaf.symm⟩

theorem clauseTexts_of_outlines_eq : ∀ {clauses clauses' : List (Occurrence × Predicate)},
    clauseOutlines clauses = clauseOutlines clauses' → clauseTexts clauses = clauseTexts clauses'
  | [], [], _ => rfl
  | [], _ :: _, hsame => by cases hsame
  | _ :: _, [], hsame => by cases hsame
  | (occurrence, p) :: clauses, (occurrence', q) :: clauses', hsame => by
      rw [clauseOutlines, clauseOutlines, List.cons.injEq, Prod.mk.injEq] at hsame
      obtain ⟨⟨rfl, houtline⟩, houtlines⟩ := hsame
      obtain ⟨htext, hgroup⟩ := toText_of_outline_eq houtline
      rw [clauseTexts, clauseTexts, htext, hgroup, clauseTexts_of_outlines_eq houtlines]

end

/-- A leaf as the only clause of the root, where it should hold, is written like the leaf. -/
theorem toText_of_onlyClause {p : Predicate} {text : String}
    (hgroup : p.outline = .group [(.should, .leaf text)]) : p.toText = text := by
  match p with
  | group [(occurrence, clause)] =>
      rw [outline, clauseOutlines, clauseOutlines, Outline.group.injEq, List.cons.injEq,
        Prod.mk.injEq] at hgroup
      obtain ⟨⟨rfl, houtline⟩, -⟩ := hgroup
      obtain ⟨htext, hleaf⟩ := eq_leaf_of_outline_eq houtline
      rw [toText, clauseTexts, clauseTexts, String.intercalate_singleton, hleaf, htext,
        if_neg Bool.false_ne_true, Occurrence.sign, String.empty_append]
  | group ((_, _) :: (_, _) :: _) => simp [outline, clauseOutlines] at hgroup
  | group [] | hasValue _ _ | range _ _ _ | wildcard _ _ => cases hgroup

/-- The outline of a predicate and the clauses that its text is read as. -/
theorem outline_rootClauses (p : Predicate) :
    p.outline = .group (clauseOutlines p.rootClauses) ∨
      ∃ text, p.outline = .leaf text ∧
        clauseOutlines p.rootClauses = [(.should, .leaf text)] := by
  cases p with
  | group clauses => exact .inl rfl
  | _ => exact .inr ⟨_, rfl, rfl⟩

/-- The text of readable predicates says all of their groups: two of them have one text exactly when
they have one outline, or when one is a leaf and the other the group of which a leaf of that text is
the only clause and should hold. -/
theorem toText_eq_iff_outline {p q : Predicate} (hp : p.IsReadable) (hq : q.IsReadable) :
    p.toText = q.toText ↔
      p.outline = q.outline ∨ p.outline.IsOnlyClauseOf q.outline ∨
        q.outline.IsOnlyClauseOf p.outline := by
  constructor
  · intro hsame
    have hclauses := clauseOutlines_of_toText_eq hp hq hsame
    rcases outline_rootClauses p with hpRoot | ⟨text, hpRoot, hpClauses⟩ <;>
      rcases outline_rootClauses q with hqRoot | ⟨text', hqRoot, hqClauses⟩
    · exact .inl (by rw [hpRoot, hqRoot, hclauses])
    · exact .inr (.inr ⟨text', hqRoot, by rw [hpRoot, hclauses, hqClauses]⟩)
    · exact .inr (.inl ⟨text, hpRoot, by rw [hqRoot, ← hclauses, hpClauses]⟩)
    · rw [hpClauses, hqClauses] at hclauses
      obtain rfl : text = text' := by simpa using hclauses
      exact .inl (hpRoot.trans hqRoot.symm)
  · rintro (hsame | ⟨text, hleaf, hgroup⟩ | ⟨text, hleaf, hgroup⟩)
    · exact (toText_of_outline_eq hsame).1
    · rw [(eq_leaf_of_outline_eq hleaf).1, toText_of_onlyClause hgroup]
    · rw [(eq_leaf_of_outline_eq hleaf).1, toText_of_onlyClause hgroup]

/-- A group inside a group, written with two kinds of leaves; the same clauses without the inner
group; and a leaf alone and as the only clause of the root. -/
theorem toText_of_nested_groups :
    let nested := group [(.must, hasValue "A" (.bool true)),
      (.mustNot, group [(.should, hasValue "B" (.text "b")), (.should, wildcard "C" "c*")])]
    let respelled := group [(.must, wildcard "A" "yes"),
      (.mustNot, group [(.should, wildcard "B" "b"), (.should, hasValue "C" (.text "c*"))])]
    let flat := group [(.must, hasValue "A" (.bool true)), (.mustNot, hasValue "B" (.text "b")),
      (.should, wildcard "C" "c*")]
    let bare := wildcard "A" "yes"
    (nested.IsReadable ∧ respelled.IsReadable ∧ flat.IsReadable ∧ bare.IsReadable) ∧
      nested.toText = respelled.toText ∧ nested.toText ≠ flat.toText ∧
        (group [(.should, bare)]).toText = bare.toText := by
  intro nested respelled flat bare
  have hnested : nested.IsReadable := by
    decide
  have hrespelled : respelled.IsReadable := by
    decide
  have hflat : flat.IsReadable := by
    decide
  have hbare : bare.IsReadable := by
    decide
  have halone : (group [(.should, bare)]).IsReadable := by
    decide
  refine ⟨⟨hnested, hrespelled, hflat, hbare⟩, ?_, fun hsame => ?_, ?_⟩
  · exact (toText_eq_iff_outline hnested hrespelled).mpr (.inl rfl)
  · rcases (toText_eq_iff_outline hnested hflat).mp hsame with
      houtline | ⟨_, hleaf, -⟩ | ⟨_, hleaf, -⟩
    · cases houtline
    · cases hleaf
    · cases hleaf
  · exact (toText_eq_iff_outline halone hbare).mpr (.inr (.inr ⟨_, rfl, rfl⟩))

end Predicate

end ContentQuery
