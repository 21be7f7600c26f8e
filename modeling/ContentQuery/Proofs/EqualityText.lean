/-
# Equalities with a text and the filters that read like them

A text is quoted where its characters would end a term, and stands as it is otherwise. The quotes
keep apart what has to be kept apart inside a term; they do not tell a text from the other things
that can stand after a field and its colon: a comparison sign with its term, a pattern with its
star, and the words for null and the truth values. So an equality with a text can read like a
filter of another kind.

This module says exactly when. Beside a given filter it does when the lower case of the text needs
no quotes and is letter by letter what the other filter has after the colon. Beside all filters it
does when the lower case is bare and is one of the three words, begins or ends with a star, or
begins with the sign for above or below and goes on.
-/

import Mathlib
import ContentQuery.Proofs.Keyword
import ContentQuery.Proofs.LowerCase
import ContentQuery.Proofs.TermText
import ContentQuery.Proofs.Terminal
import ContentQuery.Query.Text

namespace ContentQuery

open Outcome

/-! ## Chains of one filter -/

/-- A source with one filter. -/
def Expr.filtered (typeName : String) (condition : Expr) : Expr :=
  (source typeName).call "Where" [lambda condition]

/-- The query of a predicate under options, with no directives of its own. -/
def Query.ofPredicate (p : Predicate) (options : QueryOptions) : Query :=
  { all with predicate := some p }.withOptions options

namespace Expr

theorem closed_item_member (name : String) (kind : MemberKind) :
    (item.member name kind).closed = false :=
  closed_eq_false_of_child (List.mem_singleton_self item) closed_item

theorem foldParts_item_member (name : String) (kind : MemberKind) :
    (item.member name kind).foldParts = item.member name kind :=
  foldParts_eq_self (closed_item_member name kind) (List.forall_mem_singleton.mpr foldParts_item)

theorem closed_field (name : String) : (field name).closed = false :=
  closed_item_member name .scalar

theorem foldParts_field (name : String) : (field name).foldParts = field name :=
  foldParts_item_member name .scalar

/-- What has a field and a literal as its children is left as it is, also as a function. -/
theorem foldParts_lambda_of_field_literal {e : Expr} {name : String} {value : Literal}
    (hchildren : e.children = [field name, literal value]) :
    (lambda e).foldParts = lambda e := by
  have hopen : e.closed = false := by
    refine closed_eq_false_of_child ?_ (closed_field name)
    rw [hchildren]
    exact List.mem_cons_self
  have hfold : e.foldParts = e := by
    refine foldParts_eq_self hopen ?_
    rw [hchildren]
    exact List.forall_mem_cons.mpr
      ⟨foldParts_field name, List.forall_mem_singleton.mpr (foldParts_literal value)⟩
  exact foldParts_eq_self (closed_eq_false_of_child (List.mem_singleton_self e) hopen)
    (List.forall_mem_singleton.mpr hfold)

/-- A filter on a source makes the query of its folded condition's predicate. -/
theorem compile_filtered_eq (typeName : String) (condition : Expr) (options : QueryOptions) :
    (filtered typeName condition).compile options =
      (fun p => Query.ofPredicate p.anchored options) <$>
        (lambda condition).foldParts.predicate := by
  let folded := (source typeName).call "Where" [(lambda condition).foldParts]
  have hchain : (filtered typeName condition).fold = folded := by
    rw [fold_eq_foldParts (mentionsItem_of_child List.mem_cons_self
      (mentionsItem_source typeName)), filtered, foldParts_call rfl, foldParts_source,
      List.map_singleton]
  rw [compile, hchain, predicate]
  show (do
    let draft ← Draft.start.addFilter (lambda condition).foldParts folded
    return (← draft.finish folded).withOptions options) = _
  rw [Draft.addFilter_eq]
  cases (lambda condition).foldParts.entry <;> rfl

/-- A condition that folding leaves as it is makes the query of its predicate. -/
theorem compile_filtered {condition : Expr} (typeName : String) (options : QueryOptions)
    (hfold : (lambda condition).foldParts = lambda condition) :
    (filtered typeName condition).compile options =
      (fun p => Query.ofPredicate p.anchored options) <$> condition.predicate := by
  have hlambda : (lambda condition).predicate = condition.predicate := by
    rw [predicate, entry, predicate]
  rw [compile_filtered_eq, hfold, hlambda]

end Expr

/-- Under the same options two predicates give the same text when they have the same text. -/
theorem Query.toText_ofPredicate_eq_iff (p q : Predicate) (options : QueryOptions) :
    (ofPredicate p options).toText = (ofPredicate q options).toText ↔ p.toText = q.toText :=
  String.append_left_inj (ofPredicate q options).directiveText

/-! ## Tests of a field -/

/-- The sign of a range that ends where a comparison says; being equal or different has none. -/
def Comparison.rangeSign? : Comparison → Option String
  | gt => some ">"
  | ge => some ">="
  | lt => some "<"
  | le => some "<="
  | eq | ne => none

/-- The tests of a field that are no equality with a text. -/
inductive OtherTest
  | compare (op : Comparison) (value : Literal) (hop : op ≠ .eq)
  | startsWith (pattern : String)
  | endsWith (pattern : String)
  | contains (pattern : String)
  | isNull
  | isBool (value : Bool)

namespace OtherTest

/-- The condition of a test. -/
def condition (name : String) : OtherTest → Expr
  | compare op value _ => .compare op (.field name) (.literal value)
  | startsWith pattern => (Expr.field name).startsWith (.literal (.text pattern))
  | endsWith pattern => (Expr.field name).endsWith (.literal (.text pattern))
  | contains pattern => (Expr.field name).contains (.literal (.text pattern))
  | isNull => .compare .eq (.field name) (.literal .null)
  | isBool value => .compare .eq (.field name) (.literal (.bool value))

/-- What stands after the field and the colon in the text of a test. A test for being different has
no such text: its text starts with a sign of exclusion, before the field. -/
def written? : OtherTest → Option String
  | compare op value _ => do return (← op.rangeSign?) ++ (← value.comparable?).toTerm
  | startsWith pattern => some (pattern ++ "*")
  | endsWith pattern => some ("*" ++ pattern)
  | contains pattern => some ("*" ++ pattern ++ "*")
  | isNull => some "null"
  | isBool value => some (if value then "yes" else "no")

theorem foldParts_condition (name : String) (test : OtherTest) :
    (Expr.lambda (test.condition name)).foldParts = .lambda (test.condition name) := by
  cases test <;> exact Expr.foldParts_lambda_of_field_literal rfl

/-- The text of a test is the field, a colon and what the test has there, except that a test for
being different starts with its sign. -/
theorem text_of_predicate {name : String} {test : OtherTest} {p : Predicate}
    (hp : (test.condition name).predicate = .ok p) :
    (∃ written, test.written? = some written ∧ p.anchored.toText = name ++ ":" ++ written) ∨
      (test.written? = none ∧ ∃ rest, p.anchored.toText = "-" ++ (name ++ ":" ++ rest)) := by
  cases test with
  | compare op value hop =>
      obtain ⟨entry, hentry, rfl⟩ := map_eq_ok.mp hp
      obtain ⟨p, hcompare, rfl⟩ := map_eq_ok.mp hentry
      obtain ⟨field, effective, operand, form, hoperands, hform, hp⟩ :=
        Predicate.ofComparison_eq_ok.mp hcompare
      obtain ⟨rfl, rfl, rfl⟩ : name = field ∧ op = effective ∧ value = operand := by
        cases Option.some.inj hoperands
        exact ⟨rfl, rfl, rfl⟩
      unfold Predicate.ofComparison? at hp
      obtain ⟨-, hp⟩ := Option.ite_none_left_eq_some.mp hp
      have hwritten : (compare op value hop).written? =
          op.rangeSign?.map fun sign => sign ++ form.toTerm := by
        rw [written?, hform]
        cases op <;> rfl
      rw [hwritten]
      cases op with
      | eq => exact (hop rfl).elim
      | ne =>
          obtain rfl := Option.some.inj hp
          refine .inr ⟨rfl, form.toTerm ++ (" " ++ ("+" ++ Predicate.matchAll.toText)), ?_⟩
          show " ".intercalate ["-" ++ (name ++ ":" ++ form.toTerm),
            "+" ++ Predicate.matchAll.toText] = _
          rw [String.intercalate_cons_cons, String.intercalate_singleton]
          simp only [String.append_assoc]
      | gt | ge | lt | le =>
          obtain ⟨-, hp⟩ := Option.ite_none_left_eq_some.mp hp
          obtain rfl := Option.some.inj hp
          exact .inl ⟨_, rfl, rfl⟩
  | isBool value => exact .inl ⟨_, rfl, by rw [← Except.ok.inj hp]; cases value <;> rfl⟩
  | startsWith pattern =>
      rw [← Except.ok.inj hp]
      refine .inl ⟨_, rfl, ?_⟩
      show name ++ ":" ++ ("" ++ pattern ++ "*") = name ++ ":" ++ (pattern ++ "*")
      rw [String.empty_append]
  | endsWith pattern =>
      rw [← Except.ok.inj hp]
      refine .inl ⟨_, rfl, ?_⟩
      show name ++ ":" ++ ("*" ++ pattern ++ "") = name ++ ":" ++ ("*" ++ pattern)
      rw [String.append_empty]
  | contains pattern | isNull => exact .inl ⟨_, rfl, by rw [← Except.ok.inj hp]; rfl⟩

end OtherTest

/-! ## What a test writes after the colon -/

namespace Text

/-- Whether a bare text reads like a test other than an equality with a text: as one of the three
words, as a pattern, or as a comparison sign with a term. A sign alone has no term. -/
def readsAsTest (text : List Char) : Bool :=
  ["null".toList, "yes".toList, "no".toList].contains text ||
    text.head? == some '*' || text.getLast? == some '*' ||
    (1 < text.length && (text.head? == some '>' || text.head? == some '<'))

/-- A quoted text begins and ends with a quote, so it reads like nothing else. -/
theorem readsAsTest_term_of_needsQuotes {text : String}
    (hquotes : needsQuotes text.toList = true) : readsAsTest (term text).toList = false := by
  have hlast (inner : List Char) : ('\x27' :: inner ++ ['\x27']).getLast? = some '\x27' :=
    List.getLast?_concat
  rw [term, if_pos hquotes, String.toList_ofList, readsAsTest, hlast]
  simp

theorem term_of_bare {text : String} (hbare : needsQuotes text.toList = false) :
    term text = text := by
  rw [term, hbare]
  rfl

/-- What is left of a bare text without its first character is bare, unless nothing is left. -/
theorem needsQuotes_tail {c : Char} {rest : List Char} (hbare : needsQuotes (c :: rest) = false)
    (hrest : rest ≠ []) : needsQuotes rest = false := by
  simp only [needsQuotes, List.any_cons, Bool.or_eq_false_iff] at hbare ⊢
  exact ⟨List.isEmpty_eq_false_iff.mpr hrest, hbare.2.2⟩

end Text

namespace OtherTest

/-- A comparison writes a sign and a term, and the term is not empty. -/
theorem readsAsTest_sign_term {op : Comparison} {sign : String} (hsign : op.rangeSign? = some sign)
    (value : Literal) : Text.readsAsTest (sign ++ value.toTerm).toList = true := by
  obtain ⟨c, rest, hterm⟩ := List.exists_cons_of_ne_nil value.toTerm_ne_nil
  rw [String.toList_append, hterm]
  cases op with
  | eq | ne => cases hsign
  | gt | ge | lt | le =>
      obtain rfl := Option.some.inj hsign
      simp [Text.readsAsTest]

theorem readsAsTest_of_written? {test : OtherTest} {written : String}
    (hwritten : test.written? = some written) : Text.readsAsTest written.toList = true := by
  cases test with
  | compare op value hop =>
      obtain ⟨sign, hsign, hrest⟩ := Option.bind_eq_some_iff.mp hwritten
      obtain ⟨form, -, hwritten⟩ := Option.bind_eq_some_iff.mp hrest
      rw [← Option.some.inj hwritten]
      exact readsAsTest_sign_term hsign form
  | startsWith pattern =>
      rw [← Option.some.inj hwritten, String.toList_append, Text.readsAsTest]
      simp
  | endsWith pattern | contains pattern =>
      rw [← Option.some.inj hwritten]
      simp [Text.readsAsTest]
  | isNull =>
      rw [← Option.some.inj hwritten]
      decide
  | isBool value =>
      rw [← Option.some.inj hwritten]
      cases value <;> decide

/-- The term of a text is what another test writes exactly when the text is bare and is that. -/
theorem term_eq_written_iff {test : OtherTest} {text written : String}
    (hwritten : test.written? = some written) :
    Text.term text = written ↔ Text.needsQuotes text.toList = false ∧ written = text := by
  constructor
  · intro hterm
    have hbare : Text.needsQuotes text.toList = false := by
      rw [← Bool.not_eq_true]
      intro hquotes
      have hreads := readsAsTest_of_written? hwritten
      rw [← hterm, Text.readsAsTest_term_of_needsQuotes hquotes] at hreads
      cases hreads
    exact ⟨hbare, hterm.symm.trans (Text.term_of_bare hbare)⟩
  · rintro ⟨hbare, rfl⟩
    exact Text.term_of_bare hbare

/-- A field and a colon are never read after a sign of exclusion. -/
theorem exclusion_ne (name first second : List Char) :
    name ++ ':' :: first ≠ '-' :: (name ++ ':' :: second) := by
  induction name with
  | nil =>
      intro heq
      cases heq
  | cons c rest ih =>
      intro heq
      -- The name begins with the sign, so without it the same name stands behind a sign again.
      obtain ⟨rfl, hrest⟩ := List.cons.inj heq
      exact ih hrest

/-- A comparison with a bare text in lower case writes its sign and the text. A text has an order,
so there always is such a comparison. -/
theorem exists_written_of_sign {sign : Char} {text : List Char} (name : String) (op : Comparison)
    (hop : op ≠ .eq) (hsign : op.rangeSign? = some (String.ofList [sign]))
    (hlower : ∀ c ∈ text, Text.IsLower c) (hbare : Text.needsQuotes text = false) :
    ∃ test : OtherTest, (∃ p, (test.condition name).predicate = .ok p) ∧
      test.written? = some (String.ofList (sign :: text)) := by
  refine ⟨compare op (.text (String.ofList text)) hop, ?_, ?_⟩
  · cases op <;> exact ⟨_, rfl⟩
  · have hterm : Text.term (String.ofList text) = String.ofList text :=
      Text.term_of_bare (by rwa [String.toList_ofList])
    rw [written?, hsign, Literal.comparable?, Text.lowerCase_of_isLower hlower]
    show some (String.ofList [sign] ++ Text.term (String.ofList text)) = _
    rw [hterm, ← String.ofList_append]
    rfl

/-- Each bare text in lower case that reads like a test is what some test writes. -/
theorem exists_written_of_readsAsTest {text : List Char} (name : String)
    (hlower : ∀ c ∈ text, Text.IsLower c) (hbare : Text.needsQuotes text = false)
    (hreads : Text.readsAsTest text = true) :
    ∃ test : OtherTest, (∃ p, (test.condition name).predicate = .ok p) ∧
      test.written? = some (String.ofList text) := by
  simp only [Text.readsAsTest, Bool.or_eq_true, List.contains_iff_mem, beq_iff_eq,
    Bool.and_eq_true, decide_eq_true_eq, List.mem_cons, List.not_mem_nil, or_false] at hreads
  rcases hreads with ((hword | hstar) | hstar) | ⟨hlength, hsign⟩
  · rcases hword with rfl | rfl | rfl
    · exact ⟨isNull, ⟨_, rfl⟩, rfl⟩
    · exact ⟨isBool true, ⟨_, rfl⟩, rfl⟩
    · exact ⟨isBool false, ⟨_, rfl⟩, rfl⟩
  · obtain ⟨rest, rfl⟩ := List.head?_eq_some_iff.mp hstar
    refine ⟨endsWith (String.ofList rest), ⟨_, rfl⟩, ?_⟩
    rw [written?, ← List.singleton_append, String.ofList_append]
  · obtain ⟨rest, rfl⟩ := List.getLast?_eq_some_iff.mp hstar
    refine ⟨startsWith (String.ofList rest), ⟨_, rfl⟩, ?_⟩
    rw [written?, String.ofList_append]
  · cases text with
    | nil => cases hlength
    | cons c rest =>
        have hrest : rest ≠ [] := List.ne_nil_of_length_pos (Nat.lt_of_succ_lt_succ hlength)
        have hbareRest := Text.needsQuotes_tail hbare hrest
        have hlowerRest (d : Char) (hd : d ∈ rest) : Text.IsLower d :=
          hlower d (List.mem_cons_of_mem c hd)
        rcases hsign with hsign | hsign
        · obtain rfl := Option.some.inj hsign
          exact exists_written_of_sign name .gt nofun rfl hlowerRest hbareRest
        · obtain rfl := Option.some.inj hsign
          exact exists_written_of_sign name .lt nofun rfl hlowerRest hbareRest

end OtherTest

/-! ## Equalities beside other tests -/

/-- The condition that a field equals a text. -/
def Expr.equalsText (name text : String) : Expr :=
  .compare .eq (.field name) (.literal (.text text))

theorem Expr.compile_equalsText (typeName name text : String) (options : QueryOptions) :
    (filtered typeName (equalsText name text)).compile options =
      .ok (Query.ofPredicate (.hasValue name (.text (Text.lowerCase text))) options) := by
  rw [compile_filtered typeName options (foldParts_lambda_of_field_literal rfl)]
  rfl

namespace OtherTest

/-- A test compiles when it has a predicate, to the query of that. -/
theorem compile_eq_ok_iff {test : OtherTest} {typeName name : String} {options : QueryOptions}
    {query : Query} :
    (Expr.filtered typeName (test.condition name)).compile options = .ok query ↔
      ∃ p, (test.condition name).predicate = .ok p ∧
        Query.ofPredicate p.anchored options = query := by
  rw [Expr.compile_filtered typeName options (test.foldParts_condition name), map_eq_ok]

/-- An equality with a text reads like a test exactly when its term is what the test writes. -/
theorem equality_text_eq_iff {name text : String} {test : OtherTest} {p : Predicate}
    {options : QueryOptions} (hp : (test.condition name).predicate = .ok p) :
    (Query.ofPredicate (.hasValue name (.text text)) options).toText =
        (Query.ofPredicate p.anchored options).toText ↔
      Text.needsQuotes text.toList = false ∧ test.written? = some text := by
  rw [Query.toText_ofPredicate_eq_iff]
  show name ++ ":" ++ Text.term text = p.anchored.toText ↔ _
  rcases text_of_predicate hp with ⟨written, hwritten, htext⟩ | ⟨hnone, rest, htext⟩
  · rw [htext, String.append_right_inj, term_eq_written_iff hwritten, hwritten, Option.some_inj]
  · rw [htext, hnone]
    refine iff_of_false (fun hsame => ?_) (fun hboth => nomatch hboth.2)
    refine exclusion_ne name.toList (Text.term text).toList rest.toList ?_
    have hlist := congrArg String.toList hsame
    simpa using hlist

end OtherTest

/-- An equality with a text compiles, and its text is that of another test of the field exactly
when the lower case of the text is bare and is what the test writes after the colon. Such a test
exists exactly when the lower case is bare and is one of the three words, begins or ends with a
star, or begins with the sign for above or below and goes on. -/
theorem Query.equality_reads_as_test_iff (typeName name text : String) (options : QueryOptions) :
    ∃ equality,
      (Expr.filtered typeName (Expr.equalsText name text)).compile options = .ok equality ∧
      (∀ (test : OtherTest) (query : Query),
        (Expr.filtered typeName (test.condition name)).compile options = .ok query →
        (equality.toText = query.toText ↔
          Text.needsQuotes (Text.lowerCase text).toList = false ∧
            test.written? = some (Text.lowerCase text))) ∧
      ((∃ (test : OtherTest) (query : Query),
          (Expr.filtered typeName (test.condition name)).compile options = .ok query ∧
            equality.toText = query.toText) ↔
        Text.needsQuotes (Text.lowerCase text).toList = false ∧
          Text.readsAsTest (Text.lowerCase text).toList = true) := by
  refine ⟨_, Expr.compile_equalsText typeName name text options, ?_, ?_, ?_⟩
  · intro test query hquery
    obtain ⟨p, hp, rfl⟩ := OtherTest.compile_eq_ok_iff.mp hquery
    exact OtherTest.equality_text_eq_iff hp
  · rintro ⟨test, query, hquery, hsame⟩
    obtain ⟨p, hp, rfl⟩ := OtherTest.compile_eq_ok_iff.mp hquery
    obtain ⟨hbare, hwritten⟩ := (OtherTest.equality_text_eq_iff hp).mp hsame
    exact ⟨hbare, OtherTest.readsAsTest_of_written? hwritten⟩
  · rintro ⟨hbare, hreads⟩
    obtain ⟨test, ⟨p, hp⟩, hwritten⟩ := OtherTest.exists_written_of_readsAsTest name
      (fun _ => Text.isLower_of_mem_lowerCase) hbare hreads
    rw [String.ofList_toList] at hwritten
    exact ⟨test, _, OtherTest.compile_eq_ok_iff.mpr ⟨p, hp, rfl⟩,
      (OtherTest.equality_text_eq_iff hp).mpr ⟨hbare, hwritten⟩⟩

/-- No other test of a name reads like the name being open. -/
theorem Query.open_reads_as_no_test :
    ∃ equality,
      (Expr.filtered "User" (Expr.equalsText "Name" "Open")).compile .default = .ok equality ∧
      ¬ ∃ (test : OtherTest) (query : Query),
        (Expr.filtered "User" (test.condition "Name")).compile .default = .ok query ∧
          equality.toText = query.toText := by
  obtain ⟨equality, hcompile, -, hexists⟩ :=
    Query.equality_reads_as_test_iff "User" "Name" "Open" .default
  refine ⟨equality, hcompile, fun hother => ?_⟩
  have hreads : Text.readsAsTest (Text.lowerCase "Open").toList = false := by
    cbv
  rw [hexists, hreads] at hother
  exact Bool.false_ne_true hother.2

/-- An equality of a user's name with a text and a test of the name compile to queries of one
text. -/
def OtherTest.ReadsLike (test : OtherTest) (text : String) : Prop :=
  ∃ equality query,
    (Expr.filtered "User" (Expr.equalsText "Name" text)).compile .default = .ok equality ∧
      (Expr.filtered "User" (test.condition "Name")).compile .default = .ok query ∧
        equality.toText = query.toText

theorem OtherTest.readsLike_of_written? {test : OtherTest} {text : String} {p : Predicate}
    (hp : (test.condition "Name").predicate = .ok p)
    (hbare : Text.needsQuotes (Text.lowerCase text).toList = false)
    (hwritten : test.written? = some (Text.lowerCase text)) : test.ReadsLike text :=
  ⟨_, _, Expr.compile_equalsText .., compile_eq_ok_iff.mpr ⟨p, hp, rfl⟩,
    (equality_text_eq_iff hp).mpr ⟨hbare, hwritten⟩⟩

/-- Texts that read like a test for null, a truth value, an order and the two kinds of pattern. -/
theorem Query.texts_read_as_tests :
    OtherTest.isNull.ReadsLike "null" ∧ (OtherTest.isBool true).ReadsLike "Yes" ∧
      (OtherTest.compare .gt (.int 5) nofun).ReadsLike ">5" ∧
      (OtherTest.startsWith "a").ReadsLike "a*" ∧ (OtherTest.contains "a").ReadsLike "*a*" := by
  refine ⟨?_, ?_, ?_, ?_, ?_⟩ <;>
    exact OtherTest.readsLike_of_written? (by cbv) (by cbv) (by cbv)

end ContentQuery
