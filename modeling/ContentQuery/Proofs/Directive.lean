/-
# The directives of a query text

The text of a query is the text of its predicate and then, for each directive, a blank, a point and
a word. Where no directive starts inside the predicate or inside the name of a sort key, the text
determines both: the predicate's text ends where the first directive starts, each directive ends
where the next one starts, and no two directives have the same word.
-/

import ContentQuery.Proofs.DirectiveStart
import ContentQuery.Query.Text

namespace ContentQuery

open Text

/-- A directive in the text of a query. -/
inductive Directive
  | allVersions
  | countOnly
  | top (count : UInt32)
  | skip (count : UInt32)
  | sort (key : SortKey)
  | autofiltersOff
  | lifespanOn
  | quick

namespace Directive

/-- What a directive has after the blank and the point. -/
def body : Directive → String
  | allVersions => "ALLVERSIONS"
  | countOnly => "COUNTONLY"
  | top count => "TOP:" ++ toString count.toNat
  | skip count => "SKIP:" ++ toString count.toNat
  | sort ⟨field, false⟩ => "SORT:" ++ field
  | sort ⟨field, true⟩ => "REVERSESORT:" ++ field
  | autofiltersOff => "AUTOFILTERS:OFF"
  | lifespanOn => "LIFESPAN:ON"
  | quick => "QUICK"

/-- A directive as it stands in the text. -/
def written (directive : Directive) : List Char := ' ' :: '.' :: directive.body.toList

/-- No directive starts in the name of a field that is sorted by. -/
def IsPlain : Directive → Prop
  | sort key => holdsDirective key.field.toList = false
  | _ => True

/-- The key of a directive that sorts. -/
def sortKey? : Directive → Option SortKey
  | sort key => some key
  | _ => none

/-! ## Words of directives -/

theorem toDigits_toNat_inj {m n : UInt32}
    (hsame : Nat.toDigits 10 m.toNat = Nat.toDigits 10 n.toNat) : m = n := by
  have hnumber := congrArg (Nat.ofDigitChars 10 · 0) hsame
  rw [Nat.ofDigitChars_ten_toDigits, Nat.ofDigitChars_ten_toDigits] at hnumber
  exact UInt32.toNat_inj.mp hnumber

/-- No two directives have the same word. -/
theorem body_inj {first second : Directive} (hsame : first.body = second.body) :
    first = second := by
  have hletters := congrArg String.toList hsame
  -- Two different words differ in one of their letters; the same word has the same value after it.
  obtain _ | _ | _ | _ | ⟨_, _ | _⟩ | _ | _ | _ := first <;>
    obtain _ | _ | _ | _ | ⟨_, _ | _⟩ | _ | _ | _ := second <;>
    simp [body] at hletters ⊢
  case top.top m n => exact toDigits_toNat_inj hletters
  case skip.skip m n => exact toDigits_toNat_inj hletters
  case sort.false.sort.false name name' => exact String.toList_inj.mp hletters
  case sort.true.sort.true name name' => exact String.toList_inj.mp hletters

/-- A word begins with a capital. -/
theorem startsDirective_written (directive : Directive) (after : List Char) :
    startsDirective (directive.written ++ after) = true := by
  obtain _ | _ | _ | _ | ⟨_, _ | _⟩ | _ | _ | _ := directive <;>
    simp [written, body, startsDirective, Char.isUpper]

theorem holdsDirective_number (name : String) (count : UInt32) (hname : ' ' ∉ name.toList) :
    holdsDirective (name ++ toString count.toNat).toList = false := by
  rw [String.toList_append, holdsDirective_append_of_noBlank hname, Nat.toString_eq_repr,
    Nat.toList_repr]
  exact (allNumeric_toDigits _).noCapital.holdsDirective_eq_false

/-- No directive starts inside a word, unless one starts in the name of a field. -/
theorem holdsDirective_body {directive : Directive} (hplain : directive.IsPlain) :
    holdsDirective directive.body.toList = false := by
  match directive, hplain with
  | allVersions, _ | countOnly, _ | autofiltersOff, _ | lifespanOn, _ | quick, _ => decide
  | top count, _ | skip count, _ => exact holdsDirective_number _ count (by decide)
  | sort ⟨field, false⟩, hplain | sort ⟨field, true⟩, hplain =>
      rw [body, String.toList_append, holdsDirective_append_of_noBlank (by decide)]
      exact hplain

/-! ## Runs of directives -/

theorem directives_start (directives : List Directive) :
    directives.flatMap written = [] ∨ startsDirective (directives.flatMap written) = true := by
  cases directives with
  | nil => exact .inl rfl
  | cons directive rest => exact .inr (startsDirective_written directive _)

/-- A run of directives is read back in one way. -/
theorem directives_inj {first second : List Directive}
    (hfirst : ∀ directive ∈ first, directive.IsPlain)
    (hsecond : ∀ directive ∈ second, directive.IsPlain)
    (hsame : first.flatMap written = second.flatMap written) : first = second := by
  induction first generalizing second with
  | nil =>
      cases second with
      | nil => rfl
      | cons directive rest => cases hsame
  | cons directive rest ih =>
      cases second with
      | nil => cases hsame
      | cons directive' rest' =>
          obtain ⟨hplain, hrest⟩ := List.forall_mem_cons.mp hfirst
          obtain ⟨hplain', hrest'⟩ := List.forall_mem_cons.mp hsecond
          -- The first word ends where the second directive starts, in both runs.
          simp only [List.flatMap_cons, written, List.cons_append, List.cons.injEq,
            true_and] at hsame
          obtain ⟨hbody, hafter⟩ := append_directives_inj (holdsDirective_body hplain)
            (holdsDirective_body hplain') (directives_start rest) (directives_start rest') hsame
          rw [body_inj (String.toList_inj.mp hbody), ih hrest hrest' hafter]

end Directive

/-! ## Texts of queries -/

namespace Query

/-- A directive that is written when a condition holds. -/
def flagged (holds : Bool) (directive : Directive) : List Directive :=
  if holds then [directive] else []

/-- The directives of a query in their order. -/
def directives (query : Query) : List Directive :=
  flagged query.allVersions .allVersions
    ++ flagged query.countOnly .countOnly
    ++ query.top.toList.map .top
    ++ query.skip.toList.map .skip
    ++ query.sort.map .sort
    ++ flagged (query.autofilters == .disabled) .autofiltersOff
    ++ flagged (query.lifespan == .enabled) .lifespanOn
    ++ flagged (query.executionMode == .quick) .quick

theorem toList_flagText (holds : Bool) {text : String} (directive : Directive)
    (htext : text.toList = directive.written) :
    (flagText holds text).toList = (flagged holds directive).flatMap Directive.written := by
  cases holds with
  | false => rfl
  | true => simp [flagText, flagged, htext]

theorem toList_numberText (number : Option UInt32) {start : String}
    (directive : UInt32 → Directive)
    (hstart : ∀ count, (start ++ toString count.toNat).toList = (directive count).written) :
    (numberText start number).toList =
      (number.toList.map directive).flatMap Directive.written := by
  cases number with
  | none => rfl
  | some count => simp [numberText, ← hstart]

theorem toList_sortText (keys : List SortKey) :
    (String.join (keys.map SortKey.toText)).toList =
      (keys.map Directive.sort).flatMap Directive.written := by
  have hkey : ∀ key : SortKey, key.toText.toList = (Directive.sort key).written := by
    rintro ⟨field, _ | _⟩ <;> simp [SortKey.toText, Directive.written, Directive.body]
  simp only [String.toList_join, List.flatMap_map, hkey]

/-- The text after the predicate is that of the directives, one after the other. -/
theorem toList_directiveText (query : Query) :
    query.directiveText.toList = query.directives.flatMap Directive.written := by
  have htop : ∀ count, (" .TOP:" ++ toString count.toNat).toList =
      (Directive.top count).written := by
    simp [Directive.written, Directive.body]
  have hskip : ∀ count, (" .SKIP:" ++ toString count.toNat).toList =
      (Directive.skip count).written := by
    simp [Directive.written, Directive.body]
  rw [directiveText, directives]
  simp only [String.toList_append, List.flatMap_append, toList_sortText]
  rw [toList_flagText query.allVersions .allVersions rfl,
    toList_flagText query.countOnly .countOnly rfl,
    toList_numberText query.top .top htop,
    toList_numberText query.skip .skip hskip,
    toList_flagText (query.autofilters == .disabled) .autofiltersOff rfl,
    toList_flagText (query.lifespan == .enabled) .lifespanOn rfl,
    toList_flagText (query.executionMode == .quick) .quick rfl]

/-- What a query must be to write a directive. -/
def Writes (query : Query) : Directive → Prop
  | .allVersions => query.allVersions = true
  | .countOnly => query.countOnly = true
  | .top count => query.top = some count
  | .skip count => query.skip = some count
  | .sort key => key ∈ query.sort
  | .autofiltersOff => query.autofilters = .disabled
  | .lifespanOn => query.lifespan = .enabled
  | .quick => query.executionMode = .quick

theorem mem_directives {query : Query} {directive : Directive} :
    directive ∈ query.directives ↔ query.Writes directive := by
  cases directive <;> simp [directives, flagged, Writes]

/-- The sort keys stand among the directives in their order. -/
theorem filterMap_sortKey?_directives (query : Query) :
    query.directives.filterMap Directive.sortKey? = query.sort := by
  have hflag (holds : Bool) {directive : Directive} (hnone : directive.sortKey? = none) :
      (flagged holds directive).filterMap Directive.sortKey? = [] := by
    cases holds with
    | false => rfl
    | true => simp [flagged, hnone]
  have hnumber (number : Option UInt32) {directive : UInt32 → Directive}
      (hnone : ∀ count, (directive count).sortKey? = none) :
      (number.toList.map directive).filterMap Directive.sortKey? = [] := by
    cases number with
    | none => rfl
    | some count => simp [hnone]
  have hkeys : (query.sort.map Directive.sort).filterMap Directive.sortKey? = query.sort := by
    rw [List.filterMap_map]
    exact List.filterMap_some
  simp only [directives, List.filterMap_append, hkeys]
  rw [hflag _ rfl, hflag _ rfl, hnumber _ fun _ => rfl, hnumber _ fun _ => rfl, hflag _ rfl,
    hflag _ rfl, hflag _ rfl]
  simp

/-! ## Reading a text back -/

/-- No directive starts in what stands before the directives, nor in the name of a sort key. -/
structure IsSeparable (query : Query) : Prop where
  predicate : holdsDirective query.predicateText.toList = false
  sort : ∀ key ∈ query.sort, holdsDirective key.field.toList = false

theorem IsSeparable.isPlain_of_mem_directives {query : Query} (hquery : query.IsSeparable) :
    ∀ directive ∈ query.directives, directive.IsPlain := by
  intro directive hdirective
  have hwrites := mem_directives.mp hdirective
  cases directive with
  | sort key => exact hquery.sort key hwrites
  | _ => trivial

/-- The text of a separable query is read back as the text of its predicate and its directives. -/
theorem IsSeparable.directives_eq {q r : Query} (hq : q.IsSeparable) (hr : r.IsSeparable)
    (hsame : q.toText = r.toText) :
    q.predicateText = r.predicateText ∧ q.directives = r.directives := by
  have hletters := congrArg String.toList hsame
  rw [toText, toText, String.toList_append, String.toList_append, toList_directiveText,
    toList_directiveText] at hletters
  obtain ⟨hpredicate, hrest⟩ := append_directives_inj hq.predicate hr.predicate
    (Directive.directives_start _) (Directive.directives_start _) hletters
  exact ⟨String.toList_inj.mp hpredicate, Directive.directives_inj hq.isPlain_of_mem_directives
    hr.isPlain_of_mem_directives hrest⟩

/-- Queries of the same directives have the same sort keys and write the same. -/
theorem written_eq_of_directives_eq {q r : Query} (hsame : q.directives = r.directives) :
    q.sort = r.sort ∧ ∀ directive, q.Writes directive ↔ r.Writes directive := by
  refine ⟨?_, fun directive => ?_⟩
  · rw [← filterMap_sortKey?_directives q, hsame, filterMap_sortKey?_directives]
  · rw [← mem_directives, hsame, mem_directives]

/-! ## Plain queries -/

/-- No directive starts in what a query has of its own words: in the names and patterns of its
predicate and the names of its sort keys. -/
def IsPlain (query : Query) : Prop :=
  (∀ p ∈ query.predicate, p.IsPlain) ∧
    ∀ key ∈ query.sort, holdsDirective key.field.toList = false

instance (query : Query) : Decidable query.IsPlain := inferInstanceAs (Decidable (_ ∧ _))

/-- A plain query that came out of a chain is separable. -/
theorem isSeparable_of_isPlain {chain : Expr} {options : QueryOptions} {query : Query}
    (hcompile : chain.compile options = .ok query) (hplain : query.IsPlain) :
    query.IsSeparable := by
  refine ⟨?_, hplain.2⟩
  rw [predicateText]
  cases hp : query.predicate with
  | none =>
      have hclean := Predicate.isClean_toText Predicate.isWellShaped_matchAll (by decide)
      exact hclean.holdsDirective_eq_false
  | some p =>
      have hclean := Predicate.isClean_toText (isWellShaped_of_compile hcompile hp)
        (hplain.1 p hp)
      exact hclean.holdsDirective_eq_false

/-- What the text of a plain query says can be read back: the text of the predicate, the sort keys
in their order, and whether each directive is there. -/
theorem written_eq_of_toText_eq {chain chain' : Expr} {options options' : QueryOptions}
    {q r : Query} (hq : chain.compile options = .ok q) (hr : chain'.compile options' = .ok r)
    (hqPlain : q.IsPlain) (hrPlain : r.IsPlain) (hsame : q.toText = r.toText) :
    q.predicateText = r.predicateText ∧ q.sort = r.sort ∧
      ∀ directive, q.Writes directive ↔ r.Writes directive := by
  obtain ⟨hpredicate, hdirectives⟩ := (isSeparable_of_isPlain hq hqPlain).directives_eq
    (isSeparable_of_isPlain hr hrPlain) hsame
  exact ⟨hpredicate, written_eq_of_directives_eq hdirectives⟩

/-! ## What a text says -/

/-- A blank of the predicate's text never stands before a point, and the name of a sort key has no
white space. Nothing is asked of where the query comes from. -/
structure IsUnmixed (query : Query) : Prop where
  predicate : ¬[' ', '.'] <:+: query.predicateText.toList
  sort : ∀ key ∈ query.sort, key.field.toList.any isWhiteSpace = false

/-- Two queries say the same where their texts do: of the switches only what differs from the
server's default is said, and an absent predicate is the one that holds of every item. -/
structure SaysLike (q r : Query) : Prop where
  predicate : q.predicateText = r.predicateText
  allVersions : q.allVersions = r.allVersions
  countOnly : q.countOnly = r.countOnly
  top : q.top = r.top
  skip : q.skip = r.skip
  sort : q.sort = r.sort
  autofilters : q.autofilters = .disabled ↔ r.autofilters = .disabled
  lifespan : q.lifespan = .enabled ↔ r.lifespan = .enabled
  executionMode : q.executionMode = .quick ↔ r.executionMode = .quick

theorem IsUnmixed.isSeparable {query : Query} (hquery : query.IsUnmixed) : query.IsSeparable := by
  refine ⟨holdsDirective_of_no_blankPoint hquery.predicate, fun key hkey => ?_⟩
  have hblank : ' ' ∉ key.field.toList := fun hmem =>
    List.any_eq_false.mp (hquery.sort key hkey) ' ' hmem (by decide)
  rw [← List.append_nil key.field.toList, holdsDirective_append_of_noBlank hblank]
  rfl

theorem SaysLike.of_writes {q r : Query} (hpredicate : q.predicateText = r.predicateText)
    (hsort : q.sort = r.sort) (hwrites : ∀ directive, q.Writes directive ↔ r.Writes directive) :
    q.SaysLike r where
  predicate := hpredicate
  allVersions := Bool.eq_iff_iff.mpr (hwrites .allVersions)
  countOnly := Bool.eq_iff_iff.mpr (hwrites .countOnly)
  top := Option.ext fun count => hwrites (.top count)
  skip := Option.ext fun count => hwrites (.skip count)
  sort := hsort
  autofilters := hwrites .autofiltersOff
  lifespan := hwrites .lifespanOn
  executionMode := hwrites .quick

/-- Nothing else of a query is in its text. -/
theorem SaysLike.toText_eq {q r : Query} (hsame : q.SaysLike r) : q.toText = r.toText := by
  have hautofilters : (q.autofilters == .disabled) = (r.autofilters == .disabled) := by
    rw [Bool.eq_iff_iff, beq_iff_eq, beq_iff_eq, hsame.autofilters]
  have hlifespan : (q.lifespan == .enabled) = (r.lifespan == .enabled) := by
    rw [Bool.eq_iff_iff, beq_iff_eq, beq_iff_eq, hsame.lifespan]
  have hmode : (q.executionMode == .quick) = (r.executionMode == .quick) := by
    rw [Bool.eq_iff_iff, beq_iff_eq, beq_iff_eq, hsame.executionMode]
  rw [toText, toText, directiveText, directiveText, hsame.predicate, hsame.allVersions,
    hsame.countOnly, hsame.top, hsame.skip, hsame.sort, hautofilters, hlifespan, hmode]

/-- The text of an unmixed query says exactly this: the text of the predicate, whether all versions
are meant and whether only a number is wanted, the window, the sort keys in their order with their
directions, and which switch is not as the server has it. -/
theorem toText_eq_iff_saysLike {q r : Query} (hq : q.IsUnmixed) (hr : r.IsUnmixed) :
    q.toText = r.toText ↔ q.SaysLike r := by
  constructor
  · intro hsame
    obtain ⟨hpredicate, hdirectives⟩ := hq.isSeparable.directives_eq hr.isSeparable hsame
    obtain ⟨hsort, hwrites⟩ := written_eq_of_directives_eq hdirectives
    exact SaysLike.of_writes hpredicate hsort hwrites
  · intro hsame
    exact hsame.toText_eq

/-- A page of two sort keys. Its text leaves open whether a switch is at the server's default or set
to it, and tells the order of the keys. -/
theorem toText_of_sorted_page :
    let page := { all with
      sort := [⟨"Name", false⟩, ⟨"Rating", true⟩], top := some 10, autofilters := .disabled }
    let anchored := { page with
      predicate := some .matchAll, lifespan := .disabled, expand := ["Owner"] }
    let reordered := { page with sort := [⟨"Rating", true⟩, ⟨"Name", false⟩] }
    (page.IsUnmixed ∧ anchored.IsUnmixed ∧ reordered.IsUnmixed) ∧
      page.toText = anchored.toText ∧ page.toText ≠ reordered.toText := by
  intro page anchored reordered
  have hpage : page.IsUnmixed := ⟨by decide, by decide⟩
  have hanchored : anchored.IsUnmixed := ⟨by decide, by decide⟩
  have hreordered : reordered.IsUnmixed := ⟨by decide, by decide⟩
  refine ⟨⟨hpage, hanchored, hreordered⟩, ?_, fun hsame => ?_⟩
  · exact (toText_eq_iff_saysLike hpage hanchored).mpr
      ⟨rfl, rfl, rfl, rfl, rfl, rfl, Iff.rfl, by decide, Iff.rfl⟩
  · have hsort := ((toText_eq_iff_saysLike hpage hreordered).mp hsame).sort
    exact absurd hsort (by decide)

end Query

end ContentQuery
