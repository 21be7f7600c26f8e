/-
# Terminals and the page

Over a fixed list of items a query asks for a page, the window of the list that its directives cut
out. A terminal never sends the query of the page itself: it narrows the window to the rows that it
needs, or moves it to one position, and a count takes the window off the total that the server
reports. This module proves that what comes out is what the page says in all these cases.

A row count has 32 bits, and so has a sum of two. Where the position of a row would be beyond the
largest row count, the request stops at the largest one; as the list is not longer than that, there
is no row at either place.
-/

import Mathlib
import ContentQuery.Proofs.Terminal

namespace ContentQuery

open Outcome

/-! ## Windows -/

namespace Query

/-- The window that a query cuts out of a list. -/
def page (query : Query) (items : List Json) : List Json :=
  Retriever.window query.toRequest items

theorem page_eq (query : Query) (items : List Json) :
    query.page items =
      match query.top with
      | some top => (items.drop (query.skip.getD 0).toNat).take top.toNat
      | none => items.drop (query.skip.getD 0).toNat := by
  rw [page, Retriever.window, toRequest]
  cases query.skip <;> rfl

theorem narrowed_toNat (top : Option UInt32) (limit : UInt32) :
    (Draft.narrowed top limit).toNat =
      match top with
      | some top => min limit.toNat top.toNat
      | none => limit.toNat := by
  cases top with
  | none => rfl
  | some top =>
      rw [Draft.narrowed]
      by_cases hle : top ≤ limit
      · rw [if_pos hle]
        exact (Nat.min_eq_right (UInt32.le_iff_toNat_le.mp hle)).symm
      · rw [if_neg hle]
        have hlt : limit.toNat < top.toNat := by
          rw [UInt32.le_iff_toNat_le] at hle
          omega
        exact (Nat.min_eq_left (Nat.le_of_lt hlt)).symm

/-- Narrowing the window keeps the start of the page. -/
theorem page_narrowed (query narrow : Query) (limit : UInt32) (items : List Json)
    (hskip : narrow.skip = query.skip) (htop : narrow.top = some (Draft.narrowed query.top limit)) :
    narrow.page items = (query.page items).take limit.toNat := by
  rw [page_eq, page_eq, htop, hskip]
  simp only [narrowed_toNat]
  cases query.top with
  | none => rfl
  | some top => exact (List.take_take ..).symm

theorem saturatingAdd_toNat (m n : UInt32) :
    (Draft.saturatingAdd m n).toNat = min (m.toNat + n.toNat) (UInt32.size - 1) := by
  have hbound : Nat.min (m.toNat + n.toNat) (UInt32.size - 1) < UInt32.size :=
    Nat.lt_of_le_of_lt (Nat.min_le_right _ _) (by decide)
  exact UInt32.toNat_ofNat_of_lt' hbound

/-- A position in a list that no row count exceeds is still beyond its end when it saturates. -/
theorem getElem?_saturatingAdd {items : List Json} (hlength : items.length < UInt32.size)
    (m n : UInt32) :
    items[(Draft.saturatingAdd m n).toNat]? = items[m.toNat + n.toNat]? := by
  rw [saturatingAdd_toNat]
  by_cases hsum : m.toNat + n.toNat < UInt32.size
  · rw [Nat.min_eq_left (by omega)]
  · rw [Nat.min_eq_right (by omega), List.getElem?_eq_none (by omega),
      List.getElem?_eq_none (by omega)]

/-- The row at a position of the page is the one row that the terminal asks for. -/
theorem head?_page_elementAt (query : Query) (orDefault : Bool) (index : UInt32)
    {items : List Json} (hlength : items.length < UInt32.size) :
    ((Draft.pick query .elementAt orDefault index).page items).head? =
      (query.page items)[index.toNat]? := by
  have hrow : (items.drop (Draft.saturatingAdd (query.skip.getD 0) index).toNat).head? =
      (items.drop (query.skip.getD 0).toNat)[index.toNat]? := by
    rw [List.head?_drop, getElem?_saturatingAdd hlength, List.getElem?_drop]
  rw [page_eq, page_eq, Draft.pick]
  simp only [Option.getD_some]
  cases htop : query.top with
  | none =>
      rw [← hrow, List.head?_take]
      rfl
  | some top =>
      simp only [UInt32.le_iff_toNat_le]
      by_cases hinside : top.toNat ≤ index.toNat
      · rw [if_pos hinside]
        exact (List.getElem?_take_eq_none hinside).symm
      · rw [if_neg hinside, List.getElem?_take_of_lt (by omega), ← hrow, List.head?_take]
        rfl

theorem length_page (query : Query) (items : List Json) :
    (query.page items).length =
      match query.top with
      | some top => min (items.length - (query.skip.getD 0).toNat) top.toNat
      | none => items.length - (query.skip.getD 0).toNat := by
  rw [page_eq]
  cases query.top with
  | none => exact List.length_drop ..
  | some top => rw [List.length_take, List.length_drop, Nat.min_comm]

/-- The rows that a query counts are the rows of its page, although it counts from the total. -/
theorem rowCount_page (query : Query) {items : List Json} (hlength : items.length < UInt32.size) :
    (query.rowCount ⟨query.page items, UInt64.ofNat items.length⟩).toNat =
      (query.page items).length := by
  have hitems : (UInt64.ofNat items.length).toNat = items.length :=
    UInt64.toNat_ofNat_of_lt' (Nat.lt_trans hlength (by decide))
  have hpage := length_page query items
  have hle : (query.page items).length ≤ items.length := by
    rw [hpage]
    cases query.top with
    | none => exact Nat.sub_le _ _
    | some top => exact Nat.le_trans (Nat.min_le_left _ _) (Nat.sub_le _ _)
  have hcount : query.rowCount ⟨query.page items, UInt64.ofNat items.length⟩ =
      UInt64.ofNat (query.page items).length := by
    rw [rowCount]
    simp only [hitems, Nat.max_eq_left hle]
    rw [hpage]
    cases query.skip <;> rfl
  rw [hcount]
  exact UInt64.toNat_ofNat_of_lt' (Nat.lt_trans (Nat.lt_of_le_of_lt hle hlength) (by decide))

/-- A counting terminal counts the page of the chain. -/
theorem rowCount_count (query : Query) {items : List Json} (hlength : items.length < UInt32.size) :
    ((Draft.reduce query .count 0).rowCount
      ⟨(Draft.reduce query .count 0).page items, UInt64.ofNat items.length⟩).toNat =
        (query.page items).length := by
  rw [rowCount_page _ hlength, page_eq, page_eq]
  rfl

/-- One row of the page is enough to see that it has one. -/
theorem rowCount_any (query : Query) {items : List Json} (hlength : items.length < UInt32.size) :
    decide (0 < (Draft.reduce query .any 0).rowCount
      ⟨(Draft.reduce query .any 0).page items, UInt64.ofNat items.length⟩) =
        !(query.page items).isEmpty := by
  have hpage := page_narrowed query (Draft.reduce query .any 0) 1 items rfl rfl
  have hrows := rowCount_page (Draft.reduce query .any 0) hlength
  rw [Bool.eq_iff_iff, decide_eq_true_iff, UInt64.lt_iff_toNat_lt, hrows, hpage]
  cases query.page items with
  | nil => simp
  | cons item rest => simp

/-! ## Picking one item -/

/-- What a terminal that takes one item takes from a page. Only the one that takes a position looks
at the index. -/
def pickedFrom (selection : Selection) (index : UInt32) (page : List Json) : Option Json :=
  match selection with
  | .first | .single => page.head?
  | .last => page.getLast?
  | .elementAt => page[index.toNat]?

/-- The error of a strict terminal that finds nothing to take. -/
def absence (selection : Selection) (index : UInt32) : QueryError :=
  match selection with
  | .elementAt => .indexOutOfRange index
  | _ => .noElements

theorem throwIfEmpty_pick (query : Query) (selection : Selection) (orDefault : Bool)
    (index : UInt32) : (Draft.pick query selection orDefault index).throwIfEmpty = !orDefault := by
  cases selection <;> rfl

/-- Only the terminal that takes a position sets one. -/
theorem elementIndex_pick {query : Query} (hposition : query.elementIndex = none)
    (selection : Selection) (orDefault : Bool) (index : UInt32) :
    (Draft.pick query selection orDefault index).elementIndex =
      if selection = .elementAt then some index else none := by
  cases selection with
  | elementAt => rfl
  | _ => exact hposition

/-- What becomes of the row that a picking terminal has chosen, or of there being none. -/
theorem settle_pick {query : Query} (hposition : query.elementIndex = none)
    (selection : Selection) (orDefault : Bool) (index : UInt32) (found : Option Json) :
    pickItem.settle (Draft.pick query selection orDefault index) found =
      match found with
      | some item => .ok (some item)
      | none => if orDefault then .ok none else .error (absence selection index) := by
  cases found with
  | some item => rfl
  | none =>
      rw [pickItem.settle, throwIfEmpty_pick, elementIndex_pick hposition]
      cases orDefault with
      | true => rfl
      | false => cases selection <;> rfl

/-- A picking terminal gives what it takes from the page, although it never sees more of the page
than it needs. For the only item that is two rows, and the second is there when it is in the
page. -/
theorem pickItem_pick {query : Query} (hposition : query.elementIndex = none)
    (selection : Selection) (orDefault : Bool) (index : UInt32) {items : List Json}
    (hlength : items.length < UInt32.size) :
    (Draft.pick query selection orDefault index).pickItem
        ((Draft.pick query selection orDefault index).page items) =
      if selection = .single ∧ 1 < (query.page items).length then .error .moreThanOneElement
      else match pickedFrom selection index (query.page items) with
        | some item => .ok (some item)
        | none => if orDefault then .ok none else .error (absence selection index) := by
  cases selection with
  | first =>
      rw [page_narrowed query (Draft.pick query .first orDefault index) 1 items rfl rfl]
      show pickItem.settle _ ((query.page items).take 1).head? = _
      rw [settle_pick hposition, List.head?_take]
      rfl
  | single =>
      rw [page_narrowed query (Draft.pick query .single orDefault index) 2 items rfl rfl]
      show (if 1 < ((query.page items).take 2).length then _
        else pickItem.settle _ ((query.page items).take 2).head?) = _
      have hsecond : 1 < ((query.page items).take 2).length ↔ 1 < (query.page items).length := by
        rw [List.length_take]
        omega
      rw [settle_pick hposition, List.head?_take]
      simp only [hsecond, true_and]
      rfl
  | last =>
      show pickItem.settle _ (query.page items).getLast? = _
      rw [settle_pick hposition]
      rfl
  | elementAt =>
      show pickItem.settle _ ((Draft.pick query .elementAt orDefault index).page items).head? = _
      rw [settle_pick hposition, head?_page_elementAt query orDefault index hlength]
      rfl

end Query

/-! ## Sessions over a fixed list -/

namespace Session

variable {α β : Type}

/-- The outcome of a step, from a journal on. -/
def outcome (session : Session α) (journal : Journal) : Except QueryError α :=
  (session.run.run journal).1

/-- Where the rest of a session comes out the same whatever the journal, only the outcome of the
first step matters to it. -/
theorem outcome_bind {first : Session α} {rest : α → Session β} {f : α → Except QueryError β}
    (hrest : ∀ value journal, (rest value).outcome journal = f value) (journal : Journal) :
    (first >>= rest).outcome journal = first.outcome journal >>= f := by
  unfold outcome
  rw [ExceptT.run_bind, StateT.run_bind]
  cases hfirst : first.run.run journal with
  | mk value next =>
      cases value with
      | error error => rfl
      | ok value => exact hrest value next

end Session

namespace ContentSet

variable {α : Type} {set : ContentSet α} {items : List Json} {chain : Expr} {query : Query}

/-- The items of a set before they are decoded. -/
def retrieved (set : ContentSet α) : Session (List Json) := do
  return (← set.execute set.chain).2.items

/-- All items of the set are the retrieved ones, decoded. -/
theorem toList_eq (set : ContentSet α) :
    set.toList = set.retrieved >>= fun items => items.mapM set.decode := by
  rw [toList, retrieved, bind_assoc]
  rfl

/-- A retrieval compiles its chain and asks the retriever, whatever happened before. -/
theorem outcome_execute_eq (set : ContentSet α) (chain : Expr) (journal : Journal) :
    (set.execute chain).outcome journal = chain.compile set.options >>= fun query =>
      (query, ·) <$> (set.retriever query.toRequest).mapError .retrieve := by
  rw [execute, Session.compile]
  cases chain.compile set.options with
  | error error => rfl
  | ok query =>
      have hretrieve (journal : Journal) :
          (Session.retrieve set.retriever set.itemType.name query.toRequest).outcome journal =
            (set.retriever query.toRequest).mapError .retrieve := by
        unfold Session.retrieve
        cases set.retriever query.toRequest <;> rfl
      show (do return (query, ← Session.retrieve set.retriever set.itemType.name
        query.toRequest) : Session (Query × Response)).outcome _ = _
      rw [Session.outcome_bind (f := fun response => .ok (query, response)) (fun _ _ => rfl),
        hretrieve]
      rfl

theorem outcome_execute (hretriever : set.retriever = .memory items)
    (hcompile : chain.compile set.options = .ok query) (journal : Journal) :
    (set.execute chain).outcome journal =
      .ok (query, ⟨query.page items, UInt64.ofNat items.length⟩) := by
  rw [outcome_execute_eq, hcompile, hretriever]
  rfl

/-- What a strict terminal gives for the retrieved item that it found, if it found one. -/
def strictly (set : ContentSet α) (absent : QueryError) : Option Json → Except QueryError α
  | some json => (set.itemType.decode json).mapError .decode
  | none => .error absent

/-- What a lenient terminal gives for the retrieved item that it found, if it found one. -/
def leniently (set : ContentSet α) : Option Json → Except QueryError (Option α)
  | some json => some <$> (set.itemType.decode json).mapError .decode
  | none => .ok none

theorem outcome_decode (set : ContentSet α) (json : Json) (journal : Journal) :
    (set.decode json).outcome journal = (set.itemType.decode json).mapError .decode := by
  rw [decode]
  cases set.itemType.decode json <;> rfl

theorem outcome_countBy (hretriever : set.retriever = .memory items)
    {operator : String} {condition : Option Expr}
    (hcompile : (set.chainCall operator (conditionArguments condition)).compile set.options =
      .ok query) (journal : Journal) :
    (set.countBy operator condition).outcome journal =
      .ok (query.rowCount ⟨query.page items, UInt64.ofNat items.length⟩) := by
  rw [countBy, Session.outcome_bind (f := fun answer => .ok (answer.1.rowCount answer.2))
    (fun _ _ => rfl), outcome_execute hretriever hcompile]
  rfl

/-- What a picking terminal makes of its query: it asks the retriever, picks a row of the answer
and decodes it. -/
def picked (set : ContentSet α) (query : Query) : Except QueryError (Option α) := do
  let response ← (set.retriever query.toRequest).mapError .retrieve
  set.leniently (← query.pickItem response.items)

theorem outcome_pickBy_eq (set : ContentSet α) (terminal : Terminal) (arguments : List Expr)
    (journal : Journal) :
    (set.pickBy terminal arguments).outcome journal =
      (set.chainCall terminal.name arguments).compile set.options >>= set.picked := by
  rw [pickBy, Session.outcome_bind
    (f := fun answer => answer.1.pickItem answer.2.items >>= set.leniently),
    outcome_execute_eq, bind_assoc]
  · refine congrArg _ (funext fun query => ?_)
    rw [bind_map_left]
    rfl
  · rintro ⟨query, response⟩ journal
    dsimp only
    cases hpick : query.pickItem response.items with
    | error error => rfl
    | ok found =>
        cases found with
        | none => rfl
        | some json =>
            show (do return some (← set.decode json) : Session (Option α)).outcome journal = _
            rw [Session.outcome_bind (f := fun item => .ok (some item)) (fun _ _ => rfl),
              outcome_decode]
            show _ = some <$> (set.itemType.decode json).mapError QueryError.decode
            cases set.itemType.decode json <;> rfl

theorem outcome_pickBy (hretriever : set.retriever = .memory items) {terminal : Terminal}
    {arguments : List Expr}
    (hcompile : (set.chainCall terminal.name arguments).compile set.options = .ok query)
    (journal : Journal) :
    (set.pickBy terminal arguments).outcome journal =
      query.pickItem (query.page items) >>= set.leniently := by
  rw [outcome_pickBy_eq, hcompile]
  show set.picked query = _
  rw [picked, hretriever]
  rfl

/-- A strict terminal gives the item that was picked, and fails where there is none. -/
theorem outcome_pick_eq (set : ContentSet α) (selection : Selection) (arguments : List Expr)
    (journal : Journal) :
    (set.pick selection arguments).outcome journal =
      (set.pickBy (.pick selection false) arguments).outcome journal >>= fun found =>
        found.elim (.error .noElements) .ok := by
  rw [pick, Session.outcome_bind]
  rintro (_ | item) journal <;> rfl

section Picking

variable {selection : Selection} {arguments : List Expr} {index : UInt32}
  (hretriever : set.retriever = .memory items) (hlength : items.length < UInt32.size)
  (hposition : query.elementIndex = none)

include hretriever hlength hposition

/-- A lenient picking terminal, compiled to the query of the chain under its directives. -/
theorem outcome_pickOrDefault
    (hcompile : (set.chainCall (Terminal.pick selection true).name arguments).compile set.options =
      .ok (Draft.pick query selection true index)) (journal : Journal) :
    (set.pickOrDefault selection arguments).outcome journal =
      if selection = .single ∧ 1 < (query.page items).length then .error .moreThanOneElement
      else set.leniently (Query.pickedFrom selection index (query.page items)) := by
  rw [pickOrDefault, outcome_pickBy hretriever hcompile,
    Query.pickItem_pick hposition selection true index hlength]
  by_cases hmany : selection = .single ∧ 1 < (query.page items).length
  · rw [if_pos hmany, if_pos hmany]
    rfl
  · rw [if_neg hmany, if_neg hmany]
    cases Query.pickedFrom selection index (query.page items) <;> rfl

/-- A strict picking terminal, compiled to the query of the chain under its directives. -/
theorem outcome_pick
    (hcompile : (set.chainCall (Terminal.pick selection false).name arguments).compile set.options =
      .ok (Draft.pick query selection false index)) (journal : Journal) :
    (set.pick selection arguments).outcome journal =
      if selection = .single ∧ 1 < (query.page items).length then .error .moreThanOneElement
      else set.strictly (Query.absence selection index)
        (Query.pickedFrom selection index (query.page items)) := by
  rw [outcome_pick_eq, outcome_pickBy hretriever hcompile,
    Query.pickItem_pick hposition selection false index hlength]
  by_cases hmany : selection = .single ∧ 1 < (query.page items).length
  · rw [if_pos hmany, if_pos hmany]
    rfl
  · rw [if_neg hmany, if_neg hmany]
    cases Query.pickedFrom selection index (query.page items) with
    | none => rfl
    | some json =>
        show (some <$> (set.itemType.decode json).mapError .decode) >>= _ =
          (set.itemType.decode json).mapError QueryError.decode
        cases set.itemType.decode json <;> rfl

end Picking

/-! ## Terminals agree with the page -/

/-- The terminals of a set give what a page says. The first item is the head of the page and the
last one its end, the only item is there when there is one and not two, an item at a position is
that of the page; and the counts are those of the page. -/
structure AgreesWith (set : ContentSet α) (page : List Json) : Prop where
  count : ∀ journal, UInt64.toNat <$> (set.count none).outcome journal = .ok page.length
  longCount : ∀ journal, UInt64.toNat <$> set.longCount.outcome journal = .ok page.length
  any : ∀ journal, (set.any none).outcome journal = .ok (!page.isEmpty)
  first : ∀ journal, (set.first none).outcome journal = set.strictly .noElements page.head?
  firstOrDefault : ∀ journal, (set.firstOrDefault none).outcome journal = set.leniently page.head?
  last : ∀ journal, (set.last none).outcome journal = set.strictly .noElements page.getLast?
  lastOrDefault : ∀ journal, (set.lastOrDefault none).outcome journal = set.leniently page.getLast?
  single : ∀ journal, (set.single none).outcome journal =
    if 1 < page.length then .error .moreThanOneElement
    else set.strictly .noElements page.head?
  singleOrDefault : ∀ journal, (set.singleOrDefault none).outcome journal =
    if 1 < page.length then .error .moreThanOneElement else set.leniently page.head?
  elementAt : ∀ index journal, (set.elementAt index).outcome journal =
    set.strictly (.indexOutOfRange index) page[index.toNat]?
  elementAtOrDefault : ∀ index journal, (set.elementAtOrDefault index).outcome journal =
    set.leniently page[index.toNat]?

end ContentSet

/-- Terminals agree with the page. Over a fixed list of no more items than a row count can say, if
the chain of a set compiles, its terminals give what the retrieved page says. -/
theorem ContentSet.agreesWith_retrieved {α : Type} (set : ContentSet α) {items : List Json}
    {query : Query} (hretriever : set.retriever = .memory items)
    (hlength : items.length < UInt32.size) (hopen : set.chain.isOpenChain = true)
    (hcompile : set.chain.compile set.options = .ok query) :
    ∃ page, (∀ journal, set.retrieved.outcome journal = .ok page) ∧ set.AgreesWith page := by
  have hposition := Expr.elementIndex_of_compile hopen hcompile
  have hcompiled {name : String} {terminal : Terminal}
      (hname : Operator.ofName? name = some (.terminal terminal))
      (hallowed : Operator.isDisallowed name = false)
      (haccepts : terminal.acceptsCondition = true) :
      (set.chainCall name (conditionArguments none)).compile set.options =
        .ok (Draft.reduce query terminal 0) :=
    Expr.compile_terminal_nil hopen hcompile hname hallowed haccepts
  have hpick {selection : Selection} {orDefault : Bool}
      (haccepts : (Terminal.pick selection orDefault).acceptsCondition = true) :
      (set.chainCall (Terminal.pick selection orDefault).name (conditionArguments none)).compile
        set.options = .ok (Draft.pick query selection orDefault 0) :=
    hcompiled (Operator.ofName?_name _) (Operator.isDisallowed_name _) haccepts
  refine ⟨query.page items, fun journal => ?_, ?_⟩
  · rw [retrieved, Session.outcome_bind (f := fun answer => .ok answer.2.items) (fun _ _ => rfl),
      outcome_execute hretriever hcompile]
    rfl
  · constructor
    case count =>
      intro journal
      rw [ContentSet.count, outcome_countBy hretriever (hcompiled rfl (by decide) rfl)]
      exact congrArg Except.ok (Query.rowCount_count query hlength)
    case longCount =>
      intro journal
      rw [ContentSet.longCount, outcome_countBy hretriever (hcompiled rfl (by decide) rfl)]
      exact congrArg Except.ok (Query.rowCount_count query hlength)
    case any =>
      intro journal
      rw [ContentSet.any, Session.outcome_bind (f := fun rows => .ok (decide (0 < rows)))
        (fun _ _ => rfl), outcome_countBy hretriever (hcompiled rfl (by decide) rfl)]
      exact congrArg Except.ok (Query.rowCount_any query hlength)
    case first =>
      intro journal
      rw [ContentSet.first, outcome_pick hretriever hlength hposition (hpick rfl), if_neg (by simp)]
      rfl
    case firstOrDefault =>
      intro journal
      rw [ContentSet.firstOrDefault,
        outcome_pickOrDefault hretriever hlength hposition (hpick rfl), if_neg (by simp)]
      rfl
    case last =>
      intro journal
      rw [ContentSet.last, outcome_pick hretriever hlength hposition (hpick rfl), if_neg (by simp)]
      rfl
    case lastOrDefault =>
      intro journal
      rw [ContentSet.lastOrDefault,
        outcome_pickOrDefault hretriever hlength hposition (hpick rfl), if_neg (by simp)]
      rfl
    case single =>
      intro journal
      rw [ContentSet.single, outcome_pick hretriever hlength hposition (hpick rfl)]
      simp only [true_and]
      rfl
    case singleOrDefault =>
      intro journal
      rw [ContentSet.singleOrDefault,
        outcome_pickOrDefault hretriever hlength hposition (hpick rfl)]
      simp only [true_and]
      rfl
    case elementAt =>
      intro index journal
      have hcompiled := Expr.compile_terminal_position false index hopen hcompile
      rw [ContentSet.elementAt, outcome_pick hretriever hlength hposition hcompiled,
        if_neg (by simp)]
      rfl
    case elementAtOrDefault =>
      intro index journal
      have hcompiled := Expr.compile_terminal_position true index hopen hcompile
      rw [ContentSet.elementAtOrDefault,
        outcome_pickOrDefault hretriever hlength hposition hcompiled, if_neg (by simp)]
      rfl

/-- Three items, of which a set leaves out one and keeps one. -/
theorem ContentSet.agreesWith_retrieved_of_skip_take :
    let set := ((all (.memory [.null, .bool true, .bool false]) Content.itemType).skip 1).take 1
    ∃ page, (∀ journal, set.retrieved.outcome journal = .ok page) ∧ set.AgreesWith page := by
  intro set
  have hcompile : set.chain.compile set.options =
      .ok { Query.all with skip := some 1, top := some 1 } := by
    cbv
  exact set.agreesWith_retrieved rfl (by decide) (by decide) hcompile

end ContentQuery
