/-
# One retrieval for each answer

A terminal compiles its chain, sends one request, and reads what comes back. This module proves that
nothing else is ever sent: over any steps of a session the journal holds, in their order, the
requests of the terminals whose chains compile. It also proves that the errors tell the two sides of
the request apart. A terminal fails with an error of compilation exactly when it sent nothing;
whatever goes wrong from the request on, in the retrieval, in picking a row or in decoding it, is an
error of another class.

Nothing is assumed of the retriever but that it answers or fails. A terminal asks it at most once,
so what a retriever might remember from one request to the next makes no difference here.
-/

import ContentQuery.Proofs.CompileError
import ContentQuery.Proofs.Page
import ContentQuery.Proofs.Step

namespace ContentQuery

variable {α β γ : Type}

/-! ## Reading -/

namespace Session

/-- The journal that a step leaves. -/
def journalAfter (session : Session α) (journal : Journal) : Journal := (session.run.run journal).2

/-- The rest of a session starts with the value and the journal of its first step; an error ends
the session with the journal as it is. -/
theorem run_bind (first : Session α) (rest : α → Session β) (journal : Journal) :
    (first >>= rest).run.run journal =
      match first.run.run journal with
      | (.ok value, next) => (rest value).run.run next
      | (.error error, next) => (.error error, next) := by
  rw [ExceptT.run_bind, StateT.run_bind]
  cases first.run.run journal with
  | mk result next => cases result <;> rfl

theorem run_eq (session : Session α) (journal : Journal) :
    session.run.run journal = (session.outcome journal, session.journalAfter journal) := rfl

theorem run_map (f : α → β) (session : Session α) (journal : Journal) :
    (f <$> session).run.run journal =
      (f <$> session.outcome journal, session.journalAfter journal) := by
  show (session >>= fun value => pure (f value)).run.run journal = _
  rw [run_bind, run_eq]
  cases session.outcome journal <;> rfl

/-- A step of reading what was retrieved: it leaves no trace, and fails with no error of
compilation. -/
structure IsReading (session : Session α) : Prop where
  silent : ∀ journal, session.journalAfter journal = journal
  failure : ∀ journal error, session.outcome journal = .error error →
    error.isCompileError = false

namespace IsReading

theorem pure (value : α) : IsReading (Pure.pure value : Session α) where
  silent _ := rfl
  failure _ _ herror := by cases herror

theorem throw {error : QueryError} (hclass : error.isCompileError = false) :
    IsReading (throw error : Session α) where
  silent _ := rfl
  failure := by
    rintro _ _ ⟨⟩
    exact hclass

theorem bind {first : Session α} {rest : α → Session β} (hfirst : first.IsReading)
    (hrest : ∀ value, (rest value).IsReading) : (first >>= rest).IsReading := by
  constructor
  · intro journal
    rw [journalAfter, run_bind, run_eq, hfirst.silent]
    cases first.outcome journal with
    | error error => rfl
    | ok value => exact (hrest value).silent journal
  · intro journal error herror
    rw [outcome, run_bind, run_eq, hfirst.silent] at herror
    cases hvalue : first.outcome journal with
    | error cause =>
        rw [hvalue] at herror
        rw [← Except.error.inj herror]
        exact hfirst.failure journal cause hvalue
    | ok value =>
        rw [hvalue] at herror
        exact (hrest value).failure journal error herror

theorem mapM {f : α → Session β} (hf : ∀ value, (f value).IsReading) (values : List α) :
    (values.mapM f).IsReading := by
  induction values with
  | nil => exact pure []
  | cons value rest ih =>
      rw [List.mapM_cons]
      exact (hf value).bind fun result => ih.bind fun results => pure (result :: results)

end IsReading

end Session

/-- Picking a row fails for what the rows are, not for what the query is. -/
theorem Query.pickItem_failure {query : Query} {items : List Json} {error : QueryError}
    (hpick : query.pickItem items = .error error) : error.isCompileError = false := by
  have hsettle {found : Option Json} (hfound : pickItem.settle query found = .error error) :
      error.isCompileError = false := by
    unfold pickItem.settle at hfound
    split at hfound
    · cases hfound
    · split at hfound
      · cases hfound
        cases query.elementIndex <;> rfl
      · cases hfound
  unfold pickItem at hpick
  split at hpick
  · split at hpick
    · cases hpick
      rfl
    · exact hsettle hpick
  · exact hsettle hpick
  · exact hsettle hpick

namespace ContentSet

open Session

theorem isReading_decode (set : ContentSet α) (json : Json) : (set.decode json).IsReading := by
  unfold decode
  split
  · exact .pure _
  · exact .throw rfl

theorem isReading_required (found : Option α) : (required found).IsReading := by
  cases found with
  | none => exact .throw rfl
  | some item => exact .pure item

/-! ## Retrieving -/

/-- The request that a chain is retrieved with under the options of a set; none when the chain does
not compile. -/
def requestFor? (set : ContentSet α) (chain : Expr) : Option Request :=
  match chain.compile set.options with
  | .ok query => some query.toRequest
  | .error _ => none

/-- A session that retrieves a chain once, and then only reads. -/
def Retrieves (set : ContentSet α) (chain : Expr) (session : Session β) : Prop :=
  ∃ rest : Query × Response → Session β,
    session = set.execute chain >>= rest ∧ ∀ answer, (rest answer).IsReading

theorem Retrieves.bind {set : ContentSet α} {chain : Expr} {session : Session β}
    {rest : β → Session γ} (hsession : set.Retrieves chain session)
    (hrest : ∀ value, (rest value).IsReading) : set.Retrieves chain (session >>= rest) := by
  obtain ⟨read, rfl, hread⟩ := hsession
  exact ⟨fun answer => read answer >>= rest, bind_assoc _ _ _, fun answer =>
    (hread answer).bind hrest⟩

theorem retrieves_toList (set : ContentSet α) : set.Retrieves set.chain set.toList :=
  ⟨fun answer => answer.2.items.mapM set.decode, rfl, fun _ => .mapM set.isReading_decode _⟩

theorem retrieves_countBy (set : ContentSet α) (operator : String) (condition : Option Expr) :
    set.Retrieves (set.chainCall operator (conditionArguments condition))
      (set.countBy operator condition) :=
  ⟨fun answer => return answer.1.rowCount answer.2, rfl, fun _ => .pure _⟩

theorem retrieves_pickBy (set : ContentSet α) (terminal : Terminal) (arguments : List Expr) :
    set.Retrieves (set.chainCall terminal.name arguments) (set.pickBy terminal arguments) := by
  refine ⟨_, rfl, fun answer => ?_⟩
  dsimp only
  split
  · exact (set.isReading_decode _).bind fun item => .pure (some item)
  · exact .pure none
  · rename_i herror
    exact .throw (Query.pickItem_failure herror)

theorem retrieves_pick (set : ContentSet α) (selection : Selection) (arguments : List Expr) :
    set.Retrieves (set.chainCall (Terminal.pick selection false).name arguments)
      (set.pick selection arguments) :=
  (set.retrieves_pickBy _ arguments).bind isReading_required

/-- The one place where a request is sent: it is in the journal whether it is answered or not. -/
theorem requests_retrieve (retriever : Retriever) (typeName : String) (request : Request)
    (journal : Journal) :
    ((Session.retrieve retriever typeName request).journalAfter journal).requests =
      journal.requests ++ [request] := by
  unfold Session.retrieve
  cases hanswer : retriever request <;> rfl

/-- A chain that does not compile ends the retrieval before anything is sent. -/
theorem run_execute_error {set : ContentSet α} {chain : Expr} {error : QueryError}
    (hcompile : chain.compile set.options = .error error) (journal : Journal) :
    (set.execute chain).run.run journal = (.error error, journal) := by
  rw [execute, Session.compile, hcompile]
  rfl

/-- A chain that compiles is logged, and its request is sent. -/
theorem run_execute_ok {set : ContentSet α} {chain : Expr} {query : Query}
    (hcompile : chain.compile set.options = .ok query) (journal : Journal) :
    (set.execute chain).run.run journal =
      ((query, ·) <$> Session.retrieve set.retriever set.itemType.name query.toRequest).run.run
        { journal with events := journal.events ++ [.queryCompiled query] } := by
  rw [execute, Session.compile, hcompile]
  rfl

/-- A retrieval sends the request of its chain, and nothing when the chain does not compile. -/
theorem requests_execute (set : ContentSet α) (chain : Expr) (journal : Journal) :
    ((set.execute chain).journalAfter journal).requests =
      journal.requests ++ (set.requestFor? chain).toList := by
  rw [journalAfter, requestFor?]
  cases hcompile : chain.compile set.options with
  | error error =>
      rw [run_execute_error hcompile]
      exact (List.append_nil _).symm
  | ok query =>
      rw [run_execute_ok hcompile, run_map]
      exact requests_retrieve _ _ _ _

/-- A retrieval either ends with an error of compilation and has nothing to send, or it has a
request and fails, if it does, with an error of another class. -/
theorem execute_cases (set : ContentSet α) (chain : Expr) (journal : Journal) :
    (∃ error, (set.execute chain).outcome journal = .error error ∧
        error.isCompileError = true ∧ set.requestFor? chain = none) ∨
      (set.requestFor? chain ≠ none ∧ ∀ error,
        (set.execute chain).outcome journal = .error error → error.isCompileError = false) := by
  rw [outcome_execute_eq, requestFor?]
  cases hcompile : chain.compile set.options with
  | error error =>
      exact .inl ⟨error, rfl, chain.isCompilation_compile set.options error hcompile, rfl⟩
  | ok query =>
      refine .inr ⟨Option.some_ne_none _, fun error herror => ?_⟩
      have hretrieve : (query, ·) <$> (set.retriever query.toRequest).mapError .retrieve =
          .error error := herror
      cases hanswer : set.retriever query.toRequest with
      | error cause =>
          rw [hanswer] at hretrieve
          cases hretrieve
          rfl
      | ok response =>
          rw [hanswer] at hretrieve
          cases hretrieve

namespace Retrieves

variable {set : ContentSet α} {chain : Expr} {session : Session β}
  (hsession : set.Retrieves chain session)
include hsession

theorem requests (journal : Journal) :
    (session.journalAfter journal).requests =
      journal.requests ++ (set.requestFor? chain).toList := by
  obtain ⟨read, rfl, hread⟩ := hsession
  rw [← requests_execute, journalAfter, run_bind, run_eq]
  cases (set.execute chain).outcome journal with
  | error error => rfl
  | ok answer => exact congrArg Journal.requests ((hread answer).silent _)

/-- A chain that does not compile fails with the error of its compilation. -/
theorem outcome_of_error {error : QueryError} (hcompile : chain.compile set.options = .error error)
    (journal : Journal) : session.outcome journal = .error error := by
  obtain ⟨read, rfl, -⟩ := hsession
  rw [outcome, run_bind, run_execute_error hcompile]

theorem failure {journal : Journal} {error : QueryError}
    (herror : session.outcome journal = .error error) :
    error.isCompileError = true ↔ set.requestFor? chain = none := by
  obtain ⟨read, rfl, hread⟩ := hsession
  rw [outcome, run_bind, run_eq] at herror
  rcases set.execute_cases chain journal with ⟨cause, hcause, hclass, hnone⟩ | ⟨hsome, hclass⟩
  · rw [hcause] at herror
    obtain rfl : cause = error := Except.error.inj herror
    exact iff_of_true hclass hnone
  · have hlate : error.isCompileError = false := by
      cases hanswer : (set.execute chain).outcome journal with
      | error cause =>
          rw [hanswer] at herror
          obtain rfl : cause = error := Except.error.inj herror
          exact hclass cause hanswer
      | ok answer =>
          rw [hanswer] at herror
          exact (hread answer).failure _ error herror
    rw [hlate]
    exact iff_of_false Bool.false_ne_true hsome

end Retrieves

/-! ## Questions -/

/-- The chain that a question is sent with: the chain of the set, with the terminal of the question
at its end where it has one. -/
def questionChain (set : ContentSet α) : Question → Expr
  | .toList => set.chain
  | .count condition => set.chain.call "Count" (conditionArguments condition)
  | .longCount => set.chain.call "LongCount" []
  | .any condition => set.chain.call "Any" (conditionArguments condition)
  | .first condition => set.chain.call "First" (conditionArguments condition)
  | .firstOrDefault condition => set.chain.call "FirstOrDefault" (conditionArguments condition)
  | .single condition => set.chain.call "Single" (conditionArguments condition)
  | .singleOrDefault condition => set.chain.call "SingleOrDefault" (conditionArguments condition)
  | .last condition => set.chain.call "Last" (conditionArguments condition)
  | .lastOrDefault condition => set.chain.call "LastOrDefault" (conditionArguments condition)
  | .elementAt index => set.chain.call "ElementAt" [countLiteral index]
  | .elementAtOrDefault index => set.chain.call "ElementAtOrDefault" [countLiteral index]

/-- Every question is answered from one retrieval of its chain. -/
theorem retrieves_answer (set : ContentSet α) (question : Question) :
    set.Retrieves (set.questionChain question) (set.answer question) := by
  cases question with
  | toList => exact set.retrieves_toList
  | count condition => exact set.retrieves_countBy "Count" condition
  | longCount => exact set.retrieves_countBy "LongCount" none
  | any condition => exact (set.retrieves_countBy "Any" condition).bind fun rows => .pure _
  | first condition => exact set.retrieves_pick .first _
  | firstOrDefault condition => exact set.retrieves_pickBy _ _
  | single condition => exact set.retrieves_pick .single _
  | singleOrDefault condition => exact set.retrieves_pickBy _ _
  | last condition => exact set.retrieves_pick .last _
  | lastOrDefault condition => exact set.retrieves_pickBy _ _
  | elementAt index => exact set.retrieves_pick .elementAt _
  | elementAtOrDefault index => exact set.retrieves_pickBy _ _

end ContentSet

/-! ## Sessions -/

open Session

/-- Compiling a set sends nothing. -/
theorem ContentSet.requests_compile (set : ContentSet α) (journal : Journal) :
    (set.compile.journalAfter journal).requests = journal.requests := by
  rw [ContentSet.compile, Session.compile]
  cases set.chain.compile set.options <;> rfl

/-- So does rendering its query. -/
theorem ContentSet.requests_queryText (set : ContentSet α) (journal : Journal) :
    (set.queryText.journalAfter journal).requests = journal.requests := by
  refine Eq.trans ?_ (set.requests_compile journal)
  rw [ContentSet.queryText, journalAfter, run_bind, run_eq]
  cases set.compile.outcome journal <;> rfl

namespace Step

/-- The request of a step: that of the question, where a set is asked one that compiles. -/
def request? (sets : List AnySet) : Step → Option Request
  | ask number question => sets[number]?.bind fun source =>
    source.set.requestFor? (source.set.questionChain question)
  | _ => none

theorem journalAfter_discard {β : Type} (session : Session β) (journal : Journal) :
    (work.discard session).journalAfter journal = session.journalAfter journal := by
  rw [journalAfter, work.discard, run_map]

/-- Work on a set sends what it sends for that set, and nothing where there is no such set. -/
theorem requests_onSet {task : AnySet → Session Unit} (sent? : AnySet → Option Request)
    {journal : Journal} (htask : ∀ source, ((task source).journalAfter journal).requests =
      journal.requests ++ (sent? source).toList) (sets : List AnySet) (number : Nat) :
    ((work.onSet sets number task).journalAfter journal).requests =
      journal.requests ++ (sets[number]?.bind sent?).toList := by
  rw [work.onSet]
  cases sets[number]? with
  | none => exact (List.append_nil _).symm
  | some source => exact htask source

/-- One step: it sends its request, and nothing if it has none. -/
theorem requests_work (sets : List AnySet) (step : Step) (journal : Journal) :
    ((step.work sets).journalAfter journal).requests =
      journal.requests ++ (step.request? sets).toList := by
  have hsilent {task : AnySet → Session Unit} (htask : ∀ source,
      ((task source).journalAfter journal).requests = journal.requests) (number : Nat) :
      ((work.onSet sets number task).journalAfter journal).requests = journal.requests ++ [] := by
    have hnone := requests_onSet (fun _ => none)
      (fun source => (htask source).trans (List.append_nil _).symm) sets number
    rwa [Option.bind_fun_none] at hnone
  cases step with
  | compile number =>
      refine hsilent (fun source => ?_) number
      rw [journalAfter_discard]
      exact source.set.requests_compile journal
  | queryText number =>
      refine hsilent (fun source => ?_) number
      rw [journalAfter_discard]
      exact source.set.requests_queryText journal
  | ask number question =>
      refine requests_onSet _ (fun source => ?_) sets number
      rw [journalAfter_discard]
      exact (source.set.retrieves_answer question).requests journal
  | _ => exact (List.append_nil _).symm

end Step

/-- The requests of a sequence of steps, in their order, from the sets before it. -/
def Repository.requestsOf (repository : Repository) : List Step → List AnySet → List Request
  | [], _ => []
  | step :: rest, sets => (step.request? sets).toList ++
    repository.requestsOf rest (sets ++ (step.made? repository sets).toList)

/-- A run sends the requests of its steps. -/
theorem Repository.requests_run (repository : Repository) (steps : List Step)
    (progress : Progress) : (repository.run steps progress).journal.requests =
      progress.journal.requests ++ repository.requestsOf steps progress.sets := by
  induction steps generalizing progress with
  | nil => exact (List.append_nil _).symm
  | cons step rest ih =>
      rw [run, ih, requestsOf, ← List.append_assoc, ← Step.requests_work]
      rfl

/-- All sets of the session send to the retriever of the repository. -/
def Progress.SendsTo (progress : Progress) (repository : Repository) : Prop :=
  ∀ source ∈ progress.sets, source.set.retriever = repository.retriever

/-- A set is made with the retriever of the repository, or with that of the set it is made from. -/
theorem Step.retriever_made {repository : Repository} {sets : List AnySet}
    (hsets : ∀ source ∈ sets, source.set.retriever = repository.retriever) {step : Step}
    {made : AnySet} (hmade : step.made? repository sets = some made) :
    made.set.retriever = repository.retriever := by
  rcases made_cases hmade with
    ⟨β, itemType, options, rfl⟩ | ⟨source, hsource, link, hlink⟩ | ⟨source, hsource, setting, rfl⟩
  · rfl
  · exact (ContentSet.extended?_eq_some hlink).1.trans (hsets source hsource)
  · exact (source.set.retriever_withSetting setting).trans (hsets source hsource)

theorem Progress.SendsTo.run {repository : Repository} {progress : Progress}
    (hsets : progress.SendsTo repository) (steps : List Step) :
    (repository.run steps progress).SendsTo repository :=
  repository.forall_sets_run (fun _ _ _ hearlier hmade => Step.retriever_made hearlier hmade) steps
    hsets

/-! ## One request for each answer -/

/-- In a session with a repository all sets send to the one retriever, and what it receives are, in
the order of the steps, the requests of the questions that compile. A question fails with an error
of compilation exactly when it leaves the requests as they were, whatever the retriever does. -/
theorem Repository.one_request_for_each_answer :
    (∀ (repository : Repository) (steps : List Step),
      (repository.run steps .start).SendsTo repository ∧
      (repository.run steps .start).journal.requests = repository.requestsOf steps []) ∧
    ∀ {α : Type} (set : ContentSet α) (question : Question) (journal : Journal)
      (error : QueryError), (set.answer question).outcome journal = .error error →
      (error.isCompileError = true ↔
        ((set.answer question).journalAfter journal).requests = journal.requests) := by
  refine ⟨fun repository steps => ⟨?_, repository.requests_run steps .start⟩, ?_⟩
  · have hstart : Progress.start.SendsTo repository := fun source hsource => by cases hsource
    exact hstart.run steps
  · intro α set question journal error herror
    have hretrieves := set.retrieves_answer question
    rw [hretrieves.failure herror, hretrieves.requests journal, List.append_right_eq_self,
      Option.toList_eq_nil_iff]

/-- A refused request has been sent; that of an order by the items themselves has not. -/
theorem Repository.one_request_for_each_answer_of_refusal :
    let set := ContentSet.all (.failing (.rejected 503 "busy")) Content.itemType
    let sorted := set.orderBy .item
    ((set.answer .toList).outcome .empty = .error (.retrieve (.rejected 503 "busy")) ∧
      ((set.answer .toList).journalAfter .empty).requests ≠ []) ∧
    (sorted.answer .toList).outcome .empty = .error (.unsupported .item) ∧
      ((sorted.answer .toList).journalAfter .empty).requests = [] := by
  intro set sorted
  have hrefused : (set.answer .toList).outcome .empty =
      .error (.retrieve (.rejected 503 "busy")) := by
    cbv
  have hsorted : (sorted.answer .toList).outcome .empty = .error (.unsupported .item) := by
    have hcompile : sorted.chain.compile sorted.options = .error (.unsupported .item) := by
      cbv
    exact (sorted.retrieves_answer .toList).outcome_of_error hcompile .empty
  have hsent := one_request_for_each_answer.2 set .toList .empty _ hrefused
  have hunsent := one_request_for_each_answer.2 sorted .toList .empty _ hsorted
  exact ⟨⟨hrefused, mt hsent.mpr Bool.false_ne_true⟩, hsorted, hunsent.mp rfl⟩

end ContentQuery
