/-
# Steps of a session

What a program can do with the sets of one repository: start a set, make a set from another one by
an operator or a setting, compile a set, and put a question to it. Sets are numbered in the order in
which they are made, and every step but a start names the set that it is about. A step that fails
ends there: it makes no set, and the program goes on with the next step and with the journal as the
failed one left it.

A set is made in three ways only, and what each of them keeps holds of all sets of a session.
-/

import ContentQuery.Repository

namespace ContentQuery

variable {α : Type}

/-- A set, whatever its items are. -/
structure AnySet where
  {α : Type}
  set : ContentSet α

/-- An operator that makes a set of another one. -/
inductive Link
  | filter (condition : Expr)
  | orderBy (key : Expr)
  | orderByDescending (key : Expr)
  | thenBy (key : Expr)
  | thenByDescending (key : Expr)
  | take (count : UInt32)
  | skip (count : UInt32)
  | project (fields : List Expr)
  | ofType {β : Type} (itemType : ItemType β)
  /-- An operator given by its name. -/
  | apply (operator : String) (arguments : List Expr)

/-- The set that an operator makes; none where the operator is refused. -/
def ContentSet.extended? (set : ContentSet α) : Link → Option AnySet
  | .filter condition => some ⟨set.filter condition⟩
  | .orderBy key => some ⟨set.orderBy key⟩
  | .orderByDescending key => some ⟨set.orderByDescending key⟩
  | .thenBy key => some ⟨set.thenBy key⟩
  | .thenByDescending key => some ⟨set.thenByDescending key⟩
  | .take count => some ⟨set.take count⟩
  | .skip count => some ⟨set.skip count⟩
  | .project fields => some ⟨set.project fields⟩
  | .ofType itemType => some ⟨set.ofType itemType⟩
  | .apply operator arguments => (set.apply operator arguments).toOption.map fun next => ⟨next⟩

/-- A setting of a set. -/
inductive Setting
  | autofilters (status : FilterStatus)
  | lifespan (status : FilterStatus)
  | executionMode (mode : ExecutionMode)
  | allVersions (enabled : Bool)
  | expand (fields : List String)
  | select (fields : List String)

/-- The set with a setting made. -/
def ContentSet.withSetting (set : ContentSet α) : Setting → ContentSet α
  | .autofilters status => set.autofilters status
  | .lifespan status => set.lifespan status
  | .executionMode mode => set.executionMode mode
  | .allVersions enabled => set.allVersions enabled
  | .expand fields => set.expand fields
  | .select fields => set.select fields

/-- A question to a set; the terminals are where sets are asked. -/
inductive Question
  | toList
  | count (condition : Option Expr)
  | longCount
  | any (condition : Option Expr)
  | first (condition : Option Expr)
  | firstOrDefault (condition : Option Expr)
  | single (condition : Option Expr)
  | singleOrDefault (condition : Option Expr)
  | last (condition : Option Expr)
  | lastOrDefault (condition : Option Expr)
  | elementAt (index : UInt32)
  | elementAtOrDefault (index : UInt32)

/-- What the answer to a question is, for a set of items of a type. -/
def Question.Answer (α : Type) : Question → Type
  | toList => List α
  | count _ | longCount => UInt64
  | any _ => Bool
  | first _ | single _ | last _ | elementAt _ => α
  | firstOrDefault _ | singleOrDefault _ | lastOrDefault _ | elementAtOrDefault _ => Option α

/-- The answer of a set to a question. -/
def ContentSet.answer (set : ContentSet α) : (question : Question) → Session (question.Answer α)
  | .toList => set.toList
  | .count condition => set.count condition
  | .longCount => set.longCount
  | .any condition => set.any condition
  | .first condition => set.first condition
  | .firstOrDefault condition => set.firstOrDefault condition
  | .single condition => set.single condition
  | .singleOrDefault condition => set.singleOrDefault condition
  | .last condition => set.last condition
  | .lastOrDefault condition => set.lastOrDefault condition
  | .elementAt index => set.elementAt index
  | .elementAtOrDefault index => set.elementAtOrDefault index

/-- A step of a session. -/
inductive Step
  /-- All items of a type, without options. -/
  | all {α : Type} (itemType : ItemType α)
  | withOptions {α : Type} (itemType : ItemType α) (options : QueryOptions)
  /-- All items of a type, with the settings of the repository. -/
  | contentOf {α : Type} (itemType : ItemType α)
  | content
  | extend (number : Nat) (link : Link)
  | configure (number : Nat) (setting : Setting)
  | compile (number : Nat)
  | queryText (number : Nat)
  | ask (number : Nat) (question : Question)

namespace Step

/-- The set that a step makes, if it makes one; `sets` are the sets so far. -/
def made? (repository : Repository) (sets : List AnySet) : Step → Option AnySet
  | all itemType => some ⟨.all repository.retriever itemType⟩
  | withOptions itemType options => some ⟨.withOptions repository.retriever itemType options⟩
  | contentOf itemType => some ⟨repository.contentOf itemType⟩
  | content => some ⟨repository.content⟩
  | extend number link => sets[number]?.bind fun source => source.set.extended? link
  | configure number setting => sets[number]?.map fun source => ⟨source.set.withSetting setting⟩
  | compile _ | queryText _ | ask _ _ => none

/-- What a step does that can leave a trace; its result is not kept. -/
def work (sets : List AnySet) : Step → Session Unit
  | compile number => onSet sets number fun source => discard source.set.compile
  | queryText number => onSet sets number fun source => discard source.set.queryText
  | ask number question => onSet sets number fun source => discard (source.set.answer question)
  | _ => pure ()
where
  /-- Work on the set of a number; without such a set there is nothing to do. -/
  onSet (sets : List AnySet) (number : Nat) (work : AnySet → Session Unit) : Session Unit :=
    match sets[number]? with
    | some source => work source
    | none => pure ()
  /-- The step without its result. -/
  discard {β : Type} (session : Session β) : Session Unit := (fun _ => ()) <$> session

end Step

/-- How far a session has come: the sets made so far, in their order, and the journal. -/
structure Progress where
  sets : List AnySet
  journal : Journal

/-- A session in which nothing has happened. -/
def Progress.start : Progress := ⟨[], .empty⟩

/-- What a session comes to by one step. -/
def Progress.next (progress : Progress) (repository : Repository) (step : Step) : Progress where
  sets := progress.sets ++ (step.made? repository progress.sets).toList
  journal := ((step.work progress.sets).run.run progress.journal).2

/-- What a session comes to by a sequence of steps. -/
def Repository.run (repository : Repository) : List Step → Progress → Progress
  | [], progress => progress
  | step :: rest, progress => repository.run rest (progress.next repository step)

/-! ## What a step makes -/

/-- The call that an operator puts on the chain. -/
def Link.call : Link → String × List Expr
  | filter condition => ("Where", [condition.asLambda])
  | orderBy key => ("OrderBy", [key.asLambda])
  | orderByDescending key => ("OrderByDescending", [key.asLambda])
  | thenBy key => ("ThenBy", [key.asLambda])
  | thenByDescending key => ("ThenByDescending", [key.asLambda])
  | take count => ("Take", [ContentSet.countLiteral count])
  | skip count => ("Skip", [ContentSet.countLiteral count])
  | project fields => ("Select", [.lambda (.project fields)])
  | ofType itemType => ("OfType", [.literal (.type itemType.name)])
  | apply operator arguments => (operator, arguments)

/-- An operator is refused for its name only. -/
theorem ContentSet.extended?_eq_none_iff {set : ContentSet α} {link : Link} :
    set.extended? link = none ↔ Operator.isDisallowed link.call.1 = true := by
  cases link with
  | apply operator arguments =>
      rw [extended?, ContentSet.apply, Link.call]
      cases Operator.isDisallowed operator with
      | true => exact iff_of_true rfl rfl
      | false => exact iff_of_false nofun nofun
  | _ => exact iff_of_false nofun (by simp only [Link.call]; decide)

/-- An operator puts its call on the chain and leaves the rest of the set as it is. -/
theorem ContentSet.eq_call_of_extended? {set : ContentSet α} {link : Link} {made : AnySet}
    (hmade : set.extended? link = some made) :
    made.set.chain = set.chain.call link.call.1 link.call.2 ∧
      made.set.options = set.options ∧ made.set.retriever = set.retriever := by
  cases link with
  | apply operator arguments =>
      rw [extended?, ContentSet.apply] at hmade
      cases hdisallowed : Operator.isDisallowed operator with
      | true =>
          rw [hdisallowed] at hmade
          cases hmade
      | false =>
          rw [hdisallowed] at hmade
          cases hmade
          exact ⟨rfl, rfl, rfl⟩
  | _ =>
      cases hmade
      exact ⟨rfl, rfl, rfl⟩

/-- An operator that makes a set puts one call on the chain, of a name that is not refused. -/
theorem ContentSet.extended?_eq_some {set : ContentSet α} {link : Link} {made : AnySet}
    (hmade : set.extended? link = some made) :
    made.set.retriever = set.retriever ∧ ∃ operator arguments,
      Operator.isDisallowed operator = false ∧
        made.set.chain = set.chain.call operator arguments := by
  obtain ⟨hchain, -, hretriever⟩ := eq_call_of_extended? hmade
  have hallowed : Operator.isDisallowed link.call.1 = false := by
    refine Bool.eq_false_iff.mpr fun hdisallowed => ?_
    rw [extended?_eq_none_iff.mpr hdisallowed] at hmade
    cases hmade
  exact ⟨hretriever, _, _, hallowed, hchain⟩

theorem ContentSet.chain_withSetting (set : ContentSet α) (setting : Setting) :
    (set.withSetting setting).chain = set.chain := by
  cases setting <;> rfl

theorem ContentSet.retriever_withSetting (set : ContentSet α) (setting : Setting) :
    (set.withSetting setting).retriever = set.retriever := by
  cases setting <;> rfl

/-- A set is made from the repository, or from an earlier set by an operator or a setting. -/
theorem Step.made_cases {repository : Repository} {sets : List AnySet} {step : Step}
    {made : AnySet} (hmade : step.made? repository sets = some made) :
    (∃ (β : Type) (itemType : ItemType β) (options : QueryOptions),
        made = ⟨.withOptions repository.retriever itemType options⟩) ∨
      (∃ source ∈ sets, ∃ link, source.set.extended? link = some made) ∨
      ∃ source ∈ sets, ∃ setting, made = ⟨source.set.withSetting setting⟩ := by
  cases step with
  | all | withOptions | contentOf | content =>
      cases hmade
      exact .inl ⟨_, _, _, rfl⟩
  | extend number link =>
      obtain ⟨source, hsource, hlink⟩ := Option.bind_eq_some_iff.mp hmade
      exact .inr (.inl ⟨source, List.mem_of_getElem? hsource, link, hlink⟩)
  | configure number setting =>
      obtain ⟨source, hsource, rfl⟩ := Option.map_eq_some_iff.mp hmade
      exact .inr (.inr ⟨source, List.mem_of_getElem? hsource, setting, rfl⟩)
  | compile | queryText | ask => cases hmade

/-- What each new set has if the earlier ones do, all sets of a run have. -/
theorem Repository.forall_sets_run {P : AnySet → Prop} (repository : Repository)
    (hstep : ∀ (sets : List AnySet) (step : Step) (made : AnySet), (∀ source ∈ sets, P source) →
      step.made? repository sets = some made → P made)
    (steps : List Step) {progress : Progress} (hsets : ∀ source ∈ progress.sets, P source) :
    ∀ source ∈ (repository.run steps progress).sets, P source := by
  induction steps generalizing progress with
  | nil => exact hsets
  | cons step rest ih =>
      refine ih fun source hsource => ?_
      rcases List.mem_append.mp hsource with hold | hnew
      · exact hsets source hold
      · exact hstep progress.sets step source hsets (Option.mem_toList.mp hnew)

end ContentQuery
