/-
# Settings beside operators

A program builds a set move by move: an operator puts a call on the chain, and a setting writes one
of the options. Neither looks at what the other does. So the chain of the set is the source with the
operators in their order, wherever settings stood between them, and the options are the configured
ones with the last value of each setting written over them.

In the query the two meet in one place only: the lists of fields. A projection is part of the chain
and asks for lists; a list that is set explicitly replaces what the chain asks for, whichever came
first. The rest of the query is either the chain's or the settings'.
-/

import Mathlib
import ContentQuery.Proofs.Folding
import ContentQuery.Proofs.Step

namespace ContentQuery

variable {α : Type}

/-! ## What settings leave in the options -/

namespace Setting

def autofilters? : Setting → Option FilterStatus
  | autofilters status => some status
  | _ => none

def lifespan? : Setting → Option FilterStatus
  | lifespan status => some status
  | _ => none

def executionMode? : Setting → Option ExecutionMode
  | executionMode mode => some mode
  | _ => none

def allVersions? : Setting → Option Bool
  | allVersions enabled => some enabled
  | _ => none

def expand? : Setting → Option (List String)
  | expand fields => some fields
  | _ => none

def select? : Setting → Option (List String)
  | select fields => some fields
  | _ => none

/-- The last value of one kind that settings give, if there is one. -/
def last? {β : Type} (read : Setting → Option β) (settings : List Setting) : Option β :=
  (settings.filterMap read).getLast?

theorem last?_nil {β : Type} (read : Setting → Option β) : last? read [] = none := rfl

theorem last?_cons {β : Type} (read : Setting → Option β) (setting : Setting)
    (rest : List Setting) : last? read (setting :: rest) = (last? read rest).or (read setting) := by
  rw [last?, last?]
  cases hread : read setting with
  | none => rw [List.filterMap_cons_none hread, Option.or_none]
  | some value =>
      rw [List.filterMap_cons_some hread, List.getLast?_cons]
      cases (rest.filterMap read).getLast? <;> rfl

/-- Two rows of settings end with the same value of each kind. -/
structure SameLast (first second : List Setting) : Prop where
  autofilters : last? autofilters? first = last? autofilters? second
  lifespan : last? lifespan? first = last? lifespan? second
  executionMode : last? executionMode? first = last? executionMode? second
  allVersions : last? allVersions? first = last? allVersions? second
  expand : last? expand? first = last? expand? second
  select : last? select? first = last? select? second

end Setting

namespace QueryOptions

/-- Options with the last value of each setting written over them. -/
def overwritten (options : QueryOptions) (settings : List Setting) : QueryOptions where
  autofilters := (Setting.last? Setting.autofilters? settings).getD options.autofilters
  lifespan := (Setting.last? Setting.lifespan? settings).getD options.lifespan
  executionMode := (Setting.last? Setting.executionMode? settings).getD options.executionMode
  allVersions := (Setting.last? Setting.allVersions? settings).getD options.allVersions
  expand := (Setting.last? Setting.expand? settings).or options.expand
  select := (Setting.last? Setting.select? settings).or options.select

/-- What comes first is written over by what comes later. -/
theorem overwritten_cons (options : QueryOptions) (setting : Setting) (rest : List Setting) :
    options.overwritten (setting :: rest) = (options.overwritten [setting]).overwritten rest := by
  simp only [overwritten, Setting.last?_cons, Setting.last?_nil, Option.none_or, Option.getD_or,
    Option.or_assoc]

/-- Only the last value of each setting counts. -/
theorem overwritten_congr {first second : List Setting} (hsame : Setting.SameLast first second)
    (options : QueryOptions) : options.overwritten first = options.overwritten second := by
  rw [overwritten, hsame.autofilters, hsame.lifespan, hsame.executionMode, hsame.allVersions,
    hsame.expand, hsame.select, overwritten]

end QueryOptions

theorem ContentSet.options_withSetting (set : ContentSet α) (setting : Setting) :
    (set.withSetting setting).options = set.options.overwritten [setting] := by
  cases setting <;> rfl

/-! ## Rows of moves -/

/-- A move of a program that builds a set. -/
inductive Move
  | extend (link : Link)
  | configure (setting : Setting)

namespace Move

/-- The calls that the operators among moves put on the chain, in their order. -/
def calls (moves : List Move) : List (String × List Expr) :=
  moves.filterMap fun
    | extend link => some link.call
    | configure _ => none

/-- The settings among moves, in their order. -/
def settings (moves : List Move) : List Setting :=
  moves.filterMap fun
    | extend _ => none
    | configure setting => some setting

theorem calls_extend (link : Link) (rest : List Move) :
    calls (.extend link :: rest) = link.call :: calls rest := rfl

theorem calls_configure (setting : Setting) (rest : List Move) :
    calls (.configure setting :: rest) = calls rest := rfl

theorem settings_extend (link : Link) (rest : List Move) :
    settings (.extend link :: rest) = settings rest := rfl

theorem settings_configure (setting : Setting) (rest : List Move) :
    settings (.configure setting :: rest) = setting :: settings rest := rfl

end Move

namespace AnySet

/-- The set that a move makes of another one; none where an operator is refused. -/
def moved? (start : AnySet) : Move → Option AnySet
  | .extend link => start.set.extended? link
  | .configure setting => some ⟨start.set.withSetting setting⟩

/-- The set that moves make, one after the other; none where an operator is refused. -/
def built? (start : AnySet) : List Move → Option AnySet
  | [] => some start
  | move :: rest => (start.moved? move).bind fun next => next.built? rest

/-- What moves make of a set: the calls of the operators stand on its chain, the last value of each
setting stands in its options, and it is asked in the same place. -/
structure IsBuiltFrom (made start : AnySet) (moves : List Move) : Prop where
  chain : made.set.chain = start.set.chain.continuedBy (Move.calls moves)
  options : made.set.options = start.set.options.overwritten (Move.settings moves)
  retriever : made.set.retriever = start.set.retriever

/-- One move before the others. -/
theorem IsBuiltFrom.cons {start next made : AnySet} {move : Move} {rest : List Move}
    (hbuilt : made.IsBuiltFrom next rest) (hmove : start.moved? move = some next) :
    made.IsBuiltFrom start (move :: rest) := by
  cases move with
  | extend link =>
      obtain ⟨hchain, hoptions, hretriever⟩ := ContentSet.eq_call_of_extended? hmove
      constructor
      case chain => rw [Move.calls_extend, Expr.continuedBy_cons, ← hchain, hbuilt.chain]
      case options => rw [Move.settings_extend, ← hoptions, hbuilt.options]
      case retriever => rw [← hretriever, hbuilt.retriever]
  | configure setting =>
      obtain rfl := Option.some.inj hmove
      constructor
      case chain =>
        rw [hbuilt.chain, Move.calls_configure]
        exact congrArg (Expr.continuedBy · _) (start.set.chain_withSetting setting)
      case options =>
        rw [hbuilt.options, Move.settings_configure, QueryOptions.overwritten_cons]
        exact congrArg (QueryOptions.overwritten · _) (start.set.options_withSetting setting)
      case retriever => exact hbuilt.retriever.trans (start.set.retriever_withSetting setting)

/-- Moves make a set when no operator among them is refused, and what they make is known from the
calls and the last settings. -/
theorem exists_built? {moves : List Move}
    (haccepted : ∀ call ∈ Move.calls moves, Operator.isDisallowed call.1 = false)
    (start : AnySet) : ∃ made, start.built? moves = some made ∧ made.IsBuiltFrom start moves := by
  induction moves generalizing start with
  | nil => exact ⟨start, rfl, rfl, rfl, rfl⟩
  | cons move rest ih =>
      have hmove : (∃ next, start.moved? move = some next) ∧
          ∀ call ∈ Move.calls rest, Operator.isDisallowed call.1 = false := by
        cases move with
        | extend link =>
            obtain ⟨hlink, hrest⟩ := List.forall_mem_cons.mp haccepted
            refine ⟨Option.ne_none_iff_exists'.mp fun hnone => ?_, hrest⟩
            rw [ContentSet.extended?_eq_none_iff.mp hnone] at hlink
            cases hlink
        | configure setting => exact ⟨⟨_, rfl⟩, haccepted⟩
      obtain ⟨⟨next, hnext⟩, hrest⟩ := hmove
      obtain ⟨made, hmade, hbuilt⟩ := ih hrest next
      refine ⟨made, ?_, hbuilt.cons hnext⟩
      rw [built?, hnext]
      exact hmade

end AnySet

/-! ## What settings leave in the query -/

/-- Settings take the place of a query's own, and of its lists of fields those that were set. -/
theorem Query.withOptions_overwritten (query : Query) (configured : Settings)
    (settings : List Setting) :
    query.withOptions ((QueryOptions.ofSettings configured).overwritten settings) =
      { query with
        toSettings := ((QueryOptions.ofSettings configured).overwritten settings).toSettings
        expand := (Setting.last? Setting.expand? settings).getD query.expand
        select := (Setting.last? Setting.select? settings).getD query.select } := by
  simp only [withOptions, QueryOptions.overwritten, QueryOptions.ofSettings, Option.or_none]

/-- Options are written over a query that was compiled without them. -/
theorem Expr.compile_eq_withOptions (chain : Expr) (options : QueryOptions) :
    chain.compile options =
      (fun plain => plain.withOptions options) <$> chain.compile .default := by
  rw [compile, compile]
  cases Draft.start.addChain chain.fold with
  | error cause => rfl
  | ok draft =>
      show (do return (← draft.finish chain.fold).withOptions options) =
        _ <$> (do return (← draft.finish chain.fold).withOptions .default)
      cases draft.finish chain.fold <;> rfl

/-! ## Interleavings -/

/-- Settings and operators commute. However moves are interleaved, if no operator among them is
refused they make a set of a repository's items. Its chain is the source with the calls in their
order, and its options are the configured ones with the last value of each setting. Every other row
of moves with the same calls and the same last values makes a set that compiles alike. The query is
the one of the calls alone, but for the settings and for the lists of fields, which are those that
were set explicitly where any were. -/
theorem Repository.settings_commute (repository : Repository) (itemType : ItemType α)
    {moves : List Move}
    (haccepted : ∀ call ∈ Move.calls moves, Operator.isDisallowed call.1 = false) :
    ∃ made, AnySet.built? ⟨repository.contentOf itemType⟩ moves = some made ∧
      made.set.chain = (Expr.source itemType.name).continuedBy (Move.calls moves) ∧
      made.set.options =
        (QueryOptions.ofSettings repository.config.query).overwritten (Move.settings moves) ∧
      (∀ others, Move.calls others = Move.calls moves →
        Setting.SameLast (Move.settings others) (Move.settings moves) →
        ∃ other, AnySet.built? ⟨repository.contentOf itemType⟩ others = some other ∧
          other.set.chain = made.set.chain ∧ other.set.options = made.set.options ∧
          other.set.compile = made.set.compile) ∧
      made.set.chain.compile made.set.options =
        (fun plain : Query => { plain with
          toSettings := made.set.options.toSettings
          expand := (Setting.last? Setting.expand? (Move.settings moves)).getD plain.expand
          select := (Setting.last? Setting.select? (Move.settings moves)).getD plain.select }) <$>
        ((Expr.source itemType.name).continuedBy (Move.calls moves)).compile .default := by
  let start : AnySet := ⟨repository.contentOf itemType⟩
  obtain ⟨made, hmade, hbuilt⟩ := AnySet.exists_built? haccepted start
  refine ⟨made, hmade, hbuilt.chain, hbuilt.options, ?_, ?_⟩
  · intro others hcalls hlast
    rw [← hcalls] at haccepted
    obtain ⟨other, hother, hbuiltOther⟩ := AnySet.exists_built? haccepted start
    have hchain : other.set.chain = made.set.chain := by
      rw [hbuiltOther.chain, hbuilt.chain, hcalls]
    have hoptions : other.set.options = made.set.options := by
      rw [hbuiltOther.options, hbuilt.options, QueryOptions.overwritten_congr hlast]
    refine ⟨other, hother, hchain, hoptions, ?_⟩
    rw [ContentSet.compile, hchain, hoptions, ContentSet.compile]
  · rw [Expr.compile_eq_withOptions, hbuilt.chain, hbuilt.options]
    refine congrArg (fun f => f <$> _) (funext fun plain => ?_)
    exact plain.withOptions_overwritten repository.config.query (Move.settings moves)

/-- A page of managers. The list of fields to expand is set before the projection that would ask for
one, and the autofilters are switched twice. -/
def Move.managerPage : List Move :=
  [.configure (.expand ["Owner"]), .configure (.autofilters .disabled),
    .extend (.project [.reference "Manager"]), .configure (.autofilters .enabled),
    .extend (.take 5)]

/-- The explicit list stands in the query, and the moves with both settings at the end, each made
once, are worth the same. -/
theorem Repository.settings_commute_of_managerPage :
    let start : AnySet := ⟨(Repository.mk (.memory []) .default).content⟩
    ∃ made other, start.built? Move.managerPage = some made ∧
      start.built? [.extend (.project [.reference "Manager"]), .extend (.take 5),
        .configure (.autofilters .enabled), .configure (.expand ["Owner"])] = some other ∧
      other.set.compile = made.set.compile ∧
      ∃ query, made.set.chain.compile made.set.options = .ok query ∧ query.expand = ["Owner"] ∧
        query.select = ["Manager"] ∧ query.top = some 5 ∧ query.autofilters = .enabled := by
  intro start
  have hplain : ((Expr.source Content.itemType.name).continuedBy
      (Move.calls Move.managerPage)).compile .default =
        .ok { Query.all with select := ["Manager"], expand := ["Manager"], top := some 5 } := by
    cbv
  obtain ⟨made, hmade, -, hoptions, hothers, hcompile⟩ :=
    Repository.settings_commute ⟨.memory [], .default⟩ Content.itemType
      (show ∀ call ∈ Move.calls Move.managerPage, Operator.isDisallowed call.1 = false by decide)
  obtain ⟨other, hother, -, -, hsame⟩ := hothers
    [.extend (.project [.reference "Manager"]), .extend (.take 5),
      .configure (.autofilters .enabled), .configure (.expand ["Owner"])]
    rfl ⟨rfl, rfl, rfl, rfl, rfl, rfl⟩
  rw [hplain] at hcompile
  refine ⟨made, other, hmade, hother, hsame, _, hcompile, rfl, rfl, rfl, ?_⟩
  show made.set.options.autofilters = .enabled
  rw [hoptions]
  rfl

end ContentQuery
