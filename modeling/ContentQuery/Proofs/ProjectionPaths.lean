/-
# The paths of a projection

Each argument of a projection asks for one path. The list of fields to select keeps of these paths
the ones that no other requested path lies below, and the list of fields to expand has the parts of
them that end at a reference. This module says what an argument asks for without the compiler, and
proves of both lists that nothing stands in them twice, that they keep the order in which things
were first asked for, and that they hold exactly what they should. The list of fields to select is
as short as it can be, and nothing is lost by that: a path that was dropped lies above one that was
kept. There may be several dropped paths on the way down to it.
-/

import Mathlib
import ContentQuery.Chain.Projection
import ContentQuery.Proofs.Outcome

namespace ContentQuery

open Outcome

/-! ## What is asked for -/

namespace PathStep

/-- The name of a step as it stands in a path; its points are slashes there. -/
def label (step : PathStep) : String := step.name.map fun c => if c = '.' then '/' else c

/-- The path of steps: their labels with slashes between them, from the first one on that has
anything in it. -/
def path (steps : List PathStep) : String :=
  "/".intercalate ((steps.map label).dropWhile (· == ""))

/-- Whether steps end at a reference. -/
def endAtReference (steps : List PathStep) : Bool :=
  steps.getLast?.any fun step => step.kind == .reference

/-- The paths along steps that end at a reference, the shortest first. -/
def referencePaths (steps : List PathStep) : List String :=
  (steps.inits.filter endAtReference).map path

end PathStep

namespace Projection

open PathStep

/-- `Reaches steps e` says that the steps lead from the current item to an expression. -/
inductive Reaches : List PathStep → Expr → Prop
  | item : Reaches [] .item
  | member {steps : List PathStep} {target : Expr} (htarget : Reaches steps target) (name : String)
      (kind : MemberKind) : Reaches (steps ++ [⟨name, kind⟩]) (.member target name kind)
  | index {steps : List PathStep} {target : Expr} (htarget : Reaches steps target) (key : String) :
      Reaches (steps ++ [⟨key, .scalar⟩]) (.index target key)

/-- An argument asks for what at least one step leads to, or for one conversion of it. -/
def AsksFor (argument : Expr) (steps : List PathStep) : Prop :=
  steps ≠ [] ∧ (Reaches steps argument ∨
    ∃ operand nullable, argument = .convert operand nullable ∧ Reaches steps operand)

/-- A path lies above another one: the other one goes on after it with a slash. -/
def IsParent (parent path : String) : Prop := (parent ++ "/").toList <+: path.toList

theorem stepsTo?_eq_some {e : Expr} {steps : List PathStep} :
    stepsTo? e = some steps ↔ Reaches steps e := by
  constructor
  · intro hsteps
    induction e using stepsTo?.induct generalizing steps with
    | case1 =>
        obtain rfl := Option.some.inj hsteps
        exact .item
    | case2 target name kind ih =>
        obtain ⟨earlier, hearlier, rfl⟩ := Option.map_eq_some_iff.mp hsteps
        exact .member (ih hearlier) name kind
    | case3 target key ih =>
        obtain ⟨earlier, hearlier, rfl⟩ := Option.map_eq_some_iff.mp hsteps
        exact .index (ih hearlier) key
    | case4 e hitem hmember hindex =>
        rw [stepsTo?.eq_4 e hitem hmember hindex] at hsteps
        cases hsteps
  · intro hreaches
    induction hreaches with
    | item => rfl
    | member htarget name kind ih => rw [stepsTo?, ih, Option.map_some]
    | index htarget key ih => rw [stepsTo?, ih, Option.map_some]

/-- A conversion is no chain of members. -/
theorem not_reaches_convert {steps : List PathStep} {operand : Expr} {nullable : Bool} :
    ¬Reaches steps (.convert operand nullable) := by
  rintro ⟨⟩

theorem argumentSteps?_eq_some {argument : Expr} {steps : List PathStep} :
    argumentSteps? argument = some steps ↔ AsksFor argument steps := by
  have hsteps : argumentSteps? argument = some steps ↔
      steps ≠ [] ∧ stepsTo? (stripConversion argument) = some steps := by
    unfold argumentSteps?
    rcases stepsTo? (stripConversion argument) with _ | _ | ⟨step, rest⟩
    · simp
    · simp [eq_comm]
    · simp only [Option.some.injEq]
      constructor
      · rintro rfl
        exact ⟨List.cons_ne_nil _ _, rfl⟩
      · rintro ⟨-, hsame⟩
        exact hsame
  rw [hsteps, AsksFor, stepsTo?_eq_some]
  refine and_congr_right fun _ => ?_
  cases argument with
  | convert operand nullable => simp [stripConversion, not_reaches_convert]
  | _ => simp [stripConversion]

/-! ## Paths, step by step -/

theorem intercalate_ne_empty {first : String} (hfirst : first ≠ "") (rest : List String) :
    "/".intercalate (first :: rest) ≠ "" := by
  cases rest with
  | nil => rwa [String.intercalate_singleton]
  | cons second rest =>
      rw [String.intercalate_cons_cons, ne_eq, String.append_eq_empty_iff,
        String.append_eq_empty_iff]
      exact fun hempty => hfirst hempty.1.1

/-- A path with one step more. Where nothing stands before the step, its label has no slash before
it. -/
theorem joinPath_path (steps : List PathStep) (step : PathStep) :
    joinPath (path steps) step.name = path (steps ++ [step]) := by
  have hjoin : joinPath (path steps) step.name =
      (if path steps = "" then "" else path steps ++ "/") ++ step.label := rfl
  rw [hjoin, path, path, List.map_append, List.map_singleton, List.dropWhile_append]
  cases hlabels : (steps.map label).dropWhile (· == "") with
  | nil =>
      rw [String.intercalate_nil, if_pos rfl, String.empty_append, List.isEmpty_nil, if_pos rfl]
      by_cases hempty : step.label = ""
      · rw [hempty]
        rfl
      · rw [List.dropWhile_cons_of_neg (by simpa using hempty), String.intercalate_singleton]
  | cons first rest =>
      have hfirst : first ≠ "" := by
        have hhead := List.head?_dropWhile_not (· == "") (steps.map label)
        rw [hlabels] at hhead
        simpa using hhead
      rw [if_neg (intercalate_ne_empty hfirst rest), List.isEmpty_cons, if_neg Bool.false_ne_true,
        String.intercalate_append_of_ne_nil (List.cons_ne_nil _ _) (List.cons_ne_nil _ _),
        String.intercalate_singleton]

theorem referencePaths_append_singleton (steps : List PathStep) (step : PathStep) :
    referencePaths (steps ++ [step]) =
      referencePaths steps ++ if step.kind = .reference then [path (steps ++ [step])] else [] := by
  have hinits : (steps ++ [step]).inits = steps.inits ++ [steps ++ [step]] := by
    rw [List.inits_append]
    rfl
  rw [referencePaths, referencePaths, hinits, List.filter_append, List.map_append]
  by_cases hkind : step.kind = .reference <;> simp [endAtReference, hkind]

theorem followSteps_append (start : String) (expand : List String) (first second : List PathStep) :
    followSteps start expand (first ++ second) =
      followSteps (followSteps start expand first).1 (followSteps start expand first).2 second := by
  induction first generalizing start expand with
  | nil => rfl
  | cons step rest ih => exact ih _ _

/-- Following steps comes to their path, and adds the paths on the way that end at a reference. -/
theorem followSteps_eq (expand : List String) (steps : List PathStep) :
    followSteps "" expand steps = (path steps, (referencePaths steps).foldl pushUnique expand) := by
  induction steps using List.reverseRecOn with
  | nil => rfl
  | append_singleton steps step ih =>
      rw [followSteps_append, ih, followSteps, followSteps, joinPath_path,
        referencePaths_append_singleton, List.foldl_append]
      by_cases hkind : step.kind = .reference
      · rw [if_pos hkind, if_pos hkind]
        rfl
      · rw [if_neg hkind, if_neg hkind]
        rfl

/-! ## All arguments -/

/-- The paths that the arguments of a projection ask for, in their order. -/
def requested (chains : List (List PathStep)) : List String := chains.map path

/-- The paths along the arguments that end at a reference, in the order in which they are come
to. -/
def references (chains : List (List PathStep)) : List String := chains.flatMap referencePaths

/-- Adding to a list what it does not hold yet keeps the first of equal entries. -/
theorem foldl_pushUnique (paths : List String) : paths.foldl pushUnique [] = paths.eraseDups := by
  induction paths using List.reverseRecOn with
  | nil => rfl
  | append_singleton paths path ih =>
      rw [List.foldl_append, ih, List.foldl_cons, List.foldl_nil, List.eraseDups_append,
        pushUnique, List.contains_eq_mem]
      by_cases hmem : path ∈ paths
      · simp [hmem, List.removeAll]
      · simp [hmem, List.removeAll, List.eraseDups_cons]

theorem addArgument_eq (projection : Projection) (steps : List PathStep) :
    projection.addArgument steps =
      ⟨pushUnique projection.select (path steps),
        (referencePaths steps).foldl pushUnique projection.expand⟩ := by
  rw [addArgument, followSteps_eq]

theorem foldl_addArgument (chains : List (List PathStep)) (projection : Projection) :
    chains.foldl addArgument projection =
      ⟨(requested chains).foldl pushUnique projection.select,
        (references chains).foldl pushUnique projection.expand⟩ := by
  induction chains generalizing projection with
  | nil => rfl
  | cons steps rest ih =>
      rw [List.foldl_cons, ih, addArgument_eq, references, references, List.flatMap_cons,
        List.foldl_append]
      rfl

/-- The arguments are added if each of them asks for something, and then they are added in turn. -/
theorem addArguments_eq_ok {projection result : Projection} {position : Nat}
    {arguments : List Expr} :
    projection.addArguments position arguments = .ok result ↔
      ∃ chains, List.Forall₂ AsksFor arguments chains ∧
        chains.foldl addArgument projection = result := by
  induction arguments generalizing projection position with
  | nil => simp [addArguments]
  | cons argument rest ih =>
      rw [addArguments]
      constructor
      · intro hadd
        cases hsteps : argumentSteps? argument with
        | none =>
            rw [hsteps] at hadd
            cases hadd
        | some steps =>
            rw [hsteps] at hadd
            obtain ⟨chains, hchains, hresult⟩ := ih.mp hadd
            exact ⟨steps :: chains, .cons (argumentSteps?_eq_some.mp hsteps) hchains, hresult⟩
      · rintro ⟨_, hasked, hresult⟩
        cases hasked with
        | cons hsteps hchains =>
            rw [argumentSteps?_eq_some.mpr hsteps]
            exact ih.mpr ⟨_, hchains, hresult⟩

/-- The projection of the steps that its arguments ask for. -/
def ofChains (chains : List (List PathStep)) : Projection :=
  minimal ⟨(requested chains).eraseDups, (references chains).eraseDups⟩

/-- A projection compiles exactly if each of its arguments asks for something. -/
theorem ofBody_project_eq_ok {arguments : List Expr} {projection : Projection} :
    ofBody (.project arguments) = .ok projection ↔
      ∃ chains, List.Forall₂ AsksFor arguments chains ∧ ofChains chains = projection := by
  have hresult (chains : List (List PathStep)) :
      (chains.foldl addArgument ⟨[], []⟩).minimal = ofChains chains := by
    rw [foldl_addArgument, foldl_pushUnique, foldl_pushUnique]
    rfl
  rw [Expr.project, ofBody, if_pos rfl]
  constructor
  · intro hbody
    obtain ⟨added, hadd, rfl⟩ := map_eq_ok.mp hbody
    obtain ⟨chains, hchains, rfl⟩ := addArguments_eq_ok.mp hadd
    exact ⟨chains, hchains, (hresult chains).symm⟩
  · rintro ⟨chains, hchains, rfl⟩
    exact map_eq_ok.mpr ⟨_, addArguments_eq_ok.mpr ⟨chains, hchains, rfl⟩, hresult chains⟩

/-! ## First occurrences -/

/-- The first occurrences of entries keep their order. -/
theorem pairwise_eraseDups (paths : List String) :
    paths.eraseDups.Pairwise fun first second => paths.idxOf first < paths.idxOf second := by
  induction paths using List.reverseRecOn with
  | nil => exact .nil
  | append_singleton paths path ih =>
      have hplace : ∀ entry ∈ paths.eraseDups,
          (paths ++ [path]).idxOf entry = paths.idxOf entry := fun entry hentry =>
        List.idxOf_append_of_mem (List.mem_eraseDups.mp hentry)
      have hearlier : paths.eraseDups.Pairwise fun first second =>
          (paths ++ [path]).idxOf first < (paths ++ [path]).idxOf second := by
        refine ih.imp_of_mem fun hfirst hsecond hlt => ?_
        rwa [hplace _ hfirst, hplace _ hsecond]
      rw [List.eraseDups_append]
      by_cases hmem : path ∈ paths
      · simpa [List.removeAll, hmem] using hearlier
      · have hlast : ([path].removeAll paths).eraseDups = [path] := by
          simp [List.removeAll, hmem, List.eraseDups_cons]
        rw [hlast, List.pairwise_append]
        refine ⟨hearlier, List.pairwise_singleton _ _, fun first hfirst second hsecond => ?_⟩
        -- the new entry stands behind all others
        rw [List.mem_singleton.mp hsecond, hplace first hfirst,
          List.idxOf_append_of_notMem hmem, List.idxOf_cons_self]
        exact List.idxOf_lt_length_of_mem (List.mem_eraseDups.mp hfirst)

theorem nodup_of_pairwise_idxOf {entries paths : List String}
    (hordered : entries.Pairwise fun first second => paths.idxOf first < paths.idxOf second) :
    entries.Nodup := by
  refine hordered.imp fun hlt => ?_
  rintro rfl
  exact Nat.lt_irrefl _ hlt

/-! ## Paths below paths -/

theorem isBelow_iff {path parent : String} : isBelow path parent = true ↔ IsParent parent path :=
  List.isPrefixOf_iff_prefix

namespace IsParent

variable {parent path below : String}

theorem length_lt (hparent : IsParent parent path) : parent.length < path.length := by
  have hlength := hparent.length_le
  rw [String.toList_append, List.length_append] at hlength
  exact hlength

theorem trans (hparent : IsParent parent path) (hbelow : IsParent path below) :
    IsParent parent below := by
  have hpath : path.toList <+: (path ++ "/").toList := by
    rw [String.toList_append]
    exact List.prefix_append _ _
  exact List.IsPrefix.trans (List.IsPrefix.trans hparent hpath) hbelow

end IsParent

/-- From every path there is a way down to one that no other lies below: the longest of those at or
below it. -/
theorem exists_lowest {paths : List String} {path : String} (hpath : path ∈ paths) :
    ∃ lowest ∈ paths, (path = lowest ∨ IsParent path lowest) ∧
      ∀ other ∈ paths, ¬IsParent lowest other := by
  classical
  let way := paths.toFinset.filter fun lower => path = lower ∨ IsParent path lower
  have hway {lower : String} :
      lower ∈ way ↔ lower ∈ paths ∧ (path = lower ∨ IsParent path lower) := by
    simp [way]
  obtain ⟨lowest, hlowest, hlongest⟩ :=
    way.exists_max_image String.length ⟨path, hway.mpr ⟨hpath, .inl rfl⟩⟩
  obtain ⟨hmem, hbelow⟩ := hway.mp hlowest
  refine ⟨lowest, hmem, hbelow, fun other hother hparent => ?_⟩
  have hotherWay : other ∈ way := by
    refine hway.mpr ⟨hother, .inr ?_⟩
    rcases hbelow with rfl | hbelow
    · exact hparent
    · exact hbelow.trans hparent
  exact Nat.not_lt.mpr (hlongest other hotherWay) hparent.length_lt

theorem mem_select_ofChains {chains : List (List PathStep)} {path : String} :
    path ∈ (ofChains chains).select ↔
      path ∈ requested chains ∧ ∀ other ∈ requested chains, ¬IsParent path other := by
  simp [ofChains, minimal, ← isBelow_iff]

theorem endAtReference_iff {steps : List PathStep} :
    endAtReference steps = true ↔
      ∃ before step, steps = before ++ [step] ∧ step.kind = .reference := by
  rw [endAtReference, Option.any_eq_true]
  constructor
  · rintro ⟨step, hlast, hkind⟩
    obtain ⟨before, rfl⟩ := List.getLast?_eq_some_iff.mp hlast
    exact ⟨before, step, rfl, beq_iff_eq.mp hkind⟩
  · rintro ⟨before, step, rfl, hkind⟩
    exact ⟨step, List.getLast?_concat, beq_iff_eq.mpr hkind⟩

theorem mem_references {chains : List (List PathStep)} {entry : String} :
    entry ∈ references chains ↔
      ∃ steps ∈ chains, ∃ before step after, steps = before ++ step :: after ∧
        step.kind = .reference ∧ entry = path (before ++ [step]) := by
  rw [references, List.mem_flatMap]
  refine exists_congr fun steps => and_congr_right fun _ => ?_
  rw [referencePaths, List.mem_map]
  constructor
  · rintro ⟨part, hpart, rfl⟩
    obtain ⟨hinits, hend⟩ := List.mem_filter.mp hpart
    obtain ⟨before, step, rfl, hkind⟩ := endAtReference_iff.mp hend
    obtain ⟨after, rfl⟩ := (List.mem_inits _ _).mp hinits
    exact ⟨before, step, after, List.append_assoc _ _ _, hkind, rfl⟩
  · rintro ⟨before, step, after, rfl, hkind, rfl⟩
    refine ⟨before ++ [step], List.mem_filter.mpr ⟨?_, ?_⟩, rfl⟩
    · exact (List.mem_inits _ _).mpr ⟨after, List.append_assoc _ _ _⟩
    · exact endAtReference_iff.mpr ⟨before, step, rfl, hkind⟩

/-- The lists of a projection are right for the steps that its arguments ask for. -/
structure IsMinimalFor (projection : Projection) (chains : List (List PathStep)) : Prop where
  /-- No field is selected twice. -/
  nodup_select : projection.select.Nodup
  /-- Fields are selected in the order in which they were first asked for. -/
  ordered_select : projection.select.Pairwise fun first second =>
    (requested chains).idxOf first < (requested chains).idxOf second
  /-- Nothing is selected that was not asked for. -/
  requested_of_mem : ∀ path ∈ projection.select, path ∈ requested chains
  /-- No field is selected that another one already brings along. -/
  minimal_select : ∀ parent ∈ projection.select, ∀ path ∈ projection.select,
    ¬IsParent parent path
  /-- Everything that was asked for is selected or comes with a field below it. -/
  complete_select : ∀ path ∈ requested chains,
    path ∈ projection.select ∨ ∃ entry ∈ projection.select, IsParent path entry
  /-- No field is expanded twice. -/
  nodup_expand : projection.expand.Nodup
  /-- Fields are expanded in the order in which they were first come to. -/
  ordered_expand : projection.expand.Pairwise fun first second =>
    (references chains).idxOf first < (references chains).idxOf second
  /-- Expanded is what lies along an argument and ends at a reference. -/
  mem_expand : ∀ entry, entry ∈ projection.expand ↔
    ∃ steps ∈ chains, ∃ before step after, steps = before ++ step :: after ∧
      step.kind = .reference ∧ entry = path (before ++ [step])

theorem isMinimalFor_ofChains (chains : List (List PathStep)) :
    (ofChains chains).IsMinimalFor chains := by
  have hselect : (ofChains chains).select.Pairwise fun first second =>
      (requested chains).idxOf first < (requested chains).idxOf second :=
    (pairwise_eraseDups (requested chains)).filter _
  have hexpand : (ofChains chains).expand.Pairwise fun first second =>
      (references chains).idxOf first < (references chains).idxOf second :=
    pairwise_eraseDups (references chains)
  constructor
  case nodup_select => exact nodup_of_pairwise_idxOf hselect
  case ordered_select => exact hselect
  case requested_of_mem => exact fun path hpath => (mem_select_ofChains.mp hpath).1
  case minimal_select =>
    intro parent hparent path hpath
    exact (mem_select_ofChains.mp hparent).2 path (mem_select_ofChains.mp hpath).1
  case complete_select =>
    intro path hpath
    obtain ⟨lowest, hmem, hbelow, hlowest⟩ := exists_lowest hpath
    have hentry : lowest ∈ (ofChains chains).select := mem_select_ofChains.mpr ⟨hmem, hlowest⟩
    rcases hbelow with rfl | hbelow
    · exact .inl hentry
    · exact .inr ⟨lowest, hentry, hbelow⟩
  case nodup_expand => exact nodup_of_pairwise_idxOf hexpand
  case ordered_expand => exact hexpand
  case mem_expand => exact fun entry => List.mem_eraseDups.trans mem_references

/-- Whenever a projection compiles, each of its arguments asks for something, and of what they ask
for the projection selects and expands just what is needed, each field once and in the order of the
arguments. -/
theorem isMinimalFor_of_ofBody {arguments : List Expr} {projection : Projection}
    (hbody : ofBody (.project arguments) = .ok projection) :
    ∃ chains, List.Forall₂ AsksFor arguments chains ∧ projection.IsMinimalFor chains := by
  obtain ⟨chains, hchains, rfl⟩ := ofBody_project_eq_ok.mp hbody
  exact ⟨chains, hchains, isMinimalFor_ofChains chains⟩

/-- An organisation, the lead of the organisation, the age of that lead by a dotted name, and a name
with nothing in it: the first two are dropped, each of them above the third, and the last one comes
to the empty path. -/
theorem isMinimalFor_of_leadAge :
    let org := Expr.item.referenceOf "Org"
    let arguments := [org, .convert (org.referenceOf "Lead") true, org.scalar "Lead.Age",
      Expr.field ""]
    ∃ projection, ofBody (.project arguments) = .ok projection ∧
      projection.select = ["Org/Lead/Age", ""] ∧ projection.expand = ["Org", "Org/Lead"] ∧
      ∃ chains, List.Forall₂ AsksFor arguments chains ∧ projection.IsMinimalFor chains := by
  intro org arguments
  have hbody : ofBody (.project arguments) =
      .ok ⟨["Org/Lead/Age", ""], ["Org", "Org/Lead"]⟩ := by
    cbv
  exact ⟨_, hbody, rfl, rfl, isMinimalFor_of_ofBody hbody⟩

end Projection

end ContentQuery
