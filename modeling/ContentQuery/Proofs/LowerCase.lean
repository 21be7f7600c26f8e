/-
# Lower case is final

Lower-casing a text that is in lower case changes nothing. For single characters this is a property
of the mapping's table: what a run of code points is mapped to lies in no run. The context matters
for two characters only, the capital sigma and the capital I with a dot, and neither of them is
left in a lower-cased text.
-/

import ContentQuery.Text.LowerCase

namespace ContentQuery.Text

/-! ## The table -/

namespace CaseRun

/-- The code point that a run maps a code point to. -/
def target (run : CaseRun) (codePoint : Nat) : Nat := (codePoint + run.offset : Int).toNat

/-- Whether what a run is mapped to lies outside another run, either before it, after it, or
between its code points. -/
def avoids (run other : CaseRun) : Bool :=
  Nat.blt (run.target run.last) other.first || Nat.blt other.last (run.target run.first) ||
    (Nat.beq other.stride 2 && (Nat.beq run.stride 2 || Nat.beq run.first run.last) &&
      Nat.beq ((run.target run.first + other.first) % 2) 1)

/-- Whether a run is mapped to characters above ASCII other than the two whose lower case depends
on the context. The sign for the kelvin is the one capital above ASCII whose lower case is below. -/
def landsAbove (run : CaseRun) : Bool :=
  let first := run.target run.first
  let last := run.target run.last
  0 ≤ run.first + run.offset && last < 0x110000 && (last < 0xD800 || 0xDFFF < first) &&
    (last < 'Σ'.toNat || 'Σ'.toNat < first) && (last < 'İ'.toNat || 'İ'.toNat < first) &&
    (0x80 ≤ first || (run.first == run.last && first == 'k'.toNat))

end CaseRun

theorem avoids_of_mem {run other : CaseRun} (hrun : run ∈ lowerCaseRuns)
    (hother : other ∈ lowerCaseRuns) : run.avoids other = true := by
  have hall : (lowerCaseRuns.all fun run => lowerCaseRuns.all run.avoids) = true := by
    decide +kernel
  exact List.all_eq_true.mp (List.all_eq_true.mp hall run hrun) other hother

theorem landsAbove_of_mem {run : CaseRun} (hrun : run ∈ lowerCaseRuns) :
    run.landsAbove = true := by
  have hall : lowerCaseRuns.all CaseRun.landsAbove = true := by
    decide +kernel
  exact List.all_eq_true.mp hall run hrun

/-- The two ends of a run and what they are mapped to, for a code point between them. -/
theorem target_between {run : CaseRun} {codePoint : Nat} (hrun : run ∈ lowerCaseRuns)
    (hhas : run.has codePoint = true) :
    run.first ≤ codePoint ∧ codePoint ≤ run.last ∧ (codePoint - run.first) % run.stride = 0 ∧
      run.target codePoint = run.target run.first + (codePoint - run.first) ∧
      run.target run.last = run.target run.first + (run.last - run.first) := by
  have hlands := landsAbove_of_mem hrun
  simp only [CaseRun.landsAbove, Bool.and_eq_true, decide_eq_true_eq] at hlands
  obtain ⟨⟨⟨⟨⟨hstart, -⟩, -⟩, -⟩, -⟩, -⟩ := hlands
  simp only [CaseRun.has, Bool.and_eq_true, decide_eq_true_eq, beq_iff_eq] at hhas
  obtain ⟨⟨hfirst, hlast⟩, hstride⟩ := hhas
  simp only [CaseRun.target]
  exact ⟨hfirst, hlast, hstride, by omega, by omega⟩

/-- What a code point of a run is mapped to is mapped no further. -/
theorem find?_has_target {run : CaseRun} {codePoint : Nat} (hrun : run ∈ lowerCaseRuns)
    (hhas : run.has codePoint = true) :
    lowerCaseRuns.find? (·.has (run.target codePoint)) = none := by
  obtain ⟨hfirst, hlast, hstep, htarget, hend⟩ := target_between hrun hhas
  refine List.find?_eq_none.mpr fun other hother hin => ?_
  have havoids := avoids_of_mem hrun hother
  simp only [CaseRun.avoids, Bool.and_eq_true, Bool.or_eq_true, Nat.blt_eq, Nat.beq_eq] at havoids
  simp only [CaseRun.has, Bool.and_eq_true, decide_eq_true_eq, beq_iff_eq] at hin
  obtain ⟨⟨habove, hbelow⟩, hother⟩ := hin
  rcases havoids with (hbefore | hafter) | ⟨⟨hstride, hstride' | hsingle⟩, hodd⟩
  · omega
  · omega
  · rw [hstride'] at hstep
    rw [hstride] at hother
    omega
  · rw [hstride] at hother
    omega

/-! ## Characters -/

/-- A character that lower-casing leaves as it is, wherever it stands. -/
def IsLower (c : Char) : Prop := c ≠ 'Σ' ∧ c ≠ 'İ' ∧ lowerCaseChar c = c

instance (c : Char) : Decidable (IsLower c) := inferInstanceAs (Decidable (_ ∧ _))

theorem isLower_toLower {c : Char} (hascii : c.toNat < 0x80) : IsLower c.toLower := by
  have hall : ∀ codePoint < 0x80, IsLower (Char.ofNat codePoint).toLower := by
    decide
  rw [← Char.ofNat_toNat c]
  exact hall c.toNat hascii

theorem isLower_of_target {run : CaseRun} {codePoint : Nat} (hrun : run ∈ lowerCaseRuns)
    (hhas : run.has codePoint = true) : IsLower (Char.ofNat (run.target codePoint)) := by
  obtain ⟨hfirst, hlast, -, htarget, hend⟩ := target_between hrun hhas
  have hlands := landsAbove_of_mem hrun
  simp only [CaseRun.landsAbove, Bool.and_eq_true, Bool.or_eq_true, decide_eq_true_eq,
    beq_iff_eq] at hlands
  obtain ⟨⟨⟨⟨⟨-, hrange⟩, hsurrogate⟩, hsigma⟩, hdotted⟩, habove⟩ := hlands
  have htoNat : (Char.ofNat (run.target codePoint)).toNat = run.target codePoint := by
    have hvalid : (run.target codePoint).isValidChar := by
      rw [Nat.isValidChar]
      omega
    rw [Char.ofNat, dif_pos hvalid]
    rfl
  refine ⟨fun hsame => ?_, fun hsame => ?_, ?_⟩
  · rw [hsame] at htoNat
    omega
  · rw [hsame] at htoNat
    omega
  · rcases habove with habove | ⟨hsingle, hkelvin⟩
    · have hascii : ¬ (Char.ofNat (run.target codePoint)).val < 0x80 := by
        rw [UInt32.lt_iff_toNat_lt]
        show ¬ (Char.ofNat (run.target codePoint)).toNat < 0x80
        omega
      rw [lowerCaseChar, if_neg hascii, htoNat, find?_has_target hrun hhas]
    · have hkelvin : run.target codePoint = 'k'.toNat := by omega
      rw [hkelvin]
      decide

/-- One step takes any character to one that stays as it is. -/
theorem isLower_lowerCaseChar {c : Char} (hsigma : c ≠ 'Σ') (hdotted : c ≠ 'İ') :
    IsLower (lowerCaseChar c) := by
  by_cases hascii : c.val < 0x80
  · rw [lowerCaseChar, if_pos hascii]
    exact isLower_toLower (UInt32.lt_iff_toNat_lt.mp hascii)
  · cases hfind : lowerCaseRuns.find? (·.has c.toNat) with
    | none =>
        have hsame : lowerCaseChar c = c := by
          rw [lowerCaseChar, if_neg hascii, hfind]
        rw [hsame]
        exact ⟨hsigma, hdotted, hsame⟩
    | some run =>
        rw [lowerCaseChar, if_neg hascii, hfind]
        have hhas : run.has c.toNat = true := by
          simpa using List.find?_some hfind
        exact isLower_of_target (List.mem_of_find?_eq_some hfind) hhas

/-- No such character is one of the capitals of ASCII. -/
theorem IsLower.isUpper_eq_false {c : Char} (hlower : IsLower c) : c.isUpper = false := by
  have hall : ∀ codePoint < 0x80, IsLower (Char.ofNat codePoint) →
      (Char.ofNat codePoint).isUpper = false := by
    decide
  by_cases hascii : c.toNat < 0x80
  · have hchar := hall c.toNat hascii
    rw [Char.ofNat_toNat] at hchar
    exact hchar hlower
  · refine decide_eq_false ?_
    rintro ⟨-, hlast⟩
    have hlast : c.toNat ≤ 'Z'.toNat := UInt32.le_iff_toNat_le.mp hlast
    exact hascii (Nat.lt_of_le_of_lt hlast (by decide))

/-! ## Texts -/

/-- All characters of a lower-cased text are final, whatever stands around them. -/
theorem isLower_of_mem_lowerCaseAfter {before text : List Char} {c : Char}
    (hc : c ∈ lowerCaseAfter before text) : IsLower c := by
  induction text generalizing before with
  | nil => cases hc
  | cons first rest ih =>
      rw [lowerCaseAfter, List.mem_append] at hc
      rcases hc with hmapped | hrest
      · by_cases hsigma : first = 'Σ'
        · rw [if_pos hsigma, List.mem_singleton] at hmapped
          rw [hmapped]
          by_cases hends : endsWord before rest = true
          · rw [if_pos hends]
            decide
          · rw [if_neg hends]
            decide
        · rw [if_neg hsigma] at hmapped
          by_cases hdotted : first = 'İ'
          · rw [if_pos hdotted] at hmapped
            have hboth : ∀ mapped ∈ ['i', '\u0307'], IsLower mapped :=
              List.forall_mem_cons.mpr ⟨by decide, List.forall_mem_singleton.mpr (by decide)⟩
            exact hboth c hmapped
          · rw [if_neg hdotted, List.mem_singleton] at hmapped
            rw [hmapped]
            exact isLower_lowerCaseChar hsigma hdotted
      · exact ih hrest

/-- A text of final characters is its own lower case. -/
theorem lowerCaseAfter_eq_self {before text : List Char} (hlower : ∀ c ∈ text, IsLower c) :
    lowerCaseAfter before text = text := by
  induction text generalizing before with
  | nil => rfl
  | cons first rest ih =>
      obtain ⟨hsigma, hdotted, hsame⟩ := hlower first List.mem_cons_self
      rw [lowerCaseAfter, if_neg hsigma, if_neg hdotted, hsame,
        ih fun c hc => hlower c (List.mem_cons_of_mem first hc)]
      rfl

theorem isLower_of_mem_lowerCase {text : String} {c : Char} (hc : c ∈ (lowerCase text).toList) :
    IsLower c := by
  rw [lowerCase, String.toList_ofList] at hc
  exact isLower_of_mem_lowerCaseAfter hc

theorem lowerCase_of_isLower {text : List Char} (hlower : ∀ c ∈ text, IsLower c) :
    lowerCase (String.ofList text) = String.ofList text := by
  rw [lowerCase, String.toList_ofList, lowerCaseAfter_eq_self hlower]

/-- Lower-casing is idempotent. -/
theorem lowerCase_lowerCase (text : String) : lowerCase (lowerCase text) = lowerCase text := by
  have hlower : ∀ c ∈ (lowerCase text).toList, IsLower c := fun _ => isLower_of_mem_lowerCase
  have hagain := lowerCase_of_isLower hlower
  rwa [String.ofList_toList] at hagain

end ContentQuery.Text
