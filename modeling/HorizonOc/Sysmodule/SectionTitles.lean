import HorizonOc.Sysmodule.ConfigStore

namespace HorizonOc.Sysmodule

open HorizonOc.Data

/-- Sixteen hexadecimal digits, in either case, that spell the title. -/
structure SpellsTitle (heading : String) (titleId : Nat) : Prop where
  length : heading.length = 16
  digits : AllDigits 16 heading.toList
  spelled : readDigits 16 0 heading.toList = titleId

/-- What the value of a line is recorded as. -/
def lineMHz (value : String) : Nat := toU32 (strtoul 10 value.toList)

/-- The line of a section sets the clock of a title that had none. -/
def RecordsTitle (heading key value : String) (profile : Profile) (module : Module) (titleId : Nat) :
    Prop :=
  ∀ config : Config, config.profileMHz titleId profile module = none →
    (config.browseText heading key value).profileMHz titleId profile module = some (lineMHz value)

/-- The line is recorded for the title that the section spells, and changes nothing where the
section spells none. -/
structure TakesTitles (heading key value : String) (profile : Profile) (module : Module) : Prop where
  recorded : ∀ titleId, RecordsTitle heading key value profile module titleId ↔
    SpellsTitle heading titleId ∧ titleId ≠ 0
  skipped : (∀ titleId, SpellsTitle heading titleId → titleId = 0) →
    ∀ config : Config, config.browseText heading key value = config

/-- Of the strings of the right length, those that are all digits, and those whose digits behind
the spaces, the sign and the `0x` are zeros up to the first other character. -/
def DigitsOrZeros (heading : String) : Prop :=
  heading.length = 16 →
    AllDigits 16 heading.toList ∨ ∀ char ∈ convertedDigits 16 heading.toList, char = '0'

section

variable {heading other key value : String} {profile : Profile} {module : Module} {titleId : Nat}

theorem SpellsTitle.strtoul (spells : SpellsTitle heading titleId) :
    Data.strtoul 16 heading.toList = titleId := by
  have bound := readDigits_lt spells.digits 0
  rw [spells.spelled, String.length_toList, spells.length] at bound
  rw [strtoul_of_digits spells.digits, readNumeral, numeralBase_sixteen spells.digits,
    spells.spelled, ulongMax]
  omega

/-- Two sections that spell one title differ in the case of letters only. -/
theorem SpellsTitle.sameLetters (first : SpellsTitle heading titleId)
    (second : SpellsTitle other titleId) :
    heading.toList.map Char.toUpper = other.toList.map Char.toUpper := by
  rw [← paddedDigits_readDigits first.digits, ← paddedDigits_readDigits second.digits,
    first.spelled, second.spelled, String.length_toList, String.length_toList, first.length,
    second.length]

theorem recognise_title (title : heading ≠ configValSection)
    (parsed : parseClockKey key = some (profile, module)) (value : String) :
    recognise heading key value =
      if Data.strtoul 16 heading.toList = 0 ∨ heading.length ≠ 16 then none
      else some (.clock (Data.strtoul 16 heading.toList) profile module (lineMHz value)) := by
  rw [recognise, if_neg title, parsed]
  rfl

theorem browseText_skipped (title : heading ≠ configValSection)
    (parsed : parseClockKey key = some (profile, module))
    (skipped : Data.strtoul 16 heading.toList = 0 ∨ heading.length ≠ 16) (config : Config) :
    config.browseText heading key value = config := by
  rw [Config.browseText, recognise_title title parsed, if_pos skipped]

theorem browseText_recorded (title : heading ≠ configValSection)
    (parsed : parseClockKey key = some (profile, module)) (positive : 0 < lineMHz value)
    (kept : ¬(Data.strtoul 16 heading.toList = 0 ∨ heading.length ≠ 16)) (config : Config) :
    (config.browseText heading key value).profileMHz titleId profile module =
      if titleId = Data.strtoul 16 heading.toList then some (lineMHz value)
      else config.profileMHz titleId profile module := by
  have recorded : ¬(Data.strtoul 16 heading.toList = 0 ∨ lineMHz value = 0) := by
    rintro (zero | unset)
    · exact kept (.inl zero)
    · exact absurd unset (Nat.pos_iff_ne_zero.mp positive)
  rw [Config.browseText, recognise_title title parsed, if_neg kept]
  simp only [Config.browseIniFunc, if_neg recorded, Function.update_apply]
  split
  · rename_i same
    simp
  · rfl

theorem recordsTitle_iff (title : heading ≠ configValSection)
    (parsed : parseClockKey key = some (profile, module)) (positive : 0 < lineMHz value) :
    RecordsTitle heading key value profile module titleId ↔
      titleId = Data.strtoul 16 heading.toList ∧ titleId ≠ 0 ∧ heading.length = 16 := by
  by_cases skipped : Data.strtoul 16 heading.toList = 0 ∨ heading.length ≠ 16
  · constructor
    · intro records
      have set := records .initial rfl
      rw [browseText_skipped title parsed skipped] at set
      contradiction
    · rintro ⟨rfl, nonzero, length⟩
      rcases skipped with zero | other
      · exact absurd zero nonzero
      · exact absurd length other
  · obtain ⟨nonzero, length⟩ := not_or.mp skipped
    constructor
    · intro records
      have set := records .initial rfl
      rw [browseText_recorded title parsed positive skipped] at set
      split at set
      · rename_i same
        exact ⟨same, same ▸ nonzero, not_not.mp length⟩
      · contradiction
    · rintro ⟨same, -, -⟩ config -
      rw [browseText_recorded title parsed positive skipped, if_pos same]

theorem takesTitles_iff (title : heading ≠ configValSection)
    (parsed : parseClockKey key = some (profile, module)) (positive : 0 < lineMHz value) :
    TakesTitles heading key value profile module ↔ DigitsOrZeros heading := by
  have zeros (length : heading.length = 16) : Data.strtoul 16 heading.toList = 0 ↔
      ∀ char ∈ convertedDigits 16 heading.toList, char = '0' :=
    strtoul_sixteen_eq_zero_iff (Nat.le_of_eq (String.length_toList.trans length))
  constructor
  · intro takes length
    by_cases zero : Data.strtoul 16 heading.toList = 0
    · exact .inr ((zeros length).mp zero)
    · have records := (recordsTitle_iff title parsed positive).mpr ⟨rfl, zero, length⟩
      exact .inl ((takes.recorded _).mp records).1.digits
  · intro digits
    constructor
    · intro titleId
      rw [recordsTitle_iff title parsed positive]
      constructor
      · rintro ⟨rfl, nonzero, length⟩
        rcases digits length with all | zero
        · have reads : SpellsTitle heading (readDigits 16 0 heading.toList) := ⟨length, all, rfl⟩
          rw [reads.strtoul] at nonzero ⊢
          exact ⟨reads, nonzero⟩
        · exact absurd ((zeros length).mpr zero) nonzero
      · rintro ⟨spells, nonzero⟩
        exact ⟨spells.strtoul.symm, nonzero, spells.length⟩
    · intro none config
      refine browseText_skipped title parsed ?_ config
      by_contra kept
      obtain ⟨nonzero, length⟩ := not_or.mp kept
      rcases digits (not_not.mp length) with all | zero
      · have reads : SpellsTitle heading (readDigits 16 0 heading.toList) := ⟨not_not.mp length, all, rfl⟩
        rw [reads.strtoul] at nonzero
        exact nonzero (none _ reads)
      · exact nonzero ((zeros (not_not.mp length)).mpr zero)

end

/-- A section of sixteen characters is taken wrongly where they are not all digits but `strtoul`
converts a digit other than 0. -/
theorem section_titles_iff {key value : String} {profile : Profile} {module : Module}
    (parsed : parseClockKey key = some (profile, module)) (positive : 0 < lineMHz value)
    {heading : String} (title : heading ≠ configValSection) :
    (TakesTitles heading key value profile module ↔ DigitsOrZeros heading) ∧
      (DigitsOrZeros heading → ∀ other, other ≠ configValSection → DigitsOrZeros other →
        ∀ titleId, RecordsTitle heading key value profile module titleId →
          RecordsTitle other key value profile module titleId →
            heading.toList.map Char.toUpper = other.toList.map Char.toUpper) := by
  refine ⟨takesTitles_iff title parsed positive, ?_⟩
  intro digits other otherTitle otherDigits titleId first second
  have spells := (((takesTitles_iff title parsed positive).mpr digits).recorded titleId).mp first
  have otherSpells :=
    (((takesTitles_iff otherTitle parsed positive).mpr otherDigits).recorded titleId).mp second
  exact spells.1.sameLetters otherSpells.1

theorem section_titles_iff_handheld_cpu :
    (TakesTitles "0100000000010000" "handheld_cpu" "1020" .handheld .cpu ↔
        DigitsOrZeros "0100000000010000") ∧
      (DigitsOrZeros "0100000000010000" → ∀ other, other ≠ configValSection → DigitsOrZeros other →
        ∀ titleId, RecordsTitle "0100000000010000" "handheld_cpu" "1020" .handheld .cpu titleId →
          RecordsTitle other "handheld_cpu" "1020" .handheld .cpu titleId →
            "0100000000010000".toList.map Char.toUpper = other.toList.map Char.toUpper) :=
  section_titles_iff (by decide +kernel) (by decide +kernel) (by decide +kernel)

/-- A prefix of `0x` and fourteen digits. -/
theorem prefixed_section_is_recorded :
    RecordsTitle "0x01000000000100" "handheld_cpu" "1020" .handheld .cpu 0x01000000000100 ∧
      ¬∀ heading key value : String, heading ≠ configValSection →
        ∀ (profile : Profile) (module : Module), parseClockKey key = some (profile, module) →
          0 < lineMHz value → TakesTitles heading key value profile module := by
  have title : "0x01000000000100" ≠ configValSection := by decide +kernel
  have parsed : parseClockKey "handheld_cpu" = some (.handheld, .cpu) := by decide +kernel
  have positive : 0 < lineMHz "1020" := by decide +kernel
  have records : RecordsTitle "0x01000000000100" "handheld_cpu" "1020" .handheld .cpu
      0x01000000000100 :=
    (recordsTitle_iff title parsed positive).mpr (by decide +kernel)
  refine ⟨records, fun takes => ?_⟩
  have exact := takes _ _ _ title _ _ parsed positive
  have marked : 'x' ∈ "0x01000000000100".toList := by decide +kernel
  obtain ⟨digit, read, bound⟩ := ((exact.recorded _).mp records).1.digits 'x' marked
  have letter : digitValue 'x' = some 33 := by decide
  have value := Option.some.inj (letter.symm.trans read)
  omega

end HorizonOc.Sysmodule
