import HorizonOc.Sysmodule.ConfigStore

namespace HorizonOc.Sysmodule

open HorizonOc.Data

/-- The MHz that a line sets for a title, a profile and a module. -/
def IniItem.mhzFor (titleId : Nat) (profile : Profile) (module : Module) : IniItem → Option Nat
  | .value _ _ => none
  | .clock found first second mhz =>
      if (found ≠ 0 ∧ mhz ≠ 0) ∧ titleId = found ∧ profile = first ∧ module = second then some mhz
      else none

/-- The MHz that a file sets: the last line counts, and no line means 0. -/
def Card.mhz (card : Card) (titleId : Nat) (profile : Profile) (module : Module) : Nat :=
  ((card.configFile.items.filterMap (IniItem.mhzFor titleId profile module)).getLast?).getD 0

/-- The first MHz that is set along the profiles that stand in for one. -/
def Card.fallbackMHz (card : Card) (titleId : Nat) (profile : Profile) (module : Module) : Nat :=
  (((Config.fallbackProfiles profile).map fun other => card.mhz titleId other module).find?
    fun mhz => mhz ≠ 0).getD 0

section

variable (titleId : Nat) (profile : Profile) (module : Module)

theorem browseIniFunc_mhzFor (item : IniItem) (config : Config) :
    (config.browseIniFunc item).profileMHz titleId profile module =
      (item.mhzFor titleId profile module).or (config.profileMHz titleId profile module) := by
  cases item with
  | value kval input => rfl
  | clock found first second mhz =>
      rw [IniItem.mhzFor, Config.browseIniFunc]
      by_cases skipped : found = 0 ∨ mhz = 0
      · have dropped : ¬(found ≠ 0 ∧ mhz ≠ 0) := fun both => skipped.elim both.1 both.2
        rw [if_pos skipped, if_neg fun matching => dropped matching.1]
        rfl
      · rw [if_neg skipped]
        simp only [Function.update_apply]
        by_cases title : titleId = found
        · subst title
          by_cases sameProfile : profile = first
          · subst sameProfile
            by_cases sameModule : module = second
            · simp [sameModule, not_or.mp skipped]
            · simp [sameModule]
          · simp [sameProfile]
        · simp [title]

theorem foldl_browseIniFunc_mhzFor (items : List IniItem) (config : Config) :
    (items.foldl Config.browseIniFunc config).profileMHz titleId profile module =
      ((items.filterMap (IniItem.mhzFor titleId profile module)).getLast?).or
        (config.profileMHz titleId profile module) := by
  induction items generalizing config with
  | nil => rfl
  | cons item rest ih =>
      rw [List.foldl_cons, ih, browseIniFunc_mhzFor]
      cases set : item.mhzFor titleId profile module with
      | none => simp [set]
      | some mhz =>
          rw [List.filterMap_cons_some set, List.getLast?_cons, Option.some_or]
          cases (rest.filterMap (IniItem.mhzFor titleId profile module)).getLast? with
          | none => rfl
          | some last => rfl

theorem load_findClockMHz (config : Config) (card : Card) :
    (config.load card.configFile).findClockMHz titleId module profile =
      card.mhz titleId profile module := by
  rw [Config.findClockMHz, if_pos (Config.load_loaded config card.configFile), Card.mhz]
  cases present : card.file with
  | none => simp [Config.load, Config.close, Card.configFile, present]
  | some file =>
      have stamped : file.modified.seconds ≠ 0 := Nat.pos_iff_ne_zero.mp file.modified.positive
      simp only [Card.configFile, present, Config.load, if_neg stamped]
      rw [foldl_browseIniFunc_mhzFor]
      simp [Config.close]

theorem findMHzFromProfiles_eq (config : Config) (profiles : List Profile) :
    config.findMHzFromProfiles titleId module profiles =
      ((profiles.map (config.findClockMHz titleId module)).find? fun mhz => mhz ≠ 0).getD 0 := by
  induction profiles with
  | nil => rfl
  | cons first rest ih =>
      rw [Config.findMHzFromProfiles, List.map_cons, List.find?_cons]
      by_cases unset : config.findClockMHz titleId module first = 0
      · simp [unset, ih]
      · simp [unset]

theorem load_getAutoClockHz (config : Config) (card : Card) (returnRaw : Bool) :
    (config.load card.configFile).getAutoClockHz titleId module profile returnRaw =
      toU32 (card.fallbackMHz titleId profile module * (if returnRaw then 1 else 1000000)) := by
  have chain : (config.load card.configFile).findClockMHz titleId module =
      fun other => card.mhz titleId other module :=
    funext fun other => load_findClockMHz titleId other module config card
  rw [Config.getAutoClockHz, Config.findClockHzFromProfiles, findMHzFromProfiles_eq, chain,
    Card.fallbackMHz]

theorem fallbackMHz_eq_zero_iff (card : Card) :
    card.fallbackMHz titleId profile module = 0 ↔
      ∀ other ∈ Config.fallbackProfiles profile, card.mhz titleId other module = 0 := by
  rw [Card.fallbackMHz]
  cases found : ((Config.fallbackProfiles profile).map fun other =>
      card.mhz titleId other module).find? fun mhz => mhz ≠ 0 with
  | none => simpa using List.find?_eq_none.mp found
  | some mhz =>
      have nonzero : mhz ≠ 0 := by simpa using List.find?_some found
      obtain ⟨other, member, same⟩ := List.mem_map.mp (List.mem_of_find?_eq_some found)
      refine ⟨fun zero => absurd zero nonzero, fun unset => ?_⟩
      exact absurd (same.symm.trans (unset other member)) nonzero

end

/-- The rate in Hz is the first MHz that is set times a million, as long as that fits 32 bits. -/
theorem getAutoClockHz_exact_iff (config : Config) (card : Card) (titleId : Nat) (module : Module)
    (profile : Profile) :
    ((config.load card.configFile).getAutoClockHz titleId module profile false =
        1000000 * card.fallbackMHz titleId profile module ∧
      ((config.load card.configFile).getAutoClockHz titleId module profile false = 0 ↔
        ∀ other ∈ Config.fallbackProfiles profile, card.mhz titleId other module = 0)) ↔
      card.fallbackMHz titleId profile module ≤ 4294 := by
  rw [load_getAutoClockHz, ← fallbackMHz_eq_zero_iff, toU32]
  simp only [Bool.false_eq_true, if_false]
  constructor
  · rintro ⟨exact, -⟩
    omega
  · intro fits
    have small : card.fallbackMHz titleId profile module * 1000000 < 2 ^ 32 := by omega
    rw [Nat.mod_eq_of_lt small]
    omega

/-- The least MHz that does not fit. -/
theorem getAutoClockHz_wraps :
    let card : Card :=
      { file := some
          { modified := ⟨7, by decide⟩
            sections := [{ name := "0100000000010000", pairs := [("handheld_cpu", "4295")] }] }
        writable := true }
    (Config.initial.load card.configFile).getAutoClockHz 0x0100000000010000 .cpu .handheld false =
        32704 ∧
      ¬∀ (config : Config) (card : Card) (titleId : Nat) (module : Module) (profile : Profile),
        (config.load card.configFile).getAutoClockHz titleId module profile false =
            1000000 * card.fallbackMHz titleId profile module ∧
          ((config.load card.configFile).getAutoClockHz titleId module profile false = 0 ↔
            ∀ other ∈ Config.fallbackProfiles profile, card.mhz titleId other module = 0) := by
  intro card
  have wrapped : (Config.initial.load card.configFile).getAutoClockHz 0x0100000000010000 .cpu
      .handheld false = 32704 := by decide +kernel
  have set : card.fallbackMHz 0x0100000000010000 .handheld .cpu = 4295 := by decide +kernel
  refine ⟨wrapped, fun exact => ?_⟩
  have scaled := (exact .initial card 0x0100000000010000 .cpu .handheld).1
  rw [wrapped, set] at scaled
  exact absurd scaled (by decide)

end HorizonOc.Sysmodule
