import HorizonOc.Sysmodule.ConfigAgreement

namespace HorizonOc.Sysmodule

open HorizonOc.Data

namespace Config

/-- The title id of a section that `BrowseIniFunc` does not skip. -/
def sectionTitle (heading : String) : Option Nat :=
  if heading = configValSection ∨ strtoul 16 heading.toList = 0 ∨ heading.length ≠ 16 then none
  else some (strtoul 16 heading.toList)

def belongsTo (titleId : Nat) (candidate : IniSection) : Bool :=
  sectionTitle candidate.name = some titleId

theorem belongsTo_iff {titleId : Nat} {candidate : IniSection} :
    belongsTo titleId candidate = true ↔ sectionTitle candidate.name = some titleId := by
  simp [belongsTo]

section

variable {titleId : Nat}

/-- However its letters are written, a section of that name belongs to the title. -/
theorem belongsTo_of_same (nonzero : titleId ≠ 0) (word : titleId < 2 ^ 64)
    {candidate : IniSection} (same : sameSection (titleSection titleId) candidate = true) :
    belongsTo titleId candidate = true := by
  have spelled : candidate.name.toList.map Char.toUpper = paddedDigits 16 16 titleId := by
    have upper := of_decide_eq_true same
    rwa [titleSection, String.toList_ofList, paddedDigits_toUpper] at upper
  have read := strtoul_paddedDigits (by omega) word spelled
  have length : candidate.name.length = 16 := by
    have lengths := congrArg List.length spelled
    rw [← String.length_toList]
    simpa [paddedDigits_length] using lengths
  have other : candidate.name ≠ configValSection := by
    intro values
    rw [values] at length
    exact absurd length (by decide)
  simp [belongsTo, sectionTitle, other, read, nonzero, length]

theorem titleSection_same (titleId : Nat) (pairs : List (String × String)) :
    sameSection (titleSection titleId) { name := titleSection titleId, pairs } = true := by
  simp [sameSection]

theorem belongsTo_apart {other : Nat} (apart : other ≠ titleId) {candidate : IniSection}
    (belongs : belongsTo titleId candidate = true) : belongsTo other candidate = false := by
  have title := belongsTo_iff.mp belongs
  simpa [belongsTo, title] using fun same => apart same.symm

theorem isValues_apart {candidate : IniSection} (belongs : belongsTo titleId candidate = true) :
    isValues candidate = false := by
  have title := belongsTo_iff.mp belongs
  unfold sectionTitle at title
  split at title
  · contradiction
  · rename_i kept
    simp only [not_or] at kept
    simpa [isValues] using kept.1

theorem recognise_clock {heading key value : String} {item : IniItem}
    (recognised : recognise heading key value = some item) (other : heading ≠ configValSection) :
    ∃ parsed, parseClockKey key = some parsed ∧ ∃ found, sectionTitle heading = some found ∧
      item = .clock found parsed.1 parsed.2 (toU32 (strtoul 10 value.toList)) := by
  unfold recognise at recognised
  rw [if_neg other] at recognised
  simp only at recognised
  split at recognised
  · contradiction
  · rename_i kept
    obtain ⟨parsed, key, rfl⟩ := Option.map_eq_some_iff.mp recognised
    exact ⟨parsed, key, _, by rw [sectionTitle, if_neg (by tauto)], rfl⟩

/-- A section of another title, or of the values, leaves the clocks of a title. -/
theorem browseText_elsewhere {candidate : IniSection} (elsewhere : belongsTo titleId candidate = false)
    (config : Config) (key value : String) :
    (config.browseText candidate.name key value).profileMHz titleId = config.profileMHz titleId := by
  unfold browseText
  cases recognised : recognise candidate.name key value with
  | none => rfl
  | some item =>
      by_cases values : candidate.name = configValSection
      · unfold recognise at recognised
        rw [if_pos values] at recognised
        obtain ⟨kval, -, rfl⟩ := Option.map_eq_some_iff.mp recognised
        rfl
      · obtain ⟨parsed, -, found, title, rfl⟩ := recognise_clock recognised values
        have apart : titleId ≠ found := by
          rintro rfl
          simp [belongsTo, title] at elsewhere
        simp only [browseIniFunc]
        split
        · rfl
        · exact Function.update_of_ne apart ..

theorem browseText_profiles {heading key value : String} {first second : Config}
    (same : first.profileMHz titleId = second.profileMHz titleId) :
    (first.browseText heading key value).profileMHz titleId =
      (second.browseText heading key value).profileMHz titleId := by
  unfold browseText
  cases recognise heading key value with
  | none => exact same
  | some item =>
      cases item with
      | value kval input => exact same
      | clock found profile module mhz =>
          simp only [browseIniFunc]
          split
          · exact same
          · by_cases here : titleId = found
            · subst here
              simp [same]
            · simp [Function.update_of_ne here, same]

/-- The clocks of a title are those of its sections. -/
theorem browse_profiles (sections : List IniSection) {first second : Config}
    (same : first.profileMHz titleId = second.profileMHz titleId) :
    (browse browseText first sections).profileMHz titleId =
      (browse browseText second (sections.filter (belongsTo titleId))).profileMHz titleId :=
  browse_filter (fun config => config.profileMHz titleId) (belongsTo titleId)
    (fun _ elsewhere config key value => browseText_elsewhere elsewhere config key value)
    (fun _ _ _ _ _ same => browseText_profiles same) sections first second same

/-- The clocks that a profile list holds. -/
def listedClocks (mhz : Profile → Module → Nat) (profile : Profile) (module : Module) : Option Nat :=
  if mhz profile module ≠ 0 then some (mhz profile module) else none

theorem sectionTitle_titleSection (nonzero : titleId ≠ 0) (word : titleId < 2 ^ 64) :
    sectionTitle (titleSection titleId) = some titleId := by
  have belongs := belongsTo_of_same nonzero word (titleSection_same titleId [])
  rw [belongsTo_iff] at belongs
  exact belongs

theorem browseText_clock (nonzero : titleId ≠ 0) (word : titleId < 2 ^ 64) {mhz : Nat}
    (set : mhz ≠ 0) (fits : mhz < 2 ^ 32) (profile : Profile) (module : Module) (config : Config) :
    (config.browseText (titleSection titleId) (clockKey profile module) mhz.repr).profileMHz titleId =
      Function.update (config.profileMHz titleId) profile
        (Function.update (config.profileMHz titleId profile) module (some mhz)) := by
  have read : toU32 (strtoul 10 (Nat.toDigits 10 mhz)) = mhz := by
    rw [strtoul_decimal (by omega) 10 (.inr rfl), toU32, Nat.mod_eq_of_lt fits]
  have title := sectionTitle_titleSection nonzero word
  unfold sectionTitle at title
  split at title
  · contradiction
  · rename_i kept
    have skip := kept
    simp only [not_or] at skip
    have found : recognise (titleSection titleId) (clockKey profile module) mhz.repr =
        some (.clock titleId profile module mhz) := by
      simp [recognise, skip, Option.some.inj title, nonzero, read]
    simp [browseText, found, browseIniFunc, nonzero, set]

theorem browse_clocks (nonzero : titleId ≠ 0) (word : titleId < 2 ^ 64)
    {mhz : Profile → Module → Nat} (fits : ∀ profile module, mhz profile module < 2 ^ 32)
    (entries : List (Profile × Module)) (set : ∀ entry ∈ entries, mhz entry.1 entry.2 ≠ 0)
    (config : Config) (profile : Profile) (module : Module) :
    ((entries.map fun entry => (clockKey entry.1 entry.2, (mhz entry.1 entry.2).repr)).foldl
        (fun config pair => browseText config (titleSection titleId) pair.1 pair.2)
        config).profileMHz titleId profile module =
      if (profile, module) ∈ entries then some (mhz profile module)
      else config.profileMHz titleId profile module := by
  induction entries generalizing config with
  | nil => simp
  | cons entry rest ih =>
      obtain ⟨first, second⟩ := entry
      have written := browseText_clock nonzero word (set (first, second) List.mem_cons_self)
        (fits first second) first second config
      rw [List.map_cons, List.foldl_cons, ih fun entry member => set entry (.tail _ member), written]
      by_cases later : (profile, module) ∈ rest
      · simp [later]
      · rw [if_neg later]
        by_cases sameProfile : profile = first
        · subst sameProfile
          by_cases sameModule : module = second
          · subst sameModule
            simp
          · simp [later, sameModule]
        · simp [later, sameProfile]

/-- The clocks of a file whose only section of the title is the one that was written. -/
theorem browse_profilePairs (nonzero : titleId ≠ 0) (word : titleId < 2 ^ 64)
    {mhz : Profile → Module → Nat} (fits : ∀ profile module, mhz profile module < 2 ^ 32)
    {start : Config} (empty : ∀ profile module, start.profileMHz titleId profile module = none) :
    (browse browseText start (newSection (titleSection titleId) (profilePairs mhz))).profileMHz
      titleId = listedClocks mhz := by
  let entries := Profile.all.flatMap fun profile =>
    (Module.all.filter fun module => mhz profile module ≠ 0).map fun module => (profile, module)
  have pairs : profilePairs mhz =
      entries.map fun entry => (clockKey entry.1 entry.2, (mhz entry.1 entry.2).repr) := by
    simp [profilePairs, entries, List.map_flatMap, Function.comp_def]
  have member (profile : Profile) (module : Module) :
      (profile, module) ∈ entries ↔ mhz profile module ≠ 0 := by
    simp [entries, Profile.mem_all, Module.mem_all]
  have written : browse browseText start (newSection (titleSection titleId) (profilePairs mhz)) =
      (profilePairs mhz).foldl
        (fun config pair => browseText config (titleSection titleId) pair.1 pair.2) start :=
    browse_newSection ..
  rw [written, pairs]
  funext profile module
  rw [browse_clocks nonzero word fits entries (fun entry inside => (member entry.1 entry.2).mp inside),
    empty, listedClocks]
  simp only [member]

/-- Each title has at most one section, which is written the way `SetProfiles` writes it. -/
structure SpelledTitles (card : Card) : Prop where
  spelled : ∀ candidate ∈ card.sections, ∀ titleId, belongsTo titleId candidate = true →
    candidate.name = titleSection titleId
  single : ∀ titleId,
    (card.sections.filter fun candidate => candidate.name = titleSection titleId).length ≤ 1

theorem putSection_belongsTo {card : Card} (titles : SpelledTitles card) (nonzero : titleId ≠ 0)
    (word : titleId < 2 ^ 64) (pairs : List (String × String)) :
    (putSection (titleSection titleId) pairs card.sections).filter (belongsTo titleId) =
      newSection (titleSection titleId) pairs := by
  have agree : ∀ candidate ∈ card.sections,
      sameSection (titleSection titleId) candidate = belongsTo titleId candidate ∧
        belongsTo titleId candidate = decide (candidate.name = titleSection titleId) := by
    intro candidate member
    cases belongs : belongsTo titleId candidate with
    | true =>
        have name := titles.spelled candidate member titleId belongs
        exact ⟨by simp [sameSection, name], (decide_eq_true name).symm⟩
    | false =>
        have different : sameSection (titleSection titleId) candidate = false := by
          by_contra same
          rw [belongsTo_of_same nonzero word (by simpa using same)] at belongs
          contradiction
        refine ⟨different, (decide_eq_false ?_).symm⟩
        intro name
        simp [sameSection, name] at different
  have single : (card.sections.filter (sameSection (titleSection titleId))).length ≤ 1 := by
    rw [List.filter_congr fun candidate member =>
      ((agree candidate member).1.trans (agree candidate member).2)]
    exact titles.single titleId
  rw [← putSection_same single]
  apply List.filter_congr
  intro candidate member
  rcases mem_putSection member with new | old
  · rw [newSection_same new, belongsTo_of_same nonzero word (newSection_same new)]
  · exact (agree candidate old).1.symm

theorem load_profiles (config : Config) (card : Card) (titleId : Nat) :
    (config.load card.configFile).profileMHz titleId =
      (browse browseText initial (card.sections.filter (belongsTo titleId))).profileMHz titleId := by
  rw [load_card]
  exact browse_profiles card.sections rfl

theorem load_values (config : Config) (card : Card) :
    (config.load card.configFile).values =
      (browse browseText initial (card.sections.filter isValues)).values := by
  rw [load_card]
  exact browse_values card.sections rfl

variable {config : Config} {card written : Card} {now : Stamp} {mhz : Profile → Module → Nat}

theorem load_put_values {pairs : List (String × String)} (nonzero : titleId ≠ 0)
    (word : titleId < 2 ^ 64) (put : card.put now (titleSection titleId) pairs = some written)
    (others : Config) :
    (others.load written.configFile).values = (config.load card.configFile).values := by
  rw [load_values, load_values, Card.put_sections put,
    putSection_others isValues fun _ same => isValues_apart (belongsTo_of_same nonzero word same)]

theorem load_put_other {pairs : List (String × String)} (nonzero : titleId ≠ 0)
    (word : titleId < 2 ^ 64) (put : card.put now (titleSection titleId) pairs = some written)
    (others : Config) {other : Nat} (apart : other ≠ titleId) :
    (others.load written.configFile).profileMHz other =
      (config.load card.configFile).profileMHz other := by
  rw [load_profiles, load_profiles, Card.put_sections put, putSection_others (belongsTo other)
    fun _ same => belongsTo_apart apart (belongsTo_of_same nonzero word same)]

theorem load_put_title (titles : SpelledTitles card) (nonzero : titleId ≠ 0)
    (word : titleId < 2 ^ 64) (fits : ∀ profile module, mhz profile module < 2 ^ 32)
    (put : card.put now (titleSection titleId) (profilePairs mhz) = some written)
    (others : Config) :
    (others.load written.configFile).profileMHz titleId = listedClocks mhz := by
  rw [load_profiles, Card.put_sections put, putSection_belongsTo titles nonzero word,
    browse_profilePairs nonzero word fits fun _ _ => rfl]

theorem listedClocks_getD (mhz : Profile → Module → Nat) (profile : Profile) (module : Module) :
    (listedClocks mhz profile module).getD 0 = mhz profile module := by
  unfold listedClocks
  split
  · rfl
  · rename_i zero
    exact (not_not.mp zero).symm

theorem getProfiles_loaded {config : Config} (loaded : config.loaded = true) (titleId : Nat)
    (profile : Profile) (module : Module) :
    config.getProfiles titleId profile module =
      (config.profileMHz titleId profile module).getD 0 := by
  rw [getProfiles, findClockMHz, if_pos loaded]

end

end Config

/-- The profiles that were written are read back, from memory and from the file, the other titles
and the values stay as they were, and every key is taken for the pair that it was made of. -/
theorem setProfiles_round_trip {config stored : Config} {card written : Card} {now : Stamp}
    {titleId : Nat} {mhz : Profile → Module → Nat} (nonzero : titleId ≠ 0)
    (word : titleId < 2 ^ 64) (fits : ∀ profile module, mhz profile module < 2 ^ 32)
    (titles : Config.SpelledTitles card)
    (succeeded : (config.load card.configFile).setProfiles card now titleId mhz true =
      (true, stored, written)) :
    (∀ profile module, stored.getProfiles titleId profile module = mhz profile module ∧
      (stored.load written.configFile).getProfiles titleId profile module = mhz profile module) ∧
    (∀ other ≠ titleId, ∀ profile module,
      stored.getProfiles other profile module =
          (config.load card.configFile).getProfiles other profile module ∧
        (stored.load written.configFile).getProfiles other profile module =
          (config.load card.configFile).getProfiles other profile module) ∧
    stored.values = (config.load card.configFile).values ∧
    (stored.load written.configFile).values = (config.load card.configFile).values ∧
    ∀ profile module, parseClockKey (clockKey profile module) = some (profile, module) := by
  unfold Config.setProfiles at succeeded
  cases put : card.put now (Config.titleSection titleId) (Config.profilePairs mhz) with
  | none => simp [put] at succeeded
  | some after =>
      simp only [put, if_true, Prod.mk.injEq, true_and] at succeeded
      obtain ⟨rfl, rfl⟩ := succeeded
      refine ⟨?_, ?_, rfl, Config.load_put_values nonzero word put _, parseClockKey_clockKey⟩
      · intro profile module
        have kept := Config.listedClocks_getD mhz profile module
        constructor
        · rw [Config.getProfiles_loaded rfl]
          simpa [Config.listedClocks] using kept
        · rw [Config.getProfiles_loaded rfl, Config.load_put_title titles nonzero word fits put]
          exact kept
      · intro other apart profile module
        constructor
        · rw [Config.getProfiles_loaded rfl, Config.getProfiles_loaded rfl]
          simp [apart]
        · rw [Config.getProfiles_loaded rfl, Config.getProfiles_loaded rfl,
            Config.load_put_other nonzero word put _ apart]

/-- A file with one section, for a title whose clocks are then changed. -/
def oneTitleCard : Card :=
  { file := some
      { modified := ⟨7, by decide⟩
        sections := [{ name := "0100000000010000", pairs := [("handheld_cpu", "1020")] }] }
    writable := true }

theorem oneTitleCard_spelled : Config.SpelledTitles oneTitleCard where
  spelled := by
    intro candidate member titleId belongs
    rw [List.mem_singleton.mp member] at belongs ⊢
    rw [Config.belongsTo_iff] at belongs
    have title : Config.sectionTitle "0100000000010000" = some 72057594037993472 := by
      decide +kernel
    rw [← Option.some.inj (title.symm.trans belongs)]
    decide +kernel
  single titleId := List.length_filter_le ..

theorem setProfiles_round_trip_one_title :
    let mhz : Profile → Module → Nat := fun profile module =>
      if profile = .docked ∧ module = .gpu then 768 else 0
    let loaded := Config.initial.load oneTitleCard.configFile
    let after := loaded.setProfiles oneTitleCard ⟨8, by decide⟩ 72057594037993472 mhz true
    (after.2.1.load after.2.2.configFile).getProfiles 72057594037993472 .docked .gpu = 768 := by
  intro mhz loaded after
  have fits : ∀ profile module, mhz profile module < 2 ^ 32 := by
    intro profile module
    cases profile <;> cases module <;> decide
  have trip := setProfiles_round_trip (by decide) (by decide) fits oneTitleCard_spelled
    (show Config.setProfiles (Config.initial.load oneTitleCard.configFile) oneTitleCard
      ⟨8, by decide⟩ 72057594037993472 mhz true = (true, after.2.1, after.2.2) from rfl)
  exact (trip.1 .docked .gpu).2

end HorizonOc.Sysmodule
