import Mathlib.Data.List.Dedup
import Mathlib.Data.List.Perm.Subperm
import HorizonOc.Data.Runs
import HorizonOc.Sysmodule.ProfileHz
import HorizonOc.Sysmodule.ProfileRoundTrip

namespace HorizonOc.Sysmodule

open HorizonOc.Data

structure CountedConfig extends Config where
  profileCount : Nat → Option Nat

namespace CountedConfig

/-- What `Initialize` leaves. -/
def initial : CountedConfig := { Config.initial with profileCount := fun _ => none }

def getProfileCount (config : CountedConfig) (titleId : Nat) : Nat :=
  (config.profileCount titleId).getD 0

/-- One more line of a title was kept. -/
def countLine (config : CountedConfig) (titleId : Nat) : Nat → Option Nat :=
  Function.update config.profileCount titleId
    (match config.profileCount titleId with
      | none => some 1
      | some count => some (toU8 (count + 1)))

def browseIniFunc (config : CountedConfig) (item : IniItem) : CountedConfig :=
  { config.toConfig.browseIniFunc item with
    profileCount :=
      match item with
      | .value _ _ => config.profileCount
      | .clock titleId _ _ mhz =>
          if titleId = 0 ∨ mhz = 0 then config.profileCount else config.countLine titleId }

def close (config : CountedConfig) : CountedConfig :=
  { config.toConfig.close with profileCount := fun _ => none }

def load (config : CountedConfig) (file : ConfigFile) : CountedConfig :=
  let closed := { config.close with mtime := file.modified }
  let browsed := if file.modified = 0 then closed else file.items.foldl browseIniFunc closed
  { browsed with loaded := true }

/-- The pairs of a profile list that are not zero. -/
def listedPairs (mhz : Profile → Module → Nat) : List (Profile × Module) :=
  Profile.all.flatMap fun profile =>
    (Module.all.filter fun module => mhz profile module ≠ 0).map fun module => (profile, module)

def setProfiles (config : CountedConfig) (card : Card) (now : Stamp) (titleId : Nat)
    (mhz : Profile → Module → Nat) (immediate : Bool) : Bool × CountedConfig × Card :=
  let after := config.toConfig.setProfiles card now titleId mhz immediate
  let numProfiles := toU8 (listedPairs mhz).length
  let profileCount :=
    if after.1 && immediate then Function.update config.profileCount titleId (some numProfiles)
    else config.profileCount
  (after.1, { after.2.1 with profileCount }, after.2.2)

theorem foldl_browseIniFunc (items : List IniItem) (config : CountedConfig) :
    (items.foldl browseIniFunc config).toConfig =
      items.foldl Config.browseIniFunc config.toConfig := by
  induction items generalizing config with
  | nil => rfl
  | cons item rest ih => exact ih (config.browseIniFunc item)

/-- The counts go along with the configuration and do not change what it does. -/
theorem load_toConfig (config : CountedConfig) (file : ConfigFile) :
    (config.load file).toConfig = config.toConfig.load file := by
  unfold load Config.load
  by_cases missing : file.modified = 0
  · simp only [if_pos missing]
    rfl
  · simp only [if_neg missing, foldl_browseIniFunc]
    rfl

/-- The pairs for which `GetProfiles` reports a clock. -/
def reportedPairs (config : CountedConfig) (titleId : Nat) : List (Profile × Module) :=
  listedPairs fun profile module => config.toConfig.getProfiles titleId profile module

theorem mem_listedPairs {mhz : Profile → Module → Nat} {profile : Profile} {module : Module} :
    (profile, module) ∈ listedPairs mhz ↔ mhz profile module ≠ 0 := by
  simp [listedPairs, Profile.mem_all, Module.mem_all]

theorem listedPairs_nodup (mhz : Profile → Module → Nat) : (listedPairs mhz).Nodup := by
  have modules (profile : Profile) : ((Module.all.filter fun module => mhz profile module ≠ 0).map
      fun module => (profile, module)).Nodup := by
    apply List.Nodup.map
    · intro first second same
      exact (Prod.mk.inj same).2
    · exact List.Nodup.filter _ (by decide)
  refine List.nodup_flatMap.mpr ⟨fun profile _ => modules profile, ?_⟩
  have profiles : Profile.all.Pairwise (· ≠ ·) := by decide
  refine profiles.imp fun {first second} apart pair inFirst inSecond => ?_
  obtain ⟨module, -, rfl⟩ := List.mem_map.mp inFirst
  obtain ⟨other, -, same⟩ := List.mem_map.mp inSecond
  exact apart (Prod.mk.inj same).1.symm

theorem listedPairs_length_lt (mhz : Profile → Module → Nat) : (listedPairs mhz).length < 2 ^ 8 := by
  have within : (listedPairs mhz).Subperm (listedPairs fun _ _ => 1) :=
    List.subperm_of_subset (listedPairs_nodup mhz) fun _ _ => mem_listedPairs.mpr Nat.one_ne_zero
  have all : (listedPairs fun _ _ => 1).length < 2 ^ 8 := by decide
  exact Nat.lt_of_le_of_lt (List.Subperm.length_le within) all

/-- The pairs that the lines of a title set, in their order. -/
def clockLines (items : List IniItem) (titleId : Nat) : List (Profile × Module) :=
  items.filterMap fun
    | .value _ _ => none
    | .clock found profile module mhz =>
        if found = titleId ∧ found ≠ 0 ∧ mhz ≠ 0 then some (profile, module) else none

theorem getProfileCount_countLine (config : CountedConfig) (titleId other : Nat) :
    (config.countLine titleId other).getD 0 =
      if other = titleId then toU8 (config.getProfileCount titleId + 1)
      else config.getProfileCount other := by
  unfold countLine getProfileCount
  by_cases same : other = titleId
  · subst same
    rw [if_pos rfl, Function.update_self]
    cases config.profileCount other with
    | none => rfl
    | some count => rfl
  · rw [if_neg same, Function.update_of_ne same]

/-- Every line that is kept counts, also one that sets a pair again. -/
theorem foldl_profileCount (items : List IniItem) (titleId : Nat) {config : CountedConfig}
    (byte : config.getProfileCount titleId < 2 ^ 8) :
    (items.foldl browseIniFunc config).getProfileCount titleId =
      toU8 (config.getProfileCount titleId + (clockLines items titleId).length) := by
  induction items generalizing config with
  | nil => exact (Nat.mod_eq_of_lt byte).symm
  | cons item rest ih =>
      cases item with
      | value kval input => exact ih byte
      | clock found profile module mhz =>
          by_cases skipped : found = 0 ∨ mhz = 0
          · have dropped : ¬(found = titleId ∧ found ≠ 0 ∧ mhz ≠ 0) := by tauto
            have same : (config.browseIniFunc (.clock found profile module mhz)).profileCount =
                config.profileCount := by simp [browseIniFunc, skipped]
            have kept : (config.browseIniFunc (.clock found profile module mhz)).getProfileCount
                titleId = config.getProfileCount titleId := by rw [getProfileCount, same]; rfl
            rw [List.foldl_cons, ih (by rw [kept]; exact byte), kept]
            simp [clockLines, dropped]
          · have counted : (config.browseIniFunc (.clock found profile module mhz)).getProfileCount
                titleId = if titleId = found then toU8 (config.getProfileCount found + 1)
                  else config.getProfileCount titleId := by
              rw [← getProfileCount_countLine]
              simp [browseIniFunc, getProfileCount, skipped]
            have fits : (config.browseIniFunc (.clock found profile module mhz)).getProfileCount
                titleId < 2 ^ 8 := by
              rw [counted]
              split
              · exact Nat.mod_lt _ (Nat.two_pow_pos 8)
              · exact byte
            rw [List.foldl_cons, ih fits, counted]
            obtain ⟨title, set⟩ := not_or.mp skipped
            by_cases here : titleId = found
            · subst here
              simp only [clockLines, List.filterMap_cons, title, set, ne_eq, not_false_eq_true,
                and_self, if_true, List.length_cons, toU8]
              omega
            · simp [clockLines, here, Ne.symm here]

theorem mhzFor_eq_some_iff {item : IniItem} {titleId mhz : Nat} {profile : Profile}
    {module : Module} :
    item.mhzFor titleId profile module = some mhz ↔
      item = .clock titleId profile module mhz ∧ titleId ≠ 0 ∧ mhz ≠ 0 := by
  cases item with
  | value kval input => simp [IniItem.mhzFor]
  | clock found first second set =>
      simp only [IniItem.mhzFor, Option.ite_none_right_eq_some, Option.some.injEq,
        IniItem.clock.injEq]
      constructor
      · rintro ⟨⟨⟨title, set⟩, rfl, rfl, rfl⟩, rfl⟩
        exact ⟨⟨rfl, rfl, rfl, rfl⟩, title, set⟩
      · rintro ⟨⟨rfl, rfl, rfl, rfl⟩, title, set⟩
        exact ⟨⟨⟨title, set⟩, rfl, rfl, rfl⟩, rfl⟩

theorem mem_clockLines {items : List IniItem} {titleId : Nat} {profile : Profile}
    {module : Module} :
    (profile, module) ∈ clockLines items titleId ↔
      ∃ mhz, .clock titleId profile module mhz ∈ items ∧ titleId ≠ 0 ∧ mhz ≠ 0 := by
  rw [clockLines, List.mem_filterMap]
  constructor
  · rintro ⟨item, inside, line⟩
    cases item with
    | value kval input => contradiction
    | clock found first second mhz =>
        simp only [Option.ite_none_right_eq_some, Option.some.injEq, Prod.mk.injEq] at line
        obtain ⟨⟨rfl, title, set⟩, rfl, rfl⟩ := line
        exact ⟨mhz, inside, title, set⟩
  · rintro ⟨mhz, inside, title, set⟩
    exact ⟨_, inside, if_pos ⟨rfl, title, set⟩⟩

/-- A pair is among the lines of a title exactly if what the file sets there is not 0. -/
theorem mem_clockLines_iff_set {items : List IniItem} {titleId : Nat} {profile : Profile}
    {module : Module} :
    (profile, module) ∈ clockLines items titleId ↔
      ((items.filterMap (IniItem.mhzFor titleId profile module)).getLast?).getD 0 ≠ 0 := by
  rw [mem_clockLines]
  cases last : (items.filterMap (IniItem.mhzFor titleId profile module)).getLast? with
  | none =>
      refine iff_of_false ?_ (by simp)
      rintro ⟨mhz, inside, set⟩
      have sets := List.mem_filterMap.mpr ⟨_, inside, mhzFor_eq_some_iff.mpr ⟨rfl, set⟩⟩
      rw [List.getLast?_eq_none_iff.mp last] at sets
      exact List.not_mem_nil sets
  | some mhz =>
      obtain ⟨item, inside, line⟩ := List.mem_filterMap.mp (List.mem_of_getLast? last)
      obtain ⟨rfl, set⟩ := mhzFor_eq_some_iff.mp line
      exact iff_of_true ⟨mhz, inside, set⟩ set.2

theorem load_getProfileCount (config : CountedConfig) (card : Card) (titleId : Nat) :
    (config.load card.configFile).getProfileCount titleId =
      toU8 (clockLines card.configFile.items titleId).length := by
  cases present : card.file with
  | none => simp [load, close, getProfileCount, Card.configFile, present, clockLines, toU8]
  | some file =>
      have stamped : file.modified.seconds ≠ 0 := Nat.pos_iff_ne_zero.mp file.modified.positive
      have closed : ({ config.close with mtime := file.modified.seconds } : CountedConfig).getProfileCount
          titleId < 2 ^ 8 := Nat.two_pow_pos 8
      have counted := foldl_profileCount (file.sections.flatMap sectionItems) titleId closed
      simp only [Card.configFile, present, load, if_neg stamped]
      refine counted.trans ?_
      simp [close, getProfileCount]

theorem load_reportedPairs (config : CountedConfig) (card : Card) (titleId : Nat) :
    ((config.load card.configFile).reportedPairs titleId).Perm
      (clockLines card.configFile.items titleId).dedup := by
  rw [reportedPairs, List.perm_ext_iff_of_nodup (listedPairs_nodup _) (List.nodup_dedup _)]
  rintro ⟨profile, module⟩
  rw [mem_listedPairs, List.mem_dedup, load_toConfig,
    Config.getProfiles_loaded rfl]
  cases present : card.file with
  | none => simp [Config.load, Config.close, Card.configFile, present, clockLines]
  | some file =>
      have stamped : file.modified.seconds ≠ 0 := Nat.pos_iff_ne_zero.mp file.modified.positive
      simp only [Card.configFile, present, Config.load, if_neg stamped]
      rw [mem_clockLines_iff_set, foldl_browseIniFunc_mhzFor]
      simp [Config.close]

end CountedConfig

/-- What happens to the profiles, and rewritings of the file from outside. -/
inductive ProfileStep where
  | load
  | setProfiles (now : Stamp) (titleId : Nat) (mhz : Profile → Module → Nat)
  | edited (card : Card)

structure CountedState where
  config : CountedConfig
  card : Card

namespace CountedState

/-- Every count is the number of pairs that are reported. -/
def Exact (state : CountedState) : Prop :=
  ∀ titleId, state.config.getProfileCount titleId = (state.config.reportedPairs titleId).length

end CountedState

namespace ProfileStep

def apply (state : CountedState) : ProfileStep → CountedState
  | .load => { state with config := state.config.load state.card.configFile }
  | .setProfiles now titleId mhz =>
      let after := state.config.setProfiles state.card now titleId mhz true
      { config := after.2.1, card := after.2.2 }
  | .edited card => { state with card }

/-- A file that is loaded has, but for multiples of 256, as many lines of each title as pairs that
these set; profiles are set after a load, unless they are all zero or cannot be written. -/
def KeepsCounts (state : CountedState) : ProfileStep → Prop
  | .load => ∀ titleId, let lines := CountedConfig.clockLines state.card.configFile.items titleId
      toU8 lines.length = lines.dedup.length
  | .setProfiles _ _ mhz =>
      state.config.loaded = true ∨ state.card.writable = false ∨
        ∀ profile module, mhz profile module = 0
  | .edited _ => True

theorem load_exact_iff (state : CountedState) :
    (apply state .load).Exact ↔ KeepsCounts state .load := by
  refine forall_congr' fun titleId => ?_
  rw [apply, CountedConfig.load_getProfileCount,
    (CountedConfig.load_reportedPairs state.config state.card titleId).length_eq]

section

variable {state : CountedState} {now : Stamp} {titleId : Nat} {mhz : Profile → Module → Nat}

/-- The count that is set is the number of pairs in the list. -/
theorem setProfiles_count (writable : state.card.writable = true) (other : Nat) :
    (apply state (.setProfiles now titleId mhz)).config.getProfileCount other =
      if other = titleId then (CountedConfig.listedPairs mhz).length
      else state.config.getProfileCount other := by
  simp only [apply, CountedConfig.setProfiles, Config.setProfiles, Card.put, writable, if_true,
    Bool.and_true, CountedConfig.getProfileCount, Function.update_apply]
  by_cases same : other = titleId
  · simpa [same, toU8] using CountedConfig.listedPairs_length_lt mhz
  · simp [same]

theorem reportedPairs_closed {config : CountedConfig} (closed : config.loaded = false)
    (titleId : Nat) : config.reportedPairs titleId = [] := by
  rw [List.eq_nil_iff_forall_not_mem]
  rintro ⟨profile, module⟩ member
  rw [CountedConfig.reportedPairs, CountedConfig.mem_listedPairs] at member
  simp [Config.getProfiles, Config.findClockMHz, closed] at member

theorem setProfiles_reported (writable : state.card.writable = true)
    (loaded : state.config.loaded = true) (other : Nat) :
    (apply state (.setProfiles now titleId mhz)).config.reportedPairs other =
      if other = titleId then CountedConfig.listedPairs mhz
      else state.config.reportedPairs other := by
  have stored (profile : Profile) (module : Module) :
      (apply state (.setProfiles now titleId mhz)).config.toConfig.getProfiles other profile module =
        if other = titleId then mhz profile module
        else state.config.toConfig.getProfiles other profile module := by
    simp only [apply, CountedConfig.setProfiles, Config.setProfiles, Card.put, writable, if_true,
      Config.getProfiles, Config.findClockMHz, loaded]
    by_cases same : other = titleId
    · subst same
      rw [if_pos rfl, Function.update_self]
      exact Config.listedClocks_getD mhz profile module
    · rw [if_neg same, Function.update_of_ne same]
  simp only [CountedConfig.reportedPairs, stored]
  split <;> rfl

theorem setProfiles_exact_iff (exact : state.Exact) :
    (apply state (.setProfiles now titleId mhz)).Exact ↔
      KeepsCounts state (.setProfiles now titleId mhz) := by
  cases writable : state.card.writable with
  | false =>
      have same : apply state (.setProfiles now titleId mhz) = state := by
        simp [apply, CountedConfig.setProfiles, Config.setProfiles, Card.put, writable]
      rw [same]
      exact ⟨fun _ => .inr (.inl writable), fun _ => exact⟩
  | true =>
      cases loaded : state.config.loaded with
      | true =>
          refine ⟨fun _ => .inl loaded, fun _ other => ?_⟩
          rw [setProfiles_count writable, setProfiles_reported writable loaded]
          split
          · rfl
          · exact exact other
      | false =>
          have closed : (apply state (.setProfiles now titleId mhz)).config.loaded = false := by
            simp [apply, CountedConfig.setProfiles, Config.setProfiles, Card.put, writable, loaded]
          simp only [CountedState.Exact, setProfiles_count writable, reportedPairs_closed closed,
            KeepsCounts, loaded, writable, Bool.false_eq_true, Bool.true_eq_false, false_or,
            List.length_nil]
          constructor
          · intro counts profile module
            have none := counts titleId
            rw [if_pos rfl, List.length_eq_zero_iff] at none
            by_contra set
            exact List.ne_nil_of_mem (CountedConfig.mem_listedPairs.mpr set) none
          · intro zero other
            split
            · rw [List.length_eq_zero_iff, List.eq_nil_iff_forall_not_mem]
              rintro ⟨profile, module⟩ member
              exact CountedConfig.mem_listedPairs.mp member (zero profile module)
            · rw [exact other, reportedPairs_closed loaded, List.length_nil]

end

theorem apply_exact_iff (state : CountedState) (step : ProfileStep) (exact : state.Exact) :
    (apply state step).Exact ↔ KeepsCounts state step := by
  cases step with
  | load => exact load_exact_iff state
  | setProfiles now titleId mhz => exact setProfiles_exact_iff exact
  | edited card => exact ⟨fun _ => trivial, fun _ => exact⟩

end ProfileStep

theorem CountedState.initial_exact (card : Card) : CountedState.Exact { config := .initial, card } :=
  fun titleId => by
    rw [ProfileStep.reportedPairs_closed rfl]
    rfl

/-- In a run from `Initialize` on the counts stay exact as long as every file that is loaded sets
each pair of a title once, and profiles are set after the first load. -/
theorem profile_counts_exact_iff (card : Card) (steps : List ProfileStep) :
    Always ProfileStep.apply CountedState.Exact { config := .initial, card } steps ↔
      Guarded ProfileStep.apply ProfileStep.KeepsCounts { config := .initial, card } steps :=
  @always_iff_guarded _ _ _ _ _ _ steps (fun _ => True) (CountedState.initial_exact card) trivial
    (fun _ _ _ => trivial) fun state step _ exact => ProfileStep.apply_exact_iff state step exact

/-- A key that a file gives twice is counted twice. -/
theorem repeated_key_counts_twice :
    let pairs := [("handheld_cpu", "1020"), ("handheld_cpu", "1224")]
    let card : Card :=
      { file := some
          { modified := ⟨7, by decide⟩, sections := [{ name := "0100000000010000", pairs }] }
        writable := true }
    ¬Always ProfileStep.apply CountedState.Exact { config := .initial, card } [.load] := by
  rintro pairs card ⟨-, exact⟩
  have counted := exact 72057594037993472
  have twice : (CountedConfig.initial.load card.configFile).getProfileCount 72057594037993472 = 2 := by
    decide +kernel
  have once : ((CountedConfig.initial.load card.configFile).reportedPairs
      72057594037993472).length = 1 := by decide +kernel
  exact absurd (twice.symm.trans (counted.trans once)) (by decide)

end HorizonOc.Sysmodule
