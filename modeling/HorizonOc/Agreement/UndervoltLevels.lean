import HorizonOc.Agreement.LiveUndervolt
import HorizonOc.Data.Runs
import HorizonOc.Sysmodule.Frames
import HorizonOc.Sysmodule.Kip

namespace HorizonOc.Sysmodule

open HorizonOc.Data

structure DfllCall where
  levelLow : Nat
  levelHigh : Nat
  tbreakPoint : Nat
deriving DecidableEq, Repr

/-- The calls of `SetDfllTunings`, the newest first. -/
def dfllCallsOf (log : List Effect) : List DfllCall :=
  log.filterMap fun
    | .setDfllTunings levelLow levelHigh tbreakPoint => some ⟨levelLow, levelHigh, tbreakPoint⟩
    | _ => none

/-- At every clock the call finds its entries in the tables. -/
def DfllCall.Inside (socType : SocType) (call : DfllCall) : Prop :=
  ∀ (cached registers : DfllRegisters) (cpuHz : Nat),
    dfllTunings socType cached cpuHz call.levelLow call.levelHigh call.tbreakPoint registers ≠ none

/-- The call that a setting leads to. -/
def Setting.dfllCall (setting : Setting) : DfllCall :=
  match setting.board.socType with
  | .erista => ⟨toU32 (setting.value .eristaCpuUV), toU32 0, 1581000000⟩
  | .mariko =>
      ⟨toU32 (setting.value .marikoCpuUVLow), toU32 (setting.value .marikoCpuUVHigh),
        calculateTbreak .mariko (setting.value .tableConf)⟩

theorem DfllCall.inside_of_range {socType : SocType} {call : DfllCall}
    (inRange : LevelsInRange socType call.levelLow call.levelHigh) : call.Inside socType := by
  intro cached registers cpuHz
  cases socType with
  | erista =>
      rw [dfllTunings]
      split
      · exact Option.some_ne_none _
      · rename_i used
        have inside : call.levelLow - 1 < eristaCpuUvTable.length := by
          have bound : call.levelLow ≤ eristaCpuUvTable.length := inRange
          have positive := (not_or.mp used).2
          omega
        rw [List.getElem?_eq_getElem inside, Option.map_some]
        exact Option.some_ne_none _
  | mariko =>
      obtain ⟨low, high⟩ := inRange
      obtain ⟨lowered, written⟩ := tuneLow_returns registers low
      rw [dfllTunings, written]
      split
      · exact Option.some_ne_none _
      · rw [Option.bind_some, tuneHigh]
        split
        · exact Option.some_ne_none _
        · rename_i used
          have inside : call.levelHigh - 1 < marikoCpuUvHigh.length := by omega
          rw [List.getElem?_eq_getElem inside, Option.map_some]
          exact Option.some_ne_none _

/-- A level past its table is looked up at the break point, or on Mariko at a clock of 0. -/
theorem DfllCall.inside_iff {socType : SocType} {call : DfllCall} :
    call.Inside socType ↔ LevelsInRange socType call.levelLow call.levelHigh := by
  refine ⟨fun inside => ?_, inside_of_range⟩
  cases socType with
  | erista =>
      change call.levelLow ≤ eristaCpuUvTable.length
      by_contra beyond
      refine inside ⟨0, 0⟩ ⟨0, 0⟩ call.tbreakPoint ?_
      have used : ¬(call.tbreakPoint < call.tbreakPoint ∨ call.levelLow = 0) := by omega
      rw [dfllTunings, if_neg used, List.getElem?_eq_none (by omega), Option.map_none]
  | mariko =>
      have low : call.levelLow ≤ marikoCpuUvLow.length := by
        by_contra beyond
        have missing (registers : DfllRegisters) : tuneLow call.levelLow registers = none := by
          rw [tuneLow, if_neg (by omega), List.getElem?_eq_none (by omega), Option.map_none]
        refine inside ⟨0, 0⟩ ⟨0, 0⟩ 0 ?_
        rw [dfllTunings, missing]
        split <;> rfl
      refine ⟨low, ?_⟩
      by_contra beyond
      have missing (registers : DfllRegisters) : tuneHigh call.levelHigh registers = none := by
        rw [tuneHigh, if_neg (by omega), List.getElem?_eq_none (by omega), Option.map_none]
      obtain ⟨lowered, written⟩ := tuneLow_returns ⟨0, 0⟩ low
      refine inside ⟨0, 0⟩ ⟨0, 0⟩ call.tbreakPoint ?_
      rw [dfllTunings, if_neg fun both => absurd both.1 (Nat.lt_irrefl _), written, Option.bind_some,
        missing]

/-- The setting stays, and every new call is the one it leads to. -/
structure CallsFrom (before after : Sys) : Prop where
  setting : after.setting = before.setting
  calls : ∃ calls, dfllCallsOf after.log = calls ++ dfllCallsOf before.log ∧
    ∀ call ∈ calls, before.setting.value .liveCpuUv ≠ 0 ∧ call = before.setting.dfllCall

instance : IsPreorder Sys CallsFrom where
  refl _ := ⟨rfl, [], rfl, fun _ absurd => by contradiction⟩
  trans before middle after first second := by
    obtain ⟨early, earlyCalls, earlySame⟩ := first.calls
    obtain ⟨late, lateCalls, lateSame⟩ := second.calls
    refine ⟨second.setting.trans first.setting, late ++ early, ?_, fun call member => ?_⟩
    · rw [lateCalls, earlyCalls, List.append_assoc]
    · rcases List.mem_append.mp member with isLate | isEarly
      · rw [first.setting] at lateSame
        exact lateSame call isLate
      · exact earlySame call isEarly

theorem CallsFrom.of_silent {before after : Sys} (setting : after.setting = before.setting)
    (silent : dfllCallsOf after.log = dfllCallsOf before.log) : CallsFrom before after :=
  ⟨setting, [], silent, fun _ absurd => by contradiction⟩

theorem setHz_calls (module : Module) (notDisplay : module ≠ .display) (hz : Nat) :
    (setHz module hz).Respects CallsFrom := by
  unfold setHz
  refine .bind (.update fun state => .of_silent rfl rfl) fun _ => ?_
  cases module with
  | cpu =>
      refine .bind (.update fun state => .of_silent rfl rfl) fun _ => ?_
      exact .bind .sleep fun _ => .update fun state => .of_silent rfl rfl
  | gpu => exact .update fun state => .of_silent rfl rfl
  | mem => exact .update fun state => .of_silent rfl rfl
  | governor => exact .pure _
  | display => exact absurd rfl notDisplay

theorem resetToStockModule_calls (module : Module) (notDisplay : module ≠ .display) :
    (resetToStockModule module).Respects CallsFrom := by
  unfold resetToStockModule
  refine .bind .read fun state => .ite ?_ ?_
  · unfold currentApmConfiguration
    refine .bind (.bind .read fun _ => .ofOption _ _) fun _ => setHz_calls module notDisplay _
  · unfold requestPerformanceMode
    refine .bind .read fun _ => .bind (.update fun state => .of_silent rfl rfl) fun _ => ?_
    exact .update fun state => .of_silent rfl rfl

/-- The state after `HandleCpuUv` where it is called. -/
def Sys.liveUndervolted (state : Sys) : Sys :=
  if state.setting.value .liveCpuUv ≠ 0 then
    state.record (.setDfllTunings state.setting.dfllCall.levelLow state.setting.dfllCall.levelHigh
      state.setting.dfllCall.tbreakPoint)
  else state

theorem handleLiveCpuUv_eq : handleLiveCpuUv = Program.update Sys.liveUndervolted := by
  funext state
  change Program.when (state.setting.value .liveCpuUv ≠ 0) handleCpuUv state =
    Program.update Sys.liveUndervolted state
  unfold Program.update Sys.liveUndervolted
  by_cases live : state.setting.value .liveCpuUv ≠ 0
  · rw [Program.when, if_pos live, if_pos live]
    change (match state.setting.board.socType with
      | .erista => setDfllTunings (state.setting.value .eristaCpuUV) 0 1581000000
      | .mariko => setDfllTunings (state.setting.value .marikoCpuUVLow)
          (state.setting.value .marikoCpuUVHigh)
          (calculateTbreak .mariko (state.setting.value .tableConf)) : SysProgram PUnit) state = _
    unfold Setting.dfllCall
    cases state.setting.board.socType with
    | erista => rfl
    | mariko => rfl
  · rw [Program.when, if_neg live, if_neg live]
    rfl

theorem liveUndervolted_calls (state : Sys) : CallsFrom state state.liveUndervolted := by
  unfold Sys.liveUndervolted
  split
  · rename_i live
    refine ⟨rfl, [state.setting.dfllCall], rfl, fun call member => ?_⟩
    exact ⟨live, List.mem_singleton.mp member⟩
  · exact .of_silent rfl rfl

theorem handleLiveCpuUv_calls : handleLiveCpuUv.Respects CallsFrom := by
  rw [handleLiveCpuUv_eq]
  exact .update liveUndervolted_calls

/-- The functions that call `SetDfllTunings`: `HandleCpuUv` under the test of `SetClocks`,
`HandleFreqReset` and `ResetToStockClocks`. -/
def undervoltPrograms : List (SysProgram PUnit) :=
  [handleLiveCpuUv, handleFreqReset .cpu true, handleFreqReset .cpu false, resetToStockClocks]

theorem undervoltPrograms_calls : ∀ program ∈ undervoltPrograms, program.Respects CallsFrom := by
  have reset := resetToStockModule_calls .cpu (by decide)
  have resetGpu := resetToStockModule_calls .gpu (by decide)
  have freqReset (isBoost : Bool) : (handleFreqReset .cpu isBoost).Respects CallsFrom := by
    unfold handleFreqReset
    refine .bind .read fun state => ?_
    exact .bind (.when fun _ => reset) fun _ => handleLiveCpuUv_calls
  have stock : resetToStockClocks.Respects CallsFrom :=
    .bind reset fun _ => .bind handleLiveCpuUv_calls fun _ => resetGpu
  intro program member
  simp only [undervoltPrograms, List.mem_cons, List.not_mem_nil, or_false] at member
  rcases member with rfl | rfl | rfl | rfl
  · exact handleLiveCpuUv_calls
  · exact freqReset true
  · exact freqReset false
  · exact stock

/-- The levels of the console's processor, as 32 bits. -/
def levels (socType : SocType) (values : ConfigValue → Nat) : Nat × Nat :=
  match socType with
  | .erista => (toU32 (values .eristaCpuUV), 0)
  | .mariko => (toU32 (values .marikoCpuUVLow), toU32 (values .marikoCpuUVHigh))

/-- Live undervolting is off, or the levels are in range. -/
def LevelsFit (socType : SocType) (values : ConfigValue → Nat) : Prop :=
  values .liveCpuUv ≠ 0 → LevelsInRange socType (levels socType values).1 (levels socType values).2

/-- Whatever the console's state, every call that is made finds its entries. -/
def LookupsInside (socType : SocType) (config : Config) : Prop :=
  ∀ state : Sys, state.setting.config = config → state.setting.board.socType = socType →
    ∀ program ∈ undervoltPrograms, ∀ final, program.run state = .ok (⟨⟩, final) →
      ∀ calls, dfllCallsOf final.log = calls ++ dfllCallsOf state.log →
        ∀ call ∈ calls, call.Inside socType

theorem dfllCall_levels {setting : Setting} {socType : SocType}
    (console : setting.board.socType = socType) :
    (setting.dfllCall.levelLow, setting.dfllCall.levelHigh) = levels socType setting.config.values := by
  subst console
  unfold Setting.dfllCall levels
  cases setting.board.socType with
  | erista => rfl
  | mariko => rfl

theorem lookupsInside_iff (socType : SocType) (config : Config) :
    LookupsInside socType config ↔ LevelsFit socType config.values := by
  constructor
  · intro inside live
    let state : Sys :=
      Sys.initial { sampleSetting with config, board := { sampleBoard with socType } } sampleRates []
    have called : state.liveUndervolted = state.record (.setDfllTunings
        state.setting.dfllCall.levelLow state.setting.dfllCall.levelHigh
        state.setting.dfllCall.tbreakPoint) := if_pos live
    have run : handleLiveCpuUv.run state = .ok (⟨⟩, state.liveUndervolted) := by
      rw [handleLiveCpuUv_eq]
      rfl
    have calls : dfllCallsOf state.liveUndervolted.log =
        [state.setting.dfllCall] ++ dfllCallsOf state.log := by
      rw [called]
      rfl
    have found := inside state rfl rfl _ List.mem_cons_self _ run _ calls _ List.mem_cons_self
    have inRange := DfllCall.inside_iff.mp found
    have same := @dfllCall_levels state.setting socType rfl
    change LevelsInRange socType (levels socType state.setting.config.values).1
      (levels socType state.setting.config.values).2
    rw [← same]
    exact inRange
  · rintro fit state rfl rfl program member final run calls made call inCalls
    obtain ⟨-, new, newCalls, isCall⟩ := (undervoltPrograms_calls program member).run run
    rw [newCalls] at made
    rw [← List.append_cancel_right made] at inCalls
    obtain ⟨live, same⟩ := isCall call inCalls
    have inRange := fit live
    rw [← @dfllCall_levels state.setting _ rfl] at inRange
    rw [same]
    exact DfllCall.inside_of_range inRange

/-- The value that a line of the values section sets. -/
def IniItem.valueFor (kval : ConfigValue) : IniItem → Option Nat
  | .value key input => if kval = key then some (Config.acceptedValue key input) else none
  | .clock _ _ _ _ => none

/-- The value that a file gives: its last line counts, and no line means the default. -/
def Card.configValue (card : Card) (kval : ConfigValue) : Nat :=
  ((card.configFile.items.filterMap (IniItem.valueFor kval)).getLast?).getD
    (hocclkDefaultConfigValue kval)

theorem foldl_browseIniFunc_valueFor (kval : ConfigValue) (items : List IniItem) (config : Config) :
    (items.foldl Config.browseIniFunc config).values kval =
      ((items.filterMap (IniItem.valueFor kval)).getLast?).getD (config.values kval) := by
  induction items generalizing config with
  | nil => rfl
  | cons item rest ih =>
      rw [List.foldl_cons, ih]
      cases item with
      | value key input =>
          by_cases same : kval = key
          · have set : IniItem.valueFor kval (.value key input) =
                some (Config.acceptedValue key input) := if_pos same
            rw [List.filterMap_cons_some set, List.getLast?_cons, Option.getD_some, same]
            exact congrArg _ (Function.update_self ..)
          · have other : IniItem.valueFor kval (.value key input) = none := if_neg same
            rw [List.filterMap_cons_none other]
            exact congrArg _ (Function.update_of_ne same ..)
      | clock titleId profile module mhz =>
          have other : IniItem.valueFor kval (.clock titleId profile module mhz) = none := rfl
          have kept : (config.browseIniFunc (.clock titleId profile module mhz)).values =
              config.values := by
            rw [Config.browseIniFunc]
            split <;> rfl
          rw [List.filterMap_cons_none other, kept]

theorem load_configValue (config : Config) (card : Card) :
    (config.load card.configFile).values = card.configValue := by
  funext kval
  rw [Card.configValue]
  cases present : card.file with
  | none => simp [Config.load, Config.close, Card.configFile, present]
  | some file =>
      have stamped : file.modified.seconds ≠ 0 := Nat.pos_iff_ne_zero.mp file.modified.positive
      simp only [Card.configFile, present, Config.load, if_neg stamped]
      rw [foldl_browseIniFunc_valueFor]
      rfl

/-- What fills the configuration: a load of whatever file is there by then, a load of the present
file if it changed, `SetConfigValues` with any list, and `GetKipData` over any KIP. -/
inductive FillStep where
  | load (card : Card)
  | refresh
  | setConfigValues (now : Stamp) (values : ConfigValue → Nat) (immediate : Bool)
  | getKipData (kip : Option KipFile) (now : Stamp) (gpuSpeedo : Nat)

namespace FillStep

def apply (state : KipState) : FillStep → KipState
  | .load card => { state with card, config := state.config.load card.configFile }
  | .refresh => state.refresh.2
  | .setConfigValues now values immediate => (state.setConfigValues now values immediate).2
  | .getKipData kip now gpuSpeedo => { state with kip }.getKipData now gpuSpeedo

/-- `Refresh` loads the file. -/
def Reloads (state : KipState) : Prop :=
  state.config.loaded = false ∨ state.config.mtime ≠ state.card.configFile.modified

/-- The levels that a step brings into the configuration fit. -/
def BringsFitting (socType : SocType) (state : KipState) : FillStep → Prop
  | .load card => LevelsFit socType card.configValue
  | .refresh => Reloads state → LevelsFit socType state.card.configValue
  | .setConfigValues _ values immediate =>
      state.card.writable = true → immediate = true →
        LevelsFit socType fun kval => Config.acceptedValue kval (values kval)
  | .getKipData _ _ _ => Reloads state → LevelsFit socType state.card.configValue

theorem refresh_values (state : KipState) :
    (Reloads state ∧ state.refresh.2.config.values = state.card.configValue) ∨
      (¬Reloads state ∧ state.refresh.2.config.values = state.config.values) := by
  have decides : (!state.config.loaded || state.config.mtime ≠ state.card.configFile.modified) =
      true ↔ Reloads state := by simp [Reloads]
  unfold KipState.refresh Config.refresh
  by_cases reloads : Reloads state
  · rw [if_pos (decides.mpr reloads)]
    exact .inl ⟨reloads, load_configValue _ _⟩
  · rw [if_neg (fun told => reloads (decides.mp told))]
    exact .inr ⟨reloads, rfl⟩

theorem setConfigValues_values (state : KipState) (now : Stamp) (values : ConfigValue → Nat)
    (immediate : Bool) :
    ((state.setConfigValues now values immediate).2).config.values =
      if state.card.writable = true ∧ immediate = true then
        fun kval => Config.acceptedValue kval (values kval)
      else state.config.values := by
  unfold KipState.setConfigValues Config.setConfigValues Card.put
  cases state.card.writable <;> cases immediate <;> rfl

/-- `GetKipData` writes its table to the file only; in memory there is what it refreshed. -/
theorem getKipData_values (state : KipState) (now : Stamp) (gpuSpeedo : Nat) :
    (state.getKipData now gpuSpeedo).config.values = state.refresh.2.config.values := by
  have kept (state : KipState) (values : ConfigValue → Nat) :
      ((state.setConfigValues now values false).2).config.values = state.config.values := by
    rw [setConfigValues_values]
    simp
  have stored (state : KipState) : (state.setKipData now).config.values = state.config.values := by
    unfold KipState.setKipData
    split
    · rfl
    · split
      · rfl
      · exact kept _ _
  unfold KipState.getKipData
  dsimp only
  split
  · rfl
  · split
    · rfl
    · split
      · rfl
      · split
        · exact stored _
        · exact kept _ _

theorem apply_fits_iff (socType : SocType) (state : KipState) (step : FillStep)
    (fits : LevelsFit socType state.config.values) :
    LevelsFit socType (apply state step).config.values ↔ BringsFitting socType state step := by
  have refreshed : LevelsFit socType state.refresh.2.config.values ↔
      (Reloads state → LevelsFit socType state.card.configValue) := by
    rcases refresh_values state with ⟨reloads, values⟩ | ⟨stays, values⟩
    · simp [values, reloads]
    · simp [values, stays, fits]
  cases step with
  | load card => rw [apply, load_configValue, BringsFitting]
  | refresh => exact refreshed
  | setConfigValues now values immediate =>
      rw [apply, setConfigValues_values, BringsFitting]
      split
      · rename_i stored
        simp [stored]
      · rename_i unstored
        exact ⟨fun _ writable isImmediate => absurd ⟨writable, isImmediate⟩ unstored, fun _ => fits⟩
  | getKipData kip now gpuSpeedo =>
      rw [apply, getKipData_values]
      exact refreshed

end FillStep

/-- From `Initialize` on, the tables are read inside their bounds as long as every file that is
loaded and every list that is taken over has levels that fit. -/
theorem undervolt_lookups_inside_iff (socType : SocType) (card : Card) (kip : Option KipFile)
    (steps : List FillStep) :
    Always FillStep.apply (fun state => LookupsInside socType state.config)
        { config := .initial, card, kip } steps ↔
      Guarded FillStep.apply (FillStep.BringsFitting socType)
        { config := .initial, card, kip } steps := by
  have start : LookupsInside socType Config.initial := by
    rw [lookupsInside_iff]
    exact fun live => absurd rfl live
  refine @always_iff_guarded _ _ _ _ _ _ steps (fun _ => True) start trivial (fun _ _ _ => trivial) ?_
  intro state step _ inside
  rw [lookupsInside_iff] at inside ⊢
  exact FillStep.apply_fits_iff socType state step inside

/-- A file with a level that the table does not have. -/
theorem undervolt_lookup_outside :
    let card : Card :=
      { file := some
          { modified := ⟨7, by decide⟩
            sections := [{ name := "values", pairs :=
              [(hocclkFormatConfigValue .liveCpuUv, "1"),
               (hocclkFormatConfigValue .marikoCpuUVLow, "13")] }] }
        writable := true }
    ¬Always FillStep.apply (fun state => LookupsInside .mariko state.config)
      { config := .initial, card, kip := none } [.load card] := by
  rintro card ⟨-, inside⟩
  have fits := (lookupsInside_iff .mariko _).mp inside
  have live : (Config.initial.load card.configFile).values .liveCpuUv = 1 := by decide +kernel
  have level : (Config.initial.load card.configFile).values .marikoCpuUVLow = 13 := by decide +kernel
  have low := (fits (by rw [FillStep.apply, live]; decide)).1
  rw [FillStep.apply] at low
  change toU32 ((Config.initial.load card.configFile).values .marikoCpuUVLow) ≤ 12 at low
  rw [level] at low
  exact absurd low (by decide)

end HorizonOc.Sysmodule
