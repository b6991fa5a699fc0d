import Mathlib.Logic.Relation
import HorizonOc.Sysmodule.Refresh

namespace HorizonOc.Sysmodule

open HorizonOc.Data

/-! The GPU's minimum voltage when a memory rate is set.  The voltage is raised for the target,
the rate that is set is the target's nearest entry, and the voltage is lowered afterwards. -/

/-- The minimum voltage that a memory rate needs. -/
def Setting.neededMv (setting : Setting) (hz : Nat) : Nat :=
  getMinimumGpuVmin (hz / 1000000) setting.board.gpuSpeedoBracket

def stockMemoryHz : Nat := 1600000000

theorem Setting.neededMv_mono (setting : Setting) {low high : Nat} (le : low ≤ high) :
    setting.neededMv low ≤ setting.neededMv high :=
  getMinimumGpuVmin_mono (Nat.div_le_div_right le) _

theorem Setting.neededMv_of_stock (setting : Setting) {hz : Nat} (low : hz ≤ stockMemoryHz) :
    setting.neededMv hz = 0 :=
  getMinimumGpuVmin_of_le (by unfold stockMemoryHz at low; omega) _

def Config.Hijacks (config : Config) : Prop :=
  config.getConfigValue .dvfsMode = dvfsModeHijack ∧
    toS32 (config.getConfigValue .dvfsOffset) = 0

/-- A Mariko console in `DVFSMode Hijack` without an offset, now and after the configuration file
is read again; the writes to PCV's memory succeed. -/
structure HijackSetting (setting : Setting) : Prop where
  mariko : setting.board.socType = .mariko
  hijacks : setting.config.Hijacks
  reloads : ∀ config : Config, (config.load setting.services.configFile).Hijacks
  writable : setting.services.pcvWritable = true
  ascending : (setting.gFreqTable .mem).Pairwise (· < ·)
  performance : setting.board.hosAtLeast9 = false →
    ∀ mode, ∃ hz ≤ stockMemoryHz, setting.board.performanceModeRates mode .mem = some hz

theorem HijackSetting.usesHijack {setting : Setting} (hijacks : HijackSetting setting) :
    usesHijack setting = true := by
  simp [HorizonOc.Sysmodule.usesHijack, hijacks.mariko, Setting.value, hijacks.hijacks.1]

theorem HijackSetting.vminBeforeSet {setting : Setting} (hijacks : HijackSetting setting)
    (targetHz : Nat) : vminBeforeSet setting targetHz = setting.neededMv targetHz := by
  have offset : dvfsOffset setting = 0 := hijacks.hijacks.2
  have bounded : setting.neededMv targetHz ≤ 800 := by
    rcases Nat.lt_or_ge 1600 (targetHz / 1000000) with high | low
    · exact (getMinimumGpuVmin_bounds high _).2
    · simp [Setting.neededMv, getMinimumGpuVmin_of_le low]
  have exact := addS32_of_bounds (by omega : 0 ≤ (setting.neededMv targetHz : Int) + 0)
    (by omega)
  unfold Sysmodule.vminBeforeSet
  rw [offset]
  change addS32 (setting.neededMv targetHz) 0 = _
  omega

theorem HijackSetting.vminAfterSet {setting : Setting} (hijacks : HijackSetting setting)
    (targetHz : Nat) : vminAfterSet setting targetHz = setting.neededMv targetHz := by
  have same := hijacks.vminBeforeSet targetHz
  have offset : dvfsOffset setting = 0 := hijacks.hijacks.2
  unfold Sysmodule.vminBeforeSet at same
  unfold Sysmodule.vminAfterSet
  rw [offset] at same ⊢
  dsimp only
  split
  · exact same
  · rfl

/-- Every entry below the memory's rate is covered by the minimum in force, and so was every rate that
was set. -/
structure Covered (state : Sys) : Prop where
  known : state.rate .mem ∈ state.setting.gFreqTable .mem ∨
    state.setting.neededMv (state.rate .mem) = 0
  below : ∀ hz ∈ state.setting.gFreqTable .mem, hz < state.rate .mem →
    state.setting.neededMv hz ≤ state.ramVmin
  writes : ∀ write ∈ writesOf .mem state.log, state.setting.neededMv write.1 ≤ write.2

/-- At a stock rate any minimum will do. -/
theorem Covered.of_stock {state : Sys} (low : state.rate .mem ≤ stockMemoryHz)
    (writes : ∀ write ∈ writesOf .mem state.log, state.setting.neededMv write.1 ≤ write.2) :
    Covered state := by
  refine ⟨.inr (state.setting.neededMv_of_stock low), fun hz _ less => ?_, writes⟩
  rw [state.setting.neededMv_of_stock (by omega)]
  omega

/-- What stays the same of the settings when the configuration or the title changes. -/
structure SameHardware (before after : Setting) : Prop where
  board : after.board = before.board
  table : after.gFreqTable .mem = before.gFreqTable .mem

theorem SameHardware.neededMv {before after : Setting} (same : SameHardware before after)
    (hz : Nat) : after.neededMv hz = before.neededMv hz := by
  rw [Setting.neededMv, Setting.neededMv, same.board]

theorem Covered.of_same {before after : Sys} (covered : Covered before)
    (hardware : SameHardware before.setting after.setting)
    (rate : after.rate .mem = before.rate .mem ∨ after.rate .mem ≤ stockMemoryHz)
    (ramVmin : after.ramVmin = before.ramVmin)
    (writes : writesOf .mem after.log = writesOf .mem before.log) : Covered after := by
  have afterWrites : ∀ write ∈ writesOf .mem after.log,
      after.setting.neededMv write.1 ≤ write.2 := by
    intro write member
    rw [writes] at member
    rw [hardware.neededMv]
    exact covered.writes write member
  rcases rate with same | low
  · refine ⟨?_, fun hz member less => ?_, afterWrites⟩
    · rw [same, hardware.table, hardware.neededMv]
      exact covered.known
    · rw [hardware.table] at member
      rw [same] at less
      rw [hardware.neededMv, ramVmin]
      exact covered.below hz member less
  · exact .of_stock low afterWrites

section

variable {touched : Module → Prop} {volts : Prop} {before after : Sys}

theorem TouchesOnly.mem_rate (frame : TouchesOnly touched volts before after)
    (hijacks : HijackSetting before.setting) (spared : ¬touched .mem) :
    after.rate .mem = before.rate .mem ∨ after.rate .mem ≤ stockMemoryHz := by
  rcases frame.rate .mem spared with same | ⟨older, mode, moved⟩
  · exact .inl same
  · obtain ⟨hz, low, sets⟩ := hijacks.performance older mode
    rw [sets] at moved
    cases moved
    exact .inr low

theorem HijackSetting.modeRates_le {state : Sys} (hijacks : HijackSetting state.setting)
    (older : state.setting.board.hosAtLeast9 = false) : state.modeRates .mem ≤ stockMemoryHz := by
  obtain ⟨hz, low, sets⟩ := hijacks.performance older state.setting.services.performanceMode
  rw [Sys.modeRates, sets]
  exact low

theorem TouchesOnly.covered (frame : TouchesOnly touched volts before after)
    (hijacks : HijackSetting before.setting) (spared : ¬touched .mem) (still : ¬volts)
    (covered : Covered before) : Covered after := by
  have hardware : SameHardware before.setting after.setting :=
    ⟨by rw [frame.setting], by rw [frame.setting]⟩
  exact covered.of_same hardware (frame.mem_rate hijacks spared) (frame.ramVmin still)
    (frame.writes .mem spared)

/-- What spares the memory keeps it covered at a stock rate, whatever it does to the voltage. -/
theorem TouchesOnly.covered_of_stock (frame : TouchesOnly touched volts before after)
    (hijacks : HijackSetting before.setting) (spared : ¬touched .mem)
    (covered : Covered before) (low : before.rate .mem ≤ stockMemoryHz) : Covered after := by
  refine .of_stock ?_ ?_
  · rcases frame.mem_rate hijacks spared with same | low
    · omega
    · exact low
  · rw [frame.writes .mem spared, frame.setting]
    exact covered.writes

end

theorem Covered.applyHz {state : Sys} {hz : Nat} (covered : Covered state)
    (needed : state.setting.neededMv hz ≤ state.ramVmin) :
    ∀ write ∈ writesOf .mem (state.applyHz .mem hz).log,
      (state.applyHz .mem hz).setting.neededMv write.1 ≤ write.2 := by
  intro write member
  rw [writesOf_applyHz_self] at member
  rcases List.mem_cons.mp member with rfl | earlier
  · exact needed
  · exact covered.writes write earlier

theorem apmConfigurations_mem : ∀ configuration ∈ apmConfigurations,
    configuration.memHz ≤ stockMemoryHz := by
  decide

theorem Setting.stock_mem {setting : Setting} {configuration : ApmConfiguration}
    (stock : setting.stock = some configuration) : configuration.memHz ≤ stockMemoryHz := by
  unfold Setting.stock apmConfiguration at stock
  exact apmConfigurations_mem configuration (List.mem_of_find?_eq_some stock)

/-- Setting the memory to its stock rate needs no voltage. -/
theorem Covered.applyStock {state : Sys} {hz : Nat} (covered : Covered state)
    (low : hz ≤ stockMemoryHz) :
    Covered (state.applyHz .mem hz) ∧ (state.applyHz .mem hz).rate .mem ≤ stockMemoryHz := by
  have rate : (state.applyHz .mem hz).rate .mem ≤ stockMemoryHz := by simpa using low
  refine ⟨.of_stock rate (covered.applyHz ?_), rate⟩
  rw [state.setting.neededMv_of_stock low]
  omega

theorem resetToStockMem_covered {state final : Sys} (hijacks : HijackSetting state.setting)
    (covered : Covered state) (finished : resetToStockMem.run state = .ok (⟨⟩, final)) :
    final.setting = state.setting ∧ Covered final ∧ final.rate .mem ≤ stockMemoryHz := by
  rcases resetToStockModule_ok (by decide) finished with
    ⟨-, configuration, stock, rfl⟩ | ⟨older, frame, moved⟩
  · exact ⟨rfl, covered.applyStock (Setting.stock_mem stock)⟩
  · have low : final.rate .mem ≤ stockMemoryHz := by
      rw [moved]
      exact hijacks.modeRates_le older
    exact ⟨frame.setting, frame.covered hijacks id id covered, low⟩

theorem resetToStock_covered {state final : Sys} (hijacks : HijackSetting state.setting)
    (covered : Covered state) (finished : resetToStock.run state = .ok (⟨⟩, final)) :
    final.setting = state.setting ∧ Covered final ∧ final.rate .mem ≤ stockMemoryHz := by
  rcases resetToStock_ok finished with
    ⟨-, configuration, stock, rfl⟩ | ⟨older, frame, moved⟩
  · have cpuFrame : TouchesOnly (· = .cpu) False state (state.applyHz .cpu configuration.cpuHz) :=
      applyHz_touches state _ rfl
    set cpuSet := state.applyHz .cpu configuration.cpuHz
    have gpuFrame : TouchesOnly (· = .gpu) False cpuSet (cpuSet.applyHz .gpu configuration.gpuHz) :=
      applyHz_touches cpuSet _ rfl
    have gpuCovered := gpuFrame.covered hijacks (by decide) id
      (cpuFrame.covered hijacks (by decide) id covered)
    exact ⟨rfl, gpuCovered.applyStock (Setting.stock_mem stock)⟩
  · have low : final.rate .mem ≤ stockMemoryHz := by
      rw [moved]
      exact hijacks.modeRates_le older
    exact ⟨frame.setting, frame.covered hijacks id id covered, low⟩

theorem restoreStock_covered {state final : Sys} (hijacks : HijackSetting state.setting)
    (covered : Covered state) (finished : restoreStock.run state = .ok (⟨⟩, final)) :
    final.setting = state.setting ∧ Covered final := by
  unfold restoreStock at finished
  obtain ⟨_, stocked, reset, rest⟩ := Program.run_bind_ok finished
  obtain ⟨setting, stockedCovered, low⟩ := resetToStock_covered hijacks covered reset
  have respected : (do
      let state ← Program.read
      Program.when (usesHijack state.setting) do
        pcvHijackGpuVolts 0
        setHz .gpu unlimitedHz
        resetToStockGpu
      waitForNextTick : SysProgram PUnit).Respects (TouchesOnly (· = .gpu) True) := by
    refine .bind .read fun state => .bind (.when fun _ => ?_) fun _ => .sleep
    refine .bind (pcvHijackGpuVolts_respects 0 trivial) fun _ => ?_
    exact .bind (setHz_respects _ rfl) fun _ => resetToStockModule_respects rfl
  have frame := respected.run rest
  have stockedHijacks : HijackSetting stocked.setting := by
    rw [setting]
    exact hijacks
  exact ⟨frame.setting.trans setting,
    frame.covered_of_stock stockedHijacks (by decide) stockedCovered low⟩

/-- The nearest entry of the target needs no more voltage than the target, unless it is set on the
way down, from a rate above both. -/
def MemoryPassSafe (state : Sys) : Prop :=
  let targetHz := resolveTargetHz state.setting .mem false
  ∀ hz, targetHz ≠ 0 → nearestAllowedHz state.setting .mem targetHz = some hz →
    hz ≠ state.freqs .mem → state.rate .mem < hz ∨ state.rate .mem < targetHz →
    state.setting.neededMv hz ≤ state.setting.neededMv targetHz

/-- The cache has the memory's rate, or any cached rate will do. -/
def CachesMemory (state : Sys) : Prop :=
  state.freqs .mem = state.rate .mem ∨ state.setting.neededMv (state.rate .mem) = 0

/-- Before the target is set, and when the voltage is not raised for it. -/
theorem Covered.neededMv_of_not_raised {state : Sys} (covered : Covered state)
    (cached : CachesMemory state) (safe : MemoryPassSafe state) {hz : Nat}
    (hijacks : HijackSetting state.setting)
    (target : resolveTargetHz state.setting .mem false ≠ 0)
    (nearest : nearestAllowedHz state.setting .mem (resolveTargetHz state.setting .mem false) =
      some hz)
    (differs : hz ≠ state.freqs .mem)
    (notAbove : ¬state.rate .mem < resolveTargetHz state.setting .mem false) :
    state.setting.neededMv hz ≤ state.ramVmin := by
  obtain ⟨member, passed⟩ := nearestHzIn_spec hijacks.ascending nearest
  rcases Nat.lt_trichotomy hz (state.rate .mem) with less | same | more
  · exact covered.below hz member less
  · rcases cached with coherent | none
    · exact absurd (same.trans coherent.symm) differs
    · rw [same, none]
      omega
  · -- A rate that the table passed over is not one of its entries, so it is a stock rate.
    have needed := safe hz target nearest differs (.inl more)
    have targetLow := state.setting.neededMv_mono (Nat.le_of_not_lt notAbove)
    rcases covered.known with isEntry | none
    · exact absurd (passed _ isEntry more) notAbove
    · omega

/-- After a target's nearest entry was set, with every entry below the target covered. -/
theorem Covered.of_nearest {before after : Sys} {targetHz hz : Nat}
    (hijacks : HijackSetting before.setting) (setting : after.setting = before.setting)
    (nearest : nearestAllowedHz before.setting .mem targetHz = some hz)
    (rate : after.rate .mem = hz)
    (below : ∀ entry ∈ before.setting.gFreqTable .mem, entry < targetHz →
      before.setting.neededMv entry ≤ after.ramVmin)
    (writes : ∀ write ∈ writesOf .mem after.log, before.setting.neededMv write.1 ≤ write.2) :
    Covered after := by
  obtain ⟨member, passed⟩ := nearestHzIn_spec hijacks.ascending nearest
  refine ⟨.inl ?_, fun entry isEntry less => ?_, ?_⟩
  · rw [rate, setting]
    exact member
  · rw [setting] at isEntry ⊢
    rw [rate] at less
    exact below entry isEntry (passed entry isEntry less)
  · rw [setting]
    exact writes

/-- The state in which the rate is set: the voltage raised where the target is above the old rate. -/
theorem raise_covers {state raised : Sys} {targetHz : Nat} (hijacks : HijackSetting state.setting)
    (covered : Covered state)
    (finished : (Program.when (usesHijack state.setting ∧ state.rate .mem < targetHz)
      (dvfsBeforeSet targetHz)).run state = .ok (⟨⟩, raised)) :
    TouchesOnly (fun _ => False) True state raised ∧
      (state.rate .mem < targetHz → raised.ramVmin = state.setting.neededMv targetHz) ∧
      (¬state.rate .mem < targetHz → raised = state) := by
  rcases Program.run_when_ok finished with ⟨⟨-, raises⟩, finished⟩ | ⟨kept, rfl⟩
  · have respected : (dvfsBeforeSet targetHz).Respects (TouchesOnly (fun _ => False) True) :=
      dvfsBeforeSet_respects targetHz trivial
    obtain ⟨final, returned, ramVmin, -⟩ := dvfsBeforeSet_run state targetHz
    have frame := respected.run finished
    rw [returned] at finished
    cases finished
    refine ⟨frame, fun _ => ?_, fun not => absurd raises not⟩
    rw [ramVmin hijacks.writable, hijacks.vminBeforeSet]
  · exact ⟨Std.Refl.refl _, fun raises => absurd ⟨hijacks.usesHijack, raises⟩ kept, fun _ => rfl⟩

theorem setTargetHz_mem_covered {state final : Sys} (hijacks : HijackSetting state.setting)
    (covered : Covered state) (cached : CachesMemory state) (safe : MemoryPassSafe state)
    (target : resolveTargetHz state.setting .mem false ≠ 0)
    (finished : (setTargetHz .mem (resolveTargetHz state.setting .mem false)
      (state.rate .mem)).run state = .ok (⟨⟩, final)) : Covered final := by
  obtain ⟨hz, nearest, ⟨-, rfl⟩ | ⟨differs, raised, before, after⟩⟩ := setTargetHz_mem_ok finished
  · exact covered
  obtain ⟨raisedFrame, raises, keeps⟩ := raise_covers hijacks covered before
  set targetHz := resolveTargetHz state.setting .mem false
  set applied := (raised.applyHz .mem hz).cacheHz .mem hz with appliedDef
  have appliedSetting : applied.setting = state.setting := raisedFrame.setting
  have needed : state.setting.neededMv hz ≤ raised.ramVmin := by
    by_cases above : state.rate .mem < targetHz
    · rw [raises above]
      exact safe hz target nearest differs (.inr above)
    · rw [keeps above]
      exact covered.neededMv_of_not_raised cached safe hijacks target nearest differs above
  have writes : ∀ write ∈ writesOf .mem applied.log, state.setting.neededMv write.1 ≤ write.2 := by
    intro write member
    rw [appliedDef, Sys.cacheHz_log, writesOf_applyHz_self, raisedFrame.writes .mem id] at member
    rcases List.mem_cons.mp member with rfl | earlier
    · exact needed
    · exact covered.writes write earlier
  have rate : applied.rate .mem = hz := (raised.applyHz .mem hz).cacheHz_rate .mem hz ▸
    Sys.applyHz_rate_self raised .mem hz
  rcases Program.run_when_ok after with ⟨-, after⟩ | ⟨notLowered, rfl⟩
  · obtain ⟨gpuHz, -, rest⟩ := dvfsAfterSet_ok after
    rw [appliedSetting, hijacks.vminAfterSet] at rest
    set loweredMv := state.setting.neededMv targetHz with loweredDef
    have hijack : (pcvHijackGpuVolts loweredMv).Respects (TouchesOnly (fun _ => False) True) :=
      pcvHijackGpuVolts_respects _ trivial
    have frame := hijack.run (pcvHijackGpuVolts_run applied loweredMv)
    set hijacked := (applied.record (.hijackGpuVolts loweredMv)).hijackGpuVolts loweredMv
      with hijackedDef
    have hijackedSetting : hijacked.setting = state.setting := frame.setting.trans appliedSetting
    have ramVmin : hijacked.ramVmin = loweredMv :=
      Sys.hijackGpuVolts_ramVmin (by
        rw [Sys.record_setting, appliedSetting]
        exact hijacks.writable) loweredMv
    have hijackedRate : hijacked.rate .mem = hz := by
      rw [hijackedDef, Sys.hijackGpuVolts_rate]
      exact rate
    have hijackedCovered : Covered hijacked := by
      refine .of_nearest hijacks hijackedSetting nearest hijackedRate (fun entry _ less => ?_) ?_
      · rw [ramVmin, loweredDef]
        exact state.setting.neededMv_mono (Nat.le_of_lt less)
      · rw [frame.writes .mem id]
        exact writes
    have again : (setGpuAgain targetHz gpuHz).Respects (TouchesOnly (· = .gpu) False) :=
      setGpuAgain_respects _ _ rfl
    refine (again.run rest).covered ?_ (by decide) id hijackedCovered
    rw [hijackedSetting]
    exact hijacks
  · refine .of_nearest hijacks appliedSetting nearest rate (fun entry isEntry less => ?_) writes
    change state.setting.neededMv entry ≤ raised.ramVmin
    by_cases above : state.rate .mem < targetHz
    · rw [raises above]
      exact state.setting.neededMv_mono (Nat.le_of_lt less)
    · have same : targetHz = state.rate .mem :=
        Nat.le_antisymm (Nat.le_of_not_lt above)
          (Nat.le_of_not_lt fun lowers => notLowered ⟨hijacks.usesHijack, lowers⟩)
      rw [keeps above]
      exact covered.below entry isEntry (same ▸ less)

theorem setOrResetHz_mem_covered {state final : Sys} {isBoost : Bool}
    (hijacks : HijackSetting state.setting) (covered : Covered state)
    (cached : CachesMemory state) (safe : MemoryPassSafe state)
    (finished : (setOrResetHz .mem isBoost).run state = .ok (⟨⟩, final)) : Covered final := by
  rcases setOrResetHz_ok finished with ⟨target, finished⟩ | ⟨-, finished⟩
  · exact setTargetHz_mem_covered hijacks covered cached safe target finished
  · unfold handleFreqReset at finished
    rw [Program.run_read_bind] at finished
    obtain ⟨_, stocked, reset, rest⟩ := Program.run_bind_ok finished
    obtain ⟨setting, stockedCovered, low⟩ := resetToStockMem_covered hijacks covered reset
    have respected : dvfsReset.Respects (TouchesOnly (· = .gpu) True) :=
      dvfsReset_respects rfl trivial
    refine (respected.run rest).covered_of_stock ?_ (by decide) stockedCovered low
    rw [setting]
    exact hijacks

/-- The tick as far as the memory's pass, and whether it comes to it. -/
def untilMemoryPass : SysProgram Bool := do
  let state ← Program.read
  let isBoost := apmExtIsBoostMode state.setting.services.apmConfiguration
  handleSafetyFeatures
  handleMiscFeatures
  let changed ← refreshContext
  let changed ← (if changed then pure true else refreshConfig : SysProgram Bool)
  let state ← Program.read
  if changed = true ∧ ¬ReturnsEarly isBoost state then
    setModuleClock isBoost .cpu
    setModuleClock isBoost .gpu
    pure true
  else pure false

theorem untilMemoryPass_run {state safe misc context cpu gpu : Sys} {changed : Bool}
    (safety : handleSafetyFeatures.run state = .ok (⟨⟩, safe))
    (features : handleMiscFeatures.run safe = .ok (⟨⟩, misc))
    (refresh : refreshContext.run misc = .ok (changed, context))
    (sets : (context.afterConfig changed).1 = true)
    (late : ¬ReturnsEarly (apmExtIsBoostMode state.setting.services.apmConfiguration)
      (context.afterConfig changed).2)
    (cpuRun : (setModuleClock (apmExtIsBoostMode state.setting.services.apmConfiguration) .cpu).run
      (context.afterConfig changed).2 = .ok (⟨⟩, cpu))
    (gpuRun : (setModuleClock (apmExtIsBoostMode state.setting.services.apmConfiguration) .gpu).run
      cpu = .ok (⟨⟩, gpu)) :
    untilMemoryPass.run state = .ok (true, gpu) := by
  have config : (if changed then pure true else refreshConfig : SysProgram Bool).run context =
      .ok (true, (context.afterConfig changed).2) := by
    cases changed with
    | true => rfl
    | false => exact congrArg (fun set => Except.ok (set, _)) sets
  unfold untilMemoryPass
  rw [Program.run_read_bind, Program.run_bind_of_ok _ safety, Program.run_bind_of_ok _ features,
    Program.run_bind_of_ok _ refresh, Program.run_bind_of_ok _ config, Program.run_read_bind,
    if_pos ⟨rfl, late⟩, Program.run_bind_of_ok _ cpuRun, Program.run_bind_of_ok _ gpuRun]
  rfl

theorem TouchesOnly.cachesMemory {touched : Module → Prop} {volts : Prop} {before after : Sys}
    (frame : TouchesOnly touched volts before after) (hijacks : HijackSetting before.setting)
    (spared : ¬touched .mem) (cached : CachesMemory before) : CachesMemory after := by
  unfold CachesMemory at cached ⊢
  rw [frame.setting, frame.freqs .mem spared]
  rcases frame.mem_rate hijacks spared with same | low
  · rw [same]
    exact cached
  · exact .inr (before.setting.neededMv_of_stock low)

theorem setClocks_covered {state final : Sys} {isBoost : Bool}
    (hijacks : HijackSetting state.setting) (covered : Covered state)
    (cached : CachesMemory state)
    (safe : ∀ cpu gpu, ¬ReturnsEarly isBoost state →
      (setModuleClock isBoost .cpu).run state = .ok (⟨⟩, cpu) →
      (setModuleClock isBoost .gpu).run cpu = .ok (⟨⟩, gpu) → MemoryPassSafe gpu)
    (finished : (setClocks isBoost).run state = .ok (⟨⟩, final)) :
    final.setting = state.setting ∧ Covered final := by
  by_cases early : ReturnsEarly isBoost state
  · obtain ⟨frame, -⟩ := setClocks_early_hands early finished
    exact ⟨frame.setting, frame.covered hijacks (by decide) id covered⟩
  · obtain ⟨cpu, gpu, mem, governor, loop⟩ := setClocks_ok early finished
    have gpuSafe := safe cpu gpu early loop.cpuRun loop.gpuRun
    have cpuHijacks : HijackSetting cpu.setting := by
      rw [loop.cpuFrame.setting]
      exact hijacks
    have gpuSetting : gpu.setting = state.setting :=
      loop.gpuFrame.setting.trans loop.cpuFrame.setting
    have gpuCovered := loop.gpuFrame.covered cpuHijacks (by decide) (by decide)
      (loop.cpuFrame.covered hijacks (by decide) (by decide) covered)
    have gpuCached := loop.gpuFrame.cachesMemory cpuHijacks (by decide)
      (loop.cpuFrame.cachesMemory hijacks (by decide) cached)
    have memRun := loop.memRun
    unfold setModuleClock at memRun
    rw [Program.run_read_bind] at memRun
    have memCovered : Covered mem :=
      setOrResetHz_mem_covered (by rw [gpuSetting]; exact hijacks) gpuCovered gpuCached gpuSafe
        memRun
    have memSetting : mem.setting = state.setting := loop.memFrame.setting.trans gpuSetting
    have governorSetting := loop.governorFrame.setting.trans memSetting
    have governorCovered := loop.governorFrame.covered (by rw [memSetting]; exact hijacks) id id
      memCovered
    exact ⟨loop.displayFrame.setting.trans governorSetting,
      loop.displayFrame.covered (by rw [governorSetting]; exact hijacks) (by decide) (by decide)
        governorCovered⟩

/-- What every step keeps. -/
structure VoltageInvariant (hardware : Setting) (state : Sys) : Prop where
  hardware : SameHardware hardware state.setting
  hijacks : HijackSetting state.setting
  covered : Covered state

theorem VoltageInvariant.touches {hardware : Setting} {touched : Module → Prop} {before after : Sys}
    (invariant : VoltageInvariant hardware before) (frame : TouchesOnly touched False before after)
    (spared : ¬touched .mem) : VoltageInvariant hardware after := by
  refine ⟨?_, ?_, frame.covered invariant.hijacks spared id invariant.covered⟩
  · rw [frame.setting]
    exact invariant.hardware
  · rw [frame.setting]
    exact invariant.hijacks

theorem handleSafetyFeatures_respects :
    handleSafetyFeatures.Respects (TouchesOnly (fun module => module = .cpu ∨ module = .gpu) False) := by
  unfold handleSafetyFeatures
  refine .bind .read fun _ => .when fun _ => ?_
  unfold resetToStockClocks
  refine .bind (resetToStockModule_respects (.inl rfl)) fun _ => ?_
  exact .bind handleLiveCpuUv_respects fun _ => resetToStockModule_respects (.inr rfl)

theorem refreshContext_covered {hardware : Setting} {state final : Sys} {changed : Bool}
    (invariant : VoltageInvariant hardware state)
    (finished : refreshContext.run state = .ok (changed, final)) :
    VoltageInvariant hardware final ∧ CachesMemory final := by
  obtain ⟨restored, restore, -, rfl⟩ := refreshContext_ok finished
  obtain ⟨same, hijacks, covered⟩ := invariant
  have titled : VoltageInvariant hardware (refreshTitle state).2 :=
    ⟨⟨same.board, same.table⟩,
      ⟨hijacks.mariko, hijacks.hijacks, hijacks.reloads, hijacks.writable, hijacks.ascending,
        hijacks.performance⟩,
      covered.of_same ⟨rfl, rfl⟩ (.inl rfl) rfl rfl⟩
  have restoredInvariant : VoltageInvariant hardware restored := by
    rcases Program.run_when_ok restore with ⟨-, restore⟩ | ⟨-, rfl⟩
    · obtain ⟨setting, restoredCovered⟩ :=
        restoreStock_covered titled.hijacks titled.covered restore
      exact ⟨setting ▸ titled.hardware, setting ▸ titled.hijacks, restoredCovered⟩
    · exact titled
  obtain ⟨same, hijacks, covered⟩ := restoredInvariant
  refine ⟨⟨⟨same.board, same.table⟩,
    ⟨hijacks.mariko, hijacks.hijacks, hijacks.reloads, hijacks.writable, hijacks.ascending,
      hijacks.performance⟩,
    covered.of_same ⟨rfl, rfl⟩ (.inl rfl) rfl rfl⟩, ?_⟩
  change restored.seenHz .mem = restored.rate .mem ∨ restored.setting.neededMv (restored.rate .mem) = 0
  unfold Sys.seenHz
  change (if restored.rate .mem ≠ 0 then restored.rate .mem else restored.freqs .mem) = _ ∨ _
  split
  · exact .inl rfl
  · rename_i zero
    exact .inr (restored.setting.neededMv_of_stock (by omega))

theorem VoltageInvariant.afterConfig {hardware : Setting} {state : Sys}
    (invariant : VoltageInvariant hardware state) (cached : CachesMemory state) (changed : Bool) :
    VoltageInvariant hardware (state.afterConfig changed).2 ∧
      CachesMemory (state.afterConfig changed).2 := by
  obtain ⟨same, hijacks, covered⟩ := invariant
  unfold Sys.afterConfig
  split
  · exact ⟨⟨same, hijacks, covered⟩, cached⟩
  · have refreshed : (state.setting.config.refresh state.setting.services.configFile).2.Hijacks := by
      rcases state.setting.config.refresh_cases state.setting.services.configFile with load | keep
      · rw [load]
        exact hijacks.reloads _
      · rw [keep]
        exact hijacks.hijacks
    exact ⟨⟨⟨same.board, same.table⟩,
      ⟨hijacks.mariko, refreshed, hijacks.reloads, hijacks.writable, hijacks.ascending,
        hijacks.performance⟩,
      covered.of_same ⟨rfl, rfl⟩ (.inl rfl) rfl rfl⟩, cached⟩

theorem tick_covered {hardware : Setting} {state final : Sys}
    (invariant : VoltageInvariant hardware state)
    (safe : ∀ middle, untilMemoryPass.run state = .ok (true, middle) → MemoryPassSafe middle)
    (finished : tick.run state = .ok (⟨⟩, final)) : VoltageInvariant hardware final := by
  obtain ⟨safety, misc, changed, context, safetyRun, features, refresh, clocks⟩ := tick_ok finished
  have safetyInvariant := invariant.touches (handleSafetyFeatures_respects.run safetyRun) (by decide)
  have miscInvariant := safetyInvariant.touches (handleMiscFeatures_respects.run features) id
  obtain ⟨contextInvariant, contextCached⟩ := refreshContext_covered miscInvariant refresh
  obtain ⟨ready, cached⟩ := contextInvariant.afterConfig contextCached changed
  rcases Program.run_when_ok clocks with ⟨sets, clocks⟩ | ⟨-, rfl⟩
  · obtain ⟨setting, covered⟩ := setClocks_covered ready.hijacks ready.covered cached
      (fun cpu gpu late cpuRun gpuRun => safe gpu
        (untilMemoryPass_run safetyRun features refresh sets late cpuRun gpuRun)) clocks
    exact ⟨setting ▸ ready.hardware, setting ▸ ready.hijacks, covered⟩
  · exact ready

/-- What the rest of the system does between two ticks: the mode and the hardware stay, and the
memory goes to a stock rate if it is moved. -/
structure BetweenTicks (before after : Sys) : Prop where
  hardware : SameHardware before.setting after.setting
  hijacks : HijackSetting after.setting
  rate : after.rate .mem = before.rate .mem ∨ after.rate .mem ≤ stockMemoryHz
  ramVmin : after.ramVmin = before.ramVmin
  writes : writesOf .mem after.log = writesOf .mem before.log

/-- A tick whose memory pass is safe, or the rest of the system. -/
inductive VoltageStep : Sys → Sys → Prop where
  | tick {before after : Sys} (finished : Sysmodule.tick.run before = .ok (⟨⟩, after))
      (safe : ∀ middle, untilMemoryPass.run before = .ok (true, middle) → MemoryPassSafe middle) :
      VoltageStep before after
  | between {before after : Sys} (rest : BetweenTicks before after) : VoltageStep before after

theorem VoltageStep.invariant {hardware : Setting} {before after : Sys}
    (step : VoltageStep before after) (invariant : VoltageInvariant hardware before) :
    VoltageInvariant hardware after := by
  cases step with
  | tick finished safe => exact tick_covered invariant safe finished
  | between rest =>
      exact ⟨⟨rest.hardware.board.trans invariant.hardware.board,
          rest.hardware.table.trans invariant.hardware.table⟩, rest.hijacks,
        invariant.covered.of_same rest.hardware rest.rate rest.ramVmin rest.writes⟩

/-- From the start of the process, every memory rate is set with the minimum it needs in force. -/
theorem memory_rates_covered {setting : Setting} {rate : Module → Nat} {voltTable : List Nat}
    {final : Sys} (hijacks : HijackSetting setting) (stock : rate .mem ≤ stockMemoryHz)
    (run : Relation.ReflTransGen VoltageStep (.initial setting rate voltTable) final) :
    ∀ write ∈ writesOf .mem final.log,
      getMinimumGpuVmin (write.1 / 1000000) setting.board.gpuSpeedoBracket ≤ write.2 := by
  have invariant : VoltageInvariant setting final := by
    induction run with
    | refl =>
        refine ⟨⟨rfl, rfl⟩, hijacks, .of_stock stock fun write member => ?_⟩
        simp [Sys.initial, writesOf] at member
    | tail _ step ih => exact step.invariant ih
  intro write member
  have needed := invariant.covered.writes write member
  rw [invariant.hardware.neededMv] at needed
  exact needed

/-- A target that the table has is safe. -/
theorem MemoryPassSafe.of_entry {state : Sys}
    (ascending : (state.setting.gFreqTable .mem).Pairwise (· < ·))
    (member : resolveTargetHz state.setting .mem false ∈ state.setting.gFreqTable .mem) :
    MemoryPassSafe state := by
  intro hz _ nearest _ _
  obtain ⟨-, passed⟩ := nearestHzIn_spec ascending nearest
  refine state.setting.neededMv_mono (Nat.le_of_not_lt fun above => ?_)
  exact absurd (passed _ member above) (Nat.lt_irrefl _)

theorem sampleSetting_hijacks : HijackSetting sampleSetting := by
  have zero : toS32 0 = 0 := by decide
  exact ⟨rfl, ⟨rfl, zero⟩, fun _ => ⟨rfl, zero⟩, rfl, by decide, fun older => by contradiction⟩

/-- The sample with an override of the memory. -/
def memorySample (hz : Nat) : Sys :=
  .initial (sampleSetting.withOverride .mem hz) sampleRates []

theorem memorySample_hijacks (hz : Nat) : HijackSetting (memorySample hz).setting :=
  ⟨rfl, sampleSetting_hijacks.hijacks, sampleSetting_hijacks.reloads, rfl,
    sampleSetting_hijacks.ascending, sampleSetting_hijacks.performance⟩

theorem memory_rates_covered_sample :
    ∃ final, tick.run (memorySample 2140000000) = .ok (⟨⟩, final) ∧
      lastHz .mem final.log = some 2140000000 ∧
      ∀ write ∈ writesOf .mem final.log, getMinimumGpuVmin (write.1 / 1000000) 0 ≤ write.2 := by
  have last : (tick.outcome (memorySample 2140000000)).map (lastHz .mem ·.log) =
      some (some 2140000000) := by decide +kernel
  obtain ⟨final, returned, isLast⟩ := Option.map_eq_some_iff.mp last
  have finished := Program.run_of_outcome returned
  have entries : (untilMemoryPass.outcome (memorySample 2140000000)).map (fun middle =>
      (resolveTargetHz middle.setting .mem false, middle.setting.gFreqTable .mem)) =
      some (2140000000, sampleTables .mem) := by decide +kernel
  have safe : ∀ middle, untilMemoryPass.run (memorySample 2140000000) = .ok (true, middle) →
      MemoryPassSafe middle := by
    intro middle reached
    rw [Program.outcome_of_run reached] at entries
    simp only [Option.map_some, Option.some.injEq, Prod.mk.injEq] at entries
    refine .of_entry ?_ ?_
    · rw [entries.2]
      decide
    · rw [entries.1, entries.2]
      decide
  exact ⟨final, finished, isLast, memory_rates_covered (memorySample_hijacks _) (by decide)
    (.single (.tick finished safe))⟩

/-- At 2133 MHz the minimum is raised to 590 mV, and the nearest entry, 2140 MHz, needs 600. -/
theorem memory_rate_uncovered :
    HijackSetting (memorySample 2133000000).setting ∧ sampleRates .mem ≤ stockMemoryHz ∧
      ∃ final, tick.run (memorySample 2133000000) = .ok (⟨⟩, final) ∧
        (2140000000, 590) ∈ writesOf .mem final.log ∧
        getMinimumGpuVmin (2140000000 / 1000000) 0 = 600 := by
  have member : (tick.outcome (memorySample 2133000000)).map (fun final =>
      decide ((2140000000, 590) ∈ writesOf .mem final.log)) = some true := by decide +kernel
  obtain ⟨final, returned, isMember⟩ := Option.map_eq_some_iff.mp member
  exact ⟨memorySample_hijacks _, by decide, final, Program.run_of_outcome returned,
    of_decide_eq_true isMember, by decide⟩

end HorizonOc.Sysmodule
