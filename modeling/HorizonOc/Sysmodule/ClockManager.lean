import HorizonOc.Sysmodule.Governor

namespace HorizonOc.Sysmodule

open HorizonOc.Data

/-! `clock_manager.cpp`: the tick. -/

def handleCpuUv : SysProgram PUnit := do
  let state ← Program.read
  let setting := state.setting
  match setting.board.socType with
  | .erista => setDfllTunings (setting.value .eristaCpuUV) 0 1581000000
  | .mariko =>
      setDfllTunings (setting.value .marikoCpuUVLow) (setting.value .marikoCpuUVHigh)
        (calculateTbreak .mariko (setting.value .tableConf))

def handleLiveCpuUv : SysProgram PUnit := do
  let state ← Program.read
  Program.when (state.setting.value .liveCpuUv ≠ 0) handleCpuUv

def resetToStockClocks : SysProgram PUnit := do
  resetToStockCpu
  handleLiveCpuUv
  resetToStockGpu

def exceedsHandheldTDP (setting : Setting) : Bool :=
  let limit : ConfigValue :=
    if setting.board.consoleType = .hoag then .liteTDPLimit else .handheldTDPLimit
  setting.value .handheldTDP ≠ 0 && setting.profile ≠ .docked &&
    setting.services.powerAvgMw < negatedS32 (setting.value limit)

def exceedsThermalThreshold (setting : Setting) : Bool :=
  toS32 (setting.value .thermalThrottleThreshold) < setting.services.tempSocMilli.tdiv 1000 &&
    setting.value .thermalThrottle ≠ 0

def safetyFires (setting : Setting) : Bool :=
  exceedsHandheldTDP setting || exceedsThermalThreshold setting

def handleSafetyFeatures : SysProgram PUnit := do
  let state ← Program.read
  Program.when (safetyFires state.setting) resetToStockClocks

def handleMiscFeatures : SysProgram PUnit := do
  Program.update fun state => { state with miscTick := toU32 (state.miscTick + 1) }
  let state ← Program.read
  Program.when (10 < state.miscTick) do
    Program.when (state.setting.value .batteryChargeCurrent ≠ 0) do
      emit (.setFastChargeCurrentLimit (toU32 (state.setting.value .batteryChargeCurrent)))
    Program.update fun state => { state with miscTick := 0 }
    emit (.setDisplayMv (toU32 (state.setting.value .displayVoltage)))

def dvfsOffset (setting : Setting) : Int := toS32 (setting.value .dvfsOffset)

/-- The minimum of `DVFSBeforeSet`: the offset is neither clamped nor left out at 0. -/
def vminBeforeSet (setting : Setting) (targetHz : Nat) : Nat :=
  addS32 (getMinimumGpuVmin (targetHz / 1000000) setting.board.gpuSpeedoBracket)
    (dvfsOffset setting)

def vminAfterSet (setting : Setting) (targetHz : Nat) : Nat :=
  let vmin := getMinimumGpuVmin (targetHz / 1000000) setting.board.gpuSpeedoBracket
  if vmin ≠ 0 then addS32 vmin (max (dvfsOffset setting) (-80)) else vmin

def dvfsBeforeSet (targetHz : Nat) : SysProgram PUnit := do
  let state ← Program.read
  let vmin := vminBeforeSet state.setting targetHz
  pcvHijackGpuVolts vmin
  Program.when (state.setting.services.buckGpuMv < vmin) (emit (.setBuckGpuMv vmin))
  Program.update fun state => { state with gpuVoltage := toU32 (vmin * 1000) }

/-- Lets the GPU go to its limit, then to a target's nearest rate or to stock. -/
def setGpuAgain (targetHz nearestHz : Nat) : SysProgram PUnit := do
  setHz .gpu unlimitedHz
  if targetHz ≠ 0 then setHz .gpu nearestHz else resetToStockGpu

/-- The nearest GPU entry is that of the memory's target. -/
def dvfsAfterSet (targetHz : Nat) : SysProgram PUnit := do
  let state ← Program.read
  let nearestHz ← Program.ofOption .frequencyTableOverrun
    (nearestAllowedHz state.setting .gpu targetHz)
  pcvHijackGpuVolts (vminAfterSet state.setting targetHz)
  setGpuAgain targetHz nearestHz

def dvfsReset : SysProgram PUnit := do
  let state ← Program.read
  Program.when (usesHijack state.setting) do
    pcvHijackGpuVolts 0
    let targetHz := resolveTargetHz state.setting .gpu false
    let nearestHz ← Program.ofOption .frequencyTableOverrun
      (nearestAllowedHz state.setting .gpu targetHz)
    setGpuAgain targetHz nearestHz

def handleFreqReset (module : Module) (isBoost : Bool) : SysProgram PUnit := do
  let state ← Program.read
  match module with
  | .cpu => do
      Program.when (!(isBoost || (state.setting.value .overwriteBoostMode ≠ 0 && isBoost)))
        resetToStockCpu
      handleLiveCpuUv
  | .gpu => resetToStockGpu
  | .mem => do
      resetToStockMem
      dvfsReset
  | .display =>
      Program.when (state.setting.value .overwriteRefreshRate ≠ 0) resetToStockDisplay
  | .governor => pure ⟨⟩

/-- The branch of `SetClocks` for a module with a target, `oldHz` being its rate before. -/
def setTargetHz (module : Module) (targetHz oldHz : Nat) : SysProgram PUnit := do
  let state ← Program.read
  let hijacks := module = .mem ∧ usesHijack state.setting
  let nearestHz ← Program.ofOption .frequencyTableOverrun
    (nearestAllowedHz state.setting module targetHz)
  Program.when (nearestHz ≠ state.freqs module) do
    Program.when (hijacks ∧ oldHz < targetHz) (dvfsBeforeSet targetHz)
    setHz module nearestHz
    Program.update fun state => state.cacheHz module nearestHz
    Program.when (module = .cpu) handleLiveCpuUv
    Program.when (hijacks ∧ targetHz < oldHz) (dvfsAfterSet targetHz)

def setOrResetHz (module : Module) (isBoost : Bool) : SysProgram PUnit := do
  let state ← Program.read
  let targetHz := resolveTargetHz state.setting module false
  if targetHz ≠ 0 then setTargetHz module targetHz (state.getHz module)
  else handleFreqReset module isBoost

/-- One pass of the loop of `SetClocks`. -/
def setModuleClock (isBoost : Bool) (module : Module) : SysProgram PUnit := do
  let state ← Program.read
  let targetHz := resolveTargetHz state.setting module true
  match module with
  | .governor => handleGovernor targetHz
  | .display =>
      Program.when (!state.governors.isVRREnabled) do
        Program.when (state.setting.value .overwriteRefreshRate ≠ 0) do
          if targetHz ≠ 0 then setDisplayHz targetHz else handleFreqReset .display isBoost
  | .cpu => Program.when (!state.governors.isCpuGovernorEnabled) (setOrResetHz .cpu isBoost)
  | .gpu => Program.when (!state.governors.isGpuGovernorEnabled) (setOrResetHz .gpu isBoost)
  | .mem => setOrResetHz .mem isBoost

def setClocks (isBoost : Bool) : SysProgram PUnit := do
  let state ← Program.read
  if isBoost ∧ state.setting.value .overwriteBoostMode = 0 then
    Program.when (1785 < state.getHz .cpu / 1000000) (setHz .cpu (state.getHz .cpu))
  else
    Module.all.forM (setModuleClock isBoost)

/-- The sleep of `WaitForNextTick`, however long. -/
def waitForNextTick : SysProgram PUnit := Program.sleep

/-- The application and the profile as the services report them, and whether one changed. -/
def refreshTitle (state : Sys) : Bool × Sys :=
  let applicationId := state.setting.services.applicationId
  let profile := getProfile state.setting.services
  (applicationId ≠ state.setting.applicationId || profile ≠ state.setting.profile,
    { state with setting := { state.setting with applicationId, profile } })

def refreshModule (refreshed : Bool × Sys) (module : Module) : Bool × Sys :=
  let state := refreshed.2
  let hz := state.getHz module
  let changed := hz ≠ 0 && hz ≠ state.freqs module
  let overrideHz := state.setting.config.getOverrideHz module
  let overrideChanged := overrideHz ≠ state.setting.overrideFreqs module
  let cached := if changed then state.cacheHz module hz else state
  (refreshed.1 || changed || overrideChanged,
    { cached with setting := { cached.setting with
        overrideFreqs := Function.update cached.setting.overrideFreqs module overrideHz } })

/-- The readings that force no refresh. -/
def refreshReadings (state : Sys) : Sys :=
  { state with
    realFreqs := state.getRealHz
    gpuVoltage := state.setting.services.gpuMicrovolts }

/-- The restoration of the stock clocks on a change of application or profile. -/
def restoreStock : SysProgram PUnit := do
  resetToStock
  let state ← Program.read
  Program.when (usesHijack state.setting) do
    pcvHijackGpuVolts 0
    setHz .gpu unlimitedHz
    resetToStockGpu
  waitForNextTick

def refreshContext : SysProgram Bool := do
  let titleChanged ← Program.modifyGet refreshTitle
  Program.when (titleChanged = true) restoreStock
  let changed ← Program.modifyGet fun state =>
    Module.all.foldl refreshModule (titleChanged, state)
  Program.update refreshReadings
  pure changed

/-- `config::Refresh`. -/
def refreshConfig : SysProgram Bool :=
  Program.modifyGet fun state =>
    let refreshed := state.setting.config.refresh state.setting.services.configFile
    (refreshed.1, { state with setting := { state.setting with config := refreshed.2 } })

def tick : SysProgram PUnit := do
  let state ← Program.read
  let isBoost := apmExtIsBoostMode state.setting.services.apmConfiguration
  handleSafetyFeatures
  handleMiscFeatures
  let changed ← refreshContext
  let changed ← if changed then pure true else refreshConfig
  Program.when (changed = true) (setClocks isBoost)

end HorizonOc.Sysmodule
