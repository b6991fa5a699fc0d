import HorizonOc.Sysmodule.Clocks

namespace HorizonOc.Sysmodule

open HorizonOc.Data

/-! `governor.cpp`: the switch that the tick operates and one pass of each thread.  A pass
tests the flags before the mutex is taken (`enter`) and does its work under it (`poll`). -/

def resolveComponent (app temp : Nat) : Nat :=
  if temp = ComponentGovernor.disabled.toNat then ComponentGovernor.disabled.toNat
  else if temp ≠ ComponentGovernor.doNotOverride.toNat then temp
  else app

def governorEnabled (component : Nat → Nat) (targetHz tempTargetHz : Nat) : Bool :=
  resolveComponent (component targetHz) (component tempTargetHz) = ComponentGovernor.enabled.toNat

def handleGovernor (targetHz : Nat) : SysProgram PUnit := do
  let state ← Program.read
  let tempTargetHz := resolveTargetHz state.setting .governor true
  let newCpu := governorEnabled governorStateCpu targetHz tempTargetHz
  let newGpu := governorEnabled governorStateGpu targetHz tempTargetHz
  let newVrr := governorEnabled governorStateVrr targetHz tempTargetHz
  let last := state.governors
  Program.update fun state =>
    { state with governors := { state.governors with
        isCpuGovernorEnabled := newCpu, isGpuGovernorEnabled := newGpu, isVRREnabled := newVrr } }
  Program.when (!newCpu && last.lastCpuGovernorState) do
    Program.sleep
    resetToStockCpu
  Program.when (!newGpu && last.lastGpuGovernorState) do
    Program.sleep
    resetToStockGpu
  Program.when (!newVrr && last.lastVrrGovernorState) do
    Program.sleep
    resetToStockDisplay
  Program.update fun state =>
    { state with governors := { state.governors with
        lastCpuGovernorState := newCpu, lastGpuGovernorState := newGpu,
        lastVrrGovernorState := newVrr } }

def stepUtil : Nat := 900

def downHoldTicks : Nat := 10

def schedutilTargetHz (util tableMaxHz : Nat) : Nat := min (tableMaxHz * util / stepUtil) tableMaxHz

/-- The entry at `TableIndexForHz`. -/
def tableHzForHz (table : List Nat) (targetHz : Nat) : Nat :=
  (table.find? fun hz => targetHz ≤ hz).getD (table.getLastD 0)

/-- The rate that the load asks for, under the target and the cap. -/
def governedHz (setting : Setting) (module : Module) (load : Nat) : Nat :=
  let table := setting.gFreqTable module
  let desiredHz := schedutilTargetHz load (table.getLastD 0)
  let targetHz := resolveTargetHz setting module false
  let maxHz := getMaxAllowedHz setting module setting.profile
  let desiredHz := if targetHz ≠ 0 ∧ targetHz < desiredHz then targetHz else desiredHz
  let desiredHz := if maxHz ≠ 0 ∧ maxHz < desiredHz then maxHz else desiredHz
  tableHzForHz table desiredHz

def GovernorLocals.goingDown (locals : GovernorLocals) (newHz : Nat) : Bool :=
  locals.lastHz ≠ 0 && newHz < locals.lastHz

/-- `downHoldRemaining` after one poll. -/
def GovernorLocals.hold (locals : GovernorLocals) (newHz : Nat) : Nat :=
  (if !locals.goingDown newHz then 0
   else if locals.downHoldRemaining = 0 then downHoldTicks
   else locals.downHoldRemaining) - 1

def GovernorLocals.rest (locals : GovernorLocals) : GovernorLocals :=
  { locals with downHoldRemaining := 0, lastHz := 0 }

/-- Whether a poll sets the rate it found. -/
def GovernorLocals.sets (locals : GovernorLocals) (module : Module) (foundHz newHz : Nat) : Bool :=
  (!locals.goingDown foundHz || locals.hold foundHz = 0) && isAssignableHz module newHz

def enterCpuGovernor (state : Sys) : Sys × Bool :=
  if !state.setting.running || !state.governors.isCpuGovernorEnabled then
    ({ state with cpuLocals := state.cpuLocals.rest }, false)
  else if apmExtIsBoostMode state.setting.services.apmConfiguration then
    ({ state with
        governors := { state.governors with isCpuGovernorInBoostMode := true }
        cpuLocals := state.cpuLocals.rest }, false)
  else
    ({ state with governors := { state.governors with isCpuGovernorInBoostMode := false } },
      !(state.setting.gFreqTable .cpu).isEmpty)

/-- The minimum is read again on every 51st poll. -/
def GovernorLocals.refreshMinimum (locals : GovernorLocals) (setting : Setting) : GovernorLocals :=
  if 50 < toU32 (locals.tick + 1) then
    { locals with minHz := toU32 (setting.value .cpuGovernorMinimumFreq), tick := 0 }
  else { locals with tick := toU32 (locals.tick + 1) }

def pollCpuGovernor : SysProgram PUnit := do
  let state ← Program.read
  let locals := state.cpuLocals
  let foundHz := governedHz state.setting .cpu state.setting.services.cpuMaxLoad
  let polled := locals.refreshMinimum state.setting
  let newHz := if foundHz < polled.minHz then polled.minHz else foundHz
  Program.update fun state =>
    { state with cpuLocals := { polled with downHoldRemaining := locals.hold foundHz } }
  Program.when (locals.sets .cpu foundHz newHz) do
    setHz .cpu newHz
    Program.update fun state =>
      { state.cacheHz .cpu newHz with cpuLocals := { state.cpuLocals with lastHz := newHz } }
  Program.sleep

def enterGpuGovernor (state : Sys) : Sys × Bool :=
  if !state.setting.running || !state.governors.isGpuGovernorEnabled then
    ({ state with gpuLocals := state.gpuLocals.rest }, false)
  else (state, !(state.setting.gFreqTable .gpu).isEmpty)

/-- The pass of `GovernorThread` under the mutex. -/
def pollGpuGovernor : SysProgram PUnit := do
  let state ← Program.read
  let locals := state.gpuLocals
  let newHz := governedHz state.setting .gpu state.setting.services.gpuLoad
  Program.update fun state =>
    { state with gpuLocals := { locals with downHoldRemaining := locals.hold newHz } }
  Program.when (locals.sets .gpu newHz newHz) do
    setHz .gpu newHz
    Program.update fun state =>
      { state.cacheHz .gpu newHz with gpuLocals := { state.gpuLocals with lastHz := newHz } }
  Program.sleep

def enterVrr (state : Sys) : Sys × Bool :=
  (state, state.setting.running && state.setting.profile ≠ .docked && state.governors.isVRREnabled)

/-- Sets the display's rate as the clock manager and the VRR thread do, with both caches. -/
def setDisplayHz (hz : Nat) : SysProgram PUnit := do
  setHz .display hz
  Program.update fun state =>
    { state.cacheHz .display hz with
      realFreqs := Function.update state.realFreqs .display hz }

/-- The rate that suits a frame rate: itself, or its first multiple in range. -/
def vrrHz (fps minDisplay maxDisplay : Nat) : Option Nat :=
  if minDisplay ≤ fps ∧ fps ≤ maxDisplay then some fps
  else ((List.range 10).map (fps * ·)).find? fun hz => minDisplay ≤ hz && hz ≤ maxDisplay

/-- On every 51st pass the display goes to its maximum. -/
def raiseDisplay (maxDisplay : Nat) : SysProgram PUnit := do
  let state ← Program.read
  if 50 < toU8 (state.vrrLocals.tick + 1) then
    setHz .display maxDisplay
    Program.update fun state => { state with vrrLocals := { state.vrrLocals with tick := 0 } }
    Program.sleep
  else
    Program.update fun state =>
      { state with vrrLocals := { state.vrrLocals with tick := toU8 (state.vrrLocals.tick + 1) } }

def matchFrameRate (fps minDisplay maxDisplay : Nat) : SysProgram PUnit := do
  (vrrHz fps minDisplay maxDisplay).forM setDisplayHz
  raiseDisplay maxDisplay
  Program.sleep

/-- The rest of a pass of `VRRThread` for an application in focus. -/
def followFrameRate : SysProgram PUnit := do
  let state ← Program.read
  let fps := toU8 state.setting.services.saltyNXFPS
  let targetHz := resolveTargetHz state.setting .display false
  let maxDisplay := if targetHz ≠ 0 then toU8 targetHz else 60
  let minDisplay := if state.setting.board.consoleType = .aula then 45 else 40
  if !state.setting.isSaltyNXInstalled || fps = 254 then Program.sleep
  else Program.when (maxDisplay ≠ minDisplay) (matchFrameRate fps minDisplay maxDisplay)

def pollVrr : SysProgram PUnit := do
  Program.update fun state =>
    { state with vrrLocals := { state.vrrLocals with tick2 := toU8 (state.vrrLocals.tick2 + 1) } }
  let state ← Program.read
  if 100 < state.vrrLocals.tick2 then
    match state.setting.services.applicationOutOfFocus with
    | none => Program.sleep
    | some true => do
        resetToStockDisplay
        Program.sleep
    | some false => followFrameRate
  else followFrameRate

end HorizonOc.Sysmodule
