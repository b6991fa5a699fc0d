import HorizonOc.Sysmodule.State

namespace HorizonOc.Sysmodule

open HorizonOc.Data

structure ApmConfiguration where
  id : Nat
  cpuHz : Nat
  gpuHz : Nat
  memHz : Nat
deriving DecidableEq, Repr

/-- `hocclk_g_apm_configurations`. -/
def apmConfigurations : List ApmConfiguration :=
  [⟨0x00010000, 1020000000, 384000000, 1600000000⟩,
   ⟨0x00010001, 1020000000, 768000000, 1600000000⟩,
   ⟨0x00010002, 1224000000, 691200000, 1600000000⟩,
   ⟨0x00020000, 1020000000, 230400000, 1600000000⟩,
   ⟨0x00020001, 1020000000, 307200000, 1600000000⟩,
   ⟨0x00020002, 1224000000, 230400000, 1600000000⟩,
   ⟨0x00020003, 1020000000, 307200000, 1331200000⟩,
   ⟨0x00020004, 1020000000, 384000000, 1331200000⟩,
   ⟨0x00020005, 1020000000, 307200000, 1065600000⟩,
   ⟨0x00020006, 1020000000, 384000000, 1065600000⟩,
   ⟨0x92220007, 1020000000, 460800000, 1600000000⟩,
   ⟨0x92220008, 1020000000, 460800000, 1331200000⟩,
   ⟨0x92220009, 1785000000, 76800000, 1600000000⟩,
   ⟨0x9222000A, 1785000000, 76800000, 1331200000⟩,
   ⟨0x9222000B, 1020000000, 76800000, 1600000000⟩,
   ⟨0x9222000C, 1020000000, 76800000, 1331200000⟩]

def apmConfiguration (id : Nat) : Option ApmConfiguration :=
  apmConfigurations.find? fun configuration => configuration.id = id

def apmExtIsBoostMode (id : Nat) : Bool := 0x92220009 ≤ id && id ≤ 0x9222000C

def ApmConfiguration.hz (configuration : ApmConfiguration) : Module → Nat
  | .cpu => configuration.cpuHz
  | .gpu => configuration.gpuHz
  | .mem => configuration.memHz
  | .governor | .display => 0

/-- The stock rates of the current performance configuration. -/
def Setting.stock (setting : Setting) : Option ApmConfiguration :=
  apmConfiguration setting.services.apmConfiguration

def Sys.clkrstSetHz (state : Sys) (module : Module) (hz : Nat) : Sys :=
  { state with rate := Function.update state.rate module hz }

def displaySetRate (hz : Nat) : SysProgram PUnit := do
  emit (.setDisplayRate hz)
  Program.update fun state =>
    state.clkrstSetHz .display (state.setting.board.displayReadback hz (state.rate .display))

/-- `board::SetHz`.  The CPU's rate is set twice. -/
def setHz (module : Module) (hz : Nat) : SysProgram PUnit := do
  Program.update fun state => state.record (.setHz module hz state.ramVmin)
  match module with
  | .display => displaySetRate hz
  | .governor => pure ⟨⟩
  | .cpu => do
      Program.update fun state => state.clkrstSetHz .cpu hz
      Program.sleep
      Program.update fun state => state.clkrstSetHz .cpu hz
  | .gpu | .mem => Program.update fun state => state.clkrstSetHz module hz

/-- `board::GetHz`.  The PCV module of the governor is the CPU's. -/
def Sys.getHz (state : Sys) : Module → Nat
  | .governor => state.rate .cpu
  | module => state.rate module

def Sys.getRealHz (state : Sys) : Module → Nat
  | .governor => 0
  | .display => state.rate .display
  | module => state.setting.services.realHz module

/-- The rates once the current performance mode was asked for. -/
def Sys.modeRates (state : Sys) (module : Module) : Nat :=
  (state.setting.board.performanceModeRates state.setting.services.performanceMode module).getD
    (state.rate module)

def requestPerformanceMode : SysProgram PUnit := do
  let state ← Program.read
  emit (.requestPerformanceMode state.setting.services.performanceMode)
  Program.update fun state => { state with rate := state.modeRates }

def currentApmConfiguration : SysProgram ApmConfiguration := do
  let state ← Program.read
  Program.ofOption .unknownApmConfiguration state.setting.stock

def resetToStockModule (module : Module) : SysProgram PUnit := do
  let state ← Program.read
  if state.setting.board.hosAtLeast9 then
    let configuration ← currentApmConfiguration
    setHz module (configuration.hz module)
  else
    requestPerformanceMode

def resetToStockCpu : SysProgram PUnit := resetToStockModule .cpu

def resetToStockGpu : SysProgram PUnit := resetToStockModule .gpu

def resetToStockMem : SysProgram PUnit := resetToStockModule .mem

def resetToStockDisplay : SysProgram PUnit := displaySetRate 60

def resetToStock : SysProgram PUnit := do
  let state ← Program.read
  if state.setting.board.hosAtLeast9 then
    let configuration ← currentApmConfiguration
    setHz .cpu configuration.cpuHz
    setHz .gpu configuration.gpuHz
    setHz .mem configuration.memHz
  else
    requestPerformanceMode

/-- `board::GetProfile`. -/
def getProfile (services : Services) : Profile :=
  if services.performanceMode ≠ 0 then .docked
  else
    match services.chargerType with
    | .enoughPower => .handheldChargingOfficial
    | .lowPower => .handheldChargingUSB
    | .unconnected | .notSupported => .handheld

def calculateTbreak (socType : SocType) (table : Nat) : Nat :=
  match socType with
  | .erista => 1581000000
  | .mariko => if toU32 table = 3 then 1683000000 else 1581000000

def setDfllTunings (levelLow levelHigh tbreakPoint : Nat) : SysProgram PUnit :=
  emit (.setDfllTunings (toU32 levelLow) (toU32 levelHigh) tbreakPoint)

def ramTable : Fin 4 → List Nat
  | 0 => [2133, 2200, 2266, 2300, 2366, 2400, 2433, 2466, 2533, 2566, 2600, 2633, 2700, 2733,
      2766, 2833, 2866, 2900, 2933, 3033, 3066, 3100]
  | 1 => [2300, 2366, 2433, 2466, 2533, 2566, 2633, 2700, 2733, 2800, 2833, 2900, 2933, 2966,
      3033, 3066, 3100, 3133, 3166, 3200, 3233, 3266]
  | 2 => [2433, 2466, 2533, 2600, 2666, 2733, 2766, 2800, 2833, 2866, 2933, 2966, 3033, 3066,
      3100, 3133, 3166, 3200, 3233, 3300, 3333, 3366]
  | 3 => [2500, 2533, 2600, 2633, 2666, 2733, 2800, 2866, 2900, 2966, 3033, 3100, 3166, 3200,
      3233, 3266, 3300, 3333, 3366, 3400, 3400, 3400]

def gpuVoltArray : List Nat :=
  [590, 600, 610, 620, 630, 640, 650, 660, 670, 680, 690, 700, 710, 720, 730, 740, 750, 760,
   770, 780, 790, 800]

/-- The voltage of the first step of the table that covers the rate. -/
def gpuVoltFor (freqMhz : Nat) (steps : List (Nat × Nat)) : Nat :=
  match steps.find? fun step => freqMhz ≤ step.1 with
  | some step => step.2
  | none => 800

def getMinimumGpuVmin (freqMhz : Nat) (bracket : Fin 4) : Nat :=
  if freqMhz ≤ 1600 then 0 else gpuVoltFor freqMhz ((ramTable bracket).zip gpuVoltArray)

/-- The voltage table with every used entry raised to the minimum. -/
def raisedVoltTable (voltTable : List Nat) (vmin : Nat) : List Nat :=
  voltTable.map fun mv => if mv ≠ 0 ∧ mv ≤ vmin then vmin else mv

def Sys.hijackGpuVolts (state : Sys) (vmin : Nat) : Sys :=
  if state.ramVmin ≠ vmin ∧ state.setting.services.pcvWritable then
    { state with pcvVolts := raisedVoltTable state.voltTable vmin, ramVmin := vmin }
  else state

def pcvHijackGpuVolts (vmin : Nat) : SysProgram PUnit := do
  emit (.hijackGpuVolts vmin)
  Program.update fun state => state.hijackGpuVolts vmin

@[simp] theorem Sys.record_log (state : Sys) (effect : Effect) :
    (state.record effect).log = effect :: state.log := rfl

@[simp] theorem Sys.record_setting (state : Sys) (effect : Effect) :
    (state.record effect).setting = state.setting := rfl

@[simp] theorem run_emit (effect : Effect) (state : Sys) :
    (emit effect).run state = .ok (⟨⟩, state.record effect) := rfl

@[simp] theorem Sys.hijackGpuVolts_log (state : Sys) (vmin : Nat) :
    (state.hijackGpuVolts vmin).log = state.log := by
  unfold Sys.hijackGpuVolts
  split <;> rfl

@[simp] theorem Sys.hijackGpuVolts_rate (state : Sys) (vmin : Nat) :
    (state.hijackGpuVolts vmin).rate = state.rate := by
  unfold Sys.hijackGpuVolts
  split <;> rfl

/-- A write that goes through leaves the minimum that was asked for. -/
theorem Sys.hijackGpuVolts_ramVmin {state : Sys}
    (writable : state.setting.services.pcvWritable = true) (vmin : Nat) :
    (state.hijackGpuVolts vmin).ramVmin = vmin := by
  unfold Sys.hijackGpuVolts
  by_cases same : state.ramVmin = vmin
  · simp [same]
  · simp [same, writable]

theorem pcvHijackGpuVolts_run (state : Sys) (vmin : Nat) :
    (pcvHijackGpuVolts vmin).run state =
      .ok (⟨⟩, (state.record (.hijackGpuVolts vmin)).hijackGpuVolts vmin) := rfl

end HorizonOc.Sysmodule
