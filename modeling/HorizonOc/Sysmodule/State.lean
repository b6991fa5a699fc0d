import HorizonOc.Data.Program
import HorizonOc.Sysmodule.Config

namespace HorizonOc.Sysmodule

open HorizonOc.Data

/-- What the console is, and two things the system does on request: the refresh rate
that reads back after one was asked for, and the rates that a performance mode sets. -/
structure Board where
  socType : SocType
  consoleType : ConsoleType
  hosAtLeast9 : Bool
  gpuSpeedoBracket : Fin 4
  displayReadback : Nat → Nat → Nat
  performanceModeRates : Nat → Module → Option Nat

/-- What the services and sensors answer.  Calls that the program asserts succeed. -/
structure Services where
  apmConfiguration : Nat
  performanceMode : Nat
  chargerType : ChargerType
  applicationId : Nat
  powerAvgMw : Int
  tempSocMilli : Int
  cpuMaxLoad : Nat
  gpuLoad : Nat
  saltyNXFPS : Nat
  applicationOutOfFocus : Option Bool
  realHz : Module → Nat
  gpuMicrovolts : Nat
  buckGpuMv : Nat
  pcvWritable : Bool
  configFile : ConfigFile

/-- What setting the clocks reads and never writes. -/
structure Setting where
  board : Board
  services : Services
  config : Config
  gFreqTable : Module → List Nat
  applicationId : Nat
  profile : Profile
  overrideFreqs : Module → Nat
  isSaltyNXInstalled : Bool
  running : Bool

/-- The flags of the governors. -/
structure Governors where
  isCpuGovernorEnabled : Bool
  isGpuGovernorEnabled : Bool
  isVRREnabled : Bool
  lastCpuGovernorState : Bool
  lastGpuGovernorState : Bool
  lastVrrGovernorState : Bool
  isCpuGovernorInBoostMode : Bool
deriving DecidableEq, Repr

/-- The local variables of `CpuGovernorThread` and `GovernorThread`; the second uses the first two. -/
structure GovernorLocals where
  downHoldRemaining : Nat
  lastHz : Nat
  minHz : Nat
  tick : Nat
deriving DecidableEq, Repr

structure VrrLocals where
  tick : Nat
  tick2 : Nat
deriving DecidableEq, Repr

/-- What leaves the process, with the minimum GPU voltage in force when a clock is set. -/
inductive Effect where
  | setHz (module : Module) (hz ramVmin : Nat)
  | setDisplayRate (hz : Nat)
  | requestPerformanceMode (mode : Nat)
  | hijackGpuVolts (vmin : Nat)
  | setBuckGpuMv (mv : Nat)
  | setDfllTunings (levelLow levelHigh tbreakPoint : Nat)
  | setFastChargeCurrentLimit (ma : Nat)
  | setDisplayMv (mv : Nat)
deriving DecidableEq, Repr

structure Sys where
  setting : Setting
  rate : Module → Nat
  freqs : Module → Nat
  realFreqs : Module → Nat
  gpuVoltage : Nat
  voltTable : List Nat
  ramVmin : Nat
  pcvVolts : List Nat
  governors : Governors
  cpuLocals : GovernorLocals
  gpuLocals : GovernorLocals
  vrrLocals : VrrLocals
  miscTick : Nat
  log : List Effect

/-- What ends the process: an apm configuration that the table does not have, and a
frequency table read past its end. -/
inductive Fault where
  | unknownApmConfiguration
  | frequencyTableOverrun
deriving DecidableEq, Repr

def Setting.value (setting : Setting) (value : ConfigValue) : Nat :=
  setting.config.getConfigValue value

/-- The rates handed to `SetHz` for a module, the newest first, each with the minimum voltage. -/
def writesOf (module : Module) (log : List Effect) : List (Nat × Nat) :=
  log.filterMap fun
    | .setHz target hz ramVmin => if target = module then some (hz, ramVmin) else none
    | _ => none

def lastHz (module : Module) (log : List Effect) : Option Nat :=
  (writesOf module log).head?.map Prod.fst

/-- The GPU voltages asked for, the newest first. -/
def voltagesOf (log : List Effect) : List Nat :=
  log.filterMap fun
    | .hijackGpuVolts mv | .setBuckGpuMv mv => some mv
    | _ => none

namespace Sys

def record (state : Sys) (effect : Effect) : Sys := { state with log := effect :: state.log }

/-- The state at the beginning of an observation. -/
def forget (state : Sys) : Sys := { state with log := [] }

def cacheHz (state : Sys) (module : Module) (hz : Nat) : Sys :=
  { state with freqs := Function.update state.freqs module hz }

/-- What the process starts from: nothing cached, the governors off. -/
def initial (setting : Setting) (rate : Module → Nat) (voltTable : List Nat) : Sys :=
  { setting
    rate
    freqs := fun _ => 0
    realFreqs := fun _ => 0
    gpuVoltage := 0
    voltTable
    ramVmin := 0
    pcvVolts := voltTable
    governors :=
      { isCpuGovernorEnabled := false, isGpuGovernorEnabled := false, isVRREnabled := false
        lastCpuGovernorState := false, lastGpuGovernorState := false
        lastVrrGovernorState := false, isCpuGovernorInBoostMode := false }
    cpuLocals := { downHoldRemaining := 0, lastHz := 0, minHz := 612, tick := 0 }
    gpuLocals := { downHoldRemaining := 0, lastHz := 0, minHz := 0, tick := 0 }
    vrrLocals := { tick := 0, tick2 := 0 }
    miscTick := 0
    log := [] }

end Sys

/-- A Mariko console in handheld mode. -/
def sampleBoard : Board :=
  { socType := .mariko
    consoleType := .iowa
    hosAtLeast9 := true
    gpuSpeedoBracket := 0
    displayReadback := fun asked _ => asked
    performanceModeRates := fun _ _ => none }

def sampleServices : Services :=
  { apmConfiguration := 0x00020000
    performanceMode := 0
    chargerType := .unconnected
    applicationId := 1
    powerAvgMw := 0
    tempSocMilli := 40000
    cpuMaxLoad := 500
    gpuLoad := 500
    saltyNXFPS := 60
    applicationOutOfFocus := some false
    realHz := fun _ => 0
    gpuMicrovolts := 600000
    buckGpuMv := 600
    pcvWritable := true
    configFile := ⟨1, []⟩ }

def sampleTables : Module → List Nat
  | .cpu => [612000000, 1020000000, 1224000000, 1785000000]
  | .gpu => [76800000, 230400000, 307200000, 460800000, 614400000, 768000000]
  | .mem => [1331200000, 1600000000, 1866000000, 2140000000]
  | .governor | .display => []

def sampleSetting : Setting :=
  { board := sampleBoard
    services := sampleServices
    config := { Config.initial with loaded := true, mtime := 1 }
    gFreqTable := sampleTables
    applicationId := 1
    profile := .handheld
    overrideFreqs := fun _ => 0
    isSaltyNXInstalled := true
    running := true }

/-- The stock rates of handheld mode, and a display at 60 Hz. -/
def sampleRates : Module → Nat
  | .cpu => 1020000000
  | .gpu => 230400000
  | .mem => 1600000000
  | .governor => 0
  | .display => 60

def Setting.withValue (setting : Setting) (key : ConfigValue) (value : Nat) : Setting :=
  { setting with config :=
      { setting.config with values := Function.update setting.config.values key value } }

def Setting.withOverride (setting : Setting) (module : Module) (hz : Nat) : Setting :=
  { setting with
    config := { setting.config with
      overrideFreqs := Function.update setting.config.overrideFreqs module hz }
    overrideFreqs := Function.update setting.overrideFreqs module hz }

abbrev SysProgram := Program Sys Fault

/-- What changes only the outside and the log. -/
def emit (effect : Effect) : SysProgram PUnit := Program.update fun state => state.record effect

end HorizonOc.Sysmodule
