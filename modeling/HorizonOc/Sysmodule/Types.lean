import Mathlib.Algebra.Group.Nat.Defs
import Mathlib.Algebra.Group.Int.Defs
import Mathlib.Tactic.TypeStar

namespace HorizonOc.Sysmodule

/-! The enumerations of `hocclk/board.h` and `hocclk/config.h`, in the order of
their values, and the conversions between the machine's integers. -/

def toU8 (value : Nat) : Nat := value % 2 ^ 8

def toU32 (value : Nat) : Nat := value % 2 ^ 32

def toS32 (value : Nat) : Int := (value : Int).bmod (2 ^ 32)

/-- `-(int)value`. -/
def negatedS32 (value : Nat) : Int := (-toS32 value).bmod (2 ^ 32)

theorem toS32_bounds (value : Nat) : -2 ^ 31 ≤ toS32 value ∧ toS32 value < 2 ^ 31 := by
  have lower := Int.le_bmod (x := (value : Int)) (m := 2 ^ 32) (by decide)
  have upper := Int.bmod_lt (x := (value : Int)) (m := 2 ^ 32) (by decide)
  exact ⟨lower, upper⟩

/-- The sum of a `u32` and an `s32`, which is a `u32`. -/
def addS32 (value : Nat) (offset : Int) : Nat := ((value + offset) % 2 ^ 32).toNat

theorem addS32_of_bounds {value : Nat} {offset : Int} (lower : 0 ≤ value + offset)
    (upper : value + offset < 2 ^ 32) : (addS32 value offset : Int) = value + offset := by
  rw [addS32, Int.emod_eq_of_lt lower upper, Int.toNat_of_nonneg lower]

inductive SocType where
  | erista | mariko
deriving DecidableEq, Repr

inductive ConsoleType where
  | icosa | copper | hoag | iowa | calcio | aula
deriving DecidableEq, Repr

inductive Profile where
  | handheld | handheldCharging | handheldChargingUSB | handheldChargingOfficial | docked
deriving DecidableEq, Repr

def Profile.toNat : Profile → Nat
  | .handheld => 0
  | .handheldCharging => 1
  | .handheldChargingUSB => 2
  | .handheldChargingOfficial => 3
  | .docked => 4

inductive Module where
  | cpu | gpu | mem | governor | display
deriving DecidableEq, Repr

def Module.toNat : Module → Nat
  | .cpu => 0
  | .gpu => 1
  | .mem => 2
  | .governor => 3
  | .display => 4

def Module.all : List Module := [.cpu, .gpu, .mem, .governor, .display]

theorem Module.mem_all (module : Module) : module ∈ Module.all := by
  cases module <;> decide

inductive ChargerType where
  | unconnected | enoughPower | lowPower | notSupported
deriving DecidableEq, Repr

inductive ComponentGovernor where
  | doNotOverride | disabled | enabled
deriving DecidableEq, Repr

def ComponentGovernor.toNat : ComponentGovernor → Nat
  | .doNotOverride => 0
  | .disabled => 1
  | .enabled => 2

def dvfsModeHijack : Nat := 1

/-- The bytes of a governor word. -/
def governorStateCpu (word : Nat) : Nat := word % 2 ^ 8

def governorStateGpu (word : Nat) : Nat := word / 2 ^ 8 % 2 ^ 8

def governorStateVrr (word : Nat) : Nat := word / 2 ^ 16 % 2 ^ 8

inductive ConfigValue where
  | pollingIntervalMs | tempLogIntervalMs | freqLogIntervalMs | powerLogIntervalMs
  | csvWriteIntervalMs | uncappedClocks | overwriteBoostMode | eristaMaxCpuClock
  | marikoMaxCpuClock | thermalThrottle | thermalThrottleThreshold | handheldTDP
  | handheldTDPLimit | liteTDPLimit | batteryChargeCurrent | overwriteRefreshRate
  | maxDisplayClockH | dvfsMode | dvfsOffset | liveCpuUv | enableExperimentalSettings
  | gpuScheduling | gpuSchedulingMethod | ramVoltDisplayMode | cpuGovernorMinimumFreq
  | displayVoltage | memoryFrequencyMeasurementMode | custRev | hpMode | commonEmcMemVolt
  | eristaEmcMaxClock | eristaEmcMaxClock1 | eristaEmcMaxClock2 | marikoEmcMaxClock
  | marikoEmcVddqVolt | emcDvbShift | t1_tRCD | t2_tRP | t3_tRAS | t4_tRRD | t5_tRFC | t6_tRTW
  | t7_tWTR | t8_tREFI | mem_burst_read_latency | mem_burst_write_latency | eristaCpuUV
  | eristaCpuVmin | eristaCpuMaxVolt | eristaCpuUnlock | marikoCpuUVLow | marikoCpuUVHigh
  | tableConf | marikoCpuLowVmin | marikoCpuHighVmin | marikoCpuMaxVolt | marikoCpuMaxClock
  | eristaCpuBoostClock | marikoCpuBoostClock | eristaGpuUV | eristaGpuVmin | marikoGpuUV
  | marikoGpuVmin | marikoGpuVmax | commonGpuVoltOffset | gpuSpeedo | g_volt_76800
  | g_volt_153600 | g_volt_230400 | g_volt_307200 | g_volt_384000 | g_volt_460800
  | g_volt_537600 | g_volt_614400 | g_volt_691200 | g_volt_768000 | g_volt_844800
  | g_volt_921600 | g_volt_998400 | g_volt_1075200 | g_volt_1152000 | g_volt_1228800
  | g_volt_1267200 | g_volt_1305600 | g_volt_1344000 | g_volt_1382400 | g_volt_1420800
  | g_volt_1459200 | g_volt_1497600 | g_volt_1536000 | g_volt_e_76800 | g_volt_e_115200
  | g_volt_e_153600 | g_volt_e_192000 | g_volt_e_230400 | g_volt_e_268800 | g_volt_e_307200
  | g_volt_e_345600 | g_volt_e_384000 | g_volt_e_422400 | g_volt_e_460800 | g_volt_e_499200
  | g_volt_e_537600 | g_volt_e_576000 | g_volt_e_614400 | g_volt_e_652800 | g_volt_e_691200
  | g_volt_e_729600 | g_volt_e_768000 | g_volt_e_806400 | g_volt_e_844800 | g_volt_e_883200
  | g_volt_e_921600 | g_volt_e_960000 | g_volt_e_998400 | g_volt_e_1036800 | g_volt_e_1075200
  | t6_tRTW_fine_tune | t7_tWTR_fine_tune | kipCrc32 | isFirstLoad
deriving DecidableEq, Repr

def hocclkDefaultConfigValue : ConfigValue → Nat
  | .pollingIntervalMs => 300
  | .eristaMaxCpuClock => 1785
  | .marikoMaxCpuClock => 1963
  | .thermalThrottle | .handheldTDP | .isFirstLoad | .dvfsMode => 1
  | .thermalThrottleThreshold => 70
  | .handheldTDPLimit => 9600
  | .liteTDPLimit => 6400
  | .cpuGovernorMinimumFreq => 612000000
  | .maxDisplayClockH => 60
  | .displayVoltage => 1200
  | _ => 0

def hocclkValidConfigValue (value : ConfigValue) (input : Nat) : Bool :=
  match value with
  | .eristaMaxCpuClock | .marikoMaxCpuClock | .thermalThrottleThreshold | .handheldTDPLimit
  | .liteTDPLimit | .pollingIntervalMs | .maxDisplayClockH => decide (0 < input)
  | .tempLogIntervalMs | .freqLogIntervalMs | .powerLogIntervalMs | .csvWriteIntervalMs
  | .uncappedClocks | .overwriteBoostMode | .thermalThrottle | .handheldTDP
  | .overwriteRefreshRate | .isFirstLoad | .enableExperimentalSettings | .liveCpuUv
  | .gpuSchedulingMethod => input &&& 1 == input
  | .batteryChargeCurrent => decide ((1024 ≤ input ∧ input ≤ 3072) ∨ input = 0)
  | .displayVoltage => decide (900 ≤ input ∧ input ≤ 1325)
  | _ => true

theorem hocclkDefaultConfigValue_valid (value : ConfigValue) :
    hocclkValidConfigValue value (hocclkDefaultConfigValue value) = true := by
  cases value <;> decide

theorem hocclkDefaultConfigValue_fits (value : ConfigValue) :
    hocclkDefaultConfigValue value < 2 ^ 64 := by
  cases value <;> decide

end HorizonOc.Sysmodule
