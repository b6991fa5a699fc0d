import HorizonOc.Loader.Pcv

namespace HorizonOc.Loader.Mariko

open HorizonOc.Data

/-! `pcv_mariko.cpp`. -/

def cpuClkOSLimit : Word := 1785000

def cpuVminOfficial : Word := 620

def gpuVminOfficial : Word := 610

def gpuClkPllMax : Word := 1300000000

def gpuClkPllLimit : Word := 2600000

def emcClkPllmLimit : Word := 2133000000

def emcVddqDefault : Word := 600000

def memVdd2Default : Word := 1100000

def mtcTableRev : Word := 3

def gpuDVFSPattern : List Word := [1050, 1000, 100, 1000, 10]

def gpuVoltDVFS (custom : CustomizeTable) (ptr : Int) : Patcher PUnit :=
  patchAfter (compareFields ptr (fieldsFrom 1 gpuDVFSPattern)) .invalidGpuDvfs ptr
    (patchesOf custom.marikoGpuVmax [1] ++ patchesOf custom.marikoGpuVmin [0])

def gpuVoltThermalPattern : List Word :=
  [800, 1120, 0, 610, 1120, 20000, 610, 1120, 30000, 610, 1120, 50000, 610, 1120, 70000, 610, 1120,
   90000]

def gpuVoltThermals (custom : CustomizeTable) (ptr : Int) : Patcher PUnit :=
  patchAfter (comparePattern ptr (-3) gpuVoltThermalPattern) .invalidGpuDvfs ptr
    (patchesOf custom.marikoGpuVmin [0, 3, 6, 9, 12])

def cpuVoltagePatchValues : List Word := [850, 38, 1120, 1000, 100, 1000, 0]

def cpuVoltagePatchOffsets : List Int := [-2, -1, 5, 6, 7, 8, 9]

def cpuVoltDVFS (custom : CustomizeTable) (ptr : Int) : Patcher PUnit :=
  patchAfter (compareFields ptr (cpuVoltagePatchOffsets.zip cpuVoltagePatchValues))
    .invalidCpuMinVolt ptr
    (patchesOf custom.marikoCpuLowVmin [0] ++ patchesOf custom.marikoCpuHighVmin [-2] ++
      patchesOf custom.marikoCpuMaxVolt [5])

def cpuVoltThermalData : List Word :=
  [620, 1120, 20000, 620, 1120, 70000, 950, 1132, 0, 950, 1227, 0]

/-- The words at -2 and -5 lie before the pattern. -/
def cpuVoltThermals (custom : CustomizeTable) (ptr : Int) : Patcher PUnit :=
  patchAfter (comparePattern ptr 0 cpuVoltThermalData) .invalidCpuMinVolt ptr
    (patchesOf custom.marikoCpuLowVmin [0, 3] ++
      patchesOf custom.marikoCpuMaxVolt [-2, -5, 1, 4])

/-- `tune0_low`, `tune0_high`, `tune1_low` and `tune1_high` of the stock entry. -/
def dfllStock : List Word := [0xFFCF, 0x0, 0x12207FF, 0x3FFF7FF]

def dfllLowPatches (uvLow : Word) : List (Int × Word) :=
  match uvLow.toNat with
  | 1 => [(0, 0xffa0), (1, 0xffff), (2, 0x21107ff), (3, 0)]
  | 2 => [(1, 0xffdf), (2, 0x21107ff), (3, 0x27207ff)]
  | 3 => [(0, 0xffdf), (1, 0xffdf), (2, 0x21107ff), (3, 0x27307ff)]
  | 4 => [(0, 0xffff), (1, 0xffdf), (2, 0x21107ff), (3, 0x27407ff)]
  | 5 => [(1, 0xffdf), (2, 0x21607ff), (3, 0x27707ff)]
  | 6 => [(1, 0xffdf), (2, 0x21607ff), (3, 0x27807ff)]
  | 7 => [(1, 0xdfff), (2, 0x21607ff), (3, 0x27b07ff)]
  | 8 => [(0, 0xdfff), (1, 0xdfff), (2, 0x21707ff), (3, 0x27b07ff)]
  | 9 => [(0, 0xdfff), (1, 0xdfff), (2, 0x21707ff), (3, 0x27c07ff)]
  | 10 => [(0, 0xdfff), (1, 0xdfff), (2, 0x21707ff), (3, 0x27d07ff)]
  | 11 => [(0, 0xdfff), (1, 0xdfff), (2, 0x21707ff), (3, 0x27e07ff)]
  | 12 => [(0, 0xdfff), (1, 0xdfff), (2, 0x21707ff), (3, 0x27f07ff)]
  | _ => []

def dfllHighPatches (uvHigh : Word) : List (Int × Word) :=
  match uvHigh.toNat with
  | 1 => [(3, 0), (1, 0xffff)]
  | 2 => [(1, 0xffdf), (3, 0x27207ff)]
  | 3 => [(1, 0xffdf), (3, 0x27307ff)]
  | 4 => [(1, 0xffdf), (3, 0x27407ff)]
  | 5 => [(1, 0xffdf), (3, 0x27707ff)]
  | 6 => [(1, 0xffdf), (3, 0x27807ff)]
  | 7 | 8 => [(1, 0xdfff), (3, 0x27b07ff)]
  | 9 => [(1, 0xdfff), (3, 0x27c07ff)]
  | 10 => [(1, 0xdfff), (3, 0x27d07ff)]
  | 11 => [(1, 0xdfff), (3, 0x27e07ff)]
  | 12 => [(1, 0xdfff), (3, 0x27f07ff)]
  | _ => []

def cpuVoltDfll (custom : CustomizeTable) (ptr : Int) : Patcher PUnit :=
  patchAfter (compareFields ptr (fieldsFrom 0 dfllStock)) .invalidCpuVoltDfllEntry ptr
    (dfllLowPatches custom.marikoCpuUVLow ++ dfllHighPatches custom.marikoCpuUVHigh)

def allowedCpuMaxFrequencies : List Word :=
  [1963500, 2091000, 2193000, 2295000, 2397000, 2499000, 2601000, 2703000]

/-- The last of the leading frequencies that the clock reaches. -/
def capCpuClock (custom : CustomizeTable) : Word :=
  (allowedCpuMaxFrequencies.takeWhile fun freq => freq ≤ custom.marikoCpuMaxClock).getLastD 1963500

/-- The fields of `dvfs_rail` that are checked: `id`, `min_mv`, `step_mv` and `max_mv`. -/
def cpuRailStock : List (Int × Word) := [(0, 1), (16, 250000), (17, 5000), (18, 1525000)]

def cpuFreqVdd (custom : CustomizeTable) (ptr : Int) : Patcher PUnit := do
  let matched ← compareFields (ptr - 6) cpuRailStock
  Tracked.require matched .invalidCpuFreqVddEntry
  if custom.marikoCpuUVHigh ≠ 0 then Tracked.write ptr (capCpuClock custom)
  else
    match getDvfsTableLastEntry custom.marikoCpuDvfsTable with
    | none => Tracked.fail .nullTable
    | some last => Tracked.write ptr last.freqLow

def gpuFreqPllLimit (ptr : Int) : Patcher PUnit := do
  let prevFreq ← Tracked.read (ptr - 1)
  Tracked.require (prevFreq = 128000 || prevFreq = 1300000 || prevFreq = 76800) .invalidGpuPllEntry
  Tracked.write ptr 3600000

def khzList : List Word := [1600000, 1331200, 204000]

def memFreqMtcTable (platform : Platform) (custom : CustomizeTable) (ptr : Int) :
    Patcher PUnit := do
  validateMtcTables marikoMtcWords mtcTableRev ptr khzList
  if custom.marikoEmcMaxClock ≤ emcClkOSLimit then pure ⟨⟩
  else
    let tableMax := ptr - rateKhzOffset
    let stock ← Tracked.readBlock tableMax marikoMtcWords
    autoAdjust platform.marikoAutoAdjust tableMax
    Tracked.writeBlock (tableMax - marikoMtcWords) marikoMtcWords stock
    Tracked.write ptr custom.marikoEmcMaxClock

/-- `sizeof(emc_dvb_dvfs_table_t)` in words. -/
def dvbEntryWords : Nat := 6

def emcDvbTableDefault : List Word :=
  [204000, 0, 637, 637, 637, 0, 408000, 0, 637, 637, 637, 0, 800000, 0, 637, 637, 637, 0,
   1065600, 0, 637, 637, 637, 0, 1331200, 0, 650, 637, 637, 0, 1600000, 0, 675, 650, 637, 0]

def minS32 (first second : Word) : Word := if second.slt first then second else first

/-- The voltages of a new entry, shifted up to their limits. -/
def dvbVolt (custom : CustomizeTable) (zero one two : Word) : List Word :=
  let voltAdd := 25 * custom.emcDvbShift
  [minS32 (zero + voltAdd) 1050, minS32 (one + voltAdd) 1025, minS32 (two + voltAdd) 1000]

/-- The rate and the voltages of the entry that is added; none where the stock entry is copied. -/
def dvbEntry (custom : CustomizeTable) : Option (Word × List Word) :=
  if custom.marikoEmcMaxClock < 1862400 then none
  else if custom.marikoEmcMaxClock < 2131200 then some (1862400, [700, 675, 650])
  else if custom.marikoEmcMaxClock < 2400000 then some (2131200, [725, 700, 675])
  else if custom.marikoEmcMaxClock < 2665600 then some (2400000, dvbVolt custom 750 725 700)
  else if custom.marikoEmcMaxClock < 2931200 then some (2665600, dvbVolt custom 775 750 725)
  else if custom.marikoEmcMaxClock < 3200000 then some (2931200, dvbVolt custom 800 775 750)
  else some (3200000, dvbVolt custom 800 800 775)

def addDvbEntry (custom : CustomizeTable) (ptr : Int) : Patcher PUnit :=
  match dvbEntry custom with
  | none => Tracked.copyBlock (ptr + dvbEntryWords) ptr dvbEntryWords
  | some (freq, volts) =>
      Tracked.writeBlock (ptr + dvbEntryWords) dvbEntryWords fun offset =>
        ([freq, 0] ++ volts).getD offset 0

def memFreqDvbTable (custom : CustomizeTable) (ptr : Int) : Patcher PUnit := do
  let validated ← comparePattern (ptr + dvbEntryWords) (-(emcDvbTableDefault.length : Int))
    emcDvbTableDefault
  Tracked.require validated .invalidDvbTable
  if custom.marikoEmcMaxClock ≤ emcClkOSLimit then pure ⟨⟩
  else
    addDvbEntry custom ptr
    Tracked.writeBlock (ptr + dvbEntryWords) 2 fun offset =>
      if offset = 0 then custom.marikoEmcMaxClock else 0

def memFreqMax (custom : CustomizeTable) (ptr : Int) : Patcher PUnit :=
  if custom.marikoEmcMaxClock ≤ emcClkOSLimit then pure ⟨⟩
  else Tracked.write ptr custom.marikoEmcMaxClock

/-- The regulator is set over I2C after the word was patched. -/
def emcVddqVolt (platform : Platform) (custom : CustomizeTable) (ptr : Int) : Patcher PUnit := do
  let matched ← validateRegulator (ptr - 11) 2 [(4, 3), (6, 5000), (8, 250000)]
  Tracked.require matched .invalidRegulatorEntry
  let emcUv := custom.marikoEmcVddqVolt
  if emcUv = 0 then pure ⟨⟩
  else
    Tracked.write ptr (if emcUv % 5000 ≠ 0 then (emcUv + 4999) / 5000 * 5000 else emcUv)
    let state ← Tracked.getRest
    Tracked.setRest { state with i2cCalls := state.i2cCalls + 1 }
    Tracked.require (platform.i2cSucceeds state.i2cCalls) .i2c

def cpuCvbDefaultMaxFreq : Word :=
  ((getDvfsTableLastEntry cpuCvbTableDefault).map CvbEntry.freqLow).getD 0

def gpuCvbDefaultMaxFreq : Word :=
  ((getDvfsTableLastEntry gpuCvbTableDefault).map CvbEntry.freqLow).getD 0

def voltagePatches (custom : CustomizeTable) : List PatcherEntry :=
  [⟨"CPU Volt DVFS", cpuVoltDVFS custom, 1, .value cpuVminOfficial⟩,
   ⟨"CPU Volt Thermals", cpuVoltThermals custom, 1, .value cpuVminOfficial⟩,
   ⟨"CPU Volt Dfll", cpuVoltDfll custom, 1, .value 0xFFCF⟩,
   ⟨"GPU Volt DVFS", gpuVoltDVFS custom, 1, .value gpuVminOfficial⟩,
   ⟨"GPU Volt Thermals", gpuVoltThermals custom, 1, .value gpuVminOfficial⟩]

def patches (platform : Platform) (custom : CustomizeTable) : List PatcherEntry :=
  [⟨"CPU Freq Vdd", cpuFreqVdd custom, 1, .value cpuClkOSLimit⟩,
   ⟨"CPU Freq Table", cpuFreqCvbTable .mariko custom, 1, .value cpuCvbDefaultMaxFreq⟩] ++
  voltagePatches custom ++
  [⟨"GPU Freq Table", gpuFreqCvbTable .mariko custom, 1, .value gpuCvbDefaultMaxFreq⟩,
   ⟨"GPU Freq Asm", gpuFreqMaxAsm .mariko custom, 2, .pattern gpuMaxClockPatternFn⟩,
   ⟨"GPU PLL Max", gpuFreqPllMax, 1, .value gpuClkPllMax⟩,
   ⟨"GPU PLL Limit", gpuFreqPllLimit, 4, .value gpuClkPllLimit⟩,
   ⟨"MEM Freq Mtc", memFreqMtcTable platform custom, 0, .value emcClkOSLimit⟩,
   ⟨"MEM Freq Dvb", memFreqDvbTable custom, 1, .value emcClkOSLimit⟩,
   ⟨"MEM Freq Max", memFreqMax custom, 0, .value emcClkOSLimit⟩,
   ⟨"MEM Freq PLLM", memFreqPllmLimit, 2, .value emcClkPllmLimit⟩,
   ⟨"MEM Vddq", emcVddqVolt platform custom, 2, .value emcVddqDefault⟩,
   ⟨"MEM Vdd2", memVoltHandler custom, 2, .value memVdd2Default⟩]

end HorizonOc.Loader.Mariko
