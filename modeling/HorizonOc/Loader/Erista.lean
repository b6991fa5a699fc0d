import Mathlib.Data.List.Sort
import HorizonOc.Loader.Pcv

namespace HorizonOc.Loader.Erista

open HorizonOc.Data

/-! `pcv_erista.cpp`. -/

def cpuVminOfficial : Word := 825

def gpuVminOfficial : Word := 810

def gpuClkPllMax : Word := 921600000

def emcClkPllmLimit : Word := 1866000000

def memVoltHOS : Word := 1125000

def mtcTableRev : Word := 7

def cpuVoltDvfsPattern : List Word := [1227, 1000, 100, 1000, 0]

/-- The word at -2 lies before the pattern. -/
def cpuVoltDvfs (custom : CustomizeTable) (ptr : Int) : Patcher PUnit :=
  patchAfter (comparePattern ptr 5 cpuVoltDvfsPattern) .invalidCpuMinVolt ptr
    (patchesOf custom.eristaCpuVmin [0] ++
      (if custom.eristaCpuUV ≠ 0 then [(-2, custom.eristaCpuVmin)] else []) ++
      patchesOf custom.eristaCpuMaxVolt [5])

def cpuVoltageThermalPattern : List Word :=
  [950, 1132, 0, 950, 1227, 0, 825, 1227, 15000, 825, 1170, 60000, 825, 1132, 80000]

def cpuVoltThermals (custom : CustomizeTable) (ptr : Int) : Patcher PUnit :=
  patchAfter (comparePattern ptr (-6) cpuVoltageThermalPattern) .invalidCpuMinVolt ptr
    (patchesOf custom.eristaCpuVmin [0, 3, 6] ++ patchesOf custom.eristaCpuMaxVolt [-2, 1, 4, 7])

/-- `tune0_low`, `tune0_high`, `tune1_low` and `tune1_high` of the stock entry. -/
def dfllStock : List Word := [0xFFEAD0FF, 0x0, 0x0, 0x0]

def dfllPatches (uv : Word) : List (Int × Word) :=
  match uv.toNat with
  | 1 => [(1, 0xffff), (3, 0x27007ff)]
  | 2 => [(1, 0xefff), (3, 0x27407ff)]
  | 3 => [(1, 0xdfff), (3, 0x27807ff)]
  | 4 => [(1, 0xdfdf), (3, 0x27a07ff)]
  | 5 => [(1, 0xcfdf), (3, 0x37007ff)]
  | _ => []

def cpuVoltDfll (custom : CustomizeTable) (ptr : Int) : Patcher PUnit :=
  patchAfter (compareFields ptr (fieldsFrom 0 dfllStock)) .invalidCpuVoltDfllEntry ptr
    (dfllPatches custom.eristaCpuUV)

def gpuVoltDvfsPattern : List Word := [810, 1150, 1000, 100, 1000, 10]

def gpuVoltDVFS (custom : CustomizeTable) (ptr : Int) : Patcher PUnit :=
  patchAfter (comparePattern ptr 0 gpuVoltDvfsPattern) .invalidGpuDvfs ptr
    (patchesOf custom.eristaGpuVmin [0])

def gpuVoltThermalPattern : List Word :=
  [950, 1132, 0, 810, 1132, 15000, 810, 1132, 30000, 810, 1132, 50000, 810, 1132, 70000, 810, 1132,
   105000]

def gpuVoltThermals (custom : CustomizeTable) (ptr : Int) : Patcher PUnit :=
  patchAfter (comparePattern ptr (-3) gpuVoltThermalPattern) .invalidGpuDvfs ptr
    (patchesOf custom.eristaGpuVmin [0, 3, 6, 9, 12])

def khzList : List Word :=
  [40800, 68000, 102000, 204000, 408000, 665600, 800000, 1065600, 1331200, 1600000]

/-- Where `table_list[index]` begins. -/
def mtcTable (ptr : Int) (index : Nat) : Int :=
  ptr - rateKhzOffset - eristaMtcWords * ((khzList.length - 1 : Nat) - index : Int)

def sortClocks (clocks : List Word) : List Word := clocks.insertionSort fun low high => low ≤ high

/-- `tableShifts`, and the clocks of which duplicates and stock ones are zeroed but the last. -/
def dropDuplicates : List Word → Nat × List Word
  | [] => (1, [])
  | [clock] => (1, [clock])
  | clock :: next :: rest =>
      let later := dropDuplicates (next :: rest)
      if clock ≠ next ∧ emcClkOSLimit < clock then (later.1 + 1, clock :: later.2)
      else (later.1, 0 :: later.2)

/-- The last tables get the clocks that are left, in their order. -/
def scaleTables (platform : Platform) (ptr : Int) : Nat → List Word → Patcher PUnit
  | 0, _ => pure ⟨⟩
  | _, [] => pure ⟨⟩
  | remaining + 1, clock :: rest =>
      if clock = 0 then scaleTables platform ptr (remaining + 1) rest
      else do
        let table := mtcTable ptr (khzList.length - (remaining + 1))
        Tracked.write (table + rateKhzOffset) clock
        autoAdjust platform.eristaAutoAdjust table
        scaleTables platform ptr remaining rest

def memFreqMtcTable (platform : Platform) (ptr : Int) : Patcher PUnit := do
  let state ← Tracked.getRest
  if getMaxOfArr state.maxEmcClocks ≤ emcClkOSLimit then pure ⟨⟩
  else
    let sorted := sortClocks state.maxEmcClocks
    Tracked.setRest { state with maxEmcClocks := sorted }
    validateMtcTables eristaMtcWords mtcTableRev ptr khzList.reverse
    let shifted := dropDuplicates sorted
    Tracked.setRest { state with maxEmcClocks := shifted.2 }
    Tracked.copyBlock (mtcTable ptr 0) (mtcTable ptr shifted.1)
      (eristaMtcWords * (khzList.length - shifted.1))
    (List.range shifted.1).forM fun index =>
      Tracked.copyBlock (mtcTable ptr (khzList.length - index - 1))
        (mtcTable ptr (khzList.length - shifted.1 - 1)) eristaMtcWords
    scaleTables platform ptr shifted.1 shifted.2

def memFreqMax (ptr : Int) : Patcher PUnit := do
  let state ← Tracked.getRest
  if getMaxOfArr state.maxEmcClocks ≤ emcClkOSLimit then pure ⟨⟩
  else Tracked.write ptr (getMaxOfArr state.maxEmcClocks)

def cpuCvbDefaultMaxFreq : Word :=
  ((getDvfsTableLastEntry cpuCvbTableDefault).map CvbEntry.freqLow).getD 0

def gpuCvbDefaultMaxFreq : Word :=
  ((getDvfsTableLastEntry gpuCvbTableDefault).map CvbEntry.freqLow).getD 0

def voltagePatches (custom : CustomizeTable) : List PatcherEntry :=
  [⟨"CPU Volt DVFS", cpuVoltDvfs custom, 1, .value cpuVminOfficial⟩,
   ⟨"CPU Volt Thermals", cpuVoltThermals custom, 1, .value cpuVminOfficial⟩,
   ⟨"CPU Volt Dfll", cpuVoltDfll custom, 1, .value 0xFFEAD0FF⟩,
   ⟨"GPU Volt DVFS", gpuVoltDVFS custom, 1, .value gpuVminOfficial⟩,
   ⟨"GPU Volt Thermals", gpuVoltThermals custom, 1, .value gpuVminOfficial⟩]

def patches (platform : Platform) (custom : CustomizeTable) : List PatcherEntry :=
  [⟨"CPU Freq Table", cpuFreqCvbTable .erista custom, 1, .value cpuCvbDefaultMaxFreq⟩] ++
  voltagePatches custom ++
  [⟨"GPU Freq Table", gpuFreqCvbTable .erista custom, 1, .value gpuCvbDefaultMaxFreq⟩,
   ⟨"GPU Freq Asm", gpuFreqMaxAsm .erista custom, 2, .pattern gpuMaxClockPatternFn⟩,
   ⟨"GPU PLL Max", gpuFreqPllMax, 1, .value gpuClkPllMax⟩,
   ⟨"MEM Freq Mtc", memFreqMtcTable platform, 0, .value emcClkOSLimit⟩,
   ⟨"MEM Freq Max", memFreqMax, 0, .value emcClkOSLimit⟩,
   ⟨"MEM Freq PLLM", memFreqPllmLimit, 2, .value emcClkPllmLimit⟩,
   ⟨"MEM Volt", memVoltHandler custom, 2, .value memVoltHOS⟩]

end HorizonOc.Loader.Erista
