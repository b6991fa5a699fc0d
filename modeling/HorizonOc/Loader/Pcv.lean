import HorizonOc.Loader.Patcher

namespace HorizonOc.Loader

open HorizonOc.Data

/-! `pcv.hpp` and `pcv.cpp`: the patchers that both SoCs share. -/

inductive Soc where
  | mariko | erista
deriving DecidableEq, Repr

def Soc.cpuDefaultTable : Soc → DvfsTable
  | .mariko => Mariko.cpuCvbTableDefault
  | .erista => Erista.cpuCvbTableDefault

def Soc.gpuDefaultTable : Soc → DvfsTable
  | .mariko => Mariko.gpuCvbTableDefault
  | .erista => Erista.gpuCvbTableDefault

def Soc.cpuCustomizeTable (soc : Soc) (custom : CustomizeTable) : DvfsTable :=
  match soc with
  | .mariko =>
      if custom.tableConf = tbreak1683 then custom.marikoCpuDvfsTable1683Tbreak
      else if custom.tableConf = tbreak1581 then custom.marikoCpuDvfsTable1581Tbreak
      else if custom.tableConf = extremeTable then custom.marikoCpuDvfsTableExtreme
      else soc.cpuDefaultTable
  | .erista =>
      if custom.eristaCpuUV ≠ 0 then
        if custom.eristaCpuUnlock ≠ 0 then custom.eristaCpuDvfsTableSLT
        else custom.eristaCpuDvfsTable
      else soc.cpuDefaultTable

def Soc.cpuMaxVolt (soc : Soc) (custom : CustomizeTable) : Word :=
  match soc with
  | .mariko => custom.marikoCpuMaxVolt
  | .erista => custom.eristaCpuMaxVolt

def Soc.gpuUV (soc : Soc) (custom : CustomizeTable) : Word :=
  match soc with
  | .mariko => custom.marikoGpuUV
  | .erista => custom.eristaGpuUV

def Soc.gpuCustomizeTable (soc : Soc) (custom : CustomizeTable) : DvfsTable :=
  match soc with
  | .mariko =>
      if custom.marikoGpuUV = 1 then custom.marikoGpuDvfsTableSLT
      else if custom.marikoGpuUV = 2 then custom.marikoGpuDvfsTableHiOPT
      else custom.marikoGpuDvfsTable
  | .erista =>
      if custom.eristaGpuUV = 1 then custom.eristaGpuDvfsTableSLT
      else if custom.eristaGpuUV = 2 then custom.eristaGpuDvfsTableHiOPT
      else custom.eristaGpuDvfsTable

/-- The voltage array of the SoC, read without a bound. -/
def Soc.gpuVolt (soc : Soc) (custom : CustomizeTable) (index : Nat) : Word :=
  match soc with
  | .mariko => custom.voltWord (27 + index)
  | .erista => custom.voltWord index

/-- Where the table of the image begins whose last entry is at `ptr`. -/
def tableHead (defaultTable : DvfsTable) (ptr : Int) : Int :=
  ptr + cvbEntryWords - cvbEntryWords * getDvfsTableEntryCount defaultTable

/-- Checks the stock table and copies the customized one over it. -/
def installTable (defaultTable customizeTable : DvfsTable) (error : LdrResult) (ptr : Int) :
    Patcher PUnit := do
  let validated ← Tracked.compareBlock (tableHead defaultTable ptr)
    (cvbEntryWords * getDvfsTableEntryCount defaultTable) defaultTable.word
  Tracked.require validated error
  Tracked.writeBlock (tableHead defaultTable ptr)
    (cvbEntryWords * getDvfsTableEntryCount customizeTable) customizeTable.word

def cpuFreqThreshold : Nat := 2091000

def capCpuVolt (soc : Soc) (maxVolt : Word) (entry : Int) : Patcher PUnit := do
  let freqLow ← Tracked.read entry
  let freqHigh ← Tracked.read (entry + 1)
  if cpuFreqThreshold ≤ freqLow.toNat + 2 ^ 32 * freqHigh.toNat ∧ soc = .mariko then
    Tracked.write (entry + cvbPllParamOffset) (maxVolt * 1000)
  else pure ⟨⟩

def cpuFreqCvbTable (soc : Soc) (custom : CustomizeTable) (ptr : Int) : Patcher PUnit := do
  let head := tableHead soc.cpuDefaultTable ptr
  let customizeTable := soc.cpuCustomizeTable custom
  installTable soc.cpuDefaultTable customizeTable .invalidCpuDvfs ptr
  if soc.cpuMaxVolt custom ≠ 0 then
    (List.range (getDvfsTableEntryCount customizeTable)).forM fun index =>
      capCpuVolt soc (soc.cpuMaxVolt custom) (head + cvbEntryWords * index)
  else pure ⟨⟩

def clearCvbPllEntry (entry : Int) : Patcher PUnit :=
  Tracked.writeBlock (entry + cvbPllParamOffset + 1) 5 fun _ => 0

/-- `c0 - commonGpuVoltOffset * 1000`. -/
def subtractGpuVoltOffset (custom : CustomizeTable) (entry : Int) : Patcher PUnit := do
  let c0 ← Tracked.read (entry + cvbPllParamOffset)
  Tracked.write (entry + cvbPllParamOffset) (c0 - custom.commonGpuVoltOffset * 1000)

def patchGpuVolt (soc : Soc) (custom : CustomizeTable) (head : Int) (index : Nat) :
    Patcher PUnit := do
  let entry := head + cvbEntryWords * index
  if soc.gpuVolt custom index ≠ 0 then
    Tracked.write (entry + cvbPllParamOffset) (soc.gpuVolt custom index * 1000)
    clearCvbPllEntry entry
  else subtractGpuVoltOffset custom entry

def gpuFreqCvbTable (soc : Soc) (custom : CustomizeTable) (ptr : Int) : Patcher PUnit := do
  let head := tableHead soc.gpuDefaultTable ptr
  let customizeTable := soc.gpuCustomizeTable custom
  installTable soc.gpuDefaultTable customizeTable .invalidGpuDvfs ptr
  (List.range (getDvfsTableEntryCount customizeTable)).forM (patchGpuVolt soc custom head)
  if custom.commonGpuVoltOffset ≠ 0 ∧ soc.gpuUV custom = 0 then
    (List.range (getDvfsTableEntryCount customizeTable)).forM fun index =>
      subtractGpuVoltOffset custom (head + cvbEntryWords * index)
  else pure ⟨⟩

/-- `MOVZ` and `MOVK` with the GPU's stock maximum. -/
def gpuAsmPattern : Word × Word := (0x52820000, 0x72A001C0)

def gpuClkOsLimit : Word := 921600

def asmCompareNoRd (first second : Word) : Bool := (first ^^^ second) >>> 5 = 0

def asmGetRd (instruction : Word) : Word := instruction &&& 0x1F

def asmSetRd (instruction rd : Word) : Word := (instruction &&& 0xFFFFFFE0) ||| (rd &&& 0x1F)

def asmSetImm16 (instruction imm : Word) : Word :=
  (instruction &&& 0xFFE0001F) ||| ((imm &&& 0xFFFF) <<< 5)

def asmGetImm16 (instruction : Word) : Word := (instruction >>> 5) &&& 0xFFFF

def gpuMaxClockPatternFn (word : Word) : Bool := asmCompareNoRd word gpuAsmPattern.1

/-- Two instructions that load the stock limit into one register. -/
def loadsGpuLimit (first second : Word) : Bool :=
  asmCompareNoRd first gpuAsmPattern.1 && asmCompareNoRd second gpuAsmPattern.2 &&
    asmGetRd first = asmGetRd second && asmGetImm16 first = gpuClkOsLimit &&& 0xFFFF &&
    asmGetImm16 second = gpuClkOsLimit >>> 16

def gpuFreqMaxAsm (soc : Soc) (custom : CustomizeTable) (ptr : Int) : Patcher PUnit := do
  let first ← Tracked.read ptr
  let second ← Tracked.read (ptr + 1)
  Tracked.require (loadsGpuLimit first second) .invalidGpuFreqMaxPattern
  match getDvfsTableLastEntry (soc.gpuCustomizeTable custom) with
  | none => Tracked.fail .nullTable
  | some last => do
      Tracked.write ptr (asmSetRd (asmSetImm16 gpuAsmPattern.1 last.freqLow) (asmGetRd first))
      Tracked.write (ptr + 1)
        (asmSetRd (asmSetImm16 gpuAsmPattern.2 (last.freqLow >>> 16)) (asmGetRd first))

/-- `sizeof(clk_pll_param)` in words, and the offset of `vco_max`. -/
def clkPllParamWords : Nat := 18

def vcoMaxOffset : Int := 6

def gpuFreqPllMax (ptr : Int) : Patcher PUnit := do
  let zeros ← compareFields ptr (fieldsFrom 1 (List.replicate (clkPllParamWords - 1) 0))
  Tracked.require zeros .invalidGpuPllEntry
  let freq ← Tracked.read ptr
  Tracked.write ptr (freq * 2)

def memFreqPllmLimit (ptr : Int) : Patcher PUnit := do
  let freq ← Tracked.read ptr
  let vcoMax ← Tracked.read (ptr + vcoMaxOffset)
  Tracked.require (freq = vcoMax) .invalidMemPllmEntry
  Tracked.write ptr (freq * 2)
  Tracked.write (ptr + vcoMaxOffset) (freq * 2)

/-- Checks the 64-bit id of a regulator and then some of its other words. -/
def validateRegulator (entry : Int) (id : Word) (fields : List (Int × Word)) : Patcher Bool := do
  let same ← Tracked.compareBlock entry 2 fun offset => if offset = 0 then id else 0
  if same then compareFields entry fields else pure false

/-- The pointer may lead to `default_uv` or to `max_uv`: both are tried. -/
def memVoltHandler (custom : CustomizeTable) (ptr : Int) : Patcher PUnit := do
  let fields := [(4, 1), (5, 0x17), (6, 12500), (7, 600000)]
  let isDefault ← validateRegulator (ptr - 8) 1 fields
  let isMax ← validateRegulator (ptr - 9) 1 fields
  Tracked.require (isDefault || isMax) .invalidRegulatorEntry
  let emcUv := custom.commonEmcMemVolt
  if emcUv = 0 then pure ⟨⟩
  else Tracked.write ptr (if emcUv % 12500 ≠ 0 then emcUv / 12500 * 12500 else emcUv)

def emcClkOSLimit : Word := 1600000

/-- The tables that end at `ptr`, backwards, have these rates and the revision. -/
def validateMtcTables (mtcWords : Nat) (rev : Word) : Int → List Word → Patcher PUnit
  | _, [] => pure ⟨⟩
  | ptr, khz :: rest => do
      let rate ← Tracked.compare ptr khz
      Tracked.require rate .invalidMtcTable
      let revision ← Tracked.compare (ptr - rateKhzOffset) rev
      Tracked.require revision .invalidMtcTable
      validateMtcTables mtcWords rev (ptr - mtcWords) rest

def adjusted {size : Nat} (adjust : MtcTable size → MtcTable size) (words : Nat → Word)
    (offset : Nat) : Word :=
  if inside : offset < size then adjust (fun index => words index) ⟨offset, inside⟩ else 0

/-- The adjustment of the table at an address, in place. -/
def autoAdjust {size : Nat} (adjust : MtcTable size → MtcTable size) (table : Int) :
    Patcher PUnit := do
  let words ← Tracked.readBlock table size
  Tracked.writeBlock table size (adjusted adjust words)

structure Validator where
  value : Nat
  min : Nat
  max : Nat
  valueRequired : Bool

def Validator.check (validator : Validator) : Bool :=
  (!validator.valueRequired && validator.value = 0) ||
    (!(validator.min ≠ 0 && validator.value < validator.min) &&
      !(validator.max ≠ 0 && validator.max < validator.value))

def getMaxOfArr (clocks : List Word) : Word :=
  clocks.foldl (fun largest clock => if largest < clock then clock else largest) 0

/-- The initial `maxEmcClocks`. -/
def CustomizeTable.maxEmcClocks (custom : CustomizeTable) : List Word :=
  [custom.eristaEmcMaxClock2, custom.eristaEmcMaxClock1, custom.eristaEmcMaxClock]

/-- The tables whose last entries `SafetyCheck` takes for the CPU's maximum. -/
def Soc.cpuCheckedTable (soc : Soc) (custom : CustomizeTable) : DvfsTable :=
  match soc with
  | .mariko =>
      if custom.marikoCpuUVHigh ≠ 0 then custom.marikoCpuDvfsTableSLT else custom.marikoCpuDvfsTable
  | .erista => custom.eristaCpuDvfsTable

def validators (custom : CustomizeTable) (eristaCpu marikoCpu eristaGpu marikoGpu : CvbEntry) :
    List Validator :=
  [⟨custom.eristaCpuBoostClock.toNat, 1020000, 2397000, true⟩,
   ⟨custom.marikoCpuBoostClock.toNat, 1020000, 2703000, true⟩,
   ⟨custom.eristaCpuMaxVolt.toNat, 1000, 1260, false⟩,
   ⟨custom.marikoCpuMaxVolt.toNat, 1000, 1200, false⟩,
   ⟨eristaCpu.freqLow.toNat, 1785000, 2397000, false⟩,
   ⟨marikoCpu.freqLow.toNat, 1785000, 2703000, false⟩,
   ⟨custom.commonEmcMemVolt.toNat, 912500, 1350000, false⟩,
   ⟨(getMaxOfArr custom.maxEmcClocks).toNat, 1600000, 2600000, false⟩,
   ⟨custom.marikoEmcMaxClock.toNat, 1600000, 3500000, false⟩,
   ⟨custom.marikoEmcVddqVolt.toNat, 250000, 700000, false⟩,
   ⟨eristaGpu.freqLow.toNat, 768000, 1152000, false⟩,
   ⟨marikoGpu.freqLow.toNat, 768000, 1536000, false⟩,
   ⟨custom.marikoGpuVmax.toNat, 800, 960, false⟩]

/-- Whether `SafetyCheck` returns: it follows the last entries, so none may be missing. -/
def safetyCheck (custom : CustomizeTable) : Bool :=
  match getDvfsTableLastEntry (Soc.erista.cpuCheckedTable custom),
    getDvfsTableLastEntry (Soc.mariko.cpuCheckedTable custom),
    getDvfsTableLastEntry (Soc.erista.gpuCustomizeTable custom),
    getDvfsTableLastEntry (Soc.mariko.gpuCustomizeTable custom) with
  | some eristaCpu, some marikoCpu, some eristaGpu, some marikoGpu =>
      (validators custom eristaCpu marikoCpu eristaGpu marikoGpu).all Validator.check
  | _, _, _, _ => false

theorem shipped_safe : safetyCheck shipped = true := by decide +kernel

end HorizonOc.Loader
