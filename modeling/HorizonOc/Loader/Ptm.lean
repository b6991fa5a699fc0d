import Mathlib.Order.Bounds.Defs
import HorizonOc.Loader.Pcv

namespace HorizonOc.Loader

open HorizonOc.Data

/-! `ptm.hpp` and `ptm.cpp`: the clocks in the performance configurations of `ptm`. -/

namespace Ptm

structure PerfConfEntry where
  confId : Word
  cpuFreq1 : Word
  cpuFreq2 : Word
  gpuFreq1 : Word
  gpuFreq2 : Word
  emcFreq1 : Word
  emcFreq2 : Word
  padding : Word
deriving DecidableEq, Repr

/-- `sizeof(perf_conf_entry)` in words, and the offsets of its pairs. -/
def perfConfWords : Nat := 8

def cpuFreqOffset : Int := 1

def gpuFreqOffset : Int := 3

def emcFreqOffset : Int := 5

def perfConfEntryAt (word : Int → Word) (entry : Int) : PerfConfEntry :=
  { confId := word entry
    cpuFreq1 := word (entry + cpuFreqOffset)
    cpuFreq2 := word (entry + cpuFreqOffset + 1)
    gpuFreq1 := word (entry + gpuFreqOffset)
    gpuFreq2 := word (entry + gpuFreqOffset + 1)
    emcFreq1 := word (entry + emcFreqOffset)
    emcFreq2 := word (entry + emcFreqOffset + 1)
    padding := word (entry + 7) }

def entryCnt : Nat := 16

def cpuPtmDefault : Word := 1020000000

def cpuPtmDevOC : Word := 1224000000

def cpuPtmBoost : Word := 1785000000

def memPtmLimit : Word := 1600000000

def memPtmAlt : Word := 1331200000

def memPtmClamp : Word := 1065600000

/-- What `CRASH` reports. -/
inductive Crash where
  | confTableNotFound | invalidConfTableEntry | unknownCpuFreq | unknownMemFreq | cpuPtmBoost | memPtm
deriving DecidableEq, Repr

abbrev Image := Store Word PUnit

abbrev Patcher := Tracked Word PUnit Crash

/-- The `patched_count` of each patcher. -/
structure Counts where
  cpuPtmBoost : Nat
  memPtm : Nat
deriving DecidableEq, Repr

def cpuBoostClock (soc : Soc) (custom : CustomizeTable) : Word :=
  match soc with
  | .mariko => custom.marikoCpuBoostClock
  | .erista => custom.eristaCpuBoostClock

/-- `CpuPtmBoost`, which succeeds without a clock to write. -/
def applyCpuPtmBoost (soc : Soc) (custom : CustomizeTable) (entry : Int) : Patcher PUnit :=
  if custom.eristaCpuBoostClock = 0 ∨ custom.marikoCpuBoostClock = 0 then pure ⟨⟩
  else do
    Tracked.write (entry + cpuFreqOffset) (cpuBoostClock soc custom * 1000)
    Tracked.write (entry + cpuFreqOffset + 1) (cpuBoostClock soc custom * 1000)

/-- `MemPtm`. -/
def applyMemPtm (entry : Int) : Patcher PUnit := do
  Tracked.write (entry + emcFreqOffset) memPtmLimit
  Tracked.write (entry + emcFreqOffset + 1) memPtmLimit

def equalPair (entry offset : Int) : Patcher Bool := do
  let first ← Tracked.read (entry + offset)
  let second ← Tracked.read (entry + offset + 1)
  pure (first = second)

def ptmEntryIsValid (entry : Int) : Patcher Bool := do
  if ← equalPair entry cpuFreqOffset then
    if ← equalPair entry gpuFreqOffset then equalPair entry emcFreqOffset else pure false
  else pure false

def ptmTablePatternFn (entry : Int) : Patcher Bool := do
  if ← ptmEntryIsValid entry then
    let cpuFreq ← Tracked.read (entry + cpuFreqOffset)
    pure (cpuFreq = cpuPtmDefault)
  else pure false

/-- The first position from `ptr` on at which the pattern holds. -/
def findConfTable (ptr : Nat) : Nat → Patcher (Option Nat)
  | 0 => pure none
  | positions + 1 => do
      if ← ptmTablePatternFn ptr then pure (some ptr) else findConfTable (ptr + 1) positions

/-- The `switch` on the rate of the CPU. -/
def patchCpuFreq (soc : Soc) (custom : CustomizeTable) (entry : Int) (counts : Counts) :
    Patcher Counts := do
  let cpuFreq ← Tracked.read (entry + cpuFreqOffset)
  if cpuFreq = Ptm.cpuPtmBoost then
    applyCpuPtmBoost soc custom entry
    pure { counts with cpuPtmBoost := counts.cpuPtmBoost + 1 }
  else if cpuFreq = cpuPtmDefault ∨ cpuFreq = cpuPtmDevOC then pure counts
  else Tracked.fail .unknownCpuFreq

/-- The `switch` on the rate of the memory. -/
def patchEmcFreq (soc : Soc) (entry : Int) (counts : Counts) : Patcher Counts := do
  let emcFreq ← Tracked.read (entry + emcFreqOffset)
  if emcFreq = memPtmLimit ∨ emcFreq = memPtmAlt ∨ emcFreq = memPtmClamp then
    if soc = .mariko then
      applyMemPtm entry
      pure { counts with memPtm := counts.memPtm + 1 }
    else pure counts
  else Tracked.fail .unknownMemFreq

def patchEntry (soc : Soc) (custom : CustomizeTable) (entry : Int) (counts : Counts) :
    Patcher Counts := do
  let valid ← ptmEntryIsValid entry
  Tracked.require valid .invalidConfTableEntry
  let counts ← patchCpuFreq soc custom entry counts
  patchEmcFreq soc entry counts

/-- The counts after the first entries. -/
def patchEntries (soc : Soc) (custom : CustomizeTable) (confTable : Int) : Nat → Patcher Counts
  | 0 => pure ⟨0, 0⟩
  | index + 1 => do
      let counts ← patchEntries soc custom confTable index
      patchEntry soc custom (confTable + perfConfWords * index) counts

def patch (soc : Soc) (custom : CustomizeTable) (mappedNso nsoSize : Nat) : Patcher PUnit := do
  let found ← findConfTable 0 (scanPositions mappedNso nsoSize (perfConfWords * entryCnt))
  match found with
  | none => Tracked.fail .confTableNotFound
  | some confTable => do
      let counts ← patchEntries soc custom confTable entryCnt
      Tracked.require (counts.cpuPtmBoost ≤ 2) .cpuPtmBoost
      if soc = .mariko then Tracked.require (counts.memPtm ≤ 16) .memPtm else pure ⟨⟩

end Ptm

end HorizonOc.Loader
