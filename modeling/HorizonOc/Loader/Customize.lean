import Mathlib.Algebra.Group.Nat.Defs
import Mathlib.Algebra.Group.Int.Defs
import HorizonOc.Data.Tracked

namespace HorizonOc.Loader

open HorizonOc.Data

abbrev Word := BitVec 32

@[ext] structure CvbCoefficients where
  c0 : Word := 0
  c1 : Word := 0
  c2 : Word := 0
  c3 : Word := 0
  c4 : Word := 0
  c5 : Word := 0
deriving DecidableEq, Repr

/-- `cvb_entry_t`, its 64-bit rate as two words. -/
@[ext] structure CvbEntry where
  freqLow : Word := 0
  freqHigh : Word := 0
  cvbDfllParam : CvbCoefficients := {}
  cvbPllParam : CvbCoefficients := {}
deriving DecidableEq, Repr

def CvbCoefficients.ofList (values : List Int) : CvbCoefficients :=
  { c0 := .ofInt 32 (values.getD 0 0), c1 := .ofInt 32 (values.getD 1 0)
    c2 := .ofInt 32 (values.getD 2 0), c3 := .ofInt 32 (values.getD 3 0)
    c4 := .ofInt 32 (values.getD 4 0), c5 := .ofInt 32 (values.getD 5 0) }

def cvbEntry (freq : Word) (dfll pll : List Int) : CvbEntry :=
  { freqLow := freq, cvbDfllParam := .ofList dfll, cvbPllParam := .ofList pll }

def CvbEntry.freq (entry : CvbEntry) : Nat := entry.freqLow.toNat + 2 ^ 32 * entry.freqHigh.toNat

def CvbEntry.isEmpty (entry : CvbEntry) : Bool := entry = {}

def CvbCoefficients.word (coefficients : CvbCoefficients) : Nat → Word
  | 0 => coefficients.c0
  | 1 => coefficients.c1
  | 2 => coefficients.c2
  | 3 => coefficients.c3
  | 4 => coefficients.c4
  | _ => coefficients.c5

/-- The words of an entry as they lie in memory. -/
def CvbEntry.word (entry : CvbEntry) (offset : Nat) : Word :=
  if offset = 0 then entry.freqLow
  else if offset = 1 then entry.freqHigh
  else if offset < 8 then entry.cvbDfllParam.word (offset - 2)
  else entry.cvbPllParam.word (offset - 8)

/-- `sizeof(cvb_entry_t)` in words, and where `cvb_pll_param` begins. -/
def cvbEntryWords : Nat := 14

def cvbPllParamOffset : Nat := 8

/-- The entries that a pointer to the head of a table leads to. -/
abbrev DvfsTable := Nat → CvbEntry

def dvfsTable (entries : List CvbEntry) : DvfsTable := fun index => entries.getD index {}

def dvfsTableEntryLimit : Nat := 31

def getDvfsTableEntryCount (table : DvfsTable) : Nat :=
  (List.range dvfsTableEntryLimit).findIdx fun index => (table index).isEmpty

/-- `GetDvfsTableLastEntry`, which is null for an empty table. -/
def getDvfsTableLastEntry (table : DvfsTable) : Option CvbEntry :=
  if getDvfsTableEntryCount table = 0 then none else some (table (getDvfsTableEntryCount table - 1))

/-- The words of a table as they lie in memory. -/
def DvfsTable.word (table : DvfsTable) (offset : Nat) : Word :=
  (table (offset / cvbEntryWords)).word (offset % cvbEntryWords)

def CvbEntry.ofWords (words : Nat → Word) : CvbEntry :=
  { freqLow := words 0
    freqHigh := words 1
    cvbDfllParam := { c0 := words 2, c1 := words 3, c2 := words 4, c3 := words 5, c4 := words 6
                      c5 := words 7 }
    cvbPllParam := { c0 := words 8, c1 := words 9, c2 := words 10, c3 := words 11, c4 := words 12
                     c5 := words 13 } }

def entryAt (word : Int → Word) (address : Int) : CvbEntry := .ofWords (block word address)

/-- The table whose head is at an address. -/
def tableAt (word : Int → Word) (head : Int) : DvfsTable :=
  fun index => entryAt word (head + cvbEntryWords * index)

theorem getDvfsTableEntryCount_le (table : DvfsTable) :
    getDvfsTableEntryCount table ≤ dvfsTableEntryLimit := by
  have bound : getDvfsTableEntryCount table ≤ (List.range dvfsTableEntryLimit).length :=
    List.findIdx_le_length
  simpa using bound

/-- The count is the length of the run of entries that are not empty, up to the limit. -/
theorem getDvfsTableEntryCount_eq_iff {table : DvfsTable} {count : Nat}
    (bounded : count ≤ dvfsTableEntryLimit) :
    getDvfsTableEntryCount table = count ↔
      (∀ index < count, (table index).isEmpty = false) ∧
      (count < dvfsTableEntryLimit → (table count).isEmpty = true) := by
  unfold getDvfsTableEntryCount
  rcases Nat.lt_or_eq_of_le bounded with below | full
  · rw [List.findIdx_eq (by simpa using below)]
    simp only [List.getElem_range]
    exact ⟨fun ⟨empty, full⟩ => ⟨full, fun _ => empty⟩, fun ⟨full, empty⟩ => ⟨empty below, full⟩⟩
  · have length : (List.range dvfsTableEntryLimit).length = count := by
      rw [List.length_range, full]
    rw [← length, List.findIdx_eq_length]
    simp

theorem entry_of_lt_count {table : DvfsTable} {index : Nat}
    (below : index < getDvfsTableEntryCount table) : (table index).isEmpty = false :=
  ((getDvfsTableEntryCount_eq_iff (getDvfsTableEntryCount_le table)).mp rfl).1 index below

theorem CvbEntry.ofWords_word (entry : CvbEntry) : .ofWords entry.word = entry := rfl

theorem CvbEntry.ofWords_congr {words others : Nat → Word}
    (same : ∀ offset < cvbEntryWords, words offset = others offset) :
    CvbEntry.ofWords words = .ofWords others := by
  unfold cvbEntryWords at same
  simp [CvbEntry.ofWords, same]

/-- The fields of `customize.hpp` that are used. -/
structure CustomizeTable where
  commonEmcMemVolt : Word
  eristaEmcMaxClock : Word
  eristaEmcMaxClock1 : Word
  eristaEmcMaxClock2 : Word
  marikoEmcMaxClock : Word
  marikoEmcVddqVolt : Word
  emcDvbShift : Word
  eristaCpuUV : Word
  eristaCpuVmin : Word
  eristaCpuMaxVolt : Word
  eristaCpuUnlock : Word
  marikoCpuUVLow : Word
  marikoCpuUVHigh : Word
  tableConf : Word
  marikoCpuLowVmin : Word
  marikoCpuHighVmin : Word
  marikoCpuMaxVolt : Word
  marikoCpuMaxClock : Word
  eristaCpuBoostClock : Word
  marikoCpuBoostClock : Word
  eristaGpuUV : Word
  eristaGpuVmin : Word
  marikoGpuUV : Word
  marikoGpuVmin : Word
  marikoGpuVmax : Word
  commonGpuVoltOffset : Word
  eristaGpuVoltArray : Vector Word 27
  marikoGpuVoltArray : Vector Word 24
  fineTune_t6_tRTW : Word
  fineTune_t7_tWTR : Word
  reserved : Vector Word 60
  eristaCpuDvfsTable : DvfsTable
  eristaCpuDvfsTableSLT : DvfsTable
  marikoCpuDvfsTable : DvfsTable
  marikoCpuDvfsTableSLT : DvfsTable
  marikoCpuDvfsTable1581Tbreak : DvfsTable
  marikoCpuDvfsTable1683Tbreak : DvfsTable
  marikoCpuDvfsTableExtreme : DvfsTable
  eristaGpuDvfsTable : DvfsTable
  eristaGpuDvfsTableSLT : DvfsTable
  eristaGpuDvfsTableHiOPT : DvfsTable
  marikoGpuDvfsTable : DvfsTable
  marikoGpuDvfsTableSLT : DvfsTable
  marikoGpuDvfsTableHiOPT : DvfsTable

/-- The values of `TableConfig` beyond the default. -/
def tbreak1581 : Word := 2

def tbreak1683 : Word := 3

def extremeTable : Word := 4

/-- The words of the structure from `eristaGpuVoltArray` on: an index past one array reads what
lies behind it. -/
def CustomizeTable.voltWord (custom : CustomizeTable) (index : Nat) : Word :=
  (custom.eristaGpuVoltArray.toList ++ custom.marikoGpuVoltArray.toList ++
    [custom.fineTune_t6_tRTW, custom.fineTune_t7_tWTR] ++ custom.reserved.toList).getD index 0

end HorizonOc.Loader
