import HorizonOc.Loader.TableEntries

namespace HorizonOc.Loader

open HorizonOc.Data

/-- The room behind the stock table, up to the limit, is empty. -/
def RoomBehind (defaultTable : DvfsTable) (store : Image) (ptr : Int) : Prop :=
  ∀ index, getDvfsTableEntryCount defaultTable ≤ index → index < dvfsTableEntryLimit →
    (tableAt store.word (tableHead defaultTable ptr) index).isEmpty = true

def lastFreq (table : DvfsTable) : Option Word :=
  (getDvfsTableLastEntry table).map CvbEntry.freqLow

/-- The table is the customized one, with nothing behind it, and ends with the frequency that the
table taken for the maximum ends with. -/
structure InstallsExactly (installed customizeTable maximumTable : DvfsTable) : Prop where
  count : getDvfsTableEntryCount installed = getDvfsTableEntryCount customizeTable
  freq : ∀ index < getDvfsTableEntryCount customizeTable,
    (installed index).freq = (customizeTable index).freq
  behind : ∀ index, getDvfsTableEntryCount customizeTable ≤ index → index < dvfsTableEntryLimit →
    (installed index).isEmpty = true
  last : lastFreq installed = lastFreq maximumTable

section

variable {defaultTable installed customizeTable maximumTable : DvfsTable} {store : Image}
  {ptr : Int} {change : Nat → CvbEntry → CvbEntry}

theorem tableAt_stock (stock : StockTable defaultTable store ptr) {index : Nat}
    (below : index < getDvfsTableEntryCount defaultTable) :
    tableAt store.word (tableHead defaultTable ptr) index = defaultTable index := by
  rw [← CvbEntry.ofWords_word (defaultTable index)]
  apply CvbEntry.ofWords_congr
  intro offset inside
  have position : cvbEntryWords * index + offset <
      cvbEntryWords * getDvfsTableEntryCount defaultTable := by
    unfold cvbEntryWords at *
    omega
  have word := stock _ position
  rw [DvfsTable.word_entry inside] at word
  rw [← word]
  simp [block, Int.add_assoc]

theorem lastFreq_congr (count : getDvfsTableEntryCount installed =
      getDvfsTableEntryCount customizeTable)
    (freq : ∀ index < getDvfsTableEntryCount customizeTable,
      (installed index).freqLow = (customizeTable index).freqLow) :
    lastFreq installed = lastFreq customizeTable := by
  unfold lastFreq getDvfsTableLastEntry
  rw [count]
  by_cases empty : getDvfsTableEntryCount customizeTable = 0
  · rw [if_pos empty, if_pos empty]
  · rw [if_neg empty, if_neg empty]
    exact congrArg some (freq _ (by omega))

/-- A prefix of the customized length is written over the stock table; what it leaves of the stock
table or clears itself shows in the count. -/
theorem installsExactly_iff (stock : StockTable defaultTable store ptr)
    (room : RoomBehind defaultTable store ptr)
    (keepsLow : ∀ index entry, (change index entry).freqLow = entry.freqLow)
    (keepsHigh : ∀ index entry, (change index entry).freqHigh = entry.freqHigh)
    (entries : ∀ index, installed index =
      if index < getDvfsTableEntryCount customizeTable then change index (customizeTable index)
      else tableAt store.word (tableHead defaultTable ptr) index) :
    InstallsExactly installed customizeTable maximumTable ↔
      getDvfsTableEntryCount defaultTable ≤ getDvfsTableEntryCount customizeTable ∧
      (∀ index < getDvfsTableEntryCount customizeTable,
        (change index (customizeTable index)).isEmpty = false) ∧
      lastFreq customizeTable = lastFreq maximumTable := by
  have written {index : Nat} (below : index < getDvfsTableEntryCount customizeTable) :
      installed index = change index (customizeTable index) := by rw [entries, if_pos below]
  have low : ∀ index < getDvfsTableEntryCount customizeTable,
      (installed index).freqLow = (customizeTable index).freqLow := by
    intro index below
    rw [written below, keepsLow]
  constructor
  · intro exactly
    refine ⟨?_, ?_, ?_⟩
    · by_contra shorter
      have survives : installed (getDvfsTableEntryCount customizeTable) =
          defaultTable (getDvfsTableEntryCount customizeTable) := by
        rw [entries, if_neg (by omega), tableAt_stock stock (by omega)]
      have filled := entry_of_lt_count
        (show getDvfsTableEntryCount customizeTable < getDvfsTableEntryCount defaultTable by omega)
      have limit := getDvfsTableEntryCount_le defaultTable
      have empty := exactly.behind _ (Nat.le_refl _) (by omega)
      rw [survives, filled] at empty
      contradiction
    · intro index below
      rw [← written below]
      exact entry_of_lt_count (exactly.count ▸ below)
    · rw [← lastFreq_congr exactly.count low, exactly.last]
  · rintro ⟨longer, filled, last⟩
    have behind : ∀ index, getDvfsTableEntryCount customizeTable ≤ index →
        index < dvfsTableEntryLimit → (installed index).isEmpty = true := by
      intro index above inside
      rw [entries, if_neg (by omega)]
      exact room index (by omega) inside
    have count : getDvfsTableEntryCount installed = getDvfsTableEntryCount customizeTable := by
      rw [getDvfsTableEntryCount_eq_iff (getDvfsTableEntryCount_le customizeTable)]
      constructor
      · intro index below
        rw [written below]
        exact filled index below
      · exact behind _ (Nat.le_refl _)
    constructor
    · exact count
    · intro index below
      rw [written below, CvbEntry.freq, keepsLow, keepsHigh, CvbEntry.freq]
    · exact behind
    · rw [lastFreq_congr count low, last]

end

section

variable {soc : Soc} {custom : CustomizeTable} {index : Nat} {entry : CvbEntry}

theorem isEmpty_eq_false_iff : entry.isEmpty = false ↔ entry ≠ {} := by
  simp [CvbEntry.isEmpty]

@[simp] theorem cpuInstalled_freqLow : (soc.cpuInstalled custom entry).freqLow = entry.freqLow := by
  unfold Soc.cpuInstalled Soc.cpuEntry
  split
  · split <;> rfl
  · rfl

@[simp] theorem cpuInstalled_freqHigh :
    (soc.cpuInstalled custom entry).freqHigh = entry.freqHigh := by
  unfold Soc.cpuInstalled Soc.cpuEntry
  split
  · split <;> rfl
  · rfl

/-- Only entries with a high rate are capped, so none becomes empty. -/
theorem cpuInstalled_filled (filled : entry.isEmpty = false) :
    (soc.cpuInstalled custom entry).isEmpty = false := by
  rw [isEmpty_eq_false_iff] at filled ⊢
  intro empty
  have low := congrArg CvbEntry.freqLow empty
  have high := congrArg CvbEntry.freqHigh empty
  rw [cpuInstalled_freqLow] at low
  rw [cpuInstalled_freqHigh] at high
  have slow : ¬(cpuFreqThreshold ≤ entry.freq ∧ soc = .mariko) := by
    simp [CvbEntry.freq, low, high, cpuFreqThreshold]
  rw [Soc.cpuInstalled, Soc.cpuEntry, if_neg slow, ite_self] at empty
  exact filled empty

@[simp] theorem gpuInstalled_freqLow :
    (soc.gpuInstalled custom index entry).freqLow = entry.freqLow := by
  unfold Soc.gpuInstalled Soc.gpuEntry CustomizeTable.lowered
  split <;> split <;> rfl

@[simp] theorem gpuInstalled_freqHigh :
    (soc.gpuInstalled custom index entry).freqHigh = entry.freqHigh := by
  unfold Soc.gpuInstalled Soc.gpuEntry CustomizeTable.lowered
  split <;> split <;> rfl

@[simp] theorem gpuInstalled_cvbDfllParam :
    (soc.gpuInstalled custom index entry).cvbDfllParam = entry.cvbDfllParam := by
  unfold Soc.gpuInstalled Soc.gpuEntry CustomizeTable.lowered
  split <;> split <;> rfl

/-- What the second loop over the GPU's table subtracts. -/
def Soc.secondOffset (soc : Soc) (custom : CustomizeTable) : Word :=
  if soc.gpuUV custom = 0 then custom.commonGpuVoltOffset * 1000 else 0

theorem gpuInstalled_cvbPllParam :
    (soc.gpuInstalled custom index entry).cvbPllParam =
      if soc.gpuVolt custom index ≠ 0 then
        { c0 := soc.gpuVolt custom index * 1000 - soc.secondOffset custom }
      else
        { entry.cvbPllParam with
          c0 := entry.cvbPllParam.c0 - custom.commonGpuVoltOffset * 1000 -
            soc.secondOffset custom } := by
  have once (word : Word) : word - 0 = word := by simp
  have unset : (0 : Word) * 1000 = 0 := by decide
  unfold Soc.gpuInstalled Soc.gpuEntry CustomizeTable.lowered Soc.secondOffset
  by_cases stock : soc.gpuUV custom = 0
  · by_cases offset : custom.commonGpuVoltOffset = 0
    · simp only [stock, offset, ne_eq, not_true, false_and, if_false, if_true, unset, once]
      split <;> rfl
    · simp only [stock, offset, ne_eq, not_false_eq_true, true_and, if_true]
      split <;> rfl
  · simp only [stock, and_false, if_false, once]
    split <;> rfl

/-- An entry without a rate and DFLL parameters whose PLL parameters the voltage patch makes zero. -/
def Soc.gpuEntryVanishes (soc : Soc) (custom : CustomizeTable) (index : Nat) (entry : CvbEntry) :
    Prop :=
  (entry.freqLow = 0 ∧ entry.freqHigh = 0 ∧ entry.cvbDfllParam = {}) ∧
    if soc.gpuVolt custom index ≠ 0 then
      soc.gpuVolt custom index * 1000 = soc.secondOffset custom
    else
      { entry.cvbPllParam with c0 := 0 } = ({} : CvbCoefficients) ∧
        entry.cvbPllParam.c0 = custom.commonGpuVoltOffset * 1000 + soc.secondOffset custom

theorem gpuInstalled_vanishes_iff :
    (soc.gpuInstalled custom index entry).isEmpty = true ↔
      soc.gpuEntryVanishes custom index entry := by
  rw [CvbEntry.isEmpty, decide_eq_true_iff, CvbEntry.ext_iff, gpuInstalled_cvbPllParam]
  simp only [gpuInstalled_freqLow, gpuInstalled_freqHigh, gpuInstalled_cvbDfllParam,
    Soc.gpuEntryVanishes, and_assoc]
  refine and_congr_right fun _ => and_congr_right fun _ => and_congr_right fun _ => ?_
  by_cases manual : soc.gpuVolt custom index ≠ 0
  · rw [if_pos manual, if_pos manual, CvbCoefficients.ext_iff]
    simp only [and_true]
    constructor <;> intro same <;> bv_omega
  · rw [if_neg manual, if_neg manual, CvbCoefficients.ext_iff, CvbCoefficients.ext_iff]
    have difference : entry.cvbPllParam.c0 - custom.commonGpuVoltOffset * 1000 -
        soc.secondOffset custom = 0 ↔
          entry.cvbPllParam.c0 = custom.commonGpuVoltOffset * 1000 + soc.secondOffset custom := by
      constructor <;> intro same <;> bv_omega
    simp only [difference, true_and]
    tauto

end

/-- The CPU's and the GPU's table are installed exactly when the customized table is no shorter than
the stock table; the GPU's voltages may not clear an entry, and the CPU's table must be the one
whose end `SafetyCheck` looks at. -/
theorem tables_installed_iff (soc : Soc) (custom : CustomizeTable) (store : Image) (ptr : Int) :
    (StockTable soc.cpuDefaultTable store ptr → RoomBehind soc.cpuDefaultTable store ptr →
      (cpuFreqCvbTable soc custom ptr store).succeeded = true ∧
      (InstallsExactly (tableAt (cpuFreqCvbTable soc custom ptr store).store.word
          (tableHead soc.cpuDefaultTable ptr)) (soc.cpuCustomizeTable custom)
          (soc.cpuCheckedTable custom) ↔
        getDvfsTableEntryCount soc.cpuDefaultTable ≤
            getDvfsTableEntryCount (soc.cpuCustomizeTable custom) ∧
          lastFreq (soc.cpuCustomizeTable custom) = lastFreq (soc.cpuCheckedTable custom))) ∧
    (StockTable soc.gpuDefaultTable store ptr → RoomBehind soc.gpuDefaultTable store ptr →
      (gpuFreqCvbTable soc custom ptr store).succeeded = true ∧
      (InstallsExactly (tableAt (gpuFreqCvbTable soc custom ptr store).store.word
          (tableHead soc.gpuDefaultTable ptr)) (soc.gpuCustomizeTable custom)
          (soc.gpuCustomizeTable custom) ↔
        getDvfsTableEntryCount soc.gpuDefaultTable ≤
            getDvfsTableEntryCount (soc.gpuCustomizeTable custom) ∧
          ∀ index < getDvfsTableEntryCount (soc.gpuCustomizeTable custom),
            ¬soc.gpuEntryVanishes custom index (soc.gpuCustomizeTable custom index))) := by
  constructor
  · intro stock room
    obtain ⟨final, run, entries⟩ := cpuFreqCvbTable_run custom stock
    obtain ⟨returned, stored⟩ := Prod.mk.inj run
    rw [Outcome.succeeded, returned, stored,
      installsExactly_iff stock room (fun _ _ => cpuInstalled_freqLow)
        (fun _ _ => cpuInstalled_freqHigh) entries]
    have filled : ∀ index < getDvfsTableEntryCount (soc.cpuCustomizeTable custom),
        (soc.cpuInstalled custom (soc.cpuCustomizeTable custom index)).isEmpty = false :=
      fun index below => cpuInstalled_filled (entry_of_lt_count below)
    exact ⟨rfl, by tauto⟩
  · intro stock room
    obtain ⟨final, run, entries⟩ := gpuFreqCvbTable_run custom stock
    obtain ⟨returned, stored⟩ := Prod.mk.inj run
    rw [Outcome.succeeded, returned, stored,
      installsExactly_iff stock room (fun _ _ => gpuInstalled_freqLow)
        (fun _ _ => gpuInstalled_freqHigh) entries]
    refine ⟨rfl, ?_⟩
    simp only [← gpuInstalled_vanishes_iff, Bool.not_eq_true, and_true]

theorem tables_installed_erista_gpu :
    InstallsExactly (tableAt (gpuFreqCvbTable .erista shipped 1000
        (stockImage Soc.erista.gpuDefaultTable 1000)).store.word
          (tableHead Soc.erista.gpuDefaultTable 1000))
      (Soc.erista.gpuCustomizeTable shipped) (Soc.erista.gpuCustomizeTable shipped) := by
  have rates : ∀ index < getDvfsTableEntryCount (Soc.erista.gpuCustomizeTable shipped),
      (Soc.erista.gpuCustomizeTable shipped index).freqLow ≠ 0 := by decide +kernel
  have installed := (tables_installed_iff .erista shipped
    (stockImage Soc.erista.gpuDefaultTable 1000) 1000).2 stockImage_stock
      fun _ behind _ => stockImage_behind behind
  exact installed.2.mpr ⟨by decide +kernel, fun index below vanishes =>
    rates index below vanishes.1.1⟩

/-- The shipped GPU table of Mariko is shorter than the stock table. -/
theorem tables_stock_survives :
    ¬∀ (soc : Soc) (custom : CustomizeTable) (store : Image) (ptr : Int),
      safetyCheck custom = true → StockTable soc.gpuDefaultTable store ptr →
        RoomBehind soc.gpuDefaultTable store ptr →
          (gpuFreqCvbTable soc custom ptr store).succeeded = true →
            InstallsExactly (tableAt (gpuFreqCvbTable soc custom ptr store).store.word
                (tableHead soc.gpuDefaultTable ptr))
              (soc.gpuCustomizeTable custom) (soc.gpuCustomizeTable custom) := by
  intro exactly
  have stock : StockTable Soc.mariko.gpuDefaultTable (stockImage Soc.mariko.gpuDefaultTable 1000)
    1000 := stockImage_stock
  have room : RoomBehind Soc.mariko.gpuDefaultTable (stockImage Soc.mariko.gpuDefaultTable 1000)
    1000 := fun _ behind _ => stockImage_behind behind
  obtain ⟨final, run, entries⟩ := gpuFreqCvbTable_run shipped stock
  obtain ⟨returned, stored⟩ := Prod.mk.inj run
  have installed := exactly .mariko shipped _ 1000 shipped_safe stock room
    (by rw [Outcome.succeeded, returned]; rfl)
  rw [stored, installsExactly_iff stock room (fun _ _ => gpuInstalled_freqLow)
    (fun _ _ => gpuInstalled_freqHigh) entries] at installed
  exact absurd installed.1 (by decide +kernel)

end HorizonOc.Loader
