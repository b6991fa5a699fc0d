import HorizonOc.Loader.Pcv

namespace HorizonOc.Loader

open HorizonOc.Data

section

variable {word others : Int → Word} {head address : Int} {table : DvfsTable} {count index : Nat}
  {value : Word}

theorem entryAt_congr (same : ∀ offset < cvbEntryWords,
      word (address + offset) = others (address + offset)) :
    entryAt word address = entryAt others address :=
  CvbEntry.ofWords_congr same

/-- Writes into one entry change no other. -/
theorem tableAt_eq_update (kept : ∀ other, other < head + cvbEntryWords * index ∨
      head + cvbEntryWords * index + cvbEntryWords ≤ other → word other = others other) :
    tableAt word head =
      Function.update (tableAt others head) index (entryAt word (head + cvbEntryWords * index)) := by
  funext other
  by_cases same : other = index
  · rw [same, Function.update_self]
    rfl
  · rw [Function.update_of_ne same]
    apply entryAt_congr
    intro offset inside
    apply kept
    unfold cvbEntryWords at *
    omega

theorem DvfsTable.word_entry {offset : Nat} (inside : offset < cvbEntryWords) :
    table.word (cvbEntryWords * index + offset) = (table index).word offset := by
  have quotient : (cvbEntryWords * index + offset) / cvbEntryWords = index := by
    unfold cvbEntryWords at *
    omega
  have remainder : (cvbEntryWords * index + offset) % cvbEntryWords = offset := by
    unfold cvbEntryWords at *
    omega
  rw [DvfsTable.word, quotient, remainder]

/-- A table that is copied to the head, and what was behind it. -/
theorem tableAt_writeBlock :
    tableAt (writeBlock word head (cvbEntryWords * count) table.word) head index =
      if index < count then table index else tableAt word head index := by
  by_cases below : index < count
  · rw [if_pos below, ← CvbEntry.ofWords_word (table index)]
    apply CvbEntry.ofWords_congr
    intro offset inside
    have position : cvbEntryWords * index + offset < cvbEntryWords * count := by
      unfold cvbEntryWords at *
      omega
    calc
      block (writeBlock word head (cvbEntryWords * count) table.word)
          (head + cvbEntryWords * index) offset =
        writeBlock word head (cvbEntryWords * count) table.word
          (head + (cvbEntryWords * index + offset : Nat)) := by
        simp [block, Int.add_assoc]
      _ = table.word (cvbEntryWords * index + offset) := writeBlock_inside position
      _ = (table index).word offset := DvfsTable.word_entry inside
  · rw [if_neg below]
    apply entryAt_congr
    intro offset inside
    apply writeBlock_outside
    unfold cvbEntryWords at *
    omega

theorem entryAt_update_c0 :
    entryAt (Function.update word (address + cvbPllParamOffset) value) address =
      { entryAt word address with
        cvbPllParam := { (entryAt word address).cvbPllParam with c0 := value } } := by
  have apart : address ≠ address + 8 := by omega
  simp [entryAt, CvbEntry.ofWords, block, cvbPllParamOffset, apart]

theorem entryAt_clear :
    entryAt (writeBlock word (address + cvbPllParamOffset + 1) 5 fun _ => 0) address =
      { entryAt word address with
        cvbPllParam := { c0 := (entryAt word address).cvbPllParam.c0 } } := by
  have apart : ¬address + 9 ≤ address := by omega
  simp [entryAt, CvbEntry.ofWords, block, writeBlock, cvbPllParamOffset, Int.add_assoc, apart]

end

/-- The entry after `c0` was lowered by the offset. -/
def CustomizeTable.lowered (custom : CustomizeTable) (entry : CvbEntry) : CvbEntry :=
  { entry with
    cvbPllParam := { entry.cvbPllParam with
      c0 := entry.cvbPllParam.c0 - custom.commonGpuVoltOffset * 1000 } }

/-- The entry after its turn in the first loop of `GpuFreqCvbTable`. -/
def Soc.gpuEntry (soc : Soc) (custom : CustomizeTable) (index : Nat) (entry : CvbEntry) : CvbEntry :=
  if soc.gpuVolt custom index ≠ 0 then
    { entry with cvbPllParam := { c0 := soc.gpuVolt custom index * 1000 } }
  else custom.lowered entry

/-- The entry after its turn in the loop of `CpuFreqCvbTable`. -/
def Soc.cpuEntry (soc : Soc) (maxVolt : Word) (entry : CvbEntry) : CvbEntry :=
  if cpuFreqThreshold ≤ entry.freq ∧ soc = .mariko then
    { entry with cvbPllParam := { entry.cvbPllParam with c0 := maxVolt * 1000 } }
  else entry

section

variable {soc : Soc} {custom : CustomizeTable} {maxVolt : Word} {head : Int} {store : Image}

/-- Writing `c0` of one entry changes that entry alone. -/
theorem tableAt_update_c0 {word : Int → Word} {index : Nat} {value : Word} :
    tableAt (Function.update word (head + cvbEntryWords * index + cvbPllParamOffset) value) head =
      Function.update (tableAt word head) index
        { tableAt word head index with
          cvbPllParam := { (tableAt word head index).cvbPllParam with c0 := value } } := by
  rw [tableAt_eq_update]
  · exact congrArg _ entryAt_update_c0
  · intro other outside
    apply Function.update_of_ne
    unfold cvbEntryWords cvbPllParamOffset at *
    omega

theorem tableAt_clear {word : Int → Word} {index : Nat} :
    tableAt (writeBlock word (head + cvbEntryWords * index + cvbPllParamOffset + 1) 5 fun _ => 0)
        head =
      Function.update (tableAt word head) index
        { tableAt word head index with
          cvbPllParam := { c0 := (tableAt word head index).cvbPllParam.c0 } } := by
  rw [tableAt_eq_update]
  · exact congrArg _ entryAt_clear
  · intro other outside
    apply writeBlock_outside
    unfold cvbEntryWords cvbPllParamOffset at *
    omega

theorem subtractGpuVoltOffset_turn (index : Nat) (store : Image) :
    ∃ after, Tracked.run (subtractGpuVoltOffset custom (head + cvbEntryWords * index)) store =
        (.ok ⟨⟩, after) ∧
      tableAt after.word head = Function.update (tableAt store.word head) index
        (custom.lowered (tableAt store.word head index)) :=
  ⟨_, rfl, tableAt_update_c0⟩

theorem patchGpuVolt_turn (index : Nat) (store : Image) :
    ∃ after, Tracked.run (patchGpuVolt soc custom head index) store = (.ok ⟨⟩, after) ∧
      tableAt after.word head = Function.update (tableAt store.word head) index
        (soc.gpuEntry custom index (tableAt store.word head index)) := by
  by_cases manual : soc.gpuVolt custom index ≠ 0
  · rw [patchGpuVolt, if_pos manual, Soc.gpuEntry, if_pos manual, Tracked.run_write_bind,
      clearCvbPllEntry, Tracked.run_writeBlock]
    refine ⟨_, rfl, ?_⟩
    rw [tableAt_clear, tableAt_update_c0, Function.update_self, Function.update_idem]
  · rw [patchGpuVolt, if_neg manual, Soc.gpuEntry, if_neg manual]
    exact subtractGpuVoltOffset_turn index store

theorem capCpuVolt_turn (index : Nat) (store : Image) :
    ∃ after, Tracked.run (capCpuVolt soc maxVolt (head + cvbEntryWords * index)) store =
        (.ok ⟨⟩, after) ∧
      tableAt after.word head = Function.update (tableAt store.word head) index
        (soc.cpuEntry maxVolt (tableAt store.word head index)) := by
  have freq : (store.word (head + cvbEntryWords * index)).toNat +
      2 ^ 32 * (store.word (head + cvbEntryWords * index + 1)).toNat =
        (tableAt store.word head index).freq := by
    simp [tableAt, entryAt, CvbEntry.ofWords, CvbEntry.freq, block]
  rw [capCpuVolt, Tracked.run_read_bind, Tracked.run_read_bind, freq, Soc.cpuEntry]
  by_cases high : cpuFreqThreshold ≤ (tableAt store.word head index).freq ∧ soc = .mariko
  · rw [if_pos high, if_pos high]
    exact ⟨_, rfl, tableAt_update_c0⟩
  · rw [if_neg high, if_neg high]
    exact ⟨_, rfl, (Function.update_eq_self _ _).symm⟩

end

/-- The stock table lies in the image, with its last entry at `ptr`. -/
def StockTable (defaultTable : DvfsTable) (store : Image) (ptr : Int) : Prop :=
  ∀ offset < cvbEntryWords * getDvfsTableEntryCount defaultTable,
    store.word (tableHead defaultTable ptr + offset) = defaultTable.word offset

/-- An image with nothing but a stock table, whose last entry is at `ptr`. -/
def stockImage (defaultTable : DvfsTable) (ptr : Int) : Image :=
  { word := writeBlock (fun _ => 0) (tableHead defaultTable ptr)
      (cvbEntryWords * getDvfsTableEntryCount defaultTable) defaultTable.word
    rest := { maxEmcClocks := shipped.maxEmcClocks, i2cCalls := 0 } }

theorem stockImage_stock {defaultTable : DvfsTable} {ptr : Int} :
    StockTable defaultTable (stockImage defaultTable ptr) ptr := by
  intro offset inside
  simp only [stockImage]
  exact writeBlock_inside inside

theorem stockImage_behind {defaultTable : DvfsTable} {ptr : Int} {index : Nat}
    (behind : getDvfsTableEntryCount defaultTable ≤ index) :
    (tableAt (stockImage defaultTable ptr).word (tableHead defaultTable ptr) index).isEmpty =
      true := by
  simp only [stockImage]
  rw [tableAt_writeBlock, if_neg (by omega)]
  rfl

/-- An entry of the customized table as `CpuFreqCvbTable` leaves it. -/
def Soc.cpuInstalled (soc : Soc) (custom : CustomizeTable) (entry : CvbEntry) : CvbEntry :=
  if soc.cpuMaxVolt custom ≠ 0 then soc.cpuEntry (soc.cpuMaxVolt custom) entry else entry

/-- An entry of the customized table as `GpuFreqCvbTable` leaves it. -/
def Soc.gpuInstalled (soc : Soc) (custom : CustomizeTable) (index : Nat) (entry : CvbEntry) :
    CvbEntry :=
  if custom.commonGpuVoltOffset ≠ 0 ∧ soc.gpuUV custom = 0 then
    custom.lowered (soc.gpuEntry custom index entry)
  else soc.gpuEntry custom index entry

section

variable {soc : Soc} {custom : CustomizeTable} {ptr : Int} {store : Image}
  {defaultTable customizeTable : DvfsTable}

theorem installTable_run (error : LdrResult) (stock : StockTable defaultTable store ptr) :
    Tracked.run (installTable defaultTable customizeTable error ptr) store =
      (.ok ⟨⟩, { store with
        word := writeBlock store.word (tableHead defaultTable ptr)
          (cvbEntryWords * getDvfsTableEntryCount customizeTable) customizeTable.word }) := by
  have validated : Tracked.run (Tracked.compareBlock (tableHead defaultTable ptr)
      (cvbEntryWords * getDvfsTableEntryCount defaultTable) defaultTable.word : Patcher Bool)
        store = (.ok true, store) :=
    Prod.ext (congrArg Except.ok (decide_eq_true stock)) rfl
  rw [installTable, Tracked.run_bind_of_ok validated]
  rfl

theorem cpuFreqCvbTable_run (custom : CustomizeTable) (stock : StockTable soc.cpuDefaultTable store ptr) :
    ∃ final, Tracked.run (cpuFreqCvbTable soc custom ptr) store = (.ok ⟨⟩, final) ∧
      ∀ index, tableAt final.word (tableHead soc.cpuDefaultTable ptr) index =
        if index < getDvfsTableEntryCount (soc.cpuCustomizeTable custom) then
          soc.cpuInstalled custom (soc.cpuCustomizeTable custom index)
        else tableAt store.word (tableHead soc.cpuDefaultTable ptr) index := by
  unfold Soc.cpuInstalled
  rw [cpuFreqCvbTable, Tracked.run_bind_of_ok (installTable_run _ stock)]
  by_cases capped : soc.cpuMaxVolt custom ≠ 0
  · simp only [if_pos capped]
    obtain ⟨final, returned, entries⟩ := Tracked.run_forM_range_view capCpuVolt_turn
      (getDvfsTableEntryCount (soc.cpuCustomizeTable custom)) _
    refine ⟨final, returned, fun index => ?_⟩
    rw [entries, tableAt_writeBlock]
    split <;> rfl
  · simp only [if_neg capped]
    exact ⟨_, rfl, fun index => tableAt_writeBlock⟩

theorem gpuFreqCvbTable_run (custom : CustomizeTable) (stock : StockTable soc.gpuDefaultTable store ptr) :
    ∃ final, Tracked.run (gpuFreqCvbTable soc custom ptr) store = (.ok ⟨⟩, final) ∧
      ∀ index, tableAt final.word (tableHead soc.gpuDefaultTable ptr) index =
        if index < getDvfsTableEntryCount (soc.gpuCustomizeTable custom) then
          soc.gpuInstalled custom index (soc.gpuCustomizeTable custom index)
        else tableAt store.word (tableHead soc.gpuDefaultTable ptr) index := by
  unfold Soc.gpuInstalled
  obtain ⟨first, returned, entries⟩ := Tracked.run_forM_range_view patchGpuVolt_turn
    (getDvfsTableEntryCount (soc.gpuCustomizeTable custom)) _
  rw [gpuFreqCvbTable, Tracked.run_bind_of_ok (installTable_run _ stock),
    Tracked.run_bind_of_ok returned]
  by_cases again : custom.commonGpuVoltOffset ≠ 0 ∧ soc.gpuUV custom = 0
  · simp only [if_pos again]
    obtain ⟨final, returned, others⟩ := Tracked.run_forM_range_view subtractGpuVoltOffset_turn
      (getDvfsTableEntryCount (soc.gpuCustomizeTable custom)) first
    refine ⟨final, returned, fun index => ?_⟩
    rw [others, entries, tableAt_writeBlock]
    split <;> rfl
  · simp only [if_neg again]
    refine ⟨first, rfl, fun index => ?_⟩
    rw [entries, tableAt_writeBlock]
    split <;> rfl

end

end HorizonOc.Loader
