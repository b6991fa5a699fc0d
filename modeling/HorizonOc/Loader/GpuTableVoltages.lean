import HorizonOc.Loader.TableEntries

namespace HorizonOc.Loader

open HorizonOc.Data

def Soc.gpuVoltArray (soc : Soc) (custom : CustomizeTable) : List Word :=
  match soc with
  | .mariko => custom.marikoGpuVoltArray.toList
  | .erista => custom.eristaGpuVoltArray.toList

theorem gpuVolt_eq {soc : Soc} {custom : CustomizeTable} {index : Nat}
    (inside : index < (soc.gpuVoltArray custom).length) :
    soc.gpuVolt custom index = (soc.gpuVoltArray custom)[index] := by
  cases soc with
  | mariko =>
      have bound : index < 24 := by simpa [Soc.gpuVoltArray] using inside
      have behind : ¬27 + index < 27 := by omega
      simp [Soc.gpuVolt, Soc.gpuVoltArray, CustomizeTable.voltWord, bound, behind,
        List.getElem?_append]
  | erista =>
      have bound : index < 27 := by simpa [Soc.gpuVoltArray] using inside
      simp [Soc.gpuVolt, Soc.gpuVoltArray, CustomizeTable.voltWord, bound, List.getElem?_append]

/-- What the user's voltage makes of an entry: a manual one replaces the coefficients, and 0 (AUTO)
lowers the table's own by the common offset. -/
def CustomizeTable.gpuCoefficients (custom : CustomizeTable) (volt : Word)
    (stock : CvbCoefficients) : CvbCoefficients :=
  if volt ≠ 0 then { c0 := volt * 1000 }
  else { stock with c0 := stock.c0 - custom.commonGpuVoltOffset * 1000 }

/-- Every entry inside the voltage array has the voltage that the user asked for. -/
def GpuVoltagesSet (soc : Soc) (custom : CustomizeTable) (installed : DvfsTable) : Prop :=
  ∀ index (inside : index < (soc.gpuVoltArray custom).length),
    index < getDvfsTableEntryCount (soc.gpuCustomizeTable custom) →
      (installed index).cvbPllParam = custom.gpuCoefficients (soc.gpuVoltArray custom)[index]
        (soc.gpuCustomizeTable custom index).cvbPllParam

section

variable {soc : Soc} {custom : CustomizeTable} {index : Nat} {entry : CvbEntry}

theorem gpuEntry_coefficients :
    (soc.gpuEntry custom index entry).cvbPllParam =
      custom.gpuCoefficients (soc.gpuVolt custom index) entry.cvbPllParam := by
  unfold Soc.gpuEntry CustomizeTable.gpuCoefficients
  split <;> rfl

/-- The second subtraction shows unless the offset vanishes. -/
theorem lowered_coefficients_iff :
    (custom.lowered entry).cvbPllParam = entry.cvbPllParam ↔
      custom.commonGpuVoltOffset * 1000 = 0 := by
  constructor
  · intro same
    have lowered := congrArg CvbCoefficients.c0 same
    simp only [CustomizeTable.lowered] at lowered
    bv_omega
  · intro vanishes
    rw [CustomizeTable.lowered, vanishes, show entry.cvbPllParam.c0 - 0 =
      entry.cvbPllParam.c0 by simp]

theorem gpuInstalled_coefficients_iff :
    (soc.gpuInstalled custom index entry).cvbPllParam =
        custom.gpuCoefficients (soc.gpuVolt custom index) entry.cvbPllParam ↔
      soc.gpuUV custom ≠ 0 ∨ custom.commonGpuVoltOffset * 1000 = 0 := by
  rw [← gpuEntry_coefficients]
  by_cases again : custom.commonGpuVoltOffset ≠ 0 ∧ soc.gpuUV custom = 0
  · rw [Soc.gpuInstalled, if_pos again, lowered_coefficients_iff]
    simp [again.2]
  · rw [Soc.gpuInstalled, if_neg again]
    by_cases offset : custom.commonGpuVoltOffset = 0
    · simp [offset]
    · exact iff_of_true rfl (.inl fun stock => again ⟨offset, stock⟩)

end

/-- The table gets the voltages that the user asked for exactly when the second loop does not
subtract the offset again. -/
theorem gpuVoltages_set_iff (soc : Soc) (custom : CustomizeTable) (store : Image) (ptr : Int)
    (stock : StockTable soc.gpuDefaultTable store ptr) :
    (gpuFreqCvbTable soc custom ptr store).succeeded = true ∧
      (GpuVoltagesSet soc custom (tableAt (gpuFreqCvbTable soc custom ptr store).store.word
          (tableHead soc.gpuDefaultTable ptr)) ↔
        soc.gpuUV custom ≠ 0 ∨ custom.commonGpuVoltOffset * 1000 = 0 ∨
          getDvfsTableEntryCount (soc.gpuCustomizeTable custom) = 0) := by
  obtain ⟨final, run, entries⟩ := gpuFreqCvbTable_run custom stock
  obtain ⟨returned, stored⟩ := Prod.mk.inj run
  rw [Outcome.succeeded, returned, stored]
  refine ⟨rfl, ?_⟩
  constructor
  · intro set
    by_cases filled : 0 < getDvfsTableEntryCount (soc.gpuCustomizeTable custom)
    · have inside : 0 < (soc.gpuVoltArray custom).length := by cases soc <;> simp [Soc.gpuVoltArray]
      have first := set 0 inside filled
      rw [entries, if_pos filled, ← gpuVolt_eq inside, gpuInstalled_coefficients_iff] at first
      tauto
    · exact .inr (.inr (by omega))
  · intro once index inside below
    rw [entries, if_pos below, ← gpuVolt_eq inside, gpuInstalled_coefficients_iff]
    have filled : getDvfsTableEntryCount (soc.gpuCustomizeTable custom) ≠ 0 := by omega
    tauto

theorem gpuVoltages_set_shipped :
    (gpuFreqCvbTable .mariko shipped 1000 (stockImage Soc.mariko.gpuDefaultTable 1000)).succeeded
        = true ∧
      GpuVoltagesSet .mariko shipped (tableAt (gpuFreqCvbTable .mariko shipped 1000
        (stockImage Soc.mariko.gpuDefaultTable 1000)).store.word
          (tableHead Soc.mariko.gpuDefaultTable 1000)) := by
  have set := gpuVoltages_set_iff .mariko shipped (stockImage Soc.mariko.gpuDefaultTable 1000) 1000
    stockImage_stock
  exact ⟨set.1, set.2.mpr (.inr (.inl (by decide)))⟩

theorem gpuVoltages_offset_twice :
    ¬∀ (soc : Soc) (custom : CustomizeTable) (store : Image) (ptr : Int),
      StockTable soc.gpuDefaultTable store ptr →
        (gpuFreqCvbTable soc custom ptr store).succeeded = true →
          GpuVoltagesSet soc custom (tableAt (gpuFreqCvbTable soc custom ptr store).store.word
            (tableHead soc.gpuDefaultTable ptr)) := by
  intro set
  let custom := { shipped with commonGpuVoltOffset := 10 }
  have stock : StockTable Soc.mariko.gpuDefaultTable (stockImage Soc.mariko.gpuDefaultTable 1000)
    1000 := stockImage_stock
  obtain ⟨final, run, entries⟩ := gpuFreqCvbTable_run custom stock
  obtain ⟨returned, stored⟩ := Prod.mk.inj run
  have lowered := set .mariko custom _ 1000 stock (by rw [Outcome.succeeded, returned]; rfl) 0
    (by decide) (by decide)
  rw [stored, entries, if_pos (by decide), ← gpuVolt_eq, gpuInstalled_coefficients_iff] at lowered
  exact absurd lowered (by decide)

end HorizonOc.Loader
