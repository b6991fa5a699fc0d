import HorizonOc.Loader.CheckedVoltages
import HorizonOc.Loader.MtcTables
import HorizonOc.Loader.ScanAccesses

namespace HorizonOc.Loader

open HorizonOc.Data

/-- The four bytes of a word lie inside the image. -/
def Inside (nsoSize : Nat) (address : Int) : Prop := 0 ≤ address ∧ 4 * address + 4 ≤ nsoSize

section

variable {allowed : Int → Prop} {nsoSize : Nat} {ptr offset : Int} {store : Image}
  {fields patches : List (Int × Word)} {field : Int × Word} {compared : Patcher Bool}
  {error : LdrResult} {pattern : List Word}

theorem confined_compareFields_cons :
    Tracked.Confined allowed (compareFields ptr (field :: fields)) store ↔
      allowed (ptr + field.1) ∧ (store.word (ptr + field.1) = field.2 →
        Tracked.Confined allowed (compareFields ptr fields) store) :=
  Tracked.confined_compareEach

theorem confined_compareFields (inside : ∀ field ∈ fields, allowed (ptr + field.1)) :
    Tracked.Confined allowed (compareFields ptr fields) store := by
  apply Tracked.confined_compareEach_of_inside
  intro check member
  obtain ⟨field, listed, rfl⟩ := List.mem_map.mp member
  exact inside field listed

/-- Fields of which the first lies lowest. -/
theorem inside_compareFields (room : 4 * (ptr + marikoMtcWords) ≤ nsoSize)
    (within : ∀ other ∈ field :: fields, field.1 ≤ other.1 ∧ other.1 < marikoMtcWords) :
    Tracked.Confined (Inside nsoSize) (compareFields ptr (field :: fields)) store ↔
      0 ≤ ptr + field.1 := by
  constructor
  · intro confined
    exact (confined_compareFields_cons.mp confined).1.1
  · intro start
    apply confined_compareFields
    intro other member
    have bounds := within other member
    unfold Inside
    omega

theorem inside_comparePattern (filled : 0 < pattern.length)
    (room : 4 * (ptr + offset + pattern.length) ≤ nsoSize) :
    Tracked.Confined (Inside nsoSize) (comparePattern ptr offset pattern) store ↔
      0 ≤ ptr + offset := by
  rw [comparePattern, Tracked.confined_compareBlock]
  unfold Inside
  constructor
  · intro inside
    simpa using (inside 0 filled).1
  · intro start index below
    omega

theorem confined_patchAfter (compares : Compares ptr fields compared) :
    Tracked.Confined allowed (patchAfter compared error ptr patches) store ↔
      Tracked.Confined allowed compared store ∧
        (MatchesAt store ptr fields → ∀ patch ∈ patches, allowed (ptr + patch.1)) := by
  unfold Tracked.Confined
  by_cases matching : MatchesAt store ptr fields
  · rw [(patchAfter_of_matching compares matching).2, compares.complete store matching]
    simp only [List.mem_append, or_imp, forall_and, matching, true_imp_iff, patchWrites, addressed,
      List.forall_mem_map, Access.address]
  · rw [patchAfter_of_differing compares matching]
    simp [matching]

/-- Words that were compared are not reached for the first time when they are overwritten. -/
theorem confined_patchAfter_of_covered (here : allowed ptr)
    (compares : Compares ptr fields compared) (covered : Covered fields patches) :
    Tracked.Confined allowed (patchAfter compared error ptr patches) store ↔
      Tracked.Confined allowed compared store := by
  rw [confined_patchAfter compares]
  apply and_iff_left_of_imp
  intro confined matching patch member
  rcases covered patch member with same | inside
  · simpa [same] using here
  · obtain ⟨field, compared, same⟩ := List.mem_map.mp inside
    unfold Tracked.Confined at confined
    rw [compares.complete store matching] at confined
    rw [← same]
    apply confined (.compare (ptr + field.1) field.2)
    exact List.mem_map_of_mem (List.mem_map_of_mem compared)

end

section

variable {allowed : Int → Prop} {nsoSize : Nat} {ptr head entry : Int} {store : Image} {soc : Soc}
  {custom : CustomizeTable} {defaultTable customizeTable : DvfsTable} {error : LdrResult}

theorem confined_capCpuVolt {maxVolt : Word}
    (inside : ∀ offset : Nat, offset < cvbEntryWords → allowed (entry + offset)) :
    Tracked.Confined allowed (capCpuVolt soc maxVolt entry) store := by
  have first := inside 0 (by decide)
  have second := inside 1 (by decide)
  have c0 := inside cvbPllParamOffset (by decide)
  rw [capCpuVolt]
  simp only [Tracked.confined_bind, Tracked.confined_read]
  refine ⟨by simpa using first, fun low _ => ⟨second, fun high _ => ?_⟩⟩
  split
  · exact (Tracked.confined_write _ _).mpr c0
  · simp

theorem confined_subtractGpuVoltOffset
    (inside : ∀ offset : Nat, offset < cvbEntryWords → allowed (entry + offset)) :
    Tracked.Confined allowed (subtractGpuVoltOffset custom entry) store := by
  have c0 := inside cvbPllParamOffset (by decide)
  simp only [subtractGpuVoltOffset, Tracked.confined_bind, Tracked.confined_read,
    Tracked.confined_write]
  exact ⟨c0, fun _ _ => c0⟩

theorem confined_patchGpuVolt {index : Nat} (inside : ∀ offset : Nat, offset < cvbEntryWords →
      allowed (head + cvbEntryWords * index + offset)) :
    Tracked.Confined allowed (patchGpuVolt soc custom head index) store := by
  rw [patchGpuVolt]
  split
  · rw [Tracked.confined_bind, Tracked.confined_write, clearCvbPllEntry]
    refine ⟨inside cvbPllParamOffset (by decide), fun _ _ => ?_⟩
    rw [Tracked.confined_writeBlock]
    intro offset below
    have later := inside (cvbPllParamOffset + 1 + offset) (by
      unfold cvbPllParamOffset cvbEntryWords
      omega)
    simpa [Int.add_assoc] using later
  · exact confined_subtractGpuVoltOffset inside

/-- Entries up to the limit lie in the room that the scan reserves. -/
theorem inside_entry (start : 0 ≤ tableHead defaultTable ptr)
    (filled : 0 < getDvfsTableEntryCount defaultTable)
    (room : 4 * (ptr + marikoMtcWords) ≤ nsoSize) {index offset : Nat}
    (below : index < getDvfsTableEntryCount customizeTable) (inside : offset < cvbEntryWords) :
    Inside nsoSize (tableHead defaultTable ptr + cvbEntryWords * index + offset) := by
  have limit := getDvfsTableEntryCount_le customizeTable
  unfold Inside tableHead cvbEntryWords dvfsTableEntryLimit marikoMtcWords at *
  omega

theorem inside_installTable (filled : 0 < getDvfsTableEntryCount defaultTable)
    (room : 4 * (ptr + marikoMtcWords) ≤ nsoSize) :
    Tracked.Confined (Inside nsoSize) (installTable defaultTable customizeTable error ptr) store ↔
      0 ≤ tableHead defaultTable ptr := by
  rw [installTable, Tracked.confined_bind, Tracked.confined_compareBlock]
  constructor
  · rintro ⟨compared, -⟩
    have first := (compared 0 (Nat.mul_pos (by decide) filled)).1
    simpa using first
  · intro start
    constructor
    · intro offset below
      unfold Inside tableHead cvbEntryWords marikoMtcWords at *
      omega
    · intro validated _
      rw [Tracked.confined_bind, Tracked.confined_writeBlock]
      refine ⟨(Tracked.confined_require _ _).mpr trivial, fun _ _ offset below => ?_⟩
      have limit := getDvfsTableEntryCount_le customizeTable
      unfold Inside tableHead cvbEntryWords dvfsTableEntryLimit marikoMtcWords at *
      omega

theorem inside_cpuFreqCvbTable (filled : 0 < getDvfsTableEntryCount soc.cpuDefaultTable)
    (room : 4 * (ptr + marikoMtcWords) ≤ nsoSize) :
    Tracked.Confined (Inside nsoSize) (cpuFreqCvbTable soc custom ptr) store ↔
      0 ≤ tableHead soc.cpuDefaultTable ptr := by
  rw [cpuFreqCvbTable, Tracked.confined_bind, inside_installTable filled room]
  apply and_iff_left_of_imp
  intro start installed _
  split
  · apply Tracked.confined_forM
    intro index member after
    rw [List.mem_range] at member
    exact confined_capCpuVolt fun offset inside => inside_entry start filled room member inside
  · simp

theorem inside_gpuFreqCvbTable (filled : 0 < getDvfsTableEntryCount soc.gpuDefaultTable)
    (room : 4 * (ptr + marikoMtcWords) ≤ nsoSize) :
    Tracked.Confined (Inside nsoSize) (gpuFreqCvbTable soc custom ptr) store ↔
      0 ≤ tableHead soc.gpuDefaultTable ptr := by
  rw [gpuFreqCvbTable, Tracked.confined_bind, inside_installTable filled room]
  apply and_iff_left_of_imp
  intro start installed _
  rw [Tracked.confined_bind]
  constructor
  · apply Tracked.confined_forM
    intro index member after
    rw [List.mem_range] at member
    exact confined_patchGpuVolt fun offset inside => inside_entry start filled room member inside
  · intro _ _
    split
    · apply Tracked.confined_forM
      intro index member after
      rw [List.mem_range] at member
      exact confined_subtractGpuVoltOffset fun offset inside =>
        inside_entry start filled room member inside
    · simp

end

/-- The rates and revisions lie inside the image, as far as the check goes on. -/
def mtcFits (mtcWords : Nat) (rev : Word) (word : Int → Word) : Int → List Word → Bool
  | _, [] => true
  | ptr, khz :: rest =>
      0 ≤ ptr && (word ptr ≠ khz || (rateKhzOffset ≤ ptr && (word (ptr - rateKhzOffset) ≠ rev ||
        mtcFits mtcWords rev word (ptr - mtcWords) rest)))

section

variable {nsoSize mtcWords : Nat} {rev : Word} {ptr : Int} {rates : List Word} {store : Image}

theorem inside_validateMtcTables (room : 4 * ptr + 4 ≤ nsoSize) :
    Tracked.Confined (Inside nsoSize) (validateMtcTables mtcWords rev ptr rates) store ↔
      mtcFits mtcWords rev store.word ptr rates = true := by
  induction rates generalizing ptr with
  | nil => simp [validateMtcTables, mtcFits]
  | cons khz rest ih =>
      have lower : 4 * (ptr - mtcWords) + 4 ≤ nsoSize := by omega
      have rate : Inside nsoSize ptr ↔ 0 ≤ ptr := by
        unfold Inside
        omega
      have revision : Inside nsoSize (ptr - rateKhzOffset) ↔ rateKhzOffset ≤ ptr := by
        unfold Inside
        omega
      rw [validateMtcTables, Tracked.confined_compare_bind, Tracked.confined_require_bind,
        Tracked.confined_compare_bind, Tracked.confined_require_bind, ih lower, rate, revision,
        mtcFits]
      simp [imp_iff_not_or]

/-- Where the check comes to its end, it has gone through every table. -/
theorem mtcFits_start {word : Int → Word} (fits : mtcFits mtcWords rev word ptr rates = true)
    (backwards : RatesBackwards word mtcWords rev ptr rates) (position : Nat)
    (below : position < rates.length) : rateKhzOffset ≤ ptr - mtcWords * position := by
  induction rates generalizing ptr position with
  | nil => contradiction
  | cons khz rest ih =>
      rw [ratesBackwards_cons] at backwards
      simp only [mtcFits, backwards.1, ne_eq, not_true, decide_false, Bool.false_or,
        Bool.and_eq_true, decide_eq_true_eq] at fits
      cases position with
      | zero => simpa using fits.2.1
      | succ position =>
          have later := ih fits.2.2 backwards.2 position (by simpa using below)
          rw [Int.natCast_add, Int.mul_add]
          omega

theorem confined_autoAdjust {allowed : Int → Prop} {size : Nat}
    {adjust : MtcTable size → MtcTable size} {table : Int} :
    Tracked.Confined allowed (autoAdjust adjust table) store ↔
      ∀ offset < size, allowed (table + offset) := by
  rw [autoAdjust, Tracked.confined_bind_of_ok rfl, Tracked.confined_readBlock,
    Tracked.confined_writeBlock, and_self]

theorem validated_of_ok {value : PUnit}
    (returned : (validateMtcTables mtcWords rev ptr rates store).result = .ok value) :
    RatesBackwards store.word mtcWords rev ptr rates := by
  by_contra differs
  have failed := (validateMtcTables_run mtcWords rev ptr rates store).2 differs
  rw [(Prod.mk.inj failed).1] at returned
  contradiction

end

section

variable {allowed : Int → Prop} {nsoSize : Nat} {ptr entry : Int} {store : Image} {soc : Soc}
  {custom : CustomizeTable}

theorem inside_forward (start : 0 ≤ ptr) (room : 4 * (ptr + marikoMtcWords) ≤ nsoSize)
    {offset : Int} (low : 0 ≤ offset) (high : offset < marikoMtcWords) :
    Inside nsoSize (ptr + offset) := by
  unfold Inside
  omega

theorem confined_gpuFreqMaxAsm (first : allowed ptr) (second : allowed (ptr + 1)) :
    Tracked.Confined allowed (gpuFreqMaxAsm soc custom ptr) store := by
  rw [gpuFreqMaxAsm, Tracked.confined_read_bind, Tracked.confined_read_bind,
    Tracked.confined_require_bind]
  refine ⟨first, second, fun _ => ?_⟩
  split
  · simp
  · rw [Tracked.confined_write_bind, Tracked.confined_write]
    exact ⟨first, second⟩

theorem confined_gpuFreqPllMax (first : allowed ptr)
    (inside : ∀ field ∈ fieldsFrom 1 (List.replicate (clkPllParamWords - 1) 0),
      allowed (ptr + field.1)) :
    Tracked.Confined allowed (gpuFreqPllMax ptr) store := by
  rw [gpuFreqPllMax, Tracked.confined_bind]
  refine ⟨confined_compareFields inside, fun zeros _ => ?_⟩
  rw [Tracked.confined_require_bind, Tracked.confined_read_bind, Tracked.confined_write]
  exact fun _ => ⟨first, first⟩

theorem confined_memFreqPllmLimit (first : allowed ptr) (vcoMax : allowed (ptr + vcoMaxOffset)) :
    Tracked.Confined allowed (memFreqPllmLimit ptr) store := by
  rw [memFreqPllmLimit, Tracked.confined_read_bind, Tracked.confined_read_bind,
    Tracked.confined_require_bind, Tracked.confined_write_bind, Tracked.confined_write]
  exact ⟨first, vcoMax, fun _ => ⟨first, vcoMax⟩⟩

/-- The 64-bit id is compared first, and lies lowest. -/
theorem inside_validateRegulator {id : Word} {fields : List (Int × Word)}
    (room : 4 * (entry + marikoMtcWords) ≤ nsoSize)
    (within : ∀ field ∈ fields, 0 ≤ field.1 ∧ field.1 < marikoMtcWords) :
    Tracked.Confined (Inside nsoSize) (validateRegulator entry id fields) store ↔ 0 ≤ entry := by
  rw [validateRegulator, Tracked.confined_bind, Tracked.confined_compareBlock]
  constructor
  · rintro ⟨compared, -⟩
    have first := (compared 0 (by decide)).1
    simpa using first
  · intro start
    constructor
    · intro offset below
      exact inside_forward start room (by omega) (by unfold marikoMtcWords; omega)
    · intro same _
      split
      · apply confined_compareFields
        intro field member
        exact inside_forward start room (within field member).1 (within field member).2
      · simp

/-- A regulator with the 64-bit id and the fields that are checked. -/
def RegulatorAt (store : Image) (entry : Int) (id : Word) (fields : List (Int × Word)) : Prop :=
  (∀ offset : Nat, offset < 2 → store.word (entry + offset) = if offset = 0 then id else 0) ∧
    MatchesAt store entry fields

instance (store : Image) (entry : Int) (id : Word) (fields : List (Int × Word)) :
    Decidable (RegulatorAt store entry id fields) :=
  inferInstanceAs (Decidable ((∀ offset : Nat, offset < 2 → _) ∧ _))

theorem validateRegulator_run (entry : Int) (id : Word) (fields : List (Int × Word))
    (store : Image) :
    Tracked.run (validateRegulator entry id fields) store =
      (.ok (decide (RegulatorAt store entry id fields)), store) := by
  have compared : Tracked.run (Tracked.compareBlock entry 2 fun offset =>
      if offset = 0 then id else 0 : Patcher Bool) store = (.ok (decide (∀ offset : Nat,
        offset < 2 → store.word (entry + offset) = if offset = 0 then id else 0)), store) := rfl
  rw [validateRegulator, Tracked.run_bind_of_ok compared]
  by_cases same : ∀ offset : Nat, offset < 2 →
      store.word (entry + offset) = if offset = 0 then id else 0
  · have fieldsLeft : RegulatorAt store entry id fields ↔ MatchesAt store entry fields :=
      and_iff_right same
    rw [decide_eq_true same, if_pos rfl]
    simp only [fieldsLeft]
    exact (compareFields_compares entry fields).run store
  · have another : ¬RegulatorAt store entry id fields := fun stock => same stock.1
    rw [decide_eq_false same, if_neg Bool.false_ne_true, decide_eq_false another]
    rfl

theorem inside_memVoltHandler (start : 0 ≤ ptr) (room : 4 * (ptr + marikoMtcWords) ≤ nsoSize) :
    Tracked.Confined (Inside nsoSize) (memVoltHandler custom ptr) store ↔ 9 ≤ ptr := by
  have within : ∀ field ∈ [((4 : Int), (1 : Word)), (5, 0x17), (6, 12500), (7, 600000)],
      0 ≤ field.1 ∧ field.1 < marikoMtcWords := by decide
  obtain ⟨firstResult, firstStore⟩ := Prod.mk.inj (validateRegulator_run (ptr - 8) 1
    [(4, 1), (5, 0x17), (6, 12500), (7, 600000)] store)
  obtain ⟨secondResult, secondStore⟩ := Prod.mk.inj (validateRegulator_run (ptr - 9) 1
    [(4, 1), (5, 0x17), (6, 12500), (7, 600000)] store)
  have here : Inside nsoSize ptr := by
    unfold Inside marikoMtcWords at *
    omega
  rw [memVoltHandler, Tracked.confined_bind_of_ok firstResult,
    inside_validateRegulator (by omega) within, firstStore,
    Tracked.confined_bind_of_ok secondResult, inside_validateRegulator (by omega) within,
    secondStore, Tracked.confined_require_bind]
  constructor
  · rintro ⟨-, reached, -⟩
    omega
  · intro reached
    refine ⟨by omega, by omega, fun _ => ?_⟩
    dsimp only
    split
    · simp
    · exact (Tracked.confined_write _ _).mpr here

end

end HorizonOc.Loader
