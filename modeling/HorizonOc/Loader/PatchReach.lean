import HorizonOc.Loader.Reach

namespace HorizonOc.Loader

open HorizonOc.Data

def reaches (back : Int) (ptr : Int) (_ : Image) : Bool := back ≤ ptr

def anywhere (_ : Int) (_ : Image) : Bool := true

/-- The stock table that would end at a position begins inside the image. -/
def headFits (defaultTable : DvfsTable) (ptr : Int) (_ : Image) : Bool :=
  0 ≤ tableHead defaultTable ptr

/-- How far back each patcher of `mariko::Patch` goes. -/
def Mariko.fits (custom : CustomizeTable) : List (Int → Image → Bool) :=
  [reaches 6, headFits cpuCvbTableDefault, reaches 2,
   fun ptr store => !(MatchesAt store ptr (fieldsFrom 0 cpuVoltThermalData) &&
    custom.marikoCpuMaxVolt ≠ 0) || 5 ≤ ptr,
   anywhere, anywhere, reaches 3, headFits gpuCvbTableDefault, anywhere, anywhere, reaches 1,
   fun ptr store => mtcFits marikoMtcWords mtcTableRev store.word ptr khzList,
   reaches 30, anywhere, anywhere, reaches 11, reaches 9]

/-- How far back each patcher of `erista::Patch` goes. -/
def Erista.fits (custom : CustomizeTable) : List (Int → Image → Bool) :=
  [headFits cpuCvbTableDefault,
   fun ptr store => !(MatchesAt store ptr (fieldsFrom 5 cpuVoltDvfsPattern) &&
    custom.eristaCpuUV ≠ 0) || 2 ≤ ptr,
   reaches 6, anywhere, anywhere, reaches 3, headFits gpuCvbTableDefault, anywhere, anywhere,
   fun ptr store => getMaxOfArr store.rest.maxEmcClocks ≤ emcClkOSLimit ||
    mtcFits eristaMtcWords mtcTableRev store.word ptr khzList.reverse,
   anywhere, anywhere, reaches 9]

/-- At every position of the scan the patcher stays inside the image exactly where it fits. -/
def Exact (nsoSize mtcWords : Nat) (patcher : Int → Patcher PUnit) (fits : Int → Image → Bool) :
    Prop :=
  ∀ (ptr : Int) (store : Image), 0 ≤ ptr → 4 * (ptr + mtcWords) ≤ nsoSize →
    (Tracked.Confined (Inside nsoSize) (patcher ptr) store ↔ fits ptr store = true)

section

variable {nsoSize : Nat} {soc : Soc} {custom : CustomizeTable} {platform : Platform}

theorem patchesOf_all {value : Word} {offsets : List Int} (holds : Int → Prop)
    (all : ∀ offset ∈ offsets, holds offset) : ∀ patch ∈ patchesOf value offsets, holds patch.1 := by
  by_cases unset : value = 0
  · simp [patchesOf, unset]
  · rw [patchesOf, if_neg unset]
    exact List.forall_mem_map.mpr all

theorem reaches_iff {back ptr : Int} {store : Image} : reaches back ptr store = true ↔ back ≤ ptr :=
  decide_eq_true_iff

/-- A patcher whose comparison decides what it reaches. -/
theorem exact_patchAfter {mtcWords : Nat} {compared : Int → Patcher Bool} {error : LdrResult}
    {fields patches : List (Int × Word)} {fits : Int → Image → Bool}
    (large : marikoMtcWords ≤ mtcWords) (compares : ∀ ptr, Compares ptr fields (compared ptr))
    (covered : Covered fields patches)
    (comparison : ∀ (ptr : Int) store, 0 ≤ ptr → 4 * (ptr + marikoMtcWords) ≤ nsoSize →
      (Tracked.Confined (Inside nsoSize) (compared ptr) store ↔ fits ptr store = true)) :
    Exact nsoSize mtcWords (fun ptr => patchAfter (compared ptr) error ptr patches) fits := by
  intro ptr store start room
  have here : Inside nsoSize ptr := by
    unfold Inside marikoMtcWords at *
    omega
  rw [confined_patchAfter_of_covered here (compares ptr) covered]
  exact comparison ptr store start (by omega)

theorem exact_cpuFreqCvbTable {mtcWords : Nat} (large : marikoMtcWords ≤ mtcWords) :
    Exact nsoSize mtcWords (cpuFreqCvbTable soc custom) (headFits soc.cpuDefaultTable) := by
  intro ptr store start room
  have filled : 0 < getDvfsTableEntryCount soc.cpuDefaultTable := by
    cases soc <;> decide +kernel
  rw [inside_cpuFreqCvbTable filled (by omega)]
  exact decide_eq_true_iff.symm

theorem exact_gpuFreqCvbTable {mtcWords : Nat} (large : marikoMtcWords ≤ mtcWords) :
    Exact nsoSize mtcWords (gpuFreqCvbTable soc custom) (headFits soc.gpuDefaultTable) := by
  intro ptr store start room
  have filled : 0 < getDvfsTableEntryCount soc.gpuDefaultTable := by
    cases soc <;> decide +kernel
  rw [inside_gpuFreqCvbTable filled (by omega)]
  exact decide_eq_true_iff.symm

theorem exact_gpuFreqMaxAsm {mtcWords : Nat} (large : marikoMtcWords ≤ mtcWords) :
    Exact nsoSize mtcWords (gpuFreqMaxAsm soc custom) anywhere := by
  intro ptr store start room
  apply iff_of_true _ rfl
  apply confined_gpuFreqMaxAsm
  · unfold Inside marikoMtcWords at *
    omega
  · exact inside_forward start (by omega) (by decide) (by decide)

theorem exact_gpuFreqPllMax {mtcWords : Nat} (large : marikoMtcWords ≤ mtcWords) :
    Exact nsoSize mtcWords gpuFreqPllMax anywhere := by
  intro ptr store start room
  have within : ∀ field ∈ fieldsFrom 1 (List.replicate (clkPllParamWords - 1) 0),
      0 ≤ field.1 ∧ field.1 < marikoMtcWords := by decide
  apply iff_of_true _ rfl
  apply confined_gpuFreqPllMax
  · unfold Inside marikoMtcWords at *
    omega
  · intro field member
    exact inside_forward start (by omega) (within field member).1 (within field member).2

theorem exact_memFreqPllmLimit {mtcWords : Nat} (large : marikoMtcWords ≤ mtcWords) :
    Exact nsoSize mtcWords memFreqPllmLimit anywhere := by
  intro ptr store start room
  apply iff_of_true _ rfl
  apply confined_memFreqPllmLimit
  · unfold Inside marikoMtcWords at *
    omega
  · exact inside_forward start (by omega) (by decide) (by decide)

theorem exact_memVoltHandler {mtcWords : Nat} (large : marikoMtcWords ≤ mtcWords) :
    Exact nsoSize mtcWords (memVoltHandler custom) (reaches 9) := by
  intro ptr store start room
  rw [inside_memVoltHandler start (by omega), reaches_iff]

end

namespace Mariko

section

variable {nsoSize : Nat} {custom : CustomizeTable} {platform : Platform}

theorem exact_cpuFreqVdd : Exact nsoSize marikoMtcWords (cpuFreqVdd custom) (reaches 6) := by
  intro ptr store start room
  have here : Inside nsoSize ptr := by
    unfold Inside marikoMtcWords at *
    omega
  have rail : Tracked.Confined (Inside nsoSize) (compareFields (ptr - 6) cpuRailStock) store ↔
      0 ≤ ptr - 6 + 0 := inside_compareFields (by omega) (by decide)
  rw [cpuFreqVdd, Tracked.confined_bind, rail, reaches_iff]
  constructor
  · rintro ⟨reached, -⟩
    omega
  · intro reached
    refine ⟨by omega, fun matched _ => ?_⟩
    rw [Tracked.confined_require_bind]
    intro _
    split
    · exact (Tracked.confined_write _ _).mpr here
    · split
      · simp
      · exact (Tracked.confined_write _ _).mpr here

theorem exact_cpuVoltDVFS : Exact nsoSize marikoMtcWords (cpuVoltDVFS custom) (reaches 2) := by
  apply exact_patchAfter (Nat.le_refl _) (fun ptr => compareFields_compares ptr _)
    cpuVoltDVFS_covered
  intro ptr store start room
  have compared : Tracked.Confined (Inside nsoSize)
      (compareFields ptr (cpuVoltagePatchOffsets.zip cpuVoltagePatchValues)) store ↔
        0 ≤ ptr + -2 := inside_compareFields room (by decide)
  rw [compared, reaches_iff]
  omega

theorem exact_cpuVoltThermals :
    Exact nsoSize marikoMtcWords (cpuVoltThermals custom) fun ptr store =>
      !(MatchesAt store ptr (fieldsFrom 0 cpuVoltThermalData) && custom.marikoCpuMaxVolt ≠ 0) ||
        5 ≤ ptr := by
  intro ptr store start room
  have pattern : Tracked.Confined (Inside nsoSize) (comparePattern ptr 0 cpuVoltThermalData)
      store ↔ 0 ≤ ptr + 0 := by
    have short : cpuVoltThermalData.length ≤ marikoMtcWords := by decide
    exact inside_comparePattern (by decide) (by omega)
  have low : ∀ patch ∈ patchesOf custom.marikoCpuLowVmin [0, 3], Inside nsoSize (ptr + patch.1) := by
    have bounds : ∀ offset ∈ [(0 : Int), 3], 0 ≤ offset ∧ offset < marikoMtcWords := by decide
    exact patchesOf_all (fun offset => Inside nsoSize (ptr + offset)) fun offset member =>
      inside_forward start room (bounds offset member).1 (bounds offset member).2
  have high : (∀ patch ∈ patchesOf custom.marikoCpuMaxVolt [-2, -5, 1, 4],
      Inside nsoSize (ptr + patch.1)) ↔ (custom.marikoCpuMaxVolt ≠ 0 → 5 ≤ ptr) := by
    constructor
    · intro inside set
      rw [patchesOf, if_neg set] at inside
      have lowest := (inside (-5, custom.marikoCpuMaxVolt) (by simp)).1
      omega
    · intro reached
      by_cases set : custom.marikoCpuMaxVolt = 0
      · simp [patchesOf, set]
      · have bounds : ∀ offset ∈ [(-2 : Int), -5, 1, 4], -5 ≤ offset ∧ offset < 5 := by decide
        refine patchesOf_all (fun offset => Inside nsoSize (ptr + offset)) fun offset member => ?_
        have within := bounds offset member
        have back := reached set
        unfold Inside marikoMtcWords at *
        omega
  rw [cpuVoltThermals, confined_patchAfter (comparePattern_compares ptr 0 _), pattern]
  simp only [List.mem_append, or_imp, forall_and, and_iff_right low, high]
  by_cases matching : MatchesAt store ptr (fieldsFrom 0 cpuVoltThermalData)
  · simp [matching, start, imp_iff_not_or]
  · simp [matching, start]

theorem exact_cpuVoltDfll : Exact nsoSize marikoMtcWords (cpuVoltDfll custom) anywhere := by
  apply exact_patchAfter (Nat.le_refl _) (fun ptr => compareFields_compares ptr _)
    (dfllPatches_covered _ _)
  intro ptr store start room
  have compared : Tracked.Confined (Inside nsoSize)
      (compareFields ptr (fieldsFrom 0 dfllStock)) store ↔ 0 ≤ ptr + (0 + (0 : Nat)) :=
    inside_compareFields room (by decide)
  rw [compared]
  exact iff_of_true (by omega) rfl

theorem exact_gpuVoltDVFS : Exact nsoSize marikoMtcWords (gpuVoltDVFS custom) anywhere := by
  apply exact_patchAfter (Nat.le_refl _) (fun ptr => compareFields_compares ptr _)
    gpuVoltDVFS_covered
  intro ptr store start room
  have compared : Tracked.Confined (Inside nsoSize)
      (compareFields ptr (fieldsFrom 1 gpuDVFSPattern)) store ↔ 0 ≤ ptr + (1 + (0 : Nat)) :=
    inside_compareFields room (by decide)
  rw [compared]
  exact iff_of_true (by omega) rfl

theorem exact_gpuVoltThermals :
    Exact nsoSize marikoMtcWords (gpuVoltThermals custom) (reaches 3) := by
  apply exact_patchAfter (Nat.le_refl _) (fun ptr => comparePattern_compares ptr (-3) _)
    gpuVoltThermals_covered
  intro ptr store start room
  have short : gpuVoltThermalPattern.length ≤ marikoMtcWords := by decide
  rw [inside_comparePattern (by decide) (by omega), reaches_iff]
  omega

theorem exact_gpuFreqPllLimit : Exact nsoSize marikoMtcWords gpuFreqPllLimit (reaches 1) := by
  intro ptr store start room
  rw [gpuFreqPllLimit, Tracked.confined_read_bind, Tracked.confined_require_bind,
    Tracked.confined_write, reaches_iff]
  unfold Inside marikoMtcWords at *
  constructor
  · rintro ⟨reached, -⟩
    omega
  · intro reached
    exact ⟨by omega, fun _ => by omega⟩

theorem exact_memFreqMtcTable :
    Exact nsoSize marikoMtcWords (memFreqMtcTable platform custom) fun ptr store =>
      mtcFits marikoMtcWords mtcTableRev store.word ptr khzList := by
  intro ptr store start room
  have here : 4 * ptr + 4 ≤ nsoSize := by
    unfold marikoMtcWords at room
    omega
  rw [memFreqMtcTable, Tracked.confined_bind, inside_validateMtcTables here]
  apply and_iff_left_of_imp
  intro fits value validated
  have first := mtcFits_start fits (validated_of_ok validated) 2 (by decide)
  have table (index : Nat) (below : index ≤ 1) (offset : Nat) (inside : offset < marikoMtcWords) :
      Inside nsoSize (ptr - rateKhzOffset - marikoMtcWords * index + offset) := by
    unfold Inside rateKhzOffset marikoMtcWords at *
    omega
  have highest (offset : Nat) (inside : offset < marikoMtcWords) :
      Inside nsoSize (ptr - rateKhzOffset + offset) := by
    simpa using table 0 (by decide) offset inside
  have next (offset : Nat) (inside : offset < marikoMtcWords) :
      Inside nsoSize (ptr - rateKhzOffset - marikoMtcWords + offset) := by
    simpa using table 1 (by decide) offset inside
  split
  · simp
  · dsimp only
    rw [Tracked.confined_bind_of_ok rfl, Tracked.confined_readBlock, Tracked.confined_bind,
      confined_autoAdjust]
    refine ⟨highest, highest, fun _ _ => ?_⟩
    rw [Tracked.confined_bind, Tracked.confined_writeBlock, Tracked.confined_write]
    refine ⟨next, fun _ _ => ?_⟩
    unfold Inside marikoMtcWords at *
    omega

theorem exact_memFreqDvbTable :
    Exact nsoSize marikoMtcWords (memFreqDvbTable custom) (reaches 30) := by
  intro ptr store start room
  have size : emcDvbTableDefault.length = 36 := rfl
  rw [memFreqDvbTable, Tracked.confined_bind, inside_comparePattern (by decide) (by
    unfold dvbEntryWords marikoMtcWords at *
    omega), reaches_iff]
  constructor
  · rintro ⟨reached, -⟩
    unfold dvbEntryWords at reached
    omega
  · intro reached
    refine ⟨by unfold dvbEntryWords; omega, fun validated _ => ?_⟩
    rw [Tracked.confined_require_bind]
    intro _
    split
    · simp
    · rw [Tracked.confined_bind, Tracked.confined_writeBlock]
      constructor
      · rw [addDvbEntry]
        split
        · rw [Tracked.confined_copyBlock]
          unfold Inside dvbEntryWords marikoMtcWords at *
          exact ⟨by omega, by omega⟩
        · rw [Tracked.confined_writeBlock]
          unfold Inside dvbEntryWords marikoMtcWords at *
          omega
      · intro _ _ offset below
        unfold Inside dvbEntryWords marikoMtcWords at *
        omega

theorem exact_memFreqMax : Exact nsoSize marikoMtcWords (memFreqMax custom) anywhere := by
  intro ptr store start room
  apply iff_of_true _ rfl
  rw [memFreqMax]
  split
  · simp
  · rw [Tracked.confined_write]
    unfold Inside marikoMtcWords at *
    omega

theorem exact_emcVddqVolt :
    Exact nsoSize marikoMtcWords (emcVddqVolt platform custom) (reaches 11) := by
  intro ptr store start room
  have within : ∀ field ∈ [((4 : Int), (3 : Word)), (6, 5000), (8, 250000)],
      0 ≤ field.1 ∧ field.1 < marikoMtcWords := by decide
  have here : Inside nsoSize ptr := by
    unfold Inside marikoMtcWords at *
    omega
  rw [emcVddqVolt, Tracked.confined_bind, inside_validateRegulator (by omega) within, reaches_iff]
  constructor
  · rintro ⟨reached, -⟩
    omega
  · intro reached
    refine ⟨by omega, fun matched _ => ?_⟩
    rw [Tracked.confined_require_bind]
    intro _
    dsimp only
    split
    · simp
    · rw [Tracked.confined_write_bind, Tracked.confined_getRest_bind, Tracked.confined_setRest_bind]
      exact ⟨here, (Tracked.confined_require _ _).mpr trivial⟩

end

end Mariko

namespace Erista

section

variable {nsoSize : Nat} {custom : CustomizeTable} {platform : Platform} {allowed : Int → Prop}
  {ptr : Int}

theorem exact_cpuVoltDvfs :
    Exact nsoSize eristaMtcWords (cpuVoltDvfs custom) fun ptr store =>
      !(MatchesAt store ptr (fieldsFrom 5 cpuVoltDvfsPattern) && custom.eristaCpuUV ≠ 0) ||
        2 ≤ ptr := by
  intro ptr store start room
  have reserved : 4 * (ptr + marikoMtcWords) ≤ nsoSize := by
    unfold marikoMtcWords eristaMtcWords at *
    omega
  have pattern : Tracked.Confined (Inside nsoSize) (comparePattern ptr 5 cpuVoltDvfsPattern)
      store ↔ 0 ≤ ptr + 5 := by
    have short : 5 + cpuVoltDvfsPattern.length ≤ marikoMtcWords := by decide
    exact inside_comparePattern (by decide) (by omega)
  have forward (value : Word) (offset : Int) (low : 0 ≤ offset) (high : offset < marikoMtcWords) :
      ∀ patch ∈ patchesOf value [offset], Inside nsoSize (ptr + patch.1) := by
    refine patchesOf_all (fun offset => Inside nsoSize (ptr + offset)) fun other member => ?_
    rw [List.mem_singleton.mp member]
    exact inside_forward start reserved low high
  have back : (∀ patch ∈ if custom.eristaCpuUV ≠ 0 then [(-2, custom.eristaCpuVmin)] else [],
      Inside nsoSize (ptr + patch.1)) ↔ (custom.eristaCpuUV ≠ 0 → 2 ≤ ptr) := by
    by_cases undervolted : custom.eristaCpuUV ≠ 0
    · rw [if_pos undervolted, List.forall_mem_singleton]
      unfold Inside marikoMtcWords at *
      constructor
      · intro inside _
        omega
      · intro reached
        have far := reached undervolted
        omega
    · rw [if_neg undervolted]
      exact iff_of_true (fun _ member => absurd member List.not_mem_nil) fun set =>
        absurd set undervolted
  rw [cpuVoltDvfs, confined_patchAfter (comparePattern_compares ptr 5 _), pattern]
  simp only [List.mem_append, or_imp, forall_and,
    and_iff_right (forward _ 0 (by decide) (by decide)),
    and_iff_left (forward _ 5 (by decide) (by decide)), back]
  by_cases matching : MatchesAt store ptr (fieldsFrom 5 cpuVoltDvfsPattern)
  · simp [matching, show 0 ≤ ptr + 5 by omega, imp_iff_not_or]
  · simp [matching, show 0 ≤ ptr + 5 by omega]

theorem exact_cpuVoltThermals :
    Exact nsoSize eristaMtcWords (cpuVoltThermals custom) (reaches 6) := by
  apply exact_patchAfter (by decide) (fun ptr => comparePattern_compares ptr (-6) _)
    cpuVoltThermals_covered
  intro ptr store start room
  have short : cpuVoltageThermalPattern.length ≤ marikoMtcWords := by decide
  rw [inside_comparePattern (by decide) (by omega), reaches_iff]
  omega

theorem exact_cpuVoltDfll : Exact nsoSize eristaMtcWords (cpuVoltDfll custom) anywhere := by
  apply exact_patchAfter (by decide) (fun ptr => compareFields_compares ptr _)
    (dfllPatches_covered _)
  intro ptr store start room
  have compared : Tracked.Confined (Inside nsoSize)
      (compareFields ptr (fieldsFrom 0 dfllStock)) store ↔ 0 ≤ ptr + (0 + (0 : Nat)) :=
    inside_compareFields room (by decide)
  rw [compared]
  exact iff_of_true (by omega) rfl

theorem exact_gpuVoltDVFS : Exact nsoSize eristaMtcWords (gpuVoltDVFS custom) anywhere := by
  apply exact_patchAfter (by decide) (fun ptr => comparePattern_compares ptr 0 _)
    gpuVoltDVFS_covered
  intro ptr store start room
  have short : gpuVoltDvfsPattern.length ≤ marikoMtcWords := by decide
  rw [inside_comparePattern (by decide) (by omega)]
  exact iff_of_true (by omega) rfl

theorem exact_gpuVoltThermals :
    Exact nsoSize eristaMtcWords (gpuVoltThermals custom) (reaches 3) := by
  apply exact_patchAfter (by decide) (fun ptr => comparePattern_compares ptr (-3) _)
    gpuVoltThermals_covered
  intro ptr store start room
  have short : gpuVoltThermalPattern.length ≤ marikoMtcWords := by decide
  rw [inside_comparePattern (by decide) (by omega), reaches_iff]
  omega

/-- Scaling stays inside the ten tables. -/
theorem confined_scaleTables (tables : ∀ index ≤ 9, ∀ offset < eristaMtcWords,
      allowed (mtcTable ptr index + offset)) (clocks : List Word) (remaining : Nat)
    (store : Image) :
    Tracked.Confined allowed (scaleTables platform ptr remaining clocks) store := by
  induction clocks generalizing remaining store with
  | nil => cases remaining <;> simp [scaleTables]
  | cons clock rest ih =>
      cases remaining with
      | zero => simp [scaleTables]
      | succ remaining =>
          have last : khzList.length - (remaining + 1) ≤ 9 := by
            rw [show khzList.length = 10 from rfl]
            omega
          rw [scaleTables]
          split
          · exact ih _ _
          · dsimp only
            rw [Tracked.confined_write_bind, Tracked.confined_bind, confined_autoAdjust]
            exact ⟨tables _ last rateKhzOffset (by decide), tables _ last, fun _ _ => ih _ _⟩

theorem exact_memFreqMtcTable :
    Exact nsoSize eristaMtcWords (memFreqMtcTable platform) fun ptr store =>
      getMaxOfArr store.rest.maxEmcClocks ≤ emcClkOSLimit ||
        mtcFits eristaMtcWords mtcTableRev store.word ptr khzList.reverse := by
  intro ptr store start room
  have here : 4 * ptr + 4 ≤ nsoSize := by
    unfold eristaMtcWords at room
    omega
  rw [memFreqMtcTable, Tracked.confined_getRest_bind]
  by_cases stock : getMaxOfArr store.rest.maxEmcClocks ≤ emcClkOSLimit
  · simp [stock]
  · rw [if_neg stock]
    dsimp only
    rw [Tracked.confined_setRest_bind, Tracked.confined_bind, inside_validateMtcTables here]
    simp only [stock, decide_false, Bool.false_or]
    apply and_iff_left_of_imp
    intro fits value validated
    have backwards := validated_of_ok validated
    have first := mtcFits_start fits backwards 9 (by decide)
    have size : khzList.length = 10 := rfl
    have tables (index : Nat) (below : index ≤ 9) (offset : Nat) (inside : offset < eristaMtcWords) :
        Inside nsoSize (mtcTable ptr index + offset) := by
      rw [mtcTable_eq]
      unfold Inside mtcAddress rateKhzOffset eristaMtcWords at *
      omega
    rw [Tracked.confined_setRest_bind, Tracked.confined_bind, Tracked.confined_copyBlock]
    refine ⟨⟨?_, ?_⟩, fun _ _ => ?_⟩
    · intro offset below
      rw [mtcTable_eq]
      unfold Inside mtcAddress rateKhzOffset eristaMtcWords at *
      omega
    · intro offset below
      rw [mtcTable_eq]
      unfold Inside mtcAddress rateKhzOffset eristaMtcWords at *
      omega
    · rw [Tracked.confined_bind]
      constructor
      · apply Tracked.confined_forM
        intro index member after
        rw [Tracked.confined_copyBlock]
        exact ⟨tables _ (by omega), tables _ (by omega)⟩
      · exact fun _ _ => confined_scaleTables tables _ _ _

theorem exact_memFreqMax : Exact nsoSize eristaMtcWords memFreqMax anywhere := by
  intro ptr store start room
  apply iff_of_true _ rfl
  rw [memFreqMax, Tracked.confined_getRest_bind]
  split
  · simp
  · rw [Tracked.confined_write]
    unfold Inside eristaMtcWords at *
    omega

end

end Erista

def Soc.mtcWords : Soc → Nat
  | .mariko => marikoMtcWords
  | .erista => eristaMtcWords

def Soc.patches (soc : Soc) (platform : Platform) (custom : CustomizeTable) : List PatcherEntry :=
  match soc with
  | .mariko => Mariko.patches platform custom
  | .erista => Erista.patches platform custom

def Soc.fits (soc : Soc) (custom : CustomizeTable) : List (Int → Image → Bool) :=
  match soc with
  | .mariko => Mariko.fits custom
  | .erista => Erista.fits custom

def Soc.fittedPatches (soc : Soc) (platform : Platform) (custom : CustomizeTable) :
    List FittedEntry :=
  List.zipWith FittedEntry.mk (soc.patches platform custom) (soc.fits custom)

/-- No access leaves the image, and the bound of the scan does not wrap around. -/
def PatchStaysInside (soc : Soc) (platform : Platform) (custom : CustomizeTable) (store : Image)
    (mappedNso nsoSize : Nat) : Prop :=
  4 * soc.mtcWords ≤ mappedNso + nsoSize ∧
    Tracked.Confined (Inside nsoSize)
      (patch (soc.patches platform custom) mappedNso nsoSize soc.mtcWords) store

section

variable {soc : Soc} {platform : Platform} {custom : CustomizeTable} {mappedNso nsoSize : Nat}

theorem fittedPatches_entry :
    (soc.fittedPatches platform custom).map FittedEntry.entry = soc.patches platform custom := by
  cases soc with
  | mariko => rfl
  | erista => rfl

theorem fittedPatches_exact {fitted : FittedEntry}
    (member : fitted ∈ soc.fittedPatches platform custom) :
    Exact nsoSize soc.mtcWords fitted.entry.patcher fitted.fits := by
  cases soc with
  | mariko =>
      simp only [Soc.fittedPatches, Soc.patches, Mariko.patches, Mariko.voltagePatches, Soc.fits,
        Mariko.fits, List.cons_append, List.nil_append, List.zipWith_cons_cons, List.zipWith_nil_left,
        List.mem_cons, List.not_mem_nil, or_false] at member
      rcases member with rfl | rfl | rfl | rfl | rfl | rfl | rfl | rfl | rfl | rfl | rfl | rfl |
        rfl | rfl | rfl | rfl | rfl
      · exact Mariko.exact_cpuFreqVdd
      · exact exact_cpuFreqCvbTable (Nat.le_refl _)
      · exact Mariko.exact_cpuVoltDVFS
      · exact Mariko.exact_cpuVoltThermals
      · exact Mariko.exact_cpuVoltDfll
      · exact Mariko.exact_gpuVoltDVFS
      · exact Mariko.exact_gpuVoltThermals
      · exact exact_gpuFreqCvbTable (Nat.le_refl _)
      · exact exact_gpuFreqMaxAsm (Nat.le_refl _)
      · exact exact_gpuFreqPllMax (Nat.le_refl _)
      · exact Mariko.exact_gpuFreqPllLimit
      · exact Mariko.exact_memFreqMtcTable
      · exact Mariko.exact_memFreqDvbTable
      · exact Mariko.exact_memFreqMax
      · exact exact_memFreqPllmLimit (Nat.le_refl _)
      · exact Mariko.exact_emcVddqVolt
      · exact exact_memVoltHandler (Nat.le_refl _)
  | erista =>
      have large : marikoMtcWords ≤ eristaMtcWords := by decide
      simp only [Soc.fittedPatches, Soc.patches, Erista.patches, Erista.voltagePatches, Soc.fits,
        Erista.fits, List.cons_append, List.nil_append, List.zipWith_cons_cons, List.zipWith_nil_left,
        List.mem_cons, List.not_mem_nil, or_false] at member
      rcases member with rfl | rfl | rfl | rfl | rfl | rfl | rfl | rfl | rfl | rfl | rfl | rfl | rfl
      · exact exact_cpuFreqCvbTable large
      · exact Erista.exact_cpuVoltDvfs
      · exact Erista.exact_cpuVoltThermals
      · exact Erista.exact_cpuVoltDfll
      · exact Erista.exact_gpuVoltDVFS
      · exact Erista.exact_gpuVoltThermals
      · exact exact_gpuFreqCvbTable large
      · exact exact_gpuFreqMaxAsm large
      · exact exact_gpuFreqPllMax large
      · exact Erista.exact_memFreqMtcTable
      · exact Erista.exact_memFreqMax
      · exact exact_memFreqPllmLimit large
      · exact exact_memVoltHandler large

/-- The scan reserves the room of one timing table, unless its bound wraps around. -/
theorem scanPositions_room {mtcWords position : Nat} (mapped : mappedNso + nsoSize ≤ 2 ^ 64)
    (unwrapped : 4 * mtcWords ≤ mappedNso + nsoSize)
    (below : position < scanPositions mappedNso nsoSize mtcWords) :
    4 * (position + mtcWords) ≤ nsoSize := by
  unfold scanPositions at below
  dsimp only at below
  split at below
  · contradiction
  · omega

end

/-- `Patch` stays inside the image exactly when its bound does not wrap around and every patcher
that it calls fits at its position. -/
theorem patch_inside_iff (soc : Soc) (platform : Platform) (custom : CustomizeTable)
    (store : Image) (mappedNso nsoSize : Nat) (mapped : mappedNso + nsoSize ≤ 2 ^ 64) :
    PatchStaysInside soc platform custom store mappedNso nsoSize ↔
      4 * soc.mtcWords ≤ mappedNso + nsoSize ∧
      ∀ position < scanPositions mappedNso nsoSize soc.mtcWords,
        callsFit (soc.fittedPatches platform custom) position
          (scan (soc.patches platform custom) position store).store = true := by
  unfold PatchStaysInside
  apply and_congr_right
  intro unwrapped
  rw [confined_patch, confined_scan]
  refine forall₂_congr fun position below => ?_
  have room := scanPositions_room mapped unwrapped below
  have words : 0 < soc.mtcWords := by cases soc <;> decide
  rw [← fittedPatches_entry, confined_applyFirst]
  · unfold Inside
    omega
  · intro fitted member after
    exact fittedPatches_exact member position after (by omega) (by omega)

/-- The rail of the CPU, whose rate is found 7 words into the image. -/
def railImage (custom : CustomizeTable) : Image :=
  { word := fun address =>
      if address = 1 then 1 else if address = 7 then 1785000 else if address = 17 then 250000
      else if address = 18 then 5000 else if address = 19 then 1525000 else 0
    rest := { maxEmcClocks := custom.maxEmcClocks, i2cCalls := 0 } }

theorem patch_inside_sample :
    let platform : Platform :=
      { eristaTimings := fun _ _ => 0, marikoAutoAdjust := id, i2cSucceeds := fun _ => true }
    PatchStaysInside .mariko platform shipped (railImage shipped) 0x8000000 4328 := by
  intro platform
  exact (patch_inside_iff .mariko platform shipped (railImage shipped) 0x8000000 4328
    (by decide)).mpr ⟨by decide, by decide +kernel⟩

/-- An image that begins with the rate of the CPU's rail. -/
def truncatedImage (custom : CustomizeTable) : Image :=
  { word := fun address => if address = 0 then 1785000 else 0
    rest := { maxEmcClocks := custom.maxEmcClocks, i2cCalls := 0 } }

theorem patch_leaves_image :
    ¬∀ (soc : Soc) (platform : Platform) (custom : CustomizeTable) (store : Image)
      (mappedNso nsoSize : Nat), safetyCheck custom = true → mappedNso + nsoSize ≤ 2 ^ 64 →
        PatchStaysInside soc platform custom store mappedNso nsoSize := by
  intro inside
  let platform : Platform :=
    { eristaTimings := fun _ _ => 0, marikoAutoAdjust := id, i2cSucceeds := fun _ => true }
  have confined := (inside .mariko platform shipped (truncatedImage shipped) 0x8000000 4300
    shipped_safe (by decide)).2
  have before : Access.compare (-6) 1 ∈ (patch (Soc.mariko.patches platform shipped) 0x8000000 4300
      Soc.mariko.mtcWords (truncatedImage shipped)).accesses := by decide +kernel
  exact absurd (confined _ before).1 (by decide)

end HorizonOc.Loader
