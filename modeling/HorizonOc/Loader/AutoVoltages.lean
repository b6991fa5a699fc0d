import HorizonOc.Loader.CpuRail
import HorizonOc.Loader.MtcShift
import HorizonOc.Loader.Reach

namespace HorizonOc.Loader

open HorizonOc.Data

/-- The voltages and the clocks of the table. -/
inductive Setting where
  | commonEmcMemVolt | eristaEmcMaxClock | marikoEmcMaxClock | marikoEmcVddqVolt
  | eristaCpuVmin | eristaCpuMaxVolt | marikoCpuLowVmin | marikoCpuHighVmin | marikoCpuMaxVolt
  | marikoCpuMaxClock | eristaCpuBoostClock | marikoCpuBoostClock
  | eristaGpuVmin | marikoGpuVmin | marikoGpuVmax | commonGpuVoltOffset
  | eristaGpuVolt (index : Fin 27) | marikoGpuVolt (index : Fin 24)
deriving DecidableEq

/-- The three clocks of Erista are one setting: as in `SafetyCheck`, the largest counts. -/
def Setting.value (setting : Setting) (custom : CustomizeTable) : Word :=
  match setting with
  | .commonEmcMemVolt => custom.commonEmcMemVolt
  | .eristaEmcMaxClock => getMaxOfArr custom.maxEmcClocks
  | .marikoEmcMaxClock => custom.marikoEmcMaxClock
  | .marikoEmcVddqVolt => custom.marikoEmcVddqVolt
  | .eristaCpuVmin => custom.eristaCpuVmin
  | .eristaCpuMaxVolt => custom.eristaCpuMaxVolt
  | .marikoCpuLowVmin => custom.marikoCpuLowVmin
  | .marikoCpuHighVmin => custom.marikoCpuHighVmin
  | .marikoCpuMaxVolt => custom.marikoCpuMaxVolt
  | .marikoCpuMaxClock => custom.marikoCpuMaxClock
  | .eristaCpuBoostClock => custom.eristaCpuBoostClock
  | .marikoCpuBoostClock => custom.marikoCpuBoostClock
  | .eristaGpuVmin => custom.eristaGpuVmin
  | .marikoGpuVmin => custom.marikoGpuVmin
  | .marikoGpuVmax => custom.marikoGpuVmax
  | .commonGpuVoltOffset => custom.commonGpuVoltOffset
  | .eristaGpuVolt index => custom.eristaGpuVoltArray[index]
  | .marikoGpuVolt index => custom.marikoGpuVoltArray[index]

/-- The second table is the first with another value of the setting. -/
def Setting.Changes (setting : Setting) (custom changed : CustomizeTable) : Prop :=
  match setting with
  | .commonEmcMemVolt => ∃ value, changed = { custom with commonEmcMemVolt := value }
  | .eristaEmcMaxClock => ∃ values : Word × Word × Word,
      changed = { custom with
        eristaEmcMaxClock := values.1
        eristaEmcMaxClock1 := values.2.1
        eristaEmcMaxClock2 := values.2.2 }
  | .marikoEmcMaxClock => ∃ value, changed = { custom with marikoEmcMaxClock := value }
  | .marikoEmcVddqVolt => ∃ value, changed = { custom with marikoEmcVddqVolt := value }
  | .eristaCpuVmin => ∃ value, changed = { custom with eristaCpuVmin := value }
  | .eristaCpuMaxVolt => ∃ value, changed = { custom with eristaCpuMaxVolt := value }
  | .marikoCpuLowVmin => ∃ value, changed = { custom with marikoCpuLowVmin := value }
  | .marikoCpuHighVmin => ∃ value, changed = { custom with marikoCpuHighVmin := value }
  | .marikoCpuMaxVolt => ∃ value, changed = { custom with marikoCpuMaxVolt := value }
  | .marikoCpuMaxClock => ∃ value, changed = { custom with marikoCpuMaxClock := value }
  | .eristaCpuBoostClock => ∃ value, changed = { custom with eristaCpuBoostClock := value }
  | .marikoCpuBoostClock => ∃ value, changed = { custom with marikoCpuBoostClock := value }
  | .eristaGpuVmin => ∃ value, changed = { custom with eristaGpuVmin := value }
  | .marikoGpuVmin => ∃ value, changed = { custom with marikoGpuVmin := value }
  | .marikoGpuVmax => ∃ value, changed = { custom with marikoGpuVmax := value }
  | .commonGpuVoltOffset => ∃ value, changed = { custom with commonGpuVoltOffset := value }
  | .eristaGpuVolt index => ∃ value,
      changed = { custom with eristaGpuVoltArray := custom.eristaGpuVoltArray.set index value }
  | .marikoGpuVolt index => ∃ value,
      changed = { custom with marikoGpuVoltArray := custom.marikoGpuVoltArray.set index value }

section

variable {setting other : Setting} {custom changed : CustomizeTable}

theorem Setting.Changes.value_eq (changes : setting.Changes custom changed)
    (apart : other ≠ setting) : other.value changed = other.value custom := by
  cases setting <;> obtain ⟨value, rfl⟩ := changes <;> cases other <;>
    simp_all [Setting.value, CustomizeTable.maxEmcClocks, Vector.getElem_set]
  all_goals exact fun same => absurd (Fin.ext same.symm) apart

theorem Setting.Changes.maxEmcClocks (changes : setting.Changes custom changed)
    (apart : setting ≠ .eristaEmcMaxClock) : changed.maxEmcClocks = custom.maxEmcClocks := by
  cases setting with
  | eristaEmcMaxClock => contradiction
  | _ => obtain ⟨value, rfl⟩ := changes; rfl

/-- Undervolt levels, shifts and tables are neither voltages nor clocks. -/
theorem Setting.Changes.rest (changes : setting.Changes custom changed) :
    changed.eristaCpuUV = custom.eristaCpuUV ∧ changed.marikoCpuUVHigh = custom.marikoCpuUVHigh ∧
      changed.marikoCpuDvfsTable = custom.marikoCpuDvfsTable ∧
        changed.emcDvbShift = custom.emcDvbShift := by
  cases setting <;> obtain ⟨value, rfl⟩ := changes <;> exact ⟨rfl, rfl, rfl, rfl⟩

end

/-- A patcher of the loader, with the table that it takes its values from. -/
abbrev TablePatcher := CustomizeTable → Int → Patcher PUnit

/-- Some value of the setting leaves another word at the address. -/
def Governs (setting : Setting) (patcher : TablePatcher) (custom : CustomizeTable) (ptr : Int)
    (store : Image) (address : Int) : Prop :=
  ∃ changed, setting.Changes custom changed ∧
    (patcher changed ptr store).store.word address ≠ (patcher custom ptr store).store.word address

/-- No call of the patcher overwrites a word that the setting governs. -/
def KeepsGoverned (setting : Setting) (patcher : TablePatcher) (custom : CustomizeTable) : Prop :=
  ∀ ptr store address, Governs setting patcher custom ptr store address →
    (patcher custom ptr store).store.word address = store.word address

def WritesNoZero (patcher : TablePatcher) (custom : CustomizeTable) : Prop :=
  ∀ ptr store, Tracked.Writes (fun _ value => value ≠ 0) (patcher custom ptr) store

section

variable {setting : Setting} {patcher : TablePatcher} {custom : CustomizeTable}

theorem keepsGoverned_of_independent
    (independent : ∀ changed, setting.Changes custom changed → patcher changed = patcher custom) :
    KeepsGoverned setting patcher custom := by
  rintro ptr store address ⟨changed, changes, differs⟩
  rw [independent changed changes] at differs
  contradiction

/-- A patcher of one setting, which writes nothing where that is 0. -/
theorem keepsGoverned_of_one (one : Setting) (auto : setting.value custom = 0)
    (others : setting ≠ one → ∀ changed, setting.Changes custom changed →
      patcher changed = patcher custom)
    (kept : one.value custom = 0 → ∀ ptr store,
      (patcher custom ptr store).store.word = store.word) :
    KeepsGoverned setting patcher custom := by
  by_cases same : setting = one
  · rw [same] at auto
    exact fun ptr store address _ => congrFun (kept auto ptr store) address
  · exact keepsGoverned_of_independent (others same)

end

theorem kept_of_run {program : Patcher PUnit} {store : Image}
    (run : ∃ result, Tracked.run program store = (result, store)) :
    (program store).store.word = store.word := by
  obtain ⟨result, run⟩ := run
  exact congrArg Store.word (Prod.mk.inj run).2

section

variable {ptr address offset : Int} {value : Word} {patches others : List (Int × Word)}
  {store : Image}

theorem patchOffsets_outside (outside : offset ∉ patches.map Prod.fst) :
    (patchOffsets ptr patches store).store.word (ptr + offset) = store.word (ptr + offset) := by
  induction patches generalizing store with
  | nil => rfl
  | cons patch patches ih =>
      rw [List.map_cons, List.mem_cons, not_or] at outside
      rw [patchOffsets_cons, ih outside.2]
      exact Function.update_of_ne (by omega) _ _

theorem patchOffsets_patched (apart : (patches.map Prod.fst).Nodup)
    (member : (offset, value) ∈ patches) :
    (patchOffsets ptr patches store).store.word (ptr + offset) = value := by
  induction patches generalizing store with
  | nil => contradiction
  | cons patch patches ih =>
      rw [List.map_cons, List.nodup_cons] at apart
      rw [patchOffsets_cons]
      rcases List.mem_cons.mp member with rfl | later
      · rw [patchOffsets_outside apart.1]
        exact Function.update_self _ _ _
      · exact ih apart.2 later

/-- With some patches left out, a word has the value that it has with all, or its own. -/
theorem patchOffsets_subset (apart : (others.map Prod.fst).Nodup) (fewer : patches ⊆ others)
    (differs : (patchOffsets ptr others store).store.word address ≠
      (patchOffsets ptr patches store).store.word address)
    (once : (patches.map Prod.fst).Nodup) :
    (patchOffsets ptr patches store).store.word address = store.word address := by
  obtain ⟨offset, rfl⟩ : ∃ offset, address = ptr + offset := ⟨address - ptr, by omega⟩
  by_cases patched : offset ∈ patches.map Prod.fst
  · obtain ⟨⟨place, value⟩, member, rfl⟩ := List.mem_map.mp patched
    have same : (patchOffsets ptr others store).store.word (ptr + place) = value :=
      patchOffsets_patched apart (fewer member)
    exact absurd (same.trans (patchOffsets_patched once member).symm) differs
  · exact patchOffsets_outside patched

end

def settingPatches (parts : List (Setting × List Int)) (custom : CustomizeTable) :
    List (Int × Word) :=
  parts.flatMap fun part => patchesOf (part.1.value custom) part.2

/-- For some of the tables a patcher compares its fields and then patches settings, none where
another goes. -/
structure PatchesSettings (patcher : TablePatcher) (tables : CustomizeTable → Prop) where
  fields : List (Int × Word)
  compared : Int → Patcher Bool
  error : LdrResult
  parts : List (Setting × List Int)
  compares : ∀ ptr, Compares ptr fields (compared ptr)
  apart : (parts.flatMap Prod.snd).Nodup
  runs : ∀ custom, tables custom → ∀ ptr,
    patcher custom ptr = patchAfter (compared ptr) error ptr (settingPatches parts custom)

section

variable {setting : Setting} {custom changed : CustomizeTable} {parts : List (Setting × List Int)}

theorem patchesOf_offsets (value : Word) (offsets : List Int) :
    List.Sublist ((patchesOf value offsets).map Prod.fst) offsets := by
  unfold patchesOf
  split
  · exact List.nil_sublist offsets
  · simp [Function.comp_def]

theorem settingPatches_offsets (parts : List (Setting × List Int)) (custom : CustomizeTable) :
    List.Sublist ((settingPatches parts custom).map Prod.fst) (parts.flatMap Prod.snd) := by
  induction parts with
  | nil => exact .refl []
  | cons part parts ih =>
      simp only [settingPatches, List.flatMap_cons, List.map_append]
      exact (patchesOf_offsets _ _).append ih

theorem settingPatches_ne_zero :
    ∀ patch ∈ settingPatches parts custom, patch.2 ≠ 0 := by
  intro patch member
  obtain ⟨part, -, inside⟩ := List.mem_flatMap.mp member
  unfold patchesOf at inside
  split at inside
  · contradiction
  · rename_i set
    obtain ⟨offset, -, rfl⟩ := List.mem_map.mp inside
    exact set

/-- A setting that is 0 has no patches, and the others keep theirs. -/
theorem settingPatches_subset (auto : setting.value custom = 0)
    (changes : setting.Changes custom changed) :
    settingPatches parts custom ⊆ settingPatches parts changed := by
  intro patch member
  obtain ⟨part, inside, patched⟩ := List.mem_flatMap.mp member
  refine List.mem_flatMap.mpr ⟨part, inside, ?_⟩
  by_cases same : part.1 = setting
  · rw [same, auto] at patched
    exact absurd patched List.not_mem_nil
  · rwa [changes.value_eq same]

end

section

variable {setting : Setting} {patcher : TablePatcher} {tables : CustomizeTable → Prop}
  {custom : CustomizeTable} {ptr : Int} {fields patches : List (Int × Word)}
  {compared : Patcher Bool} {error : LdrResult} {store : Image} {allowed : Int → Word → Prop}

theorem patchAfter_writes (compares : Compares ptr fields compared) :
    Tracked.Writes allowed (patchAfter compared error ptr patches) store ↔
      (MatchesAt store ptr fields → ∀ patch ∈ patches, allowed (ptr + patch.1) patch.2) := by
  unfold Tracked.Writes
  by_cases matching : MatchesAt store ptr fields
  · rw [(patchAfter_of_matching compares matching).2]
    simp only [compareAccesses, patchWrites, addressed, List.mem_append, List.mem_map, matching,
      true_imp_iff]
    constructor
    · intro writes patch member
      exact writes _ _ (.inr ⟨_, ⟨patch, member, rfl⟩, rfl⟩)
    · rintro writes _ _ (⟨check, -, same⟩ | ⟨_, ⟨patch, member, rfl⟩, same⟩)
      · contradiction
      · cases same
        exact writes patch member
  · obtain ⟨made, accesses⟩ := compares.accesses store
    rw [patchAfter_of_differing compares matching, accesses]
    simp [matching, compareAccesses]

theorem PatchesSettings.writesNoZero (patches : PatchesSettings patcher tables)
    (here : tables custom) : WritesNoZero patcher custom := by
  intro ptr store
  rw [patches.runs custom here, patchAfter_writes (patches.compares ptr)]
  exact fun _ => settingPatches_ne_zero

/-- A word that a setting of 0 governs is no other's, so it is not patched. -/
theorem PatchesSettings.keepsGoverned (patches : PatchesSettings patcher tables)
    (auto : setting.value custom = 0) (here : tables custom)
    (others : ∀ changed, setting.Changes custom changed → tables changed) :
    KeepsGoverned setting patcher custom := by
  rintro ptr store address ⟨changed, changes, differs⟩
  rw [patches.runs changed (others changed changes), patches.runs custom here,
    patchAfter_store (patches.compares ptr), patchAfter_store (patches.compares ptr)] at differs
  rw [patches.runs custom here, patchAfter_store (patches.compares ptr)]
  have once (table : CustomizeTable) : ((settingPatches patches.parts table).map Prod.fst).Nodup :=
    (settingPatches_offsets patches.parts table).nodup patches.apart
  by_cases matching : MatchesAt store ptr patches.fields
  · simp only [if_pos matching] at differs ⊢
    exact patchOffsets_subset (once changed) (settingPatches_subset auto changes) differs
      (once custom)
  · simp only [if_neg matching]

end

def Mariko.gpuVoltDVFSPatches : PatchesSettings gpuVoltDVFS fun _ => True where
  fields := fieldsFrom 1 gpuDVFSPattern
  compared ptr := compareFields ptr (fieldsFrom 1 gpuDVFSPattern)
  error := .invalidGpuDvfs
  parts := [(.marikoGpuVmax, [1]), (.marikoGpuVmin, [0])]
  compares ptr := compareFields_compares ptr _
  apart := by decide
  runs custom _ ptr := by simp [settingPatches, gpuVoltDVFS, Setting.value]

def Mariko.gpuVoltThermalsPatches : PatchesSettings gpuVoltThermals fun _ => True where
  fields := fieldsFrom (-3) gpuVoltThermalPattern
  compared ptr := comparePattern ptr (-3) gpuVoltThermalPattern
  error := .invalidGpuDvfs
  parts := [(.marikoGpuVmin, [0, 3, 6, 9, 12])]
  compares ptr := comparePattern_compares ptr (-3) _
  apart := by decide
  runs custom _ ptr := by simp [settingPatches, gpuVoltThermals, Setting.value]

def Mariko.cpuVoltDVFSPatches : PatchesSettings cpuVoltDVFS fun _ => True where
  fields := cpuVoltagePatchOffsets.zip cpuVoltagePatchValues
  compared ptr := compareFields ptr (cpuVoltagePatchOffsets.zip cpuVoltagePatchValues)
  error := .invalidCpuMinVolt
  parts := [(.marikoCpuLowVmin, [0]), (.marikoCpuHighVmin, [-2]), (.marikoCpuMaxVolt, [5])]
  compares ptr := compareFields_compares ptr _
  apart := by decide
  runs custom _ ptr := by simp [settingPatches, cpuVoltDVFS, Setting.value]

def Mariko.cpuVoltThermalsPatches : PatchesSettings cpuVoltThermals fun _ => True where
  fields := fieldsFrom 0 cpuVoltThermalData
  compared ptr := comparePattern ptr 0 cpuVoltThermalData
  error := .invalidCpuMinVolt
  parts := [(.marikoCpuLowVmin, [0, 3]), (.marikoCpuMaxVolt, [-2, -5, 1, 4])]
  compares ptr := comparePattern_compares ptr 0 _
  apart := by decide
  runs custom _ ptr := by simp [settingPatches, cpuVoltThermals, Setting.value]

def Erista.cpuVoltThermalsPatches : PatchesSettings cpuVoltThermals fun _ => True where
  fields := fieldsFrom (-6) cpuVoltageThermalPattern
  compared ptr := comparePattern ptr (-6) cpuVoltageThermalPattern
  error := .invalidCpuMinVolt
  parts := [(.eristaCpuVmin, [0, 3, 6]), (.eristaCpuMaxVolt, [-2, 1, 4, 7])]
  compares ptr := comparePattern_compares ptr (-6) _
  apart := by decide
  runs custom _ ptr := by simp [settingPatches, cpuVoltThermals, Setting.value]

def Erista.gpuVoltDVFSPatches : PatchesSettings gpuVoltDVFS fun _ => True where
  fields := fieldsFrom 0 gpuVoltDvfsPattern
  compared ptr := comparePattern ptr 0 gpuVoltDvfsPattern
  error := .invalidGpuDvfs
  parts := [(.eristaGpuVmin, [0])]
  compares ptr := comparePattern_compares ptr 0 _
  apart := by decide
  runs custom _ ptr := by simp [settingPatches, gpuVoltDVFS, Setting.value]

def Erista.gpuVoltThermalsPatches : PatchesSettings gpuVoltThermals fun _ => True where
  fields := fieldsFrom (-3) gpuVoltThermalPattern
  compared ptr := comparePattern ptr (-3) gpuVoltThermalPattern
  error := .invalidGpuDvfs
  parts := [(.eristaGpuVmin, [0, 3, 6, 9, 12])]
  compares ptr := comparePattern_compares ptr (-3) _
  apart := by decide
  runs custom _ ptr := by simp [settingPatches, gpuVoltThermals, Setting.value]

/-- Without undervolt the word before the pattern is left alone. -/
def Erista.cpuVoltDvfsStockPatches :
    PatchesSettings cpuVoltDvfs fun custom => custom.eristaCpuUV = 0 where
  fields := fieldsFrom 5 cpuVoltDvfsPattern
  compared ptr := comparePattern ptr 5 cpuVoltDvfsPattern
  error := .invalidCpuMinVolt
  parts := [(.eristaCpuVmin, [0]), (.eristaCpuMaxVolt, [5])]
  compares ptr := comparePattern_compares ptr 5 _
  apart := by decide
  runs custom stock ptr := by simp [settingPatches, cpuVoltDvfs, Setting.value, stock]

def Erista.cpuVoltDvfsSetPatches :
    PatchesSettings cpuVoltDvfs
      fun custom => custom.eristaCpuUV ≠ 0 ∧ custom.eristaCpuVmin ≠ 0 where
  fields := fieldsFrom 5 cpuVoltDvfsPattern
  compared ptr := comparePattern ptr 5 cpuVoltDvfsPattern
  error := .invalidCpuMinVolt
  parts := [(.eristaCpuVmin, [0, -2]), (.eristaCpuMaxVolt, [5])]
  compares ptr := comparePattern_compares ptr 5 _
  apart := by decide
  runs custom set ptr := by
    have minimum (offsets : List Int) : patchesOf custom.eristaCpuVmin offsets =
        offsets.map fun offset => (offset, custom.eristaCpuVmin) := if_neg set.2
    simp only [cpuVoltDvfs, settingPatches, List.flatMap_cons, List.flatMap_nil, Setting.value,
      minimum, if_pos set.1]
    simp

def memVoltFields : List (Int × Word) := [(4, 1), (5, 0x17), (6, 12500), (7, 600000)]

def Mariko.emcVddqFields : List (Int × Word) := [(4, 3), (6, 5000), (8, 250000)]

/-- The voltage on the regulator's steps, rounded down. -/
def memVoltStep (emcUv : Word) : Word :=
  if emcUv % 12500 ≠ 0 then emcUv / 12500 * 12500 else emcUv

/-- The voltage on the regulator's steps, rounded up in 32 bits. -/
def Mariko.emcVddqStep (emcUv : Word) : Word :=
  if emcUv % 5000 ≠ 0 then (emcUv + 4999) / 5000 * 5000 else emcUv

section

variable {entry ptr : Int} {id : Word} {fields : List (Int × Word)} {store : Image}
  {allowed : Int → Word → Prop} {custom : CustomizeTable} {platform : Platform}

theorem validateRegulator_writes :
    Tracked.Writes allowed (validateRegulator entry id fields) store := by
  rw [validateRegulator, Tracked.writes_bind]
  constructor
  · have block : ((Tracked.compareBlock entry 2 fun offset => if offset = 0 then id else 0 :
        Patcher Bool) store).accesses =
          ((List.range 2).map fun (offset : Nat) =>
            (entry + offset, if offset = 0 then id else 0)).map fun check =>
              .compare check.1 check.2 := rfl
    exact Tracked.writes_of_compares block
  · intro same _
    split
    · obtain ⟨made, accesses⟩ := (compareFields_compares entry fields).accesses store
      exact Tracked.writes_of_compares accesses
    · simp

theorem memVoltHandler_writes :
    Tracked.Writes allowed (memVoltHandler custom ptr) store ↔
      (RegulatorAt store (ptr - 8) 1 memVoltFields ∨ RegulatorAt store (ptr - 9) 1 memVoltFields →
        custom.commonEmcMemVolt ≠ 0 → allowed ptr (memVoltStep custom.commonEmcMemVolt)) := by
  rw [memVoltHandler, Tracked.writes_bind_of_run (validateRegulator_run _ _ _ _),
    Tracked.writes_bind_of_run (validateRegulator_run _ _ _ _), Tracked.writes_require_bind]
  simp only [validateRegulator_writes, true_and, Bool.or_eq_true, decide_eq_true_eq]
  refine imp_congr Iff.rfl ?_
  split
  · rename_i auto
    simp [auto]
  · rename_i set
    simp only [ne_eq, set, not_false_eq_true, true_imp_iff]
    exact Tracked.writes_write _ _

theorem memVoltHandler_kept (auto : custom.commonEmcMemVolt = 0) :
    (memVoltHandler custom ptr store).store.word = store.word := by
  apply kept_of_run
  rw [memVoltHandler, Tracked.run_bind_of_ok (validateRegulator_run _ _ _ _),
    Tracked.run_bind_of_ok (validateRegulator_run _ _ _ _), Tracked.run_require_bind]
  simp only [auto, if_true, Tracked.run_pure]
  split <;> exact ⟨_, rfl⟩

theorem Mariko.emcVddqVolt_writes :
    Tracked.Writes allowed (emcVddqVolt platform custom ptr) store ↔
      (RegulatorAt store (ptr - 11) 2 emcVddqFields → custom.marikoEmcVddqVolt ≠ 0 →
        allowed ptr (emcVddqStep custom.marikoEmcVddqVolt)) := by
  rw [emcVddqVolt, Tracked.writes_bind_of_run (validateRegulator_run _ _ _ _),
    Tracked.writes_require_bind]
  simp only [validateRegulator_writes, true_and, decide_eq_true_eq]
  refine imp_congr Iff.rfl ?_
  split
  · rename_i auto
    simp [auto]
  · rename_i set
    simp only [ne_eq, set, not_false_eq_true, true_imp_iff]
    rw [Tracked.writes_write_bind, Tracked.writes_getRest_bind, Tracked.writes_setRest_bind]
    exact and_iff_left ((Tracked.writes_require _ _).mpr trivial)

/-- The image once the word is patched and the regulator was asked for its voltage. -/
def Mariko.vddqPatched (custom : CustomizeTable) (ptr : Int) (store : Image) : Image :=
  { word := Function.update store.word ptr (emcVddqStep custom.marikoEmcVddqVolt)
    rest := { store.rest with i2cCalls := store.rest.i2cCalls + 1 } }

theorem Mariko.emcVddqVolt_run (platform : Platform) (custom : CustomizeTable) (ptr : Int) (store : Image) :
    Tracked.run (emcVddqVolt platform custom ptr) store =
      if RegulatorAt store (ptr - 11) 2 emcVddqFields then
        if custom.marikoEmcVddqVolt = 0 then (.ok ⟨⟩, store)
        else if platform.i2cSucceeds store.rest.i2cCalls then (.ok ⟨⟩, vddqPatched custom ptr store)
        else (.error .i2c, vddqPatched custom ptr store)
      else (.error .invalidRegulatorEntry, store) := by
  rw [emcVddqVolt, Tracked.run_bind_of_ok (validateRegulator_run _ _ _ _), Tracked.run_require_bind]
  simp only [decide_eq_true_eq]
  refine if_congr Iff.rfl ?_ rfl
  by_cases auto : custom.marikoEmcVddqVolt = 0
  · rw [if_pos auto, if_pos auto]
    rfl
  · rw [if_neg auto, if_neg auto]
    cases succeeds : platform.i2cSucceeds store.rest.i2cCalls with
    | true =>
        rw [if_pos rfl, Tracked.run_write_bind, Tracked.run_getRest_bind, Tracked.run_setRest_bind]
        dsimp only
        rw [succeeds]
        rfl
    | false =>
        rw [if_neg Bool.false_ne_true, Tracked.run_write_bind, Tracked.run_getRest_bind,
          Tracked.run_setRest_bind]
        dsimp only
        rw [succeeds]
        rfl

theorem Mariko.emcVddqVolt_kept (auto : custom.marikoEmcVddqVolt = 0) :
    (emcVddqVolt platform custom ptr store).store.word = store.word := by
  apply kept_of_run
  rw [emcVddqVolt_run]
  simp only [auto, if_true]
  split <;> exact ⟨_, rfl⟩

end

def voltagePatchers (platform : Platform) : List TablePatcher :=
  [Mariko.gpuVoltDVFS, Mariko.gpuVoltThermals, Mariko.cpuVoltDVFS, Mariko.cpuVoltThermals,
   Mariko.emcVddqVolt platform, Erista.cpuVoltDvfs, Erista.cpuVoltThermals, Erista.gpuVoltDVFS,
   Erista.gpuVoltThermals, memVoltHandler]

/-- Erista's patchers find the clocks in `maxEmcClocks`, which begins as those of the table. -/
def Erista.fromTable (patcher : Int → Patcher PUnit) (custom : CustomizeTable) (ptr : Int) :
    Patcher PUnit := do
  let state ← Tracked.getRest
  Tracked.setRest { state with maxEmcClocks := custom.maxEmcClocks }
  patcher ptr

def clockPatchers (platform : Platform) : List TablePatcher :=
  [Mariko.cpuFreqVdd, Mariko.memFreqMtcTable platform, Mariko.memFreqDvbTable, Mariko.memFreqMax,
   Erista.fromTable (Erista.memFreqMtcTable platform), Erista.fromTable Erista.memFreqMax]

section

variable {setting : Setting} {custom : CustomizeTable} {platform : Platform}

theorem memVoltHandler_keepsGoverned (auto : setting.value custom = 0) :
    KeepsGoverned setting memVoltHandler custom := by
  refine keepsGoverned_of_one .commonEmcMemVolt auto ?_ ?_
  · intro apart changed changes
    have same : changed.commonEmcMemVolt = custom.commonEmcMemVolt := changes.value_eq apart.symm
    funext ptr
    rw [memVoltHandler, memVoltHandler, same]
  · exact fun unset ptr store => memVoltHandler_kept unset

theorem Mariko.emcVddqVolt_keepsGoverned (auto : setting.value custom = 0) :
    KeepsGoverned setting (emcVddqVolt platform) custom := by
  refine keepsGoverned_of_one .marikoEmcVddqVolt auto ?_ ?_
  · intro apart changed changes
    have same : changed.marikoEmcVddqVolt = custom.marikoEmcVddqVolt := changes.value_eq apart.symm
    funext ptr
    rw [emcVddqVolt, emcVddqVolt, same]
  · exact fun unset ptr store => emcVddqVolt_kept unset

theorem Mariko.emcClock_keepsGoverned {patcher : TablePatcher}
    (others : ∀ changed, changed.marikoEmcMaxClock = custom.marikoEmcMaxClock →
      changed.emcDvbShift = custom.emcDvbShift → patcher changed = patcher custom)
    (skips : custom.marikoEmcMaxClock ≤ emcClkOSLimit → ∀ ptr store,
      ∃ result, Tracked.run (patcher custom ptr) store = (result, store))
    (auto : setting.value custom = 0) : KeepsGoverned setting patcher custom := by
  refine keepsGoverned_of_one .marikoEmcMaxClock auto ?_ ?_
  · intro apart changed changes
    obtain ⟨-, -, -, shift⟩ := changes.rest
    exact others changed (changes.value_eq apart.symm) shift
  · intro unset ptr store
    have stock : custom.marikoEmcMaxClock ≤ emcClkOSLimit := by
      rw [show custom.marikoEmcMaxClock = 0 from unset]
      decide
    exact kept_of_run (skips stock ptr store)

theorem Mariko.memFreqMtcTable_keepsGoverned (auto : setting.value custom = 0) :
    KeepsGoverned setting (memFreqMtcTable platform) custom := by
  refine emcClock_keepsGoverned ?_ ?_ auto
  · intro changed same _
    funext ptr
    rw [memFreqMtcTable, memFreqMtcTable, same]
  · intro stock ptr store
    have validated := validateMtcTables_run marikoMtcWords mtcTableRev ptr khzList store
    simp only [memFreqMtcTable, if_pos stock]
    by_cases valid : RatesBackwards store.word marikoMtcWords mtcTableRev ptr khzList
    · exact ⟨_, Tracked.run_bind_of_ok (validated.1 valid)⟩
    · exact ⟨_, Tracked.run_bind_of_error (validated.2 valid)⟩

theorem Mariko.memFreqDvbTable_keepsGoverned (auto : setting.value custom = 0) :
    KeepsGoverned setting memFreqDvbTable custom := by
  refine emcClock_keepsGoverned ?_ ?_ auto
  · intro changed same shift
    funext ptr
    simp only [memFreqDvbTable, addDvbEntry, dvbEntry, dvbVolt, same, shift]
  · intro stock ptr store
    have compared := (comparePattern_compares (ptr + dvbEntryWords)
      (-(emcDvbTableDefault.length : Int)) emcDvbTableDefault).run store
    simp only [memFreqDvbTable, if_pos stock]
    rw [Tracked.run_bind_of_ok compared, Tracked.run_require_bind]
    split <;> exact ⟨_, rfl⟩

theorem Mariko.memFreqMax_keepsGoverned (auto : setting.value custom = 0) :
    KeepsGoverned setting memFreqMax custom := by
  refine emcClock_keepsGoverned ?_ ?_ auto
  · intro changed same _
    funext ptr
    rw [memFreqMax, memFreqMax, same]
  · intro stock ptr store
    rw [memFreqMax, if_pos stock]
    exact ⟨_, rfl⟩

theorem Erista.fromTable_keepsGoverned {patcher : Int → Patcher PUnit}
    (skips : ∀ ptr store, ¬emcClkOSLimit < getMaxOfArr store.rest.maxEmcClocks →
      Tracked.run (patcher ptr) store = (.ok ⟨⟩, store))
    (auto : setting.value custom = 0) :
    KeepsGoverned setting (fromTable patcher) custom := by
  refine keepsGoverned_of_one .eristaEmcMaxClock auto ?_ ?_
  · intro apart changed changes
    funext ptr
    rw [fromTable, fromTable, changes.maxEmcClocks apart]
  · intro unset ptr store
    have stock : ¬emcClkOSLimit < getMaxOfArr custom.maxEmcClocks := by
      rw [show getMaxOfArr custom.maxEmcClocks = 0 from unset]
      decide
    have run : Tracked.run (fromTable patcher custom ptr) store =
        (.ok ⟨⟩, { store with rest := { store.rest with maxEmcClocks := custom.maxEmcClocks } }) := by
      rw [fromTable, Tracked.run_getRest_bind, Tracked.run_setRest_bind]
      exact skips ptr _ stock
    exact congrArg (fun ended => ended.2.word) run

theorem Erista.memFreqMax_skipped (ptr : Int) (store : Image)
    (stock : ¬emcClkOSLimit < getMaxOfArr store.rest.maxEmcClocks) :
    Tracked.run (memFreqMax ptr) store = (.ok ⟨⟩, store) := by
  rw [memFreqMax, Tracked.run_getRest_bind, if_pos (by bv_omega), Tracked.run_pure]

/-- Without undervolt the limit of the rail is that of the table, whatever the clock. -/
theorem Mariko.cpuFreqVdd_keepsGoverned (auto : setting.value custom = 0)
    (level : custom.marikoCpuMaxClock = 0 → custom.marikoCpuUVHigh = 0) :
    KeepsGoverned setting cpuFreqVdd custom := by
  apply keepsGoverned_of_independent
  intro changed changes
  obtain ⟨-, uvHigh, table, -⟩ := changes.rest
  funext ptr
  by_cases same : setting = .marikoCpuMaxClock
  · subst same
    simp only [cpuFreqVdd, uvHigh, table, level auto, ne_eq, not_true, if_false]
  · have clock : changed.marikoCpuMaxClock = custom.marikoCpuMaxClock :=
      changes.value_eq (Ne.symm same)
    simp only [cpuFreqVdd, capCpuClock, uvHigh, table, clock]

theorem Erista.cpuVoltDvfs_writesNoZero
    (level : custom.eristaCpuVmin = 0 → custom.eristaCpuUV = 0) :
    WritesNoZero cpuVoltDvfs custom := by
  by_cases stock : custom.eristaCpuUV = 0
  · exact cpuVoltDvfsStockPatches.writesNoZero stock
  · exact cpuVoltDvfsSetPatches.writesNoZero ⟨stock, fun unset => stock (level unset)⟩

theorem Erista.cpuVoltDvfs_keepsGoverned (auto : setting.value custom = 0)
    (level : custom.eristaCpuVmin = 0 → custom.eristaCpuUV = 0) :
    KeepsGoverned setting cpuVoltDvfs custom := by
  by_cases stock : custom.eristaCpuUV = 0
  · apply cpuVoltDvfsStockPatches.keepsGoverned auto stock
    exact fun changed changes => changes.rest.1.trans stock
  · have minimum : custom.eristaCpuVmin ≠ 0 := fun unset => stock (level unset)
    apply cpuVoltDvfsSetPatches.keepsGoverned auto ⟨stock, minimum⟩
    intro changed changes
    have apart : .eristaCpuVmin ≠ setting := by
      rintro rfl
      exact minimum auto
    have same : changed.eristaCpuVmin = custom.eristaCpuVmin := changes.value_eq apart
    rw [changes.rest.1, same]
    exact ⟨stock, minimum⟩

end

theorem memVoltStep_ne_zero {emcUv : Word} :
    memVoltStep emcUv ≠ 0 ↔ 12500 ≤ emcUv := by
  unfold memVoltStep
  have bound := emcUv.isLt
  simp only [ne_eq, ← BitVec.toNat_inj, BitVec.le_def, BitVec.ofNat_eq_ofNat, BitVec.toNat_ofNat,
    BitVec.toNat_umod, apply_ite BitVec.toNat, BitVec.toNat_mul, BitVec.toNat_udiv,
    Nat.reducePow, Nat.reduceMod] at *
  split <;> omega

theorem Mariko.emcVddqStep_ne_zero {emcUv : Word} (set : emcUv ≠ 0) :
    emcVddqStep emcUv ≠ 0 ↔ emcUv.toNat + 4999 < 2 ^ 32 ∨ emcUv % 5000 = 0 := by
  unfold emcVddqStep
  have bound := emcUv.isLt
  simp only [ne_eq, ← BitVec.toNat_inj, BitVec.ofNat_eq_ofNat, BitVec.toNat_ofNat,
    BitVec.toNat_umod, apply_ite BitVec.toNat, BitVec.toNat_mul, BitVec.toNat_udiv,
    BitVec.toNat_add, Nat.reducePow, Nat.reduceMod] at *
  split <;> omega

/-- The roundings leave no voltage of 0: neither below the first step nor past 32 bits. -/
def RoundsToVoltage (custom : CustomizeTable) : Prop :=
  (custom.commonEmcMemVolt ≠ 0 → 12500 ≤ custom.commonEmcMemVolt) ∧
  (custom.marikoEmcVddqVolt ≠ 0 → custom.marikoEmcVddqVolt.toNat + 4999 < 2 ^ 32 ∨
    custom.marikoEmcVddqVolt % 5000 = 0)

/-- The tables that `SafetyCheck` lets through. -/
theorem roundsToVoltage_of_safe {custom : CustomizeTable} (safe : safetyCheck custom = true) :
    RoundsToVoltage custom := by
  have memVolt := (safeValues_of_safe safe).commonEmcMemVolt
  have vddq := (safeValues_of_safe safe).marikoEmcVddqVolt
  unfold AbsentOrWithin at memVolt vddq
  constructor
  · intro set
    bv_omega
  · intro set
    left
    bv_omega

def fieldsImage (fields : List (Int × Word)) : Image :=
  { word := fun address => ((fields.find? fun field => field.1 = address).map Prod.snd).getD 0
    rest := { maxEmcClocks := [], i2cCalls := 0 } }

/-- The stock regulator whose default voltage is at word 8. -/
def memVoltImage : Image := fieldsImage ([(0, 1), (8, Mariko.memVdd2Default)] ++ memVoltFields)

/-- The stock regulator whose default voltage is at word 11. -/
def emcVddqImage : Image :=
  fieldsImage ([(0, 2), (11, Mariko.emcVddqDefault)] ++ Mariko.emcVddqFields)

/-- The stock minimum at word 2, and its pattern. -/
def cpuVoltDvfsImage : Image :=
  fieldsImage ((2, Erista.cpuVminOfficial) :: fieldsFrom 7 Erista.cpuVoltDvfsPattern)

/-- The stock limit of the rail at word 6. -/
def cpuRailImage : Image := fieldsImage ((6, Mariko.cpuClkOSLimit) :: Mariko.cpuRailStock)

section

variable {custom : CustomizeTable} {platform : Platform}

theorem memVoltHandler_writesNoZero_iff :
    WritesNoZero memVoltHandler custom ↔
      (custom.commonEmcMemVolt ≠ 0 → 12500 ≤ custom.commonEmcMemVolt) := by
  constructor
  · intro writes set
    have stock : RegulatorAt memVoltImage (8 - 8) 1 memVoltFields := by decide
    have step := memVoltHandler_writes.mp (writes 8 memVoltImage) (.inl stock) set
    exact memVoltStep_ne_zero.mp step
  · intro large ptr store
    exact memVoltHandler_writes.mpr fun _ set => memVoltStep_ne_zero.mpr (large set)

theorem Mariko.emcVddqVolt_writesNoZero_iff :
    WritesNoZero (emcVddqVolt platform) custom ↔
      (custom.marikoEmcVddqVolt ≠ 0 → custom.marikoEmcVddqVolt.toNat + 4999 < 2 ^ 32 ∨
        custom.marikoEmcVddqVolt % 5000 = 0) := by
  constructor
  · intro writes set
    have stock : RegulatorAt emcVddqImage (11 - 11) 2 emcVddqFields := by decide
    have step := emcVddqVolt_writes.mp (writes 11 emcVddqImage) stock set
    exact (emcVddqStep_ne_zero set).mp step
  · intro small ptr store
    exact emcVddqVolt_writes.mpr fun _ set => (emcVddqStep_ne_zero set).mpr (small set)

/-- The minimum goes before the pattern on the undervolt level alone. -/
theorem Erista.cpuVoltDvfs_writesNoZero_iff :
    WritesNoZero cpuVoltDvfs custom ↔ (custom.eristaCpuVmin = 0 → custom.eristaCpuUV = 0) := by
  constructor
  · intro writes unset
    by_contra undervolted
    have matching : MatchesAt cpuVoltDvfsImage 2 (fieldsFrom 5 cpuVoltDvfsPattern) := by decide
    have patched := (patchAfter_writes (comparePattern_compares 2 5 cpuVoltDvfsPattern)).mp
      (writes 2 cpuVoltDvfsImage) matching
    refine patched (-2, custom.eristaCpuVmin) ?_ unset
    rw [if_pos undervolted]
    exact List.mem_append_left _ (List.mem_append_right _ List.mem_cons_self)
  · exact cpuVoltDvfs_writesNoZero

/-- The lowest cap is no stock limit. -/
theorem Mariko.cpuFreqVdd_overwrites (auto : custom.marikoCpuMaxClock = 0)
    (undervolted : custom.marikoCpuUVHigh ≠ 0) :
    ¬KeepsGoverned .marikoCpuMaxClock cpuFreqVdd custom := by
  intro keeps
  have stock : MatchesAt cpuRailImage (6 - 6) cpuRailStock := by decide
  have written (table : CustomizeTable) (level : table.marikoCpuUVHigh ≠ 0) :
      (cpuFreqVdd table 6 cpuRailImage).store.word 6 = capCpuClock table := by
    have run := cpuFreqVdd_run table 6 cpuRailImage
    rw [if_pos stock, railLimit, if_pos level] at run
    rw [(Prod.mk.inj run).2]
    simp
  have lowest : capCpuClock custom = 1963500 := by
    rw [capCpuClock, auto]
    decide
  obtain ⟨changed, changes, level, clock⟩ : ∃ changed,
      Setting.Changes .marikoCpuMaxClock custom changed ∧
        changed.marikoCpuUVHigh ≠ 0 ∧ changed.marikoCpuMaxClock = 2091000 :=
    ⟨{ custom with marikoCpuMaxClock := 2091000 }, ⟨_, rfl⟩, undervolted, rfl⟩
  have faster : capCpuClock changed = 2091000 := by
    rw [capCpuClock, clock]
    decide
  have kept := keeps 6 cpuRailImage 6 ⟨changed, changes, by
    rw [written custom undervolted, written changed level, lowest, faster]
    decide⟩
  rw [written custom undervolted, lowest] at kept
  exact absurd kept (by decide)

theorem voltagePatchers_writeNoZero (rounds : RoundsToVoltage custom)
    (minimum : custom.eristaCpuVmin = 0 → custom.eristaCpuUV = 0) :
    ∀ patcher ∈ voltagePatchers platform, WritesNoZero patcher custom := by
  obtain ⟨memVolt, vddq⟩ := rounds
  intro patcher member
  simp only [voltagePatchers, List.mem_cons, List.not_mem_nil, or_false] at member
  rcases member with rfl | rfl | rfl | rfl | rfl | rfl | rfl | rfl | rfl | rfl
  · exact Mariko.gpuVoltDVFSPatches.writesNoZero trivial
  · exact Mariko.gpuVoltThermalsPatches.writesNoZero trivial
  · exact Mariko.cpuVoltDVFSPatches.writesNoZero trivial
  · exact Mariko.cpuVoltThermalsPatches.writesNoZero trivial
  · exact Mariko.emcVddqVolt_writesNoZero_iff.mpr vddq
  · exact Erista.cpuVoltDvfs_writesNoZero_iff.mpr minimum
  · exact Erista.cpuVoltThermalsPatches.writesNoZero trivial
  · exact Erista.gpuVoltDVFSPatches.writesNoZero trivial
  · exact Erista.gpuVoltThermalsPatches.writesNoZero trivial
  · exact memVoltHandler_writesNoZero_iff.mpr memVolt

theorem patchers_keepGoverned {setting : Setting} (auto : setting.value custom = 0)
    (minimum : custom.eristaCpuVmin = 0 → custom.eristaCpuUV = 0)
    (clock : custom.marikoCpuMaxClock = 0 → custom.marikoCpuUVHigh = 0) :
    ∀ patcher ∈ voltagePatchers platform ++ clockPatchers platform,
      KeepsGoverned setting patcher custom := by
  intro patcher member
  simp only [voltagePatchers, clockPatchers, List.cons_append, List.nil_append, List.mem_cons,
    List.not_mem_nil, or_false] at member
  have all : ∀ changed, setting.Changes custom changed → True := fun _ _ => trivial
  rcases member with rfl | rfl | rfl | rfl | rfl | rfl | rfl | rfl | rfl | rfl | rfl | rfl |
    rfl | rfl | rfl | rfl
  · exact Mariko.gpuVoltDVFSPatches.keepsGoverned auto trivial all
  · exact Mariko.gpuVoltThermalsPatches.keepsGoverned auto trivial all
  · exact Mariko.cpuVoltDVFSPatches.keepsGoverned auto trivial all
  · exact Mariko.cpuVoltThermalsPatches.keepsGoverned auto trivial all
  · exact Mariko.emcVddqVolt_keepsGoverned auto
  · exact Erista.cpuVoltDvfs_keepsGoverned auto minimum
  · exact Erista.cpuVoltThermalsPatches.keepsGoverned auto trivial all
  · exact Erista.gpuVoltDVFSPatches.keepsGoverned auto trivial all
  · exact Erista.gpuVoltThermalsPatches.keepsGoverned auto trivial all
  · exact memVoltHandler_keepsGoverned auto
  · exact Mariko.cpuFreqVdd_keepsGoverned auto clock
  · exact Mariko.memFreqMtcTable_keepsGoverned auto
  · exact Mariko.memFreqDvbTable_keepsGoverned auto
  · exact Mariko.memFreqMax_keepsGoverned auto
  · exact Erista.fromTable_keepsGoverned
      (fun _ _ stock => Erista.memFreqMtcTable_skipped stock) auto
  · exact Erista.fromTable_keepsGoverned Erista.memFreqMax_skipped auto

end

/-- Where a setting is 0, no voltage of 0 is written, and the words that it governs stay stock. -/
def AutoMeansStock (platform : Platform) (custom : CustomizeTable) : Prop :=
  ∀ setting : Setting, setting.value custom = 0 →
    (∀ patcher ∈ voltagePatchers platform, WritesNoZero patcher custom) ∧
    ∀ patcher ∈ voltagePatchers platform ++ clockPatchers platform,
      KeepsGoverned setting patcher custom

theorem auto_means_stock_iff (platform : Platform) (custom : CustomizeTable) :
    AutoMeansStock platform custom ↔
      ((∃ setting : Setting, setting.value custom = 0) → RoundsToVoltage custom) ∧
      (custom.eristaCpuVmin = 0 → custom.eristaCpuUV = 0) ∧
      (custom.marikoCpuMaxClock = 0 → custom.marikoCpuUVHigh = 0) := by
  constructor
  · intro stock
    refine ⟨?_, ?_, ?_⟩
    · rintro ⟨setting, auto⟩
      obtain ⟨writes, -⟩ := stock setting auto
      exact ⟨memVoltHandler_writesNoZero_iff.mp (writes _ (by simp [voltagePatchers])),
        Mariko.emcVddqVolt_writesNoZero_iff.mp (writes (Mariko.emcVddqVolt platform)
          (by simp [voltagePatchers]))⟩
    · intro auto
      obtain ⟨writes, -⟩ := stock .eristaCpuVmin auto
      exact Erista.cpuVoltDvfs_writesNoZero_iff.mp (writes _ (by simp [voltagePatchers])) auto
    · intro auto
      obtain ⟨-, keeps⟩ := stock .marikoCpuMaxClock auto
      by_contra undervolted
      exact Mariko.cpuFreqVdd_overwrites auto undervolted
        (keeps _ (by simp [clockPatchers]))
  · rintro ⟨rounds, minimum, clock⟩ setting auto
    exact ⟨voltagePatchers_writeNoZero (rounds ⟨setting, auto⟩) minimum,
      patchers_keepGoverned auto minimum clock⟩

/-- An undervolted CPU with the minimum left to the console. -/
def undervoltedAuto : CustomizeTable := { shipped with eristaCpuUV := 1, eristaCpuVmin := 0 }

/-- The word two before the minimum is overwritten with 0. -/
theorem auto_writes_zero : ¬∀ platform custom, AutoMeansStock platform custom := by
  intro stock
  let platform : Platform := ⟨fun _ _ => 0, id, fun _ => true⟩
  obtain ⟨writes, -⟩ := stock platform undervoltedAuto .eristaCpuVmin rfl
  have zero : Access.write 0 0 ∈ (Erista.cpuVoltDvfs undervoltedAuto 2 cpuVoltDvfsImage).accesses := by
    decide +kernel
  exact writes Erista.cpuVoltDvfs (by simp [voltagePatchers]) 2 cpuVoltDvfsImage 0 0 zero rfl

end HorizonOc.Loader
