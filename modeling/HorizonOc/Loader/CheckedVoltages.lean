import HorizonOc.Loader.Erista
import HorizonOc.Loader.Mariko

namespace HorizonOc.Loader

open HorizonOc.Data

def MatchesAt (store : Image) (ptr : Int) (fields : List (Int × Word)) : Prop :=
  ∀ field ∈ fields, store.word (ptr + field.1) = field.2

instance (store : Image) (ptr : Int) (fields : List (Int × Word)) :
    Decidable (MatchesAt store ptr fields) :=
  inferInstanceAs (Decidable (∀ field ∈ fields, _))

def compareAccesses (checks : List (Int × Word)) : List (Access Word) :=
  checks.map fun check => .compare check.1 check.2

/-- A comparison of fields with the image: it compares nothing else, and all of them when they
match. -/
structure Compares (ptr : Int) (fields : List (Int × Word)) (compared : Patcher Bool) : Prop where
  result : ∀ store, (compared store).result = .ok (decide (MatchesAt store ptr fields))
  store_eq : ∀ store, (compared store).store = store
  accesses : ∀ store, ∃ made, (compared store).accesses = compareAccesses made
  complete : ∀ store, MatchesAt store ptr fields →
    (compared store).accesses = compareAccesses (addressed ptr fields)

theorem matchesAt_addressed {store : Image} {ptr : Int} {fields : List (Int × Word)} :
    (∀ check ∈ addressed ptr fields, store.word check.1 = check.2) ↔
      MatchesAt store ptr fields := by
  constructor
  · intro same field member
    exact same _ (List.mem_map_of_mem member)
  · intro matching check member
    obtain ⟨field, inside, rfl⟩ := List.mem_map.mp member
    exact matching field inside

theorem compareFields_compares (ptr : Int) (fields : List (Int × Word)) :
    Compares ptr fields (compareFields ptr fields) where
  result store := by
    rw [compareFields, Tracked.compareEach_result]
    simp only [matchesAt_addressed]
  store_eq store := Tracked.compareEach_store _ store
  accesses store := Tracked.compareEach_compares _ store
  complete store matching := Tracked.compareEach_accesses (matchesAt_addressed.mpr matching)

theorem Compares.run {ptr : Int} {fields : List (Int × Word)} {compared : Patcher Bool}
    (compares : Compares ptr fields compared) (store : Image) :
    Tracked.run compared store = (.ok (decide (MatchesAt store ptr fields)), store) :=
  Prod.ext (compares.result store) (compares.store_eq store)

theorem addressed_fieldsFrom (ptr offset : Int) (pattern : List Word) :
    addressed ptr (fieldsFrom offset pattern) =
      (List.range pattern.length).map fun (index : Nat) =>
        (ptr + offset + index, pattern.getD index 0) := by
  apply List.ext_getElem
  · simp [addressed, fieldsFrom]
  · intro index inside bound
    have below : index < pattern.length := by simpa using bound
    simp [addressed, fieldsFrom, below, Int.add_assoc]

theorem fieldsFrom_matches {store : Image} {ptr offset : Int} {pattern : List Word} :
    MatchesAt store ptr (fieldsFrom offset pattern) ↔
      ∀ index < pattern.length, store.word (ptr + offset + index) = pattern.getD index 0 := by
  rw [← matchesAt_addressed, addressed_fieldsFrom]
  simp

theorem comparePattern_compares (ptr offset : Int) (pattern : List Word) :
    Compares ptr (fieldsFrom offset pattern) (comparePattern ptr offset pattern) := by
  have accesses (store : Image) : (comparePattern ptr offset pattern store).accesses =
      compareAccesses (addressed ptr (fieldsFrom offset pattern)) := by
    rw [addressed_fieldsFrom, compareAccesses, List.map_map]
    rfl
  exact {
    result := fun store => by
      simp only [fieldsFrom_matches]
      rfl
    store_eq := fun store => rfl
    accesses := fun store => ⟨_, accesses store⟩
    complete := fun store _ => accesses store }

def patchWrites (ptr : Int) (patches : List (Int × Word)) : List (Access Word) :=
  (addressed ptr patches).map fun write => .write write.1 write.2

theorem patchOffsets_run (ptr : Int) (patches : List (Int × Word)) (store : Image) :
    (patchOffsets ptr patches store).result = .ok ⟨⟩ ∧
      (patchOffsets ptr patches store).accesses = patchWrites ptr patches := by
  induction patches generalizing store with
  | nil => exact ⟨rfl, rfl⟩
  | cons patch rest ih =>
      have step : patchOffsets ptr (patch :: rest) =
          (Tracked.write (ptr + patch.1) patch.2 >>= fun _ => patchOffsets ptr rest) := rfl
      have written : (Tracked.write (ptr + patch.1) patch.2 store :
          Outcome Word PatchState LdrResult PUnit).result = .ok ⟨⟩ := rfl
      obtain ⟨result, accesses⟩ := ih _
      rw [step, Tracked.bind_of_ok written]
      exact ⟨result, by simp only [accesses]; rfl⟩

section

variable {ptr : Int} {fields patches : List (Int × Word)} {compared : Patcher Bool}
  {error : LdrResult} {store : Image}

theorem patchAfter_of_matching (compares : Compares ptr fields compared)
    (matching : MatchesAt store ptr fields) :
    (patchAfter compared error ptr patches store).result = .ok ⟨⟩ ∧
      (patchAfter compared error ptr patches store).accesses =
        compareAccesses (addressed ptr fields) ++ patchWrites ptr patches := by
  have returned : (compared store).result = .ok true := by simp [compares.result, matching]
  obtain ⟨result, accesses⟩ := patchOffsets_run ptr patches (compared store).store
  rw [patchAfter, Tracked.bind_of_ok returned, compares.complete store matching]
  exact ⟨result, congrArg (compareAccesses (addressed ptr fields) ++ ·) accesses⟩

theorem patchAfter_of_differing (compares : Compares ptr fields compared)
    (differs : ¬MatchesAt store ptr fields) :
    patchAfter compared error ptr patches store =
      { result := .error error, store, accesses := (compared store).accesses } := by
  have returned : (compared store).result = .ok false := by simp [compares.result, differs]
  rw [patchAfter, Tracked.bind_of_ok returned, Tracked.require_false]
  have failed : (Tracked.fail error (compared store).store :
      Outcome Word PatchState LdrResult PUnit).result = .error error := rfl
  rw [Tracked.bind_of_error failed]
  simp [Tracked.fail, compares.store_eq]

theorem patchOffsets_cons (patch : Int × Word) :
    (patchOffsets ptr (patch :: patches) store).store =
      (patchOffsets ptr patches
        { store with word := Function.update store.word (ptr + patch.1) patch.2 }).store := by
  have step : patchOffsets ptr (patch :: patches) =
      (Tracked.write (ptr + patch.1) patch.2 >>= fun _ => patchOffsets ptr patches) := rfl
  rw [step, Tracked.bind_of_ok (show (Tracked.write (ptr + patch.1) patch.2 store :
    Outcome Word PatchState LdrResult PUnit).result = .ok ⟨⟩ from rfl)]
  rfl

theorem patchAfter_store (compares : Compares ptr fields compared) :
    (patchAfter compared error ptr patches store).store =
      if MatchesAt store ptr fields then (patchOffsets ptr patches store).store else store := by
  split
  · rename_i matching
    have returned : (compared store).result = .ok true := by simp [compares.result, matching]
    rw [patchAfter, Tracked.bind_of_ok returned, compares.store_eq]
    rfl
  · rename_i differs
    rw [patchAfter_of_differing compares differs]

end

/-- Every word that the search and the patcher overwrite was compared before; where a word differs
from the value that it is compared with, or the call fails, the image stays as it is. -/
structure ChecksBeforeOverwrite (entry : PatcherEntry) (store : Image) (ptr : Int) : Prop where
  compared : Tracked.ChecksWrites [] (entry.searchAndApply ptr store).accesses
  differing : ∀ address expected,
    .compare address expected ∈ (entry.searchAndApply ptr store).accesses →
      store.word address ≠ expected → (entry.searchAndApply ptr store).store.word = store.word
  failing : (entry.searchAndApply ptr store).succeeded = false →
    (entry.searchAndApply ptr store).store.word = store.word

section

variable {entry : PatcherEntry} {searched : Word} {ptr : Int} {store : Image}

theorem searchAndApply_of_found (searches : entry.search = .value searched)
    (found : store.word ptr = searched) :
    entry.searchAndApply ptr store =
      { entry.patcher ptr store with
        accesses := .compare ptr searched :: (entry.patcher ptr store).accesses } := by
  have first : (Search.run (.value searched) ptr store).result = .ok true := by
    simp [Search.run, Tracked.compare, found]
  rw [PatcherEntry.searchAndApply, searches, Tracked.bind_of_ok first]
  rfl

theorem searchAndApply_of_missed (searches : entry.search = .value searched)
    (missed : store.word ptr ≠ searched) :
    entry.searchAndApply ptr store =
      { result := .error .unsuccessfulPatcher, store, accesses := [.compare ptr searched] } := by
  have first : (Search.run (.value searched) ptr store).result = .ok false := by
    simp [Search.run, Tracked.compare, missed]
  rw [PatcherEntry.searchAndApply, searches, Tracked.bind_of_ok first]
  rfl

/-- A call that leaves the image as it is. -/
theorem checksBeforeOverwrite_of_compares (made : List (Int × Word))
    (accesses : (entry.searchAndApply ptr store).accesses = compareAccesses made)
    (kept : (entry.searchAndApply ptr store).store = store) :
    ChecksBeforeOverwrite entry store ptr where
  compared := by
    rw [accesses, compareAccesses, ← List.append_nil (List.map _ made)]
    exact Tracked.checksWrites_compares.mpr trivial
  differing _ _ _ _ := by rw [kept]
  failing _ := by rw [kept]

end

/-- Each patched word is the one searched for or one of the fields. -/
def Covered (fields patches : List (Int × Word)) : Prop :=
  ∀ patch ∈ patches, patch.1 = 0 ∨ patch.1 ∈ fields.map Prod.fst

instance (fields patches : List (Int × Word)) : Decidable (Covered fields patches) :=
  inferInstanceAs (Decidable (∀ patch ∈ patches, _))

theorem covered_append {fields patches others : List (Int × Word)} :
    Covered fields (patches ++ others) ↔ Covered fields patches ∧ Covered fields others := by
  simp only [Covered, List.mem_append, or_imp, forall_and]

theorem covered_patchesOf {fields : List (Int × Word)} {value : Word} {offsets : List Int} :
    Covered fields (patchesOf value offsets) ↔
      value = 0 ∨ ∀ offset ∈ offsets, offset = 0 ∨ offset ∈ fields.map Prod.fst := by
  by_cases unset : value = 0
  · simp [Covered, patchesOf, unset]
  · simp only [Covered, patchesOf, unset, if_false, List.forall_mem_map, false_or]

section

variable {entry : PatcherEntry} {searched : Word} {ptr : Int} {fields patches : List (Int × Word)}
  {compared : Patcher Bool} {error : LdrResult} {store : Image}

/-- The words that a call knows once its comparisons hold. -/
theorem patchWrites_checked_iff :
    Tracked.ChecksWrites [] (.compare ptr searched ::
        (compareAccesses (addressed ptr fields) ++ patchWrites ptr patches)) ↔
      Covered fields patches := by
  have known : Tracked.ChecksWrites [] (.compare ptr searched ::
        (compareAccesses (addressed ptr fields) ++ patchWrites ptr patches)) ↔
      ∀ write ∈ addressed ptr patches, write.1 ∈ (addressed ptr fields).map Prod.fst ++ [ptr] :=
    Tracked.checksWrites_compares.trans Tracked.checksWrites_writes
  have address (offset : Int) : ptr + offset ∈ (addressed ptr fields).map Prod.fst ++ [ptr] ↔
      offset = 0 ∨ offset ∈ fields.map Prod.fst := by
    have same : ptr + offset = ptr ↔ offset = 0 := by omega
    simp [addressed, same, or_comm]
  rw [known]
  constructor
  · intro checked patch member
    exact (address patch.1).mp (checked _ (List.mem_map_of_mem member))
  · intro checked write member
    obtain ⟨patch, inside, rfl⟩ := List.mem_map.mp member
    exact (address patch.1).mpr (checked patch inside)

/-- What holds of the compared words holds of those that the call knows. -/
theorem patchWrites_compared {address : Int} {expected : Word} (found : store.word ptr = searched)
    (matching : MatchesAt store ptr fields)
    (member : .compare address expected ∈ .compare ptr searched ::
      (compareAccesses (addressed ptr fields) ++ patchWrites ptr patches)) :
    store.word address = expected := by
  simp only [List.mem_cons, List.mem_append, Access.compare.injEq] at member
  rcases member with ⟨rfl, rfl⟩ | compared | written
  · exact found
  · obtain ⟨check, inside, same⟩ := List.mem_map.mp compared
    cases same
    exact matchesAt_addressed.mpr matching check inside
  · obtain ⟨write, -, same⟩ := List.mem_map.mp written
    contradiction

/-- A patcher with stock fields overwrites only what was compared exactly when each of its words is
the one searched for or one of the fields. -/
theorem patchAfter_checks_iff (compares : Compares ptr fields compared)
    (searches : entry.search = .value searched)
    (runs : entry.patcher ptr = patchAfter compared error ptr patches) :
    ChecksBeforeOverwrite entry store ptr ↔
      (store.word ptr = searched → MatchesAt store ptr fields →
        Covered fields patches) := by
  by_cases found : store.word ptr = searched
  · have run := searchAndApply_of_found searches found
    rw [runs] at run
    by_cases matching : MatchesAt store ptr fields
    · obtain ⟨result, accesses⟩ : _ ∧ (patchAfter compared error ptr patches store).accesses = _ :=
        patchAfter_of_matching compares matching
      constructor
      · intro checks _ _
        have checked := checks.compared
        rw [run, accesses] at checked
        exact patchWrites_checked_iff.mp checked
      · intro inside
        constructor
        · rw [run, accesses]
          exact patchWrites_checked_iff.mpr (inside found matching)
        · intro address expected member differs
          rw [run, accesses] at member
          exact absurd (patchWrites_compared found matching member) differs
        · intro failed
          rw [run, Outcome.succeeded, result] at failed
          contradiction
    · obtain ⟨made, accesses⟩ := compares.accesses store
      rw [patchAfter_of_differing compares matching, accesses] at run
      have checks : ChecksBeforeOverwrite entry store ptr := by
        apply checksBeforeOverwrite_of_compares ((ptr, searched) :: made)
        · exact congrArg Outcome.accesses run
        · exact congrArg Outcome.store run
      simp [checks, matching]
  · have run := searchAndApply_of_missed searches found
    have checks : ChecksBeforeOverwrite entry store ptr := by
      apply checksBeforeOverwrite_of_compares [(ptr, searched)]
      · exact congrArg Outcome.accesses run
      · exact congrArg Outcome.store run
    simp [checks, found]

theorem patchAfter_checks (compares : Compares ptr fields compared)
    (searches : entry.search = .value searched)
    (runs : entry.patcher ptr = patchAfter compared error ptr patches)
    (covered : Covered fields patches) : ChecksBeforeOverwrite entry store ptr :=
  (patchAfter_checks_iff compares searches runs).mpr fun _ _ => covered

end

def VoltagesChecked (entries : List PatcherEntry) (store : Image) (ptr : Int) : Prop :=
  ∀ entry ∈ entries, ChecksBeforeOverwrite entry store ptr

section

variable {custom : CustomizeTable} {store : Image} {ptr : Int}

theorem Mariko.dfllPatches_covered (uvLow uvHigh : Word) :
    Covered (fieldsFrom 0 dfllStock) (dfllLowPatches uvLow ++ dfllHighPatches uvHigh) := by
  rw [covered_append]
  constructor
  · unfold dfllLowPatches
    split <;> decide
  · unfold dfllHighPatches
    split <;> decide

theorem Mariko.cpuVoltDVFS_covered :
    Covered (cpuVoltagePatchOffsets.zip cpuVoltagePatchValues)
      (patchesOf custom.marikoCpuLowVmin [0] ++ patchesOf custom.marikoCpuHighVmin [-2] ++
        patchesOf custom.marikoCpuMaxVolt [5]) := by
  rw [covered_append, covered_append, covered_patchesOf, covered_patchesOf, covered_patchesOf]
  exact ⟨⟨.inr (by decide), .inr (by decide)⟩, .inr (by decide)⟩

theorem Mariko.gpuVoltDVFS_covered :
    Covered (fieldsFrom 1 gpuDVFSPattern)
      (patchesOf custom.marikoGpuVmax [1] ++ patchesOf custom.marikoGpuVmin [0]) := by
  rw [covered_append, covered_patchesOf, covered_patchesOf]
  exact ⟨.inr (by decide), .inr (by decide)⟩

theorem Mariko.gpuVoltThermals_covered :
    Covered (fieldsFrom (-3) gpuVoltThermalPattern)
      (patchesOf custom.marikoGpuVmin [0, 3, 6, 9, 12]) :=
  covered_patchesOf.mpr (.inr (by decide))

theorem Erista.cpuVoltThermals_covered :
    Covered (fieldsFrom (-6) cpuVoltageThermalPattern)
      (patchesOf custom.eristaCpuVmin [0, 3, 6] ++
        patchesOf custom.eristaCpuMaxVolt [-2, 1, 4, 7]) := by
  rw [covered_append, covered_patchesOf, covered_patchesOf]
  exact ⟨.inr (by decide), .inr (by decide)⟩

theorem Erista.gpuVoltDVFS_covered :
    Covered (fieldsFrom 0 gpuVoltDvfsPattern) (patchesOf custom.eristaGpuVmin [0]) :=
  covered_patchesOf.mpr (.inr (by decide))

theorem Erista.gpuVoltThermals_covered :
    Covered (fieldsFrom (-3) gpuVoltThermalPattern)
      (patchesOf custom.eristaGpuVmin [0, 3, 6, 9, 12]) :=
  covered_patchesOf.mpr (.inr (by decide))

theorem Erista.dfllPatches_covered (uv : Word) :
    Covered (fieldsFrom 0 dfllStock) (dfllPatches uv) := by
  unfold dfllPatches
  split <;> decide

/-- The thermals patcher of Mariko overwrites two words before its pattern with the maximum voltage. -/
theorem Mariko.cpuVoltThermals_covered_iff :
    Covered (fieldsFrom 0 cpuVoltThermalData)
        (patchesOf custom.marikoCpuLowVmin [0, 3] ++
          patchesOf custom.marikoCpuMaxVolt [-2, -5, 1, 4]) ↔
      custom.marikoCpuMaxVolt = 0 := by
  rw [covered_append, covered_patchesOf, covered_patchesOf]
  have inside : ∀ offset ∈ [(0 : Int), 3], offset = 0 ∨
      offset ∈ (fieldsFrom 0 cpuVoltThermalData).map Prod.fst := by decide
  have outside : ¬∀ offset ∈ [(-2 : Int), -5, 1, 4], offset = 0 ∨
      offset ∈ (fieldsFrom 0 cpuVoltThermalData).map Prod.fst := by decide
  tauto

/-- The DVFS patcher of Erista overwrites a word before its pattern when the CPU is undervolted. -/
theorem Erista.cpuVoltDvfs_covered_iff :
    Covered (fieldsFrom 5 cpuVoltDvfsPattern)
        (patchesOf custom.eristaCpuVmin [0] ++
          (if custom.eristaCpuUV ≠ 0 then [(-2, custom.eristaCpuVmin)] else []) ++
          patchesOf custom.eristaCpuMaxVolt [5]) ↔
      custom.eristaCpuUV = 0 := by
  have searched : ∀ offset ∈ [(0 : Int)], offset = 0 ∨
      offset ∈ (fieldsFrom 5 cpuVoltDvfsPattern).map Prod.fst := by decide
  have inside : ∀ offset ∈ [(5 : Int)], offset = 0 ∨
      offset ∈ (fieldsFrom 5 cpuVoltDvfsPattern).map Prod.fst := by decide
  have outside : ¬((-2 : Int) = 0 ∨ -2 ∈ (fieldsFrom 5 cpuVoltDvfsPattern).map Prod.fst) := by
    decide
  rw [covered_append, covered_append, covered_patchesOf, covered_patchesOf]
  constructor
  · rintro ⟨⟨-, covered⟩, -⟩
    by_contra undervolted
    rw [if_pos undervolted] at covered
    exact outside (covered _ List.mem_cons_self)
  · intro stock
    rw [if_neg (not_not_intro stock)]
    exact ⟨⟨.inr searched, fun _ member => absurd member List.not_mem_nil⟩, .inr inside⟩

end

section

variable {custom : CustomizeTable} {entry : PatcherEntry} {store : Image} {ptr : Int}

theorem Mariko.cpuVoltDVFS_checks (searches : entry.search = .value cpuVminOfficial)
    (runs : entry.patcher = cpuVoltDVFS custom) : ChecksBeforeOverwrite entry store ptr :=
  patchAfter_checks (compareFields_compares ptr _) searches (congrFun runs ptr)
    cpuVoltDVFS_covered

theorem Mariko.cpuVoltThermals_checks_iff (searches : entry.search = .value cpuVminOfficial)
    (runs : entry.patcher = cpuVoltThermals custom) :
    ChecksBeforeOverwrite entry store ptr ↔
      (store.word ptr = cpuVminOfficial → MatchesAt store ptr (fieldsFrom 0 cpuVoltThermalData) →
        custom.marikoCpuMaxVolt = 0) := by
  rw [patchAfter_checks_iff (comparePattern_compares ptr 0 _) searches (congrFun runs ptr),
    cpuVoltThermals_covered_iff]

theorem Mariko.cpuVoltDfll_checks (searches : entry.search = .value 0xFFCF)
    (runs : entry.patcher = cpuVoltDfll custom) : ChecksBeforeOverwrite entry store ptr :=
  patchAfter_checks (compareFields_compares ptr _) searches (congrFun runs ptr)
    (dfllPatches_covered _ _)

theorem Mariko.gpuVoltDVFS_checks (searches : entry.search = .value gpuVminOfficial)
    (runs : entry.patcher = gpuVoltDVFS custom) : ChecksBeforeOverwrite entry store ptr :=
  patchAfter_checks (compareFields_compares ptr _) searches (congrFun runs ptr)
    gpuVoltDVFS_covered

theorem Mariko.gpuVoltThermals_checks (searches : entry.search = .value gpuVminOfficial)
    (runs : entry.patcher = gpuVoltThermals custom) : ChecksBeforeOverwrite entry store ptr :=
  patchAfter_checks (comparePattern_compares ptr (-3) _) searches (congrFun runs ptr)
    gpuVoltThermals_covered

theorem Erista.cpuVoltDvfs_checks_iff (searches : entry.search = .value cpuVminOfficial)
    (runs : entry.patcher = cpuVoltDvfs custom) :
    ChecksBeforeOverwrite entry store ptr ↔
      (store.word ptr = cpuVminOfficial → MatchesAt store ptr (fieldsFrom 5 cpuVoltDvfsPattern) →
        custom.eristaCpuUV = 0) := by
  rw [patchAfter_checks_iff (comparePattern_compares ptr 5 _) searches (congrFun runs ptr),
    cpuVoltDvfs_covered_iff]

theorem Erista.cpuVoltThermals_checks (searches : entry.search = .value cpuVminOfficial)
    (runs : entry.patcher = cpuVoltThermals custom) : ChecksBeforeOverwrite entry store ptr :=
  patchAfter_checks (comparePattern_compares ptr (-6) _) searches (congrFun runs ptr)
    cpuVoltThermals_covered

theorem Erista.cpuVoltDfll_checks (searches : entry.search = .value 0xFFEAD0FF)
    (runs : entry.patcher = cpuVoltDfll custom) : ChecksBeforeOverwrite entry store ptr :=
  patchAfter_checks (compareFields_compares ptr _) searches (congrFun runs ptr)
    (dfllPatches_covered _)

theorem Erista.gpuVoltDVFS_checks (searches : entry.search = .value gpuVminOfficial)
    (runs : entry.patcher = gpuVoltDVFS custom) : ChecksBeforeOverwrite entry store ptr :=
  patchAfter_checks (comparePattern_compares ptr 0 _) searches (congrFun runs ptr)
    gpuVoltDVFS_covered

theorem Erista.gpuVoltThermals_checks (searches : entry.search = .value gpuVminOfficial)
    (runs : entry.patcher = gpuVoltThermals custom) : ChecksBeforeOverwrite entry store ptr :=
  patchAfter_checks (comparePattern_compares ptr (-3) _) searches (congrFun runs ptr)
    gpuVoltThermals_covered

end

/-- The patchers overwrite nothing unchecked exactly where the two that reach before their patterns
have nothing to write there. -/
theorem voltages_checked_iff (custom : CustomizeTable) (store : Image) (ptr : Int) :
    (VoltagesChecked (Mariko.voltagePatches custom) store ptr ↔
      (store.word ptr = Mariko.cpuVminOfficial →
        MatchesAt store ptr (fieldsFrom 0 Mariko.cpuVoltThermalData) →
          custom.marikoCpuMaxVolt = 0)) ∧
    (VoltagesChecked (Erista.voltagePatches custom) store ptr ↔
      (store.word ptr = Erista.cpuVminOfficial →
        MatchesAt store ptr (fieldsFrom 5 Erista.cpuVoltDvfsPattern) →
          custom.eristaCpuUV = 0)) := by
  constructor
  · constructor
    · intro checked
      have thermals := checked ⟨"CPU Volt Thermals", Mariko.cpuVoltThermals custom, 1,
        .value Mariko.cpuVminOfficial⟩ (by simp [Mariko.voltagePatches])
      exact (Mariko.cpuVoltThermals_checks_iff rfl rfl).mp thermals
    · intro unset entry member
      simp only [Mariko.voltagePatches, List.mem_cons, List.not_mem_nil, or_false] at member
      rcases member with rfl | rfl | rfl | rfl | rfl
      · exact Mariko.cpuVoltDVFS_checks rfl rfl
      · exact (Mariko.cpuVoltThermals_checks_iff rfl rfl).mpr unset
      · exact Mariko.cpuVoltDfll_checks rfl rfl
      · exact Mariko.gpuVoltDVFS_checks rfl rfl
      · exact Mariko.gpuVoltThermals_checks rfl rfl
  · constructor
    · intro checked
      have dvfs := checked ⟨"CPU Volt DVFS", Erista.cpuVoltDvfs custom, 1,
        .value Erista.cpuVminOfficial⟩ (by simp [Erista.voltagePatches])
      exact (Erista.cpuVoltDvfs_checks_iff rfl rfl).mp dvfs
    · intro stock entry member
      simp only [Erista.voltagePatches, List.mem_cons, List.not_mem_nil, or_false] at member
      rcases member with rfl | rfl | rfl | rfl | rfl
      · exact (Erista.cpuVoltDvfs_checks_iff rfl rfl).mpr stock
      · exact Erista.cpuVoltThermals_checks rfl rfl
      · exact Erista.cpuVoltDfll_checks rfl rfl
      · exact Erista.gpuVoltDVFS_checks rfl rfl
      · exact Erista.gpuVoltThermals_checks rfl rfl

/-- An image with the thermal pattern of Mariko at word 8 and nothing around it. -/
def thermalImage : Image :=
  { word := fun address =>
      if address < 8 then 0 else Mariko.cpuVoltThermalData.getD (address - 8).toNat 0
    rest := { maxEmcClocks := shipped.maxEmcClocks, i2cCalls := 0 } }

theorem voltages_unchecked :
    ¬∀ custom store ptr, VoltagesChecked (Mariko.voltagePatches custom) store ptr ∧
      VoltagesChecked (Erista.voltagePatches custom) store ptr := by
  intro checked
  have thermals := (checked shipped thermalImage 8).1 ⟨"CPU Volt Thermals",
    Mariko.cpuVoltThermals shipped, 1, .value Mariko.cpuVminOfficial⟩
    (by simp [Mariko.voltagePatches])
  have unset : shipped.marikoCpuMaxVolt = 0 :=
    (Mariko.cpuVoltThermals_checks_iff rfl rfl).mp thermals (by decide) (by decide)
  exact absurd unset (by decide)

end HorizonOc.Loader
