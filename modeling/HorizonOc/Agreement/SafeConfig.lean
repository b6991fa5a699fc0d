import HorizonOc.Loader.SafetyCheck
import HorizonOc.Sysmodule.KipRoundTrip

namespace HorizonOc

open HorizonOc.Data

namespace Loader

open HorizonOc.Sysmodule

/-- The loader's structure with the words that lie in the KIP; the DVFS tables lie behind them. -/
def CustomizeTable.withKip (custom : CustomizeTable) (table : KipTable) : CustomizeTable :=
  { custom with
    commonEmcMemVolt := table .commonEmcMemVolt
    eristaEmcMaxClock := table .eristaEmcMaxClock
    eristaEmcMaxClock1 := table .eristaEmcMaxClock1
    eristaEmcMaxClock2 := table .eristaEmcMaxClock2
    marikoEmcMaxClock := table .marikoEmcMaxClock
    marikoEmcVddqVolt := table .marikoEmcVddqVolt
    emcDvbShift := table .emcDvbShift
    eristaCpuUV := table .eristaCpuUV
    eristaCpuVmin := table .eristaCpuVmin
    eristaCpuMaxVolt := table .eristaCpuMaxVolt
    eristaCpuUnlock := table .eristaCpuUnlock
    marikoCpuUVLow := table .marikoCpuUVLow
    marikoCpuUVHigh := table .marikoCpuUVHigh
    tableConf := table .tableConf
    marikoCpuLowVmin := table .marikoCpuLowVmin
    marikoCpuHighVmin := table .marikoCpuHighVmin
    marikoCpuMaxVolt := table .marikoCpuMaxVolt
    marikoCpuMaxClock := table .marikoCpuMaxClock
    eristaCpuBoostClock := table .eristaCpuBoostClock
    marikoCpuBoostClock := table .marikoCpuBoostClock
    eristaGpuUV := table .eristaGpuUV
    eristaGpuVmin := table .eristaGpuVmin
    marikoGpuUV := table .marikoGpuUV
    marikoGpuVmin := table .marikoGpuVmin
    marikoGpuVmax := table .marikoGpuVmax
    commonGpuVoltOffset := table .commonGpuVoltOffset
    eristaGpuVoltArray := Vector.ofFn fun index => table (.eristaGpuVoltArray index)
    marikoGpuVoltArray := Vector.ofFn fun index => table (.marikoGpuVoltArray index)
    fineTune_t6_tRTW := table .t6_tRTW_fine_tune
    fineTune_t7_tWTR := table .t7_tWTR_fine_tune
    reserved := Vector.ofFn fun index => table (.reserved index) }

/-- The last entry of a table is there and passes its validator. -/
def TablePasses (table : DvfsTable) (min max : Nat) : Prop :=
  ∃ entry, getDvfsTableLastEntry table = some entry ∧
    Validator.check ⟨entry.freqLow.toNat, min, max, false⟩ = true

/-- Every DVFS table that `SafetyCheck` may be led to passes. -/
structure DvfsTablesPass (custom : CustomizeTable) : Prop where
  eristaCpu : TablePasses custom.eristaCpuDvfsTable 1785000 2397000
  marikoCpu : TablePasses custom.marikoCpuDvfsTable 1785000 2703000
  marikoCpuSLT : TablePasses custom.marikoCpuDvfsTableSLT 1785000 2703000
  eristaGpu : TablePasses custom.eristaGpuDvfsTable 768000 1152000
  eristaGpuSLT : TablePasses custom.eristaGpuDvfsTableSLT 768000 1152000
  eristaGpuHiOPT : TablePasses custom.eristaGpuDvfsTableHiOPT 768000 1152000
  marikoGpu : TablePasses custom.marikoGpuDvfsTable 768000 1536000
  marikoGpuSLT : TablePasses custom.marikoGpuDvfsTableSLT 768000 1536000
  marikoGpuHiOPT : TablePasses custom.marikoGpuDvfsTableHiOPT 768000 1536000

theorem getMaxOfArr_toNat (clocks : List Word) :
    (getMaxOfArr clocks).toNat = clocks.foldl (fun largest clock => max largest clock.toNat) 0 := by
  have larger (clocks : List Word) (start : Word) :
      (clocks.foldl (fun largest clock => if largest < clock then clock else largest) start).toNat =
        clocks.foldl (fun largest clock => max largest clock.toNat) start.toNat := by
    induction clocks generalizing start with
    | nil => rfl
    | cons clock rest ih =>
        rw [List.foldl_cons, List.foldl_cons, ih]
        congr 1
        split <;> bv_omega
  exact larger clocks 0

variable {custom : CustomizeTable} {table : KipTable}

/-- Whatever the KIP selects, the tables are those that pass. -/
theorem withKip_tables (tables : DvfsTablesPass custom) (table : KipTable) :
    TablePasses (Soc.erista.cpuCheckedTable (custom.withKip table)) 1785000 2397000 ∧
    TablePasses (Soc.mariko.cpuCheckedTable (custom.withKip table)) 1785000 2703000 ∧
    TablePasses (Soc.erista.gpuCustomizeTable (custom.withKip table)) 768000 1152000 ∧
    TablePasses (Soc.mariko.gpuCustomizeTable (custom.withKip table)) 768000 1536000 := by
  refine ⟨tables.eristaCpu, ?_, ?_, ?_⟩
  · unfold Soc.cpuCheckedTable
    simp only
    split
    · exact tables.marikoCpuSLT
    · exact tables.marikoCpu
  · unfold Soc.gpuCustomizeTable
    simp only
    split
    · exact tables.eristaGpuSLT
    · split
      · exact tables.eristaGpuHiOPT
      · exact tables.eristaGpu
  · unfold Soc.gpuCustomizeTable
    simp only
    split
    · exact tables.marikoGpuSLT
    · split
      · exact tables.marikoGpuHiOPT
      · exact tables.marikoGpu

/-- What is left of `SafetyCheck` once the DVFS tables pass. -/
structure SafeWords (table : KipTable) : Prop where
  eristaCpuBoostClock : 1020000 ≤ (table .eristaCpuBoostClock).toNat ∧
    (table .eristaCpuBoostClock).toNat ≤ 2397000
  marikoCpuBoostClock : 1020000 ≤ (table .marikoCpuBoostClock).toNat ∧
    (table .marikoCpuBoostClock).toNat ≤ 2703000
  eristaCpuMaxVolt : AbsentOrWithin 1000 1260 (table .eristaCpuMaxVolt).toNat
  marikoCpuMaxVolt : AbsentOrWithin 1000 1200 (table .marikoCpuMaxVolt).toNat
  commonEmcMemVolt : AbsentOrWithin 912500 1350000 (table .commonEmcMemVolt).toNat
  eristaEmcMaxClocks : AbsentOrWithin 1600000 2600000
    (max (max (table .eristaEmcMaxClock2).toNat (table .eristaEmcMaxClock1).toNat)
      (table .eristaEmcMaxClock).toNat)
  marikoEmcMaxClock : AbsentOrWithin 1600000 3500000 (table .marikoEmcMaxClock).toNat
  marikoEmcVddqVolt : AbsentOrWithin 250000 700000 (table .marikoEmcVddqVolt).toNat
  marikoGpuVmax : AbsentOrWithin 800 960 (table .marikoGpuVmax).toNat

theorem withKip_maxEmcClocks (custom : CustomizeTable) (table : KipTable) :
    (getMaxOfArr (custom.withKip table).maxEmcClocks).toNat =
      max (max (table .eristaEmcMaxClock2).toNat (table .eristaEmcMaxClock1).toNat)
        (table .eristaEmcMaxClock).toNat := by
  rw [getMaxOfArr_toNat, CustomizeTable.maxEmcClocks]
  simp only [CustomizeTable.withKip, List.foldl_cons, List.foldl_nil, Nat.zero_max]

theorem safetyCheck_withKip_iff (tables : DvfsTablesPass custom) (table : KipTable) :
    safetyCheck (custom.withKip table) = true ↔ SafeWords table := by
  obtain ⟨⟨eristaCpu, foundEristaCpu, passEristaCpu⟩, ⟨marikoCpu, foundMarikoCpu, passMarikoCpu⟩,
    ⟨eristaGpu, foundEristaGpu, passEristaGpu⟩, ⟨marikoGpu, foundMarikoGpu, passMarikoGpu⟩⟩ :=
    withKip_tables tables table
  unfold safetyCheck
  simp only [foundEristaCpu, foundMarikoCpu, foundEristaGpu, foundMarikoGpu, validators,
    withKip_maxEmcClocks, List.all_cons, List.all_nil, passEristaCpu, passMarikoCpu, passEristaGpu, passMarikoGpu,
    Bool.true_and, Bool.and_true, Bool.and_eq_true]
  constructor
  · rintro ⟨eristaBoost, marikoBoost, eristaVolt, marikoVolt, memVolt, emcClocks, emcClock, vddq,
      vmax⟩
    exact
      { eristaCpuBoostClock := (check_required_iff (by decide) (by decide)).mp eristaBoost
        marikoCpuBoostClock := (check_required_iff (by decide) (by decide)).mp marikoBoost
        eristaCpuMaxVolt := (check_optional_iff (by decide) (by decide)).mp eristaVolt
        marikoCpuMaxVolt := (check_optional_iff (by decide) (by decide)).mp marikoVolt
        commonEmcMemVolt := (check_optional_iff (by decide) (by decide)).mp memVolt
        eristaEmcMaxClocks := (check_optional_iff (by decide) (by decide)).mp emcClocks
        marikoEmcMaxClock := (check_optional_iff (by decide) (by decide)).mp emcClock
        marikoEmcVddqVolt := (check_optional_iff (by decide) (by decide)).mp vddq
        marikoGpuVmax := (check_optional_iff (by decide) (by decide)).mp vmax }
  · intro safe
    exact ⟨(check_required_iff (by decide) (by decide)).mpr safe.eristaCpuBoostClock,
      (check_required_iff (by decide) (by decide)).mpr safe.marikoCpuBoostClock,
      (check_optional_iff (by decide) (by decide)).mpr safe.eristaCpuMaxVolt,
      (check_optional_iff (by decide) (by decide)).mpr safe.marikoCpuMaxVolt,
      (check_optional_iff (by decide) (by decide)).mpr safe.commonEmcMemVolt,
      (check_optional_iff (by decide) (by decide)).mpr safe.eristaEmcMaxClocks,
      (check_optional_iff (by decide) (by decide)).mpr safe.marikoEmcMaxClock,
      (check_optional_iff (by decide) (by decide)).mpr safe.marikoEmcVddqVolt,
      (check_optional_iff (by decide) (by decide)).mpr safe.marikoGpuVmax⟩

end Loader

namespace Sysmodule

open HorizonOc.Loader

/-- The values that the loader boots with, as they are left when they were narrowed to words. -/
structure BootableValues (values : ConfigValue → Nat) : Prop where
  eristaCpuBoostClock : 1020000 ≤ toU32 (values .eristaCpuBoostClock) ∧
    toU32 (values .eristaCpuBoostClock) ≤ 2397000
  marikoCpuBoostClock : 1020000 ≤ toU32 (values .marikoCpuBoostClock) ∧
    toU32 (values .marikoCpuBoostClock) ≤ 2703000
  eristaCpuMaxVolt : AbsentOrWithin 1000 1260 (toU32 (values .eristaCpuMaxVolt))
  marikoCpuMaxVolt : AbsentOrWithin 1000 1200 (toU32 (values .marikoCpuMaxVolt))
  commonEmcMemVolt : AbsentOrWithin 912500 1350000 (toU32 (values .commonEmcMemVolt))
  eristaEmcMaxClocks : AbsentOrWithin 1600000 2600000
    (max (max (toU32 (values .eristaEmcMaxClock2)) (toU32 (values .eristaEmcMaxClock1)))
      (toU32 (values .eristaEmcMaxClock)))
  marikoEmcMaxClock : AbsentOrWithin 1600000 3500000 (toU32 (values .marikoEmcMaxClock))
  marikoEmcVddqVolt : AbsentOrWithin 250000 700000 (toU32 (values .marikoEmcVddqVolt))
  marikoGpuVmax : AbsentOrWithin 800 960 (toU32 (values .marikoGpuVmax))

theorem setKipFields_word {pair : KipField × ConfigValue} (member : pair ∈ setKipBatch)
    (table : KipTable) (values : ConfigValue → Nat) :
    (setKipFields table values pair.1).toNat = toU32 (values pair.2) := by
  rw [setKipFields_written member, BitVec.toNat_ofNat]
  rfl

/-- The fields that `SafetyCheck` reads are narrowed values. -/
theorem safeWords_setKipFields_iff (table : KipTable) (values : ConfigValue → Nat) :
    SafeWords (setKipFields table values) ↔ BootableValues values := by
  have written (field : KipField) (kval : ConfigValue) (member : (field, kval) ∈ setKipBatch) :
      (setKipFields table values field).toNat = toU32 (values kval) :=
    setKipFields_word member table values
  have boostE := written .eristaCpuBoostClock .eristaCpuBoostClock (by decide)
  have boostM := written .marikoCpuBoostClock .marikoCpuBoostClock (by decide)
  have voltE := written .eristaCpuMaxVolt .eristaCpuMaxVolt (by decide)
  have voltM := written .marikoCpuMaxVolt .marikoCpuMaxVolt (by decide)
  have memVolt := written .commonEmcMemVolt .commonEmcMemVolt (by decide)
  have first := written .eristaEmcMaxClock .eristaEmcMaxClock (by decide)
  have second := written .eristaEmcMaxClock1 .eristaEmcMaxClock1 (by decide)
  have third := written .eristaEmcMaxClock2 .eristaEmcMaxClock2 (by decide)
  have clock := written .marikoEmcMaxClock .marikoEmcMaxClock (by decide)
  have vddq := written .marikoEmcVddqVolt .marikoEmcVddqVolt (by decide)
  have vmax := written .marikoGpuVmax .marikoGpuVmax (by decide)
  constructor
  · intro safe
    exact
      { eristaCpuBoostClock := by rw [← boostE]; exact safe.eristaCpuBoostClock
        marikoCpuBoostClock := by rw [← boostM]; exact safe.marikoCpuBoostClock
        eristaCpuMaxVolt := by rw [← voltE]; exact safe.eristaCpuMaxVolt
        marikoCpuMaxVolt := by rw [← voltM]; exact safe.marikoCpuMaxVolt
        commonEmcMemVolt := by rw [← memVolt]; exact safe.commonEmcMemVolt
        eristaEmcMaxClocks := by rw [← first, ← second, ← third]; exact safe.eristaEmcMaxClocks
        marikoEmcMaxClock := by rw [← clock]; exact safe.marikoEmcMaxClock
        marikoEmcVddqVolt := by rw [← vddq]; exact safe.marikoEmcVddqVolt
        marikoGpuVmax := by rw [← vmax]; exact safe.marikoGpuVmax }
  · intro bootable
    exact
      { eristaCpuBoostClock := by rw [boostE]; exact bootable.eristaCpuBoostClock
        marikoCpuBoostClock := by rw [boostM]; exact bootable.marikoCpuBoostClock
        eristaCpuMaxVolt := by rw [voltE]; exact bootable.eristaCpuMaxVolt
        marikoCpuMaxVolt := by rw [voltM]; exact bootable.marikoCpuMaxVolt
        commonEmcMemVolt := by rw [memVolt]; exact bootable.commonEmcMemVolt
        eristaEmcMaxClocks := by rw [first, second, third]; exact bootable.eristaEmcMaxClocks
        marikoEmcMaxClock := by rw [clock]; exact bootable.marikoEmcMaxClock
        marikoEmcVddqVolt := by rw [vddq]; exact bootable.marikoEmcVddqVolt
        marikoGpuVmax := by rw [vmax]; exact bootable.marikoGpuVmax }

/-- Only the values that go to the table decide. -/
theorem setKipFields_accepted (table : KipTable) (values : ConfigValue → Nat) :
    setKipFields table (fun kval => Config.acceptedValue kval (values kval)) =
      setKipFields table values := by
  funext field
  by_cases written : field ∈ setKipBatch.map Prod.fst
  · obtain ⟨⟨field, kval⟩, member, rfl⟩ := List.mem_map.mp written
    have accepted := acceptedValue_kip member (values kval)
    rw [setKipFields_written member, setKipFields_written member, accepted]
  · rw [setKipFields_kept written, setKipFields_kept written]

/-- The KIP once an accepted list was stored and written to it. -/
theorem stored_rewrite {config stored : Config} {card written : Card} {now : Stamp}
    (later : Stamp) {values : ConfigValue → Nat} {file : KipFile} {offset : Nat}
    (succeeded : config.setConfigValues card now values true = (true, stored, written))
    (located : Located file.bytes offset) (writable : file.writable = true) :
    ∃ after, (KipState.setKipData ⟨stored, written, some file⟩ later).kip = some after ∧
      custReadTable after.bytes = some (setKipFields (tableAt file.bytes offset) values) := by
  unfold Config.setConfigValues at succeeded
  cases put : card.put now configValSection (Config.valuePairs values) with
  | none => simp [put] at succeeded
  | some store =>
      simp only [put, if_true, Prod.mk.injEq, true_and] at succeeded
      obtain ⟨rfl, rfl⟩ := succeeded
      have stays : store.writable = true := by
        unfold Card.put at put
        split at put
        · rename_i card
          rw [← Option.some.inj put]
          exact card
        · contradiction
      refine ⟨_, by rw [KipState.setKipData_located rfl located stays], ?_⟩
      refine custReadTable_eq_some_iff.mpr ⟨offset, KipFile.rewrite_located located, ?_⟩
      rw [KipFile.rewrite_table located writable, setKipFields_accepted]

/-- A list that `SetConfigValues` stored and `SetKipData` wrote passes `SafetyCheck` exactly if its
words lie in the loader's ranges, which the sysmodule does not check. -/
theorem stored_values_boot_iff {config stored : Config} {card written : Card} {now : Stamp}
    (later : Stamp) {values : ConfigValue → Nat} {file : KipFile} {offset : Nat}
    {custom : CustomizeTable}
    (succeeded : config.setConfigValues card now values true = (true, stored, written))
    (located : Located file.bytes offset) (writable : file.writable = true)
    (tables : DvfsTablesPass custom) :
    (∃ after table, (KipState.setKipData ⟨stored, written, some file⟩ later).kip = some after ∧
      custReadTable after.bytes = some table ∧ safetyCheck (custom.withKip table) = true) ↔
    BootableValues values := by
  obtain ⟨after, present, read⟩ := stored_rewrite later succeeded located writable
  rw [← safeWords_setKipFields_iff (tableAt file.bytes offset) values,
    ← safetyCheck_withKip_iff tables]
  constructor
  · rintro ⟨other, table, there, found, safe⟩
    have same : after = other := Option.some.inj (present.symm.trans there)
    subst same
    rw [Option.some.inj (read.symm.trans found)]
    exact safe
  · intro safe
    exact ⟨after, _, present, read, safe⟩

theorem shipped_tables : DvfsTablesPass shipped := by
  constructor <;> exact ⟨_, rfl, by decide +kernel⟩

/-- The default values are accepted, but a boost clock is required. -/
theorem default_values_crash :
    let card : Card := { file := none, writable := true }
    let after := Config.initial.setConfigValues card ⟨7, by decide⟩ hocclkDefaultConfigValue true
    after.1 = true ∧ (∀ kval, hocclkValidConfigValue kval (hocclkDefaultConfigValue kval) = true) ∧
    ∃ kip table, (KipState.setKipData ⟨after.2.1, after.2.2, some (blankKip 1)⟩
        ⟨8, by decide⟩).kip = some kip ∧
      custReadTable kip.bytes = some table ∧ safetyCheck (shipped.withKip table) = false := by
  intro card after
  obtain ⟨kip, present, read⟩ := stored_rewrite ⟨8, by decide⟩
    (show Config.initial.setConfigValues card ⟨7, by decide⟩ hocclkDefaultConfigValue true =
      (true, after.2.1, after.2.2) from rfl) (blankKip_located 1).1 rfl
  refine ⟨rfl, hocclkDefaultConfigValue_valid, kip, _, present, read, ?_⟩
  rw [Bool.eq_false_iff, ne_eq, safetyCheck_withKip_iff shipped_tables,
    safeWords_setKipFields_iff]
  intro bootable
  exact absurd bootable.eristaCpuBoostClock.1 (by decide)

/-- The defaults with the loader's boost clocks. -/
def boostedValues : ConfigValue → Nat :=
  Function.update (Function.update hocclkDefaultConfigValue .eristaCpuBoostClock 1785000)
    .marikoCpuBoostClock 1963000

theorem stored_values_boot_boosted :
    let card : Card := { file := none, writable := true }
    let after := Config.initial.setConfigValues card ⟨7, by decide⟩ boostedValues true
    ∃ kip table, (KipState.setKipData ⟨after.2.1, after.2.2, some (blankKip 1)⟩
        ⟨8, by decide⟩).kip = some kip ∧
      custReadTable kip.bytes = some table ∧ safetyCheck (shipped.withKip table) = true := by
  intro card after
  refine (stored_values_boot_iff _
    (show Config.initial.setConfigValues card ⟨7, by decide⟩ boostedValues true =
      (true, after.2.1, after.2.2) from rfl) (blankKip_located 1).1 rfl shipped_tables).mpr ?_
  constructor <;> first | decide | exact .inl rfl

end Sysmodule

end HorizonOc
