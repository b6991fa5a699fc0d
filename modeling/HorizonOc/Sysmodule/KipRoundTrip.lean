import HorizonOc.Sysmodule.KipSteps

namespace HorizonOc.Sysmodule

open HorizonOc.Data

/-- The file as it was, but that the speedo of the fuses may stand in its field. -/
def RestoredKip (before : KipFile) (offset gpuSpeedo : Nat) (after : KipFile) : Prop :=
  after = before ∨ after = { before with
    bytes := overwrite before.bytes (offset + 4 * KipField.all.idxOf .gpuSpeedo)
      (wordBytes (.ofNat 32 gpuSpeedo)) }

/-- A table with a speedo and a revision put into it. -/
def revised (table : KipTable) (gpuSpeedo revision : Nat) : KipTable :=
  Function.update (Function.update table .gpuSpeedo (.ofNat 32 gpuSpeedo)) .custRev
    (.ofNat 32 revision)

/-- The file with the revised table, where it can be written. -/
def KipFile.revise (file : KipFile) (offset gpuSpeedo revision : Nat) : KipFile :=
  if file.writable then
    let table := revised (tableAt file.bytes offset) gpuSpeedo revision
    { file with bytes := overwrite file.bytes offset (pack KipField.all table) }
  else file

section

variable {file : KipFile} {offset gpuSpeedo revision : Nat}

theorem revised_revision {table : KipTable} (same : .ofNat 32 revision = table .custRev) :
    revised table gpuSpeedo revision =
      Function.update table .gpuSpeedo (.ofNat 32 gpuSpeedo) := by
  rw [revised, same, ← Function.update_of_ne (show KipField.custRev ≠ .gpuSpeedo by decide)
    (.ofNat 32 gpuSpeedo) table, Function.update_eq_self]

/-- The revised file is restored exactly if the revision that was put in is the one that was there. -/
theorem restoredKip_revise_iff (located : Located file.bytes offset) :
    RestoredKip file offset gpuSpeedo (file.revise offset gpuSpeedo revision) ↔
      file.writable = false ∨ .ofNat 32 revision = tableAt file.bytes offset .custRev := by
  cases writable : file.writable with
  | false => simp [RestoredKip, KipFile.revise, writable]
  | true =>
      simp only [RestoredKip, KipFile.revise, writable, if_true, Bool.true_eq_false, false_or,
        overwrite_field located.within]
      constructor
      · let table := tableAt file.bytes offset
        have written := (located.overwrite (revised table gpuSpeedo revision) rfl).2
        have speedo := (located.overwrite
          (Function.update table .gpuSpeedo (.ofNat 32 gpuSpeedo)) rfl).2
        have put : tableAt (overwrite file.bytes offset (pack KipField.all
            (revised table gpuSpeedo revision))) offset .custRev = .ofNat 32 revision := by
          rw [written, revised, Function.update_self]
        rintro (same | same)
        · have bytes : overwrite file.bytes offset (pack KipField.all
              (revised table gpuSpeedo revision)) = file.bytes := congrArg KipFile.bytes same
          rw [← put, bytes]
        · have bytes := (KipFile.mk.inj same).1
          rw [← put, bytes, speedo, Function.update_of_ne (by decide)]
      · intro same
        rw [revised_revision same]
        exact .inr rfl

end

namespace KipState

variable {boot : KipState} {file : KipFile} {offset gpuSpeedo : Nat} {now : Stamp}

/-- The revision in the list is the one of the configuration, not the one of the table. -/
theorem loadedKipValues_revision {values : ConfigValue → Nat} {installed : Nat} :
    Function.update (if values .isFirstLoad = 1 then Function.update values .isFirstLoad 0
      else values) .kipCrc32 installed .custRev = values .custRev := by
  rw [Function.update_of_ne (by decide)]
  split
  · exact Function.update_of_ne (by decide) _ _
  · rfl

/-- What comes back, whatever the table and the fuses hold. -/
theorem setKipData_getKipData (later : Stamp) (present : boot.kip = some file)
    (located : Located file.bytes offset) (fuse : gpuSpeedo < 2 ^ 16)
    (writable : boot.card.writable = true) (single : Config.SingleValues boot.card)
    (loads : boot.LoadsKip file) (reloads : (boot.getKipData now gpuSpeedo).refresh.1 = true) :
    ((boot.getKipData now gpuSpeedo).refresh.2.setKipData later).kip =
      some (file.revise offset gpuSpeedo (boot.refresh.2.config.values .custRev)) := by
  let table := tableAt file.bytes offset
  let before := boot.refresh.2.config.values
  have fits := loadedKipValues_fits (refresh_true_fits loads.refreshed) file table
    (show gpuSpeedo < 2 ^ 64 by omega)
  have loaded := getKipData_loads now gpuSpeedo present located writable loads
  have stored : (boot.getKipData now gpuSpeedo).card =
      boot.card.store now (loadedKipValues before file table gpuSpeedo) := by
    rw [loaded]
  have values : (boot.getKipData now gpuSpeedo).refresh.2.config.values = fun kval =>
      Config.acceptedValue kval (loadedKipValues before file table gpuSpeedo kval) := by
    rw [refresh_true reloads, stored]
    exact Card.load_store writable single fits _
  have kip : (boot.getKipData now gpuSpeedo).refresh.2.kip = some file := by
    rw [refresh_kip, loaded]
    exact present
  have card : (boot.getKipData now gpuSpeedo).refresh.2.card.writable = true := by
    rw [refresh_card, stored]
    exact writable
  have fields : setKipFields table (boot.getKipData now gpuSpeedo).refresh.2.config.values =
      revised table gpuSpeedo (before .custRev) := by
    rw [values]
    refine (setKipFields_getKipFields fun pair member => acceptedValue_kip member _).trans ?_
    rw [loadedKipValues_revision]
    rfl
  rw [setKipData_located kip located card]
  simp only [KipFile.rewrite, KipFile.revise, fields, table, before]

end KipState

/-- Loading the table, reloading the INI file and writing the table back restores the KIP exactly
if the configuration already had the revision of the table, which is never loaded. -/
theorem kip_round_trip_iff {boot : KipState} {file : KipFile} {offset gpuSpeedo : Nat}
    (now later : Stamp) (present : boot.kip = some file) (located : Located file.bytes offset)
    (fuse : gpuSpeedo < 2 ^ 16) (writable : boot.card.writable = true)
    (single : Config.SingleValues boot.card) (loads : boot.LoadsKip file)
    (reloads : (boot.getKipData now gpuSpeedo).refresh.1 = true) :
    (∃ after, ((boot.getKipData now gpuSpeedo).refresh.2.setKipData later).kip = some after ∧
      RestoredKip file offset gpuSpeedo after) ↔
    file.writable = false ∨ .ofNat 32 (boot.refresh.2.config.values .custRev) =
      tableAt file.bytes offset .custRev := by
  rw [KipState.setKipData_getKipData later present located fuse writable single loads reloads]
  constructor
  · rintro ⟨after, written, restored⟩
    rw [← Option.some.inj written] at restored
    exact (restoredKip_revise_iff located).mp restored
  · intro revision
    exact ⟨_, rfl, (restoredKip_revise_iff located).mpr revision⟩

/-- A table that holds nothing but its revision. -/
def blankTable (revision : Nat) : KipTable := fun field =>
  match field with
  | .cust => bytesWord custMagic
  | .custRev => .ofNat 32 revision
  | _ => 0

def blankKip (revision : Nat) : KipFile :=
  { bytes := pack KipField.all (blankTable revision), writable := true }

def firstBoot (kip : KipFile) : KipState :=
  { config := Config.initial, card := { file := none, writable := true }, kip := some kip }

theorem blankKip_located (revision : Nat) : Located (blankKip revision).bytes 0 ∧
    tableAt (blankKip revision).bytes 0 = blankTable revision :=
  located_pack (wordBytes_bytesWord rfl)

/-- The default values leave nothing in such a table. -/
theorem setKipFields_blank {values : ConfigValue → Nat}
    (zero : ∀ pair ∈ setKipBatch, values pair.2 = 0) (revision : Nat) :
    setKipFields (blankTable revision) values = blankTable 0 := by
  have blank : ∀ pair ∈ setKipBatch, blankTable 0 pair.1 = 0 := by decide +kernel
  funext field
  by_cases written : field ∈ setKipBatch.map Prod.fst
  · obtain ⟨⟨field, kval⟩, member, rfl⟩ := List.mem_map.mp written
    rw [setKipFields_written member, zero _ member, blank _ member]
    rfl
  · rw [setKipFields_kept written]
    cases field with
    | custRev => exact absurd (by decide) written
    | _ => rfl

/-- A file that is nothing but its table. -/
theorem rewrite_whole {table : KipTable} {values : ConfigValue → Nat}
    (read : tableAt (pack KipField.all table) 0 = table) :
    ({ bytes := pack KipField.all table, writable := true } : KipFile).rewrite 0 values =
      { bytes := pack KipField.all (setKipFields table values), writable := true } := by
  have length : (pack KipField.all (setKipFields table values)).length =
      (pack KipField.all table).length := by
    rw [pack_length, pack_length]
  simp only [KipFile.rewrite, if_true, read]
  rw [overwrite_whole length]

theorem rewrite_blank {values : ConfigValue → Nat}
    (zero : ∀ pair ∈ setKipBatch, values pair.2 = 0) (revision : Nat) :
    (blankKip revision).rewrite 0 values = blankKip 0 := by
  rw [blankKip, rewrite_whole (blankKip_located revision).2, setKipFields_blank zero, blankKip]

theorem firstBoot_single (kip : KipFile) : Config.SingleValues (firstBoot kip).card := Nat.zero_le 1

theorem firstBoot_loads (kip : KipFile) : (firstBoot kip).LoadsKip kip where
  refreshed := rfl
  notUpdated := by
    have installed : (firstBoot kip).refresh.2.config.values .isFirstLoad = 1 := rfl
    simp [KipState.kipUpdated, installed]

theorem firstBoot_reloads (kip : KipFile) {offset : Nat} (located : Located kip.bytes offset)
    (now : Stamp) (gpuSpeedo : Nat) :
    ((firstBoot kip).getKipData now gpuSpeedo).refresh.1 = true := by
  rw [KipState.getKipData_loads now gpuSpeedo rfl located rfl (firstBoot_loads kip)]
  have stamped : 0 ≠ now.seconds := (Nat.ne_of_lt now.positive)
  simp [KipState.refresh, Config.refresh, firstBoot, Config.initial, Config.load, Card.configFile,
    Card.store, stamped]

/-- The revision of the loader's own table is 1, and the first round trip makes it 0. -/
theorem kip_round_trip_loses_revision :
    let kip := blankKip 1
    let loaded := (firstBoot kip).getKipData ⟨7, by decide⟩ 1700
    Located kip.bytes 0 ∧ (firstBoot kip).LoadsKip kip ∧ loaded.refresh.1 = true ∧
    ¬∃ after, (loaded.refresh.2.setKipData ⟨8, by decide⟩).kip = some after ∧
      RestoredKip kip 0 1700 after := by
  intro kip loaded
  obtain ⟨located, table⟩ := blankKip_located 1
  have reloads := firstBoot_reloads kip located ⟨7, by decide⟩ 1700
  refine ⟨located, firstBoot_loads kip, reloads, ?_⟩
  rintro ⟨after, written, restored⟩
  have back := KipState.setKipData_getKipData ⟨8, by decide⟩ rfl located
    (show 1700 < 2 ^ 16 by decide) rfl (firstBoot_single kip) (firstBoot_loads kip) reloads
  rw [back] at written
  rw [← Option.some.inj written, restoredKip_revise_iff located, table] at restored
  exact absurd restored (by decide)

/-- A table of revision 0 with a clock, voltages, a timing and an entry of an array. -/
def tunedTable : KipTable :=
  [(KipField.marikoEmcMaxClock, 2133000), (.commonEmcMemVolt, 1200000), (.marikoCpuMaxVolt, 1120),
   (.t1_tRCD, 4), (.marikoGpuVoltArray ⟨3, by decide⟩, 700)].foldl
    (fun table entry => Function.update table entry.1 entry.2) (blankTable 0)

def tunedKip : KipFile := { bytes := pack KipField.all tunedTable, writable := true }

theorem tunedKip_located : Located tunedKip.bytes 0 ∧ tableAt tunedKip.bytes 0 = tunedTable :=
  located_pack (wordBytes_bytesWord rfl)

/-- Where the table's revision is the default of the configuration, all of it comes back. -/
theorem kip_round_trip_iff_tuned :
    let loaded := (firstBoot tunedKip).getKipData ⟨7, by decide⟩ 1700
    ∃ after, (loaded.refresh.2.setKipData ⟨8, by decide⟩).kip = some after ∧
      RestoredKip tunedKip 0 1700 after := by
  intro loaded
  obtain ⟨located, table⟩ := tunedKip_located
  refine (kip_round_trip_iff _ _ rfl located (by decide) rfl (firstBoot_single tunedKip)
    (firstBoot_loads tunedKip) (firstBoot_reloads tunedKip located _ _)).mpr (.inr ?_)
  rw [table]
  rfl

end HorizonOc.Sysmodule
