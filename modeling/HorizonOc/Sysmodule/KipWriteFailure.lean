import HorizonOc.Sysmodule.KipChecksum

namespace HorizonOc.Sysmodule

open HorizonOc.Data

/-- Where `cust_write_table` gives up. -/
inductive CustWriteFailure where
  | open
  | magicNotFound
  | pastTheEnd
  | shortWrite (written : Fin kipTableSize)
deriving DecidableEq, Repr

/-- The file that a failed `cust_write_table` leaves; a short write leaves the first bytes of the
table. -/
def CustWriteFailure.leaves (failure : CustWriteFailure) (file : KipFile) (table : KipTable) :
    KipFile :=
  match failure with
  | .open | .magicNotFound | .pastTheEnd => file
  | .shortWrite written =>
      match custFindOffset file.bytes with
      | none => file
      | some offset =>
          { file with
            bytes := overwrite file.bytes offset ((pack KipField.all table).take written) }

namespace KipState

/-- `SetKipData` over any `cust_write_table`, given by the file that it leaves. -/
def setKipDataBy (writeTable : KipFile → KipTable → KipFile) (state : KipState) (now : Stamp) :
    KipState :=
  match state.kip with
  | none => state
  | some file =>
      match custReadTable file.bytes with
      | none => state
      | some table =>
          -- A failure is logged and the checksum is taken all the same.
          let kip := writeTable file (setKipFields table state.config.values)
          let configValues :=
            Function.update state.config.values .kipCrc32 (checksumFile (some kip))
          ({ state with kip := some kip }.setConfigValues now configValues false).2

theorem setKipData_by (state : KipState) (now : Stamp) :
    state.setKipData now =
      state.setKipDataBy (fun file table => (custWriteTable file table).getD file) now := rfl

/-- A file that cannot be opened for writing is one of the failures. -/
theorem setKipData_unwritable {state : KipState} {file : KipFile} (now : Stamp)
    (present : state.kip = some file) (unwritable : file.writable = false) :
    state.setKipData now = state.setKipDataBy CustWriteFailure.open.leaves now := by
  rw [setKipData_by]
  unfold setKipDataBy
  simp only [present, custWriteTable, unwritable, Bool.not_false, if_true, Option.getD_none,
    CustWriteFailure.leaves]

/-- The configuration in memory and all values of the INI file are as they were. -/
structure ConfigKept (before after : KipState) : Prop where
  memory : after.config = before.config
  kipCrc32 : after.card.stored .kipCrc32 = before.card.stored .kipCrc32
  others : ∀ kval ≠ .kipCrc32, after.card.stored kval = before.card.stored kval

section

variable {state : KipState} {file : KipFile} {table : KipTable} {now : Stamp}

/-- The values go to the INI file whatever became of the table. -/
theorem setKipDataBy_writable (writeTable : KipFile → KipTable → KipFile)
    (present : state.kip = some file) (read : custReadTable file.bytes = some table)
    (writable : state.card.writable = true) :
    let kip := writeTable file (setKipFields table state.config.values)
    state.setKipDataBy writeTable now =
      { state with kip := some kip, card := state.card.store now (state.stampedValues kip) } := by
  intro kip
  simp only [setKipDataBy, present, read]
  rw [setConfigValues_writable (by exact writable)]
  rfl

theorem setKipDataBy_unwritable (writeTable : KipFile → KipTable → KipFile)
    (present : state.kip = some file) (read : custReadTable file.bytes = some table)
    (unwritable : state.card.writable = false) :
    state.setKipDataBy writeTable now =
      { state with kip := some (writeTable file (setKipFields table state.config.values)) } := by
  simp [setKipDataBy, present, read, setConfigValues, Config.setConfigValues, Card.put, unwritable]

/-- The values that are read back after `SetKipData`. -/
theorem setKipDataBy_stored (now : Stamp) (writeTable : KipFile → KipTable → KipFile)
    (present : state.kip = some file) (read : custReadTable file.bytes = some table)
    (writable : state.card.writable = true)
    (single : Config.SingleValues state.card) (fits : state.config.ValuesFit)
    (kval : ConfigValue) :
    (state.setKipDataBy writeTable now).card.stored kval =
      if kval = .kipCrc32 then
        checksumFile (some (writeTable file (setKipFields table state.config.values)))
      else Config.acceptedValue kval (state.config.values kval) := by
  rw [setKipDataBy_writable writeTable present read writable,
    Card.stored_store writable single (KipWorld.stampedValues_fits fits _)]
  by_cases stamped : kval = .kipCrc32
  · rw [if_pos stamped, stamped, KipWorld.acceptedValue_kipCrc32, stampedValues,
      Function.update_self]
  · rw [if_neg stamped, stampedValues, Function.update_of_ne stamped]

end

end KipState

/-- After a failed write the configuration is kept exactly if the INI file cannot be written or
already holds the checksum of what is left of the KIP, and the other values of the memory. -/
theorem failed_kip_write_keeps_config_iff {state : KipState} {file : KipFile} {table : KipTable}
    (failure : CustWriteFailure) (now : Stamp) (present : state.kip = some file)
    (read : custReadTable file.bytes = some table) (single : Config.SingleValues state.card)
    (fits : state.config.ValuesFit) :
    state.ConfigKept (state.setKipDataBy failure.leaves now) ↔
      state.card.writable = false ∨
        (checksumFile (some (failure.leaves file (setKipFields table state.config.values))) =
            state.card.stored .kipCrc32 ∧
          ∀ kval ≠ .kipCrc32, Config.acceptedValue kval (state.config.values kval) =
            state.card.stored kval) := by
  cases writable : state.card.writable with
  | false =>
      have kept : state.ConfigKept (state.setKipDataBy failure.leaves now) := by
        rw [KipState.setKipDataBy_unwritable failure.leaves present read writable]
        exact { memory := rfl, kipCrc32 := rfl, others := fun kval _ => rfl }
      exact ⟨fun _ => .inl rfl, fun _ => kept⟩
  | true =>
      have memory : (state.setKipDataBy failure.leaves now).config = state.config := by
        rw [KipState.setKipDataBy_writable failure.leaves present read writable]
      have stored (kval : ConfigValue) := KipState.setKipDataBy_stored now failure.leaves present read
        writable single fits kval
      constructor
      · intro kept
        refine .inr ⟨?_, fun kval other => ?_⟩
        · rw [← kept.kipCrc32, stored, if_pos rfl]
        · rw [← kept.others kval other, stored, if_neg other]
      · rintro (impossible | ⟨checksum, values⟩)
        · contradiction
        · refine ⟨memory, ?_, fun kval other => ?_⟩
          · rw [stored, if_pos rfl, checksum]
          · rw [stored, if_neg other, values kval other]

/-- A KIP whose checksum is known can fail to be written without harm. -/
theorem failed_kip_write_keeps_config_known :
    let state := (knownBoot (blankKip 0)).refresh.2
    state.ConfigKept (state.setKipDataBy CustWriteFailure.pastTheEnd.leaves ⟨9, by decide⟩) := by
  intro state
  obtain ⟨located, -⟩ := blankKip_located 0
  have read : custReadTable (blankKip 0).bytes = some (tableAt (blankKip 0).bytes 0) :=
    custReadTable_eq_some_iff.mpr ⟨0, located, rfl⟩
  have values : state.config.values = knownValues (blankKip 0) := knownBoot_values (blankKip 0)
  have stored : state.card.stored = knownValues (blankKip 0) := knownBoot_values (blankKip 0)
  have fits : state.config.ValuesFit := by
    intro kval
    rw [values]
    exact knownValues_fits (blankKip 0) kval
  have present : state.kip = some (blankKip 0) := rfl
  have single : Config.SingleValues state.card := knownBoot_single (blankKip 0)
  refine (failed_kip_write_keeps_config_iff .pastTheEnd _ present read single fits).mpr
    (.inr ⟨?_, fun kval _ => ?_⟩)
  · rw [stored, knownValues, Function.update_self, CustWriteFailure.leaves]
  · rw [values, stored, knownValues_accepted]

/-- A KIP that can be read but not written, before there is an INI file. -/
theorem failed_kip_write_stores_checksum :
    let state := firstBoot { blankKip 0 with writable := false }
    ¬ state.ConfigKept (state.setKipData ⟨7, by decide⟩) := by
  intro state kept
  obtain ⟨located, -⟩ := blankKip_located 0
  have read : custReadTable (blankKip 0).bytes = some (tableAt (blankKip 0).bytes 0) :=
    custReadTable_eq_some_iff.mpr ⟨0, located, rfl⟩
  have present : state.kip = some { blankKip 0 with writable := false } := rfl
  have single : Config.SingleValues state.card := Nat.zero_le 1
  have fits : state.config.ValuesFit := hocclkDefaultConfigValue_fits
  have changed := kept.kipCrc32
  rw [KipState.setKipData_unwritable _ present rfl,
    KipState.setKipDataBy_stored _ CustWriteFailure.open.leaves present read rfl single fits,
    if_pos rfl, CustWriteFailure.leaves] at changed
  have none : state.card.stored .kipCrc32 = 0 := rfl
  have checksum : checksumFile (some { blankKip 0 with writable := false }) ≠ 0 := by
    decide +kernel
  exact checksum (changed.trans none)

end HorizonOc.Sysmodule
