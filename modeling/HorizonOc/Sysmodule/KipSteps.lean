import HorizonOc.Sysmodule.KipTables

namespace HorizonOc.Sysmodule

open HorizonOc.Data

/-- The card once a list of values was written to it. -/
def Card.store (card : Card) (now : Stamp) (values : ConfigValue → Nat) : Card :=
  let sections := putSection configValSection (Config.valuePairs values) card.sections
  { card with file := some { modified := now, sections } }

namespace Card

variable {card : Card} {now : Stamp} {values : ConfigValue → Nat}

theorem put_store (writable : card.writable = true) :
    card.put now configValSection (Config.valuePairs values) = some (card.store now values) := by
  rw [Card.put, if_pos writable]
  rfl

@[simp] theorem store_writable : (card.store now values).writable = card.writable := rfl

theorem store_single (writable : card.writable = true) (single : Config.SingleValues card) :
    Config.SingleValues (card.store now values) :=
  Config.single_put single (put_store writable)

/-- What any load reads from the values that were written. -/
theorem load_store (writable : card.writable = true) (single : Config.SingleValues card)
    (fits : ∀ kval, values kval < 2 ^ 64) (config : Config) :
    (config.load (card.store now values).configFile).values =
      fun kval => Config.acceptedValue kval (values kval) :=
  Config.load_put fits single (put_store writable) config

end Card

/-- The file once `SetKipData` wrote the values over its table; as it was, where it cannot be
written. -/
def KipFile.rewrite (file : KipFile) (offset : Nat) (values : ConfigValue → Nat) : KipFile :=
  if file.writable then
    let table := setKipFields (tableAt file.bytes offset) values
    { file with bytes := overwrite file.bytes offset (pack KipField.all table) }
  else file

namespace KipFile

variable {file : KipFile} {offset : Nat} {values : ConfigValue → Nat}

theorem custWriteTable_rewrite (located : Located file.bytes offset) :
    (custWriteTable file (setKipFields (tableAt file.bytes offset) values)).getD file =
      file.rewrite offset values := by
  rw [custWriteTable_located located, rewrite]
  cases file.writable <;> rfl

theorem rewrite_located (located : Located file.bytes offset) :
    Located (file.rewrite offset values).bytes offset := by
  unfold rewrite
  split
  · exact (located.overwrite _ setKipFields_cust).1
  · exact located

theorem rewrite_table (located : Located file.bytes offset) (writable : file.writable = true) :
    tableAt (file.rewrite offset values).bytes offset =
      setKipFields (tableAt file.bytes offset) values := by
  rw [rewrite, if_pos writable]
  exact (located.overwrite _ setKipFields_cust).2

end KipFile

theorem checksumFile_fits (kip : Option KipFile) : checksumFile kip < 2 ^ 64 := by
  cases kip with
  | none => exact Nat.two_pow_pos 64
  | some file =>
      have word := (crc32 file.bytes).isLt
      rw [checksumFile]
      omega

namespace KipState

variable {state : KipState} {file : KipFile} {offset gpuSpeedo : Nat} {now : Stamp}
  {values : ConfigValue → Nat}

theorem setConfigValues_writable (writable : state.card.writable = true) :
    (state.setConfigValues now values false).2 =
      { state with card := state.card.store now values } := by
  simp [setConfigValues, Config.setConfigValues, Card.put_store writable]

theorem setConfigValues_immediate (writable : state.card.writable = true) :
    (state.setConfigValues now values true).2 =
      { state with
        config := { state.config with
          values := fun kval => Config.acceptedValue kval (values kval) }
        card := state.card.store now values } := by
  simp [setConfigValues, Config.setConfigValues, Card.put_store writable]

/-- The list that `SetKipData` writes to the INI file. -/
def stampedValues (state : KipState) (kip : KipFile) : ConfigValue → Nat :=
  Function.update state.config.values .kipCrc32 (checksumFile (some kip))

theorem setKipData_located (present : state.kip = some file) (located : Located file.bytes offset)
    (writable : state.card.writable = true) :
    state.setKipData now =
      { state with
        kip := some (file.rewrite offset state.config.values)
        card := state.card.store now
          (state.stampedValues (file.rewrite offset state.config.values)) } := by
  have read : custReadTable file.bytes = some (tableAt file.bytes offset) :=
    custReadTable_eq_some_iff.mpr ⟨offset, located, rfl⟩
  simp only [setKipData, present, read, KipFile.custWriteTable_rewrite located]
  rw [setConfigValues_writable (by exact writable)]
  rfl

@[simp] theorem refresh_card : state.refresh.2.card = state.card := rfl

@[simp] theorem refresh_kip : state.refresh.2.kip = state.kip := rfl

/-- `GetKipData` comes to load the table of the file. -/
structure LoadsKip (state : KipState) (file : KipFile) : Prop where
  refreshed : state.refresh.1 = true
  notUpdated : kipUpdated state.refresh.2.config.values file = false

theorem getKipData_loads (now : Stamp) (gpuSpeedo : Nat) (present : state.kip = some file) (located : Located file.bytes offset)
    (writable : state.card.writable = true) (loads : state.LoadsKip file) :
    state.getKipData now gpuSpeedo =
      { state.refresh.2 with
        card := state.card.store now (loadedKipValues state.refresh.2.config.values file
          (tableAt file.bytes offset) gpuSpeedo) } := by
  have read : custReadTable file.bytes = some (tableAt file.bytes offset) :=
    custReadTable_eq_some_iff.mpr ⟨offset, located, rfl⟩
  have branch : state.getKipData now gpuSpeedo =
      (state.refresh.2.setConfigValues now (loadedKipValues state.refresh.2.config.values file
        (tableAt file.bytes offset) gpuSpeedo) false).2 := by
    simp only [getKipData, loads.refreshed, refresh_kip, present, read, loads.notUpdated,
      Bool.not_true, Bool.false_eq_true, if_false]
  rw [branch, setConfigValues_writable (by exact writable)]
  rfl

/-- Where it answers true, `Refresh` loaded the file. -/
theorem refresh_true (changed : state.refresh.1 = true) :
    state.refresh.2.config = state.config.load state.card.configFile := by
  simp only [refresh] at changed ⊢
  rcases state.config.refresh_cases state.card.configFile with loaded | kept
  · rw [loaded]
  · rw [kept] at changed
    contradiction

theorem refresh_true_fits (changed : state.refresh.1 = true) (kval : ConfigValue) :
    state.refresh.2.config.values kval < 2 ^ 64 := by
  rw [refresh_true changed]
  exact Config.load_fits state.config state.card kval

theorem loadedKipValues_fits (fits : ∀ kval, values kval < 2 ^ 64) (file : KipFile)
    (table : KipTable) (fuse : gpuSpeedo < 2 ^ 64) (kval : ConfigValue) :
    loadedKipValues values file table gpuSpeedo kval < 2 ^ 64 := by
  apply getKipFields_fits _ fuse
  intro other
  by_cases stamped : other = .kipCrc32
  · rw [stamped, Function.update_self]
    exact checksumFile_fits (some file)
  · rw [Function.update_of_ne stamped]
    split
    · by_cases installed : other = .isFirstLoad
      · rw [installed, Function.update_self]
        exact Nat.two_pow_pos 64
      · rw [Function.update_of_ne installed]
        exact fits other
    · exact fits other

end KipState

end HorizonOc.Sysmodule
