import HorizonOc.Sysmodule.KipRuns

namespace HorizonOc.Sysmodule

open HorizonOc.Data

/-- The pairs of fields and values that are neither the speedo nor among those that clients set. -/
def Unset (settable : ConfigValue → Prop) (pair : KipField × ConfigValue) : Prop :=
  pair ∈ setKipBatch ∧ pair.1 ≠ .gpuSpeedo ∧ ¬settable pair.2

/-- A list of values gives the fields that nobody set what the table has. -/
def Agrees (settable : ConfigValue → Prop) (table : KipTable) (values : ConfigValue → Nat) : Prop :=
  ∀ pair, Unset settable pair → .ofNat 32 (values pair.2) = table pair.1

/-- Clients set nothing else. -/
def KipStep.SetsOnly (settable : ConfigValue → Prop) : KipStep → Prop
  | .setConfigValues _ _ edits => ∀ kval, ¬settable kval → edits.new kval = none
  | _ => True

namespace KipWorld

variable {settable : ConfigValue → Prop} {table : KipTable} {world : KipWorld} {offset : Nat}

/-- The fields that nobody set are in the KIP what they are in the table. -/
def Keeps (settable : ConfigValue → Prop) (table : KipTable) (world : KipWorld) : Prop :=
  ∃ file read, world.state.kip = some file ∧ custReadTable file.bytes = some read ∧
    ∀ pair, Unset settable pair → read pair.1 = table pair.1

/-- As far as nobody set them, values are the words of those in the INI file. -/
def Current (settable : ConfigValue → Prop) (world : KipWorld) (values : ConfigValue → Nat) : Prop :=
  ∀ pair, Unset settable pair → (.ofNat 32 (values pair.2) : BitVec 32) =
    .ofNat 32 (world.state.card.stored pair.2)

/-- The list that is sent back, and the values that `SetKipData` copies, are those of the file. -/
def ServedCurrent (settable : ConfigValue → Prop) (world : KipWorld) : KipStep → Prop
  | .setConfigValues _ index _ => world.state.config.loaded = true →
      ∀ values, world.obtained[index]? = some values → world.Current settable values
  | .setKipData _ => world.Current settable world.state.config.values
  | _ => True

/-- The INI file and the KIP still agree with the table. -/
structure Unspoiled (settable : ConfigValue → Prop) (table : KipTable) (offset : Nat)
    (world : KipWorld) : Prop where
  sound : Sound offset world
  stored : Agrees settable table world.state.card.stored
  kip : ∀ file, world.state.kip = some file → ∀ pair, Unset settable pair →
    tableAt file.bytes offset pair.1 = table pair.1

theorem Unspoiled.keeps (unspoiled : Unspoiled settable table offset world) :
    Keeps settable table world := by
  obtain ⟨file, present, located⟩ := unspoiled.sound.located
  exact ⟨file, _, present, custReadTable_eq_some_iff.mpr ⟨offset, located, rfl⟩,
    unspoiled.kip file present⟩

/-- What is stored of values that agree, agrees. -/
theorem agrees_store {card : Card} {now : Stamp} {values : ConfigValue → Nat}
    (writable : card.writable = true) (single : Config.SingleValues card)
    (fits : ∀ kval, values kval < 2 ^ 64) (agrees : Agrees settable table values) :
    Agrees settable table (card.store now values).stored := by
  intro pair unset
  rw [Card.stored_store writable single fits, acceptedValue_kip unset.1]
  exact agrees pair unset

theorem agrees_edited {edits : Edits} {values : ConfigValue → Nat}
    (spared : ∀ kval, ¬settable kval → edits.new kval = none)
    (agrees : Agrees settable table values) : Agrees settable table (edits.apply values) := by
  intro pair unset
  rw [Edits.apply, spared pair.2 unset.2.2]
  exact agrees pair unset

theorem custRev_own : ∀ pair ∈ setKipBatch, pair.1 = .custRev → pair.2 = .custRev := by
  decide +kernel

theorem kipCrc32_not_written : ∀ pair ∈ setKipBatch, pair.2 ≠ .kipCrc32 := by decide +kernel

theorem agrees_stamped {state : KipState} (kip : KipFile)
    (agrees : Agrees settable table state.config.values) :
    Agrees settable table (state.stampedValues kip) := by
  intro pair unset
  rw [KipState.stampedValues, Function.update_of_ne (kipCrc32_not_written pair unset.1)]
  exact agrees pair unset

theorem Unspoiled.agrees {values : ConfigValue → Nat}
    (unspoiled : Unspoiled settable table offset world) (current : world.Current settable values) :
    Agrees settable table values := by
  intro pair unset
  rw [current pair unset]
  exact unspoiled.stored pair unset

theorem Unspoiled.apply (unspoiled : Unspoiled settable table offset world) (step : KipStep)
    (spared : step.SetsOnly settable) (served : world.ServedCurrent settable step) :
    Unspoiled settable table offset (KipStep.apply world step) := by
  have sound := unspoiled.sound
  have after := sound.apply step
  cases step with
  | tick asked =>
      cases asked with
      | false => exact unspoiled
      | true => exact { unspoiled with sound := after }
  | getConfigValues =>
      simp only [KipStep.apply] at after ⊢
      split
      · rename_i loaded
        rw [if_pos loaded] at after
        exact { unspoiled with sound := after }
      · exact unspoiled
  | setConfigValues now index edits =>
      cases loaded : world.state.config.loaded with
      | false => simpa [KipStep.apply, loaded] using unspoiled
      | true =>
          cases found : world.obtained[index]? with
          | none => simpa [KipStep.apply, loaded, found] using unspoiled
          | some values =>
              have fits := Edits.apply_fits edits
                (sound.obtained values (List.mem_of_getElem? found))
              have agrees := agrees_edited spared
                (unspoiled.agrees (served loaded values found))
              rw [apply_setConfigValues sound now edits loaded found] at after ⊢
              exact { unspoiled with
                sound := after
                stored := agrees_store sound.writable sound.single fits agrees }
  | setKipData now =>
      have memory := unspoiled.agrees served
      obtain ⟨file, present, located⟩ := sound.located
      rw [apply_setKipData sound now present located] at after ⊢
      refine { unspoiled with sound := after, stored := ?_, kip := ?_ }
      · exact agrees_store sound.writable sound.single (stampedValues_fits sound.fits _)
          (agrees_stamped _ memory)
      · intro rewritten written pair unset
        rw [← Option.some.inj written]
        cases writable : file.writable with
        | false =>
            rw [KipFile.rewrite, writable]
            exact unspoiled.kip file present pair unset
        | true =>
            rw [KipFile.rewrite_table located writable, setKipFields_written unset.1]
            exact memory pair unset

theorem getConfigValues_state (world : KipWorld) :
    (KipStep.apply world .getConfigValues).state = world.state := by
  simp only [KipStep.apply]
  split <;> rfl

/-- A reload makes the values in memory those of the file. -/
theorem current_reloaded (changed : world.state.refresh.1 = true) :
    (KipStep.apply world (.tick true)).Current settable
      (KipStep.apply world (.tick true)).state.config.values := by
  intro pair _
  change (BitVec.ofNat 32 (world.state.refresh.2.config.values pair.2)) = _
  rw [KipState.refresh_true changed, Card.load_stored]
  rfl

end KipWorld

section

variable {boot : KipState} {file : KipFile} {offset gpuSpeedo : Nat}
  {settable : ConfigValue → Prop}

/-- The INI file that the boot wrote has the fields of the table, if it had the revision before. -/
theorem booted_unspoiled (now : Stamp) (present : boot.kip = some file)
    (located : Located file.bytes offset) (fuse : gpuSpeedo < 2 ^ 16)
    (writable : boot.card.writable = true) (single : Config.SingleValues boot.card)
    (loads : boot.LoadsKip file)
    (revision : settable .custRev ∨ .ofNat 32 (boot.refresh.2.config.values .custRev) =
      tableAt file.bytes offset .custRev) :
    (booted boot now gpuSpeedo).Unspoiled settable (tableAt file.bytes offset) offset := by
  have sound := booted_sound now gpuSpeedo present located writable single loads
  have fits := KipState.loadedKipValues_fits (KipState.refresh_true_fits loads.refreshed) file
    (tableAt file.bytes offset) (show gpuSpeedo < 2 ^ 64 by omega)
  have agrees : Agrees settable (tableAt file.bytes offset)
      (KipState.loadedKipValues boot.refresh.2.config.values file
        (tableAt file.bytes offset) gpuSpeedo) := by
    rintro ⟨field, kval⟩ ⟨member, notSpeedo, unset⟩
    by_cases rev : field = .custRev
    · have own := KipWorld.custRev_own _ member rev
      have kept : ConfigValue.custRev ∉ getKipKeys := by decide +kernel
      subst rev
      simp only at own unset ⊢
      subst own
      rw [KipState.loadedKipValues, getKipFields_kept gpuSpeedo kept,
        KipState.loadedKipValues_revision]
      exact revision.resolve_left unset
    · rw [KipState.loadedKipValues, getKipFields_read gpuSpeedo member rev notSpeedo,
        BitVec.ofNat_toNat, BitVec.setWidth_eq]
  have loaded := KipState.getKipData_loads now gpuSpeedo present located writable loads
  rw [booted, loaded] at sound ⊢
  refine { sound, stored := KipWorld.agrees_store writable single fits agrees, kip := ?_ }
  intro other there pair _
  rw [KipState.refresh_kip, present] at there
  rw [Option.some.inj there]

end

/-- After a boot that found the revision of the table in the INI file, no `SetKipData` changes a
field that no client set, as long as the values it copies, and the lists that are sent back, are
those of the file. -/
theorem setKipData_keeps_unset {boot : KipState} {file : KipFile} {offset gpuSpeedo : Nat}
    {settable : ConfigValue → Prop} (now : Stamp) (steps : List KipStep)
    (present : boot.kip = some file) (located : Located file.bytes offset)
    (fuse : gpuSpeedo < 2 ^ 16) (writable : boot.card.writable = true)
    (single : Config.SingleValues boot.card) (loads : boot.LoadsKip file)
    (spared : ∀ step ∈ steps, step.SetsOnly settable)
    (revision : settable .custRev ∨ .ofNat 32 (boot.refresh.2.config.values .custRev) =
      tableAt file.bytes offset .custRev)
    (served : Guarded KipStep.apply (KipWorld.ServedCurrent settable)
      (booted boot now gpuSpeedo) steps) :
    Always KipStep.apply (KipWorld.Keeps settable (tableAt file.bytes offset))
      (booted boot now gpuSpeedo) steps := by
  have unspoiled :=
    booted_unspoiled now present located fuse writable single loads revision
  have always := always_of_guarded unspoiled
    (fun step member world unspoiled served => unspoiled.apply step (spared step member) served)
    served
  exact always.mono fun world unspoiled => unspoiled.keeps

/-- A table with one voltage. -/
def voltageTable : KipTable := Function.update (blankTable 0) .marikoCpuMaxVolt 1120

def voltageKip : KipFile := { bytes := pack KipField.all voltageTable, writable := true }

theorem voltageKip_located : Located voltageKip.bytes 0 ∧
    tableAt voltageKip.bytes 0 = voltageTable := located_pack (wordBytes_bytesWord rfl)

/-- The first boot leaves the defaults in memory. -/
theorem firstBoot_booted (kip : KipFile) {offset : Nat} (located : Located kip.bytes offset)
    (now : Stamp) (gpuSpeedo : Nat) :
    (booted (firstBoot kip) now gpuSpeedo).state.kip = some kip ∧
      (booted (firstBoot kip) now gpuSpeedo).state.config.values = hocclkDefaultConfigValue := by
  rw [booted, KipState.getKipData_loads now gpuSpeedo rfl located rfl (firstBoot_loads kip)]
  exact ⟨rfl, rfl⟩

/-- A request before the first reload writes the defaults of the configuration. -/
theorem setKipData_resets_unset :
    (firstBoot voltageKip).LoadsKip voltageKip ∧
    custReadTable voltageKip.bytes = some voltageTable ∧
    ¬Always KipStep.apply (KipWorld.Keeps (fun _ => False) voltageTable)
      (booted (firstBoot voltageKip) ⟨7, by decide⟩ 1700) [.setKipData ⟨8, by decide⟩] := by
  obtain ⟨located, table⟩ := voltageKip_located
  have loads := firstBoot_loads voltageKip
  refine ⟨loads, custReadTable_eq_some_iff.mpr ⟨0, located, table.symm⟩, ?_⟩
  rintro ⟨-, file, read, present, found, kept⟩
  have sound := booted_sound ⟨7, by decide⟩ 1700 rfl located rfl (firstBoot_single _) loads
  obtain ⟨there, defaults⟩ := firstBoot_booted voltageKip located ⟨7, by decide⟩ 1700
  rw [KipWorld.apply_setKipData sound _ there located, defaults] at present
  have written : custReadTable (voltageKip.rewrite 0 hocclkDefaultConfigValue).bytes =
      some (setKipFields voltageTable hocclkDefaultConfigValue) := by
    rw [← table, ← KipFile.rewrite_table located rfl]
    exact custReadTable_eq_some_iff.mpr ⟨0, KipFile.rewrite_located located, rfl⟩
  rw [← Option.some.inj present, written] at found
  have member : (KipField.marikoCpuMaxVolt, ConfigValue.marikoCpuMaxVolt) ∈ setKipBatch := by
    decide
  have reset := kept _ ⟨member, by decide, not_false⟩
  rw [← Option.some.inj found, setKipFields_written member] at reset
  exact absurd reset (by decide)

/-- A request behind the first reload leaves the voltage. -/
theorem setKipData_keeps_unset_reloaded :
    Always KipStep.apply (KipWorld.Keeps (fun _ => False) (tableAt voltageKip.bytes 0))
      (booted (firstBoot voltageKip) ⟨7, by decide⟩ 1700)
      [.tick true, .getConfigValues, .setKipData ⟨9, by decide⟩] := by
  obtain ⟨located, table⟩ := voltageKip_located
  have reloads := firstBoot_reloads voltageKip located ⟨7, by decide⟩ 1700
  refine setKipData_keeps_unset _ _ rfl located (by decide) rfl (firstBoot_single _)
    (firstBoot_loads _) ?_ (.inr ?_) ⟨trivial, trivial, ?_, trivial⟩
  · intro step member
    simp only [List.mem_cons, List.not_mem_nil, or_false] at member
    rcases member with rfl | rfl | rfl <;> trivial
  · rw [table]
    rfl
  · intro pair unset
    rw [KipWorld.getConfigValues_state]
    exact KipWorld.current_reloaded reloads pair unset

end HorizonOc.Sysmodule
