import HorizonOc.Sysmodule.KipRuns

namespace HorizonOc.Sysmodule

open HorizonOc.Data

namespace KipWorld

variable {world : KipWorld} {offset gpuSpeedo : Nat} {file : KipFile}

/-- The checksum in the INI file is the one of the KIP. -/
def InStep (world : KipWorld) : Prop :=
  world.state.card.stored .kipCrc32 = checksumFile world.state.kip

/-- A list that is sent back carries the checksum that the KIP has by then. -/
def Carries (world : KipWorld) : KipStep → Prop
  | .setConfigValues _ index edits => world.state.config.loaded = true →
      ∀ values, world.obtained[index]? = some values →
        edits.apply values .kipCrc32 = checksumFile world.state.kip
  | _ => True

theorem acceptedValue_kipCrc32 (value : Nat) : Config.acceptedValue .kipCrc32 value = value := rfl

/-- Only a list that is sent back can bring the checksum out of step. -/
theorem apply_inStep_iff (step : KipStep) (sound : Sound offset world) (inStep : InStep world) :
    InStep (KipStep.apply world step) ↔ Carries world step := by
  cases step with
  | tick asked => cases asked <;> exact ⟨fun _ => trivial, fun _ => inStep⟩
  | getConfigValues =>
      simp only [KipStep.apply, Carries, iff_true]
      split <;> exact inStep
  | setConfigValues now index edits =>
      cases loaded : world.state.config.loaded with
      | false => simpa [Carries, KipStep.apply, loaded] using inStep
      | true =>
          cases found : world.obtained[index]? with
          | none => simpa [Carries, KipStep.apply, loaded, found] using inStep
          | some values =>
              have fits := Edits.apply_fits edits
                (sound.obtained values (List.mem_of_getElem? found))
              rw [apply_setConfigValues sound now edits loaded found]
              simp only [InStep, Carries, loaded, found, Option.some.injEq, forall_const,
                forall_eq', Card.stored_store sound.writable sound.single fits,
                acceptedValue_kipCrc32]
  | setKipData now =>
      obtain ⟨file, present, located⟩ := sound.located
      rw [apply_setKipData sound now present located]
      have fits := stampedValues_fits sound.fits (file.rewrite offset world.state.config.values)
      simp only [InStep, Carries, iff_true]
      rw [Card.stored_store sound.writable sound.single fits, acceptedValue_kipCrc32,
        KipState.stampedValues, Function.update_self]

end KipWorld

/-- What the next boot finds. -/
def KipState.reboot (state : KipState) : KipState := { state with config := Config.initial }

theorem KipWorld.InStep.next_boot {world : KipWorld} {file : KipFile} (inStep : world.InStep)
    (present : world.state.kip = some file) : world.state.reboot.LoadsKip file where
  refreshed := rfl
  notUpdated := by
    have stored : world.state.reboot.refresh.2.config.values = world.state.card.stored := rfl
    rw [KipState.kipUpdated, stored, inStep, present]
    simp

section

variable {boot : KipState} {file : KipFile} {offset gpuSpeedo : Nat}

theorem loadedKipValues_kipCrc32 (values : ConfigValue → Nat) (table : KipTable) :
    KipState.loadedKipValues values file table gpuSpeedo .kipCrc32 =
      checksumFile (some file) := by
  have kept : ConfigValue.kipCrc32 ∉ getKipKeys := by decide +kernel
  rw [KipState.loadedKipValues, getKipFields_kept gpuSpeedo kept, Function.update_self]

theorem booted_inStep (now : Stamp) (present : boot.kip = some file)
    (located : Located file.bytes offset) (writable : boot.card.writable = true)
    (single : Config.SingleValues boot.card) (loads : boot.LoadsKip file)
    (fuse : gpuSpeedo < 2 ^ 16) : (booted boot now gpuSpeedo).InStep := by
  have fits := KipState.loadedKipValues_fits (KipState.refresh_true_fits loads.refreshed) file
    (tableAt file.bytes offset) (show gpuSpeedo < 2 ^ 64 by omega)
  have loaded := KipState.getKipData_loads now gpuSpeedo present located writable loads
  rw [booted, loaded]
  simp only [KipWorld.InStep, KipState.refresh_kip, present]
  rw [Card.stored_store writable single fits, KipWorld.acceptedValue_kipCrc32,
    loadedKipValues_kipCrc32]

end

/-- In a run after such a boot the checksum stays in step, and the next boot loads the table,
exactly as long as every list that is sent back carries the checksum that the KIP has by then. -/
theorem kip_checksum_in_step_iff {boot : KipState} {file : KipFile} {offset gpuSpeedo : Nat}
    (now : Stamp) (steps : List KipStep) (present : boot.kip = some file)
    (located : Located file.bytes offset) (fuse : gpuSpeedo < 2 ^ 16)
    (writable : boot.card.writable = true) (single : Config.SingleValues boot.card)
    (loads : boot.LoadsKip file) :
    Always KipStep.apply (fun world => world.InStep ∧
        ∀ kip, world.state.kip = some kip → world.state.reboot.LoadsKip kip)
      (booted boot now gpuSpeedo) steps ↔
    Guarded KipStep.apply KipWorld.Carries (booted boot now gpuSpeedo) steps := by
  have inStep := booted_inStep now present located writable single loads fuse
  have sound := booted_sound now gpuSpeedo present located writable single loads
  have decided := always_iff_guarded steps inStep sound (fun _ step sound => sound.apply step)
    fun _ step sound inStep => KipWorld.apply_inStep_iff step sound inStep
  rw [← decided]
  constructor
  · intro always
    exact always.mono fun world both => both.1
  · intro always
    exact always.mono fun world inStep => ⟨inStep, fun kip present => inStep.next_boot present⟩

/-- The values of a console that knows the checksum of its KIP. -/
def knownValues (kip : KipFile) : ConfigValue → Nat :=
  Function.update (Function.update hocclkDefaultConfigValue .isFirstLoad 0) .kipCrc32
    (checksumFile (some kip))

def knownBoot (kip : KipFile) : KipState :=
  { config := Config.initial
    card := Card.store { file := none, writable := true } ⟨5, by decide⟩ (knownValues kip)
    kip := some kip }

theorem knownValues_accepted (kip : KipFile) (kval : ConfigValue) :
    Config.acceptedValue kval (knownValues kip kval) = knownValues kip kval := by
  have valid : hocclkValidConfigValue kval (knownValues kip kval) = true :=
    Config.update_valid (Config.update_valid hocclkDefaultConfigValue_valid rfl) rfl kval
  rw [Config.acceptedValue, if_pos valid]

theorem knownValues_fits (kip : KipFile) (kval : ConfigValue) : knownValues kip kval < 2 ^ 64 := by
  by_cases stamped : kval = .kipCrc32
  · rw [stamped, knownValues, Function.update_self]
    exact checksumFile_fits (some kip)
  · rw [knownValues, Function.update_of_ne stamped]
    by_cases installed : kval = .isFirstLoad
    · rw [installed, Function.update_self]
      exact Nat.two_pow_pos 64
    · rw [Function.update_of_ne installed]
      exact hocclkDefaultConfigValue_fits kval

theorem knownBoot_values (kip : KipFile) :
    (knownBoot kip).refresh.2.config.values = knownValues kip := by
  have empty : Config.SingleValues { file := none, writable := true } := Nat.zero_le 1
  funext kval
  refine (Card.stored_store rfl empty (knownValues_fits kip) kval).trans ?_
  exact knownValues_accepted kip kval

theorem knownBoot_single (kip : KipFile) : Config.SingleValues (knownBoot kip).card :=
  Card.store_single rfl (Nat.zero_le 1)

theorem knownBoot_equal (kip : KipFile) :
    checksumFile (some kip) = (knownBoot kip).refresh.2.config.values .kipCrc32 := by
  rw [knownBoot_values, knownValues, Function.update_self]

theorem knownBoot_loads (kip : KipFile) : (knownBoot kip).LoadsKip kip where
  refreshed := rfl
  notUpdated := by
    rw [KipState.kipUpdated, ← knownBoot_equal]
    simp

theorem knownValues_zero (kip : KipFile) : ∀ pair ∈ setKipBatch, knownValues kip pair.2 = 0 := by
  have others : ∀ pair ∈ setKipBatch, pair.2 ≠ .kipCrc32 ∧ pair.2 ≠ .isFirstLoad ∧
      hocclkDefaultConfigValue pair.2 = 0 := by decide +kernel
  intro pair member
  obtain ⟨notStamp, notInstalled, zero⟩ := others pair member
  rw [knownValues, Function.update_of_ne notStamp, Function.update_of_ne notInstalled, zero]

/-- Where a client that obtained its list first thing stands. -/
theorem knownBoot_obtained (kip : KipFile) {offset : Nat} (located : Located kip.bytes offset)
    (now : Stamp) (gpuSpeedo : Nat) :
    let world := KipStep.apply (booted (knownBoot kip) now gpuSpeedo) .getConfigValues
    world.state.kip = some kip ∧ world.state.config.loaded = true ∧
      world.state.config.values = knownValues kip ∧ world.obtained = [knownValues kip] := by
  intro world
  have values := knownBoot_values kip
  have loaded : (knownBoot kip).refresh.2.config.loaded = true := rfl
  have there : world = KipStep.apply (booted (knownBoot kip) now gpuSpeedo) .getConfigValues := rfl
  rw [booted, KipState.getKipData_loads now gpuSpeedo rfl located rfl (knownBoot_loads kip),
    KipStep.apply, if_pos loaded, values] at there
  rw [there]
  exact ⟨rfl, loaded, values, rfl⟩

theorem knownValues_kipCrc32 (kip : KipFile) :
    Edits.none.apply (knownValues kip) .kipCrc32 = checksumFile (some kip) := by
  change knownValues kip .kipCrc32 = _
  rw [knownValues, Function.update_self]

theorem knownBoot_prompt (kip : KipFile) {offset : Nat} (located : Located kip.bytes offset)
    (now later last : Stamp) (gpuSpeedo : Nat) :
    Guarded KipStep.apply KipWorld.Carries (booted (knownBoot kip) now gpuSpeedo)
      [.getConfigValues, .setConfigValues later 0 Edits.none, .setKipData last] := by
  obtain ⟨present, -, -, obtained⟩ := knownBoot_obtained kip located now gpuSpeedo
  refine ⟨trivial, ?_, trivial, trivial⟩
  intro _ list found
  simp only [obtained, List.getElem?_cons_zero, Option.some.injEq] at found
  rw [present, ← found]
  exact knownValues_kipCrc32 kip

/-- A list that was obtained before `SetKipData` brings the old checksum back. -/
theorem kip_checksum_out_of_step :
    let kip := blankKip 1
    let boot := knownBoot kip
    boot.refresh.1 = true ∧
    checksumFile (some kip) = boot.refresh.2.config.values .kipCrc32 ∧
    ¬Always KipStep.apply KipWorld.InStep (booted boot ⟨7, by decide⟩ 1700)
      [.getConfigValues, .setKipData ⟨8, by decide⟩,
        .setConfigValues ⟨9, by decide⟩ 0 Edits.none] := by
  intro kip boot
  obtain ⟨located, -⟩ := blankKip_located 1
  refine ⟨rfl, knownBoot_equal kip, ?_⟩
  rintro ⟨-, -, inStep, last⟩
  have sound := (booted_sound ⟨7, by decide⟩ 1700 rfl located rfl (knownBoot_single kip)
    (knownBoot_loads kip)).apply .getConfigValues
  obtain ⟨present, loaded, values, obtained⟩ :=
    knownBoot_obtained kip located ⟨7, by decide⟩ 1700
  have carried := (KipWorld.apply_inStep_iff _ (sound.apply _) inStep).mp last
  rw [KipWorld.apply_setKipData sound _ present located, values,
    rewrite_blank (knownValues_zero kip)] at carried
  have stamp := carried loaded (knownValues kip) (by rw [obtained]; rfl)
  have stale := knownValues_kipCrc32 (blankKip 1)
  have apart : checksumFile (some (blankKip 1)) ≠ checksumFile (some (blankKip 0)) := by
    decide +kernel
  exact apart (stale.symm.trans stamp)

/-- A list that is sent back before `SetKipData` does no harm. -/
theorem kip_checksum_in_step_iff_prompt :
    Always KipStep.apply (fun world => world.InStep ∧
        ∀ kip, world.state.kip = some kip → world.state.reboot.LoadsKip kip)
      (booted (knownBoot (blankKip 1)) ⟨7, by decide⟩ 1700)
      [.getConfigValues, .setConfigValues ⟨8, by decide⟩ 0 Edits.none,
        .setKipData ⟨9, by decide⟩] := by
  obtain ⟨located, -⟩ := blankKip_located 1
  exact (kip_checksum_in_step_iff _ _ rfl located (by decide) rfl (knownBoot_single _)
    (knownBoot_loads _)).mpr (knownBoot_prompt _ located _ _ _ _)

end HorizonOc.Sysmodule
