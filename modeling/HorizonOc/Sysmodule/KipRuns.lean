import HorizonOc.Data.Runs
import HorizonOc.Sysmodule.KipRoundTrip

namespace HorizonOc.Sysmodule

open HorizonOc.Data

/-- Fields that a client sets in a list. -/
structure Edits where
  new : ConfigValue → Option Nat
  fits : ∀ kval value, new kval = some value → value < 2 ^ 64

def Edits.none : Edits := { new := fun _ => Option.none, fits := fun _ _ absurd => nomatch absurd }

def Edits.apply (edits : Edits) (values : ConfigValue → Nat) (kval : ConfigValue) : Nat :=
  (edits.new kval).getD (values kval)

/-- The system, and the lists that clients obtained so far. -/
structure KipWorld where
  state : KipState
  obtained : List (ConfigValue → Nat)

inductive KipStep where
  /-- Whether the tick comes to `config::Refresh`. -/
  | tick (asked : Bool)
  | getConfigValues
  /-- One of the lists that were obtained is sent back. -/
  | setConfigValues (now : Stamp) (index : Nat) (edits : Edits)
  | setKipData (now : Stamp)

namespace KipStep

def apply (world : KipWorld) : KipStep → KipWorld
  | .tick asked => if asked then { world with state := world.state.refresh.2 } else world
  | .getConfigValues =>
      if world.state.config.loaded then
        { world with obtained := world.obtained ++ [world.state.config.values] }
      else world
  | .setConfigValues now index edits =>
      if world.state.config.loaded then
        match world.obtained[index]? with
        | none => world
        | some values =>
            { world with state := (world.state.setConfigValues now (edits.apply values) true).2 }
      else world
  | .setKipData now => { world with state := world.state.setKipData now }

end KipStep

/-- What clients find after the boot. -/
def booted (boot : KipState) (now : Stamp) (gpuSpeedo : Nat) : KipWorld :=
  { state := boot.getKipData now gpuSpeedo, obtained := [] }

/-- The values that a load reads from the file. -/
def Card.stored (card : Card) : ConfigValue → Nat := (Config.initial.load card.configFile).values

theorem Card.stored_store {card : Card} {now : Stamp} {values : ConfigValue → Nat}
    (writable : card.writable = true) (single : Config.SingleValues card)
    (fits : ∀ kval, values kval < 2 ^ 64) (kval : ConfigValue) :
    (card.store now values).stored kval = Config.acceptedValue kval (values kval) :=
  congrFun (Card.load_store writable single fits Config.initial) kval

/-- What a load reads does not depend on what was in memory. -/
theorem Card.load_stored (card : Card) (config : Config) :
    (config.load card.configFile).values = card.stored := by
  rw [Card.stored, Config.load_card, Config.load_card]
  have closed : (Config.initial.closedAt card).values = (config.closedAt card).values := rfl
  exact (Config.browse_values card.sections rfl).trans
    (Config.browse_values card.sections closed).symm

theorem Edits.apply_fits (edits : Edits) {values : ConfigValue → Nat}
    (fits : ∀ kval, values kval < 2 ^ 64) (kval : ConfigValue) :
    edits.apply values kval < 2 ^ 64 := by
  unfold Edits.apply
  cases edited : edits.new kval with
  | none => exact fits kval
  | some value => exact edits.fits kval value edited

namespace KipWorld

variable {world : KipWorld} {offset gpuSpeedo : Nat} {file : KipFile}

/-- The files can be read and written, and all values are machine words. -/
structure Sound (offset : Nat) (world : KipWorld) : Prop where
  writable : world.state.card.writable = true
  single : Config.SingleValues world.state.card
  located : ∃ file, world.state.kip = some file ∧ Located file.bytes offset
  fits : world.state.config.ValuesFit
  obtained : ∀ values ∈ world.obtained, ∀ kval, values kval < 2 ^ 64

/-- `SetConfigValues` with a list that was obtained. -/
theorem apply_setConfigValues (sound : Sound offset world) (now : Stamp) {index : Nat}
    (edits : Edits) {values : ConfigValue → Nat} (loaded : world.state.config.loaded = true)
    (found : world.obtained[index]? = some values) :
    KipStep.apply world (.setConfigValues now index edits) = { world with
      state := { world.state with
        config := { world.state.config with
          values := fun kval => Config.acceptedValue kval (edits.apply values kval) }
        card := world.state.card.store now (edits.apply values) } } := by
  have step : KipStep.apply world (.setConfigValues now index edits) = { world with
      state := (world.state.setConfigValues now (edits.apply values) true).2 } := by
    simp only [KipStep.apply, loaded, if_true, found]
  rw [step, KipState.setConfigValues_immediate sound.writable]

theorem apply_setKipData (sound : Sound offset world) (now : Stamp)
    (present : world.state.kip = some file) (located : Located file.bytes offset) :
    KipStep.apply world (.setKipData now) = { world with
      state := { world.state with
        kip := some (file.rewrite offset world.state.config.values)
        card := world.state.card.store now
          (world.state.stampedValues (file.rewrite offset world.state.config.values)) } } := by
  rw [KipStep.apply, KipState.setKipData_located present located sound.writable]

theorem stampedValues_fits {state : KipState} (fits : state.config.ValuesFit) (kip : KipFile)
    (kval : ConfigValue) : state.stampedValues kip kval < 2 ^ 64 := by
  by_cases stamped : kval = .kipCrc32
  · rw [stamped, KipState.stampedValues, Function.update_self]
    exact checksumFile_fits (some kip)
  · rw [KipState.stampedValues, Function.update_of_ne stamped]
    exact fits kval

theorem Sound.apply (sound : Sound offset world) (step : KipStep) :
    Sound offset (KipStep.apply world step) := by
  cases step with
  | tick asked =>
      cases asked with
      | false => exact sound
      | true =>
          have fits : world.state.refresh.2.config.ValuesFit := by
            simp only [KipState.refresh]
            rcases world.state.config.refresh_cases world.state.card.configFile with loaded | kept
            · rw [loaded]
              exact Config.load_fits world.state.config world.state.card
            · rw [kept]
              exact sound.fits
          exact { sound with fits }
  | getConfigValues =>
      simp only [KipStep.apply]
      split
      · refine { sound with obtained := ?_ }
        intro values member
        rcases List.mem_append.mp member with before | now
        · exact sound.obtained values before
        · rw [List.mem_singleton.mp now]
          exact sound.fits
      · exact sound
  | setConfigValues now index edits =>
      cases loaded : world.state.config.loaded with
      | false => simpa [KipStep.apply, loaded] using sound
      | true =>
          cases found : world.obtained[index]? with
          | none => simpa [KipStep.apply, loaded, found] using sound
          | some values =>
              have fits := Edits.apply_fits edits
                (sound.obtained values (List.mem_of_getElem? found))
              rw [apply_setConfigValues sound now edits loaded found]
              exact { sound with
                single := Card.store_single sound.writable sound.single
                fits := fun kval => Config.acceptedValue_fits (fits kval) }
  | setKipData now =>
      obtain ⟨file, present, located⟩ := sound.located
      rw [apply_setKipData sound now present located]
      exact { sound with
        single := Card.store_single sound.writable sound.single
        located := ⟨_, rfl, KipFile.rewrite_located located⟩ }

end KipWorld

section

variable {boot : KipState} {file : KipFile} {offset : Nat}

/-- What a boot that loads the table leaves. -/
theorem booted_sound (now : Stamp) (gpuSpeedo : Nat) (present : boot.kip = some file)
    (located : Located file.bytes offset) (writable : boot.card.writable = true)
    (single : Config.SingleValues boot.card) (loads : boot.LoadsKip file) :
    (booted boot now gpuSpeedo).Sound offset := by
  have loaded := KipState.getKipData_loads now gpuSpeedo present located writable loads
  rw [booted, loaded]
  exact
    { writable
      single := Card.store_single writable single
      located := ⟨file, present, located⟩
      fits := KipState.refresh_true_fits loads.refreshed
      obtained := fun values member => absurd member List.not_mem_nil }

end

end HorizonOc.Sysmodule
