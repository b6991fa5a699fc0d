import HorizonOc.Sysmodule.ClockSteps

namespace HorizonOc.Sysmodule

open HorizonOc.Data

inductive GovernorComponent where
  | cpu | gpu | vrr
deriving DecidableEq, Repr

def GovernorComponent.byte : GovernorComponent → Nat → Nat
  | .cpu => governorStateCpu
  | .gpu => governorStateGpu
  | .vrr => governorStateVrr

def GovernorComponent.enabledBy : GovernorComponent → Governors → Bool
  | .cpu, governors => governors.isCpuGovernorEnabled
  | .gpu, governors => governors.isGpuGovernorEnabled
  | .vrr, governors => governors.isVRREnabled

/-- The words in the order in which they are looked at. -/
def Setting.governorWords (setting : Setting) : List Nat :=
  [setting.overrideFreqs .governor,
   setting.config.getAutoClockHz setting.applicationId .governor setting.profile true,
   setting.config.getAutoClockHz globalProfileId .governor setting.profile true]

def firstNonzero (words : List Nat) : Nat := (words.find? (· ≠ 0)).getD 0

theorem firstNonzero_cons (word : Nat) (rest : List Nat) :
    firstNonzero (word :: rest) = if word ≠ 0 then word else firstNonzero rest := by
  unfold firstNonzero
  by_cases zero : word = 0
  · simp [zero]
  · simp [zero]

theorem resolveTargetHz_governor (setting : Setting) :
    resolveTargetHz setting .governor true = firstNonzero setting.governorWords := by
  simp only [Setting.governorWords, firstNonzero_cons, resolveTargetHz]
  split
  · rfl
  · split
    · rfl
    · split
      · rfl
      · rename_i zero
        exact Classical.not_not.mp zero

theorem GovernorComponent.byte_zero (component : GovernorComponent) : component.byte 0 = 0 := by
  cases component <;> rfl

/-- The byte of the first word that is set is the first byte that is set, unless it is not set. -/
theorem GovernorComponent.byte_firstNonzero (component : GovernorComponent) (words : List Nat) :
    component.byte (firstNonzero words) = 0 ∨
      component.byte (firstNonzero words) = firstNonzero (words.map component.byte) := by
  induction words with
  | nil => exact .inl component.byte_zero
  | cons word rest ih =>
      rw [List.map_cons, firstNonzero_cons, firstNonzero_cons]
      by_cases zero : word = 0
      · subst zero
        simpa [component.byte_zero] using ih
      · rw [if_pos zero]
        by_cases byteZero : component.byte word = 0
        · exact .inl byteZero
        · rw [if_pos byteZero]
          exact .inr rfl

/-- Resolving a word against itself changes nothing. -/
theorem governorEnabled_self (component : Nat → Nat) (word : Nat) :
    governorEnabled component word word = true ↔
      component word = ComponentGovernor.enabled.toNat := by
  have resolved : resolveComponent (component word) (component word) = component word := by
    unfold resolveComponent
    split
    · rename_i disabled
      exact disabled.symm
    · split <;> rfl
  rw [governorEnabled, resolved, decide_eq_true_iff]

/-- The flags, without what the switch remembers. -/
def Governors.flags (governors : Governors) : Bool × Bool × Bool :=
  (governors.isCpuGovernorEnabled, governors.isGpuGovernorEnabled, governors.isVRREnabled)

theorem resetToStockModule_keeps_flags {module : Module} (notGovernor : module ≠ .governor) :
    (resetToStockModule module).Respects (Same fun state : Sys => state.governors.flags) := by
  have respected : (resetToStockModule module).Respects (TouchesOnly (· = module) False) :=
    resetToStockModule_respects rfl
  refine respected.mono fun before after frame => ?_
  have same := frame.governors fun touched => notGovernor touched.symm
  change after.governors.flags = before.governors.flags
  rw [same]

theorem displaySetRate_keeps_flags (hz : Nat) :
    (displaySetRate hz).Respects (Same fun state : Sys => state.governors.flags) := by
  have respected : (displaySetRate hz).Respects (TouchesOnly (· = .display) False) :=
    displaySetRate_respects hz rfl
  refine respected.mono fun before after frame => ?_
  have same := frame.governors (by decide)
  change after.governors.flags = before.governors.flags
  rw [same]

theorem handleGovernor_flags {state final : Sys} {targetHz : Nat}
    (finished : (handleGovernor targetHz).run state = .ok (⟨⟩, final)) :
    let tempTargetHz := resolveTargetHz state.setting .governor true
    final.governors.flags = (governorEnabled governorStateCpu targetHz tempTargetHz,
      governorEnabled governorStateGpu targetHz tempTargetHz,
      governorEnabled governorStateVrr targetHz tempTargetHz) := by
  unfold handleGovernor at finished
  rw [Program.run_read_bind] at finished
  dsimp only at finished
  rw [Program.run_update_bind] at finished
  refine @Program.Respects.run Sys _ _ (Same fun state => state.governors.flags) _ _ _ _ _ ?_
    finished
  refine .bind (.when fun _ => ?_) fun _ => .bind (.when fun _ => ?_) fun _ =>
    .bind (.when fun _ => ?_) fun _ => .update fun _ => rfl
  · exact .bind .sleep fun _ => resetToStockModule_keeps_flags (by decide)
  · exact .bind .sleep fun _ => resetToStockModule_keeps_flags (by decide)
  · exact .bind .sleep fun _ => displaySetRate_keeps_flags 60

/-- The governors that `SetClocks` leaves on are those of the first word that is set. -/
theorem setClocks_flags {state final : Sys} {isBoost : Bool} (late : ¬ReturnsEarly isBoost state)
    (finished : (setClocks isBoost).run state = .ok (⟨⟩, final)) (component : GovernorComponent) :
    component.enabledBy final.governors = true ↔
      component.byte (firstNonzero state.setting.governorWords) =
        ComponentGovernor.enabled.toNat := by
  obtain ⟨cpu, gpu, mem, governor, loop, switched⟩ := setClocks_switches late finished
  have setting : mem.setting = state.setting :=
    loop.memFrame.setting.trans (loop.gpuFrame.setting.trans loop.cpuFrame.setting)
  have flags := handleGovernor_flags switched
  dsimp only at flags
  rw [← loop.displayFrame.governors (by decide), setting, resolveTargetHz_governor] at flags
  simp only [Governors.flags, Prod.mk.injEq] at flags
  cases component with
  | cpu => rw [GovernorComponent.enabledBy, flags.1, governorEnabled_self]; rfl
  | gpu => rw [GovernorComponent.enabledBy, flags.2.1, governorEnabled_self]; rfl
  | vrr => rw [GovernorComponent.enabledBy, flags.2.2, governorEnabled_self]; rfl

/-- A component follows the words byte by byte. -/
def GovernorComponent.Follows (component : GovernorComponent) (words : List Nat)
    (governors : Governors) : Prop :=
  component.enabledBy governors = true ↔
    firstNonzero (words.map component.byte) = ComponentGovernor.enabled.toNat

/-- The word that decides sets the component, or none below it turns the component on. -/
def GovernorComponent.Decided (component : GovernorComponent) (words : List Nat) : Prop :=
  component.byte (firstNonzero words) ≠ ComponentGovernor.doNotOverride.toNat ∨
    firstNonzero (words.map component.byte) ≠ ComponentGovernor.enabled.toNat

/-- The fallback is one of whole words: a component that the first word leaves alone is off,
whatever the words below it say. -/
theorem governors_follow_words_iff {state final : Sys} {isBoost : Bool}
    (late : ¬ReturnsEarly isBoost state)
    (finished : (setClocks isBoost).run state = .ok (⟨⟩, final)) :
    (∀ component : GovernorComponent,
        component.Follows state.setting.governorWords final.governors) ↔
      ∀ component : GovernorComponent, component.Decided state.setting.governorWords := by
  refine forall_congr' fun component => ?_
  rw [GovernorComponent.Follows, setClocks_flags late finished component, GovernorComponent.Decided]
  rcases component.byte_firstNonzero state.setting.governorWords with unset | same
  · rw [unset]
    constructor
    · exact fun follows => .inr fun enabled => absurd (follows.mpr enabled) (by decide)
    · rintro (set | notEnabled)
      · exact absurd rfl set
      · exact ⟨fun off => absurd off (by decide), fun enabled => absurd enabled notEnabled⟩
  · rw [same]
    refine iff_of_true Iff.rfl ?_
    by_cases enabled : firstNonzero (state.setting.governorWords.map component.byte) =
        ComponentGovernor.enabled.toNat
    · exact .inl (by rw [enabled]; decide)
    · exact .inr enabled

/-- A title whose profile has a governor word, under an override of the governors. -/
def governorWordSample (overrideWord applicationWord : Nat) : Sys :=
  let setting := sampleSetting.withOverride .governor overrideWord
  Sys.initial
    { setting with config := { setting.config with
        profileMHz := Function.update setting.config.profileMHz 1 fun profile module =>
          if profile = .handheld ∧ module = .governor then some applicationWord else none } }
    sampleRates []

/-- Both words turn on the CPU's governor. -/
theorem governors_follow_words_iff_agreeing :
    ∃ final, (setClocks false).run (governorWordSample 0x02 0x02) = .ok (⟨⟩, final) ∧
      ∀ component : GovernorComponent,
        component.Follows (governorWordSample 0x02 0x02).setting.governorWords final.governors := by
  have returns : ((setClocks false).outcome (governorWordSample 0x02 0x02)).isSome = true := by
    decide +kernel
  obtain ⟨final, returned⟩ := Option.isSome_iff_exists.mp returns
  have finished := Program.run_of_outcome returned
  refine ⟨final, finished, (governors_follow_words_iff (by decide) finished).mpr fun component => ?_⟩
  cases component with
  | cpu => exact .inl (by decide +kernel)
  | gpu => exact .inr (by decide +kernel)
  | vrr => exact .inr (by decide +kernel)

/-- The override turns on the CPU's governor and leaves the GPU's, which the title turns on. -/
theorem override_hides_gpu_governor :
    ∃ final, (setClocks false).run (governorWordSample 0x02 0x0200) = .ok (⟨⟩, final) ∧
      ¬GovernorComponent.gpu.Follows (governorWordSample 0x02 0x0200).setting.governorWords
        final.governors := by
  have off : ((setClocks false).outcome (governorWordSample 0x02 0x0200)).map
      (·.governors.isGpuGovernorEnabled) = some false := by decide +kernel
  obtain ⟨final, returned, notEnabled⟩ := Option.map_eq_some_iff.mp off
  refine ⟨final, Program.run_of_outcome returned, fun follows => ?_⟩
  have enabled := follows.mpr (by decide +kernel)
  rw [GovernorComponent.enabledBy, notEnabled] at enabled
  contradiction

end HorizonOc.Sysmodule
