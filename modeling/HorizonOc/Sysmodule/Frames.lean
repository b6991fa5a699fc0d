import HorizonOc.Sysmodule.ClockManager

namespace HorizonOc.Sysmodule

open HorizonOc.Data

/-! What each part of the tick leaves alone.  A part touches the clocks of some modules; the
settings, the governors, the caches and the writes of every other module stay, and so do
the GPU's voltages unless it is one that moves them (`volts`).  Below HOS 9 a reset
asks for a performance mode, which may move any rate. -/

structure TouchesOnly (touched : Module → Prop) (volts : Prop) (before after : Sys) : Prop where
  setting : after.setting = before.setting
  governors : ¬touched .governor → after.governors = before.governors
  ramVmin : ¬volts → after.ramVmin = before.ramVmin
  voltages : ¬volts → voltagesOf after.log = voltagesOf before.log
  writes : ∀ other, ¬touched other → writesOf other after.log = writesOf other before.log
  freqs : ∀ other, ¬touched other → after.freqs other = before.freqs other
  rate : ∀ other, ¬touched other → after.rate other = before.rate other ∨
    (before.setting.board.hosAtLeast9 = false ∧ ∃ mode,
      before.setting.board.performanceModeRates mode other = some (after.rate other))

instance (touched : Module → Prop) (volts : Prop) : IsPreorder Sys (TouchesOnly touched volts) where
  refl _ := ⟨rfl, fun _ => rfl, fun _ => rfl, fun _ => rfl, fun _ _ => rfl, fun _ _ => rfl,
    fun _ _ => .inl rfl⟩
  trans before middle after first second := by
    refine ⟨second.setting.trans first.setting,
      fun spared => (second.governors spared).trans (first.governors spared),
      fun spared => (second.ramVmin spared).trans (first.ramVmin spared),
      fun spared => (second.voltages spared).trans (first.voltages spared),
      fun other spared => (second.writes other spared).trans (first.writes other spared),
      fun other spared => (second.freqs other spared).trans (first.freqs other spared),
      fun other spared => ?_⟩
    rcases second.rate other spared with same | moved
    · rw [same]
      exact first.rate other spared
    · rw [first.setting] at moved
      exact .inr moved

variable {touched wider : Module → Prop} {volts more : Prop} {before after : Sys} {module : Module}

theorem TouchesOnly.mono (frame : TouchesOnly touched volts before after)
    (included : ∀ other, touched other → wider other) (voltsIncluded : volts → more) :
    TouchesOnly wider more before after :=
  ⟨frame.setting, fun spared => frame.governors (spared ∘ included _),
    fun spared => frame.ramVmin (spared ∘ voltsIncluded),
    fun spared => frame.voltages (spared ∘ voltsIncluded),
    fun other spared => frame.writes other (spared ∘ included other),
    fun other spared => frame.freqs other (spared ∘ included other),
    fun other spared => frame.rate other (spared ∘ included other)⟩

theorem TouchesOnly.lastHz_eq (frame : TouchesOnly touched volts before after) {other : Module}
    (spared : ¬touched other) : lastHz other after.log = lastHz other before.log := by
  rw [lastHz, lastHz, frame.writes other spared]

theorem TouchesOnly.freqs_eq (frame : TouchesOnly (fun _ => False) volts before after) :
    after.freqs = before.freqs := funext fun other => frame.freqs other id

theorem TouchesOnly.rate_of_hos9 (frame : TouchesOnly touched volts before after)
    (hos9 : before.setting.board.hosAtLeast9 = true) {other : Module} (spared : ¬touched other) :
    after.rate other = before.rate other := by
  rcases frame.rate other spared with same | ⟨older, -⟩
  · exact same
  · rw [hos9] at older
    contradiction

def Effect.Within (touched : Module → Prop) (volts : Prop) : Effect → Prop
  | .setHz module _ _ => touched module
  | .hijackGpuVolts _ | .setBuckGpuMv _ => volts
  | _ => True

theorem record_touches (state : Sys) {effect : Effect} (within : effect.Within touched volts) :
    TouchesOnly touched volts state (state.record effect) := by
  refine ⟨rfl, fun _ => rfl, fun _ => rfl, fun spared => ?_, fun other spared => ?_, fun _ _ => rfl,
    fun _ _ => .inl rfl⟩
  · cases effect with
    | hijackGpuVolts vmin => exact absurd within spared
    | setBuckGpuMv mv => exact absurd within spared
    | _ => rfl
  · cases effect with
    | setHz module hz ramVmin =>
        have differs : module ≠ other := fun same => spared (same ▸ within)
        simp [writesOf, Sys.record, differs]
    | _ => rfl

theorem clkrstSetHz_touches (state : Sys) (hz : Nat) (member : touched module) :
    TouchesOnly touched volts state (state.clkrstSetHz module hz) := by
  refine ⟨rfl, fun _ => rfl, fun _ => rfl, fun _ => rfl, fun _ _ => rfl, fun _ _ => rfl,
    fun other spared => .inl ?_⟩
  exact Function.update_of_ne (fun same : other = module => spared (same ▸ member)) _ _

theorem cacheHz_touches (state : Sys) (hz : Nat) (member : touched module) :
    TouchesOnly touched volts state (state.cacheHz module hz) := by
  refine ⟨rfl, fun _ => rfl, fun _ => rfl, fun _ => rfl, fun _ _ => rfl, fun other spared => ?_,
    fun _ _ => .inl rfl⟩
  exact Function.update_of_ne (fun same : other = module => spared (same ▸ member)) _ _

theorem emit_respects (effect : Effect) (within : effect.Within touched volts) :
    (emit effect).Respects (TouchesOnly touched volts) :=
  .update fun state => record_touches state within

theorem displaySetRate_respects (hz : Nat) (member : touched .display) :
    (displaySetRate hz).Respects (TouchesOnly touched volts) := by
  unfold displaySetRate
  refine .bind (emit_respects _ trivial) fun _ => .update fun state => ?_
  exact clkrstSetHz_touches state _ member

theorem setHz_respects (hz : Nat) (member : touched module) :
    (setHz module hz).Respects (TouchesOnly touched volts) := by
  unfold setHz
  refine .bind (.update fun state => record_touches state member) fun _ => ?_
  cases module with
  | display => exact displaySetRate_respects hz member
  | governor => exact .pure _
  | cpu =>
      refine .bind (.update fun state => clkrstSetHz_touches state hz member) fun _ => ?_
      exact .bind .sleep fun _ => .update fun state => clkrstSetHz_touches state hz member
  | gpu => exact .update fun state => clkrstSetHz_touches state hz member
  | mem => exact .update fun state => clkrstSetHz_touches state hz member

theorem currentApmConfiguration_respects :
    currentApmConfiguration.Respects (TouchesOnly touched volts) := by
  unfold currentApmConfiguration
  exact .bind .read fun _ => .ofOption _ _

theorem requestPerformanceMode_within (state : Sys)
    (older : state.setting.board.hosAtLeast9 = false) :
    (requestPerformanceMode state).Within (TouchesOnly touched volts) state := by
  refine ⟨rfl, fun _ => rfl, fun _ => rfl, fun _ => rfl, fun _ _ => rfl, fun _ _ => rfl,
    fun other _ => ?_⟩
  change state.modeRates other = _ ∨ (_ ∧ ∃ mode, _ = some (state.modeRates other))
  unfold Sys.modeRates
  cases moved : state.setting.board.performanceModeRates
      state.setting.services.performanceMode other with
  | none => exact .inl rfl
  | some hz => exact .inr ⟨older, _, moved⟩

theorem resetToStockModule_respects (member : touched module) :
    (resetToStockModule module).Respects (TouchesOnly touched volts) := by
  unfold resetToStockModule
  refine .read_bind fun state => ?_
  split
  · exact (Program.Respects.bind currentApmConfiguration_respects
      fun _ => setHz_respects _ member).within state
  · rename_i older
    exact requestPerformanceMode_within state (by simpa using older)

theorem handleLiveCpuUv_respects : handleLiveCpuUv.Respects (TouchesOnly touched volts) := by
  unfold handleLiveCpuUv
  refine .bind .read fun _ => .when fun _ => ?_
  unfold handleCpuUv
  refine .bind .read fun state => ?_
  dsimp only
  cases state.setting.board.socType with
  | erista => exact emit_respects _ trivial
  | mariko => exact emit_respects _ trivial

theorem hijackGpuVolts_touches (state : Sys) (vmin : Nat) (moves : volts) :
    TouchesOnly touched volts state (state.hijackGpuVolts vmin) := by
  unfold Sys.hijackGpuVolts
  split
  · exact ⟨rfl, fun _ => rfl, fun spared => absurd moves spared, fun _ => rfl, fun _ _ => rfl,
      fun _ _ => rfl, fun _ _ => .inl rfl⟩
  · exact Std.Refl.refl state

theorem pcvHijackGpuVolts_respects (vmin : Nat) (moves : volts) :
    (pcvHijackGpuVolts vmin).Respects (TouchesOnly touched volts) := by
  unfold pcvHijackGpuVolts
  refine .bind (emit_respects _ moves) fun _ => .update fun state => ?_
  exact hijackGpuVolts_touches state vmin moves

theorem dvfsBeforeSet_respects (targetHz : Nat) (moves : volts) :
    (dvfsBeforeSet targetHz).Respects (TouchesOnly touched volts) := by
  unfold dvfsBeforeSet
  refine .bind .read fun state => .bind (pcvHijackGpuVolts_respects _ moves) fun _ => ?_
  refine .bind (.when fun _ => emit_respects _ moves) fun _ => .update fun state => ?_
  exact ⟨rfl, fun _ => rfl, fun _ => rfl, fun _ => rfl, fun _ _ => rfl, fun _ _ => rfl, fun _ _ => .inl rfl⟩

theorem setGpuAgain_respects (targetHz nearestHz : Nat) (member : touched .gpu) :
    (setGpuAgain targetHz nearestHz).Respects (TouchesOnly touched volts) := by
  unfold setGpuAgain
  refine .bind (setHz_respects _ member) fun _ => .ite ?_ ?_
  · exact setHz_respects _ member
  · exact resetToStockModule_respects member

theorem dvfsAfterSet_respects (targetHz : Nat) (member : touched .gpu) (moves : volts) :
    (dvfsAfterSet targetHz).Respects (TouchesOnly touched volts) := by
  unfold dvfsAfterSet
  refine .bind .read fun state => .bind (.ofOption _ _) fun nearestHz => ?_
  exact .bind (pcvHijackGpuVolts_respects _ moves) fun _ => setGpuAgain_respects _ _ member

theorem dvfsReset_respects (member : touched .gpu) (moves : volts) :
    dvfsReset.Respects (TouchesOnly touched volts) := by
  unfold dvfsReset
  refine .bind .read fun state => .when fun _ => ?_
  refine .bind (pcvHijackGpuVolts_respects _ moves) fun _ => ?_
  exact .bind (.ofOption _ _) fun _ => setGpuAgain_respects _ _ member

/-- Setting a module touches it; setting the memory also sets the GPU again. -/
def footprint (module other : Module) : Prop := other = module ∨ (module = .mem ∧ other = .gpu)

instance (module other : Module) : Decidable (footprint module other) :=
  inferInstanceAs (Decidable (_ ∨ _))

theorem handleFreqReset_respects (module : Module) (isBoost : Bool) :
    (handleFreqReset module isBoost).Respects (TouchesOnly (footprint module) (module = .mem)) := by
  unfold handleFreqReset
  refine .bind .read fun state => ?_
  cases module with
  | cpu =>
      refine .bind (.when fun _ => ?_) fun _ => handleLiveCpuUv_respects
      exact resetToStockModule_respects (.inl rfl)
  | gpu => exact resetToStockModule_respects (.inl rfl)
  | mem =>
      refine .bind (resetToStockModule_respects (.inl rfl)) fun _ => ?_
      exact dvfsReset_respects (.inr ⟨rfl, rfl⟩) rfl
  | display => exact .when fun _ => displaySetRate_respects _ (.inl rfl)
  | governor => exact .pure _

theorem setTargetHz_respects (module : Module) (targetHz oldHz : Nat) :
    (setTargetHz module targetHz oldHz).Respects (TouchesOnly (footprint module) (module = .mem)) := by
  unfold setTargetHz
  refine .bind .read fun state => .bind (.ofOption _ _) fun nearestHz => .when fun _ => ?_
  refine .bind (.when fun hijacks => ?_) fun _ => .bind (setHz_respects _ (.inl rfl)) fun _ => ?_
  · exact dvfsBeforeSet_respects targetHz hijacks.1.1
  refine .bind (.update fun state => cacheHz_touches state _ (.inl rfl)) fun _ => ?_
  refine .bind (.when fun _ => handleLiveCpuUv_respects) fun _ => .when fun hijacks => ?_
  exact dvfsAfterSet_respects _ (.inr ⟨hijacks.1.1, rfl⟩) hijacks.1.1

theorem setOrResetHz_respects (module : Module) (isBoost : Bool) :
    (setOrResetHz module isBoost).Respects (TouchesOnly (footprint module) (module = .mem)) := by
  unfold setOrResetHz
  refine .bind .read fun state => .ite ?_ ?_
  · exact setTargetHz_respects module _ _
  · exact handleFreqReset_respects module isBoost

theorem setDisplayHz_respects (hz : Nat) :
    (setDisplayHz hz).Respects (TouchesOnly (footprint .display) volts) := by
  unfold setDisplayHz
  refine .bind (setHz_respects _ (.inl rfl)) fun _ => .update fun state => ?_
  have cached : TouchesOnly (footprint .display) volts state (state.cacheHz .display hz) :=
    cacheHz_touches state hz (.inl rfl)
  exact ⟨cached.setting, cached.governors, cached.ramVmin, cached.voltages, cached.writes,
    cached.freqs, cached.rate⟩

theorem setModuleClock_respects (isBoost : Bool) (notGovernor : module ≠ .governor) :
    (setModuleClock isBoost module).Respects (TouchesOnly (footprint module) (module = .mem)) := by
  unfold setModuleClock
  refine .bind .read fun state => ?_
  cases module with
  | governor => contradiction
  | display =>
      refine .when fun _ => .when fun _ => .ite ?_ ?_
      · exact setDisplayHz_respects _
      · exact handleFreqReset_respects .display isBoost
  | cpu => exact .when fun _ => setOrResetHz_respects .cpu isBoost
  | gpu => exact .when fun _ => setOrResetHz_respects .gpu isBoost
  | mem => exact setOrResetHz_respects .mem isBoost

/-- The governor's switch touches what it turns off. -/
def switchFootprint (governors : Governors) : Module → Prop
  | .governor | .display => True
  | .cpu => governors.lastCpuGovernorState = true
  | .gpu => governors.lastGpuGovernorState = true
  | .mem => False

theorem handleGovernor_touches {state final : Sys} {targetHz : Nat}
    (finished : (handleGovernor targetHz).run state = .ok (⟨⟩, final)) :
    TouchesOnly (switchFootprint state.governors) False state final := by
  unfold handleGovernor at finished
  rw [Program.run_read_bind] at finished
  refine Program.Respects.run ?_ finished
  refine .bind (.update fun _ => ?_) fun _ => .bind (.when fun wasOn => ?_) fun _ =>
    .bind (.when fun wasOn => ?_) fun _ => .bind (.when fun wasOn => ?_) fun _ => .update fun _ => ?_
  · exact ⟨rfl, fun spared => absurd trivial spared, fun _ => rfl, fun _ => rfl, fun _ _ => rfl,
      fun _ _ => rfl, fun _ _ => .inl rfl⟩
  · refine .bind .sleep fun _ => resetToStockModule_respects ?_
    exact (Bool.and_eq_true_iff.mp wasOn).2
  · refine .bind .sleep fun _ => resetToStockModule_respects ?_
    exact (Bool.and_eq_true_iff.mp wasOn).2
  · exact .bind .sleep fun _ => displaySetRate_respects _ trivial
  · exact ⟨rfl, fun spared => absurd trivial spared, fun _ => rfl, fun _ => rfl, fun _ _ => rfl,
      fun _ _ => rfl, fun _ _ => .inl rfl⟩

/-- The switch leaves the last states in step with the flags. -/
def Governors.Settled (governors : Governors) : Prop :=
  governors.lastCpuGovernorState = governors.isCpuGovernorEnabled ∧
  governors.lastGpuGovernorState = governors.isGpuGovernorEnabled ∧
  governors.lastVrrGovernorState = governors.isVRREnabled

section

variable {program : SysProgram PUnit}

theorem keeps_governors (notGovernor : module ≠ .governor)
    (respected : program.Respects (TouchesOnly (· = module) False)) :
    program.Respects (Same Sys.governors) :=
  respected.mono fun _ _ frame => frame.governors fun same => notGovernor same.symm

theorem untouched_keeps_governors
    (respected : program.Respects (TouchesOnly (fun _ => False) volts)) :
    program.Respects (Same Sys.governors) :=
  respected.mono fun _ _ frame => frame.governors id

end

theorem setHz_keeps_governors (module : Module) (notGovernor : module ≠ .governor) (hz : Nat) :
    (setHz module hz).Respects (Same Sys.governors) :=
  keeps_governors notGovernor (setHz_respects hz rfl)

theorem displaySetRate_keeps_governors (hz : Nat) :
    (displaySetRate hz).Respects (Same Sys.governors) :=
  keeps_governors (by decide) (displaySetRate_respects hz rfl)

theorem resetToStockModule_keeps_governors (notGovernor : module ≠ .governor) :
    (resetToStockModule module).Respects (Same Sys.governors) :=
  keeps_governors notGovernor (resetToStockModule_respects rfl)

/-- Whatever the last states were before. -/
theorem handleGovernor_settles {state final : Sys} {targetHz : Nat}
    (finished : (handleGovernor targetHz).run state = .ok (⟨⟩, final)) :
    final.governors.Settled := by
  unfold handleGovernor at finished
  rw [Program.run_read_bind, Program.run_update_bind] at finished
  obtain ⟨_, cpuReset, cpu, finished⟩ := Program.run_bind_ok finished
  obtain ⟨_, gpuReset, gpu, finished⟩ := Program.run_bind_ok finished
  obtain ⟨_, vrrReset, vrr, finished⟩ := Program.run_bind_ok finished
  cases finished
  -- none of the resets moves the flags that the switch has set
  have keepsCpu := (Program.Respects.when fun _ => .bind .sleep fun _ =>
    resetToStockModule_keeps_governors (by decide)).run cpu
  have keepsGpu := (Program.Respects.when fun _ => .bind .sleep fun _ =>
    resetToStockModule_keeps_governors (by decide)).run gpu
  have keepsVrr := (Program.Respects.when fun _ => .bind .sleep fun _ =>
    displaySetRate_keeps_governors _).run vrr
  have flags := keepsVrr.trans (keepsGpu.trans keepsCpu)
  simp only [Governors.Settled, flags, and_self]

end HorizonOc.Sysmodule
