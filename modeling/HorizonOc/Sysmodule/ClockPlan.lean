import HorizonOc.Data.Returns
import HorizonOc.Sysmodule.ControlLoop
import HorizonOc.Sysmodule.Refresh

namespace HorizonOc.Sysmodule

open HorizonOc.Data

/-- What `SetClocks` does without a boost and without governors. -/
def Setting.plan (setting : Setting) : Plan :=
  { wanted := fun module =>
      let targetHz := resolveTargetHz setting module false
      if targetHz ≠ 0 then nearestAllowedHz setting module targetHz else none
    stock := fun module => (setting.stockHz module).getD 0
    hijacks := usesHijack setting
    memTarget := resolveTargetHz setting .mem false
    loweredGpu := (nearestAllowedHz setting .gpu (resolveTargetHz setting .mem false)).getD 0
    overwrites := setting.value .overwriteRefreshRate ≠ 0
    displayTarget := resolveTargetHz setting .display true
    readback := fun hz => setting.board.displayReadback hz 0 }

def Sys.clocks (state : Sys) : Clocks := { rate := state.rate, freqs := state.freqs }

/-- What the loop takes for granted: there are rates to pick from, a reset sets a fixed rate, and
what the display reads back depends on what was asked for alone. -/
structure Setting.Regular (setting : Setting) : Prop where
  rows : ∀ module, module.IsClock → setting.gFreqTable module ≠ []
  resets : ∀ module, module.IsClock → ∃ hz ≠ 0, setting.resetHz module = some hz
  reads : ∀ asked ≠ 0, ∀ before,
    setting.board.displayReadback asked before = setting.board.displayReadback asked 0

/-- The state after a part of the tick that only moves the clocks. -/
structure Sys.Moved (before : Sys) (clocks : Clocks) (after : Sys) : Prop where
  setting : after.setting = before.setting
  governors : after.governors = before.governors
  clocks : after.clocks = clocks

theorem Sys.Moved.refl (state : Sys) : state.Moved state.clocks state := ⟨rfl, rfl, rfl⟩

theorem Sys.Moved.trans {before middle after : Sys} {clocks later : Clocks}
    (first : before.Moved clocks middle) (second : middle.Moved later after) :
    before.Moved later after :=
  ⟨second.setting.trans first.setting, second.governors.trans first.governors, second.clocks⟩

/-- What does not move the clocks any more. -/
theorem Sys.Moved.and_stays {before middle after : Sys} {clocks : Clocks}
    (first : before.Moved clocks middle) (second : middle.Moved middle.clocks after) :
    before.Moved clocks after :=
  ⟨second.setting.trans first.setting, second.governors.trans first.governors,
    second.clocks.trans first.clocks⟩

theorem Sys.Moved.regular {before after : Sys} {clocks : Clocks} (moved : before.Moved clocks after)
    (regular : before.setting.Regular) : after.setting.Regular := by
  rw [moved.setting]
  exact regular

theorem Sys.gpuVoltage_moved (state : Sys) (gpuVoltage : Nat) :
    state.Moved state.clocks { state with gpuVoltage } :=
  ⟨rfl, rfl, rfl⟩

theorem Sys.applyHz_moved (state : Sys) (module : Module) (hz : Nat) :
    state.Moved (state.clocks.setRate module hz) (state.applyHz module hz) :=
  ⟨rfl, rfl, rfl⟩

theorem Sys.record_moved (state : Sys) (effect : Effect) :
    state.Moved state.clocks (state.record effect) :=
  ⟨rfl, rfl, rfl⟩

theorem Sys.hijackGpuVolts_moved (state : Sys) (vmin : Nat) :
    state.Moved state.clocks (state.hijackGpuVolts vmin) := by
  unfold Sys.hijackGpuVolts
  split
  · exact ⟨rfl, rfl, rfl⟩
  · exact .refl state

theorem nearestHzIn_exists (inHz maxHz : Nat) {table : List Nat} (row : table ≠ []) :
    ∃ hz, nearestHzIn inHz maxHz table = some hz := by
  induction table with
  | nil => contradiction
  | cons hz rest ih =>
      cases rest with
      | nil => exact ⟨hz, rfl⟩
      | cons next more =>
          obtain ⟨later, found⟩ := ih (List.cons_ne_nil next more)
          rw [nearestHzIn]
          split
          · exact ⟨hz, rfl⟩
          · split
            · exact ⟨hz, rfl⟩
            · exact ⟨later, found⟩

theorem Setting.Regular.nearest {setting : Setting} (regular : setting.Regular) {module : Module}
    (clock : module.IsClock) (targetHz : Nat) :
    ∃ hz, nearestAllowedHz setting module targetHz = some hz :=
  nearestHzIn_exists _ _ (regular.rows module clock)

theorem Setting.Regular.nearestGpu {setting : Setting} (regular : setting.Regular) (targetHz : Nat) :
    ∃ hz, nearestAllowedHz setting .gpu targetHz = some hz :=
  regular.nearest (by decide) targetHz

theorem Setting.Regular.stock {setting : Setting} (regular : setting.Regular) {module : Module}
    (clock : module.IsClock) : setting.resetHz module = some (setting.plan.stock module) := by
  obtain ⟨hz, -, resets⟩ := regular.resets module clock
  have stocked : setting.stockHz module = some hz := by
    unfold Setting.resetHz at resets
    split at resets
    · exact resets
    · contradiction
  rw [resets]
  simp [Setting.plan, stocked]

section

variable {state : Sys} {module : Module}

theorem currentApmConfiguration_run {configuration : ApmConfiguration}
    (stock : state.setting.stock = some configuration) :
    currentApmConfiguration.run state = .ok (configuration, state) := by
  unfold currentApmConfiguration
  rw [Program.run_read_bind, stock]
  rfl

theorem resetToStockModule_run (clock : module.IsClock) {hz : Nat}
    (resets : state.setting.resetHz module = some hz) :
    (resetToStockModule module).run state = .ok (⟨⟩, state.applyHz module hz) := by
  unfold Setting.resetHz Setting.stockHz at resets
  split at resets
  · rename_i hos9
    obtain ⟨configuration, stock, rfl⟩ := Option.map_eq_some_iff.mp resets
    unfold resetToStockModule
    rw [Program.run_read_bind, if_pos hos9,
      Program.run_bind_of_ok _ (currentApmConfiguration_run stock), setHz_run clock]
  · contradiction

theorem resetToStockModule_returns (regular : state.setting.Regular) (clock : module.IsClock) :
    (resetToStockModule module).Returns state fun _ final =>
      state.Moved (state.clocks.setRate module (state.setting.plan.stock module)) final :=
  .of_run (resetToStockModule_run clock (regular.stock clock)) (state.applyHz_moved module _)

theorem handleLiveCpuUv_returns :
    handleLiveCpuUv.Returns state fun _ final => state.Moved state.clocks final := by
  unfold handleLiveCpuUv
  refine .read_bind (.when (fun _ => ?_) fun _ => .refl state)
  unfold handleCpuUv
  refine .read_bind ?_
  dsimp only
  cases state.setting.board.socType with
  | erista => exact .of_run rfl (state.record_moved _)
  | mariko => exact .of_run rfl (state.record_moved _)

theorem setGpuAgain_returns (regular : state.setting.Regular) (targetHz nearestHz : Nat) :
    (setGpuAgain targetHz nearestHz).Returns state fun _ final =>
      state.Moved (state.clocks.setRate .gpu
        (if targetHz ≠ 0 then nearestHz else state.setting.plan.stock .gpu)) final := by
  unfold setGpuAgain
  refine .run_bind (setHz_run (by decide) unlimitedHz state) ?_
  split
  · rename_i target
    refine .of_run (setHz_run (by decide) _ _) ?_
    exact ⟨rfl, rfl, Clocks.setRate_setRate state.clocks .gpu unlimitedHz nearestHz⟩
  · rename_i noTarget
    refine (resetToStockModule_returns (by exact regular) (by decide)).mono fun _ final moved => ?_
    exact ⟨moved.setting, moved.governors,
      moved.clocks.trans (Clocks.setRate_setRate state.clocks .gpu unlimitedHz _)⟩

theorem emit_returns {clocks : Clocks} {start : Sys} (moved : start.Moved clocks state)
    (effect : Effect) : (emit effect).Returns state fun _ final => start.Moved clocks final :=
  .of_run (run_emit effect state) (moved.and_stays (state.record_moved effect))

theorem pcvHijackGpuVolts_returns (vmin : Nat) :
    (pcvHijackGpuVolts vmin).Returns state fun _ final => state.Moved state.clocks final :=
  .of_run (pcvHijackGpuVolts_run state vmin)
    ((state.record_moved _).trans (Sys.hijackGpuVolts_moved _ vmin))

theorem dvfsBeforeSet_returns (targetHz : Nat) :
    (dvfsBeforeSet targetHz).Returns state fun _ final => state.Moved state.clocks final := by
  unfold dvfsBeforeSet
  refine .read_bind (.bind (pcvHijackGpuVolts_returns _) fun _ hijacked moved => ?_)
  have raises : (Program.when
      (state.setting.services.buckGpuMv < vminBeforeSet state.setting targetHz)
      (emit (.setBuckGpuMv (vminBeforeSet state.setting targetHz)))).Returns hijacked
        fun _ later => state.Moved state.clocks later :=
    .when (fun _ => emit_returns moved _) fun _ => moved
  refine .bind raises fun _ raised raisedMoved => ?_
  exact .update (raisedMoved.and_stays (raised.gpuVoltage_moved _))

theorem dvfsAfterSet_returns (regular : state.setting.Regular) {targetHz : Nat}
    (target : targetHz ≠ 0) {hz : Nat} (nearest : nearestAllowedHz state.setting .gpu targetHz = some hz) :
    (dvfsAfterSet targetHz).Returns state fun _ final =>
      state.Moved (state.clocks.setRate .gpu hz) final := by
  unfold dvfsAfterSet
  refine .read_bind (.ofOption_bind nearest ?_)
  refine .bind (pcvHijackGpuVolts_returns _) fun _ hijacked moved => ?_
  refine (setGpuAgain_returns (moved.regular regular) targetHz hz).mono fun _ final again => ?_
  rw [if_pos target, moved.clocks] at again
  exact moved.trans again

/-- The reset of the voltages sets the GPU again, to what its own pass sets it to. -/
theorem dvfsReset_returns (regular : state.setting.Regular) :
    dvfsReset.Returns state fun _ final => state.Moved
      (if state.setting.plan.hijacks then
        state.clocks.setRate .gpu
          ((state.setting.plan.wanted .gpu).getD (state.setting.plan.stock .gpu))
      else state.clocks) final := by
  unfold dvfsReset
  refine .read_bind (.when (fun uses => ?_) fun unused => ?_)
  · refine .bind (pcvHijackGpuVolts_returns 0) fun _ hijacked moved => ?_
    obtain ⟨hz, nearest⟩ := regular.nearestGpu (resolveTargetHz state.setting .gpu false)
    refine .ofOption_bind nearest ?_
    refine (setGpuAgain_returns (moved.regular regular) _ hz).mono fun _ final again => ?_
    rw [moved.setting, moved.clocks] at again
    have handed : (state.setting.plan.wanted .gpu).getD (state.setting.plan.stock .gpu) =
        if resolveTargetHz state.setting .gpu false ≠ 0 then hz
        else state.setting.plan.stock .gpu := by
      simp only [Setting.plan, nearest]
      split
      · rfl
      · rfl
    rw [if_pos (by exact uses), handed]
    exact moved.trans again
  · rw [if_neg (by exact unused)]
    exact .refl state

theorem cacheHz_moved (state : Sys) (module : Module) (hz : Nat) :
    state.Moved (state.clocks.cache module hz) (state.cacheHz module hz) :=
  ⟨rfl, rfl, rfl⟩

theorem plan_wanted {hz : Nat} (target : resolveTargetHz state.setting module false ≠ 0)
    (nearest : nearestAllowedHz state.setting module (resolveTargetHz state.setting module false) =
      some hz) : state.setting.plan.wanted module = some hz := by
  simp [Setting.plan, target, nearest]

theorem plan_unwanted (noTarget : resolveTargetHz state.setting module false = 0) :
    state.setting.plan.wanted module = none := by
  simp [Setting.plan, noTarget]

/-- Setting the CPU or the GPU to its target. -/
theorem setTargetHz_returns (regular : state.setting.Regular) (clock : module.IsClock)
    (notMem : module ≠ .mem) (target : resolveTargetHz state.setting module false ≠ 0)
    (oldHz : Nat) :
    (setTargetHz module (resolveTargetHz state.setting module false) oldHz).Returns state
      fun _ final => state.Moved (state.clocks.setClock state.setting.plan module) final := by
  obtain ⟨hz, nearest⟩ := regular.nearest clock (resolveTargetHz state.setting module false)
  have wanted := plan_wanted target nearest
  have noHijack : ∀ rise : Prop, ¬((module = .mem ∧ usesHijack state.setting) ∧ rise) :=
    fun _ both => notMem both.1.1
  unfold setTargetHz
  refine .read_bind (.ofOption_bind nearest (.when (fun differs => ?_) fun same => ?_))
  · refine .run_bind (Program.run_when_false (noHijack _) state) ?_
    refine .run_bind (setHz_run clock hz state) (.update_bind ?_)
    rw [Clocks.setClock_wanted wanted differs]
    have cached : state.Moved ((state.clocks.setRate module hz).cache module hz)
        ((state.applyHz module hz).cacheHz module hz) :=
      (state.applyHz_moved module hz).trans (cacheHz_moved _ module hz)
    have tunes : (Program.when (module = .cpu) handleLiveCpuUv).Returns
        ((state.applyHz module hz).cacheHz module hz) fun _ later =>
          state.Moved ((state.clocks.setRate module hz).cache module hz) later :=
      .when (fun _ => handleLiveCpuUv_returns.mono fun _ _ stays => cached.and_stays stays)
        fun _ => cached
    exact .bind tunes fun _ later moved => .when (fun hijacks => absurd hijacks (noHijack _))
      fun _ => moved
  · rw [Clocks.setClock_cached wanted (not_not.mp same)]
    exact .refl state

/-- Setting the memory to its target, with what that does to the GPU. -/
theorem setTargetHz_mem_returns (regular : state.setting.Regular)
    (target : resolveTargetHz state.setting .mem false ≠ 0) :
    (setTargetHz .mem (resolveTargetHz state.setting .mem false) (state.getHz .mem)).Returns state
      fun _ final => state.Moved (state.clocks.setMemory state.setting.plan) final := by
  have clock : Module.mem.IsClock := by decide
  obtain ⟨hz, nearest⟩ := regular.nearest clock (resolveTargetHz state.setting .mem false)
  obtain ⟨gpuHz, gpuNearest⟩ := regular.nearestGpu (resolveTargetHz state.setting .mem false)
  have lowered : state.setting.plan.loweredGpu = gpuHz := by simp [Setting.plan, gpuNearest]
  have wanted := plan_wanted target nearest
  unfold setTargetHz
  refine .read_bind (.ofOption_bind nearest (.when (fun differs => ?_) fun same => ?_))
  · rw [Clocks.setMemory_wanted wanted differs]
    have raises : (Program.when ((Module.mem = .mem ∧ usesHijack state.setting) ∧
        state.getHz .mem < resolveTargetHz state.setting .mem false)
        (dvfsBeforeSet (resolveTargetHz state.setting .mem false))).Returns state
          fun _ later => state.Moved state.clocks later :=
      .when (fun _ => dvfsBeforeSet_returns _) fun _ => .refl state
    refine .bind raises fun _ raised raisedMoved => ?_
    refine .run_bind (setHz_run (by decide) hz raised) (.update_bind ?_)
    refine .run_bind (Program.run_when_false (by decide) _) ?_
    have cached : state.Moved ((state.clocks.setRate .mem hz).cache .mem hz)
        ((raised.applyHz .mem hz).cacheHz .mem hz) := by
      rw [← raisedMoved.clocks]
      exact raisedMoved.trans ((raised.applyHz_moved .mem hz).trans (cacheHz_moved _ .mem hz))
    refine .when (fun hijacks => ?_) fun keeps => ?_
    · rw [if_pos ⟨hijacks.1.2, hijacks.2⟩, lowered, ← cached.clocks]
      have nearestAfter : nearestAllowedHz ((raised.applyHz .mem hz).cacheHz .mem hz).setting .gpu
          (resolveTargetHz state.setting .mem false) = some gpuHz := by
        rw [cached.setting]
        exact gpuNearest
      refine (dvfsAfterSet_returns (cached.regular regular) target nearestAfter).mono fun _ final moved => ?_
      exact cached.trans moved
    · rw [if_neg fun lowers => keeps ⟨⟨rfl, lowers.1⟩, lowers.2⟩]
      exact cached
  · rw [Clocks.setMemory_cached wanted (not_not.mp same)]
    exact .refl state

theorem setClock_unwanted {clocks : Clocks} {plan : Plan} (unwanted : plan.wanted module = none) :
    clocks.setClock plan module = clocks.setRate module (plan.stock module) := by
  rw [Clocks.setClock, unwanted]

theorem setMemory_unwanted {clocks : Clocks} {plan : Plan} (unwanted : plan.wanted .mem = none) :
    clocks.setMemory plan =
      if plan.hijacks then
        (clocks.setRate .mem (plan.stock .mem)).setRate .gpu
          ((plan.wanted .gpu).getD (plan.stock .gpu))
      else clocks.setRate .mem (plan.stock .mem) := by
  rw [Clocks.setMemory, setClock_unwanted unwanted, unwanted]

theorem setOrResetHz_returns {isBoost : Bool} {post : PUnit → Sys → Prop}
    (targeted : resolveTargetHz state.setting module false ≠ 0 →
      (setTargetHz module (resolveTargetHz state.setting module false) (state.getHz module)).Returns
        state post)
    (untargeted : resolveTargetHz state.setting module false = 0 →
      (handleFreqReset module isBoost).Returns state post) :
    (setOrResetHz module isBoost).Returns state post := by
  unfold setOrResetHz
  refine .read_bind ?_
  dsimp only
  split
  · rename_i target
    exact targeted target
  · rename_i noTarget
    exact untargeted (not_not.mp noTarget)

theorem setOrResetHz_cpu_returns (regular : state.setting.Regular) :
    (setOrResetHz .cpu false).Returns state fun _ final =>
      state.Moved (state.clocks.setClock state.setting.plan .cpu) final := by
  refine setOrResetHz_returns
    (fun target => setTargetHz_returns regular (by decide) (by decide) target _) fun noTarget => ?_
  rw [setClock_unwanted (plan_unwanted noTarget)]
  unfold handleFreqReset
  refine .read_bind ?_
  have clock : Module.cpu.IsClock := by decide
  have resets := resetToStockModule_returns regular clock
  refine .bind (.when (fun _ => resets) fun kept => absurd (by simp) kept) fun _ reset moved => ?_
  exact handleLiveCpuUv_returns.mono fun _ _ stays => moved.and_stays stays

theorem setOrResetHz_gpu_returns (regular : state.setting.Regular) :
    (setOrResetHz .gpu false).Returns state fun _ final =>
      state.Moved (state.clocks.setClock state.setting.plan .gpu) final := by
  refine setOrResetHz_returns
    (fun target => setTargetHz_returns regular (by decide) (by decide) target _) fun noTarget => ?_
  rw [setClock_unwanted (plan_unwanted noTarget)]
  exact resetToStockModule_returns regular (by decide)

theorem setOrResetHz_mem_returns (regular : state.setting.Regular) :
    (setOrResetHz .mem false).Returns state fun _ final =>
      state.Moved (state.clocks.setMemory state.setting.plan) final := by
  refine setOrResetHz_returns (setTargetHz_mem_returns regular) fun noTarget => ?_
  rw [setMemory_unwanted (plan_unwanted noTarget)]
  unfold handleFreqReset
  refine .read_bind (.bind (resetToStockModule_returns regular (by decide)) fun _ reset moved => ?_)
  refine (dvfsReset_returns (moved.regular regular)).mono fun _ final again => ?_
  rw [moved.setting, moved.clocks] at again
  exact moved.trans again

/-- Asking the display for a rate. -/
theorem displaySetRate_returns (regular : state.setting.Regular) {hz : Nat} (asked : hz ≠ 0) :
    (displaySetRate hz).Returns state fun _ final =>
      state.Moved (state.clocks.setRate .display (state.setting.plan.readback hz)) final := by
  unfold displaySetRate
  refine .run_bind (run_emit _ state) (.update ⟨rfl, rfl, ?_⟩)
  simp only [Sys.clocks, Sys.clkrstSetHz, Sys.record, Clocks.setRate, Setting.plan,
    regular.reads hz asked (state.rate .display)]

theorem setDisplayHz_returns (regular : state.setting.Regular) {hz : Nat} (asked : hz ≠ 0) :
    (setDisplayHz hz).Returns state fun _ final =>
      state.Moved ((state.clocks.setRate .display (state.setting.plan.readback hz)).cache .display hz)
        final := by
  unfold setDisplayHz
  have sets : (setHz .display hz).Returns state fun _ final =>
      state.Moved (state.clocks.setRate .display (state.setting.plan.readback hz)) final := by
    unfold setHz
    refine .update_bind ?_
    have recorded := state.record_moved (.setHz .display hz state.ramVmin)
    refine (displaySetRate_returns (by exact regular) asked).mono fun _ final moved => ?_
    exact recorded.trans moved
  refine .bind sets fun _ set moved => .update ?_
  rw [← moved.clocks]
  exact moved.trans ⟨rfl, rfl, rfl⟩

theorem setModuleClock_display_returns (regular : state.setting.Regular)
    (off : state.governors.isVRREnabled = false) :
    (setModuleClock false .display).Returns state fun _ final =>
      state.Moved (state.clocks.setDisplay state.setting.plan) final := by
  unfold setModuleClock
  refine .read_bind ?_
  dsimp only
  refine .when (fun _ => .when (fun overwrites => ?_) fun keeps => ?_) fun runs => ?_
  · have planned : state.setting.plan.overwrites = true := decide_eq_true overwrites
    split
    · rename_i target
      rw [Clocks.setDisplay_target planned target]
      exact setDisplayHz_returns regular target
    · rename_i noTarget
      rw [Clocks.setDisplay_reset planned (not_not.mp noTarget)]
      unfold handleFreqReset
      refine .read_bind (.when (fun _ => ?_) fun kept => absurd overwrites kept)
      exact displaySetRate_returns regular (by decide)
  · rw [Clocks.setDisplay_kept (decide_eq_false keeps)]
    exact .refl state
  · exact absurd (by simp [off]) runs

end

/-- Neither switched on nor just switched off. -/
def Governors.Off (governors : Governors) : Prop :=
  (governors.isCpuGovernorEnabled = false ∧ governors.isGpuGovernorEnabled = false ∧
    governors.isVRREnabled = false) ∧
  governors.lastCpuGovernorState = false ∧ governors.lastGpuGovernorState = false ∧
    governors.lastVrrGovernorState = false

instance (governors : Governors) : Decidable governors.Off :=
  inferInstanceAs (Decidable (_ ∧ _))

/-- The governor word enables none. -/
def Setting.NoGovernor (setting : Setting) : Prop :=
  ∀ component ∈ [governorStateCpu, governorStateGpu, governorStateVrr],
    governorEnabled component (resolveTargetHz setting .governor true)
      (resolveTargetHz setting .governor true) = false

instance (setting : Setting) : Decidable setting.NoGovernor :=
  inferInstanceAs (Decidable (∀ component ∈ _, _))

variable {state : Sys}

theorem setModuleClock_governor_returns (off : state.governors.Off)
    (none : state.setting.NoGovernor) :
    (setModuleClock false .governor).Returns state fun _ final =>
      state.Moved state.clocks final := by
  obtain ⟨⟨cpu, gpu, vrr⟩, lastCpu, lastGpu, lastVrr⟩ := off
  have noCpu := none governorStateCpu (by simp)
  have noGpu := none governorStateGpu (by simp)
  have noVrr := none governorStateVrr (by simp)
  unfold setModuleClock
  refine .read_bind ?_
  dsimp only
  unfold handleGovernor
  refine .read_bind ?_
  dsimp only
  rw [noCpu, noGpu, noVrr, lastCpu, lastGpu, lastVrr]
  have skips (program : SysProgram PUnit) (later : Sys) :
      (Program.when ((!false && false) = true) program).run later = .ok (⟨⟩, later) :=
    Program.run_when_false (by decide) later
  refine .update_bind (.run_bind (skips _ _) (.run_bind (skips _ _) (.run_bind (skips _ _) ?_)))
  refine .update ⟨rfl, ?_, rfl⟩
  cases governors : state.governors with
  | mk =>
      rw [governors] at cpu gpu vrr lastCpu lastGpu lastVrr
      simp_all

theorem setModuleClock_returns (module : Module) (regular : state.setting.Regular)
    (off : state.governors.Off) (none : state.setting.NoGovernor) :
    (setModuleClock false module).Returns state fun _ final =>
      state.Moved (state.clocks.pass state.setting.plan module) final := by
  cases module with
  | cpu =>
      unfold setModuleClock
      exact .read_bind (.when (fun _ => setOrResetHz_cpu_returns regular)
        fun governed => absurd (by simp [off.1.1]) governed)
  | gpu =>
      unfold setModuleClock
      exact .read_bind (.when (fun _ => setOrResetHz_gpu_returns regular)
        fun governed => absurd (by simp [off.1.2.1]) governed)
  | mem =>
      unfold setModuleClock
      exact .read_bind (setOrResetHz_mem_returns regular)
  | governor => exact setModuleClock_governor_returns off none
  | display => exact setModuleClock_display_returns regular off.1.2.2

theorem setModuleClocks_returns (modules : List Module) {state : Sys}
    (regular : state.setting.Regular) (off : state.governors.Off)
    (none : state.setting.NoGovernor) :
    (modules.forM (setModuleClock false)).Returns state fun _ final =>
      state.Moved (modules.foldl (Clocks.pass state.setting.plan) state.clocks) final := by
  induction modules generalizing state with
  | nil => exact .pure (.refl state)
  | cons module rest ih =>
      refine .bind (setModuleClock_returns module regular off none) fun _ passed moved => ?_
      have noneAfter : passed.setting.NoGovernor := by
        rw [moved.setting]
        exact none
      have later := ih (moved.regular regular) (by rw [moved.governors]; exact off) noneAfter
      rw [moved.setting, moved.clocks] at later
      exact later.mono fun _ final rest => moved.trans rest

/-- `SetClocks` without a boost. -/
theorem setClocks_returns (regular : state.setting.Regular) (off : state.governors.Off)
    (none : state.setting.NoGovernor) :
    (setClocks false).Returns state fun _ final =>
      state.Moved (state.clocks.setClocks state.setting.plan) final := by
  unfold setClocks
  refine .read_bind ?_
  rw [if_neg (by simp)]
  exact setModuleClocks_returns Module.all regular off none

end HorizonOc.Sysmodule
