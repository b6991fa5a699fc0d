import HorizonOc.Sysmodule.GpuVoltage

namespace HorizonOc.Sysmodule

open HorizonOc.Data

def Sys.applyHz (state : Sys) (module : Module) (hz : Nat) : Sys :=
  (state.record (.setHz module hz state.ramVmin)).clkrstSetHz module hz

section

variable (state : Sys) (module other : Module) (hz : Nat)

@[simp] theorem Sys.applyHz_setting : (state.applyHz module hz).setting = state.setting := rfl

@[simp] theorem Sys.applyHz_rate_self : (state.applyHz module hz).rate module = hz :=
  Function.update_self ..

@[simp] theorem Sys.cacheHz_log : (state.cacheHz module hz).log = state.log := rfl

@[simp] theorem Sys.cacheHz_rate : (state.cacheHz module hz).rate = state.rate := rfl

theorem writesOf_applyHz_self : writesOf module (state.applyHz module hz).log =
    (hz, state.ramVmin) :: writesOf module state.log := by
  simp [Sys.applyHz, Sys.record, Sys.clkrstSetHz, writesOf]

theorem writesOf_applyHz_of_ne (differs : other ≠ module) :
    writesOf other (state.applyHz module hz).log = writesOf other state.log := by
  simp [Sys.applyHz, Sys.record, Sys.clkrstSetHz, writesOf, differs.symm]

@[simp] theorem lastHz_applyHz_self : lastHz module (state.applyHz module hz).log = some hz := by
  simp [lastHz, writesOf_applyHz_self]

end

theorem applyHz_touches {touched : Module → Prop} {volts : Prop} {module : Module} (state : Sys)
    (hz : Nat) (member : touched module) :
    TouchesOnly touched volts state (state.applyHz module hz) :=
  IsTrans.trans _ _ _ (record_touches state (by exact member)) (clkrstSetHz_touches _ hz member)

/-- The modules whose rate `SetHz` hands to the system's clocks. -/
def Module.IsClock (module : Module) : Prop := module.toNat ≤ Module.mem.toNat

instance (module : Module) : Decidable module.IsClock :=
  inferInstanceAs (Decidable (module.toNat ≤ Module.mem.toNat))

theorem setHz_run {module : Module} (clock : module.IsClock) (hz : Nat) (state : Sys) :
    (setHz module hz).run state = .ok (⟨⟩, state.applyHz module hz) := by
  cases module with
  | gpu => rfl
  | mem => rfl
  | governor => exact absurd clock (by decide)
  | display => exact absurd clock (by decide)
  | cpu =>
      change Except.ok (_, Sys.clkrstSetHz (state.applyHz .cpu hz) .cpu hz) = _
      simp [Sys.applyHz, Sys.clkrstSetHz]

theorem currentApmConfiguration_ok {state : Sys} {result : ApmConfiguration × Sys}
    (finished : currentApmConfiguration.run state = .ok result) :
    state.setting.stock = some result.1 ∧ result.2 = state :=
  Program.run_ofOption_ok finished

/-- A reset hands on the stock rate, or below HOS 9 asks for the performance mode. -/
theorem resetToStockModule_ok {module : Module} (clock : module.IsClock) {state final : Sys}
    (finished : (resetToStockModule module).run state = .ok (⟨⟩, final)) :
    (state.setting.board.hosAtLeast9 = true ∧ ∃ configuration,
      state.setting.stock = some configuration ∧
        final = state.applyHz module (configuration.hz module)) ∨
    (state.setting.board.hosAtLeast9 = false ∧ TouchesOnly (fun _ => False) False state final ∧
      final.rate = state.modeRates) := by
  unfold resetToStockModule at finished
  rw [Program.run_read_bind] at finished
  cases hos9 : state.setting.board.hosAtLeast9 with
  | true =>
      rw [if_pos hos9] at finished
      obtain ⟨configuration, middle, found, rest⟩ := Program.run_bind_ok finished
      obtain ⟨stock, same⟩ := currentApmConfiguration_ok found
      simp only at stock same
      subst same
      rw [setHz_run clock] at rest
      cases rest
      exact .inl ⟨rfl, configuration, stock, rfl⟩
  | false =>
      rw [if_neg (by simp [hos9])] at finished
      have frame : TouchesOnly (fun _ => False) False state final :=
        (requestPerformanceMode_within state hos9).finish finished
      cases finished
      exact .inr ⟨rfl, frame, rfl⟩

/-- What a part of the tick hands on for one module: the rate it set last, if it set one.  Below HOS 9
a performance mode may move the rate as well. -/
structure HandsOn (module : Module) (handed : Option Nat) (before after : Sys) : Prop where
  setting : after.setting = before.setting
  lastHz : lastHz module after.log = handed.or (lastHz module before.log)
  rate : before.setting.board.hosAtLeast9 = true →
    after.rate module = handed.getD (before.rate module)

variable {module : Module} {before middle after : Sys}

theorem HandsOn.refl (state : Sys) : HandsOn module none state state := ⟨rfl, rfl, fun _ => rfl⟩

theorem HandsOn.trans {first second : Option Nat} (earlier : HandsOn module first before middle)
    (later : HandsOn module second middle after) :
    HandsOn module (second.or first) before after := by
  refine ⟨later.setting.trans earlier.setting, ?_, fun hos9 => ?_⟩
  · rw [later.lastHz, earlier.lastHz, Option.or_assoc]
  · rw [later.rate (by rw [earlier.setting]; exact hos9), earlier.rate hos9]
    cases second with
    | none => rfl
    | some hz => rfl

theorem HandsOn.after_none {handed : Option Nat} (earlier : HandsOn module none before middle)
    (later : HandsOn module handed middle after) : HandsOn module handed before after := by
  have both := earlier.trans later
  rwa [Option.or_none] at both

theorem HandsOn.applyHz (state : Sys) (hz : Nat) :
    HandsOn module (some hz) state (state.applyHz module hz) :=
  ⟨rfl, lastHz_applyHz_self .., fun _ => Sys.applyHz_rate_self ..⟩

theorem HandsOn.applyHz_of_ne {other : Module} (differs : other ≠ module) (state : Sys) (hz : Nat) :
    HandsOn other none state (state.applyHz module hz) := by
  refine ⟨rfl, ?_, fun _ => Function.update_of_ne differs _ _⟩
  simp only [HorizonOc.Sysmodule.lastHz, writesOf_applyHz_of_ne state module other hz differs]
  rfl

theorem HandsOn.of_touchesOnly {touched : Module → Prop} {volts : Prop}
    (frame : TouchesOnly touched volts before after) (spared : ¬touched module) :
    HandsOn module none before after :=
  ⟨frame.setting, frame.lastHz_eq spared, fun hos9 => frame.rate_of_hos9 hos9 spared⟩

theorem HandsOn.then_touchesOnly {handed : Option Nat} {touched : Module → Prop} {volts : Prop}
    (earlier : HandsOn module handed before middle) (frame : TouchesOnly touched volts middle after)
    (spared : ¬touched module) : HandsOn module handed before after :=
  earlier.trans (.of_touchesOnly frame spared)

/-- The stock rate of a module. -/
def Setting.stockHz (setting : Setting) (module : Module) : Option Nat :=
  setting.stock.map fun configuration => configuration.hz module

/-- What a reset hands on for a module. -/
def Setting.resetHz (setting : Setting) (module : Module) : Option Nat :=
  if setting.board.hosAtLeast9 then setting.stockHz module else none

theorem resetToStockModule_hands {state final : Sys} (clock : module.IsClock)
    (finished : (resetToStockModule module).run state = .ok (⟨⟩, final)) :
    HandsOn module (state.setting.resetHz module) state final ∧
      (state.setting.board.hosAtLeast9 = true →
        ∃ hz, state.setting.stockHz module = some hz ∧ final = state.applyHz module hz) := by
  unfold Setting.resetHz Setting.stockHz
  rcases resetToStockModule_ok clock finished with
    ⟨hos9, configuration, stock, rfl⟩ | ⟨older, frame, -⟩
  · rw [if_pos hos9, stock]
    exact ⟨.applyHz state _, fun _ => ⟨_, rfl, rfl⟩⟩
  · rw [if_neg (by simp [older])]
    exact ⟨.of_touchesOnly frame id, fun hos9 => absurd (older.symm.trans hos9) (by decide)⟩

/-- What a target, or its absence, decides for a module. -/
def Setting.decidedHz (setting : Setting) (module : Module) : Option Nat :=
  let targetHz := resolveTargetHz setting module false
  if targetHz ≠ 0 then nearestAllowedHz setting module targetHz else setting.stockHz module

theorem setGpuAgain_hands {state final : Sys} {targetHz nearestHz : Nat}
    (finished : (setGpuAgain targetHz nearestHz).run state = .ok (⟨⟩, final)) :
    HandsOn .gpu
      (if targetHz ≠ 0 then some nearestHz else (state.setting.resetHz .gpu).or (some unlimitedHz))
      state final := by
  unfold setGpuAgain at finished
  rw [Program.run_bind_of_ok _ (setHz_run (by decide) unlimitedHz state)] at finished
  have opened : HandsOn .gpu (some unlimitedHz) state (state.applyHz .gpu unlimitedHz) :=
    .applyHz state unlimitedHz
  split at finished
  · rename_i target
    rw [setHz_run (by decide)] at finished
    cases finished
    rw [if_pos target]
    exact opened.trans (.applyHz _ nearestHz)
  · rename_i noTarget
    rw [if_neg noTarget]
    exact opened.trans (resetToStockModule_hands (by decide) finished).1

theorem handleLiveCpuUv_keeps_rate : handleLiveCpuUv.Respects (Same Sys.rate) := by
  unfold handleLiveCpuUv
  refine .bind .read fun _ => .when fun _ => ?_
  unfold handleCpuUv
  refine .bind .read fun state => ?_
  dsimp only
  cases state.setting.board.socType with
  | erista => exact .update fun _ => rfl
  | mariko => exact .update fun _ => rfl

/-- A target hands on its nearest rate unless the cache already has it, and moves no other rate. -/
theorem setTargetHz_hands {state final : Sys} {targetHz oldHz : Nat} (clock : module.IsClock)
    (notMem : module ≠ .mem)
    (finished : (setTargetHz module targetHz oldHz).run state = .ok (⟨⟩, final)) :
    (∃ hz, nearestAllowedHz state.setting module targetHz = some hz) ∧
      HandsOn module
        ((nearestAllowedHz state.setting module targetHz).filter (· ≠ state.freqs module)) state final ∧
      ∀ other, other ≠ module → final.rate other = state.rate other := by
  unfold setTargetHz at finished
  rw [Program.run_read_bind] at finished
  obtain ⟨hz, nearest, rest⟩ := Program.run_ofOption_bind_ok finished
  rw [nearest]
  refine ⟨⟨hz, rfl⟩, ?_⟩
  rcases Program.run_when_ok rest with ⟨differs, rest⟩ | ⟨same, rfl⟩
  · have noHijack : ∀ rise : Prop, ¬((module = .mem ∧ usesHijack state.setting) ∧ rise) :=
      fun _ both => notMem both.1.1
    rw [Program.run_bind_of_ok _ (Program.run_when_false (noHijack _) state),
      Program.run_bind_of_ok _ (setHz_run clock hz state), Program.run_update_bind] at rest
    obtain ⟨_, middle, tuned, rest⟩ := Program.run_bind_ok rest
    rw [Program.run_when_false (noHijack _)] at rest
    cases rest
    have tunes : (Program.when (module = .cpu) handleLiveCpuUv).Respects
        (TouchesOnly (fun _ => False) False) := .when fun _ => handleLiveCpuUv_respects
    have keeps : (Program.when (module = .cpu) handleLiveCpuUv).Respects (Same Sys.rate) :=
      .when fun _ => handleLiveCpuUv_keeps_rate
    have sameRate : final.rate = ((state.applyHz module hz).cacheHz module hz).rate :=
      keeps.run tuned
    have cached : HandsOn module (some hz) state ((state.applyHz module hz).cacheHz module hz) :=
      ⟨rfl, lastHz_applyHz_self .., fun _ => Sys.applyHz_rate_self ..⟩
    refine ⟨?_, fun other isOther => ?_⟩
    · rw [Option.filter_some_pos (by simpa using differs)]
      exact cached.then_touchesOnly (tunes.run tuned) id
    · rw [sameRate]
      exact Function.update_of_ne isOther _ _
  · rw [Option.filter_some_neg (by simpa using same)]
    exact ⟨.refl _, fun _ _ => rfl⟩

theorem resetToStockModule_rate {other : Module} {state final : Sys} (clock : module.IsClock)
    (differs : other ≠ module)
    (finished : (resetToStockModule module).run state = .ok (⟨⟩, final)) :
    final.rate other =
      if state.setting.board.hosAtLeast9 = false then state.modeRates other else state.rate other := by
  rcases resetToStockModule_ok clock finished with ⟨hos9, configuration, -, rfl⟩ | ⟨older, -, moved⟩
  · rw [if_neg (by simp [hos9])]
    exact Function.update_of_ne differs _ _
  · rw [if_pos older, moved]

/-- What the pass of the CPU or the GPU hands on, if it resets where it has no target. -/
def Setting.passHz (setting : Setting) (module : Module) (cachedHz : Nat) (resets : Bool) :
    Option Nat :=
  let targetHz := resolveTargetHz setting module false
  if targetHz ≠ 0 then (nearestAllowedHz setting module targetHz).filter (· ≠ cachedHz)
  else if resets then setting.resetHz module
  else none

/-- Below HOS 9 the pass asks for the performance mode. -/
def Setting.PassRequestsMode (setting : Setting) (module : Module) (resets : Bool) : Prop :=
  setting.board.hosAtLeast9 = false ∧ resets = true ∧ resolveTargetHz setting module false = 0

instance (setting : Setting) (module : Module) (resets : Bool) :
    Decidable (setting.PassRequestsMode module resets) :=
  inferInstanceAs (Decidable (_ ∧ _))

/-- What is known once the pass of the CPU or the GPU is over. -/
structure ClockPass (module : Module) (resets : Bool) (before after : Sys) : Prop where
  hands : HandsOn module (before.setting.passHz module (before.freqs module) resets) before after
  found : resolveTargetHz before.setting module false ≠ 0 ∨
      (resets = true ∧ before.setting.board.hosAtLeast9 = true) →
    ∃ hz, before.setting.decidedHz module = some hz
  memRate : after.rate .mem =
    if before.setting.PassRequestsMode module resets then before.modeRates .mem
    else before.rate .mem

theorem setTargetHz_pass {state final : Sys} {oldHz : Nat} (clock : module.IsClock)
    (notMem : module ≠ .mem) (resets : Bool) (target : resolveTargetHz state.setting module false ≠ 0)
    (finished : (setTargetHz module (resolveTargetHz state.setting module false) oldHz).run state =
      .ok (⟨⟩, final)) : ClockPass module resets state final := by
  obtain ⟨found, hands, others⟩ := setTargetHz_hands clock notMem finished
  have decided : ∃ hz, state.setting.decidedHz module = some hz := by
    rw [Setting.decidedHz, if_pos target]
    exact found
  refine ⟨?_, fun _ => decided, ?_⟩
  · rw [Setting.passHz, if_pos target]
    exact hands
  · rw [if_neg fun requests => target requests.2.2]
    exact others .mem notMem.symm

/-- A pass sets a target, or resets where there is none. -/
theorem setOrResetHz_ok {state final : Sys} {isBoost : Bool}
    (finished : (setOrResetHz module isBoost).run state = .ok (⟨⟩, final)) :
    (resolveTargetHz state.setting module false ≠ 0 ∧
      (setTargetHz module (resolveTargetHz state.setting module false) (state.getHz module)).run
        state = .ok (⟨⟩, final)) ∨
    (resolveTargetHz state.setting module false = 0 ∧
      (handleFreqReset module isBoost).run state = .ok (⟨⟩, final)) := by
  unfold setOrResetHz at finished
  rw [Program.run_read_bind] at finished
  dsimp only at finished
  split at finished
  · rename_i target
    exact .inl ⟨target, finished⟩
  · rename_i noTarget
    exact .inr ⟨Classical.not_not.mp noTarget, finished⟩

theorem setOrResetHz_gpu_pass {state final : Sys} {isBoost : Bool}
    (finished : (setOrResetHz .gpu isBoost).run state = .ok (⟨⟩, final)) :
    ClockPass .gpu true state final := by
  rcases setOrResetHz_ok finished with ⟨target, finished⟩ | ⟨untargeted, finished⟩
  · exact setTargetHz_pass (by decide) (by decide) true target finished
  · have noTarget : ¬resolveTargetHz state.setting .gpu false ≠ 0 := Classical.not_not.mpr untargeted
    obtain ⟨hands, applies⟩ := resetToStockModule_hands (by decide) finished
    refine ⟨?_, fun decides => ?_, ?_⟩
    · rw [Setting.passHz, if_neg noTarget, if_pos rfl]
      exact hands
    · obtain ⟨hz, stock, -⟩ := applies (decides.resolve_left noTarget).2
      exact ⟨hz, by rw [Setting.decidedHz, if_neg noTarget, stock]⟩
    · rw [resetToStockModule_rate (by decide) (by decide) finished]
      simp [Setting.PassRequestsMode, untargeted]

theorem setOrResetHz_cpu_pass {state final : Sys} {isBoost : Bool}
    (finished : (setOrResetHz .cpu isBoost).run state = .ok (⟨⟩, final)) :
    ClockPass .cpu (!isBoost) state final := by
  rcases setOrResetHz_ok finished with ⟨target, finished⟩ | ⟨untargeted, finished⟩
  · exact setTargetHz_pass (by decide) (by decide) (!isBoost) target finished
  · have noTarget : ¬resolveTargetHz state.setting .cpu false ≠ 0 := Classical.not_not.mpr untargeted
    unfold handleFreqReset at finished
    rw [Program.run_read_bind] at finished
    obtain ⟨_, middle, maybeReset, tuned⟩ := Program.run_bind_ok finished
    have tunes : handleLiveCpuUv.Respects (TouchesOnly (fun _ => False) False) :=
      handleLiveCpuUv_respects
    have frame := tunes.run tuned
    have sameRate : final.rate = middle.rate := handleLiveCpuUv_keeps_rate.run tuned
    rcases Program.run_when_ok maybeReset with ⟨resets, reset⟩ | ⟨boosts, rfl⟩
    · have notBoost : isBoost = false := by
        cases isBoost with
        | false => rfl
        | true => simp at resets
      subst notBoost
      obtain ⟨hands, applies⟩ := resetToStockModule_hands (by decide) reset
      refine ⟨?_, fun decides => ?_, ?_⟩
      · rw [Setting.passHz, if_neg noTarget, if_pos (by decide)]
        exact hands.then_touchesOnly frame id
      · obtain ⟨hz, stock, -⟩ := applies (decides.resolve_left noTarget).2
        exact ⟨hz, by rw [Setting.decidedHz, if_neg noTarget, stock]⟩
      · rw [sameRate, resetToStockModule_rate (by decide) (by decide) reset]
        simp [Setting.PassRequestsMode, untargeted]
    · have boost : isBoost = true := by
        cases isBoost with
        | true => rfl
        | false => simp at boosts
      subst boost
      refine ⟨?_, fun decides => absurd (decides.resolve_left noTarget).1 (by decide), ?_⟩
      · rw [Setting.passHz, if_neg noTarget, if_neg (by decide)]
        exact .of_touchesOnly frame id
      · rw [sameRate, if_neg fun requests => absurd requests.2.1 (by decide)]

/-- Setting the memory to a rate that the cache does not have: the voltage first where the target
is above the old rate, the GPU again where it is below. -/
theorem setTargetHz_mem_ok {state final : Sys} {targetHz oldHz : Nat}
    (finished : (setTargetHz .mem targetHz oldHz).run state = .ok (⟨⟩, final)) :
    ∃ hz, nearestAllowedHz state.setting .mem targetHz = some hz ∧
      ((hz = state.freqs .mem ∧ final = state) ∨
        (hz ≠ state.freqs .mem ∧ ∃ raised,
          (Program.when (usesHijack state.setting ∧ oldHz < targetHz)
            (dvfsBeforeSet targetHz)).run state = .ok (⟨⟩, raised) ∧
          (Program.when (usesHijack state.setting ∧ targetHz < oldHz)
            (dvfsAfterSet targetHz)).run ((raised.applyHz .mem hz).cacheHz .mem hz) =
              .ok (⟨⟩, final))) := by
  unfold setTargetHz at finished
  rw [Program.run_read_bind] at finished
  obtain ⟨hz, nearest, rest⟩ := Program.run_ofOption_bind_ok finished
  refine ⟨hz, nearest, ?_⟩
  rcases Program.run_when_ok rest with ⟨differs, rest⟩ | ⟨same, rfl⟩
  · obtain ⟨_, raised, before, rest⟩ := Program.run_bind_ok rest
    rw [Program.run_bind_of_ok _ (setHz_run (by decide) hz raised), Program.run_update_bind,
      Program.run_bind_of_ok _ (Program.run_when_false (by decide) _)] at rest
    have forMem : ∀ change : Prop, usesHijack state.setting ∧ change ↔
        (Module.mem = .mem ∧ usesHijack state.setting) ∧ change := fun _ => by simp
    refine .inr ⟨differs, raised, ?_, ?_⟩
    · rw [Program.when_congr (forMem _)]
      exact before
    · rw [Program.when_congr (forMem _)]
      exact rest
  · exact .inl ⟨by simpa using same, rfl⟩

/-- Lowering the memory hands on the nearest GPU entry of the memory's target; raising it hands on
nothing for the GPU. -/
theorem setTargetHz_mem_hands_gpu {state final : Sys} {targetHz oldHz : Nat}
    (target : targetHz ≠ 0)
    (finished : (setTargetHz .mem targetHz oldHz).run state = .ok (⟨⟩, final)) :
    ∃ hz, nearestAllowedHz state.setting .mem targetHz = some hz ∧
      ((hz ≠ state.freqs .mem ∧ usesHijack state.setting ∧ targetHz < oldHz ∧
        ∃ gpuHz, nearestAllowedHz state.setting .gpu targetHz = some gpuHz ∧
          HandsOn .gpu (some gpuHz) state final) ∨
      (¬(hz ≠ state.freqs .mem ∧ usesHijack state.setting ∧ targetHz < oldHz) ∧
        HandsOn .gpu none state final)) := by
  obtain ⟨hz, nearest, ⟨same, rfl⟩ | ⟨differs, raised, before, after⟩⟩ :=
    setTargetHz_mem_ok finished
  · exact ⟨hz, nearest, .inr ⟨fun both => both.1 same, .refl _⟩⟩
  refine ⟨hz, nearest, ?_⟩
  have raises : (Program.when (usesHijack state.setting ∧ oldHz < targetHz)
      (dvfsBeforeSet targetHz)).Respects (TouchesOnly (· = .mem) True) :=
    .when fun _ => dvfsBeforeSet_respects targetHz trivial
  have raisedFrame := raises.run before
  set set := (raised.applyHz .mem hz).cacheHz .mem hz with setDef
  have setFrame : TouchesOnly (· = .mem) True state set :=
    IsTrans.trans _ _ _ raisedFrame
      (IsTrans.trans _ _ _ (applyHz_touches raised hz rfl) (cacheHz_touches _ hz rfl))
  have spared : HandsOn .gpu none state set := .of_touchesOnly setFrame (by decide)
  rcases Program.run_when_ok after with ⟨⟨usesHijack, lower⟩, after⟩ | ⟨kept, rfl⟩
  · obtain ⟨gpuHz, gpuNearest, rest⟩ := dvfsAfterSet_ok after
    rw [setFrame.setting] at gpuNearest
    have hijack : (pcvHijackGpuVolts (vminAfterSet set.setting targetHz)).Respects
        (TouchesOnly (fun _ => False) True) := pcvHijackGpuVolts_respects _ trivial
    have hijackFrame := hijack.run (pcvHijackGpuVolts_run set _)
    have hands := setGpuAgain_hands rest
    rw [if_pos target] at hands
    refine .inl ⟨differs, usesHijack, lower, gpuHz, gpuNearest, ?_⟩
    exact (spared.then_touchesOnly hijackFrame id).trans hands
  · exact .inr ⟨fun both => kept both.2, spared⟩

/-- What a reset of the memory hands on for the GPU. -/
def Setting.memoryResetGpuHz (setting : Setting) : Option Nat :=
  if usesHijack setting then
    if resolveTargetHz setting .gpu false ≠ 0 then
      nearestAllowedHz setting .gpu (resolveTargetHz setting .gpu false)
    else (setting.resetHz .gpu).or (some unlimitedHz)
  else none

theorem handleFreqReset_mem_hands_gpu {state final : Sys} {isBoost : Bool}
    (finished : (handleFreqReset .mem isBoost).run state = .ok (⟨⟩, final)) :
    HandsOn .gpu state.setting.memoryResetGpuHz state final := by
  unfold handleFreqReset at finished
  rw [Program.run_read_bind] at finished
  obtain ⟨_, stocked, reset, rest⟩ := Program.run_bind_ok finished
  have resets : (resetToStockModule .mem).Respects (TouchesOnly (· = .mem) False) :=
    resetToStockModule_respects rfl
  have resetFrame := resets.run reset
  have spared : HandsOn .gpu none state stocked := .of_touchesOnly resetFrame (by decide)
  unfold Setting.memoryResetGpuHz
  unfold dvfsReset at rest
  rw [Program.run_read_bind, resetFrame.setting] at rest
  rcases Program.run_when_ok rest with ⟨uses, rest⟩ | ⟨unused, rfl⟩
  · rw [Program.run_bind_of_ok _ (pcvHijackGpuVolts_run stocked 0)] at rest
    obtain ⟨nearestHz, nearest, rest⟩ := Program.run_ofOption_bind_ok rest
    have hijack : (pcvHijackGpuVolts 0).Respects (TouchesOnly (fun _ => False) True) :=
      pcvHijackGpuVolts_respects _ trivial
    have hijackFrame := hijack.run (pcvHijackGpuVolts_run stocked 0)
    have hands := setGpuAgain_hands rest
    rw [hijackFrame.setting, resetFrame.setting, ← nearest] at hands
    rw [if_pos uses]
    exact (spared.then_touchesOnly hijackFrame id).after_none hands
  · rw [if_neg unused]
    exact spared

/-- From a rate and a cached rate of the memory, its pass calls `DVFSAfterSet`. -/
def Setting.LowersMemory (setting : Setting) (memHz cachedHz : Nat) : Prop :=
  usesHijack setting = true ∧ resolveTargetHz setting .mem false ≠ 0 ∧
    resolveTargetHz setting .mem false < memHz ∧
    nearestAllowedHz setting .mem (resolveTargetHz setting .mem false) ≠ some cachedHz

/-- What the memory's pass hands on for the GPU where it does not lower the memory. -/
def Setting.memoryPassGpuHz (setting : Setting) : Option Nat :=
  if resolveTargetHz setting .mem false ≠ 0 then none else setting.memoryResetGpuHz

theorem setOrResetHz_mem_hands_gpu {state final : Sys} {isBoost : Bool}
    (finished : (setOrResetHz .mem isBoost).run state = .ok (⟨⟩, final)) :
    (state.setting.LowersMemory (state.rate .mem) (state.freqs .mem) ∧
      ∃ hz, nearestAllowedHz state.setting .gpu (resolveTargetHz state.setting .mem false) = some hz ∧
        HandsOn .gpu (some hz) state final) ∨
    (¬state.setting.LowersMemory (state.rate .mem) (state.freqs .mem) ∧
      HandsOn .gpu state.setting.memoryPassGpuHz state final) := by
  rcases setOrResetHz_ok finished with ⟨target, finished⟩ | ⟨untargeted, finished⟩
  · rw [Setting.memoryPassGpuHz, if_pos target]
    obtain ⟨memHz, nearest, ⟨differs, uses, lower, hands⟩ | ⟨kept, hands⟩⟩ :=
      setTargetHz_mem_hands_gpu target finished
    · refine .inl ⟨⟨uses, target, lower, ?_⟩, hands⟩
      rw [nearest]
      simpa using differs
    · refine .inr ⟨fun lowers => kept ⟨?_, lowers.1, lowers.2.2.1⟩, hands⟩
      have differs := lowers.2.2.2
      rw [nearest] at differs
      simpa using differs
  · rw [Setting.memoryPassGpuHz, if_neg (Classical.not_not.mpr untargeted)]
    exact .inr ⟨fun lowers => lowers.2.1 untargeted, handleFreqReset_mem_hands_gpu finished⟩

/-- Boost mode is left to the system. -/
abbrev ReturnsEarly (isBoost : Bool) (state : Sys) : Prop :=
  isBoost = true ∧ state.setting.value .overwriteBoostMode = 0

/-- The states between the passes, and what each pass leaves alone. -/
structure ClockLoop (isBoost : Bool) (start cpu gpu mem governor final : Sys) : Prop where
  cpuRun : (setModuleClock isBoost .cpu).run start = .ok (⟨⟩, cpu)
  gpuRun : (setModuleClock isBoost .gpu).run cpu = .ok (⟨⟩, gpu)
  memRun : (setModuleClock isBoost .mem).run gpu = .ok (⟨⟩, mem)
  cpuFrame : TouchesOnly (footprint .cpu) (Module.cpu = .mem) start cpu
  gpuFrame : TouchesOnly (footprint .gpu) (Module.gpu = .mem) cpu gpu
  memFrame : TouchesOnly (footprint .mem) (Module.mem = .mem) gpu mem
  governorFrame : TouchesOnly (switchFootprint mem.governors) False mem governor
  displayFrame : TouchesOnly (footprint .display) (Module.display = .mem) governor final

/-- The switch of the governors stands between the passes of the clocks and that of the display. -/
theorem setClocks_switches {state final : Sys} {isBoost : Bool}
    (late : ¬ReturnsEarly isBoost state)
    (finished : (setClocks isBoost).run state = .ok (⟨⟩, final)) :
    ∃ cpu gpu mem governor, ClockLoop isBoost state cpu gpu mem governor final ∧
      (handleGovernor (resolveTargetHz mem.setting .governor true)).run mem = .ok (⟨⟩, governor) := by
  unfold setClocks at finished
  rw [Program.run_read_bind, if_neg late] at finished
  obtain ⟨_, cpu, first, finished⟩ := Program.run_bind_ok finished
  obtain ⟨_, gpu, second, finished⟩ := Program.run_bind_ok finished
  obtain ⟨_, mem, third, finished⟩ := Program.run_bind_ok finished
  obtain ⟨_, governor, fourth, finished⟩ := Program.run_bind_ok finished
  obtain ⟨_, display, fifth, finished⟩ := Program.run_bind_ok finished
  cases finished
  have switched : (handleGovernor (resolveTargetHz mem.setting .governor true)).run mem =
      .ok (⟨⟩, governor) := by
    unfold setModuleClock at fourth
    rw [Program.run_read_bind] at fourth
    exact fourth
  refine ⟨cpu, gpu, mem, governor, ⟨first, second, third, ?_, ?_, ?_, ?_, ?_⟩, switched⟩
  · exact (setModuleClock_respects isBoost (by decide)).run first
  · exact (setModuleClock_respects isBoost (by decide)).run second
  · exact (setModuleClock_respects isBoost (by decide)).run third
  · exact handleGovernor_touches switched
  · exact (setModuleClock_respects isBoost (by decide)).run fifth

theorem setClocks_ok {state final : Sys} {isBoost : Bool}
    (late : ¬ReturnsEarly isBoost state)
    (finished : (setClocks isBoost).run state = .ok (⟨⟩, final)) :
    ∃ cpu gpu mem governor, ClockLoop isBoost state cpu gpu mem governor final := by
  obtain ⟨cpu, gpu, mem, governor, loop, -⟩ := setClocks_switches late finished
  exact ⟨cpu, gpu, mem, governor, loop⟩

/-- The rate of the memory when its pass comes: below HOS 9 the passes before it may ask for the
performance mode. -/
def Sys.memHzAtPass (state : Sys) (isBoost : Bool) : Nat :=
  if (state.governors.isCpuGovernorEnabled = false ∧
      state.setting.PassRequestsMode .cpu (!isBoost)) ∨ state.setting.PassRequestsMode .gpu true then
    state.modeRates .mem
  else state.rate .mem

/-- The memory is lowered by a target when the clocks are set. -/
abbrev Sys.LowersMemory (state : Sys) (isBoost : Bool) : Prop :=
  state.setting.LowersMemory (state.memHzAtPass isBoost) (state.freqs .mem)

theorem Sys.memHzAtPass_of_hos9 {state : Sys} (hos9 : state.setting.board.hosAtLeast9 = true)
    (isBoost : Bool) : state.memHzAtPass isBoost = state.rate .mem := by
  have never : ∀ module resets, ¬state.setting.PassRequestsMode module resets :=
    fun module resets requests => absurd (requests.1.symm.trans hos9) (by decide)
  rw [Sys.memHzAtPass, if_neg]
  rintro (⟨-, requests⟩ | requests)
  · exact never _ _ requests
  · exact never _ _ requests

/-- Asking for the performance mode twice is asking for it once. -/
theorem Sys.modeRates_again {before after : Sys} {module : Module}
    (setting : after.setting = before.setting)
    (rate : after.rate module = before.modeRates module ∨ after.rate module = before.rate module) :
    after.modeRates module = before.modeRates module := by
  unfold Sys.modeRates at rate ⊢
  rw [setting]
  cases moved : before.setting.board.performanceModeRates before.setting.services.performanceMode
      module with
  | none =>
      rw [moved] at rate
      rcases rate with same | same
      · exact same
      · exact same
  | some hz => rfl

section

variable {isBoost : Bool} {start cpu gpu mem governor final : Sys}

/-- The passes after the memory's hand on nothing for a module that the switch spares. -/
theorem ClockLoop.spares (loop : ClockLoop isBoost start cpu gpu mem governor final)
    {module : Module} (spared : ¬switchFootprint mem.governors module) :
    HandsOn module none mem final := by
  have notDisplay : ¬footprint .display module := by
    rintro (rfl | ⟨other, -⟩)
    · exact spared trivial
    · contradiction
  exact (HandsOn.of_touchesOnly loop.governorFrame spared).then_touchesOnly loop.displayFrame notDisplay

theorem ClockLoop.memGovernors (loop : ClockLoop isBoost start cpu gpu mem governor final) :
    mem.governors = start.governors :=
  (loop.memFrame.governors (by decide)).trans
    ((loop.gpuFrame.governors (by decide)).trans (loop.cpuFrame.governors (by decide)))

theorem ClockLoop.cpuPass (loop : ClockLoop isBoost start cpu gpu mem governor final)
    (off : start.governors.isCpuGovernorEnabled = false) : ClockPass .cpu (!isBoost) start cpu := by
  have cpuRun := loop.cpuRun
  unfold setModuleClock at cpuRun
  rw [Program.run_read_bind] at cpuRun
  dsimp only at cpuRun
  rw [Program.run_when_true (by simp [off])] at cpuRun
  exact setOrResetHz_cpu_pass cpuRun

theorem ClockLoop.cpuPass_governed (loop : ClockLoop isBoost start cpu gpu mem governor final)
    (on : start.governors.isCpuGovernorEnabled = true) : cpu = start := by
  have cpuRun := loop.cpuRun
  unfold setModuleClock at cpuRun
  rw [Program.run_read_bind] at cpuRun
  dsimp only at cpuRun
  rw [Program.run_when_false (by simp [on])] at cpuRun
  cases cpuRun
  rfl

theorem ClockLoop.gpuPass (loop : ClockLoop isBoost start cpu gpu mem governor final)
    (off : start.governors.isGpuGovernorEnabled = false) : ClockPass .gpu true cpu gpu := by
  have gpuRun := loop.gpuRun
  unfold setModuleClock at gpuRun
  rw [Program.run_read_bind] at gpuRun
  dsimp only at gpuRun
  rw [loop.cpuFrame.governors (by decide), Program.run_when_true (by simp [off])] at gpuRun
  exact setOrResetHz_gpu_pass gpuRun

theorem ClockLoop.memHz (loop : ClockLoop isBoost start cpu gpu mem governor final)
    (off : start.governors.isGpuGovernorEnabled = false) :
    gpu.rate .mem = start.memHzAtPass isBoost := by
  have cpuHz : cpu.rate .mem = if start.governors.isCpuGovernorEnabled = false ∧
      start.setting.PassRequestsMode .cpu (!isBoost) then start.modeRates .mem
      else start.rate .mem := by
    cases governed : start.governors.isCpuGovernorEnabled with
    | true => simp [loop.cpuPass_governed governed]
    | false => simpa using (loop.cpuPass governed).memRate
  have modeHz : cpu.modeRates .mem = start.modeRates .mem := by
    refine Sys.modeRates_again loop.cpuFrame.setting ?_
    rw [cpuHz]
    split
    · exact .inl rfl
    · exact .inr rfl
  rw [(loop.gpuPass off).memRate, loop.cpuFrame.setting, modeHz, cpuHz, Sys.memHzAtPass]
  by_cases requests : start.setting.PassRequestsMode .gpu true
  · rw [if_pos requests, if_pos (.inr requests)]
  · rw [if_neg requests]
    simp only [requests, or_false]

end

/-- What `SetClocks` hands on for the GPU without lowering the memory. -/
def Setting.ownGpuHz (setting : Setting) (cachedHz : Nat) : Option Nat :=
  setting.memoryPassGpuHz.or (setting.passHz .gpu cachedHz true)

section

variable {setting : Setting} {cachedHz decided : Nat}

theorem Setting.passHz_gpu_decided (isDecided : setting.decidedHz .gpu = some decided)
    (decides : resolveTargetHz setting .gpu false ≠ 0 ∨ setting.board.hosAtLeast9 = true) :
    setting.passHz .gpu cachedHz true = some decided ∨
      (decided = cachedHz ∧ setting.passHz .gpu cachedHz true = none) := by
  dsimp only [Setting.decidedHz, Setting.passHz] at isDecided ⊢
  by_cases target : resolveTargetHz setting .gpu false ≠ 0
  · rw [if_pos target] at isDecided ⊢
    rw [isDecided]
    by_cases same : decided = cachedHz
    · exact .inr ⟨same, Option.filter_some_neg (by simpa using same)⟩
    · exact .inl (Option.filter_some_pos (by simpa using same))
  · rw [if_neg target] at isDecided ⊢
    rw [if_pos rfl, Setting.resetHz, if_pos (decides.resolve_left target)]
    exact .inl isDecided

theorem Setting.memoryPassGpuHz_decided (isDecided : setting.decidedHz .gpu = some decided)
    (decides : resolveTargetHz setting .gpu false ≠ 0 ∨ setting.board.hosAtLeast9 = true) :
    setting.memoryPassGpuHz = some decided ∨ setting.memoryPassGpuHz = none := by
  dsimp only [Setting.decidedHz] at isDecided
  unfold Setting.memoryPassGpuHz Setting.memoryResetGpuHz
  split
  · exact .inr rfl
  split
  · by_cases target : resolveTargetHz setting .gpu false ≠ 0
    · rw [if_pos target] at isDecided ⊢
      exact .inl isDecided
    · rw [if_neg target] at isDecided ⊢
      rw [Setting.resetHz, if_pos (decides.resolve_left target), isDecided]
      exact .inl rfl
  · exact .inr rfl

/-- It is what the GPU's own target or the reset decides, unless the cache has it. -/
theorem Setting.ownGpuHz_decided (isDecided : setting.decidedHz .gpu = some decided)
    (decides : resolveTargetHz setting .gpu false ≠ 0 ∨ setting.board.hosAtLeast9 = true) :
    setting.ownGpuHz cachedHz = some decided ∨
      (decided = cachedHz ∧ setting.ownGpuHz cachedHz = none) := by
  unfold Setting.ownGpuHz
  rcases setting.memoryPassGpuHz_decided isDecided decides with again | spared
  · rw [again]
    exact .inl rfl
  · rw [spared]
    exact setting.passHz_gpu_decided isDecided decides

/-- Without a GPU target, a reset below HOS 9 leaves the GPU at its limit after a reset of the
memory, and hands on nothing else. -/
theorem Setting.ownGpuHz_older (older : setting.board.hosAtLeast9 = false)
    (noTarget : resolveTargetHz setting .gpu false = 0) :
    setting.ownGpuHz cachedHz =
      if usesHijack setting = true ∧ resolveTargetHz setting .mem false = 0 then some unlimitedHz
      else none := by
  simp only [Setting.ownGpuHz, Setting.passHz, Setting.memoryPassGpuHz, Setting.memoryResetGpuHz,
    Setting.resetHz, older, noTarget]
  split_ifs <;> simp_all

end

/-- `SetClocks` hands on the memory's nearest GPU rate where the memory is lowered, else what the
GPU's own target and the resets decide. -/
theorem setClocks_hands_gpu {state final : Sys} {isBoost : Bool}
    (late : ¬ReturnsEarly isBoost state)
    (off : state.governors.isGpuGovernorEnabled = false)
    (lastOff : state.governors.lastGpuGovernorState = false)
    (finished : (setClocks isBoost).run state = .ok (⟨⟩, final)) :
    (resolveTargetHz state.setting .gpu false ≠ 0 ∨ state.setting.board.hosAtLeast9 = true →
        ∃ decided, state.setting.decidedHz .gpu = some decided) ∧
      ((state.LowersMemory isBoost ∧ ∃ hz, nearestAllowedHz state.setting .gpu
          (resolveTargetHz state.setting .mem false) = some hz ∧
          HandsOn .gpu (some hz) state final) ∨
       (¬state.LowersMemory isBoost ∧
          HandsOn .gpu (state.setting.ownGpuHz (state.freqs .gpu)) state final)) := by
  obtain ⟨cpu, gpu, mem, governor, loop⟩ := setClocks_ok late finished
  have gpuSetting : gpu.setting = state.setting :=
    loop.gpuFrame.setting.trans loop.cpuFrame.setting
  have start : HandsOn .gpu none state cpu := .of_touchesOnly loop.cpuFrame (by decide)
  have finish : HandsOn .gpu none mem final := by
    refine loop.spares fun touched => ?_
    rw [loop.memGovernors] at touched
    change state.governors.lastGpuGovernorState = true at touched
    rw [lastOff] at touched
    contradiction
  obtain ⟨gpuHands, gpuFound, -⟩ := loop.gpuPass off
  rw [loop.cpuFrame.setting, loop.cpuFrame.freqs .gpu (by decide)] at gpuHands
  rw [loop.cpuFrame.setting] at gpuFound
  have memRun := loop.memRun
  unfold setModuleClock at memRun
  rw [Program.run_read_bind] at memRun
  refine ⟨fun decides => gpuFound (decides.imp_right fun hos9 => ⟨rfl, hos9⟩), ?_⟩
  have outcome := setOrResetHz_mem_hands_gpu memRun
  rw [gpuSetting, loop.memHz off, loop.gpuFrame.freqs .mem (by decide),
    loop.cpuFrame.freqs .mem (by decide)] at outcome
  rcases outcome with ⟨lowers, hz, nearest, memHands⟩ | ⟨kept, memHands⟩
  · exact .inl ⟨lowers, hz, nearest, ((start.trans gpuHands).trans memHands).trans finish⟩
  · exact .inr ⟨kept, ((start.after_none gpuHands).trans memHands).trans finish⟩

theorem setClocks_hands_cpu {state final : Sys} {isBoost : Bool}
    (late : ¬ReturnsEarly isBoost state)
    (off : state.governors.isCpuGovernorEnabled = false)
    (lastOff : state.governors.lastCpuGovernorState = false)
    (finished : (setClocks isBoost).run state = .ok (⟨⟩, final)) :
    (resolveTargetHz state.setting .cpu false ≠ 0 →
        ∃ hz, state.setting.decidedHz .cpu = some hz) ∧
      HandsOn .cpu (state.setting.passHz .cpu (state.freqs .cpu) (!isBoost)) state final := by
  obtain ⟨cpu, gpu, mem, governor, loop⟩ := setClocks_ok late finished
  obtain ⟨hands, found, -⟩ := loop.cpuPass off
  have finish : HandsOn .cpu none mem final := by
    refine loop.spares fun touched => ?_
    rw [loop.memGovernors] at touched
    change state.governors.lastCpuGovernorState = true at touched
    rw [lastOff] at touched
    contradiction
  exact ⟨found ∘ .inl, ((hands.then_touchesOnly loop.gpuFrame (by decide)).then_touchesOnly loop.memFrame
    (by decide)).trans finish⟩

/-- Leaving boost mode to the system hands on at most the CPU's own rate. -/
theorem setClocks_early_hands {state final : Sys} {isBoost : Bool}
    (early : ReturnsEarly isBoost state)
    (finished : (setClocks isBoost).run state = .ok (⟨⟩, final)) :
    TouchesOnly (· = .cpu) False state final ∧
      HandsOn .cpu (if 1785 < state.rate .cpu / 1000000 then some (state.rate .cpu) else none)
        state final := by
  unfold setClocks at finished
  rw [Program.run_read_bind, if_pos early] at finished
  rcases Program.run_when_ok finished with ⟨fast, boosted⟩ | ⟨slow, rfl⟩
  · rw [setHz_run (by decide)] at boosted
    cases boosted
    rw [if_pos (by exact fast)]
    exact ⟨applyHz_touches state _ rfl, .applyHz state _⟩
  · rw [if_neg (by exact slow)]
    exact ⟨Std.Refl.refl _, .refl _⟩

end HorizonOc.Sysmodule
