import Mathlib.Logic.Relation
import HorizonOc.Sysmodule.ClockSteps

namespace HorizonOc.Sysmodule

open HorizonOc.Data

/-- The cache or the override of a module is out of date. -/
def Sys.StaleAt (state : Sys) (module : Module) : Prop :=
  (state.getHz module ≠ 0 ∧ state.getHz module ≠ state.freqs module) ∨
    state.setting.config.getOverrideHz module ≠ state.setting.overrideFreqs module

/-- The cached rate after a refresh: a rate of 0 is not taken over. -/
def Sys.seenHz (state : Sys) (module : Module) : Nat :=
  if state.getHz module ≠ 0 then state.getHz module else state.freqs module

def Sys.refreshed (state : Sys) (freqs overrideFreqs : Module → Nat) : Sys :=
  { state with freqs, setting := { state.setting with overrideFreqs } }

section

variable (state : Sys) (freqs overrideFreqs : Module → Nat)

@[simp] theorem Sys.refreshed_freqs : (state.refreshed freqs overrideFreqs).freqs = freqs := rfl

@[simp] theorem Sys.refreshed_overrideFreqs :
    (state.refreshed freqs overrideFreqs).setting.overrideFreqs = overrideFreqs := rfl

@[simp] theorem Sys.refreshed_config :
    (state.refreshed freqs overrideFreqs).setting.config = state.setting.config := rfl

@[simp] theorem Sys.refreshed_getHz :
    (state.refreshed freqs overrideFreqs).getHz = state.getHz := by
  funext module
  cases module <;> rfl

@[simp] theorem Sys.refreshed_refreshed (laterFreqs laterOverrides : Module → Nat) :
    (state.refreshed freqs overrideFreqs).refreshed laterFreqs laterOverrides =
      state.refreshed laterFreqs laterOverrides := rfl

end

theorem refreshModule_eq (changed : Bool) (state : Sys) (module : Module) :
    ∃ stale, (stale = true ↔ state.StaleAt module) ∧
      refreshModule (changed, state) module =
        (changed || stale, state.refreshed
          (Function.update state.freqs module (state.seenHz module))
          (Function.update state.setting.overrideFreqs module
            (state.setting.config.getOverrideHz module))) := by
  by_cases moved : state.getHz module ≠ 0 ∧ state.getHz module ≠ state.freqs module
  · refine ⟨true, by simp [Sys.StaleAt, moved], ?_⟩
    simp [refreshModule, moved.1, moved.2, Sys.cacheHz, Sys.refreshed, Sys.seenHz]
  · have kept : state.seenHz module = state.freqs module := by
      unfold Sys.seenHz
      split
      · rename_i positive
        exact Classical.not_not.mp fun differs => moved ⟨positive, differs⟩
      · rfl
    refine ⟨state.setting.config.getOverrideHz module ≠ state.setting.overrideFreqs module,
      by simp [Sys.StaleAt, moved], ?_⟩
    have notMoved : (state.getHz module ≠ 0 && state.getHz module ≠ state.freqs module) = false := by
      simpa using moved
    simp only [refreshModule, notMoved]
    simp [Sys.refreshed, kept]

/-- A refreshed module is not stale, and the others are as before. -/
theorem staleAt_refreshed (state : Sys) (module other : Module) :
    (state.refreshed (Function.update state.freqs module (state.seenHz module))
      (Function.update state.setting.overrideFreqs module
        (state.setting.config.getOverrideHz module))).StaleAt other ↔
      other ≠ module ∧ state.StaleAt other := by
  by_cases same : other = module
  · subst same
    simp only [Sys.StaleAt, Sys.refreshed_getHz, Sys.refreshed_freqs, Function.update_self,
      Sys.refreshed_config, Sys.refreshed_overrideFreqs, Sys.seenHz]
    split <;> simp_all
  · simp [Sys.StaleAt, same]

/-- Refreshing modules one by one gives what refreshing each from the start gives. -/
theorem foldl_refreshModule (modules : List Module) (changed : Bool) (state : Sys) :
    ∃ stale, (stale = true ↔ ∃ module ∈ modules, state.StaleAt module) ∧
      modules.foldl refreshModule (changed, state) =
        (changed || stale, state.refreshed
          (fun module => if module ∈ modules then state.seenHz module else state.freqs module)
          (fun module => if module ∈ modules then state.setting.config.getOverrideHz module
            else state.setting.overrideFreqs module)) := by
  induction modules generalizing changed state with
  | nil => exact ⟨false, by simp, by simp [Sys.refreshed]⟩
  | cons module rest ih =>
      obtain ⟨first, firstStale, step⟩ := refreshModule_eq changed state module
      set next := state.refreshed (Function.update state.freqs module (state.seenHz module))
        (Function.update state.setting.overrideFreqs module
          (state.setting.config.getOverrideHz module)) with nextDef
      obtain ⟨later, laterStale, steps⟩ := ih (changed || first) next
      have seenSelf : next.seenHz module = state.seenHz module := by
        simp only [nextDef, Sys.seenHz, Sys.refreshed_getHz, Sys.refreshed_freqs,
          Function.update_self]
        split <;> rfl
      have seenOther : ∀ other, other ≠ module → next.seenHz other = state.seenHz other := by
        intro other differs
        simp [nextDef, Sys.seenHz, differs]
      refine ⟨first || later, ?_, ?_⟩
      · rw [Bool.or_eq_true, firstStale, laterStale]
        simp only [nextDef, staleAt_refreshed, List.mem_cons, exists_eq_or_imp]
        constructor
        · rintro (stale | ⟨other, member, -, stale⟩)
          · exact .inl stale
          · exact .inr ⟨other, member, stale⟩
        · rintro (stale | ⟨other, member, stale⟩)
          · exact .inl stale
          · by_cases same : other = module
            · exact .inl (same ▸ stale)
            · exact .inr ⟨other, member, same, stale⟩
      · have nextFreqs : next.freqs =
            Function.update state.freqs module (state.seenHz module) := rfl
        have nextOverrides : next.setting.overrideFreqs =
            Function.update state.setting.overrideFreqs module
              (state.setting.config.getOverrideHz module) := rfl
        have nextConfig : next.setting.config = state.setting.config := rfl
        rw [List.foldl_cons, step, steps, Bool.or_assoc]
        have freqs : (fun other => if other ∈ rest then next.seenHz other else next.freqs other) =
            fun other => if other ∈ module :: rest then state.seenHz other
              else state.freqs other := by
          funext other
          by_cases same : other = module
          · subst same
            simp [seenSelf, nextFreqs]
          · simp [seenOther other same, nextFreqs, same]
        have overrides : (fun other => if other ∈ rest then next.setting.config.getOverrideHz other
              else next.setting.overrideFreqs other) =
            fun other => if other ∈ module :: rest then state.setting.config.getOverrideHz other
              else state.setting.overrideFreqs other := by
          funext other
          by_cases same : other = module
          · subst same
            simp [nextConfig, nextOverrides]
          · simp [nextConfig, nextOverrides, same]
        rw [freqs, overrides, nextDef, Sys.refreshed_refreshed]

/-- Refreshing every module. -/
theorem refreshModules_eq (changed : Bool) (state : Sys) :
    ∃ stale, (stale = true ↔ ∃ module, state.StaleAt module) ∧
      Module.all.foldl refreshModule (changed, state) =
        (changed || stale,
          state.refreshed state.seenHz state.setting.config.getOverrideHz) := by
  obtain ⟨stale, isStale, folded⟩ := foldl_refreshModule Module.all changed state
  refine ⟨stale, ?_, ?_⟩
  · simpa [Module.mem_all] using isStale
  · simpa [Module.mem_all] using folded

/-- A reset to stock, which leaves the cache as it was. -/
structure StockReset (configuration : ApmConfiguration) (before after : Sys) : Prop where
  setting : after.setting = before.setting
  governors : after.governors = before.governors
  freqs : after.freqs = before.freqs
  cpu : HandsOn .cpu (some configuration.cpuHz) before after
  gpu : HandsOn .gpu (some configuration.gpuHz) before after
  display : after.rate .display = before.rate .display

theorem resetToStockClocks_ok {state final : Sys}
    (hos9 : state.setting.board.hosAtLeast9 = true)
    (finished : resetToStockClocks.run state = .ok (⟨⟩, final)) :
    ∃ configuration, state.setting.stock = some configuration ∧
      StockReset configuration state final ∧ final.rate .mem = state.rate .mem := by
  unfold resetToStockClocks at finished
  obtain ⟨_, cpu, cpuRun, finished⟩ := Program.run_bind_ok finished
  obtain ⟨_, tuned, tuneRun, gpuRun⟩ := Program.run_bind_ok finished
  rcases resetToStockModule_ok (by decide) cpuRun with ⟨-, configuration, stock, rfl⟩ | ⟨older, -⟩
  · have tunes : handleLiveCpuUv.Respects (TouchesOnly (fun _ => False) False) :=
      handleLiveCpuUv_respects
    have tuneFrame := tunes.run tuneRun
    have tunedHos9 : tuned.setting.board.hosAtLeast9 = true := by
      rw [tuneFrame.setting]
      exact hos9
    obtain ⟨gpuHz, gpuStock, rfl⟩ := (resetToStockModule_hands (by decide) gpuRun).2 tunedHos9
    rw [tuneFrame.setting, Setting.stockHz, Sys.applyHz_setting, stock] at gpuStock
    cases gpuStock
    have gpuFrame : TouchesOnly (· = .gpu) False tuned (tuned.applyHz .gpu configuration.gpuHz) :=
      applyHz_touches tuned _ rfl
    have cpuFrame : TouchesOnly (· = .cpu) False state (state.applyHz .cpu configuration.cpuHz) :=
      applyHz_touches state _ rfl
    have untuned (module : Module) : tuned.rate module =
        (state.applyHz .cpu configuration.cpuHz).rate module :=
      tuneFrame.rate_of_hos9 hos9 id
    refine ⟨configuration, stock, ⟨tuneFrame.setting, tuneFrame.governors id, tuneFrame.freqs_eq,
      ?_, ?_, ?_⟩, ?_⟩
    · exact ((HandsOn.applyHz state _).then_touchesOnly tuneFrame id).then_touchesOnly gpuFrame
        (by decide)
    · exact ((HandsOn.of_touchesOnly cpuFrame (by decide)).then_touchesOnly tuneFrame id).trans
        (.applyHz tuned _)
    · exact (gpuFrame.rate_of_hos9 tunedHos9 (by decide)).trans
        ((untuned .display).trans (cpuFrame.rate_of_hos9 hos9 (by decide)))
    · exact (gpuFrame.rate_of_hos9 tunedHos9 (by decide)).trans
        ((untuned .mem).trans (cpuFrame.rate_of_hos9 hos9 (by decide)))
  · rw [hos9] at older
    contradiction

theorem resetToStock_ok {state final : Sys}
    (finished : resetToStock.run state = .ok (⟨⟩, final)) :
    (state.setting.board.hosAtLeast9 = true ∧ ∃ configuration,
      state.setting.stock = some configuration ∧
        final = ((state.applyHz .cpu configuration.cpuHz).applyHz .gpu
          configuration.gpuHz).applyHz .mem configuration.memHz) ∨
    (state.setting.board.hosAtLeast9 = false ∧ TouchesOnly (fun _ => False) False state final ∧
      final.rate = state.modeRates) := by
  unfold resetToStock at finished
  rw [Program.run_read_bind] at finished
  cases hos9 : state.setting.board.hosAtLeast9 with
  | true =>
      rw [if_pos hos9] at finished
      obtain ⟨configuration, middle, found, rest⟩ := Program.run_bind_ok finished
      obtain ⟨stock, same⟩ := currentApmConfiguration_ok found
      simp only at stock same
      subst same
      rw [Program.run_bind_of_ok _ (setHz_run (by decide) _ _),
        Program.run_bind_of_ok _ (setHz_run (by decide) _ _), setHz_run (by decide)] at rest
      cases rest
      exact .inl ⟨rfl, configuration, stock, rfl⟩
  | false =>
      rw [if_neg (by simp [hos9])] at finished
      have frame : TouchesOnly (fun _ => False) False state final :=
        (requestPerformanceMode_within state hos9).finish finished
      cases finished
      exact .inr ⟨rfl, frame, rfl⟩

/-- The part of `restoreStock` for the hijack sets the GPU to stock once more. -/
theorem restoreGpu_ok {state final : Sys} {gpuHz : Nat}
    (hos9 : state.setting.board.hosAtLeast9 = true)
    (stock : state.setting.stockHz .gpu = some gpuHz)
    (finished : (Program.when (usesHijack state.setting) do
        pcvHijackGpuVolts 0
        setHz .gpu unlimitedHz
        resetToStockGpu).run state = .ok (⟨⟩, final)) :
    TouchesOnly (· = .gpu) True state final ∧ final.freqs = state.freqs ∧
      (HandsOn .gpu none state final ∨ HandsOn .gpu (some gpuHz) state final) := by
  rcases Program.run_when_ok finished with ⟨-, finished⟩ | ⟨-, rfl⟩
  · rw [Program.run_bind_of_ok _ (pcvHijackGpuVolts_run state 0),
      Program.run_bind_of_ok _ (setHz_run (by decide) _ _)] at finished
    have hijack : (pcvHijackGpuVolts 0).Respects (TouchesOnly (fun _ => False) True) :=
      pcvHijackGpuVolts_respects _ trivial
    have frame := hijack.run (pcvHijackGpuVolts_run state 0)
    set hijacked := (state.record (.hijackGpuVolts 0)).hijackGpuVolts 0
    have hijackedHos9 : hijacked.setting.board.hosAtLeast9 = true := by
      rw [frame.setting]
      exact hos9
    obtain ⟨hz, again, rfl⟩ := (resetToStockModule_hands (by decide) finished).2 hijackedHos9
    rw [Sys.applyHz_setting, frame.setting, stock] at again
    cases again
    have opened : TouchesOnly (· = .gpu) True hijacked (hijacked.applyHz .gpu unlimitedHz) :=
      applyHz_touches hijacked _ rfl
    refine ⟨IsTrans.trans _ _ _ (frame.mono (fun _ => False.elim) id)
        (IsTrans.trans _ _ _ opened (applyHz_touches _ _ rfl)), frame.freqs_eq, .inr ?_⟩
    exact (((HandsOn.of_touchesOnly frame id).trans (.applyHz hijacked _)).trans
      (.applyHz (hijacked.applyHz .gpu unlimitedHz) gpuHz))
  · exact ⟨Std.Refl.refl _, rfl, .inl (.refl _)⟩

theorem restoreStock_ok {state final : Sys} (hos9 : state.setting.board.hosAtLeast9 = true)
    (finished : restoreStock.run state = .ok (⟨⟩, final)) :
    ∃ configuration, state.setting.stock = some configuration ∧
      StockReset configuration state final ∧ final.rate .mem = configuration.memHz := by
  unfold restoreStock at finished
  obtain ⟨_, stocked, reset, rest⟩ := Program.run_bind_ok finished
  rw [Program.run_read_bind] at rest
  obtain ⟨_, restored, restore, rest⟩ := Program.run_bind_ok rest
  cases rest
  rcases resetToStock_ok reset with ⟨-, configuration, stock, rfl⟩ | ⟨older, -⟩
  · have gpuStock : state.setting.stockHz .gpu = some configuration.gpuHz := by
      rw [Setting.stockHz, stock]
      rfl
    obtain ⟨frame, freqs, gpuAgain⟩ := restoreGpu_ok (by exact hos9) (by exact gpuStock) restore
    set cpuSet := state.applyHz .cpu configuration.cpuHz
    set gpuSet := cpuSet.applyHz .gpu configuration.gpuHz
    have memSpares (module : Module) (differs : module ≠ .mem) :
        HandsOn module none gpuSet (gpuSet.applyHz .mem configuration.memHz) :=
      .applyHz_of_ne differs gpuSet _
    refine ⟨configuration, stock, ⟨frame.setting, frame.governors (by decide), freqs, ?_, ?_, ?_⟩, ?_⟩
    · have cpuHands : HandsOn .cpu (some configuration.cpuHz) state cpuSet := .applyHz state _
      exact ((cpuHands.trans (.applyHz_of_ne (by decide) cpuSet _)).trans
        (memSpares .cpu (by decide))).then_touchesOnly frame (by decide)
    · have gpuHands : HandsOn .gpu (some configuration.gpuHz) state
          (gpuSet.applyHz .mem configuration.memHz) :=
        ((HandsOn.applyHz_of_ne (by decide) state _).trans (.applyHz cpuSet _)).trans
          (memSpares .gpu (by decide))
      rcases gpuAgain with again | again
      · exact gpuHands.trans again
      · exact gpuHands.trans again
    · exact frame.rate_of_hos9 hos9 (by decide)
    · exact (frame.rate_of_hos9 hos9 (by decide)).trans (Sys.applyHz_rate_self ..)
  · rw [hos9] at older
    contradiction

theorem refreshContext_ok {state final : Sys} {changed : Bool}
    (finished : refreshContext.run state = .ok (changed, final)) :
    ∃ restored,
      (Program.when ((refreshTitle state).1 = true) restoreStock).run (refreshTitle state).2 =
        .ok (⟨⟩, restored) ∧
      (changed = true ↔ (refreshTitle state).1 = true ∨ ∃ module, restored.StaleAt module) ∧
      final = refreshReadings
        (restored.refreshed restored.seenHz restored.setting.config.getOverrideHz) := by
  unfold refreshContext at finished
  rw [Program.run_modifyGet_bind] at finished
  obtain ⟨_, restored, restore, finished⟩ := Program.run_bind_ok finished
  rw [Program.run_modifyGet_bind] at finished
  obtain ⟨stale, isStale, refreshed⟩ := refreshModules_eq (refreshTitle state).1 restored
  rw [refreshed] at finished
  cases finished
  exact ⟨restored, restore, by rw [Bool.or_eq_true, isStale], rfl⟩

theorem handleMiscFeatures_respects :
    handleMiscFeatures.Respects (TouchesOnly (fun _ => False) False) := by
  have ticks (state : Sys) (miscTick : Nat) :
      TouchesOnly (fun _ => False) False state { state with miscTick } :=
    ⟨rfl, fun _ => rfl, fun _ => rfl, fun _ => rfl, fun _ _ => rfl, fun _ _ => rfl,
      fun _ _ => .inl rfl⟩
  unfold handleMiscFeatures
  refine .bind (.update fun state => ticks state _) fun _ => .bind .read fun state => ?_
  refine .when fun _ => .bind (.when fun _ => emit_respects _ trivial) fun _ => ?_
  exact .bind (.update fun state => ticks state _) fun _ => emit_respects _ trivial

/-- The state after the configuration file was looked at, which a changed context forgoes. -/
def Sys.afterConfig (state : Sys) (changed : Bool) : Bool × Sys :=
  if changed then (true, state)
  else
    let refreshed := state.setting.config.refresh state.setting.services.configFile
    (refreshed.1, { state with setting := { state.setting with config := refreshed.2 } })

theorem tick_ok {state final : Sys} (finished : tick.run state = .ok (⟨⟩, final)) :
    ∃ safe misc changed context,
      handleSafetyFeatures.run state = .ok (⟨⟩, safe) ∧
      handleMiscFeatures.run safe = .ok (⟨⟩, misc) ∧
      refreshContext.run misc = .ok (changed, context) ∧
      (Program.when ((context.afterConfig changed).1 = true)
        (setClocks (apmExtIsBoostMode state.setting.services.apmConfiguration))).run
          (context.afterConfig changed).2 = .ok (⟨⟩, final) := by
  unfold tick at finished
  rw [Program.run_read_bind] at finished
  obtain ⟨_, safe, safety, finished⟩ := Program.run_bind_ok finished
  obtain ⟨_, misc, features, finished⟩ := Program.run_bind_ok finished
  obtain ⟨changed, context, refresh, finished⟩ := Program.run_bind_ok finished
  refine ⟨safe, misc, changed, context, safety, features, refresh, ?_⟩
  cases changed with
  | true => exact finished
  | false => exact finished

section

variable {state final : Sys}

theorem resetToStockClocks_keeps_governors :
    resetToStockClocks.Respects (Same Sys.governors) := by
  have tunes : handleLiveCpuUv.Respects (TouchesOnly (fun _ => False) False) :=
    handleLiveCpuUv_respects
  unfold resetToStockClocks
  refine .bind (resetToStockModule_keeps_governors (by decide)) fun _ => ?_
  refine .bind (untouched_keeps_governors tunes) fun _ => ?_
  exact resetToStockModule_keeps_governors (by decide)

theorem resetToStock_keeps_governors (finished : resetToStock.run state = .ok (⟨⟩, final)) :
    final.governors = state.governors := by
  rcases resetToStock_ok finished with ⟨-, configuration, -, rfl⟩ | ⟨-, frame, -⟩
  · rfl
  · exact frame.governors id

theorem restoreStock_keeps_governors (finished : restoreStock.run state = .ok (⟨⟩, final)) :
    final.governors = state.governors := by
  unfold restoreStock at finished
  obtain ⟨_, stocked, reset, rest⟩ := Program.run_bind_ok finished
  rw [Program.run_read_bind] at rest
  obtain ⟨_, restored, restore, rest⟩ := Program.run_bind_ok rest
  cases rest
  have hijacks : (pcvHijackGpuVolts 0).Respects (TouchesOnly (fun _ => False) True) :=
    pcvHijackGpuVolts_respects 0 trivial
  have again : final.governors = stocked.governors :=
    (Program.Respects.when fun _ =>
      .bind (untouched_keeps_governors hijacks) fun _ =>
        .bind (setHz_keeps_governors .gpu (by decide) _) fun _ =>
          resetToStockModule_keeps_governors (by decide)).run restore
  exact again.trans (resetToStock_keeps_governors reset)

theorem refreshContext_keeps_governors {changed : Bool}
    (finished : refreshContext.run state = .ok (changed, final)) :
    final.governors = state.governors := by
  obtain ⟨restored, restore, -, rfl⟩ := refreshContext_ok finished
  change restored.governors = state.governors
  rcases Program.run_when_ok restore with ⟨-, restore⟩ | ⟨-, rfl⟩
  · have kept := restoreStock_keeps_governors restore
    exact kept
  · rfl

/-- The loop comes to the switch, and only the display's pass is behind it. -/
theorem setClocks_settles {isBoost : Bool} (settled : state.governors.Settled)
    (finished : (setClocks isBoost).run state = .ok (⟨⟩, final)) : final.governors.Settled := by
  by_cases early : ReturnsEarly isBoost state
  · unfold setClocks at finished
    rw [Program.run_read_bind, if_pos early] at finished
    have same : final.governors = state.governors :=
      (Program.Respects.when fun _ => setHz_keeps_governors .cpu (by decide) _).run finished
    rwa [same]
  · obtain ⟨cpu, gpu, mem, governor, loop, switched⟩ := setClocks_switches early finished
    rw [loop.displayFrame.governors (by decide)]
    exact handleGovernor_settles switched

theorem tick_settles (settled : state.governors.Settled)
    (finished : tick.run state = .ok (⟨⟩, final)) : final.governors.Settled := by
  obtain ⟨safe, misc, changed, context, safety, features, refresh, clocks⟩ := tick_ok finished
  have safeSame : safe.governors = state.governors := by
    unfold handleSafetyFeatures at safety
    rw [Program.run_read_bind] at safety
    exact (Program.Respects.when fun _ => resetToStockClocks_keeps_governors).run safety
  have miscSame : misc.governors = safe.governors :=
    (handleMiscFeatures_respects.run features).governors id
  have contextSame := refreshContext_keeps_governors refresh
  have afterConfig : (context.afterConfig changed).2.governors = context.governors := by
    cases changed with
    | true => rfl
    | false => rfl
  have before : (context.afterConfig changed).2.governors.Settled := by
    rw [afterConfig, contextSame, miscSame, safeSame]
    exact settled
  rcases Program.run_when_ok clocks with ⟨-, clocks⟩ | ⟨-, rfl⟩
  · exact setClocks_settles before clocks
  · exact before

/-- A tick, or anything that leaves the flags of the switch alone; the CPU governor's thread moves
only the flag for the boost mode. -/
inductive SwitchStep : Sys → Sys → Prop where
  | tick {before after : Sys} (finished : Sysmodule.tick.run before = .ok (⟨⟩, after)) :
      SwitchStep before after
  | between {before after : Sys} {boost : Bool}
      (same : after.governors = { before.governors with isCpuGovernorInBoostMode := boost }) :
      SwitchStep before after

/-- From the start of the process on, the last states are in step with the flags between ticks. -/
theorem settled_of_run {setting : Setting} {rate : Module → Nat} {voltTable : List Nat}
    (run : Relation.ReflTransGen SwitchStep (.initial setting rate voltTable) final) :
    final.governors.Settled := by
  induction run with
  | refl => exact ⟨rfl, rfl, rfl⟩
  | tail _ step ih =>
      cases step with
      | tick finished => exact tick_settles ih finished
      | between same =>
          rw [same]
          exact ih

end

end HorizonOc.Sysmodule
