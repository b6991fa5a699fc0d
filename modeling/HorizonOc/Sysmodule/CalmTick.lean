import HorizonOc.Sysmodule.ClockPlan

namespace HorizonOc.Sysmodule

open HorizonOc.Data

/-- What sets a rate. -/
def Effect.setsRate : Effect → Bool
  | .setHz .. | .setDisplayRate _ | .requestPerformanceMode _ => true
  | _ => false

def ratesWritten (log : List Effect) : List Effect := log.filter Effect.setsRate

/-- `RefreshContext` and `config::Refresh` answer `false`, and no rate is written. -/
def Sys.QuietTick (state after : Sys) : Prop :=
  (∃ safe misc context,
    handleSafetyFeatures.run state = .ok (⟨⟩, safe) ∧
    handleMiscFeatures.run safe = .ok (⟨⟩, misc) ∧
    refreshContext.run misc = .ok (false, context) ∧
    refreshConfig.run context = .ok (false, after)) ∧
  tick.run state = .ok (⟨⟩, after) ∧
  ratesWritten after.log = ratesWritten state.log

/-- The settings that a tick goes by once the context was refreshed. -/
def Setting.taken (setting : Setting) : Setting :=
  { setting with
    applicationId := setting.services.applicationId
    profile := getProfile setting.services
    overrideFreqs := setting.config.getOverrideHz }

/-- Something in the context is out of date. -/
def Sys.OutOfDate (state : Sys) : Prop :=
  (refreshTitle state).1 = true ∨ ∃ module, state.StaleAt module

/-- The configuration on the card, or that in memory where it is the same. -/
def Setting.onCard (setting : Setting) : Setting :=
  { setting with config := (setting.config.refresh setting.services.configFile).2 }

theorem Setting.Regular.taken {setting : Setting} (regular : setting.Regular) :
    setting.taken.Regular :=
  ⟨regular.rows, regular.resets, regular.reads⟩

theorem Setting.Regular.onCard {setting : Setting} (regular : setting.Regular) :
    setting.onCard.Regular :=
  ⟨regular.rows, regular.resets, regular.reads⟩

section

variable {state : Sys}

theorem handleSafetyFeatures_run (calm : safetyFires state.setting = false) :
    handleSafetyFeatures.run state = .ok (⟨⟩, state) := by
  unfold handleSafetyFeatures
  rw [Program.run_read_bind, Program.run_when_false (by simp [calm])]

/-- Neither a clock nor its cache is touched, and no rate is written. -/
structure Sys.Idles (before after : Sys) : Prop where
  moved : before.Moved before.clocks after
  written : ratesWritten after.log = ratesWritten before.log

theorem Sys.Idles.trans {before middle after : Sys} (first : before.Idles middle)
    (second : middle.Idles after) : before.Idles after :=
  ⟨first.moved.and_stays second.moved, second.written.trans first.written⟩

theorem Sys.record_idles (state : Sys) {effect : Effect} (other : effect.setsRate = false) :
    state.Idles (state.record effect) :=
  ⟨state.record_moved effect, by simp [ratesWritten, other]⟩

theorem Sys.miscTick_idles (state : Sys) (miscTick : Nat) : state.Idles { state with miscTick } :=
  ⟨⟨rfl, rfl, rfl⟩, rfl⟩

/-- The charge current and the display's voltage are no rates. -/
theorem handleMiscFeatures_returns (state : Sys) :
    handleMiscFeatures.Returns state fun _ final => state.Idles final := by
  unfold handleMiscFeatures
  have ticked := state.miscTick_idles (toU32 (state.miscTick + 1))
  refine .update_bind (.read_bind (.when (fun _ => ?_) fun _ => ticked))
  set counted : Sys := { state with miscTick := toU32 (state.miscTick + 1) }
  have charges (enabled : Prop) [Decidable enabled] (ma : Nat) :
      (Program.when enabled (emit (.setFastChargeCurrentLimit ma))).Returns counted
        fun _ later => state.Idles later :=
    .when (fun _ => .of_run (run_emit _ _) (ticked.trans (counted.record_idles rfl)))
      fun _ => ticked
  refine .bind (charges _ _) fun _ charged idles => ?_
  have cleared := idles.trans (charged.miscTick_idles 0)
  exact .update_bind (.of_run (run_emit _ _) (cleared.trans (Sys.record_idles _ rfl)))

theorem resetToStock_returns (regular : state.setting.Regular) :
    resetToStock.Returns state fun _ final => state.Moved final.clocks final := by
  have clock : Module.cpu.IsClock := by decide
  have resets := regular.stock clock
  unfold Setting.resetHz at resets
  split at resets
  · rename_i hos9
    obtain ⟨configuration, stock, -⟩ := Option.map_eq_some_iff.mp resets
    unfold resetToStock
    refine .read_bind ?_
    rw [if_pos hos9]
    refine .run_bind (currentApmConfiguration_run stock) (.run_bind (setHz_run (by decide) _ _) ?_)
    refine .run_bind (setHz_run (by decide) _ _) (.of_run (setHz_run (by decide) _ _) ?_)
    exact ⟨rfl, rfl, rfl⟩
  · contradiction

theorem restoreStock_returns (regular : state.setting.Regular) :
    restoreStock.Returns state fun _ final => state.Moved final.clocks final := by
  unfold restoreStock
  refine .bind (resetToStock_returns regular) fun _ reset moved => .read_bind ?_
  have again (enabled : Prop) [Decidable enabled] :
      (Program.when enabled do
        pcvHijackGpuVolts 0
        setHz .gpu unlimitedHz
        resetToStockGpu).Returns reset fun _ final => state.Moved final.clocks final := by
    refine .when (fun _ => ?_) fun _ => moved
    refine .bind (pcvHijackGpuVolts_returns 0) fun _ hijacked stays => ?_
    refine .run_bind (setHz_run (by decide) _ _) ?_
    have regularHijacked := stays.regular (moved.regular regular)
    have clock : Module.gpu.IsClock := by decide
    refine (resetToStockModule_returns (by exact regularHijacked) clock).mono fun _ final stocked => ?_
    exact ⟨stocked.setting.trans (stays.setting.trans moved.setting),
      stocked.governors.trans (stays.governors.trans moved.governors), rfl⟩
  exact .bind (again _) fun _ final restored => .of_run rfl restored

theorem Sys.getHz_eq (state : Sys) : state.getHz = state.clocks.hz := by
  funext module
  cases module <;> rfl

theorem Sys.staleAt_iff (state : Sys) (module : Module) : state.StaleAt module ↔
    ¬state.clocks.FreshAt module ∨
      state.setting.config.getOverrideHz module ≠ state.setting.overrideFreqs module := by
  unfold Sys.StaleAt Clocks.FreshAt
  rw [state.getHz_eq, not_or]
  exact Iff.rfl

theorem Sys.refreshed_clocks (state : Sys) (overrideFreqs : Module → Nat) :
    (refreshReadings (state.refreshed state.seenHz overrideFreqs)).clocks = state.clocks.refresh := by
  refine Clocks.ext rfl (funext fun module => ?_)
  change state.seenHz module = _
  rw [Sys.seenHz, state.getHz_eq]
  rfl

/-- What `RefreshContext` answers and leaves. -/
structure Refreshes (state : Sys) (changed : Bool) (final : Sys) : Prop where
  answer : changed = true ↔ state.OutOfDate
  setting : final.setting = state.setting.taken
  governors : final.governors = state.governors
  fresh : ∃ clocks : Clocks, final.clocks = clocks.refresh
  untitled : (refreshTitle state).1 = false →
    final.clocks = state.clocks.refresh ∧ ratesWritten final.log = ratesWritten state.log

theorem refreshContext_returns (regular : state.setting.Regular) :
    refreshContext.Returns state fun changed final => Refreshes state changed final := by
  unfold refreshContext
  set titled := (refreshTitle state).2 with titledDef
  have titledRegular : titled.setting.Regular := ⟨regular.rows, regular.resets, regular.reads⟩
  have restores : (Program.when ((refreshTitle state).1 = true) restoreStock).Returns titled
      fun _ restored => titled.Moved restored.clocks restored ∧
        ((refreshTitle state).1 = false → restored = titled) :=
    .when (fun changed => (restoreStock_returns titledRegular).mono
        fun _ restored moved => ⟨moved, fun same => absurd (same.symm.trans changed) (by decide)⟩)
      fun _ => ⟨.refl titled, fun _ => rfl⟩
  refine .modifyGet_bind (.bind restores fun _ restored found => .modifyGet_bind ?_)
  obtain ⟨moved, kept⟩ := found
  obtain ⟨stale, isStale, folded⟩ := refreshModules_eq (refreshTitle state).1 restored
  rw [folded]
  refine .update_bind (.pure ⟨?_, ?_, moved.governors, ⟨_, restored.refreshed_clocks _⟩, ?_⟩)
  · unfold Sys.OutOfDate
    rw [Bool.or_eq_true, isStale]
    cases changed : (refreshTitle state).1 with
    | true => simp
    | false =>
        rw [kept changed]
        exact Iff.rfl
  · change { restored.setting with overrideFreqs := restored.setting.config.getOverrideHz } = _
    rw [moved.setting]
    rfl
  · intro unchanged
    rw [kept unchanged]
    exact ⟨titled.refreshed_clocks _, rfl⟩

theorem Sys.outOfDate_congr {other : Sys} (setting : other.setting = state.setting)
    (clocks : other.clocks = state.clocks) : other.OutOfDate ↔ state.OutOfDate := by
  unfold Sys.OutOfDate
  have title : (refreshTitle other).1 = (refreshTitle state).1 := by
    simp only [refreshTitle, setting]
  rw [title]
  simp only [Sys.staleAt_iff, setting, clocks]

/-- What a tick is given that nothing disturbs. -/
structure Sys.Calm (state : Sys) : Prop where
  regular : state.setting.Regular
  safe : safetyFires state.setting = false
  noBoost : apmExtIsBoostMode state.setting.services.apmConfiguration = false
  off : state.governors.Off
  ungoverned : state.setting.taken.NoGovernor
  ungovernedOnCard : state.setting.taken.onCard.NoGovernor

/-- What such a tick does: it sets the clocks for a context or a configuration that is out of
date, or it is quiet. -/
inductive TickOutcome (state after : Sys) : Prop where
  | refreshed (stale : state.OutOfDate) (clocks : Clocks)
      (untitled : (refreshTitle state).1 = false → clocks = state.clocks)
      (setting : after.setting = state.setting.taken)
      (set : after.clocks = clocks.refresh.setClocks state.setting.taken.plan)
  | loaded (current : ¬state.OutOfDate)
      (differs : (state.setting.config.refresh state.setting.services.configFile).1 = true)
      (setting : after.setting = state.setting.taken.onCard)
      (set : after.clocks = state.clocks.refresh.setClocks state.setting.taken.onCard.plan)
  | quiet (current : ¬state.OutOfDate)
      (same : (state.setting.config.refresh state.setting.services.configFile).1 = false)
      (setting : after.setting = state.setting.taken.onCard)
      (clocks : after.clocks = state.clocks.refresh) (quiet : state.QuietTick after)

/-- A tick up to the answer of `RefreshContext`. -/
theorem refreshContext_of_calm (calm : state.Calm) :
    ∃ misc changed context, handleMiscFeatures.run state = .ok (⟨⟩, misc) ∧
      refreshContext.run misc = .ok (changed, context) ∧ Refreshes state changed context := by
  obtain ⟨_, misc, features, idles⟩ := handleMiscFeatures_returns state
  have sameSetting := idles.moved.setting
  have sameTitle : (refreshTitle misc).1 = (refreshTitle state).1 := by
    simp only [refreshTitle, sameSetting]
  obtain ⟨changed, context, refresh, refreshes⟩ := refreshContext_returns (idles.moved.regular calm.regular)
  refine ⟨misc, changed, context, features, refresh, ?_, ?_, ?_, refreshes.fresh, ?_⟩
  · rw [refreshes.answer, Sys.outOfDate_congr sameSetting idles.moved.clocks]
  · rw [refreshes.setting, sameSetting]
  · rw [refreshes.governors, idles.moved.governors]
  · intro untitled
    obtain ⟨clocks, written⟩ := refreshes.untitled (sameTitle.trans untitled)
    exact ⟨by rw [clocks, idles.moved.clocks], written.trans idles.written⟩

theorem Sys.untitled_of_current (current : ¬state.OutOfDate) : (refreshTitle state).1 = false := by
  cases changed : (refreshTitle state).1 with
  | true => exact absurd (.inl changed) current
  | false => rfl

theorem tick_returns (calm : state.Calm) :
    ∃ after, tick.run state = .ok (⟨⟩, after) ∧ after.governors = state.governors ∧
      TickOutcome state after := by
  obtain ⟨misc, changed, context, features, refresh, refreshes⟩ := refreshContext_of_calm calm
  have tickRun : tick.run state = (Program.when ((context.afterConfig changed).1 = true)
      (setClocks false)).run (context.afterConfig changed).2 := by
    unfold tick
    rw [Program.run_read_bind, Program.run_bind_of_ok _ (handleSafetyFeatures_run calm.safe),
      Program.run_bind_of_ok _ features, Program.run_bind_of_ok _ refresh, calm.noBoost]
    cases changed with
    | true => rfl
    | false => rfl
  have off : context.governors.Off := by
    rw [refreshes.governors]
    exact calm.off
  cases changed with
  | true =>
      have regular : context.setting.Regular := by
        rw [refreshes.setting]
        exact calm.regular.taken
      have ungoverned : context.setting.NoGovernor := by
        rw [refreshes.setting]
        exact calm.ungoverned
      obtain ⟨_, after, sets, moved⟩ := setClocks_returns regular off ungoverned
      have same : after.setting = state.setting.taken := moved.setting.trans refreshes.setting
      have set := moved.clocks
      rw [refreshes.setting] at set
      refine ⟨after, tickRun.trans sets, moved.governors.trans refreshes.governors, ?_⟩
      cases title : (refreshTitle state).1 with
      | true =>
          obtain ⟨clocks, fresh⟩ := refreshes.fresh
          rw [fresh] at set
          exact .refreshed (refreshes.answer.mp rfl) clocks
            (fun untitled => absurd (title.symm.trans untitled) (by decide)) same set
      | false =>
          rw [(refreshes.untitled title).1] at set
          exact .refreshed (refreshes.answer.mp rfl) state.clocks (fun _ => rfl) same set
  | false =>
      have current : ¬state.OutOfDate := fun stale =>
        absurd (refreshes.answer.mpr stale) (by decide)
      obtain ⟨clocks, written⟩ := refreshes.untitled (Sys.untitled_of_current current)
      set asks := (state.setting.config.refresh state.setting.services.configFile).1 with asksDef
      set loaded : Sys := { context with setting := state.setting.taken.onCard } with loadedDef
      have looked : context.afterConfig false = (asks, loaded) := by
        simp only [Sys.afterConfig, refreshes.setting, Setting.onCard, Setting.taken, asksDef,
          loadedDef, Bool.false_eq_true, if_false]
      have loadedClocks : loaded.clocks = state.clocks.refresh := clocks
      rw [looked] at tickRun
      cases differs : asks with
      | true =>
          rw [differs, Program.run_when_true rfl] at tickRun
          have regular : loaded.setting.Regular := calm.regular.taken.onCard
          have ungoverned : loaded.setting.NoGovernor := calm.ungovernedOnCard
          obtain ⟨_, after, sets, moved⟩ := setClocks_returns regular off ungoverned
          have set := moved.clocks
          rw [loadedClocks] at set
          exact ⟨after, tickRun.trans sets, moved.governors.trans refreshes.governors,
            .loaded current differs moved.setting set⟩
      | false =>
          rw [differs, Program.run_when_false Bool.false_ne_true] at tickRun
          have refused : refreshConfig.run context = .ok (false, loaded) := by
            change Except.ok ((context.afterConfig false).1, (context.afterConfig false).2) = _
            rw [looked, differs]
          exact ⟨loaded, tickRun, refreshes.governors, .quiet current differs rfl loadedClocks
            ⟨⟨state, misc, context, handleSafetyFeatures_run calm.safe, features, refresh, refused⟩,
              tickRun, written⟩⟩

/-- A quiet tick found nothing out of date and the configuration that is on the card. -/
theorem Sys.QuietTick.current {after : Sys} (quiet : state.QuietTick after) (calm : state.Calm) :
    ¬state.OutOfDate ∧
      (state.setting.config.refresh state.setting.services.configFile).1 = false := by
  obtain ⟨⟨safe, misc, context, safety, features, refresh, refused⟩, -, -⟩ := quiet
  rw [handleSafetyFeatures_run calm.safe] at safety
  cases safety
  obtain ⟨found, changed, final, sameFeatures, sameRefresh, refreshes⟩ := refreshContext_of_calm calm
  rw [features] at sameFeatures
  cases sameFeatures
  rw [refresh] at sameRefresh
  cases sameRefresh
  refine ⟨fun stale => absurd (refreshes.answer.mpr stale) (by decide), ?_⟩
  change Except.ok ((context.setting.config.refresh context.setting.services.configFile).1, _) =
    Except.ok (false, after) at refused
  rw [refreshes.setting] at refused
  exact congrArg Prod.fst (Except.ok.inj refused)

end

end HorizonOc.Sysmodule
