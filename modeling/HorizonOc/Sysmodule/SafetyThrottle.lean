import HorizonOc.Sysmodule.Refresh

namespace HorizonOc.Sysmodule

open HorizonOc.Data

/-- The start state with its CPU and GPU at the stock rates and its title refreshed, which a
changed title takes to the stock memory rate too. -/
def Sys.atStock (state : Sys) (configuration : ApmConfiguration) : Sys :=
  { (refreshTitle state).2 with
    rate := fun
      | .cpu => configuration.cpuHz
      | .gpu => configuration.gpuHz
      | .mem => if (refreshTitle state).1 then configuration.memHz else state.rate .mem
      | module => state.rate module }

/-- The context is out of date at the stock rates. -/
def RefreshesAtStock (state : Sys) (configuration : ApmConfiguration) : Prop :=
  (refreshTitle state).1 = true ∨ ∃ module, (state.atStock configuration).StaleAt module

/-- The settings with the overrides taken over. -/
def Setting.withOverrides (setting : Setting) : Setting :=
  { setting with overrideFreqs := setting.config.getOverrideHz }

def Setting.withConfig (setting : Setting) (config : Config) : Setting := { setting with config }

/-- Setting the clocks under these settings, from stock, ends at stock. -/
def EndsAtStock (setting : Setting) (configuration : ApmConfiguration) (memHz cachedHz : Nat) :
    Prop :=
  (apmExtIsBoostMode setting.services.apmConfiguration = true ∧
      setting.value .overwriteBoostMode = 0) ∨
    ((resolveTargetHz setting .cpu false ≠ 0 →
        nearestAllowedHz setting .cpu (resolveTargetHz setting .cpu false) =
          some configuration.cpuHz) ∧
      (setting.LowersMemory memHz cachedHz →
        nearestAllowedHz setting .gpu (resolveTargetHz setting .mem false) =
          some configuration.gpuHz) ∧
      (¬setting.LowersMemory memHz cachedHz → resolveTargetHz setting .gpu false ≠ 0 →
        nearestAllowedHz setting .gpu (resolveTargetHz setting .gpu false) =
          some configuration.gpuHz))

/-- The tick leaves the stock rates that its safety reset set: nothing makes it set the clocks, or
setting them ends at stock. -/
def StockSurvives (state : Sys) (configuration : ApmConfiguration) : Prop :=
  let stocked := state.atStock configuration
  let setting := stocked.setting.withOverrides
  (RefreshesAtStock state configuration →
    EndsAtStock setting configuration (stocked.rate .mem) (stocked.seenHz .mem)) ∧
  (¬RefreshesAtStock state configuration →
    (setting.config.refresh setting.services.configFile).1 = true →
      EndsAtStock (setting.withConfig (setting.config.load setting.services.configFile))
        configuration (stocked.rate .mem) (stocked.seenHz .mem))

theorem stock_positive {setting : Setting} {configuration : ApmConfiguration}
    (stock : setting.stock = some configuration) :
    configuration.cpuHz ≠ 0 ∧ configuration.gpuHz ≠ 0 ∧ configuration.memHz ≤ 1600000000 := by
  have listed : ∀ entry ∈ apmConfigurations,
      entry.cpuHz ≠ 0 ∧ entry.gpuHz ≠ 0 ∧ entry.memHz ≤ 1600000000 := by decide
  unfold Setting.stock apmConfiguration at stock
  exact listed configuration (List.mem_of_find?_eq_some stock)

theorem StockReset.then_touchesOnly {configuration : ApmConfiguration} {before middle after : Sys}
    (reset : StockReset configuration before middle)
    (frame : TouchesOnly (fun _ => False) False middle after)
    (hos9 : before.setting.board.hosAtLeast9 = true) : StockReset configuration before after := by
  have middleHos9 : middle.setting.board.hosAtLeast9 = true := by
    rw [reset.setting]
    exact hos9
  exact ⟨frame.setting.trans reset.setting, (frame.governors id).trans reset.governors,
    frame.freqs_eq.trans reset.freqs, reset.cpu.then_touchesOnly frame id,
    reset.gpu.then_touchesOnly frame id,
    (frame.rate_of_hos9 middleHos9 id).trans reset.display⟩

theorem handleSafetyFeatures_ok {state final : Sys} {configuration : ApmConfiguration}
    (hos9 : state.setting.board.hosAtLeast9 = true)
    (stock : state.setting.stock = some configuration) (fires : safetyFires state.setting = true)
    (finished : handleSafetyFeatures.run state = .ok (⟨⟩, final)) :
    StockReset configuration state final ∧ final.rate .mem = state.rate .mem := by
  unfold handleSafetyFeatures at finished
  rw [Program.run_read_bind, Program.run_when_true fires] at finished
  obtain ⟨found, foundStock, reset⟩ := resetToStockClocks_ok hos9 finished
  rw [stock] at foundStock
  cases foundStock
  exact reset

/-- A state at stock with the start's cache. -/
structure Stocked (start : Sys) (configuration : ApmConfiguration) (state : Sys) : Prop where
  setting : state.setting = (start.atStock configuration).setting
  governors : state.governors = start.governors
  freqs : state.freqs = start.freqs
  getHz : state.getHz = (start.atStock configuration).getHz
  lastCpu : lastHz .cpu state.log = some configuration.cpuHz
  lastGpu : lastHz .gpu state.log = some configuration.gpuHz

theorem Stocked.of_rates {start state : Sys} {configuration : ApmConfiguration}
    (setting : state.setting = (refreshTitle start).2.setting)
    (governors : state.governors = start.governors) (freqs : state.freqs = start.freqs)
    (lastCpu : lastHz .cpu state.log = some configuration.cpuHz)
    (lastGpu : lastHz .gpu state.log = some configuration.gpuHz)
    (cpu : state.rate .cpu = configuration.cpuHz) (gpu : state.rate .gpu = configuration.gpuHz)
    (mem : state.rate .mem = (start.atStock configuration).rate .mem)
    (display : state.rate .display = start.rate .display) : Stocked start configuration state := by
  refine ⟨setting, governors, freqs, funext fun module => ?_, lastCpu, lastGpu⟩
  cases module with
  | cpu => exact cpu
  | gpu => exact gpu
  | mem => exact mem
  | governor => exact cpu
  | display => exact display

theorem refreshTitle_of_setting {first second : Sys} (same : first.setting = second.setting) :
    (refreshTitle first).1 = (refreshTitle second).1 ∧
      (refreshTitle first).2.setting = (refreshTitle second).2.setting := by
  simp only [refreshTitle, same, and_self]

/-- After the safety reset and the restoration for a changed title. -/
theorem stocked_of_restored {start misc restored : Sys} {configuration : ApmConfiguration}
    (hos9 : start.setting.board.hosAtLeast9 = true)
    (stock : start.setting.stock = some configuration)
    (reset : StockReset configuration start misc) (mem : misc.rate .mem = start.rate .mem)
    (finished : (Program.when ((refreshTitle misc).1 = true) restoreStock).run (refreshTitle misc).2 =
      .ok (⟨⟩, restored)) :
    Stocked start configuration restored := by
  obtain ⟨sameChange, sameSetting⟩ := refreshTitle_of_setting reset.setting
  have titledHos9 : (refreshTitle misc).2.setting.board.hosAtLeast9 = true := by
    rw [sameSetting]
    exact hos9
  rcases Program.run_when_ok finished with ⟨changed, finished⟩ | ⟨unchanged, rfl⟩
  · obtain ⟨found, foundStock, again, againMem⟩ := restoreStock_ok titledHos9 finished
    have sameStock : (refreshTitle misc).2.setting.stock = some configuration := by
      rw [sameSetting]
      exact stock
    rw [sameStock] at foundStock
    cases foundStock
    refine .of_rates (again.setting.trans sameSetting) (again.governors.trans reset.governors)
      (again.freqs.trans reset.freqs) again.cpu.lastHz again.gpu.lastHz (again.cpu.rate titledHos9)
      (again.gpu.rate titledHos9) ?_ (again.display.trans reset.display)
    rw [againMem]
    change _ = if (refreshTitle start).1 then _ else _
    rw [if_pos (sameChange ▸ changed)]
  · refine .of_rates sameSetting reset.governors reset.freqs reset.cpu.lastHz reset.gpu.lastHz
      (reset.cpu.rate hos9) (reset.gpu.rate hos9) ?_ reset.display
    change misc.rate .mem = if (refreshTitle start).1 then _ else _
    rw [if_neg (sameChange ▸ unchanged)]
    exact mem

theorem Stocked.staleAt_iff {start state : Sys} {configuration : ApmConfiguration}
    (stocked : Stocked start configuration state) (module : Module) :
    state.StaleAt module ↔ (start.atStock configuration).StaleAt module := by
  unfold Sys.StaleAt
  rw [stocked.getHz, stocked.freqs, stocked.setting]
  rfl

theorem Stocked.seenHz_eq {start state : Sys} {configuration : ApmConfiguration}
    (stocked : Stocked start configuration state) :
    state.seenHz = (start.atStock configuration).seenHz := by
  funext module
  unfold Sys.seenHz
  rw [stocked.getHz, stocked.freqs]
  rfl

/-- The state before the clocks are set in a tick whose safety reset fired. -/
structure Throttled (start : Sys) (configuration : ApmConfiguration) (setting : Setting)
    (state : Sys) : Prop where
  setting : state.setting = setting
  governors : state.governors = start.governors
  cpuFreq : state.freqs .cpu = configuration.cpuHz
  gpuFreq : state.freqs .gpu = configuration.gpuHz
  memFreq : state.freqs .mem = (start.atStock configuration).seenHz .mem
  cpuRate : state.rate .cpu = configuration.cpuHz
  memRate : state.rate .mem = (start.atStock configuration).rate .mem
  lastCpu : lastHz .cpu state.log = some configuration.cpuHz
  lastGpu : lastHz .gpu state.log = some configuration.gpuHz

theorem Stocked.throttled {start state : Sys} {configuration : ApmConfiguration}
    (stocked : Stocked start configuration state)
    (stock : start.setting.stock = some configuration) :
    Throttled start configuration (start.atStock configuration).setting.withOverrides
      (refreshReadings (state.refreshed state.seenHz state.setting.config.getOverrideHz)) := by
  obtain ⟨cpuPositive, gpuPositive, -⟩ := stock_positive stock
  have cpuHz : state.getHz .cpu = configuration.cpuHz := congrFun stocked.getHz .cpu
  have gpuHz : state.getHz .gpu = configuration.gpuHz := congrFun stocked.getHz .gpu
  refine ⟨?_, stocked.governors, ?_, ?_, congrFun stocked.seenHz_eq .mem, cpuHz,
    congrFun stocked.getHz .mem, stocked.lastCpu, stocked.lastGpu⟩
  · simp only [refreshReadings, Sys.refreshed, stocked.setting, Setting.withOverrides]
  · change state.seenHz .cpu = configuration.cpuHz
    rw [Sys.seenHz, cpuHz, if_pos cpuPositive]
  · change state.seenHz .gpu = configuration.gpuHz
    rw [Sys.seenHz, gpuHz, if_pos gpuPositive]

section

variable {start state final : Sys} {configuration : ApmConfiguration} {setting : Setting}
  {isBoost : Bool}

theorem Throttled.cpu_iff (throttled : Throttled start configuration setting state)
    (stock : setting.stock = some configuration)
    (off : start.governors.isCpuGovernorEnabled = false) (settled : start.governors.Settled)
    (late : ¬ReturnsEarly isBoost state)
    (finished : (setClocks isBoost).run state = .ok (⟨⟩, final)) :
    lastHz .cpu final.log = some configuration.cpuHz ↔
      (resolveTargetHz setting .cpu false ≠ 0 →
        nearestAllowedHz setting .cpu (resolveTargetHz setting .cpu false) =
          some configuration.cpuHz) := by
  obtain ⟨found, hands⟩ := setClocks_hands_cpu late (by rw [throttled.governors]; exact off)
    (by rw [throttled.governors, settled.1]; exact off) finished
  rw [throttled.setting] at found
  rw [hands.lastHz, throttled.lastCpu, throttled.setting, throttled.cpuFreq]
  dsimp only [Setting.passHz, Setting.decidedHz] at found ⊢
  by_cases target : resolveTargetHz setting .cpu false ≠ 0
  · obtain ⟨hz, nearest⟩ := found target
    rw [if_pos target] at nearest
    rw [if_pos target, nearest]
    by_cases same : hz = configuration.cpuHz
    · rw [Option.filter_some_neg (by simpa using same)]
      simp [same]
    · rw [Option.filter_some_pos (by simpa using same)]
      simp [same, target]
  · rw [if_neg target]
    refine iff_of_true ?_ fun positive => absurd positive target
    unfold Setting.resetHz Setting.stockHz
    rw [stock]
    split_ifs <;> rfl

theorem Throttled.gpu_iff (throttled : Throttled start configuration setting state)
    (hos9 : setting.board.hosAtLeast9 = true) (stock : setting.stock = some configuration)
    (off : start.governors.isGpuGovernorEnabled = false) (settled : start.governors.Settled)
    (late : ¬ReturnsEarly isBoost state)
    (finished : (setClocks isBoost).run state = .ok (⟨⟩, final)) :
    lastHz .gpu final.log = some configuration.gpuHz ↔
      (setting.LowersMemory (state.rate .mem) (state.freqs .mem) →
        nearestAllowedHz setting .gpu (resolveTargetHz setting .mem false) =
          some configuration.gpuHz) ∧
      (¬setting.LowersMemory (state.rate .mem) (state.freqs .mem) →
        resolveTargetHz setting .gpu false ≠ 0 →
          nearestAllowedHz setting .gpu (resolveTargetHz setting .gpu false) =
            some configuration.gpuHz) := by
  obtain ⟨found, outcome⟩ := setClocks_hands_gpu late (by rw [throttled.governors]; exact off)
    (by rw [throttled.governors, settled.2.1]; exact off) finished
  unfold Sys.LowersMemory at outcome
  rw [Sys.memHzAtPass_of_hos9 (by rw [throttled.setting]; exact hos9)] at outcome
  rw [throttled.setting] at found outcome
  obtain ⟨decided, isDecided⟩ := found (.inr hos9)
  rcases outcome with ⟨lowers, hz, nearest, hands⟩ | ⟨kept, hands⟩
  · rw [hands.lastHz, nearest]
    exact ⟨fun last => ⟨fun _ => last, fun kept => absurd lowers kept⟩, fun both => both.1 lowers⟩
  · have last : lastHz .gpu final.log = some decided := by
      rw [hands.lastHz, throttled.lastGpu, throttled.gpuFreq]
      rcases setting.ownGpuHz_decided isDecided (.inr hos9) with own | ⟨cached, own⟩
      · rw [own]
        rfl
      · rw [own, ← cached]
        rfl
    rw [last]
    unfold Setting.decidedHz at isDecided
    by_cases target : resolveTargetHz setting .gpu false = 0
    · simp only [target, ne_eq, not_true_eq_false, if_false, Setting.stockHz, stock] at isDecided
      cases isDecided
      exact iff_of_true rfl
        ⟨fun lowers => absurd lowers kept, fun _ positive => absurd target positive⟩
    · simp only [ne_eq, target, not_false_eq_true, if_true] at isDecided
      rw [isDecided]
      exact ⟨fun same => ⟨fun lowers => absurd lowers kept, fun _ _ => same⟩,
        fun both => both.2 kept target⟩

/-- Setting the clocks from stock ends at stock exactly under the settings that do. -/
theorem Throttled.setClocks_iff (throttled : Throttled start configuration setting state)
    (hos9 : setting.board.hosAtLeast9 = true) (stock : setting.stock = some configuration)
    (cpuOff : start.governors.isCpuGovernorEnabled = false)
    (gpuOff : start.governors.isGpuGovernorEnabled = false) (settled : start.governors.Settled)
    (finished : (setClocks (apmExtIsBoostMode setting.services.apmConfiguration)).run state =
      .ok (⟨⟩, final)) :
    (lastHz .cpu final.log = some configuration.cpuHz ∧
        lastHz .gpu final.log = some configuration.gpuHz) ↔
      EndsAtStock setting configuration ((start.atStock configuration).rate .mem)
        ((start.atStock configuration).seenHz .mem) := by
  by_cases early : ReturnsEarly (apmExtIsBoostMode setting.services.apmConfiguration) state
  · obtain ⟨frame, hands⟩ := setClocks_early_hands early finished
    have gpu : lastHz .gpu final.log = some configuration.gpuHz :=
      (frame.lastHz_eq (by decide)).trans throttled.lastGpu
    have cpu : lastHz .cpu final.log = some configuration.cpuHz := by
      rw [hands.lastHz, throttled.lastCpu, throttled.cpuRate]
      split_ifs <;> rfl
    unfold ReturnsEarly at early
    rw [throttled.setting] at early
    exact iff_of_true ⟨cpu, gpu⟩ (.inl early)
  · rw [throttled.cpu_iff stock cpuOff settled early finished,
      throttled.gpu_iff hos9 stock gpuOff settled early finished]
    unfold ReturnsEarly at early
    rw [throttled.setting] at early
    unfold EndsAtStock
    rw [throttled.memRate, throttled.memFreq]
    exact (or_iff_right early).symm

/-- What a reload of the configuration leaves of the state at stock. -/
theorem Throttled.withSetting (throttled : Throttled start configuration setting state)
    (other : Setting) : Throttled start configuration other { state with setting := other } :=
  ⟨rfl, throttled.governors, throttled.cpuFreq, throttled.gpuFreq, throttled.memFreq,
    throttled.cpuRate, throttled.memRate, throttled.lastCpu, throttled.lastGpu⟩

/-- Without a change of the context only a reload makes the tick set the clocks. -/
theorem Throttled.reload_iff (throttled : Throttled start configuration setting state)
    (hos9 : setting.board.hosAtLeast9 = true) (stock : setting.stock = some configuration)
    (cpuOff : start.governors.isCpuGovernorEnabled = false)
    (gpuOff : start.governors.isGpuGovernorEnabled = false) (settled : start.governors.Settled)
    (finished : (Program.when ((state.afterConfig false).1 = true)
      (setClocks (apmExtIsBoostMode setting.services.apmConfiguration))).run
        (state.afterConfig false).2 = .ok (⟨⟩, final)) :
    (lastHz .cpu final.log = some configuration.cpuHz ∧
        lastHz .gpu final.log = some configuration.gpuHz) ↔
      ((setting.config.refresh setting.services.configFile).1 = true →
        EndsAtStock (setting.withConfig (setting.config.load setting.services.configFile))
          configuration ((start.atStock configuration).rate .mem)
          ((start.atStock configuration).seenHz .mem)) := by
  unfold Sys.afterConfig at finished
  rw [if_neg (by decide)] at finished
  dsimp only at finished
  rw [throttled.setting] at finished
  rcases setting.config.refresh_cases setting.services.configFile with reload | keep
  · rw [reload] at finished ⊢
    rw [Program.run_when_true rfl] at finished
    have reloaded := throttled.withSetting
      (setting.withConfig (setting.config.load setting.services.configFile))
    have ends := reloaded.setClocks_iff hos9 stock cpuOff gpuOff settled finished
    rw [ends]
    exact ⟨fun keeps _ => keeps, fun survives => survives rfl⟩
  · rw [keep] at finished ⊢
    rw [Program.run_when_false Bool.false_ne_true] at finished
    cases finished
    exact iff_of_true ⟨throttled.lastCpu, throttled.lastGpu⟩
      fun stale => absurd stale Bool.false_ne_true

end

/-- Where the safety features fire, the last CPU and GPU rates of the tick are the stock rates
exactly when the rest of the tick leaves them. -/
theorem tick_throttles_iff {state final : Sys} {configuration : ApmConfiguration}
    (hos9 : state.setting.board.hosAtLeast9 = true)
    (stock : state.setting.stock = some configuration)
    (cpuOff : state.governors.isCpuGovernorEnabled = false)
    (gpuOff : state.governors.isGpuGovernorEnabled = false) (settled : state.governors.Settled)
    (fires : safetyFires state.setting = true)
    (finished : tick.run state = .ok (⟨⟩, final)) :
    (lastHz .cpu final.log = some configuration.cpuHz ∧
        lastHz .gpu final.log = some configuration.gpuHz) ↔
      StockSurvives state configuration := by
  obtain ⟨safe, misc, changed, context, safety, features, refresh, clocks⟩ := tick_ok finished
  obtain ⟨reset, mem⟩ := handleSafetyFeatures_ok hos9 stock fires safety
  have miscFrame := (handleMiscFeatures_respects).run features
  have safeHos9 : safe.setting.board.hosAtLeast9 = true := by
    rw [reset.setting]
    exact hos9
  have miscReset := reset.then_touchesOnly miscFrame hos9
  have miscMem : misc.rate .mem = state.rate .mem :=
    (miscFrame.rate_of_hos9 safeHos9 id).trans mem
  obtain ⟨restored, restore, isChanged, rfl⟩ := refreshContext_ok refresh
  have stocked := stocked_of_restored hos9 stock miscReset miscMem restore
  have throttled := stocked.throttled stock
  rw [(refreshTitle_of_setting miscReset.setting).1] at isChanged
  simp only [stocked.staleAt_iff] at isChanged
  change changed = true ↔ RefreshesAtStock state configuration at isChanged
  cases changed with
  | true =>
      have refreshes := isChanged.mp rfl
      have ends := throttled.setClocks_iff hos9 stock cpuOff gpuOff settled clocks
      rw [ends]
      exact ⟨fun keeps => ⟨fun _ => keeps, fun not => absurd refreshes not⟩,
        fun survives => survives.1 refreshes⟩
  | false =>
      have current : ¬RefreshesAtStock state configuration := fun refreshes =>
        absurd (isChanged.mpr refreshes) (by decide)
      have ends := throttled.reload_iff hos9 stock cpuOff gpuOff settled clocks
      rw [ends]
      exact ⟨fun survives => ⟨fun refreshes => absurd refreshes current, fun _ => survives⟩,
        fun survives => survives.2 current⟩

/-- A SoC at 80 degrees, with the CPU at an override of 1785 MHz. -/
def hotSample : Sys :=
  let rates := Function.update sampleRates .cpu 1785000000
  let setting := sampleSetting.withOverride .cpu 1785000000
  { Sys.initial
      { setting with services := { setting.services with tempSocMilli := 80000 } } rates [] with
    freqs := Function.update rates .governor 1785000000 }

theorem tick_throttles_iff_sample :
    ∃ final, tick.run hotSample = .ok (⟨⟩, final) ∧
      ((lastHz .cpu final.log = some 1020000000 ∧ lastHz .gpu final.log = some 230400000) ↔
        StockSurvives hotSample ⟨0x00020000, 1020000000, 230400000, 1600000000⟩) := by
  have returns : (tick.outcome hotSample).isSome = true := by decide +kernel
  obtain ⟨final, returned⟩ := Option.isSome_iff_exists.mp returns
  have finished := Program.run_of_outcome returned
  have stock : hotSample.setting.stock =
      some ⟨0x00020000, 1020000000, 230400000, 1600000000⟩ := by decide +kernel
  exact ⟨final, finished, tick_throttles_iff (by decide) stock (by decide) (by decide)
    ⟨by decide, by decide, by decide⟩ (by decide +kernel) finished⟩

/-- The reset makes the cached rate stale, and the same tick sets the override again. -/
theorem tick_returns_to_override :
    safetyFires hotSample.setting = true ∧ hotSample.setting.stockHz .cpu = some 1020000000 ∧
      ∃ final, tick.run hotSample = .ok (⟨⟩, final) ∧ lastHz .cpu final.log = some 1785000000 := by
  have last : (tick.outcome hotSample).map (lastHz .cpu ·.log) = some (some 1785000000) := by
    decide +kernel
  obtain ⟨final, returned, isLast⟩ := Option.map_eq_some_iff.mp last
  exact ⟨by decide +kernel, by decide +kernel, final, Program.run_of_outcome returned, isLast⟩

end HorizonOc.Sysmodule
