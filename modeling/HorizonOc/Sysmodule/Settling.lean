import HorizonOc.Sysmodule.CalmTick
import HorizonOc.Sysmodule.Display

namespace HorizonOc.Sysmodule

open HorizonOc.Data

def Setting.under (setting : Setting) (services : Services) : Setting := { setting with services }

/-- The state with what the services answer to the next tick. -/
def Sys.observing (state : Sys) (services : Services) : Sys :=
  { state with setting := state.setting.under services }

/-- The state after as many ticks, each with its own answers of the services. -/
def afterTicks (services : Nat → Services) (start : Sys) : Nat → Except Fault Sys
  | 0 => .ok start
  | count + 1 => do
      let state ← afterTicks services start count
      let result ← tick.run (state.observing (services count))
      pure result.2

/-- The settings of the ticks after the first one. -/
def Sys.origin (start : Sys) (services : Services) : Setting :=
  (start.setting.under services).taken

/-- The answers that a fixed configuration, application and charger fix. -/
structure SameConditions (first later : Services) : Prop where
  apmConfiguration : later.apmConfiguration = first.apmConfiguration
  performanceMode : later.performanceMode = first.performanceMode
  chargerType : later.chargerType = first.chargerType
  applicationId : later.applicationId = first.applicationId
  configFile : later.configFile = first.configFile

/-- No boost and no governor, whatever was cached; a reset sets a fixed rate, and the display reads
back what was programmed. -/
structure Undisturbed (display : Display) (services : Nat → Services) (start : Sys) : Prop where
  same : ∀ count, SameConditions (services 0) (services count)
  noBoost : apmExtIsBoostMode (services 0).apmConfiguration = false
  off : start.governors.Off
  ungoverned : (start.origin (services 0)).NoGovernor
  ungovernedOnCard : (start.origin (services 0)).onCard.NoGovernor
  rows : ∀ module, module.IsClock → start.setting.gFreqTable module ≠ []
  resets : ∀ module, module.IsClock →
    ∃ hz ≠ 0, (start.setting.under (services 0)).resetHz module = some hz
  reads : ∀ asked ≠ 0, ∀ before,
    display.normalisedRate asked = some (start.setting.board.displayReadback asked before)

/-- The safety features fire in no tick. -/
def Unthrottled (services : Nat → Services) (start : Sys) : Prop :=
  ∀ count state, afterTicks services start count = .ok state →
    safetyFires (state.observing (services count)).setting = false

/-- Every tick from the first of these on is quiet. -/
def QuietFrom (services : Nat → Services) (start : Sys) (first : Nat) : Prop :=
  ∀ count ≥ first, ∃ state after, afterTicks services start count = .ok state ∧
    (state.observing (services count)).QuietTick after

/-- A display target, if it is set, is a rate that the display shows as it is. -/
def Setting.ReadsBack (setting : Setting) (display : Display) : Prop :=
  setting.value .overwriteRefreshRate ≠ 0 → resolveTargetHz setting .display true ≠ 0 →
    display.Shows (resolveTargetHz setting .display true)

/-- Either nothing is out of date, or the display target reads back: that on the card, and where
the context is out of date that in memory. -/
def Sys.Settles (state : Sys) (display : Display) : Prop :=
  (¬state.OutOfDate ∧
    (state.setting.config.refresh state.setting.services.configFile).1 = false) ∨
  (state.setting.taken.onCard.ReadsBack display ∧
    (state.OutOfDate → state.setting.taken.ReadsBack display))

theorem Config.browse_keeps (items : List IniItem) (config : Config) :
    (items.foldl Config.browseIniFunc config).overrideFreqs = config.overrideFreqs ∧
      (items.foldl Config.browseIniFunc config).mtime = config.mtime := by
  induction items generalizing config with
  | nil => exact ⟨rfl, rfl⟩
  | cons item rest ih =>
      rw [List.foldl_cons, (ih _).1, (ih _).2]
      cases item with
      | value key input => exact ⟨rfl, rfl⟩
      | clock titleId profile module mhz =>
          by_cases absent : titleId = 0 ∨ mhz = 0
          · simp only [Config.browseIniFunc, if_pos absent, and_self]
          · simp only [Config.browseIniFunc, if_neg absent, and_self]

theorem Config.load_keeps (config : Config) (file : ConfigFile) :
    (config.load file).overrideFreqs = config.overrideFreqs ∧
      (config.load file).mtime = file.modified := by
  unfold Config.load
  dsimp only
  split
  · exact ⟨rfl, rfl⟩
  · exact Config.browse_keeps file.items _

theorem Config.refresh_overrideFreqs (config : Config) (file : ConfigFile) :
    (config.refresh file).2.overrideFreqs = config.overrideFreqs := by
  rcases config.refresh_cases file with reloaded | kept
  · rw [reloaded]
    exact (config.load_keeps file).1
  · rw [kept]

theorem Config.refresh_refresh (config : Config) (file : ConfigFile) :
    (config.refresh file).2.refresh file = (false, (config.refresh file).2) := by
  rcases config.refresh_cases file with reloaded | kept
  · rw [reloaded]
    unfold Config.refresh
    rw [if_neg (by simp [(config.load_keeps file).2])]
  · rw [kept]
    exact kept

/-- The title and the overrides are those of the services and the configuration. -/
structure Setting.Current (setting : Setting) : Prop where
  applicationId : setting.applicationId = setting.services.applicationId
  profile : setting.profile = getProfile setting.services
  overrideFreqs : setting.overrideFreqs = setting.config.getOverrideHz

theorem Setting.taken_current (setting : Setting) : setting.taken.Current := ⟨rfl, rfl, rfl⟩

namespace Setting.Current

variable {setting : Setting} {services : Services}

theorem taken_eq (current : setting.Current) : setting.taken = setting := by
  unfold Setting.taken
  rw [← current.applicationId, ← current.profile, ← current.overrideFreqs]

theorem onCard (current : setting.Current) : setting.onCard.Current :=
  ⟨current.applicationId, current.profile, current.overrideFreqs.trans
    (setting.config.refresh_overrideFreqs setting.services.configFile).symm⟩

theorem under (current : setting.Current) (same : SameConditions setting.services services) :
    (setting.under services).Current := by
  have profile : getProfile services = getProfile setting.services := by
    unfold getProfile
    rw [same.performanceMode, same.chargerType]
  exact ⟨current.applicationId.trans same.applicationId.symm, current.profile.trans profile.symm,
    current.overrideFreqs⟩

end Setting.Current

section

variable {setting : Setting} {services : Services}

theorem Setting.plan_under (same : SameConditions setting.services services) :
    (setting.under services).plan = setting.plan := by
  unfold Setting.plan Setting.stockHz Setting.stock
  simp only [Setting.under, same.apmConfiguration]
  rfl

theorem Setting.onCard_under (same : SameConditions setting.services services) :
    (setting.under services).onCard = setting.onCard.under services := by
  unfold Setting.onCard
  simp only [Setting.under, same.configFile]

theorem Setting.Regular.under (regular : setting.Regular)
    (same : SameConditions setting.services services) : (setting.under services).Regular := by
  refine ⟨regular.rows, ?_, regular.reads⟩
  intro module clock
  obtain ⟨hz, nonzero, resets⟩ := regular.resets module clock
  refine ⟨hz, nonzero, ?_⟩
  unfold Setting.resetHz Setting.stockHz Setting.stock at resets ⊢
  simp only [Setting.under, same.apmConfiguration]
  exact resets

/-- The configuration is that on the card. -/
theorem Setting.onCard_of_same
    (same : (setting.config.refresh setting.services.configFile).1 = false) :
    setting.onCard = setting := by
  unfold Setting.onCard
  rcases setting.config.refresh_cases setting.services.configFile with reloaded | kept
  · rw [reloaded] at same
    contradiction
  · rw [kept]

end

theorem outOfDate_iff {state : Sys} (current : state.setting.Current) :
    state.OutOfDate ↔ ¬state.clocks.Fresh := by
  have untitled : (refreshTitle state).1 = false := by
    simp [refreshTitle, ← current.applicationId, ← current.profile]
  have taken : ∀ module, state.setting.config.getOverrideHz module =
      state.setting.overrideFreqs module := fun module => congrFun current.overrideFreqs.symm module
  unfold Sys.OutOfDate Clocks.Fresh
  simp [untitled, Sys.staleAt_iff, taken]

def Setting.inForce (origin : Setting) (loaded : Bool) : Setting :=
  if loaded then origin.onCard else origin

/-- The settings are those the loop is in, the clocks are its clocks. -/
structure Follows (origin : Setting) (loop : ControlLoop) (state : Sys) : Prop where
  setting : ∃ services, SameConditions origin.services services ∧
    state.setting = (origin.inForce loop.loaded).under services
  off : state.governors.Off
  clocks : state.clocks = loop.clocks
  differs : loop.loaded = false → (origin.config.refresh origin.services.configFile).1 = true

/-- What the ticks after the first one are given. -/
structure Setting.Origin (origin : Setting) : Prop where
  current : origin.Current
  regular : origin.Regular
  noBoost : apmExtIsBoostMode origin.services.apmConfiguration = false
  ungoverned : origin.NoGovernor
  ungovernedOnCard : origin.onCard.NoGovernor

section

variable {origin : Setting} {loop : ControlLoop} {state : Sys} {services : Services}

theorem Setting.inForce_services (origin : Setting) (loaded : Bool) :
    (origin.inForce loaded).services = origin.services := by
  unfold Setting.inForce
  split
  · rfl
  · rfl

theorem Setting.Origin.inForce (given : origin.Origin) (loaded : Bool) :
    (origin.inForce loaded).Current ∧ (origin.inForce loaded).Regular ∧
      (origin.inForce loaded).NoGovernor ∧ (origin.inForce loaded).onCard = origin.onCard := by
  have twice : origin.onCard.onCard = origin.onCard := by
    refine Setting.onCard_of_same ?_
    exact congrArg Prod.fst (origin.config.refresh_refresh origin.services.configFile)
  unfold Setting.inForce
  split
  · exact ⟨given.current.onCard, given.regular.onCard, given.ungovernedOnCard, twice⟩
  · exact ⟨given.current, given.regular, given.ungoverned, rfl⟩

/-- The settings of a state that follows, under the next answers of the services. -/
theorem Follows.observed (follows : Follows origin loop state) :
    (state.observing services).setting = (origin.inForce loop.loaded).under services := by
  obtain ⟨earlier, -, setting⟩ := follows.setting
  change state.setting.under services = _
  rw [setting]
  rfl

/-- What a tick finds in a state that follows. -/
structure Found (origin : Setting) (loop : ControlLoop) (observed : Sys) : Prop where
  calm : observed.Calm
  untitled : (refreshTitle observed).1 = false
  outOfDate : observed.OutOfDate ↔ ¬loop.clocks.Fresh
  clocks : observed.clocks = loop.clocks
  taken : observed.setting.taken = (origin.inForce loop.loaded).under observed.setting.services
  onCard : observed.setting.taken.onCard = origin.onCard.under observed.setting.services
  plan : observed.setting.taken.plan = loop.plan origin.plan origin.onCard.plan
  planOnCard : observed.setting.taken.onCard.plan = origin.onCard.plan
  asks : (observed.setting.config.refresh observed.setting.services.configFile).1 = true ↔
    loop.loaded = false

theorem Follows.found (follows : Follows origin loop state) (given : origin.Origin)
    (same : SameConditions origin.services services)
    (safe : safetyFires (state.observing services).setting = false) :
    Found origin loop (state.observing services) := by
  obtain ⟨current, regular, ungoverned, onCard⟩ := given.inForce loop.loaded
  have sameInForce : SameConditions (origin.inForce loop.loaded).services services := by
    rw [origin.inForce_services]
    exact same
  have observedCurrent : (state.observing services).setting.Current := by
    rw [follows.observed]
    exact current.under sameInForce
  have taken : (state.observing services).setting.taken =
      (origin.inForce loop.loaded).under services := by
    rw [observedCurrent.taken_eq, follows.observed]
  have takenOnCard : (state.observing services).setting.taken.onCard =
      origin.onCard.under services := by
    rw [taken, Setting.onCard_under sameInForce, onCard]
  refine ⟨⟨?_, safe, ?_, follows.off, ?_, ?_⟩, ?_, ?_, follows.clocks, taken, takenOnCard, ?_, ?_, ?_⟩
  · rw [follows.observed]
    exact regular.under sameInForce
  · change apmExtIsBoostMode services.apmConfiguration = false
    rw [same.apmConfiguration]
    exact given.noBoost
  · rw [taken]
    exact ungoverned
  · rw [takenOnCard]
    exact given.ungovernedOnCard
  · simp [refreshTitle, ← observedCurrent.applicationId, ← observedCurrent.profile]
  · rw [outOfDate_iff observedCurrent, ← follows.clocks]
    rfl
  · rw [taken, Setting.plan_under sameInForce]
    unfold Setting.inForce ControlLoop.plan
    split
    · rfl
    · rfl
  · rw [takenOnCard]
    exact Setting.plan_under same
  · rw [follows.observed]
    change ((origin.inForce loop.loaded).config.refresh services.configFile).1 = true ↔ _
    rw [same.configFile]
    unfold Setting.inForce
    cases loaded : loop.loaded with
    | true =>
        have kept := origin.config.refresh_refresh origin.services.configFile
        change (origin.onCard.config.refresh origin.services.configFile).1 = true ↔ _
        rw [Setting.onCard, kept]
        simp
    | false => exact iff_of_true (follows.differs loaded) rfl

theorem Follows.tick (follows : Follows origin loop state) (given : origin.Origin)
    (same : SameConditions origin.services services)
    (safe : safetyFires (state.observing services).setting = false) :
    ∃ after, HorizonOc.Sysmodule.tick.run (state.observing services) = .ok (⟨⟩, after) ∧
      Follows origin (loop.tick origin.plan origin.onCard.plan) after ∧
      ((∃ later, (state.observing services).QuietTick later) ↔ loop.Quiet) := by
  have found := follows.found given same safe
  obtain ⟨after, finished, governors, outcome⟩ := tick_returns found.calm
  have off : after.governors.Off := by
    rw [governors]
    exact follows.off
  refine ⟨after, finished, ?_⟩
  cases outcome with
  | refreshed stale clocks untitled setting set =>
      have busy := found.outOfDate.mp stale
      rw [untitled found.untitled, found.clocks, found.plan] at set
      rw [ControlLoop.tick_stale busy]
      refine ⟨⟨⟨services, same, setting.trans found.taken⟩, off, set, follows.differs⟩, ?_⟩
      exact iff_of_false (fun ⟨later, quiet⟩ => (quiet.current found.calm).1 stale)
        fun quiet => busy quiet.1
  | loaded current differs setting set =>
      have fresh : loop.clocks.Fresh := not_not.mp fun busy => current (found.outOfDate.mpr busy)
      have unloaded := found.asks.mp differs
      rw [found.clocks, found.planOnCard] at set
      rw [ControlLoop.tick_load fresh unloaded]
      refine ⟨⟨⟨services, same, setting.trans found.onCard⟩, off, set,
        fun loaded => absurd loaded (by simp)⟩, ?_⟩
      refine iff_of_false (fun ⟨later, quiet⟩ => ?_) fun quiet => ?_
      · rw [(quiet.current found.calm).2] at differs
        contradiction
      · rw [quiet.2] at unloaded
        contradiction
  | quiet current kept setting clocks quiet =>
      have fresh : loop.clocks.Fresh := not_not.mp fun busy => current (found.outOfDate.mpr busy)
      have loaded : loop.loaded = true := by
        cases isLoaded : loop.loaded with
        | true => rfl
        | false =>
            rw [found.asks.mpr isLoaded] at kept
            contradiction
      have rests : loop.Quiet := ⟨fresh, loaded⟩
      rw [found.clocks, fresh.refresh_eq] at clocks
      rw [rests.tick_eq]
      have inForce : origin.inForce loop.loaded = origin.onCard := by
        rw [loaded]
        rfl
      refine ⟨⟨⟨services, same, ?_⟩, off, clocks, follows.differs⟩, ?_⟩
      · rw [inForce]
        exact setting.trans found.onCard
      · exact iff_of_true ⟨after, quiet⟩ rests

theorem afterTicks_succ {answers : Nat → Services} {start state after : Sys} {count : Nat}
    (reached : afterTicks answers start count = .ok state)
    (finished : HorizonOc.Sysmodule.tick.run (state.observing (answers count)) = .ok (⟨⟩, after)) :
    afterTicks answers start (count + 1) = .ok after := by
  rw [afterTicks, reached]
  change (HorizonOc.Sysmodule.tick.run (state.observing (answers count)) >>= fun result =>
    pure result.2) = _
  rw [finished]
  rfl

end

section

variable {display : Display} {services : Nat → Services} {start : Sys}

theorem Undisturbed.origin (undisturbed : Undisturbed display services start) :
    (start.origin (services 0)).Origin := by
  refine ⟨Setting.taken_current _, ⟨undisturbed.rows, undisturbed.resets, ?_⟩, undisturbed.noBoost,
    undisturbed.ungoverned, undisturbed.ungovernedOnCard⟩
  intro asked nonzero before
  have first := undisturbed.reads asked nonzero before
  rw [undisturbed.reads asked nonzero 0] at first
  exact (Option.some.inj first).symm

/-- The loop that the ticks after the first one follow. -/
inductive Begins (origin : Setting) (observed : Sys) (loop : ControlLoop) : Prop where
  | refreshed (stale : observed.OutOfDate) (clocks : Clocks)
      (unloaded : loop.loaded = !(origin.config.refresh origin.services.configFile).1)
      (set : loop.clocks = clocks.refresh.setClocks origin.plan)
  | loaded (current : ¬observed.OutOfDate)
      (differs : (origin.config.refresh origin.services.configFile).1 = true) (clocks : Clocks)
      (isLoaded : loop.loaded = true) (set : loop.clocks = clocks.refresh.setClocks origin.onCard.plan)
  | quiet (current : ¬observed.OutOfDate)
      (same : (origin.config.refresh origin.services.configFile).1 = false) (quiet : loop.Quiet)

/-- The first tick, from whatever was cached. -/
theorem Undisturbed.begins (undisturbed : Undisturbed display services start)
    (safe : safetyFires (start.observing (services 0)).setting = false) :
    ∃ loop state, afterTicks services start 1 = .ok state ∧
      Follows (start.origin (services 0)) loop state ∧
      Begins (start.origin (services 0)) (start.observing (services 0)) loop := by
  set origin := start.origin (services 0) with originDef
  have given := undisturbed.origin
  have calm : (start.observing (services 0)).Calm := by
    refine ⟨?_, safe, undisturbed.noBoost, undisturbed.off,
      undisturbed.ungoverned, undisturbed.ungovernedOnCard⟩
    exact ⟨given.regular.rows, given.regular.resets, given.regular.reads⟩
  have sameServices : SameConditions origin.services (services 0) := undisturbed.same 0
  obtain ⟨after, finished, governors, outcome⟩ := tick_returns calm
  have reached := afterTicks_succ rfl finished
  have off : after.governors.Off := by
    rw [governors]
    exact undisturbed.off
  cases outcome with
  | refreshed stale clocks untitled setting set =>
      cases asks : (origin.config.refresh origin.services.configFile).1 with
      | true =>
          refine ⟨⟨false, after.clocks⟩, after, reached, ⟨⟨services 0, sameServices, setting⟩, off, rfl,
            fun _ => asks⟩, .refreshed stale clocks (by rw [asks]; rfl) set⟩
      | false =>
          have onCard : origin.onCard = origin := Setting.onCard_of_same asks
          refine ⟨⟨true, after.clocks⟩, after, reached, ⟨⟨services 0, sameServices, ?_⟩, off, rfl,
            fun unloaded => absurd unloaded (by simp)⟩, .refreshed stale clocks (by rw [asks]; rfl) set⟩
          change after.setting = origin.onCard.under (services 0)
          rw [onCard]
          exact setting
  | loaded current differs setting set =>
      exact ⟨⟨true, after.clocks⟩, after, reached, ⟨⟨services 0, sameServices, setting⟩, off, rfl,
        fun unloaded => absurd unloaded (by simp)⟩, .loaded current differs _ rfl set⟩
  | quiet current same setting clocks quiet =>
      refine ⟨⟨true, after.clocks⟩, after, reached, ⟨⟨services 0, sameServices, setting⟩, off, rfl,
        fun unloaded => absurd unloaded (by simp)⟩, .quiet current same ⟨?_, rfl⟩⟩
      rw [clocks]
      exact Clocks.refresh_fresh _

def Setting.loopAfter (origin : Setting) (loop : ControlLoop) (count : Nat) : ControlLoop :=
  (ControlLoop.tick origin.plan origin.onCard.plan)^[count] loop

/-- Every later tick follows the loop. -/
theorem Undisturbed.follows (undisturbed : Undisturbed display services start)
    (safe : Unthrottled services start) {loop : ControlLoop} {state : Sys} (reached : afterTicks services start 1 = .ok state)
    (follows : Follows (start.origin (services 0)) loop state) (count : Nat) :
    ∃ later, afterTicks services start (count + 1) = .ok later ∧
      Follows (start.origin (services 0)) ((start.origin (services 0)).loopAfter loop count)
        later := by
  induction count with
  | zero => exact ⟨state, reached, follows⟩
  | succ count ih =>
      obtain ⟨later, laterReached, laterFollows⟩ := ih
      obtain ⟨after, finished, afterFollows, -⟩ := laterFollows.tick undisturbed.origin
        (undisturbed.same (count + 1)) (safe (count + 1) later laterReached)
      refine ⟨after, afterTicks_succ laterReached finished, ?_⟩
      rw [Setting.loopAfter, Function.iterate_succ_apply']
      exact afterFollows

/-- A later tick is quiet exactly where the loop is. -/
theorem Undisturbed.quiet_iff (undisturbed : Undisturbed display services start)
    (safe : Unthrottled services start) {loop : ControlLoop} {state : Sys} (reached : afterTicks services start 1 = .ok state)
    (follows : Follows (start.origin (services 0)) loop state) (count : Nat) :
    (∃ later after, afterTicks services start (count + 1) = .ok later ∧
        (later.observing (services (count + 1))).QuietTick after) ↔
      ((start.origin (services 0)).loopAfter loop count).Quiet := by
  obtain ⟨later, laterReached, laterFollows⟩ := undisturbed.follows safe reached follows count
  obtain ⟨-, -, -, quiet⟩ := laterFollows.tick undisturbed.origin
    (undisturbed.same (count + 1)) (safe (count + 1) later laterReached)
  rw [← quiet]
  constructor
  · rintro ⟨found, after, foundReached, isQuiet⟩
    rw [laterReached] at foundReached
    cases foundReached
    exact ⟨after, isQuiet⟩
  · rintro ⟨after, isQuiet⟩
    exact ⟨later, after, laterReached, isQuiet⟩

/-- What the plan reads back is what the display shows. -/
theorem Undisturbed.reads_iff (undisturbed : Undisturbed display services start) {setting : Setting}
    (board : setting.board = start.setting.board) :
    setting.plan.Reads ↔ setting.ReadsBack display := by
  unfold Plan.Reads Setting.ReadsBack
  simp only [Setting.plan, decide_eq_true_eq]
  refine imp_congr_right fun _ => imp_congr_right fun target => ?_
  rw [← display.normalisedRate_eq_self_iff, undisturbed.reads _ target 0, board,
    Option.some.injEq]

theorem Undisturbed.answers (undisturbed : Undisturbed display services start) {setting : Setting}
    (board : setting.board = start.setting.board) (hz : Nat) (asked : hz ≠ 0) :
    setting.plan.readback hz ≠ 0 := by
  have normalised := undisturbed.reads hz asked 0
  rw [← board] at normalised
  exact Display.normalisedRate_ne_zero normalised

namespace Begins

variable {origin : Setting} {observed : Sys} {loop : ControlLoop}

/-- Under plans that read back the loop is quiet in the end. -/
theorem quiet_of_settles (begins : Begins origin observed loop)
    (settles : (¬observed.OutOfDate ∧
        (origin.config.refresh origin.services.configFile).1 = false) ∨
      (origin.onCard.plan.Reads ∧ (observed.OutOfDate → origin.plan.Reads)))
    {count : Nat} (late : 7 ≤ count) : (origin.loopAfter loop count).Quiet := by
  unfold Setting.loopAfter
  cases begins with
  | quiet current same quiet =>
      rw [quiet.iterate]
      exact quiet
  | loaded current differs clocks isLoaded set =>
      rcases settles with ⟨-, same⟩ | ⟨reads, -⟩
      · rw [same] at differs
        exact absurd differs Bool.false_ne_true
      · exact ControlLoop.quiet_of_reads (fun unloaded => absurd (isLoaded.symm.trans unloaded)
          (by simp)) reads late
  | refreshed stale clocks isLoaded set =>
      rcases settles with ⟨current, -⟩ | ⟨reads, readsBefore⟩
      · exact absurd stale current
      · exact ControlLoop.quiet_of_reads (fun _ => readsBefore stale) reads late

/-- A loop that began with setting the clocks and is quiet in the end has plans that read back. -/
theorem settles_of_quiet (begins : Begins origin observed loop)
    (answers : ∀ hz, hz ≠ 0 → origin.plan.readback hz ≠ 0) (first : Nat)
    (quiet : ∀ count, first ≤ count → (origin.loopAfter loop count).Quiet) :
    (¬observed.OutOfDate ∧ (origin.config.refresh origin.services.configFile).1 = false) ∨
      (origin.onCard.plan.Reads ∧ (observed.OutOfDate → origin.plan.Reads)) := by
  have atFirst : (origin.loopAfter loop first).Quiet := quiet first (Nat.le_refl first)
  cases begins with
  | quiet current same _ => exact .inl ⟨current, same⟩
  | loaded current differs clocks isLoaded set =>
      refine .inr ⟨Classical.byContradiction fun unread => ?_, fun stale => absurd stale current⟩
      refine ControlLoop.never_quiet unread answers (fun rests => ?_) first atFirst
      have fresh := rests.1
      rw [set] at fresh
      exact Clocks.setClocks_stale unread answers _ fresh
  | refreshed stale clocks isLoaded set =>
      have busy (unread : ¬origin.plan.Reads) : ¬loop.clocks.Fresh := by
        rw [set]
        exact Clocks.setClocks_stale unread answers _
      have readsOnCard : origin.onCard.plan.Reads := by
        refine Classical.byContradiction fun unread => ?_
        refine ControlLoop.never_quiet unread answers (fun rests => ?_) first atFirst
        have same : (origin.config.refresh origin.services.configFile).1 = false := by
          simpa [rests.2] using isLoaded
        rw [Setting.onCard_of_same same] at unread
        exact busy unread rests.1
      refine .inr ⟨readsOnCard, fun _ => Classical.byContradiction fun unread => ?_⟩
      cases asks : (origin.config.refresh origin.services.configFile).1 with
      | true =>
          rw [asks] at isLoaded
          have loaded := atFirst.2
          rw [Setting.loopAfter,
            (ControlLoop.never_loads unread answers (busy unread) isLoaded first).2] at loaded
          exact absurd loaded Bool.false_ne_true
      | false =>
          rw [Setting.onCard_of_same asks] at readsOnCard
          exact unread readsOnCard

end Begins

theorem Undisturbed.settles_iff (undisturbed : Undisturbed display services start) :
    (start.observing (services 0)).Settles display ↔
      (¬(start.observing (services 0)).OutOfDate ∧
        ((start.origin (services 0)).config.refresh (services 0).configFile).1 = false) ∨
      ((start.origin (services 0)).onCard.plan.Reads ∧
        ((start.observing (services 0)).OutOfDate → (start.origin (services 0)).plan.Reads)) := by
  have board : (start.origin (services 0)).board = start.setting.board := rfl
  have boardOnCard : (start.origin (services 0)).onCard.board = start.setting.board := rfl
  rw [undisturbed.reads_iff board, undisturbed.reads_iff boardOnCard]
  exact Iff.rfl

theorem Undisturbed.quietFrom (undisturbed : Undisturbed display services start)
    (safe : Unthrottled services start)
    (settles : (start.observing (services 0)).Settles display) : QuietFrom services start 8 := by
  obtain ⟨loop, state, reached, follows, begins⟩ := undisturbed.begins (safe 0 start rfl)
  intro count late
  obtain ⟨before, rfl⟩ := Nat.exists_eq_add_of_le' (by omega : 1 ≤ count)
  exact (undisturbed.quiet_iff safe reached follows before).mpr
    (begins.quiet_of_settles (undisturbed.settles_iff.mp settles) (by omega))

theorem Undisturbed.settles (undisturbed : Undisturbed display services start)
    (safe : Unthrottled services start) {first : Nat} (quiet : QuietFrom services start first) :
    (start.observing (services 0)).Settles display := by
  obtain ⟨loop, state, reached, follows, begins⟩ := undisturbed.begins (safe 0 start rfl)
  refine undisturbed.settles_iff.mpr
    (begins.settles_of_quiet (undisturbed.answers rfl) first fun count late => ?_)
  exact (undisturbed.quiet_iff safe reached follows count).mp (quiet (count + 1) (by omega))

/-- From the eighth tick on, whatever was cached, the ticks are quiet exactly where the display target
reads back or nothing was out of date from the start. -/
theorem clocks_settle_iff (undisturbed : Undisturbed display services start)
    (safe : Unthrottled services start) {first : Nat} (late : 8 ≤ first) :
    QuietFrom services start first ↔ (start.observing (services 0)).Settles display := by
  constructor
  · exact undisturbed.settles safe
  · intro settles count after
    exact undisturbed.quietFrom safe settles count (Nat.le_trans late after)

/-- Settings under which the safety features do not fire are all that is reached. -/
theorem Undisturbed.unthrottled (undisturbed : Undisturbed display services start)
    (first : safetyFires (start.setting.under (services 0)) = false)
    (later : ∀ loaded count, safetyFires
      (((start.origin (services 0)).inForce loaded).under (services count)) = false) :
    Unthrottled services start := by
  obtain ⟨loop, second, reached, follows, -⟩ := undisturbed.begins first
  have following (count : Nat) : ∃ loop state, afterTicks services start (count + 1) = .ok state ∧
      Follows (start.origin (services 0)) loop state := by
    induction count with
    | zero => exact ⟨loop, second, reached, follows⟩
    | succ count ih =>
        obtain ⟨loop, state, stateReached, stateFollows⟩ := ih
        have safe : safetyFires (state.observing (services (count + 1))).setting = false := by
          rw [stateFollows.observed]
          exact later loop.loaded (count + 1)
        obtain ⟨after, finished, afterFollows, -⟩ := stateFollows.tick undisturbed.origin
          (undisturbed.same (count + 1)) safe
        exact ⟨_, after, afterTicks_succ stateReached finished, afterFollows⟩
  intro count state isReached
  cases count with
  | zero =>
      cases isReached
      exact first
  | succ count =>
      obtain ⟨loop, found, foundReached, foundFollows⟩ := following count
      rw [isReached] at foundReached
      cases foundReached
      rw [foundFollows.observed]
      exact later loop.loaded (count + 1)

end

/-- A console whose display is to be overwritten with a rate, nothing cached yet. -/
def overwrittenDisplay (rate : Nat) : Sys :=
  let board : Board := { sampleBoard with displayReadback := fun asked _ => handheldRate 4 asked }
  let setting := { sampleSetting with board }
  Sys.initial ((setting.withValue .overwriteRefreshRate 1).withOverride .display rate) sampleRates []

theorem overwrittenDisplay_undisturbed (rate : Nat) :
    Undisturbed handheldDisplay (fun _ => sampleServices) (overwrittenDisplay rate) := by
  set origin := (overwrittenDisplay rate).origin sampleServices with originDef
  have sameOnCard : origin.onCard = origin := Setting.onCard_of_same rfl
  have noTarget : resolveTargetHz origin .governor true = 0 := rfl
  have ungoverned : origin.NoGovernor := by
    unfold Setting.NoGovernor
    rw [noTarget]
    decide
  refine ⟨fun _ => ⟨rfl, rfl, rfl, rfl, rfl⟩, by decide, ⟨⟨rfl, rfl, rfl⟩, rfl, rfl, rfl⟩, ungoverned,
    ?_, ?_, ?_, fun asked _ before => rfl⟩
  · rw [← originDef, sameOnCard]
    exact ungoverned
  · intro module clock
    cases module with
    | cpu => exact List.cons_ne_nil _ _
    | gpu => exact List.cons_ne_nil _ _
    | mem => exact List.cons_ne_nil _ _
    | governor => exact absurd clock (by decide)
    | display => exact absurd clock (by decide)
  · intro module clock
    cases module with
    | cpu => exact ⟨1020000000, by decide, rfl⟩
    | gpu => exact ⟨230400000, by decide, rfl⟩
    | mem => exact ⟨1600000000, by decide, rfl⟩
    | governor => exact absurd clock (by decide)
    | display => exact absurd clock (by decide)

theorem overwrittenDisplay_unthrottled (rate : Nat) :
    Unthrottled (fun _ => sampleServices) (overwrittenDisplay rate) := by
  have calm : safetyFires (overwrittenDisplay 0).setting = false := by decide +kernel
  refine (overwrittenDisplay_undisturbed rate).unthrottled calm fun loaded count => ?_
  cases loaded with
  | true => exact calm
  | false => exact calm

/-- At 50 Hz, which the panel shows, the clocks come to rest. -/
theorem clocks_settle_at_50 :
    QuietFrom (fun _ => sampleServices) (overwrittenDisplay 50) 8 := by
  refine (clocks_settle_iff (overwrittenDisplay_undisturbed 50) (overwrittenDisplay_unthrottled 50)
    (Nat.le_refl 8)).mpr (.inr ⟨?_, ?_⟩)
  · exact fun _ _ => ⟨by decide, by decide⟩
  · exact fun _ _ _ => ⟨by decide, by decide⟩

/-- At 30 Hz the panel runs at 60, and the cache is out of date after every tick. -/
theorem clocks_never_settle_at_30 :
    Undisturbed handheldDisplay (fun _ => sampleServices) (overwrittenDisplay 30) ∧
      Unthrottled (fun _ => sampleServices) (overwrittenDisplay 30) ∧
      ∀ first, ¬QuietFrom (fun _ => sampleServices) (overwrittenDisplay 30) first := by
  refine ⟨overwrittenDisplay_undisturbed 30, overwrittenDisplay_unthrottled 30, fun first quiet => ?_⟩
  have settles := (overwrittenDisplay_undisturbed 30).settles (overwrittenDisplay_unthrottled 30) quiet
  have stale : ((overwrittenDisplay 30).observing sampleServices).OutOfDate := by
    refine .inr ⟨.cpu, .inl ⟨by decide, by decide⟩⟩
  rcases settles with ⟨current, -⟩ | ⟨-, reads⟩
  · exact current stale
  · have shows := (reads stale (by decide) (by decide)).1
    exact absurd shows (by decide)

end HorizonOc.Sysmodule
