import HorizonOc.Data.Workers
import HorizonOc.Sysmodule.Frames

namespace HorizonOc.Sysmodule

open HorizonOc.Data

/-! The main loop and the three governor threads beside one another.  They share the state and
`gContextMutex`; each governor thread tests its flag before it takes the mutex. -/

inductive Thread where
  | main | cpuGovernor | gpuGovernor | vrr
deriving DecidableEq, Repr

def threads : Thread → Worker Sys Fault
  | .main => { enter := fun state => (state, state.setting.running), critical := tick }
  | .cpuGovernor => { enter := enterCpuGovernor, critical := pollCpuGovernor }
  | .gpuGovernor => { enter := enterGpuGovernor, critical := pollGpuGovernor }
  | .vrr => { enter := enterVrr, critical := pollVrr }

/-- The flag that `HandleGovernor` sets for a thread. -/
def threadEnabled : Thread → Sys → Bool
  | .main, _ => true
  | .cpuGovernor, state => state.governors.isCpuGovernorEnabled
  | .gpuGovernor, state => state.governors.isGpuGovernorEnabled
  | .vrr, state => state.governors.isVRREnabled

/-- What the rest of the system may do at any moment: answer differently, change the settings
through the IPC service, move the clocks. -/
def Outside (before after : Sys) : Prop :=
  ∃ setting rate, after = { before with setting, rate }

theorem setDisplayHz_keeps_governors (hz : Nat) :
    (setDisplayHz hz).Respects (Same Sys.governors) := by
  unfold setDisplayHz
  exact .bind (setHz_keeps_governors _ (by decide) _) fun _ => .update fun _ => rfl

theorem pollCpuGovernor_keeps_governors : pollCpuGovernor.Respects (Same Sys.governors) := by
  unfold pollCpuGovernor
  refine .bind .read fun state => .bind (.update fun _ => rfl) fun _ => ?_
  refine .bind (.when fun _ => ?_) fun _ => .sleep
  exact .bind (setHz_keeps_governors _ (by decide) _) fun _ => .update fun _ => rfl

theorem pollGpuGovernor_keeps_governors : pollGpuGovernor.Respects (Same Sys.governors) := by
  unfold pollGpuGovernor
  refine .bind .read fun state => .bind (.update fun _ => rfl) fun _ => ?_
  refine .bind (.when fun _ => ?_) fun _ => .sleep
  exact .bind (setHz_keeps_governors _ (by decide) _) fun _ => .update fun _ => rfl

theorem raiseDisplay_keeps_governors (maxDisplay : Nat) :
    (raiseDisplay maxDisplay).Respects (Same Sys.governors) := by
  unfold raiseDisplay
  refine .bind .read fun state => .ite ?_ (.update fun _ => rfl)
  refine .bind (setHz_keeps_governors _ (by decide) _) fun _ => ?_
  exact .bind (.update fun _ => rfl) fun _ => .sleep

theorem matchFrameRate_keeps_governors (fps minDisplay maxDisplay : Nat) :
    (matchFrameRate fps minDisplay maxDisplay).Respects (Same Sys.governors) := by
  unfold matchFrameRate
  refine .bind ?_ fun _ => .bind (raiseDisplay_keeps_governors maxDisplay) fun _ => .sleep
  cases vrrHz fps minDisplay maxDisplay with
  | none => exact .pure _
  | some hz => exact setDisplayHz_keeps_governors hz

theorem followFrameRate_keeps_governors : followFrameRate.Respects (Same Sys.governors) := by
  unfold followFrameRate
  refine .bind .read fun state => .ite .sleep (.when fun _ => ?_)
  exact matchFrameRate_keeps_governors _ _ _

theorem pollVrr_keeps_governors : pollVrr.Respects (Same Sys.governors) := by
  unfold pollVrr
  refine .bind (.update fun _ => rfl) fun _ => .bind .read fun state => .ite ?_ ?_
  · rcases state.setting.services.applicationOutOfFocus with - | focus
    · exact .sleep
    · cases focus with
      | false => exact followFrameRate_keeps_governors
      | true => exact .bind (displaySetRate_keeps_governors 60) fun _ => .sleep
  · exact followFrameRate_keeps_governors

theorem enter_tests (thread : Thread) (state : Sys)
    (goes : ((threads thread).enter state).2 = true) : threadEnabled thread state = true := by
  cases thread with
  | main => rfl
  | cpuGovernor =>
      cases enabled : state.governors.isCpuGovernorEnabled with
      | true => exact enabled
      | false => simp [threads, enterCpuGovernor, enabled] at goes
  | gpuGovernor =>
      cases enabled : state.governors.isGpuGovernorEnabled with
      | true => exact enabled
      | false => simp [threads, enterGpuGovernor, enabled] at goes
  | vrr =>
      cases enabled : state.governors.isVRREnabled with
      | true => exact enabled
      | false => simp [threads, enterVrr, enabled] at goes

/-- Entering hands on nothing and leaves the flags alone. -/
theorem enter_quiet (thread : Thread) (state : Sys) :
    ((threads thread).enter state).1.log = state.log ∧
      ((threads thread).enter state).1.rate = state.rate ∧
      ((threads thread).enter state).1.freqs = state.freqs ∧
      ∀ other, threadEnabled other ((threads thread).enter state).1 = threadEnabled other state := by
  cases thread with
  | main => exact ⟨rfl, rfl, rfl, fun _ => rfl⟩
  | vrr => exact ⟨rfl, rfl, rfl, fun _ => rfl⟩
  | gpuGovernor =>
      simp only [threads, enterGpuGovernor]
      split
      · exact ⟨rfl, rfl, rfl, fun other => by cases other <;> rfl⟩
      · exact ⟨rfl, rfl, rfl, fun other => by cases other <;> rfl⟩
  | cpuGovernor =>
      simp only [threads, enterCpuGovernor]
      split
      · exact ⟨rfl, rfl, rfl, fun other => by cases other <;> rfl⟩
      · split
        · exact ⟨rfl, rfl, rfl, fun other => by cases other <;> rfl⟩
        · exact ⟨rfl, rfl, rfl, fun other => by cases other <;> rfl⟩

theorem critical_keeps (thread : Thread) :
    (threads thread).critical.Respects (Same (threadEnabled thread)) := by
  have byGovernors : ∀ {program : SysProgram PUnit} (flag : Governors → Bool),
      program.Respects (Same Sys.governors) →
      program.Respects (Same fun state => flag state.governors) :=
    fun flag respected => respected.mono fun _ _ same => congrArg flag same
  cases thread with
  | main => exact .of_total (fun _ _ => rfl) tick
  | cpuGovernor => exact byGovernors (·.isCpuGovernorEnabled) pollCpuGovernor_keeps_governors
  | gpuGovernor => exact byGovernors (·.isGpuGovernorEnabled) pollGpuGovernor_keeps_governors
  | vrr => exact byGovernors (·.isVRREnabled) pollVrr_keeps_governors

theorem threads_gated : World.Gated threads Outside threadEnabled := by
  constructor
  · exact enter_tests
  · exact fun thread other state => (enter_quiet thread state).2.2.2 other
  · exact critical_keeps
  · rintro before after ⟨setting, rate, rfl⟩ thread
    cases thread <;> rfl

/-- In every run that turns no governor off while its thread waits for the mutex, a thread whose
governor is off hands on nothing. -/
theorem disabled_governor_silent {start : Sys} {world next : World Thread Sys Fault}
    {thread : Thread}
    (reached : World.Reaches threads Outside (World.SparesWaiting threadEnabled) (.idle start) world)
    (off : threadEnabled thread world.shared = false)
    (advanced : world.advance threads thread = some next) :
    next.shared.log = world.shared.log ∧ next.shared.rate = world.shared.rate ∧
      next.shared.freqs = world.shared.freqs := by
  have invariant := reached.gateInvariant threads_gated (World.gateInvariant_idle start)
  rw [invariant.advance_closed off advanced]
  obtain ⟨log, rate, freqs, -⟩ := enter_quiet thread world.shared
  exact ⟨log, rate, freqs⟩

def governorOverride (state : Sys) (word : Nat) : Sys :=
  { state with setting := { state.setting with config := { state.setting.config with
      overrideFreqs := Function.update state.setting.config.overrideFreqs .governor word } } }

theorem governorOverride_outside (state : Sys) (word : Nat) :
    Outside state (governorOverride state word) := ⟨_, _, rfl⟩

theorem governorOverride_spares (world : World Thread Sys Fault) (word : Nat) :
    World.SparesWaiting threadEnabled world .environment
      { world with shared := governorOverride world.shared word } := by
  intro thread _ opened
  rw [threads_gated.environment_keeps _ _ (governorOverride_outside world.shared word)]
  exact opened

def governedSample : Sys :=
  let services := { sampleServices with cpuMaxLoad := 900 }
  governorOverride (Sys.initial { sampleSetting with services } sampleRates [])
    ComponentGovernor.enabled.toNat

def sparesThreads : World Thread Sys Fault → World Thread Sys Fault → Bool :=
  World.sparesWaiting threadEnabled [.main, .cpuGovernor, .gpuGovernor, .vrr]

theorem sparesThreads_sound {world next : World Thread Sys Fault} {actor : Actor Thread}
    (spares : sparesThreads world next = true) :
    World.SparesWaiting threadEnabled world actor next :=
  World.sparesWaiting_sound (fun thread => by cases thread <;> decide) spares

/-- The first tick turns the CPU governor on, and its thread makes a whole pass. -/
def governorRuns : Option (World Thread Sys Fault) :=
  World.scheduleChecked threads sparesThreads (.idle governedSample)
    [.main, .main, .main, .cpuGovernor, .cpuGovernor, .cpuGovernor, .cpuGovernor]

/-- The user turns it off, and a tick does so while the thread is between two passes. -/
def governorRests : Option (World Thread Sys Fault) :=
  governorRuns.bind fun world =>
    World.scheduleChecked threads sparesThreads
      { world with shared := governorOverride world.shared ComponentGovernor.disabled.toNat }
      [.main, .main, .main, .main]

/-- The thread puts 1785 MHz on the CPU while its governor is on.  The tick that turns it off
goes back to 1020 MHz, and the thread leaves it there. -/
theorem disabled_governor_silent_sample :
    ∃ governed world next,
      World.Reaches threads Outside (World.SparesWaiting threadEnabled) (.idle governedSample)
        governed ∧
      threadEnabled .cpuGovernor governed.shared = true ∧
      lastHz .cpu governed.shared.log = some 1785000000 ∧
      World.Reaches threads Outside (World.SparesWaiting threadEnabled) governed world ∧
      threadEnabled .cpuGovernor world.shared = false ∧
      lastHz .cpu world.shared.log = some 1020000000 ∧
      world.advance threads .cpuGovernor = some next ∧
      next.shared.log = world.shared.log ∧ next.shared.rate = world.shared.rate ∧
      next.shared.freqs = world.shared.freqs := by
  have observed : (governorRuns.map fun world =>
      (threadEnabled .cpuGovernor world.shared, lastHz .cpu world.shared.log)) =
      some (true, some 1785000000) ∧
      (governorRests.map fun world =>
        (threadEnabled .cpuGovernor world.shared, lastHz .cpu world.shared.log,
          (world.advance threads .cpuGovernor).isSome)) =
      some (false, some 1020000000, true) := by decide +kernel
  simp only [Option.map_eq_some_iff, Prod.mk.injEq] at observed
  obtain ⟨⟨governed, runs, on, raised⟩, world, rests, off, restored, moves⟩ := observed
  obtain ⟨next, advanced⟩ := Option.isSome_iff_exists.mp moves
  rw [governorRests, runs, Option.bind_some] at rests
  have spared : ∀ world thread next, sparesThreads world next = true →
      World.SparesWaiting threadEnabled world (.worker thread) next :=
    fun _ _ _ => sparesThreads_sound
  have running : World.Reaches threads Outside (World.SparesWaiting threadEnabled)
      (.idle governedSample) governed := .scheduleChecked spared .start runs
  have turnedOff : World.Moves threads Outside governed .environment _ :=
    .environment (governorOverride_outside governed.shared ComponentGovernor.disabled.toNat)
  have stopped : World.Reaches threads Outside (World.SparesWaiting threadEnabled) governed world :=
    .scheduleChecked spared (.step .start turnedOff (governorOverride_spares governed _)) rests
  have reached : World.Reaches threads Outside (World.SparesWaiting threadEnabled)
      (.idle governedSample) world :=
    .scheduleChecked spared (running.step turnedOff (governorOverride_spares governed _)) rests
  exact ⟨governed, world, next, running, on, raised, stopped, off, restored, advanced,
    disabled_governor_silent reached off advanced⟩

/-- The other order: the thread has passed its test and waits for the mutex. -/
def governorStarts : Option (World Thread Sys Fault) :=
  World.schedule threads (.idle governedSample) [.main, .main, .main, .cpuGovernor]

def governorStops : Option (World Thread Sys Fault) :=
  governorStarts.bind fun world =>
    World.schedule threads
      { world with shared := governorOverride world.shared ComponentGovernor.disabled.toNat }
      [.main, .main, .main, .main]

theorem disabled_governor_speaks :
    ∃ world next, World.Reaches threads Outside (fun _ _ _ => True) (.idle governedSample) world ∧
      threadEnabled .cpuGovernor world.shared = false ∧ world.phase .main = .outside ∧
      lastHz .cpu world.shared.log = some 1020000000 ∧
      world.advance threads .cpuGovernor = some next ∧
      lastHz .cpu next.shared.log = some 1785000000 := by
  have observed : (governorStops.map fun world =>
      (threadEnabled .cpuGovernor world.shared, (world.phase .main).isOutside,
        lastHz .cpu world.shared.log,
        (world.advance threads .cpuGovernor).map fun next => lastHz .cpu next.shared.log)) =
      some (false, true, some 1020000000, some (some 1785000000)) := by decide +kernel
  obtain ⟨world, stops, observed⟩ := Option.map_eq_some_iff.mp observed
  simp only [Prod.mk.injEq, Option.map_eq_some_iff] at observed
  obtain ⟨off, outside, stock, next, advanced, last⟩ := observed
  rw [governorStops, Option.bind_eq_some_iff] at stops
  obtain ⟨started, starts, stops⟩ := stops
  refine ⟨world, next, ?_, off, Phase.eq_outside outside, stock, advanced, last⟩
  have running : World.Reaches threads Outside (fun _ _ _ => True) (.idle governedSample) started :=
    .schedule (fun _ _ _ => trivial) .start starts
  have turnedOff := governorOverride_outside started.shared ComponentGovernor.disabled.toNat
  exact .schedule (fun _ _ _ => trivial) (running.step (.environment turnedOff) trivial) stops

end HorizonOc.Sysmodule
