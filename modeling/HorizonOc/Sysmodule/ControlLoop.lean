import HorizonOc.Sysmodule.Types
import Mathlib.Logic.Function.Basic
import Mathlib.Logic.Function.Iterate
import Mathlib.Tactic.Set

namespace HorizonOc.Sysmodule

/-! The clock control as a loop: rates are compared with a cache, and where one differs all are
set again by a plan. -/

/-- What a configuration makes of each module, with what a refresh rate reads back as. -/
structure Plan where
  wanted : Module → Option Nat
  stock : Module → Nat
  hijacks : Bool
  memTarget : Nat
  loweredGpu : Nat
  overwrites : Bool
  displayTarget : Nat
  readback : Nat → Nat

/-- The target of the display is a rate that reads back. -/
def Plan.Reads (plan : Plan) : Prop :=
  plan.overwrites = true → plan.displayTarget ≠ 0 →
    plan.readback plan.displayTarget = plan.displayTarget

/-- The rates in force and the cached ones. -/
@[ext] structure Clocks where
  rate : Module → Nat
  freqs : Module → Nat

namespace Clocks

/-- The governor's rate is the CPU's. -/
def hz (clocks : Clocks) : Module → Nat
  | .governor => clocks.rate .cpu
  | module => clocks.rate module

def setRate (clocks : Clocks) (module : Module) (hz : Nat) : Clocks :=
  { clocks with rate := Function.update clocks.rate module hz }

def cache (clocks : Clocks) (module : Module) (hz : Nat) : Clocks :=
  { clocks with freqs := Function.update clocks.freqs module hz }

def setClock (clocks : Clocks) (plan : Plan) (module : Module) : Clocks :=
  match plan.wanted module with
  | some hz =>
      if hz = clocks.freqs module then clocks else (clocks.setRate module hz).cache module hz
  | none => clocks.setRate module (plan.stock module)

/-- A memory that is lowered, or reset, takes the GPU with it under the hijack. -/
def setMemory (clocks : Clocks) (plan : Plan) : Clocks :=
  let after := clocks.setClock plan .mem
  match plan.wanted .mem with
  | some hz =>
      if plan.hijacks ∧ hz ≠ clocks.freqs .mem ∧ plan.memTarget < clocks.rate .mem then
        after.setRate .gpu plan.loweredGpu
      else after
  | none =>
      if plan.hijacks then after.setRate .gpu ((plan.wanted .gpu).getD (plan.stock .gpu))
      else after

/-- The target is cached as it was asked for. -/
def setDisplay (clocks : Clocks) (plan : Plan) : Clocks :=
  if plan.overwrites then
    if plan.displayTarget ≠ 0 then
      (clocks.setRate .display (plan.readback plan.displayTarget)).cache .display
        plan.displayTarget
    else clocks.setRate .display (plan.readback 60)
  else clocks

def pass (plan : Plan) (clocks : Clocks) : Module → Clocks
  | .cpu => clocks.setClock plan .cpu
  | .gpu => clocks.setClock plan .gpu
  | .mem => clocks.setMemory plan
  | .governor => clocks
  | .display => clocks.setDisplay plan

def setClocks (clocks : Clocks) (plan : Plan) : Clocks := Module.all.foldl (pass plan) clocks

/-- Takes over every rate that is not 0. -/
def refresh (clocks : Clocks) : Clocks :=
  { clocks with freqs := fun module =>
      if clocks.hz module ≠ 0 then clocks.hz module else clocks.freqs module }

def FreshAt (clocks : Clocks) (module : Module) : Prop :=
  clocks.hz module = 0 ∨ clocks.hz module = clocks.freqs module

instance (clocks : Clocks) (module : Module) : Decidable (clocks.FreshAt module) :=
  inferInstanceAs (Decidable (_ ∨ _))

def Fresh (clocks : Clocks) : Prop := ∀ module, clocks.FreshAt module

instance (clocks : Clocks) : Decidable clocks.Fresh :=
  decidable_of_iff (∀ module ∈ Module.all, clocks.FreshAt module)
    ⟨fun fresh module => fresh module (Module.mem_all module), fun fresh module _ => fresh module⟩

section

variable (clocks : Clocks) (module other : Module) (hz : Nat)

@[simp] theorem setRate_rate :
    (clocks.setRate module hz).rate = Function.update clocks.rate module hz := rfl

@[simp] theorem setRate_freqs : (clocks.setRate module hz).freqs = clocks.freqs := rfl

@[simp] theorem cache_rate : (clocks.cache module hz).rate = clocks.rate := rfl

@[simp] theorem cache_freqs :
    (clocks.cache module hz).freqs = Function.update clocks.freqs module hz := rfl

@[simp] theorem refresh_rate : clocks.refresh.rate = clocks.rate := rfl

@[simp] theorem refresh_hz : clocks.refresh.hz = clocks.hz := by
  funext module
  cases module <;> rfl

theorem hz_of_ne (notGovernor : module ≠ .governor) : clocks.hz module = clocks.rate module := by
  cases module with
  | governor => contradiction
  | _ => rfl

@[simp] theorem setRate_setRate (later : Nat) :
    (clocks.setRate module hz).setRate module later = clocks.setRate module later := by
  simp [setRate]

/-- Setting a rate to what it is. -/
theorem setRate_self (same : clocks.rate module = hz) : clocks.setRate module hz = clocks := by
  subst same
  simp [setRate]

end

variable {clocks : Clocks} {plan : Plan} {module other : Module}

theorem setClocks_eq (clocks : Clocks) (plan : Plan) : clocks.setClocks plan =
    (((clocks.setClock plan .cpu).setClock plan .gpu).setMemory plan).setDisplay plan := rfl

theorem setClock_cached {hz : Nat} (wanted : plan.wanted module = some hz)
    (same : hz = clocks.freqs module) : clocks.setClock plan module = clocks := by
  unfold setClock
  rw [wanted]
  exact if_pos same

theorem setClock_wanted {hz : Nat} (wanted : plan.wanted module = some hz)
    (differs : hz ≠ clocks.freqs module) :
    clocks.setClock plan module = (clocks.setRate module hz).cache module hz := by
  unfold setClock
  rw [wanted]
  exact if_neg differs

theorem setMemory_cached {hz : Nat} (wanted : plan.wanted .mem = some hz)
    (same : hz = clocks.freqs .mem) : clocks.setMemory plan = clocks := by
  unfold setMemory
  rw [setClock_cached wanted same, wanted]
  exact if_neg fun lowers => lowers.2.1 same

theorem setMemory_wanted {hz : Nat} (wanted : plan.wanted .mem = some hz)
    (differs : hz ≠ clocks.freqs .mem) :
    clocks.setMemory plan =
      if plan.hijacks ∧ plan.memTarget < clocks.rate .mem then
        ((clocks.setRate .mem hz).cache .mem hz).setRate .gpu plan.loweredGpu
      else (clocks.setRate .mem hz).cache .mem hz := by
  unfold setMemory
  rw [setClock_wanted wanted differs, wanted]
  simp [differs]

theorem setDisplay_kept (keeps : plan.overwrites = false) : clocks.setDisplay plan = clocks := by
  unfold setDisplay
  rw [if_neg (by simp [keeps])]

theorem setDisplay_target (overwrites : plan.overwrites = true) (target : plan.displayTarget ≠ 0) :
    clocks.setDisplay plan =
      (clocks.setRate .display (plan.readback plan.displayTarget)).cache .display
        plan.displayTarget := by
  unfold setDisplay
  rw [if_pos overwrites, if_pos target]

theorem setDisplay_reset (overwrites : plan.overwrites = true) (noTarget : plan.displayTarget = 0) :
    clocks.setDisplay plan = clocks.setRate .display (plan.readback 60) := by
  unfold setDisplay
  rw [if_pos overwrites, if_neg (by simp [noTarget])]

theorem refresh_fresh (clocks : Clocks) : clocks.refresh.Fresh := by
  intro module
  rw [FreshAt, refresh_hz]
  by_cases zero : clocks.hz module = 0
  · exact .inl zero
  · right
    simp [refresh, zero]

theorem Fresh.refresh_eq (fresh : clocks.Fresh) : clocks.refresh = clocks := by
  have freqs : clocks.refresh.freqs = clocks.freqs := by
    funext module
    rcases fresh module with zero | same
    · simp [refresh, zero]
    · simp only [refresh, same, ite_not]
      split
      · rfl
      · rfl
  exact Clocks.ext rfl freqs

structure AgreeAt (module : Module) (clocks later : Clocks) : Prop where
  rate : later.rate module = clocks.rate module
  freqs : later.freqs module = clocks.freqs module

theorem AgreeAt.trans {middle later : Clocks} (first : AgreeAt module clocks middle)
    (second : AgreeAt module middle later) : AgreeAt module clocks later :=
  ⟨second.rate.trans first.rate, second.freqs.trans first.freqs⟩

theorem AgreeAt.freshAt {later : Clocks} (agree : AgreeAt module clocks later)
    (notGovernor : module ≠ .governor) (fresh : clocks.FreshAt module) : later.FreshAt module := by
  unfold FreshAt at fresh ⊢
  rw [hz_of_ne _ _ notGovernor] at fresh ⊢
  rw [agree.rate, agree.freqs]
  exact fresh

theorem setRate_agrees (differs : other ≠ module) (hz : Nat) :
    AgreeAt other clocks (clocks.setRate module hz) :=
  ⟨Function.update_of_ne differs _ _, rfl⟩

theorem setClock_agrees (differs : other ≠ module) :
    AgreeAt other clocks (clocks.setClock plan module) := by
  unfold setClock
  cases plan.wanted module with
  | none => exact setRate_agrees differs _
  | some hz =>
      dsimp only
      split
      · exact ⟨rfl, rfl⟩
      · exact ⟨Function.update_of_ne differs _ _, Function.update_of_ne differs _ _⟩

/-- The memory's pass leaves of the memory what setting it leaves. -/
theorem setMemory_agrees_setClock (notGpu : other ≠ .gpu) :
    AgreeAt other (clocks.setClock plan .mem) (clocks.setMemory plan) := by
  unfold setMemory
  cases plan.wanted .mem with
  | none =>
      dsimp only
      split
      · exact setRate_agrees notGpu _
      · exact ⟨rfl, rfl⟩
  | some hz =>
      dsimp only
      split
      · exact setRate_agrees notGpu _
      · exact ⟨rfl, rfl⟩

theorem setMemory_agrees (notMem : other ≠ .mem) (notGpu : other ≠ .gpu) :
    AgreeAt other clocks (clocks.setMemory plan) :=
  (setClock_agrees notMem).trans (setMemory_agrees_setClock notGpu)

theorem setDisplay_agrees (differs : other ≠ .display) :
    AgreeAt other clocks (clocks.setDisplay plan) := by
  unfold setDisplay
  split
  · split
    · exact ⟨Function.update_of_ne differs _ _, Function.update_of_ne differs _ _⟩
    · exact setRate_agrees differs _
  · exact ⟨rfl, rfl⟩

/-- A wanted rate is cached, and the rate in force unless that reads 0; without one it is stock. -/
def Held (clocks : Clocks) (plan : Plan) (module : Module) : Prop :=
  match plan.wanted module with
  | some hz => clocks.freqs module = hz ∧ (clocks.rate module = 0 ∨ clocks.rate module = hz)
  | none => clocks.rate module = plan.stock module

theorem AgreeAt.held {later : Clocks} (agree : AgreeAt module clocks later)
    (held : clocks.Held plan module) : later.Held plan module := by
  unfold Held at held ⊢
  rw [agree.rate, agree.freqs]
  exact held

theorem setClock_held (notGovernor : module ≠ .governor) (fresh : clocks.FreshAt module) :
    (clocks.setClock plan module).Held plan module := by
  unfold FreshAt at fresh
  rw [hz_of_ne clocks module notGovernor] at fresh
  unfold Held setClock
  cases plan.wanted module with
  | none => simp
  | some hz =>
      dsimp only
      split
      · rename_i same
        exact ⟨same.symm, fresh.imp_right fun cached => cached.trans same.symm⟩
      · simp

theorem Held.setClock_eq (held : clocks.Held plan module) :
    clocks.setClock plan module = clocks := by
  unfold Held at held
  unfold setClock
  cases wanted : plan.wanted module with
  | none =>
      rw [wanted] at held
      exact setRate_self _ _ _ held
  | some hz =>
      rw [wanted] at held
      exact if_pos held.1.symm

theorem Held.refresh (held : clocks.Held plan module) (notGovernor : module ≠ .governor) :
    clocks.refresh.Held plan module := by
  unfold Held at held ⊢
  cases wanted : plan.wanted module with
  | none =>
      rw [wanted] at held
      exact held
  | some hz =>
      rw [wanted] at held
      obtain ⟨cached, zero | same⟩ := held
      · refine ⟨?_, .inl zero⟩
        simp [Clocks.refresh, hz_of_ne clocks module notGovernor, zero, cached]
      · refine ⟨?_, .inr same⟩
        simp [Clocks.refresh, hz_of_ne clocks module notGovernor, same, cached]

/-- A held memory is not lowered, so that its pass keeps the GPU held. -/
theorem Held.setMemory_eq (held : clocks.Held plan .mem) (gpu : clocks.Held plan .gpu) :
    (clocks.setMemory plan).Held plan .gpu ∧
      (clocks.FreshAt .gpu → (clocks.setMemory plan).FreshAt .gpu) := by
  unfold setMemory
  rw [held.setClock_eq]
  unfold Held at held
  cases wanted : plan.wanted .mem with
  | some hz =>
      rw [wanted] at held
      dsimp only
      rw [if_neg fun lowers => lowers.2.1 held.1.symm]
      exact ⟨gpu, id⟩
  | none =>
      dsimp only
      split
      · unfold Held at gpu ⊢
        cases wantedGpu : plan.wanted .gpu with
        | none =>
            rw [wantedGpu] at gpu
            rw [setRate_self _ _ _ (by exact gpu)]
            exact ⟨gpu, id⟩
        | some hz =>
            rw [wantedGpu] at gpu
            have set : (clocks.setRate .gpu hz).rate .gpu = hz := by simp
            exact ⟨⟨gpu.1, .inr set⟩, fun _ => .inr (set.trans gpu.1.symm)⟩
      · exact ⟨gpu, id⟩

/-- What every setting of the clocks leaves. -/
structure Passed (clocks : Clocks) (plan : Plan) : Prop where
  cpu : clocks.Held plan .cpu
  mem : clocks.Held plan .mem
  display : plan.overwrites = true → clocks.rate .display =
    plan.readback (if plan.displayTarget ≠ 0 then plan.displayTarget else 60)

theorem setClocks_passed (fresh : clocks.Fresh) : (clocks.setClocks plan).Passed plan := by
  have cpuSet : (clocks.setClock plan .cpu).Held plan .cpu := setClock_held (by decide) (fresh .cpu)
  have gpuSpares : AgreeAt .cpu (clocks.setClock plan .cpu)
      ((clocks.setClock plan .cpu).setClock plan .gpu) := setClock_agrees (by decide)
  have memFresh : ((clocks.setClock plan .cpu).setClock plan .gpu).FreshAt .mem :=
    ((setClock_agrees (by decide)).trans (setClock_agrees (by decide))).freshAt (by decide)
      (fresh .mem)
  have memSet : (((clocks.setClock plan .cpu).setClock plan .gpu).setClock plan .mem).Held plan .mem :=
    setClock_held (by decide) memFresh
  refine ⟨?_, ?_, fun overwrites => ?_⟩
  · exact (gpuSpares.trans ((setMemory_agrees (by decide) (by decide)).trans
      (setDisplay_agrees (by decide)))).held cpuSet
  · exact ((setMemory_agrees_setClock (by decide)).trans (setDisplay_agrees (by decide))).held memSet
  · rw [setClocks_eq]
    unfold setDisplay
    rw [if_pos overwrites]
    split
    · simp
    · simp

theorem Passed.refresh (passed : clocks.Passed plan) : clocks.refresh.Passed plan :=
  ⟨passed.cpu.refresh (by decide), passed.mem.refresh (by decide), passed.display⟩

/-- The second setting leaves the CPU and the memory, and finds the GPU held. -/
theorem Passed.setClocks_held (passed : clocks.Passed plan) (fresh : clocks.FreshAt .gpu) :
    (clocks.setClocks plan).Held plan .gpu := by
  rw [setClocks_eq, passed.cpu.setClock_eq]
  have gpuSet : (clocks.setClock plan .gpu).Held plan .gpu := setClock_held (by decide) fresh
  have memHeld : (clocks.setClock plan .gpu).Held plan .mem :=
    (setClock_agrees (by decide)).held passed.mem
  exact (setDisplay_agrees (by decide)).held (memHeld.setMemory_eq gpuSet).1

/-- The third setting of clocks that are passed, with the GPU held, changes nothing that the next
refresh would take over. -/
theorem Passed.setClocks_fresh (passed : clocks.Passed plan) (gpu : clocks.Held plan .gpu)
    (reads : plan.Reads) (fresh : clocks.Fresh) : (clocks.setClocks plan).Fresh := by
  rw [setClocks_eq, passed.cpu.setClock_eq, gpu.setClock_eq]
  have memory : AgreeAt .mem clocks (clocks.setMemory plan) := by
    have agree : AgreeAt .mem (clocks.setClock plan .mem) (clocks.setMemory plan) :=
      setMemory_agrees_setClock (by decide)
    rwa [passed.mem.setClock_eq] at agree
  have others (other : Module) (notMem : other ≠ .mem) (notGpu : other ≠ .gpu)
      (notDisplay : other ≠ .display) :
      AgreeAt other clocks ((clocks.setMemory plan).setDisplay plan) :=
    (setMemory_agrees notMem notGpu).trans (setDisplay_agrees notDisplay)
  intro module
  cases module with
  | cpu =>
      exact (others .cpu (by decide) (by decide) (by decide)).freshAt (by decide) (fresh .cpu)
  | gpu =>
      have memFresh := (passed.mem.setMemory_eq gpu).2 (fresh .gpu)
      exact (setDisplay_agrees (by decide)).freshAt (by decide) memFresh
  | mem => exact (memory.trans (setDisplay_agrees (by decide))).freshAt (by decide) (fresh .mem)
  | governor =>
      have cpu := others .cpu (by decide) (by decide) (by decide)
      have governor := others .governor (by decide) (by decide) (by decide)
      have cpuSeen := fresh .governor
      unfold FreshAt Clocks.hz at cpuSeen ⊢
      rw [cpu.rate, governor.freqs]
      exact cpuSeen
  | display =>
      have spared : AgreeAt .display clocks (clocks.setMemory plan) :=
        setMemory_agrees (by decide) (by decide)
      unfold setDisplay
      split
      · rename_i overwrites
        split
        · rename_i target
          right
          simp [Clocks.hz, reads overwrites target]
        · rename_i noTarget
          have inForce := passed.display overwrites
          rw [if_neg noTarget, ← spared.rate] at inForce
          rw [setRate_self _ _ _ inForce]
          exact spared.freshAt (by decide) (fresh .display)
      · exact spared.freshAt (by decide) (fresh .display)

/-- A target that does not read back is out of date at once. -/
theorem setClocks_stale (unread : ¬plan.Reads) (answers : ∀ hz, hz ≠ 0 → plan.readback hz ≠ 0)
    (clocks : Clocks) : ¬(clocks.setClocks plan).Fresh := by
  obtain ⟨overwrites, target, differs⟩ : plan.overwrites = true ∧ plan.displayTarget ≠ 0 ∧
      plan.readback plan.displayTarget ≠ plan.displayTarget := by
    simpa [Plan.Reads] using unread
  intro fresh
  have display := fresh .display
  unfold FreshAt at display
  rw [setClocks_eq, setDisplay_target overwrites target] at display
  simp only [Clocks.hz, cache_rate, setRate_rate, Function.update_self, cache_freqs] at display
  exact display.elim (answers _ target) differs

end Clocks

/-- The loop, with a second plan that is loaded when the clocks are fresh for the first time. -/
structure ControlLoop where
  loaded : Bool
  clocks : Clocks

namespace ControlLoop

variable (before after : Plan)

def plan (loop : ControlLoop) : Plan := if loop.loaded then after else before

def tick (loop : ControlLoop) : ControlLoop :=
  if ¬loop.clocks.Fresh then
    { loop with clocks := loop.clocks.refresh.setClocks (loop.plan before after) }
  else if loop.loaded then loop
  else ⟨true, loop.clocks.refresh.setClocks after⟩

def Quiet (loop : ControlLoop) : Prop := loop.clocks.Fresh ∧ loop.loaded = true

variable {before after} {loop : ControlLoop}

theorem Quiet.tick_eq (quiet : loop.Quiet) : loop.tick before after = loop := by
  unfold tick
  rw [if_neg (not_not.mpr quiet.1), if_pos quiet.2]

theorem tick_stale (stale : ¬loop.clocks.Fresh) : loop.tick before after =
    ⟨loop.loaded, loop.clocks.refresh.setClocks (loop.plan before after)⟩ :=
  if_pos stale

theorem tick_load (fresh : loop.clocks.Fresh) (unloaded : loop.loaded = false) :
    loop.tick before after = ⟨true, loop.clocks.refresh.setClocks after⟩ := by
  unfold tick
  rw [if_neg (not_not.mpr fresh), if_neg (by simp [unloaded])]

/-- Some tick up to a bound finds the clocks fresh, and no plan was loaded before it. -/
def FreshWithin (before after : Plan) (loop : ControlLoop) (bound : Nat) : Prop :=
  ∃ count ≤ bound, ((tick before after)^[count] loop).clocks.Fresh ∧
    ((tick before after)^[count] loop).loaded = loop.loaded

theorem FreshWithin.of_tick {bound : Nat} (later : ¬loop.clocks.Fresh →
    FreshWithin before after (loop.tick before after) bound) :
    FreshWithin before after loop (bound + 1) := by
  by_cases fresh : loop.clocks.Fresh
  · exact ⟨0, Nat.zero_le _, fresh, rfl⟩
  · obtain ⟨count, early, found, same⟩ := later fresh
    refine ⟨count + 1, Nat.succ_le_succ early, found, same.trans ?_⟩
    rw [tick_stale fresh]

/-- Three settings bring the clocks to rest. -/
theorem freshWithin_three (reads : (loop.plan before after).Reads) :
    FreshWithin before after loop 3 := by
  refine .of_tick fun stale => .of_tick fun staleAgain => .of_tick fun staleThird => ?_
  rw [tick_stale stale] at staleAgain staleThird ⊢
  set plan := loop.plan before after
  set first : ControlLoop := ⟨loop.loaded, loop.clocks.refresh.setClocks plan⟩
  have firstPlan : first.plan before after = plan := rfl
  rw [tick_stale staleAgain, firstPlan] at staleThird ⊢
  set second : ControlLoop := ⟨first.loaded, first.clocks.refresh.setClocks plan⟩
  have secondPlan : second.plan before after = plan := rfl
  rw [tick_stale staleThird, secondPlan]
  have passed : first.clocks.Passed plan := Clocks.setClocks_passed (Clocks.refresh_fresh _)
  have passedAgain : second.clocks.Passed plan := Clocks.setClocks_passed (Clocks.refresh_fresh _)
  have gpu : second.clocks.Held plan .gpu :=
    passed.refresh.setClocks_held (Clocks.refresh_fresh first.clocks .gpu)
  exact ⟨0, Nat.le_refl 0, passedAgain.refresh.setClocks_fresh (gpu.refresh (by decide)) reads
    (Clocks.refresh_fresh _), rfl⟩

theorem Quiet.iterate (quiet : loop.Quiet) (count : Nat) :
    (tick before after)^[count] loop = loop :=
  Function.iterate_fixed quiet.tick_eq count

/-- From the seventh tick on the loop is quiet. -/
theorem quiet_of_reads (readsBefore : loop.loaded = false → before.Reads) (readsAfter : after.Reads)
    {count : Nat} (late : 7 ≤ count) : ((tick before after)^[count] loop).Quiet := by
  suffices within : ∃ first ≤ 7, ((tick before after)^[first] loop).Quiet by
    obtain ⟨first, early, quiet⟩ := within
    obtain ⟨rest, rfl⟩ := Nat.exists_eq_add_of_le (Nat.le_trans early late)
    rw [Nat.add_comm, Function.iterate_add_apply, quiet.iterate]
    exact quiet
  have loadedQuiet (loop : ControlLoop) (loaded : loop.loaded = true) :
      ∃ first ≤ 3, ((tick before after)^[first] loop).Quiet := by
    have reads : (loop.plan before after).Reads := by
      rw [plan, if_pos loaded]
      exact readsAfter
    obtain ⟨first, early, fresh, same⟩ := freshWithin_three reads
    exact ⟨first, early, fresh, same.trans loaded⟩
  cases loaded : loop.loaded with
  | true =>
      obtain ⟨first, early, quiet⟩ := loadedQuiet loop loaded
      exact ⟨first, by omega, quiet⟩
  | false =>
      have reads : (loop.plan before after).Reads := by
        rw [plan, if_neg (by simp [loaded])]
        exact readsBefore loaded
      obtain ⟨first, early, fresh, same⟩ := freshWithin_three reads
      set found := (tick before after)^[first] loop with foundDef
      obtain ⟨second, soon, quiet⟩ := loadedQuiet (found.tick before after)
        (by rw [tick_load fresh (same.trans loaded)])
      refine ⟨second + (1 + first), by omega, ?_⟩
      rw [Function.iterate_add_apply, Function.iterate_add_apply, ← foundDef]
      exact quiet

/-- Where the later plan does not read back, a loop that is not quiet stays so. -/
theorem tick_not_quiet (unread : ¬after.Reads) (answers : ∀ hz, hz ≠ 0 → after.readback hz ≠ 0)
    (busy : ¬loop.Quiet) : ¬(loop.tick before after).Quiet := by
  by_cases fresh : loop.clocks.Fresh
  · have unloaded : loop.loaded = false := by
      cases loaded : loop.loaded with
      | true => exact absurd ⟨fresh, loaded⟩ busy
      | false => rfl
    rw [tick_load fresh unloaded]
    exact fun quiet => Clocks.setClocks_stale unread answers _ quiet.1
  · rw [tick_stale fresh]
    rintro ⟨again, loaded⟩
    rw [plan, if_pos loaded] at again
    exact Clocks.setClocks_stale unread answers _ again

/-- Clocks that the first plan keeps out of date never let the second be loaded. -/
theorem tick_never_loads (unread : ¬before.Reads) (answers : ∀ hz, hz ≠ 0 → before.readback hz ≠ 0)
    (stale : ¬loop.clocks.Fresh) (unloaded : loop.loaded = false) :
    ¬(loop.tick before after).clocks.Fresh ∧ (loop.tick before after).loaded = false := by
  rw [tick_stale stale, plan, if_neg (by simp [unloaded])]
  exact ⟨Clocks.setClocks_stale unread answers _, unloaded⟩

theorem never_quiet (unread : ¬after.Reads) (answers : ∀ hz, hz ≠ 0 → after.readback hz ≠ 0)
    (busy : ¬loop.Quiet) (count : Nat) : ¬((tick before after)^[count] loop).Quiet := by
  induction count with
  | zero => exact busy
  | succ count ih =>
      rw [Function.iterate_succ_apply']
      exact tick_not_quiet unread answers ih

theorem never_loads (unread : ¬before.Reads) (answers : ∀ hz, hz ≠ 0 → before.readback hz ≠ 0)
    (stale : ¬loop.clocks.Fresh) (unloaded : loop.loaded = false) (count : Nat) :
    ¬((tick before after)^[count] loop).clocks.Fresh ∧
      ((tick before after)^[count] loop).loaded = false := by
  induction count with
  | zero => exact ⟨stale, unloaded⟩
  | succ count ih =>
      rw [Function.iterate_succ_apply']
      exact tick_never_loads unread answers ih.1 ih.2

end ControlLoop

end HorizonOc.Sysmodule
