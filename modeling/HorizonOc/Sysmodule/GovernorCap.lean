import Mathlib.Data.List.Pairwise
import HorizonOc.Sysmodule.GovernorHold

namespace HorizonOc.Sysmodule

open HorizonOc.Data

section

variable {table : List Nat} {hz : Nat}

theorem tableHzForHz_mem (nonempty : table ≠ []) (hz : Nat) : tableHzForHz table hz ∈ table := by
  unfold tableHzForHz
  cases found : table.find? fun entry => hz ≤ entry with
  | none =>
      rw [Option.getD_none, List.getLastD_eq_getLast?, List.getLast?_eq_some_getLast nonempty]
      exact List.getLast_mem nonempty
  | some entry => exact List.mem_of_find?_eq_some found

theorem le_getLastD (ascending : table.Pairwise (· < ·)) {entry : Nat} (member : entry ∈ table) :
    entry ≤ table.getLastD 0 := by
  have upward : table.Pairwise (· ≤ ·) := ascending.imp Nat.le_of_lt
  rw [List.getLastD_eq_getLast?, List.getLast?_eq_some_getLast (List.ne_nil_of_mem member),
    Option.getD_some]
  exact upward.rel_getLast member

/-- No entry that reaches the rate is below the one it leads to. -/
theorem tableHzForHz_least (ascending : table.Pairwise (· < ·)) {entry : Nat}
    (member : entry ∈ table) (reaches : hz ≤ entry) : tableHzForHz table hz ≤ entry := by
  unfold tableHzForHz
  cases found : table.find? fun entry => hz ≤ entry with
  | none =>
      rw [List.find?_eq_none] at found
      exact absurd reaches (by simpa using found entry member)
  | some first =>
      obtain ⟨-, before, after, rfl, below⟩ := List.find?_eq_some_iff_append.mp found
      rcases List.mem_append.mp member with early | late
      · exact absurd reaches (by simpa using below entry early)
      · rcases List.mem_cons.mp late with rfl | later
        · exact Nat.le_refl entry
        · exact Nat.le_of_lt ((List.pairwise_cons.mp (List.pairwise_append.mp ascending).2.1).1 _ later)

/-- The entry reaches the rate, unless none does and it is the last. -/
theorem le_tableHzForHz_or_last (hz : Nat) :
    hz ≤ tableHzForHz table hz ∨
      tableHzForHz table hz = table.getLastD 0 ∧ ∀ entry ∈ table, entry < hz := by
  unfold tableHzForHz
  cases found : table.find? fun entry => hz ≤ entry with
  | none =>
      rw [List.find?_eq_none] at found
      exact .inr ⟨rfl, fun entry member => by simpa using found entry member⟩
  | some first => exact .inl (by simpa using List.find?_some found)

theorem tableHzForHz_mono (ascending : table.Pairwise (· < ·)) (nonempty : table ≠ [])
    {lower upper : Nat} (below : lower ≤ upper) :
    tableHzForHz table lower ≤ tableHzForHz table upper := by
  rcases @le_tableHzForHz_or_last table upper with reaches | ⟨last, -⟩
  · exact tableHzForHz_least ascending (tableHzForHz_mem nonempty upper) (Nat.le_trans below reaches)
  · rw [last]
    exact le_getLastD ascending (tableHzForHz_mem nonempty lower)

end

/-- The smaller of a target and a cap that are not zero. -/
def limitHz (targetHz maxHz : Nat) : Option Nat :=
  if targetHz = 0 then (if maxHz = 0 then none else some maxHz)
  else if maxHz = 0 then some targetHz
  else some (min targetHz maxHz)

/-- The target and the cap that a pass finds. -/
def Setting.limitHz (setting : Setting) (module : Module) : Option Nat :=
  Sysmodule.limitHz (resolveTargetHz setting module false)
    (getMaxAllowedHz setting module setting.profile)

/-- A rate is the table's, and not above the entry that the limit leads to. -/
structure WithinLimit (table : List Nat) (limit : Option Nat) (hz : Nat) : Prop where
  entry : hz ∈ table
  below : ∀ limitHz, limit = some limitHz → hz ≤ tableHzForHz table limitHz

instance (table : List Nat) (limit : Option Nat) (hz : Nat) :
    Decidable (WithinLimit table limit hz) :=
  decidable_of_iff (hz ∈ table ∧ ∀ limitHz ∈ limit.toList, hz ≤ tableHzForHz table limitHz)
    ⟨fun both => ⟨both.1, fun limitHz same => both.2 limitHz (by simp [same])⟩,
      fun within => ⟨within.entry, fun limitHz member => within.below limitHz (by simpa using member)⟩⟩

/-- What the load asks for is within the limit before the minimum comes in. -/
theorem governedHz_within {setting : Setting} {module : Module}
    (ascending : (setting.gFreqTable module).Pairwise (· < ·))
    (nonempty : setting.gFreqTable module ≠ []) (load : Nat) :
    WithinLimit (setting.gFreqTable module) (setting.limitHz module)
      (governedHz setting module load) where
  entry := tableHzForHz_mem nonempty _
  below := by
    intro limitHz limit
    refine tableHzForHz_mono ascending nonempty ?_
    simp only [Setting.limitHz, Sysmodule.limitHz] at limit
    grind

/-- The rate that the CPU's thread finds in its table. -/
def Sys.cpuTableHz (state : Sys) : Nat :=
  governedHz state.setting .cpu state.setting.services.cpuMaxLoad

/-- The minimum in force in a poll. -/
def Sys.cpuMinimumHz (state : Sys) : Nat := (state.cpuLocals.refreshMinimum state.setting).minHz

/-- The rate of a poll, once it was raised to the minimum. -/
def Sys.cpuRaisedHz (state : Sys) : Nat :=
  if state.cpuTableHz < state.cpuMinimumHz then state.cpuMinimumHz else state.cpuTableHz

def Sys.setsCpu (state : Sys) : Bool :=
  state.cpuLocals.sets .cpu state.cpuTableHz state.cpuRaisedHz

def Sys.handedCpu (state : Sys) : Option Nat :=
  if state.setsCpu then some state.cpuRaisedHz else none

/-- The locals after a poll. -/
def Sys.polledCpu (state : Sys) : GovernorLocals :=
  (state.cpuLocals.refreshMinimum state.setting).polled state.cpuTableHz state.handedCpu

theorem refreshMinimum_hold (locals : GovernorLocals) (setting : Setting) (foundHz : Nat) :
    (locals.refreshMinimum setting).hold foundHz = locals.hold foundHz := by
  unfold GovernorLocals.refreshMinimum
  split <;> rfl

/-- A poll always returns. -/
theorem pollCpuGovernor_returns (state : Sys) :
    pollCpuGovernor.Returns state.forget fun _ final =>
      final.cpuLocals = state.polledCpu ∧ lastHz .cpu final.log = state.handedCpu := by
  have hold := refreshMinimum_hold state.cpuLocals state.setting state.cpuTableHz
  unfold Sys.polledCpu GovernorLocals.polled pollCpuGovernor
  rw [hold]
  refine .read_bind (.update_bind ?_)
  by_cases sets : state.setsCpu = true
  · have taken : state.handedCpu = some state.cpuRaisedHz := if_pos sets
    rw [Program.when, if_pos (by exact sets), taken]
    refine .run_bind (.trans (Program.run_bind_of_ok _ (setHz_run (by decide) _ _)) rfl) ?_
    exact .of_run rfl ⟨rfl, rfl⟩
  · have kept : state.handedCpu = none := if_neg sets
    rw [Program.when, if_neg (by exact sets), kept]
    exact .of_run rfl ⟨rfl, rfl⟩

/-- What a poll of the CPU's governor finds, with the minimum that is stored and the one in force,
whether it comes to `SetHz`, and what it hands on. -/
structure CpuPoll where
  limit : Option Nat
  stored : Nat
  tableHz : Nat
  minimumHz : Nat
  sets : Bool
  handed : Option Nat
deriving DecidableEq, Repr

/-- A poll in a state, with the log that it leaves. -/
def Sys.cpuPoll (state : Sys) (log : List Effect) : CpuPoll :=
  { limit := state.setting.limitHz .cpu
    stored := state.setting.value .cpuGovernorMinimumFreq
    tableHz := state.cpuTableHz
    minimumHz := state.cpuMinimumHz
    sets := state.setsCpu
    handed := lastHz .cpu log }

/-- A pass of `CpuGovernorThread` over a table that stays, with the poll that it comes to.
Everything but its own locals may change before it begins and before it has the mutex. -/
inductive CpuPass (table : List Nat) : GovernorLocals → Option CpuPoll → GovernorLocals → Prop where
  | skip {start : Sys} (stops : (enterCpuGovernor start).2 = false) :
      CpuPass table start.cpuLocals none (enterCpuGovernor start).1.cpuLocals
  | poll {start locked final : Sys} (goesOn : (enterCpuGovernor start).2 = true)
      (own : locked.cpuLocals = (enterCpuGovernor start).1.cpuLocals)
      (tableStays : locked.setting.gFreqTable .cpu = table)
      (finished : pollCpuGovernor.run locked.forget = .ok (⟨⟩, final)) :
      CpuPass table start.cpuLocals (some (locked.cpuPoll final.log)) final.cpuLocals

/-- `612`, before the minimum was read. -/
def cpuGovernorStart : GovernorLocals :=
  { downHoldRemaining := 0, lastHz := 0, minHz := 612, tick := 0 }

/-- The polls of the thread from its start, the newest first. -/
inductive CpuRun (table : List Nat) : List CpuPoll → GovernorLocals → Prop where
  | start : CpuRun table [] cpuGovernorStart
  | pass {polls : List CpuPoll} {locals next : GovernorLocals} {found : Option CpuPoll}
      (before : CpuRun table polls locals) (passes : CpuPass table locals found next) :
      CpuRun table (found.toList ++ polls) next

/-- What a poll hands on is within the limit. -/
def CpuPoll.WithinLimit (table : List Nat) (poll : CpuPoll) : Prop :=
  ∀ hz, poll.handed = some hz → Sysmodule.WithinLimit table poll.limit hz

/-- The minimum does not raise the rate of a poll that sets one, or is within the limit itself. -/
def CpuPoll.MinimumFits (table : List Nat) (poll : CpuPoll) : Prop :=
  poll.sets = true →
    poll.minimumHz ≤ poll.tableHz ∨ Sysmodule.WithinLimit table poll.limit poll.minimumHz

theorem cpuPoll_withinLimit_iff {state final : Sys}
    (ascending : (state.setting.gFreqTable .cpu).Pairwise (· < ·))
    (nonempty : state.setting.gFreqTable .cpu ≠ [])
    (finished : pollCpuGovernor.run state.forget = .ok (⟨⟩, final)) :
    (state.cpuPoll final.log).WithinLimit (state.setting.gFreqTable .cpu) ↔
      (state.cpuPoll final.log).MinimumFits (state.setting.gFreqTable .cpu) := by
  obtain ⟨-, handed⟩ := (pollCpuGovernor_returns state).of_finished finished
  have within : WithinLimit (state.setting.gFreqTable .cpu) (state.setting.limitHz .cpu)
      state.cpuTableHz := governedHz_within ascending nonempty _
  unfold CpuPoll.WithinLimit CpuPoll.MinimumFits
  simp only [Sys.cpuPoll, handed, Sys.handedCpu]
  cases sets : state.setsCpu with
  | false => simp
  | true =>
      simp only [if_true, Option.some.injEq, forall_eq', forall_const]
      unfold Sys.cpuRaisedHz
      split
      · rename_i raised
        exact ⟨.inr, fun fits => fits.resolve_left (Nat.not_le.mpr raised)⟩
      · rename_i kept
        exact ⟨fun _ => .inl (Nat.le_of_not_lt kept), fun _ => within⟩

/-- A minimum is the one that the thread starts with, or was stored at a poll. -/
def MinimumSource (polls : List CpuPoll) (minHz : Nat) : Prop :=
  minHz = cpuGovernorStart.minHz ∨ ∃ poll ∈ polls, minHz = toU32 poll.stored

theorem MinimumSource.mono {polls : List CpuPoll} {minHz : Nat}
    (source : MinimumSource polls minHz) (newest : CpuPoll) :
    MinimumSource (newest :: polls) minHz := by
  refine source.imp_right ?_
  rintro ⟨poll, member, same⟩
  exact ⟨poll, List.mem_cons_of_mem newest member, same⟩

theorem enterCpuGovernor_minHz (state : Sys) :
    (enterCpuGovernor state).1.cpuLocals.minHz = state.cpuLocals.minHz := by
  unfold enterCpuGovernor
  split
  · rfl
  · split <;> rfl

theorem cpuMinimumHz_source {polls : List CpuPoll} {state : Sys} (log : List Effect)
    (source : MinimumSource polls state.cpuLocals.minHz) :
    MinimumSource (state.cpuPoll log :: polls) state.cpuMinimumHz := by
  unfold Sys.cpuMinimumHz GovernorLocals.refreshMinimum
  split
  · exact .inr ⟨_, List.mem_cons_self, rfl⟩
  · exact source.mono _

/-- Every minimum in force in a run is the first one or comes from the configuration. -/
theorem CpuRun.minimum_source {table : List Nat} {polls : List CpuPoll} {locals : GovernorLocals}
    (run : CpuRun table polls locals) :
    MinimumSource polls locals.minHz ∧ ∀ poll ∈ polls, MinimumSource polls poll.minimumHz := by
  induction run with
  | start => exact ⟨.inl rfl, fun poll member => absurd member List.not_mem_nil⟩
  | pass before passes ih =>
      cases passes with
      | @skip start stops =>
          rw [enterCpuGovernor_minHz]
          exact ih
      | @poll start locked final goesOn own tableStays finished =>
          obtain ⟨after, -⟩ := (pollCpuGovernor_returns locked).of_finished finished
          rw [← enterCpuGovernor_minHz, ← own] at ih
          have source := cpuMinimumHz_source final.log ih.1
          refine ⟨by rw [after]; exact source, ?_⟩
          intro poll member
          rcases List.mem_cons.mp member with rfl | earlier
          · exact source
          · exact (ih.2 poll earlier).mono _

/-- In every run of the CPU's governor over an ascending table that stays, all rates that it hands
on are within their limits exactly if the minimum, which the configuration sets, fits in every
poll. -/
theorem cpu_governor_within_limit_iff {table : List Nat} (ascending : table.Pairwise (· < ·))
    (nonempty : table ≠ []) {polls : List CpuPoll} {locals : GovernorLocals}
    (run : CpuRun table polls locals) :
    ((∀ poll ∈ polls, poll.WithinLimit table) ↔ ∀ poll ∈ polls, poll.MinimumFits table) ∧
      ∀ poll ∈ polls, MinimumSource polls poll.minimumHz := by
  refine ⟨?_, run.minimum_source.2⟩
  induction run with
  | start => simp
  | pass before passes ih =>
      cases passes with
      | skip stops => exact ih
      | @poll start locked final goesOn own tableStays finished =>
          subst tableStays
          have here := cpuPoll_withinLimit_iff ascending nonempty finished
          simp only [Option.toList_some, List.singleton_append, List.forall_mem_cons]
          rw [here, ih]

/-- The CPU's governor under a target of 510 MHz, with the minimum that is the default. -/
def cpuGovernorSample (locals : GovernorLocals) : Sys :=
  let setting := sampleSetting.withOverride .cpu 510000000
  let state := Sys.initial
    { setting with gFreqTable := fun _ => [510000000, 612000000, 1020000000] } sampleRates []
  { state with
    governors := { state.governors with isCpuGovernorEnabled := true }
    cpuLocals := locals }

def cpuSampleTable : List Nat := [510000000, 612000000, 1020000000]

theorem cpuGovernorSample_pass (locals : GovernorLocals) :
    ∃ log, CpuPass cpuSampleTable locals (some ((cpuGovernorSample locals).cpuPoll log))
      (cpuGovernorSample locals).polledCpu ∧
      lastHz .cpu log = (cpuGovernorSample locals).handedCpu := by
  obtain ⟨_, final, finished, after, last⟩ := pollCpuGovernor_returns (cpuGovernorSample locals)
  have on : (enterCpuGovernor (cpuGovernorSample locals)).2 = true := rfl
  have pass : CpuPass cpuSampleTable locals _ final.cpuLocals := .poll on rfl rfl finished
  rw [after] at pass
  exact ⟨final.log, pass, last⟩

/-- The locals after some polls. -/
def cpuSampleLocals : Nat → GovernorLocals
  | 0 => cpuGovernorStart
  | polls + 1 => (cpuGovernorSample (cpuSampleLocals polls)).polledCpu

theorem cpuGovernorSample_run (count : Nat) :
    ∃ polls, CpuRun cpuSampleTable polls (cpuSampleLocals count) := by
  induction count with
  | zero => exact ⟨[], .start⟩
  | succ count ih =>
      obtain ⟨polls, run⟩ := ih
      obtain ⟨log, pass, -⟩ := cpuGovernorSample_pass (cpuSampleLocals count)
      exact ⟨_, run.pass pass⟩

/-- The minimum before the first one is read is below every entry. -/
theorem cpu_governor_within_limit_iff_first :
    ∃ poll locals, CpuRun cpuSampleTable [poll] locals ∧ poll.handed = some 510000000 ∧
      poll.WithinLimit cpuSampleTable := by
  obtain ⟨log, pass, last⟩ := cpuGovernorSample_pass cpuGovernorStart
  have run := CpuRun.start.pass pass
  have within := (cpu_governor_within_limit_iff (by decide) (by decide) run).1.mpr
  have handed : (cpuGovernorSample cpuGovernorStart).handedCpu = some 510000000 := by decide +kernel
  have fits : (cpuGovernorSample cpuGovernorStart).cpuMinimumHz ≤
      (cpuGovernorSample cpuGovernorStart).cpuTableHz := by decide +kernel
  refine ⟨_, _, run, last.trans handed, within (fun poll member => ?_) _ List.mem_cons_self⟩
  rw [List.mem_singleton.mp member]
  exact fun _ => .inl fits

/-- The 51st poll reads the default minimum, which is above the target. -/
theorem cpu_governor_minimum_above_target :
    ∃ polls locals, CpuRun cpuSampleTable polls locals ∧ ∃ poll ∈ polls,
      poll.limit = some 510000000 ∧ poll.stored = 612000000 ∧ poll.handed = some 612000000 ∧
        ¬poll.WithinLimit cpuSampleTable := by
  obtain ⟨polls, run⟩ := cpuGovernorSample_run 50
  obtain ⟨log, pass, last⟩ := cpuGovernorSample_pass (cpuSampleLocals 50)
  have limit : (cpuGovernorSample (cpuSampleLocals 50)).setting.limitHz .cpu = some 510000000 := by
    decide +kernel
  have handed : (cpuGovernorSample (cpuSampleLocals 50)).handedCpu = some 612000000 := by
    decide +kernel
  refine ⟨_, _, run.pass pass, _, List.mem_cons_self, limit, rfl, last.trans handed, fun within => ?_⟩
  have below := (within _ (last.trans handed)).below _ limit
  exact absurd below (by decide)

end HorizonOc.Sysmodule
