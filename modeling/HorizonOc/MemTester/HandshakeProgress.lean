import Mathlib.Algebra.BigOperators.Group.Finset.Basic
import Mathlib.Algebra.Order.BigOperators.Group.Finset
import Mathlib.Algebra.Group.Action.Defs
import Mathlib.Tactic.Ring
import HorizonOc.MemTester.Handshake

namespace HorizonOc.MemTester

open HorizonOc.Data

/-- The step of a worker within what it did so far. -/
def WorkerPhase.rank : WorkerPhase → Nat
  | .starting => 0
  | .waiting _ => 1
  | .testing _ => 2
  | .returned => 1

def MainPhase.rank (threads : Nat) : MainPhase → Nat
  | .setReady j => j
  | .assign _ j => threads + 1 + j
  | .collect _ j => 2 * (threads + 1) + 2 * j
  | .clear _ j => 2 * (threads + 1) + 2 * j + 1
  | .stopped j => 2 * (threads + 1) + 2 * j + 1

def State.mainProgress (threads : Nat) (state : State) : Nat :=
  (4 * threads + 3) * (okJobs state.log).length + state.main.rank threads

def State.workerProgress (state : State) (div : Nat) : Nat :=
  2 * (testedBy div state.log).length + (state.worker div).phase.rank

/-- A number that every step makes greater. -/
def State.progress (threads : Nat) (state : State) : Nat :=
  state.mainProgress threads + ∑ div ∈ Finset.range threads, state.workerProgress div

/-- A worker that still waits to be set to ready and was given the first job. -/
def Worker.Missed (worker : Worker) : Prop := worker.phase = .starting ∧ worker.testJobId = -1

section

variable {threads tests round : Nat} {state after : State} {div passes : Nat} {stage : Stage}
  {worker : Worker} {ran : List (Int × Bool)}

theorem Worker.step_rank {passed : Bool} {next : Worker} {tested : Option Int}
    (stepped : worker.step tests passed = some (next, tested)) :
    2 * tested.toList.length + next.phase.rank = worker.phase.rank + 1 := by
  unfold Worker.step at stepped
  cases phase : worker.phase with
  | starting =>
      simp only [phase, Option.ite_none_right_eq_some, Option.some.injEq, Prod.mk.injEq] at stepped
      obtain ⟨-, rfl, rfl⟩ := stepped
      rfl
  | waiting job =>
      simp only [phase, Option.ite_none_right_eq_some, Option.some.injEq, Prod.mk.injEq] at stepped
      obtain ⟨-, rfl, rfl⟩ := stepped
      rfl
  | testing job =>
      simp only [phase] at stepped
      cases passed with
      | true =>
          simp only [if_true, Option.some.injEq, Prod.mk.injEq] at stepped
          obtain ⟨rfl, rfl⟩ := stepped
          rfl
      | false =>
          simp only [Bool.false_eq_true, if_false, Option.some.injEq, Prod.mk.injEq] at stepped
          obtain ⟨rfl, rfl⟩ := stepped
          rfl
  | returned =>
      simp only [phase] at stepped
      contradiction

/-- A step of a worker is one more. -/
theorem workerStep_progress (inside : div < threads) {passed : Bool}
    (stepped : state.workerStep tests div passed = some after) :
    after.progress threads = state.progress threads + 1 := by
  obtain ⟨⟨next, tested⟩, step, rfl⟩ := Option.map_eq_some_iff.mp stepped
  have rank := Worker.step_rank step
  have member := Finset.mem_range.mpr inside
  let after : State :=
    { state.setWorker div next with
      log := state.log ++ tested.toList.map fun job => .tested div job passed }
  have main : after.mainProgress threads = state.mainProgress threads := by
    simp [after, State.mainProgress, okJobs_append, okJobs_tested]
  have own : after.workerProgress div = state.workerProgress div + 1 := by
    simp only [after, State.workerProgress, testedBy_append, testedBy_own, setWorker_self,
      List.length_append, List.length_map]
    omega
  have others : ∀ other ∈ (Finset.range threads).erase div,
      after.workerProgress other = state.workerProgress other := by
    intro other inOthers
    have ne := Finset.ne_of_mem_erase inOthers
    simp [after, State.workerProgress, testedBy_append, testedBy_other ne, setWorker_other state ne]
  have rest : ∑ other ∈ (Finset.range threads).erase div, after.workerProgress other =
      ∑ other ∈ (Finset.range threads).erase div, state.workerProgress other :=
    Finset.sum_congr rfl others
  change after.progress threads = state.progress threads + 1
  unfold State.progress
  rw [← Finset.add_sum_erase _ _ member, ← Finset.add_sum_erase _ _ member, main, own, rest]
  omega

/-- `main` does not change what the workers did. -/
theorem progress_lt_of_main (phases : ∀ div < threads, (after.worker div).phase = (state.worker div).phase)
    (tested : ∀ div < threads, testedBy div after.log = testedBy div state.log)
    (main : state.mainProgress threads < after.mainProgress threads) :
    state.progress threads < after.progress threads := by
  have workers : ∀ div ∈ Finset.range threads,
      after.workerProgress div = state.workerProgress div := by
    intro div member
    have inside := Finset.mem_range.mp member
    rw [State.workerProgress, State.workerProgress, phases div inside, tested div inside]
  unfold State.progress
  rw [Finset.sum_congr rfl workers]
  exact Nat.add_lt_add_right main _

/-- The same where the numbers of a worker change. -/
theorem progress_lt_of_setWorker {j : Nat} {main : MainPhase}
    (same : worker.phase = (state.worker j).phase)
    (further : state.main.rank threads < main.rank threads) :
    state.progress threads <
      State.progress threads { state.setWorker j worker with main } := by
  refine progress_lt_of_main (fun div _ => ?_) (fun _ _ => rfl) (Nat.add_lt_add_left further _)
  change ((state.setWorker j worker).worker div).phase = _
  by_cases own : div = j
  · subst own
    rw [setWorker_self, same]
  · rw [setWorker_other state own]

theorem mainStep_progress (place : state.At threads tests round)
    (stepped : state.mainStep threads tests = some after) :
    state.progress threads < after.progress threads := by
  have mainAt := place.main
  unfold State.mainStep at stepped
  cases main : state.main with
  | setReady j =>
      simp only [main] at stepped
      split at stepped
      · obtain rfl := Option.some.inj stepped
        refine progress_lt_of_setWorker rfl ?_
        simp [main, MainPhase.rank]
      · obtain rfl := Option.some.inj stepped
        refine progress_lt_of_main (fun _ _ => rfl) (fun _ _ => rfl) ?_
        rw [main] at mainAt
        have bound := mainAt.2
        simp only [State.mainProgress, main, MainPhase.rank]
        omega
  | assign job j =>
      simp only [main] at stepped
      split at stepped
      · obtain rfl := Option.some.inj stepped
        refine progress_lt_of_setWorker rfl ?_
        simp [main, MainPhase.rank]
      · obtain rfl := Option.some.inj stepped
        refine progress_lt_of_main (fun _ _ => rfl) (fun _ _ => rfl) ?_
        rw [main] at mainAt
        have bound := mainAt.2
        simp only [State.mainProgress, main, MainPhase.rank]
        omega
  | collect job j =>
      simp only [main] at stepped
      split at stepped
      · split at stepped
        · obtain rfl := Option.some.inj stepped
          refine progress_lt_of_main (fun _ _ => rfl) (fun _ _ => rfl) ?_
          simp [State.mainProgress, main, MainPhase.rank]
        · split at stepped
          · obtain rfl := Option.some.inj stepped
            refine progress_lt_of_main (fun _ _ => rfl) (fun _ _ => rfl) ?_
            simp [State.mainProgress, main, MainPhase.rank]
          · contradiction
      · obtain rfl := Option.some.inj stepped
        refine progress_lt_of_main (fun _ _ => rfl) (fun div _ => ?_) ?_
        · rw [testedBy_append]
          simp [testedBy]
        · rw [main] at mainAt
          have bound := mainAt.2
          have shown : (okJobs (state.log ++ [.ok job])).length = (okJobs state.log).length + 1 := by
            rw [okJobs_append]
            simp [okJobs]
          simp only [State.mainProgress, main, MainPhase.rank, shown, Nat.mul_succ]
          omega
  | clear job j =>
      simp only [main] at stepped
      obtain rfl := Option.some.inj stepped
      refine progress_lt_of_setWorker rfl ?_
      simp only [main, MainPhase.rank]
      omega
  | stopped j =>
      simp only [main] at stepped
      contradiction

theorem advance_progress (place : state.At threads tests round) {actor : Actor}
    (advanced : state.advance threads tests actor = some after) :
    state.progress threads < after.progress threads := by
  cases actor with
  | main => exact mainStep_progress place advanced
  | worker div passed =>
      simp only [State.advance, Option.ite_none_right_eq_some] at advanced
      exact Nat.lt_of_succ_le (Nat.le_of_eq (workerStep_progress advanced.1 advanced.2).symm)

theorem Worker.Stands.progress (stands : worker.Stands tests round stage ran passes) :
    2 * ran.length + worker.phase.rank ≤ 2 * (round + 1) + 2 := by
  obtain ⟨-, atMost, failed⟩ := stands.bounds
  have length : ran.length = passes + if worker.phase = .returned then 1 else 0 := by
    rw [stands.ran, history, List.length_append, List.length_map, List.length_range]
    split <;> rfl
  rw [length]
  cases phase : worker.phase with
  | returned =>
      have passed := failed phase
      simp only [if_true, WorkerPhase.rank]
      omega
  | starting =>
      simp only [reduceCtorEq, if_false, WorkerPhase.rank]
      omega
  | waiting job =>
      simp only [reduceCtorEq, if_false, WorkerPhase.rank]
      omega
  | testing job =>
      simp only [reduceCtorEq, if_false, WorkerPhase.rank]
      omega

theorem State.At.mainProgress (place : state.At threads tests round) :
    state.mainProgress threads + 1 ≤ (4 * threads + 3) * (round + 1) := by
  have mainAt := place.main
  have shown : (okJobs state.log).length = round := by
    rw [place.ok, List.length_map, List.length_range]
  have rank : state.main.rank threads ≤ 4 * threads + 2 := by
    cases main : state.main with
    | setReady j =>
        rw [main] at mainAt
        have bound := mainAt.2
        simp only [MainPhase.rank]
        omega
    | assign job j =>
        rw [main] at mainAt
        have bound := mainAt.2
        simp only [MainPhase.rank]
        omega
    | collect job j =>
        rw [main] at mainAt
        have bound := mainAt.2
        simp only [MainPhase.rank]
        omega
    | clear job j =>
        rw [main] at mainAt
        have bound := mainAt.2
        simp only [MainPhase.rank]
        omega
    | stopped j =>
        rw [main] at mainAt
        have bound : j < threads := mainAt
        simp only [MainPhase.rank]
        omega
  rw [State.mainProgress, shown, Nat.mul_succ]
  omega

theorem State.At.progress (place : state.At threads tests round) :
    state.progress threads ≤ (6 * threads + 3) * (round + 1) + 2 * threads := by
  have main := place.mainProgress
  have workers : ∑ div ∈ Finset.range threads, state.workerProgress div ≤
      threads * (2 * (round + 1) + 2) := by
    have each : ∀ div ∈ Finset.range threads, state.workerProgress div ≤ 2 * (round + 1) + 2 := by
      intro div member
      obtain ⟨passes, stands⟩ := place.worker div (Finset.mem_range.mp member)
      exact stands.progress
    have sum := Finset.sum_le_card_nsmul _ _ _ each
    rwa [Finset.card_range, smul_eq_mul] at sum
  have parts : (6 * threads + 3) * (round + 1) + 2 * threads =
      (4 * threads + 3) * (round + 1) + threads * (2 * (round + 1) + 2) := by ring
  rw [State.progress, parts]
  omega

/-- `main` only waits for a worker that did not report. -/
theorem mainStep_eq_none (stuck : state.mainStep threads tests = none) :
    (∃ j, state.main = .stopped j) ∨ ∃ job j, state.main = .collect job j ∧ j < threads ∧
      (state.worker j).testWorkerReport ≠ -1 ∧ (state.worker j).testWorkerReport ≠ 1 := by
  unfold State.mainStep at stuck
  cases main : state.main with
  | setReady j =>
      simp only [main] at stuck
      split at stuck <;> contradiction
  | assign job j =>
      simp only [main] at stuck
      split at stuck <;> contradiction
  | collect job j =>
      simp only [main] at stuck
      split at stuck
      · next inside =>
          split at stuck
          · contradiction
          · next noError =>
              split at stuck
              · contradiction
              · next noSuccess => exact .inr ⟨job, j, rfl, inside, noError, noSuccess⟩
      · contradiction
  | clear job j =>
      simp only [main] at stuck
      contradiction
  | stopped j => exact .inl ⟨j, rfl⟩

/-- A busy worker moves, unless it missed that it was ready. -/
theorem Worker.Stands.moves (stands : worker.Stands tests round .assigned ran passes)
    (busy : worker.Busy tests round passes) (stuck : worker.step tests true = none) :
    worker.Missed := by
  have given := stands.place.1
  unfold Worker.step at stuck
  rcases busy.2.2 with starts | waits | tests
  · have first := stands.starting starts
    subst first
    exact ⟨starts, by rw [given, jobAt_zero]⟩
  · simp only [waits, given, if_true] at stuck
    contradiction
  · simp only [tests, if_true] at stuck
    contradiction

/-- Where no thread can move, an error was shown, or a worker missed that it was ready. -/
theorem State.At.stuck (place : state.At threads tests round)
    (stuck : ∀ actor, state.advance threads tests actor = none) :
    (∃ j, state.main = .stopped j) ∨ ∃ div < threads, (state.worker div).Missed := by
  rcases mainStep_eq_none (stuck .main) with stopped | ⟨job, j, main, inside, noError, noSuccess⟩
  · exact .inl stopped
  · obtain ⟨passes, stands⟩ := place.worker j inside
    rw [main, MainPhase.stage, if_neg (Nat.lt_irrefl j)] at stands
    have busy := stands.read.2.2 noError noSuccess
    have still := stuck (.worker j true)
    rw [State.advance, if_pos inside, State.workerStep, Option.map_eq_none_iff] at still
    exact .inr ⟨j, inside, stands.moves busy still⟩

/-- Such a worker is one that `main` waits for, in the first round. -/
theorem Worker.Stands.missed (stands : worker.Stands tests round stage ran passes)
    (missed : worker.Missed) : stage = .assigned ∧ round = 0 ∧ ran = [] ∧
      worker.testWorkerReport = 0 := by
  obtain ⟨phase, given⟩ := missed
  have first := stands.starting phase
  subst first
  obtain ⟨place, -, ran⟩ := stands
  cases stage with
  | before =>
      have other := place.1
      rw [given, jobAt_zero] at other
      contradiction
  | assigned =>
      obtain ⟨-, busy | reported | failed⟩ := place
      · obtain ⟨rfl, report, -⟩ := busy
        refine ⟨rfl, rfl, ?_, report⟩
        rw [ran, phase]
        rfl
      · have phases := phase.symm.trans reported.2.2
        contradiction
      · have phases := phase.symm.trans failed.2.2
        contradiction
  | reported => simp [Worker.At, Worker.Reported, phase] at place
  | failed => simp [Worker.At, Worker.Failed, phase] at place
  | collected => simp [Worker.At, phase] at place

/-- It stays so. -/
theorem State.At.advance_missed (place : state.At threads tests round) (inside : div < threads)
    (missed : (state.worker div).Missed) {actor : Actor}
    (advanced : state.advance threads tests actor = some after) : (after.worker div).Missed := by
  obtain ⟨passes, stands⟩ := place.worker div inside
  obtain ⟨stage, -, -, report⟩ := stands.missed missed
  cases actor with
  | worker other passed =>
      simp only [State.advance, Option.ite_none_right_eq_some] at advanced
      obtain ⟨⟨next, tested⟩, step, rfl⟩ := Option.map_eq_some_iff.mp advanced.2
      change ((state.setWorker other next).worker div).Missed
      by_cases own : div = other
      · subst own
        simp [Worker.step, missed.1, missed.2] at step
      · rwa [setWorker_other state own]
  | main =>
      simp only [State.advance, State.mainStep] at advanced
      cases main : state.main with
      | setReady j =>
          rw [main] at stage
          contradiction
      | assign job j =>
          rw [main, MainPhase.stage] at stage
          have before : div < j := by
            by_contra behind
            rw [if_neg behind] at stage
            contradiction
          simp only [main] at advanced
          split at advanced
          · obtain rfl := Option.some.inj advanced
            change ((state.setWorker j _).worker div).Missed
            rwa [setWorker_other state (Nat.ne_of_lt before)]
          · obtain rfl := Option.some.inj advanced
            exact missed
      | collect job j =>
          rw [main, MainPhase.stage] at stage
          have behind : ¬div < j := by
            intro before
            rw [if_pos before] at stage
            contradiction
          simp only [main] at advanced
          split at advanced
          · split at advanced
            · obtain rfl := Option.some.inj advanced
              exact missed
            · split at advanced
              · obtain rfl := Option.some.inj advanced
                exact missed
              · contradiction
          · obtain rfl := Option.some.inj advanced
            exact missed
      | clear job j =>
          rw [main, MainPhase.stage] at stage
          have other : div ≠ j := by
            rintro rfl
            rw [if_neg (Nat.lt_irrefl div), if_pos rfl] at stage
            contradiction
          simp only [main] at advanced
          obtain rfl := Option.some.inj advanced
          change ((state.setWorker j _).worker div).Missed
          rwa [setWorker_other state other]
      | stopped j =>
          simp only [main] at advanced
          contradiction

theorem missed_of_run (anyTest : 0 < tests) (place : state.At threads tests round)
    (inside : div < threads) (missed : (state.worker div).Missed) (actors : List Actor) :
    ((run (State.apply threads tests) state actors).worker div).Missed := by
  induction actors generalizing state round with
  | nil => exact missed
  | cons actor rest ih =>
      change ((run _ (state.apply threads tests actor) rest).worker div).Missed
      cases advanced : state.advance threads tests actor with
      | none =>
          rw [State.apply, advanced, Option.getD_none]
          exact ih place missed
      | some after =>
          rw [State.apply, advanced, Option.getD_some]
          have stays := place.advance_missed inside missed advanced
          rcases place.advance anyTest advanced with kept | next
          · exact ih kept stays
          · exact ih next stays

/-- Steps that are all taken make as much progress. -/
theorem progress_of_run (anyTest : 0 < tests) (place : state.At threads tests round)
    {actors : List Actor}
    (taken : Guarded (State.apply threads tests)
      (fun state actor => (state.advance threads tests actor).isSome = true) state actors) :
    state.progress threads + actors.length ≤
      (run (State.apply threads tests) state actors).progress threads := by
  induction actors generalizing state round with
  | nil => exact Nat.le_refl _
  | cons actor rest ih =>
      obtain ⟨after, advanced⟩ := Option.isSome_iff_exists.mp taken.1
      have others := taken.2
      have further := advance_progress place advanced
      change _ ≤ (run _ (state.apply threads tests actor) rest).progress threads
      rw [State.apply, advanced, Option.getD_some] at others ⊢
      rw [List.length_cons]
      rcases place.advance anyTest advanced with kept | next
      · have more := ih kept others
        omega
      · have more := ih next others
        omega

end

/-- How many steps can have been taken is bounded by the number of tests that were shown to be
passed.  Where no thread can move any more, an error was shown or a worker missed that it was ready;
then nothing is ever shown, and that worker never runs a test. -/
theorem handshake_live (threads tests : Nat) (anyTest : 0 < tests) (actors : List Actor)
    (taken : Guarded (State.apply threads tests)
      (fun state actor => (state.advance threads tests actor).isSome = true) State.initial actors) :
    actors.length ≤ (6 * threads + 3) *
        ((okJobs (run (State.apply threads tests) State.initial actors).log).length + 1) +
        2 * threads ∧
      ((∀ actor, (run (State.apply threads tests) State.initial actors).advance threads tests actor =
          none) →
        (∃ j, (run (State.apply threads tests) State.initial actors).main = .stopped j) ∨
          ∃ div < threads,
            ((run (State.apply threads tests) State.initial actors).worker div).Missed) ∧
      ∀ div < threads, ((run (State.apply threads tests) State.initial actors).worker div).Missed →
        ∀ more, okJobs (run (State.apply threads tests) State.initial (actors ++ more)).log = [] ∧
          testedBy div (run (State.apply threads tests) State.initial (actors ++ more)).log = [] := by
  obtain ⟨round, place⟩ := at_of_run anyTest (initial_at threads tests) actors
  have further := progress_of_run anyTest (initial_at threads tests) taken
  have shown : (okJobs (run (State.apply threads tests) State.initial actors).log).length = round := by
    rw [place.ok, List.length_map, List.length_range]
  refine ⟨?_, place.stuck, fun div inside missed more => ?_⟩
  · have bound := place.progress
    rw [shown]
    omega
  · have continued : run (State.apply threads tests) State.initial (actors ++ more) =
        run (State.apply threads tests) (run (State.apply threads tests) State.initial actors) more :=
      List.foldl_append
    rw [continued]
    have stays := missed_of_run anyTest place inside missed more
    obtain ⟨last, lastPlace⟩ := at_of_run anyTest place more
    obtain ⟨passes, stands⟩ := lastPlace.worker div inside
    obtain ⟨-, rfl, none, -⟩ := stands.missed stays
    exact ⟨lastPlace.ok, none⟩

/-- `main` goes through its first assignments before a worker looks. -/
def hastyRun : List Actor := List.replicate 8 .main

theorem handshake_live_hasty :
    hastyRun.length ≤ (6 * 3 + 3) *
        ((okJobs (run (State.apply 3 15) State.initial hastyRun).log).length + 1) + 2 * 3 ∧
      ((∀ actor, (run (State.apply 3 15) State.initial hastyRun).advance 3 15 actor = none) →
        (∃ j, (run (State.apply 3 15) State.initial hastyRun).main = .stopped j) ∨
          ∃ div < 3, ((run (State.apply 3 15) State.initial hastyRun).worker div).Missed) ∧
      ∀ div < 3, ((run (State.apply 3 15) State.initial hastyRun).worker div).Missed →
        ∀ more, okJobs (run (State.apply 3 15) State.initial (hastyRun ++ more)).log = [] ∧
          testedBy div (run (State.apply 3 15) State.initial (hastyRun ++ more)).log = [] :=
  handshake_live 3 15 (by decide) hastyRun
    ⟨rfl, rfl, rfl, rfl, rfl, rfl, rfl, rfl, trivial⟩

end HorizonOc.MemTester
