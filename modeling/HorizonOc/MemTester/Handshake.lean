import Mathlib.Logic.Function.Basic
import Mathlib.Algebra.Order.Group.Nat
import HorizonOc.Data.Runs

namespace HorizonOc.MemTester

open HorizonOc.Data

/-! `main.c`: the main thread hands one test after another to the workers, over two arrays of
integers.  Every access to them is one step; the threads were all created and started. -/

/-- Where `testWorker` stands. -/
inductive WorkerPhase where
  /-- It waits until the worker is set to ready. -/
  | starting
  | waiting (job : Int)
  | testing (job : Int)
  /-- It returned after an error. -/
  | returned
deriving DecidableEq, Repr

/-- A worker with its places in `testJobId` and `testWorkerReport`. -/
structure Worker where
  phase : WorkerPhase
  testJobId : Int
  testWorkerReport : Int
deriving DecidableEq, Repr

/-- Where `main` stands, with the counter of its inner loop. -/
inductive MainPhase where
  | setReady (j : Nat)
  | assign (job : Int) (j : Nat)
  | collect (job : Int) (j : Nat)
  /-- It read a success and has not yet taken it back. -/
  | clear (job : Int) (j : Nat)
  /-- It showed the error of a worker. -/
  | stopped (j : Nat)
deriving DecidableEq, Repr

inductive Event where
  | tested (div : Nat) (job : Int) (passed : Bool)
  | ok (job : Int)
deriving DecidableEq, Repr

structure State where
  main : MainPhase
  worker : Nat → Worker
  log : List Event

/-- The next step of `testWorker`, if it does not wait, and the test that it ran. -/
def Worker.step (tests : Nat) (passed : Bool) (worker : Worker) : Option (Worker × Option Int) :=
  match worker.phase with
  | .starting =>
      if worker.testJobId = -2 then some ({ worker with phase := .waiting (-1) }, none) else none
  | .waiting job =>
      if worker.testJobId = job then some ({ worker with phase := .testing job }, none) else none
  | .testing job =>
      if passed then
        some
          ({ worker with
              -- After the last test it begins again with the stuck address.
              phase := .waiting (if job + 1 < tests then job + 1 else -1)
              testWorkerReport := 1 }, some job)
      else some ({ worker with phase := .returned, testWorkerReport := -1 }, some job)
  | .returned => none

def State.initial : State :=
  { main := .setReady 0
    worker := fun _ => { phase := .starting, testJobId := 0, testWorkerReport := 0 }
    log := [] }

namespace State

def setWorker (state : State) (div : Nat) (worker : Worker) : State :=
  { state with worker := Function.update state.worker div worker }

/-- The next step of `main`, if it does not wait. -/
def mainStep (threads tests : Nat) (state : State) : Option State :=
  match state.main with
  | .setReady j =>
      if j < threads then
        some { state.setWorker j { state.worker j with testJobId := -2 } with main := .setReady (j + 1) }
      else some { state with main := .assign (-1) 0 }
  | .assign job j =>
      if j < threads then
        some { state.setWorker j { state.worker j with testJobId := job } with
          main := .assign job (j + 1) }
      else some { state with main := .collect job 0 }
  | .collect job j =>
      if j < threads then
        if (state.worker j).testWorkerReport = -1 then some { state with main := .stopped j }
        else if (state.worker j).testWorkerReport = 1 then some { state with main := .clear job j }
        else none
      else
        some
          { state with
            main := if job + 1 < tests then .assign (job + 1) 0 else .setReady 0
            log := state.log ++ [.ok job] }
  | .clear job j =>
      some { state.setWorker j { state.worker j with testWorkerReport := 0 } with
        main := .collect job (j + 1) }
  | .stopped _ => none

/-- A step of the worker `div`; a test that it ran is put on the log. -/
def workerStep (tests div : Nat) (passed : Bool) (state : State) : Option State :=
  ((state.worker div).step tests passed).map fun next =>
    { state.setWorker div next.1 with
      log := state.log ++ next.2.toList.map fun job => .tested div job passed }

end State

/-- Who moves next; what a test says is only looked at where one is run. -/
inductive Actor where
  | main
  | worker (div : Nat) (passed : Bool)
deriving DecidableEq, Repr

def State.advance (threads tests : Nat) (state : State) : Actor → Option State
  | .main => state.mainStep threads tests
  | .worker div passed => if div < threads then state.workerStep tests div passed else none

/-- A thread that waits looks again. -/
def State.apply (threads tests : Nat) (state : State) (actor : Actor) : State :=
  (state.advance threads tests actor).getD state

/-- The jobs in their order: the stuck address test, and then the others. -/
def jobAt (tests round : Nat) : Int := (round % (tests + 1) : Nat) - 1

/-- The tests that a worker ran, with what they said. -/
def testedBy (div : Nat) (log : List Event) : List (Int × Bool) :=
  log.filterMap fun
    | .tested other job passed => if other = div then some (job, passed) else none
    | .ok _ => none

/-- The tests that were shown to be passed. -/
def okJobs (log : List Event) : List Int :=
  log.filterMap fun
    | .tested _ _ _ => none
    | .ok job => some job

section

variable {tests round : Nat}

theorem jobAt_bounds (tests round : Nat) : -1 ≤ jobAt tests round ∧ jobAt tests round < tests := by
  have small : round % (tests + 1) < tests + 1 := Nat.mod_lt round (Nat.succ_pos tests)
  unfold jobAt
  omega

theorem jobAt_succ (tests round : Nat) : jobAt tests (round + 1) =
    if jobAt tests round + 1 < tests then jobAt tests round + 1 else -1 := by
  have small : round % (tests + 1) < tests + 1 := Nat.mod_lt round (Nat.succ_pos tests)
  unfold jobAt
  rcases Nat.lt_or_eq_of_le (Nat.le_of_lt_succ small) with below | last
  · have next : (round + 1) % (tests + 1) = round % (tests + 1) + 1 := by
      rw [Nat.add_mod, Nat.mod_eq_of_lt (by omega : 1 < tests + 1), Nat.mod_eq_of_lt (by omega)]
    rw [next, if_pos (by omega)]
    omega
  · have next : (round + 1) % (tests + 1) = 0 := by
      have whole := Nat.div_add_mod round (tests + 1)
      have sum : round + 1 = (tests + 1) * (round / (tests + 1) + 1) := by
        rw [Nat.mul_succ]
        omega
      rw [sum, Nat.mul_mod_right]
    rw [next, if_neg (by omega)]
    omega

@[simp] theorem jobAt_zero (tests : Nat) : jobAt tests 0 = -1 := by
  rw [jobAt, Nat.zero_mod]
  rfl

/-- No job follows itself. -/
theorem jobAt_succ_ne (anyTest : 0 < tests) (round : Nat) :
    jobAt tests round ≠ jobAt tests (round + 1) := by
  have bounds := jobAt_bounds tests round
  rw [jobAt_succ]
  split <;> omega

end

/-- What `main` expects of a worker. -/
inductive Stage where
  | before
  | assigned
  | reported
  | failed
  | collected
deriving DecidableEq, Repr

def MainPhase.stage : MainPhase → Nat → Stage
  | .setReady _, _ => .before
  | .assign _ j, div => if div < j then .assigned else .before
  | .collect _ j, div => if div < j then .collected else .assigned
  | .clear _ j, div => if div < j then .collected else if div = j then .reported else .assigned
  | .stopped j, div => if div < j then .collected else if div = j then .failed else .assigned

/-- The job of a round, and the bound of the counter. -/
def MainPhase.At (threads tests round : Nat) : MainPhase → Prop
  | .setReady j => jobAt tests round = -1 ∧ j ≤ threads
  | .assign job j => job = jobAt tests round ∧ j ≤ threads
  | .collect job j => job = jobAt tests round ∧ j ≤ threads
  | .clear job j => job = jobAt tests round ∧ j < threads
  | .stopped j => j < threads

/-- A worker that was given the job of a round and did not yet report. -/
def Worker.Busy (tests round : Nat) (worker : Worker) (passes : Nat) : Prop :=
  passes = round ∧ worker.testWorkerReport = 0 ∧
    (worker.phase = .starting ∨ worker.phase = .waiting (jobAt tests round) ∨
      worker.phase = .testing (jobAt tests round))

def Worker.Reported (tests round : Nat) (worker : Worker) (passes : Nat) : Prop :=
  passes = round + 1 ∧ worker.testWorkerReport = 1 ∧
    worker.phase = .waiting (jobAt tests (round + 1))

def Worker.Failed (round : Nat) (worker : Worker) (passes : Nat) : Prop :=
  passes = round ∧ worker.testWorkerReport = -1 ∧ worker.phase = .returned

/-- A worker in a round, with the number of the tests that it passed. -/
def Worker.At (tests round : Nat) (worker : Worker) (passes : Nat) : Stage → Prop
  | .before =>
      worker.testJobId ≠ jobAt tests round ∧ passes = round ∧ worker.testWorkerReport = 0 ∧
        (worker.phase = .starting ∨ worker.phase = .waiting (jobAt tests round))
  | .assigned =>
      worker.testJobId = jobAt tests round ∧
        (worker.Busy tests round passes ∨ worker.Reported tests round passes ∨
          worker.Failed round passes)
  | .reported => worker.testJobId = jobAt tests round ∧ worker.Reported tests round passes
  | .failed => worker.testJobId = jobAt tests round ∧ worker.Failed round passes
  | .collected =>
      worker.testJobId = jobAt tests round ∧ passes = round + 1 ∧ worker.testWorkerReport = 0 ∧
        worker.phase = .waiting (jobAt tests (round + 1))

/-- The tests that a worker ran: the jobs in their order, and the one that it failed. -/
def history (tests passes : Nat) (phase : WorkerPhase) : List (Int × Bool) :=
  (List.range passes).map (fun round => (jobAt tests round, true)) ++
    if phase = .returned then [(jobAt tests passes, false)] else []

/-- A worker in a round, with the tests that it ran. -/
structure Worker.Stands (tests round : Nat) (stage : Stage) (worker : Worker)
    (ran : List (Int × Bool)) (passes : Nat) : Prop where
  place : worker.At tests round passes stage
  starting : worker.phase = .starting → round = 0
  ran : ran = history tests passes worker.phase

/-- Where everything stands in a round. -/
structure State.At (threads tests : Nat) (state : State) (round : Nat) : Prop where
  main : state.main.At threads tests round
  worker : ∀ div < threads, ∃ passes,
    (state.worker div).Stands tests round (state.main.stage div) (testedBy div state.log) passes
  ok : okJobs state.log = (List.range round).map (jobAt tests)

section

variable {threads tests round : Nat} {state after : State} {div passes : Nat} {stage : Stage}
  {worker : Worker} {ran : List (Int × Bool)}

theorem history_of_ne {phase : WorkerPhase} (running : phase ≠ .returned) :
    history tests passes phase = (List.range passes).map fun round => (jobAt tests round, true) := by
  rw [history, if_neg running, List.append_nil]

theorem history_passed (tests passes : Nat) (job : Int) :
    history tests passes (.testing (jobAt tests passes)) ++ [(jobAt tests passes, true)] =
      history tests (passes + 1) (.waiting job) := by
  rw [history_of_ne (by simp), history_of_ne (by simp), List.range_succ, List.map_append]
  rfl

theorem history_failed (tests passes : Nat) :
    history tests passes (.testing (jobAt tests passes)) ++ [(jobAt tests passes, false)] =
      history tests passes .returned := by
  rw [history_of_ne (by simp), history, if_pos rfl]

/-- A worker that starts takes its first job only while it is set to ready. -/
theorem Worker.Stands.start (stands : worker.Stands tests round stage ran passes)
    (phase : worker.phase = .starting) (ready : worker.testJobId = -2) :
    Worker.Stands tests round stage { worker with phase := .waiting (-1) } ran passes := by
  have bounds := jobAt_bounds tests round
  obtain ⟨place, starting, rfl⟩ := stands
  have first := starting phase
  subst first
  refine ⟨?_, by simp, by simp [history, phase]⟩
  cases stage with
  | before => exact ⟨place.1, place.2.1, place.2.2.1, .inr (by rw [jobAt_zero])⟩
  | assigned =>
      have job := place.1
      omega
  | reported => simp [Worker.At, Worker.Reported, phase] at place
  | failed => simp [Worker.At, Worker.Failed, phase] at place
  | collected => simp [Worker.At, phase] at place

/-- A worker that waits for a job is given it only in the round of the job. -/
theorem Worker.Stands.take (anyTest : 0 < tests)
    (stands : worker.Stands tests round stage ran passes) {job : Int}
    (phase : worker.phase = .waiting job) (given : worker.testJobId = job) :
    Worker.Stands tests round stage { worker with phase := .testing job } ran passes := by
  have differs := jobAt_succ_ne anyTest round
  obtain ⟨place, -, rfl⟩ := stands
  refine ⟨?_, by simp, by simp [history, phase]⟩
  cases stage with
  | before =>
      have other := place.1
      simp only [Worker.At, phase, WorkerPhase.waiting.injEq, reduceCtorEq, false_or] at place
      exact absurd (given.trans place.2.2.2) other
  | assigned =>
      obtain ⟨same, busy | reported | failed⟩ := place
      · refine ⟨same, .inl ⟨busy.1, busy.2.1, .inr (.inr ?_)⟩⟩
        rw [← same, given]
      · have next := reported.2.2
        rw [phase, WorkerPhase.waiting.injEq, ← given, same] at next
        exact absurd next differs
      · have phases := phase.symm.trans failed.2.2
        contradiction
  | reported =>
      have next := place.2.2.2
      rw [phase, WorkerPhase.waiting.injEq, ← given, place.1] at next
      exact absurd next differs
  | failed =>
      have phases := phase.symm.trans place.2.2.2
      contradiction
  | collected =>
      have next := place.2.2.2
      rw [phase, WorkerPhase.waiting.injEq, ← given, place.1] at next
      exact absurd next differs

/-- Only a worker that did not report yet runs a test, and that of the round. -/
theorem Worker.Stands.testing (stands : worker.Stands tests round stage ran passes) {job : Int}
    (phase : worker.phase = .testing job) :
    stage = .assigned ∧ job = jobAt tests round ∧ passes = round ∧
      worker.testJobId = jobAt tests round := by
  obtain ⟨place, -, -⟩ := stands
  cases stage with
  | before => simp [Worker.At, phase] at place
  | assigned =>
      obtain ⟨same, busy | reported | failed⟩ := place
      · have testing := busy.2.2
        simp only [phase, reduceCtorEq, false_or, WorkerPhase.testing.injEq] at testing
        exact ⟨rfl, testing, busy.1, same⟩
      · have phases := phase.symm.trans reported.2.2
        contradiction
      · have phases := phase.symm.trans failed.2.2
        contradiction
  | reported => simp [Worker.At, Worker.Reported, phase] at place
  | failed => simp [Worker.At, Worker.Failed, phase] at place
  | collected => simp [Worker.At, phase] at place

/-- A step keeps a worker where `main` expects it. -/
theorem Worker.Stands.step (anyTest : 0 < tests) (passed : Bool)
    (stands : worker.Stands tests round stage ran passes) {next : Worker} {tested : Option Int}
    (stepped : worker.step tests passed = some (next, tested)) :
    ∃ passes, next.Stands tests round stage (ran ++ tested.toList.map fun job => (job, passed))
      passes := by
  unfold Worker.step at stepped
  cases phase : worker.phase with
  | starting =>
      simp only [phase, Option.ite_none_right_eq_some, Option.some.injEq, Prod.mk.injEq] at stepped
      obtain ⟨ready, rfl, rfl⟩ := stepped
      exact ⟨passes, by simpa using stands.start phase ready⟩
  | waiting job =>
      simp only [phase, Option.ite_none_right_eq_some, Option.some.injEq, Prod.mk.injEq] at stepped
      obtain ⟨given, rfl, rfl⟩ := stepped
      exact ⟨passes, by simpa using stands.take anyTest phase given⟩
  | testing job =>
      obtain ⟨rfl, rfl, rfl, given⟩ := stands.testing phase
      have ran := stands.ran
      rw [phase] at ran
      simp only [phase] at stepped
      cases passed with
      | true =>
          simp only [if_true, Option.some.injEq, Prod.mk.injEq] at stepped
          obtain ⟨rfl, rfl⟩ := stepped
          refine ⟨passes + 1, ⟨given, .inr (.inl ⟨rfl, rfl, ?_⟩)⟩, by simp, ?_⟩
          · rw [jobAt_succ]
          · rw [ran]
            exact history_passed tests passes _
      | false =>
          simp only [Bool.false_eq_true, if_false, Option.some.injEq, Prod.mk.injEq] at stepped
          obtain ⟨rfl, rfl⟩ := stepped
          refine ⟨passes, ⟨given, .inr (.inr ⟨rfl, rfl, rfl⟩)⟩, by simp, ?_⟩
          rw [ran]
          exact history_failed tests passes
  | returned =>
      simp only [phase] at stepped
      contradiction

/-- A worker passed the tests of all rounds before this one, and at most that of this one. -/
theorem Worker.Stands.bounds (stands : worker.Stands tests round stage ran passes) :
    round ≤ passes ∧ passes ≤ round + 1 ∧ (worker.phase = .returned → passes = round) := by
  obtain ⟨place, -, -⟩ := stands
  cases stage with
  | before =>
      obtain ⟨-, rfl, -, -⟩ := place
      exact ⟨Nat.le_refl _, Nat.le_succ _, fun _ => rfl⟩
  | assigned =>
      obtain ⟨-, busy | reported | failed⟩ := place
      · obtain ⟨rfl, -, -⟩ := busy
        exact ⟨Nat.le_refl _, Nat.le_succ _, fun _ => rfl⟩
      · obtain ⟨rfl, -, phase⟩ := reported
        exact ⟨Nat.le_succ _, Nat.le_refl _, fun returned => by simp [phase] at returned⟩
      · obtain ⟨rfl, -, -⟩ := failed
        exact ⟨Nat.le_refl _, Nat.le_succ _, fun _ => rfl⟩
  | reported =>
      obtain ⟨-, rfl, -, phase⟩ := place
      exact ⟨Nat.le_succ _, Nat.le_refl _, fun returned => by simp [phase] at returned⟩
  | failed =>
      obtain ⟨-, rfl, -, -⟩ := place
      exact ⟨Nat.le_refl _, Nat.le_succ _, fun _ => rfl⟩
  | collected =>
      obtain ⟨-, rfl, -, phase⟩ := place
      exact ⟨Nat.le_succ _, Nat.le_refl _, fun returned => by simp [phase] at returned⟩

@[simp] theorem setWorker_main (state : State) (div : Nat) (worker : Worker) :
    (state.setWorker div worker).main = state.main := rfl

@[simp] theorem setWorker_log (state : State) (div : Nat) (worker : Worker) :
    (state.setWorker div worker).log = state.log := rfl

@[simp] theorem setWorker_self (state : State) (div : Nat) (worker : Worker) :
    (state.setWorker div worker).worker div = worker := Function.update_self _ _ _

theorem setWorker_other (state : State) {other : Nat} (ne : other ≠ div) (worker : Worker) :
    (state.setWorker div worker).worker other = state.worker other :=
  Function.update_of_ne ne _ _

theorem testedBy_append (div : Nat) (log more : List Event) :
    testedBy div (log ++ more) = testedBy div log ++ testedBy div more := List.filterMap_append

theorem okJobs_append (log more : List Event) :
    okJobs (log ++ more) = okJobs log ++ okJobs more := List.filterMap_append

theorem testedBy_own (div : Nat) (tested : Option Int) (passed : Bool) :
    testedBy div (tested.toList.map fun job => .tested div job passed) =
      tested.toList.map fun job => (job, passed) := by
  cases tested with
  | none => rfl
  | some job => simp [testedBy]

theorem testedBy_other {other : Nat} (ne : other ≠ div) (tested : Option Int) (passed : Bool) :
    testedBy other (tested.toList.map fun job => .tested div job passed) = [] := by
  cases tested with
  | none => rfl
  | some job => simp [testedBy, ne.symm]

theorem okJobs_tested (div : Nat) (tested : Option Int) (passed : Bool) :
    okJobs (tested.toList.map fun job => .tested div job passed) = [] := by
  cases tested <;> rfl

theorem State.At.workerStep (anyTest : 0 < tests) {passed : Bool} (place : state.At threads tests round)
    (stepped : state.workerStep tests div passed = some after) :
    after.At threads tests round := by
  obtain ⟨⟨next, tested⟩, step, rfl⟩ := Option.map_eq_some_iff.mp stepped
  refine ⟨place.main, fun other inside => ?_, ?_⟩
  · obtain ⟨passes, stands⟩ := place.worker other inside
    by_cases same : other = div
    · subst same
      obtain ⟨passes, stepStands⟩ := stands.step anyTest passed step
      refine ⟨passes, ?_⟩
      simpa [testedBy_append, testedBy_own] using stepStands
    · refine ⟨passes, ?_⟩
      simpa [setWorker_other state same, testedBy_append, testedBy_other same] using stands
  · simpa [okJobs_append, okJobs_tested] using place.ok

/-- `main` changes a worker `j`, and the stages of the others are as before. -/
theorem State.At.mainChange {j : Nat} {main : MainPhase} (place : state.At threads tests round)
    (mainAt : main.At threads tests round)
    (others : ∀ other, other ≠ j → main.stage other = state.main.stage other)
    (own : j < threads → ∀ passes,
      (state.worker j).Stands tests round (state.main.stage j) (testedBy j state.log) passes →
        worker.Stands tests round (main.stage j) (testedBy j state.log) passes) :
    State.At threads tests { state.setWorker j worker with main } round := by
  refine ⟨mainAt, fun other inside => ?_, place.ok⟩
  obtain ⟨passes, stands⟩ := place.worker other inside
  by_cases same : other = j
  · subst same
    exact ⟨passes, by simpa using own inside passes stands⟩
  · refine ⟨passes, ?_⟩
    change ((state.setWorker j worker).worker other).Stands tests round (main.stage other)
      (testedBy other state.log) passes
    rwa [setWorker_other state same, others other same]

/-- `main` goes on without a change of a worker. -/
theorem State.At.mainMoves {main : MainPhase} (place : state.At threads tests round)
    (mainAt : main.At threads tests round)
    (stages : ∀ div < threads, ∀ passes,
      (state.worker div).Stands tests round (state.main.stage div) (testedBy div state.log) passes →
        (state.worker div).Stands tests round (main.stage div) (testedBy div state.log) passes) :
    State.At threads tests { state with main } round := by
  refine ⟨mainAt, fun div inside => ?_, place.ok⟩
  obtain ⟨passes, stands⟩ := place.worker div inside
  exact ⟨passes, stages div inside passes stands⟩

/-- A worker that was collected waits for the next round. -/
theorem Worker.Stands.nextRound (anyTest : 0 < tests)
    (stands : worker.Stands tests round .collected ran passes) :
    worker.Stands tests (round + 1) .before ran passes := by
  obtain ⟨⟨given, passed, report, phase⟩, -, ran⟩ := stands
  refine ⟨⟨?_, passed, report, .inr phase⟩, ?_, ran⟩
  · rw [given]
    exact jobAt_succ_ne anyTest round
  · rw [phase]
    simp

theorem Worker.Stands.setReady (stands : worker.Stands tests round .before ran passes)
    (first : jobAt tests round = -1) :
    Worker.Stands tests round .before { worker with testJobId := -2 } ran passes := by
  obtain ⟨⟨-, passed, report, phase⟩, starting, ran⟩ := stands
  refine ⟨⟨?_, passed, report, phase⟩, starting, ran⟩
  rw [first]
  simp

theorem Worker.Stands.assign (stands : worker.Stands tests round .before ran passes) :
    Worker.Stands tests round .assigned { worker with testJobId := jobAt tests round } ran passes := by
  obtain ⟨⟨-, passed, report, phase⟩, starting, ran⟩ := stands
  refine ⟨⟨rfl, .inl ⟨passed, report, ?_⟩⟩, starting, ran⟩
  rcases phase with starts | waits
  · exact .inl starts
  · exact .inr (.inl waits)

/-- What `main` reads says how the test went. -/
theorem Worker.Stands.read (stands : worker.Stands tests round .assigned ran passes) :
    (worker.testWorkerReport = -1 → worker.Stands tests round .failed ran passes) ∧
      (worker.testWorkerReport = 1 → worker.Stands tests round .reported ran passes) ∧
      (worker.testWorkerReport ≠ -1 → worker.testWorkerReport ≠ 1 →
        worker.Busy tests round passes) := by
  obtain ⟨⟨given, busy | reported | failed⟩, starting, ran⟩ := stands
  · have report := busy.2.1
    exact ⟨fun other => by omega, fun other => by omega, fun _ _ => busy⟩
  · have report := reported.2.1
    exact ⟨fun other => by omega, fun _ => ⟨⟨given, reported⟩, starting, ran⟩,
      fun _ other => absurd report other⟩
  · have report := failed.2.1
    exact ⟨fun _ => ⟨⟨given, failed⟩, starting, ran⟩, fun other => by omega,
      fun other _ => absurd report other⟩

theorem Worker.Stands.clear (stands : worker.Stands tests round .reported ran passes) :
    Worker.Stands tests round .collected { worker with testWorkerReport := 0 } ran passes := by
  obtain ⟨⟨given, passed, -, phase⟩, starting, ran⟩ := stands
  exact ⟨⟨given, passed, rfl, phase⟩, starting, ran⟩

/-- `main` reads the report of one worker. -/
theorem State.At.reads {job : Int} {j : Nat} {next : MainPhase}
    (place : state.At threads tests round) (main : state.main = .collect job j)
    (position : next.At threads tests round)
    (others : ∀ div, div ≠ j → next.stage div = (MainPhase.collect job j).stage div)
    (own : ∀ ran passes, (state.worker j).Stands tests round .assigned ran passes →
      (state.worker j).Stands tests round (next.stage j) ran passes) :
    State.At threads tests { state with main := next } round := by
  refine place.mainMoves position fun div _ passes stands => ?_
  rw [main] at stands
  by_cases same : div = j
  · subst same
    rw [MainPhase.stage, if_neg (Nat.lt_irrefl div)] at stands
    exact own _ _ stands
  · rwa [others div same]

/-- Where all reports are collected the test is shown, and the next round begins. -/
theorem State.At.collected (anyTest : 0 < tests) {job : Int} {j : Nat}
    (place : state.At threads tests round) (main : state.main = .collect job j)
    (all : ¬j < threads) :
    State.At threads tests
      { state with
        main := if job + 1 < tests then .assign (job + 1) 0 else .setReady 0
        log := state.log ++ [.ok job] } (round + 1) := by
  have mainAt := place.main
  rw [main] at mainAt
  have stage : ∀ div, (if job + 1 < tests then MainPhase.assign (job + 1) 0
      else .setReady 0).stage div = .before := by
    intro div
    split <;> rfl
  refine ⟨?_, fun div inside => ?_, ?_⟩
  · have next := jobAt_succ tests round
    rw [← mainAt.1] at next
    dsimp only
    split
    · next more => exact ⟨by rw [next, if_pos more], Nat.zero_le _⟩
    · next last => exact ⟨by rw [next, if_neg last], Nat.zero_le _⟩
  · obtain ⟨passes, stands⟩ := place.worker div inside
    rw [main, MainPhase.stage, if_pos (by omega)] at stands
    refine ⟨passes, ?_⟩
    dsimp only
    rw [stage, testedBy_append]
    simpa [testedBy] using stands.nextRound anyTest
  · dsimp only
    rw [okJobs_append, place.ok, List.range_succ, List.map_append, mainAt.1]
    rfl

/-- A step of `main` keeps the round or begins the next one. -/
theorem State.At.mainStep (anyTest : 0 < tests) (place : state.At threads tests round)
    (stepped : state.mainStep threads tests = some after) :
    after.At threads tests round ∨ after.At threads tests (round + 1) := by
  have mainAt := place.main
  unfold State.mainStep at stepped
  cases main : state.main with
  | setReady j =>
      rw [main] at mainAt
      simp only [main] at stepped
      split at stepped
      · next inside =>
          obtain rfl := Option.some.inj stepped
          refine .inl (place.mainChange ⟨mainAt.1, inside⟩ (fun _ _ => by rw [main]; rfl) ?_)
          intro _ passes stands
          rw [main] at stands
          exact stands.setReady mainAt.1
      · obtain rfl := Option.some.inj stepped
        refine .inl (place.mainMoves ⟨mainAt.1.symm, Nat.zero_le _⟩ fun div _ _ stands => ?_)
        rwa [main] at stands
  | assign job j =>
      rw [main] at mainAt
      simp only [main] at stepped
      split at stepped
      · next inside =>
          obtain rfl := Option.some.inj stepped
          refine .inl (place.mainChange (j := j) ⟨mainAt.1, inside⟩ (fun other ne => ?_) ?_)
          · have same : other < j + 1 ↔ other < j := by omega
            simp only [main, MainPhase.stage, same]
          · intro _ passes stands
            rw [main, MainPhase.stage, if_neg (Nat.lt_irrefl j)] at stands
            rw [MainPhase.stage, if_pos (Nat.lt_succ_self j), mainAt.1]
            exact stands.assign
      · next outside =>
          obtain rfl := Option.some.inj stepped
          refine .inl (place.mainMoves ⟨mainAt.1, Nat.zero_le _⟩ fun div inside _ stands => ?_)
          rwa [main, MainPhase.stage, if_pos (by omega)] at stands
  | collect job j =>
      rw [main] at mainAt
      simp only [main] at stepped
      split at stepped
      · next inside =>
          split at stepped
          · next error =>
              obtain rfl := Option.some.inj stepped
              refine .inl (place.reads main inside (fun div ne => ?_) fun _ passes stands => ?_)
              · simp only [MainPhase.stage, ne, if_false]
              · rw [MainPhase.stage, if_neg (Nat.lt_irrefl j), if_pos rfl]
                exact stands.read.1 error
          · split at stepped
            · next success =>
                obtain rfl := Option.some.inj stepped
                refine .inl (place.reads main ⟨mainAt.1, inside⟩ (fun div ne => ?_)
                  fun _ passes stands => ?_)
                · simp only [MainPhase.stage, ne, if_false]
                · rw [MainPhase.stage, if_neg (Nat.lt_irrefl j), if_pos rfl]
                  exact stands.read.2.1 success
            · contradiction
      · next outside =>
          obtain rfl := Option.some.inj stepped
          exact .inr (place.collected anyTest main outside)
  | clear job j =>
      rw [main] at mainAt
      simp only [main] at stepped
      obtain rfl := Option.some.inj stepped
      refine .inl (place.mainChange (j := j) ⟨mainAt.1, mainAt.2⟩ (fun other ne => ?_) ?_)
      · have same : other < j + 1 ↔ other < j := by omega
        simp only [main, MainPhase.stage, same, ne, if_false]
      · intro _ passes stands
        rw [main, MainPhase.stage, if_neg (Nat.lt_irrefl j), if_pos rfl] at stands
        rw [MainPhase.stage, if_pos (Nat.lt_succ_self j)]
        exact stands.clear
  | stopped j =>
      simp only [main] at stepped
      contradiction

theorem State.At.advance (anyTest : 0 < tests) (place : state.At threads tests round) {actor : Actor}
    (advanced : state.advance threads tests actor = some after) :
    after.At threads tests round ∨ after.At threads tests (round + 1) := by
  cases actor with
  | main => exact place.mainStep anyTest advanced
  | worker div passed =>
      simp only [State.advance, Option.ite_none_right_eq_some] at advanced
      exact .inl (place.workerStep anyTest advanced.2)

theorem initial_at (threads tests : Nat) : State.initial.At threads tests 0 where
  main := ⟨jobAt_zero tests, Nat.zero_le _⟩
  worker := by
    intro div _
    refine ⟨0, ⟨?_, rfl, rfl, .inl rfl⟩, fun _ => rfl, rfl⟩
    rw [jobAt_zero]
    simp [State.initial]
  ok := rfl

theorem at_of_run (anyTest : 0 < tests) (place : state.At threads tests round)
    (actors : List Actor) : ∃ round, (run (State.apply threads tests) state actors).At threads tests
      round := by
  induction actors generalizing state round with
  | nil => exact ⟨round, place⟩
  | cons actor rest ih =>
      cases advanced : state.advance threads tests actor with
      | none =>
          have same : state.apply threads tests actor = state := by
            rw [State.apply, advanced, Option.getD_none]
          change ∃ round, State.At _ _ (Data.run _ (state.apply threads tests actor) rest) round
          rw [same]
          exact ih place
      | some after =>
          have same : state.apply threads tests actor = after := by
            rw [State.apply, advanced, Option.getD_some]
          change ∃ round, State.At _ _ (Data.run _ (state.apply threads tests actor) rest) round
          rw [same]
          rcases place.advance anyTest advanced with kept | next
          · exact ih kept
          · exact ih next

/-- In every order of the threads' steps the workers run the jobs in their order, each all of them,
`main` shows a test to be passed only after every worker passed it, no worker is more than one test
ahead of that, and what a worker failed is never shown to be passed; an error that is shown is one
of that worker. -/
theorem workers_in_step (threads tests : Nat) (anyTest : 0 < tests) (actors : List Actor) :
    ∃ round, okJobs (run (State.apply threads tests) State.initial actors).log =
        (List.range round).map (jobAt tests) ∧
      ∀ div < threads, ∃ passes, round ≤ passes ∧ passes ≤ round + 1 ∧
        (testedBy div (run (State.apply threads tests) State.initial actors).log =
            (List.range passes).map (fun round => (jobAt tests round, true)) ∧
          (run (State.apply threads tests) State.initial actors).main ≠ .stopped div ∨
        passes = round ∧
          testedBy div (run (State.apply threads tests) State.initial actors).log =
            (List.range round).map (fun round => (jobAt tests round, true)) ++
              [(jobAt tests round, false)]) := by
  obtain ⟨round, place⟩ := at_of_run anyTest (initial_at threads tests) actors
  refine ⟨round, place.ok, fun div inside => ?_⟩
  obtain ⟨passes, stands⟩ := place.worker div inside
  generalize Data.run (State.apply threads tests) State.initial actors = state at place stands ⊢
  obtain ⟨atLeast, atMost, failed⟩ := stands.bounds
  refine ⟨passes, atLeast, atMost, ?_⟩
  by_cases returned : (state.worker div).phase = .returned
  · obtain rfl := failed returned
    refine .inr ⟨rfl, ?_⟩
    rw [stands.ran, history, if_pos returned]
  · refine .inl ⟨stands.ran.trans (history_of_ne returned), fun stopped => returned ?_⟩
    have place := stands.place
    rw [stopped, MainPhase.stage, if_neg (Nat.lt_irrefl div), if_pos rfl] at place
    exact place.2.2.2

end

/-- The second of three workers fails the first test. -/
def faultyRun : List Actor :=
  [.main, .main, .main, .worker 0 true, .worker 1 true, .worker 2 true,
   .main, .main, .main, .main, .main, .worker 1 false, .worker 1 false, .worker 0 true,
   .worker 0 true, .main, .main, .main]

theorem workers_in_step_faulty :
    ∃ round, okJobs (run (State.apply 3 15) State.initial faultyRun).log =
        (List.range round).map (jobAt 15) ∧
      ∀ div < 3, ∃ passes, round ≤ passes ∧ passes ≤ round + 1 ∧
        (testedBy div (run (State.apply 3 15) State.initial faultyRun).log =
            (List.range passes).map (fun round => (jobAt 15 round, true)) ∧
          (run (State.apply 3 15) State.initial faultyRun).main ≠ .stopped div ∨
        passes = round ∧
          testedBy div (run (State.apply 3 15) State.initial faultyRun).log =
            (List.range round).map (fun round => (jobAt 15 round, true)) ++
              [(jobAt 15 round, false)]) :=
  workers_in_step 3 15 (by decide) faultyRun

end HorizonOc.MemTester
