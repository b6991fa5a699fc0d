import Mathlib.Logic.Function.Basic
import HorizonOc.Data.Program

namespace HorizonOc.Data

/-! Workers that share a state and one mutex.

Each worker repeats two parts: an unguarded `enter`, which ends in the decision
to go on, and a `critical` program under the mutex, taken when the program
starts and given back when it returns.  Sleeping inside keeps the mutex. -/

structure Worker (σ ε : Type) where
  enter : σ → σ × Bool
  critical : Program σ ε PUnit

inductive Phase (σ ε : Type) where
  | outside
  | waiting
  | inside (resume : σ → Step σ ε PUnit)

def Phase.isOutside {σ ε : Type} : Phase σ ε → Bool
  | .outside => true
  | _ => false

def Phase.isWaiting {σ ε : Type} : Phase σ ε → Bool
  | .waiting => true
  | _ => false

theorem Phase.eq_outside {σ ε : Type} {phase : Phase σ ε} (outside : phase.isOutside = true) :
    phase = .outside := by
  cases phase with
  | outside => rfl
  | waiting => contradiction
  | inside resume => contradiction

structure World (ι σ ε : Type) where
  shared : σ
  holder : Option ι
  phase : ι → Phase σ ε

inductive Actor (ι : Type) where
  | worker (index : ι)
  | environment

variable {ι σ ε γ : Type} [DecidableEq ι]

namespace World

/-- Nobody has begun. -/
def idle (shared : σ) : World ι σ ε := { shared, holder := none, phase := fun _ => .outside }

/-- Where a worker stands after a piece of its critical part; a failure ends the process. -/
def settle (world : World ι σ ε) (index : ι) : Step σ ε PUnit → Option (World ι σ ε)
  | .done _ shared =>
      some { shared, holder := none, phase := Function.update world.phase index .outside }
  | .sleep shared resume =>
      some { shared, holder := some index,
             phase := Function.update world.phase index (.inside resume) }
  | .fail _ => none

/-- The next piece of one worker, when it can move. -/
def advance (workers : ι → Worker σ ε) (world : World ι σ ε) (index : ι) :
    Option (World ι σ ε) :=
  match world.phase index with
  | .outside =>
      let entered := (workers index).enter world.shared
      some { world with
        shared := entered.1
        phase := Function.update world.phase index (if entered.2 then .waiting else .outside) }
  | .waiting =>
      match world.holder with
      | none => world.settle index ((workers index).critical world.shared)
      | some _ => none
  | .inside resume => world.settle index (resume world.shared)

/-- A run in which the workers move in the given order. -/
def schedule (workers : ι → Worker σ ε) (world : World ι σ ε) (order : List ι) :
    Option (World ι σ ε) :=
  order.foldlM (advance workers) world

/-- A run in the given order whose every move passes a check of the worlds around it. -/
def scheduleChecked (workers : ι → Worker σ ε) (check : World ι σ ε → World ι σ ε → Bool)
    (world : World ι σ ε) (order : List ι) : Option (World ι σ ε) :=
  order.foldlM (fun world index => (world.advance workers index).filter (check world)) world

inductive Moves (workers : ι → Worker σ ε) (environment : σ → σ → Prop) :
    World ι σ ε → Actor ι → World ι σ ε → Prop where
  | worker {world next : World ι σ ε} {index : ι}
      (advanced : world.advance workers index = some next) :
      Moves workers environment world (.worker index) next
  | environment {world : World ι σ ε} {shared : σ} (changed : environment world.shared shared) :
      Moves workers environment world .environment { world with shared }

/-- The worlds reached by moves that are all `allowed`. -/
inductive Reaches (workers : ι → Worker σ ε) (environment : σ → σ → Prop)
    (allowed : World ι σ ε → Actor ι → World ι σ ε → Prop) (start : World ι σ ε) :
    World ι σ ε → Prop where
  | start : Reaches workers environment allowed start start
  | step {world next : World ι σ ε} {actor : Actor ι}
      (before : Reaches workers environment allowed start world)
      (moved : Moves workers environment world actor next)
      (permitted : allowed world actor next) :
      Reaches workers environment allowed start next

variable {workers : ι → Worker σ ε} {environment : σ → σ → Prop}
  {allowed : World ι σ ε → Actor ι → World ι σ ε → Prop} {start world next : World ι σ ε}

theorem Reaches.invariant {holds : World ι σ ε → Prop}
    (reached : Reaches workers environment allowed start world) (initial : holds start)
    (step : ∀ {world next actor}, holds world → Moves workers environment world actor next →
      allowed world actor next → holds next) : holds world := by
  induction reached with
  | start => exact initial
  | step before moved permitted ih => exact step ih moved permitted

theorem Reaches.schedule {middle : World ι σ ε} {order : List ι}
    (permitted : ∀ world index next, allowed world (.worker index) next)
    (reached : Reaches workers environment allowed start middle)
    (scheduled : middle.schedule workers order = some world) :
    Reaches workers environment allowed start world := by
  induction order generalizing middle with
  | nil =>
      cases scheduled
      exact reached
  | cons index rest ih =>
      cases first : middle.advance workers index with
      | none => simp [World.schedule, first] at scheduled
      | some next =>
          refine ih (.step reached (.worker first) (permitted _ _ _)) ?_
          simpa [World.schedule, first] using scheduled

theorem Reaches.scheduleChecked {middle : World ι σ ε} {order : List ι}
    {check : World ι σ ε → World ι σ ε → Bool}
    (permitted : ∀ world index next, check world next = true → allowed world (.worker index) next)
    (reached : Reaches workers environment allowed start middle)
    (scheduled : middle.scheduleChecked workers check order = some world) :
    Reaches workers environment allowed start world := by
  induction order generalizing middle with
  | nil =>
      cases scheduled
      exact reached
  | cons index rest ih =>
      cases first : (middle.advance workers index).filter (check middle) with
      | none => simp [World.scheduleChecked, first] at scheduled
      | some next =>
          obtain ⟨advanced, checked⟩ := Option.filter_eq_some_iff.mp first
          refine ih (.step reached (.worker advanced) (permitted _ _ _ checked)) ?_
          simpa [World.scheduleChecked, first] using scheduled

/-- The two kinds of move of a worker: it enters, or it runs a piece of its critical part,
for which it holds the mutex or takes it. -/
theorem advance_cases {index : ι} (advanced : world.advance workers index = some next) :
    (world.phase index = .outside ∧
      next = { world with
        shared := ((workers index).enter world.shared).1
        phase := Function.update world.phase index
          (if ((workers index).enter world.shared).2 then .waiting else .outside) }) ∨
    (∃ piece, world.settle index piece = some next ∧
      ((world.phase index = .waiting ∧ world.holder = none ∧
          piece = (workers index).critical world.shared) ∨
        ∃ resume, world.phase index = .inside resume ∧ piece = resume world.shared)) := by
  unfold advance at advanced
  split at advanced
  · rename_i outside
    cases advanced
    exact .inl ⟨outside, rfl⟩
  · rename_i waiting
    split at advanced
    · rename_i free
      exact .inr ⟨_, advanced, .inl ⟨waiting, free, rfl⟩⟩
    · contradiction
  · rename_i resume inside
    exact .inr ⟨_, advanced, .inr ⟨resume, inside, rfl⟩⟩

/-- Only the holder of the mutex is inside. -/
def Exclusive (world : World ι σ ε) : Prop :=
  ∀ index resume, world.phase index = .inside resume → world.holder = some index

omit [DecidableEq ι] in
/-- A worker that runs a piece of its critical part is the only one that is inside. -/
theorem Exclusive.alone {index other : ι} {piece : Step σ ε PUnit} {later : σ → Step σ ε PUnit}
    (exclusive : world.Exclusive)
    (entitled : (world.phase index = .waiting ∧ world.holder = none ∧
        piece = (workers index).critical world.shared) ∨
      ∃ resume, world.phase index = .inside resume ∧ piece = resume world.shared)
    (inside : world.phase other = .inside later) : other = index := by
  have held := exclusive other later inside
  rcases entitled with ⟨-, free, -⟩ | ⟨resume, mine, -⟩
  · rw [free] at held
    contradiction
  · rw [exclusive index resume mine] at held
    exact (Option.some.inj held).symm

/-! Gates.  A worker with a gate enters only while the gate is open, and tests it before it
takes the mutex.  The others may close it while the worker waits: then the worker
goes on with the gate closed.  Without that, a closed gate keeps it outside. -/

structure Gated (workers : ι → Worker σ ε) (environment : σ → σ → Prop)
    (enabled : ι → σ → Bool) : Prop where
  enter_tests : ∀ index shared, ((workers index).enter shared).2 = true →
    enabled index shared = true
  enter_keeps : ∀ index other shared,
    enabled other ((workers index).enter shared).1 = enabled other shared
  critical_keeps : ∀ index, (workers index).critical.Respects (Same (enabled index))
  environment_keeps : ∀ before after, environment before after → ∀ index,
    enabled index after = enabled index before

/-- The move closes no gate whose worker is waiting for the mutex. -/
def SparesWaiting (enabled : ι → σ → Bool) (world : World ι σ ε) (_ : Actor ι)
    (next : World ι σ ε) : Prop :=
  ∀ index, world.phase index = .waiting → enabled index world.shared = true →
    enabled index next.shared = true

/-- The same, computed for workers that are all listed. -/
def sparesWaiting (enabled : ι → σ → Bool) (indices : List ι) (world next : World ι σ ε) : Bool :=
  indices.all fun index =>
    !((world.phase index).isWaiting && enabled index world.shared) || enabled index next.shared

omit [DecidableEq ι] in
theorem sparesWaiting_sound {enabled : ι → σ → Bool} {indices : List ι} {actor : Actor ι}
    (complete : ∀ index, index ∈ indices)
    (spares : sparesWaiting enabled indices world next = true) :
    SparesWaiting enabled world actor next := by
  intro index waiting opened
  have spared := List.all_eq_true.mp spares index (complete index)
  simpa [waiting, opened, Phase.isWaiting] using spared

structure GateInvariant (enabled : ι → σ → Bool) (world : World ι σ ε) : Prop where
  exclusive : world.Exclusive
  resumes : ∀ index resume, world.phase index = .inside resume → ∀ later,
    (resume later).Within (Same (enabled index)) later
  closed_outside : ∀ index, enabled index world.shared = false → world.phase index = .outside

variable {enabled : ι → σ → Bool}

omit [DecidableEq ι] in
theorem gateInvariant_idle (shared : σ) :
    (idle shared : World ι σ ε).GateInvariant enabled :=
  ⟨fun _ _ inside => by contradiction, fun _ _ inside => by contradiction, fun _ _ => rfl⟩

theorem GateInvariant.enter {index : ι} (gated : Gated workers environment enabled)
    (invariant : world.GateInvariant enabled) (outside : world.phase index = .outside) :
    GateInvariant enabled { world with
      shared := ((workers index).enter world.shared).1
      phase := Function.update world.phase index
        (if ((workers index).enter world.shared).2 then .waiting else .outside) } := by
  refine ⟨fun other resume inside => ?_, fun other resume inside => ?_, fun other closed => ?_⟩
  all_goals by_cases same : other = index
  · subst same
    simp only [Function.update_self] at inside
    split at inside <;> contradiction
  · simp only [Function.update_of_ne same] at inside
    exact invariant.exclusive other resume inside
  · subst same
    simp only [Function.update_self] at inside
    split at inside <;> contradiction
  · simp only [Function.update_of_ne same] at inside
    exact invariant.resumes other resume inside
  · subst same
    simp only [gated.enter_keeps] at closed
    cases goes : ((workers other).enter world.shared).2 with
    | false => simp
    | true =>
        rw [gated.enter_tests other world.shared goes] at closed
        contradiction
  · simp only [gated.enter_keeps] at closed
    simpa only [Function.update_of_ne same] using invariant.closed_outside other closed

/-- A piece of a critical part, from a world in which its worker's gate is open. -/
theorem GateInvariant.settle {index : ι} {piece : Step σ ε PUnit}
    (invariant : world.GateInvariant enabled)
    (alone : ∀ other later, world.phase other = .inside later → other = index)
    (within : piece.Within (Same (enabled index)) world.shared)
    (opened : enabled index world.shared = true)
    (settled : world.settle index piece = some next)
    (spares : SparesWaiting enabled world (.worker index) next) :
    next.GateInvariant enabled := by
  have others : ∀ other, other ≠ index → next.phase other = world.phase other := by
    intro other differs
    cases piece with
    | fail error => contradiction
    | done value shared => cases settled; exact Function.update_of_ne differs ..
    | sleep shared resume => cases settled; exact Function.update_of_ne differs ..
  have leftOutside : ∀ other, other ≠ index → enabled other next.shared = false →
      next.phase other = .outside := by
    intro other differs closed
    rw [others other differs]
    cases now : enabled other world.shared with
    | false => exact invariant.closed_outside other now
    | true =>
        cases stands : world.phase other with
        | outside => rfl
        | waiting =>
            rw [spares other stands now] at closed
            contradiction
        | inside later => exact absurd (alone other later stands) differs
  have notInside : ∀ other later, other ≠ index → next.phase other ≠ .inside later := by
    intro other later differs inside
    rw [others other differs] at inside
    exact differs (alone other later inside)
  cases piece with
  | fail error => contradiction
  | done value shared =>
      cases settled
      refine ⟨fun other later inside => ?_, fun other later inside => ?_, fun other closed => ?_⟩
      all_goals by_cases same : other = index
      · subst same
        simp at inside
      · exact absurd inside (notInside other later same)
      · subst same
        simp at inside
      · exact absurd inside (notInside other later same)
      · subst same
        simp
      · exact leftOutside other same closed
  | sleep shared resume =>
      cases settled
      refine ⟨fun other later inside => ?_, fun other later inside => ?_, fun other closed => ?_⟩
      all_goals by_cases same : other = index
      · rw [same]
      · exact absurd inside (notInside other later same)
      · subst same
        simp only [Function.update_self, Phase.inside.injEq] at inside
        subst inside
        exact within.2
      · exact absurd inside (notInside other later same)
      · subst same
        have kept : enabled other shared = enabled other world.shared := within.1
        rw [kept, opened] at closed
        contradiction
      · exact leftOutside other same closed

theorem GateInvariant.advance {index : ι} (gated : Gated workers environment enabled)
    (invariant : world.GateInvariant enabled)
    (advanced : world.advance workers index = some next)
    (spares : SparesWaiting enabled world (.worker index) next) :
    next.GateInvariant enabled := by
  rcases advance_cases advanced with ⟨outside, rfl⟩ | ⟨piece, settled, entitled⟩
  · exact invariant.enter gated outside
  · have opened : enabled index world.shared = true := by
      cases now : enabled index world.shared with
      | true => rfl
      | false =>
          have outside := invariant.closed_outside index now
          rcases entitled with ⟨waiting, -⟩ | ⟨resume, inside, -⟩
          · rw [outside] at waiting
            contradiction
          · rw [outside] at inside
            contradiction
    have within : piece.Within (Same (enabled index)) world.shared := by
      rcases entitled with ⟨-, -, rfl⟩ | ⟨resume, inside, rfl⟩
      · exact (gated.critical_keeps index).within world.shared
      · exact invariant.resumes index resume inside world.shared
    exact invariant.settle (fun other later => invariant.exclusive.alone entitled) within opened
      settled spares

/-- Runs in which no gate closes on a waiting worker keep the gate invariant. -/
theorem Reaches.gateInvariant (gated : Gated workers environment enabled)
    (reached : Reaches workers environment (SparesWaiting enabled) start world)
    (initial : start.GateInvariant enabled) : world.GateInvariant enabled := by
  refine reached.invariant initial fun {before next actor} invariant moved spares => ?_
  cases moved with
  | worker advanced => exact invariant.advance gated advanced spares
  | environment changed =>
      refine ⟨invariant.exclusive, invariant.resumes, fun index closed => ?_⟩
      rw [gated.environment_keeps _ _ changed] at closed
      exact invariant.closed_outside index closed

/-- A worker whose gate is closed can only enter. -/
theorem GateInvariant.advance_closed {index : ι} (invariant : world.GateInvariant enabled)
    (closed : enabled index world.shared = false)
    (advanced : world.advance workers index = some next) :
    next.shared = ((workers index).enter world.shared).1 := by
  have outside := invariant.closed_outside index closed
  rcases advance_cases advanced with ⟨-, rfl⟩ | ⟨piece, settled, ⟨waiting, -⟩ | ⟨resume, inside, -⟩⟩
  · rfl
  · rw [outside] at waiting
    contradiction
  · rw [outside] at inside
    contradiction

end World

end HorizonOc.Data
