import Mathlib.Tactic.Common

namespace HorizonOc.Data

/-! Programs over a shared state that may sleep.

A program is cut into atomic pieces at its sleeps.  Run alone, it ignores them
(`Program.run`); run beside others, they are the points at which the others
may act (`HorizonOc.Data.Workers`).  Both readings come from one definition. -/

inductive Step (σ ε α : Type u) where
  | done (value : α) (state : σ)
  | fail (error : ε)
  | sleep (state : σ) (resume : σ → Step σ ε α)

variable {σ ε α β γ : Type u}

namespace Step

def bind : Step σ ε α → (α → σ → Step σ ε β) → Step σ ε β
  | .done value state, next => next value state
  | .fail error, _ => .fail error
  | .sleep state resume, next => .sleep state fun later => (resume later).bind next

/-- The result of a program whose sleeps let nobody in. -/
def finish : Step σ ε α → Except ε (α × σ)
  | .done value state => .ok (value, state)
  | .fail error => .error error
  | .sleep state resume => (resume state).finish

theorem finish_bind (step : Step σ ε α) (next : α → σ → Step σ ε β) :
    (step.bind next).finish =
      match step.finish with
      | .ok (value, state) => (next value state).finish
      | .error error => .error error := by
  induction step with
  | done value state => rfl
  | fail error => rfl
  | sleep state resume ih => exact ih state

end Step

def Program (σ ε α : Type u) := σ → Step σ ε α

namespace Program

instance : Monad (Program σ ε) where
  pure value := fun state => .done value state
  bind program next := fun state => (program state).bind next

def read : Program σ ε σ := fun state => .done state state

def update (change : σ → σ) : Program σ ε PUnit := fun state => .done ⟨⟩ (change state)

def modifyGet (act : σ → α × σ) : Program σ ε α := fun state => .done (act state).1 (act state).2

def throw (error : ε) : Program σ ε α := fun _ => .fail error

def sleep : Program σ ε PUnit := fun state => .sleep state fun later => .done ⟨⟩ later

/-- A value that may be missing, with the error its absence raises. -/
def ofOption (error : ε) : Option α → Program σ ε α
  | some value => pure value
  | none => throw error

def when (condition : Prop) [Decidable condition] (program : Program σ ε PUnit) :
    Program σ ε PUnit :=
  if condition then program else pure ⟨⟩

/-- Running a program by itself. -/
def run (program : Program σ ε α) (state : σ) : Except ε (α × σ) :=
  (program state).finish

@[simp] theorem run_pure (value : α) (state : σ) :
    (pure value : Program σ ε α).run state = .ok (value, state) := rfl

@[simp] theorem run_read (state : σ) :
    (read : Program σ ε σ).run state = .ok (state, state) := rfl

/-- The state in which a program run by itself returns. -/
def outcome (program : Program σ ε α) (state : σ) : Option σ :=
  match program.run state with
  | .ok (_, final) => some final
  | .error _ => none

theorem run_of_outcome {program : Program σ ε PUnit} {state final : σ}
    (returned : program.outcome state = some final) : program.run state = .ok (⟨⟩, final) := by
  unfold outcome at returned
  split at returned
  · cases returned
    assumption
  · contradiction

theorem outcome_of_run {program : Program σ ε α} {state final : σ} {value : α}
    (finished : program.run state = .ok (value, final)) : program.outcome state = some final := by
  rw [outcome, finished]

theorem run_bind (program : Program σ ε α) (next : α → Program σ ε β) (state : σ) :
    (program >>= next).run state =
      match program.run state with
      | .ok (value, middle) => (next value).run middle
      | .error error => .error error :=
  Step.finish_bind (program state) next

/-- A sequence that returned went through a middle state. -/
theorem run_bind_ok {program : Program σ ε α} {next : α → Program σ ε β} {state : σ}
    {result : β × σ} (finished : (program >>= next).run state = .ok result) :
    ∃ value middle, program.run state = .ok (value, middle) ∧
      (next value).run middle = .ok result := by
  rw [run_bind] at finished
  cases first : program.run state with
  | error error => rw [first] at finished; contradiction
  | ok outcome => rw [first] at finished; exact ⟨outcome.1, outcome.2, rfl, finished⟩

theorem run_bind_of_ok {program : Program σ ε α} (next : α → Program σ ε β) {state middle : σ}
    {value : α} (first : program.run state = .ok (value, middle)) :
    (program >>= next).run state = (next value).run middle := by
  rw [run_bind, first]

theorem run_when_true {condition : Prop} [Decidable condition] {program : Program σ ε PUnit}
    (holds : condition) (state : σ) : (when condition program).run state = program.run state := by
  rw [when, if_pos holds]

theorem run_when_false {condition : Prop} [Decidable condition] {program : Program σ ε PUnit}
    (fails : ¬condition) (state : σ) : (when condition program).run state = .ok (⟨⟩, state) := by
  rw [when, if_neg fails, run_pure]

theorem when_congr {condition other : Prop} [Decidable condition] [Decidable other]
    (same : condition ↔ other) (program : Program σ ε PUnit) :
    when condition program = when other program := by
  unfold when
  simp only [same]

theorem run_when_ok {condition : Prop} [Decidable condition] {program : Program σ ε PUnit}
    {state final : σ} {value : PUnit}
    (finished : (when condition program).run state = .ok (value, final)) :
    (condition ∧ program.run state = .ok (⟨⟩, final)) ∨ (¬condition ∧ final = state) := by
  by_cases holds : condition
  · rw [run_when_true holds] at finished
    exact .inl ⟨holds, finished⟩
  · rw [run_when_false holds] at finished
    cases finished
    exact .inr ⟨holds, rfl⟩

theorem run_read_bind (next : σ → Program σ ε α) (state : σ) :
    (read >>= next).run state = (next state).run state := rfl

theorem run_update_bind (change : σ → σ) (next : PUnit → Program σ ε α) (state : σ) :
    (update change >>= next).run state = (next ⟨⟩).run (change state) := rfl

theorem run_modifyGet_bind (act : σ → β × σ) (next : β → Program σ ε α) (state : σ) :
    (modifyGet act >>= next).run state = (next (act state).1).run (act state).2 := rfl

theorem run_ofOption_bind_ok {error : ε} {candidate : Option β} {next : β → Program σ ε α}
    {state : σ} {result : α × σ}
    (finished : (ofOption error candidate >>= next).run state = .ok result) :
    ∃ value, candidate = some value ∧ (next value).run state = .ok result := by
  cases candidate with
  | none => contradiction
  | some value => exact ⟨value, rfl, finished⟩

theorem run_ofOption_ok {error : ε} {candidate : Option α} {state : σ} {result : α × σ}
    (finished : (ofOption error candidate).run state = .ok result) :
    candidate = some result.1 ∧ result.2 = state := by
  cases candidate with
  | none => contradiction
  | some value => cases finished; exact ⟨rfl, rfl⟩

end Program

/-- The pieces of a step that starts at `origin` stay within `bounds`. -/
def Step.Within (bounds : σ → σ → Prop) (origin : σ) : Step σ ε α → Prop
  | .done _ state => bounds origin state
  | .fail _ => True
  | .sleep state resume =>
      bounds origin state ∧ ∀ later, (resume later).Within bounds later

theorem Step.Within.mono {bounds wider : σ → σ → Prop} {origin : σ} {step : Step σ ε α}
    (within : step.Within bounds origin)
    (included : ∀ before after, bounds before after → wider before after) :
    step.Within wider origin := by
  induction step generalizing origin with
  | done value state => exact included _ _ within
  | fail error => trivial
  | sleep state resume ih => exact ⟨included _ _ within.1, fun later => ih later (within.2 later)⟩

/-- The relation that lets everything change but a view. -/
def Same (view : σ → γ) (before after : σ) : Prop := view after = view before

instance (view : σ → γ) : IsPreorder σ (Same view) where
  refl _ := rfl
  trans _ _ _ first second := Eq.trans second first

section

variable {bounds : σ → σ → Prop} [IsPreorder σ bounds]

theorem Step.Within.of_bounds {origin start : σ} {step : Step σ ε α}
    (reached : bounds origin start) (within : step.Within bounds start) :
    step.Within bounds origin := by
  cases step with
  | done value state => exact IsTrans.trans _ _ _ reached within
  | fail error => trivial
  | sleep state resume => exact ⟨IsTrans.trans _ _ _ reached within.1, within.2⟩

theorem Step.Within.bind {origin : σ} {step : Step σ ε α} {next : α → σ → Step σ ε β}
    (first : step.Within bounds origin)
    (second : ∀ value state, (next value state).Within bounds state) :
    (step.bind next).Within bounds origin := by
  induction step generalizing origin with
  | done value state => exact (second value state).of_bounds first
  | fail error => trivial
  | sleep state resume ih => exact ⟨first.1, fun later => ih later (first.2 later)⟩

theorem Step.Within.finish {origin : σ} {step : Step σ ε α} {value : α} {final : σ}
    (within : step.Within bounds origin) (finished : step.finish = .ok (value, final)) :
    bounds origin final := by
  induction step generalizing origin with
  | done result state => cases finished; exact within
  | fail error => contradiction
  | sleep state resume ih =>
      exact IsTrans.trans _ _ _ within.1 (ih state (within.2 state) finished)

end

namespace Program

structure Respects (bounds : σ → σ → Prop) (program : Program σ ε α) : Prop where
  within : ∀ state, (program state).Within bounds state

variable {bounds wider : σ → σ → Prop}

theorem Respects.mono {program : Program σ ε α} (respected : program.Respects bounds)
    (included : ∀ before after, bounds before after → wider before after) :
    program.Respects wider :=
  ⟨fun state => (respected.within state).mono included⟩

theorem Respects.of_total (total : ∀ before after, bounds before after)
    (program : Program σ ε α) : program.Respects bounds := by
  constructor
  intro state
  suffices within : ∀ (step : Step σ ε α) (origin : σ), step.Within bounds origin from
    within (program state) state
  intro step
  induction step with
  | done value state => exact fun origin => total origin state
  | fail error => exact fun _ => trivial
  | sleep state resume ih => exact fun origin => ⟨total origin state, fun later => ih later later⟩

theorem Respects.update {change : σ → σ} (bounded : ∀ state, bounds state (change state)) :
    (Program.update change : Program σ ε PUnit).Respects bounds :=
  ⟨bounded⟩

theorem Respects.throw (error : ε) : (Program.throw error : Program σ ε α).Respects bounds :=
  ⟨fun _ => trivial⟩

/-- A program that first reads the state goes on from the state that it read. -/
theorem Respects.read_bind {next : σ → Program σ ε α}
    (rest : ∀ state, (next state state).Within bounds state) :
    (Program.read >>= next).Respects bounds :=
  ⟨rest⟩

theorem Respects.ite {condition : Prop} [Decidable condition] {yes no : Program σ ε α}
    (first : yes.Respects bounds) (second : no.Respects bounds) :
    (if condition then yes else no).Respects bounds := by
  split
  · exact first
  · exact second

variable [IsPreorder σ bounds]

theorem Respects.run {program : Program σ ε α} {state final : σ} {value : α}
    (respected : program.Respects bounds) (finished : program.run state = .ok (value, final)) :
    bounds state final :=
  (respected.within state).finish finished

theorem Respects.pure (value : α) : (Pure.pure value : Program σ ε α).Respects bounds :=
  ⟨fun state => Std.Refl.refl state⟩

theorem Respects.read : (Program.read : Program σ ε σ).Respects bounds :=
  ⟨fun state => Std.Refl.refl state⟩

theorem Respects.sleep : (Program.sleep : Program σ ε PUnit).Respects bounds :=
  ⟨fun state => ⟨Std.Refl.refl state, fun later => Std.Refl.refl later⟩⟩

theorem Respects.ofOption (error : ε) (candidate : Option α) :
    (Program.ofOption error candidate : Program σ ε α).Respects bounds := by
  cases candidate with
  | none => exact .throw error
  | some value => exact .pure value

theorem Respects.when {condition : Prop} [Decidable condition] {program : Program σ ε PUnit}
    (respected : condition → program.Respects bounds) :
    (Program.when condition program).Respects bounds := by
  unfold Program.when
  split
  · exact respected ‹_›
  · exact .pure _

theorem Respects.bind {program : Program σ ε α} {next : α → Program σ ε β}
    (first : program.Respects bounds) (second : ∀ value, (next value).Respects bounds) :
    (program >>= next).Respects bounds :=
  ⟨fun state => (first.within state).bind fun value => (second value).within⟩

end Program

end HorizonOc.Data
