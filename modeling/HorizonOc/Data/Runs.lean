import Mathlib.Tactic.TypeStar

namespace HorizonOc.Data

variable {σ α : Type} {apply : σ → α → σ} {holds : σ → Prop} {permits : σ → α → Prop} {state : σ}
  {steps : List α}

def run (apply : σ → α → σ) (state : σ) (steps : List α) : σ := steps.foldl apply state

/-- A property in the first state and after each step. -/
def Always (apply : σ → α → σ) (holds : σ → Prop) (state : σ) : List α → Prop
  | [] => holds state
  | step :: rest => holds state ∧ Always apply holds (apply state step) rest

/-- A condition on each step and the state it is taken in. -/
def Guarded (apply : σ → α → σ) (permits : σ → α → Prop) (state : σ) : List α → Prop
  | [] => True
  | step :: rest => permits state step ∧ Guarded apply permits (apply state step) rest

theorem Always.first (always : Always apply holds state steps) : holds state := by
  cases steps with
  | nil => exact always
  | cons step rest => exact always.1

theorem Always.last (always : Always apply holds state steps) :
    holds (run apply state steps) := by
  induction steps generalizing state with
  | nil => exact always
  | cons step rest ih => exact ih always.2

theorem Always.mono {weaker : σ → Prop} (always : Always apply holds state steps)
    (weaken : ∀ state, holds state → weaker state) : Always apply weaker state steps := by
  induction steps generalizing state with
  | nil => exact weaken state always
  | cons step rest ih => exact ⟨weaken state always.1, ih always.2⟩

/-- An invariant that every permitted step keeps. -/
theorem always_of_guarded (initial : holds state)
    (keeps : ∀ step ∈ steps, ∀ state, holds state → permits state step → holds (apply state step))
    (guarded : Guarded apply permits state steps) : Always apply holds state steps := by
  induction steps generalizing state with
  | nil => exact initial
  | cons step rest ih =>
      have next := keeps step List.mem_cons_self state initial guarded.1
      exact ⟨initial, ih next
        (fun later member => keeps later (List.mem_cons_of_mem step member)) guarded.2⟩

/-- An invariant that every step keeps. -/
theorem always_of_kept (steps : List α) (initial : holds state)
    (keeps : ∀ state step, holds state → holds (apply state step)) :
    Always apply holds state steps := by
  induction steps generalizing state with
  | nil => exact initial
  | cons step rest ih => exact ⟨initial, ih (keeps state step initial)⟩

/-- Where a background invariant decides for each step whether it keeps the property, the guard
decides it for the run. -/
theorem always_iff_guarded (steps : List α) {background : σ → Prop} (initial : holds state)
    (grounded : background state)
    (stays : ∀ state step, background state → background (apply state step))
    (decides : ∀ state step, background state → holds state →
      (holds (apply state step) ↔ permits state step)) :
    Always apply holds state steps ↔ Guarded apply permits state steps := by
  induction steps generalizing state with
  | nil => exact ⟨fun _ => trivial, fun _ => initial⟩
  | cons step rest ih =>
      have here := decides state step grounded initial
      constructor
      · rintro ⟨-, always⟩
        have next := always.first
        exact ⟨here.mp next, (ih next (stays state step grounded)).mp always⟩
      · rintro ⟨permitted, guarded⟩
        have next := here.mpr permitted
        exact ⟨initial, (ih next (stays state step grounded)).mpr guarded⟩

/-- Two conditions that agree wherever an invariant holds guard the same runs. -/
theorem guarded_iff_guarded (steps : List α) {other : σ → α → Prop} (initial : holds state)
    (keeps : ∀ state step, holds state → holds (apply state step))
    (agree : ∀ state step, holds state → (permits state step ↔ other state step)) :
    Guarded apply permits state steps ↔ Guarded apply other state steps := by
  induction steps generalizing state with
  | nil => exact Iff.rfl
  | cons step rest ih => exact and_congr (agree state step initial) (ih (keeps state step initial))

end HorizonOc.Data
