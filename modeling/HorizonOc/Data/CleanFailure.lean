import HorizonOc.Data.Tracked

namespace HorizonOc.Data.Tracked

variable {ν ρ ε α β γ : Type} {word : Int → ν} {store middle : Store ν ρ} {program : Tracked ν ρ ε α}
  {next : α → Tracked ν ρ ε β}

/-- If the program fails, the memory holds these words. -/
def FailsWith (word : Int → ν) (program : Tracked ν ρ ε α) (store : Store ν ρ) : Prop :=
  ∀ error, (program store).result = .error error → (program store).store.word = word

theorem failsWith_bind :
    FailsWith word (program >>= next) store ↔
      FailsWith word program store ∧ ∀ value, (program store).result = .ok value →
        FailsWith word (next value) (program store).store := by
  unfold FailsWith
  cases first : (program store).result with
  | error error => simp [bind_of_error first]
  | ok value =>
      rw [bind_of_ok first]
      simp

/-- A first part that returns. -/
theorem failsWith_bind_of_run {value : α} (returned : run program store = (.ok value, middle)) :
    FailsWith word (program >>= next) store ↔ FailsWith word (next value) middle := by
  obtain ⟨result, stored⟩ := Prod.mk.inj returned
  have returns : FailsWith word program store := by
    intro error failed
    rw [result] at failed
    contradiction
  rw [failsWith_bind, result, stored]
  simp [returns]

theorem failsWith_of_run {result : Except ε α} (finished : run program store = (result, middle)) :
    FailsWith word program store ↔ ∀ error, result = .error error → middle.word = word := by
  obtain ⟨rfl, rfl⟩ := Prod.mk.inj finished
  rfl

theorem failsWith_fail {error : ε} :
    FailsWith word (fail error : Tracked ν ρ ε α) store ↔ store.word = word := by
  simp [FailsWith, fail]

theorem failsWith_require_bind (condition : Bool) (error : ε) {next : PUnit → Tracked ν ρ ε β} :
    FailsWith word (require condition error >>= next) store ↔
      (condition = false → store.word = word) ∧
        (condition = true → FailsWith word (next ⟨⟩) store) := by
  cases condition with
  | true =>
      rw [require_true, failsWith_bind_of_run rfl]
      simp
  | false =>
      rw [require_false, failsWith_bind, failsWith_fail]
      simp [fail]

/-- The program always returns. -/
def Total (program : Tracked ν ρ ε α) : Prop := ∀ store, ∃ value, (program store).result = .ok value

theorem Total.failsWith (total : Total program) : FailsWith word program store := by
  intro error failed
  obtain ⟨value, returned⟩ := total store
  rw [returned] at failed
  contradiction

/-- What follows a program that keeps the rule is sure to return. -/
theorem FailsWith.bind_total (first : FailsWith word program store)
    (rest : ∀ value, Total (next value)) : FailsWith word (program >>= next) store :=
  failsWith_bind.mpr ⟨first, fun value _ => (rest value).failsWith⟩

/-- A check before which nothing was written, and what follows it. -/
theorem FailsWith.require_total {condition : Bool} {error : ε} {next : PUnit → Tracked ν ρ ε β}
    (rest : Total (next ⟨⟩)) : FailsWith store.word (require condition error >>= next) store :=
  (failsWith_require_bind condition error).mpr ⟨fun _ => rfl, fun _ => rest.failsWith⟩

theorem Total.pure (value : α) : Total (Pure.pure value : Tracked ν ρ ε α) := fun _ => ⟨value, rfl⟩

theorem Total.read (address : Int) : Total (Tracked.read address : Tracked ν ρ ε ν) :=
  fun store => ⟨store.word address, rfl⟩

theorem Total.readBlock (address : Int) (size : Nat) :
    Total (Tracked.readBlock address size : Tracked ν ρ ε (Nat → ν)) :=
  fun store => ⟨block store.word address, rfl⟩

theorem Total.write (address : Int) (value : ν) :
    Total (Tracked.write address value : Tracked ν ρ ε PUnit) := fun _ => ⟨⟨⟩, rfl⟩

theorem Total.writeBlock (address : Int) (size : Nat) (values : Nat → ν) :
    Total (Tracked.writeBlock address size values : Tracked ν ρ ε PUnit) := fun _ => ⟨⟨⟩, rfl⟩

theorem Total.setRest (rest : ρ) : Total (Tracked.setRest rest : Tracked ν ρ ε PUnit) :=
  fun _ => ⟨⟨⟩, rfl⟩

theorem Total.bind (first : Total program) (rest : ∀ value, Total (next value)) :
    Total (program >>= next) := by
  intro store
  obtain ⟨value, returned⟩ := first store
  obtain ⟨result, later⟩ := rest value (program store).store
  exact ⟨result, (congrArg Outcome.result (bind_of_ok returned)).trans later⟩

theorem Total.copyBlock (target source : Int) (size : Nat) :
    Total (Tracked.copyBlock target source size : Tracked ν ρ ε PUnit) :=
  .bind (.readBlock source size) fun values => .writeBlock target size values

theorem Total.ite {condition : Prop} [Decidable condition] {yes no : Tracked ν ρ ε α}
    (first : Total yes) (second : Total no) : Total (if condition then yes else no) := by
  split
  · exact first
  · exact second

theorem Total.forM {body : γ → Tracked ν ρ ε PUnit} (elements : List γ)
    (turn : ∀ element, Total (body element)) : Total (elements.forM body : Tracked ν ρ ε PUnit) := by
  induction elements with
  | nil => exact .pure PUnit.unit
  | cons element rest ih => exact (turn element).bind fun _ => ih

end HorizonOc.Data.Tracked
