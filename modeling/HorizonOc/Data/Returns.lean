import HorizonOc.Data.Program

namespace HorizonOc.Data

universe u

variable {σ ε α β : Type u}

namespace Program

/-- Run by itself, the program returns with a value and a state that satisfy the condition. -/
def Returns (program : Program σ ε α) (state : σ) (post : α → σ → Prop) : Prop :=
  ∃ value final, program.run state = .ok (value, final) ∧ post value final

variable {state : σ} {post : α → σ → Prop}

theorem Returns.of_run {program : Program σ ε α} {value : α} {final : σ}
    (finished : program.run state = .ok (value, final)) (holds : post value final) :
    program.Returns state post :=
  ⟨value, final, finished, holds⟩

theorem Returns.mono {program : Program σ ε α} {weaker : α → σ → Prop}
    (returns : program.Returns state post)
    (weaken : ∀ value final, post value final → weaker value final) :
    program.Returns state weaker := by
  obtain ⟨value, final, finished, holds⟩ := returns
  exact ⟨value, final, finished, weaken value final holds⟩

/-- What is sure to hold holds of the state that was returned. -/
theorem Returns.of_finished {program : Program σ ε α} {value : α} {final : σ}
    (returns : program.Returns state post) (finished : program.run state = .ok (value, final)) :
    post value final := by
  obtain ⟨_, _, returned, holds⟩ := returns
  rw [finished] at returned
  cases returned
  exact holds

theorem Returns.run_bind {program : Program σ ε β} {next : β → Program σ ε α} {value : β} {later : σ}
    (finished : program.run state = .ok (value, later)) (rest : (next value).Returns later post) :
    (program >>= next).Returns state post := by
  obtain ⟨result, final, completed, satisfied⟩ := rest
  exact ⟨result, final, (run_bind_of_ok next finished).trans completed, satisfied⟩

theorem Returns.bind {program : Program σ ε β} {next : β → Program σ ε α} {middle : β → σ → Prop}
    (first : program.Returns state middle)
    (rest : ∀ value later, middle value later → (next value).Returns later post) :
    (program >>= next).Returns state post := by
  obtain ⟨value, later, finished, holds⟩ := first
  exact .run_bind finished (rest value later holds)

theorem Returns.pure {value : α} (holds : post value state) :
    (Pure.pure value : Program σ ε α).Returns state post :=
  ⟨value, state, rfl, holds⟩

theorem Returns.update {change : σ → σ} {post : PUnit → σ → Prop} (holds : post ⟨⟩ (change state)) :
    (Program.update change : Program σ ε PUnit).Returns state post :=
  ⟨⟨⟩, change state, rfl, holds⟩

theorem Returns.read_bind {next : σ → Program σ ε α} (rest : (next state).Returns state post) :
    (Program.read >>= next).Returns state post :=
  rest

theorem Returns.update_bind {change : σ → σ} {next : PUnit → Program σ ε α}
    (rest : (next ⟨⟩).Returns (change state) post) :
    (Program.update change >>= next).Returns state post :=
  rest

theorem Returns.modifyGet_bind {act : σ → β × σ} {next : β → Program σ ε α}
    (rest : (next (act state).1).Returns (act state).2 post) :
    (Program.modifyGet act >>= next).Returns state post :=
  rest

theorem Returns.ofOption_bind {error : ε} {candidate : Option β} {next : β → Program σ ε α}
    {value : β} (found : candidate = some value) (rest : (next value).Returns state post) :
    (Program.ofOption error candidate >>= next).Returns state post := by
  subst found
  exact rest

theorem Returns.when {condition : Prop} [Decidable condition] {program : Program σ ε PUnit}
    {post : PUnit → σ → Prop} (taken : condition → program.Returns state post)
    (skipped : ¬condition → post ⟨⟩ state) : (Program.when condition program).Returns state post := by
  unfold Program.when
  split
  · rename_i holds
    exact taken holds
  · rename_i fails
    exact .pure (skipped fails)

end Program

end HorizonOc.Data
