import Mathlib.Order.Bounds.Defs
import Mathlib.Order.Nat

namespace HorizonOc.Data

variable {step value bound : Nat}

theorem isGreatest_multiple (step value : Nat) :
    IsGreatest {multiple | step ∣ multiple ∧ multiple ≤ value} (value / step * step) := by
  refine ⟨⟨Nat.dvd_mul_left step _, Nat.div_mul_le_self value step⟩, ?_⟩
  intro multiple ⟨whole, below⟩
  rw [← Nat.div_mul_cancel whole]
  exact Nat.mul_le_mul_right step (Nat.div_le_div_right below)

theorem isLeast_multiple (positive : 0 < step) (value : Nat) :
    IsLeast {multiple | step ∣ multiple ∧ value ≤ multiple}
      ((value + (step - 1)) / step * step) := by
  refine ⟨⟨Nat.dvd_mul_left step _, ?_⟩, ?_⟩
  · have next := Nat.lt_mul_div_succ (value + (step - 1)) positive
    rw [Nat.mul_succ, Nat.mul_comm] at next
    omega
  · intro multiple ⟨whole, above⟩
    obtain ⟨count, rfl⟩ := whole
    rw [Nat.mul_comm step count]
    apply Nat.mul_le_mul_right
    rw [← Nat.lt_succ_iff, Nat.div_lt_iff_lt_mul positive, Nat.succ_mul, Nat.mul_comm count step]
    omega

end HorizonOc.Data
