import Mathlib.Algebra.Order.Group.Nat
import Mathlib.Order.MinMax

namespace HorizonOc.Data

/-- Levels at equal steps between two bounds. -/
structure Quantizer where
  low : Nat
  high : Nat
  step : Nat
  positive : 0 < step
  ordered : low ≤ high
  whole : step ∣ high - low

namespace Quantizer

def level (quantizer : Quantizer) (selector : Nat) : Nat :=
  quantizer.low + quantizer.step * selector

/-- The selector of the highest level. -/
def last (quantizer : Quantizer) : Nat := (quantizer.high - quantizer.low) / quantizer.step

def clamp (quantizer : Quantizer) (value : Nat) : Nat :=
  min quantizer.high (max quantizer.low value)

def selector (quantizer : Quantizer) (value : Nat) : Nat :=
  (quantizer.clamp value - quantizer.low) / quantizer.step

variable (quantizer : Quantizer) {value other selected : Nat}

theorem level_last : quantizer.level quantizer.last = quantizer.high := by
  rw [level, last, Nat.mul_div_cancel' quantizer.whole, Nat.add_sub_cancel' quantizer.ordered]

theorem low_le_level : quantizer.low ≤ quantizer.level selected := Nat.le_add_right _ _

theorem level_mono (below : selected ≤ other) :
    quantizer.level selected ≤ quantizer.level other :=
  Nat.add_le_add_left (Nat.mul_le_mul_left _ below) _

theorem level_le_high (inside : selected ≤ quantizer.last) :
    quantizer.level selected ≤ quantizer.high := by
  rw [← quantizer.level_last]
  exact quantizer.level_mono inside

theorem le_last_of_level_le_high (below : quantizer.level selected ≤ quantizer.high) :
    selected ≤ quantizer.last := by
  unfold level at below
  rw [last, Nat.le_div_iff_mul_le quantizer.positive, Nat.mul_comm]
  omega

theorem low_le_clamp : quantizer.low ≤ quantizer.clamp value :=
  le_min quantizer.ordered (Nat.le_max_left _ _)

theorem clamp_le_high : quantizer.clamp value ≤ quantizer.high := Nat.min_le_left _ _

theorem clamp_mono (below : value ≤ other) : quantizer.clamp value ≤ quantizer.clamp other :=
  min_le_min_left _ (max_le_max_left _ below)

theorem clamp_of_high_le (above : quantizer.high ≤ value) :
    quantizer.clamp value = quantizer.high :=
  Nat.min_eq_left (Nat.le_trans above (Nat.le_max_right _ _))

theorem clamp_le (reaches : quantizer.low ≤ value) : quantizer.clamp value ≤ value :=
  Nat.le_trans (Nat.min_le_right _ _) (Nat.max_le.mpr ⟨reaches, Nat.le_refl _⟩)

theorem le_clamp (within : value ≤ quantizer.high) : value ≤ quantizer.clamp value :=
  le_min within (Nat.le_max_right _ _)

theorem selector_mono (below : value ≤ other) :
    quantizer.selector value ≤ quantizer.selector other :=
  Nat.div_le_div_right (Nat.sub_le_sub_right (quantizer.clamp_mono below) _)

theorem selector_le_last : quantizer.selector value ≤ quantizer.last :=
  Nat.div_le_div_right (Nat.sub_le_sub_right quantizer.clamp_le_high _)

/-- The level that is selected is the last one up to the clamped value. -/
theorem level_selector_le_clamp : quantizer.level (quantizer.selector value) ≤ quantizer.clamp value := by
  have whole := Nat.mul_div_le (quantizer.clamp value - quantizer.low) quantizer.step
  have reaches : quantizer.low ≤ quantizer.clamp value := quantizer.low_le_clamp
  unfold level selector
  omega

theorem clamp_lt_level_succ :
    quantizer.clamp value < quantizer.level (quantizer.selector value + 1) := by
  have next := Nat.lt_mul_div_succ (quantizer.clamp value - quantizer.low) quantizer.positive
  have reaches : quantizer.low ≤ quantizer.clamp value := quantizer.low_le_clamp
  unfold level selector
  omega

theorem level_selector_le (reaches : quantizer.low ≤ value) :
    quantizer.level (quantizer.selector value) ≤ value :=
  Nat.le_trans quantizer.level_selector_le_clamp (quantizer.clamp_le reaches)

theorem lt_level_selector_succ (within : value ≤ quantizer.high) :
    value < quantizer.level (quantizer.selector value + 1) :=
  Nat.lt_of_le_of_lt (quantizer.le_clamp within) quantizer.clamp_lt_level_succ

theorem selector_of_high_le (above : quantizer.high ≤ value) :
    quantizer.selector value = quantizer.last := by
  rw [selector, quantizer.clamp_of_high_le above, last]

/-- Only values from the upper bound on select the highest level. -/
theorem high_le_of_last_le_selector (proper : quantizer.low < quantizer.high)
    (top : quantizer.last ≤ quantizer.selector value) : quantizer.high ≤ value := by
  have level := quantizer.level_mono top
  rw [quantizer.level_last] at level
  have reached := Nat.le_trans level quantizer.level_selector_le_clamp
  unfold clamp at reached
  omega

theorem selector_of_le_low (below : value ≤ quantizer.low) : quantizer.selector value = 0 := by
  rw [selector, clamp, Nat.max_eq_left below, Nat.min_eq_right quantizer.ordered, Nat.sub_self,
    Nat.zero_div]

end Quantizer

end HorizonOc.Data
