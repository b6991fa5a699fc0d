import Mathlib.Tactic.Ring

namespace HorizonOc.Data

theorem tdiv_lt_iff (dividend : Int) {divisor bound : Int} (positive : 0 < divisor)
    (above : 0 < bound) : dividend.tdiv divisor < bound ↔ dividend < bound * divisor := by
  rcases Int.le_total 0 dividend with nonneg | nonpos
  · rw [Int.tdiv_eq_ediv_of_nonneg nonneg, Int.ediv_lt_iff_lt_mul positive]
  · have opposite := Int.tdiv_nonneg (Int.neg_nonneg_of_nonpos nonpos) (Int.le_of_lt positive)
    rw [Int.neg_tdiv] at opposite
    have product := Int.mul_pos above positive
    exact iff_of_true (by omega) (by omega)

theorem lt_tdiv_iff (dividend : Int) {divisor bound : Int} (positive : 0 < divisor)
    (below : bound < 0) : bound < dividend.tdiv divisor ↔ bound * divisor < dividend := by
  have opposite := tdiv_lt_iff (-dividend) positive (Int.neg_pos_of_neg below)
  rw [Int.neg_tdiv, Int.neg_mul] at opposite
  omega

theorem natAbs_tdiv_le (dividend divisor : Int) :
    (dividend.tdiv divisor).natAbs ≤ dividend.natAbs := by
  rw [Int.natAbs_tdiv]
  exact Nat.div_le_self _ _

/-- A quotient that is computed in fixed point and cut down to an integer. -/
def fixedQuotient (scale dividend divisor : Int) : Int :=
  (dividend * scale * 2 + 1).tdiv (2 * divisor) / scale

/-- Where the quotient lies between two integers. -/
def QuotientWithin (scale low high dividend divisor : Int) : Prop :=
  0 < divisor ∧ (scale * low - 1) * divisor ≤ scale * dividend ∧
      dividend < (high + 1) * divisor ∨
    divisor < 0 ∧ (high + 1) * divisor ≤ dividend ∧
      scale * dividend < (scale * low - 1) * divisor

section

variable {scale low high dividend divisor factor : Int}

instance : Decidable (QuotientWithin scale low high dividend divisor) :=
  inferInstanceAs (Decidable (_ ∨ _))

theorem QuotientWithin.divisor_ne_zero
    (within : QuotientWithin scale low high dividend divisor) : divisor ≠ 0 := by
  rcases within with ⟨positive, -⟩ | ⟨negative, -⟩
  · exact (Int.ne_of_lt positive).symm
  · exact Int.ne_of_lt negative

theorem fixedQuotient_bounds (positive : 0 < scale) :
    low ≤ fixedQuotient scale dividend divisor ∧ fixedQuotient scale dividend divisor ≤ high ↔
      scale * low - 1 < (dividend * scale * 2 + 1).tdiv (2 * divisor) ∧
        (dividend * scale * 2 + 1).tdiv (2 * divisor) < scale * (high + 1) := by
  have upper : (dividend * scale * 2 + 1).tdiv (2 * divisor) / scale ≤ high ↔
      (dividend * scale * 2 + 1).tdiv (2 * divisor) < (high + 1) * scale := by
    rw [← Int.lt_add_one_iff, Int.ediv_lt_iff_lt_mul positive]
  rw [fixedQuotient, upper, Int.le_ediv_iff_mul_le positive, Int.mul_comm low,
    Int.mul_comm (high + 1)]
  omega

theorem fixedQuotient_within_iff (positive : 0 < scale) (nonpos : low ≤ 0) (nonneg : 0 ≤ high)
    (divides : divisor ≠ 0) :
    low ≤ fixedQuotient scale dividend divisor ∧ fixedQuotient scale dividend divisor ≤ high ↔
      QuotientWithin scale low high dividend divisor := by
  have below : scale * low - 1 < 0 := by
    have product := Int.mul_nonpos_of_nonneg_of_nonpos (Int.le_of_lt positive) nonpos
    omega
  have above : 0 < scale * (high + 1) := Int.mul_pos positive (by omega)
  have cancelLt : scale * dividend < scale * ((high + 1) * divisor) ↔
      dividend < (high + 1) * divisor := Int.mul_lt_mul_left positive
  have cancelLe : scale * ((high + 1) * divisor) ≤ scale * dividend ↔
      (high + 1) * divisor ≤ dividend := Int.mul_le_mul_left positive
  have doubled : dividend * scale * 2 = 2 * (scale * dividend) := by ring
  rw [fixedQuotient_bounds positive, QuotientWithin, ← cancelLe, ← cancelLt, doubled]
  rcases Int.lt_or_gt_of_ne divides with negative | upward
  · have opposite : (2 * (scale * dividend) + 1).tdiv (2 * divisor) =
        (-(2 * (scale * dividend) + 1)).tdiv (2 * -divisor) := by
      rw [Int.mul_neg, Int.neg_tdiv_neg]
    have lower : (scale * low - 1) * (2 * -divisor) = -(2 * ((scale * low - 1) * divisor)) := by
      ring
    have upper : scale * (high + 1) * (2 * -divisor) =
        -(2 * (scale * ((high + 1) * divisor))) := by
      ring
    rw [opposite, tdiv_lt_iff _ (by omega) above, lt_tdiv_iff _ (by omega) below, lower, upper]
    omega
  · have lower : (scale * low - 1) * (2 * divisor) = 2 * ((scale * low - 1) * divisor) := by ring
    have upper : scale * (high + 1) * (2 * divisor) = 2 * (scale * ((high + 1) * divisor)) := by
      ring
    rw [tdiv_lt_iff _ (by omega) above, lt_tdiv_iff _ (by omega) below, lower, upper]
    omega

/-- A common factor of the dividend and the divisor does not matter. -/
theorem quotientWithin_factor (positive : 0 < factor) :
    QuotientWithin scale low high (dividend * factor) (divisor * factor) ↔
      QuotientWithin scale low high dividend divisor := by
  have upward : 0 * factor < divisor * factor ↔ 0 < divisor := Int.mul_lt_mul_right positive
  have negative : divisor * factor < 0 * factor ↔ divisor < 0 := Int.mul_lt_mul_right positive
  rw [Int.zero_mul] at upward negative
  unfold QuotientWithin
  simp only [← Int.mul_assoc]
  rw [upward, negative, Int.mul_le_mul_right positive, Int.mul_le_mul_right positive,
    Int.mul_lt_mul_right positive, Int.mul_lt_mul_right positive]

end

end HorizonOc.Data
