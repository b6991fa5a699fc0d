import Mathlib.Algebra.Group.Int.Defs
import Mathlib.Algebra.Group.Nat.Defs

namespace HorizonOc.Data

/-! Computations that go on after a fault and keep a list of their faults, and the arithmetic of
machine integers among them. -/

structure Audited (φ α : Type) where
  value : α
  faults : List φ
deriving DecidableEq, Repr

namespace Audited

variable {φ α β : Type}

instance : Monad (Audited φ) where
  pure value := ⟨value, []⟩
  bind program next := ⟨(next program.value).value, program.faults ++ (next program.value).faults⟩

def Faultless (program : Audited φ α) : Prop := program.faults = []

instance (program : Audited φ α) : Decidable program.Faultless :=
  decidable_of_iff (program.faults.isEmpty = true) List.isEmpty_iff

/-- Notes a fault where a condition does not hold. -/
def check (condition : Prop) [Decidable condition] (fault : φ) : Audited φ PUnit :=
  ⟨⟨⟩, if condition then [] else [fault]⟩

section

variable {program : Audited φ α} {next : α → Audited φ β} {fault : φ} {condition : Prop}
  [Decidable condition]

@[simp] theorem value_pure (value : α) : (pure value : Audited φ α).value = value := rfl

@[simp] theorem value_bind : (program >>= next).value = (next program.value).value := rfl

theorem pure_bind (value : α) : (pure value : Audited φ α) >>= next = next value := by
  change Audited.mk (next value).value ([] ++ (next value).faults) = _
  rw [List.nil_append]

theorem bind_assoc {γ : Type} (last : β → Audited φ γ) :
    (program >>= next) >>= last = program >>= fun value => next value >>= last :=
  congrArg (Audited.mk _) (List.append_assoc _ _ _)

/-- What follows matters at the value alone. -/
theorem bind_congr {other : α → Audited φ β} (same : next program.value = other program.value) :
    program >>= next = program >>= other := by
  change Audited.mk (next program.value).value (program.faults ++ (next program.value).faults) = _
  rw [same]
  rfl

theorem check_congr {other : Prop} [Decidable other] (same : condition ↔ other) :
    check condition fault = check other fault := by
  unfold check
  simp only [same]

@[simp] theorem faultless_pure (value : α) : (pure value : Audited φ α).Faultless ↔ True :=
  iff_of_true rfl trivial

theorem faultless_bind :
    (program >>= next).Faultless ↔ program.Faultless ∧ (next program.value).Faultless :=
  List.append_eq_nil_iff

@[simp] theorem faultless_check : (check condition fault).Faultless ↔ condition := by
  unfold Faultless check
  by_cases holds : condition
  · simp [holds]
  · simp [holds]

@[simp] theorem mem_faults_pure (value : α) : fault ∈ (pure value : Audited φ α).faults ↔ False :=
  List.mem_nil_iff fault

theorem mem_faults_bind : fault ∈ (program >>= next).faults ↔
    fault ∈ program.faults ∨ fault ∈ (next program.value).faults :=
  List.mem_append

theorem mem_faults_check {other : φ} :
    other ∈ (check condition fault).faults ↔ ¬condition ∧ other = fault := by
  unfold check
  by_cases holds : condition
  · simp [holds]
  · simp [holds]

end

end Audited

inductive ArithmeticFault where
  | overflow (bits : Nat)
  | truncated (bits : Nat)
  | divisorZero
deriving DecidableEq, Repr

abbrev Arithmetic := Audited ArithmeticFault

abbrev FitsSigned (bits : Nat) (exact : Int) : Prop := -2 ^ bits ≤ 2 * exact ∧ 2 * exact < 2 ^ bits

abbrev FitsUnsigned (bits : Nat) (exact : Int) : Prop := 0 ≤ exact ∧ exact < 2 ^ bits

namespace Arithmetic

open Audited

/-- A result of signed arithmetic, from the exact one. -/
def signed (bits : Nat) (exact : Int) : Arithmetic Int := do
  check (FitsSigned bits exact) (.overflow bits)
  pure (exact.bmod (2 ^ bits))

def unsigned (bits : Nat) (exact : Int) : Arithmetic Int := do
  check (FitsUnsigned bits exact) (.overflow bits)
  pure (exact % 2 ^ bits)

/-- Conversion to a signed type. -/
def narrow (bits : Nat) (wide : Int) : Arithmetic Int := do
  check (FitsSigned bits wide) (.truncated bits)
  pure (wide.bmod (2 ^ bits))

/-- Division of signed integers, with the quotient 0 where the divisor is 0. -/
def divide (bits : Nat) (dividend divisor : Int) : Arithmetic Int := do
  check (divisor ≠ 0) .divisorZero
  signed bits (dividend.tdiv divisor)

section

variable {β : Type} {bits : Nat} {exact wide dividend divisor : Int} {next : Int → Arithmetic β}

theorem bmod_of_fits (fits : FitsSigned bits exact) : exact.bmod (2 ^ bits) = exact := by
  have size : ((2 ^ bits : Nat) : Int) = 2 ^ bits := Int.natCast_pow 2 bits
  apply Int.bmod_eq_of_le_mul_two
  · rw [size, Int.mul_comm]
    exact fits.1
  · rw [size, Int.mul_comm]
    exact fits.2

theorem fits_bmod (positive : bits ≠ 0) : FitsSigned bits (exact.bmod (2 ^ bits)) := by
  obtain ⟨half, rfl⟩ := Nat.exists_eq_succ_of_ne_zero positive
  have size : ((2 ^ (half + 1) : Nat) : Int) = 2 * 2 ^ half := by
    rw [Int.natCast_pow, Int.pow_succ, Int.mul_comm]
    rfl
  have whole : (2 : Int) ^ (half + 1) = 2 * 2 ^ half := by rw [Int.pow_succ, Int.mul_comm]
  have low := Int.le_bmod (x := exact) (Nat.two_pow_pos (half + 1))
  have high := Int.bmod_lt (x := exact) (Nat.two_pow_pos (half + 1))
  rw [size] at low high
  rw [FitsSigned, Nat.succ_eq_add_one, whole]
  omega

theorem narrow_fits (positive : bits ≠ 0) : FitsSigned bits (narrow bits wide).value :=
  fits_bmod positive

@[simp] theorem faultless_signed : (signed bits exact).Faultless ↔ FitsSigned bits exact := by
  simp [signed, faultless_bind]

@[simp] theorem faultless_unsigned : (unsigned bits exact).Faultless ↔ FitsUnsigned bits exact := by
  simp [unsigned, faultless_bind]

@[simp] theorem faultless_narrow : (narrow bits wide).Faultless ↔ FitsSigned bits wide := by
  simp [narrow, faultless_bind]

theorem signed_of_fits (fits : FitsSigned bits exact) : signed bits exact = pure exact := by
  rw [signed, check, if_pos fits, bmod_of_fits fits]
  rfl

theorem unsigned_of_fits (fits : FitsUnsigned bits exact) : unsigned bits exact = pure exact := by
  rw [unsigned, check, if_pos fits, Int.emod_eq_of_lt fits.1 fits.2]
  rfl

theorem narrow_of_fits (fits : FitsSigned bits wide) : narrow bits wide = pure wide := by
  rw [narrow, check, if_pos fits, bmod_of_fits fits]
  rfl

theorem signed_bind (fits : FitsSigned bits exact) : signed bits exact >>= next = next exact := by
  rw [signed_of_fits fits, pure_bind]

theorem unsigned_bind (fits : FitsUnsigned bits exact) :
    unsigned bits exact >>= next = next exact := by
  rw [unsigned_of_fits fits, pure_bind]

theorem narrow_bind (fits : FitsSigned bits wide) : narrow bits wide >>= next = next wide := by
  rw [narrow_of_fits fits, pure_bind]

end

end Arithmetic

end HorizonOc.Data
