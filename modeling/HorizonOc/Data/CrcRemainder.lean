import Mathlib.Algebra.CharP.Two
import Mathlib.Algebra.Field.ZMod
import Mathlib.Algebra.Polynomial.Div
import Mathlib.Algebra.Polynomial.FieldDivision
import Mathlib.Data.BitVec
import Mathlib.RingTheory.PrincipalIdealDomain
import Mathlib.Tactic.LinearCombination

namespace HorizonOc.Data

open Polynomial

/-- The polynomial of a list of bits, the first one with the highest power. -/
noncomputable def bitPolynomial : List Bool → (ZMod 2)[X]
  | [] => 0
  | bit :: rest => (if bit then X ^ rest.length else 0) + bitPolynomial rest

section

variable {front tail bits others : List Bool}

theorem bitPolynomial_append :
    bitPolynomial (front ++ tail) = bitPolynomial front * X ^ tail.length + bitPolynomial tail := by
  induction front with
  | nil => simp [bitPolynomial]
  | cons bit rest ih =>
      rw [List.cons_append, bitPolynomial, ih, bitPolynomial, List.length_append]
      cases bit
      · simp
      · simp only [if_true, pow_add]
        ring

theorem bitPolynomial_replicate_false (count : Nat) :
    bitPolynomial (List.replicate count false) = 0 := by
  induction count with
  | zero => rfl
  | succ count ih => simp [List.replicate_succ, bitPolynomial, ih]

theorem bitPolynomial_degree (bits : List Bool) : (bitPolynomial bits).degree < bits.length := by
  induction bits with
  | nil => simp [bitPolynomial]
  | cons bit rest ih =>
      have longer : (rest.length : WithBot Nat) < (bit :: rest).length := by
        rw [List.length_cons]
        exact_mod_cast Nat.lt_succ_self rest.length
      rw [bitPolynomial]
      refine (degree_add_le _ _).trans_lt (max_lt ?_ (ih.trans longer))
      cases bit
      · simp [bot_lt_iff_ne_bot]
      · simpa using longer

theorem bitPolynomial_xor (same : bits.length = others.length) :
    bitPolynomial (List.zipWith xor bits others) = bitPolynomial bits + bitPolynomial others := by
  induction bits generalizing others with
  | nil => simp [bitPolynomial, List.eq_nil_of_length_eq_zero same.symm]
  | cons bit rest ih =>
      cases others with
      | nil => simp at same
      | cons other others =>
          have lengths : rest.length = others.length := Nat.succ.inj same
          have twice : (X ^ others.length + X ^ others.length : (ZMod 2)[X]) = 0 :=
            CharTwo.add_self_eq_zero _
          rw [List.zipWith_cons_cons, bitPolynomial, ih lengths, bitPolynomial, bitPolynomial,
            List.length_zipWith, lengths, Nat.min_self]
          cases bit <;> cases other <;> simp only [Bool.xor_true, Bool.xor_false, Bool.not_false,
            Bool.not_true, if_true, if_false, Bool.false_eq_true]
          · ring
          · ring
          · ring
          · linear_combination -twice

theorem bitPolynomial_coeff {index : Nat} (below : index < bits.length) :
    (bitPolynomial bits).coeff (bits.length - 1 - index) = if bits[index] then 1 else 0 := by
  induction bits generalizing index with
  | nil => exact absurd below (Nat.not_lt_zero index)
  | cons bit rest ih =>
      rw [List.length_cons, Nat.add_sub_cancel, bitPolynomial, coeff_add]
      cases index with
      | zero =>
          have low : (bitPolynomial rest).coeff rest.length = 0 :=
            coeff_eq_zero_of_degree_lt (bitPolynomial_degree rest)
          rw [Nat.sub_zero, low, add_zero, List.getElem_cons_zero]
          cases bit <;> simp
      | succ index =>
          have inside : index < rest.length := Nat.lt_of_succ_lt_succ below
          have power : rest.length - (index + 1) = rest.length - 1 - index := by omega
          rw [List.getElem_cons_succ, ← ih inside, power]
          have high : rest.length - 1 - index ≠ rest.length := by omega
          cases bit <;> simp [coeff_X_pow, high]

theorem bitPolynomial_injective (same : bits.length = others.length)
    (equal : bitPolynomial bits = bitPolynomial others) : bits = others := by
  apply List.ext_getElem same
  intro index below inside
  have coefficients := bitPolynomial_coeff below
  rw [equal, same, bitPolynomial_coeff inside] at coefficients
  revert coefficients
  cases bits[index] <;> cases others[index] <;> simp

end

/-- The bits of a word from the lowest to the highest. -/
def lsbFirst {w : Nat} (word : BitVec w) : List Bool := (List.range w).map word.getLsbD

/-- The word that holds the coefficients of the powers below its width, the highest one lowest. -/
noncomputable def reflectedWord (w : Nat) (poly : (ZMod 2)[X]) : BitVec w :=
  (BitVec.ofBoolListLE
    ((List.range w).map fun index => decide (poly.coeff (w - 1 - index) = 1))).setWidth w

section

variable {w k : Nat}

@[simp] theorem lsbFirst_length (word : BitVec w) : (lsbFirst word).length = w := by
  simp [lsbFirst]

theorem lsbFirst_getElem? (word : BitVec w) {index : Nat} (below : index < w) :
    (lsbFirst word)[index]? = some (word.getLsbD index) := by
  rw [lsbFirst, List.getElem?_map, List.getElem?_range below]
  rfl

theorem lsbFirst_injective : Function.Injective (lsbFirst : BitVec w → List Bool) := by
  intro word other same
  apply BitVec.eq_of_getLsbD_eq
  intro index below
  have bits := congrArg (·[index]?) same
  simpa only [lsbFirst_getElem? _ below, Option.some.injEq] using bits

theorem lsbFirst_zero : lsbFirst (0#w) = List.replicate w false := by
  rw [List.eq_replicate_iff]
  simp [lsbFirst]

theorem lsbFirst_xor (word other : BitVec w) :
    lsbFirst (word ^^^ other) = List.zipWith xor (lsbFirst word) (lsbFirst other) := by
  rw [lsbFirst, lsbFirst, lsbFirst, List.zipWith_map, List.zipWith_self]
  exact List.map_congr_left fun index _ => BitVec.getLsbD_xor

theorem lsbFirst_setWidth (fits : k ≤ w) (word : BitVec k) :
    lsbFirst (word.setWidth w) = lsbFirst word ++ List.replicate (w - k) false := by
  apply List.ext_getElem?
  intro index
  by_cases below : index < w
  · rw [lsbFirst_getElem? _ below, BitVec.getLsbD_setWidth]
    by_cases inside : index < k
    · rw [List.getElem?_append_left (by simpa using inside), lsbFirst_getElem? _ inside]
      simp [below]
    · rw [List.getElem?_append_right (by simpa using inside), lsbFirst_length,
        List.getElem?_replicate_of_lt (by omega), BitVec.getLsbD_of_ge _ _ (by omega)]
      simp
  · rw [List.getElem?_eq_none (by simpa using below),
      List.getElem?_eq_none (by rw [List.length_append, lsbFirst_length, List.length_replicate]; omega)]

/-- Shifting down drops the first bit and appends a zero. -/
theorem lsbFirst_shift (word : BitVec w) :
    lsbFirst word ++ [false] = word.getLsbD 0 :: lsbFirst (word >>> 1) := by
  have shifted : ∀ index, word.getLsbD (index + 1) = (word >>> 1).getLsbD index := by
    intro index
    rw [BitVec.getLsbD_ushiftRight, Nat.add_comm]
  have beyond : word.getLsbD w = false := BitVec.getLsbD_of_ge word w (Nat.le_refl w)
  calc
    lsbFirst word ++ [false] = (List.range (w + 1)).map word.getLsbD := by
      rw [List.range_succ, List.map_append, List.map_singleton, beyond, lsbFirst]
    _ = word.getLsbD 0 :: lsbFirst (word >>> 1) := by
      rw [List.range_succ_eq_map, List.map_cons, List.map_map, lsbFirst]
      congr 1
      exact List.map_congr_left fun index _ => shifted index

theorem reflectedWord_bitPolynomial (word : BitVec w) :
    reflectedWord w (bitPolynomial (lsbFirst word)) = word := by
  apply BitVec.eq_of_getLsbD_eq
  intro index below
  have inside : index < (lsbFirst word).length := by simpa using below
  have coefficient := bitPolynomial_coeff inside
  rw [lsbFirst_length] at coefficient
  rw [reflectedWord, BitVec.getLsbD_setWidth, BitVec.getLsbD_ofBoolListLE, List.getD_eq_getElem?_getD,
    List.getElem?_map, List.getElem?_range below, Option.map_some, Option.getD_some, coefficient]
  have bit : (lsbFirst word)[index] = word.getLsbD index := by simp [lsbFirst]
  rw [bit]
  cases word.getLsbD index <;> simp [below]

end

section

variable {w k : Nat}

def crcStep (poly register : BitVec w) : BitVec w :=
  (register >>> 1) ^^^ (poly &&& -(register &&& 1#w))

/-- A symbol is added to the register, which then takes a step for each of its bits. -/
def crcAbsorb (poly register : BitVec w) (symbol : BitVec k) : BitVec w :=
  Nat.repeat (crcStep poly) k (register ^^^ symbol.setWidth w)

/-- The generator, of which a word holds all but the highest power. -/
noncomputable def generator (poly : BitVec w) : (ZMod 2)[X] :=
  X ^ w + bitPolynomial (lsbFirst poly)

/-- The bits of the symbols in the order in which the register takes them. -/
def messageBits (symbols : List (BitVec k)) : List Bool := symbols.flatMap lsbFirst

theorem messageBits_length (symbols : List (BitVec k)) :
    (messageBits symbols).length = k * symbols.length := by
  induction symbols with
  | nil => rfl
  | cons symbol rest ih =>
      rw [messageBits, List.flatMap_cons, List.length_append, lsbFirst_length, ← messageBits, ih,
        List.length_cons, Nat.mul_succ, Nat.add_comm]

theorem messageBits_append (front tail : List (BitVec k)) :
    messageBits (front ++ tail) = messageBits front ++ messageBits tail := List.flatMap_append

theorem messageBits_injective {symbols others : List (BitVec k)}
    (same : symbols.length = others.length) (equal : messageBits symbols = messageBits others) :
    symbols = others := by
  induction symbols generalizing others with
  | nil => exact (List.eq_nil_of_length_eq_zero same.symm).symm
  | cons symbol rest ih =>
      cases others with
      | nil => simp at same
      | cons other others =>
          have lengths : (lsbFirst symbol).length = (lsbFirst other).length := by simp
          obtain ⟨first, later⟩ := List.append_inj equal lengths
          rw [lsbFirst_injective first, ih (Nat.succ.inj same) later]

theorem messageBits_window {front middle other tail : List (BitVec k)} {index : Nat}
    (same : middle.length = other.length)
    (outside : index < k * front.length ∨ k * front.length + k * middle.length ≤ index) :
    (messageBits (front ++ middle ++ tail))[index]? =
      (messageBits (front ++ other ++ tail))[index]? := by
  simp only [messageBits_append, List.append_assoc]
  rcases outside with early | late
  · rw [← messageBits_length] at early
    rw [List.getElem?_append_left early, List.getElem?_append_left early]
  · have beyond : k * front.length ≤ index := by omega
    rw [List.getElem?_append_right (by rwa [messageBits_length]),
      List.getElem?_append_right (by rw [messageBits_length, messageBits_length]; omega),
      List.getElem?_append_right (by rwa [messageBits_length]),
      List.getElem?_append_right (by rw [messageBits_length, messageBits_length, ← same]; omega),
      messageBits_length middle, messageBits_length other, same]

variable {poly register : BitVec w}

theorem lsbFirst_degree (word : BitVec w) : (bitPolynomial (lsbFirst word)).degree < (w : Nat) := by
  simpa using bitPolynomial_degree (lsbFirst word)

theorem generator_monic (poly : BitVec w) : (generator poly).Monic :=
  monic_X_pow_add (lsbFirst_degree poly)

theorem generator_degree (poly : BitVec w) : (generator poly).degree = w := by
  rw [generator, degree_add_eq_left_of_degree_lt, degree_X_pow]
  rw [degree_X_pow]
  exact lsbFirst_degree poly

/-- The mask is full where the lowest bit is set. -/
theorem crcStep_eq (poly register : BitVec w) :
    crcStep poly register =
      (register >>> 1) ^^^ (if register.getLsbD 0 then poly else 0#w) := by
  rw [crcStep, BitVec.and_one_eq_setWidth_ofBool_getLsbD]
  cases register.getLsbD 0
  · simp
  · have one : (BitVec.ofBool true).setWidth w = 1#w := by
      apply BitVec.eq_of_toNat_eq
      simp
    rw [one, BitVec.neg_one_eq_allOnes, BitVec.and_allOnes, if_pos rfl]

/-- One step multiplies by the indeterminate and subtracts the generator where needed. -/
theorem X_mul_register (poly register : BitVec w) :
    X * bitPolynomial (lsbFirst register) =
      bitPolynomial (lsbFirst (crcStep poly register)) +
        if register.getLsbD 0 then generator poly else 0 := by
  have shifted : X * bitPolynomial (lsbFirst register) =
      bitPolynomial (lsbFirst (register >>> 1)) + if register.getLsbD 0 then X ^ w else 0 := by
    have appended : bitPolynomial (lsbFirst register ++ [false]) =
        X * bitPolynomial (lsbFirst register) := by
      rw [bitPolynomial_append]
      simp [bitPolynomial, mul_comm]
    rw [← appended, lsbFirst_shift, bitPolynomial, lsbFirst_length, add_comm]
  rw [shifted, crcStep_eq, lsbFirst_xor, bitPolynomial_xor (by simp)]
  have twice : bitPolynomial (lsbFirst poly) + bitPolynomial (lsbFirst poly) = 0 :=
    CharTwo.add_self_eq_zero _
  cases register.getLsbD 0
  · have zero : bitPolynomial (lsbFirst (0#w)) = 0 := by
      rw [lsbFirst_zero, bitPolynomial_replicate_false]
    simp [zero]
  · simp only [if_true, generator]
    linear_combination -twice

theorem generator_dvd_repeat (poly register : BitVec w) (count : Nat) :
    generator poly ∣ X ^ count * bitPolynomial (lsbFirst register) -
      bitPolynomial (lsbFirst (Nat.repeat (crcStep poly) count register)) := by
  induction count with
  | zero => simp [Nat.repeat]
  | succ count ih =>
      have step := X_mul_register poly (Nat.repeat (crcStep poly) count register)
      have once : generator poly ∣
          X * bitPolynomial (lsbFirst (Nat.repeat (crcStep poly) count register)) -
            bitPolynomial (lsbFirst (Nat.repeat (crcStep poly) (count + 1) register)) := by
        rw [step, Nat.repeat, add_sub_cancel_left]
        split
        · exact dvd_rfl
        · exact dvd_zero _
      have both := (ih.mul_left X).add once
      convert both using 1
      ring

theorem generator_dvd_absorb (poly register : BitVec w) (fits : k ≤ w) (symbol : BitVec k) :
    generator poly ∣ X ^ k * bitPolynomial (lsbFirst register) +
      X ^ w * bitPolynomial (lsbFirst symbol) -
      bitPolynomial (lsbFirst (crcAbsorb poly register symbol)) := by
  have steps := generator_dvd_repeat poly (register ^^^ symbol.setWidth w) k
  have widened : bitPolynomial (lsbFirst (symbol.setWidth w)) =
      X ^ (w - k) * bitPolynomial (lsbFirst symbol) := by
    rw [lsbFirst_setWidth fits, bitPolynomial_append, bitPolynomial_replicate_false,
      List.length_replicate, add_zero, mul_comm]
  have power : (X ^ w : (ZMod 2)[X]) = X ^ k * X ^ (w - k) := by
    rw [← pow_add, Nat.add_sub_cancel' fits]
  rw [lsbFirst_xor, bitPolynomial_xor (by simp), widened] at steps
  rw [crcAbsorb, power]
  convert steps using 1
  ring

theorem generator_dvd_fold (poly register : BitVec w) (fits : k ≤ w)
    (symbols : List (BitVec k)) :
    generator poly ∣ X ^ (k * symbols.length) * bitPolynomial (lsbFirst register) +
      X ^ w * bitPolynomial (messageBits symbols) -
      bitPolynomial (lsbFirst (symbols.foldl (crcAbsorb poly) register)) := by
  induction symbols generalizing register with
  | nil => simp [messageBits, bitPolynomial]
  | cons symbol rest ih =>
      have first := (generator_dvd_absorb poly register fits symbol).mul_left (X ^ (k * rest.length))
      have later := ih (crcAbsorb poly register symbol)
      have message : bitPolynomial (messageBits (symbol :: rest)) =
          bitPolynomial (lsbFirst symbol) * X ^ (k * rest.length) +
            bitPolynomial (messageBits rest) := by
        rw [messageBits, List.flatMap_cons, bitPolynomial_append, ← messageBits, messageBits_length]
      rw [List.foldl_cons, List.length_cons, message]
      have both := first.add later
      convert both using 1
      ring

/-- The register after a message is the remainder of the polynomial division. -/
theorem register_remainder (poly register : BitVec w) (fits : k ≤ w)
    (symbols : List (BitVec k)) :
    bitPolynomial (lsbFirst (symbols.foldl (crcAbsorb poly) register)) =
      (X ^ (k * symbols.length) * bitPolynomial (lsbFirst register) +
        X ^ w * bitPolynomial (messageBits symbols)) %ₘ generator poly := by
  have small : (bitPolynomial (lsbFirst (symbols.foldl (crcAbsorb poly) register))).degree <
      (generator poly).degree := by
    rw [generator_degree]
    exact lsbFirst_degree _
  have reduced := (modByMonic_eq_self_iff (generator_monic poly)).mpr small
  have congruent := generator_dvd_fold poly register fits symbols
  have same := (modByMonic_eq_zero_iff_dvd (generator_monic poly)).mpr congruent
  rw [sub_modByMonic, reduced, sub_eq_zero] at same
  exact same.symm

theorem bitPolynomial_window {bits others : List Bool} {start width : Nat}
    (same : bits.length = others.length)
    (window : ∀ index, index < start ∨ start + width ≤ index → bits[index]? = others[index]?) :
    ∃ (power : Nat) (error : (ZMod 2)[X]),
      bitPolynomial bits - bitPolynomial others = X ^ power * error ∧ error.degree < width := by
  have split : ∀ bits : List Bool,
      bits = bits.take start ++ ((bits.drop start).take width ++ bits.drop (start + width)) := by
    intro bits
    rw [← List.drop_drop, List.take_append_drop, List.take_append_drop]
  have front : bits.take start = others.take start := by
    apply List.ext_getElem?
    intro index
    by_cases early : index < start
    · rw [List.getElem?_take_of_lt early, List.getElem?_take_of_lt early, window index (.inl early)]
    · rw [List.getElem?_eq_none, List.getElem?_eq_none] <;>
        (rw [List.length_take]; omega)
  have tail : bits.drop (start + width) = others.drop (start + width) := by
    apply List.ext_getElem?
    intro index
    rw [List.getElem?_drop, List.getElem?_drop, window _ (.inr (Nat.le_add_right _ index))]
  have lengths : ((bits.drop start).take width).length = ((others.drop start).take width).length := by
    simp only [List.length_take, List.length_drop, same]
  have low : ∀ bits : List Bool, (bitPolynomial (bits.take width)).degree < width := by
    intro bits
    apply (bitPolynomial_degree _).trans_le
    exact_mod_cast List.length_take_le width bits
  refine ⟨(others.drop (start + width)).length,
    bitPolynomial ((bits.drop start).take width) - bitPolynomial ((others.drop start).take width),
    ?_, (degree_sub_le _ _).trans_lt (max_lt (low _) (low _))⟩
  conv_lhs => rw [split bits, split others]
  simp only [bitPolynomial_append, front, tail, List.length_append, lengths]
  ring

theorem generator_coprime_X (positive : 0 < w) (constant : poly.getLsbD (w - 1) = true) :
    IsCoprime (generator poly) X := by
  have last : w - 1 < (lsbFirst poly).length := by
    rw [lsbFirst_length]
    omega
  have bit : (lsbFirst poly)[w - 1] = true := by
    rw [← constant]
    simp [lsbFirst]
  have lowest := bitPolynomial_coeff last
  rw [lsbFirst_length, Nat.sub_self, bit, if_pos rfl] at lowest
  have apart : ¬X ∣ generator poly := by
    rw [X_dvd_iff, generator, coeff_add, lowest, coeff_X_pow, if_neg (by omega)]
    simp
  have irreducible : Irreducible (X : (ZMod 2)[X]) := irreducible_X
  exact (irreducible.coprime_iff_not_dvd.mpr apart).symm

/-- A burst of errors that is no longer than the register is seen. -/
theorem register_ne_of_window (poly register : BitVec w) (fits : k ≤ w) (positive : 0 < w)
    (constant : poly.getLsbD (w - 1) = true) {symbols others : List (BitVec k)} {start : Nat}
    (same : symbols.length = others.length) (differ : symbols ≠ others)
    (window : ∀ index, index < start ∨ start + w ≤ index →
      (messageBits symbols)[index]? = (messageBits others)[index]?) :
    symbols.foldl (crcAbsorb poly) register ≠ others.foldl (crcAbsorb poly) register := by
  intro equal
  have lengths : (messageBits symbols).length = (messageBits others).length := by
    rw [messageBits_length, messageBits_length, same]
  obtain ⟨power, error, difference, small⟩ := bitPolynomial_window lengths window
  have divides : generator poly ∣ X ^ (w + power) * error := by
    have first := generator_dvd_fold poly register fits symbols
    have second := generator_dvd_fold poly register fits others
    rw [← equal, ← same] at second
    rw [pow_add, mul_assoc, ← difference]
    convert first.sub second using 1
    ring
  have coprime : IsCoprime (generator poly) (X ^ (w + power)) :=
    (generator_coprime_X positive constant).pow_right
  have none : error = 0 := by
    apply eq_zero_of_dvd_of_degree_lt (coprime.dvd_of_dvd_mul_left divides)
    rw [generator_degree]
    exact small
  rw [none, mul_zero, sub_eq_zero] at difference
  exact differ (messageBits_injective same (bitPolynomial_injective lengths difference))

end

end HorizonOc.Data
