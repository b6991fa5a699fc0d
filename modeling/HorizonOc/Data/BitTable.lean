import HorizonOc.Data.Packing

namespace HorizonOc.Data

variable {bytes : List Byte} {byte : Byte} {number other start count : Nat}

def bitMask (bit : Nat) : Byte := 1#8 <<< bit

def bitAt (bytes : List Byte) (number : Nat) : Bool :=
  (bytes.getD (number / 8) 0).getLsbD (number % 8)

def setBit (bytes : List Byte) (number : Nat) : List Byte :=
  bytes.set (number / 8) (bytes.getD (number / 8) 0 ||| bitMask (number % 8))

theorem getLsbD_bitMask {bit : Nat} (inside : bit < 8) (position : Nat) :
    (bitMask bit).getLsbD position = decide (position = bit) := by
  rw [bitMask, BitVec.getLsbD_shiftLeft, BitVec.getLsbD_one]
  by_cases same : position = bit
  · subst same
    simp [inside]
  · simp only [same, decide_false, Bool.and_eq_false_iff, Bool.not_eq_false', decide_eq_true_eq,
      decide_eq_false_iff_not]
    omega

/-- Testing with a mask is reading the bit. -/
theorem and_bitMask {bit : Nat} (inside : bit < 8) (byte : Byte) :
    byte &&& bitMask bit ≠ 0 ↔ byte.getLsbD bit = true := by
  have masked (position : Nat) : (byte &&& bitMask bit).getLsbD position =
      (byte.getLsbD position && decide (position = bit)) := by
    rw [BitVec.getLsbD_and, getLsbD_bitMask inside]
  constructor
  · intro nonzero
    by_contra clear
    refine nonzero (BitVec.eq_of_getLsbD_eq fun position _ => ?_)
    rw [masked]
    by_cases same : position = bit
    · subst same
      simpa using clear
    · simp [same]
  · intro set zero
    have bitZero := masked bit
    rw [zero, set] at bitZero
    simp at bitZero

theorem eq_zero_iff_bits (byte : Byte) : byte = 0 ↔ ∀ bit < 8, byte.getLsbD bit = false := by
  constructor
  · rintro rfl bit -
    exact BitVec.getLsbD_zero
  · intro clear
    refine BitVec.eq_of_getLsbD_eq fun bit inside => ?_
    rw [clear bit inside]
    exact BitVec.getLsbD_zero.symm

@[simp] theorem setBit_length (bytes : List Byte) (number : Nat) :
    (setBit bytes number).length = bytes.length := List.length_set

theorem bitAt_setBit (inside : number / 8 < bytes.length) (other : Nat) :
    bitAt (setBit bytes number) other = (bitAt bytes other || decide (other = number)) := by
  unfold bitAt setBit
  rw [List.getD_eq_getElem?_getD, List.getElem?_set]
  by_cases byte : number / 8 = other / 8
  · rw [if_pos byte, if_pos (byte ▸ inside), Option.getD_some, BitVec.getLsbD_or,
      getLsbD_bitMask (Nat.mod_lt _ (by decide)), byte]
    congr 1
    rw [decide_eq_decide]
    omega
  · have apart : other ≠ number := by
      rintro rfl
      exact byte rfl
    rw [if_neg byte, ← List.getD_eq_getElem?_getD]
    simp [apart]

theorem bitAt_replicate (size number : Nat) : bitAt (List.replicate size 0) number = false := by
  unfold bitAt
  rw [List.getD_eq_getElem?_getD, List.getElem?_replicate]
  split <;> exact BitVec.getLsbD_zero

theorem bitAt_outside (outside : bytes.length ≤ number / 8) : bitAt bytes number = false := by
  rw [bitAt, List.getD_eq_getElem?_getD, List.getElem?_eq_none outside]
  exact BitVec.getLsbD_zero

/-- The bits of a part of the array. -/
theorem bitAt_slice (bytes : List Byte) (start count number : Nat) :
    bitAt (slice bytes start count) number =
      (decide (number / 8 < count) && bitAt bytes (8 * start + number)) := by
  have index : (8 * start + number) / 8 = start + number / 8 := by omega
  have bit : (8 * start + number) % 8 = number % 8 := by omega
  unfold bitAt slice
  rw [index, bit, List.getD_eq_getElem?_getD, List.getElem?_take, List.getElem?_drop]
  by_cases inside : number / 8 < count
  · rw [if_pos inside, ← List.getD_eq_getElem?_getD]
    simp [inside]
  · rw [if_neg inside]
    simp [inside]

/-- A byte is zero if all its bits are clear in the array. -/
theorem getD_eq_zero_iff (bytes : List Byte) (index : Nat) :
    bytes.getD index 0 = 0 ↔ ∀ number, number / 8 = index → bitAt bytes number = false := by
  rw [eq_zero_iff_bits]
  constructor
  · rintro clear number rfl
    exact clear _ (Nat.mod_lt _ (by decide))
  · intro clear bit inside
    have bits := clear (8 * index + bit) (by omega)
    rw [bitAt] at bits
    have whole : (8 * index + bit) / 8 = index := by omega
    have part : (8 * index + bit) % 8 = bit := by omega
    rwa [whole, part] at bits

/-- Numbers that are put in one after another. -/
theorem bitAt_foldl_setBit {numbers : List Nat} (inside : ∀ number ∈ numbers, number / 8 < bytes.length)
    (other : Nat) :
    bitAt (numbers.foldl setBit bytes) other = (bitAt bytes other || decide (other ∈ numbers)) := by
  induction numbers generalizing bytes with
  | nil => simp
  | cons number rest ih =>
      obtain ⟨first, others⟩ := List.forall_mem_cons.mp inside
      rw [List.foldl_cons, ih (by simpa using others), bitAt_setBit first, Bool.or_assoc]
      simp [List.mem_cons]

end HorizonOc.Data
