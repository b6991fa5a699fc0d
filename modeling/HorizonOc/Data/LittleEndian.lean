import HorizonOc.Data.Packing

namespace HorizonOc.Data

/-- A number as so many bytes, the low byte first. -/
def leBytes : Nat → Nat → List Byte
  | 0, _ => []
  | width + 1, number => .ofNat 8 number :: leBytes width (number / 2 ^ 8)

def leNumber : List Byte → Nat
  | [] => 0
  | byte :: rest => byte.toNat + 2 ^ 8 * leNumber rest

@[simp] theorem leBytes_length (width number : Nat) : (leBytes width number).length = width := by
  induction width generalizing number with
  | zero => rfl
  | succ width ih => rw [leBytes, List.length_cons, ih]

theorem leNumber_leBytes {width number : Nat} (fits : number < 2 ^ (8 * width)) :
    leNumber (leBytes width number) = number := by
  induction width generalizing number with
  | zero =>
      rw [Nat.mul_zero, Nat.pow_zero] at fits
      exact (Nat.lt_one_iff.mp fits).symm
  | succ width ih =>
      rw [Nat.mul_succ, Nat.pow_add] at fits
      have high : number / 2 ^ 8 < 2 ^ (8 * width) := Nat.div_lt_of_lt_mul (Nat.mul_comm _ _ ▸ fits)
      rw [leBytes, leNumber, ih high, BitVec.toNat_ofNat]
      exact Nat.mod_add_div number (2 ^ 8)

theorem leNumber_lt (bytes : List Byte) : leNumber bytes < 2 ^ (8 * bytes.length) := by
  induction bytes with
  | nil => exact Nat.one_pos
  | cons byte rest ih =>
      have low := byte.isLt
      rw [leNumber, List.length_cons, Nat.mul_succ, Nat.pow_add]
      omega

section

variable {width : Nat} {numbers : List Nat} {rest before : List Byte}

def numbersBytes (width : Nat) (numbers : List Nat) : List Byte := numbers.flatMap (leBytes width)

def bytesNumbers (width : Nat) : Nat → List Byte → List Nat
  | 0, _ => []
  | count + 1, bytes => leNumber (bytes.take width) :: bytesNumbers width count (bytes.drop width)

@[simp] theorem numbersBytes_length (width : Nat) (numbers : List Nat) :
    (numbersBytes width numbers).length = width * numbers.length := by
  induction numbers with
  | nil => rfl
  | cons number numbers ih =>
      change (leBytes width number ++ numbersBytes width numbers).length = _
      rw [List.length_append, ih, leBytes_length, List.length_cons, Nat.mul_succ, Nat.add_comm]

@[simp] theorem bytesNumbers_length (width count : Nat) (bytes : List Byte) :
    (bytesNumbers width count bytes).length = count := by
  induction count generalizing bytes with
  | zero => rfl
  | succ count ih => rw [bytesNumbers, List.length_cons, ih]

theorem bytesNumbers_numbersBytes (fits : ∀ number ∈ numbers, number < 2 ^ (8 * width))
    (rest : List Byte) :
    bytesNumbers width numbers.length (numbersBytes width numbers ++ rest) = numbers := by
  induction numbers with
  | nil => rfl
  | cons number numbers ih =>
      obtain ⟨first, others⟩ := List.forall_mem_cons.mp fits
      have split : numbersBytes width (number :: numbers) ++ rest =
          leBytes width number ++ (numbersBytes width numbers ++ rest) := List.append_assoc _ _ _
      rw [split, List.length_cons, bytesNumbers, List.take_left' (leBytes_length width number),
        List.drop_left' (leBytes_length width number), leNumber_leBytes first, ih others]

theorem bytesNumbers_lt (width count : Nat) (bytes : List Byte) :
    ∀ number ∈ bytesNumbers width count bytes, number < 2 ^ (8 * width) := by
  induction count generalizing bytes with
  | zero => exact fun number member => absurd member List.not_mem_nil
  | succ count ih =>
      rw [bytesNumbers, List.forall_mem_cons]
      refine ⟨?_, ih (bytes.drop width)⟩
      have short : (bytes.take width).length ≤ width := by
        rw [List.length_take]
        exact Nat.min_le_left _ _
      exact Nat.lt_of_lt_of_le (leNumber_lt _)
        (Nat.pow_le_pow_right Nat.two_pos (Nat.mul_le_mul_left 8 short))

/-- Numbers at an offset of a buffer; none where they are not all inside. -/
def readNumbers (buffer : List Byte) (offset width count : Nat) : Option (List Nat) :=
  if offset + width * count ≤ buffer.length then some (bytesNumbers width count (buffer.drop offset))
  else none

def readNumber (buffer : List Byte) (offset width : Nat) : Option Nat :=
  if offset + width ≤ buffer.length then some (leNumber (slice buffer offset width)) else none

/-- What is written to the start of a buffer of a size; none where it does not fit. -/
def writeBuffer (size : Nat) (bytes : List Byte) : Option (List Byte) :=
  if bytes.length ≤ size then some bytes else none

theorem readNumbers_inside (buffer : List Byte) (offset width count : Nat)
    (inside : offset + width * count ≤ buffer.length) :
    ∃ numbers, readNumbers buffer offset width count = some numbers ∧
      numbers.length = count ∧ ∀ number ∈ numbers, number < 2 ^ (8 * width) :=
  ⟨_, if_pos inside, bytesNumbers_length _ _ _, bytesNumbers_lt _ _ _⟩

theorem readNumber_inside (buffer : List Byte) (offset width : Nat)
    (inside : offset + width ≤ buffer.length) :
    ∃ number, readNumber buffer offset width = some number ∧ number < 2 ^ (8 * width) := by
  refine ⟨_, if_pos inside, ?_⟩
  have bound := leNumber_lt (slice buffer offset width)
  rwa [slice_length inside] at bound

/-- Numbers that were put into a buffer are read from it. -/
theorem readNumbers_of_eq {buffer : List Byte} {offset count : Nat}
    (fits : ∀ number ∈ numbers, number < 2 ^ (8 * width))
    (laid : buffer = before ++ (numbersBytes width numbers ++ rest)) (at_ : before.length = offset)
    (all : numbers.length = count) :
    readNumbers buffer offset width count = some numbers := by
  subst laid at_ all
  rw [readNumbers, if_pos, List.drop_left, bytesNumbers_numbersBytes fits]
  simp only [List.length_append, numbersBytes_length]
  omega

theorem readNumber_of_eq {buffer : List Byte} {offset number : Nat} (fits : number < 2 ^ (8 * width))
    (laid : buffer = before ++ (leBytes width number ++ rest)) (at_ : before.length = offset) :
    readNumber buffer offset width = some number := by
  subst laid at_
  rw [readNumber, if_pos, slice, List.drop_left, List.take_left' (leBytes_length width number),
    leNumber_leBytes fits]
  simp only [List.length_append, leBytes_length]
  omega

theorem readNumbers_numbersBytes {count : Nat} (fits : ∀ number ∈ numbers, number < 2 ^ (8 * width))
    (all : numbers.length = count) :
    readNumbers (numbersBytes width numbers) 0 width count = some numbers := by
  have laid : numbersBytes width numbers = [] ++ (numbersBytes width numbers ++ []) := by simp
  exact readNumbers_of_eq fits laid rfl all

theorem readNumber_append {number : Nat} (fits : number < 2 ^ (8 * width)) (rest : List Byte) :
    readNumber (leBytes width number ++ rest) 0 width = some number :=
  readNumber_of_eq fits (List.nil_append _).symm rfl

theorem readNumber_leBytes {number : Nat} (fits : number < 2 ^ (8 * width)) :
    readNumber (leBytes width number) 0 width = some number := by
  have read := readNumber_append fits []
  rwa [List.append_nil] at read

theorem writeBuffer_inside {size : Nat} {bytes : List Byte} (inside : bytes.length ≤ size) :
    writeBuffer size bytes = some bytes := if_pos inside

end

section

variable {Field : Type} [DecidableEq Field] {layout : List Field} {field : Field}

/-- The number of a field, where the numbers lie in the order of the layout. -/
def fieldNumber (layout : List Field) (numbers : List Nat) (field : Field) : Nat :=
  numbers.getD (layout.idxOf field) 0

theorem fieldNumber_map (record : Field → Nat) (member : field ∈ layout) :
    fieldNumber layout (layout.map record) field = record field := by
  have inside : layout.idxOf field < layout.length := List.idxOf_lt_length_of_mem member
  rw [fieldNumber, List.getD_eq_getElem?_getD, List.getElem?_map, List.getElem?_eq_getElem inside,
    List.getElem_idxOf]
  rfl

theorem fieldNumber_lt {numbers : List Nat} {bound : Nat} (positive : 0 < bound)
    (fits : ∀ number ∈ numbers, number < bound) : fieldNumber layout numbers field < bound := by
  rw [fieldNumber, List.getD_eq_getElem?_getD]
  cases found : numbers[layout.idxOf field]? with
  | none => exact positive
  | some number => exact fits number (List.mem_of_getElem? found)

end

end HorizonOc.Data
