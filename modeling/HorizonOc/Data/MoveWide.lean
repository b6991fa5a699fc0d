import Mathlib.Algebra.Group.Nat.Defs
import Mathlib.Logic.Function.Basic
import Mathlib.Tactic.SplitIfs

namespace HorizonOc.Data

/-- The instructions that move a wide immediate. -/
inductive MoveWideOp where
  | movn | movz | movk
deriving DecidableEq, Repr

namespace MoveWideOp

def opc : MoveWideOp → BitVec 2
  | movn => 0
  | movz => 2
  | movk => 3

def ofOpc (opc : BitVec 2) : Option MoveWideOp :=
  if opc = 0 then some movn else if opc = 2 then some movz else if opc = 3 then some movk else none

theorem ofOpc_opc (op : MoveWideOp) : ofOpc op.opc = some op := by cases op <;> rfl

theorem opc_of_ofOpc {opc : BitVec 2} {op : MoveWideOp} (found : ofOpc opc = some op) :
    op.opc = opc := by
  unfold ofOpc at found
  split_ifs at found with zero two three
  · rw [← Option.some.inj found, zero]
    rfl
  · rw [← Option.some.inj found, two]
    rfl
  · rw [← Option.some.inj found, three]
    rfl

end MoveWideOp

/-- An instruction; the 32-bit forms have no upper halves. -/
structure MoveWide where
  sf : Bool
  op : MoveWideOp
  hw : BitVec 2
  imm16 : BitVec 16
  rd : BitVec 5
  allocated : sf = true ∨ hw.toNat < 2
deriving DecidableEq

namespace MoveWide

def encode (instruction : MoveWide) : BitVec 32 :=
  BitVec.ofBool instruction.sf ++ instruction.op.opc ++ 0b100101#6 ++ instruction.hw ++
    instruction.imm16 ++ instruction.rd

def decode (word : BitVec 32) : Option MoveWide :=
  if word.extractLsb' 23 6 = 0b100101#6 then
    match MoveWideOp.ofOpc (word.extractLsb' 29 2) with
    | none => none
    | some op =>
        if allocated : word.getLsbD 31 = true ∨ (word.extractLsb' 21 2).toNat < 2 then
          some
            { sf := word.getLsbD 31
              op
              hw := word.extractLsb' 21 2
              imm16 := word.extractLsb' 5 16
              rd := word.extractLsb' 0 5
              allocated }
        else none
  else none

section

variable {word : BitVec 32} {instruction : MoveWide}

theorem encode_toNat (instruction : MoveWide) :
    instruction.encode.toNat = 2 ^ 31 * instruction.sf.toNat + 2 ^ 29 * instruction.op.opc.toNat +
      2 ^ 23 * 37 + 2 ^ 21 * instruction.hw.toNat + 2 ^ 5 * instruction.imm16.toNat +
      instruction.rd.toNat := by
  simp only [encode, BitVec.toNat_append, BitVec.toNat_ofBool]
  rw [← Nat.shiftLeft_add_eq_or_of_lt instruction.rd.isLt,
    ← Nat.shiftLeft_add_eq_or_of_lt instruction.imm16.isLt,
    ← Nat.shiftLeft_add_eq_or_of_lt instruction.hw.isLt,
    ← Nat.shiftLeft_add_eq_or_of_lt (by decide),
    ← Nat.shiftLeft_add_eq_or_of_lt instruction.op.opc.isLt]
  simp only [Nat.shiftLeft_eq, BitVec.toNat_ofNat]
  omega

theorem field_toNat (word : BitVec 32) (start width : Nat) :
    (word.extractLsb' start width).toNat = word.toNat / 2 ^ start % 2 ^ width := by
  rw [BitVec.extractLsb'_toNat, Nat.shiftRight_eq_div_pow]

theorem highest_toNat (word : BitVec 32) :
    (word.getLsbD 31).toNat = word.toNat / 2 ^ 31 % 2 := by
  rw [BitVec.getLsbD, Nat.testBit_eq_decide_div_mod_eq]
  rcases Nat.mod_two_eq_zero_or_one (word.toNat / 2 ^ 31) with zero | one
  · rw [zero]
    rfl
  · rw [one]
    rfl

theorem fields_encode (instruction : MoveWide) :
    instruction.encode.getLsbD 31 = instruction.sf ∧
      instruction.encode.extractLsb' 29 2 = instruction.op.opc ∧
      instruction.encode.extractLsb' 23 6 = 0b100101#6 ∧
      instruction.encode.extractLsb' 21 2 = instruction.hw ∧
      instruction.encode.extractLsb' 5 16 = instruction.imm16 ∧
      instruction.encode.extractLsb' 0 5 = instruction.rd := by
  have word := encode_toNat instruction
  have sf : instruction.sf.toNat < 2 := instruction.sf.toNat_lt
  have opc := instruction.op.opc.isLt
  have hw := instruction.hw.isLt
  have imm16 := instruction.imm16.isLt
  have rd := instruction.rd.isLt
  refine ⟨?_, ?_, ?_, ?_, ?_, ?_⟩
  · have same : (instruction.encode.getLsbD 31).toNat = instruction.sf.toNat := by
      rw [highest_toNat]
      omega
    revert same
    cases instruction.encode.getLsbD 31 <;> cases instruction.sf <;> simp
  all_goals
    apply BitVec.eq_of_toNat_eq
    rw [field_toNat]
    first | omega | (rw [BitVec.toNat_ofNat]; omega)

theorem decode_encode (instruction : MoveWide) : decode instruction.encode = some instruction := by
  obtain ⟨sf, opc, fixed, hw, imm16, rd⟩ := fields_encode instruction
  have op := MoveWideOp.ofOpc_opc instruction.op
  unfold decode
  simp only [fixed, if_true, opc, op, sf, hw, imm16, rd, dif_pos instruction.allocated]

theorem encode_of_decode (decoded : decode word = some instruction) : instruction.encode = word := by
  unfold decode at decoded
  split at decoded
  · rename_i fixed
    split at decoded
    · contradiction
    · rename_i op found
      split at decoded
      · have opc := congrArg BitVec.toNat (MoveWideOp.opc_of_ofOpc found)
        have pattern := congrArg BitVec.toNat fixed
        rw [field_toNat] at opc pattern
        rw [BitVec.toNat_ofNat] at pattern
        have bound := word.isLt
        apply BitVec.eq_of_toNat_eq
        rw [← Option.some.inj decoded, encode_toNat]
        dsimp only
        rw [highest_toNat, field_toNat, field_toNat, field_toNat, opc]
        omega
      · contradiction
  · contradiction

end

theorem decode_eq_some_iff {word : BitVec 32} {instruction : MoveWide} :
    decode word = some instruction ↔ word = instruction.encode := by
  constructor
  · intro decoded
    exact (encode_of_decode decoded).symm
  · rintro rfl
    exact decode_encode instruction

/-- What the 31 general registers hold; the number 31 is that of the zero register. -/
abbrev Registers := BitVec 5 → BitVec 64

def zeroRegister : BitVec 5 := 31

def readX (registers : Registers) (register : BitVec 5) : BitVec 64 :=
  if register = zeroRegister then 0 else registers register

def readW (registers : Registers) (register : BitVec 5) : BitVec 32 :=
  (readX registers register).setWidth 32

def writeX (registers : Registers) (register : BitVec 5) (value : BitVec 64) : Registers :=
  if register = zeroRegister then registers else Function.update registers register value

/-- The new value of the register; the 32-bit forms clear its upper half. -/
def result (instruction : MoveWide) (old : BitVec 64) : BitVec 64 :=
  let shift := 16 * instruction.hw.toNat
  let imm := instruction.imm16.setWidth 64 <<< shift
  let value :=
    match instruction.op with
    | .movn => ~~~imm
    | .movz => imm
    | .movk => (old &&& ~~~(0xFFFF#64 <<< shift)) ||| imm
  if instruction.sf then value else (value.setWidth 32).setWidth 64

def exec (instruction : MoveWide) (registers : Registers) : Registers :=
  writeX registers instruction.rd (instruction.result (readX registers instruction.rd))

/-- Executes words one after another, where they are such instructions. -/
def execWords : List (BitVec 32) → Registers → Option Registers
  | [], registers => some registers
  | word :: rest, registers =>
      match decode word with
      | none => none
      | some instruction => execWords rest (instruction.exec registers)

theorem lowHalf_allocated : (0 : BitVec 2).toNat < 2 := by decide

theorem highHalf_allocated : (1 : BitVec 2).toNat < 2 := by decide

/-- `MOVZ Wd, #imm16`. -/
def movzLow (imm16 : BitVec 16) (rd : BitVec 5) : MoveWide :=
  { sf := false, op := .movz, hw := 0, imm16, rd, allocated := .inr lowHalf_allocated }

/-- `MOVK Wd, #imm16, LSL #16`. -/
def movkHigh (imm16 : BitVec 16) (rd : BitVec 5) : MoveWide :=
  { sf := false, op := .movk, hw := 1, imm16, rd, allocated := .inr highHalf_allocated }

/-- Two words that move a value to a register, half by half. -/
def IsMovePair (first second : BitVec 32) (rd : BitVec 5) : Prop :=
  ∃ low high, decode first = some (movzLow low rd) ∧ decode second = some (movkHigh high rd)

def MovesHalves (first second : BitVec 32) (rd : BitVec 5) (value : BitVec 32) : Prop :=
  decode first = some (movzLow (value.extractLsb' 0 16) rd) ∧
    decode second = some (movkHigh (value.extractLsb' 16 16) rd)

/-- Whatever the registers hold, the register holds the value after the words. -/
def Loads (first second : BitVec 32) (rd : BitVec 5) (value : BitVec 32) : Prop :=
  ∀ registers, ∃ after, execWords [first, second] registers = some after ∧ readW after rd = value

section

variable {first second : BitVec 32} {rd : BitVec 5} {value : BitVec 32}

theorem MovesHalves.isMovePair (moves : MovesHalves first second rd value) :
    IsMovePair first second rd := ⟨_, _, moves⟩

theorem execWords_pair {low high : BitVec 16} (lower : decode first = some (movzLow low rd))
    (upper : decode second = some (movkHigh high rd)) (registers : Registers) :
    execWords [first, second] registers =
      some ((movkHigh high rd).exec ((movzLow low rd).exec registers)) := by
  simp only [execWords, lower, upper]

theorem highHalf_mask : ∀ index < 32,
    (0xFFFF#64 <<< 16).getLsbD index = decide (16 ≤ index) := by decide +kernel

/-- What `MOVK` keeps of the register lies below what it inserts. -/
theorem result_movkHigh (low high : BitVec 16) (rd : BitVec 5) :
    ((movkHigh high rd).result ((movzLow low rd).result 0)).setWidth 32 = high ++ low := by
  change ((((((low.setWidth 64 <<< 0).setWidth 32).setWidth 64 &&& ~~~(0xFFFF#64 <<< 16)) |||
    (high.setWidth 64 <<< 16)).setWidth 32).setWidth 64).setWidth 32 = (high ++ low : BitVec 32)
  apply BitVec.eq_of_getLsbD_eq
  intro index below
  have mask := highHalf_mask index below
  have wide : index < 64 := Nat.lt_trans below (by decide)
  simp only [BitVec.getLsbD_setWidth, BitVec.getLsbD_or, BitVec.getLsbD_and, BitVec.getLsbD_not,
    mask, BitVec.getLsbD_shiftLeft, BitVec.getLsbD_append, below, wide, BitVec.shiftLeft_zero]
  by_cases lower : index < 16
  · simp only [lower, Nat.not_le.mpr lower, decide_true, decide_false, Bool.true_and,
      Bool.not_true, Bool.not_false, Bool.and_true, Bool.false_and, Bool.or_false, if_true]
  · have beyond : low.getLsbD index = false :=
      BitVec.getLsbD_of_ge low index (Nat.not_lt.mp lower)
    have inside : index - 16 < 64 := Nat.lt_of_le_of_lt (Nat.sub_le index 16) wide
    simp only [lower, Nat.not_lt.mp lower, beyond, inside, decide_true, decide_false,
      Bool.true_and, Bool.not_true, Bool.not_false, Bool.and_true, Bool.and_false,
      Bool.false_or, if_false]

theorem readW_pair (registers : Registers) (low high : BitVec 16) (notZero : rd ≠ zeroRegister) :
    readW ((movkHigh high rd).exec ((movzLow low rd).exec registers)) rd = high ++ low := by
  have written : ∀ registers value, readX (writeX registers rd value) rd = value := by
    intro registers value
    rw [readX, if_neg notZero, writeX, if_neg notZero, Function.update_self]
  have lower : readX ((movzLow low rd).exec registers) rd = (movzLow low rd).result 0 :=
    written registers _
  have upper : readX ((movkHigh high rd).exec ((movzLow low rd).exec registers)) rd =
      (movkHigh high rd).result ((movzLow low rd).result 0) := by
    rw [← lower]
    exact written _ _
  rw [readW, upper, result_movkHigh]

theorem exec_zeroRegister (instruction : MoveWide) (zero : instruction.rd = zeroRegister)
    (registers : Registers) : instruction.exec registers = registers := if_pos zero

theorem halves_append (value : BitVec 32) :
    (value.extractLsb' 16 16 ++ value.extractLsb' 0 16 : BitVec 32) = value := by
  rw [BitVec.extractLsb'_append_extractLsb'_eq_extractLsb' (by decide)]
  exact BitVec.extractLsb'_eq_self

theorem append_injective {low high otherLow otherHigh : BitVec 16}
    (same : (high ++ low : BitVec 32) = otherHigh ++ otherLow) :
    high = otherHigh ∧ low = otherLow := by
  have numbers := congrArg BitVec.toNat same
  rw [BitVec.toNat_append, BitVec.toNat_append, ← Nat.shiftLeft_add_eq_or_of_lt low.isLt,
    ← Nat.shiftLeft_add_eq_or_of_lt otherLow.isLt, Nat.shiftLeft_eq, Nat.shiftLeft_eq] at numbers
  have first := low.isLt
  have second := otherLow.isLt
  constructor <;> (apply BitVec.eq_of_toNat_eq; omega)

/-- But for the zero register, the halves are those of the value exactly if the value is loaded. -/
theorem movesHalves_iff_loads (notZero : rd ≠ zeroRegister) :
    MovesHalves first second rd value ↔
      IsMovePair first second rd ∧ Loads first second rd value := by
  constructor
  · intro moves
    refine ⟨moves.isMovePair, fun registers => ⟨_, execWords_pair moves.1 moves.2 registers, ?_⟩⟩
    rw [readW_pair registers _ _ notZero, halves_append]
  · rintro ⟨⟨low, high, lower, upper⟩, loads⟩
    obtain ⟨after, executed, loaded⟩ := loads fun _ => 0
    rw [execWords_pair lower upper, Option.some.injEq] at executed
    rw [← executed, readW_pair _ _ _ notZero, ← halves_append value] at loaded
    obtain ⟨sameHigh, sameLow⟩ := append_injective loaded
    exact ⟨by rw [lower, sameLow], by rw [upper, sameHigh]⟩

/-- Words that move to the zero register load nothing but zero. -/
theorem zeroRegister_loads (pair : IsMovePair first second zeroRegister)
    (registers : Registers) :
    execWords [first, second] registers = some registers ∧ readW registers zeroRegister = 0 := by
  obtain ⟨low, high, lower, upper⟩ := pair
  rw [execWords_pair lower upper, exec_zeroRegister _ rfl, exec_zeroRegister _ rfl]
  exact ⟨rfl, rfl⟩

end

end MoveWide

end HorizonOc.Data
