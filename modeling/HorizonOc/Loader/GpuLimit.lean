import HorizonOc.Data.MoveWide
import HorizonOc.Loader.Pcv

namespace HorizonOc.Loader

open HorizonOc.Data

section

variable {first second : Word} {rd : BitVec 5}

theorem asmCompareNoRd_iff :
    asmCompareNoRd first second = true ↔ first.toNat / 32 = second.toNat / 32 := by
  have zero : asmCompareNoRd first second = true ↔ (first >>> 5) ^^^ (second >>> 5) = 0#32 := by
    rw [asmCompareNoRd, decide_eq_true_eq, BitVec.ushiftRight_xor_distrib]
    rfl
  rw [zero, BitVec.xor_eq_zero_iff, ← BitVec.toNat_inj, BitVec.toNat_ushiftRight,
    BitVec.toNat_ushiftRight, Nat.shiftRight_eq_div_pow, Nat.shiftRight_eq_div_pow]

theorem asmGetRd_toNat (instruction : Word) :
    (asmGetRd instruction).toNat = instruction.toNat % 32 := by
  rw [asmGetRd, BitVec.toNat_and]
  exact Nat.and_two_pow_sub_one_eq_mod _ 5

theorem asmGetImm16_toNat (instruction : Word) :
    (asmGetImm16 instruction).toNat = instruction.toNat / 32 % 65536 := by
  rw [asmGetImm16, BitVec.toNat_and, BitVec.toNat_ushiftRight, Nat.shiftRight_eq_div_pow]
  exact Nat.and_two_pow_sub_one_eq_mod _ 16

theorem clearRd_mask : ∀ index < 32,
    (0xFFFFFFE0#32).getLsbD index = decide (5 ≤ index) := by decide +kernel

theorem clearRd (instruction : Word) :
    instruction &&& 0xFFFFFFE0#32 = (instruction >>> 5) <<< 5 := by
  apply BitVec.eq_of_getLsbD_eq
  intro index below
  have mask := clearRd_mask index below
  rw [BitVec.getLsbD_and, mask, BitVec.getLsbD_shiftLeft, BitVec.getLsbD_ushiftRight]
  by_cases low : index < 5
  · simp [low]
  · have same : 5 + (index - 5) = index := by omega
    simp [below, low, Nat.not_lt.mp low, same]

theorem asmSetRd_toNat (instruction rd : Word) :
    (asmSetRd instruction rd).toNat = instruction.toNat / 32 * 32 + rd.toNat % 32 := by
  have bound := instruction.isLt
  have small : rd.toNat % 32 < 2 ^ 5 := Nat.mod_lt _ (by decide)
  have low : (rd &&& 0x1F#32).toNat = rd.toNat % 32 := asmGetRd_toNat rd
  have high : ((instruction >>> 5) <<< 5).toNat = (instruction.toNat / 32) <<< 5 := by
    rw [BitVec.toNat_shiftLeft, BitVec.toNat_ushiftRight, Nat.shiftRight_eq_div_pow, Nat.shiftLeft_eq,
      Nat.mod_eq_of_lt (by omega)]
  change (instruction &&& 0xFFFFFFE0#32 ||| rd &&& 0x1F#32).toNat = _
  rw [clearRd, BitVec.toNat_or, high, low, ← Nat.shiftLeft_add_eq_or_of_lt small, Nat.shiftLeft_eq]

/-- The immediate is put into an instruction whose other bits are given. -/
theorem asmSetImm16_toNat {instruction : Word} {high : Nat} (imm : Word)
    (cleared : (instruction &&& 0xFFE0001F#32).toNat = high <<< 21) :
    (asmSetImm16 instruction imm).toNat = 2 ^ 21 * high + 32 * (imm.toNat % 65536) := by
  have masked : (imm &&& 0xFFFF#32).toNat = imm.toNat % 65536 :=
    Nat.and_two_pow_sub_one_eq_mod _ 16
  have shifted : ((imm &&& 0xFFFF#32) <<< 5).toNat = 32 * (imm.toNat % 65536) := by
    rw [BitVec.toNat_shiftLeft, masked, Nat.shiftLeft_eq]
    omega
  have small : 32 * (imm.toNat % 65536) < 2 ^ 21 := by omega
  change (instruction &&& 0xFFE0001F#32 ||| (imm &&& 0xFFFF#32) <<< 5).toNat = _
  rw [BitVec.toNat_or, cleared, shifted, ← Nat.shiftLeft_add_eq_or_of_lt small,
    Nat.shiftLeft_eq, Nat.mul_comm]

/-- A 32-bit form as a number; its upper 11 bits come from the opcode and the shift. -/
theorem narrow_toNat {op : MoveWideOp} {hw : BitVec 2} {high : Nat}
    (allocated : false = true ∨ hw.toNat < 2)
    (upper : 256 * op.opc.toNat + 148 + hw.toNat = high) (imm16 : BitVec 16) (rd : BitVec 5) :
    (MoveWide.mk false op hw imm16 rd allocated).encode.toNat =
      2 ^ 21 * high + 32 * imm16.toNat + rd.toNat := by
  have word := MoveWide.encode_toNat (MoveWide.mk false op hw imm16 rd allocated)
  simp only [Bool.toNat_false] at word
  omega

theorem movesHalves_iff {limit : Word} :
    MoveWide.MovesHalves first second rd limit ↔
      first.toNat = 2 ^ 21 * 0x294 + 32 * (limit.toNat % 65536) + rd.toNat ∧
        second.toNat = 2 ^ 21 * 0x395 + 32 * (limit.toNat / 65536) + rd.toNat := by
  have movz : 256 * MoveWideOp.movz.opc.toNat + 148 + (0 : BitVec 2).toNat = 0x294 := by decide
  have movk : 256 * MoveWideOp.movk.opc.toNat + 148 + (1 : BitVec 2).toNat = 0x395 := by decide
  have bound := limit.isLt
  have half : limit.toNat / 2 ^ 16 % 2 ^ 16 = limit.toNat / 2 ^ 16 := by omega
  rw [MoveWide.MovesHalves, MoveWide.decode_eq_some_iff, MoveWide.decode_eq_some_iff,
    ← BitVec.toNat_inj, ← BitVec.toNat_inj, MoveWide.movzLow, MoveWide.movkHigh,
    narrow_toNat _ movz, narrow_toNat _ movk, MoveWide.field_toNat, MoveWide.field_toNat,
    Nat.pow_zero, Nat.div_one, half]
  exact Iff.rfl

theorem movesGpuLimit_iff :
    MoveWide.MovesHalves first second rd gpuClkOsLimit ↔
      first.toNat = 0x52820000 + rd.toNat ∧ second.toNat = 0x72A001C0 + rd.toNat := by
  have low : gpuClkOsLimit.toNat % 65536 = 0x1000 := by decide
  have high : gpuClkOsLimit.toNat / 65536 = 0xE := by decide
  rw [movesHalves_iff, low, high]
  exact Iff.rfl

/-- The patcher recognises the pair, whatever the register. -/
theorem loadsGpuLimit_iff :
    loadsGpuLimit first second = true ↔
      ∃ rd, MoveWide.MovesHalves first second rd gpuClkOsLimit := by
  have lower : gpuAsmPattern.1.toNat = 0x52820000 := by decide
  have upper : gpuAsmPattern.2.toNat = 0x72A001C0 := by decide
  have limitLow : (gpuClkOsLimit &&& 0xFFFF).toNat = 0x1000 := by decide
  have limitHigh : (gpuClkOsLimit >>> 16).toNat = 0xE := by decide
  unfold loadsGpuLimit
  simp only [Bool.and_eq_true, decide_eq_true_eq, asmCompareNoRd_iff, lower, upper,
    ← BitVec.toNat_inj, asmGetRd_toNat, asmGetImm16_toNat, limitLow, limitHigh, movesGpuLimit_iff]
  constructor
  · rintro ⟨⟨⟨⟨matches1, matches2⟩, sameRd⟩, -⟩, -⟩
    refine ⟨.ofNat 5 (first.toNat % 32), ?_⟩
    rw [BitVec.toNat_ofNat]
    omega
  · rintro ⟨rd, loads1, loads2⟩
    have bound := rd.isLt
    omega

/-- The words that the patcher writes are a pair for the same register. -/
theorem rewritten_movesHalves (limit : Word) (register : asmGetRd first = rd.setWidth 32) :
    MoveWide.MovesHalves (asmSetRd (asmSetImm16 gpuAsmPattern.1 limit) (asmGetRd first))
      (asmSetRd (asmSetImm16 gpuAsmPattern.2 (limit >>> 16)) (asmGetRd first)) rd limit := by
  have lower : (gpuAsmPattern.1 &&& 0xFFE0001F#32).toNat = 0x294 <<< 21 := by decide
  have upper : (gpuAsmPattern.2 &&& 0xFFE0001F#32).toNat = 0x395 <<< 21 := by decide
  have field : (rd.setWidth 32).toNat = rd.toNat := by
    rw [BitVec.toNat_setWidth, Nat.mod_eq_of_lt (Nat.lt_trans rd.isLt (by decide))]
  have bound := rd.isLt
  have half : (limit >>> 16).toNat = limit.toNat / 65536 := by
    rw [BitVec.toNat_ushiftRight, Nat.shiftRight_eq_div_pow]
  refine movesHalves_iff.mpr ⟨?_, ?_⟩
  · rw [asmSetRd_toNat, asmSetImm16_toNat limit lower, register, field]
    omega
  · rw [asmSetRd_toNat, asmSetImm16_toNat _ upper, register, field, half]
    omega

end

section

variable {soc : Soc} {custom : CustomizeTable} {ptr : Int} {store : Image} {last : CvbEntry}

def limitedWord (word : Int → Word) (ptr : Int) (limit : Word) : Int → Word :=
  Function.update
    (Function.update word ptr (asmSetRd (asmSetImm16 gpuAsmPattern.1 limit) (asmGetRd (word ptr))))
    (ptr + 1) (asmSetRd (asmSetImm16 gpuAsmPattern.2 (limit >>> 16)) (asmGetRd (word ptr)))

theorem gpuFreqMaxAsm_run
    (chosen : getDvfsTableLastEntry (soc.gpuCustomizeTable custom) = some last) :
    Tracked.run (gpuFreqMaxAsm soc custom ptr) store =
      if loadsGpuLimit (store.word ptr) (store.word (ptr + 1)) then
        (.ok ⟨⟩, { store with word := limitedWord store.word ptr last.freqLow })
      else (.error .invalidGpuFreqMaxPattern, store) := by
  unfold gpuFreqMaxAsm
  rw [Tracked.run_read_bind, Tracked.run_read_bind, Tracked.run_require_bind]
  simp only [chosen]
  rfl

theorem gpuFreqMaxAsm_spec (ptr : Int) (store : Image)
    (chosen : getDvfsTableLastEntry (soc.gpuCustomizeTable custom) = some last) :
    (gpuFreqMaxAsm soc custom ptr store).succeeded =
        loadsGpuLimit (store.word ptr) (store.word (ptr + 1)) ∧
      (gpuFreqMaxAsm soc custom ptr store).store.word =
        if loadsGpuLimit (store.word ptr) (store.word (ptr + 1)) then
          limitedWord store.word ptr last.freqLow
        else store.word := by
  have run := @gpuFreqMaxAsm_run _ _ ptr store _ chosen
  unfold Outcome.succeeded
  cases loads : loadsGpuLimit (store.word ptr) (store.word (ptr + 1)) with
  | true =>
      rw [loads, if_pos rfl] at run
      obtain ⟨result, stored⟩ := Prod.mk.inj run
      rw [result, stored]
      exact ⟨rfl, rfl⟩
  | false =>
      rw [loads, if_neg Bool.false_ne_true] at run
      obtain ⟨result, stored⟩ := Prod.mk.inj run
      rw [result, stored]
      exact ⟨rfl, rfl⟩

/-- The limit is rewritten exactly where the two words move 921600, and then they move the new limit
to the same register.  What they move they load, unless that is the zero register. -/
theorem gpu_limit_rewritten (ptr : Int) (store : Image)
    (chosen : getDvfsTableLastEntry (soc.gpuCustomizeTable custom) = some last) :
    let final := (gpuFreqMaxAsm soc custom ptr store).store
    ((gpuFreqMaxAsm soc custom ptr store).succeeded = true ↔
      ∃ rd, MoveWide.MovesHalves (store.word ptr) (store.word (ptr + 1)) rd 921600) ∧
    (∀ rd ≠ MoveWide.zeroRegister,
      MoveWide.MovesHalves (store.word ptr) (store.word (ptr + 1)) rd 921600 ↔
        MoveWide.IsMovePair (store.word ptr) (store.word (ptr + 1)) rd ∧
          MoveWide.Loads (store.word ptr) (store.word (ptr + 1)) rd 921600) ∧
    (∀ rd, MoveWide.MovesHalves (store.word ptr) (store.word (ptr + 1)) rd 921600 →
      MoveWide.MovesHalves (final.word ptr) (final.word (ptr + 1)) rd last.freqLow ∧
        (rd ≠ MoveWide.zeroRegister →
          MoveWide.Loads (final.word ptr) (final.word (ptr + 1)) rd last.freqLow)) ∧
    ∀ address, address ≠ ptr → address ≠ ptr + 1 → final.word address = store.word address := by
  intro final
  obtain ⟨succeeded, word⟩ := gpuFreqMaxAsm_spec ptr store chosen
  refine ⟨?_, fun rd notZero => MoveWide.movesHalves_iff_loads notZero, ?_, ?_⟩
  · rw [succeeded]
    exact loadsGpuLimit_iff
  · intro rd moves
    have register : asmGetRd (store.word ptr) = rd.setWidth 32 := by
      have first := (movesGpuLimit_iff.mp moves).1
      have bound := rd.isLt
      apply BitVec.eq_of_toNat_eq
      rw [asmGetRd_toNat, first, BitVec.toNat_setWidth]
      omega
    have rewritten : MoveWide.MovesHalves (final.word ptr) (final.word (ptr + 1)) rd last.freqLow := by
      have apart : ptr ≠ ptr + 1 := by omega
      rw [word, if_pos (loadsGpuLimit_iff.mpr ⟨rd, moves⟩), limitedWord, Function.update_self,
        Function.update_of_ne apart, Function.update_self]
      exact rewritten_movesHalves last.freqLow register
    exact ⟨rewritten, fun notZero => ((MoveWide.movesHalves_iff_loads notZero).mp rewritten).2⟩
  · intro address notFirst notSecond
    rw [word]
    split
    · rw [limitedWord, Function.update_of_ne notSecond, Function.update_of_ne notFirst]
    · rfl

def wordPair (first second : Word) : Image :=
  { word := fun address => if address = 0 then first else if address = 1 then second else 0
    rest := { maxEmcClocks := [], i2cCalls := 0 } }

theorem gpu_limit_rewritten_w11 :
    let final := (gpuFreqMaxAsm .mariko shipped 0 (wordPair 0x5282000B 0x72A001CB)).store
    MoveWide.Loads (final.word 0) (final.word 1) 11 1075200 := by
  intro final
  have rate : (getDvfsTableLastEntry (Soc.mariko.gpuCustomizeTable shipped)).map CvbEntry.freqLow =
      some 1075200 := by decide +kernel
  obtain ⟨last, chosen, fastest⟩ := Option.map_eq_some_iff.mp rate
  have moves : MoveWide.MovesHalves ((wordPair 0x5282000B 0x72A001CB).word 0)
      ((wordPair 0x5282000B 0x72A001CB).word (0 + 1)) 11 921600 := by
    constructor <;> decide +kernel
  have loads := ((gpu_limit_rewritten 0 (wordPair 0x5282000B 0x72A001CB) chosen).2.2.1 11 moves).2
  rw [← fastest]
  exact loads (by decide)

/-- Nothing is loaded where the words move to the zero register, and yet they are rewritten. -/
theorem gpu_limit_zero_register :
    let store := wordPair 0x5282001F 0x72A001DF
    (gpuFreqMaxAsm .mariko shipped 0 store).succeeded = true ∧
      (∀ registers, MoveWide.execWords [store.word 0, store.word 1] registers = some registers) ∧
      ¬∀ (soc : Soc) (custom : CustomizeTable) (ptr : Int) (store : Image),
        (getDvfsTableLastEntry (soc.gpuCustomizeTable custom)).isSome →
        ((gpuFreqMaxAsm soc custom ptr store).succeeded = true ↔
          ∃ rd, MoveWide.IsMovePair (store.word ptr) (store.word (ptr + 1)) rd ∧
            MoveWide.Loads (store.word ptr) (store.word (ptr + 1)) rd 921600) := by
  intro store
  have succeeded : (gpuFreqMaxAsm .mariko shipped 0 store).succeeded = true := by decide +kernel
  have lower : MoveWide.decode (store.word 0) = some (MoveWide.movzLow 0x1000 31) := by
    decide +kernel
  have upper : MoveWide.decode (store.word 1) = some (MoveWide.movkHigh 0xE 31) := by
    decide +kernel
  have pair : MoveWide.IsMovePair (store.word 0) (store.word 1) MoveWide.zeroRegister :=
    ⟨_, _, lower, upper⟩
  refine ⟨succeeded, fun registers => (MoveWide.zeroRegister_loads pair registers).1, fun iff => ?_⟩
  obtain ⟨rd, ⟨low, high, first, second⟩, loads⟩ :=
    (iff .mariko shipped 0 store (by decide +kernel)).mp succeeded
  have same : MoveWide.zeroRegister = rd :=
    congrArg MoveWide.rd (Option.some.inj (lower.symm.trans first))
  subst same
  obtain ⟨after, executed, loaded⟩ := loads fun _ => 0
  obtain ⟨unchanged, zero⟩ := MoveWide.zeroRegister_loads pair fun _ => 0
  have final : after = fun _ => 0 := Option.some.inj (executed.symm.trans unchanged)
  rw [final, zero] at loaded
  exact absurd loaded (by decide)

end

end HorizonOc.Loader
