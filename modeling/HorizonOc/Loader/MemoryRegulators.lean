import HorizonOc.Data.Journal
import HorizonOc.Data.Multiples
import HorizonOc.Data.Packing
import HorizonOc.Loader.AutoVoltages

namespace HorizonOc.Loader

open HorizonOc.Data

/-- What is sent to `I2cDevice_Max77812_2`. -/
structure I2cCommand where
  reg : Byte
  val : Byte
deriving DecidableEq, Repr

/-- A patcher that keeps a journal of the commands. -/
abbrev SendingPatcher := Journaled Word PatchState I2cCommand LdrResult

namespace Mariko

def i2cSetU8 (platform : Platform) (reg val : Byte) : SendingPatcher PUnit := do
  Tracked.note { reg, val }
  Tracked.beside do
    let state ← Tracked.getRest
    Tracked.setRest { state with i2cCalls := state.i2cCalls + 1 }
    Tracked.require (platform.i2cSucceeds state.i2cCalls) .i2c

/-- `emcVddqVolt` with the command that it sends. -/
def emcVddqVoltSending (platform : Platform) (custom : CustomizeTable) (ptr : Int) :
    SendingPatcher PUnit := do
  let matched ← Tracked.beside (validateRegulator (ptr - 11) 2 [(4, 3), (6, 5000), (8, 250000)])
  Tracked.beside (Tracked.require matched .invalidRegulatorEntry)
  let emcUv := custom.marikoEmcVddqVolt
  if emcUv = 0 then pure ⟨⟩
  else do
    let emcUv := if emcUv % 5000 ≠ 0 then (emcUv + 4999) / 5000 * 5000 else emcUv
    Tracked.beside (Tracked.write ptr emcUv)
    i2cSetU8 platform 0x25 (((emcUv - 250000) / 5000).setWidth 8)

end Mariko

section

variable {platform : Platform} {custom : CustomizeTable} {ptr : Int}

theorem Mariko.emcVddqVoltSending_forgets :
    Tracked.Forgets (emcVddqVoltSending platform custom ptr) (emcVddqVolt platform custom ptr) := by
  refine Tracked.forgets_bind (Tracked.forgets_beside _) fun matched => ?_
  refine Tracked.forgets_bind (Tracked.forgets_beside _) fun _ => ?_
  refine Tracked.forgets_ite (Tracked.forgets_pure _) ?_
  refine Tracked.forgets_bind (Tracked.forgets_beside _) fun _ => ?_
  exact Tracked.forgets_note_bind (Tracked.forgets_beside _)

/-- The command for a voltage on the regulator's steps. -/
def Mariko.vddqCommand (emcUv : Word) : I2cCommand :=
  { reg := 0x25, val := ((emcUv - 250000) / 5000).setWidth 8 }

theorem Mariko.i2cSetU8_journal (reg val : Byte)
    (store : Store Word (PatchState × List I2cCommand)) :
    (i2cSetU8 platform reg val store).store.journal = store.journal ++ [⟨reg, val⟩] := rfl

/-- Where the regulator is found and a voltage is set, one command is sent. -/
theorem Mariko.emcVddqVoltSending_journal {store : Store Word (PatchState × List I2cCommand)}
    (regulator : RegulatorAt store.forget (ptr - 11) 2 emcVddqFields)
    (set : custom.marikoEmcVddqVolt ≠ 0) :
    (emcVddqVoltSending platform custom ptr store).store.journal =
      store.journal ++ [vddqCommand (emcVddqStep custom.marikoEmcVddqVolt)] := by
  have validated := validateRegulator_run (ptr - 11) 2 emcVddqFields store.forget
  rw [decide_eq_true regulator] at validated
  have matched : Tracked.run (Tracked.beside
      (validateRegulator (ptr - 11) 2 [(4, 3), (6, 5000), (8, 250000)]) :
        SendingPatcher Bool) store = (.ok true, store) := Tracked.run_beside validated
  change (Tracked.run (emcVddqVoltSending platform custom ptr) store).2.journal = _
  rw [emcVddqVoltSending, Tracked.run_bind_of_ok matched]
  have required : Tracked.run (Tracked.beside (Tracked.require true .invalidRegulatorEntry) :
      SendingPatcher PUnit) store = (.ok ⟨⟩, store) := rfl
  rw [Tracked.run_bind_of_ok required]
  dsimp only
  rw [if_neg set]
  exact i2cSetU8_journal _ _ _

theorem Mariko.emcVddqStep_toNat {emcUv : Word} (most : emcUv.toNat ≤ 700000) :
    (emcVddqStep emcUv).toNat = (emcUv.toNat + (5000 - 1)) / 5000 * 5000 := by
  unfold emcVddqStep
  simp only [ne_eq, ← BitVec.toNat_inj, BitVec.ofNat_eq_ofNat, BitVec.toNat_ofNat,
    BitVec.toNat_umod, apply_ite BitVec.toNat, BitVec.toNat_mul, BitVec.toNat_udiv,
    BitVec.toNat_add, Nat.reducePow, Nat.reduceMod]
  split <;> omega

theorem memVoltStep_toNat (emcUv : Word) :
    (memVoltStep emcUv).toNat = emcUv.toNat / 12500 * 12500 := by
  have bound := emcUv.isLt
  unfold memVoltStep
  simp only [ne_eq, ← BitVec.toNat_inj, BitVec.ofNat_eq_ofNat, BitVec.toNat_ofNat,
    BitVec.toNat_umod, apply_ite BitVec.toNat, BitVec.toNat_mul, BitVec.toNat_udiv,
    Nat.reducePow, Nat.reduceMod]
  split <;> omega

theorem Mariko.vddqCommand_val {emcUv : Word} (least : 250000 ≤ emcUv.toNat)
    (most : emcUv.toNat ≤ 700000) :
    (vddqCommand emcUv).val.toNat = (emcUv.toNat - 250000) / 5000 := by
  have above : (emcUv - 250000).toNat = emcUv.toNat - 250000 := by bv_omega
  have step : (5000 : Word).toNat = 5000 := rfl
  rw [vddqCommand, BitVec.toNat_setWidth, BitVec.toNat_udiv, above, step, Nat.mod_eq_of_lt]
  omega

/-- What `SafetyCheck` admits is rounded to a step inside the same range, and the byte that is sent
counts the steps of VDDQ. -/
theorem memory_voltages_rounded (safe : safetyCheck custom = true) (platform : Platform) (ptr : Int)
    (store : Store Word (PatchState × List I2cCommand)) :
    Tracked.Forgets (Mariko.emcVddqVoltSending platform custom ptr)
      (Mariko.emcVddqVolt platform custom ptr) ∧
    (∀ address value, .write address value ∈
        (Mariko.emcVddqVoltSending platform custom ptr store).accesses →
      address = ptr ∧
      IsLeast {uv | 5000 ∣ uv ∧ custom.marikoEmcVddqVolt.toNat ≤ uv} value.toNat ∧
      250000 ≤ value.toNat ∧ value.toNat ≤ 700000 ∧
      ∃ byte : Byte, (Mariko.emcVddqVoltSending platform custom ptr store).store.journal =
          store.journal ++ [⟨0x25, byte⟩] ∧
        value.toNat = 250000 + 5000 * byte.toNat) ∧
    ∀ address value, .write address value ∈ (memVoltHandler custom ptr store.forget).accesses →
      address = ptr ∧
      IsGreatest {uv | 12500 ∣ uv ∧ uv ≤ custom.commonEmcMemVolt.toNat} value.toNat ∧
      912500 ≤ value.toNat ∧ value.toNat ≤ 1350000 ∧
      ∃ steps, value.toNat = 600000 + 12500 * steps := by
  have values := safeValues_of_safe safe
  refine ⟨Mariko.emcVddqVoltSending_forgets, ?_, ?_⟩
  · rw [Mariko.emcVddqVoltSending_forgets.accesses]
    refine Mariko.emcVddqVolt_writes.mpr fun regulator set => ⟨rfl, ?_⟩
    have positive : custom.marikoEmcVddqVolt.toNat ≠ 0 := by simpa [← BitVec.toNat_inj] using set
    obtain ⟨low, high⟩ := values.marikoEmcVddqVolt.resolve_left positive
    have least := isLeast_multiple (show 0 < 5000 by decide) custom.marikoEmcVddqVolt.toNat
    rw [← Mariko.emcVddqStep_toNat high] at least
    have above : 250000 ≤ (Mariko.emcVddqStep custom.marikoEmcVddqVolt).toNat :=
      Nat.le_trans low least.1.2
    have below : (Mariko.emcVddqStep custom.marikoEmcVddqVolt).toNat ≤ 700000 :=
      least.2 ⟨by decide, high⟩
    refine ⟨least, above, below,
      (Mariko.vddqCommand (Mariko.emcVddqStep custom.marikoEmcVddqVolt)).val,
      Mariko.emcVddqVoltSending_journal regulator set, ?_⟩
    rw [Mariko.vddqCommand_val above below]
    have whole := least.1.1
    omega
  · refine memVoltHandler_writes.mpr fun _ set => ⟨rfl, ?_⟩
    have positive : custom.commonEmcMemVolt.toNat ≠ 0 := by simpa [← BitVec.toNat_inj] using set
    obtain ⟨low, high⟩ := values.commonEmcMemVolt.resolve_left positive
    have greatest := isGreatest_multiple 12500 custom.commonEmcMemVolt.toNat
    rw [← memVoltStep_toNat] at greatest
    have above : 912500 ≤ (memVoltStep custom.commonEmcMemVolt).toNat :=
      greatest.2 ⟨by decide, low⟩
    have below : (memVoltStep custom.commonEmcMemVolt).toNat ≤ 1350000 :=
      Nat.le_trans greatest.1.2 high
    have whole := greatest.1.1
    refine ⟨greatest, above, below,
      ((memVoltStep custom.commonEmcMemVolt).toNat - 600000) / 12500, ?_⟩
    omega

end

/-- Voltages between the steps of both regulators. -/
def unevenVolts : CustomizeTable :=
  { shipped with marikoEmcVddqVolt := 612345, commonEmcMemVolt := 1190000 }

theorem memory_voltages_rounded_sample :
    IsLeast {uv | 5000 ∣ uv ∧ 612345 ≤ uv} 615000 ∧
      IsGreatest {uv | 12500 ∣ uv ∧ uv ≤ 1190000} 1187500 := by
  let platform : Platform :=
    { eristaTimings := fun _ _ => 0, marikoAutoAdjust := id, i2cSucceeds := fun _ => true }
  have safe : safetyCheck unevenVolts = true := by decide +kernel
  have vddq := (memory_voltages_rounded safe platform 11
    { word := emcVddqImage.word, rest := (emcVddqImage.rest, []) }).2.1 11 615000
      (by decide +kernel)
  have vdd2 := (memory_voltages_rounded safe platform 8
    { word := memVoltImage.word, rest := (memVoltImage.rest, []) }).2.2 8 1187500
      (by decide +kernel)
  exact ⟨vddq.2.1, vdd2.2.1⟩

end HorizonOc.Loader
