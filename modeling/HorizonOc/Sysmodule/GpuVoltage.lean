import Mathlib.Order.Nat
import HorizonOc.Data.Staircase
import HorizonOc.Sysmodule.Frames

namespace HorizonOc.Sysmodule

open HorizonOc.Data

theorem gpuVoltFor_eq_staircase (freqMhz : Nat) (rates volts : List Nat) :
    gpuVoltFor freqMhz (rates.zip volts) =
      staircase (fun rate => freqMhz ≤ rate) rates volts 800 := by
  induction rates generalizing volts with
  | nil => simp [gpuVoltFor, staircase]
  | cons rate rates ih =>
      cases volts with
      | nil => simp [gpuVoltFor, staircase]
      | cons volt volts =>
          have behind := ih volts
          unfold gpuVoltFor staircase at behind ⊢
          rw [List.zip_cons_cons, List.find?_cons, List.map_cons, firstHolding_cons]
          by_cases covered : freqMhz ≤ rate
          · simp [covered]
          · simpa [covered] using behind

theorem getMinimumGpuVmin_of_le {freqMhz : Nat} (low : freqMhz ≤ 1600) (bracket : Fin 4) :
    getMinimumGpuVmin freqMhz bracket = 0 := if_pos low

theorem getMinimumGpuVmin_of_lt {freqMhz : Nat} (high : 1600 < freqMhz) (bracket : Fin 4) :
    getMinimumGpuVmin freqMhz bracket =
      staircase (fun rate => freqMhz ≤ rate) (ramTable bracket) gpuVoltArray 800 := by
  rw [getMinimumGpuVmin, if_neg (Nat.not_le.mpr high), gpuVoltFor_eq_staircase]

theorem gpuVoltArray_bounds : ∀ mv ∈ gpuVoltArray ++ [800], 590 ≤ mv ∧ mv ≤ 800 := by decide

theorem gpuVoltArray_rising : (gpuVoltArray ++ [800]).Pairwise fun volt later => volt ≤ later := by
  decide

theorem getMinimumGpuVmin_bounds {freqMhz : Nat} (high : 1600 < freqMhz) (bracket : Fin 4) :
    590 ≤ getMinimumGpuVmin freqMhz bracket ∧ getMinimumGpuVmin freqMhz bracket ≤ 800 := by
  rw [getMinimumGpuVmin_of_lt high]
  exact gpuVoltArray_bounds _ firstHolding_mem

/-- A higher rate needs no lower a voltage. -/
theorem getMinimumGpuVmin_mono {low high : Nat} (le : low ≤ high) (bracket : Fin 4) :
    getMinimumGpuVmin low bracket ≤ getMinimumGpuVmin high bracket := by
  rcases Nat.lt_or_ge 1600 low with lowHigh | lowLow
  · rw [getMinimumGpuVmin_of_lt lowHigh, getMinimumGpuVmin_of_lt (Nat.lt_of_lt_of_le lowHigh le)]
    apply staircase_mono gpuVoltArray_rising
    intro rate covered
    exact decide_eq_true (Nat.le_trans le (of_decide_eq_true covered))
  · rw [getMinimumGpuVmin_of_le lowLow]
    exact Nat.zero_le _

/-- A voltage that suits a memory target: none where none is needed, else the minimum with the
offset clamped at -80. -/
structure SuitableVoltage (setting : Setting) (targetHz mv : Nat) : Prop where
  zero_iff : mv = 0 ↔ getMinimumGpuVmin (targetHz / 1000000) setting.board.gpuSpeedoBracket = 0
  eq_offset : getMinimumGpuVmin (targetHz / 1000000) setting.board.gpuSpeedoBracket ≠ 0 →
    (mv : Int) = getMinimumGpuVmin (targetHz / 1000000) setting.board.gpuSpeedoBracket +
      max (dvfsOffset setting) (-80)
  bounded : (mv : Int) ≤ 800 + max (dvfsOffset setting) (-80)

theorem dvfsOffset_bounds (setting : Setting) :
    -2 ^ 31 ≤ dvfsOffset setting ∧ dvfsOffset setting < 2 ^ 31 :=
  toS32_bounds _

theorem vminAfterSet_suitable (setting : Setting) (targetHz : Nat) :
    SuitableVoltage setting targetHz (vminAfterSet setting targetHz) := by
  obtain ⟨-, offsetBelow⟩ := dvfsOffset_bounds setting
  rcases Nat.lt_or_ge 1600 (targetHz / 1000000) with high | low
  · have bounds := getMinimumGpuVmin_bounds high setting.board.gpuSpeedoBracket
    have exact : (vminAfterSet setting targetHz : Int) =
        getMinimumGpuVmin (targetHz / 1000000) setting.board.gpuSpeedoBracket +
          max (dvfsOffset setting) (-80) := by
      rw [vminAfterSet, if_pos (by omega)]
      exact addS32_of_bounds (by omega) (by omega)
    exact ⟨by omega, fun _ => exact, by omega⟩
  · have zero := getMinimumGpuVmin_of_le low setting.board.gpuSpeedoBracket
    have same : vminAfterSet setting targetHz = 0 := by simp [vminAfterSet, zero]
    rw [same]
    exact ⟨by simp [zero], fun positive => absurd zero positive, by omega⟩

/-- The unclamped sum suits only where clamping would change nothing, and at 0 only without offset. -/
theorem vminBeforeSet_suitable_iff (setting : Setting) (targetHz : Nat) :
    SuitableVoltage setting targetHz (vminBeforeSet setting targetHz) ↔
      (targetHz / 1000000 ≤ 1600 → dvfsOffset setting = 0) ∧
      (1600 < targetHz / 1000000 → -80 ≤ dvfsOffset setting) := by
  obtain ⟨offsetAbove, offsetBelow⟩ := dvfsOffset_bounds setting
  rcases Nat.lt_or_ge 1600 (targetHz / 1000000) with high | low
  · have bounds := getMinimumGpuVmin_bounds high setting.board.gpuSpeedoBracket
    constructor
    · intro suitable
      have exact := suitable.eq_offset (by omega)
      refine ⟨fun low => absurd low (by omega), fun _ => ?_⟩
      rw [vminBeforeSet, addS32] at exact
      omega
    · intro condition
      have enough := condition.2 high
      have exact : (vminBeforeSet setting targetHz : Int) =
          getMinimumGpuVmin (targetHz / 1000000) setting.board.gpuSpeedoBracket +
            dvfsOffset setting := addS32_of_bounds (by omega) (by omega)
      exact ⟨by omega, fun _ => by omega, by omega⟩
  · have zero := getMinimumGpuVmin_of_le low setting.board.gpuSpeedoBracket
    constructor
    · intro suitable
      refine ⟨fun _ => ?_, fun high => absurd high (by omega)⟩
      have none := suitable.zero_iff.mpr zero
      rw [vminBeforeSet, zero, addS32] at none
      omega
    · intro condition
      have noOffset := condition.1 low
      have same : vminBeforeSet setting targetHz = 0 := by
        rw [vminBeforeSet, zero, noOffset]
        rfl
      rw [same]
      exact ⟨by simp [zero], fun positive => absurd zero positive, by omega⟩

/-- `DVFSBeforeSet` always returns, having handed on its minimum. -/
theorem dvfsBeforeSet_run (state : Sys) (targetHz : Nat) :
    ∃ final, (dvfsBeforeSet targetHz).run state = .ok (⟨⟩, final) ∧
      (state.setting.services.pcvWritable = true →
        final.ramVmin = vminBeforeSet state.setting targetHz) ∧
      voltagesOf final.log =
        (if state.setting.services.buckGpuMv < vminBeforeSet state.setting targetHz then
          [vminBeforeSet state.setting targetHz] else []) ++
        vminBeforeSet state.setting targetHz :: voltagesOf state.log := by
  unfold dvfsBeforeSet
  rw [Program.run_bind_of_ok _ (Program.run_read state)]
  generalize vminBeforeSet state.setting targetHz = vmin
  rw [Program.run_bind_of_ok _ (pcvHijackGpuVolts_run state vmin)]
  set hijacked := (state.record (.hijackGpuVolts vmin)).hijackGpuVolts vmin with hijackedDef
  have voltages : voltagesOf hijacked.log = vmin :: voltagesOf state.log := by
    simp [hijackedDef, voltagesOf]
  have ramVmin : state.setting.services.pcvWritable = true → hijacked.ramVmin = vmin :=
    fun writable => Sys.hijackGpuVolts_ramVmin (by exact writable) vmin
  by_cases weaker : state.setting.services.buckGpuMv < vmin
  · rw [Program.run_bind_of_ok _ ((Program.run_when_true weaker _).trans (run_emit _ _))]
    refine ⟨_, rfl, ramVmin, ?_⟩
    rw [if_pos weaker]
    exact congrArg (vmin :: ·) voltages
  · rw [Program.run_bind_of_ok _ (Program.run_when_false weaker _)]
    refine ⟨_, rfl, ramVmin, ?_⟩
    rw [if_neg weaker]
    exact voltages

theorem dvfsAfterSet_ok {state final : Sys} {targetHz : Nat}
    (finished : (dvfsAfterSet targetHz).run state = .ok (⟨⟩, final)) :
    ∃ nearestHz, nearestAllowedHz state.setting .gpu targetHz = some nearestHz ∧
      (setGpuAgain targetHz nearestHz).run
        ((state.record (.hijackGpuVolts (vminAfterSet state.setting targetHz))).hijackGpuVolts
          (vminAfterSet state.setting targetHz)) = .ok (⟨⟩, final) := by
  unfold dvfsAfterSet at finished
  rw [Program.run_bind_of_ok _ (Program.run_read state)] at finished
  obtain ⟨nearestHz, middle, found, rest⟩ := Program.run_bind_ok finished
  obtain ⟨nearest, same⟩ := Program.run_ofOption_ok found
  simp only at nearest same
  subst same
  rw [Program.run_bind_of_ok _ (pcvHijackGpuVolts_run _ _)] at rest
  exact ⟨nearestHz, nearest, rest⟩

theorem dvfsAfterSet_voltages {state final : Sys} {targetHz : Nat}
    (finished : (dvfsAfterSet targetHz).run state = .ok (⟨⟩, final)) :
    voltagesOf final.log = vminAfterSet state.setting targetHz :: voltagesOf state.log := by
  obtain ⟨nearestHz, -, rest⟩ := dvfsAfterSet_ok finished
  have respected : (setGpuAgain targetHz nearestHz).Respects (TouchesOnly (· = .gpu) False) :=
    setGpuAgain_respects targetHz nearestHz rfl
  rw [(respected.run rest).voltages id, Sys.hijackGpuVolts_log]
  rfl

/-- Every voltage that the program hands on suits the target. -/
def HandsSuitable (program : SysProgram PUnit) (state : Sys) (targetHz : Nat) : Prop :=
  ∀ final, program.run state.forget = .ok (⟨⟩, final) →
    ∀ mv ∈ voltagesOf final.log, SuitableVoltage state.setting targetHz mv

theorem dvfsBeforeSet_suitable_iff (state : Sys) (targetHz : Nat) :
    HandsSuitable (dvfsBeforeSet targetHz) state targetHz ↔
      SuitableVoltage state.setting targetHz (vminBeforeSet state.setting targetHz) := by
  obtain ⟨final, finished, -, voltages⟩ := dvfsBeforeSet_run state.forget targetHz
  constructor
  · intro suitable
    refine suitable final finished _ ?_
    rw [voltages]
    simp [Sys.forget]
  · intro suitable other otherFinished mv member
    rw [finished] at otherFinished
    cases otherFinished
    rw [voltages] at member
    have same : mv = vminBeforeSet state.setting targetHz := by
      split at member
      all_goals simpa [Sys.forget, voltagesOf] using member
    exact same ▸ suitable

theorem dvfsAfterSet_suitable (state : Sys) (targetHz : Nat) :
    HandsSuitable (dvfsAfterSet targetHz) state targetHz := by
  intro final finished mv member
  rw [dvfsAfterSet_voltages finished] at member
  have same : mv = vminAfterSet state.setting targetHz := by
    simpa [Sys.forget, voltagesOf] using member
  exact same ▸ vminAfterSet_suitable state.setting targetHz

/-- Both functions hand on the suitable voltage exactly when the offset is 0 for a target that
needs no minimum, and at least -80 for one that does. -/
theorem dvfsSets_suitable_iff (state : Sys) (targetHz : Nat) :
    HandsSuitable (dvfsBeforeSet targetHz) state targetHz ∧
        HandsSuitable (dvfsAfterSet targetHz) state targetHz ↔
      (targetHz / 1000000 ≤ 1600 → dvfsOffset state.setting = 0) ∧
      (1600 < targetHz / 1000000 → -80 ≤ dvfsOffset state.setting) := by
  rw [dvfsBeforeSet_suitable_iff, vminBeforeSet_suitable_iff]
  exact and_iff_left (dvfsAfterSet_suitable state targetHz)

/-- With an offset of -10 mV the minimum for stock memory, which is none, wraps around. -/
theorem dvfsBeforeSet_wraps_at_stock_memory :
    ¬(HandsSuitable (dvfsBeforeSet 1600000000)
          (.initial (sampleSetting.withValue .dvfsOffset (2 ^ 64 - 10)) sampleRates []) 1600000000 ∧
        HandsSuitable (dvfsAfterSet 1600000000)
          (.initial (sampleSetting.withValue .dvfsOffset (2 ^ 64 - 10)) sampleRates [])
          1600000000) := by
  rintro ⟨suitable, -⟩
  have exact := (vminBeforeSet_suitable_iff _ _).mp ((dvfsBeforeSet_suitable_iff _ _).mp suitable)
  exact absurd (exact.1 (by decide)) (by decide)

end HorizonOc.Sysmodule
