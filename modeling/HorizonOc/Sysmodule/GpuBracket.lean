import HorizonOc.Sysmodule.GpuVoltage

namespace HorizonOc.Sysmodule

open HorizonOc.Data

def setGpuBracket (speedo : Nat) : Nat :=
  if speedo ≤ 1624 then 0
  else if speedo ≤ 1689 then 1
  else if speedo ≤ 1753 then 2
  else 3

/-- `ramTable[bracket][i]`; none outside of the table. -/
def ramTableAt (bracket i : Nat) : Option Nat :=
  if inside : bracket < 4 then (ramTable ⟨bracket, inside⟩)[i]? else none

/-- The loop of `GetMinimumGpuVmin` over its remaining indices; none where it reads outside. -/
def scanRamTable (freqMhz bracket : Nat) : List Nat → Option Nat
  | [] => gpuVoltArray[gpuVoltArray.length - 1]?
  | i :: rest => do
      let rate ← ramTableAt bracket i
      if freqMhz ≤ rate then gpuVoltArray[i]? else scanRamTable freqMhz bracket rest

def readMinimumGpuVmin (freqMhz bracket : Nat) : Option Nat :=
  if freqMhz ≤ 1600 then some 0
  else scanRamTable freqMhz bracket (List.range gpuVoltArray.length)

theorem setGpuBracket_lt (speedo : Nat) : setGpuBracket speedo < 4 := by
  unfold setGpuBracket
  repeat' split
  all_goals decide

theorem setGpuBracket_mono {speedo faster : Nat} (le : speedo ≤ faster) :
    setGpuBracket speedo ≤ setGpuBracket faster := by
  unfold setGpuBracket
  repeat' split
  all_goals omega

def gpuBracket (speedo : Nat) : Fin 4 := ⟨setGpuBracket speedo, setGpuBracket_lt speedo⟩

theorem ramTable_length (bracket : Fin 4) : (ramTable bracket).length = gpuVoltArray.length := by
  revert bracket
  decide

/-- Each rate of a row is at most the one in its place in a later row. -/
theorem ramTable_rows_rising {bracket later : Fin 4} (le : bracket ≤ later) :
    List.Forall₂ (fun rate other => rate ≤ other) (ramTable bracket) (ramTable later) := by
  revert bracket later
  decide

/-- A faster GPU needs no higher a voltage. -/
theorem getMinimumGpuVmin_anti (freqMhz : Nat) {bracket later : Fin 4} (le : bracket ≤ later) :
    getMinimumGpuVmin freqMhz later ≤ getMinimumGpuVmin freqMhz bracket := by
  rcases Nat.lt_or_ge 1600 freqMhz with high | low
  · rw [getMinimumGpuVmin_of_lt high, getMinimumGpuVmin_of_lt high]
    apply staircase_anti gpuVoltArray_rising
    refine (ramTable_rows_rising le).imp fun rate other below covered => ?_
    exact decide_eq_true (Nat.le_trans (of_decide_eq_true covered) below)
  · rw [getMinimumGpuVmin_of_le low]
    exact Nat.zero_le _

theorem scanRamTable_eq (freqMhz : Nat) (bracket : Fin 4) {start count : Nat}
    (whole : start + count = gpuVoltArray.length) :
    scanRamTable freqMhz bracket (List.range' start count) =
      some (staircase (fun rate => freqMhz ≤ rate) ((ramTable bracket).drop start)
        (gpuVoltArray.drop start) 800) := by
  have length := ramTable_length bracket
  induction count generalizing start with
  | zero =>
      have ended : (ramTable bracket).drop start = [] := List.drop_of_length_le (by omega)
      rw [ended]
      rfl
  | succ count ih =>
      have inRow : start < (ramTable bracket).length := by omega
      have inVolts : start < gpuVoltArray.length := by omega
      have rate : ramTableAt bracket start = some (ramTable bracket)[start] := by
        rw [ramTableAt, dif_pos bracket.isLt, List.getElem?_eq_getElem inRow]
      rw [List.range'_succ, scanRamTable, rate, Option.bind_eq_bind, Option.bind_some,
        List.drop_eq_getElem_cons inRow, List.drop_eq_getElem_cons inVolts, staircase, List.map_cons,
        firstHolding_cons, ih (by omega), List.getElem?_eq_getElem inVolts]
      by_cases covered : freqMhz ≤ (ramTable bracket)[start]
      · rw [if_pos covered, if_pos (decide_eq_true covered)]
      · rw [if_neg covered, if_neg (by simpa using covered), staircase]

theorem readMinimumGpuVmin_eq (freqMhz : Nat) (bracket : Fin 4) :
    readMinimumGpuVmin freqMhz bracket = some (getMinimumGpuVmin freqMhz bracket) := by
  unfold readMinimumGpuVmin
  split
  · rw [getMinimumGpuVmin_of_le ‹_›]
  · rw [List.range_eq_range', scanRamTable_eq freqMhz bracket (Nat.zero_add _),
      getMinimumGpuVmin_of_lt (by omega)]
    rfl

/-- The minimum rises with the rate and falls with the speedo value, and no read is outside. -/
theorem minimum_gpu_vmin_monotone {freqMhz higherMhz speedo faster : Nat}
    (rate : freqMhz ≤ higherMhz) (speed : speedo ≤ faster) :
    setGpuBracket speedo < 4 ∧ setGpuBracket faster < 4 ∧
      ∃ vmin higherVmin fasterVmin,
        readMinimumGpuVmin freqMhz (setGpuBracket speedo) = some vmin ∧
        readMinimumGpuVmin higherMhz (setGpuBracket speedo) = some higherVmin ∧
        readMinimumGpuVmin freqMhz (setGpuBracket faster) = some fasterVmin ∧
        vmin ≤ higherVmin ∧ fasterVmin ≤ vmin ∧ (vmin = 0 ∨ (590 ≤ vmin ∧ vmin ≤ 800)) := by
  refine ⟨setGpuBracket_lt speedo, setGpuBracket_lt faster, _, _, _,
    readMinimumGpuVmin_eq freqMhz (gpuBracket speedo),
    readMinimumGpuVmin_eq higherMhz (gpuBracket speedo),
    readMinimumGpuVmin_eq freqMhz (gpuBracket faster), ?_, ?_, ?_⟩
  · exact getMinimumGpuVmin_mono rate _
  · exact getMinimumGpuVmin_anti freqMhz (setGpuBracket_mono speed)
  · rcases Nat.lt_or_ge 1600 freqMhz with high | low
    · exact .inr (getMinimumGpuVmin_bounds high _)
    · exact .inl (getMinimumGpuVmin_of_le low _)

theorem minimum_gpu_vmin_monotone_sample :
    ∃ vmin higherVmin fasterVmin,
      readMinimumGpuVmin 2400 0 = some vmin ∧ readMinimumGpuVmin 2500 0 = some higherVmin ∧
        readMinimumGpuVmin 2400 1 = some fasterVmin ∧ vmin ≤ higherVmin ∧ fasterVmin ≤ vmin ∧
        vmin = 640 ∧ higherVmin = 670 ∧ fasterVmin = 610 := by
  obtain ⟨-, -, vmin, higherVmin, fasterVmin, here, higher, quick, rises, falls, -⟩ :=
    minimum_gpu_vmin_monotone (show 2400 ≤ 2500 by decide) (show 1600 ≤ 1660 by decide)
  refine ⟨vmin, higherVmin, fasterVmin, here, higher, quick, rises, falls, ?_, ?_, ?_⟩
  · exact Option.some.inj (here.symm.trans (by decide))
  · exact Option.some.inj (higher.symm.trans (by decide))
  · exact Option.some.inj (quick.symm.trans (by decide))

end HorizonOc.Sysmodule
