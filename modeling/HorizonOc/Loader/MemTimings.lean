import HorizonOc.Loader.Mariko
import HorizonOc.Loader.MtcShift

namespace HorizonOc.Loader

open HorizonOc.Data

/-! `mtc_timing_value.hpp`: the timing presets and the arrays that they index.  The constants of
both namespaces are computed when the loader starts, whichever SoC it runs on. -/

structure TimedTable extends CustomizeTable where
  t1_tRCD : Word
  t2_tRP : Word
  t3_tRAS : Word
  t4_tRRD : Word
  t5_tRFC : Word
  t7_tWTR : Word
  t8_tREFI : Word

/-- `tRRD_values` is in tenths. -/
structure TimingValues where
  tRCD_values : List Nat
  tRP_values : List Nat
  tRAS_values : List Nat
  tRRD_values : List Nat
  tRFC_values : List Nat
  tWTR_values : List Nat
  tREFpb_values : List Nat

def Soc.timingValues : Soc → TimingValues
  | .erista =>
      { tRCD_values := [18, 17, 16, 15, 14, 13, 12, 11]
        tRP_values := [18, 17, 16, 15, 14, 13, 12, 11]
        tRAS_values := [42, 36, 34, 32, 30, 28, 26, 24, 22, 20]
        tRRD_values := [100, 75, 60, 50, 40, 30, 20, 10]
        tRFC_values := [90, 80, 70, 60, 50, 40]
        tWTR_values := [10, 9, 8, 7, 6, 5, 4, 3, 2, 1]
        tREFpb_values := [3900, 5850, 7800, 11700, 15600, 99999] }
  | .mariko =>
      { tRCD_values := [18, 17, 16, 15, 14, 13, 12, 11]
        tRP_values := [18, 17, 16, 15, 14, 13, 12, 11]
        tRAS_values := [42, 36, 34, 32, 30, 28, 26, 24, 22, 20]
        tRRD_values := [75, 60, 50, 40, 30, 20, 10]
        tRFC_values := [140, 130, 120, 110, 100, 90, 80, 70, 60, 50, 40]
        tWTR_values := [10, 9, 8, 7, 6, 5, 4, 3, 2, 1]
        tREFpb_values := [3900, 5850, 7800, 11700, 15600, 99999] }

/-- An entry of a `std::array`; none outside it. -/
def presetValue (values : List Nat) (preset : Word) : Option Nat := values[preset.toNat]?

/-- The constants that come from the presets alone. -/
structure Timings where
  tRCD : Nat
  tRPpb : Nat
  tRAS : Nat
  tRRD : Nat
  tRFCpb : Nat
  tWTR : Word
  tRC : Nat
  tRFCab : Nat
  tFAW : Nat
  tRPab : Nat
deriving DecidableEq, Repr

/-- The static initialisers of a namespace, which read the arrays in this order. -/
def Soc.timings (soc : Soc) (custom : TimedTable) : Option Timings := do
  let values := soc.timingValues
  let tRCD ← presetValue values.tRCD_values custom.t1_tRCD
  let tRPpb ← presetValue values.tRP_values custom.t2_tRP
  let tRAS ← presetValue values.tRAS_values custom.t3_tRAS
  let tRRD ← presetValue values.tRRD_values custom.t4_tRRD
  let tRFCpb ← presetValue values.tRFC_values custom.t5_tRFC
  let tWTR ← presetValue values.tWTR_values custom.t7_tWTR
  pure
    { tRCD, tRPpb, tRAS, tRRD, tRFCpb
      tWTR := 10 - BitVec.ofNat 32 tWTR
      tRC := tRAS + tRPpb
      tRFCab := tRFCpb * 2
      tFAW := tRRD * 4 / 10
      tRPab := tRPpb + 3 }

/-- Whether `MemFreqMtcTable` goes on to `MemMtcTableAutoAdjust`, which it does for a clock above
the stock limit. -/
def Soc.adjustsTables (soc : Soc) (custom : CustomizeTable) : Bool :=
  match soc with
  | .erista => emcClkOSLimit < getMaxOfArr custom.maxEmcClocks
  | .mariko => emcClkOSLimit < custom.marikoEmcMaxClock

/-- What `MemMtcTableAutoAdjust` divides by the clock for the refresh, unless the preset is 6. -/
def Soc.refreshInterval (soc : Soc) (custom : TimedTable) : Option (Option Nat) :=
  if custom.t8_tREFI ≠ 6 then
    (presetValue soc.timingValues.tREFpb_values custom.t8_tREFI).map some
  else some none

/-- Every lookup that is made finds an entry, and `10 - tWTR_values[..]` does not wrap. -/
def Soc.TimingsSafe (soc : Soc) (custom : TimedTable) : Prop :=
  (∃ constants, soc.timings custom = some constants ∧ constants.tWTR.toNat ≤ 10) ∧
  (soc.adjustsTables custom.toCustomizeTable = true → (soc.refreshInterval custom).isSome)

/-- The presets that both SoCs have; the refresh only matters where one of them adjusts its
tables. -/
def TimedTable.PresetsInRange (custom : TimedTable) : Prop :=
  custom.t1_tRCD < 8 ∧ custom.t2_tRP < 8 ∧ custom.t3_tRAS < 10 ∧ custom.t4_tRRD < 7 ∧
  custom.t5_tRFC < 6 ∧ custom.t7_tWTR < 10 ∧
  ((emcClkOSLimit < getMaxOfArr custom.maxEmcClocks ∨ emcClkOSLimit < custom.marikoEmcMaxClock) →
    custom.t8_tREFI ≤ 6)

/-- The arrays that a preset has to stay inside of. -/
structure Soc.PresetsInside (soc : Soc) (custom : TimedTable) : Prop where
  tRCD : custom.t1_tRCD.toNat < soc.timingValues.tRCD_values.length
  tRP : custom.t2_tRP.toNat < soc.timingValues.tRP_values.length
  tRAS : custom.t3_tRAS.toNat < soc.timingValues.tRAS_values.length
  tRRD : custom.t4_tRRD.toNat < soc.timingValues.tRRD_values.length
  tRFC : custom.t5_tRFC.toNat < soc.timingValues.tRFC_values.length
  tWTR : custom.t7_tWTR.toNat < soc.timingValues.tWTR_values.length

theorem presetValue_eq_some_iff {values : List Nat} {preset : Word} {value : Nat} :
    presetValue values preset = some value ↔
      ∃ inside : preset.toNat < values.length, values[preset.toNat] = value :=
  List.getElem?_eq_some_iff

theorem presetValue_isSome_iff {values : List Nat} {preset : Word} :
    (presetValue values preset).isSome ↔ preset.toNat < values.length := by
  rw [presetValue, isSome_getElem?]

/-- The entries are small enough for the difference. -/
theorem Soc.tWTR_le (soc : Soc) {preset : Word} {value : Nat}
    (found : presetValue soc.timingValues.tWTR_values preset = some value) :
    (10 - BitVec.ofNat 32 value : Word).toNat ≤ 10 := by
  obtain ⟨inside, rfl⟩ := presetValue_eq_some_iff.mp found
  have entries : ∀ value ∈ soc.timingValues.tWTR_values,
      (10 - BitVec.ofNat 32 value : Word).toNat ≤ 10 := by
    cases soc <;> decide
  exact entries _ (List.getElem_mem inside)

theorem Soc.timings_iff (soc : Soc) (custom : TimedTable) :
    (∃ constants, soc.timings custom = some constants ∧ constants.tWTR.toNat ≤ 10) ↔
      soc.PresetsInside custom := by
  constructor
  · rintro ⟨constants, computed, -⟩
    simp only [timings, Option.bind_eq_bind, Option.bind_eq_some_iff] at computed
    obtain ⟨_, tRCD, _, tRP, _, tRAS, _, tRRD, _, tRFC, _, tWTR, -⟩ := computed
    exact
      { tRCD := (presetValue_eq_some_iff.mp tRCD).1
        tRP := (presetValue_eq_some_iff.mp tRP).1
        tRAS := (presetValue_eq_some_iff.mp tRAS).1
        tRRD := (presetValue_eq_some_iff.mp tRRD).1
        tRFC := (presetValue_eq_some_iff.mp tRFC).1
        tWTR := (presetValue_eq_some_iff.mp tWTR).1 }
  · intro inside
    obtain ⟨tRCD, foundRCD⟩ := Option.isSome_iff_exists.mp (presetValue_isSome_iff.mpr inside.tRCD)
    obtain ⟨tRP, foundRP⟩ := Option.isSome_iff_exists.mp (presetValue_isSome_iff.mpr inside.tRP)
    obtain ⟨tRAS, foundRAS⟩ := Option.isSome_iff_exists.mp (presetValue_isSome_iff.mpr inside.tRAS)
    obtain ⟨tRRD, foundRRD⟩ := Option.isSome_iff_exists.mp (presetValue_isSome_iff.mpr inside.tRRD)
    obtain ⟨tRFC, foundRFC⟩ := Option.isSome_iff_exists.mp (presetValue_isSome_iff.mpr inside.tRFC)
    obtain ⟨tWTR, foundWTR⟩ := Option.isSome_iff_exists.mp (presetValue_isSome_iff.mpr inside.tWTR)
    have computed : soc.timings custom = some
        { tRCD, tRPpb := tRP, tRAS, tRRD, tRFCpb := tRFC, tWTR := 10 - BitVec.ofNat 32 tWTR
          tRC := tRAS + tRP, tRFCab := tRFC * 2, tFAW := tRRD * 4 / 10, tRPab := tRP + 3 } := by
      simp only [timings, foundRCD, foundRP, foundRAS, foundRRD, foundRFC, foundWTR,
        Option.bind_eq_bind, Option.bind_some, Option.pure_def]
    exact ⟨_, computed, soc.tWTR_le foundWTR⟩

theorem Soc.refreshInterval_iff (soc : Soc) (custom : TimedTable) :
    (soc.refreshInterval custom).isSome ↔ custom.t8_tREFI ≤ 6 := by
  have length : soc.timingValues.tREFpb_values.length = 6 := by cases soc <;> rfl
  unfold refreshInterval
  split
  · rename_i other
    rw [Option.isSome_map, presetValue_isSome_iff, length]
    bv_omega
  · rename_i six
    simp [not_not.mp six]

/-- Without a clock above the limit nothing of the adjustment shows. -/
theorem memFreqMtcTable_unadjusted (custom : CustomizeTable) (platform other : Platform) (ptr : Int)
    (store : Image) :
    (Soc.erista.adjustsTables custom = false → store.rest.maxEmcClocks = custom.maxEmcClocks →
      Tracked.run (Erista.memFreqMtcTable platform ptr) store =
        Tracked.run (Erista.memFreqMtcTable other ptr) store) ∧
    (Soc.mariko.adjustsTables custom = false →
      Mariko.memFreqMtcTable platform custom ptr = Mariko.memFreqMtcTable other custom ptr) := by
  constructor
  · intro stock clocks
    have within : ¬emcClkOSLimit < getMaxOfArr store.rest.maxEmcClocks := by
      rw [clocks]
      exact of_decide_eq_false stock
    rw [Erista.memFreqMtcTable_skipped within, Erista.memFreqMtcTable_skipped within]
  · intro stock
    have within : custom.marikoEmcMaxClock ≤ emcClkOSLimit :=
      BitVec.not_lt.mp (of_decide_eq_false stock)
    simp only [Mariko.memFreqMtcTable, if_pos within]

/-- Whatever `SafetyCheck` finds, the lookups are safe exactly for the presets that both SoCs have:
it checks none of them. -/
theorem timing_lookups_safe_iff (custom : TimedTable) :
    (safetyCheck custom.toCustomizeTable = true → ∀ soc : Soc, soc.TimingsSafe custom) ↔
      (safetyCheck custom.toCustomizeTable = true → custom.PresetsInRange) := by
  refine imp_congr_right fun _ => ?_
  have safe (soc : Soc) : soc.TimingsSafe custom ↔
      soc.PresetsInside custom ∧
        (soc.adjustsTables custom.toCustomizeTable = true → custom.t8_tREFI ≤ 6) := by
    rw [Soc.TimingsSafe, soc.timings_iff, soc.refreshInterval_iff]
  constructor
  · intro both
    have erista := (safe .erista).mp (both .erista)
    have mariko := (safe .mariko).mp (both .mariko)
    refine ⟨erista.1.tRCD, erista.1.tRP, erista.1.tRAS, mariko.1.tRRD, erista.1.tRFC,
      erista.1.tWTR, ?_⟩
    rintro (above | above)
    · exact erista.2 (decide_eq_true above)
    · exact mariko.2 (decide_eq_true above)
  · rintro ⟨tRCD, tRP, tRAS, tRRD, tRFC, tWTR, tREFI⟩ soc
    refine (safe soc).mpr ?_
    cases soc with
    | erista =>
        exact ⟨⟨tRCD, tRP, tRAS, Nat.lt_succ_of_lt tRRD, tRFC, tWTR⟩,
          fun above => tREFI (.inl (of_decide_eq_true above))⟩
    | mariko =>
        exact ⟨⟨tRCD, tRP, tRAS, tRRD, Nat.lt_of_lt_of_le tRFC (by decide), tWTR⟩,
          fun above => tREFI (.inr (of_decide_eq_true above))⟩

/-- The shipped table with one preset that the overlay offers as the last of its range. -/
def shippedBeyond : TimedTable :=
  { shipped with
    t1_tRCD := 8, t2_tRP := 0, t3_tRAS := 0, t4_tRRD := 0, t5_tRFC := 0, t7_tWTR := 0
    t8_tREFI := 0 }

theorem preset_outside_array :
    safetyCheck shippedBeyond.toCustomizeTable = true ∧
      ¬∀ soc : Soc, soc.TimingsSafe shippedBeyond := by
  refine ⟨shipped_safe, fun safe => ?_⟩
  have inside := ((Soc.mariko.timings_iff _).mp (safe .mariko).1).tRCD
  exact absurd inside (by decide)

end HorizonOc.Loader
