import HorizonOc.Loader.Pcv

namespace HorizonOc.Loader

/-- A value is left out or lies in a range. -/
def AbsentOrWithin (min max value : Nat) : Prop := value = 0 ∨ min ≤ value ∧ value ≤ max

theorem check_required_iff {value min max : Nat} (minimum : min ≠ 0) (maximum : max ≠ 0) :
    Validator.check ⟨value, min, max, true⟩ = true ↔ min ≤ value ∧ value ≤ max := by
  simp [Validator.check, minimum, maximum]

theorem check_optional_iff {value min max : Nat} (minimum : min ≠ 0) (maximum : max ≠ 0) :
    Validator.check ⟨value, min, max, false⟩ = true ↔ AbsentOrWithin min max value := by
  simp [Validator.check, AbsentOrWithin, minimum, maximum]

/-- The last entry of a table is there, and its rate is left out or lies in a range. -/
def LastRateWithin (min max : Nat) (table : DvfsTable) : Prop :=
  ∃ last, getDvfsTableLastEntry table = some last ∧ AbsentOrWithin min max last.freqLow.toNat

structure SafeValues (custom : CustomizeTable) : Prop where
  eristaCpuBoostClock : 1020000 ≤ custom.eristaCpuBoostClock.toNat ∧
    custom.eristaCpuBoostClock.toNat ≤ 2397000
  marikoCpuBoostClock : 1020000 ≤ custom.marikoCpuBoostClock.toNat ∧
    custom.marikoCpuBoostClock.toNat ≤ 2703000
  eristaCpuMaxVolt : AbsentOrWithin 1000 1260 custom.eristaCpuMaxVolt.toNat
  marikoCpuMaxVolt : AbsentOrWithin 1000 1200 custom.marikoCpuMaxVolt.toNat
  eristaCpu : LastRateWithin 1785000 2397000 (Soc.erista.cpuCheckedTable custom)
  marikoCpu : LastRateWithin 1785000 2703000 (Soc.mariko.cpuCheckedTable custom)
  commonEmcMemVolt : AbsentOrWithin 912500 1350000 custom.commonEmcMemVolt.toNat
  eristaEmcMaxClocks : AbsentOrWithin 1600000 2600000 (getMaxOfArr custom.maxEmcClocks).toNat
  marikoEmcMaxClock : AbsentOrWithin 1600000 3500000 custom.marikoEmcMaxClock.toNat
  marikoEmcVddqVolt : AbsentOrWithin 250000 700000 custom.marikoEmcVddqVolt.toNat
  eristaGpu : LastRateWithin 768000 1152000 (Soc.erista.gpuCustomizeTable custom)
  marikoGpu : LastRateWithin 768000 1536000 (Soc.mariko.gpuCustomizeTable custom)
  marikoGpuVmax : AbsentOrWithin 800 960 custom.marikoGpuVmax.toNat

theorem safeValues_of_safe {custom : CustomizeTable} (safe : safetyCheck custom = true) :
    SafeValues custom := by
  unfold safetyCheck at safe
  split at safe
  · rename_i eristaCpu marikoCpu eristaGpu marikoGpu eristaLast marikoLast eristaGpuLast
      marikoGpuLast
    simp only [validators, List.all_cons, List.all_nil, Bool.and_true, Bool.and_eq_true] at safe
    obtain ⟨eristaBoost, marikoBoost, eristaVolt, marikoVolt, eristaRate, marikoRate, memVolt,
      emcClocks, emcClock, vddq, eristaGpuRate, marikoGpuRate, vmax⟩ := safe
    exact
      { eristaCpuBoostClock := (check_required_iff (by decide) (by decide)).mp eristaBoost
        marikoCpuBoostClock := (check_required_iff (by decide) (by decide)).mp marikoBoost
        eristaCpuMaxVolt := (check_optional_iff (by decide) (by decide)).mp eristaVolt
        marikoCpuMaxVolt := (check_optional_iff (by decide) (by decide)).mp marikoVolt
        eristaCpu :=
          ⟨eristaCpu, eristaLast, (check_optional_iff (by decide) (by decide)).mp eristaRate⟩
        marikoCpu :=
          ⟨marikoCpu, marikoLast, (check_optional_iff (by decide) (by decide)).mp marikoRate⟩
        commonEmcMemVolt := (check_optional_iff (by decide) (by decide)).mp memVolt
        eristaEmcMaxClocks := (check_optional_iff (by decide) (by decide)).mp emcClocks
        marikoEmcMaxClock := (check_optional_iff (by decide) (by decide)).mp emcClock
        marikoEmcVddqVolt := (check_optional_iff (by decide) (by decide)).mp vddq
        eristaGpu :=
          ⟨eristaGpu, eristaGpuLast, (check_optional_iff (by decide) (by decide)).mp eristaGpuRate⟩
        marikoGpu :=
          ⟨marikoGpu, marikoGpuLast, (check_optional_iff (by decide) (by decide)).mp marikoGpuRate⟩
        marikoGpuVmax := (check_optional_iff (by decide) (by decide)).mp vmax }
  · contradiction

end HorizonOc.Loader
