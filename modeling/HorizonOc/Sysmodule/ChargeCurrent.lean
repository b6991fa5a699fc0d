import HorizonOc.Sysmodule.Types

namespace HorizonOc.Sysmodule

/-- `MA_RANGE_MIN` and `MA_RANGE_MAX`. -/
def maRangeMin : Nat := 512

def maRangeMax : Nat := 4544

def cappedCurrent (ma : Nat) : Nat := if maRangeMax < ma then maRangeMax else ma

/-- Small currents are encoded as a fifth of the range. -/
def pct20 (ma : Nat) : Bool := cappedCurrent ma ≤ maRangeMin - 64

/-- The current that is encoded: capped, and rounded to hundreds. -/
def roundedCurrent (ma : Nat) : Nat :=
  let ranged := if pct20 ma then toU32 (cappedCurrent ma * 5) else cappedCurrent ma
  ranged - ranged % 100

/-- `I2c_Bq24193_Convert_mA_Raw`; the subtraction is one of 32-bit numbers. -/
def convertMaRaw (ma : Nat) : Nat :=
  let above := toU32 (roundedCurrent ma + (2 ^ 32 - (maRangeMin - 64)))
  toU8 (((above >>> 6) <<< 2) ||| if pct20 ma then 1 else 0)

/-- `I2c_Bq24193_Convert_Raw_mA`. -/
def convertRawMa (raw : Nat) : Nat :=
  let ma := ((raw >>> 2) <<< 6) + maRangeMin
  if raw % 2 = 1 then ma * 20 / 100 else ma

/-- The currents for which the encoder's subtraction does not underflow. -/
def Encodes (ma : Nat) : Prop := maRangeMin - 64 ≤ roundedCurrent ma

section

variable {ma : Nat}

theorem pct20_iff : pct20 ma = true ↔ ma ≤ 448 := by
  unfold pct20 cappedCurrent maRangeMin maRangeMax
  rw [decide_eq_true_eq]
  split <;> omega

theorem roundedCurrent_of_small (small : ma ≤ 448) :
    roundedCurrent ma = 5 * ma - 5 * ma % 100 := by
  have capped : cappedCurrent ma = ma := if_neg (by unfold maRangeMax; omega)
  have fits : ma * 5 < 2 ^ 32 := by omega
  rw [roundedCurrent, if_pos (pct20_iff.mpr small), capped, toU32, Nat.mod_eq_of_lt fits, Nat.mul_comm]

theorem roundedCurrent_of_large (large : 448 < ma) :
    roundedCurrent ma = min ma 4544 - min ma 4544 % 100 := by
  have capped : cappedCurrent ma = min ma 4544 := by
    unfold cappedCurrent maRangeMax
    split <;> omega
  rw [roundedCurrent, if_neg (mt pct20_iff.mp (Nat.not_le.mpr large)), capped]

theorem roundedCurrent_bounds (ma : Nat) :
    roundedCurrent ma % 100 = 0 ∧ roundedCurrent ma ≤ 4500 := by
  by_cases small : ma ≤ 448
  · rw [roundedCurrent_of_small small]
    omega
  · rw [roundedCurrent_of_large (Nat.not_le.mp small)]
    omega

theorem encodes_iff : Encodes ma ↔ (100 ≤ ma ∧ ma ≤ 448) ∨ 500 ≤ ma := by
  unfold Encodes maRangeMin
  by_cases small : ma ≤ 448
  · rw [roundedCurrent_of_small small]
    omega
  · rw [roundedCurrent_of_large (Nat.not_le.mp small)]
    omega

end

/-- The byte of a range and a number of steps of 64 mA. -/
def rawOf (pct20 : Bool) (steps : Nat) : Nat := 4 * steps + if pct20 then 1 else 0

theorem convertRawMa_rawOf (pct20 : Bool) (steps : Nat) :
    convertRawMa (rawOf pct20 steps) =
      if pct20 then (64 * steps + 512) * 20 / 100 else 64 * steps + 512 := by
  unfold convertRawMa rawOf maRangeMin
  rw [Nat.shiftRight_eq_div_pow, Nat.shiftLeft_eq]
  cases pct20 with
  | false =>
      simp only [Bool.false_eq_true, if_false]
      split <;> omega
  | true =>
      simp only [if_true]
      split <;> omega

theorem convertMaRaw_eq {ma : Nat} (encodes : Encodes ma) :
    convertMaRaw ma = rawOf (pct20 ma) ((roundedCurrent ma - 448) / 64) := by
  have most := (roundedCurrent_bounds ma).2
  have least : 448 ≤ roundedCurrent ma := encodes
  have above : toU32 (roundedCurrent ma + (2 ^ 32 - (maRangeMin - 64))) = roundedCurrent ma - 448 := by
    unfold toU32 maRangeMin
    omega
  have flag : (if pct20 ma then 1 else 0) < 2 ^ 2 := by split <;> decide
  rw [convertMaRaw, above, ← Nat.shiftLeft_add_eq_or_of_lt flag, Nat.shiftLeft_eq,
    Nat.shiftRight_eq_div_pow, rawOf, toU8, Nat.mod_eq_of_lt]
  · omega
  · split <;> omega

/-- The charger's steps are at 64 mA: the first one above the rounded current is taken. -/
def steppedCurrent (ma : Nat) : Nat := 64 * (roundedCurrent ma / 64) + 64

theorem convertRawMa_convertMaRaw {ma : Nat} (encodes : Encodes ma) :
    convertRawMa (convertMaRaw ma) =
      if ma ≤ 448 then steppedCurrent ma * 20 / 100 else steppedCurrent ma := by
  have least : 448 ≤ roundedCurrent ma := encodes
  have steps : 64 * ((roundedCurrent ma - 448) / 64) + 512 = steppedCurrent ma := by
    unfold steppedCurrent
    omega
  rw [convertMaRaw_eq encodes, convertRawMa_rawOf, steps]
  simp only [pct20_iff]

theorem steppedCurrent_bounds (ma : Nat) :
    roundedCurrent ma < steppedCurrent ma ∧ steppedCurrent ma ≤ roundedCurrent ma + 64 := by
  unfold steppedCurrent
  omega

theorem roundedCurrent_again {ma : Nat} (encodes : Encodes ma) :
    (convertRawMa (convertMaRaw ma) ≤ 448 ↔ ma ≤ 448) ∧
      roundedCurrent (convertRawMa (convertMaRaw ma)) = roundedCurrent ma := by
  have least : 448 ≤ roundedCurrent ma := encodes
  obtain ⟨above, near⟩ := steppedCurrent_bounds ma
  obtain ⟨hundreds, most⟩ := roundedCurrent_bounds ma
  by_cases small : ma ≤ 448
  · have rounded := roundedCurrent_of_small small
    have fifth : steppedCurrent ma ≤ 5 * (steppedCurrent ma * 20 / 100) + 4 ∧
        5 * (steppedCurrent ma * 20 / 100) ≤ steppedCurrent ma := by omega
    have range : steppedCurrent ma ≤ 2240 := by
      unfold steppedCurrent
      omega
    rw [convertRawMa_convertMaRaw encodes, if_pos small]
    generalize steppedCurrent ma * 20 / 100 = decoded at fifth ⊢
    have low : decoded ≤ 448 := by omega
    refine ⟨iff_of_true low small, ?_⟩
    rw [roundedCurrent_of_small low]
    omega
  · have range : 512 ≤ steppedCurrent ma ∧ steppedCurrent ma ≤ 4544 := by
      unfold steppedCurrent
      omega
    rw [convertRawMa_convertMaRaw encodes, if_neg small]
    have high : 448 < steppedCurrent ma := by omega
    refine ⟨iff_of_false (Nat.not_le.mpr high) small, ?_⟩
    rw [roundedCurrent_of_large high]
    omega

theorem convertMaRaw_again {ma : Nat} (encodes : Encodes ma) :
    convertMaRaw (convertRawMa (convertMaRaw ma)) = convertMaRaw ma := by
  obtain ⟨range, rounded⟩ := roundedCurrent_again encodes
  have again : Encodes (convertRawMa (convertMaRaw ma)) := by
    rw [Encodes, rounded]
    exact encodes
  have sameRange : pct20 (convertRawMa (convertMaRaw ma)) = pct20 ma := by
    rw [Bool.eq_iff_iff, pct20_iff, pct20_iff, range]
  rw [convertMaRaw_eq again, rounded, sameRange, ← convertMaRaw_eq encodes]

/-- The charger's current, taken five times in the range of a fifth, is not below the capped and
rounded one; it is at most 12 mA above the request in that range and 64 mA else; and it is encoded
as the same byte. -/
theorem charge_current_encoded {ma : Nat}
    (asked : (hocclkValidConfigValue .batteryChargeCurrent ma = true ∧ ma ≠ 0) ∨
      (100 ≤ ma ∧ ma ≤ 448) ∨ 500 ≤ ma) :
    Encodes ma ∧
      (ma ≤ 448 → roundedCurrent ma ≤ 5 * convertRawMa (convertMaRaw ma) ∧
        convertRawMa (convertMaRaw ma) ≤ ma + 12) ∧
      (448 < ma → roundedCurrent ma ≤ convertRawMa (convertMaRaw ma) ∧
        convertRawMa (convertMaRaw ma) ≤ min (ma + 64) 4544) ∧
      convertMaRaw (convertRawMa (convertMaRaw ma)) = convertMaRaw ma := by
  have inRange : (100 ≤ ma ∧ ma ≤ 448) ∨ 500 ≤ ma := by
    rcases asked with ⟨valid, nonzero⟩ | inRange
    · have admitted : (1024 ≤ ma ∧ ma ≤ 3072) ∨ ma = 0 := by
        simpa [hocclkValidConfigValue] using valid
      omega
    · exact inRange
  have encodes := encodes_iff.mpr inRange
  have least : 448 ≤ roundedCurrent ma := encodes
  obtain ⟨above, near⟩ := steppedCurrent_bounds ma
  obtain ⟨hundreds, most⟩ := roundedCurrent_bounds ma
  refine ⟨encodes, fun small => ?_, fun large => ?_, convertMaRaw_again encodes⟩
  · rw [convertRawMa_convertMaRaw encodes, if_pos small]
    have rounded := roundedCurrent_of_small small
    omega
  · rw [convertRawMa_convertMaRaw encodes, if_neg (Nat.not_le.mpr large)]
    have rounded := roundedCurrent_of_large large
    have cap : steppedCurrent ma ≤ 4544 := by
      unfold steppedCurrent
      omega
    omega

theorem charge_current_encoded_1536 :
    hocclkValidConfigValue .batteryChargeCurrent 1536 = true ∧ 1536 ≠ 0 ∧ Encodes 1536 ∧
      convertMaRaw (convertRawMa (convertMaRaw 1536)) = convertMaRaw 1536 := by
  have encoded := @charge_current_encoded 1536 (.inl (by decide))
  exact ⟨by decide, by decide, encoded.1, encoded.2.2.2⟩

/-- 600 mA are encoded as 640 mA.  From 449 mA to 499 mA the subtraction underflows, and the byte
stands for the cap. -/
theorem charge_current_exceeded :
    convertRawMa (convertMaRaw 600) = 640 ∧ convertRawMa (convertMaRaw 449) = 4544 ∧
      hocclkValidConfigValue .batteryChargeCurrent 1100 = true ∧
      ¬∀ ma, hocclkValidConfigValue .batteryChargeCurrent ma = true ∨ ma < 2 ^ 32 →
        Encodes ma ∧ (convertRawMa 1 ≤ ma → convertRawMa (convertMaRaw ma) ≤ ma) ∧
          convertMaRaw (convertRawMa (convertMaRaw ma)) = convertMaRaw ma := by
  refine ⟨by decide, by decide, by decide, fun kept => ?_⟩
  have below := (kept 1100 (.inl (by decide))).2.1 (by decide)
  exact absurd below (by decide)

end HorizonOc.Sysmodule
