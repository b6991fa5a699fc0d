import HorizonOc.Data.FixedQuotient
import HorizonOc.Sysmodule.Soctherm

namespace HorizonOc.Sysmodule.Soctherm

open HorizonOc.Data

def field (word : BitVec 32) (position width : Nat) : Int := (word.extractLsb' position width).toNat

def signedField (word : BitVec 32) (position width : Nat) : Int :=
  (word.extractLsb' position width).toInt

def tempCp (fuses : Fuses) : Int := 50 + signedField (fuses fuseTsensorCommon) 0 6

def tempFt (fuses : Fuses) : Int := 210 + signedField (fuses fuseTsensorCommon) 6 5

/-- The reading of a sensor at the cold point. -/
def sensCp (fuses : Fuses) (sensor : TSensor) : Int :=
  64 * field (fuses fuseTsensorCommon) 11 10 +
    signedField (fuses (sensor.calibFuseOffset + fuseCacheOffset)) 0 13

/-- The reading of a sensor at the final test. -/
def sensFt (fuses : Fuses) (sensor : TSensor) : Int :=
  32 * field (fuses fuseTsensorCommon) 21 11 +
    signedField (fuses (sensor.calibFuseOffset + fuseCacheOffset)) 13 13

section

variable {word : BitVec 32} {position width index : Nat} {fuses : Fuses} {sensor : TSensor}

theorem field_bounds (word : BitVec 32) (position width : Nat) :
    0 ≤ field word position width ∧ field word position width < 2 ^ width := by
  have bound := (word.extractLsb' position width).isLt
  unfold field
  exact ⟨Int.natCast_nonneg _, by exact_mod_cast bound⟩

theorem signedField_fits : FitsSigned width (signedField word position width) :=
  ⟨BitVec.le_two_mul_toInt, BitVec.two_mul_toInt_lt⟩

theorem signExtend32_eq (inside : index < 32) :
    signExtend32 word index = signedField word 0 (index + 1) := by
  unfold signExtend32 signedField
  rw [← BitVec.toInt_signExtend_of_le (show index + 1 ≤ 32 by omega)]
  congr 1
  ext i below
  simp only [BitVec.getElem_sshiftRight, BitVec.getElem_signExtend, BitVec.getElem_shiftLeft,
    BitVec.msb_shiftLeft, BitVec.getElem_extractLsb', BitVec.msb_extractLsb']
  rcases Nat.lt_or_ge i (index + 1) with low | high
  · rw [dif_pos (by omega), dif_pos low]
    simp [show 31 - index + i - (31 - index) = i by omega, below]
  · rw [dif_neg (by omega), dif_neg (by omega), Nat.zero_add,
      show 32 - (index + 1) = 31 - index by omega]
    simp [show index + 1 ≤ 32 by omega]

theorem maskedField_eq {mask : BitVec 32}
    (whole : mask = (BitVec.allOnes width).setWidth 32 <<< position) :
    (word &&& mask) >>> position = (word.extractLsb' position width).setWidth 32 := by
  subst whole
  ext i below
  by_cases inside : position + i < 32
  · simp [inside, Bool.and_comm]
  · simp [inside, BitVec.getLsbD_of_ge word (position + i) (by omega)]

theorem maskedField_toNat {mask : BitVec 32}
    (whole : mask = (BitVec.allOnes width).setWidth 32 <<< position) (narrow : width ≤ 32) :
    (((word &&& mask) >>> position).toNat : Int) = field word position width := by
  rw [maskedField_eq whole, BitVec.toNat_setWidth_of_le narrow]
  rfl

theorem signExtend32_masked {mask : BitVec 32} (inside : index < 32)
    (whole : mask = (BitVec.allOnes (index + 1)).setWidth 32 <<< position) :
    signExtend32 ((word &&& mask) >>> position) index = signedField word position (index + 1) := by
  rw [signExtend32_eq inside, maskedField_eq whole, signedField, signedField]
  congr 1
  ext i below
  have within : i < 32 := by omega
  simpa [within] using fun _ => below

/-- Nothing in the common word can go wrong. -/
theorem calcSharedCal_eq : calcSharedCal tfuse fuses =
    pure { baseCp := field (fuses fuseTsensorCommon) 11 10
           baseFt := field (fuses fuseTsensorCommon) 21 11
           actualTempCp := tempCp fuses
           actualTempFt := tempFt fuses } := by
  have cp : FitsSigned 6 (signedField (fuses fuseTsensorCommon) 0 6) := signedField_fits
  have ft : FitsSigned 5 (signedField (fuses fuseTsensorCommon) 6 5) := signedField_fits
  have baseCp : (((fuses fuseTsensorCommon &&& tfuse.fuseBaseCpMask) >>>
      tfuse.fuseBaseCpShift).toNat : Int) = field (fuses fuseTsensorCommon) 11 10 :=
    maskedField_toNat (by decide) (by decide)
  have baseFt : (((fuses fuseTsensorCommon &&& tfuse.fuseBaseFtMask) >>>
      tfuse.fuseBaseFtShift).toNat : Int) = field (fuses fuseTsensorCommon) 21 11 :=
    maskedField_toNat (by decide) (by decide)
  have shiftedFt : signExtend32 ((fuses fuseTsensorCommon &&& tfuse.fuseShiftFtMask) >>>
      tfuse.fuseShiftFtShift) 4 = signedField (fuses fuseTsensorCommon) 6 5 :=
    signExtend32_masked (by decide) (by decide)
  have shiftedCp : signExtend32 (fuses fuseTsensorCommon) 5 =
      signedField (fuses fuseTsensorCommon) 0 6 := signExtend32_eq (by decide)
  unfold calcSharedCal
  simp only [if_neg (show ¬tfuse.fuseSpareRealignment ≠ 0 by decide), baseCp, baseFt, shiftedFt,
    shiftedCp, nominalCalibCp, nominalCalibFt]
  rw [Arithmetic.signed_bind (by omega), Arithmetic.unsigned_bind (by omega),
    Arithmetic.signed_bind (by omega), Arithmetic.unsigned_bind (by omega)]
  rfl

end

/-- The divisions are exact fixed point up to a divisor of 0. -/
theorem div64S64Precise_eq {a b : Int} (dividend : a.natAbs ≤ 2 ^ 45)
    (divisor : b.natAbs < 2 ^ 30) :
    div64S64Precise a b = (do
      Audited.check (b ≠ 0) .divisorZero
      pure (fixedQuotient (2 ^ 16) a b)) := by
  have quotient := natAbs_tdiv_le (a * 2 ^ 16 * 2 + 1) (2 * b)
  have same : 2 * b ≠ 0 ↔ b ≠ 0 := by omega
  rw [div64S64Precise, Arithmetic.signed_bind (by omega), Arithmetic.signed_bind (by omega),
    Arithmetic.signed_bind (by omega), Arithmetic.signed_bind (by omega), div64S64,
    Arithmetic.divide, Arithmetic.signed_of_fits (by omega), Audited.bind_assoc,
    Audited.check_congr same]
  simp only [Audited.pure_bind, Int.shiftRight_eq_div_pow]
  rfl

def TSensorConfig.mult (cfg : TSensorConfig) : Int := cfg.pdiv * cfg.tsampleAte

def TSensorConfig.div (cfg : TSensorConfig) : Int := cfg.tsample * cfg.pdivAte

def deltaSens (fuses : Fuses) (sensor : TSensor) : Int := sensFt fuses sensor - sensCp fuses sensor

def deltaTemp (fuses : Fuses) : Int := tempFt fuses - tempCp fuses

def crossTerm (fuses : Fuses) (sensor : TSensor) : Int :=
  sensFt fuses sensor * tempCp fuses - sensCp fuses sensor * tempFt fuses

/-- The greatest and the least coefficient that is still one of 16 bits after its correction. -/
def highestCoefficient (alpha beta : Int) : Int := (2 ^ 15 * calibCoefficient - 1 - beta) / alpha

def lowestCoefficient (alpha beta : Int) : Int :=
  -(((2 ^ 31 + 1) * calibCoefficient + 2 ^ 16 * beta) / (2 ^ 16 * alpha))

/-- Correction coefficients that can be met by coefficients of 16 bits. -/
structure CorrBounds (alpha beta : Int) : Prop where
  alpha_pos : 0 < alpha
  alpha_le : alpha ≤ 2 ^ 21
  beta_le : beta.natAbs ≤ 2 ^ 24
  low : -2 ^ 15 ≤ lowestCoefficient alpha beta ∧ lowestCoefficient alpha beta ≤ 0
  high : 0 ≤ highestCoefficient alpha beta ∧ highestCoefficient alpha beta < 2 ^ 15

structure SensorBounds (sensor : TSensor) : Prop where
  ratio : sensor.config.mult = 4 * sensor.config.div
  div_pos : 0 < sensor.config.div
  div_le : sensor.config.div ≤ 1440
  slope : CorrBounds sensor.fuseCorr.alpha 0
  offset : CorrBounds sensor.fuseCorr.alpha sensor.fuseCorr.beta

instance (alpha beta : Int) : Decidable (CorrBounds alpha beta) :=
  decidable_of_iff (0 < alpha ∧ alpha ≤ 2 ^ 21 ∧ beta.natAbs ≤ 2 ^ 24 ∧
    (-2 ^ 15 ≤ lowestCoefficient alpha beta ∧ lowestCoefficient alpha beta ≤ 0) ∧
    0 ≤ highestCoefficient alpha beta ∧ highestCoefficient alpha beta < 2 ^ 15)
    ⟨fun ⟨positive, large, offset, low, high⟩ => ⟨positive, large, offset, low, high⟩,
      fun bounds => ⟨bounds.alpha_pos, bounds.alpha_le, bounds.beta_le, bounds.low, bounds.high⟩⟩

instance (sensor : TSensor) : Decidable (SensorBounds sensor) :=
  decidable_of_iff (sensor.config.mult = 4 * sensor.config.div ∧ 0 < sensor.config.div ∧
    sensor.config.div ≤ 1440 ∧ CorrBounds sensor.fuseCorr.alpha 0 ∧
    CorrBounds sensor.fuseCorr.alpha sensor.fuseCorr.beta)
    ⟨fun ⟨ratio, positive, small, slope, offset⟩ => ⟨ratio, positive, small, slope, offset⟩,
      fun bounds => ⟨bounds.ratio, bounds.div_pos, bounds.div_le, bounds.slope, bounds.offset⟩⟩

theorem tSensors_bounds (soc : SocType) : ∀ sensor ∈ tSensors soc, SensorBounds sensor := by
  cases soc with
  | erista => decide
  | mariko => decide

section

variable {fuses : Fuses} {sensor : TSensor}

theorem temp_bounds (fuses : Fuses) : 18 ≤ tempCp fuses ∧ tempCp fuses ≤ 81 ∧ 194 ≤ tempFt fuses ∧
    tempFt fuses ≤ 225 := by
  have cp : FitsSigned 6 (signedField (fuses fuseTsensorCommon) 0 6) := signedField_fits
  have ft : FitsSigned 5 (signedField (fuses fuseTsensorCommon) 6 5) := signedField_fits
  unfold tempCp tempFt
  omega

theorem sens_bounds (fuses : Fuses) (sensor : TSensor) :
    -4096 ≤ sensCp fuses sensor ∧ sensCp fuses sensor < 69568 ∧
    -4096 ≤ sensFt fuses sensor ∧ sensFt fuses sensor < 69600 := by
  have cp : FitsSigned 13 (signedField (fuses (sensor.calibFuseOffset + fuseCacheOffset)) 0 13) :=
    signedField_fits
  have ft : FitsSigned 13 (signedField (fuses (sensor.calibFuseOffset + fuseCacheOffset)) 13 13) :=
    signedField_fits
  have baseCp := field_bounds (fuses fuseTsensorCommon) 11 10
  have baseFt := field_bounds (fuses fuseTsensorCommon) 21 11
  unfold sensCp sensFt
  omega

theorem natAbs_mul_le {left right : Int} {most other : Nat} (first : left.natAbs ≤ most)
    (second : right.natAbs ≤ other) : (left * right).natAbs ≤ most * other := by
  rw [Int.natAbs_mul]
  exact Nat.mul_le_mul first second

theorem crossTerm_bound (fuses : Fuses) (sensor : TSensor) :
    (crossTerm fuses sensor).natAbs ≤ 2 ^ 26 ∧
    (sensFt fuses sensor * tempCp fuses).natAbs ≤ 2 ^ 25 ∧
    (sensCp fuses sensor * tempFt fuses).natAbs ≤ 2 ^ 25 := by
  obtain ⟨cpLow, cpHigh, ftLow, ftHigh⟩ := sens_bounds fuses sensor
  obtain ⟨tempCpLow, tempCpHigh, tempFtLow, tempFtHigh⟩ := temp_bounds fuses
  have left := natAbs_mul_le (show (sensFt fuses sensor).natAbs ≤ 2 ^ 17 by omega)
    (show (tempCp fuses).natAbs ≤ 2 ^ 8 by omega)
  have right := natAbs_mul_le (show (sensCp fuses sensor).natAbs ≤ 2 ^ 17 by omega)
    (show (tempFt fuses).natAbs ≤ 2 ^ 8 by omega)
  unfold crossTerm
  omega

/-- A division and the conversion of its quotient, when all else fits. -/
def convertedQuotient (dividend divisor : Int) : Arithmetic Int := do
  Audited.check (divisor ≠ 0) .divisorZero
  Arithmetic.narrow 16 (fixedQuotient (2 ^ 16) dividend divisor)

/-- The four divisions of a calibration. -/
def firstTherma (fuses : Fuses) (sensor : TSensor) : Arithmetic Int :=
  convertedQuotient (deltaTemp fuses * 2 ^ 13 * sensor.config.mult)
    (deltaSens fuses sensor * sensor.config.div)

def firstThermb (fuses : Fuses) (sensor : TSensor) : Arithmetic Int :=
  convertedQuotient (crossTerm fuses sensor) (deltaSens fuses sensor)

def lastTherma (fuses : Fuses) (sensor : TSensor) : Arithmetic Int :=
  convertedQuotient ((firstTherma fuses sensor).value * sensor.fuseCorr.alpha) calibCoefficient

def lastThermb (fuses : Fuses) (sensor : TSensor) : Arithmetic Int :=
  convertedQuotient ((firstThermb fuses sensor).value * sensor.fuseCorr.alpha +
    sensor.fuseCorr.beta) calibCoefficient

theorem convertedQuotient_eq {a b : Int} (dividend : a.natAbs ≤ 2 ^ 45)
    (divisor : b.natAbs < 2 ^ 30) :
    (do let quotient ← div64S64Precise a b
        Arithmetic.narrow 16 quotient) = convertedQuotient a b := by
  rw [div64S64Precise_eq dividend divisor, Audited.bind_assoc]
  rfl

theorem divideByCoefficient_eq {temp : Int} (small : temp.natAbs ≤ 2 ^ 45) :
    divideByCoefficient temp = convertedQuotient temp calibCoefficient := by
  rw [divideByCoefficient, Arithmetic.narrow_bind (by decide),
    convertedQuotient_eq small (by decide)]

theorem actualTSensor_eq (shared : TSensorSharedCalib)
    (cp : shared.baseCp = field (fuses fuseTsensorCommon) 11 10)
    (ft : shared.baseFt = field (fuses fuseTsensorCommon) 21 11) :
    actualTSensor shared sensor.calibFuseOffset fuses =
      pure (sensCp fuses sensor, sensFt fuses sensor) := by
  obtain ⟨cpLow, cpHigh, ftLow, ftHigh⟩ := sens_bounds fuses sensor
  obtain ⟨baseCpLow, baseCpHigh⟩ := field_bounds (fuses fuseTsensorCommon) 11 10
  obtain ⟨baseFtLow, baseFtHigh⟩ := field_bounds (fuses fuseTsensorCommon) 21 11
  have sumCp : shared.baseCp * 64 +
      signExtend32 (fuses (sensor.calibFuseOffset + fuseCacheOffset)) 12 = sensCp fuses sensor := by
    rw [signExtend32_eq (by decide), Int.mul_comm, cp]
    rfl
  have sumFt : shared.baseFt * 32 +
      signExtend32 ((fuses (sensor.calibFuseOffset + fuseCacheOffset) &&&
        fuseTsensorCalibFtTsBaseMask) >>> fuseTsensorCalibFtTsBaseShift) 12 =
        sensFt fuses sensor := by
    rw [signExtend32_masked (by decide) (by decide), Int.mul_comm, ft]
    rfl
  rw [actualTSensor, Arithmetic.unsigned_bind (by omega), sumCp, Arithmetic.signed_bind (by omega),
    Arithmetic.unsigned_bind (by omega), sumFt, Arithmetic.signed_bind (by omega)]

theorem rateProduct_eq {first second : Nat} (small : (first : Int) * second < 2 ^ 31) :
    rateProduct first second = pure ((first : Int) * second) := by
  have nonneg := Int.mul_nonneg (Int.natCast_nonneg first) (Int.natCast_nonneg second)
  rw [rateProduct, Arithmetic.unsigned_bind (by omega), Arithmetic.narrow_of_fits (by omega)]

theorem calcCoefficients_eq (shared : TSensorSharedCalib) (bounds : SensorBounds sensor)
    (cp : shared.actualTempCp = tempCp fuses) (ft : shared.actualTempFt = tempFt fuses) :
    calcCoefficients sensor.config shared (sensCp fuses sensor) (sensFt fuses sensor) =
      (do let therma ← firstTherma fuses sensor
          let thermb ← firstThermb fuses sensor
          pure (therma, thermb)) := by
  obtain ⟨cpLow, cpHigh, ftLow, ftHigh⟩ := sens_bounds fuses sensor
  obtain ⟨tempCpLow, tempCpHigh, tempFtLow, tempFtHigh⟩ := temp_bounds fuses
  obtain ⟨cross, left, right⟩ := crossTerm_bound fuses sensor
  have ratio := bounds.ratio
  have divLow := bounds.div_pos
  have divHigh := bounds.div_le
  have mult : rateProduct sensor.config.pdiv sensor.config.tsampleAte = pure sensor.config.mult :=
    rateProduct_eq (show sensor.config.mult < 2 ^ 31 by omega)
  have div : rateProduct sensor.config.tsample sensor.config.pdivAte = pure sensor.config.div :=
    rateProduct_eq (show sensor.config.div < 2 ^ 31 by omega)
  have sens : sensFt fuses sensor - sensCp fuses sensor = deltaSens fuses sensor := rfl
  have temp : tempFt fuses - tempCp fuses = deltaTemp fuses := rfl
  have term : sensFt fuses sensor * tempCp fuses - sensCp fuses sensor * tempFt fuses =
    crossTerm fuses sensor := rfl
  have scaled : (deltaTemp fuses * 2 ^ 13 * sensor.config.mult).natAbs ≤ 2 ^ 21 * 2 ^ 13 :=
    natAbs_mul_le (by omega) (by omega)
  have divided : (deltaSens fuses sensor * sensor.config.div).natAbs ≤ 2 ^ 17 * 1440 :=
    natAbs_mul_le (by omega) (by omega)
  rw [calcCoefficients, mult, div, cp, ft, sens, temp, firstTherma, firstThermb,
    ← convertedQuotient_eq (by omega) (by omega), ← convertedQuotient_eq (by omega) (by omega),
    Arithmetic.signed_bind (by omega), Arithmetic.signed_bind (by omega), Audited.pure_bind,
    Audited.pure_bind, Arithmetic.signed_bind (by omega), Arithmetic.signed_bind (by omega),
    Arithmetic.signed_bind (by omega), Arithmetic.narrow_bind (by omega),
    Arithmetic.signed_of_fits (by omega), Arithmetic.signed_of_fits (by omega)]
  have last : Arithmetic.signed 64 (crossTerm fuses sensor) = pure (crossTerm fuses sensor) :=
    Arithmetic.signed_of_fits (by omega)
  simp only [Audited.pure_bind, Audited.bind_assoc, term, last]

theorem convertedQuotient_fits {a b : Int} : FitsSigned 16 (convertedQuotient a b).value :=
  Arithmetic.narrow_fits (by decide)

theorem calibrate_eq (bounds : SensorBounds sensor) : calibrate fuses sensor = (do
    let _ ← firstTherma fuses sensor
    let _ ← firstThermb fuses sensor
    let therma ← lastTherma fuses sensor
    let thermb ← lastThermb fuses sensor
    pure (packCalibration therma thermb)) := by
  have positive := bounds.offset.alpha_pos
  have large := bounds.offset.alpha_le
  have small := bounds.offset.beta_le
  have alpha : sensor.fuseCorr.alpha.natAbs ≤ 2 ^ 21 := by omega
  have first : FitsSigned 16 (firstTherma fuses sensor).value := convertedQuotient_fits
  have second : FitsSigned 16 (firstThermb fuses sensor).value := convertedQuotient_fits
  have slope :=
    natAbs_mul_le (show (firstTherma fuses sensor).value.natAbs ≤ 2 ^ 15 by omega) alpha
  have offset :=
    natAbs_mul_le (show (firstThermb fuses sensor).value.natAbs ≤ 2 ^ 15 by omega) alpha
  rw [calibrate, calcSharedCal_eq, Audited.pure_bind, calcTSensorCalib,
    actualTSensor_eq _ rfl rfl, Audited.pure_bind]
  dsimp only
  rw [calcCoefficients_eq _ bounds rfl rfl, Audited.bind_assoc]
  apply Audited.bind_congr
  rw [Audited.bind_assoc]
  apply Audited.bind_congr
  rw [Audited.pure_bind]
  dsimp only
  rw [Arithmetic.signed_bind (by omega), Arithmetic.signed_of_fits (by omega)]
  simp only [Audited.pure_bind]
  rw [Arithmetic.signed_of_fits (by omega)]
  simp only [Audited.pure_bind]
  rw [divideByCoefficient_eq (by omega), divideByCoefficient_eq (by omega)]
  rfl

theorem mem_faults_convertedQuotient {a b : Int} {fault : ArithmeticFault} :
    fault ∈ (convertedQuotient a b).faults ↔ b = 0 ∧ fault = .divisorZero ∨
      ¬FitsSigned 16 (fixedQuotient (2 ^ 16) a b) ∧ fault = .truncated 16 := by
  rw [convertedQuotient, Audited.mem_faults_bind, Audited.mem_faults_check, Arithmetic.narrow,
    Audited.mem_faults_bind, Audited.mem_faults_check, Audited.mem_faults_pure, or_false, not_not]

theorem fault_of_convertedQuotient {a b : Int} {fault : ArithmeticFault}
    (member : fault ∈ (convertedQuotient a b).faults) :
    fault = .divisorZero ∨ fault = .truncated 16 :=
  (mem_faults_convertedQuotient.mp member).imp And.right And.right

theorem faultless_convertedQuotient {a b : Int} : (convertedQuotient a b).Faultless ↔
    b ≠ 0 ∧ FitsSigned 16 (fixedQuotient (2 ^ 16) a b) := by
  rw [convertedQuotient, Audited.faultless_bind, Audited.faultless_check,
    Arithmetic.faultless_narrow]

theorem convertedQuotient_value {a b : Int} (fits : FitsSigned 16 (fixedQuotient (2 ^ 16) a b)) :
    (convertedQuotient a b).value = fixedQuotient (2 ^ 16) a b := by
  rw [convertedQuotient, Audited.value_bind, Arithmetic.narrow_of_fits fits, Audited.value_pure]

theorem fitsSigned_sixteen {value : Int} :
    FitsSigned 16 value ↔ -2 ^ 15 ≤ value ∧ value ≤ 2 ^ 15 - 1 := by
  omega

theorem correction_fits_iff {coefficient alpha beta : Int} (positive : 0 < alpha) :
    FitsSigned 16 (fixedQuotient (2 ^ 16) (coefficient * alpha + beta) calibCoefficient) ↔
      lowestCoefficient alpha beta ≤ coefficient ∧ coefficient ≤ highestCoefficient alpha beta := by
  have upper : coefficient ≤ highestCoefficient alpha beta ↔
      coefficient * alpha ≤ 2 ^ 15 * calibCoefficient - 1 - beta :=
    Int.le_ediv_iff_mul_le positive
  have lower : -coefficient ≤ ((2 ^ 31 + 1) * calibCoefficient + 2 ^ 16 * beta) / (2 ^ 16 * alpha) ↔
      -coefficient * (2 ^ 16 * alpha) ≤ (2 ^ 31 + 1) * calibCoefficient + 2 ^ 16 * beta :=
    Int.le_ediv_iff_mul_le (by omega)
  have product : -coefficient * (2 ^ 16 * alpha) = -(2 ^ 16 * (coefficient * alpha)) := by ring
  rw [product] at lower
  rw [fitsSigned_sixteen, fixedQuotient_within_iff (by decide) (by decide) (by decide) (by decide),
    upper, QuotientWithin, lowestCoefficient]
  unfold calibCoefficient at *
  omega

theorem corrected_iff {a b alpha beta : Int} (corr : CorrBounds alpha beta) :
    (convertedQuotient a b).Faultless ∧
        (convertedQuotient ((convertedQuotient a b).value * alpha + beta)
          calibCoefficient).Faultless ↔
      QuotientWithin (2 ^ 16) (lowestCoefficient alpha beta) (highestCoefficient alpha beta) a
        b := by
  obtain ⟨leastLow, leastHigh⟩ := corr.low
  obtain ⟨mostLow, mostHigh⟩ := corr.high
  rw [faultless_convertedQuotient, faultless_convertedQuotient]
  by_cases zero : b = 0
  · exact iff_of_false (fun both => both.1.1 zero) fun within => within.divisor_ne_zero zero
  · rw [← fixedQuotient_within_iff (by decide) leastHigh mostLow zero,
      correction_fits_iff corr.alpha_pos]
    constructor
    · rintro ⟨⟨-, fits⟩, -, within⟩
      rwa [convertedQuotient_value fits] at within
    · intro within
      have fits : FitsSigned 16 (fixedQuotient (2 ^ 16) a b) :=
        fitsSigned_sixteen.mpr ⟨by omega, by omega⟩
      rw [convertedQuotient_value fits]
      exact ⟨⟨zero, fits⟩, by decide, within⟩

end

theorem packCalibration_therma {therma thermb : Int} (fits : FitsSigned 16 therma) :
    ((packCalibration therma thermb).extractLsb' 16 16).toInt = therma := by
  have high : (packCalibration therma thermb).extractLsb' 16 16 = BitVec.ofInt 16 therma := by
    unfold packCalibration
    ext i below
    have shifted : 16 + i < 32 := by omega
    simp [sensorConfig2ThermaShift, sensorConfig2ThermbShift, shifted, below]
  rw [high, BitVec.toInt_ofInt, Arithmetic.bmod_of_fits fits]

theorem packCalibration_thermb {therma thermb : Int} (fits : FitsSigned 16 thermb) :
    ((packCalibration therma thermb).extractLsb' 0 16).toInt = thermb := by
  have low : (packCalibration therma thermb).extractLsb' 0 16 = BitVec.ofInt 16 thermb := by
    unfold packCalibration
    ext i below
    have inside : i < 32 := by omega
    simp [sensorConfig2ThermaShift, sensorConfig2ThermbShift, inside, below]
  rw [low, BitVec.toInt_ofInt, Arithmetic.bmod_of_fits fits]

/-- `therma` and `thermb` without any wrap. -/
def exactTherma (fuses : Fuses) (sensor : TSensor) : Int :=
  fixedQuotient (2 ^ 16)
    (fixedQuotient (2 ^ 16) (deltaTemp fuses * 2 ^ 13 * sensor.config.mult)
      (deltaSens fuses sensor * sensor.config.div) * sensor.fuseCorr.alpha) calibCoefficient

def exactThermb (fuses : Fuses) (sensor : TSensor) : Int :=
  fixedQuotient (2 ^ 16)
    (fixedQuotient (2 ^ 16) (crossTerm fuses sensor) (deltaSens fuses sensor) *
      sensor.fuseCorr.alpha + sensor.fuseCorr.beta) calibCoefficient

/-- The readings leave coefficients of 16 bits. -/
def CalibrationFits (fuses : Fuses) (sensor : TSensor) : Prop :=
  QuotientWithin (2 ^ 16) (lowestCoefficient sensor.fuseCorr.alpha 0)
      (highestCoefficient sensor.fuseCorr.alpha 0) (deltaTemp fuses * 2 ^ 15)
      (deltaSens fuses sensor) ∧
    QuotientWithin (2 ^ 16) (lowestCoefficient sensor.fuseCorr.alpha sensor.fuseCorr.beta)
      (highestCoefficient sensor.fuseCorr.alpha sensor.fuseCorr.beta) (crossTerm fuses sensor)
      (deltaSens fuses sensor)

instance (fuses : Fuses) (sensor : TSensor) : Decidable (CalibrationFits fuses sensor) :=
  inferInstanceAs (Decidable (_ ∧ _))

section

variable {fuses : Fuses} {sensor : TSensor}

theorem calibrate_value (fuses : Fuses) (bounds : SensorBounds sensor) :
    (calibrate fuses sensor).value = packCalibration (lastTherma fuses sensor).value (lastThermb fuses sensor).value := by
  rw [calibrate_eq bounds]
  rfl

theorem mem_faults_calibrate (bounds : SensorBounds sensor) {fault : ArithmeticFault} :
    fault ∈ (calibrate fuses sensor).faults ↔
      fault ∈ (firstTherma fuses sensor).faults ∨ fault ∈ (firstThermb fuses sensor).faults ∨
      fault ∈ (lastTherma fuses sensor).faults ∨ fault ∈ (lastThermb fuses sensor).faults := by
  rw [calibrate_eq bounds, Audited.mem_faults_bind, Audited.mem_faults_bind,
    Audited.mem_faults_bind, Audited.mem_faults_bind, Audited.mem_faults_pure, or_false]

/-- No other faults than a divisor of 0 and coefficients of more than 16 bits. -/
theorem fault_of_calibrate (bounds : SensorBounds sensor) {fault : ArithmeticFault}
    (member : fault ∈ (calibrate fuses sensor).faults) :
    fault = .divisorZero ∨ fault = .truncated 16 := by
  rcases (mem_faults_calibrate bounds).mp member with member | member | member | member
  · exact fault_of_convertedQuotient member
  · exact fault_of_convertedQuotient member
  · exact fault_of_convertedQuotient member
  · exact fault_of_convertedQuotient member

theorem divisorZero_calibrate_iff (bounds : SensorBounds sensor) :
    .divisorZero ∈ (calibrate fuses sensor).faults ↔ sensFt fuses sensor = sensCp fuses sensor := by
  have positive := bounds.div_pos
  have zero : deltaSens fuses sensor * sensor.config.div = 0 ↔ deltaSens fuses sensor = 0 := by
    rw [Int.mul_eq_zero]
    omega
  have constant : calibCoefficient ≠ 0 := by decide
  have same : deltaSens fuses sensor = 0 ↔ sensFt fuses sensor = sensCp fuses sensor :=
    Int.sub_eq_zero
  rw [mem_faults_calibrate bounds, ← same]
  unfold firstTherma firstThermb lastTherma lastThermb
  simp [mem_faults_convertedQuotient, zero, constant]

theorem therma_faultless_iff (bounds : SensorBounds sensor) :
    (firstTherma fuses sensor).Faultless ∧ (lastTherma fuses sensor).Faultless ↔
      QuotientWithin (2 ^ 16) (lowestCoefficient sensor.fuseCorr.alpha 0)
        (highestCoefficient sensor.fuseCorr.alpha 0) (deltaTemp fuses * 2 ^ 15)
        (deltaSens fuses sensor) := by
  have scaled : deltaTemp fuses * 2 ^ 13 * sensor.config.mult =
      deltaTemp fuses * 2 ^ 15 * sensor.config.div := by
    rw [bounds.ratio]
    ring
  rw [← quotientWithin_factor bounds.div_pos, ← scaled, ← corrected_iff bounds.slope, Int.add_zero]
  rfl

theorem thermb_faultless_iff (bounds : SensorBounds sensor) :
    (firstThermb fuses sensor).Faultless ∧ (lastThermb fuses sensor).Faultless ↔
      QuotientWithin (2 ^ 16) (lowestCoefficient sensor.fuseCorr.alpha sensor.fuseCorr.beta)
        (highestCoefficient sensor.fuseCorr.alpha sensor.fuseCorr.beta) (crossTerm fuses sensor)
        (deltaSens fuses sensor) :=
  corrected_iff bounds.offset

theorem faultless_calibrate_iff (bounds : SensorBounds sensor) :
    (calibrate fuses sensor).Faultless ↔ CalibrationFits fuses sensor := by
  rw [CalibrationFits, ← therma_faultless_iff bounds, ← thermb_faultless_iff bounds,
    calibrate_eq bounds, Audited.faultless_bind, Audited.faultless_bind, Audited.faultless_bind,
    Audited.faultless_bind, Audited.faultless_pure]
  tauto

theorem lastTherma_exact (faultless : (firstTherma fuses sensor).Faultless) :
    fixedQuotient (2 ^ 16) ((firstTherma fuses sensor).value * sensor.fuseCorr.alpha)
      calibCoefficient = exactTherma fuses sensor := by
  rw [firstTherma, convertedQuotient_value (faultless_convertedQuotient.mp faultless).2]
  rfl

theorem lastThermb_exact (faultless : (firstThermb fuses sensor).Faultless) :
    fixedQuotient (2 ^ 16) ((firstThermb fuses sensor).value * sensor.fuseCorr.alpha +
      sensor.fuseCorr.beta) calibCoefficient = exactThermb fuses sensor := by
  rw [firstThermb, convertedQuotient_value (faultless_convertedQuotient.mp faultless).2]
  rfl

theorem decodes_of_faultless (bounds : SensorBounds sensor)
    (faultless : (calibrate fuses sensor).Faultless) :
    ((calibrate fuses sensor).value.extractLsb' 16 16).toInt = exactTherma fuses sensor ∧
      ((calibrate fuses sensor).value.extractLsb' 0 16).toInt = exactThermb fuses sensor := by
  have value := calibrate_value fuses bounds
  rw [calibrate_eq bounds, Audited.faultless_bind, Audited.faultless_bind, Audited.faultless_bind,
    Audited.faultless_bind] at faultless
  obtain ⟨firstA, firstB, lastA, lastB, -⟩ := faultless
  have fitsA := (faultless_convertedQuotient.mp lastA).2
  have fitsB := (faultless_convertedQuotient.mp lastB).2
  rw [value, lastTherma, lastThermb, convertedQuotient_value fitsA, convertedQuotient_value fitsB]
  rw [lastTherma_exact firstA] at fitsA ⊢
  rw [lastThermb_exact firstB] at fitsB ⊢
  exact ⟨packCalibration_therma fitsA, packCalibration_thermb fitsB⟩

end

/-- Whatever the fuses hold, nothing overflows and only two things can go wrong: the readings of a
sensor are equal, or they leave a coefficient that 16 bits do not hold. -/
theorem sensor_calibration_defined {soc : SocType} {sensor : TSensor}
    (member : sensor ∈ tSensors soc) (fuses : Fuses) :
    (∀ fault ∈ (calibrate fuses sensor).faults, fault = .divisorZero ∨ fault = .truncated 16) ∧
      (.divisorZero ∈ (calibrate fuses sensor).faults ↔
        sensFt fuses sensor = sensCp fuses sensor) ∧
      ((calibrate fuses sensor).Faultless ↔ CalibrationFits fuses sensor) ∧
      (CalibrationFits fuses sensor →
        ((calibrate fuses sensor).value.extractLsb' 16 16).toInt = exactTherma fuses sensor ∧
        ((calibrate fuses sensor).value.extractLsb' 0 16).toInt = exactThermb fuses sensor) := by
  have bounds := tSensors_bounds soc sensor member
  refine ⟨fun fault => fault_of_calibrate bounds, divisorZero_calibrate_iff bounds,
    faultless_calibrate_iff bounds, fun fits => ?_⟩
  exact decodes_of_faultless bounds ((faultless_calibrate_iff bounds).mpr fits)

/-- Readings of about 19200 and 28800 for every sensor. -/
def calibratedFuses (offset : Nat) : BitVec 32 :=
  if offset = fuseTsensorCommon then 900 <<< 21 ||| 300 <<< 11 else 0

theorem sensor_calibration_defined_sample :
    let cpu0 : TSensor :=
      { config := marikoConf, calibFuseOffset := 0x198
        fuseCorr := { alpha := 1085000, beta := 3244200 } }
    CalibrationFits calibratedFuses cpu0 ∧ (calibrate calibratedFuses cpu0).Faultless := by
  intro cpu0
  have fits : CalibrationFits calibratedFuses cpu0 := by decide
  have member : cpu0 ∈ tSensors .mariko := List.mem_cons_self
  exact ⟨fits, (sensor_calibration_defined member calibratedFuses).2.2.1.mpr fits⟩

/-- Blank fuses, and fuses whose readings are one apart. -/
theorem sensor_calibration_faults :
    ∃ sensor ∈ tSensors .mariko,
      .divisorZero ∈ (calibrate (fun _ => 0) sensor).faults ∧
      .truncated 16 ∈ (calibrate (fun offset => if offset = fuseTsensorCommon then 0 else 1 <<< 13)
        sensor).faults := by
  refine ⟨_, List.mem_cons_self, ?_, ?_⟩
  · decide
  · decide

end HorizonOc.Sysmodule.Soctherm
