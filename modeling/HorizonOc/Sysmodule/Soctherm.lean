import HorizonOc.Data.Audited
import HorizonOc.Sysmodule.Types

namespace HorizonOc.Sysmodule.Soctherm

open HorizonOc.Data

/-- The words of the fuse block at their offsets. -/
abbrev Fuses := Nat → BitVec 32

def fuseCacheOffset : Nat := 0x800

def fuseTsensorCommon : Nat := 0xA80

def nominalCalibFt : Int := 105

def nominalCalibCp : Int := 25

def fuseTsensorCalibFtTsBaseMask : BitVec 32 := 0x1fff <<< 13

def fuseTsensorCalibFtTsBaseShift : Nat := 13

def calibCoefficient : Int := 1000000

def sensorConfig2ThermaShift : Nat := 16

def sensorConfig2ThermbShift : Nat := 0

structure TSensorFuse where
  fuseBaseCpMask : BitVec 32
  fuseBaseCpShift : Nat
  fuseBaseFtMask : BitVec 32
  fuseBaseFtShift : Nat
  fuseShiftFtMask : BitVec 32
  fuseShiftFtShift : Nat
  fuseSpareRealignment : Nat

def tfuse : TSensorFuse :=
  { fuseBaseCpMask := 0x3ff <<< 11
    fuseBaseCpShift := 11
    fuseBaseFtMask := 0x7ff <<< 21
    fuseBaseFtShift := 21
    fuseShiftFtMask := 0x1f <<< 6
    fuseShiftFtShift := 6
    fuseSpareRealignment := 0 }

structure TSensorConfig where
  pdiv : Nat
  pdivAte : Nat
  tsample : Nat
  tsampleAte : Nat

def eristaConf : TSensorConfig := { pdiv := 8, pdivAte := 8, tsample := 120, tsampleAte := 480 }

def marikoConf : TSensorConfig := { pdiv := 12, pdivAte := 6, tsample := 240, tsampleAte := 480 }

structure FuseCorrCoeff where
  alpha : Int
  beta : Int

structure TSensor where
  config : TSensorConfig
  calibFuseOffset : Nat
  fuseCorr : FuseCorrCoeff

/-- `cpu0` to `cpu3`, `gpu` and `pllx`, which the two SoCs share up to the configuration. -/
def sharedTSensors (config : TSensorConfig) : List TSensor :=
  [{ config, calibFuseOffset := 0x198, fuseCorr := { alpha := 1085000, beta := 3244200 } },
   { config, calibFuseOffset := 0x184, fuseCorr := { alpha := 1126200, beta := -67500 } },
   { config, calibFuseOffset := 0x188, fuseCorr := { alpha := 1098400, beta := 2251100 } },
   { config, calibFuseOffset := 0x22c, fuseCorr := { alpha := 1108000, beta := 602700 } },
   { config, calibFuseOffset := 0x254, fuseCorr := { alpha := 1074300, beta := 2734900 } },
   { config, calibFuseOffset := 0x260, fuseCorr := { alpha := 1039700, beta := 6829100 } }]

/-- With `mem0` and `mem1`. -/
def eristaTSensors : List TSensor :=
  sharedTSensors eristaConf ++
    [{ config := eristaConf, calibFuseOffset := 0x258
       fuseCorr := { alpha := 1069200, beta := 3549900 } },
     { config := eristaConf, calibFuseOffset := 0x25c
       fuseCorr := { alpha := 1173700, beta := -6263600 } }]

def marikoTSensors : List TSensor := sharedTSensors marikoConf

def tSensors : SocType → List TSensor
  | .erista => eristaTSensors
  | .mariko => marikoTSensors

/-- All of them `u32`. -/
structure TSensorSharedCalib where
  baseCp : Int
  baseFt : Int
  actualTempCp : Int
  actualTempFt : Int

def signExtend32 (value : BitVec 32) (index : Nat) : Int :=
  ((value <<< (31 - index)).sshiftRight (31 - index)).toInt

def div64S64 (dividend divisor : Int) : Arithmetic Int := Arithmetic.divide 64 dividend divisor

def div64S64Precise (a b : Int) : Arithmetic Int := do
  let al ← Arithmetic.signed 64 (a * 2 ^ 16)
  let doubled ← Arithmetic.signed 64 (al * 2)
  let dividend ← Arithmetic.signed 64 (doubled + 1)
  let divisor ← Arithmetic.signed 32 (2 * b)
  let r ← div64S64 dividend divisor
  pure (r >>> (16 : Nat))

def calcSharedCal (tfuse : TSensorFuse) (fuses : Fuses) : Arithmetic TSensorSharedCalib := do
  let val := fuses fuseTsensorCommon
  let baseCp := (val &&& tfuse.fuseBaseCpMask) >>> tfuse.fuseBaseCpShift
  let baseFt := (val &&& tfuse.fuseBaseFtMask) >>> tfuse.fuseBaseFtShift
  let shiftedFt := (val &&& tfuse.fuseShiftFtMask) >>> tfuse.fuseShiftFtShift
  let shiftedFt := signExtend32 shiftedFt 4
  let val :=
    if tfuse.fuseSpareRealignment ≠ 0 then fuses (tfuse.fuseSpareRealignment + fuseCacheOffset)
    else val
  let shiftedCp := signExtend32 val 5
  let actualTempCp ← Arithmetic.signed 32 (2 * nominalCalibCp + shiftedCp)
  let actualTempCp ← Arithmetic.unsigned 32 actualTempCp
  let actualTempFt ← Arithmetic.signed 32 (2 * nominalCalibFt + shiftedFt)
  let actualTempFt ← Arithmetic.unsigned 32 actualTempFt
  pure { baseCp := baseCp.toNat, baseFt := baseFt.toNat, actualTempCp, actualTempFt }

/-- The two coefficients as they go into `SENSOR_CONFIG2`. -/
def packCalibration (therma thermb : Int) : BitVec 32 :=
  (BitVec.ofInt 16 therma).setWidth 32 <<< sensorConfig2ThermaShift |||
    (BitVec.ofInt 16 thermb).setWidth 32 <<< sensorConfig2ThermbShift

/-- The head of `CalcTSensorCalib`: `actual_tsensor_cp` and `actual_tsensor_ft`. -/
def actualTSensor (shared : TSensorSharedCalib) (offset : Nat) (fuses : Fuses) :
    Arithmetic (Int × Int) := do
  let val := fuses (offset + fuseCacheOffset)
  -- The sums of `u32` go to an `s32`, which is exact if the result fits there.
  let base ← Arithmetic.unsigned 32 (shared.baseCp * 64)
  let actualTsensorCp ← Arithmetic.signed 32 (base + signExtend32 val 12)
  let val := (val &&& fuseTsensorCalibFtTsBaseMask) >>> fuseTsensorCalibFtTsBaseShift
  let base ← Arithmetic.unsigned 32 (shared.baseFt * 32)
  let actualTsensorFt ← Arithmetic.signed 32 (base + signExtend32 val 12)
  pure (actualTsensorCp, actualTsensorFt)

/-- `mult` or `div`, a product of `u32` in an `s32`. -/
def rateProduct (first second : Nat) : Arithmetic Int := do
  let product ← Arithmetic.unsigned 32 (first * second)
  Arithmetic.narrow 32 product

/-- `therma` and `thermb` before their correction. -/
def calcCoefficients (cfg : TSensorConfig) (shared : TSensorSharedCalib)
    (actualTsensorCp actualTsensorFt : Int) : Arithmetic (Int × Int) := do
  let deltaSens ← Arithmetic.signed 32 (actualTsensorFt - actualTsensorCp)
  let deltaTemp ← Arithmetic.signed 32 (shared.actualTempFt - shared.actualTempCp)
  let mult ← rateProduct cfg.pdiv cfg.tsampleAte
  let div ← rateProduct cfg.tsample cfg.pdivAte
  let temp ← Arithmetic.signed 64 (deltaTemp * 2 ^ 13)
  let temp ← Arithmetic.signed 64 (temp * mult)
  let divisor ← Arithmetic.signed 64 (deltaSens * div)
  let divisor ← Arithmetic.narrow 32 divisor
  let quotient ← div64S64Precise temp divisor
  let therma ← Arithmetic.narrow 16 quotient
  let left ← Arithmetic.signed 64 (actualTsensorFt * shared.actualTempCp)
  let right ← Arithmetic.signed 64 (actualTsensorCp * shared.actualTempFt)
  let temp ← Arithmetic.signed 64 (left - right)
  let quotient ← div64S64Precise temp deltaSens
  let thermb ← Arithmetic.narrow 16 quotient
  pure (therma, thermb)

/-- The last step of the correction of a coefficient. -/
def divideByCoefficient (temp : Int) : Arithmetic Int := do
  let divisor ← Arithmetic.narrow 32 calibCoefficient
  let quotient ← div64S64Precise temp divisor
  Arithmetic.narrow 16 quotient

def calcTSensorCalib (cfg : TSensorConfig) (shared : TSensorSharedCalib) (corr : FuseCorrCoeff)
    (offset : Nat) (fuses : Fuses) : Arithmetic (BitVec 32) := do
  let (actualTsensorCp, actualTsensorFt) ← actualTSensor shared offset fuses
  let (therma, thermb) ← calcCoefficients cfg shared actualTsensorCp actualTsensorFt
  let temp ← Arithmetic.signed 64 (therma * corr.alpha)
  let therma ← divideByCoefficient temp
  let temp ← Arithmetic.signed 64 (thermb * corr.alpha)
  let temp ← Arithmetic.signed 64 (temp + corr.beta)
  let thermb ← divideByCoefficient temp
  pure (packCalibration therma thermb)

/-- A sensor's turn in `Initialize`. -/
def calibrate (fuses : Fuses) (sensor : TSensor) : Arithmetic (BitVec 32) := do
  let shared ← calcSharedCal tfuse fuses
  calcTSensorCalib sensor.config shared sensor.fuseCorr sensor.calibFuseOffset fuses

end HorizonOc.Sysmodule.Soctherm
