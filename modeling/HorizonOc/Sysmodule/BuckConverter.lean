import HorizonOc.Data.Packing
import HorizonOc.Data.Quantizer
import HorizonOc.Sysmodule.Types

namespace HorizonOc.Sysmodule

open HorizonOc.Data

/-- How a converter takes a voltage, in microvolts. -/
structure BuckConverterDomain where
  voltMask : Byte
  uvStep : Nat
  uvMin : Nat
  uvMax : Nat
deriving DecidableEq, Repr

namespace BuckConverterDomain

def eristaCpu : BuckConverterDomain := ⟨0x7F, 6250, 606250, 1400000⟩

def eristaGpu : BuckConverterDomain := ⟨0x7F, 6250, 606250, 1400000⟩

def eristaDram : BuckConverterDomain := ⟨0x3F, 12500, 600000, 1250000⟩

def display : BuckConverterDomain := ⟨0x7F, 25000, 800000, 1325000⟩

def marikoCpu : BuckConverterDomain := ⟨0xFF, 5000, 250000, 1525000⟩

def marikoGpu : BuckConverterDomain := ⟨0xFF, 5000, 250000, 1525000⟩

def marikoDramVddq : BuckConverterDomain := ⟨0xFF, 5000, 250000, 700000⟩

def marikoDramVdd2 : BuckConverterDomain := ⟨0x7F, 12500, 600000, 1250000⟩

def all : List BuckConverterDomain :=
  [eristaCpu, eristaGpu, eristaDram, display, marikoCpu, marikoGpu, marikoDramVddq, marikoDramVdd2]

def multiplierToMvOut (domain : BuckConverterDomain) (multiplier : Byte) : Nat :=
  toU32 (domain.uvMin + toU32 (domain.uvStep * multiplier.toNat)) / 1000

def mvOutToMultiplier (domain : BuckConverterDomain) (mvolt : Nat) : Byte :=
  let uvolt := toU32 (mvolt * 1000)
  let uvolt := if uvolt < domain.uvMin then domain.uvMin else uvolt
  let uvolt := if domain.uvMax < uvolt then domain.uvMax else uvolt
  .ofNat 8 ((uvolt - domain.uvMin) / domain.uvStep)

/-- The byte that `SetMvOut` writes over the one it has read. -/
def setMvOut (domain : BuckConverterDomain) (val : Byte) (mvolt : Nat) : Byte :=
  (val &&& ~~~domain.voltMask) ||| (domain.mvOutToMultiplier mvolt &&& domain.voltMask)

/-- What `GetMvOut` makes of a byte. -/
def getMvOut (domain : BuckConverterDomain) (val : Byte) : Nat :=
  domain.multiplierToMvOut (val &&& domain.voltMask)

/-- What the code relies on: the steps are whole, fit in the mask, and are at least a millivolt. -/
structure Regular (domain : BuckConverterDomain) : Prop where
  positive : 0 < domain.uvStep
  ordered : domain.uvMin < domain.uvMax
  whole : domain.uvStep ∣ domain.uvMax - domain.uvMin
  byte : (domain.uvMax - domain.uvMin) / domain.uvStep < 256
  masked : ∀ selector ≤ (domain.uvMax - domain.uvMin) / domain.uvStep,
    (.ofNat 8 selector &&& domain.voltMask : Byte) = .ofNat 8 selector
  word : domain.uvMax + 1000 < 2 ^ 32

theorem all_regular {domain : BuckConverterDomain} (member : domain ∈ all) : domain.Regular := by
  have facts : ∀ domain ∈ all, 0 < domain.uvStep ∧ domain.uvMin < domain.uvMax ∧
      domain.uvStep ∣ domain.uvMax - domain.uvMin ∧
      (domain.uvMax - domain.uvMin) / domain.uvStep < 256 ∧
      (∀ selector ≤ (domain.uvMax - domain.uvMin) / domain.uvStep,
        (.ofNat 8 selector &&& domain.voltMask : Byte) = .ofNat 8 selector) ∧
      domain.uvMax + 1000 < 2 ^ 32 := by decide +kernel
  obtain ⟨positive, ordered, whole, byte, masked, word⟩ := facts domain member
  exact ⟨positive, ordered, whole, byte, masked, word⟩

/-- The voltages of a converter, in microvolts. -/
def quantizer (domain : BuckConverterDomain) (regular : domain.Regular) : Quantizer where
  low := domain.uvMin
  high := domain.uvMax
  step := domain.uvStep
  positive := regular.positive
  ordered := Nat.le_of_lt regular.ordered
  whole := regular.whole

section

variable {domain : BuckConverterDomain} (regular : domain.Regular)

include regular

/-- The request is clamped and divided, but only after it was narrowed to 32 bits. -/
theorem mvOutToMultiplier_eq (mvolt : Nat) :
    domain.mvOutToMultiplier mvolt =
      .ofNat 8 ((domain.quantizer regular).selector (toU32 (mvolt * 1000))) := by
  have clamped : ∀ uvolt, (if domain.uvMax < (if uvolt < domain.uvMin then domain.uvMin else uvolt)
      then domain.uvMax else if uvolt < domain.uvMin then domain.uvMin else uvolt) =
        (domain.quantizer regular).clamp uvolt := by
    intro uvolt
    have ordered := regular.ordered
    simp only [Quantizer.clamp, quantizer]
    split <;> split <;> omega
  simp only [mvOutToMultiplier, clamped]
  rfl

theorem mvOutToMultiplier_toNat (mvolt : Nat) :
    (domain.mvOutToMultiplier mvolt).toNat =
      (domain.quantizer regular).selector (toU32 (mvolt * 1000)) := by
  have bound : (domain.quantizer regular).selector (toU32 (mvolt * 1000)) < 2 ^ 8 :=
    Nat.lt_of_le_of_lt (domain.quantizer regular).selector_le_last regular.byte
  rw [mvOutToMultiplier_eq regular, BitVec.toNat_ofNat, Nat.mod_eq_of_lt bound]

theorem multiplierToMvOut_eq {multiplier : Byte}
    (inside : multiplier.toNat ≤ (domain.quantizer regular).last) :
    domain.multiplierToMvOut multiplier =
      (domain.quantizer regular).level multiplier.toNat / 1000 := by
  have bound : domain.uvMin + domain.uvStep * multiplier.toNat ≤ domain.uvMax :=
    (domain.quantizer regular).level_le_high inside
  have word := regular.word
  unfold multiplierToMvOut toU32
  rw [Nat.mod_eq_of_lt (by omega), Nat.mod_eq_of_lt (by omega)]
  rfl

theorem mvOutToMultiplier_masked (mvolt : Nat) :
    domain.mvOutToMultiplier mvolt &&& domain.voltMask = domain.mvOutToMultiplier mvolt := by
  rw [mvOutToMultiplier_eq regular]
  exact regular.masked _ (domain.quantizer regular).selector_le_last

/-- What is set is what is read, whatever else the register holds. -/
theorem getMvOut_setMvOut (val : Byte) (mvolt : Nat) :
    domain.getMvOut (domain.setMvOut val mvolt) =
      domain.multiplierToMvOut (domain.mvOutToMultiplier mvolt) := by
  have kept : domain.setMvOut val mvolt &&& domain.voltMask = domain.mvOutToMultiplier mvolt := by
    rw [setMvOut, mvOutToMultiplier_masked regular, BitVec.and_or_distrib_right, BitVec.and_assoc,
      mvOutToMultiplier_masked regular]
    simp
  rw [getMvOut, kept]

theorem multiplierToMvOut_mvOutToMultiplier (mvolt : Nat) :
    domain.multiplierToMvOut (domain.mvOutToMultiplier mvolt) =
      (domain.quantizer regular).level
        ((domain.quantizer regular).selector (toU32 (mvolt * 1000))) / 1000 := by
  have selected := mvOutToMultiplier_toNat regular mvolt
  have inside : (domain.mvOutToMultiplier mvolt).toNat ≤ (domain.quantizer regular).last := by
    rw [selected]
    exact (domain.quantizer regular).selector_le_last
  rw [multiplierToMvOut_eq regular inside, selected]

theorem multiplierToMvOut_within (mvolt : Nat) :
    domain.uvMin / 1000 ≤ domain.multiplierToMvOut (domain.mvOutToMultiplier mvolt) ∧
      domain.multiplierToMvOut (domain.mvOutToMultiplier mvolt) ≤ domain.uvMax / 1000 := by
  rw [multiplierToMvOut_mvOutToMultiplier regular]
  exact ⟨Nat.div_le_div_right (domain.quantizer regular).low_le_level,
    Nat.div_le_div_right ((domain.quantizer regular).level_le_high
      (domain.quantizer regular).selector_le_last)⟩

theorem multiplierToMvOut_le {mvolt : Nat} (fits : mvolt * 1000 < 2 ^ 32)
    (reaches : domain.uvMin ≤ mvolt * 1000) :
    domain.multiplierToMvOut (domain.mvOutToMultiplier mvolt) ≤ mvolt := by
  have level : (domain.quantizer regular).level
      ((domain.quantizer regular).selector (mvolt * 1000)) ≤ mvolt * 1000 :=
    (domain.quantizer regular).level_selector_le reaches
  rw [multiplierToMvOut_mvOutToMultiplier regular, toU32, Nat.mod_eq_of_lt fits]
  omega

theorem multiplierToMvOut_of_le_low {mvolt : Nat} (below : mvolt * 1000 ≤ domain.uvMin) :
    domain.multiplierToMvOut (domain.mvOutToMultiplier mvolt) = domain.uvMin / 1000 := by
  have word := regular.word
  have ordered := regular.ordered
  rw [multiplierToMvOut_mvOutToMultiplier regular, toU32, Nat.mod_eq_of_lt (by omega),
    (domain.quantizer regular).selector_of_le_low below, Quantizer.level, Nat.mul_zero, Nat.add_zero]
  rfl

theorem multiplierToMvOut_again {selector : Byte}
    (inside : selector.toNat ≤ (domain.quantizer regular).last) :
    domain.multiplierToMvOut (domain.mvOutToMultiplier (domain.multiplierToMvOut selector)) ≤
      domain.multiplierToMvOut selector := by
  have word := regular.word
  have upper : (domain.quantizer regular).level selector.toNat ≤ domain.uvMax :=
    (domain.quantizer regular).level_le_high inside
  have lower : domain.uvMin ≤ (domain.quantizer regular).level selector.toNat :=
    (domain.quantizer regular).low_le_level
  have decoded := multiplierToMvOut_eq regular inside
  by_cases reaches : domain.uvMin ≤ domain.multiplierToMvOut selector * 1000
  · exact multiplierToMvOut_le regular (by omega) reaches
  · rw [multiplierToMvOut_of_le_low regular (by omega), decoded]
    exact Nat.div_le_div_right lower

/-- Requests of a higher voltage select no lower one, as long as they do not wrap or come to the
top. -/
theorem mvOutToMultiplier_mono_iff (mvolt : Nat) :
    (∀ lower ≤ mvolt, (domain.mvOutToMultiplier lower).toNat ≤
        (domain.mvOutToMultiplier mvolt).toNat) ↔
      mvolt * 1000 < 2 ^ 32 ∨ domain.uvMax ≤ toU32 (mvolt * 1000) := by
  have word := regular.word
  simp only [mvOutToMultiplier_toNat regular]
  constructor
  · intro monotone
    by_cases fits : mvolt * 1000 < 2 ^ 32
    · exact .inl fits
    · right
      have below : domain.uvMax / 1000 + 1 ≤ mvolt := by omega
      have top := monotone _ below
      have high : domain.uvMax ≤ toU32 ((domain.uvMax / 1000 + 1) * 1000) := by
        rw [toU32, Nat.mod_eq_of_lt (by omega)]
        omega
      rw [(domain.quantizer regular).selector_of_high_le high] at top
      exact (domain.quantizer regular).high_le_of_last_le_selector regular.ordered top
  · rintro (fits | top) lower below
    · have scaled : lower * 1000 ≤ mvolt * 1000 := Nat.mul_le_mul_right 1000 below
      rw [toU32, toU32, Nat.mod_eq_of_lt fits, Nat.mod_eq_of_lt (Nat.lt_of_le_of_lt scaled fits)]
      exact (domain.quantizer regular).selector_mono scaled
    · rw [(domain.quantizer regular).selector_of_high_le top]
      exact (domain.quantizer regular).selector_le_last

end

/-- No whole millivolt below the next voltage is a step away from this one. -/
theorem near_levels {domain : BuckConverterDomain} (member : domain ∈ all) {selector : Nat}
    (inside : selector ≤ (domain.uvMax - domain.uvMin) / domain.uvStep) :
    (domain.uvMin + domain.uvStep * (selector + 1) - 1) / 1000 * 1000 <
      (domain.uvMin + domain.uvStep * selector) / 1000 * 1000 + domain.uvStep := by
  have table : ∀ domain ∈ all, ∀ selector ≤ (domain.uvMax - domain.uvMin) / domain.uvStep,
      (domain.uvMin + domain.uvStep * (selector + 1) - 1) / 1000 * 1000 <
        (domain.uvMin + domain.uvStep * selector) / 1000 * 1000 + domain.uvStep := by
    decide +kernel
  exact table domain member selector inside

/-- What is wanted of a request, in millivolts; it reaches the range where it is at least the lowest
voltage rounded up. -/
structure SelectsSafely (domain : BuckConverterDomain) (mvolt : Nat) : Prop where
  masked : domain.mvOutToMultiplier mvolt &&& domain.voltMask = domain.mvOutToMultiplier mvolt
  monotone : ∀ lower ≤ mvolt,
    (domain.mvOutToMultiplier lower).toNat ≤ (domain.mvOutToMultiplier mvolt).toNat
  within : domain.uvMin / 1000 ≤ domain.multiplierToMvOut (domain.mvOutToMultiplier mvolt) ∧
    domain.multiplierToMvOut (domain.mvOutToMultiplier mvolt) ≤ domain.uvMax / 1000
  notAbove : domain.uvMin ≤ mvolt * 1000 →
    domain.multiplierToMvOut (domain.mvOutToMultiplier mvolt) ≤ mvolt
  near : domain.uvMin / 1000 ≤ mvolt → mvolt * 1000 ≤ domain.uvMax →
    mvolt * 1000 < domain.multiplierToMvOut (domain.mvOutToMultiplier mvolt) * 1000 + domain.uvStep

theorem multiplierToMvOut_near {domain : BuckConverterDomain} (member : domain ∈ all) {mvolt : Nat}
    (reaches : domain.uvMin / 1000 ≤ mvolt) (inRange : mvolt * 1000 ≤ domain.uvMax) :
    mvolt * 1000 <
      domain.multiplierToMvOut (domain.mvOutToMultiplier mvolt) * 1000 + domain.uvStep := by
  have regular := all_regular member
  have word := regular.word
  have fits : mvolt * 1000 < 2 ^ 32 := by omega
  have next : mvolt * 1000 < domain.uvMin + domain.uvStep *
      ((domain.quantizer regular).selector (mvolt * 1000) + 1) :=
    (domain.quantizer regular).lt_level_selector_succ inRange
  have inside : (domain.quantizer regular).selector (mvolt * 1000) ≤
      (domain.quantizer regular).last := (domain.quantizer regular).selector_le_last
  have near := near_levels member inside
  have whole : mvolt * 1000 ≤ (domain.uvMin + domain.uvStep *
      ((domain.quantizer regular).selector (mvolt * 1000) + 1) - 1) / 1000 * 1000 := by
    omega
  rw [multiplierToMvOut_mvOutToMultiplier regular, toU32, Nat.mod_eq_of_lt fits]
  exact Nat.lt_of_le_of_lt whole near

/-- A request that wraps is taken for a low one, unless what is left of it is above the range. -/
theorem selects_safely_iff {domain : BuckConverterDomain} (member : domain ∈ all) (mvolt : Nat) :
    (domain.SelectsSafely mvolt ↔
      mvolt * 1000 < 2 ^ 32 ∨ domain.uvMax ≤ toU32 (mvolt * 1000)) ∧
    ∀ selector : Byte, domain.uvMin + domain.uvStep * selector.toNat ≤ domain.uvMax →
      domain.multiplierToMvOut (domain.mvOutToMultiplier (domain.multiplierToMvOut selector)) ≤
        domain.multiplierToMvOut selector := by
  have regular := all_regular member
  have word := regular.word
  refine ⟨⟨fun safe => (mvOutToMultiplier_mono_iff regular mvolt).mp safe.monotone, ?_⟩, ?_⟩
  · intro kept
    refine ⟨mvOutToMultiplier_masked regular mvolt,
      (mvOutToMultiplier_mono_iff regular mvolt).mpr kept, multiplierToMvOut_within regular mvolt,
      ?_, multiplierToMvOut_near member⟩
    intro reaches
    by_cases fits : mvolt * 1000 < 2 ^ 32
    · exact multiplierToMvOut_le regular fits reaches
    · have within := (multiplierToMvOut_within regular mvolt).2
      omega
  · intro selector inRange
    exact multiplierToMvOut_again regular
      ((domain.quantizer regular).le_last_of_level_le_high inRange)

theorem selects_safely_iff_marikoGpu :
    marikoGpu ∈ all ∧ (marikoGpu.SelectsSafely 700 ↔
      700 * 1000 < 2 ^ 32 ∨ marikoGpu.uvMax ≤ toU32 (700 * 1000)) :=
  ⟨by decide, (selects_safely_iff (by decide) 700).1⟩

/-- A request of 4294968 mV is a multiple of 2^32 and 704 in microvolts. -/
theorem wrapped_request_selects_lowest :
    marikoGpu.multiplierToMvOut (marikoGpu.mvOutToMultiplier 4294968) = 250 ∧
      marikoGpu.multiplierToMvOut (marikoGpu.mvOutToMultiplier 4294967) = 1525 ∧
      ¬∀ domain ∈ all, ∀ mvolt < 2 ^ 32, domain.SelectsSafely mvolt := by
  refine ⟨by decide, by decide, fun safely => ?_⟩
  have monotone := (safely marikoGpu (by decide) 4294968 (by decide)).monotone 4294967 (by decide)
  exact absurd monotone (by decide)

end BuckConverterDomain

end HorizonOc.Sysmodule
