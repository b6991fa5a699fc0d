import Mathlib.Tactic.ByContra
import HorizonOc.Sysmodule.Display

namespace HorizonOc.Sysmodule

/-- The fields as the registers hold them, with a divider that is not zero. -/
structure PlldRegisters extends Plld where
  divnFits : divn < 2 ^ 8
  divmPositive : 0 < divm
  divmFits : divm < 2 ^ 8
  sdmDinFits : -2 ^ 15 ≤ sdmDin ∧ sdmDin < 2 ^ 15

/-- The result of a computation on `int`; none where it overflows. -/
def checkedInt (value : Int) : Option Int :=
  if -2 ^ 31 ≤ value ∧ value < 2 ^ 31 then some value else none

/-- What is multiplied by 9375 for the pixel clock. -/
def Plld.dividend (plld : Plld) : Int := (4096 * (2 * plld.divn + 1) : Nat) + plld.sdmDin

/-- What `_setPLLDHandheldRefreshRate` computes for the numerator before it goes to 16 bits. -/
def sdmNumerator (rate : Nat) : Int :=
  (8 * (dsiClockHz * rate / 60) / 9375 : Nat) - (4096 * (2 * (plldFor rate).divn + 1) : Nat)

theorem plldFor_sdmDin (rate : Nat) : (plldFor rate).sdmDin = (sdmNumerator rate).bmod (2 ^ 16) :=
  rfl

theorem sdmNumerator_fits {rate : Nat} (lower : 40 ≤ rate) (upper : rate ≤ 80) :
    -2 ^ 15 ≤ sdmNumerator rate ∧ sdmNumerator rate < 2 ^ 15 := by
  have table : ∀ rate ∈ List.range' 40 41,
      -2 ^ 15 ≤ sdmNumerator rate ∧ sdmNumerator rate < 2 ^ 15 := by decide
  exact table rate (List.mem_range'_1.mpr ⟨lower, by omega⟩)

theorem plldFor_fields {rate : Nat} (lower : 40 ≤ rate) (upper : rate ≤ 80) :
    (plldFor rate).divn < 2 ^ 8 ∧ (plldFor rate).divm = 1 := by
  have table : ∀ rate ∈ List.range' 40 41,
      (plldFor rate).divn < 2 ^ 8 ∧ (plldFor rate).divm = 1 := by decide
  exact table rate (List.mem_range'_1.mpr ⟨lower, by omega⟩)

def PlldRegisters.forRate (rate : Nat) (lower : 40 ≤ rate) (upper : rate ≤ 80) : PlldRegisters :=
  { plldFor rate with
    divnFits := (plldFor_fields lower upper).1
    divmPositive := Nat.one_pos
    divmFits := Nat.one_lt_two_pow (by decide)
    sdmDinFits := by
      rw [plldFor_sdmDin]
      have least := Int.le_bmod (x := sdmNumerator rate) (m := 2 ^ 16) (by decide)
      have most := Int.bmod_lt (x := sdmNumerator rate) (m := 2 ^ 16) (by decide)
      exact ⟨least, most⟩ }

/-- `refreshRateNow`, from a product that did not overflow. -/
def Plld.refreshRateNow (plld : Plld) (product : Int) : Nat :=
  let pixelClock := (product.tdiv (8 * plld.divm) % 2 ^ 32).toNat
  pixelClock / (dsiClockHz / 60) % 2 ^ 16

/-- `_setPLLDHandheldRefreshRate` with registers that are mapped; none where a computation on `int`
overflows. -/
def setPlldHandheldRefreshRate (panelAnswers : Bool) (plld : PlldRegisters) (newRefreshRate : Nat) :
    Option (Bool × PlldRegisters) :=
  if !panelAnswers then some (false, plld)
  else if plld.readsDocked then some (false, plld)
  else do
    let rate := handheldRate 4 newRefreshRate
    let product ← checkedInt (9375 * plld.dividend)
    if plld.refreshRateNow product = rate then some (true, plld)
    else
      have bounds := handheldRate_bounds 4 newRefreshRate
      some (true, .forRate rate bounds.1 bounds.2)

/-- What `GetRate` works on: the registers, the static `value`, and how the display's devices answer. -/
structure DisplayState where
  display : Display
  isPossiblySpoofedRetro : Bool
  value : Nat
  plld : PlldRegisters
  /-- The rate of the mode of `disp0`; none where it cannot be opened. -/
  internalRate : Option Nat
  /-- The rate of the mode of `disp1`; none where `GetRate` gives up on it. -/
  externalRate : Option Nat

/-- The rate that `GetRate` computes from the registers, in 64 bits without a sign. -/
def Plld.readRate (plld : Plld) : Nat :=
  let product := 9375 * (plld.dividend % 2 ^ 64).toNat % 2 ^ 64
  toU32 (product / (8 * plld.divm)) / (dsiClockHz / 60)

/-- `GetRate`: the rate that is reported, none where it fails, and the state that it leaves. -/
def getRate (state : DisplayState) : Option Nat × DisplayState :=
  let display := state.display
  if display.isRetroSUPER ∧ ¬display.isDocked then
    if state.plld.readsDocked then
      (some state.plld.value, { state with value := state.plld.value })
    else
      match state.internalRate with
      | none => (none, { state with value := state.plld.value })
      | some rate => (some rate, { state with value := rate })
  else if ¬state.isPossiblySpoofedRetro ∨ ¬display.isRetroSUPER then
    if state.plld.readsDocked then
      if display.isLite then (none, { state with value := state.plld.value })
      else
        let docked := { state with display := { display with isDocked := true } }
        match state.externalRate with
        | none => (none, { docked with value := state.plld.value })
        | some rate => (some rate, { docked with value := rate })
    else if ¬display.isRetroSUPER then
      let rate := state.plld.readRate
      (some rate, { state with display := { display with isDocked := false }, value := rate })
    else (none, { state with value := state.plld.value })
  else (some state.value, state)

theorem pixelClock_le {divm dividend : Nat} (divisor : 0 < divm) (fits : 9375 * dividend < 2 ^ 31) :
    9375 * dividend / (8 * divm) < 2 ^ 28 := by
  have smaller : 9375 * dividend / (8 * divm) ≤ 9375 * dividend / 8 :=
    Nat.div_le_div_left (Nat.le_mul_of_pos_right 8 divisor) (by decide)
  omega

section

variable (plld : PlldRegisters)

theorem Plld.refreshRateNow_eq {dividend : Nat} (same : plld.dividend = dividend)
    (fits : 9375 * plld.dividend < 2 ^ 31) : plld.refreshRateNow (9375 * plld.dividend) =
      9375 * dividend / (8 * plld.divm) / (dsiClockHz / 60) := by
  have small := pixelClock_le plld.divmPositive (show 9375 * dividend < 2 ^ 31 by omega)
  have quotient : (9375 * plld.dividend).tdiv (8 * plld.divm) =
      (9375 * dividend / (8 * plld.divm) : Nat) := by
    rw [same]
    exact Int.ofNat_tdiv (9375 * dividend) (8 * plld.divm)
  unfold Plld.refreshRateNow
  rw [quotient]
  generalize 9375 * dividend / (8 * plld.divm) = pixelClock at small ⊢
  have clock : ((pixelClock : Int) % 2 ^ 32).toNat = pixelClock := by omega
  have rate : pixelClock / (dsiClockHz / 60) < 2 ^ 16 := by
    rw [dsiClockHz]
    omega
  rw [clock, Nat.mod_eq_of_lt rate]

/-- Both functions read a product that does not overflow the same way. -/
theorem Plld.readRate_eq (positive : 0 ≤ plld.dividend) (fits : 9375 * plld.dividend < 2 ^ 31) :
    plld.readRate = plld.refreshRateNow (9375 * plld.dividend) := by
  obtain ⟨dividend, same⟩ := Int.eq_ofNat_of_zero_le positive
  have small := pixelClock_le plld.divmPositive (show 9375 * dividend < 2 ^ 31 by omega)
  have product : 9375 * (plld.dividend % 2 ^ 64).toNat % 2 ^ 64 = 9375 * dividend := by omega
  have word : toU32 (9375 * dividend / (8 * plld.divm)) = 9375 * dividend / (8 * plld.divm) :=
    Nat.mod_eq_of_lt (by omega)
  rw [Plld.refreshRateNow_eq plld same fits]
  simp only [Plld.readRate, product, word]

/-- Such a product is of a rate of at most 68. -/
theorem Plld.refreshRateNow_le (positive : 0 ≤ plld.dividend)
    (fits : 9375 * plld.dividend < 2 ^ 31) : plld.refreshRateNow (9375 * plld.dividend) ≤ 68 := by
  obtain ⟨dividend, same⟩ := Int.eq_ofNat_of_zero_le positive
  have small := pixelClock_le plld.divmPositive (show 9375 * dividend < 2 ^ 31 by omega)
  rw [Plld.refreshRateNow_eq plld same fits, dsiClockHz]
  omega

theorem Plld.divn_positive (handheld : plld.readsDocked = false) : 0 < plld.divn := by
  refine Nat.pos_of_ne_zero fun zero => ?_
  simp [Plld.readsDocked, Plld.value, zero] at handheld

/-- A negative product is of no rate in range. -/
theorem Plld.refreshRateNow_negative (handheld : plld.readsDocked = false)
    (negative : plld.dividend < 0) {rate : Nat} (lower : 40 ≤ rate) (upper : rate ≤ 80) :
    plld.refreshRateNow (9375 * plld.dividend) ≠ rate := by
  have positive := Plld.divn_positive plld handheld
  obtain ⟨size, same⟩ := Int.eq_ofNat_of_zero_le (show 0 ≤ -plld.dividend by omega)
  have bound : size ≤ 20480 := by
    have numerator := plld.sdmDinFits
    unfold Plld.dividend at same
    omega
  have quotient : (9375 * plld.dividend).tdiv (8 * plld.divm) =
      -((9375 * size / (8 * plld.divm) : Nat) : Int) := by
    have negated : 9375 * plld.dividend = -((9375 * size : Nat) : Int) := by omega
    rw [negated, Int.neg_tdiv]
    exact congrArg Neg.neg (Int.ofNat_tdiv (9375 * size) (8 * plld.divm))
  have small : 9375 * size / (8 * plld.divm) ≤ 24000000 := by
    have smaller : 9375 * size / (8 * plld.divm) ≤ 9375 * size / 8 :=
      Nat.div_le_div_left (Nat.le_mul_of_pos_right 8 plld.divmPositive) (by decide)
    omega
  unfold Plld.refreshRateNow
  rw [quotient]
  generalize 9375 * size / (8 * plld.divm) = below at small ⊢
  have unit : dsiClockHz / 60 = 3900000 := rfl
  dsimp only
  rw [unit]
  omega

end

theorem checkedInt_product (plld : PlldRegisters) :
    checkedInt (9375 * plld.dividend) =
      if 9375 * plld.dividend < 2 ^ 31 then some (9375 * plld.dividend) else none := by
  have lower : -2 ^ 31 ≤ 9375 * plld.dividend := by
    have numerator := plld.sdmDinFits
    unfold Plld.dividend
    omega
  simp only [checkedInt, lower, true_and]

/-- The registers after a call that succeeds. -/
def PlldRegisters.programmed (plld : PlldRegisters) (newRefreshRate : Nat) : PlldRegisters :=
  if plld.refreshRateNow (9375 * plld.dividend) = handheldRate 4 newRefreshRate then plld
  else .forRate _ (handheldRate_bounds 4 newRefreshRate).1 (handheldRate_bounds 4 newRefreshRate).2

theorem setPlldHandheldRefreshRate_handheld {plld : PlldRegisters}
    (handheld : plld.readsDocked = false) (newRefreshRate : Nat) :
    setPlldHandheldRefreshRate true plld newRefreshRate =
      if 9375 * plld.dividend < 2 ^ 31 then some (true, plld.programmed newRefreshRate) else none := by
  simp only [setPlldHandheldRefreshRate, handheld, checkedInt_product, PlldRegisters.programmed,
    Bool.not_true, Bool.false_eq_true, if_false]
  by_cases fits : 9375 * plld.dividend < 2 ^ 31
  · simp only [if_pos fits, Option.bind_eq_bind, Option.bind_some]
    split <;> rfl
  · simp only [if_neg fits, Option.bind_eq_bind, Option.bind_none]

theorem setPlldHandheldRefreshRate_docked {plld : PlldRegisters}
    (docked : plld.readsDocked = true) (newRefreshRate : Nat) :
    setPlldHandheldRefreshRate true plld newRefreshRate = some (false, plld) := by
  simp [setPlldHandheldRefreshRate, docked]

theorem setPlldHandheldRefreshRate_succeeded {plld later : PlldRegisters} {newRefreshRate : Nat}
    (succeeded : setPlldHandheldRefreshRate true plld newRefreshRate = some (true, later)) :
    plld.readsDocked = false ∧ 9375 * plld.dividend < 2 ^ 31 ∧
      later = plld.programmed newRefreshRate := by
  cases handheld : plld.readsDocked with
  | true =>
      rw [setPlldHandheldRefreshRate_docked handheld] at succeeded
      simp at succeeded
  | false =>
      rw [setPlldHandheldRefreshRate_handheld handheld] at succeeded
      split at succeeded
      · rename_i fits
        cases succeeded
        exact ⟨rfl, fits, rfl⟩
      · contradiction

/-- Up to 68 the registers that are written can be read again. -/
theorem plldFor_low {rate : Nat} (lower : 40 ≤ rate) (upper : rate ≤ 68) :
    (plldFor rate).readsDocked = false ∧ 9375 * (plldFor rate).dividend < 2 ^ 31 ∧
      (plldFor rate).readRate = rate := by
  have table : ∀ rate ∈ List.range' 40 29, (plldFor rate).readsDocked = false ∧
      9375 * (plldFor rate).dividend < 2 ^ 31 ∧ (plldFor rate).readRate = rate := by decide
  exact table rate (List.mem_range'_1.mpr ⟨lower, by omega⟩)

/-- From 69 on they are taken for a dock, or the next call overflows on them. -/
theorem plldFor_high {rate : Nat} (lower : 69 ≤ rate) (upper : rate ≤ 80) :
    (plldFor rate).readsDocked = true ∨ ¬9375 * (plldFor rate).dividend < 2 ^ 31 := by
  have table : ∀ rate ∈ List.range' 69 12, (plldFor rate).readsDocked = true ∨
      ¬9375 * (plldFor rate).dividend < 2 ^ 31 := by decide
  exact table rate (List.mem_range'_1.mpr ⟨lower, by omega⟩)

/-- After a call for a rate up to 68, the registers can be read and written again. -/
theorem PlldRegisters.programmed_low {plld : PlldRegisters} (handheld : plld.readsDocked = false)
    (fits : 9375 * plld.dividend < 2 ^ 31) {rate : Nat} (low : handheldRate 4 rate ≤ 68) :
    (plld.programmed rate).readsDocked = false ∧
      9375 * (plld.programmed rate).dividend < 2 ^ 31 ∧
      (plld.programmed rate).readRate = handheldRate 4 rate := by
  have bounds := handheldRate_bounds 4 rate
  unfold programmed
  split
  · rename_i same
    have positive : 0 ≤ plld.dividend := by
      by_contra negative
      exact Plld.refreshRateNow_negative plld handheld (by omega) bounds.1 bounds.2 same
    exact ⟨handheld, fits, (Plld.readRate_eq plld positive fits).trans same⟩
  · exact plldFor_low bounds.1 low

/-- After a call for a higher rate, the next one fails or overflows. -/
theorem PlldRegisters.programmed_high {plld : PlldRegisters} (handheld : plld.readsDocked = false)
    (fits : 9375 * plld.dividend < 2 ^ 31) {rate : Nat} (high : 69 ≤ handheldRate 4 rate) :
    (plld.programmed rate).readsDocked = true ∨
      ¬9375 * (plld.programmed rate).dividend < 2 ^ 31 := by
  have bounds := handheldRate_bounds 4 rate
  unfold programmed
  split
  · rename_i same
    have positive : 0 ≤ plld.dividend := by
      by_contra negative
      exact Plld.refreshRateNow_negative plld handheld (by omega) bounds.1 bounds.2 same
    have low := Plld.refreshRateNow_le plld positive fits
    omega
  · exact plldFor_high high bounds.2

/-- `SetRate` on its way through the PLL programmed a rate: the rate in range reads back without a
dock, and the function can be called again. -/
structure ReadsBack (state : DisplayState) (rate : Nat) : Prop where
  numerator : -2 ^ 15 ≤ sdmNumerator (handheldRate 4 rate) ∧
    sdmNumerator (handheldRate 4 rate) < 2 ^ 15
  programmed : ∃ plld, setPlldHandheldRefreshRate true state.plld rate = some (true, plld) ∧
    (getRate { state with plld }).1 = some (handheldRate 4 rate) ∧
    (getRate { state with plld }).2.display.isDocked = false ∧
    ∀ other, ∃ later, setPlldHandheldRefreshRate true plld other = some (true, later)

/-- With RetroSUPER the way through the PLL is taken only at a dock. -/
theorem Display.path_retro {display : Display} (path : display.path = some .plldHandheld)
    (retro : display.isRetroSUPER = true) : display.isDocked = true := by
  by_contra undocked
  simp [Display.path, retro, undocked] at path

theorem getRate_handheld (state : DisplayState) (plain : state.display.isRetroSUPER = false)
    (handheld : state.plld.readsDocked = false) :
    (getRate state).1 = some state.plld.readRate ∧
      (getRate state).2.display.isDocked = false := by
  simp [getRate, plain, handheld]

theorem getRate_retro (state : DisplayState) (retro : state.display.isRetroSUPER = true)
    (docked : state.display.isDocked = true) (handheld : state.plld.readsDocked = false) :
    (getRate state).1 = none ∨ (getRate state).2.display.isDocked = true := by
  cases spoofed : state.isPossiblySpoofedRetro with
  | true => exact .inr (by simp [getRate, retro, docked, spoofed])
  | false => exact .inl (by simp [getRate, retro, docked, handheld, spoofed])

/-- A rate reads back, and another can be programmed, exactly without RetroSUPER, from registers
whose product does not overflow, and for a rate in range of at most 68. -/
theorem plld_reads_back_iff {state : DisplayState} (rate : Nat)
    (path : state.display.path = some .plldHandheld) (handheld : state.plld.readsDocked = false) :
    ReadsBack state rate ↔ state.display.isRetroSUPER = false ∧
      9375 * state.plld.dividend < 2 ^ 31 ∧ handheldRate 4 rate ≤ 68 := by
  have bounds := handheldRate_bounds 4 rate
  constructor
  · rintro ⟨-, plld, programmed, reported, undocked, again⟩
    obtain ⟨-, fits, rfl⟩ := setPlldHandheldRefreshRate_succeeded programmed
    obtain ⟨later, succeeded⟩ := again 60
    obtain ⟨stays, multiplies, -⟩ := setPlldHandheldRefreshRate_succeeded succeeded
    refine ⟨?_, fits, ?_⟩
    · by_contra retro
      have isRetro : state.display.isRetroSUPER = true := by simpa using retro
      rcases getRate_retro { state with plld := state.plld.programmed rate } isRetro
        (Display.path_retro path isRetro) stays with fails | docked
      · rw [fails] at reported
        contradiction
      · rw [docked] at undocked
        contradiction
    · by_contra high
      have above : 69 ≤ handheldRate 4 rate := by omega
      rcases PlldRegisters.programmed_high handheld fits above with docked | overflows
      · rw [stays] at docked
        contradiction
      · exact overflows multiplies
  · rintro ⟨plain, fits, low⟩
    obtain ⟨stays, multiplies, reads⟩ := PlldRegisters.programmed_low handheld fits low
    obtain ⟨reported, undocked⟩ :=
      getRate_handheld { state with plld := state.plld.programmed rate } plain stays
    refine ⟨sdmNumerator_fits bounds.1 bounds.2, state.plld.programmed rate, ?_, ?_, undocked, ?_⟩
    · rw [setPlldHandheldRefreshRate_handheld handheld, if_pos fits]
    · rw [reported, reads]
    · intro other
      exact ⟨_, by rw [setPlldHandheldRefreshRate_handheld stays, if_pos multiplies]⟩

/-- A console in handheld mode at 60 Hz. -/
def handheldSample : DisplayState :=
  { display := handheldDisplay
    isPossiblySpoofedRetro := false
    value := 60
    plld := .forRate 60 (by decide) (by decide)
    internalRate := none
    externalRate := none }

theorem plld_reads_back_iff_sample : ReadsBack handheldSample 50 :=
  (plld_reads_back_iff 50 (by decide) (by decide)).mpr (by decide)

/-- The registers for 75 Hz overflow in the next call. -/
theorem plld_overflows_after_75 : ¬ReadsBack handheldSample 75 := by
  rintro ⟨-, plld, programmed, -, -, again⟩
  obtain ⟨-, -, rfl⟩ := setPlldHandheldRefreshRate_succeeded programmed
  obtain ⟨later, succeeded⟩ := again 60
  have fits := (setPlldHandheldRefreshRate_succeeded succeeded).2.1
  exact absurd fits (by decide)

end HorizonOc.Sysmodule
