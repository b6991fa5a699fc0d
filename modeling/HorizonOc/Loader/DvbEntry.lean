import Mathlib.Order.MinMax
import Mathlib.Data.Int.Order.Basic
import HorizonOc.Data.Audited
import HorizonOc.Data.Staircase
import HorizonOc.Loader.AutoVoltages

namespace HorizonOc.Loader.Mariko

open HorizonOc.Data

abbrev Volts := Int × Int × Int

/-- `DVB_VOLT` for one voltage: the unsigned product, its conversion to `int32_t` and the sum. -/
def shiftedVolt (shift : Word) (base cap : Int) : Arithmetic Int := do
  let product ← Arithmetic.unsigned 32 (25 * shift.toNat)
  let voltAdd ← Arithmetic.narrow 32 product
  let raised ← Arithmetic.signed 32 (base + voltAdd)
  pure (min raised cap)

def shiftedVolts (shift : Word) (zero one two : Int) : Arithmetic Volts := do
  let zero ← shiftedVolt shift zero 1050
  let one ← shiftedVolt shift one 1025
  let two ← shiftedVolt shift two 1000
  pure (zero, one, two)

def dvbThresholds : List Nat := [1862400, 2131200, 2400000, 2665600, 2931200, 3200000]

/-- The voltages for a clock; the first are those of the stock entry. -/
def dvbVolts (shift : Word) (clock : Nat) : Arithmetic Volts :=
  staircase (fun threshold => clock < threshold) dvbThresholds
    [pure (675, 650, 637), pure (700, 675, 650), pure (725, 700, 675),
     shiftedVolts shift 750 725 700, shiftedVolts shift 775 750 725, shiftedVolts shift 800 775 750]
    (shiftedVolts shift 800 800 775)

/-- Voltages without a wrap that stay between the stock entry's and the caps. -/
structure SaneVolts (volts : Arithmetic Volts) : Prop where
  exact : volts.Faultless
  low : (675, 650, 637) ≤ volts.value
  high : volts.value ≤ (1050, 1025, 1000)

/-- The highest voltage of a tier before the shift. -/
def dvbBase (clock : Nat) : Nat :=
  if clock < 2665600 then 750 else if clock < 2931200 then 775 else 800

section

variable {shift : Word} {base cap zero one two : Int} {clock : Nat}

theorem shiftedVolt_faultless (positive : 0 ≤ base) :
    (shiftedVolt shift base cap).Faultless ↔ 25 * shift.toNat + base < 2 ^ 31 := by
  simp only [shiftedVolt, Audited.faultless_bind, Arithmetic.faultless_unsigned,
    Arithmetic.faultless_narrow, Arithmetic.faultless_signed, Audited.faultless_pure, and_true]
  constructor
  · rintro ⟨product, converted, raised⟩
    rw [Arithmetic.unsigned_of_fits product, Audited.value_pure] at converted raised
    rw [Arithmetic.narrow_of_fits converted, Audited.value_pure] at raised
    have limit := raised.2
    omega
  · intro small
    have product : FitsUnsigned 32 (25 * shift.toNat) := ⟨by omega, by omega⟩
    have converted : FitsSigned 32 (25 * shift.toNat) := ⟨by omega, by omega⟩
    rw [Arithmetic.unsigned_of_fits product, Audited.value_pure,
      Arithmetic.narrow_of_fits converted, Audited.value_pure]
    exact ⟨product, converted, by omega, by omega⟩

theorem shiftedVolt_value (small : 25 * shift.toNat + base < 2 ^ 31) (positive : 0 ≤ base) :
    (shiftedVolt shift base cap).value = min (25 * shift.toNat + base) cap := by
  have product : FitsUnsigned 32 (25 * shift.toNat) := ⟨by omega, by omega⟩
  have converted : FitsSigned 32 (25 * shift.toNat) := ⟨by omega, by omega⟩
  have raised : FitsSigned 32 (base + 25 * shift.toNat) := ⟨by omega, by omega⟩
  rw [shiftedVolt, Arithmetic.unsigned_bind product, Arithmetic.narrow_bind converted,
    Arithmetic.signed_bind raised, Audited.value_pure, Int.add_comm]

theorem shiftedVolts_value : (shiftedVolts shift zero one two).value =
    ((shiftedVolt shift zero 1050).value, (shiftedVolt shift one 1025).value,
      (shiftedVolt shift two 1000).value) := rfl

theorem shiftedVolts_sane_iff (low : (675, 650, 637) ≤ (zero, one, two))
    (leading : one ≤ zero ∧ two ≤ zero) :
    SaneVolts (shiftedVolts shift zero one two) ↔ 25 * shift.toNat + zero < 2 ^ 31 := by
  obtain ⟨lowZero, lowOne, lowTwo⟩ : 675 ≤ zero ∧ 650 ≤ one ∧ 637 ≤ two := low
  have faultless : (shiftedVolts shift zero one two).Faultless ↔
      25 * shift.toNat + zero < 2 ^ 31 := by
    simp only [shiftedVolts, Audited.faultless_bind, Audited.faultless_pure, and_true,
      shiftedVolt_faultless (show 0 ≤ zero by omega), shiftedVolt_faultless (show 0 ≤ one by omega),
      shiftedVolt_faultless (show 0 ≤ two by omega)]
    omega
  constructor
  · intro sane
    exact faultless.mp sane.exact
  · intro small
    have value : (shiftedVolts shift zero one two).value =
        (min (25 * shift.toNat + zero) 1050, min (25 * shift.toNat + one) 1025,
          min (25 * shift.toNat + two) 1000) := by
      rw [shiftedVolts_value, shiftedVolt_value small (by omega),
        shiftedVolt_value (by omega) (by omega), shiftedVolt_value (by omega) (by omega)]
    refine ⟨faultless.mpr small, ?_, ?_⟩
    · rw [value, Prod.mk_le_mk, Prod.mk_le_mk]
      omega
    · rw [value, Prod.mk_le_mk, Prod.mk_le_mk]
      omega

theorem saneVolts_pure {volts : Volts} (low : (675, 650, 637) ≤ volts)
    (high : volts ≤ (1050, 1025, 1000)) : SaneVolts (pure volts) :=
  ⟨(Audited.faultless_pure volts).mpr trivial, low, high⟩

theorem dvbVolts_sane_iff :
    SaneVolts (dvbVolts shift clock) ↔
      clock < 2400000 ∨ 25 * shift.toNat + dvbBase clock < 2 ^ 31 := by
  simp only [dvbVolts, staircase, dvbThresholds, List.map_cons, List.map_nil, firstHolding_cons,
    firstHolding_nil, decide_eq_true_eq, dvbBase]
  split
  · exact iff_of_true (saneVolts_pure (by decide) (by decide)) (by omega)
  split
  · exact iff_of_true (saneVolts_pure (by decide) (by decide)) (by omega)
  split
  · exact iff_of_true (saneVolts_pure (by decide) (by decide)) (by omega)
  split
  · rw [shiftedVolts_sane_iff (by decide) (by decide)]
    omega
  split
  · rw [shiftedVolts_sane_iff (by decide) (by decide)]
    omega
  · split <;>
      rw [shiftedVolts_sane_iff (by decide) (by decide)] <;> omega

theorem voltAdd_toInt :
    (25 * shift : Word).toInt = (25 * (shift.toNat : Int) % 2 ^ 32).bmod (2 ^ 32) := by
  rw [BitVec.toInt_eq_toNat_bmod, BitVec.toNat_mul, Int.natCast_emod, Int.natCast_mul,
    show (25 : Word).toNat = 25 from rfl, Int.natCast_pow]
  rfl

theorem shiftedVolt_value_eq : (shiftedVolt shift base cap).value =
    min ((base + (25 * shift).toInt).bmod (2 ^ 32)) cap := by
  rw [voltAdd_toInt]
  simp only [shiftedVolt, Arithmetic.unsigned, Arithmetic.narrow, Arithmetic.signed,
    Audited.value_bind, Audited.value_pure]

theorem shiftedVolts_value_eq : (shiftedVolts shift zero one two).value =
    (min ((zero + (25 * shift).toInt).bmod (2 ^ 32)) 1050,
      min ((one + (25 * shift).toInt).bmod (2 ^ 32)) 1025,
      min ((two + (25 * shift).toInt).bmod (2 ^ 32)) 1000) := by
  rw [shiftedVolts_value, shiftedVolt_value_eq, shiftedVolt_value_eq, shiftedVolt_value_eq]

theorem dvbVolts_value : (dvbVolts shift clock).value =
    staircase (fun threshold => clock < threshold) dvbThresholds
      [(675, 650, 637), (700, 675, 650), (725, 700, 675), (shiftedVolts shift 750 725 700).value,
       (shiftedVolts shift 775 750 725).value, (shiftedVolts shift 800 775 750).value]
      (shiftedVolts shift 800 800 775).value :=
  staircase_map Audited.value

/-- A shift that never leads below the tier before it. -/
def RisingShift (shift : Word) : Prop :=
  -25 ≤ (25 * shift).toInt ∧ (25 * shift).toInt + 800 < 2 ^ 31

instance (shift : Word) : Decidable (RisingShift shift) := inferInstanceAs (Decidable (_ ∧ _))

theorem bmod_word {value : Int} (low : -2 ^ 31 ≤ value) (high : value < 2 ^ 31) :
    value.bmod (2 ^ 32) = value :=
  Arithmetic.bmod_of_fits ⟨by omega, by omega⟩

theorem shiftedVolts_rising (rising : RisingShift shift) (low : (25, 25, 25) ≤ (zero, one, two))
    (high : (zero, one, two) ≤ (800, 800, 800)) :
    (shiftedVolts shift zero one two).value =
      (min (zero + (25 * shift).toInt) 1050, min (one + (25 * shift).toInt) 1025,
        min (two + (25 * shift).toInt) 1000) := by
  obtain ⟨shiftLow, shiftHigh⟩ := rising
  obtain ⟨lowZero, lowOne, lowTwo⟩ : 25 ≤ zero ∧ 25 ≤ one ∧ 25 ≤ two := low
  obtain ⟨highZero, highOne, highTwo⟩ : zero ≤ 800 ∧ one ≤ 800 ∧ two ≤ 800 := high
  rw [shiftedVolts_value_eq, bmod_word (by omega) (by omega), bmod_word (by omega) (by omega),
    bmod_word (by omega) (by omega)]

theorem shiftedVolts_mono (rising : RisingShift shift) {otherZero otherOne otherTwo : Int}
    (low : (25, 25, 25) ≤ (zero, one, two))
    (le : (zero, one, two) ≤ (otherZero, otherOne, otherTwo))
    (high : (otherZero, otherOne, otherTwo) ≤ (800, 800, 800)) :
    (shiftedVolts shift zero one two).value ≤
      (shiftedVolts shift otherZero otherOne otherTwo).value := by
  rw [shiftedVolts_rising rising low (le_trans le high),
    shiftedVolts_rising rising (le_trans low le) high]
  exact ⟨min_le_min_right 1050 (Int.add_le_add_right le.1 _),
    min_le_min_right 1025 (Int.add_le_add_right le.2.1 _),
    min_le_min_right 1000 (Int.add_le_add_right le.2.2 _)⟩

theorem unshifted_le (rising : RisingShift shift) :
    (725, 700, 675) ≤ (shiftedVolts shift 750 725 700).value := by
  rw [shiftedVolts_rising rising (by decide) (by decide)]
  have low := rising.1
  exact ⟨by dsimp only; omega, by dsimp only; omega, by dsimp only; omega⟩

theorem dvbVolts_mono (rising : RisingShift shift) {higher : Nat} (le : clock ≤ higher) :
    (dvbVolts shift clock).value ≤ (dvbVolts shift higher).value := by
  rw [dvbVolts_value, dvbVolts_value]
  apply staircase_mono
  · rw [← List.isChain_iff_pairwise]
    simp only [List.cons_append, List.nil_append, List.isChain_cons_cons]
    exact ⟨by decide, by decide, unshifted_le rising,
      shiftedVolts_mono rising (by decide) (by decide) (by decide),
      shiftedVolts_mono rising (by decide) (by decide) (by decide),
      shiftedVolts_mono rising (by decide) (by decide) (by decide), .singleton _⟩
  · intro threshold covered
    exact decide_eq_true (Nat.lt_of_le_of_lt le (of_decide_eq_true covered))

theorem rising_of_steps
    (first : (dvbVolts shift 2131200).value ≤ (dvbVolts shift 2400000).value)
    (last : (dvbVolts shift 2131200).value ≤ (dvbVolts shift 3200000).value) :
    RisingShift shift := by
  -- 2131200 is in the last tier without a shift, 2400000 in the first with one
  have below : (dvbVolts shift 2131200).value = (725, 700, 675) := rfl
  have above : (dvbVolts shift 2400000).value = (shiftedVolts shift 750 725 700).value := rfl
  have top : (dvbVolts shift 3200000).value = (shiftedVolts shift 800 800 775).value := rfl
  rw [below, above, shiftedVolts_value_eq, Prod.mk_le_mk] at first
  rw [below, top, shiftedVolts_value_eq, Prod.mk_le_mk] at last
  have low := BitVec.le_toInt (25 * shift)
  have high := BitVec.toInt_lt (x := 25 * shift)
  have firstStep := first.1
  have lastStep := last.1
  rw [Int.bmod_def] at firstStep lastStep
  unfold RisingShift
  omega

end

def StockDvbTable (store : Image) (ptr : Int) : Prop :=
  MatchesAt store (ptr + dvbEntryWords)
    (fieldsFrom (-(emcDvbTableDefault.length : Int)) emcDvbTableDefault)

instance (store : Image) (ptr : Int) : Decidable (StockDvbTable store ptr) :=
  inferInstanceAs (Decidable (MatchesAt _ _ _))

def entryFreq (entry : Nat → Word) : Nat := (entry 0).toNat + 2 ^ 32 * (entry 1).toNat

def entryVolts (entry : Nat → Word) : Volts := ((entry 2).toInt, (entry 3).toInt, (entry 4).toInt)

/-- The voltages that are added, which without an entry are the stock ones. -/
def addedVolts : Option (Word × List Word) → List Word
  | none => [675, 650, 637]
  | some (_, volts) => volts

def addedDvbEntry (custom : CustomizeTable) : Nat → Word :=
  fun offset => ([custom.marikoEmcMaxClock, 0] ++ addedVolts (dvbEntry custom)).getD offset 0

section

variable {custom : CustomizeTable} {ptr : Int} {store : Image}

theorem stockEntry (stock : StockDvbTable store ptr) {offset : Nat}
    (inside : offset < dvbEntryWords) :
    store.word (ptr + offset) = ([1600000, 0, 675, 650, 637] : List Word).getD offset 0 := by
  unfold dvbEntryWords at inside
  have word := fieldsFrom_matches.mp stock (30 + offset) (show 30 + offset < 36 by omega)
  rw [show ptr + dvbEntryWords + -(emcDvbTableDefault.length : Int) + (30 + offset : Nat) =
    ptr + offset by simp [dvbEntryWords, emcDvbTableDefault]; omega] at word
  rw [word]
  clear word
  revert offset
  decide

theorem memFreqDvbTable_run (stock : StockDvbTable store ptr)
    (above : emcClkOSLimit < custom.marikoEmcMaxClock) :
    Tracked.run (memFreqDvbTable custom ptr) store =
      (.ok ⟨⟩, { store with
        word := writeBlock store.word (ptr + dvbEntryWords) dvbEntryWords
          (addedDvbEntry custom) }) := by
  have compared := (comparePattern_compares (ptr + dvbEntryWords)
    (-(emcDvbTableDefault.length : Int)) emcDvbTableDefault).run store
  have added : ∃ first : Nat → Word, Tracked.run (addDvbEntry custom ptr) store =
      (.ok ⟨⟩, { store with
        word := writeBlock store.word (ptr + dvbEntryWords) dvbEntryWords first }) ∧
      ∀ offset, 2 ≤ offset → offset < dvbEntryWords →
        first offset = addedDvbEntry custom offset := by
    unfold addDvbEntry addedDvbEntry
    cases dvbEntry custom with
    | none =>
        refine ⟨_, Tracked.run_copyBlock _ _ _, fun offset low inside => ?_⟩
        rw [block, stockEntry stock inside]
        obtain ⟨rest, rfl⟩ := Nat.exists_eq_add_of_le' low
        rfl
    | some entry =>
        refine ⟨_, Tracked.run_writeBlock _ _ _, fun offset low _ => ?_⟩
        obtain ⟨rest, rfl⟩ := Nat.exists_eq_add_of_le' low
        rfl
  obtain ⟨first, run, volts⟩ := added
  rw [memFreqDvbTable, Tracked.run_bind_of_ok compared, Tracked.run_require_bind,
    if_pos (decide_eq_true (p := MatchesAt store _ _) stock), if_neg (BitVec.not_le.mpr above),
    Tracked.run_bind_of_ok run, Tracked.run_writeBlock, writeBlock_part (by decide)]
  congr 2
  apply writeBlock_congr
  intro offset inside
  rcases Nat.lt_or_ge offset 2 with low | high
  · rw [if_pos low]
    rcases (show offset = 0 ∨ offset = 1 by omega) with rfl | rfl
    · rfl
    · rfl
  · rw [if_neg (Nat.not_lt.mpr high)]
    exact volts offset high inside

theorem minS32_toInt (first second : Word) :
    (minS32 first second).toInt = min first.toInt second.toInt := by
  unfold minS32
  split
  · rename_i less
    exact (min_eq_right (Int.le_of_lt (BitVec.slt_iff_toInt_lt.mp less))).symm
  · rename_i notLess
    exact (min_eq_left (Int.not_lt.mp (mt BitVec.slt_iff_toInt_lt.mpr notLess))).symm

theorem shiftedVolt_toInt (shift base cap : Word) :
    (shiftedVolt shift base.toInt cap.toInt).value = (minS32 (base + 25 * shift) cap).toInt := by
  rw [shiftedVolt_value_eq, minS32_toInt, BitVec.toInt_add]

theorem dvbEntry_eq_staircase : dvbEntry custom =
    staircase (fun threshold => custom.marikoEmcMaxClock.toNat < threshold) dvbThresholds
      [none, some (1862400, [700, 675, 650]), some (2131200, [725, 700, 675]),
       some (2400000, dvbVolt custom 750 725 700), some (2665600, dvbVolt custom 775 750 725),
       some (2931200, dvbVolt custom 800 775 750)]
      (some (3200000, dvbVolt custom 800 800 775)) := by
  simp only [staircase, dvbThresholds, List.map_cons, List.map_nil, firstHolding_cons,
    firstHolding_nil, decide_eq_true_eq]
  rfl

theorem entryVolts_addedDvbEntry : entryVolts (addedDvbEntry custom) =
    (dvbVolts custom.emcDvbShift custom.marikoEmcMaxClock.toNat).value := by
  let volts (entry : Option (Word × List Word)) : Volts :=
    entryVolts fun offset => ([custom.marikoEmcMaxClock, 0] ++ addedVolts entry).getD offset 0
  have shifted (freq zero one two : Word) :
      volts (some (freq, dvbVolt custom zero one two)) =
        (shiftedVolts custom.emcDvbShift zero.toInt one.toInt two.toInt).value := by
    rw [shiftedVolts_value, show (1050 : Int) = (1050 : Word).toInt from rfl,
      show (1025 : Int) = (1025 : Word).toInt from rfl,
      show (1000 : Int) = (1000 : Word).toInt from rfl, shiftedVolt_toInt, shiftedVolt_toInt,
      shiftedVolt_toInt]
    rfl
  change volts (dvbEntry custom) = _
  rw [dvbEntry_eq_staircase, staircase_map volts, dvbVolts_value, List.map_cons, List.map_cons,
    List.map_cons, List.map_cons, List.map_cons, List.map_cons, shifted, shifted, shifted, shifted]
  rfl

/-- One entry is added, at the maximum clock, and its voltages are sane. -/
def AddsSaneEntry (custom : CustomizeTable) (ptr : Int) (store : Image) : Prop :=
  ∃ entry : Nat → Word,
    Tracked.run (memFreqDvbTable custom ptr) store =
      (.ok ⟨⟩, { store with
        word := writeBlock store.word (ptr + dvbEntryWords) dvbEntryWords entry }) ∧
    entryFreq entry = custom.marikoEmcMaxClock.toNat ∧
    entryVolts entry = (dvbVolts custom.emcDvbShift custom.marikoEmcMaxClock.toNat).value ∧
    SaneVolts (dvbVolts custom.emcDvbShift custom.marikoEmcMaxClock.toNat)

/-- The voltages of the new entry in the image that the patcher leaves. -/
def voltsAfter (custom : CustomizeTable) (ptr : Int) (store : Image) : Volts :=
  entryVolts (block (memFreqDvbTable custom ptr store).store.word (ptr + dvbEntryWords))

/-- With this shift a higher clock never has a lower voltage. -/
def VoltsRise (shift : Word) : Prop :=
  ∀ custom higher, safetyCheck custom = true → safetyCheck higher = true →
    custom.emcDvbShift = shift → higher.emcDvbShift = shift →
    emcClkOSLimit < custom.marikoEmcMaxClock →
    custom.marikoEmcMaxClock ≤ higher.marikoEmcMaxClock →
    ∀ ptr store, StockDvbTable store ptr → voltsAfter custom ptr store ≤ voltsAfter higher ptr store

theorem addsSaneEntry_iff (above : emcClkOSLimit < custom.marikoEmcMaxClock)
    (stock : StockDvbTable store ptr) :
    AddsSaneEntry custom ptr store ↔ custom.marikoEmcMaxClock.toNat < 2400000 ∨
      25 * custom.emcDvbShift.toNat + dvbBase custom.marikoEmcMaxClock.toNat < 2 ^ 31 := by
  rw [← dvbVolts_sane_iff]
  constructor
  · rintro ⟨entry, -, -, -, sane⟩
    exact sane
  · intro sane
    exact ⟨addedDvbEntry custom, memFreqDvbTable_run stock above, rfl, entryVolts_addedDvbEntry,
      sane⟩

theorem voltsAfter_eq (above : emcClkOSLimit < custom.marikoEmcMaxClock)
    (stock : StockDvbTable store ptr) : voltsAfter custom ptr store =
      (dvbVolts custom.emcDvbShift custom.marikoEmcMaxClock.toNat).value := by
  obtain ⟨-, stored⟩ := Prod.mk.inj (memFreqDvbTable_run stock above)
  have word (offset : Nat) (inside : offset < dvbEntryWords) :
      block (memFreqDvbTable custom ptr store).store.word (ptr + dvbEntryWords) offset =
        addedDvbEntry custom offset := by
    rw [stored]
    exact writeBlock_inside inside
  rw [← entryVolts_addedDvbEntry, voltsAfter, entryVolts, word 2 (by decide), word 3 (by decide),
    word 4 (by decide)]
  rfl

def stockDvbImage : Image := fieldsImage (fieldsFrom 0 emcDvbTableDefault)

theorem stockDvbImage_stock : StockDvbTable stockDvbImage 30 := by decide +kernel

def clockedTable (clock shift : Word) : CustomizeTable :=
  { shipped with marikoEmcMaxClock := clock, emcDvbShift := shift }

/-- `SafetyCheck` does not look at the shift. -/
theorem safetyCheck_clockedTable (clock shift : Word) :
    safetyCheck (clockedTable clock shift) = safetyCheck (clockedTable clock 0) := rfl

theorem voltsRise_iff (shift : Word) : VoltsRise shift ↔ RisingShift shift := by
  constructor
  · intro rises
    have step (clock : Word) (safe : safetyCheck (clockedTable clock 0) = true)
        (above : (2131200 : Word) ≤ clock) :
        (dvbVolts shift 2131200).value ≤ (dvbVolts shift clock.toNat).value := by
      have limit : emcClkOSLimit < (2131200 : Word) := by decide
      have le := rises (clockedTable 2131200 shift) (clockedTable clock shift)
        (by rw [safetyCheck_clockedTable]; decide +kernel)
        (by rw [safetyCheck_clockedTable]; exact safe) rfl rfl limit above 30 stockDvbImage
        stockDvbImage_stock
      rwa [voltsAfter_eq limit stockDvbImage_stock,
        voltsAfter_eq (Nat.lt_of_lt_of_le limit above) stockDvbImage_stock] at le
    exact rising_of_steps (step 2400000 (by decide +kernel) (by decide))
      (step 3200000 (by decide +kernel) (by decide))
  · intro rising custom higher _ _ same sameHigher above le ptr store stock
    rw [voltsAfter_eq above stock, voltsAfter_eq (Nat.lt_of_lt_of_le above le) stock, same,
      sameHigher]
    exact dvbVolts_mono rising (BitVec.le_def.mp le)

/-- The entry is sane exactly while the shifted voltages fit, and the voltages rise with the clock
exactly where the shift as an `int32_t` is in range. -/
theorem dvb_entry_sane_iff (above : emcClkOSLimit < custom.marikoEmcMaxClock)
    (stock : StockDvbTable store ptr) :
    (AddsSaneEntry custom ptr store ↔ custom.marikoEmcMaxClock.toNat < 2400000 ∨
      25 * custom.emcDvbShift.toNat + dvbBase custom.marikoEmcMaxClock.toNat < 2 ^ 31) ∧
    (VoltsRise custom.emcDvbShift ↔ RisingShift custom.emcDvbShift) :=
  ⟨addsSaneEntry_iff above stock, voltsRise_iff custom.emcDvbShift⟩

theorem dvb_entry_sane_iff_sample :
    AddsSaneEntry (clockedTable 2933000 8) 30 stockDvbImage ∧ VoltsRise 8 := by
  have sane := dvb_entry_sane_iff (show emcClkOSLimit < (clockedTable 2933000 8).marikoEmcMaxClock
    by decide) stockDvbImage_stock
  exact ⟨sane.1.mpr (by decide), sane.2.mpr (by decide)⟩

/-- The product is above every `int32_t`. -/
theorem dvb_entry_negative :
    safetyCheck (clockedTable 2400000 100000000) = true ∧
      emcClkOSLimit < (clockedTable 2400000 100000000).marikoEmcMaxClock ∧
      StockDvbTable stockDvbImage 30 ∧
      voltsAfter (clockedTable 2400000 100000000) 30 stockDvbImage =
        (-1794966546, -1794966571, -1794966596) ∧
      ¬AddsSaneEntry (clockedTable 2400000 100000000) 30 stockDvbImage := by
  refine ⟨by decide +kernel, by decide, stockDvbImage_stock, ?_, ?_⟩
  · rw [voltsAfter_eq (by decide) stockDvbImage_stock]
    decide
  · rw [addsSaneEntry_iff (by decide) stockDvbImage_stock]
    decide

end

end HorizonOc.Loader.Mariko
