import HorizonOc.Loader.CheckedVoltages
import HorizonOc.Sysmodule.Board

namespace HorizonOc.Loader

open HorizonOc.Data

/-- The last patch of a field, over what the field holds. -/
def patchedField (patches : List (Int × Word)) (field : Int) (stock : Word) : Word :=
  patches.foldl (fun before patch => if patch.1 = field then patch.2 else before) stock

theorem patchOffsets_word (ptr : Int) (patches : List (Int × Word)) (store : Image) (field : Int) :
    (patchOffsets ptr patches store).store.word (ptr + field) =
      patchedField patches field (store.word (ptr + field)) := by
  induction patches generalizing store with
  | nil => rfl
  | cons patch rest ih =>
      rw [patchOffsets_cons]
      refine (ih _).trans (congrArg (patchedField rest field) ?_)
      change Function.update store.word (ptr + patch.1) patch.2 (ptr + field) =
        if patch.1 = field then patch.2 else store.word (ptr + field)
      by_cases same : patch.1 = field
      · rw [if_pos same, same, Function.update_self]
      · have apart : ptr + field ≠ ptr + patch.1 := by omega
        rw [if_neg same, Function.update_of_ne apart]

theorem patchAfter_word {ptr : Int} {fields patches : List (Int × Word)} {compared : Patcher Bool}
    {error : LdrResult} {store : Image} (compares : Compares ptr fields compared)
    (matching : MatchesAt store ptr fields) (field : Int) :
    (patchAfter compared error ptr patches store).store.word (ptr + field) =
      patchedField patches field (store.word (ptr + field)) := by
  rw [patchAfter_store compares, if_pos matching]
  exact patchOffsets_word ptr patches store field

/-- The patcher succeeds on stock entries only. -/
theorem cpuVoltDfll_stock {custom : CustomizeTable} {ptr : Int} {store : Image}
    (patched : (Mariko.cpuVoltDfll custom ptr store).succeeded = true) :
    MatchesAt store ptr (fieldsFrom 0 Mariko.dfllStock) := by
  by_contra differs
  rw [Mariko.cpuVoltDfll, patchAfter_of_differing (compareFields_compares ptr _) differs] at patched
  simp [Outcome.succeeded, Except.toBool] at patched

theorem cpuVoltDfll_word {custom : CustomizeTable} {ptr : Int} {store : Image}
    (patched : (Mariko.cpuVoltDfll custom ptr store).succeeded = true) {field : Int} {stock : Word}
    (inside : (field, stock) ∈ fieldsFrom 0 Mariko.dfllStock) :
    (Mariko.cpuVoltDfll custom ptr store).store.word (ptr + field) =
      patchedField (Mariko.dfllLowPatches custom.marikoCpuUVLow ++
        Mariko.dfllHighPatches custom.marikoCpuUVHigh) field stock := by
  have matching := cpuVoltDfll_stock patched
  rw [Mariko.cpuVoltDfll, patchAfter_word (compareFields_compares ptr _) matching,
    matching _ inside]

end HorizonOc.Loader

namespace HorizonOc.Sysmodule

open HorizonOc.Loader (Word Image CustomizeTable patchedField)

/-- `CL_DVFS_TUNE0_0` and `CL_DVFS_TUNE1_0`. -/
structure DfllRegisters where
  tune0 : Word
  tune1 : Word
deriving DecidableEq, Repr

structure EristaCpuUvEntry where
  tune0 : Word
  tune1 : Word

structure MarikoCpuUvEntry where
  tune0Low : Word
  tune0High : Word
  tune1Low : Word
  tune1High : Word

def eristaCpuUvTable : List EristaCpuUvEntry :=
  [⟨0xffff, 0x27007ff⟩, ⟨0xefff, 0x27407ff⟩, ⟨0xdfff, 0x27807ff⟩, ⟨0xdfdf, 0x27a07ff⟩,
   ⟨0xcfdf, 0x37007ff⟩]

def marikoCpuUvLow : List MarikoCpuUvEntry :=
  [⟨0xffa0, 0xffff, 0x21107ff, 0⟩, ⟨0x0, 0xffdf, 0x21107ff, 0x27207ff⟩,
   ⟨0xffdf, 0xffdf, 0x21107ff, 0x27307ff⟩, ⟨0xffff, 0xffdf, 0x21107ff, 0x27407ff⟩,
   ⟨0x0, 0xffdf, 0x21607ff, 0x27707ff⟩, ⟨0x0, 0xffdf, 0x21607ff, 0x27807ff⟩,
   ⟨0x0, 0xdfff, 0x21607ff, 0x27b07ff⟩, ⟨0xdfff, 0xdfff, 0x21707ff, 0x27b07ff⟩,
   ⟨0xdfff, 0xdfff, 0x21707ff, 0x27c07ff⟩, ⟨0xdfff, 0xdfff, 0x21707ff, 0x27d07ff⟩,
   ⟨0xdfff, 0xdfff, 0x21707ff, 0x27e07ff⟩, ⟨0xdfff, 0xdfff, 0x21707ff, 0x27f07ff⟩]

def marikoCpuUvHigh : List MarikoCpuUvEntry :=
  [⟨0x0, 0xffff, 0, 0⟩, ⟨0x0, 0xffdf, 0, 0x27207ff⟩, ⟨0x0, 0xffdf, 0, 0x27307ff⟩,
   ⟨0x0, 0xffdf, 0, 0x27407ff⟩, ⟨0x0, 0xffdf, 0, 0x27707ff⟩, ⟨0x0, 0xffdf, 0, 0x27807ff⟩,
   ⟨0x0, 0xdfff, 0, 0x27b07ff⟩, ⟨0x0, 0xdfff, 0, 0x27c07ff⟩, ⟨0x0, 0xdfff, 0, 0x27d07ff⟩,
   ⟨0x0, 0xdfff, 0, 0x27e07ff⟩, ⟨0x0, 0xdfff, 0, 0x27f07ff⟩, ⟨0x0, 0xdfff, 0, 0x27f07ff⟩]

/-- The registers after the block for the low level; none where the level lies past the table. -/
def tuneLow (levelLow : Nat) (registers : DfllRegisters) : Option DfllRegisters :=
  if levelLow = 0 then some registers
  else marikoCpuUvLow[levelLow - 1]?.map fun entry => ⟨entry.tune0Low, entry.tune1Low⟩

def tuneHigh (levelHigh : Nat) (registers : DfllRegisters) : Option DfllRegisters :=
  if levelHigh = 0 then some registers
  else marikoCpuUvHigh[levelHigh - 1]?.map fun entry => ⟨entry.tune0High, entry.tune1High⟩

/-- What `SetDfllTunings` leaves in the registers.  The tunings that were cached at the start are
only written back on Erista: on Mariko both branches return before. -/
def dfllTunings (socType : SocType) (cached : DfllRegisters) (cpuHz levelLow levelHigh tbreakPoint : Nat)
    (registers : DfllRegisters) : Option DfllRegisters :=
  match socType with
  | .mariko =>
      if cpuHz < tbreakPoint ∧ (levelLow ≠ 0 ∨ levelHigh ≠ 0) then tuneLow levelLow registers
      else (tuneLow levelLow registers).bind (tuneHigh levelHigh)
  | .erista =>
      if cpuHz < tbreakPoint ∨ levelLow = 0 then some cached
      else eristaCpuUvTable[levelLow - 1]?.map fun entry => ⟨entry.tune0, entry.tune1⟩

/-- The pair of a DFLL entry for one side of the break point. -/
def bootTunings (word : Int → Word) (ptr : Int) (belowTbreak : Prop) [Decidable belowTbreak] :
    DfllRegisters :=
  if belowTbreak then ⟨word (ptr + 0), word (ptr + 2)⟩ else ⟨word (ptr + 1), word (ptr + 3)⟩

/-- The stock pair below the break point. -/
def stockLowTunings : DfllRegisters := ⟨0xFFCF, 0x12207FF⟩

section

open HorizonOc.Loader.Mariko (dfllLowPatches dfllHighPatches)

/-- The pair that the loader's patches give for one side of the break point. -/
def patchedTunings (uvLow uvHigh : Word) (belowTbreak : Prop) [Decidable belowTbreak] :
    DfllRegisters :=
  let patches := dfllLowPatches uvLow ++ dfllHighPatches uvHigh
  if belowTbreak then ⟨patchedField patches 0 0xFFCF, patchedField patches 2 0x12207FF⟩
  else ⟨patchedField patches 1 0x0, patchedField patches 3 0x3FFF7FF⟩

theorem bootTunings_cpuVoltDfll {custom : CustomizeTable} {ptr : Int} {store : Image}
    (patched : (Loader.Mariko.cpuVoltDfll custom ptr store).succeeded = true)
    (belowTbreak : Prop) [Decidable belowTbreak] :
    bootTunings (Loader.Mariko.cpuVoltDfll custom ptr store).store.word ptr belowTbreak =
      patchedTunings custom.marikoCpuUVLow custom.marikoCpuUVHigh belowTbreak := by
  have tune0Low := Loader.cpuVoltDfll_word patched (show (0, 0xFFCF) ∈ _ by decide)
  have tune0High := Loader.cpuVoltDfll_word patched (show (1, 0x0) ∈ _ by decide)
  have tune1Low := Loader.cpuVoltDfll_word patched (show (2, 0x12207FF) ∈ _ by decide)
  have tune1High := Loader.cpuVoltDfll_word patched (show (3, 0x3FFF7FF) ∈ _ by decide)
  rw [bootTunings, patchedTunings, tune0Low, tune0High, tune1Low, tune1High]

variable {levelLow levelHigh : Nat} {registers : DfllRegisters}

/-- The low levels that the live table holds a literal zero for. -/
def LowLevelKeepsTune0 (levelLow : Nat) : Prop := levelLow ∈ [2, 5, 6, 7]

instance : Decidable (LowLevelKeepsTune0 levelLow) :=
  inferInstanceAs (Decidable (levelLow ∈ [2, 5, 6, 7]))

/-- The high levels for which the loader has the live table's values; between them the loader is
one level behind. -/
def HighLevelAgrees (levelHigh : Nat) : Prop := levelHigh ∈ [1, 2, 3, 4, 5, 6, 7, 12]

instance : Decidable (HighLevelAgrees levelHigh) :=
  inferInstanceAs (Decidable (levelHigh ∈ [1, 2, 3, 4, 5, 6, 7, 12]))

theorem tuneLow_below_iff (low : levelLow ≤ 12) (high : levelHigh ≤ 12) (used : levelLow ≠ 0) :
    tuneLow levelLow registers = some (patchedTunings (.ofNat 32 levelLow) (.ofNat 32 levelHigh) True) ↔
      ¬LowLevelKeepsTune0 levelLow := by
  have tables : ∀ low : Nat, low < 13 → ∀ high : Nat, high < 13 → low ≠ 0 →
      ((marikoCpuUvLow[low - 1]?.map fun entry =>
        DfllRegisters.mk entry.tune0Low entry.tune1Low) = some (patchedTunings (.ofNat 32 low) (.ofNat 32 high) True) ↔
          ¬LowLevelKeepsTune0 low) := by decide
  rw [tuneLow, if_neg used]
  exact tables levelLow (by omega) levelHigh (by omega) used

theorem tuneHigh_above_iff (low : levelLow ≤ 12) (high : levelHigh ≤ 12) (used : levelHigh ≠ 0) :
    tuneHigh levelHigh registers = some (patchedTunings (.ofNat 32 levelLow) (.ofNat 32 levelHigh) False) ↔
      HighLevelAgrees levelHigh := by
  have tables : ∀ low : Nat, low < 13 → ∀ high : Nat, high < 13 → high ≠ 0 →
      ((marikoCpuUvHigh[high - 1]?.map fun entry =>
        DfllRegisters.mk entry.tune0High entry.tune1High) = some (patchedTunings (.ofNat 32 low) (.ofNat 32 high) False) ↔
          HighLevelAgrees high) := by decide
  rw [tuneHigh, if_neg used]
  exact tables levelLow (by omega) levelHigh (by omega) used

/-- Without a high level the pair of the low side stays above the break point, which the loader
never has there. -/
theorem tuneLow_above (registers : DfllRegisters) (low : levelLow ≤ 12) (used : levelLow ≠ 0) :
    tuneLow levelLow registers ≠ some (patchedTunings (.ofNat 32 levelLow) 0#32 False) := by
  have tables : ∀ low : Nat, low < 13 → low ≠ 0 →
      (marikoCpuUvLow[low - 1]?.map fun entry =>
        DfllRegisters.mk entry.tune0Low entry.tune1Low) ≠ some (patchedTunings (.ofNat 32 low) 0#32 False) := by
    decide
  rw [tuneLow, if_neg used]
  exact tables levelLow (by omega) used

theorem tuneLow_returns (registers : DfllRegisters) (low : levelLow ≤ 12) :
    ∃ after, tuneLow levelLow registers = some after := by
  by_cases used : levelLow = 0
  · exact ⟨registers, by rw [tuneLow, if_pos used]⟩
  · have inside : levelLow - 1 < marikoCpuUvLow.length := by
      change levelLow - 1 < 12
      omega
    rw [tuneLow, if_neg used, List.getElem?_eq_getElem inside]
    exact ⟨_, rfl⟩

/-- No high patch changes the low side. -/
theorem patchedTunings_stock (high : levelHigh ≤ 12) :
    patchedTunings 0#32 (.ofNat 32 levelHigh) True = stockLowTunings := by
  have tables : ∀ high : Nat, high < 13 →
      patchedTunings 0#32 (.ofNat 32 high) True = stockLowTunings := by decide
  exact tables levelHigh (by omega)

end

/-- When the live tunings are those of the patched entry.  Below the break point a low level of 0
leaves the registers alone, and four low levels write a zero that the loader leaves at stock; at or
above it only the high level is heard, with a table that the loader's lags behind from 8 on. -/
def LiveMatchesBoot (levelLow levelHigh : Nat) (belowTbreak : Prop) (registers : DfllRegisters) :
    Prop :=
  (belowTbreak → levelLow = 0 → registers = stockLowTunings) ∧
    (belowTbreak → ¬LowLevelKeepsTune0 levelLow) ∧
    (¬belowTbreak → HighLevelAgrees levelHigh)

theorem setDfllTunings_matches_iff {levelLow levelHigh : Nat} (low : levelLow ≤ 12)
    (high : levelHigh ≤ 12) (undervolt : levelLow ≠ 0 ∨ levelHigh ≠ 0) {custom : CustomizeTable}
    (uvLow : custom.marikoCpuUVLow = .ofNat 32 levelLow)
    (uvHigh : custom.marikoCpuUVHigh = .ofNat 32 levelHigh) {store : Image} {ptr : Int}
    (patched : (Loader.Mariko.cpuVoltDfll custom ptr store).succeeded = true) (cpuHz table : Nat)
    (cached registers : DfllRegisters) :
    dfllTunings .mariko cached cpuHz levelLow levelHigh (calculateTbreak .mariko table) registers =
        some (bootTunings (Loader.Mariko.cpuVoltDfll custom ptr store).store.word ptr
          (cpuHz < calculateTbreak .mariko table)) ↔
      LiveMatchesBoot levelLow levelHigh (cpuHz < calculateTbreak .mariko table) registers := by
  rw [bootTunings_cpuVoltDfll patched, uvLow, uvHigh]
  by_cases below : cpuHz < calculateTbreak .mariko table
  · have branch : dfllTunings .mariko cached cpuHz levelLow levelHigh
        (calculateTbreak .mariko table) registers = tuneLow levelLow registers :=
      if_pos ⟨below, undervolt⟩
    simp only [branch, LiveMatchesBoot, below, forall_true_left, not_true, false_imp_iff, and_true]
    by_cases unused : levelLow = 0
    · subst unused
      have stock := patchedTunings_stock high
      simp [tuneLow, LowLevelKeepsTune0, stock]
    · simp only [tuneLow_below_iff low high unused, unused, false_imp_iff, true_and]
  · have branch : dfllTunings .mariko cached cpuHz levelLow levelHigh
        (calculateTbreak .mariko table) registers =
          (tuneLow levelLow registers).bind (tuneHigh levelHigh) :=
      if_neg fun both => below both.1
    obtain ⟨after, lowered⟩ := tuneLow_returns registers low
    simp only [branch, LiveMatchesBoot, below, false_imp_iff, not_false_eq_true, forall_true_left,
      true_and]
    by_cases unused : levelHigh = 0
    · subst unused
      have apart := tuneLow_above registers low (by simpa using undervolt)
      have kept : tuneHigh 0 = some := rfl
      simpa [kept, HighLevelAgrees] using apart
    · rw [lowered, Option.bind_some, tuneHigh_above_iff low high unused]

/-- An image with nothing but a stock entry of the DFLL at its start. -/
def stockDfllImage : Image :=
  { word := fun address => Loader.Mariko.dfllStock.getD address.toNat 0
    rest := { maxEmcClocks := [], i2cCalls := 0 } }

def undervolted (uvLow uvHigh : Word) : CustomizeTable :=
  { Loader.shipped with marikoCpuUVLow := uvLow, marikoCpuUVHigh := uvHigh }

theorem undervolted_patched (uvLow uvHigh : Word) :
    (Loader.Mariko.cpuVoltDfll (undervolted uvLow uvHigh) 0 stockDfllImage).succeeded = true := by
  have matching : Loader.MatchesAt stockDfllImage 0 (Loader.fieldsFrom 0 Loader.Mariko.dfllStock) := by
    decide
  rw [Data.Outcome.succeeded, Loader.Mariko.cpuVoltDfll,
    (Loader.patchAfter_of_matching (Loader.compareFields_compares 0 _) matching).1]
  rfl

theorem setDfllTunings_matches_levels_three_four :
    dfllTunings .mariko ⟨0, 0⟩ 1020000000 3 4 1581000000 ⟨0, 0⟩ =
        some (bootTunings
          (Loader.Mariko.cpuVoltDfll (undervolted 3 4) 0 stockDfllImage).store.word 0
          ((1020000000 : Nat) < 1581000000)) ↔
      LiveMatchesBoot 3 4 ((1020000000 : Nat) < 1581000000) ⟨0, 0⟩ :=
  setDfllTunings_matches_iff (by decide) (by decide) (by decide) rfl rfl (undervolted_patched 3 4)
    1020000000 1 ⟨0, 0⟩ ⟨0, 0⟩

/-- The lowest level on its own: at 1785 MHz the pair of the low side is written. -/
theorem setDfllTunings_differs_above_tbreak :
    ¬∀ levelLow levelHigh : Nat, levelLow ≤ 12 → levelHigh ≤ 12 → levelLow ≠ 0 ∨ levelHigh ≠ 0 →
      ∀ custom : CustomizeTable, custom.marikoCpuUVLow = .ofNat 32 levelLow →
        custom.marikoCpuUVHigh = .ofNat 32 levelHigh → ∀ (store : Image) (ptr : Int),
          (Loader.Mariko.cpuVoltDfll custom ptr store).succeeded = true →
            ∀ (cpuHz table : Nat) (cached registers : DfllRegisters),
              dfllTunings .mariko cached cpuHz levelLow levelHigh (calculateTbreak .mariko table)
                  registers =
                some (bootTunings (Loader.Mariko.cpuVoltDfll custom ptr store).store.word ptr
                  (cpuHz < calculateTbreak .mariko table)) := by
  intro agree
  have live := agree 1 0 (by decide) (by decide) (by decide) (undervolted 1 0) rfl rfl
    stockDfllImage 0 (undervolted_patched 1 0) 1785000000 1 ⟨0, 0⟩ ⟨0xFFCF, 0x12207FF⟩
  rw [bootTunings_cpuVoltDfll (undervolted_patched 1 0)] at live
  exact absurd live (by decide)

end HorizonOc.Sysmodule
