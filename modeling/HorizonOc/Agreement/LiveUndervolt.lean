import HorizonOc.Agreement.DfllTunings

namespace HorizonOc.Sysmodule

open HorizonOc.Loader (Word)

structure CpuDfllData where
  tune0Low : Word
  tune0High : Word
  tune1Low : Word
  tune1High : Word
deriving DecidableEq, Repr

/-- `CacheDfllData`: the pair that is found on Erista, and on Mariko the first register at 1785 MHz. -/
def cacheDfllData (socType : SocType) (found : DfllRegisters) (tune0At1785 : Word) : CpuDfllData :=
  match socType with
  | .erista => { tune0Low := found.tune0, tune0High := 0, tune1Low := found.tune1, tune1High := 0 }
  | .mariko => { tune0Low := 0, tune0High := tune0At1785, tune1Low := 0, tune1High := 0 }

/-- The pair that `SetDfllTunings` has for the stock of a side; on Mariko it stands behind the
returns of both branches. -/
def CpuDfllData.stock (cached : CpuDfllData) (socType : SocType) (belowTbreak : Bool) : DfllRegisters :=
  match socType, belowTbreak with
  | .erista, _ => ⟨cached.tune0Low, cached.tune1Low⟩
  | .mariko, true => ⟨0xCFFF, 0xFF072201⟩
  | .mariko, false => ⟨cached.tune0High, 0xFFF7FF3F⟩

/-- The level that a side of the break point has. -/
def appliedLevel (socType : SocType) (belowTbreak : Bool) (levelLow levelHigh : Nat) : Nat :=
  match socType, belowTbreak with
  | .erista, true => 0
  | .erista, false => levelLow
  | .mariko, true => levelLow
  | .mariko, false => levelHigh

def LevelsInRange (socType : SocType) (levelLow levelHigh : Nat) : Prop :=
  match socType with
  | .erista => levelLow ≤ eristaCpuUvTable.length
  | .mariko => levelLow ≤ marikoCpuUvLow.length ∧ levelHigh ≤ marikoCpuUvHigh.length

structure DfllState where
  cpuHz : Nat
  registers : DfllRegisters
deriving DecidableEq, Repr

/-- A change of the CPU's clock, at which the system may write the registers itself, or a call. -/
inductive DfllEvent where
  | clock (hz : Nat) (rewritten : Option DfllRegisters)
  | tunings (levelLow levelHigh tbreakPoint : Nat)
deriving DecidableEq, Repr

namespace DfllState

/-- `SetDfllTunings` at the present clock; none where a level lies past its table. -/
def tune (socType : SocType) (cached : CpuDfllData) (state : DfllState)
    (levelLow levelHigh tbreakPoint : Nat) : Option DfllRegisters :=
  dfllTunings socType ⟨cached.tune0Low, cached.tune1Low⟩ state.cpuHz levelLow levelHigh tbreakPoint
    state.registers

def apply (socType : SocType) (cached : CpuDfllData) (state : DfllState) :
    DfllEvent → Option DfllState
  | .clock hz rewritten =>
      some { cpuHz := hz, registers := rewritten.getD state.registers }
  | .tunings levelLow levelHigh tbreakPoint =>
      (state.tune socType cached levelLow levelHigh tbreakPoint).map fun registers =>
        { state with registers }

def after (socType : SocType) (cached : CpuDfllData) (state : DfllState) (history : List DfllEvent) :
    Option DfllState :=
  history.foldlM (apply socType cached) state

end DfllState

/-- After any two histories that lead to the two clocks, the call leaves the same pair, which is the
stock one where the side has no level. -/
def DependsOnSetting (socType : SocType) (cached : CpuDfllData) (start : DfllState)
    (levelLow levelHigh tbreakPoint firstHz secondHz : Nat) : Prop :=
  ∀ (firstHistory secondHistory : List DfllEvent) (first second : DfllState),
    start.after socType cached firstHistory = some first →
    start.after socType cached secondHistory = some second →
    first.cpuHz = firstHz → second.cpuHz = secondHz →
      ∃ registers, first.tune socType cached levelLow levelHigh tbreakPoint = some registers ∧
        second.tune socType cached levelLow levelHigh tbreakPoint = some registers ∧
        (appliedLevel socType (firstHz < tbreakPoint) levelLow levelHigh = 0 →
          registers = cached.stock socType (firstHz < tbreakPoint))

section

variable {socType : SocType} {cached : CpuDfllData} {levelLow levelHigh tbreakPoint : Nat}

/-- On Erista, and where the side has a level, the call says what the registers hold. -/
theorem tune_of_level (inRange : LevelsInRange socType levelLow levelHigh) (belowTbreak : Bool)
    (decided : socType = .erista ∨ appliedLevel socType belowTbreak levelLow levelHigh ≠ 0) :
    ∃ registers,
      (∀ state : DfllState, (state.cpuHz < tbreakPoint ↔ belowTbreak = true) →
        state.tune socType cached levelLow levelHigh tbreakPoint = some registers) ∧
      (appliedLevel socType belowTbreak levelLow levelHigh = 0 →
        registers = cached.stock socType belowTbreak) := by
  cases socType with
  | erista =>
      by_cases stock : belowTbreak = true ∨ levelLow = 0
      · refine ⟨cached.stock .erista belowTbreak, fun state side => ?_, fun _ => rfl⟩
        rw [← side] at stock
        exact if_pos stock
      · obtain ⟨above, used⟩ := not_or.mp stock
        have inside : levelLow - 1 < eristaCpuUvTable.length := by
          have bound : levelLow ≤ eristaCpuUvTable.length := inRange
          omega
        refine ⟨⟨eristaCpuUvTable[levelLow - 1].tune0, eristaCpuUvTable[levelLow - 1].tune1⟩,
          fun state side => ?_, fun unused => ?_⟩
        · rw [← side] at stock
          rw [DfllState.tune, dfllTunings, if_neg stock, List.getElem?_eq_getElem inside, Option.map_some]
        · cases belowTbreak with
          | true => exact absurd rfl above
          | false => exact absurd unused used
  | mariko =>
      obtain ⟨low, high⟩ := inRange
      cases belowTbreak with
      | true =>
          have used : levelLow ≠ 0 := decided.resolve_left (by decide)
          have inside : levelLow - 1 < marikoCpuUvLow.length := by omega
          refine ⟨⟨marikoCpuUvLow[levelLow - 1].tune0Low, marikoCpuUvLow[levelLow - 1].tune1Low⟩,
            fun state side => ?_, fun unused => absurd unused used⟩
          rw [DfllState.tune, dfllTunings, if_pos ⟨side.mpr rfl, .inl used⟩, tuneLow, if_neg used,
            List.getElem?_eq_getElem inside, Option.map_some]
      | false =>
          have used : levelHigh ≠ 0 := decided.resolve_left (by decide)
          have inside : levelHigh - 1 < marikoCpuUvHigh.length := by omega
          refine ⟨⟨marikoCpuUvHigh[levelHigh - 1].tune0High, marikoCpuUvHigh[levelHigh - 1].tune1High⟩,
            fun state side => ?_, fun unused => absurd unused used⟩
          obtain ⟨lowered, written⟩ := tuneLow_returns state.registers low
          have above : ¬(state.cpuHz < tbreakPoint ∧ (levelLow ≠ 0 ∨ levelHigh ≠ 0)) :=
            fun both => absurd (side.mp both.1) (by decide)
          rw [DfllState.tune, dfllTunings, if_neg above, written, Option.bind_some, tuneHigh,
            if_neg used, List.getElem?_eq_getElem inside, Option.map_some]

theorem tune_unset_low {state : DfllState} (below : state.cpuHz < tbreakPoint) (levelHigh : Nat) :
    state.tune .mariko cached 0 levelHigh tbreakPoint = some state.registers := by
  by_cases unset : levelHigh = 0
  · subst unset
    simp [DfllState.tune, dfllTunings, tuneLow, tuneHigh]
  · simp [DfllState.tune, dfllTunings, tuneLow, below, unset]

theorem tune_unset {state : DfllState} :
    state.tune .mariko cached 0 0 tbreakPoint = some state.registers := by
  simp [DfllState.tune, dfllTunings, tuneLow, tuneHigh]

/-- Above the break point without a high level, the pair of the low level is left, which is never
the stock one. -/
theorem tune_unset_high {state : DfllState} (above : ¬state.cpuHz < tbreakPoint)
    (low : levelLow ≤ marikoCpuUvLow.length) (used : levelLow ≠ 0) :
    state.tune .mariko cached levelLow 0 tbreakPoint ≠ some (cached.stock .mariko false) := by
  have tables : ∀ low : Nat, low < 13 → low ≠ 0 →
      (marikoCpuUvLow[low - 1]?.map fun entry => entry.tune1Low) ≠ some 0xFFF7FF3F := by decide
  have branch : state.tune .mariko cached levelLow 0 tbreakPoint = tuneLow levelLow state.registers := by
    have both : ¬(state.cpuHz < tbreakPoint ∧ (levelLow ≠ 0 ∨ (0 : Nat) ≠ 0)) := fun both => above both.1
    rw [DfllState.tune, dfllTunings, if_neg both]
    exact Option.bind_fun_some _
  intro stock
  rw [branch, tuneLow, if_neg used] at stock
  have second := congrArg (Option.map DfllRegisters.tune1) stock
  rw [Option.map_map] at second
  exact tables levelLow (Nat.lt_succ_of_le low) used second

/-- Two calls for different levels leave different pairs. -/
theorem tune_first_levels (start : DfllState) (cpuHz tbreakPoint : Nat) :
    ∃ first second : DfllState,
      start.after .mariko cached [.clock cpuHz none, .tunings 1 1 tbreakPoint] = some first ∧
      start.after .mariko cached [.clock cpuHz none, .tunings 2 2 tbreakPoint] = some second ∧
      first.cpuHz = cpuHz ∧ second.cpuHz = cpuHz ∧ first.registers ≠ second.registers := by
  by_cases below : cpuHz < tbreakPoint
  · have apart : (⟨0xffa0, 0x21107ff⟩ : DfllRegisters) ≠ ⟨0x0, 0x21107ff⟩ := by decide
    refine ⟨{ cpuHz, registers := ⟨0xffa0, 0x21107ff⟩ }, { cpuHz, registers := ⟨0x0, 0x21107ff⟩ },
      ?_, ?_, rfl, rfl, apart⟩
    · simp [DfllState.after, DfllState.apply, DfllState.tune, dfllTunings, below, tuneLow, marikoCpuUvLow]
    · simp [DfllState.after, DfllState.apply, DfllState.tune, dfllTunings, below, tuneLow, marikoCpuUvLow]
  · have apart : (⟨0xffff, 0⟩ : DfllRegisters) ≠ ⟨0xffdf, 0x27207ff⟩ := by decide
    refine ⟨{ cpuHz, registers := ⟨0xffff, 0⟩ }, { cpuHz, registers := ⟨0xffdf, 0x27207ff⟩ },
      ?_, ?_, rfl, rfl, apart⟩
    · simp [DfllState.after, DfllState.apply, DfllState.tune, dfllTunings, below, tuneLow, tuneHigh,
        marikoCpuUvLow, marikoCpuUvHigh]
    · simp [DfllState.after, DfllState.apply, DfllState.tune, dfllTunings, below, tuneLow, tuneHigh,
        marikoCpuUvLow, marikoCpuUvHigh]

/-- Without a level for the side, Mariko's registers keep what the history left there, or take the
pair of the low level. -/
theorem not_dependsOnSetting {firstHz secondHz : Nat} (start : DfllState)
    (inRange : LevelsInRange .mariko levelLow levelHigh)
    (sameSide : firstHz < tbreakPoint ↔ secondHz < tbreakPoint)
    (unset : appliedLevel .mariko (firstHz < tbreakPoint) levelLow levelHigh = 0) :
    ¬DependsOnSetting .mariko cached start levelLow levelHigh tbreakPoint firstHz secondHz := by
  intro depends
  obtain ⟨first, -, firstRuns, -, firstClock, -, -⟩ :=
    @tune_first_levels cached start firstHz tbreakPoint
  obtain ⟨one, two, oneRuns, twoRuns, oneClock, twoClock, apart⟩ :=
    @tune_first_levels cached start secondHz tbreakPoint
  obtain ⟨left, firstLeaves, oneLeaves, stock⟩ := depends _ _ first one firstRuns oneRuns firstClock oneClock
  obtain ⟨right, firstAgain, twoLeaves, -⟩ := depends _ _ first two firstRuns twoRuns firstClock twoClock
  have same : left = right := Option.some.inj (firstLeaves.symm.trans firstAgain)
  by_cases below : firstHz < tbreakPoint
  · have unused : levelLow = 0 := by simpa [appliedLevel, below] using unset
    subst unused
    rw [tune_unset_low (oneClock.symm ▸ sameSide.mp below)] at oneLeaves
    rw [tune_unset_low (twoClock.symm ▸ sameSide.mp below)] at twoLeaves
    exact apart ((Option.some.inj oneLeaves).trans (same.trans (Option.some.inj twoLeaves).symm))
  · have unused : levelHigh = 0 := by simpa [appliedLevel, below] using unset
    subst unused
    by_cases low : levelLow = 0
    · subst low
      rw [tune_unset] at oneLeaves twoLeaves
      exact apart ((Option.some.inj oneLeaves).trans (same.trans (Option.some.inj twoLeaves).symm))
    · have above : ¬first.cpuHz < tbreakPoint := firstClock.symm ▸ below
      refine @tune_unset_high cached levelLow tbreakPoint first above inRange.1 low ?_
      rw [firstLeaves, stock unset, decide_eq_false below]

end

/-- Only the present setting counts on Erista, and on Mariko where the side has a level. -/
theorem live_undervolt_depends_on_setting_iff (socType : SocType) (found : DfllRegisters)
    (tune0At1785 : Word) (start : DfllState) {levelLow levelHigh : Nat}
    (inRange : LevelsInRange socType levelLow levelHigh) {tbreakPoint firstHz secondHz : Nat}
    (sameSide : firstHz < tbreakPoint ↔ secondHz < tbreakPoint) :
    DependsOnSetting socType (cacheDfllData socType found tune0At1785) start levelLow levelHigh
        tbreakPoint firstHz secondHz ↔
      socType = .erista ∨ appliedLevel socType (firstHz < tbreakPoint) levelLow levelHigh ≠ 0 := by
  constructor
  · intro depends
    cases socType with
    | erista => exact .inl rfl
    | mariko => exact .inr fun unset => not_dependsOnSetting start inRange sameSide unset depends
  · intro decided
    obtain ⟨registers, leaves, stock⟩ :=
      @tune_of_level socType (cacheDfllData socType found tune0At1785) levelLow levelHigh tbreakPoint
        inRange (firstHz < tbreakPoint) decided
    intro firstHistory secondHistory first second _ _ firstClock secondClock
    refine ⟨registers, leaves first ?_, leaves second ?_, stock⟩
    · rw [firstClock, decide_eq_true_iff]
    · rw [secondClock, decide_eq_true_iff, sameSide]

/-- The first level below the break point. -/
theorem live_undervolt_depends_on_setting_iff_first_level :
    DependsOnSetting .mariko (cacheDfllData .mariko ⟨0xFFCF, 0x12207FF⟩ 0) ⟨0, ⟨0xFFCF, 0x12207FF⟩⟩ 1 0
        1581000000 1020000000 1224000000 ↔
      SocType.mariko = .erista ∨
        appliedLevel .mariko ((1020000000 : Nat) < 1581000000) 1 0 ≠ 0 :=
  live_undervolt_depends_on_setting_iff .mariko ⟨0xFFCF, 0x12207FF⟩ 0 ⟨0, ⟨0xFFCF, 0x12207FF⟩⟩
    (show LevelsInRange .mariko 1 0 from ⟨by decide, by decide⟩) (by decide)

/-- A level that is taken back stays in the registers. -/
theorem live_undervolt_stays :
    let cached := cacheDfllData .mariko ⟨0xFFCF, 0x12207FF⟩ 0
    let start : DfllState := { cpuHz := 1020000000, registers := ⟨0xFFCF, 0x12207FF⟩ }
    start.after .mariko cached [.tunings 1 0 1581000000, .tunings 0 0 1581000000] =
        some { cpuHz := 1020000000, registers := ⟨0xffa0, 0x21107ff⟩ } ∧
      ¬∀ (socType : SocType) (found : DfllRegisters) (tune0At1785 : Word) (start : DfllState)
        (levelLow levelHigh tbreakPoint firstHz secondHz : Nat),
        LevelsInRange socType levelLow levelHigh →
          (firstHz < tbreakPoint ↔ secondHz < tbreakPoint) →
            DependsOnSetting socType (cacheDfllData socType found tune0At1785) start levelLow
              levelHigh tbreakPoint firstHz secondHz := by
  intro cached start
  refine ⟨by decide, fun depends => ?_⟩
  have zero : LevelsInRange .mariko 0 0 := ⟨by decide, by decide⟩
  exact not_dependsOnSetting start zero Iff.rfl (by decide)
    (depends .mariko ⟨0xFFCF, 0x12207FF⟩ 0 start 0 0 1581000000 1020000000 1020000000 zero Iff.rfl)

end HorizonOc.Sysmodule
