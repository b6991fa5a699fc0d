import HorizonOc.Sysmodule.HandheldTimings

namespace HorizonOc.Sysmodule

structure DockedTimings where
  hFrontPorch : Nat
  hSyncWidth : Nat
  hBackPorch : Nat
  vFrontPorch : Nat
  vSyncWidth : Nat
  vBackPorch : Nat
  vic : Nat
  pixelClockKHz : Nat
deriving DecidableEq, Repr

/-- One row for each rate of the table. -/
def dockedTimings1080p : List DockedTimings :=
  [⟨8, 32, 40, 7, 8, 6, 0, 88080⟩, ⟨8, 32, 40, 9, 8, 6, 0, 99270⟩,
   ⟨528, 44, 148, 4, 5, 36, 31, 148500⟩, ⟨8, 32, 40, 15, 8, 6, 0, 121990⟩,
   ⟨88, 44, 148, 4, 5, 36, 16, 148500⟩, ⟨8, 32, 40, 22, 8, 6, 0, 156240⟩,
   ⟨8, 32, 40, 23, 8, 6, 0, 160848⟩, ⟨8, 32, 40, 25, 8, 6, 0, 167850⟩,
   ⟨8, 32, 40, 28, 8, 6, 0, 179520⟩, ⟨8, 32, 40, 33, 8, 6, 0, 202860⟩,
   ⟨8, 32, 40, 36, 8, 6, 0, 214700⟩, ⟨528, 44, 148, 4, 5, 36, 64, 297000⟩,
   ⟨8, 32, 40, 44, 8, 6, 0, 250360⟩, ⟨88, 44, 148, 4, 5, 36, 63, 297000⟩,
   ⟨8, 32, 40, 55, 8, 6, 0, 298750⟩, ⟨8, 32, 40, 61, 8, 6, 0, 323400⟩,
   ⟨8, 32, 40, 63, 8, 6, 0, 333216⟩, ⟨8, 32, 40, 67, 8, 6, 0, 348300⟩,
   ⟨8, 32, 40, 72, 8, 6, 0, 373120⟩, ⟨8, 32, 40, 75, 8, 6, 0, 385770⟩,
   ⟨8, 32, 40, 78, 8, 6, 0, 398480⟩, ⟨8, 32, 40, 84, 8, 6, 0, 424080⟩,
   ⟨8, 32, 40, 90, 8, 6, 0, 449920⟩, ⟨8, 32, 40, 96, 8, 6, 0, 476000⟩,
   ⟨8, 32, 40, 102, 8, 6, 0, 502320⟩, ⟨8, 32, 40, 108, 8, 6, 0, 528880⟩,
   ⟨8, 32, 40, 114, 8, 6, 0, 555680⟩, ⟨8, 32, 40, 121, 8, 6, 0, 583200⟩]

/-- The mode of the display outside. -/
structure DockedMode extends NvdcMode2 where
  bitsPerPixel : Nat
  vmode : Nat
  sync : Nat
  unk1 : Nat
deriving DecidableEq, Repr

def DockedMode.withClock (mode : DockedMode) (rate : Nat) : DockedMode :=
  { mode with pclkKHz := toU32 (toU32 (mode.hTotal * mode.vTotal) * rate) / 1000 }

def DockedMode.withDockedTimings (mode : DockedMode) (timings : DockedTimings) (rate : Nat) :
    DockedMode :=
  { mode with
    hFrontPorch := timings.hFrontPorch
    hSyncWidth := timings.hSyncWidth
    hBackPorch := timings.hBackPorch
    vFrontPorch := timings.vFrontPorch
    vSyncWidth := timings.vSyncWidth
    vBackPorch := timings.vBackPorch
    pclkKHz := timings.pixelClockKHz
    vmode := if 100 ≤ rate then 0x400000 else 0x200000
    unk1 := if 100 ≤ rate then 0x80 else 0
    sync := 3
    bitsPerPixel := 24 }

/-- The iterator is an `int8_t`, and -1 until a row is found. -/
def toS8 (value : Nat) : Int := (value : Int).bmod (2 ^ 8)

def getDockedRefreshRateIterator (refreshRate : Nat) : Nat :=
  (dockedRefreshRates.findIdx? (· = refreshRate)).getD 0xFF

/-- The first row that passes a test; the iterator stays as it is where none does. -/
def firstDockedRow (test : Nat → Bool) (itr : Int) : Int :=
  ((dockedRefreshRates.findIdx? test).map toS8).getD itr

/-- A rate of 0, by which the code would divide, does not come here. -/
def matchedDockedItr (matchLowestDocked : Bool) (rate : Nat) : Int :=
  let itr := if rate ≤ 60 ∧ 60 % rate = 0 then toS8 (getDockedRefreshRateIterator 60) else -1
  let itr := if itr = -1 then firstDockedRow (· % rate = 0) itr else itr
  let itr :=
    if itr = -1 then
      if !matchLowestDocked then toS8 (getDockedRefreshRateIterator 60)
      else firstDockedRow (rate < ·) itr
    else itr
  if itr = -1 then toS8 (getDockedRefreshRateIterator 60) else itr

/-- The rate of a row; none outside of the table. -/
def dockedRateAt (itr : Int) : Option Nat :=
  if itr < 0 then none else dockedRefreshRates[itr.toNat]?

/-- The row up to the matched one that the display takes, searched downwards. -/
def clampedDockedItr (highest : Nat) (itr : Int) : Option Int :=
  (dockedRateAt itr).map fun rate =>
    if highest < rate then
      (((List.range (itr.toNat + 1)).reverse.find? fun row =>
        dockedRefreshRates.getD row 0 ≤ highest).map Int.ofNat).getD itr
    else itr

def Display.chosenDockedItr (display : Display) (rate : Nat) : Option Int :=
  clampedDockedItr display.dockedHighestRefreshRate
    (matchedDockedItr display.matchLowestDocked rate)

/-- How `/dev/nvdisp-disp1` answers; none where the mode cannot be read. -/
structure DockedPanel where
  opens : Bool
  mode : Option DockedMode
  validates : Bool
deriving DecidableEq, Repr

inductive DockedResult where
  | failed
  | pastTable
  | kept (itr : Int)
  | refused (itr : Int) (mode : DockedMode)
  | programmed (itr : Int) (mode : DockedMode)
deriving DecidableEq, Repr

/-- The mode that a row gives; none past the rows. -/
def DockedMode.atRow (mode : DockedMode) (itr : Int) (rate : Nat) : Option DockedMode :=
  if mode.vActive = 720 then some (mode.withClock rate)
  else (dockedTimings1080p[itr.toNat]?).map fun timings => mode.withDockedTimings timings rate

def DockedPanel.program (panel : DockedPanel) (mode : DockedMode) (itr : Int) (rate : Nat) :
    DockedResult :=
  if mode.refreshRateNow = rate then .kept itr
  else if 0 ≤ itr ∧ itr < toS8 dockedRefreshRates.length then
    match mode.atRow itr rate with
    | none => .pastTable
    | some after => if panel.validates then .programmed itr after else .refused itr after
  else .kept itr

def setNvDispDockedRefreshRate (display : Display) (canChangeRefreshRateDocked : Bool)
    (panel : DockedPanel) (newRefreshRate : Nat) : DockedResult :=
  if display.isLite || !canChangeRefreshRateDocked then .failed
  else if !panel.opens then .failed
  else
    match panel.mode with
    | none => .failed
    | some mode =>
        if mode.pclkKHz = 0 then .failed
        else if ¬((mode.vActive = 480 ∧ mode.hActive = 720) ∨
            (mode.vActive = 720 ∧ mode.hActive = 1280) ∨
            (mode.vActive = 1080 ∧ mode.hActive = 1920)) then .failed
        else
          match display.chosenDockedItr newRefreshRate with
          | none => .pastTable
          | some itr =>
              match dockedRateAt itr with
              | none => .pastTable
              | some rate => panel.program mode itr rate

/-- The row that was chosen, where the function came to choose one. -/
def DockedResult.itr : DockedResult → Option Int
  | .failed | .pastTable => none
  | .kept itr | .refused itr _ | .programmed itr _ => some itr

theorem dockedRateAt_toS8 {row : Nat} (inside : row < dockedRefreshRates.length) :
    dockedRateAt (toS8 row) = dockedRefreshRates[row]? := by
  have rows : ∀ row < 28, dockedRateAt (toS8 row) = dockedRefreshRates[row]? := by decide
  exact rows row inside

theorem dockedRateAt_bounds {itr : Int} {rate : Nat} (found : dockedRateAt itr = some rate) :
    0 ≤ itr ∧ itr < dockedRefreshRates.length := by
  unfold dockedRateAt at found
  split at found
  · contradiction
  · have inside := (List.getElem?_eq_some_iff.mp found).1
    omega

section

variable {test : Nat → Bool}

theorem firstDockedRow_of_some (itr : Int) {entry : Nat}
    (found : dockedRefreshRates.find? test = some entry) :
    dockedRateAt (firstDockedRow test itr) = some entry := by
  rw [List.find?_eq_bind_findIdx?_getElem?] at found
  obtain ⟨row, index, there⟩ := Option.bind_eq_some_iff.mp found
  have inside := (List.getElem?_eq_some_iff.mp there).1
  rw [firstDockedRow, index, Option.map_some, Option.getD_some, dockedRateAt_toS8 inside, there]

theorem firstDockedRow_of_none {itr : Int} (missed : dockedRefreshRates.find? test = none) :
    firstDockedRow test itr = itr := by
  have absent : dockedRefreshRates.findIdx? test = none := by
    rw [List.findIdx?_eq_none_iff]
    intro entry member
    simpa using List.find?_eq_none.mp missed entry member
  rw [firstDockedRow, absent, Option.map_none, Option.getD_none]

theorem ne_sentinel {itr : Int} {rate : Nat} (found : dockedRateAt itr = some rate) : itr ≠ -1 := by
  have inside := (dockedRateAt_bounds found).1
  omega

end

theorem dockedRateAt_matchedDockedItr (matchLowestDocked : Bool) (rate : Nat) :
    dockedRateAt (matchedDockedItr matchLowestDocked rate) =
      some (matchedDockedRate matchLowestDocked rate) := by
  have sixty : toS8 (getDockedRefreshRateIterator 60) = 4 := by decide
  have sixtyRate : dockedRateAt 4 = some 60 := by decide
  unfold matchedDockedItr matchedDockedRate
  rw [sixty]
  by_cases divides : rate ≤ 60 ∧ 60 % rate = 0
  · simp only [if_pos divides, sixtyRate, show ¬(4 : Int) = -1 by decide, if_false]
  · simp only [if_neg divides, if_true]
    cases multiple : dockedRefreshRates.find? (· % rate = 0) with
    | some entry =>
        have row := firstDockedRow_of_some (-1) multiple
        simp only [if_neg (ne_sentinel row), row]
    | none =>
        simp only [firstDockedRow_of_none multiple, if_true]
        cases matchLowestDocked with
        | false => simp [sixtyRate]
        | true =>
            cases above : dockedRefreshRates.find? (rate < ·) with
            | none => simp [firstDockedRow_of_none above, sixtyRate]
            | some entry =>
                have row := firstDockedRow_of_some (-1) above
                simp [ne_sentinel row, row]

theorem rates_downwards {row entry : Nat} (found : dockedRefreshRates[row]? = some entry) :
    (List.range (row + 1)).reverse.map (dockedRefreshRates.getD · 0) =
      (dockedRefreshRates.filter (· ≤ entry)).reverse := by
  have rows : ∀ row < 28, (List.range (row + 1)).reverse.map (dockedRefreshRates.getD · 0) =
      (dockedRefreshRates.filter (· ≤ dockedRefreshRates.getD row 0)).reverse := by decide +kernel
  have inside := (List.getElem?_eq_some_iff.mp found).1
  rw [rows row inside, List.getD_eq_getElem?_getD, found, Option.getD_some]

/-- The downward search ends in the row of the clamped rate. -/
theorem clampedDockedItr_exists (highest : Nat) {itr : Int} {entry : Nat}
    (found : dockedRateAt itr = some entry) :
    ∃ clamped, clampedDockedItr highest itr = some clamped ∧
      dockedRateAt clamped = some (clampedDockedRate highest entry) := by
  obtain ⟨positive, inside⟩ := dockedRateAt_bounds found
  have row : dockedRefreshRates[itr.toNat]? = some entry := by
    rwa [dockedRateAt, if_neg (by omega)] at found
  rw [clampedDockedItr, found, Option.map_some, clampedDockedRate]
  refine ⟨_, rfl, ?_⟩
  split
  · rw [← rates_downwards row, List.find?_map]
    cases search : (List.range (itr.toNat + 1)).reverse.find?
        fun row => decide (dockedRefreshRates.getD row 0 ≤ highest) with
    | none =>
        have missed : (List.range (itr.toNat + 1)).reverse.find?
            ((fun rate => decide (rate ≤ highest)) ∘ fun row => dockedRefreshRates.getD row 0) = none :=
          search
        rw [missed]
        exact found
    | some lower =>
        have hit : (List.range (itr.toNat + 1)).reverse.find?
            ((fun rate => decide (rate ≤ highest)) ∘ fun row => dockedRefreshRates.getD row 0) =
              some lower := search
        have listed := List.mem_of_find?_eq_some search
        rw [List.mem_reverse, List.mem_range] at listed
        have within : lower < dockedRefreshRates.length := by omega
        have there := List.getElem?_eq_getElem within
        rw [hit, Option.map_some, Option.map_some, Option.getD_some, Option.getD_some,
          List.getD_eq_getElem?_getD, there, Option.getD_some]
        exact there
  · exact found

theorem dockedRefreshRates_ascending : dockedRefreshRates.Pairwise (· < ·) := by decide

theorem find?_dockedRefreshRates_le {test : Nat → Bool} {first entry : Nat}
    (found : dockedRefreshRates.find? test = some first) (member : entry ∈ dockedRefreshRates)
    (passes : test entry = true) : first ≤ entry := by
  obtain ⟨-, before, later, split, skipped⟩ := List.find?_eq_some_iff_append.mp found
  have ascending := dockedRefreshRates_ascending
  rw [split] at member ascending
  rcases List.mem_append.mp member with early | late
  · simpa [passes] using skipped entry early
  · rcases List.mem_cons.mp late with rfl | beyond
    · exact Nat.le_refl _
    · exact Nat.le_of_lt ((List.pairwise_cons.mp (List.pairwise_append.mp ascending).2.1).1 _ beyond)

theorem dvd_clampedDockedRate {matchLowestDocked : Bool} {highest rate entry : Nat}
    (supported : 60 ≤ highest) (member : entry ∈ dockedRefreshRates) (allowed : entry ≤ highest)
    (divides : rate ∣ entry) :
    rate ∣ clampedDockedRate highest (matchedDockedRate matchLowestDocked rate) := by
  unfold matchedDockedRate
  split
  · rename_i sixty
    rw [clampedDockedRate, if_neg (by omega)]
    exact Nat.dvd_of_mod_eq_zero sixty.2
  · cases found : dockedRefreshRates.find? (· % rate = 0) with
    | none =>
        have absent := List.find?_eq_none.mp found entry member
        simp [Nat.mod_eq_zero_of_dvd divides] at absent
    | some first =>
        have least := find?_dockedRefreshRates_le found member
          (by simpa using Nat.mod_eq_zero_of_dvd divides)
        rw [clampedDockedRate, if_neg (Nat.not_lt.mpr (Nat.le_trans least allowed))]
        exact Nat.dvd_of_mod_eq_zero (by simpa using List.find?_some found)

theorem DockedPanel.program_itr {panel : DockedPanel} {mode : DockedMode} {itr other : Int} {rate : Nat}
    (came : (panel.program mode itr rate).itr = some other) : other = itr := by
  unfold DockedPanel.program at came
  split at came
  · exact (Option.some.inj came).symm
  · split at came
    · cases after : mode.atRow itr rate with
      | none => simp [after, DockedResult.itr] at came
      | some programmed =>
          simp only [after] at came
          split at came
          · exact (Option.some.inj came).symm
          · exact (Option.some.inj came).symm
    · exact (Option.some.inj came).symm

theorem setNvDispDockedRefreshRate_itr {display : Display} {canChangeRefreshRateDocked : Bool}
    {panel : DockedPanel} {rate : Nat} {itr : Int}
    (came : (setNvDispDockedRefreshRate display canChangeRefreshRateDocked panel rate).itr =
      some itr) : display.chosenDockedItr rate = some itr := by
  unfold setNvDispDockedRefreshRate at came
  split at came
  · contradiction
  split at came
  · contradiction
  split at came
  · contradiction
  split at came
  · contradiction
  split at came
  · contradiction
  split at came
  · contradiction
  · rename_i chosen found
    split at came
    · contradiction
    · rw [found, DockedPanel.program_itr came]

theorem DockedMode.atRow_exists (mode : DockedMode) {itr : Int} {rate chosen : Nat}
    (row : dockedRateAt itr = some chosen) : ∃ after, mode.atRow itr rate = some after := by
  obtain ⟨positive, inside⟩ := dockedRateAt_bounds row
  have rows : dockedTimings1080p.length = dockedRefreshRates.length := by decide
  have timings : itr.toNat < dockedTimings1080p.length := by omega
  unfold DockedMode.atRow
  split
  · exact ⟨_, rfl⟩
  · rw [List.getElem?_eq_getElem timings]
    exact ⟨_, rfl⟩

theorem DockedPanel.program_row (panel : DockedPanel) {mode after : DockedMode} {itr : Int}
    {chosen : Nat} (row : dockedRateAt itr = some chosen) (gives : mode.atRow itr chosen = some after) :
    panel.program mode itr chosen =
      if mode.refreshRateNow = chosen then .kept itr
      else if panel.validates then .programmed itr after else .refused itr after := by
  obtain ⟨positive, inside⟩ := dockedRateAt_bounds row
  have rows : toS8 dockedRefreshRates.length = dockedRefreshRates.length := by decide
  have inTable : 0 ≤ itr ∧ itr < toS8 dockedRefreshRates.length := by
    rw [rows]
    exact ⟨positive, inside⟩
  simp only [DockedPanel.program, if_pos inTable, gives]

/-- On a dock that can change its rate, a display in one of the three modes is programmed with the
row of the chosen index, unless it is at that rate already or does not take the mode. -/
theorem setNvDispDockedRefreshRate_programs {display : Display} {panel : DockedPanel}
    {mode : DockedMode} (rate : Nat) (dock : display.isLite = false) (opens : panel.opens = true)
    (read : panel.mode = some mode) (clocked : mode.pclkKHz ≠ 0)
    (supported : (mode.vActive = 480 ∧ mode.hActive = 720) ∨
      (mode.vActive = 720 ∧ mode.hActive = 1280) ∨ (mode.vActive = 1080 ∧ mode.hActive = 1920)) :
    ∃ itr chosen after, display.chosenDockedItr rate = some itr ∧ dockedRateAt itr = some chosen ∧
      mode.atRow itr chosen = some after ∧
      setNvDispDockedRefreshRate display true panel rate =
        if mode.refreshRateNow = chosen then .kept itr
        else if panel.validates then .programmed itr after else .refused itr after := by
  have matched := dockedRateAt_matchedDockedItr display.matchLowestDocked rate
  obtain ⟨itr, row, holds⟩ := clampedDockedItr_exists display.dockedHighestRefreshRate matched
  obtain ⟨after, gives⟩ := mode.atRow_exists holds
  have chosen : display.chosenDockedItr rate = some itr := row
  refine ⟨itr, _, after, chosen, holds, gives, ?_⟩
  rw [← panel.program_row holds gives]
  simp [setNvDispDockedRefreshRate, dock, opens, read, clocked, supported, chosen, holds]

/-- For every rate a row is chosen that the display takes, a multiple of the rate where it takes one
and the rate itself where it takes that. -/
theorem docked_rate_chosen (display : Display) (canChangeRefreshRateDocked : Bool)
    (panel : DockedPanel) (rate : Nat) :
    ∃ itr chosen, display.chosenDockedItr rate = some itr ∧
      (∀ other, (setNvDispDockedRefreshRate display canChangeRefreshRateDocked panel rate).itr =
        some other → other = itr) ∧
      (0 ≤ itr ∧ itr < dockedRefreshRates.length) ∧ dockedRateAt itr = some chosen ∧
      chosen ≤ display.dockedHighestRefreshRate ∧
      ((∃ entry ∈ dockedRefreshRates, entry ≤ display.dockedHighestRefreshRate ∧ rate ∣ entry) →
        rate ∣ chosen) ∧
      (rate ∈ dockedRefreshRates → rate ≤ display.dockedHighestRefreshRate → ¬rate ∣ 60 →
        chosen = rate) := by
  have matched := dockedRateAt_matchedDockedItr display.matchLowestDocked rate
  obtain ⟨itr, row, holds⟩ := clampedDockedItr_exists display.dockedHighestRefreshRate matched
  have spec := clampedDockedRate_spec display.highestAtLeast60
    (matchedDockedRate_mem display.matchLowestDocked rate)
  refine ⟨itr, _, row, ?_, dockedRateAt_bounds holds, holds, spec.2, ?_, ?_⟩
  · intro other came
    exact Option.some.inj ((setNvDispDockedRefreshRate_itr came).symm.trans row)
  · rintro ⟨entry, member, allowed, divides⟩
    exact dvd_clampedDockedRate display.highestAtLeast60 member allowed divides
  · intro member allowed _
    rw [matchedDockedRate_of_mem _ member]
    exact if_neg (Nat.not_lt.mpr allowed)

end HorizonOc.Sysmodule
