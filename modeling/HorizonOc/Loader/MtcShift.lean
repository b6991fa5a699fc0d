import HorizonOc.Loader.MtcTables

namespace HorizonOc.Loader.Erista

open HorizonOc.Data

/-- One of the copies of the stock table that is to be scaled. -/
def copyTable (ptr : Int) (shifts index : Nat) (store : Image) : Image :=
  { store with
    word := writeBlock store.word (mtcTable ptr (khzList.length - index - 1)) eristaMtcWords
      (block store.word (mtcTable ptr (khzList.length - shifts - 1))) }

section

variable {platform : Platform} {ptr : Int} {shifts : Nat}

theorem copyTable_mtcAt {count : Nat} (bounded : shifts < 10) (least : count < shifts)
    (store : Image) (index : Int) :
    mtcAt (copyTable ptr shifts count store).word ptr index =
      if index = 9 - count then mtcAt store.word ptr (9 - shifts)
      else mtcAt store.word ptr index := by
  have size : khzList.length = 10 := rfl
  have target : mtcTable ptr (khzList.length - count - 1) = mtcAddress ptr (9 - count) := by
    rw [mtcTable_eq]
    congr 1
    omega
  have source : mtcTable ptr (khzList.length - shifts - 1) = mtcAddress ptr (9 - shifts) := by
    rw [mtcTable_eq]
    congr 1
    omega
  simp only [copyTable]
  rw [target, source]
  refine (mtcAt_copy 1).trans ?_
  by_cases same : index = 9 - count
  · rw [if_pos (by omega), if_pos same]
    congr 1
    omega
  · rw [if_neg (by omega), if_neg same]

/-- The last tables are overwritten with the one before them. -/
theorem copyTables_mtcAt (bounded : shifts < 10) (store : Image) (count : Nat)
    (least : count ≤ shifts) :
    ∃ word, (List.range count).foldl (fun before index => copyTable ptr shifts index before) store =
        { store with word } ∧
      ∀ index : Int, mtcAt word ptr index =
        if 10 - count ≤ index ∧ index < 10 then mtcAt store.word ptr (9 - shifts)
        else mtcAt store.word ptr index := by
  induction count with
  | zero =>
      refine ⟨store.word, rfl, fun index => ?_⟩
      rw [if_neg (by omega)]
  | succ count ih =>
      obtain ⟨word, folded, tables⟩ := ih (by omega)
      rw [List.range_succ, List.foldl_append, folded]
      refine ⟨_, rfl, fun index => ?_⟩
      refine (copyTable_mtcAt bounded (by omega) _ index).trans ?_
      have source := tables (9 - shifts)
      rw [if_neg (by omega)] at source
      by_cases last : index = 9 - count
      · rw [if_pos last, if_pos (by omega)]
        exact source
      · rw [if_neg last]
        refine (tables index).trans ?_
        by_cases later : 10 - count ≤ index ∧ index < 10
        · rw [if_pos later, if_pos (by omega)]
        · rw [if_neg later, if_neg (by omega)]

theorem copyTables_run (ptr : Int) (bounded : shifts < 10) (store : Image) :
    ∃ word, Tracked.run ((List.range shifts).forM fun index =>
        Tracked.copyBlock (mtcTable ptr (khzList.length - index - 1))
          (mtcTable ptr (khzList.length - shifts - 1)) eristaMtcWords : Patcher PUnit) store =
        (.ok ⟨⟩, { store with word }) ∧
      ∀ index : Int, mtcAt word ptr index =
        if 10 - shifts ≤ index ∧ index < 10 then mtcAt store.word ptr (9 - shifts)
        else mtcAt store.word ptr index := by
  obtain ⟨word, folded, tables⟩ := copyTables_mtcAt bounded store shifts (Nat.le_refl shifts)
  refine ⟨word, ?_, tables⟩
  rw [← folded]
  exact Tracked.run_forM (fun _ _ => Tracked.run_copyBlock _ _ _) _ store

/-- The tables behind the lowest ones move to the front. -/
theorem moveTables_mtcAt (word : Int → Word) (index : Int) :
    mtcAt (writeBlock word (mtcTable ptr 0) (eristaMtcWords * (khzList.length - shifts))
        (block word (mtcTable ptr shifts))) ptr index =
      if 0 ≤ index ∧ index < 10 - shifts then mtcAt word ptr (index + shifts)
      else mtcAt word ptr index := by
  have size : khzList.length = 10 := rfl
  refine (mtcAt_copy (khzList.length - shifts)).trans ?_
  by_cases front : 0 ≤ index ∧ index < 10 - shifts
  · rw [if_pos front, if_pos (by omega)]
    congr 1
    omega
  · rw [if_neg front, if_neg (by omega)]

variable {store : Image}

theorem memFreqMtcTable_skipped (stock : ¬emcClkOSLimit < getMaxOfArr store.rest.maxEmcClocks) :
    Tracked.run (memFreqMtcTable platform ptr) store = (.ok ⟨⟩, store) := by
  rw [memFreqMtcTable, Tracked.run_getRest_bind, if_pos (by bv_omega), Tracked.run_pure]

/-- Where a table is missing, nothing but the order of the persistent clocks changes. -/
theorem memFreqMtcTable_invalid (exceeds : emcClkOSLimit < getMaxOfArr store.rest.maxEmcClocks)
    (missing : ¬StockMtcTables store.word ptr) :
    Tracked.run (memFreqMtcTable platform ptr) store =
      (.error .invalidMtcTable, { store with
        rest := { store.rest with maxEmcClocks := sortClocks store.rest.maxEmcClocks } }) := by
  rw [stockMtcTables_iff] at missing
  rw [memFreqMtcTable, Tracked.run_getRest_bind, if_neg (by bv_omega), Tracked.run_setRest_bind]
  exact Tracked.run_bind_of_error ((validateMtcTables_run _ _ _ _ _).2 missing)

theorem memFreqMtcTable_shifts (exceeds : emcClkOSLimit < getMaxOfArr store.rest.maxEmcClocks)
    (stock : StockMtcTables store.word ptr) {left : List Word}
    (dropped : dropDuplicates (sortClocks store.rest.maxEmcClocks) = (shifts, left))
    (bounded : shifts < 10) (enough : (nonzero left).length = shifts) :
    ∃ word, Tracked.run (memFreqMtcTable platform ptr) store =
        (.ok ⟨⟩, { word, rest := { store.rest with maxEmcClocks := left } }) ∧
      (∀ index : Int, 0 ≤ index → index < 10 - shifts →
        mtcAt word ptr index = mtcAt store.word ptr (index + shifts)) ∧
      (∀ (position : Nat) clock, (nonzero left)[position]? = some clock →
        mtcAt word ptr (10 - shifts + position) =
          platform.eristaAutoAdjust (withRate (mtcAt store.word ptr 9) clock)) ∧
      ∀ index : Int, index < 0 ∨ 10 ≤ index →
        mtcAt word ptr index = mtcAt store.word ptr index := by
  have size : khzList.length = 10 := rfl
  have validated := (validateMtcTables_run eristaMtcWords mtcTableRev ptr khzList.reverse
    { store with rest := { store.rest with
      maxEmcClocks := sortClocks store.rest.maxEmcClocks } }).1 (stockMtcTables_iff.mp stock)
  rw [memFreqMtcTable, Tracked.run_getRest_bind, if_neg (by bv_omega), Tracked.run_setRest_bind,
    Tracked.run_bind_of_ok validated]
  simp only [dropped]
  rw [Tracked.run_setRest_bind, Tracked.run_bind_of_ok (Tracked.run_copyBlock _ _ _)]
  obtain ⟨copied, copies, tables⟩ := copyTables_run ptr bounded
    { word := writeBlock store.word (mtcTable ptr 0) (eristaMtcWords * (khzList.length - shifts))
        (block store.word (mtcTable ptr shifts))
      rest := { store.rest with maxEmcClocks := left } }
  obtain ⟨word, returned, scaled, kept⟩ := scaleTables_run left shifts (by omega) enough
    { word := copied, rest := { store.rest with maxEmcClocks := left } }
  rw [Tracked.run_bind_of_ok copies]
  simp only [moveTables_mtcAt] at tables
  refine ⟨word, returned, ?_, ?_, ?_⟩
  · intro index low high
    rw [kept index (by omega), tables index, if_neg (by omega), if_pos (by omega)]
  · intro position clock found
    have inside : position < shifts := by
      obtain ⟨below, -⟩ := List.getElem?_eq_some_iff.mp found
      omega
    rw [scaled position clock found, tables (10 - shifts + position), if_pos (by omega),
      if_pos (by omega), show (9 - shifts + shifts : Int) = 9 by omega]
  · intro index outside
    rw [kept index (by omega), tables index, if_neg (by omega), if_neg (by omega)]

end

/-- What calls lead to from the initial clocks, whatever else the images are and become. -/
inductive Reached (platform : Platform) (custom : CustomizeTable) : Image → Prop where
  | start {store : Image} (initial : store.rest.maxEmcClocks = custom.maxEmcClocks) :
      Reached platform custom store
  | call {before after : Image} (ptr : Int) (reached : Reached platform custom before)
      (clocks : after.rest.maxEmcClocks =
        (memFreqMtcTable platform ptr before).store.rest.maxEmcClocks) :
      Reached platform custom after

/-- The stock tables but the lowest, and then the 1600 MHz table scaled to each clock. -/
structure ShiftedTables (platform : Platform) (clocks : List Word) (before after : Int → Word)
    (ptr : Int) : Prop where
  kept : ∀ index : Nat, index + clocks.length < 10 →
    mtcAt after ptr index = mtcAt before ptr (index + clocks.length)
  scaled : ∀ index (inside : index < clocks.length),
    mtcAt after ptr (10 - clocks.length + index) =
      platform.eristaAutoAdjust (withRate (mtcAt before ptr 9) clocks[index])
  rates : ∀ index (inside : index < clocks.length),
    rateKhz (mtcAt after ptr (10 - clocks.length + index)) = clocks[index]
  ascending : ∀ low high : Nat, low < high → high < 10 →
    rateKhz (mtcAt after ptr low) < rateKhz (mtcAt after ptr high)
  outside : ∀ address, address < mtcTable ptr 0 ∨ mtcTable ptr 10 ≤ address →
    after address = before address

section

variable {platform : Platform} {custom : CustomizeTable} {requested : List Word} {ptr : Int}
  {store : Image}

theorem rateKhz_withRate (table : MtcTable eristaMtcWords) (clock : Word) :
    rateKhz (withRate table clock) = clock := by
  rw [rateKhz, withRate, if_pos rfl]

/-- A call on stock tables, in terms of the requested clocks. -/
theorem AsksFor.shifted (asks : AsksFor requested store.rest.maxEmcClocks)
    (few : requested.length < 10) (exceeds : emcClkOSLimit < getMaxOfArr store.rest.maxEmcClocks)
    (stock : StockMtcTables store.word ptr) :
    ∃ word left, Tracked.run (memFreqMtcTable platform ptr) store =
        (.ok ⟨⟩, { word, rest := { store.rest with maxEmcClocks := left } }) ∧
      AsksFor requested left ∧ (overclocks requested).length < 10 ∧
      (∀ index : Int, 0 ≤ index → index < 10 - (overclocks requested).length →
        mtcAt word ptr index = mtcAt store.word ptr (index + (overclocks requested).length)) ∧
      (∀ (position : Nat) clock, (overclocks requested)[position]? = some clock →
        mtcAt word ptr (10 - (overclocks requested).length + position) =
          platform.eristaAutoAdjust (withRate (mtcAt store.word ptr 9) clock)) ∧
      ∀ index : Int, index < 0 ∨ 10 ≤ index →
        mtcAt word ptr index = mtcAt store.word ptr index := by
  have dropped := sorted_deduplicated exceeds
  have requestedClocks := asks.sorted.left_eq dropped
  have asksLeft := asks.sorted.deduplicated dropped
  have shifts := dropped.shifts_eq
  rw [requestedClocks] at shifts
  have fewer : (overclocks requested).length ≤ requested.length := by
    rw [← requestedClocks, ← asksLeft.length_eq]
    exact List.length_filter_le _ _
  obtain ⟨word, returned, kept, scaled, outside⟩ := memFreqMtcTable_shifts exceeds stock
    (Prod.ext shifts rfl) (by omega) (congrArg List.length requestedClocks)
  rw [requestedClocks] at scaled
  exact ⟨word, _, returned, asksLeft, by omega, kept, scaled, outside⟩

/-- One call keeps what the persistent clocks ask for. -/
theorem AsksFor.call (asks : AsksFor requested store.rest.maxEmcClocks)
    (few : requested.length < 10) (platform : Platform) (ptr : Int) :
    AsksFor requested (memFreqMtcTable platform ptr store).store.rest.maxEmcClocks := by
  by_cases exceeds : emcClkOSLimit < getMaxOfArr store.rest.maxEmcClocks
  · by_cases stock : StockMtcTables store.word ptr
    · obtain ⟨word, left, returned, asksLeft, -⟩ := asks.shifted few exceeds stock
      rw [(Prod.mk.inj returned).2]
      exact asksLeft
    · rw [(Prod.mk.inj (memFreqMtcTable_invalid exceeds stock)).2]
      exact asks.sorted
  · rw [(Prod.mk.inj (memFreqMtcTable_skipped exceeds)).2]
    exact asks

theorem Reached.asksFor (reached : Reached platform custom store) :
    AsksFor custom.maxEmcClocks store.rest.maxEmcClocks := by
  induction reached with
  | start initial => exact initial ▸ AsksFor.refl _
  | call ptr reached clocks ih =>
      rw [clocks]
      exact ih.call (by simp [CustomizeTable.maxEmcClocks]) platform ptr

theorem khzList_ascending : khzList.Pairwise fun low high => low < high := by decide +kernel

theorem khzList_le : ∀ rate ∈ khzList, rate ≤ emcClkOSLimit := by
  simp [khzList, emcClkOSLimit]

/-- The rates that are left with the clocks behind them. -/
theorem shifted_ascending (requested : List Word) (count : Nat) :
    (khzList.drop count ++ overclocks requested).Pairwise fun low high => low < high := by
  rw [List.pairwise_append]
  refine ⟨khzList_ascending.drop, overclocks_ascending requested, ?_⟩
  intro rate stock clock member
  have low := khzList_le rate (List.mem_of_mem_drop stock)
  have high := (mem_overclocks.mp member).2
  bv_omega

/-- The adjustment writes no rate. -/
theorem rateKhz_eristaAutoAdjust (platform : Platform) (table : MtcTable eristaMtcWords) :
    rateKhz (platform.eristaAutoAdjust table) = rateKhz table := by
  rw [rateKhz, Platform.eristaAutoAdjust, writeWords, if_neg rateKhzOffset_kept, rateKhz]

theorem shiftedTables_of_tables {after : Int → Word}
    (few : (overclocks requested).length < 10) (stock : StockMtcTables store.word ptr)
    (kept : ∀ index : Int, 0 ≤ index → index < 10 - (overclocks requested).length →
      mtcAt after ptr index = mtcAt store.word ptr (index + (overclocks requested).length))
    (scaled : ∀ (position : Nat) clock, (overclocks requested)[position]? = some clock →
      mtcAt after ptr (10 - (overclocks requested).length + position) =
        platform.eristaAutoAdjust (withRate (mtcAt store.word ptr 9) clock))
    (outside : ∀ index : Int, index < 0 ∨ 10 ≤ index →
      mtcAt after ptr index = mtcAt store.word ptr index) :
    ShiftedTables platform (overclocks requested) store.word after ptr := by
  have size : khzList.length = 10 := rfl
  have clockRates (index : Nat) (inside : index < (overclocks requested).length) :
      rateKhz (mtcAt after ptr (10 - (overclocks requested).length + index)) =
        (overclocks requested)[index] := by
    rw [scaled index _ (List.getElem?_eq_getElem inside), rateKhz_eristaAutoAdjust, rateKhz_withRate]
  have rates (index : Nat) (inside : index < 10) :
      (khzList.drop (overclocks requested).length ++ overclocks requested)[index]? =
        some (rateKhz (mtcAt after ptr index)) := by
    by_cases front : index < 10 - (overclocks requested).length
    · have moved : mtcAt after ptr index =
          mtcAt store.word ptr (index + (overclocks requested).length : Nat) :=
        kept index (by omega) (by omega)
      have stockRate := (stock (index + (overclocks requested).length) (by omega)).1
      rw [List.getElem?_append_left (by rw [List.length_drop]; omega), List.getElem?_drop, moved,
        stockRate, Nat.add_comm, List.getElem?_eq_getElem]
    · have position : (index : Int) = 10 - (overclocks requested).length +
          (index - (10 - (overclocks requested).length) : Nat) := by omega
      have rate := clockRates (index - (10 - (overclocks requested).length)) (by omega)
      rw [← position] at rate
      rw [List.getElem?_append_right (by rw [List.length_drop]; omega), List.length_drop, size,
        List.getElem?_eq_getElem (by omega), rate]
  constructor
  · intro index inside
    exact kept index (by omega) (by omega)
  · intro index inside
    exact scaled index _ (List.getElem?_eq_getElem inside)
  · exact clockRates
  · intro low high below bounded
    obtain ⟨lowInside, lowRate⟩ := List.getElem?_eq_some_iff.mp (rates low (by omega))
    obtain ⟨highInside, highRate⟩ := List.getElem?_eq_some_iff.mp (rates high bounded)
    rw [← lowRate, ← highRate]
    exact List.pairwise_iff_getElem.mp (shifted_ascending requested _) low high lowInside
      highInside below
  · intro address away
    apply eq_of_mtcAt_eq ptr
    apply outside
    rw [mtcTable_eq, mtcTable_eq] at away
    unfold mtcAddress eristaMtcWords at *
    omega

end

/-- Every call, also a later one on other tables, shifts ten stock tables by the number of distinct
clocks above the limit and scales the last ones to these; where a table is missing no word changes. -/
theorem mtcTables_shifted (platform : Platform)
    (custom : CustomizeTable) (exceeds : emcClkOSLimit < getMaxOfArr custom.maxEmcClocks)
    {store : Image} (reached : Reached platform custom store) (ptr : Int) :
    (StockMtcTables store.word ptr →
      (memFreqMtcTable platform ptr store).succeeded = true ∧
        ShiftedTables platform (overclocks custom.maxEmcClocks) store.word
          (memFreqMtcTable platform ptr store).store.word ptr) ∧
    (¬StockMtcTables store.word ptr →
      (memFreqMtcTable platform ptr store).succeeded = false ∧
        (memFreqMtcTable platform ptr store).store.word = store.word) := by
  have asks := reached.asksFor
  have persistent := asks.over_iff.mpr exceeds
  constructor
  · intro stock
    obtain ⟨word, left, returned, -, few, kept, scaled, outside⟩ :=
      asks.shifted (by simp [CustomizeTable.maxEmcClocks]) persistent stock
    obtain ⟨result, stored⟩ := Prod.mk.inj returned
    rw [Outcome.succeeded, result, stored]
    exact ⟨rfl, shiftedTables_of_tables few stock kept scaled outside⟩
  · intro missing
    obtain ⟨result, stored⟩ := Prod.mk.inj (memFreqMtcTable_invalid persistent missing)
    rw [Outcome.succeeded, result, stored]
    exact ⟨rfl, rfl⟩

/-- The words of an image with the ten stock tables at its start. -/
def stockMtcWords (address : Int) : Word :=
  if address % eristaMtcWords = 0 then mtcTableRev
  else if address % eristaMtcWords = rateKhzOffset then
    khzList.getD (address / eristaMtcWords).toNat 0
  else 0

theorem stockMtcWords_stock :
    StockMtcTables stockMtcWords (eristaMtcWords * 9 + rateKhzOffset) := by
  unfold StockMtcTables
  decide +kernel

/-- A platform whose every timing is the clock. -/
def clockTimings : Platform where
  eristaTimings table _ := rateKhz table
  marikoAutoAdjust := id
  i2cSucceeds _ := true

/-- Two clocks above the limit; the last table is at the higher one, with its timings. -/
theorem mtcTables_shifted_sample :
    let custom := { shipped with eristaEmcMaxClock := 2131200, eristaEmcMaxClock1 := 1862400 }
    let store : Image :=
      { word := stockMtcWords, rest := { maxEmcClocks := custom.maxEmcClocks, i2cCalls := 0 } }
    let ptr : Int := eristaMtcWords * 9 + rateKhzOffset
    let after := (memFreqMtcTable clockTimings ptr store).store.word
    overclocks custom.maxEmcClocks = [1862400, 2131200] ∧
      ShiftedTables clockTimings (overclocks custom.maxEmcClocks) store.word after ptr ∧
      mtcAt after ptr 9 ⟨71, by decide⟩ = 2131200 ∧ mtcAt after ptr 9 ⟨72, by decide⟩ = 2131200 ∧
      mtcAt store.word ptr 9 ⟨71, by decide⟩ = 0 := by
  intro custom store ptr after
  have clocks : overclocks custom.maxEmcClocks = [1862400, 2131200] := by decide +kernel
  have reached : Reached clockTimings custom store := .start rfl
  have shifted :=
    ((mtcTables_shifted clockTimings custom (by decide +kernel) reached ptr).1 stockMtcWords_stock).2
  have last := shifted.scaled 1 (by rw [clocks]; decide)
  simp only [clocks] at last
  refine ⟨clocks, shifted, ?_, ?_, rfl⟩
  · exact (congrFun last ⟨71, by decide⟩).trans rfl
  · exact (congrFun last ⟨72, by decide⟩).trans rfl

end HorizonOc.Loader.Erista
