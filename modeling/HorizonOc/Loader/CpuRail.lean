import HorizonOc.Loader.CheckedVoltages
import HorizonOc.Loader.InstalledTables
import HorizonOc.Loader.SafetyCheck

namespace HorizonOc.Loader

open HorizonOc.Data

/-- The highest of the frequencies that the clock reaches, or the first where it reaches none. -/
structure IsCap (first : Word) (others : List Word) (clock rate : Word) : Prop where
  allowed : rate ∈ first :: others
  reached : rate = first ∨ rate ≤ clock
  highest : ∀ other ∈ others, other ≤ clock → other ≤ rate

section

variable {first clock rate : Word} {others : List Word}

theorem IsCap.le {other : Word} (ascending : (first :: others).Pairwise (· ≤ ·))
    (cap : IsCap first others clock rate) (another : IsCap first others clock other) :
    other ≤ rate := by
  obtain ⟨lowest, -⟩ := List.pairwise_cons.mp ascending
  have below : first ≤ rate := by
    rcases List.mem_cons.mp cap.allowed with same | later
    · exact BitVec.le_of_eq same.symm
    · exact lowest rate later
  rcases another.reached with same | reached
  · exact same ▸ below
  · rcases List.mem_cons.mp another.allowed with same | later
    · exact same ▸ below
    · exact cap.highest other later reached

theorem isCap_first (unreached : ∀ other ∈ others, ¬other ≤ clock) :
    IsCap first others clock first where
  allowed := List.mem_cons_self
  reached := .inl rfl
  highest other later reached := absurd reached (unreached other later)

theorem IsCap.unique {other : Word} (cap : IsCap first others clock rate)
    (another : IsCap first others clock other) (ascending : (first :: others).Pairwise (· ≤ ·)) :
    rate = other :=
  BitVec.le_antisymm (another.le ascending cap) (cap.le ascending another)

/-- In an ascending list the leading frequencies that the clock reaches are all that it reaches. -/
theorem takeWhile_isCap (ascending : (first :: others).Pairwise (· ≤ ·)) (clock : Word) :
    IsCap first others clock
      (((first :: others).takeWhile fun freq => freq ≤ clock).getLastD first) := by
  induction others generalizing first with
  | nil =>
      have kept : ([first].takeWhile fun freq => freq ≤ clock).getLastD first = first := by
        by_cases reached : first ≤ clock <;> simp [reached]
      rw [kept]
      exact isCap_first (by simp)
  | cons next rest ih =>
      obtain ⟨lowest, later⟩ := List.pairwise_cons.mp ascending
      obtain ⟨above, -⟩ := List.pairwise_cons.mp later
      by_cases reached : next ≤ clock
      · have passed : first ≤ clock := BitVec.le_trans (lowest next List.mem_cons_self) reached
        have cap := ih later
        simp only [List.takeWhile_cons, reached, passed, decide_true, if_true,
          List.getLastD_cons] at cap ⊢
        constructor
        · exact List.mem_cons_of_mem _ cap.allowed
        · rcases cap.reached with same | within
          · exact .inr (BitVec.le_trans (BitVec.le_of_eq same) reached)
          · exact .inr within
        · intro other member within
          rcases List.mem_cons.mp member with rfl | member
          · rcases List.mem_cons.mp cap.allowed with same | member
            · exact BitVec.le_of_eq same.symm
            · exact above _ member
          · exact cap.highest other member within
      · have unreached : ∀ other ∈ next :: rest, ¬other ≤ clock := by
          intro other member within
          rcases List.mem_cons.mp member with same | member
          · exact reached (same ▸ within)
          · exact reached (BitVec.le_trans (above other member) within)
        have kept : ((first :: next :: rest).takeWhile fun freq => freq ≤ clock).getLastD first =
            first := by
          by_cases passed : first ≤ clock <;> simp [passed, reached]
        rw [kept]
        exact isCap_first unreached

end

theorem Mariko.capCpuClock_isCap (custom : CustomizeTable) :
    IsCap 1963500 Mariko.allowedCpuMaxFrequencies.tail custom.marikoCpuMaxClock
      (Mariko.capCpuClock custom) :=
  takeWhile_isCap (by decide) custom.marikoCpuMaxClock

/-- The limit that is written; none where the table for it is empty. -/
def Mariko.railLimit (custom : CustomizeTable) : Option Word :=
  if custom.marikoCpuUVHigh ≠ 0 then some (Mariko.capCpuClock custom)
  else lastFreq custom.marikoCpuDvfsTable

/-- The table has an entry with the rate. -/
def HasRate (table : DvfsTable) (count : Nat) (rate : Word) : Prop :=
  ∃ index < count, (table index).freq = rate.toNat

section

variable {custom : CustomizeTable} {store : Image} {ptr : Int}

theorem cpuFreqVdd_run (custom : CustomizeTable) (ptr : Int) (store : Image) :
    Tracked.run (Mariko.cpuFreqVdd custom ptr) store =
      if MatchesAt store (ptr - 6) Mariko.cpuRailStock then
        match Mariko.railLimit custom with
        | none => (.error .nullTable, store)
        | some limit => (.ok ⟨⟩, { store with word := Function.update store.word ptr limit })
      else (.error .invalidCpuFreqVddEntry, store) := by
  have compared := (compareFields_compares (ptr - 6) Mariko.cpuRailStock).run store
  rw [Mariko.cpuFreqVdd, Tracked.run_bind_of_ok compared, Tracked.run_require_bind,
    Mariko.railLimit, lastFreq]
  simp only [decide_eq_true_eq]
  split
  · split
    · rfl
    · cases getDvfsTableLastEntry custom.marikoCpuDvfsTable <;> rfl
  · rfl

/-- The word that a successful patcher leaves as the maximum. -/
theorem cpuFreqVdd_limit (patched : (Mariko.cpuFreqVdd custom ptr store).succeeded = true) :
    Mariko.railLimit custom = some ((Mariko.cpuFreqVdd custom ptr store).store.word ptr) := by
  have run := cpuFreqVdd_run custom ptr store
  by_cases stock : MatchesAt store (ptr - 6) Mariko.cpuRailStock
  · rw [if_pos stock] at run
    cases limit : Mariko.railLimit custom with
    | none =>
        obtain ⟨result, -⟩ := Prod.mk.inj (limit ▸ run)
        rw [Outcome.succeeded, result] at patched
        contradiction
    | some rate =>
        obtain ⟨-, stored⟩ := Prod.mk.inj (limit ▸ run)
        rw [stored]
        simp
  · obtain ⟨result, -⟩ := Prod.mk.inj (if_neg stock ▸ run)
    rw [Outcome.succeeded, result] at patched
    contradiction

theorem cpuFreqCvbTable_stock {soc : Soc}
    (patched : (cpuFreqCvbTable soc custom ptr store).succeeded = true) :
    StockTable soc.cpuDefaultTable store ptr := by
  by_contra differs
  have compared : Tracked.run (Tracked.compareBlock (tableHead soc.cpuDefaultTable ptr)
      (cvbEntryWords * getDvfsTableEntryCount soc.cpuDefaultTable) soc.cpuDefaultTable.word :
        Patcher Bool) store = (.ok false, store) :=
    Prod.ext (congrArg Except.ok (decide_eq_false differs)) rfl
  have failed : Tracked.run (installTable soc.cpuDefaultTable (soc.cpuCustomizeTable custom)
      .invalidCpuDvfs ptr) store = (.error .invalidCpuDvfs, store) := by
    rw [installTable, Tracked.run_bind_of_ok compared]
    rfl
  have run : Tracked.run (cpuFreqCvbTable soc custom ptr) store =
      (.error .invalidCpuDvfs, store) := by
    rw [cpuFreqCvbTable, Tracked.run_bind_of_error failed]
  obtain ⟨result, -⟩ := Prod.mk.inj run
  rw [Outcome.succeeded, result] at patched
  contradiction

/-- The rates of the entries that are installed are those of the customized table. -/
theorem cpuFreqCvbTable_hasRate {soc : Soc}
    (patched : (cpuFreqCvbTable soc custom ptr store).succeeded = true) (rate : Word) :
    HasRate (tableAt (cpuFreqCvbTable soc custom ptr store).store.word
        (tableHead soc.cpuDefaultTable ptr))
        (getDvfsTableEntryCount (soc.cpuCustomizeTable custom)) rate ↔
      HasRate (soc.cpuCustomizeTable custom)
        (getDvfsTableEntryCount (soc.cpuCustomizeTable custom)) rate := by
  obtain ⟨final, run, entries⟩ := cpuFreqCvbTable_run custom (cpuFreqCvbTable_stock patched)
  obtain ⟨-, stored⟩ := Prod.mk.inj run
  rw [stored]
  refine exists_congr fun index => and_congr_right fun below => ?_
  rw [entries, if_pos below, CvbEntry.freq, cpuInstalled_freqLow, cpuInstalled_freqHigh,
    CvbEntry.freq]

end

def stockCpuRates : List Word :=
  [204000, 306000, 408000, 510000, 612000, 714000, 816000, 918000, 1020000, 1122000, 1224000,
   1326000, 1428000, 1581000, 1683000, 1785000, 1887000, 1963500]

theorem hasRate_stock {rate : Word} :
    HasRate Mariko.cpuCvbTableDefault (getDvfsTableEntryCount Mariko.cpuCvbTableDefault) rate ↔
      rate ∈ stockCpuRates := by
  have count : getDvfsTableEntryCount Mariko.cpuCvbTableDefault = 18 := by decide +kernel
  have narrow : ∀ index < 18, (Mariko.cpuCvbTableDefault index).freqHigh = 0 := by decide +kernel
  have rates : (List.range 18).map (fun index => (Mariko.cpuCvbTableDefault index).freqLow) =
      stockCpuRates := by decide +kernel
  rw [← rates, count, List.mem_map]
  refine exists_congr fun index => ?_
  rw [List.mem_range]
  refine and_congr_right fun below => ?_
  rw [CvbEntry.freq, narrow index below, ← BitVec.toNat_inj]
  rfl

/-- Only the lowest cap is a rate of the stock table. -/
theorem cap_in_stock {clock rate : Word}
    (cap : IsCap 1963500 Mariko.allowedCpuMaxFrequencies.tail clock rate) :
    rate ∈ stockCpuRates ↔ clock < 2091000 := by
  have second : (2091000 : Word) ∈ Mariko.allowedCpuMaxFrequencies.tail := by
    simp [Mariko.allowedCpuMaxFrequencies]
  have overclocked : ∀ allowed ∈ Mariko.allowedCpuMaxFrequencies.tail,
      (2091000 : Word) ≤ allowed ∧ allowed ∉ stockCpuRates := by
    simp [Mariko.allowedCpuMaxFrequencies, stockCpuRates]
  have lowest : (1963500 : Word) ∈ stockCpuRates := by simp [stockCpuRates]
  constructor
  · intro stock
    rcases List.mem_cons.mp cap.allowed with rfl | higher
    · by_contra fast
      exact absurd (cap.highest _ second (BitVec.not_lt.mp fast)) (by simp)
    · exact absurd stock (overclocked rate higher).2
  · intro slow
    rcases List.mem_cons.mp cap.allowed with rfl | higher
    · exact lowest
    · have above := (overclocked rate higher).1
      rcases cap.reached with rfl | reached
      · exact lowest
      · exact absurd slow (BitVec.not_lt.mpr (BitVec.le_trans above reached))

theorem safe_marikoCpu {custom : CustomizeTable} (safe : safetyCheck custom = true) :
    ∃ rate, lastFreq (Soc.mariko.cpuCheckedTable custom) = some rate ∧
      (rate = 0 ∨ 1785000 ≤ rate ∧ rate ≤ 2703000) := by
  obtain ⟨marikoCpu, last, within⟩ := (safeValues_of_safe safe).marikoCpu
  refine ⟨marikoCpu.freqLow, by rw [lastFreq, last, Option.map_some], ?_⟩
  unfold AbsentOrWithin at within
  bv_omega

/-- A setting that chooses one of the customized tables. -/
def CustomizeTable.choosesTable (custom : CustomizeTable) : Prop :=
  custom.tableConf = tbreak1683 ∨ custom.tableConf = tbreak1581 ∨ custom.tableConf = extremeTable

/-- The limit follows from `marikoCpuUVHigh`, the table from `tableConf`.  The stock table, which
stays unless a table is chosen, has no entry above 1963.5 MHz. -/
def RailLimitHasEntry (custom : CustomizeTable) : Prop :=
  (custom.choosesTable → ∀ rate,
    (custom.marikoCpuUVHigh ≠ 0 → IsCap 1963500 Mariko.allowedCpuMaxFrequencies.tail
      custom.marikoCpuMaxClock rate) →
    (custom.marikoCpuUVHigh = 0 → lastFreq custom.marikoCpuDvfsTable = some rate) →
      HasRate (Soc.mariko.cpuCustomizeTable custom)
        (getDvfsTableEntryCount (Soc.mariko.cpuCustomizeTable custom)) rate) ∧
  (¬custom.choosesTable → custom.marikoCpuUVHigh ≠ 0 → custom.marikoCpuMaxClock < 2091000) ∧
  (¬custom.choosesTable → custom.marikoCpuUVHigh = 0 →
    lastFreq custom.marikoCpuDvfsTable ∈ [some 1785000, some 1887000, some 1963500])

theorem cpuCustomizeTable_default {custom : CustomizeTable} (unchosen : ¬custom.choosesTable) :
    Soc.mariko.cpuCustomizeTable custom = Mariko.cpuCvbTableDefault := by
  unfold CustomizeTable.choosesTable at unchosen
  simp only [not_or] at unchosen
  obtain ⟨not1683, not1581, notExtreme⟩ := unchosen
  simp only [Soc.cpuCustomizeTable, if_neg not1683, if_neg not1581, if_neg notExtreme]
  rfl

/-- The high end of the stock table is all of it that `SafetyCheck` lets through. -/
theorem safe_stock_rate {custom : CustomizeTable} (safe : safetyCheck custom = true)
    (unused : custom.marikoCpuUVHigh = 0) {rate : Word}
    (last : lastFreq custom.marikoCpuDvfsTable = some rate) :
    rate ∈ stockCpuRates ↔
      lastFreq custom.marikoCpuDvfsTable ∈ [some 1785000, some 1887000, some 1963500] := by
  obtain ⟨checked, lastChecked, within⟩ := safe_marikoCpu safe
  have same : checked = rate := by
    rw [Soc.cpuCheckedTable, if_neg (by simpa using unused), last] at lastChecked
    exact (Option.some.inj lastChecked).symm
  subst same
  rw [last]
  constructor
  · intro stock
    simp only [stockCpuRates, List.mem_cons, List.not_mem_nil, or_false] at stock
    rcases within with rfl | ⟨fast, -⟩
    · simp at stock
    · rcases stock with rfl | rfl | rfl | rfl | rfl | rfl | rfl | rfl | rfl | rfl | rfl | rfl |
        rfl | rfl | rfl | rfl | rfl | rfl <;> simp at fast ⊢
  · intro high
    simp only [List.mem_cons, Option.some.injEq, List.not_mem_nil, or_false] at high
    rcases high with rfl | rfl | rfl <;> simp [stockCpuRates]

section

variable {custom : CustomizeTable} {railStore tableStore : Image} {railPtr tablePtr : Int}

theorem cpuRail_limit_has_entry_iff (safe : safetyCheck custom = true)
    (railPatched : (Mariko.cpuFreqVdd custom railPtr railStore).succeeded = true)
    (tablePatched : (cpuFreqCvbTable .mariko custom tablePtr tableStore).succeeded = true) :
    HasRate (tableAt (cpuFreqCvbTable .mariko custom tablePtr tableStore).store.word
        (tableHead Soc.mariko.cpuDefaultTable tablePtr))
        (getDvfsTableEntryCount (Soc.mariko.cpuCustomizeTable custom))
        ((Mariko.cpuFreqVdd custom railPtr railStore).store.word railPtr) ↔
      RailLimitHasEntry custom := by
  have limit := cpuFreqVdd_limit railPatched
  rw [cpuFreqCvbTable_hasRate tablePatched]
  generalize (Mariko.cpuFreqVdd custom railPtr railStore).store.word railPtr = written at limit ⊢
  unfold RailLimitHasEntry
  by_cases used : custom.marikoCpuUVHigh ≠ 0
  · have capped : Mariko.capCpuClock custom = written := by
      rw [Mariko.railLimit, if_pos used] at limit
      exact Option.some.inj limit
    subst capped
    have cap := Mariko.capCpuClock_isCap custom
    have unique : ∀ rate, IsCap 1963500 Mariko.allowedCpuMaxFrequencies.tail
        custom.marikoCpuMaxClock rate → rate = Mariko.capCpuClock custom :=
      fun rate another => another.unique cap (by decide)
    by_cases chosen : custom.choosesTable
    · simp only [chosen, used, ne_eq, not_false_eq_true, true_imp_iff, false_imp_iff, not_true,
        and_true]
      exact ⟨fun has rate another => unique rate another ▸ has, fun all => all _ cap⟩
    · rw [cpuCustomizeTable_default chosen, hasRate_stock, cap_in_stock cap]
      simp only [chosen, used, ne_eq, not_false_eq_true, true_imp_iff, false_imp_iff, true_and,
        and_true]
  · have unused : custom.marikoCpuUVHigh = 0 := not_not.mp used
    have last : lastFreq custom.marikoCpuDvfsTable = some written := by
      rw [Mariko.railLimit, if_neg used] at limit
      exact limit
    by_cases chosen : custom.choosesTable
    · simp [chosen, unused, last]
    · rw [cpuCustomizeTable_default chosen, hasRate_stock, safe_stock_rate safe unused last]
      simp [chosen, unused]

end

/-- An image with nothing but the stock rail of the CPU at its start. -/
def stockRailImage : Image :=
  { word := fun address => ((Mariko.cpuRailStock.find? fun field => field.1 = address).map
      Prod.snd).getD 0
    rest := { maxEmcClocks := [], i2cCalls := 0 } }

theorem stockRail_patched {custom : CustomizeTable} {limit : Word}
    (limited : Mariko.railLimit custom = some limit) :
    (Mariko.cpuFreqVdd custom 6 stockRailImage).succeeded = true := by
  have stock : MatchesAt stockRailImage (6 - 6) Mariko.cpuRailStock := by decide
  have run := cpuFreqVdd_run custom 6 stockRailImage
  rw [if_pos stock, limited] at run
  obtain ⟨result, -⟩ := Prod.mk.inj run
  rw [Outcome.succeeded, result]
  rfl

theorem stockTable_patched (custom : CustomizeTable) :
    (cpuFreqCvbTable .mariko custom 1000 (stockImage Soc.mariko.cpuDefaultTable 1000)).succeeded =
      true := by
  have stock : StockTable Soc.mariko.cpuDefaultTable (stockImage Soc.mariko.cpuDefaultTable 1000)
    1000 := stockImage_stock
  obtain ⟨final, run, -⟩ := cpuFreqCvbTable_run custom stock
  obtain ⟨result, -⟩ := Prod.mk.inj run
  rw [Outcome.succeeded, result]
  rfl

/-- A high undervolt level and a fast clock, with the stock table kept. -/
def overclockedDefault : CustomizeTable :=
  { shipped with marikoCpuUVHigh := 1, tableConf := 1, marikoCpuMaxClock := 2397000 }

theorem cpuRail_limit_has_entry_shipped :
    HasRate (tableAt (cpuFreqCvbTable .mariko shipped 1000
        (stockImage Soc.mariko.cpuDefaultTable 1000)).store.word
          (tableHead Soc.mariko.cpuDefaultTable 1000))
        (getDvfsTableEntryCount (Soc.mariko.cpuCustomizeTable shipped))
        ((Mariko.cpuFreqVdd shipped 6 stockRailImage).store.word 6) := by
  have limited : Mariko.railLimit shipped = some 1963500 := by decide +kernel
  refine (cpuRail_limit_has_entry_iff shipped_safe (stockRail_patched limited)
    (stockTable_patched shipped)).mpr ⟨?_, ?_, ?_⟩
  · intro _ rate _ last
    have same : rate = 1963500 := by
      have ends : lastFreq shipped.marikoCpuDvfsTable = some 1963500 := by decide +kernel
      exact Option.some.inj ((last rfl).symm.trans ends)
    exact ⟨17, by decide +kernel, by rw [same]; decide +kernel⟩
  · exact fun unchosen => absurd (.inl rfl) unchosen
  · exact fun unchosen => absurd (.inl rfl) unchosen

/-- The rail goes up to 2397 MHz, the table ends at 1963.5 MHz. -/
theorem cpuRail_limit_without_entry :
    ¬∀ (custom : CustomizeTable) (railStore tableStore : Image) (railPtr tablePtr : Int),
      safetyCheck custom = true →
        (Mariko.cpuFreqVdd custom railPtr railStore).succeeded = true →
          (cpuFreqCvbTable .mariko custom tablePtr tableStore).succeeded = true →
            HasRate (tableAt (cpuFreqCvbTable .mariko custom tablePtr tableStore).store.word
                (tableHead Soc.mariko.cpuDefaultTable tablePtr))
              (getDvfsTableEntryCount (Soc.mariko.cpuCustomizeTable custom))
              ((Mariko.cpuFreqVdd custom railPtr railStore).store.word railPtr) := by
  intro all
  have limited : Mariko.railLimit overclockedDefault = some 2397000 := by decide +kernel
  have railPatched := stockRail_patched limited
  have tablePatched := stockTable_patched overclockedDefault
  have has := all overclockedDefault _ _ 6 1000 (by decide +kernel) railPatched tablePatched
  have unchosen : ¬overclockedDefault.choosesTable := by
    unfold CustomizeTable.choosesTable
    decide
  have written := (cpuFreqVdd_limit railPatched).symm.trans limited
  rw [cpuFreqCvbTable_hasRate tablePatched, Option.some.inj written,
    cpuCustomizeTable_default unchosen, hasRate_stock] at has
  simp [stockCpuRates] at has

end HorizonOc.Loader
