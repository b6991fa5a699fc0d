import HorizonOc.Loader.Ptm
import HorizonOc.Loader.SafetyCheck

namespace HorizonOc.Loader.Ptm

open HorizonOc.Data

def PerfConfEntry.Valid (entry : PerfConfEntry) : Prop :=
  entry.cpuFreq1 = entry.cpuFreq2 ∧ entry.gpuFreq1 = entry.gpuFreq2 ∧
    entry.emcFreq1 = entry.emcFreq2

instance (entry : PerfConfEntry) : Decidable entry.Valid :=
  inferInstanceAs (Decidable (_ ∧ _ ∧ _))

def StartsTable (word : Int → Word) (entry : Int) : Prop :=
  (perfConfEntryAt word entry).Valid ∧ (perfConfEntryAt word entry).cpuFreq1 = cpuPtmDefault

instance (word : Int → Word) (entry : Int) : Decidable (StartsTable word entry) :=
  inferInstanceAs (Decidable (_ ∧ _))

def PerfConfEntry.boosted (soc : Soc) (custom : CustomizeTable) (entry : PerfConfEntry) :
    PerfConfEntry :=
  if entry.cpuFreq1 = cpuPtmBoost then
    { entry with
      cpuFreq1 := cpuBoostClock soc custom * 1000
      cpuFreq2 := cpuBoostClock soc custom * 1000 }
  else entry

def PerfConfEntry.limited (soc : Soc) (entry : PerfConfEntry) : PerfConfEntry :=
  if soc = .mariko then { entry with emcFreq1 := memPtmLimit, emcFreq2 := memPtmLimit } else entry

def writtenPair (word : Int → Word) (address : Int) (value : Word) : Int → Word :=
  Function.update (Function.update word address value) (address + 1) value

def KeepsOutside (entry : Int) (before after : Int → Word) : Prop :=
  ∀ address, address < entry ∨ entry + perfConfWords ≤ address → after address = before address

section

variable {word other : Int → Word} {entry : Int} {store final : Image} {soc : Soc}
  {custom : CustomizeTable} {counts after : Counts}

theorem perfConfEntryAt_congr
    (same : ∀ address, entry ≤ address → address < entry + perfConfWords →
      word address = other address) :
    perfConfEntryAt word entry = perfConfEntryAt other entry := by
  unfold perfConfWords at same
  simp only [perfConfEntryAt, cpuFreqOffset, gpuFreqOffset, emcFreqOffset]
  congr 1 <;> exact same _ (by omega) (by omega)

theorem KeepsOutside.trans {third : Int → Word} (first : KeepsOutside entry word other)
    (second : KeepsOutside entry other third) : KeepsOutside entry word third :=
  fun address outside => (second address outside).trans (first address outside)

theorem run_equalPair (entry offset : Int) (store : Image) :
    Tracked.run (equalPair entry offset) store =
      (.ok (decide (store.word (entry + offset) = store.word (entry + offset + 1))), store) := rfl

theorem run_ptmEntryIsValid (entry : Int) (store : Image) :
    Tracked.run (ptmEntryIsValid entry) store =
      (.ok (decide (perfConfEntryAt store.word entry).Valid), store) := by
  unfold ptmEntryIsValid PerfConfEntry.Valid perfConfEntryAt
  rw [Tracked.run_bind_of_ok (run_equalPair entry cpuFreqOffset store)]
  by_cases cpu : store.word (entry + cpuFreqOffset) = store.word (entry + cpuFreqOffset + 1)
  · simp only [cpu, decide_true, if_true, true_and]
    rw [Tracked.run_bind_of_ok (run_equalPair entry gpuFreqOffset store)]
    by_cases gpu : store.word (entry + gpuFreqOffset) = store.word (entry + gpuFreqOffset + 1)
    · simp only [gpu, decide_true, if_true, true_and]
      exact run_equalPair entry emcFreqOffset store
    · simp [gpu]
  · simp [cpu]

theorem run_ptmTablePatternFn (entry : Int) (store : Image) :
    Tracked.run (ptmTablePatternFn entry) store =
      (.ok (decide (StartsTable store.word entry)), store) := by
  unfold ptmTablePatternFn StartsTable
  rw [Tracked.run_bind_of_ok (run_ptmEntryIsValid entry store)]
  by_cases valid : (perfConfEntryAt store.word entry).Valid
  · simp only [valid, decide_true, if_true, true_and]
    rfl
  · simp [valid]

/-- The search changes nothing and ends at the first position at which a table starts. -/
theorem run_findConfTable (ptr positions : Nat) (store : Image) :
    ∃ found, Tracked.run (findConfTable ptr positions) store = (.ok found, store) ∧
      ∀ table, found = some table → (ptr ≤ table ∧ table < ptr + positions) ∧
        StartsTable store.word table ∧
        ∀ earlier : Nat, ptr ≤ earlier → earlier < table → ¬StartsTable store.word earlier := by
  induction positions generalizing ptr with
  | zero => exact ⟨none, rfl, fun table impossible => by contradiction⟩
  | succ positions ih =>
      unfold findConfTable
      rw [Tracked.run_bind_of_ok (run_ptmTablePatternFn ptr store)]
      by_cases starts : StartsTable store.word ptr
      · refine ⟨some ptr, by simp [starts], ?_⟩
        rintro table found
        obtain rfl : ptr = table := Option.some.inj found
        refine ⟨by omega, starts, ?_⟩
        intro earlier from_ptr below
        omega
      · obtain ⟨found, finished, first⟩ := ih (ptr + 1)
        refine ⟨found, by simpa [starts] using finished, ?_⟩
        intro table same
        obtain ⟨range, there, before⟩ := first table same
        refine ⟨by omega, there, ?_⟩
        intro earlier reached below
        rcases Nat.eq_or_lt_of_le reached with rfl | later
        · exact starts
        · exact before earlier later below

theorem run_applyCpuPtmBoost
    (clocks : custom.eristaCpuBoostClock ≠ 0 ∧ custom.marikoCpuBoostClock ≠ 0)
    (boost : (perfConfEntryAt store.word entry).cpuFreq1 = cpuPtmBoost) :
    ∃ final, Tracked.run (applyCpuPtmBoost soc custom entry) store = (.ok ⟨⟩, final) ∧
      perfConfEntryAt final.word entry = (perfConfEntryAt store.word entry).boosted soc custom ∧
      KeepsOutside entry store.word final.word := by
  rw [applyCpuPtmBoost, if_neg (not_or.mpr clocks), PerfConfEntry.boosted, if_pos boost]
  refine ⟨{ store with
    word := writtenPair store.word (entry + cpuFreqOffset) (cpuBoostClock soc custom * 1000) },
    rfl, ?_, ?_⟩
  · simp (disch := omega) only [writtenPair, perfConfEntryAt, cpuFreqOffset, gpuFreqOffset,
      emcFreqOffset, Function.update_self, Function.update_of_ne]
  · intro address outside
    unfold perfConfWords at outside
    simp (disch := omega) only [writtenPair, cpuFreqOffset, Function.update_of_ne]

theorem run_applyMemPtm (entry : Int) (store : Image) :
    ∃ final, Tracked.run (applyMemPtm entry) store = (.ok ⟨⟩, final) ∧
      perfConfEntryAt final.word entry = (perfConfEntryAt store.word entry).limited .mariko ∧
      KeepsOutside entry store.word final.word := by
  rw [PerfConfEntry.limited, if_pos rfl]
  refine ⟨{ store with word := writtenPair store.word (entry + emcFreqOffset) memPtmLimit },
    rfl, ?_, ?_⟩
  · simp (disch := omega) only [writtenPair, perfConfEntryAt, cpuFreqOffset, gpuFreqOffset,
      emcFreqOffset, Function.update_self, Function.update_of_ne]
  · intro address outside
    unfold perfConfWords at outside
    simp (disch := omega) only [writtenPair, emcFreqOffset, Function.update_of_ne]

def KnownCpuFreq (freq : Word) : Prop :=
  freq = cpuPtmBoost ∨ freq = cpuPtmDefault ∨ freq = cpuPtmDevOC

def KnownEmcFreq (freq : Word) : Prop :=
  freq = memPtmLimit ∨ freq = memPtmAlt ∨ freq = memPtmClamp

theorem patchCpuFreq_returned
    (clocks : custom.eristaCpuBoostClock ≠ 0 ∧ custom.marikoCpuBoostClock ≠ 0)
    (returned : Tracked.run (patchCpuFreq soc custom entry counts) store = (.ok after, final)) :
    KnownCpuFreq (perfConfEntryAt store.word entry).cpuFreq1 ∧
      after.cpuPtmBoost = counts.cpuPtmBoost +
        (if (perfConfEntryAt store.word entry).cpuFreq1 = cpuPtmBoost then 1 else 0) ∧
      perfConfEntryAt final.word entry = (perfConfEntryAt store.word entry).boosted soc custom ∧
      KeepsOutside entry store.word final.word := by
  rw [patchCpuFreq, Tracked.run_read_bind] at returned
  change Tracked.run (if (perfConfEntryAt store.word entry).cpuFreq1 = cpuPtmBoost then _ else
    if (perfConfEntryAt store.word entry).cpuFreq1 = cpuPtmDefault ∨
      (perfConfEntryAt store.word entry).cpuFreq1 = cpuPtmDevOC then _ else _) store = _ at returned
  split at returned
  · rename_i boost
    obtain ⟨written, applied, boosted, kept⟩ := run_applyCpuPtmBoost clocks boost
    rw [Tracked.run_bind_of_ok applied, Tracked.run_pure] at returned
    cases returned
    exact ⟨.inl boost, by rw [if_pos boost], boosted, kept⟩
  · rename_i notBoost
    split at returned
    · rename_i known
      cases returned
      exact ⟨.inr known, by rw [if_neg notBoost]; rfl,
        by rw [PerfConfEntry.boosted, if_neg notBoost]; rfl, fun _ _ => rfl⟩
    · cases returned

theorem patchEmcFreq_returned
    (returned : Tracked.run (patchEmcFreq soc entry counts) store = (.ok after, final)) :
    KnownEmcFreq (perfConfEntryAt store.word entry).emcFreq1 ∧
      after.cpuPtmBoost = counts.cpuPtmBoost ∧
      perfConfEntryAt final.word entry = (perfConfEntryAt store.word entry).limited soc ∧
      KeepsOutside entry store.word final.word := by
  rw [patchEmcFreq, Tracked.run_read_bind] at returned
  split at returned
  · rename_i known
    cases soc with
    | mariko =>
        obtain ⟨written, applied, limited, kept⟩ := run_applyMemPtm entry store
        rw [if_pos rfl, Tracked.run_bind_of_ok applied, Tracked.run_pure] at returned
        cases returned
        exact ⟨known, rfl, limited, kept⟩
    | erista =>
        rw [if_neg (by decide)] at returned
        cases returned
        exact ⟨known, rfl, rfl, fun _ _ => rfl⟩
  · cases returned

/-- An entry as the loop finds it and as the loop leaves it. -/
structure Patched (soc : Soc) (custom : CustomizeTable) (before after : PerfConfEntry) : Prop where
  valid : before.Valid
  knownCpuFreq : KnownCpuFreq before.cpuFreq1
  knownEmcFreq : KnownEmcFreq before.emcFreq1
  changed : after = (before.boosted soc custom).limited soc

theorem patchEntry_returned
    (clocks : custom.eristaCpuBoostClock ≠ 0 ∧ custom.marikoCpuBoostClock ≠ 0)
    (returned : Tracked.run (patchEntry soc custom entry counts) store = (.ok after, final)) :
    Patched soc custom (perfConfEntryAt store.word entry) (perfConfEntryAt final.word entry) ∧
      after.cpuPtmBoost = counts.cpuPtmBoost +
        (if (perfConfEntryAt store.word entry).cpuFreq1 = cpuPtmBoost then 1 else 0) ∧
      KeepsOutside entry store.word final.word := by
  rw [patchEntry, Tracked.run_bind_of_ok (run_ptmEntryIsValid entry store),
    Tracked.run_bind_eq_ok] at returned
  obtain ⟨⟨⟩, checked, required, returned⟩ := returned
  obtain ⟨valid, rfl⟩ := Tracked.run_require_eq_ok.mp required
  obtain ⟨middle, between, cpu, emc⟩ := Tracked.run_bind_eq_ok.mp returned
  obtain ⟨knownCpu, counted, boosted, first⟩ := patchCpuFreq_returned clocks cpu
  obtain ⟨knownEmc, kept, limited, second⟩ := patchEmcFreq_returned emc
  have sameEmc : (perfConfEntryAt between.word entry).emcFreq1 =
      (perfConfEntryAt store.word entry).emcFreq1 := by
    rw [boosted, PerfConfEntry.boosted]
    split <;> rfl
  refine ⟨⟨of_decide_eq_true valid, knownCpu, sameEmc ▸ knownEmc, ?_⟩, ?_, first.trans second⟩
  · rw [limited, boosted]
  · rw [kept, counted]

/-- How many of the first entries have the rate that is boosted. -/
def boostCount (word : Int → Word) (confTable : Int) (count : Nat) : Nat :=
  (List.range count).countP fun index : Nat =>
    (perfConfEntryAt word (confTable + perfConfWords * index)).cpuFreq1 = cpuPtmBoost

theorem patchEntries_returned
    (clocks : custom.eristaCpuBoostClock ≠ 0 ∧ custom.marikoCpuBoostClock ≠ 0)
    {confTable : Int} {count : Nat}
    (returned : Tracked.run (patchEntries soc custom confTable count) store = (.ok after, final)) :
    (∀ index < count, Patched soc custom
      (perfConfEntryAt store.word (confTable + perfConfWords * index))
      (perfConfEntryAt final.word (confTable + perfConfWords * index))) ∧
      after.cpuPtmBoost = boostCount store.word confTable count ∧
      ∀ address, address < confTable ∨ confTable + perfConfWords * count ≤ address →
        final.word address = store.word address := by
  induction count generalizing after final with
  | zero =>
      cases returned
      exact ⟨fun index below => absurd below (Nat.not_lt_zero index), rfl, fun _ _ => rfl⟩
  | succ count ih =>
      obtain ⟨counts, middle, first, last⟩ := Tracked.run_bind_eq_ok.mp returned
      obtain ⟨patched, counted, kept⟩ := ih first
      obtain ⟨entry, added, outside⟩ := patchEntry_returned clocks last
      unfold KeepsOutside perfConfWords at outside
      have untouched : perfConfEntryAt middle.word (confTable + perfConfWords * count) =
          perfConfEntryAt store.word (confTable + perfConfWords * count) := by
        apply perfConfEntryAt_congr
        intro address from_entry _
        exact kept address (.inr from_entry)
      rw [untouched] at entry added
      refine ⟨?_, ?_, ?_⟩
      · intro index below
        rcases Nat.lt_succ_iff_lt_or_eq.mp below with earlier | rfl
        · have settled : perfConfEntryAt final.word (confTable + perfConfWords * index) =
              perfConfEntryAt middle.word (confTable + perfConfWords * index) := by
            apply perfConfEntryAt_congr
            intro address _ before_next
            unfold perfConfWords at before_next
            exact outside address (.inl (by omega))
          rw [settled]
          exact patched index earlier
        · exact entry
      · rw [added, counted, boostCount, boostCount, List.range_succ, List.countP_append,
          List.countP_singleton]
        simp only [decide_eq_true_eq]
      · intro address apart
        unfold perfConfWords at apart kept
        rw [outside address (by omega), kept address (by omega)]

end

theorem safe_cpuBoostClock {custom : CustomizeTable} (safe : safetyCheck custom = true) (soc : Soc) :
    (cpuBoostClock soc custom * 1000).toNat = (cpuBoostClock soc custom).toNat * 1000 := by
  have values := safeValues_of_safe safe
  have bound : (cpuBoostClock soc custom).toNat ≤ 2703000 := by
    cases soc with
    | mariko => exact values.marikoCpuBoostClock.2
    | erista => exact Nat.le_trans values.eristaCpuBoostClock.2 (by decide)
  have thousand : (1000 : Word).toNat = 1000 := rfl
  rw [BitVec.toNat_mul, thousand, Nat.mod_eq_of_lt (by omega)]

/-- What becomes of an entry, field by field. -/
structure EntryPatched (soc : Soc) (custom : CustomizeTable) (before after : PerfConfEntry) :
    Prop where
  valid : before.Valid
  knownCpuFreq : KnownCpuFreq before.cpuFreq1
  knownEmcFreq : KnownEmcFreq before.emcFreq1
  boosted : before.cpuFreq1 = cpuPtmBoost →
    after.cpuFreq1.toNat = (cpuBoostClock soc custom).toNat * 1000
  cpuKept : before.cpuFreq1 ≠ cpuPtmBoost → after.cpuFreq1 = before.cpuFreq1
  emcLimited : soc = .mariko → after.emcFreq1 = memPtmLimit
  emcKept : soc = .erista → after.emcFreq1 = before.emcFreq1
  stillValid : after.Valid
  othersKept : after.confId = before.confId ∧ after.gpuFreq1 = before.gpuFreq1 ∧
    after.gpuFreq2 = before.gpuFreq2 ∧ after.padding = before.padding

/-- The boost leaves all but the clocks of the CPU, and the limit all but those of the memory. -/
theorem PerfConfEntry.boosted_kept (soc : Soc) (custom : CustomizeTable) (entry : PerfConfEntry) :
    (entry.boosted soc custom).confId = entry.confId ∧
      (entry.boosted soc custom).gpuFreq1 = entry.gpuFreq1 ∧
      (entry.boosted soc custom).gpuFreq2 = entry.gpuFreq2 ∧
      (entry.boosted soc custom).emcFreq1 = entry.emcFreq1 ∧
      (entry.boosted soc custom).emcFreq2 = entry.emcFreq2 ∧
      (entry.boosted soc custom).padding = entry.padding := by
  unfold boosted
  split <;> exact ⟨rfl, rfl, rfl, rfl, rfl, rfl⟩

theorem PerfConfEntry.limited_kept (soc : Soc) (entry : PerfConfEntry) :
    (entry.limited soc).confId = entry.confId ∧
      (entry.limited soc).cpuFreq1 = entry.cpuFreq1 ∧
      (entry.limited soc).cpuFreq2 = entry.cpuFreq2 ∧
      (entry.limited soc).gpuFreq1 = entry.gpuFreq1 ∧
      (entry.limited soc).gpuFreq2 = entry.gpuFreq2 ∧
      (entry.limited soc).padding = entry.padding := by
  unfold limited
  split <;> exact ⟨rfl, rfl, rfl, rfl, rfl, rfl⟩

theorem PerfConfEntry.Valid.boosted {entry : PerfConfEntry} (valid : entry.Valid) (soc : Soc)
    (custom : CustomizeTable) : (entry.boosted soc custom).Valid := by
  obtain ⟨cpu, gpu, emc⟩ := valid
  unfold PerfConfEntry.boosted
  split
  · exact ⟨rfl, gpu, emc⟩
  · exact ⟨cpu, gpu, emc⟩

theorem PerfConfEntry.Valid.limited {entry : PerfConfEntry} (valid : entry.Valid) (soc : Soc) :
    (entry.limited soc).Valid := by
  obtain ⟨cpu, gpu, emc⟩ := valid
  unfold PerfConfEntry.limited
  split
  · exact ⟨cpu, gpu, rfl⟩
  · exact ⟨cpu, gpu, emc⟩

theorem Patched.fields {soc : Soc} {custom : CustomizeTable} {before after : PerfConfEntry}
    (safe : safetyCheck custom = true) (patched : Patched soc custom before after) :
    EntryPatched soc custom before after := by
  obtain ⟨valid, knownCpuFreq, knownEmcFreq, rfl⟩ := patched
  obtain ⟨confId, gpuFreq1, gpuFreq2, emcFreq1, -, padding⟩ := before.boosted_kept soc custom
  obtain ⟨confId', cpuFreq1', -, gpuFreq1', gpuFreq2', padding'⟩ :=
    (before.boosted soc custom).limited_kept soc
  refine ⟨valid, knownCpuFreq, knownEmcFreq, ?_, ?_, ?_, ?_,
    (valid.boosted soc custom).limited soc, ?_⟩
  · intro boost
    rw [cpuFreq1', PerfConfEntry.boosted, if_pos boost]
    exact safe_cpuBoostClock safe soc
  · intro other
    rw [cpuFreq1', PerfConfEntry.boosted, if_neg other]
  · intro mariko
    rw [PerfConfEntry.limited, if_pos mariko]
  · rintro rfl
    rw [PerfConfEntry.limited, if_neg (by decide), emcFreq1]
  · exact ⟨confId'.trans confId, gpuFreq1'.trans gpuFreq1, gpuFreq2'.trans gpuFreq2,
      padding'.trans padding⟩

/-- If the patch returns, it has found the first table, all of whose entries are known, and changed
nothing but the clocks in them. -/
theorem ptm_patch_returned {soc : Soc} {custom : CustomizeTable} {mappedNso nsoSize : Nat}
    {store : Image} (room : 4 * (perfConfWords * entryCnt) ≤ nsoSize)
    (mapped : mappedNso + nsoSize ≤ 2 ^ 64) (safe : safetyCheck custom = true)
    (returned : (patch soc custom mappedNso nsoSize store).succeeded = true) :
    ∃ confTable : Nat,
      IsLeast {ptr : Nat | StartsTable store.word ptr} confTable ∧
      4 * (confTable + perfConfWords * entryCnt) ≤ nsoSize ∧
      (∀ index < entryCnt, EntryPatched soc custom
        (perfConfEntryAt store.word (confTable + perfConfWords * index))
        (perfConfEntryAt (patch soc custom mappedNso nsoSize store).store.word
          (confTable + perfConfWords * index))) ∧
      boostCount store.word confTable entryCnt ≤ 2 ∧
      ∀ address : Int, address < confTable ∨ confTable + perfConfWords * entryCnt ≤ address →
        (patch soc custom mappedNso nsoSize store).store.word address = store.word address := by
  obtain ⟨⟨⟩, run⟩ := Tracked.run_of_succeeded returned
  generalize (patch soc custom mappedNso nsoSize store).store = final at run ⊢
  have clocks : custom.eristaCpuBoostClock ≠ 0 ∧ custom.marikoCpuBoostClock ≠ 0 := by
    have erista := (safeValues_of_safe safe).eristaCpuBoostClock.1
    have mariko := (safeValues_of_safe safe).marikoCpuBoostClock.1
    constructor
    · rintro zero
      simp [zero] at erista
    · rintro zero
      simp [zero] at mariko
  obtain ⟨found, searched, first⟩ := run_findConfTable 0
    (scanPositions mappedNso nsoSize (perfConfWords * entryCnt)) store
  rw [patch, Tracked.run_bind_of_ok searched] at run
  cases found with
  | none => cases run
  | some confTable =>
      obtain ⟨range, starts, before⟩ := first confTable rfl
      obtain ⟨counts, patched, entries, checks⟩ := Tracked.run_bind_eq_ok.mp run
      obtain ⟨⟨⟩, between, atMost, last⟩ := Tracked.run_bind_eq_ok.mp checks
      obtain ⟨few, rfl⟩ := Tracked.run_require_eq_ok.mp atMost
      have same : patched = final := by
        split at last
        · exact (Tracked.run_require_eq_ok.mp last).2
        · exact (Prod.mk.inj last).2
      obtain ⟨changed, counted, kept⟩ := patchEntries_returned clocks entries
      subst same
      refine ⟨confTable, ⟨starts, ?_⟩, ?_, ?_, ?_, kept⟩
      · intro other there
        by_contra earlier
        exact before other (Nat.zero_le other) (Nat.lt_of_not_le earlier) there
      · have below := range.2
        unfold scanPositions perfConfWords entryCnt at *
        dsimp only at below
        split at below <;> omega
      · intro index below
        exact (changed index below).fields safe
      · rw [← counted]
        exact of_decide_eq_true few

/-- A table at the third word, with one rate that is boosted. -/
def sampleImage : Image :=
  { word := fun address =>
      let offset := (address - 2) % 8
      if address < 2 ∨ offset = 0 ∨ offset = 7 then 0
      else if offset ≤ 2 then
        if address < 26 then cpuPtmDefault else if address < 34 then cpuPtmBoost else cpuPtmDevOC
      else if offset ≤ 4 then 768000000
      else memPtmAlt
    rest := ⟨⟩ }

theorem ptm_patch_returned_sample :
    ∃ confTable : Nat, IsLeast {ptr : Nat | StartsTable sampleImage.word ptr} confTable ∧
      4 * (confTable + perfConfWords * entryCnt) ≤ 520 ∧
      boostCount sampleImage.word confTable entryCnt ≤ 2 := by
  have returned : (patch .mariko shipped 0x8000000 520 sampleImage).succeeded = true := by
    decide +kernel
  obtain ⟨confTable, least, inside, -, few, -⟩ :=
    ptm_patch_returned (by decide) (by decide) shipped_safe returned
  exact ⟨confTable, least, inside, few⟩

end HorizonOc.Loader.Ptm
