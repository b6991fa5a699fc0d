import Mathlib.Order.Bounds.Defs
import Mathlib.Tactic.IntervalCases
import HorizonOc.Data.Packing
import HorizonOc.Loader.Customize

namespace HorizonOc.Loader

open HorizonOc.Data

/-- A memory of bytes, and programs that cannot fail on it. -/
abbrev ByteMemory := Store Byte PUnit

abbrev Scanner := Tracked Byte PUnit Empty

/-- `is_empty`: the bytes of an entry, up to the first that is not 0. -/
def isEmptyEntry (size : Nat) (entry : Int) : Scanner Bool :=
  Tracked.compareEach ((List.range size).map fun (i : Nat) => (entry + i, 0))

def entryAddress (size : Nat) (tableHead : Int) (index : Nat) : Int := tableHead + size * index

/-- The loop of `GetDvfsTableEntryCount`, with so many counts left before the limit. -/
def countEntries (size : Nat) (tableHead : Int) : Nat → Nat → Scanner Nat
  | 0, _ => pure dvfsTableEntryLimit
  | left + 1, count => do
      if ← isEmptyEntry size (entryAddress size tableHead count) then pure count
      else countEntries size tableHead left (count + 1)

def scanDvfsTableEntryCount (size : Nat) (tableHead : Int) : Scanner Nat :=
  countEntries size tableHead dvfsTableEntryLimit 0

/-- The address that `GetDvfsTableLastEntry` returns; none for a null pointer. -/
def scanDvfsTableLastEntry (size : Nat) (tableHead : Int) : Scanner (Option Int) := do
  let count ← scanDvfsTableEntryCount size tableHead
  if count = 0 then pure none
  else pure (some (entryAddress size tableHead (count - 1)))

def EmptyEntry (byte : Int → Byte) (size : Nat) (entry : Int) : Prop :=
  ∀ offset : Nat, offset < size → byte (entry + offset) = 0

/-- Where a scan of a table stops. -/
def StopsScan (byte : Int → Byte) (size : Nat) (tableHead : Int) (index : Nat) : Prop :=
  index = dvfsTableEntryLimit ∨ EmptyEntry byte size (entryAddress size tableHead index)

/-- The bytes of the entries before the limit, from an entry on. -/
def TableBytes (size : Nat) (tableHead : Int) (first : Nat) (address : Int) : Prop :=
  entryAddress size tableHead first ≤ address ∧
    address < entryAddress size tableHead dvfsTableEntryLimit

section

variable {size count left index : Nat} {tableHead entry : Int} {memory : ByteMemory}

instance (byte : Int → Byte) (size : Nat) (entry : Int) : Decidable (EmptyEntry byte size entry) :=
  inferInstanceAs (Decidable (∀ offset : Nat, offset < size → _))

theorem entryAddress_succ (size : Nat) (tableHead : Int) (index : Nat) :
    entryAddress size tableHead (index + 1) = entryAddress size tableHead index + size := by
  have scaled : (size : Int) * (index + 1 : Nat) = size * index + size := by
    rw [Int.natCast_succ, Int.mul_add, Int.mul_one]
  unfold entryAddress
  omega

theorem entryAddress_le (size : Nat) (tableHead : Int) {later : Nat} (before : index ≤ later) :
    entryAddress size tableHead index ≤ entryAddress size tableHead later := by
  unfold entryAddress
  have scaled := Int.mul_le_mul_of_nonneg_left (Int.ofNat_le.mpr before) (Int.natCast_nonneg size)
  omega

theorem isEmptyEntry_run (size : Nat) (entry : Int) (memory : ByteMemory) :
    Tracked.run (isEmptyEntry size entry) memory =
      (.ok (decide (EmptyEntry memory.word size entry)), memory) := by
  have result := Tracked.compareEach_result (ε := Empty)
    ((List.range size).map fun (i : Nat) => (entry + i, (0 : Byte))) memory
  rw [Tracked.run, isEmptyEntry, result, Tracked.compareEach_store, decide_eq_decide.mpr]
  simp [EmptyEntry]

theorem isEmptyEntry_confined {allowed : Int → Prop}
    (inside : ∀ offset : Nat, offset < size → allowed (entry + offset)) :
    Tracked.Confined allowed (isEmptyEntry size entry) memory := by
  apply Tracked.confined_compareEach_of_inside
  intro check member
  obtain ⟨offset, within, rfl⟩ := List.mem_map.mp member
  exact inside offset (List.mem_range.mp within)

/-- From a count on, the loop finds the first entry that stops it. -/
theorem countEntries_run (size : Nat) (tableHead : Int) (memory : ByteMemory)
    (whole : count + left = dvfsTableEntryLimit) :
    ∃ first, Tracked.run (countEntries size tableHead left count) memory = (.ok first, memory) ∧
      IsLeast {index | count ≤ index ∧ StopsScan memory.word size tableHead index} first := by
  induction left generalizing count with
  | zero =>
      refine ⟨dvfsTableEntryLimit, rfl, ⟨Nat.le_of_eq whole, .inl rfl⟩, ?_⟩
      intro index ⟨reached, _⟩
      exact Nat.le_trans (Nat.le_of_eq whole.symm) reached
  | succ left ih =>
      rw [countEntries, Tracked.run_bind_of_ok (isEmptyEntry_run _ _ _)]
      by_cases empty : EmptyEntry memory.word size (entryAddress size tableHead count)
      · rw [decide_eq_true empty, if_pos rfl]
        exact ⟨count, rfl, ⟨Nat.le_refl count, .inr empty⟩, fun index stops => stops.1⟩
      · rw [decide_eq_false empty, if_neg Bool.false_ne_true]
        obtain ⟨first, run, stops, least⟩ :=
          ih (show count + 1 + left = dvfsTableEntryLimit by omega)
        refine ⟨first, run, ⟨Nat.le_of_succ_le stops.1, stops.2⟩, ?_⟩
        intro index ⟨reached, stopped⟩
        have later : count ≠ index := by
          rintro rfl
          rcases stopped with limit | emptied
          · omega
          · exact empty emptied
        exact least ⟨Nat.lt_of_le_of_ne reached later, stopped⟩

theorem countEntries_confined (whole : count + left = dvfsTableEntryLimit) :
    Tracked.Confined (TableBytes size tableHead count) (countEntries size tableHead left count)
      memory := by
  induction left generalizing count with
  | zero => exact (Tracked.confined_pure _).mpr trivial
  | succ left ih =>
      obtain ⟨result, stored⟩ :=
        Prod.mk.inj (isEmptyEntry_run size (entryAddress size tableHead count) memory)
      rw [countEntries, Tracked.confined_bind_of_ok result, stored]
      have next := entryAddress_succ size tableHead count
      have room := entryAddress_le size tableHead (show count + 1 ≤ dvfsTableEntryLimit by omega)
      constructor
      · apply isEmptyEntry_confined
        intro offset within
        unfold TableBytes
        omega
      · split
        · exact (Tracked.confined_pure _).mpr trivial
        · intro access made
          obtain ⟨above, below⟩ :=
            ih (show count + 1 + left = dvfsTableEntryLimit by omega) access made
          exact ⟨by omega, below⟩

end

/-- The word at an address, the low byte first. -/
def byteWord (byte : Int → Byte) (address : Int) : Word :=
  bytesWord [byte address, byte (address + 1), byte (address + 2), byte (address + 3)]

/-- `sizeof(cvb_entry_t)`. -/
def cvbEntryBytes : Nat := 4 * cvbEntryWords

def byteEntry (byte : Int → Byte) (entry : Int) : CvbEntry :=
  .ofWords fun offset => byteWord byte (entry + 4 * offset)

def byteTable (byte : Int → Byte) (tableHead : Int) : DvfsTable :=
  fun index => byteEntry byte (entryAddress cvbEntryBytes tableHead index)

/-- The entries before the first empty one, as a reader that stops there sees them. -/
def entriesSeen (table : DvfsTable) : List CvbEntry :=
  ((List.range dvfsTableEntryLimit).map table).takeWhile fun entry => !entry.isEmpty

/-- The entries that are not empty come first, and their rates never fall. -/
structure AscendingPrefix (table : DvfsTable) (length : Nat) : Prop where
  bounded : length ≤ dvfsTableEntryLimit
  filled : ∀ index < length, (table index).isEmpty = false
  behind : ∀ index < dvfsTableEntryLimit, length ≤ index → (table index).isEmpty = true
  ascending : ∀ later < length, ∀ index ≤ later, (table index).freq ≤ (table later).freq

section

variable {byte : Int → Byte} {tableHead entry : Int} {words : Nat → Word} {table : DvfsTable}
  {last : CvbEntry} {length : Nat}

theorem byteWord_eq_zero_iff {address : Int} :
    byteWord byte address = 0 ↔ ∀ offset : Nat, offset < 4 → byte (address + offset) = 0 := by
  constructor
  · intro zero
    have bytes := wordBytes_bytesWord (show [byte address, byte (address + 1),
      byte (address + 2), byte (address + 3)].length = 4 from rfl)
    rw [show bytesWord _ = 0 from zero] at bytes
    obtain ⟨first, second, third, fourth⟩ : 0 = byte address ∧ 0 = byte (address + 1) ∧
        0 = byte (address + 2) ∧ 0 = byte (address + 3) := by
      simpa [wordBytes] using bytes
    intro offset within
    interval_cases offset
    · simpa using first.symm
    · exact second.symm
    · exact third.symm
    · exact fourth.symm
  · intro zeros
    have first : byte (address + 0) = 0 := zeros 0 (by decide)
    have second : byte (address + 1) = 0 := zeros 1 (by decide)
    have third : byte (address + 2) = 0 := zeros 2 (by decide)
    have fourth : byte (address + 3) = 0 := zeros 3 (by decide)
    rw [Int.add_zero] at first
    rw [byteWord, first, second, third, fourth]
    rfl

theorem CvbEntry.word_ofWords (words : Nat → Word) {offset : Nat} (inside : offset < cvbEntryWords) :
    (CvbEntry.ofWords words).word offset = words offset := by
  unfold cvbEntryWords at inside
  interval_cases offset <;> rfl

theorem ofWords_isEmpty_iff :
    (CvbEntry.ofWords words).isEmpty = true ↔ ∀ offset < cvbEntryWords, words offset = 0 := by
  rw [CvbEntry.isEmpty, decide_eq_true_iff]
  constructor
  · intro empty offset inside
    rw [← CvbEntry.word_ofWords words inside, empty]
    exact CvbEntry.word_ofWords (fun _ => 0) inside
  · intro zeros
    exact CvbEntry.ofWords_congr zeros

theorem byteEntry_isEmpty_iff :
    (byteEntry byte entry).isEmpty = true ↔ EmptyEntry byte cvbEntryBytes entry := by
  simp only [byteEntry, ofWords_isEmpty_iff, byteWord_eq_zero_iff, EmptyEntry]
  constructor
  · intro zeros offset within
    have zero := zeros (offset / 4) (by unfold cvbEntryBytes at within; omega) (offset % 4)
      (Nat.mod_lt _ (by decide))
    rwa [show entry + 4 * (offset / 4 : Nat) + (offset % 4 : Nat) = entry + offset by omega] at zero
  · intro zeros offset within part small
    have zero := zeros (4 * offset + part) (by unfold cvbEntryBytes; omega)
    rwa [show entry + (4 * offset + part : Nat) = entry + 4 * offset + part by omega] at zero

theorem entriesSeen_eq :
    entriesSeen table = (List.range (getDvfsTableEntryCount table)).map table := by
  have bounded := getDvfsTableEntryCount_le table
  rw [entriesSeen, List.takeWhile_map, List.takeWhile_eq_take_findIdx_not]
  simp only [Function.comp_apply, Bool.not_not]
  rw [show List.findIdx _ _ = getDvfsTableEntryCount table from rfl, List.take_range,
    Nat.min_eq_left bounded]

/-- The scan of the bytes counts the entries that they spell. -/
theorem getDvfsTableEntryCount_byteTable {count : Nat}
    (least : IsLeast {index | StopsScan byte cvbEntryBytes tableHead index} count) :
    getDvfsTableEntryCount (byteTable byte tableHead) = count := by
  have bounded : count ≤ dvfsTableEntryLimit := least.2 (.inl rfl)
  rw [getDvfsTableEntryCount_eq_iff bounded]
  constructor
  · intro index below
    rw [← Bool.not_eq_true]
    intro empty
    have stops : StopsScan byte cvbEntryBytes tableHead index :=
      .inr (byteEntry_isEmpty_iff.mp empty)
    exact Nat.not_le_of_lt below (least.2 stops)
  · intro below
    rcases least.1 with limit | empty
    · omega
    · exact byteEntry_isEmpty_iff.mpr empty

theorem AscendingPrefix.count (ascends : AscendingPrefix table length) :
    getDvfsTableEntryCount table = length := by
  rw [getDvfsTableEntryCount_eq_iff ascends.bounded]
  exact ⟨ascends.filled, fun below =>
    ascends.behind length below (Nat.le_refl length)⟩

theorem freq_of_isEmpty {entry : CvbEntry} (empty : entry.isEmpty = true) : entry.freq = 0 := by
  rw [of_decide_eq_true empty]
  rfl

theorem AscendingPrefix.freq_le (ascends : AscendingPrefix table length) {index : Nat}
    (inside : index < dvfsTableEntryLimit) :
    (table index).freq ≤ (table (length - 1)).freq := by
  by_cases before : index < length
  · exact ascends.ascending (length - 1) (by omega) index (by omega)
  · rw [freq_of_isEmpty (ascends.behind index inside (by omega))]
    exact Nat.zero_le _

theorem AscendingPrefix.isGreatest (ascends : AscendingPrefix table length)
    (filled : length ≠ 0) :
    IsGreatest {freq | ∃ index < dvfsTableEntryLimit, freq = (table index).freq}
      (table (length - 1)).freq := by
  constructor
  · exact ⟨length - 1, by have := ascends.bounded; omega, rfl⟩
  · rintro freq ⟨index, inside, rfl⟩
    exact ascends.freq_le inside

theorem AscendingPrefix.seen_le (ascends : AscendingPrefix table length) :
    ∀ seen ∈ entriesSeen table, seen.freq ≤ (table (length - 1)).freq := by
  intro seen member
  rw [entriesSeen_eq, ascends.count] at member
  obtain ⟨index, below, rfl⟩ := List.mem_map.mp member
  exact ascends.freq_le (Nat.lt_of_lt_of_le (List.mem_range.mp below) ascends.bounded)

end

theorem scanDvfsTableLastEntry_run {size count : Nat} {tableHead : Int} {memory : ByteMemory}
    (scanned : Tracked.run (scanDvfsTableEntryCount size tableHead) memory = (.ok count, memory)) :
    Tracked.run (scanDvfsTableLastEntry size tableHead) memory =
      (.ok (if count = 0 then none else some (entryAddress size tableHead (count - 1))),
        memory) := by
  rw [scanDvfsTableLastEntry, Tracked.run_bind_of_ok scanned]
  split
  · rfl
  · rfl

theorem scanDvfsTableLastEntry_confined {size : Nat} {tableHead : Int} {memory : ByteMemory} :
    Tracked.Confined (TableBytes size tableHead 0) (scanDvfsTableLastEntry size tableHead)
      memory := by
  rw [scanDvfsTableLastEntry, Tracked.confined_bind]
  refine ⟨countEntries_confined (Nat.zero_add _), fun count _ => ?_⟩
  split
  · exact (Tracked.confined_pure _).mpr trivial
  · exact (Tracked.confined_pure _).mpr trivial

/-- Whatever the 31 entries hold, the count is the first that stops the scan and the last entry is
the one before it, found among their bytes alone.  In an ascending prefix no entry is faster. -/
theorem dvfs_table_scanned (memory : ByteMemory) (tableHead : Int) :
    ∃ count, IsLeast {index | StopsScan memory.word cvbEntryBytes tableHead index} count ∧
      Tracked.run (scanDvfsTableEntryCount cvbEntryBytes tableHead) memory =
        (.ok count, memory) ∧
      Tracked.Confined (TableBytes cvbEntryBytes tableHead 0)
        (scanDvfsTableEntryCount cvbEntryBytes tableHead) memory ∧
      Tracked.Confined (TableBytes cvbEntryBytes tableHead 0)
        (scanDvfsTableLastEntry cvbEntryBytes tableHead) memory ∧
      (EmptyEntry memory.word cvbEntryBytes tableHead →
        Tracked.run (scanDvfsTableLastEntry cvbEntryBytes tableHead) memory =
          (.ok none, memory)) ∧
      (¬EmptyEntry memory.word cvbEntryBytes tableHead →
        count ≠ 0 ∧
        Tracked.run (scanDvfsTableLastEntry cvbEntryBytes tableHead) memory =
          (.ok (some (entryAddress cvbEntryBytes tableHead (count - 1))), memory) ∧
        ∀ length, AscendingPrefix (byteTable memory.word tableHead) length →
          IsGreatest
            {freq | ∃ index < dvfsTableEntryLimit,
              freq = (byteTable memory.word tableHead index).freq}
            (byteEntry memory.word (entryAddress cvbEntryBytes tableHead (count - 1))).freq ∧
          ∀ seen ∈ entriesSeen (byteTable memory.word tableHead), seen.freq ≤
            (byteEntry memory.word (entryAddress cvbEntryBytes tableHead (count - 1))).freq) := by
  obtain ⟨count, scanned, first⟩ :=
    countEntries_run cvbEntryBytes tableHead memory (Nat.zero_add dvfsTableEntryLimit)
  have least : IsLeast {index | StopsScan memory.word cvbEntryBytes tableHead index} count := by
    simpa using first
  have head : entryAddress cvbEntryBytes tableHead 0 = tableHead := by
    simp [entryAddress]
  have last := scanDvfsTableLastEntry_run scanned
  refine ⟨count, least, scanned, countEntries_confined (Nat.zero_add _),
    scanDvfsTableLastEntry_confined, ?_, ?_⟩
  · intro empty
    have stops : StopsScan memory.word cvbEntryBytes tableHead 0 := .inr (head.symm ▸ empty)
    rwa [if_pos (Nat.le_zero.mp (least.2 stops))] at last
  · intro occupied
    have filled : count ≠ 0 := by
      rintro rfl
      rcases least.1 with limit | empty
      · contradiction
      · exact occupied (head ▸ empty)
    rw [if_neg filled] at last
    refine ⟨filled, last, fun length ascends => ?_⟩
    have counted : length = count :=
      ascends.count.symm.trans (getDvfsTableEntryCount_byteTable least)
    subst counted
    exact ⟨ascends.isGreatest filled, ascends.seen_le⟩

example :
    let byte : Int → Byte := fun address => if address = 0 then 7 else if address = 57 then 1 else 0
    (Tracked.run (scanDvfsTableLastEntry cvbEntryBytes 0) ⟨byte, ⟨⟩⟩).1 = .ok (some 56) ∧
      AscendingPrefix (byteTable byte 0) 2 := by
  exact ⟨by decide, by decide, by decide, by decide, by decide⟩

end HorizonOc.Loader
