import Mathlib.Data.Nat.Find
import Mathlib.Tactic.Common
import HorizonOc.Data.Packing

namespace HorizonOc.Sysmodule

open HorizonOc.Data

/-- What `memmem_impl` comes to on a buffer of which the bytes in the list are filled. -/
inductive Search where
  | overrun
  | missing
  | found (index : Nat)
deriving DecidableEq, Repr

/-- Whether a position matches; nothing if a byte is compared that is not filled. -/
def compareAt : List Byte → List Byte → Option Bool
  | [], _ => some true
  | _ :: _, [] => none
  | wanted :: needle, byte :: rest => if byte = wanted then compareAt needle rest else some false

/-- The search over a number of positions from one on. -/
def memmemFrom (needle buffer : List Byte) : Nat → Nat → Search
  | _, 0 => .missing
  | position, remaining + 1 =>
      match compareAt needle (buffer.drop position) with
      | none => .overrun
      | some true => .found position
      | some false => memmemFrom needle buffer (position + 1) remaining

def memmemImpl (buffer : List Byte) (haystackLen : Nat) (needle : List Byte) : Search :=
  if haystackLen < needle.length then .missing
  else memmemFrom needle buffer 0 (haystackLen - needle.length + 1)

/-- The filled bytes run out before a difference is found. -/
def RunsOut (needle bytes : List Byte) : Prop := bytes <+: needle ∧ bytes.length < needle.length

instance (needle bytes : List Byte) : Decidable (RunsOut needle bytes) :=
  inferInstanceAs (Decidable (_ ∧ _))

theorem compareAt_eq (needle bytes : List Byte) :
    compareAt needle bytes =
      if needle <+: bytes then some true else if RunsOut needle bytes then none else some false := by
  induction needle generalizing bytes with
  | nil => simp [compareAt]
  | cons wanted needle ih =>
      cases bytes with
      | nil => simp [compareAt, RunsOut]
      | cons byte rest =>
          rw [compareAt, ih]
          by_cases same : byte = wanted
          · subst same
            have tails : RunsOut (byte :: needle) (byte :: rest) ↔ RunsOut needle rest := by
              simp [RunsOut, List.cons_prefix_cons]
            simp [List.cons_prefix_cons, tails]
          · simp [RunsOut, List.cons_prefix_cons, same, Ne.symm same]

/-- The first of some positions that match. -/
def firstMatch (needle buffer : List Byte) (positions : List Nat) : Option Nat :=
  positions.find? fun position => needle <+: buffer.drop position

theorem firstMatch_cons (needle buffer : List Byte) (position : Nat) (rest : List Nat) :
    firstMatch needle buffer (position :: rest) =
      if needle <+: buffer.drop position then some position else firstMatch needle buffer rest := by
  rw [firstMatch, List.find?_cons]
  by_cases here : needle <+: buffer.drop position
  · simp [here]
  · simp [here, firstMatch]

/-- A match is found unless there is none; then all depends on whether the bytes run out. -/
theorem memmemFrom_eq (needle buffer : List Byte) (position remaining : Nat) :
    memmemFrom needle buffer position remaining =
      match firstMatch needle buffer (List.range' position remaining) with
      | some index => .found index
      | none =>
          if ∃ other ∈ List.range' position remaining, RunsOut needle (buffer.drop other) then .overrun
          else .missing := by
  induction remaining generalizing position with
  | zero => rfl
  | succ remaining ih =>
      rw [memmemFrom, compareAt_eq, ih, List.range'_succ, firstMatch_cons]
      by_cases here : needle <+: buffer.drop position
      · simp [here]
      · by_cases out : RunsOut needle (buffer.drop position)
        · have later : firstMatch needle buffer (List.range' (position + 1) remaining) = none := by
            rw [firstMatch, List.find?_eq_none]
            intro other member matching
            have after : position + 1 ≤ other := List.left_le_of_mem_range' member
            have fits := (of_decide_eq_true matching).length_le
            have short := out.2
            simp only [List.length_drop] at fits short
            omega
          simp [here, out, later]
        · have further : (∃ other ∈ position :: List.range' (position + 1) remaining,
              RunsOut needle (buffer.drop other)) ↔
              ∃ other ∈ List.range' (position + 1) remaining,
                RunsOut needle (buffer.drop other) :=
            (List.exists_mem_cons_iff _ _ _).trans (or_iff_right out)
          simp only [here, out, if_false, further]

structure MemoryInfo where
  addr : Nat
  size : Nat
  type : Nat
  perm : Nat
deriving DecidableEq, Repr

/-- Regions that follow one another from an address on.  Each is a page smaller than the 64 bits
can count, so that the offset of a page does not wrap. -/
def Tiled : Nat → List MemoryInfo → Prop
  | _, [] => True
  | start, info :: rest =>
      info.addr = start ∧ 0 < info.size ∧ info.size + 0x1000 ≤ 2 ^ 64 ∧
        start + info.size ≤ 2 ^ 64 ∧ Tiled (start + info.size) rest

/-- A process as the debugger sees it: its regions from the address 0 on, what its memory holds,
and which reads succeed. -/
structure DebugProcess where
  regions : List MemoryInfo
  tiled : Tiled 0 regions
  content : BitVec 64 → Byte
  readable : Nat → Nat → Bool

/-- What `CacheGpuVoltTable` stores in `voltData`. -/
@[ext] structure CachedVoltTable where
  voltTable : List (BitVec 32)
  voltTableAddress : BitVec 64
deriving DecidableEq, Repr

/-- `overrun`: a byte of the buffer was used that the last read did not fill.  `unfinished`: the
fuel ran out. -/
inductive Discovery where
  | overrun
  | unfinished
  | returns (cached : Option CachedVoltTable)
deriving DecidableEq, Repr

def pageSize : Nat := 0x1000

/-- What `svcReadDebugProcessMemory` reads at a time. -/
structure Page where
  address : Nat
  memorySize : Nat
  fits : memorySize ≤ pageSize
deriving DecidableEq, Repr

def unkRegulator : List Byte := wordBytes 600000 ++ wordBytes 12500 ++ wordBytes 1400000

def vmax : BitVec 32 := 800

def voltageTableOffset : Nat := 312

/-- `sizeof(voltData.voltTable)`. -/
def voltTableSize : Nat := 6 * 32 * 4

/-- The words that some bytes are copied into. -/
def bytesWords (bytes : List Byte) : List (BitVec 32) :=
  (List.range (bytes.length / 4)).map fun index => bytesWord (bytes.drop (4 * index))

/-- Readable, writable, and of the type that the search takes for the heap. -/
def MemoryInfo.isHeap (info : MemoryInfo) : Bool :=
  info.size ≠ 0 && info.perm &&& 3 = 3 && info.type % 2 ^ 8 = 0x4

/-- The pages that the loop over `base` comes to. -/
def MemoryInfo.pages (info : MemoryInfo) : List Page :=
  (List.range ((info.size + (pageSize - 1)) / pageSize)).map fun index =>
    { address := pageSize * index + info.addr
      memorySize := min info.size pageSize
      fits := Nat.min_le_right _ _ }

namespace DebugProcess

variable (process : DebugProcess)

def memory (start : BitVec 64) (count : Nat) : List Byte :=
  (List.range count).map fun offset => process.content (start + .ofNat 64 offset)

/-- What a read of a page fills the buffer with. -/
def bytes (page : Page) : List Byte := process.memory (.ofNat 64 page.address) page.memorySize

def reads (page : Page) : Bool := process.readable page.address page.memorySize

/-- The region that holds an address. -/
def query (address : Nat) : Option MemoryInfo :=
  process.regions.find? fun info => info.addr ≤ address && address < info.addr + info.size

/-- The table that follows a record. -/
def voltTable (page : Page) (index : Nat) : CachedVoltTable :=
  { voltTable := bytesWords (slice (process.bytes page) (index + voltageTableOffset) voltTableSize)
    voltTableAddress := .ofNat 64 (page.address + voltageTableOffset + index) }

/-- Copies the table, if it begins with the maximum. -/
def copyVoltTable (page : Page) (index : Nat) : Discovery :=
  if page.memorySize < index + voltageTableOffset + 4 then .overrun
  else if bytesWord (slice (process.bytes page) (index + voltageTableOffset) 4) ≠ vmax then .returns none
  else if page.memorySize < index + voltageTableOffset + voltTableSize then .overrun
  else .returns (some (process.voltTable page index))

/-- Searches a page that was read, and goes on if the record is not there. -/
def searchPage (page : Page) (goOn : Discovery) : Discovery :=
  match memmemImpl (process.bytes page) pageSize unkRegulator with
  | .overrun => .overrun
  | .missing => goOn
  | .found index => process.copyVoltTable page index

/-- Searches the pages of a region up to the first that cannot be read. -/
def searchPages (goOn : Discovery) : List Page → Discovery
  | [] => goOn
  | page :: rest =>
      if process.reads page then process.searchPage page (searchPages goOn rest) else goOn

/-- Both loops over the regions, from an address on. -/
def searchRegions : Nat → Nat → Discovery
  | 0, _ => .unfinished
  | fuel + 1, address =>
      match process.query address with
      | none => .returns none
      | some info =>
          let next := (info.addr + info.size) % 2 ^ 64
          if next = 0 then .returns none
          else if info.isHeap then process.searchPages (searchRegions fuel next) info.pages
          else searchRegions fuel next

end DebugProcess

/-- Without a handle of PCV nothing is searched. -/
def cacheGpuVoltTable : Option DebugProcess → Discovery
  | none => .returns none
  | some process => process.searchRegions (process.regions.length + 1) 0

namespace DebugProcess

variable (process : DebugProcess)

/-- The pages of the heap in the order of their addresses, and whether they can be read or not. -/
def heapPages (regions : List MemoryInfo) : List Page :=
  (regions.filter MemoryInfo.isHeap).flatMap MemoryInfo.pages

/-- The pages that are searched: of each region those before the first that cannot be read, and
none from a region on that ends with the address space. -/
def searchedPages (regions : List MemoryInfo) : List Page :=
  ((regions.takeWhile fun info => info.addr + info.size ≠ 2 ^ 64).filter MemoryInfo.isHeap).flatMap
    fun info => info.pages.takeWhile process.reads

theorem searchPages_eq (goOn : Discovery) (pages : List Page) :
    process.searchPages goOn pages = (pages.takeWhile process.reads).foldr process.searchPage goOn := by
  induction pages with
  | nil => rfl
  | cons page rest ih =>
      rw [searchPages, List.takeWhile_cons]
      cases process.reads page with
      | false => rfl
      | true =>
          rw [if_pos rfl, if_pos rfl, ih]
          rfl

/-- A query at the beginning of a region finds it, and one behind the last finds none. -/
theorem query_start {before after : List MemoryInfo} {start : Nat}
    (split : process.regions = before ++ after) (tiled : Tiled start after)
    (behind : ∀ info ∈ before, info.addr + info.size ≤ start) :
    process.query start = after.head? := by
  have passed : before.find? (fun info => info.addr ≤ start && start < info.addr + info.size) = none := by
    rw [List.find?_eq_none]
    intro info member
    simp [Nat.not_lt.mpr (behind info member)]
  rw [query, split, List.find?_append, passed, Option.none_or]
  cases after with
  | nil => rfl
  | cons info rest =>
      obtain ⟨rfl, positive, -⟩ := tiled
      simp [positive]

theorem searchRegions_eq {before after : List MemoryInfo} {start : Nat}
    (split : process.regions = before ++ after) (tiled : Tiled start after)
    (behind : ∀ info ∈ before, info.addr + info.size ≤ start) :
    process.searchRegions (after.length + 1) start =
      (process.searchedPages after).foldr process.searchPage (.returns none) := by
  induction after generalizing before start with
  | nil =>
      rw [searchRegions, process.query_start split tiled behind]
      rfl
  | cons info rest ih =>
      have found := process.query_start split tiled behind
      obtain ⟨rfl, positive, -, within, tiledRest⟩ := tiled
      rw [List.length_cons, searchRegions, found, List.head?_cons, searchedPages, List.takeWhile_cons]
      dsimp only
      by_cases last : info.addr + info.size = 2 ^ 64
      · rw [last, Nat.mod_self, if_pos rfl, if_neg (by simp)]
        rfl
      · have next : (info.addr + info.size) % 2 ^ 64 = info.addr + info.size :=
          Nat.mod_eq_of_lt (Nat.lt_of_le_of_ne within last)
        have grown : process.regions = (before ++ [info]) ++ rest := by
          rw [split, List.append_assoc]
          rfl
        have passed : ∀ other ∈ before ++ [info], other.addr + other.size ≤ info.addr + info.size := by
          intro other member
          rcases List.mem_append.mp member with earlier | here
          · exact Nat.le_trans (behind other earlier) (Nat.le_add_right _ _)
          · obtain rfl := List.mem_singleton.mp here
            exact Nat.le_refl _
        have tail := ih grown tiledRest passed
        rw [next, if_neg (by omega), tail, if_pos (decide_eq_true last), List.filter_cons]
        cases info.isHeap with
        | false => rfl
        | true =>
            rw [if_pos rfl, if_pos rfl, searchPages_eq, List.flatMap_cons, List.foldr_append]
            rfl

end DebugProcess

/-- The loops end: one turn for each region is enough. -/
theorem cacheGpuVoltTable_eq (process : DebugProcess) :
    cacheGpuVoltTable (some process) =
      (process.searchedPages process.regions).foldr process.searchPage (.returns none) :=
  process.searchRegions_eq (List.nil_append _).symm process.tiled (by simp)

namespace DebugProcess

variable {process : DebugProcess} {page : Page} {index : Nat}

theorem memory_length (start : BitVec 64) (count : Nat) : (process.memory start count).length = count := by
  simp [memory]

/-- What is read from a part of the buffer depends on its address alone. -/
theorem slice_bytes {count : Nat} (within : index + count ≤ page.memorySize) :
    slice (process.bytes page) index count = process.memory (.ofNat 64 (page.address + index)) count := by
  apply List.ext_getElem
  · rw [memory_length, slice_length]
    rw [bytes, memory_length]
    exact within
  · intro offset below _
    rw [slice_length (by rw [bytes, memory_length]; exact within)] at below
    simp only [slice, bytes, memory, List.getElem_take, List.getElem_drop, List.getElem_map,
      List.getElem_range]
    rw [BitVec.ofNat_add, BitVec.ofNat_add, BitVec.add_assoc]

/-- The record, in bytes that were read. -/
def HoldsRecord (process : DebugProcess) (page : Page) (index : Nat) : Prop :=
  slice (process.bytes page) index unkRegulator.length = unkRegulator

def FirstRecord (process : DebugProcess) (page : Page) (index : Nat) : Prop :=
  process.HoldsRecord page index ∧ ∀ earlier < index, ¬process.HoldsRecord page earlier

theorem holdsRecord_iff :
    process.HoldsRecord page index ↔ unkRegulator <+: (process.bytes page).drop index := by
  rw [List.prefix_iff_eq_take]
  exact eq_comm

theorem HoldsRecord.within (holds : process.HoldsRecord page index) :
    index + unkRegulator.length ≤ page.memorySize := by
  have fits := (holdsRecord_iff.mp holds).length_le
  have positive : 0 < unkRegulator.length := by decide
  rw [List.length_drop, bytes, memory_length] at fits
  omega

/-- The positions that the search tries. -/
def lastPosition : Nat := 0x1000 - 12

theorem firstMatch_eq_some_iff :
    firstMatch unkRegulator (process.bytes page) (List.range' 0 (lastPosition + 1)) = some index ↔
      process.FirstRecord page index := by
  rw [← List.range_eq_range', firstMatch, List.find?_range_eq_some]
  simp only [decide_eq_true_eq, ← holdsRecord_iff, Bool.not_eq_true', decide_eq_false_iff_not,
    List.mem_range]
  constructor
  · rintro ⟨holds, -, first⟩
    exact ⟨holds, first⟩
  · rintro ⟨holds, first⟩
    have within := holds.within
    have fits := page.fits
    have length : unkRegulator.length = 12 := rfl
    unfold pageSize at fits
    unfold lastPosition
    exact ⟨holds, by omega, first⟩

theorem searchPage_first (first : process.FirstRecord page index) (goOn : Discovery) :
    process.searchPage page goOn = process.copyVoltTable page index := by
  have search : memmemImpl (process.bytes page) pageSize unkRegulator = .found index := by
    change memmemFrom _ _ 0 (lastPosition + 1) = _
    rw [memmemFrom_eq, firstMatch_eq_some_iff.mpr first]
  rw [searchPage, search]

/-- In a page without the record all depends on whether the filled bytes run out. -/
theorem searchPage_none (missing : ∀ index, ¬process.HoldsRecord page index) (goOn : Discovery) :
    process.searchPage page goOn =
      if ∃ position ≤ lastPosition, RunsOut unkRegulator ((process.bytes page).drop position) then
        .overrun
      else goOn := by
  have none : firstMatch unkRegulator (process.bytes page) (List.range' 0 (lastPosition + 1)) = none := by
    rw [Option.eq_none_iff_forall_ne_some]
    intro index found
    exact missing index (firstMatch_eq_some_iff.mp found).1
  have search : memmemImpl (process.bytes page) pageSize unkRegulator =
      if ∃ position ≤ lastPosition, RunsOut unkRegulator ((process.bytes page).drop position) then
        .overrun
      else .missing := by
    change memmemFrom _ _ 0 (lastPosition + 1) = _
    rw [memmemFrom_eq, none]
    simp only [← List.range_eq_range', List.mem_range, Nat.lt_succ_iff]
  rw [searchPage, search]
  by_cases out : ∃ position ≤ lastPosition, RunsOut unkRegulator ((process.bytes page).drop position)
  · rw [if_pos out, if_pos out]
  · rw [if_neg out, if_neg out]

theorem first_or_none (process : DebugProcess) (page : Page) :
    (∃ index, process.FirstRecord page index) ∨ ∀ index, ¬process.HoldsRecord page index := by
  classical
  by_cases holds : ∃ index, process.HoldsRecord page index
  · refine .inl ⟨Nat.find holds, Nat.find_spec holds, fun earlier below => Nat.find_min holds below⟩
  · exact .inr fun index record => holds ⟨index, record⟩

/-- The table behind a record, if it begins as it should and lies in the bytes that were read. -/
def HoldsTable (process : DebugProcess) (page : Page) (index : Nat) : Prop :=
  process.HoldsRecord page index ∧
    bytesWord (slice (process.bytes page) (index + voltageTableOffset) 4) = vmax ∧
    index + voltageTableOffset + voltTableSize ≤ page.memorySize

/-- The search of a page uses filled bytes only: where the page holds the record, the word behind
the first one is filled, and the table if it begins there; elsewhere no filled end of the buffer
begins the record. -/
structure PageInside (process : DebugProcess) (page : Page) : Prop where
  word : ∀ index, process.FirstRecord page index → index + voltageTableOffset + 4 ≤ page.memorySize
  table : ∀ index, process.FirstRecord page index →
    bytesWord (slice (process.bytes page) (index + voltageTableOffset) 4) = vmax →
    index + voltageTableOffset + voltTableSize ≤ page.memorySize
  missing : (∀ index, ¬process.HoldsRecord page index) → ∀ position ≤ lastPosition,
    ¬RunsOut unkRegulator ((process.bytes page).drop position)

theorem copyVoltTable_inside_iff :
    process.copyVoltTable page index ≠ .overrun ↔
      index + voltageTableOffset + 4 ≤ page.memorySize ∧
        (bytesWord (slice (process.bytes page) (index + voltageTableOffset) 4) = vmax →
          index + voltageTableOffset + voltTableSize ≤ page.memorySize) := by
  rw [copyVoltTable]
  by_cases short : page.memorySize < index + voltageTableOffset + 4
  · rw [if_pos short]
    exact iff_of_false (fun same => same rfl) fun both => Nat.not_le.mpr short both.1
  · rw [if_neg short]
    have word := Nat.not_lt.mp short
    by_cases begins : bytesWord (slice (process.bytes page) (index + voltageTableOffset) 4) = vmax
    · rw [if_neg (not_not.mpr begins)]
      by_cases cut : page.memorySize < index + voltageTableOffset + voltTableSize
      · rw [if_pos cut]
        exact iff_of_false (fun same => same rfl) fun both => Nat.not_le.mpr cut (both.2 begins)
      · rw [if_neg cut]
        exact iff_of_true (by simp) ⟨word, fun _ => Nat.not_lt.mp cut⟩
    · rw [if_pos begins]
      exact iff_of_true (by simp) ⟨word, fun same => absurd same begins⟩

theorem FirstRecord.unique {other : Nat} (first : process.FirstRecord page index)
    (second : process.FirstRecord page other) : other = index := by
  rcases Nat.lt_trichotomy other index with below | same | above
  · exact absurd second.1 (first.2 other below)
  · exact same
  · exact absurd first.1 (second.2 index above)

theorem searchPage_inside_iff (goOn : Discovery) :
    process.searchPage page goOn ≠ .overrun ↔
      process.PageInside page ∧
        ((∀ index, ¬process.HoldsRecord page index) → goOn ≠ .overrun) := by
  rcases process.first_or_none page with ⟨index, first⟩ | missing
  · have present : ¬∀ other, ¬process.HoldsRecord page other := fun none => none index first.1
    rw [searchPage_first first, copyVoltTable_inside_iff]
    constructor
    · rintro ⟨word, table⟩
      refine ⟨⟨fun other second => ?_, fun other second => ?_, fun none => absurd none present⟩,
        fun none => absurd none present⟩
      · rwa [first.unique second]
      · rwa [first.unique second]
    · exact fun both => ⟨both.1.word index first, both.1.table index first⟩
  · rw [searchPage_none missing]
    by_cases out : ∃ position ≤ lastPosition, RunsOut unkRegulator ((process.bytes page).drop position)
    · rw [if_pos out]
      obtain ⟨position, below, out⟩ := out
      exact iff_of_false (fun same => same rfl) fun both => both.1.missing missing position below out
    · rw [if_neg out]
      have inside : process.PageInside page :=
        ⟨fun other first => absurd first.1 (missing other),
          fun other first => absurd first.1 (missing other),
          fun _ position below runs => out ⟨position, below, runs⟩⟩
      exact ⟨fun same => ⟨inside, fun _ => same⟩, fun both => both.2 missing⟩

theorem copied_eq {cached : CachedVoltTable}
    (returned : process.copyVoltTable page index = .returns (some cached)) :
    cached = process.voltTable page index := by
  unfold copyVoltTable at returned
  split_ifs at returned
  · simp at returned
  · simpa using returned.symm

/-- No page before one of the list holds the record. -/
def Unpreceded (process : DebugProcess) (pages : List Page) (page : Page) : Prop :=
  ∃ before after, pages = before ++ page :: after ∧
    ∀ earlier ∈ before, ∀ index, ¬process.HoldsRecord earlier index

theorem unpreceded_cons_iff {first : Page} {rest : List Page} :
    process.Unpreceded (first :: rest) page ↔
      page = first ∨
        (∀ index, ¬process.HoldsRecord first index) ∧ process.Unpreceded rest page := by
  constructor
  · rintro ⟨before, after, split, clear⟩
    cases before with
    | nil => exact .inl (List.cons.inj split).1.symm
    | cons head before =>
        obtain ⟨rfl, rest⟩ := List.cons.inj split
        refine .inr ⟨clear _ List.mem_cons_self, before, after, rest, fun earlier member => ?_⟩
        exact clear earlier (List.mem_cons_of_mem _ member)
  · rintro (rfl | ⟨missing, before, after, rfl, clear⟩)
    · exact ⟨[], rest, rfl, fun earlier member => absurd member List.not_mem_nil⟩
    · refine ⟨first :: before, after, rfl, fun earlier member => ?_⟩
      rcases List.mem_cons.mp member with rfl | later
      · exact missing
      · exact clear earlier later

theorem walk_inside_iff (pages : List Page) :
    pages.foldr process.searchPage (.returns none) ≠ .overrun ↔
      ∀ page, process.Unpreceded pages page → process.PageInside page := by
  induction pages with
  | nil =>
      refine iff_of_true (by simp) fun page unpreceded => ?_
      obtain ⟨before, after, split, -⟩ := unpreceded
      simp at split
  | cons first rest ih =>
      rw [List.foldr_cons, searchPage_inside_iff, ih]
      simp only [unpreceded_cons_iff]
      constructor
      · rintro ⟨inside, others⟩ page (rfl | ⟨missing, unpreceded⟩)
        · exact inside
        · exact others missing page unpreceded
      · intro every
        exact ⟨every first (.inl rfl), fun missing page unpreceded => every page (.inr ⟨missing, unpreceded⟩)⟩

theorem walk_finished (pages : List Page) :
    pages.foldr process.searchPage (.returns none) ≠ .unfinished := by
  induction pages with
  | nil => simp
  | cons first rest ih =>
      rw [List.foldr_cons]
      rcases process.first_or_none first with ⟨index, record⟩ | missing
      · rw [searchPage_first record, copyVoltTable]
        split_ifs <;> simp
      · rw [searchPage_none missing]
        split
        · simp
        · exact ih

/-- What is cached stands behind the first record of the first page that holds one. -/
theorem walk_cached {pages : List Page} {cached : CachedVoltTable}
    (returned : pages.foldr process.searchPage (.returns none) = .returns (some cached)) :
    ∃ page index, process.Unpreceded pages page ∧ process.FirstRecord page index ∧
      cached = process.voltTable page index := by
  induction pages with
  | nil => simp at returned
  | cons first rest ih =>
      rw [List.foldr_cons] at returned
      rcases process.first_or_none first with ⟨index, record⟩ | missing
      · rw [searchPage_first record] at returned
        exact ⟨first, index, unpreceded_cons_iff.mpr (.inl rfl), record, copied_eq returned⟩
      · rw [searchPage_none missing] at returned
        split_ifs at returned
        obtain ⟨page, index, unpreceded, record, same⟩ := ih returned
        exact ⟨page, index, unpreceded_cons_iff.mpr (.inr ⟨missing, unpreceded⟩), record, same⟩

theorem walk_finds {pages : List Page} (inside : ∀ page, process.Unpreceded pages page →
      process.PageInside page)
    (unpreceded : process.Unpreceded pages page) (first : process.FirstRecord page index)
    (begins : bytesWord (slice (process.bytes page) (index + voltageTableOffset) 4) = vmax) :
    pages.foldr process.searchPage (.returns none) = .returns (some (process.voltTable page index)) := by
  have here := inside page unpreceded
  have copied : process.copyVoltTable page index = .returns (some (process.voltTable page index)) := by
    rw [copyVoltTable, if_neg (Nat.not_lt.mpr (here.word index first)), if_neg (not_not.mpr begins),
      if_neg (Nat.not_lt.mpr (here.table index first begins))]
  induction pages with
  | nil =>
      obtain ⟨before, after, split, -⟩ := unpreceded
      simp at split
  | cons head rest ih =>
      rw [List.foldr_cons]
      rcases unpreceded_cons_iff.mp unpreceded with rfl | ⟨missing, later⟩
      · rw [searchPage_first first, copied]
      · have stays := (inside head (unpreceded_cons_iff.mpr (.inl rfl))).missing missing
        rw [searchPage_none missing, if_neg (by rintro ⟨position, below, out⟩; exact stays position below out)]
        exact ih (fun other unpreceded => inside other (unpreceded_cons_iff.mpr (.inr ⟨missing, unpreceded⟩)))
          later

/-- Where a position of a page lies in the memory of the process. -/
def addressOf (page : Page) (index : Nat) : BitVec 64 := .ofNat 64 (page.address + index)

theorem addressOf_add (page : Page) (index offset : Nat) :
    addressOf page (index + offset) = addressOf page index + .ofNat 64 offset := by
  rw [addressOf, ← Nat.add_assoc, BitVec.ofNat_add]
  rfl

theorem voltTableAddress_eq (page : Page) (index : Nat) :
    (process.voltTable page index).voltTableAddress =
      addressOf page index + .ofNat 64 voltageTableOffset := by
  rw [← addressOf_add, addressOf, voltTable, Nat.add_assoc, Nat.add_comm voltageTableOffset]

theorem slice_congr {other : Page} {position count : Nat} (same : addressOf page index = addressOf other position)
    (offset : Nat) (within : index + offset + count ≤ page.memorySize)
    (inside : position + offset + count ≤ other.memorySize) :
    slice (process.bytes page) (index + offset) count =
      slice (process.bytes other) (position + offset) count := by
  rw [slice_bytes within, slice_bytes inside]
  change process.memory (addressOf page (index + offset)) count = process.memory (addressOf other _) count
  rw [addressOf_add, addressOf_add, same]

/-- The pages of the heap that can be read. -/
def readablePages (process : DebugProcess) : List Page :=
  (heapPages process.regions).filter process.reads

end DebugProcess

/-- The search ends, uses only bytes that the last read filled, and caches the table of the first
readable page of the heap that holds the record, if a table follows it there. -/
structure FindsVoltTable (process : DebugProcess) (result : Discovery) : Prop where
  terminates : result ≠ .unfinished
  inside : result ≠ .overrun
  caches : ∀ page index, process.Unpreceded process.readablePages page →
    process.HoldsTable page index → result = .returns (some (process.voltTable page index))

/-- Of the pages that are searched each is searched in filled bytes, up to the first that holds the
record; and where a table is to be found, its record is the first one there. -/
structure SearchReaches (process : DebugProcess) : Prop where
  inside : ∀ page, process.Unpreceded (process.searchedPages process.regions) page →
    process.PageInside page
  reaches : ∀ page index, process.Unpreceded process.readablePages page →
    process.HoldsTable page index → ∃ found position,
      process.Unpreceded (process.searchedPages process.regions) found ∧
        process.FirstRecord found position ∧
        DebugProcess.addressOf found position = DebugProcess.addressOf page index

open DebugProcess in
theorem gpu_volt_table_found_iff (process : DebugProcess) :
    FindsVoltTable process (cacheGpuVoltTable (some process)) ↔ SearchReaches process := by
  rw [cacheGpuVoltTable_eq]
  constructor
  · rintro ⟨-, inside, caches⟩
    refine ⟨(walk_inside_iff _).mp inside, fun page index unpreceded table => ?_⟩
    obtain ⟨found, position, first, record, same⟩ := walk_cached (caches page index unpreceded table)
    have address := congrArg CachedVoltTable.voltTableAddress same
    rw [voltTableAddress_eq, voltTableAddress_eq] at address
    exact ⟨found, position, first, record, (BitVec.add_left_inj _).mp address.symm⟩
  · rintro ⟨inside, reaches⟩
    refine ⟨walk_finished _, (walk_inside_iff _).mpr inside, fun page index unpreceded table => ?_⟩
    obtain ⟨found, position, first, record, same⟩ := reaches page index unpreceded table
    obtain ⟨-, begins, within⟩ := table
    have here := inside found first
    have short : index + voltageTableOffset + 4 ≤ page.memorySize :=
      Nat.le_trans (Nat.add_le_add_left (by decide) _) within
    have word := process.slice_congr same voltageTableOffset (here.word position record) short
    have whole := here.table position record (by rw [word]; exact begins)
    have words := process.slice_congr same voltageTableOffset whole within
    rw [walk_finds inside first record (by rw [word]; exact begins)]
    have address : (process.voltTable found position).voltTableAddress =
        (process.voltTable page index).voltTableAddress := by
      rw [voltTableAddress_eq, voltTableAddress_eq, same]
    have table := CachedVoltTable.ext (congrArg bytesWords words) address
    rw [table]

/-- One page of the heap, with the record in its last bytes. -/
def lateRecord : DebugProcess :=
  { regions := [{ addr := 0, size := 0x1000, type := 0x4, perm := 3 }]
    tiled := ⟨rfl, by decide, by decide, by decide, trivial⟩
    content := fun address => if address.toNat < 4084 then 0 else unkRegulator.getD (address.toNat - 4084) 0
    readable := fun _ _ => true }

def latePage : Page := { address := 0, memorySize := 0x1000, fits := Nat.le_refl _ }

theorem lateRecord_first : lateRecord.FirstRecord latePage 4084 := by
  constructor
  · rw [DebugProcess.HoldsRecord, DebugProcess.slice_bytes (by decide)]
    decide +kernel
  · intro earlier below record
    have start := congrArg (·[0]?) record
    rw [DebugProcess.slice_bytes record.within] at start
    have address : (BitVec.ofNat 64 earlier).toNat = earlier := Nat.mod_eq_of_lt (by omega)
    have zero : lateRecord.content (.ofNat 64 (latePage.address + earlier) + .ofNat 64 0) = 0 := by
      refine if_pos ?_
      simp [latePage]
      omega
    rw [DebugProcess.memory] at start
    change some (lateRecord.content _) = some (0xC0 : Byte) at start
    rw [zero] at start
    exact absurd start (by decide)

/-- The word behind the record is read past the end of the buffer. -/
theorem gpu_volt_table_search_overruns :
    cacheGpuVoltTable (some lateRecord) = .overrun ∧
      ¬∀ process, FindsVoltTable process (cacheGpuVoltTable (some process)) := by
  have overruns : cacheGpuVoltTable (some lateRecord) = .overrun := by
    have searched : lateRecord.searchedPages lateRecord.regions = [latePage] := rfl
    rw [cacheGpuVoltTable_eq, searched, List.foldr_cons, DebugProcess.searchPage_first lateRecord_first]
    exact if_pos (by decide)
  exact ⟨overruns, fun finds => (finds lateRecord).inside overruns⟩

end HorizonOc.Sysmodule
