import Mathlib.Data.Nat.Find
import Mathlib.Order.Bounds.Defs
import HorizonOc.Sysmodule.ConfigAgreement
import HorizonOc.Sysmodule.Kip

namespace HorizonOc.Sysmodule

open HorizonOc.Data

section

variable {file : List Byte}

theorem magicAt_iff {index : Nat} : magicAt file index = true ↔ slice file index 4 = custMagic := by
  simp [magicAt]

theorem magicAt_within {index : Nat} (found : magicAt file index = true) :
    index + 4 ≤ file.length := by
  have length := congrArg List.length (magicAt_iff.mp found)
  simp only [slice, List.length_take, List.length_drop, custMagic, List.length_cons,
    List.length_nil] at length
  omega

/-- What the buffer holds is what the file holds. -/
theorem magicAt_slice {pos count index : Nat} (inside : index + 4 ≤ count) :
    magicAt (slice file pos count) index = magicAt file (pos + index) := by
  have same : slice (slice file pos count) index 4 = slice file (pos + index) 4 := by
    rw [slice, slice, slice, List.drop_take, List.take_take, List.drop_drop,
      Nat.min_eq_left (by omega)]
  unfold magicAt
  rw [same]

/-- The answer of a search from a position on. -/
def FirstMagic (file : List Byte) (pos : Nat) : Option Nat → Prop
  | some offset => pos ≤ offset ∧ magicAt file offset = true ∧
      ∀ index, pos ≤ index → index < offset → magicAt file index = false
  | none => ∀ index, pos ≤ index → magicAt file index = false

theorem findMagic_some {pos index : Nat} (enough : ¬(slice file pos 512).length < 4)
    (found : findMagic (slice file pos 512) = some index) :
    magicAt file (pos + index) = true ∧
      ∀ other, pos ≤ other → other < pos + index → magicAt file other = false := by
  obtain ⟨here, inside, before⟩ := List.find?_range_eq_some.mp found
  rw [List.mem_range] at inside
  have length : (slice file pos 512).length ≤ 512 := List.length_take_le _ _
  rw [magicAt_slice (by omega)] at here
  refine ⟨here, ?_⟩
  intro other later earlier
  have skipped := before (other - pos) (by omega)
  rw [magicAt_slice (by omega), Nat.add_sub_cancel' later] at skipped
  simpa using skipped

theorem findMagic_none {pos : Nat} (enough : ¬(slice file pos 512).length < 4)
    (missing : findMagic (slice file pos 512) = none) :
    ∀ index, pos ≤ index → index < pos + ((slice file pos 512).length - 3) →
      magicAt file index = false := by
  intro index later earlier
  have length : (slice file pos 512).length ≤ 512 := List.length_take_le _ _
  have skipped := List.find?_eq_none.mp missing (index - pos) (by
    rw [List.mem_range]
    omega)
  rw [magicAt_slice (by omega), Nat.add_sub_cancel' later] at skipped
  simpa using skipped

/-- Positions without the magic can be passed over. -/
theorem FirstMagic.skip {pos next : Nat} {answer : Option Nat} (further : pos ≤ next)
    (absent : ∀ index, pos ≤ index → index < next → magicAt file index = false)
    (first : FirstMagic file next answer) : FirstMagic file pos answer := by
  have without : ∀ index, pos ≤ index → (next ≤ index → magicAt file index = false) →
      magicAt file index = false := by
    intro index later beyond
    by_cases near : index < next
    · exact absent index later near
    · exact beyond (Nat.not_lt.mp near)
  cases answer with
  | none => exact fun index later => without index later (first index)
  | some offset =>
      obtain ⟨beyond, here, before⟩ := first
      refine ⟨Nat.le_trans further beyond, here, ?_⟩
      intro index later earlier
      exact without index later fun reached => before index reached earlier

/-- The next buffer begins three bytes before the end of this one, so no magic falls between. -/
theorem custFindOffsetFrom_first (file : List Byte) (pos : Nat) :
    FirstMagic file pos (custFindOffsetFrom file pos) := by
  induction pos using custFindOffsetFrom.induct file with
  | case1 pos buf short =>
      rw [custFindOffsetFrom, if_pos short]
      intro index later
      by_contra found
      have within := magicAt_within (by simpa using found)
      simp only [buf, slice, List.length_take, List.length_drop] at short
      omega
  | case2 pos buf enough index found =>
      rw [custFindOffsetFrom, if_neg enough]
      simp only [buf] at enough found
      simp only [found]
      obtain ⟨here, before⟩ := findMagic_some enough found
      exact ⟨Nat.le_add_right pos index, here, before⟩
  | case3 pos buf enough missing ih =>
      rw [custFindOffsetFrom, if_neg enough]
      simp only [buf] at missing enough ih
      simp only [missing]
      exact ih.skip (Nat.le_add_right pos _) (findMagic_none enough missing)

theorem custFindOffset_eq_some_iff {offset : Nat} :
    custFindOffset file = some offset ↔
      magicAt file offset = true ∧ ∀ index < offset, magicAt file index = false := by
  have first := custFindOffsetFrom_first file 0
  unfold custFindOffset
  cases answer : custFindOffsetFrom file 0 with
  | none =>
      rw [answer] at first
      constructor
      · intro impossible
        contradiction
      · rintro ⟨here, -⟩
        rw [first offset (Nat.zero_le offset)] at here
        contradiction
  | some found =>
      rw [answer] at first
      obtain ⟨-, here, before⟩ := first
      rw [Option.some.injEq]
      constructor
      · rintro rfl
        exact ⟨here, fun index earlier => before index (Nat.zero_le index) earlier⟩
      · rintro ⟨other, none⟩
        by_contra different
        rcases Nat.lt_or_gt_of_ne different with less | more
        · rw [none found less] at here
          contradiction
        · rw [before offset (Nat.zero_le offset) more] at other
          contradiction

/-- The search ends for every file, and its answer is the first place of the magic. -/
theorem cust_find_offset_complete (file : List Byte) :
    ((custFindOffset file).isSome ↔ ∃ index, slice file index 4 = custMagic) ∧
      ∀ offset, custFindOffset file = some offset ↔
        IsLeast {index | slice file index 4 = custMagic} offset := by
  have least : ∀ offset, custFindOffset file = some offset ↔
      IsLeast {index | slice file index 4 = custMagic} offset := by
    intro offset
    rw [custFindOffset_eq_some_iff]
    constructor
    · rintro ⟨here, before⟩
      refine ⟨magicAt_iff.mp here, ?_⟩
      intro index there
      by_contra below
      have absent := before index (Nat.lt_of_not_le below)
      rw [magicAt_iff.mpr there] at absent
      contradiction
    · rintro ⟨here, lowest⟩
      refine ⟨magicAt_iff.mpr here, ?_⟩
      intro index below
      by_contra found
      have there := magicAt_iff.mp (Bool.eq_true_of_not_eq_false found)
      exact Nat.not_lt.mpr (lowest there) below
  refine ⟨?_, least⟩
  constructor
  · intro answered
    obtain ⟨offset, found⟩ := Option.isSome_iff_exists.mp answered
    exact ⟨offset, ((least offset).mp found).1⟩
  · intro somewhere
    have first : IsLeast {index | slice file index 4 = custMagic} (Nat.find somewhere) :=
      ⟨Nat.find_spec somewhere, fun _ there => Nat.find_min' somewhere there⟩
    rw [(least _).mpr first]
    rfl

/-- A table is found and lies within the file. -/
structure Located (file : List Byte) (offset : Nat) : Prop where
  found : custFindOffset file = some offset
  within : offset + kipTableSize ≤ file.length

def tableAt (file : List Byte) (offset : Nat) : KipTable :=
  unpack KipField.all (slice file offset kipTableSize)

@[simp] theorem pack_table_length (table : KipTable) :
    (pack KipField.all table).length = kipTableSize := by
  rw [pack_length, KipField.all_length]

/-- The structure begins with the word of the magic. -/
theorem pack_table_start (table : KipTable) : ∃ rest,
    pack KipField.all table = wordBytes (table .cust) ++ rest :=
  ⟨_, pack_cons _ _ _⟩

variable {offset : Nat} {table : KipTable}

theorem pack_tableAt (within : offset + kipTableSize ≤ file.length) :
    pack KipField.all (tableAt file offset) = slice file offset kipTableSize := by
  apply pack_unpack KipField.all_nodup
  rw [KipField.all_length, slice_length within]

/-- The magic is the first field of the table. -/
theorem Located.cust (located : Located file offset) :
    wordBytes (tableAt file offset .cust) = custMagic := by
  obtain ⟨rest, start⟩ := pack_table_start (tableAt file offset)
  have magic := magicAt_iff.mp (custFindOffset_eq_some_iff.mp located.found).1
  have prefixed : (slice file offset kipTableSize).take 4 = slice file offset 4 := by
    rw [slice, slice, List.take_take]
    rfl
  rw [← pack_tableAt located.within, start, List.take_left' (wordBytes_length _)] at prefixed
  rw [prefixed, magic]

theorem custReadTable_eq_some_iff :
    custReadTable file = some table ↔
      ∃ offset, Located file offset ∧ table = tableAt file offset := by
  unfold custReadTable
  cases found : custFindOffset file with
  | none =>
      constructor
      · intro impossible
        contradiction
      · rintro ⟨offset, located, -⟩
        rw [located.found] at found
        contradiction
  | some offset =>
      simp only
      split
      · rename_i short
        constructor
        · intro impossible
          contradiction
        · rintro ⟨other, located, -⟩
          have same : offset = other := Option.some.inj (found.symm.trans located.found)
          have within := located.within
          omega
      · rename_i enough
        have located : Located file offset := ⟨found, by omega⟩
        have magic := located.cust
        unfold tableAt at magic
        rw [if_pos magic]
        constructor
        · intro read
          exact ⟨offset, located, (Option.some.inj read).symm⟩
        · rintro ⟨other, there, rfl⟩
          have same : offset = other := Option.some.inj (found.symm.trans there.found)
          rw [same]
          rfl

theorem custWriteTable_located {kip : KipFile} (located : Located kip.bytes offset)
    (table : KipTable) :
    custWriteTable kip table =
      if kip.writable then
        some { kip with bytes := overwrite kip.bytes offset (pack KipField.all table) }
      else none := by
  unfold custWriteTable
  have enough : ¬kip.bytes.length < offset + kipTableSize := by
    have within := located.within
    omega
  rw [located.found]
  cases kip.writable with
  | true => simp [enough]
  | false => rfl

/-- A table with the same magic leaves the bytes up to the end of the magic. -/
theorem overwrite_magic (located : Located file offset)
    (magic : table .cust = tableAt file offset .cust) {index : Nat} (below : index < offset + 4) :
    (Data.overwrite file offset (pack KipField.all table))[index]? = file[index]? := by
  have within : offset + (pack KipField.all table).length ≤ file.length := by
    rw [pack_table_length]
    exact located.within
  obtain ⟨rest, start⟩ := pack_table_start table
  obtain ⟨others, before⟩ := pack_table_start (tableAt file offset)
  rw [overwrite_getElem? within]
  split
  · rename_i inside
    have inner : index - offset < kipTableSize := by
      unfold kipTableSize
      omega
    have original := slice_getElem? file offset inner
    rw [← pack_tableAt located.within, before,
      List.getElem?_append_left (by rw [wordBytes_length]; omega)] at original
    rw [start, List.getElem?_append_left (by rw [wordBytes_length]; omega), magic, original]
    congr 1
    omega
  · rfl

/-- Writing a table back keeps it where it is, as long as the magic is kept. -/
theorem Located.overwrite (located : Located file offset) (table : KipTable)
    (magic : table .cust = tableAt file offset .cust) :
    Located (Data.overwrite file offset (pack KipField.all table)) offset ∧
      tableAt (Data.overwrite file offset (pack KipField.all table)) offset = table := by
  have within : offset + (pack KipField.all table).length ≤ file.length := by
    rw [pack_table_length]
    exact located.within
  have magics : ∀ index ≤ offset,
      magicAt (Data.overwrite file offset (pack KipField.all table)) index = magicAt file index := by
    intro index early
    have same : slice (Data.overwrite file offset (pack KipField.all table)) index 4 =
        slice file index 4 :=
      slice_congr fun position below => overwrite_magic located magic (by omega)
    unfold magicAt
    rw [same]
  obtain ⟨here, earlier⟩ := custFindOffset_eq_some_iff.mp located.found
  refine ⟨⟨custFindOffset_eq_some_iff.mpr ⟨?_, ?_⟩, ?_⟩, ?_⟩
  · rw [magics offset (Nat.le_refl offset), here]
  · intro index early
    rw [magics index (Nat.le_of_lt early), earlier index early]
  · rw [overwrite_length within]
    exact located.within
  · have read : slice (Data.overwrite file offset (pack KipField.all table)) offset kipTableSize =
        pack KipField.all table := by
      rw [← pack_table_length table]
      exact slice_overwrite within
    funext field
    have back := unpack_pack table field.mem_all []
    rw [List.append_nil] at back
    rw [tableAt, read, back]

theorem located_pack (magic : wordBytes (table .cust) = custMagic) :
    Located (pack KipField.all table) 0 ∧ tableAt (pack KipField.all table) 0 = table := by
  obtain ⟨rest, start⟩ := pack_table_start table
  have here : magicAt (pack KipField.all table) 0 = true := by
    rw [magicAt_iff, start, magic]
    rfl
  have within : 0 + kipTableSize ≤ (pack KipField.all table).length := by
    rw [pack_table_length, Nat.zero_add]
  refine ⟨⟨custFindOffset_eq_some_iff.mpr ⟨here, ?_⟩, within⟩, ?_⟩
  · intro index below
    exact absurd below (Nat.not_lt_zero index)
  · have all : slice (pack KipField.all table) 0 kipTableSize = pack KipField.all table := by
      rw [slice, List.drop_zero, List.take_of_length_le (by rw [pack_table_length])]
    funext field
    have back := unpack_pack table field.mem_all []
    rw [List.append_nil] at back
    rw [tableAt, all, back]

/-- Writing one field of the table is writing its four bytes. -/
theorem overwrite_field (within : offset + kipTableSize ≤ file.length) (field : KipField)
    (word : BitVec 32) :
    Data.overwrite file (offset + 4 * KipField.all.idxOf field) (wordBytes word) =
      Data.overwrite file offset
        (pack KipField.all (Function.update (tableAt file offset) field word)) := by
  have position : KipField.all.idxOf field < KipField.all.length :=
    List.idxOf_lt_length_of_mem field.mem_all
  have size := KipField.all_length
  have length := slice_length within
  rw [pack_update KipField.all_nodup field.mem_all, pack_tableAt within,
    overwrite_overwrite (by rw [length]; exact within)
      (by rw [length, wordBytes_length]; omega), overwrite_slice within]

end

theorem setKipBatch_nodup : (setKipBatch.map Prod.fst).Nodup := by decide +kernel

def getKipKeys : List ConfigValue :=
  getKipScalars.map Prod.fst ++ [ConfigValue.gpuSpeedo] ++ getKipArrays.map Prod.fst

theorem getKipKeys_nodup : getKipKeys.Nodup := by decide +kernel

theorem getKipBatch_keys (table : KipTable) (gpuSpeedo : Nat) :
    (getKipBatch table gpuSpeedo).map Prod.fst = getKipKeys := by
  simp only [getKipBatch, getKipKeys, List.map_append, List.map_map, List.map_cons, List.map_nil]
  rfl

/-- `GetKipData` reads what `SetKipData` writes, but for the revision and the speedo. -/
theorem getKip_of_setKip : ∀ pair ∈ setKipBatch, pair.1 ≠ .custRev → pair.1 ≠ .gpuSpeedo →
    (pair.2, pair.1) ∈ getKipScalars ++ getKipArrays := by decide +kernel

/-- Any value of a field of the table is valid. -/
theorem kipValue_valid {pair : KipField × ConfigValue} (member : pair ∈ setKipBatch) (input : Nat) :
    hocclkValidConfigValue pair.2 input = true := by
  have unchecked : ∀ pair ∈ setKipBatch, pair.2 ∉
      [.eristaMaxCpuClock, .marikoMaxCpuClock, .thermalThrottleThreshold, .handheldTDPLimit,
       .liteTDPLimit, .pollingIntervalMs, .maxDisplayClockH, .tempLogIntervalMs,
       .freqLogIntervalMs, .powerLogIntervalMs, .csvWriteIntervalMs, .uncappedClocks,
       .overwriteBoostMode, .thermalThrottle, .handheldTDP, .overwriteRefreshRate, .isFirstLoad,
       .enableExperimentalSettings, .liveCpuUv, .gpuSchedulingMethod, .batteryChargeCurrent,
       .displayVoltage] := by decide +kernel
  have absent := unchecked pair member
  generalize pair.2 = kval at absent ⊢
  cases kval <;> first | rfl | exact absurd (by decide) absent

theorem acceptedValue_kip {pair : KipField × ConfigValue} (member : pair ∈ setKipBatch)
    (value : Nat) : Config.acceptedValue pair.2 value = value := by
  rw [Config.acceptedValue, if_pos (kipValue_valid member value)]

section

variable {table : KipTable} {values : ConfigValue → Nat} {field : KipField} {kval : ConfigValue}

theorem setKipFields_written (member : (field, kval) ∈ setKipBatch) :
    setKipFields table values field = .ofNat 32 (values kval) := by
  apply assign_of_mem
  · rw [List.map_map]
    exact setKipBatch_nodup
  · exact List.mem_map.mpr ⟨_, member, rfl⟩

theorem setKipFields_kept (other : field ∉ setKipBatch.map Prod.fst) :
    setKipFields table values field = table field := by
  apply assign_of_not_mem
  rw [List.map_map]
  exact other

theorem setKipFields_cust : setKipFields table values .cust = table .cust :=
  setKipFields_kept (by decide +kernel)

theorem getKipFields_read (gpuSpeedo : Nat) (member : (field, kval) ∈ setKipBatch)
    (notRev : field ≠ .custRev) (notSpeedo : field ≠ .gpuSpeedo) :
    getKipFields values table gpuSpeedo kval = (table field).toNat := by
  apply assign_of_mem
  · rw [getKipBatch_keys]
    exact getKipKeys_nodup
  · have read := getKip_of_setKip _ member notRev notSpeedo
    simp only [getKipBatch, List.mem_append, List.mem_map] at read ⊢
    rcases read with scalar | array
    · exact .inl (.inl ⟨_, scalar, rfl⟩)
    · exact .inr ⟨_, array, rfl⟩

theorem getKipFields_speedo (gpuSpeedo : Nat) :
    getKipFields values table gpuSpeedo .gpuSpeedo = gpuSpeedo := by
  apply assign_of_mem
  · rw [getKipBatch_keys]
    exact getKipKeys_nodup
  · simp [getKipBatch]

theorem getKipFields_kept (gpuSpeedo : Nat) (other : kval ∉ getKipKeys) :
    getKipFields values table gpuSpeedo kval = values kval := by
  apply assign_of_not_mem
  rw [getKipBatch_keys]
  exact other

theorem getKipFields_fits {gpuSpeedo : Nat} (fits : ∀ kval, values kval < 2 ^ 64)
    (fuse : gpuSpeedo < 2 ^ 64) (kval : ConfigValue) :
    getKipFields values table gpuSpeedo kval < 2 ^ 64 := by
  rcases assign_cases values (getKipBatch table gpuSpeedo) kval with kept | assigned
  · rw [getKipFields, kept]
    exact fits kval
  · have word (field : KipField) : (table field).toNat < 2 ^ 64 :=
      Nat.lt_of_lt_of_le (table field).isLt (by decide)
    generalize value : assign values (getKipBatch table gpuSpeedo) kval = read at assigned
    rw [getKipFields, value]
    simp only [getKipBatch, List.mem_append, List.mem_map, List.mem_singleton,
      Prod.mk.injEq] at assigned
    rcases assigned with (⟨pair, -, -, rfl⟩ | ⟨-, rfl⟩) | ⟨pair, -, -, rfl⟩
    · exact word pair.2
    · exact fuse
    · exact word pair.2

/-- Writing what was read gives the table back, but for the revision and the speedo. -/
theorem setKipFields_getKipFields {read : ConfigValue → Nat} {gpuSpeedo : Nat}
    (same : ∀ pair ∈ setKipBatch, read pair.2 = getKipFields values table gpuSpeedo pair.2) :
    setKipFields table read =
      Function.update (Function.update table .gpuSpeedo (.ofNat 32 gpuSpeedo)) .custRev
        (.ofNat 32 (values .custRev)) := by
  funext field
  by_cases revision : field = .custRev
  · have member : (KipField.custRev, ConfigValue.custRev) ∈ setKipBatch := by decide
    have kept : ConfigValue.custRev ∉ getKipKeys := by decide +kernel
    rw [revision, setKipFields_written member, same _ member, getKipFields_kept gpuSpeedo kept,
      Function.update_self]
  · rw [Function.update_of_ne revision]
    by_cases speedo : field = .gpuSpeedo
    · have member : (KipField.gpuSpeedo, ConfigValue.gpuSpeedo) ∈ setKipBatch := by decide
      rw [speedo, setKipFields_written member, same _ member, getKipFields_speedo,
        Function.update_self]
    · rw [Function.update_of_ne speedo]
      by_cases written : field ∈ setKipBatch.map Prod.fst
      · obtain ⟨⟨field, kval⟩, member, rfl⟩ := List.mem_map.mp written
        rw [setKipFields_written member, same _ member,
          getKipFields_read gpuSpeedo member revision speedo, BitVec.ofNat_toNat,
          BitVec.setWidth_eq]
      · exact setKipFields_kept written

end

end HorizonOc.Sysmodule
