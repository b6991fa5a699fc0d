import HorizonOc.Sysmodule.KipRoundTrip

namespace HorizonOc.Sysmodule

open HorizonOc.Data

def custWriteField (file : KipFile) (field : KipField) (value : BitVec 32) : Bool × KipFile :=
  match custReadTable file.bytes with
  | none => (false, file)
  | some table =>
      match custWriteTable file (Function.update table field value) with
      | none => (false, file)
      | some after => (true, after)

/-- `CUST_GET_FIELD`, which is 0 for a null pointer. -/
def custGetField (table : Option KipTable) (field : KipField) : BitVec 32 :=
  match table with
  | none => 0
  | some table => table field

/-- `cust_get_field`, by the offset in the structure. -/
def custGetFieldAt (table : Option KipTable) (offset : Nat) : BitVec 32 :=
  match table with
  | none => 0
  | some table => bytesWord (slice (pack KipField.all table) offset 4)

/-- What stands behind `cust_set_` and `cust_get_`. -/
inductive CustName where
  | custRev | hpMode | commonEmcVolt | eristaEmcMax | eristaEmcMax1 | eristaEmcMax2
  | marikoEmcMax | marikoEmcVddq | emcDvbShift | tRCD | tRP | tRAS | tRRD | tRFC | tRTW | tWTR
  | tREFI | tRTWFineTune | tWTRFineTune | burstReadLat | burstWriteLat | eristaCpuUv
  | eristaCpuVmin | eristaCpuMaxVolt | eristaCpuUnlock | marikoCpuUvLow | marikoCpuUvHigh
  | marikoCpuLowVmin | marikoCpuHighVmin | marikoCpuMaxVolt | eristaCpuBoost | marikoCpuBoost
  | tableConf | eristaGpuUv | eristaGpuVmin | marikoGpuUv | marikoGpuVmin | marikoGpuVmax
  | commonGpuOffset | gpuSpeedo | marikoCpuMaxClock
  | eristaGpuVolt (index : Int) | marikoGpuVolt (index : Int)
deriving DecidableEq, Repr

def eristaGpuVoltField (index : Int) : Option KipField :=
  if inside : 0 ≤ index ∧ index < 27 then some (.eristaGpuVoltArray ⟨index.toNat, by omega⟩) else none

def marikoGpuVoltField (index : Int) : Option KipField :=
  if inside : 0 ≤ index ∧ index < 24 then some (.marikoGpuVoltArray ⟨index.toNat, by omega⟩) else none

/-- The field that a setter writes; `cust_set_table_conf` does not exist. -/
def CustName.setField : CustName → Option KipField
  | .custRev => some .custRev
  | .hpMode => some .hpMode
  | .commonEmcVolt => some .commonEmcMemVolt
  | .eristaEmcMax => some .eristaEmcMaxClock
  | .eristaEmcMax1 => some .eristaEmcMaxClock1
  | .eristaEmcMax2 => some .eristaEmcMaxClock2
  | .marikoEmcMax => some .marikoEmcMaxClock
  | .marikoEmcVddq => some .marikoEmcVddqVolt
  | .emcDvbShift => some .emcDvbShift
  | .tRCD => some .t1_tRCD
  | .tRP => some .t2_tRP
  | .tRAS => some .t3_tRAS
  | .tRRD => some .t4_tRRD
  | .tRFC => some .t5_tRFC
  | .tRTW => some .t6_tRTW
  | .tWTR => some .t7_tWTR
  | .tREFI => some .t8_tREFI
  | .tRTWFineTune => some .t6_tRTW_fine_tune
  | .tWTRFineTune => some .t7_tWTR_fine_tune
  | .burstReadLat => some .mem_burst_read_latency
  | .burstWriteLat => some .mem_burst_write_latency
  | .eristaCpuUv => some .eristaCpuUV
  | .eristaCpuVmin => some .eristaCpuVmin
  | .eristaCpuMaxVolt => some .eristaCpuMaxVolt
  | .eristaCpuUnlock => some .eristaCpuUnlock
  | .marikoCpuUvLow => some .marikoCpuUVLow
  | .marikoCpuUvHigh => some .marikoCpuUVHigh
  | .marikoCpuLowVmin => some .marikoCpuLowVmin
  | .marikoCpuHighVmin => some .marikoCpuHighVmin
  | .marikoCpuMaxVolt => some .marikoCpuMaxVolt
  | .eristaCpuBoost => some .eristaCpuBoostClock
  | .marikoCpuBoost => some .marikoCpuBoostClock
  | .eristaGpuUv => some .eristaGpuUV
  | .eristaGpuVmin => some .eristaGpuVmin
  | .marikoGpuUv => some .marikoGpuUV
  | .marikoGpuVmin => some .marikoGpuVmin
  | .marikoGpuVmax => some .marikoGpuVmax
  | .commonGpuOffset => some .commonGpuVoltOffset
  | .gpuSpeedo => some .gpuSpeedo
  | .marikoCpuMaxClock => some .marikoCpuMaxClock
  | .eristaGpuVolt index => eristaGpuVoltField index
  | .marikoGpuVolt index => marikoGpuVoltField index
  | .tableConf => none

/-- The field that a getter reads. -/
def CustName.getField : CustName → Option KipField
  | .custRev => some .custRev
  | .hpMode => some .hpMode
  | .commonEmcVolt => some .commonEmcMemVolt
  | .eristaEmcMax => some .eristaEmcMaxClock
  | .eristaEmcMax1 => some .eristaEmcMaxClock1
  | .eristaEmcMax2 => some .eristaEmcMaxClock2
  | .marikoEmcMax => some .marikoEmcMaxClock
  | .marikoEmcVddq => some .marikoEmcVddqVolt
  | .emcDvbShift => some .emcDvbShift
  | .tRCD => some .t1_tRCD
  | .tRP => some .t2_tRP
  | .tRAS => some .t3_tRAS
  | .tRRD => some .t4_tRRD
  | .tRFC => some .t5_tRFC
  | .tRTW => some .t6_tRTW
  | .tWTR => some .t7_tWTR
  | .tREFI => some .t8_tREFI
  | .tRTWFineTune => some .t6_tRTW_fine_tune
  | .tWTRFineTune => some .t7_tWTR_fine_tune
  | .burstReadLat => some .mem_burst_read_latency
  | .burstWriteLat => some .mem_burst_write_latency
  | .eristaCpuUv => some .eristaCpuUV
  | .eristaCpuVmin => some .eristaCpuVmin
  | .eristaCpuMaxVolt => some .eristaCpuMaxVolt
  | .eristaCpuUnlock => some .eristaCpuUnlock
  | .marikoCpuUvLow => some .marikoCpuUVLow
  | .marikoCpuUvHigh => some .marikoCpuUVHigh
  | .marikoCpuLowVmin => some .marikoCpuLowVmin
  | .marikoCpuHighVmin => some .marikoCpuHighVmin
  | .marikoCpuMaxVolt => some .marikoCpuMaxVolt
  | .eristaCpuBoost => some .eristaCpuBoostClock
  | .marikoCpuBoost => some .marikoCpuBoostClock
  | .tableConf => some .tableConf
  | .eristaGpuUv => some .eristaGpuUV
  | .eristaGpuVmin => some .eristaGpuVmin
  | .marikoGpuUv => some .marikoGpuUV
  | .marikoGpuVmin => some .marikoGpuVmin
  | .marikoGpuVmax => some .marikoGpuVmax
  | .commonGpuOffset => some .commonGpuVoltOffset
  | .gpuSpeedo => some .gpuSpeedo
  | .marikoCpuMaxClock => some .marikoCpuMaxClock
  | .eristaGpuVolt index => eristaGpuVoltField index
  | .marikoGpuVolt index => marikoGpuVoltField index

/-- The helpers that are declared for a rate, with the index that they pass on. -/
def eristaGpuVoltHelpers : List (Nat × Int) :=
  [(76800, 0), (115200, 1), (153600, 2), (192000, 3), (230400, 4), (268800, 5), (307200, 6),
   (345600, 7), (384000, 8), (422400, 9), (460800, 10), (499200, 11), (537600, 12), (576000, 13),
   (614400, 14), (652800, 15), (691200, 16), (729600, 17), (768000, 18), (806400, 19),
   (844800, 20), (883200, 21), (921600, 22), (960000, 23), (998400, 24), (1036800, 25),
   (1075200, 26)]

def marikoGpuVoltHelpers : List (Nat × Int) :=
  [(76800, 0), (153600, 1), (230400, 2), (307200, 3), (384000, 4), (460800, 5), (537600, 6),
   (614400, 7), (691200, 8), (768000, 9), (844800, 10), (921600, 11), (998400, 12),
   (1075200, 13), (1152000, 14), (1228800, 15), (1267200, 16), (1305600, 17), (1344000, 18),
   (1382400, 19), (1420800, 20), (1459200, 21), (1497600, 22), (1536000, 23)]

def eristaGpuVoltGets : List (Nat × Int) :=
  [(76800, 0), (115200, 1), (153600, 2), (192000, 3), (230400, 4), (268800, 5), (307200, 6),
   (345600, 7), (384000, 8), (422400, 9), (460800, 10), (499200, 11), (537600, 12), (576000, 13),
   (614400, 14), (652800, 15), (691200, 16), (729600, 17), (768000, 18), (806400, 19),
   (844800, 20), (883200, 21), (921600, 22), (960000, 23), (998400, 24), (1036800, 25),
   (1075200, 26)]

def marikoGpuVoltGets : List (Nat × Int) :=
  [(76800, 0), (153600, 1), (230400, 2), (307200, 3), (384000, 4), (460800, 5), (537600, 6),
   (614400, 7), (691200, 8), (768000, 9), (844800, 10), (921600, 11), (998400, 12),
   (1075200, 13), (1152000, 14), (1228800, 15), (1267200, 16), (1305600, 17), (1344000, 18),
   (1382400, 19), (1420800, 20), (1459200, 21), (1497600, 22), (1536000, 23)]

/-- The index of a rate, out of range for one without a helper. -/
def helperIndex (helpers : List (Nat × Int)) (freq : Nat) : Int :=
  match helpers.find? (·.1 = freq) with
  | none => -1
  | some helper => helper.2

inductive CustSetter where
  | named (name : CustName)
  | eristaGpuVoltAt (freq : Nat)
  | marikoGpuVoltAt (freq : Nat)
deriving DecidableEq, Repr

inductive CustGetter where
  | named (name : CustName)
  | eristaGpuVoltVal (freq : Nat)
  | marikoGpuVoltVal (freq : Nat)
deriving DecidableEq, Repr

def CustSetter.name : CustSetter → CustName
  | .named name => name
  | .eristaGpuVoltAt freq => .eristaGpuVolt (helperIndex eristaGpuVoltHelpers freq)
  | .marikoGpuVoltAt freq => .marikoGpuVolt (helperIndex marikoGpuVoltHelpers freq)

def CustGetter.name : CustGetter → CustName
  | .named name => name
  | .eristaGpuVoltVal freq => .eristaGpuVolt (helperIndex eristaGpuVoltGets freq)
  | .marikoGpuVoltVal freq => .marikoGpuVolt (helperIndex marikoGpuVoltGets freq)

def CustSetter.set (setter : CustSetter) (file : KipFile) (value : BitVec 32) : Bool × KipFile :=
  match setter.name.setField with
  | none => (false, file)
  | some field => custWriteField file field value

def CustGetter.get (getter : CustGetter) (table : Option KipTable) : BitVec 32 :=
  match getter.name.getField with
  | none => 0
  | some field => custGetField table field

def KipField.custName : KipField → Option CustName
  | .custRev => some .custRev
  | .hpMode => some .hpMode
  | .commonEmcMemVolt => some .commonEmcVolt
  | .eristaEmcMaxClock => some .eristaEmcMax
  | .eristaEmcMaxClock1 => some .eristaEmcMax1
  | .eristaEmcMaxClock2 => some .eristaEmcMax2
  | .marikoEmcMaxClock => some .marikoEmcMax
  | .marikoEmcVddqVolt => some .marikoEmcVddq
  | .emcDvbShift => some .emcDvbShift
  | .t1_tRCD => some .tRCD
  | .t2_tRP => some .tRP
  | .t3_tRAS => some .tRAS
  | .t4_tRRD => some .tRRD
  | .t5_tRFC => some .tRFC
  | .t6_tRTW => some .tRTW
  | .t7_tWTR => some .tWTR
  | .t8_tREFI => some .tREFI
  | .t6_tRTW_fine_tune => some .tRTWFineTune
  | .t7_tWTR_fine_tune => some .tWTRFineTune
  | .mem_burst_read_latency => some .burstReadLat
  | .mem_burst_write_latency => some .burstWriteLat
  | .eristaCpuUV => some .eristaCpuUv
  | .eristaCpuVmin => some .eristaCpuVmin
  | .eristaCpuMaxVolt => some .eristaCpuMaxVolt
  | .eristaCpuUnlock => some .eristaCpuUnlock
  | .marikoCpuUVLow => some .marikoCpuUvLow
  | .marikoCpuUVHigh => some .marikoCpuUvHigh
  | .marikoCpuLowVmin => some .marikoCpuLowVmin
  | .marikoCpuHighVmin => some .marikoCpuHighVmin
  | .marikoCpuMaxVolt => some .marikoCpuMaxVolt
  | .eristaCpuBoostClock => some .eristaCpuBoost
  | .marikoCpuBoostClock => some .marikoCpuBoost
  | .tableConf => some .tableConf
  | .eristaGpuUV => some .eristaGpuUv
  | .eristaGpuVmin => some .eristaGpuVmin
  | .marikoGpuUV => some .marikoGpuUv
  | .marikoGpuVmin => some .marikoGpuVmin
  | .marikoGpuVmax => some .marikoGpuVmax
  | .commonGpuVoltOffset => some .commonGpuOffset
  | .gpuSpeedo => some .gpuSpeedo
  | .marikoCpuMaxClock => some .marikoCpuMaxClock
  | .eristaGpuVoltArray index => some (.eristaGpuVolt index)
  | .marikoGpuVoltArray index => some (.marikoGpuVolt index)
  | .cust | .placeholder | .reserved _ => none

theorem eristaGpuVoltField_custName {index : Int} {field : KipField}
    (found : eristaGpuVoltField index = some field) :
    field.custName = some (.eristaGpuVolt index) := by
  unfold eristaGpuVoltField at found
  split at found
  · rename_i inside
    rw [← Option.some.inj found, KipField.custName, Int.toNat_of_nonneg inside.1]
  · contradiction

theorem marikoGpuVoltField_custName {index : Int} {field : KipField}
    (found : marikoGpuVoltField index = some field) :
    field.custName = some (.marikoGpuVolt index) := by
  unfold marikoGpuVoltField at found
  split at found
  · rename_i inside
    rw [← Option.some.inj found, KipField.custName, Int.toNat_of_nonneg inside.1]
  · contradiction

theorem CustName.custName_getField {name : CustName} {field : KipField}
    (found : name.getField = some field) : field.custName = some name := by
  cases name with
  | eristaGpuVolt index => exact eristaGpuVoltField_custName found
  | marikoGpuVolt index => exact marikoGpuVoltField_custName found
  | _ => rw [← Option.some.inj found]; rfl

theorem CustName.getField_of_setField {name : CustName} {field : KipField}
    (found : name.setField = some field) : name.getField = some field := by
  cases name with
  | tableConf => contradiction
  | _ => exact found

/-- No setter reaches the magic. -/
theorem CustName.setField_ne_cust {name : CustName} {field : KipField}
    (found : name.setField = some field) : field ≠ .cust := by
  rintro rfl
  have none := custName_getField (getField_of_setField found)
  contradiction

/-- A getter of another name does not read the field that a setter writes. -/
theorem CustGetter.get_update {getter : CustGetter} {name : CustName} {field : KipField}
    (written : name.setField = some field) (table : KipTable) (value : BitVec 32) :
    getter.get (some (Function.update table field value)) =
      if getter.name = name then value else getter.get (some table) := by
  by_cases same : getter.name = name
  · rw [if_pos same]
    unfold CustGetter.get
    rw [same, CustName.getField_of_setField written]
    exact Function.update_self field value table
  · rw [if_neg same]
    unfold CustGetter.get
    cases found : getter.name.getField with
    | none => rfl
    | some read =>
        have apart : read ≠ field := by
          rintro rfl
          have names := (CustName.custName_getField found).symm.trans
            (CustName.custName_getField (CustName.getField_of_setField written))
          exact same (Option.some.inj names)
        exact Function.update_of_ne apart value table

section

variable {file after : KipFile} {offset : Nat} {table : KipTable} {field : KipField}
  {value : BitVec 32}

theorem Located.read (located : Located file.bytes offset) :
    custReadTable file.bytes = some (tableAt file.bytes offset) :=
  custReadTable_eq_some_iff.mpr ⟨offset, located, rfl⟩

theorem custWriteTable_bytes (located : Located file.bytes offset)
    (written : custWriteTable file table = some after) :
    after.bytes = overwrite file.bytes offset (pack KipField.all table) := by
  rw [custWriteTable_located located] at written
  split at written
  · rw [← Option.some.inj written]
  · contradiction

theorem Located.cust_eq (located : Located file.bytes offset)
    (magic : wordBytes (table .cust) = custMagic) :
    table .cust = tableAt file.bytes offset .cust := by
  have same := congrArg bytesWord (magic.trans located.cust.symm)
  have first := bytesWord_wordBytes (table .cust) []
  have second := bytesWord_wordBytes (tableAt file.bytes offset .cust) []
  rw [List.append_nil] at first second
  rw [← first, same, second]

/-- What was written is read back, and nothing else has changed. -/
theorem custWriteTable_local (located : Located file.bytes offset)
    (magic : table .cust = tableAt file.bytes offset .cust)
    (written : custWriteTable file table = some after) :
    custReadTable after.bytes = some table ∧ after.bytes.length = file.bytes.length ∧
      ∀ index, index < offset ∨ offset + kipTableSize ≤ index →
        after.bytes[index]? = file.bytes[index]? := by
  obtain ⟨there, back⟩ := located.overwrite table magic
  have within : offset + (pack KipField.all table).length ≤ file.bytes.length := by
    rw [pack_table_length]
    exact located.within
  rw [custWriteTable_bytes located written]
  refine ⟨?_, overwrite_length within, ?_⟩
  · exact custReadTable_eq_some_iff.mpr ⟨offset, there, back.symm⟩
  · intro index outside
    rw [overwrite_getElem? within, if_neg (by rw [pack_table_length]; omega)]

theorem custWriteField_reads (located : Located file.bytes offset) (notMagic : field ≠ .cust)
    (succeeded : custWriteField file field value = (true, after)) :
    custReadTable after.bytes =
      some (Function.update (tableAt file.bytes offset) field value) := by
  rw [custWriteField, located.read] at succeeded
  dsimp only at succeeded
  split at succeeded
  · cases succeeded
  · rename_i result written
    rw [Prod.mk.injEq] at succeeded
    rw [succeeded.2] at written
    exact (custWriteTable_local located (Function.update_of_ne notMagic.symm _ _) written).1

theorem CustSetter.set_succeeds {setter : CustSetter}
    (succeeded : setter.set file value = (true, after)) :
    ∃ field, setter.name.setField = some field ∧
      custWriteField file field value = (true, after) := by
  unfold CustSetter.set at succeeded
  split at succeeded
  · cases succeeded
  · rename_i field written
    exact ⟨field, written, succeeded⟩

theorem custGetFieldAt_update (table : KipTable) (field : KipField) (value : BitVec 32)
    {position : Nat}
    (outside : position + 4 ≤ 4 * KipField.all.idxOf field ∨
      4 * KipField.all.idxOf field + 4 ≤ position) :
    custGetFieldAt (some (Function.update table field value)) position =
      custGetFieldAt (some table) position := by
  have inside : 4 * KipField.all.idxOf field + (wordBytes value).length ≤
      (pack KipField.all table).length := by
    have index := List.idxOf_lt_length_of_mem field.mem_all
    rw [pack_length, wordBytes_length]
    omega
  unfold custGetFieldAt
  dsimp only
  rw [pack_update KipField.all_nodup field.mem_all, slice_overwrite_outside inside outside]

end

/-- A table that is written is read back, and a field that is set is read by the getter of its name
and by no other; the rest of the file stays as it is. -/
theorem cust_access_local {file : KipFile} {offset : Nat} (located : Located file.bytes offset) :
    (∀ table after, wordBytes (table .cust) = custMagic → custWriteTable file table = some after →
      custReadTable after.bytes = some table ∧ after.bytes.length = file.bytes.length ∧
        ∀ index, index < offset ∨ offset + kipTableSize ≤ index →
          after.bytes[index]? = file.bytes[index]?) ∧
    (∀ (setter : CustSetter) value after, setter.set file value = (true, after) →
      (∀ getter : CustGetter, getter.get (custReadTable after.bytes) =
        if getter.name = setter.name then value else getter.get (custReadTable file.bytes)) ∧
      ∀ field position, setter.name.setField = some field →
        position + 4 ≤ 4 * KipField.all.idxOf field ∨
          4 * KipField.all.idxOf field + 4 ≤ position →
        custGetFieldAt (custReadTable after.bytes) position =
          custGetFieldAt (custReadTable file.bytes) position) ∧
    (∀ index value, ¬(0 ≤ index ∧ index < 27) →
      (CustSetter.named (.eristaGpuVolt index)).set file value = (false, file)) ∧
    ∀ index value, ¬(0 ≤ index ∧ index < 24) →
      (CustSetter.named (.marikoGpuVolt index)).set file value = (false, file) := by
  refine ⟨?_, ?_, ?_, ?_⟩
  · intro table after magic written
    exact custWriteTable_local located (located.cust_eq magic) written
  · intro setter value after succeeded
    obtain ⟨field, name, written⟩ := CustSetter.set_succeeds succeeded
    have read := custWriteField_reads located (CustName.setField_ne_cust name) written
    rw [read, located.read]
    refine ⟨fun getter => CustGetter.get_update name _ value, ?_⟩
    intro other position same outside
    obtain rfl : field = other := Option.some.inj (name.symm.trans same)
    exact custGetFieldAt_update _ field value outside
  · intro index value outside
    have missing : eristaGpuVoltField index = none := dif_neg outside
    simp only [CustSetter.set, CustSetter.name, CustName.setField, missing]
  · intro index value outside
    have missing : marikoGpuVoltField index = none := dif_neg outside
    simp only [CustSetter.set, CustSetter.name, CustName.setField, missing]

/-- One voltage of a table that holds nothing else. -/
theorem cust_access_local_blank :
    let kip := blankKip 1
    let after := (CustSetter.set (.eristaGpuVoltAt 921600) kip 800000).2
    (CustGetter.named (.eristaGpuVolt 22)).get (custReadTable after.bytes) = 800000 ∧
      (CustGetter.eristaGpuVoltVal 960000).get (custReadTable after.bytes) =
        (CustGetter.eristaGpuVoltVal 960000).get (custReadTable kip.bytes) := by
  intro kip after
  obtain ⟨located, -⟩ := blankKip_located 1
  have succeeded : CustSetter.set (.eristaGpuVoltAt 921600) kip 800000 = (true, after) := by
    have index : helperIndex eristaGpuVoltHelpers 921600 = 22 := by decide
    have written : CustSetter.set (.eristaGpuVoltAt 921600) kip 800000 =
        custWriteField kip (.eristaGpuVoltArray 22) 800000 := by
      simp only [CustSetter.set, CustSetter.name, index]
      rfl
    apply Prod.ext
    · rw [written, custWriteField, located.read]
      dsimp only
      rw [custWriteTable_located located]
      rfl
    · rfl
  have reads := ((cust_access_local located).2.1 _ _ _ succeeded).1
  exact ⟨(reads _).trans (if_pos (by decide)), (reads _).trans (if_neg (by decide))⟩

end HorizonOc.Sysmodule
