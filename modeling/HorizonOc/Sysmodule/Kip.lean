import Mathlib.Data.List.FinRange
import Mathlib.Data.List.Nodup
import HorizonOc.Data.Packing
import HorizonOc.Sysmodule.ConfigStore

namespace HorizonOc.Sysmodule

open HorizonOc.Data

/-! `kip.hpp`, `kip.cpp` and `crc32.cpp`: the table in `hoc.kip`, and how it is carried to
the configuration and back. -/

/-- The words of `CustomizeTable`, the four bytes of `cust` as one. -/
inductive KipField where
  | cust | custRev | placeholder | hpMode | commonEmcMemVolt | eristaEmcMaxClock
  | eristaEmcMaxClock1 | eristaEmcMaxClock2 | marikoEmcMaxClock | marikoEmcVddqVolt
  | emcDvbShift | t1_tRCD | t2_tRP | t3_tRAS | t4_tRRD | t5_tRFC | t6_tRTW | t7_tWTR
  | t8_tREFI | mem_burst_read_latency | mem_burst_write_latency | eristaCpuUV
  | eristaCpuVmin | eristaCpuMaxVolt | eristaCpuUnlock | marikoCpuUVLow | marikoCpuUVHigh
  | tableConf | marikoCpuLowVmin | marikoCpuHighVmin | marikoCpuMaxVolt | marikoCpuMaxClock
  | eristaCpuBoostClock | marikoCpuBoostClock | eristaGpuUV | eristaGpuVmin | marikoGpuUV
  | marikoGpuVmin | marikoGpuVmax | commonGpuVoltOffset | gpuSpeedo
  | eristaGpuVoltArray (index : Fin 27)
  | marikoGpuVoltArray (index : Fin 24)
  | t6_tRTW_fine_tune | t7_tWTR_fine_tune
  | reserved (index : Fin 60)
deriving DecidableEq, Repr

/-- The words in front of the arrays of voltages. -/
def KipField.scalars : List KipField :=
  [.cust, .custRev, .placeholder, .hpMode, .commonEmcMemVolt, .eristaEmcMaxClock,
   .eristaEmcMaxClock1, .eristaEmcMaxClock2, .marikoEmcMaxClock, .marikoEmcVddqVolt,
   .emcDvbShift, .t1_tRCD, .t2_tRP, .t3_tRAS, .t4_tRRD, .t5_tRFC, .t6_tRTW, .t7_tWTR,
   .t8_tREFI, .mem_burst_read_latency, .mem_burst_write_latency, .eristaCpuUV,
   .eristaCpuVmin, .eristaCpuMaxVolt, .eristaCpuUnlock, .marikoCpuUVLow, .marikoCpuUVHigh,
   .tableConf, .marikoCpuLowVmin, .marikoCpuHighVmin, .marikoCpuMaxVolt, .marikoCpuMaxClock,
   .eristaCpuBoostClock, .marikoCpuBoostClock, .eristaGpuUV, .eristaGpuVmin, .marikoGpuUV,
   .marikoGpuVmin, .marikoGpuVmax, .commonGpuVoltOffset, .gpuSpeedo]

/-- The words in the order in which they lie in the structure. -/
def KipField.all : List KipField :=
  KipField.scalars ++ (List.finRange 27).map KipField.eristaGpuVoltArray ++
    (List.finRange 24).map KipField.marikoGpuVoltArray ++
    [KipField.t6_tRTW_fine_tune, KipField.t7_tWTR_fine_tune] ++
    (List.finRange 60).map KipField.reserved

abbrev KipTable := KipField → BitVec 32

/-- `sizeof(CustomizeTable)`. -/
def kipTableSize : Nat := 616

def custMagic : List Byte := [0x43, 0x55, 0x53, 0x54]

theorem KipField.all_length : 4 * KipField.all.length = kipTableSize := by
  simp [KipField.all, KipField.scalars, kipTableSize]

theorem KipField.scalars_nodup : KipField.scalars.Nodup := by decide +kernel

theorem KipField.scalars_plain : ∀ field ∈ KipField.scalars,
    field ∉ (List.finRange 27).map KipField.eristaGpuVoltArray ∧
      field ∉ (List.finRange 24).map KipField.marikoGpuVoltArray ∧
      field ∉ [KipField.t6_tRTW_fine_tune, KipField.t7_tWTR_fine_tune] ∧
      field ∉ (List.finRange 60).map KipField.reserved := by
  decide +kernel

theorem KipField.all_nodup : KipField.all.Nodup := by
  have erista : ((List.finRange 27).map KipField.eristaGpuVoltArray).Nodup :=
    (List.nodup_finRange 27).map fun _ _ same => KipField.eristaGpuVoltArray.inj same
  have mariko : ((List.finRange 24).map KipField.marikoGpuVoltArray).Nodup :=
    (List.nodup_finRange 24).map fun _ _ same => KipField.marikoGpuVoltArray.inj same
  have reserved : ((List.finRange 60).map KipField.reserved).Nodup :=
    (List.nodup_finRange 60).map fun _ _ same => KipField.reserved.inj same
  have tail : ((List.finRange 27).map KipField.eristaGpuVoltArray ++
      ((List.finRange 24).map KipField.marikoGpuVoltArray ++
        ([KipField.t6_tRTW_fine_tune, KipField.t7_tWTR_fine_tune] ++
          (List.finRange 60).map KipField.reserved))).Nodup := by
    simp only [List.nodup_append, erista, mariko, reserved]
    aesop
  simp only [KipField.all, List.append_assoc]
  refine KipField.scalars_nodup.append tail ?_
  intro field scalar later
  obtain ⟨notErista, notMariko, notTune, notReserved⟩ := KipField.scalars_plain field scalar
  simp only [List.mem_append] at later
  rcases later with member | member | member | member
  · exact notErista member
  · exact notMariko member
  · exact notTune member
  · exact notReserved member

theorem KipField.mem_all (field : KipField) : field ∈ KipField.all := by
  have scalar : field ∈ KipField.scalars → field ∈ KipField.all := by
    simp +contextual [KipField.all]
  cases field with
  | eristaGpuVoltArray _ | marikoGpuVoltArray _ | reserved _ => simp [KipField.all]
  | t6_tRTW_fine_tune | t7_tWTR_fine_tune => simp [KipField.all]
  | _ => exact scalar (by decide)

def magicAt (bytes : List Byte) (index : Nat) : Bool := slice bytes index 4 = custMagic

def findMagic (buf : List Byte) : Option Nat :=
  (List.range (buf.length - 4 + 1)).find? (magicAt buf)

/-- Each buffer overlaps the one before by three bytes. -/
def custFindOffsetFrom (file : List Byte) (pos : Nat) : Option Nat :=
  let buf := slice file pos 512
  if buf.length < 4 then none
  else
    match findMagic buf with
    | some index => some (pos + index)
    | none => custFindOffsetFrom file (pos + (buf.length - 3))
termination_by file.length - pos
decreasing_by
  rename_i enough
  simp +zetaDelta only [slice, List.length_take, List.length_drop] at enough ⊢
  omega

def custFindOffset (file : List Byte) : Option Nat := custFindOffsetFrom file 0

/-- The KIP on the card. -/
structure KipFile where
  bytes : List Byte
  writable : Bool
deriving DecidableEq, Repr

def custReadTable (file : List Byte) : Option KipTable :=
  match custFindOffset file with
  | none => none
  | some offset =>
      if file.length < offset + kipTableSize then none
      else
        let table := unpack KipField.all (slice file offset kipTableSize)
        if wordBytes (table .cust) = custMagic then some table else none

/-- The file with the table written; none where `cust_write_table` fails. -/
def custWriteTable (file : KipFile) (table : KipTable) : Option KipFile :=
  if !file.writable then none
  else
    match custFindOffset file.bytes with
    | none => none
    | some offset =>
        if file.bytes.length < offset + kipTableSize then none
        else some { file with bytes := overwrite file.bytes offset (pack KipField.all table) }

def crcBit (crc : BitVec 32) : BitVec 32 := (crc >>> 1) ^^^ (0xEDB88320#32 &&& -(crc &&& 1#32))

def crcByte (crc : BitVec 32) (byte : Byte) : BitVec 32 :=
  Nat.repeat crcBit 8 (crc ^^^ byte.setWidth 32)

def crc32 (bytes : List Byte) : BitVec 32 := ~~~(bytes.foldl crcByte 0xFFFFFFFF#32)

/-- `checksum_file`, which is 0 for a file that cannot be opened. -/
def checksumFile : Option KipFile → Nat
  | none => 0
  | some file => (crc32 file.bytes).toNat

/-- `(HocClkConfigValue)(kval + offset)`. -/
def ConfigValue.plus (kval : ConfigValue) (offset : Nat) : ConfigValue :=
  ConfigValue.all.getD (ConfigValue.all.idxOf kval + offset) kval

/-- The fields that `SetKipData` writes first, with the values that they are written from. -/
def setKipScalars : List (KipField × ConfigValue) :=
  [(.custRev, .custRev), (.hpMode, .hpMode), (.commonEmcMemVolt, .commonEmcMemVolt),
   (.eristaEmcMaxClock, .eristaEmcMaxClock), (.eristaEmcMaxClock1, .eristaEmcMaxClock1),
   (.eristaEmcMaxClock2, .eristaEmcMaxClock2), (.marikoEmcMaxClock, .marikoEmcMaxClock),
   (.marikoEmcVddqVolt, .marikoEmcVddqVolt), (.emcDvbShift, .emcDvbShift),
   (.t1_tRCD, .t1_tRCD), (.t2_tRP, .t2_tRP), (.t3_tRAS, .t3_tRAS), (.t4_tRRD, .t4_tRRD),
   (.t5_tRFC, .t5_tRFC), (.t6_tRTW, .t6_tRTW), (.t7_tWTR, .t7_tWTR), (.t8_tREFI, .t8_tREFI),
   (.mem_burst_read_latency, .mem_burst_read_latency),
   (.mem_burst_write_latency, .mem_burst_write_latency), (.eristaCpuUV, .eristaCpuUV),
   (.eristaCpuVmin, .eristaCpuVmin), (.eristaCpuMaxVolt, .eristaCpuMaxVolt),
   (.eristaCpuUnlock, .eristaCpuUnlock), (.marikoCpuUVLow, .marikoCpuUVLow),
   (.marikoCpuUVHigh, .marikoCpuUVHigh), (.tableConf, .tableConf),
   (.marikoCpuLowVmin, .marikoCpuLowVmin), (.marikoCpuHighVmin, .marikoCpuHighVmin),
   (.marikoCpuMaxVolt, .marikoCpuMaxVolt), (.marikoCpuMaxClock, .marikoCpuMaxClock),
   (.eristaCpuBoostClock, .eristaCpuBoostClock), (.marikoCpuBoostClock, .marikoCpuBoostClock),
   (.eristaGpuUV, .eristaGpuUV), (.eristaGpuVmin, .eristaGpuVmin), (.marikoGpuUV, .marikoGpuUV),
   (.marikoGpuVmin, .marikoGpuVmin), (.marikoGpuVmax, .marikoGpuVmax),
   (.commonGpuVoltOffset, .commonGpuVoltOffset), (.gpuSpeedo, .gpuSpeedo)]

def setKipArrays : List (KipField × ConfigValue) :=
  (List.finRange 24).map (fun index : Fin 24 =>
      (KipField.marikoGpuVoltArray index, ConfigValue.plus .g_volt_76800 index)) ++
    (List.finRange 27).map fun index : Fin 27 =>
      (KipField.eristaGpuVoltArray index, ConfigValue.plus .g_volt_e_76800 index)

def setKipBatch : List (KipField × ConfigValue) :=
  setKipScalars ++ setKipArrays ++
    [(KipField.t6_tRTW_fine_tune, ConfigValue.t6_tRTW_fine_tune),
     (KipField.t7_tWTR_fine_tune, ConfigValue.t7_tWTR_fine_tune)]

/-- What `GetKipData` assigns before the fuse's speedo, with the fields that it reads. -/
def getKipScalars : List (ConfigValue × KipField) :=
  [(.hpMode, .hpMode), (.commonEmcMemVolt, .commonEmcMemVolt),
   (.eristaEmcMaxClock, .eristaEmcMaxClock), (.eristaEmcMaxClock1, .eristaEmcMaxClock1),
   (.eristaEmcMaxClock2, .eristaEmcMaxClock2), (.marikoEmcMaxClock, .marikoEmcMaxClock),
   (.marikoEmcVddqVolt, .marikoEmcVddqVolt), (.emcDvbShift, .emcDvbShift),
   (.t1_tRCD, .t1_tRCD), (.t2_tRP, .t2_tRP), (.t3_tRAS, .t3_tRAS), (.t4_tRRD, .t4_tRRD),
   (.t5_tRFC, .t5_tRFC), (.t6_tRTW, .t6_tRTW), (.t7_tWTR, .t7_tWTR), (.t8_tREFI, .t8_tREFI),
   (.mem_burst_read_latency, .mem_burst_read_latency),
   (.mem_burst_write_latency, .mem_burst_write_latency), (.eristaCpuUV, .eristaCpuUV),
   (.eristaCpuVmin, .eristaCpuVmin), (.eristaCpuMaxVolt, .eristaCpuMaxVolt),
   (.eristaCpuUnlock, .eristaCpuUnlock), (.marikoCpuUVLow, .marikoCpuUVLow),
   (.marikoCpuUVHigh, .marikoCpuUVHigh), (.tableConf, .tableConf),
   (.marikoCpuLowVmin, .marikoCpuLowVmin), (.marikoCpuHighVmin, .marikoCpuHighVmin),
   (.marikoCpuMaxVolt, .marikoCpuMaxVolt), (.marikoCpuMaxClock, .marikoCpuMaxClock),
   (.eristaCpuBoostClock, .eristaCpuBoostClock), (.marikoCpuBoostClock, .marikoCpuBoostClock),
   (.eristaGpuUV, .eristaGpuUV), (.eristaGpuVmin, .eristaGpuVmin), (.marikoGpuUV, .marikoGpuUV),
   (.marikoGpuVmin, .marikoGpuVmin), (.marikoGpuVmax, .marikoGpuVmax),
   (.commonGpuVoltOffset, .commonGpuVoltOffset)]

/-- What it assigns behind the speedo. -/
def getKipArrays : List (ConfigValue × KipField) :=
  (List.finRange 24).map (fun index : Fin 24 =>
      (ConfigValue.plus .g_volt_76800 index, KipField.marikoGpuVoltArray index)) ++
    (List.finRange 27).map (fun index : Fin 27 =>
      (ConfigValue.plus .g_volt_e_76800 index, KipField.eristaGpuVoltArray index)) ++
    [(ConfigValue.t7_tWTR_fine_tune, KipField.t7_tWTR_fine_tune),
     (ConfigValue.t6_tRTW_fine_tune, KipField.t6_tRTW_fine_tune)]

/-- The table with the values written to its fields, each narrowed to a word. -/
def setKipFields (table : KipTable) (values : ConfigValue → Nat) : KipTable :=
  assign table (setKipBatch.map fun pair => (pair.1, .ofNat 32 (values pair.2)))

/-- The values that `GetKipData` assigns, the speedo from the fuses. -/
def getKipBatch (table : KipTable) (gpuSpeedo : Nat) : List (ConfigValue × Nat) :=
  getKipScalars.map (fun pair => (pair.1, (table pair.2).toNat)) ++
    [(ConfigValue.gpuSpeedo, gpuSpeedo)] ++
    getKipArrays.map fun pair => (pair.1, (table pair.2).toNat)

def getKipFields (values : ConfigValue → Nat) (table : KipTable) (gpuSpeedo : Nat) :
    ConfigValue → Nat :=
  assign values (getKipBatch table gpuSpeedo)

/-- The system that `SetKipData` and `GetKipData` work on. -/
structure KipState where
  config : Config
  card : Card
  kip : Option KipFile

namespace KipState

/-- `config::Refresh`. -/
def refresh (state : KipState) : Bool × KipState :=
  let after := state.config.refresh state.card.configFile
  (after.1, { state with config := after.2 })

/-- `config::SetConfigValues`. -/
def setConfigValues (state : KipState) (now : Stamp) (values : ConfigValue → Nat)
    (immediate : Bool) : Bool × KipState :=
  let after := state.config.setConfigValues state.card now values immediate
  (after.1, { state with config := after.2.1, card := after.2.2 })

/-- That the table could not be written is only logged, and so is a failed `SetConfigValues`. -/
def setKipData (state : KipState) (now : Stamp) : KipState :=
  match state.kip with
  | none => state
  | some file =>
      match custReadTable file.bytes with
      | none => state
      | some table =>
          let kip := (custWriteTable file (setKipFields table state.config.values)).getD file
          let configValues :=
            Function.update state.config.values .kipCrc32 (checksumFile (some kip))
          ({ state with kip := some kip }.setConfigValues now configValues false).2

/-- The values that `GetKipData` writes once it loads from the table. -/
def loadedKipValues (values : ConfigValue → Nat) (file : KipFile) (table : KipTable)
    (gpuSpeedo : Nat) : ConfigValue → Nat :=
  let installed := if values .isFirstLoad = 1 then Function.update values .isFirstLoad 0 else values
  getKipFields (Function.update installed .kipCrc32 (checksumFile (some file))) table gpuSpeedo

/-- Whether `GetKipData` takes the branch of a KIP that was updated. -/
def kipUpdated (values : ConfigValue → Nat) (file : KipFile) : Bool :=
  checksumFile (some file) ≠ values .kipCrc32 && values .isFirstLoad = 0

def getKipData (state : KipState) (now : Stamp) (gpuSpeedo : Nat) : KipState :=
  let (changed, refreshed) := state.refresh
  if !changed then refreshed
  else
    match refreshed.kip with
    | none => refreshed
    | some file =>
        match custReadTable file.bytes with
        | none => refreshed
        | some table =>
            if kipUpdated refreshed.config.values file then refreshed.setKipData now
            else
              (refreshed.setConfigValues now
                (loadedKipValues refreshed.config.values file table gpuSpeedo) false).2

end KipState

end HorizonOc.Sysmodule
