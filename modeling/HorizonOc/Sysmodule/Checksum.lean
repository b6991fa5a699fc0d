import HorizonOc.Data.CrcRemainder
import HorizonOc.Sysmodule.KipRoundTrip

namespace HorizonOc.Sysmodule

open HorizonOc.Data Polynomial

/-- The loop of `checksum_file` over the buffers that `fread` fills. -/
def checksumLoop (crc : BitVec 32) : List (List Byte) → BitVec 32
  | [] => crc
  | buffer :: reads =>
      if buffer.length > 0 then checksumLoop (buffer.foldl crcByte crc) reads else crc

def checksumReads (reads : List (List Byte)) : BitVec 32 := ~~~checksumLoop 0xFFFFFFFF#32 reads

/-- The generator that the standard gives with its highest bit first. -/
noncomputable def crcGenerator : (ZMod 2)[X] :=
  X ^ 32 + bitPolynomial (lsbFirst 0x04C11DB7#32).reverse

/-- The reflected CRC-32: the message behind ones, divided by the generator. -/
noncomputable def standardCrc32 (bytes : List Byte) : BitVec 32 :=
  ~~~reflectedWord 32
    ((X ^ (8 * bytes.length) * bitPolynomial (List.replicate 32 true) +
      X ^ 32 * bitPolynomial (messageBits bytes)) %ₘ crcGenerator)

/-- The constant of the code is the reflected one. -/
theorem crcGenerator_eq : crcGenerator = generator 0xEDB88320#32 := by
  have reflected : (lsbFirst 0x04C11DB7#32).reverse = lsbFirst 0xEDB88320#32 := by decide
  rw [crcGenerator, reflected, generator]

theorem crcByte_eq : crcByte = crcAbsorb 0xEDB88320#32 := rfl

theorem crc32_standard (bytes : List Byte) : crc32 bytes = standardCrc32 bytes := by
  have ones : lsbFirst 0xFFFFFFFF#32 = List.replicate 32 true := by decide
  rw [crc32, standardCrc32, crcGenerator_eq, crcByte_eq, ← ones,
    ← register_remainder 0xEDB88320#32 0xFFFFFFFF#32 (by decide) bytes, reflectedWord_bitPolynomial]

theorem checksumLoop_flatten (crc : BitVec 32) {reads : List (List Byte)}
    (filled : ∀ buffer ∈ reads, 0 < buffer.length) :
    checksumLoop crc reads = reads.flatten.foldl crcByte crc := by
  induction reads generalizing crc with
  | nil => rfl
  | cons buffer rest ih =>
      rw [checksumLoop, if_pos (filled buffer List.mem_cons_self), List.flatten_cons,
        List.foldl_append, ih]
      intro later member
      exact filled later (List.mem_cons_of_mem buffer member)

/-- However the file is read, its checksum is the CRC-32 of the whole of it. -/
theorem checksum_standard {file : KipFile} {reads : List (List Byte)}
    (filled : ∀ buffer ∈ reads, 0 < buffer.length ∧ buffer.length ≤ 1024)
    (whole : reads.flatten = file.bytes) :
    checksumReads reads = crc32 file.bytes ∧ checksumReads reads = standardCrc32 file.bytes ∧
      checksumFile (some file) = (checksumReads reads).toNat := by
  have oneShot : checksumReads reads = crc32 file.bytes := by
    rw [checksumReads, crc32, ← whole]
    rw [checksumLoop_flatten _ fun buffer member => (filled buffer member).1]
  refine ⟨oneShot, ?_, ?_⟩
  · rw [oneShot, crc32_standard]
  · rw [oneShot, checksumFile]

theorem checksum_standard_digits :
    let digits : KipFile :=
      { bytes := [0x31, 0x32, 0x33, 0x34, 0x35, 0x36, 0x37, 0x38, 0x39], writable := false }
    standardCrc32 digits.bytes = 0xCBF43926#32 := by
  intro digits
  have filled : ∀ buffer ∈ [digits.bytes.take 4, digits.bytes.drop 4],
      0 < buffer.length ∧ buffer.length ≤ 1024 := by decide
  have whole : [digits.bytes.take 4, digits.bytes.drop 4].flatten = digits.bytes := rfl
  have answer := (checksum_standard filled whole).2.1
  rw [← answer]
  decide +kernel

section

variable {file edited : KipFile} {offset : Nat}

theorem checksumFile_ne_of_window {start : Nat} (same : file.bytes.length = edited.bytes.length)
    (differ : file.bytes ≠ edited.bytes)
    (window : ∀ index, index < start ∨ start + 32 ≤ index →
      (messageBits file.bytes)[index]? = (messageBits edited.bytes)[index]?) :
    checksumFile (some file) ≠ checksumFile (some edited) := by
  intro equal
  have registers := register_ne_of_window 0xEDB88320#32 0xFFFFFFFF#32 (by decide)
    (by decide) (by decide) same differ window
  have sums : crc32 file.bytes = crc32 edited.bytes := BitVec.eq_of_toNat_eq equal
  rw [crc32, crc32, crcByte_eq, BitVec.not_inj] at sums
  exact registers sums

/-- Writing to a file changes no bit beside what is written. -/
theorem messageBits_overwrite {bytes : List Byte} {index : Nat}
    (within : offset + bytes.length ≤ file.bytes.length)
    (outside : index < 8 * offset ∨ 8 * offset + 8 * bytes.length ≤ index) :
    (messageBits file.bytes)[index]? = (messageBits (overwrite file.bytes offset bytes))[index]? := by
  have split : file.bytes = file.bytes.take offset ++ slice file.bytes offset bytes.length ++
      file.bytes.drop (offset + bytes.length) := by
    rw [slice, List.append_assoc, ← List.drop_drop, List.take_append_drop, List.take_append_drop]
  have before : (file.bytes.take offset).length = offset := by
    rw [List.length_take]
    omega
  have same := slice_length within
  rw [overwrite]
  conv_lhs => rw [split]
  apply messageBits_window same
  rw [before, same]
  exact outside

theorem overwrite_field_ne {field : KipField} {word : BitVec 32}
    (within : offset + kipTableSize ≤ file.bytes.length)
    (changed : word ≠ tableAt file.bytes offset field) :
    file.bytes ≠
      overwrite file.bytes (offset + 4 * KipField.all.idxOf field) (wordBytes word) := by
  intro same
  have inside : offset + (pack KipField.all
      (Function.update (tableAt file.bytes offset) field word)).length ≤ file.bytes.length := by
    rw [pack_table_length]
    exact within
  have tables : pack KipField.all (tableAt file.bytes offset) =
      pack KipField.all (Function.update (tableAt file.bytes offset) field word) := by
    rw [pack_tableAt within]
    conv_lhs => rw [same, overwrite_field within]
    rw [← pack_table_length (Function.update (tableAt file.bytes offset) field word)]
    exact slice_overwrite inside
  have before := unpack_pack (tableAt file.bytes offset) field.mem_all []
  rw [tables, unpack_pack _ field.mem_all, Function.update_self] at before
  exact changed before

end

/-- An edit within 32 consecutive bits changes the checksum, so the comparison of `GetKipData` sees
every edit of a single field. -/
theorem kip_edit_detected :
    (∀ (file edited : KipFile) start, file.bytes.length = edited.bytes.length →
      file.bytes ≠ edited.bytes →
      (∀ index, index < start ∨ start + 32 ≤ index →
        (messageBits file.bytes)[index]? = (messageBits edited.bytes)[index]?) →
      checksumFile (some file) ≠ checksumFile (some edited)) ∧
    ∀ (file : KipFile) offset field word (values : ConfigValue → Nat),
      offset + kipTableSize ≤ file.bytes.length → word ≠ tableAt file.bytes offset field →
      values .kipCrc32 = checksumFile (some file) →
      let edited := { file with
        bytes := overwrite file.bytes (offset + 4 * KipField.all.idxOf field) (wordBytes word) }
      checksumFile (some edited) ≠ values .kipCrc32 ∧
        KipState.kipUpdated values edited = decide (values .isFirstLoad = 0) := by
  refine ⟨fun file edited start => checksumFile_ne_of_window, ?_⟩
  intro file offset field word values within changed stored edited
  have position := List.idxOf_lt_length_of_mem field.mem_all
  have size := KipField.all_length
  have inside : offset + 4 * KipField.all.idxOf field + (wordBytes word).length ≤
      file.bytes.length := by
    rw [wordBytes_length]
    omega
  have differ : checksumFile (some file) ≠ checksumFile (some edited) := by
    apply checksumFile_ne_of_window (overwrite_length inside).symm
      (overwrite_field_ne within changed)
    intro index outside
    exact messageBits_overwrite inside outside
  have comparison : checksumFile (some edited) ≠ values .kipCrc32 := by
    rw [stored]
    exact differ.symm
  refine ⟨comparison, ?_⟩
  simp [KipState.kipUpdated, comparison]

/-- The boost clock of a table that holds nothing else. -/
theorem kip_edit_detected_blank :
    let kip := blankKip 1
    let edited := { kip with
      bytes := overwrite kip.bytes (0 + 4 * KipField.all.idxOf .marikoCpuBoostClock)
        (wordBytes 1963000) }
    let values := Function.update (fun _ => 0) ConfigValue.kipCrc32 (checksumFile (some kip))
    KipState.kipUpdated values edited = true := by
  intro kip edited values
  obtain ⟨located, table⟩ := blankKip_located 1
  have changed : (1963000 : BitVec 32) ≠ tableAt kip.bytes 0 .marikoCpuBoostClock := by
    rw [table]
    decide
  exact (kip_edit_detected.2 kip 0 _ _ values located.within changed rfl).2

end HorizonOc.Sysmodule
