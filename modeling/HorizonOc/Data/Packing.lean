import Mathlib.Algebra.Group.Nat.Defs
import Mathlib.Data.List.Nodup
import Mathlib.Logic.Function.Basic
import Mathlib.Tactic.SplitIfs

namespace HorizonOc.Data

abbrev Byte := BitVec 8

def wordBytes (word : BitVec 32) : List Byte :=
  [.ofNat 8 word.toNat, .ofNat 8 (word.toNat / 2 ^ 8), .ofNat 8 (word.toNat / 2 ^ 16),
   .ofNat 8 (word.toNat / 2 ^ 24)]

/-- The word in the first four bytes; bytes that are missing count as zero. -/
def bytesWord (bytes : List Byte) : BitVec 32 :=
  .ofNat 32 ((bytes.getD 0 0).toNat + 2 ^ 8 * (bytes.getD 1 0).toNat +
    2 ^ 16 * (bytes.getD 2 0).toNat + 2 ^ 24 * (bytes.getD 3 0).toNat)

@[simp] theorem wordBytes_length (word : BitVec 32) : (wordBytes word).length = 4 := rfl

theorem bytesWord_wordBytes (word : BitVec 32) (rest : List Byte) :
    bytesWord (wordBytes word ++ rest) = word := by
  have bound := word.isLt
  apply BitVec.eq_of_toNat_eq
  simp only [bytesWord, wordBytes, List.cons_append, List.getD_cons_zero, List.getD_cons_succ,
    BitVec.toNat_ofNat]
  omega

theorem wordBytes_bytesWord {bytes : List Byte} (whole : bytes.length = 4) :
    wordBytes (bytesWord bytes) = bytes := by
  match bytes, whole with
  | [first, second, third, fourth], _ =>
      have bounds := (⟨first.isLt, second.isLt, third.isLt, fourth.isLt⟩ : _ ∧ _ ∧ _ ∧ _)
      simp only [wordBytes, bytesWord, List.getD_cons_zero, List.getD_cons_succ,
        BitVec.toNat_ofNat, List.cons.injEq, and_true]
      refine ⟨?_, ?_, ?_, ?_⟩ <;>
        (apply BitVec.eq_of_toNat_eq; rw [BitVec.toNat_ofNat]; omega)

section

variable {Field : Type}

def pack (layout : List Field) (record : Field → BitVec 32) : List Byte :=
  layout.flatMap fun field => wordBytes (record field)

variable {layout : List Field} {record other : Field → BitVec 32}

@[simp] theorem pack_length (layout : List Field) (record : Field → BitVec 32) :
    (pack layout record).length = 4 * layout.length := by
  unfold pack
  induction layout with
  | nil => rfl
  | cons field rest ih =>
      simp only [List.flatMap_cons, List.length_append, wordBytes_length, ih, List.length_cons]
      omega

theorem pack_cons (field : Field) (rest : List Field) (record : Field → BitVec 32) :
    pack (field :: rest) record = wordBytes (record field) ++ pack rest record := List.flatMap_cons

theorem pack_congr (same : ∀ field ∈ layout, record field = other field) :
    pack layout record = pack layout other := by
  unfold pack
  induction layout with
  | nil => rfl
  | cons field rest ih =>
      rw [List.flatMap_cons, List.flatMap_cons, same field List.mem_cons_self,
        ih fun later member => same later (List.mem_cons_of_mem field member)]

variable [DecidableEq Field]

def unpack (layout : List Field) (bytes : List Byte) (field : Field) : BitVec 32 :=
  bytesWord (bytes.drop (4 * layout.idxOf field))

theorem unpack_pack (record : Field → BitVec 32) {field : Field} (member : field ∈ layout)
    (rest : List Byte) :
    unpack layout (pack layout record ++ rest) field = record field := by
  unfold unpack pack
  induction layout with
  | nil => contradiction
  | cons first layout ih =>
      by_cases same : first = field
      · subst same
        simp [bytesWord_wordBytes]
      · have later : field ∈ layout := by simpa [Ne.symm same] using member
        rw [List.idxOf_cons_ne layout same, List.flatMap_cons, List.append_assoc,
          Nat.succ_eq_add_one, Nat.mul_add, Nat.add_comm,
          ← List.drop_drop, List.drop_left' (wordBytes_length _)]
        exact ih later

/-- Bytes of the right number are the record that they were read as. -/
theorem pack_unpack {bytes : List Byte} (distinct : layout.Nodup)
    (whole : bytes.length = 4 * layout.length) : pack layout (unpack layout bytes) = bytes := by
  induction layout generalizing bytes with
  | nil => exact (List.eq_nil_of_length_eq_zero whole).symm
  | cons first layout ih =>
      rw [List.length_cons] at whole
      have apart := (List.nodup_cons.mp distinct).1
      have tail : pack layout (unpack layout (bytes.drop 4)) = bytes.drop 4 :=
        ih (List.nodup_cons.mp distinct).2 (by rw [List.length_drop]; omega)
      have start : wordBytes (unpack (first :: layout) bytes first) = bytes.take 4 := by
        have whole4 : (bytes.take 4).length = 4 := by
          rw [List.length_take]
          omega
        rw [← wordBytes_bytesWord whole4]
        match bytes with
        | [] | [_] | [_, _] | [_, _, _] => simp at whole4
        | _ :: _ :: _ :: _ :: _ => simp [unpack, bytesWord]
      have others : ∀ field ∈ layout,
          unpack (first :: layout) bytes field = unpack layout (bytes.drop 4) field := by
        intro field member
        have different : first ≠ field := by
          rintro rfl
          exact apart member
        rw [unpack, unpack, List.idxOf_cons_ne layout different, List.drop_drop]
        congr 2
        omega
      rw [pack, List.flatMap_cons, start]
      change _ ++ pack layout (unpack (first :: layout) bytes) = bytes
      rw [pack_congr others, tail, List.take_append_drop]

end

section

variable {file bytes : List Byte} {offset : Nat}

def slice (file : List Byte) (offset count : Nat) : List Byte := (file.drop offset).take count

/-- The file with bytes written from an offset on. -/
def overwrite (file : List Byte) (offset : Nat) (bytes : List Byte) : List Byte :=
  file.take offset ++ bytes ++ file.drop (offset + bytes.length)

theorem overwrite_length (within : offset + bytes.length ≤ file.length) :
    (overwrite file offset bytes).length = file.length := by
  simp only [overwrite, List.length_append, List.length_take, List.length_drop]
  omega

theorem overwrite_whole (same : bytes.length = file.length) : overwrite file 0 bytes = bytes := by
  simp [overwrite, same]

theorem slice_length {count : Nat} (within : offset + count ≤ file.length) :
    (slice file offset count).length = count := by
  simp only [slice, List.length_take, List.length_drop]
  omega

/-- The bytes of a file after writing to it. -/
theorem overwrite_getElem? (within : offset + bytes.length ≤ file.length) (index : Nat) :
    (overwrite file offset bytes)[index]? =
      if offset ≤ index ∧ index < offset + bytes.length then bytes[index - offset]?
      else file[index]? := by
  have before : (file.take offset).length = offset := by
    rw [List.length_take]
    omega
  rw [overwrite, List.append_assoc]
  by_cases early : index < offset
  · rw [List.getElem?_append_left (by omega), if_neg (by omega), List.getElem?_take_of_lt early]
  · rw [List.getElem?_append_right (by omega), before]
    by_cases late : offset + bytes.length ≤ index
    · rw [List.getElem?_append_right (by omega), if_neg (by omega), List.getElem?_drop]
      congr 1
      omega
    · rw [List.getElem?_append_left (by omega), if_pos (by omega)]

theorem slice_getElem? (file : List Byte) (offset : Nat) {count index : Nat}
    (below : index < count) :
    (slice file offset count)[index]? = file[offset + index]? := by
  rw [slice, List.getElem?_take_of_lt below, List.getElem?_drop]

theorem slice_congr {other : List Byte} {count : Nat}
    (same : ∀ index < count, file[offset + index]? = other[offset + index]?) :
    slice file offset count = slice other offset count := by
  apply List.ext_getElem?
  intro index
  by_cases below : index < count
  · rw [slice_getElem? _ _ below, slice_getElem? _ _ below, same index below]
  · rw [List.getElem?_eq_none, List.getElem?_eq_none] <;>
      (simp only [slice, List.length_take]; omega)

theorem slice_overwrite (within : offset + bytes.length ≤ file.length) :
    slice (overwrite file offset bytes) offset bytes.length = bytes := by
  have before : (file.take offset).length = offset := by
    rw [List.length_take]
    omega
  rw [slice, overwrite, List.append_assoc, List.drop_left' before, List.take_left]

/-- A part that lies beside what is written stays as it is. -/
theorem slice_overwrite_outside {position count : Nat}
    (within : offset + bytes.length ≤ file.length)
    (outside : position + count ≤ offset ∨ offset + bytes.length ≤ position) :
    slice (overwrite file offset bytes) position count = slice file position count := by
  apply slice_congr
  intro index below
  rw [overwrite_getElem? within, if_neg (by omega)]

/-- Writing back what is there changes nothing. -/
theorem overwrite_slice {count : Nat} (within : offset + count ≤ file.length) :
    overwrite file offset (slice file offset count) = file := by
  rw [overwrite, slice_length within, slice, List.append_assoc, ← List.drop_drop,
    List.take_append_drop, List.take_append_drop]

/-- Writing a part in which something was written. -/
theorem overwrite_overwrite {part : List Byte} {position : Nat}
    (within : offset + part.length ≤ file.length) (inner : position + bytes.length ≤ part.length) :
    overwrite file offset (overwrite part position bytes) =
      overwrite (overwrite file offset part) (offset + position) bytes := by
  have length := overwrite_length inner
  have outer := overwrite_length within
  apply List.ext_getElem?
  intro index
  rw [overwrite_getElem? (length ▸ within), length, overwrite_getElem? inner,
    overwrite_getElem? (by omega), overwrite_getElem? within]
  split_ifs <;> first | rfl | (exfalso; omega) | skip
  congr 1
  omega

theorem overwrite_append (front tail : List Byte) (position : Nat) (bytes : List Byte) :
    overwrite (front ++ tail) (front.length + position) bytes =
      front ++ overwrite tail position bytes := by
  simp only [overwrite, List.append_assoc, Nat.add_assoc, List.take_length_add_append,
    List.drop_length_add_append]

end

section

variable {Field : Type} [DecidableEq Field] {layout : List Field} {record : Field → BitVec 32}

theorem pack_update (distinct : layout.Nodup) {field : Field} (member : field ∈ layout)
    (word : BitVec 32) :
    pack layout (Function.update record field word) =
      overwrite (pack layout record) (4 * layout.idxOf field) (wordBytes word) := by
  induction layout with
  | nil => contradiction
  | cons first layout ih =>
      obtain ⟨apart, distinct⟩ := List.nodup_cons.mp distinct
      by_cases same : first = field
      · subst same
        have rest : pack layout (Function.update record first word) = pack layout record := by
          apply pack_congr
          intro other later
          have different : other ≠ first := by
            rintro rfl
            exact apart later
          exact Function.update_of_ne different _ _
        rw [pack_cons, pack_cons, rest, List.idxOf_cons_self, overwrite, Function.update_self]
        simp [List.drop_append]
      · have later : field ∈ layout := by simpa [Ne.symm same] using member
        have position : 4 * (layout.idxOf field).succ =
            (wordBytes (record first)).length + 4 * layout.idxOf field := by
          rw [wordBytes_length]
          omega
        rw [List.idxOf_cons_ne layout same, pack_cons, pack_cons, Function.update_of_ne same,
          ih distinct later, position, overwrite_append]

end

section

variable {Key Value : Type} [DecidableEq Key]

def assign (record : Key → Value) (pairs : List (Key × Value)) : Key → Value :=
  pairs.foldl (fun record pair => Function.update record pair.1 pair.2) record

theorem assign_of_not_mem {record : Key → Value} {pairs : List (Key × Value)} {key : Key}
    (missing : key ∉ pairs.map Prod.fst) : assign record pairs key = record key := by
  unfold assign
  induction pairs generalizing record with
  | nil => rfl
  | cons pair rest ih =>
      simp only [List.map_cons, List.mem_cons, not_or] at missing
      rw [List.foldl_cons, ih missing.2, Function.update_of_ne missing.1]

theorem assign_of_mem {record : Key → Value} {pairs : List (Key × Value)} {key : Key}
    {value : Value} (distinct : (pairs.map Prod.fst).Nodup) (member : (key, value) ∈ pairs) :
    assign record pairs key = value := by
  induction pairs generalizing record with
  | nil => contradiction
  | cons pair rest ih =>
      rw [List.map_cons, List.nodup_cons] at distinct
      rcases List.mem_cons.mp member with rfl | later
      · exact (assign_of_not_mem distinct.1).trans (Function.update_self key value record)
      · exact ih distinct.2 later

/-- Whatever a field holds, it was there or it was assigned. -/
theorem assign_cases (record : Key → Value) (pairs : List (Key × Value)) (key : Key) :
    assign record pairs key = record key ∨ (key, assign record pairs key) ∈ pairs := by
  unfold assign
  induction pairs generalizing record with
  | nil => exact .inl rfl
  | cons pair rest ih =>
      rw [List.foldl_cons]
      rcases ih (Function.update record pair.1 pair.2) with kept | later
      · by_cases same : key = pair.1
        · subst same
          rw [kept, Function.update_self]
          exact .inr List.mem_cons_self
        · rw [kept, Function.update_of_ne same]
          exact .inl rfl
      · exact .inr (List.mem_cons_of_mem pair later)

end

end HorizonOc.Data
