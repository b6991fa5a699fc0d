import Mathlib.Data.List.Pairwise
import Mathlib.Tactic.Tauto
import HorizonOc.Data.BitTable

namespace HorizonOc.Secmon

open HorizonOc.Data

/-! `secmon_smc_register_access.cpp`: the tables of registers that may be accessed.  Where an
`AMS_ASSUME` does not hold the table is not a constant and nothing is built. -/

def setRegisterTableAllowed (arr : List Byte) (reg : Nat) : Option (List Byte) :=
  if reg % 4 ≠ 0 then none
  else
    let word := reg / 4
    let index := word / 8
    if arr.length ≤ index then none
    else if arr.getD index 0 &&& bitMask (word % 8) ≠ 0 then none
    else
      let arr := setBit arr word
      -- The registers come in their order: no later bit of this byte is set, and no later byte.
      let sorted := (List.range' (word % 8 + 1) (7 - word % 8)).all fun bit =>
        arr.getD index 0 &&& bitMask bit = 0
      let last := (List.range' (index + 1) (arr.length - (index + 1))).all fun i => arr.getD i 0 = 0
      if sorted && last then some arr else none

/-- The table that the lines of an access table fill. -/
def rawTable (size : Nat) (regs : List Nat) : Option (List Byte) :=
  regs.foldlM setRegisterTableAllowed (List.replicate size 0)

/-- The outer loop of `GetReducedAccessTableInfo`, with the indices that are left. -/
def lastUsed (arr : List Byte) : Nat → Option Nat
  | 0 => none
  | last + 1 => if arr.getD last 0 ≠ 0 then some last else lastUsed arr last

def getReducedAccessTableInfo (arr : List Byte) : Option (Nat × Nat) :=
  (lastUsed arr arr.length).map fun last =>
    (((List.range (last + 1)).find? fun start => arr.getD start 0 ≠ 0).getD 0, last + 1)

/-- `ReducedAccessTable`, `Address` and `Size`. -/
structure AccessTable where
  reducedAccessTable : List Byte
  address : Nat
  size : Nat
deriving DecidableEq, Repr

/-- The table for an address, if it is built at all. -/
def accessTable (base size : Nat) (regs : List Nat) : Option AccessTable := do
  let raw ← rawTable size regs
  let info ← getReducedAccessTableInfo raw
  let length := info.2 - info.1
  if length * 4 * 8 ≤ 0x1000 then
    some
      { reducedAccessTable := slice raw info.1 length
        address := (base + info.1 * 4 * 8) % 2 ^ 32
        size := length * 4 * 8 }
  else none

structure AccessTableEntry where
  table : List Byte
  virtualAddress : Nat
  address : Nat
  size : Nat
deriving DecidableEq, Repr

/-- `IsAccessAllowed`; none where the byte is not in the table. -/
def isAccessAllowed (entry : AccessTableEntry) (address : Nat) : Option Bool :=
  if ¬(entry.address ≤ address ∧ address < (entry.address + entry.size) % 2 ^ 32) then some false
  else
    let regIndex := (address - entry.address) / 4
    let index := regIndex / 8
    if index ≥ entry.size / 4 then some false
    else entry.table[index]?.map fun byte => decide (byte &&& bitMask (regIndex % 8) ≠ 0)

/-- What the lines of a table have to be. -/
structure Listed (size : Nat) (regs : List Nat) : Prop where
  ascending : regs.Pairwise (· < ·)
  aligned : ∀ reg ∈ regs, reg % 4 = 0
  inside : ∀ reg ∈ regs, reg / 32 < size

section

variable {arr after : List Byte} {reg : Nat}

theorem laterBits_clear (arr : List Byte) (index low : Nat) :
    ((List.range' (low + 1) (7 - low)).all fun bit => arr.getD index 0 &&& bitMask bit = 0) = true ↔
      ∀ number, number / 8 = index → low < number % 8 → bitAt arr number = false := by
  rw [List.all_eq_true]
  constructor
  · rintro clear number rfl later
    have member : number % 8 ∈ List.range' (low + 1) (7 - low) := by
      rw [List.mem_range'_1]
      omega
    have zero := of_decide_eq_true (clear _ member)
    have bit := (and_bitMask (Nat.mod_lt number (by decide)) _).not_right.mp zero
    simpa [bitAt] using bit
  · intro clear bit member
    rw [List.mem_range'_1] at member
    have small : bit < 8 := by omega
    have whole : (8 * index + bit) / 8 = index := by omega
    have part : (8 * index + bit) % 8 = bit := by omega
    have zero := clear (8 * index + bit) whole (by omega)
    rw [bitAt, whole, part] at zero
    refine decide_eq_true ((and_bitMask small _).not_right.mpr ?_)
    rw [zero]
    exact Bool.false_ne_true

theorem laterBytes_clear (arr : List Byte) (index : Nat) :
    ((List.range' (index + 1) (arr.length - (index + 1))).all fun i => arr.getD i 0 = 0) = true ↔
      ∀ number, index < number / 8 → bitAt arr number = false := by
  rw [List.all_eq_true]
  constructor
  · intro clear number later
    by_cases inside : number / 8 < arr.length
    · have member : number / 8 ∈ List.range' (index + 1) (arr.length - (index + 1)) := by
        rw [List.mem_range'_1]
        omega
      exact (getD_eq_zero_iff arr _).mp (of_decide_eq_true (clear _ member)) number rfl
    · exact bitAt_outside (Nat.le_of_not_lt inside)
  · intro clear i member
    rw [List.mem_range'_1] at member
    refine decide_eq_true ((getD_eq_zero_iff arr i).mpr ?_)
    rintro number rfl
    exact clear number (by omega)

/-- A register is allowed if it is aligned, in the array and behind all that were allowed before. -/
theorem setRegisterTableAllowed_eq_some_iff :
    setRegisterTableAllowed arr reg = some after ↔
      (reg % 4 = 0 ∧ reg / 32 < arr.length ∧ ∀ number ≥ reg / 4, bitAt arr number = false) ∧
        after = setBit arr (reg / 4) := by
  have whole : reg / 4 / 8 = reg / 32 := by omega
  unfold setRegisterTableAllowed
  by_cases aligned : reg % 4 = 0
  swap
  · simp [aligned]
  by_cases inside : reg / 32 < arr.length
  swap
  · simp [aligned, whole, inside]
  have fits : reg / 4 / 8 < arr.length := by rwa [whole]
  have own : arr.getD (reg / 4 / 8) 0 &&& bitMask (reg / 4 % 8) ≠ 0 ↔ bitAt arr (reg / 4) = true :=
    and_bitMask (Nat.mod_lt _ (by decide)) _
  have set (number : Nat) := bitAt_setBit fits number
  simp only [aligned, ne_eq, not_true_eq_false, if_false, Nat.not_le.mpr fits, inside, true_and]
  by_cases taken : bitAt arr (reg / 4) = true
  · have again := own.mpr taken
    simp only [ne_eq] at again
    have clash : ¬∀ number ≥ reg / 4, bitAt arr number = false := by
      intro clear
      rw [clear _ (Nat.le_refl _)] at taken
      exact Bool.false_ne_true taken
    rw [if_pos again]
    exact ⟨fun impossible => by contradiction, fun both => absurd both.1 clash⟩
  · have free := Classical.not_not.mp (mt own.mp taken)
    have behind : (((List.range' (reg / 4 % 8 + 1) (7 - reg / 4 % 8)).all fun bit =>
          (setBit arr (reg / 4)).getD (reg / 4 / 8) 0 &&& bitMask bit = 0) &&
        ((List.range' (reg / 4 / 8 + 1) ((setBit arr (reg / 4)).length - (reg / 4 / 8 + 1))).all
          fun i => (setBit arr (reg / 4)).getD i 0 = 0)) = true ↔
        ∀ number ≥ reg / 4, bitAt arr number = false := by
      rw [Bool.and_eq_true, laterBits_clear, laterBytes_clear]
      constructor
      · rintro ⟨bits, last⟩ number later
        by_cases same : number = reg / 4
        · rw [same]
          exact Bool.eq_false_iff.mpr taken
        · have clear : bitAt (setBit arr (reg / 4)) number = false := by
            by_cases byte : number / 8 = reg / 4 / 8
            · exact bits number byte (by omega)
            · exact last number (by omega)
          rw [set] at clear
          exact (Bool.or_eq_false_iff.mp clear).1
      · intro clear
        have other {number : Nat} (later : reg / 4 < number) :
            bitAt (setBit arr (reg / 4)) number = false := by
          rw [set, clear number (Nat.le_of_lt later)]
          exact decide_eq_false (Nat.ne_of_gt later)
        exact ⟨fun number byte bit => other (by omega), fun number byte => other (by omega)⟩
    rw [if_neg (Classical.not_not.mpr free)]
    by_cases clear : ∀ number ≥ reg / 4, bitAt arr number = false
    · rw [if_pos (behind.mpr clear)]
      exact ⟨fun same => ⟨clear, (Option.some.inj same).symm⟩, fun both => congrArg some both.2.symm⟩
    · rw [if_neg (mt behind.mp clear)]
      exact ⟨fun impossible => by contradiction, fun both => absurd both.1 clear⟩

/-- The lines one after another, from an array with nothing set from the first register on. -/
theorem foldlM_setRegisterTableAllowed_iff {regs : List Nat} :
    regs.foldlM setRegisterTableAllowed arr = some after ↔
      (Listed arr.length regs ∧ ∀ reg ∈ regs, ∀ number ≥ reg / 4, bitAt arr number = false) ∧
        after = (regs.map (· / 4)).foldl setBit arr := by
  induction regs generalizing arr with
  | nil =>
      have listed : Listed arr.length [] :=
        { ascending := List.Pairwise.nil, aligned := by simp, inside := by simp }
      constructor
      · intro same
        exact ⟨⟨listed, by simp⟩, (Option.some.inj same).symm⟩
      · rintro ⟨-, rfl⟩
        rfl
  | cons reg rest ih =>
      have step : (reg :: rest).foldlM setRegisterTableAllowed arr = some after ↔
          ∃ next, setRegisterTableAllowed arr reg = some next ∧
            rest.foldlM setRegisterTableAllowed next = some after := by
        rw [List.foldlM_cons]
        exact Option.bind_eq_some_iff
      rw [step]
      constructor
      · rintro ⟨next, first, others⟩
        obtain ⟨⟨aligned, inside, clear⟩, rfl⟩ := setRegisterTableAllowed_eq_some_iff.mp first
        obtain ⟨⟨listed, behind⟩, rfl⟩ := ih.mp others
        have set (number : Nat) := bitAt_setBit (by omega : reg / 4 / 8 < arr.length) number
        have later : ∀ other ∈ rest, reg < other := by
          intro other member
          by_contra before
          have taken := behind other member (reg / 4) (by omega)
          rw [set] at taken
          simp at taken
        rw [setBit_length] at listed
        refine ⟨⟨⟨List.pairwise_cons.mpr ⟨later, listed.ascending⟩,
          List.forall_mem_cons.mpr ⟨aligned, listed.aligned⟩,
          List.forall_mem_cons.mpr ⟨inside, listed.inside⟩⟩, ?_⟩, rfl⟩
        refine List.forall_mem_cons.mpr ⟨clear, fun other member number atLeast => ?_⟩
        have free := behind other member number atLeast
        rw [set] at free
        exact (Bool.or_eq_false_iff.mp free).1
      · rintro ⟨⟨listed, clear⟩, rfl⟩
        obtain ⟨later, ascending⟩ := List.pairwise_cons.mp listed.ascending
        obtain ⟨aligned, alignedRest⟩ := List.forall_mem_cons.mp listed.aligned
        obtain ⟨inside, insideRest⟩ := List.forall_mem_cons.mp listed.inside
        obtain ⟨first, others⟩ := List.forall_mem_cons.mp clear
        have set (number : Nat) := bitAt_setBit (by omega : reg / 4 / 8 < arr.length) number
        refine ⟨setBit arr (reg / 4),
          setRegisterTableAllowed_eq_some_iff.mpr ⟨⟨aligned, inside, first⟩, rfl⟩, ih.mpr ⟨⟨?_, ?_⟩, rfl⟩⟩
        · rw [setBit_length]
          exact ⟨ascending, alignedRest, insideRest⟩
        · intro other member number atLeast
          have behind := later other member
          have whole := alignedRest other member
          rw [set, others other member number atLeast]
          exact decide_eq_false (by omega)

end

/-- A table is filled exactly by registers in their order. -/
theorem rawTable_eq_some_iff {size : Nat} {regs : List Nat} {raw : List Byte} :
    rawTable size regs = some raw ↔
      Listed size regs ∧ raw = (regs.map (· / 4)).foldl setBit (List.replicate size 0) := by
  rw [rawTable, foldlM_setRegisterTableAllowed_iff, List.length_replicate]
  have clear : ∀ reg ∈ regs, ∀ number ≥ reg / 4, bitAt (List.replicate size 0) number = false :=
    fun reg _ number _ => bitAt_replicate size number
  rw [and_iff_left clear]

theorem bitAt_rawTable {size : Nat} {regs : List Nat} (listed : Listed size regs) (number : Nat) :
    bitAt ((regs.map (· / 4)).foldl setBit (List.replicate size 0)) number =
      decide (4 * number ∈ regs) := by
  have inside : ∀ word ∈ regs.map (· / 4), word / 8 < (List.replicate size (0 : Byte)).length := by
    intro word member
    obtain ⟨reg, listedReg, rfl⟩ := List.mem_map.mp member
    have bound := listed.inside reg listedReg
    rw [List.length_replicate]
    omega
  rw [bitAt_foldl_setBit inside, bitAt_replicate, Bool.false_or, decide_eq_decide, List.mem_map]
  constructor
  · rintro ⟨reg, member, rfl⟩
    have aligned := listed.aligned reg member
    have whole : 4 * (reg / 4) = reg := by omega
    rwa [whole]
  · intro member
    exact ⟨4 * number, member, by omega⟩

theorem rawTable_length (size : Nat) (numbers : List Nat) :
    (numbers.foldl setBit (List.replicate size 0)).length = size := by
  have kept (bytes : List Byte) : (numbers.foldl setBit bytes).length = bytes.length := by
    induction numbers generalizing bytes with
    | nil => rfl
    | cons number rest ih => rw [List.foldl_cons, ih, setBit_length]
  rw [kept, List.length_replicate]

section

variable {arr : List Byte} {count last start finish : Nat}

theorem lastUsed_spec (arr : List Byte) (count : Nat) :
    (lastUsed arr count = none ∧ ∀ i < count, arr.getD i 0 = 0) ∨
      ∃ last, lastUsed arr count = some last ∧ last < count ∧ arr.getD last 0 ≠ 0 ∧
        ∀ i, last < i → i < count → arr.getD i 0 = 0 := by
  induction count with
  | zero => exact .inl ⟨rfl, fun i impossible => absurd impossible (Nat.not_lt_zero i)⟩
  | succ count ih =>
      by_cases used : arr.getD count 0 ≠ 0
      · exact .inr ⟨count, if_pos used, Nat.lt_succ_self count, used, fun i _ _ => by omega⟩
      · have zero := Classical.not_not.mp used
        have skip : lastUsed arr (count + 1) = lastUsed arr count := if_neg used
        rw [skip]
        rcases ih with ⟨none, clear⟩ | ⟨last, found, before, nonzero, clear⟩
        · refine .inl ⟨none, fun i inside => ?_⟩
          rcases Nat.lt_succ_iff_lt_or_eq.mp inside with before | rfl
          · exact clear i before
          · exact zero
        · refine .inr ⟨last, found, by omega, nonzero, fun i behind inside => ?_⟩
          rcases Nat.lt_succ_iff_lt_or_eq.mp inside with before | rfl
          · exact clear i behind before
          · exact zero

/-- The bytes that are kept are those from the first to the last that is used. -/
theorem getReducedAccessTableInfo_spec (arr : List Byte) :
    (getReducedAccessTableInfo arr = none ∧ ∀ number, bitAt arr number = false) ∨
      ∃ start finish, getReducedAccessTableInfo arr = some (start, finish) ∧ start < finish ∧
        finish ≤ arr.length ∧ arr.getD start 0 ≠ 0 ∧ arr.getD (finish - 1) 0 ≠ 0 ∧
        ∀ number, bitAt arr number = true → start ≤ number / 8 ∧ number / 8 < finish := by
  rcases lastUsed_spec arr arr.length with ⟨none, clear⟩ | ⟨last, found, inside, used, clear⟩
  · refine .inl ⟨by rw [getReducedAccessTableInfo, none]; rfl, fun number => ?_⟩
    by_cases within : number / 8 < arr.length
    · exact (getD_eq_zero_iff arr _).mp (clear _ within) number rfl
    · exact bitAt_outside (Nat.le_of_not_lt within)
  · refine .inr ?_
    cases first : (List.range (last + 1)).find? fun start => decide (arr.getD start 0 ≠ 0) with
    | none =>
        have zero := List.find?_eq_none.mp first last (List.mem_range.mpr (Nat.lt_succ_self last))
        exact absurd (decide_eq_true used) zero
    | some start =>
        have member := List.mem_range.mp (List.mem_of_find?_eq_some first)
        have skipped := List.find?_range_eq_some.mp first
        refine ⟨start, last + 1, ?_, member, inside, of_decide_eq_true skipped.1, used, ?_⟩
        · rw [getReducedAccessTableInfo, found, Option.map_some, first]
          rfl
        · intro number set
          have nonzero : arr.getD (number / 8) 0 ≠ 0 := by
            intro zero
            rw [(getD_eq_zero_iff arr _).mp zero number rfl] at set
            exact Bool.false_ne_true set
          constructor
          · by_contra before
            exact nonzero (by simpa using skipped.2.2 _ (Nat.lt_of_not_le before))
          · by_contra behind
            by_cases within : number / 8 < arr.length
            · exact nonzero (clear _ (by omega) within)
            · rw [bitAt_outside (Nat.le_of_not_lt within)] at set
              exact Bool.false_ne_true set

end

/-- The entry of a table for its registers' virtual addresses. -/
def AccessTable.entry (table : AccessTable) (virtualAddress : Nat) : AccessTableEntry :=
  { table := table.reducedAccessTable, virtualAddress, address := table.address, size := table.size }

section

variable {base size : Nat} {regs : List Nat} {table : AccessTable}

/-- An address of a listed register. -/
def Allowed (base : Nat) (regs : List Nat) (address : Nat) : Prop :=
  ∃ reg ∈ regs, base + reg ≤ address ∧ address < base + reg + 4

instance (base : Nat) (regs : List Nat) (address : Nat) : Decidable (Allowed base regs address) :=
  inferInstanceAs (Decidable (∃ reg ∈ regs, _))

/-- All registers are in a page of bytes that is not too long. -/
structure Buildable (size : Nat) (regs : List Nat) : Prop extends Listed size regs where
  used : regs ≠ []
  short : ∀ first ∈ regs, ∀ last ∈ regs, last / 32 < first / 32 + 128

theorem exists_register {arr : List Byte} (bits : ∀ number, bitAt arr number = decide (4 * number ∈ regs))
    {index : Nat} (used : arr.getD index 0 ≠ 0) : ∃ reg ∈ regs, reg / 32 = index := by
  by_contra none
  refine used ((getD_eq_zero_iff arr index).mpr ?_)
  rintro number rfl
  rw [bits]
  refine decide_eq_false fun member => none ⟨4 * number, member, by omega⟩

/-- What a table consists of that is built. -/
theorem accessTable_cases (base size : Nat) (regs : List Nat) :
    (accessTable base size regs = none ∧ ¬Buildable size regs) ∨
      ∃ raw start finish, Buildable size regs ∧
        (∀ number, bitAt raw number = decide (4 * number ∈ regs)) ∧
        start < finish ∧ finish ≤ raw.length ∧ raw.length = size ∧
        (∀ reg ∈ regs, start ≤ reg / 32 ∧ reg / 32 < finish) ∧ (∃ reg ∈ regs, reg / 32 = start) ∧
        accessTable base size regs = some
          { reducedAccessTable := slice raw start (finish - start)
            address := (base + start * 4 * 8) % 2 ^ 32
            size := (finish - start) * 4 * 8 } := by
  unfold accessTable
  cases filled : rawTable size regs with
  | none =>
      refine .inl ⟨rfl, fun buildable => ?_⟩
      have whole := rawTable_eq_some_iff.mpr ⟨buildable.toListed, rfl⟩
      rw [filled] at whole
      contradiction
  | some raw =>
      obtain ⟨listed, rfl⟩ := rawTable_eq_some_iff.mp filled
      have bits := bitAt_rawTable listed
      have length := rawTable_length size (regs.map (· / 4))
      simp only [Option.bind_eq_bind, Option.bind_some]
      generalize (regs.map (· / 4)).foldl setBit (List.replicate size 0) = raw at bits length ⊢
      rcases getReducedAccessTableInfo_spec raw with
        ⟨none, clear⟩ | ⟨start, finish, found, apart, inside, first, last, within⟩
      · rw [none]
        refine .inl ⟨rfl, fun buildable => ?_⟩
        obtain ⟨reg, member⟩ := List.exists_mem_of_ne_nil regs buildable.used
        have set := bits (reg / 4)
        have aligned := listed.aligned reg member
        have whole : 4 * (reg / 4) = reg := by omega
        rw [clear, whole, decide_eq_true member] at set
        exact Bool.false_ne_true set
      · obtain ⟨low, lowMember, lowIndex⟩ := exists_register bits first
        obtain ⟨high, highMember, highIndex⟩ := exists_register bits last
        have bounds : ∀ reg ∈ regs, start ≤ reg / 32 ∧ reg / 32 < finish := by
          intro reg member
          have aligned := listed.aligned reg member
          have whole : 4 * (reg / 4) = reg := by omega
          have set : bitAt raw (reg / 4) = true := by
            rw [bits, whole]
            exact decide_eq_true member
          have index := within (reg / 4) set
          omega
        rw [found, Option.bind_some]
        by_cases short : (finish - start) * 4 * 8 ≤ 0x1000
        · refine .inr ⟨raw, start, finish, ?_, bits, apart, inside, length, bounds,
            ⟨low, lowMember, lowIndex⟩, if_pos short⟩
          refine { listed with used := List.ne_nil_of_mem lowMember, short := ?_ }
          intro one oneMember other otherMember
          have lower := bounds one oneMember
          have upper := bounds other otherMember
          omega
        · refine .inl ⟨if_neg short, fun buildable => ?_⟩
          have near := buildable.short low lowMember high highMember
          omega

theorem accessTable_exists (base : Nat) (buildable : Buildable size regs) :
    ∃ table, accessTable base size regs = some table := by
  rcases accessTable_cases base size regs with
    ⟨-, unbuilt⟩ | ⟨raw, start, finish, -, -, -, -, -, -, -, built⟩
  · exact absurd buildable unbuilt
  · exact ⟨_, built⟩

/-- The part of a table that is kept allows what the whole table lists. -/
theorem isAccessAllowed_slice {raw : List Byte} {start finish : Nat}
    (bits : ∀ number, bitAt raw number = decide (4 * number ∈ regs))
    (aligned : ∀ reg ∈ regs, reg % 4 = 0) (apart : start < finish) (inside : finish ≤ raw.length)
    (bounds : ∀ reg ∈ regs, start ≤ reg / 32 ∧ reg / 32 < finish)
    (room : base + 32 * raw.length < 2 ^ 32) (virtualAddress address : Nat) :
    isAccessAllowed
        { table := slice raw start (finish - start), virtualAddress
          address := base + 32 * start, size := (finish - start) * 4 * 8 } address =
      some (decide (Allowed base regs address)) := by
  unfold isAccessAllowed
  have high : (base + 32 * start + (finish - start) * 4 * 8) % 2 ^ 32 = base + 32 * finish := by omega
  simp only [high]
  by_cases ranged : base + 32 * start ≤ address ∧ address < base + 32 * finish
  · rw [if_neg (Classical.not_not.mpr ranged)]
    let word := (address - (base + 32 * start)) / 4
    have index : word / 8 < finish - start := by omega
    rw [if_neg (by omega)]
    have entry : (slice raw start (finish - start))[word / 8]? =
        some ((slice raw start (finish - start)).getD (word / 8) 0) := by
      rw [List.getD_eq_getElem?_getD, List.getElem?_eq_getElem
        (by rw [slice_length (by omega)]; exact index)]
      rfl
    change ((slice raw start (finish - start))[word / 8]?).map _ = _
    rw [entry, Option.map_some, Option.some.injEq, decide_eq_decide,
      and_bitMask (Nat.mod_lt _ (by decide))]
    change bitAt (slice raw start (finish - start)) word = true ↔ _
    rw [bitAt_slice, bits, decide_eq_true index, Bool.true_and, decide_eq_true_iff]
    constructor
    · intro member
      exact ⟨_, member, by omega, by omega⟩
    · rintro ⟨reg, member, lower, upper⟩
      have whole := aligned reg member
      have same : 4 * (8 * start + word) = reg := by omega
      rwa [same]
  · rw [if_pos ranged]
    have outside : ¬Allowed base regs address := by
      rintro ⟨reg, member, lower, upper⟩
      have within := bounds reg member
      have whole := aligned reg member
      exact ranged (by omega)
    rw [decide_eq_false outside]

/-- A table is built exactly for aligned registers in their order, on less than a page; then an
access is allowed exactly at the listed registers, and no byte outside of the table is looked at. -/
theorem access_table_exact (base size : Nat) (regs : List Nat) (room : base + 32 * size < 2 ^ 32) :
    (accessTable base size regs ≠ none ↔ Buildable size regs) ∧
      ∀ table, accessTable base size regs = some table → ∀ virtualAddress address,
        isAccessAllowed (table.entry virtualAddress) address =
          some (decide (Allowed base regs address)) := by
  rcases accessTable_cases base size regs with
    ⟨none, unbuilt⟩ | ⟨raw, start, finish, buildable, bits, apart, inside, length, bounds, -, built⟩
  · rw [none]
    exact ⟨⟨fun impossible => absurd rfl impossible, fun buildable => absurd buildable unbuilt⟩,
      fun table impossible => by contradiction⟩
  · refine ⟨⟨fun _ => buildable, fun _ => by rw [built]; exact Option.some_ne_none _⟩, ?_⟩
    intro table same virtualAddress address
    rw [built] at same
    obtain rfl := Option.some.inj same
    have low : (base + start * 4 * 8) % 2 ^ 32 = base + 32 * start := by omega
    unfold AccessTable.entry
    simp only [low]
    exact isAccessAllowed_slice bits buildable.aligned apart inside bounds (length ▸ room) virtualAddress
      address

end

/-- `secmon_emc_access_table_data.inc`. -/
def emcRegisters : List Nat := (List.range 1024).map (4 * ·)

end HorizonOc.Secmon
