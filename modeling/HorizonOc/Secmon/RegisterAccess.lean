import Mathlib.Data.List.Forall2
import HorizonOc.Secmon.AccessTables
import HorizonOc.Secmon.MemoryLayout

namespace HorizonOc.Secmon

open HorizonOc.Data

/-! `SmcReadWriteRegister` over the tables of all devices.  The firmware, the lists of the other
devices and the regions of the two channels of the EMC come from outside. -/

structure Layout where
  externalMemoryController1 : Region
  externalMemoryController2 : Region
  /-- The bytes of a table before it is reduced. -/
  tableSize : Nat
  pmcRegisters : List Nat
  mcRegisters : List Nat
  mc01Registers : List Nat
  /-- `MC_SMMU_AVPC_ASID` and `MC_SMMU_PPCS1_ASID`. -/
  mcSmmuAvpcAsid : Nat
  mcSmmuPpcs1Asid : Nat
  /-- `GetTargetFirmware() < TargetFirmware_2_0_0`. -/
  olderThan2 : Bool

namespace Layout

/-- The entry of a device that has a table of its own. -/
def ownEntry (layout : Layout) (region : Region) (registers : List Nat) : Option AccessTableEntry :=
  (accessTable region.physicalAddress layout.tableSize registers).map fun table =>
    table.entry region.virtualAddress

/-- The entry of a device that shares a table, which starts at zero. -/
def sharedEntry (layout : Layout) (region : Region) (registers : List Nat) :
    Option AccessTableEntry :=
  (accessTable 0 layout.tableSize registers).map fun table =>
    { table.entry (table.address + region.virtualAddress) with
      address := table.address + region.physicalAddress }

def accessTables (layout : Layout) : Option (List AccessTableEntry) := do
  let pmc ← layout.ownEntry pmcRegion layout.pmcRegisters
  let mc ← layout.ownEntry Device.memoryController.region layout.mcRegisters
  let emc ← layout.ownEntry Device.externalMemoryController.region emcRegisters
  let emc1 ← layout.ownEntry layout.externalMemoryController1 emcRegisters
  let emc2 ← layout.ownEntry layout.externalMemoryController2 emcRegisters
  let mc0 ← layout.sharedEntry Device.memoryController0.region layout.mc01Registers
  let mc1 ← layout.sharedEntry Device.memoryController1.region layout.mc01Registers
  some [pmc, mc, emc, emc1, emc2, mc0, mc1]

end Layout

def getAccessTableEntry (address : Nat) : List AccessTableEntry → Option (Option AccessTableEntry)
  | [] => some none
  | entry :: rest => do
      let allowed ← isAccessAllowed entry address
      if allowed then some (some entry) else getAccessTableEntry address rest

inductive SmcResult where
  | success | invalidArgument | notPermitted
deriving DecidableEq, Repr

/-- The argument registers that are read and written. -/
structure SmcArguments where
  r0 : BitVec 64
  r1 : BitVec 64
  r2 : BitVec 64
  r3 : BitVec 64
deriving DecidableEq, Repr

/-- The words of the devices at their virtual addresses. -/
abbrev Words := Nat → BitVec 32

/-- The read and the write of one word, with what is answered. -/
def exchange (words : Words) (virtualAddress : Nat) (mask value : BitVec 32) : BitVec 32 × Words :=
  let out := if mask ≠ BitVec.allOnes 32 then words virtualAddress else 0
  (out,
    if mask ≠ 0 then Function.update words virtualAddress ((out &&& ~~~mask) ||| (value &&& mask))
    else words)

/-- `virtual_address`, with no value where the call is refused. -/
def Layout.virtualAddress (layout : Layout) (memoryController : Region)
    (entry : Option AccessTableEntry) (address : Nat) : Option Nat :=
  let mc := memoryController.physicalAddress
  match entry with
  | some entry => some ((entry.virtualAddress + (address - entry.address)) % 2 ^ 64)
  | none =>
      if ¬(address = mc + layout.mcSmmuAvpcAsid ∨ address = mc + layout.mcSmmuPpcs1Asid) then none
      -- The two are said to succeed; only the oldest firmware may access them.
      else if layout.olderThan2 then
        some ((memoryController.virtualAddress + (address - mc)) % 2 ^ 64)
      else some 0

def smcReadWriteRegister (layout : Layout) (accessTables : List AccessTableEntry)
    (args : SmcArguments) (words : Words) : Option (SmcResult × SmcArguments × Words) :=
  let address := args.r1.toNat
  let mask := args.r2.setWidth 32
  let value := args.r3.setWidth 32
  if address % 4 ≠ 0 then some (.invalidArgument, args, words)
  else do
    let entry ← getAccessTableEntry address accessTables
    match layout.virtualAddress Device.memoryController.region entry address with
    | none => some (.invalidArgument, args, words)
    | some virtualAddress =>
        if virtualAddress = 0 then some (.success, args, words)
        else
          let exchanged := exchange words virtualAddress mask value
          some (.success, { args with r1 := exchanged.1.setWidth 64 }, exchanged.2)

/-- The address that an entry translates to. -/
def AccessTableEntry.target (entry : AccessTableEntry) (address : Nat) : Nat :=
  entry.virtualAddress + (address - entry.address)

/-- An entry allows the listed registers of a device and finds them where they are mapped. -/
structure EntryFor (device : Region × List Nat) (entry : AccessTableEntry) : Prop where
  allows : ∀ address, isAccessAllowed entry address =
    some (decide (Allowed device.1.physicalAddress device.2 address))
  places : ∀ address, Allowed device.1.physicalAddress device.2 address →
    entry.target address = device.1.virtualAddress + (address - device.1.physicalAddress)

section

variable {layout : Layout} {region : Region} {registers : List Nat} {entry : AccessTableEntry}

theorem ownEntry_allows (room : region.physicalAddress + 32 * layout.tableSize < 2 ^ 32)
    (built : layout.ownEntry region registers = some entry) (address : Nat) :
    isAccessAllowed entry address = some (decide (Allowed region.physicalAddress registers address)) := by
  obtain ⟨table, found, rfl⟩ := Option.map_eq_some_iff.mp built
  exact (access_table_exact _ _ _ room).2 table found _ address

/-- A table of its own places the registers right exactly if its first byte is used. -/
theorem ownEntry_places_iff (room : region.physicalAddress + 32 * layout.tableSize < 2 ^ 32)
    (built : layout.ownEntry region registers = some entry) :
    (∀ address, Allowed region.physicalAddress registers address →
      entry.target address = region.virtualAddress + (address - region.physicalAddress)) ↔
      ∃ reg ∈ registers, reg < 32 := by
  obtain ⟨table, found, rfl⟩ := Option.map_eq_some_iff.mp built
  rcases accessTable_cases region.physicalAddress layout.tableSize registers with
    ⟨none, -⟩ | ⟨raw, start, finish, buildable, -, apart, inside, length, bounds, first, same⟩
  · rw [none] at found
    contradiction
  · rw [same] at found
    obtain rfl := Option.some.inj found
    obtain ⟨low, lowMember, lowIndex⟩ := first
    have base : (region.physicalAddress + start * 4 * 8) % 2 ^ 32 =
        region.physicalAddress + 32 * start := by omega
    unfold AccessTableEntry.target AccessTable.entry
    simp only [base]
    constructor
    · intro placed
      have here := placed (region.physicalAddress + low) ⟨low, lowMember, by omega, by omega⟩
      exact ⟨low, lowMember, by omega⟩
    · rintro ⟨reg, member, small⟩ address -
      have within := bounds reg member
      have zero : start = 0 := by omega
      rw [zero]
      rfl

theorem ownEntry_for (room : region.physicalAddress + 32 * layout.tableSize < 2 ^ 32)
    (first : ∃ reg ∈ registers, reg < 32)
    (built : layout.ownEntry region registers = some entry) : EntryFor (region, registers) entry :=
  { allows := ownEntry_allows room built, places := (ownEntry_places_iff room built).mpr first }

/-- A shared table places them right wherever it starts. -/
theorem sharedEntry_for (room : region.physicalAddress + 32 * layout.tableSize < 2 ^ 32)
    (built : layout.sharedEntry region registers = some entry) :
    EntryFor (region, registers) entry := by
  obtain ⟨table, found, rfl⟩ := Option.map_eq_some_iff.mp built
  rcases accessTable_cases 0 layout.tableSize registers with
    ⟨none, -⟩ | ⟨raw, start, finish, buildable, bits, apart, inside, length, bounds, first, same⟩
  · rw [none] at found
    contradiction
  rw [same] at found
  obtain rfl := Option.some.inj found
  have zero : (0 + start * 4 * 8) % 2 ^ 32 = 32 * start := by omega
  have base : 32 * start + region.physicalAddress = region.physicalAddress + 32 * start :=
    Nat.add_comm _ _
  unfold AccessTable.entry
  simp only [zero, base]
  constructor
  · exact fun address => isAccessAllowed_slice bits buildable.aligned apart inside bounds (length ▸ room) _ address
  · rintro address ⟨reg, member, lower, upper⟩
    have within := bounds reg member
    have aligned := buildable.aligned reg member
    unfold AccessTableEntry.target
    dsimp only at lower upper ⊢
    omega

/-- The entries are built for the same lists and allow the same registers; a table of its own finds
them where they are mapped only if its first byte is used, a shared one always. -/
theorem device_entries_exact (layout : Layout) (region : Region) (registers : List Nat)
    (room : region.physicalAddress + 32 * layout.tableSize < 2 ^ 32) :
    (layout.ownEntry region registers ≠ none ↔ Buildable layout.tableSize registers) ∧
      (layout.sharedEntry region registers ≠ none ↔ Buildable layout.tableSize registers) ∧
      (∀ entry, layout.ownEntry region registers = some entry →
        (∀ address, isAccessAllowed entry address =
          some (decide (Allowed region.physicalAddress registers address))) ∧
        ((∀ address, Allowed region.physicalAddress registers address →
          entry.target address = region.virtualAddress + (address - region.physicalAddress)) ↔
          ∃ reg ∈ registers, reg < 32)) ∧
      ∀ entry, layout.sharedEntry region registers = some entry →
        EntryFor (region, registers) entry := by
  have own := (access_table_exact region.physicalAddress layout.tableSize registers room).1
  have shared := (access_table_exact 0 layout.tableSize registers (by omega)).1
  refine ⟨?_, ?_, fun entry built => ⟨ownEntry_allows room built, ownEntry_places_iff room built⟩,
    fun entry built => sharedEntry_for room built⟩
  · rw [← own, Layout.ownEntry, ne_eq, Option.map_eq_none_iff]
  · rw [← shared, Layout.sharedEntry, ne_eq, Option.map_eq_none_iff]

end

namespace Layout

/-- The devices with their registers, in the order of the entries. -/
def devices (layout : Layout) : List (Region × List Nat) :=
  [(pmcRegion, layout.pmcRegisters), (Device.memoryController.region, layout.mcRegisters),
   (Device.externalMemoryController.region, emcRegisters), (layout.externalMemoryController1, emcRegisters),
   (layout.externalMemoryController2, emcRegisters), (Device.memoryController0.region, layout.mc01Registers),
   (Device.memoryController1.region, layout.mc01Registers)]

/-- The two controls of the SMMU that are said to succeed. -/
def isSmmuControl (layout : Layout) (address : Nat) : Bool :=
  address = Device.memoryController.region.physicalAddress + layout.mcSmmuAvpcAsid ||
    address = Device.memoryController.region.physicalAddress + layout.mcSmmuPpcs1Asid

def isListed (layout : Layout) (address : Nat) : Bool :=
  layout.devices.any fun device => decide (Allowed device.1.physicalAddress device.2 address)

def isPermitted (layout : Layout) (address : Nat) : Bool :=
  layout.isListed address || (layout.olderThan2 && layout.isSmmuControl address)

/-- A register access in terms of the physical words. -/
def access (layout : Layout) (args : SmcArguments) (words : Words) :
    SmcResult × SmcArguments × Words :=
  let address := args.r1.toNat
  let mask := args.r2.setWidth 32
  let value := args.r3.setWidth 32
  if address % 4 = 0 ∧ layout.isPermitted address = true then
    let old := words address
    -- A write of the whole word does not read it.
    let out := if mask = BitVec.allOnes 32 then 0 else old
    (.success, { args with r1 := out.setWidth 64 },
      Function.update words address ((old &&& ~~~mask) ||| (value &&& mask)))
  else if address % 4 = 0 ∧ layout.isSmmuControl address = true then (.success, args, words)
  else (.invalidArgument, args, words)

end Layout

/-- What the regions and the lists of registers are. -/
structure Layout.Consistent (layout : Layout) : Prop where
  buildable : ∀ device ∈ layout.devices, Buildable layout.tableSize device.2
  room : ∀ device ∈ layout.devices, device.1.physicalAddress + 32 * layout.tableSize < 2 ^ 32
  inside : ∀ device ∈ layout.devices, ∀ reg ∈ device.2, reg + 4 ≤ device.1.size
  mapped : ∀ device ∈ layout.devices,
    0 < device.1.virtualAddress ∧ device.1.virtualAddress + device.1.size ≤ 2 ^ 64
  apart : layout.devices.Pairwise fun first second => first.1.Apart second.1
  firsts : (∃ reg ∈ layout.pmcRegisters, reg < 32) ∧ ∃ reg ∈ layout.mcRegisters, reg < 32
  smmu : layout.mcSmmuAvpcAsid < Device.memoryController.region.size ∧
    layout.mcSmmuPpcs1Asid < Device.memoryController.region.size

/-- The words at the virtual addresses are the physical ones. -/
def Mapped (layout : Layout) (words physical : Words) : Prop :=
  ∀ device ∈ layout.devices, ∀ offset < device.1.size,
    physical (device.1.physicalAddress + offset) = words (device.1.virtualAddress + offset)

section

variable {layout : Layout} {words physical : Words} {entries : List AccessTableEntry}

theorem exchange_fst (words : Words) (virtualAddress : Nat) (mask value : BitVec 32) :
    (exchange words virtualAddress mask value).1 =
      if mask = BitVec.allOnes 32 then 0 else words virtualAddress := by
  unfold exchange
  by_cases whole : mask = BitVec.allOnes 32
  · rw [if_neg (Classical.not_not.mpr whole), if_pos whole]
  · rw [if_pos whole, if_neg whole]

/-- The word is the same whether or not it was read, and a write of no bit changes nothing. -/
theorem exchange_snd (words : Words) (virtualAddress : Nat) (mask value : BitVec 32) :
    (exchange words virtualAddress mask value).2 =
      Function.update words virtualAddress
        ((words virtualAddress &&& ~~~mask) ||| (value &&& mask)) := by
  have out := exchange_fst words virtualAddress mask value
  by_cases none : mask = 0
  · have kept : words virtualAddress &&& ~~~mask ||| value &&& mask = words virtualAddress := by
      rw [none]
      change words virtualAddress &&& ~~~0#32 ||| value &&& 0#32 = _
      rw [BitVec.and_zero, BitVec.or_zero, BitVec.not_zero, BitVec.and_allOnes]
    rw [kept, Function.update_eq_self]
    exact if_neg (Classical.not_not.mpr none)
  · have written : (exchange words virtualAddress mask value).2 = Function.update words virtualAddress
        (((exchange words virtualAddress mask value).1 &&& ~~~mask) ||| (value &&& mask)) := if_pos none
    rw [written, out]
    split
    · next whole =>
        simp only [whole, BitVec.not_allOnes, BitVec.and_zero]
    · rfl

/-- A word that is written at both addresses of a device leaves the two in step. -/
theorem Mapped.update (consistent : layout.Consistent) (mapped : Mapped layout words physical)
    {device : Region × List Nat} (member : device ∈ layout.devices) {offset : Nat}
    (inside : offset < device.1.size) (word : BitVec 32) :
    Mapped layout (Function.update words (device.1.virtualAddress + offset) word)
      (Function.update physical (device.1.physicalAddress + offset) word) := by
  intro other otherMember otherOffset otherInside
  have apart : device.1 = other.1 ∨ device.1.Apart other.1 := by
    have ordered : layout.devices.Pairwise fun first second =>
        first.1 = second.1 ∨ first.1.Apart second.1 := consistent.apart.imp fun apart => .inr apart
    have flipped : layout.devices.Pairwise (flip fun first second =>
        first.1 = second.1 ∨ first.1.Apart second.1) :=
      consistent.apart.imp fun apart => .inr apart.symm
    exact ordered.forall_of_forall_of_flip (fun _ _ => .inl rfl) flipped member otherMember
  by_cases same : device.1 = other.1 ∧ offset = otherOffset
  · rw [← same.1, ← same.2, Function.update_self, Function.update_self]
  · have physicalNe : other.1.physicalAddress + otherOffset ≠ device.1.physicalAddress + offset := by
      rcases apart with equal | ⟨physicalApart, -⟩
      · rw [← equal]
        have differs : offset ≠ otherOffset := fun offsets => same ⟨equal, offsets⟩
        omega
      · omega
    have virtualNe : other.1.virtualAddress + otherOffset ≠ device.1.virtualAddress + offset := by
      rcases apart with equal | ⟨-, virtualApart⟩
      · rw [← equal]
        have differs : offset ≠ otherOffset := fun offsets => same ⟨equal, offsets⟩
        omega
      · omega
    rw [Function.update_of_ne physicalNe, Function.update_of_ne virtualNe]
    exact mapped other otherMember otherOffset otherInside

/-- The first entry that allows an address is one for a device that lists it. -/
theorem getAccessTableEntry_spec {devices : List (Region × List Nat)} (address : Nat)
    (each : List.Forall₂ EntryFor devices entries) :
    (getAccessTableEntry address entries = some none ∧
        ∀ device ∈ devices, ¬Allowed device.1.physicalAddress device.2 address) ∨
      ∃ entry, getAccessTableEntry address entries = some (some entry) ∧
        ∃ device ∈ devices, EntryFor device entry ∧
          Allowed device.1.physicalAddress device.2 address := by
  induction each with
  | nil => exact .inl ⟨rfl, by simp⟩
  | @cons device entry devices entries head tail ih =>
      rw [getAccessTableEntry, head.allows]
      by_cases allowed : Allowed device.1.physicalAddress device.2 address
      · refine .inr ⟨entry, ?_, device, List.mem_cons_self, head, allowed⟩
        simp [allowed]
      · have next : (do
            let allowed ← some (decide (Allowed device.1.physicalAddress device.2 address))
            if allowed = true then some (some entry) else getAccessTableEntry address entries) =
            getAccessTableEntry address entries := by simp [allowed]
        rw [next]
        rcases ih with ⟨none, rest⟩ | ⟨found, same, other, member, entryFor, listed⟩
        · exact .inl ⟨none, List.forall_mem_cons.mpr ⟨allowed, rest⟩⟩
        · exact .inr ⟨found, same, other, List.mem_cons_of_mem _ member, entryFor, listed⟩

/-- All tables are built, and each has the entry of its device. -/
theorem accessTables_exists (consistent : layout.Consistent) :
    ∃ entries, layout.accessTables = some entries ∧
      List.Forall₂ EntryFor layout.devices entries := by
  have own (region : Region) {registers : List Nat} (member : (region, registers) ∈ layout.devices)
      (first : ∃ reg ∈ registers, reg < 32) :
      ∃ entry, layout.ownEntry region registers = some entry ∧ EntryFor (region, registers) entry := by
    obtain ⟨table, built⟩ :=
      accessTable_exists region.physicalAddress (consistent.buildable _ member)
    have entry : layout.ownEntry region registers = some _ := congrArg (Option.map _) built
    exact ⟨_, entry, ownEntry_for (consistent.room _ member) first entry⟩
  have shared (region : Region) {registers : List Nat}
      (member : (region, registers) ∈ layout.devices) :
      ∃ entry, layout.sharedEntry region registers = some entry ∧
        EntryFor (region, registers) entry := by
    obtain ⟨table, built⟩ := accessTable_exists 0 (consistent.buildable _ member)
    have entry : layout.sharedEntry region registers = some _ := congrArg (Option.map _) built
    exact ⟨_, entry, sharedEntry_for (consistent.room _ member) entry⟩
  have emcFirst : ∃ reg ∈ emcRegisters, reg < 32 :=
    ⟨0, List.mem_map.mpr ⟨0, List.mem_range.mpr (by decide), rfl⟩, by decide⟩
  obtain ⟨pmc, pmcBuilt, pmcFor⟩ := own pmcRegion (by simp [Layout.devices]) consistent.firsts.1
  obtain ⟨mc, mcBuilt, mcFor⟩ :=
    own Device.memoryController.region (by simp [Layout.devices]) consistent.firsts.2
  obtain ⟨emc, emcBuilt, emcFor⟩ :=
    own Device.externalMemoryController.region (by simp [Layout.devices]) emcFirst
  obtain ⟨emc1, emc1Built, emc1For⟩ :=
    own layout.externalMemoryController1 (by simp [Layout.devices]) emcFirst
  obtain ⟨emc2, emc2Built, emc2For⟩ :=
    own layout.externalMemoryController2 (by simp [Layout.devices]) emcFirst
  have mc01 {region : Region} (member : region = Device.memoryController0.region ∨
      region = Device.memoryController1.region) :=
    shared region (by simp [Layout.devices, member] : (region, layout.mc01Registers) ∈ layout.devices)
  obtain ⟨mc0, mc0Built, mc0For⟩ := mc01 (.inl rfl)
  obtain ⟨mc1, mc1Built, mc1For⟩ := mc01 (.inr rfl)
  refine ⟨[pmc, mc, emc, emc1, emc2, mc0, mc1], ?_,
    .cons pmcFor (.cons mcFor (.cons emcFor (.cons emc1For (.cons emc2For (.cons mc0For
      (.cons mc1For .nil))))))⟩
  simp only [Layout.accessTables, pmcBuilt, mcBuilt, emcBuilt, emc1Built, emc2Built, mc0Built,
    mc1Built, Option.bind_eq_bind, Option.bind_some]

/-- Nothing is changed but words of permitted registers. -/
def KeepsOthers (layout : Layout) (words after : Words) : Prop :=
  ∀ place, (∀ device ∈ layout.devices, ∀ offset < device.1.size,
      layout.isPermitted (device.1.physicalAddress + offset) = true →
        place ≠ device.1.virtualAddress + offset) →
    after place = words place

/-- A call does what the access does. -/
def Simulates (layout : Layout) (args : SmcArguments) (words physical : Words)
    (called : Option (SmcResult × SmcArguments × Words)) : Prop :=
  ∃ after, called =
      some ((layout.access args physical).1, (layout.access args physical).2.1, after) ∧
    Mapped layout after (layout.access args physical).2.2 ∧ KeepsOthers layout words after

theorem KeepsOthers.refl (layout : Layout) (words : Words) : KeepsOthers layout words words :=
  fun _ _ => rfl

theorem KeepsOthers.trans {middle after : Words} (first : KeepsOthers layout words middle)
    (second : KeepsOthers layout middle after) : KeepsOthers layout words after :=
  fun place other => (second place other).trans (first place other)

variable {args : SmcArguments}

theorem access_permitted (aligned : args.r1.toNat % 4 = 0)
    (permitted : layout.isPermitted args.r1.toNat = true) (physical : Words) :
    layout.access args physical =
      (.success,
        { args with
          r1 := (if args.r2.setWidth 32 = BitVec.allOnes 32 then 0
            else physical args.r1.toNat).setWidth 64 },
        Function.update physical args.r1.toNat
          ((physical args.r1.toNat &&& ~~~args.r2.setWidth 32) |||
            (args.r3.setWidth 32 &&& args.r2.setWidth 32))) := if_pos ⟨aligned, permitted⟩

theorem access_controlled (aligned : args.r1.toNat % 4 = 0)
    (refused : layout.isPermitted args.r1.toNat = false)
    (control : layout.isSmmuControl args.r1.toNat = true) (physical : Words) :
    layout.access args physical = (.success, args, physical) := by
  rw [Layout.access, if_neg (by simp [refused]), if_pos ⟨aligned, control⟩]

theorem access_refused (refused : args.r1.toNat % 4 ≠ 0 ∨
      layout.isPermitted args.r1.toNat = false ∧ layout.isSmmuControl args.r1.toNat = false)
    (physical : Words) : layout.access args physical = (.invalidArgument, args, physical) := by
  have permits : ¬(args.r1.toNat % 4 = 0 ∧ layout.isPermitted args.r1.toNat = true) := by
    rintro ⟨aligned, permitted⟩
    simp [aligned, permitted] at refused
  have controls : ¬(args.r1.toNat % 4 = 0 ∧ layout.isSmmuControl args.r1.toNat = true) := by
    rintro ⟨aligned, control⟩
    simp [aligned, control] at refused
  rw [Layout.access, if_neg permits, if_neg controls]

/-- The word of a device is exchanged at the one address as at the other. -/
theorem exchange_simulates (consistent : layout.Consistent) (mapped : Mapped layout words physical)
    {device : Region × List Nat} (member : device ∈ layout.devices) {offset : Nat}
    (inside : offset < device.1.size) (aligned : args.r1.toNat % 4 = 0)
    (address : args.r1.toNat = device.1.physicalAddress + offset)
    (permitted : layout.isPermitted args.r1.toNat = true) :
    Simulates layout args words physical
      (some (.success,
        { args with
          r1 := (exchange words (device.1.virtualAddress + offset) (args.r2.setWidth 32)
            (args.r3.setWidth 32)).1.setWidth 64 },
        (exchange words (device.1.virtualAddress + offset) (args.r2.setWidth 32)
          (args.r3.setWidth 32)).2)) := by
  have word := mapped device member offset inside
  rw [Simulates, access_permitted aligned permitted, exchange_fst, exchange_snd]
  simp only [address, word]
  refine ⟨_, rfl, mapped.update consistent member inside _, fun place other => ?_⟩
  exact Function.update_of_ne (other device member offset inside (address ▸ permitted)) _ _

theorem Layout.isSmmuControl_iff (layout : Layout) (address : Nat) :
    layout.isSmmuControl address = true ↔
      address = Device.memoryController.region.physicalAddress + layout.mcSmmuAvpcAsid ∨
        address = Device.memoryController.region.physicalAddress + layout.mcSmmuPpcs1Asid := by
  rw [isSmmuControl, Bool.or_eq_true, decide_eq_true_iff, decide_eq_true_iff]

/-- Without an entry an address is refused, or only said to be accessed, or at the controls. -/
theorem virtualAddress_none (layout : Layout) {memoryController : Region} {address : Nat}
    (control : Bool)
    (same : control = true ↔ address = memoryController.physicalAddress + layout.mcSmmuAvpcAsid ∨
      address = memoryController.physicalAddress + layout.mcSmmuPpcs1Asid)
    (small : layout.mcSmmuAvpcAsid < memoryController.size ∧
      layout.mcSmmuPpcs1Asid < memoryController.size)
    (room : memoryController.virtualAddress + memoryController.size ≤ 2 ^ 64) :
    control = false ∧ layout.virtualAddress memoryController none address = none ∨
      control = true ∧ layout.olderThan2 = false ∧
        layout.virtualAddress memoryController none address = some 0 ∨
      control = true ∧ layout.olderThan2 = true ∧
        ∃ offset < memoryController.size, address = memoryController.physicalAddress + offset ∧
          layout.virtualAddress memoryController none address =
            some (memoryController.virtualAddress + offset) := by
  cases control with
  | false =>
      have neither := mt same.mpr Bool.false_ne_true
      exact .inl ⟨rfl, if_pos neither⟩
  | true =>
      have either := same.mp rfl
      cases older : layout.olderThan2 with
      | false => exact .inr (.inl ⟨rfl, rfl, by simp [Layout.virtualAddress, either, older]⟩)
      | true =>
          have inside : address - memoryController.physicalAddress < memoryController.size := by
            omega
          refine .inr (.inr ⟨rfl, rfl, _, inside, by omega, ?_⟩)
          simp only [Layout.virtualAddress, either, older, not_true_eq_false, if_false, if_true]
          exact congrArg some (Nat.mod_eq_of_lt (by omega))

/-- One call over the virtual words is the access to the physical ones. -/
theorem smcReadWriteRegister_simulates (consistent : layout.Consistent)
    (each : List.Forall₂ EntryFor layout.devices entries) (mapped : Mapped layout words physical)
    (args : SmcArguments) :
    Simulates layout args words physical (smcReadWriteRegister layout entries args words) := by
  unfold smcReadWriteRegister
  by_cases misaligned : args.r1.toNat % 4 ≠ 0
  · rw [if_pos misaligned, Simulates, access_refused (.inl misaligned)]
    exact ⟨words, rfl, mapped, .refl layout words⟩
  have aligned := Classical.not_not.mp misaligned
  rw [if_neg misaligned]
  rcases getAccessTableEntry_spec args.r1.toNat each with
    ⟨none, unlisted⟩ | ⟨entry, found, device, member, entryFor, reg, listed, lower, upper⟩
  · have notListed : layout.isListed args.r1.toNat = false := by
      rw [Layout.isListed, List.any_eq_false]
      exact fun device member => by simpa using unlisted device member
    have member : (Device.memoryController.region, layout.mcRegisters) ∈ layout.devices := by
      simp [Layout.devices]
    have bounds := consistent.mapped _ member
    have control := layout.isSmmuControl_iff args.r1.toNat
    rw [none]
    rcases virtualAddress_none layout _ control consistent.smmu bounds.2 with
      ⟨other, refused⟩ | ⟨smmu, recent, ignored⟩ | ⟨smmu, older, offset, inside, address, placed⟩
    · have forbidden : layout.isPermitted args.r1.toNat = false := by
        simp [Layout.isPermitted, other, notListed]
      rw [Simulates, access_refused (.inr ⟨forbidden, other⟩)]
      simp only [Option.bind_eq_bind, Option.bind_some, refused]
      exact ⟨words, rfl, mapped, .refl layout words⟩
    · have forbidden : layout.isPermitted args.r1.toNat = false := by
        simp [Layout.isPermitted, recent, notListed]
      rw [Simulates, access_controlled aligned forbidden smmu]
      simp only [Option.bind_eq_bind, Option.bind_some, ignored, if_true]
      exact ⟨words, rfl, mapped, .refl layout words⟩
    · have permitted : layout.isPermitted args.r1.toNat = true := by
        simp [Layout.isPermitted, older, smmu]
      have nonzero : ¬Device.memoryController.region.virtualAddress + offset = 0 :=
        Nat.ne_of_gt (Nat.lt_of_lt_of_le bounds.1 (Nat.le_add_right _ _))
      have simulated := exchange_simulates consistent mapped member inside aligned address permitted
      simpa only [Option.bind_eq_bind, Option.bind_some, placed, nonzero, if_false] using simulated
  · have bounds := consistent.mapped device member
    have page := consistent.inside device member reg listed
    let offset := args.r1.toNat - device.1.physicalAddress
    have inside : offset < device.1.size := by omega
    have address : args.r1.toNat = device.1.physicalAddress + offset := by omega
    have placed : entry.virtualAddress + (args.r1.toNat - entry.address) =
        device.1.virtualAddress + offset := entryFor.places _ ⟨reg, listed, lower, upper⟩
    have whole : (device.1.virtualAddress + offset) % 2 ^ 64 = device.1.virtualAddress + offset :=
      Nat.mod_eq_of_lt (by omega)
    have nonzero : ¬device.1.virtualAddress + offset = 0 := by omega
    have permitted : layout.isPermitted args.r1.toNat = true := by
      rw [Layout.isPermitted, Bool.or_eq_true]
      refine .inl (List.any_eq_true.mpr ⟨device, member, decide_eq_true ?_⟩)
      exact ⟨reg, listed, lower, upper⟩
    have simulated := exchange_simulates consistent mapped member inside aligned address permitted
    rw [found]
    simpa only [Option.bind_eq_bind, Option.bind_some, Layout.virtualAddress, placed, whole, nonzero,
      if_false] using simulated

end

/-- What the lists and the regions of the channels have to be. -/
structure Layout.Sound (layout : Layout) : Prop where
  tableSize : layout.tableSize = 128
  buildable : ∀ registers ∈ [layout.pmcRegisters, layout.mcRegisters, layout.mc01Registers],
    Buildable 128 registers
  pmcInside : ∀ reg ∈ layout.pmcRegisters, reg + 4 ≤ 0xC00
  firsts : (∃ reg ∈ layout.pmcRegisters, reg < 32) ∧ ∃ reg ∈ layout.mcRegisters, reg < 32
  smmu : layout.mcSmmuAvpcAsid < 0x1000 ∧ layout.mcSmmuPpcs1Asid < 0x1000
  channels : ∀ region ∈ [layout.externalMemoryController1, layout.externalMemoryController2],
    region.size = 0x1000 ∧ region.physicalAddress + 0x1000 < 2 ^ 32 ∧
      0 < region.virtualAddress ∧ region.virtualAddress + 0x1000 ≤ 2 ^ 64 ∧
      ∀ placed ∈ allDeviceRegions, region.Apart placed.2
  channelsApart : layout.externalMemoryController1.Apart layout.externalMemoryController2

/-- The calls of a run, with what they answer. -/
def registerCalls (layout : Layout) (accessTables : List AccessTableEntry) :
    List SmcArguments → Words → Option (List (SmcResult × SmcArguments) × Words)
  | [], words => some ([], words)
  | args :: rest, words => do
      let (result, answer, words) ← smcReadWriteRegister layout accessTables args words
      let (answers, words) ← registerCalls layout accessTables rest words
      some ((result, answer) :: answers, words)

/-- The accesses of a run. -/
def Layout.accesses (layout : Layout) :
    List SmcArguments → Words → List (SmcResult × SmcArguments) × Words
  | [], words => ([], words)
  | args :: rest, words =>
      let (result, answer, words) := layout.access args words
      let (answers, words) := layout.accesses rest words
      ((result, answer) :: answers, words)

section

variable {layout : Layout} {entries : List AccessTableEntry} {words physical : Words}

theorem emcRegisters_buildable : Buildable 128 emcRegisters := by
  have bounded : ∀ reg ∈ emcRegisters, ∃ number < 1024, 4 * number = reg := by
    intro reg member
    obtain ⟨number, inside, same⟩ := List.mem_map.mp member
    exact ⟨number, List.mem_range.mp inside, same⟩
  refine ⟨⟨?_, ?_, ?_⟩, ?_, ?_⟩
  · exact List.pairwise_map.mpr (List.pairwise_lt_range.imp fun before => by omega)
  · rintro reg member
    obtain ⟨number, -, rfl⟩ := bounded reg member
    omega
  · rintro reg member
    obtain ⟨number, inside, rfl⟩ := bounded reg member
    omega
  · exact List.ne_nil_of_mem (List.mem_map.mpr ⟨0, List.mem_range.mpr (by decide), rfl⟩)
  · intro first _ last member
    obtain ⟨number, inside, rfl⟩ := bounded last member
    omega

/-- The regions that the memory layout gives the tables. -/
def fixedRegions : List Region :=
  [pmcRegion, Device.memoryController.region, Device.externalMemoryController.region,
   Device.memoryController0.region, Device.memoryController1.region]

theorem fixedRegions_within : ∀ region ∈ fixedRegions,
    region.physicalAddress + 0x1000 < 2 ^ 32 ∧ 0 < region.virtualAddress ∧
      region.virtualAddress + 0x1000 ≤ 2 ^ 64 := by
  decide

theorem fixedRegions_size :
    fixedRegions.map (·.size) = [0xC00, 0x1000, 0x1000, 0x1000, 0x1000] := by
  decide

theorem fixedRegions_apart : fixedRegions.Pairwise Region.Apart := by
  decide

/-- What is apart from all devices is apart from the regions of the tables. -/
theorem apart_fixedRegions {other : Region}
    (apart : ∀ placed ∈ allDeviceRegions, other.Apart placed.2) :
    ∀ region ∈ fixedRegions, other.Apart region := by
  have rtcPmc := apart (.rtcPmc, Device.rtcPmc.region) (by decide)
  have part := rtcPmc.symm.part (by decide : 0x400 + 0xC00 ≤ Device.rtcPmc.region.size)
  intro region member
  rcases List.mem_cons.mp member with rfl | rest
  · exact part.symm
  · obtain ⟨placed, placedMember, rfl⟩ : ∃ placed ∈ allDeviceRegions, placed.2 = region := by
      revert region
      decide
    exact apart placed placedMember

/-- The regions of the memory layout fit to what comes from outside. -/
theorem Layout.Sound.consistent (sound : layout.Sound) : layout.Consistent := by
  have buildable := sound.buildable
  simp only [List.forall_mem_cons, List.not_mem_nil, false_implies, implies_true, and_true]
    at buildable
  obtain ⟨pmc, mc, mc01⟩ := buildable
  have first := sound.channels layout.externalMemoryController1 (by simp)
  have second := sound.channels layout.externalMemoryController2 (by simp)
  have page {registers : List Nat} (buildable : Buildable 128 registers) :
      ∀ reg ∈ registers, reg + 4 ≤ 0x1000 := by
    intro reg member
    have inside := buildable.inside reg member
    have aligned := buildable.aligned reg member
    omega
  have within := fixedRegions_within
  have sizes := fixedRegions_size
  simp only [fixedRegions, List.forall_mem_cons, List.map_cons, List.map_nil, List.cons.injEq,
    and_true, List.not_mem_nil, false_implies, implies_true] at within sizes
  constructor
  · simp only [Layout.devices, List.forall_mem_cons, sound.tableSize]
    exact ⟨pmc, mc, emcRegisters_buildable, emcRegisters_buildable, emcRegisters_buildable, mc01, mc01,
      by simp⟩
  · simp only [Layout.devices, List.forall_mem_cons, sound.tableSize, List.not_mem_nil, false_implies,
      implies_true, and_true]
    omega
  · simp only [Layout.devices, List.forall_mem_cons, List.not_mem_nil, false_implies, implies_true,
      and_true, first.1, second.1, sizes]
    exact ⟨sound.pmcInside, page mc, page emcRegisters_buildable, page emcRegisters_buildable,
      page emcRegisters_buildable, page mc01, page mc01⟩
  · simp only [Layout.devices, List.forall_mem_cons, List.not_mem_nil, false_implies, implies_true,
      and_true, first.1, second.1, sizes]
    omega
  · have before := apart_fixedRegions first.2.2.2.2
    have beforeSecond := apart_fixedRegions second.2.2.2.2
    have apart := fixedRegions_apart
    have channels := sound.channelsApart
    simp only [fixedRegions, List.forall_mem_cons, List.pairwise_cons, List.not_mem_nil,
      false_implies, implies_true, and_true, List.Pairwise.nil] at before beforeSecond apart
    obtain ⟨pmc1, mc1, emc1, mc01, mc11⟩ := before
    obtain ⟨pmc2, mc2, emc2, mc02, mc12⟩ := beforeSecond
    obtain ⟨ofPmc, ofMc, ofEmc, ofMc0⟩ := apart
    simp only [Layout.devices, List.pairwise_cons, List.forall_mem_cons, List.not_mem_nil,
      false_implies, implies_true, and_true, List.Pairwise.nil]
    exact ⟨⟨ofPmc.1, ofPmc.2.1, pmc1.symm, pmc2.symm, ofPmc.2.2⟩,
      ⟨ofMc.1, mc1.symm, mc2.symm, ofMc.2⟩, ⟨emc1.symm, emc2.symm, ofEmc⟩,
      ⟨channels, mc01, mc11⟩, ⟨mc02, mc12⟩, ofMc0⟩
  · exact sound.firsts
  · rw [sizes.2.1]
    exact sound.smmu

theorem accesses_kept (calls : List SmcArguments) (physical : Words) {address : Nat}
    (forbidden : layout.isPermitted address = false) :
    (layout.accesses calls physical).2 address = physical address := by
  induction calls generalizing physical with
  | nil => rfl
  | cons args rest ih =>
      have first : (layout.access args physical).2.2 address = physical address := by
        by_cases permitted : args.r1.toNat % 4 = 0 ∧ layout.isPermitted args.r1.toNat = true
        · have other : address ≠ args.r1.toNat := by
            intro same
            rw [same, permitted.2] at forbidden
            contradiction
          rw [access_permitted permitted.1 permitted.2]
          exact Function.update_of_ne other _ _
        · rw [Layout.access, if_neg permitted]
          split <;> rfl
      exact (ih _).trans first

/-- Over any calls, what is answered and what is left in the devices is as for accesses to the
physical words, of which only the permitted ones are read or written. -/
theorem register_accesses_refine (layout : Layout) (sound : layout.Sound) :
    ∃ entries, layout.accessTables = some entries ∧
      ∀ calls words physical, Mapped layout words physical →
        ∃ after, registerCalls layout entries calls words =
            some ((layout.accesses calls physical).1, after) ∧
          Mapped layout after (layout.accesses calls physical).2 ∧
          KeepsOthers layout words after ∧
          ∀ address, layout.isPermitted address = false →
            (layout.accesses calls physical).2 address = physical address := by
  have consistent := sound.consistent
  obtain ⟨entries, built, each⟩ := accessTables_exists consistent
  refine ⟨entries, built, fun calls => ?_⟩
  induction calls with
  | nil => exact fun words physical mapped => ⟨words, rfl, mapped, .refl layout words, fun _ _ => rfl⟩
  | cons args rest ih =>
      intro words physical mapped
      obtain ⟨middle, called, middleMapped, middleKeeps⟩ :=
        smcReadWriteRegister_simulates consistent each mapped args
      obtain ⟨after, others, afterMapped, afterKeeps, -⟩ := ih middle _ middleMapped
      refine ⟨after, ?_, afterMapped, middleKeeps.trans afterKeeps, fun _ => accesses_kept _ _⟩
      simp only [registerCalls, called, others, Option.bind_eq_bind, Option.bind_some, Layout.accesses]

end

/-- The channels of the EMC behind the other devices. -/
def channelsLayout : Layout :=
  { externalMemoryController1 :=
      { physicalAddress := 0x7001E000, virtualAddress := 0x1F007D000, size := 0x1000 }
    externalMemoryController2 :=
      { physicalAddress := 0x7001F000, virtualAddress := 0x1F007F000, size := 0x1000 }
    tableSize := 128
    pmcRegisters := [0x0, 0xC, 0x14]
    mcRegisters := [0x0, 0x4, 0x8]
    mc01Registers := [0x64C, 0x650]
    mcSmmuAvpcAsid := 0x23C
    mcSmmuPpcs1Asid := 0x298
    olderThan2 := false }

theorem register_accesses_refine_channels :
    ∃ entries, channelsLayout.accessTables = some entries ∧
      ∀ calls words physical, Mapped channelsLayout words physical →
        ∃ after, registerCalls channelsLayout entries calls words =
            some ((channelsLayout.accesses calls physical).1, after) ∧
          Mapped channelsLayout after (channelsLayout.accesses calls physical).2 ∧
          KeepsOthers channelsLayout words after ∧
          ∀ address, channelsLayout.isPermitted address = false →
            (channelsLayout.accesses calls physical).2 address = physical address :=
  register_accesses_refine channelsLayout
    { tableSize := rfl
      buildable := by
        have built {registers : List Nat} (ascending : registers.Pairwise (· < ·))
            (aligned : ∀ reg ∈ registers, reg % 4 = 0) (inside : ∀ reg ∈ registers, reg / 32 < 128)
            (used : registers ≠ []) : Buildable 128 registers :=
          { ascending, aligned, inside, used
            short := fun _ _ last member => Nat.lt_add_left _ (inside last member) }
        simp only [List.forall_mem_cons]
        exact ⟨built (by decide) (by decide) (by decide) (by decide),
          built (by decide) (by decide) (by decide) (by decide),
          built (by decide) (by decide) (by decide) (by decide), by simp⟩
      pmcInside := by decide
      firsts := by decide
      smmu := by decide
      channels := by decide
      channelsApart := by decide }

theorem device_entries_exact_emc :
    (channelsLayout.ownEntry Device.externalMemoryController.region emcRegisters ≠ none ↔
        Buildable channelsLayout.tableSize emcRegisters) ∧
      (channelsLayout.sharedEntry Device.externalMemoryController.region emcRegisters ≠ none ↔
        Buildable channelsLayout.tableSize emcRegisters) ∧
      (∀ entry, channelsLayout.ownEntry Device.externalMemoryController.region emcRegisters =
          some entry →
        (∀ address, isAccessAllowed entry address = some (decide
          (Allowed Device.externalMemoryController.region.physicalAddress emcRegisters address))) ∧
        ((∀ address,
          Allowed Device.externalMemoryController.region.physicalAddress emcRegisters address →
          entry.target address = Device.externalMemoryController.region.virtualAddress +
            (address - Device.externalMemoryController.region.physicalAddress)) ↔
          ∃ reg ∈ emcRegisters, reg < 32)) ∧
      ∀ entry, channelsLayout.sharedEntry Device.externalMemoryController.region emcRegisters =
          some entry →
        EntryFor (Device.externalMemoryController.region, emcRegisters) entry :=
  device_entries_exact channelsLayout Device.externalMemoryController.region emcRegisters (by decide)

end HorizonOc.Secmon
