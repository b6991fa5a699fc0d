import HorizonOc.MemTester.Tests

namespace HorizonOc.MemTester

open HorizonOc.Data

section

variable {σ : Type} {ram : Ram σ Word} {bufa count : Nat}

/-- The words of a round as they are written. -/
def stuckAddressUpdates (j bufa count : Nat) : List (Nat × (Word → Word)) :=
  (List.range count).map fun i => (wordAt bufa i, fun _ => stuckAddressWord j bufa i)

/-- What was written is read back. -/
def ReadsBack (ram : Ram σ Word) (j bufa count : Nat) (memory : σ) : Prop :=
  ∀ i < count, ram.load memory (wordAt bufa i) = stuckAddressWord j bufa i

theorem stuckAddressRounds_cons (j : Nat) (rest : List Nat) (world : World σ) :
    (ReadsBack ram j bufa count (ram.updateAll (stuckAddressUpdates j bufa count) world.memory) ∧
        stuckAddressRounds ram bufa count (j :: rest) world =
          stuckAddressRounds ram bufa count rest
            { world with memory := ram.updateAll (stuckAddressUpdates j bufa count) world.memory }) ∨
      (stuckAddressRounds ram bufa count (j :: rest) world).1 = -1 := by
  by_cases same : ((List.range count).all fun i => ram.load
      (ram.updateAll (stuckAddressUpdates j bufa count) world.memory) (wordAt bufa i) =
        stuckAddressWord j bufa i) = true
  · have back := same
    simp only [List.all_eq_true, List.mem_range, decide_eq_true_eq] at back
    exact .inl ⟨back, if_pos same⟩
  · exact .inr (congrArg Prod.fst (if_neg same))

/-- Where the test passes, each round was read back from some memory. -/
theorem readsBack_of_passed {rounds : List Nat} {world : World σ}
    (passed : (stuckAddressRounds ram bufa count rounds world).1 = 0) :
    ∀ j ∈ rounds, ∃ memory, ReadsBack ram j bufa count memory := by
  induction rounds generalizing world with
  | nil => simp
  | cons j rest ih =>
      rcases stuckAddressRounds_cons j rest world with ⟨back, same⟩ | failed
      · rw [same] at passed
        exact List.forall_mem_cons.mpr ⟨⟨_, back⟩, ih passed⟩
      · rw [failed] at passed
        contradiction

/-- Where each round is read back, whatever was in the memory, the test passes. -/
theorem passed_of_readsBack {rounds : List Nat}
    (back : ∀ j memory, ReadsBack ram j bufa count
      (ram.updateAll (stuckAddressUpdates j bufa count) memory)) (world : World σ) :
    (stuckAddressRounds ram bufa count rounds world).1 = 0 := by
  induction rounds generalizing world with
  | nil => rfl
  | cons j rest ih =>
      have same : ((List.range count).all fun i => ram.load
          (ram.updateAll (stuckAddressUpdates j bufa count) world.memory) (wordAt bufa i) =
            stuckAddressWord j bufa i) = true := by
        simp only [List.all_eq_true, List.mem_range, decide_eq_true_eq]
        exact back j world.memory
      exact (congrArg Prod.fst (if_pos same)).trans (ih _)

/-- A memory that keeps words at places of their own passes. -/
theorem stuckAddress_passes {usable : Nat → Prop} {apart : Nat → Nat → Prop}
    {stick : Nat → Word → Word} (keeps : ram.Keeps usable apart stick)
    (symmetric : ∀ {first second}, apart first second → apart second first)
    (usableAll : ∀ i < count, usable (wordAt bufa i))
    (own : ∀ i < count, ∀ k < count, i ≠ k → apart (wordAt bufa i) (wordAt bufa k))
    (sound : ∀ i < count, ∀ word, stick (wordAt bufa i) word = word) (rounds : List Nat)
    (world : World σ) : (stuckAddressRounds ram bufa count rounds world).1 = 0 := by
  refine passed_of_readsBack (fun j memory i inside => ?_) world
  have pairwise : (stuckAddressUpdates j bufa count).Pairwise
      fun first second => apart first.1 second.1 := by
    rw [stuckAddressUpdates, List.pairwise_map]
    refine List.Pairwise.imp_of_mem ?_ List.pairwise_lt_range
    intro i k iMember kMember before
    exact own i (List.mem_range.mp iMember) k (List.mem_range.mp kMember) (Nat.ne_of_lt before)
  have usableUpdates : ∀ update ∈ stuckAddressUpdates j bufa count, usable update.1 := by
    intro update member
    obtain ⟨k, kMember, rfl⟩ := List.mem_map.mp member
    exact usableAll k (List.mem_range.mp kMember)
  have member : (wordAt bufa i, fun _ => stuckAddressWord j bufa i) ∈
      stuckAddressUpdates j bufa count := List.mem_map.mpr ⟨i, List.mem_range.mpr inside, rfl⟩
  exact (keeps.load_updated symmetric usableUpdates pairwise member).trans (sound i inside _)

theorem stuckAddressWord_next (bufa i : Nat) :
    stuckAddressWord 1 bufa i = ~~~stuckAddressWord 0 bufa i := by
  unfold stuckAddressWord
  by_cases even : i % 2 = 0
  · rw [if_neg (by omega), if_pos (by omega)]
  · rw [if_pos (by omega), if_neg (by omega), BitVec.not_not]

/-- Two addresses in the lower half are not each other's complement. -/
theorem stuckAddressWord_inj (room : bufa + 8 * count ≤ 2 ^ 63) {i k : Nat} (iInside : i < count)
    (kInside : k < count) (same : stuckAddressWord 0 bufa i = stuckAddressWord 0 bufa k) :
    i = k := by
  have number {n : Nat} (inside : n < count) :
      (BitVec.ofNat 64 (wordAt bufa n)).toNat = wordAt bufa n := by
    rw [BitVec.toNat_ofNat]
    unfold wordAt
    exact Nat.mod_eq_of_lt (by omega)
  have words := congrArg BitVec.toNat same
  unfold stuckAddressWord at words
  split at words <;> split at words
  · rw [number iInside, number kInside] at words
    unfold wordAt at words
    omega
  · rw [BitVec.toNat_not, number iInside, number kInside] at words
    unfold wordAt at words
    omega
  · rw [BitVec.toNat_not, number iInside, number kInside] at words
    unfold wordAt at words
    omega
  · rw [BitVec.toNat_not, BitVec.toNat_not, number iInside, number kInside] at words
    unfold wordAt at words
    omega

end

/-- With two rounds or more the test passes exactly if each word has a cell of its own and no bit of
them is stuck. -/
theorem stuck_address_exact (hardware : Hardware 64) (bufa count dividend : Nat)
    (room : bufa + 8 * count ≤ 2 ^ 63) (rounds : 2 ≤ 16 / dividend)
    (world : World (Nat → Word)) :
    (testStuckAddress hardware.ram dividend bufa count world).1 = 0 ↔
      (∀ i < count, ∀ k < count,
          hardware.cell (wordAt bufa i) = hardware.cell (wordAt bufa k) → i = k) ∧
        ∀ i < count, hardware.stuck (hardware.cell (wordAt bufa i)) = 0 := by
  constructor
  · intro passed
    have back := readsBack_of_passed passed
    obtain ⟨first, firstBack⟩ := back 0 (List.mem_range.mpr (by omega))
    obtain ⟨second, secondBack⟩ := back 1 (List.mem_range.mpr (by omega))
    constructor
    · intro i iInside k kInside same
      refine stuckAddressWord_inj room iInside kInside ?_
      rw [← firstBack i iInside, ← firstBack k kInside]
      simp only [Hardware.ram, Hardware.stick, same]
    · intro i inside
      refine BitVec.eq_of_getLsbD_eq fun bit bitInside => ?_
      have zero := congrArg (·.getLsbD bit) (firstBack i inside)
      have one := congrArg (·.getLsbD bit) (secondBack i inside)
      rw [stuckAddressWord_next, BitVec.getLsbD_not, decide_eq_true bitInside, Bool.true_and] at one
      simp only [Hardware.ram, hardware.getLsbD_stick _ _ bitInside, Hardware.passes] at zero one
      rw [BitVec.ofNat_eq_ofNat, BitVec.getLsbD_zero]
      by_contra stuck
      rw [if_pos (Bool.not_eq_false _ ▸ stuck)] at zero one
      rw [zero] at one
      exact absurd one (by simp)
  · rintro ⟨own, sound⟩
    have keeps : hardware.ram.Keeps (fun place => ∃ i < count, place = wordAt bufa i) (· ≠ ·)
        hardware.stick := by
      refine hardware.keeps ?_
      rintro _ _ ⟨i, iInside, rfl⟩ ⟨k, kInside, rfl⟩ same
      rw [own i iInside k kInside same]
    refine stuckAddress_passes keeps Ne.symm (fun i inside => ⟨i, inside, rfl⟩) ?_
      (fun i inside => hardware.stick_of_sound (sound i inside)) _ world
    intro i _ k _ ne same
    unfold wordAt at same
    omega

/-- The fourth address line is not connected. -/
def openLine : Hardware 64 where
  cell place := place % 8 + place / 16 * 16
  stuck _ := 0
  value _ := 0

theorem stuck_address_exact_openLine :
    (testStuckAddress openLine.ram 4 0 4 ⟨fun _ => 0, 0⟩).1 = 0 ↔
      (∀ i < 4, ∀ k < 4, openLine.cell (wordAt 0 i) = openLine.cell (wordAt 0 k) → i = k) ∧
        ∀ i < 4, openLine.stuck (openLine.cell (wordAt 0 i)) = 0 :=
  stuck_address_exact openLine 0 4 4 (by decide) (by decide) ⟨fun _ => 0, 0⟩

end HorizonOc.MemTester
