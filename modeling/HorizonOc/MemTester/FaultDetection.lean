import HorizonOc.MemTester.Tests

namespace HorizonOc.MemTester

open HorizonOc.Data

section

variable {σ : Type} {ram : Ram σ Word} {usable : Nat → Prop} {apart : Nat → Nat → Prop}
  {stick : Nat → Word → Word} {bufa bufb count : Nat} {memory : σ} {world : World σ}

theorem mem_both {first second : Nat} {change : Nat → Word → Word} {update : Nat × (Word → Word)} :
    update ∈ both first second count change ↔
      ∃ i < count, update = (wordAt first i, change i) ∨ update = (wordAt second i, change i) := by
  simp [both]

/-- All words of the two buffers are usable, and each is apart from all others. -/
structure Halves (usable : Nat → Prop) (apart : Nat → Nat → Prop) (bufa bufb count : Nat) :
    Prop where
  symmetric : ∀ {first second}, apart first second → apart second first
  usableFirst : ∀ i < count, usable (wordAt bufa i)
  usableSecond : ∀ i < count, usable (wordAt bufb i)
  first : ∀ i < count, ∀ k < count, i ≠ k → apart (wordAt bufa i) (wordAt bufa k)
  second : ∀ i < count, ∀ k < count, i ≠ k → apart (wordAt bufb i) (wordAt bufb k)
  cross : ∀ i < count, ∀ k < count, apart (wordAt bufa i) (wordAt bufb k)

theorem Halves.swap (halves : Halves usable apart bufa bufb count) :
    Halves usable apart bufb bufa count where
  symmetric := halves.symmetric
  usableFirst := halves.usableSecond
  usableSecond := halves.usableFirst
  first := halves.second
  second := halves.first
  cross i iInside k kInside := halves.symmetric (halves.cross k kInside i iInside)

theorem Halves.pairwise (halves : Halves usable apart bufa bufb count)
    (change : Nat → Word → Word) :
    (both bufa bufb count change).Pairwise fun first second => apart first.1 second.1 := by
  rw [both, List.pairwise_flatMap]
  constructor
  · intro i member
    have inside := List.mem_range.mp member
    simpa using halves.cross i inside i inside
  · refine List.Pairwise.imp_of_mem ?_ List.pairwise_lt_range
    intro i k iMember kMember before
    have iInside := List.mem_range.mp iMember
    have kInside := List.mem_range.mp kMember
    have ne := Nat.ne_of_lt before
    simp only [List.forall_mem_cons, List.not_mem_nil, false_implies, implies_true, and_true]
    exact ⟨⟨halves.first i iInside k kInside ne, halves.cross i iInside k kInside⟩,
      halves.symmetric (halves.cross k kInside i iInside), halves.second i iInside k kInside ne⟩

/-- A loop over both buffers leaves each word with what it lets through of its update. -/
theorem Halves.load (halves : Halves usable apart bufa bufb count)
    (keeps : ram.Keeps usable apart stick) (change : Nat → Word → Word) {i : Nat}
    (inside : i < count) :
    ram.load (ram.updateAll (both bufa bufb count change) memory) (wordAt bufa i) =
        stick (wordAt bufa i) (change i (ram.load memory (wordAt bufa i))) ∧
      ram.load (ram.updateAll (both bufa bufb count change) memory) (wordAt bufb i) =
        stick (wordAt bufb i) (change i (ram.load memory (wordAt bufb i))) := by
  have usableAll : ∀ update ∈ both bufa bufb count change, usable update.1 := by
    intro update member
    obtain ⟨k, kInside, rfl | rfl⟩ := mem_both.mp member
    · exact halves.usableFirst k kInside
    · exact halves.usableSecond k kInside
  have updated {update : Nat × (Word → Word)} (member : update ∈ both bufa bufb count change) :
      ram.load (ram.updateAll (both bufa bufb count change) memory) update.1 =
        stick update.1 (update.2 (ram.load memory update.1)) :=
    keeps.load_updated halves.symmetric usableAll (halves.pairwise change) member
  exact ⟨updated (mem_both.mpr ⟨i, inside, .inl rfl⟩), updated (mem_both.mpr ⟨i, inside, .inr rfl⟩)⟩

theorem compareRegions_eq_zero_iff :
    compareRegions ram bufa bufb count memory = 0 ↔
      ∀ i < count, ram.load memory (wordAt bufa i) = ram.load memory (wordAt bufb i) := by
  unfold compareRegions
  split
  · next same =>
      simp only [List.all_eq_true, List.mem_range, decide_eq_true_eq] at same
      exact ⟨fun _ => same, fun _ => rfl⟩
  · next differs =>
      simp only [List.all_eq_true, List.mem_range, decide_eq_true_eq] at differs
      exact ⟨fun impossible => by contradiction, fun same => absurd same differs⟩

/-- The words that a pattern lets both buffers show. -/
theorem Halves.compare_fill (halves : Halves usable apart bufa bufb count)
    (keeps : ram.Keeps usable apart stick) (pattern : Nat → Word) (memory : σ) :
    compareRegions ram bufa bufb count (fill ram bufa bufb count pattern memory) = 0 ↔
      ∀ i < count, stick (wordAt bufa i) (pattern i) = stick (wordAt bufb i) (pattern i) := by
  rw [compareRegions_eq_zero_iff]
  refine forall₂_congr fun i inside => ?_
  rw [fill, (halves.swap.load keeps (fun i _ => pattern i) inside).1,
    (halves.swap.load keeps (fun i _ => pattern i) inside).2]

/-- The rounds pass exactly if every pattern looks the same in both buffers. -/
theorem Halves.fillRounds_eq_zero_iff (halves : Halves usable apart bufa bufb count)
    (keeps : ram.Keeps usable apart stick) (pattern : Nat → Nat → Word) (rounds : List Nat)
    (world : World σ) :
    (fillRounds ram pattern bufa bufb count rounds world).1 = 0 ↔
      ∀ j ∈ rounds, ∀ i < count,
        stick (wordAt bufa i) (pattern j i) = stick (wordAt bufb i) (pattern j i) := by
  induction rounds generalizing world with
  | nil => simp [fillRounds]
  | cons j rest ih =>
      have round := halves.compare_fill keeps (pattern j) world.memory
      rw [fillRounds, List.forall_mem_cons, ← round]
      dsimp only
      by_cases same : compareRegions ram bufa bufb count
          (fill ram bufa bufb count (pattern j) world.memory) = 0
      · rw [if_neg (Classical.not_not.mpr same), ih, and_iff_right same]
      · rw [if_pos same]
        simp [same]

end

section

variable {hardware : Hardware 64} {bufa bufb count dividend : Nat}

/-- The words of two buffers that do not overlap have cells of their own. -/
structure OwnCells (hardware : Hardware 64) (bufa bufb count : Nat) : Prop where
  order : bufa + 8 * count ≤ bufb
  first : ∀ i < count, ∀ k < count,
    hardware.cell (wordAt bufa i) = hardware.cell (wordAt bufa k) → i = k
  second : ∀ i < count, ∀ k < count,
    hardware.cell (wordAt bufb i) = hardware.cell (wordAt bufb k) → i = k
  cross : ∀ i < count, ∀ k < count,
    hardware.cell (wordAt bufa i) ≠ hardware.cell (wordAt bufb k)

/-- A word of one of the buffers. -/
def OfBuffers (bufa bufb count place : Nat) : Prop :=
  ∃ i < count, place = wordAt bufa i ∨ place = wordAt bufb i

theorem OwnCells.halves (own : OwnCells hardware bufa bufb count) :
    Halves (OfBuffers bufa bufb count) (· ≠ ·) bufa bufb count where
  symmetric := Ne.symm
  usableFirst i inside := ⟨i, inside, .inl rfl⟩
  usableSecond i inside := ⟨i, inside, .inr rfl⟩
  first i _ k _ ne same := by
    unfold wordAt at same
    omega
  second i _ k _ ne same := by
    unfold wordAt at same
    omega
  cross i iInside k kInside same := own.cross i iInside k kInside (congrArg hardware.cell same)

theorem OwnCells.keeps (own : OwnCells hardware bufa bufb count) :
    hardware.ram.Keeps (OfBuffers bufa bufb count) (· ≠ ·) hardware.stick := by
  refine hardware.keeps ?_
  rintro place other ⟨i, iInside, rfl | rfl⟩ ⟨k, kInside, rfl | rfl⟩ same
  · rw [own.first i iInside k kInside same]
  · exact absurd same (own.cross i iInside k kInside)
  · exact absurd same.symm (own.cross k kInside i iInside)
  · rw [own.second i iInside k kInside same]

/-- Both buffers have the same faults at every place. -/
def SameHalves (hardware : Hardware 64) (bufa bufb count : Nat) : Prop :=
  ∀ i < count, hardware.SameFaults (wordAt bufa i) (wordAt bufb i)

/-- The rounds show a bit of a place in a value. -/
def Shows (pattern : Nat → Nat → Word) (rounds i bit : Nat) (shown : Bool) : Prop :=
  ∃ j < rounds, (pattern j i).getLsbD bit = shown

/-- A pattern passes exactly if the bits that it shows go the same way through both buffers. -/
theorem OwnCells.fillRounds_eq_zero_iff (own : OwnCells hardware bufa bufb count)
    (pattern : Nat → Nat → Word) (rounds : Nat) (world : World (Nat → Word)) :
    (fillRounds hardware.ram pattern bufa bufb count (List.range rounds) world).1 = 0 ↔
      ∀ i < count, ∀ bit < 64, ∀ shown, Shows pattern rounds i bit shown →
        hardware.passes (wordAt bufa i) bit shown = hardware.passes (wordAt bufb i) bit shown := by
  rw [own.halves.fillRounds_eq_zero_iff own.keeps]
  have place (i : Nat) := hardware.stick_eq_iff (wordAt bufa i) (wordAt bufb i)
    fun word => ∃ j < rounds, pattern j i = word
  constructor
  · rintro same i inside bit bitInside shown ⟨j, below, shows⟩
    refine (place i).mp ?_ bit bitInside shown ⟨_, ⟨j, below, rfl⟩, shows⟩
    rintro _ ⟨other, otherBelow, rfl⟩
    exact same other (List.mem_range.mpr otherBelow) i inside
  · intro passes j member i inside
    refine (place i).mpr ?_ _ ⟨j, List.mem_range.mp member, rfl⟩
    rintro bit bitInside shown ⟨_, ⟨other, below, rfl⟩, shows⟩
    exact passes i inside bit bitInside shown ⟨other, below, shows⟩

/-- One that shows every bit in both values finds every difference of the faults. -/
theorem OwnCells.finds (own : OwnCells hardware bufa bufb count) {pattern : Nat → Nat → Word}
    {rounds : Nat} (shows : ∀ i, ∀ bit < 64, ∀ shown, Shows pattern rounds i bit shown)
    (world : World (Nat → Word)) :
    (fillRounds hardware.ram pattern bufa bufb count (List.range rounds) world).1 = 0 ↔
      SameHalves hardware bufa bufb count := by
  rw [own.fillRounds_eq_zero_iff]
  refine forall₂_congr fun i _ => ?_
  rw [hardware.sameFaults_iff]
  exact forall₂_congr fun bit inside =>
    ⟨fun same shown => same shown (shows i bit inside shown), fun same shown _ => same shown⟩

/-- Two rounds that are each other's complement. -/
theorem shows_of_complement {pattern : Nat → Nat → Word} {rounds : Nat} (enough : 2 ≤ rounds)
    (complement : ∀ i, pattern 1 i = ~~~pattern 0 i) :
    ∀ i, ∀ bit < 64, ∀ shown, Shows pattern rounds i bit shown := by
  intro i bit inside shown
  have flipped : (pattern 1 i).getLsbD bit = !(pattern 0 i).getLsbD bit := by
    rw [complement, BitVec.getLsbD_not]
    simp [inside]
  by_cases same : (pattern 0 i).getLsbD bit = shown
  · exact ⟨0, by omega, same⟩
  · refine ⟨1, by omega, ?_⟩
    rw [flipped]
    exact Bool.not_eq.mpr same

theorem solidbits_complement (i : Nat) : solidbits 1 i = ~~~solidbits 0 i := by
  unfold solidbits
  by_cases even : i % 2 = 0
  · simp only [even, if_true]
    decide
  · simp only [even, if_false]
    decide

theorem checkerboard_complement (i : Nat) : checkerboard 1 i = ~~~checkerboard 0 i := by
  unfold checkerboard
  by_cases even : i % 2 = 0
  · simp only [even, if_true]
    decide
  · simp only [even, if_false]
    decide

theorem bitflip_complement (i : Nat) : bitflip 1 i = ~~~bitflip 0 i := by
  unfold bitflip
  by_cases even : i % 2 = 0
  · simp only [even, if_true]
    decide
  · simp only [even, if_false]
    decide

theorem getLsbD_oneShl (n bit : Nat) :
    (oneShl n).getLsbD bit = decide (bit = n % 64) := by
  rw [oneShl, ulLen, BitVec.getLsbD_shiftLeft, BitVec.getLsbD_one]
  by_cases same : bit = n % 64
  · rw [same]
    simp [Nat.mod_lt n]
  · simp only [same, decide_false, Bool.and_eq_false_iff, Bool.not_eq_false', decide_eq_true_eq,
      decide_eq_false_iff_not]
    omega

theorem getLsbD_ulOnebits_xor (word : Word) {bit : Nat} (inside : bit < 64) :
    (ulOnebits ^^^ word).getLsbD bit = !word.getLsbD bit := by
  rw [BitVec.getLsbD_xor, ulOnebits, BitVec.getLsbD_allOnes, decide_eq_true inside, Bool.true_xor]

theorem walkbits0_shows (i bit : Nat) (inside : bit < 64) (shown : Bool) :
    Shows walkbits0 128 i bit shown := by
  have walks {j : Nat} (below : j < 64) : (walkbits0 j i).getLsbD bit = decide (bit = j) := by
    rw [walkbits0, ulLen, if_pos below, getLsbD_oneShl j, Nat.mod_eq_of_lt below]
  cases shown with
  | true => exact ⟨bit, by omega, by rw [walks inside]; exact decide_eq_true rfl⟩
  | false =>
      have below : (bit + 1) % 64 < 64 := Nat.mod_lt _ (by decide)
      exact ⟨(bit + 1) % 64, by omega, by rw [walks below]; exact decide_eq_false (by omega)⟩

theorem walkbits1_shows (i bit : Nat) (inside : bit < 64) (shown : Bool) :
    Shows walkbits1 128 i bit shown := by
  obtain ⟨j, below, shows⟩ := walkbits0_shows i bit inside (!shown)
  refine ⟨j, below, ?_⟩
  have flipped : walkbits1 j i = ulOnebits ^^^ walkbits0 j i := by
    unfold walkbits1 walkbits0
    split <;> rfl
  rw [flipped, getLsbD_ulOnebits_xor _ inside, shows, Bool.not_not]

theorem bitspread_shows (i bit : Nat) (inside : bit < 64) (shown : Bool) :
    Shows bitspread 128 i bit shown := by
  have spread {j : Nat} (below : j < 64) : (oneShl j ||| oneShl (j + 2)).getLsbD bit =
      (decide (bit = j) || decide (bit = (j + 2) % 64)) := by
    rw [BitVec.getLsbD_or, getLsbD_oneShl j, getLsbD_oneShl (j + 2),
      Nat.mod_eq_of_lt below]
  have places (wanted : Bool) : ∃ j < 64, (oneShl j ||| oneShl (j + 2)).getLsbD bit = wanted := by
    cases wanted with
    | true => exact ⟨bit, inside, by rw [spread inside]; simp⟩
    | false =>
        have below : (bit + 1) % 64 < 64 := Nat.mod_lt _ (by decide)
        refine ⟨(bit + 1) % 64, below, ?_⟩
        rw [spread below, decide_eq_false (by omega), decide_eq_false (by omega), Bool.or_self]
  by_cases even : i % 2 = 0
  · obtain ⟨j, below, shows⟩ := places shown
    exact ⟨j, by omega, by rw [bitspread, ulLen, if_pos below, if_pos even, shows]⟩
  · obtain ⟨j, below, shows⟩ := places !shown
    refine ⟨j, by omega, ?_⟩
    rw [bitspread, ulLen, if_pos below, if_neg even, getLsbD_ulOnebits_xor _ inside, shows,
      Bool.not_not]

theorem getLsbD_ulByte : ∀ x < 64, ∀ bit < 64,
    (ulByte (.ofNat 64 x)).getLsbD bit = x.testBit (bit % 8) := by
  decide +kernel

/-- The block sequence stops before the two highest bits of a byte. -/
theorem blockseq_shows_iff (i bit : Nat) (inside : bit < 64) (shown : Bool) :
    Shows blockseq 64 i bit shown ↔ (shown = true → bit % 8 < 6) := by
  unfold Shows blockseq
  constructor
  · rintro ⟨j, below, shows⟩ rfl
    rw [getLsbD_ulByte j below bit inside] at shows
    have power := Nat.ge_two_pow_of_testBit shows
    by_contra high
    have least : 2 ^ 6 ≤ 2 ^ (bit % 8) := Nat.pow_le_pow_right (by decide) (by omega)
    omega
  · intro low
    cases shown with
    | true =>
        have power : 2 ^ (bit % 8) < 2 ^ 6 := Nat.pow_lt_pow_right (by decide) (low rfl)
        refine ⟨2 ^ (bit % 8), power, ?_⟩
        rw [getLsbD_ulByte _ power bit inside]
        exact Nat.testBit_two_pow_self
    | false =>
        refine ⟨0, by decide, ?_⟩
        rw [getLsbD_ulByte 0 (by decide) bit inside]
        exact Nat.zero_testBit _

end

/-- With bits that are stuck in any way, each of these tests passes exactly if both buffers have the
same faults: solid bits, checkerboard and bit flip in the long and in the fast test, the walking
bits and bit spread in the long one.  Block sequence does not see what is stuck at zero in the two
highest bits of a byte. -/
theorem patterns_find_faults (hardware : Hardware 64) (bufa bufb count : Nat)
    (own : OwnCells hardware bufa bufb count) (world : World (Nat → Word)) :
    (∀ dividend, 2 ≤ 64 / dividend / dividend →
      ((testSolidbitsComparison hardware.ram dividend bufa bufb count world).1 = 0 ↔
          SameHalves hardware bufa bufb count) ∧
        ((testCheckerboardComparison hardware.ram dividend bufa bufb count world).1 = 0 ↔
          SameHalves hardware bufa bufb count) ∧
        ((testBitflipComparison hardware.ram dividend bufa bufb count world).1 = 0 ↔
          SameHalves hardware bufa bufb count)) ∧
      ((testWalkbits0Comparison hardware.ram 1 bufa bufb count world).1 = 0 ↔
          SameHalves hardware bufa bufb count) ∧
      ((testWalkbits1Comparison hardware.ram 1 bufa bufb count world).1 = 0 ↔
          SameHalves hardware bufa bufb count) ∧
      ((testBitspreadComparison hardware.ram 1 bufa bufb count world).1 = 0 ↔
          SameHalves hardware bufa bufb count) ∧
      ((testBlockseqComparison hardware.ram 1 bufa bufb count world).1 = 0 ↔
          ∀ i < count, ∀ bit < 64, ∀ shown, (shown = true → bit % 8 < 6) →
            hardware.passes (wordAt bufa i) bit shown =
              hardware.passes (wordAt bufb i) bit shown) := by
  refine ⟨fun dividend enough => ⟨?_, ?_, ?_⟩, own.finds walkbits0_shows world,
    own.finds walkbits1_shows world, own.finds bitspread_shows world, ?_⟩
  · exact own.finds (shows_of_complement enough solidbits_complement) world
  · exact own.finds (shows_of_complement enough checkerboard_complement) world
  · have flips : 2 ≤ ulLen / dividend / dividend * 8 := by
      unfold ulLen
      omega
    exact own.finds (shows_of_complement flips bitflip_complement) world
  · refine (own.fillRounds_eq_zero_iff blockseq 64 world).trans ?_
    refine forall₂_congr fun i _ => forall₂_congr fun bit inside => forall_congr' fun shown => ?_
    rw [blockseq_shows_iff i bit inside shown]

/-- The lowest bit of the second word is stuck at zero. -/
def brokenWord : Hardware 64 where
  cell place := place
  stuck place := if place = 8 then 1 else 0
  value _ := 0

theorem patterns_find_faults_brokenWord :
    (∀ dividend, 2 ≤ 64 / dividend / dividend →
      ((testSolidbitsComparison brokenWord.ram dividend 0 32 4 ⟨fun _ => 0, 0⟩).1 = 0 ↔
          SameHalves brokenWord 0 32 4) ∧
        ((testCheckerboardComparison brokenWord.ram dividend 0 32 4 ⟨fun _ => 0, 0⟩).1 = 0 ↔
          SameHalves brokenWord 0 32 4) ∧
        ((testBitflipComparison brokenWord.ram dividend 0 32 4 ⟨fun _ => 0, 0⟩).1 = 0 ↔
          SameHalves brokenWord 0 32 4)) ∧
      ((testWalkbits0Comparison brokenWord.ram 1 0 32 4 ⟨fun _ => 0, 0⟩).1 = 0 ↔
          SameHalves brokenWord 0 32 4) ∧
      ((testWalkbits1Comparison brokenWord.ram 1 0 32 4 ⟨fun _ => 0, 0⟩).1 = 0 ↔
          SameHalves brokenWord 0 32 4) ∧
      ((testBitspreadComparison brokenWord.ram 1 0 32 4 ⟨fun _ => 0, 0⟩).1 = 0 ↔
          SameHalves brokenWord 0 32 4) ∧
      ((testBlockseqComparison brokenWord.ram 1 0 32 4 ⟨fun _ => 0, 0⟩).1 = 0 ↔
          ∀ i < 4, ∀ bit < 64, ∀ shown, (shown = true → bit % 8 < 6) →
            brokenWord.passes (wordAt 0 i) bit shown =
              brokenWord.passes (wordAt 32 i) bit shown) :=
  patterns_find_faults brokenWord 0 32 4
    { order := by decide, first := by decide, second := by decide, cross := by decide }
    ⟨fun _ => 0, 0⟩

end HorizonOc.MemTester
