import HorizonOc.MemTester.FaultDetection
import HorizonOc.MemTester.StuckAddress

namespace HorizonOc.MemTester

open HorizonOc.Data

/-- What is written is read back, and words that do not overlap do not touch each other. -/
abbrev Sound {σ : Type} (ram : Ram σ Word) : Prop :=
  ram.Keeps (fun _ => True) (BytesApart 8) fun _ word => word

section

variable {σ : Type} {ram : Ram σ Word} {bufa bufb count dividend : Nat} {random : Nat → Word}
  {memory : σ} {world : World σ}

theorem BytesApart.symm {first second : Nat} (apart : BytesApart 8 first second) :
    BytesApart 8 second first := Or.symm apart

/-- The second half lies behind the first one. -/
theorem halves_of_order (order : bufa + 8 * count ≤ bufb) :
    Halves (fun _ => True) (BytesApart 8) bufa bufb count where
  symmetric := BytesApart.symm
  usableFirst _ _ := trivial
  usableSecond _ _ := trivial
  first i _ k _ ne := by
    unfold BytesApart wordAt
    omega
  second i _ k _ ne := by
    unfold BytesApart wordAt
    omega
  cross i _ k _ := by
    unfold BytesApart wordAt
    omega

/-- Both halves hold the same words. -/
def Agree (ram : Ram σ Word) (bufa bufb count : Nat) (memory : σ) : Prop :=
  ∀ i < count, ram.load memory (wordAt bufa i) = ram.load memory (wordAt bufb i)

/-- A test that does not fail where both halves hold the same words, and leaves them so. -/
def Holds (ram : Ram σ Word) (bufa bufb count : Nat) (ran : Int × World σ) : Prop :=
  ran.1 = 0 ∧ Agree ram bufa bufb count ran.2.memory

theorem compareRegions_of_agree (agree : Agree ram bufa bufb count memory) :
    compareRegions ram bufa bufb count memory = 0 := compareRegions_eq_zero_iff.mpr agree

/-- What is filled agrees, whatever was there. -/
theorem fill_agree (sound : Sound ram) (order : bufa + 8 * count ≤ bufb) (pattern : Nat → Word)
    (memory : σ) : Agree ram bufa bufb count (fill ram bufa bufb count pattern memory) :=
  compareRegions_eq_zero_iff.mp
    (((halves_of_order order).compare_fill sound pattern memory).mpr fun _ _ => rfl)

theorem fillRounds_holds (sound : Sound ram) (order : bufa + 8 * count ≤ bufb)
    (pattern : Nat → Nat → Word) (rounds : List Nat) (agree : Agree ram bufa bufb count world.memory) :
    Holds ram bufa bufb count (fillRounds ram pattern bufa bufb count rounds world) := by
  induction rounds generalizing world with
  | nil => exact ⟨rfl, agree⟩
  | cons j rest ih =>
      have filled := fill_agree sound order (pattern j) world.memory
      rw [fillRounds]
      dsimp only
      rw [if_neg (Classical.not_not.mpr (compareRegions_of_agree filled))]
      exact ih filled

theorem testRandomValue_holds (sound : Sound ram) (order : bufa + 8 * count ≤ bufb) :
    Holds ram bufa bufb count (testRandomValue ram random bufa bufb count world) := by
  have filled := fill_agree sound order (fun i => random (world.drawn + i)) world.memory
  exact ⟨compareRegions_of_agree filled, filled⟩

theorem testSeqincComparison_holds (sound : Sound ram) (order : bufa + 8 * count ≤ bufb) :
    Holds ram bufa bufb count (testSeqincComparison ram random bufa bufb count world) := by
  have filled := fill_agree sound order (fun i => .ofNat 64 i + random world.drawn) world.memory
  exact ⟨compareRegions_of_agree filled, filled⟩

/-- The same change of equal words. -/
theorem changeComparison_holds (sound : Sound ram) (order : bufa + 8 * count ≤ bufb)
    (change : Word → Word → Word) (agree : Agree ram bufa bufb count world.memory) :
    Holds ram bufa bufb count (changeComparison ram random change bufa bufb count world) := by
  have changed : Agree ram bufa bufb count (ram.updateAll
      (both bufa bufb count fun _ word => change word (random world.drawn)) world.memory) := by
    intro i inside
    have halves := halves_of_order order
    let changeAll : Nat → Word → Word := fun _ word => change word (random world.drawn)
    rw [(halves.load sound changeAll inside).1, (halves.load sound changeAll inside).2,
      agree i inside]
  exact ⟨compareRegions_of_agree changed, changed⟩

theorem memset_load (sound : Sound ram) (buf : Nat) (q : Word) {i : Nat} (inside : i < count) :
    ram.load (memset ram buf count q memory) (wordAt buf i) = memsetWord q := by
  have pairwise : ((List.range count).map fun i => (wordAt buf i, fun _ : Word => memsetWord q)).Pairwise
      fun first second => BytesApart 8 first.1 second.1 := by
    rw [List.pairwise_map]
    refine List.Pairwise.imp_of_mem ?_ List.pairwise_lt_range
    intro first second _ _ before
    unfold BytesApart wordAt
    omega
  have member : (wordAt buf i, fun _ : Word => memsetWord q) ∈
      (List.range count).map fun i => (wordAt buf i, fun _ : Word => memsetWord q) :=
    List.mem_map.mpr ⟨i, List.mem_range.mpr inside, rfl⟩
  exact sound.load_updated BytesApart.symm (fun _ _ => trivial) pairwise member

theorem memset_away (sound : Sound ram) (buf : Nat) (q : Word) {place : Nat}
    (away : ∀ i < count, BytesApart 8 (wordAt buf i) place) :
    ram.load (memset ram buf count q memory) place = ram.load memory place := by
  refine sound.load_untouched (fun _ _ => trivial) trivial ?_
  intro update member
  obtain ⟨i, inside, rfl⟩ := List.mem_map.mp member
  exact away i (List.mem_range.mp inside)

theorem memset_agree (sound : Sound ram) (order : bufa + 8 * count ≤ bufb) (q : Word) (memory : σ) :
    Agree ram bufa bufb count (memset ram bufb count q (memset ram bufa count q memory)) := by
  intro i inside
  have away (k : Nat) (kInside : k < count) : BytesApart 8 (wordAt bufb k) (wordAt bufa i) :=
    ((halves_of_order order).cross i inside k kInside).symm
  rw [memset_away sound bufb q away, memset_load sound bufa q inside,
    memset_load sound bufb q inside]

/-- A word that is written over itself. -/
theorem store_same (sound : Sound ram) (order : bufa + 8 * count ≤ bufb) {i : Nat}
    (inside : i < count) (agree : Agree ram bufa bufb count memory) :
    Agree ram bufa bufb count (ram.store memory (wordAt bufa i) (ram.load memory (wordAt bufb i))) := by
  intro k kInside
  have halves := halves_of_order order
  rw [sound.other _ _ (wordAt bufb k) _ trivial trivial (halves.cross i inside k kInside)]
  by_cases same : i = k
  · subst same
    exact sound.own _ _ _ trivial
  · rw [sound.other _ _ (wordAt bufa k) _ trivial trivial (halves.first i inside k kInside same)]
    exact agree k kInside

theorem memcpy_agree (sound : Sound ram) (order : bufa + 8 * count ≤ bufb)
    (agree : Agree ram bufa bufb count memory) :
    Agree ram bufa bufb count (memcpy ram bufa bufb count memory) := by
  have copied (places : List Nat) (inside : ∀ i ∈ places, i < count) (memory : σ)
      (agree : Agree ram bufa bufb count memory) :
      Agree ram bufa bufb count (places.foldl (fun memory i =>
        ram.store memory (wordAt bufa i) (ram.load memory (wordAt bufb i))) memory) := by
    induction places generalizing memory with
    | nil => exact agree
    | cons place rest ih =>
        obtain ⟨placeInside, restInside⟩ := List.forall_mem_cons.mp inside
        exact ih restInside _ (store_same sound order placeInside agree)
  exact copied (List.range count) (fun i member => List.mem_range.mp member) memory agree

theorem memcpies_agree (sound : Sound ram) (order : bufa + 8 * count ≤ bufb) (times : Nat)
    (agree : Agree ram bufa bufb count memory) :
    Agree ram bufa bufb count ((memcpy ram bufa bufb count)^[times] memory) := by
  induction times generalizing memory with
  | zero => exact agree
  | succ times ih => exact ih (memcpy_agree sound order agree)

theorem testStressMemcpy_holds (sound : Sound ram) (order : bufa + 8 * count ≤ bufb) :
    Holds ram bufa bufb count (testStressMemcpy ram random bufa bufb count world) := by
  have copied := memcpies_agree sound order 128
    (memset_agree sound order (random world.drawn) world.memory)
  exact ⟨compareRegions_of_agree copied, copied⟩

theorem stressMemset_agree (sound : Sound ram) (order : bufa + 8 * count ≤ bufb) (rounds : Nat) :
    Agree ram bufa bufb count
      (stressMemset ram random bufa bufb count (rounds + 1) world).memory := by
  induction rounds generalizing world with
  | zero => exact memset_agree sound order (random world.drawn) world.memory
  | succ rounds ih =>
      rw [stressMemset]
      exact ih

theorem testStressMemset_holds (sound : Sound ram) (order : bufa + 8 * count ≤ bufb) :
    Holds ram bufa bufb count (testStressMemset ram random bufa bufb count world) := by
  have agree : Agree ram bufa bufb count
      (stressMemset ram random bufa bufb count 128 world).memory := stressMemset_agree sound order 127
  exact ⟨compareRegions_of_agree agree, agree⟩

/-- One word written to both halves. -/
theorem store_both (sound : Sound ram) (order : bufa + 8 * count ≤ bufb) {j : Nat} (word : Word)
    (inside : j < count) (agree : Agree ram bufa bufb count memory) :
    Agree ram bufa bufb count
      (ram.store (ram.store memory (wordAt bufb j) word) (wordAt bufa j) word) := by
  intro k kInside
  have halves := halves_of_order order
  rw [sound.other _ _ (wordAt bufb k) _ trivial trivial (halves.cross j inside k kInside)]
  by_cases same : j = k
  · subst same
    rw [sound.own _ _ _ trivial, sound.own _ _ _ trivial]
  · rw [sound.other _ _ (wordAt bufa k) _ trivial trivial (halves.first j inside k kInside same),
      sound.other _ _ (wordAt bufa k) _ trivial trivial (halves.cross k kInside j inside).symm,
      sound.other _ _ (wordAt bufb k) _ trivial trivial (halves.second j inside k kInside same)]
    exact agree k kInside

theorem stressMemcmp_holds (sound : Sound ram) (order : bufa + 8 * count ≤ bufb)
    {rounds : List Nat} (inside : ∀ j ∈ rounds, j < count)
    (agree : Agree ram bufa bufb count world.memory) :
    Holds ram bufa bufb count (stressMemcmp ram random bufa bufb count rounds world) := by
  induction rounds generalizing world with
  | nil => exact ⟨rfl, agree⟩
  | cons j rest ih =>
      obtain ⟨jInside, restInside⟩ := List.forall_mem_cons.mp inside
      have stored := store_both sound order (random world.drawn) jInside agree
      rw [stressMemcmp, if_neg (Classical.not_not.mpr (compareRegions_of_agree stored))]
      exact ih restInside stored

theorem testStressMemcmp_holds (sound : Sound ram) (order : bufa + 8 * count ≤ bufb)
    (enough : 32 ≤ count) :
    Holds ram bufa bufb count (testStressMemcmp ram random bufa bufb count world) := by
  refine stressMemcmp_holds sound order ?_ (memset_agree sound order (random world.drawn) _)
  exact fun j member => Nat.lt_of_lt_of_le (List.mem_range.mp member) enough

end

section

variable {σ : Type} {ram : Ram σ Word} {dividend aligned bufsize : Nat} {random : Nat → Word}
  {world : World σ}

/-- A test that keeps both halves of a buffer equal. -/
def Kept (ram : Ram σ Word) (aligned bufsize : Nat) (test : Test σ) : Prop :=
  ∀ world, Agree ram aligned (aligned + bufsize / 2) (bufsize / 8 / 2) world.memory →
    Holds ram aligned (aligned + bufsize / 2) (bufsize / 8 / 2)
      (test aligned (aligned + bufsize / 2) (bufsize / 8 / 2) world)

/-- A test that makes both halves of a buffer equal. -/
def Made (ram : Ram σ Word) (aligned bufsize : Nat) (test : Test σ) : Prop :=
  ∀ world, Holds ram aligned (aligned + bufsize / 2) (bufsize / 8 / 2)
    (test aligned (aligned + bufsize / 2) (bufsize / 8 / 2) world)

theorem Made.kept {test : Test σ} (made : Made ram aligned bufsize test) :
    Kept ram aligned bufsize test := fun world _ => made world

theorem order_halves (aligned bufsize : Nat) :
    aligned + 8 * (bufsize / 8 / 2) ≤ aligned + bufsize / 2 := by omega

theorem runTests_passes {selected : List (Test σ)}
    (kept : ∀ test ∈ selected, Kept ram aligned bufsize test)
    (agree : Agree ram aligned (aligned + bufsize / 2) (bufsize / 8 / 2) world.memory) :
    (runTests aligned bufsize selected world).1 = 0 := by
  induction selected generalizing world with
  | nil => rfl
  | cons test rest ih =>
      obtain ⟨first, others⟩ := List.forall_mem_cons.mp kept
      obtain ⟨passes, agrees⟩ := first world agree
      rw [runTests, if_pos passes]
      exact ih others agrees

/-- One turn: the stuck address test leaves anything, the first test makes the halves equal, the
others keep them so. -/
theorem runLoop_passes (sound : Sound ram) {first : Test σ} {rest : List (Test σ)}
    (made : Made ram aligned bufsize first) (kept : ∀ test ∈ rest, Kept ram aligned bufsize test)
    (world : World σ) : (runLoop ram dividend (first :: rest) aligned bufsize world).1 = 0 := by
  have address : (testStuckAddress ram dividend aligned (bufsize / 8) world).1 = 0 := by
    refine stuckAddress_passes sound BytesApart.symm (fun _ _ => trivial) ?_ (fun _ _ _ => rfl) _ world
    intro i _ k _ ne
    unfold BytesApart wordAt
    omega
  obtain ⟨passes, agrees⟩ := made (testStuckAddress ram dividend aligned (bufsize / 8) world).2
  rw [runLoop, if_pos address, runTests, if_pos passes]
  exact runTests_passes kept agrees

theorem runLoops_passes {selected : List (Test σ)}
    (turn : ∀ world, (runLoop ram dividend selected aligned bufsize world).1 = 0) (loops : Nat)
    (world : World σ) : (runLoops ram dividend selected aligned bufsize loops world).1 = 0 := by
  induction loops generalizing world with
  | zero => rfl
  | succ loops ih =>
      rw [runLoops, if_pos (turn world)]
      exact ih _

theorem tests_kept (sound : Sound ram) :
    ∀ test ∈ (tests ram dividend random).tail, Kept ram aligned bufsize test := by
  have order := order_halves aligned bufsize
  simp only [tests, List.tail_cons, List.forall_mem_cons, List.not_mem_nil, false_implies,
    implies_true, and_true]
  refine ⟨?_, ?_, ?_, ?_, ?_, ?_, ?_, ?_, ?_, ?_, ?_, ?_, ?_, ?_⟩
  case refine_7 => exact fun world _ => testSeqincComparison_holds sound order
  all_goals intro world agree
  all_goals first
    | exact changeComparison_holds sound order _ agree
    | exact fillRounds_holds sound order _ _ agree

theorem stressTests_kept (sound : Sound ram) (enough : 512 ≤ bufsize) :
    ∀ test ∈ (stressTests ram random).tail, Kept ram aligned bufsize test := by
  have order := order_halves aligned bufsize
  simp only [stressTests, List.tail_cons, List.forall_mem_cons, List.not_mem_nil, false_implies,
    implies_true, and_true]
  exact ⟨fun world _ => testStressMemset_holds sound order,
    fun world _ => testStressMemcmp_holds sound order (by omega)⟩

end

/-- On a sound memory the long and the fast test never report a failure, however many turns they
take and whatever random words they draw, and on buffers of 512 bytes or more neither do the stress
tests. -/
theorem no_false_alarms {σ : Type} (ram : Ram σ Word) (sound : Sound ram) (dividend : Nat)
    (random : Nat → Word) (aligned bufsize loops : Nat) (world : World σ) :
    (runLoops ram dividend (tests ram dividend random) aligned bufsize loops world).1 = 0 ∧
      (512 ≤ bufsize →
        (runLoops ram dividend (stressTests ram random) aligned bufsize loops world).1 = 0) := by
  have order := order_halves aligned bufsize
  constructor
  · exact runLoops_passes (runLoop_passes sound (fun _ => testRandomValue_holds sound order)
      (tests_kept sound)) loops world
  · intro enough
    exact runLoops_passes (runLoop_passes sound (fun _ => testStressMemcpy_holds sound order)
      (stressTests_kept sound enough)) loops world

/-- Bytes at any address, with a second half that is not aligned to words. -/
theorem no_false_alarms_bytes :
    (runLoops (byteRam 8) 4 (tests (byteRam 8) 4 fun n => .ofNat 64 (n * n)) 4096 1032 3
        ⟨fun _ => 0, 0⟩).1 = 0 ∧
      (512 ≤ 1032 →
        (runLoops (byteRam 8) 4 (stressTests (byteRam 8) fun n => .ofNat 64 (n * n)) 4096 1032 3
          ⟨fun _ => 0, 0⟩).1 = 0) :=
  no_false_alarms (byteRam 8) (byteRam_keeps 8) 4 _ 4096 1032 3 _

end HorizonOc.MemTester
