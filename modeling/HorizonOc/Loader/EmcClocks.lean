import Mathlib.Data.List.Dedup
import Mathlib.Data.List.Pairwise
import HorizonOc.Loader.Erista

namespace HorizonOc.Loader.Erista

open HorizonOc.Data

/-- The distinct clocks above the stock limit, ascending. -/
def overclocks (requested : List Word) : List Word :=
  ((requested.filter fun clock => emcClkOSLimit < clock).dedup).insertionSort
    fun low high => low ≤ high

/-- The clocks that are left after duplicates were zeroed. -/
def nonzero (clocks : List Word) : List Word := clocks.filter fun clock => clock ≠ 0

instance : IsTrans Word fun low high => low ≤ high := ⟨fun _ _ _ => BitVec.le_trans⟩

theorem mem_overclocks {requested : List Word} {clock : Word} :
    clock ∈ overclocks requested ↔ clock ∈ requested ∧ emcClkOSLimit < clock := by
  simp [overclocks]

theorem overclocks_ascending (requested : List Word) :
    (overclocks requested).Pairwise fun low high => low < high := by
  have sorted : (overclocks requested).Pairwise fun low high => low ≤ high :=
    List.pairwise_insertionSort _ _
  have distinct : (overclocks requested).Nodup :=
    (List.perm_insertionSort _ _).nodup_iff.mpr (List.nodup_dedup _)
  exact (sorted.and distinct).imp fun ⟨le, ne⟩ => BitVec.lt_of_le_ne le ne

/-- The only ascending list of the clocks above the limit. -/
theorem eq_overclocks {requested clocks : List Word}
    (ascending : clocks.Pairwise fun low high => low < high)
    (mem : ∀ clock, clock ∈ clocks ↔ clock ∈ requested ∧ emcClkOSLimit < clock) :
    clocks = overclocks requested := by
  apply List.Pairwise.eq_of_mem_iff ascending (overclocks_ascending requested)
  intro clock
  rw [mem, mem_overclocks]

theorem lt_foldl_max {clocks : List Word} {limit start : Word} :
    limit < clocks.foldl (fun largest clock => if largest < clock then clock else largest) start ↔
      limit < start ∨ ∃ clock ∈ clocks, limit < clock := by
  induction clocks generalizing start with
  | nil => simp
  | cons clock rest ih =>
      rw [List.foldl_cons, ih, List.exists_mem_cons_iff, ← or_assoc]
      apply or_congr_left
      split <;> bv_omega

theorem limit_lt_getMaxOfArr {clocks : List Word} :
    emcClkOSLimit < getMaxOfArr clocks ↔ ∃ clock ∈ clocks, emcClkOSLimit < clock := by
  rw [getMaxOfArr, lt_foldl_max]
  simp

theorem sortClocks_sorted (clocks : List Word) :
    (sortClocks clocks).Pairwise fun low high => low ≤ high :=
  List.pairwise_insertionSort _ clocks

theorem mem_sortClocks {clocks : List Word} {clock : Word} :
    clock ∈ sortClocks clocks ↔ clock ∈ clocks := List.mem_insertionSort _

/-- Each clock above the limit is left once, in order, and every other one is zeroed. -/
structure Deduplicated (clocks : List Word) (shifts : Nat) (left : List Word) : Prop where
  length_eq : left.length = clocks.length
  shifts_eq : shifts = (nonzero left).length
  ascending : (nonzero left).Pairwise fun low high => low < high
  mem : ∀ clock, clock ∈ nonzero left ↔ clock ∈ clocks ∧ emcClkOSLimit < clock

@[simp] theorem mem_nonzero {clocks : List Word} {clock : Word} :
    clock ∈ nonzero clocks ↔ clock ∈ clocks ∧ clock ≠ 0 := by
  simp [nonzero]

theorem nonzero_zero (clocks : List Word) : nonzero (0 :: clocks) = nonzero clocks := by
  simp [nonzero]

theorem nonzero_cons {clock : Word} (ne : clock ≠ 0) (clocks : List Word) :
    nonzero (clock :: clocks) = clock :: nonzero clocks :=
  List.filter_cons_of_pos (by simpa using ne)

theorem ne_zero_of_over {clock : Word} (exceeds : emcClkOSLimit < clock) : clock ≠ 0 := by
  unfold emcClkOSLimit at exceeds
  bv_omega

theorem nonzero_over {clock : Word} (exceeds : emcClkOSLimit < clock) (clocks : List Word) :
    nonzero (clock :: clocks) = clock :: nonzero clocks :=
  nonzero_cons (ne_zero_of_over exceeds) clocks

section

variable {clocks left : List Word} {shifts : Nat} {clock : Word}

/-- A clock below all others is left. -/
theorem Deduplicated.keep (tail : Deduplicated clocks shifts left) (exceeds : emcClkOSLimit < clock)
    (least : ∀ other ∈ clocks, clock < other) :
    Deduplicated (clock :: clocks) (shifts + 1) (clock :: left) where
  length_eq := by simp [tail.length_eq]
  shifts_eq := by rw [nonzero_over exceeds, List.length_cons, tail.shifts_eq]
  ascending := by
    rw [nonzero_over exceeds, List.pairwise_cons]
    refine ⟨fun other member => ?_, tail.ascending⟩
    exact least other ((tail.mem other).mp member).1
  mem := by
    intro other
    rw [nonzero_over exceeds, List.mem_cons, List.mem_cons, tail.mem]
    constructor
    · rintro (rfl | ⟨member, above⟩)
      · exact ⟨.inl rfl, exceeds⟩
      · exact ⟨.inr member, above⟩
    · rintro ⟨rfl | member, above⟩
      · exact .inl rfl
      · exact .inr ⟨member, above⟩

/-- A clock that stands behind once more, or is not above the limit, is zeroed. -/
theorem Deduplicated.zero (tail : Deduplicated clocks shifts left)
    (listed : emcClkOSLimit < clock → clock ∈ clocks) :
    Deduplicated (clock :: clocks) shifts (0 :: left) where
  length_eq := by simp [tail.length_eq]
  shifts_eq := by rw [nonzero_zero, tail.shifts_eq]
  ascending := by
    rw [nonzero_zero]
    exact tail.ascending
  mem := by
    intro other
    rw [nonzero_zero, List.mem_cons, tail.mem]
    constructor
    · exact fun ⟨member, above⟩ => ⟨.inr member, above⟩
    · rintro ⟨rfl | member, above⟩
      · exact ⟨listed above, above⟩
      · exact ⟨member, above⟩

theorem Deduplicated.nil : Deduplicated [] 0 [] where
  length_eq := rfl
  shifts_eq := rfl
  ascending := List.Pairwise.nil
  mem := by simp [nonzero]

end

theorem dropDuplicates_deduplicated (clocks : List Word) (filled : clocks ≠ [])
    (sorted : clocks.Pairwise fun low high => low ≤ high)
    (exceeds : emcClkOSLimit < clocks.getLast filled) :
    Deduplicated clocks (dropDuplicates clocks).1 (dropDuplicates clocks).2 := by
  induction clocks using dropDuplicates.induct with
  | case1 => contradiction
  | case2 clock =>
      rw [dropDuplicates]
      exact Deduplicated.nil.keep exceeds fun other absent => by contradiction
  | case3 clock next rest kept ih =>
      rw [List.pairwise_cons] at sorted
      have tail := ih (List.cons_ne_nil _ _) sorted.2 exceeds
      rw [dropDuplicates, if_pos kept]
      apply tail.keep kept.2
      intro other behind
      have least : next ≤ other := by
        rcases List.mem_cons.mp behind with rfl | later
        · exact BitVec.le_refl _
        · exact (List.pairwise_cons.mp sorted.2).1 other later
      have below : clock < next :=
        BitVec.lt_of_le_ne (sorted.1 next List.mem_cons_self) kept.1
      bv_omega
  | case4 clock next rest dropped ih =>
      rw [List.pairwise_cons] at sorted
      have tail := ih (List.cons_ne_nil _ _) sorted.2 exceeds
      rw [dropDuplicates, if_neg dropped]
      apply tail.zero
      intro above
      have duplicate : clock = next := by
        by_contra differs
        exact dropped ⟨differs, above⟩
      exact duplicate ▸ List.mem_cons_self

/-- The persistent clocks still ask for the clocks above the limit that were requested. -/
structure AsksFor (requested clocks : List Word) : Prop where
  length_eq : clocks.length = requested.length
  mem : ∀ clock, emcClkOSLimit < clock → (clock ∈ clocks ↔ clock ∈ requested)

section

variable {requested clocks left : List Word} {shifts : Nat}

theorem AsksFor.refl (requested : List Word) : AsksFor requested requested :=
  ⟨rfl, fun _ _ => Iff.rfl⟩

theorem AsksFor.sorted (asks : AsksFor requested clocks) :
    AsksFor requested (sortClocks clocks) where
  length_eq := (List.length_insertionSort _ clocks).trans asks.length_eq
  mem clock above := mem_sortClocks.trans (asks.mem clock above)

theorem AsksFor.deduplicated (asks : AsksFor requested clocks)
    (dropped : Deduplicated clocks shifts left) : AsksFor requested left where
  length_eq := dropped.length_eq.trans asks.length_eq
  mem clock above := by
    have ne := ne_zero_of_over above
    have kept := dropped.mem clock
    rw [mem_nonzero] at kept
    rw [← asks.mem clock above]
    tauto

theorem AsksFor.over_iff (asks : AsksFor requested clocks) :
    emcClkOSLimit < getMaxOfArr clocks ↔ emcClkOSLimit < getMaxOfArr requested := by
  rw [limit_lt_getMaxOfArr, limit_lt_getMaxOfArr]
  exact exists_congr fun clock => and_congr_left fun above => asks.mem clock above

/-- What is left of the persistent clocks is what was requested. -/
theorem AsksFor.left_eq (asks : AsksFor requested clocks)
    (dropped : Deduplicated clocks shifts left) : nonzero left = overclocks requested := by
  apply eq_overclocks dropped.ascending
  intro clock
  rw [dropped.mem]
  exact and_congr_left fun above => asks.mem clock above

theorem sorted_deduplicated (exceeds : emcClkOSLimit < getMaxOfArr clocks) :
    Deduplicated (sortClocks clocks) (dropDuplicates (sortClocks clocks)).1
      (dropDuplicates (sortClocks clocks)).2 := by
  obtain ⟨clock, member, above⟩ := limit_lt_getMaxOfArr.mp exceeds
  have inside : clock ∈ sortClocks clocks := mem_sortClocks.mpr member
  have filled : sortClocks clocks ≠ [] := List.ne_nil_of_mem inside
  apply dropDuplicates_deduplicated _ filled (sortClocks_sorted clocks)
  have greatest : clock ≤ (sortClocks clocks).getLast filled :=
    (sortClocks_sorted clocks).rel_getLast_of_rel_getLast_getLast inside (BitVec.le_refl _)
  bv_omega

end

end HorizonOc.Loader.Erista
