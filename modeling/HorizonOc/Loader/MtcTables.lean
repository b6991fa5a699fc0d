import HorizonOc.Loader.EmcClocks

namespace HorizonOc.Loader

open HorizonOc.Data

/-- The tables at `ptr` and before it, backwards, have these rates and the revision. -/
def RatesBackwards (word : Int → Word) (mtcWords : Nat) (rev : Word) (ptr : Int)
    (rates : List Word) : Prop :=
  ∀ (position : Nat) rate, rates[position]? = some rate →
    word (ptr - mtcWords * position) = rate ∧
      word (ptr - mtcWords * position - rateKhzOffset) = rev

theorem ratesBackwards_cons {word : Int → Word} {mtcWords : Nat} {rev rate : Word} {ptr : Int}
    {rates : List Word} :
    RatesBackwards word mtcWords rev ptr (rate :: rates) ↔
      (word ptr = rate ∧ word (ptr - rateKhzOffset) = rev) ∧
        RatesBackwards word mtcWords rev (ptr - mtcWords) rates := by
  have later (position : Nat) : ptr - mtcWords * (position + 1 : Nat) =
      ptr - mtcWords - mtcWords * position := by
    rw [Int.natCast_add, Int.mul_add]
    omega
  constructor
  · intro backwards
    refine ⟨by simpa using backwards 0 rate rfl, fun position value found => ?_⟩
    rw [← later]
    exact backwards (position + 1) value found
  · rintro ⟨first, backwards⟩ position value found
    cases position with
    | zero =>
        cases found
        simpa using first
    | succ position =>
        rw [later]
        exact backwards position value found

theorem validateMtcTables_run (mtcWords : Nat) (rev : Word) (ptr : Int) (rates : List Word)
    (store : Image) :
    (RatesBackwards store.word mtcWords rev ptr rates →
      Tracked.run (validateMtcTables mtcWords rev ptr rates) store = (.ok ⟨⟩, store)) ∧
    (¬RatesBackwards store.word mtcWords rev ptr rates →
      Tracked.run (validateMtcTables mtcWords rev ptr rates) store =
        (.error .invalidMtcTable, store)) := by
  induction rates generalizing ptr with
  | nil => exact ⟨fun _ => rfl, fun differs => absurd (fun _ _ found => nomatch found) differs⟩
  | cons rate rates ih =>
      rw [ratesBackwards_cons, validateMtcTables, Tracked.run_compare_bind,
        Tracked.run_require_bind, Tracked.run_compare_bind, Tracked.run_require_bind]
      by_cases same : store.word ptr = rate
      · by_cases revision : store.word (ptr - rateKhzOffset) = rev
        · simp only [same, revision, decide_true, if_true, true_and]
          exact ih _
        · simp [same, revision]
      · simp [same]

end HorizonOc.Loader

namespace HorizonOc.Loader.Erista

open HorizonOc.Data

/-- Where a timing table lies in memory; the one that ends at `ptr` has the index 9. -/
def mtcAddress (ptr index : Int) : Int := ptr - rateKhzOffset - eristaMtcWords * (9 - index)

def mtcAt (word : Int → Word) (ptr index : Int) : MtcTable eristaMtcWords :=
  fun offset => word (mtcAddress ptr index + offset)

def rateKhz (table : MtcTable eristaMtcWords) : Word := table ⟨rateKhzOffset, by decide⟩

def withRate (table : MtcTable eristaMtcWords) (clock : Word) : MtcTable eristaMtcWords :=
  fun offset => if offset = rateKhzOffset then clock else table offset

theorem mtcTable_eq (ptr : Int) (index : Nat) : mtcTable ptr index = mtcAddress ptr index := rfl

section

variable {word others : Int → Word} {ptr target source index : Int}

/-- Tables that are copied as a block, whether or not they overlap the source. -/
theorem mtcAt_copy (count : Nat) :
    mtcAt (writeBlock word (mtcAddress ptr target) (eristaMtcWords * count)
        (block word (mtcAddress ptr source))) ptr index =
      if target ≤ index ∧ index < target + count then mtcAt word ptr (index - target + source)
      else mtcAt word ptr index := by
  funext offset
  have inside := offset.isLt
  by_cases copied : target ≤ index ∧ index < target + count
  · rw [if_pos copied]
    unfold mtcAt writeBlock block mtcAddress eristaMtcWords at *
    rw [if_pos (by omega)]
    congr 1
    omega
  · rw [if_neg copied]
    unfold mtcAt writeBlock mtcAddress eristaMtcWords at *
    rw [if_neg (by omega)]

/-- Writes into one table change no other. -/
theorem mtcAt_congr (kept : ∀ address, address < mtcAddress ptr target ∨
      mtcAddress ptr target + eristaMtcWords ≤ address → word address = others address)
    (apart : index ≠ target) : mtcAt word ptr index = mtcAt others ptr index := by
  funext offset
  have inside := offset.isLt
  apply kept
  unfold mtcAddress eristaMtcWords at *
  omega

/-- Every word lies in one of the tables. -/
theorem eq_of_mtcAt_eq (ptr address : Int)
    (same : mtcAt word ptr ((address - mtcAddress ptr 0) / eristaMtcWords) =
      mtcAt others ptr ((address - mtcAddress ptr 0) / eristaMtcWords)) :
    word address = others address := by
  have inside : ((address - mtcAddress ptr 0) % eristaMtcWords).toNat < eristaMtcWords := by
    unfold eristaMtcWords
    omega
  have words := congrFun same ⟨_, inside⟩
  have position : mtcAddress ptr ((address - mtcAddress ptr 0) / eristaMtcWords) +
      (((address - mtcAddress ptr 0) % eristaMtcWords).toNat : Nat) = address := by
    unfold mtcAddress eristaMtcWords
    omega
  simpa only [mtcAt, position] using words

end

section

variable {platform : Platform} {ptr : Int} {store : Image}

theorem mtcAt_withRate {word : Int → Word} {index : Int} {clock : Word} :
    mtcAt (Function.update word (mtcAddress ptr index + rateKhzOffset) clock) ptr index =
      withRate (mtcAt word ptr index) clock := by
  funext offset
  by_cases rate : (offset : Nat) = rateKhzOffset
  · simp [mtcAt, withRate, rate]
  · rw [mtcAt, withRate, if_neg rate, Function.update_of_ne (by omega), mtcAt]

theorem mtcAt_adjusted {word : Int → Word} {index : Int}
    {adjust : MtcTable eristaMtcWords → MtcTable eristaMtcWords} :
    mtcAt (writeBlock word (mtcAddress ptr index) eristaMtcWords
        (adjusted adjust (block word (mtcAddress ptr index)))) ptr index =
      adjust (mtcAt word ptr index) := by
  funext offset
  rw [mtcAt, writeBlock_inside offset.isLt, adjusted, dif_pos offset.isLt]
  rfl

/-- One turn of the loop, on the table that it is at, once its rate was written. -/
theorem scaleTable_run (platform : Platform) (ptr : Int) (index : Nat) (clock : Word)
    (store : Image) :
    ∃ word, Tracked.run (autoAdjust platform.eristaAutoAdjust (mtcTable ptr index)) { store with
        word := Function.update store.word (mtcTable ptr index + rateKhzOffset) clock } =
        (.ok ⟨⟩, { store with word }) ∧
      mtcAt word ptr index =
        platform.eristaAutoAdjust (withRate (mtcAt store.word ptr index) clock) ∧
      ∀ other : Int, other ≠ index → mtcAt word ptr other = mtcAt store.word ptr other := by
  refine ⟨_, rfl, ?_, ?_⟩
  · exact mtcAt_adjusted.trans (congrArg _ mtcAt_withRate)
  · intro other apart
    refine mtcAt_congr (fun address outside => ?_) apart
    refine (writeBlock_outside outside).trans (Function.update_of_ne ?_ _ _)
    have rate : (rateKhzOffset : Int) < eristaMtcWords := by decide
    rw [mtcTable_eq]
    omega

/-- The last `remaining` tables get the clocks that are left, in their order. -/
theorem scaleTables_run (clocks : List Word) (remaining : Nat) (bounded : remaining ≤ 10)
    (enough : (nonzero clocks).length = remaining) (store : Image) :
    ∃ word, Tracked.run (scaleTables platform ptr remaining clocks) store =
        (.ok ⟨⟩, { store with word }) ∧
      (∀ (position : Nat) clock, (nonzero clocks)[position]? = some clock →
        mtcAt word ptr (10 - remaining + position) = platform.eristaAutoAdjust
          (withRate (mtcAt store.word ptr (10 - remaining + position)) clock)) ∧
      ∀ index : Int, index < 10 - remaining ∨ 10 ≤ index →
        mtcAt word ptr index = mtcAt store.word ptr index := by
  induction clocks generalizing remaining store with
  | nil =>
      subst enough
      exact ⟨store.word, rfl, by simp [nonzero], fun _ _ => rfl⟩
  | cons clock rest ih =>
      by_cases zeroed : clock = 0
      · subst zeroed
        rw [nonzero_zero] at enough ⊢
        cases remaining with
        | zero =>
            rw [scaleTables]
            exact ⟨store.word, rfl, by simp [List.eq_nil_of_length_eq_zero enough], fun _ _ => rfl⟩
        | succ remaining =>
            rw [scaleTables, if_pos rfl]
            exact ih _ bounded enough store
      · rw [nonzero_cons zeroed] at enough ⊢
        subst enough
        have last : (khzList.length - ((nonzero rest).length + 1) : Nat) =
            (10 - ((nonzero rest).length + 1 : Nat) : Int) := by
          rw [List.length_cons] at bounded
          rw [show khzList.length = 10 from rfl]
          omega
        obtain ⟨first, turn, scaled, others⟩ := scaleTable_run platform ptr
          (khzList.length - ((nonzero rest).length + 1)) clock store
        rw [last] at scaled others
        obtain ⟨word, returned, later, kept⟩ := ih (nonzero rest).length
          (by rw [List.length_cons] at bounded; omega) rfl { store with word := first }
        refine ⟨word, ?_, ?_, ?_⟩
        · rw [List.length_cons, scaleTables, if_neg zeroed, Tracked.run_write_bind,
            Tracked.run_bind_of_ok turn]
          exact returned
        · intro position value found
          rw [List.length_cons]
          cases position with
          | zero =>
              cases found
              rw [Int.natCast_zero, Int.add_zero, kept _ (by omega), scaled]
          | succ position =>
              have shifted : (10 - ((nonzero rest).length + 1 : Nat) + (position + 1 : Nat) : Int) =
                  10 - (nonzero rest).length + position := by omega
              rw [shifted, later position value found, others _ (by omega)]
        · intro index outside
          rw [List.length_cons] at outside
          rw [kept index (by omega), others index (by omega)]

end

/-- The ten stock tables that end at `ptr`. -/
def StockMtcTables (word : Int → Word) (ptr : Int) : Prop :=
  ∀ (index : Nat) (inside : index < khzList.length),
    rateKhz (mtcAt word ptr index) = khzList[index] ∧
      mtcAt word ptr index ⟨0, by decide⟩ = mtcTableRev

theorem stockMtcTables_iff {word : Int → Word} {ptr : Int} :
    StockMtcTables word ptr ↔
      RatesBackwards word eristaMtcWords mtcTableRev ptr khzList.reverse := by
  have rate (index position : Nat) (mirrored : index + position = 9) :
      rateKhz (mtcAt word ptr index) = word (ptr - eristaMtcWords * position) := by
    rw [rateKhz, mtcAt, mtcAddress]
    congr 1
    unfold eristaMtcWords
    dsimp only
    omega
  have revision (index position : Nat) (mirrored : index + position = 9) :
      mtcAt word ptr index ⟨0, by decide⟩ =
        word (ptr - eristaMtcWords * position - rateKhzOffset) := by
    rw [mtcAt, mtcAddress]
    congr 1
    unfold eristaMtcWords
    simp only [Int.natCast_zero]
    omega
  have size : khzList.length = 10 := rfl
  constructor
  · intro stock position value found
    obtain ⟨inside, rfl⟩ := List.getElem?_eq_some_iff.mp found
    rw [List.length_reverse] at inside
    have tables := stock (9 - position) (by omega)
    rw [rate (9 - position) position (by omega), revision (9 - position) position (by omega)]
      at tables
    rw [List.getElem_reverse]
    simpa [size, Nat.sub_sub, Nat.add_comm] using tables
  · intro backwards index inside
    rw [rate index (9 - index) (by omega), revision index (9 - index) (by omega)]
    apply backwards (9 - index)
    rw [List.getElem?_eq_some_iff]
    refine ⟨by rw [List.length_reverse]; omega, ?_⟩
    rw [List.getElem_reverse]
    congr 1
    omega

end HorizonOc.Loader.Erista
