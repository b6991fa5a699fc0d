import Mathlib.Data.List.Pairwise
import Mathlib.Data.Nat.Dist
import Mathlib.Tactic.ByContra
import HorizonOc.Sysmodule.Clocks

namespace HorizonOc.Sysmodule

/-! `GetNearestHz` over the rows that `RefreshFreqTableRow` fills: the entry that is picked,
the cap and the distance to the rate asked for. -/

def hocclkFreqListMax : Nat := 32

/-- A row of `gFreqTable`.  The slots from `count` on hold what was there before. -/
structure FreqTable where
  count : Nat
  list : List Nat
  slots : list.length = hocclkFreqListMax
deriving DecidableEq, Repr

namespace FreqTable

/-- The rates that the row has. -/
def row (table : FreqTable) : List Nat := table.list.take table.count

/-- An entry that was filled; the other slots have nothing to read. -/
def filledEntry (table : FreqTable) (index : Nat) : Option Nat :=
  if index < table.count then table.list[index]? else none

def fill (module : Module) (table : FreqTable) (hz : Nat) : FreqTable :=
  if isAssignableHz module hz then
    { count := table.count + 1
      list := table.list.set table.count hz
      slots := (List.length_set ..).trans table.slots }
  else table

/-- `RefreshFreqTableRow`, for the rates that `GetFreqList` gives. -/
def refreshFreqTableRow (module : Module) (freqs : List Nat) (table : FreqTable) : FreqTable :=
  freqs.foldl (fill module) { table with count := 0 }

/-- The loop of `GetNearestHz` at an index, with the steps that are left. -/
def nearestFrom (table : FreqTable) (inHz maxHz : Nat) : Nat → Nat → Option Nat
  | 0, index => table.filledEntry index
  | remaining + 1, index => do
      let hz ← table.filledEntry index
      if 0 < maxHz ∧ maxHz ≤ hz then some hz
      else
        let next ← table.filledEntry (index + 1)
        if inHz ≤ (hz + next) / 2 then some hz
        else table.nearestFrom inHz maxHz remaining (index + 1)

/-- `GetNearestHz`.  The bound of the loop is a difference of `u32`. -/
def getNearestHz (table : FreqTable) (inHz maxHz : Nat) : Option Nat :=
  table.nearestFrom inHz maxHz (toU32 (table.count + (2 ^ 32 - 1))) 0

theorem filledEntry_row (table : FreqTable) (index : Nat) : table.filledEntry index = table.row[index]? := by
  rw [filledEntry, row, List.getElem?_take]

theorem fill_row {module : Module} {table : FreqTable} (room : table.count < hocclkFreqListMax)
    (hz : Nat) :
    (table.fill module hz).row = table.row ++ [hz].filter (isAssignableHz module) := by
  unfold fill
  split
  · rename_i assignable
    have inside : table.count < table.list.length := room.trans_eq table.slots.symm
    rw [row, List.take_add_one, List.take_set_of_le (Nat.le_refl _), List.getElem?_set_self inside]
    simp [row, assignable]
  · rename_i skipped
    simp [skipped]

theorem fill_count (module : Module) (table : FreqTable) (hz : Nat) :
    (table.fill module hz).count = table.count + ([hz].filter (isAssignableHz module)).length := by
  unfold fill
  split <;> rename_i assignable <;> simp [assignable]

theorem foldl_fill {module : Module} (freqs : List Nat) {table : FreqTable}
    (room : table.count + freqs.length ≤ hocclkFreqListMax) :
    (freqs.foldl (fill module) table).row = table.row ++ freqs.filter (isAssignableHz module) ∧
      (freqs.foldl (fill module) table).count =
        table.count + (freqs.filter (isAssignableHz module)).length := by
  induction freqs generalizing table with
  | nil => simp
  | cons hz rest ih =>
      rw [List.length_cons] at room
      have count := fill_count module table hz
      have short := List.length_filter_le (isAssignableHz module) [hz]
      rw [List.length_singleton] at short
      have roomLeft : (table.fill module hz).count + rest.length ≤ hocclkFreqListMax := by omega
      obtain ⟨filled, counted⟩ := ih roomLeft
      have split : (hz :: rest).filter (isAssignableHz module) =
          [hz].filter (isAssignableHz module) ++ rest.filter (isAssignableHz module) :=
        List.filter_append [hz] rest
      refine ⟨?_, ?_⟩
      · rw [List.foldl_cons, filled, fill_row (by omega), split, List.append_assoc]
      · rw [List.foldl_cons, counted, count, split, List.length_append, Nat.add_assoc]

/-- Whatever the row held, it holds the assignable rates of the list afterwards. -/
theorem refreshFreqTableRow_row (module : Module) {freqs : List Nat}
    (fits : freqs.length ≤ hocclkFreqListMax) (table : FreqTable) :
    (refreshFreqTableRow module freqs table).row = freqs.filter (isAssignableHz module) := by
  have room : { table with count := 0 }.count + freqs.length ≤ hocclkFreqListMax := by simpa using fits
  have filled := (@foldl_fill module freqs _ room).1
  simpa [refreshFreqTableRow, row] using filled

theorem refreshFreqTableRow_count (module : Module) {freqs : List Nat}
    (fits : freqs.length ≤ hocclkFreqListMax) (table : FreqTable) :
    (refreshFreqTableRow module freqs table).count ≤ hocclkFreqListMax := by
  have room : { table with count := 0 }.count + freqs.length ≤ hocclkFreqListMax := by simpa using fits
  have short := List.length_filter_le (isAssignableHz module) freqs
  have count : (refreshFreqTableRow module freqs table).count =
      0 + (freqs.filter (isAssignableHz module)).length := (@foldl_fill module freqs _ room).2
  omega

theorem nearestFrom_unfilled {table : FreqTable} {index : Nat}
    (unfilled : table.filledEntry index = none) (inHz maxHz remaining : Nat) :
    table.nearestFrom inHz maxHz remaining index = none := by
  cases remaining with
  | zero => exact unfilled
  | succ remaining => simp [nearestFrom, unfilled]

theorem nearestFrom_row {table : FreqTable} {inHz maxHz remaining index : Nat}
    (left : index + remaining + 1 = table.row.length) :
    table.nearestFrom inHz maxHz remaining index = nearestHzIn inHz maxHz (table.row.drop index) := by
  induction remaining generalizing index with
  | zero =>
      have inside : index < table.row.length := by omega
      rw [nearestFrom, filledEntry_row, List.getElem?_eq_getElem inside,
        List.drop_eq_getElem_cons inside, List.drop_of_length_le (by omega)]
      rfl
  | succ remaining ih =>
      have inside : index < table.row.length := by omega
      have next : index + 1 < table.row.length := by omega
      have leftAfter : index + 1 + remaining + 1 = table.row.length := by omega
      have rest := ih leftAfter
      rw [List.drop_eq_getElem_cons next] at rest
      rw [nearestFrom, filledEntry_row, filledEntry_row, List.getElem?_eq_getElem inside,
        List.getElem?_eq_getElem next, List.drop_eq_getElem_cons inside,
        List.drop_eq_getElem_cons next, nearestHzIn, ← rest]
      rfl

theorem getNearestHz_row {table : FreqTable} (fits : table.count ≤ hocclkFreqListMax)
    (inHz maxHz : Nat) : table.getNearestHz inHz maxHz = nearestHzIn inHz maxHz table.row := by
  have length : table.row.length = table.count := by
    rw [row, List.length_take, table.slots, Nat.min_eq_left fits]
  have bound : hocclkFreqListMax < 2 ^ 32 := by decide
  rw [getNearestHz]
  cases rates : table.row with
  | nil =>
      have unfilled : table.filledEntry 0 = none := by rw [filledEntry_row, rates]; rfl
      exact nearestFrom_unfilled unfilled inHz maxHz _
  | cons first rest =>
      rw [rates, List.length_cons] at length
      have steps : toU32 (table.count + (2 ^ 32 - 1)) = rest.length := by
        unfold toU32
        omega
      have left : 0 + rest.length + 1 = table.row.length := by
        rw [rates, List.length_cons]
        omega
      rw [steps, nearestFrom_row left, List.drop_zero, rates]

end FreqTable

section

variable {row : List Nat} {inHz maxHz hz : Nat}

/-- The entry that is picked: those below it are under the cap and further away, and where it is
under the cap itself, those above it are no nearer. -/
structure StopsAt (row : List Nat) (inHz maxHz hz : Nat) : Prop where
  entry : hz ∈ row
  below : ∀ low ∈ row, low < hz → low + hz < 2 * inHz ∧ (0 < maxHz → low < maxHz)
  above : (0 < maxHz → hz < maxHz) → ∀ high ∈ row, hz < high → 2 * inHz ≤ hz + high

theorem nearestHzIn_returns (inHz maxHz : Nat) (nonempty : row ≠ []) :
    ∃ hz, nearestHzIn inHz maxHz row = some hz := by
  induction row with
  | nil => contradiction
  | cons first rest ih =>
      cases rest with
      | nil => exact ⟨first, rfl⟩
      | cons next more =>
          rw [nearestHzIn]
          split
          · exact ⟨first, rfl⟩
          · split
            · exact ⟨first, rfl⟩
            · exact ih (by simp)

theorem nearestHzIn_stopsAt (ascending : row.Pairwise (· < ·))
    (found : nearestHzIn inHz maxHz row = some hz) : StopsAt row inHz maxHz hz := by
  induction row with
  | nil => contradiction
  | cons first rest ih =>
      obtain ⟨least, restAscending⟩ := List.pairwise_cons.mp ascending
      have noneBelow : ∀ low ∈ first :: rest, ¬low < first := by
        intro low member
        rcases List.mem_cons.mp member with rfl | later
        · exact Nat.lt_irrefl low
        · exact Nat.not_lt_of_gt (least low later)
      cases rest with
      | nil =>
          cases found
          refine ⟨List.mem_cons_self, fun low member less => absurd less (noneBelow low member), ?_⟩
          intro _ high member more
          rw [List.mem_singleton.mp member] at more
          exact absurd more (Nat.lt_irrefl _)
      | cons next more =>
          rw [nearestHzIn] at found
          split at found
          · rename_i capped
            cases found
            refine ⟨List.mem_cons_self, fun low member less => absurd less (noneBelow low member), ?_⟩
            intro under
            exact absurd (under capped.1) (Nat.not_lt_of_le capped.2)
          · rename_i uncapped
            split at found
            · rename_i nearer
              cases found
              refine ⟨List.mem_cons_self, fun low member less => absurd less (noneBelow low member), ?_⟩
              intro _ high member above
              -- The next entry is the nearest of those above.
              have nextLeast : next ≤ high := by
                rcases List.mem_cons.mp member with rfl | later
                · exact absurd above (Nat.lt_irrefl high)
                · rcases List.mem_cons.mp later with rfl | last
                  · exact Nat.le_refl high
                  · exact Nat.le_of_lt ((List.pairwise_cons.mp restAscending).1 high last)
              omega
            · rename_i further
              obtain ⟨entry, below, above⟩ := ih restAscending found
              have firstLess := least hz entry
              have nextLeast : next ≤ hz := by
                rcases List.mem_cons.mp entry with rfl | last
                · exact Nat.le_refl hz
                · exact Nat.le_of_lt ((List.pairwise_cons.mp restAscending).1 hz last)
              refine ⟨List.mem_cons_of_mem first entry, ?_, ?_⟩
              · intro low member less
                rcases List.mem_cons.mp member with rfl | later
                · -- It is below the next entry, which is the one picked or below it.
                  have nextMore := least next List.mem_cons_self
                  have nextFurther := below next List.mem_cons_self
                  omega
                · exact below low later less
              · intro under high member more
                rcases List.mem_cons.mp member with rfl | later
                · omega
                · exact above under high later more

/-- The greatest of the entries below a rate. -/
theorem exists_predecessor {low : Nat} (member : low ∈ row) (less : low < hz) :
    ∃ previous ∈ row, previous < hz ∧ ∀ entry ∈ row, entry < hz → entry ≤ previous := by
  induction row generalizing low with
  | nil => contradiction
  | cons first rest ih =>
      by_cases later : ∃ entry ∈ rest, entry < hz
      · obtain ⟨entry, inRest, under⟩ := later
        obtain ⟨previous, isEntry, previousLess, greatest⟩ := ih inRest under
        by_cases greater : previous < first ∧ first < hz
        · refine ⟨first, List.mem_cons_self, greater.2, fun other isOther otherLess => ?_⟩
          rcases List.mem_cons.mp isOther with rfl | inRest
          · exact Nat.le_refl other
          · exact Nat.le_trans (greatest other inRest otherLess) (Nat.le_of_lt greater.1)
        · refine ⟨previous, List.mem_cons_of_mem first isEntry, previousLess, ?_⟩
          intro other isOther otherLess
          rcases List.mem_cons.mp isOther with rfl | inRest
          · omega
          · exact greatest other inRest otherLess
      · have only : ∀ entry ∈ first :: rest, entry < hz → entry = first := by
          intro entry isEntry entryLess
          rcases List.mem_cons.mp isEntry with rfl | inRest
          · rfl
          · exact absurd ⟨entry, inRest, entryLess⟩ later
        have same := only low member less
        refine ⟨first, List.mem_cons_self, same ▸ less, fun entry isEntry entryLess => ?_⟩
        exact Nat.le_of_eq (only entry isEntry entryLess)

end

/-- An entry of the list that may be set and, under the cap, is not further away than any other:
the lower one where two are equally far. -/
structure NearestUnderCap (module : Module) (freqs : List Nat) (inHz maxHz hz : Nat) : Prop where
  entry : hz ∈ freqs
  assignable : isAssignableHz module hz = true
  capped : 0 < maxHz →
    (∃ other ∈ freqs, isAssignableHz module other = true ∧ other ≤ maxHz) → hz ≤ maxHz
  nearest : ∀ other ∈ freqs, isAssignableHz module other = true → (maxHz = 0 ∨ other ≤ maxHz) →
    Nat.dist inHz hz ≤ Nat.dist inHz other ∧
      (Nat.dist inHz hz = Nat.dist inHz other → hz ≤ other)

/-- A cap between two neighbours of the row leaves the nearest entry where the rate is not nearer
to the upper one. -/
def CapLeavesNearest (row : List Nat) (inHz maxHz : Nat) : Prop :=
  ∀ low ∈ row, ∀ high ∈ row, low < maxHz → maxHz < high →
    (∀ entry ∈ row, entry ≤ low ∨ high ≤ entry) → 2 * inHz ≤ low + high

theorem StopsAt.nearestUnderCap_iff {module : Module} {freqs : List Nat} {inHz maxHz hz : Nat}
    (stops : StopsAt (freqs.filter (isAssignableHz module)) inHz maxHz hz) :
    NearestUnderCap module freqs inHz maxHz hz ↔
      CapLeavesNearest (freqs.filter (isAssignableHz module)) inHz maxHz := by
  obtain ⟨inRow, below, above⟩ := stops
  obtain ⟨entry, assignable⟩ := List.mem_filter.mp inRow
  constructor
  · intro nearest low isLow high isHigh lowLess highMore neighbours
    obtain ⟨lowEntry, lowAssignable⟩ := List.mem_filter.mp isLow
    have capped := nearest.capped (by omega) ⟨low, lowEntry, lowAssignable, Nat.le_of_lt lowLess⟩
    have atMost : hz ≤ low := by
      rcases neighbours hz inRow with at_most | at_least
      · exact at_most
      · omega
    have nearer := above (fun _ => by omega) high isHigh (by omega)
    omega
  · intro leaves
    have under : 0 < maxHz →
        (∃ other ∈ freqs, isAssignableHz module other = true ∧ other ≤ maxHz) → hz ≤ maxHz := by
      rintro isCap ⟨other, isOther, otherAssignable, otherUnder⟩
      by_contra exceeds
      -- The cap lies between the entry and its predecessor, which is then not further away.
      have member := List.mem_filter.mpr ⟨isOther, otherAssignable⟩
      have otherLess : other < hz := by omega
      obtain ⟨previous, isPrevious, previousLess, greatest⟩ := exists_predecessor member otherLess
      obtain ⟨further, previousUnder⟩ := below previous isPrevious previousLess
      have neighbours : ∀ entry ∈ freqs.filter (isAssignableHz module),
          entry ≤ previous ∨ hz ≤ entry := by
        intro entry isEntry
        by_cases less : entry < hz
        · exact .inl (greatest entry isEntry less)
        · exact .inr (by omega)
      have nearer := leaves previous isPrevious hz inRow (previousUnder isCap) (by omega) neighbours
      omega
    refine ⟨entry, assignable, under, fun other isOther otherAssignable allowed => ?_⟩
    have member := List.mem_filter.mpr ⟨isOther, otherAssignable⟩
    unfold Nat.dist
    rcases Nat.lt_trichotomy other hz with lower | same | higher
    · have further := (below other member lower).1
      omega
    · omega
    · have nearer := above (fun isCap => by omega) other member higher
      omega

/-- The entry is the nearest under the cap unless the row is empty or the cap lies between two
neighbours and the rate nearer to the upper one. -/
theorem getNearestHz_underCap_iff (module : Module) {freqs : List Nat}
    (ascending : freqs.Pairwise (· < ·)) (fits : freqs.length ≤ hocclkFreqListMax)
    (table : FreqTable) (inHz maxHz : Nat) :
    (∃ hz, (table.refreshFreqTableRow module freqs).getNearestHz inHz maxHz = some hz ∧
        NearestUnderCap module freqs inHz maxHz hz) ↔
      (∃ hz ∈ freqs, isAssignableHz module hz = true) ∧
        CapLeavesNearest (freqs.filter (isAssignableHz module)) inHz maxHz := by
  have lookup := FreqTable.getNearestHz_row (table.refreshFreqTableRow_count module fits) inHz maxHz
  rw [lookup, table.refreshFreqTableRow_row module fits]
  have rowAscending : (freqs.filter (isAssignableHz module)).Pairwise (· < ·) := ascending.filter _
  constructor
  · rintro ⟨hz, found, nearest⟩
    have stops := nearestHzIn_stopsAt rowAscending found
    exact ⟨⟨hz, nearest.entry, nearest.assignable⟩, stops.nearestUnderCap_iff.mp nearest⟩
  · rintro ⟨⟨first, isEntry, assignable⟩, leaves⟩
    have nonempty := List.ne_nil_of_mem (List.mem_filter.mpr ⟨isEntry, assignable⟩)
    obtain ⟨hz, found⟩ := nearestHzIn_returns inHz maxHz nonempty
    have stops := nearestHzIn_stopsAt rowAscending found
    exact ⟨hz, found, stops.nearestUnderCap_iff.mpr leaves⟩

/-- The processor's rates of a console, the lowest of which may not be set. -/
def sampleFreqs : List Nat := [204000000, 1020000000, 1224000000, 1785000000]

def sampleRow : FreqTable := { count := 0, list := List.replicate 32 0, slots := by decide }

/-- Under a cap of 1581 MHz the entry below it is picked where the rate is not nearer to the next. -/
theorem getNearestHz_underCap_iff_sample :
    (∃ hz, (sampleRow.refreshFreqTableRow .cpu sampleFreqs).getNearestHz 1500000000 1581000000 = some hz ∧
        NearestUnderCap .cpu sampleFreqs 1500000000 1581000000 hz) ↔
      (∃ hz ∈ sampleFreqs, isAssignableHz .cpu hz = true) ∧
        CapLeavesNearest (sampleFreqs.filter (isAssignableHz .cpu)) 1500000000 1581000000 :=
  getNearestHz_underCap_iff .cpu (by decide) (by decide) sampleRow 1500000000 1581000000

/-- At 1785 MHz under that cap, the entry above it is picked. -/
theorem getNearestHz_exceeds_cap :
    ¬∀ (module : Module) (freqs : List Nat), freqs.Pairwise (· < ·) →
      freqs.length ≤ hocclkFreqListMax → ∀ (table : FreqTable) (inHz maxHz : Nat), 0 < inHz →
        ∃ hz, (table.refreshFreqTableRow module freqs).getNearestHz inHz maxHz = some hz ∧
          NearestUnderCap module freqs inHz maxHz hz := by
  intro holds
  obtain ⟨hz, found, nearest⟩ := holds .cpu sampleFreqs (by decide) (by decide) sampleRow
    1785000000 1581000000 (by decide)
  have picked : (sampleRow.refreshFreqTableRow .cpu sampleFreqs).getNearestHz 1785000000
      1581000000 = some 1785000000 := by
    rw [FreqTable.getNearestHz_row (by decide)]
    decide
  have same := Option.some.inj (picked.symm.trans found)
  have capped := nearest.capped (by decide) ⟨1224000000, by decide, by decide, by decide⟩
  rw [← same] at capped
  exact absurd capped (by decide)

end HorizonOc.Sysmodule
