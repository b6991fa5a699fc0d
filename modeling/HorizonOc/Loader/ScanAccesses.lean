import HorizonOc.Loader.Patcher

namespace HorizonOc.Loader

open HorizonOc.Data

/-- A patcher with the images and positions at which all that it accesses is allowed. -/
structure FittedEntry where
  entry : PatcherEntry
  fits : Int → Image → Bool

/-- Every patcher that is called at a position fits the image as it then is. -/
def callsFit : List FittedEntry → Int → Image → Bool
  | [], _, _ => true
  | fitted :: rest, ptr, store =>
      if fitted.entry.search.found (store.word ptr) then
        fitted.fits ptr store &&
          ((fitted.entry.patcher ptr store).succeeded ||
            callsFit rest ptr (fitted.entry.patcher ptr store).store)
      else callsFit rest ptr store

section

variable {allowed : Int → Prop} {ptr : Int} {store : Image} {entry : PatcherEntry}

theorem search_run (search : Search) (ptr : Int) (store : Image) :
    Tracked.run (search.run ptr) store = (.ok (search.found (store.word ptr)), store) := by
  cases search with
  | value searched => rfl
  | pattern holds => rfl

theorem confined_search (search : Search) :
    Tracked.Confined allowed (search.run ptr) store ↔ allowed ptr := by
  cases search with
  | value searched => exact Tracked.confined_compare _ _
  | pattern holds =>
      rw [Search.run, Tracked.confined_bind]
      simp

theorem confined_searchAndApply :
    Tracked.Confined allowed (entry.searchAndApply ptr) store ↔
      allowed ptr ∧ (entry.search.found (store.word ptr) = true →
        Tracked.Confined allowed (entry.patcher ptr) store) := by
  obtain ⟨result, stored⟩ := Prod.mk.inj (search_run entry.search ptr store)
  rw [PatcherEntry.searchAndApply, Tracked.confined_bind_of_ok result, confined_search, stored]
  cases entry.search.found (store.word ptr) with
  | true => simp
  | false => simp

theorem searchAndApply_run (entry : PatcherEntry) (ptr : Int) (store : Image) :
    Tracked.run (entry.searchAndApply ptr) store =
      if entry.search.found (store.word ptr) then Tracked.run (entry.patcher ptr) store
      else (.error .unsuccessfulPatcher, store) := by
  rw [PatcherEntry.searchAndApply, Tracked.run_bind_of_ok (search_run entry.search ptr store)]
  cases entry.search.found (store.word ptr) with
  | true => rfl
  | false => rfl

theorem applyFirst_returns (entries : List PatcherEntry) (ptr : Int) (store : Image) :
    ∃ index, (applyFirst entries ptr store).result = .ok index := by
  induction entries generalizing store with
  | nil => exact ⟨none, rfl⟩
  | cons entry rest ih =>
      have attempted : (Tracked.attempt (entry.searchAndApply ptr) store :
          Outcome Word PatchState LdrResult Bool).result =
            .ok (entry.searchAndApply ptr store).succeeded := rfl
      rw [applyFirst, Tracked.bind_of_ok attempted]
      cases (entry.searchAndApply ptr store).succeeded with
      | true => exact ⟨some 0, rfl⟩
      | false =>
          obtain ⟨index, later⟩ := ih (entry.searchAndApply ptr store).store
          exact ⟨index.map (· + 1), congrArg Outcome.result (Tracked.bind_of_ok later)⟩

/-- Later patchers are tried only where the first fails. -/
theorem confined_applyFirst_cons {rest : List PatcherEntry} :
    Tracked.Confined allowed (applyFirst (entry :: rest) ptr) store ↔
      Tracked.Confined allowed (entry.searchAndApply ptr) store ∧
        ((entry.searchAndApply ptr store).succeeded = false →
          Tracked.Confined allowed (applyFirst rest ptr)
            (entry.searchAndApply ptr store).store) := by
  have attempted : (Tracked.attempt (entry.searchAndApply ptr) store :
      Outcome Word PatchState LdrResult Bool).result =
        .ok (entry.searchAndApply ptr store).succeeded := rfl
  rw [applyFirst, Tracked.confined_bind_of_ok attempted, Tracked.confined_attempt]
  apply and_congr_right
  intro _
  cases (entry.searchAndApply ptr store).succeeded with
  | true => simp
  | false =>
      rw [if_neg Bool.false_ne_true, Tracked.confined_bind]
      simp only [Tracked.confined_pure, implies_true, and_true, forall_const]
      rfl

theorem confined_applyFirst {entries : List FittedEntry} (here : allowed ptr)
    (fits : ∀ fitted ∈ entries, ∀ store,
      Tracked.Confined allowed (fitted.entry.patcher ptr) store ↔ fitted.fits ptr store = true) :
    Tracked.Confined allowed (applyFirst (entries.map FittedEntry.entry) ptr) store ↔
      callsFit entries ptr store = true := by
  induction entries generalizing store with
  | nil => simp [applyFirst, callsFit]
  | cons fitted rest ih =>
      have later (after : Image) := @ih after fun other member =>
        fits other (List.mem_cons_of_mem fitted member)
      have run := searchAndApply_run fitted.entry ptr store
      rw [List.map_cons, confined_applyFirst_cons, confined_searchAndApply, later, callsFit,
        fits fitted List.mem_cons_self, Outcome.succeeded]
      by_cases found : fitted.entry.search.found (store.word ptr) = true
      · rw [if_pos found] at run
        obtain ⟨result, stored⟩ := Prod.mk.inj run
        rw [result, stored]
        cases succeeded : (fitted.entry.patcher ptr store).succeeded with
        | true => simp_all [Outcome.succeeded]
        | false => simp_all [Outcome.succeeded]
      · rw [if_neg found] at run
        obtain ⟨result, stored⟩ := Prod.mk.inj run
        rw [result, stored, if_neg found]
        simp [here, found, Except.toBool]

theorem scan_returns (entries : List PatcherEntry) (count : Nat) (store : Image) :
    ∃ counts, (scan entries count store).result = .ok counts := by
  induction count with
  | zero => exact ⟨_, rfl⟩
  | succ count ih =>
      obtain ⟨counts, earlier⟩ := ih
      obtain ⟨index, applied⟩ := applyFirst_returns entries count (scan entries count store).store
      rw [scan, Tracked.bind_of_ok earlier]
      exact ⟨_, congrArg Outcome.result (Tracked.bind_of_ok applied)⟩

/-- A scan accesses what its positions do, each on the image that those before it leave. -/
theorem confined_scan (entries : List PatcherEntry) (count : Nat) :
    Tracked.Confined allowed (scan entries count) store ↔
      ∀ position < count, Tracked.Confined allowed (applyFirst entries position)
        (scan entries position store).store := by
  induction count with
  | zero => simp [scan]
  | succ count ih =>
      obtain ⟨counts, earlier⟩ := scan_returns entries count store
      rw [scan, Tracked.confined_bind_of_ok earlier, ih, Tracked.confined_bind,
        Nat.forall_lt_succ_right]
      simp

theorem confined_patch {entries : List PatcherEntry} {mappedNso nsoSize mtcWords : Nat} :
    Tracked.Confined allowed (patch entries mappedNso nsoSize mtcWords) store ↔
      Tracked.Confined allowed (scan entries (scanPositions mappedNso nsoSize mtcWords)) store := by
  rw [patch, Tracked.confined_bind]
  simp

end

end HorizonOc.Loader
