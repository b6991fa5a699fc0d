import Mathlib.Tactic.TypeStar

namespace HorizonOc.Data

/-! INI files as lists of sections, and what minIni does to them.  A character stands for a byte. -/

structure IniSection where
  name : String
  pairs : List (String × String)
deriving DecidableEq, Repr

/-- minIni looks for a section without regard to case. -/
def sameSection (name : String) (candidate : IniSection) : Bool :=
  candidate.name.toList.map Char.toUpper = name.toList.map Char.toUpper

/-- A section without pairs is not written. -/
def newSection (name : String) (pairs : List (String × String)) : List IniSection :=
  if pairs = [] then [] else [{ name, pairs }]

/-- `ini_putsection`: the first section of that name is replaced, or a new one is added at the end. -/
def putSection (name : String) (pairs : List (String × String)) : List IniSection → List IniSection
  | [] => newSection name pairs
  | candidate :: rest =>
      if sameSection name candidate then newSection name pairs ++ rest
      else candidate :: putSection name pairs rest

/-- The order in which `ini_browse` calls back, with what the callback does to a state. -/
def browse {α : Type} (callback : α → String → String → String → α) (state : α)
    (sections : List IniSection) : α :=
  sections.foldl
    (fun state candidate =>
      candidate.pairs.foldl (fun state pair => callback state candidate.name pair.1 pair.2) state)
    state

section

variable {name : String} {pairs : List (String × String)} {sections : List IniSection}

theorem newSection_same {candidate : IniSection} (member : candidate ∈ newSection name pairs) :
    sameSection name candidate = true := by
  unfold newSection at member
  split at member
  · contradiction
  · rw [List.mem_singleton.mp member]
    simp [sameSection]

theorem mem_putSection {candidate : IniSection}
    (member : candidate ∈ putSection name pairs sections) :
    candidate ∈ newSection name pairs ∨ candidate ∈ sections := by
  induction sections with
  | nil => exact .inl member
  | cons first rest ih =>
      rw [putSection] at member
      split at member
      · rcases List.mem_append.mp member with new | old
        · exact .inl new
        · exact .inr (List.mem_cons_of_mem first old)
      · rcases List.mem_cons.mp member with rfl | later
        · exact .inr List.mem_cons_self
        · exact (ih later).imp_right (List.mem_cons_of_mem first)

/-- The other sections stay, in their order. -/
theorem putSection_others (keep : IniSection → Bool)
    (others : ∀ candidate, sameSection name candidate = true → keep candidate = false) :
    (putSection name pairs sections).filter keep = sections.filter keep := by
  have replaced : (newSection name pairs).filter keep = [] := by
    rw [List.filter_eq_nil_iff]
    intro candidate member
    simp [others candidate (newSection_same member)]
  induction sections with
  | nil => exact replaced
  | cons candidate rest ih =>
      rw [putSection]
      by_cases same : sameSection name candidate = true
      · rw [if_pos same, List.filter_append, replaced, List.nil_append, List.filter_cons,
          if_neg (by simp [others candidate same])]
      · rw [if_neg same, List.filter_cons, List.filter_cons, ih]

/-- Where at most one section has the name, the new one is the only one left. -/
theorem putSection_same (single : (sections.filter (sameSection name)).length ≤ 1) :
    (putSection name pairs sections).filter (sameSection name) = newSection name pairs := by
  have kept : (newSection name pairs).filter (sameSection name) = newSection name pairs :=
    List.filter_eq_self.mpr fun candidate member => newSection_same member
  induction sections with
  | nil => exact kept
  | cons candidate rest ih =>
      rw [putSection]
      by_cases same : sameSection name candidate = true
      · rw [List.filter_cons, if_pos same, List.length_cons] at single
        have none : rest.filter (sameSection name) = [] := by
          apply List.eq_nil_of_length_eq_zero
          omega
        rw [if_pos same, List.filter_append, kept, none, List.append_nil]
      · rw [List.filter_cons, if_neg same] at single
        rw [if_neg same, List.filter_cons, if_neg same, ih single]

end

section

variable {α β : Type} {callback : α → String → String → String → α}

/-- The pairs of a section that was just put. -/
theorem browse_newSection (name : String) (pairs : List (String × String)) (state : α) :
    browse callback state (newSection name pairs) =
      pairs.foldl (fun state pair => callback state name pair.1 pair.2) state := by
  unfold newSection
  split
  · rename_i none
    rw [none]
    rfl
  · rfl

/-- What a callback leaves in a part of the state is decided by the sections that touch the part. -/
theorem browse_filter (view : α → β) (keep : IniSection → Bool)
    (untouched : ∀ candidate, keep candidate = false → ∀ state key value,
      view (callback state candidate.name key value) = view state)
    (congruent : ∀ candidate first second key value, view first = view second →
      view (callback first candidate key value) = view (callback second candidate key value))
    (sections : List IniSection) (first second : α) (same : view first = view second) :
    view (browse callback first sections) = view (browse callback second (sections.filter keep)) := by
  have skip (candidate : IniSection) (dropped : keep candidate = false)
      (pairs : List (String × String)) (state : α) :
      view (pairs.foldl (fun state pair => callback state candidate.name pair.1 pair.2) state) =
        view state := by
    induction pairs generalizing state with
    | nil => rfl
    | cons pair rest ih => exact (ih _).trans (untouched candidate dropped state pair.1 pair.2)
  have follow (name : String) (pairs : List (String × String)) (first second : α)
      (same : view first = view second) :
      view (pairs.foldl (fun state pair => callback state name pair.1 pair.2) first) =
        view (pairs.foldl (fun state pair => callback state name pair.1 pair.2) second) := by
    induction pairs generalizing first second with
    | nil => exact same
    | cons pair rest ih => exact ih _ _ (congruent name first second pair.1 pair.2 same)
  unfold browse
  induction sections generalizing first second with
  | nil => exact same
  | cons candidate rest ih =>
      rw [List.foldl_cons, List.filter_cons]
      cases kept : keep candidate with
      | true => exact ih _ _ (follow candidate.name candidate.pairs first second same)
      | false => exact ih _ _ ((skip candidate kept candidate.pairs first).trans same)

end

end HorizonOc.Data
