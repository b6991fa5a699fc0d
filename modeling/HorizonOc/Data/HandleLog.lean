import Mathlib.Data.List.Nodup

namespace HorizonOc.Data

inductive HandleEvent (η : Type) where
  | opened (handle : η)
  | used (handle : η)
  | closed (handle : η)
deriving DecidableEq, Repr

variable {η : Type} [DecidableEq η] {live after : List η} {events : List (HandleEvent η)}

/-- The live handles in the order in which they were opened; none once one is opened that is live,
or one is used or closed that is not. -/
def follow (live : List η) : List (HandleEvent η) → Option (List η)
  | [] => some live
  | .opened handle :: rest => if handle ∈ live then none else follow (live ++ [handle]) rest
  | .used handle :: rest => if handle ∈ live then follow live rest else none
  | .closed handle :: rest => if handle ∈ live then follow (live.erase handle) rest else none

theorem follow_append (live : List η) (first second : List (HandleEvent η)) :
    follow live (first ++ second) = (follow live first).bind (follow · second) := by
  induction first generalizing live with
  | nil => rfl
  | cons event rest ih =>
      cases event with
      | opened handle | used handle | closed handle =>
          simp only [List.cons_append, follow, ih]
          split <;> rfl

theorem follow_snoc (followed : follow live events = some after) (event : HandleEvent η) :
    follow live (events ++ [event]) = follow after [event] := by
  rw [follow_append, followed, Option.bind_some]

/-- The live handles stay apart. -/
theorem follow_nodup (nodup : live.Nodup) (followed : follow live events = some after) :
    after.Nodup := by
  induction events generalizing live with
  | nil => exact Option.some.inj followed ▸ nodup
  | cons event rest ih =>
      cases event with
      | opened handle =>
          simp only [follow] at followed
          split at followed
          · contradiction
          · rename_i absent
            refine ih (List.nodup_append.mpr ⟨nodup, List.nodup_singleton handle, ?_⟩) followed
            intro member inside other single
            rw [List.mem_singleton.mp single]
            rintro rfl
            exact absent inside
      | used handle =>
          simp only [follow] at followed
          split at followed
          · exact ih nodup followed
          · contradiction
      | closed handle =>
          simp only [follow] at followed
          split at followed
          · exact ih (nodup.erase handle) followed
          · contradiction

/-- A handle is closed as often as it is opened, but for what is live at the ends of the log. -/
theorem follow_count (followed : follow live events = some after) (handle : η) :
    live.count handle + events.count (.opened handle) =
      after.count handle + events.count (.closed handle) := by
  induction events generalizing live with
  | nil => simp [Option.some.inj followed]
  | cons event rest ih =>
      cases event with
      | opened other =>
          simp only [follow] at followed
          split at followed
          · contradiction
          · have later := ih followed
            simp only [List.count_append, List.count_cons, List.count_nil, beq_iff_eq,
              HandleEvent.opened.injEq, reduceCtorEq, if_false] at later ⊢
            omega
      | used other =>
          simp only [follow] at followed
          split at followed
          · simpa [List.count_cons] using ih followed
          · contradiction
      | closed other =>
          simp only [follow] at followed
          split at followed
          · rename_i present
            have later := ih followed
            simp only [List.count_cons, beq_iff_eq, HandleEvent.closed.injEq, reduceCtorEq, if_false]
            by_cases same : other = handle
            · subst same
              have positive := List.count_pos_iff.mpr present
              rw [List.count_erase_self] at later
              rw [if_pos rfl]
              omega
            · rw [List.count_erase_of_ne (Ne.symm same)] at later
              rw [if_neg same]
              omega
          · contradiction

/-- All handles that are live are closed. -/
theorem follow_closeAll (live : List η) : follow live (live.map .closed) = some [] := by
  induction live with
  | nil => rfl
  | cons handle rest ih => simp [follow, ih]

end HorizonOc.Data
