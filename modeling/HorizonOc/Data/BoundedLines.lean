import Mathlib.Tactic.TypeStar

namespace HorizonOc.Data

/-! Text that is read line by line through a buffer: a read stops behind the end of a line or where
the buffer is full. -/

section

variable {α : Type} (stop : α → Bool) (limit : Nat)

/-- The first line with its end. -/
def firstLine : List α → List α
  | [] => []
  | symbol :: rest => if stop symbol then [symbol] else symbol :: firstLine rest

def chunk (text : List α) : List α := (firstLine stop text).take limit

/-- All that is read before the end of the text. -/
def chunks (text : List α) : List (List α) :=
  if text = [] ∨ limit = 0 then []
  else chunk stop limit text :: chunks (text.drop (chunk stop limit text).length)
termination_by text.length
decreasing_by
  rename_i nothing
  obtain ⟨filled, _⟩ := not_or.mp nothing
  obtain ⟨symbol, rest, rfl⟩ := List.exists_cons_of_ne_nil filled
  have read : 0 < (chunk stop limit (symbol :: rest)).length := by
    rw [chunk, List.length_take, firstLine]
    split
    · simp only [List.length_singleton]
      omega
    · simp only [List.length_cons]
      omega
  rw [List.length_drop, List.length_cons]
  omega

end

section

variable {α : Type} {stop : α → Bool} {limit : Nat} {text block rest : List α}

theorem firstLine_splits (text : List α) :
    firstLine stop text ++ text.drop (firstLine stop text).length = text := by
  induction text with
  | nil => rfl
  | cons symbol rest ih =>
      rw [firstLine]
      split
      · rfl
      · simpa using ih

theorem firstLine_ne_nil (filled : text ≠ []) : firstLine stop text ≠ [] := by
  obtain ⟨symbol, rest, rfl⟩ := List.exists_cons_of_ne_nil filled
  rw [firstLine]
  split <;> exact List.cons_ne_nil _ _

/-- A line that has an end is not followed by what lies behind it. -/
theorem firstLine_append (ended : ∃ symbol ∈ block, stop symbol = true) :
    firstLine stop (block ++ rest) = firstLine stop block := by
  induction block with
  | nil => simp at ended
  | cons symbol block ih =>
      rw [List.cons_append, firstLine, firstLine]
      by_cases ends : stop symbol = true
      · rw [if_pos ends, if_pos ends]
      · rw [if_neg ends, if_neg ends, ih]
        obtain ⟨other, member, stops⟩ := ended
        rcases List.mem_cons.mp member with rfl | later
        · contradiction
        · exact ⟨other, later, stops⟩

theorem firstLine_of_no_stop (endless : ∀ symbol ∈ text, stop symbol = false) :
    firstLine stop text = text := by
  induction text with
  | nil => rfl
  | cons symbol rest ih =>
      rw [firstLine, if_neg (by simp [endless symbol List.mem_cons_self]),
        ih fun later member => endless later (List.mem_cons_of_mem symbol member)]

theorem firstLine_snoc (endless : ∀ symbol ∈ block, stop symbol = false) {ending : α}
    (ends : stop ending = true) : firstLine stop (block ++ ending :: rest) = block ++ [ending] := by
  induction block with
  | nil => simp [firstLine, ends]
  | cons symbol block ih =>
      rw [List.cons_append, firstLine, if_neg (by simp [endless symbol List.mem_cons_self]),
        ih fun later member => endless later (List.mem_cons_of_mem symbol member), List.cons_append]

/-- Where the first line has no end, it is the whole text. -/
theorem firstLine_ends (stop : α → Bool) (text : List α) :
    firstLine stop text = text ∨ ∃ symbol, (firstLine stop text).getLast? = some symbol ∧
      stop symbol = true := by
  induction text with
  | nil => exact .inl rfl
  | cons symbol rest ih =>
      rw [firstLine]
      split
      · rename_i ends
        exact .inr ⟨symbol, rfl, ends⟩
      · rcases ih with whole | ⟨last, found, ends⟩
        · exact .inl (by rw [whole])
        · refine .inr ⟨last, ?_, ends⟩
          rw [List.getLast?_cons, found, Option.getD_some]

theorem chunk_splits (stop : α → Bool) (limit : Nat) (text : List α) :
    chunk stop limit text ++ text.drop (chunk stop limit text).length = text := by
  have line : firstLine stop text <+: text :=
    List.prefix_iff_eq_append.mpr (firstLine_splits text)
  exact List.prefix_iff_eq_append.mp ((List.take_prefix limit _).trans line)

theorem chunk_length_le (stop : α → Bool) (limit : Nat) (text : List α) : (chunk stop limit text).length ≤ limit := by
  rw [chunk, List.length_take]
  exact Nat.min_le_left _ _

theorem chunk_ne_nil (stop : α → Bool) (room : 0 < limit) (filled : text ≠ []) : chunk stop limit text ≠ [] := by
  rw [chunk, ne_eq, List.take_eq_nil_iff]
  exact not_or.mpr ⟨Nat.pos_iff_ne_zero.mp room, firstLine_ne_nil filled⟩

/-- The block of text that a read does not go beyond: one that ends a line, ends the text or fills
the buffer. -/
def Closes (stop : α → Bool) (limit : Nat) (block rest : List α) : Prop :=
  (∃ symbol, block.getLast? = some symbol ∧ stop symbol = true) ∨ rest = [] ∨ limit ≤ block.length

theorem chunk_closes (stop : α → Bool) (limit : Nat) (text : List α) :
    Closes stop limit (chunk stop limit text) (text.drop (chunk stop limit text).length) := by
  by_cases long : limit ≤ (firstLine stop text).length
  · refine .inr (.inr ?_)
    rw [chunk, List.length_take]
    omega
  · have whole : chunk stop limit text = firstLine stop text :=
      List.take_of_length_le (Nat.le_of_not_le long)
    rw [whole]
    rcases firstLine_ends stop text with all | ended
    · exact .inr (.inl (by rw [all, List.drop_length]))
    · exact .inl ended

/-- A read inside a block that closes stays inside the block. -/
theorem chunk_append (closes : Closes stop limit block rest) :
    chunk stop limit (block ++ rest) = chunk stop limit block := by
  rcases closes with ⟨symbol, last, ends⟩ | rfl | full
  · rw [chunk, firstLine_append ⟨symbol, List.mem_of_getLast? last, ends⟩, chunk]
  · rw [List.append_nil]
  · by_cases ended : ∃ symbol ∈ block, stop symbol = true
    · rw [chunk, firstLine_append ended, chunk]
    · have endless : ∀ symbol ∈ block, stop symbol = false := by
        simpa using ended
      have longer : ∃ more, firstLine stop (block ++ rest) = block ++ more := by
        clear full ended
        induction block with
        | nil => exact ⟨firstLine stop rest, rfl⟩
        | cons symbol block ih =>
            obtain ⟨more, found⟩ := ih fun later member =>
              endless later (List.mem_cons_of_mem symbol member)
            refine ⟨more, ?_⟩
            rw [List.cons_append, firstLine, if_neg (by simp [endless symbol List.mem_cons_self]),
              found, List.cons_append]
      obtain ⟨more, found⟩ := longer
      rw [chunk, found, chunk, firstLine_of_no_stop endless, List.take_append_of_le_length full]

theorem chunks_nil : chunks stop limit [] = [] := by
  rw [chunks, if_pos (.inl rfl)]

theorem chunks_of_ne_nil (room : 0 < limit) (filled : text ≠ []) :
    chunks stop limit text =
      chunk stop limit text :: chunks stop limit (text.drop (chunk stop limit text).length) := by
  rw [chunks, if_neg (not_or.mpr ⟨filled, Nat.pos_iff_ne_zero.mp room⟩)]

/-- Each read takes up where the one before stopped. -/
theorem chunks_induct (stop : α → Bool) (room : 0 < limit) {motive : List α → Prop} (nil : motive [])
    (read : ∀ text, text ≠ [] → motive (text.drop (chunk stop limit text).length) → motive text)
    (text : List α) : motive text := by
  generalize size : text.length = count
  induction count using Nat.strongRecOn generalizing text with
  | ind count ih =>
    by_cases filled : text = []
    · rw [filled]
      exact nil
    · have taken := List.length_pos_iff.mpr (chunk_ne_nil stop room filled)
      have some := List.length_pos_iff.mpr filled
      exact read text filled (ih _ (by rw [List.length_drop]; omega) _ rfl)

theorem chunks_flatten (room : 0 < limit) (text : List α) :
    (chunks stop limit text).flatten = text := by
  induction text using chunks_induct stop room with
  | nil => rw [chunks_nil, List.flatten_nil]
  | read text filled ih =>
      rw [chunks_of_ne_nil room filled, List.flatten_cons, ih, chunk_splits]

end

end HorizonOc.Data
