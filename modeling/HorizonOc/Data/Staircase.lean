import Mathlib.Data.List.Forall2
import Mathlib.Order.Basic

namespace HorizonOc.Data

variable {τ β : Type}

/-- The value behind the first condition that holds, or else the top one. -/
def firstHolding (conditions : List Bool) (values : List β) (top : β) : β :=
  (conditions.zip values).foldr (fun choice rest => if choice.1 then choice.2 else rest) top

/-- The value of the first threshold that covers an input. -/
def staircase (covers : τ → Bool) (thresholds : List τ) (values : List β) (top : β) : β :=
  firstHolding (thresholds.map covers) values top

section

variable {condition : Bool} {conditions : List Bool} {value top : β} {values : List β}

@[simp] theorem firstHolding_nil : firstHolding [] values top = top := rfl

@[simp] theorem firstHolding_cons : firstHolding (condition :: conditions) (value :: values) top =
    if condition then value else firstHolding conditions values top := rfl

@[simp] theorem firstHolding_no_values : firstHolding conditions [] top = top := by
  cases conditions <;> rfl

/-- A function of the values of a table makes a table of its values. -/
theorem firstHolding_map {γ : Type} (f : β → γ) :
    f (firstHolding conditions values top) = firstHolding conditions (values.map f) (f top) := by
  induction values generalizing conditions with
  | nil => simp
  | cons value values ih =>
      cases conditions with
      | nil => rfl
      | cons condition conditions =>
          rw [firstHolding_cons, List.map_cons, firstHolding_cons, apply_ite f, ih]

theorem staircase_map {γ : Type} (f : β → γ) {covers : τ → Bool} {thresholds : List τ} :
    f (staircase covers thresholds values top) =
      staircase covers thresholds (values.map f) (f top) :=
  firstHolding_map f

theorem firstHolding_mem : firstHolding conditions values top ∈ values ++ [top] := by
  induction values generalizing conditions with
  | nil => simp
  | cons value values ih =>
      cases conditions with
      | nil => simp
      | cons condition conditions =>
          rw [firstHolding_cons, List.cons_append]
          split
          · exact List.mem_cons_self
          · exact List.mem_cons_of_mem value ih

end

section

variable [Preorder β] {thresholds : List τ} {values : List β} {top : β}

/-- Where more conditions hold, the value is an earlier one. -/
theorem firstHolding_le {fewer more : List Bool}
    (rising : (values ++ [top]).Pairwise fun value later => value ≤ later)
    (implied : List.Forall₂ (fun condition other => condition = true → other = true) fewer more) :
    firstHolding more values top ≤ firstHolding fewer values top := by
  induction implied generalizing values with
  | nil => exact le_refl top
  | @cons condition other conditions others here behind ih =>
      cases values with
      | nil => simp
      | cons value values =>
          obtain ⟨least, rest⟩ := List.pairwise_cons.mp rising
          rw [firstHolding_cons, firstHolding_cons]
          by_cases holds : other = true
          · rw [if_pos holds]
            split
            · exact le_refl value
            · exact least _ firstHolding_mem
          · rw [if_neg holds, if_neg (mt here holds)]
            exact ih rest

/-- An input that fewer thresholds cover has no lower a value. -/
theorem staircase_mono {low high : τ → Bool}
    (rising : (values ++ [top]).Pairwise fun value later => value ≤ later)
    (covered : ∀ threshold, high threshold = true → low threshold = true) :
    staircase low thresholds values top ≤ staircase high thresholds values top := by
  apply firstHolding_le rising
  rw [List.forall₂_map_left_iff, List.forall₂_map_right_iff, List.forall₂_same]
  exact fun threshold _ => covered threshold

/-- Thresholds that cover more inputs lead to no higher a value. -/
theorem staircase_anti {covers : τ → Bool} {wider : List τ}
    (rising : (values ++ [top]).Pairwise fun value later => value ≤ later)
    (widened : List.Forall₂ (fun threshold other => covers threshold = true → covers other = true)
      thresholds wider) :
    staircase covers wider values top ≤ staircase covers thresholds values top := by
  apply firstHolding_le rising
  rw [List.forall₂_map_left_iff, List.forall₂_map_right_iff]
  exact widened

end

end HorizonOc.Data
