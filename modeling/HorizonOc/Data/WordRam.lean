import Mathlib.Logic.Function.Basic
import Mathlib.Data.List.Pairwise
import Mathlib.Data.List.Nodup
import HorizonOc.Data.LittleEndian

namespace HorizonOc.Data

/-! Memories of words that may be broken: what is read back is what was written, as the place lets
it through. -/

structure Ram (σ ω : Type) where
  load : σ → Nat → ω
  store : σ → Nat → ω → σ

/-- Where `usable` holds a place keeps what it lets through, and places that are apart do not touch
each other. -/
structure Ram.Keeps {σ ω : Type} (ram : Ram σ ω) (usable : Nat → Prop) (apart : Nat → Nat → Prop)
    (stick : Nat → ω → ω) : Prop where
  own : ∀ memory place word, usable place →
    ram.load (ram.store memory place word) place = stick place word
  other : ∀ memory place other word, usable place → usable other → apart place other →
    ram.load (ram.store memory place word) other = ram.load memory other

section

variable {σ ω : Type} {ram : Ram σ ω} {usable : Nat → Prop} {apart : Nat → Nat → Prop}
  {stick : Nat → ω → ω} {memory : σ} {place : Nat}

/-- Each word is read, changed and written back, one after another. -/
def Ram.updateAll (ram : Ram σ ω) (updates : List (Nat × (ω → ω))) (memory : σ) : σ :=
  updates.foldl
    (fun memory update => ram.store memory update.1 (update.2 (ram.load memory update.1))) memory

/-- A place that is apart from all that are updated. -/
theorem Ram.Keeps.load_untouched (keeps : ram.Keeps usable apart stick)
    {updates : List (Nat × (ω → ω))} (usableAll : ∀ update ∈ updates, usable update.1)
    (usablePlace : usable place) (away : ∀ update ∈ updates, apart update.1 place) :
    ram.load (ram.updateAll updates memory) place = ram.load memory place := by
  induction updates generalizing memory with
  | nil => rfl
  | cons update rest ih =>
      obtain ⟨usableFirst, usableRest⟩ := List.forall_mem_cons.mp usableAll
      obtain ⟨first, others⟩ := List.forall_mem_cons.mp away
      exact (ih usableRest others).trans (keeps.other _ _ _ _ usableFirst usablePlace first)

/-- Updates of places that are all apart: each has what it lets through of its own update. -/
theorem Ram.Keeps.load_updated (keeps : ram.Keeps usable apart stick)
    (symmetric : ∀ {first second}, apart first second → apart second first)
    {updates : List (Nat × (ω → ω))} (usableAll : ∀ update ∈ updates, usable update.1)
    (pairwise : updates.Pairwise fun first second => apart first.1 second.1)
    {update : Nat × (ω → ω)} (member : update ∈ updates) :
    ram.load (ram.updateAll updates memory) update.1 =
      stick update.1 (update.2 (ram.load memory update.1)) := by
  induction updates generalizing memory with
  | nil => contradiction
  | cons head rest ih =>
      obtain ⟨usableFirst, usableRest⟩ := List.forall_mem_cons.mp usableAll
      obtain ⟨away, others⟩ := List.pairwise_cons.mp pairwise
      rcases List.mem_cons.mp member with rfl | later
      · refine (keeps.load_untouched usableRest usableFirst ?_).trans
          (keeps.own _ _ _ usableFirst)
        exact fun other inRest => symmetric (away other inRest)
      · refine (ih usableRest others later).trans ?_
        rw [keeps.other _ _ _ _ usableFirst (usableRest update later) (away update later)]

end

/-- The bytes of two words do not overlap. -/
def BytesApart (width first second : Nat) : Prop := first + width ≤ second ∨ second + width ≤ first

def loadBytes (width : Nat) (memory : Nat → Byte) (place : Nat) : BitVec (8 * width) :=
  .ofNat _ (leNumber ((List.range width).map fun i => memory (place + i)))

def storeBytes (width : Nat) (memory : Nat → Byte) (place : Nat) (word : BitVec (8 * width))
    (address : Nat) : Byte :=
  if place ≤ address ∧ address < place + width then
    (leBytes width word.toNat).getD (address - place) 0
  else memory address

def byteRam (width : Nat) : Ram (Nat → Byte) (BitVec (8 * width)) where
  load := loadBytes width
  store := storeBytes width

theorem storeBytes_own {width place i : Nat} (memory : Nat → Byte) (word : BitVec (8 * width))
    (inside : i < width) :
    storeBytes width memory place word (place + i) = (leBytes width word.toNat).getD i 0 := by
  rw [storeBytes, if_pos (by omega), Nat.add_sub_cancel_left]

theorem storeBytes_other {width place i other : Nat} (memory : Nat → Byte)
    (word : BitVec (8 * width)) (disjoint : BytesApart width place other) (inside : i < width) :
    storeBytes width memory place word (other + i) = memory (other + i) := by
  unfold BytesApart at disjoint
  exact if_neg (by omega)

theorem byteRam_keeps (width : Nat) :
    (byteRam width).Keeps (fun _ => True) (BytesApart width) (fun _ word => word) where
  own memory place word _ := by
    have bytes : (List.range width).map (fun i => storeBytes width memory place word (place + i)) =
        leBytes width word.toNat := by
      refine List.ext_getElem (by simp) fun i inRange inBytes => ?_
      rw [List.getElem_map, List.getElem_range, storeBytes_own memory word (by simpa using inBytes)]
      exact (List.getElem_eq_getD 0).symm
    change loadBytes width (storeBytes width memory place word) place = word
    rw [loadBytes, bytes, leNumber_leBytes word.isLt]
    exact BitVec.ofNat_toNat _ _ ▸ BitVec.setWidth_eq word
  other memory place other word _ _ disjoint := by
    refine congrArg (fun bytes => BitVec.ofNat _ (leNumber bytes)) (List.map_congr_left ?_)
    intro i member
    exact storeBytes_other memory word disjoint (List.mem_range.mp member)

/-- Each address leads to a cell, and of each cell some bits have always one value. -/
structure Hardware (width : Nat) where
  cell : Nat → Nat
  stuck : Nat → BitVec width
  value : Nat → BitVec width

namespace Hardware

variable {width : Nat} (hardware : Hardware width)

/-- What a place lets through. -/
def stick (place : Nat) (word : BitVec width) : BitVec width :=
  (word &&& ~~~hardware.stuck (hardware.cell place)) |||
    (hardware.value (hardware.cell place) &&& hardware.stuck (hardware.cell place))

def ram : Ram (Nat → BitVec width) (BitVec width) where
  load memory place := hardware.stick place (memory (hardware.cell place))
  store memory place word := Function.update memory (hardware.cell place) word

/-- What a place makes of one bit. -/
def passes (place bit : Nat) (shown : Bool) : Bool :=
  if (hardware.stuck (hardware.cell place)).getLsbD bit = true then
    (hardware.value (hardware.cell place)).getLsbD bit
  else shown

theorem getLsbD_stick (place : Nat) (word : BitVec width) {bit : Nat} (inside : bit < width) :
    (hardware.stick place word).getLsbD bit = hardware.passes place bit (word.getLsbD bit) := by
  rw [stick, passes, BitVec.getLsbD_or, BitVec.getLsbD_and, BitVec.getLsbD_and, BitVec.getLsbD_not]
  cases (hardware.stuck (hardware.cell place)).getLsbD bit <;> simp [inside]

/-- Places with cells of their own keep what they let through. -/
theorem keeps {usable : Nat → Prop}
    (own : ∀ place other, usable place → usable other →
      hardware.cell place = hardware.cell other → place = other) :
    hardware.ram.Keeps usable (· ≠ ·) hardware.stick where
  own memory place word _ := congrArg (hardware.stick place) (Function.update_self _ _ _)
  other memory place other word usablePlace usableOther ne := by
    have cells : hardware.cell other ≠ hardware.cell place :=
      fun same => ne (own place other usablePlace usableOther same.symm)
    exact congrArg (hardware.stick other) (Function.update_of_ne cells _ _)

/-- Where no bit is stuck everything is let through. -/
theorem stick_of_sound {place : Nat} (sound : hardware.stuck (hardware.cell place) = 0)
    (word : BitVec width) : hardware.stick place word = word := by
  refine BitVec.eq_of_getLsbD_eq fun bit inside => ?_
  rw [hardware.getLsbD_stick place word inside, passes, sound, if_neg]
  rw [BitVec.ofNat_eq_ofNat, BitVec.getLsbD_zero]
  exact Bool.false_ne_true

/-- Two places are stuck at the same bits with the same values. -/
def SameFaults (place other : Nat) : Prop :=
  ∀ bit < width,
    (hardware.stuck (hardware.cell place)).getLsbD bit =
        (hardware.stuck (hardware.cell other)).getLsbD bit ∧
      ((hardware.stuck (hardware.cell place)).getLsbD bit = true →
        (hardware.value (hardware.cell place)).getLsbD bit =
          (hardware.value (hardware.cell other)).getLsbD bit)

/-- Every bit goes the same way through both of them. -/
theorem sameFaults_iff {place other : Nat} : hardware.SameFaults place other ↔
    ∀ bit < width, ∀ shown, hardware.passes place bit shown = hardware.passes other bit shown := by
  unfold SameFaults passes
  refine forall₂_congr fun bit _ => ?_
  rw [Bool.forall_bool]
  cases (hardware.stuck (hardware.cell place)).getLsbD bit <;>
    cases (hardware.stuck (hardware.cell other)).getLsbD bit <;>
    cases (hardware.value (hardware.cell place)).getLsbD bit <;>
    cases (hardware.value (hardware.cell other)).getLsbD bit <;> simp

/-- Words tell two places apart exactly by the bits that they show. -/
theorem stick_eq_iff (place other : Nat) (words : BitVec width → Prop) :
    (∀ word, words word → hardware.stick place word = hardware.stick other word) ↔
      ∀ bit < width, ∀ shown, (∃ word, words word ∧ word.getLsbD bit = shown) →
        hardware.passes place bit shown = hardware.passes other bit shown := by
  constructor
  · rintro same bit inside shown ⟨word, member, rfl⟩
    rw [← hardware.getLsbD_stick place word inside, ← hardware.getLsbD_stick other word inside,
      same word member]
  · intro passes word member
    refine BitVec.eq_of_getLsbD_eq fun bit inside => ?_
    rw [hardware.getLsbD_stick place word inside, hardware.getLsbD_stick other word inside]
    exact passes bit inside _ ⟨word, member, rfl⟩

end Hardware

end HorizonOc.Data
