import Mathlib.Logic.Function.Basic
import Mathlib.Tactic.Choose
import Mathlib.Tactic.Tauto
import Mathlib.Tactic.TypeStar

namespace HorizonOc.Data

/-! Memories of words at integer addresses, and programs over them that keep account of every
access.  A program that fails leaves the memory as it is. -/

variable {ν ρ ε α β : Type}

/-- The words from an address on. -/
def block (word : Int → ν) (address : Int) : Nat → ν := fun offset => word (address + offset)

def writeBlock (word : Int → ν) (address : Int) (size : Nat) (values : Nat → ν) : Int → ν :=
  fun other =>
    if address ≤ other ∧ other < address + size then values (other - address).toNat else word other

section

variable {word : Int → ν} {address other : Int} {size offset : Nat} {values : Nat → ν}

theorem writeBlock_inside (inside : offset < size) :
    writeBlock word address size values (address + offset) = values offset := by
  rw [writeBlock, if_pos (by omega), show (address + offset - address).toNat = offset by omega]

theorem writeBlock_outside (outside : other < address ∨ address + size ≤ other) :
    writeBlock word address size values other = word other := by
  rw [writeBlock, if_neg (by omega)]

theorem writeBlock_congr {others : Nat → ν}
    (same : ∀ offset < size, values offset = others offset) :
    writeBlock word address size values = writeBlock word address size others := by
  funext other
  unfold writeBlock
  split
  · exact same _ (by omega)
  · rfl

/-- A second write to the first part of a block. -/
theorem writeBlock_part {part : Nat} {others : Nat → ν} (inside : part ≤ size) :
    writeBlock (writeBlock word address size values) address part others =
      writeBlock word address size fun offset =>
        if offset < part then others offset else values offset := by
  funext other
  unfold writeBlock
  split
  · have first : (other - address).toNat < part := by omega
    rw [if_pos (by omega)]
    exact (if_pos first).symm
  · split
    · have behind : ¬(other - address).toNat < part := by omega
      exact (if_neg behind).symm
    · rfl

end

structure Store (ν ρ : Type) where
  word : Int → ν
  rest : ρ

/-- One access to the memory; a comparison keeps the value compared with. -/
inductive Access (ν : Type) where
  | read (address : Int)
  | compare (address : Int) (expected : ν)
  | write (address : Int) (value : ν)
deriving DecidableEq, Repr

def Access.address : Access ν → Int
  | .read address => address
  | .compare address _ => address
  | .write address _ => address

structure Outcome (ν ρ ε α : Type) where
  result : Except ε α
  store : Store ν ρ
  accesses : List (Access ν)

/-- Whether the program returned. -/
def Outcome.succeeded (outcome : Outcome ν ρ ε α) : Bool := outcome.result.toBool

def Tracked (ν ρ ε α : Type) := Store ν ρ → Outcome ν ρ ε α

namespace Tracked

/-- What follows a program, on the store that it leaves. -/
def after (outcome : Outcome ν ρ ε α) (next : α → Tracked ν ρ ε β) : Outcome ν ρ ε β :=
  match outcome.result with
  | .ok value =>
      let rest := next value outcome.store
      { rest with accesses := outcome.accesses ++ rest.accesses }
  | .error error => { outcome with result := .error error }

instance : Monad (Tracked ν ρ ε) where
  pure value := fun store => { result := .ok value, store, accesses := [] }
  bind program next := fun store => after (program store) next

def fail (error : ε) : Tracked ν ρ ε α :=
  fun store => { result := .error error, store, accesses := [] }

def getRest : Tracked ν ρ ε ρ := fun store => { result := .ok store.rest, store, accesses := [] }

def setRest (rest : ρ) : Tracked ν ρ ε PUnit :=
  fun store => { result := .ok ⟨⟩, store := { store with rest }, accesses := [] }

def read (address : Int) : Tracked ν ρ ε ν :=
  fun store => { result := .ok (store.word address), store, accesses := [.read address] }

def readBlock (address : Int) (size : Nat) : Tracked ν ρ ε (Nat → ν) :=
  fun store =>
    { result := .ok (block store.word address)
      store
      accesses := (List.range size).map fun (offset : Nat) => .read (address + offset) }

def write (address : Int) (value : ν) : Tracked ν ρ ε PUnit :=
  fun store =>
    { result := .ok ⟨⟩
      store := { store with word := Function.update store.word address value }
      accesses := [.write address value] }

def blockWrites (address : Int) (size : Nat) (values : Nat → ν) : List (Access ν) :=
  (List.range size).map fun (offset : Nat) => .write (address + offset) (values offset)

def writeBlock (address : Int) (size : Nat) (values : Nat → ν) : Tracked ν ρ ε PUnit :=
  fun store =>
    { result := .ok ⟨⟩
      store := { store with word := Data.writeBlock store.word address size values }
      accesses := blockWrites address size values }

/-- Copies a block as if it was read before it is written. -/
def copyBlock (target source : Int) (size : Nat) : Tracked ν ρ ε PUnit := do
  let values ← readBlock source size
  writeBlock target size values

/-- Runs a program and says whether it returned. -/
def attempt (program : Tracked ν ρ ε α) : Tracked ν ρ ε Bool :=
  fun store =>
    let outcome := program store
    { result := .ok outcome.succeeded, store := outcome.store, accesses := outcome.accesses }

def require (condition : Bool) (error : ε) : Tracked ν ρ ε PUnit :=
  if condition then pure ⟨⟩ else fail error

variable [DecidableEq ν]

def compare (address : Int) (expected : ν) : Tracked ν ρ ε Bool :=
  fun store =>
    { result := .ok (store.word address = expected)
      store
      accesses := [.compare address expected] }

def blockCompares (address : Int) (size : Nat) (expected : Nat → ν) : List (Access ν) :=
  (List.range size).map fun (offset : Nat) => .compare (address + offset) (expected offset)

/-- `memcmp`: the whole block, whatever the first words are. -/
def compareBlock (address : Int) (size : Nat) (expected : Nat → ν) : Tracked ν ρ ε Bool :=
  fun store =>
    { result := .ok (decide (∀ offset < size, store.word (address + offset) = expected offset))
      store
      accesses := blockCompares address size expected }

/-- Compares words one after another, up to the first that differs. -/
def compareEach : List (Int × ν) → Tracked ν ρ ε Bool
  | [] => pure true
  | (address, expected) :: rest => do
      if ← compare address expected then compareEach rest else pure false

section

variable {program : Tracked ν ρ ε α} {next : α → Tracked ν ρ ε β} {store : Store ν ρ}

omit [DecidableEq ν]

theorem bind_of_ok {value : α} (returned : (program store).result = .ok value) :
    (program >>= next) store =
      { next value (program store).store with
        accesses := (program store).accesses ++ (next value (program store).store).accesses } := by
  change after (program store) next = _
  rw [after, returned]

theorem bind_of_error {error : ε} (failed : (program store).result = .error error) :
    (program >>= next) store = { program store with result := .error error } := by
  change after (program store) next = _
  rw [after, failed]

@[simp] theorem pure_result (value : α) : ((pure value : Tracked ν ρ ε α) store).result = .ok value :=
  rfl

@[simp] theorem pure_store (value : α) : ((pure value : Tracked ν ρ ε α) store).store = store := rfl

@[simp] theorem pure_accesses (value : α) :
    ((pure value : Tracked ν ρ ε α) store).accesses = [] := rfl

@[simp] theorem require_true (error : ε) : (require true error : Tracked ν ρ ε PUnit) = pure ⟨⟩ := rfl

@[simp] theorem require_false (error : ε) : (require false error : Tracked ν ρ ε PUnit) = fail error :=
  rfl

def run (program : Tracked ν ρ ε α) (store : Store ν ρ) : Except ε α × Store ν ρ :=
  ((program store).result, (program store).store)

theorem run_bind_of_ok {value : α} {middle : Store ν ρ}
    (returned : run program store = (.ok value, middle)) :
    run (program >>= next) store = run (next value) middle := by
  obtain ⟨result, stored⟩ := Prod.mk.inj returned
  rw [run, bind_of_ok result, stored]
  rfl

theorem run_bind_of_error {error : ε} {final : Store ν ρ}
    (failed : run program store = (.error error, final)) :
    run (program >>= next) store = (.error error, final) := by
  obtain ⟨result, stored⟩ := Prod.mk.inj failed
  rw [run, bind_of_error result, ← stored]

@[simp] theorem run_pure (value : α) : run (pure value : Tracked ν ρ ε α) store = (.ok value, store) :=
  rfl

theorem run_of_succeeded (succeeded : (program store).succeeded = true) :
    ∃ value, run program store = (.ok value, (program store).store) := by
  unfold Outcome.succeeded at succeeded
  cases result : (program store).result with
  | ok value => exact ⟨value, by rw [run, result]⟩
  | error error =>
      rw [result] at succeeded
      contradiction

/-- What returned consists of parts that returned. -/
theorem run_bind_eq_ok {value : β} {final : Store ν ρ} :
    run (program >>= next) store = (.ok value, final) ↔
      ∃ first middle, run program store = (.ok first, middle) ∧
        run (next first) middle = (.ok value, final) := by
  constructor
  · intro returned
    cases result : (program store).result with
    | ok first =>
        have part : run program store = (.ok first, (program store).store) := by rw [run, result]
        exact ⟨first, _, part, by rw [← run_bind_of_ok part, returned]⟩
    | error error =>
        have part : run program store = (.error error, (program store).store) := by rw [run, result]
        rw [run_bind_of_error part] at returned
        cases returned
  · rintro ⟨first, middle, part, rest⟩
    rw [run_bind_of_ok part, rest]

theorem run_require_eq_ok {condition : Bool} {error : ε} {value : PUnit} {final : Store ν ρ} :
    run (require condition error) store = (.ok value, final) ↔
      condition = true ∧ store = final := by
  cases condition with
  | true => simp
  | false => simp [run, fail]

@[simp] theorem run_read_bind (address : Int) (next : ν → Tracked ν ρ ε β) :
    run (read address >>= next) store = run (next (store.word address)) store := rfl

@[simp] theorem run_write_bind (address : Int) (value : ν) (next : PUnit → Tracked ν ρ ε β) :
    run (write address value >>= next) store =
      run (next ⟨⟩) { store with word := Function.update store.word address value } := rfl

@[simp] theorem run_writeBlock (address : Int) (size : Nat) (values : Nat → ν) :
    run (writeBlock address size values : Tracked ν ρ ε PUnit) store =
      (.ok ⟨⟩, { store with word := Data.writeBlock store.word address size values }) := rfl

@[simp] theorem run_getRest_bind (next : ρ → Tracked ν ρ ε β) :
    run (getRest >>= next) store = run (next store.rest) store := rfl

@[simp] theorem run_setRest_bind (rest : ρ) (next : PUnit → Tracked ν ρ ε β) :
    run (setRest rest >>= next) store = run (next ⟨⟩) { store with rest } := rfl

theorem run_require_bind (condition : Bool) (error : ε) (next : PUnit → Tracked ν ρ ε β) :
    run (require condition error >>= next) store =
      if condition then run (next ⟨⟩) store else (.error error, store) := by
  cases condition <;> rfl

theorem run_copyBlock (target source : Int) (size : Nat) :
    run (copyBlock target source size : Tracked ν ρ ε PUnit) store =
      (.ok ⟨⟩, { store with
        word := Data.writeBlock store.word target size (block store.word source) }) := rfl

/-- Programs that always return, one for each element. -/
theorem run_forM {γ : Type} {body : γ → Tracked ν ρ ε PUnit} {step : γ → Store ν ρ → Store ν ρ}
    (turn : ∀ element store, run (body element) store = (.ok ⟨⟩, step element store))
    (elements : List γ) (store : Store ν ρ) :
    run (elements.forM body : Tracked ν ρ ε PUnit) store =
      (.ok ⟨⟩, elements.foldl (fun before element => step element before) store) := by
  induction elements generalizing store with
  | nil => rfl
  | cons element rest ih =>
      change run (body element >>= fun _ => rest.forM body) store = _
      rw [run_bind_of_ok (turn element store)]
      exact ih (step element store)

/-- A loop of which each turn changes its own part of a view and reads no other. -/
theorem run_forM_range_view {κ : Type} {view : Store ν ρ → Nat → κ}
    {body : Nat → Tracked ν ρ ε PUnit} {change : Nat → κ → κ}
    (turn : ∀ index store, ∃ after, run (body index) store = (.ok ⟨⟩, after) ∧
      view after = Function.update (view store) index (change index (view store index)))
    (count : Nat) (store : Store ν ρ) :
    ∃ final, run ((List.range count).forM body : Tracked ν ρ ε PUnit) store = (.ok ⟨⟩, final) ∧
      ∀ index, view final index =
        if index < count then change index (view store index) else view store index := by
  choose step returned changed using turn
  refine ⟨_, run_forM returned _ store, ?_⟩
  induction count with
  | zero => simp
  | succ count ih =>
      intro index
      rw [List.range_succ, List.foldl_append]
      change view (step count _) index = _
      rw [changed]
      by_cases same : index = count
      · subst same
        simp [ih]
      · rw [Function.update_of_ne same, ih]
        simp [show index < count + 1 ↔ index < count by omega]

end

section

variable {allowed : Int → Prop} {store : Store ν ρ}

def Confined (allowed : Int → Prop) (program : Tracked ν ρ ε α) (store : Store ν ρ) : Prop :=
  ∀ access ∈ (program store).accesses, allowed access.address

section

omit [DecidableEq ν]

theorem confined_bind {program : Tracked ν ρ ε α} {next : α → Tracked ν ρ ε β} :
    Confined allowed (program >>= next) store ↔
      Confined allowed program store ∧ ∀ value, (program store).result = .ok value →
        Confined allowed (next value) (program store).store := by
  unfold Confined
  cases first : (program store).result with
  | error error => simp [bind_of_error first]
  | ok value =>
      rw [bind_of_ok first]
      simp [or_imp, forall_and]

/-- A first part that returns. -/
theorem confined_bind_of_ok {program : Tracked ν ρ ε α} {next : α → Tracked ν ρ ε β} {value : α}
    (returned : (program store).result = .ok value) :
    Confined allowed (program >>= next) store ↔
      Confined allowed program store ∧ Confined allowed (next value) (program store).store := by
  rw [confined_bind, returned]
  simp

@[simp] theorem confined_pure (value : α) :
    Confined allowed (pure value : Tracked ν ρ ε α) store ↔ True := by
  simp [Confined]

@[simp] theorem confined_fail (error : ε) :
    Confined allowed (fail error : Tracked ν ρ ε α) store ↔ True := by
  simp [Confined, fail]

@[simp] theorem confined_require (condition : Bool) (error : ε) :
    Confined allowed (require condition error : Tracked ν ρ ε PUnit) store ↔ True := by
  cases condition <;> simp

@[simp] theorem confined_getRest :
    Confined allowed (getRest : Tracked ν ρ ε ρ) store ↔ True := by
  simp [Confined, getRest]

@[simp] theorem confined_setRest (rest : ρ) :
    Confined allowed (setRest rest : Tracked ν ρ ε PUnit) store ↔ True := by
  simp [Confined, setRest]

@[simp] theorem confined_read (address : Int) :
    Confined allowed (read address : Tracked ν ρ ε ν) store ↔ allowed address := by
  simp [Confined, read, Access.address]

@[simp] theorem confined_write (address : Int) (value : ν) :
    Confined allowed (write address value : Tracked ν ρ ε PUnit) store ↔ allowed address := by
  simp [Confined, write, Access.address]

theorem confined_readBlock (address : Int) (size : Nat) :
    Confined allowed (readBlock address size : Tracked ν ρ ε (Nat → ν)) store ↔
      ∀ offset < size, allowed (address + offset) := by
  simp [Confined, readBlock, Access.address]

theorem confined_writeBlock (address : Int) (size : Nat) (values : Nat → ν) :
    Confined allowed (writeBlock address size values : Tracked ν ρ ε PUnit) store ↔
      ∀ offset < size, allowed (address + offset) := by
  simp [Confined, writeBlock, blockWrites, Access.address]

theorem confined_copyBlock (target source : Int) (size : Nat) :
    Confined allowed (copyBlock target source size : Tracked ν ρ ε PUnit) store ↔
      (∀ offset < size, allowed (source + offset)) ∧ ∀ offset < size, allowed (target + offset) := by
  rw [copyBlock, confined_bind_of_ok rfl, confined_readBlock, confined_writeBlock]

theorem confined_read_bind (address : Int) (next : ν → Tracked ν ρ ε β) :
    Confined allowed (read address >>= next) store ↔
      allowed address ∧ Confined allowed (next (store.word address)) store := by
  rw [confined_bind_of_ok rfl, confined_read]
  rfl

theorem confined_write_bind (address : Int) (value : ν) (next : PUnit → Tracked ν ρ ε β) :
    Confined allowed (write address value >>= next) store ↔ allowed address ∧
      Confined allowed (next ⟨⟩)
        { store with word := Function.update store.word address value } := by
  rw [confined_bind_of_ok rfl, confined_write]
  rfl

theorem confined_require_bind (condition : Bool) (error : ε) (next : PUnit → Tracked ν ρ ε β) :
    Confined allowed (require condition error >>= next) store ↔
      (condition = true → Confined allowed (next ⟨⟩) store) := by
  cases condition with
  | true =>
      rw [require_true, confined_bind_of_ok rfl, confined_pure]
      simp
  | false =>
      rw [require_false, confined_bind]
      simp [fail]

theorem confined_getRest_bind (next : ρ → Tracked ν ρ ε β) :
    Confined allowed (getRest >>= next) store ↔ Confined allowed (next store.rest) store := by
  rw [confined_bind_of_ok rfl, confined_getRest, true_and]
  rfl

theorem confined_setRest_bind (rest : ρ) (next : PUnit → Tracked ν ρ ε β) :
    Confined allowed (setRest rest >>= next) store ↔
      Confined allowed (next ⟨⟩) { store with rest } := by
  rw [confined_bind_of_ok rfl, confined_setRest, true_and]
  rfl

theorem confined_attempt {program : Tracked ν ρ ε α} :
    Confined allowed (attempt program) store ↔ Confined allowed program store := Iff.rfl

theorem confined_forM {γ : Type} {body : γ → Tracked ν ρ ε PUnit} {elements : List γ}
    (confined : ∀ element ∈ elements, ∀ store, Confined allowed (body element) store) :
    Confined allowed (elements.forM body : Tracked ν ρ ε PUnit) store := by
  induction elements generalizing store with
  | nil => simp [List.forM]
  | cons element rest ih =>
      change Confined allowed (body element >>= fun _ => rest.forM body) store
      rw [confined_bind]
      exact ⟨confined element List.mem_cons_self store, fun _ _ =>
        ih fun other member => confined other (List.mem_cons_of_mem element member)⟩

end

@[simp] theorem confined_compare (address : Int) (expected : ν) :
    Confined allowed (compare address expected : Tracked ν ρ ε Bool) store ↔ allowed address := by
  simp [Confined, compare, Access.address]

theorem confined_compare_bind (address : Int) (expected : ν) (next : Bool → Tracked ν ρ ε β) :
    Confined allowed (compare address expected >>= next) store ↔
      allowed address ∧ Confined allowed (next (store.word address = expected)) store := by
  rw [confined_bind_of_ok rfl, confined_compare]
  rfl

theorem confined_compareBlock (address : Int) (size : Nat) (expected : Nat → ν) :
    Confined allowed (compareBlock address size expected : Tracked ν ρ ε Bool) store ↔
      ∀ offset < size, allowed (address + offset) := by
  simp [Confined, compareBlock, blockCompares, Access.address]

end

theorem run_compare_bind {store : Store ν ρ} (address : Int) (expected : ν)
    (next : Bool → Tracked ν ρ ε β) :
    run (compare address expected >>= next) store =
      run (next (store.word address = expected)) store := rfl

section

variable {store : Store ν ρ} {address : Int} {expected : ν} {rest : List (Int × ν)}

theorem compareEach_of_eq (same : store.word address = expected) :
    (compareEach ((address, expected) :: rest) : Tracked ν ρ ε Bool) store =
      { (compareEach rest : Tracked ν ρ ε Bool) store with
        accesses := .compare address expected ::
          ((compareEach rest : Tracked ν ρ ε Bool) store).accesses } := by
  have first : ((compare address expected : Tracked ν ρ ε Bool) store).result = .ok true := by
    simp [compare, same]
  rw [compareEach, bind_of_ok first]
  rfl

theorem compareEach_of_ne (differs : store.word address ≠ expected) :
    (compareEach ((address, expected) :: rest) : Tracked ν ρ ε Bool) store =
      { result := .ok false, store, accesses := [.compare address expected] } := by
  have first : ((compare address expected : Tracked ν ρ ε Bool) store).result = .ok false := by
    simp [compare, differs]
  rw [compareEach, bind_of_ok first]
  rfl

end

theorem compareEach_result (checks : List (Int × ν)) (store : Store ν ρ) :
    ((compareEach checks : Tracked ν ρ ε Bool) store).result =
      .ok (decide (∀ check ∈ checks, store.word check.1 = check.2)) := by
  induction checks with
  | nil => simp [compareEach]
  | cons check rest ih =>
      obtain ⟨address, expected⟩ := check
      by_cases same : store.word address = expected
      · rw [compareEach_of_eq same]
        simp [ih, same]
      · rw [compareEach_of_ne same]
        simp [same]

theorem compareEach_store (checks : List (Int × ν)) (store : Store ν ρ) :
    ((compareEach checks : Tracked ν ρ ε Bool) store).store = store := by
  induction checks with
  | nil => rfl
  | cons check rest ih =>
      obtain ⟨address, expected⟩ := check
      by_cases same : store.word address = expected
      · rw [compareEach_of_eq same]
        exact ih
      · rw [compareEach_of_ne same]

/-- Where no word differs, every word is compared. -/
theorem compareEach_accesses {checks : List (Int × ν)} {store : Store ν ρ}
    (same : ∀ check ∈ checks, store.word check.1 = check.2) :
    ((compareEach checks : Tracked ν ρ ε Bool) store).accesses =
      checks.map fun check => .compare check.1 check.2 := by
  induction checks with
  | nil => rfl
  | cons check rest ih =>
      obtain ⟨address, expected⟩ := check
      rw [compareEach_of_eq (same _ List.mem_cons_self)]
      simp [ih fun other member => same other (List.mem_cons_of_mem _ member)]

/-- Nothing but comparisons, of which the first is always made. -/
theorem confined_compareEach {allowed : Int → Prop} {store : Store ν ρ} {address : Int}
    {expected : ν} {rest : List (Int × ν)} :
    Confined allowed (compareEach ((address, expected) :: rest) : Tracked ν ρ ε Bool) store ↔
      allowed address ∧ (store.word address = expected →
        Confined allowed (compareEach rest : Tracked ν ρ ε Bool) store) := by
  unfold Confined
  by_cases same : store.word address = expected
  · rw [compareEach_of_eq same]
    simp [same, Access.address]
  · rw [compareEach_of_ne same]
    simp [same, Access.address]

@[simp] theorem confined_compareEach_nil {allowed : Int → Prop} {store : Store ν ρ} :
    Confined allowed (compareEach [] : Tracked ν ρ ε Bool) store ↔ True := by
  simp [compareEach]

theorem confined_compareEach_of_inside {allowed : Int → Prop} {store : Store ν ρ}
    {checks : List (Int × ν)} (inside : ∀ check ∈ checks, allowed check.1) :
    Confined allowed (compareEach checks : Tracked ν ρ ε Bool) store := by
  induction checks with
  | nil => exact confined_compareEach_nil.mpr trivial
  | cons check checks ih =>
      exact confined_compareEach.mpr ⟨inside check List.mem_cons_self, fun _ =>
        ih fun other member => inside other (List.mem_cons_of_mem check member)⟩

section

variable {known others : List Int} {before rest : List (Access ν)}

omit [DecidableEq ν]

/-- Every write goes to an address that is `known` or was compared earlier on. -/
def ChecksWrites : List Int → List (Access ν) → Prop
  | _, [] => True
  | known, .read _ :: rest => ChecksWrites known rest
  | known, .compare address _ :: rest => ChecksWrites (address :: known) rest
  | known, .write address _ :: rest => address ∈ known ∧ ChecksWrites known rest

instance decidableChecksWrites :
    (known : List Int) → (accesses : List (Access ν)) → Decidable (ChecksWrites known accesses)
  | _, [] => isTrue trivial
  | known, .read _ :: rest => decidableChecksWrites known rest
  | known, .compare address _ :: rest => decidableChecksWrites (address :: known) rest
  | known, .write address _ :: rest =>
      have := decidableChecksWrites known rest
      inferInstanceAs (Decidable (address ∈ known ∧ ChecksWrites known rest))

theorem checksWrites_congr (same : ∀ address, address ∈ known ↔ address ∈ others) :
    ChecksWrites known before ↔ ChecksWrites others before := by
  induction before generalizing known others with
  | nil => rfl
  | cons access rest ih =>
      cases access with
      | read address => exact ih same
      | compare address expected => exact ih fun other => by simp [same]
      | write address value => exact and_congr (same address) (ih same)

/-- Nothing that only compares breaks the rule, and all that it compares is known to what follows. -/
theorem checksWrites_compares {checks : List (Int × ν)} :
    ChecksWrites known (checks.map (fun check => .compare check.1 check.2) ++ rest) ↔
      ChecksWrites (checks.map Prod.fst ++ known) rest := by
  induction checks generalizing known with
  | nil => rfl
  | cons check checks ih =>
      have step : ChecksWrites (check.1 :: known)
          (checks.map (fun check => .compare check.1 check.2) ++ rest) ↔
            ChecksWrites (checks.map Prod.fst ++ check.1 :: known) rest := ih
      refine step.trans (checksWrites_congr fun address => ?_)
      simp only [List.mem_append, List.mem_cons, List.map_cons]
      tauto

theorem checksWrites_writes {writes : List (Int × ν)} :
    ChecksWrites known (writes.map fun write => .write write.1 write.2) ↔
      ∀ write ∈ writes, write.1 ∈ known := by
  induction writes with
  | nil => simp [ChecksWrites]
  | cons write rest ih => simp [ChecksWrites, ih]

end

theorem compareEach_compares (checks : List (Int × ν)) (store : Store ν ρ) :
    ∃ made : List (Int × ν), ((compareEach checks : Tracked ν ρ ε Bool) store).accesses =
      made.map fun check => .compare check.1 check.2 := by
  induction checks with
  | nil => exact ⟨[], rfl⟩
  | cons check rest ih =>
      obtain ⟨address, expected⟩ := check
      by_cases same : store.word address = expected
      · obtain ⟨made, accesses⟩ := ih
        rw [compareEach_of_eq same]
        exact ⟨(address, expected) :: made, by simp [accesses]⟩
      · rw [compareEach_of_ne same]
        exact ⟨[(address, expected)], rfl⟩

section

variable {allowed : Int → ν → Prop} {store : Store ν ρ} {program : Tracked ν ρ ε α}
  {next : α → Tracked ν ρ ε β}

omit [DecidableEq ν]

/-- Every value that a program writes is allowed where it goes. -/
def Writes (allowed : Int → ν → Prop) (program : Tracked ν ρ ε α) (store : Store ν ρ) : Prop :=
  ∀ address value, .write address value ∈ (program store).accesses → allowed address value

theorem writes_bind :
    Writes allowed (program >>= next) store ↔
      Writes allowed program store ∧ ∀ value, (program store).result = .ok value →
        Writes allowed (next value) (program store).store := by
  unfold Writes
  cases first : (program store).result with
  | error error => simp [bind_of_error first]
  | ok value =>
      rw [bind_of_ok first]
      simp [or_imp, forall_and]

/-- A first part that returns. -/
theorem writes_bind_of_run {value : α} {middle : Store ν ρ}
    (returned : run program store = (.ok value, middle)) :
    Writes allowed (program >>= next) store ↔
      Writes allowed program store ∧ Writes allowed (next value) middle := by
  obtain ⟨result, stored⟩ := Prod.mk.inj returned
  rw [writes_bind, result, stored]
  simp

theorem writes_of_compares {made : List (Int × ν)}
    (accesses : (program store).accesses = made.map fun check => .compare check.1 check.2) :
    Writes allowed program store := by
  intro address value member
  rw [accesses] at member
  obtain ⟨check, -, same⟩ := List.mem_map.mp member
  contradiction

@[simp] theorem writes_pure (value : α) :
    Writes allowed (pure value : Tracked ν ρ ε α) store ↔ True := by
  simp [Writes]

@[simp] theorem writes_require (condition : Bool) (error : ε) :
    Writes allowed (require condition error : Tracked ν ρ ε PUnit) store ↔ True := by
  cases condition with
  | true => simp
  | false => simp [Writes, fail]

@[simp] theorem writes_write (address : Int) (value : ν) :
    Writes allowed (write address value : Tracked ν ρ ε PUnit) store ↔ allowed address value := by
  simp [Writes, write]

theorem writes_write_bind (address : Int) (value : ν) (next : PUnit → Tracked ν ρ ε β) :
    Writes allowed (write address value >>= next) store ↔ allowed address value ∧
      Writes allowed (next ⟨⟩) { store with word := Function.update store.word address value } := by
  rw [writes_bind_of_run rfl, writes_write]
  rfl

theorem writes_getRest_bind (next : ρ → Tracked ν ρ ε β) :
    Writes allowed (getRest >>= next) store ↔ Writes allowed (next store.rest) store := by
  rw [writes_bind_of_run rfl]
  simp [Writes, getRest]

theorem writes_setRest_bind (rest : ρ) (next : PUnit → Tracked ν ρ ε β) :
    Writes allowed (setRest rest >>= next) store ↔
      Writes allowed (next ⟨⟩) { store with rest } := by
  rw [writes_bind_of_run rfl]
  simp [Writes, setRest]

theorem writes_require_bind (condition : Bool) (error : ε) (next : PUnit → Tracked ν ρ ε β) :
    Writes allowed (require condition error >>= next) store ↔
      (condition = true → Writes allowed (next ⟨⟩) store) := by
  cases condition with
  | true =>
      rw [require_true, writes_bind_of_run rfl, writes_pure]
      simp
  | false =>
      rw [require_false, writes_bind]
      simp [fail, Writes]

end

end Tracked

end HorizonOc.Data
