import HorizonOc.Data.Runs
import HorizonOc.Sysmodule.Board

namespace HorizonOc.Sysmodule

open HorizonOc.Data

/-- `GpuVoltData`: the table as it was found in PCV, and the minimum that was written last. -/
structure GpuVoltData where
  voltTable : List Nat
  words : voltTable.length = 192
  ramVmin : Nat

/-- The cached data beside the table in PCV's memory. -/
structure HijackState where
  voltData : GpuVoltData
  pcvTable : List Nat

/-- A call with what the system answers: whether PCV's handle is found, and whether the write succeeds. -/
structure HijackCall where
  vmin : Nat
  handleFound : Bool
  written : Bool
deriving DecidableEq, Repr

def HijackCall.succeeds (call : HijackCall) : Bool := call.handleFound && call.written

/-- The minimum of the last call that went through, or the one from before. -/
def lastVmin (before : Nat) (calls : List HijackCall) : Nat :=
  ((calls.filter HijackCall.succeeds).getLast?.map HijackCall.vmin).getD before

namespace HijackState

/-- What the process starts from: no minimum was written. -/
def initial (voltTable : List Nat) (words : voltTable.length = 192) : HijackState :=
  { voltData := { voltTable, words, ramVmin := 0 }, pcvTable := voltTable }

def pcvHijackGpuVolts (state : HijackState) (call : HijackCall) : HijackState :=
  let table := raisedVoltTable state.voltData.voltTable call.vmin
  if state.voltData.ramVmin = call.vmin then state
  else if !call.handleFound then state
  else if call.written then
    { voltData := { state.voltData with ramVmin := call.vmin }, pcvTable := table }
  else state

end HijackState

/-- The table with each entry that is used and not above the minimum replaced by it. -/
structure RaisedTo (cached : List Nat) (vmin : Nat) (table : List Nat) : Prop where
  length : table.length = cached.length
  raised : ∀ (index mv : Nat), cached[index]? = some mv →
    table[index]? = some (if mv ≠ 0 ∧ mv ≤ vmin then vmin else mv)

theorem raisedTo_iff {cached table : List Nat} {vmin : Nat} :
    RaisedTo cached vmin table ↔ table = raisedVoltTable cached vmin := by
  constructor
  · intro raised
    refine List.ext_getElem? fun index => ?_
    rw [raisedVoltTable, List.getElem?_map]
    cases entry : cached[index]? with
    | none =>
        rw [List.getElem?_eq_none_iff] at entry
        simpa [raised.length] using entry
    | some mv => rw [raised.raised index mv entry, Option.map_some]
  · rintro rfl
    exact ⟨List.length_map .., fun index mv entry => by rw [raisedVoltTable, List.getElem?_map, entry]; rfl⟩

/-- Nothing lies between 0 and itself. -/
theorem raisedVoltTable_zero (cached : List Nat) : raisedVoltTable cached 0 = cached := by
  induction cached with
  | nil => rfl
  | cons mv rest ih =>
      have kept : ¬(mv ≠ 0 ∧ mv ≤ 0) := fun both => both.1 (Nat.le_zero.mp both.2)
      rw [raisedVoltTable, List.map_cons, if_neg kept]
      exact congrArg (mv :: ·) ih

namespace HijackState

/-- PCV's table is the cached one under the recorded minimum. -/
structure InStep (cached : List Nat) (state : HijackState) : Prop where
  table : state.voltData.voltTable = cached
  raised : RaisedTo cached state.voltData.ramVmin state.pcvTable
  original : state.voltData.ramVmin = 0 → state.pcvTable = cached

variable {cached : List Nat} {state : HijackState}

theorem inStep_of_raised (same : state.voltData.voltTable = cached)
    (raised : state.pcvTable = raisedVoltTable cached state.voltData.ramVmin) :
    InStep cached state where
  table := same
  raised := raisedTo_iff.mpr raised
  original := by
    intro zero
    rw [raised, zero, raisedVoltTable_zero]

/-- What a call can do: nothing, or a whole write of the table for its minimum. -/
theorem pcvHijackGpuVolts_cases (state : HijackState) (call : HijackCall) :
    (state.pcvHijackGpuVolts call = state ∧
        (call.succeeds = true → state.voltData.ramVmin = call.vmin)) ∨
      (call.succeeds = true ∧
        (state.pcvHijackGpuVolts call).voltData.voltTable = state.voltData.voltTable ∧
        (state.pcvHijackGpuVolts call).voltData.ramVmin = call.vmin ∧
        (state.pcvHijackGpuVolts call).pcvTable =
          raisedVoltTable state.voltData.voltTable call.vmin) := by
  unfold pcvHijackGpuVolts
  by_cases same : state.voltData.ramVmin = call.vmin
  · exact .inl ⟨if_pos same, fun _ => same⟩
  · simp only [if_neg same, HijackCall.succeeds]
    cases call.handleFound with
    | false => exact .inl ⟨rfl, fun succeeds => by contradiction⟩
    | true =>
        cases call.written with
        | false => exact .inl ⟨rfl, fun succeeds => by contradiction⟩
        | true => exact .inr ⟨rfl, rfl, rfl, rfl⟩

theorem pcvHijackGpuVolts_inStep (inStep : InStep cached state) (call : HijackCall) :
    InStep cached (state.pcvHijackGpuVolts call) := by
  rcases pcvHijackGpuVolts_cases state call with ⟨same, -⟩ | ⟨-, table, vmin, written⟩
  · rwa [same]
  · refine inStep_of_raised (table.trans inStep.table) ?_
    rw [written, vmin, inStep.table]

theorem initial_inStep (words : cached.length = 192) : InStep cached (initial cached words) :=
  inStep_of_raised rfl (raisedVoltTable_zero cached).symm

/-- A call that goes through records its minimum, and one that fails records nothing. -/
theorem pcvHijackGpuVolts_ramVmin (state : HijackState) (call : HijackCall) :
    (state.pcvHijackGpuVolts call).voltData.ramVmin =
      if call.succeeds then call.vmin else state.voltData.ramVmin := by
  rcases pcvHijackGpuVolts_cases state call with ⟨same, recorded⟩ | ⟨succeeds, -, vmin, -⟩
  · rw [same]
    split
    · rename_i succeeds
      exact recorded succeeds
    · rfl
  · rw [if_pos succeeds, vmin]

theorem run_ramVmin (state : HijackState) (calls : List HijackCall) :
    (run pcvHijackGpuVolts state calls).voltData.ramVmin =
      lastVmin state.voltData.ramVmin calls := by
  induction calls generalizing state with
  | nil => rfl
  | cons call rest ih =>
      refine (ih (state.pcvHijackGpuVolts call)).trans ?_
      rw [pcvHijackGpuVolts_ramVmin, lastVmin, lastVmin, List.filter_cons]
      split
      · rw [List.getLast?_cons]
        cases (rest.filter HijackCall.succeeds).getLast? <;> rfl
      · rfl

/-- The call that the clock manager makes, whose lookup and write fail together. -/
theorem hijackGpuVolts_simulates (start : Sys) (words : start.voltTable.length = 192) (vmin : Nat) :
    let call : HijackCall :=
      { vmin, handleFound := start.setting.services.pcvWritable
        written := start.setting.services.pcvWritable }
    let state : HijackState :=
      { voltData := { voltTable := start.voltTable, words, ramVmin := start.ramVmin }
        pcvTable := start.pcvVolts }
    (start.hijackGpuVolts vmin).pcvVolts = (state.pcvHijackGpuVolts call).pcvTable ∧
      (start.hijackGpuVolts vmin).ramVmin = (state.pcvHijackGpuVolts call).voltData.ramVmin := by
  intro call state
  unfold Sys.hijackGpuVolts pcvHijackGpuVolts
  by_cases same : start.ramVmin = vmin
  · simp [state, call, same]
  · cases writable : start.setting.services.pcvWritable <;> simp [state, call, same, writable]

end HijackState

/-- Whatever minimums were asked for before, PCV's table is the cached one raised to the recorded
minimum, which is that of the last call that went through; and a call with 0 that goes through
restores the table. -/
theorem pcvHijackGpuVolts_never_accumulates (cached : List Nat) (words : cached.length = 192)
    (calls : List HijackCall) :
    Always HijackState.pcvHijackGpuVolts (HijackState.InStep cached)
        (HijackState.initial cached words) calls ∧
      (run HijackState.pcvHijackGpuVolts (HijackState.initial cached words) calls).voltData.ramVmin =
        lastVmin 0 calls ∧
      ∀ call : HijackCall, call.vmin = 0 → call.succeeds = true →
        ((run HijackState.pcvHijackGpuVolts (HijackState.initial cached words)
          calls).pcvHijackGpuVolts call).pcvTable = cached := by
  have always := always_of_kept calls (HijackState.initial_inStep words) fun state call inStep =>
    HijackState.pcvHijackGpuVolts_inStep inStep call
  refine ⟨always, HijackState.run_ramVmin _ calls, fun call zero succeeds => ?_⟩
  have inStep := HijackState.pcvHijackGpuVolts_inStep always.last call
  refine inStep.original ?_
  rw [HijackState.pcvHijackGpuVolts_ramVmin, if_pos succeeds, zero]

def sampleVoltTable : List Nat := List.replicate 192 610

theorem sampleVoltTable_words : sampleVoltTable.length = 192 := List.length_replicate

/-- A minimum that cannot be written, one that is, and 0 again. -/
theorem pcvHijackGpuVolts_never_accumulates_sample :
    let calls : List HijackCall := [⟨700, true, false⟩, ⟨650, true, true⟩, ⟨0, true, true⟩]
    Always HijackState.pcvHijackGpuVolts (HijackState.InStep sampleVoltTable)
        (HijackState.initial sampleVoltTable sampleVoltTable_words) calls ∧
      (run HijackState.pcvHijackGpuVolts (HijackState.initial sampleVoltTable sampleVoltTable_words)
        calls).voltData.ramVmin = lastVmin 0 calls ∧
      ∀ call : HijackCall, call.vmin = 0 → call.succeeds = true →
        ((run HijackState.pcvHijackGpuVolts (HijackState.initial sampleVoltTable sampleVoltTable_words)
          calls).pcvHijackGpuVolts call).pcvTable = sampleVoltTable :=
  pcvHijackGpuVolts_never_accumulates sampleVoltTable sampleVoltTable_words _

end HorizonOc.Sysmodule
