import HorizonOc.Data.Returns
import HorizonOc.Sysmodule.ClockSteps
import HorizonOc.Sysmodule.Governor

namespace HorizonOc.Sysmodule

open HorizonOc.Data

/-- The locals after a poll that found a rate, and the rate that it handed to `SetHz`. -/
def GovernorLocals.polled (locals : GovernorLocals) (foundHz : Nat) (handed : Option Nat) :
    GovernorLocals :=
  { locals with downHoldRemaining := locals.hold foundHz, lastHz := handed.getD locals.lastHz }

/-- The rate that the GPU's thread finds in its table. -/
def Sys.gpuTableHz (state : Sys) : Nat :=
  governedHz state.setting .gpu state.setting.services.gpuLoad

/-- A poll always returns, with the locals and the rate that the hold lets it hand on. -/
theorem pollGpuGovernor_returns (state : Sys) :
    let foundHz := state.gpuTableHz
    let handed := if state.gpuLocals.sets .gpu foundHz foundHz then some foundHz else none
    pollGpuGovernor.Returns state.forget fun _ final =>
      final.gpuLocals = state.gpuLocals.polled foundHz handed ∧ lastHz .gpu final.log = handed := by
  intro foundHz handed
  unfold pollGpuGovernor
  refine .read_bind (.update_bind ?_)
  by_cases sets : state.gpuLocals.sets .gpu foundHz foundHz = true
  · have taken : handed = some foundHz := if_pos sets
    rw [Program.when, if_pos (by exact sets), taken]
    refine .run_bind (.trans (Program.run_bind_of_ok _ (setHz_run (by decide) _ _)) rfl) ?_
    exact .of_run rfl ⟨rfl, rfl⟩
  · have kept : handed = none := if_neg sets
    rw [Program.when, if_neg (by exact sets), kept]
    exact .of_run rfl ⟨rfl, rfl⟩

theorem pollGpuGovernor_spec {state final : Sys}
    (finished : pollGpuGovernor.run state.forget = .ok (⟨⟩, final)) :
    let foundHz := state.gpuTableHz
    let handed := if state.gpuLocals.sets .gpu foundHz foundHz then some foundHz else none
    final.gpuLocals = state.gpuLocals.polled foundHz handed ∧ lastHz .gpu final.log = handed :=
  (pollGpuGovernor_returns state).of_finished finished

/-- One pass of the thread as it looks from outside: switched off, or a poll with the rate of the
table and what was handed to `SetHz`. -/
inductive GovernorPass where
  | off
  | poll (tableHz : Nat) (handed : Option Nat)
deriving DecidableEq, Repr

/-- A pass of `GovernorThread` over a table that stays.  Everything but its own locals may change
before it begins and before it has the mutex. -/
inductive GpuPass (table : List Nat) : GovernorLocals → GovernorPass → GovernorLocals → Prop where
  | off {start : Sys} (tableStays : start.setting.gFreqTable .gpu = table)
      (stops : (enterGpuGovernor start).2 = false) :
      GpuPass table start.gpuLocals .off (enterGpuGovernor start).1.gpuLocals
  | poll {start locked final : Sys} (goesOn : (enterGpuGovernor start).2 = true)
      (own : locked.gpuLocals = (enterGpuGovernor start).1.gpuLocals)
      (tableStays : locked.setting.gFreqTable .gpu = table)
      (finished : pollGpuGovernor.run locked.forget = .ok (⟨⟩, final)) :
      GpuPass table start.gpuLocals (.poll locked.gpuTableHz (lastHz .gpu final.log))
        final.gpuLocals

/-- The passes of the thread from its start, the newest first. -/
inductive GpuRun (table : List Nat) : List GovernorPass → GovernorLocals → Prop where
  | start (locals : GovernorLocals) : GpuRun table [] locals.rest
  | pass {history : List GovernorPass} {locals next : GovernorLocals} {pass : GovernorPass}
      (before : GpuRun table history locals) (passes : GpuPass table locals pass next) :
      GpuRun table (pass :: history) next

/-- The rate handed to `SetHz` last, unless the governor was switched off since. -/
def previousHz : List GovernorPass → Option Nat
  | [] => none
  | .off :: _ => none
  | .poll _ (some hz) :: _ => some hz
  | .poll _ none :: earlier => previousHz earlier

def GovernorPass.isBelow (hz : Nat) : GovernorPass → Bool
  | .off => false
  | .poll tableHz _ => tableHz < hz

/-- The newest passes as long as they are polls whose table rate is below a rate. -/
def descent (hz : Nat) (passes : List GovernorPass) : List GovernorPass :=
  passes.takeWhile (·.isBelow hz)

/-- What a poll may do after the passes before it. -/
structure HoldsDown (history : List GovernorPass) (tableHz : Nat) (handed : Option Nat) : Prop where
  /-- Nothing but the rate of the table is handed on. -/
  own : ∀ hz, handed = some hz → hz = tableHz
  slowDown : ∀ previous hz, previousHz history = some previous → handed = some hz →
    hz < previous → downHoldTicks ≤ (descent previous (.poll tableHz handed :: history)).length
  fastUp : ∀ previous, previousHz history = some previous → previous ≤ tableHz →
    handed = some tableHz
  restarts : previousHz history = none → handed = some tableHz

/-- The locals after the passes: the hold counts what is left of ten polls of a descent. -/
structure HoldCounts (history : List GovernorPass) (locals : GovernorLocals) : Prop where
  last : locals.lastHz = (previousHz history).getD 0
  idle : previousHz history = none → locals.downHoldRemaining = 0
  within : ∀ previous, previousHz history = some previous →
    (descent previous history).length < downHoldTicks
  counts : ∀ previous, previousHz history = some previous →
    locals.downHoldRemaining =
      if descent previous history = [] then 0
      else downHoldTicks - (descent previous history).length

section

variable {history : List GovernorPass} {locals : GovernorLocals} {foundHz : Nat}

@[simp] theorem descent_below {hz : Nat} (handed : Option Nat) (below : foundHz < hz) :
    descent hz (.poll foundHz handed :: history) = .poll foundHz handed :: descent hz history := by
  simp [descent, GovernorPass.isBelow, below]

@[simp] theorem descent_handed (handed : Option Nat) :
    descent foundHz (.poll foundHz handed :: history) = [] := by
  simp [descent, GovernorPass.isBelow]

/-- A rate that was handed on ends the descent before it. -/
theorem HoldCounts.handed (ended : locals.hold foundHz = 0) :
    HoldCounts (.poll foundHz (some foundHz) :: history) (locals.polled foundHz (some foundHz)) where
  last := rfl
  idle := fun unset => by simp [previousHz] at unset
  within := fun previous same => by
    cases same
    simp [downHoldTicks]
  counts := fun previous same => by
    cases same
    simpa [GovernorLocals.polled] using ended

/-- One more poll of a descent that is still held. -/
theorem HoldCounts.held {previous : Nat} (counts : HoldCounts history locals)
    (set : previousHz history = some previous) (below : foundHz < previous)
    (remains : locals.hold foundHz = downHoldTicks - ((descent previous history).length + 1))
    (early : (descent previous history).length + 1 < downHoldTicks) :
    HoldCounts (.poll foundHz none :: history) (locals.polled foundHz none) where
  last := counts.last
  idle := fun unset => by rw [previousHz, set] at unset; contradiction
  within := fun other same => by
    rw [previousHz, set] at same
    cases same
    simpa [below] using early
  counts := fun other same => by
    rw [previousHz, set] at same
    cases same
    simpa [below, GovernorLocals.polled] using remains

theorem hold_not_down (notDown : locals.goingDown foundHz = false) : locals.hold foundHz = 0 := by
  simp [GovernorLocals.hold, notDown]

theorem HoldCounts.hold_down {previous : Nat} (counts : HoldCounts history locals)
    (set : previousHz history = some previous) (down : locals.goingDown foundHz = true) :
    locals.hold foundHz = downHoldTicks - ((descent previous history).length + 1) := by
  have remaining := counts.counts previous set
  have within := counts.within previous set
  by_cases first : descent previous history = []
  · rw [if_pos first] at remaining
    simp [GovernorLocals.hold, down, remaining, first]
  · have some : 0 < (descent previous history).length := List.length_pos_iff.mpr first
    rw [if_neg first] at remaining
    rw [GovernorLocals.hold, if_neg (by simp [down]), if_neg (by omega), remaining]
    omega

/-- A rate that is not lower is handed on at once. -/
theorem HoldCounts.poll_up (counts : HoldCounts history locals) {foundHz : Nat}
    (down : locals.goingDown foundHz = false) :
    HoldsDown history foundHz (some foundHz) ∧
      HoldCounts (.poll foundHz (some foundHz) :: history)
        (locals.polled foundHz (some foundHz)) := by
  refine ⟨⟨fun hz same => (Option.some.inj same).symm, ?_, fun _ _ _ => rfl, fun _ => rfl⟩,
    .handed (hold_not_down down)⟩
  rintro previous hz set ⟨⟩ lower
  have last := counts.last
  rw [set, Option.getD_some] at last
  simp only [GovernorLocals.goingDown, last, Bool.and_eq_false_iff, decide_eq_false_iff_not] at down
  omega

/-- The tenth poll of a descent hands its rate on. -/
theorem HoldCounts.poll_tenth {foundHz previous : Nat} (set : previousHz history = some previous)
    (below : foundHz < previous) (ended : locals.hold foundHz = 0)
    (tenth : (descent previous history).length + 1 = downHoldTicks) :
    HoldsDown history foundHz (some foundHz) ∧
      HoldCounts (.poll foundHz (some foundHz) :: history)
        (locals.polled foundHz (some foundHz)) := by
  refine ⟨⟨fun hz same => (Option.some.inj same).symm, ?_, fun _ _ _ => rfl, fun _ => rfl⟩,
    .handed ended⟩
  rintro other hz same - -
  rw [set] at same
  cases same
  simp [below, tenth]

/-- Before the tenth poll nothing is handed on. -/
theorem HoldCounts.poll_held (counts : HoldCounts history locals) {foundHz previous : Nat}
    (set : previousHz history = some previous) (below : foundHz < previous)
    (remains : locals.hold foundHz = downHoldTicks - ((descent previous history).length + 1))
    (early : (descent previous history).length + 1 < downHoldTicks) :
    HoldsDown history foundHz none ∧
      HoldCounts (.poll foundHz none :: history) (locals.polled foundHz none) := by
  refine ⟨⟨?_, ?_, ?_, ?_⟩, counts.held set below remains early⟩
  · intro hz impossible
    contradiction
  · intro other hz _ impossible
    contradiction
  · intro other same upward
    rw [set] at same
    cases same
    omega
  · intro unset
    rw [set] at unset
    contradiction

theorem HoldCounts.poll (counts : HoldCounts history locals) (foundHz : Nat) :
    let handed := if locals.sets .gpu foundHz foundHz then some foundHz else none
    HoldsDown history foundHz handed ∧
      HoldCounts (.poll foundHz handed :: history) (locals.polled foundHz handed) := by
  intro handed
  cases down : locals.goingDown foundHz with
  | false =>
      have taken : handed = some foundHz :=
        if_pos (by simp [GovernorLocals.sets, down, isAssignableHz])
      rw [taken]
      exact counts.poll_up down
  | true =>
      have last := counts.last
      have lower := down
      simp only [GovernorLocals.goingDown, Bool.and_eq_true, ne_eq, decide_eq_true_eq] at lower
      cases set : previousHz history with
      | none =>
          rw [set, Option.getD_none] at last
          exact absurd last lower.1
      | some previous =>
          rw [set, Option.getD_some] at last
          have below : foundHz < previous := by omega
          have remains := counts.hold_down set down
          have within := counts.within previous set
          by_cases tenth : (descent previous history).length + 1 = downHoldTicks
          · have ended : locals.hold foundHz = 0 := by omega
            have taken : handed = some foundHz :=
              if_pos (by simp [GovernorLocals.sets, ended, isAssignableHz])
            rw [taken]
            exact HoldCounts.poll_tenth set below ended tenth
          · have held : locals.hold foundHz ≠ 0 := by omega
            have kept : handed = none := if_neg (by simp [GovernorLocals.sets, down, held])
            rw [kept]
            exact counts.poll_held set below remains (by omega)

end

theorem HoldCounts.off {history : List GovernorPass} (locals : GovernorLocals) :
    HoldCounts (.off :: history) locals.rest where
  last := rfl
  idle := fun _ => rfl
  within := fun _ same => nomatch same
  counts := fun _ same => nomatch same

theorem enterGpuGovernor_off {state : Sys} (nonempty : state.setting.gFreqTable .gpu ≠ [])
    (stops : (enterGpuGovernor state).2 = false) :
    (enterGpuGovernor state).1.gpuLocals = state.gpuLocals.rest := by
  unfold enterGpuGovernor at stops ⊢
  split
  · rfl
  · rename_i on
    rw [if_neg on] at stops
    simp [nonempty] at stops

theorem enterGpuGovernor_on {state : Sys} (goesOn : (enterGpuGovernor state).2 = true) :
    (enterGpuGovernor state).1 = state := by
  unfold enterGpuGovernor at goesOn ⊢
  split
  · rename_i stopped
    rw [if_pos stopped] at goesOn
    contradiction
  · rfl

/-- What the newest pass of a run does, and what the locals count after it. -/
theorem GpuRun.counts {table : List Nat} (nonempty : table ≠ []) {history : List GovernorPass}
    {locals : GovernorLocals} (run : GpuRun table history locals) : HoldCounts history locals ∧
      ∀ tableHz handed earlier, history = .poll tableHz handed :: earlier →
        HoldsDown earlier tableHz handed := by
  induction run with
  | start locals =>
      refine ⟨⟨rfl, fun _ => rfl, ?_, ?_⟩, ?_⟩
      · exact fun _ same => nomatch same
      · exact fun _ same => nomatch same
      · exact fun _ _ _ same => nomatch same
  | pass before passes ih =>
      cases passes with
      | @off start tableStays stops =>
          rw [enterGpuGovernor_off (by rw [tableStays]; exact nonempty) stops]
          exact ⟨.off _, fun _ _ _ same => nomatch same⟩
      | @poll start locked final goesOn own tableStays finished =>
          obtain ⟨after, handed⟩ := pollGpuGovernor_spec finished
          rw [enterGpuGovernor_on goesOn] at own
          rw [handed, after, own]
          obtain ⟨holds, counts⟩ := ih.1.poll locked.gpuTableHz
          refine ⟨counts, ?_⟩
          rintro _ _ _ ⟨⟩
          exact holds

/-- In every run of the GPU's governor over a table that stays a lower rate is handed to `SetHz`
only in the tenth poll of a descent or later, a rate that is not lower at once. -/
theorem gpu_governor_holds_down {table : List Nat} (nonempty : table ≠ [])
    {history : List GovernorPass} {tableHz : Nat} {handed : Option Nat} {locals : GovernorLocals}
    (run : GpuRun table (.poll tableHz handed :: history) locals) :
    HoldsDown history tableHz handed :=
  (run.counts nonempty).2 tableHz handed history rfl

/-- A console with the GPU's governor on, at a load. -/
def gpuGovernorSample (gpuLoad : Nat) (locals : GovernorLocals) : Sys :=
  let setting := { sampleSetting with services := { sampleServices with gpuLoad } }
  let state := Sys.initial setting sampleRates []
  { state with
    governors := { state.governors with isGpuGovernorEnabled := true }
    gpuLocals := locals }

/-- Full load for one poll, and none after it: the rate is held. -/
theorem gpu_governor_holds_down_sample :
    ∃ locals, GpuRun (sampleTables .gpu)
        [.poll 76800000 none, .poll 614400000 (some 614400000)] locals ∧
      HoldsDown [.poll 614400000 (some 614400000)] 76800000 none := by
  have passes (gpuLoad : Nat) (locals : GovernorLocals) :
      let state := gpuGovernorSample gpuLoad locals
      let foundHz := state.gpuTableHz
      let handed := if locals.sets .gpu foundHz foundHz then some foundHz else none
      GpuPass (sampleTables .gpu) locals (.poll foundHz handed) (locals.polled foundHz handed) := by
    intro state foundHz handed
    obtain ⟨_, final, finished, after, last⟩ := pollGpuGovernor_returns state
    have on : (enterGpuGovernor state).2 = true := rfl
    have pass := GpuPass.poll on (congrArg Sys.gpuLocals (enterGpuGovernor_on on).symm) rfl finished
    rw [after, last] at pass
    exact pass
  have first := (GpuRun.start (Sys.initial sampleSetting sampleRates []).gpuLocals).pass
    (passes 1000 _)
  have run := first.pass (passes 0 _)
  exact ⟨_, run, gpu_governor_holds_down (by decide) run⟩

end HorizonOc.Sysmodule
