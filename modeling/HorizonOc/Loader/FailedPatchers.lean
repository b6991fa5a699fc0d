import HorizonOc.Data.CleanFailure
import HorizonOc.Loader.AutoVoltages
import HorizonOc.Loader.PatchReach

namespace HorizonOc.Loader

open HorizonOc.Data

section

variable {ptr : Int} {store : Image} {soc : Soc} {custom : CustomizeTable} {platform : Platform}
  {fields patches : List (Int × Word)} {compared : Patcher Bool} {error : LdrResult}

theorem patchAfter_failsWith (compares : Compares ptr fields compared) :
    Tracked.FailsWith store.word (patchAfter compared error ptr patches) store := by
  intro failure failed
  by_cases matching : MatchesAt store ptr fields
  · rw [(patchAfter_of_matching compares matching).1] at failed
    contradiction
  · rw [patchAfter_of_differing compares matching]

theorem installTable_failsWith {defaultTable customizeTable : DvfsTable} :
    Tracked.FailsWith store.word (installTable defaultTable customizeTable error ptr) store := by
  rw [installTable, Tracked.failsWith_bind_of_run rfl]
  exact .require_total (.writeBlock _ _ _)

theorem capCpuVolt_total (maxVolt : Word) (entry : Int) : Tracked.Total (capCpuVolt soc maxVolt entry) := by
  unfold capCpuVolt
  refine (Tracked.Total.read _).bind fun freqLow => (Tracked.Total.read _).bind fun freqHigh => ?_
  exact .ite (.write _ _) (.pure _)

theorem subtractGpuVoltOffset_total (entry : Int) :
    Tracked.Total (subtractGpuVoltOffset custom entry) :=
  (Tracked.Total.read _).bind fun _ => .write _ _

theorem patchGpuVolt_total (head : Int) (index : Nat) :
    Tracked.Total (patchGpuVolt soc custom head index) :=
  .ite ((Tracked.Total.write _ _).bind fun _ => .writeBlock _ _ _) (subtractGpuVoltOffset_total _)

theorem cpuFreqCvbTable_failsWith :
    Tracked.FailsWith store.word (cpuFreqCvbTable soc custom ptr) store := by
  refine installTable_failsWith.bind_total fun _ => ?_
  exact .ite (.forM _ fun _ => capCpuVolt_total _ _) (.pure _)

theorem gpuFreqCvbTable_failsWith :
    Tracked.FailsWith store.word (gpuFreqCvbTable soc custom ptr) store := by
  refine installTable_failsWith.bind_total fun _ => ?_
  refine (Tracked.Total.forM _ fun _ => patchGpuVolt_total _ _).bind fun _ => ?_
  exact .ite (.forM _ fun _ => subtractGpuVoltOffset_total _) (.pure _)

/-- A table without a last entry is noticed before the first instruction is written. -/
theorem gpuFreqMaxAsm_failsWith :
    Tracked.FailsWith store.word (gpuFreqMaxAsm soc custom ptr) store := by
  rw [gpuFreqMaxAsm, Tracked.failsWith_bind_of_run rfl, Tracked.failsWith_bind_of_run rfl,
    Tracked.failsWith_require_bind]
  refine ⟨fun _ => rfl, fun _ => ?_⟩
  cases getDvfsTableLastEntry (soc.gpuCustomizeTable custom) with
  | none => exact Tracked.failsWith_fail.mpr rfl
  | some last => exact ((Tracked.Total.write _ _).bind fun _ => .write _ _).failsWith

theorem gpuFreqPllMax_failsWith : Tracked.FailsWith store.word (gpuFreqPllMax ptr) store := by
  rw [gpuFreqPllMax, Tracked.failsWith_bind_of_run ((compareFields_compares ptr _).run store)]
  exact .require_total ((Tracked.Total.read _).bind fun _ => .write _ _)

theorem memFreqPllmLimit_failsWith : Tracked.FailsWith store.word (memFreqPllmLimit ptr) store := by
  rw [memFreqPllmLimit, Tracked.failsWith_bind_of_run rfl, Tracked.failsWith_bind_of_run rfl]
  exact .require_total ((Tracked.Total.write _ _).bind fun _ => .write _ _)

theorem memVoltHandler_failsWith : Tracked.FailsWith store.word (memVoltHandler custom ptr) store := by
  rw [memVoltHandler, Tracked.failsWith_bind_of_run (validateRegulator_run _ _ _ _),
    Tracked.failsWith_bind_of_run (validateRegulator_run _ _ _ _)]
  exact .require_total (.ite (.pure _) (.write _ _))

theorem validateMtcTables_failsWith {mtcWords : Nat} {rev : Word} {rates : List Word} :
    Tracked.FailsWith store.word (validateMtcTables mtcWords rev ptr rates) store := by
  obtain ⟨validates, fails⟩ := validateMtcTables_run mtcWords rev ptr rates store
  by_cases stock : RatesBackwards store.word mtcWords rev ptr rates
  · exact (Tracked.failsWith_of_run (validates stock)).mpr fun _ _ => rfl
  · exact (Tracked.failsWith_of_run (fails stock)).mpr fun _ _ => rfl

theorem autoAdjust_total {size : Nat} (adjust : MtcTable size → MtcTable size) (table : Int) :
    Tracked.Total (autoAdjust adjust table) :=
  (Tracked.Total.readBlock _ _).bind fun _ => .writeBlock _ _ _

namespace Mariko

theorem cpuFreqVdd_failsWith : Tracked.FailsWith store.word (cpuFreqVdd custom ptr) store := by
  have run := cpuFreqVdd_run custom ptr store
  by_cases matching : MatchesAt store (ptr - 6) cpuRailStock
  · rw [if_pos matching] at run
    cases limit : railLimit custom with
    | none =>
        rw [limit] at run
        exact (Tracked.failsWith_of_run run).mpr fun _ _ => rfl
    | some rate =>
        rw [limit] at run
        exact (Tracked.failsWith_of_run run).mpr fun _ failed => by contradiction
  · rw [if_neg matching] at run
    exact (Tracked.failsWith_of_run run).mpr fun _ _ => rfl

theorem gpuFreqPllLimit_failsWith : Tracked.FailsWith store.word (gpuFreqPllLimit ptr) store := by
  rw [gpuFreqPllLimit, Tracked.failsWith_bind_of_run rfl]
  exact .require_total (.write _ _)

theorem memFreqMtcTable_failsWith :
    Tracked.FailsWith store.word (memFreqMtcTable platform custom ptr) store := by
  refine validateMtcTables_failsWith.bind_total fun _ => .ite (.pure _) ?_
  refine (Tracked.Total.readBlock _ _).bind fun _ => (autoAdjust_total _ _).bind fun _ => ?_
  exact (Tracked.Total.writeBlock _ _ _).bind fun _ => .write _ _

theorem addDvbEntry_total : Tracked.Total (addDvbEntry custom ptr) := by
  unfold addDvbEntry
  cases dvbEntry custom with
  | none => exact .copyBlock _ _ _
  | some added => exact .writeBlock _ _ _

theorem memFreqDvbTable_failsWith :
    Tracked.FailsWith store.word (memFreqDvbTable custom ptr) store := by
  rw [memFreqDvbTable, Tracked.failsWith_bind_of_run ((comparePattern_compares _ _ _).run store)]
  exact .require_total (.ite (.pure _) (addDvbEntry_total.bind fun _ => .writeBlock _ _ _))

theorem memFreqMax_total : Tracked.Total (memFreqMax custom ptr) := .ite (.pure _) (.write _ _)

end Mariko

namespace Erista

theorem scaleTables_total (clocks : List Word) (remaining : Nat) :
    Tracked.Total (scaleTables platform ptr remaining clocks) := by
  induction clocks generalizing remaining with
  | nil => cases remaining <;> exact .pure _
  | cons clock rest ih =>
      cases remaining with
      | zero => exact .pure _
      | succ remaining =>
          refine .ite (ih _) ((Tracked.Total.write _ _).bind fun _ => ?_)
          exact (autoAdjust_total _ _).bind fun _ => ih remaining

/-- The clocks are sorted before the check, but they lie beside the image. -/
theorem memFreqMtcTable_failsWith :
    Tracked.FailsWith store.word (memFreqMtcTable platform ptr) store := by
  rw [memFreqMtcTable, Tracked.failsWith_bind_of_run rfl]
  split
  · exact (Tracked.Total.pure _).failsWith
  · dsimp only
    rw [Tracked.failsWith_bind_of_run rfl]
    refine validateMtcTables_failsWith.bind_total fun _ => ?_
    refine (Tracked.Total.setRest _).bind fun _ => (Tracked.Total.copyBlock _ _ _).bind fun _ => ?_
    exact (Tracked.Total.forM _ fun _ => .copyBlock _ _ _).bind fun _ => scaleTables_total _ _

theorem memFreqMax_failsWith : Tracked.FailsWith store.word (memFreqMax ptr) store := by
  rw [memFreqMax, Tracked.failsWith_bind_of_run rfl]
  exact (Tracked.Total.ite (.pure _) (.write _ _)).failsWith

end Erista

end

namespace Mariko

variable {ptr : Int} {store : Image} {custom : CustomizeTable} {platform : Platform}

/-- Where the stock voltage of the regulator is found and another is set, the bus takes it, unless
rounding leads back to the stock voltage. -/
def VddqSpared (platform : Platform) (custom : CustomizeTable) (ptr : Int) (store : Image) : Prop :=
  store.word ptr = emcVddqDefault → RegulatorAt store (ptr - 11) 2 emcVddqFields →
    custom.marikoEmcVddqVolt ≠ 0 →
    platform.i2cSucceeds store.rest.i2cCalls = true ∨
      emcVddqStep custom.marikoEmcVddqVolt = emcVddqDefault

theorem emcVddqVolt_failsWith_iff (found : store.word ptr = emcVddqDefault) :
    Tracked.FailsWith store.word (emcVddqVolt platform custom ptr) store ↔
      VddqSpared platform custom ptr store := by
  have run := emcVddqVolt_run platform custom ptr store
  unfold VddqSpared
  by_cases regulator : RegulatorAt store (ptr - 11) 2 emcVddqFields
  · rw [if_pos regulator] at run
    by_cases auto : custom.marikoEmcVddqVolt = 0
    · rw [if_pos auto] at run
      rw [Tracked.failsWith_of_run run]
      simp [auto]
    · rw [if_neg auto] at run
      cases succeeds : platform.i2cSucceeds store.rest.i2cCalls with
      | true =>
          rw [succeeds, if_pos rfl] at run
          rw [Tracked.failsWith_of_run run]
          simp
      | false =>
          rw [succeeds, if_neg Bool.false_ne_true] at run
          rw [Tracked.failsWith_of_run run]
          constructor
          · intro kept _ _ _
            have here : emcVddqStep custom.marikoEmcVddqVolt = store.word ptr :=
              Function.update_eq_self_iff.mp (kept .i2c rfl)
            exact .inr (here.trans found)
          · intro spared _ _
            rcases spared found regulator auto with succeeded | same
            · contradiction
            · exact Function.update_eq_self_iff.mpr (same.trans found.symm)
  · rw [if_neg regulator] at run
    rw [Tracked.failsWith_of_run run]
    exact iff_of_true (fun _ _ => rfl) fun _ stock => absurd stock regulator

end Mariko

/-- If the call fails, the image after it is the image before it. -/
def PatcherEntry.FailsUntouched (entry : PatcherEntry) (ptr : Int) (store : Image) : Prop :=
  (entry.searchAndApply ptr store).succeeded = false →
    (entry.searchAndApply ptr store).store.word = store.word

section

variable {entry : PatcherEntry} {ptr : Int} {store : Image} {soc : Soc} {platform : Platform}
  {custom : CustomizeTable}

theorem succeeded_eq_false_iff {outcome : Outcome Word PatchState LdrResult PUnit} :
    outcome.succeeded = false ↔ ∃ error, outcome.result = .error error := by
  unfold Outcome.succeeded
  cases outcome.result with
  | ok value => simp [Except.toBool]
  | error error => simp [Except.toBool]

theorem failsUntouched_iff :
    entry.FailsUntouched ptr store ↔ (entry.search.found (store.word ptr) = true →
      Tracked.FailsWith store.word (entry.patcher ptr) store) := by
  have tried := searchAndApply_run entry ptr store
  have failing : entry.FailsUntouched ptr store ↔
      Tracked.FailsWith store.word (entry.searchAndApply ptr) store := by
    unfold PatcherEntry.FailsUntouched Tracked.FailsWith
    rw [succeeded_eq_false_iff, forall_exists_index]
  rw [failing]
  by_cases found : entry.search.found (store.word ptr) = true
  · rw [if_pos found] at tried
    have same : Tracked.FailsWith store.word (entry.searchAndApply ptr) store ↔
        Tracked.FailsWith store.word (entry.patcher ptr) store := Tracked.failsWith_of_run tried
    rw [same]
    exact ⟨fun fails _ => fails, fun fails => fails found⟩
  · rw [if_neg found] at tried
    rw [Tracked.failsWith_of_run tried]
    exact iff_of_true (fun _ _ => rfl) fun present => absurd present found

/-- A patcher that fails before it writes, under whatever name. -/
theorem untouched_iff_of_failsWith {condition : Prop} (other : entry.description ≠ "MEM Vddq")
    (fails : Tracked.FailsWith store.word (entry.patcher ptr) store) :
    entry.FailsUntouched ptr store ↔ (entry.description = "MEM Vddq" → condition) :=
  iff_of_true (failsUntouched_iff.mpr fun _ => fails) fun same => absurd same other

theorem Mariko.patches_untouched_iff (member : entry ∈ Mariko.patches platform custom) :
    entry.FailsUntouched ptr store ↔
      (entry.description = "MEM Vddq" → Mariko.VddqSpared platform custom ptr store) := by
  simp only [Mariko.patches, Mariko.voltagePatches, List.cons_append, List.nil_append,
    List.mem_cons, List.not_mem_nil, or_false] at member
  rcases member with rfl | rfl | rfl | rfl | rfl | rfl | rfl | rfl | rfl | rfl | rfl | rfl | rfl |
    rfl | rfl | rfl | rfl
  · exact untouched_iff_of_failsWith (by simp) Mariko.cpuFreqVdd_failsWith
  · exact untouched_iff_of_failsWith (by simp) cpuFreqCvbTable_failsWith
  · exact untouched_iff_of_failsWith (by simp) (patchAfter_failsWith (compareFields_compares _ _))
  · exact untouched_iff_of_failsWith (by simp) (patchAfter_failsWith (comparePattern_compares _ _ _))
  · exact untouched_iff_of_failsWith (by simp) (patchAfter_failsWith (compareFields_compares _ _))
  · exact untouched_iff_of_failsWith (by simp) (patchAfter_failsWith (compareFields_compares _ _))
  · exact untouched_iff_of_failsWith (by simp) (patchAfter_failsWith (comparePattern_compares _ _ _))
  · exact untouched_iff_of_failsWith (by simp) gpuFreqCvbTable_failsWith
  · exact untouched_iff_of_failsWith (by simp) gpuFreqMaxAsm_failsWith
  · exact untouched_iff_of_failsWith (by simp) gpuFreqPllMax_failsWith
  · exact untouched_iff_of_failsWith (by simp) Mariko.gpuFreqPllLimit_failsWith
  · exact untouched_iff_of_failsWith (by simp) Mariko.memFreqMtcTable_failsWith
  · exact untouched_iff_of_failsWith (by simp) Mariko.memFreqDvbTable_failsWith
  · exact untouched_iff_of_failsWith (by simp) Mariko.memFreqMax_total.failsWith
  · exact untouched_iff_of_failsWith (by simp) memFreqPllmLimit_failsWith
  · rw [failsUntouched_iff]
    constructor
    · intro fails _ found
      exact (Mariko.emcVddqVolt_failsWith_iff found).mp (fails (decide_eq_true found)) found
    · intro spared present
      exact (Mariko.emcVddqVolt_failsWith_iff (of_decide_eq_true present)).mpr (spared rfl)
  · exact untouched_iff_of_failsWith (by simp) memVoltHandler_failsWith

theorem Erista.patches_untouched (member : entry ∈ Erista.patches platform custom) :
    entry.description ≠ "MEM Vddq" ∧ entry.FailsUntouched ptr store := by
  simp only [Erista.patches, Erista.voltagePatches, List.cons_append, List.nil_append,
    List.mem_cons, List.not_mem_nil, or_false] at member
  rw [failsUntouched_iff]
  rcases member with rfl | rfl | rfl | rfl | rfl | rfl | rfl | rfl | rfl | rfl | rfl | rfl | rfl
  · exact ⟨by simp, fun _ => cpuFreqCvbTable_failsWith⟩
  · exact ⟨by simp, fun _ => patchAfter_failsWith (comparePattern_compares _ _ _)⟩
  · exact ⟨by simp, fun _ => patchAfter_failsWith (comparePattern_compares _ _ _)⟩
  · exact ⟨by simp, fun _ => patchAfter_failsWith (compareFields_compares _ _)⟩
  · exact ⟨by simp, fun _ => patchAfter_failsWith (comparePattern_compares _ _ _)⟩
  · exact ⟨by simp, fun _ => patchAfter_failsWith (comparePattern_compares _ _ _)⟩
  · exact ⟨by simp, fun _ => gpuFreqCvbTable_failsWith⟩
  · exact ⟨by simp, fun _ => gpuFreqMaxAsm_failsWith⟩
  · exact ⟨by simp, fun _ => gpuFreqPllMax_failsWith⟩
  · exact ⟨by simp, fun _ => Erista.memFreqMtcTable_failsWith⟩
  · exact ⟨by simp, fun _ => Erista.memFreqMax_failsWith⟩
  · exact ⟨by simp, fun _ => memFreqPllmLimit_failsWith⟩
  · exact ⟨by simp, fun _ => memVoltHandler_failsWith⟩

end

/-- The calls at a position, with the image that each is made on: those up to the first that
succeeds. -/
def tries : List PatcherEntry → Int → Image → List (PatcherEntry × Image)
  | [], _, _ => []
  | entry :: rest, ptr, store =>
      (entry, store) ::
        if (entry.searchAndApply ptr store).succeeded then []
        else tries rest ptr (entry.searchAndApply ptr store).store

section

variable {ptr : Int} {store : Image} {entries : List PatcherEntry}

/-- What is left at a position is what the last of these calls leaves. -/
theorem applyFirst_store (entries : List PatcherEntry) (ptr : Int) (store : Image) :
    (applyFirst entries ptr store).store =
      (((tries entries ptr store).getLast?).map fun call =>
        (call.1.searchAndApply ptr call.2).store).getD store := by
  induction entries generalizing store with
  | nil => rfl
  | cons entry rest ih =>
      have attempted : (Tracked.attempt (entry.searchAndApply ptr) store :
          Outcome Word PatchState LdrResult Bool).result =
            .ok (entry.searchAndApply ptr store).succeeded := rfl
      rw [applyFirst, Tracked.bind_of_ok attempted, tries]
      cases (entry.searchAndApply ptr store).succeeded with
      | true => rfl
      | false =>
          obtain ⟨index, later⟩ := applyFirst_returns rest ptr (entry.searchAndApply ptr store).store
          have passed : ((applyFirst rest ptr >>= fun index => pure (index.map (· + 1)) :
              Patcher (Option Nat)) (entry.searchAndApply ptr store).store).store =
                (applyFirst rest ptr (entry.searchAndApply ptr store).store).store := by
            rw [Tracked.bind_of_ok later]
            rfl
          rw [if_neg Bool.false_ne_true, if_neg Bool.false_ne_true, List.getLast?_cons]
          refine passed.trans ((ih _).trans ?_)
          cases (tries rest ptr (entry.searchAndApply ptr store).store).getLast? with
          | none => rfl
          | some call => rfl

theorem tries_untouched (untouched : ∀ call ∈ tries entries ptr store,
      call.1.FailsUntouched ptr call.2) :
    ∀ call ∈ tries entries ptr store, call.2.word = store.word := by
  induction entries generalizing store with
  | nil => exact fun call member => absurd member List.not_mem_nil
  | cons entry rest ih =>
      rw [tries] at untouched ⊢
      rw [List.forall_mem_cons] at untouched ⊢
      refine ⟨rfl, ?_⟩
      cases succeeded : (entry.searchAndApply ptr store).succeeded with
      | true => exact fun call member => absurd member (by simp)
      | false =>
          rw [succeeded] at untouched
          intro call member
          have kept : (entry.searchAndApply ptr store).store.word = store.word :=
            untouched.1 succeeded
          exact (ih untouched.2 call member).trans kept

theorem tries_mem {call : PatcherEntry × Image} (member : call ∈ tries entries ptr store) :
    call.1 ∈ entries := by
  induction entries generalizing store with
  | nil => exact absurd member List.not_mem_nil
  | cons entry rest ih =>
      rw [tries] at member
      rcases List.mem_cons.mp member with rfl | later
      · exact List.mem_cons_self
      · refine List.mem_cons_of_mem entry ?_
        split at later
        · exact absurd later List.not_mem_nil
        · exact ih later

end

/-- A failed call leaves the image as it was, but for the regulator that is set over I2C, where that
depends on the bus; and where it is spared, all that are tried at a position find the same words. -/
theorem failed_patcher_untouched_iff (soc : Soc) (platform : Platform) (custom : CustomizeTable)
    (ptr : Int) (store : Image) :
    (∀ entry ∈ soc.patches platform custom, entry.FailsUntouched ptr store ↔
      (entry.description = "MEM Vddq" → Mariko.VddqSpared platform custom ptr store)) ∧
    ((∀ call ∈ tries (soc.patches platform custom) ptr store, call.1.description = "MEM Vddq" →
        Mariko.VddqSpared platform custom ptr call.2) →
      ∀ call ∈ tries (soc.patches platform custom) ptr store, call.2.word = store.word) := by
  have each (image : Image) : ∀ entry ∈ soc.patches platform custom,
      entry.FailsUntouched ptr image ↔
        (entry.description = "MEM Vddq" → Mariko.VddqSpared platform custom ptr image) := by
    intro entry member
    cases soc with
    | mariko => exact Mariko.patches_untouched_iff member
    | erista =>
        obtain ⟨other, untouched⟩ := Erista.patches_untouched member
        exact iff_of_true untouched fun same => absurd same other
  refine ⟨each store, fun spared => tries_untouched fun call member => ?_⟩
  exact (each call.2 call.1 (tries_mem member)).mpr (spared call member)

/-- A voltage for the regulator of Mariko's memory. -/
def vddqSample : CustomizeTable := { shipped with marikoEmcVddqVolt := 610000 }

/-- The bus refuses the voltage after it was written over the stock one. -/
theorem failed_vddq_leaves_voltage :
    let platform : Platform :=
      { eristaTimings := fun _ _ => 0, marikoAutoAdjust := id, i2cSucceeds := fun _ => false }
    let entry : PatcherEntry :=
      ⟨"MEM Vddq", Mariko.emcVddqVolt platform vddqSample, 2, .value Mariko.emcVddqDefault⟩
    safetyCheck vddqSample = true ∧ entry ∈ Soc.mariko.patches platform vddqSample ∧
      emcVddqImage.word 11 = 600000 ∧
      (entry.searchAndApply 11 emcVddqImage).succeeded = false ∧
      (entry.searchAndApply 11 emcVddqImage).store.word 11 = 610000 ∧
      ¬entry.FailsUntouched 11 emcVddqImage := by
  intro platform entry
  have member : entry ∈ Soc.mariko.patches platform vddqSample := by
    simp [Soc.patches, Mariko.patches, entry]
  have failed : (entry.searchAndApply 11 emcVddqImage).succeeded = false := by decide +kernel
  have left : (entry.searchAndApply 11 emcVddqImage).store.word 11 = 610000 := by decide +kernel
  refine ⟨by decide +kernel, member, by decide +kernel, failed, left, fun untouched => ?_⟩
  have kept := congrFun (untouched failed) 11
  rw [left] at kept
  exact absurd kept (by decide +kernel)

end HorizonOc.Loader
