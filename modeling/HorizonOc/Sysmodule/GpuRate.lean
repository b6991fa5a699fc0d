import HorizonOc.Sysmodule.ClockSteps

namespace HorizonOc.Sysmodule

open HorizonOc.Data

/-- The GPU's own target, or stock without one, decided every rate handed on last.  Where a reset
sets stock rates and the cache agreed with the hardware, it decides the rate in force. -/
structure GpuFollowsOwnTarget (isBoost : Bool) (start final : Sys) : Prop where
  handed : ∀ hz, lastHz .gpu final.log = some hz → start.setting.decidedHz .gpu = some hz
  inForce : start.setting.board.hosAtLeast9 = true → ¬ReturnsEarly isBoost start →
    start.freqs .gpu = start.rate .gpu → start.setting.decidedHz .gpu = some (final.rate .gpu)

/-- Lowering the memory picks the GPU's own rate, and below HOS 9 the memory is not reset while the
GPU has no target. -/
structure MemorySparesGpu (isBoost : Bool) (state : Sys) : Prop where
  lowered : state.LowersMemory isBoost →
    nearestAllowedHz state.setting .gpu (resolveTargetHz state.setting .mem false) =
      state.setting.decidedHz .gpu
  reset : state.setting.board.hosAtLeast9 = false → usesHijack state.setting = true →
    resolveTargetHz state.setting .gpu false = 0 → resolveTargetHz state.setting .mem false ≠ 0

theorem apmConfigurations_gpu : ∀ configuration ∈ apmConfigurations,
    configuration.gpuHz ≠ unlimitedHz := by
  decide

theorem Setting.stockHz_ne_unlimited (setting : Setting) :
    setting.stockHz .gpu ≠ some unlimitedHz := by
  intro same
  obtain ⟨configuration, stock, isLimit⟩ := Option.map_eq_some_iff.mp same
  unfold Setting.stock apmConfiguration at stock
  exact apmConfigurations_gpu configuration (List.mem_of_find?_eq_some stock) isLimit

section

variable {start final : Sys} {isBoost : Bool}

theorem GpuFollowsOwnTarget.of_lowered {hz : Nat}
    (nearest : nearestAllowedHz start.setting .gpu (resolveTargetHz start.setting .mem false) = some hz)
    (hands : HandsOn .gpu (some hz) start.forget final) :
    GpuFollowsOwnTarget isBoost start final ↔
      nearestAllowedHz start.setting .gpu (resolveTargetHz start.setting .mem false) =
        start.setting.decidedHz .gpu := by
  constructor
  · intro follows
    exact nearest.trans (follows.handed hz hands.lastHz).symm
  · intro agrees
    have same : start.setting.decidedHz .gpu = some hz := agrees.symm.trans nearest
    refine ⟨fun last isLast => ?_, fun hos9 _ _ => ?_⟩
    · rw [hands.lastHz] at isLast
      exact same.trans isLast
    · rw [hands.rate hos9]
      exact same

theorem GpuFollowsOwnTarget.of_decided {decided : Nat}
    (isDecided : start.setting.decidedHz .gpu = some decided)
    (decides : resolveTargetHz start.setting .gpu false ≠ 0 ∨ start.setting.board.hosAtLeast9 = true)
    (hands : HandsOn .gpu (start.setting.ownGpuHz (start.freqs .gpu)) start.forget final) :
    GpuFollowsOwnTarget isBoost start final := by
  rcases start.setting.ownGpuHz_decided isDecided decides with own | ⟨cached, own⟩
  · rw [own] at hands
    refine ⟨fun hz last => ?_, fun hos9 _ _ => ?_⟩
    · rw [hands.lastHz] at last
      exact isDecided.trans last
    · rw [hands.rate hos9]
      exact isDecided
  · rw [own] at hands
    refine ⟨fun hz last => ?_, fun hos9 _ coherent => ?_⟩
    · rw [hands.lastHz] at last
      contradiction
    · rw [hands.rate hos9, isDecided, cached]
      exact congrArg some coherent

theorem GpuFollowsOwnTarget.iff_of_older (older : start.setting.board.hosAtLeast9 = false)
    (noTarget : resolveTargetHz start.setting .gpu false = 0)
    (hands : HandsOn .gpu (start.setting.ownGpuHz (start.freqs .gpu)) start.forget final) :
    GpuFollowsOwnTarget isBoost start final ↔
      (usesHijack start.setting = true → resolveTargetHz start.setting .mem false ≠ 0) := by
  have stock : start.setting.decidedHz .gpu = start.setting.stockHz .gpu := by
    rw [Setting.decidedHz, if_neg (by simpa using noTarget)]
  have last := hands.lastHz
  rw [Setting.ownGpuHz_older older noTarget] at last
  by_cases opened : usesHijack start.setting = true ∧ resolveTargetHz start.setting .mem false = 0
  · rw [if_pos opened] at last
    refine iff_of_false (fun follows => ?_) fun spared => spared opened.1 opened.2
    exact start.setting.stockHz_ne_unlimited (stock.symm.trans (follows.handed _ last))
  · rw [if_neg opened] at last
    refine iff_of_true ⟨fun hz isLast => ?_, fun hos9 => ?_⟩ fun uses noMem => opened ⟨uses, noMem⟩
    · rw [last] at isLast
      contradiction
    · rw [older] at hos9
      contradiction

end

/-- The GPU follows its own target exactly when the memory's pass leaves it to. -/
theorem setClocks_gpu_follows_own_target_iff {state final : Sys} {isBoost : Bool}
    (off : state.governors.isGpuGovernorEnabled = false)
    (lastOff : state.governors.lastGpuGovernorState = false)
    (finished : (setClocks isBoost).run state.forget = .ok (⟨⟩, final)) :
    GpuFollowsOwnTarget isBoost state final ↔
      (¬ReturnsEarly isBoost state → MemorySparesGpu isBoost state) := by
  by_cases early : ReturnsEarly isBoost state
  · have frame := (setClocks_early_hands (by exact early) finished).1
    have hands : HandsOn .gpu none state.forget final := .of_touchesOnly frame (by decide)
    refine iff_of_true ⟨fun hz last => ?_, fun _ late => absurd early late⟩ fun late => absurd early late
    rw [hands.lastHz] at last
    contradiction
  · obtain ⟨found, outcome⟩ :=
      setClocks_hands_gpu (by exact early) (by exact off) (by exact lastOff) finished
    change resolveTargetHz state.setting .gpu false ≠ 0 ∨ state.setting.board.hosAtLeast9 = true →
      ∃ decided, state.setting.decidedHz .gpu = some decided at found
    rw [imp_iff_right early]
    rcases outcome with ⟨lowers, hz, nearest, hands⟩ | ⟨kept, hands⟩
    · have follows_iff : GpuFollowsOwnTarget isBoost state final ↔ _ :=
        GpuFollowsOwnTarget.of_lowered nearest hands
      rw [follows_iff]
      exact ⟨fun agrees => ⟨fun _ => agrees, fun _ _ _ => lowers.2.1⟩,
        fun spares => spares.lowered lowers⟩
    · by_cases decides : resolveTargetHz state.setting .gpu false ≠ 0 ∨
          state.setting.board.hosAtLeast9 = true
      · obtain ⟨decided, isDecided⟩ := found decides
        refine iff_of_true (.of_decided isDecided decides hands)
          ⟨fun lowers => absurd lowers kept, fun older _ noTarget => ?_⟩
        rw [older] at decides
        simp [noTarget] at decides
      · have noTarget : resolveTargetHz state.setting .gpu false = 0 :=
          Classical.not_not.mp fun target => decides (.inl target)
        have older : state.setting.board.hosAtLeast9 = false :=
          Bool.eq_false_iff.mpr fun hos9 => decides (.inr hos9)
        rw [GpuFollowsOwnTarget.iff_of_older older noTarget hands]
        exact ⟨fun spared => ⟨fun lowers => absurd lowers kept, fun _ uses _ => spared uses⟩,
          fun spares uses => spares.reset older uses noTarget⟩

/-- Memory at 1866 MHz with a target of 1600 MHz, and a GPU target of 307.2 MHz. -/
def loweringSample : Sys :=
  let rates := Function.update sampleRates .mem 1866000000
  { Sys.initial
      ((sampleSetting.withOverride .gpu 307200000).withOverride .mem 1600000000) rates [] with
    freqs := rates }

theorem setClocks_gpu_follows_own_target_iff_sample :
    ∃ final, (setClocks false).run loweringSample.forget = .ok (⟨⟩, final) ∧
      (GpuFollowsOwnTarget false loweringSample final ↔
        (¬ReturnsEarly false loweringSample → MemorySparesGpu false loweringSample)) := by
  have returns : ((setClocks false).outcome loweringSample.forget).isSome = true := by
    decide +kernel
  obtain ⟨final, returned⟩ := Option.isSome_iff_exists.mp returns
  have finished := Program.run_of_outcome returned
  exact ⟨final, finished, setClocks_gpu_follows_own_target_iff rfl rfl finished⟩

/-- The lowered memory takes the GPU to the nearest entry of 1600 MHz under the cap. -/
theorem setClocks_gpu_follows_lowered_memory :
    ∃ final, (setClocks false).run loweringSample.forget = .ok (⟨⟩, final) ∧
      lastHz .gpu final.log = some 614400000 ∧
      loweringSample.setting.decidedHz .gpu = some 307200000 ∧
      ¬GpuFollowsOwnTarget false loweringSample final := by
  have last : ((setClocks false).outcome loweringSample.forget).map (lastHz .gpu ·.log) =
      some (some 614400000) := by decide +kernel
  obtain ⟨final, returned, isLast⟩ := Option.map_eq_some_iff.mp last
  have decided : loweringSample.setting.decidedHz .gpu = some 307200000 := by decide +kernel
  refine ⟨final, Program.run_of_outcome returned, isLast, decided, fun follows => ?_⟩
  have same := follows.handed _ isLast
  rw [decided] at same
  exact absurd same (by decide)

end HorizonOc.Sysmodule
