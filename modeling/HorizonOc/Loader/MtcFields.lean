import HorizonOc.Loader.Tables

namespace HorizonOc.Loader

/-- A table of `mtc_timing_table.hpp` by its words. -/
abbrev MtcTable (size : Nat) := Fin size → Word

def eristaMtcWords : Nat := 1232

def marikoMtcWords : Nat := 1075

/-- `offsetof(MtcTable, rate_khz)` in words; `rev` is the first word. -/
def rateKhzOffset : Nat := 16

/-- The fields of `EristaTiming` that `WRITE_PARAM_ALL_REG` is used for. -/
def eristaTimingWords : List Nat :=
  [ -- emc_rc, emc_rfc, emc_rfcpb, emc_ras, emc_rp, emc_r2w, emc_w2r, emc_r2p, emc_w2p
   0, 1, 2, 5, 6, 7, 8, 9, 10,
   -- emc_rd_rcd, emc_wr_rcd, emc_rrd, emc_rext, emc_wext, emc_refresh, emc_pre_refresh_req_cnt
   14, 15, 16, 17, 18, 41, 43,
   -- emc_pdex2wr, emc_pdex2rd, emc_pchg2pden, emc_act2pden, emc_ar2pden, emc_rw2pden
   44, 45, 46, 47, 48, 49,
   -- emc_cke2pden, emc_pdex2cke, emc_pdex2mrr, emc_txsr, emc_txsrdll, emc_tcke, emc_tckesr
   50, 51, 52, 53, 54, 55, 56,
   -- emc_tpd, emc_tfaw, emc_trpab, emc_tclkstop, emc_trefbw, emc_cfg, emc_dyn_self_ref_control
   57, 58, 59, 61, 63, 148, 150]

/-- The fields of `burst_mc_regs` that are written, each as `mc_emem_arb_..`. -/
def eristaBurstMcWords : List Nat :=
  [ -- cfg, timing_rcd, timing_rp, timing_rc, timing_ras, timing_faw, timing_rrd
   0, 4, 5, 6, 7, 8, 9,
   -- timing_rap2pre, timing_wap2pre, timing_r2r, timing_r2w, timing_w2r, timing_rfcpb
   10, 11, 12, 14, 16, 17,
   -- da_turns, da_covers, misc0
   18, 19, 20]

/-- The fields of `la_scale_regs` that are written: all but `mc_latency_allowance_ppcs_0` and
`mc_latency_allowance_isp2_0`. -/
def eristaLaScaleWords : List Nat := (List.range 24).filter fun word => word ≠ 10 ∧ word ≠ 22

/-- Every word of a table that `MemMtcTableAutoAdjust` writes. -/
def eristaAdjustedWords : List Nat :=
  -- min_volt
  [17] ++
  -- burst_regs, shadow_regs_ca_train, shadow_regs_rdwr_train
  [71, 300, 742].flatMap (fun first => eristaTimingWords.map (first + ·)) ++
  -- dram_timings.t_rp, dram_timings.t_rfc
  [1115, 1117] ++
  eristaBurstMcWords.map (1152 + ·) ++ eristaLaScaleWords.map (1185 + ·) ++
  -- emc_cfg_2
  [1226]

/-- The words at some places are written, with values that depend on the whole table. -/
def writeWords {size : Nat} (places : List Nat) (values : MtcTable size → Nat → Word)
    (table : MtcTable size) : MtcTable size :=
  fun offset => if (offset : Nat) ∈ places then values table offset else table offset

theorem rateKhzOffset_kept : rateKhzOffset ∉ eristaAdjustedWords := by decide

end HorizonOc.Loader
