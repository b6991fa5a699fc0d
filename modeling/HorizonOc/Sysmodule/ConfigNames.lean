import Mathlib.Data.List.Nodup
import HorizonOc.Sysmodule.Types

namespace HorizonOc.Sysmodule

/-- The values in the order of their numbers. -/
def ConfigValue.all : List ConfigValue :=
  [.pollingIntervalMs, .tempLogIntervalMs, .freqLogIntervalMs, .powerLogIntervalMs,
   .csvWriteIntervalMs, .uncappedClocks, .overwriteBoostMode, .eristaMaxCpuClock,
   .marikoMaxCpuClock, .thermalThrottle, .thermalThrottleThreshold, .handheldTDP,
   .handheldTDPLimit, .liteTDPLimit, .batteryChargeCurrent, .overwriteRefreshRate,
   .maxDisplayClockH, .dvfsMode, .dvfsOffset, .liveCpuUv, .enableExperimentalSettings,
   .gpuScheduling, .gpuSchedulingMethod, .ramVoltDisplayMode, .cpuGovernorMinimumFreq,
   .displayVoltage, .memoryFrequencyMeasurementMode, .custRev, .hpMode, .commonEmcMemVolt,
   .eristaEmcMaxClock, .eristaEmcMaxClock1, .eristaEmcMaxClock2, .marikoEmcMaxClock,
   .marikoEmcVddqVolt, .emcDvbShift, .t1_tRCD, .t2_tRP, .t3_tRAS, .t4_tRRD, .t5_tRFC,
   .t6_tRTW, .t7_tWTR, .t8_tREFI, .mem_burst_read_latency, .mem_burst_write_latency,
   .eristaCpuUV, .eristaCpuVmin, .eristaCpuMaxVolt, .eristaCpuUnlock, .marikoCpuUVLow,
   .marikoCpuUVHigh, .tableConf, .marikoCpuLowVmin, .marikoCpuHighVmin, .marikoCpuMaxVolt,
   .marikoCpuMaxClock, .eristaCpuBoostClock, .marikoCpuBoostClock, .eristaGpuUV,
   .eristaGpuVmin, .marikoGpuUV, .marikoGpuVmin, .marikoGpuVmax, .commonGpuVoltOffset,
   .gpuSpeedo, .g_volt_76800, .g_volt_153600, .g_volt_230400, .g_volt_307200, .g_volt_384000,
   .g_volt_460800, .g_volt_537600, .g_volt_614400, .g_volt_691200, .g_volt_768000,
   .g_volt_844800, .g_volt_921600, .g_volt_998400, .g_volt_1075200, .g_volt_1152000,
   .g_volt_1228800, .g_volt_1267200, .g_volt_1305600, .g_volt_1344000, .g_volt_1382400,
   .g_volt_1420800, .g_volt_1459200, .g_volt_1497600, .g_volt_1536000, .g_volt_e_76800,
   .g_volt_e_115200, .g_volt_e_153600, .g_volt_e_192000, .g_volt_e_230400, .g_volt_e_268800,
   .g_volt_e_307200, .g_volt_e_345600, .g_volt_e_384000, .g_volt_e_422400, .g_volt_e_460800,
   .g_volt_e_499200, .g_volt_e_537600, .g_volt_e_576000, .g_volt_e_614400, .g_volt_e_652800,
   .g_volt_e_691200, .g_volt_e_729600, .g_volt_e_768000, .g_volt_e_806400, .g_volt_e_844800,
   .g_volt_e_883200, .g_volt_e_921600, .g_volt_e_960000, .g_volt_e_998400, .g_volt_e_1036800,
   .g_volt_e_1075200, .t6_tRTW_fine_tune, .t7_tWTR_fine_tune, .kipCrc32, .isFirstLoad]

theorem ConfigValue.mem_all (kval : ConfigValue) : kval ∈ ConfigValue.all := by
  cases kval <;> decide

def hocclkFormatConfigValue : ConfigValue → String
  | .pollingIntervalMs => "poll_interval_ms"
  | .tempLogIntervalMs => "temp_log_interval_ms"
  | .freqLogIntervalMs => "freq_log_interval_ms"
  | .powerLogIntervalMs => "power_log_interval_ms"
  | .csvWriteIntervalMs => "csv_write_interval_ms"
  | .uncappedClocks => "uncapped_clocks"
  | .overwriteBoostMode => "ow_boost"
  | .eristaMaxCpuClock => "cpu_max_e"
  | .marikoMaxCpuClock => "cpu_max_m"
  | .thermalThrottle => "thermal_throttle"
  | .thermalThrottleThreshold => "thermal_throttle_threshold"
  | .handheldTDP => "handheld_tdp"
  | .handheldTDPLimit => "tdp_limit"
  | .liteTDPLimit => "tdp_limit_l"
  | .batteryChargeCurrent => "bat_charge_current"
  | .overwriteRefreshRate => "drr_changing"
  | .maxDisplayClockH => "drr_max_clock"
  | .dvfsMode => "dvfs_mode"
  | .dvfsOffset => "dvfs_offset"
  | .liveCpuUv => "live_cpu_uv"
  | .enableExperimentalSettings => "enable_experimental_settings"
  | .gpuScheduling => "gpu_scheduling"
  | .gpuSchedulingMethod => "gpu_sched_method"
  | .ramVoltDisplayMode => "ram_volt_usage_display_mode"
  | .cpuGovernorMinimumFreq => "cpu_gov_min_freq"
  | .displayVoltage => "display_voltage"
  | .memoryFrequencyMeasurementMode => "mem_freq_measurement_mode"
  | .custRev => "kip_cust_rev"
  | .hpMode => "kip_hp_mode"
  | .commonEmcMemVolt => "common_emc_mem_volt"
  | .eristaEmcMaxClock => "erista_emc_max_clock"
  | .eristaEmcMaxClock1 => "erista_emc_max_clock1"
  | .eristaEmcMaxClock2 => "erista_emc_max_clock2"
  | .marikoEmcMaxClock => "mariko_emc_max_clock"
  | .marikoEmcVddqVolt => "mariko_emc_vddq_volt"
  | .emcDvbShift => "emc_dvb_shift"
  | .t1_tRCD => "t1_trcd"
  | .t2_tRP => "t2_trp"
  | .t3_tRAS => "t3_tras"
  | .t4_tRRD => "t4_trrd"
  | .t5_tRFC => "t5_trfc"
  | .t6_tRTW => "t6_trtw"
  | .t7_tWTR => "t7_twtr"
  | .t8_tREFI => "t8_trefi"
  | .mem_burst_read_latency => "mem_burst_read_latency"
  | .mem_burst_write_latency => "mem_burst_write_latency"
  | .eristaCpuUV => "erista_cpu_uv"
  | .eristaCpuVmin => "erista_cpu_vmin"
  | .eristaCpuMaxVolt => "erista_cpu_max_volt"
  | .eristaCpuUnlock => "erista_cpu_unlock"
  | .marikoCpuUVLow => "mariko_cpu_uv_low"
  | .marikoCpuUVHigh => "mariko_cpu_uv_high"
  | .tableConf => "kip_table_conf"
  | .marikoCpuLowVmin => "mariko_cpu_low_vmin"
  | .marikoCpuHighVmin => "mariko_cpu_high_vmin"
  | .marikoCpuMaxVolt => "mariko_cpu_max_volt"
  | .marikoCpuMaxClock => "mariko_cpu_max_clock"
  | .eristaCpuBoostClock => "erista_cpu_boost_clock"
  | .marikoCpuBoostClock => "mariko_cpu_boost_clock"
  | .eristaGpuUV => "erista_gpu_uv"
  | .eristaGpuVmin => "erista_gpu_vmin"
  | .marikoGpuUV => "mariko_gpu_uv"
  | .marikoGpuVmin => "mariko_gpu_vmin"
  | .marikoGpuVmax => "mariko_gpu_vmax"
  | .commonGpuVoltOffset => "common_gpu_volt_offset"
  | .gpuSpeedo => "gpu_speedo"
  | .g_volt_76800 => "g_volt_76800"
  | .g_volt_153600 => "g_volt_153600"
  | .g_volt_230400 => "g_volt_230400"
  | .g_volt_307200 => "g_volt_307200"
  | .g_volt_384000 => "g_volt_384000"
  | .g_volt_460800 => "g_volt_460800"
  | .g_volt_537600 => "g_volt_537600"
  | .g_volt_614400 => "g_volt_614400"
  | .g_volt_691200 => "g_volt_691200"
  | .g_volt_768000 => "g_volt_768000"
  | .g_volt_844800 => "g_volt_844800"
  | .g_volt_921600 => "g_volt_921600"
  | .g_volt_998400 => "g_volt_998400"
  | .g_volt_1075200 => "g_volt_1075200"
  | .g_volt_1152000 => "g_volt_1152000"
  | .g_volt_1228800 => "g_volt_1228800"
  | .g_volt_1267200 => "g_volt_1267200"
  | .g_volt_1305600 => "g_volt_1305600"
  | .g_volt_1344000 => "g_volt_1344000"
  | .g_volt_1382400 => "g_volt_1382400"
  | .g_volt_1420800 => "g_volt_1420800"
  | .g_volt_1459200 => "g_volt_1459200"
  | .g_volt_1497600 => "g_volt_1497600"
  | .g_volt_1536000 => "g_volt_1536000"
  | .g_volt_e_76800 => "g_volt_e_76800"
  | .g_volt_e_115200 => "g_volt_e_115200"
  | .g_volt_e_153600 => "g_volt_e_153600"
  | .g_volt_e_192000 => "g_volt_e_192000"
  | .g_volt_e_230400 => "g_volt_e_230400"
  | .g_volt_e_268800 => "g_volt_e_268800"
  | .g_volt_e_307200 => "g_volt_e_307200"
  | .g_volt_e_345600 => "g_volt_e_345600"
  | .g_volt_e_384000 => "g_volt_e_384000"
  | .g_volt_e_422400 => "g_volt_e_422400"
  | .g_volt_e_460800 => "g_volt_e_460800"
  | .g_volt_e_499200 => "g_volt_e_499200"
  | .g_volt_e_537600 => "g_volt_e_537600"
  | .g_volt_e_576000 => "g_volt_e_576000"
  | .g_volt_e_614400 => "g_volt_e_614400"
  | .g_volt_e_652800 => "g_volt_e_652800"
  | .g_volt_e_691200 => "g_volt_e_691200"
  | .g_volt_e_729600 => "g_volt_e_729600"
  | .g_volt_e_768000 => "g_volt_e_768000"
  | .g_volt_e_806400 => "g_volt_e_806400"
  | .g_volt_e_844800 => "g_volt_e_844800"
  | .g_volt_e_883200 => "g_volt_e_883200"
  | .g_volt_e_921600 => "g_volt_e_921600"
  | .g_volt_e_960000 => "g_volt_e_960000"
  | .g_volt_e_998400 => "g_volt_e_998400"
  | .g_volt_e_1036800 => "g_volt_e_1036800"
  | .g_volt_e_1075200 => "g_volt_e_1075200"
  | .t6_tRTW_fine_tune => "t6_tRTW_fine_fune"
  | .t7_tWTR_fine_tune => "t7_tWTR_fine_tune"
  | .kipCrc32 => "crc32"
  | .isFirstLoad => "is_first_load"

/-- No two values share a name. -/
theorem hocclkFormatConfigValue_nodup : (ConfigValue.all.map hocclkFormatConfigValue).Nodup := by
  decide +kernel

theorem hocclkFormatConfigValue_injective {first second : ConfigValue}
    (same : hocclkFormatConfigValue first = hocclkFormatConfigValue second) : first = second :=
  List.inj_on_of_nodup_map hocclkFormatConfigValue_nodup first.mem_all second.mem_all same

/-- The loop over the names in `BrowseIniFunc`. -/
def findConfigValue (key : String) : Option ConfigValue :=
  ConfigValue.all.find? fun kval => key = hocclkFormatConfigValue kval

@[simp] theorem findConfigValue_format (kval : ConfigValue) :
    findConfigValue (hocclkFormatConfigValue kval) = some kval := by
  cases found : findConfigValue (hocclkFormatConfigValue kval) with
  | none =>
      rw [findConfigValue, List.find?_eq_none] at found
      exact absurd (found kval kval.mem_all) (by simp)
  | some other =>
      have same := List.find?_some found
      rw [hocclkFormatConfigValue_injective (of_decide_eq_true same)]

def Profile.all : List Profile :=
  [.handheld, .handheldCharging, .handheldChargingUSB, .handheldChargingOfficial, .docked]

theorem Profile.mem_all (profile : Profile) : profile ∈ Profile.all := by
  cases profile <;> decide

def hocclkFormatProfile : Profile → String
  | .docked => "docked"
  | .handheld => "handheld"
  | .handheldCharging => "handheld_charging"
  | .handheldChargingUSB => "handheld_charging_usb"
  | .handheldChargingOfficial => "handheld_charging_official"

def hocclkFormatModule : Module → String
  | .cpu => "cpu"
  | .gpu => "gpu"
  | .mem => "mem"
  | .display => "display"
  | .governor => "governor"

/-- The key that `SetProfiles` writes a clock with. -/
def clockKey (profile : Profile) (module : Module) : String :=
  hocclkFormatProfile profile ++ "_" ++ hocclkFormatModule module

/-- What is behind a profile's name and the underscore, if the key begins with them. -/
def subkey (profile : Profile) (key : String) : Option (List Char) :=
  let profileCode := (hocclkFormatProfile profile ++ "_").toList
  if profileCode.isPrefixOf key.toList then some (key.toList.drop profileCode.length) else none

/-- The nested loops of `BrowseIniFunc`: all pairs are tried, and the last that matches stays. -/
def parseClockKey (key : String) : Option (Profile × Module) :=
  Profile.all.foldl
    (fun parsed profile =>
      match subkey profile key with
      | none => parsed
      | some rest =>
          Module.all.foldl
            (fun parsed module =>
              if rest = (hocclkFormatModule module).toList then some (profile, module) else parsed)
            parsed)
    none

/-- Although `handheld` begins three other names, no key is taken for another pair's. -/
@[simp] theorem parseClockKey_clockKey (profile : Profile) (module : Module) :
    parseClockKey (clockKey profile module) = some (profile, module) := by
  have pairs : ∀ profile ∈ Profile.all, ∀ module ∈ Module.all,
      parseClockKey (clockKey profile module) = some (profile, module) := by decide +kernel
  exact pairs profile profile.mem_all module module.mem_all

end HorizonOc.Sysmodule
