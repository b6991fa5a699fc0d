import HorizonOc.Data.Audited
import HorizonOc.Data.BitTable
import HorizonOc.Data.BoundedLines
import HorizonOc.Data.CleanFailure
import HorizonOc.Data.CrcRemainder
import HorizonOc.Data.FixedQuotient
import HorizonOc.Data.HandleLog
import HorizonOc.Data.IniFile
import HorizonOc.Data.Journal
import HorizonOc.Data.LittleEndian
import HorizonOc.Data.MoveWide
import HorizonOc.Data.Multiples
import HorizonOc.Data.Numerals
import HorizonOc.Data.Packing
import HorizonOc.Data.Program
import HorizonOc.Data.Quantizer
import HorizonOc.Data.Returns
import HorizonOc.Data.Runs
import HorizonOc.Data.Staircase
import HorizonOc.Data.Tracked
import HorizonOc.Data.WordRam
import HorizonOc.Data.Workers
import HorizonOc.Sysmodule.Board
import HorizonOc.Sysmodule.BuckConverter
import HorizonOc.Sysmodule.CalmTick
import HorizonOc.Sysmodule.ChargeCurrent
import HorizonOc.Sysmodule.Checksum
import HorizonOc.Sysmodule.ClockManager
import HorizonOc.Sysmodule.ClockPlan
import HorizonOc.Sysmodule.ClockSteps
import HorizonOc.Sysmodule.Clocks
import HorizonOc.Sysmodule.Config
import HorizonOc.Sysmodule.ConfigAgreement
import HorizonOc.Sysmodule.ConfigNames
import HorizonOc.Sysmodule.ConfigStore
import HorizonOc.Sysmodule.ConfigText
import HorizonOc.Sysmodule.ConfigUpdates
import HorizonOc.Sysmodule.ControlLoop
import HorizonOc.Sysmodule.Display
import HorizonOc.Sysmodule.DockedTimings
import HorizonOc.Sysmodule.FocusCache
import HorizonOc.Sysmodule.Frames
import HorizonOc.Sysmodule.Governor
import HorizonOc.Sysmodule.GovernorCap
import HorizonOc.Sysmodule.GovernorHold
import HorizonOc.Sysmodule.GovernorThreads
import HorizonOc.Sysmodule.GovernorWords
import HorizonOc.Sysmodule.GpuBracket
import HorizonOc.Sysmodule.GpuRate
import HorizonOc.Sysmodule.GpuVoltTable
import HorizonOc.Sysmodule.GpuVoltage
import HorizonOc.Sysmodule.HandheldTimings
import HorizonOc.Sysmodule.Ipc
import HorizonOc.Sysmodule.IpcCalls
import HorizonOc.Sysmodule.IpcClient
import HorizonOc.Sysmodule.IpcSafety
import HorizonOc.Sysmodule.IpcServer
import HorizonOc.Sysmodule.Kip
import HorizonOc.Sysmodule.KipAccessors
import HorizonOc.Sysmodule.KipChecksum
import HorizonOc.Sysmodule.KipFieldsKept
import HorizonOc.Sysmodule.KipRoundTrip
import HorizonOc.Sysmodule.KipRuns
import HorizonOc.Sysmodule.KipSteps
import HorizonOc.Sysmodule.KipTables
import HorizonOc.Sysmodule.KipWriteFailure
import HorizonOc.Sysmodule.MemoryVoltage
import HorizonOc.Sysmodule.MinIni
import HorizonOc.Sysmodule.MinIniCopy
import HorizonOc.Sysmodule.MinIniEntries
import HorizonOc.Sysmodule.MinIniRefines
import HorizonOc.Sysmodule.MinIniReplace
import HorizonOc.Sysmodule.MinIniSections
import HorizonOc.Sysmodule.NearestRate
import HorizonOc.Sysmodule.PlldReadback
import HorizonOc.Sysmodule.ProfileCounts
import HorizonOc.Sysmodule.ProfileHz
import HorizonOc.Sysmodule.ProfileRoundTrip
import HorizonOc.Sysmodule.Refresh
import HorizonOc.Sysmodule.SafetyThrottle
import HorizonOc.Sysmodule.SectionTitles
import HorizonOc.Sysmodule.Settling
import HorizonOc.Sysmodule.SingleOption
import HorizonOc.Sysmodule.Soctherm
import HorizonOc.Sysmodule.SocthermCalibration
import HorizonOc.Sysmodule.State
import HorizonOc.Sysmodule.Types
import HorizonOc.Sysmodule.VoltageHijack
import HorizonOc.Sysmodule.VrrLimit
import HorizonOc.Loader.AutoVoltages
import HorizonOc.Loader.CheckedVoltages
import HorizonOc.Loader.CpuRail
import HorizonOc.Loader.Customize
import HorizonOc.Loader.DvbEntry
import HorizonOc.Loader.EmcClocks
import HorizonOc.Loader.Erista
import HorizonOc.Loader.FailedPatchers
import HorizonOc.Loader.GpuLimit
import HorizonOc.Loader.GpuTableVoltages
import HorizonOc.Loader.InstalledTables
import HorizonOc.Loader.Mariko
import HorizonOc.Loader.MemTimings
import HorizonOc.Loader.MemoryRegulators
import HorizonOc.Loader.MtcFields
import HorizonOc.Loader.MtcShift
import HorizonOc.Loader.MtcTables
import HorizonOc.Loader.PatchReach
import HorizonOc.Loader.Patcher
import HorizonOc.Loader.Pcv
import HorizonOc.Loader.Ptm
import HorizonOc.Loader.PtmEntries
import HorizonOc.Loader.Reach
import HorizonOc.Loader.SafetyCheck
import HorizonOc.Loader.ScanAccesses
import HorizonOc.Loader.TableEntries
import HorizonOc.Loader.TableScan
import HorizonOc.Loader.Tables
import HorizonOc.Agreement.DfllTunings
import HorizonOc.Agreement.LiveUndervolt
import HorizonOc.Agreement.SafeConfig
import HorizonOc.Agreement.UndervoltLevels
import HorizonOc.Secmon.AccessTables
import HorizonOc.Secmon.Handlers
import HorizonOc.Secmon.MemoryLayout
import HorizonOc.Secmon.RegisterAccess
import HorizonOc.MemTester.FalseAlarms
import HorizonOc.MemTester.FaultDetection
import HorizonOc.MemTester.Handshake
import HorizonOc.MemTester.HandshakeProgress
import HorizonOc.MemTester.StuckAddress
import HorizonOc.MemTester.Tests
