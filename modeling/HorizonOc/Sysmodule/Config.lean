import Mathlib.Logic.Function.Basic
import HorizonOc.Sysmodule.Types

namespace HorizonOc.Sysmodule

/-! `config.cpp`: the values and profiles in memory, and how they are read from
the INI file. -/

/-- One line of the INI file whose section and key were recognised. -/
inductive IniItem where
  | value (key : ConfigValue) (input : Nat)
  | clock (titleId : Nat) (profile : Profile) (module : Module) (mhz : Nat)
deriving DecidableEq, Repr

/-- The file on the card; `modified` is 0 when it cannot be found. -/
structure ConfigFile where
  modified : Nat
  items : List IniItem
deriving DecidableEq, Repr

structure Config where
  values : ConfigValue → Nat
  loaded : Bool
  mtime : Nat
  profileMHz : Nat → Profile → Module → Option Nat
  overrideFreqs : Module → Nat

namespace Config

/-- What `Initialize` leaves. -/
def initial : Config :=
  { values := hocclkDefaultConfigValue
    loaded := false
    mtime := 0
    profileMHz := fun _ _ _ => none
    overrideFreqs := fun _ => 0 }

def getConfigValue (config : Config) (value : ConfigValue) : Nat := config.values value

def getOverrideHz (config : Config) (module : Module) : Nat := config.overrideFreqs module

def browseIniFunc (config : Config) : IniItem → Config
  | .value key input =>
      { config with
        values := Function.update config.values key
          (if hocclkValidConfigValue key input then input else hocclkDefaultConfigValue key) }
  | .clock titleId profile module mhz =>
      if titleId = 0 ∨ mhz = 0 then config
      else
        { config with
          profileMHz := Function.update config.profileMHz titleId
            (Function.update (config.profileMHz titleId) profile
              (Function.update (config.profileMHz titleId profile) module (some mhz))) }

def close (config : Config) : Config :=
  { config with
    loaded := false
    profileMHz := fun _ _ _ => none
    values := hocclkDefaultConfigValue }

def load (config : Config) (file : ConfigFile) : Config :=
  let closed := { config.close with mtime := file.modified }
  let browsed := if file.modified = 0 then closed else file.items.foldl browseIniFunc closed
  { browsed with loaded := true }

@[simp] theorem load_loaded (config : Config) (file : ConfigFile) :
    (config.load file).loaded = true := rfl

/-- `Refresh`, with what it answers. -/
def refresh (config : Config) (file : ConfigFile) : Bool × Config :=
  if !config.loaded || config.mtime ≠ file.modified then (true, config.load file)
  else (false, config)

theorem refresh_cases (config : Config) (file : ConfigFile) :
    config.refresh file = (true, config.load file) ∨ config.refresh file = (false, config) := by
  unfold refresh
  split
  · exact .inl rfl
  · exact .inr rfl

def findClockMHz (config : Config) (titleId : Nat) (module : Module) (profile : Profile) : Nat :=
  if config.loaded then (config.profileMHz titleId profile module).getD 0 else 0

/-- The first profile of the list with a clock decides. -/
def findMHzFromProfiles (config : Config) (titleId : Nat) (module : Module) : List Profile → Nat
  | [] => 0
  | profile :: rest =>
      let mhz := config.findClockMHz titleId module profile
      if mhz ≠ 0 then mhz else config.findMHzFromProfiles titleId module rest

def findClockHzFromProfiles (config : Config) (titleId : Nat) (module : Module)
    (profiles : List Profile) (mhzMultiplier : Nat) : Nat :=
  toU32 (config.findMHzFromProfiles titleId module profiles * mhzMultiplier)

def fallbackProfiles : Profile → List Profile
  | .handheld => [.handheld]
  | .handheldCharging | .handheldChargingUSB =>
      [.handheldChargingUSB, .handheldCharging, .handheld]
  | .handheldChargingOfficial => [.handheldChargingOfficial, .handheldCharging, .handheld]
  | .docked => [.docked]

def getAutoClockHz (config : Config) (titleId : Nat) (module : Module) (profile : Profile)
    (returnRaw : Bool) : Nat :=
  config.findClockHzFromProfiles titleId module (fallbackProfiles profile)
    (if returnRaw then 1 else 1000000)

end Config

end HorizonOc.Sysmodule
