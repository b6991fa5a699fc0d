import HorizonOc.Data.IniFile
import HorizonOc.Data.Numerals
import HorizonOc.Sysmodule.Config
import HorizonOc.Sysmodule.ConfigNames

namespace HorizonOc.Sysmodule

open HorizonOc.Data

/-- `st_mtime` of a file that exists, in whole seconds. -/
structure Stamp where
  seconds : Nat
  positive : 0 < seconds
deriving DecidableEq, Repr

structure IniFile where
  modified : Stamp
  sections : List IniSection
deriving DecidableEq, Repr

/-- The card with `config.ini`, which may be absent, and whether files can be written. -/
structure Card where
  file : Option IniFile
  writable : Bool
deriving DecidableEq, Repr

def configValSection : String := "values"

/-- What `BrowseIniFunc` makes of a line; none where it skips it. -/
def recognise (heading key value : String) : Option IniItem :=
  if heading = configValSection then
    (findConfigValue key).map fun kval => .value kval (strtoul 0 value.toList)
  else
    let titleId := strtoul 16 heading.toList
    if titleId = 0 ∨ heading.length ≠ 16 then none
    else
      (parseClockKey key).map fun parsed =>
        .clock titleId parsed.1 parsed.2 (toU32 (strtoul 10 value.toList))

def Card.sections (card : Card) : List IniSection :=
  match card.file with
  | none => []
  | some file => file.sections

def sectionItems (candidate : IniSection) : List IniItem :=
  candidate.pairs.filterMap fun pair => recognise candidate.name pair.1 pair.2

/-- The file as the lines that are recognised. -/
def Card.configFile (card : Card) : ConfigFile :=
  match card.file with
  | none => { modified := 0, items := [] }
  | some file => { modified := file.modified.seconds, items := file.sections.flatMap sectionItems }

/-- The card after a section was put; none where the file cannot be written. -/
def Card.put (card : Card) (now : Stamp) (name : String) (pairs : List (String × String)) :
    Option Card :=
  if card.writable then
    some { card with file := some { modified := now, sections := putSection name pairs card.sections } }
  else none

theorem Card.put_sections {card written : Card} {now : Stamp} {name : String}
    {pairs : List (String × String)} (put : card.put now name pairs = some written) :
    written.sections = putSection name pairs card.sections := by
  unfold Card.put at put
  split at put
  · rw [← Option.some.inj put]
    rfl
  · contradiction

namespace Config

def getProfiles (config : Config) (titleId : Nat) (profile : Profile) (module : Module) : Nat :=
  config.findClockMHz titleId module profile

/-- `"%016lX"`. -/
def titleSection (titleId : Nat) : String := .ofList (paddedDigits 16 16 titleId)

/-- The pairs of a profile list; a zero is not written. -/
def profilePairs (mhz : Profile → Module → Nat) : List (String × String) :=
  Profile.all.flatMap fun profile =>
    (Module.all.filter fun module => mhz profile module ≠ 0).map fun module =>
      (clockKey profile module, (mhz profile module).repr)

def setProfiles (config : Config) (card : Card) (now : Stamp) (titleId : Nat)
    (mhz : Profile → Module → Nat) (immediate : Bool) : Bool × Config × Card :=
  match card.put now (titleSection titleId) (profilePairs mhz) with
  | none => (false, config, card)
  | some written =>
      let stored : Config := { config with
        profileMHz := Function.update config.profileMHz titleId fun profile module =>
          if mhz profile module ≠ 0 then some (mhz profile module) else none }
      (true, if immediate then stored else config, written)

/-- The value that is kept of one that was handed in. -/
def acceptedValue (kval : ConfigValue) (value : Nat) : Nat :=
  if hocclkValidConfigValue kval value then value else hocclkDefaultConfigValue kval

/-- Whether the value goes to the file. -/
def writesValue (kval : ConfigValue) (value : Nat) : Bool :=
  hocclkValidConfigValue kval value && value != hocclkDefaultConfigValue kval

def valuePairs (values : ConfigValue → Nat) : List (String × String) :=
  (ConfigValue.all.filter fun kval => writesValue kval (values kval)).map fun kval =>
    (hocclkFormatConfigValue kval, (values kval).repr)

def setConfigValues (config : Config) (card : Card) (now : Stamp) (values : ConfigValue → Nat)
    (immediate : Bool) : Bool × Config × Card :=
  match card.put now configValSection (valuePairs values) with
  | none => (false, config, card)
  | some written =>
      let stored : Config := { config with values := fun kval => acceptedValue kval (values kval) }
      (true, if immediate then stored else config, written)

/-- The whole section is replaced by the one key. -/
def resetConfigValue (config : Config) (card : Card) (now : Stamp) (kval : ConfigValue) :
    Bool × Config × Card :=
  match card.put now configValSection [(hocclkFormatConfigValue kval, "")] with
  | none => (false, config, card)
  | some written =>
      (true, { config with
        values := Function.update config.values kval (hocclkDefaultConfigValue kval) }, written)

def setConfigValue (config : Config) (card : Card) (now : Stamp) (kval : ConfigValue) (value : Nat)
    (immediate : Bool) : Bool × Config × Card :=
  if !hocclkValidConfigValue kval value then (false, config, card)
  else
    match card.put now configValSection [(hocclkFormatConfigValue kval, value.repr)] with
    | none => (false, config, card)
    | some written =>
        let stored : Config := { config with values := Function.update config.values kval value }
        (true, if immediate then stored else config, written)

/-- `BrowseIniFunc` on a line of the file. -/
def browseText (config : Config) (heading key value : String) : Config :=
  match recognise heading key value with
  | none => config
  | some item => config.browseIniFunc item

theorem foldl_sectionItems (sections : List IniSection) (config : Config) :
    (sections.flatMap sectionItems).foldl browseIniFunc config =
      browse browseText config sections := by
  have one (name : String) (pairs : List (String × String)) (config : Config) :
      (sectionItems { name, pairs }).foldl browseIniFunc config =
        pairs.foldl (fun config pair => browseText config name pair.1 pair.2) config := by
    unfold sectionItems
    induction pairs generalizing config with
    | nil => rfl
    | cons pair rest ih =>
        rw [List.foldl_cons, ← ih, browseText]
        cases found : recognise name pair.1 pair.2 with
        | none => simp [found]
        | some item => simp [found]
  unfold browse
  induction sections generalizing config with
  | nil => rfl
  | cons candidate rest ih =>
      rw [List.flatMap_cons, List.foldl_append, List.foldl_cons, ← one, ih]

/-- What `Load` starts from. -/
def closedAt (config : Config) (card : Card) : Config :=
  { config.close with mtime := card.configFile.modified }

theorem load_card (config : Config) (card : Card) :
    config.load card.configFile =
      { browse browseText (config.closedAt card) card.sections with loaded := true } := by
  cases present : card.file with
  | none => simp [closedAt, Card.configFile, Card.sections, present, load, browse]
  | some file =>
      have stamped : file.modified.seconds ≠ 0 := Nat.pos_iff_ne_zero.mp file.modified.positive
      simp [closedAt, Card.configFile, Card.sections, present, load, stamped, foldl_sectionItems]

end Config

end HorizonOc.Sysmodule
