import HorizonOc.Sysmodule.ProfileRoundTrip

namespace HorizonOc.Sysmodule

open HorizonOc.Data

namespace Config

/-- Of what the file gave before, one value is another. -/
structure OnlyValueChanged (before after : Config) (kval : ConfigValue) (value : Nat) : Prop where
  stored : after.values kval = value
  others : ∀ other ≠ kval, after.values other = before.values other
  profiles : ∀ titleId profile module,
    after.getProfiles titleId profile module = before.getProfiles titleId profile module

/-- No other value is set. -/
def OthersDefault (config : Config) (kval : ConfigValue) : Prop :=
  ∀ other ≠ kval, config.values other = hocclkDefaultConfigValue other

section

variable {card written : Card} {now : Stamp} {kval : ConfigValue} {text : String}

/-- A section of one key gives the defaults to all others. -/
theorem load_put_single (single : SingleValues card)
    (put : card.put now configValSection [(hocclkFormatConfigValue kval, text)] = some written)
    (config : Config) :
    (config.load written.configFile).values =
      Function.update hocclkDefaultConfigValue kval
        (acceptedValue kval (strtoul 0 text.toList)) := by
  rw [load_values, Card.put_sections put, putSection_isValues _ single, browse_newSection]
  simp [browseText, recognise, browseIniFunc, acceptedValue, initial]

/-- However it is spelled, a section of the values is of no title. -/
theorem belongsTo_values {titleId : Nat} {candidate : IniSection}
    (same : sameSection configValSection candidate = true) : belongsTo titleId candidate = false := by
  have upper := congrArg List.length (of_decide_eq_true same)
  rw [List.length_map, List.length_map, String.length_toList] at upper
  have length : candidate.name.length ≠ 16 := by
    rw [upper]
    decide
  simp [belongsTo, sectionTitle, length]

theorem load_put_profiles {pairs : List (String × String)}
    (put : card.put now configValSection pairs = some written) (config others : Config)
    (titleId : Nat) (profile : Profile) (module : Module) :
    (others.load written.configFile).getProfiles titleId profile module =
      (config.load card.configFile).getProfiles titleId profile module := by
  rw [getProfiles_loaded rfl, getProfiles_loaded rfl, load_profiles, load_profiles,
    Card.put_sections put, putSection_others (belongsTo titleId) fun _ => belongsTo_values]

/-- What a section of one key leaves of the values. -/
theorem onlyValueChanged_iff {config others : Config} {value : Nat} (single : SingleValues card)
    (put : card.put now configValSection [(hocclkFormatConfigValue kval, text)] = some written) :
    OnlyValueChanged (config.load card.configFile) (others.load written.configFile) kval value ↔
      acceptedValue kval (strtoul 0 text.toList) = value ∧
        (config.load card.configFile).OthersDefault kval := by
  have values := load_put_single single put others
  constructor
  · rintro ⟨stored, kept, -⟩
    rw [values] at stored kept
    rw [Function.update_self] at stored
    refine ⟨stored, fun other apart => ?_⟩
    rw [← kept other apart, Function.update_of_ne apart]
  · rintro ⟨stored, defaults⟩
    refine ⟨?_, fun other apart => ?_, load_put_profiles put config others⟩
    · rw [values, Function.update_self, stored]
    · rw [values, Function.update_of_ne apart, defaults other apart]

end

end Config

/-- Setting one option sets all others to their defaults, so that it changes only one exactly where
these had their defaults.  Resetting one writes no number, which is read as 0. -/
theorem one_option_changes_iff {config : Config} {card : Card} (single : Config.SingleValues card)
    (now : Stamp) (kval : ConfigValue) :
    let before := config.load card.configFile
    (∀ value < 2 ^ 64, ∀ immediate stored written,
      before.setConfigValue card now kval value immediate = (true, stored, written) →
        (Config.OnlyValueChanged before (stored.load written.configFile) kval value ↔
          before.OthersDefault kval)) ∧
    ∀ stored written, before.resetConfigValue card now kval = (true, stored, written) →
      (Config.OnlyValueChanged before (stored.load written.configFile) kval
          (hocclkDefaultConfigValue kval) ↔
        Config.acceptedValue kval 0 = hocclkDefaultConfigValue kval ∧ before.OthersDefault kval) := by
  intro before
  constructor
  · intro value fits immediate stored written succeeded
    unfold Config.setConfigValue at succeeded
    cases accepted : hocclkValidConfigValue kval value with
    | false => simp [accepted] at succeeded
    | true =>
        cases put : card.put now configValSection [(hocclkFormatConfigValue kval, value.repr)] with
        | none => simp [accepted, put] at succeeded
        | some after =>
            simp only [accepted, put, Bool.not_true, Bool.false_eq_true, if_false, Prod.mk.injEq,
              true_and] at succeeded
            obtain ⟨-, rfl⟩ := succeeded
            have read : strtoul 0 value.repr.toList = value := by
              simpa using strtoul_decimal fits 0 (.inl rfl)
            rw [Config.onlyValueChanged_iff single put, read, Config.acceptedValue, if_pos accepted]
            exact and_iff_right rfl
  · intro stored written succeeded
    unfold Config.resetConfigValue at succeeded
    cases put : card.put now configValSection [(hocclkFormatConfigValue kval, "")] with
    | none => simp [put] at succeeded
    | some after =>
        simp only [put, Prod.mk.injEq, true_and] at succeeded
        obtain ⟨-, rfl⟩ := succeeded
        exact Config.onlyValueChanged_iff single put

/-- A new file with one option set. -/
theorem one_option_changes_new_file :
    let card : Card := { file := none, writable := true }
    let before := Config.initial.load card.configFile
    let after := before.setConfigValue card ⟨7, by decide⟩ .t1_tRCD 5 true
    Config.OnlyValueChanged before (after.2.1.load after.2.2.configFile) .t1_tRCD 5 := by
  intro card before after
  have single : Config.SingleValues card := Nat.zero_le 1
  have sets := (@one_option_changes_iff Config.initial card single ⟨7, by decide⟩ .t1_tRCD).1 5
    (by decide) true after.2.1 after.2.2 rfl
  exact sets.mpr fun other _ => rfl

/-- Of two timings in a file, setting the first loses the second. -/
theorem second_option_lost :
    let values := Function.update (Function.update hocclkDefaultConfigValue .t1_tRCD 5) .t2_tRP 4
    let first := Config.initial.setConfigValues { file := none, writable := true } ⟨7, by decide⟩
      values true
    let before := first.2.1.load first.2.2.configFile
    let after := before.setConfigValue first.2.2 ⟨8, by decide⟩ .t1_tRCD 6 true
    first.1 = true ∧ after.1 = true ∧
      ¬ Config.OnlyValueChanged before (after.2.1.load after.2.2.configFile) .t1_tRCD 6 := by
  intro values first before after
  refine ⟨rfl, rfl, fun changed => ?_⟩
  have kept := changed.others .t2_tRP (by decide)
  have set : before.values .t2_tRP = 4 := by decide +kernel
  have lost : (after.2.1.load after.2.2.configFile).values .t2_tRP = 0 := by decide +kernel
  rw [set, lost] at kept
  contradiction

end HorizonOc.Sysmodule
