import HorizonOc.Sysmodule.ConfigStore

namespace HorizonOc.Sysmodule

open HorizonOc.Data

namespace Config

/-- A value of the file changes the values, whatever else the configuration holds. -/
theorem browseText_values {heading key value : String} {first second : Config}
    (same : first.values = second.values) :
    (first.browseText heading key value).values = (second.browseText heading key value).values := by
  unfold browseText
  cases recognise heading key value with
  | none => exact same
  | some item =>
      cases item with
      | value kval input => simp only [browseIniFunc, same]
      | clock titleId profile module mhz =>
          simp only [browseIniFunc]
          split <;> exact same

/-- Only the section of the values changes them. -/
theorem browseText_other {heading : String} (other : heading ≠ configValSection) (config : Config)
    (key value : String) : (config.browseText heading key value).values = config.values := by
  unfold browseText recognise
  rw [if_neg other]
  split
  · rfl
  · rename_i item found
    simp only at found
    split at found
    · contradiction
    · obtain ⟨parsed, -, rfl⟩ := Option.map_eq_some_iff.mp found
      simp only [browseIniFunc]
      split <;> rfl

def isValues (candidate : IniSection) : Bool := candidate.name = configValSection

/-- The values that a file gives are those of its section of values. -/
theorem browse_values (sections : List IniSection) {first second : Config}
    (same : first.values = second.values) :
    (browse browseText first sections).values =
      (browse browseText second (sections.filter isValues)).values := by
  refine browse_filter Config.values isValues ?_ ?_ sections first second same
  · intro candidate dropped config key value
    exact browseText_other (by simpa [isValues] using dropped) config key value
  · intro candidate first second key value same
    exact browseText_values same

theorem acceptedValue_valid (kval : ConfigValue) (value : Nat) :
    hocclkValidConfigValue kval (acceptedValue kval value) = true := by
  unfold acceptedValue
  split
  · assumption
  · exact hocclkDefaultConfigValue_valid kval

/-- What is not written is the default. -/
theorem acceptedValue_of_unwritten {kval : ConfigValue} {value : Nat}
    (unwritten : writesValue kval value = false) :
    acceptedValue kval value = hocclkDefaultConfigValue kval := by
  unfold acceptedValue
  cases valid : hocclkValidConfigValue kval value with
  | true => simpa [writesValue, valid] using unwritten
  | false => simp

/-- The decimal text of a value reads back as the value. -/
theorem browseText_value {value : Nat} (fits : value < 2 ^ 64) (kval : ConfigValue) (config : Config) :
    config.browseText configValSection (hocclkFormatConfigValue kval) value.repr =
      { config with values := Function.update config.values kval (acceptedValue kval value) } := by
  have read : strtoul 0 (Nat.toDigits 10 value) = value := strtoul_decimal fits 0 (.inl rfl)
  simp [browseText, recognise, read, browseIniFunc, acceptedValue]

theorem browse_pairs {values : ConfigValue → Nat} (fits : ∀ kval, values kval < 2 ^ 64)
    (kvals : List ConfigValue) (config : Config) (kval : ConfigValue) :
    (((kvals.map fun kval => (hocclkFormatConfigValue kval, (values kval).repr)).foldl
      (fun config pair => browseText config configValSection pair.1 pair.2) config).values kval) =
        if kval ∈ kvals then acceptedValue kval (values kval) else config.values kval := by
  induction kvals generalizing config with
  | nil => simp
  | cons first rest ih =>
      rw [List.map_cons, List.foldl_cons, ih, browseText_value (fits first)]
      by_cases later : kval ∈ rest
      · simp [later]
      · by_cases same : kval = first
        · subst same
          simp [later]
        · simp [later, same]

/-- The values of a file whose only section of values is the one that was written. -/
theorem browse_valuePairs {values : ConfigValue → Nat} (fits : ∀ kval, values kval < 2 ^ 64)
    {start : Config} (defaults : start.values = hocclkDefaultConfigValue) :
    (browse browseText start (newSection configValSection (valuePairs values))).values =
      fun kval => acceptedValue kval (values kval) := by
  have pairs := browse_pairs fits (ConfigValue.all.filter fun kval => writesValue kval (values kval))
    start
  rw [browse_newSection]
  funext kval
  refine (pairs kval).trans ?_
  simp only [List.mem_filter, ConfigValue.mem_all, true_and, defaults]
  cases writes : writesValue kval (values kval) with
  | true => rfl
  | false => exact (acceptedValue_of_unwritten writes).symm

/-- At most one section is found under the name of the values. -/
def SingleValues (card : Card) : Prop :=
  (card.sections.filter (sameSection configValSection)).length ≤ 1

theorem isValues_same {candidate : IniSection} (values : isValues candidate = true) :
    sameSection configValSection candidate = true := by
  have name : candidate.name = configValSection := of_decide_eq_true values
  simp [sameSection, name]

/-- The section of the values, once it was put. -/
theorem putSection_isValues {sections : List IniSection} (pairs : List (String × String))
    (single : (sections.filter (sameSection configValSection)).length ≤ 1) :
    (putSection configValSection pairs sections).filter isValues =
      newSection configValSection pairs := by
  have narrower (sections : List IniSection) : sections.filter isValues =
      (sections.filter (sameSection configValSection)).filter isValues := by
    rw [List.filter_filter]
    apply List.filter_congr
    intro candidate _
    cases values : isValues candidate with
    | true => simp [isValues_same values]
    | false => simp
  rw [narrower, putSection_same single, List.filter_eq_self]
  intro candidate member
  unfold newSection at member
  split at member
  · contradiction
  · rw [List.mem_singleton.mp member]
    exact decide_eq_true rfl

/-- The values that any load reads from a file they were written to. -/
theorem load_put {card written : Card} {now : Stamp} {values : ConfigValue → Nat}
    (fits : ∀ kval, values kval < 2 ^ 64) (single : SingleValues card)
    (put : card.put now configValSection (valuePairs values) = some written) (config : Config) :
    (config.load written.configFile).values = fun kval => acceptedValue kval (values kval) := by
  rw [load_card, Card.put_sections put]
  refine (browse_values _ rfl).trans ?_
  rw [putSection_isValues _ single, browse_valuePairs fits rfl]

/-- What a successful write leaves is what the next load reads. -/
theorem setConfigValues_load {config stored : Config} {card written : Card} {now : Stamp}
    {values : ConfigValue → Nat} (fits : ∀ kval, values kval < 2 ^ 64) (single : SingleValues card)
    (succeeded : config.setConfigValues card now values true = (true, stored, written)) :
    (stored.load written.configFile).values = stored.values := by
  unfold setConfigValues at succeeded
  cases put : card.put now configValSection (valuePairs values) with
  | none => simp [put] at succeeded
  | some after =>
      simp only [put, if_true, Prod.mk.injEq, true_and] at succeeded
      obtain ⟨rfl, rfl⟩ := succeeded
      exact load_put fits single put _

theorem single_put {card written : Card} {now : Stamp} {pairs : List (String × String)}
    (single : SingleValues card) (put : card.put now configValSection pairs = some written) :
    SingleValues written := by
  unfold SingleValues
  rw [Card.put_sections put, putSection_same single]
  unfold newSection
  split
  · exact Nat.zero_le 1
  · exact Nat.le_refl 1

def ValuesFit (config : Config) : Prop := ∀ kval, config.values kval < 2 ^ 64

theorem acceptedValue_fits {kval : ConfigValue} {value : Nat} (fits : value < 2 ^ 64) :
    acceptedValue kval value < 2 ^ 64 := by
  unfold acceptedValue
  split
  · exact fits
  · exact hocclkDefaultConfigValue_fits kval

theorem browseText_fits {config : Config} (fits : ValuesFit config) (heading key value : String) :
    ValuesFit (config.browseText heading key value) := by
  by_cases same : heading = configValSection
  · unfold browseText recognise
    rw [if_pos same]
    cases found : findConfigValue key with
    | none => exact fits
    | some kval =>
        intro other
        by_cases written : other = kval
        · subst written
          simpa [browseIniFunc, acceptedValue] using acceptedValue_fits (strtoul_lt 0 value.toList)
        · simpa [browseIniFunc, written] using fits other
  · intro kval
    rw [browseText_other same]
    exact fits kval

theorem load_fits (config : Config) (card : Card) : ValuesFit (config.load card.configFile) := by
  have browsed (sections : List IniSection) (start : Config) (fits : ValuesFit start) :
      ValuesFit (browse browseText start sections) := by
    have pairs (name : String) (pairs : List (String × String)) (start : Config)
        (fits : ValuesFit start) :
        ValuesFit (pairs.foldl
          (fun config pair => browseText config name pair.1 pair.2) start) := by
      induction pairs generalizing start with
      | nil => exact fits
      | cons pair rest ih => exact ih _ (browseText_fits fits name pair.1 pair.2)
    unfold browse
    induction sections generalizing start with
    | nil => exact fits
    | cons candidate rest ih => exact ih _ (pairs candidate.name candidate.pairs start fits)
  rw [load_card]
  exact browsed card.sections _ hocclkDefaultConfigValue_fits

def ValuesValid (config : Config) : Prop :=
  ∀ kval, hocclkValidConfigValue kval (config.values kval) = true

theorem initial_valid : ValuesValid initial := hocclkDefaultConfigValue_valid

theorem update_valid {values : ConfigValue → Nat} {kval : ConfigValue} {value : Nat}
    (valid : ∀ other, hocclkValidConfigValue other (values other) = true)
    (accepted : hocclkValidConfigValue kval value = true) (other : ConfigValue) :
    hocclkValidConfigValue other (Function.update values kval value other) = true := by
  by_cases same : other = kval
  · subst same
    simpa using accepted
  · rw [Function.update_of_ne same]
    exact valid other

theorem browseIniFunc_valid {config : Config} (valid : ValuesValid config) (item : IniItem) :
    ValuesValid (config.browseIniFunc item) := by
  cases item with
  | value kval input => exact update_valid valid (acceptedValue_valid kval input)
  | clock titleId profile module mhz =>
      by_cases skipped : titleId = 0 ∨ mhz = 0
      · rw [browseIniFunc, if_pos skipped]
        exact valid
      · rw [browseIniFunc, if_neg skipped]
        exact valid

theorem foldl_browseIniFunc_valid (items : List IniItem) {config : Config}
    (valid : ValuesValid config) : ValuesValid (items.foldl browseIniFunc config) := by
  induction items generalizing config with
  | nil => exact valid
  | cons item rest ih => exact ih (browseIniFunc_valid valid item)

/-- A load starts from the defaults, so it does not matter what was there. -/
theorem load_valid (config : Config) (file : ConfigFile) : ValuesValid (config.load file) := by
  have closed : ValuesValid { config.close with mtime := file.modified } :=
    hocclkDefaultConfigValue_valid
  unfold load
  split
  · exact closed
  · exact foldl_browseIniFunc_valid file.items closed

end Config

/-- What happens to the configuration: the calls, and loads of whatever file is there by then. -/
inductive ConfigStep where
  | initialization
  | load (card : Card)
  | setConfigValues (now : Stamp) (values : ConfigValue → Nat) (immediate : Bool)
  | setConfigValue (now : Stamp) (kval : ConfigValue) (value : Nat) (immediate : Bool)
  | resetConfigValue (now : Stamp) (kval : ConfigValue)

structure ConfigState where
  config : Config
  card : Card

namespace ConfigStep

def apply (state : ConfigState) : ConfigStep → ConfigState
  | .initialization => { state with config := Config.initial }
  | .load card => { config := state.config.load card.configFile, card }
  | .setConfigValues now values immediate =>
      let after := state.config.setConfigValues state.card now values immediate
      { config := after.2.1, card := after.2.2 }
  | .setConfigValue now kval value immediate =>
      let after := state.config.setConfigValue state.card now kval value immediate
      { config := after.2.1, card := after.2.2 }
  | .resetConfigValue now kval =>
      let after := state.config.resetConfigValue state.card now kval
      { config := after.2.1, card := after.2.2 }

def run (state : ConfigState) (steps : List ConfigStep) : ConfigState := steps.foldl apply state

theorem apply_valid {state : ConfigState} (valid : state.config.ValuesValid) (step : ConfigStep) :
    (apply state step).config.ValuesValid := by
  cases step with
  | initialization => exact Config.initial_valid
  | load card => exact Config.load_valid _ _
  | setConfigValues now values immediate =>
      simp only [apply, Config.setConfigValues]
      cases state.card.put now configValSection (Config.valuePairs values) with
      | none => exact valid
      | some written =>
          cases immediate with
          | true => exact fun kval => Config.acceptedValue_valid kval (values kval)
          | false => exact valid
  | setConfigValue now kval value immediate =>
      simp only [apply, Config.setConfigValue]
      cases accepted : hocclkValidConfigValue kval value with
      | false => exact valid
      | true =>
          cases state.card.put now configValSection [(hocclkFormatConfigValue kval, value.repr)] with
          | none => exact valid
          | some written =>
              cases immediate with
              | true => exact Config.update_valid valid accepted
              | false => exact valid
  | resetConfigValue now kval =>
      simp only [apply, Config.resetConfigValue]
      cases state.card.put now configValSection [(hocclkFormatConfigValue kval, "")] with
      | none => exact valid
      | some written => exact Config.update_valid valid (hocclkDefaultConfigValue_valid kval)

theorem run_valid {state : ConfigState} (valid : state.config.ValuesValid)
    (steps : List ConfigStep) : (run state steps).config.ValuesValid := by
  induction steps generalizing state with
  | nil => exact valid
  | cons step rest ih => exact ih (apply_valid valid step)

end ConfigStep

/-- After `SetConfigValues` memory and file agree, and from `Initialize` on every value is valid. -/
theorem configValues_agree :
    (∀ (config stored : Config) (card written : Card) (now : Stamp) (values : ConfigValue → Nat),
      (∀ kval, values kval < 2 ^ 64) → Config.SingleValues card →
        config.setConfigValues card now values true = (true, stored, written) →
          (stored.load written.configFile).values = stored.values) ∧
    ∀ (state : ConfigState) (steps : List ConfigStep) (kval : ConfigValue),
      hocclkValidConfigValue kval
        ((ConfigStep.run state (.initialization :: steps)).config.values kval) = true := by
  constructor
  · intro config stored card written now values fits single succeeded
    exact Config.setConfigValues_load fits single succeeded
  · intro state steps
    exact ConfigStep.run_valid Config.initial_valid steps

/-- A new file with one value that is not a default and one that is not valid. -/
theorem configValues_agree_new_file :
    let values := Function.update (Function.update hocclkDefaultConfigValue .t1_tRCD 5)
      .batteryChargeCurrent 1
    let card : Card := { file := none, writable := true }
    let after := Config.initial.setConfigValues card ⟨7, by decide⟩ values true
    (after.2.1.load after.2.2.configFile).values = after.2.1.values := by
  intro values card after
  have fits : ∀ kval, values kval < 2 ^ 64 := by
    intro kval
    cases kval <;> decide
  exact configValues_agree.1 Config.initial _ card _ ⟨7, by decide⟩ values fits (Nat.zero_le 1) rfl

end HorizonOc.Sysmodule
