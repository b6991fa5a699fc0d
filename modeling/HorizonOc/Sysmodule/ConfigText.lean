import HorizonOc.Sysmodule.ConfigAgreement
import HorizonOc.Sysmodule.MinIniRefines

namespace HorizonOc.Sysmodule

open HorizonOc.Data MinIni

/-! `config.cpp` over the bytes of `config.ini`, through `minIni.c`. -/

/-- The card with the text of `config.ini`. -/
structure TextCard where
  file : Option (Stamp × List Char)
  writable : Bool

namespace TextCard

def text (card : TextCard) : List Char := fileText (card.file.map Prod.snd)

/-- How many rounds the loops of minIni may take. -/
def rounds (card : TextCard) : Nat := card.text.length + bufferSize

/-- `ini_putsection` on the file; none where it does not return. -/
def put (card : TextCard) (now : Stamp) (name : String) (pairs : List (String × String)) :
    Option (Bool × TextCard) :=
  (iniPutsection card.rounds name.toList (pairs.map fun pair => (pair.1.toList, pair.2.toList))
    card.writable (card.file.map Prod.snd)).map fun (written, text) =>
      (written, if written then { card with file := text.map fun text => (now, text) } else card)

/-- The same card with what minIni reads of the text. -/
def toCard (card : TextCard) : Card where
  file := card.file.map fun (modified, text) => { modified, sections := readSections text }
  writable := card.writable

end TextCard

namespace Config

/-- What `Load` does; none where minIni does not return. -/
def loadText (config : Config) (card : TextCard) : Option Config :=
  match card.file with
  | none => some { config.close with mtime := 0, loaded := true }
  | some (modified, text) =>
      (iniBrowse card.rounds (goingOn browseText)
        { config.close with mtime := modified.seconds } (some text)).map fun (_, browsed) =>
          { browsed with loaded := true }

def setProfilesText (config : Config) (card : TextCard) (now : Stamp) (titleId : Nat)
    (mhz : Profile → Module → Nat) (immediate : Bool) : Option (Bool × Config × TextCard) := do
  let (written, card) ← card.put now (titleSection titleId) (profilePairs mhz)
  if !written then some (false, config, card)
  else
    let stored : Config := { config with
      profileMHz := Function.update config.profileMHz titleId fun profile module =>
        if mhz profile module ≠ 0 then some (mhz profile module) else none }
    some (true, if immediate then stored else config, card)

def setConfigValuesText (config : Config) (card : TextCard) (now : Stamp) (values : ConfigValue → Nat)
    (immediate : Bool) : Option (Bool × Config × TextCard) := do
  let (written, card) ← card.put now configValSection (valuePairs values)
  if !written then some (false, config, card)
  else
    let stored : Config := { config with values := fun kval => acceptedValue kval (values kval) }
    some (true, if immediate then stored else config, card)

def resetConfigValueText (config : Config) (card : TextCard) (now : Stamp) (kval : ConfigValue) :
    Option (Bool × Config × TextCard) := do
  let (written, card) ← card.put now configValSection [(hocclkFormatConfigValue kval, "")]
  if !written then some (false, config, card)
  else
    some (true, { config with
      values := Function.update config.values kval (hocclkDefaultConfigValue kval) }, card)

def setConfigValueText (config : Config) (card : TextCard) (now : Stamp) (kval : ConfigValue)
    (value : Nat) (immediate : Bool) : Option (Bool × Config × TextCard) :=
  if !hocclkValidConfigValue kval value then some (false, config, card)
  else do
    let (written, card) ← card.put now configValSection [(hocclkFormatConfigValue kval, value.repr)]
    if !written then some (false, config, card)
    else
      let stored : Config := { config with values := Function.update config.values kval value }
      some (true, if immediate then stored else config, card)

end Config

/-- A call that changes the configuration, or someone else who changes the card. -/
inductive StoreStep where
  | load
  | setProfiles (now : Stamp) (titleId : Nat) (mhz : Profile → Module → Nat) (immediate : Bool)
  | setConfigValues (now : Stamp) (values : ConfigValue → Nat) (immediate : Bool)
  | setConfigValue (now : Stamp) (kval : ConfigValue) (value : Nat) (immediate : Bool)
  | resetConfigValue (now : Stamp) (kval : ConfigValue)
  | replace (card : TextCard)

structure TextState where
  config : Config
  card : TextCard

namespace StoreStep

/-- The step over the text of the file; none where it does not return. -/
def applyText (state : TextState) : StoreStep → Option TextState
  | load => (state.config.loadText state.card).map fun config => { state with config }
  | setProfiles now titleId mhz immediate =>
      (state.config.setProfilesText state.card now titleId mhz immediate).map
        fun (_, config, card) => { config, card }
  | setConfigValues now values immediate =>
      (state.config.setConfigValuesText state.card now values immediate).map
        fun (_, config, card) => { config, card }
  | setConfigValue now kval value immediate =>
      (state.config.setConfigValueText state.card now kval value immediate).map
        fun (_, config, card) => { config, card }
  | resetConfigValue now kval =>
      (state.config.resetConfigValueText state.card now kval).map
        fun (_, config, card) => { config, card }
  | replace card => some { state with card }

/-- The step over the sections of the file. -/
def applySections (state : ConfigState) : StoreStep → ConfigState
  | load => { state with config := state.config.load state.card.configFile }
  | setProfiles now titleId mhz immediate =>
      let after := state.config.setProfiles state.card now titleId mhz immediate
      { config := after.2.1, card := after.2.2 }
  | setConfigValues now values immediate =>
      let after := state.config.setConfigValues state.card now values immediate
      { config := after.2.1, card := after.2.2 }
  | setConfigValue now kval value immediate =>
      let after := state.config.setConfigValue state.card now kval value immediate
      { config := after.2.1, card := after.2.2 }
  | resetConfigValue now kval =>
      let after := state.config.resetConfigValue state.card now kval
      { config := after.2.1, card := after.2.2 }
  | replace card => { state with card := card.toCard }

/-- The numbers of a call are machine words, and a file that someone else wrote fits. -/
def Fits : StoreStep → Prop
  | load => True
  | setProfiles _ _ mhz _ => ∀ profile module, mhz profile module < 2 ^ 32
  | setConfigValues _ values _ => ∀ kval, values kval < 2 ^ 64
  | setConfigValue _ _ value _ => value < 2 ^ 64
  | resetConfigValue _ _ => True
  | replace card => FitText card.text

end StoreStep

section

/-- The characters of keys and numbers. -/
def isWord (char : Char) : Bool := char.isAlphanum || char = '_'

variable {text key value name : List Char} {char : Char} {pairs : List (String × String)}

theorem isWord_apart {other : Char} (word : isWord char = true) (apart : isWord other = false) :
    char ≠ other := by
  rintro rfl
  rw [word] at apart
  contradiction

theorem isWord_visible (word : isWord char = true) : isBlank char = false := by
  have blanks : ∀ code < 33, isWord (Char.ofNat code) = false := by decide
  have above : ¬char.toNat ≤ 32 := by
    intro low
    have apart := blanks char.toNat (Nat.lt_succ_of_le low)
    rw [Char.ofNat_toNat, word] at apart
    contradiction
  simp [isBlank, above]

theorem isWord_shown (word : isWord char = true) : startsComment char = false := by
  have semicolon : char ≠ ';' := isWord_apart word (by decide)
  have hash : char ≠ '#' := isWord_apart word (by decide)
  simp [startsComment, semicolon, hash]

/-- Text of such characters can be a key, and a value that is read as it is. -/
theorem isKey_of_words (words : ∀ char ∈ text, isWord char = true) : IsKey text where
  plain := fun member => isWord_apart (words _ member) (by decide) rfl
  oneLine := fun member => isWord_apart (words _ member) (by decide) rfl
  unequal := fun member => isWord_apart (words _ member) (by decide) rfl
  starts := fun first found => by
    have word := words first (List.mem_of_mem_head? found)
    exact ⟨isWord_visible word, isWord_shown word, isWord_apart word (by decide)⟩
  ends := fun last found => isWord_visible (words last (List.mem_of_getLast? found))

theorem escaped_words (words : ∀ char ∈ text, isWord char = true) : escaped text = text := by
  induction text with
  | nil => rfl
  | cons char rest ih =>
      obtain ⟨word, others⟩ := List.forall_mem_cons.mp words
      rw [escaped_other (isWord_apart word (by decide)), ih others]

theorem readValue_words (words : ∀ char ∈ text, isWord char = true) : readValue text = text := by
  rw [readValue]
  split
  · rfl
  · rw [trimmed, skipleading_starts, striptrailing_ends]
    · exact fun last found => isWord_visible (words last (List.mem_of_getLast? found))
    · exact fun first found => isWord_visible (words first (List.mem_of_mem_head? found))

/-- Pairs whose keys and values are short words. -/
def WordPairs (pairs : List (String × String)) : Prop :=
  ∀ pair ∈ pairs, (∀ char ∈ pair.1.toList, isWord char = true) ∧
    (∀ char ∈ pair.2.toList, isWord char = true) ∧ pair.1.length + pair.2.length + 3 ≤ lineLimit

def textPairs (pairs : List (String × String)) : List (List Char × List Char) :=
  pairs.map fun pair => (pair.1.toList, pair.2.toList)

theorem fitSection_words (named : name ≠ []) (short : name.length + 2 ≤ lineLimit)
    (title : ∀ char ∈ name, isWord char = true) (words : WordPairs pairs) :
    FitSection name (textPairs pairs) where
  named := named
  plain := (isKey_of_words title).plain
  oneLine := (isKey_of_words title).oneLine
  short := short
  entries := by
    intro entry member
    obtain ⟨pair, paired, rfl⟩ := List.mem_map.mp member
    obtain ⟨key, value, fits⟩ := words pair paired
    refine ⟨isKey_of_words key, (isKey_of_words value).plain, (isKey_of_words value).oneLine, ?_⟩
    rw [escaped_words value, String.length_toList, String.length_toList]
    exact fits

theorem readPairs_words (words : WordPairs pairs) : readPairs (textPairs pairs) = pairs := by
  rw [readPairs, textPairs, List.map_map]
  refine (List.map_congr_left fun pair paired => ?_).trans (List.map_id pairs)
  obtain ⟨-, value, -⟩ := words pair paired
  simp [readValue_words value]

theorem digits_words (number : Nat) : ∀ char ∈ number.repr.toList, isWord char = true := by
  intro char member
  rw [Nat.toList_repr] at member
  have digit := Nat.isDigit_of_mem_toDigits (by decide) (by decide) member
  simp [isWord, Char.isAlphanum, digit]

theorem digits_length {number : Nat} (fits : number < 2 ^ 64) : number.repr.length ≤ 20 := by
  rw [← String.length_toList, Nat.toList_repr, Nat.length_toDigits_le_iff (by decide) (by decide)]
  omega

theorem title_words (width titleId : Nat) :
    ∀ char ∈ paddedDigits 16 width titleId, isWord char = true := by
  have digits : ∀ digit < 16, isWord digit.digitChar.toUpper = true := by decide
  induction width generalizing titleId with
  | zero => exact nofun
  | succ width ih =>
      intro char member
      rcases List.mem_append.mp member with before | last
      · exact ih (titleId / 16) char before
      · rw [List.mem_singleton.mp last]
        exact digits _ (Nat.mod_lt _ (by decide))

theorem key_words (kval : ConfigValue) :
    (∀ char ∈ (hocclkFormatConfigValue kval).toList, isWord char = true) ∧
      (hocclkFormatConfigValue kval).length ≤ 40 := by
  have all : ∀ kval ∈ ConfigValue.all, (hocclkFormatConfigValue kval).toList.all isWord = true ∧
      (hocclkFormatConfigValue kval).length ≤ 40 := by decide +kernel
  exact (all kval kval.mem_all).imp_left List.all_eq_true.mp

theorem clockKey_words (profile : Profile) (module : Module) :
    (∀ char ∈ (clockKey profile module).toList, isWord char = true) ∧
      (clockKey profile module).length ≤ 40 := by
  have all : ∀ profile ∈ Profile.all, ∀ module ∈ Module.all,
      (clockKey profile module).toList.all isWord = true ∧
        (clockKey profile module).length ≤ 40 := by decide +kernel
  exact (all profile profile.mem_all module module.mem_all).imp_left List.all_eq_true.mp

/-- A number that is a machine word, under a key of the configuration. -/
theorem wordPair {key : String} {number : Nat}
    (word : (∀ char ∈ key.toList, isWord char = true) ∧ key.length ≤ 40) (fits : number < 2 ^ 64) :
    (∀ char ∈ key.toList, isWord char = true) ∧
      (∀ char ∈ number.repr.toList, isWord char = true) ∧
        key.length + number.repr.length + 3 ≤ lineLimit := by
  have short := digits_length fits
  refine ⟨word.1, digits_words number, ?_⟩
  have long := word.2
  rw [lineLimit]
  omega

theorem valuePairs_words {values : ConfigValue → Nat} (fits : ∀ kval, values kval < 2 ^ 64) :
    WordPairs (Config.valuePairs values) := by
  intro pair member
  obtain ⟨kval, -, rfl⟩ := List.mem_map.mp member
  exact wordPair (key_words kval) (fits kval)

theorem profilePairs_words {mhz : Profile → Module → Nat}
    (fits : ∀ profile module, mhz profile module < 2 ^ 32) : WordPairs (Config.profilePairs mhz) := by
  intro pair member
  obtain ⟨profile, -, inside⟩ := List.mem_flatMap.mp member
  obtain ⟨module, -, rfl⟩ := List.mem_map.mp inside
  exact wordPair (clockKey_words profile module)
    (Nat.lt_of_lt_of_le (fits profile module) (by decide))

theorem singlePair_words (kval : ConfigValue) {value : String}
    (words : ∀ char ∈ value.toList, isWord char = true) (short : value.length ≤ 20) :
    WordPairs [(hocclkFormatConfigValue kval, value)] := by
  intro pair member
  rw [List.mem_singleton.mp member]
  obtain ⟨word, long⟩ := key_words kval
  refine ⟨word, words, ?_⟩
  change (hocclkFormatConfigValue kval).length + value.length + 3 ≤ lineLimit
  rw [lineLimit]
  omega

variable {card : TextCard} {title : String}

theorem put_refines (fit : FitText card.text) (now : Stamp) (named : title.toList ≠ [])
    (short : title.length + 2 ≤ lineLimit) (words : ∀ char ∈ title.toList, isWord char = true)
    (entries : WordPairs pairs) :
    (card.put now title pairs = some (false, card) ∧ card.toCard.put now title pairs = none) ∨
    ∃ written, card.put now title pairs = some (true, written) ∧ FitText written.text ∧
      card.toCard.put now title pairs = some written.toCard := by
  by_cases writable : card.writable = true
  · refine .inr ?_
    have enough : card.text.length + bufferSize ≤ card.rounds := Nat.le_refl _
    obtain ⟨text, put, fits, read⟩ := iniPutsection_refines fit
      (fitSection_words named short words entries) enough
    rw [readPairs_words entries, String.ofList_toList] at read
    refine ⟨{ card with file := some (now, text) }, ?_, fits, ?_⟩
    · rw [TextCard.put, writable]
      change (iniPutsection card.rounds title.toList (textPairs pairs) true _).map _ = _
      rw [put]
      rfl
    · have sections : card.toCard.sections = readSections card.text := by
        rw [Card.sections, TextCard.toCard, TextCard.text, fileText]
        cases card.file with
        | none => exact readSections_nil.symm
        | some file => rfl
      have open_ : card.toCard.writable = true := writable
      change readSections text = putSection title pairs (readSections card.text) at read
      rw [Card.put, if_pos open_, sections, ← read]
      rfl
  · refine .inl ⟨?_, if_neg writable⟩
    rw [TextCard.put, Bool.not_eq_true] at *
    rw [writable]
    rfl

theorem loadText_refines (fit : FitText card.text) (config : Config) :
    config.loadText card = some (config.load card.toCard.configFile) := by
  rw [Config.load_card, Config.closedAt]
  cases card with
  | mk file writable =>
      cases file with
      | none => rfl
      | some file =>
          obtain ⟨modified, text⟩ := file
          have enough : text.length < TextCard.rounds ⟨some (modified, text), writable⟩ := by
            change text.length < text.length + bufferSize
            rw [bufferSize]
            omega
          exact congrArg (Option.map _)
            (iniBrowse_reads fit enough { config.close with mtime := modified.seconds })

/-- A call over the text returns, does what the call over the sections does, and leaves a file that
fits. -/
def Refines (called : Option (Bool × Config × TextCard)) (expected : Bool × Config × Card) : Prop :=
  ∃ result config card, called = some (result, config, card) ∧ FitText card.text ∧
    expected = (result, config, card.toCard)

theorem values_named : configValSection.toList ≠ [] ∧ configValSection.length + 2 ≤ lineLimit ∧
    ∀ char ∈ configValSection.toList, isWord char = true := by
  have words : configValSection.toList.all isWord = true := by decide
  exact ⟨by decide, by decide, List.all_eq_true.mp words⟩

theorem title_named (titleId : Nat) : (Config.titleSection titleId).toList ≠ [] ∧
    (Config.titleSection titleId).length + 2 ≤ lineLimit ∧
      ∀ char ∈ (Config.titleSection titleId).toList, isWord char = true := by
  have length : (Config.titleSection titleId).toList.length = 16 := by
    rw [Config.titleSection, String.toList_ofList, paddedDigits_length]
  refine ⟨fun none => by simp [none] at length, ?_, ?_⟩
  · rw [← String.length_toList, length]
    decide
  · rw [Config.titleSection, String.toList_ofList]
    exact title_words 16 titleId

theorem setProfilesText_refines (fit : FitText card.text) (config : Config) (now : Stamp)
    (titleId : Nat) {mhz : Profile → Module → Nat} (fits : ∀ profile module, mhz profile module < 2 ^ 32)
    (immediate : Bool) :
    Refines (config.setProfilesText card now titleId mhz immediate)
      (config.setProfiles card.toCard now titleId mhz immediate) := by
  obtain ⟨named, short, words⟩ := title_named titleId
  rw [Config.setProfilesText, Config.setProfiles]
  rcases put_refines fit now named short words (profilePairs_words fits) with
    ⟨failed, none⟩ | ⟨written, put, fit, stored⟩
  · rw [failed, none]
    exact ⟨_, _, _, rfl, fit, rfl⟩
  · rw [put, stored]
    exact ⟨_, _, _, rfl, fit, rfl⟩

theorem setConfigValuesText_refines (fit : FitText card.text) (config : Config) (now : Stamp)
    {values : ConfigValue → Nat} (fits : ∀ kval, values kval < 2 ^ 64) (immediate : Bool) :
    Refines (config.setConfigValuesText card now values immediate)
      (config.setConfigValues card.toCard now values immediate) := by
  obtain ⟨named, short, words⟩ := values_named
  rw [Config.setConfigValuesText, Config.setConfigValues]
  rcases put_refines fit now named short words (valuePairs_words fits) with
    ⟨failed, none⟩ | ⟨written, put, fit, stored⟩
  · rw [failed, none]
    exact ⟨_, _, _, rfl, fit, rfl⟩
  · rw [put, stored]
    exact ⟨_, _, _, rfl, fit, rfl⟩

theorem setConfigValueText_refines (fit : FitText card.text) (config : Config) (now : Stamp)
    (kval : ConfigValue) {value : Nat} (fits : value < 2 ^ 64) (immediate : Bool) :
    Refines (config.setConfigValueText card now kval value immediate)
      (config.setConfigValue card.toCard now kval value immediate) := by
  obtain ⟨named, short, words⟩ := values_named
  rw [Config.setConfigValueText, Config.setConfigValue]
  cases hocclkValidConfigValue kval value with
  | false => exact ⟨_, _, _, rfl, fit, rfl⟩
  | true =>
      simp only [Bool.not_true, Bool.false_eq_true, if_false]
      rcases put_refines fit now named short words
        (singlePair_words kval (digits_words value) (digits_length fits)) with
        ⟨failed, none⟩ | ⟨written, put, fit, stored⟩
      · rw [failed, none]
        exact ⟨_, _, _, rfl, fit, rfl⟩
      · rw [put, stored]
        exact ⟨_, _, _, rfl, fit, rfl⟩

theorem resetConfigValueText_refines (fit : FitText card.text) (config : Config) (now : Stamp)
    (kval : ConfigValue) :
    Refines (config.resetConfigValueText card now kval)
      (config.resetConfigValue card.toCard now kval) := by
  obtain ⟨named, short, words⟩ := values_named
  rw [Config.resetConfigValueText, Config.resetConfigValue]
  have cleared : WordPairs [(hocclkFormatConfigValue kval, "")] :=
    singlePair_words kval (by simp) (by decide)
  rcases put_refines fit now named short words cleared with
    ⟨failed, none⟩ | ⟨written, put, fit, stored⟩
  · rw [failed, none]
    exact ⟨_, _, _, rfl, fit, rfl⟩
  · rw [put, stored]
    exact ⟨_, _, _, rfl, fit, rfl⟩

def TextState.sections (state : TextState) : ConfigState :=
  { config := state.config, card := state.card.toCard }

theorem applyText_refines {state : TextState} (fit : FitText state.card.text) {step : StoreStep}
    (fits : step.Fits) :
    ∃ after, step.applyText state = some after ∧ FitText after.card.text ∧
      step.applySections state.sections = after.sections := by
  have stored {called : Option (Bool × Config × TextCard)} {expected : Bool × Config × Card}
      (refines : Refines called expected) :
      ∃ after : TextState, (called.map fun (_, config, card) => ⟨config, card⟩) = some after ∧
        FitText after.card.text ∧ (⟨expected.2.1, expected.2.2⟩ : ConfigState) = after.sections := by
    obtain ⟨result, config, card, rfl, fit, rfl⟩ := refines
    exact ⟨_, rfl, fit, rfl⟩
  cases step with
  | load =>
      rw [StoreStep.applyText, loadText_refines fit]
      exact ⟨_, rfl, fit, rfl⟩
  | setProfiles now titleId mhz immediate =>
      exact stored (setProfilesText_refines fit _ now titleId fits immediate)
  | setConfigValues now values immediate =>
      exact stored (setConfigValuesText_refines fit _ now fits immediate)
  | setConfigValue now kval value immediate =>
      exact stored (setConfigValueText_refines fit _ now kval fits immediate)
  | resetConfigValue now kval => exact stored (resetConfigValueText_refines fit _ now kval)
  | replace card => exact ⟨_, rfl, fits, rfl⟩

/-- Over every run of calls, on a file that fits and with files that fit put in its place, the
configuration that is kept as bytes through minIni always returns and goes through the states of the
one that is kept as sections. -/
theorem text_simulates {state : TextState} (fit : FitText state.card.text) {steps : List StoreStep}
    (fits : ∀ step ∈ steps, step.Fits) :
    ∃ final, steps.foldlM (fun state step => step.applyText state) state = some final ∧
      FitText final.card.text ∧
      steps.foldl (fun state step => step.applySections state) state.sections = final.sections := by
  induction steps generalizing state with
  | nil => exact ⟨state, rfl, fit, rfl⟩
  | cons step rest ih =>
      obtain ⟨first, others⟩ := List.forall_mem_cons.mp fits
      obtain ⟨after, stepped, fitAfter, same⟩ := applyText_refines fit first
      obtain ⟨final, ran, fitFinal, reached⟩ := ih fitAfter others
      refine ⟨final, ?_, fitFinal, ?_⟩
      · rw [List.foldlM_cons, stepped]
        exact ran
      · rw [List.foldl_cons, same, reached]

/-- A console without a file, on which the values and a profile are set and loaded again. -/
theorem text_simulates_new_file :
    let start : TextState := { config := Config.initial, card := { file := none, writable := true } }
    let steps : List StoreStep := [
      .setConfigValues ⟨7, by decide⟩
        (Function.update hocclkDefaultConfigValue .batteryChargeCurrent 1024) true,
      .setProfiles ⟨8, by decide⟩ 0x0100000000001000 (fun _ _ => 1785) false,
      .load]
    ∃ final, steps.foldlM (fun state step => step.applyText state) start = some final ∧
      FitText final.card.text ∧
      steps.foldl (fun state step => step.applySections state) start.sections = final.sections := by
  intro start steps
  have fit : FitText start.card.text := FitText.nil
  refine text_simulates fit ?_
  intro step member
  simp only [steps, List.mem_cons, List.not_mem_nil, or_false] at member
  rcases member with rfl | rfl | rfl
  · intro kval
    cases kval <;> decide
  · intro _ _
    exact (by decide : 1785 < 2 ^ 32)
  · trivial

end

end HorizonOc.Sysmodule
