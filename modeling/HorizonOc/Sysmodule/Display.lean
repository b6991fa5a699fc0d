import HorizonOc.Sysmodule.Types

namespace HorizonOc.Sysmodule

/-! `display_refresh_rate.cpp`: the rate that `SetRate` programs for one that is asked for. -/

/-- The configuration of the display, and how `/dev/nvdisp-disp1` answers.  The highest docked rate
starts at 60 and only rises. -/
structure Display where
  isDocked : Bool
  isLite : Bool
  isRetroSUPER : Bool
  matchLowestDocked : Bool
  dockedHighestRefreshRate : Nat
  highestAtLeast60 : 60 ≤ dockedHighestRefreshRate
  externalOpens : Bool
  externalPanelAnswers : Bool

inductive RatePath where
  | plldHandheld | nvDispHandheld | nvDispDocked
deriving DecidableEq, Repr

/-- The function that `SetRate` calls; with a panel outside but no dock it calls none. -/
def Display.path (display : Display) : Option RatePath :=
  if display.isRetroSUPER ∧ ¬display.isDocked then some .nvDispHandheld
  else if (¬display.isRetroSUPER ∧ display.isLite) ∨ ¬display.externalOpens then
    some .plldHandheld
  else if ¬display.externalPanelAnswers then
    if ¬display.isRetroSUPER then some .plldHandheld else some .nvDispHandheld
  else if display.isDocked then some .nvDispDocked
  else none

def inHandheldMode (rate : Nat) : Bool := 40 ≤ rate && rate ≤ 80

/-- A rate below the handheld mode goes to 60, or to its first multiple in range. -/
def handheldRate (lastMultiple rate : Nat) : Nat :=
  if 80 < rate then 80
  else if rate < 40 then
    if rate * 2 = 60 ∨ rate * 3 = 60 ∨ rate * 4 = 60 then 60
    else (((List.range' 2 (lastMultiple - 1)).map (rate * ·)).find? inHandheldMode).getD 60
  else rate

def dockedRefreshRates : List Nat :=
  [40, 45, 50, 55, 60, 70, 72, 75, 80, 90, 95, 100, 110, 120, 130, 140, 144, 150, 160, 165, 170,
   180, 190, 200, 210, 220, 230, 240]

/-- The entry that matches a rate, before the clamp. -/
def matchedDockedRate (matchLowestDocked : Bool) (rate : Nat) : Nat :=
  if rate ≤ 60 ∧ 60 % rate = 0 then 60
  else
    match dockedRefreshRates.find? (· % rate = 0) with
    | some entry => entry
    | none =>
        if matchLowestDocked then (dockedRefreshRates.find? (rate < ·)).getD 60 else 60

/-- The last entry up to the matched one that the display takes. -/
def clampedDockedRate (highest entry : Nat) : Nat :=
  if highest < entry then
    ((dockedRefreshRates.filter (· ≤ entry)).reverse.find? (· ≤ highest)).getD entry
  else entry

def Display.normalisedRate (display : Display) (rate : Nat) : Option Nat :=
  display.path.map fun
    | .plldHandheld => handheldRate 4 rate
    | .nvDispHandheld => handheldRate 21 rate
    | .nvDispDocked =>
        clampedDockedRate display.dockedHighestRefreshRate
          (matchedDockedRate display.matchLowestDocked rate)

/-- The rates that are programmed as they are. -/
def Display.Shows (display : Display) (rate : Nat) : Prop :=
  match display.path with
  | none => False
  | some .plldHandheld | some .nvDispHandheld => 40 ≤ rate ∧ rate ≤ 80
  | some .nvDispDocked => rate ∈ dockedRefreshRates ∧ rate ≤ display.dockedHighestRefreshRate

theorem handheldRate_bounds (lastMultiple rate : Nat) :
    40 ≤ handheldRate lastMultiple rate ∧ handheldRate lastMultiple rate ≤ 80 := by
  unfold handheldRate
  split
  · decide
  · split
    · split
      · decide
      · cases found : ((List.range' 2 (lastMultiple - 1)).map (rate * ·)).find? inHandheldMode with
        | none => decide
        | some multiple =>
            have inRange := List.find?_some found
            unfold inHandheldMode at inRange
            simpa using inRange
    · omega

theorem handheldRate_eq_self_iff (lastMultiple rate : Nat) :
    handheldRate lastMultiple rate = rate ↔ 40 ≤ rate ∧ rate ≤ 80 := by
  constructor
  · intro same
    have bounds := handheldRate_bounds lastMultiple rate
    rwa [same] at bounds
  · rintro ⟨lower, upper⟩
    unfold handheldRate
    rw [if_neg (by omega), if_neg (by omega)]

theorem matchedDockedRate_mem (matchLowestDocked : Bool) (rate : Nat) :
    matchedDockedRate matchLowestDocked rate ∈ dockedRefreshRates := by
  unfold matchedDockedRate
  split
  · decide
  · split
    · rename_i found
      exact List.mem_of_find?_eq_some found
    · split
      · cases found : dockedRefreshRates.find? (rate < ·) with
        | none => decide
        | some entry => exact List.mem_of_find?_eq_some found
      · decide

theorem clampedDockedRate_spec {highest entry : Nat} (supported : 60 ≤ highest)
    (member : entry ∈ dockedRefreshRates) :
    clampedDockedRate highest entry ∈ dockedRefreshRates ∧ clampedDockedRate highest entry ≤ highest := by
  unfold clampedDockedRate
  split
  · rename_i above
    cases found : (dockedRefreshRates.filter (· ≤ entry)).reverse.find? (· ≤ highest) with
    | none =>
        have absent := List.find?_eq_none.mp found 60
          (by simpa [dockedRefreshRates] using (by omega : 60 ≤ entry))
        simp [supported] at absent
    | some clamped =>
        have below := List.find?_some found
        have listed := List.mem_of_find?_eq_some found
        rw [List.mem_reverse, List.mem_filter] at listed
        exact ⟨listed.1, by simpa using below⟩
  · exact ⟨member, by omega⟩

/-- A rate of the table is its own match. -/
theorem matchedDockedRate_of_mem (matchLowestDocked : Bool) {rate : Nat}
    (member : rate ∈ dockedRefreshRates) : matchedDockedRate matchLowestDocked rate = rate := by
  have table : ∀ lowest, ∀ entry ∈ dockedRefreshRates, matchedDockedRate lowest entry = entry := by
    decide
  exact table matchLowestDocked rate member

theorem Display.normalisedRate_eq_self_iff (display : Display) (rate : Nat) :
    display.normalisedRate rate = some rate ↔ display.Shows rate := by
  unfold normalisedRate Shows
  cases display.path with
  | none => simp
  | some path =>
      cases path with
      | plldHandheld => simpa using handheldRate_eq_self_iff 4 rate
      | nvDispHandheld => simpa using handheldRate_eq_self_iff 21 rate
      | nvDispDocked =>
          simp only [Option.map_some, Option.some.injEq]
          constructor
          · intro same
            have spec := clampedDockedRate_spec display.highestAtLeast60
              (matchedDockedRate_mem display.matchLowestDocked rate)
            rwa [same] at spec
          · rintro ⟨member, shown⟩
            rw [matchedDockedRate_of_mem _ member]
            exact if_neg (by omega)

theorem Display.normalisedRate_ne_zero {display : Display} {rate programmed : Nat}
    (normalised : display.normalisedRate rate = some programmed) : programmed ≠ 0 := by
  unfold normalisedRate at normalised
  obtain ⟨path, -, rfl⟩ := Option.map_eq_some_iff.mp normalised
  cases path with
  | plldHandheld =>
      have := handheldRate_bounds 4 rate
      dsimp only
      omega
  | nvDispHandheld =>
      have := handheldRate_bounds 21 rate
      dsimp only
      omega
  | nvDispDocked =>
      have listed := (clampedDockedRate_spec display.highestAtLeast60
        (matchedDockedRate_mem display.matchLowestDocked rate)).1
      have table : ∀ entry ∈ dockedRefreshRates, entry ≠ 0 := by decide
      exact table _ listed

/-- The registers of the display's PLL. -/
structure Plld where
  divn : Nat
  divm : Nat
  sdmDin : Int
deriving DecidableEq, Repr

def dsiClockHz : Nat := 234000000

/-- What `_setPLLDHandheldRefreshRate` writes for a rate in range.  The last field has 16 bits. -/
def plldFor (rate : Nat) : Plld :=
  let baseRefreshRate := rate - rate % 5
  let divn := 4 * baseRefreshRate / 10
  let expectedPixelClock := dsiClockHz * rate / 60
  { divn
    divm := 1
    sdmDin := ((8 * expectedPixelClock / 9375 : Nat) - (4096 * (2 * divn + 1) : Nat) : Int).bmod (2 ^ 16) }

/-- The coarse rate, which `GetRate` takes for a dock where it is 0 or 80. -/
def Plld.value (plld : Plld) : Nat := plld.divn / plld.divm * 10 / 4

def Plld.readsDocked (plld : Plld) : Bool := plld.value = 0 || plld.value = 80

/-- The panel of a handheld console. -/
def handheldDisplay : Display :=
  { isDocked := false
    isLite := false
    isRetroSUPER := false
    matchLowestDocked := false
    dockedHighestRefreshRate := 60
    highestAtLeast60 := Nat.le_refl 60
    externalOpens := false
    externalPanelAnswers := false }

end HorizonOc.Sysmodule
