import Mathlib.Tactic.ByContra
import HorizonOc.Sysmodule.Display

namespace HorizonOc.Sysmodule

structure HandheldTimings where
  hSyncWidth : Nat
  hFrontPorch : Nat
  hBackPorch : Nat
  vSyncWidth : Nat
  vFrontPorch : Nat
  vBackPorch : Nat
  pixelClockKHz : Nat
deriving DecidableEq, Repr

/-- The rows are commented with 40 Hz to 60 Hz, one for each rate. -/
def handheldTimingsRETRO : List HandheldTimings :=
  [⟨72, 136, 72, 1, 660, 9, 78000⟩, ⟨72, 136, 72, 1, 612, 9, 77982⟩,
   ⟨72, 136, 72, 1, 567, 9, 77994⟩, ⟨72, 136, 72, 1, 524, 9, 78002⟩,
   ⟨72, 136, 72, 1, 483, 9, 78012⟩, ⟨72, 136, 72, 1, 443, 9, 77985⟩,
   ⟨72, 136, 72, 1, 406, 9, 78016⟩, ⟨72, 136, 72, 1, 370, 9, 78020⟩,
   ⟨72, 136, 72, 1, 335, 9, 78000⟩, ⟨72, 136, 72, 1, 302, 9, 78008⟩,
   ⟨72, 136, 72, 1, 270, 9, 78000⟩, ⟨72, 136, 72, 1, 239, 9, 77979⟩,
   ⟨72, 136, 72, 1, 210, 9, 78000⟩, ⟨72, 136, 72, 1, 182, 9, 78016⟩,
   ⟨72, 136, 72, 1, 154, 9, 77976⟩, ⟨72, 136, 72, 1, 128, 9, 77990⟩,
   ⟨72, 136, 72, 1, 103, 9, 78008⟩, ⟨72, 136, 72, 1, 78, 9, 77976⟩,
   ⟨72, 136, 72, 1, 55, 9, 78010⟩, ⟨72, 136, 72, 1, 32, 9, 77998⟩,
   ⟨72, 136, 72, 1, 10, 9, 78000⟩]

/-- The rate of a row's comment. -/
def commentedRate (row : Nat) : Nat := 40 + row

/-- The mode of a panel; the fields that are not touched here are left out. -/
structure NvdcMode2 where
  hActive : Nat
  vActive : Nat
  hSyncWidth : Nat
  vSyncWidth : Nat
  hFrontPorch : Nat
  vFrontPorch : Nat
  hBackPorch : Nat
  vBackPorch : Nat
  pclkKHz : Nat
deriving DecidableEq, Repr

namespace NvdcMode2

def hTotal (mode : NvdcMode2) : Nat :=
  toU32 (mode.hActive + mode.hFrontPorch + mode.hSyncWidth + mode.hBackPorch)

def vTotal (mode : NvdcMode2) : Nat :=
  toU32 (mode.vActive + mode.vFrontPorch + mode.vSyncWidth + mode.vBackPorch)

def refreshRateNow (mode : NvdcMode2) : Nat :=
  toU32 (mode.pclkKHz * 1000 + 999) / toU32 (mode.hTotal * mode.vTotal)

def withTimings (mode : NvdcMode2) (timings : HandheldTimings) : NvdcMode2 :=
  { mode with
    hFrontPorch := timings.hFrontPorch
    hSyncWidth := timings.hSyncWidth
    hBackPorch := timings.hBackPorch
    vFrontPorch := timings.vFrontPorch
    vSyncWidth := timings.vSyncWidth
    vBackPorch := timings.vBackPorch
    pclkKHz := timings.pixelClockKHz }

/-- The pixel clock is that many frames of the mode's size a second. -/
def Gives (mode : NvdcMode2) (rate : Nat) : Prop :=
  mode.pclkKHz * 1000 = rate * (mode.hTotal * mode.vTotal)

end NvdcMode2

/-- How `/dev/nvdisp-disp0` answers; none where the mode cannot be read. -/
structure HandheldPanel where
  opens : Bool
  mode : Option NvdcMode2
  validates : Bool
deriving DecidableEq, Repr

inductive HandheldResult where
  | failed
  | kept
  | pastTable (row : Nat)
  | refused (mode : NvdcMode2)
  | programmed (row : Nat) (mode : NvdcMode2)
deriving DecidableEq, Repr

def setNvDispHandheldRefreshRate (panel : HandheldPanel) (newRefreshRate : Nat) : HandheldResult :=
  if !panel.opens then .failed
  else
    match panel.mode with
    | none => .failed
    | some mode =>
        if mode.pclkKHz = 0 then .failed
        else if ¬(mode.vActive = 1280 ∧ mode.hActive = 720) then .failed
        else
          let newRefreshRate := handheldRate 21 newRefreshRate
          if newRefreshRate = mode.refreshRateNow then .kept
          else
            let itr := (newRefreshRate - 40) / 5
            match handheldTimingsRETRO[itr]? with
            | none => .pastTable itr
            | some timings =>
                if panel.validates then .programmed itr (mode.withTimings timings)
                else .refused (mode.withTimings timings)

/-- `SetRate` where it calls `_setNvDispHandheldRefreshRate`. -/
def Display.setHandheldRate (display : Display) (panel : HandheldPanel) (newRefreshRate : Nat) :
    Option HandheldResult :=
  if newRefreshRate ≠ 0 ∧ display.path = some .nvDispHandheld then
    some (setNvDispHandheldRefreshRate panel newRefreshRate)
  else none

/-- A mode that is programmed comes from the row of the rate. -/
def HandheldResult.ShowsRate (rate : Nat) : HandheldResult → Prop
  | .failed | .kept | .refused _ => True
  | .pastTable _ => False
  | .programmed row mode =>
      row < handheldTimingsRETRO.length ∧ commentedRate row = rate ∧ mode.Gives rate

/-- The panel takes a mode: it shows 720 by 1280 pixels at another rate, and nothing fails. -/
structure HandheldPanel.Takes (panel : HandheldPanel) (rate : Nat) (mode : NvdcMode2) : Prop where
  opens : panel.opens = true
  present : panel.mode = some mode
  clocked : mode.pclkKHz ≠ 0
  size : mode.vActive = 1280 ∧ mode.hActive = 720
  other : rate ≠ mode.refreshRateNow
  validates : panel.validates = true

/-- Every row gives the rate of its comment. -/
theorem withTimings_gives {mode : NvdcMode2} (size : mode.vActive = 1280 ∧ mode.hActive = 720)
    {row : Nat} {timings : HandheldTimings} (found : handheldTimingsRETRO[row]? = some timings) :
    (mode.withTimings timings).Gives (commentedRate row) := by
  have rows : ∀ row : Fin 21,
      handheldTimingsRETRO[row].pixelClockKHz * 1000 = commentedRate row *
        (toU32 (720 + handheldTimingsRETRO[row].hFrontPorch + handheldTimingsRETRO[row].hSyncWidth +
            handheldTimingsRETRO[row].hBackPorch) *
          toU32 (1280 + handheldTimingsRETRO[row].vFrontPorch + handheldTimingsRETRO[row].vSyncWidth +
            handheldTimingsRETRO[row].vBackPorch)) := by decide
  obtain ⟨inside, rfl⟩ := List.getElem?_eq_some_iff.mp found
  have gives := rows ⟨row, inside⟩
  unfold NvdcMode2.Gives NvdcMode2.hTotal NvdcMode2.vTotal NvdcMode2.withTimings
  simp only [size.1, size.2]
  exact gives

theorem handheldRow_inside (rate : Nat) :
    (handheldRate 21 rate - 40) / 5 < handheldTimingsRETRO.length := by
  have bounds := handheldRate_bounds 21 rate
  change (handheldRate 21 rate - 40) / 5 < 21
  omega

theorem handheldRate_eq_40_iff (rate : Nat) :
    handheldRate 21 rate = 40 ↔ rate ∈ [2, 4, 5, 8, 10, 40] := by
  by_cases low : rate < 41
  · have table : ∀ rate < 41, (handheldRate 21 rate = 40 ↔ rate ∈ [2, 4, 5, 8, 10, 40]) := by decide
    exact table rate low
  · have apart : rate ∉ [2, 4, 5, 8, 10, 40] := by
      simp only [List.mem_cons, List.not_mem_nil, or_false]
      omega
    refine ⟨fun same => ?_, fun member => absurd member apart⟩
    by_cases high : 80 < rate
    · rw [handheldRate, if_pos high] at same
      contradiction
    · rw [(handheldRate_eq_self_iff 21 rate).mpr ⟨by omega, by omega⟩] at same
      omega

theorem setNvDispHandheldRefreshRate_showsRate_iff (panel : HandheldPanel) (rate : Nat) :
    (setNvDispHandheldRefreshRate panel rate).ShowsRate (handheldRate 21 rate) ↔
      ∀ mode, panel.Takes (handheldRate 21 rate) mode → handheldRate 21 rate = 40 := by
  have bounds := handheldRate_bounds 21 rate
  have inside := handheldRow_inside rate
  unfold setNvDispHandheldRefreshRate
  by_cases opens : panel.opens = true
  · rw [if_neg (by simp [opens])]
    cases present : panel.mode with
    | none =>
        refine ⟨fun _ mode takes => ?_, fun _ => trivial⟩
        exact absurd (present.symm.trans takes.present) (by simp)
    | some mode =>
        have same {other : NvdcMode2} (takes : panel.Takes (handheldRate 21 rate) other) : mode = other :=
          Option.some.inj (present.symm.trans takes.present)
        dsimp only
        split
        · rename_i unclocked
          refine ⟨fun _ other takes => ?_, fun _ => trivial⟩
          exact absurd (same takes ▸ unclocked) takes.clocked
        · rename_i clocked
          split
          · rename_i otherSize
            refine ⟨fun _ other takes => ?_, fun _ => trivial⟩
            exact absurd (same takes ▸ takes.size) otherSize
          · rename_i size
            split
            · rename_i showing
              refine ⟨fun _ other takes => ?_, fun _ => trivial⟩
              exact absurd (same takes ▸ showing) takes.other
            · rename_i other
              rw [List.getElem?_eq_getElem inside]
              dsimp only
              split
              · rename_i validates
                have takes : panel.Takes (handheldRate 21 rate) mode :=
                  ⟨opens, present, clocked, not_not.mp size, other, validates⟩
                constructor
                · rintro ⟨-, comment, -⟩ _ _
                  unfold commentedRate at comment
                  omega
                · intro lowest
                  have forty := lowest mode takes
                  have gives := withTimings_gives (not_not.mp size) (List.getElem?_eq_getElem inside)
                  have row : (handheldRate 21 rate - 40) / 5 = 0 := by omega
                  have comment : commentedRate ((handheldRate 21 rate - 40) / 5) =
                      handheldRate 21 rate := by
                    rw [commentedRate]
                    omega
                  rw [comment] at gives
                  exact ⟨inside, comment, gives⟩
              · rename_i refused
                exact ⟨fun _ other takes => absurd takes.validates refused, fun _ => trivial⟩
  · rw [if_pos (by simp [opens])]
    exact ⟨fun _ mode takes => absurd takes.opens opens, fun _ => trivial⟩

/-- The step of five picks the row of the rate only where that is the lowest one. -/
theorem handheld_row_of_rate_iff (display : Display) (panel : HandheldPanel) (rate : Nat) :
    (∀ result, display.setHandheldRate panel rate = some result →
        result.ShowsRate (handheldRate 21 rate)) ↔
      (display.path = some .nvDispHandheld → ∀ mode, panel.Takes (handheldRate 21 rate) mode →
        rate = 0 ∨ rate ∈ [2, 4, 5, 8, 10, 40]) := by
  unfold Display.setHandheldRate
  by_cases reached : rate ≠ 0 ∧ display.path = some .nvDispHandheld
  · obtain ⟨nonzero, path⟩ := reached
    simp only [nonzero, path, ne_eq, not_false_eq_true, and_self, if_true, Option.some.injEq,
      forall_eq', forall_true_left, false_or]
    rw [setNvDispHandheldRefreshRate_showsRate_iff, handheldRate_eq_40_iff]
  · rw [if_neg reached]
    refine ⟨fun _ path mode _ => .inl ?_, fun _ result absurd => by contradiction⟩
    by_contra nonzero
    exact reached ⟨nonzero, path⟩

/-- A panel at 40 Hz on its way to 60 Hz. -/
theorem handheld_row_of_another_rate :
    let display : Display := { handheldDisplay with isRetroSUPER := true }
    let mode : NvdcMode2 := ⟨720, 1280, 72, 1, 136, 660, 72, 9, 78000⟩
    let panel : HandheldPanel := { opens := true, mode := some mode, validates := true }
    display.setHandheldRate panel 60 =
        some (.programmed 4 ⟨720, 1280, 72, 1, 136, 483, 72, 9, 78012⟩) ∧
      ¬∀ (display : Display) (panel : HandheldPanel) (rate : Nat), rate ≠ 0 →
        ∀ result, display.setHandheldRate panel rate = some result →
          result.ShowsRate (handheldRate 21 rate) := by
  intro display mode panel
  have programmed : display.setHandheldRate panel 60 =
      some (.programmed 4 ⟨720, 1280, 72, 1, 136, 483, 72, 9, 78012⟩) := by decide
  refine ⟨programmed, fun shows => ?_⟩
  have comment := (shows display panel 60 (by decide) _ programmed).2.1
  exact absurd comment (by decide)

end HorizonOc.Sysmodule
