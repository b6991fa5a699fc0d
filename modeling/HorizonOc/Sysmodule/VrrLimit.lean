import Mathlib.Algebra.Order.Floor.Div
import HorizonOc.Data.Returns
import HorizonOc.Sysmodule.ClockSteps
import HorizonOc.Sysmodule.ConfigStore
import HorizonOc.Sysmodule.Governor

namespace HorizonOc.Sysmodule

open HorizonOc.Data

/-- The least multiple of a frame rate that reaches a rate. -/
def firstMultiple (fps leastHz : Nat) : Nat := fps * (leastHz ⌈/⌉ fps)

section

variable {fps minDisplay : Nat}

theorem le_firstMultiple (positive : 0 < fps) : minDisplay ≤ firstMultiple fps minDisplay :=
  (ceilDiv_le_iff_le_mul positive).mp (Nat.le_refl _)

theorem firstMultiple_pos (positive : 0 < fps) (least : 0 < minDisplay) :
    0 < firstMultiple fps minDisplay :=
  Nat.lt_of_lt_of_le least (le_firstMultiple positive)

/-- The frame rate itself is the first candidate that can reach the panel's minimum. -/
theorem vrrHz_eq_search (least : 0 < minDisplay) (maxDisplay : Nat) :
    vrrHz fps minDisplay maxDisplay =
      ((List.range 10).find? fun factor =>
        minDisplay ≤ fps * factor && fps * factor ≤ maxDisplay).map (fps * ·) := by
  rw [vrrHz, List.find?_map]
  split
  · rename_i inside
    have first : ((List.range 10).find? fun factor =>
        minDisplay ≤ fps * factor && fps * factor ≤ maxDisplay) = some 1 := by
      rw [List.find?_range_eq_some]
      refine ⟨by simpa using inside, by decide, ?_⟩
      intro factor below
      obtain rfl : factor = 0 := Nat.lt_one_iff.mp below
      simp [Nat.ne_of_gt least]
    rw [first, Option.map_some, Nat.mul_one]
  · rfl

/-- The thread's search finds the first multiple, if it is in range and among the ten. -/
theorem vrrHz_eq (positive : 0 < fps) (least : 0 < minDisplay) (maxDisplay : Nat) :
    vrrHz fps minDisplay maxDisplay =
      if firstMultiple fps minDisplay ≤ maxDisplay ∧ firstMultiple fps minDisplay ≤ 9 * fps then
        some (firstMultiple fps minDisplay)
      else none := by
  have reaches : ∀ factor, minDisplay ≤ fps * factor ↔ minDisplay ⌈/⌉ fps ≤ factor :=
    fun factor => (ceilDiv_le_iff_le_mul positive).symm
  have among : firstMultiple fps minDisplay ≤ 9 * fps ↔ minDisplay ⌈/⌉ fps < 10 := by
    rw [firstMultiple, Nat.mul_comm 9, Nat.mul_le_mul_left_iff positive, Nat.lt_succ_iff]
  rw [vrrHz_eq_search least]
  simp only [among]
  split
  · rename_i found
    have search : ((List.range 10).find? fun factor =>
        minDisplay ≤ fps * factor && fps * factor ≤ maxDisplay) = some (minDisplay ⌈/⌉ fps) := by
      rw [List.find?_range_eq_some]
      refine ⟨?_, List.mem_range.mpr found.2, ?_⟩
      · have inside : fps * (minDisplay ⌈/⌉ fps) ≤ maxDisplay := found.1
        simp [reaches, inside]
      · intro factor below
        simp [reaches, Nat.not_le.mpr below]
    rw [search]
    rfl
  · rename_i missed
    rw [Option.map_eq_none_iff, List.find?_eq_none]
    intro factor member inside
    simp only [Bool.and_eq_true, decide_eq_true_eq, reaches] at inside
    refine missed ⟨Nat.le_trans (Nat.mul_le_mul_left fps inside.1) inside.2, ?_⟩
    exact Nat.lt_of_le_of_lt inside.1 (List.mem_range.mp member)

end

/-- Where the limit of the display comes from, with its rate. -/
inductive DisplayLimit where
  | stock
  | override (hz : Nat)
  | profile (hz : Nat)
deriving DecidableEq, Repr

/-- Without a limit the display stays at 60 Hz. -/
def DisplayLimit.hz : DisplayLimit → Nat
  | .stock => 60
  | .override hz | .profile hz => hz

/-- The limit that the user configured for the current profile, as it is stored. -/
def Setting.displayLimit (setting : Setting) : DisplayLimit :=
  let overrideHz := setting.overrideFreqs .display
  let applicationHz :=
    setting.config.getAutoClockHz setting.applicationId .display setting.profile true
  let globalHz := setting.config.getAutoClockHz globalProfileId .display setting.profile true
  if overrideHz ≠ 0 then .override overrideHz
  else if applicationHz ≠ 0 then .profile applicationHz
  else if globalHz ≠ 0 then .profile globalHz
  else .stock

def Setting.maxDisplay (setting : Setting) : Nat :=
  let targetHz := resolveTargetHz setting .display false
  if targetHz ≠ 0 then toU8 targetHz else 60

def Setting.minDisplay (setting : Setting) : Nat :=
  if setting.board.consoleType = .aula then 45 else 40

theorem minDisplay_cases (setting : Setting) : setting.minDisplay = 45 ∨ setting.minDisplay = 40 := by
  unfold Setting.minDisplay
  split
  · exact .inl rfl
  · exact .inr rfl

/-- The lookup scales what the profile stores, in 32 bits. -/
theorem getAutoClockHz_scaled (config : Config) (titleId : Nat) (module : Module)
    (profile : Profile) :
    config.getAutoClockHz titleId module profile false =
      toU32 (config.getAutoClockHz titleId module profile true * 1000000) := by
  simp only [Config.getAutoClockHz, Config.findClockHzFromProfiles, Bool.false_eq_true, if_false,
    if_true, toU32, Nat.mul_one, Nat.mod_mul_mod]

/-- What the thread takes for the limit: of a profile's, the rate in Hz. -/
def DisplayLimit.targetHz : DisplayLimit → Nat
  | .stock => 0
  | .override hz => hz
  | .profile hz => toU32 (hz * 1000000)

theorem scaled_ne_zero : ∀ hz ≤ 80, hz ≠ 0 → toU32 (hz * 1000000) ≠ 0 := by decide +kernel

theorem scaled_narrowed : ∀ hz ≤ 80, toU8 (toU32 (hz * 1000000)) = 64 * (hz % 4) := by
  decide +kernel

theorem resolveTargetHz_display {setting : Setting} (small : setting.displayLimit.hz ≤ 80) :
    resolveTargetHz setting .display false = setting.displayLimit.targetHz := by
  simp only [resolveTargetHz, getAutoClockHz_scaled]
  unfold Setting.displayLimit at small ⊢
  dsimp only at small ⊢
  by_cases overridden : setting.overrideFreqs .display ≠ 0
  · rw [if_pos overridden, if_pos overridden]
    rfl
  · rw [if_neg overridden] at small ⊢
    rw [if_neg overridden]
    generalize setting.config.getAutoClockHz setting.applicationId .display setting.profile true =
      applicationHz at small ⊢
    generalize setting.config.getAutoClockHz globalProfileId .display setting.profile true =
      globalHz at small ⊢
    by_cases application : applicationHz ≠ 0
    · rw [if_pos application] at small ⊢
      rw [if_pos (scaled_ne_zero applicationHz small application)]
      rfl
    · rw [if_neg application]
      obtain rfl : applicationHz = 0 := not_not.mp application
      rw [if_neg (by decide)]
      by_cases global : globalHz ≠ 0
      · rw [if_pos global]
        rfl
      · rw [if_neg global, not_not.mp global]
        rfl

/-- What is left of a limit in the 8 bits: of a profile's, its two lowest bits. -/
def DisplayLimit.narrowed : DisplayLimit → Nat
  | .stock => 60
  | .override hz => hz
  | .profile hz => 64 * (hz % 4)

theorem maxDisplay_eq {setting : Setting} (small : setting.displayLimit.hz ≤ 80)
    (positive : 0 < setting.displayLimit.hz) :
    setting.maxDisplay = setting.displayLimit.narrowed := by
  rw [Setting.maxDisplay, resolveTargetHz_display small]
  cases limit : setting.displayLimit with
  | stock => rfl
  | override hz =>
      have within : 0 < hz ∧ hz ≤ 80 := by simpa only [limit, DisplayLimit.hz] using And.intro positive small
      change (if hz ≠ 0 then toU8 hz else 60) = hz
      unfold toU8
      split <;> omega
  | profile hz =>
      have within : 0 < hz ∧ hz ≤ 80 := by simpa only [limit, DisplayLimit.hz] using And.intro positive small
      change (if toU32 (hz * 1000000) ≠ 0 then toU8 (toU32 (hz * 1000000)) else 60) = 64 * (hz % 4)
      rw [if_pos (scaled_ne_zero hz within.2 (Nat.ne_of_gt within.1)), scaled_narrowed hz within.2]

/-- Whether there is a frame rate to follow. -/
def Setting.showsFrameRate (setting : Setting) : Bool :=
  !(!setting.isSaltyNXInstalled || toU8 setting.services.saltyNXFPS = 254)

/-- Whether a pass comes to the frame rate. -/
def Sys.followsFrameRate (state : Sys) : Bool :=
  (toU8 (state.vrrLocals.tick2 + 1) ≤ 100 ||
      state.setting.services.applicationOutOfFocus == some false) &&
    state.setting.showsFrameRate

/-- Whether a pass is the one that sets the maximum. -/
def Sys.raisesDisplay (state : Sys) : Bool := 50 < toU8 (state.vrrLocals.tick + 1)

/-- The rates that follow from the frame rate, in order. -/
def Sys.matchedDisplay (state : Sys) : List Nat :=
  if state.setting.maxDisplay ≠ state.setting.minDisplay then
    (vrrHz (toU8 state.setting.services.saltyNXFPS) state.setting.minDisplay
        state.setting.maxDisplay).toList ++
      if state.raisesDisplay then [state.setting.maxDisplay] else []
  else []

/-- The rates that a pass hands to `SetHz`, in order. -/
def Sys.handedDisplay (state : Sys) : List Nat :=
  if state.followsFrameRate then state.matchedDisplay else []

/-- The rates handed to `SetHz` for the display, in order. -/
def displayWrites (log : List Effect) : List Nat := ((writesOf .display log).map Prod.fst).reverse

/-- What a piece of a pass hands on, beside which it leaves the counters to their owner. -/
structure HandsDisplay (handed : List Nat) (before after : Sys) : Prop where
  writes : displayWrites after.log = displayWrites before.log ++ handed
  locals : after.vrrLocals = before.vrrLocals

theorem setHz_display_hands (hz : Nat) (state : Sys) :
    (setHz .display hz).Returns state fun _ final => HandsDisplay [hz] state final :=
  .of_run rfl ⟨by simp [displayWrites, writesOf, Sys.record, Sys.clkrstSetHz], rfl⟩

theorem setDisplayHz_hands (hz : Nat) (state : Sys) :
    (setDisplayHz hz).Returns state fun _ final => HandsDisplay [hz] state final := by
  unfold setDisplayHz
  refine (setHz_display_hands hz state).bind fun _ later hands => ?_
  exact .update ⟨hands.writes, hands.locals⟩

theorem raiseDisplay_returns (maxDisplay : Nat) (state : Sys) :
    (raiseDisplay maxDisplay).Returns state fun _ final =>
      displayWrites final.log =
        displayWrites state.log ++ if state.raisesDisplay then [maxDisplay] else [] := by
  unfold raiseDisplay
  refine .read_bind ?_
  cases raises : state.raisesDisplay with
  | true =>
      rw [if_pos (of_decide_eq_true raises)]
      refine (setHz_display_hands maxDisplay state).bind fun _ later hands => ?_
      exact .update_bind (.of_run rfl hands.writes)
  | false =>
      rw [if_neg (of_decide_eq_false raises)]
      exact .of_run rfl (by simp)

theorem matchFrameRate_returns (fps minDisplay maxDisplay : Nat) (state : Sys) :
    (matchFrameRate fps minDisplay maxDisplay).Returns state fun _ final =>
      displayWrites final.log =
        displayWrites state.log ++ ((vrrHz fps minDisplay maxDisplay).toList ++
          if state.raisesDisplay then [maxDisplay] else []) := by
  unfold matchFrameRate
  have matched : ((vrrHz fps minDisplay maxDisplay).forM setDisplayHz).Returns state fun _ final =>
      HandsDisplay (vrrHz fps minDisplay maxDisplay).toList state final := by
    cases vrrHz fps minDisplay maxDisplay with
    | none => exact .pure ⟨by simp, rfl⟩
    | some hz => exact setDisplayHz_hands hz state
  refine matched.bind fun _ later hands => ?_
  refine (raiseDisplay_returns maxDisplay later).bind fun _ last raised => ?_
  refine .of_run rfl ?_
  rw [raised, hands.writes, List.append_assoc, Sys.raisesDisplay, hands.locals]
  rfl

theorem followFrameRate_returns (state : Sys) :
    followFrameRate.Returns state fun _ final =>
      displayWrites final.log = displayWrites state.log ++
        if state.setting.showsFrameRate then state.matchedDisplay else [] := by
  unfold followFrameRate
  refine .read_bind ?_
  cases shows : state.setting.showsFrameRate with
  | false =>
      rw [if_pos (by simpa only [Setting.showsFrameRate, Bool.not_eq_false'] using shows)]
      exact .of_run rfl (by simp)
  | true =>
      rw [if_neg (by simpa only [Setting.showsFrameRate, Bool.not_eq_true', Bool.not_eq_true]
        using shows)]
      change (Program.when (state.setting.maxDisplay ≠ state.setting.minDisplay)
        (matchFrameRate _ state.setting.minDisplay state.setting.maxDisplay)).Returns state _
      rw [if_pos rfl, Sys.matchedDisplay]
      refine .when (fun differ => ?_) fun same => ?_
      · rw [if_pos differ]
        exact matchFrameRate_returns _ _ _ state
      · rw [if_neg same, List.append_nil]

/-- A pass always returns. -/
theorem pollVrr_returns (state : Sys) :
    pollVrr.Returns state.forget fun _ final => displayWrites final.log = state.handedDisplay := by
  let counted : Sys :=
    { state.forget with vrrLocals := { state.vrrLocals with tick2 := toU8 (state.vrrLocals.tick2 + 1) } }
  have follows : followFrameRate.Returns counted fun _ final =>
      displayWrites final.log = if state.setting.showsFrameRate then state.matchedDisplay else [] :=
    followFrameRate_returns counted
  unfold pollVrr Sys.handedDisplay Sys.followsFrameRate
  refine .update_bind (.read_bind ?_)
  change Program.Returns (if 100 < toU8 (state.vrrLocals.tick2 + 1) then _ else _) counted _
  by_cases early : toU8 (state.vrrLocals.tick2 + 1) ≤ 100
  · rw [if_neg (Nat.not_lt.mpr early), decide_eq_true early]
    exact follows
  · rw [if_pos (Nat.not_le.mp early), decide_eq_false early]
    dsimp only [Sys.forget]
    cases state.setting.services.applicationOutOfFocus with
    | none => exact .of_run rfl rfl
    | some outOfFocus =>
        cases outOfFocus with
        | true => exact .of_run rfl rfl
        | false => exact follows

/-- What a pass of the thread finds under the mutex, and the rates that it hands on. -/
structure VrrPoll where
  limit : DisplayLimit
  minDisplay : Nat
  fps : Nat
  follows : Bool
  raises : Bool
  handed : List Nat
deriving DecidableEq, Repr

/-- A pass in a state, with the log that it leaves. -/
def Sys.vrrPoll (state : Sys) (log : List Effect) : VrrPoll :=
  { limit := state.setting.displayLimit
    minDisplay := state.setting.minDisplay
    fps := toU8 state.setting.services.saltyNXFPS
    follows := state.followsFrameRate
    raises := state.raisesDisplay
    handed := displayWrites log }

/-- A limit from the panel's minimum to 80, and a frame rate from 1 to 240. -/
def VrrPoll.InRange (poll : VrrPoll) : Prop :=
  (poll.minDisplay ≤ poll.limit.hz ∧ poll.limit.hz ≤ 80) ∧ 1 ≤ poll.fps ∧ poll.fps ≤ 240

/-- Between the panel's minimum and the limit, and a multiple of the frame rate or the limit. -/
def VrrPoll.Allows (poll : VrrPoll) (hz : Nat) : Prop :=
  (poll.minDisplay ≤ hz ∧ hz ≤ poll.limit.hz) ∧
    (0 < hz ∧ poll.fps ∣ hz ∨ hz = poll.limit.hz)

def VrrPoll.WithinLimit (poll : VrrPoll) : Prop := ∀ hz ∈ poll.handed, poll.Allows hz

/-- The limit is not a profile's, or what the 8 bits leave of it does no harm in the pass: they do
not let the first multiple pass the limit, and are not set themselves unless they are 64, below
the limit and a multiple. -/
def VrrPoll.Narrows (poll : VrrPoll) : Prop :=
  ∀ hz, poll.limit = .profile hz → poll.follows = true →
    (firstMultiple poll.fps poll.minDisplay ≤ min (64 * (hz % 4)) (9 * poll.fps) →
      firstMultiple poll.fps poll.minDisplay ≤ hz) ∧
    (poll.raises = true → hz % 4 = 1 ∧ 64 ≤ hz ∧ poll.fps ∣ 64)

/-- A pass of `VRRThread`, with what it comes to.  Everything but its own counters may change
before it begins and before it has the mutex. -/
inductive VrrPass : VrrLocals → Option VrrPoll → VrrLocals → Prop where
  | skip {start : Sys} (stops : (enterVrr start).2 = false) :
      VrrPass start.vrrLocals none (enterVrr start).1.vrrLocals
  | poll {start locked final : Sys} (goesOn : (enterVrr start).2 = true)
      (own : locked.vrrLocals = (enterVrr start).1.vrrLocals)
      (finished : pollVrr.run locked.forget = .ok (⟨⟩, final)) :
      VrrPass start.vrrLocals (some (locked.vrrPoll final.log)) final.vrrLocals

/-- The polls of the thread from its start, the newest first. -/
inductive VrrRun : List VrrPoll → VrrLocals → Prop where
  | start : VrrRun [] { tick := 0, tick2 := 0 }
  | pass {polls : List VrrPoll} {locals next : VrrLocals} {found : Option VrrPoll}
      (before : VrrRun polls locals) (passes : VrrPass locals found next) :
      VrrRun (found.toList ++ polls) next

/-- What a pass that follows the frame rate hands on, in terms of the limit. -/
def VrrPoll.followed (poll : VrrPoll) : List Nat :=
  (vrrHz poll.fps poll.minDisplay poll.limit.narrowed).toList ++
    if poll.raises then [poll.limit.narrowed] else []

theorem handed_of_finished {state final : Sys}
    (finished : pollVrr.run state.forget = .ok (⟨⟩, final))
    (inRange : (state.vrrPoll final.log).InRange) :
    (state.vrrPoll final.log).handed =
      if (state.vrrPoll final.log).follows then
        if (state.vrrPoll final.log).limit.narrowed ≠ (state.vrrPoll final.log).minDisplay then
          (state.vrrPoll final.log).followed
        else []
      else [] := by
  have handed := (pollVrr_returns state).of_finished finished
  have positive : 0 < state.setting.displayLimit.hz := by
    refine Nat.lt_of_lt_of_le ?_ inRange.1.1
    rcases minDisplay_cases state.setting with aula | other
    · simp [Sys.vrrPoll, aula]
    · simp [Sys.vrrPoll, other]
  have narrowed := maxDisplay_eq inRange.1.2 positive
  simp only [Sys.vrrPoll, handed, Sys.handedDisplay, Sys.matchedDisplay, VrrPoll.followed,
    narrowed]

section

variable {poll : VrrPoll}

theorem allows_firstMultiple_iff (inRange : poll.InRange) (least : 0 < poll.minDisplay) :
    poll.Allows (firstMultiple poll.fps poll.minDisplay) ↔
      firstMultiple poll.fps poll.minDisplay ≤ poll.limit.hz := by
  refine ⟨fun allowed => allowed.1.2, fun below => ⟨⟨le_firstMultiple inRange.2.1, below⟩, .inl ?_⟩⟩
  exact ⟨firstMultiple_pos inRange.2.1 least, Nat.dvd_mul_right _ _⟩

theorem allows_vrrHz_iff (inRange : poll.InRange) (least : 0 < poll.minDisplay) (maxDisplay : Nat) :
    (∀ hz ∈ vrrHz poll.fps poll.minDisplay maxDisplay, poll.Allows hz) ↔
      (firstMultiple poll.fps poll.minDisplay ≤ min maxDisplay (9 * poll.fps) →
        firstMultiple poll.fps poll.minDisplay ≤ poll.limit.hz) := by
  rw [vrrHz_eq inRange.2.1 least, ← allows_firstMultiple_iff inRange least, Nat.le_min]
  split
  · rename_i found
    simp [found]
  · rename_i missed
    simp [missed]

theorem followed_allowed_iff (inRange : poll.InRange) (least : 0 < poll.minDisplay) :
    (∀ hz ∈ poll.followed, poll.Allows hz) ↔
      (firstMultiple poll.fps poll.minDisplay ≤ min poll.limit.narrowed (9 * poll.fps) →
        firstMultiple poll.fps poll.minDisplay ≤ poll.limit.hz) ∧
      (poll.raises = true → poll.Allows poll.limit.narrowed) := by
  rw [← allows_vrrHz_iff inRange least, VrrPoll.followed, List.forall_mem_append]
  refine and_congr (by simp) ?_
  cases poll.raises with
  | false => simp
  | true => simp

theorem followed_allowed_of_exact (inRange : poll.InRange) (least : 0 < poll.minDisplay)
    (exact : poll.limit.narrowed = poll.limit.hz) : ∀ hz ∈ poll.followed, poll.Allows hz := by
  rw [followed_allowed_iff inRange least, exact]
  refine ⟨fun found => Nat.le_trans found (Nat.min_le_left _ _), fun _ => ⟨?_, .inr rfl⟩⟩
  exact ⟨inRange.1.1, Nat.le_refl _⟩

/-- A profile's limit that 8 bits have narrowed is allowed only as 64, and as a multiple. -/
theorem allows_narrowed_iff (inRange : poll.InRange)
    (panel : poll.minDisplay = 45 ∨ poll.minDisplay = 40) {hz : Nat}
    (limit : poll.limit = .profile hz) :
    poll.Allows (64 * (hz % 4)) ↔ hz % 4 = 1 ∧ 64 ≤ hz ∧ poll.fps ∣ 64 := by
  have bounds := inRange.1
  unfold VrrPoll.Allows
  simp only [limit, DisplayLimit.hz] at bounds ⊢
  constructor
  · rintro ⟨⟨reaches, below⟩, multiple | same⟩
    · have once : hz % 4 = 1 := by omega
      rw [once] at multiple below
      exact ⟨once, below, multiple.2⟩
    · omega
  · rintro ⟨once, below, divides⟩
    rw [once]
    exact ⟨⟨by omega, below⟩, .inl ⟨by decide, divides⟩⟩

end

theorem vrrPoll_withinLimit_iff {state final : Sys}
    (finished : pollVrr.run state.forget = .ok (⟨⟩, final))
    (inRange : (state.vrrPoll final.log).InRange) :
    (state.vrrPoll final.log).WithinLimit ↔ (state.vrrPoll final.log).Narrows := by
  have handed := handed_of_finished finished inRange
  have panel : (state.vrrPoll final.log).minDisplay = 45 ∨ (state.vrrPoll final.log).minDisplay = 40 :=
    minDisplay_cases state.setting
  generalize state.vrrPoll final.log = poll at *
  have least : 0 < poll.minDisplay := by omega
  have fits := followed_allowed_iff inRange least
  unfold VrrPoll.WithinLimit VrrPoll.Narrows
  rw [handed]
  cases follows : poll.follows with
  | false => simp
  | true =>
      rw [if_pos rfl]
      cases limit : poll.limit with
      | stock =>
          have exact := followed_allowed_of_exact inRange least (by rw [limit]; rfl)
          split
          · simpa using exact
          · simp
      | override hz =>
          have exact := followed_allowed_of_exact inRange least (by rw [limit]; rfl)
          split
          · simpa using exact
          · simp
      | profile hz =>
          have apart : (DisplayLimit.profile hz).narrowed ≠ poll.minDisplay := by
            change 64 * (hz % 4) ≠ poll.minDisplay
            omega
          have narrowed := allows_narrowed_iff inRange panel limit
          simp only [limit, DisplayLimit.narrowed, DisplayLimit.hz, narrowed] at fits
          rw [if_pos apart, fits]
          constructor
          · rintro harmless other same -
            cases same
            exact harmless
          · exact fun every => every hz rfl rfl

/-- In every run of the VRR thread, all rates that passes in range hand on are within the limit
exactly if in each of these passes the 8 bits do the limit no harm. -/
theorem display_limit_kept_iff {polls : List VrrPoll} {locals : VrrLocals}
    (run : VrrRun polls locals) :
    (∀ poll ∈ polls, poll.InRange → poll.WithinLimit) ↔
      ∀ poll ∈ polls, poll.InRange → poll.Narrows := by
  induction run with
  | start => simp
  | pass before passes ih =>
      cases passes with
      | skip stops => exact ih
      | @poll start locked final goesOn own finished =>
          have here := vrrPoll_withinLimit_iff finished
          simp only [Option.toList_some, List.singleton_append, List.forall_mem_cons]
          rw [ih, forall_congr' here]

/-- A game at 60 frames a second, with a display that a file or an override limits. -/
def vrrSample (pairs : List (String × String)) (overrideHz : Nat) : Setting :=
  let card : Card :=
    { file := some
        { modified := ⟨1, Nat.one_pos⟩
          sections := [{ name := "0100000000010000", pairs }] }
      writable := true }
  let setting :=
    { sampleSetting with
      config := Config.initial.load card.configFile
      applicationId := 0x0100000000010000 }
  setting.withOverride .display overrideHz

/-- The VRR thread at its start, switched on. -/
def vrrStart (setting : Setting) : Sys :=
  let state := Sys.initial setting sampleRates []
  { state with governors := { state.governors with isVRREnabled := true } }

theorem vrr_first_pass (setting : Setting) (goesOn : setting.running ∧ setting.profile ≠ .docked) :
    ∃ poll locals, VrrRun [poll] locals ∧ poll.limit = setting.displayLimit ∧
      poll.minDisplay = setting.minDisplay ∧ poll.fps = toU8 setting.services.saltyNXFPS ∧
      poll.handed = (vrrStart setting).handedDisplay := by
  obtain ⟨_, final, finished, handed⟩ := pollVrr_returns (vrrStart setting)
  have on : (enterVrr (vrrStart setting)).2 = true := by
    change (setting.running && decide (setting.profile ≠ .docked) && true) = true
    simp [goesOn]
  have pass : VrrPass { tick := 0, tick2 := 0 } _ final.vrrLocals :=
    @VrrPass.poll (vrrStart setting) (vrrStart setting) final on rfl finished
  exact ⟨_, _, VrrRun.start.pass pass, rfl, rfl, rfl, handed⟩

theorem display_limit_kept_iff_override :
    ∃ poll locals, VrrRun [poll] locals ∧ poll.InRange ∧ poll.limit = .override 70 ∧
      poll.handed = [60] ∧ poll.WithinLimit := by
  have found : (vrrSample [] 70).displayLimit = .override 70 := by decide +kernel
  have panel : (vrrSample [] 70).minDisplay = 40 := by decide +kernel
  have frames : toU8 (vrrSample [] 70).services.saltyNXFPS = 60 := by decide +kernel
  have handed : (vrrStart (vrrSample [] 70)).handedDisplay = [60] := by decide +kernel
  obtain ⟨poll, locals, run, limit, least, fps, writes⟩ :=
    vrr_first_pass (vrrSample [] 70) (by decide +kernel)
  rw [found] at limit
  rw [panel] at least
  rw [frames] at fps
  have inRange : poll.InRange := by
    unfold VrrPoll.InRange
    rw [limit, least, fps]
    decide
  refine ⟨poll, locals, run, inRange, limit, writes.trans handed, ?_⟩
  refine (display_limit_kept_iff run).mpr ?_ poll List.mem_cons_self inRange
  intro other member _ hz profile
  rw [List.mem_singleton.mp member, limit] at profile
  contradiction

/-- A profile's limit of 55 is 192 in 8 bits, and 60 Hz is below that. -/
theorem display_limit_exceeded :
    ∃ poll locals, VrrRun [poll] locals ∧ poll.InRange ∧ poll.limit = .profile 55 ∧
      poll.handed = [60] ∧ ¬poll.WithinLimit := by
  have found : (vrrSample [("handheld_display", "55")] 0).displayLimit = .profile 55 := by
    decide +kernel
  have panel : (vrrSample [("handheld_display", "55")] 0).minDisplay = 40 := by decide +kernel
  have frames : toU8 (vrrSample [("handheld_display", "55")] 0).services.saltyNXFPS = 60 := by
    decide +kernel
  have handed : (vrrStart (vrrSample [("handheld_display", "55")] 0)).handedDisplay = [60] := by
    decide +kernel
  obtain ⟨poll, locals, run, limit, least, fps, writes⟩ :=
    vrr_first_pass (vrrSample [("handheld_display", "55")] 0) (by decide +kernel)
  rw [found] at limit
  rw [panel] at least
  rw [frames] at fps
  rw [handed] at writes
  have inRange : poll.InRange := by
    unfold VrrPoll.InRange
    rw [limit, least, fps]
    decide
  refine ⟨poll, locals, run, inRange, limit, writes, fun within => ?_⟩
  have below := (within 60 (by simp [writes])).1.2
  rw [limit] at below
  exact absurd below (by decide)

end HorizonOc.Sysmodule
