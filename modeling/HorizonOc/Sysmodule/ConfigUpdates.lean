import HorizonOc.Data.Runs
import HorizonOc.Sysmodule.ConfigStore
import HorizonOc.Sysmodule.Refresh

namespace HorizonOc.Sysmodule

open HorizonOc.Data

/-- Requests fall between ticks, and into them. -/
structure UpdateWorld where
  config : Config
  card : Card
  now : Stamp
  /-- A request has returned since the last tick began. -/
  returned : Bool
  /-- The tick that has still to look at the file, and whether it began behind a request. -/
  waiting : Option Bool
  /-- A tick that began behind a request did not run `SetClocks`. -/
  lost : Bool

inductive UpdateStep where
  | elapse (seconds : Nat)
  | setProfiles (titleId : Nat) (mhz : Profile → Module → Nat)
  | setConfigValues (values : ConfigValue → Nat)
  /-- A tick up to the answer of `RefreshContext`. -/
  | beginTick (contextChanged : Bool)
  /-- `config::Refresh` in a tick whose context had not changed. -/
  | refresh

namespace UpdateWorld

/-- Nothing happened yet. -/
def start (config : Config) (card : Card) (now : Stamp) : UpdateWorld :=
  { config, card, now, returned := false, waiting := none, lost := false }

/-- A request through IPC, which is refused until the configuration was loaded. -/
def request (world : UpdateWorld) (call : Config → Card → Stamp → Bool × Config × Card) :
    UpdateWorld :=
  if world.config.loaded then
    let after := call world.config world.card world.now
    { world with
      config := after.2.1
      card := after.2.2
      returned := world.returned || after.1 }
  else world

def apply (world : UpdateWorld) : UpdateStep → UpdateWorld
  | .elapse seconds =>
      let now : Stamp := ⟨world.now.seconds + seconds, Nat.add_pos_left world.now.positive seconds⟩
      { world with now }
  | .setProfiles titleId mhz =>
      world.request fun config card now => config.setProfiles card now titleId mhz true
  | .setConfigValues values =>
      world.request fun config card now => config.setConfigValues card now values true
  | .beginTick contextChanged =>
      match world.waiting with
      | some _ => world
      | none =>
          { world with
            returned := false
            waiting := if contextChanged then none else some world.returned }
  | .refresh =>
      match world.waiting with
      | none => world
      | some behind =>
          let refreshed := world.config.refresh world.card.configFile
          { world with
            config := refreshed.2
            waiting := none
            lost := world.lost || (behind && !refreshed.1) }

/-- No tick is on its way to the file, and the second is not that of the file that was loaded. -/
def Noticed (world : UpdateWorld) : UpdateStep → Prop
  | .setProfiles _ _ | .setConfigValues _ =>
      world.config.loaded = true → world.card.writable = true →
        world.waiting = none ∧ world.now.seconds ≠ world.config.mtime
  | _ => True

/-- The file was written since it was loaded. -/
def Written (world : UpdateWorld) : Prop := world.config.mtime ≠ world.card.configFile.modified

/-- Whatever a tick has to notice can be seen in the file. -/
structure Kept (world : UpdateWorld) : Prop where
  returned : world.returned = true → world.Written
  behind : world.waiting = some true → world.Written
  alone : world.waiting ≠ none → world.returned = false
  kept : world.lost = false

variable {world : UpdateWorld}

/-- A request fails and leaves all as it was, or stamps the file with the time it was made. -/
inductive Answered (config : Config) (card : Card) (now : Stamp) : Bool × Config × Card → Prop where
  | failed : Answered config card now (false, config, card)
  | stamped {stored : Config} {written : Card} (writable : card.writable = true)
      (mtime : stored.mtime = config.mtime) (modified : written.configFile.modified = now.seconds) :
      Answered config card now (true, stored, written)

theorem put_stamps {card written : Card} {now : Stamp} {name : String}
    {pairs : List (String × String)} (put : card.put now name pairs = some written) :
    card.writable = true ∧ written.configFile.modified = now.seconds := by
  unfold Card.put at put
  split at put
  · rename_i writable
    rw [← Option.some.inj put]
    exact ⟨writable, rfl⟩
  · contradiction

theorem setProfiles_answered (config : Config) (card : Card) (now : Stamp) (titleId : Nat)
    (mhz : Profile → Module → Nat) :
    Answered config card now (config.setProfiles card now titleId mhz true) := by
  unfold Config.setProfiles
  cases put : card.put now (Config.titleSection titleId) (Config.profilePairs mhz) with
  | none => exact .failed
  | some written => exact .stamped (put_stamps put).1 rfl (put_stamps put).2

theorem setConfigValues_answered (config : Config) (card : Card) (now : Stamp)
    (values : ConfigValue → Nat) :
    Answered config card now (config.setConfigValues card now values true) := by
  unfold Config.setConfigValues
  cases put : card.put now configValSection (Config.valuePairs values) with
  | none => exact .failed
  | some written => exact .stamped (put_stamps put).1 rfl (put_stamps put).2

variable {world : UpdateWorld}

theorem Kept.answered (kept : world.Kept) (call : Config → Card → Stamp → Bool × Config × Card)
    (answered : Answered world.config world.card world.now
      (call world.config world.card world.now))
    (noticed : world.config.loaded = true → world.card.writable = true →
      world.waiting = none ∧ world.now.seconds ≠ world.config.mtime) :
    (world.request call).Kept := by
  unfold UpdateWorld.request
  split
  · rename_i loaded
    generalize call world.config world.card world.now = after at answered
    cases answered with
    | failed => simpa using kept
    | stamped writable mtime modified =>
        obtain ⟨alone, later⟩ := noticed loaded writable
        have changed : _ ≠ _ := later.symm
        rw [← mtime, ← modified] at changed
        exact
          { returned := fun _ => changed
            behind := fun behind => by simp [alone] at behind
            alone := fun waits => absurd alone waits
            kept := kept.kept }
  · exact kept

theorem Kept.apply (kept : world.Kept) (step : UpdateStep) (noticed : world.Noticed step) :
    (world.apply step).Kept := by
  cases step with
  | elapse seconds => exact { kept with }
  | setProfiles titleId mhz =>
      refine kept.answered (fun config card now => config.setProfiles card now titleId mhz true) ?_
        noticed
      exact setProfiles_answered _ _ _ titleId mhz
  | setConfigValues values =>
      refine kept.answered (fun config card now => config.setConfigValues card now values true) ?_
        noticed
      exact setConfigValues_answered _ _ _ values
  | beginTick contextChanged =>
      simp only [UpdateWorld.apply]
      cases waiting : world.waiting with
      | some behind => exact kept
      | none =>
          refine { returned := ?_, behind := ?_, alone := fun _ => rfl, kept := kept.kept }
          · intro returned
            contradiction
          · intro behind
            cases contextChanged with
            | true => contradiction
            | false => exact kept.returned (Option.some.inj behind)
  | refresh =>
      simp only [UpdateWorld.apply]
      cases waiting : world.waiting with
      | none => exact kept
      | some behind =>
          have quiet : world.returned = false := kept.alone (by simp [waiting])
          refine { returned := ?_, behind := ?_, alone := ?_, kept := ?_ }
          · intro returned
            rw [quiet] at returned
            contradiction
          · intro behind
            contradiction
          · intro waits
            exact absurd rfl waits
          · cases behind with
            | false => simp [kept.kept]
            | true =>
                have written : world.config.mtime ≠ world.card.configFile.modified :=
                  kept.behind waiting
                simp [kept.kept, Config.refresh, written]

theorem start_kept (config : Config) (card : Card) (now : Stamp) : (start config card now).Kept where
  returned := fun returned => nomatch returned
  behind := fun behind => nomatch behind
  alone := fun _ => rfl
  kept := rfl

/-- A tick that nothing falls into takes the two steps at once: it loses what was requested
exactly if it decides against `SetClocks`. -/
theorem run_tick (state : Sys) (changed : Bool) (idle : world.waiting = none)
    (config : world.config = state.setting.config)
    (file : world.card.configFile = state.setting.services.configFile) :
    let after := run UpdateWorld.apply world [.beginTick changed, .refresh]
    after.config = (state.afterConfig changed).2.setting.config ∧ after.waiting = none ∧
      after.lost = (world.lost || (world.returned && !(state.afterConfig changed).1)) := by
  intro after
  have ran : after = (world.apply (.beginTick changed)).apply .refresh := rfl
  cases changed with
  | true =>
      simp only [UpdateWorld.apply, idle, if_true] at ran
      rw [ran]
      exact ⟨config, rfl, by simp [Sys.afterConfig]⟩
  | false =>
      simp only [UpdateWorld.apply, idle, Bool.false_eq_true, if_false] at ran
      rw [ran]
      exact ⟨by simp [Sys.afterConfig, config, file], rfl,
        by simp [Sys.afterConfig, config, file]⟩

end UpdateWorld

/-- No update is lost in a run in which each request that succeeds finds no tick on its way to the
file, and falls into another second than the one that the file had when it was loaded. -/
theorem updates_noticed (config : Config) (card : Card) (now : Stamp) (steps : List UpdateStep)
    (noticed : Guarded UpdateWorld.apply UpdateWorld.Noticed (.start config card now) steps) :
    Always UpdateWorld.apply (fun world => world.lost = false) (.start config card now) steps := by
  have always := always_of_guarded (UpdateWorld.start_kept config card now)
    (fun step _ world kept noticed => kept.apply step noticed) noticed
  exact always.mono fun world kept => kept.kept

/-- A console without an INI file. -/
def emptyCard : Card := { file := none, writable := true }

def unwritten : UpdateWorld :=
  .start (Config.initial.load emptyCard.configFile) emptyCard ⟨7, Nat.succ_pos 6⟩

def handheldCpu : Profile → Module → Nat
  | .handheld, .cpu => 1785
  | _, _ => 0

/-- A file that is written again in the second in which it was loaded. -/
theorem update_lost_within_second :
    ¬Always UpdateWorld.apply (fun world => world.lost = false) unwritten
      [.setConfigValues hocclkDefaultConfigValue, .beginTick false, .refresh,
        .setProfiles 1 handheldCpu, .beginTick false, .refresh] := by
  intro always
  have lost : (run UpdateWorld.apply unwritten
      [.setConfigValues hocclkDefaultConfigValue, .beginTick false, .refresh,
        .setProfiles 1 handheldCpu, .beginTick false, .refresh]).lost = true := by decide +kernel
  rw [always.last] at lost
  contradiction

/-- The same requests, the second of them a second later. -/
theorem updates_noticed_seconds_apart :
    Always UpdateWorld.apply (fun world => world.lost = false) unwritten
      [.setConfigValues hocclkDefaultConfigValue, .beginTick false, .refresh, .elapse 1,
        .setProfiles 1 handheldCpu, .beginTick false, .refresh] := by
  refine updates_noticed _ _ _ _ ⟨?_, trivial, trivial, trivial, ?_, trivial, trivial, trivial⟩
  · intro _ _
    exact ⟨rfl, by decide⟩
  · intro _ _
    exact ⟨rfl, by decide +kernel⟩

end HorizonOc.Sysmodule
