import HorizonOc.Sysmodule.Board

namespace HorizonOc.Sysmodule

open HorizonOc.Data

def isAssignableHz (module : Module) (hz : Nat) : Bool :=
  match module with
  | .cpu => 500000000 ≤ hz
  | .mem => 665600000 ≤ hz
  | _ => true

/-- `~0` as a `u32`. -/
def unlimitedHz : Nat := 2 ^ 32 - 1

def getMaxAllowedHz (setting : Setting) (module : Module) (profile : Profile) : Nat :=
  if setting.value .uncappedClocks ≠ 0 then unlimitedHz
  else
    match module with
    | .gpu =>
        if profile.toNat < Profile.handheldCharging.toNat then
          match setting.board.socType with
          | .erista => 460800000
          | .mariko =>
              match setting.value .marikoGpuUV with
              | 0 => 614400000
              | 1 => 691200000
              | 2 => 768000000
              | _ => 614400000
        else if profile.toNat ≤ Profile.handheldChargingUSB.toNat then
          match setting.board.socType with
          | .erista => 768000000
          | .mariko =>
              match setting.value .marikoGpuUV with
              | 0 => 844800000
              | 1 => 921600000
              | 2 => 998400000
              | _ => 844800000
        else 0
    | .cpu =>
        if profile.toNat < Profile.handheldCharging.toNat ∧ setting.board.socType = .erista then
          1581000000
        else unlimitedHz
    | .mem | .governor | .display => 0

/-- The loop of `GetNearestHz`.  An empty row has no entry to return. -/
def nearestHzIn (inHz maxHz : Nat) : List Nat → Option Nat
  | [] => none
  | [hz] => some hz
  | hz :: next :: rest =>
      if 0 < maxHz ∧ maxHz ≤ hz then some hz
      else if inHz ≤ (hz + next) / 2 then some hz
      else nearestHzIn inHz maxHz (next :: rest)

/-- In an ascending table the entries below the one that is picked are below the rate asked for. -/
theorem nearestHzIn_spec {inHz maxHz hz : Nat} {table : List Nat}
    (ascending : table.Pairwise (· < ·)) (found : nearestHzIn inHz maxHz table = some hz) :
    hz ∈ table ∧ ∀ entry ∈ table, entry < hz → entry < inHz := by
  induction table with
  | nil => contradiction
  | cons first rest ih =>
      obtain ⟨above, restAscending⟩ := List.pairwise_cons.mp ascending
      have picksFirst : first ∈ first :: rest ∧
          ∀ entry ∈ first :: rest, entry < first → entry < inHz := by
        refine ⟨List.mem_cons_self, fun entry member below => ?_⟩
        rcases List.mem_cons.mp member with rfl | later
        · omega
        · have := above entry later
          omega
      cases rest with
      | nil =>
          cases found
          exact picksFirst
      | cons next more =>
          simp only [nearestHzIn] at found
          split at found
          · cases found
            exact picksFirst
          · split at found
            · cases found
              exact picksFirst
            · rename_i past
              obtain ⟨member, below⟩ := ih restAscending found
              refine ⟨List.mem_cons_of_mem _ member, fun entry isEntry less => ?_⟩
              rcases List.mem_cons.mp isEntry with rfl | later
              · have := above next List.mem_cons_self
                omega
              · exact below entry later less

def getNearestHz (setting : Setting) (module : Module) (inHz maxHz : Nat) : Option Nat :=
  nearestHzIn inHz maxHz (setting.gFreqTable module)

def globalProfileId : Nat := 0xA111111111111111

/-- `ResolveTargetHz`: the override, else the profile of the application, else the global one. -/
def resolveTargetHz (setting : Setting) (module : Module) (returnRaw : Bool) : Nat :=
  let overrideHz := setting.overrideFreqs module
  if overrideHz ≠ 0 then overrideHz
  else
    let applicationHz :=
      setting.config.getAutoClockHz setting.applicationId module setting.profile returnRaw
    if applicationHz ≠ 0 then applicationHz
    else setting.config.getAutoClockHz globalProfileId module setting.profile returnRaw

/-- The entry that `GetNearestHz` picks for a target under the cap of the profile. -/
def nearestAllowedHz (setting : Setting) (module : Module) (targetHz : Nat) : Option Nat :=
  getNearestHz setting module targetHz (getMaxAllowedHz setting module setting.profile)

def usesHijack (setting : Setting) : Bool :=
  setting.board.socType = .mariko && setting.value .dvfsMode = dvfsModeHijack

end HorizonOc.Sysmodule
