import Mathlib.Logic.Function.Iterate
import HorizonOc.Secmon.RegisterAccess

namespace HorizonOc.Secmon

/-! `secmon_smc_handler.cpp`: which handler a call reaches.  The handlers themselves, the firmware and
the mask of what is restricted come from outside. -/

/-- The handlers under their names. -/
inductive SmcHandler where
  | setConfig | getConfigUser | getResult | getResultData | modularExponentiate
  | generateRandomBytes | generateAesKek | loadAesKey | computeAes | generateSpecificAesKey
  | computeCmac | reencryptDeviceUniqueData | decryptDeviceUniqueData
  | modularExponentiateByStorageKey | prepareEsDeviceUniqueKey | loadPreparedAesKey
  | prepareEsCommonTitleKey | decryptAndImportEsDeviceKey | decryptAndImportLotusKey
  | suspendCpu | powerOffCpu | powerOnCpu | getConfigKern | generateRandomBytesNonBlocking
  | showError | setKernelCarveoutRegion | readWriteRegister | iramCopy | writeAddress
  | getEmummcConfig | getSecureData
deriving DecidableEq, Repr

structure HandlerInfo where
  functionId : BitVec 32
  restrictionMask : BitVec 32
  handler : Option SmcHandler
deriving DecidableEq, Repr

/-- The flags of `Restriction`. -/
def restrictionNone : BitVec 32 := 0
def restrictionNormal : BitVec 32 := 1 <<< 0
def restrictionDeviceUniqueDataNotAllowed : BitVec 32 := 1 <<< 1
def restrictionSafeModeNotAllowed : BitVec 32 := 1 <<< 2

def userHandlers : List HandlerInfo :=
  [⟨0x00000000, restrictionSafeModeNotAllowed, none⟩,
   ⟨0xC3000401, restrictionSafeModeNotAllowed, some .setConfig⟩,
   ⟨0xC3000002, restrictionNormal, some .getConfigUser⟩,
   ⟨0xC3000003, restrictionNormal, some .getResult⟩,
   ⟨0xC3000404, restrictionNormal, some .getResultData⟩,
   ⟨0xC3000E05, restrictionSafeModeNotAllowed, some .modularExponentiate⟩,
   ⟨0xC3000006, restrictionNormal, some .generateRandomBytes⟩,
   ⟨0xC3000007, restrictionNormal, some .generateAesKek⟩,
   ⟨0xC3000008, restrictionNormal, some .loadAesKey⟩,
   ⟨0xC3000009, restrictionNormal, some .computeAes⟩,
   ⟨0xC300000A, restrictionNormal, some .generateSpecificAesKey⟩,
   ⟨0xC300040B, restrictionNormal, some .computeCmac⟩,
   ⟨0xC300D60C, restrictionNormal, some .reencryptDeviceUniqueData⟩,
   ⟨0xC300100D, restrictionDeviceUniqueDataNotAllowed, some .decryptDeviceUniqueData⟩,
   ⟨0xC300000E, restrictionSafeModeNotAllowed, none⟩,
   ⟨0xC300060F, restrictionDeviceUniqueDataNotAllowed, some .modularExponentiateByStorageKey⟩,
   ⟨0xC3000610, restrictionSafeModeNotAllowed, some .prepareEsDeviceUniqueKey⟩,
   ⟨0xC3000011, restrictionSafeModeNotAllowed, some .loadPreparedAesKey⟩,
   ⟨0xC3000012, restrictionSafeModeNotAllowed, some .prepareEsCommonTitleKey⟩]

def decryptAndImportEsDeviceKeyHandlerInfo : HandlerInfo :=
  ⟨0xC300100C, restrictionNormal, some .decryptAndImportEsDeviceKey⟩

def decryptAndImportLotusKeyHandlerInfo : HandlerInfo :=
  ⟨0xC300100E, restrictionSafeModeNotAllowed, some .decryptAndImportLotusKey⟩

def kernHandlers : List HandlerInfo :=
  [⟨0x00000000, restrictionSafeModeNotAllowed, none⟩,
   ⟨0xC4000001, restrictionSafeModeNotAllowed, some .suspendCpu⟩,
   ⟨0x84000002, restrictionSafeModeNotAllowed, some .powerOffCpu⟩,
   ⟨0xC4000003, restrictionSafeModeNotAllowed, some .powerOnCpu⟩,
   ⟨0xC3000004, restrictionNormal, some .getConfigKern⟩,
   ⟨0xC3000005, restrictionNormal, some .generateRandomBytesNonBlocking⟩,
   ⟨0xC3000006, restrictionNormal, some .showError⟩,
   ⟨0xC3000007, restrictionNormal, some .setKernelCarveoutRegion⟩,
   ⟨0xC3000008, restrictionNormal, some .readWriteRegister⟩,
   ⟨0xC3000409, restrictionNormal, some .setConfig⟩]

def amsHandlers : List HandlerInfo :=
  [⟨0x00000000, restrictionSafeModeNotAllowed, none⟩,
   ⟨0xF0000201, restrictionNone, some .iramCopy⟩,
   ⟨0xF0000002, restrictionNone, some .readWriteRegister⟩,
   ⟨0xF0000003, restrictionNone, some .writeAddress⟩,
   ⟨0xF0000404, restrictionNone, some .getEmummcConfig⟩,
   ⟨0xF0000005, restrictionNone, some .showError⟩]

def getSecureDataHandlerInfo : HandlerInfo :=
  ⟨0x67891234, restrictionNone, some .getSecureData⟩

/-- What is known of the target firmware. -/
structure TargetFirmware where
  /-- Older than 5.0.0. -/
  deprecated : Bool
  /-- 8.0.0 or newer. -/
  restricts : Bool
deriving DecidableEq, Repr

/-- `ConfigureSmcHandlersForTargetFirmware`, on `g_user_handlers`. -/
def configureSmcHandlersForTargetFirmware (target : TargetFirmware) (user : List HandlerInfo) :
    List HandlerInfo :=
  if target.deprecated then
    (user.set (decryptAndImportEsDeviceKeyHandlerInfo.functionId &&& 0xFF).toNat
      decryptAndImportEsDeviceKeyHandlerInfo).set
        (decryptAndImportLotusKeyHandlerInfo.functionId &&& 0xFF).toNat
        decryptAndImportLotusKeyHandlerInfo
  else user

/-- Fields of `SmcFunctionId`. -/
def functionIdField (id : BitVec 64) : Nat := (id.extractLsb' 0 8).toNat
def callRangeField (id : BitVec 64) : Nat := (id.extractLsb' 24 6).toNat
def smcCallRangeTrustedApp : Nat := 0x30

/-- `GetHandlerTable`; none is an invalid SMC. -/
def getHandlerTable (user : List HandlerInfo) (core : Nat) (type : Int) (id : BitVec 64) :
    Option (List HandlerInfo) :=
  if ¬(0 ≤ type ∧ type < 2) then none
  else if id = getSecureDataHandlerInfo.functionId.setWidth 64 then some user
  else if type = 0 then
    if callRangeField id = smcCallRangeTrustedApp then some amsHandlers
    else if core ≠ 3 then none
    else some user
  else some kernHandlers

def getHandlerInfo (table : List HandlerInfo) (id : BitVec 64) : Option HandlerInfo :=
  if id = getSecureDataHandlerInfo.functionId.setWidth 64 then some getSecureDataHandlerInfo
  else
    match table[functionIdField id]? with
    | none => none
    | some info =>
        if info.handler = none then none
        else if info.functionId.setWidth 64 ≠ id then none
        else some info

/-- What the calls do, and what they answer if they are not permitted. -/
structure Handlers (State Result : Type) where
  run : SmcHandler → SmcArguments → State → Result × SmcArguments × State
  notPermitted : Result
  code : Result → BitVec 64

section

variable {State Result : Type}

def isHandlerRestricted (restrictedSmcMask : BitVec 32) (info : HandlerInfo) : Bool :=
  info.restrictionMask &&& restrictedSmcMask ≠ 0

def invokeSmcHandler (handlers : Handlers State Result) (target : TargetFirmware)
    (restrictedSmcMask : BitVec 32) (info : HandlerInfo) (args : SmcArguments) (state : State) :
    Option (Result × SmcArguments × State) :=
  if target.restricts ∧ isHandlerRestricted restrictedSmcMask info then
    some (handlers.notPermitted, args, state)
  else info.handler.map fun handler => handlers.run handler args state

/-- `HandleSmc`; none is an invalid SMC, which does not return. -/
def handleSmc (handlers : Handlers State Result) (target : TargetFirmware)
    (restrictedSmcMask : BitVec 32) (user : List HandlerInfo) (core : Nat) (type : Int)
    (args : SmcArguments) (state : State) : Option (SmcArguments × State) := do
  let table ← getHandlerTable user core type args.r0
  let info ← getHandlerInfo table args.r0
  let (result, args, state) ← invokeSmcHandler handlers target restrictedSmcMask info args state
  some ({ args with r0 := handlers.code result }, state)

end

/-- What a caller may reach: the extensions from every core, the others of a user from the third. -/
def offered (user : List HandlerInfo) (core : Nat) (type : Int) : List HandlerInfo :=
  if 0 ≤ type ∧ type < 2 then
    getSecureDataHandlerInfo ::
      (if type = 0 then amsHandlers ++ if core = 3 then user else [] else kernHandlers).filter
        fun info => info.handler ≠ none
  else []

/-- Every handler is where the lowest byte of its number says, and none is the one of its own. -/
structure Indexed (table : List HandlerInfo) : Prop where
  index : table.map (fun info => info.functionId.toNat % 256) = List.range table.length
  other : ∀ info ∈ table, info.functionId ≠ getSecureDataHandlerInfo.functionId

/-- The numbers are in the range of the extensions, or all are outside of it. -/
def InRange (extension : Bool) (table : List HandlerInfo) : Prop :=
  ∀ info ∈ table, info.handler ≠ none →
    decide (callRangeField (info.functionId.setWidth 64) = smcCallRangeTrustedApp) = extension

instance (extension : Bool) (table : List HandlerInfo) : Decidable (InRange extension table) :=
  inferInstanceAs (Decidable (∀ info ∈ table, _))

theorem Indexed.at {table : List HandlerInfo} (indexed : Indexed table) {index : Nat}
    {info : HandlerInfo} (found : table[index]? = some info) :
    info.functionId.toNat % 256 = index := by
  obtain ⟨inside, -⟩ := List.getElem?_eq_some_iff.mp found
  have number := congrArg (·[index]?) indexed.index
  simp only [List.getElem?_map, found, Option.map_some, List.getElem?_range inside] at number
  exact Option.some.inj number

theorem functionIdField_toNat (id : BitVec 64) : functionIdField id = id.toNat % 256 := by
  rw [functionIdField, BitVec.extractLsb'_toNat, Nat.shiftRight_zero]

theorem functionId_setWidth_inj {first second : BitVec 32}
    (same : first.setWidth 64 = second.setWidth 64) : first = second := by
  have numbers := congrArg BitVec.toNat same
  rw [BitVec.toNat_setWidth, BitVec.toNat_setWidth] at numbers
  have firstSmall := first.isLt
  have secondSmall := second.isLt
  exact BitVec.eq_of_toNat_eq (by omega)

section

variable {table user : List HandlerInfo} {info : HandlerInfo} {id : BitVec 64} {core : Nat} {type : Int}

/-- A table finds the handler with a number at its index. -/
theorem getHandlerInfo_eq_some_iff (indexed : Indexed table)
    (ordinary : id ≠ getSecureDataHandlerInfo.functionId.setWidth 64) :
    getHandlerInfo table id = some info ↔
      (info ∈ table ∧ info.handler ≠ none) ∧ info.functionId.setWidth 64 = id := by
  rw [getHandlerInfo, if_neg ordinary]
  constructor
  · intro found
    split at found
    · contradiction
    · next entry atIndex =>
        split at found
        · contradiction
        · next present =>
            split at found
            · contradiction
            · next same =>
                obtain rfl := Option.some.inj found
                exact ⟨⟨List.mem_of_getElem? atIndex, present⟩, Classical.not_not.mp same⟩
  · rintro ⟨⟨member, present⟩, rfl⟩
    obtain ⟨index, atIndex⟩ := List.mem_iff_getElem?.mp member
    have low := indexed.at atIndex
    have small := info.functionId.isLt
    have field : functionIdField (info.functionId.setWidth 64) = index := by
      rw [functionIdField_toNat, BitVec.toNat_setWidth]
      omega
    rw [field, atIndex]
    simp [present]

theorem amsHandlers_indexed : Indexed amsHandlers := ⟨by decide, by decide⟩

theorem kernHandlers_indexed : Indexed kernHandlers := ⟨by decide, by decide⟩

theorem amsHandlers_inRange : InRange true amsHandlers := by decide

/-- No other handler has the number of the one without a table. -/
theorem offered_other (indexed : Indexed user) (member : info ∈ offered user core type)
    (same : info.functionId = getSecureDataHandlerInfo.functionId) :
    info = getSecureDataHandlerInfo := by
  unfold offered at member
  split at member
  · rcases List.mem_cons.mp member with rfl | rest
    · rfl
    · have inTable := (List.mem_filter.mp rest).1
      split at inTable
      · rcases List.mem_append.mp inTable with ams | ofUser
        · exact absurd same (amsHandlers_indexed.other info ams)
        · split at ofUser
          · exact absurd same (indexed.other info ofUser)
          · contradiction
      · exact absurd same (kernHandlers_indexed.other info inTable)
  · contradiction

theorem offered_handler (member : info ∈ offered user core type) :
    ∃ handler, info.handler = some handler := by
  unfold offered at member
  split at member
  · rcases List.mem_cons.mp member with rfl | rest
    · exact ⟨.getSecureData, rfl⟩
    · exact Option.ne_none_iff_exists'.mp (of_decide_eq_true (List.mem_filter.mp rest).2)
  · contradiction

/-- The handler that a call reaches is the offered one with its number. -/
theorem dispatch_eq_some_iff (id : BitVec 64) (core : Nat) (type : Int) (info : HandlerInfo)
    (indexed : Indexed user) (ranged : InRange false user) :
    (getHandlerTable user core type id).bind (getHandlerInfo · id) = some info ↔
      info ∈ offered user core type ∧ info.functionId.setWidth 64 = id := by
  by_cases known : 0 ≤ type ∧ type < 2
  swap
  · rw [getHandlerTable, if_pos known, offered, if_neg known]
    simp
  by_cases secure : id = getSecureDataHandlerInfo.functionId.setWidth 64
  · rw [getHandlerTable, if_neg (Classical.not_not.mpr known), if_pos secure, Option.bind_some,
      getHandlerInfo, if_pos secure, Option.some.injEq, secure]
    constructor
    · rintro rfl
      rw [offered, if_pos known]
      exact ⟨List.mem_cons_self, rfl⟩
    · rintro ⟨member, same⟩
      exact (offered_other indexed member (functionId_setWidth_inj same)).symm
  · have secureNot : info = getSecureDataHandlerInfo → info.functionId.setWidth 64 ≠ id := by
      rintro rfl same
      exact secure same.symm
    have offers : (info ∈ offered user core type ∧ info.functionId.setWidth 64 = id) ↔
        (info ∈ (if type = 0 then amsHandlers ++ if core = 3 then user else [] else kernHandlers) ∧
          info.handler ≠ none) ∧ info.functionId.setWidth 64 = id := by
      rw [offered, if_pos known, List.mem_cons, List.mem_filter, decide_eq_true_iff]
      constructor
      · rintro ⟨ofSecure | rest, same⟩
        · exact absurd same (secureNot ofSecure)
        · exact ⟨rest, same⟩
      · rintro ⟨rest, same⟩
        exact ⟨.inr rest, same⟩
    rw [offers, getHandlerTable, if_neg (Classical.not_not.mpr known), if_neg secure]
    by_cases isUser : type = 0
    · simp only [isUser, if_true]
      by_cases extension : callRangeField id = smcCallRangeTrustedApp
      · rw [if_pos extension, Option.bind_some,
          getHandlerInfo_eq_some_iff amsHandlers_indexed secure, List.mem_append]
        constructor
        · rintro ⟨⟨ams, present⟩, same⟩
          exact ⟨⟨.inl ams, present⟩, same⟩
        · rintro ⟨⟨ams | ofUser, present⟩, same⟩
          · exact ⟨⟨ams, present⟩, same⟩
          · have member := (List.mem_ite_nil_right.mp ofUser).2
            have outside := ranged info member present
            rw [same, decide_eq_true extension] at outside
            contradiction
      · rw [if_neg extension, List.mem_append, List.mem_ite_nil_right]
        have notAms (ams : info ∈ amsHandlers) (present : info.handler ≠ none) :
            info.functionId.setWidth 64 ≠ id := by
          intro same
          have inside := amsHandlers_inRange info ams present
          rw [same, decide_eq_false extension] at inside
          contradiction
        by_cases third : core = 3
        · rw [if_neg (Classical.not_not.mpr third), Option.bind_some,
            getHandlerInfo_eq_some_iff indexed secure]
          constructor
          · rintro ⟨⟨ofUser, present⟩, same⟩
            exact ⟨⟨.inr ⟨third, ofUser⟩, present⟩, same⟩
          · rintro ⟨⟨ams | ofUser, present⟩, same⟩
            · exact absurd same (notAms ams present)
            · exact ⟨⟨ofUser.2, present⟩, same⟩
        · rw [if_pos third, Option.bind_none]
          constructor
          · intro impossible
            contradiction
          · rintro ⟨⟨ams | ofUser, present⟩, same⟩
            · exact absurd same (notAms ams present)
            · exact absurd ofUser.1 third
    · rw [if_neg isUser, if_neg isUser, Option.bind_some,
        getHandlerInfo_eq_some_iff kernHandlers_indexed secure]

theorem range_set_self (count place : Nat) :
    (List.range count).set place place = List.range count := by
  refine List.ext_getElem? fun index => ?_
  rw [List.getElem?_set]
  split
  · next same =>
      subst same
      by_cases inside : place < count
      · rw [List.length_range, if_pos inside, List.getElem?_range inside]
      · rw [List.length_range, if_neg inside, List.getElem?_eq_none (by simpa using inside)]
  · rfl

/-- An entry that is put where its number says. -/
theorem set_indexed {extension : Bool} (entry : HandlerInfo) (indexed : Indexed table)
    (ranged : InRange extension table)
    (other : entry.functionId ≠ getSecureDataHandlerInfo.functionId)
    (inRange : InRange extension [entry]) :
    Indexed (table.set (entry.functionId &&& 0xFF).toNat entry) ∧
      InRange extension (table.set (entry.functionId &&& 0xFF).toNat entry) := by
  have place : (entry.functionId &&& 0xFF).toNat = entry.functionId.toNat % 256 := by
    rw [BitVec.toNat_and]
    exact Nat.and_two_pow_sub_one_eq_mod _ 8
  rw [place]
  refine ⟨⟨?_, ?_⟩, ?_⟩
  · rw [List.map_set, indexed.index, List.length_set, range_set_self]
  · intro info member
    rcases List.mem_or_eq_of_mem_set member with before | rfl
    · exact indexed.other info before
    · exact other
  · intro info member
    rcases List.mem_or_eq_of_mem_set member with before | rfl
    · exact ranged info before
    · exact inRange info List.mem_cons_self

/-- The handlers for old firmware take the places that their numbers give them. -/
theorem configureSmcHandlers_keeps (target : TargetFirmware)
    (keeps : Indexed user ∧ InRange false user) :
    Indexed (configureSmcHandlersForTargetFirmware target user) ∧
      InRange false (configureSmcHandlersForTargetFirmware target user) := by
  unfold configureSmcHandlersForTargetFirmware
  split
  · have first := set_indexed decryptAndImportEsDeviceKeyHandlerInfo keeps.1 keeps.2 (by decide)
      (by decide)
    exact set_indexed _ first.1 first.2 (by decide) (by decide)
  · exact keeps

theorem userHandlers_keeps : Indexed userHandlers ∧ InRange false userHandlers :=
  ⟨⟨by decide, by decide⟩, by decide⟩

/-- The table of the user after it was configured any number of times. -/
def configuredHandlers (target : TargetFirmware) (times : Nat) : List HandlerInfo :=
  (configureSmcHandlersForTargetFirmware target)^[times] userHandlers

theorem configuredHandlers_keeps (target : TargetFirmware) (times : Nat) :
    Indexed (configuredHandlers target times) ∧ InRange false (configuredHandlers target times) := by
  induction times with
  | zero => exact userHandlers_keeps
  | succ times ih =>
      rw [configuredHandlers, Function.iterate_succ_apply']
      exact configureSmcHandlers_keeps target ih

end

section

variable {State Result : Type}

/-- What an offered handler answers. -/
def answer (handlers : Handlers State Result) (refused : Bool) (handler : SmcHandler)
    (args : SmcArguments) (state : State) : SmcArguments × State :=
  if refused then ({ args with r0 := handlers.code handlers.notPermitted }, state)
  else
    let after := handlers.run handler args state
    ({ after.2.1 with r0 := handlers.code after.1 }, after.2.2)

/-- Whatever the number of a call, a call that is none of the offered ones is invalid, and one that
is offered runs the handler with its number, unless the firmware restricts it. -/
theorem handle_smc_exact (handlers : Handlers State Result) (target : TargetFirmware)
    (restrictedSmcMask : BitVec 32) (times core : Nat) (type : Int) (args : SmcArguments)
    (state : State) :
    (handleSmc handlers target restrictedSmcMask (configuredHandlers target times) core type args
        state = none ↔
      ∀ info ∈ offered (configuredHandlers target times) core type,
        info.functionId.setWidth 64 ≠ args.r0) ∧
    ∀ info ∈ offered (configuredHandlers target times) core type,
      info.functionId.setWidth 64 = args.r0 →
        ∃ handler, info.handler = some handler ∧
          handleSmc handlers target restrictedSmcMask (configuredHandlers target times) core type
              args state =
            some (answer handlers
              (target.restricts && isHandlerRestricted restrictedSmcMask info) handler args state) := by
  obtain ⟨indexed, ranged⟩ := configuredHandlers_keeps target times
  generalize configuredHandlers target times = user at indexed ranged ⊢
  have dispatch (info : HandlerInfo) :=
    dispatch_eq_some_iff args.r0 core type info indexed ranged
  have called : handleSmc handlers target restrictedSmcMask user core type args state =
      ((getHandlerTable user core type args.r0).bind (getHandlerInfo · args.r0)).bind fun info =>
        (invokeSmcHandler handlers target restrictedSmcMask info args state).map fun after =>
          ({ after.2.1 with r0 := handlers.code after.1 }, after.2.2) := by
    rw [Option.bind_assoc, handleSmc]
    refine Option.bind_congr fun table _ => Option.bind_congr fun info _ => ?_
    cases invokeSmcHandler handlers target restrictedSmcMask info args state <;> rfl
  have reached : ∀ info ∈ offered user core type, info.functionId.setWidth 64 = args.r0 →
      ∃ handler, info.handler = some handler ∧
        handleSmc handlers target restrictedSmcMask user core type args state =
          some (answer handlers
            (target.restricts && isHandlerRestricted restrictedSmcMask info) handler args state) := by
    intro info member same
    obtain ⟨handler, present⟩ := offered_handler member
    refine ⟨handler, present, ?_⟩
    rw [called, (dispatch info).mpr ⟨member, same⟩, Option.bind_some, invokeSmcHandler, answer]
    cases restricted : target.restricts && isHandlerRestricted restrictedSmcMask info with
    | true =>
        rw [Bool.and_eq_true] at restricted
        rw [if_pos restricted]
        rfl
    | false =>
        have permitted : ¬(target.restricts = true ∧
            isHandlerRestricted restrictedSmcMask info = true) := by
          rw [← Bool.and_eq_true, restricted]
          exact Bool.false_ne_true
        rw [if_neg permitted, present]
        rfl
  refine ⟨⟨fun invalid info member same => ?_, fun unknown => ?_⟩, reached⟩
  · obtain ⟨handler, -, valid⟩ := reached info member same
    rw [invalid] at valid
    contradiction
  · rw [called, Option.bind_eq_none_iff]
    intro info found
    obtain ⟨member, same⟩ := (dispatch info).mp found
    exact absurd same (unknown info member)

end

end HorizonOc.Secmon
