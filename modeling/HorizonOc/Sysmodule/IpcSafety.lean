import HorizonOc.Sysmodule.ConfigAgreement
import HorizonOc.Sysmodule.IpcClient

namespace HorizonOc.Sysmodule

open HorizonOc.Data

def ipcServerExtResponseMaxDataSize : Nat := 0x100 - 0x10 - rawHeaderSize

/-- Nothing is written outside of the first buffer and of `out_data`, and a success sends no byte of
`out_data` that was not written. -/
structure HandlerReply.Within (reply : HandlerReply) (recvBuffers : List Nat) : Prop where
  recv : reply.recv.length ≤ recvBuffers.headD 0
  data : reply.data.length ≤ reply.dataSize
  written : reply.rc = 0 → reply.data.length = reply.dataSize
  room : reply.dataSize ≤ ipcServerExtResponseMaxDataSize

/-- The changes that a request can make. -/
inductive IpcService.Changed (service : IpcService) (now : Stamp) : IpcService → Prop where
  | exit : Changed service now { service with running := false }
  | enabled (enabled : Bool) : Changed service now { service with enabled }
  | overridden (module : Module) {hz : Nat} (word : hz < 2 ^ 32) :
      Changed service now { service with
        config := { service.config with
          overrideFreqs := Function.update service.config.overrideFreqs module hz } }
  | profiles (tid : Nat) {mhz : Profile → Module → Nat} (words : ∀ profile module, mhz profile module < 2 ^ 32)
      (saved : (service.config.setProfiles service.card now tid mhz true).1 = true) :
      Changed service now { service with
        config := (service.config.setProfiles service.card now tid mhz true).2.1
        card := (service.config.setProfiles service.card now tid mhz true).2.2 }
  | configValues {values : ConfigValue → Nat} (words : ∀ kval, values kval < 2 ^ 64)
      (saved : (service.config.toConfig.setConfigValues service.card now values true).1 = true) :
      Changed service now { service with
        config := { service.config with
          toConfig := (service.config.toConfig.setConfigValues service.card now values true).2.1 }
        card := (service.config.toConfig.setConfigValues service.card now values true).2.2 }
  | kipData : Changed service now (service.setKipData now)

/-- The handler has an outcome, and only a success changes the service. -/
def Handles (service : IpcService) (now : Stamp) (request : IpcServerRequest)
    (handled : Option (HandlerReply × IpcService)) : Prop :=
  ∃ reply after, handled = some (reply, after) ∧ reply.Within request.recvBuffers ∧
    (after = service ∨ (reply.rc = 0 ∧ service.Changed now after))

section

variable {service : IpcService} {now : Stamp} {request : IpcServerRequest}

theorem within_plain (rc : Result) (recvBuffers : List Nat) :
    (HandlerReply.plain rc).Within recvBuffers :=
  { recv := Nat.zero_le _, data := Nat.le_refl 0, written := fun _ => rfl, room := Nat.zero_le _ }

theorem handles_refuse : Handles service now request service.refuse :=
  ⟨_, service, rfl, within_plain hocclkGeneric _, .inl rfl⟩

theorem handles_withData {size : Nat} {handler : Option (HandlerReply × IpcService)}
    (handles : size ≤ request.data.length → Handles service now request handler) :
    Handles service now request (service.withData request size handler) := by
  unfold IpcService.withData
  split
  · exact handles_refuse
  · next enough => exact handles (Nat.le_of_not_lt enough)

theorem handles_withRecvBuffer {size : Nat} {handler : Nat → Option (HandlerReply × IpcService)}
    (handles : ∀ bufSize, request.recvBuffers.headD 0 = bufSize → size ≤ bufSize →
      Handles service now request (handler bufSize)) :
    Handles service now request (service.withRecvBuffer request size handler) := by
  unfold IpcService.withRecvBuffer
  cases buffers : request.recvBuffers with
  | nil => exact handles_refuse
  | cons bufSize rest =>
      dsimp only
      split
      · exact handles_refuse
      · next enough => exact handles bufSize (by rw [buffers]; rfl) (Nat.le_of_not_lt enough)

theorem handles_withSendBuffer {size : Nat}
    {handler : List Byte → Option (HandlerReply × IpcService)}
    (handles : ∀ buffer, size ≤ buffer.length → Handles service now request (handler buffer)) :
    Handles service now request (service.withSendBuffer request size handler) := by
  unfold IpcService.withSendBuffer
  cases request.sendBuffers with
  | nil => exact handles_refuse
  | cons buffer rest =>
      dsimp only
      split
      · exact handles_refuse
      · next enough => exact handles buffer (Nat.le_of_not_lt enough)

/-- A reply of bytes in the first buffer. -/
theorem within_recv {recvBuffers : List Nat} {bufSize : Nat} (rc : Result) {recv : List Byte}
    (first : recvBuffers.headD 0 = bufSize) (inside : recv.length ≤ bufSize) :
    ({ rc, dataSize := 0, data := [], recv } : HandlerReply).Within recvBuffers :=
  { recv := first ▸ inside, data := Nat.le_refl 0, written := fun _ => rfl, room := Nat.zero_le _ }

theorem getVersionString_inside (service : IpcService) (bufSize : Nat) :
    ∃ recv, service.getVersionString bufSize = some recv ∧ recv.length ≤ bufSize := by
  rw [IpcService.getVersionString]
  split
  · exact ⟨[], rfl, Nat.zero_le _⟩
  · have inside : ((service.targetVersion ++ List.replicate (bufSize - 1) 0).take (bufSize - 1)).length ≤
        bufSize := by
      rw [List.length_take]
      omega
    exact ⟨_, writeBuffer_inside inside, inside⟩

theorem getProfileCount_inside (service : IpcService) {data : List Byte} (enough : 8 ≤ data.length) :
    ∃ rc count, service.getProfileCount data = some (rc, count) ∧ count.length ≤ 1 ∧
      (rc = 0 → count.length = 1) := by
  unfold IpcService.getProfileCount
  cases service.config.loaded with
  | false => exact ⟨_, _, rfl, Nat.zero_le 1, fun impossible => absurd impossible (by decide)⟩
  | true =>
      obtain ⟨tid, read, -⟩ := readNumber_inside data 0 8 enough
      rw [read]
      exact ⟨_, _, rfl, Nat.le_refl 1, fun _ => rfl⟩

theorem getProfiles_inside (service : IpcService) {data : List Byte} {bufSize : Nat} (enough : 8 ≤ data.length)
    (room : sizeofTitleProfileList ≤ bufSize) :
    ∃ rc recv, service.getProfiles data bufSize = some (rc, recv) ∧ recv.length ≤ bufSize := by
  unfold IpcService.getProfiles
  cases service.config.loaded with
  | false => exact ⟨_, _, rfl, Nat.zero_le _⟩
  | true =>
      obtain ⟨tid, read, -⟩ := readNumber_inside data 0 8 enough
      have length (number : Profile × Module → Nat) :
          (numbersBytes 4 (profileListLayout.map number)).length ≤ bufSize := by
        have whole : 4 * profileListLayout.length = sizeofTitleProfileList := by decide
        rw [numbersBytes_length, List.length_map, whole]
        exact room
      rw [read]
      let number := fun pair : Profile × Module =>
        service.config.toConfig.getProfiles tid pair.1 pair.2
      exact ⟨0, numbersBytes 4 (profileListLayout.map number),
        by simp [number, writeBuffer_inside (length number)], length number⟩

theorem getConfigValuesHandler_inside (service : IpcService) {bufSize : Nat} (room : sizeofConfigValueList ≤ bufSize) :
    ∃ rc recv, service.getConfigValuesHandler bufSize = some (rc, recv) ∧ recv.length ≤ bufSize := by
  unfold IpcService.getConfigValuesHandler
  cases service.config.loaded with
  | false => exact ⟨_, _, rfl, Nat.zero_le _⟩
  | true =>
      have length : (numbersBytes 8 (ConfigValue.all.map service.config.values)).length ≤ bufSize := by
        have whole : 8 * ConfigValue.all.length = sizeofConfigValueList := by
          rw [configValues_length, sizeofConfigValueList]
        rw [numbersBytes_length, List.length_map, whole]
        exact room
      exact ⟨0, _, by simp [writeBuffer_inside length], length⟩

theorem getFreqList_inside {service : IpcService}
    (slots : ∀ module, (service.gFreqTable module).count ≤ hocclkFreqListMax) {data : List Byte}
    (enough : sizeofModuleArgs ≤ data.length) (bufSize : Nat) :
    ∃ rc count recv, service.getFreqList data bufSize = some (rc, count, recv) ∧
      recv.length ≤ bufSize ∧ count.length ≤ 4 ∧ (rc = 0 → count.length = 4) := by
  rw [sizeofModuleArgs] at enough
  obtain ⟨raw, first, -⟩ := readNumber_inside data 0 4 (by omega)
  obtain ⟨maxCount, second, -⟩ := readNumber_inside data 4 4 enough
  unfold IpcService.getFreqList
  rw [first, second]
  simp only [Option.bind_eq_bind, Option.bind_some]
  cases Module.ofRaw raw with
  | none => exact ⟨_, _, _, rfl, Nat.zero_le _, Nat.zero_le 4, fun impossible => absurd impossible (by decide)⟩
  | some module =>
      dsimp only
      split
      · exact ⟨_, _, _, rfl, Nat.zero_le _, Nat.zero_le 4,
          fun impossible => absurd impossible (by decide)⟩
      · next whole =>
          have same : maxCount = bufSize / 4 := Classical.not_not.mp whole
          let table := service.gFreqTable module
          let outCount := min maxCount table.count
          have held : outCount ≤ table.list.length := by
            rw [table.slots]
            exact Nat.le_trans (Nat.min_le_right _ _) (slots module)
          have inside : (numbersBytes 4 (table.list.take outCount)).length ≤ bufSize := by
            rw [numbersBytes_length, List.length_take]
            omega
          have read : IpcService.firstEntries table.list outCount = some (table.list.take outCount) :=
            if_pos held
          rw [read, Option.bind_some, writeBuffer_inside inside]
          exact ⟨_, _, _, rfl, inside, Nat.le_of_eq (leBytes_length _ _), fun _ => leBytes_length _ _⟩

theorem setProfiles_inside {data : List Byte} (enough : sizeofSetProfilesArgs ≤ data.length) :
    ∃ rc after, service.setProfiles now data = some (rc, after) ∧
      (after = service ∨ (rc = 0 ∧ service.Changed now after)) := by
  unfold IpcService.setProfiles
  cases service.config.loaded with
  | false => exact ⟨_, _, rfl, .inl rfl⟩
  | true =>
      rw [sizeofSetProfilesArgs] at enough
      obtain ⟨mhz, second, -, words⟩ := readNumbers_inside data 8 4 25 (by omega)
      obtain ⟨tid, first, -⟩ := readNumber_inside data 0 8 (by omega)
      rw [first, second]
      let list := fun profile module => fieldNumber profileListLayout mhz (profile, module)
      have small : ∀ profile module, list profile module < 2 ^ 32 :=
        fun profile module => fieldNumber_lt (Nat.two_pow_pos 32) words
      cases saved : (service.config.setProfiles service.card now tid list true).1 with
      | true => exact ⟨0, _, by simp [list, saved], .inr ⟨rfl, .profiles tid small saved⟩⟩
      | false =>
          have same : (service.config.setProfiles service.card now tid list true).2 =
              (service.config, service.card) := by
            simp only [CountedConfig.setProfiles, Config.setProfiles] at saved ⊢
            cases put : service.card.put now (Config.titleSection tid) (Config.profilePairs list) with
            | none => rfl
            | some written => simp [put] at saved
          exact ⟨hocclkConfigSaveFailed, service, by simp [list, saved, same], .inl rfl⟩

theorem setConfigValuesHandler_inside {buffer : List Byte}
    (enough : sizeofConfigValueList ≤ buffer.length) :
    ∃ rc after, service.setConfigValuesHandler now buffer = some (rc, after) ∧
      (after = service ∨ (rc = 0 ∧ service.Changed now after)) := by
  unfold IpcService.setConfigValuesHandler
  cases service.config.loaded with
  | false => exact ⟨_, _, rfl, .inl rfl⟩
  | true =>
      have whole : 0 + 8 * ConfigValue.all.length = sizeofConfigValueList := by
        rw [configValues_length, sizeofConfigValueList]
      obtain ⟨numbers, read, -, words⟩ := readNumbers_inside buffer 0 8 ConfigValue.all.length
        (whole ▸ enough)
      rw [read]
      let values := fieldNumber ConfigValue.all numbers
      have small : ∀ kval, values kval < 2 ^ 64 :=
        fun kval => fieldNumber_lt (Nat.two_pow_pos 64) words
      cases saved : (service.config.toConfig.setConfigValues service.card now values true).1 with
      | true => exact ⟨0, _, by simp [values, saved], .inr ⟨rfl, .configValues small saved⟩⟩
      | false =>
          have same : (service.config.toConfig.setConfigValues service.card now values true).2 =
              (service.config.toConfig, service.card) := by
            simp only [Config.setConfigValues] at saved ⊢
            cases put : service.card.put now configValSection (Config.valuePairs values) with
            | none => rfl
            | some written => simp [put] at saved
          exact ⟨hocclkConfigSaveFailed, service, by simp [values, saved, same], .inl rfl⟩

theorem setOverride_inside {data : List Byte} (enough : sizeofModuleArgs ≤ data.length) :
    ∃ rc after, service.setOverride data = some (rc, after) ∧
      (after = service ∨ (rc = 0 ∧ service.Changed now after)) := by
  rw [sizeofModuleArgs] at enough
  obtain ⟨raw, first, -⟩ := readNumber_inside data 0 4 (by omega)
  obtain ⟨hz, second, word⟩ := readNumber_inside data 4 4 enough
  unfold IpcService.setOverride
  rw [first, second]
  simp only [Option.bind_eq_bind, Option.bind_some]
  cases Module.ofRaw raw with
  | none => exact ⟨_, _, rfl, .inl rfl⟩
  | some module => exact ⟨_, _, rfl, .inr ⟨rfl, .overridden module word⟩⟩

theorem setEnabled_inside (service : IpcService) (now : Stamp) {data : List Byte} (enough : 1 ≤ data.length) :
    ∃ after, service.setEnabled data = some after ∧ service.Changed now after := by
  obtain ⟨enabled, read, -⟩ := readNumber_inside data 0 1 enough
  unfold IpcService.setEnabled
  rw [read]
  exact ⟨_, rfl, .enabled _⟩

/-- A handler that leaves only a result. -/
theorem handles_plain {handler : Option (Result × IpcService)}
    (inside : ∃ rc after, handler = some (rc, after) ∧
      (after = service ∨ (rc = 0 ∧ service.Changed now after))) :
    Handles service now request (do
      let after ← handler
      some (.plain after.1, after.2)) := by
  obtain ⟨rc, after, rfl, outcome⟩ := inside
  exact ⟨_, _, rfl, within_plain rc _, outcome⟩

theorem serviceHandlerFunc_handles {service : IpcService}
    (slots : ∀ module, (service.gFreqTable module).count ≤ hocclkFreqListMax) (now : Stamp)
    (request : IpcServerRequest) :
    Handles service now request (service.serviceHandlerFunc now request) := by
  unfold IpcService.serviceHandlerFunc
  cases HocClkIpcCmd.ofId request.cmdId with
  | none => exact handles_refuse
  | some cmd =>
      cases cmd with
      | getApiVersion =>
          refine ⟨_, _, rfl, ?_, .inl rfl⟩
          exact { recv := Nat.zero_le _, data := Nat.le_refl 4, written := fun _ => rfl, room := by decide }
      | getVersionString =>
          refine handles_withRecvBuffer fun bufSize first _ => ?_
          obtain ⟨recv, written, inside⟩ := getVersionString_inside service bufSize
          rw [written]
          exact ⟨_, _, rfl, within_recv 0 first inside, .inl rfl⟩
      | getCurrentContext =>
          refine handles_withData fun _ => handles_withRecvBuffer fun bufSize first room => ?_
          have inside : service.gContext.bytes.length ≤ bufSize := service.gContext.size ▸ room
          rw [writeBuffer_inside inside]
          exact ⟨_, _, rfl, within_recv 0 first inside, .inl rfl⟩
      | exit => exact ⟨_, _, rfl, within_plain 0 _, .inr ⟨rfl, .exit⟩⟩
      | getProfileCount =>
          refine handles_withData fun enough => ?_
          obtain ⟨rc, count, run, short, whole⟩ := getProfileCount_inside service enough
          rw [run]
          have room : 1 ≤ ipcServerExtResponseMaxDataSize := by decide
          exact ⟨_, _, rfl, { recv := Nat.zero_le _, data := short, written := whole, room }, .inl rfl⟩
      | getProfiles =>
          refine handles_withData fun enough => handles_withRecvBuffer fun bufSize first room => ?_
          obtain ⟨rc, recv, run, inside⟩ := getProfiles_inside service enough room
          rw [run]
          exact ⟨_, _, rfl, within_recv rc first inside, .inl rfl⟩
      | setProfiles => exact handles_withData fun enough => handles_plain (setProfiles_inside enough)
      | setEnabled =>
          refine handles_withData fun enough => ?_
          obtain ⟨after, run, changed⟩ := setEnabled_inside service now enough
          rw [run]
          exact ⟨_, _, rfl, within_plain 0 _, .inr ⟨rfl, changed⟩⟩
      | setOverride => exact handles_withData fun enough => handles_plain (setOverride_inside enough)
      | getConfigValues =>
          refine handles_withRecvBuffer fun bufSize first room => ?_
          obtain ⟨rc, recv, run, inside⟩ := getConfigValuesHandler_inside service room
          rw [run]
          exact ⟨_, _, rfl, within_recv rc first inside, .inl rfl⟩
      | setConfigValues =>
          exact handles_withSendBuffer fun buffer enough =>
            handles_plain (setConfigValuesHandler_inside enough)
      | getFreqList =>
          refine handles_withData fun enough => handles_withRecvBuffer fun bufSize first _ => ?_
          obtain ⟨rc, count, recv, run, inside, short, whole⟩ := getFreqList_inside slots enough bufSize
          rw [run]
          have room : 4 ≤ ipcServerExtResponseMaxDataSize := by decide
          exact ⟨_, _, rfl, { recv := first ▸ inside, data := short, written := whole, room }, .inl rfl⟩
      | setKipData => exact ⟨_, _, rfl, within_plain 0 _, .inr ⟨rfl, .kipData⟩⟩
      | getKipData => exact handles_refuse

end

def Config.ProfilesFit (config : Config) : Prop :=
  ∀ titleId profile module mhz, config.profileMHz titleId profile module = some mhz → mhz < 2 ^ 32

/-- What is replied is of the type that it has in memory. -/
structure IpcService.Fits (service : IpcService) : Prop where
  values : service.config.toConfig.ValuesFit
  profiles : service.config.toConfig.ProfilesFit
  counts : ∀ titleId, service.config.getProfileCount titleId < 2 ^ 8
  slots : ∀ module, (service.gFreqTable module).count ≤ hocclkFreqListMax
  freqs : ∀ module, ∀ hz ∈ (service.gFreqTable module).list, hz < 2 ^ 32

theorem Config.ProfilesFit.getProfiles {config : Config} (fits : config.ProfilesFit) (titleId : Nat)
    (profile : Profile) (module : Module) : config.getProfiles titleId profile module < 2 ^ 32 := by
  rw [Config.getProfiles, Config.findClockMHz]
  split
  · cases set : config.profileMHz titleId profile module with
    | none => exact Nat.two_pow_pos 32
    | some mhz => exact fits titleId profile module mhz set
  · exact Nat.two_pow_pos 32

/-- The replies fit, and the values are valid. -/
structure IpcService.Sound (service : IpcService) : Prop where
  fits : service.Fits
  valid : service.config.toConfig.ValuesValid

/-- What the other threads do between two requests. -/
inductive OtherStep where
  /-- `config::Refresh` in a tick. -/
  | refresh
  /-- The rest of a tick. -/
  | ticked (context : HocClkContext)
  /-- The files on the card are exchanged. -/
  | edited (card : Card) (kip : Option KipFile)

def OtherStep.apply (service : IpcService) : OtherStep → IpcService
  | .refresh =>
      if !service.config.loaded || service.config.mtime ≠ service.card.configFile.modified then
        { service with config := service.config.load service.card.configFile }
      else service
  | .ticked context => { service with gContext := context }
  | .edited card kip => { service with card, kip }

theorem Config.browseIniFunc_profilesFit {config : Config} (fits : config.ProfilesFit)
    {item : IniItem} (word : ∀ titleId profile module mhz, item = .clock titleId profile module mhz →
      mhz < 2 ^ 32) : (config.browseIniFunc item).ProfilesFit := by
  cases item with
  | value kval input => exact fits
  | clock titleId profile module mhz =>
      rw [Config.browseIniFunc]
      split
      · exact fits
      · intro otherTitle otherProfile otherModule found set
        dsimp only at set
        by_cases title : otherTitle = titleId
        · subst title
          rw [Function.update_self] at set
          by_cases here : otherProfile = profile
          · subst here
            rw [Function.update_self] at set
            by_cases same : otherModule = module
            · subst same
              rw [Function.update_self] at set
              rw [← Option.some.inj set]
              exact word _ _ _ _ rfl
            · rw [Function.update_of_ne same] at set
              exact fits _ _ _ _ set
          · rw [Function.update_of_ne here] at set
            exact fits _ _ _ _ set
        · rw [Function.update_of_ne title] at set
          exact fits _ _ _ _ set

theorem recognise_clock {heading key value : String} {titleId mhz : Nat} {profile : Profile}
    {module : Module} (recognised : recognise heading key value =
      some (.clock titleId profile module mhz)) : mhz < 2 ^ 32 := by
  unfold recognise at recognised
  split at recognised
  · simp at recognised
  · dsimp only at recognised
    split at recognised
    · contradiction
    · obtain ⟨parsed, -, same⟩ := Option.map_eq_some_iff.mp recognised
      rw [← (IniItem.clock.inj same).2.2.2]
      exact Nat.mod_lt _ (Nat.two_pow_pos 32)

theorem configFile_clock {card : Card} {titleId mhz : Nat} {profile : Profile} {module : Module}
    (inside : .clock titleId profile module mhz ∈ card.configFile.items) : mhz < 2 ^ 32 := by
  unfold Card.configFile at inside
  cases file : card.file with
  | none => simp [file] at inside
  | some file' =>
      simp only [file, List.mem_flatMap, sectionItems, List.mem_filterMap] at inside
      obtain ⟨candidate, -, pair, -, recognised⟩ := inside
      exact recognise_clock recognised

theorem load_profilesFit (config : Config) (card : Card) :
    (config.load card.configFile).ProfilesFit := by
  have browsed (items : List IniItem) (start : Config) (fits : start.ProfilesFit)
      (words : ∀ item ∈ items, ∀ titleId profile module mhz,
        item = .clock titleId profile module mhz → mhz < 2 ^ 32) :
      (items.foldl Config.browseIniFunc start).ProfilesFit := by
    induction items generalizing start with
    | nil => exact fits
    | cons item rest ih =>
        obtain ⟨first, others⟩ := List.forall_mem_cons.mp words
        exact ih _ (Config.browseIniFunc_profilesFit fits first) others
  have closed : Config.ProfilesFit { config.close with mtime := card.configFile.modified } := by
    intro titleId profile module mhz set
    contradiction
  unfold Config.load
  split
  · exact closed
  · refine browsed _ _ closed ?_
    rintro item inside titleId profile module mhz rfl
    exact configFile_clock inside

theorem OtherStep.apply_sound {service : IpcService} (sound : service.Sound) (step : OtherStep) :
    (step.apply service).Sound := by
  cases step with
  | refresh =>
      rw [OtherStep.apply]
      split
      · have fits : Config.ValuesFit (service.config.load service.card.configFile).toConfig := by
          rw [CountedConfig.load_toConfig]
          exact Config.load_fits _ _
        refine { fits := { sound.fits with values := fits, profiles := ?_, counts := ?_ }, valid := ?_ }
        · rw [CountedConfig.load_toConfig]
          exact load_profilesFit _ _
        · intro titleId
          rw [CountedConfig.load_getProfileCount]
          exact Nat.mod_lt _ (Nat.two_pow_pos 8)
        · rw [CountedConfig.load_toConfig]
          exact Config.load_valid _ _
      · exact sound
  | ticked context => exact { fits := { sound.fits with }, valid := sound.valid }
  | edited card kip => exact { fits := { sound.fits with }, valid := sound.valid }

theorem setKipData_config (state : KipState) (now : Stamp) :
    (state.setKipData now).config = state.config := by
  unfold KipState.setKipData
  cases state.kip with
  | none => rfl
  | some file =>
      dsimp only
      cases custReadTable file.bytes with
      | none => rfl
      | some table =>
          simp only [KipState.setConfigValues, Config.setConfigValues]
          split <;> rfl

theorem setProfiles_profilesFit {config : CountedConfig} (fits : config.toConfig.ProfilesFit)
    (card : Card) (now : Stamp) (tid : Nat) {mhz : Profile → Module → Nat}
    (words : ∀ profile module, mhz profile module < 2 ^ 32) :
    (config.setProfiles card now tid mhz true).2.1.toConfig.ProfilesFit := by
  simp only [CountedConfig.setProfiles, Config.setProfiles]
  cases card.put now (Config.titleSection tid) (Config.profilePairs mhz) with
  | none => exact fits
  | some written =>
      intro titleId profile module found set
      simp only [if_true] at set
      by_cases same : titleId = tid
      · subst same
        rw [Function.update_self] at set
        obtain ⟨-, rfl⟩ := Option.ite_none_right_eq_some.mp set |>.imp_right Option.some.inj
        exact words profile module
      · rw [Function.update_of_ne same] at set
        exact fits titleId profile module found set

theorem setProfiles_counts {config : CountedConfig}
    (counts : ∀ titleId, config.getProfileCount titleId < 2 ^ 8) (card : Card) (now : Stamp)
    (tid : Nat) (mhz : Profile → Module → Nat) (titleId : Nat) :
    (config.setProfiles card now tid mhz true).2.1.getProfileCount titleId < 2 ^ 8 := by
  simp only [CountedConfig.setProfiles, CountedConfig.getProfileCount]
  split
  · by_cases same : titleId = tid
    · subst same
      rw [Function.update_self]
      exact Nat.mod_lt _ (Nat.two_pow_pos 8)
    · rw [Function.update_of_ne same]
      exact counts titleId
  · exact counts titleId

theorem setProfiles_values (config : CountedConfig) (card : Card) (now : Stamp) (tid : Nat)
    (mhz : Profile → Module → Nat) :
    (config.setProfiles card now tid mhz true).2.1.values = config.values := by
  simp only [CountedConfig.setProfiles, Config.setProfiles]
  cases card.put now (Config.titleSection tid) (Config.profilePairs mhz) <;> rfl

theorem setConfigValues_kept (config : Config) (card : Card) (now : Stamp)
    (values : ConfigValue → Nat) :
    (config.setConfigValues card now values true).2.1.profileMHz = config.profileMHz := by
  unfold Config.setConfigValues
  cases card.put now configValSection (Config.valuePairs values) <;> rfl

theorem setConfigValues_values {config : Config} {card : Card} {now : Stamp}
    {values : ConfigValue → Nat} (saved : (config.setConfigValues card now values true).1 = true) :
    (config.setConfigValues card now values true).2.1.values =
      fun kval => Config.acceptedValue kval (values kval) := by
  unfold Config.setConfigValues at saved ⊢
  cases put : card.put now configValSection (Config.valuePairs values) with
  | none => simp [put] at saved
  | some written => rfl

theorem IpcService.Changed.sound {service after : IpcService} {now : Stamp} (sound : service.Sound)
    (changed : service.Changed now after) : after.Sound := by
  cases changed with
  | exit => exact { fits := { sound.fits with }, valid := sound.valid }
  | enabled enabled => exact { fits := { sound.fits with }, valid := sound.valid }
  | overridden module word => exact { fits := { sound.fits with }, valid := sound.valid }
  | profiles tid words saved =>
      have kept := setProfiles_values service.config service.card now tid
      refine { fits := { sound.fits with values := ?_, profiles := ?_, counts := ?_ }, valid := ?_ }
      · intro kval
        rw [kept]
        exact sound.fits.values kval
      · exact setProfiles_profilesFit sound.fits.profiles service.card now tid words
      · exact setProfiles_counts sound.fits.counts service.card now tid _
      · intro kval
        rw [kept]
        exact sound.valid kval
  | configValues words saved =>
      refine { fits := { sound.fits with values := ?_, profiles := ?_ }, valid := ?_ }
      · intro kval
        rw [setConfigValues_values saved]
        exact Config.acceptedValue_fits (words kval)
      · intro titleId profile module mhz set
        rw [setConfigValues_kept] at set
        exact sound.fits.profiles titleId profile module mhz set
      · intro kval
        rw [setConfigValues_values saved]
        exact Config.acceptedValue_valid kval _
  | kipData =>
      have kept : (service.setKipData now).config = service.config := by
        rw [IpcService.setKipData, setKipData_config]
      refine { fits := { sound.fits with values := ?_, profiles := ?_, counts := ?_ }, valid := ?_ }
      · rw [kept]
        exact sound.fits.values
      · rw [kept]
        exact sound.fits.profiles
      · rw [kept]
        exact sound.fits.counts
      · rw [kept]
        exact sound.valid

theorem IpcService.initial_sound (card : Card) (kip : Option KipFile)
    {gFreqTable : Module → FreqTable}
    (slots : ∀ module, (gFreqTable module).count ≤ hocclkFreqListMax)
    (freqs : ∀ module, ∀ hz ∈ (gFreqTable module).list, hz < 2 ^ 32) (targetVersion : List Byte) :
    (IpcService.initial card kip gFreqTable targetVersion).Sound where
  fits :=
    { values := hocclkDefaultConfigValue_fits
      profiles := fun titleId profile module mhz set => by contradiction
      counts := fun titleId => Nat.two_pow_pos 8
      slots
      freqs }
  valid := Config.initial_valid

/-- A message, which may be malformed, or a step of another thread. -/
inductive IpcStep where
  | message (now : Stamp) (hipc : HipcRequest)
  | other (step : OtherStep)

def IpcStep.apply (service : IpcService) : IpcStep → Option IpcService
  | .message now hipc => (service.serve now hipc).map Prod.snd
  | .other step => some (step.apply service)

/-- A reply writes nothing outside of its buffers and leaks nothing, and the service is as before
where no success is replied. -/
structure SafelyServed (service : IpcService) (message : HipcRequest) (reply : Option HandlerReply)
    (after : IpcService) : Prop where
  within : ∀ given, reply = some given → given.Within message.recvBuffers
  unchanged : (∀ given, reply = some given → given.rc ≠ 0) → after = service

theorem parseRequest_recvBuffers (message : HipcRequest) :
    (parseRequest message).2.recvBuffers = message.recvBuffers := by
  unfold parseRequest
  split
  · split <;> rfl
  · rfl

theorem serve_safe {service : IpcService} (sound : service.Sound) (now : Stamp)
    (message : HipcRequest) :
    ∃ reply after, service.serve now message = some (reply, after) ∧ after.Sound ∧
      SafelyServed service message reply after := by
  unfold IpcService.serve
  have plain (rc : Result) : SafelyServed service message (some (.plain rc)) service :=
    { within := by
        rintro given same
        rw [← Option.some.inj same]
        exact within_plain rc _
      unchanged := fun _ => rfl }
  by_cases rejected : (parseRequest message).1 ≠ 0
  · refine ⟨none, service, if_pos rejected, sound, ?_⟩
    exact { within := fun given impossible => by contradiction, unchanged := fun _ => rfl }
  · simp only [if_neg rejected]
    by_cases request : message.type = cmifRequest
    · simp only [if_pos request]
      obtain ⟨reply, after, run, within, outcome⟩ :=
        serviceHandlerFunc_handles sound.fits.slots now (parseRequest message).2
      rw [parseRequest_recvBuffers] at within
      rw [run]
      refine ⟨some reply, after, rfl, ?_, ?_, ?_⟩
      · rcases outcome with rfl | ⟨-, changed⟩
        · exact sound
        · exact changed.sound sound
      · rintro given same
        rw [← Option.some.inj same]
        exact within
      · intro failed
        rcases outcome with same | ⟨success, -⟩
        · exact same
        · exact absurd success (failed reply rfl)
    · simp only [if_neg request]
      by_cases close : message.type = cmifClose
      · exact ⟨_, service, if_pos close, sound, plain 0⟩
      · exact ⟨_, service, if_neg close, sound, plain (makeResult 11 403)⟩

end HorizonOc.Sysmodule
