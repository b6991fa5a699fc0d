import HorizonOc.Sysmodule.IpcSafety

namespace HorizonOc.Sysmodule

open HorizonOc.Data

/-- The request that a stub's message becomes, with what is behind its payload. -/
def IpcCall.serverRequest (call : IpcCall) (trailing : List Byte) : IpcServerRequest :=
  { cmdId := call.request.cmd.toNat
    data := call.request.payload ++ trailing
    recvBuffers := call.request.outBuffer.toList
    sendBuffers := call.request.inBuffer.toList }

/-- The service answers a call with what performing it gives. -/
def Answers (service : IpcService) (now : Stamp) (call : IpcCall) (trailing : List Byte) : Prop :=
  ∃ reply, service.serviceHandlerFunc now (call.serverRequest trailing) =
      some (reply, (call.perform service now).2) ∧
    call.receive reply = some (call.perform service now).1

section

variable {service : IpcService} {now : Stamp} {trailing : List Byte}

theorem withData_enough {request : IpcServerRequest} {size : Nat} (enough : size ≤ request.data.length)
    (handler : Option (HandlerReply × IpcService)) :
    service.withData request size handler = handler := if_neg (by omega)

theorem withRecvBuffer_enough {request : IpcServerRequest} {size bufSize : Nat}
    (buffer : request.recvBuffers = [bufSize]) (enough : size ≤ bufSize)
    (handler : Nat → Option (HandlerReply × IpcService)) :
    service.withRecvBuffer request size handler = handler bufSize := by
  rw [IpcService.withRecvBuffer, buffer]
  exact if_neg (by omega)

theorem withSendBuffer_enough {request : IpcServerRequest} {size : Nat} {bytes : List Byte}
    (buffer : request.sendBuffers = [bytes]) (enough : size ≤ bytes.length)
    (handler : List Byte → Option (HandlerReply × IpcService)) :
    service.withSendBuffer request size handler = handler bytes := by
  rw [IpcService.withSendBuffer, buffer]
  exact if_neg (by omega)

theorem tid_fits (tid : BitVec 64) : tid.toNat < 2 ^ (8 * 8) := tid.isLt

theorem word_fits (word : BitVec 32) : word.toNat < 2 ^ (8 * 4) := word.isLt

theorem Profile.pair_mem (profile : Profile) (module : Module) :
    (profile, module) ∈ profileListLayout :=
  List.mem_flatMap.mpr ⟨profile, profile.mem_all, List.mem_map.mpr ⟨module, module.mem_all, rfl⟩⟩

theorem answers_getApiVersion : Answers service now .getApiVersion trailing := ⟨_, rfl, rfl⟩

theorem answers_getVersionString (len : Nat) :
    Answers service now (.getVersionString len) trailing := by
  have written : service.getVersionString len =
      some ((service.targetVersion ++ List.replicate (len - 1) 0).take (len - 1)) := by
    rw [IpcService.getVersionString]
    split
    · next empty => rw [empty, List.take_zero]
    · exact writeBuffer_inside (by rw [List.length_take]; omega)
  refine ⟨{ HandlerReply.plain 0 with
    recv := (service.targetVersion ++ List.replicate (len - 1) 0).take (len - 1) }, ?_, rfl⟩
  simp only [IpcService.serviceHandlerFunc, IpcCall.serverRequest, IpcCall.request,
    HocClkIpcCmd.ofId_toNat]
  rw [withRecvBuffer_enough rfl (Nat.zero_le len), written]
  rfl

theorem answers_getCurrentContext (behind : 16 ≤ trailing.length) :
    Answers service now .getCurrentContext trailing := by
  have whole := service.gContext.size
  have enough : 8 ≤ ([] ++ trailing).length := by
    rw [List.nil_append]
    omega
  refine ⟨{ HandlerReply.plain 0 with recv := service.gContext.bytes }, ?_, ?_⟩
  · simp only [IpcService.serviceHandlerFunc, IpcCall.serverRequest, IpcCall.request,
      HocClkIpcCmd.ofId_toNat]
    rw [withData_enough enough, withRecvBuffer_enough rfl (Nat.le_refl _),
      writeBuffer_inside (Nat.le_of_eq whole)]
    rfl
  · exact congrArg (Option.map Except.ok) (if_pos whole)

theorem answers_getProfileCount (fits : service.Fits) (tid : BitVec 64) :
    Answers service now (.getProfileCount tid) trailing := by
  have enough : 8 ≤ (leBytes 8 tid.toNat ++ trailing).length := by simp
  have read := readNumber_append (tid_fits tid) trailing
  unfold Answers
  simp only [IpcService.serviceHandlerFunc, IpcCall.serverRequest, IpcCall.request,
    HocClkIpcCmd.ofId_toNat]
  rw [withData_enough enough, IpcService.getProfileCount, read]
  cases loaded : service.config.loaded with
  | false =>
      refine ⟨{ HandlerReply.plain hocclkConfigNotLoaded with dataSize := 1 }, rfl, ?_⟩
      simp [IpcCall.receive, IpcCall.perform, IpcCall.whenLoaded, loaded, HandlerReply.plain,
        hocclkConfigNotLoaded, makeResult]
  | true =>
      let count := service.config.getProfileCount tid.toNat
      refine ⟨{ HandlerReply.plain 0 with dataSize := 1, data := leBytes 1 count }, rfl, ?_⟩
      have back : readNumber (leBytes 1 count) 0 1 = some count :=
        readNumber_leBytes (fits.counts tid.toNat)
      simp [IpcCall.receive, IpcCall.results, IpcCall.perform, IpcCall.whenLoaded, loaded, count,
        back, HandlerReply.plain]

theorem answers_getProfiles (fits : service.Fits) (tid : BitVec 64) :
    Answers service now (.getProfiles tid) trailing := by
  have enough : 8 ≤ (leBytes 8 tid.toNat ++ trailing).length := by simp
  have read := readNumber_append (tid_fits tid) trailing
  let mhz := profileListLayout.map fun pair =>
    service.config.toConfig.getProfiles tid.toNat pair.1 pair.2
  have length : (numbersBytes 4 mhz).length = sizeofTitleProfileList := by
    simp [mhz, profileListLayout_length, sizeofTitleProfileList]
  have words : ∀ number ∈ mhz, number < 2 ^ (8 * 4) := by
    intro number member
    obtain ⟨pair, -, rfl⟩ := List.mem_map.mp member
    exact fits.profiles.getProfiles tid.toNat pair.1 pair.2
  unfold Answers
  simp only [IpcService.serviceHandlerFunc, IpcCall.serverRequest, IpcCall.request,
    HocClkIpcCmd.ofId_toNat]
  rw [withData_enough enough, withRecvBuffer_enough rfl (Nat.le_refl _), IpcService.getProfiles, read]
  cases loaded : service.config.loaded with
  | false =>
      refine ⟨HandlerReply.plain hocclkConfigNotLoaded, rfl, ?_⟩
      simp [IpcCall.receive, IpcCall.perform, IpcCall.whenLoaded, loaded, HandlerReply.plain,
        hocclkConfigNotLoaded, makeResult]
  | true =>
      refine ⟨{ HandlerReply.plain 0 with recv := numbersBytes 4 mhz }, ?_, ?_⟩
      · change (do
          let profiles ← writeBuffer sizeofTitleProfileList (numbersBytes 4 mhz)
          some _) = _
        rw [writeBuffer_inside (Nat.le_of_eq length)]
        rfl
      · have back : readNumbers (numbersBytes 4 mhz) 0 4 25 = some mhz :=
          readNumbers_numbersBytes words (by simp [mhz, profileListLayout_length])
        have fields : (fun profile module => fieldNumber profileListLayout mhz (profile, module)) =
            service.config.toConfig.getProfiles tid.toNat := by
          funext profile module
          exact fieldNumber_map _ (profile.pair_mem module)
        simp [IpcCall.receive, IpcCall.results, IpcCall.perform, IpcCall.whenLoaded, loaded,
          HandlerReply.plain, back, fields]

theorem answers_getConfigValues (fits : service.Fits) :
    Answers service now .getConfigValues trailing := by
  let values := ConfigValue.all.map service.config.values
  have length : (numbersBytes 8 values).length = sizeofConfigValueList := by
    simp [values, configValues_length, sizeofConfigValueList]
  have words : ∀ number ∈ values, number < 2 ^ (8 * 8) := by
    intro number member
    obtain ⟨kval, -, rfl⟩ := List.mem_map.mp member
    exact fits.values kval
  unfold Answers
  simp only [IpcService.serviceHandlerFunc, IpcCall.serverRequest, IpcCall.request,
    HocClkIpcCmd.ofId_toNat]
  rw [withRecvBuffer_enough rfl (Nat.le_refl _), IpcService.getConfigValuesHandler]
  cases loaded : service.config.loaded with
  | false =>
      refine ⟨HandlerReply.plain hocclkConfigNotLoaded, rfl, ?_⟩
      simp [IpcCall.receive, IpcCall.perform, IpcCall.whenLoaded, loaded, HandlerReply.plain,
        hocclkConfigNotLoaded, makeResult]
  | true =>
      refine ⟨{ HandlerReply.plain 0 with recv := numbersBytes 8 values }, ?_, ?_⟩
      · simp only [Bool.not_true, Bool.false_eq_true, if_false]
        rw [writeBuffer_inside (Nat.le_of_eq length)]
        simp only [Option.bind_eq_bind, Option.bind_some, HandlerReply.plain, IpcCall.perform, values]
      · have back : readNumbers (numbersBytes 8 values) 0 8 ConfigValue.all.length = some values :=
          readNumbers_numbersBytes words (List.length_map _)
        have fields : fieldNumber ConfigValue.all values = service.config.values := by
          funext kval
          exact fieldNumber_map _ kval.mem_all
        simp [IpcCall.receive, IpcCall.results, IpcCall.perform, IpcCall.whenLoaded, loaded,
          HandlerReply.plain, back, fields]

/-- The two words that a module and a number are sent as. -/
theorem readNumber_moduleArgs (module second : BitVec 32) (trailing : List Byte) :
    readNumber (IpcCall.moduleArgs module second ++ trailing) 0 4 = some module.toNat ∧
      readNumber (IpcCall.moduleArgs module second ++ trailing) 4 4 = some second.toNat := by
  constructor
  · rw [IpcCall.moduleArgs, List.append_assoc]
    exact readNumber_append (word_fits module) _
  · exact readNumber_of_eq (word_fits second) (List.append_assoc _ _ _) (leBytes_length 4 _)

theorem moduleArgs_enough (module second : BitVec 32) (trailing : List Byte) :
    sizeofModuleArgs ≤ (IpcCall.moduleArgs module second ++ trailing).length := by
  simp only [IpcCall.moduleArgs, sizeofModuleArgs, List.length_append, leBytes_length]
  omega

theorem answers_getFreqList (fits : service.Fits) (module maxCount : BitVec 32) :
    Answers service now (.getFreqList module maxCount) trailing := by
  obtain ⟨first, second⟩ := readNumber_moduleArgs module maxCount trailing
  unfold Answers
  simp only [IpcService.serviceHandlerFunc, IpcCall.serverRequest, IpcCall.request,
    HocClkIpcCmd.ofId_toNat]
  rw [withData_enough (moduleArgs_enough module maxCount trailing),
    withRecvBuffer_enough rfl (Nat.zero_le _), IpcService.getFreqList, first, second]
  cases valid : Module.ofRaw module.toNat with
  | none =>
      refine ⟨{ HandlerReply.plain hocclkGeneric with dataSize := 4 }, ?_, ?_⟩ <;>
        simp [IpcCall.receive, IpcCall.perform, valid, HandlerReply.plain, hocclkGeneric, makeResult]
  | some row =>
      let table := service.gFreqTable row
      let outCount := min maxCount.toNat table.count
      let freqs := table.list.take outCount
      have slots : table.count ≤ table.list.length := table.slots ▸ fits.slots row
      have length : freqs.length = outCount := by
        rw [List.length_take]
        omega
      have counted : outCount < 2 ^ (8 * 4) := by
        have bound := maxCount.isLt
        omega
      have listed : table.row.take maxCount.toNat = freqs := List.take_take
      have read : IpcService.firstEntries table.list outCount = some freqs :=
        if_pos (Nat.le_trans (Nat.min_le_right _ _) slots)
      have inside : (numbersBytes 4 freqs).length ≤ maxCount.toNat * 4 := by
        rw [numbersBytes_length]
        omega
      refine ⟨{ rc := 0, dataSize := 4, data := leBytes 4 outCount, recv := numbersBytes 4 freqs },
        ?_, ?_⟩
      · have whole : maxCount.toNat * 4 / 4 = maxCount.toNat := Nat.mul_div_cancel _ (by decide)
        simp only [valid, whole, ne_eq, not_true_eq_false, if_false, Option.bind_eq_bind,
          Option.bind_some, IpcCall.perform]
        change ((IpcService.firstEntries table.list outCount).bind _).bind _ = _
        rw [read, Option.bind_some, writeBuffer_inside inside]
        rfl
      · have count : readNumber (leBytes 4 outCount) 0 4 = some outCount := readNumber_leBytes counted
        have back : readNumbers (numbersBytes 4 freqs) 0 4 outCount = some freqs :=
          readNumbers_numbersBytes
            (fun number member => fits.freqs row number (List.mem_of_mem_take member)) length
        simp only [IpcCall.receive, IpcCall.results, IpcCall.perform, valid, count, back, ne_eq,
          not_true_eq_false, if_false, Option.bind_eq_bind, Option.bind_some, Option.map_some]
        rw [← listed]

theorem answers_setEnabled (enabled : Bool) : Answers service now (.setEnabled enabled) trailing := by
  have small : enabled.toNat < 2 ^ (8 * 1) := by
    cases enabled <;> decide
  have enough : 1 ≤ (leBytes 1 enabled.toNat ++ trailing).length := by simp
  have back : decide (enabled.toNat ≠ 0) = enabled := by
    cases enabled <;> rfl
  refine ⟨HandlerReply.plain 0, ?_, rfl⟩
  simp only [IpcService.serviceHandlerFunc, IpcCall.serverRequest, IpcCall.request,
    HocClkIpcCmd.ofId_toNat]
  rw [withData_enough enough, IpcService.setEnabled, readNumber_append small]
  simp only [Option.bind_eq_bind, Option.bind_some, back, IpcCall.perform]

theorem answers_setOverride (module hz : BitVec 32) :
    Answers service now (.setOverride module hz) trailing := by
  obtain ⟨first, second⟩ := readNumber_moduleArgs module hz trailing
  unfold Answers
  simp only [IpcService.serviceHandlerFunc, IpcCall.serverRequest, IpcCall.request,
    HocClkIpcCmd.ofId_toNat]
  rw [withData_enough (moduleArgs_enough module hz trailing), IpcService.setOverride, first, second]
  cases valid : Module.ofRaw module.toNat with
  | none =>
      refine ⟨HandlerReply.plain hocclkGeneric, ?_, ?_⟩ <;>
        simp [IpcCall.receive, IpcCall.perform, valid, HandlerReply.plain, hocclkGeneric, makeResult]
  | some row =>
      refine ⟨HandlerReply.plain 0, ?_, ?_⟩ <;>
        simp [IpcCall.receive, IpcCall.results, IpcCall.perform, valid, HandlerReply.plain]

theorem answers_setProfiles (tid : BitVec 64) (mhz : Profile → Module → BitVec 32)
    (unset : BitVec 32) : Answers service now (.setProfiles tid mhz unset) trailing := by
  let numbers := profileListLayout.map fun pair => (mhz pair.1 pair.2).toNat
  have count : numbers.length = 25 := by simp [numbers, profileListLayout_length]
  have enough : sizeofSetProfilesArgs ≤
      (IpcCall.setProfilesArgs tid mhz unset ++ trailing).length := by
    simp only [IpcCall.setProfilesArgs, sizeofSetProfilesArgs, List.length_append, leBytes_length,
      numbersBytes_length, List.length_map, profileListLayout_length]
    omega
  have first : readNumber (IpcCall.setProfilesArgs tid mhz unset ++ trailing) 0 8 =
      some tid.toNat := by
    rw [IpcCall.setProfilesArgs, List.append_assoc]
    exact readNumber_append (tid_fits tid) _
  have words : ∀ number ∈ numbers, number < 2 ^ (8 * 4) := by
    intro number member
    obtain ⟨pair, -, rfl⟩ := List.mem_map.mp member
    exact word_fits _
  have laid : IpcCall.setProfilesArgs tid mhz unset ++ trailing =
      leBytes 8 tid.toNat ++ (numbersBytes 4 numbers ++ (leBytes 4 unset.toNat ++ trailing)) := by
    simp [IpcCall.setProfilesArgs, numbers]
  have second := readNumbers_of_eq words laid (leBytes_length 8 _) count
  have fields : (fun profile module => fieldNumber profileListLayout numbers (profile, module)) =
      fun profile module => (mhz profile module).toNat := by
    funext profile module
    exact fieldNumber_map _ (profile.pair_mem module)
  unfold Answers
  simp only [IpcService.serviceHandlerFunc, IpcCall.serverRequest, IpcCall.request,
    HocClkIpcCmd.ofId_toNat]
  rw [withData_enough enough, IpcService.setProfiles, first, second]
  cases loaded : service.config.loaded with
  | false =>
      refine ⟨HandlerReply.plain hocclkConfigNotLoaded, ?_, ?_⟩ <;>
        simp [IpcCall.receive, IpcCall.perform, loaded, HandlerReply.plain, hocclkConfigNotLoaded,
          makeResult]
  | true =>
      simp only [IpcCall.perform, loaded, Bool.not_true, Bool.false_eq_true, if_false,
        Option.bind_eq_bind, Option.bind_some, fields]
      cases saved : (service.config.setProfiles service.card now tid.toNat
          (fun profile module => (mhz profile module).toNat) true).1 with
      | false =>
          refine ⟨HandlerReply.plain hocclkConfigSaveFailed, rfl, ?_⟩
          simp [IpcCall.receive, IpcCall.whenSaved, HandlerReply.plain, hocclkConfigSaveFailed,
            makeResult]
      | true => exact ⟨HandlerReply.plain 0, rfl, rfl⟩

theorem answers_setConfigValues (values : ConfigValue → BitVec 64) :
    Answers service now (.setConfigValues values) trailing := by
  let numbers := ConfigValue.all.map fun kval => (values kval).toNat
  have count : numbers.length = ConfigValue.all.length := List.length_map _
  have enough : sizeofConfigValueList ≤ (numbersBytes 8 numbers).length := by
    simp [count, configValues_length, sizeofConfigValueList]
  have words : ∀ number ∈ numbers, number < 2 ^ (8 * 8) := by
    intro number member
    obtain ⟨kval, -, rfl⟩ := List.mem_map.mp member
    exact (values kval).isLt
  have read : readNumbers (numbersBytes 8 numbers) 0 8 ConfigValue.all.length = some numbers :=
    readNumbers_numbersBytes words count
  have fields : fieldNumber ConfigValue.all numbers = fun kval => (values kval).toNat := by
    funext kval
    exact fieldNumber_map _ kval.mem_all
  unfold Answers
  simp only [IpcService.serviceHandlerFunc, IpcCall.serverRequest, IpcCall.request,
    HocClkIpcCmd.ofId_toNat]
  rw [withSendBuffer_enough rfl enough, IpcService.setConfigValuesHandler, read]
  cases loaded : service.config.loaded with
  | false =>
      refine ⟨HandlerReply.plain hocclkConfigNotLoaded, ?_, ?_⟩ <;>
        simp [IpcCall.receive, IpcCall.perform, loaded, HandlerReply.plain, hocclkConfigNotLoaded,
          makeResult]
  | true =>
      simp only [IpcCall.perform, loaded, Bool.not_true, Bool.false_eq_true, if_false,
        Option.bind_eq_bind, Option.bind_some, fields]
      cases saved : (service.config.toConfig.setConfigValues service.card now
          (fun kval => (values kval).toNat) true).1 with
      | false =>
          refine ⟨HandlerReply.plain hocclkConfigSaveFailed, rfl, ?_⟩
          simp [IpcCall.receive, IpcCall.whenSaved, HandlerReply.plain, hocclkConfigSaveFailed,
            makeResult]
      | true => exact ⟨HandlerReply.plain 0, rfl, rfl⟩

theorem answers_setKipData : Answers service now .setKipData trailing := ⟨_, rfl, rfl⟩

theorem answers_getKipData : Answers service now .getKipData trailing :=
  ⟨HandlerReply.plain hocclkGeneric, rfl, rfl⟩

theorem answers (fits : service.Fits) (now : Stamp) (behind : 16 ≤ trailing.length) (call : IpcCall) :
    Answers service now call trailing := by
  cases call with
  | getApiVersion => exact answers_getApiVersion
  | getVersionString len => exact answers_getVersionString len
  | getCurrentContext => exact answers_getCurrentContext behind
  | getProfileCount tid => exact answers_getProfileCount fits tid
  | setEnabled enabled => exact answers_setEnabled enabled
  | setOverride module hz => exact answers_setOverride module hz
  | getProfiles tid => exact answers_getProfiles fits tid
  | setProfiles tid mhz unset => exact answers_setProfiles tid mhz unset
  | getConfigValues => exact answers_getConfigValues fits
  | setConfigValues values => exact answers_setConfigValues values
  | getFreqList module maxCount => exact answers_getFreqList fits module maxCount
  | setKipData => exact answers_setKipData
  | getKipData => exact answers_getKipData

end

/-- A stub with its message, or a step of another thread. -/
inductive ClientStep where
  | stub (now : Stamp) (call : IpcCall) (hipc : HipcRequest)
  | other (step : OtherStep)

namespace ClientStep

/-- The answers so far, with the service. -/
abbrev State := List (Except Result IpcAnswer) × IpcService

/-- Through the message and its reply. -/
def serve (state : State) : ClientStep → Option State
  | .stub now call hipc => do
      let served ← state.2.serve now hipc
      let reply ← served.1
      let answer ← call.receive reply
      some (state.1 ++ [answer], served.2)
  | .other step => some (state.1, step.apply state.2)

/-- Without it. -/
def perform (state : State) : ClientStep → State
  | .stub now call _ =>
      (state.1 ++ [(call.perform state.2 now).1], (call.perform state.2 now).2)
  | .other step => (state.1, step.apply state.2)

def Sent : ClientStep → Prop
  | .stub _ call hipc => Delivered call.request hipc
  | .other _ => True

end ClientStep

theorem serve_call {service : IpcService} (fits : service.Fits) (now : Stamp) (call : IpcCall)
    {hipc : HipcRequest} (delivered : Delivered call.request hipc) :
    ∃ reply, service.serve now hipc = some (some reply, (call.perform service now).2) ∧
      call.receive reply = some (call.perform service now).1 := by
  obtain ⟨trailing, behind, parsed⟩ := parseRequest_delivered delivered
  obtain ⟨reply, handled, received⟩ := answers fits now behind call
  refine ⟨reply, ?_, received⟩
  have run : service.serviceHandlerFunc now (parseRequest hipc).2 =
      some (reply, (call.perform service now).2) := by
    rw [parsed]
    exact handled
  have accepted : (parseRequest hipc).1 = 0 := congrArg Prod.fst parsed
  unfold IpcService.serve
  simp only [accepted, ne_eq, not_true_eq_false, if_false, if_pos delivered.type, run,
    Option.bind_eq_bind, Option.bind_some]

theorem ClientStep.serve_eq {service : IpcService} (sound : service.Sound)
    (answers : List (Except Result IpcAnswer)) {step : ClientStep} (sent : step.Sent) :
    serve (answers, service) step = some (perform (answers, service) step) ∧
      (perform (answers, service) step).2.Sound := by
  cases step with
  | stub now call hipc =>
      obtain ⟨reply, served, received⟩ := serve_call sound.fits now call sent
      obtain ⟨given, after, same, kept, -⟩ := serve_safe sound now hipc
      rw [served] at same
      refine ⟨?_, ?_⟩
      · simp only [serve, perform, served, received, Option.bind_eq_bind, Option.bind_some]
      · have last : (call.perform service now).2 = after := (Prod.mk.inj (Option.some.inj same)).2
        rw [perform, last]
        exact kept
  | other step => exact ⟨rfl, step.apply_sound sound⟩

/-- Over every run of calls of any clients, with the steps of the other threads in between, each
stub returns what its call returns when it is made on the service itself, and the service goes
through the same states. -/
theorem ipc_simulates {service : IpcService} (sound : service.Sound) {steps : List ClientStep}
    (sent : ∀ step ∈ steps, step.Sent) (answers : List (Except Result IpcAnswer)) :
    steps.foldlM ClientStep.serve (answers, service) =
      some (steps.foldl ClientStep.perform (answers, service)) := by
  induction steps generalizing service answers with
  | nil => rfl
  | cons step rest ih =>
      obtain ⟨first, others⟩ := List.forall_mem_cons.mp sent
      obtain ⟨served, kept⟩ := ClientStep.serve_eq sound answers first
      rw [List.foldlM_cons, served, List.foldl_cons]
      exact ih kept others _

/-- Two calls around the first load: the count of a title, and an override of the memory. -/
theorem ipc_simulates_override :
    let message (cmd : Nat) (payload : List Byte) : HipcRequest :=
      let words := leBytes 8 cmifInHeaderMagic ++ leBytes 8 cmd ++ payload ++ List.replicate 16 0
      { type := cmifRequest, numDataWords := words.length / 4, words := words.take (words.length / 4 * 4)
        whole := by rw [List.length_take]; omega
        recvBuffers := [], sendBuffers := [] }
    let steps : List ClientStep := [
      .stub ⟨7, by decide⟩ (.getProfileCount 1) (message 4 (leBytes 8 1)),
      .other .refresh,
      .stub ⟨8, by decide⟩ (.setOverride 2 1600000000) (message 8 (leBytes 4 2 ++ leBytes 4 1600000000))]
    let table : FreqTable := { count := 0, list := List.replicate 32 0, slots := rfl }
    let service := IpcService.initial { file := none, writable := true } none (fun _ => table) []
    steps.foldlM ClientStep.serve ([], service) = some (steps.foldl ClientStep.perform ([], service)) := by
  intro message steps table service
  have sound : service.Sound :=
    IpcService.initial_sound _ none (fun _ => Nat.zero_le _) (fun _ => by decide) []
  refine ipc_simulates sound ?_ []
  intro step member
  simp only [steps, List.mem_cons, List.not_mem_nil, or_false] at member
  rcases member with rfl | rfl | rfl
  · exact
      { type := rfl, words := ⟨List.replicate 16 0, rfl, by decide⟩, recvBuffers := rfl
        sendBuffers := rfl }
  · trivial
  · exact
      { type := rfl, words := ⟨List.replicate 16 0, rfl, by decide⟩, recvBuffers := rfl
        sendBuffers := rfl }

end HorizonOc.Sysmodule
