import HorizonOc.Sysmodule.Ipc

namespace HorizonOc.Sysmodule

open HorizonOc.Data

/-- What a stub hands to `serviceDispatch`. -/
structure ClientRequest where
  cmd : HocClkIpcCmd
  payload : List Byte
  outBuffer : Option Nat
  inBuffer : Option (List Byte)

/-- The stubs with their arguments. -/
inductive IpcCall where
  | getApiVersion
  | getVersionString (len : Nat)
  | getCurrentContext
  | getProfileCount (tid : BitVec 64)
  | setEnabled (enabled : Bool)
  | setOverride (module hz : BitVec 32)
  | getProfiles (tid : BitVec 64)
  /-- The structure on the stack ends in four bytes that nothing sets. -/
  | setProfiles (tid : BitVec 64) (mhz : Profile → Module → BitVec 32) (unset : BitVec 32)
  | getConfigValues
  | setConfigValues (values : ConfigValue → BitVec 64)
  | getFreqList (module maxCount : BitVec 32)
  | setKipData
  | getKipData

/-- What a caller has after a call that succeeded. -/
inductive IpcAnswer where
  | done
  | apiVersion (version : Nat)
  | versionString (text : List Byte)
  | context (context : List Byte)
  | profileCount (count : Nat)
  | profiles (mhz : Profile → Module → Nat)
  | configValues (values : ConfigValue → Nat)
  | freqList (freqs : List Nat)

namespace IpcCall

def moduleArgs (module second : BitVec 32) : List Byte :=
  leBytes 4 module.toNat ++ leBytes 4 second.toNat

def setProfilesArgs (tid : BitVec 64) (mhz : Profile → Module → BitVec 32) (unset : BitVec 32) :
    List Byte :=
  leBytes 8 tid.toNat ++
    (numbersBytes 4 (profileListLayout.map fun pair => (mhz pair.1 pair.2).toNat) ++
      leBytes 4 unset.toNat)

def request : IpcCall → ClientRequest
  | .getApiVersion => { cmd := .getApiVersion, payload := [], outBuffer := none, inBuffer := none }
  | .getVersionString len =>
      { cmd := .getVersionString, payload := [], outBuffer := some len, inBuffer := none }
  | .getCurrentContext =>
      { cmd := .getCurrentContext, payload := [], outBuffer := some sizeofContext, inBuffer := none }
  | .getProfileCount tid =>
      { cmd := .getProfileCount, payload := leBytes 8 tid.toNat, outBuffer := none, inBuffer := none }
  | .setEnabled enabled =>
      { cmd := .setEnabled, payload := leBytes 1 enabled.toNat, outBuffer := none, inBuffer := none }
  | .setOverride module hz =>
      { cmd := .setOverride, payload := moduleArgs module hz, outBuffer := none, inBuffer := none }
  | .getProfiles tid =>
      { cmd := .getProfiles, payload := leBytes 8 tid.toNat
        outBuffer := some sizeofTitleProfileList, inBuffer := none }
  | .setProfiles tid mhz unset =>
      { cmd := .setProfiles, payload := setProfilesArgs tid mhz unset, outBuffer := none
        inBuffer := none }
  | .getConfigValues =>
      { cmd := .getConfigValues, payload := [], outBuffer := some sizeofConfigValueList
        inBuffer := none }
  | .setConfigValues values =>
      { cmd := .setConfigValues, payload := [], outBuffer := none
        inBuffer := some (numbersBytes 8 (ConfigValue.all.map fun kval => (values kval).toNat)) }
  | .getFreqList module maxCount =>
      { cmd := .getFreqList, payload := moduleArgs module maxCount
        outBuffer := some (maxCount.toNat * 4), inBuffer := none }
  | .setKipData => { cmd := .setKipData, payload := leBytes 4 0, outBuffer := none, inBuffer := none }
  | .getKipData => { cmd := .getKipData, payload := leBytes 4 0, outBuffer := none, inBuffer := none }

/-- The results as the caller finds them in its variables and buffers; none where the reply leaves
some of it unset. -/
def results : IpcCall → HandlerReply → Option IpcAnswer
  | .getApiVersion, reply => (readNumber reply.data 0 4).map .apiVersion
  | .getVersionString _, reply => some (.versionString reply.recv)
  | .getCurrentContext, reply =>
      if reply.recv.length = sizeofContext then some (.context reply.recv) else none
  | .getProfileCount _, reply => (readNumber reply.data 0 1).map .profileCount
  | .getProfiles _, reply =>
      (readNumbers reply.recv 0 4 25).map fun mhz =>
        .profiles fun profile module => fieldNumber profileListLayout mhz (profile, module)
  | .getConfigValues, reply =>
      (readNumbers reply.recv 0 8 ConfigValue.all.length).map fun values =>
        .configValues (fieldNumber ConfigValue.all values)
  | .getFreqList _ _, reply => do
      let outCount ← readNumber reply.data 0 4
      let freqs ← readNumbers reply.recv 0 4 outCount
      some (.freqList freqs)
  | _, _ => some .done

/-- What the stub returns, with the results where it is a success. -/
def receive (call : IpcCall) (reply : HandlerReply) : Option (Except Result IpcAnswer) :=
  if reply.rc ≠ 0 then some (.error reply.rc) else (call.results reply).map .ok

def whenLoaded (service : IpcService) (answer : IpcAnswer) : Except Result IpcAnswer :=
  if service.config.loaded then .ok answer else .error hocclkConfigNotLoaded

def whenSaved (saved : Bool) : Except Result IpcAnswer :=
  if saved then .ok .done else .error hocclkConfigSaveFailed

def perform (service : IpcService) (now : Stamp) : IpcCall → Except Result IpcAnswer × IpcService
  | .getApiVersion => (.ok (.apiVersion hocclkIpcApiVersion), service)
  | .getVersionString len =>
      (.ok (.versionString ((service.targetVersion ++ List.replicate (len - 1) 0).take (len - 1))),
        service)
  | .getCurrentContext => (.ok (.context service.gContext.bytes), service)
  | .getProfileCount tid =>
      (whenLoaded service (.profileCount (service.config.getProfileCount tid.toNat)), service)
  | .setEnabled enabled => (.ok .done, { service with enabled })
  | .setOverride module hz =>
      match Module.ofRaw module.toNat with
      | none => (.error hocclkGeneric, service)
      | some module =>
          let overrideFreqs := Function.update service.config.overrideFreqs module hz.toNat
          (.ok .done, { service with config := { service.config with overrideFreqs } })
  | .getProfiles tid =>
      (whenLoaded service (.profiles (service.config.toConfig.getProfiles tid.toNat)), service)
  | .setProfiles tid mhz _ =>
      if !service.config.loaded then (.error hocclkConfigNotLoaded, service)
      else
        let after := service.config.setProfiles service.card now tid.toNat
          (fun profile module => (mhz profile module).toNat) true
        (whenSaved after.1, { service with config := after.2.1, card := after.2.2 })
  | .getConfigValues => (whenLoaded service (.configValues service.config.values), service)
  | .setConfigValues values =>
      if !service.config.loaded then (.error hocclkConfigNotLoaded, service)
      else
        let after := service.config.toConfig.setConfigValues service.card now
          (fun kval => (values kval).toNat) true
        (whenSaved after.1, { service with
          config := { service.config with toConfig := after.2.1 }, card := after.2.2 })
  | .getFreqList module maxCount =>
      match Module.ofRaw module.toNat with
      | none => (.error hocclkGeneric, service)
      | some module =>
          (.ok (.freqList ((service.gFreqTable module).row.take maxCount.toNat)), service)
  | .setKipData => (.ok .done, service.setKipData now)
  -- There is a stub and a number for it, but no handler.
  | .getKipData => (.error hocclkGeneric, service)

end IpcCall

/-- What `serviceDispatch` makes of a request: its payload is behind the header and at least sixteen
bytes from the end of the data words, and its buffers are the first of their kind. -/
structure Delivered (sent : ClientRequest) (message : HipcRequest) : Prop where
  type : message.type = cmifRequest
  words : ∃ trailing, message.words =
    leBytes 8 cmifInHeaderMagic ++ (leBytes 8 sent.cmd.toNat ++ (sent.payload ++ trailing)) ∧
      16 ≤ trailing.length
  recvBuffers : message.recvBuffers = sent.outBuffer.toList
  sendBuffers : message.sendBuffers = sent.inBuffer.toList

theorem profileListLayout_length : profileListLayout.length = 25 := by decide

theorem configValues_length : ConfigValue.all.length = 121 := by decide

section

variable {message : HipcRequest} {sent : ClientRequest}

theorem parseRequest_delivered (delivered : Delivered sent message) :
    ∃ trailing, 16 ≤ trailing.length ∧ parseRequest message =
      (0, { cmdId := sent.cmd.toNat, data := sent.payload ++ trailing
            recvBuffers := sent.outBuffer.toList, sendBuffers := sent.inBuffer.toList }) := by
  obtain ⟨trailing, words, behind⟩ := delivered.words
  refine ⟨trailing, behind, ?_⟩
  have magic : leNumber (slice message.words 0 8) = cmifInHeaderMagic := by
    rw [words, slice, List.drop_zero, List.take_left' (leBytes_length 8 _)]
    exact leNumber_leBytes (by decide)
  have small : sent.cmd.toNat < 2 ^ (8 * 8) := by
    cases sent.cmd <;> decide
  have cmdId : leNumber (slice message.words 8 8) = sent.cmd.toNat := by
    rw [words, slice, List.drop_left' (leBytes_length 8 _), List.take_left' (leBytes_length 8 _)]
    exact leNumber_leBytes small
  have data : message.words.drop rawHeaderSize = sent.payload ++ trailing := by
    rw [words, ← List.append_assoc]
    exact List.drop_left' (by simp [rawHeaderSize])
  have long : ¬message.numDataWords * 4 < rawHeaderSize := by
    rw [← message.whole, words, rawHeaderSize]
    simp only [List.length_append, leBytes_length]
    omega
  rw [parseRequest, if_pos delivered.type, if_neg (by simp [long, magic]), cmdId, data,
    delivered.recvBuffers, delivered.sendBuffers]

end

end HorizonOc.Sysmodule
