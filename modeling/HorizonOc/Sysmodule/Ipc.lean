import HorizonOc.Data.LittleEndian
import HorizonOc.Sysmodule.IpcServer
import HorizonOc.Sysmodule.Kip
import HorizonOc.Sysmodule.NearestRate
import HorizonOc.Sysmodule.ProfileCounts

namespace HorizonOc.Sysmodule

open HorizonOc.Data

/-! `ipc_service.cpp` behind `ipc_server.c`, and the stubs of `client/ipc.c` before it.  What the
handlers read and write are bytes; an access outside of its buffer has no outcome. -/

/-- The commands of `hocclk/ipc.h`, in the order of their numbers. -/
inductive HocClkIpcCmd where
  | getApiVersion | getVersionString | getCurrentContext | exit | getProfileCount | getProfiles
  | setProfiles | setEnabled | setOverride | getConfigValues | setConfigValues | getFreqList
  | setKipData | getKipData
deriving DecidableEq, Repr

def HocClkIpcCmd.toNat : HocClkIpcCmd → Nat
  | .getApiVersion => 0
  | .getVersionString => 1
  | .getCurrentContext => 2
  | .exit => 3
  | .getProfileCount => 4
  | .getProfiles => 5
  | .setProfiles => 6
  | .setEnabled => 7
  | .setOverride => 8
  | .getConfigValues => 9
  | .setConfigValues => 10
  | .getFreqList => 11
  | .setKipData => 12
  | .getKipData => 13

def HocClkIpcCmd.all : List HocClkIpcCmd :=
  [.getApiVersion, .getVersionString, .getCurrentContext, .exit, .getProfileCount, .getProfiles,
   .setProfiles, .setEnabled, .setOverride, .getConfigValues, .setConfigValues, .getFreqList,
   .setKipData, .getKipData]

def HocClkIpcCmd.ofId (cmdId : Nat) : Option HocClkIpcCmd :=
  HocClkIpcCmd.all.find? fun cmd => cmd.toNat = cmdId

@[simp] theorem HocClkIpcCmd.ofId_toNat (cmd : HocClkIpcCmd) :
    HocClkIpcCmd.ofId cmd.toNat = some cmd := by
  cases cmd <;> decide

def hocclkIpcApiVersion : Nat := 1

/-- `HOCCLK_ERROR` of `Generic`, `ConfigNotLoaded` and `ConfigSaveFailed`. -/
def hocclkGeneric : Result := makeResult 388 0
def hocclkConfigNotLoaded : Result := makeResult 388 1
def hocclkConfigSaveFailed : Result := makeResult 388 2

/-- `sizeof` of the structures that go through IPC. -/
def sizeofContext : Nat := 200
def sizeofTitleProfileList : Nat := 100
def sizeofConfigValueList : Nat := 968
def sizeofSetProfilesArgs : Nat := 112
def sizeofModuleArgs : Nat := 8

/-- The order of `mhz` in `HocClkTitleProfileList`. -/
def profileListLayout : List (Profile × Module) :=
  Profile.all.flatMap fun profile => Module.all.map fun module => (profile, module)

/-- The module with a number, where `HOCCLK_ENUM_VALID` holds. -/
def Module.ofRaw (module : Nat) : Option Module := Module.all[module]?

/-- A `HocClkContext` as it lies in memory. -/
structure HocClkContext where
  bytes : List Byte
  size : bytes.length = sizeofContext

/-- What the handlers work on. -/
structure IpcService where
  config : CountedConfig
  card : Card
  kip : Option KipFile
  enabled : Bool
  running : Bool
  gContext : HocClkContext
  gFreqTable : Module → FreqTable
  targetVersion : List Byte

/-- `data` with its pointer, and the buffers: the sizes of those to fill, the bytes of the others. -/
structure IpcServerRequest where
  cmdId : Nat
  data : List Byte
  recvBuffers : List Nat
  sendBuffers : List (List Byte)

/-- What a handler leaves: its result, `*out_dataSize`, and what it wrote to `out_data` and to the
first buffer. -/
structure HandlerReply where
  rc : Result
  dataSize : Nat
  data : List Byte
  recv : List Byte
deriving DecidableEq, Repr

/-- A result alone. -/
def HandlerReply.plain (rc : Result) : HandlerReply := { rc, dataSize := 0, data := [], recv := [] }

namespace IpcService

/-- What is there before the first request. -/
def initial (card : Card) (kip : Option KipFile) (gFreqTable : Module → FreqTable)
    (targetVersion : List Byte) : IpcService :=
  { config := CountedConfig.initial, card, kip, enabled := false, running := true
    gContext := ⟨List.replicate sizeofContext 0, List.length_replicate⟩, gFreqTable, targetVersion }

/-- `strncpy`, which fills up with zeros and does not end a text that is too long. -/
def getVersionString (service : IpcService) (bufSize : Nat) : Option (List Byte) :=
  if bufSize = 0 then some []
  else
    writeBuffer bufSize
      ((service.targetVersion ++ List.replicate (bufSize - 1) 0).take (bufSize - 1))

def getProfileCount (service : IpcService) (data : List Byte) : Option (Result × List Byte) :=
  if !service.config.loaded then some (hocclkConfigNotLoaded, [])
  else do
    let tid ← readNumber data 0 8
    some (0, leBytes 1 (service.config.getProfileCount tid))

def getProfiles (service : IpcService) (data : List Byte) (bufSize : Nat) :
    Option (Result × List Byte) :=
  if !service.config.loaded then some (hocclkConfigNotLoaded, [])
  else do
    let tid ← readNumber data 0 8
    let profiles ← writeBuffer bufSize (numbersBytes 4
      (profileListLayout.map fun pair => service.config.toConfig.getProfiles tid pair.1 pair.2))
    some (0, profiles)

def setProfiles (service : IpcService) (now : Stamp) (data : List Byte) :
    Option (Result × IpcService) :=
  if !service.config.loaded then some (hocclkConfigNotLoaded, service)
  else do
    let mhz ← readNumbers data 8 4 25
    let tid ← readNumber data 0 8
    let (saved, config, card) := service.config.setProfiles service.card now tid
      (fun profile module => fieldNumber profileListLayout mhz (profile, module)) true
    some (if saved then 0 else hocclkConfigSaveFailed, { service with config, card })

def setEnabled (service : IpcService) (data : List Byte) : Option IpcService := do
  let enabled ← readNumber data 0 1
  some { service with enabled := decide (enabled ≠ 0) }

def setOverride (service : IpcService) (data : List Byte) : Option (Result × IpcService) := do
  let raw ← readNumber data 0 4
  match Module.ofRaw raw with
  | none => some (hocclkGeneric, service)
  | some module => do
      let hz ← readNumber data 4 4
      let overrideFreqs := Function.update service.config.overrideFreqs module hz
      some (0, { service with config := { service.config with overrideFreqs } })

def getConfigValuesHandler (service : IpcService) (bufSize : Nat) : Option (Result × List Byte) :=
  if !service.config.loaded then some (hocclkConfigNotLoaded, [])
  else do
    let values ← writeBuffer bufSize
      (numbersBytes 8 (ConfigValue.all.map service.config.values))
    some (0, values)

def setConfigValuesHandler (service : IpcService) (now : Stamp) (buffer : List Byte) :
    Option (Result × IpcService) :=
  if !service.config.loaded then some (hocclkConfigNotLoaded, service)
  else do
    let values ← readNumbers buffer 0 8 ConfigValue.all.length
    let (saved, config, card) := service.config.toConfig.setConfigValues service.card now
      (fieldNumber ConfigValue.all values) true
    some (if saved then 0 else hocclkConfigSaveFailed,
      { service with config := { service.config with toConfig := config }, card })

/-- What `memcpy` reads; none where the array is not that long. -/
def firstEntries (list : List Nat) (count : Nat) : Option (List Nat) :=
  if count ≤ list.length then some (list.take count) else none

/-- The result with the count and the list that were written. -/
def getFreqList (service : IpcService) (data : List Byte) (bufSize : Nat) :
    Option (Result × List Byte × List Byte) := do
  let raw ← readNumber data 0 4
  match Module.ofRaw raw with
  | none => some (hocclkGeneric, [], [])
  | some module => do
      let maxCount ← readNumber data 4 4
      if maxCount ≠ bufSize / 4 then some (hocclkGeneric, [], [])
      else do
        let table := service.gFreqTable module
        let outCount := min maxCount table.count
        let freqs ← firstEntries table.list outCount
        let list ← writeBuffer bufSize (numbersBytes 4 freqs)
        some (0, leBytes 4 outCount, list)

/-- `kip::SetKipData`. -/
def setKipData (service : IpcService) (now : Stamp) : IpcService :=
  let after := KipState.setKipData
    { config := service.config.toConfig, card := service.card, kip := service.kip } now
  { service with
    config := { service.config with toConfig := after.config }
    card := after.card
    kip := after.kip }

/-- Every branch that does not return ends here. -/
def refuse (service : IpcService) : Option (HandlerReply × IpcService) :=
  some (.plain hocclkGeneric, service)

/-- A command that needs so many bytes of data. -/
def withData (service : IpcService) (request : IpcServerRequest) (size : Nat)
    (handler : Option (HandlerReply × IpcService)) : Option (HandlerReply × IpcService) :=
  if request.data.length < size then service.refuse else handler

/-- A command that fills the first buffer, which needs to have a size. -/
def withRecvBuffer (service : IpcService) (request : IpcServerRequest) (size : Nat)
    (handler : Nat → Option (HandlerReply × IpcService)) : Option (HandlerReply × IpcService) :=
  match request.recvBuffers with
  | [] => service.refuse
  | bufSize :: _ => if bufSize < size then service.refuse else handler bufSize

/-- A command that reads the first buffer, which needs to have a size. -/
def withSendBuffer (service : IpcService) (request : IpcServerRequest) (size : Nat)
    (handler : List Byte → Option (HandlerReply × IpcService)) :
    Option (HandlerReply × IpcService) :=
  match request.sendBuffers with
  | [] => service.refuse
  | buffer :: _ => if buffer.length < size then service.refuse else handler buffer

def serviceHandlerFunc (service : IpcService) (now : Stamp) (request : IpcServerRequest) :
    Option (HandlerReply × IpcService) :=
  match HocClkIpcCmd.ofId request.cmdId with
  | some .getApiVersion =>
      some ({ rc := 0, dataSize := 4, data := leBytes 4 hocclkIpcApiVersion, recv := [] }, service)
  | some .getVersionString =>
      service.withRecvBuffer request 0 fun bufSize => do
        let recv ← service.getVersionString bufSize
        some ({ rc := 0, dataSize := 0, data := [], recv }, service)
  | some .getCurrentContext =>
      service.withData request 8 <| service.withRecvBuffer request sizeofContext fun bufSize => do
        let recv ← writeBuffer bufSize service.gContext.bytes
        some ({ rc := 0, dataSize := 0, data := [], recv }, service)
  | some .exit => some (.plain 0, { service with running := false })
  | some .getProfileCount =>
      service.withData request 8 do
        let reply ← service.getProfileCount request.data
        some ({ rc := reply.1, dataSize := 1, data := reply.2, recv := [] }, service)
  | some .getProfiles =>
      service.withData request 8 <|
        service.withRecvBuffer request sizeofTitleProfileList fun bufSize => do
          let reply ← service.getProfiles request.data bufSize
          some ({ rc := reply.1, dataSize := 0, data := [], recv := reply.2 }, service)
  | some .setProfiles =>
      service.withData request sizeofSetProfilesArgs do
        let after ← service.setProfiles now request.data
        some (.plain after.1, after.2)
  | some .setEnabled =>
      service.withData request 1 do
        let after ← service.setEnabled request.data
        some (.plain 0, after)
  | some .setOverride =>
      service.withData request sizeofModuleArgs do
        let after ← service.setOverride request.data
        some (.plain after.1, after.2)
  | some .getConfigValues =>
      service.withRecvBuffer request sizeofConfigValueList fun bufSize => do
        let reply ← service.getConfigValuesHandler bufSize
        some ({ rc := reply.1, dataSize := 0, data := [], recv := reply.2 }, service)
  | some .setConfigValues =>
      service.withSendBuffer request sizeofConfigValueList fun buffer => do
        let after ← service.setConfigValuesHandler now buffer
        some (.plain after.1, after.2)
  | some .getFreqList =>
      service.withData request sizeofModuleArgs <| service.withRecvBuffer request 0 fun bufSize => do
        let reply ← service.getFreqList request.data bufSize
        some ({ rc := reply.1, dataSize := 4, data := reply.2.1, recv := reply.2.2 }, service)
  | some .setKipData => some (.plain 0, service.setKipData now)
  | some .getKipData | none => service.refuse

end IpcService

/-- A message as `hipcParseRequest` finds it; the words are those from where the data is aligned
on. -/
structure HipcRequest where
  type : Nat
  numDataWords : Nat
  words : List Byte
  whole : words.length = numDataWords * 4
  recvBuffers : List Nat
  sendBuffers : List (List Byte)

/-- What the table of sessions needs of the message. -/
def HipcRequest.toIpcMessage (message : HipcRequest) : IpcMessage :=
  { type := message.type
    numDataWords := message.numDataWords
    headerMagic := some (leNumber (slice message.words 0 8)) }

/-- `_ipcServerParseRequest`, with the request that it leaves. -/
def parseRequest (message : HipcRequest) : Result × IpcServerRequest :=
  let empty : IpcServerRequest :=
    { cmdId := 0, data := [], recvBuffers := message.recvBuffers, sendBuffers := message.sendBuffers }
  if message.type = cmifRequest then
    if message.numDataWords * 4 < rawHeaderSize ∨
        leNumber (slice message.words 0 8) ≠ cmifInHeaderMagic then (libnxBadInput, empty)
    else
      (0, { empty with
        cmdId := leNumber (slice message.words 8 8)
        data := message.words.drop rawHeaderSize })
  else (0, empty)

/-- What `_ipcServerProcessSession` replies, if it does, and what the handler leaves behind. -/
def IpcService.serve (service : IpcService) (now : Stamp) (message : HipcRequest) :
    Option (Option HandlerReply × IpcService) :=
  let (rc, request) := parseRequest message
  if rc ≠ 0 then some (none, service)
  else if message.type = cmifRequest then do
    let handled ← service.serviceHandlerFunc now request
    some (some handled.1, handled.2)
  else if message.type = cmifClose then some (some (.plain 0), service)
  else some (some (.plain (makeResult 11 403)), service)

theorem parseRequest_result (message : HipcRequest) :
    (parseRequest message).1 = ipcServerParseRequest message.toIpcMessage := by
  unfold parseRequest ipcServerParseRequest HipcRequest.toIpcMessage
  by_cases request : message.type = cmifRequest
  · simp only [if_pos request, ne_eq, Option.some.injEq, apply_ite Prod.fst]
    simp only [or_comm]
  · simp only [if_neg request]

end HorizonOc.Sysmodule
