import Mathlib.Logic.Function.Basic
import HorizonOc.Data.HandleLog
import HorizonOc.Data.Runs

namespace HorizonOc.Sysmodule

open HorizonOc.Data

/-! `ipc_server.c`: the table of sessions, with what the kernel answers given from outside. -/

/-- A result of the kernel or of a library; 0 is success. -/
abbrev Result := Nat

abbrev Handle := Nat

def makeResult (module description : Nat) : Result :=
  (module &&& 0x1FF) ||| ((description &&& 0x1FFF) <<< 9)

/-- `Module_Libnx` with `LibnxError_OutOfMemory`, `LibnxError_NotFound` and `LibnxError_BadInput`. -/
def libnxOutOfMemory : Result := makeResult 345 2
def libnxNotFound : Result := makeResult 345 9
def libnxBadInput : Result := makeResult 345 11

/-- `KERNELRESULT(TimedOut)`. -/
def kernelTimedOut : Result := makeResult 1 117

def maxWaitObjects : Nat := 64

structure IpcServer where
  srvName : String
  handles : Nat → Handle
  max : Nat
  count : Nat

/-- `CmifCommandType_Close` and `CmifCommandType_Request`. -/
def cmifClose : Nat := 2
def cmifRequest : Nat := 4

def cmifInHeaderMagic : Nat := 0x49434653

/-- `sizeof(IpcServerRawHeader)`. -/
def rawHeaderSize : Nat := 16

/-- What `hipcParseRequest` finds in a message; the header is where the data is aligned. -/
structure IpcMessage where
  type : Nat
  numDataWords : Nat
  headerMagic : Option Nat
deriving DecidableEq, Repr

/-- What the kernel answers during one `ipcServerProcess`. -/
structure KernelAnswers where
  waited : Result × Int
  accepted : Result × Handle
  received : Result × IpcMessage
  replied : Result
deriving DecidableEq, Repr

/-- The server with what it did with handles so far. -/
structure IpcWorld where
  server : IpcServer
  events : List (HandleEvent Handle)

def IpcWorld.log (world : IpcWorld) (event : HandleEvent Handle) : IpcWorld :=
  { world with events := world.events ++ [event] }

def ipcServerInit (server : IpcServer) (name : String) (maxSessions : Nat)
    (registered : Result × Handle) : Result × IpcServer :=
  if maxSessions < 1 ∨ maxSessions > maxWaitObjects - 1 then (libnxBadInput, server)
  else
    let server := { server with srvName := name, max := maxSessions + 1, count := 0 }
    if registered.1 = 0 then
      (0, { server with handles := Function.update server.handles 0 registered.2, count := 1 })
    else (registered.1, server)

def ipcServerExit (world : IpcWorld) (unregistered : Result) : Result × IpcWorld :=
  let closed := (List.range world.server.count).map fun i => HandleEvent.closed (world.server.handles i)
  (unregistered, { server := { world.server with count := 0 }, events := world.events ++ closed })

def ipcServerAddSession (server : IpcServer) (session : Handle) : Result × IpcServer :=
  if server.count ≥ server.max then (libnxOutOfMemory, server)
  else
    (0, { server with
      handles := Function.update server.handles server.count session
      count := server.count + 1 })

/-- The loop that closes the gap at an index. -/
def shiftHandles (handles : Nat → Handle) (index last : Nat) : Nat → Handle :=
  (List.range' index (last - index)).foldl
    (fun handles j => Function.update handles j (handles (j + 1))) handles

def ipcServerDeleteSession (world : IpcWorld) (index : Nat) : Result × IpcWorld :=
  let server := world.server
  if index = 0 ∨ index ≥ server.count then (libnxBadInput, world)
  else
    let closed := world.log (.closed (server.handles index))
    (0, { closed with
      server := { server with
        handles := shiftHandles server.handles index (server.count - 1)
        count := server.count - 1 } })

def ipcServerParseRequest (message : IpcMessage) : Result :=
  if message.type = cmifRequest then
    let dataSize := message.numDataWords * 4
    if message.headerMagic ≠ some cmifInHeaderMagic ∨ dataSize < rawHeaderSize then libnxBadInput
    else 0
  else 0

def ipcServerProcessNewSession (world : IpcWorld) (answers : KernelAnswers) : Result × IpcWorld :=
  let world := world.log (.used (world.server.handles 0))
  let (rc, session) := answers.accepted
  if rc ≠ 0 then (rc, world)
  else
    let opened := world.log (.opened session)
    let (rc, server) := ipcServerAddSession opened.server session
    if rc ≠ 0 then (rc, opened.log (.closed session))
    else (rc, { opened with server })

def ipcServerProcessSession (world : IpcWorld) (answers : KernelAnswers) (handleIndex : Nat) :
    Result × IpcWorld :=
  let session := world.server.handles handleIndex
  let received := world.log (.used session)
  let (rc, message) := answers.received
  let rc := if rc = 0 then ipcServerParseRequest message else rc
  let (rc, close, served) :=
    if rc = 0 then
      -- The handler and the response it leaves have no part in the table.
      let replied := if answers.replied = kernelTimedOut then 0 else answers.replied
      (replied, decide (message.type = cmifClose), received.log (.used session))
    else (rc, false, received)
  if rc ≠ 0 ∨ close then (rc, (ipcServerDeleteSession served handleIndex).2) else (rc, served)

def ipcServerProcess (world : IpcWorld) (answers : KernelAnswers) : Result × IpcWorld :=
  let (rc, handleIndex) := answers.waited
  let rc := if rc = 0 ∧ (handleIndex < 0 ∨ handleIndex ≥ world.server.count) then libnxNotFound else rc
  if rc ≠ 0 then (rc, world)
  else if handleIndex ≠ 0 then ipcServerProcessSession world answers handleIndex.toNat
  else ipcServerProcessNewSession world answers

/-- What ends the session that is served: nothing can be received, the message is malformed, the
reply finds nobody, or the client asks for the end. -/
def KernelAnswers.EndsSession (answers : KernelAnswers) : Prop :=
  answers.received.1 ≠ 0 ∨ ipcServerParseRequest answers.received.2 ≠ 0 ∨
    (answers.replied ≠ 0 ∧ answers.replied ≠ kernelTimedOut) ∨
    answers.received.2.type = cmifClose

theorem KernelAnswers.parsed_iff (answers : KernelAnswers) :
    (if answers.received.1 = 0 then ipcServerParseRequest answers.received.2
      else answers.received.1) = 0 ↔
      answers.received.1 = 0 ∧ ipcServerParseRequest answers.received.2 = 0 := by
  split
  case isTrue arrived => exact ⟨fun parsed => ⟨arrived, parsed⟩, And.right⟩
  case isFalse failed => exact ⟨fun arrived => absurd arrived failed, fun both => absurd both.1 failed⟩

/-- A reply that only waited too long has not failed. -/
theorem KernelAnswers.replyFails_iff (answers : KernelAnswers) :
    ¬(if answers.replied = kernelTimedOut then 0 else answers.replied) = 0 ↔
      ¬answers.replied = 0 ∧ ¬answers.replied = kernelTimedOut := by
  split
  case isTrue waited => exact ⟨fun failed => absurd rfl failed, fun both => absurd waited both.2⟩
  case isFalse answered => exact ⟨fun failed => ⟨failed, answered⟩, And.left⟩

namespace IpcServer

/-- All handles, the service port first. -/
def table (server : IpcServer) : List Handle := (List.range server.count).map server.handles

/-- `handles[1..count)`. -/
def sessions (server : IpcServer) : List Handle :=
  (List.range (server.count - 1)).map fun i => server.handles (i + 1)

variable {server : IpcServer}

@[simp] theorem table_length : server.table.length = server.count := by simp [table]

theorem table_eq (started : 1 ≤ server.count) :
    server.table = server.handles 0 :: server.sessions := by
  obtain ⟨others, count⟩ := Nat.exists_eq_add_of_le' started
  simp [table, sessions, count, List.range_succ_eq_map, Function.comp_def]

/-- A handle put behind the last one. -/
def append (server : IpcServer) (session : Handle) : IpcServer :=
  { server with
    handles := Function.update server.handles server.count session
    count := server.count + 1 }

theorem append_table (session : Handle) : (server.append session).table = server.table ++ [session] := by
  have before : (List.range server.count).map (Function.update server.handles server.count session) =
      server.table := by
    apply List.map_congr_left
    intro i inside
    exact Function.update_of_ne (Nat.ne_of_lt (List.mem_range.mp inside)) ..
  simp only [table, append, List.range_succ, List.map_append, before, List.map_singleton,
    Function.update_self]

theorem ipcServerAddSession_cases (server : IpcServer) (session : Handle) :
    server.count < server.max ∧ ipcServerAddSession server session = (0, server.append session) ∨
      ipcServerAddSession server session = (libnxOutOfMemory, server) := by
  unfold ipcServerAddSession
  split
  · exact .inr rfl
  · exact .inl ⟨by omega, rfl⟩

end IpcServer

/-- Past the loop every handle behind the gap has moved down by one. -/
theorem shiftHandles_apply (handles : Nat → Handle) (index last i : Nat) :
    shiftHandles handles index last i =
      if index ≤ i ∧ i < last then handles (i + 1) else handles i := by
  unfold shiftHandles
  generalize gap : last - index = steps
  induction steps generalizing handles index with
  | zero =>
      have outside : ¬(index ≤ i ∧ i < last) := by omega
      simp [outside]
  | succ steps ih =>
      rw [List.range'_succ, List.foldl_cons, ih _ (index + 1) (by omega)]
      by_cases here : i = index
      · subst here
        rw [if_neg (by omega), if_pos (by omega), Function.update_self]
      · by_cases behind : index + 1 ≤ i ∧ i < last
        · rw [if_pos behind, if_pos (by omega), Function.update_of_ne (by omega)]
        · rw [if_neg behind, if_neg (by omega), Function.update_of_ne here]

/-- What holds between the calls: the log leaves exactly the handles of the table live. -/
structure IpcWorld.Tracks (port : Handle) (world : IpcWorld) : Prop where
  service : world.server.handles 0 = port
  followed : follow [port] world.events = some world.server.table
  started : 1 ≤ world.server.count
  bounded : world.server.count ≤ world.server.max
  array : world.server.max ≤ maxWaitObjects

/-- A session that the kernel hands out in the call is no handle that is live. -/
def IpcWorld.HandsOutFresh (port : Handle) (world : IpcWorld) (answers : KernelAnswers) : Prop :=
  answers.waited = (0, 0) → answers.accepted.1 = 0 →
    ∀ live, follow [port] world.events = some live → answers.accepted.2 ∉ live

namespace IpcWorld.Tracks

variable {port : Handle} {world : IpcWorld} {index : Nat}

theorem nodup (tracks : Tracks port world) : world.server.table.Nodup :=
  follow_nodup (List.nodup_singleton port) tracks.followed

theorem getElem_table {server : IpcServer} (inside : index < server.table.length) :
    server.table[index] = server.handles index := by
  simp [IpcServer.table]

theorem handle_mem (inside : index < world.server.count) :
    world.server.handles index ∈ world.server.table :=
  List.mem_map.mpr ⟨index, List.mem_range.mpr inside, rfl⟩

theorem used (tracks : Tracks port world) (inside : index < world.server.count) :
    Tracks port (world.log (.used (world.server.handles index))) where
  service := tracks.service
  followed := by
    refine (follow_snoc tracks.followed _).trans ?_
    rw [follow, if_pos (handle_mem inside)]
    rfl
  started := tracks.started
  bounded := tracks.bounded
  array := tracks.array

/-- A session is closed and taken out of the table, from wherever it stands. -/
theorem deleted (tracks : Tracks port world) (session : 0 < index)
    (inside : index < world.server.count) : Tracks port (ipcServerDeleteSession world index).2 := by
  have deleted : (ipcServerDeleteSession world index).2 =
      { events := world.events ++ [.closed (world.server.handles index)]
        server := { world.server with
          handles := shiftHandles world.server.handles index (world.server.count - 1)
          count := world.server.count - 1 } } := by
    rw [ipcServerDeleteSession, if_neg (by omega)]
    rfl
  rw [deleted]
  refine
    { service := ?_
      followed := ?_
      started := by simp only; omega
      bounded := by have := tracks.bounded; simp only; omega
      array := tracks.array }
  · simp only [shiftHandles_apply]
    rw [if_neg (by omega), tracks.service]
  · have here : index < world.server.table.length := by simpa using inside
    refine (follow_snoc tracks.followed _).trans ?_
    rw [follow, if_pos (handle_mem inside), follow, Option.some.injEq, ← getElem_table here,
      tracks.nodup.erase_getElem]
    refine List.ext_getElem (by simp [List.length_eraseIdx, inside]) fun i before after => ?_
    simp only [IpcServer.table, List.getElem_map, List.getElem_range, List.getElem_eraseIdx,
      shiftHandles_apply]
    simp only [IpcServer.table, List.length_map, List.length_range] at after
    by_cases front : i < index
    · rw [dif_pos front, if_neg (by omega)]
    · rw [dif_neg front, if_pos (by omega)]

theorem deleted_table (tracks : Tracks port world) (session : 0 < index)
    (inside : index < world.server.count) :
    (ipcServerDeleteSession world index).2.server.table =
        world.server.table.erase (world.server.handles index) ∧
      (ipcServerDeleteSession world index).2.events.getLast? =
        some (.closed (world.server.handles index)) := by
  have events : (ipcServerDeleteSession world index).2.events =
      world.events ++ [.closed (world.server.handles index)] := by
    rw [ipcServerDeleteSession, if_neg (by omega)]
    rfl
  have followed := (tracks.deleted session inside).followed
  rw [events, follow_snoc tracks.followed, follow, if_pos (handle_mem inside), follow] at followed
  refine ⟨(Option.some.inj followed).symm, ?_⟩
  rw [events, List.getLast?_concat]

theorem opened (tracks : Tracks port world) {session : Handle}
    (fresh : session ∉ world.server.table) (room : world.server.count < world.server.max) :
    Tracks port { world.log (.opened session) with server := world.server.append session } where
  service := by
    have started := tracks.started
    simp only [IpcServer.append]
    rw [Function.update_of_ne (by omega), tracks.service]
  followed := by
    refine (follow_snoc tracks.followed _).trans ?_
    rw [follow, if_neg fresh, IpcServer.append_table]
    rfl
  started := Nat.le_add_left 1 _
  bounded := room
  array := tracks.array

/-- A session that finds no room leaves no handle behind. -/
theorem rejected (tracks : Tracks port world) {session : Handle}
    (fresh : session ∉ world.server.table) :
    Tracks port ((world.log (.opened session)).log (.closed session)) where
  service := tracks.service
  followed := by
    have opened : follow [port] (world.log (.opened session)).events =
        some (world.server.table ++ [session]) := by
      refine (follow_snoc tracks.followed _).trans ?_
      rw [follow, if_neg fresh]
      rfl
    refine (follow_snoc opened _).trans ?_
    rw [follow, if_pos (by simp), follow, List.erase_append_right _ fresh]
    simp [IpcWorld.log]
  started := tracks.started
  bounded := tracks.bounded
  array := tracks.array

theorem ipcServerProcessNewSession (tracks : Tracks port world) {answers : KernelAnswers}
    (fresh : answers.accepted.1 = 0 → answers.accepted.2 ∉ world.server.table) :
    Tracks port (ipcServerProcessNewSession world answers).2 := by
  have asked := tracks.used tracks.started
  unfold Sysmodule.ipcServerProcessNewSession
  by_cases failed : answers.accepted.1 = 0
  · simp only [failed, ne_eq, not_true_eq_false, if_false]
    rcases IpcServer.ipcServerAddSession_cases world.server answers.accepted.2 with
      ⟨room, added⟩ | full
    · have added := asked.opened (fresh failed) room
      simpa [IpcWorld.log, *] using added
    · have closed := asked.rejected (fresh failed)
      simpa [IpcWorld.log, full, libnxOutOfMemory, makeResult] using closed
  · simpa [failed] using asked

theorem ipcServerProcessSession (tracks : Tracks port world) (answers : KernelAnswers)
    (session : 0 < index) (inside : index < world.server.count) :
    Tracks port (ipcServerProcessSession world answers index).2 := by
  have received := tracks.used inside
  have replied := received.used inside
  have given (world : IpcWorld) (rc : Result) (close : Prop) [Decidable close]
      (tracks : Tracks port world) (inside : index < world.server.count) :
      Tracks port (if close then (rc, (ipcServerDeleteSession world index).2) else (rc, world)).2 := by
    split
    · exact tracks.deleted session inside
    · exact tracks
  unfold Sysmodule.ipcServerProcessSession
  by_cases parsed : (if answers.received.1 = 0 then ipcServerParseRequest answers.received.2
      else answers.received.1) = 0
  · simp only [parsed, if_true]
    exact given _ _ _ replied inside
  · simp only [parsed, if_false]
    exact given _ _ _ received inside

/-- A session goes in the very call in which its client closes it, is gone, or sends what cannot be
read; otherwise the table stays. -/
theorem ipcServerProcessSession_table (tracks : Tracks port world) (answers : KernelAnswers)
    (session : 0 < index) (inside : index < world.server.count) :
    let after := (Sysmodule.ipcServerProcessSession world answers index).2
    (answers.EndsSession →
        after.server.table = world.server.table.erase (world.server.handles index) ∧
          after.events.getLast? = some (.closed (world.server.handles index))) ∧
      (¬answers.EndsSession → after.server = world.server) := by
  have gone (served : IpcWorld) (same : served.server = world.server)
      (tracks : Tracks port served) :
      (ipcServerDeleteSession served index).2.server.table =
          world.server.table.erase (world.server.handles index) ∧
        (ipcServerDeleteSession served index).2.events.getLast? =
          some (.closed (world.server.handles index)) := by
    rw [← same]
    exact tracks.deleted_table session (by rwa [same])
  have received := tracks.used inside
  have replied := received.used inside
  intro after
  unfold after Sysmodule.ipcServerProcessSession KernelAnswers.EndsSession
  by_cases parsed : (if answers.received.1 = 0 then ipcServerParseRequest answers.received.2
      else answers.received.1) = 0
  · obtain ⟨arrived, wellFormed⟩ := answers.parsed_iff.mp parsed
    simp only [arrived, wellFormed, if_true, ne_eq, not_true_eq_false, false_or, decide_eq_true_eq,
      answers.replyFails_iff]
    by_cases ends : (¬answers.replied = 0 ∧ ¬answers.replied = kernelTimedOut) ∨
        answers.received.2.type = cmifClose
    · rw [if_pos ends]
      exact ⟨fun _ => gone _ rfl replied, fun stays => absurd ends stays⟩
    · rw [if_neg ends]
      exact ⟨fun closes => absurd closes ends, fun _ => rfl⟩
  · have unread : answers.received.1 ≠ 0 ∨ ipcServerParseRequest answers.received.2 ≠ 0 :=
      Classical.not_and_iff_not_or_not.mp (mt answers.parsed_iff.mpr parsed)
    simp only [parsed, if_false, ne_eq, not_false_eq_true, true_or, if_true]
    exact ⟨fun _ => gone _ rfl received,
      fun stays => absurd (unread.imp_right .inl) stays⟩

theorem ipcServerProcess (tracks : Tracks port world) {answers : KernelAnswers}
    (fresh : world.HandsOutFresh port answers) :
    Tracks port (ipcServerProcess world answers).2 := by
  unfold Sysmodule.ipcServerProcess
  by_cases found : answers.waited.1 = 0 ∧
      ¬(answers.waited.2 < 0 ∨ answers.waited.2 ≥ world.server.count)
  · obtain ⟨succeeded, inside⟩ := found
    simp only [succeeded, inside, and_false, if_false, ne_eq, not_true_eq_false]
    by_cases session : answers.waited.2 = 0
    · simp only [session, not_true_eq_false, if_false]
      refine tracks.ipcServerProcessNewSession fun accepted => ?_
      exact fresh (Prod.ext succeeded session) accepted _ tracks.followed
    · have positive : 0 < answers.waited.2.toNat := by omega
      have below : answers.waited.2.toNat < world.server.count := by omega
      rw [if_pos session]
      exact tracks.ipcServerProcessSession answers positive below
  · have failed : (if answers.waited.1 = 0 ∧
        (answers.waited.2 < 0 ∨ answers.waited.2 ≥ world.server.count) then libnxNotFound
        else answers.waited.1) ≠ 0 := by
      split
      · decide
      · tauto
    simp only [if_pos failed]
    exact tracks

theorem ipcServerExit (tracks : Tracks port world) (unregistered : Result) :
    follow [port] (ipcServerExit world unregistered).2.events = some [] := by
  have closed : (Sysmodule.ipcServerExit world unregistered).2.events =
      world.events ++ world.server.table.map .closed := by
    simp [Sysmodule.ipcServerExit, IpcServer.table, Function.comp_def]
  rw [closed, follow_append, tracks.followed, Option.bind_some, follow_closeAll]

theorem ipcServerInit {before server : IpcServer} {name : String} {maxSessions : Nat}
    {registered : Result × Handle}
    (started : ipcServerInit before name maxSessions registered = (0, server)) :
    Tracks registered.2 { server, events := [] } := by
  unfold Sysmodule.ipcServerInit at started
  split at started
  · exact absurd (Prod.mk.inj started).1 (by decide)
  · simp only at started
    split at started
    · obtain ⟨-, rfl⟩ := Prod.mk.inj started
      have limit : maxWaitObjects = 64 := rfl
      exact
        { service := by simp only [Function.update_self]
          followed := by simp [follow, IpcServer.table]
          started := Nat.le_refl 1
          bounded := Nat.le_add_left 1 maxSessions
          array := by simp only; omega }
    · rename_i failed
      exact absurd (Prod.mk.inj started).1 failed

end IpcWorld.Tracks

/-- The log of a run from `ipcServerInit` on, until `ipcServerExit`. -/
theorem ipc_sessions_closed_once {before server : IpcServer} {name : String} {maxSessions : Nat}
    {registered : Result × Handle}
    (started : ipcServerInit before name maxSessions registered = (0, server))
    (calls : List KernelAnswers)
    (fresh : Guarded (fun world answers => (ipcServerProcess world answers).2)
      (IpcWorld.HandsOutFresh registered.2) { server, events := [] } calls) (unregistered : Result) :
    Always (fun world answers => (ipcServerProcess world answers).2)
        (fun world => world.server.handles 0 = registered.2 ∧
          follow [registered.2] world.events = some (registered.2 :: world.server.sessions) ∧
          (registered.2 :: world.server.sessions).Nodup ∧
          world.server.count ≤ world.server.max ∧ world.server.max ≤ maxWaitObjects)
        { server, events := [] } calls ∧
      let last := run (fun world answers => (ipcServerProcess world answers).2)
        { server, events := [] } calls
      let events := (ipcServerExit last unregistered).2.events
      follow [registered.2] events = some [] ∧
        ∀ handle, [registered.2].count handle + events.count (.opened handle) =
          events.count (.closed handle) := by
  have tracks := IpcWorld.Tracks.ipcServerInit started
  have always : Always (fun world answers => (ipcServerProcess world answers).2)
      (IpcWorld.Tracks registered.2) { server, events := [] } calls :=
    always_of_guarded tracks (fun _ _ _ tracks fresh => tracks.ipcServerProcess fresh) fresh
  refine ⟨always.mono fun world tracks => ?_, ?_⟩
  · have table := IpcServer.table_eq tracks.started
    rw [tracks.service] at table
    rw [← table]
    exact ⟨tracks.service, tracks.followed, tracks.nodup, tracks.bounded, tracks.array⟩
  · have exited := always.last.ipcServerExit unregistered
    refine ⟨exited, fun handle => ?_⟩
    rw [follow_count exited handle, List.count_nil, Nat.zero_add]

/-- The answers of a call in which the kernel hands out a session. -/
def handsOut (session : Handle) : KernelAnswers :=
  { waited := (0, 0)
    accepted := (0, session)
    received := (0, { type := cmifClose, numDataWords := 0, headerMagic := none })
    replied := kernelTimedOut }

/-- The second of two sessions finds no room, and is closed once. -/
theorem ipc_sessions_closed_once_full :
    let server : IpcServer := { srvName := "", handles := fun _ => 0, max := 0, count := 0 }
    let ready := (ipcServerInit server "hoc:clk" 1 (0, 3)).2
    let last := run (fun world answers => (ipcServerProcess world answers).2)
      { server := ready, events := [] } [handsOut 5, handsOut 6]
    last.server.sessions = [5] ∧ (ipcServerExit last 0).2.events.count (.closed 6) = 1 := by
  intro server ready last
  have fresh : Guarded (fun world answers => (ipcServerProcess world answers).2)
      (IpcWorld.HandsOutFresh 3) { server := ready, events := [] } [handsOut 5, handsOut 6] := by
    refine ⟨fun _ _ live followed => ?_, fun _ _ live followed => ?_, trivial⟩
    · rw [← Option.some.inj followed]
      decide
    · rw [← Option.some.inj followed]
      decide
  have started : ipcServerInit server "hoc:clk" 1 (0, 3) = (0, ready) := rfl
  have once := ipc_sessions_closed_once started [handsOut 5, handsOut 6] fresh 0
  refine ⟨by decide, (once.2.2 6).symm.trans ?_⟩
  decide

end HorizonOc.Sysmodule
