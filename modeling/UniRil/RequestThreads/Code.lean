import Mathlib.Logic.Function.Basic
import UniRil.Lib.Runs

/-!
# Request dispatch of request_threads.c

A dispatch thread, its mutex and condition variable, its request lists and the `enqueueRequest`
calls that signal it form a station. The lists change only under `listMutex`, so an insertion and a
removal are one step each.
-/

namespace UniRil.RequestThreads

/-! ## Request classes -/

def RIL_REQUEST_SEND_SMS : Nat := 25
def RIL_REQUEST_SEND_SMS_EXPECT_MORE : Nat := 26
def RIL_REQUEST_IMS_SEND_SMS : Nat := 113
def RIL_REQUEST_QUERY_FACILITY_LOCK : Nat := 42
def RIL_REQUEST_SET_FACILITY_LOCK : Nat := 43
def RIL_REQUEST_QUERY_CALL_FORWARD_STATUS : Nat := 33
def RIL_REQUEST_QUERY_CALL_FORWARD_STATUS_URI : Nat := 4069
def RIL_REQUEST_SET_CALL_FORWARD : Nat := 34
def RIL_REQUEST_SET_CALL_FORWARD_URI : Nat := 4070
def RIL_REQUEST_GET_CLIR : Nat := 31
def RIL_REQUEST_SET_CLIR : Nat := 32
def RIL_REQUEST_QUERY_CALL_WAITING : Nat := 35
def RIL_REQUEST_SET_CALL_WAITING : Nat := 36
def RIL_REQUEST_QUERY_CLIP : Nat := 55
def RIL_EXT_REQUEST_GET_CNAP : Nat := 4096
def RIL_REQUEST_RADIO_POWER : Nat := 23
def RIL_REQUEST_DIAL : Nat := 10
def RIL_REQUEST_DTMF : Nat := 24
def RIL_REQUEST_DTMF_START : Nat := 49
def RIL_REQUEST_DTMF_STOP : Nat := 50
def RIL_REQUEST_HANGUP : Nat := 12
def RIL_REQUEST_HANGUP_WAITING_OR_BACKGROUND : Nat := 13
def RIL_REQUEST_HANGUP_FOREGROUND_RESUME_BACKGROUND : Nat := 14
def RIL_REQUEST_ANSWER : Nat := 40
def RIL_REQUEST_GET_CURRENT_CALLS : Nat := 9
def RIL_REQUEST_CONFERENCE : Nat := 16
def RIL_REQUEST_UDUB : Nat := 17
def RIL_REQUEST_SEPARATE_CONNECTION : Nat := 52
def RIL_REQUEST_SWITCH_WAITING_OR_HOLDING_AND_ACTIVE : Nat := 15
def RIL_REQUEST_SET_PREFERRED_NETWORK_TYPE : Nat := 73
def RIL_REQUEST_SET_RADIO_CAPABILITY : Nat := 131
def RIL_REQUEST_SEND_DEVICE_STATE : Nat := 138
def RIL_REQUEST_IMS_CALL_RESPONSE_MEDIA_CHANGE : Nat := 4065
def RIL_REQUEST_IMS_CALL_REQUEST_MEDIA_CHANGE : Nat := 4064
def RIL_REQUEST_IMS_CALL_FALL_BACK_TO_VOICE : Nat := 4067
def RIL_REQUEST_IMS_INITIAL_GROUP_CALL : Nat := 4071
def RIL_REQUEST_IMS_ADD_TO_GROUP_CALL : Nat := 4072
def RIL_REQUEST_SET_IMS_VOICE_CALL_AVAILABILITY : Nat := 4061
def RIL_REQUEST_GET_IMS_VOICE_CALL_AVAILABILITY : Nat := 4062
def RIL_REQUEST_GET_IMS_CURRENT_CALLS : Nat := 4060
def RIL_EXT_REQUEST_SET_EMERGENCY_ONLY : Nat := 4101
def RIL_EXT_REQUEST_VIDEOPHONE_DIAL : Nat := 4001
def RIL_EXT_REQUEST_SWITCH_MULTI_CALL : Nat := 4007
def RIL_EXT_REQUEST_GET_HD_VOICE_STATE : Nat := 4013
def RIL_EXT_REQUEST_SIMMGR_SIM_POWER : Nat := 4014
def RIL_EXT_REQUEST_GET_RADIO_PREFERENCE : Nat := 4058
def RIL_EXT_REQUEST_SET_RADIO_PREFERENCE : Nat := 4059
def RIL_REQUEST_SIM_IO : Nat := 28
def RIL_REQUEST_WRITE_SMS_TO_SIM : Nat := 63
def RIL_REQUEST_DELETE_SMS_ON_SIM : Nat := 64
def RIL_REQUEST_GET_SMSC_ADDRESS : Nat := 100
def RIL_REQUEST_ALLOW_DATA : Nat := 123
def RIL_REQUEST_SETUP_DATA_CALL : Nat := 27
def RIL_REQUEST_DEACTIVATE_DATA_CALL : Nat := 41

inductive ATCmdType
  | SLOW
  | NORMAL_SLOW
  | NORMAL_FAST
  | DATA
  | OTHER
  deriving DecidableEq

def slowRequests : List Nat :=
  [RIL_REQUEST_SEND_SMS, RIL_REQUEST_SEND_SMS_EXPECT_MORE, RIL_REQUEST_IMS_SEND_SMS,
    RIL_REQUEST_QUERY_FACILITY_LOCK, RIL_REQUEST_SET_FACILITY_LOCK, RIL_REQUEST_QUERY_CALL_FORWARD_STATUS,
    RIL_REQUEST_QUERY_CALL_FORWARD_STATUS_URI, RIL_REQUEST_SET_CALL_FORWARD,
    RIL_REQUEST_SET_CALL_FORWARD_URI, RIL_REQUEST_GET_CLIR, RIL_REQUEST_SET_CLIR,
    RIL_REQUEST_QUERY_CALL_WAITING, RIL_REQUEST_SET_CALL_WAITING, RIL_REQUEST_QUERY_CLIP,
    RIL_EXT_REQUEST_GET_CNAP]

def normalFastRequests : List Nat :=
  [RIL_REQUEST_RADIO_POWER, RIL_REQUEST_DIAL, RIL_REQUEST_DTMF, RIL_REQUEST_DTMF_START,
    RIL_REQUEST_DTMF_STOP, RIL_REQUEST_HANGUP, RIL_REQUEST_HANGUP_WAITING_OR_BACKGROUND,
    RIL_REQUEST_HANGUP_FOREGROUND_RESUME_BACKGROUND, RIL_REQUEST_ANSWER, RIL_REQUEST_GET_CURRENT_CALLS,
    RIL_REQUEST_CONFERENCE, RIL_REQUEST_UDUB, RIL_REQUEST_SEPARATE_CONNECTION,
    RIL_REQUEST_SWITCH_WAITING_OR_HOLDING_AND_ACTIVE, RIL_REQUEST_SET_PREFERRED_NETWORK_TYPE,
    RIL_REQUEST_SET_RADIO_CAPABILITY, RIL_REQUEST_SEND_DEVICE_STATE,
    RIL_REQUEST_IMS_CALL_RESPONSE_MEDIA_CHANGE, RIL_REQUEST_IMS_CALL_REQUEST_MEDIA_CHANGE,
    RIL_REQUEST_IMS_CALL_FALL_BACK_TO_VOICE, RIL_REQUEST_IMS_INITIAL_GROUP_CALL,
    RIL_REQUEST_IMS_ADD_TO_GROUP_CALL, RIL_REQUEST_SET_IMS_VOICE_CALL_AVAILABILITY,
    RIL_REQUEST_GET_IMS_VOICE_CALL_AVAILABILITY, RIL_REQUEST_GET_IMS_CURRENT_CALLS,
    RIL_EXT_REQUEST_SET_EMERGENCY_ONLY, RIL_EXT_REQUEST_VIDEOPHONE_DIAL, RIL_EXT_REQUEST_SWITCH_MULTI_CALL,
    RIL_EXT_REQUEST_GET_HD_VOICE_STATE, RIL_EXT_REQUEST_SIMMGR_SIM_POWER,
    RIL_EXT_REQUEST_GET_RADIO_PREFERENCE, RIL_EXT_REQUEST_SET_RADIO_PREFERENCE]

def normalSlowRequests : List Nat :=
  [ RIL_REQUEST_SIM_IO, RIL_REQUEST_WRITE_SMS_TO_SIM, RIL_REQUEST_DELETE_SMS_ON_SIM,
    RIL_REQUEST_GET_SMSC_ADDRESS]

/-- `s_simCount` and what `isLLVersion` reads from the modem configuration. -/
structure Config where
  s_simCount : Nat
  isLLVersion : Bool

def getCmdType (cfg : Config) (request : Nat) : ATCmdType :=
  if request ∈ slowRequests then .SLOW
  else if request ∈ normalFastRequests then .NORMAL_FAST
  else if request ∈ normalSlowRequests then .NORMAL_SLOW
  else if request = RIL_REQUEST_ALLOW_DATA ∨ request = RIL_REQUEST_SETUP_DATA_CALL then
    if cfg.s_simCount = 1 then .SLOW else .DATA
  else if cfg.isLLVersion ∧ cfg.s_simCount > 1 ∧ request = RIL_REQUEST_DEACTIVATE_DATA_CALL then .DATA
  else .OTHER

/-! ## One station -/

/-- The fields `data` and `datalen` are passed on unread. -/
structure RequestInfo where
  request : Nat
  token : Nat
  socket_id : Nat
  deriving DecidableEq

/-- Where a dispatch thread is. -/
inductive Pc
  /-- Before `pthread_mutex_lock`. -/
  | lock
  /-- In the emptiness test, with these lists still to look at. -/
  | test (rem : List ATCmdType)
  /-- Before `pthread_cond_wait`. -/
  | wait
  /-- In `pthread_cond_wait`. -/
  | blocked
  /-- Woken up and waiting for the mutex. -/
  | woken
  /-- Before `pthread_mutex_unlock`. -/
  | unlock
  /-- In the condition of the inner loop. -/
  | scan (rem : List ATCmdType)
  /-- Before the choice of `cmd_item`. -/
  | pick
  /-- Before `processRequest`, or `thread_pool_dispatch` for the other class. -/
  | execute (cmdType : ATCmdType) (r : RequestInfo)
  /-- Before `request_list_remove`. -/
  | remove (cmdType : ATCmdType) (r : RequestInfo)

/-- Where a call of `enqueueRequest` is, after its insertion. -/
inductive Caller
  /-- Before `pthread_mutex_lock`. -/
  | inserted
  /-- Before `pthread_cond_signal`. -/
  | locked
  /-- Before `pthread_mutex_unlock`. -/
  | signalled

structure Station where
  lists : ATCmdType → List RequestInfo
  pc : Pc
  mutex : Bool
  callers : List Caller
  /-- The requests executed, or handed to the pool, by list and in order. -/
  executed : ATCmdType → List RequestInfo

def Station.init : Station :=
  { lists := fun _ => [], pc := .lock, mutex := false, callers := [], executed := fun _ => [] }

/-- The list `cmd_item` is taken from: an earlier list has priority, the last one is not tested. -/
def pickList (lists : ATCmdType → List RequestInfo) : List ATCmdType → Option ATCmdType
  | [] => none
  | [cmdType] => some cmdType
  | cmdType :: rest => if (lists cmdType).isEmpty then pickList lists rest else some cmdType

/-- The next step of a dispatch thread that serves the lists `served`. -/
def dispatch (served : List ATCmdType) (st : Station) : Option Station :=
  match st.pc with
  | .lock => if st.mutex then none else some { st with mutex := true, pc := .test served }
  | .test [] => some { st with pc := .wait }
  | .test (cmdType :: rem) => some { st with pc := if (st.lists cmdType).isEmpty then .test rem else .unlock }
  | .wait => some { st with mutex := false, pc := .blocked }
  | .blocked => none
  | .woken => if st.mutex then none else some { st with mutex := true, pc := .unlock }
  | .unlock => some { st with mutex := false, pc := .scan served }
  | .scan [] => some { st with pc := .lock }
  | .scan (cmdType :: rem) => some { st with pc := if (st.lists cmdType).isEmpty then .scan rem else .pick }
  | .pick =>
    (pickList st.lists served).bind fun cmdType =>
      (st.lists cmdType).head?.map fun r => { st with pc := .execute cmdType r }
  | .execute cmdType r =>
    some
      { st with
        pc := .remove cmdType r
        executed := Function.update st.executed cmdType (st.executed cmdType ++ [r]) }
  | .remove cmdType r =>
    some
      { st with
        pc := .scan served
        lists := Function.update st.lists cmdType ((st.lists cmdType).erase r) }

/-- The next step of the `i`-th call of `enqueueRequest`. -/
def callerStep (i : Nat) (st : Station) : Option Station :=
  match st.callers[i]? with
  | none => none
  | some .inserted => if st.mutex then none else some { st with mutex := true, callers := st.callers.set i .locked }
  | some .locked =>
    some
      { st with
        callers := st.callers.set i .signalled
        pc := match st.pc with
          | .blocked => .woken
          | pc => pc }
  | some .signalled => some { st with mutex := false, callers := st.callers.eraseIdx i }

inductive Move
  | dispatch
  | caller (i : Nat)
  /-- `pthread_cond_wait` returns without a signal. -/
  | spurious
  /-- `thread_pool_dispatch` fails and is tried again. -/
  | refused

inductive StationAct
  /-- The insertion of a call of `enqueueRequest`. -/
  | enqueue (cmdType : ATCmdType) (r : RequestInfo)
  | move (m : Move)

def stationStep (served : List ATCmdType) (st : Station) : StationAct → Option Station
  | .enqueue cmdType r =>
    if cmdType ∈ served then
      some
        { st with
          lists := Function.update st.lists cmdType (st.lists cmdType ++ [r])
          callers := st.callers ++ [.inserted] }
    else none
  | .move .dispatch => dispatch served st
  | .move (.caller i) => callerStep i st
  | .move .spurious =>
    match st.pc with
    | .blocked => some { st with pc := .woken }
    | _ => none
  | .move .refused =>
    match st.pc with
    | .execute .OTHER _ => some st
    | _ => none

/-! ## All stations -/

inductive Dispatcher
  | slowDispatch (socket_id : Nat)
  | normalDispatch (socket_id : Nat)
  | dataDispatch
  | otherDispatch (socket_id : Nat)
  deriving DecidableEq

/-- The lists a thread serves, in the order it looks at them. -/
def Dispatcher.served : Dispatcher → List ATCmdType
  | .slowDispatch _ => [.SLOW]
  | .normalDispatch _ => [.NORMAL_FAST, .NORMAL_SLOW]
  | .dataDispatch => [.DATA]
  | .otherDispatch _ => [.OTHER]

/-- The thread `enqueueRequest` signals for a request of this class. -/
def dispatcherOf (socket_id : Nat) : ATCmdType → Dispatcher
  | .SLOW => .slowDispatch socket_id
  | .NORMAL_SLOW | .NORMAL_FAST => .normalDispatch socket_id
  | .DATA => .dataDispatch
  | .OTHER => .otherDispatch socket_id

inductive Act
  | enqueueRequest (r : RequestInfo)
  | move (d : Dispatcher) (m : Move)

def Act.at (cfg : Config) : Act → Dispatcher × StationAct
  | .enqueueRequest r =>
    let cmdType := getCmdType cfg r.request
    (dispatcherOf r.socket_id cmdType, .enqueue cmdType r)
  | .move d m => (d, .move m)

def init : Dispatcher → Station := fun _ => .init

def step (cfg : Config) (s : Dispatcher → Station) (a : Act) : Option (Dispatcher → Station) :=
  Runs.stepAt (fun d => stationStep d.served) s (a.at cfg)

end UniRil.RequestThreads
