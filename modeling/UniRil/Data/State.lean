import UniRil.AtTok
import UniRil.Command.Code
import UniRil.Lib.StateRules
import Mathlib.Logic.Function.Basic

/-!
# The state of ril_data.c

Arrays are functions of the index. What the SIMs have each for themselves is in `Sim`, what they
share in `Shared`. `Env` is what comes from outside during one operation, and the log records what
goes out.
-/

namespace UniRil.Data

open StateRules

abbrev Line := List Byte

def MAX_PDP : Int := 6
def MAX_PDP_NUM : Int := 12
def UNUSABLE_CID : Int := 0

def DATA_ACTIVE_FALLBACK_FAILED : Int := -2
def DATA_ACTIVE_FAILED : Int := -1
def DATA_ACTIVE_SUCCESS : Int := 0
def DATA_ACTIVE_NEED_RETRY : Int := 1
def DATA_ACTIVE_NEED_FALLBACK : Int := 2
def DATA_ACTIVE_NEED_RETRY_FOR_ANOTHER_CID : Int := 3

inductive RIL_SOCKET_ID
  | RIL_SOCKET_1
  | RIL_SOCKET_2
  deriving DecidableEq

inductive IPType
  | UNKNOWN
  | IPV4
  | IPV6
  | IPV4V6
  deriving DecidableEq

inductive PDPState
  | PDP_IDLE
  | PDP_BUSY
  deriving DecidableEq

inductive States
  | OPEN
  | REUSE
  | CLOSE
  deriving DecidableEq

/-- The constants `PDP_STATE_*`. -/
inductive PDP_STATE
  | IDLE
  | ACTING
  | CONNECT
  | ESTING
  | ACTIVE
  | DEACTING
  | ACT_ERROR
  | EST_UP_ERROR
  deriving DecidableEq

/-- The members of `RIL_DataCallFailCause` that this file stores. -/
inductive FailCause
  | PDP_FAIL_NONE
  | PDP_FAIL_OPERATOR_BARRED
  | PDP_FAIL_INSUFFICIENT_RESOURCES
  | PDP_FAIL_MISSING_UKNOWN_APN
  | PDP_FAIL_UNKNOWN_PDP_ADDRESS_TYPE
  | PDP_FAIL_USER_AUTHENTICATION
  | PDP_FAIL_ACTIVATION_REJECT_GGSN
  | PDP_FAIL_ACTIVATION_REJECT_UNSPECIFIED
  | PDP_FAIL_SERVICE_OPTION_NOT_SUPPORTED
  | PDP_FAIL_SERVICE_OPTION_NOT_SUBSCRIBED
  | PDP_FAIL_SERVICE_OPTION_OUT_OF_ORDER
  | PDP_FAIL_NSAPI_IN_USE
  | PDP_FAIL_MAX_ACTIVE_PDP_CONTEXT_REACHED
  | PDP_FAIL_PROTOCOL_ERRORS
  | PDP_FAIL_ERROR_UNSPECIFIED
  deriving DecidableEq

inductive RIL_Errno
  | RIL_E_SUCCESS
  | RIL_E_GENERIC_FAILURE
  | RIL_E_INVALID_CALL_ID
  deriving DecidableEq

/-! ## The tables -/

structure PDPInfo where
  cid : Int
  secondary_cid : Int
  isPrimary : Bool
  state : PDPState
  deriving DecidableEq

structure OpenchannelInfo where
  cid : Int
  state : States
  pdpState : Bool
  count : Int
  deriving DecidableEq

structure PDNInfo where
  nCid : Int
  strIPType : Line
  strApn : Line
  strAttachApn : Line

structure PDP_INFO where
  dns1addr : Line
  dns2addr : Line
  ipladdr : Line
  ipv6dns1addr : Line
  ipv6dns2addr : Line
  ipv6laddr : Line
  ip_state : IPType
  state : PDP_STATE
  cid : Int

/-- The properties `vendor.net.veth<index>.*`. -/
structure NetProps where
  ip_type : IPType
  ip : Line
  dns1 : Line
  dns2 : Line
  ipv6_ip : Line
  ipv6_dns1 : Line
  ipv6_dns2 : Line

/-- The cells of the arrays indexed by `RIL_SOCKET_ID`. -/
structure Sim where
  s_PDP : Int → PDPInfo
  s_LTEDetached : Bool
  s_curCid : Int
  s_lastPDPFailCause : FailCause
  s_trafficClass : Int
  s_singlePDNAllowed : Int
  s_isSimPresent : Bool

structure Shared where
  s_openchannelInfo : Int → OpenchannelInfo
  s_openchannelCid : Int
  s_PDN : Int → PDNInfo
  s_activePDN : Int
  s_pdpType : IPType
  pdp_info : Int → PDP_INFO
  net : Int → NetProps
  s_SavedDns : Line
  s_SavedDns_IPV6 : Line

/-- What does not change while the data requests run: the build, the properties they read. -/
structure Config where
  s_isLTE : Bool
  /-- `s_roModemConfig == LWG_LWG` -/
  isLWG_LWG : Bool
  s_multiModeSim : RIL_SOCKET_ID
  useDefaultPDN : Bool
  /-- The property `ENG_QOS_PROP` is "0". -/
  qosDefault : Bool
  /-- The property `OVERSEA_VERSION`. -/
  carrier : Line
  isVoLteEnable : Bool
  /-- The property `DDR_STATUS_PROP` is "1". -/
  ddrStatus : Bool
  s_autoDetach : Bool
  /-- `s_presentSIMCount == SIM_COUNT` -/
  allSIMsPresent : Bool
  /-- `s_sessionId[socket_id] != 0` -/
  inSession : RIL_SOCKET_ID → Bool

/-! ## The outside -/

/-- What `at_send_command` gives back: an error code, or a response with its final line. -/
inductive Answer
  | failed (err : Command.ATError)
  | response (finalResponse : Line) (p_intermediates : List Line)
  deriving DecidableEq

inductive AtCommand
  | CGACT_0 (cid : Int)
  | CGACT_query
  | CGDCONT (cid : Int) (pdp_type apn : Line)
  | CGDCONT_query
  | CGPCO (username password : Line) (cid authtype : Int)
  | CGEQREQ (cid trafficClass : Int)
  /-- `"M-ETHER"` or `"PPP"`; a `primaryCid` that is not positive is left out of the text. -/
  | CGDATA (mEther : Bool) (cid primaryCid : Int)
  | CGCONTRDP (cid : Int)
  | SIPCONFIG (cid : Int)
  | SPACTFB_query
  | SPIPCONTEXT_query
  | SPVOOLTE (on : Bool)
  | SGFD
  | SPSWITCHDATACARD (socket_id : RIL_SOCKET_ID) (on : Bool)
  deriving DecidableEq

/-- The members of `RIL_Data_Call_Response_v11` that depend on the modem. -/
structure DataCall where
  status : Option FailCause
  cid : Int
  active : Int
  type : Line
  addresses : Line
  dnses : Line

inductive Event
  | at_send_command (cmd : AtCommand)
  | cgact_deact_cmd_rsp (cid : Int)
  /-- The log line of `getPDP` and of `getPDPByIndex`. -/
  | getPDP (index : Int)
  | RIL_onRequestComplete (e : RIL_Errno) (calls : List DataCall)
  | RIL_UNSOL_DATA_CALL_LIST_CHANGED (calls : List DataCall)

/-- What uninitialised locals hold. -/
structure Stack where
  active : Int
  apn : Line
  type : Int
  /-- What lies behind the array `responses`. -/
  responses : Int → DataCall

/-- The answers to come, the outcomes of `getIPV6Addr` to come and the stack. After the last
answer the modem is silent. -/
structure Env where
  answers : List Answer
  ipv6Addrs : List (Option Line)
  stack : Stack

structure World where
  sim : RIL_SOCKET_ID → Sim
  shared : Shared
  env : Env
  log : List Event

abbrev M := StateM World

/-! ## Start -/

def s_PDP_init : PDPInfo := { cid := -1, secondary_cid := -1, isPrimary := false, state := .PDP_IDLE }

def Sim.init : Sim where
  s_PDP := fun _ => s_PDP_init
  s_LTEDetached := false
  s_curCid := 0
  s_lastPDPFailCause := .PDP_FAIL_ERROR_UNSPECIFIED
  s_trafficClass := 2
  s_singlePDNAllowed := 0
  s_isSimPresent := true

def PDP_INFO.init : PDP_INFO where
  dns1addr := []
  dns2addr := []
  ipladdr := []
  ipv6dns1addr := []
  ipv6dns2addr := []
  ipv6laddr := []
  ip_state := .UNKNOWN
  state := .IDLE
  cid := 0

def Shared.init : Shared where
  s_openchannelInfo := fun _ => { cid := -1, state := .CLOSE, pdpState := false, count := 0 }
  s_openchannelCid := -1
  s_PDN := fun _ => { nCid := -1, strIPType := [], strApn := [], strAttachApn := [] }
  s_activePDN := 0
  s_pdpType := .IPV4V6
  pdp_info := fun _ => .init
  net := fun _ =>
    { ip_type := .UNKNOWN, ip := [], dns1 := [], dns2 := [], ipv6_ip := [], ipv6_dns1 := [], ipv6_dns2 := [] }
  s_SavedDns := []
  s_SavedDns_IPV6 := []

/-- The process after `ps_service_init`, with the SIMs present. -/
def World.init (env : Env) : World :=
  { sim := fun _ => .init, shared := .init, env := env, log := [] }

/-! ## Reads and writes -/

def readSim {α : Type} (socket_id : RIL_SOCKET_ID) (f : Sim → α) : M α := reads fun w => f (w.sim socket_id)

def readShared {α : Type} (f : Shared → α) : M α := reads fun w => f w.shared

def World.setSim (w : World) (socket_id : RIL_SOCKET_ID) (f : Sim → Sim) : World :=
  { w with sim := Function.update w.sim socket_id (f (w.sim socket_id)) }

def modifySim (socket_id : RIL_SOCKET_ID) (f : Sim → Sim) : M Unit := modify fun w => w.setSim socket_id f

def modifyShared (f : Shared → Shared) : M Unit := modify fun w => { w with shared := f w.shared }

def note (e : Event) : M Unit := modify fun w => { w with log := w.log ++ [e] }

def Sim.setPDP (m : Sim) (index : Int) (f : PDPInfo → PDPInfo) : Sim :=
  { m with s_PDP := Function.update m.s_PDP index (f (m.s_PDP index)) }

def Shared.setChannel (g : Shared) (index : Int) (f : OpenchannelInfo → OpenchannelInfo) : Shared :=
  { g with s_openchannelInfo := Function.update g.s_openchannelInfo index (f (g.s_openchannelInfo index)) }

def Shared.setInfo (g : Shared) (index : Int) (f : PDP_INFO → PDP_INFO) : Shared :=
  { g with pdp_info := Function.update g.pdp_info index (f (g.pdp_info index)) }

def Shared.setNet (g : Shared) (index : Int) (f : NetProps → NetProps) : Shared :=
  { g with net := Function.update g.net index (f (g.net index)) }

def setFailCause (socket_id : RIL_SOCKET_ID) (cause : FailCause) : M Unit :=
  modifySim socket_id fun m => { m with s_lastPDPFailCause := cause }

/-! ## The modem -/

/-- An error code and no response, or 0 and the response. -/
abbrev Reply := Except Command.ATError Command.ATResponse

def Answer.reply : Answer → Reply
  | .failed err => .error err
  | .response finalResponse lines =>
    .ok { success := Command.isFinalResponseSuccess finalResponse
          finalResponse := some finalResponse
          p_intermediates := lines }

/-- `err >= 0 && p_response->success != 0` -/
def Reply.success : Reply → Bool
  | .error _ => false
  | .ok p_response => p_response.success

/-- `err == AT_ERROR_TIMEOUT` -/
def Reply.isTimeout : Reply → Bool
  | .error .TIMEOUT => true
  | _ => false

def Reply.p_intermediates : Reply → List Line
  | .error _ => []
  | .ok p_response => p_response.p_intermediates

def Env.next (env : Env) : Answer × Env :=
  match env.answers with
  | [] => (.failed .TIMEOUT, env)
  | a :: answers => (a, { env with answers := answers })

def at_send_command (cmd : AtCommand) : M Reply := fun w =>
  (w.env.next.1.reply, { w with env := w.env.next.2, log := w.log ++ [.at_send_command cmd] })

def RIL_onRequestComplete (e : RIL_Errno) (calls : List DataCall) : M Unit :=
  note (.RIL_onRequestComplete e calls)

end UniRil.Data
