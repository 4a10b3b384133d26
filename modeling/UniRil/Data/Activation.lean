import UniRil.Data.Context
import UniRil.Data.Slots

/-!
# Activation of one cid

The texts of the commands are left out; a command is its parameters.
-/

namespace UniRil.Data

open StateRules AtTok

/-- The strings behind `data` of a setup request; `pdpType` only when `datalen` says it is there. -/
structure SetupData where
  apn : Line
  username : Line
  password : Line
  authtype : Line
  pdpType : Option Line

/-- The numbers are the members of `RIL_CP_DataCallFailCause`. -/
def failCauseOf (cause : Int) : FailCause :=
  if cause ∈ [0x119, 0x1A, 0x101, 0x19, 0x118, 0x107, 0x110] then .PDP_FAIL_INSUFFICIENT_RESOURCES
  else if cause ∈ [0x115, 0x22] then .PDP_FAIL_SERVICE_OPTION_OUT_OF_ORDER
  else if cause ∈ [0x116, 0x1D] then .PDP_FAIL_USER_AUTHENTICATION
  else if cause ∈ [0x102, 0x104, 0x106, 0x10A, 0x1C, 0x51] then .PDP_FAIL_UNKNOWN_PDP_ADDRESS_TYPE
  else if cause ∈ [0x113, 0x20, 0x28, 0x25, 0x105, 0x10F, 0x10C, 0x70] then .PDP_FAIL_SERVICE_OPTION_NOT_SUPPORTED
  else if cause ∈ [0x108, 0x114, 0x21] then .PDP_FAIL_SERVICE_OPTION_NOT_SUBSCRIBED
  else if cause = 0x1E then .PDP_FAIL_ACTIVATION_REJECT_GGSN
  else if cause ∈ [0x1F, 0x10B, 0x2F] then .PDP_FAIL_ACTIVATION_REJECT_UNSPECIFIED
  else if cause ∈ [0x117, 0x1B] then .PDP_FAIL_MISSING_UKNOWN_APN
  else if cause ∈ [0x109, 0x23] then .PDP_FAIL_NSAPI_IN_USE
  else if cause = 0x08 then .PDP_FAIL_OPERATOR_BARRED
  else if cause ∈ [0x5F, 0x2A, 0x2C, 0x2D, 0x2E, 0x64, 0x61, 0x63, 0x65, 0x29, 0x62, 0x2B, 0x10E, 0x10D, 0x60, 0x100] then
    .PDP_FAIL_PROTOCOL_ERRORS
  else if cause = 0x41 then .PDP_FAIL_MAX_ACTIVE_PDP_CONTEXT_REACHED
  else .PDP_FAIL_ERROR_UNSPECIFIED

variable (cfg : Config) (socket_id : RIL_SOCKET_ID)

def convertFailCause (cause : Int) : M Unit := setFailCause socket_id (failCauseOf cause)

/-- The code of a `+CME ERROR:` line, or of another failure. -/
def cmeErrorCode (finalResponse : Line) : Option Int := (at_tok_nextint (at_tok_start (some finalResponse))).value

/-- The number behind `+CME ERROR:` decides how to go on. -/
def handleCmeError (failCause : Int) : M Int :=
  if failCause = 288 then pure DATA_ACTIVE_NEED_RETRY
  else if failCause = 128 then pure DATA_ACTIVE_NEED_FALLBACK
  else if failCause = 253 then pure DATA_ACTIVE_NEED_RETRY_FOR_ANOTHER_CID
  else do
    convertFailCause socket_id failCause
    pure DATA_ACTIVE_FAILED

/-- When AT+CGDATA timed out, the modem is told to give up. -/
def deactivateAfterTimeout (cid : Int) : M Int := do
  setFailCause socket_id .PDP_FAIL_ERROR_UNSPECIFIED
  let _ ← at_send_command (.CGACT_0 cid)
  cgact_deact_cmd_rsp cid
  pure DATA_ACTIVE_FAILED

def errorHandlingForCGDATA (reply : Reply) (cid : Int) : M Int :=
  match reply with
  | .error err => do
    setFailCause socket_id .PDP_FAIL_ERROR_UNSPECIFIED
    if err = .TIMEOUT then deactivateAfterTimeout socket_id cid else pure DATA_ACTIVE_FAILED
  | .ok p_response =>
    let finalResponse := p_response.finalResponse.getD []
    if p_response.success then pure DATA_ACTIVE_SUCCESS
    else if strStartsWith finalResponse (ascii "+CME ERROR:") then
      match cmeErrorCode finalResponse with
      | some failCause => handleCmeError socket_id failCause
      | none => do
        setFailCause socket_id .PDP_FAIL_ERROR_UNSPECIFIED
        pure DATA_ACTIVE_FAILED
    else do
      setFailCause socket_id .PDP_FAIL_ERROR_UNSPECIFIED
      if strStartsWith finalResponse (ascii "ERROR") then deactivateAfterTimeout socket_id cid
      else pure DATA_ACTIVE_FAILED

/-- A successful answer without a line is an error of `at_send_command_singleline`. -/
def getSPACTFBcause : M Int := do
  let reply ← at_send_command .SPACTFB_query
  if reply.success then
    match reply.p_intermediates with
    | [] => do
      setFailCause socket_id .PDP_FAIL_ERROR_UNSPECIFIED
      pure (-1)
    | line :: _ =>
      match at_tok_start (some line) with
      | none => pure (-1)
      | some cur => pure ((at_tok_nextint (some cur)).p_out.getD (-1))
  else do
    setFailCause socket_id .PDP_FAIL_ERROR_UNSPECIFIED
    pure (-1)

/-- The property `vendor.net.veth<index>.ip_type`. -/
def getIPType (index : Int) : M IPType := readShared fun g => (g.net index).ip_type

/-- A command whose answer is not looked at. -/
def sendCommand (cmd : AtCommand) : M Unit := do
  let _ ← at_send_command cmd
  pure ()

/-- AT+CGPCO and the QoS parameters. -/
def sendAuthAndQos (data : SetupData) (cid : Int) : M Unit := do
  let _ ← at_send_command (.CGPCO data.username data.password cid (atoi data.authtype))
  let trafficClass ← readSim socket_id (·.s_trafficClass)
  when cfg.qosDefault (sendCommand (.CGEQREQ cid trafficClass))

/-- AT+CGDATA and the two functions that look at its answer. -/
def sendCgdata (mEther : Bool) (cid primaryCid : Int) : M Int := do
  cgdata_set_cmd_req cid
  let reply ← at_send_command (.CGDATA mEther cid primaryCid)
  modifySim socket_id fun m => { m with s_curCid := cid }
  let (_, reply) ← cgdata_set_cmd_rsp cfg reply (cid - 1) primaryCid
  errorHandlingForCGDATA socket_id reply cid

/-- The second context of a call is kept when the first one has become IPV4V6. -/
def joinContexts (cid primaryCid : Int) : M Int := do
  let ipType ← getIPType (primaryCid - 1)
  if ipType ≠ .IPV4V6 then do
    let _ ← at_send_command (.CGACT_0 cid)
    cgact_deact_cmd_rsp cid
    putPDP socket_id (cid - 1)
    pure DATA_ACTIVE_FALLBACK_FAILED
  else do
    setPDPMapping socket_id (primaryCid - 1) (cid - 1)
    pure DATA_ACTIVE_SUCCESS

def recordCid (cid : Int) : M Int := do
  updatePDPCid socket_id cid 1
  pure DATA_ACTIVE_SUCCESS

def settleContext (cid primaryCid : Int) : M Int :=
  if 0 < primaryCid then joinContexts socket_id cid primaryCid else recordCid socket_id cid

/-- The end of `activeSpeciedCidProcess`, when the data call is up. -/
def activated (cid primaryCid : Int) : M Int := do
  let ret ← settleContext socket_id cid primaryCid
  modifySim socket_id fun m => { m with s_trafficClass := 2 }
  pure ret

def activeSpeciedCidProcess (data : SetupData) (cid : Int) (pdp_type : Line) (primaryCid : Int) : M Int := do
  let _ ← at_send_command (.CGACT_0 cid)
  cgact_deact_cmd_rsp cid
  let type := if pdp_type = ascii "IPV4+IPV6" then ascii "IP" else pdp_type
  let cgdcont ← at_send_command (.CGDCONT cid type data.apn)
  if cgdcont.success then
    sendAuthAndQos cfg socket_id data cid
    let ret ← sendCgdata cfg socket_id cfg.s_isLTE cid primaryCid
    if ret ≠ DATA_ACTIVE_SUCCESS then do
      putPDP socket_id (cid - 1)
      pure ret
    else activated socket_id cid primaryCid
  else do
    setFailCause socket_id .PDP_FAIL_ERROR_UNSPECIFIED
    putPDP socket_id (cid - 1)
    pure DATA_ACTIVE_FAILED

/-! ## The second context of a dual-stack call -/

def isDualpdpAllowed : Bool := cfg.carrier = ascii "claro" || cfg.carrier = ascii "telcel"

/-- The type of the second context, if one is needed. -/
def checkFallBackType (pdp_type : Line) (cidIndex : Int) : M (Option Line) := do
  let ipType ← getIPType cidIndex
  if pdp_type = ascii "IPV4V6" ∧ ipType ≠ .IPV4V6 then
    let fbCause ← getSPACTFBcause socket_id
    if fbCause = 52 ∧ (isDualpdpAllowed cfg = false ∨ cidIndex = 0) then
      match ipType with
      | .IPV4 => pure (some (ascii "IPV6"))
      | .IPV6 => pure (some (ascii "IP"))
      | _ => pure none
    else pure none
  else pure none

/-- The type and the primary cid of the second context. -/
def secondContext (pdp_type : Line) (cidIndex : Int) : M (Option (Line × Int)) :=
  if pdp_type = ascii "IPV4+IPV6" then pure (some (ascii "IPV6", 0))
  else if pdp_type = ascii "IPV4V6" then do
    let tmpType ← checkFallBackType cfg socket_id pdp_type cidIndex
    pure (tmpType.map (·, cidIndex + 1))
  else pure none

def checkFallBack (data : SetupData) (pdp_type : Line) (cidIndex : Int) : M Unit := do
  match ← secondContext cfg socket_id pdp_type cidIndex with
  | none => pure ()
  | some (tmpType, primaryCid) => do
    let index ← getPDP cfg socket_id
    let cid ← getPDPCid socket_id index
    if index < 0 ∨ 0 ≤ cid then pure ()
    else do
      let _ ← activeSpeciedCidProcess cfg socket_id data (index + 1) tmpType primaryCid
      pure ()

/-- The IPV6 half of `doIPV4_IPV6_Fallback`. -/
def fallbackIPV6 (data : SetupData) : M Unit := do
  let index ← getPDP cfg socket_id
  let cid ← getPDPCid socket_id index
  if index < 0 ∨ 0 ≤ cid then do
    setFailCause socket_id .PDP_FAIL_ERROR_UNSPECIFIED
    putPDP socket_id index
  else do
    let _ ← activeSpeciedCidProcess cfg socket_id data (index + 1) (ascii "IPV6") 0
    pure ()

/-- AT+CGDATA of the fallback. The error handler gets the index where it takes a cid. -/
def sendFallbackCgdata (index : Int) : M Int := do
  cgdata_set_cmd_req (index + 1)
  let reply ← at_send_command (.CGDATA cfg.s_isLTE (index + 1) 0)
  let (_, reply) ← cgdata_set_cmd_rsp cfg reply index 0
  errorHandlingForCGDATA socket_id reply index

def doIPV4_IPV6_Fallback (index : Int) (data : SetupData) : M Bool := do
  let cgdcont ← at_send_command (.CGDCONT (index + 1) (ascii "IP") data.apn)
  if cgdcont.success then
    let ret ← sendFallbackCgdata cfg socket_id index
    if ret ≠ DATA_ACTIVE_SUCCESS then pure false
    else do
      updatePDPCid socket_id (index + 1) 1
      fallbackIPV6 cfg socket_id data
      pure true
  else do
    setFailCause socket_id .PDP_FAIL_ERROR_UNSPECIFIED
    pure false

end UniRil.Data
