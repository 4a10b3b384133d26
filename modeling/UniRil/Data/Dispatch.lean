import UniRil.Data.Requests

/-!
# The data requests (`processDataRequest`)

The parameters of a request are what the dispatcher hands over. A string that may be NULL is an
option, or empty where the code does not tell the two apart.
-/

namespace UniRil.Data

open StateRules AtTok

/-! ## What else the requests use -/

structure InitialAttachApn where
  apn : Line
  protocol : Line
  authtype : Int
  username : Line
  password : Line

inductive Request
  | SETUP_DATA_CALL (data : SetupData)
  | DEACTIVATE_DATA_CALL (p_cid : Line)
  | LAST_DATA_CALL_FAIL_CAUSE
  | DATA_CALL_LIST
  | ALLOW_DATA (allowed : Int)
  | SET_INITIAL_ATTACH_APN (apn : Option InitialAttachApn)
  | SET_IMS_INITIAL_ATTACH_APN (apn : Option InitialAttachApn)
  | SET_SOS_INITIAL_ATTACH_APN (apn : Option InitialAttachApn)
  | TRAFFIC_CLASS (value : Int)
  | ENABLE_LTE (value : Int)
  | ATTACH_DATA (value : Int)
  | FORCE_DETACH
  | ENABLE_RAU_NOTIFY
  | SET_SINGLE_PDN (value : Int)
  | SET_XCAP_IP_ADDR (index ipv4 ipv6 : Option Line)
  | GET_IMS_PCSCF_ADDR
  | SET_IMS_PCSCF_ADDR (strings : Option Line)
  | REATTACH
  | IMS_REGADDR
  | UPDATE_PLMN (type action plmn act1 act2 act3 : Int)
  | QUERY_PLMN (type : Int)

/-- The commands that only these requests send. -/
inductive DataCommand
  | CGDCONT (cid : Int) (protocol apn : Line)
  | CGPCO (username password : Line) (cid authtype : Int)
  | CGPCO_query
  | CGEQREQ (cid trafficClass : Int)
  | SPEUTRAN (value : Int)
  | CGATT (value : Int)
  | CLSSPDT
  | SPREPORTRAU
  | SPSWDATA
  | SPSWITCHDATACARD (socket_id : RIL_SOCKET_ID) (on : Bool)
  | XCAPIP (cid : Int) (ipv4 ipv6 : Line)
  /-- AT+CGCONTRDP=11 -/
  | CGCONTRDP_ims
  | VOWIFIPCSCF (strings : Line)
  | SPREATTACH
  | SPIMSREGADDR_query
  | CUFP (action plmn : Int)
  | SPSELMODE
  | CPOL (plmn act1 act2 act3 : Int)
  | CPOL_query

inductive Payload
  | none
  | calls (calls : List DataCall)
  | failCause (cause : FailCause)
  | string (s : Line)
  | strings (s t : Line)

/-- A call of `RIL_onRequestComplete` for the token of the request. -/
inductive Completion
  | complete (e : RIL_Errno) (response : Payload)
  | RIL_E_OP_NOT_ALLOWED_BEFORE_REG_TO_NW
  | RIL_E_RADIO_NOT_AVAILABLE

inductive RadioState
  | RADIO_STATE_OFF
  | RADIO_STATE_UNAVAILABLE
  | RADIO_STATE_ON
  deriving DecidableEq

/-- The cells of the arrays indexed by `RIL_SOCKET_ID` that are set elsewhere. -/
structure Radio where
  s_desiredRadioState : Int
  s_radioState : RadioState
  /-- `s_PSRegState[socket_id] == STATE_IN_SERVICE` -/
  inService : Bool
  s_in4G : Int
  s_PSRegStateDetail : Int

structure Globals where
  s_manualSearchNetworkId : Int
  s_setNetworkId : Int
  s_swapCard : Int
  s_failCount : Int
  /-- `s_modemConfig == LWG_LWG` -/
  modemLWG_LWG : Bool
  isAttachEnable : Bool
  /-- The property `LTE_MANUAL_ATTACH_PROP` is not 0. -/
  manualAttach : Bool

structure Server where
  cfg : Config
  world : World
  globals : Globals
  radio : RIL_SOCKET_ID → Radio
  s_dataAllowed : RIL_SOCKET_ID → Int
  sent : List DataCommand
  completions : List Completion

abbrev P := StateM Server

def complete (e : RIL_Errno) (response : Payload) : P Unit :=
  modify fun s => { s with completions := s.completions ++ [.complete e response] }

def succeed : P Unit := complete .RIL_E_SUCCESS .none

def fail : P Unit := complete .RIL_E_GENERIC_FAILURE .none

def send (cmd : DataCommand) : P Reply := fun s =>
  (s.world.env.next.1.reply,
    { s with world := { s.world with env := s.world.env.next.2 }, sent := s.sent ++ [cmd] })

/-- The answer to a command alone decides. -/
def sendAndReport (cmd : DataCommand) : P Unit := do
  let reply ← send cmd
  if reply.success then succeed else fail

def Event.completion : Event → Option Completion
  | .RIL_onRequestComplete e calls => some (.complete e (if calls = [] then .none else .calls calls))
  | _ => none

/-- A function of the other modules; its completions are for the token of the request. -/
def withToken {α : Type} (m : Config → M α) : P α := fun s =>
  let r := m s.cfg { s.world with log := [] }
  (r.1, { s with world := r.2, completions := s.completions ++ r.2.log.filterMap Event.completion })

/-- The same with NULL for the token, so that its completions are for no request. -/
def withoutToken {α : Type} (m : Config → M α) : P α := fun s =>
  let r := m s.cfg { s.world with log := [] }
  (r.1, { s with world := r.2 })

variable (socket_id : RIL_SOCKET_ID)

def setWorldSim (f : Sim → Sim) : P Unit := modify fun s => { s with world := s.world.setSim socket_id f }

def setGlobals (f : Globals → Globals) : P Unit := modify fun s => { s with globals := f s.globals }

def failWith (cause : FailCause) : P Unit := do
  setWorldSim socket_id fun m => { m with s_lastPDPFailCause := cause }
  fail

/-! ## RIL_REQUEST_SETUP_DATA_CALL -/

def setupOnPacketService (data : SetupData) : P Unit := do
  let s ← reads id
  -- on an L+L version only the data card sets data calls up
  if s.globals.modemLWG_LWG ∧ s.s_dataAllowed socket_id ≠ 1 then failWith socket_id .PDP_FAIL_ERROR_UNSPECIFIED
  else do
    withToken fun cfg => requestSetupDataCall cfg socket_id data
    setGlobals fun g => { g with s_failCount := 0 }

def setupOffPacketService (data : SetupData) : P Unit := do
  let s ← reads id
  if s.cfg.isLWG_LWG = false ∧ s.cfg.s_multiModeSim ≠ socket_id ∧ s.s_dataAllowed socket_id = 1 then
    withToken fun cfg => requestSetupDataCall cfg socket_id data
  else if s.globals.s_failCount < 5 then do
    setGlobals fun g => { g with s_failCount := g.s_failCount + 1 }
    failWith socket_id .PDP_FAIL_ERROR_UNSPECIFIED
  else failWith socket_id .PDP_FAIL_SERVICE_OPTION_NOT_SUPPORTED

def processSetupDataCall (data : SetupData) : P Unit := do
  let s ← reads id
  if (s.world.sim socket_id).s_isSimPresent = false then
    modify fun s => { s with completions := s.completions ++ [.RIL_E_OP_NOT_ALLOWED_BEFORE_REG_TO_NW] }
  else if 0 ≤ s.globals.s_manualSearchNetworkId ∨ s.globals.s_swapCard ≠ 0 then
    failWith socket_id .PDP_FAIL_ERROR_UNSPECIFIED
  else if 0 < (s.radio socket_id).s_desiredRadioState ∧ s.globals.isAttachEnable then
    if s.cfg.s_isLTE then
      if (s.radio socket_id).inService then setupOnPacketService socket_id data
      else setupOffPacketService socket_id data
    else withToken fun cfg => requestSetupDataCall cfg socket_id data
  else failWith socket_id .PDP_FAIL_ERROR_UNSPECIFIED

/-! ## RIL_REQUEST_ALLOW_DATA -/

/-- The property `ALLOW_DATA_SOCKET_ID` is not read back here. -/
def saveDataCardProp : P Unit :=
  modify fun s => if s.globals.modemLWG_LWG then { s with cfg := { s.cfg with s_multiModeSim := socket_id } } else s

def attachGPRS : P Unit := do
  let s ← reads id
  if s.globals.s_swapCard ≠ 0 then fail
  else do
    when (s.cfg.s_autoDetach = true) (withoutToken fun cfg => detachGPRS cfg socket_id.other false)
    if s.cfg.s_isLTE ∧ s.cfg.isLWG_LWG then do
      let _ ← send .SPSWDATA
      succeed
    else if s.cfg.inSession socket_id then fail
    else if s.cfg.s_isLTE = false then sendAndReport (.CGATT 1)
    else if socket_id ≠ s.cfg.s_multiModeSim then do
      let _ ← send (.SPSWITCHDATACARD socket_id true)
      sendAndReport (.CGATT 1)
    else do
      let _ ← send (.SPSWITCHDATACARD socket_id.other false)
      succeed

def requestAllowData (allowed : Int) : P Unit := do
  modify fun s => { s with s_dataAllowed := Function.update s.s_dataAllowed socket_id allowed }
  let s ← reads id
  let radio := s.radio socket_id
  if 0 < radio.s_desiredRadioState ∧ s.globals.isAttachEnable ∧ radio.s_radioState = .RADIO_STATE_ON then
    if allowed = 1 then do
      saveDataCardProp socket_id
      attachGPRS socket_id
    else withToken fun cfg => detachGPRS cfg socket_id true
  else if allowed = 1 then do
    saveDataCardProp socket_id
    modify fun s => { s with completions := s.completions ++ [.RIL_E_RADIO_NOT_AVAILABLE] }
  else succeed

def processAllowData (allowed : Int) : P Unit := do
  let s ← reads id
  if s.globals.modemLWG_LWG = false ∧ (0 ≤ s.globals.s_manualSearchNetworkId ∨ 0 ≤ s.globals.s_setNetworkId) then fail
  else requestAllowData socket_id allowed

/-! ## The initial attach APNs -/

def TRAFFIC_CLASS_DEFAULT : Int := 2

/-- Without a user, a password or a type there is no authentication. -/
def InitialAttachApn.normalize (p : InitialAttachApn) : InitialAttachApn :=
  if p.username = [] ∨ p.password = [] ∨ p.authtype ≤ 0 then { p with authtype := 0, username := [], password := [] } else p

/-- 2 when APN and protocol are empty, 1 when the profiles agree, and -1. -/
def compareApnProfile (new old : InitialAttachApn) : Int :=
  let new := new.normalize
  let old := old.normalize
  if new.apn = [] ∧ new.protocol = [] then 2
  else if isApnEqual new.apn old.apn ∧ isStrEqual new.protocol old.protocol ∧ isStrEqual new.username old.username ∧
      isStrEqual new.password old.password ∧ new.authtype = old.authtype then 1
  else -1

def ARRAY_SIZE : Nat := 128

/-- The loop of `getPco` over the +CGPCO lines; it stops at a line that cannot be read. -/
def pcoLines (cid : Int) : List Line → InitialAttachApn → InitialAttachApn
  | [], p => p
  | line :: lines, p =>
    let skip := at_tok_nextint (at_tok_start (some line))
    let username := at_tok_nextstr skip.p_cur
    let password := at_tok_nextstr username.p_cur
    let curr_cid := at_tok_nextint password.p_cur
    match skip.value, username.value, password.value, curr_cid.value with
    | some _, some u, some w, some c =>
      if c ≠ cid then pcoLines cid lines p
      else
        pcoLines cid lines
          { p with
            username := u.take (ARRAY_SIZE - 1)
            password := w.take (ARRAY_SIZE - 1)
            authtype := (at_tok_nextint curr_cid.p_cur).p_out.getD p.authtype }
    | _, _, _, _ => p

def getPco (cid : Int) (p : InitialAttachApn) : P InitialAttachApn := do
  let reply ← send .CGPCO_query
  pure (if reply.success then pcoLines cid reply.p_intermediates p else p)

def emptyProfile : InitialAttachApn := { apn := [], protocol := [], authtype := 0, username := [], password := [] }

def getDataProfile (cid : Int) : P InitialAttachApn := do
  withToken fun _ => queryAllActivePDNInfos
  let pdn ← reads fun s => s.world.shared.s_PDN (cid - 1)
  if pdn.nCid = cid then
    getPco cid { emptyProfile with apn := pdn.strApn.take (ARRAY_SIZE - 1), protocol := pdn.strIPType.take 15 }
  else pure emptyProfile

def sendProfile (cid : Int) (p : InitialAttachApn) : P Unit := do
  let _ ← send (.CGDCONT cid p.protocol p.apn)
  let _ ← send (.CGPCO p.username p.password cid p.authtype)
  let s ← reads id
  when (s.cfg.qosDefault = true) do
    let _ ← send (.CGEQREQ cid (s.world.sim socket_id).s_trafficClass)
    pure ()

/-- The SIM for which data was allowed last in the array. -/
def getDefaultDataCardId (s_dataAllowed : RIL_SOCKET_ID → Int) : Option RIL_SOCKET_ID :=
  if s_dataAllowed .RIL_SOCKET_2 = 1 then some .RIL_SOCKET_2
  else if s_dataAllowed .RIL_SOCKET_1 = 1 then some .RIL_SOCKET_1
  else none

def mayReattach (s : Server) : Bool :=
  let isSetReattach : Bool :=
    if s.cfg.carrier = ascii "cmcc" then getDefaultDataCardId s.s_dataAllowed = some socket_id
    else socket_id = s.cfg.s_multiModeSim
  let radio := s.radio socket_id
  isSetReattach && ((radio.s_in4G = 1 : Bool) || (radio.s_PSRegStateDetail ∈ [0, 2, 4, 3] : Bool))

/-- On LTE the profile of the network is compared first. -/
def setInitialAttachLTE (pIAApn : InitialAttachApn) : P Unit := do
  let response ← getDataProfile 1
  let ret := compareApnProfile pIAApn response
  let s ← reads id
  if ret = 2 then
    when (s.globals.manualAttach = true) do
      let _ ← send .SPREATTACH
      pure ()
  else do
    sendProfile socket_id 1 pIAApn.normalize
    when (ret ≠ 1 ∧ mayReattach socket_id s = true) do
      let _ ← send .SPREATTACH
      pure ()

def requestSetInitialAttachAPN (apn : Option InitialAttachApn) : P Unit := do
  let s ← reads id
  match apn with
  | some pIAApn => if s.cfg.s_isLTE then setInitialAttachLTE socket_id pIAApn else sendProfile socket_id 1 pIAApn
  | none => pure ()
  succeed
  setWorldSim socket_id fun m => { m with s_trafficClass := TRAFFIC_CLASS_DEFAULT }

/-- For IMS and emergency calls only the cid differs. -/
def setProfile (cid : Int) (apn : Option InitialAttachApn) : P Unit :=
  match apn with
  | some p => do
    sendProfile socket_id cid p
    succeed
  | none => fail

/-! ## Addresses of the IMS -/

/-- The string after a field, if the line has more; then it can be read. -/
def moreStr (input : Option Line) : Tok Line :=
  if at_tok_hasmore input then at_tok_nextstr input else { ok := true, p_out := none, p_cur := input }

/-- The P-CSCF address of a +CGCONTRDP line, if it has one; `none` when a field cannot be read. -/
def pcscfAddr (line : Line) : Option (Option Line) := do
  let cid := at_tok_nextint (at_tok_flag_start (some line) 58)
  let bearer_id := at_tok_nextint cid.p_cur
  let apn := at_tok_nextstr bearer_id.p_cur
  let _ ← cid.value
  let _ ← bearer_id.value
  let _ ← apn.value
  let local_addr := moreStr apn.p_cur
  let gw_addr := moreStr local_addr.p_cur
  let dns_prim_addr := moreStr gw_addr.p_cur
  let dns_sec_addr := moreStr dns_prim_addr.p_cur
  pure (moreStr dns_sec_addr.p_cur).p_out

def completeString : Option Line → P Unit
  | some s => complete .RIL_E_SUCCESS (.string s)
  | none => fail

/-- The loop over the lines of the answer, which ends at the first one that names the command. -/
def pcscfLoop : List Line → P Unit
  | [] => pure ()
  | line :: lines =>
    if findInBuf line (ascii "+CGCONTRDP") then
      match pcscfAddr line with
      | some addr => completeString addr
      | none => pure ()
    else pcscfLoop lines

def getImsPcscfAddr : P Unit := do
  let reply ← send .CGCONTRDP_ims
  if reply.success then do
    -- the `break` of the loop leads to the completion after it
    pcscfLoop reply.p_intermediates
    fail
  else fail

/-- Both addresses of a +SPIMSREGADDR line; `none` when one cannot be read. One that was read is not
NULL. -/
def regAddrs (line : Line) : Option (Line × Line) := do
  let imsAddr0 := at_tok_nextstr (at_tok_flag_start (some line) 58)
  let imsAddr1 := at_tok_nextstr imsAddr0.p_cur
  let a ← imsAddr0.value
  let b ← imsAddr1.value
  pure (a, b)

def completeRegAddrs (line : Line) : P Unit :=
  if findInBuf line (ascii "+SPIMSREGADDR") then
    match regAddrs line with
    | some (a, b) => complete .RIL_E_SUCCESS (.strings a b)
    -- `break` leaves the `switch`
    | none => pure ()
  else fail

/-- A successful answer without a line is an error of `at_send_command_singleline`. -/
def imsRegAddr : P Unit := do
  let reply ← send .SPIMSREGADDR_query
  if reply.success then
    match reply.p_intermediates with
    | line :: _ => completeRegAddrs line
    | [] => fail
  else fail

/-! ## The other requests -/

/-- NULL and the empty string stand for the default. -/
def orDefault (s : Option Line) (default : Line) : Line := if (s.getD []).isEmpty then default else s.getD []

/-- The prefix of a link-local address is replaced. -/
def checkIpv6Address (ip : Line) : Line :=
  if strcasecmpEq (ip.take 5) (ascii "fe80:") then ascii "0000" ++ ip.dropWhile (· != 58) else ip

def NO_IPV6 : Line := ascii "FFFF:FFFF:FFFF:FFFF:FFFF:FFFF:FFFF:FFFF"

def setXcapIpAddr (index ipv4 ipv6 : Option Line) : P Unit := do
  let s ← reads id
  match index with
  | some index =>
    if s.cfg.s_isLTE then do
      let cidIndex := atoi index
      let cid ← withToken fun _ => getPDPCid socket_id cidIndex
      if 0 < cid then do
        let _ ← send (.XCAPIP (cidIndex + 1) (orDefault ipv4 (ascii "0.0.0.0")) (checkIpv6Address (orDefault ipv6 NO_IPV6)))
        succeed
      else fail
    else fail
  | none => fail

/-- Only the error code of the command counts here. -/
def setImsPcscfAddr (strings : Option Line) : P Unit :=
  if (strings.getD []).length = 0 then fail
  else do
    let reply ← send (.VOWIFIPCSCF (strings.getD []))
    match reply with
    | .ok _ => succeed
    | .error _ => fail

def updatePlmn (type action plmn act1 act2 act3 : Int) : P Unit :=
  if type = 0 then
    if action = 0 ∨ action = 1 then sendAndReport (.CUFP action plmn)
    else if action = 2 then sendAndReport .SPSELMODE
    else fail
  else if type = 1 ∧ action = 1 then sendAndReport (.CPOL plmn act1 act2 act3)
  else fail

def MAX_AT_RESPONSE : Nat := 0x1000

def plmnList (lines : List Line) : Line :=
  (lines.flatMap fun line => (skipWhiteSpace (at_tok_start (some line))).getD [] ++ ascii ";").take (MAX_AT_RESPONSE - 1)

def queryPlmn (type : Int) : P Unit :=
  if type ≠ 1 then fail
  else do
    let reply ← send .CPOL_query
    if reply.success then complete .RIL_E_SUCCESS (.string (plmnList reply.p_intermediates)) else fail

def setTrafficClass (value : Int) : P Unit :=
  if value < 0 then do
    setWorldSim socket_id fun m => { m with s_trafficClass := TRAFFIC_CLASS_DEFAULT }
    fail
  else do
    setWorldSim socket_id fun m => { m with s_trafficClass := value }
    succeed

def reportFailCause : P Unit := do
  let cause ← reads fun s => (s.world.sim socket_id).s_lastPDPFailCause
  complete .RIL_E_SUCCESS (.failCause cause)

/-- A command is sent whatever it answers. -/
def sendAndSucceed (cmd : DataCommand) : P Unit := do
  let _ ← send cmd
  succeed

def setSinglePdn (value : Int) : P Unit := do
  setWorldSim socket_id fun m => { m with s_singlePDNAllowed := value }
  succeed

def serveRequest : Request → P Unit
  | .SETUP_DATA_CALL data => processSetupDataCall socket_id data
  | .DEACTIVATE_DATA_CALL p_cid => withToken fun cfg => deactivateDataConnection cfg socket_id p_cid true
  | .LAST_DATA_CALL_FAIL_CAUSE => reportFailCause socket_id
  | .DATA_CALL_LIST => withToken fun cfg => requestOrSendDataCallList cfg socket_id (-1) true
  | .ALLOW_DATA allowed => processAllowData socket_id allowed
  | .SET_INITIAL_ATTACH_APN apn => requestSetInitialAttachAPN socket_id apn
  | .SET_IMS_INITIAL_ATTACH_APN apn => setProfile socket_id 11 apn
  | .SET_SOS_INITIAL_ATTACH_APN apn => setProfile socket_id 9 apn
  | .TRAFFIC_CLASS value => setTrafficClass socket_id value
  | .ENABLE_LTE value => sendAndReport (.SPEUTRAN value)
  | .ATTACH_DATA value => sendAndReport (.CGATT value)
  | .FORCE_DETACH => sendAndReport .CLSSPDT
  | .ENABLE_RAU_NOTIFY => sendAndSucceed .SPREPORTRAU
  | .SET_SINGLE_PDN value => setSinglePdn socket_id value
  | .SET_XCAP_IP_ADDR index ipv4 ipv6 => setXcapIpAddr socket_id index ipv4 ipv6
  | .GET_IMS_PCSCF_ADDR => getImsPcscfAddr
  | .SET_IMS_PCSCF_ADDR strings => setImsPcscfAddr strings
  | .REATTACH => sendAndSucceed .SPREATTACH
  | .IMS_REGADDR => imsRegAddr
  | .UPDATE_PLMN type action plmn act1 act2 act3 => updatePlmn type action plmn act1 act2 act3
  | .QUERY_PLMN type => queryPlmn type

/-- An L+L version does not detach by itself. -/
def processDataRequest (request : Request) : P Unit := do
  modify fun s => if s.cfg.s_autoDetach ∧ s.globals.modemLWG_LWG then { s with cfg := { s.cfg with s_autoDetach := false } } else s
  serveRequest socket_id request

end UniRil.Data
