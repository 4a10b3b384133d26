import UniRil.Data.Activation

/-!
# RIL_REQUEST_SETUP_DATA_CALL
-/

namespace UniRil.Data

open StateRules AtTok

/-! ## The PDNs of the modem (`s_PDN`) -/

/-- The locals of `queryAllActivePDNInfos` with the table; `pdns` is the index the pointer has reached. -/
structure PdnQuery where
  s_PDN : Int → PDNInfo
  s_activePDN : Int
  pdns : Int
  active : Int
  apn : Line
  type : Int

def PdnQuery.set (q : PdnQuery) (i : Int) (f : PDNInfo → PDNInfo) : PdnQuery :=
  { q with s_PDN := Function.update q.s_PDN i (f (q.s_PDN i)) }

/-- `nCid` becomes -1 unless the field was read. -/
def PdnQuery.require (q : PdnQuery) (i : Int) (ok : Bool) : PdnQuery :=
  if ok then q else q.set i fun p => { p with nCid := -1 }

def strIPType (type : Int) : Line :=
  if type = 2 then ascii "IPV6" else if type = 3 then ascii "IPV4V6" else ascii "IP"

/-- One line of the answer. The first fields go where `pdns` points, the texts to the entry of the cid. -/
def pdnLine (q : PdnQuery) (line : Line) : PdnQuery :=
  let nCid := at_tok_nextint (at_tok_start (some line))
  let q := match nCid.p_out with
    | some v => q.set q.pdns fun p => { p with nCid := v }
    | none => q
  let q := q.require q.pdns nCid.ok
  let i := (q.s_PDN q.pdns).nCid - 1
  if MAX_PDP < (q.s_PDN q.pdns).nCid ∨ i < 0 then q
  else
    let active := at_tok_nextint nCid.p_cur
    let q := { q with active := active.p_out.getD q.active }
    let q := q.require q.pdns (active.ok && q.active ≠ 0)
    let q := if q.active = 1 then { q with s_activePDN := q.s_activePDN + 1 } else q
    let apn := at_tok_nextstr active.p_cur
    let q := { q with apn := apn.p_out.getD q.apn }.require i apn.ok
    let q := q.set i fun p => { p with strApn := q.apn.take 63 }
    let type := at_tok_nextint apn.p_cur
    let q := { q with type := type.p_out.getD q.type }.require i type.ok
    let q := q.set i fun p => { p with strIPType := strIPType q.type }
    let q := if at_tok_hasmore type.p_cur then
        q.set i fun p => { p with strAttachApn := ((at_tok_nextstr type.p_cur).p_out.getD []).take 63 }
      else q
    { q with pdns := q.pdns + 1 }

def storePDNInfos (lines : List Line) (stack : Stack) (g : Shared) : Shared :=
  let q := lines.foldl pdnLine
    { s_PDN := g.s_PDN, s_activePDN := 0, pdns := 0, active := stack.active, apn := stack.apn, type := stack.type }
  { g with s_PDN := q.s_PDN, s_activePDN := q.s_activePDN }

def queryAllActivePDNInfos : M Unit := do
  modifyShared fun g => { g with s_activePDN := 0 }
  let reply ← at_send_command .SPIPCONTEXT_query
  if reply.success then
    let stack ← reads fun w => w.env.stack
    modifyShared (storePDNInfos reply.p_intermediates stack)
  else pure ()

/-! ## Comparing APNs -/

def tolower (c : Byte) : Byte := if 65 ≤ c && c ≤ 90 then c + 32 else c

def strcasecmpEq (a b : Line) : Bool := a.map tolower = b.map tolower

/-- The length of an APN without its operator part `.mncXXX.mccXXX.gprs`. -/
def checkCmpAnchor (apn : Line) : Nat :=
  let len := apn.length
  if len ≤ 19 then len
  else if !strcasecmpEq ((apn.drop (len - 5)).take 5) (ascii ".GPRS") then len
  else if !strcasecmpEq ((apn.drop (len - 12)).take 4) (ascii ".MCC") then len
  else if !strcasecmpEq ((apn.drop (len - 19)).take 4) (ascii ".MNC") then len
  else len - 19

def isStrEqual (new old : Line) : Bool :=
  (old.isEmpty && new.isEmpty) || (!old.isEmpty && !new.isEmpty && strcasecmpEq old new)

def isApnEqual (new old : Line) : Bool :=
  new.isEmpty || isStrEqual new old || isStrEqual (old.take (checkCmpAnchor old)) new

def isProtocolEqual (new old : Line) : Bool :=
  strcasecmpEq new (ascii "IPV4V6") || strcasecmpEq old (ascii "IPV4V6") || strcasecmpEq new old

variable (cfg : Config) (socket_id : RIL_SOCKET_ID)

/-! ## Reuse of the default bearer -/

/-- A PDN of the modem that may serve the request. -/
def isReusable (data : SetupData) (type : Line) (singlePDNAllowed : Int) (pdn : PDNInfo) : Bool :=
  cfg.useDefaultPDN ||
    ((isApnEqual data.apn pdn.strApn || strcasecmpEq data.apn pdn.strAttachApn) && isProtocolEqual type pdn.strIPType) ||
    singlePDNAllowed = 1

/-- What the code of `errorHandlingForCGDATA` leads to, when an idle slot is reused. The result is
that of `reuseDefaultBearer`, when `ret` was its result so far. -/
def afterReuse (data : SetupData) (type : Line) (i ret cgdata_err : Int) : M Int :=
  if cgdata_err = DATA_ACTIVE_SUCCESS then do
    updatePDPCid socket_id (i + 1) 1
    modifyShared fun g => { g with s_openchannelCid := i + 1 }
    checkFallBack cfg socket_id data type i
    pure (i + 1)
  else if cgdata_err = DATA_ACTIVE_NEED_RETRY_FOR_ANOTHER_CID then do
    updatePDPCid socket_id (i + 1) (-1)
    putPDPByIndex socket_id i
    pure ret
  else do
    putPDPByIndex socket_id i
    pure (if cgdata_err = DATA_ACTIVE_NEED_RETRY then -2 else -3)

/-- The idle slot of a PDN is taken and activated. -/
def reuseIdleSlot (data : SetupData) (type : Line) (i ret : Int) : M Int := do
  let _ ← getPDPByIndex socket_id i
  cgact_deact_cmd_rsp (i + 1)
  let _ ← at_send_command (.CGDCONT (i + 1) type data.apn)
  sendAuthAndQos cfg socket_id data (i + 1)
  let cgdata_err ← sendCgdata cfg socket_id true (i + 1) 0
  afterReuse cfg socket_id data type i ret cgdata_err

/-- The loop of `reuseDefaultBearer` over the indexes that are left. It stops after an idle slot. -/
def reuseLoop (data : SetupData) (type : Line) : List Int → Int → M Int
  | [], ret => pure ret
  | i :: is, ret => do
    let pdn ← readShared fun g => g.s_PDN i
    let singlePDNAllowed ← readSim socket_id (·.s_singlePDNAllowed)
    if pdn.nCid = i + 1 ∧ isReusable cfg data type singlePDNAllowed pdn then
      let state ← getPDPState socket_id i
      if state = .PDP_IDLE then reuseIdleSlot cfg socket_id data type i ret
      else do
        let channel ← readShared fun g => (g.s_openchannelInfo i).state
        reuseLoop data type is (if channel ≠ .CLOSE then i + 1 else ret)
    else reuseLoop data type is ret

/-- A positive result is the cid to use. -/
def reuseDefaultBearer (data : SetupData) (type : Line) : M Int :=
  if cfg.s_isLTE ∧ (cfg.isLWG_LWG ∨ socket_id = cfg.s_multiModeSim) then do
    queryAllActivePDNInfos
    let activePDN ← readShared (·.s_activePDN)
    if 0 < activePDN then reuseLoop cfg socket_id data type [0, 1, 2, 3, 4, 5] (-1) else pure (-1)
  else pure (-1)

/-! ## The list of data calls -/

def emptyDataCall : DataCall :=
  { status := none, cid := -1, active := -1, type := [], addresses := [], dnses := [] }

/-- The entries of the +CGACT lines, or `none` at the label `error`. -/
def cgactEntries : List Line → Option (List DataCall)
  | [] => some []
  | line :: lines => do
    let cid := at_tok_nextint (at_tok_start (some line))
    let active := at_tok_nextint cid.p_cur
    let c ← cid.value
    let a ← active.value
    let calls ← cgactEntries lines
    pure ({ emptyDataCall with cid := c, active := a } :: calls)

/-- The array `responses`, with what lies behind it. -/
def responsesOf (calls : List DataCall) (stack : Stack) : Int → DataCall := fun i =>
  if 0 ≤ i then calls.getD i.toNat (stack.responses i) else stack.responses i

def joinDns (a b : Line) : Line := (a ++ ascii " " ++ b).take 179

/-- The type and the addresses from the properties of the interface. -/
def withAddresses (call : DataCall) (n : NetProps) : DataCall :=
  match n.ip_type with
  | .IPV4 => { call with type := ascii "IP", addresses := n.ip, dnses := joinDns n.dns1 n.dns2 }
  | .IPV6 => { call with type := ascii "IPV6", addresses := n.ipv6_ip, dnses := joinDns n.ipv6_dns1 n.ipv6_dns2 }
  | .IPV4V6 =>
    { call with
      type := ascii "IPV4V6"
      addresses := (n.ip ++ ascii " " ++ n.ipv6_ip).take 179
      dnses := joinDns (joinDns (joinDns n.dns1 n.dns2) n.ipv6_dns1) n.ipv6_dns2 }
  | .UNKNOWN => call

/-- One +CGDCONT line. `n` is the number of entries, `idle` whether the slot of `cid` is. The
rewriting by `cgdcont_read_cmd_rsp` keeps the fields that are read here. -/
def cgdcontEntry (g : Shared) (n : Nat) (cid : Int) (hasToken idle : Bool) (responses : Int → DataCall) (line : Line) :
    Option (Int → DataCall) := do
  let ncid := at_tok_nextint (at_tok_start (some line))
  let c ← ncid.value
  if c = cid ∧ hasToken = false then
    let call := { responses (cid - 1) with status := some .PDP_FAIL_OPERATOR_BARRED }
    pure (Function.update responses (cid - 1) (if idle then { call with active := 0 } else call))
  else
    match (List.range n).find? fun i : Nat => (responses i).cid = c with
    | none => pure responses
    | some i =>
      let type := at_tok_nextstr ncid.p_cur
      let apn := at_tok_nextstr type.p_cur
      let _ ← type.value
      let _ ← apn.value
      let call := withAddresses { responses i with status := some .PDP_FAIL_NONE } (g.net (c - 1))
      let barred : Bool := cid ≠ -1 ∧ hasToken = false ∧ call.active = 0 ∧ call.addresses ≠ []
      pure (Function.update responses i (if barred then { call with status := some .PDP_FAIL_OPERATOR_BARRED } else call))

/-- The answer to the framework: a completion with the token, an unsolicited response without. -/
def sendDataCallList (hasToken : Bool) (e : RIL_Errno) (calls : List DataCall) : M Unit :=
  if hasToken then RIL_onRequestComplete e calls else note (.RIL_UNSOL_DATA_CALL_LIST_CHANGED calls)

/-- The slots of a call and of its second context are released, and the request fails. -/
def reportFailure (fb_cid cid : Int) : M Unit := do
  putPDP socket_id (fb_cid - 1)
  putPDP socket_id (cid - 1)
  setFailCause socket_id .PDP_FAIL_ERROR_UNSPECIFIED
  RIL_onRequestComplete .RIL_E_GENERIC_FAILURE []

/-- The network detached while the call was set up. -/
def reportDetached (fb_cid cid : Int) : M Unit := do
  let _ ← at_send_command (.CGACT_0 cid)
  cgact_deact_cmd_rsp cid
  reportFailure socket_id fb_cid cid

/-- The call that was set up is in the list, as `call`. -/
def reportSetup (cid : Int) (call : DataCall) : M Unit := do
  let fb_cid ← getFallbackCid socket_id (cid - 1)
  let detached ← readSim socket_id (·.s_LTEDetached)
  if call.active = 0 then reportFailure socket_id fb_cid cid
  else if cfg.s_isLTE ∧ detached then reportDetached socket_id fb_cid cid
  else RIL_onRequestComplete .RIL_E_SUCCESS [call]

/-- The array has no entry for the call that was set up. -/
def reportMissing : M Unit := do
  setFailCause socket_id .PDP_FAIL_ERROR_UNSPECIFIED
  RIL_onRequestComplete .RIL_E_GENERIC_FAILURE []

def clearSetupMarks : M Unit := modifySim socket_id fun m => { m with s_LTEDetached := false, s_curCid := 0 }

/-- The end of `requestOrSendDataCallList`, over the finished array. -/
def answerDataCallList (cid : Int) (hasToken : Bool) (n : Nat) (responses : Int → DataCall) : M Unit :=
  if hasToken ∧ 0 < cid then
    match [0, 1, 2, 3, 4, 5].find? fun i => (responses i).cid = cid with
    | some i => do
      reportSetup cfg socket_id cid (responses i)
      clearSetupMarks socket_id
    | none => do
      reportMissing socket_id
      clearSetupMarks socket_id
  else sendDataCallList hasToken .RIL_E_SUCCESS ((List.range n).map fun i : Nat => responses i)

def requestOrSendDataCallList (cid : Int) (hasToken : Bool) : M Unit := do
  let cgact ← at_send_command .CGACT_query
  if cgact.success then
    match cgactEntries cgact.p_intermediates with
    | none => sendDataCallList hasToken .RIL_E_GENERIC_FAILURE []
    | some calls => do
      let cgdcont ← at_send_command .CGDCONT_query
      if cgdcont.success then
        let stack ← reads fun w => w.env.stack
        let state ← getPDPState socket_id (cid - 1)
        let g ← readShared id
        let entries := cgdcont.p_intermediates.foldlM
          (cgdcontEntry g calls.length cid hasToken (state = .PDP_IDLE)) (responsesOf calls stack)
        match entries with
        | none => sendDataCallList hasToken .RIL_E_GENERIC_FAILURE []
        | some responses => answerDataCallList cfg socket_id cid hasToken calls.length responses
      else sendDataCallList hasToken .RIL_E_GENERIC_FAILURE []
  else sendDataCallList hasToken .RIL_E_GENERIC_FAILURE []

/-! ## The request -/

/-- The locals that outlive a jump to `RETRY`. -/
structure Retry where
  index : Int
  nRetryTimes : Nat
  deriving DecidableEq

/-- The places from which control reaches `done`. -/
inductive Origin
  | reused
  | activated
  | retriesSpent
  | fallenBack
  deriving DecidableEq

inductive Label
  | done (origin : Origin) (index : Int)
  | error (index : Int)
  deriving DecidableEq

def SetupData.type (data : SetupData) : Line := data.pdpType.getD (ascii "IP")

def pdpTypeOf (pdpType : Line) : IPType :=
  if pdpType = ascii "IP" then .IPV4 else if pdpType = ascii "IPV6" then .IPV6 else .IPV4V6

/-- What the code of `activeSpeciedCidProcess` leads to. -/
def afterActivation (data : SetupData) (r : Retry) (ret : Int) : M (Retry ⊕ Label) :=
  if ret = DATA_ACTIVE_NEED_RETRY then
    if r.nRetryTimes < 5 then pure (.inl { r with nRetryTimes := r.nRetryTimes + 1 })
    else pure (.inr (.done .retriesSpent r.index))
  else if ret = DATA_ACTIVE_NEED_FALLBACK then do
    if ← doIPV4_IPV6_Fallback cfg socket_id r.index data then pure (.inr (.done .fallenBack r.index))
    else pure (.inr (.error r.index))
  else if ret = DATA_ACTIVE_NEED_RETRY_FOR_ANOTHER_CID then do
    updatePDPCid socket_id (r.index + 1) (-1)
    pure (.inl r)
  else if ret = DATA_ACTIVE_SUCCESS ∧ (data.type = ascii "IPV4V6" ∨ data.type = ascii "IPV4+IPV6") ∧ cfg.s_isLTE then do
    checkFallBack cfg socket_id data data.type r.index
    pure (.inr (.done .activated r.index))
  else if ret ≠ DATA_ACTIVE_SUCCESS then pure (.inr (.error r.index))
  else pure (.inr (.done .activated r.index))

/-- A slot of the request's own is taken and activated. -/
def plainActivation (data : SetupData) (r : Retry) : M (Retry ⊕ Label) := do
  let index ← getPDP cfg socket_id
  let cid ← getPDPCid socket_id index
  if index < 0 ∨ 0 ≤ cid then do
    setFailCause socket_id .PDP_FAIL_ERROR_UNSPECIFIED
    pure (.inr (.error index))
  else do
    let ret ← activeSpeciedCidProcess cfg socket_id data (index + 1) data.type 0
    afterActivation cfg socket_id data { r with index := index } ret

/-- From the label `RETRY` to the next jump. -/
def setupRound (data : SetupData) (r : Retry) : M (Retry ⊕ Label) := do
  modifyShared fun g => { g with s_pdpType := pdpTypeOf data.type }
  modifySim socket_id fun m => { m with s_LTEDetached := false }
  let ret ← reuseDefaultBearer cfg socket_id data data.type
  if 0 < ret then pure (.inr (.done .reused (ret - 1)))
  else if ret = -3 then pure (.inr (.error r.index))
  else if ret = -2 ∧ r.nRetryTimes < 5 then pure (.inl { r with nRetryTimes := r.nRetryTimes + 1 })
  else plainActivation cfg socket_id data r

/-- The jumps back to `RETRY` that can happen: five for 288 and one for each slot given up. -/
def maxRounds : Nat := 12

/-- For the power consumption: VoLTE is told when the first call comes and when the last one went. -/
def switchVolte (on : Bool) : M Unit := do
  let active ← isExistActivePdp socket_id
  when (cfg.isVoLteEnable ∧ active = false ∧ cfg.ddrStatus) (sendCommand (.SPVOOLTE on))

/-- The request up to the label it leaves through. -/
def setupRounds (data : SetupData) : M (Option Label) := do
  switchVolte cfg socket_id false
  iterate (setupRound cfg socket_id data) maxRounds { index := -1, nRetryTimes := 0 }

def setupDone (index : Int) : M Unit := do
  putUnusablePDPCid socket_id
  modifyShared fun g =>
    { g with s_openchannelCid := index + 1 }.setChannel index fun c => { c with count := c.count + 1, pdpState := true }
  requestOrSendDataCallList cfg socket_id (index + 1) true

def releaseSlot (index : Int) : M Unit := do
  let fb_cid ← getFallbackCid socket_id index
  putPDP socket_id (fb_cid - 1)
  putPDP socket_id index

/-- The response carries the last fail cause. -/
def setupError (index : Int) : M Unit := do
  when (0 ≤ index) do
    releaseSlot socket_id index
    modifyShared (·.setChannel index fun c => { c with pdpState := true })
  putUnusablePDPCid socket_id
  let cause ← readSim socket_id (·.s_lastPDPFailCause)
  RIL_onRequestComplete .RIL_E_GENERIC_FAILURE [{ emptyDataCall with status := some cause }]

def requestSetupDataCall (data : SetupData) : M Unit := do
  match ← setupRounds cfg socket_id data with
  | some (.done _ index) => setupDone cfg socket_id index
  | some (.error index) => setupError socket_id index
  | none => pure ()

end UniRil.Data
