import UniRil.Data.Setup

/-!
# The other operations on data calls, and the system of the SIMs
-/

namespace UniRil.Data

open StateRules AtTok

variable (cfg : Config) (socket_id : RIL_SOCKET_ID)

/-! ## Deactivation -/

/-- The label `done` of `deactivateDataConnection`. -/
def answerDeactivate (hasToken error : Bool) : M Unit := do
  let present ← readSim socket_id (·.s_isSimPresent)
  if present = false then RIL_onRequestComplete .RIL_E_INVALID_CALL_ID []
  else if hasToken then RIL_onRequestComplete (if error then .RIL_E_GENERIC_FAILURE else .RIL_E_SUCCESS) []
  else pure ()

def deactivateCid (cid : Int) : M Unit := do
  let _ ← at_send_command (.CGACT_0 cid)
  cgact_deact_cmd_rsp cid

/-- AT+CGACT=0 for the call and for its second context. -/
def deactivateCall (cid : Int) : M Unit := do
  let secondaryCid ← getFallbackCid socket_id (cid - 1)
  deactivateCid cid
  when (secondaryCid ≠ -1) (deactivateCid secondaryCid)
  putPDP socket_id (secondaryCid - 1)
  putPDP socket_id (cid - 1)
  switchVolte cfg socket_id true

def deactivateDataConnection (p_cid : Line) (hasToken : Bool) : M Unit := do
  let cid := atoi p_cid
  if cid < 1 then answerDeactivate socket_id hasToken true
  else do
    modifyShared (·.setChannel (cid - 1) fun c => if 0 < c.count then { c with count := c.count - 1 } else c)
    let state ← getPDPState socket_id (cid - 1)
    if state = .PDP_IDLE then answerDeactivate socket_id hasToken false
    else do
      let count ← readShared fun g => (g.s_openchannelInfo (cid - 1)).count
      if count ≠ 0 then answerDeactivate socket_id hasToken true
      else do
        deactivateCall cfg socket_id cid
        answerDeactivate socket_id hasToken false

/-! ## Detach -/

/-- The framework is told when the slot was in use. -/
def detachSlot (i : Int) (state : PDPState) : M Unit := do
  let _ ← at_send_command (.CGACT_0 (i + 1))
  putPDP socket_id i
  cgact_deact_cmd_rsp (i + 1)
  when (state = .PDP_BUSY) (requestOrSendDataCallList cfg socket_id (i + 1) false)

/-- The loop of `detachGPRS`. -/
def detachSlots : List Int → M Unit
  | [] => pure ()
  | i :: is => do
    let cid ← getPDPCid socket_id i
    let state ← getPDPState socket_id i
    when (state = .PDP_BUSY ∨ 0 < cid) (detachSlot cfg socket_id i state)
    detachSlots is

def RIL_SOCKET_ID.other : RIL_SOCKET_ID → RIL_SOCKET_ID
  | .RIL_SOCKET_1 => .RIL_SOCKET_2
  | .RIL_SOCKET_2 => .RIL_SOCKET_1

/-- The data card is switched when both SIMs are there; the result says whether all went well. -/
def switchDataCard : M Bool :=
  if cfg.allSIMsPresent = false ∨ cfg.isLWG_LWG then pure true
  else if cfg.inSession socket_id then pure false
  else if socket_id ≠ cfg.s_multiModeSim then do
    let reply ← at_send_command .SGFD
    if reply.success then
      let _ ← at_send_command (.SPSWITCHDATACARD socket_id false)
      pure true
    else pure false
  else do
    let _ ← at_send_command (.SPSWITCHDATACARD socket_id.other true)
    pure true

def detachFromNetwork : M Bool :=
  if cfg.s_isLTE then do
    detachSlots cfg socket_id [0, 1, 2, 3, 4, 5]
    switchDataCard cfg socket_id
  else do
    let reply ← at_send_command .SGFD
    pure reply.success

def detachGPRS (hasToken : Bool) : M Unit :=
  if cfg.s_autoDetach ∧ hasToken then RIL_onRequestComplete .RIL_E_SUCCESS []
  else do
    let ok ← detachFromNetwork cfg socket_id
    if ok then when (hasToken = true) (RIL_onRequestComplete .RIL_E_SUCCESS [])
    else RIL_onRequestComplete .RIL_E_GENERIC_FAILURE []

/-! ## Unsolicited lines -/

/-- `strstr` finds the needle. -/
def strstr : Line → Line → Bool
  | [], needle => needle.isEmpty
  | c :: s, needle => strStartsWith (c :: s) needle || strstr s needle

/-- The cid and the state of a +CGEV line that is followed up. -/
def cgevUpdate (tmp : Line) : Option (Int × Int) :=
  if strstr tmp (ascii "NW PDN ACT") then some (atoi (tmp.drop 12), 1)
  else if strstr tmp (ascii "NW ACT ") then some (atoi (tmp.drop 8), 1)
  else if strstr tmp (ascii "NW PDN DEACT") then some (atoi (tmp.drop 14), 0)
  else none

def processCgev (s : Line) : M Unit :=
  match cgevUpdate ((at_tok_start (some s)).getD []) with
  | some (cid, pdpState) => updatePDPCid socket_id cid pdpState
  | none => pure ()

/-- The cid and the end status of a ^CEND line with five parameters. -/
def cendFields (s : Line) : Option (Int × Int) := do
  let tmp := at_tok_start (some s)
  let cid := at_tok_nextint tmp
  let endStatus := at_tok_nextint (skipNextComma cid.p_cur)
  let ccCause := at_tok_nextint endStatus.p_cur
  let c ← cid.value
  let e ← endStatus.value
  let _ ← ccCause.value
  if (tmp.getD []).count 44 = 4 then pure (c, e) else none

/-- The channel that was opened over the call is closed. -/
def closeChannel (cid : Int) : M Unit := do
  modifyShared (·.setChannel (cid - 1) fun c => { c with cid := -1, state := .CLOSE })
  releaseSlot socket_id (cid - 1)

/-- The network has ended the call; the list is sent by a callback of its own. -/
def callEnded (cid : Int) : M Unit := do
  let curCid ← readSim socket_id (·.s_curCid)
  when (cid = curCid) (modifySim socket_id fun m => { m with s_LTEDetached := true })
  let channel ← readShared fun g => (g.s_openchannelInfo (cid - 1)).state
  when (channel ≠ .CLOSE) (closeChannel socket_id cid)
  modifyShared (·.setChannel (cid - 1) fun c => { c with count := 0 })

def processCend (s : Line) : M Unit :=
  match cendFields s with
  | some (cid, endStatus) =>
    if endStatus = 104 ∧ 0 < cid ∧ cid ≤ MAX_PDP then do
      let state ← getPDPState socket_id (cid - 1)
      if state = .PDP_BUSY then callEnded socket_id cid else pure ()
    else pure ()
  | none => pure ()

def processDataUnsolicited (s : Line) : M Unit :=
  if strStartsWith s (ascii "+CGEV:") then processCgev socket_id s
  else if strStartsWith s (ascii "^CEND:") then processCend socket_id s
  else pure ()

/-! ## The system -/

/-- One operation of a SIM, with what comes from outside while it runs. -/
inductive Op
  | setupDataCall (data : SetupData) (env : Env)
  | deactivateDataCall (p_cid : Line) (env : Env)
  | detach (hasToken : Bool) (env : Env)
  | dataCallListChanged (cid : Int) (env : Env)
  | unsolicited (s : Line)

def Op.env : Op → Env → Env
  | .setupDataCall _ env, _ => env
  | .deactivateDataCall _ env, _ => env
  | .detach _ env, _ => env
  | .dataCallListChanged _ env, _ => env
  | .unsolicited _, env => env

def Op.code : Op → M Unit
  | .setupDataCall data _ => requestSetupDataCall cfg socket_id data
  | .deactivateDataCall p_cid _ => deactivateDataConnection cfg socket_id p_cid true
  | .detach hasToken _ => detachGPRS cfg socket_id hasToken
  | .dataCallListChanged cid _ => requestOrSendDataCallList cfg socket_id cid false
  | .unsolicited s => processDataUnsolicited socket_id s

/-- The world in which an operation starts, and in which its log is empty. -/
def World.enter (w : World) (op : Op) : World := { w with env := op.env w.env, log := [] }

/-- One operation; afterwards the log holds what it sent out. -/
def perform (w : World) (a : RIL_SOCKET_ID × Op) : World := (a.2.code cfg a.1 (w.enter a.2)).2

end UniRil.Data
