import UniRil.NetworkRequests.Radio
import UniRil.NetworkRequests.ScanRequest

/-!
# The network requests (ril_network.c)

The handlers of `processNetworkRequests`. Where AT+SPTESTMODE is sent the request ends with the answer to it, which
comes later.
-/

namespace UniRil.NetworkRequests

open Flows Handlers
open AtTok (Line)
open Network (RIL_RadioCapability)
open Sim (getProperty)

variable {ε : Type} (b : Build) (o : Outside) (socket_id : Nat)

/-! ## Signals -/

/-- `RIL_SignalStrength_v10`, in the order of its members. -/
def RIL_SignalStrength_v10 (signalStrength bitErrorRate rsrp : Int) : Payload :=
  .records [([signalStrength, bitErrorRate, -1, -1, -1, -1, -1, 99, rsrp, INT_MAX, INT_MAX, INT_MAX, INT_MAX, INT_MAX],
    [])]

def failSignals (t : RIL_Token) (p : Pointers) : Handler Globals ε Unit := do
  RIL_onRequestComplete t .GENERIC_FAILURE .NULL
  at_response_free p.1
  at_response_free p.2

def readCsq : Reader (Int × Int) := do
  let signalStrength ← nextint
  let bitErrorRate ← nextint
  pure (signalStrength, bitErrorRate)

def requestSignalStrength (t : RIL_Token) : Handler Globals ε Unit :=
  labelled (do
      let (r, line) ← askLine (ascii "AT+CSQ") (ascii "+CSQ:") none
      let newLine ← demand (csq_execute_cmd_rsp o.uninitialised.ber.toInt line) (some r, none)
      let new ← newResponse newLine
      let ((signalStrength, bitErrorRate), _) ← demand (readLine readCsq newLine) (some r, some new)
      RIL_onRequestComplete t .SUCCESS (RIL_SignalStrength_v10 signalStrength bitErrorRate INT_MAX)
      at_response_free (some r)
      at_response_free (some new))
    -- error:
    (failSignals t)

/-- `response[0]`, `response[2]` and `response[5]` -/
def readCesqLevels : Reader (Int × Int × Int) := do
  let rxlev ← nextint
  let _ ← nextint
  let rscp ← nextint
  let _skip ← nextint
  let _skip ← nextint
  let rsrp ← nextint
  pure (rxlev, rscp, rsrp)

def levelsLTE : Int × Int × Int → Payload
  | (rxlev, rscp, rsrp) =>
    let signalStrength := if rxlev ≠ -1 ∧ rxlev ≠ 99 then rxlev else 99
    RIL_SignalStrength_v10 (if rscp ≠ -1 ∧ rscp ≠ 255 then rscp else signalStrength) (-1)
      (if rsrp ≠ -1 ∧ rsrp ≠ 255 ∧ rsrp ≠ -255 then rsrp else INT_MAX)

def requestSignalStrengthLTE (t : RIL_Token) : Handler Globals ε Unit :=
  labelled (do
      let s ← at_send_command_singleline (ascii "AT+CESQ") (ascii "+CESQ:") none
      if ← unsuccessful s then
        -- the code at the label answers once more
        RIL_onRequestComplete t .GENERIC_FAILURE .NULL
        goto (s.p_response, none)
      let r ← deref s.p_response
      let line ← deref r.p_intermediates.head?
      let newLine ← demand (cesq_execute_cmd_rsp line) (some r, none)
      let new ← newResponse newLine
      let (levels, _) ← demand (readLine readCesqLevels newLine) (some r, some new)
      RIL_onRequestComplete t .SUCCESS (levelsLTE levels)
      at_response_free (some r)
      at_response_free (some new))
    -- error:
    (failSignals t)

/-! ## The network selection -/

def requestQueryNetworkSelectionMode (t : RIL_Token) : Handler Globals ε Unit :=
  labelled (do
      let (r, line) ← askLine (ascii "AT+COPS?") (ascii "+COPS:") none
      let (response, _) ← demand (readLine nextint line) (some r, none)
      RIL_onRequestComplete t .SUCCESS (.ints [response])
      at_response_free (some r))
    -- error:
    fun p => do
      at_response_free p.1
      RIL_onRequestComplete t .GENERIC_FAILURE .NULL

/-- The error 30 has an answer of its own. -/
def failSelection (t : RIL_Token) (p_response : Pointer) : Handler Globals ε Unit := do
  if (p_response.map (·.finalResponse)) = some (ascii "+CME ERROR: 30") then
    RIL_onRequestComplete t .ILLEGAL_SIM_OR_ME .NULL
  else
    RIL_onRequestComplete t .GENERIC_FAILURE .NULL
  at_response_free p_response

/-- The part of `processNetworkRequests` for SET_NETWORK_SELECTION_AUTOMATIC. -/
def setNetworkSelectionAutomatic (t : RIL_Token) : Handler Globals ε Unit := do
  modifyGlobals fun g => { g with s_setNetworkId := socket_id }
  labelled (do
      let s ← at_send_command (ascii "AT+COPS=0") none
      if ← unsuccessful s then
        goto s.p_response
      at_response_free s.p_response
      let s ← at_send_command (ascii "AT+CGAUTO=1") none
      if ← unsuccessful s then
        goto s.p_response
      RIL_onRequestComplete t .SUCCESS .NULL
      at_response_free s.p_response)
    -- error:
    (failSelection t)
  modifyGlobals fun g => { g with s_setNetworkId := -1 }

/-- The numeric and what stands behind its blank. -/
def copsCommand (copsMode : Int) (data : Line) : Line :=
  let operatorNumeric := data.takeWhile (· != 32)
  let act : Int := if 32 ∈ data then AtTok.atoi (data.drop (operatorNumeric.length + 1)) else 0
  let cmd := ascii "AT+COPS=" ++ decimal copsMode ++ ascii ",2," ++ quoted operatorNumeric
  snprintf AT_COMMAND_LEN (if 0 ≤ act then cmd ++ ascii "," ++ decimal act else cmd)

def requestNetworkRegistration (data : Option Line) (t : RIL_Token) : Handler Globals ε Unit :=
  labelled (do
      let g ← getGlobals
      let copsMode : Int := if getProperty g.COPS_MODE_PROP (ascii "manual") = ascii "automatic" then 4 else 1
      -- `strstr` looks for the blank
      let operatorNumeric ← deref data
      let s ← at_send_command (copsCommand copsMode operatorNumeric) none
      if ← unsuccessful s then
        goto s.p_response
      RIL_onRequestComplete t .SUCCESS .NULL
      at_response_free s.p_response)
    -- error:
    (failSelection t)

/-! ## Bands and modes -/

def bandCommands (data : Int) : List Line :=
  if data = 0 then
    [ascii "AT+SBAND=1,13,14", ascii "AT+SPFDDBAND=1,1,1", ascii "AT+SPFDDBAND=1,2,1", ascii "AT+SPFDDBAND=1,5,1"]
  else if data = 1 then [ascii "AT+SBAND=1,13,4", ascii "AT+SPFDDBAND=1,1,1"]
  else if data = 2 then [ascii "AT+SBAND=1,13,7", ascii "AT+SPFDDBAND=1,2,1", ascii "AT+SPFDDBAND=1,5,1"]
  else if data = 3 then [ascii "AT+SPFDDBAND=1,2,1"]
  else if data = 4 then [ascii "AT+SBAND=1,13,4", ascii "AT+SPFDDBAND=1,2,1", ascii "AT+SPFDDBAND=1,5,1"]
  else if data = 5 then [ascii "AT+SBAND=1,13,4", ascii "AT+SPFDDBAND=1,5,1"]
  else []

def sendAll : List Line → Handler Globals ε Unit
  | [] => pure ()
  | cmd :: rest => do
    let _ ← at_send_command_NULL cmd
    sendAll rest

def requestSetBandMode (data : Int) (t : RIL_Token) : Handler Globals ε Unit := do
  sendAll (bandCommands data)
  RIL_onRequestComplete t .SUCCESS .NULL

def requestGetBandMode (t : RIL_Token) : Handler Globals ε Unit :=
  RIL_onRequestComplete t .SUCCESS (.ints [5, 1, 2, 3, 4, 5])

/-- The type that requestSetLTEPreferredNetType makes of its data. -/
def preferredTypeLTE (data : Int) (g : Globals) : Int :=
  let multi := decide (socket_id = g.s_multiModeSim)
  if getProperty g.ENGTEST_ENABLE_PROP (ascii "false") = ascii "true" then Network.engineerType b.network multi data
  else Network.frameworkType b.network multi data

/-- There is nothing to switch: the SIM is not the one for data, or has the mode. -/
def keepsMode (type : Int) (g : Globals) : Prop :=
  let config := b.network.s_modemConfig
  (config = .LWG_G ∨ config = .W_G ∨ config = .LG_G) ∧
      (g.s_workMode socket_id = Network.NONE ∨ g.s_workMode socket_id = Network.GSM_ONLY) ∨
    config = .LWG_WG ∧ g.s_multiModeSim ≠ socket_id ∧ Network.isPrimaryCardWorkMode type = true ∨
    type = g.s_workMode socket_id

instance (type : Int) (g : Globals) : Decidable (keepsMode b socket_id type g) :=
  inferInstanceAs (Decidable (_ ∧ _ ∨ _ ∧ _ ∧ _ ∨ _))

def requestSetLTEPreferredNetType (data : Int) (t : RIL_Token) : Handler Globals ε Unit := do
  let g ← getGlobals
  let type := preferredTypeLTE b socket_id data g
  if type = 0 then
    RIL_onRequestComplete t .GENERIC_FAILURE .NULL
  else if keepsMode b socket_id type g then
    RIL_onRequestComplete t .SUCCESS .NULL
  else
    -- AT+SPTESTMODE, from `addAsyncCmdList` on
    runOn

/-- AT+SAUTOATT, before AT^SYSCONFIG on a modem without LTE. -/
def sendAutoAttach : Handler Globals ε Unit := do
  let g ← getGlobals
  if g.s_dataAllowed socket_id = 1 ∨ socket_id = 1 ∧ (g.slots 0).s_isSimPresent = .ABSENT then
    let _ ← at_send_command_NULL (ascii "AT+SAUTOATT=1")
  else
    let _ ← at_send_command_NULL (ascii "AT+SAUTOATT=0")

def Globals.setWorkModeOf (workmode : Int) (g : Globals) : Globals :=
  let s_workMode := Function.update g.s_workMode socket_id workmode
  { g with
    s_workMode := s_workMode
    MODEM_WORKMODE_PROP :=
      if b.simCount = 2 then RadioSwitch.workModeText b.channels s_workMode else o.numToStr }

def requestSetPreferredNetType (data : Int) (t : RIL_Token) : Handler Globals ε Unit :=
  labelled (do
      RIL_onUnsolicitedResponse .RIL_UNSOL_RESPONSE_VOICE_NETWORK_STATE_CHANGED
      let (type, workmode) := Network.preferredType b.network data
      if type = 0 then
        goto none
      let g ← getGlobals
      if g.s_workMode socket_id ∈ [Network.NONE, Network.GSM_ONLY, workmode] then
        RIL_onRequestComplete t .SUCCESS .NULL
      else
        sendAutoAttach socket_id
        let s ← at_send_command (ascii "AT^SYSCONFIG=" ++ decimal type ++ ascii ",3,2,4") none
        if ← unsuccessful s then
          goto s.p_response
        modifyGlobals (Globals.setWorkModeOf b o socket_id workmode)
        at_response_free s.p_response
        RIL_onRequestComplete t .SUCCESS .NULL)
    -- error:
    fun p_response => do
      at_response_free p_response
      RIL_onRequestComplete t .GENERIC_FAILURE .NULL

/-- The first `switch` of requestGetLTEPreferredNetType; the numbers are the `NT_*` ones. -/
def engineerNetType (workMode : Int) : Int :=
  if workMode = Network.TD_LTE then 51
  else if workMode = Network.LTE_FDD then 52
  else if workMode = Network.TD_LTE_AND_LTE_FDD then 53
  else if workMode = Network.LTE_FDD_AND_W_AND_GSM then 54
  else if workMode = Network.TD_LTE_AND_W_AND_GSM then 55
  else if workMode = Network.TD_LTE_AND_LTE_FDD_AND_W_AND_GSM then 56
  else if workMode = Network.TD_LTE_AND_TD_AND_GSM then 57
  else if workMode = Network.TD_LTE_AND_LTE_FDD_AND_TD_AND_GSM then 58
  else if workMode = Network.TD_LTE_AND_LTE_FDD_AND_W_AND_TD_AND_GSM then 59
  else if workMode ∈ [Network.PRIMARY_GSM_ONLY, Network.GSM_ONLY] then 60
  else if workMode ∈ [Network.WCDMA_ONLY, Network.PRIMARY_WCDMA_ONLY] then 61
  else if workMode = Network.TD_ONLY then 62
  else if workMode = Network.TD_AND_GSM then 63
  else if workMode ∈ [Network.WCDMA_AND_GSM, Network.PRIMARY_WCDMA_AND_GSM] then 64
  else if workMode ∈ [Network.TD_AND_WCDMA, Network.PRIMARY_TD_AND_WCDMA] then 65
  else if workMode = Network.TD_LTE_AND_LTE_FDD_AND_GSM then 66
  else if workMode = Network.TD_LTE_AND_LTE_FDD_WCDMA then 67
  else -1

/-- The second `switch`; the numbers are the `NETWORK_MODE_*` ones. -/
def frameworkNetType (workMode : Int) : Int :=
  if workMode ∈ [Network.TD_LTE_AND_LTE_FDD_AND_W_AND_TD_AND_GSM, Network.TD_LTE_AND_LTE_FDD_AND_W_AND_GSM,
      Network.TD_LTE_AND_TD_AND_GSM] then 9
  else if workMode = Network.TD_LTE_AND_LTE_FDD_AND_GSM then 23
  else if workMode ∈ [Network.TD_AND_WCDMA, Network.PRIMARY_TD_AND_WCDMA, Network.WCDMA_AND_GSM,
      Network.PRIMARY_WCDMA_AND_GSM, Network.TD_AND_GSM] then 0
  else if workMode ∈ [Network.PRIMARY_GSM_ONLY, Network.GSM_ONLY] then 1
  else if workMode ∈ [Network.TD_LTE, Network.LTE_FDD, Network.TD_LTE_AND_LTE_FDD] then 11
  else if workMode ∈ [Network.WCDMA_ONLY, Network.PRIMARY_WCDMA_ONLY] then 2
  else if workMode = Network.TD_LTE_AND_LTE_FDD_WCDMA then 12
  else -1

def requestGetLTEPreferredNetType (t : RIL_Token) : Handler Globals ε Unit := do
  let g ← getGlobals
  let type :=
    if getProperty g.ENGTEST_ENABLE_PROP (ascii "false") = ascii "true" then engineerNetType (g.s_workMode socket_id)
    else frameworkNetType (g.s_workMode socket_id)
  if type < 0 then
    RIL_onRequestComplete t .GENERIC_FAILURE .NULL
  else
    RIL_onRequestComplete t .SUCCESS (.ints [type])

/-- The mode of AT^SYSCONFIG? as a type; another mode leaves `type` as it is. -/
def sysconfigType (type response : Int) : Int :=
  if response = 2 then 0
  else if response = 13 then 1
  else if response = 14 ∨ response = 15 then 2
  else type

def requestGetPreferredNetType (t : RIL_Token) : Handler Globals ε Unit :=
  labelled (do
      let (r, line) ← askLine (ascii "AT^SYSCONFIG?") (ascii "^SYSCONFIG:") none
      let type := (AtTok.at_tok_start (some line)).elim o.type fun cur =>
        sysconfigType o.type ((AtTok.at_tok_nextint (some cur)).p_out.getD 0)
      at_response_free (some r)
      RIL_onRequestComplete t .SUCCESS (.ints [type]))
    -- error:
    fun p => do
      at_response_free p.1
      RIL_onRequestComplete t .GENERIC_FAILURE .NULL

/-! ## Neighbouring cells -/

structure RIL_NeighboringCell where
  cid : Line
  rssi : Int

/-- `cellIdNumber` -/
def readCellNumber : Reader Int := do
  let _sskip ← nextstr
  let _skip ← nextint
  nextint

/-- The loop; in 4G each group begins with a field that is skipped. -/
def readNeighboringCells (fourG : Bool) : Nat → Reader (List RIL_NeighboringCell)
  | 0 => pure []
  | cells + 1 => do
    if fourG then
      let _sskip ← nextstr
    let cid ← nextstr
    let rssi ← nextint
    let rest ← readNeighboringCells fourG cells
    pure ({ cid := cid, rssi := rssi } :: rest)

/-- The cells of an answer, from its first field on. -/
def neighboringCells (fourG : Bool) (p : Pointers) (line : Option Line) :
    Handler Globals Pointers (List RIL_NeighboringCell) := do
  let (cellIdNumber, line) ← demand (readCellNumber line) p
  if cellIdNumber = 0 then
    goto p
  -- `alloca` of a size that the stack does not have
  if cellIdNumber < 0 ∨ o.stackRoom < cellIdNumber then
    crash
  let (cells, _) ← demand (readNeighboringCells fourG cellIdNumber.toNat line) p
  pure cells

def completeNeighbors (t : RIL_Token) (r : Response) (cells : List RIL_NeighboringCell) : Handler Globals ε Unit := do
  RIL_onRequestComplete t .SUCCESS (.records (cells.map fun cell => ([cell.rssi], [some cell.cid])))
  at_response_free (some r)

/-- Where a line has nothing behind its colon, the next command is sent. -/
def requestNeighboaringCellIds (t : RIL_Token) : Handler Globals ε Unit := do
  let g ← getGlobals
  if (g.slots socket_id).s_isSimPresent ≠ .PRESENT then
    RIL_onRequestComplete t .SIM_ABSENT .NULL
  else
    labelled (do
        let (r, line) ← askLine (ascii "AT+Q2GNCELL") (ascii "+Q2GNCELL:") none
        let cur ← demand (AtTok.at_tok_start (some line)) (some r, none)
        if AtTok.at_tok_hasmore (some cur) then
          let cells ← neighboringCells o false (some r, none) (some cur)
          completeNeighbors t r cells
        else
          at_response_free (some r)
          let (r, line) ← askLine (ascii "AT+Q3GNCELL") (ascii "+Q3GNCELL:") none
          let cur ← demand (AtTok.at_tok_start (some line)) (some r, none)
          if AtTok.at_tok_hasmore (some cur) then
            let cells ← neighboringCells o false (some r, none) (some cur)
            completeNeighbors t r cells
          else
            at_response_free (some r)
            let (r, line) ← askLine (ascii "AT+SPQ4GNCELL") (ascii "+SPQ4GNCELL:") none
            let cur ← demand (AtTok.at_tok_start (some line)) (some r, none)
            if AtTok.at_tok_hasmore (some cur) then
              let cells ← neighboringCells o true (some r, none) (some cur)
              completeNeighbors t r cells
            else
              goto (some r, none))
      -- error:
      fun p => do
        RIL_onRequestComplete t .GENERIC_FAILURE .NULL
        at_response_free p.1

def requestSetLocationUpdates (enable : Int) (t : RIL_Token) : Handler Globals ε Unit := do
  let _ ← at_send_command_NULL (if enable = 0 then ascii "AT+CREG=1" else ascii "AT+CREG=2")
  RIL_onRequestComplete t .SUCCESS .NULL

/-! ## The radio capability -/

/-- The bits of the radio technologies. -/
def RAF (techs : List Nat) : Int := (techs.map fun tech => (2 : Int) ^ tech).sum

def RAF_LTE : Int := RAF [14]

/-- RAF_HSDPA, RAF_HSUPA, RAF_HSPA, RAF_HSPAP and RAF_UMTS -/
def WCDMA : Int := RAF [9, 10, 11, 15, 3]

/-- RAF_GSM, RAF_GPRS and RAF_EDGE -/
def GSM : Int := RAF [16, 1, 2]

def RAF_UNKNOWN : Int := RAF [0]

def getRadioFeatures (simId : Nat) (g : Globals) : Int :=
  let workMode := g.s_workMode simId
  match b.network.s_modemConfig with
  | .LWG_WG => if simId = g.s_multiModeSim then RAF_LTE + WCDMA + GSM else WCDMA + GSM
  | .LWG_LWG => RAF_LTE + WCDMA + GSM
  | .WG_WG => WCDMA + GSM
  | config =>
    if workMode = Network.GSM_ONLY then GSM
    else if workMode = Network.NONE then
      if (g.slots simId).s_isSimPresent ≠ .ABSENT then GSM else RAF_UNKNOWN
    else if config = .LG_G then RAF_LTE + GSM
    else if config = .W_G then WCDMA + GSM
    else RAF_LTE + WCDMA + GSM

def capability (rc : RIL_RadioCapability) : Payload :=
  .records [([rc.version, rc.session, rc.phase, rc.rat, rc.status], [some rc.logicalModemUuid])]

def requestGetRadioCapability (t : RIL_Token) : Handler Globals ε Unit := do
  let g ← getGlobals
  RIL_onRequestComplete t .SUCCESS
    (capability
      { version := 1
        session := 0
        phase := Network.RC_PHASE_CONFIGURED
        rat := getRadioFeatures b socket_id g
        logicalModemUuid :=
          if socket_id = g.s_multiModeSim then ascii "com.sprd.modem_multiMode" else ascii "com.sprd.modem_singleMode"
        status := 0 })

/-- Each SIM is told, and its session ends. -/
def sendUnsolRadioCapability : Handler Globals ε Unit := do
  RIL_onUnsolicitedResponse .RIL_UNSOL_RADIO_CAPABILITY
  modifyGlobals fun g => { g with s_sessionId := Function.update g.s_sessionId g.s_multiModeSim 0 }
  if b.simCount = 2 then
    RIL_onUnsolicitedResponse .RIL_UNSOL_RADIO_CAPABILITY
    modifyGlobals fun g =>
      { g with s_sessionId := Function.update g.s_sessionId (if g.s_multiModeSim = 0 then 1 else 0) 0 }

/-- `maxBitValue`, behind the loop of isMaxRat. -/
def maxBits (g : Globals) : Int :=
  (List.range b.simCount).foldl
    (fun maxBitValue simId => max maxBitValue (Network.bitCount (g.s_radioAccessFamily simId) : Int)) (-1)

def isMaxRat (rat : Int) (g : Globals) : Bool := (Network.bitCount rat : Int) = maxBits b g

/-- `applySetLTERadioCapability` returns 2. -/
def keepsPrimarySim (rat : Int) (g : Globals) : Prop :=
  isMaxRat b rat g = true ∧ g.s_multiModeSim = socket_id ∨
    isMaxRat b rat g = false ∧ b.simCount = 2 ∧ g.s_multiModeSim ≠ socket_id

instance (rat : Int) (g : Globals) : Decidable (keepsPrimarySim b socket_id rat g) :=
  inferInstanceAs (Decidable (_ ∧ _ ∨ _ ∧ _ ∧ _))

/-- Every SIM has asked for the switch. -/
def Globals.allAsked (g : Globals) : Bool := (List.range b.simCount).all fun simId => g.s_requestSetRC simId = 1

/-- RC_PHASE_APPLY, when all SIMs have asked for it. -/
def applyCapability (channelID : Nat) (rc : RIL_RadioCapability) (t : RIL_Token) : Handler Globals ε Unit := do
  modifyGlobals fun g =>
    { g with s_requestSetRC := fun simId => if simId < b.simCount then 0 else g.s_requestSetRC simId }
  if b.network.s_isLTE then
    let g ← getGlobals
    if keepsPrimarySim b socket_id rc.rat g then
      RIL_onRequestComplete t .SUCCESS (capability rc)
      sendUnsolRadioCapability b
    else
      -- AT+SPTESTMODE, with the modes of the SIMs swapped
      runOn
  else
    let ret ← onRadios (RadioSwitch.applySetRadioCapability b.channels o.idle rc.rat socket_id channelID)
    if ret > 0 then
      RIL_onRequestComplete t .SUCCESS (capability rc)
      sendUnsolRadioCapability b
    else
      RIL_onRequestComplete t .GENERIC_FAILURE (capability rc)

def requestSetRadioCapability (channelID : Nat) (rc : RIL_RadioCapability) (t : RIL_Token) :
    Handler Globals ε Unit := do
  let startSession (session : Int) : Handler Globals ε Unit :=
    modifyGlobals fun g => { g with s_sessionId := Function.update g.s_sessionId socket_id session }
  if rc.phase = Network.RC_PHASE_START then
    startSession rc.session
    modifyGlobals fun g => { g with s_radioAccessFamily := Function.update g.s_radioAccessFamily socket_id rc.rat }
    RIL_onRequestComplete t .SUCCESS (capability { rc with status := Network.RC_STATUS_SUCCESS })
  else if rc.phase = Network.RC_PHASE_FINISH then
    startSession 0
    RIL_onRequestComplete t .SUCCESS
      (capability { rc with phase := Network.RC_PHASE_CONFIGURED, status := Network.RC_STATUS_SUCCESS })
  else if rc.phase = Network.RC_PHASE_APPLY then
    startSession rc.session
    modifyGlobals fun g => { g with s_requestSetRC := Function.update g.s_requestSetRC socket_id 1 }
    let g ← getGlobals
    if g.allAsked b then
      applyCapability b o socket_id channelID { rc with status := Network.RC_STATUS_SUCCESS } t
    else
      RIL_onRequestComplete t .SUCCESS (capability { rc with status := Network.RC_STATUS_SUCCESS })
  else
    startSession rc.session
    RIL_onRequestComplete t .INVALID_STATE .NULL

/-! ## Operator names -/

/-- NULL is compared with the entries of the list. -/
def removeOperator (plmn : Option Line) (optList : List Network.OperatorNames.OperatorInfo) :
    Handler Globals ε (List Network.OperatorNames.OperatorInfo) :=
  if optList = [] then pure []
  else do
    let plmn ← deref plmn
    pure (Network.OperatorNames.removeOperatorInfo plmn optList)

def requestUpdateOperatorName (plmn : Option Line) (t : RIL_Token) : Handler Globals ε Unit :=
  match o.updatePlmn ARRAY_SIZE plmn with
  | none => RIL_onRequestComplete t .GENERIC_FAILURE .NULL
  | some operatorName => do
    if operatorName.1 = [] then
      RIL_onRequestComplete t .GENERIC_FAILURE .NULL
    else
      let g ← getGlobals
      let optList ← removeOperator plmn g.operators.s_operatorInfoList
      -- NULL is not added
      let optList := plmn.elim optList fun plmn =>
        Network.OperatorNames.addToOperatorInfoList plmn operatorName.1 optList
      modifyGlobals fun g => { g with operators := { g.operators with s_operatorInfoList := optList } }
      RIL_onRequestComplete t .SUCCESS .NULL
      RIL_onUnsolicitedResponse .RIL_UNSOL_RESPONSE_VOICE_NETWORK_STATE_CHANGED

/-! ## The switch -/

inductive Request where
  | SIGNAL_STRENGTH
  | REGISTRATION (request : RegistrationRequest)
  | OPERATOR
  | RADIO_POWER (data : Int)
  | QUERY_NETWORK_SELECTION_MODE
  | SET_NETWORK_SELECTION_AUTOMATIC
  | SET_NETWORK_SELECTION_MANUAL (data : Option Line)
  | QUERY_AVAILABLE_NETWORKS
  | RESET_RADIO
  | SET_BAND_MODE (data : Int)
  | QUERY_AVAILABLE_BAND_MODE
  | SET_PREFERRED_NETWORK_TYPE (data : Int)
  | GET_PREFERRED_NETWORK_TYPE
  | GET_NEIGHBORING_CELL_IDS
  | SET_LOCATION_UPDATES (enable : Int)
  | GET_CELL_INFO_LIST
  | SET_UNSOL_CELL_INFO_LIST_RATE
  | SHUTDOWN
  | GET_RADIO_CAPABILITY
  | SET_RADIO_CAPABILITY (rc : RIL_RadioCapability)
  | GET_IMS_BEARER_STATE
  | STOP_QUERY_NETWORK
  | UPDATE_OPERATOR_NAME (plmn : Option Line)
  | START_NETWORK_SCAN (data : RIL_NetworkScanRequest)
  | STOP_NETWORK_SCAN
  | SET_EMERGENCY_ONLY (value : Int)

def processNetworkRequests (channelID : Nat) (r : Request) (t : RIL_Token) : Handler Globals Empty Unit :=
  match r with
  | .SIGNAL_STRENGTH => if b.network.s_isLTE then requestSignalStrengthLTE t else requestSignalStrength o t
  | .REGISTRATION request =>
    within Globals.registration (fun registration g => { g with registration })
      (requestRegistrationState b.network.s_isLTE request t)
  | .OPERATOR =>
    within Globals.operators (fun operators g => { g with operators })
      (requestOperator o.RIL_getONS (fun plmn => o.updatePlmn 64 (some plmn)) t)
  | .RADIO_POWER data => requestRadioPower b o socket_id data t
  | .QUERY_NETWORK_SELECTION_MODE => requestQueryNetworkSelectionMode t
  | .SET_NETWORK_SELECTION_AUTOMATIC => setNetworkSelectionAutomatic socket_id t
  | .SET_NETWORK_SELECTION_MANUAL data => do
    modifyGlobals fun g => { g with s_setNetworkId := socket_id }
    requestNetworkRegistration data t
    modifyGlobals fun g => { g with s_setNetworkId := -1 }
  | .QUERY_AVAILABLE_NETWORKS => do
    modifyGlobals fun g => { g with s_manualSearchNetworkId := socket_id }
    requestNetworkList o.updateNetworkList o.stale t
    modifyGlobals fun g => { g with s_manualSearchNetworkId := -1 }
  | Request.RESET_RADIO => requestResetRadio socket_id t
  | .SET_BAND_MODE data => requestSetBandMode data t
  | .QUERY_AVAILABLE_BAND_MODE => requestGetBandMode t
  | .SET_PREFERRED_NETWORK_TYPE data =>
    if b.network.s_isLTE then requestSetLTEPreferredNetType b socket_id data t
    else requestSetPreferredNetType b o socket_id data t
  | .GET_PREFERRED_NETWORK_TYPE =>
    if b.network.s_isLTE then requestGetLTEPreferredNetType socket_id t else requestGetPreferredNetType o t
  | .GET_NEIGHBORING_CELL_IDS => requestNeighboaringCellIds o socket_id t
  | .SET_LOCATION_UPDATES enable => requestSetLocationUpdates enable t
  | .GET_CELL_INFO_LIST => requestGetCellInfoList b.network.s_isLTE o.uninitialised o.ril_nano_time t
  | .SET_UNSOL_CELL_INFO_LIST_RATE => RIL_onRequestComplete t .SUCCESS .NULL
  | .SHUTDOWN => requestShutdown socket_id t
  | .GET_RADIO_CAPABILITY => requestGetRadioCapability b socket_id t
  | .SET_RADIO_CAPABILITY rc => do
    let g ← getGlobals
    if getProperty g.FIXED_SLOT_PROP (ascii "false") = ascii "true" then
      RIL_onRequestComplete t .REQUEST_NOT_SUPPORTED .NULL
    else
      requestSetRadioCapability b o socket_id channelID rc t
  | .GET_IMS_BEARER_STATE => do
    let g ← getGlobals
    RIL_onRequestComplete t .SUCCESS (.ints [g.s_imsBearerEstablished socket_id])
  | .STOP_QUERY_NETWORK => do
    let s ← at_send_command (ascii "AT+SAC") none
    completeByOutcome t s
  | .UPDATE_OPERATOR_NAME plmn => requestUpdateOperatorName o plmn t
  | .START_NETWORK_SCAN data => within (fun _ => ()) (fun _ g => g) (requestStartNetworkScan data t)
  | .STOP_NETWORK_SCAN => do
    let _ ← at_send_command_NULL (ascii "AT+SAC")
    RIL_onRequestComplete t .SUCCESS .NULL
  | .SET_EMERGENCY_ONLY value => requestSetEmergencyOnly value t

end UniRil.NetworkRequests
