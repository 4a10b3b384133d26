import UniRil.Sim.Responses

/-!
# The card and its applications

The status of the card, its records, the logical channels and the power of the card.
-/

namespace UniRil.Sim

open Flows Handlers
open AtTok (Line)

variable {ε : Type}

/-! ## The status of the card -/

def getSimType : Handler Slot ε RIL_AppType := do
  let s ← at_send_command_singleline (ascii "AT+EUICC?") (ascii "+EUICC:") none
  let ret ←
    if ← unsuccessful s then
      pure .UNKNOWN
    else
      labelled (do
          let line ← firstLine s.p_response
          let line ← at_tok_start line ()
          let (_, line) ← at_tok_nextint line ()
          let (_, line) ← at_tok_nextint line ()
          let (cardType, _) ← at_tok_nextint line ()
          pure (if cardType = 1 then RIL_AppType.USIM else if cardType = 0 then .SIM else .UNKNOWN))
        -- error:
        fun _ => pure .UNKNOWN
  at_response_free s.p_response
  pure ret

/-- The cell `s_imsInitISIM` is stored to before the test of the number. -/
def initISIM : Handler Slot ε Int := do
  let g ← getGlobals
  if g.s_imsInitISIM ≠ -1 then
    pure g.s_imsInitISIM
  else
    let s ← at_send_command_singleline (ascii "AT+ISIM=1") (ascii "+ISIM:") none
    if !(← unsuccessful s) then
      labelled (do
          let line ← firstLine s.p_response
          let line ← at_tok_start line ()
          let (isim, line) ← nextint line
          modifyGlobals fun g => { g with s_imsInitISIM := isim.p_out.getD g.s_imsInitISIM }
          if isim.p_out = some 1 then
            let (session, _) ← nextint line
            modifyGlobals fun g => { g with s_simSessionId := session.p_out.getD g.s_simSessionId })
        fun _ => pure ()
    at_response_free s.p_response
    let g ← getGlobals
    pure g.s_imsInitISIM

def RIL_AppType.code : RIL_AppType → Int
  | .UNKNOWN => 0
  | .SIM => 1
  | .USIM => 2

/-- `app_state`, `perso_substate` and `pin1` of `app_status_array`. -/
def SimStatus.app : SimStatus → Int × Int × Int
  | .SIM_ABSENT => (0, 0, 0)
  | .SIM_NOT_READY => (1, 0, 0)
  | .SIM_READY => (5, 2, 0)
  | .SIM_PIN => (2, 0, 1)
  | .SIM_PUK => (3, 0, 4)
  | .SIM_NETWORK_PERSONALIZATION => (4, 3, 1)
  | .SIM_NETWORK_SUBSET_PERSONALIZATION => (4, 4, 1)
  | .SIM_SERVICE_PROVIDER_PERSONALIZATION => (4, 6, 1)
  | .SIM_CORPORATE_PERSONALIZATION => (4, 5, 1)
  | .SIM_SIM_PERSONALIZATION => (4, 7, 1)
  | .SIM_NETWORK_PUK => (4, 8, 1)
  | .SIM_NETWORK_SUBSET_PUK => (4, 9, 1)
  | .SIM_SERVICE_PROVIDER_PUK => (4, 11, 1)
  | .SIM_CORPORATE_PUK => (4, 10, 1)
  | .SIM_SIM_PUK => (4, 12, 1)
  | .SIM_SIMLOCK_FOREVER => (4, RIL_EXT_PERSOSUBSTATE_BASE + 1, 1)
  | .SIM_PERM_BLOCK => (3, 0, 5)
where
  RIL_EXT_PERSOSUBSTATE_BASE : Int := 24

/-- The card itself and its applications: the indexes of the one for GSM and of the one for IMS come
first, then `app_type`, `app_state`, `perso_substate` and `pin1` of each. -/
def cardStatus (sim_status : SimStatus) (appType : RIL_AppType) (isimResp : Int) : Payload :=
  let gsm : Int × Int × Int := sim_status.app
  let app : List Int × List (Option Line) := ([appType.code, gsm.1, gsm.2.1, gsm.2.2], [])
  if sim_status = .SIM_ABSENT then .records [([0, -1, -1], [])]
  else if isimResp = 1 then .records [([1, 0, 1], []), app, ([5, 5, 2, 0], [])]
  else .records [([1, 0, -1], []), app]

def getCardStatus (simmgr : Bool) : Handler Slot ε Payload := do
  let g ← getGlobals
  let sim_status ←
    if simmgr = false ∧ getProperty g.SIM_ENABLED_PROP (ascii "1") = ascii "0" then pure SimStatus.SIM_ABSENT
    else getSIMStatus simmgr
  let appType ← getSimType
  modifyGlobals fun g => { g with s_appType := appType }
  let isimResp ← if sim_status = .SIM_READY ∧ appType = .USIM then initISIM else pure 0
  pure (cardStatus sim_status appType isimResp)

def requestGetSimStatus (simmgr : Bool) (t : RIL_Token) : Handler Slot ε Unit := do
  let status ← getCardStatus simmgr
  RIL_onRequestComplete t .SUCCESS status

def requestGetIMSI (t : RIL_Token) : Handler Slot ε Unit := do
  let s ← at_send_command_numeric (ascii "AT+CIMI") none
  if ← unsuccessful s then
    RIL_onRequestComplete t .GENERIC_FAILURE .NULL
  else
    let line ← firstLine s.p_response
    RIL_onRequestComplete t .SUCCESS (.string (line.cur.getD []))
  at_response_free s.p_response

/-! ## Records -/

/-- The status words of a record that was read. -/
def goodStatus (sw1 : Int) : Bool := sw1 = 0x90 || sw1 = 0x91 || sw1 = 0x9e || sw1 = 0x9f

/-- The parts of a long record that are left, `total` bytes having been read. A buffer whose size is
no `int` is NULL. -/
def readParts (p_args : RIL_SIM_IO_v6) :
    Nat → Nat → Option Line → Handler Slot Unit RIL_SIM_IO_Response
  | 0, _, simResponse => pure { sw1 := 0, sw2 := 0, simResponse := simResponse }
  | times + 1, total, simResponse => do
    let rest := p_args.p3 - total
    let p3 := if 255 ≤ rest then 255 else p_args.p3 % 255
    let sr ← readSimRecord { p_args with p1 := (total / 256 : Nat), p2 := (total % 256 : Nat), p3 := p3 }
    let sr ← demand sr ()
    if !goodStatus sr.sw1 then
      pure { sr with simResponse := simResponse }
    else do
      let simResponse ← deref simResponse
      let part ← deref sr.simResponse
      let simResponse := simResponse ++ part.take (p3 * 2).toNat
      if times = 0 then
        pure { sr with simResponse := some simResponse }
      else
        readParts p_args times (total + p3.toNat) (some simResponse)

def requestSIM_IO (p_args : RIL_SIM_IO_v6) (t : RIL_Token) : Handler Slot ε Unit :=
  labelled (do
      let sr ←
        if p_args.command = READ_BINERY ∧ 255 < p_args.p3 then
          readParts p_args ((p_args.p3 + 254) / 255).toNat 0 (if p_args.p3 < 2 ^ 30 then some [] else none)
        else do
          let sr ← readSimRecord p_args
          demand sr ()
      RIL_onRequestComplete t .SUCCESS (.simData sr.sw1 sr.sw2 sr.simResponse))
    -- error:
    fun _ => RIL_onRequestComplete t .GENERIC_FAILURE .NULL

/-! ## AT+CSIM -/

def basicCommand (p_args : RIL_SIM_APDU) : Line :=
  let header := [p_args.cla, p_args.instruction, p_args.p1, p_args.p2].flatMap hex02
  let cmd (len : Int) (apdu : Line) := ascii "AT+CSIM=" ++ decimal len ++ ascii "," ++ quoted apdu
  let data := p_args.data.getD []
  if data = [] then
    if p_args.p3 < 0 then cmd 8 header else cmd 10 (header ++ hex02 p_args.p3)
  else cmd (10 + data.length) (header ++ hex02 p_args.p3 ++ data)

/-- From the label `fetch` on. -/
def fetchBasic (beyond : Int → Line) (sw : Int × Int) : Handler Slot ε Unit :=
  labelled (do
      let s ← at_send_command_singleline (ascii "AT+CSIM=10,\"a0120000" ++ hex02 sw.2 ++ ascii "\"")
        (ascii "+CSIM:") none
      if ← unsuccessful s then
        goto s.p_response
      let line ← firstLine s.p_response
      let line ← at_tok_start line s.p_response
      let (len, line) ← at_tok_nextint line s.p_response
      let (simResponse, line) ← at_tok_nextstr line s.p_response
      touch line.response
      RIL_onUnsolicitedText .RIL_UNSOL_STK_PROACTIVE_COMMAND (statusWords beyond len simResponse sw).2
      goto s.p_response)
    -- fetch_error:
    fun p_response => at_response_free p_response

def requestTransmitApduBasic (beyond : Int → Line) (p_args : RIL_SIM_APDU) (t : RIL_Token) : Handler Slot ε Unit :=
  labelled (do
      let s ← at_send_command_singleline (basicCommand p_args) (ascii "+CSIM:") none
      if ← unsuccessful s then
        goto s.p_response
      let line ← firstLine s.p_response
      let line ← at_tok_start line s.p_response
      let (len, line) ← at_tok_nextint line s.p_response
      let (simResponse, line) ← at_tok_nextstr line s.p_response
      touch line.response
      let (sw, simResponse) := statusWords beyond len simResponse (0, 0)
      RIL_onRequestComplete t .SUCCESS (.simData sw.1 sw.2 (some simResponse))
      at_response_free s.p_response
      if p_args.instruction = 20 ∧ sw.1 = 0x90 then
        RIL_onUnsolicitedResponse .RIL_UNSOL_STK_SESSION_END
      if sw.1 = 0x91 then
        fetchBasic beyond sw)
    -- error:
    fun p_response => do
      RIL_onRequestComplete t .GENERIC_FAILURE .NULL
      at_response_free p_response

/-! ## Logical channels -/

structure RIL_OpenChannelParams where
  aidPtr : Option Line
  p2 : Int

/-- `response[260]` -/
def MAX_RESPONSE : Nat := 260

/-- The numbers of `count` pairs of hex digits, from the place `index` of the array on. What is not
scanned stays what lies on the stack. -/
def scanBytes (stack : Nat → Int) : Nat → Nat → Line → List Int
  | 0, _, _ => []
  | count + 1, index, text =>
    ((scan02x text).map (·.1)).getD (stack index) :: scanBytes stack count (index + 1) (text.drop 2)

/-- The two status words behind the data. -/
def scanStatus (stack : Nat → Int) (index : Nat) (text : Line) : List Int :=
  match scan02x text with
  | none => [stack index, stack (index + 1)]
  | some (sw1, rest) => [sw1, ((scan02x rest).map (·.1)).getD (stack (index + 1))]

def errorOfChannel (finalResponse : Line) : RIL_Errno :=
  if finalResponse = ascii "+CME ERROR: 20" then .MISSING_RESOURCE
  else if finalResponse = ascii "+CME ERROR: 22" then .NO_SUCH_ELEMENT
  else .GENERIC_FAILURE

/-- The data of the select response; the array has 260 numbers. -/
def selectResponse (stack : Nat → Int) (channel : Int) (statusWord responseData : Line) :
    Handler Slot ε (List Int) := do
  let length := responseData.length / 2
  if MAX_RESPONSE < length + 3 then
    crash
  pure (channel :: (scanBytes stack length 1 responseData ++ scanStatus stack (length + 1) statusWord))

/-- `requestOpenLogicalChannel` and `requestSIMOpenChannelWithP2`; `bareStatus` is what is done about a
status without data. -/
def openChannel (stack : Nat → Int) (cmd : Line) (bareStatus : Bool) (t : RIL_Token) : Handler Slot ε Unit :=
  labelled (do
      let s ← at_send_command_singleline cmd (ascii "+SPCCHO:") none
      if !s.ok then
        goto (.GENERIC_FAILURE, s.p_response)
      if ← unsuccessful s then
        let r ← deref s.p_response
        goto (errorOfChannel r.finalResponse, s.p_response)
      let l := (RIL_Errno.GENERIC_FAILURE, s.p_response)
      let line ← firstLine s.p_response
      let line ← at_tok_start line l
      let (channel, line) ← at_tok_nextint line l
      let response ←
        if ← at_tok_hasmore line then do
          let (statusWord, line) ← at_tok_nextstr line l
          if ← at_tok_hasmore line then do
            let (responseData, _) ← at_tok_nextstr line l
            selectResponse stack channel statusWord responseData
          else if bareStatus then pure (channel :: scanStatus stack 1 statusWord)
          else goto l
        else
          -- no select response
          pure [channel, 0x90, 0x00]
      RIL_onRequestComplete t .SUCCESS (.ints response)
      at_response_free s.p_response)
    -- error:
    fun (err_no, p_response) => do
      RIL_onRequestComplete t err_no .NULL
      at_response_free p_response

def requestOpenLogicalChannel (stack : Nat → Int) (params : RIL_OpenChannelParams) (t : RIL_Token) :
    Handler Slot ε Unit :=
  openChannel stack (ascii "AT+SPCCHO=" ++ quoted (printed params.aidPtr)) true t

def requestSIMOpenChannelWithP2 (stack : Nat → Int) (params : RIL_OpenChannelParams) (t : RIL_Token) :
    Handler Slot ε Unit :=
  openChannel stack (ascii "AT+SPCCHO=" ++ quoted (printed params.aidPtr) ++ ascii "," ++ decimal params.p2) false t

def requestCloseLogicalChannel (session_id : Int) (t : RIL_Token) : Handler Slot ε Unit := do
  if session_id = 0 then
    RIL_onRequestComplete t .INVALID_ARGUMENTS .NULL
  else
    let s ← at_send_command (ascii "AT+CCHC=" ++ decimal session_id) none
    completeByOutcome t s

/-! ## IMS -/

/-- The data must be seven commands, the first of them not empty. -/
def requestInitISIM (strings : List (Option Line)) (t : RIL_Token) : Handler Slot ε Unit := do
  let response ← initISIM
  if response = 1 then
    let _ ← at_send_command_NULL (ascii "AT+IMSCOUNTCFG=1")
  if strings.length = 7 ∧ (strings.getD 0 none).getD [] ≠ [] then
    RIL_onRequestComplete t .SUCCESS (.ints [response])
  else
    RIL_onRequestComplete t .GENERIC_FAILURE .NULL

/-- `RIL_REQUEST_ENABLE_IMS` and `RIL_REQUEST_DISABLE_IMS` -/
def switchIms (cmd : Line) (t : RIL_Token) : Handler Slot ε Unit := do
  if ← at_send_command_NULL cmd then
    RIL_onRequestComplete t .SUCCESS .NULL
  else
    RIL_onRequestComplete t .GENERIC_FAILURE .NULL

/-! ## Power and identity of the card -/

def notifySIMStatus (t : RIL_Token) : Handler Slot ε Unit := do
  RIL_onRequestComplete t .SUCCESS .NULL
  RIL_onUnsolicitedResponse .RIL_UNSOL_RESPONSE_SIM_STATUS_CHANGED

/-- Without a command `err` is 0 and there is no response. -/
def powerCommand (onOff : Int) : Handler Slot ε Sent := do
  if onOff = 0 then
    let _ ← at_send_command_NULL (ascii "AT+SPDISABLESIM=1")
    at_send_command (ascii "AT+SFUN=3") none
  else if 0 < onOff then
    at_send_command (ascii "AT+SFUN=2") none
  else
    pure { ok := true, p_response := none }

def requestSIMPower (onOff : Int) (t : RIL_Token) : Handler Slot ε Unit := do
  let s ← powerCommand onOff
  if ← unsuccessful s then
    at_response_free s.p_response
    if t ≠ none then
      RIL_onRequestComplete t .GENERIC_FAILURE .NULL
  else
    at_response_free s.p_response
    notifySIMStatus t

def requestSIMGetAtr (t : RIL_Token) : Handler Slot ε Unit :=
  labelled (do
      let s ← at_send_command_singleline (ascii "AT+SPATR?") (ascii "+SPATR:") none
      if !s.ok then
        goto (RIL_Errno.GENERIC_FAILURE, s.p_response)
      if ← unsuccessful s then
        let r ← deref s.p_response
        goto (if r.finalResponse = ascii "+CME ERROR: 20" then .MISSING_RESOURCE else .GENERIC_FAILURE, s.p_response)
      let line ← firstLine s.p_response
      let line ← at_tok_start line (.GENERIC_FAILURE, s.p_response)
      let (response, _) ← at_tok_nextstr line (.GENERIC_FAILURE, s.p_response)
      RIL_onRequestComplete t .SUCCESS (.string response)
      at_response_free s.p_response)
    -- error:
    fun (errType, p_response) => do
      RIL_onRequestComplete t errType .NULL
      at_response_free p_response

/-- What is not read stays as it was on the stack. -/
def requestGetSubsidyLock (stack : Int) (t : RIL_Token) : Handler Slot ε Unit := do
  let s ← at_send_command_singleline (ascii "AT+SPSLENABLED?") (ascii "+SPSLENABLED:") none
  if ← unsuccessful s then
    RIL_onRequestComplete t .GENERIC_FAILURE .NULL
  else
    let result ← labelled (do
          let line ← firstLine s.p_response
          let line ← at_tok_start line ()
          let (result, _) ← nextint line
          pure (result.p_out.getD stack))
        fun _ => pure stack
    RIL_onRequestComplete t .SUCCESS (.ints [result])
  at_response_free s.p_response

end UniRil.Sim
