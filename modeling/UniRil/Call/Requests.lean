import UniRil.Call.CurrentCalls
import UniRil.Handlers.Code

/-!
# The call requests (ril_call.c)

The handlers of `processCallRequest`, and the redials of a call that the network has refused, which have no token.
-/

namespace UniRil.Call.Requests

open Flows Handlers CurrentCalls
open AtTok (Line)

/-- The cells of the SIM. -/
structure Globals where
  s_isSimPresent : Int
  s_callFailCause : Int
  s_maybeAddCall : Int
  s_realEccList : Option Line
  /-- The characters of `s_DTMFList`. -/
  s_DTMFList : List Byte

variable {ε : Type}

def PRESENT : Int := 1

def CALL_FAIL_ERROR_UNSPECIFIED : Int := 0xffff

/-! ## One command -/

/-- A command whose outcome is the answer. -/
def sendAndComplete (cmd : Line) (t : RIL_Token) : Handler Globals ε Unit := do
  let s ← at_send_command cmd none
  completeByOutcome t s

/-- A command that has to go out. -/
def sendNULLAndComplete (cmd : Line) (t : RIL_Token) : Handler Globals ε Unit := do
  if ← at_send_command_NULL cmd then
    RIL_onRequestComplete t .SUCCESS .NULL
  else
    RIL_onRequestComplete t .GENERIC_FAILURE .NULL

/-- One CME error has an answer of its own. -/
def failWith (finalResponse : Line) (e : RIL_Errno) (p_response : Pointer) (t : RIL_Token) :
    Handler Globals ε Unit := do
  match p_response with
  | none => RIL_onRequestComplete t .GENERIC_FAILURE .NULL
  | some r => do
    touch r
    if r.finalResponse = finalResponse then
      RIL_onRequestComplete t e .NULL
    else
      RIL_onRequestComplete t .GENERIC_FAILURE .NULL
  at_response_free p_response

def sendOrFailWith (cmd finalResponse : Line) (e : RIL_Errno) (t : RIL_Token) : Handler Globals ε Unit := do
  let s ← at_send_command cmd none
  if ← unsuccessful s then
    failWith finalResponse e s.p_response t
  else
    RIL_onRequestComplete t .SUCCESS .NULL
    at_response_free s.p_response

/-! ## The list of the calls -/

/-- `err != 0 || p_response->success == 0` -/
def sendCLCC (cmd responsePrefix : Line) : Handler Globals ε Sent := at_send_command_multiline cmd responsePrefix none

/-- The calls are counted. -/
def all_calls : Handler Globals ε Int := do
  let s ← sendCLCC (ascii "AT+CLCC") (ascii "+CLCC:")
  if ← unsuccessful s then
    at_response_free s.p_response
    pure (-1)
  else
    let r ← deref s.p_response
    touch r
    at_response_free s.p_response
    pure r.p_intermediates.length

def currentCalls {κ : Type} (cmd responsePrefix : Line) (fromLine : Line → κ → Int → Bool × κ × Int) (zero : κ)
    (row : κ → List Int × List (Option Line)) (t : RIL_Token) : Handler Globals ε Unit := do
  let s ← sendCLCC cmd responsePrefix
  if ← unsuccessful s then
    RIL_onRequestComplete t .GENERIC_FAILURE .NULL
    at_response_free s.p_response
  else
    let r ← deref s.p_response
    touch r
    let (calls, s_maybeAddCall) := validCalls fromLine zero r.p_intermediates zero 0
    modifyGlobals fun g => { g with s_maybeAddCall }
    RIL_onRequestComplete t .SUCCESS (.records (calls.map row))
    at_response_free s.p_response

def requestGetCurrentCalls (t : RIL_Token) : Handler Globals ε Unit :=
  currentCalls (ascii "AT+CLCC") (ascii "+CLCC:") callFromCLCCLine .zero RIL_Call.row t

def requestGetCurrentCallsVoLTE (t : RIL_Token) : Handler Globals ε Unit :=
  currentCalls (ascii "AT+CLCCS") (ascii "+CLCCS:") callFromCLCCLineVoLTE .zero RIL_Call_VoLTE.row t

/-! ## Dialling -/

/-- Of `RIL_Dial`. -/
structure RIL_Dial where
  address : Option Line
  clir : Int

/-- NULL outside 0 to 2. -/
def clirText (clir : Int) : Option Line :=
  if clir = 0 then some [] else if clir = 1 then some (ascii "I") else if clir = 2 then some (ascii "i") else none

def requestDial (p_dial : RIL_Dial) (t : RIL_Token) : Handler Globals ε Unit := do
  let g ← getGlobals
  if g.s_isSimPresent ≠ PRESENT then
    RIL_onRequestComplete t .INVALID_STATE .NULL
  else
    modifyGlobals fun g => { g with s_callFailCause := CALL_FAIL_ERROR_UNSPECIFIED }
    labelled (do
        if !(← allocated) then
          goto none
        let cmd := ascii "ATD" ++ printed p_dial.address ++ printed (clirText p_dial.clir) ++ ascii ";"
        let s ← at_send_command cmd none
        if ← unsuccessful s then
          goto s.p_response
        RIL_onRequestComplete t .SUCCESS .NULL
        at_response_free s.p_response)
      fun p_response => do
        RIL_onRequestComplete t .GENERIC_FAILURE .NULL
        at_response_free p_response

def requestEccDial (p_dial : RIL_Dial) (t : RIL_Token) (catgry : Int) : Handler Globals ε Unit := do
  modifyGlobals fun g => { g with s_callFailCause := CALL_FAIL_ERROR_UNSPECIFIED }
  let category := if catgry ≠ -1 then ascii "@" ++ decimal catgry ++ ascii ",#" else ascii "@,#"
  let cmd := ascii "ATD" ++ printed p_dial.address ++ category ++ printed (clirText p_dial.clir) ++ ascii ";"
  labelled (do
      if !(← allocated) then
        goto ()
      if !(← at_send_command_NULL cmd) then
        goto ()
      if t ≠ none then
        RIL_onRequestComplete t .SUCCESS .NULL)
    fun _ => do
      if t ≠ none then
        RIL_onRequestComplete t .GENERIC_FAILURE .NULL

/-- The first token, and what lies behind it. -/
def strtok_r (s : Line) (delim : Byte) : Option (Line × Option Line) :=
  let s := s.dropWhile (· == delim)
  if s = [] then none else some (s.takeWhile (· != delim), (s.dropWhile (· != delim)).tail?)

/-- All tokens. -/
def tokens (delim : Byte) (s : Line) : List Line := (s.splitOnP (· == delim)).filter (· ≠ [])

/-- The numbers of a list and what stands behind their `@` (64). -/
def eccNumbers (list : Line) : List (Line × Option Line) :=
  (tokens 44 list).filterMap fun tmpNumber => strtok_r tmpNumber 64

def ecc3GPP_NoSIM : Line := ascii "112,911,000,08,110,118,119,999"

def ecc3GPP_SIM : Line := ascii "112,911"

/-- The numbers that `isEccNumber` goes through. -/
def eccList (g : Globals) : List (Line × Option Line) :=
  match g.s_realEccList with
  | some list => eccNumbers list
  | none => (tokens 44 (if g.s_isSimPresent = PRESENT then ecc3GPP_SIM else ecc3GPP_NoSIM)).map fun n => (n, none)

/-- `strcmp` with each number in turn. -/
def compareEcc (dialNumber : Option Line) : List (Line × Option Line) → Int → Handler Globals ε (Bool × Int)
  | [], catgry => pure (false, catgry)
  | (tmpNumber, inner_ptr) :: rest, catgry => do
    let number ← deref dialNumber
    if tmpNumber = number then
      pure (true, inner_ptr.elim catgry AtTok.atoi)
    else
      compareEcc dialNumber rest catgry

def isEccNumber (dialNumber : Option Line) (catgry : Int) : Handler Globals ε (Bool × Int) := do
  let g ← getGlobals
  compareEcc dialNumber (eccList g) catgry

def requestVideoPhoneDial (address : Option Line) (t : RIL_Token) : Handler Globals ε Unit := do
  modifyGlobals fun g => { g with s_callFailCause := CALL_FAIL_ERROR_UNSPECIFIED }
  if !(← allocated) then
    RIL_onRequestComplete t .GENERIC_FAILURE .NULL
  else
    sendNULLAndComplete (ascii "ATD=" ++ printed address) t

/-! ## Calls that are there -/

def requestHangup (line : Int) (t : RIL_Token) : Handler Globals ε Unit := do
  let _ ← all_calls
  sendOrFailWith (ascii "AT+CHLD=7" ++ decimal line) (ascii "+CME ERROR: 21") .INVALID_STATE t

def CHLD0 (t : RIL_Token) : Handler Globals ε Unit := do
  let g ← getGlobals
  if g.s_isSimPresent ≠ PRESENT then
    RIL_onRequestComplete t .INVALID_STATE .NULL
  else
    sendAndComplete (ascii "AT+CHLD=0") t

def requestHangupWaitingOrBackground (t : RIL_Token) : Handler Globals ε Unit := CHLD0 t

def requestUDUB (t : RIL_Token) : Handler Globals ε Unit := CHLD0 t

def CHLD (n : Int) (t : RIL_Token) : Handler Globals ε Unit :=
  sendOrFailWith (ascii "AT+CHLD=" ++ decimal n) (ascii "+CME ERROR: 3") .INVALID_STATE t

def requestHangupForeResumeBack (t : RIL_Token) : Handler Globals ε Unit := CHLD 1 t

def requestSwitchWaitOrHoldAndActive (t : RIL_Token) : Handler Globals ε Unit := CHLD 2 t

def requestConference (t : RIL_Token) : Handler Globals ε Unit := CHLD 3 t

def requestExplicitCallTransfer (t : RIL_Token) : Handler Globals ε Unit := CHLD 4 t

def requestSeparateConnection (party : Int) (t : RIL_Token) : Handler Globals ε Unit := do
  if 0 < party ∧ party < 10 then
    CHLD (20 + party) t
  else
    RIL_onRequestComplete t .GENERIC_FAILURE .NULL

def requestAnswer (t : RIL_Token) : Handler Globals ε Unit :=
  sendOrFailWith (ascii "ATA") (ascii "+CME ERROR: 22") .INVALID_STATE t

/-- One of the calls is hung up; the outcome that is looked at is the one of AT+CLCC. -/
def hangupCall (index : Int) (p_response : Pointer) : Handler Globals (Pointer × Pointer) Unit := do
  let s ← at_send_command (ascii "AT+CHLD=7" ++ decimal index) none
  if !s.ok then
    goto (p_response, s.p_response)
  let r ← deref p_response
  touch r
  if !r.success then
    goto (p_response, s.p_response)
  at_response_free s.p_response

/-- Whether a call in this state is hung up. -/
def hungUp (mode state : Int) : Bool :=
  (state = 0 ∧ (mode = 1 ∨ mode = 3)) ∨ (state = HOLDING ∧ (mode = 2 ∨ mode = 3))

def hangupCalls (mode : Int) (p_response : Pointer) : List Line → RIL_Call → Handler Globals (Pointer × Pointer) Unit
  | [], _ => pure ()
  | line :: lines, p_call => do
    let r ← deref p_response
    touch r
    let g ← getGlobals
    let (ok, call, s_maybeAddCall) := callFromCLCCLine line p_call g.s_maybeAddCall
    modifyGlobals fun g => { g with s_maybeAddCall }
    if ok then
      if hungUp mode call.state then
        hangupCall call.index p_response
      hangupCalls mode p_response lines .zero
    else
      hangupCalls mode p_response lines call

def requestSwitchMultiCall (mode : Int) (t : RIL_Token) : Handler Globals ε Unit :=
  labelled (do
      if mode ≠ 0 then
        let s ← sendCLCC (ascii "AT+CLCC") (ascii "+CLCC:")
        if ← unsuccessful s then
          goto (s.p_response, none)
        let r ← deref s.p_response
        touch r
        hangupCalls mode s.p_response r.p_intermediates .zero
        at_response_free s.p_response
      let s ← at_send_command (ascii "AT+CHLD=2") none
      if ← unsuccessful s then
        goto (s.p_response, none)
      RIL_onRequestComplete t .SUCCESS .NULL
      at_response_free s.p_response)
    fun (p_response, p_resp) => do
      RIL_onRequestComplete t .GENERIC_FAILURE .NULL
      at_response_free p_response
      at_response_free p_resp

/-- The value in `s_callFailCause`, as the framework knows it. -/
def failCause (cause : Int) : Int :=
  if cause ∈ [1, 28] then 1
  else if cause ∈ [0, 3, 16, 301, 999] then 16
  else if cause = 302 then 243
  else if cause ∈ [17, 21, 1486] then 17
  else if cause ∈ [34, 38, 41, 42, 44, 47, 1301, 1400, 1401, 1402, 1403, 1404, 1405, 1406, 1407, 1408, 1409, 1410, 1411,
      1412, 1413, 1414, 1415, 1416, 1420, 1421, 1423, 1480, 1481, 1482, 1483, 1484, 1485, 1487, 1488, 1500, 1501, 1502,
      1503, 1504, 1505, 1513, 1600, 1603, 1604, 1606] then 34
  else if cause = 68 then 68
  else if cause = 8 then 240
  else if cause = 241 then 241
  else if cause ∈ [31, 6, 18, 19, 22, 25, 27, 29, 30, 43, 49, 50, 55, 57, 58, 63, 65, 69, 70, 79, 81, 87, 88, 91, 95,
      96, 97, 98, 99, 100, 101, 102, 111, 127] then 31
  else if cause ∈ [1024, 13] then 0xf001
  else if cause = 501 then 0xf002
  else CALL_FAIL_ERROR_UNSPECIFIED

def requestLastCallFailCause (t : RIL_Token) : Handler Globals ε Unit := do
  let g ← getGlobals
  RIL_onRequestComplete t .SUCCESS (.records [([failCause g.s_callFailCause], [some (decimal g.s_callFailCause)])])

/-! ## Tones -/

/-- `((char *)data)[0]` -/
def firstChar (data : Option Line) : Handler Globals ε Byte := do
  let s ← deref data
  pure (s.headD NUL)

def requestDTMF (data : Option Line) (t : RIL_Token) : Handler Globals ε Unit := do
  let character ← firstChar data
  sendOrFailWith (ascii "AT+VTS=" ++ [character]) (ascii "+CME ERROR: 22") .INVALID_MODEM_STATE t

/-- Two commands, the second if the first was successful. -/
def sendTwo (cmd1 cmd2 : Line) (t : RIL_Token) : Handler Globals ε Unit := do
  let s ← at_send_command cmd1 none
  if ← unsuccessful s then
    failWith (ascii "+CME ERROR: 22") .INVALID_MODEM_STATE s.p_response t
  else
    at_response_free s.p_response
    sendOrFailWith cmd2 (ascii "+CME ERROR: 22") .INVALID_MODEM_STATE t

def requestDTMFStart (data : Option Line) (t : RIL_Token) : Handler Globals ε Unit := do
  let character ← firstChar data
  if !(← allocated) then
    RIL_onRequestComplete t .GENERIC_FAILURE .NULL
  else
    modifyGlobals fun g => { g with s_DTMFList := g.s_DTMFList ++ [character] }
    sendTwo (ascii "AT+SDTMF=1," ++ quoted [character] ++ ascii ",0") (ascii "AT+EVTS=1," ++ [character]) t

def requestDTMFStop (t : RIL_Token) : Handler Globals ε Unit := do
  let g ← getGlobals
  match g.s_DTMFList with
  | [] => RIL_onRequestComplete t .GENERIC_FAILURE .NULL
  | character :: _ => do
    sendTwo (ascii "AT+SDTMF=0") (ascii "AT+EVTS=0," ++ [character]) t
    modifyGlobals fun g => { g with s_DTMFList := g.s_DTMFList.tail }

/-! ## IMS -/

def cavims (t : RIL_Token) : Handler Globals ε Unit := do
  let s ← at_send_command_singleline (ascii "AT+CAVIMS?") (ascii "+CAVIMS:") none
  if ← unsuccessful s then
    RIL_onRequestComplete t .GENERIC_FAILURE .NULL
  else
    labelled (do
        let line ← firstLine s.p_response
        let line ← at_tok_start line ()
        -- the state is answered whether it was there or not
        let (state, _) ← nextint line
        RIL_onRequestComplete t .SUCCESS (.ints [state.p_out.getD 0]))
      fun _ => RIL_onRequestComplete t .GENERIC_FAILURE .NULL
  at_response_free s.p_response

def setCavims (state : Int) (t : RIL_Token) : Handler Globals ε Unit := do
  let s ← at_send_command_singleline (ascii "AT+CAVIMS?") (ascii "+CAVIMS:") none
  let lastState ←
    if ← unsuccessful s then
      pure (-1)
    else
      labelled (do
          let line ← firstLine s.p_response
          let line ← at_tok_start line ()
          let (lastState, _) ← nextint line
          pure (lastState.p_out.getD (-1)))
        fun _ => pure (-1)
  at_response_free s.p_response
  if lastState = state then
    RIL_onRequestComplete t .SUCCESS .NULL
  else
    sendAndComplete (ascii "AT+CAVIMS=" ++ decimal state) t

/-- The media of a call, for each request to change them. -/
def mediaChange (mediaRequest : Int) : Option Line :=
  if mediaRequest = 2 then some (ascii ",2,\"m=video/a=sendonly\"")
  else if mediaRequest = 3 then some (ascii ",2,\"m=video/a=recvonly\"")
  else if mediaRequest ∈ [1, 4, 5] then some (ascii ",2,\"m=video\"")
  else if mediaRequest = 9 then some (ascii ",1,\"m=video/a=sendonly\"")
  else if mediaRequest = 10 then some (ascii ",1,\"m=video/a=recvonly\"")
  else if mediaRequest ∈ [7, 8, 6] then some (ascii ",1,\"m=audio\"")
  else none

/-- The media of a call, for each answer to a request. -/
def mediaDirection (videoCallMediaDirection : Int) : Option Line :=
  if videoCallMediaDirection = 1001 then some (ascii ",\"m=video\"")
  else if videoCallMediaDirection = 1002 then some (ascii ",\"m=video/a=sendonly\"")
  else if videoCallMediaDirection = 1003 then some (ascii ",\"m=video/a=recvonly\"")
  else none

def sendMedia (callId : Int) (media : Option Line) (t : RIL_Token) : Handler Globals ε Unit :=
  match media with
  | none => RIL_onRequestComplete t .GENERIC_FAILURE .NULL
  | some media => sendAndComplete (ascii "AT+CCMMD=" ++ decimal callId ++ media) t

def requestImsCallRequestMediaChange (callId mediaRequest : Int) (t : RIL_Token) : Handler Globals ε Unit :=
  sendMedia callId (mediaChange mediaRequest) t

def requestImsCallResponseMediaChange (callId isAccept videoCallMediaDirection : Int) (t : RIL_Token) :
    Handler Globals ε Unit :=
  let answer := if isAccept ≠ 0 then ascii ",3" else ascii ",4"
  sendMedia callId ((mediaDirection videoCallMediaDirection).map (answer ++ ·)) t

/-- A command with a text of any length. -/
def asprintfAndComplete (cmd : Line) (t : RIL_Token) : Handler Globals ε Unit := do
  if !(← allocated) then
    RIL_onRequestComplete t .GENERIC_FAILURE .NULL
  else
    sendAndComplete cmd t

def requestUpdateImsNetworkInfo (type : Int) (info : Option Line) (t : RIL_Token) : Handler Globals ε Unit :=
  asprintfAndComplete (ascii "AT+IMSHOWFINF=" ++ decimal type ++ ascii "," ++ quoted (printed info)) t

def handoverStatus (type : Int) : Line :=
  if type = 0 ∨ type = 1 then ascii "AT+VOWFREG=" ++ decimal type
  else if type = 4 then ascii "AT+IMSWFATT=0"
  else if type = 5 then ascii "AT+IMSWFATT=1"
  else ascii "AT+IMSHORST=" ++ decimal type

/-- The answer is what `response` makes of the line. -/
def queryLine (cmd responsePrefix : Line) (response : Text → Handler Globals Unit Payload) (t : RIL_Token) :
    Handler Globals ε Unit := do
  let s ← at_send_command_singleline cmd responsePrefix none
  labelled (do
      if ← unsuccessful s then
        goto ()
      let line ← firstLine s.p_response
      let payload ← response line
      RIL_onRequestComplete t .SUCCESS payload)
    fun _ => RIL_onRequestComplete t .GENERIC_FAILURE .NULL
  at_response_free s.p_response

def requestGetVideoResolution (t : RIL_Token) : Handler Globals ε Unit :=
  queryLine (ascii "AT+SPVOLTEENG=106,0") (ascii "+SPVOLTEENG:")
    (fun line => do
      let line ← at_tok_start line ()
      let (_, line) ← at_tok_nextint line ()
      let (resTemp, _) ← at_tok_nextstr line ()
      pure (.ints [((resTemp.headD NUL).toNat : Int) - 48])) t

def requestGetImsPaniInfo (t : RIL_Token) : Handler Globals ε Unit :=
  queryLine (ascii "AT+IMSHONWINF?") (ascii "+IMSHONWINF:")
    (fun line => do
      let line ← at_tok_start line ()
      let (type, line) ← at_tok_nextint line ()
      let (info, line) ← at_tok_nextstr line ()
      let (age, _) ← at_tok_nextint line ()
      pure (.records [([type, age], [some info])])) t

def getHdVoiceState (t : RIL_Token) : Handler Globals ε Unit :=
  queryLine (ascii "AT+SPCAPABILITY=10,0") (ascii "+SPCAPABILITY")
    (fun line => do
      let (response, _) ← at_tok_nextint { line with cur := AtTok.skipNextComma (AtTok.skipNextComma line.cur) } ()
      pure (.ints [response])) t

def getTpmrState (t : RIL_Token) : Handler Globals ε Unit :=
  queryLine (ascii "AT+SPTPMR?") (ascii "+SPTPMR:")
    (fun line => do
      let line ← at_tok_start line ()
      let (response, _) ← at_tok_nextint line ()
      pure (.ints [response])) t

def getImsSrvccCapbility (t : RIL_Token) : Handler Globals ε Unit :=
  queryLine (ascii "AT+CISRVCC?") (ascii "+CISRVCC:")
    (fun line => do
      let line ← at_tok_start line ()
      let (response, _) ← at_tok_nextint line ()
      pure (.ints [response])) t

/-- An empty list is kept for a string that is missing. -/
def updateEcclist (data : Option Line) (t : RIL_Token) : Handler Globals ε Unit := do
  modifyGlobals fun g => { g with s_realEccList := some (data.getD []) }
  RIL_onRequestComplete t .SUCCESS .NULL

def notifyHandoverCallInfo (strings : Option Line) (t : RIL_Token) : Handler Globals ε Unit := do
  if (strings.getD []).length > 0 then
    let _ ← at_send_command_NULL (snprintf (4 * AT_COMMAND_LEN) (ascii "AT+VOWIFCALLINF=" ++ strings.getD []))
    RIL_onRequestComplete t .SUCCESS .NULL
  else
    RIL_onRequestComplete t .GENERIC_FAILURE .NULL

/-! ## The switch -/

inductive Request where
  | GET_CURRENT_CALLS
  | DIAL (p_dial : RIL_Dial)
  | HANGUP (line : Int)
  | HANGUP_WAITING_OR_BACKGROUND
  | HANGUP_FOREGROUND_RESUME_BACKGROUND
  | SWITCH_WAITING_OR_HOLDING_AND_ACTIVE
  | CONFERENCE
  | UDUB
  | LAST_CALL_FAIL_CAUSE
  | DTMF (data : Option Line)
  | ANSWER
  | DTMF_START (data : Option Line)
  | DTMF_STOP
  | SEPARATE_CONNECTION (party : Int)
  | EXPLICIT_CALL_TRANSFER
  | EXT_EXPLICIT_CALL_TRANSFER
  | SET_TTY_MODE
  | QUERY_TTY_MODE
  | EXIT_EMERGENCY_CALLBACK_MODE
  | GET_IMS_CURRENT_CALLS
  | SET_IMS_VOICE_CALL_AVAILABILITY (state : Int)
  | GET_IMS_VOICE_CALL_AVAILABILITY
  | IMS_CALL_REQUEST_MEDIA_CHANGE (callId mediaRequest : Int)
  | IMS_CALL_RESPONSE_MEDIA_CHANGE (callId isAccept videoCallMediaDirection : Int)
  | IMS_CALL_FALL_BACK_TO_VOICE (callId : Int)
  | IMS_INITIAL_GROUP_CALL (numbers : Option Line)
  | IMS_ADD_TO_GROUP_CALL (numbers : Option Line)
  | VIDEOPHONE_DIAL (address : Option Line)
  | VIDEOPHONE_CODEC (type : Int)
  | VIDEOPHONE_FALLBACK
  | VIDEOPHONE_STRING (data : Option Line)
  | VIDEOPHONE_LOCAL_MEDIA (datatype sw : Int) (indication : Option Int)
  | VIDEOPHONE_CONTROL_IFRAME (isIFrame needIFrame : Int)
  | SWITCH_MULTI_CALL (mode : Int)
  | GET_HD_VOICE_STATE
  | UPDATE_ECCLIST (data : Option Line)
  | SET_VOICE_DOMAIN (type : Int)
  | IMS_HANDOVER (type : Int)
  | IMS_HANDOVER_STATUS_UPDATE (type : Int)
  | IMS_NETWORK_INFO_CHANGE (type : Int) (info : Option Line)
  | IMS_HANDOVER_CALL_END (type : Int)
  | IMS_UPDATE_DATA_ROUTER
  | IMS_WIFI_ENABLE (type : Int)
  | IMS_WIFI_CALL_STATE_CHANGE (state : Int)
  | GET_TPMR_STATE
  | SET_TPMR_STATE (state : Int)
  | SET_VIDEO_RESOLUTION (resolution : Int)
  | ENABLE_LOCAL_HOLD (enable : Int)
  | ENABLE_WIFI_PARAM_REPORT (enable : Int)
  | CALL_MEDIA_CHANGE_REQUEST_TIMEOUT (callId : Int)
  | SET_DUAL_VOLTE_STATE (state : Int)
  | SET_LOCAL_TONE (mode : Int)
  | IMS_NOTIFY_HANDOVER_CALL_INFO (strings : Option Line)
  | GET_IMS_SRVCC_CAPBILITY
  | IMS_HOLD_SINGLE_CALL (id state : Int)
  | IMS_MUTE_SINGLE_CALL (id state : Int)
  | IMS_SILENCE_SINGLE_CALL (id state : Int)
  | IMS_ENABLE_LOCAL_CONFERENCE (enable : Int)
  | GET_VIDEO_RESOLUTION
  | GET_IMS_PANI_INFO

/-- AT+SPCHLD for one call of a conference. -/
def spchld (on off : Int) (id state : Int) : Line := ascii "AT+SPCHLD=" ++ commas [if state ≠ 0 then on else off, id]

def requestDIAL (p_dial : RIL_Dial) (t : RIL_Token) : Handler Globals ε Unit := do
  let (ret, category) ← isEccNumber p_dial.address (-1)
  if ret then
    requestEccDial p_dial t category
  else
    requestDial p_dial t

def processCallRequest (r : Request) (t : RIL_Token) : Handler Globals ε Unit :=
  match r with
  | .GET_CURRENT_CALLS => requestGetCurrentCalls t
  | .DIAL p_dial => requestDIAL p_dial t
  | .HANGUP line => requestHangup line t
  | .HANGUP_WAITING_OR_BACKGROUND => requestHangupWaitingOrBackground t
  | .HANGUP_FOREGROUND_RESUME_BACKGROUND => requestHangupForeResumeBack t
  | .SWITCH_WAITING_OR_HOLDING_AND_ACTIVE => requestSwitchWaitOrHoldAndActive t
  | .CONFERENCE => requestConference t
  | .UDUB => requestUDUB t
  | .LAST_CALL_FAIL_CAUSE => requestLastCallFailCause t
  | .DTMF data => requestDTMF data t
  | .ANSWER => requestAnswer t
  | .DTMF_START data => requestDTMFStart data t
  | .DTMF_STOP => requestDTMFStop t
  | .SEPARATE_CONNECTION party => requestSeparateConnection party t
  | .EXPLICIT_CALL_TRANSFER | .EXT_EXPLICIT_CALL_TRANSFER => requestExplicitCallTransfer t
  | .SET_TTY_MODE => RIL_onRequestComplete t .SUCCESS .NULL
  | .QUERY_TTY_MODE => RIL_onRequestComplete t .SUCCESS (.ints [0])
  | .EXIT_EMERGENCY_CALLBACK_MODE => RIL_onRequestComplete t .SUCCESS .NULL
  | .GET_IMS_CURRENT_CALLS => requestGetCurrentCallsVoLTE t
  | .SET_IMS_VOICE_CALL_AVAILABILITY state => setCavims state t
  | .GET_IMS_VOICE_CALL_AVAILABILITY => cavims t
  | .IMS_CALL_REQUEST_MEDIA_CHANGE callId mediaRequest => requestImsCallRequestMediaChange callId mediaRequest t
  | .IMS_CALL_RESPONSE_MEDIA_CHANGE callId isAccept direction =>
    requestImsCallResponseMediaChange callId isAccept direction t
  | .IMS_CALL_FALL_BACK_TO_VOICE callId => sendMedia callId (some (ascii ",1,\"m=audio\"")) t
  | .IMS_INITIAL_GROUP_CALL numbers =>
    sendAndComplete (snprintf AT_COMMAND_LEN (ascii "AT+CGU=1," ++ quoted (printed numbers))) t
  | .IMS_ADD_TO_GROUP_CALL numbers =>
    sendAndComplete (snprintf AT_COMMAND_LEN (ascii "AT+CGU=4," ++ quoted (printed numbers))) t
  | .VIDEOPHONE_DIAL address => requestVideoPhoneDial address t
  | .VIDEOPHONE_CODEC type => sendAndComplete (ascii "AT+SPDVTCODEC=" ++ decimal type) t
  | .VIDEOPHONE_FALLBACK => sendAndComplete (ascii "AT+SPDVTHUP") t
  | .VIDEOPHONE_STRING data => asprintfAndComplete (ascii "AT+SPDVTSTRS=" ++ quoted (printed data)) t
  | .VIDEOPHONE_LOCAL_MEDIA datatype sw indication =>
    sendAndComplete (ascii "AT+SPDVTSEND=" ++ commas ([datatype, sw] ++ indication.toList)) t
  | .VIDEOPHONE_CONTROL_IFRAME isIFrame needIFrame =>
    sendAndComplete (ascii "AT+SPDVTLFRAME=" ++ commas [isIFrame, needIFrame]) t
  | .SWITCH_MULTI_CALL mode => requestSwitchMultiCall mode t
  | .GET_HD_VOICE_STATE => getHdVoiceState t
  | .UPDATE_ECCLIST data => updateEcclist data t
  | .SET_VOICE_DOMAIN type => sendAndComplete (ascii "AT+CEVDP=" ++ decimal type) t
  | .IMS_HANDOVER type => sendAndComplete (ascii "AT+IMSHO=" ++ decimal type) t
  | .IMS_HANDOVER_STATUS_UPDATE type => sendNULLAndComplete (handoverStatus type) t
  | .IMS_NETWORK_INFO_CHANGE type info => requestUpdateImsNetworkInfo type info t
  | .IMS_HANDOVER_CALL_END type => sendNULLAndComplete (ascii "AT+IMSHOCALLEND=" ++ decimal type) t
  | .IMS_UPDATE_DATA_ROUTER => sendNULLAndComplete (ascii "AT+IMSHODATAROUTER=1") t
  | .IMS_WIFI_ENABLE type => sendNULLAndComplete (ascii "AT+VOWIFIEN=" ++ decimal type) t
  | .IMS_WIFI_CALL_STATE_CHANGE state => sendNULLAndComplete (ascii "AT+SPCPFS=1," ++ decimal state) t
  | .GET_TPMR_STATE => getTpmrState t
  | .SET_TPMR_STATE state => sendNULLAndComplete (ascii "AT+SPTPMR=" ++ decimal state) t
  | .SET_VIDEO_RESOLUTION resolution => sendAndComplete (ascii "AT+CDEFMP=1," ++ quoted (decimal resolution)) t
  | .ENABLE_LOCAL_HOLD enable =>
    sendAndComplete (if enable ≠ 0 then ascii "AT+SPLOCALHOLD=1;" else ascii "AT+SPLOCALHOLD=0;") t
  | .ENABLE_WIFI_PARAM_REPORT enable =>
    sendAndComplete (if enable ≠ 0 then ascii "AT+WIFIPARAM=1,0,0,0,5" else ascii "AT+WIFIPARAM=0,0,0,0,0") t
  | .CALL_MEDIA_CHANGE_REQUEST_TIMEOUT callId => sendAndComplete (ascii "AT+CCMMD=" ++ decimal callId ++ ascii ",5") t
  | .SET_DUAL_VOLTE_STATE state => sendAndComplete (ascii "AT+SPCAPABILITY=49,1," ++ decimal state) t
  | .SET_LOCAL_TONE mode => sendAndComplete (ascii "AT+SPCLSTONE=" ++ decimal mode) t
  | .IMS_NOTIFY_HANDOVER_CALL_INFO strings => notifyHandoverCallInfo strings t
  | .GET_IMS_SRVCC_CAPBILITY => getImsSrvccCapbility t
  | .IMS_HOLD_SINGLE_CALL id state => sendAndComplete (spchld 1 2 id state) t
  | .IMS_MUTE_SINGLE_CALL id state => sendAndComplete (spchld 3 4 id state) t
  | .IMS_SILENCE_SINGLE_CALL id state => sendAndComplete (spchld 5 6 id state) t
  | .IMS_ENABLE_LOCAL_CONFERENCE enable => sendAndComplete (ascii "AT+MIXVOICE=" ++ decimal enable) t
  | .GET_VIDEO_RESOLUTION => requestGetVideoResolution t
  | .GET_IMS_PANI_INFO => requestGetImsPaniInfo t

/-! ## Redials -/

/-- The parameter is NULL where the allocation failed, the number where `strdup` did. -/
def dialEmergencyWhileCallFailed (param : Option (Option Line)) : Handler Globals ε Unit := do
  match param with
  | none => pure ()
  | some address => do
    let (_, category) ← isEccNumber address (-1)
    let s ← at_send_command_multiline (ascii "AT+CEN?") (ascii "+CEN") none
    labelled (do
        if ← unsuccessful s then
          goto ()
        let line ← firstLine s.p_response
        let line ← at_tok_start line ()
        let (_mcc, _) ← at_tok_nextstr { line with cur := AtTok.skipNextComma line.cur } ()
        RIL_onUnsolicitedResponse .RIL_EXT_UNSOL_ECC_NETWORKLIST_CHANGED
        requestEccDial { address, clir := 0 } none category)
      fun _ => pure ()
    at_response_free s.p_response

def redialWhileCallFailed (param : Option (Option Line)) : Handler Globals ε Unit := do
  match param with
  | none => pure ()
  | some address => requestDial { address, clir := 0 } none

end UniRil.Call.Requests
