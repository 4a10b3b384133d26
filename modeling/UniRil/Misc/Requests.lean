import UniRil.AsyncCmd.Code
import UniRil.Sim.Helpers

/-!
# The other requests (ril_misc.c)

The handlers of `processMiscRequests`, and `sendCmdSync`. A command may be one of the words for the virtual SIM, which
`requestSendAT` and `requestVsimCmd` serve in their own ways.
-/

namespace UniRil.Misc

open Flows Handlers
open AsyncCmd (strncaseeq)
open AtTok (Line)
open Sim (getProperty)

/-- The cells of the SIM, and the properties. -/
structure Globals where
  slot : Sim.Slot
  s_maybeAddCall : Int
  s_screenState : Int
  s_isLTE : Bool
  s_in4G : Bool
  isExistActivePdp : Bool
  VOLTE_ENABLE_PROP : Line
  RADIO_FD_DISABLE_PROP : Line
  PROP_FAST_DORMANCY : Line
  OVERSEA_VERSION : Line
  bt_pan_active : Line
  agps_active : Line
  internet_tethering : Line
  wifi_active : Line
  mms_active : Line
  s_vsimClientFd : Int
  /-- The client that connects while a VSIM_INIT waits for one. -/
  nextClientFd : Nat
  s_vsimListenLoop : Bool
  s_vsimInitFlag : Bool
  /-- The flag of the other SIM, if there is one. -/
  otherInitFlag : Bool
  /-- The listeners that were started. -/
  listeners : Nat
  /-- The seconds of `s_timevalCloseVsim`. -/
  s_timevalCloseVsim : Int
  /-- The texts that were written to the buffer of the caller. -/
  atResp : List Line

variable {ε : Type}

def MAX_AT_RESPONSE : Nat := 4096

def CRLF : Line := [CR, LF]

/-- The buffer that `strlcat` fills, each text with its end of line. -/
def resultText (texts : List Line) : Line := (texts.flatMap (· ++ CRLF)).take (MAX_AT_RESPONSE - 1)

def setRadioState (newState : Sim.RadioState) : Handler Globals ε Unit :=
  within Globals.slot (fun slot g => { g with slot }) (Sim.setRadioState newState)

def onSimDisabled : Handler Globals ε Unit := do
  let _ ← within Globals.slot (fun slot g => { g with slot }) (Sim.getSIMStatus false)
  let _ ← at_send_command_NULL (ascii "AT+SFUN=5")
  setRadioState .OFF

/-! ## Queries and settings -/

/-- What a line of AT+CGMR adds. -/
def basebandPart (i : Nat) (line : Line) : Line :=
  if i < 2 then []
  else if i < 4 then
    match AtTok.at_tok_start (some line) with
    | some line => line.dropWhile AtTok.isspace ++ ascii "|"
    | none => []
  else line.dropWhile AtTok.isspace

def basebandText (lines : List Line) : Line := lines.zipIdx.flatMap fun p => basebandPart p.2 p.1

def requestBasebandVersion (t : RIL_Token) : Handler Globals ε Unit := do
  let s ← at_send_command_multiline (ascii "AT+CGMR") [] none
  labelled (do
      if ← unsuccessful s then
        goto ()
      let r ← deref s.p_response
      touch r
      let response := basebandText r.p_intermediates
      if response.length = 0 then
        goto ()
      RIL_onRequestComplete t .SUCCESS (.string response)
      at_response_free s.p_response)
    fun _ => do
      at_response_free s.p_response
      RIL_onRequestComplete t .GENERIC_FAILURE .NULL

def getIMEI (t : RIL_Token) : Handler Globals ε Unit := do
  let s ← at_send_command_numeric (ascii "AT+CGSN") none
  if ← unsuccessful s then
    RIL_onRequestComplete t .GENERIC_FAILURE .NULL
  else
    let line ← firstLine s.p_response
    RIL_onRequestComplete t .SUCCESS (.string (line.cur.getD []))
  at_response_free s.p_response

/-- Two digits at least, unless it is negative. -/
def svText (sv : Int) : Line := if 0 ≤ sv ∧ sv < 10 then ascii "0" ++ decimal sv else decimal sv

/-- The software version in the answer to AT+SGMR=0,0,2. -/
def readSV (p_response : Pointer) : Handler Globals Unit Line := do
  let line ← firstLine p_response
  let line ← at_tok_start line ()
  let (sv, _) ← at_tok_nextint line ()
  pure (svText sv)

def requestGetIMEISV (t : RIL_Token) : Handler Globals ε Unit := do
  let s ← at_send_command_singleline (ascii "AT+SGMR=0,0,2") (ascii "+SGMR:") none
  labelled (do
      if ← unsuccessful s then
        goto ()
      let response ← readSV s.p_response
      RIL_onRequestComplete t .SUCCESS (.string response))
    fun _ => RIL_onRequestComplete t .GENERIC_FAILURE .NULL
  at_response_free s.p_response

def requestDeviceIdentify (t : RIL_Token) : Handler Globals ε Unit := do
  let s ← at_send_command_numeric (ascii "AT+CGSN") none
  if ← unsuccessful s then
    RIL_onRequestComplete t .GENERIC_FAILURE .NULL
    at_response_free s.p_response
  else
    let imei ← firstLine s.p_response
    at_response_free s.p_response
    let s ← at_send_command_singleline (ascii "AT+SGMR=0,0,2") (ascii "+SGMR:") none
    -- without a version the other texts are answered
    let sv ← labelled (do
        if ← unsuccessful s then
          goto ()
        let sv ← readSV s.p_response
        pure (some sv))
      fun _ => pure none
    RIL_onRequestComplete t .SUCCESS (.strings [imei.cur, sv, none, none])
    at_response_free s.p_response

def setMute (enable : Int) (t : RIL_Token) : Handler Globals ε Unit := do
  let g ← getGlobals
  if g.s_maybeAddCall = 1 ∧ enable = 0 then
    modifyGlobals fun g => { g with s_maybeAddCall := 0 }
    RIL_onRequestComplete t .SUCCESS .NULL
  else
    let _ ← at_send_command_NULL (ascii "AT+CMUT=" ++ decimal enable)
    RIL_onRequestComplete t .SUCCESS .NULL

def getMute (t : RIL_Token) : Handler Globals ε Unit := do
  let s ← at_send_command_singleline (ascii "AT+CMUT?") (ascii "+CMUT: ") none
  if ← unsuccessful s then
    RIL_onRequestComplete t .GENERIC_FAILURE .NULL
  else
    let line ← firstLine s.p_response
    -- without a colon there is no answer
    labelled (do
        let line ← at_tok_start line ()
        let (response, _) ← nextint line
        RIL_onRequestComplete t .SUCCESS (.ints [response.p_out.getD 0]))
      fun _ => pure ()
  at_response_free s.p_response

def getFastDormancyTime (g : Globals) (screeState : Int) : Int :=
  let (screenOn, screenOff) : Int × Int :=
    if getProperty g.OVERSEA_VERSION (ascii "unknown") = ascii "orange" then (8, 5)
    else if g.PROP_FAST_DORMANCY = [] then (5, 2)
    else
      let off := AtTok.at_tok_nextint (some g.PROP_FAST_DORMANCY)
      let on := AtTok.at_tok_nextint off.p_cur
      (if off.ok then on.p_out.getD 5 else 5, off.p_out.getD 2)
  if screeState ≠ 0 then screenOn else screenOff

def setupVPIfNeeded (g : Globals) : Bool :=
  [g.bt_pan_active, g.agps_active, g.internet_tethering, g.wifi_active, g.mms_active].all fun active =>
    getProperty active (ascii "1") != ascii "1"

def isVoLteEnable (g : Globals) : Bool :=
  let prop := getProperty g.VOLTE_ENABLE_PROP (ascii "0")
  prop == ascii "1" || prop == ascii "true"

def requestScreeState (status : Int) (t : RIL_Token) : Handler Globals ε Unit := do
  modifyGlobals fun g => { g with s_screenState := status }
  let g ← getGlobals
  let fdy := g.isExistActivePdp ∧ getProperty g.RADIO_FD_DISABLE_PROP (ascii "0") = ascii "0"
  let fdyCmd := ascii "AT*FDY=1," ++ decimal (getFastDormancyTime g status)
  if status = 0 then
    let _ ← at_send_command_NULL (ascii "AT+CCED=2,8")
    if g.s_isLTE then
      let _ ← at_send_command_NULL (ascii "AT+CEREG=1")
      let _ ← at_send_command_NULL (ascii "AT+SPEDDAENABLE=1")
    let _ ← at_send_command_NULL (ascii "AT+CREG=1")
    let _ ← at_send_command_NULL (ascii "AT+CGREG=1")
    if isVoLteEnable g then
      let _ ← at_send_command_NULL (ascii "AT+CIREG=1")
    if fdy then
      let _ ← at_send_command_NULL fdyCmd
    if setupVPIfNeeded g then
      let _ ← at_send_command_NULL (ascii "AT+SPVOICEPREFER=1")
  else
    let _ ← at_send_command_NULL (ascii "AT+CCED=1,8")
    if g.s_isLTE then
      let _ ← at_send_command_NULL (ascii "AT+CEREG=2")
      let _ ← at_send_command_NULL (ascii "AT+SPEDDAENABLE=0")
    let _ ← at_send_command_NULL (ascii "AT+CREG=2")
    let _ ← at_send_command_NULL (ascii "AT+CGREG=2")
    if isVoLteEnable g then
      let _ ← at_send_command_NULL (ascii "AT+CIREG=2")
    if fdy then
      let _ ← at_send_command_NULL fdyCmd
    if g.slot.s_radioState = .SIM_READY then
      RIL_requestTimedCallback (if g.s_isLTE then .onQuerySignalStrengthLTE else .onQuerySignalStrength)
    let _ ← at_send_command_NULL (ascii "AT+SPVOICEPREFER=0")
    RIL_onUnsolicitedResponse .RIL_UNSOL_RESPONSE_VOICE_NETWORK_STATE_CHANGED
  RIL_onRequestComplete t .SUCCESS .NULL

/-- The type is -1, and nothing else is set. -/
def requestGetHardwareConfig (t : RIL_Token) : Handler Globals ε Unit :=
  RIL_onRequestComplete t .SUCCESS (.records [([-1], [])])

def getBandInfo (t : RIL_Token) : Handler Globals ε Unit := do
  let g ← getGlobals
  if g.s_in4G then
    let s ← at_send_command_singleline (ascii "AT+SPCLB?") (ascii "+SPCLB:") none
    if ← unsuccessful s then
      RIL_onRequestComplete t .GENERIC_FAILURE .NULL
    else
      let line ← firstLine s.p_response
      let cur ← deref (AtTok.skipWhiteSpace (AtTok.at_tok_start line.cur))
      RIL_onRequestComplete t .SUCCESS (.string cur)
    at_response_free s.p_response
  else
    RIL_onRequestComplete t .GENERIC_FAILURE .NULL

def setBandInfoMode (mode : Int) (t : RIL_Token) : Handler Globals ε Unit := do
  let s ← at_send_command (ascii "AT+SPCLB=" ++ decimal mode) none
  completeByOutcome t s

def setSpecialRatcap (value : Int) (t : RIL_Token) : Handler Globals ε Unit := do
  let s ← at_send_command (ascii "AT+SPOPRCAP=1,1," ++ decimal value) none
  completeByOutcome t s

def downgradeRadioPower (mode : Int) (t : RIL_Token) : Handler Globals ε Unit := do
  let setA ←
    if mode = 1 then do
      let s ← at_send_command (ascii "AT+SPPOWERBFCOM=0,0,1") none
      let failed ← unsuccessful s
      at_response_free s.p_response
      pure !failed
    else pure true
  if setA then
    let s ← at_send_command (ascii "AT+SPPOWERFB=" ++ decimal mode) none
    completeByOutcome t s
  else
    RIL_onRequestComplete t .GENERIC_FAILURE .NULL

def setLocationInfo (longitude latitude : Option Line) (t : RIL_Token) : Handler Globals ε Unit :=
  match longitude, latitude with
  | some longitude, some latitude => do
    if longitude.length > 20 ∨ latitude.length > 20 then
      RIL_onRequestComplete t .GENERIC_FAILURE .NULL
    else
      let cmd := ascii "AT+SPLOCINFO=" ++ quoted longitude ++ ascii "," ++ quoted latitude
      let s ← at_send_command (snprintf 64 cmd) none
      completeByOutcome t s
  | _, _ => RIL_onRequestComplete t .GENERIC_FAILURE .NULL

def requestGetSpecialRATCAP (t : RIL_Token) : Handler Globals ε Unit := do
  let s ← at_send_command_singleline (ascii "AT+SPOPRCAP=1,2") (ascii "+SPOPRCAP:") none
  labelled (do
      if ← unsuccessful s then
        goto ()
      let line ← firstLine s.p_response
      let line ← at_tok_start line ()
      let (_, line) ← at_tok_nextint line ()
      -- the second is the one that counts
      let (response, _) ← at_tok_nextint line ()
      RIL_onRequestComplete t .SUCCESS (.ints [response]))
    fun _ => RIL_onRequestComplete t .GENERIC_FAILURE .NULL
  at_response_free s.p_response

/-! ## Commands that are passed through -/

/-- `snprintf` to the buffer of the caller, or to none. -/
def writeResp (atResp : Option Nat) (text : Line) : Handler Globals ε Unit :=
  match atResp with
  | none => pure ()
  | some responseLen => modifyGlobals fun g => { g with atResp := g.atResp ++ [snprintf responseLen text] }

/-- The PDU goes out behind the prompt. -/
def at_send_command_snvm (cmd _pdu responsePrefix : Line) (p_response : Pointer) : Handler Globals ε Sent :=
  at_send_command_full .NO_RESULT responsePrefix cmd p_response

/-- `err` and the response answer the request or fill the buffer; without a response the code at the label does. -/
def answerAT (ATcmd : Line) (t : RIL_Token) (atResp : Option Nat) (s : Sent) : Handler Globals Pointer Unit := do
  if ← unsuccessful s then
    match s.p_response with
    | none => goto none
    | some r => do
      touch r
      if t ≠ none then
        RIL_onRequestComplete t .GENERIC_FAILURE (.strings [some (resultText [r.finalResponse])])
      else
        writeResp atResp r.finalResponse
  else
    let r ← deref s.p_response
    touch r
    let buf := resultText (r.p_intermediates ++ [r.finalResponse])
    if t ≠ none then
      RIL_onRequestComplete t .SUCCESS (.strings [some buf])
    else
      writeResp atResp buf
    if strncaseeq ATcmd (ascii "AT+SFUN=5") 9 then
      setRadioState .OFF
  at_response_free s.p_response

def vsimCreate (atResp : Option Nat) : Handler Globals ε Unit := do
  modifyGlobals fun g => { g with s_vsimInitFlag := true }
  let g ← getGlobals
  if g.s_vsimListenLoop then
    writeResp atResp (ascii "ERROR")
  else
    modifyGlobals fun g => { g with listeners := g.listeners + 1 }
    writeResp atResp (ascii "OK")

/-- The wait for a client ends when one has connected. -/
def waitForClient : Handler Globals ε Unit :=
  modifyGlobals fun g => if g.s_vsimClientFd < 0 then { g with s_vsimClientFd := g.nextClientFd } else g

/-- The last SIM closes the client. -/
def closeClient : Handler Globals ε Unit :=
  modifyGlobals fun g =>
    if !g.s_vsimInitFlag && !g.otherInitFlag then { g with s_vsimClientFd := -1, s_vsimListenLoop := false } else g

def vsimExit (ATcmd : Line) (atResp : Option Nat) : Handler Globals Pointer Unit := do
  modifyGlobals fun g => { g with s_vsimInitFlag := false }
  let cmd ← deref (AtTok.at_tok_start (some ATcmd))
  let s ← at_send_command cmd none
  if ← unsuccessful s then
    match s.p_response with
    | none => goto none
    | some r => do
      touch r
      writeResp atResp (resultText [r.finalResponse])
  else
    closeClient
    onSimDisabled
    let r ← deref s.p_response
    touch r
    writeResp atResp (resultText [r.finalResponse])
  at_response_free s.p_response

def vsimTimeout (ATcmd : Line) (atResp : Option Nat) : Handler Globals ε Unit := do
  let time := (AtTok.at_tok_nextint (AtTok.at_tok_start (some ATcmd))).p_out.getD (-1)
  if time > 0 then
    modifyGlobals fun g => { g with s_timevalCloseVsim := time }
    writeResp atResp (ascii "OK")
  else
    writeResp atResp (ascii "ERROR")

/-- AT+SNVM=1,place,pdu is split at its second comma. -/
def sendSNVM (ATcmd : Line) (t : RIL_Token) (atResp : Option Nat) : Handler Globals Pointer Unit := do
  let rest := (AtTok.skipNextComma (some ATcmd)).getD []
  let place := rest.takeWhile (· != 44)
  if 44 ∈ rest then
    let cmd := ATcmd.take (ATcmd.length - rest.length) ++ place
    let s ← at_send_command_snvm cmd ((rest.dropWhile (· != 44)).drop 1) [] none
    answerAT place t atResp s
  else if t ≠ none then
    RIL_onRequestComplete t .GENERIC_FAILURE (.strings [some CRLF])
  else
    writeResp atResp (ascii "ERROR")

def requestSendAT (data : Option Line) (t : RIL_Token) (atResp : Option Nat) : Handler Globals ε Unit :=
  labelled (do
      let ATcmd ← demand data none
      if strncaseeq ATcmd (ascii "AT+SNVM=1") 9 then
        sendSNVM ATcmd t atResp
      else if strStartsWith ATcmd (ascii "VSIM_CREATE") then
        vsimCreate atResp
      else if strStartsWith ATcmd (ascii "VSIM_INIT") then
        waitForClient
        let cmd ← deref (AtTok.at_tok_start (some ATcmd))
        let s ← at_send_command cmd none
        answerAT ATcmd t atResp s
      else if strStartsWith ATcmd (ascii "VSIM_EXIT") then
        vsimExit ATcmd atResp
      else if strStartsWith ATcmd (ascii "VSIM_TIMEOUT") then
        vsimTimeout ATcmd atResp
      else
        let s ← at_send_command_multiline ATcmd [] none
        answerAT ATcmd t atResp s)
    fun p_response => do
      if t ≠ none then
        RIL_onRequestComplete t .GENERIC_FAILURE (.strings [some (resultText [ascii "ERROR"])])
      else
        writeResp atResp (ascii "ERROR")
      at_response_free p_response

def sendCmdSync (cmd : Option Line) (responseLen : Nat) : Handler Globals ε Unit :=
  requestSendAT cmd none (some responseLen)

/-- The command of a VSIM_SEND_CMD and the response that the end expects. -/
def sendVsimCmd (ATcmd : Line) : Handler Globals ε Sent := do
  if strStartsWith ATcmd (ascii "VSIM_INIT") then
    let cmd ← deref (AtTok.at_tok_start (some ATcmd))
    at_send_command cmd none
  else if strStartsWith ATcmd (ascii "VSIM_EXIT") then
    let cmd ← deref (AtTok.at_tok_start (some ATcmd))
    let s ← at_send_command cmd none
    if !(← unsuccessful s) then
      onSimDisabled
    pure s
  else if strStartsWith ATcmd (ascii "VSIM_TIMEOUT") then
    let time := AtTok.at_tok_nextint (AtTok.at_tok_start (some ATcmd))
    if time.p_out.getD (-1) > 0 then
      modifyGlobals fun g => { g with s_timevalCloseVsim := time.p_out.getD (-1) }
    -- no command went out
    pure { ok := time.ok, p_response := none }
  else
    at_send_command_multiline ATcmd [] none

def requestVsimCmd (data : Option Line) (t : RIL_Token) : Handler Globals ε Unit :=
  labelled (do
      let ATcmd ← demand data none
      let s ← sendVsimCmd ATcmd
      if ← unsuccessful s then
        match s.p_response with
        | none => goto none
        | some r => do
          touch r
          RIL_onRequestComplete t .GENERIC_FAILURE (.strings [some (resultText [r.finalResponse])])
      else
        let r ← deref s.p_response
        touch r
        RIL_onRequestComplete t .SUCCESS (.strings [some (resultText (r.p_intermediates ++ [r.finalResponse]))])
        if strncaseeq ATcmd (ascii "AT+SFUN=5") 9 then
          setRadioState .OFF
      at_response_free s.p_response)
    fun p_response => do
      if t ≠ none then
        RIL_onRequestComplete t .GENERIC_FAILURE (.strings [some (resultText [ascii "ERROR"])])
      at_response_free p_response

/-! ## The switch -/

inductive Request where
  | BASEBAND_VERSION
  | GET_IMEI
  | GET_IMEISV
  | DEVICE_IDENTITY
  | SET_MUTE (enable : Int)
  | GET_MUTE
  | SCREEN_STATE (status : Int)
  | GET_HARDWARE_CONFIG
  | OEM_HOOK_STRINGS (strings : List (Option Line))
  | NV_RESET_CONFIG
  | GET_BAND_INFO
  | SET_BAND_INFO_MODE (mode : Int)
  | SET_SPECIAL_RATCAP (value : Int)
  | SEND_CMD (cmd : Option Line)
  | VSIM_SEND_CMD (cmd : Option Line)
  | RADIO_POWER_FALLBACK (mode : Int)
  | SET_LOCATION_INFO (longitude latitude : Option Line)
  | GET_SPECIAL_RATCAP

def processMiscRequests (r : Request) (t : RIL_Token) : Handler Globals ε Unit :=
  match r with
  | .BASEBAND_VERSION => requestBasebandVersion t
  | .GET_IMEI => getIMEI t
  | .GET_IMEISV => requestGetIMEISV t
  | .DEVICE_IDENTITY => requestDeviceIdentify t
  | .SET_MUTE enable => setMute enable t
  | .GET_MUTE => getMute t
  | .SCREEN_STATE status => requestScreeState status t
  | .GET_HARDWARE_CONFIG => requestGetHardwareConfig t
  | .OEM_HOOK_STRINGS strings => do
    let cur ← deref strings.head?
    requestSendAT cur t none
  | .NV_RESET_CONFIG => RIL_onRequestComplete t .SUCCESS .NULL
  | .GET_BAND_INFO => getBandInfo t
  | .SET_BAND_INFO_MODE mode => setBandInfoMode mode t
  | .SET_SPECIAL_RATCAP value => setSpecialRatcap value t
  | .SEND_CMD cmd => requestSendAT cmd t none
  | .VSIM_SEND_CMD cmd => requestVsimCmd cmd t
  | .RADIO_POWER_FALLBACK mode => downgradeRadioPower mode t
  | .SET_LOCATION_INFO longitude latitude => setLocationInfo longitude latitude t
  | .GET_SPECIAL_RATCAP => requestGetSpecialRATCAP t

end UniRil.Misc
