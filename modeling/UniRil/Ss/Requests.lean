import UniRil.Handlers.Told
import UniRil.Hex
import UniRil.Sim.Slot
import UniRil.Ss.CallForward

/-!
# The requests of the supplementary services (ril_ss.c)

The handlers of `processSSRequests`. A structure of another size than its own comes as `none`.
-/

namespace UniRil.Ss.Requests

open Flows Handlers
open AtTok (Line)
open Sim (SimPresentState getProperty)

/-- The cells of the SIM. -/
structure Globals where
  s_isSimPresent : SimPresentState
  s_ussdRun : Int
  VOLTE_ENABLE_PROP : Line

/-- `s_ussdRun[socket_id] = ussdRun` -/
def Globals.ussdRun (ussdRun : Int) (g : Globals) : Globals := { g with s_ussdRun := ussdRun }

abbrev SsHandler (ε α : Type) := Handler (Further Globals) ε α

variable {ε : Type}

/-! ## The number of an error -/

/-- What `at_tok_nextint` leaves of the number in a final response; `none` where there is no such number. -/
def errNumOf (finalResponse : Line) : Option (AtTok.Tok Int) :=
  if strStartsWith finalResponse (ascii "+CME ERROR:") then
    (AtTok.at_tok_start (some finalResponse)).map fun cur => AtTok.at_tok_nextint (some cur)
  else none

def cmeError (p_response : Pointer) : SsHandler ε (Option (AtTok.Tok Int)) :=
  match p_response with
  | none => pure none
  | some r => do
    touch r
    pure (errNumOf r.finalResponse)

/-- The code of a number, where one was read. -/
def codeOf (codes : Int → RIL_Errno) (number : Option (AtTok.Tok Int)) : RIL_Errno :=
  ((number.bind AtTok.Tok.value).map codes).getD .GENERIC_FAILURE

/-- The answer where a command is refused. -/
def failByNumber (codes : Int → RIL_Errno) (t : RIL_Token) (p_response : Pointer) : SsHandler ε Unit := do
  let number ← cmeError p_response
  RIL_onRequestComplete t (codeOf codes number) .NULL
  at_response_free p_response

/-- The numbers by which the modem says that the FDN check failed. -/
def isFdn (errNum : Int) : Prop := errNum = 70 ∨ errNum = 254 ∨ errNum = 128

instance (errNum : Int) : Decidable (isFdn errNum) := inferInstanceAs (Decidable (_ ∨ _ ∨ _))

/-- 21 is `other` here. -/
def forwardCodes (other : RIL_Errno) (errNum : Int) : RIL_Errno :=
  if isFdn errNum then .FDN_CHECK_FAILURE else if errNum = 21 then other else .GENERIC_FAILURE

/-- 0 is an invalid argument like 21. -/
def queryCodes (errNum : Int) : RIL_Errno :=
  if isFdn errNum then .FDN_CHECK_FAILURE
  else if errNum = 21 ∨ errNum = 0 then .INVALID_ARGUMENTS
  else .GENERIC_FAILURE

def uriCodes (errNum : Int) : RIL_Errno := if isFdn errNum then .FDN_CHECK_FAILURE else .GENERIC_FAILURE

def waitingCodes (errNum : Int) : RIL_Errno :=
  if isFdn errNum then .FDN_CHECK_FAILURE else if errNum = 0 then .INVALID_ARGUMENTS else .GENERIC_FAILURE

def setWaitingCodes (errNum : Int) : RIL_Errno :=
  if errNum = 254 then .FDN_CHECK_FAILURE else if errNum = 176 then .INVALID_STATE else .GENERIC_FAILURE

/-! ## USSD -/

def requestSendUSSD (data : Option Line) (t : RIL_Token) : SsHandler ε Unit := do
  let g ← getFile
  if g.s_isSimPresent ≠ .PRESENT then
    RIL_onRequestComplete t .INVALID_STATE .NULL
  else
    modifyFile (Globals.ussdRun 1)
    let ussdInitialRequest ← deref data
    let s ← at_send_command
      (ascii "AT+CUSD=1," ++ quoted (convertBinToHex ussdInitialRequest) ++ ascii ",15") none
    let number ← cmeError s.p_response
    if (number.bind AtTok.Tok.p_out) = some 254 then
      modifyFile (Globals.ussdRun 0)
      RIL_onRequestComplete t .FDN_CHECK_FAILURE .NULL
    else if ← unsuccessful s then
      modifyFile (Globals.ussdRun 0)
      RIL_onRequestComplete t .GENERIC_FAILURE .NULL
    else
      RIL_onRequestComplete t .SUCCESS .NULL
    at_response_free s.p_response

def sendAndComplete (cmd : Line) (t : RIL_Token) : SsHandler ε Unit := do
  let s ← at_send_command cmd none
  completeByOutcome t s

def requestCancelUSSD (t : RIL_Token) : SsHandler ε Unit := do
  let g ← getFile
  if g.s_isSimPresent ≠ .PRESENT then
    RIL_onRequestComplete t .INVALID_STATE .NULL
  else
    sendAndComplete (ascii "AT+CUSD=2") t

/-! ## Call forwarding -/

def textOr (s : Option Line) : Line := s.getD []

/-- `%d,%d,\"%s\",%d` and what follows -/
def ccfc (data : RIL_CallForwardInfo) (behind : Line) : Line :=
  ascii "AT+CCFC=" ++ commas [data.reason, data.status] ++ ascii "," ++ quoted (textOr data.number) ++ ascii "," ++
    decimal data.toa ++ behind

/-- The time is sent with a registration. -/
def hasTime (status timeSeconds : Int) : Prop := timeSeconds ≠ 0 ∧ status = 3

instance (status timeSeconds : Int) : Decidable (hasTime status timeSeconds) :=
  inferInstanceAs (Decidable (_ ∧ _))

def setForwardCommand (data : RIL_CallForwardInfo) : Line :=
  if data.serviceClass = 0 then
    if hasTime data.status data.timeSeconds then ccfc data (ascii ",,\"\",," ++ decimal data.timeSeconds)
    else ccfc data []
  else if hasTime data.status data.timeSeconds then
    ccfc data (ascii "," ++ decimal data.serviceClass ++ ascii ",\"\",," ++ decimal data.timeSeconds)
  else ccfc data (ascii "," ++ decimal data.serviceClass)

/-- `%d,%d,%d,%d,\"%s\",%d` and what follows -/
def ccfcu (reason status numberType ton : Int) (number : Option Line) (serviceClass : Int) (behind : Line) : Line :=
  ascii "AT+CCFCU=" ++ commas [reason, status, numberType, ton] ++ ascii "," ++ quoted (textOr number) ++
    ascii "," ++ decimal serviceClass ++ behind

def setForwardUCommand (data : RIL_CallForwardInfo) : Line :=
  ccfcu data.reason data.status 2 data.toa data.number data.serviceClass
    (if hasTime data.status data.timeSeconds then ascii ",\"\",\"\",," ++ decimal data.timeSeconds
      else if data.serviceClass = 0 then []
      else ascii ",\"\"")

/-- The code at the label without a number. -/
def failSs (t : RIL_Token) (p_response : Pointer) : SsHandler ε Unit := do
  RIL_onRequestComplete t .GENERIC_FAILURE .NULL
  at_response_free p_response

/-- A command for the modem whose lines are not looked at. -/
def setForward (cmd responsePrefix : Line) (codes : Int → RIL_Errno) (t : RIL_Token) : SsHandler ε Unit := do
  let s ← at_send_command_multiline cmd responsePrefix none
  if ← unsuccessful s then
    failByNumber codes t s.p_response
  else
    RIL_onRequestComplete t .SUCCESS .NULL
    at_response_free s.p_response

def requestSetCallForward (data : Option RIL_CallForwardInfo) (t : RIL_Token) : SsHandler ε Unit :=
  match data with
  | none => failSs t none
  | some data => setForward (setForwardCommand data) (ascii "+CCFC:") (forwardCodes .INVALID_STATE) t

def requestSetCallForwardU (data : Option RIL_CallForwardInfo) (t : RIL_Token) : SsHandler ε Unit :=
  match data with
  | none => failSs t none
  | some data => setForward (setForwardUCommand data) (ascii "+CCFCU:") (forwardCodes .INVALID_STATE) t

/-- The structures, or NULL where there is none. -/
def forwards (rows : List (List Int × List (Option Line))) : Payload := if rows = [] then .NULL else .records rows

def forwardRow (p : RIL_CallForwardInfo) : List Int × List (Option Line) :=
  ([p.status, p.reason, p.serviceClass, p.toa, p.timeSeconds], [p.number])

/-- A command for the modem whose lines are reported. -/
def queryForward (cmd responsePrefix : Line) (codes : Int → RIL_Errno) (rows : List Line → List RIL_CallForwardInfo)
    (t : RIL_Token) : SsHandler ε Unit := do
  let s ← at_send_command_multiline cmd responsePrefix none
  if ← unsuccessful s then
    failByNumber codes t s.p_response
  else
    let r ← deref s.p_response
    touch r
    RIL_onRequestComplete t .SUCCESS (forwards ((rows r.p_intermediates).map forwardRow))
    at_response_free (some r)

def requestQueryCallForward (data : Option RIL_CallForwardInfo) (t : RIL_Token) : SsHandler ε Unit :=
  match data with
  | none => failSs t none
  | some data =>
    queryForward
      (ascii "AT+CCFC=" ++ decimal data.reason ++ ascii ",2," ++ quoted (textOr data.number) ++ ascii ",129" ++
        if data.serviceClass = 0 then [] else ascii "," ++ decimal data.serviceClass)
      (ascii "+CCFC:") queryCodes (Ss.requestQueryCallForward data.reason) t

def requestQueryCallForwardU (data : Option RIL_CallForwardInfo) (t : RIL_Token) : SsHandler ε Unit :=
  match data with
  | none => failSs t none
  | some data =>
    queryForward (ccfcu data.reason 2 2 data.toa data.number data.serviceClass []) (ascii "+CCFCU:")
      (forwardCodes .INVALID_ARGUMENTS) (Ss.requestQueryCallForwardU data.reason) t

/-! ## Call forwarding with a URI -/

structure RIL_CallForwardInfoUri where
  status : Int
  reason : Int
  numberType : Int
  ton : Int
  number : Option Line
  serviceClass : Int
  ruleset : Option Line
  timeSeconds : Int
  deriving DecidableEq

/-- After `memset`. -/
def RIL_CallForwardInfoUri.zero : RIL_CallForwardInfoUri :=
  { status := 0, reason := 0, numberType := 0, ton := 0, number := none, serviceClass := 0, ruleset := none,
    timeSeconds := 0 }

/-- The time and the rules, behind the number: they may be missing. -/
def uriOptional (line : Option Line) (p_forward : RIL_CallForwardInfoUri) : RIL_CallForwardInfoUri :=
  let line := AtTok.skipNextComma (AtTok.skipNextComma line)
  let time := AtTok.at_tok_nextint line
  let (p_forward, line) :=
    if AtTok.at_tok_hasmore line then
      ({ p_forward with timeSeconds := time.value.getD 0 }, time.p_cur)
    else (p_forward, line)
  if AtTok.at_tok_hasmore line then { p_forward with ruleset := (AtTok.at_tok_nextstr line).value } else p_forward

/-- Whether 0 is returned, and the entry. -/
def forwardFromCCFCLineUri (line : Line) (p_forward : RIL_CallForwardInfoUri) : Bool × RIL_CallForwardInfoUri :=
  match AtTok.at_tok_start (some line) with
  | none => (false, p_forward)
  | some line =>
    let status := AtTok.at_tok_nextint (some line)
    let p_forward := { p_forward with status := status.p_out.getD p_forward.status }
    if status.ok = false then (false, p_forward)
    else
      let serviceClass := AtTok.at_tok_nextint status.p_cur
      let p_forward := { p_forward with serviceClass := serviceClass.p_out.getD p_forward.serviceClass }
      if serviceClass.ok = false then (false, p_forward)
      else if AtTok.at_tok_hasmore serviceClass.p_cur = false then (true, p_forward)
      else
        let numberType := AtTok.at_tok_nextint serviceClass.p_cur
        let p_forward := { p_forward with numberType := numberType.p_out.getD p_forward.numberType }
        if numberType.ok = false then (false, p_forward)
        else
          let ton := AtTok.at_tok_nextint numberType.p_cur
          let p_forward := { p_forward with ton := ton.p_out.getD p_forward.ton }
          if ton.ok = false then (false, p_forward)
          else
            let number := AtTok.at_tok_nextstr ton.p_cur
            -- the line may end here
            if number.ok = false then (true, p_forward)
            else
              let p_forward := { p_forward with number := number.p_out }
              if AtTok.at_tok_hasmore number.p_cur then (true, uriOptional number.p_cur p_forward)
              else (true, p_forward)

/-- The entries of the lines: a line that is rejected leaves its slot to the next one. -/
def uriEntries (reason : Int) : List Line → RIL_CallForwardInfoUri → List RIL_CallForwardInfoUri
  | [], _ => []
  | line :: lines, slot =>
    let (ok, slot) := forwardFromCCFCLineUri line slot
    let slot := { slot with reason := reason }
    if ok then slot :: uriEntries reason lines .zero else uriEntries reason lines slot

def uriRow (p : RIL_CallForwardInfoUri) : List Int × List (Option Line) :=
  ([p.status, p.reason, p.numberType, p.ton, p.serviceClass, p.timeSeconds], [p.number, p.ruleset])

def uriCommand (data : RIL_CallForwardInfoUri) : Line :=
  ccfcu data.reason data.status data.numberType data.ton data.number data.serviceClass
    (if data.status = 2 then []
      else
        let ruleset := quoted (if data.serviceClass = 0 then [] else textOr data.ruleset)
        if hasTime data.status data.timeSeconds then
          ascii "," ++ ruleset ++ ascii ",\"\",," ++ decimal data.timeSeconds
        else if data.serviceClass = 0 then []
        else ascii "," ++ ruleset)

/-- The number of an error is looked at for a query only. -/
def requestCallForwardUri (data : Option RIL_CallForwardInfoUri) (t : RIL_Token) : SsHandler ε Unit :=
  match data with
  | none => failSs t none
  | some data => do
    let s ← at_send_command_multiline (uriCommand data) (ascii "+CCFCU:") none
    if ← unsuccessful s then
      if data.status = 2 then
        failByNumber uriCodes t s.p_response
      else
        failSs t s.p_response
    else
      let r ← deref s.p_response
      if data.status = 2 then
        touch r
        RIL_onRequestComplete t .SUCCESS (forwards ((uriEntries data.reason r.p_intermediates .zero).map uriRow))
      else
        RIL_onRequestComplete t .SUCCESS .NULL
      at_response_free (some r)

/-! ## Questions -/

/-- A command whose answer has a line, and what is read of it. -/
def askTwo (cmd responsePrefix : Line) : SsHandler Pointer (Response × Int × Int) := do
  let s ← at_send_command_singleline cmd responsePrefix none
  if ← unsuccessful s then
    goto s.p_response
  let line ← firstLine s.p_response
  let line ← at_tok_start line s.p_response
  let (first, line) ← at_tok_nextint line s.p_response
  let (second, _) ← at_tok_nextint line s.p_response
  pure (line.response, first, second)

/-- The response is given back first. -/
def requestQueryColpColr (cmd responsePrefix : Line) (t : RIL_Token) : SsHandler ε Unit :=
  labelled (do
      let (r, _, second) ← askTwo cmd responsePrefix
      at_response_free (some r)
      RIL_onRequestComplete t .SUCCESS (.ints [second]))
    -- error:
    fun p_response => do
      at_response_free p_response
      RIL_onRequestComplete t .GENERIC_FAILURE .NULL

def requestQueryCOLP (t : RIL_Token) : SsHandler ε Unit := requestQueryColpColr (ascii "AT+COLP?") (ascii "+COLP: ") t

def requestQueryCOLR (t : RIL_Token) : SsHandler ε Unit := requestQueryColpColr (ascii "AT+COLR?") (ascii "+COLR: ") t

def requestGetCnap (t : RIL_Token) : SsHandler ε Unit :=
  labelled (do
      let (r, first, second) ← askTwo (ascii "AT+CNAP?") (ascii "+CNAP: ")
      RIL_onRequestComplete t .SUCCESS (.ints [first, second])
      at_response_free (some r))
    (failSs t)

def requestQueryClip (t : RIL_Token) : SsHandler ε Unit := do
  let g ← getFile
  if g.s_isSimPresent ≠ .PRESENT then
    completeWith t .MODEM_ERR
  else
    labelled (do
        let (r, _, response) ← askTwo (ascii "AT+CLIP?") (ascii "+CLIP: ")
        RIL_onRequestComplete t .SUCCESS (.ints [response])
        at_response_free (some r))
      (failSs t)

/-- The two branches where the command was accepted, and where it was not. -/
def requestGetClir (t : RIL_Token) : SsHandler ε Unit := do
  let g ← getFile
  if g.s_isSimPresent ≠ .PRESENT then
    completeWith t .MODEM_ERR
  else
    let s ← at_send_command_singleline (ascii "AT+CLIR?") (ascii "+CLIR: ") none
    if ← unsuccessful s then
      failByNumber uriCodes t s.p_response
    else
      labelled (do
          let line ← firstLine s.p_response
          let line ← at_tok_start line s.p_response
          let (n, line) ← at_tok_nextint line s.p_response
          let (m, _) ← at_tok_nextint line s.p_response
          RIL_onRequestComplete t .SUCCESS (.ints [n, m])
          at_response_free s.p_response)
        (failSs t)

/-- Each line gives the mode, and adds its class. -/
def ccwaLines : List Line → Int × Int → Int × Int
  | [], response => response
  | line :: lines, response =>
    match (AtTok.at_tok_start (some line)).map fun cur => AtTok.at_tok_nextint (some cur) with
    | none => ccwaLines lines response
    | some mode =>
      match mode.value, (AtTok.at_tok_nextint mode.p_cur).value with
      | some m, some serviceClass => ccwaLines lines (m, (BitVec.ofInt 32 response.2 ||| BitVec.ofInt 32 serviceClass).toInt)
      | _, _ => ccwaLines lines response

def requestQueryCallWaiting (c : Int) (t : RIL_Token) : SsHandler ε Unit := do
  let s ← at_send_command_multiline (ascii "AT+CCWA=1,2" ++ if c = 0 then [] else ascii "," ++ decimal c)
    (ascii "+CCWA: ") none
  if ← unsuccessful s then
    failByNumber waitingCodes t s.p_response
  else
    let r ← deref s.p_response
    touch r
    let response := ccwaLines r.p_intermediates (0, 0)
    RIL_onRequestComplete t .SUCCESS (.ints [response.1, response.2])
    at_response_free (some r)

def requestSetCallWaiting (enable c : Int) (t : RIL_Token) : SsHandler ε Unit := do
  let s ← at_send_command
    (ascii "AT+CCWA=1," ++ decimal enable ++ if c = 0 then [] else ascii "," ++ decimal c) none
  if ← unsuccessful s then
    failByNumber setWaitingCodes t s.p_response
  else
    RIL_onRequestComplete t .SUCCESS .NULL
    at_response_free s.p_response

/-! ## Passwords and notifications -/

/-- The texts, where there are three and none is empty. -/
def threeTexts : List (Option Line) → Option (Line × Line × Line)
  | [some a, some b, some c] => if a = [] ∨ b = [] ∨ c = [] then none else some (a, b, c)
  | _ => none

/-- 255 and 3, and where no number is read, are generic failures. -/
def passwordCodes (errNum : Int) : RIL_Errno :=
  if errNum = 0xff ∨ errNum = 3 then .GENERIC_FAILURE
  else if isFdn errNum then .FDN_CHECK_FAILURE
  else .PASSWORD_INCORRECT

/-- 49 is `1`. -/
def requestChangeFacilityLock (data : List (Option Line)) (t : RIL_Token) : SsHandler ε Unit :=
  match threeTexts data with
  | none => RIL_onRequestComplete t .INVALID_ARGUMENTS .NULL
  | some (facility, old, new) => do
    let s ← at_send_command
      (ascii "AT+CPWD=" ++ quoted facility ++ ascii "," ++ quoted old ++ ascii "," ++ quoted new) none
    if ← unsuccessful s then
      failByNumber passwordCodes t s.p_response
    else
      RIL_onRequestComplete t .SUCCESS (.ints [if old.head? = some 49 then 1 else 0])
      at_response_free s.p_response

/-- What the send returns is not looked at. -/
def requestSetSuppServiceNotifications (mode : Int) (t : RIL_Token) : SsHandler ε Unit := do
  let s ← at_send_command (ascii "AT+CSSN=" ++ commas [mode, mode]) none
  let r ← deref s.p_response
  touch r
  if r.success then
    RIL_onRequestComplete t .SUCCESS .NULL
  else
    RIL_onRequestComplete t .GENERIC_FAILURE .NULL
  at_response_free (some r)

def requestMmiEnterSim (str : Option Line) (t : RIL_Token) : SsHandler ε Unit := do
  let s ← at_send_command (ascii "ATD" ++ printed str) none
  if ← unsuccessful s then
    match s.p_response with
    | none => RIL_onRequestComplete t .GENERIC_FAILURE .NULL
    | some r => do
      touch r
      if r.finalResponse = ascii "+CME ERROR: 16" then
        RIL_onRequestComplete t .PASSWORD_INCORRECT .NULL
      else
        RIL_onRequestComplete t .GENERIC_FAILURE .NULL
  else
    RIL_onRequestComplete t .SUCCESS .NULL
  at_response_free s.p_response

/-! ## The switch -/

def Globals.isVoLteEnable (g : Globals) : Bool :=
  let prop := getProperty g.VOLTE_ENABLE_PROP (ascii "0")
  prop = ascii "1" || prop = ascii "true"

inductive Request
  | SEND_USSD (data : Option Line)
  | CANCEL_USSD
  | GET_CLIR
  | SET_CLIR (n : Int)
  | QUERY_CALL_FORWARD_STATUS (data : Option RIL_CallForwardInfo)
  | SET_CALL_FORWARD (data : Option RIL_CallForwardInfo)
  | QUERY_CALL_WAITING (c : Int)
  | SET_CALL_WAITING (enable c : Int)
  | CHANGE_BARRING_PASSWORD (data : List (Option Line))
  | QUERY_CLIP
  | SET_SUPP_SVC_NOTIFICATION (mode : Int)
  | QUERY_CALL_FORWARD_STATUS_URI (data : Option RIL_CallForwardInfoUri)
  | SET_CALL_FORWARD_URI (data : Option RIL_CallForwardInfoUri)
  | SET_COLP (n : Int)
  | QUERY_COLP
  | QUERY_COLR
  | MMI_ENTER_SIM (str : Option Line)
  | UPDATE_CLIP (enable : Int)
  | GET_CNAP

def processSSRequests (r : Request) (t : RIL_Token) : SsHandler ε Unit :=
  match r with
  | .SEND_USSD data => requestSendUSSD data t
  | .CANCEL_USSD => requestCancelUSSD t
  | .GET_CLIR => requestGetClir t
  | .SET_CLIR n => sendAndComplete (ascii "AT+CLIR=" ++ decimal n) t
  | .QUERY_CALL_FORWARD_STATUS data => do
    let g ← getFile
    if g.isVoLteEnable then requestQueryCallForwardU data t else requestQueryCallForward data t
  | .SET_CALL_FORWARD data => do
    let g ← getFile
    if g.isVoLteEnable then requestSetCallForwardU data t else requestSetCallForward data t
  | .QUERY_CALL_WAITING c => requestQueryCallWaiting c t
  | .SET_CALL_WAITING enable c => requestSetCallWaiting enable c t
  | .CHANGE_BARRING_PASSWORD data => requestChangeFacilityLock data t
  | .QUERY_CLIP => requestQueryClip t
  | .SET_SUPP_SVC_NOTIFICATION mode => requestSetSuppServiceNotifications mode t
  | .QUERY_CALL_FORWARD_STATUS_URI data => requestCallForwardUri data t
  | .SET_CALL_FORWARD_URI data => requestCallForwardUri data t
  | .SET_COLP n => do
    let _ ← at_send_command_NULL (ascii "AT+COLP=" ++ decimal n)
    RIL_onRequestComplete t .SUCCESS .NULL
  | .QUERY_COLP => requestQueryCOLP t
  | .QUERY_COLR => requestQueryCOLR t
  | .MMI_ENTER_SIM str => requestMmiEnterSim str t
  | .UPDATE_CLIP enable => sendAndComplete (ascii "AT+CLIP=" ++ decimal enable) t
  | .GET_CNAP => requestGetCnap t

end UniRil.Ss.Requests
