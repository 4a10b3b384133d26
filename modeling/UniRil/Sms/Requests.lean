import UniRil.Handlers.Told
import UniRil.Sim.Slot
import UniRil.Sms.Broadcast
import UniRil.Sms.ImsRetry

/-!
# The requests of the short messages (ril_sms.c)

The handlers of `processSmsRequests`. A text of the framework that is empty comes as NULL.
-/

namespace UniRil.Sms.Requests

open Flows Handlers
open AtTok (Line)
open Sim (SimPresentState getProperty)

/-- The cells of the SIM. -/
structure Globals where
  s_isSimPresent : SimPresentState
  MIFI_PRODUCT_PROP : Line

abbrev SmsHandler (ε α : Type) := Handler (Further Globals) ε α

variable {ε : Type}

/-! ## Sending -/

/-- The PDU is written when the modem asks for it. -/
def at_send_command_sms (command _pdu responsePrefix : Line) (p_response : Pointer) :
    SmsHandler ε Handlers.Sent :=
  at_send_command_singleline command responsePrefix p_response

/-- `smsc`, or the default one -/
def smscOr (smsc : Option Line) : Line := smsc.getD (ascii "00")

/-- The labels of the functions that send a PDU. -/
inductive Label
  | error (p_response : Pointer)
  | error1 (p_response : Pointer)

/-- `line = p_response->finalResponse` -/
def finalResponse (r : Response) : Text := { response := r, cur := some r.finalResponse }

/-- The code at the last label. -/
def failSend (t : RIL_Token) (p_response : Pointer) : SmsHandler ε Unit := do
  RIL_onRequestComplete t .GENERIC_FAILURE .NULL
  at_response_free p_response

/-- The number in the final response. -/
def errorCode (p_response : Pointer) : SmsHandler Pointer Int := do
  let r ← demand p_response none
  let line ← at_tok_start (finalResponse r) p_response
  let (errorCode, _) ← at_tok_nextint line p_response
  pure errorCode

/-- The command, and the reference of the message. -/
def sendPdu (pdu smsc : Line) (t : RIL_Token) : SmsHandler Label Unit := do
  let s ← at_send_command_sms (ascii "AT+CMGS=" ++ decimal (pdu.length / 2 : Nat)) (smsc ++ pdu) (ascii "+CMGS:") none
  if ← unsuccessful s then
    goto (.error s.p_response)
  let line ← firstLine s.p_response
  let line ← at_tok_start line (.error1 s.p_response)
  let (messageRef, _) ← at_tok_nextint line (.error1 s.p_response)
  RIL_onRequestComplete t .SUCCESS (.records [([messageRef, 0], [none])])
  at_response_free s.p_response

/-- Both labels: `reportError` is what comes behind the number of the final response. -/
def withLabels (m : SmsHandler Label Unit) (reportError : Int → Pointer → SmsHandler Pointer Unit) (t : RIL_Token) :
    SmsHandler ε Unit :=
  labelled
    (labelled m
      -- error:
      fun l =>
        match l with
        | .error p_response => do
          let code ← errorCode p_response
          reportError code p_response
        | .error1 p_response => goto p_response)
    -- error1:
    (failSend t)

def requestSendSMS (smsc pdu : Option Line) (t : RIL_Token) : SmsHandler ε Unit := do
  let g ← getFile
  if g.s_isSimPresent ≠ .PRESENT then
    RIL_onRequestComplete t .SIM_ABSENT .NULL
  else
    let pdu ← deref pdu
    withLabels (sendPdu pdu (smscOr smsc) t)
      (fun errorCode p_response => do
        if errorCode = 313 then
          completeWith t .SMS_SEND_FAIL_RETRY
        else if errorCode = 512 ∨ errorCode = 128 ∨ errorCode = 254 ∨ errorCode = 514 ∨ errorCode = 515 then
          RIL_onRequestComplete t .FDN_CHECK_FAILURE .NULL
        else
          RIL_onRequestComplete t .GENERIC_FAILURE .NULL
        at_response_free p_response)
      t

/-- What is read of a message over IMS. -/
structure RIL_IMS_SMS where
  tech : RIL_RadioTechnologyFamily
  retry : Byte
  messageRef : Int
  /-- `gsmMessage[0]` -/
  smsc : Option Line
  /-- `gsmMessage[1]` -/
  pdu : Option Line

/-- The cells of the PDU when it is sent. -/
def RIL_IMS_SMS.cells (sms : RIL_IMS_SMS) (pdu : Line) : List Byte :=
  if 0 < sms.retry then markRetry sms.messageRef (pdu ++ [NUL]) else pdu ++ [NUL]

def requestSendIMSSMS (sms : RIL_IMS_SMS) (t : RIL_Token) : SmsHandler ε Unit :=
  if sms.tech = .RADIO_TECH_3GPP then do
    let pdu ← deref sms.pdu
    let cells := sms.cells pdu
    -- the reference may have been stored for the NUL
    if NUL ∉ cells then
      crash
    withLabels (sendPdu (cstr cells) (smscOr sms.smsc) t)
      (fun errorCode p_response => do
        if errorCode ≠ 313 ∧ errorCode ≠ 512 then
          goto p_response
        if errorCode = 313 then
          completeWith t .SMS_SEND_FAIL_RETRY
        else if errorCode = 512 ∨ errorCode = 128 ∨ errorCode = 254 then
          RIL_onRequestComplete t .FDN_CHECK_FAILURE .NULL
        at_response_free p_response)
      t
  else
    RIL_onRequestComplete t .GENERIC_FAILURE .NULL

def requestSMSAcknowledge (ackSuccess : Int) (t : RIL_Token) : SmsHandler ε Unit := do
  let g ← getFile
  if g.s_isSimPresent ≠ .PRESENT then
    RIL_onRequestComplete t .INVALID_STATE .NULL
  else if ackSuccess = 1 then
    let _ ← at_send_command_NULL (ascii "AT+CNMA=1")
    RIL_onRequestComplete t .SUCCESS .NULL
  else if ackSuccess = 0 then
    let _ ← at_send_command_NULL (ascii "AT+CNMA=2")
    RIL_onRequestComplete t .SUCCESS .NULL
  else
    RIL_onRequestComplete t .GENERIC_FAILURE .NULL

structure RIL_SMS_WriteArgs where
  status : Int
  pdu : Option Line
  smsc : Option Line

/-- Every final response is answered alike. -/
def requestWriteSmsToSim (p_args : RIL_SMS_WriteArgs) (t : RIL_Token) : SmsHandler ε Unit := do
  let g ← getFile
  if g.s_isSimPresent ≠ .PRESENT then
    RIL_onRequestComplete t .SIM_ABSENT .NULL
  else
    let pdu ← deref p_args.pdu
    labelled
      (labelled (do
          let s ← at_send_command_sms (ascii "AT+CMGW=" ++ commas [(pdu.length / 2 : Nat), p_args.status])
            (smscOr p_args.smsc ++ pdu) (ascii "+CMGW:") none
          if ← unsuccessful s then
            goto s.p_response
          let line ← firstLine s.p_response
          let line ← at_tok_start line s.p_response
          let (index, _) ← at_tok_nextint line s.p_response
          RIL_onRequestComplete t .SUCCESS (.ints [index])
          at_response_free s.p_response)
        -- error:
        fun p_response => do
          let r ← demand p_response none
          touch r
          if strStartsWith r.finalResponse (ascii "+CMS ERROR:") then
            let errorNum ← errorCode p_response
            if errorNum ≠ 322 then
              goto p_response
            RIL_onRequestComplete t .GENERIC_FAILURE .NULL
            at_response_free p_response
          else
            goto p_response)
      -- error1:
      (failSend t)

/-! ## One command -/

def sendAndComplete (cmd : Line) (t : RIL_Token) : SmsHandler ε Unit := do
  let s ← at_send_command cmd none
  completeByOutcome t s

/-- The command is sent where there is a card. -/
def withCard (t : RIL_Token) (m : SmsHandler ε Unit) : SmsHandler ε Unit := do
  let g ← getFile
  if g.s_isSimPresent ≠ .PRESENT then
    RIL_onRequestComplete t .SIM_ABSENT .NULL
  else
    m

/-! ## Cell broadcast -/

def sendAll : List Line → SmsHandler ε Unit
  | [] => pure ()
  | cmd :: rest => do
    let _ ← at_send_command_NULL cmd
    sendAll rest

/-- The cells of the loop. -/
def cscbOf (data : List RIL_GSM_BroadcastSmsConfigInfo) : Cscb :=
  closeQuotes (addConfigs 0 data { enable := 0, channel := [], lang := [], serviceId := [] })

def requestSetSmsBroadcastConfig (data : List RIL_GSM_BroadcastSmsConfigInfo) (t : RIL_Token) : SmsHandler ε Unit := do
  -- `channel` and `lang` have no cells without data, and `serviceId` has 128
  if data = [] ∨ ARRAY_SIZE < (cscbOf data).serviceId.length then
    crash
  let s ← at_send_command (cscbCommand (cscbOf data)) none
  completeByOutcome t s
  if (cscbOf data).enable = 0 then
    sendAll (sppwsCommands (cscbOf data).serviceId)

/-- The code at the label of the functions that ask. -/
def failAsk (t : RIL_Token) (p_response : Pointer) : SmsHandler ε Unit := do
  RIL_onRequestComplete t .GENERIC_FAILURE .NULL
  at_response_free p_response

/-- A command whose answer has a line. -/
def askText (cmd responsePrefix : Line) : SmsHandler Pointer Text := do
  let s ← at_send_command_singleline cmd responsePrefix none
  if ← unsuccessful s then
    goto s.p_response
  firstLine s.p_response

def configRow (c : RIL_GSM_BroadcastSmsConfigInfo) : List Int × List (Option Line) :=
  ([c.fromServiceId, c.toServiceId, c.fromCodeScheme, c.toCodeScheme, c.selected.toNat], [])

def requestGetSmsBroadcastConfig (t : RIL_Token) : SmsHandler ε Unit :=
  labelled (do
      let line ← askText (ascii "AT+CSCB?") (ascii "+CSCB:")
      touch line.response
      let configs ← demand (Sms.requestGetSmsBroadcastConfig line.cur) (some line.response)
      RIL_onRequestComplete t .SUCCESS (.records (configs.map configRow))
      at_response_free (some line.response))
    -- error:
    fun p_response => do
      at_response_free p_response
      RIL_onRequestComplete t .GENERIC_FAILURE .NULL

/-! ## The address of the service centre -/

def requestGetSmscAddress (t : RIL_Token) : SmsHandler ε Unit :=
  withCard t (labelled (do
      let line ← askText (ascii "AT+CSCA?") (ascii "+CSCA:")
      let line ← at_tok_start line (some line.response)
      touch line.response
      -- `sc_line` is set by every token
      let sc_line ← deref (AtTok.at_tok_nextstr line.cur).p_out
      RIL_onRequestComplete t .SUCCESS (.string (cstr (convertHexToBin sc_line).2))
      at_response_free (some line.response))
    (failAsk t))

def requestSetSmscAddress (data : Option Line) (t : RIL_Token) : SmsHandler ε Unit :=
  withCard t (match data with
    | none => RIL_onRequestComplete t .GENERIC_FAILURE .NULL
    | some data => do
      if data = [] then
        RIL_onRequestComplete t .GENERIC_FAILURE .NULL
      else
        sendAndComplete (ascii "AT+CSCA=" ++ quoted (convertBinToHex data)) t)

/-! ## The storage -/

def requestGetSIMCapacity (t : RIL_Token) : SmsHandler ε Unit :=
  labelled (do
      let line ← askText (ascii "AT+CPMS?") (ascii "+CPMS:")
      let p_response := some line.response
      let line ← at_tok_start line p_response
      let (_, line) ← at_tok_nextstr line p_response
      let (used, line) ← at_tok_nextint line p_response
      let (total, _) ← at_tok_nextint line p_response
      if used = -1 ∨ total = -1 then
        goto p_response
      RIL_onRequestComplete t .SUCCESS
        (.strings [some (snprintf 20 (decimal used)), some (snprintf 20 (decimal total))])
      at_response_free p_response)
    (failAsk t)

def skipNextComma (line : Text) : SmsHandler ε Text := do
  touch line.response
  pure { line with cur := AtTok.skipNextComma line.cur }

def skipCommas : Nat → Text → SmsHandler ε Text
  | 0, line => pure line
  | n + 1, line => do
    let line ← skipNextComma line
    skipCommas n line

/-- The messages are kept in the memory `third`. -/
def cpmsCommand (memoryRD memoryWS third : Line) : Line :=
  snprintf 128 (ascii "AT+CPMS=" ++ quoted memoryRD ++ ascii "," ++ quoted memoryWS ++ ascii "," ++ quoted third)

def requestStoreSmsToSim (value : Int) (t : RIL_Token) : SmsHandler ε Unit :=
  labelled (do
      let line ← askText (ascii "AT+CPMS?") (ascii "+CPMS:")
      let p_response := some line.response
      let line ← at_tok_start line p_response
      let (memoryRD, line) ← at_tok_nextstr line p_response
      let line ← skipCommas 2 line
      let (memoryWS, _) ← at_tok_nextstr line p_response
      let g ← getFile
      let (cnmi, third) :=
        if value = 1 then (ascii "AT+CNMI=3,1,2,1,1", ascii "SM")
        else if getProperty g.MIFI_PRODUCT_PROP (ascii "false") = ascii "false" then
          (ascii "AT+CNMI=3,2,2,1,1", ascii "ME")
        else (ascii "AT+CNMI=3,0,2,1,1", ascii "ME")
      let _ ← at_send_command_NULL cnmi
      at_response_free p_response
      let s ← at_send_command_singleline (cpmsCommand memoryRD memoryWS third) (ascii "+CPMS:") none
      if ← unsuccessful s then
        goto s.p_response
      RIL_onRequestComplete t .SUCCESS .NULL
      at_response_free s.p_response)
    (failAsk t)

def requestQuerySmsStorageMode (t : RIL_Token) : SmsHandler ε Unit :=
  labelled (do
      let line ← askText (ascii "AT+CPMS?") (ascii "+CPMS:")
      let p_response := some line.response
      let line ← at_tok_start line p_response
      let line ← skipCommas 6 line
      let (response, _) ← at_tok_nextstr line p_response
      RIL_onRequestComplete t .SUCCESS (.string response)
      at_response_free p_response)
    (failAsk t)

/-! ## The switch -/

inductive Request
  | SEND_SMS (smsc pdu : Option Line)
  | SEND_SMS_EXPECT_MORE (smsc pdu : Option Line)
  | IMS_SEND_SMS (sms : RIL_IMS_SMS)
  | SMS_ACKNOWLEDGE (ackSuccess : Int)
  | WRITE_SMS_TO_SIM (p_args : RIL_SMS_WriteArgs)
  | DELETE_SMS_ON_SIM (index : Int)
  | GSM_SMS_BROADCAST_ACTIVATION (active : Int)
  | GSM_SET_BROADCAST_SMS_CONFIG (data : List RIL_GSM_BroadcastSmsConfigInfo)
  | GSM_GET_BROADCAST_SMS_CONFIG
  | GET_SMSC_ADDRESS
  | SET_SMSC_ADDRESS (data : Option Line)
  | REPORT_SMS_MEMORY_STATUS (status : Int)
  | SET_IMS_SMSC (data : Option Line)
  | GET_SIM_CAPACITY
  | STORE_SMS_TO_SIM (value : Int)
  | QUERY_SMS_STORAGE_MODE
  | SET_SMS_BEARER (n : Int)

def processSmsRequests (r : Request) (t : RIL_Token) : SmsHandler ε Unit :=
  match r with
  | .SEND_SMS smsc pdu => requestSendSMS smsc pdu t
  | .SEND_SMS_EXPECT_MORE smsc pdu => requestSendSMS smsc pdu t
  | .IMS_SEND_SMS sms => requestSendIMSSMS sms t
  | .SMS_ACKNOWLEDGE ackSuccess => requestSMSAcknowledge ackSuccess t
  | .WRITE_SMS_TO_SIM p_args => requestWriteSmsToSim p_args t
  | .DELETE_SMS_ON_SIM index => withCard t (sendAndComplete (ascii "AT+CMGD=" ++ decimal index) t)
  | .GSM_SMS_BROADCAST_ACTIVATION active => sendAndComplete (ascii "AT+CSCB=" ++ decimal active) t
  | .GSM_SET_BROADCAST_SMS_CONFIG data => requestSetSmsBroadcastConfig data t
  | .GSM_GET_BROADCAST_SMS_CONFIG => requestGetSmsBroadcastConfig t
  | .GET_SMSC_ADDRESS => requestGetSmscAddress t
  | .SET_SMSC_ADDRESS data => requestSetSmscAddress data t
  | .REPORT_SMS_MEMORY_STATUS status =>
    withCard t (sendAndComplete (ascii "AT+SPSMSFULL=" ++ decimal (if status = 0 then 1 else 0)) t)
  | .SET_IMS_SMSC data => sendAndComplete (ascii "AT+PSISMSC=" ++ quoted (printed data)) t
  | .GET_SIM_CAPACITY => requestGetSIMCapacity t
  | .STORE_SMS_TO_SIM value => requestStoreSmsToSim value t
  | .QUERY_SMS_STORAGE_MODE => requestQuerySmsStorageMode t
  | .SET_SMS_BEARER n => sendAndComplete (ascii "AT+CASIMS=" ++ decimal n) t

end UniRil.Sms.Requests
