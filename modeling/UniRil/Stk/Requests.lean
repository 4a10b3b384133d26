import UniRil.Data.CgdcontRead
import UniRil.Handlers.Commands
import UniRil.Handlers.Told
import UniRil.Stk.Service

/-!
# The requests of the STK (ril_stk.c)

The handlers of `processStkRequests`. While the user is asked about a channel, the response of the framework is
the answer of the user, and the request is not completed.
-/

namespace UniRil.StkRequests

open Flows Handlers FailRules
open AtTok (Line)
open Cgdcont (cgdcont_read_cmd_rsp cgdcont_read_lines newLine)
open Stk (Addr Service State getStkContext putBipChannel removeFromStkContextList serviceIsRunning took)

/-- The globals of a SIM. -/
structure Globals where
  service : Service
  /-- The BIP channels and their contexts. -/
  bip : State
  pdp_info : Cgdcont.Table
  /-- The channels whose OPEN CHANNEL was answered for the user, and the result. -/
  sendChannelResponse : List (Nat × Nat)

abbrev StkHandler (ε α : Type) := Handler (Further Globals) ε α

variable {ε : Type}

def USER_NOT_ACCEPT : Nat := 0x22
def NO_RESPONSE_FROM_USER : Nat := 0x12

/-! ## The user answers -/

/-- `serviceIsRunning` of a SIM -/
def Globals.report (g : Globals) : Globals := { g with service := serviceIsRunning g.service }

/-- A thread opens the channel, where it has its context. -/
def Globals.lunchOpenChannel (channelId : Nat) (g : Globals) : Globals :=
  match getStkContext channelId g.bip with
  | none => g
  | some _ => { g with bip := { g.bip with log := g.bip.log ++ [.lunchOpenChannel channelId] } }

/-- The card is told why the channel was not opened, and the context goes. -/
def Globals.refuse (channelId resCode : Nat) (pstkContext : Addr) (g : Globals) : Globals :=
  { g with
    sendChannelResponse := g.sendChannelResponse ++ [(channelId, resCode)]
    bip :=
      { putBipChannel channelId (removeFromStkContextList pstkContext g.bip).2 with s_curBipChannelID := 0 } }

def Globals.closeDialog (g : Globals) : Globals := { g with bip := { g.bip with s_lunchOpenChannelDialog := false } }

/-- `data[dataLen - 2]`; `before` is what stands before the text. -/
def resultCell (data : Line) (before : Byte) : Byte := if data.length < 2 then before else data.getD (data.length - 2) 0

/-- 48 is `0`, and 49 is `1`. -/
def answerDialog (data : Line) (before : Byte) : StkHandler ε Unit := do
  let g ← getFile
  let channelId := g.bip.s_curBipChannelID
  if resultCell data before = 48 then
    modifyFile (Globals.lunchOpenChannel channelId)
  else
    let pstkContext ← deref (getStkContext channelId g.bip)
    let resCode := if resultCell data before = 49 then USER_NOT_ACCEPT else NO_RESPONSE_FROM_USER
    modifyFile (Globals.refuse channelId resCode pstkContext)
  modifyFile Globals.closeDialog

/-! ## Commands for the card -/

/-- A command whose lines are not looked at. -/
def sendSingle (cmd responsePrefix : Line) (t : RIL_Token) : StkHandler ε Unit := do
  let s ← at_send_command_singleline cmd responsePrefix none
  completeByOutcome t s

/-- A command with the text of the framework. -/
def sendText (cmd responsePrefix data : Line) (t : RIL_Token) : StkHandler ε Unit := do
  if ← allocated then
    sendSingle (cmd ++ quoted data) responsePrefix t
  else
    RIL_onRequestComplete t .GENERIC_FAILURE .NULL

def requestGetProfile (t : RIL_Token) : StkHandler ε Unit := do
  let s ← at_send_command_singleline (ascii "AT+SPUSATPROFILE?") (ascii "+SPUSATPROFILE:") none
  if ← unsuccessful s then
    RIL_onRequestComplete t .GENERIC_FAILURE .NULL
  else
    let r ← deref s.p_response
    let line ← deref r.p_intermediates.head?
    RIL_onRequestComplete t .SUCCESS (.string line)
  at_response_free s.p_response

def requestSendEnvelope (data : Option Line) (t : RIL_Token) : StkHandler ε Unit :=
  match data with
  | none => RIL_onRequestComplete t .INVALID_ARGUMENTS .NULL
  | some data =>
    if data = [] then RIL_onRequestComplete t .INVALID_ARGUMENTS .NULL
    else sendText (ascii "AT+SPUSATENVECMD=") (ascii "+SPUSATENVECMD:") data t

def requestSendTerminalResponse (data : Option Line) (before : Byte) (t : RIL_Token) : StkHandler ε Unit :=
  match data with
  | none => RIL_onRequestComplete t .INVALID_ARGUMENTS .NULL
  | some data => do
    if data = [] then
      RIL_onRequestComplete t .INVALID_ARGUMENTS .NULL
    else
      let g ← getFile
      if g.bip.s_lunchOpenChannelDialog then
        answerDialog data before
      else
        sendText (ascii "AT+SPUSATTERMINAL=") (ascii "+SPUSATTERMINAL:") data t

def requestReportRunning (t : RIL_Token) : StkHandler ε Unit := do
  let g ← getFile
  modifyFile Globals.report
  if g.service.s_stkUnsolResponse.isSome then
    RIL_onRequestComplete t .SUCCESS .NULL
  else
    sendSingle (ascii "AT+SPUSATPROFILE?") (ascii "+SPUSATPROFILE:") t

/-! ## The default network name -/

/-- The APN of the first context, or NULL where no line is about it; `none` where a line can not be read. -/
def findApn : List Line → Option (Option Line)
  | [] => some none
  | line :: lines => do
    let (ncid, cur) ← took (AtTok.at_tok_nextint (AtTok.at_tok_start (some line)))
    let (_, cur) ← took (AtTok.at_tok_nextint cur)
    if ncid = 1 then
      let apn ← (AtTok.at_tok_nextstr cur).value
      if apn = [] then none else some (some apn)
    else findApn lines

/-- The lines that `cgdcont_read_cmd_rsp` makes of those of the answer. -/
def rewritten (pdp_info : Cgdcont.Table) (r : Response) : Option Command.ATResponse :=
  cgdcont_read_cmd_rsp pdp_info
    (some { success := r.success, finalResponse := some r.finalResponse, p_intermediates := r.p_intermediates }) true

def requestDefaultNetworkName (t : RIL_Token) : StkHandler ε Unit := do
  let g ← getFile
  let s ← at_send_command_multiline (ascii "AT+SPIPCONTEXT?") (ascii "+SPIPCONTEXT:") none
  if ← unsuccessful s then
    RIL_onRequestComplete t .GENERIC_FAILURE .NULL
  else
    let r ← deref s.p_response
    let new ← deref (rewritten g.pdp_info r)
    match findApn new.p_intermediates with
    | none => RIL_onRequestComplete t .GENERIC_FAILURE .NULL
    | some apn => do
      -- the length of the text is asked for, also of NULL
      let apn ← deref apn
      RIL_onRequestComplete t .SUCCESS (.string apn)
  at_response_free s.p_response

/-! ## The switch -/

inductive Request
  | STK_GET_PROFILE
  | STK_SEND_ENVELOPE_COMMAND (data : Option Line)
  | STK_SEND_TERMINAL_RESPONSE (data : Option Line) (before : Byte)
  | STK_HANDLE_CALL_SETUP_REQUESTED_FROM_SIM (value : Int)
  | REPORT_STK_SERVICE_IS_RUNNING
  | GET_DEFAULT_NAN

def processStkRequests (r : Request) (t : RIL_Token) : StkHandler ε Unit :=
  match r with
  | .STK_GET_PROFILE => requestGetProfile t
  | .STK_SEND_ENVELOPE_COMMAND data => requestSendEnvelope data t
  | .STK_SEND_TERMINAL_RESPONSE data before => requestSendTerminalResponse data before t
  | .STK_HANDLE_CALL_SETUP_REQUESTED_FROM_SIM value => do
    let s ← at_send_command (ascii (if value = 0 then "AT+SPUSATCALLSETUP=0" else "AT+SPUSATCALLSETUP=1")) none
    completeByOutcome t s
  | .REPORT_STK_SERVICE_IS_RUNNING => requestReportRunning t
  | .GET_DEFAULT_NAN => requestDefaultNetworkName t

/-! ## One answer for each -/

variable {t : RIL_Token} {w : World (Further Globals)}

theorem tells_sendText (cmd responsePrefix data : Line) : Tells t (sendText cmd responsePrefix data t) w := by
  simp [Tells, sendText, sendSingle, completeByOutcome]

theorem tells_requestGetProfile : Tells t (requestGetProfile t) w := by
  simp [Tells, requestGetProfile]

theorem tells_requestSendEnvelope (data : Option Line) : Tells t (requestSendEnvelope data t) w := by
  cases data with
  | none => simp [Tells, requestSendEnvelope]
  | some data =>
    by_cases hdata : data = []
    · simp [Tells, requestSendEnvelope, hdata]
    · simpa only [requestSendEnvelope, if_neg hdata] using tells_sendText _ _ data

/-- The answer of the user completes nothing. -/
theorem not_tells_answerDialog (data : Line) (before : Byte) : ¬ Tells t (answerDialog data before) w := by
  by_cases hyes : resultCell data before = 48
  · simp [Tells, answerDialog, hyes]
  · cases h : getStkContext w.globals.file.bip.s_curBipChannelID w.globals.file.bip <;>
      simp [Tells, answerDialog, hyes, h]

theorem tells_requestSendTerminalResponse (data : Option Line) (before : Byte) :
    Tells t (requestSendTerminalResponse data before t) w ↔
      (w.globals.file.bip.s_lunchOpenChannelDialog = true → data.getD [] = []) := by
  cases data with
  | none => simp [Tells, requestSendTerminalResponse]
  | some data =>
    by_cases hdata : data = []
    · simp [Tells, requestSendTerminalResponse, hdata]
    · rw [requestSendTerminalResponse, if_neg hdata, Tells, wp_bind, wp_getFile, Option.getD_some]
      split
      · next hdialog => exact iff_of_false (not_tells_answerDialog data before) fun h => hdata (h hdialog)
      · next hdialog => exact iff_of_true (tells_sendText _ _ data) fun h => absurd h hdialog

theorem tells_requestReportRunning : Tells t (requestReportRunning t) w := by
  simp [Tells, requestReportRunning, sendSingle, completeByOutcome]

/-- A line about the first context comes with the answer, or one that can not be read comes before it. -/
def NameKnown (pdp_info : Cgdcont.Table) (a : Answer) : Prop :=
  ∀ lines, linesOf (ascii "+SPIPCONTEXT:") a = some lines → findApn (lines.map (newLine pdp_info)) ≠ some none

theorem tells_requestDefaultNetworkName :
    Tells t (requestDefaultNetworkName t) w ↔ NameKnown w.globals.file.pdp_info (w.answers 0) := by
  unfold NameKnown
  cases ha : w.answers 0 with
  | failed => simp [Tells, requestDefaultNetworkName, linesOf, ha]
  | response f ls =>
    cases hf : Command.isFinalResponseSuccess f with
    | false => simp [Tells, requestDefaultNetworkName, linesOf, ha, hf]
    | true =>
      simp [Tells, requestDefaultNetworkName, linesOf, rewritten, cgdcont_read_lines, ha, hf]
      rcases findApn _ with _ | _ | apn <;> simp

/-! ## The requests -/

/-- No dialog is open that the response would answer, and the default network name is known. -/
def Answerable (r : Request) (answers : Nat → Answer) (g : Globals) : Prop :=
  match r with
  | .STK_SEND_TERMINAL_RESPONSE data _ => g.bip.s_lunchOpenChannelDialog = true → data.getD [] = []
  | .GET_DEFAULT_NAN => NameKnown g.pdp_info (answers 0)
  | _ => True

theorem tells_processStkRequests (r : Request) :
    Tells t (processStkRequests r t) w ↔ Answerable r w.answers w.globals.file := by
  cases r with
  | STK_GET_PROFILE => exact iff_of_true tells_requestGetProfile trivial
  | STK_SEND_ENVELOPE_COMMAND data => exact iff_of_true (tells_requestSendEnvelope data) trivial
  | STK_SEND_TERMINAL_RESPONSE data before => exact tells_requestSendTerminalResponse data before
  | STK_HANDLE_CALL_SETUP_REQUESTED_FROM_SIM value =>
    exact iff_of_true (by simp [Tells, processStkRequests, completeByOutcome]) trivial
  | REPORT_STK_SERVICE_IS_RUNNING => exact iff_of_true tells_requestReportRunning trivial
  | GET_DEFAULT_NAN => exact tells_requestDefaultNetworkName

/-- The handler comes back, and the token of the request was answered once. -/
def AnsweredOnce (r : Request) (t : Nat) (answers : Nat → Answer) (allocates : Nat → Bool) (g : Globals) : Prop :=
  wp (processStkRequests r (some t) : StkHandler Empty Unit) (fun _ w => told (some t) w = 1) (fun _ _ => False)
    (.start answers allocates { file := g, completed := [] })

end UniRil.StkRequests
