import UniRil.AtTok
import UniRil.Command.Frozen
import UniRil.Decimal
import UniRil.Lib.Flows

/-!
# What a request handler does

A handler sends commands, reads the responses it is given, frees them and completes its request. The
world holds what the modem does with each command to come, the responses that are not freed yet, what
went out, and the globals of the file.
-/

namespace UniRil.Handlers

open Flows
open AtTok (Line)

/-- NULL is `none`. -/
abbrev RIL_Token := Option Nat

inductive RIL_Errno
  | SUCCESS
  | GENERIC_FAILURE
  | PASSWORD_INCORRECT
  | SIM_ABSENT
  | ILLEGAL_SIM_OR_ME
  | FDN_CHECK_FAILURE
  | REQUEST_NOT_SUPPORTED
  | OPERATION_NOT_ALLOWED
  | INVALID_ARGUMENTS
  | INVALID_PARAMETER
  | INVALID_STATE
  | INVALID_MODEM_STATE
  | INVALID_SIM_STATE
  | MISSING_RESOURCE
  | NO_SUCH_ELEMENT
  | NO_NETWORK_FOUND
  deriving DecidableEq, Inhabited

/-- The data of an answer. -/
inductive Payload
  | NULL
  | ints (values : List Int)
  | string (text : Line)
  | strings (texts : List (Option Line))
  /-- `RIL_SIM_IO_Response` -/
  | simData (sw1 sw2 : Int) (simResponse : Option Line)
  /-- Structures: the numbers and the texts of each. -/
  | records (rows : List (List Int × List (Option Line)))
  deriving DecidableEq

inductive Unsolicited
  | RIL_UNSOL_RESPONSE_RADIO_STATE_CHANGED
  | RIL_UNSOL_RESPONSE_SIM_STATUS_CHANGED
  | RIL_EXT_UNSOL_SIMMGR_SIM_STATUS_CHANGED
  | RIL_UNSOL_STK_SESSION_END
  | RIL_UNSOL_STK_PROACTIVE_COMMAND
  | RIL_UNSOL_RESPONSE_VOICE_NETWORK_STATE_CHANGED
  | RIL_UNSOL_RADIO_CAPABILITY
  | RIL_EXT_UNSOL_RADIO_CAPABILITY_CHANGED
  | RIL_UNSOL_NETWORK_SCAN_RESULT
  | RIL_EXT_UNSOL_ECC_NETWORKLIST_CHANGED
  deriving DecidableEq

inductive Callback
  | getSIMStatusAgainForSimBusy
  | onSimAbsent
  | onSimPresent
  | onSimlockLocked
  | reportCallStateChanged
  | startGSPS
  | onQuerySignalStrength
  | onQuerySignalStrengthLTE
  deriving DecidableEq

inductive Event
  | at_send_command (cmd : Line)
  | RIL_onRequestComplete (t : RIL_Token) (e : RIL_Errno) (response : Payload)
  | RIL_onUnsolicitedResponse (code : Unsolicited)
  /-- `RIL_onUnsolicitedResponse` with a text. -/
  | RIL_onUnsolicitedText (code : Unsolicited) (text : Line)
  | RIL_requestTimedCallback (callback : Callback)
  /-- `getSIMStatus` is about to enter a PIN on its own. -/
  | automaticPin (pin : Line)
  deriving DecidableEq

/-- What the modem does with a command: it fails without a response, or the lines and the final
response come. -/
inductive Answer
  | failed
  | response (finalResponse : Line) (lines : List Line)
  deriving DecidableEq

structure World (γ : Type) where
  answers : Nat → Answer
  /-- Whether the next allocations succeed. -/
  allocates : Nat → Bool
  /-- How many responses were given out. -/
  given : Nat
  /-- The responses that are not freed. -/
  live : List Nat
  /-- A response was read or freed after it had been freed. -/
  misused : Bool
  log : List Event
  globals : γ

/-- A handler begins. -/
def World.start {γ : Type} (answers : Nat → Answer) (allocates : Nat → Bool) (globals : γ) : World γ where
  answers := answers
  allocates := allocates
  given := 0
  live := []
  misused := false
  log := []
  globals := globals

abbrev Handler (γ ε : Type) := Flow (World γ) ε

variable {γ ε : Type}

/-! ## What changes in the world -/

def World.note (w : World γ) (e : Event) : World γ := { w with log := w.log ++ [e] }

/-- A command goes out, and what the modem does with it is told. -/
def World.sends (w : World γ) (cmd : Line) : World γ :=
  { w with answers := fun n => w.answers (n + 1), log := w.log ++ [.at_send_command cmd] }

def World.gives (w : World γ) : World γ := { w with given := w.given + 1, live := w.given :: w.live }

def World.reads (w : World γ) (handle : Nat) : World γ := { w with misused := w.misused || handle ∉ w.live }

def World.frees (w : World γ) (handle : Nat) : World γ :=
  { w with live := w.live.erase handle, misused := w.misused || handle ∉ w.live }

def World.asks (w : World γ) : World γ := { w with allocates := fun n => w.allocates (n + 1) }

def World.setGlobals (w : World γ) (f : γ → γ) : World γ := { w with globals := f w.globals }

/-! ## Responses -/

structure Response where
  handle : Nat
  success : Bool
  finalResponse : Line
  p_intermediates : List Line
  deriving DecidableEq

/-- A variable of type `ATResponse *`. -/
abbrev Pointer := Option Response

/-- What a send leaves: whether it returns 0 and not an error, and the variable. -/
structure Sent where
  ok : Bool
  p_response : Pointer

def touch (r : Response) : Handler γ ε Unit := modify fun w => w.reads r.handle

def at_response_free (p_response : Pointer) : Handler γ ε Unit :=
  match p_response with
  | none => pure ()
  | some r => modify fun w => w.frees r.handle

def at_send_command_full (type : Command.ATCommandType) (responsePrefix cmd : Line) (p_response : Pointer) :
    Handler γ ε Sent := fun w =>
  match w.answers 0 with
  -- `*pp_outResponse` keeps its value
  | .failed => (.ok { ok := false, p_response := p_response }, w.sends cmd)
  | .response finalResponse lines =>
    (.ok
      { ok := true
        p_response := some
          { handle := w.given
            success := Command.isFinalResponseSuccess finalResponse
            finalResponse := finalResponse
            p_intermediates := Command.intermediatesOf type responsePrefix lines } },
      (w.sends cmd).gives)

/-- A successful command must have an intermediate response. -/
def withIntermediate (s : Sent) : Handler γ ε Sent :=
  match s.p_response with
  | none => pure s
  | some r =>
    if s.ok ∧ r.success ∧ r.p_intermediates = [] then do
      at_response_free (some r)
      pure { ok := false, p_response := none }
    else
      pure s

def at_send_command (cmd : Line) (p_response : Pointer) : Handler γ ε Sent :=
  at_send_command_full .NO_RESULT [] cmd p_response

def at_send_command_singleline (cmd responsePrefix : Line) (p_response : Pointer) : Handler γ ε Sent := do
  let s ← at_send_command_full .SINGLELINE responsePrefix cmd p_response
  withIntermediate s

def at_send_command_numeric (cmd : Line) (p_response : Pointer) : Handler γ ε Sent := do
  let s ← at_send_command_full .NUMERIC [] cmd p_response
  withIntermediate s

def at_send_command_multiline (cmd responsePrefix : Line) (p_response : Pointer) : Handler γ ε Sent :=
  at_send_command_full .MULTILINE responsePrefix cmd p_response

/-- `at_send_command` with NULL for `pp_outResponse`: no response is given out. -/
def at_send_command_NULL (cmd : Line) : Handler γ ε Bool := do
  let s ← at_send_command cmd none
  at_response_free s.p_response
  pure s.ok

/-- `err < 0 || p_response->success == 0` -/
def unsuccessful (s : Sent) : Handler γ ε Bool :=
  if s.ok then do
    let r ← deref s.p_response
    touch r
    pure !r.success
  else
    pure true

/-! ## The text of a response -/

/-- A `char *` into a line of a response. -/
structure Text where
  response : Response
  cur : Option Line

/-- `p_response->p_intermediates->line` -/
def firstLine (p_response : Pointer) : Handler γ ε Text := do
  let r ← deref p_response
  touch r
  let line ← deref r.p_intermediates.head?
  pure { response := r, cur := some line }

/-- `err = at_tok_start(&line); if (err < 0) goto l;` -/
def at_tok_start (line : Text) (l : ε) : Handler γ ε Text := do
  touch line.response
  let cur ← demand (AtTok.at_tok_start line.cur) l
  pure { line with cur := some cur }

/-- `err = at_tok_nextint(&line, &n); if (err < 0) goto l;` -/
def at_tok_nextint (line : Text) (l : ε) : Handler γ ε (Int × Text) := do
  touch line.response
  let tok := AtTok.at_tok_nextint line.cur
  let n ← demand tok.value l
  pure (n, { line with cur := tok.p_cur })

/-- `err = at_tok_nextstr(&line, &s); if (err < 0) goto l;` -/
def at_tok_nextstr (line : Text) (l : ε) : Handler γ ε (Line × Text) := do
  touch line.response
  let tok := AtTok.at_tok_nextstr line.cur
  let s ← demand tok.value l
  pure (s, { line with cur := tok.p_cur })

def at_tok_hasmore (line : Text) : Handler γ ε Bool := do
  touch line.response
  pure (AtTok.at_tok_hasmore line.cur)

/-- `at_tok_nextint`, where what it returns is no reason for a jump. -/
def nextint (line : Text) : Handler γ ε (AtTok.Tok Int × Text) := do
  touch line.response
  let tok := AtTok.at_tok_nextint line.cur
  pure (tok, { line with cur := tok.p_cur })

/-! ## Answers and memory -/

def RIL_onRequestComplete (t : RIL_Token) (e : RIL_Errno) (response : Payload) : Handler γ ε Unit :=
  modify fun w => w.note (.RIL_onRequestComplete t e response)

def RIL_onUnsolicitedResponse (code : Unsolicited) : Handler γ ε Unit :=
  modify fun w => w.note (.RIL_onUnsolicitedResponse code)

def RIL_onUnsolicitedText (code : Unsolicited) (text : Line) : Handler γ ε Unit :=
  modify fun w => w.note (.RIL_onUnsolicitedText code text)

def RIL_requestTimedCallback (callback : Callback) : Handler γ ε Unit :=
  modify fun w => w.note (.RIL_requestTimedCallback callback)

/-- Whether an allocation succeeds. -/
def allocated : Handler γ ε Bool := fun w => (.ok (w.allocates 0), w.asks)

def getGlobals : Handler γ ε γ := do
  let w ← get
  pure w.globals

def modifyGlobals (f : γ → γ) : Handler γ ε Unit := modify fun w => w.setGlobals f

/-- What `%s` prints. -/
def printed (s : Option Line) : Line := s.getD (ascii "(null)")

def AT_COMMAND_LEN : Nat := 128

/-- What `snprintf` leaves in a buffer. -/
def snprintf (size : Nat) (text : Line) : Line := text.take (size - 1)

/-- `%d`, `%d`, ... -/
def commas (numbers : List Int) : Line := (ascii ",").intercalate (numbers.map decimal)

def quoted (s : Line) : Line := ascii "\"" ++ s ++ ascii "\""

/-- The request is answered by the outcome of its only command. -/
def completeByOutcome (t : RIL_Token) (s : Sent) : Handler γ ε Unit := do
  if ← unsuccessful s then
    RIL_onRequestComplete t .GENERIC_FAILURE .NULL
  else
    RIL_onRequestComplete t .SUCCESS .NULL
  at_response_free s.p_response

/-! ## A part of the globals -/

def World.withGlobals {γ' : Type} (w : World γ) (g : γ') : World γ' :=
  { answers := w.answers, allocates := w.allocates, given := w.given, live := w.live, misused := w.misused,
    log := w.log, globals := g }

/-- A function of another file runs on its part of the globals. -/
def within {γ' α : Type} (view : γ' → γ) (update : γ → γ' → γ') (m : Handler γ ε α) : Handler γ' ε α := fun w =>
  let (r, w') := m (w.withGlobals (view w.globals))
  (r, w'.withGlobals (update w'.globals w.globals))

/-! ## What was answered -/

def Event.completes (t : RIL_Token) : Event → Bool
  | .RIL_onRequestComplete t' _ _ => t' = t
  | _ => false

/-- How often the request was completed. -/
def World.completions (w : World γ) (t : RIL_Token) : Nat := w.log.countP (Event.completes t)

def Event.automatic : Event → Option Line
  | .automaticPin pin => some pin
  | _ => none

/-- The PINs that were entered without a request. -/
def World.automaticPins (w : World γ) : List Line := w.log.filterMap Event.automatic

end UniRil.Handlers
