import UniRil.CString

/-!
# Commands and responses of atchannel.c

`processLine` runs on the reader thread and `at_send_command_full_nolock` on the command thread.
Each piece below runs with the mutex of the channel held.
-/

namespace UniRil.Command

abbrev Line := List Byte

inductive ATCommandType
  | NO_RESULT
  | NUMERIC
  | SINGLELINE
  | MULTILINE

inductive ATError
  | GENERIC
  | COMMAND_PENDING
  | CHANNEL_CLOSED
  | TIMEOUT
  deriving DecidableEq

structure ATResponse where
  success : Bool
  finalResponse : Option Line
  -- The last line received is the head, until `reverseIntermediates`.
  p_intermediates : List Line
  deriving DecidableEq

/-- `at_response_new`: all fields zero. -/
def at_response_new : ATResponse := { success := false, finalResponse := none, p_intermediates := [] }

/-- The fields of `struct ATChannels` that belong to the command. -/
structure ATChannels where
  s_type : ATCommandType
  s_responsePrefix : Line
  s_smsPDU : Option Line
  sp_response : Option ATResponse

def s_finalResponsesError : List Line :=
  [ascii "ERROR", ascii "+CMS ERROR:", ascii "+CME ERROR:", ascii "NO CARRIER", ascii "NO ANSWER",
    ascii "NO DIALTONE"]

def s_finalResponsesSuccess : List Line := [ascii "OK", ascii "CONNECT"]

def isFinalResponseError (line : Line) : Bool := s_finalResponsesError.any (strStartsWith line)

def isFinalResponseSuccess (line : Line) : Bool := s_finalResponsesSuccess.any (strStartsWith line)

def isFinalResponse (line : Line) : Bool := isFinalResponseSuccess line || isFinalResponseError line

def isdigit (c : Byte) : Bool := 48 ≤ c && c ≤ 57

/-- What `processLine` does besides changing the channel. Every channel is opened with a handler. -/
inductive Effect
  | unsolicited (line : Line)
  | signal
  | writeCtrlZ (pdu : Line)
  deriving DecidableEq

/-- The switch of `processLine`: the line is an intermediate response of the pending command. -/
def isIntermediate (type : ATCommandType) (responsePrefix : Line) (p_intermediates : List Line) (line : Line) : Bool :=
  match type with
  | .NO_RESULT => false
  | .NUMERIC => p_intermediates.isEmpty && isdigit (line.headD NUL)
  | .SINGLELINE => p_intermediates.isEmpty && strStartsWith line responsePrefix
  | .MULTILINE => strStartsWith line responsePrefix || !line.contains 58

def processLine (ch : ATChannels) (line : Line) : ATChannels × List Effect :=
  match ch.sp_response with
  | none => (ch, [.unsolicited line])
  | some p_response =>
    if isFinalResponseSuccess line then
      ({ ch with sp_response := some { p_response with success := true, finalResponse := some line } }, [.signal])
    else if isFinalResponseError line then
      ({ ch with sp_response := some { p_response with success := false, finalResponse := some line } }, [.signal])
    else
      match ch.s_smsPDU, decide (line = ascii "> ") with
      | some pdu, true => ({ ch with s_smsPDU := none }, [.writeCtrlZ pdu])
      | _, _ =>
        if isIntermediate ch.s_type ch.s_responsePrefix p_response.p_intermediates line then
          ({ ch with
              sp_response := some { p_response with p_intermediates := line :: p_response.p_intermediates } }, [])
        else
          (ch, [.unsolicited line])

/-- The lines the reader passes on one after another. -/
def processLines : ATChannels → List Line → ATChannels × List Effect
  | ch, [] => (ch, [])
  | ch, line :: lines =>
    let (ch, effects) := processLine ch line
    let (ch, more) := processLines ch lines
    (ch, effects ++ more)

/-- `at_send_command_full_nolock` up to `writeline`. -/
def beginCommand (type : ATCommandType) (responsePrefix : Line) (smspdu : Option Line) : ATChannels :=
  { s_type := type, s_responsePrefix := responsePrefix, s_smsPDU := smspdu, sp_response := some at_response_new }

def clearPendingCommand (ch : ATChannels) : ATChannels :=
  { ch with sp_response := none, s_responsePrefix := [], s_smsPDU := none }

def reverseIntermediates (p_response : ATResponse) : ATResponse :=
  { p_response with p_intermediates := p_response.p_intermediates.reverse }

/-- The command thread has the mutex again, after a wait that did or did not time out. The first
component is what `at_send_command_full_nolock` returns, or `none` when it waits on. -/
def wakeUp (ch : ATChannels) (readerClosed timedOut : Bool) : Option (Except ATError ATResponse) × ATChannels :=
  match ch.sp_response with
  | none => (none, ch)
  | some p_response =>
    if timedOut then
      (some (.error .TIMEOUT), clearPendingCommand ch)
    else if p_response.finalResponse.isNone && !readerClosed then
      (none, ch)
    else if readerClosed then
      (some (.error .CHANNEL_CLOSED), clearPendingCommand ch)
    else
      (some (.ok (reverseIntermediates p_response)), clearPendingCommand ch)

/-- A command whose thread has the mutex again after the reader passed on `lines`: what it returns
and what the lines did meanwhile. -/
def sendCommand (type : ATCommandType) (responsePrefix : Line) (smspdu : Option Line) (lines : List Line) :
    Option (Except ATError ATResponse) × List Effect :=
  let (ch, effects) := processLines (beginCommand type responsePrefix smspdu) lines
  ((wakeUp ch false false).1, effects)

end UniRil.Command
