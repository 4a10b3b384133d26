import UniRil.Decimal
import UniRil.Lib.Truncate

/-!
# Commands and lines of other services (divril.cpp)

The EMBMS and the MDT service have channels of their own to the modem. sendAtCmd answers some commands itself and hands
the others to sendCommand; the reader thread gives its lines to the command that waits, or passes them on.
-/

namespace UniRil.Divril

open AtTok (Line at_tok_flag_start at_tok_start at_tok_nextint at_tok_hasmore skipNextComma)

def ARRAY_SIZE : Nat := 128

def ERROR_GENERIC : Int := -1
def ERROR_TIMEOUT : Int := -2
def ERROR_CHANNEL_CLOSED : Int := -3
def ERROR_COMMAND_PENDING : Int := -4
def ERROR_INVALID_THREAD : Int := -5

inductive SERVICE_ID
  | EMBMS
  | MDT
  deriving DecidableEq

def crlf : Line := [CR, LF]

/-- A buffer of `size` bytes that holds a string ends it with a NUL. -/
def strlcat (dst src : Line) (size : Nat) : Line := Truncate.append (size - 1) dst src

def snprintf (size : Nat) (text : Line) : Line := text.take (size - 1)

def strstr (s needle : Line) : Bool := s.tails.any (strStartsWith · needle)

/-- The buffers of sendCommand and sendAtCmd. -/
def bufSize : Nat := ARRAY_SIZE * 8

/-! ## Responses -/

structure CmdResponse where
  success : Bool
  finalResponse : Option Line
  /-- While lines are read, the last one comes first. -/
  p_intermediates : List Line
  deriving DecidableEq

def at_response_new : CmdResponse := { success := false, finalResponse := none, p_intermediates := [] }

def s_finalResponsesError : List Line := [ascii "ERROR", ascii "+CMS ERROR:", ascii "+CME ERROR:"]

def s_finalResponsesSuccess : List Line := [ascii "OK", ascii "CONNECT"]

def isFinalResponseError (line : Line) : Bool := s_finalResponsesError.any (strStartsWith line)

def isFinalResponseSuccess (line : Line) : Bool := s_finalResponsesSuccess.any (strStartsWith line)

/-- processLine for a command that waits. -/
def CmdResponse.processLine (r : CmdResponse) (line : Line) : CmdResponse :=
  if isFinalResponseSuccess line then { r with success := true, finalResponse := some line }
  else if isFinalResponseError line then { r with success := false, finalResponse := some line }
  else { r with p_intermediates := line :: r.p_intermediates }

def CmdResponse.reverseIntermediates (r : CmdResponse) : CmdResponse :=
  { r with p_intermediates := r.p_intermediates.reverse }

/-! ## Unsolicited lines -/

/-- What sendResponse is given, or nothing when the copy of the line fills all ARRAY_SIZE bytes of `buf` or goes beyond
them: strlen then reads on behind it. -/
def processUnsolResp (serviceId : SERVICE_ID) (line : Line) : Option (List Line) :=
  match serviceId with
  | .EMBMS =>
    if strStartsWith line (ascii "+MBMSEREG:") then
      let status := at_tok_nextint (at_tok_start (some line))
      if status.ok then
        some [strlcat (snprintf ARRAY_SIZE (ascii "+CEREG: " ++ decimal (status.p_out.getD 0))) crlf ARRAY_SIZE]
      else some []
    else if line.length < ARRAY_SIZE then some [strlcat line crlf ARRAY_SIZE]
    else none
  | .MDT => some [line]

/-! ## sendCommand -/

/-- What the channel does for a command. -/
inductive Outcome
  /-- Another command waits. -/
  | pending
  | closed
  | writeError
  /-- The lines that come until the response is complete, or until the time is over. -/
  | reads (lines : List Line)
  deriving DecidableEq

/-- The wait for a final response. -/
def CmdResponse.awaits (r : CmdResponse) : List Line → Option CmdResponse
  | [] => none
  | line :: lines =>
    if (r.processLine line).finalResponse.isSome then some (r.processLine line) else (r.processLine line).awaits lines

/-- The result, the response, and what was written to the modem. A command that is NULL is read by writeline. -/
def send_command_full_nolock (command : Option Line) (outcome : Outcome) :
    Option (Int × Option CmdResponse × List Line) :=
  match outcome with
  | .pending => some (ERROR_COMMAND_PENDING, none, [])
  | .closed => command.map fun _ => (ERROR_CHANNEL_CLOSED, none, [])
  | .writeError => command.map fun command => (ERROR_GENERIC, none, [command])
  | .reads lines =>
    command.map fun command =>
      match at_response_new.awaits lines with
      | none => (ERROR_TIMEOUT, none, [command])
      | some r => (0, some r.reverseIntermediates, [command])

/-- With `tag`, the number of the command is echoed in the command that it was written for. -/
def echo (command : Line) (tag : Bool) : Line :=
  if tag then
    let status := at_tok_nextint (at_tok_flag_start (some (snprintf bufSize command)) 61)
    strlcat (snprintf bufSize (ascii "AT+CEREG=" ++ decimal (status.p_out.getD 0))) crlf bufSize
  else strlcat (strlcat [] command bufSize) crlf bufSize

/-- The answer behind the echo that `buf` holds. -/
def answer (buf : Line) (err : Int) (p_outResponse : Option CmdResponse) : Line :=
  let buf :=
    if err < 0 then strlcat buf (ascii "ERROR") bufSize
    else
      match p_outResponse with
      | none => buf
      | some r =>
        if r.success then
          let buf := r.p_intermediates.foldl (fun buf line => strlcat (strlcat buf line bufSize) crlf bufSize) buf
          strlcat buf (r.finalResponse.getD []) bufSize
        else strlcat buf (r.finalResponse.getD []) bufSize
  strlcat buf crlf bufSize

/-- What a call leaves behind: what was written to the modem, and what sendResponse was given. -/
structure Done where
  err : Int
  s_needEchoCommand : Bool
  written : List Line
  sent : List Line
  deriving DecidableEq

def sendCommand (serviceId : SERVICE_ID) (s_needEchoCommand : Bool) (command : Option Line) (tag : Bool)
    (outcome : Outcome) : Option Done := do
  let (err, p_outResponse, written) ← send_command_full_nolock command outcome
  let buf ← if s_needEchoCommand ∧ serviceId = .EMBMS then command.map (echo · tag) else some []
  some { err, s_needEchoCommand, written, sent := [answer buf err p_outResponse] }

/-! ## sendAtCmd -/

/-- The network interfaces: the address of dummy0, if there is one, and the result of ifc_enable. -/
structure Interfaces where
  hwaddr : Option (Fin 6 → Byte)
  ifc_enable : Int

/-- `%02x` -/
def hex2 (c : Byte) : Line :=
  [c / 16, c % 16].map fun d => if d < 10 then d + 48 else d + 87

def macText (macAddr : Fin 6 → Byte) : Line :=
  hex2 (macAddr 0) ++ ascii ":" ++ hex2 (macAddr 1) ++ ascii ":" ++ hex2 (macAddr 2) ++ ascii ":" ++
    hex2 (macAddr 3) ++ ascii ":" ++ hex2 (macAddr 4) ++ ascii ":" ++ hex2 (macAddr 5)

def ifname : Line := ascii "seth_lte7"

/-- `buf` with the echo of a command that sendAtCmd answers itself. -/
def localEcho (s_needEchoCommand : Bool) (command : Line) : Line :=
  if s_needEchoCommand then strlcat (strlcat [] command bufSize) crlf bufSize else []

def Done.answered (err : Int) (s_needEchoCommand : Bool) (buf : Line) : Done :=
  { err, s_needEchoCommand, written := [], sent := [strlcat buf crlf bufSize] }

def deviceInfo (interfaces : Interfaces) (s_needEchoCommand : Bool) (command : Line) : Done :=
  let buf := localEcho s_needEchoCommand command
  .answered 0 s_needEchoCommand <|
    match interfaces.hwaddr with
    | some macAddr =>
      strlcat (strlcat (strlcat (strlcat buf (ascii "%MBMSCMD:") bufSize) (macText macAddr) bufSize) crlf bufSize)
        (ascii "OK") bufSize
    | none => strlcat buf (ascii "ERROR") bufSize

def enableEmbms (interfaces : Interfaces) (s_needEchoCommand : Bool) (command : Line) : Done :=
  let buf := localEcho s_needEchoCommand command
  let error : Done := .answered (-1) s_needEchoCommand (strlcat buf (ascii "ERROR") bufSize)
  let line := skipNextComma (some command)
  if at_tok_hasmore line then
    -- `num` is stored where there is no numeral, too
    let num := (at_tok_nextint line).p_out.getD (-1)
    if num = 0 then .answered 0 s_needEchoCommand (strlcat buf (ascii "OK") bufSize)
    else if num = 1 then
      if interfaces.ifc_enable ≠ 0 then error
      else
        .answered 0 s_needEchoCommand
          (strlcat (strlcat (strlcat (strlcat buf (ascii "%MBMSCMD:") bufSize) ifname bufSize) crlf bufSize)
            (ascii "OK") bufSize)
    else error
  else error

/-- `AT+CEREG=` with something to set. -/
def setsCereg (command : Line) : Bool := strstr command (ascii "AT+CEREG=") && !strstr command (ascii "AT+CEREG=?")

/-- sendAtCmd for the EMBMS service. -/
def sendEmbmsCmd (interfaces : Interfaces) (s_needEchoCommand : Bool) (command : Line) (outcome : Outcome) :
    Option Done :=
  if strstr command (ascii "DEVICE INFO") then some (deviceInfo interfaces s_needEchoCommand command)
  else if strstr command (ascii "ENABLE_EMBMS") then some (enableEmbms interfaces s_needEchoCommand command)
  else if setsCereg command then
    let status := at_tok_nextint (at_tok_flag_start (some command) 61)
    if status.ok then
      let buf := snprintf bufSize (ascii "AT+MBMSEREG=" ++ decimal (status.p_out.getD 0))
      sendCommand .EMBMS s_needEchoCommand (some buf) true outcome
    else some { err := -1, s_needEchoCommand, written := [], sent := [] }
  else if command = ascii "ATE1" then some (.answered 0 true (strlcat [] (ascii "OK") bufSize))
  else if command = ascii "ATE0" then some (.answered 0 false (strlcat [] (ascii "OK") bufSize))
  else sendCommand .EMBMS s_needEchoCommand (some command) false outcome

/-- Nothing comes back where NULL is read. -/
def sendAtCmd (interfaces : Interfaces) (onReaderThread : Bool) (serviceId : SERVICE_ID) (s_needEchoCommand : Bool)
    (command : Option Line) (outcome : Outcome) : Option Done :=
  if onReaderThread then some { err := ERROR_INVALID_THREAD, s_needEchoCommand, written := [], sent := [] }
  else
    match serviceId with
    | .EMBMS => command.bind fun command => sendEmbmsCmd interfaces s_needEchoCommand command outcome
    | .MDT => sendCommand .MDT s_needEchoCommand command false outcome

def copyHidlStringToRil (src : Line) : Option Line := if src.length = 0 then none else some src

/-- The command of a text: sendFlvCmd copies it, the main loop has it from readline. -/
def received (serviceId : SERVICE_ID) (text : Line) : Option Line :=
  match serviceId with
  | .EMBMS => copyHidlStringToRil text
  | .MDT => some text

end UniRil.Divril
