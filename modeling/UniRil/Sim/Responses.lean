import UniRil.Hex
import UniRil.Sim.Slot

/-!
# Who frees a response

Four handlers of ril_sim.c use one variable for several responses in turn. A response is freed at the
end or before the next command is sent, and what the variable holds then is decided by that command.
-/

namespace UniRil.Sim

open Flows Handlers
open AtTok (Line isspace)

variable {ε : Type}

/-! ## AT+CPIN -/

/-- The command that unlocks the card, with the result of its `asprintf`. In the PUK form it depends
on the state of the card. -/
def unlockCommand (strings : List (Option Line)) :
    Handler Slot (SimUnlockType × Pointer) (Bool × Line × SimUnlockType × Pointer) := do
  let string := fun i => printed (strings.getD i none)
  if strings.length = 2 then
    let allocated ← allocated
    pure (allocated, ascii "AT+CPIN=" ++ string 0, .UNLOCK_PIN, none)
  else if strings.length = 3 then
    let s ← at_send_command_singleline (ascii "AT+CPIN?") (ascii "+CPIN:") none
    if ← unsuccessful s then
      goto (.UNLOCK_PIN, s.p_response)
    let cpinLine ← firstLine s.p_response
    let cpinLine ← at_tok_start cpinLine (.UNLOCK_PIN, s.p_response)
    let (cpinResult, _) ← at_tok_nextstr cpinLine (.UNLOCK_PIN, s.p_response)
    let cmd :=
      if cpinResult = ascii "READY" ∨ cpinResult = ascii "SIM PIN" then
        ascii "ATD**05*" ++ string 0 ++ ascii "*" ++ string 1 ++ ascii "*" ++ string 1 ++ ascii "#"
      else
        ascii "AT+CPIN=" ++ string 0 ++ ascii "," ++ string 1
    let allocated ← allocated
    at_response_free s.p_response
    -- the variable keeps its value
    pure (allocated, cmd, .UNLOCK_PUK, s.p_response)
  else
    goto (.UNLOCK_PIN, none)

/-- The end of `requestEnterSimPin` after its answer. -/
def reportUnlocked (p_response : Pointer) : Handler Slot ε Unit := do
  let simstatus ← getSIMStatus false
  let g ← getGlobals
  if simstatus = .SIM_READY ∧ g.s_radioState = .ON then
    setRadioState .SIM_READY
  else if simstatus = .SIM_NETWORK_PERSONALIZATION then
    RIL_onUnsolicitedResponse .RIL_UNSOL_RESPONSE_SIM_STATUS_CHANGED
  at_response_free p_response

def requestEnterSimPin (strings : List (Option Line)) (t : RIL_Token) : Handler Slot ε Unit :=
  labelled (do
      let (allocated, cmd, rsqtype, p_response) ← unlockCommand strings
      if !allocated then
        goto (rsqtype, p_response)
      let s ← at_send_command cmd p_response
      if ← unsuccessful s then
        goto (rsqtype, s.p_response)
      let g ← getGlobals
      let pin := if strings.length = 2 then strings.getD 0 none else strings.getD 1 none
      if pin ≠ none ∧ needCacheSimPin g then
        cachePin (printed pin)
      let remaintime ← getSimlockRemainTimes rsqtype
      if rsqtype = .UNLOCK_PUK then
        let _ ← getSimlockRemainTimes .UNLOCK_PIN
      RIL_onRequestComplete t .SUCCESS (.ints [remaintime])
      reportUnlocked s.p_response)
    -- error:
    fun (rsqtype, p_response) => do
      let remaintime ← getSimlockRemainTimes rsqtype
      RIL_onRequestComplete t .PASSWORD_INCORRECT (.ints [remaintime])
      at_response_free p_response

/-! ## AT+CRSM -/

structure RIL_SIM_IO_v6 where
  command : Int
  fileid : Int
  path : Option Line
  p1 : Int
  p2 : Int
  p3 : Int
  data : Option Line

structure RIL_SIM_IO_Response where
  sw1 : Int
  sw2 : Int
  simResponse : Option Line

def READ_BINERY : Int := 176
def COMMAND_GET_RESPONSE : Int := 0xc0
def TYPE_FCP : Byte := 0x62
def RESPONSE_EF_SIZE : Nat := 15

def isISIMFileId (fileId : Int) : Bool := fileId ∈ [0x6f04, 0x6f02, 0x6f03, 0x6f07, 0x6f09, 0x6fe5]

def simIoCommand (g : Slot) (p_args : RIL_SIM_IO_v6) : Line :=
  let numbers (l : List Int) := (l.map fun n => decimal n ++ ascii ",").flatten
  let args := numbers [p_args.command, p_args.fileid, p_args.p1, p_args.p2, p_args.p3]
  let data :=
    match p_args.data with
    | none => ascii "0"
    | some data => ascii "\"" ++ data ++ ascii "\""
  let path := ascii ",\"" ++ printed p_args.path ++ ascii "\""
  if isISIMFileId p_args.fileid then ascii "AT+CRLA=" ++ numbers [g.s_simSessionId] ++ args ++ data ++ path
  else ascii "AT+CRSM=" ++ args ++ data ++ path

/-- The two digits of each pair change places. An odd one is lost. -/
def swapPairs : Line → Line
  | ch1 :: ch2 :: rest => ch2 :: ch1 :: swapPairs rest
  | _ => []

/-- The place of the file size, from `i` on. -/
def sizeIndexFrom (byteUSIM : List Byte) : Nat → Nat → Nat
  | 0, _ => 0
  | fuel + 1, i =>
    if i < byteUSIM.length then
      if byteUSIM.getD i 0 = 0x80 then i
      else sizeIndexFrom byteUSIM fuel (i + (byteUSIM.getD (i + 1) 0).toNat + 2)
    else 0

/-- `none` where the source returns NULL. What lies behind the bytes is zero. -/
def convertUsimToSim (byteUSIM : List Byte) : Option Line :=
  let byte i := byteUSIM.getD i 0
  let desIndex := (byteUSIM.idxOf? 0x82).getD 0
  let sizeIndex := sizeIndexFrom byteUSIM (byteUSIM.length + 1) desIndex
  let fileType := byte (desIndex + 2) &&& 0x07
  let byteSIM (fileStructure recordLength : Byte) : Line :=
    convertBinToHex ([0, 0, byte (sizeIndex + 2), byte (sizeIndex + 3), 0, 0, 4, 0, 0, 0, 0, 0, 0] ++
      [fileStructure, recordLength])
  if fileType = 0x01 then some (byteSIM 0 0)
  else if fileType = 0x02 then
    if byte 2 ≠ 0x82 ∨ byte 3 ≠ 5 then none else some (byteSIM 1 (byte 7))
  else if fileType = 0x06 then some (byteSIM 3 (byte 7))
  else some (byteSIM 0 0)

/-- The response of a USIM in the format of a SIM; `none` is the jump to `error`. -/
def simFormat (simResponse : Line) : Option Line :=
  let byteUSIM := (convertHexToBin simResponse).2 ++ [0]
  if byteUSIM.getD 0 0 ≠ TYPE_FCP then none
  else some ((convertUsimToSim (byteUSIM.take (simResponse.length / 2))).getD simResponse)

/-- What is read from the answer to AT+CRSM. -/
def simIoResponse (line : Text) (p_response : Pointer) : Handler Slot Pointer RIL_SIM_IO_Response := do
  let line ← at_tok_start line p_response
  let (sw1, line) ← at_tok_nextint line p_response
  let (sw2, line) ← at_tok_nextint line p_response
  if ← at_tok_hasmore line then
    let (simResponse, _) ← at_tok_nextstr line p_response
    pure { sw1 := sw1, sw2 := sw2, simResponse := some simResponse }
  else
    pure { sw1 := sw1, sw2 := sw2, simResponse := none }

/-- The ICCID file of a card that does not let it be read is asked for with AT+CCID. -/
def readICCID (p_response : Pointer) : Handler Slot Pointer (RIL_SIM_IO_Response × Pointer) := do
  at_response_free p_response
  let s ← at_send_command_singleline (ascii "AT+CCID") (ascii "+CCID:") p_response
  if ← unsuccessful s then
    goto s.p_response
  let line ← firstLine s.p_response
  let line ← at_tok_start line s.p_response
  let (simResponse12, _) ← at_tok_nextstr line s.p_response
  pure ({ sw1 := 144, sw2 := 0, simResponse := some (swapPairs simResponse12) }, s.p_response)

/-- `none` where the source returns -1. -/
def readSimRecord (p_args : RIL_SIM_IO_v6) : Handler Slot ε (Option RIL_SIM_IO_Response) :=
  labelled (do
      let g ← getGlobals
      if isISIMFileId p_args.fileid ∧ g.s_simSessionId = -1 then
        goto none
      let allocated ← allocated
      if !allocated then
        goto none
      let s ← at_send_command_singleline (simIoCommand g p_args)
        (if isISIMFileId p_args.fileid then ascii "+CRLA:" else ascii "+CRSM:") none
      if ← unsuccessful s then
        goto s.p_response
      let line ← firstLine s.p_response
      let sr ← simIoResponse line s.p_response
      let (sr, p_response) ←
        if p_args.fileid = 12258 ∧ p_args.command = READ_BINERY ∧ sr.sw1 = 105 ∧ sr.sw2 = 134 then
          readICCID s.p_response
        else
          pure (sr, s.p_response)
      let simResponse ←
        if g.s_appType = .USIM ∧ p_args.command = COMMAND_GET_RESPONSE ∧ sr.simResponse ≠ none then do
          let text ← demand (sr.simResponse.bind simFormat) p_response
          pure (some text)
        else
          pure sr.simResponse
      at_response_free p_response
      pure (some { sr with simResponse := simResponse }))
    -- error:
    fun p_response => do
      at_response_free p_response
      pure none

/-! ## AT+CGLA -/

structure RIL_SIM_APDU where
  sessionid : Int
  cla : Int
  instruction : Int
  p1 : Int
  p2 : Int
  p3 : Int
  data : Option Line

/-- The text of `%02x`. -/
def hex02 (n : Int) : Line :=
  let digits := Nat.toDigits 16 (n % 2 ^ 32).toNat
  (if digits.length < 2 then '0' :: digits else digits).map digitByte

def apduCommand (p_args : RIL_SIM_APDU) : Line :=
  let header := [p_args.cla, p_args.instruction, p_args.p1, p_args.p2].flatMap hex02
  let cmd (len : Int) (apdu : Line) :=
    ascii "AT+CGLA=" ++ decimal p_args.sessionid ++ ascii "," ++ decimal len ++ ascii ",\"" ++ apdu ++ ascii "\""
  let data := p_args.data.getD []
  if data = [] then
    if p_args.p3 < 0 then cmd 8 header else cmd 10 (header ++ hex02 p_args.p3)
  else cmd (10 + data.length) (header ++ hex02 p_args.p3 ++ data)

/-- `%02x` of `sscanf`: the value and what follows it. -/
def scan02x (s : Line) : Option (Int × Line) :=
  let s := s.dropWhile isspace
  let (negative, width, s) := match s with
    | 45 :: s => (true, 1, s)
    | 43 :: s => (false, 1, s)
    | s => (false, 2, s)
  let digits := (s.take width).takeWhile fun c => (hexValue c).isSome
  if digits = [] then none
  else
    let value : Nat := digits.foldl (fun n c => 16 * n + ((hexValue c).getD 0).toNat) 0
    some (if negative then -value else value, s.drop digits.length)

/-- `sscanf(&text[len - 4], "%02x%02x", &sw1, &sw2)`, and the text up to there. Outside the text
stands what `beyond` says. -/
def statusWords (beyond : Int → Line) (len : Int) (text : Line) (sw : Int × Int) : (Int × Int) × Line :=
  let inside := 0 ≤ len - 4 ∧ len - 4 ≤ text.length
  let last := if inside then text.drop (len - 4).toNat else beyond (len - 4)
  let sw :=
    match scan02x last with
    | none => sw
    | some (sw1, rest) =>
      match scan02x rest with
      | none => (sw1, sw.2)
      | some (sw2, _) => (sw1, sw2)
  (sw, if inside then text.take (len - 4).toNat else text)

/-- What the answer of the card asks for: the next command, if it is to be sent again. -/
def retryApdu (p_args : RIL_SIM_APDU) (sw : Int × Int) (text : Line) : Option RIL_SIM_APDU :=
  if sw.1 = 0x6c then some { p_args with p3 := sw.2 }
  else if sw.1 = 0x61 ∧ text = [] then
    some { p_args with p1 := 0, p2 := 0, p3 := sw.2, instruction := 0xc0, data := none }
  else none

def errorOfApdu (finalResponse : Line) : RIL_Errno :=
  if finalResponse = ascii "+CME ERROR: 21" ∨ finalResponse = ascii "+CME ERROR: 50" then .INVALID_PARAMETER
  else .GENERIC_FAILURE

/-- What stays of an exchange with the card. -/
structure ApduResult where
  p_args : RIL_SIM_APDU
  sw : Int × Int
  simResponse : Line
  line : Text
  p_response : Pointer

/-- From the label `retry` on, for as many commands as the fuel allows. -/
def exchangeApdu (beyond : Int → Line) :
    Nat → RIL_SIM_APDU → Int × Int → Pointer → Handler Slot (RIL_Errno × Pointer) ApduResult
  | 0, _, _, _ => runOn
  | fuel + 1, p_args, sw, p_response => do
    let s ← at_send_command_singleline (apduCommand p_args) (ascii "+CGLA:") p_response
    if !s.ok then
      goto (.GENERIC_FAILURE, s.p_response)
    if ← unsuccessful s then
      let r ← deref s.p_response
      goto (errorOfApdu r.finalResponse, s.p_response)
    let line ← firstLine s.p_response
    let line ← at_tok_start line (.GENERIC_FAILURE, s.p_response)
    let (len, line) ← at_tok_nextint line (.GENERIC_FAILURE, s.p_response)
    let (simResponse, line) ← at_tok_nextstr line (.GENERIC_FAILURE, s.p_response)
    touch line.response
    let (sw, simResponse) := statusWords beyond len simResponse sw
    (retryApdu p_args sw simResponse).elim
      (pure { p_args := p_args, sw := sw, simResponse := simResponse, line := line, p_response := s.p_response })
      fun p_args => do
        at_response_free s.p_response
        exchangeApdu beyond fuel p_args sw s.p_response

/-- From the label `fetch` on. -/
def fetchProactiveCommand (beyond : Int → Line) (sessionid : Int) (sw : Int × Int) : Handler Slot ε Unit :=
  labelled (do
      let s ← at_send_command_singleline
        (ascii "AT+CGLA= " ++ decimal sessionid ++ ascii ", 10,\"a0120000" ++ hex02 sw.2 ++ ascii "\"")
        (ascii "+CSIM:") none
      if ← unsuccessful s then
        goto s.p_response
      let line ← firstLine s.p_response
      let line ← at_tok_start line s.p_response
      let (len, line) ← at_tok_nextint line s.p_response
      let (simResponse, line) ← at_tok_nextstr line s.p_response
      touch line.response
      RIL_onUnsolicitedText .RIL_UNSOL_STK_PROACTIVE_COMMAND (statusWords beyond len simResponse sw).2
      goto s.p_response)
    -- fetch_error:
    fun p_response => at_response_free p_response

def requestTransmitApdu (beyond : Int → Line) (fuel : Nat) (p_args : RIL_SIM_APDU) (t : RIL_Token) :
    Handler Slot ε Unit :=
  labelled (do
      let result ← exchangeApdu beyond fuel p_args (0, 0) none
      touch result.line.response
      RIL_onRequestComplete t .SUCCESS (.simData result.sw.1 result.sw.2 (some result.simResponse))
      at_response_free result.p_response
      if result.p_args.instruction = 20 ∧ result.sw.1 = 0x90 then
        RIL_onUnsolicitedResponse .RIL_UNSOL_STK_SESSION_END
      if result.sw.1 = 0x91 then
        fetchProactiveCommand beyond result.p_args.sessionid result.sw)
    -- error:
    fun (err_no, p_response) => do
      RIL_onRequestComplete t err_no .NULL
      at_response_free p_response

/-! ## AT+CCID -/

def requestGetICCID (t : RIL_Token) : Handler Slot ε Unit :=
  labelled (do
      let s ← at_send_command_singleline (ascii "AT+CCID?") (ascii "+CCID: ") none
      if ← unsuccessful s then
        goto s.p_response
      let line ← firstLine s.p_response
      let line ← at_tok_start line s.p_response
      let (response, line) ← at_tok_nextstr line s.p_response
      at_response_free s.p_response
      -- `response` points into the line
      touch line.response
      RIL_onRequestComplete t .SUCCESS (.string response))
    -- error:
    fun p_response => do
      at_response_free p_response
      RIL_onRequestComplete t .GENERIC_FAILURE .NULL

end UniRil.Sim
