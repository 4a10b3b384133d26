import UniRil.Sim.Responses

/-!
# PINs and facility locks

The lock of the fixed dialling numbers is answered by a URC or by a timer; its request waits for them
in a list that other threads work on while the command is out.
-/

namespace UniRil.Sim

open Flows Handlers
open AtTok (Line)

variable {ε : Type}

/-! ## PIN2, PUK2 and new PINs -/

def requestEnterSimPin2 (pin2 : Option Line) (t : RIL_Token) : Handler Slot ε Unit := do
  let s ← at_send_command (snprintf AT_COMMAND_LEN (ascii "AT+ECPIN2=" ++ quoted (printed pin2))) none
  let errnoType ← if ← unsuccessful s then pure RIL_Errno.PASSWORD_INCORRECT else pure RIL_Errno.SUCCESS
  let remaintimes ← getSimlockRemainTimes .UNLOCK_PIN2
  RIL_onRequestComplete t errnoType (.ints [remaintimes])
  at_response_free s.p_response

def requestEnterSimPuk2 (strings : List (Option Line)) (t : RIL_Token) : Handler Slot ε Unit :=
  labelled (do
      let string := fun i => printed (strings.getD i none)
      if strings.length ≠ 3 then
        goto none
      let allocated ← allocated
      if !allocated then
        goto none
      let s ← at_send_command
        (ascii "ATD**052*" ++ string 0 ++ ascii "*" ++ string 1 ++ ascii "*" ++ string 1 ++ ascii "#") none
      let _ ← getSimlockRemainTimes .UNLOCK_PUK2
      let _ ← getSimlockRemainTimes .UNLOCK_PIN2
      if ← unsuccessful s then
        goto s.p_response
      RIL_onRequestComplete t .SUCCESS .NULL
      at_response_free s.p_response
      let simstatus ← getSIMStatus false
      let g ← getGlobals
      if simstatus = .SIM_READY ∧ g.s_radioState = .ON then
        setRadioState .SIM_READY
      else if simstatus = .SIM_NETWORK_PERSONALIZATION then
        RIL_onUnsolicitedResponse .RIL_UNSOL_RESPONSE_SIM_STATUS_CHANGED)
    -- error:
    fun p_response => do
      RIL_onRequestComplete t .PASSWORD_INCORRECT .NULL
      at_response_free p_response

/-- The command that changes a PIN; it depends on the state of the card. -/
def changeCommand (service facility : Line) (strings : List (Option Line)) : Handler Slot (Int × Pointer) Line := do
  let string := fun i => printed (strings.getD i none)
  if strings.length ≠ 3 then
    goto (3, none)
  let s ← at_send_command_singleline (ascii "AT+CPIN?") (ascii "+CPIN:") none
  if ← unsuccessful s then
    goto (3, s.p_response)
  let cpinLine ← firstLine s.p_response
  let cpinLine ← at_tok_start cpinLine (3, s.p_response)
  let (cpinResult, _) ← at_tok_nextstr cpinLine (3, s.p_response)
  let cmd :=
    if cpinResult = ascii "SIM PIN" then
      service ++ string 0 ++ ascii "*" ++ string 1 ++ ascii "*" ++ string 1 ++ ascii "#"
    else
      ascii "AT+CPWD=" ++ facility ++ ascii "," ++ quoted (string 0) ++ ascii "," ++ quoted (string 1)
  let allocated ← allocated
  at_response_free s.p_response
  if !allocated then
    goto (3, none)
  pure cmd

/-- `requestChangeSimPin` and `requestChangeSimPin2`; `cache` is what the first does with the new PIN. -/
def changePin (service facility : Line) (type : SimUnlockType) (cache : Handler Slot (Int × Pointer) Unit)
    (strings : List (Option Line)) (t : RIL_Token) : Handler Slot ε Unit :=
  labelled (do
      let cmd ← changeCommand service facility strings
      let s ← at_send_command cmd none
      let remaintime ← getSimlockRemainTimes type
      if ← unsuccessful s then
        goto (remaintime, s.p_response)
      cache
      RIL_onRequestComplete t .SUCCESS .NULL
      at_response_free s.p_response)
    -- error:
    fun (remaintime, p_response) => do
      RIL_onRequestComplete t .PASSWORD_INCORRECT (.ints [remaintime])
      at_response_free p_response

/-- The length of the PIN is asked for before it is saved. -/
def cacheString (pin : Option Line) : Handler Slot ε Unit := do
  let g ← getGlobals
  if needCacheSimPin g then
    let pin ← deref pin
    cachePin pin

def requestChangeSimPin (strings : List (Option Line)) (t : RIL_Token) : Handler Slot ε Unit :=
  changePin (ascii "ATD**04*") (ascii "\"SC\"") .UNLOCK_PIN (cacheString (strings.getD 1 none)) strings t

def requestChangeSimPin2 (strings : List (Option Line)) (t : RIL_Token) : Handler Slot ε Unit :=
  changePin (ascii "ATD**042*") (ascii "\"P2\"") .UNLOCK_PIN2 (pure ()) strings t

/-! ## Remaining attempts of the locks -/

def getNetLockRemainTimes (type : Int) : Handler Slot ε Int := do
  let s ← at_send_command_singleline (ascii "AT+SPSMPN=" ++ commas [type, 1]) (ascii "+SPSMPN:") none
  let ret ←
    if ← unsuccessful s then
      pure (-1)
    else
      labelled (do
          let line ← firstLine s.p_response
          let line ← at_tok_start line ()
          let (result0, line) ← at_tok_nextint line ()
          let (_, line) ← nextint line
          let (result1, _) ← at_tok_nextint line ()
          pure (result0 - result1))
        fun _ => pure (-1)
  at_response_free s.p_response
  pure ret

/-- The facilities with attempts of their own. -/
def netLocks : List (Line × Int) :=
  [(ascii "PS", 1), (ascii "PN", 2), (ascii "PU", 3), (ascii "PP", 4), (ascii "PC", 5)]

def getRemainTimes (type : Option Line) : Handler Slot ε Int :=
  type.elim (pure (-1)) fun type =>
    (netLocks.lookup type).elim
      (if type = ascii "SC" then getSimlockRemainTimes .UNLOCK_PIN
        else if type = ascii "FD" then getSimlockRemainTimes .UNLOCK_PIN2
        else pure (-1))
      getNetLockRemainTimes

/-! ## Requests that wait for +CLCK -/

/-- What comes from other threads: the URC of the slot, or the timer of a request. -/
inductive Arrival
  | CLCK (status : Int)
  | timeout (t : RIL_Token)
  deriving DecidableEq

def addAsyncCmdList (t : RIL_Token) (mode : Int) : Handler Slot ε Unit :=
  modifyGlobals fun g => { g with s_timerList := g.s_timerList ++ [(t, mode)] }

/-- The first entry of the request leaves the list. -/
def removeAsyncCmdList (t : RIL_Token) : Handler Slot ε Unit :=
  modifyGlobals fun g => { g with s_timerList := g.s_timerList.eraseP (·.1 = t) }

def dispatchCLCK (t : RIL_Token) (mode status : Int) : Handler Slot ε Unit :=
  if mode = status then RIL_onRequestComplete t .SUCCESS (.ints [1])
  else RIL_onRequestComplete t .GENERIC_FAILURE .NULL

/-- The URC answers the request that has waited longest. -/
def checkAndCompleteRequest (status : Int) : Handler Slot ε Unit := do
  let g ← getGlobals
  g.s_timerList.head?.elim (pure ()) fun (t, mode) => do
    dispatchCLCK t mode status
    modifyGlobals fun g => { g with s_timerList := g.s_timerList.tail }

/-- A timer that is gone does not fire. -/
def userTimerCallback (t : RIL_Token) : Handler Slot ε Unit := do
  let g ← getGlobals
  if t ∈ g.s_timerList.map (·.1) then
    removeAsyncCmdList t
    RIL_onRequestComplete t .GENERIC_FAILURE .NULL

def arrive : Arrival → Handler Slot ε Unit
  | .CLCK status => checkAndCompleteRequest status
  | .timeout t => userTimerCallback t

def arriveAll : List Arrival → Handler Slot ε Unit
  | [] => pure ()
  | a :: as => do
    arrive a
    arriveAll as

/-! ## Facility locks -/

inductive FacilityRequest
  | SET_FACILITY_LOCK
  | QUERY_FACILITY_LOCK
  | EXT_QUERY_FACILITY_LOCK
  deriving DecidableEq

/-- `a | b` on `int`. -/
def orInt (a b : Int) : Int := (BitVec.ofInt 32 a ||| BitVec.ofInt 32 b).toInt

/-- The lines of the answer to a query: the last status and the classes of all lines. -/
def lockStatus (r : Response) (lines : List Line) (response : Int × Int) (serviceClass : Int) :
    Handler Slot Pointer (Int × Int) :=
  match lines with
  | [] => pure response
  | l :: lines => do
    let line ← at_tok_start { response := r, cur := some l } (some r)
    let (status, line) ← at_tok_nextint line (some r)
    let serviceClass ←
      if ← at_tok_hasmore line then do
        let (c, _) ← at_tok_nextint line (some r)
        pure c
      else
        pure serviceClass
    lockStatus r lines (status, orInt response.2 serviceClass) serviceClass

/-- The first byte of EF_SST is read; two bytes fit into the buffer. -/
def fdnAvailable (appType : RIL_AppType) (simResponse : Line) : Handler Slot Pointer Int := do
  let byteFdn := (convertHexToBin simResponse).2
  if 2 < byteFdn.length then
    crash
  let first := byteFdn.getD 0 0
  if appType = .USIM ∧ first &&& 0x02 ≠ 0x02 then pure 2
  else if appType = .SIM ∧ (first >>> 4) &&& 0x01 ≠ 0x01 then pure 2
  else pure (-1)

def queryFDNServiceAvailable : Handler Slot ε Int := do
  let g ← getGlobals
  if g.s_appType = .UNKNOWN then
    pure (-1)
  else
    let path := if g.s_appType = .USIM then ascii "3F007FFF" else ascii "3F007F20"
    let s ← at_send_command_singleline
      (ascii "AT+CRSM=" ++ commas [READ_BINERY, 0x6f38, 0, 0, 1] ++ ascii ",0," ++ quoted path) (ascii "+CRSM:") none
    let status ← labelled (do
          if ← unsuccessful s then
            goto none
          let line ← firstLine s.p_response
          let sr ← simIoResponse line s.p_response
          let simResponse ← demand sr.simResponse s.p_response
          if simResponse.length < 2 then
            goto s.p_response
          fdnAvailable g.s_appType simResponse)
        -- out:
        fun _ => pure (-1)
    at_response_free s.p_response
    pure status

/-- The status of a lock is asked for. -/
def queryLock (kind : FacilityRequest) (cmd facility : Line) (serviceClass : Int) (t : RIL_Token) :
    Handler Slot Pointer Unit := do
  let s ← at_send_command_multiline cmd (ascii "+CLCK: ") none
  if ← unsuccessful s then
    goto s.p_response
  let r ← deref s.p_response
  let response ← lockStatus r r.p_intermediates (0, 0) serviceClass
  let status ←
    if facility = ascii "FD" then do
      let available ← queryFDNServiceAvailable
      if available = 2 then pure 2 else pure response.1
    else
      pure response.1
  if kind = .EXT_QUERY_FACILITY_LOCK then
    RIL_onRequestComplete t .SUCCESS (.ints [status, response.2])
  else
    RIL_onRequestComplete t .SUCCESS (.ints [status])
  at_response_free s.p_response

/-- A lock is set or opened. `meanwhile` is what comes for the waiting requests while the command is out. -/
def setLock (cmd facility mode : Line) (password : Option Line) (meanwhile : List Arrival) (t : RIL_Token) :
    Handler Slot Pointer Unit := do
  if facility = ascii "FD" then
    addAsyncCmdList t (AtTok.atoi mode)
  arriveAll meanwhile
  let s ← at_send_command cmd none
  if ← unsuccessful s then
    if facility = ascii "FD" then
      removeAsyncCmdList t
    goto s.p_response
  if facility = ascii "FD" then
    let _ ← getSimlockRemainTimes .UNLOCK_PIN2
  else
    if facility = ascii "SC" then
      cacheString password
      let _ ← getSimlockRemainTimes .UNLOCK_PIN
    RIL_onRequestComplete t .SUCCESS (.ints [1])
  at_response_free s.p_response

/-- The error of a request whose command failed, from the label `error` to `error1`. -/
def errnoOfLock (facility mode : Line) (p_response : Pointer) : Handler Slot ε RIL_Errno :=
  p_response.elim (pure .GENERIC_FAILURE) fun r => do
    touch r
    if !strStartsWith r.finalResponse (ascii "+CME ERROR:") then
      pure .GENERIC_FAILURE
    else
      (AtTok.at_tok_nextint (AtTok.at_tok_start (some r.finalResponse))).value.elim (pure .GENERIC_FAILURE)
        fun errNum =>
        if errNum = 11 ∨ errNum = 12 then do
          setRadioState .SIM_LOCKED_OR_ABSENT
          pure .GENERIC_FAILURE
        else if errNum = 70 ∨ errNum = 128 ∨ errNum = 254 then pure .FDN_CHECK_FAILURE
        else if errNum = 16 then pure .PASSWORD_INCORRECT
        else if errNum = 3 ∧ facility = ascii "SC" ∧ mode.head? = some 49 then pure .SUCCESS
        else pure .GENERIC_FAILURE

/-- The end of the request, from the label `error1` on. -/
def failLock (type : Option Line) (errnoType : RIL_Errno) (p_response : Pointer) (t : RIL_Token) :
    Handler Slot ε Unit := do
  let remainTimes ← getRemainTimes type
  RIL_onRequestComplete t errnoType (.ints [remainTimes])
  at_response_free p_response

/-- A string that is there and not empty. -/
def given (s : Option Line) : Option Line := s.filter (· ≠ [])

def lockCommand (facility mode serviceText : Line) (password : Option Line) : Line :=
  ascii "AT+CLCK=" ++ quoted facility ++ ascii "," ++ mode.take 1 ++ ascii "," ++ quoted (printed password) ++
    (if AtTok.atoi serviceText = 0 then [] else ascii "," ++ serviceText)

/-- `count` is what `datalen` says. -/
def requestFacilityLock (kind : FacilityRequest) (data : List (Option Line)) (count : Nat) (meanwhile : List Arrival)
    (t : RIL_Token) : Handler Slot ε Unit :=
  labelled (do
      if count ≠ 5 then
        goto RIL_Errno.GENERIC_FAILURE
      let password := data.getD 2 none
      let facility ← demand (given (data.getD 0 none)) .INVALID_ARGUMENTS
      let mode ← demand (given (data.getD 1 none)) .INVALID_ARGUMENTS
      if kind = .SET_FACILITY_LOCK ∧ given password = none then
        goto .INVALID_ARGUMENTS
      let serviceText ← deref (data.getD 3 none)
      let cmd := lockCommand facility mode serviceText password
      let allocated ← allocated
      if !allocated then
        goto .GENERIC_FAILURE
      labelled (if mode.head? = some 50 then queryLock kind cmd facility (AtTok.atoi serviceText) t
          else setLock cmd facility mode password meanwhile t)
        -- error:
        fun p_response => do
          let errnoType ← errnoOfLock facility mode p_response
          failLock (some facility) errnoType p_response t)
    -- error1:
    fun errnoType => failLock (data.getD 0 none) errnoType none t

/-- `RIL_REQUEST_QUERY_FACILITY_LOCK`: the mode is put between the facility and the password. -/
def queryFacilityLock (kind : FacilityRequest) (strings : List (Option Line)) (t : RIL_Token) : Handler Slot ε Unit :=
  requestFacilityLock kind [strings.getD 0 none, some (ascii "2"), strings.getD 1 none, strings.getD 2 none]
    (strings.length + 1) [] t

end UniRil.Sim
