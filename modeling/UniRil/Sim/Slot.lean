import UniRil.Decimal
import UniRil.Handlers.Rules

/-!
# One SIM slot in ril_sim.c

The cells and properties of one slot, the cached PIN, the remaining attempts and the status of the
card. A command about the slot is answered by the modem as the world says.
-/

namespace UniRil.Sim

open Flows Handlers
open AtTok (Line)

inductive RadioState
  | OFF
  | UNAVAILABLE
  | SIM_NOT_READY
  | SIM_LOCKED_OR_ABSENT
  | SIM_READY
  | ON
  deriving DecidableEq

inductive SimPresentState
  | ABSENT
  | PRESENT
  | SIM_UNKNOWN
  deriving DecidableEq

inductive RIL_AppType
  | UNKNOWN
  | SIM
  | USIM
  deriving DecidableEq, Inhabited

inductive SimUnlockType
  | UNLOCK_PIN
  | UNLOCK_PIN2
  | UNLOCK_PUK
  | UNLOCK_PUK2
  deriving DecidableEq

inductive SimStatus
  | SIM_ABSENT
  | SIM_NOT_READY
  | SIM_READY
  | SIM_PIN
  | SIM_PUK
  | SIM_NETWORK_PERSONALIZATION
  | SIM_NETWORK_SUBSET_PERSONALIZATION
  | SIM_SERVICE_PROVIDER_PERSONALIZATION
  | SIM_CORPORATE_PERSONALIZATION
  | SIM_SIM_PERSONALIZATION
  | SIM_NETWORK_PUK
  | SIM_NETWORK_SUBSET_PUK
  | SIM_SERVICE_PROVIDER_PUK
  | SIM_CORPORATE_PUK
  | SIM_SIM_PUK
  | SIM_SIMLOCK_FOREVER
  | SIM_PERM_BLOCK
  deriving DecidableEq, Inhabited

/-- The cells indexed by the slot, and the values its properties have for it. -/
structure Slot where
  s_radioState : RadioState
  s_closed : Bool
  s_sim_busy : Bool
  s_isSimPresent : SimPresentState
  s_needQueryPinTimes : Bool
  s_needQueryPukTimes : Bool
  s_needQueryPinPuk2Times : Bool
  s_appType : RIL_AppType
  s_imsInitISIM : Int
  s_simSessionId : Int
  AUTO_SAVE_PIN : Line
  SIM_PIN_PROP : Line
  MODEM_ASSERT_PROP : Line
  SIM_ENABLED_PROP : Line
  MIFI_PRODUCT_PROP : Line
  PIN_PUK_REMAIN_TIMES_PROP : SimUnlockType → Int
  /-- The requests of the slot that wait for +CLCK, with the mode each asked for. -/
  s_timerList : List (RIL_Token × Int)
  /-- What `rand()` gives from here on. -/
  rand : Nat → Nat
  /-- What the tables of the PIN hold at an index that they do not have. -/
  outside : Int → Byte

variable {ε : Type}

/-- The value for the slot, or the default where there is none. -/
def getProperty (value defaultVal : Line) : Line := if value = [] then defaultVal else value

def needCacheSimPin (g : Slot) : Prop := getProperty g.AUTO_SAVE_PIN (ascii "0") = ascii "1"

instance (g : Slot) : Decidable (needCacheSimPin g) := inferInstanceAs (Decidable (_ = _))

/-! ## The cached PIN -/

def encryptArray : List Line :=
  [ascii "rsefaqtdwc", ascii "1623054897", ascii "zsetgjknpc", ascii "auenzkdmrc", ascii "utesdgkbcz",
    ascii "erifdjlmcx", ascii "5278413609", ascii "zsetgjknpc", ascii "1623054897", ascii "sdfzwetjlc"]

def randEncryptArray : Line := ascii "parkyoungj"

/-- `encryptArray[randVal][code]` -/
def encryptCode (outside : Int → Byte) (randVal : Nat) (code : Int) : Byte :=
  if 0 ≤ code ∧ code < 10 then (encryptArray.getD randVal []).getD code.toNat NUL
  else outside (10 * randVal + code)

/-- The pair of characters for one place: the row and the digit in it. -/
def encryptPlace (rand : Nat → Nat) (outside : Int → Byte) (pin : Line) (i : Nat) : Line :=
  let randVal := rand (2 * i) % 10
  let code : Int := if i < pin.length then (pin.getD i NUL).toNat - 48 else (rand (2 * i + 1) % 10 : Nat)
  [randEncryptArray.getD randVal NUL, encryptCode outside randVal code]

/-- The length and eight places. -/
def encryptPin (rand : Nat → Nat) (outside : Int → Byte) (pin : Line) : Line :=
  (if pin.length < 10 then randEncryptArray.getD pin.length NUL else outside pin.length) ::
    (List.range 8).flatMap (encryptPlace rand outside pin)

/-- The digits of `n` places. A character that is not found ends the text. -/
def decryptPlaces : Nat → Line → Line
  | 0, _ => []
  | n + 1, row :: c :: rest =>
    match randEncryptArray.idxOf? row with
    | none => []
    | some randVal =>
      match (encryptArray.getD randVal []).idxOf? c with
      | none => []
      | some j => UInt8.ofNat (48 + j) :: decryptPlaces n rest
  | _ + 1, _ => []

def decryptPin : Line → Line
  | [] => []
  | len :: places =>
    match randEncryptArray.idxOf? len with
    | none => []
    | some pinLen => decryptPlaces pinLen places

/-- The PIN is saved for the next start of the modem. -/
def cachePin (pin : Line) : Handler Slot ε Unit :=
  modifyGlobals fun g =>
    { g with SIM_PIN_PROP := cstr (encryptPin g.rand g.outside pin), rand := fun n => g.rand (n + 16) }

/-! ## Remaining attempts -/

def SimUnlockType.code : SimUnlockType → Int
  | .UNLOCK_PIN => 0
  | .UNLOCK_PIN2 => 1
  | .UNLOCK_PUK => 2
  | .UNLOCK_PUK2 => 3

def SimUnlockType.remaintime : SimUnlockType → Int
  | .UNLOCK_PIN | .UNLOCK_PIN2 => 3
  | .UNLOCK_PUK | .UNLOCK_PUK2 => 10

def setPinPukRemainTimes (type : SimUnlockType) (remainTimes : Int) : Handler Slot ε Unit :=
  modifyGlobals fun g =>
    { g with PIN_PUK_REMAIN_TIMES_PROP := fun u => if u = type then remainTimes else g.PIN_PUK_REMAIN_TIMES_PROP u }

def getSimlockRemainTimes (type : SimUnlockType) : Handler Slot ε Int := do
  let s ← at_send_command_singleline (ascii "AT+XX=" ++ decimal type.code) (ascii "+XX:") none
  let remaintime ←
    if ← unsuccessful s then
      pure type.remaintime
    else
      labelled (do
          let line ← firstLine s.p_response
          let line ← at_tok_start line ()
          let (result, _) ← at_tok_nextint line ()
          pure result)
        fun _ => pure type.remaintime
  at_response_free s.p_response
  setPinPukRemainTimes type remaintime
  pure remaintime

/-! ## The status of the card -/

def CME_ERROR_NON_CME : Int := -1
def CME_SUCCESS : Int := 0
def CME_SIM_NOT_INSERTED : Int := 10
def CME_SIM_BUSY : Int := 14

def at_get_cme_error (r : Response) : Int :=
  if r.success then CME_SUCCESS
  else if !strStartsWith r.finalResponse (ascii "+CME ERROR:") then CME_ERROR_NON_CME
  else (AtTok.at_tok_nextint (AtTok.at_tok_start (some r.finalResponse))).value.getD CME_ERROR_NON_CME

/-- The results of AT+CPIN? that are named. -/
def cpinResults : List (Line × SimStatus) :=
  [(ascii "SIM PUK", .SIM_PUK),
    (ascii "PH-NET PIN", .SIM_NETWORK_PERSONALIZATION),
    (ascii "PH-NETSUB PIN", .SIM_NETWORK_SUBSET_PERSONALIZATION),
    (ascii "PH-SP PIN", .SIM_SERVICE_PROVIDER_PERSONALIZATION),
    (ascii "PH-CORP PIN", .SIM_CORPORATE_PERSONALIZATION),
    (ascii "PH-SIM PIN", .SIM_SIM_PERSONALIZATION),
    (ascii "PH-NET PUK", .SIM_NETWORK_PUK),
    (ascii "PH-NETSUB PUK", .SIM_NETWORK_SUBSET_PUK),
    (ascii "PH-SP PUK", .SIM_SERVICE_PROVIDER_PUK),
    (ascii "PH-CORP PUK", .SIM_CORPORATE_PUK),
    (ascii "PH-SIM PUK", .SIM_SIM_PUK),
    (ascii "PH-INTEGRITY FAIL", .SIM_SIMLOCK_FOREVER),
    (ascii "PIN1_BLOCK_PUK1_BLOCK", .SIM_PERM_BLOCK),
    (ascii "READY", .SIM_READY)]

/-- The card wants its PIN: after an assert of the modem the cached one is entered. -/
def simPin (p_response : Pointer) : Handler Slot (SimStatus × Pointer) Unit := do
  let g ← getGlobals
  if needCacheSimPin g ∧ getProperty g.MODEM_ASSERT_PROP (ascii "0") = ascii "1" then
    modifyGlobals fun g => { g with MODEM_ASSERT_PROP := ascii "0" }
    let pin := decryptPin (getProperty g.SIM_PIN_PROP [])
    if pin.length = 4 then
      modify fun w => w.note (.automaticPin pin)
      let s ← at_send_command (ascii "AT+CPIN=" ++ pin) none
      if ← unsuccessful s then
        at_response_free s.p_response
      else
        at_response_free s.p_response
        goto (.SIM_NOT_READY, p_response)
  goto (.SIM_PIN, p_response)

/-- `getSIMStatus` up to its label `done`. -/
def querySIMStatus : Handler Slot (SimStatus × Pointer) (SimStatus × Pointer) := do
  let g ← getGlobals
  if g.s_radioState = .UNAVAILABLE then
    goto (.SIM_NOT_READY, none)
  let s ← at_send_command_singleline (ascii "AT+CPIN?") (ascii "+CPIN:") none
  if !s.ok then
    goto (.SIM_NOT_READY, s.p_response)
  let r ← deref s.p_response
  touch r
  if at_get_cme_error r = CME_SIM_NOT_INSERTED then
    goto (.SIM_ABSENT, s.p_response)
  if at_get_cme_error r = CME_SIM_BUSY then
    if !g.s_sim_busy then
      modifyGlobals fun g => { g with s_sim_busy := true }
      RIL_requestTimedCallback .getSIMStatusAgainForSimBusy
    goto (.SIM_NOT_READY, s.p_response)
  if at_get_cme_error r ≠ CME_SUCCESS then
    goto (.SIM_NOT_READY, s.p_response)
  let cpinLine ← firstLine s.p_response
  let cpinLine ← at_tok_start cpinLine (.SIM_NOT_READY, s.p_response)
  let (cpinResult, _) ← at_tok_nextstr cpinLine (.SIM_NOT_READY, s.p_response)
  if cpinResult = ascii "SIM PIN" then
    simPin s.p_response
  -- an unsupported lock type counts as an absent SIM
  pure ((cpinResults.lookup cpinResult).getD .SIM_ABSENT, s.p_response)

/-- `getSIMStatus` from its label `done` on. -/
def reportSIMStatus (simmgr : Bool) (ret : SimStatus) : Handler Slot ε SimStatus := do
  let g ← getGlobals
  let ret :=
    if ret ≠ .SIM_ABSENT ∧ simmgr = false ∧ getProperty g.SIM_ENABLED_PROP (ascii "1") = ascii "0" then .SIM_ABSENT
    else ret
  modifyGlobals fun g =>
    { g with
      s_isSimPresent :=
        if ret = .SIM_ABSENT then .ABSENT
        else if ret = .SIM_NOT_READY ∧ g.s_sim_busy then .SIM_UNKNOWN
        else .PRESENT }
  if g.s_needQueryPinTimes ∧ (ret = .SIM_PIN ∨ ret = .SIM_READY) then
    modifyGlobals fun g => { g with s_needQueryPinTimes := false }
    let _ ← getSimlockRemainTimes .UNLOCK_PIN
    pure ret
  else if g.s_needQueryPukTimes ∧ ret = .SIM_PUK then
    modifyGlobals fun g => { g with s_needQueryPukTimes := false }
    let _ ← getSimlockRemainTimes .UNLOCK_PUK
    pure ret
  else if g.s_needQueryPinPuk2Times ∧ ret = .SIM_READY then
    modifyGlobals fun g => { g with s_needQueryPinPuk2Times := false }
    let _ ← getSimlockRemainTimes .UNLOCK_PIN2
    let _ ← getSimlockRemainTimes .UNLOCK_PUK2
    pure ret
  else if ret = .SIM_ABSENT then
    modifyGlobals fun g =>
      { g with
        s_needQueryPinTimes := true
        s_needQueryPukTimes := true
        s_needQueryPinPuk2Times := true
        s_imsInitISIM := -1
        s_simSessionId := -1 }
    pure ret
  else
    pure ret

/-- `simmgr`: the request is `RIL_EXT_REQUEST_SIMMGR_GET_SIM_STATUS`. -/
def getSIMStatus (simmgr : Bool) : Handler Slot ε SimStatus := do
  let (ret, p_response) ← labelled querySIMStatus pure
  at_response_free p_response
  reportSIMStatus simmgr ret

/-! ## The radio state -/

def onSIMReady : Handler Slot ε Unit := do
  let _ ← at_send_command_NULL (ascii "AT+CSMS=1")
  let g ← getGlobals
  if getProperty g.MIFI_PRODUCT_PROP (ascii "false") = ascii "false" then
    let _ ← at_send_command_NULL (ascii "AT+CNMI=3,2,2,1,1")
  else
    let _ ← at_send_command_NULL (ascii "AT+CNMI=3,0,2,1,1")

/-- The states this file asks for; a closed slot stays unavailable. -/
def setRadioState (newState : RadioState) : Handler Slot ε Unit := do
  let g ← getGlobals
  let newState := if g.s_closed then .UNAVAILABLE else newState
  modifyGlobals fun g => { g with s_radioState := newState }
  if newState ≠ g.s_radioState then
    RIL_onUnsolicitedResponse .RIL_UNSOL_RESPONSE_RADIO_STATE_CHANGED
    RIL_onUnsolicitedResponse .RIL_UNSOL_RESPONSE_SIM_STATUS_CHANGED
    if newState = .SIM_READY then
      onSIMReady

end UniRil.Sim
