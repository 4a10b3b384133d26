import UniRil.Sim.Authentication
import UniRil.Sim.Ownership

/-!
# Every SIM request

The switch of `processSimRequests`, what it means that a request is answered once, and on which answers
of the modem that depends.
-/

namespace UniRil.Sim

open Flows Handlers
open AtTok (Line)

variable {ε : Type}

/-- What the handlers do not decide themselves: memory outside their buffers, the slot, and what comes
for the waiting requests while AT+CLCK is out and after the handler. -/
structure Surroundings where
  beyond : Int → Line
  heap : Heap
  stackFits : Int → Bool
  stack : Int
  array : Nat → Int
  first : Bool
  meanwhile : List Arrival
  later : List Arrival

inductive Request
  | GET_SIM_STATUS (simmgr : Bool)
  | ENTER_SIM_PIN (strings : List (Option Line))
  | ENTER_SIM_PIN2 (pin2 : Option Line)
  | ENTER_SIM_PUK2 (strings : List (Option Line))
  | CHANGE_SIM_PIN (strings : List (Option Line))
  | CHANGE_SIM_PIN2 (strings : List (Option Line))
  | ENTER_NETWORK_DEPERSONALIZATION
  | GET_IMSI
  | SIM_IO (p_args : RIL_SIM_IO_v6)
  | QUERY_FACILITY_LOCK (strings : List (Option Line))
  | EXT_QUERY_FACILITY_LOCK (strings : List (Option Line))
  | SET_FACILITY_LOCK (strings : List (Option Line))
  | SIM_TRANSMIT_APDU_BASIC (p_args : RIL_SIM_APDU)
  | SIM_OPEN_CHANNEL (params : RIL_OpenChannelParams)
  | SIM_CLOSE_CHANNEL (session_id : Int)
  | SIM_TRANSMIT_APDU_CHANNEL (p_args : RIL_SIM_APDU)
  | SIM_AUTHENTICATION (sim_auth : RIL_SimAuthentication)
  | GET_SIMLOCK_REMAIN_TIMES (fac : Int)
  | SET_FACILITY_LOCK_FOR_USER (data : List (Option Line))
  | GET_SIMLOCK_STATUS (fac : Int)
  | GET_SIMLOCK_DUMMYS
  | GET_SIMLOCK_WHITE_LIST (data : List Int)
  | INIT_ISIM (strings : List (Option Line))
  | ENABLE_IMS
  | DISABLE_IMS
  | SIMMGR_SIM_POWER
  | SIM_GET_ATR
  | SIM_POWER_REAL (onOff : Int)
  | SET_SIM_CARD_POWER (onOff : Int)
  | GET_SUBSIDYLOCK_STATUS
  | GET_ICCID

def requestDepersonalization (t : RIL_Token) : Handler Slot ε Unit := do
  let g ← getGlobals
  if g.s_isSimPresent = .ABSENT then
    RIL_onRequestComplete t .INVALID_SIM_STATE .NULL
  else
    RIL_onRequestComplete t .REQUEST_NOT_SUPPORTED .NULL

def requestGetSimLockRemainTimes (fac : Int) (t : RIL_Token) : Handler Slot ε Unit := do
  let result ← getNetLockRemainTimes fac
  RIL_onRequestComplete t .SUCCESS (.ints [result])

def processSimRequests (e : Surroundings) (fuel : Nat) (r : Request) (t : RIL_Token) : Handler Slot ε Unit :=
  match r with
  | .GET_SIM_STATUS simmgr => requestGetSimStatus simmgr t
  | .ENTER_SIM_PIN strings => requestEnterSimPin strings t
  | .ENTER_SIM_PIN2 pin2 => requestEnterSimPin2 pin2 t
  | .ENTER_SIM_PUK2 strings => requestEnterSimPuk2 strings t
  | .CHANGE_SIM_PIN strings => requestChangeSimPin strings t
  | .CHANGE_SIM_PIN2 strings => requestChangeSimPin2 strings t
  | .ENTER_NETWORK_DEPERSONALIZATION => requestDepersonalization t
  | .GET_IMSI => requestGetIMSI t
  | Request.SIM_IO p_args => requestSIM_IO p_args t
  | .QUERY_FACILITY_LOCK strings => queryFacilityLock .QUERY_FACILITY_LOCK strings t
  | .EXT_QUERY_FACILITY_LOCK strings => queryFacilityLock .EXT_QUERY_FACILITY_LOCK strings t
  | .SET_FACILITY_LOCK strings => requestFacilityLock .SET_FACILITY_LOCK strings strings.length e.meanwhile t
  | .SIM_TRANSMIT_APDU_BASIC p_args => requestTransmitApduBasic e.beyond p_args t
  | .SIM_OPEN_CHANNEL params =>
    if params.p2 < 0 then requestOpenLogicalChannel e.array params t else requestSIMOpenChannelWithP2 e.array params t
  | .SIM_CLOSE_CHANNEL session_id => requestCloseLogicalChannel session_id t
  | .SIM_TRANSMIT_APDU_CHANNEL p_args => requestTransmitApdu e.beyond fuel p_args t
  | .SIM_AUTHENTICATION sim_auth => requestAuthentication e.heap sim_auth t
  | .GET_SIMLOCK_REMAIN_TIMES fac => requestGetSimLockRemainTimes fac t
  | .SET_FACILITY_LOCK_FOR_USER data => requestFacilityLockByUser e.first data t
  | .GET_SIMLOCK_STATUS fac => requestGetSimLockStatus fac t
  | .GET_SIMLOCK_DUMMYS => requestGetSimLockDummys t
  | .GET_SIMLOCK_WHITE_LIST data => requestGetSimLockWhiteList e.stackFits data t
  | .INIT_ISIM strings => requestInitISIM strings t
  | .ENABLE_IMS => switchIms (ascii "AT+IMSEN=1") t
  | .DISABLE_IMS => switchIms (ascii "AT+IMSEN=0") t
  | .SIMMGR_SIM_POWER => notifySIMStatus t
  | .SIM_GET_ATR => requestSIMGetAtr t
  -- the request keeps its token to itself
  | .SIM_POWER_REAL onOff => requestSIMPower onOff none
  | .SET_SIM_CARD_POWER onOff => requestSIMPower onOff t
  | .GET_SUBSIDYLOCK_STATUS => requestGetSubsidyLock e.stack t
  | .GET_ICCID => requestGetICCID t

/-! ## Answered once -/

/-- How many entries of the request wait for +CLCK. -/
def waiting (w : World Slot) (t : RIL_Token) : Nat := w.globals.s_timerList.countP fun p => p.1 = t

/-- A crash of the process may come behind the answer. -/
def OnceEnd (t : RIL_Token) : Exit ε → World Slot → Prop
  | .goto _, _ => False
  | .crashes, w => w.completions t = 1
  | .runsOn, _ => False

/-- Some number of rounds is enough for the handler. When the timer of the request has fired, the request
was answered once, and nothing is left that would answer it. -/
def AnsweredOnce (e : Surroundings) (r : Request) (t : Nat) (answers : Nat → Answer) (allocates : Nat → Bool)
    (g : Slot) : Prop :=
  ∃ fuel,
    wp
      (do
        processSimRequests e fuel r (some t)
        arriveAll e.later
        arrive (.timeout (some t)) : Handler Slot Empty Unit)
      (fun _ w => w.completions (some t) = 1 ∧ waiting w (some t) = 0) (OnceEnd (some t))
      (.start answers allocates g)

/-! ## What the answers say -/

def Answer.succeeds : Answer → Bool
  | .failed => false
  | .response finalResponse _ => Command.isFinalResponseSuccess finalResponse

/-- AT+CPIN? is refused with the error 0, and no line came with it. -/
def refusedWithoutError (a : Answer) : Prop :=
  ∃ f ls, a = .response f ls ∧ Command.isFinalResponseSuccess f = false ∧
    at_get_cme_error ⟨0, false, f, []⟩ = CME_SUCCESS ∧
    Command.intermediatesOf .SINGLELINE (ascii "+CPIN:") ls = []

/-- The first text of the line. -/
def textOf (responsePrefix : Line) (a : Answer) : Option Line :=
  (lineOf responsePrefix a).bind fun line =>
    (AtTok.at_tok_start (some line)).bind fun cur => (AtTok.at_tok_nextstr (some cur)).value

/-- What `simIoResponse` reads from a line. -/
def simIoFields (line : Option Line) : Option RIL_SIM_IO_Response :=
  (AtTok.at_tok_start line).bind fun cur =>
    let sw1 := AtTok.at_tok_nextint (some cur)
    sw1.value.bind fun n1 =>
      let sw2 := AtTok.at_tok_nextint sw1.p_cur
      sw2.value.bind fun n2 =>
        if AtTok.at_tok_hasmore sw2.p_cur then
          (AtTok.at_tok_nextstr sw2.p_cur).value.map fun text => { sw1 := n1, sw2 := n2, simResponse := some text }
        else some { sw1 := n1, sw2 := n2, simResponse := none }

def simIoResponseOf (responsePrefix : Line) (a : Answer) : Option RIL_SIM_IO_Response :=
  (lineOf responsePrefix a).bind fun line => simIoFields (some line)

/-- A part of a long record, and how many commands it took. -/
def partOf (g : Slot) (fileid : Int) (allocates : Bool) (answers : Nat → Answer) :
    Option (RIL_SIM_IO_Response × Nat) :=
  if isISIMFileId fileid ∧ g.s_simSessionId = -1 then none
  else if !allocates then none
  else
    (simIoResponseOf (if isISIMFileId fileid then ascii "+CRLA:" else ascii "+CRSM:") (answers 0)).bind fun sr =>
      if fileid = 12258 ∧ sr.sw1 = 105 ∧ sr.sw2 = 134 then
        (textOf (ascii "+CCID:") (answers 1)).map fun text =>
          ({ sw1 := 144, sw2 := 0, simResponse := some (swapPairs text) }, 2)
      else some (sr, 1)

/-- Each part that is read with a good status brings data. -/
def PartsBringData (g : Slot) (fileid : Int) : Nat → (Nat → Bool) → (Nat → Answer) → Prop
  | 0, _, _ => True
  | times + 1, allocates, answers =>
    ∀ sr used, partOf g fileid (allocates 0) answers = some (sr, used) → goodStatus sr.sw1 = true →
      sr.simResponse ≠ none ∧
        PartsBringData g fileid times (fun n => allocates (n + 1)) (fun n => answers (n + used))

/-- What `requestOpenLogicalChannel` reads behind the status word. -/
def selectDataOf (a : Answer) : Option Line :=
  (lineOf (ascii "+SPCCHO:") a).bind fun line =>
    (AtTok.at_tok_start (some line)).bind fun cur =>
      let channel := AtTok.at_tok_nextint (some cur)
      channel.value.bind fun _ =>
        if AtTok.at_tok_hasmore channel.p_cur then
          let statusWord := AtTok.at_tok_nextstr channel.p_cur
          statusWord.value.bind fun _ =>
            if AtTok.at_tok_hasmore statusWord.p_cur then (AtTok.at_tok_nextstr statusWord.p_cur).value else none
        else none

/-- The white list, where its head can be read. -/
def whiteListOf (stackFits : Int → Bool) (a : Answer) : Option (Except WhiteListError Line) :=
  (lineOf (ascii "+SPSMNW:") a).bind fun line =>
    (AtTok.at_tok_start (some line)).bind fun cur =>
      let type := AtTok.at_tok_nextstr (some cur)
      type.value.bind fun type_ret =>
        let numlocks := AtTok.at_tok_nextstr type.p_cur
        numlocks.value.map fun numlocks_ret => whiteListText stackFits type_ret numlocks_ret numlocks.p_cur

/-- The status of a lock and its class, if there is one, can be read from the line. -/
def lockLineReads (l : Line) : Bool :=
  ((AtTok.at_tok_start (some l)).bind fun cur =>
    let status := AtTok.at_tok_nextint (some cur)
    status.value.bind fun n =>
      if AtTok.at_tok_hasmore status.p_cur then (AtTok.at_tok_nextint status.p_cur).value else some n).isSome

/-- AT+CLCK is answered with a status that can be read. -/
def lockQueried : Answer → Bool
  | .failed => false
  | .response finalResponse lines =>
    Command.isFinalResponseSuccess finalResponse &&
      (Command.intermediatesOf .MULTILINE (ascii "+CLCK: ") lines).all lockLineReads

/-- The answer about the service of the fixed dialling numbers fits into its buffer. -/
def fdnFits (a : Answer) : Prop :=
  ∀ sr text, simIoResponseOf (ascii "+CRSM:") a = some sr → sr.simResponse = some text → 2 ≤ text.length →
    (convertHexToBin text).2.length ≤ 2

/-- What an arrival leaves of the list. -/
def leave (l : List (RIL_Token × Int)) : Arrival → List (RIL_Token × Int)
  | .CLCK _ => l.tail
  | .timeout t => l.eraseP (·.1 = t)

/-! ## When a request is answered once -/

/-- A lock: the class is there; the answer about the service fits; and the request for the fixed dialling
numbers has not been answered by a URC or the timer when AT+CLCK turns out to have failed. -/
def LockAnswerable (kind : FacilityRequest) (data : List (Option Line)) (count : Nat) (meanwhile : List Arrival)
    (t : RIL_Token) (answers : Nat → Answer) (allocates : Nat → Bool) (g : Slot) : Prop :=
  ∀ facility mode, count = 5 → given (data.getD 0 none) = some facility → given (data.getD 1 none) = some mode →
    (kind = .SET_FACILITY_LOCK → given (data.getD 2 none) ≠ none) →
    data.getD 3 none ≠ none ∧
      (allocates 0 = true → facility = ascii "FD" →
        if mode.head? = some 50 then
          lockQueried (answers 0) = true → g.s_appType ≠ .UNKNOWN → fdnFits (answers 1)
        else
          Answer.succeeds (answers 0) = false →
            t ∈ (meanwhile.foldl leave (g.s_timerList ++ [(t, AtTok.atoi mode)])).map (·.1))

def Answerable (e : Surroundings) (r : Request) (t : RIL_Token) (answers : Nat → Answer) (allocates : Nat → Bool)
    (g : Slot) : Prop :=
  match r with
  | .GET_SIM_STATUS simmgr =>
    (simmgr = true ∨ getProperty g.SIM_ENABLED_PROP (ascii "1") ≠ ascii "0") → g.s_radioState ≠ .UNAVAILABLE →
      ¬ refusedWithoutError (answers 0)
  | .CHANGE_SIM_PIN strings =>
    strings.length = 3 → cpinResultOf (answers 0) ≠ none → allocates 0 = true → Answer.succeeds (answers 1) = true →
      needCacheSimPin g → strings.getD 1 none ≠ none
  | Request.SIM_IO p_args =>
    p_args.command = READ_BINERY → 255 < p_args.p3 →
      PartsBringData g p_args.fileid ((p_args.p3 + 254) / 255).toNat allocates answers ∧
        (2 ^ 30 ≤ p_args.p3 → ∀ sr used, partOf g p_args.fileid (allocates 0) answers = some (sr, used) →
          goodStatus sr.sw1 = false)
  | .QUERY_FACILITY_LOCK strings | .EXT_QUERY_FACILITY_LOCK strings =>
    LockAnswerable .QUERY_FACILITY_LOCK
      [strings.getD 0 none, some (ascii "2"), strings.getD 1 none, strings.getD 2 none] (strings.length + 1) [] t
      answers allocates g
  | .SET_FACILITY_LOCK strings =>
    LockAnswerable .SET_FACILITY_LOCK strings strings.length e.meanwhile t answers allocates g
  | .SIM_OPEN_CHANNEL _ => ∀ data, selectDataOf (answers 0) = some data → data.length / 2 + 3 ≤ MAX_RESPONSE
  | .SIM_TRANSMIT_APDU_CHANNEL p_args => ∃ k, ¬ Retried e.beyond answers p_args (0, 0) k
  | .SIM_AUTHENTICATION sim_auth =>
    ∀ authData, sim_auth.authData = some authData →
      sim_auth.authContext = AUTH_CONTEXT_EAP_AKA ∨ sim_auth.authContext = AUTH_CONTEXT_EAP_SIM →
      allocates 0 = true → base64_decode authData ≠ none
  | .SET_FACILITY_LOCK_FOR_USER data => data.length = 2 → data.getD 1 none ≠ none
  | .GET_SIMLOCK_WHITE_LIST data =>
    data.length = 1 → allocates 0 = true → whiteListOf e.stackFits (answers 0) ≠ some (.error .overflow)
  | .SIM_POWER_REAL _ => False
  | .SET_SIM_CARD_POWER onOff => 0 ≤ onOff
  | _ => True

end UniRil.Sim
