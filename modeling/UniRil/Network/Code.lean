import UniRil.Data.State
import UniRil.Decimal
import UniRil.Lib.Programs

/-!
# Mode switches (ril_network.c)

SET_PREFERRED_NETWORK_TYPE and SET_RADIO_CAPABILITY on a two-SIM modem, as programs whose actions are
accesses to shared data, locks, AT commands and answers to requests.
-/

namespace UniRil.Network

open Programs
open Data (RIL_SOCKET_ID)

abbrev RIL_Token := Nat

/-! ## Constants -/

def TD_LTE : Int := 1
def LTE_FDD : Int := 2
def TD_LTE_AND_LTE_FDD : Int := 3
def LTE_FDD_AND_W_AND_GSM : Int := 4
def TD_LTE_AND_W_AND_GSM : Int := 5
def TD_LTE_AND_LTE_FDD_AND_W_AND_GSM : Int := 6
def TD_LTE_AND_TD_AND_GSM : Int := 7
def TD_LTE_AND_LTE_FDD_AND_TD_AND_GSM : Int := 8
def TD_LTE_AND_LTE_FDD_AND_W_AND_TD_AND_GSM : Int := 9
def GSM_ONLY : Int := 10
def WCDMA_ONLY : Int := 11
def TD_ONLY : Int := 12
def TD_AND_GSM : Int := 13
def WCDMA_AND_GSM : Int := 14
def PRIMARY_GSM_ONLY : Int := 15
def PRIMARY_WCDMA_ONLY : Int := 18
def PRIMARY_TD_AND_WCDMA : Int := 20
def TD_LTE_AND_LTE_FDD_AND_GSM : Int := 21
def PRIMARY_WCDMA_AND_GSM : Int := 22
def TD_LTE_AND_LTE_FDD_WCDMA : Int := 24
def NONE : Int := 254
def TD_AND_WCDMA : Int := 255

inductive ModemConfig
  | LWG_G
  | LWG_WG
  | W_G
  | LWG_LWG
  | LG_G
  | WG_WG
  deriving DecidableEq

inductive RIL_Errno
  | RIL_E_SUCCESS
  | RIL_E_GENERIC_FAILURE
  | RIL_E_INVALID_STATE
  | RIL_E_REQUEST_NOT_SUPPORTED
  deriving DecidableEq

def RC_PHASE_CONFIGURED : Int := 0
def RC_PHASE_START : Int := 1
def RC_PHASE_APPLY : Int := 2
def RC_PHASE_FINISH : Int := 4

def RC_STATUS_SUCCESS : Int := 1
def RC_STATUS_FAIL : Int := 2

structure RIL_RadioCapability where
  version : Int
  session : Int
  phase : Int
  rat : Int
  logicalModemUuid : List Byte
  status : Int
  deriving DecidableEq

/-! ## Data -/

/-- What stays as it is after the start. -/
structure Config where
  s_isLTE : Bool
  s_modemConfig : ModemConfig
  s_modem : List Byte
  /-- The property `MODEM_CONFIG_PROP`. -/
  modemConfig : List Byte

/-- The shared data, with the texts of `MODEM_WORKMODE_PROP` and `PRIMARY_SIM_PROP`. -/
structure Globals where
  s_multiModeSim : RIL_SOCKET_ID
  s_workMode : RIL_SOCKET_ID → Int
  s_requestSetRC : RIL_SOCKET_ID → Int
  s_sessionId : RIL_SOCKET_ID → Int
  s_radioAccessFamily : RIL_SOCKET_ID → Int
  workModeProp : List Byte
  primarySimProp : List Byte

/-- `1 - socket_id` -/
def otherSim : RIL_SOCKET_ID → RIL_SOCKET_ID
  | .RIL_SOCKET_1 => .RIL_SOCKET_2
  | .RIL_SOCKET_2 => .RIL_SOCKET_1

def simNumber : RIL_SOCKET_ID → Int
  | .RIL_SOCKET_1 => 0
  | .RIL_SOCKET_2 => 1

/-- `"%d,%d"` -/
def pairText (a b : Int) : List Byte := decimal a ++ 44 :: decimal b

/-- What `s_workMode` is as a text. -/
def Globals.workModeText (g : Globals) : List Byte := pairText (g.s_workMode .RIL_SOCKET_1) (g.s_workMode .RIL_SOCKET_2)

/-! ## Actions -/

/-- `+CME ERROR: 3` is the one error that is told from the others. -/
inductive Answer
  | ok
  | cmeError3
  | error
  deriving DecidableEq

/-- What is read of the rest of the RIL. -/
inductive Query
  /-- The property is "true". -/
  | ENGTEST_ENABLE_PROP
  | FIXED_SLOT_PROP
  /-- `s_radioState[simId] == RADIO_STATE_OFF` -/
  | radioStateOff (simId : RIL_SOCKET_ID)
  /-- `s_presentSIMCount == 2` -/
  | twoPresentSIMs
  /-- `s_dataAllowed[socket_id] == 1` -/
  | dataAllowed (socket_id : RIL_SOCKET_ID)
  /-- `isSimPresent(0) == 0` -/
  | simAbsent
  deriving DecidableEq

inductive Act
  | get
  /-- A store to the shared data. -/
  | modify (f : Globals → Globals)
  | test (q : Query)
  /-- Both mutexes of `s_radioPowerMutex`, in their order. -/
  | lockRadioPower
  | unlockRadioPower
  | lockWorkMode
  | unlockWorkMode
  /-- A command on a channel of the SIM, whose answer is not looked at. -/
  | send (simId : RIL_SOCKET_ID) (cmd : List Byte)
  /-- A command whose answer decides. -/
  | ask (simId : RIL_SOCKET_ID) (cmd : List Byte)
  | addAsyncCmdList (socket_id : RIL_SOCKET_ID) (t : RIL_Token) (data : Option RIL_RadioCapability)
  | removeAsyncCmdList (t : RIL_Token)
  | RIL_onRequestComplete (t : RIL_Token) (e : RIL_Errno) (response : Option RIL_RadioCapability)
  | voiceNetworkStateChanged (socket_id : RIL_SOCKET_ID)
  /-- RIL_UNSOL_RADIO_CAPABILITY with this session. -/
  | unsolRadioCapability (socket_id : RIL_SOCKET_ID) (session : Int)
  /-- applySetLTERadioCapability or applySetRadioCapability is called. -/
  | callApply (lte : Bool)

def Act.Reply : Act → Type
  | .get => Globals
  | .test _ => Bool
  | .ask _ _ => Answer
  | _ => Unit

abbrev NetProg := Prog Act Act.Reply

/-- A single action. -/
def act (a : Act) : NetProg a.Reply := perform a

def get : NetProg Globals := act .get
def modify (f : Globals → Globals) : NetProg Unit := act (.modify f)
def test (q : Query) : NetProg Bool := act (.test q)
def lockRadioPower : NetProg Unit := act .lockRadioPower
def unlockRadioPower : NetProg Unit := act .unlockRadioPower
def lockWorkMode : NetProg Unit := act .lockWorkMode
def unlockWorkMode : NetProg Unit := act .unlockWorkMode
def send (simId : RIL_SOCKET_ID) (cmd : List Byte) : NetProg Unit := act (.send simId cmd)
def ask (simId : RIL_SOCKET_ID) (cmd : List Byte) : NetProg Answer := act (.ask simId cmd)

def addAsyncCmdList (socket_id : RIL_SOCKET_ID) (t : RIL_Token) (data : Option RIL_RadioCapability) : NetProg Unit :=
  act (.addAsyncCmdList socket_id t data)

def removeAsyncCmdList (t : RIL_Token) : NetProg Unit := act (.removeAsyncCmdList t)

def RIL_onRequestComplete (t : RIL_Token) (e : RIL_Errno) (response : Option RIL_RadioCapability) : NetProg Unit :=
  act (.RIL_onRequestComplete t e response)

def property_set_workMode (text : List Byte) : NetProg Unit := modify fun g => { g with workModeProp := text }

/-! ## SET_PREFERRED_NETWORK_TYPE -/

def isPrimaryCardWorkMode (workMode : Int) : Bool :=
  !(workMode = GSM_ONLY || workMode = WCDMA_ONLY || workMode = WCDMA_AND_GSM || workMode = TD_AND_WCDMA ||
    workMode = NONE)

/-- `strstr` finds the text. -/
def strstr (s sub : List Byte) : Bool := s.tails.any sub.isPrefixOf

def getMultiMode (cfg : Config) : Int :=
  if cfg.modemConfig = [] then WCDMA_AND_GSM
  else if strstr cfg.modemConfig (ascii "TL_LF_TD_W_G") then TD_LTE_AND_LTE_FDD_AND_W_AND_TD_AND_GSM
  else if strstr cfg.modemConfig (ascii "TL_LF_W_G") then TD_LTE_AND_LTE_FDD_AND_W_AND_GSM
  else if strstr cfg.modemConfig (ascii "TL_TD_G") then TD_LTE_AND_TD_AND_GSM
  else if cfg.modemConfig = ascii "W_G,G" then WCDMA_AND_GSM
  else if cfg.modemConfig = ascii "W_G,W_G" then PRIMARY_WCDMA_AND_GSM
  else if cfg.modemConfig = ascii "TL_LF_G,G" then TD_LTE_AND_LTE_FDD_AND_GSM
  else 0

/-- The first `switch` of requestSetLTEPreferredNetType; `multi` is `socket_id == s_multiModeSim`. The
numbers are the `NT_*` ones. -/
def engineerType (cfg : Config) (multi : Bool) (data : Int) : Int :=
  if data = 51 then TD_LTE
  else if data = 52 then LTE_FDD
  else if data = 53 then TD_LTE_AND_LTE_FDD
  else if data = 54 then LTE_FDD_AND_W_AND_GSM
  else if data = 55 then TD_LTE_AND_W_AND_GSM
  else if data = 56 then TD_LTE_AND_LTE_FDD_AND_W_AND_GSM
  else if data = 57 then TD_LTE_AND_TD_AND_GSM
  else if data = 58 then TD_LTE_AND_LTE_FDD_AND_TD_AND_GSM
  else if data = 59 then TD_LTE_AND_LTE_FDD_AND_W_AND_TD_AND_GSM
  else if data = 60 then if cfg.s_modemConfig ≠ .LWG_LWG ∧ multi then PRIMARY_GSM_ONLY else GSM_ONLY
  else if data = 61 then
    if (cfg.s_modemConfig = .LWG_WG ∨ cfg.s_modemConfig = .WG_WG) ∧ multi then PRIMARY_WCDMA_ONLY else WCDMA_ONLY
  else if data = 62 then TD_ONLY
  else if data = 63 then TD_AND_GSM
  else if data = 64 then
    if cfg.s_modemConfig = .LWG_WG then if multi then PRIMARY_WCDMA_AND_GSM else TD_AND_WCDMA
    else if cfg.s_modemConfig = .WG_WG then if multi then PRIMARY_WCDMA_AND_GSM else WCDMA_AND_GSM
    else WCDMA_AND_GSM
  else if data = 65 then if cfg.s_modemConfig = .LWG_WG ∧ multi then PRIMARY_TD_AND_WCDMA else TD_AND_WCDMA
  else if data = 66 then TD_LTE_AND_LTE_FDD_AND_GSM
  else 0

/-- The second `switch`; the numbers are the `NETWORK_MODE_*` ones. -/
def frameworkType (cfg : Config) (multi : Bool) (data : Int) : Int :=
  if data = 9 ∨ data = 23 then getMultiMode cfg
  else if data = 0 then
    if cfg.s_modemConfig = .LWG_WG then if multi then PRIMARY_TD_AND_WCDMA else TD_AND_WCDMA
    else if cfg.s_modemConfig = .WG_WG then if multi then PRIMARY_WCDMA_AND_GSM else WCDMA_AND_GSM
    else
      let mode := getMultiMode cfg
      if mode = TD_LTE_AND_LTE_FDD_AND_W_AND_TD_AND_GSM then TD_AND_WCDMA
      else if mode = TD_LTE_AND_LTE_FDD_AND_W_AND_GSM then WCDMA_AND_GSM
      else if mode = TD_LTE_AND_TD_AND_GSM then TD_AND_GSM
      else mode
  else if data = 1 then if cfg.s_modemConfig ≠ .LWG_LWG ∧ multi then PRIMARY_GSM_ONLY else GSM_ONLY
  else if data = 11 then
    let mode := getMultiMode cfg
    if mode = TD_LTE_AND_LTE_FDD_AND_W_AND_TD_AND_GSM ∨ mode = TD_LTE_AND_LTE_FDD_AND_W_AND_GSM ∨
        mode = TD_LTE_AND_LTE_FDD_AND_GSM then TD_LTE_AND_LTE_FDD
    else if mode = TD_LTE_AND_TD_AND_GSM then TD_LTE
    else mode
  else if data = 2 then
    if (cfg.s_modemConfig = .LWG_WG ∨ cfg.s_modemConfig = .WG_WG) ∧ multi then PRIMARY_WCDMA_ONLY else WCDMA_ONLY
  else if data = 12 then TD_LTE_AND_LTE_FDD_WCDMA
  else 0

/-- The loop at `again:`, the same in both functions: true when the command was taken. So many retries
are left; the time-out of the entry is 120 s. -/
def sendTestMode (socket_id : RIL_SOCKET_ID) (t : RIL_Token) (data : Option RIL_RadioCapability) (cmd : List Byte) :
    Nat → NetProg Bool
  | 0 => do
    addAsyncCmdList socket_id t data
    let answer ← ask socket_id cmd
    if answer = .ok then pure true
    else
      removeAsyncCmdList t
      pure false
  | retries + 1 => do
    addAsyncCmdList socket_id t data
    let answer ← ask socket_id cmd
    if answer = .ok then pure true
    else if answer = .cmeError3 then
      removeAsyncCmdList t
      sendTestMode socket_id t data cmd retries
    else
      removeAsyncCmdList t
      pure false

/-- The end at `done:`. -/
def setLTEPreferredDone (t : RIL_Token) (errType : RIL_Errno) : NetProg Int := do
  unlockWorkMode
  RIL_onRequestComplete t errType none
  pure (-1)

/-- From the test of `type == workMode` on. -/
def setLTEPreferredMode (socket_id : RIL_SOCKET_ID) (t : RIL_Token) (type workMode : Int) : NetProg Int := do
  if type = workMode then setLTEPreferredDone t .RIL_E_SUCCESS
  else
    let g ← get
    let numToStr := match socket_id with
      | .RIL_SOCKET_1 => pairText type (g.s_workMode .RIL_SOCKET_2)
      | .RIL_SOCKET_2 => pairText (g.s_workMode .RIL_SOCKET_1) type
    let taken ← sendTestMode socket_id t none (ascii "AT+SPTESTMODE=" ++ numToStr) 3
    if taken then
      modify fun g => { g with s_workMode := Function.update g.s_workMode socket_id type }
      property_set_workMode numToStr
      unlockWorkMode
      pure 0
    else setLTEPreferredDone t .RIL_E_GENERIC_FAILURE

/-- From the test of the type on. -/
def setLTEPreferredType (cfg : Config) (socket_id : RIL_SOCKET_ID) (t : RIL_Token) (type : Int) : NetProg Int := do
  if type = 0 then setLTEPreferredDone t .RIL_E_GENERIC_FAILURE
  else
    let g ← get
    let workMode := g.s_workMode socket_id
    if cfg.s_modemConfig = .LWG_G ∨ cfg.s_modemConfig = .W_G ∨ cfg.s_modemConfig = .LG_G then
      if workMode = NONE ∨ workMode = GSM_ONLY then setLTEPreferredDone t .RIL_E_SUCCESS
      else setLTEPreferredMode socket_id t type workMode
    else if cfg.s_modemConfig = .LWG_WG then
      let g ← get
      if g.s_multiModeSim ≠ socket_id ∧ isPrimaryCardWorkMode type = true then setLTEPreferredDone t .RIL_E_SUCCESS
      else setLTEPreferredMode socket_id t type workMode
    else setLTEPreferredMode socket_id t type workMode

def requestSetLTEPreferredNetType (cfg : Config) (socket_id : RIL_SOCKET_ID) (data : Int) (t : RIL_Token) :
    NetProg Int := do
  let engineer ← test .ENGTEST_ENABLE_PROP
  lockWorkMode
  let g ← get
  let multi := decide (socket_id = g.s_multiModeSim)
  setLTEPreferredType cfg socket_id t (if engineer then engineerType cfg multi data else frameworkType cfg multi data)

def setPreferredDone (t : RIL_Token) (errType : RIL_Errno) : NetProg Unit := do
  unlockWorkMode
  RIL_onRequestComplete t errType none

/-- AT+SAUTOATT, on a modem without LTE. -/
def sendAutoAttach (cfg : Config) (socket_id : RIL_SOCKET_ID) : NetProg Unit :=
  if cfg.s_isLTE then pure ()
  else do
    let allowed ← test (.dataAllowed socket_id)
    if allowed then send socket_id (ascii "AT+SAUTOATT=1")
    else match socket_id with
      | .RIL_SOCKET_1 => send socket_id (ascii "AT+SAUTOATT=0")
      | .RIL_SOCKET_2 => do
        let absent ← test .simAbsent
        send socket_id (if absent then ascii "AT+SAUTOATT=1" else ascii "AT+SAUTOATT=0")

/-- The type of AT^SYSCONFIG and the work mode; the type is 0 where none is set. -/
def preferredType (cfg : Config) (data : Int) : Int × Int :=
  if data = 0 then (2, WCDMA_AND_GSM)
  else if data = 1 then (13, PRIMARY_GSM_ONLY)
  else if data = 2 then
    if cfg.s_modem = ascii "t" then (15, TD_ONLY)
    else if cfg.s_modem = ascii "w" then (14, WCDMA_ONLY)
    else (0, 0)
  else (0, 0)

def requestSetPreferredNetType (cfg : Config) (socket_id : RIL_SOCKET_ID) (data : Int) (t : RIL_Token) :
    NetProg Unit := do
  act (.voiceNetworkStateChanged socket_id)
  lockWorkMode
  let type := (preferredType cfg data).1
  let workmode := (preferredType cfg data).2
  if type = 0 then setPreferredDone t .RIL_E_GENERIC_FAILURE
  else
    let g ← get
    if g.s_workMode socket_id = NONE ∨ g.s_workMode socket_id = GSM_ONLY then setPreferredDone t .RIL_E_SUCCESS
    else if g.s_workMode socket_id = workmode then setPreferredDone t .RIL_E_SUCCESS
    else
      sendAutoAttach cfg socket_id
      let answer ← ask socket_id (ascii "AT^SYSCONFIG=" ++ decimal type ++ ascii ",3,2,4")
      if answer = .ok then
        modify fun g => { g with s_workMode := Function.update g.s_workMode socket_id workmode }
        let g ← get
        property_set_workMode g.workModeText
        setPreferredDone t .RIL_E_SUCCESS
      else setPreferredDone t .RIL_E_GENERIC_FAILURE

/-! ## SET_RADIO_CAPABILITY -/

/-- `while (rat)`, which a number of 32 bits leaves after 32 rounds. -/
def bitCountLoop : Nat → Int → Nat
  | 0, _ => 0
  | n + 1, rat => if rat = 0 then 0 else (if rat.tmod 2 = 1 then 1 else 0) + bitCountLoop n (rat.tdiv 2)

def bitCount (rat : Int) : Nat := bitCountLoop 32 rat

def isMaxRat (g : Globals) (rat : Int) : Bool :=
  bitCount rat = max (bitCount (g.s_radioAccessFamily .RIL_SOCKET_1)) (bitCount (g.s_radioAccessFamily .RIL_SOCKET_2))

/-- `(rat & mask) == mask` -/
def hasBits (rat : Int) (mask : BitVec 32) : Bool := BitVec.ofInt 32 rat &&& mask = mask

def RAF_UMTS : BitVec 32 := 1 <<< 3
def RAF_LTE : BitVec 32 := 1 <<< 14
def RAF_TD_SCDMA : BitVec 32 := 1 <<< 17

def sendUnsolRadioCapability : NetProg Unit := do
  let g ← get
  act (.unsolRadioCapability g.s_multiModeSim (g.s_sessionId g.s_multiModeSim))
  modify fun g => { g with s_sessionId := Function.update g.s_sessionId g.s_multiModeSim 0 }
  let g ← get
  act (.unsolRadioCapability (otherSim g.s_multiModeSim) (g.s_sessionId (otherSim g.s_multiModeSim)))
  modify fun g => { g with s_sessionId := Function.update g.s_sessionId (otherSim g.s_multiModeSim) 0 }

/-- The work modes of the SIMs are swapped. -/
def setWorkMode : NetProg Unit := do
  let g ← get
  let singleModeSim := otherSim g.s_multiModeSim
  lockWorkMode
  modify fun g =>
    let workMode := g.s_workMode singleModeSim
    let s_workMode := Function.update g.s_workMode singleModeSim (g.s_workMode g.s_multiModeSim)
    { g with s_workMode := Function.update s_workMode g.s_multiModeSim workMode }
  let g ← get
  property_set_workMode g.workModeText
  unlockWorkMode

/-- The SIM that `rat` makes the primary one, when it is not the primary one already. -/
def newMultiModeSim (socket_id s_multiModeSim : RIL_SOCKET_ID) (maxRat : Bool) : Option RIL_SOCKET_ID :=
  if maxRat then if s_multiModeSim ≠ socket_id then some socket_id else none
  else if s_multiModeSim = socket_id then some (otherSim socket_id) else none

def setMultiModeSim (simId : RIL_SOCKET_ID) : NetProg Unit := modify fun g => { g with s_multiModeSim := simId }

def property_set_primarySim : NetProg Unit :=
  modify fun g => { g with primarySimProp := decimal (simNumber g.s_multiModeSim) }

/-- 0: it failed, 1: the URC is waited for, 2: nothing to change. -/
def applySetLTERadioCapability (rc : RIL_RadioCapability) (socket_id : RIL_SOCKET_ID) (t : RIL_Token) : NetProg Int := do
  let g ← get
  match newMultiModeSim socket_id g.s_multiModeSim (isMaxRat g rc.rat) with
  | none => pure 2
  | some simId =>
    setMultiModeSim simId
    let g ← get
    send socket_id (ascii "AT+SPSWITCHDATACARD=" ++ decimal (simNumber g.s_multiModeSim) ++ ascii ",1")
    property_set_primarySim
    setWorkMode
    let g ← get
    let taken ← sendTestMode socket_id t (some rc) (ascii "AT+SPTESTMODE=" ++ g.workModeText) 3
    pure (if taken then 1 else 0)

/-- The first loop: false when a radio cannot be switched off. -/
def shutDownRadios : List RIL_SOCKET_ID → NetProg Bool
  | [] => pure true
  | simId :: rest => do
    let off ← test (.radioStateOff simId)
    if off then shutDownRadios rest
    else
      let answer ← ask simId (ascii "AT+SFUN=5")
      if answer = .ok then shutDownRadios rest else pure false

/-- The second loop: false when a radio cannot be switched on. -/
def startRadios (cmd : List Byte) : List RIL_SOCKET_ID → NetProg Bool
  | [] => pure true
  | simId :: rest => do
    let off ← test (.radioStateOff simId)
    if off then startRadios cmd rest
    else
      send simId cmd
      let two ← test .twoPresentSIMs
      let g ← get
      send simId (if two ∧ simId ≠ g.s_multiModeSim then ascii "AT+SAUTOATT=0" else ascii "AT+SAUTOATT=1")
      let answer ← ask simId (ascii "AT+SFUN=4")
      if answer = .ok then startRadios cmd rest else pure false

def sims : List RIL_SOCKET_ID := [.RIL_SOCKET_1, .RIL_SOCKET_2]

def applySetRadioCapability (rc : RIL_RadioCapability) (socket_id : RIL_SOCKET_ID) : NetProg Int := do
  let g ← get
  match newMultiModeSim socket_id g.s_multiModeSim
      (hasBits rc.rat RAF_UMTS || hasBits rc.rat RAF_TD_SCDMA || hasBits rc.rat RAF_LTE) with
  | none => pure 1
  | some simId =>
    setMultiModeSim simId
    property_set_primarySim
    let down ← shutDownRadios sims
    if down then
      setWorkMode
      let g ← get
      let started ← startRadios (ascii "AT+SPTESTMODEM=" ++ g.workModeText) sims
      pure (if started then 1 else 0)
    else pure 0

/-- The switch, when both SIMs have asked for it. -/
def runSwitch (cfg : Config) (responseRc : RIL_RadioCapability) (socket_id : RIL_SOCKET_ID) (t : RIL_Token) : NetProg Unit := do
  lockRadioPower
  act (.callApply cfg.s_isLTE)
  if cfg.s_isLTE then
    let ret ← applySetLTERadioCapability responseRc socket_id t
    if ret ≤ 0 then
      unlockRadioPower
      RIL_onRequestComplete t .RIL_E_GENERIC_FAILURE (some responseRc)
    else if ret = 2 then
      unlockRadioPower
      RIL_onRequestComplete t .RIL_E_SUCCESS (some responseRc)
      sendUnsolRadioCapability
    else pure ()
  else
    let ret ← applySetRadioCapability responseRc socket_id
    unlockRadioPower
    if ret > 0 then
      RIL_onRequestComplete t .RIL_E_SUCCESS (some responseRc)
      sendUnsolRadioCapability
    else RIL_onRequestComplete t .RIL_E_GENERIC_FAILURE (some responseRc)

def requestSetRadioCapability (cfg : Config) (socket_id : RIL_SOCKET_ID) (rc : RIL_RadioCapability) (t : RIL_Token) :
    NetProg Unit := do
  if rc.phase = RC_PHASE_START then
    modify fun g => { g with
      s_sessionId := Function.update g.s_sessionId socket_id rc.session
      s_radioAccessFamily := Function.update g.s_radioAccessFamily socket_id rc.rat }
    RIL_onRequestComplete t .RIL_E_SUCCESS (some { rc with status := RC_STATUS_SUCCESS })
  else if rc.phase = RC_PHASE_FINISH then
    modify fun g => { g with s_sessionId := Function.update g.s_sessionId socket_id 0 }
    RIL_onRequestComplete t .RIL_E_SUCCESS (some { rc with phase := RC_PHASE_CONFIGURED, status := RC_STATUS_SUCCESS })
  else if rc.phase = RC_PHASE_APPLY then
    modify fun g => { g with
      s_sessionId := Function.update g.s_sessionId socket_id rc.session
      s_requestSetRC := Function.update g.s_requestSetRC socket_id 1 }
    let g ← get
    let responseRc := { rc with status := RC_STATUS_SUCCESS }
    if sims.any (g.s_requestSetRC · ≠ 1) then RIL_onRequestComplete t .RIL_E_SUCCESS (some responseRc)
    else
      modify fun g => { g with s_requestSetRC := fun _ => 0 }
      runSwitch cfg responseRc socket_id t
  else
    modify fun g => { g with s_sessionId := Function.update g.s_sessionId socket_id rc.session }
    RIL_onRequestComplete t .RIL_E_INVALID_STATE none

/-! ## The requests -/

inductive Request
  | RIL_REQUEST_SET_PREFERRED_NETWORK_TYPE (data : Int)
  | RIL_REQUEST_SET_RADIO_CAPABILITY (rc : RIL_RadioCapability)
  deriving DecidableEq

/-- The cases of processNetworkRequests. -/
def processNetworkRequests (cfg : Config) (socket_id : RIL_SOCKET_ID) (t : RIL_Token) : Request → NetProg Unit
  | .RIL_REQUEST_SET_PREFERRED_NETWORK_TYPE data =>
    if cfg.s_isLTE then do
      lockRadioPower
      let err ← requestSetLTEPreferredNetType cfg socket_id data t
      if err < 0 then unlockRadioPower else pure ()
    else requestSetPreferredNetType cfg socket_id data t
  | .RIL_REQUEST_SET_RADIO_CAPABILITY rc => do
    let fixed ← test .FIXED_SLOT_PROP
    if fixed then RIL_onRequestComplete t .RIL_E_REQUEST_NOT_SUPPORTED none
    else requestSetRadioCapability cfg socket_id rc t

end UniRil.Network
