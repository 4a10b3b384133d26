import UniRil.Call.Requests
import UniRil.Data.Slots
import UniRil.NetworkRequests.CellInfo
import UniRil.NetworkRequests.NetworkList
import UniRil.NetworkRequests.Operator
import UniRil.NetworkRequests.Registration
import UniRil.RadioSwitch

/-!
# The radio (ril_network.c)

What the network requests share, and the handlers that turn the radio on and off. Before it is turned on the status of
every card that is not known is read.
-/

namespace UniRil.NetworkRequests

open Flows Handlers
open AtTok (Line)
open Network (ModemConfig)
open Sim (getProperty RadioState)

/-! ## Globals -/

/-- What stays as it is after the start. -/
structure Build where
  channels : RequestThreads.Channels.Config
  network : Network.Config
  s_roModemConfig : ModemConfig

def Build.simCount (b : Build) : Nat := b.channels.s_simCount

/-- The arrays are functions of the SIM; the operators and the registration are those of the SIM of the request. -/
structure Globals where
  slots : Nat → Sim.Slot
  pdps : Nat → Data.Sim
  shared : Data.Shared
  calls : Call.Requests.Globals
  registration : RegistrationGlobals
  operators : Operators
  s_multiModeSim : Nat
  s_workMode : Nat → Int
  s_desiredRadioState : Nat → Int
  s_requestSetRC : Nat → Int
  s_sessionId : Nat → Int
  s_radioAccessFamily : Nat → Int
  s_dataAllowed : Nat → Int
  s_radioOnError : Nat → Bool
  s_imsBearerEstablished : Nat → Int
  s_presentSIMCount : Int
  s_setNetworkId : Int
  s_manualSearchNetworkId : Int
  ENGTEST_ENABLE_PROP : Line
  COPS_MODE_PROP : Line
  CEMODE_PROP : Line
  LTE_MANUAL_ATTACH_PROP : Line
  FIXED_SLOT_PROP : Line
  PRIMARY_SIM_PROP : Line
  MODEM_WORKMODE_PROP : Line
  /-- What getChannel returned. -/
  obtained : List Nat
  /-- What putChannel was called with. -/
  released : List Nat
  /-- The SIMs for which RADIO_POWER was put into the queue. -/
  queued : List Nat

/-- A name that the callee writes into a buffer of this size. -/
abbrev NameIn (size : Nat) := { name : Line // name.length < size }

/-- What comes from the other threads, from the services, from the stack and from the clock. -/
structure Outside where
  /-- What the others do while the radio waits for its SIM. -/
  whileWaiting : Globals → Globals
  /-- Whether AT+SFUN=4 runs into its time-out where it fails. -/
  timesOut : Bool
  /-- The channel of each SIM that is found idle. -/
  idle : Nat → Nat
  RIL_getONS : Line → Option OperatorName
  updatePlmn : (respLen : Nat) → Option Line → Option (NameIn respLen)
  updateNetworkList : UpdateNetworkList
  stale : Stale
  uninitialised : Uninitialised
  /-- `type` of requestGetPreferredNetType, and `numToStr` of a build with one SIM. -/
  type : Int
  numToStr : Line
  ril_nano_time : Nat
  /-- How many neighbouring cells have room on the stack. -/
  stackRoom : Nat

variable {ε : Type} (b : Build) (o : Outside) (socket_id : Nat)

/-- A function of ril_sim.c, on the cells of a SIM. -/
def onSlot {α : Type} (simId : Nat) (m : Handler Sim.Slot ε α) : Handler Globals ε α :=
  within (fun g => g.slots simId) (fun slot g => { g with slots := Function.update g.slots simId slot }) m

def getSIMStatus (simId : Nat) : Handler Globals ε Sim.SimStatus := onSlot simId (Sim.getSIMStatus false)

def setRadioState (newState : RadioState) : Handler Globals ε Unit := onSlot socket_id (Sim.setRadioState newState)

/-- The part that a switch works on. -/
def Globals.radios (g : Globals) : RadioSwitch.Radios where
  s_multiModeSim := g.s_multiModeSim
  s_workMode := g.s_workMode
  s_presentSIMCount := g.s_presentSIMCount
  s_radioState := fun simId => (g.slots simId).s_radioState
  PRIMARY_SIM_PROP := g.PRIMARY_SIM_PROP
  MODEM_WORKMODE_PROP := g.MODEM_WORKMODE_PROP
  obtained := g.obtained
  released := g.released

def Globals.setRadios (r : RadioSwitch.Radios) (g : Globals) : Globals :=
  { g with
    s_multiModeSim := r.s_multiModeSim
    s_workMode := r.s_workMode
    PRIMARY_SIM_PROP := r.PRIMARY_SIM_PROP
    MODEM_WORKMODE_PROP := r.MODEM_WORKMODE_PROP
    obtained := r.obtained
    released := r.released }

def onRadios {α : Type} (m : Handler RadioSwitch.Radios ε α) : Handler Globals ε α :=
  within Globals.radios Globals.setRadios m

/-! ## The radio -/

/-- 1 if the radio is on, 0 if it is off, and -1 where that is not known. -/
def isRadioOn : Handler Globals ε Int :=
  labelled (do
      let (r, line) ← askLine (ascii "AT+CFUN?") (ascii "+CFUN:") none
      let (ret, _) ← demand (readLine nextint line) (some r, none)
      at_response_free (some r)
      pure (if ret = 0 ∨ ret = 2 then 0 else if ret = 1 then 1 else -1))
    -- error:
    fun p => do
      at_response_free p.1
      pure (-1)

def readSIMState (simId : Nat) : Handler Globals ε Unit := do
  let channelID ← onRadios (RadioSwitch.getChannel o.idle simId)
  let _ ← getSIMStatus simId
  onRadios (RadioSwitch.putChannel b.channels (some channelID))

/-- The loop over the SIMs whose state is not known. -/
def readSIMStates : List Nat → Handler Globals ε Unit
  | [] => pure ()
  | simId :: rest => do
    let g ← getGlobals
    if (g.slots simId).s_isSimPresent = .SIM_UNKNOWN then
      readSIMState b o simId
    readSIMStates rest

def Globals.countPresent (g : Globals) : Int :=
  (List.range b.simCount).countP fun simId => (g.slots simId).s_isSimPresent = .PRESENT

def initSIMPresentState : Handler Globals ε Unit := do
  readSIMStates b o (List.range b.simCount)
  modifyGlobals fun g => { g with s_presentSIMCount := g.countPresent b }

def putPDP (i : Int) (g : Globals) : Globals :=
  { g with
    pdps := Function.update g.pdps socket_id ((g.pdps socket_id).putPDP i)
    shared := g.shared.setChannel i fun c => { c with count := 0, pdpState := false } }

/-- The contexts in use are given back. -/
def putBusyPDPs (g : Globals) : Globals :=
  [0, 1, 2, 3, 4, 5].foldl
    (fun g i =>
      if g.s_dataAllowed socket_id ≠ 0 ∧ ((g.pdps socket_id).s_PDP i).state = .PDP_BUSY then putPDP socket_id i g
      else g)
    g

/-- With two SIMs the radio is left alone where a card is missing; whether the other SIM is switched on then. -/
def missingCard (g : Globals) : Option Bool :=
  let other := 1 - socket_id
  if b.simCount ≠ 2 then none
  else if g.s_presentSIMCount = 0 then
    if (g.slots other).s_isSimPresent = .SIM_UNKNOWN then some false
    else if socket_id ≠ g.s_multiModeSim ∧ getProperty (g.slots other).SIM_ENABLED_PROP (ascii "1") = ascii "1" then
      some ((g.slots other).s_radioState = .OFF ∨ (g.slots other).s_radioState = .UNAVAILABLE)
    else none
  else if g.s_presentSIMCount = 1 ∧ (g.slots socket_id).s_isSimPresent = .ABSENT then some false
  else none

/-- The other SIM becomes the primary one. -/
def swapPrimarySim (g : Globals) : Globals :=
  { g with s_multiModeSim :=
      if b.simCount ≠ 2 then g.s_multiModeSim
      else if g.s_multiModeSim = 0 then 1
      else if g.s_multiModeSim = 1 then 0
      else g.s_multiModeSim }

/-- The work modes, and once more where the modem refuses them with the error 15. -/
def sendWorkMode : Handler Globals ε Unit := do
  let g ← getGlobals
  let s ← at_send_command (RadioSwitch.buildWorkModeCmd b.channels g.s_workMode) none
  if ← unsuccessful s then
    if (s.p_response.map (·.finalResponse)) = some (ascii "+CME ERROR: 15") then
      modifyGlobals (swapPrimarySim b)
      onRadios (RadioSwitch.setWorkMode b.channels)
      let g ← getGlobals
      let _ ← at_send_command_NULL (RadioSwitch.buildWorkModeCmd b.channels g.s_workMode)
      RIL_onUnsolicitedResponse .RIL_EXT_UNSOL_RADIO_CAPABILITY_CHANGED
  at_response_free s.p_response

/-- The data card, on a modem with LTE. -/
def sendDataCard : Handler Globals ε Unit := do
  let g ← getGlobals
  if b.s_roModemConfig = .LWG_LWG then
    if socket_id = g.s_multiModeSim then
      let _ ← at_send_command_NULL (ascii "AT+SPSWDATA")
  else if g.s_presentSIMCount = 1 ∧ socket_id = g.s_multiModeSim then
    let s ← at_send_command (ascii "AT+SAUTOATT=1") none
    let _ ← unsuccessful s
    at_response_free s.p_response
  else if socket_id ≠ g.s_multiModeSim then
    if b.network.s_modemConfig = .WG_WG then
      let _ ← at_send_command_NULL
        (ascii "AT+SPSWITCHDATACARD=" ++ commas [(socket_id : Int), g.s_dataAllowed socket_id])
      if g.s_dataAllowed socket_id = 1 then
        let _ ← at_send_command_NULL (ascii "AT+SAUTOATT=1")
    else
      let _ ← at_send_command_NULL (ascii "AT+SPSWITCHDATACARD=" ++ commas [(socket_id : Int), 0])

def sendAttach : Handler Globals ε Unit := do
  let g ← getGlobals
  if b.network.s_isLTE then
    let _ ← at_send_command_NULL
      (ascii "AT+CEMODE=" ++ decimal (AtTok.atoi (getProperty g.CEMODE_PROP (ascii "1"))))
    sendDataCard b socket_id
    let _ ← at_send_command_NULL
      (snprintf AT_COMMAND_LEN (ascii "AT+SPLTEMANUATT=" ++ getProperty g.LTE_MANUAL_ATTACH_PROP (ascii "0")))
  else if g.s_presentSIMCount = 2 ∧ g.s_workMode socket_id = Network.GSM_ONLY then
    let _ ← at_send_command_NULL (ascii "AT+SAUTOATT=0")
  else
    let _ ← at_send_command_NULL (ascii "AT+SAUTOATT=1")

/-- AT+SFUN=4: some stacks fail and turn the radio on. -/
def turnOn : Handler Globals Pointer Pointer := do
  let s ← at_send_command (ascii "AT+SFUN=4") none
  if ← unsuccessful s then
    let on ← isRadioOn
    if on ≠ 1 then
      goto s.p_response
    if s.ok = false ∧ o.timesOut = true then
      modifyGlobals fun g => { g with s_radioOnError := Function.update g.s_radioOnError socket_id true }
      goto s.p_response
  setRadioState socket_id .SIM_NOT_READY
  pure s.p_response

def powerOff : Handler Globals Pointer Pointer := do
  let _ ← getSIMStatus socket_id
  let s ← at_send_command (ascii "AT+SFUN=5") none
  if ← unsuccessful s then
    goto s.p_response
  modifyGlobals (putBusyPDPs socket_id)
  setRadioState socket_id .OFF
  pure s.p_response

/-- The status of the card is read, and while the card is busy it is waited for. -/
def awaitCard : Handler Globals ε Unit := do
  let _ ← getSIMStatus socket_id
  let g ← getGlobals
  if (g.slots socket_id).s_sim_busy then
    modifyGlobals o.whileWaiting

/-- Nothing is left to do behind an answer. -/
def completePower (t : RIL_Token) (p_response : Pointer) : Handler Globals ε Unit := do
  at_response_free p_response
  RIL_onRequestComplete t .SUCCESS .NULL

def powerOn (t : RIL_Token) : Handler Globals Pointer Unit := do
  awaitCard o socket_id
  initSIMPresentState b o
  let g ← getGlobals
  if getProperty (g.slots socket_id).SIM_ENABLED_PROP (ascii "1") = ascii "0" then
    goto none
  match missingCard b socket_id g with
  | some switchOther => do
    if switchOther then
      modifyGlobals fun g => { g with queued := g.queued ++ [1 - socket_id] }
    RIL_onUnsolicitedResponse .RIL_UNSOL_RESPONSE_SIM_STATUS_CHANGED
    RIL_onRequestComplete t .SUCCESS .NULL
  | none => do
    sendWorkMode b
    sendAttach b socket_id
    let p_response ← turnOn o socket_id
    completePower t p_response

def requestRadioPower (data : Int) (t : RIL_Token) : Handler Globals ε Unit :=
  labelled (do
      modifyGlobals fun g => { g with s_desiredRadioState := Function.update g.s_desiredRadioState socket_id data }
      let g ← getGlobals
      if data = 0 then
        let p_response ← powerOff socket_id
        completePower t p_response
      else if 0 < data ∧ (g.slots socket_id).s_radioState = .OFF then
        powerOn b o socket_id t
      else
        completePower t none)
    -- error:
    fun p_response => do
      at_response_free p_response
      RIL_onRequestComplete t .GENERIC_FAILURE .NULL

def requestResetRadio (t : RIL_Token) : Handler Globals ε Unit :=
  labelled (do
      let s ← at_send_command (ascii "AT+CFUN=0") none
      if ← unsuccessful s then
        goto s.p_response
      at_response_free s.p_response
      setRadioState socket_id .OFF
      let s ← at_send_command (ascii "AT+CFUN=1") none
      if ← unsuccessful s then
        let on ← isRadioOn
        if on ≠ 1 then
          goto s.p_response
      setRadioState socket_id .SIM_NOT_READY
      at_response_free s.p_response
      RIL_onRequestComplete t .SUCCESS .NULL)
    -- error:
    fun p_response => do
      at_response_free p_response
      RIL_onRequestComplete t .GENERIC_FAILURE .NULL

def requestShutdown (t : RIL_Token) : Handler Globals ε Unit := do
  let calls ← within Globals.calls (fun calls g => { g with calls }) Call.Requests.all_calls
  if calls ≠ 0 then
    let _ ← at_send_command_NULL (ascii "ATH")
  let g ← getGlobals
  if (g.slots socket_id).s_radioState ≠ .OFF then
    let _ ← at_send_command_NULL (ascii "AT+SFUN=5")
  let _ ← at_send_command_NULL (ascii "AT+SFUN=3")
  setRadioState socket_id .UNAVAILABLE
  RIL_onRequestComplete t .SUCCESS .NULL

def requestSetEmergencyOnly (value : Int) (t : RIL_Token) : Handler Globals ε Unit :=
  labelled (do
      if value ≠ 1 ∧ value ≠ 0 then
        goto none
      let s ← at_send_command (ascii "AT+SPECCMOD=" ++ decimal value) none
      if ← unsuccessful s then
        goto s.p_response
      let on ← isRadioOn
      if value = 0 ∧ on = 1 then
        let _ ← at_send_command_NULL (ascii "AT+SFUN=5")
        let _ ← at_send_command_NULL (ascii "AT+SFUN=4")
      RIL_onRequestComplete t .SUCCESS .NULL
      at_response_free s.p_response)
    -- error:
    fun p_response => do
      RIL_onRequestComplete t .GENERIC_FAILURE .NULL
      at_response_free p_response

end UniRil.NetworkRequests
