import UniRil.Dispatch
import UniRil.Lib.Flows

/-!
# The memory of a request (ril_service.cpp, ril_mmgr.c)

A method of the service copies its arguments to the heap and passes them on, and `processRequest` ends with the
function that frees them. Where it cannot copy them all it frees what it has and answers the request.
-/

namespace UniRil.Libril.RequestMemory

open Flows Dispatch
open AtTok (Line)

abbrev Addr := Nat

inductive RIL_Errno
  | NO_MEMORY
  | INVALID_ARGUMENTS
  deriving DecidableEq

/-! ## The heap -/

/-- What goes out for a request. -/
inductive Event
  | sendErrorResponse (e : RIL_Errno)
  /-- A part of `processRequest`. -/
  | act (a : Act)

def Event.answers : Event → Bool
  | .sendErrorResponse _ => true
  | .act a => a.answers

structure Heap where
  /-- Whether the allocations to come succeed. -/
  allocates : Nat → Bool
  next : Addr
  /-- The blocks that are not freed. -/
  live : List Addr
  events : List Event

def Heap.start (allocates : Nat → Bool) : Heap := { allocates := allocates, next := 0, live := [], events := [] }

def Heap.asks (h : Heap) : Heap := { h with allocates := fun n => h.allocates (n + 1) }

def Heap.gives (h : Heap) : Heap := { h with next := h.next + 1, live := h.next :: h.live }

def Heap.frees (h : Heap) (a : Addr) : Heap := { h with live := h.live.erase a }

def Heap.note (h : Heap) (e : Event) : Heap := { h with events := h.events ++ [e] }

/-- A function that uses the heap; what is undefined in C crashes. -/
abbrev Mem := Flow Heap Empty

def calloc : Mem (Option Addr) := do
  let h ← get
  modify Heap.asks
  if h.allocates 0 = true then do
    modify Heap.gives
    pure (some h.next)
  else pure none

def free (p : Option Addr) : Mem Unit := do
  let h ← get
  match p with
  | none => pure ()
  | some a => if a ∈ h.live then modify fun h => h.frees a else crash

def note (e : Event) : Mem Unit := modify fun h => h.note e

def sendErrorResponse (e : RIL_Errno) : Mem Unit := note (.sendErrorResponse e)

/-- `memsetAndFreeStrings` and its like, one pointer after the other. -/
def freeAll : List (Option Addr) → Mem Unit
  | [] => pure ()
  | p :: ps => do
    free p
    freeAll ps

/-! ## What is freed -/

/-- The pointers of the structures. -/
inductive Field
  | address
  | uusInfo
  | uusData
  | path
  | data
  | pin2
  | aidPtr
  | aid
  | authData
  | number
  | ruleset
  | smsc
  | pdu
  | apn
  | protocol
  | username
  | user
  | password
  | value
  | allowed_carriers
  | excluded_carriers
  | sub_address
  | info
  | mcc
  | mnc
  | keyIdentifier
  | carrierKey
  deriving DecidableEq

/-- What `data` of a request points to. -/
inductive Data
  | NULL
  /-- Numbers, a text, or a structure without pointers. -/
  | block (a : Addr)
  /-- An array of pointers. -/
  | cells (a : Addr) (cells : List (Option Addr))
  | struct (a : Addr) (fields : List (Field × Option Addr))
  /-- `dataProfilePtrs`; each of its cells points into `dataProfiles`. -/
  | profiles (dataProfilePtrs dataProfiles : Addr) (rows : List (List (Option Addr)))
  /-- A `RIL_IMS_SMS_Message` of 3GPP. -/
  | imsGsm (rism : Addr) (pStrings : Addr) (texts : List (Option Addr))

/-- The pointer itself. -/
def Data.addr : Data → Option Addr
  | .NULL => none
  | .block a => some a
  | .cells a _ => some a
  | .struct a _ => some a
  | .profiles a _ _ => some a
  | .imsGsm a _ _ => some a

/-- The functions that free the block and look at nothing in it. -/
def freeBlock (d : Data) : Mem Unit := free d.addr

def freeStrings (d : Data) : Mem Unit :=
  match d with
  | .NULL => pure ()
  | .cells a cells => do
    freeAll cells
    free (some a)
  | _ => crash

/-- A pointer is read: the structure is there and has it. -/
def fieldOf (d : Data) (f : Field) : Mem (Option Addr) :=
  match d with
  | .struct _ fields => deref (fields.lookup f)
  | _ => crash

def freeFields (d : Data) : List Field → Mem Unit
  | [] => pure ()
  | f :: fs => do
    let p ← fieldOf d f
    free p
    freeFields d fs

def freeStruct (fs : List Field) (d : Data) : Mem Unit := do
  freeFields d fs
  free d.addr

def freeSIM_IO : Data → Mem Unit := freeStruct [.path, .data, .pin2, .aidPtr]
def freeCallForwardStatus : Data → Mem Unit := freeStruct [.number]
def freeWriteSmsToSim : Data → Mem Unit := freeStruct [.smsc, .pdu]
def freeSetInitialAttachApn : Data → Mem Unit := freeStruct [.apn, .protocol, .username, .password]
def freeIccApdu : Data → Mem Unit := freeStruct [.data]
def freeIccOpenLogicalChannel : Data → Mem Unit := freeStruct [.aidPtr]
def freeNvWriteItem : Data → Mem Unit := freeStruct [.value]
def freeIccSimAuthentication : Data → Mem Unit := freeStruct [.aid, .authData]
def freeSetAllowedCarriers : Data → Mem Unit := freeStruct [.allowed_carriers, .excluded_carriers]
def freeVideoPhoneDial : Data → Mem Unit := freeStruct [.address, .sub_address]
def freeCallForwardUri : Data → Mem Unit := freeStruct [.number, .ruleset]
def freeNotifyIMSNetworkInfoChanged : Data → Mem Unit := freeStruct [.info]
def freeSetCarrierImsiEncryption : Data → Mem Unit := freeStruct [.mcc, .mnc, .keyIdentifier, .carrierKey]

/-- The text of the user-to-user information is in a block of its own. -/
def freeUusInfo (d : Data) (pUusInfo : Option Addr) : Mem Unit :=
  match pUusInfo with
  | none => pure ()
  | some uusInfo => do
    freeFields d [.uusData]
    free (some uusInfo)

def freeDial (d : Data) : Mem Unit := do
  let pUusInfo ← fieldOf d .uusInfo
  freeUusInfo d pUusInfo
  freeStruct [.address] d

def freeSetGsmBroadcastConfig (d : Data) : Mem Unit :=
  match d with
  | .cells a cells => do
    -- each of them is written to
    cells.forM fun p => do
      let a ← deref p
      free (some a)
    free (some a)
  | _ => crash

def freeSetCdmaBroadcastConfig : Data → Mem Unit := freeSetGsmBroadcastConfig

def freeSetDataProfileData (d : Data) : Mem Unit :=
  match d with
  | .profiles dataProfilePtrs dataProfiles rows => do
    freeAll rows.flatten
    -- `dataProfiles[0]` is beyond an array without cells
    if rows = [] then crash
    else do
      free (some dataProfiles)
      free (some dataProfilePtrs)
  | _ => crash

/-- What the pointer in the table calls. -/
def run (f : Free) : Data → Mem Unit :=
  match f with
  | .freeVoid => fun _ => pure ()
  | .freeInts => freeBlock
  | .freeString => freeBlock
  | .freeStrings => freeStrings
  | .freeRaw => freeBlock
  | .freeDial => freeDial
  | Free.freeSIM_IO => RequestMemory.freeSIM_IO
  | .freeCallForwardStatus => freeCallForwardStatus
  | .freeWriteSmsToSim => freeWriteSmsToSim
  | .freeSendCdmaSms => freeBlock
  | .freeAcknowledgeLastIncomingCdmaSms => freeBlock
  | .freeSetGsmBroadcastConfig => freeSetGsmBroadcastConfig
  | .freeSetCdmaBroadcastConfig => freeSetCdmaBroadcastConfig
  | .freeWriteSmsToRuim => freeBlock
  | .freeSetInitialAttachApn => freeSetInitialAttachApn
  | .freeSendImsSms => freeBlock
  | .freeIccApdu => freeIccApdu
  | .freeIccOpenLogicalChannel => freeIccOpenLogicalChannel
  | .freeNvReadItem => freeBlock
  | .freeNvWriteItem => freeNvWriteItem
  | .freeSetUiccSubscription => freeBlock
  | .freeIccSimAuthentication => freeIccSimAuthentication
  | .freeSetDataProfileData => freeSetDataProfileData
  | .freeSetRadioCapability => freeBlock
  | .freeSetAllowedCarriers => freeSetAllowedCarriers
  | .freeVideoPhoneDial => freeVideoPhoneDial
  | .freeVideoPhoneCodec => freeBlock
  | .freeCallForwardUri => freeCallForwardUri
  | .freeNotifyIMSNetworkInfoChanged => freeNotifyIMSNetworkInfoChanged
  | .freeSetCarrierImsiEncryption => freeSetCarrierImsiEncryption
  | .freeStartNetworkScan => freeBlock
  | .freeStartKeepAlive => freeBlock

/-- The acts of `processRequest`, with the memory of the request. -/
def perform (d : Data) : List Act → Mem Unit
  | [] => pure ()
  | .freeFunction none :: _ => crash
  | .freeFunction (some f) :: as => do
    run f d
    perform d as
  | a :: as => do
    note (.act a)
    perform d as

/-- What the RIL is like when it comes to the request, and the SIM of the service. -/
structure Ready where
  ril : Ril
  socket_id : Int
  valid : 0 ≤ socket_id ∧ socket_id < ril.SIM_COUNT

/-- `CALL_ONREQUEST`, to the end of `processRequest`. -/
def CALL_ONREQUEST (r : Ready) (request : Int) (d : Data) : Mem Unit :=
  perform d (processRequest r.ril request r.socket_id)

/-! ## What is copied -/

/-- The result is `dest`, and `none` where the function returns false. -/
def copyHidlStringToRil (src : Line) (allowEmpty : Bool) : Mem (Option (Option Addr)) :=
  if src = [] ∧ allowEmpty = false then pure (some none)
  else do
    let dest ← calloc
    match dest with
    | none => do
      sendErrorResponse .NO_MEMORY
      pure none
    | some a => pure (some (some a))

/-- Whether all of the texts were copied, and the copies. -/
def copyTexts (allowEmpty : Bool) (copied : List (Option Addr)) : List Line → Mem (Bool × List (Option Addr))
  | [] => pure (true, copied)
  | src :: srcs => do
    let dest ← copyHidlStringToRil src allowEmpty
    match dest with
    | none => pure (false, copied)
    | some p => copyTexts allowEmpty (copied ++ [p]) srcs

variable (r : Ready)

/-- A block, or an answer. -/
def allocated (k : Addr → Mem Unit) : Mem Unit := do
  let p ← calloc
  match p with
  | none => sendErrorResponse .NO_MEMORY
  | some a => k a

def dispatchVoid (request : Int) : Mem Unit := CALL_ONREQUEST r request .NULL

def dispatchString (request : Int) (str : Line) : Mem Unit := do
  let pString ← copyHidlStringToRil str false
  match pString with
  | none => pure ()
  | some none => CALL_ONREQUEST r request .NULL
  | some (some a) => CALL_ONREQUEST r request (.block a)

def dispatchStrings (request : Int) (allowEmpty : Bool) (strs : List Line) : Mem Unit :=
  allocated fun pStrings => do
    let copy ← copyTexts allowEmpty [] strs
    if copy.1 = true then CALL_ONREQUEST r request (.cells pStrings copy.2)
    else do
      freeAll copy.2
      free (some pStrings)

/-- A structure without pointers, and an array of numbers. -/
def dispatchBlock (request : Int) : Mem Unit := allocated fun a => CALL_ONREQUEST r request (.block a)

def dispatchInts (request : Int) : Mem Unit := dispatchBlock r request

def dispatchRaw (request : Int) (rawBytes : List Byte) : Mem Unit :=
  if rawBytes = [] then CALL_ONREQUEST r request .NULL else dispatchBlock r request

/-- A structure with texts. -/
def dispatchStruct (request : Int) (fields : List (Field × Line)) : Mem Unit :=
  allocated fun a => do
    let copy ← copyTexts false [] (fields.map Prod.snd)
    if copy.1 = true then CALL_ONREQUEST r request (.struct a ((fields.map Prod.fst).zip copy.2))
    else do
      freeAll copy.2
      free (some a)

def dispatchCallForwardStatus (request : Int) (number : Line) : Mem Unit := dispatchStruct r request [(.number, number)]

def dispatchIccApdu (request : Int) (data : Line) : Mem Unit := dispatchStruct r request [(.data, data)]

/-! ## The methods of the service -/

def iccIOForApp (path data pin2 aid : Line) : Mem Unit :=
  dispatchStruct r RIL_REQUEST_SIM_IO [(.path, path), (.data, data), (.pin2, pin2), (.aidPtr, aid)]

def writeSmsToSim (pdu smsc : Line) : Mem Unit :=
  dispatchStruct r RIL_REQUEST_WRITE_SMS_TO_SIM [(.pdu, pdu), (.smsc, smsc)]

def iccOpenLogicalChannel (aid : Line) : Mem Unit := dispatchStruct r RIL_REQUEST_SIM_OPEN_CHANNEL [(.aidPtr, aid)]

def nvWriteItem (value : Line) : Mem Unit := dispatchStruct r RIL_REQUEST_NV_WRITE_ITEM [(.value, value)]

def requestIccSimAuthentication (authData aid : Line) : Mem Unit :=
  dispatchStruct r RIL_REQUEST_SIM_AUTHENTICATION [(.authData, authData), (.aid, aid)]

def videoPhoneDial (address subAddress : Line) : Mem Unit :=
  dispatchStruct r RIL_EXT_REQUEST_VIDEOPHONE_DIAL [(.address, address), (.sub_address, subAddress)]

def queryCallForwardStatus (number ruleset : Line) : Mem Unit :=
  dispatchStruct r RIL_REQUEST_QUERY_CALL_FORWARD_STATUS_URI [(.number, number), (.ruleset, ruleset)]

def setCallForwardUri (number ruleset : Line) : Mem Unit :=
  dispatchStruct r RIL_REQUEST_SET_CALL_FORWARD_URI [(.number, number), (.ruleset, ruleset)]

def notifyIMSNetworkInfoChanged (info : Line) : Mem Unit :=
  dispatchStruct r RIL_REQUEST_IMS_NETWORK_INFO_CHANGE [(.info, info)]

structure DataProfileInfo where
  apn : Line
  protocol : Line
  roamingProtocol : Line
  user : Line
  password : Line

def setIMSInitialAttachApn (p : DataProfileInfo) : Mem Unit :=
  dispatchStruct r RIL_REQUEST_SET_IMS_INITIAL_ATTACH_APN
    [(.apn, p.apn), (.protocol, p.protocol), (.username, p.user), (.password, p.password)]

def setInitialAttachSOSApn (p : DataProfileInfo) : Mem Unit :=
  dispatchStruct r RIL_REQUEST_SET_SOS_INITIAL_ATTACH_APN
    [(.apn, p.apn), (.protocol, p.protocol), (.username, p.user), (.password, p.password)]

def sendCdmaSms : Mem Unit := dispatchBlock r RIL_REQUEST_CDMA_SEND_SMS
def acknowledgeLastIncomingCdmaSms : Mem Unit := dispatchBlock r RIL_REQUEST_CDMA_SMS_ACKNOWLEDGE
def writeSmsToRuim : Mem Unit := dispatchBlock r RIL_REQUEST_CDMA_WRITE_SMS_TO_RUIM
def nvReadItem : Mem Unit := dispatchBlock r RIL_REQUEST_NV_READ_ITEM
def setUiccSubscription : Mem Unit := dispatchBlock r RIL_REQUEST_SET_UICC_SUBSCRIPTION
def setRadioCapability : Mem Unit := dispatchBlock r RIL_REQUEST_SET_RADIO_CAPABILITY
def videoPhoneCodec : Mem Unit := dispatchBlock r RIL_EXT_REQUEST_VIDEOPHONE_CODEC

def DataProfileInfo.attachProtocol (p : DataProfileInfo) (isRoaming : Bool) : Line :=
  if isRoaming = true then p.roamingProtocol else p.protocol

/-- Where the APN is not copied, the structure is not freed. -/
def setInitialAttachApn (p : DataProfileInfo) (isRoaming : Bool) : Mem Unit :=
  allocated fun iaa => do
    let apn ← copyHidlStringToRil p.apn true
    match apn with
    | none => pure ()
    | some apn => do
      let copy ← copyTexts false [apn] [p.attachProtocol isRoaming, p.user, p.password]
      if copy.1 = true then
        CALL_ONREQUEST r RIL_REQUEST_SET_INITIAL_ATTACH_APN
          (.struct iaa ([.apn, .protocol, .username, .password].zip copy.2))
      else do
        freeAll copy.2
        free (some iaa)

def dial (address : Line) (uusInfo : Option Line) : Mem Unit :=
  allocated fun dial => do
    let block ← calloc
    match block with
    | none => do
      sendErrorResponse .NO_MEMORY
      free (some dial)
    | some info => do
      let number ← copyHidlStringToRil address false
      match number, uusInfo with
      | none, _ => freeAll [some dial, some info]
      | some number, none => do
        free (some info)
        CALL_ONREQUEST r RIL_REQUEST_DIAL (.struct dial [(.address, number), (.uusInfo, none)])
      | some number, some uusData => do
        let text ← copyHidlStringToRil uusData false
        match text with
        | none => freeAll [number, some dial, some info]
        | some text =>
          CALL_ONREQUEST r RIL_REQUEST_DIAL
            (.struct dial [(.address, number), (.uusInfo, some info), (.uusData, text)])

def callocAll : Nat → Mem (List (Option Addr))
  | 0 => pure []
  | num + 1 => do
    let p ← calloc
    let ps ← callocAll num
    pure (p :: ps)

/-- Each of them is written to. -/
def derefAll : List (Option Addr) → Mem Unit
  | [] => pure ()
  | p :: ps => do
    let _ ← deref p
    derefAll ps

def setBroadcastConfig (request : Int) (num : Nat) : Mem Unit :=
  allocated fun bci => do
    let infos ← callocAll num
    derefAll infos
    CALL_ONREQUEST r request (.cells bci infos)

def setGsmBroadcastConfig (num : Nat) : Mem Unit := setBroadcastConfig r RIL_REQUEST_GSM_SET_BROADCAST_SMS_CONFIG num
def setCdmaBroadcastConfig (num : Nat) : Mem Unit := setBroadcastConfig r RIL_REQUEST_CDMA_SET_BROADCAST_SMS_CONFIG num

/-- The texts of the profiles; the last row is shorter where one of its texts was not copied. -/
def copyProfiles (rows : List (List (Option Addr))) : List (List Line) → Mem (Bool × List (List (Option Addr)))
  | [] => pure (true, rows)
  | texts :: rest => do
    let copy ← copyTexts true [] texts
    if copy.1 = true then copyProfiles (rows ++ [copy.2]) rest else pure (false, rows ++ [copy.2])

def DataProfileInfo.texts (isRoaming : Bool) (p : DataProfileInfo) : List Line :=
  [p.apn, p.attachProtocol isRoaming, p.user, p.password]

/-- One pointer of each profile after the other, as `freeSetDataProfileData` of the service goes through them. -/
def fieldByField (rows : List (List (Option Addr))) : List (Option Addr) :=
  (List.range 4).flatMap fun k => rows.map fun row => row[k]?.join

def setDataProfile (profiles : List DataProfileInfo) (isRoaming : Bool) : Mem Unit :=
  allocated fun dataProfiles => do
    let block ← calloc
    match block with
    | none => do
      free (some dataProfiles)
      sendErrorResponse .NO_MEMORY
    | some dataProfilePtrs => do
      let copy ← copyProfiles [] (profiles.map (DataProfileInfo.texts isRoaming))
      if copy.1 = true then
        CALL_ONREQUEST r RIL_REQUEST_SET_DATA_PROFILE (.profiles dataProfilePtrs dataProfiles copy.2)
      else do
        freeAll (fieldByField copy.2)
        freeAll [some dataProfiles, some dataProfilePtrs]

def setAllowedCarriers : Mem Unit :=
  allocated fun cr => do
    let allowed ← calloc
    match allowed with
    | none => do
      sendErrorResponse .NO_MEMORY
      free (some cr)
    | some allowedCarriers => do
      let excluded ← calloc
      match excluded with
      | none => do
        sendErrorResponse .NO_MEMORY
        freeAll [some allowedCarriers, some cr]
      | some excludedCarriers =>
        CALL_ONREQUEST r RIL_REQUEST_SET_CARRIER_RESTRICTIONS
          (.struct cr [(.allowed_carriers, some allowedCarriers), (.excluded_carriers, some excludedCarriers)])

/-- `new` gives no NULL. -/
def setCarrierInfoForImsiEncryption (mnc mcc keyIdentifier : Line) : Mem Unit :=
  allocated fun imsiEncryption => do
    let copy ← copyTexts false [] [mnc, mcc, keyIdentifier]
    if copy.1 = true then do
      let key ← calloc
      let carrierKey ← deref key
      CALL_ONREQUEST r RIL_REQUEST_SET_CARRIER_INFO_IMSI_ENCRYPTION
        (.struct imsiEncryption ([.mnc, .mcc, .keyIdentifier, .carrierKey].zip (copy.2 ++ [some carrierKey])))
    else do
      freeAll copy.2
      free (some imsiEncryption)

inductive RadioAccessNetworks
  | GERAN
  | UTRAN
  | EUTRAN
  | other
  deriving DecidableEq

structure RadioAccessSpecifier where
  radioAccessNetwork : RadioAccessNetworks
  geranBands : List Nat
  utranBands : List Nat
  eutranBands : List Nat
  channels : List Nat

def MAX_RADIO_ACCESS_NETWORKS : Nat := 8
def MAX_BANDS : Nat := 8
def MAX_CHANNELS : Nat := 32

def RadioAccessSpecifier.fits (s : RadioAccessSpecifier) : Bool :=
  s.geranBands.length ≤ MAX_BANDS ∧ s.utranBands.length ≤ MAX_BANDS ∧ s.eutranBands.length ≤ MAX_BANDS ∧
    s.channels.length ≤ MAX_CHANNELS ∧ s.radioAccessNetwork ≠ .other

/-- The block is freed where an argument is not valid. -/
def checked (valid : Bool) (a : Addr) (request : Int) : Mem Unit :=
  if valid = true then CALL_ONREQUEST r request (.block a)
  else do
    sendErrorResponse .INVALID_ARGUMENTS
    free (some a)

def startNetworkScan (specifiers : List RadioAccessSpecifier) : Mem Unit :=
  if MAX_RADIO_ACCESS_NETWORKS < specifiers.length then sendErrorResponse .INVALID_ARGUMENTS
  else allocated fun a => checked r (specifiers.all RadioAccessSpecifier.fits) a RIL_REQUEST_START_NETWORK_SCAN

inductive KeepaliveType
  | NATT_IPV4
  | NATT_IPV6
  | other
  deriving DecidableEq

def KeepaliveType.addressSize : KeepaliveType → Option Nat
  | .NATT_IPV4 => some 4
  | .NATT_IPV6 => some 16
  | .other => none

def startKeepalive (type : KeepaliveType) (sourceAddress destinationAddress : List Byte) : Mem Unit :=
  allocated fun a =>
    checked r (type.addressSize = some sourceAddress.length ∧ type.addressSize = some destinationAddress.length) a
      RIL_REQUEST_START_KEEPALIVE

inductive RIL_RadioTechnologyFamily
  | RADIO_TECH_3GPP
  | RADIO_TECH_3GPP2
  | other
  deriving DecidableEq

structure GsmSmsMessage where
  smscPdu : Line
  pdu : Line

structure ImsSmsMessage where
  tech : RIL_RadioTechnologyFamily
  gsmMessage : List GsmSmsMessage
  /-- How many messages of CDMA. -/
  cdmaMessage : Nat

def dispatchImsGsmSms (message : ImsSmsMessage) : Mem Unit :=
  allocated fun rism =>
    match message.gsmMessage with
    | [m] => do
      let block ← calloc
      match block with
      | none => do
        sendErrorResponse .NO_MEMORY
        free (some rism)
      | some pStrings => do
        let copy ← copyTexts false [] [m.smscPdu, m.pdu]
        if copy.1 = true then CALL_ONREQUEST r RIL_REQUEST_IMS_SEND_SMS (.imsGsm rism pStrings copy.2)
        else do
          freeAll copy.2
          freeAll [some pStrings, some rism]
    | _ => do
      sendErrorResponse .INVALID_ARGUMENTS
      free (some rism)

/-- The structure that is passed on is the first of the block. -/
def dispatchImsCdmaSms (message : ImsSmsMessage) : Mem Unit :=
  allocated fun temp => checked r (message.cdmaMessage = 1) temp RIL_REQUEST_IMS_SEND_SMS

def sendImsSms (message : ImsSmsMessage) : Mem Unit :=
  match message.tech with
  | .RADIO_TECH_3GPP => dispatchImsGsmSms r message
  | .RADIO_TECH_3GPP2 => dispatchImsCdmaSms r message
  | .other => sendErrorResponse .INVALID_ARGUMENTS

/-! ## All of the methods -/

/-- The functions with a request of their own choice. -/
inductive Dispatcher
  | Void
  | String
  | Strings
  | Ints
  | CallForwardStatus
  | Raw
  | IccApdu
  deriving DecidableEq

/-- The codes that the methods of the service pass to each of these functions. -/
def Dispatcher.requests : Dispatcher → List Int
  | .Void =>
    [RIL_REQUEST_GET_SIM_STATUS, RIL_REQUEST_GET_CURRENT_CALLS, RIL_REQUEST_HANGUP_WAITING_OR_BACKGROUND,
     RIL_REQUEST_HANGUP_FOREGROUND_RESUME_BACKGROUND, RIL_REQUEST_SWITCH_WAITING_OR_HOLDING_AND_ACTIVE,
     RIL_REQUEST_CONFERENCE, RIL_REQUEST_UDUB, RIL_REQUEST_LAST_CALL_FAIL_CAUSE, RIL_REQUEST_SIGNAL_STRENGTH,
     RIL_REQUEST_VOICE_REGISTRATION_STATE, RIL_REQUEST_DATA_REGISTRATION_STATE, RIL_REQUEST_OPERATOR,
     RIL_REQUEST_CANCEL_USSD, RIL_REQUEST_GET_CLIR, RIL_REQUEST_ANSWER, RIL_REQUEST_QUERY_NETWORK_SELECTION_MODE,
     RIL_REQUEST_SET_NETWORK_SELECTION_AUTOMATIC, RIL_REQUEST_QUERY_AVAILABLE_NETWORKS, RIL_REQUEST_DTMF_STOP,
     RIL_REQUEST_BASEBAND_VERSION, RIL_REQUEST_GET_MUTE, RIL_REQUEST_QUERY_CLIP, RIL_REQUEST_DATA_CALL_LIST,
     RIL_REQUEST_QUERY_AVAILABLE_BAND_MODE, RIL_REQUEST_EXPLICIT_CALL_TRANSFER, RIL_REQUEST_GET_PREFERRED_NETWORK_TYPE,
     RIL_REQUEST_GET_NEIGHBORING_CELL_IDS, RIL_REQUEST_CDMA_QUERY_ROAMING_PREFERENCE, RIL_REQUEST_QUERY_TTY_MODE,
     RIL_REQUEST_CDMA_QUERY_PREFERRED_VOICE_PRIVACY_MODE, RIL_REQUEST_GSM_GET_BROADCAST_SMS_CONFIG,
     RIL_REQUEST_CDMA_GET_BROADCAST_SMS_CONFIG, RIL_REQUEST_CDMA_SUBSCRIPTION, RIL_REQUEST_DEVICE_IDENTITY,
     RIL_REQUEST_EXIT_EMERGENCY_CALLBACK_MODE, RIL_REQUEST_GET_SMSC_ADDRESS, RIL_REQUEST_REPORT_STK_SERVICE_IS_RUNNING,
     RIL_REQUEST_CDMA_GET_SUBSCRIPTION_SOURCE, RIL_REQUEST_VOICE_RADIO_TECH, RIL_REQUEST_GET_CELL_INFO_LIST,
     RIL_REQUEST_IMS_REGISTRATION_STATE, RIL_REQUEST_GET_HARDWARE_CONFIG, RIL_REQUEST_SHUTDOWN,
     RIL_REQUEST_GET_RADIO_CAPABILITY, RIL_REQUEST_STOP_LCE, RIL_REQUEST_PULL_LCEDATA, RIL_REQUEST_GET_ACTIVITY_INFO,
     RIL_REQUEST_GET_CARRIER_RESTRICTIONS, RIL_REQUEST_STOP_NETWORK_SCAN, RIL_EXT_REQUEST_VIDEOPHONE_FALLBACK,
     RIL_EXT_REQUEST_STOP_QUERY_NETWORK, RIL_EXT_REQUEST_FORCE_DETACH, RIL_EXT_REQUEST_GET_HD_VOICE_STATE,
     RIL_EXT_REQUEST_ENABLE_RAU_NOTIFY, RIL_EXT_REQUEST_GET_DEFAULT_NAN, RIL_EXT_REQUEST_SIM_GET_ATR,
     RIL_EXT_REQUEST_EXPLICIT_CALL_TRANSFER, RIL_EXT_REQUEST_GET_SIM_CAPACITY, RIL_EXT_REQUEST_QUERY_SMS_STORAGE_MODE,
     RIL_EXT_REQUEST_GET_SIMLOCK_DUMMYS, RIL_EXT_REQUEST_GET_BAND_INFO, RIL_EXT_REQUEST_QUERY_COLP,
     RIL_EXT_REQUEST_QUERY_COLR, RIL_EXT_REQUEST_SIMMGR_GET_SIM_STATUS, RIL_EXT_REQUEST_GET_SIM_STATUS,
     RIL_EXT_REQUEST_REATTACH, RIL_EXT_REQUEST_SHUTDOWN, RIL_EXT_REQUEST_GET_TPMR_STATE,
     RIL_REQUEST_GET_IMS_CURRENT_CALLS, RIL_REQUEST_GET_IMS_VOICE_CALL_AVAILABILITY, RIL_REQUEST_ENABLE_IMS,
     RIL_REQUEST_DISABLE_IMS, RIL_REQUEST_GET_IMS_BEARER_STATE, RIL_REQUEST_IMS_UPDATE_DATA_ROUTER,
     RIL_REQUEST_GET_IMS_SRVCC_CAPBILITY, RIL_REQUEST_GET_IMS_PCSCF_ADDR, RIL_REQUEST_IMS_REGADDR,
     RIL_EXT_REQUEST_GET_PREFERRED_NETWORK_TYPE, RIL_EXT_REQUEST_GET_CNAP, RIL_EXT_REQUEST_GET_SPECIAL_RATCAP,
     RIL_EXT_REQUEST_GET_VIDEO_RESOLUTION, RIL_EXT_REQUEST_GET_IMS_PANI_INFO, RIL_EXT_REQUEST_GET_SUBSIDYLOCK_STATUS,
     RIL_EXT_REQUEST_GET_ICCID]
  | .String =>
    [RIL_REQUEST_DTMF, RIL_REQUEST_SEND_USSD, RIL_REQUEST_SET_NETWORK_SELECTION_MANUAL, RIL_REQUEST_DTMF_START,
     RIL_REQUEST_STK_SEND_ENVELOPE_COMMAND, RIL_REQUEST_STK_SEND_TERMINAL_RESPONSE, RIL_REQUEST_CDMA_FLASH,
     RIL_REQUEST_SET_SMSC_ADDRESS, RIL_REQUEST_ISIM_AUTHENTICATION, RIL_REQUEST_STK_SEND_ENVELOPE_WITH_STATUS,
     RIL_EXT_REQUEST_VIDEOPHONE_STRING, RIL_EXT_REQUEST_UPDATE_ECCLIST, RIL_EXT_REQUEST_MMI_ENTER_SIM,
     RIL_EXT_REQUEST_UPDATE_OPERATOR_NAME, RIL_EXT_REQUEST_SEND_CMD, RIL_EXT_REQUEST_GET_RADIO_PREFERENCE,
     RIL_REQUEST_SET_IMS_SMSC, RIL_REQUEST_IMS_INITIAL_GROUP_CALL, RIL_REQUEST_IMS_ADD_TO_GROUP_CALL,
     RIL_REQUEST_IMS_NOTIFY_HANDOVER_CALL_INFO, RIL_REQUEST_SET_IMS_PCSCF_ADDR, RIL_ATC_REQUEST_VSIM_SEND_CMD]
  | .Strings =>
    [RIL_REQUEST_ENTER_SIM_PIN, RIL_REQUEST_ENTER_SIM_PUK, RIL_REQUEST_ENTER_SIM_PIN2, RIL_REQUEST_ENTER_SIM_PUK2,
     RIL_REQUEST_CHANGE_SIM_PIN, RIL_REQUEST_CHANGE_SIM_PIN2, RIL_REQUEST_ENTER_NETWORK_DEPERSONALIZATION,
     RIL_REQUEST_GET_IMSI, RIL_REQUEST_SEND_SMS, RIL_REQUEST_SEND_SMS_EXPECT_MORE, RIL_REQUEST_SETUP_DATA_CALL,
     RIL_REQUEST_DEACTIVATE_DATA_CALL, RIL_REQUEST_QUERY_FACILITY_LOCK, RIL_REQUEST_SET_FACILITY_LOCK,
     RIL_REQUEST_CHANGE_BARRING_PASSWORD, RIL_REQUEST_OEM_HOOK_STRINGS, RIL_REQUEST_CDMA_BURST_DTMF,
     RIL_REQUEST_ACKNOWLEDGE_INCOMING_GSM_SMS_WITH_PDU, RIL_EXT_REQUEST_SET_FACILITY_LOCK_FOR_USER,
     RIL_EXT_REQUEST_SET_XCAP_IP_ADDR, RIL_EXT_REQUEST_SET_RADIO_PREFERENCE, RIL_REQUEST_INIT_ISIM,
     RIL_REQUEST_EXT_QUERY_FACILITY_LOCK, RIL_EXT_REQUEST_SET_LOCATION_INFO]
  | .Ints =>
    [RIL_REQUEST_HANGUP, RIL_REQUEST_RADIO_POWER, RIL_REQUEST_SET_CLIR, RIL_REQUEST_QUERY_CALL_WAITING,
     RIL_REQUEST_SET_CALL_WAITING, RIL_REQUEST_SMS_ACKNOWLEDGE, RIL_REQUEST_SEPARATE_CONNECTION, RIL_REQUEST_SET_MUTE,
     RIL_REQUEST_SCREEN_STATE, RIL_REQUEST_SET_SUPP_SVC_NOTIFICATION, RIL_REQUEST_DELETE_SMS_ON_SIM,
     RIL_REQUEST_SET_BAND_MODE, RIL_REQUEST_STK_HANDLE_CALL_SETUP_REQUESTED_FROM_SIM,
     RIL_REQUEST_SET_PREFERRED_NETWORK_TYPE, RIL_REQUEST_SET_LOCATION_UPDATES,
     RIL_REQUEST_CDMA_SET_SUBSCRIPTION_SOURCE, RIL_REQUEST_CDMA_SET_ROAMING_PREFERENCE, RIL_REQUEST_SET_TTY_MODE,
     RIL_REQUEST_CDMA_SET_PREFERRED_VOICE_PRIVACY_MODE, RIL_REQUEST_GSM_SMS_BROADCAST_ACTIVATION,
     RIL_REQUEST_CDMA_SMS_BROADCAST_ACTIVATION, RIL_REQUEST_CDMA_DELETE_SMS_ON_RUIM,
     RIL_REQUEST_REPORT_SMS_MEMORY_STATUS, RIL_REQUEST_SET_UNSOL_CELL_INFO_LIST_RATE, RIL_REQUEST_SIM_CLOSE_CHANNEL,
     RIL_REQUEST_NV_RESET_CONFIG, RIL_REQUEST_ALLOW_DATA, RIL_REQUEST_START_LCE, RIL_REQUEST_SEND_DEVICE_STATE,
     RIL_REQUEST_SET_UNSOLICITED_RESPONSE_FILTER, RIL_REQUEST_SET_SIM_CARD_POWER, RIL_REQUEST_STOP_KEEPALIVE,
     RIL_EXT_REQUEST_VIDEOPHONE_LOCAL_MEDIA, RIL_EXT_REQUEST_VIDEOPHONE_CONTROL_IFRAME,
     RIL_EXT_REQUEST_SWITCH_MULTI_CALL, RIL_EXT_REQUEST_TRAFFIC_CLASS, RIL_EXT_REQUEST_ENABLE_LTE,
     RIL_EXT_REQUEST_ATTACH_DATA, RIL_EXT_REQUEST_SIMMGR_SIM_POWER, RIL_EXT_REQUEST_SET_COLP,
     RIL_EXT_REQUEST_STORE_SMS_TO_SIM, RIL_EXT_REQUEST_GET_SIMLOCK_REMAIN_TIMES, RIL_EXT_REQUEST_GET_SIMLOCK_STATUS,
     RIL_EXT_REQUEST_GET_SIMLOCK_WHITE_LIST, RIL_EXT_REQUEST_SET_BAND_INFO_MODE, RIL_EXT_REQUEST_SET_SINGLE_PDN,
     RIL_EXT_REQUEST_SET_SPECIAL_RATCAP, RIL_EXT_REQUEST_SET_PREFERRED_NETWORK_TYPE, RIL_EXT_REQUEST_SET_SMS_BEARER,
     RIL_EXT_REQUEST_SET_VOICE_DOMAIN, RIL_EXT_REQUEST_UPDATE_CLIP, RIL_EXT_REQUEST_SET_TPMR_STATE,
     RIL_EXT_REQUEST_SET_VIDEO_RESOLUTION, RIL_EXT_REQUEST_ENABLE_LOCAL_HOLD, RIL_EXT_REQUEST_ENABLE_WIFI_PARAM_REPORT,
     RIL_EXT_REQUEST_CALL_MEDIA_CHANGE_REQUEST_TIMEOUT, RIL_EXT_REQUEST_SET_DUAL_VOLTE_STATE,
     RIL_EXT_REQUEST_SET_LOCAL_TONE, RIL_EXT_REQUEST_UPDATE_PLMN, RIL_EXT_REQUEST_QUERY_PLMN,
     RIL_EXT_REQUEST_SIM_POWER_REAL, RIL_REQUEST_SET_IMS_VOICE_CALL_AVAILABILITY,
     RIL_REQUEST_IMS_CALL_REQUEST_MEDIA_CHANGE, RIL_REQUEST_IMS_CALL_RESPONSE_MEDIA_CHANGE,
     RIL_REQUEST_IMS_CALL_FALL_BACK_TO_VOICE, RIL_REQUEST_IMS_HANDOVER, RIL_REQUEST_IMS_HANDOVER_STATUS_UPDATE,
     RIL_REQUEST_IMS_HANDOVER_CALL_END, RIL_REQUEST_IMS_WIFI_ENABLE, RIL_REQUEST_IMS_WIFI_CALL_STATE_CHANGE,
     RIL_REQUEST_IMS_HOLD_SINGLE_CALL, RIL_REQUEST_IMS_MUTE_SINGLE_CALL, RIL_REQUEST_IMS_SILENCE_SINGLE_CALL,
     RIL_REQUEST_IMS_ENABLE_LOCAL_CONFERENCE, RIL_EXT_REQUEST_RADIO_POWER_FALLBACK, RIL_EXT_REQUEST_SET_EMERGENCY_ONLY]
  | .CallForwardStatus =>
    [RIL_REQUEST_QUERY_CALL_FORWARD_STATUS, RIL_REQUEST_SET_CALL_FORWARD]
  | .Raw =>
    [RIL_REQUEST_OEM_HOOK_RAW, RIL_REQUEST_NV_WRITE_CDMA_PRL]
  | .IccApdu =>
    [RIL_REQUEST_SIM_TRANSMIT_APDU_BASIC, RIL_REQUEST_SIM_TRANSMIT_APDU_CHANNEL]

/-- A request that a method of the service passes to the function. -/
structure Offered (d : Dispatcher) where
  request : Int
  offered : request ∈ d.requests

/-- A call of a method. -/
inductive Method
  | dispatchVoid (o : Offered .Void)
  | dispatchString (o : Offered .String) (str : Line)
  | dispatchStrings (o : Offered .Strings) (allowEmpty : Bool) (strs : List Line)
  | dispatchInts (o : Offered .Ints)
  | dispatchCallForwardStatus (o : Offered .CallForwardStatus) (number : Line)
  | dispatchRaw (o : Offered .Raw) (rawBytes : List Byte)
  | dispatchIccApdu (o : Offered .IccApdu) (data : Line)
  | dial (address : Line) (uusInfo : Option Line)
  | iccIOForApp (path data pin2 aid : Line)
  | writeSmsToSim (pdu smsc : Line)
  | iccOpenLogicalChannel (aid : Line)
  | nvWriteItem (value : Line)
  | requestIccSimAuthentication (authData aid : Line)
  | videoPhoneDial (address subAddress : Line)
  | queryCallForwardStatus (number ruleset : Line)
  | setCallForwardUri (number ruleset : Line)
  | notifyIMSNetworkInfoChanged (info : Line)
  | setIMSInitialAttachApn (p : DataProfileInfo)
  | setInitialAttachSOSApn (p : DataProfileInfo)
  | setInitialAttachApn (p : DataProfileInfo) (isRoaming : Bool)
  | sendCdmaSms
  | acknowledgeLastIncomingCdmaSms
  | writeSmsToRuim
  | nvReadItem
  | setUiccSubscription
  | setRadioCapability
  | videoPhoneCodec
  | setGsmBroadcastConfig (num : Nat)
  | setCdmaBroadcastConfig (num : Nat)
  | setDataProfile (profiles : List DataProfileInfo) (isRoaming : Bool)
  | setAllowedCarriers
  | setCarrierInfoForImsiEncryption (mnc mcc keyIdentifier : Line)
  | startNetworkScan (specifiers : List RadioAccessSpecifier)
  | startKeepalive (type : KeepaliveType) (sourceAddress destinationAddress : List Byte)
  | sendImsSms (message : ImsSmsMessage)

def Method.run : Method → Mem Unit
  | .dispatchVoid o => RequestMemory.dispatchVoid r o.request
  | .dispatchString o str => RequestMemory.dispatchString r o.request str
  | .dispatchStrings o allowEmpty strs => RequestMemory.dispatchStrings r o.request allowEmpty strs
  | .dispatchInts o => RequestMemory.dispatchInts r o.request
  | .dispatchCallForwardStatus o number => RequestMemory.dispatchCallForwardStatus r o.request number
  | .dispatchRaw o rawBytes => RequestMemory.dispatchRaw r o.request rawBytes
  | .dispatchIccApdu o data => RequestMemory.dispatchIccApdu r o.request data
  | .dial address uusInfo => RequestMemory.dial r address uusInfo
  | .iccIOForApp path data pin2 aid => RequestMemory.iccIOForApp r path data pin2 aid
  | .writeSmsToSim pdu smsc => RequestMemory.writeSmsToSim r pdu smsc
  | .iccOpenLogicalChannel aid => RequestMemory.iccOpenLogicalChannel r aid
  | .nvWriteItem value => RequestMemory.nvWriteItem r value
  | .requestIccSimAuthentication authData aid => RequestMemory.requestIccSimAuthentication r authData aid
  | .videoPhoneDial address subAddress => RequestMemory.videoPhoneDial r address subAddress
  | .queryCallForwardStatus number ruleset => RequestMemory.queryCallForwardStatus r number ruleset
  | .setCallForwardUri number ruleset => RequestMemory.setCallForwardUri r number ruleset
  | .notifyIMSNetworkInfoChanged info => RequestMemory.notifyIMSNetworkInfoChanged r info
  | .setIMSInitialAttachApn p => RequestMemory.setIMSInitialAttachApn r p
  | .setInitialAttachSOSApn p => RequestMemory.setInitialAttachSOSApn r p
  | .setInitialAttachApn p isRoaming => RequestMemory.setInitialAttachApn r p isRoaming
  | .sendCdmaSms => RequestMemory.sendCdmaSms r
  | .acknowledgeLastIncomingCdmaSms => RequestMemory.acknowledgeLastIncomingCdmaSms r
  | .writeSmsToRuim => RequestMemory.writeSmsToRuim r
  | .nvReadItem => RequestMemory.nvReadItem r
  | .setUiccSubscription => RequestMemory.setUiccSubscription r
  | .setRadioCapability => RequestMemory.setRadioCapability r
  | .videoPhoneCodec => RequestMemory.videoPhoneCodec r
  | .setGsmBroadcastConfig num => RequestMemory.setGsmBroadcastConfig r num
  | .setCdmaBroadcastConfig num => RequestMemory.setCdmaBroadcastConfig r num
  | .setDataProfile profiles isRoaming => RequestMemory.setDataProfile r profiles isRoaming
  | .setAllowedCarriers => RequestMemory.setAllowedCarriers r
  | .setCarrierInfoForImsiEncryption mnc mcc keyIdentifier =>
    RequestMemory.setCarrierInfoForImsiEncryption r mnc mcc keyIdentifier
  | .startNetworkScan specifiers => RequestMemory.startNetworkScan r specifiers
  | .startKeepalive type sourceAddress destinationAddress =>
    RequestMemory.startKeepalive r type sourceAddress destinationAddress
  | .sendImsSms message => RequestMemory.sendImsSms r message

end UniRil.Libril.RequestMemory
