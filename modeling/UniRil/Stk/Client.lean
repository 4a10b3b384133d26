import UniRil.AtTok
import UniRil.Stk.Bip

/-!
# One proactive command (`processBipClient` of ril_stk.c)

`beyond` is what lies behind the allocations that the parser reads, `around` what lies around a
packet.
-/

namespace UniRil.Stk

open FailRules

def CHANNEL_CLOSED : Nat := 0x02
def CHANNEL_ID_INVALID : Nat := 0x03

/-! ## The kind of a command, before it is parsed -/

/-- The value of at most two characters, as an `unsigned long` cut to its last byte. -/
def strtoulByte (s : List Byte) : Nat :=
  let (neg, s) := match s.dropWhile AtTok.isspace with
    | 45 :: s => (true, s)
    | 43 :: s => (false, s)
    | s => (false, s)
  let value := (s.takeWhile fun c => (hexValue c).isSome).foldl (fun n c => 16 * n + ((hexValue c).getD 0).toNat) 0
  (if neg then 2 ^ 64 - value else value) % 0x100

/-- The characters of a C string and its NUL, and what lies behind them. -/
def cellAt (response : List Byte) (beyond : Mem) (i : Nat) : Byte := (response ++ [NUL]).getD i (beyond i)

def checkStkProCmdType (response : List Byte) (beyond : Mem) (typePos : Nat) : Nat :=
  strtoulByte (cstr [cellAt response beyond typePos, cellAt response beyond (typePos + 1)])

/-- `response[2] <= '7'` for a signed `char`: the length takes one byte. -/
def typePos (response : List Byte) (beyond : Mem) : Nat :=
  if cellAt response beyond 2 ≤ 55 ∨ 128 ≤ cellAt response beyond 2 then 10 else 12

def cmdTypeOf (response : List Byte) (beyond : Mem) : Nat := checkStkProCmdType response beyond (typePos response beyond)

/-! ## The commands -/

/-- The context gets the parameters of the command that it is about to run. -/
def giveCommand (c : Addr) (cmdDet : CommandDetails) (f : StkContext → StkContext) : M Unit :=
  modifyContext c fun ctx => { f ctx with pCmdDet := some cmdDet }

def startOpenChannel (openChannelData : OpenChannelData) : M Unit := do
  if openChannelData.hasText then
    modify fun s => { s with s_lunchOpenChannelDialog := true }
    note .RIL_UNSOL_STK_PROACTIVE_COMMAND
  else note (.lunchOpenChannel (← get).s_curBipChannelID)

def clientOpenChannel (tlvs : List TLV) (cmdDet : CommandDetails) : M Unit := do
  let openChannelData := processOpenChannel tlvs { bufferSize := 0, transportType := 0, hasText := false }
  match initStkContext openChannelData cmdDet (← get) with
  | none => throw .blocked
  | some (pstkcontext, s) => do
    set (addToStkContextList pstkcontext s)
    startOpenChannel openChannelData

/-- Without a context the command is answered, and run all the same. -/
def clientSendData (tlvs : List TLV) (cmdDet : CommandDetails) : M Unit := do
  let sendData := processSendData tlvs
  let pstkContext := getStkContext sendData.channelId (← get)
  whenE pstkContext.isNone (sendTerminalResponse (some cmdDet) BIP_ERROR (some CHANNEL_ID_INVALID) .none)
  let c ← deref pstkContext
  giveCommand c cmdDet fun ctx => { ctx with pSCData := some sendData }
  lunchSendData sendData.channelId

def clientCloseChannel (tlvs : List TLV) (cmdDet : CommandDetails) : M Unit := do
  let closeChannelData := processCloseChannel tlvs
  let s ← get
  match getStkContext closeChannelData.channelId s with
  | none =>
    let additionalInfo := if s.s_stkContextList.isNone then CHANNEL_CLOSED else CHANNEL_ID_INVALID
    sendTerminalResponse (some cmdDet) BIP_ERROR (some additionalInfo) .none
  | some c => do
    giveCommand c cmdDet fun ctx => { ctx with pCCData := some closeChannelData }
    lunchCloseChannel closeChannelData.channelId
    modify fun s =>
      { putBipChannel closeChannelData.channelId (removeFromStkContextList c s).2 with s_curBipChannelID := 0 }

def clientReceiveData (beyond : Mem) (around : Int → Byte) (tlvs : List TLV) (cmdDet : CommandDetails) : M Unit := do
  let receiveData := processReceiveData (beyond 0) tlvs
  let c ← deref (getStkContext receiveData.channelId (← get))
  giveCommand c cmdDet fun ctx => { ctx with pRCData := some receiveData }
  lunchReceiveData around receiveData.channelId

/-- The status is always that of channel 1. -/
def clientGetChannelStatus (cmdDet : CommandDetails) : M Unit := do
  match getStkContext DEFAULT_CHANNELID (← get) with
  | none => sendTerminalResponse (some cmdDet) OK none (.channelStatus 0 [])
  | some c => do
    giveCommand c cmdDet id
    lunchGetChannelStatus DEFAULT_CHANNELID

/-- The `switch` over the type of the command. -/
def clientCommand (beyond : Mem) (around : Int → Byte) (tlvs : List TLV) (cmdDet : CommandDetails) : M Unit :=
  if cmdDet.typeOfCommand = OPEN_CHANNEL then clientOpenChannel tlvs cmdDet
  else if cmdDet.typeOfCommand = SEND_DATA then clientSendData tlvs cmdDet
  else if cmdDet.typeOfCommand = CLOSE_CHANNEL then clientCloseChannel tlvs cmdDet
  else if cmdDet.typeOfCommand = RECEIVE_DATA then clientReceiveData beyond around tlvs cmdDet
  else if cmdDet.typeOfCommand = GET_CHANNEL_STATUS then clientGetChannelStatus cmdDet
  else pure ()

/-- The details that are answered when they could not be read: a new structure is all zeros. -/
def noDetails : CommandDetails := { commandNumber := 0, typeOfCommand := 0, commandQualifier := 0, compRequired := false }

/-- `rawData` is the text behind `+SPUSATPROCMDIND:`. -/
def processBipClient (beyond : Mem) (around : Int → Byte) (rawData : List Byte) : M Unit :=
  match parseProCommand beyond rawData with
  | .OK berTlv =>
    match processCommandDetails berTlv.compTlvs with
    | none => sendTerminalResponse (some noDetails) CMD_DATA_NOT_UNDERSTOOD none .none
    | some cmdDet =>
      if berTlv.lengthValid then clientCommand beyond around berTlv.compTlvs cmdDet
      else sendTerminalResponse (some cmdDet) CMD_DATA_NOT_UNDERSTOOD none .none
  | _ => pure ()

/-! ## The line +SPUSATPROCMDIND -/

/-- With the property `persist.vendor.radio.bipmode` at "single", the context at the head makes room
for the new one, and the current channel is put. -/
def clearForOpenChannel (s : State) : State :=
  match s.s_stkContextList with
  | none => s
  | some head =>
    putBipChannel s.s_curBipChannelID (removeFromStkContextList (s.nodes head).pstkcontext s).2

/-- A BIP command of the card. -/
structure Proactive where
  /-- The mode is "single". -/
  single : Bool
  response : List Byte
  beyond : Mem
  around : Int → Byte

/-- What `processStkUnsolicited` and the thread that it starts do with a BIP command. -/
def processProactive (p : Proactive) : M Unit := do
  let cmdType := cmdTypeOf p.response p.beyond
  whenE (cmdType = CLOSE_CHANNEL) (note .RIL_UNSOL_STK_PROACTIVE_COMMAND)
  whenE (cmdType = OPEN_CHANNEL ∧ p.single) (modify clearForOpenChannel)
  whenE (cmdType ∈ [OPEN_CHANNEL, CLOSE_CHANNEL, RECEIVE_DATA, SEND_DATA, GET_CHANNEL_STATUS])
    (processBipClient p.beyond p.around p.response)

end UniRil.Stk
