import UniRil.Lib.FailRules
import UniRil.Stk.Contexts

/-!
# BIP sessions (ril_stk_bip.c)

A function that leaves its pointers or its buffers does not come back; what it has sent until then
stays sent.
-/

namespace UniRil.Stk

open FailRules

inductive Fault
  | nullPointer
  | bufferOverflow
  /-- The function waits for what never comes. -/
  | blocked
  deriving DecidableEq

abbrev M := ExceptT Fault (StateM State)

/-- The state when the function has come to its end. -/
def completed (m : M Unit) (s : State) : Option State :=
  match m s with
  | (.ok _, s') => some s'
  | (.error _, _) => none

theorem completed_eq_some_iff {m : M Unit} {s s' : State} : completed m s = some s' ↔ m s = (.ok (), s') := by
  unfold completed
  split
  · rename_i h
    rw [h, Option.some.injEq, Prod.mk.injEq]
    exact (and_iff_right rfl).symm
  · rename_i h
    rw [h]
    exact iff_of_false (fun heq => nomatch heq) fun heq => nomatch congrArg Prod.fst heq

def note (e : Event) : M Unit := modify fun s => { s with log := s.log ++ [e] }

/-- What a pointer leads to. -/
def deref {α : Type} (p : Option α) : M α :=
  match p with
  | none => throw .nullPointer
  | some a => pure a

def readContext {α : Type} (c : Addr) (f : StkContext → α) : M α := do
  let s ← get
  pure (f (s.contexts c))

def modifyContext (c : Addr) (f : StkContext → StkContext) : M Unit := modify (·.setContext c f)

/-! ## Terminal responses -/

def ofInt (n : Int) : Byte := UInt8.ofNat (n % 256).toNat

/-- The tag 0x36, 0x37 or 0x38 with its comprehension bit, and the fields behind it. -/
def ResponseBody.bytes : ResponseBody → List Byte
  | .none => []
  | .channelStatus first others =>
    [0xB8, 0x02, first] ++ others.flatMap (fun status => [0x00, 0xB8, 0x02, status]) ++ [0x00]
  | .channelDataLength channelLen => [0xB7, 0x01, ofInt channelLen]
  | .channelData data dataLen =>
    let nRawDataLen := UInt8.ofNat data.length
    0xB6 :: (if data.length < 0x80 then [nRawDataLen] else [0x81, nRawDataLen]) ++ data ++ [0xB7, 0x01, ofInt dataLen]

def TerminalResponse.bytes (r : TerminalResponse) : List Byte :=
  let required : Nat := if r.cmdDet.compRequired then 0x80 else 0
  [UInt8.ofNat (COMMAND_DETAILS ||| required), 0x03, UInt8.ofNat r.cmdDet.commandNumber,
    UInt8.ofNat r.cmdDet.typeOfCommand, UInt8.ofNat r.cmdDet.commandQualifier, 0x82, 0x02, 0x82, 0x81,
    UInt8.ofNat (RESULT ||| required), if r.additionalInfo.isSome then 2 else 1, UInt8.ofNat r.resCode] ++
  (r.additionalInfo.toList.map UInt8.ofNat ++ r.body.bytes)

/-- The response fits into `buf`, and its hex text with the NUL into `hexString`. -/
def TerminalResponse.fits (r : TerminalResponse) : Bool := r.bytes.length < MAX_BUFFER_BYTES / 2

def sendTerminalResponse (pCmdDet : Option CommandDetails) (resCode : Nat) (additionalInfo : Option Nat)
    (body : ResponseBody) : M Unit :=
  match pCmdDet with
  | none => pure ()
  | some cmdDet => do
    let r : TerminalResponse := { cmdDet := cmdDet, resCode := resCode, additionalInfo := additionalInfo, body := body }
    if r.fits then note (.sendTRData r) else throw .bufferOverflow

/-- The nodes from `tmpList` to the end of the ring, without `tmpList`. -/
def nodesAfter (head : Addr) (s : State) : Nat → Addr → List Addr
  | 0, _ => []
  | fuel + 1, tmpList =>
    if (s.nodes tmpList).next = head then []
    else (s.nodes tmpList).next :: nodesAfter head s fuel (s.nodes tmpList).next

/-- The status byte of a context that is not the first. -/
def statusByte (c : StkContext) : Byte := UInt8.ofNat (c.channel_id ||| if c.openchannelCid ≠ 0 then 0x80 else 0)

/-- The answer to GET CHANNEL STATUS, when there is a context. -/
def channelStatusBody (status : ChannelStatus) (s : State) : ResponseBody :=
  match s.s_stkContextList with
  | none => .channelStatus 0 []
  | some head =>
    .channelStatus (if status.linkStatus then UInt8.ofNat (status.channelId ||| 0x80) else 0)
      ((nodesAfter head s s.fresh head).map fun a => statusByte (s.contexts (s.nodes a).pstkcontext))

/-- The commands that are answered through `onCmdResponse`, with what their answers carry. -/
inductive Response
  | CLOSE_CHANNEL
  | SEND_DATA (channelDataLen : Int)
  | RECEIVE_DATA (channelData : Option (List Byte)) (channelDataLen : Int)
  | GET_CHANNEL_STATUS (status : ChannelStatus)

def bytesOfHex (hex : Option (List Byte)) : List Byte := (convertHexToBin (hex.getD [])).2

/-- What `sendTerminalResponse` appends after the result. -/
def Response.body (resCode : Nat) (s : State) : Response → ResponseBody
  | .CLOSE_CHANNEL => .none
  | .SEND_DATA channelDataLen => .channelDataLength (if resCode = OK then channelDataLen else 0)
  | .RECEIVE_DATA channelData channelDataLen =>
    if resCode = OK then .channelData (bytesOfHex channelData) channelDataLen else .channelData [] 0
  | .GET_CHANNEL_STATUS status => channelStatusBody status s

/-- For the codes `OK`, `BEYOND_TERMINAL_CAPABILITY` and, after CLOSE CHANNEL, `BIP_ERROR`. -/
def onCmdResponse (c : Addr) (resCode : Nat) (response : Response) : M Unit := do
  let s ← get
  sendTerminalResponse (s.contexts c).pCmdDet resCode none (response.body resCode s)

def sendChannelStatusResponse (c : Addr) (resCode : Nat) : M Unit := do
  let status ← readContext c (·.channelStatus)
  onCmdResponse c resCode (.GET_CHANNEL_STATUS status)

def SendDataResponse (c : Addr) (len : Int) (resCode : Nat) : M Unit := onCmdResponse c resCode (.SEND_DATA len)

/-- The text is duplicated before it is looked at. -/
def ReceiveDataResponse (c : Addr) (dataStr : Option (List Byte)) (len : Int) (resCode : Nat) : M Unit := do
  let channelData ← deref dataStr
  onCmdResponse c resCode (.RECEIVE_DATA (some channelData) len)

def SendCloseChannelResponse (c : Addr) (resCode : Nat) : M Unit := onCmdResponse c resCode .CLOSE_CHANNEL

/-! ## OPEN CHANNEL -/

/-- The socket was created: the buffer is not larger than the RIL allows. The answer is left out. -/
def createSocketThread (c : Addr) : M Unit :=
  modifyContext c fun ctx =>
    { ctx with
      channelStatus := { channelId := DEFAULT_CHANNELID, linkStatus := true }
      needRuning := true
      pOCData := ctx.pOCData.map fun d =>
        if DEFAULT_BUFFER_SIZE < d.bufferSize then { d with bufferSize := DEFAULT_BUFFER_SIZE } else d }

/-! ## GET CHANNEL STATUS -/

def lunchGetChannelStatus (channel_id : Nat) : M Unit := do
  match getStkContext channel_id (← get) with
  | none => pure ()
  | some c => sendChannelStatusResponse c OK

/-! ## SEND DATA -/

/-- What the socket has taken of the data, and the answers left; `none` while it takes no more. -/
def blockingWrite (fd : Int) : List WriteResult → List Byte → Option (List Event × List WriteResult)
  | writes, [] => some ([], writes)
  | [], _ :: _ => none
  | .again :: writes, b :: data => blockingWrite fd writes (b :: data)
  | .failed :: writes, _ :: _ => some ([.close fd], writes)
  | .written n :: writes, b :: data =>
    (blockingWrite fd writes ((b :: data).drop n)).map fun r => (.write fd ((b :: data).take n) :: r.1, r.2)

def sendStrData (fd : Int) (data : List Byte) : M Unit :=
  if fd < 0 ∨ MAX_BUFFER_BYTES < data.length then pure ()
  else do
    let s ← get
    match blockingWrite fd s.writes data with
    | none => throw .blocked
    | some (events, writes) => set { s with log := s.log ++ events, writes := writes }

/-- The new `sendDataLen` and the result. -/
def CalcChannelDataLen (mode : Nat) (sendlen sendDataLen bufferSize : Int) : Int × Int :=
  let sendDataLen := if mode = SEND_DATA_IMMEDIATELY then 0 else sendDataLen + sendlen
  (sendDataLen,
    if bufferSize - sendDataLen > RECEIVE_DATA_MAX_TR_LEN then 0xff else bufferSize - sendDataLen)

def strlcat (dst src : List Byte) (size : Nat) : List Byte := if size ≤ dst.length then dst else (dst ++ src).take (size - 1)

/-- The storer with the data of the command behind what was stored. -/
def appendSendData (c : Addr) : M Unit := do
  let pSCData ← deref (← readContext c (·.pSCData))
  let sendDataStr ← deref pSCData.sendDataStr
  modifyContext c fun ctx => { ctx with sendDataStorer := strlcat ctx.sendDataStorer sendDataStr MAX_BUFFER_BYTES }

def answerSendData (c : Addr) (mode : Nat) (sendlen : Int) : M Unit := do
  let pOCData ← deref (← readContext c (·.pOCData))
  let sendDataLen ← readContext c (·.sendDataLen)
  let channellen := CalcChannelDataLen mode sendlen sendDataLen pOCData.bufferSize
  modifyContext c fun ctx => { ctx with sendDataLen := channellen.1 }
  SendDataResponse c channellen.2 OK

/-- The bytes that `pStr` holds for the text, and zeros where the text was not hex. -/
def binOfHex (hex : List Byte) : List Byte :=
  ((convertHexToBin hex).2 ++ List.replicate (hex.length / 2) 0).take (hex.length / 2)

def sendImmediately (c : Addr) (fdSocketId : Int) (mode : Nat) (sendlen : Int) : M Unit := do
  appendSendData c
  sendStrData fdSocketId (binOfHex (← readContext c (·.sendDataStorer)))
  answerSendData c mode sendlen
  let threadInLoop ← readContext c (·.threadInLoop)
  whenE (threadInLoop = false) (note .receiveDataThread)
  modifyContext c fun ctx => { ctx with sendDataStorer := [] }

/-- The socket of the transport, -1 for none, or `none` when there is no such transport. -/
def fdSocketIdOf (ctx : StkContext) (transportType : Nat) : Option Int :=
  if transportType = TRANSPORT_TYPE_TCP then some ctx.tcpSocket
  else if transportType = TRANSPORT_TYPE_UDP then some ctx.udpSocket
  else none

def lunchSendData (channel_id : Nat) : M Unit := do
  match getStkContext channel_id (← get) with
  | none => pure ()
  | some c => do
    let pCmdDet ← deref (← readContext c (·.pCmdDet))
    let pSCData ← deref (← readContext c (·.pSCData))
    let pOCData ← deref (← readContext c (·.pOCData))
    let sendlen : Int := (pSCData.sendDataStr.getD []).length / 2
    match ← readContext c (fdSocketIdOf · pOCData.transportType) with
    | none => SendDataResponse c 0 BEYOND_TERMINAL_CAPABILITY
    | some fdSocketId =>
      if fdSocketId = -1 then SendDataResponse c 0 BEYOND_TERMINAL_CAPABILITY
      else if pCmdDet.commandQualifier = SEND_DATA_STORE then do
        appendSendData c
        answerSendData c pCmdDet.commandQualifier sendlen
      else sendImmediately c fdSocketId pCmdDet.commandQualifier sendlen

/-! ## RECEIVE DATA -/

/-- A packet has come in: the stores of `receiveDataThread`. -/
def storePacket (c : Addr) (packet : List Byte) : M Unit :=
  modifyContext c fun ctx =>
    { ctx with recevieData := some packet, receiveDataLen := packet.length, receiveDataOffset := 0 }

/-- `count` bytes from `offset` on, with what lies around the packet. -/
def copyFrom (packet : List Byte) (beyond : Int → Byte) (offset : Int) (count : Nat) : List Byte :=
  (List.range count).map fun (i : Nat) =>
    if 0 ≤ offset + i ∧ offset + i < packet.length then packet.getD (offset + i).toNat 0 else beyond (offset + i)

/-- The remaining length as it is reported. -/
def reportedLen (remainLen : Int) : Int := if remainLen > RECEIVE_DATA_MAX_TR_LEN then 0xff else remainLen

/-- How many bytes are copied, and the remaining length. A request for a block is not compared with what is left. -/
def receiveLengths (channelDataLength receiveDataLen : Int) : Int × Int :=
  if channelDataLength ≥ RECEIVE_DATA_MAX_TR_LEN then
    (RECEIVE_DATA_MAX_TR_LEN, reportedLen (receiveDataLen - RECEIVE_DATA_MAX_TR_LEN))
  else if receiveDataLen > channelDataLength then (channelDataLength, reportedLen (receiveDataLen - channelDataLength))
  else (receiveDataLen, 0)

/-- The length and the offset that are left. -/
def afterReceive (channelDataLength receiveDataLen receiveDataOffset : Int) : Int × Int :=
  let (count, remainLen) := receiveLengths channelDataLength receiveDataLen
  if channelDataLength < RECEIVE_DATA_MAX_TR_LEN ∧ remainLen = 0 then (0, 0)
  else (receiveDataLen - count, receiveDataOffset + count)

def receiveBytes (beyond : Int → Byte) (c : Addr) (packet : List Byte) (channelDataLength : Int) : M Unit := do
  let receiveDataLen ← readContext c (·.receiveDataLen)
  let receiveDataOffset ← readContext c (·.receiveDataOffset)
  let (count, remainLen) := receiveLengths channelDataLength receiveDataLen
  let data := copyFrom packet beyond receiveDataOffset count.toNat
  note (.copy receiveDataOffset count.toNat)
  let left := afterReceive channelDataLength receiveDataLen receiveDataOffset
  modifyContext c fun ctx =>
    { ctx with
      receiveDataLen := left.1
      receiveDataOffset := left.2
      recevieData := if left.1 ≤ 0 then none else ctx.recevieData }
  ReceiveDataResponse c (some (convertBinToHex data)) remainLen OK

def lunchReceiveData (beyond : Int → Byte) (channel_id : Nat) : M Unit := do
  match getStkContext channel_id (← get) with
  | none => pure ()
  | some c => do
    let pRCData ← deref (← readContext c (·.pRCData))
    let receiveDataLen ← readContext c (·.receiveDataLen)
    match ← readContext c (·.recevieData) with
    | some packet =>
      if receiveDataLen > 0 then receiveBytes beyond c packet pRCData.channelDataLength
      else ReceiveDataResponse c none 0 BEYOND_TERMINAL_CAPABILITY
    | none => ReceiveDataResponse c none 0 BEYOND_TERMINAL_CAPABILITY

/-! ## CLOSE CHANNEL -/

def endConnectivity (c : Addr) : M Unit := do
  note (.requestDeactiveDataConnection (← readContext c (·.openchannelCid)))
  modifyContext c fun ctx => { ctx with openchannelCid := -1 }

def closeSocket (c : Addr) : M Unit := do
  let tcpSocket ← readContext c (·.tcpSocket)
  let udpSocket ← readContext c (·.udpSocket)
  if tcpSocket ≠ -1 then
    note (.close tcpSocket)
    modifyContext c fun ctx => { ctx with tcpSocket := -1 }
  else if udpSocket ≠ -1 then
    note (.close udpSocket)
    modifyContext c fun ctx => { ctx with udpSocket := -1 }

def lunchCloseChannel (channel_id : Nat) : M Unit := do
  match getStkContext channel_id (← get) with
  | none => pure ()
  | some c => do
    modifyContext c fun ctx => { ctx with needRuning := false }
    closeSocket c
    modifyContext c fun ctx => { ctx with receiveDataLen := 0, receiveDataOffset := 0, sendDataLen := 0 }
    let pOCData ← readContext c (·.pOCData)
    if pOCData.isSome then
      endConnectivity c
      SendCloseChannelResponse c OK
    else SendCloseChannelResponse c BIP_ERROR

end UniRil.Stk
