import UniRil.Lib.Ring
import UniRil.Stk.Parser

/-!
# BIP contexts and channels (ril_stk.c)

The state of one SIM. Pointers are addresses; those that `calloc` gives out are not used again.
-/

namespace UniRil.Stk

open Rings

abbrev Addr := Nat

def MAX_BIP_CHANNELS : Nat := 7
def DEFAULT_BUFFER_SIZE : Nat := 0x05DC
def RECEIVE_DATA_MAX_TR_LEN : Int := 0xED
def DEFAULT_CHANNELID : Nat := 0x01
def MAX_BUFFER_BYTES : Nat := 8 * 1024

def TRANSPORT_TYPE_UDP : Nat := 1
def TRANSPORT_TYPE_TCP : Nat := 2

def SEND_DATA_STORE : Nat := 0
def SEND_DATA_IMMEDIATELY : Nat := 1

inductive BipChannelState
  | BIP_CHANNEL_IDLE
  | BIP_CHANNEL_BUSY
  deriving DecidableEq

structure ChannelStatus where
  channelId : Nat
  linkStatus : Bool
  deriving DecidableEq

/-- The members that the modelled functions read. -/
structure StkContext where
  channel_id : Nat
  tcpSocket : Int
  udpSocket : Int
  openchannelCid : Int
  sendDataLen : Int
  receiveDataLen : Int
  receiveDataOffset : Int
  needRuning : Bool
  threadInLoop : Bool
  /-- The C string in the buffer. -/
  sendDataStorer : List Byte
  recevieData : Option (List Byte)
  channelStatus : ChannelStatus
  pOCData : Option OpenChannelData
  pSCData : Option SendChannelData
  pRCData : Option ReceiveChannelData
  pCCData : Option CloseChannelData
  pCmdDet : Option CommandDetails
  deriving DecidableEq

structure StkContextList where
  pstkcontext : Addr
  prev : Addr
  next : Addr
  deriving DecidableEq

/-! ## What goes out -/

/-- What follows the result in a terminal response. -/
inductive ResponseBody
  | none
  /-- The status bytes of the first context and of the others. -/
  | channelStatus (first : Byte) (others : List Byte)
  | channelDataLength (channelLen : Int)
  | channelData (data : List Byte) (dataLen : Int)
  deriving DecidableEq

structure TerminalResponse where
  cmdDet : CommandDetails
  resCode : Nat
  additionalInfo : Option Nat
  body : ResponseBody
  deriving DecidableEq

inductive Event
  /-- AT+SPUSATTERMINAL with the response in hex. -/
  | sendTRData (response : TerminalResponse)
  /-- What the socket has taken at once. -/
  | write (fd : Int) (data : List Byte)
  | close (fd : Int)
  /-- So many bytes are copied out of the packet, from the offset on. -/
  | copy (receiveDataOffset : Int) (count : Nat)
  | requestDeactiveDataConnection (cid : Int)
  | receiveDataThread
  | lunchOpenChannel (channel_id : Nat)
  | RIL_UNSOL_STK_PROACTIVE_COMMAND
  deriving DecidableEq

/-- What `write` answers: so many bytes, `EINTR` or `EAGAIN`, or another error. -/
inductive WriteResult
  | written (n : Nat)
  | again
  | failed
  deriving DecidableEq

structure State where
  s_stkContextList : Option Addr
  nodes : Addr → StkContextList
  contexts : Addr → StkContext
  /-- The next address that `calloc` gives out. -/
  fresh : Addr
  s_curBipChannelID : Nat
  s_bipState : Nat → BipChannelState
  s_lunchOpenChannelDialog : Bool
  /-- The answers of `write` to come. -/
  writes : List WriteResult
  log : List Event

/-! ## Channels -/

def putBipChannel (channelID : Nat) (s : State) : State :=
  if channelID < 1 ∨ MAX_BIP_CHANNELS < channelID then s
  else if s.s_bipState (channelID - 1) ≠ .BIP_CHANNEL_BUSY then s
  else { s with s_bipState := Function.update s.s_bipState (channelID - 1) .BIP_CHANNEL_IDLE }

/-- `none` while all channels are busy: the function waits for one. -/
def getBipChannel (s : State) : Option (Nat × State) :=
  ((List.range MAX_BIP_CHANNELS).find? fun channelID => s.s_bipState channelID = .BIP_CHANNEL_IDLE).map
    fun channelID =>
      (channelID + 1, { s with s_bipState := Function.update s.s_bipState channelID .BIP_CHANNEL_BUSY })

/-! ## The ring of contexts -/

def State.setNode (s : State) (a : Addr) (f : StkContextList → StkContextList) : State :=
  { s with nodes := Function.update s.nodes a (f (s.nodes a)) }

def State.setContext (s : State) (a : Addr) (f : StkContext → StkContext) : State :=
  { s with contexts := Function.update s.contexts a (f (s.contexts a)) }

/-- The stores to a context that `calloc` has cleared. -/
def initialContext (channel_id : Nat) (openChannelData : OpenChannelData) (cmdDet : CommandDetails) : StkContext where
  channel_id := channel_id
  tcpSocket := -1
  udpSocket := -1
  openchannelCid := -1
  sendDataLen := 0
  receiveDataLen := 0
  receiveDataOffset := 0
  needRuning := false
  threadInLoop := false
  sendDataStorer := []
  recevieData := none
  channelStatus := { channelId := 0, linkStatus := false }
  pOCData := some openChannelData
  pSCData := none
  pRCData := none
  pCCData := none
  pCmdDet := some cmdDet

/-- `calloc` and `initStkContext`. -/
def initStkContext (openChannelData : OpenChannelData) (cmdDet : CommandDetails) (s : State) : Option (Addr × State) :=
  (getBipChannel s).map fun (channel_id, s) =>
    (s.fresh, { s.setContext s.fresh (fun _ => initialContext channel_id openChannelData cmdDet) with
      fresh := s.fresh + 1, s_curBipChannelID := channel_id })

def addToStkContextList (pstkcontext : Addr) (s : State) : State :=
  let tmpList := s.fresh
  let s := { s with fresh := s.fresh + 1 }
  match s.s_stkContextList with
  | none =>
    { s.setNode tmpList (fun _ => { pstkcontext := pstkcontext, prev := tmpList, next := tmpList }) with
      s_stkContextList := some tmpList }
  | some head =>
    let s := s.setNode tmpList fun _ => { pstkcontext := pstkcontext, prev := (s.nodes head).prev, next := head }
    let s := s.setNode (s.nodes tmpList).prev fun n => { n with next := tmpList }
    s.setNode head fun n => { n with prev := tmpList }

/-- The stores that take a node out of the ring. -/
def unlinkNode (tmpList : Addr) (s : State) : State :=
  let s := s.setNode (s.nodes tmpList).next fun n => { n with prev := (s.nodes tmpList).prev }
  s.setNode (s.nodes tmpList).prev fun n => { n with next := (s.nodes tmpList).next }

/-- The inner loop of `removeFromStkContextList`; a walk goes over as many nodes as there can be. -/
def walkTo (pstkcontext head : Addr) (s : State) : Nat → Addr → Addr
  | 0, tmpList => tmpList
  | fuel + 1, tmpList =>
    if tmpList ≠ head ∧ pstkcontext ≠ (s.nodes tmpList).pstkcontext then
      walkTo pstkcontext head s fuel (s.nodes tmpList).next
    else tmpList

/-- The result says whether 1 is returned. -/
def removeFromStkContextList (pstkcontext : Addr) (s : State) : Bool × State :=
  match s.s_stkContextList with
  | none => (false, s)
  | some head =>
    if head = (s.nodes head).next then
      if pstkcontext ≠ (s.nodes head).pstkcontext then (false, s)
      else (true, { s with s_stkContextList := none })
    else if pstkcontext ≠ (s.nodes head).pstkcontext then
      -- the walk starts at the node where it stops
      let tmpList := walkTo pstkcontext head s s.fresh head
      if tmpList = head then (false, s) else (true, unlinkNode tmpList s)
    else
      let s := unlinkNode head s
      (true, { s with s_stkContextList := some (s.nodes head).next })

/-- The loop of `getStkContext` from a node on. -/
def getStkContextFrom (channel_id : Nat) (head : Addr) (s : State) : Nat → Addr → Option Addr
  | 0, _ => none
  | fuel + 1, tmp =>
    if channel_id = (s.contexts (s.nodes tmp).pstkcontext).channel_id then some (s.nodes tmp).pstkcontext
    else if (s.nodes tmp).next = head then none
    else getStkContextFrom channel_id head s fuel (s.nodes tmp).next

def getStkContext (channel_id : Nat) (s : State) : Option Addr :=
  s.s_stkContextList.bind fun head => getStkContextFrom channel_id head s s.fresh head

end UniRil.Stk
