import UniRil.Hex

/-!
# Proactive commands (ril_stk_parser.c)

A pointer into the command is an offset into `Mem`. What a pointer reads behind the end of an
allocation is left open: it is a parameter.
-/

namespace UniRil.Stk

abbrev Mem := Nat → Byte

def OK : Nat := 0x00
def PRFRMD_WITH_MODIFICATION : Nat := 0x07
def TERMINAL_CRNTLY_UNABLE_TO_PROCESS : Nat := 0x20
def BEYOND_TERMINAL_CAPABILITY : Nat := 0x30
def CMD_DATA_NOT_UNDERSTOOD : Nat := 0x32
def BIP_ERROR : Nat := 0x3a

def PROACTIVE_COMMAND_TAG : Nat := 0xD0

def COMMAND_DETAILS : Nat := 0x01
def DEVICE_IDENTITIES : Nat := 0x02
def RESULT : Nat := 0x03
def ALPHA_ID : Nat := 0x05
def BEARER_DESCRIPTION : Nat := 0x35
def CHANNEL_DATA : Nat := 0x36
def CHANNEL_DATA_LENGTH : Nat := 0x37
def CHANNEL_STATUS : Nat := 0x38
def BUFFER_SIZE : Nat := 0x39
def TRANSPORT_LEVEL : Nat := 0x3c

def OPEN_CHANNEL : Nat := 0x40
def CLOSE_CHANNEL : Nat := 0x41
def RECEIVE_DATA : Nat := 0x42
def SEND_DATA : Nat := 0x43
def GET_CHANNEL_STATUS : Nat := 0x44

/-! ## COMPREHENSION-TLVs -/

structure TLV where
  tag : Nat
  cr : Nat
  length : Nat
  /-- The `length` bytes behind the pointer. -/
  value : List Byte
  deriving DecidableEq

/-- The tag, the comprehension bit and the offset behind them. -/
def decodeTag (mem : Mem) (pByt : Nat) : Option (Nat × Nat × Nat) :=
  match (mem pByt).toNat with
  | 0 => some (0, 0, pByt + 1)
  | 0xff => none
  | 0x80 => none
  | 0x7f =>
    -- both halves are read from the first byte
    let tag := (mem (pByt + 1)).toNat <<< 8 ||| (mem (pByt + 1)).toNat
    some (tag &&& 0x7fff, if tag &&& 0x8000 = 0 then 0 else 1, pByt + 4)
  | temp => some (temp &&& 0x7f, if temp &&& 0x80 = 0 then 0 else 1, pByt + 1)

/-- The length and the offset of the value. The long forms read and skip what they should not. -/
def decodeLength (mem : Mem) (pByt : Nat) : Option (Nat × Nat) :=
  let temp := (mem pByt).toNat
  let next := (mem (pByt + 1)).toNat
  if temp < 0x80 then some (temp, pByt + 1)
  else if temp = 0x81 then if next < 0x80 then none else some (next, pByt + 2)
  else if temp = 0x82 then
    let length := next <<< 8 ||| next
    if length < 0x100 then none else some (length, pByt + 4)
  else if temp = 0x83 then
    let length := next <<< 16 ||| next <<< 8 ||| (mem (pByt + 4)).toNat
    if length < 0x10000 then none else some (length, pByt + 7)
  else none

def decode (mem : Mem) (data : Nat) : Option TLV := do
  let (tag, cr, pByt) ← decodeTag mem data
  let (length, pByt) ← decodeLength mem pByt
  pure { tag := tag, cr := cr, length := length, value := (List.range length).map fun i => mem (pByt + i) }

/-! ## The BER-TLV -/

structure BerTlv where
  tag : Nat
  compTlvs : List TLV
  lengthValid : Bool
  deriving DecidableEq

/-- The result of `parseProCommand`, with `berTlv` when it was filled. -/
inductive Parsed
  | OK (berTlv : BerTlv)
  | CMD_DATA_NOT_UNDERSTOOD
  | REQUIRED_VALUES_MISSING
  | RESULT_EXCEPTION
  deriving DecidableEq

/-- By how much `pStr` and `count` move on. -/
def advance (length : Nat) : Nat :=
  if 0x80 ≤ length ∧ length ≤ 0xFF then length + 3 else if length < 0x80 then length + 2 else length

theorem advance_pos (length : Nat) : 0 < advance length := by
  unfold advance
  split
  · omega
  · split
    · omega
    · omega

/-- The loop of `parseProCommand`; a TLV that is not understood ends it without a list. -/
def parseTlvs (mem : Mem) (temp count pStr : Nat) : Option (List TLV) :=
  if count < temp then
    match decode mem pStr with
    | none => none
    | some tlv => (parseTlvs mem temp (count + advance tlv.length) (pStr + advance tlv.length)).map (tlv :: ·)
  else some []
termination_by temp - count
decreasing_by
  have := advance_pos tlv.length
  omega

/-- The second loop: whether it came to the end, and the length it found. -/
def totalLength : List TLV → Nat → Bool × Nat
  | [], total => (true, total)
  | tlv :: tlvs, total =>
    if 0x80 ≤ tlv.length ∧ tlv.length ≤ 0xFF then totalLength tlvs (total + (tlv.length + 3))
    else if tlv.length < 0x80 then totalLength tlvs (total + (tlv.length + 2))
    else (false, total)

/-- From the list on. The loop is bounded by `temp`, the total is compared with `proCmdLen`. -/
def parseBody (mem : Mem) (proCmdLen temp pStr : Nat) : Parsed :=
  if proCmdLen < 9 then .CMD_DATA_NOT_UNDERSTOOD
  else
    match parseTlvs mem temp 0 pStr with
    | none => .RESULT_EXCEPTION
    | some compTlvs =>
      let (isLengthValid, total) := totalLength compTlvs 0
      .OK { tag := PROACTIVE_COMMAND_TAG, compTlvs := compTlvs, lengthValid := isLengthValid && proCmdLen = total }

/-- The command of which `mem` holds the bytes. -/
def parseBytes (mem : Mem) : Parsed :=
  if (mem 0).toNat ≠ PROACTIVE_COMMAND_TAG then .CMD_DATA_NOT_UNDERSTOOD
  else
    let temp := (mem 1).toNat
    if temp < 0x80 then parseBody mem temp temp 2
    else if temp = 0x81 then
      let temp := (mem 2).toNat
      if temp < 0x80 then .CMD_DATA_NOT_UNDERSTOOD else parseBody mem temp temp 3
    else .CMD_DATA_NOT_UNDERSTOOD

/-- The bytes of the list, and behind them what the memory happens to hold. -/
def Mem.ofBytes (bytes : List Byte) (beyond : Mem) : Mem := fun i => bytes.getD i (beyond i)

/-- `length` is the length of the text. -/
def parseProCommand (beyond : Mem) (rawData : List Byte) : Parsed :=
  if rawData = [] then .REQUIRED_VALUES_MISSING
  else
    let (ok, pProCmd) := convertHexToBin rawData
    if ok then parseBytes (.ofBytes pProCmd beyond) else .RESULT_EXCEPTION

/-! ## The parameters of the commands -/

structure CommandDetails where
  commandNumber : Nat
  typeOfCommand : Nat
  commandQualifier : Nat
  compRequired : Bool
  deriving DecidableEq

/-- `none` stands for -1. -/
def processCommandDetails : List TLV → Option CommandDetails
  | [] => none
  | tlv :: tlvs =>
    if tlv.tag = COMMAND_DETAILS then
      if tlv.length < 3 then none
      else some
        { commandNumber := (tlv.value.getD 0 0).toNat
          typeOfCommand := (tlv.value.getD 1 0).toNat
          commandQualifier := (tlv.value.getD 2 0).toNat
          compRequired := tlv.cr ≠ 0 }
    else processCommandDetails tlvs

structure OpenChannelData where
  bufferSize : Nat
  transportType : Nat
  /-- `channelData.text != NULL` -/
  hasText : Bool
  deriving DecidableEq

structure SendChannelData where
  channelId : Nat
  sendDataStr : Option (List Byte)
  deriving DecidableEq

structure ReceiveChannelData where
  channelId : Nat
  channelDataLength : Nat
  deriving DecidableEq

structure CloseChannelData where
  channelId : Nat
  deriving DecidableEq

/-- The loop of the functions below. A short DEVICE_IDENTITIES ends it, and `resCode` is OK all the same. -/
def scanTlvs {δ : Type} (setChannelId : Nat → δ → δ) (other : TLV → δ → δ) : List TLV → δ → δ
  | [], d => d
  | tlv :: tlvs, d =>
    if tlv.tag = DEVICE_IDENTITIES then
      if tlv.length < 2 then d
      -- the second byte is the destination
      else scanTlvs setChannelId other tlvs (setChannelId ((tlv.value.getD 1 0).toNat &&& 0x0f) d)
    else scanTlvs setChannelId other tlvs (other tlv d)

def processSendData (tlvs : List TLV) : SendChannelData :=
  scanTlvs (fun channelId d => { d with channelId := channelId })
    (fun tlv d =>
      if tlv.tag = CHANNEL_DATA then { d with sendDataStr := some (convertBinToHex tlv.value) } else d)
    tlvs { channelId := 0, sendDataStr := none }

/-- An empty CHANNEL_DATA_LENGTH is read all the same. -/
def processReceiveData (beyond : Byte) (tlvs : List TLV) : ReceiveChannelData :=
  scanTlvs (fun channelId d => { d with channelId := channelId })
    (fun tlv d =>
      if tlv.tag = CHANNEL_DATA_LENGTH then { d with channelDataLength := (tlv.value.headD beyond).toNat } else d)
    tlvs { channelId := 0, channelDataLength := 0 }

def processCloseChannel (tlvs : List TLV) : CloseChannelData :=
  scanTlvs (fun channelId _ => { channelId := channelId }) (fun _ d => d) tlvs { channelId := 0 }

/-- The members that the modelled functions read. -/
def processOpenChannel : List TLV → OpenChannelData → OpenChannelData
  | [], d => d
  | tlv :: tlvs, d =>
    if tlv.tag = ALPHA_ID then processOpenChannel tlvs { d with hasText := 0 < tlv.length }
    else if tlv.tag = BEARER_DESCRIPTION ∧ tlv.length = 0 then d
    else if tlv.tag = BUFFER_SIZE then
      if tlv.length < 2 then d
      else processOpenChannel tlvs
        { d with bufferSize := (tlv.value.getD 0 0).toNat <<< 8 ||| (tlv.value.getD 1 0).toNat }
    else if tlv.tag = TRANSPORT_LEVEL ∧ 2 < tlv.length then
      processOpenChannel tlvs { d with transportType := (tlv.value.getD 0 0).toNat }
    else processOpenChannel tlvs d

end UniRil.Stk
