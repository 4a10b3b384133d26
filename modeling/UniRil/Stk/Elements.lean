import UniRil.Decimal
import UniRil.Lib.Walks
import UniRil.Stk.Parser

/-!
# The parameters of the BIP commands, element by element (ril_stk_parser.c)

Each of the four functions is a loop over the COMPREHENSION-TLVs with a `break` at an element that is too
short, and sets `resCode` at its end. A plain `char` is unsigned, as the ARM ABI has it; for ASCII texts this
makes no difference.
-/

namespace UniRil.Stk.Elements

open Walks

def REQUIRED_VALUES_MISSING : Nat := 0x36

def TEXT_STRING : Nat := 0x0d
def ICON_ID : Nat := 0x1e
def OTHER_ADDRESS : Nat := 0x3e
def NETWORK_ACCESS_NAME : Nat := 0x47

def ADDRESS_TYPE_IPV4 : Nat := 0x21
def ADDRESS_TYPE_IPV6 : Nat := 0x57

def ARRAY_SIZE : Nat := 128
def MAX_BUFFER_BYTES : Nat := 8 * 1024

/-! ## Texts -/

def utf8Package (v : Nat) : List Byte :=
  if v < 128 then [UInt8.ofNat v]
  else if v < 0x800 then [UInt8.ofNat (0xc0 ||| v >>> 6), UInt8.ofNat (0x80 ||| v &&& 0x3f)]
  else if v < 0x10000 then
    [UInt8.ofNat (0xe0 ||| v >>> 12), UInt8.ofNat (0x80 ||| v >>> 6 &&& 0x3f), UInt8.ofNat (0x80 ||| v &&& 0x3f)]
  else
    [UInt8.ofNat (0xf0 ||| v >>> 18 &&& 0x7), UInt8.ofNat (0x80 ||| v >>> 12 &&& 0x3f),
      UInt8.ofNat (0x80 ||| v >>> 6 &&& 0x3f), UInt8.ofNat (0x80 ||| v &&& 0x3f)]

/-- The text that is put together from bytes. -/
def convertUcsToUtf8 (ucs2 : List Byte) : List Byte := ucs2.flatMap fun c => utf8Package c.toNat

/-- The bytes from `pStr` on. -/
def bytesAt (mem : Mem) (pStr count : Nat) : List Byte := (List.range count).map fun k => mem (pStr + k)

/-- The loop over the labels of a name of `length` bytes: what is put into `tmp`, and the position behind
the last byte that was read. The loop of a label that is cut short goes on with the `i` of the label before. -/
def labels (mem : Mem) (pStr length i : Nat) : List Byte × Nat :=
  if 1 < length then
    let tempLen := (mem pStr).toNat
    if tempLen < length then
      let label := convertUcsToUtf8 (bytesAt mem (pStr + 1) tempLen)
      if 1 < length - (tempLen + 1) then
        let (rest, last) := labels mem (pStr + 1 + tempLen) (length - (tempLen + 1)) tempLen
        (label ++ utf8Package 46 ++ rest, last)
      else (label, pStr + 1 + tempLen)
    else (convertUcsToUtf8 (bytesAt mem (pStr + 1) (length - 1 - i)), pStr + 1 + (length - 1 - i))
  else ([], pStr)
termination_by length
decreasing_by omega

/-! ## One element -/

/-- A TLV in memory. -/
structure Element where
  tlv : TLV
  /-- What lies behind the value, up to a NUL. -/
  beyond : List Byte

def Element.mem (e : Element) : Mem := fun i => (e.tlv.value ++ e.beyond).getD i NUL

/-- The byte at `i` of a value that has it. -/
def Element.byte (e : Element) (i : Nat) : Nat := (e.tlv.value.getD i 0).toNat

/-- The buffer that a text is put into. -/
inductive Buffer
  | text
  | BearerParam
  | NetAccessName
  | LoginStr
  | PwdStr
  deriving DecidableEq

structure Conversion where
  buffer : Buffer
  size : Nat
  produced : List Byte
  deriving DecidableEq

structure OpenChannelData where
  alphaIdLength : Nat
  NetAccessName : List Byte
  bufferSize : Nat
  BearerType : Nat
  BearerParam : List Byte
  OtherAddressType : Nat
  OtherAddress : List Byte
  LoginStr : List Byte
  PwdStr : List Byte
  transportType : Nat
  portNumber : Nat
  DataDstAddressType : Nat
  DataDstAddress : List Byte
  text : Option (List Byte)
  iconSelfExplanatory : Bool
  isNullAlphaId : Bool
  deriving DecidableEq

structure OpenChannel where
  openChannelData : OpenChannelData
  otherAddressCount : Nat
  textStringCount : Nat
  conversions : List Conversion
  deriving DecidableEq

def OpenChannel.modify (s : OpenChannel) (f : OpenChannelData → OpenChannelData) : OpenChannel :=
  { s with openChannelData := f s.openChannelData }

def OpenChannel.converts (s : OpenChannel) (c : Conversion) : OpenChannel :=
  { s with conversions := s.conversions ++ [c] }

/-- The buffer is as long as the text that starts at the value, and its NUL. -/
def alphaIdText (e : Element) : Conversion :=
  { buffer := .text, size := strlen (e.tlv.value ++ e.beyond) + 1, produced := convertUcsToUtf8 e.tlv.value }

def bearerParam (e : Element) : Conversion :=
  { buffer := .BearerParam, size := ARRAY_SIZE, produced := convertBinToHex (e.tlv.value.drop 1) }

def netAccessName (e : Element) : Conversion :=
  { buffer := .NetAccessName, size := ARRAY_SIZE * 2, produced := (labels e.mem 0 e.tlv.length 0).1 }

def loginStr (e : Element) (buffer : Buffer) : Conversion :=
  { buffer := buffer, size := MAX_BUFFER_BYTES / 4, produced := convertUcsToUtf8 (e.tlv.value.drop 1) }

/-- `snprintf(buffer, size, "%s", tmp)` -/
def Conversion.string (c : Conversion) : List Byte := (cstr c.produced).take (c.size - 1)

def alphaId (e : Element) (s : OpenChannel) : OpenChannel :=
  if e.tlv.length = 0 then s.modify fun d => { d with text := none, isNullAlphaId := true }
  else
    (s.converts (alphaIdText e)).modify fun d =>
      { d with text := some (alphaIdText e).produced, alphaIdLength := e.tlv.length, isNullAlphaId := false }

def iconId (e : Element) (s : OpenChannel) : OpenChannel :=
  if e.tlv.length = 0 then s else s.modify fun d => { d with iconSelfExplanatory := e.byte 0 = 0x00 }

def bearerDescription (e : Element) (s : OpenChannel) : Except Nat OpenChannel :=
  if e.tlv.length = 0 then .error CMD_DATA_NOT_UNDERSTOOD
  else if 1 < e.tlv.length then
    .ok ((s.converts (bearerParam e)).modify fun d =>
      { d with BearerType := e.byte 0, BearerParam := (bearerParam e).string })
  else .ok (s.modify fun d => { d with BearerType := e.byte 0 })

def bufferSize (e : Element) (s : OpenChannel) : Except Nat OpenChannel :=
  if e.tlv.length = 0 then .error REQUIRED_VALUES_MISSING
  else if e.tlv.length < 2 then .error CMD_DATA_NOT_UNDERSTOOD
  else .ok (s.modify fun d => { d with bufferSize := e.byte 0 <<< 8 ||| e.byte 1 })

def networkAccessName (e : Element) (s : OpenChannel) : OpenChannel :=
  if e.tlv.length = 0 then s.modify fun d => { d with NetAccessName := [] }
  else (s.converts (netAccessName e)).modify fun d => { d with NetAccessName := (netAccessName e).string }

/-- Two bytes stand between colons; 58 is a colon. -/
def ipv6Text : List Byte → List Byte
  | a :: b :: c :: rest => convertBinToHex [a, b] ++ 58 :: ipv6Text (c :: rest)
  | bytes => convertBinToHex bytes

/-- The text of an address, where the type and the length are those of one. 46 is a dot. -/
def addressText (e : Element) : Option (List Byte) :=
  if e.byte 0 = ADDRESS_TYPE_IPV4 ∧ e.tlv.length - 1 = 4 then
    some (decimal (e.byte 1) ++ 46 :: decimal (e.byte 2) ++ 46 :: decimal (e.byte 3) ++ 46 :: decimal (e.byte 4))
  else if e.byte 0 = ADDRESS_TYPE_IPV6 ∧ e.tlv.length - 1 = 16 then some (ipv6Text (e.tlv.value.drop 1))
  else none

/-- The first address is also the destination; the next one is the destination only. -/
def otherAddress (e : Element) (s : OpenChannel) : OpenChannel :=
  if s.otherAddressCount = 0 then
    { s with
      otherAddressCount := s.otherAddressCount + 1
      openChannelData :=
        if 1 < e.tlv.length then
          match addressText e with
          | some address =>
            { s.openChannelData with
              OtherAddressType := e.byte 0, DataDstAddressType := e.byte 0
              OtherAddress := address, DataDstAddress := address }
          | none => { s.openChannelData with OtherAddressType := 0, DataDstAddressType := e.byte 0, OtherAddress := [] }
        else s.openChannelData }
  else
    { s with
      otherAddressCount := s.otherAddressCount - 1
      openChannelData :=
        if 1 < e.tlv.length then
          match addressText e with
          | some address => { s.openChannelData with DataDstAddressType := e.byte 0, DataDstAddress := address }
          | none => { s.openChannelData with DataDstAddressType := 0, DataDstAddress := [] }
        else s.openChannelData }

/-- The first text is the user, the next one the password. -/
def textString (e : Element) (s : OpenChannel) : OpenChannel :=
  if s.textStringCount = 0 then
    let s := { s with textStringCount := s.textStringCount + 1 }
    if e.tlv.length = 0 then s.modify fun d => { d with LoginStr := [] }
    else (s.converts (loginStr e .LoginStr)).modify fun d => { d with LoginStr := cstr (loginStr e .LoginStr).produced }
  else
    let s := { s with textStringCount := s.textStringCount - 1 }
    if e.tlv.length = 0 then s.modify fun d => { d with PwdStr := [] }
    else (s.converts (loginStr e .PwdStr)).modify fun d => { d with PwdStr := cstr (loginStr e .PwdStr).produced }

def transportLevel (e : Element) (s : OpenChannel) : OpenChannel :=
  if 2 < e.tlv.length then
    s.modify fun d => { d with transportType := e.byte 0, portNumber := e.byte 1 <<< 8 ||| e.byte 2 }
  else s

def openChannelElement (e : Element) (s : OpenChannel) : Except Nat OpenChannel :=
  if e.tlv.tag = ALPHA_ID then .ok (alphaId e s)
  else if e.tlv.tag = ICON_ID then .ok (iconId e s)
  else if e.tlv.tag = BEARER_DESCRIPTION then bearerDescription e s
  else if e.tlv.tag = BUFFER_SIZE then bufferSize e s
  else if e.tlv.tag = NETWORK_ACCESS_NAME then .ok (networkAccessName e s)
  else if e.tlv.tag = OTHER_ADDRESS then .ok (otherAddress e s)
  else if e.tlv.tag = TEXT_STRING then .ok (textString e s)
  else if e.tlv.tag = TRANSPORT_LEVEL then .ok (transportLevel e s)
  else .ok s

/-! ## The commands that name their channel -/

/-- The members that the three commands share. -/
structure ChannelCommand where
  sourceId : Nat
  destinationId : Nat
  channelId : Nat
  text : Option (List Byte)
  iconSelfExplanatory : Bool
  deriving DecidableEq

/-- `α` is the parameter that a command has besides. -/
def deviceElement {α : Type} (tooShort : Nat) (other : Element → α → α) (e : Element) (d : ChannelCommand × α) :
    Except Nat (ChannelCommand × α) :=
  if e.tlv.tag = DEVICE_IDENTITIES then
    if e.tlv.length < 2 then .error tooShort
    else
      .ok ({ d.1 with sourceId := e.byte 0, destinationId := e.byte 1, channelId := e.byte 1 &&& 0x0f }, d.2)
  else if e.tlv.tag = ALPHA_ID then
    .ok ({ d.1 with text := if e.tlv.length = 0 then none else some (convertUcsToUtf8 e.tlv.value) }, d.2)
  else if e.tlv.tag = ICON_ID then
    .ok (if e.tlv.length = 0 then d else ({ d.1 with iconSelfExplanatory := e.byte 0 = 0x00 }, d.2))
  else .ok (d.1, other e d.2)

def sendDataElement :
    Element → ChannelCommand × Option (List Byte) → Except Nat (ChannelCommand × Option (List Byte)) :=
  deviceElement REQUIRED_VALUES_MISSING fun e sendDataStr =>
    if e.tlv.tag = CHANNEL_DATA then some (convertBinToHex e.tlv.value) else sendDataStr

/-- An empty CHANNEL_DATA_LENGTH is read all the same. -/
def receiveDataElement : Element → ChannelCommand × Nat → Except Nat (ChannelCommand × Nat) :=
  deviceElement CMD_DATA_NOT_UNDERSTOOD fun e channelDataLength =>
    if e.tlv.tag = CHANNEL_DATA_LENGTH then (e.mem 0).toNat else channelDataLength

def closeChannelElement : Element → ChannelCommand × Unit → Except Nat (ChannelCommand × Unit) :=
  deviceElement REQUIRED_VALUES_MISSING fun _ d => d

/-! ## The functions -/

/-- The data and `resCode` behind the loop. -/
def loop {δ : Type} (element : Element → δ → Except Nat δ) (es : List Element) (d : δ) (resCode : Nat) : δ × Nat :=
  let (d, code) := walk element es d
  (d, code.getD resCode)

/-- The last line of the function sets `resCode`, whatever the loop was left with. -/
def process {δ : Type} (element : Element → δ → Except Nat δ) (es : List Element) (d : δ) (resCode : Nat) : δ × Nat :=
  ((loop element es d resCode).1, OK)

def OpenChannel.start (openChannelData : OpenChannelData) : OpenChannel :=
  { openChannelData := openChannelData, otherAddressCount := 0, textStringCount := 0, conversions := [] }

def processOpenChannel (es : List Element) (openChannelData : OpenChannelData) (resCode : Nat) : OpenChannel × Nat :=
  process openChannelElement es (.start openChannelData) resCode

def processSendData :
    List Element → ChannelCommand × Option (List Byte) → Nat → (ChannelCommand × Option (List Byte)) × Nat :=
  process sendDataElement

def processReceiveData : List Element → ChannelCommand × Nat → Nat → (ChannelCommand × Nat) × Nat :=
  process receiveDataElement

def processCloseChannel : List Element → ChannelCommand × Unit → Nat → (ChannelCommand × Unit) × Nat :=
  process closeChannelElement

/-! ## Rejected elements -/

def rejectsOpenChannel (e : Element) : Option Nat :=
  if e.tlv.tag = BEARER_DESCRIPTION ∧ e.tlv.length = 0 then some CMD_DATA_NOT_UNDERSTOOD
  else if e.tlv.tag = BUFFER_SIZE ∧ e.tlv.length = 0 then some REQUIRED_VALUES_MISSING
  else if e.tlv.tag = BUFFER_SIZE ∧ e.tlv.length = 1 then some CMD_DATA_NOT_UNDERSTOOD
  else none

def rejectsDevice (tooShort : Nat) (e : Element) : Option Nat :=
  if e.tlv.tag = DEVICE_IDENTITIES ∧ e.tlv.length < 2 then some tooShort else none

theorem bearerDescription_cases (e : Element) (s : OpenChannel) :
    e.tlv.length = 0 ∧ bearerDescription e s = .error CMD_DATA_NOT_UNDERSTOOD ∨
      e.tlv.length ≠ 0 ∧ ∃ s', bearerDescription e s = .ok s' := by
  unfold bearerDescription
  split
  · rename_i hempty
    exact .inl ⟨hempty, rfl⟩
  · rename_i hempty
    refine .inr ⟨hempty, ?_⟩
    split
    · exact ⟨_, rfl⟩
    · exact ⟨_, rfl⟩

theorem bufferSize_cases (e : Element) (s : OpenChannel) :
    e.tlv.length = 0 ∧ bufferSize e s = .error REQUIRED_VALUES_MISSING ∨
      e.tlv.length = 1 ∧ bufferSize e s = .error CMD_DATA_NOT_UNDERSTOOD ∨
      e.tlv.length ≠ 0 ∧ e.tlv.length ≠ 1 ∧ ∃ s', bufferSize e s = .ok s' := by
  unfold bufferSize
  split
  · rename_i hempty
    exact .inl ⟨hempty, rfl⟩
  · rename_i hempty
    split
    · exact .inr (.inl ⟨by omega, rfl⟩)
    · exact .inr (.inr ⟨hempty, by omega, _, rfl⟩)

theorem rejects_openChannel : Rejects openChannelElement rejectsOpenChannel := by
  intro e s
  unfold openChannelElement rejectsOpenChannel
  by_cases hbearer : e.tlv.tag = BEARER_DESCRIPTION
  · rw [hbearer, if_neg (by decide), if_neg (by decide), if_pos rfl]
    obtain ⟨hempty, herror⟩ | ⟨hempty, s', hok⟩ := bearerDescription_cases e s
    · exact .inr ⟨_, herror, if_pos ⟨rfl, hempty⟩⟩
    · refine .inl ⟨s', hok, ?_⟩
      simp [hempty, BUFFER_SIZE, BEARER_DESCRIPTION]
  · by_cases hsize : e.tlv.tag = BUFFER_SIZE
    · rw [hsize, if_neg (by decide), if_neg (by decide), if_neg (by decide), if_pos rfl]
      obtain ⟨hempty, herror⟩ | ⟨hone, herror⟩ | ⟨hempty, hone, s', hok⟩ := bufferSize_cases e s
      · exact .inr ⟨_, herror, by simp [hempty, BUFFER_SIZE, BEARER_DESCRIPTION]⟩
      · exact .inr ⟨_, herror, by simp [hone, BUFFER_SIZE, BEARER_DESCRIPTION]⟩
      · exact .inl ⟨s', hok, by simp [hempty, hone]⟩
    · left
      simp only [hbearer, hsize, false_and, if_false]
      split_ifs <;> exact ⟨_, rfl, trivial⟩

theorem rejects_device {α : Type} (tooShort : Nat) (other : Element → α → α) :
    Rejects (deviceElement tooShort other) (rejectsDevice tooShort) := by
  intro e d
  unfold deviceElement rejectsDevice
  by_cases hdevice : e.tlv.tag = DEVICE_IDENTITIES
  · rw [if_pos hdevice]
    by_cases hshort : e.tlv.length < 2
    · exact .inr ⟨_, if_pos hshort, if_pos ⟨hdevice, hshort⟩⟩
    · exact .inl ⟨_, if_neg hshort, if_neg (fun h => hshort h.2)⟩
  · left
    simp only [hdevice, false_and, if_false]
    split_ifs <;> exact ⟨_, rfl, trivial⟩

/-! ## What is reported of them -/

/-- The code that the loop was left with is returned, and is not OK. -/
def Reported (code : Option Nat) (returned : Nat) : Prop := ∀ c, code = some c → returned = c ∧ returned ≠ OK

theorem reported_process_iff {δ : Type} {element : Element → δ → Except Nat δ} {rejects : Element → Option Nat}
    (h : Rejects element rejects) (es : List Element) (d : δ) (resCode : Nat) :
    Reported (walk element es d).2 (process element es d resCode).2 ↔ ∀ e ∈ es, rejects e = none := by
  rw [h.walk_snd, ← List.findSome?_eq_none_iff]
  unfold Reported process
  constructor
  · intro hreported
    cases hcode : es.findSome? rejects with
    | none => rfl
    | some c => exact absurd rfl (hreported c hcode).2
  · intro hnone c hc
    rw [hnone] at hc
    exact absurd hc (Option.some_ne_none c).symm

/-- **No function reports an element that it rejects**: the codes are those of the loops exactly for the lists
without such an element. -/
theorem rejected_reported_iff (es : List Element) (d : OpenChannelData) (c : ChannelCommand)
    (sendDataStr : Option (List Byte)) (channelDataLength resCode : Nat) :
    (Reported (walk openChannelElement es (OpenChannel.start d)).2 (processOpenChannel es d resCode).2 ↔
        ∀ e ∈ es, rejectsOpenChannel e = none) ∧
      (Reported (walk sendDataElement es (c, sendDataStr)).2 (processSendData es (c, sendDataStr) resCode).2 ↔
        ∀ e ∈ es, rejectsDevice REQUIRED_VALUES_MISSING e = none) ∧
      (Reported (walk receiveDataElement es (c, channelDataLength)).2
          (processReceiveData es (c, channelDataLength) resCode).2 ↔
        ∀ e ∈ es, rejectsDevice CMD_DATA_NOT_UNDERSTOOD e = none) ∧
      (Reported (walk closeChannelElement es (c, ())).2 (processCloseChannel es (c, ()) resCode).2 ↔
        ∀ e ∈ es, rejectsDevice REQUIRED_VALUES_MISSING e = none) := by
  refine ⟨?_, ?_, ?_, ?_⟩
  · exact reported_process_iff rejects_openChannel es (OpenChannel.start d) resCode
  · exact reported_process_iff (rejects_device _ _) es (c, sendDataStr) resCode
  · exact reported_process_iff (rejects_device _ _) es (c, channelDataLength) resCode
  · exact reported_process_iff (rejects_device _ _) es (c, ()) resCode

def emptyBufferSize : Element :=
  { tlv := { tag := BUFFER_SIZE, cr := 0, length := 0, value := [] }, beyond := [] }

/-- The parameters of a new context. -/
def noData : OpenChannelData :=
  { alphaIdLength := 0, NetAccessName := [], bufferSize := 0, BearerType := 0, BearerParam := [], OtherAddressType := 0
    OtherAddress := [], LoginStr := [], PwdStr := [], transportType := 0, portNumber := 0, DataDstAddressType := 0
    DataDstAddress := [], text := none, iconSelfExplanatory := false, isNullAlphaId := false }

theorem rejected_reported_fails_emptyBufferSize :
    ¬Reported (walk openChannelElement [emptyBufferSize] (OpenChannel.start noData)).2
      (processOpenChannel [emptyBufferSize] noData OK).2 := by
  intro h
  exact (h REQUIRED_VALUES_MISSING rfl).2 rfl

/-! ## The members that the commands use -/

/-- The members that the rest of the model reads. -/
def OpenChannel.reduced (s : OpenChannel) : Stk.OpenChannelData :=
  { bufferSize := s.openChannelData.bufferSize
    transportType := s.openChannelData.transportType
    hasText := s.openChannelData.text.isSome }

theorem reduced_alphaId (e : Element) (s : OpenChannel) :
    (alphaId e s).reduced = { s.reduced with hasText := 0 < e.tlv.length } := by
  unfold alphaId
  split
  · rename_i hempty
    simp [OpenChannel.reduced, OpenChannel.modify, hempty]
  · rename_i hempty
    simp [OpenChannel.reduced, OpenChannel.modify, OpenChannel.converts, Nat.pos_of_ne_zero hempty]

theorem reduced_iconId (e : Element) (s : OpenChannel) : (iconId e s).reduced = s.reduced := by
  unfold iconId
  split
  · rfl
  · rfl

theorem reduced_bearerDescription {e : Element} {s s' : OpenChannel} (h : bearerDescription e s = .ok s') :
    s'.reduced = s.reduced := by
  unfold bearerDescription at h
  split at h
  · cases h
  · split at h
    · cases h
      rfl
    · cases h
      rfl

theorem reduced_bufferSize {e : Element} {s s' : OpenChannel} (h : bufferSize e s = .ok s') :
    s'.reduced = { s.reduced with bufferSize := e.byte 0 <<< 8 ||| e.byte 1 } := by
  unfold bufferSize at h
  split at h
  · cases h
  · split at h
    · cases h
    · cases h
      rfl

theorem reduced_networkAccessName (e : Element) (s : OpenChannel) : (networkAccessName e s).reduced = s.reduced := by
  unfold networkAccessName
  split
  · rfl
  · rfl

theorem reduced_otherAddress (e : Element) (s : OpenChannel) : (otherAddress e s).reduced = s.reduced := by
  unfold otherAddress OpenChannel.reduced
  split_ifs
  · cases addressText e with
    | none => rfl
    | some address => rfl
  · rfl
  · cases addressText e with
    | none => rfl
    | some address => rfl
  · rfl

theorem reduced_textString (e : Element) (s : OpenChannel) : (textString e s).reduced = s.reduced := by
  unfold textString
  split_ifs
  · rfl
  · rfl
  · rfl
  · rfl

theorem reduced_transportLevel (e : Element) (s : OpenChannel) :
    (transportLevel e s).reduced =
      if 2 < e.tlv.length then { s.reduced with transportType := e.byte 0 } else s.reduced := by
  unfold transportLevel
  split
  · rfl
  · rfl

/-- The rest of the model uses the buffer size, the transport and whether there is a text. -/
theorem processOpenChannel_reduced (es : List Element) (s : OpenChannel) :
    (walk openChannelElement es s).1.reduced = Stk.processOpenChannel (es.map Element.tlv) s.reduced := by
  induction es generalizing s with
  | nil => rfl
  | cons e es ih =>
    rw [List.map_cons, Stk.processOpenChannel]
    by_cases halpha : e.tlv.tag = ALPHA_ID
    · rw [if_pos halpha, walk_cons_ok (by rw [openChannelElement, if_pos halpha]), ih, reduced_alphaId]
    rw [if_neg halpha]
    by_cases hbearer : e.tlv.tag = BEARER_DESCRIPTION
    · have helement : openChannelElement e s = bearerDescription e s := by
        rw [openChannelElement, hbearer, if_neg (by decide), if_neg (by decide), if_pos rfl]
      obtain ⟨hempty, herror⟩ | ⟨hempty, s', hok⟩ := bearerDescription_cases e s
      · rw [if_pos ⟨hbearer, hempty⟩, walk_cons_error (helement.trans herror)]
      · rw [walk_cons_ok (helement.trans hok), ih, reduced_bearerDescription hok]
        simp [hempty, hbearer, BEARER_DESCRIPTION, BUFFER_SIZE, TRANSPORT_LEVEL]
    rw [if_neg (fun h => hbearer h.1)]
    by_cases hsize : e.tlv.tag = BUFFER_SIZE
    · have helement : openChannelElement e s = bufferSize e s := by
        rw [openChannelElement, hsize, if_neg (by decide), if_neg (by decide), if_neg (by decide), if_pos rfl]
      rw [if_pos hsize]
      obtain ⟨hempty, herror⟩ | ⟨hone, herror⟩ | ⟨hempty, hone, s', hok⟩ := bufferSize_cases e s
      · rw [if_pos (by omega), walk_cons_error (helement.trans herror)]
      · rw [if_pos (by omega), walk_cons_error (helement.trans herror)]
      · rw [if_neg (by omega), walk_cons_ok (helement.trans hok), ih, reduced_bufferSize hok]
        rfl
    rw [if_neg hsize]
    by_cases htransport : e.tlv.tag = TRANSPORT_LEVEL
    · have helement : openChannelElement e s = .ok (transportLevel e s) := by
        unfold openChannelElement
        rw [htransport]
        rfl
      rw [walk_cons_ok helement, ih, reduced_transportLevel]
      by_cases hlong : 2 < e.tlv.length
      · rw [if_pos hlong, if_pos ⟨htransport, hlong⟩]
        rfl
      · rw [if_neg hlong, if_neg (fun h => hlong h.2)]
    · have hother : ∃ s', openChannelElement e s = .ok s' ∧ s'.reduced = s.reduced := by
        simp only [openChannelElement, halpha, hbearer, hsize, htransport, if_false]
        split_ifs
        · exact ⟨_, rfl, reduced_iconId e s⟩
        · exact ⟨_, rfl, reduced_networkAccessName e s⟩
        · exact ⟨_, rfl, reduced_otherAddress e s⟩
        · exact ⟨_, rfl, reduced_textString e s⟩
        · exact ⟨_, rfl, rfl⟩
      obtain ⟨s', hok, hreduced⟩ := hother
      rw [if_neg (fun h => htransport h.1), walk_cons_ok hok, ih, hreduced]

/-- The loop of the other commands, on the members that the rest of the model uses. -/
theorem scanTlvs_reduced {α β : Type} {tooShort : Nat} {other : Element → α → α} {setChannelId : Nat → β → β}
    {other' : TLV → β → β} (f : ChannelCommand × α → β)
    (hid : ∀ (c c' : ChannelCommand) (a : α), f (c', a) = setChannelId c'.channelId (f (c, a)))
    (hsame : ∀ (c c' : ChannelCommand) (a : α), c.channelId = c'.channelId → f (c, a) = f (c', a))
    (htext : ∀ (tlv : TLV) (b : β), tlv.tag = ALPHA_ID ∨ tlv.tag = ICON_ID → other' tlv b = b)
    {es : List Element} (hother : ∀ e ∈ es, ∀ (c : ChannelCommand) (a : α), f (c, other e a) = other' e.tlv (f (c, a)))
    (d : ChannelCommand × α) :
    f (walk (deviceElement tooShort other) es d).1 = scanTlvs setChannelId other' (es.map Element.tlv) (f d) := by
  induction es generalizing d with
  | nil => rfl
  | cons e es ih =>
    have ih := ih fun e' he' => hother e' (List.mem_cons_of_mem _ he')
    rw [List.map_cons, scanTlvs]
    by_cases hdevice : e.tlv.tag = DEVICE_IDENTITIES
    · rw [if_pos hdevice]
      by_cases hshort : e.tlv.length < 2
      · rw [if_pos hshort, walk_cons_error (by rw [deviceElement, if_pos hdevice, if_pos hshort])]
      · rw [if_neg hshort, walk_cons_ok (by rw [deviceElement, if_pos hdevice, if_neg hshort]), ih, hid d.1]
        rfl
    · rw [if_neg hdevice]
      by_cases halpha : e.tlv.tag = ALPHA_ID
      · rw [htext _ _ (.inl halpha),
          walk_cons_ok (by rw [deviceElement, if_neg hdevice, if_pos halpha]), ih]
        exact congrArg _ (hsame _ d.1 d.2 rfl)
      · by_cases hicon : e.tlv.tag = ICON_ID
        · rw [htext _ _ (.inr hicon),
            walk_cons_ok (by rw [deviceElement, if_neg hdevice, if_neg halpha, if_pos hicon]), ih]
          split
          · rfl
          · exact congrArg _ (hsame _ d.1 d.2 rfl)
        · rw [walk_cons_ok (by rw [deviceElement, if_neg hdevice, if_neg halpha, if_neg hicon]), ih,
            hother e List.mem_cons_self]

/-- The members of a new command. -/
def noCommand : ChannelCommand :=
  { sourceId := 0, destinationId := 0, channelId := 0, text := none, iconSelfExplanatory := false }

theorem processSendData_reduced (es : List Element) (resCode : Nat) :
    Stk.processSendData (es.map Element.tlv) =
      { channelId := (processSendData es (noCommand, none) resCode).1.1.channelId
        sendDataStr := (processSendData es (noCommand, none) resCode).1.2 } := by
  symm
  apply scanTlvs_reduced (fun d : ChannelCommand × Option (List Byte) =>
    ({ channelId := d.1.channelId, sendDataStr := d.2 } : SendChannelData))
  · intro c c' a
    rfl
  · intro c c' a h
    simp only [h]
  · rintro tlv b (h | h)
    · simp [h, ALPHA_ID, CHANNEL_DATA]
    · simp [h, ICON_ID, CHANNEL_DATA]
  · intro e _ c a
    split
    · rfl
    · rfl

/-- `beyond` is the byte behind an empty value. -/
theorem processReceiveData_reduced {es : List Element} {beyond : Byte}
    (h : ∀ e ∈ es, e.mem 0 = e.tlv.value.headD beyond) (resCode : Nat) :
    Stk.processReceiveData beyond (es.map Element.tlv) =
      { channelId := (processReceiveData es (noCommand, 0) resCode).1.1.channelId
        channelDataLength := (processReceiveData es (noCommand, 0) resCode).1.2 } := by
  symm
  apply scanTlvs_reduced (fun d : ChannelCommand × Nat =>
    ({ channelId := d.1.channelId, channelDataLength := d.2 } : ReceiveChannelData))
  · intro c c' a
    rfl
  · intro c c' a h
    simp only [h]
  · rintro tlv b (h | h)
    · simp [h, ALPHA_ID, CHANNEL_DATA_LENGTH]
    · simp [h, ICON_ID, CHANNEL_DATA_LENGTH]
  · intro e he c a
    rw [h e he]
    split
    · rfl
    · rfl

theorem processCloseChannel_reduced (es : List Element) (resCode : Nat) :
    Stk.processCloseChannel (es.map Element.tlv) =
      { channelId := (processCloseChannel es (noCommand, ()) resCode).1.1.channelId } := by
  symm
  apply scanTlvs_reduced (fun d : ChannelCommand × Unit => ({ channelId := d.1.channelId } : CloseChannelData))
  · intro c c' a
    rfl
  · intro c c' a h
    simp only [h]
  · intro tlv b _
    rfl
  · intro e _ c a
    rfl

end UniRil.Stk.Elements
