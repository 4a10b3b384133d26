import UniRil.Stk.Bip
import UniRil.Stk.Elements
import UniRil.Stk.RoundTrip

/-!
# Terminal responses are read back

A terminal response is a list of COMPREHENSION-TLVs without a header. The loop that reads those of a proactive command
reads it, so both ends of the format can be held against each other.
-/

namespace UniRil.Stk

/-! ## The answer to OPEN CHANNEL -/

/-- What OPEN CHANNEL is answered with. -/
structure OpenChannelResponse where
  channelId : Nat
  linkStatus : Bool
  bearerType : Byte
  /-- What stands behind the type in the bearer description of the command. -/
  params : List Byte
  bufferSize : Nat

/-- The text that the command has left in `BearerParam`. -/
def OpenChannelResponse.bearerParam (o : OpenChannelResponse) : List Byte :=
  (convertBinToHex o.params).take (Elements.ARRAY_SIZE - 1)

/-- calloc gives zeros for the pairs of digits; `none` where convertHexToBin writes behind them. -/
def bytesFor (text : List Byte) : Option (List Byte) :=
  let bin := (convertHexToBin text).2
  if text.length / 2 < bin.length then none else some (bin ++ List.replicate (text.length / 2 - bin.length) 0)

/-- The bearer description behind its tag. -/
def OpenChannelResponse.bearerBytes (o : OpenChannelResponse) : Option (List Byte) :=
  if o.bearerParam = [] then some [0x01, o.bearerType]
  else if strStartsWith o.bearerParam (ascii "09") = true then
    -- only the last pair of digits is kept
    (bytesFor (ascii "09" ++ o.bearerParam.drop (o.bearerParam.length - 2))).map fun pStr =>
      [0x03, o.bearerType] ++ pStr.take 2
  else
    (bytesFor o.bearerParam).map fun pStr => [UInt8.ofNat (o.bearerParam.length / 2 + 1), o.bearerType] ++ pStr

def OpenChannelResponse.bytes (o : OpenChannelResponse) : Option (List Byte) :=
  o.bearerBytes.map fun bearer =>
    (if o.linkStatus = true then [0x38, 0x02, UInt8.ofNat (o.channelId ||| 0x80), 0x00] else []) ++
      ((0x35 : Byte) :: bearer ++
        [0x39, 0x02, UInt8.ofNat ((o.bufferSize &&& 0xff00) >>> 8), UInt8.ofNat (o.bufferSize &&& 0x00ff)])

/-- What follows the result. -/
inductive ResponseData
  | openChannel (o : OpenChannelResponse)
  | other (body : ResponseBody)

variable (cmdDet : CommandDetails) (resCode : Nat) (additionalInfo : Option Nat)

/-- The bytes that are sent, where none is written behind a buffer. -/
def responseBytes : ResponseData → Option (List Byte)
  | .openChannel o =>
    o.bytes.map fun bytes => (TerminalResponse.mk cmdDet resCode additionalInfo .none).bytes ++ bytes
  | .other body =>
    let r := TerminalResponse.mk cmdDet resCode additionalInfo body
    if r.fits = true then some r.bytes else none

/-! ## What the response is meant to say -/

def item (tag cr : Nat) (value : List Byte) : TLV := { tag := tag, cr := cr, length := value.length, value := value }

/-- Command details, device identities, result. -/
def resultItems : List TLV :=
  let required := if cmdDet.compRequired then 1 else 0
  [item COMMAND_DETAILS required [UInt8.ofNat cmdDet.commandNumber, UInt8.ofNat cmdDet.typeOfCommand,
      UInt8.ofNat cmdDet.commandQualifier],
    item DEVICE_IDENTITIES 1 [0x82, 0x81],
    item RESULT required (UInt8.ofNat resCode :: additionalInfo.toList.map UInt8.ofNat)]

def ResponseBody.items : ResponseBody → List TLV
  | .none => []
  | .channelStatus first others => (first :: others).map fun status => item CHANNEL_STATUS 1 [status, 0x00]
  | .channelDataLength channelLen => [item CHANNEL_DATA_LENGTH 1 [ofInt channelLen]]
  | .channelData data dataLen => [item CHANNEL_DATA 1 data, item CHANNEL_DATA_LENGTH 1 [ofInt dataLen]]

/-- The channel status, where the link is established. -/
def OpenChannelResponse.statusItems (o : OpenChannelResponse) : List TLV :=
  if o.linkStatus = true then [item CHANNEL_STATUS 0 [UInt8.ofNat (o.channelId ||| 0x80), 0x00]] else []

/-- With the bearer description of the command. -/
def OpenChannelResponse.items (o : OpenChannelResponse) : List TLV :=
  o.statusItems ++
    [item BEARER_DESCRIPTION 0 (o.bearerType :: o.params),
      item BUFFER_SIZE 0 [UInt8.ofNat ((o.bufferSize &&& 0xff00) >>> 8), UInt8.ofNat (o.bufferSize &&& 0x00ff)]]

def ResponseData.items : ResponseData → List TLV
  | .openChannel o => o.items
  | .other body => body.items

/-- The loop of `parseProCommand` over a hex text. -/
def readTlvs (beyond : Mem) (hex : List Byte) : Option (List TLV) :=
  let bin := convertHexToBin hex
  if bin.1 = true then parseTlvs (.ofBytes bin.2 beyond) bin.2.length 0 0 else none

/-- The text that goes to the modem says what it is meant to say. -/
def ReadsBack (data : ResponseData) : Prop :=
  ∀ beyond, ((responseBytes cmdDet resCode additionalInfo data).bind fun bytes =>
    readTlvs beyond (convertBinToHex bytes)) = some (resultItems cmdDet resCode additionalInfo ++ data.items)

/-- The texts have room, and the parameters of the bearer are not cut. -/
def Sayable : ResponseData → Prop
  | .openChannel o => o.params.length < 64 ∧ (o.params.head? = some 0x09 → o.params.length = 2)
  | .other body =>
    (TerminalResponse.mk cmdDet resCode additionalInfo body).fits = true ∧
      ∀ data dataLen, body = .channelData data dataLen → data.length ≤ 255

/-! ## TLVs that the parser reads -/

/-- The bytes are those of the items. -/
def Encodes (items : List TLV) (bytes : List Byte) : Prop :=
  ∃ tlvs : List ShortTlv, tlvs.map ShortTlv.tlv = items ∧ encodeTlvs tlvs = bytes

variable {items items' : List TLV} {bytes bytes' : List Byte} {mem beyond : Mem} {p : Nat}

theorem Encodes.nil : Encodes [] [] := ⟨[], rfl, rfl⟩

theorem Encodes.append (h : Encodes items bytes) (h' : Encodes items' bytes') :
    Encodes (items ++ items') (bytes ++ bytes') := by
  obtain ⟨tlvs, rfl, rfl⟩ := h
  obtain ⟨tlvs', rfl, rfl⟩ := h'
  exact ⟨tlvs ++ tlvs', by simp, by simp [encodeTlvs]⟩

theorem encodes_item {tag cr : Nat} {value : List Byte} (htag : 1 ≤ tag ∧ tag < 0x7f) (hcr : cr ≤ 1)
    (hvalue : value.length ≤ 255) :
    Encodes [item tag cr value] (UInt8.ofNat (128 * cr + tag) :: (berLength value.length ++ value)) :=
  ⟨[⟨tag, cr, value, htag, hcr, hvalue⟩], rfl, by simp [encodeTlvs, ShortTlv.encode, ShortTlv.firstByte]⟩

/-- The loop reads the items and comes to what is behind them. -/
theorem parseTlvs_of_encodes (h : Encodes items bytes) (count k : Nat) (hmem : mem.Holds p bytes) :
    parseTlvs mem (count + bytes.length + k) count p =
      (parseTlvs mem (count + bytes.length + k) (count + bytes.length) (p + bytes.length)).map (items ++ ·) := by
  obtain ⟨tlvs, rfl, rfl⟩ := h
  induction tlvs generalizing count p with
  | nil => simp [encodeTlvs]
  | cons t tlvs ih =>
    rw [encodeTlvs, List.flatMap_cons] at hmem ⊢
    have hpos := advance_pos t.tlv.length
    have hrest := hmem.right
    rw [t.length_encode] at hrest
    rw [List.length_append, t.length_encode, ← encodeTlvs, parseTlvs, if_pos (by omega), t.decode hmem.left]
    have := ih (count + advance t.tlv.length) hrest
    simp only [← Nat.add_assoc] at this ⊢
    rw [this, Option.map_map]
    rfl

theorem readTlvs_convertBinToHex (beyond : Mem) (bytes : List Byte) :
    readTlvs beyond (convertBinToHex bytes) = parseTlvs (.ofBytes bytes beyond) bytes.length 0 0 := by
  simp [readTlvs, convertHexToBin_convertBinToHex]

/-- What stands behind some items is read behind them. -/
theorem readTlvs_append (h : Encodes items bytes) (rest : List Byte) (beyond : Mem) :
    readTlvs beyond (convertBinToHex (bytes ++ rest)) =
      (parseTlvs (.ofBytes (bytes ++ rest) beyond) (bytes.length + rest.length) bytes.length bytes.length).map
        (items ++ ·) := by
  have hmem := (Mem.ofBytes_holds (bytes ++ rest) beyond).left
  have hread := parseTlvs_of_encodes h 0 rest.length hmem
  rw [readTlvs_convertBinToHex, List.length_append]
  simpa using hread

theorem readTlvs_of_encodes (h : Encodes items bytes) : readTlvs beyond (convertBinToHex bytes) = some items := by
  have hread := readTlvs_append h [] beyond
  rw [List.append_nil] at hread
  rw [hread, parseTlvs, if_neg (by simp)]
  simp

/-! ## The responses without OPEN CHANNEL -/

theorem bytes_eq_append (body : ResponseBody) :
    (TerminalResponse.mk cmdDet resCode additionalInfo body).bytes =
      (TerminalResponse.mk cmdDet resCode additionalInfo .none).bytes ++ body.bytes := by
  simp [TerminalResponse.bytes, ResponseBody.bytes]

theorem encodes_details :
    Encodes (resultItems cmdDet resCode additionalInfo)
      (TerminalResponse.mk cmdDet resCode additionalInfo .none).bytes := by
  obtain ⟨commandNumber, typeOfCommand, commandQualifier, compRequired⟩ := cmdDet
  have hinfo : (UInt8.ofNat resCode :: additionalInfo.toList.map UInt8.ofNat).length ≤ 255 := by
    cases additionalInfo <;> simp
  have hrequired : (if compRequired then 1 else 0) ≤ 1 := by split <;> omega
  have hresult : 1 ≤ RESULT ∧ RESULT < 0x7f := by decide
  have hdetails := encodes_item commandDetails_range hrequired
    (show [UInt8.ofNat commandNumber, UInt8.ofNat typeOfCommand, UInt8.ofNat commandQualifier].length ≤ 255 by simp)
  have hdevices := encodes_item deviceIdentities_range one_le_one (show [0x82, 0x81].length ≤ 255 by simp)
  have hall := hdetails.append (hdevices.append (encodes_item hresult hrequired hinfo))
  convert hall using 1
  · cases compRequired <;> cases additionalInfo <;> rfl
  · cases compRequired <;> cases additionalInfo <;>
      simp [TerminalResponse.bytes, ResponseBody.bytes, berLength, COMMAND_DETAILS, DEVICE_IDENTITIES, RESULT]

theorem encodes_channelStatus (status : Byte) :
    Encodes [item CHANNEL_STATUS 1 [status, 0x00]] [0xB8, 0x02, status, 0x00] :=
  encodes_item (by decide) one_le_one (by simp)

theorem encodes_channelDataLength (n : Int) : Encodes [item CHANNEL_DATA_LENGTH 1 [ofInt n]] [0xB7, 0x01, ofInt n] :=
  encodes_item (by decide) one_le_one (by simp)

/-- The last byte of a status is the first of what is put behind it. -/
theorem encodes_statuses (first : Byte) (others : List Byte) :
    Encodes (ResponseBody.channelStatus first others).items (ResponseBody.channelStatus first others).bytes := by
  induction others generalizing first with
  | nil => exact encodes_channelStatus first
  | cons status others ih => exact (encodes_channelStatus first).append (ih status)

theorem encodes_channelData {data : List Byte} (hdata : data.length ≤ 255) (dataLen : Int) :
    Encodes (ResponseBody.channelData data dataLen).items (ResponseBody.channelData data dataLen).bytes := by
  have htag : 1 ≤ CHANNEL_DATA ∧ CHANNEL_DATA < 0x7f := by decide
  exact (encodes_item htag one_le_one hdata).append (encodes_channelDataLength dataLen)

theorem encodes_body {body : ResponseBody}
    (hbody : ∀ data dataLen, body = .channelData data dataLen → data.length ≤ 255) :
    Encodes body.items body.bytes := by
  cases body with
  | none => exact .nil
  | channelStatus first others => exact encodes_statuses first others
  | channelDataLength channelLen => exact encodes_channelDataLength channelLen
  | channelData data dataLen => exact encodes_channelData (hbody data dataLen rfl) dataLen

/-! ## The length that is read -/

/-- The TLV behind the first ones has the length that stands behind its tag. -/
theorem exists_decodeLength {tag : Byte} {rest : List Byte} {tlv : TLV} {tlvs : List TLV} (h : Encodes items bytes)
    (htag : tag = 0x35 ∨ tag = 0xB6)
    (hread : readTlvs beyond (convertBinToHex (bytes ++ tag :: rest)) = some (items ++ tlv :: tlvs)) :
    ∃ mem p q, Mem.Holds mem p rest ∧ decodeLength mem p = some (tlv.length, q) := by
  have hmem := (Mem.ofBytes_holds (bytes ++ tag :: rest) beyond).right
  rw [Nat.zero_add] at hmem
  rw [readTlvs_append h, parseTlvs, if_pos (by simp)] at hread
  refine ⟨.ofBytes (bytes ++ tag :: rest) beyond, bytes.length + 1, ?_⟩
  have hsingle : ∃ tag' cr, decodeTag (.ofBytes (bytes ++ tag :: rest) beyond) bytes.length =
      some (tag', cr, bytes.length + 1) := by
    obtain rfl | rfl := htag
    · exact ⟨_, _, decodeTag_single (n := 0x35) (by omega) (by rw [hmem.head]; rfl) (by omega) (by omega) (by omega)
        (by omega)⟩
    · exact ⟨_, _, decodeTag_single (n := 0xB6) (by omega) (by rw [hmem.head]; rfl) (by omega) (by omega) (by omega)
        (by omega)⟩
  obtain ⟨tag', cr, hdecode⟩ := hsingle
  simp only [decode, hdecode, Option.bind_eq_bind, Option.bind_some] at hread
  cases hlength : decodeLength (.ofBytes (bytes ++ tag :: rest) beyond) (bytes.length + 1) with
  | none => simp [hlength] at hread
  | some found =>
    obtain ⟨length, q⟩ := found
    simp only [hlength, Option.bind_some, Option.pure_def, Option.map_map, Option.map_eq_some_iff, Function.comp_apply,
      List.append_cancel_left_eq, List.cons.injEq] at hread
    obtain ⟨_, _, htlv, _⟩ := hread
    exact ⟨q, hmem.tail, by rw [← htlv]⟩

/-- A length from 256 on is written without its upper bits. -/
theorem length_le_of_channelData {data : List Byte} {dataLen : Int} {tlvs : List TLV} (h : Encodes items bytes)
    (hread : readTlvs beyond (convertBinToHex (bytes ++ (ResponseBody.channelData data dataLen).bytes)) =
      some (items ++ item CHANNEL_DATA 1 data :: tlvs)) : data.length ≤ 255 := by
  by_contra hlong
  have hbytes : (ResponseBody.channelData data dataLen).bytes =
      0xB6 :: 0x81 :: UInt8.ofNat data.length :: (data ++ [0xB7, 0x01, ofInt dataLen]) := by
    simp only [ResponseBody.bytes]
    rw [if_neg (by omega)]
    simp
  rw [hbytes] at hread
  obtain ⟨mem, p, q, hmem, hlength⟩ := exists_decodeLength h (.inr rfl) hread
  have hfirst : (mem p).toNat = 0x81 := by rw [hmem.head]; rfl
  have hnext := (mem (p + 1)).toNat_lt
  unfold decodeLength at hlength
  simp only [hfirst] at hlength
  rw [if_neg (by omega), if_pos trivial] at hlength
  split at hlength
  · cases hlength
  · have hsame : (mem (p + 1)).toNat = data.length := congrArg Prod.fst (Option.some.inj hlength)
    omega

/-! ## OPEN CHANNEL -/

theorem bytesFor_convertBinToHex (bin : List Byte) : bytesFor (convertBinToHex bin) = some bin := by
  have hhalf : (convertBinToHex bin).length / 2 = bin.length := by
    rw [length_convertBinToHex]
    omega
  unfold bytesFor
  simp [convertHexToBin_convertBinToHex, hhalf]

theorem convertBinToHex_cons (b : Byte) (bin : List Byte) :
    ∃ ch ch' high low, convertBinToHex (b :: bin) = ch :: ch' :: convertBinToHex bin ∧
      hexValue ch = some high ∧ hexValue ch' = some low ∧ high <<< 4 ||| low = b := by
  obtain ⟨high, hhigh, low, hlow, hb, hb', hboth⟩ := halves b
  refine ⟨hexDigit (b >>> 4), hexDigit (b &&& 0x0f), _, _, rfl, ?_, ?_, hboth⟩
  · rw [hb, hexDigit_eq, hexValue_digitIn _ hhigh]
  · rw [hb', hexDigit_eq, hexValue_digitIn _ hlow]

/-- The half of a digit pair is written behind the bytes that were asked for. -/
theorem length_convertHexToBin_take (bin : List Byte) (n : Nat) (hn : n < bin.length) :
    (convertHexToBin ((convertBinToHex bin).take (2 * n + 1))).2.length = n + 1 := by
  induction bin generalizing n with
  | nil => cases hn
  | cons b bin ih =>
    obtain ⟨ch, ch', high, low, hhex, hhigh, hlow, _⟩ := convertBinToHex_cons b bin
    rw [hhex]
    cases n with
    | zero => simp [convertHexToBin, hhigh]
    | succ n =>
      rw [List.length_cons, Nat.add_lt_add_iff_right] at hn
      rw [Nat.mul_add_one, Nat.add_right_comm, List.take_succ_cons, List.take_succ_cons, convertHexToBin, hhigh, hlow]
      simp only [List.length_cons, ih n hn]

theorem bytesFor_take (bin : List Byte) (hbin : 64 ≤ bin.length) :
    bytesFor ((convertBinToHex bin).take (Elements.ARRAY_SIZE - 1)) = none := by
  have hwritten := length_convertHexToBin_take bin 63 (by omega)
  have hlen : ((convertBinToHex bin).take (Elements.ARRAY_SIZE - 1)).length = 127 := by
    rw [List.length_take, length_convertBinToHex, Elements.ARRAY_SIZE]
    omega
  unfold bytesFor
  rw [hlen]
  exact if_pos (by rw [Elements.ARRAY_SIZE, hwritten]; omega)

variable {o : OpenChannelResponse}

theorem bearerParam_eq (h : o.params.length < 64) : o.bearerParam = convertBinToHex o.params := by
  rw [OpenChannelResponse.bearerParam, List.take_of_length_le]
  rw [length_convertBinToHex, Elements.ARRAY_SIZE]
  omega

/-- The text starts as the bytes do. -/
theorem strStartsWith_bearerParam : strStartsWith o.bearerParam (ascii "09") = true ↔ o.params.head? = some 0x09 := by
  have hascii : ascii "09" = [48, 57] := by decide
  have hroom : Elements.ARRAY_SIZE - 1 = 125 + 1 + 1 := rfl
  rw [strStartsWith_iff, hascii, OpenChannelResponse.bearerParam, hroom]
  cases o.params with
  | nil => simp [convertBinToHex]
  | cons b bin =>
    obtain ⟨ch, ch', high, low, hhex, hhigh, hlow, hboth⟩ := convertBinToHex_cons b bin
    rw [hhex, List.take_succ_cons, List.take_succ_cons, List.cons_prefix_cons, List.cons_prefix_cons, List.head?_cons,
      Option.some_inj]
    refine ⟨fun hdigits => ?_, fun hb => ?_⟩
    · obtain ⟨rfl, rfl, _⟩ := hdigits
      have hzero : high = 0 := Option.some.inj (hhigh.symm.trans (by decide))
      have hnine : low = 9 := Option.some.inj (hlow.symm.trans (by decide))
      rw [← hboth, hzero, hnine]
      rfl
    · have hnine : convertBinToHex (0x09 :: bin) = 48 :: 57 :: convertBinToHex bin := rfl
      rw [hb, hnine] at hhex
      injection hhex with hch hrest
      injection hrest with hch' _
      exact ⟨hch, hch', List.nil_prefix⟩

/-- What the bearer description is read from, when its parameters have room. -/
theorem bearerBytes_eq (hroom : o.params.length < 64) (htwo : o.params.head? = some 0x09 → o.params.length = 2) :
    o.bearerBytes = some (berLength (o.params.length + 1) ++ o.bearerType :: o.params) := by
  have hber : berLength (o.params.length + 1) = [UInt8.ofNat (o.params.length + 1)] := if_pos (by omega)
  have hlen : o.bearerParam.length = 2 * o.params.length := by rw [bearerParam_eq hroom, length_convertBinToHex]
  rw [hber]
  unfold OpenChannelResponse.bearerBytes
  split
  · rename_i hempty
    rw [hempty, List.length_nil] at hlen
    have hnil : o.params = [] := List.length_eq_zero_iff.1 (by omega)
    simp [hnil]
  · split
    · rename_i hstarts
      have hhead := strStartsWith_bearerParam.1 hstarts
      have hlength := htwo hhead
      obtain ⟨b, bin, hparams⟩ := List.exists_cons_of_length_eq_add_one hlength
      obtain ⟨b', hbin⟩ := List.length_eq_one_iff.1 (show bin.length = 1 by simpa [hparams] using hlength)
      obtain rfl : b = 0x09 := by simpa [hparams] using hhead
      subst hbin
      have htext : ascii "09" ++ o.bearerParam.drop (o.bearerParam.length - 2) = convertBinToHex o.params := by
        rw [bearerParam_eq hroom, hparams]
        rfl
      rw [htext, bytesFor_convertBinToHex, hparams]
      rfl
    · rw [bearerParam_eq hroom, bytesFor_convertBinToHex, length_convertBinToHex, Nat.mul_div_cancel_left _ Nat.two_pos]
      rfl

theorem encodes_linkStatus (o : OpenChannelResponse) :
    Encodes o.statusItems
      (if o.linkStatus = true then [0x38, 0x02, UInt8.ofNat (o.channelId ||| 0x80), 0x00] else []) := by
  unfold OpenChannelResponse.statusItems
  split
  · exact encodes_item (by decide) (by omega) (by simp)
  · exact .nil

theorem encodes_openChannel (hroom : o.params.length < 64) (htwo : o.params.head? = some 0x09 → o.params.length = 2) :
    ∃ bytes, o.bytes = some bytes ∧ Encodes o.items bytes := by
  refine ⟨_, by rw [OpenChannelResponse.bytes, bearerBytes_eq hroom htwo]; rfl, ?_⟩
  have hbearer : Encodes [item BEARER_DESCRIPTION 0 (o.bearerType :: o.params)]
      (0x35 :: (berLength (o.params.length + 1) ++ o.bearerType :: o.params)) :=
    encodes_item (by decide) (by omega) (by rw [List.length_cons]; omega)
  have hsize : Encodes [item BUFFER_SIZE 0 [UInt8.ofNat ((o.bufferSize &&& 0xff00) >>> 8),
      UInt8.ofNat (o.bufferSize &&& 0x00ff)]]
      [0x39, 0x02, UInt8.ofNat ((o.bufferSize &&& 0xff00) >>> 8), UInt8.ofNat (o.bufferSize &&& 0x00ff)] :=
    encodes_item (by decide) (by omega) (by simp)
  exact (encodes_linkStatus o).append (hbearer.append hsize)

/-- Parameters that start with 09 are read back as two, however many they were. -/
theorem length_eq_two (h : Encodes items bytes) (hnine : o.params.head? = some 0x09) (hbytes : o.bytes = some bytes')
    (hread : readTlvs beyond (convertBinToHex (bytes ++ bytes')) = some (items ++ o.items)) :
    o.params.length = 2 := by
  have hstarts := strStartsWith_bearerParam.2 hnine
  have hne : o.bearerParam ≠ [] := by
    intro hnil
    rw [hnil] at hstarts
    cases hstarts
  unfold OpenChannelResponse.bytes OpenChannelResponse.bearerBytes at hbytes
  rw [if_neg hne, if_pos hstarts, Option.map_map, Option.map_eq_some_iff] at hbytes
  obtain ⟨pStr, _, rfl⟩ := hbytes
  rw [OpenChannelResponse.items, ← List.append_assoc, Function.comp_apply, ← List.append_assoc] at hread
  obtain ⟨mem, p, q, hmem, hlength⟩ := exists_decodeLength (h.append (encodes_linkStatus o)) (.inl rfl) hread
  have hthree : (mem p).toNat = 3 := by rw [hmem.head]; rfl
  unfold decodeLength at hlength
  simp only [hthree] at hlength
  have hsame : 3 = o.params.length + 1 := congrArg Prod.fst (Option.some.inj hlength)
  omega

/-! ## The round trip -/

theorem readsBack_openChannel_iff :
    ReadsBack cmdDet resCode additionalInfo (.openChannel o) ↔
      Sayable cmdDet resCode additionalInfo (.openChannel o) := by
  have hdetails := encodes_details cmdDet resCode additionalInfo
  unfold ReadsBack Sayable responseBytes
  dsimp only
  refine ⟨fun hback => ?_, fun hsay beyond => ?_⟩
  · have hzeros := hback fun _ => 0
    cases hbytes : o.bytes with
    | none => simp [hbytes] at hzeros
    | some bytes =>
      rw [hbytes] at hzeros
      have htwo hnine := length_eq_two hdetails hnine hbytes hzeros
      refine ⟨?_, htwo⟩
      by_contra hlong
      have hstarts : ¬strStartsWith o.bearerParam (ascii "09") = true := fun hstarts =>
        absurd (htwo (strStartsWith_bearerParam.1 hstarts)) (by omega)
      have hne : o.bearerParam ≠ [] := by
        rw [← List.length_pos_iff, OpenChannelResponse.bearerParam, List.length_take, length_convertBinToHex,
          Elements.ARRAY_SIZE]
        omega
      unfold OpenChannelResponse.bytes OpenChannelResponse.bearerBytes at hbytes
      rw [if_neg hne, if_neg hstarts, OpenChannelResponse.bearerParam, bytesFor_take _ (by omega)] at hbytes
      cases hbytes
  · obtain ⟨bytes, hbytes, hopen⟩ := encodes_openChannel hsay.1 hsay.2
    rw [hbytes]
    exact readTlvs_of_encodes (hdetails.append hopen)

/-- **A terminal response is read back** as what it says, exactly when its texts have room. -/
theorem readsBack_iff (data : ResponseData) :
    ReadsBack cmdDet resCode additionalInfo data ↔ Sayable cmdDet resCode additionalInfo data := by
  cases data with
  | openChannel o => exact readsBack_openChannel_iff _ _ _
  | other body =>
    have hdetails := encodes_details cmdDet resCode additionalInfo
    unfold ReadsBack Sayable responseBytes
    dsimp only
    split
    · rename_i hfits
      rw [bytes_eq_append]
      refine ⟨fun hback => ⟨hfits, ?_⟩, fun hsay beyond => ?_⟩
      · rintro data dataLen rfl
        exact length_le_of_channelData hdetails (hback fun _ => 0)
      · exact readTlvs_of_encodes (hdetails.append (encodes_body hsay.2))
    · rename_i hfits
      exact iff_of_false (fun hback => by simpa using hback fun _ => 0) fun hsay => hfits hsay.1

end UniRil.Stk
