import UniRil.Stk.Decoding
import UniRil.Stk.ElementBuffers

/-!
# The command that asks for OPEN CHANNEL to be confirmed (ril_stk.c)

With a text, the user is asked first: a command of its own is put together, with the bytes of the ALPHA ID as they
came from the card.
-/

namespace UniRil.Stk.Elements

open Walks

/-! ## The command -/

/-- What stands before the text; a length is cut to its last byte. -/
def confirmationHead (commandNumber alphaIdLength : Nat) : List Byte :=
  [0xD0, UInt8.ofNat (12 + alphaIdLength),
    UInt8.ofNat (0x80 ||| COMMAND_DETAILS), 0x03, UInt8.ofNat commandNumber, 0x21, 0x81,
    UInt8.ofNat (0x80 ||| DEVICE_IDENTITIES), 0x02, 0x81, 0x02,
    UInt8.ofNat (0x80 ||| TEXT_STRING), UInt8.ofNat (alphaIdLength + 1), 0x04]

/-- What is put into `buf`. -/
def confirmationBytes (commandNumber alphaIdLength : Nat) (alphaId : List Byte) : List Byte :=
  confirmationHead commandNumber alphaIdLength ++ alphaId

/-- The bytes of the first ALPHA ID. -/
def alphaIdBytes : List Element → List Byte
  | [] => []
  | e :: es => if e.tlv.tag = ALPHA_ID then e.tlv.value.take e.tlv.length else alphaIdBytes es

/-- `hexString`: the buffer is measured with `strlen`. -/
def confirmation (es : List Element) (openChannelData : OpenChannelData) (commandNumber : Nat) : List Byte :=
  convertBinToHex (cstr (confirmationBytes commandNumber openChannelData.alphaIdLength (alphaIdBytes es)))

/-! ## One ALPHA ID -/

/-- An OPEN CHANNEL of the card with one ALPHA ID. -/
structure OpenCommand where
  commandNumber : Byte
  alphaId : List Byte
  length_pos : 1 ≤ alphaId.length
  length_le : alphaId.length ≤ 240
  cr : Nat
  beyond : List Byte
  before : List Element
  after : List Element
  others : ∀ e ∈ before ++ after, e.tlv.tag ≠ ALPHA_ID
  /-- The ALPHA ID is come to. -/
  accepted : ∀ e ∈ before, rejectsOpenChannel e = none

def OpenCommand.element (c : OpenCommand) : Element :=
  { tlv := { tag := ALPHA_ID, cr := c.cr, length := c.alphaId.length, value := c.alphaId }, beyond := c.beyond }

def OpenCommand.elements (c : OpenCommand) : List Element := c.before ++ c.element :: c.after

theorem alphaIdBytes_append {before : List Element} (h : ∀ e ∈ before, e.tlv.tag ≠ ALPHA_ID) (es : List Element) :
    alphaIdBytes (before ++ es) = alphaIdBytes es := by
  induction before with
  | nil => rfl
  | cons e before ih =>
    rw [List.cons_append, alphaIdBytes, if_neg (h e List.mem_cons_self)]
    exact ih fun e' he' => h e' (List.mem_cons_of_mem _ he')

theorem alphaIdBytes_elements (c : OpenCommand) : alphaIdBytes c.elements = c.alphaId := by
  have htag : c.element.tlv.tag = ALPHA_ID := rfl
  unfold OpenCommand.elements
  rw [alphaIdBytes_append fun e he => c.others e (List.mem_append_left _ he), alphaIdBytes, if_pos htag]
  exact List.take_length

/-- The length of the text, and that there is one. -/
def Texted (n : Nat) (s : OpenChannel) : Prop :=
  s.openChannelData.alphaIdLength = n ∧ s.openChannelData.text.isSome

theorem texted_openChannelElement {e : Element} (h : e.tlv.tag ≠ ALPHA_ID) {s s' : OpenChannel}
    (hok : openChannelElement e s = .ok s') {n : Nat} (hs : Texted n s) : Texted n s' := by
  unfold openChannelElement at hok
  rw [if_neg h] at hok
  split at hok
  · cases hok
    unfold iconId
    split
    · exact hs
    · exact hs
  split at hok
  · unfold bearerDescription at hok
    split_ifs at hok
    · cases hok
      exact hs
    · cases hok
      exact hs
  split at hok
  · unfold bufferSize at hok
    split_ifs at hok
    cases hok
    exact hs
  split at hok
  · cases hok
    unfold networkAccessName
    split
    · exact hs
    · exact hs
  split at hok
  · cases hok
    unfold otherAddress Texted
    split_ifs
    · cases addressText e with
      | none => exact hs
      | some address => exact hs
    · exact hs
    · cases addressText e with
      | none => exact hs
      | some address => exact hs
    · exact hs
  split at hok
  · cases hok
    unfold textString
    split_ifs
    · exact hs
    · exact hs
    · exact hs
    · exact hs
  split at hok
  · cases hok
    unfold transportLevel
    split
    · exact hs
    · exact hs
  · cases hok
    exact hs

/-- The user is asked, and the length is that of the ALPHA ID. -/
theorem texted_elements (c : OpenCommand) (d : OpenChannelData) (resCode : Nat) :
    Texted c.alphaId.length (processOpenChannel c.elements d resCode).1 := by
  have htag : c.element.tlv.tag = ALPHA_ID := rfl
  have hpos := c.length_pos
  have hstep (s : OpenChannel) : openChannelElement c.element s = .ok (alphaId c.element s) := by
    rw [openChannelElement, if_pos htag]
  have htexted (s : OpenChannel) : Texted c.alphaId.length (alphaId c.element s) := by
    have hlength : c.element.tlv.length ≠ 0 := Nat.ne_of_gt hpos
    unfold alphaId
    rw [if_neg hlength]
    exact ⟨rfl, rfl⟩
  show Texted c.alphaId.length (walk openChannelElement (c.before ++ c.element :: c.after) (OpenChannel.start d)).1
  rw [rejects_openChannel.walk_append c.accepted, walk_cons_ok (hstep _)]
  apply walk_keeps _ (htexted _)
  intro e he s s' hok hs
  exact texted_openChannelElement (c.others e (List.mem_append_right _ he)) hok hs

/-- The text that is sent for the command. -/
def OpenCommand.hexString (c : OpenCommand) : List Byte :=
  confirmation c.elements (processOpenChannel c.elements noData OK).1.openChannelData c.commandNumber.toNat

/-- The bytes that are written as digits. -/
def OpenCommand.sent (c : OpenCommand) : List Byte :=
  cstr (confirmationBytes c.commandNumber.toNat c.alphaId.length c.alphaId)

theorem hexString_eq (c : OpenCommand) : c.hexString = convertBinToHex c.sent := by
  unfold OpenCommand.hexString OpenCommand.sent confirmation
  rw [alphaIdBytes_elements, (texted_elements c noData OK).1]

/-! ## What the parser makes of it -/

/-- The elements of the command, with a text of `alphaId`. -/
def confirmationTlvs (commandNumber : Byte) (alphaId : List Byte) (h : alphaId.length ≤ 115) : List ShortTlv :=
  [⟨COMMAND_DETAILS, 1, [commandNumber, 0x21, 0x81], commandDetails_range, one_le_one, by simp⟩,
    ⟨DEVICE_IDENTITIES, 1, [0x81, 0x02], deviceIdentities_range, one_le_one, by decide⟩,
    ⟨TEXT_STRING, 1, 0x04 :: alphaId, by decide, one_le_one, by rw [List.length_cons]; omega⟩]

theorem length_confirmationTlvs (commandNumber : Byte) (alphaId : List Byte) (h : alphaId.length ≤ 115) :
    (encodeTlvs (confirmationTlvs commandNumber alphaId h)).length = 12 + alphaId.length := by
  have hshort : alphaId.length + 1 < 0x80 := by omega
  simp [confirmationTlvs, encodeTlvs, ShortTlv.encode, berLength, hshort]
  omega

theorem encodeProCommand_confirmation (commandNumber : Byte) (alphaId : List Byte) (h : alphaId.length ≤ 115) :
    encodeProCommand (confirmationTlvs commandNumber alphaId h) =
      confirmationBytes commandNumber.toNat alphaId.length alphaId := by
  have hshort : alphaId.length + 1 < 0x80 := by omega
  have htotal : 12 + alphaId.length < 0x80 := by omega
  rw [encodeProCommand, length_confirmationTlvs, berLength, if_pos htotal]
  simp [confirmationTlvs, encodeTlvs, ShortTlv.encode, ShortTlv.firstByte, berLength, hshort, confirmationBytes,
    confirmationHead, COMMAND_DETAILS, DEVICE_IDENTITIES, TEXT_STRING]

theorem parseProCommand_convertBinToHex (beyond : Mem) {bytes : List Byte} (h : bytes ≠ []) :
    parseProCommand beyond (convertBinToHex bytes) = parseBytes (.ofBytes bytes beyond) := by
  have hne : convertBinToHex bytes ≠ [] := by
    rw [← List.length_pos_iff, length_convertBinToHex]
    have := List.length_pos_iff.2 h
    omega
  rw [parseProCommand, if_neg hne, convertHexToBin_convertBinToHex]
  rfl

/-- What the application is to read. -/
def Reads (parsed : Parsed) (commandNumber : Byte) (alphaId : List Byte) : Prop :=
  ∃ berTlv cmdDet, parsed = .OK berTlv ∧ berTlv.lengthValid = true ∧
    processCommandDetails berTlv.compTlvs = some cmdDet ∧ cmdDet.commandNumber = commandNumber.toNat ∧
    ∃ tlv ∈ berTlv.compTlvs, tlv.tag = TEXT_STRING ∧ tlv.value = 0x04 :: alphaId

/-- The command is read back, whatever lies behind the memory that the parser allocates. -/
def OpenCommand.ReadBack (c : OpenCommand) : Prop :=
  ∀ beyond : Mem, Reads (parseProCommand beyond c.hexString) c.commandNumber c.alphaId

theorem not_reads {parsed : Parsed} (h : ∀ berTlv, parsed ≠ .OK berTlv) (commandNumber : Byte) (alphaId : List Byte) :
    ¬Reads parsed commandNumber alphaId := by
  rintro ⟨berTlv, -, hok, -⟩
  exact h berTlv hok

/-- Where memory holds the command, the parser finds its three elements. -/
theorem parseBytes_confirmation {mem : Mem} {commandNumber : Byte} {alphaId : List Byte} (h : alphaId.length ≤ 115)
    (hholds : mem.Holds 0 (confirmationBytes commandNumber.toNat alphaId.length alphaId)) :
    parseBytes mem =
      .OK { tag := PROACTIVE_COMMAND_TAG
            compTlvs := (confirmationTlvs commandNumber alphaId h).map ShortTlv.tlv
            lengthValid := true } := by
  rw [← encodeProCommand_confirmation commandNumber alphaId h] at hholds
  have hlength := length_confirmationTlvs commandNumber alphaId h
  exact parseBytes_encodeProCommand (by omega) (by omega) hholds

/-! ## Where the buffer ends -/

theorem nul_notMem_confirmationHead {commandNumber : Byte} (h : commandNumber ≠ 0) {n : Nat} (hn : n ≤ 240) :
    NUL ∉ confirmationHead commandNumber.toNat n := by
  have hnonzero {k : Nat} (hpos : 0 < k) (hlt : k < 256) : NUL ≠ UInt8.ofNat k := by
    intro hzero
    have := congrArg UInt8.toNat hzero
    rw [UInt8.toNat_ofNat', Nat.mod_eq_of_lt hlt] at this
    exact Nat.ne_of_lt hpos this
  unfold confirmationHead
  rw [UInt8.ofNat_toNat]
  simp only [List.mem_cons, List.not_mem_nil, or_false, not_or]
  refine ⟨by decide, hnonzero (by omega) (by omega), by decide, by decide, h.symm, by decide, by decide, by decide,
    by decide, by decide, by decide, by decide, hnonzero (by omega) (by omega), by decide⟩

theorem cstr_confirmationBytes {commandNumber : Byte} (h : commandNumber ≠ 0) {n : Nat} (hn : n ≤ 240)
    (alphaId : List Byte) :
    cstr (confirmationBytes commandNumber.toNat n alphaId) =
      confirmationHead commandNumber.toNat n ++ cstr alphaId := by
  have hhead : ∀ b ∈ confirmationHead commandNumber.toNat n, (b != NUL) = true := by
    intro b hb
    simpa using ne_of_mem_of_not_mem hb (nul_notMem_confirmationHead h hn)
  unfold confirmationBytes cstr
  rw [List.takeWhile_append_of_pos hhead]

/-- A command number of zero ends the buffer behind the length of the details. -/
theorem cstr_confirmationBytes_zero {n : Nat} (hn : n ≤ 240) (alphaId : List Byte) :
    cstr (confirmationBytes 0 n alphaId) = [0xD0, UInt8.ofNat (12 + n), 0x81, 0x03] := by
  have hlength : UInt8.ofNat (12 + n) ≠ NUL := by
    intro hzero
    have := congrArg UInt8.toNat hzero
    rw [UInt8.toNat_ofNat', Nat.mod_eq_of_lt (by omega)] at this
    exact absurd this (by show 12 + n ≠ 0; omega)
  have hhead : NUL ∉ [0xD0, UInt8.ofNat (12 + n), 0x81, 0x03] := by
    simp only [List.mem_cons, List.not_mem_nil, or_false, not_or]
    exact ⟨by decide, hlength.symm, by decide, by decide⟩
  exact cstr_append_nul hhead _

/-! ## What is read takes room -/

variable {mem : Mem}

/-- The list has the details, and a text of `n` bytes. -/
def HasBoth (n : Nat) (tlvs : List TLV) : Prop :=
  (∃ details ∈ tlvs, details.tag = COMMAND_DETAILS ∧ 3 ≤ details.length) ∧
    ∃ text ∈ tlvs, text.tag = TEXT_STRING ∧ text.length = n + 1

theorem HasBoth.tail {n : Nat} {tlv : TLV} {tlvs : List TLV} (h : HasBoth n (tlv :: tlvs))
    (hdetails : tlv.tag ≠ COMMAND_DETAILS) (htext : tlv.tag ≠ TEXT_STRING) : HasBoth n tlvs := by
  obtain ⟨⟨details, hd, hdTag, hdLength⟩, text, ht, htTag, htLength⟩ := h
  constructor
  · rcases List.mem_cons.1 hd with rfl | hd
    · exact absurd hdTag hdetails
    · exact ⟨details, hd, hdTag, hdLength⟩
  · rcases List.mem_cons.1 ht with rfl | ht
    · exact absurd htTag htext
    · exact ⟨text, ht, htTag, htLength⟩

/-- The room that the two take at least. -/
theorem HasBoth.le_sizes {n : Nat} {tlvs : List TLV} (h : HasBoth n tlvs) (hlengths : ∀ tlv ∈ tlvs, tlv.length ≤ 255) :
    5 + advance (n + 1) ≤ sizes tlvs := by
  obtain ⟨⟨details, hd, hdTag, hdLength⟩, text, ht, htTag, htLength⟩ := h
  have hdistinct : details ≠ text := by
    rintro rfl
    rw [hdTag] at htTag
    cases htTag
  have hadvance := le_advance (hlengths details hd)
  have htwo := two_le_sizes hd ht hdistinct
  rw [htLength] at htwo
  omega

/-- The lengths of what is read add up to that of the command, and there are the details and the text. -/
theorem sizes_of_reads {n temp p : Nat} {commandNumber : Byte} {alphaId : List Byte}
    (h : Reads (parseBody mem n temp p) commandNumber alphaId) :
    ∃ tlvs, parseTlvs mem temp 0 p = some tlvs ∧ sizes tlvs = n ∧ (∀ tlv ∈ tlvs, tlv.length ≤ 255) ∧
      HasBoth alphaId.length tlvs := by
  obtain ⟨berTlv, cmdDet, hok, hvalid, hdetails, -, text, htext, htag, hvalue⟩ := h
  unfold parseBody at hok
  split at hok
  · cases hok
  split at hok
  · cases hok
  · rename_i tlvs hparse
    cases hok
    simp only [Bool.and_eq_true, decide_eq_true_eq] at hvalid
    have hpair : totalLength tlvs 0 = (true, n) := Prod.ext hvalid.1 hvalid.2.symm
    obtain ⟨htotal, hlengths⟩ := totalLength_eq hpair
    refine ⟨tlvs, hparse, by omega, hlengths, mem_of_processCommandDetails hdetails, text, htext, htag, ?_⟩
    rw [← length_of_parseTlvs hparse text htext, hvalue, List.length_cons]

/-! ## What is read of the command -/

theorem sent_of_ne_zero {c : OpenCommand} (h : c.commandNumber ≠ 0) :
    c.sent = confirmationHead c.commandNumber.toNat c.alphaId.length ++ cstr c.alphaId :=
  cstr_confirmationBytes h c.length_le c.alphaId

theorem sent_of_zero {c : OpenCommand} (h : c.commandNumber = 0) :
    c.sent = [0xD0, UInt8.ofNat (12 + c.alphaId.length), 0x81, 0x03] := by
  unfold OpenCommand.sent
  rw [h]
  exact cstr_confirmationBytes_zero c.length_le c.alphaId

/-- The first four bytes are sent whatever the command number is. -/
theorem sent_start (c : OpenCommand) :
    ∃ rest, c.sent = [0xD0, UInt8.ofNat (12 + c.alphaId.length), 0x81, 0x03] ++ rest := by
  by_cases hzero : c.commandNumber = 0
  · exact ⟨[], sent_of_zero hzero⟩
  · exact ⟨_, sent_of_ne_zero hzero⟩

/-- The command as the parser holds it. -/
def OpenCommand.memory (c : OpenCommand) (beyond : Mem) : Mem := .ofBytes c.sent beyond

theorem parseProCommand_hexString (c : OpenCommand) (beyond : Mem) :
    parseProCommand beyond c.hexString = parseBytes (c.memory beyond) := by
  have hne : c.sent ≠ [] := by
    obtain ⟨rest, hsent⟩ := sent_start c
    rw [hsent]
    exact List.cons_ne_nil _ _
  rw [hexString_eq, parseProCommand_convertBinToHex beyond hne, OpenCommand.memory]

theorem memory_start (c : OpenCommand) (beyond : Mem) :
    c.memory beyond 0 = 0xD0 ∧ (c.memory beyond 1).toNat = 12 + c.alphaId.length ∧ c.memory beyond 2 = 0x81 ∧
      c.memory beyond 3 = 0x03 := by
  obtain ⟨rest, hsent⟩ := sent_start c
  have hle := c.length_le
  have hholds := Mem.ofBytes_holds c.sent beyond
  rw [hsent] at hholds
  have hstart := hholds.left
  rw [← hsent] at hstart
  have hlength : c.memory beyond 1 = UInt8.ofNat (12 + c.alphaId.length) := hstart.tail.head
  refine ⟨hstart.head, ?_, hstart.tail.tail.head, hstart.tail.tail.tail.head⟩
  rw [hlength, UInt8.toNat_ofNat', Nat.mod_eq_of_lt (by omega)]

/-- How the length is understood. -/
theorem parseBytes_memory (c : OpenCommand) (beyond : Mem) :
    parseBytes (c.memory beyond) =
      if c.alphaId.length ≤ 115 then
        parseBody (c.memory beyond) (12 + c.alphaId.length) (12 + c.alphaId.length) 2
      else if c.alphaId.length = 117 then parseBody (c.memory beyond) 129 129 3
      else .CMD_DATA_NOT_UNDERSTOOD := by
  obtain ⟨htag, hlength, hsecond, -⟩ := memory_start c beyond
  have hcommand : ¬(c.memory beyond 0).toNat ≠ PROACTIVE_COMMAND_TAG := by
    rw [htag]
    decide
  have htemp : (c.memory beyond 2).toNat = 129 := by
    rw [hsecond]
    rfl
  unfold parseBytes
  rw [if_neg hcommand, htemp, hlength]
  by_cases hshort : c.alphaId.length ≤ 115
  · rw [if_pos (by omega), if_pos hshort]
  · rw [if_neg (by omega), if_neg hshort]
    by_cases hlong : c.alphaId.length = 117
    · rw [if_pos (by omega), if_neg (by decide), if_pos hlong]
    · rw [if_neg (by omega), if_neg hlong]

/-! ## What is not read back -/

/-- A byte that begins no element and is no length. -/
def behind : Mem := fun _ => 0xff

theorem not_reads_parseBody {mem : Mem} {n temp p : Nat} (h : parseTlvs mem temp 0 p = none) (commandNumber : Byte)
    (alphaId : List Byte) : ¬Reads (parseBody mem n temp p) commandNumber alphaId := by
  intro hreads
  obtain ⟨tlvs, hparse, -⟩ := sizes_of_reads hreads
  rw [h] at hparse
  cases hparse

/-- Without a command number there is nothing behind the head of the details. -/
theorem not_reads_zero {c : OpenCommand} (h : c.commandNumber = 0) :
    ¬Reads (parseBytes (c.memory behind)) c.commandNumber c.alphaId := by
  obtain ⟨-, -, htag, hdetails⟩ := memory_start c behind
  have hbehind {i : Nat} (hi : 4 ≤ i) : c.memory behind i = 0xff := by
    unfold OpenCommand.memory Mem.ofBytes
    rw [sent_of_zero h, List.getD_eq_getElem?_getD, List.getElem?_eq_none hi]
    rfl
  rw [parseBytes_memory]
  split
  · apply not_reads_parseBody
    have hlength : decodeLength (c.memory behind) 3 = some (3, 4) := by
      apply decodeLength_short _ (by decide)
      rw [hdetails]
      rfl
    have hdecode := decode_single htag (by decide)
    rw [hlength] at hdecode
    have hshort : 0 + advance 3 < 12 + c.alphaId.length := by
      rw [show advance 3 = 5 from rfl]
      omega
    rw [parseTlvs, if_pos (by omega), hdecode]
    simp only [Option.map_some]
    rw [parseTlvs_none hshort (decode_behind (hbehind (by decide)))]
    rfl
  split
  · apply not_reads_parseBody
    apply parseTlvs_none (by decide)
    have hlength : decodeLength (c.memory behind) 4 = none := by
      unfold decodeLength
      rw [hbehind (le_refl 4)]
      rfl
    rw [decode_single hdetails (by decide), hlength]
    rfl
  · exact not_reads (fun _ h => by cases h) _ _

/-- Of 117 bytes, the length is taken for the form of a length, and the list is begun one byte late. -/
theorem not_reads_misread {c : OpenCommand} (hzero : c.commandNumber ≠ 0) (hlength : c.alphaId.length = 117)
    (beyond : Mem) : ¬Reads (parseBytes (c.memory beyond)) c.commandNumber c.alphaId := by
  have hholds : (c.memory beyond).Holds 0 (confirmationHead c.commandNumber.toNat c.alphaId.length) := by
    have hall := Mem.ofBytes_holds c.sent beyond
    rw [sent_of_ne_zero hzero] at hall
    have hhead := hall.left
    rw [← sent_of_ne_zero hzero] at hhead
    exact hhead
  have hcell (i : Nat) (h : i < 14) := hholds i h
  simp only [Nat.zero_add] at hcell
  have h3 : c.memory beyond 3 = 0x03 := hcell 3 (by decide)
  have h4 : (c.memory beyond 4).toNat = c.commandNumber.toNat := by
    rw [hcell 4 (by decide)]
    simp [confirmationHead]
  have h5 : c.memory beyond 5 = 0x21 := hcell 5 (by decide)
  have h6 : c.memory beyond 6 = 0x81 := hcell 6 (by decide)
  have h7 : c.memory beyond 7 = 0x82 := hcell 7 (by decide)
  have h8 : c.memory beyond 8 = 0x02 := hcell 8 (by decide)
  have hnumber : c.commandNumber.toNat ≠ 0 := fun h => hzero (UInt8.toNat_inj.1 h)
  rw [parseBytes_memory, if_neg (by omega), if_pos hlength]
  intro hreads
  obtain ⟨tlvs, hparse, hsizes, hlengths, hboth⟩ := sizes_of_reads hreads
  -- the first element is neither, and it takes a length of one byte
  obtain ⟨first, rest, hfirst, hrest, rfl⟩ := parseTlvs_step (by decide) hparse
  obtain ⟨hfirstTag, value, hfirstLength⟩ := of_decode_single h3 (by decide) hfirst
  rw [hlength] at hboth
  have hbothRest := hboth.tail (by rw [hfirstTag]; decide) (by rw [hfirstTag]; decide)
  obtain ⟨hle, hrestLengths⟩ := List.forall_mem_cons.1 hlengths
  have hroom := hbothRest.le_sizes hrestLengths
  have htext : advance (117 + 1) = 120 := rfl
  have hadvance := le_advance hle
  rw [sizes_cons] at hsizes
  have hnumber' := eq_of_decodeLength hfirstLength (by omega)
  rw [h4] at hnumber'
  -- that byte is the command number, and what remains leaves it no more than two
  have hcases : first.length = 1 ∨ first.length = 2 := by omega
  rcases hcases with hone | htwo
  · rw [hone] at hrest
    obtain ⟨second, rest', hsecond, -, rfl⟩ := parseTlvs_step (by decide) hrest
    obtain ⟨-, value', hsecondLength⟩ := of_decode_single (show _ = _ from h6) (by decide) hsecond
    have hform : decodeLength (c.memory beyond) 7 = some (0x202, 11) := by
      unfold decodeLength
      rw [h7, h8]
      rfl
    have hlong : second.length = 0x202 := congrArg Prod.fst (Option.some.inj (hsecondLength.symm.trans hform))
    have := hrestLengths second List.mem_cons_self
    omega
  · rw [htwo] at hrest hsizes
    obtain ⟨second, rest', hsecond, -, rfl⟩ := parseTlvs_step (by decide) hrest
    obtain ⟨hsecondTag, value', hsecondLength⟩ := of_decode_single (show _ = _ from h7) (by decide) hsecond
    have hform : decodeLength (c.memory beyond) 8 = some (2, 9) := by
      apply decodeLength_short _ (by decide)
      rw [h8]
      rfl
    have hshort : second.length = 2 := congrArg Prod.fst (Option.some.inj (hsecondLength.symm.trans hform))
    have hbothLast := hbothRest.tail (by rw [hsecondTag]; decide) (by rw [hsecondTag]; decide)
    have hlast := hbothLast.le_sizes (List.forall_mem_cons.1 hrestLengths).2
    rw [sizes_cons, hshort] at hsizes
    have hadvanceTwo : advance 2 = 4 := rfl
    omega

theorem holds_replicate (bytes : List Byte) (b : Byte) (n : Nat) :
    (Mem.ofBytes bytes fun _ => b).Holds 0 (bytes ++ List.replicate n b) := by
  intro i hi
  rw [Nat.zero_add, Mem.ofBytes, List.getD_eq_getElem?_getD]
  by_cases hinside : i < bytes.length
  · rw [List.getElem?_eq_getElem hinside, List.getElem_append_left hinside]
    rfl
  · rw [List.getElem?_eq_none (by omega), List.getElem_append_right (by omega), List.getElem_replicate]
    rfl

/-- Where memory holds the command with a text, that text is read. -/
theorem text_of_reads {mem : Mem} {commandNumber number : Byte} {alphaId text : List Byte} (h : alphaId.length ≤ 115)
    (hholds : mem.Holds 0 (confirmationBytes commandNumber.toNat alphaId.length alphaId))
    (hreads : Reads (parseBytes mem) number text) : alphaId = text := by
  rw [parseBytes_confirmation h hholds] at hreads
  obtain ⟨berTlv, cmdDet, hok, -, -, -, tlv, htlv, htag, hvalue⟩ := hreads
  cases hok
  simp only [confirmationTlvs, List.map_cons, List.map_nil, List.mem_cons, List.not_mem_nil, or_false] at htlv
  rcases htlv with rfl | rfl | rfl
  · cases htag
  · cases htag
  · exact (List.cons.inj hvalue).2

/-- A zero byte of the text ends it. -/
theorem not_reads_nul {c : OpenCommand} (hzero : c.commandNumber ≠ 0) (hlength : c.alphaId.length ≤ 115)
    (hnul : NUL ∈ c.alphaId) : ¬Reads (parseBytes (c.memory behind)) c.commandNumber c.alphaId := by
  obtain ⟨s, t, hsplit, hs⟩ := List.eq_append_cons_of_mem hnul
  have hlong : (s ++ List.replicate (t.length + 1) 0xff).length = c.alphaId.length := by
    rw [hsplit]
    simp
  intro hreads
  have hholds : (c.memory behind).Holds 0 (confirmationBytes c.commandNumber.toNat
      (s ++ List.replicate (t.length + 1) 0xff).length (s ++ List.replicate (t.length + 1) 0xff)) := by
    have hsent : c.sent = confirmationHead c.commandNumber.toNat c.alphaId.length ++ s := by
      rw [sent_of_ne_zero hzero]
      congr 1
      rw [hsplit]
      exact cstr_append_nul hs t
    have hall := holds_replicate c.sent 0xff (t.length + 1)
    rw [hsent, List.append_assoc, ← hsent] at hall
    rw [hlong]
    exact hall
  have htext := text_of_reads (by omega) hholds hreads
  rw [hsplit] at htext
  have hbyte := List.append_cancel_left htext
  rw [List.replicate_succ] at hbyte
  exact absurd (List.cons.inj hbyte).1 (by decide)

/-! ## What is read back -/

theorem reads_of_short {c : OpenCommand} (hlength : c.alphaId.length ≤ 115) (hzero : c.commandNumber ≠ 0)
    (hnul : NUL ∉ c.alphaId) (beyond : Mem) : Reads (parseBytes (c.memory beyond)) c.commandNumber c.alphaId := by
  have hholds : (c.memory beyond).Holds 0 (confirmationBytes c.commandNumber.toNat c.alphaId.length c.alphaId) := by
    have hall := Mem.ofBytes_holds c.sent beyond
    rw [sent_of_ne_zero hzero, cstr_of_notMem hnul, ← confirmationBytes] at hall
    have hsent : c.sent = confirmationBytes c.commandNumber.toNat c.alphaId.length c.alphaId := by
      rw [sent_of_ne_zero hzero, cstr_of_notMem hnul, confirmationBytes]
    unfold OpenCommand.memory
    rw [hsent]
    exact hall
  rw [parseBytes_confirmation hlength hholds]
  refine ⟨_, _, rfl, rfl, rfl, rfl,
    ShortTlv.tlv ⟨TEXT_STRING, 1, 0x04 :: c.alphaId, by decide, by decide, ?_⟩, ?_, rfl, rfl⟩
  · rw [List.length_cons]
    omega
  · simp [confirmationTlvs]

/-- **The command that asks the user is read back** when its text has at most 115 bytes and no zero byte, and the
command number is not zero: the lengths are written as bytes, and the buffer is measured with `strlen`. -/
theorem readBack_iff (c : OpenCommand) :
    c.ReadBack ↔ c.alphaId.length ≤ 115 ∧ c.commandNumber ≠ 0 ∧ NUL ∉ c.alphaId := by
  constructor
  · intro h
    have hbehind := h behind
    rw [parseProCommand_hexString] at hbehind
    have hzero : c.commandNumber ≠ 0 := fun hzero => not_reads_zero hzero hbehind
    have hlength : c.alphaId.length ≤ 115 := by
      by_contra hlong
      by_cases hform : c.alphaId.length = 117
      · exact not_reads_misread hzero hform behind hbehind
      · rw [parseBytes_memory, if_neg hlong, if_neg hform] at hbehind
        exact not_reads (fun _ hok => by cases hok) _ _ hbehind
    exact ⟨hlength, hzero, fun hnul => not_reads_nul hzero hlength hnul hbehind⟩
  · rintro ⟨hlength, hzero, hnul⟩ beyond
    rw [parseProCommand_hexString]
    exact reads_of_short hlength hzero hnul beyond

/-- The text `A` and a zero byte. -/
def zeroText : OpenCommand where
  commandNumber := 1
  alphaId := [0x41, 0]
  length_pos := by decide
  length_le := by decide
  cr := 1
  beyond := []
  before := []
  after := []
  others := by simp
  accepted := by simp

theorem readBack_fails_zeroText : ¬zeroText.ReadBack := by
  intro h
  have hreads := h behind
  rw [parseProCommand_hexString] at hreads
  exact not_reads_nul (by decide) (by decide) (by decide) hreads

end UniRil.Stk.Elements
