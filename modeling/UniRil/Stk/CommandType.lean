import UniRil.Stk.Client
import UniRil.Stk.Decoding

/-!
# The type of a command, before it is parsed (ril_stk.c)

Two characters at a fixed place tell `processStkUnsolicited` whether a command is for `processBipClient`, where the
parser comes to the type its own way. Neither looks whether the text is as long as it says.
-/

namespace UniRil.Stk

/-! ## Two digits -/

set_option maxRecDepth 10000 in
/-- A digit is no white space and no sign, and from '8' on the first bit is set. -/
theorem digit_of_hexValue {ch v : Byte} (h : hexValue ch = some v) :
    ch ≠ NUL ∧ AtTok.isspace ch = false ∧ ch ≠ 43 ∧ ch ≠ 45 ∧ ((ch ≤ 55 ∨ 128 ≤ ch) ↔ v.toNat < 8) := by
  have hall : ∀ n < 256, (hexValue (UInt8.ofNat n)).all (fun v => UInt8.ofNat n ≠ NUL ∧
      AtTok.isspace (UInt8.ofNat n) = false ∧ UInt8.ofNat n ≠ 43 ∧ UInt8.ofNat n ≠ 45 ∧
      ((UInt8.ofNat n ≤ 55 ∨ 128 ≤ UInt8.ofNat n) ↔ v.toNat < 8)) = true := by decide
  have hch := hall ch.toNat ch.toNat_lt
  rw [UInt8.ofNat_toNat, h] at hch
  exact of_decide_eq_true hch

/-- `strtoul` reads two digits as the parser does. -/
theorem strtoulByte_digits {ch ch' high low : Byte} (h : hexValue ch = some high) (h' : hexValue ch' = some low) :
    strtoulByte (cstr [ch, ch']) = (high <<< 4 ||| low).toNat := by
  obtain ⟨hnul, hspace, hplus, hminus, -⟩ := digit_of_hexValue h
  obtain ⟨hnul', -⟩ := digit_of_hexValue h'
  have hhigh := toNat_hexValue_lt h
  have hlow := toNat_hexValue_lt h'
  have hcstr : cstr [ch, ch'] = [ch, ch'] := by
    apply cstr_of_notMem
    simp [hnul.symm, hnul'.symm]
  have hdigits : strtoulByte [ch, ch'] = (16 * (16 * 0 + high.toNat) + low.toNat) % 0x100 := by
    unfold strtoulByte
    simp [hspace, hplus, hminus, h, h']
  rw [hcstr, hdigits, toNat_digits hhigh hlow]
  omega

/-- Where the digits of a byte stand. -/
theorem digits_of_convertHexToBin {hex bin : List Byte} (h : convertHexToBin hex = (true, bin)) {i : Nat}
    (hi : i < bin.length) :
    ∃ ch ch' high low, hex[2 * i]? = some ch ∧ hex[2 * i + 1]? = some ch' ∧ hexValue ch = some high ∧
      hexValue ch' = some low ∧ bin[i] = high <<< 4 ||| low := by
  induction hex using convertHexToBin.induct generalizing bin i with
  | case1 =>
    obtain rfl : [] = bin := by simpa [convertHexToBin] using h
    cases hi
  | case2 ch hnone => simp [convertHexToBin, hnone] at h
  | case3 ch high hsome => simp [convertHexToBin, hsome] at h
  | case4 ch ch' hex hnone => simp [convertHexToBin, hnone] at h
  | case5 ch ch' hex high hsome hnone => simp [convertHexToBin, hsome, hnone] at h
  | case6 ch ch' hex high low hlow hhigh ih =>
    simp only [convertHexToBin, hlow, hhigh, Prod.mk.injEq] at h
    obtain ⟨htrue, rfl⟩ := h
    have hrest : convertHexToBin hex = (true, (convertHexToBin hex).2) := by rw [← htrue]
    cases i with
    | zero => exact ⟨ch, ch', high, low, rfl, rfl, hhigh, hlow, rfl⟩
    | succ i => exact ih hrest (Nat.lt_of_succ_lt_succ hi)

/-! ## What the quick test reads -/

variable {response : List Byte}

theorem cellAt_eq {i : Nat} {ch : Byte} (h : response[i]? = some ch) (behind : Mem) :
    cellAt response behind i = ch := by
  have hi : i < response.length := (List.getElem?_eq_some_iff.1 h).1
  unfold cellAt
  rw [List.getD_eq_getElem?_getD, List.getElem?_append_left hi, h]
  rfl

/-- Behind the text, where nothing but zeros lie. -/
theorem cellAt_zero {i : Nat} (hi : response.length ≤ i) : cellAt response (fun _ => 0) i = NUL := by
  unfold cellAt
  rw [List.getD_eq_getElem?_getD, List.getElem?_append_right hi]
  cases hrest : i - response.length with
  | zero => rfl
  | succ n => rfl

/-- The place of the byte that the quick test reads is told by the length of the command. -/
theorem typePos_eq {bin : List Byte} (h : convertHexToBin response = (true, bin)) (h1 : 1 < bin.length)
    (behind : Mem) : typePos response behind = if bin[1].toNat < 0x80 then 10 else 12 := by
  obtain ⟨ch, ch', high, low, hch, -, hhigh, hlow, hbyte⟩ := digits_of_convertHexToBin h h1
  obtain ⟨-, -, -, -, height⟩ := digit_of_hexValue hhigh
  have hlow16 := toNat_hexValue_lt hlow
  have hshort : bin[1].toNat < 0x80 ↔ high.toNat < 8 := by
    rw [hbyte, toNat_digits (toNat_hexValue_lt hhigh) hlow16]
    omega
  unfold typePos
  rw [cellAt_eq hch]
  by_cases hlt : high.toNat < 8
  · rw [if_pos (height.2 hlt), if_pos (hshort.2 hlt)]
  · rw [if_neg (mt height.1 hlt), if_neg (mt hshort.1 hlt)]

theorem checkStkProCmdType_eq {bin : List Byte} (h : convertHexToBin response = (true, bin)) {i : Nat}
    (hi : i < bin.length) (behind : Mem) : checkStkProCmdType response behind (2 * i) = bin[i].toNat := by
  obtain ⟨ch, ch', high, low, hch, hch', hhigh, hlow, hbyte⟩ := digits_of_convertHexToBin h hi
  unfold checkStkProCmdType
  rw [cellAt_eq hch, cellAt_eq hch', strtoulByte_digits hhigh hlow, hbyte]

theorem checkStkProCmdType_zero {i : Nat} (hi : response.length ≤ i) :
    checkStkProCmdType response (fun _ => 0) i = 0 := by
  unfold checkStkProCmdType
  rw [cellAt_zero hi]
  rfl

/-! ## What the parser reads -/

/-- The parser accepts the command, and its first element is the details with a length of one byte. -/
def Accepted (beyond : Mem) (response : List Byte) (cmdDet : CommandDetails) : Prop :=
  ∃ berTlv details rest, parseProCommand beyond response = .OK berTlv ∧ berTlv.lengthValid = true ∧
    berTlv.compTlvs = details :: rest ∧ details.tag = COMMAND_DETAILS ∧ details.length < 0x80 ∧
    processCommandDetails berTlv.compTlvs = some cmdDet

variable {mem : Mem}

/-- The parameters of the command, where the details begin at `start`. -/
def detailsAt (mem : Mem) (start : Nat) : CommandDetails :=
  { commandNumber := (mem (start + 2)).toNat
    typeOfCommand := (mem (start + 3)).toNat
    commandQualifier := (mem (start + 4)).toNat
    compRequired := (mem start).toNat / 128 ≠ 0 }

/-- The details of `n` bytes begin at `start`, and the other elements fill the command. -/
structure DetailsFirst (mem : Mem) (temp start n : Nat) (rest : List TLV) : Prop where
  command : commandLength mem = some (temp, start)
  room : 9 ≤ temp
  tag : (mem start).toNat = 0x01 ∨ (mem start).toNat = 0x81
  length : (mem (start + 1)).toNat = n
  three : 3 ≤ n
  short : n < 0x80
  others : parseTlvs mem temp (advance n) (start + advance n) = some rest
  total : totalLength rest (advance n) = (true, temp)

def detailsTlv (mem : Mem) (start n : Nat) : TLV :=
  { tag := COMMAND_DETAILS, cr := (mem start).toNat / 128, length := n
    value := (List.range n).map fun i => mem (start + 2 + i) }

theorem decode_details {p n : Nat} (htag : (mem p).toNat = 0x01 ∨ (mem p).toNat = 0x81)
    (hlength : (mem (p + 1)).toNat = n) (hshort : n < 0x80) : decode mem p = some (detailsTlv mem p n) := by
  have hcommand : (mem p).toNat % 128 = COMMAND_DETAILS := by
    unfold COMMAND_DETAILS
    omega
  rw [decode_single rfl (by omega), decodeLength_short hlength hshort, hcommand]
  rfl

set_option maxRecDepth 10000 in
/-- The long form of a tag is never that of the details. -/
theorem long_tag_ne {n : Nat} (h : n < 256) : (n <<< 8 ||| n) &&& 0x7fff ≠ COMMAND_DETAILS := by
  have hall : ∀ n < 256, (n <<< 8 ||| n) &&& 0x7fff ≠ COMMAND_DETAILS := by decide
  exact hall n h

theorem details_of_decode {p : Nat} {tlv : TLV} (h : decode mem p = some tlv) (htag : tlv.tag = COMMAND_DETAILS)
    (hshort : tlv.length < 0x80) :
    ((mem p).toNat = 0x01 ∨ (mem p).toNat = 0x81) ∧ (mem (p + 1)).toNat = tlv.length := by
  have hlt := (mem p).toNat_lt
  have hthree : (mem p).toNat ≠ 0x7f := by
    intro hthree
    simp only [decode, decodeTag, hthree, Option.bind_eq_bind, Option.bind_some, Option.bind_eq_some_iff] at h
    obtain ⟨q, -, hpure⟩ := h
    cases hpure
    exact long_tag_ne (mem (p + 1)).toNat_lt htag
  have hzero : (mem p).toNat ≠ 0 := by
    intro hzero
    simp only [decode, decodeTag, hzero, Option.bind_eq_bind, Option.bind_some, Option.bind_eq_some_iff] at h
    obtain ⟨q, -, hpure⟩ := h
    cases hpure
    cases htag
  have hnone : (mem p).toNat ≠ 0x80 ∧ (mem p).toNat ≠ 0xff := by
    constructor
    · intro hbyte
      simp [decode, decodeTag, hbyte] at h
    · intro hbyte
      simp [decode, decodeTag, hbyte] at h
  obtain ⟨hmod, value, hlength⟩ := of_decode_single rfl ⟨hzero, hthree, hnone.1, hnone.2⟩ h
  rw [htag, show COMMAND_DETAILS = 1 from rfl] at hmod
  exact ⟨by omega, eq_of_decodeLength hlength hshort⟩

theorem processCommandDetails_details {n : Nat} (hthree : 3 ≤ n) (start : Nat) (rest : List TLV) :
    processCommandDetails (detailsTlv mem start n :: rest) = some (detailsAt mem start) := by
  have hvalue {i : Nat} (hi : i < n) : (detailsTlv mem start n).value.getD i 0 = mem (start + 2 + i) := by
    unfold detailsTlv
    rw [List.getD_eq_getElem?_getD, List.getElem?_map, List.getElem?_range hi]
    rfl
  have hlength : ¬(detailsTlv mem start n).length < 3 := Nat.not_lt.2 hthree
  have htag : (detailsTlv mem start n).tag = COMMAND_DETAILS := rfl
  rw [processCommandDetails, if_pos htag, if_neg hlength, hvalue (by omega), hvalue (by omega), hvalue (by omega)]
  rfl

theorem totalLength_details {n : Nat} (hshort : n < 0x80) (start : Nat) (rest : List TLV) :
    totalLength (detailsTlv mem start n :: rest) 0 = totalLength rest (advance n) := by
  have hlength : (detailsTlv mem start n).length = n := rfl
  rw [totalLength, advance, hlength, if_neg (by omega), if_pos hshort, if_neg (by omega), if_pos hshort, Nat.zero_add]

theorem DetailsFirst.parseBytes {temp start n : Nat} {rest : List TLV} (h : DetailsFirst mem temp start n rest) :
    Stk.parseBytes mem =
      .OK { tag := PROACTIVE_COMMAND_TAG, compTlvs := detailsTlv mem start n :: rest, lengthValid := true } := by
  have hroom := h.room
  have hothers : parseTlvs mem temp (0 + advance n) (start + advance n) = some rest := by
    rw [Nat.zero_add]
    exact h.others
  have hlist : parseTlvs mem temp 0 start = some (detailsTlv mem start n :: rest) := by
    rw [parseTlvs, if_pos (by omega), decode_details h.tag h.length h.short]
    show (parseTlvs mem temp (0 + advance n) (start + advance n)).map _ = _
    rw [hothers]
    rfl
  have htotal : totalLength (detailsTlv mem start n :: rest) 0 = (true, temp) := by
    rw [totalLength_details h.short]
    exact h.total
  rw [parseBytes_eq, h.command]
  simp [parseBody, Nat.not_lt.2 hroom, hlist, htotal]

/-- What it comes to that a command is accepted. -/
theorem accepted_iff {beyond : Mem} {bin : List Byte} (hne : response ≠ [])
    (h : convertHexToBin response = (true, bin)) {cmdDet : CommandDetails} :
    Accepted beyond response cmdDet ↔ ∃ temp start n rest, DetailsFirst (.ofBytes bin beyond) temp start n rest ∧
      cmdDet = detailsAt (.ofBytes bin beyond) start := by
  have hparse : parseProCommand beyond response = parseBytes (.ofBytes bin beyond) := by
    rw [parseProCommand, if_neg hne, h]
    rfl
  unfold Accepted
  rw [hparse, parseBytes_eq]
  constructor
  · rintro ⟨berTlv, details, rest, hok, hvalid, hlist, htag, hshort, hdetails⟩
    split at hok
    · cases hok
    rename_i temp start hcommand
    unfold parseBody at hok
    split at hok
    · cases hok
    split at hok
    · cases hok
    rename_i hroom _ tlvs hparse
    cases hok
    cases hlist
    obtain ⟨first, others, hdecode, hothers, hlist⟩ := parseTlvs_step (by omega) hparse
    cases hlist
    obtain ⟨hbyte, hlength⟩ := details_of_decode hdecode htag hshort
    rw [decode_details hbyte hlength hshort] at hdecode
    generalize hn : details.length = n at *
    cases hdecode
    have hthree : 3 ≤ n := by
      by_contra hfew
      rw [processCommandDetails, if_pos htag, if_pos (by omega)] at hdetails
      cases hdetails
    rw [processCommandDetails_details hthree] at hdetails
    cases hdetails
    simp only [Bool.and_eq_true, decide_eq_true_eq] at hvalid
    have htotal : totalLength (detailsTlv (.ofBytes bin beyond) start n :: rest) 0 = (true, temp) :=
      Prod.ext hvalid.1 hvalid.2.symm
    rw [totalLength_details hshort] at htotal
    rw [Nat.zero_add] at hothers
    exact ⟨temp, start, n, rest, ⟨hcommand, by omega, hbyte, hlength, hthree, hshort, hothers, htotal⟩, rfl⟩
  · rintro ⟨temp, start, n, rest, hfirst, rfl⟩
    rw [← parseBytes_eq, hfirst.parseBytes]
    exact ⟨_, _, rest, rfl, rfl, rfl, rfl, hfirst.short, processCommandDetails_details hfirst.three start rest⟩

/-! ## The two agree -/

/-- Whatever lies behind the two texts, the type that is looked at is that of the command. -/
def Agrees (response : List Byte) : Prop :=
  ∀ beyond behind cmdDet, Accepted beyond response cmdDet → cmdTypeOf response behind = cmdDet.typeOfCommand

/-- The text has the two characters that are looked at. -/
def HoldsType (response : List Byte) : Prop := typePos response (fun _ => 0) + 2 ≤ response.length

theorem Accepted.text {beyond : Mem} {cmdDet : CommandDetails} (h : Accepted beyond response cmdDet) :
    response ≠ [] ∧ ∃ bin, convertHexToBin response = (true, bin) := by
  obtain ⟨berTlv, -, -, hok, -⟩ := h
  unfold parseProCommand at hok
  split at hok
  · cases hok
  rename_i hne
  refine ⟨hne, (convertHexToBin response).2, Prod.ext ?_ rfl⟩
  by_contra hfalse
  simp [hfalse] at hok

theorem DetailsFirst.start_eq {temp start n : Nat} {rest : List TLV} (h : DetailsFirst mem temp start n rest) :
    start = if (mem 1).toNat < 0x80 then 2 else 3 := by
  have hcommand := h.command
  unfold commandLength at hcommand
  split at hcommand
  · cases hcommand
  split at hcommand
  · cases hcommand
    rename_i hshort
    rw [if_pos hshort]
  split at hcommand
  · cases hcommand
    rename_i hlong _
    rw [if_neg hlong]
  · cases hcommand

/-- One byte of what lies behind is another. -/
def Mem.overwrite (beyond : Mem) (p : Nat) (b : Byte) : Mem := fun i => if i = p then b else beyond i

theorem ofBytes_overwrite_ne {bin : List Byte} (beyond : Mem) {o p : Nat} (h : o ≠ p) (b : Byte) :
    Mem.ofBytes bin (beyond.overwrite p b) o = Mem.ofBytes bin beyond o := by
  have hsame : beyond.overwrite p b o = beyond o := if_neg h
  unfold Mem.ofBytes
  rw [hsame]

theorem ofBytes_overwrite {bin : List Byte} (beyond : Mem) {p : Nat} (h : bin.length ≤ p) (b : Byte) :
    Mem.ofBytes bin (beyond.overwrite p b) p = b := by
  have hb : beyond.overwrite p b p = b := if_pos rfl
  unfold Mem.ofBytes
  rw [hb, List.getD_eq_getElem?_getD, List.getElem?_eq_none h]
  rfl

/-- The type is a byte of the value: with another, the rest of the command is read as before. -/
theorem DetailsFirst.other_type {mem' : Mem} {temp start n : Nat} {rest : List TLV}
    (h : DetailsFirst mem temp start n rest) (hsame : ∀ o, o ≠ start + 3 → mem o = mem' o) :
    DetailsFirst mem' temp start n rest := by
  have hstart : 2 ≤ start := by
    rw [h.start_eq]
    split
    · omega
    · omega
  have hthree := h.three
  have hadvance := le_advance (Nat.le_trans (Nat.le_of_lt h.short) (by decide))
  have hcommand : commandLength mem = commandLength mem' := by
    unfold commandLength
    rw [hsame 0 (by omega), hsame 1 (by omega), hsame 2 (by omega)]
  have hfrom : SameFrom (start + advance n) mem mem' := fun o ho => hsame o (by omega)
  constructor
  · rw [← hcommand]
    exact h.command
  · exact h.room
  · rw [← hsame start (by omega)]
    exact h.tag
  · rw [← hsame (start + 1) (by omega)]
    exact h.length
  · exact h.three
  · exact h.short
  · rw [← parseTlvs_from hfrom]
    exact h.others
  · exact h.total

/-- The bytes of the text are those of its digits. -/
theorem ofBytes_eq {bin : List Byte} (beyond : Mem) {i : Nat} (hi : i < bin.length) :
    Mem.ofBytes bin beyond i = bin[i] := by
  have hholds := Mem.ofBytes_holds bin beyond i hi
  rwa [Nat.zero_add] at hholds

/-- The place that is looked at is that of the type. -/
theorem typePos_of_details {beyond : Mem} {bin : List Byte} (hbin : convertHexToBin response = (true, bin))
    {temp start n : Nat} {rest : List TLV} (h : DetailsFirst (.ofBytes bin beyond) temp start n rest)
    (h1 : 1 < bin.length) (behind : Mem) : typePos response behind = 2 * (start + 3) := by
  rw [typePos_eq hbin h1, h.start_eq, ofBytes_eq beyond h1]
  split
  · rfl
  · rfl

theorem agrees_of_holdsType (h : HoldsType response) : Agrees response := by
  intro beyond behind cmdDet haccepted
  obtain ⟨hne, bin, hbin⟩ := haccepted.text
  obtain ⟨temp, start, n, rest, hfirst, rfl⟩ := (accepted_iff hne hbin).1 haccepted
  have hlength := length_of_convertHexToBin hbin
  have hten : 10 ≤ typePos response fun _ => 0 := by
    unfold typePos
    split
    · omega
    · omega
  unfold HoldsType at h
  have h1 : 1 < bin.length := by omega
  rw [typePos_of_details hbin hfirst h1] at h
  have hin : start + 3 < bin.length := by omega
  unfold cmdTypeOf
  rw [typePos_of_details hbin hfirst h1, checkStkProCmdType_eq hbin hin]
  show bin[start + 3].toNat = (Mem.ofBytes bin beyond (start + 3)).toNat
  rw [ofBytes_eq beyond hin]

/-- Of a text that ends before its type, the quick test reads zeros where the parser reads what it may. -/
theorem holdsType_of_agrees {beyond : Mem} {cmdDet : CommandDetails} (haccepted : Accepted beyond response cmdDet)
    (h : Agrees response) : HoldsType response := by
  by_contra hshort
  obtain ⟨hne, bin, hbin⟩ := haccepted.text
  obtain ⟨temp, start, n, rest, hfirst, rfl⟩ := (accepted_iff hne hbin).1 haccepted
  have hlength := length_of_convertHexToBin hbin
  have hends : bin.length ≤ start + 3 ∧ response.length ≤ typePos response fun _ => 0 := by
    unfold HoldsType at hshort
    by_cases h1 : 1 < bin.length
    · rw [typePos_of_details hbin hfirst h1] at hshort ⊢
      omega
    · unfold typePos
      split
      · omega
      · omega
  have hother := hfirst.other_type fun o ho => (ofBytes_overwrite_ne beyond ho 1).symm
  have hagree := h _ (fun _ => 0) _ ((accepted_iff hne hbin).2 ⟨temp, start, n, rest, hother, rfl⟩)
  unfold cmdTypeOf at hagree
  rw [checkStkProCmdType_zero hends.2, detailsAt, ofBytes_overwrite beyond hends.1] at hagree
  cases hagree

/-- **The quick test agrees with the parser** on the commands whose text comes as far as the type. -/
theorem agrees_iff (response : List Byte) (h : ∃ beyond cmdDet, Accepted beyond response cmdDet) :
    Agrees response ↔ HoldsType response := by
  obtain ⟨beyond, cmdDet, haccepted⟩ := h
  constructor
  · exact holdsType_of_agrees haccepted
  · exact agrees_of_holdsType

/-- SEND DATA on channel 1, without data. -/
def sendDataTlvs : List ShortTlv :=
  [⟨COMMAND_DETAILS, 1, [0x01, 0x43, 0x01], commandDetails_range, one_le_one, by decide⟩,
    ⟨DEVICE_IDENTITIES, 1, [0x81, 0x21], deviceIdentities_range, one_le_one, by decide⟩]

def sendDataText : List Byte := hexText (fun _ => true) (encodeProCommand sendDataTlvs)

theorem agrees_iff_sendData : Agrees sendDataText := by
  have hok := parseProCommand_encodeProCommand (fun _ => 0) (fun _ => true) sendDataTlvs (by decide) (by decide)
  have hholds : HoldsType sendDataText := by
    unfold HoldsType
    decide
  exact (agrees_iff sendDataText ⟨_, _, _, _, _, hok, rfl, rfl, rfl, by decide, rfl⟩).2 hholds

/-- The same command, cut off behind its number. -/
def cutText : List Byte := hexText (fun _ => true) [0xD0, 0x09, 0x81, 0x03, 0x01]

theorem agrees_fails_cutText : ¬Agrees cutText := by
  have hmem : Mem.ofBytes [0xD0, 0x09, 0x81, 0x03, 0x01] (fun i => (encodeProCommand sendDataTlvs).getD i 0) =
      Mem.ofBytes (encodeProCommand sendDataTlvs) fun _ => 0 := by
    funext i
    match i with
    | 0 => rfl
    | 1 => rfl
    | 2 => rfl
    | 3 => rfl
    | 4 => rfl
    | i + 5 => rfl
  have hok : parseProCommand (fun i => (encodeProCommand sendDataTlvs).getD i 0) cutText =
      .OK { tag := PROACTIVE_COMMAND_TAG, compTlvs := sendDataTlvs.map ShortTlv.tlv, lengthValid := true } := by
    rw [parseProCommand, if_neg (by decide), cutText, convertHexToBin_hexText]
    simp only [if_true, hmem]
    exact parseBytes_encodeProCommand (by decide) (by decide) (Mem.ofBytes_holds _ _)
  intro h
  have hholds := holdsType_of_agrees ⟨_, _, _, hok, rfl, rfl, rfl, by decide, rfl⟩ h
  unfold HoldsType at hholds
  exact absurd hholds (by decide)

end UniRil.Stk
