import UniRil.Decimal
import UniRil.Hex

/-!
# A message sent once more (`requestSendIMSSMS` of ril_sms.c)

The PDU is hex text, two characters for an octet. For a retry the first two characters are patched as
if they were the first two octets.
-/

namespace UniRil.Sms

open AtTok (Line)

/-! ## The code -/

inductive RIL_RadioTechnologyFamily
  | RADIO_TECH_3GPP
  | RADIO_TECH_3GPP2
  deriving DecidableEq

structure RIL_IMS_SMS_Message where
  tech : RIL_RadioTechnologyFamily
  retry : Byte
  messageRef : Int
  /-- `gsmMessage[0]` -/
  smsc : Option Line
  /-- `gsmMessage[1]` -/
  pdu : Line

/-- The stores into the cells of the PDU. -/
def markRetry (messageRef : Int) : List Byte → List Byte
  | c :: c' :: cells =>
    if 0x01 &&& c = 0x01 then (c ||| 0x04) :: UInt8.ofInt messageRef :: cells else c :: c' :: cells
  | cells => cells

/-- The PDU when it is sent. -/
def RIL_IMS_SMS_Message.pduSent (sms : RIL_IMS_SMS_Message) : Line :=
  cstr (if 0 < sms.retry then markRetry sms.messageRef (sms.pdu ++ [NUL]) else sms.pdu ++ [NUL])

/-- What goes to `at_send_command_sms`: the command, and the text that is asked for after it. `none`
where the request fails without a command. -/
def requestSendIMSSMS (sms : RIL_IMS_SMS_Message) : Option (Line × Line) :=
  match sms.tech with
  | .RADIO_TECH_3GPP =>
    some (ascii "AT+CMGS=" ++ decimal (sms.pduSent.length / 2 : Nat), sms.smsc.getD (ascii "00") ++ sms.pduSent)
  | .RADIO_TECH_3GPP2 => none

/-! ## Characters of the first octet -/

theorem nul_notMem_hexText (upper : Nat → Bool) (bin : List Byte) : NUL ∉ hexText upper bin := by
  intro h
  have hdigit := (convertHexToBin_eq_true_iff (by rw [length_hexText]; omega)).1
    (by rw [convertHexToBin_hexText]) NUL h
  simp [hexChars, ascii, NUL] at hdigit

set_option maxRecDepth 10000 in
/-- A digit with an odd code is the same digit with bit 2 set, or it becomes another one or none. -/
theorem hexValue_marked (upper : Bool) {n : Nat} (h : n < 16) (hodd : 0x01 &&& digitIn upper (UInt8.ofNat n) = 0x01) :
    hexValue (digitIn upper (UInt8.ofNat n) ||| 0x04) = some (UInt8.ofNat n) ↔
      digitIn upper (UInt8.ofNat n) ||| 0x04 = digitIn upper (UInt8.ofNat n) := by
  have hall : ∀ upper, ∀ n < 16, 0x01 &&& digitIn upper (UInt8.ofNat n) = 0x01 →
      (hexValue (digitIn upper (UInt8.ofNat n) ||| 0x04) = some (UInt8.ofNat n) ↔
        digitIn upper (UInt8.ofNat n) ||| 0x04 = digitIn upper (UInt8.ofNat n)) := by decide
  exact hall upper n h hodd

set_option maxRecDepth 10000 in
/-- Bit 2 is in the lower half of an octet. -/
theorem or_four_halves (o : Byte) : (o ||| 0x04) >>> 4 = o >>> 4 ∧ (o ||| 0x04) &&& 0x0f = o &&& 0x0f ||| 0x04 := by
  have hall : ∀ n < 256, (UInt8.ofNat n ||| 0x04) >>> 4 = UInt8.ofNat n >>> 4 ∧
      (UInt8.ofNat n ||| 0x04) &&& 0x0f = UInt8.ofNat n &&& 0x0f ||| 0x04 := by decide
  have ho := hall o.toNat o.toNat_lt
  rwa [UInt8.ofNat_toNat] at ho

/-- Two digits are the octet whose halves they are. -/
theorem digits_eq_iff {high low : Byte} (hhigh : high.toNat < 16) (hlow : low.toNat < 16) (o : Byte) :
    high <<< 4 ||| low = o ↔ high = o >>> 4 ∧ low = o &&& 0x0f := by
  constructor
  · rintro rfl
    obtain ⟨hup, hlo⟩ := halves_digits hhigh hlow
    exact ⟨hup.symm, hlo.symm⟩
  · rintro ⟨rfl, rfl⟩
    obtain ⟨n, -, m, -, hn, hm, hboth⟩ := halves o
    rw [hn, hm, hboth]

/-! ## The text that is sent -/

/-- The text is the original with TP-RD set and the reference for TP-MR. -/
def Retried (o messageRef : Byte) (rest : List Byte) (pduSent : Line) : Prop :=
  convertHexToBin pduSent = (true, (o ||| 0x04) :: messageRef :: rest)

/-- Nothing is to be changed, or what is stored happens to be the digits of the first octet. -/
def RetryFits (upper : Bool) (o o' messageRef : Byte) : Prop :=
  o' = messageRef ∧
    ((0x01 : Byte) &&& digitIn upper (o >>> 4) ≠ 0x01 ∧ o ||| 0x04 = o ∨
      (0x01 : Byte) &&& digitIn upper (o >>> 4) = 0x01 ∧
        digitIn upper (o >>> 4) ||| (0x04 : Byte) = digitIn upper (o >>> 4) ∧
        hexValue messageRef = some (o &&& 0x0f ||| 0x04))

theorem convertHexToBin_two (ch ch' : Byte) (upper : Nat → Bool) (bin : List Byte) (o : Byte) (rest : List Byte) :
    convertHexToBin (ch :: ch' :: hexText upper bin) = (true, o :: rest) ↔
      hexValue ch = some (o >>> 4) ∧ hexValue ch' = some (o &&& 0x0f) ∧ bin = rest := by
  cases hhigh : hexValue ch with
  | none => simp [convertHexToBin, hhigh]
  | some high =>
    cases hlow : hexValue ch' with
    | none => simp [convertHexToBin, hhigh, hlow]
    | some low =>
      have heq := digits_eq_iff (toNat_hexValue_lt hhigh) (toNat_hexValue_lt hlow) o
      simp [convertHexToBin, hhigh, hlow, convertHexToBin_hexText, heq, and_assoc]

/-- The text ends at its second character when that becomes NUL. -/
theorem cstr_patched {ch : Byte} (hch : ch ≠ NUL) (ch' : Byte) {text : Line} (htext : NUL ∉ text) :
    cstr (ch :: ch' :: (text ++ [NUL])) = if ch' = NUL then [ch] else ch :: ch' :: text := by
  split
  · rename_i hzero
    simp [cstr, hzero, hch]
  · rename_i hne
    have hmem : NUL ∉ ch :: ch' :: text := by
      simp only [List.mem_cons, not_or]
      exact ⟨Ne.symm hch, Ne.symm hne, htext⟩
    exact cstr_append_nul hmem []

set_option maxRecDepth 10000 in
theorem or_four_ne_nul (ch : Byte) : ch ||| 0x04 ≠ NUL := by
  have hall : ∀ n < 256, UInt8.ofNat n ||| 0x04 ≠ NUL := by decide
  have hch := hall ch.toNat ch.toNat_lt
  rwa [UInt8.ofNat_toNat] at hch

section

variable (upper : Nat → Bool) (o o' : Byte) (rest : List Byte) (messageRef : Byte)

/-- The first character has an even code: the PDU goes out as it is. -/
theorem retried_unpatched_iff :
    Retried o messageRef rest (hexText upper (o :: o' :: rest)) ↔ o ||| 0x04 = o ∧ o' = messageRef := by
  rw [Retried, convertHexToBin_hexText]
  simp only [Prod.mk.injEq, true_and, List.cons.injEq, and_true]
  exact and_congr_left' eq_comm

/-- The first character has an odd code: the reference is stored for the second. -/
theorem retried_patched_iff (hodd : (0x01 : Byte) &&& digitIn (upper 0) (o >>> 4) = 0x01) :
    Retried o messageRef rest
        (cstr ((digitIn (upper 0) (o >>> 4) ||| 0x04) :: messageRef ::
          (hexText (fun i => upper (i + 2)) (o' :: rest) ++ [NUL]))) ↔
      o' = messageRef ∧ digitIn (upper 0) (o >>> 4) ||| (0x04 : Byte) = digitIn (upper 0) (o >>> 4) ∧
        hexValue messageRef = some (o &&& 0x0f ||| 0x04) := by
  obtain ⟨hup, hlo⟩ := or_four_halves o
  rw [cstr_patched (or_four_ne_nul _) _ (nul_notMem_hexText _ _), Retried]
  split
  · rename_i hnul
    have hnone : hexValue messageRef = none := by rw [hnul]; rfl
    rw [hnone]
    constructor
    · intro h
      have hlen := length_of_convertHexToBin h
      simp at hlen
      omega
    · rintro ⟨-, -, hsome⟩
      cases hsome
  · obtain ⟨n, hn, m, -, hnhalf, -⟩ := halves o
    have hmarked := hexValue_marked (upper 0) hn (by rwa [← hnhalf])
    rw [convertHexToBin_two, hup, hlo, hnhalf, hmarked]
    simp only [List.cons.injEq, and_true]
    tauto

end

theorem ofInt_toNat (messageRef : Byte) : UInt8.ofInt messageRef.toNat = messageRef := by
  have hlt := messageRef.toNat_lt
  rw [← UInt8.toNat_inj, UInt8.ofInt, UInt8.toNat_ofNat']
  omega

/-- What is sent for a retry, by the code of the first character. -/
theorem pduSent_retry (upper : Nat → Bool) (o o' : Byte) (rest : List Byte) (smsc : Option Line)
    {retry : Byte} (messageRef : Byte) (hretry : 0 < retry) :
    RIL_IMS_SMS_Message.pduSent
        { tech := .RADIO_TECH_3GPP, retry := retry, messageRef := messageRef.toNat, smsc := smsc
          pdu := hexText upper (o :: o' :: rest) } =
      if (0x01 : Byte) &&& digitIn (upper 0) (o >>> 4) = 0x01 then
        cstr ((digitIn (upper 0) (o >>> 4) ||| 0x04) :: messageRef ::
          (hexText (fun i => upper (i + 2)) (o' :: rest) ++ [NUL]))
      else hexText upper (o :: o' :: rest) := by
  have hplain := cstr_append_nul (nul_notMem_hexText upper (o :: o' :: rest)) []
  rw [RIL_IMS_SMS_Message.pduSent, if_pos hretry]
  simp only [hexText, List.cons_append, markRetry, ofInt_toNat] at hplain ⊢
  split
  · rfl
  · exact hplain

/-- **A retry is right exactly where the patch fits**: the reference is there already, and either the
first character is left alone and TP-RD is set, or the two characters that are stored are the digits of the
first octet. -/
theorem requestSendIMSSMS_retry_iff (upper : Nat → Bool) (o o' : Byte) (rest : List Byte) (smsc : Option Line)
    (retry messageRef : Byte) (hretry : 0 < retry) :
    (∃ cmd pduSent,
        requestSendIMSSMS { tech := .RADIO_TECH_3GPP, retry := retry, messageRef := messageRef.toNat, smsc := smsc
                            pdu := hexText upper (o :: o' :: rest) } =
          some (cmd, smsc.getD (ascii "00") ++ pduSent) ∧
        Retried o messageRef rest pduSent) ↔
      RetryFits (upper 0) o o' messageRef := by
  have hsent := pduSent_retry upper o o' rest smsc messageRef hretry
  have honly : (∃ cmd pduSent,
        requestSendIMSSMS { tech := .RADIO_TECH_3GPP, retry := retry, messageRef := messageRef.toNat, smsc := smsc
                            pdu := hexText upper (o :: o' :: rest) } =
          some (cmd, smsc.getD (ascii "00") ++ pduSent) ∧
        Retried o messageRef rest pduSent) ↔
      Retried o messageRef rest
        (RIL_IMS_SMS_Message.pduSent
          { tech := .RADIO_TECH_3GPP, retry := retry, messageRef := messageRef.toNat, smsc := smsc
            pdu := hexText upper (o :: o' :: rest) }) := by
    constructor
    · rintro ⟨cmd, pduSent, heq, hretried⟩
      have htext := (Prod.mk.inj (Option.some.inj heq)).2
      rwa [List.append_cancel_left htext]
    · intro hretried
      exact ⟨_, _, rfl, hretried⟩
  rw [honly, hsent, RetryFits]
  split
  · rename_i hodd
    rw [retried_patched_iff upper o o' rest messageRef hodd]
    simp [hodd]
  · rename_i heven
    rw [retried_unpatched_iff]
    simp only [heven, ne_eq, not_false_eq_true, true_and, false_and, or_false]
    exact and_comm

theorem requestSendIMSSMS_retry_iff_already :
    ∃ cmd pduSent,
      requestSendIMSSMS
          { tech := .RADIO_TECH_3GPP, retry := 1, messageRef := (7 : Byte).toNat, smsc := none
            pdu := hexText (fun _ => true) (0x25 :: 7 :: [0x0b, 0x91]) } =
        some (cmd, (none : Option Line).getD (ascii "00") ++ pduSent) ∧
      Retried 0x25 7 [0x0b, 0x91] pduSent :=
  (requestSendIMSSMS_retry_iff (fun _ => true) 0x25 7 [0x0b, 0x91] none 1 7 (by decide)).2
    ⟨rfl, .inl ⟨by decide, by decide⟩⟩

/-- The PDU `11000B91` with the reference 0 is cut to its first character. -/
theorem requestSendIMSSMS_retry_counterexample :
    ¬∃ cmd pduSent,
      requestSendIMSSMS
          { tech := .RADIO_TECH_3GPP, retry := 1, messageRef := (0 : Byte).toNat, smsc := none
            pdu := hexText (fun _ => true) (0x11 :: 0 :: [0x0b, 0x91]) } =
        some (cmd, (none : Option Line).getD (ascii "00") ++ pduSent) ∧
      Retried 0x11 0 [0x0b, 0x91] pduSent := by
  rintro ⟨cmd, pduSent, heq, hretried⟩
  have htext := (Prod.mk.inj (Option.some.inj heq)).2
  obtain rfl : ascii "5" = pduSent := List.append_cancel_left htext
  exact absurd hretried (by unfold Retried; decide)

end UniRil.Sms
