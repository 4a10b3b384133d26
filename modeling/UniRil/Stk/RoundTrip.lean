import UniRil.Stk.Parser

/-!
# Proactive commands are read back

The three accounts of the length agree: how far `decode` reads, how far `parseProCommand` moves on,
and what it adds up at the end.
-/

namespace UniRil.Stk

/-! ## The encoding -/

/-- A COMPREHENSION-TLV whose tag takes one byte and whose length takes at most two. -/
structure ShortTlv where
  tag : Nat
  cr : Nat
  value : List Byte
  tag_range : 1 ≤ tag ∧ tag < 0x7f
  cr_bit : cr ≤ 1
  value_length : value.length ≤ 255

theorem one_le_one : 1 ≤ 1 := le_refl 1

theorem commandDetails_range : 1 ≤ COMMAND_DETAILS ∧ COMMAND_DETAILS < 0x7f := by decide

theorem deviceIdentities_range : 1 ≤ DEVICE_IDENTITIES ∧ DEVICE_IDENTITIES < 0x7f := by decide

def ShortTlv.tlv (t : ShortTlv) : TLV := { tag := t.tag, cr := t.cr, length := t.value.length, value := t.value }

def ShortTlv.firstByte (t : ShortTlv) : Byte := UInt8.ofNat (128 * t.cr + t.tag)

/-- The BER length, for lengths up to 255. -/
def berLength (n : Nat) : List Byte := if n < 0x80 then [UInt8.ofNat n] else [0x81, UInt8.ofNat n]

def ShortTlv.encode (t : ShortTlv) : List Byte := t.firstByte :: (berLength t.value.length ++ t.value)

def encodeTlvs (tlvs : List ShortTlv) : List Byte := tlvs.flatMap ShortTlv.encode

def encodeProCommand (tlvs : List ShortTlv) : List Byte :=
  0xD0 :: (berLength (encodeTlvs tlvs).length ++ encodeTlvs tlvs)

/-- The first bytes are all but four. -/
theorem exists_firstByte (b : Byte) :
    (∃ tag cr, (1 ≤ tag ∧ tag < 0x7f) ∧ cr ≤ 1 ∧ b = UInt8.ofNat (128 * cr + tag)) ↔
      b ≠ 0x00 ∧ b ≠ 0x7f ∧ b ≠ 0x80 ∧ b ≠ 0xff := by
  have hb := b.toNat_lt
  constructor
  · rintro ⟨tag, cr, htag, hcr, rfl⟩
    simp only [ne_eq, ← UInt8.toNat_inj, UInt8.toNat_ofNat', UInt8.toNat_ofNat]
    omega
  · rintro ⟨h0, h1, h2, h3⟩
    simp only [ne_eq, ← UInt8.toNat_inj, UInt8.toNat_ofNat] at h0 h1 h2 h3
    refine ⟨b.toNat % 128, b.toNat / 128, by omega, by omega, ?_⟩
    rw [show 128 * (b.toNat / 128) + b.toNat % 128 = b.toNat by omega, UInt8.ofNat_toNat]

/-! ## What memory holds -/

def Mem.Holds (mem : Mem) (p : Nat) (bytes : List Byte) : Prop := ∀ i (h : i < bytes.length), mem (p + i) = bytes[i]

variable {mem : Mem} {p : Nat}

theorem Mem.Holds.left {a b : List Byte} (h : mem.Holds p (a ++ b)) : mem.Holds p a := by
  intro i hi
  rw [h i (by simp; omega), List.getElem_append_left hi]

theorem Mem.Holds.right {a b : List Byte} (h : mem.Holds p (a ++ b)) : mem.Holds (p + a.length) b := by
  intro i hi
  rw [Nat.add_assoc, h (a.length + i) (by simp; omega), List.getElem_append_right (by omega)]
  simp

theorem Mem.Holds.head {b : Byte} {bytes : List Byte} (h : mem.Holds p (b :: bytes)) : mem p = b := h 0 (by simp)

theorem Mem.Holds.tail {b : Byte} {bytes : List Byte} (h : mem.Holds p (b :: bytes)) : mem.Holds (p + 1) bytes :=
  Mem.Holds.right (a := [b]) h

theorem Mem.Holds.values {bytes : List Byte} (h : mem.Holds p bytes) :
    ((List.range bytes.length).map fun i => mem (p + i)) = bytes := by
  refine List.ext_getElem (by simp) fun i hi hi' => ?_
  rw [List.getElem_map, List.getElem_range, h i hi']

theorem Mem.ofBytes_holds (bytes : List Byte) (beyond : Mem) : (Mem.ofBytes bytes beyond).Holds 0 bytes := by
  intro i hi
  rw [Mem.ofBytes, Nat.zero_add, List.getD_eq_getElem?_getD, List.getElem?_eq_getElem hi, Option.getD_some]

/-! ## One TLV -/

set_option maxRecDepth 10000 in
theorem decodeTag_single {n : Nat} (hn : n < 256) (h : (mem p).toNat = n) (h0 : n ≠ 0) (h1 : n ≠ 0x7f) (h2 : n ≠ 0x80)
    (h3 : n ≠ 0xff) : decodeTag mem p = some (n % 128, n / 128, p + 1) := by
  have hbits : ∀ n < 256, n &&& 0x7f = n % 128 ∧ (if n &&& 0x80 = 0 then 0 else 1) = n / 128 := by decide
  unfold decodeTag
  split
  · omega
  · omega
  · omega
  · omega
  · rw [h, (hbits n hn).1, (hbits n hn).2]

theorem ShortTlv.decodeTag (t : ShortTlv) (h : mem p = t.firstByte) :
    Stk.decodeTag mem p = some (t.tag, t.cr, p + 1) := by
  obtain ⟨htag, hcr⟩ := And.intro t.tag_range t.cr_bit
  have hn : (mem p).toNat = 128 * t.cr + t.tag := by
    rw [h, ShortTlv.firstByte, UInt8.toNat_ofNat', Nat.mod_eq_of_lt (by omega)]
  rw [decodeTag_single (by omega) hn (by omega) (by omega) (by omega) (by omega)]
  congr 2
  · omega
  · congr 1
    omega

theorem decodeLength_berLength {n : Nat} (hn : n ≤ 255) (h : mem.Holds p (berLength n)) :
    decodeLength mem p = some (n, p + (berLength n).length) := by
  have hmod : n % 2 ^ 8 = n := Nat.mod_eq_of_lt (by omega)
  unfold berLength at h ⊢
  split at h
  · rename_i hshort
    have hhead : (mem p).toNat = n := by rw [h.head, UInt8.toNat_ofNat', hmod]
    simp only [decodeLength, hhead, if_pos hshort]
    rfl
  · rename_i hlong
    have hhead : (mem p).toNat = 0x81 := by rw [h.head]; rfl
    have hnext : (mem (p + 1)).toNat = n := by rw [h.tail.head, UInt8.toNat_ofNat', hmod]
    simp only [decodeLength, hhead, hnext, if_neg hlong]
    rfl

/-- **A TLV is decoded** from the bytes that encode it. -/
theorem ShortTlv.decode (t : ShortTlv) (h : mem.Holds p t.encode) : Stk.decode mem p = some t.tlv := by
  have hlength := decodeLength_berLength t.value_length h.tail.left
  have hvalue := h.tail.right.values
  simp only [Stk.decode, t.decodeTag h.head, Option.bind_eq_bind, Option.bind_some, hlength, hvalue]
  rfl

theorem length_berLength (n : Nat) : (berLength n).length = if n < 0x80 then 1 else 2 := by
  unfold berLength
  split <;> rfl

/-- `parseProCommand` moves on by what `decode` has read. -/
theorem ShortTlv.length_encode (t : ShortTlv) : t.encode.length = advance t.tlv.length := by
  have hlength := t.value_length
  have htlv : t.tlv.length = t.value.length := rfl
  rw [ShortTlv.encode, List.length_cons, List.length_append, length_berLength, advance, htlv]
  by_cases hshort : t.value.length < 0x80
  · rw [if_pos hshort, if_neg (by omega), if_pos hshort]
    omega
  · rw [if_neg hshort, if_pos (by omega)]
    omega

/-! ## The list -/

theorem parseTlvs_encodeTlvs (tlvs : List ShortTlv) (count : Nat) (h : mem.Holds p (encodeTlvs tlvs)) :
    parseTlvs mem (count + (encodeTlvs tlvs).length) count p = some (tlvs.map ShortTlv.tlv) := by
  induction tlvs generalizing count p with
  | nil =>
    rw [parseTlvs, if_neg (by simp [encodeTlvs])]
    rfl
  | cons t tlvs ih =>
    rw [encodeTlvs, List.flatMap_cons] at h ⊢
    have hpos := advance_pos t.tlv.length
    rw [List.length_append, t.length_encode, parseTlvs, if_pos (by omega), t.decode h.left]
    have hrest := h.right
    rw [t.length_encode] at hrest
    simp only [← Nat.add_assoc]
    rw [← encodeTlvs, ih (count + advance t.tlv.length) hrest]
    rfl

theorem totalLength_encodeTlvs (tlvs : List ShortTlv) (total : Nat) :
    totalLength (tlvs.map ShortTlv.tlv) total = (true, total + (encodeTlvs tlvs).length) := by
  induction tlvs generalizing total with
  | nil => rfl
  | cons t tlvs ih =>
    have hlength : t.tlv.length ≤ 255 := t.value_length
    rw [encodeTlvs, List.flatMap_cons, List.length_append, t.length_encode, ← encodeTlvs, List.map_cons, totalLength,
      advance]
    split
    · rw [ih, Nat.add_assoc]
    · rw [if_pos (by omega), if_pos (by omega), ih, Nat.add_assoc]

theorem parseBody_encodeTlvs {tlvs : List ShortTlv} (hmin : 9 ≤ (encodeTlvs tlvs).length)
    (h : mem.Holds p (encodeTlvs tlvs)) :
    parseBody mem (encodeTlvs tlvs).length (encodeTlvs tlvs).length p =
      .OK { tag := PROACTIVE_COMMAND_TAG, compTlvs := tlvs.map ShortTlv.tlv, lengthValid := true } := by
  have hlist := parseTlvs_encodeTlvs tlvs 0 h
  rw [Nat.zero_add] at hlist
  simp [parseBody, Nat.not_lt.2 hmin, hlist, totalLength_encodeTlvs]

theorem parseBytes_encodeProCommand {tlvs : List ShortTlv} (hmin : 9 ≤ (encodeTlvs tlvs).length)
    (hmax : (encodeTlvs tlvs).length ≤ 255) (h : mem.Holds 0 (encodeProCommand tlvs)) :
    parseBytes mem = .OK { tag := PROACTIVE_COMMAND_TAG, compTlvs := tlvs.map ShortTlv.tlv, lengthValid := true } := by
  have htag : (mem 0).toNat = PROACTIVE_COMMAND_TAG := by rw [h.head]; rfl
  have hlength := h.tail.left
  have hbody := h.tail.right
  have hmod : (encodeTlvs tlvs).length % 2 ^ 8 = (encodeTlvs tlvs).length := Nat.mod_eq_of_lt (by omega)
  rw [parseBytes, if_neg (not_not.2 htag)]
  unfold berLength at hlength hbody
  split at hlength
  · rename_i hshort
    have htemp : (mem 1).toNat = (encodeTlvs tlvs).length := by
      rw [show mem 1 = _ from hlength.head, UInt8.toNat_ofNat', hmod]
    rw [if_pos hshort] at hbody
    simp only [htemp, if_pos hshort]
    exact parseBody_encodeTlvs hmin hbody
  · rename_i hlong
    have hform : (mem 1).toNat = 0x81 := by rw [show mem 1 = _ from hlength.head]; rfl
    have htemp : (mem 2).toNat = (encodeTlvs tlvs).length := by
      rw [show mem 2 = _ from hlength.tail.head, UInt8.toNat_ofNat', hmod]
    rw [if_neg hlong] at hbody
    rw [hform, if_neg (by decide), if_pos rfl]
    simp only [htemp, if_neg hlong]
    exact parseBody_encodeTlvs hmin hbody

/-- **Proactive commands round-trip**, in digits of either case and whatever lies behind the command. -/
theorem parseProCommand_encodeProCommand (beyond : Mem) (upper : Nat → Bool) (tlvs : List ShortTlv)
    (hmin : 9 ≤ (encodeTlvs tlvs).length) (hmax : (encodeTlvs tlvs).length ≤ 255) :
    parseProCommand beyond (hexText upper (encodeProCommand tlvs)) =
      .OK { tag := PROACTIVE_COMMAND_TAG, compTlvs := tlvs.map ShortTlv.tlv, lengthValid := true } := by
  have hne : hexText upper (encodeProCommand tlvs) ≠ [] := by
    rw [← List.length_pos_iff, length_hexText, encodeProCommand, List.length_cons]
    omega
  rw [parseProCommand, if_neg hne, convertHexToBin_hexText]
  exact parseBytes_encodeProCommand hmin hmax (Mem.ofBytes_holds _ beyond)

/-- SEND DATA on channel 1: command details, device identities, no data. -/
theorem parseProCommand_sendData :
    parseProCommand (fun _ => 0) (hexText (fun _ => false) (encodeProCommand
        [⟨0x01, 1, [0x01, 0x43, 0x01], by decide, by decide, by decide⟩,
          ⟨0x02, 1, [0x81, 0x21], by decide, by decide, by decide⟩])) =
      .OK { tag := PROACTIVE_COMMAND_TAG
            compTlvs := [⟨0x01, 1, 3, [0x01, 0x43, 0x01]⟩, ⟨0x02, 1, 2, [0x81, 0x21]⟩]
            lengthValid := true } :=
  parseProCommand_encodeProCommand _ _ _ (by decide) (by decide)

end UniRil.Stk
