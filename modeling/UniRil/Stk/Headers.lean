import UniRil.Stk.RoundTrip

/-!
# The header of a COMPREHENSION-TLV (ETSI TS 101 220)

A tag takes one byte or three, a length one byte to four. What `decode` makes of each form.
-/

namespace UniRil.Stk

/-! ## The encoding -/

inductive TagForm
  | oneByte
  | threeByte
  deriving DecidableEq

/-- The tags of a form. The first bytes 0x00, 0x80 and 0xff are not used, and 0x7f announces the longer form. -/
def TagForm.Allows : TagForm → Nat → Prop
  | .oneByte, tag => 1 ≤ tag ∧ tag < 0x7f
  | .threeByte, tag => tag < 0x8000

/-- A COMPREHENSION-TLV with a valid header of any form. -/
structure ValidTlv where
  form : TagForm
  tag : Nat
  cr : Nat
  value : List Byte
  tag_range : form.Allows tag
  cr_bit : cr ≤ 1
  value_length : value.length < 0x1000000

def ValidTlv.tlv (t : ValidTlv) : TLV :=
  { tag := t.tag, cr := t.cr, length := t.value.length, value := t.value }

/-- The comprehension flag is the first bit of the tag. -/
def tagField (tag cr : Nat) : TagForm → List Byte
  | .oneByte => [UInt8.ofNat (128 * cr + tag)]
  | .threeByte => [0x7f, UInt8.ofNat (128 * cr + tag / 256), UInt8.ofNat tag]

def lengthField (n : Nat) : List Byte :=
  if n < 0x80 then [UInt8.ofNat n]
  else if n < 0x100 then [0x81, UInt8.ofNat n]
  else if n < 0x10000 then [0x82, UInt8.ofNat (n / 256), UInt8.ofNat n]
  else [0x83, UInt8.ofNat (n / 65536), UInt8.ofNat (n / 256), UInt8.ofNat n]

def ValidTlv.encode (t : ValidTlv) : List Byte :=
  tagField t.tag t.cr t.form ++ lengthField t.value.length ++ t.value

/-- `decode` gets the TLV back, wherever its bytes are and whatever follows them. -/
def ValidTlv.Decoded (t : ValidTlv) : Prop :=
  ∀ mem p, Mem.Holds mem p t.encode → decode mem p = some t.tlv

variable {mem : Mem} {p q v : Nat} {t : ValidTlv} {tlv : TLV}

/-! ## The short forms -/

theorem lengthField_short {n : Nat} (h : n < 0x100) : lengthField n = berLength n := by
  unfold lengthField berLength
  rw [if_pos h]

/-- One byte for the tag, and at most two for the length. -/
theorem decoded_short (hform : t.form = .oneByte) (hlength : t.value.length < 0x100) : t.Decoded := by
  intro mem p hholds
  have htag := t.tag_range
  rw [hform] at htag
  let s : ShortTlv :=
    { tag := t.tag, cr := t.cr, value := t.value, tag_range := htag, cr_bit := t.cr_bit, value_length := by omega }
  have hencode : t.encode = s.encode := by
    rw [ValidTlv.encode, hform, lengthField_short hlength]
    rfl
  rw [hencode] at hholds
  exact s.decode hholds

/-! ## What is read -/

theorem length_lengthField (n : Nat) :
    (lengthField n).length = if n < 0x80 then 1 else if n < 0x100 then 2 else if n < 0x10000 then 3 else 4 := by
  unfold lengthField
  split
  · rfl
  · split
    · rfl
    · split
      · rfl
      · rfl

theorem length_lengthField_le (n : Nat) : (lengthField n).length ≤ 4 := by
  rw [length_lengthField]
  split
  · decide
  · split
    · decide
    · split
      · decide
      · decide

/-- A length is read from as many bytes as it takes, and from more in its long forms. -/
theorem decodeLength_reads {n : Nat} (h : decodeLength mem q = some (n, v)) :
    q + (lengthField n).length ≤ v ∧ (0x100 ≤ n → q + (lengthField n).length < v) := by
  have hnext := (mem (q + 1)).toNat_lt
  have hfield := length_lengthField n
  unfold decodeLength at h
  dsimp only at h
  split at h
  · cases h
    rw [if_pos (by assumption)] at hfield
    omega
  · split at h
    · split at h
      · cases h
      · cases h
        rw [if_neg (by assumption), if_pos hnext] at hfield
        omega
    · split at h
      · split at h
        · cases h
        · rename_i hlong
          cases h
          have hsmall : (mem (q + 1)).toNat <<< 8 ||| (mem (q + 1)).toNat < 2 ^ 16 :=
            Nat.or_lt_two_pow (by rw [Nat.shiftLeft_eq]; omega) (by omega)
          rw [if_neg (by omega), if_neg hlong, if_pos (by omega)] at hfield
          omega
      · split at h
        · split at h
          · cases h
          · cases h
            have hmost := length_lengthField_le ((mem (q + 1)).toNat <<< 16 ||| (mem (q + 1)).toNat <<< 8 |||
              (mem (q + 4)).toNat)
            omega
        · cases h

/-- A tag is read from one byte, or from four. -/
theorem decodeTag_reads {tag cr : Nat} (h : decodeTag mem p = some (tag, cr, q)) :
    p + 1 ≤ q ∧ (mem p = 0x7f → q = p + 4) := by
  unfold decodeTag at h
  split at h
  · rename_i hzero
    cases h
    refine ⟨Nat.le_refl _, fun hlong => ?_⟩
    rw [hlong] at hzero
    cases hzero
  · cases h
  · cases h
  · cases h
    exact ⟨by omega, fun _ => rfl⟩
  · rename_i hother
    cases h
    exact ⟨Nat.le_refl _, fun hlong => (hother (by rw [hlong]; rfl)).elim⟩

theorem decode_some (h : decode mem p = some tlv) :
    ∃ tag cr q v, decodeTag mem p = some (tag, cr, q) ∧ decodeLength mem q = some (tlv.length, v) ∧
      tlv.value = (List.range tlv.length).map fun i => mem (v + i) := by
  simp only [decode, Option.bind_eq_bind, Option.bind_eq_some_iff, Option.pure_def, Option.some.injEq] at h
  obtain ⟨⟨tag, cr, q⟩, htag, ⟨length, v⟩, hlength, rfl⟩ := h
  exact ⟨tag, cr, q, v, htag, hlength, rfl⟩

/-! ## The long forms -/

def ValidTlv.header (t : ValidTlv) : List Byte := tagField t.tag t.cr t.form ++ lengthField t.value.length

theorem length_encode (t : ValidTlv) : t.encode.length = t.header.length + t.value.length := List.length_append

theorem ofBytes_behind {bytes : List Byte} {b : Byte} {i : Nat} (h : bytes.length ≤ i) :
    Mem.ofBytes bytes (fun _ => b) i = b := by
  rw [Mem.ofBytes, List.getD_eq_getElem?_getD, List.getElem?_eq_none h, Option.getD_none]

/-- A value that is read too far behind ends in what follows the TLV. -/
theorem ends_behind {b last : Byte} {value : List Byte} (hvalue : t.value = value ++ [last])
    (h : decode (Mem.ofBytes t.encode fun _ => b) 0 = some t.tlv) (hlong : ∀ tag cr q v,
      decodeTag (Mem.ofBytes t.encode fun _ => b) 0 = some (tag, cr, q) →
      decodeLength (Mem.ofBytes t.encode fun _ => b) q = some (t.value.length, v) → t.header.length < v) :
    last = b := by
  obtain ⟨tag, cr, q, v, htag, hlength, heq⟩ := decode_some h
  have hv := hlong tag cr q v htag hlength
  have hn : t.value.length = value.length + 1 := by rw [hvalue, List.length_append, List.length_singleton]
  have hlast := congrArg (fun l => l[value.length]?) heq
  have htlv : t.tlv.value = value ++ [last] := hvalue
  have hread : t.tlv.length = value.length + 1 := hn
  simp only [htlv, hread, List.getElem?_concat_length, List.getElem?_map] at hlast
  rw [List.getElem?_range (Nat.lt_succ_self _)] at hlast
  refine (Option.some.inj hlast).trans (ofBytes_behind ?_)
  rw [length_encode, hn]
  omega

theorem ofBytes_threeByte {beyond : Mem} (hform : t.form = .threeByte) : Mem.ofBytes t.encode beyond 0 = 0x7f := by
  rw [ValidTlv.encode, hform]
  rfl

/-- The three-byte form of a tag and the longer forms of a length are read too far. -/
theorem header_lt {beyond : Mem} {tag cr : Nat} (h : t.form = .threeByte ∨ 0x100 ≤ t.value.length)
    (htag : decodeTag (Mem.ofBytes t.encode beyond) 0 = some (tag, cr, q))
    (hlength : decodeLength (Mem.ofBytes t.encode beyond) q = some (t.value.length, v)) : t.header.length < v := by
  obtain ⟨hq, hlong⟩ := decodeTag_reads htag
  obtain ⟨hv, hfar⟩ := decodeLength_reads hlength
  rw [ValidTlv.header, List.length_append]
  cases hform : t.form with
  | oneByte =>
    have hn : 0x100 ≤ t.value.length := h.resolve_left (by rw [hform]; decide)
    have := hfar hn
    have hfield : (tagField t.tag t.cr .oneByte).length = 1 := rfl
    omega
  | threeByte =>
    have := hlong (ofBytes_threeByte hform)
    have hfield : (tagField t.tag t.cr .threeByte).length = 3 := rfl
    omega

/-- Without a value the byte behind the TLV is taken for the length. -/
theorem decode_empty (hform : t.form = .threeByte) (hnil : t.value = []) :
    decode (Mem.ofBytes t.encode fun _ => 0x80) 0 = none := by
  have hbehind : Mem.ofBytes t.encode (fun _ => 0x80) 4 = 0x80 := by
    refine ofBytes_behind ?_
    rw [ValidTlv.encode, hform, hnil]
    exact Nat.le_refl 4
  cases hdecode : decode (Mem.ofBytes t.encode fun _ => 0x80) 0 with
  | none => rfl
  | some tlv =>
    obtain ⟨tag, cr, q, v, htag, hlength, -⟩ := decode_some hdecode
    obtain rfl := (decodeTag_reads htag).2 (ofBytes_threeByte hform)
    simp [decodeLength, hbehind] at hlength

/-- **Which headers are decoded**: the tag takes one byte, and the length at most two. -/
theorem decoded_iff_short (t : ValidTlv) : t.Decoded ↔ t.form = .oneByte ∧ t.value.length < 0x100 := by
  constructor
  · intro h
    have hbytes (b : Byte) : decode (Mem.ofBytes t.encode fun _ => b) 0 = some t.tlv :=
      h _ 0 (Mem.ofBytes_holds t.encode fun _ => b)
    by_contra hno
    have hlong : t.form = .threeByte ∨ 0x100 ≤ t.value.length := by
      cases hform : t.form with
      | oneByte => exact .inr (by simpa [hform] using hno)
      | threeByte => exact .inl rfl
    obtain hnil | ⟨value, last, hconcat⟩ := List.eq_nil_or_concat t.value
    · have hform : t.form = .threeByte := hlong.resolve_right (by rw [hnil]; decide)
      cases (decode_empty hform hnil).symm.trans (hbytes 0x80)
    · have hvalue : t.value = value ++ [last] := hconcat.trans List.concat_eq_append
      -- what follows may be any byte
      obtain ⟨b, hb⟩ : ∃ b : Byte, last ≠ b := by
        by_cases hzero : last = 0
        · exact ⟨1, by rw [hzero]; decide⟩
        · exact ⟨0, hzero⟩
      exact hb (ends_behind hvalue (hbytes b) fun _ _ _ _ htag hlength => header_lt hlong htag hlength)
  · rintro ⟨hform, hlength⟩
    exact decoded_short hform hlength

/-- The bytes 7F 81 02 01 05. -/
def longTag : ValidTlv where
  form := .threeByte
  tag := 0x0102
  cr := 1
  value := [5]
  tag_range := show 0x0102 < 0x8000 by decide
  cr_bit := one_le_one
  value_length := by decide

theorem decoded_fails_longTag : ¬ longTag.Decoded := by
  intro h
  have hdecode := h _ 0 (Mem.ofBytes_holds longTag.encode fun _ => 0)
  exact absurd hdecode (by decide)

end UniRil.Stk
