import Mathlib.Algebra.Order.BigOperators.Group.List
import Mathlib.Algebra.Order.Ring.Nat
import UniRil.Stk.Bounds
import UniRil.Stk.RoundTrip

/-!
# What the parser has read

The functions of `ril_stk_parser.c` from their results back: where a TLV stood, how long it was, and what the lengths
of a list come to.
-/

namespace UniRil.Stk

variable {mem : Mem}

/-! ## One TLV -/

theorem decode_behind {p : Nat} (h : mem p = 0xff) : decode mem p = none := by
  have htag : decodeTag mem p = none := by
    unfold decodeTag
    rw [h]
    rfl
  rw [decode, htag]
  rfl

/-- With a tag of one byte, the length stands behind it. -/
theorem decode_single {p : Nat} {tag : Byte} (h : mem p = tag)
    (htag : tag.toNat ≠ 0 ∧ tag.toNat ≠ 0x7f ∧ tag.toNat ≠ 0x80 ∧ tag.toNat ≠ 0xff) :
    decode mem p = (decodeLength mem (p + 1)).map fun q =>
      { tag := tag.toNat % 128, cr := tag.toNat / 128, length := q.1
        value := (List.range q.1).map fun i => mem (q.2 + i) } := by
  obtain ⟨h0, h1, h2, h3⟩ := htag
  have hlt := tag.toNat_lt
  unfold decode
  rw [decodeTag_single hlt (congrArg UInt8.toNat h) h0 h1 h2 h3]
  simp only [Option.bind_eq_bind, Option.bind_some]
  cases decodeLength mem (p + 1) with
  | none => rfl
  | some q => rfl

theorem of_decode_single {p : Nat} {tag : Byte} (h : mem p = tag)
    (htag : tag.toNat ≠ 0 ∧ tag.toNat ≠ 0x7f ∧ tag.toNat ≠ 0x80 ∧ tag.toNat ≠ 0xff) {tlv : TLV}
    (hdecode : decode mem p = some tlv) :
    tlv.tag = tag.toNat % 128 ∧ ∃ value, decodeLength mem (p + 1) = some (tlv.length, value) := by
  rw [decode_single h htag, Option.map_eq_some_iff] at hdecode
  obtain ⟨q, hlength, rfl⟩ := hdecode
  exact ⟨rfl, q.2, hlength⟩

theorem decodeLength_short {p n : Nat} (h : (mem p).toNat = n) (hshort : n < 0x80) :
    decodeLength mem p = some (n, p + 1) := by
  unfold decodeLength
  rw [h]
  exact if_pos hshort

/-- A long form is never that of a short length. -/
theorem eq_of_decodeLength {p n value : Nat} (h : decodeLength mem p = some (n, value))
    (hshort : n < 0x80) : (mem p).toNat = n := by
  unfold decodeLength at h
  simp only at h
  split at h
  · cases h
    rfl
  split at h
  · split at h
    · cases h
    · cases h
      omega
  split at h
  · split at h
    · cases h
    · cases h
      omega
  split at h
  · split at h
    · cases h
    · cases h
      omega
  · cases h

/-! ## The list -/

theorem parseTlvs_none {temp count p : Nat} (hcount : count < temp) (h : decode mem p = none) :
    parseTlvs mem temp count p = none := by
  rw [parseTlvs, if_pos hcount, h]

theorem parseTlvs_step {temp count p : Nat} (hcount : count < temp) {tlvs : List TLV}
    (h : parseTlvs mem temp count p = some tlvs) :
    ∃ tlv rest, decode mem p = some tlv ∧
      parseTlvs mem temp (count + advance tlv.length) (p + advance tlv.length) = some rest ∧ tlvs = tlv :: rest := by
  rw [parseTlvs, if_pos hcount] at h
  cases hdecode : decode mem p with
  | none =>
    rw [hdecode] at h
    cases h
  | some tlv =>
    rw [hdecode] at h
    obtain ⟨rest, hrest, rfl⟩ := Option.map_eq_some_iff.1 h
    exact ⟨tlv, rest, rfl, hrest, rfl⟩

theorem length_of_decode {p : Nat} {tlv : TLV} (h : decode mem p = some tlv) : tlv.value.length = tlv.length := by
  simp only [decode, Option.bind_eq_bind, Option.bind_eq_some_iff] at h
  obtain ⟨_, _, _, _, hpure⟩ := h
  cases hpure
  simp

theorem length_of_parseTlvs {temp count p : Nat} {tlvs : List TLV} (h : parseTlvs mem temp count p = some tlvs) :
    ∀ tlv ∈ tlvs, tlv.value.length = tlv.length := by
  induction tlvs generalizing count p with
  | nil => simp
  | cons tlv tlvs ih =>
    have hcount : count < temp := by
      by_contra hcount
      rw [parseTlvs, if_neg hcount] at h
      cases h
    obtain ⟨tlv', rest, hdecode, hrest, heq⟩ := parseTlvs_step hcount h
    cases heq
    exact List.forall_mem_cons.2 ⟨length_of_decode hdecode, ih hrest⟩

/-! ## A list that is read with its length -/

/-- What the second loop of the parser adds up. -/
def sizes (tlvs : List TLV) : Nat := (tlvs.map fun tlv => advance tlv.length).sum

theorem sizes_cons (tlv : TLV) (tlvs : List TLV) : sizes (tlv :: tlvs) = advance tlv.length + sizes tlvs := rfl

theorem totalLength_eq {tlvs : List TLV} {start total : Nat} (h : totalLength tlvs start = (true, total)) :
    total = start + sizes tlvs ∧ ∀ tlv ∈ tlvs, tlv.length ≤ 255 := by
  induction tlvs generalizing start with
  | nil =>
    cases h
    exact ⟨rfl, by simp⟩
  | cons tlv tlvs ih =>
    unfold totalLength at h
    rw [sizes_cons, advance, List.forall_mem_cons]
    split at h
    · rename_i hlong
      obtain ⟨htotal, hall⟩ := ih h
      rw [if_pos hlong]
      exact ⟨by omega, hlong.2, hall⟩
    split at h
    · rename_i hlong hshort
      obtain ⟨htotal, hall⟩ := ih h
      rw [if_neg hlong, if_pos hshort]
      exact ⟨by omega, by omega, hall⟩
    · cases h

theorem le_advance {n : Nat} (h : n ≤ 255) : n + 2 ≤ advance n := by
  unfold advance
  split
  · omega
  · split
    · omega
    · omega

/-- Two elements take room one beside the other. -/
theorem two_le_sizes {tlvs : List TLV} {a b : TLV} (ha : a ∈ tlvs) (hb : b ∈ tlvs) (hne : a ≠ b) :
    advance a.length + advance b.length ≤ sizes tlvs := by
  have hone {tlv : TLV} {tlvs : List TLV} (h : tlv ∈ tlvs) : advance tlv.length ≤ sizes tlvs :=
    List.single_le_sum (fun _ _ => Nat.zero_le _) _ (List.mem_map_of_mem h)
  induction tlvs with
  | nil => cases ha
  | cons tlv tlvs ih =>
    rw [sizes_cons]
    rcases List.mem_cons.1 ha with rfl | hatail
    · rcases List.mem_cons.1 hb with rfl | hbtail
      · exact absurd rfl hne
      · exact Nat.add_le_add_left (hone hbtail) _
    · rcases List.mem_cons.1 hb with rfl | hbtail
      · have := hone hatail
        omega
      · have := ih hatail hbtail
        omega

theorem mem_of_processCommandDetails {tlvs : List TLV} {cmdDet : CommandDetails}
    (h : processCommandDetails tlvs = some cmdDet) : ∃ tlv ∈ tlvs, tlv.tag = COMMAND_DETAILS ∧ 3 ≤ tlv.length := by
  induction tlvs with
  | nil => cases h
  | cons tlv tlvs ih =>
    unfold processCommandDetails at h
    split at h
    · rename_i htag
      split at h
      · cases h
      · rename_i hlength
        exact ⟨tlv, List.mem_cons_self, htag, by omega⟩
    · obtain ⟨details, hmem, hdetails⟩ := ih h
      exact ⟨details, List.mem_cons_of_mem _ hmem, hdetails⟩

/-! ## What lies before is not read -/

/-- The two memories are the same from an offset on. -/
def SameFrom (p : Nat) (mem mem' : Mem) : Prop := ∀ o, p ≤ o → mem o = mem' o

variable {mem' : Mem} {p : Nat}

theorem SameFrom.mono {q : Nat} (h : SameFrom p mem mem') (hle : p ≤ q) : SameFrom q mem mem' :=
  fun o ho => h o (Nat.le_trans hle ho)

theorem decodeTag_from (h : SameFrom p mem mem') : decodeTag mem p = decodeTag mem' p := by
  unfold decodeTag
  rw [h p (Nat.le_refl p), h (p + 1) (Nat.le_succ p)]

theorem decodeLength_from (h : SameFrom p mem mem') : decodeLength mem p = decodeLength mem' p := by
  unfold decodeLength
  rw [h p (Nat.le_refl p), h (p + 1) (by omega), h (p + 4) (by omega)]

theorem le_of_decodeLength {length value : Nat} (h : decodeLength mem p = some (length, value)) : p ≤ value := by
  unfold decodeLength at h
  simp only at h
  split at h
  · cases h
    omega
  split at h
  · split at h
    · cases h
    · cases h
      omega
  split at h
  · split at h
    · cases h
    · cases h
      omega
  split at h
  · split at h
    · cases h
    · cases h
      omega
  · cases h

theorem decode_from (h : SameFrom p mem mem') : decode mem p = decode mem' p := by
  unfold decode
  rw [decodeTag_from h]
  cases htag : decodeTag mem' p with
  | none => rfl
  | some r =>
    obtain ⟨tag, cr, pByt⟩ := r
    have hpByt : p ≤ pByt := by
      rw [decodeTag_offset htag]
      split
      · omega
      · omega
    have hfrom := h.mono hpByt
    simp only [Option.bind_eq_bind, Option.bind_some, decodeLength_from hfrom]
    cases hlength : decodeLength mem' pByt with
    | none => rfl
    | some r =>
      obtain ⟨length, value⟩ := r
      have hle := le_of_decodeLength hlength
      have hbytes (i : Nat) : mem (value + i) = mem' (value + i) := hfrom _ (by omega)
      simp only [Option.bind_some, hbytes]

/-- The list is read from its offset on. -/
theorem parseTlvs_from (h : SameFrom p mem mem') (temp count : Nat) :
    parseTlvs mem temp count p = parseTlvs mem' temp count p := by
  induction hleft : temp - count using Nat.strong_induction_on generalizing count p with
  | _ left ih =>
    rw [parseTlvs, parseTlvs, decode_from h]
    by_cases hcount : count < temp
    · rw [if_pos hcount, if_pos hcount]
      cases decode mem' p with
      | none => rfl
      | some tlv =>
        have hpos := advance_pos tlv.length
        have hfrom := h.mono (Nat.le_add_right p (advance tlv.length))
        have hrest := ih _ (by omega) hfrom (count + advance tlv.length) rfl
        simp only [hrest]
    · rw [if_neg hcount, if_neg hcount]

end UniRil.Stk
