import UniRil.Stk.AccessPointName

/-!
# The buffers that the texts of OPEN CHANNEL are put into

A byte from 0x80 on takes two bytes in UTF-8.
-/

namespace UniRil.Stk.Elements

open Walks

/-! ## Lengths -/

/-- How many bytes take two. -/
def wide (bytes : List Byte) : Nat := bytes.countP fun c => 128 ≤ c.toNat

theorem length_utf8Package (c : Byte) : (utf8Package c.toNat).length = if 128 ≤ c.toNat then 2 else 1 := by
  have hbound : c.toNat < 256 := c.toNat_lt
  unfold utf8Package
  split
  · rw [if_neg (by omega)]
    rfl
  · rw [if_pos (by omega), if_pos (by omega)]
    rfl

theorem length_convertUcsToUtf8 (bytes : List Byte) : (convertUcsToUtf8 bytes).length = bytes.length + wide bytes := by
  unfold convertUcsToUtf8 wide
  induction bytes with
  | nil => rfl
  | cons c bytes ih =>
    rw [List.flatMap_cons, List.length_append, ih, length_utf8Package, List.countP_cons, List.length_cons]
    by_cases hc : 128 ≤ c.toNat
    · simp only [hc, if_true, decide_true]
      omega
    · simp only [hc, if_false, decide_false]
      simp
      omega

theorem wide_append (s t : List Byte) : wide (s ++ t) = wide s + wide t := List.countP_append ..

/-! ## The texts of a name -/

/-- The bytes of each label that the loop takes; `i` is the length of the label before. -/
def pieces (value : List Byte) (i : Nat) : List (List Byte) :=
  match value with
  | [] => []
  | tempLen :: rest =>
    if rest = [] then []
    else if tempLen.toNat ≤ rest.length then
      rest.take tempLen.toNat ::
        if 1 < (rest.drop tempLen.toNat).length then pieces (rest.drop tempLen.toNat) tempLen.toNat else []
    else [rest.take (rest.length - i)]
termination_by value.length
decreasing_by
  rw [List.length_drop, List.length_cons]
  omega

/-- The bytes of the name: those of the labels, and the dots. -/
def nameLength (value : List Byte) : Nat :=
  ((pieces value 0).flatten).length + wide (pieces value 0).flatten + ((pieces value 0).length - 1)

theorem pieces_ne_nil {value : List Byte} (h : 1 < value.length) (i : Nat) : pieces value i ≠ [] := by
  cases value with
  | nil => simp at h
  | cons tempLen rest =>
    have hrest : rest ≠ [] := by
      rintro rfl
      simp at h
    rw [pieces, if_neg hrest]
    split
    · exact List.cons_ne_nil _ _
    · exact List.cons_ne_nil _ _

theorem length_labels {mem : Mem} {pStr : Nat} {value : List Byte} (h : mem.Holds pStr value) (i : Nat) :
    (labels mem pStr value.length i).1.length =
      (pieces value i).flatten.length + wide (pieces value i).flatten + ((pieces value i).length - 1) := by
  generalize hn : value.length = n
  induction n using Nat.strongRecOn generalizing pStr value i with
  | ind n ih =>
    cases value with
    | nil =>
      obtain rfl : n = 0 := hn.symm
      simp [labels, pieces, wide]
    | cons tempLen rest =>
      rw [List.length_cons] at hn
      by_cases hrest : rest = []
      · rw [hrest] at hn ⊢
        obtain rfl : n = 1 := hn.symm
        simp [labels, pieces, wide]
      · have hpos := List.length_pos_iff.2 hrest
        rw [labels, pieces, if_pos (by omega), if_neg hrest]
        simp only [h.head]
        by_cases hfits : tempLen.toNat ≤ rest.length
        · have hbytes : bytesAt mem (pStr + 1) tempLen.toNat = rest.take tempLen.toNat := bytesAt_holds h.tail hfits
          have hdrop : n - (tempLen.toNat + 1) = (rest.drop tempLen.toNat).length := by
            rw [List.length_drop]
            omega
          have hholds : mem.Holds (pStr + 1 + tempLen.toNat) (rest.drop tempLen.toNat) := by
            have htail := h.tail
            rw [← List.take_append_drop tempLen.toNat rest] at htail
            simpa [hfits] using htail.right
          rw [if_pos (by omega), if_pos hfits, hdrop, hbytes]
          by_cases hmore : 1 < (rest.drop tempLen.toNat).length
          · have hlast := ih _ (by omega) hholds tempLen.toNat rfl
            have hsome := List.length_pos_iff.2 (pieces_ne_nil hmore tempLen.toNat)
            rw [if_pos hmore, if_pos hmore]
            simp only [List.length_append, hlast, length_convertUcsToUtf8, List.flatten_cons, wide_append,
              List.length_cons]
            rw [show (utf8Package 46).length = 1 from rfl]
            omega
          · rw [if_neg hmore, if_neg hmore]
            simp [length_convertUcsToUtf8]
        · rw [if_neg (by omega), if_neg hfits]
          have hbytes : bytesAt mem (pStr + 1) (n - 1 - i) = rest.take (rest.length - i) := by
            rw [bytesAt_holds h.tail (by omega), ← hn, Nat.add_sub_cancel]
          simp only [hbytes, length_convertUcsToUtf8]
          simp

/-! ## The conversions of an element -/

/-- The buffers of the three conversions. -/
def isMeasured (c : Conversion) : Bool := c.buffer = .text || c.buffer = .BearerParam || c.buffer = .NetAccessName

def measured (s : OpenChannel) : List Conversion := s.conversions.filter isMeasured

def conversionsOf (e : Element) : List Conversion :=
  if e.tlv.tag = ALPHA_ID then if e.tlv.length = 0 then [] else [alphaIdText e]
  else if e.tlv.tag = BEARER_DESCRIPTION then if 1 < e.tlv.length then [bearerParam e] else []
  else if e.tlv.tag = NETWORK_ACCESS_NAME then if e.tlv.length = 0 then [] else [netAccessName e]
  else []

theorem measured_modify (s : OpenChannel) (f : OpenChannelData → OpenChannelData) :
    measured (s.modify f) = measured s := rfl

theorem measured_converts (s : OpenChannel) (c : Conversion) :
    measured (s.converts c) = measured s ++ [c].filter isMeasured := by
  unfold measured OpenChannel.converts
  rw [List.filter_append]

theorem measured_alphaId (e : Element) (s : OpenChannel) :
    measured (alphaId e s) = measured s ++ if e.tlv.length = 0 then [] else [alphaIdText e] := by
  unfold alphaId
  split
  · rw [measured_modify, List.append_nil]
  · rw [measured_modify, measured_converts]
    rfl

theorem measured_networkAccessName (e : Element) (s : OpenChannel) :
    measured (networkAccessName e s) = measured s ++ if e.tlv.length = 0 then [] else [netAccessName e] := by
  unfold networkAccessName
  split
  · rw [measured_modify, List.append_nil]
  · rw [measured_modify, measured_converts]
    rfl

theorem measured_bearerDescription {e : Element} {s s' : OpenChannel} (h : bearerDescription e s = .ok s') :
    measured s' = measured s ++ if 1 < e.tlv.length then [bearerParam e] else [] := by
  unfold bearerDescription at h
  split at h
  · cases h
  · split at h
    · rename_i hlong
      cases h
      rw [measured_modify, measured_converts, if_pos hlong]
      rfl
    · rename_i hshort
      cases h
      rw [measured_modify, if_neg hshort, List.append_nil]

theorem measured_bufferSize {e : Element} {s s' : OpenChannel} (h : bufferSize e s = .ok s') :
    measured s' = measured s := by
  unfold bufferSize at h
  split at h
  · cases h
  · split at h
    · cases h
    · cases h
      rfl

theorem measured_iconId (e : Element) (s : OpenChannel) : measured (iconId e s) = measured s := by
  unfold iconId
  split
  · rfl
  · rfl

theorem measured_otherAddress (e : Element) (s : OpenChannel) : measured (otherAddress e s) = measured s := by
  unfold otherAddress
  split
  · rfl
  · rfl

theorem measured_textString (e : Element) (s : OpenChannel) : measured (textString e s) = measured s := by
  unfold textString
  split_ifs
  · rfl
  · simp only
    rw [measured_modify, measured_converts]
    simp [measured, loginStr, isMeasured]
  · rfl
  · simp only
    rw [measured_modify, measured_converts]
    simp [measured, loginStr, isMeasured]

theorem measured_transportLevel (e : Element) (s : OpenChannel) : measured (transportLevel e s) = measured s := by
  unfold transportLevel
  split
  · rfl
  · rfl

theorem measured_openChannelElement (e : Element) (s s' : OpenChannel) (h : openChannelElement e s = .ok s') :
    measured s' = measured s ++ conversionsOf e := by
  unfold openChannelElement at h
  unfold conversionsOf
  split at h
  · rename_i halpha
    cases h
    rw [measured_alphaId, if_pos halpha]
  rename_i halpha
  rw [if_neg halpha]
  split at h
  · rename_i hicon
    cases h
    rw [measured_iconId, hicon]
    simp [ICON_ID, BEARER_DESCRIPTION, NETWORK_ACCESS_NAME]
  split at h
  · rename_i hbearer
    rw [measured_bearerDescription h, if_pos hbearer]
  rename_i hbearer
  rw [if_neg hbearer]
  split at h
  · rename_i hsize
    rw [measured_bufferSize h, hsize]
    simp [BUFFER_SIZE, NETWORK_ACCESS_NAME]
  split at h
  · rename_i hname
    cases h
    rw [measured_networkAccessName, if_pos hname]
  rename_i hname
  rw [if_neg hname, List.append_nil]
  split_ifs at h
  · cases h
    exact measured_otherAddress e s
  · cases h
    exact measured_textString e s
  · cases h
    exact measured_transportLevel e s
  · cases h
    rfl

/-- The conversions of a list: those of the elements before the first that is rejected. -/
theorem measured_processOpenChannel (es : List Element) (d : OpenChannelData) (resCode : Nat) :
    measured (processOpenChannel es d resCode).1 =
      (es.takeWhile fun e => (rejectsOpenChannel e).isNone).flatMap conversionsOf :=
  rejects_openChannel.walk_log measured_openChannelElement es (OpenChannel.start d)

/-! ## Which conversions fit -/

def Conversion.Fits (c : Conversion) : Prop := c.produced.length ≤ c.size

/-- A text for which the NUL behind it leaves enough room: no zero byte in it, and one byte at most that takes two;
or a last byte of zero, and none that takes two. -/
def RoomForText (value : List Byte) : Prop :=
  NUL ∉ value ∧ wide value ≤ 1 ∨ NUL ∉ value.dropLast ∧ wide value = 0

theorem strlen_le (value beyond : List Byte) : strlen value ≤ strlen (value ++ beyond) := by
  unfold strlen cstr
  induction value with
  | nil => exact Nat.zero_le _
  | cons c value ih =>
    rw [List.cons_append, List.takeWhile_cons, List.takeWhile_cons]
    split
    · exact Nat.succ_le_succ ih
    · exact Nat.le_refl _

theorem roomForText_iff (value : List Byte) : value.length + wide value ≤ strlen value + 1 ↔ RoomForText value := by
  unfold RoomForText
  by_cases hnul : NUL ∈ value
  · obtain ⟨s, t, rfl, hs⟩ := List.eq_append_cons_of_mem hnul
    rw [strlen, cstr_append_nul hs, List.length_append, List.length_cons]
    constructor
    · intro h
      obtain rfl : t = [] := List.eq_nil_of_length_eq_zero (by omega)
      refine .inr ⟨?_, by omega⟩
      rwa [List.dropLast_concat]
    · rintro (⟨hnone, -⟩ | ⟨hnone, hwide⟩)
      · exact absurd hnul hnone
      · obtain rfl : t = [] := by
          by_contra ht
          apply hnone
          rw [List.dropLast_append_of_ne_nil (List.cons_ne_nil _ _), List.dropLast_cons_of_ne_nil ht]
          simp
        rw [hwide, List.length_nil]
  · rw [strlen, cstr_of_notMem hnul]
    constructor
    · intro h
      exact .inl ⟨hnul, by omega⟩
    · rintro (⟨-, h⟩ | ⟨-, h⟩)
      · omega
      · omega

/-- The texts that an element is converted to fit their buffers, whatever lies behind the value. -/
def FitsBuffer (tlv : TLV) : Prop :=
  (tlv.tag = ALPHA_ID → RoomForText tlv.value) ∧
    (tlv.tag = BEARER_DESCRIPTION → tlv.length ≤ ARRAY_SIZE / 2 + 1) ∧
    (tlv.tag = NETWORK_ACCESS_NAME → nameLength tlv.value ≤ ARRAY_SIZE * 2)

theorem fits_alphaIdText (e : Element) :
    (alphaIdText e).Fits ↔ e.tlv.value.length + wide e.tlv.value ≤ strlen (e.tlv.value ++ e.beyond) + 1 := by
  unfold Conversion.Fits alphaIdText
  rw [length_convertUcsToUtf8]

theorem fits_bearerParam (e : Element) : (bearerParam e).Fits ↔ e.tlv.value.length ≤ ARRAY_SIZE / 2 + 1 := by
  have hlength : (bearerParam e).produced.length = 2 * (e.tlv.value.length - 1) := by
    rw [bearerParam, length_convertBinToHex, List.length_drop]
  unfold Conversion.Fits
  rw [hlength]
  unfold bearerParam ARRAY_SIZE
  simp only
  omega

theorem fits_netAccessName {e : Element} (h : e.tlv.value.length = e.tlv.length) :
    (netAccessName e).Fits ↔ nameLength e.tlv.value ≤ ARRAY_SIZE * 2 := by
  unfold Conversion.Fits netAccessName nameLength
  rw [← h, length_labels (mem_holds e)]

theorem fits_conversionsOf {e : Element} (h : e.tlv.value.length = e.tlv.length) :
    (∀ c ∈ conversionsOf e, c.Fits) ↔
      (e.tlv.tag = ALPHA_ID → e.tlv.value.length + wide e.tlv.value ≤ strlen (e.tlv.value ++ e.beyond) + 1) ∧
        (e.tlv.tag = BEARER_DESCRIPTION → e.tlv.length ≤ ARRAY_SIZE / 2 + 1) ∧
        (e.tlv.tag = NETWORK_ACCESS_NAME → nameLength e.tlv.value ≤ ARRAY_SIZE * 2) := by
  unfold conversionsOf
  by_cases halpha : e.tlv.tag = ALPHA_ID
  · have hempty : e.tlv.length = 0 → e.tlv.value = [] := fun hzero => List.eq_nil_of_length_eq_zero (h.trans hzero)
    rw [if_pos halpha, ← fits_alphaIdText]
    split
    · rename_i hzero
      simp [halpha, fits_alphaIdText, hempty hzero, wide, ALPHA_ID, BEARER_DESCRIPTION, NETWORK_ACCESS_NAME]
    · simp [halpha, ALPHA_ID, BEARER_DESCRIPTION, NETWORK_ACCESS_NAME]
  · by_cases hbearer : e.tlv.tag = BEARER_DESCRIPTION
    · rw [if_neg halpha, if_pos hbearer, ← h, ← fits_bearerParam]
      split
      · simp [hbearer, ALPHA_ID, BEARER_DESCRIPTION, NETWORK_ACCESS_NAME]
      · rename_i hshort
        have hfits : (bearerParam e).Fits := (fits_bearerParam e).2 (by unfold ARRAY_SIZE; omega)
        simp [hbearer, hfits, ALPHA_ID, BEARER_DESCRIPTION, NETWORK_ACCESS_NAME]
    · rw [if_neg halpha, if_neg hbearer]
      by_cases hname : e.tlv.tag = NETWORK_ACCESS_NAME
      · rw [if_pos hname, ← fits_netAccessName h]
        split
        · rename_i hzero
          have hnil : e.tlv.value = [] := List.eq_nil_of_length_eq_zero (h.trans hzero)
          have hfits : (netAccessName e).Fits := by
            rw [fits_netAccessName h, hnil]
            simp [nameLength, pieces, wide]
          simp [hname, hfits, ALPHA_ID, BEARER_DESCRIPTION, NETWORK_ACCESS_NAME]
        · simp [hname, ALPHA_ID, BEARER_DESCRIPTION, NETWORK_ACCESS_NAME]
      · simp [halpha, hbearer, hname]

/-! ## The list -/

/-- Every conversion of the list fits, whatever lies behind the values. -/
def ConversionsFit (tlvs : List TLV) (d : OpenChannelData) (resCode : Nat) : Prop :=
  ∀ es : List Element, es.map Element.tlv = tlvs → ∀ c ∈ measured (processOpenChannel es d resCode).1, c.Fits

/-- Whether the loop goes on behind the element. -/
def accepted (tlv : TLV) : Bool := (rejectsOpenChannel { tlv := tlv, beyond := [] }).isNone

theorem takeWhile_tlv (es : List Element) :
    (es.takeWhile fun e => (rejectsOpenChannel e).isNone).map Element.tlv =
      (es.map Element.tlv).takeWhile accepted := by
  rw [List.takeWhile_map]
  rfl

/-- **The texts fit exactly when those of each element do**, up to the first that is rejected: a text needs as many
bytes as UTF-8 takes, and its buffer has those up to the first zero byte. -/
theorem conversions_fit_iff {tlvs : List TLV} (h : ∀ tlv ∈ tlvs, tlv.value.length = tlv.length) (d : OpenChannelData)
    (resCode : Nat) : ConversionsFit tlvs d resCode ↔ ∀ tlv ∈ tlvs.takeWhile accepted, FitsBuffer tlv := by
  unfold ConversionsFit
  constructor
  · intro hfit tlv htlv
    have hes : (tlvs.map fun tlv => ({ tlv := tlv, beyond := [] } : Element)).map Element.tlv = tlvs := by
      rw [List.map_map]
      exact List.map_id tlvs
    have hmem := takeWhile_tlv (tlvs.map fun tlv => ({ tlv := tlv, beyond := [] } : Element))
    rw [hes] at hmem
    rw [← hmem] at htlv
    obtain ⟨e, he, rfl⟩ := List.mem_map.1 htlv
    have hlength := h e.tlv (by rw [← hes]; exact List.mem_map_of_mem ((List.takeWhile_sublist _).subset he))
    obtain ⟨tlv, -, rfl⟩ := List.mem_map.1 ((List.takeWhile_sublist _).subset he)
    have hfits := fits_conversionsOf hlength
    rw [List.append_nil, roomForText_iff] at hfits
    refine hfits.1 fun c hc => hfit _ hes c ?_
    rw [measured_processOpenChannel]
    exact List.mem_flatMap.2 ⟨_, he, hc⟩
  · intro hfits es hes c hc
    rw [measured_processOpenChannel] at hc
    obtain ⟨e, he, hc⟩ := List.mem_flatMap.1 hc
    have htlv : e.tlv ∈ tlvs.takeWhile accepted := by
      rw [← hes, ← takeWhile_tlv]
      exact List.mem_map_of_mem he
    obtain ⟨halpha, hbearer, hname⟩ := hfits e.tlv htlv
    refine (fits_conversionsOf (h e.tlv ((List.takeWhile_sublist _).subset htlv))).2 ⟨?_, hbearer, hname⟩ c hc
    intro htag
    have hroom := (roomForText_iff e.tlv.value).2 (halpha htag)
    have hmore := strlen_le e.tlv.value e.beyond
    omega

/-- Two bytes of a text from 0x80 on, as in `éé`. -/
def wideText : TLV := { tag := ALPHA_ID, cr := 0, length := 2, value := [0xe9, 0xe9] }

theorem conversions_fit_iff_wideText :
    (∀ tlv ∈ [wideText], tlv.value.length = tlv.length) ∧
      (ConversionsFit [wideText] noData OK ↔ ∀ tlv ∈ [wideText].takeWhile accepted, FitsBuffer tlv) :=
  ⟨by decide, conversions_fit_iff (by decide) noData OK⟩

/-- Four bytes into a buffer of three. -/
theorem conversions_fit_fails_wideText : ¬ConversionsFit [wideText] noData OK := by
  intro h
  have hfits := h [{ tlv := wideText, beyond := [] }] rfl (alphaIdText { tlv := wideText, beyond := [] })
    (List.mem_singleton.2 rfl)
  unfold Conversion.Fits at hfits
  exact absurd hfits (by decide)

end UniRil.Stk.Elements
