import Mathlib.Logic.Relation
import UniRil.Stk.Parser

/-!
# What the parser reads

Beside each function of the parser stand the offsets that it reads, in the order of the source. A
command stays inside its bytes when every TLV that the loop comes to does.
-/

namespace UniRil.Stk

/-! ## The offsets -/

def decodeTagReads (mem : Mem) (pByt : Nat) : List Nat :=
  if (mem pByt).toNat = 0x7f then [pByt, pByt + 1, pByt + 1] else [pByt]

def decodeLengthReads (mem : Mem) (pByt : Nat) : List Nat :=
  let temp := (mem pByt).toNat
  if temp = 0x81 then [pByt, pByt + 1]
  else if temp = 0x82 then [pByt, pByt + 1, pByt + 1]
  else if temp = 0x83 then [pByt, pByt + 1, pByt + 1, pByt + 4]
  else [pByt]

/-- The length field, and the value as `memcpy` reads it. -/
def decodeValueReads (mem : Mem) (pByt : Nat) : List Nat :=
  decodeLengthReads mem pByt ++
    match decodeLength mem pByt with
    | none => []
    | some (length, value) => (List.range length).map (value + ·)

def decodeReads (mem : Mem) (data : Nat) : List Nat :=
  decodeTagReads mem data ++
    match decodeTag mem data with
    | none => []
    | some (_, _, pByt) => decodeValueReads mem pByt

def parseTlvsReads (mem : Mem) (temp count pStr : Nat) : List Nat :=
  if count < temp then
    decodeReads mem pStr ++
      match decode mem pStr with
      | none => []
      | some tlv => parseTlvsReads mem temp (count + advance tlv.length) (pStr + advance tlv.length)
  else []
termination_by temp - count
decreasing_by
  have := advance_pos tlv.length
  omega

def parseBodyReads (mem : Mem) (proCmdLen temp pStr : Nat) : List Nat :=
  if proCmdLen < 9 then [] else parseTlvsReads mem temp 0 pStr

/-- The tag and the BER length. -/
def headerReads (mem : Mem) : List Nat :=
  if (mem 0).toNat ≠ PROACTIVE_COMMAND_TAG then [0] else if (mem 1).toNat = 0x81 then [0, 1, 2] else [0, 1]

/-- The BER length and the offset of the first TLV. -/
def commandLength (mem : Mem) : Option (Nat × Nat) :=
  if (mem 0).toNat ≠ PROACTIVE_COMMAND_TAG then none
  else if (mem 1).toNat < 0x80 then some ((mem 1).toNat, 2)
  else if (mem 1).toNat = 0x81 ∧ 0x80 ≤ (mem 2).toNat then some ((mem 2).toNat, 3)
  else none

def parseBytesReads (mem : Mem) : List Nat :=
  headerReads mem ++
    match commandLength mem with
    | none => []
    | some (temp, pStr) => parseBodyReads mem temp temp pStr

theorem parseBytes_eq (mem : Mem) : parseBytes mem = match commandLength mem with
    | none => .CMD_DATA_NOT_UNDERSTOOD
    | some (temp, pStr) => parseBody mem temp temp pStr := by
  unfold parseBytes commandLength
  dsimp only
  split
  · rfl
  · split
    · rfl
    · split
      · rename_i h81
        split
        · rw [if_neg (by omega)]
        · rw [if_pos ⟨h81, by omega⟩]
      · rename_i h81
        rw [if_neg fun h => h81 h.1]

/-- The reads from the decoded bytes; `convertHexToBin` only writes them. -/
def parseProCommandReads (beyond : Mem) (rawData : List Byte) : List Nat :=
  if rawData = [] then []
  else
    let (ok, pProCmd) := convertHexToBin rawData
    if ok then parseBytesReads (.ofBytes pProCmd beyond) else []

/-! ## TLVs that lie inside -/

variable {mem mem' : Mem} {n p : Nat}

/-- How far the length field reaches. -/
def lengthSize (temp : Nat) : Nat := if temp = 0x83 then 5 else if temp = 0x81 ∨ temp = 0x82 then 2 else 1

/-- The tag, the length field and the value, as far as the TLV is understood, lie in the first `n` bytes. -/
def TlvInside (mem : Mem) (n p : Nat) : Prop :=
  p < n ∧ ∀ tag cr pByt, decodeTag mem p = some (tag, cr, pByt) →
    pByt + lengthSize (mem pByt).toNat ≤ n ∧
      ∀ length value, decodeLength mem pByt = some (length, value) → value + length ≤ n

/-- From one count the loop goes to the next, over TLVs that begin at `start`. -/
def TlvStep (mem : Mem) (temp start : Nat) (count next : Nat) : Prop :=
  count < temp ∧ ∃ tlv, decode mem (start + count) = some tlv ∧ next = count + advance tlv.length

/-- Each TLV that the loop comes to lies inside. -/
def TlvsInside (mem : Mem) (n temp start : Nat) : Prop :=
  ∀ count, Relation.ReflTransGen (TlvStep mem temp start) 0 count → count < temp → TlvInside mem n (start + count)

/-- The header and each TLV that the loop comes to lie inside. -/
structure CommandInside (mem : Mem) (n : Nat) : Prop where
  tag : 0 < n
  length : (mem 0).toNat = PROACTIVE_COMMAND_TAG → 1 < n ∧ ((mem 1).toNat = 0x81 → 2 < n)
  tlvs : ∀ temp start, commandLength mem = some (temp, start) → 9 ≤ temp → TlvsInside mem n temp start

/-! ## Reads inside are TLVs inside -/

theorem decodeTag_offset {tag cr pByt : Nat} (h : decodeTag mem p = some (tag, cr, pByt)) :
    pByt = if (mem p).toNat = 0x7f then p + 4 else p + 1 := by
  unfold decodeTag at h
  split at h
  · rename_i hzero
    simp only [Option.some.injEq, Prod.mk.injEq] at h
    rw [if_neg (by omega), h.2.2]
  · cases h
  · cases h
  · rename_i hthree
    simp only [Option.some.injEq, Prod.mk.injEq] at h
    rw [if_pos hthree, h.2.2]
  · rename_i hne
    simp only [Option.some.injEq, Prod.mk.injEq] at h
    rw [if_neg hne, h.2.2]

theorem decodeTagReads_lt : (∀ o ∈ decodeTagReads mem p, o < n) ↔ p < n ∧ ((mem p).toNat = 0x7f → p + 1 < n) := by
  unfold decodeTagReads
  split
  · simp [*]
  · simp [*]

theorem decodeLengthReads_lt : (∀ o ∈ decodeLengthReads mem p, o < n) ↔ p + lengthSize (mem p).toNat ≤ n := by
  unfold decodeLengthReads lengthSize
  dsimp only
  split_ifs <;> simp <;> omega

theorem lengthSize_pos (temp : Nat) : 0 < lengthSize temp := by
  unfold lengthSize
  split_ifs <;> omega

/-- Only the short form has an empty value. -/
theorem decodeLength_empty {value : Nat} (h : decodeLength mem p = some (0, value)) : value = p + 1 := by
  unfold decodeLength at h
  dsimp only at h
  split_ifs at h <;> simp only [Option.some.injEq, Prod.mk.injEq] at h <;> omega

theorem value_lt {length value : Nat} (hlength : decodeLength mem p = some (length, value)) (hp : p < n) :
    (∀ o ∈ (List.range length).map (value + ·), o < n) ↔ value + length ≤ n := by
  constructor
  · intro hall
    by_cases hempty : length = 0
    · subst hempty
      rw [decodeLength_empty hlength]
      omega
    · have hlast := hall (value + (length - 1)) (List.mem_map.2 ⟨length - 1, List.mem_range.2 (by omega), rfl⟩)
      omega
  · intro hle o ho
    obtain ⟨i, hi, rfl⟩ := List.mem_map.1 ho
    have := List.mem_range.1 hi
    omega

theorem decodeValueReads_lt : (∀ o ∈ decodeValueReads mem p, o < n) ↔ p + lengthSize (mem p).toNat ≤ n ∧
    ∀ length value, decodeLength mem p = some (length, value) → value + length ≤ n := by
  unfold decodeValueReads
  rw [List.forall_mem_append, decodeLengthReads_lt]
  refine and_congr_right fun hsize => ?_
  have hpos := lengthSize_pos (mem p).toNat
  cases hlength : decodeLength mem p with
  | none => simp
  | some r =>
    obtain ⟨length, value⟩ := r
    simpa using value_lt hlength (by omega)

theorem decodeReads_lt : (∀ o ∈ decodeReads mem p, o < n) ↔ TlvInside mem n p := by
  unfold decodeReads TlvInside
  rw [List.forall_mem_append, decodeTagReads_lt]
  cases htag : decodeTag mem p with
  | none =>
    have hnot : (mem p).toNat ≠ 0x7f := by
      intro hthree
      simp [decodeTag, hthree] at htag
    simp [hnot]
  | some r =>
    obtain ⟨tag, cr, pByt⟩ := r
    have hoffset := decodeTag_offset htag
    have hpos := lengthSize_pos (mem pByt).toNat
    constructor
    · rintro ⟨⟨hp, -⟩, hvalue⟩
      refine ⟨hp, ?_⟩
      rintro _ _ _ ⟨⟩
      exact decodeValueReads_lt.1 hvalue
    · rintro ⟨hp, hvalue⟩
      have hinside := hvalue tag cr pByt rfl
      refine ⟨⟨hp, fun hthree => ?_⟩, decodeValueReads_lt.2 hinside⟩
      rw [if_pos hthree] at hoffset
      have := hinside.1
      omega

/-! ### The loop -/

theorem parseTlvsReads_lt {temp start count : Nat} :
    (∀ o ∈ parseTlvsReads mem temp count (start + count), o < n) ↔
      ∀ k, Relation.ReflTransGen (TlvStep mem temp start) count k → k < temp → TlvInside mem n (start + k) := by
  induction hleft : temp - count using Nat.strong_induction_on generalizing count with
  | _ left ih =>
    rw [parseTlvsReads]
    split
    · rename_i hcount
      rw [List.forall_mem_append, decodeReads_lt]
      cases hdecode : decode mem (start + count) with
      | none =>
        refine ⟨fun h k hk _ => ?_, fun h => ⟨h count .refl hcount, by simp⟩⟩
        obtain rfl | ⟨_, ⟨-, tlv, htlv, -⟩, -⟩ := hk.cases_head
        · exact h.1
        · rw [hdecode] at htlv
          cases htlv
      | some tlv =>
        have hpos := advance_pos tlv.length
        have hrest := @ih (temp - (count + advance tlv.length)) (by omega) (count + advance tlv.length) rfl
        rw [← Nat.add_assoc] at hrest
        have hstep : TlvStep mem temp start count (count + advance tlv.length) := ⟨hcount, tlv, hdecode, rfl⟩
        refine ⟨fun h k hk hlt => ?_, fun h => ⟨h count .refl hcount, hrest.2 fun k hk => h k (.head hstep hk)⟩⟩
        obtain rfl | ⟨_, ⟨-, tlv', htlv, rfl⟩, hk'⟩ := hk.cases_head
        · exact h.1
        · rw [hdecode] at htlv
          obtain rfl := Option.some.inj htlv
          exact hrest.1 h.2 k hk' hlt
    · rename_i hcount
      refine ⟨fun _ k hk hlt => ?_, fun _ => by simp⟩
      obtain rfl | ⟨_, ⟨hlt', -⟩, -⟩ := hk.cases_head
      · exact (hcount hlt).elim
      · exact (hcount hlt').elim

theorem parseBodyReads_lt {temp start : Nat} :
    (∀ o ∈ parseBodyReads mem temp temp start, o < n) ↔ (9 ≤ temp → TlvsInside mem n temp start) := by
  unfold parseBodyReads
  split
  · rename_i hshort
    exact iff_of_true (by simp) fun h => by omega
  · rename_i hlong
    rw [forall_prop_of_true (by omega)]
    exact @parseTlvsReads_lt mem n temp start 0

theorem headerReads_lt : (∀ o ∈ headerReads mem, o < n) ↔
    0 < n ∧ ((mem 0).toNat = PROACTIVE_COMMAND_TAG → 1 < n ∧ ((mem 1).toNat = 0x81 → 2 < n)) := by
  unfold headerReads
  split_ifs with htag h81
  · simp [htag]
  · simp only [not_not] at htag
    simp [htag, h81]
  · simp only [not_not] at htag
    simp [htag, h81]

theorem parseBytesReads_lt : (∀ o ∈ parseBytesReads mem, o < n) ↔ CommandInside mem n := by
  unfold parseBytesReads
  rw [List.forall_mem_append, headerReads_lt]
  cases hlength : commandLength mem with
  | none =>
    refine ⟨fun h => ⟨h.1.1, h.1.2, fun temp start heq => ?_⟩, fun h => ⟨⟨h.tag, h.length⟩, by simp⟩⟩
    rw [hlength] at heq
    cases heq
  | some r =>
    obtain ⟨temp, start⟩ := r
    dsimp only
    rw [parseBodyReads_lt]
    refine ⟨fun h => ⟨h.1.1, h.1.2, fun temp' start' heq => ?_⟩, fun h => ⟨⟨h.tag, h.length⟩, h.tlvs temp start hlength⟩⟩
    rw [hlength] at heq
    cases heq
    exact h.2

/-! ## Values are slices -/

/-- The value of the TLV is where it says in the bytes. -/
def SliceOf (bytes : List Byte) (tlv : TLV) : Prop := tlv.value.length = tlv.length ∧ tlv.value <:+: bytes

theorem map_range_slice {bytes : List Byte} {beyond : Mem} {start length : Nat} (h : start + length ≤ bytes.length) :
    (List.range length).map (fun i => Mem.ofBytes bytes beyond (start + i)) = (bytes.drop start).take length := by
  refine List.ext_getElem ?_ fun i hi hi' => ?_
  · simp
    omega
  · have hlt : start + i < bytes.length := by
      simp at hi
      omega
    simp [Mem.ofBytes, hlt]

theorem decode_sliceOf {bytes : List Byte} {beyond : Mem} {tlv : TLV}
    (h : decode (.ofBytes bytes beyond) p = some tlv) (hinside : TlvInside (.ofBytes bytes beyond) bytes.length p) :
    SliceOf bytes tlv := by
  unfold decode at h
  cases htag : decodeTag (.ofBytes bytes beyond) p with
  | none =>
    rw [htag] at h
    cases h
  | some r =>
    obtain ⟨tag, cr, pByt⟩ := r
    cases hlength : decodeLength (.ofBytes bytes beyond) pByt with
    | none =>
      simp only [htag, Option.bind_eq_bind, Option.bind_some, hlength, Option.bind_none] at h
      cases h
    | some r =>
      obtain ⟨length, value⟩ := r
      simp only [htag, Option.bind_eq_bind, Option.bind_some, hlength] at h
      cases h
      have hfits := ((hinside.2 tag cr pByt htag).2 length value hlength)
      have hslice := @map_range_slice bytes beyond value length hfits
      refine ⟨by simp, ?_⟩
      show (List.range length).map _ <:+: bytes
      rw [hslice]
      exact (List.take_prefix _ _).isInfix.trans (List.drop_suffix _ _).isInfix

theorem parseTlvs_sliceOf {bytes : List Byte} {beyond : Mem} {temp start count : Nat} {tlvs : List TLV}
    (h : parseTlvs (.ofBytes bytes beyond) temp count (start + count) = some tlvs)
    (hinside : ∀ k, Relation.ReflTransGen (TlvStep (.ofBytes bytes beyond) temp start) count k → k < temp →
      TlvInside (.ofBytes bytes beyond) bytes.length (start + k)) :
    ∀ tlv ∈ tlvs, SliceOf bytes tlv := by
  induction hleft : temp - count using Nat.strong_induction_on generalizing count tlvs with
  | _ left ih =>
    rw [parseTlvs] at h
    split at h
    · rename_i hcount
      cases hdecode : decode (.ofBytes bytes beyond) (start + count) with
      | none =>
        rw [hdecode] at h
        cases h
      | some tlv =>
        simp only [hdecode] at h
        obtain ⟨rest, hrest, rfl⟩ := Option.map_eq_some_iff.1 h
        have hpos := advance_pos tlv.length
        have hstep : TlvStep (.ofBytes bytes beyond) temp start count (count + advance tlv.length) :=
          ⟨hcount, tlv, hdecode, rfl⟩
        rw [Nat.add_assoc] at hrest
        refine List.forall_mem_cons.2 ⟨decode_sliceOf hdecode (hinside count .refl hcount), ?_⟩
        exact ih _ (by omega) hrest (fun k hk => hinside k (.head hstep hk)) rfl
    · cases h
      simp

theorem parseBytes_sliceOf {bytes : List Byte} {beyond : Mem} {berTlv : BerTlv}
    (h : parseBytes (.ofBytes bytes beyond) = .OK berTlv) (hinside : CommandInside (.ofBytes bytes beyond) bytes.length) :
    ∀ tlv ∈ berTlv.compTlvs, SliceOf bytes tlv := by
  rw [parseBytes_eq] at h
  cases hlength : commandLength (.ofBytes bytes beyond) with
  | none =>
    rw [hlength] at h
    cases h
  | some r =>
    obtain ⟨temp, start⟩ := r
    simp only [hlength, parseBody] at h
    split at h
    · cases h
    · rename_i hlong
      cases htlvs : parseTlvs (.ofBytes bytes beyond) temp 0 start with
      | none =>
        rw [htlvs] at h
        cases h
      | some tlvs =>
        simp only [htlvs] at h
        cases h
        exact @parseTlvs_sliceOf bytes beyond temp start 0 tlvs htlvs (hinside.tlvs temp start hlength (by omega))

/-! ## What lies behind the bytes -/

/-- The two memories hold the same in the first `n` bytes. -/
def SameUpTo (n : Nat) (mem mem' : Mem) : Prop := ∀ o < n, mem o = mem' o

theorem decodeTag_same (h : SameUpTo n mem mem') (hreads : ∀ o ∈ decodeTagReads mem p, o < n) :
    decodeTagReads mem' p = decodeTagReads mem p ∧ decodeTag mem' p = decodeTag mem p := by
  obtain ⟨hp, hnext⟩ := decodeTagReads_lt.1 hreads
  unfold decodeTagReads decodeTag
  rw [← h p hp]
  refine ⟨rfl, ?_⟩
  split
  · rfl
  · rfl
  · rfl
  · rename_i hthree
    rw [h (p + 1) (hnext hthree)]
  · rfl

theorem decodeLength_same (h : SameUpTo n mem mem') (hreads : ∀ o ∈ decodeLengthReads mem p, o < n) :
    decodeLengthReads mem' p = decodeLengthReads mem p ∧ decodeLength mem' p = decodeLength mem p := by
  have hp : p < n := by
    have hsize := decodeLengthReads_lt.1 hreads
    have hpos := lengthSize_pos (mem p).toNat
    omega
  unfold decodeLengthReads at hreads
  unfold decodeLengthReads decodeLength
  dsimp only at hreads ⊢
  rw [← h p hp]
  refine ⟨rfl, ?_⟩
  split_ifs at hreads with h81 h82 h83
  · simp [h81, h (p + 1) (hreads _ (by simp))]
  · simp [h82, h (p + 1) (hreads _ (by simp))]
  · simp [h83, h (p + 1) (hreads _ (by simp)), h (p + 4) (hreads _ (by simp))]
  · simp [h81, h82, h83]

theorem decodeValue_same (h : SameUpTo n mem mem') (hreads : ∀ o ∈ decodeValueReads mem p, o < n) :
    decodeValueReads mem' p = decodeValueReads mem p ∧ decodeLength mem' p = decodeLength mem p := by
  have hlength := decodeLength_same h fun o ho => hreads o (List.mem_append_left _ ho)
  unfold decodeValueReads
  rw [hlength.1, hlength.2]
  exact ⟨rfl, rfl⟩

theorem decode_same (h : SameUpTo n mem mem') (hreads : ∀ o ∈ decodeReads mem p, o < n) :
    decodeReads mem' p = decodeReads mem p ∧ decode mem' p = decode mem p := by
  have hinside := decodeReads_lt.1 hreads
  unfold decodeReads at hreads ⊢
  rw [List.forall_mem_append] at hreads
  obtain ⟨htagReads, htag⟩ := decodeTag_same h hreads.1
  unfold decode
  rw [htagReads, htag]
  cases hresult : decodeTag mem p with
  | none => exact ⟨rfl, rfl⟩
  | some r =>
    obtain ⟨tag, cr, pByt⟩ := r
    rw [hresult] at hreads
    obtain ⟨hvalueReads, hlength⟩ := decodeValue_same h hreads.2
    dsimp only
    rw [hvalueReads]
    refine ⟨rfl, ?_⟩
    simp only [Option.bind_eq_bind, Option.bind_some, hlength]
    cases hvalue : decodeLength mem pByt with
    | none => rfl
    | some r =>
      obtain ⟨length, value⟩ := r
      have hfits := (hinside.2 tag cr pByt hresult).2 length value hvalue
      have hbytes : (List.range length).map (fun i => mem' (value + i)) = (List.range length).map fun i => mem (value + i) := by
        refine List.map_congr_left fun i hi => (h _ ?_).symm
        have := List.mem_range.1 hi
        omega
      simp only [Option.bind_some, hbytes]

theorem parseTlvs_same (h : SameUpTo n mem mem') {temp count : Nat}
    (hreads : ∀ o ∈ parseTlvsReads mem temp count p, o < n) :
    parseTlvsReads mem' temp count p = parseTlvsReads mem temp count p ∧
      parseTlvs mem' temp count p = parseTlvs mem temp count p := by
  induction hleft : temp - count using Nat.strong_induction_on generalizing count p with
  | _ left ih =>
    rw [parseTlvsReads] at hreads
    rw [parseTlvsReads, parseTlvsReads, parseTlvs, parseTlvs]
    split
    · rename_i hcount
      rw [if_pos hcount, List.forall_mem_append] at hreads
      obtain ⟨hdecodeReads, hdecode⟩ := decode_same h hreads.1
      rw [hdecodeReads, hdecode]
      cases htlv : decode mem p with
      | none => exact ⟨rfl, rfl⟩
      | some tlv =>
        rw [htlv] at hreads
        have hpos := advance_pos tlv.length
        obtain ⟨hrestReads, hrest⟩ := ih _ (by omega) hreads.2 rfl
        dsimp only
        rw [hrestReads, hrest]
        exact ⟨rfl, rfl⟩
    · exact ⟨rfl, rfl⟩

theorem commandLength_same (h : SameUpTo n mem mem') (hreads : ∀ o ∈ headerReads mem, o < n) :
    headerReads mem' = headerReads mem ∧ commandLength mem' = commandLength mem := by
  obtain ⟨h0, hlength⟩ := headerReads_lt.1 hreads
  unfold headerReads commandLength
  rw [← h 0 h0]
  split
  · exact ⟨rfl, rfl⟩
  · rename_i htag
    obtain ⟨h1, h2⟩ := hlength (not_not.1 htag)
    rw [← h 1 h1]
    refine ⟨rfl, ?_⟩
    split
    · rfl
    · by_cases h81 : (mem 1).toNat = 0x81
      · rw [h 2 (h2 h81)]
      · rw [if_neg fun hand => h81 hand.1, if_neg fun hand => h81 hand.1]

theorem parseBytes_same (h : SameUpTo n mem mem') (hreads : ∀ o ∈ parseBytesReads mem, o < n) :
    parseBytesReads mem' = parseBytesReads mem ∧ parseBytes mem' = parseBytes mem := by
  unfold parseBytesReads at hreads ⊢
  rw [List.forall_mem_append] at hreads
  obtain ⟨hheader, hlength⟩ := commandLength_same h hreads.1
  rw [parseBytes_eq, parseBytes_eq, hheader, hlength]
  cases hresult : commandLength mem with
  | none => exact ⟨rfl, rfl⟩
  | some r =>
    obtain ⟨temp, start⟩ := r
    rw [hresult] at hreads
    have htlvs := hreads.2
    dsimp only [parseBodyReads] at htlvs ⊢
    unfold parseBody
    split at htlvs
    · rename_i hshort
      simp only [if_pos hshort, and_self]
    · rename_i hlong
      obtain ⟨hbodyReads, hbody⟩ := parseTlvs_same h htlvs
      simp only [if_neg hlong, hbodyReads, hbody, and_self]

/-! ## The whole command -/

/-- The command is complete: whatever lies behind its bytes, the parser does not come to it. -/
def Whole (bytes : List Byte) : Prop := CommandInside (.ofBytes bytes fun _ => 0) bytes.length

theorem sameUpTo_ofBytes (bytes : List Byte) (beyond beyond' : Mem) :
    SameUpTo bytes.length (.ofBytes bytes beyond) (.ofBytes bytes beyond') := by
  intro o ho
  simp [Mem.ofBytes, ho]

theorem whole_iff (bytes : List Byte) (beyond : Mem) :
    Whole bytes ↔ CommandInside (.ofBytes bytes beyond) bytes.length := by
  have hiff : ∀ beyond beyond', CommandInside (.ofBytes bytes beyond) bytes.length →
      CommandInside (.ofBytes bytes beyond') bytes.length := by
    intro beyond beyond' h
    have hreads := parseBytesReads_lt.2 h
    rw [← (parseBytes_same (sameUpTo_ofBytes bytes beyond beyond') hreads).1] at hreads
    exact parseBytesReads_lt.1 hreads
  exact ⟨hiff _ _, hiff _ _⟩

theorem length_convertHexToBin {hex : List Byte} (h : (convertHexToBin hex).1 = true) :
    (convertHexToBin hex).2.length = hex.length / 2 := by
  induction hex using convertHexToBin.induct with
  | case1 => rfl
  | case2 ch hnone => simp [convertHexToBin, hnone] at h
  | case3 ch high hsome => simp [convertHexToBin, hsome] at h
  | case4 ch ch' hex hnone => simp [convertHexToBin, hnone] at h
  | case5 ch ch' hex high hsome hnone => simp [convertHexToBin, hsome, hnone] at h
  | case6 ch ch' hex high low hlow hhigh ih =>
    simp only [convertHexToBin, hlow, hhigh, List.length_cons] at h ⊢
    rw [ih h]
    omega

/-- Every byte that is read is one of the decoded bytes, and every value that is returned is a slice of them. -/
structure StaysInside (beyond : Mem) (rawData : List Byte) : Prop where
  reads : ∀ o ∈ parseProCommandReads beyond rawData, o < rawData.length / 2
  values : ∀ berTlv, parseProCommand beyond rawData = .OK berTlv →
    ∀ tlv ∈ berTlv.compTlvs, SliceOf (convertHexToBin rawData).2 tlv

/-- **The parser stays inside its input** exactly when the text is no hex or the command is complete. -/
theorem staysInside_iff_whole (beyond : Mem) (rawData : List Byte) :
    StaysInside beyond rawData ↔
      (rawData ≠ [] → (convertHexToBin rawData).1 = true → Whole (convertHexToBin rawData).2) := by
  by_cases hempty : rawData = []
  · subst hempty
    exact iff_of_true ⟨by simp [parseProCommandReads], fun _ h => by cases h⟩ fun h => (h rfl).elim
  · by_cases hhex : (convertHexToBin rawData).1 = true
    · have hreads : parseProCommandReads beyond rawData = parseBytesReads (.ofBytes (convertHexToBin rawData).2 beyond) := by
        simp only [parseProCommandReads, if_neg hempty, hhex, if_true]
      have hparse : parseProCommand beyond rawData = parseBytes (.ofBytes (convertHexToBin rawData).2 beyond) := by
        simp only [parseProCommand, if_neg hempty, hhex, if_true]
      rw [forall_prop_of_true hempty, forall_prop_of_true hhex, whole_iff _ beyond, ← parseBytesReads_lt,
        length_convertHexToBin hhex, ← hreads]
      refine ⟨fun h => h.reads, fun h => ⟨h, fun berTlv hok => ?_⟩⟩
      rw [hparse] at hok
      refine parseBytes_sliceOf hok (parseBytesReads_lt.1 ?_)
      rwa [length_convertHexToBin hhex, ← hreads]
    · refine iff_of_true ⟨?_, fun berTlv hok => ?_⟩ fun _ h => (hhex h).elim
      · simp [parseProCommandReads, hempty, hhex]
      · simp [parseProCommand, hempty, hhex] at hok

/-- A complete command is parsed without what lies behind it. -/
theorem parseProCommand_whole {rawData : List Byte} (h : Whole (convertHexToBin rawData).2) (beyond beyond' : Mem) :
    parseProCommand beyond rawData = parseProCommand beyond' rawData := by
  have hreads := parseBytesReads_lt.2 ((whole_iff _ beyond).1 h)
  have hsame := (parseBytes_same (sameUpTo_ofBytes _ beyond beyond') hreads).2
  simp only [parseProCommand, hsame]

/-- The BER length announces nine bytes that are not there. -/
theorem parser_reads_beyond :
    ¬ ∀ beyond rawData, rawData.length % 2 = 0 → (convertHexToBin rawData).1 = true → StaysInside beyond rawData := by
  intro hall
  have hinside := (hall (fun _ => 0) (ascii "D009") (by decide) (by decide)).reads 2 (by decide +kernel)
  exact absurd hinside (by decide)

end UniRil.Stk
