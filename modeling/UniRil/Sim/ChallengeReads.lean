import UniRil.Sim.AuthRoundTrip

/-!
# What is read of a challenge

The decoder goes on by whole groups of four characters, so that a text that ends within one is read
behind its NUL. The hex text is made of as many bytes as the text has characters; decoding never gives
so many.
-/

namespace UniRil.Sim

open Flows Handlers
open AtTok (Line)

/-! ## Decoding with its reads -/

/-- The memory from `base64` on: the text, its NUL, and what lies behind. -/
def cells (text : Line) (behind : Nat → Byte) (i : Nat) : Byte := (text ++ [NUL]).getD i (behind i)

structure Decoded where
  reads : List Nat
  bindata : List Byte

/-- `base64_decode` from the place `i` on, for as many groups as the fuel allows. -/
def decodeFrom (base64 : Nat → Byte) : Nat → Nat → Decoded
  | 0, _ => { reads := [], bindata := [] }
  | fuel + 1, i =>
    if base64 i = NUL then { reads := [i], bindata := [] }
    else
      let temp k := base64Value (base64 (i + k))
      let b0 := masked (temp 0 <<< 2) 0xFC ||| masked (temp 1 >>> 4) 0x03
      let b1 := masked (temp 1 <<< 4) 0xF0 ||| masked (temp 2 >>> 2) 0x0F
      let b2 := masked (temp 2 <<< 6) 0xF0 ||| masked (temp 3) 0x3F
      let group := [i, i + 1, i + 2, i + 3]
      if base64 (i + 2) = 61 then { reads := group, bindata := [b0] }
      else if base64 (i + 3) = 61 then { reads := group, bindata := [b0, b1] }
      else
        let rest := decodeFrom base64 fuel (i + 4)
        { reads := group ++ rest.reads, bindata := [b0, b1, b2] ++ rest.bindata }

/-- What `base64_decode` does with a text, whatever lies behind it. -/
def decodeText (authData : Line) (behind : Nat → Byte) (fuel : Nat) : Decoded :=
  decodeFrom (cells authData behind) fuel 0

/-- No character behind the NUL is read. -/
def DecodesInside (authData : Line) : Prop :=
  ∀ behind fuel, ∀ i ∈ (decodeText authData behind fuel).reads, i ≤ authData.length

/-- The text consists of whole groups, or a group closes it: its third or fourth character is `=`. -/
def Closed (authData : Line) : Prop :=
  authData.length % 4 = 0 ∨
    ∃ k < authData.length, authData[4 * k + 2]? = some 61 ∨ authData[4 * k + 3]? = some 61

instance (authData : Line) : Decidable (Closed authData) := inferInstanceAs (Decidable (_ ∨ _))

theorem cells_of_lt {text : Line} {i : Nat} (h : i < text.length) (behind : Nat → Byte) :
    cells text behind i = text[i] := by
  simp [cells, List.getElem?_append_left h, List.getElem?_eq_getElem h]

theorem cells_length (text : Line) (behind : Nat → Byte) : cells text behind text.length = NUL := by
  simp [cells]

/-- No group before the place `i` closes the text. -/
def OpenBefore (authData : Line) (i : Nat) : Prop :=
  ∀ k, 4 * k < i → authData[4 * k + 2]? ≠ some 61 ∧ authData[4 * k + 3]? ≠ some 61

theorem openBefore_next {authData : Line} {behind : Nat → Byte} {i : Nat} (h4 : i % 4 = 0)
    (h : OpenBefore authData i) (h2 : cells authData behind (i + 2) ≠ 61) (h3 : cells authData behind (i + 3) ≠ 61) :
    OpenBefore authData (i + 4) := by
  intro k hk
  by_cases hlt : 4 * k < i
  · exact h k hlt
  · obtain rfl : i = 4 * k := by omega
    refine ⟨fun hsome => h2 ?_, fun hsome => h3 ?_⟩
    · obtain ⟨hin, hat⟩ := List.getElem?_eq_some_iff.1 hsome
      rw [cells_of_lt hin, hat]
    · obtain ⟨hin, hat⟩ := List.getElem?_eq_some_iff.1 hsome
      rw [cells_of_lt hin, hat]

/-- A closed text that is open up to `i` is closed further on. -/
theorem closed_ahead {authData : Line} {i : Nat} (hclosed : Closed authData) (hopen : OpenBefore authData i) :
    authData.length % 4 = 0 ∨ ∃ k, i ≤ 4 * k ∧ 4 * k + 2 < authData.length := by
  refine hclosed.imp_right ?_
  rintro ⟨k, -, hk⟩
  refine ⟨k, ?_, ?_⟩
  · by_contra hki
    obtain ⟨h2, h3⟩ := hopen k (by omega)
    rcases hk with hk | hk
    · exact h2 hk
    · exact h3 hk
  · rcases hk with hk | hk
    · exact (List.getElem?_eq_some_iff.1 hk).1
    · have hin := (List.getElem?_eq_some_iff.1 hk).1
      omega

theorem reads_le_of_closed {authData : Line} (hclosed : Closed authData) (behind : Nat → Byte) (fuel : Nat) {i : Nat}
    (h4 : i % 4 = 0) (hle : i ≤ authData.length) (hopen : OpenBefore authData i) :
    ∀ j ∈ (decodeFrom (cells authData behind) fuel i).reads, j ≤ authData.length := by
  induction fuel generalizing i with
  | zero => simp [decodeFrom]
  | succ fuel ih =>
    rw [decodeFrom]
    by_cases hend : cells authData behind i = NUL
    · simp [hend, hle]
    · have hlt : i < authData.length := by
        rcases lt_or_eq_of_le hle with hlt | rfl
        · exact hlt
        · exact absurd (cells_length authData behind) hend
      have hroom : i + 3 ≤ authData.length := by
        rcases closed_ahead hclosed hopen with hwhole | ⟨k, hk, hin⟩
        · omega
        · omega
      have hgroup : ∀ j ∈ [i, i + 1, i + 2, i + 3], j ≤ authData.length := by
        simp only [List.mem_cons, List.not_mem_nil, or_false]
        omega
      rw [if_neg hend]
      by_cases h2 : cells authData behind (i + 2) = 61
      · simpa only [h2, if_true] using hgroup
      · by_cases h3 : cells authData behind (i + 3) = 61
        · simpa only [h2, h3, if_true, if_false] using hgroup
        · have hnext := openBefore_next h4 hopen h2 h3
          have hle' : i + 4 ≤ authData.length := by
            rcases closed_ahead hclosed hnext with hwhole | ⟨k, hk, hin⟩
            · omega
            · omega
          intro j hj
          simp only [h2, h3, if_false, List.mem_append] at hj
          rcases hj with hj | hj
          · exact hgroup j hj
          · exact ih (by omega) hle' hnext j hj

/-- A text that no group closes is read behind its NUL. -/
theorem reads_behind {authData : Line} (hnul : NUL ∉ authData) (hclosed : ¬ Closed authData) (behind : Nat → Byte)
    {fuel i : Nat} (hfuel : authData.length < fuel + i) (h4 : i % 4 = 0) (hle : i ≤ authData.length) :
    ∃ j ∈ (decodeFrom (cells authData behind) fuel i).reads, authData.length < j := by
  obtain ⟨hrest, hnone⟩ : authData.length % 4 ≠ 0 ∧
      ∀ k < authData.length, authData[4 * k + 2]? ≠ some 61 ∧ authData[4 * k + 3]? ≠ some 61 := by
    simpa [Closed, not_or] using hclosed
  have hopen : ∀ j, j < authData.length → j % 4 = 2 ∨ j % 4 = 3 → cells authData behind j ≠ 61 := by
    intro j hj hplace heq
    obtain ⟨h2, h3⟩ := hnone (j / 4) (by omega)
    rw [cells_of_lt hj] at heq
    rcases hplace with hplace | hplace
    · refine h2 ?_
      rw [show 4 * (j / 4) + 2 = j by omega, List.getElem?_eq_getElem hj, heq]
    · refine h3 ?_
      rw [show 4 * (j / 4) + 3 = j by omega, List.getElem?_eq_getElem hj, heq]
  induction fuel generalizing i with
  | zero => omega
  | succ fuel ih =>
    have hlt : i < authData.length := by
      rcases lt_or_eq_of_le hle with hlt | heq
      · exact hlt
      · omega
    have hgoes : cells authData behind i ≠ NUL := by
      rw [cells_of_lt hlt]
      exact fun h => hnul (h ▸ List.getElem_mem hlt)
    rw [decodeFrom, if_neg hgoes]
    by_cases hroom : i + 3 ≤ authData.length
    · have h2 := hopen (i + 2) (by omega) (by omega)
      have h3 : cells authData behind (i + 3) ≠ 61 := by
        rcases lt_or_eq_of_le hroom with hin | hin
        · exact hopen (i + 3) hin (by omega)
        · rw [hin, cells_length]
          decide
      simp only [h2, h3, if_false, List.mem_append]
      by_cases hnext : i + 4 ≤ authData.length
      · obtain ⟨j, hj, hbehind⟩ := ih (i := i + 4) (by omega) (by omega) hnext
        exact ⟨j, .inr hj, hbehind⟩
      · refine ⟨i + 4, .inr ?_, by omega⟩
        obtain ⟨fuel, rfl⟩ : ∃ f, fuel = f + 1 := ⟨fuel - 1, by omega⟩
        rw [decodeFrom]
        split
        · simp
        · split
          · simp
          · split <;> simp
    · refine ⟨i + 3, ?_, by omega⟩
      split
      · simp
      · split <;> simp

/-- **The decoder stays inside exactly the texts that are closed.** -/
theorem decodesInside_iff_closed {authData : Line} (hnul : NUL ∉ authData) :
    DecodesInside authData ↔ Closed authData := by
  constructor
  · intro h
    by_contra hclosed
    obtain ⟨j, hj, hbehind⟩ := reads_behind hnul hclosed (fun _ => NUL)
      (by omega : authData.length < authData.length + 1 + 0) rfl (Nat.zero_le _)
    exact absurd (h _ _ j hj) (by omega)
  · intro h behind fuel
    exact reads_le_of_closed h behind fuel rfl (Nat.zero_le _) (fun k hk => absurd hk (by omega))

/-! ## How many bytes decoding gives -/

/-- Three bytes at most come from the four characters of a group. -/
theorem length_bindata_le {base64 : Nat → Byte} {fuel i last : Nat} (hfuel : last < fuel + i) (hle : i ≤ last)
    (hin : ∀ j ∈ (decodeFrom base64 fuel i).reads, j ≤ last) :
    4 * (decodeFrom base64 fuel i).bindata.length ≤ 3 * (last - i) := by
  induction fuel generalizing i with
  | zero => omega
  | succ fuel ih =>
    rw [decodeFrom] at hin ⊢
    by_cases hend : base64 i = NUL
    · simp [hend]
    · simp only [hend, if_false] at hin ⊢
      have hgroup : i + 3 ≤ last := by
        refine hin (i + 3) ?_
        split
        · simp
        · split <;> simp
      by_cases h2 : base64 (i + 2) = 61
      · simp only [h2, if_true, List.length_singleton]
        omega
      · by_cases h3 : base64 (i + 3) = 61
        · simp only [h2, h3, if_true, if_false, List.length_cons, List.length_nil]
          omega
        · simp only [h2, h3, if_false, List.mem_append, List.length_append, List.length_cons, List.length_nil] at hin ⊢
          obtain ⟨fuel, rfl⟩ : ∃ f, fuel = f + 1 := ⟨fuel - 1, by omega⟩
          have hnext : i + 4 ≤ last := by
            refine hin (i + 4) (.inr ?_)
            rw [decodeFrom]
            split
            · simp
            · split
              · simp
              · split <;> simp
          have hrest := ih (by omega) hnext fun j hj => hin j (.inr hj)
          omega

theorem reads_first {base64 : Nat → Byte} {fuel i : Nat} (hfuel : fuel ≠ 0) :
    i ∈ (decodeFrom base64 fuel i).reads := by
  obtain ⟨fuel, rfl⟩ : ∃ f, fuel = f + 1 := ⟨fuel - 1, by omega⟩
  rw [decodeFrom]
  split
  · simp
  · split
    · simp
    · split <;> simp

/-- Where nothing is read behind the text, the decoder gives what `base64_decode` gives. -/
theorem base64_decode_drop {authData : Line} (hnul : NUL ∉ authData) (behind : Nat → Byte) {fuel i : Nat}
    (hfuel : authData.length < fuel + i) (hle : i ≤ authData.length)
    (hin : ∀ j ∈ (decodeFrom (cells authData behind) fuel i).reads, j ≤ authData.length) :
    base64_decode (authData.drop i) = some (decodeFrom (cells authData behind) fuel i).bindata := by
  induction fuel generalizing i with
  | zero => omega
  | succ fuel ih =>
    rw [decodeFrom] at hin ⊢
    rcases eq_or_lt_of_le hle with rfl | hlt
    · simp [cells_length, base64_decode]
    · have hgoes : cells authData behind i ≠ NUL := by
        rw [cells_of_lt hlt]
        exact fun h => hnul (h ▸ List.getElem_mem hlt)
      simp only [hgoes, if_false] at hin ⊢
      have hgroup : i + 3 ≤ authData.length := by
        refine hin (i + 3) ?_
        split
        · simp
        · split <;> simp
      have hdrop : authData.drop i = cells authData behind i :: cells authData behind (i + 1) ::
          cells authData behind (i + 2) :: authData.drop (i + 3) := by
        rw [List.drop_eq_getElem_cons hlt, List.drop_eq_getElem_cons (by omega : i + 1 < authData.length),
          List.drop_eq_getElem_cons (by omega : i + 2 < authData.length), cells_of_lt hlt, cells_of_lt, cells_of_lt]
      rcases eq_or_lt_of_le hgroup with hend | hmore
      · have hnil : authData.drop (i + 3) = [] := by rw [hend, List.drop_length]
        have h3 : cells authData behind (i + 3) ≠ 61 := by
          rw [hend, cells_length]
          decide
        by_cases h2 : cells authData behind (i + 2) = 61
        · rw [hdrop, hnil]
          simp [h2, base64_decode]
        · have hnext := hin (i + 4) (by
            simp only [h2, h3, if_false, List.mem_append]
            exact .inr (reads_first (by omega)))
          omega
      · have hlast : authData.drop (i + 3) = cells authData behind (i + 3) :: authData.drop (i + 4) := by
          rw [List.drop_eq_getElem_cons hmore, cells_of_lt hmore]
        rw [hdrop, hlast, base64_decode]
        by_cases h2 : cells authData behind (i + 2) = 61
        · simp [h2]
        · by_cases h3 : cells authData behind (i + 3) = 61
          · simp [h2, h3]
          · simp only [h2, h3, if_false, List.mem_append] at hin ⊢
            rw [ih (by omega) (by omega) fun j hj => hin j (.inr hj)]
            rfl

theorem base64_decode_of_closed {authData : Line} (hnul : NUL ∉ authData) (hclosed : Closed authData)
    (behind : Nat → Byte) {fuel : Nat} (hfuel : authData.length < fuel) :
    base64_decode authData = some (decodeText authData behind fuel).bindata :=
  base64_decode_drop hnul behind hfuel (Nat.zero_le _) ((decodesInside_iff_closed hnul).2 hclosed behind fuel)

/-! ## The requests -/

/-- What a request reads: characters of `authData`, and bytes that decoding is to give, be it directly
or through their hex text. -/
structure Reads where
  authData : List Nat
  bytes : List Nat

/-- The bytes whose hex is copied from `start` on. -/
def copiedBytes (start len : Nat) : List Nat := (List.range (2 * len)).map fun i => (start + i) / 2

/-- `requestUSimAuthentication` behind the hex text; the copies come after two allocations. -/
def usimReads (allocates : Nat → Bool) (c : Challenge) : List Nat :=
  [0, c.randLen + 1] ++
    if allocates 2 && allocates 3 then copiedBytes 2 c.randLen ++ copiedBytes (c.randLen * 2 + 4) c.autnLen else []

/-- `requestSimAuthentication` behind the hex text. -/
def simReads (allocates : Nat → Bool) (c : Challenge) : List Nat :=
  0 :: if allocates 2 then copiedBytes 2 c.randLen else []

/-- What is read of a challenge; `further` is what the request does with it. -/
def challengeReads (heap : Heap) (allocates : Nat → Bool) (authData : Line) (decoded : Decoded)
    (further : Challenge → List Nat) : Reads :=
  if !allocates 0 then { authData := [], bytes := [] }
  else if !allocates 1 then { authData := decoded.reads, bytes := [] }
  else
    { authData := decoded.reads
      -- `convertBinToHex(binAuthData, strlen(authData), hexAuthData)`
      bytes := List.range authData.length ++ further (challengeOf heap authData decoded.bindata) }

/-- The lengths in the challenge point behind what was decoded. -/
def PointsBeyond (reads : Challenge → List Nat) (c : Challenge) (bindata : List Byte) : Prop :=
  ∃ i ∈ reads c, bindata.length ≤ i

theorem mem_copiedBytes (start len i : Nat) (heven : start % 2 = 0) :
    i ∈ copiedBytes start len ↔ start / 2 ≤ i ∧ i < start / 2 + len := by
  simp only [copiedBytes, List.mem_map, List.mem_range]
  constructor
  · rintro ⟨k, hk, rfl⟩
    omega
  · rintro ⟨hle, hlt⟩
    exact ⟨2 * (i - start / 2), by omega, by omega⟩

/-- The last byte that the lengths point to. -/
theorem pointsBeyond_usimReads (c : Challenge) (bindata : List Byte) :
    PointsBeyond (usimReads fun _ => true) c bindata ↔ bindata.length ≤ c.randLen + 1 + c.autnLen := by
  have hrand (i : Nat) := mem_copiedBytes 2 c.randLen i rfl
  have hautn (i : Nat) := mem_copiedBytes (c.randLen * 2 + 4) c.autnLen i (by omega)
  simp only [PointsBeyond, usimReads, Bool.and_self, if_true, List.mem_append, List.mem_cons, List.not_mem_nil,
    or_false, hrand, hautn]
  constructor
  · rintro ⟨i, hi, hbeyond⟩
    omega
  · intro h
    exact ⟨c.randLen + 1 + c.autnLen, by omega, h⟩

theorem pointsBeyond_simReads (c : Challenge) (bindata : List Byte) :
    PointsBeyond (simReads fun _ => true) c bindata ↔ bindata.length ≤ c.randLen := by
  have hrand (i : Nat) := mem_copiedBytes 2 c.randLen i rfl
  simp only [PointsBeyond, simReads, if_true, List.mem_cons, hrand]
  constructor
  · rintro ⟨i, hi, hbeyond⟩
    omega
  · intro h
    exact ⟨c.randLen, by omega, h⟩

/-- The request fails. -/
def Fails (m : Handler Slot Empty Unit) (t : RIL_Token) (w : World Slot) : Prop :=
  wp m (fun _ w' => ∃ e, e ≠ RIL_Errno.SUCCESS ∧ w'.log.getLast? = some (.RIL_onRequestComplete t e .NULL))
    (fun _ _ => False) w

/-- Whatever lies in memory, the request reads characters of the text and bytes that were decoded, and
fails where the lengths among these point beyond them. -/
def Harmless (reads : (Nat → Bool) → Challenge → List Nat)
    (request : Heap → Line → RIL_Token → Handler Slot Empty Unit) (authData : Line) (t : RIL_Token)
    (w : World Slot) : Prop :=
  ∀ heap behind, ∀ fuel > authData.length,
    let decoded := decodeText authData behind fuel
    let r := challengeReads heap w.allocates authData decoded (reads w.allocates)
    (∀ i ∈ r.authData, i ≤ authData.length) ∧ (∀ i ∈ r.bytes, i < decoded.bindata.length) ∧
      (PointsBeyond (reads fun _ => true) (challengeOf heap authData decoded.bindata) decoded.bindata →
        Fails (request heap authData t) t w)

/-- Bytes that were not decoded are read, unless an allocation fails before that. -/
theorem harmless_iff {reads : (Nat → Bool) → Challenge → List Nat}
    {request : Heap → Line → RIL_Token → Handler Slot Empty Unit} {authData : Line} (hnul : NUL ∉ authData)
    {t : RIL_Token} {w : World Slot} (hzero : ∀ allocates c, 0 ∈ reads allocates c)
    (hfails : ∀ heap, w.allocates 0 = false ∨ w.allocates 1 = false ∧ base64_decode authData ≠ none →
      Fails (request heap authData t) t w) :
    Harmless reads request authData t w ↔ w.allocates 0 = false ∨ w.allocates 1 = false ∧ Closed authData := by
  constructor
  · intro h
    rcases hfirst : w.allocates 0 with _ | _
    · exact .inl rfl
    · refine .inr ?_
      have hreads : ∀ behind, ∀ fuel > authData.length,
          ∀ i ∈ (decodeText authData behind fuel).reads, i ≤ authData.length := by
        intro behind fuel hfuel
        obtain ⟨hin, -, -⟩ := h ⟨fun _ => 0, fun _ => 0⟩ behind fuel hfuel
        rcases hsecond : w.allocates 1 with _ | _
        · simpa [challengeReads, hfirst, hsecond] using hin
        · simpa [challengeReads, hfirst, hsecond] using hin
      have hclosed : Closed authData := by
        by_contra hopen
        obtain ⟨j, hj, hbehind⟩ := reads_behind hnul hopen (fun _ => NUL)
          (by omega : authData.length < authData.length + 1 + 0) rfl (Nat.zero_le _)
        exact absurd (hreads _ _ (by omega) j hj) (by omega)
      rcases hsecond : w.allocates 1 with _ | _
      · exact ⟨rfl, hclosed⟩
      · obtain ⟨-, hbytes, -⟩ := h ⟨fun _ => 0, fun _ => 0⟩ (fun _ => 0) (authData.length + 1) (by omega)
        have hlength := length_bindata_le (by omega : authData.length < authData.length + 1 + 0) (Nat.zero_le _)
          (hreads (fun _ => 0) _ (by omega))
        simp only [challengeReads, hfirst, hsecond, Bool.not_true, Bool.false_eq_true, if_false, List.mem_append,
          List.mem_range] at hbytes
        have h0 := hbytes 0 (.inr (hzero _ _))
        have hlast := hbytes (authData.length - 1)
        simp only [decodeText] at h0 hlast
        omega
  · intro h heap behind fuel hfuel
    have hdecode : Closed authData → base64_decode authData ≠ none := by
      intro hclosed
      rw [base64_decode_of_closed hnul hclosed behind hfuel]
      simp
    refine ⟨?_, ?_, fun _ => hfails heap (h.imp_right fun h => ⟨h.1, hdecode h.2⟩)⟩
    · rcases h with hfirst | ⟨hsecond, hclosed⟩
      · simp [challengeReads, hfirst]
      · have hin := (decodesInside_iff_closed hnul).2 hclosed behind fuel
        rcases hfirst : w.allocates 0 with _ | _
        · simp [challengeReads, hfirst]
        · simpa [challengeReads, hfirst, hsecond] using hin
    · rcases h with hfirst | ⟨hsecond, -⟩
      · simp [challengeReads, hfirst]
      · rcases hfirst : w.allocates 0 with _ | _
        · simp [challengeReads, hfirst]
        · simp [challengeReads, hfirst, hsecond]

section

variable {authData : Line} (heap : Heap) {t : RIL_Token} {w : World Slot}
  (h : w.allocates 0 = false ∨ w.allocates 1 = false ∧ base64_decode authData ≠ none)

include h

theorem fails_requestUSimAuthentication : Fails (requestUSimAuthentication heap authData t) t w := by
  rcases h with hfirst | ⟨hsecond, hdecode⟩
  · simp [Fails, requestUSimAuthentication, challenge, failAuthentication, hfirst]
  · simp [Fails, requestUSimAuthentication, challenge, failAuthentication, hsecond, hdecode]

theorem fails_requestSimAuthentication : Fails (requestSimAuthentication heap authData t) t w := by
  rcases h with hfirst | ⟨hsecond, hdecode⟩
  · simp [Fails, requestSimAuthentication, challenge, failAuthentication, hfirst]
  · simp [Fails, requestSimAuthentication, challenge, failAuthentication, hsecond, hdecode]

end

/-- **When a challenge is harmless**: the decoder stays inside closed texts, and the requests read bytes
that were not decoded as soon as they have their memory. -/
theorem harmless_iff_memoryRunsOut {authData : Line} (hnul : NUL ∉ authData) (t : RIL_Token) (w : World Slot) :
    (DecodesInside authData ↔ Closed authData) ∧
      (Harmless usimReads requestUSimAuthentication authData t w ↔
        w.allocates 0 = false ∨ w.allocates 1 = false ∧ Closed authData) ∧
      (Harmless simReads requestSimAuthentication authData t w ↔
        w.allocates 0 = false ∨ w.allocates 1 = false ∧ Closed authData) := by
  refine ⟨decodesInside_iff_closed hnul, ?_, ?_⟩
  · exact harmless_iff hnul (fun _ _ => List.mem_cons_self) fun heap h => fails_requestUSimAuthentication heap h
  · exact harmless_iff hnul (fun _ _ => List.mem_cons_self) fun heap h => fails_requestSimAuthentication heap h

theorem harmless_iff_memoryRunsOut_whole : DecodesInside (ascii "AQ==") :=
  (harmless_iff_memoryRunsOut (by decide) none
    (.start (fun _ => .failed) (fun _ => true) idleSlot)).1.2 (by decide)

/-- A group of two characters, and a byte that counts 255 where none follows. -/
theorem harmless_fails_short :
    ¬ DecodesInside (ascii "AQ") ∧
      ¬ Harmless usimReads requestUSimAuthentication (ascii "/w==") (some 1)
        (.start (fun _ => .failed) (fun _ => true) idleSlot) ∧
      ¬ Harmless simReads requestSimAuthentication (ascii "/w==") (some 1)
        (.start (fun _ => .failed) (fun _ => true) idleSlot) := by
  refine ⟨?_, ?_, ?_⟩
  · intro h
    exact absurd (h (fun _ => 0) 3 3 (by decide)) (by decide)
  · intro h
    obtain ⟨-, hbytes, -⟩ := h ⟨fun _ => 0, fun _ => 0⟩ (fun _ => 0) 5 (by decide)
    exact absurd (hbytes 255 (by decide +kernel)) (by decide +kernel)
  · intro h
    obtain ⟨-, hbytes, -⟩ := h ⟨fun _ => 0, fun _ => 0⟩ (fun _ => 0) 5 (by decide)
    exact absurd (hbytes 255 (by decide +kernel)) (by decide +kernel)

end UniRil.Sim
