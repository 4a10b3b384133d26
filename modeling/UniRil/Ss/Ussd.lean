import UniRil.Hex
import UniRil.Stk.Elements

/-!
# USSD texts (the `+CUSD:` branch of `processSSUnsolicited`, ril_ss.c)

The payload of a line is hex for GSM 7-bit characters, one in each octet, or for UCS-2 units. It goes through
two buffers of one size: the octets into `tmpStr`, the UTF-8 text into `utf8Str`.
-/

namespace UniRil.Ss

open AtTok
open Stk.Elements (utf8Package ARRAY_SIZE)

/-! ## The converters (ril_utils.c) -/

def gsm7ToUnicodeTable : List Nat :=
  [64, 0xa3, 36, 0xa5, 0xe8, 0xe9, 0xf9, 0xec, 0xf2, 0xc7, 10, 0xd8, 0xf8, 13, 0xc5, 0xe5,
    0x394, 95, 0x3a6, 0x393, 0x39b, 0x3a9, 0x3a0, 0x3a8, 0x3a3, 0x398, 0x39e, 0, 0xc6, 0xe6, 0xdf, 0xc9,
    32, 33, 34, 35, 0xa4, 37, 38, 39, 40, 41, 42, 43, 44, 45, 46, 47,
    48, 49, 50, 51, 52, 53, 54, 55, 56, 57, 58, 59, 60, 61, 62, 63,
    0xa1, 65, 66, 67, 68, 69, 70, 71, 72, 73, 74, 75, 76, 77, 78, 79,
    80, 81, 82, 83, 84, 85, 86, 87, 88, 89, 90, 0xc4, 0xd6, 0x147, 0xdc, 0xa7,
    0xbf, 97, 98, 99, 100, 101, 102, 103, 104, 105, 106, 107, 108, 109, 110, 111,
    112, 113, 114, 115, 116, 117, 118, 119, 120, 121, 122, 0xe4, 0xf6, 0xf1, 0xfc, 0xe0]

def gsm7ExtendToUnicodeTable : List Nat :=
  [0, 0, 0, 0, 0, 0, 0, 0, 0, 0, 12, 0, 0, 0, 0, 0,
    0, 0, 0, 0, 94, 0, 0, 0, 0, 0, 0, 0, 0, 0, 0, 0,
    0, 0, 0, 0, 0, 0, 0, 0, 123, 125, 0, 0, 0, 0, 0, 92,
    0, 0, 0, 0, 0, 0, 0, 0, 0, 0, 0, 0, 91, 126, 93, 0,
    124, 0, 0, 0, 0, 0, 0, 0, 0, 0, 0, 0, 0, 0, 0, 0,
    0, 0, 0, 0, 0, 0, 0, 0, 0, 0, 0, 0, 0, 0, 0, 0,
    0, 0, 0, 0, 0, 0x20ac, 0, 0, 0, 0, 0, 0, 0, 0, 0, 0,
    0, 0, 0, 0, 0, 0, 0, 0, 0, 0, 0, 0, 0, 0, 0, 0]

/-- `gsm7bits[0] & 0x7f` -/
def septet (b : Byte) : Nat := b.toNat &&& 0x7f

/-- What is stored for the octets, by `escaped`. -/
def convertGsm7ToUtf8 : Bool → List Byte → List Byte
  | _, [] => []
  | true, b :: gsm7bits => utf8Package (gsm7ExtendToUnicodeTable.getD (septet b) 0) ++ convertGsm7ToUtf8 false gsm7bits
  | false, b :: gsm7bits =>
    if septet b = 0x1b then convertGsm7ToUtf8 true gsm7bits
    else utf8Package (gsm7ToUnicodeTable.getD (septet b) 0) ++ convertGsm7ToUtf8 false gsm7bits

/-- What is stored for `len` units, from their `2 * len` octets. -/
def convertUcs2ToUtf8 : List Byte → List Byte
  | b :: b' :: ucs2 => utf8Package (b.toNat <<< 8 ||| b'.toNat) ++ convertUcs2ToUtf8 ucs2
  | _ => []

/-! ## The buffers -/

/-- The size of `tmpStr` and of `utf8Str`. -/
def bufSize : Nat := ARRAY_SIZE * 8

/-- A zeroed buffer after stores from its beginning on; `none` when they go beyond its end. -/
def stored (bytes : List Byte) : Option (List Byte) :=
  if bytes.length ≤ bufSize then some (bytes ++ List.replicate (bufSize - bytes.length) 0) else none

/-- The first cells of a buffer; `none` when it has not so many. -/
def readCells (buf : List Byte) (count : Nat) : Option (List Byte) :=
  if count ≤ buf.length then some (buf.take count) else none

/-- `utf8Str` after the conversion; `none` when memory is violated. -/
def convertText (hexStr dcs : Line) : Option (List Byte) := do
  let tmpStr ← stored (convertHexToBin hexStr).2
  if dcs = ascii "15" then
    let gsm7bits ← readCells tmpStr (hexStr.length / 2)
    stored (convertGsm7ToUtf8 false gsm7bits)
  else if dcs = ascii "72" then
    -- the length in octets is taken for the number of units
    let ucs2 ← readCells tmpStr (2 * (hexStr.length / 2))
    stored (convertUcs2ToUtf8 ucs2)
  else
    stored []

/-! ## The line -/

/-- What is found in a line. -/
inductive Cusd
  /-- `goto out` -/
  | invalid
  | noText (code : Line)
  | text (code hexStr dcs : Line)

def readCUSD (s : Line) : Cusd :=
  let code := at_tok_nextstr (at_tok_start (some s))
  match code.value with
  | none => .invalid
  | some response =>
    let hexStr := at_tok_nextstr code.p_cur
    match hexStr.value with
    | none => .noText response
    | some hex =>
      match (at_tok_nextstr hexStr.p_cur).value with
      | none => .invalid
      | some dcs => .text response hex dcs

/-- The globals of a SIM. -/
structure UssdState where
  s_ussdRun : Bool
  s_ussdError : Bool

/-- `response[0]`, and the cells from `response[1]` on. -/
structure UssdResponse where
  code : Line
  text : Option (List Byte)

/-- The response, if there is one, and the globals; `none` when memory is violated. -/
def processCUSD (w : UssdState) (s : Line) : Option (Option UssdResponse × UssdState) :=
  let w := { w with s_ussdRun := false }
  match readCUSD s with
  | .invalid => some (none, w)
  | .noText code =>
    if w.s_ussdError then
      some (some { code := ascii "4", text := some [NUL] }, { w with s_ussdError := false })
    else
      some (some { code := code, text := none }, w)
  | .text code hexStr dcs =>
    (convertText hexStr dcs).map fun utf8Str =>
      (some { code := if code = ascii "2" then ascii "0" else code, text := some utf8Str }, w)

/-! ## The characters of a payload -/

def gsm7Chars : List Byte → List Nat
  | [] => []
  | [b] => if septet b = 0x1b then [] else [gsm7ToUnicodeTable.getD (septet b) 0]
  | b :: b' :: octets =>
    if septet b = 0x1b then gsm7ExtendToUnicodeTable.getD (septet b') 0 :: gsm7Chars octets
    else gsm7ToUnicodeTable.getD (septet b) 0 :: gsm7Chars (b' :: octets)

def ucs2Units : List Byte → List Nat
  | b :: b' :: octets => (b.toNat <<< 8 ||| b'.toNat) :: ucs2Units octets
  | _ => []

/-- Bytes that a character takes in UTF-8, up to U+FFFF. -/
def utf8Size (v : Nat) : Nat := if v < 128 then 1 else if v < 0x800 then 2 else 3

theorem convertGsm7ToUtf8_eq (octets : List Byte) :
    convertGsm7ToUtf8 false octets = (gsm7Chars octets).flatMap utf8Package := by
  induction octets using gsm7Chars.induct with
  | case1 => rfl
  | case2 b hescape => simp [convertGsm7ToUtf8, gsm7Chars, hescape]
  | case3 b hother => simp [convertGsm7ToUtf8, gsm7Chars, hother]
  | case4 b b' octets hescape ih => simp [convertGsm7ToUtf8, gsm7Chars, hescape, ih]
  | case5 b b' octets hother ih =>
    rw [convertGsm7ToUtf8, if_neg hother, ih, gsm7Chars, if_neg hother, List.flatMap_cons]

theorem convertUcs2ToUtf8_eq (octets : List Byte) :
    convertUcs2ToUtf8 octets = (ucs2Units octets).flatMap utf8Package := by
  induction octets using ucs2Units.induct with
  | case1 b b' octets ih => rw [convertUcs2ToUtf8, ih, ucs2Units, List.flatMap_cons]
  | case2 octets hshort => rw [convertUcs2ToUtf8, ucs2Units, List.flatMap_nil] <;> exact hshort

/-! ## Characters of the text -/

theorem and_lt {v n : Nat} (h : n < 64) : v &&& n < 64 := lt_of_le_of_lt Nat.and_le_right h

theorem shiftRight_lt {v k n : Nat} (h : v < n * 2 ^ k) : v >>> k < n := by
  rw [Nat.shiftRight_eq_div_pow]
  exact Nat.div_lt_of_lt_mul (by rwa [Nat.mul_comm] at h)

theorem length_utf8Package {v : Nat} (h : v < 0x10000) : (utf8Package v).length = utf8Size v := by
  unfold utf8Package utf8Size
  split
  · rfl
  · split
    · rfl
    · rfl

/-- Only the character 0 makes a NUL. -/
theorem nul_notMem_utf8Package {v : Nat} (hpos : v ≠ 0) (h : v < 0x10000) : NUL ∉ utf8Package v := by
  have htail : ∀ n < 64, NUL ≠ UInt8.ofNat (0x80 ||| n) := by decide
  have hlead2 : ∀ n < 32, NUL ≠ UInt8.ofNat (0xc0 ||| n) := by decide
  have hlead3 : ∀ n < 16, NUL ≠ UInt8.ofNat (0xe0 ||| n) := by decide
  unfold utf8Package
  split
  · rename_i hascii
    rw [List.mem_singleton, ← UInt8.toNat_inj, UInt8.toNat_ofNat']
    have hmod : v % 2 ^ 8 = v := Nat.mod_eq_of_lt (by omega)
    rw [hmod]
    exact fun heq => hpos heq.symm
  · split
    · rename_i htwo
      simp only [List.mem_cons, List.not_mem_nil, or_false, not_or]
      exact ⟨hlead2 _ (shiftRight_lt (by omega)), htail _ (and_lt (by decide))⟩
    · simp only [List.mem_cons, List.not_mem_nil, or_false, not_or]
      exact ⟨hlead3 _ (shiftRight_lt (by omega)), htail _ (and_lt (by decide)), htail _ (and_lt (by decide))⟩

/-- Characters that fit two octets. -/
def Basic (chars : List Nat) : Prop := ∀ v ∈ chars, v < 0x10000

theorem nul_mem_text_iff {chars : List Nat} (h : Basic chars) : NUL ∈ chars.flatMap utf8Package ↔ 0 ∈ chars := by
  constructor
  · intro hmem
    obtain ⟨v, hv, hnul⟩ := List.mem_flatMap.1 hmem
    by_cases hzero : v = 0
    · rwa [hzero] at hv
    · exact absurd hnul (nul_notMem_utf8Package hzero (h v hv))
  · intro hmem
    exact List.mem_flatMap.2 ⟨0, hmem, List.mem_singleton.2 rfl⟩

theorem length_text {chars : List Nat} (h : Basic chars) :
    (chars.flatMap utf8Package).length = (chars.map utf8Size).sum := by
  rw [List.length_flatMap]
  congr 1
  exact List.map_congr_left fun v hv => length_utf8Package (h v hv)

set_option maxRecDepth 10000 in
theorem gsm7Chars_basic (octets : List Byte) : Basic (gsm7Chars octets) := by
  have hget (table : List Nat) (htable : ∀ v ∈ table, v < 0x10000) (k : Nat) : table.getD k 0 < 0x10000 := by
    rw [List.getD_eq_getElem?_getD]
    cases hk : table[k]? with
    | none => decide
    | some v => exact htable v (List.mem_of_getElem? hk)
  have hbasic : ∀ v ∈ gsm7ToUnicodeTable, v < 0x10000 := by decide
  have hextend : ∀ v ∈ gsm7ExtendToUnicodeTable, v < 0x10000 := by decide
  intro v hv
  induction octets using gsm7Chars.induct with
  | case1 => simp [gsm7Chars] at hv
  | case2 b hescape => simp [gsm7Chars, hescape] at hv
  | case3 b hother =>
    rw [gsm7Chars, if_neg hother, List.mem_singleton] at hv
    rw [hv]
    exact hget _ hbasic _
  | case4 b b' octets hescape ih =>
    rw [gsm7Chars, if_pos hescape, List.mem_cons] at hv
    rcases hv with rfl | hv
    · exact hget _ hextend _
    · exact ih hv
  | case5 b b' octets hother ih =>
    rw [gsm7Chars, if_neg hother, List.mem_cons] at hv
    rcases hv with rfl | hv
    · exact hget _ hbasic _
    · exact ih hv

theorem ucs2Unit_lt (b b' : Byte) : b.toNat <<< 8 ||| b'.toNat < 0x10000 := by
  have hb := b.toNat_lt
  have hb' := b'.toNat_lt
  exact Nat.or_lt_two_pow (n := 16) (by rw [Nat.shiftLeft_eq]; omega) (by omega)

theorem ucs2Units_basic (octets : List Byte) : Basic (ucs2Units octets) := by
  intro v hv
  induction octets using ucs2Units.induct with
  | case1 b b' octets ih =>
    rw [ucs2Units, List.mem_cons] at hv
    rcases hv with rfl | hv
    · exact ucs2Unit_lt b b'
    · exact ih hv
  | case2 octets hshort =>
    rw [ucs2Units] at hv
    · cases hv
    · exact hshort

/-! ## Buffers -/

theorem stored_eq_some_iff {bytes buf : List Byte} :
    stored bytes = some buf ↔
      bytes.length ≤ bufSize ∧ buf = bytes ++ List.replicate (bufSize - bytes.length) 0 := by
  unfold stored
  split
  · rename_i hle
    rw [Option.some_inj]
    exact ⟨fun heq => ⟨hle, heq.symm⟩, fun h => h.2.symm⟩
  · rename_i hlt
    constructor
    · intro h
      cases h
    · exact fun h => absurd h.1 hlt

theorem readCells_stored {bytes : List Byte} (h : bytes.length ≤ bufSize) (count : Nat) :
    readCells (bytes ++ List.replicate (bufSize - bytes.length) 0) count =
      if count ≤ bufSize then some ((bytes ++ List.replicate (bufSize - bytes.length) 0).take count) else none := by
  have hlen : (bytes ++ List.replicate (bufSize - bytes.length) 0).length = bufSize := by
    rw [List.length_append, List.length_replicate]
    omega
  rw [readCells, hlen]

/-- The buffer holds a text with its NUL, and the text is these characters. -/
def Holds (chars : List Nat) (utf8Str : Option (List Byte)) : Prop :=
  ∃ cells, utf8Str = some cells ∧ NUL ∈ cells ∧ cstr cells = chars.flatMap utf8Package

/-- The characters that were stored are the whole text: none is 0, and there is room for the NUL. -/
theorem holds_stored_iff {chars : List Nat} (h : Basic chars) :
    Holds chars (stored (chars.flatMap utf8Package)) ↔ 0 ∉ chars ∧ (chars.map utf8Size).sum < bufSize := by
  constructor
  · rintro ⟨cells, hstored, hnul, htext⟩
    obtain ⟨hle, rfl⟩ := stored_eq_some_iff.1 hstored
    have hzero : 0 ∉ chars := by
      intro hmem
      have hnot := nul_notMem_cstr (chars.flatMap utf8Package ++
        List.replicate (bufSize - (chars.flatMap utf8Package).length) 0)
      rw [htext, nul_mem_text_iff h] at hnot
      exact hnot hmem
    refine ⟨hzero, ?_⟩
    rcases List.mem_append.1 hnul with hmem | hmem
    · exact absurd ((nul_mem_text_iff h).1 hmem) hzero
    · have hpos := (List.mem_replicate.1 hmem).1
      rw [length_text h] at hpos
      omega
  · rintro ⟨hzero, hroom⟩
    have hnul : NUL ∉ chars.flatMap utf8Package := fun hmem => hzero ((nul_mem_text_iff h).1 hmem)
    have hlen := length_text h
    obtain ⟨k, hk⟩ := Nat.exists_eq_succ_of_ne_zero (by omega : bufSize - (chars.flatMap utf8Package).length ≠ 0)
    refine ⟨_, stored_eq_some_iff.2 ⟨by omega, rfl⟩, ?_, ?_⟩
    · exact List.mem_append_right _ (List.mem_replicate.2 ⟨by omega, rfl⟩)
    · rw [hk, List.replicate_succ]
      exact cstr_append_nul hnul _

/-! ## UCS-2 units, and what is read behind them -/

theorem length_ucs2Units (octets : List Byte) : (ucs2Units octets).length = octets.length / 2 := by
  induction octets using ucs2Units.induct with
  | case1 b b' octets ih =>
    rw [ucs2Units, List.length_cons, ih, List.length_cons, List.length_cons]
    omega
  | case2 octets hshort =>
    rw [ucs2Units]
    · rcases octets with _ | ⟨b, _ | ⟨b', octets⟩⟩
      · rfl
      · simp
      · exact (hshort b b' octets rfl).elim
    · exact hshort

theorem ucs2Units_append {octets : List Byte} (heven : octets.length % 2 = 0) (more : List Byte) :
    ucs2Units (octets ++ more) = ucs2Units octets ++ ucs2Units more := by
  induction octets using ucs2Units.induct with
  | case1 b b' octets ih =>
    have hrest := ih (by rw [List.length_cons, List.length_cons] at heven; omega)
    rw [ucs2Units, List.cons_append, List.cons_append, ucs2Units, hrest, List.cons_append]
  | case2 octets hshort =>
    rcases octets with _ | ⟨b, _ | ⟨b', octets⟩⟩
    · rfl
    · simp at heven
    · exact (hshort b b' octets rfl).elim

theorem ucs2Units_zeros (k : Nat) : ucs2Units (List.replicate k 0) = List.replicate (k / 2) 0 := by
  induction k using Nat.strongRecOn with
  | ind k ih =>
    match k with
    | 0 => rfl
    | 1 => rfl
    | k + 2 =>
      have hhalf : (k + 2) / 2 = k / 2 + 1 := by omega
      rw [List.replicate_succ, List.replicate_succ, ucs2Units, ih k (by omega), hhalf, List.replicate_succ]
      rfl

theorem text_zeros (k : Nat) : (List.replicate k 0).flatMap utf8Package = List.replicate k NUL := by
  induction k with
  | zero => rfl
  | succ k ih =>
    rw [List.replicate_succ, List.flatMap_cons, ih, List.replicate_succ]
    rfl

/-- NULs at the end of what is stored make no difference. -/
theorem stored_append_zeros {bytes : List Byte} {k : Nat} (h : bytes.length + k ≤ bufSize) :
    stored (bytes ++ List.replicate k NUL) = stored bytes := by
  rw [stored, stored, if_pos (by rw [List.length_append, List.length_replicate]; exact h), if_pos (by omega),
    List.append_assoc, List.length_append, List.length_replicate]
  have hzeros : List.replicate k NUL ++ List.replicate (bufSize - (bytes.length + k)) 0 =
      List.replicate (bufSize - bytes.length) 0 := by
    rw [show NUL = 0 from rfl, List.replicate_append_replicate]
    congr 1
    omega
  rw [hzeros]

theorem sum_utf8Size_le (chars : List Nat) : (chars.map utf8Size).sum ≤ 3 * chars.length := by
  induction chars with
  | nil => simp
  | cons v chars ih =>
    have hle : utf8Size v ≤ 3 := by
      unfold utf8Size
      split
      · decide
      · split
        · decide
        · exact le_refl 3
    rw [List.map_cons, List.sum_cons, List.length_cons]
    omega

/-- The units that are read: those of the payload, the one that an odd octet makes with the NUL behind it, and
zeros. -/
theorem ucs2Units_read (octets : List Byte) :
    (octets.length % 2 = 0 ∧
        ucs2Units (octets ++ List.replicate octets.length 0) =
          ucs2Units octets ++ List.replicate (octets.length / 2) 0) ∨
      ∃ b, octets.length % 2 = 1 ∧ octets.getLast? = some b ∧
        ucs2Units (octets ++ List.replicate octets.length 0) =
          ucs2Units octets ++ (b.toNat <<< 8) :: List.replicate (octets.length / 2) 0 := by
  rcases Nat.mod_two_eq_zero_or_one octets.length with heven | hodd
  · exact .inl ⟨heven, by rw [ucs2Units_append heven, ucs2Units_zeros]⟩
  · rcases List.eq_nil_or_concat octets with rfl | ⟨init, b, heq⟩
    · cases hodd
    · rw [List.concat_eq_append] at heq
      subst heq
      rw [List.length_append, List.length_singleton] at hodd
      have heven : init.length % 2 = 0 := by omega
      have hhalf : (init.length + 1) / 2 = init.length / 2 := by omega
      refine .inr ⟨b, ?_, List.getLast?_concat, ?_⟩
      · rw [List.length_append, List.length_singleton]
        exact hodd
      · have hone : ucs2Units [b] = [] := rfl
        rw [List.length_append, List.length_singleton, List.append_assoc, ucs2Units_append heven,
          ucs2Units_append heven, List.replicate_succ, List.singleton_append, ucs2Units, ucs2Units_zeros, hhalf, hone,
          List.append_nil]
        simp

/-! ## A payload of either kind -/

section

variable {hexStr : Line} {octets : List Byte}

theorem convertText_gsm7 (h : convertHexToBin hexStr = (true, octets)) :
    convertText hexStr (ascii "15") =
      if octets.length ≤ bufSize then stored ((gsm7Chars octets).flatMap utf8Package) else none := by
  have hlen : hexStr.length / 2 = octets.length := by
    have hdouble := length_of_convertHexToBin h
    omega
  have hsteps : convertText hexStr (ascii "15") =
      (stored octets).bind fun tmpStr =>
        (readCells tmpStr octets.length).bind fun gsm7bits => stored (convertGsm7ToUtf8 false gsm7bits) := by
    rw [convertText, h, hlen]
    rfl
  rw [hsteps]
  split
  · rename_i hle
    rw [stored, if_pos hle, Option.bind_some, readCells_stored hle, if_pos hle, Option.bind_some, List.take_left,
      convertGsm7ToUtf8_eq]
  · rename_i hgt
    rw [stored, if_neg hgt, Option.bind_none]

theorem convertText_ucs2 (h : convertHexToBin hexStr = (true, octets)) :
    convertText hexStr (ascii "72") =
      if 2 * octets.length ≤ bufSize then
        stored ((ucs2Units (octets ++ List.replicate octets.length 0)).flatMap utf8Package)
      else none := by
  have hlen : hexStr.length / 2 = octets.length := by
    have hdouble := length_of_convertHexToBin h
    omega
  have hsteps : convertText hexStr (ascii "72") =
      (stored octets).bind fun tmpStr =>
        (readCells tmpStr (2 * octets.length)).bind fun ucs2 => stored (convertUcs2ToUtf8 ucs2) := by
    rw [convertText, h, hlen]
    rfl
  rw [hsteps]
  by_cases hle : octets.length ≤ bufSize
  · rw [stored, if_pos hle, Option.bind_some, readCells_stored hle]
    split
    · rename_i hroom
      have htake : (octets ++ List.replicate (bufSize - octets.length) 0).take (2 * octets.length) =
          octets ++ List.replicate octets.length 0 := by
        rw [List.take_append, List.take_of_length_le (by omega), List.take_replicate]
        congr 2
        omega
      rw [htake, Option.bind_some, convertUcs2ToUtf8_eq]
    · rfl
  · rw [stored, if_neg hle, Option.bind_none, if_neg (by omega)]

/-- A payload of 7-bit characters. -/
theorem holds_gsm7_iff (h : convertHexToBin hexStr = (true, octets)) :
    Holds (gsm7Chars octets) (convertText hexStr (ascii "15")) ↔
      octets.length ≤ bufSize ∧ 0 ∉ gsm7Chars octets ∧ ((gsm7Chars octets).map utf8Size).sum < bufSize := by
  rw [convertText_gsm7 h]
  split
  · rename_i hle
    rw [holds_stored_iff (gsm7Chars_basic octets)]
    exact (and_iff_right hle).symm
  · rename_i hgt
    constructor
    · rintro ⟨cells, hnone, -⟩
      cases hnone
    · exact fun hfits => absurd hfits.1 hgt

/-- The unit that an odd octet makes is in the text. -/
theorem not_holds_more {chars : List Nat} {v : Nat} (hv : v ≠ 0) (hlt : v < 0x10000) (more : List Nat) :
    ¬Holds chars (stored ((chars ++ v :: more).flatMap utf8Package)) := by
  rintro ⟨cells, hstored, -, htext⟩
  obtain ⟨-, rfl⟩ := stored_eq_some_iff.1 hstored
  have hnul : NUL ∉ chars.flatMap utf8Package := by
    rw [← htext]
    exact nul_notMem_cstr _
  have hmore := nul_notMem_utf8Package hv hlt
  have hpos : ∀ b ∈ chars.flatMap utf8Package ++ utf8Package v, (b != NUL) = true := by
    intro b hb
    rcases List.mem_append.1 hb with hb | hb
    · simpa using ne_of_mem_of_not_mem hb hnul
    · simpa using ne_of_mem_of_not_mem hb hmore
  rw [List.flatMap_append, List.flatMap_cons, cstr, ← List.append_assoc (chars.flatMap utf8Package),
    List.append_assoc _ _ (List.replicate _ 0), List.takeWhile_append_of_pos hpos] at htext
  have hlen := congrArg List.length htext
  have hsize := length_utf8Package hlt
  have hone : 1 ≤ utf8Size v := by
    unfold utf8Size
    split
    · exact le_refl 1
    · split
      · decide
      · decide
  simp only [List.length_append] at hlen
  omega

/-- A payload of UCS-2 units. -/
theorem holds_ucs2_iff (h : convertHexToBin hexStr = (true, octets)) :
    Holds (ucs2Units octets) (convertText hexStr (ascii "72")) ↔
      2 * octets.length ≤ bufSize ∧ 0 ∉ ucs2Units octets ∧
        (octets.length % 2 = 0 ∨ octets.getLast? = some 0) := by
  have hhalf := length_ucs2Units octets
  have hsize := sum_utf8Size_le (ucs2Units octets)
  have hlength := length_text (ucs2Units_basic octets)
  rw [convertText_ucs2 h]
  split
  · rename_i hroom
    have hzeros {k : Nat} (hk : k ≤ octets.length - octets.length / 2) :
        stored ((ucs2Units octets ++ List.replicate k 0).flatMap utf8Package) =
          stored ((ucs2Units octets).flatMap utf8Package) := by
      rw [List.flatMap_append, text_zeros]
      exact stored_append_zeros (by omega)
    have hfits : ((ucs2Units octets).map utf8Size).sum < bufSize := by
      unfold bufSize ARRAY_SIZE at hroom ⊢
      omega
    rcases ucs2Units_read octets with ⟨heven, hunits⟩ | ⟨b, hodd, hlast, hunits⟩
    · rw [hunits, hzeros (by omega), holds_stored_iff (ucs2Units_basic octets)]
      simp [hroom, hfits, heven]
    · rw [hunits]
      by_cases hb : b = 0
      · subst hb
        have hzero : (0 : Byte).toNat <<< 8 :: List.replicate (octets.length / 2) 0 =
            List.replicate (octets.length / 2 + 1) 0 := rfl
        rw [hzero, hzeros (by omega), holds_stored_iff (ucs2Units_basic octets)]
        simp [hroom, hfits, hlast]
      · have hne : b.toNat <<< 8 ≠ 0 := by
          rw [Nat.shiftLeft_eq]
          intro hmul
          rcases Nat.mul_eq_zero.1 hmul with hzero | hzero
          · exact hb (UInt8.toNat_inj.1 hzero)
          · cases hzero
        have hlt : b.toNat <<< 8 < 0x10000 := by
          have hbyte := b.toNat_lt
          rw [Nat.shiftLeft_eq]
          omega
        constructor
        · exact fun hholds => absurd hholds (not_holds_more hne hlt _)
        · rintro ⟨-, -, heven | hnul⟩
          · omega
          · exact absurd (Option.some.inj (hlast.symm.trans hnul)) hb
  · rename_i hroom
    constructor
    · rintro ⟨cells, hnone, -⟩
      cases hnone
    · exact fun hfits => absurd hfits.1 hroom

end

/-! ## Is the text whole? -/

/-- The octets that the digits are for. -/
def payload (hexStr : Line) : List Byte := (convertHexToBin hexStr).2

/-- A character for each 7-bit character, each pair with an escape and each unit. -/
def payloadChars (dcs : Line) (octets : List Byte) : List Nat :=
  if dcs = ascii "15" then gsm7Chars octets else ucs2Units octets

/-- No memory is violated, and the text that goes out is these characters. -/
def UssdWhole (w : UssdState) (s : Line) (chars : List Nat) : Prop :=
  ∃ response w', processCUSD w s = some (some response, w') ∧ Holds chars response.text

/-- There is room for the octets and the text, and no character is 0. Units are read for all the octets of a
payload, not for half of them, so an odd one behind the units has to be 0. -/
def UssdFits (dcs : Line) (octets : List Byte) : Prop :=
  if dcs = ascii "15" then
    octets.length ≤ bufSize ∧ 0 ∉ gsm7Chars octets ∧ ((gsm7Chars octets).map utf8Size).sum < bufSize
  else
    2 * octets.length ≤ bufSize ∧ 0 ∉ ucs2Units octets ∧ (octets.length % 2 = 0 ∨ octets.getLast? = some 0)

instance (dcs : Line) (octets : List Byte) : Decidable (UssdFits dcs octets) :=
  inferInstanceAs (Decidable (if dcs = ascii "15" then _ else _))

theorem ussdWhole_iff_holds (w : UssdState) {s code hexStr dcs : Line} (hline : readCUSD s = .text code hexStr dcs)
    (chars : List Nat) : UssdWhole w s chars ↔ Holds chars (convertText hexStr dcs) := by
  constructor
  · rintro ⟨response, w', hprocess, hholds⟩
    rw [processCUSD, hline] at hprocess
    obtain ⟨utf8Str, hconvert, heq⟩ := Option.map_eq_some_iff.1 hprocess
    obtain rfl := Option.some.inj (Prod.mk.inj heq).1
    rwa [hconvert]
  · rintro ⟨cells, hconvert, hnul, htext⟩
    refine ⟨{ code := if code = ascii "2" then ascii "0" else code, text := some cells },
      { w with s_ussdRun := false }, ?_, cells, rfl, hnul, htext⟩
    rw [processCUSD, hline]
    dsimp only
    rw [hconvert]
    rfl

/-- **A text is whole exactly when it fits.** -/
theorem ussd_whole_iff (w : UssdState) {s code hexStr dcs : Line} (hline : readCUSD s = .text code hexStr dcs)
    (hdcs : dcs = ascii "15" ∨ dcs = ascii "72") (heven : hexStr.length % 2 = 0)
    (hdigits : ∀ ch ∈ hexStr, ch ∈ hexChars) :
    UssdWhole w s (payloadChars dcs (payload hexStr)) ↔ UssdFits dcs (payload hexStr) := by
  have hhex : convertHexToBin hexStr = (true, payload hexStr) :=
    Prod.ext ((convertHexToBin_eq_true_iff heven).2 hdigits) rfl
  rw [ussdWhole_iff_holds w hline, payloadChars, UssdFits]
  rcases hdcs with rfl | rfl
  · rw [if_pos rfl, if_pos rfl]
    exact holds_gsm7_iff hhex
  · rw [if_neg (by decide), if_neg (by decide)]
    exact holds_ucs2_iff hhex

theorem ussd_whole_iff_hi :
    UssdWhole { s_ussdRun := true, s_ussdError := false } (ascii "+CUSD: 2,\"1B654869\",15")
      (payloadChars (ascii "15") (payload (ascii "1B654869"))) := by
  have hline : readCUSD (ascii "+CUSD: 2,\"1B654869\",15") = .text (ascii "2") (ascii "1B654869") (ascii "15") := rfl
  exact (ussd_whole_iff _ hline (.inl rfl) rfl (by simp [ascii, hexChars])).2 (by decide)

/-- The pair `1B00` is in no table, and no character comes for it. -/
theorem ussd_whole_counterexample :
    ¬∀ (w : UssdState) (s code hexStr dcs : Line), readCUSD s = .text code hexStr dcs →
      dcs = ascii "15" ∨ dcs = ascii "72" → hexStr.length % 2 = 0 → (∀ ch ∈ hexStr, ch ∈ hexChars) →
        UssdWhole w s (payloadChars dcs (payload hexStr)) := by
  intro h
  have hline : readCUSD (ascii "+CUSD: 0,\"1B00\",15") = .text (ascii "0") (ascii "1B00") (ascii "15") := rfl
  have hwhole := h { s_ussdRun := true, s_ussdError := false } _ _ _ _ hline (.inl rfl) rfl
    (by simp [ascii, hexChars])
  have hhex : convertHexToBin (ascii "1B00") = (true, payload (ascii "1B00")) := rfl
  rw [ussdWhole_iff_holds _ hline, payloadChars, if_pos rfl, holds_gsm7_iff hhex] at hwhole
  exact absurd hwhole.2.1 (by decide)

end UniRil.Ss
