import UniRil.AtTok
import Mathlib.Data.List.Induction

/-! # Decimal numerals: what `%d` prints, `atoi` reads -/

namespace UniRil

open AtTok

/-- The text of `%d`. -/
def decimal (value : Int) : List Byte := ascii (toString value)

def digitByte (c : Char) : Byte := UInt8.ofNat c.toNat

theorem decimal_natCast (n : Nat) : decimal n = (Nat.toDigits 10 n).map digitByte := by
  have htext : toString (n : Int) = String.ofList (Nat.toDigits 10 n) := Nat.repr_eq_ofList_toDigits
  rw [decimal, htext, ascii, String.toList_ofList]
  rfl

theorem decimal_negSucc (n : Nat) : decimal (Int.negSucc n) = 45 :: decimal (n + 1 : Nat) := by
  have htext : (toString (Int.negSucc n)).toList = '-' :: (toString ((n + 1 : Nat) : Int)).toList := by
    have h1 : toString (Int.negSucc n) = "-" ++ toString (n + 1) := rfl
    rw [h1, String.toList_append]
    rfl
  rw [decimal, ascii, htext]
  rfl

theorem digitByte_digitChar {d : Nat} (h : d < 10) : digitByte d.digitChar = UInt8.ofNat (48 + d) := by
  rw [digitByte, Nat.toNat_digitChar_of_lt_ten h]

theorem toNat_digitByte {d : Nat} (h : d < 10) : (digitByte d.digitChar).toNat = 48 + d := by
  rw [digitByte_digitChar h, UInt8.toNat_ofNat']
  omega

theorem isdigit_digitByte {c : Char} (h : c.isDigit = true) : isdigit (digitByte c) = true := by
  have hrange : 48 ≤ c.toNat ∧ c.toNat ≤ 57 := by simpa [Char.isDigit, UInt32.le_iff_toNat_le] using h
  have hnat : (digitByte c).toNat = c.toNat := by
    rw [digitByte, UInt8.toNat_ofNat']
    omega
  simp [isdigit, UInt8.le_iff_toNat_le, hnat, hrange]

theorem isdigit_decimal (n : Nat) : ∀ c ∈ decimal n, isdigit c = true := by
  intro c hc
  rw [decimal_natCast] at hc
  obtain ⟨d, hd, rfl⟩ := List.mem_map.1 hc
  exact isdigit_digitByte (Nat.isDigit_of_mem_toDigits (by decide) (by decide) hd)

theorem decimal_ne_nil (n : Nat) : decimal n ≠ [] := by
  rw [decimal_natCast]
  simp

theorem digitsValue_append (l : List Byte) (c : Byte) :
    digitsValue (l ++ [c]) = 10 * digitsValue l + (c.toNat - 48) := by
  rw [digitsValue, List.foldl_append]
  rfl

theorem digitsValue_append_list (s t : List Byte) :
    digitsValue (s ++ t) = digitsValue s * 10 ^ t.length + digitsValue t := by
  induction t using List.reverseRecOn with
  | nil => simp [digitsValue]
  | append_singleton t c ih =>
    rw [← List.append_assoc, digitsValue_append, digitsValue_append, ih, List.length_append, List.length_singleton,
      Nat.pow_succ]
    have hcomm := Nat.mul_comm (digitsValue s * 10 ^ t.length) 10
    rw [Nat.mul_assoc] at hcomm
    omega

theorem digitsValue_lt {s : List Byte} (h : ∀ c ∈ s, isdigit c = true) : digitsValue s < 10 ^ s.length := by
  induction s using List.reverseRecOn with
  | nil => decide
  | append_singleton s c ih =>
    have hs := ih fun d hd => h d (List.mem_append_left _ hd)
    have hc : 48 ≤ c.toNat ∧ c.toNat ≤ 57 := by
      simpa [isdigit, UInt8.le_iff_toNat_le] using h c (List.mem_append_right _ (List.mem_singleton_self c))
    rw [digitsValue_append, List.length_append, List.length_singleton, Nat.pow_succ]
    omega

theorem digitsValue_decimal (n : Nat) : digitsValue (decimal n) = n := by
  induction n using Nat.strongRecOn with
  | ind n ih =>
    rw [decimal_natCast, Nat.toDigits_eq_if (by decide)]
    split
    · rename_i hlt
      rw [List.map_singleton, digitsValue, List.foldl_cons, List.foldl_nil, toNat_digitByte hlt]
      omega
    · rename_i hge
      have hrest := ih (n / 10) (by omega)
      rw [decimal_natCast] at hrest
      rw [List.map_append, List.map_singleton, digitsValue_append, hrest, toNat_digitByte (by omega)]
      omega

/-- A digit is neither a blank nor a sign. -/
theorem digit_first {c : Byte} (h : isdigit c = true) : isspace c = false ∧ c ≠ 45 ∧ c ≠ 43 := by
  have hrange : 48 ≤ c.toNat ∧ c.toNat ≤ 57 := by simpa [isdigit, UInt8.le_iff_toNat_le] using h
  refine ⟨?_, ?_, ?_⟩
  · simp only [isspace, ← UInt8.toNat_inj, UInt8.le_iff_toNat_le, Bool.or_eq_false_iff, Bool.and_eq_false_iff,
      decide_eq_false_iff_not]
    simp
    omega
  · rintro rfl
    simp at hrange
  · rintro rfl
    simp at hrange

/-- The digits of a numeral are read up to what is none. -/
theorem takeWhile_isdigit {s rest : Line} (hdigits : ∀ c ∈ s, isdigit c = true)
    (hrest : ∀ c ∈ rest.head?, isdigit c = false) : (s ++ rest).takeWhile isdigit = s := by
  rw [List.takeWhile_append_of_pos hdigits]
  cases rest with
  | nil => simp
  | cons c rest => simp [hrest c (by simp)]

theorem strtol_saturates {s t : Line} (hs : s ≠ []) (hdigits : ∀ c ∈ s, isdigit c = true)
    (hrest : ∀ c ∈ t.head?, isdigit c = false) :
    strtol (s ++ t) = some (min (digitsValue s : Int) (2 ^ 63 - 1)) := by
  have htake := takeWhile_isdigit hdigits hrest
  obtain ⟨c, s, rfl⟩ := List.exists_cons_of_ne_nil hs
  obtain ⟨hspace, hminus, hplus⟩ := digit_first (hdigits c List.mem_cons_self)
  have hdrop : (c :: s ++ t).dropWhile isspace = c :: s ++ t := by
    rw [List.cons_append, List.dropWhile_cons, hspace, if_neg (by simp)]
  unfold strtol
  rw [hdrop]
  split
  rename_i neg s' heq
  split at heq
  · rename_i hcons
    exact absurd (List.cons.inj hcons).1 hminus
  · rename_i hcons
    exact absurd (List.cons.inj hcons).1 hplus
  · obtain ⟨rfl, rfl⟩ := Prod.mk.inj heq
    simp only [htake, List.isEmpty_cons, Bool.false_eq_true, if_false]

theorem strtol_digits_append {s t : Line} (hs : s ≠ []) (hdigits : ∀ c ∈ s, isdigit c = true)
    (hrest : ∀ c ∈ t.head?, isdigit c = false) (hvalue : digitsValue s < 2 ^ 63) :
    strtol (s ++ t) = some (digitsValue s : Int) := by
  rw [strtol_saturates hs hdigits hrest, min_eq_left (by omega)]

/-- A sign before the digits. -/
theorem strtol_minus {s t : Line} (hs : s ≠ []) (hdigits : ∀ c ∈ s, isdigit c = true)
    (hrest : ∀ c ∈ t.head?, isdigit c = false) (hvalue : digitsValue s ≤ 2 ^ 63) :
    strtol (45 :: (s ++ t)) = some (-(digitsValue s : Int)) := by
  have hempty : s.isEmpty = false := List.isEmpty_eq_false_iff.2 hs
  have htake := takeWhile_isdigit hdigits hrest
  have hdrop : (45 :: (s ++ t)).dropWhile isspace = 45 :: (s ++ t) := by
    rw [List.dropWhile_cons, if_neg (by decide)]
  rw [strtol, hdrop]
  simp only [htake, hempty, Bool.false_eq_true, if_false, if_true]
  rw [max_eq_left (by omega)]

/-- Blanks before it do not matter. -/
theorem strtol_blanks {blanks : Line} (h : ∀ c ∈ blanks, isspace c = true) (s : Line) :
    strtol (blanks ++ s) = strtol s := by
  rw [strtol, strtol, List.dropWhile_append_of_pos h]

theorem strtol_digits {s : List Byte} (hs : s ≠ []) (hdigits : ∀ c ∈ s, isdigit c = true)
    (hvalue : digitsValue s < 2 ^ 63) : strtol s = some (digitsValue s : Int) := by
  have happend := strtol_digits_append (t := []) hs hdigits (by simp) hvalue
  rwa [List.append_nil] at happend

/-- **A numeral is read** up to what is no digit. -/
theorem strtol_decimal {n : Int} (hlow : -2 ^ 63 ≤ n) (hhigh : n < 2 ^ 63) {t : Line}
    (hrest : ∀ c ∈ t.head?, isdigit c = false) : strtol (decimal n ++ t) = some n := by
  cases n with
  | ofNat m =>
    rw [Int.ofNat_eq_natCast] at hhigh ⊢
    rw [strtol_digits_append (decimal_ne_nil m) (isdigit_decimal m) hrest (by rw [digitsValue_decimal]; omega),
      digitsValue_decimal]
  | negSucc m =>
    have hvalue := digitsValue_decimal (m + 1)
    rw [decimal_negSucc, List.cons_append,
      strtol_minus (decimal_ne_nil (m + 1)) (isdigit_decimal (m + 1)) hrest (by omega), hvalue]
    rfl

theorem strtol_decimal_some (n : Int) : ∃ l, strtol (decimal n) = some l := by
  cases n with
  | ofNat k =>
    have hsaturates := strtol_saturates (t := []) (decimal_ne_nil k) (isdigit_decimal k) (by simp)
    rw [List.append_nil] at hsaturates
    exact ⟨_, hsaturates⟩
  | negSucc k =>
    have hempty : (decimal (k + 1 : Nat)).isEmpty = false := List.isEmpty_eq_false_iff.2 (decimal_ne_nil _)
    have htake : (decimal (k + 1 : Nat)).takeWhile isdigit = decimal (k + 1 : Nat) :=
      List.takeWhile_eq_self_iff.2 (isdigit_decimal _)
    have hdrop : (45 :: decimal (k + 1 : Nat)).dropWhile isspace = 45 :: decimal (k + 1 : Nat) := by
      rw [List.dropWhile_cons, if_neg (by decide)]
    rw [decimal_negSucc, strtol, hdrop]
    simp only [htake, hempty, Bool.false_eq_true, if_false, if_true]
    exact ⟨_, rfl⟩

theorem toInt_range (l : Int) : -2 ^ 31 ≤ toInt l ∧ toInt l < 2 ^ 31 := by
  have hle := Int.le_bmod (x := l) (m := 2 ^ 32) (by decide)
  have hlt := Int.bmod_lt (x := l) (m := 2 ^ 32) (by decide)
  unfold toInt
  omega

/-- There is a number to be read, or the call fails. -/
theorem at_tok_nextint_cases (p_cur : Option Line) :
    (at_tok_nextint p_cur).ok = false ∧ (at_tok_nextint p_cur).value = none ∨
      ∃ v, (at_tok_nextint p_cur).ok = true ∧ (at_tok_nextint p_cur).p_out = some v ∧
        (at_tok_nextint p_cur).value = some v ∧ -2 ^ 31 ≤ v ∧ v < 2 ^ 31 := by
  unfold at_tok_nextint
  split
  · exact .inl ⟨rfl, rfl⟩
  · rename_i ret cur hret
    cases hread : strtol ret with
    | none => exact .inl ⟨by simp, by simp [Tok.value]⟩
    | some l => exact .inr ⟨atoi ret, by simp, rfl, by simp [Tok.value], toInt_range _⟩

theorem toInt_of_range {n : Int} (hlow : -2 ^ 31 ≤ n) (hhigh : n < 2 ^ 31) : toInt n = n :=
  Int.bmod_eq_of_le (by omega) (by omega)

/-- **What is printed is read.** -/
theorem atoi_decimal {n : Nat} (h : n < 2 ^ 31) : atoi (decimal n) = n := by
  have hvalue := digitsValue_decimal n
  rw [atoi, strtol_digits (decimal_ne_nil n) (isdigit_decimal n) (by omega), hvalue, Option.getD_some]
  exact toInt_of_range (by omega) (by omega)

theorem mem_decimal {n : Int} {c : Byte} (h : c ∈ decimal n) : isdigit c = true ∨ c = 45 := by
  cases n with
  | ofNat m => exact .inl (isdigit_decimal m c h)
  | negSucc m =>
    rw [decimal_negSucc, List.mem_cons] at h
    rcases h with rfl | h
    · exact .inr rfl
    · exact .inl (isdigit_decimal _ c h)

theorem decimal_int_ne_nil (n : Int) : decimal n ≠ [] := by
  cases n with
  | ofNat m => exact decimal_ne_nil m
  | negSucc m =>
    rw [decimal_negSucc]
    exact List.cons_ne_nil _ _

theorem decimal_injective : Function.Injective decimal := by
  have hminus {k : Nat} {m : Nat} : decimal (k : Int) ≠ 45 :: decimal (m : Int) := by
    intro h
    have hdigit := isdigit_decimal k 45 (by rw [h]; exact List.mem_cons_self)
    exact absurd hdigit (by decide)
  have hnat {k m : Nat} (h : decimal (k : Int) = decimal (m : Int)) : k = m := by
    rw [← digitsValue_decimal k, h, digitsValue_decimal m]
  intro a b h
  cases a with
  | ofNat k =>
    cases b with
    | ofNat m => exact congrArg Int.ofNat (hnat h)
    | negSucc m =>
      rw [decimal_negSucc] at h
      exact absurd h hminus
  | negSucc k =>
    cases b with
    | ofNat m =>
      rw [decimal_negSucc] at h
      exact absurd h.symm hminus
    | negSucc m =>
      rw [decimal_negSucc, decimal_negSucc] at h
      have hsucc := hnat (List.cons.inj h).2
      rw [Nat.succ.inj hsucc]

/-- An `int` is printed in eleven bytes at most. -/
theorem length_decimal_le {n : Int} (hlow : -2 ^ 31 ≤ n) (hhigh : n < 2 ^ 31) : (decimal n).length ≤ 11 := by
  have hnat {k : Nat} (h : k < 10 ^ 10) : (decimal k).length ≤ 10 := by
    rw [decimal_natCast, List.length_map]
    exact (Nat.length_toDigits_le_iff (by decide) (by decide)).2 h
  cases n with
  | ofNat k =>
    have hle := hnat (k := k) (by rw [Int.ofNat_eq_natCast] at hhigh; omega)
    exact Nat.le_succ_of_le hle
  | negSucc k =>
    rw [decimal_negSucc, List.length_cons]
    exact Nat.succ_le_succ (hnat (by omega))

/-! ## In a line -/

theorem at_tok_flag_start_append {pre : Line} {c : Byte} (h : c ∉ pre) (rest : Line) :
    at_tok_flag_start (some (pre ++ c :: rest)) c = some rest := by
  have hpos : ∀ d ∈ pre, (d != c) = true := by
    intro d hd
    simpa using ne_of_mem_of_not_mem hd h
  rw [at_tok_flag_start, Option.bind_some, List.dropWhile_append_of_pos hpos]
  simp

theorem at_tok_start_isSome (cmd : Line) : (at_tok_start (some cmd)).isSome ↔ 58 ∈ cmd := by
  unfold at_tok_start at_tok_flag_start
  induction cmd with
  | nil => simp
  | cons c cmd ih =>
    by_cases hc : c = 58
    · simp [hc]
    · simpa [hc, Ne.symm hc, List.dropWhile_cons] using ih

theorem nextTok_some (s : Line) : ∃ ret cur, nextTok (some s) = (some ret, cur) := by
  unfold nextTok
  split
  · simp_all [skipWhiteSpace]
  · exact ⟨_, _, rfl⟩
  · exact ⟨_, _, rfl⟩

/-- Only the end of the line before keeps a string from being read. -/
theorem at_tok_nextstr_some (s : Line) : ∃ ret, (at_tok_nextstr (some s)).value = some ret := by
  obtain ⟨ret, cur, hret⟩ := nextTok_some s
  exact ⟨ret, by rw [at_tok_nextstr, hret]; rfl⟩

theorem strsep_append {pre t : Line} {delim : Byte} (h : delim ∉ pre) :
    strsep (pre ++ delim :: t) delim = (pre, some t) := by
  have hpos : ∀ c ∈ pre, (c != delim) = true := by
    intro c hc
    simpa using ne_of_mem_of_not_mem hc h
  rw [strsep, List.takeWhile_append_of_pos hpos, List.dropWhile_append_of_pos hpos]
  simp

/-- A quoted string is the next token. -/
theorem at_tok_nextstr_quoted {s rest : Line} (h : (34 : Byte) ∉ s) :
    at_tok_nextstr (some (34 :: (s ++ 34 :: rest))) =
      { ok := true, p_out := some s, p_cur := skipNextComma (some rest) } := by
  have hskip : skipWhiteSpace (some (34 :: (s ++ 34 :: rest))) = some (34 :: (s ++ 34 :: rest)) := by
    rw [skipWhiteSpace, Option.map_some, List.dropWhile_cons, if_neg (by decide)]
  rw [at_tok_nextstr, nextTok, hskip]
  simp only [strsep_append h]

theorem at_tok_nextint_blank (s : Line) : at_tok_nextint (some (32 :: s)) = at_tok_nextint (some s) := by
  have hblank : skipWhiteSpace (some (32 :: s)) = skipWhiteSpace (some s) := by simp [skipWhiteSpace, isspace]
  rw [at_tok_nextint, at_tok_nextint, nextTok, nextTok, hblank]

/-- A token that neither begins with a blank or a quote nor holds a comma. -/
def Plain (t : Line) : Prop := (∀ c ∈ t.head?, isspace c = false ∧ c ≠ 34) ∧ (44 : Byte) ∉ t

theorem nextTok_of_first {s : Line} (h : ∀ c ∈ s.head?, isspace c = false ∧ c ≠ 34) :
    nextTok (some s) = (some (strsep s 44).1, (strsep s 44).2) := by
  have hskip : skipWhiteSpace (some s) = some s := by
    rw [skipWhiteSpace, Option.map_some]
    cases s with
    | nil => rfl
    | cons c s => rw [List.dropWhile_cons, (h c rfl).1, if_neg (by simp)]
  unfold nextTok
  rw [hskip]
  split
  · next heq => cases heq
  · next heq =>
    rw [Option.some.inj heq] at h
    exact absurd rfl (h 34 rfl).2
  · next heq => rw [← Option.some.inj heq]

theorem nextTok_comma {t : Line} (h : Plain t) (rest : Line) :
    nextTok (some (t ++ 44 :: rest)) = (some t, some rest) := by
  have hfirst : ∀ c ∈ (t ++ 44 :: rest).head?, isspace c = false ∧ c ≠ 34 := by
    intro c hc
    cases t with
    | nil =>
      obtain rfl := Option.some.inj hc
      decide
    | cons d t => exact h.1 c hc
  rw [nextTok_of_first hfirst, strsep_append h.2]

/-- The last token. -/
theorem nextTok_end {t : Line} (h : Plain t) : nextTok (some t) = (some t, none) := by
  have hpos : ∀ c ∈ t, (c != 44) = true := by
    intro c hc
    simpa using ne_of_mem_of_not_mem hc h.2
  rw [nextTok_of_first h.1, strsep, List.takeWhile_eq_self_iff.2 hpos, List.dropWhile_eq_nil_iff.2 hpos]
  rfl

theorem plain_decimal (n : Int) {t : Line} (h : (44 : Byte) ∉ t) : Plain (decimal n ++ t) := by
  have hplain {c : Byte} (h : c ∈ decimal n) : isspace c = false ∧ c ≠ 34 ∧ c ≠ 44 := by
    rcases mem_decimal h with hc | rfl
    · refine ⟨(digit_first hc).1, ?_, ?_⟩
      · rintro rfl
        exact absurd hc (by decide)
      · rintro rfl
        exact absurd hc (by decide)
    · decide
  constructor
  · intro c hc
    obtain ⟨d, more, hmore⟩ := List.exists_cons_of_ne_nil (decimal_int_ne_nil n)
    rw [hmore] at hc
    obtain rfl := Option.some.inj hc
    have hfirst := hplain (c := d) (by rw [hmore]; exact List.mem_cons_self)
    exact ⟨hfirst.1, hfirst.2.1⟩
  · rw [List.mem_append, not_or]
    exact ⟨fun hc => (hplain hc).2.2 rfl, h⟩

/-- A numeral is what the next token begins with, and the token ends at the comma. -/
theorem at_tok_nextint_decimal {n : Int} (hlow : -2 ^ 31 ≤ n) (hhigh : n < 2 ^ 31) {t : Line}
    (hcomma : (44 : Byte) ∉ t) (hdigit : ∀ c ∈ t.head?, isdigit c = false) (rest : Line) :
    at_tok_nextint (some (decimal n ++ t ++ 44 :: rest)) = { ok := true, p_out := some n, p_cur := some rest } := by
  have hstrtol := strtol_decimal (n := n) (by omega) (by omega) hdigit
  rw [at_tok_nextint, nextTok_comma (plain_decimal n hcomma)]
  simp only [hstrtol, Option.isSome_some, atoi, Option.getD_some, toInt_of_range hlow hhigh]

/-- The last number of a line. What does not fit an `int` is cut. -/
theorem at_tok_nextint_end (n : Int) :
    ∃ v, at_tok_nextint (some (decimal n)) = { ok := true, p_out := some v, p_cur := none } ∧
      -2 ^ 31 ≤ v ∧ v < 2 ^ 31 ∧ (-2 ^ 31 ≤ n → n < 2 ^ 31 → v = n) := by
  have hplain := plain_decimal n (t := []) (by simp)
  rw [List.append_nil] at hplain
  obtain ⟨l, hl⟩ := strtol_decimal_some n
  refine ⟨toInt l, ?_, ?_, ?_, fun hlow hhigh => ?_⟩
  · rw [at_tok_nextint, nextTok_end hplain]
    simp only [hl, Option.isSome_some, atoi, Option.getD_some]
  · exact (toInt_range l).1
  · exact (toInt_range l).2
  · have hread := strtol_decimal (n := n) (t := []) (by omega) (by omega) (by simp)
    rw [List.append_nil, hl] at hread
    rw [Option.some.inj hread, toInt_of_range hlow hhigh]

/-- A number before a comma. -/
theorem at_tok_nextint_comma {n : Nat} (h : n < 2 ^ 31) (rest : Line) :
    at_tok_nextint (some (decimal n ++ 44 :: rest)) = { ok := true, p_out := some (n : Int), p_cur := some rest } := by
  have htail := at_tok_nextint_decimal (n := (n : Int)) (t := []) (by omega) (by omega) (by simp) (by simp) rest
  rwa [List.append_nil] at htail

end UniRil
