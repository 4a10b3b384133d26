import UniRil.NetworkRequests.Registration

/-!
# The numbers that tokens are read as

A numeral means a number of any size. The calls read it into a `long`, and store its low 32 bits.
-/

namespace UniRil.AtTok

open NetworkRequests (hexSign hexDigits hexDigitsValue strtoul16)

/-! ## What a token means -/

/-- The number of the numeral at the head of a token, in base 10. -/
def numeral10 (token : Line) : Option Int :=
  let (neg, s) := hexSign (token.dropWhile isspace)
  let digits := s.takeWhile isdigit
  if digits = [] then none else some (if neg then -(digitsValue digits : Int) else digitsValue digits)

def numeral16 (token : Line) : Option Int :=
  let (neg, s) := hexSign (token.dropWhile isspace)
  let digits := hexDigits s
  if digits = [] then none else some (if neg then -(hexDigitsValue digits : Int) else hexDigitsValue digits)

/-- The number that the next token means. -/
def denoted (numeral : Line → Option Int) (p_cur : Option Line) : Option Int := (nextTok p_cur).1.bind numeral

/-! ## The other calls -/

def at_tok_nexthexint (p_cur : Option Line) : Tok Int :=
  match nextTok p_cur with
  | (none, cur) => { ok := false, p_out := none, p_cur := cur }
  | (some ret, cur) => { ok := (strtoul16 ret).isSome, p_out := some (toInt ((strtoul16 ret).getD 0)), p_cur := cur }

def at_tok_nextbool (p_cur : Option Line) : Tok Int :=
  match (at_tok_nextint p_cur).value with
  | none => { ok := false, p_out := none, p_cur := (at_tok_nextint p_cur).p_cur }
  | some result =>
    if result = 0 ∨ result = 1 then { ok := true, p_out := some result, p_cur := (at_tok_nextint p_cur).p_cur }
    else { ok := false, p_out := none, p_cur := (at_tok_nextint p_cur).p_cur }

/-! ## What the calls give -/

/-- `strtol` stops at the ends of a `long`. -/
theorem strtol_eq (s : Line) : strtol s = (numeral10 s).map fun n => max (min n (2 ^ 63 - 1)) (-2 ^ 63) := by
  have hsign : strtol s =
      if ((hexSign (s.dropWhile isspace)).2.takeWhile isdigit).isEmpty then none
      else some (if (hexSign (s.dropWhile isspace)).1
        then max (-(digitsValue ((hexSign (s.dropWhile isspace)).2.takeWhile isdigit) : Int)) (-2 ^ 63)
        else min (digitsValue ((hexSign (s.dropWhile isspace)).2.takeWhile isdigit) : Int) (2 ^ 63 - 1)) := rfl
  rw [hsign, numeral10]
  generalize hexSign (s.dropWhile isspace) = p
  obtain ⟨neg, s'⟩ := p
  simp only [List.isEmpty_iff]
  split
  · rfl
  · rw [Option.map_some]
    cases neg with
    | true =>
      rw [if_pos rfl, if_pos rfl, min_eq_left (by omega)]
    | false =>
      rw [if_neg Bool.false_ne_true, if_neg Bool.false_ne_true, max_eq_left (by omega)]

/-- `strtoul` stops at the largest `unsigned long`, also below zero. -/
theorem strtoul16_eq (s : Line) :
    strtoul16 s = (numeral16 s).map fun n => if 2 ^ 64 ≤ n ∨ n ≤ -2 ^ 64 then 2 ^ 64 - 1 else n := by
  unfold strtoul16 numeral16
  generalize hexSign (s.dropWhile isspace) = p
  obtain ⟨neg, s'⟩ := p
  simp only
  split
  · rfl
  · rw [Option.map_some]
    cases neg with
    | true =>
      rw [if_pos rfl]
      split
      · rw [if_pos (by omega)]
      · rw [if_neg (by omega)]
    | false =>
      rw [if_neg Bool.false_ne_true]
      split
      · rw [if_pos (by omega)]
      · rw [if_neg (by omega)]

theorem value_nextint (p_cur : Option Line) :
    (at_tok_nextint p_cur).value =
      (denoted numeral10 p_cur).map fun n => toInt (max (min n (2 ^ 63 - 1)) (-2 ^ 63)) := by
  unfold at_tok_nextint denoted atoi
  cases nextTok p_cur with
  | mk ret cur =>
    cases ret with
    | none => rfl
    | some ret =>
      rw [Option.bind_some, Tok.value]
      simp only [strtol_eq]
      cases numeral10 ret with
      | none => rfl
      | some n => rfl

theorem value_nexthexint (p_cur : Option Line) :
    (at_tok_nexthexint p_cur).value =
      (denoted numeral16 p_cur).map fun n => toInt (if 2 ^ 64 ≤ n ∨ n ≤ -2 ^ 64 then 2 ^ 64 - 1 else n) := by
  unfold at_tok_nexthexint denoted
  cases nextTok p_cur with
  | mk ret cur =>
    cases ret with
    | none => rfl
    | some ret =>
      rw [Option.bind_some, Tok.value]
      simp only [strtoul16_eq]
      cases numeral16 ret with
      | none => rfl
      | some n => rfl

theorem value_nextbool (p_cur : Option Line) :
    (at_tok_nextbool p_cur).value = (at_tok_nextint p_cur).value.filter fun result => result = 0 ∨ result = 1 := by
  unfold at_tok_nextbool
  split
  · rename_i hnone
    rw [hnone]
    rfl
  · rename_i result hsome
    rw [hsome]
    split
    · rename_i hbool
      simp [Tok.value, Option.filter, hbool]
    · rename_i hbool
      simp [Tok.value, Option.filter, hbool]

/-! ## What is read is what was meant -/

def FitsInt (n : Int) : Prop := -2 ^ 31 ≤ n ∧ n < 2 ^ 31

/-- 32 bits, with a sign or without one. -/
def FitsWord (n : Int) : Prop := -2 ^ 31 ≤ n ∧ n < 2 ^ 32

def NextintExact (p_cur : Option Line) : Prop :=
  ∀ v, (at_tok_nextint p_cur).value = some v → denoted numeral10 p_cur = some v

def NexthexintExact (p_cur : Option Line) : Prop :=
  ∀ v, (at_tok_nexthexint p_cur).value = some v → ∃ n, denoted numeral16 p_cur = some n ∧ FitsWord n ∧ v = toInt n

def NextboolExact (p_cur : Option Line) : Prop :=
  ∀ v, (at_tok_nextbool p_cur).value = some v → denoted numeral10 p_cur = some v ∧ (v = 0 ∨ v = 1)

/-- The numbers that the low 32 bits, or those of the smallest `long`, do not turn into 0 or 1. -/
def NoOtherBool (n : Int) : Prop :=
  n = 0 ∨ n = 1 ∨ 2 ^ 63 ≤ n ∨ -2 ^ 63 < n ∧ n % 2 ^ 32 ≠ 0 ∧ n % 2 ^ 32 ≠ 1

theorem nextintExact_iff (p_cur : Option Line) :
    NextintExact p_cur ↔ ∀ n, denoted numeral10 p_cur = some n → FitsInt n := by
  unfold NextintExact
  rw [value_nextint]
  cases denoted numeral10 p_cur with
  | none => simp
  | some n =>
    simp only [Option.map_some, Option.some.injEq, forall_eq']
    constructor
    · intro hread
      have hrange := toInt_range (max (min n (2 ^ 63 - 1)) (-2 ^ 63))
      rw [← hread] at hrange
      exact hrange
    · rintro ⟨hlow, hhigh⟩
      rw [min_eq_left (by omega), max_eq_left (by omega), toInt_of_range hlow hhigh]

theorem nexthexintExact_iff (p_cur : Option Line) :
    NexthexintExact p_cur ↔ ∀ n, denoted numeral16 p_cur = some n → FitsWord n := by
  unfold NexthexintExact
  rw [value_nexthexint]
  cases denoted numeral16 p_cur with
  | none => simp
  | some n =>
    simp only [Option.map_some, Option.some.injEq, forall_eq', exists_eq_left']
    constructor
    · exact fun hread => hread.1
    · intro hfits
      refine ⟨hfits, ?_⟩
      obtain ⟨hlow, hhigh⟩ := hfits
      rw [if_neg (by omega)]

theorem toInt_bool (m : Int) : toInt m = 0 ∨ toInt m = 1 ↔ m % 2 ^ 32 = 0 ∨ m % 2 ^ 32 = 1 := by
  unfold toInt Int.bmod
  simp only
  split
  · omega
  · omega

theorem nextboolExact_iff (p_cur : Option Line) :
    NextboolExact p_cur ↔ ∀ n, denoted numeral10 p_cur = some n → NoOtherBool n := by
  unfold NextboolExact NoOtherBool
  rw [value_nextbool, value_nextint]
  cases denoted numeral10 p_cur with
  | none => simp [Option.filter]
  | some n =>
    have hbool := toInt_bool (max (min n (2 ^ 63 - 1)) (-2 ^ 63))
    simp only [Option.map_some, Option.some.injEq, forall_eq', Option.filter_eq_some_iff, decide_eq_true_eq, and_imp]
    rw [hbool]
    constructor
    · intro hread
      by_cases hword : max (min n (2 ^ 63 - 1)) (-2 ^ 63) % 2 ^ 32 = 0 ∨ max (min n (2 ^ 63 - 1)) (-2 ^ 63) % 2 ^ 32 = 1
      · have := hbool.2 hword
        have := (hread hword).1
        omega
      · omega
    · intro hother hword
      have hsmall : n = 0 ∨ n = 1 := by omega
      have hvalue : toInt (max (min n (2 ^ 63 - 1)) (-2 ^ 63)) = n := by
        rw [min_eq_left (by omega), max_eq_left (by omega), toInt_of_range (by omega) (by omega)]
      exact ⟨hvalue.symm, hword⟩

/-- **A number is read as another one exactly when its numeral does not fit**: no call tests the range. -/
theorem numerals_exact_iff (p_cur : Option Line) :
    (NextintExact p_cur ↔ ∀ n, denoted numeral10 p_cur = some n → FitsInt n) ∧
      (NexthexintExact p_cur ↔ ∀ n, denoted numeral16 p_cur = some n → FitsWord n) ∧
      (NextboolExact p_cur ↔ ∀ n, denoted numeral10 p_cur = some n → NoOtherBool n) :=
  ⟨nextintExact_iff p_cur, nexthexintExact_iff p_cur, nextboolExact_iff p_cur⟩

/-- 2 ^ 32 + 5 is read as 5, 2 ^ 32 as no and 0x100000001 as 1. -/
theorem numerals_exact_fails_wide :
    ¬NextintExact (some (ascii "4294967301")) ∧ ¬NextboolExact (some (ascii "4294967296")) ∧
      ¬NexthexintExact (some (ascii "100000001")) := by
  rw [nextintExact_iff, nextboolExact_iff, nexthexintExact_iff]
  have hint : denoted numeral10 (some (ascii "4294967301")) = some 4294967301 := by decide
  have hbool : denoted numeral10 (some (ascii "4294967296")) = some 4294967296 := by decide
  have hhex : denoted numeral16 (some (ascii "100000001")) = some 4294967297 := by decide
  unfold FitsInt FitsWord NoOtherBool
  refine ⟨?_, ?_, ?_⟩
  · intro h
    have := h _ hint
    omega
  · intro h
    have := h _ hbool
    omega
  · intro h
    have := h _ hhex
    omega

end UniRil.AtTok
