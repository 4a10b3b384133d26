import UniRil.Handlers.Rules
import UniRil.Hex
import UniRil.Network.SignalProcess

/-!
# The fields of an answer (ril_network.c)

A field has its place in a line, and a reader takes one after the other. The answers to AT+CSQ and AT+CESQ are
rewritten before they are read.
-/

namespace UniRil.NetworkRequests

open Flows Handlers
open AtTok (Line toInt nextTok strtol)
open Network.SignalProcess (compensate rxlevLevel rsrpLevel)

/-! ## Places -/

/-- What stands behind the first fields. -/
def behind : Nat → Option Line → Option Line
  | 0, cur => cur
  | i + 1, cur => behind i (nextTok cur).2

def field (i : Nat) (cur : Option Line) : Option Line := (nextTok (behind i cur)).1

def number (i : Nat) (cur : Option Line) : Option Int := (field i cur).bind fun s => (strtol s).map toInt

section

variable (i j : Nat) (cur : Option Line)

@[simp] theorem behind_zero : behind 0 cur = cur := rfl

theorem behind_behind : behind i (behind j cur) = behind (j + i) cur := by
  induction j generalizing cur with
  | zero => simp
  | succ j ih =>
    rw [Nat.add_right_comm, behind, behind]
    exact ih (nextTok cur).2

theorem field_behind : field i (behind j cur) = field (j + i) cur := by rw [field, field, behind_behind]

theorem number_behind : number i (behind j cur) = number (j + i) cur := by rw [number, number, field_behind]

end

/-! ## Readers -/

/-- `err = at_tok_...(&line, ...); if (err < 0) goto error;`, one after the other. -/
abbrev Reader := StateT (Option Line) Option

def nextint : Reader Int := fun cur =>
  let tok := AtTok.at_tok_nextint cur
  tok.value.map fun n => (n, tok.p_cur)

def nextstr : Reader Line := fun cur =>
  let tok := AtTok.at_tok_nextstr cur
  tok.value.map fun s => (s, tok.p_cur)

def hasmore : Reader Bool := fun cur => some (AtTok.at_tok_hasmore cur, cur)

section

variable (cur : Option Line)

theorem at_tok_nextint_eq :
    AtTok.at_tok_nextint cur =
      { ok := (number 0 cur).isSome, p_out := (field 0 cur).map AtTok.atoi, p_cur := behind 1 cur } := by
  cases h : nextTok cur with
  | mk ret rest =>
    cases ret with
    | none => simp [AtTok.at_tok_nextint, number, field, behind, h]
    | some ret => simp [AtTok.at_tok_nextint, number, field, behind, h]

theorem value_nextint : (AtTok.at_tok_nextint cur).value = number 0 cur := by
  rw [at_tok_nextint_eq, AtTok.Tok.value, number]
  cases field 0 cur with
  | none => rfl
  | some ret =>
    cases hn : strtol ret with
    | none => simp [hn]
    | some n => simp [hn, AtTok.atoi]

theorem nextint_eq : nextint cur = (number 0 cur).map fun n => (n, behind 1 cur) := by
  rw [nextint, value_nextint, at_tok_nextint_eq]

theorem nextstr_eq : nextstr cur = (field 0 cur).map fun s => (s, behind 1 cur) := by
  cases h : nextTok cur with
  | mk ret rest =>
    cases ret with
    | none => simp [nextstr, AtTok.at_tok_nextstr, AtTok.Tok.value, field, h]
    | some ret => simp [nextstr, AtTok.at_tok_nextstr, AtTok.Tok.value, field, behind, h]

variable {α : Type} {v : α × Option Line}

/-- What is read stands at its place, and the reading goes on behind it. -/
theorem bind_nextint_eq_some (i : Nat) (f : Int → Reader α) :
    (nextint >>= f) (behind i cur) = some v ↔ ∃ n, number i cur = some n ∧ f n (behind (i + 1) cur) = some v := by
  simp [bind, StateT.bind, nextint_eq, Option.bind_eq_some_iff, number_behind, behind_behind]

theorem bind_nextstr_eq_some (i : Nat) (f : Line → Reader α) :
    (nextstr >>= f) (behind i cur) = some v ↔ ∃ s, field i cur = some s ∧ f s (behind (i + 1) cur) = some v := by
  simp [bind, StateT.bind, nextstr_eq, Option.bind_eq_some_iff, field_behind, behind_behind]

theorem bind_hasmore (f : Bool → Reader α) : (hasmore >>= f) cur = f (AtTok.at_tok_hasmore cur) cur := rfl

theorem pure_apply (a : α) : (pure a : Reader α) cur = some (a, cur) := rfl

theorem pure_eq_some (a : α) : (pure a : Reader α) cur = some v ↔ (a, cur) = v := by
  rw [pure_apply, Option.some_inj]

end

/-- The fields behind a place where nothing is left. -/
theorem number_of_hasmore {cur : Option Line} (h : AtTok.at_tok_hasmore cur = false) (i : Nat) :
    number (i + 1) cur = none := by
  have hnone (i : Nat) : number i none = none := by
    induction i with
    | zero => rfl
    | succ i ih => exact ih
  cases cur with
  | none => exact hnone i
  | some s =>
    cases s with
    | nil => exact hnone i
    | cons c s => simp [AtTok.at_tok_hasmore] at h

/-! ## Hexadecimal numerals -/

/-- The value of a string of hexadecimal digits. -/
def hexDigitsValue (s : Line) : Nat := s.foldl (fun n c => 16 * n + ((hexValue c).getD 0).toNat) 0

/-- 48 is 0; 120 and 88 are x and X. -/
def skipHexPrefix : Line → Line
  | 48 :: x :: c :: s => if (x = 120 ∨ x = 88) ∧ (hexValue c).isSome then c :: s else 48 :: x :: c :: s
  | s => s

/-- 45 and 43 are the signs. -/
def hexSign : Line → Bool × Line
  | 45 :: s => (true, s)
  | 43 :: s => (false, s)
  | s => (false, s)

def hexDigits (s : Line) : Line := (skipHexPrefix s).takeWhile fun c => (hexValue c).isSome

/-- `strtol` with base 16. -/
def strtol16 (s : Line) : Int :=
  let (neg, s) := hexSign (s.dropWhile AtTok.isspace)
  let value : Int := hexDigitsValue (hexDigits s)
  if neg then max (-value) (-2 ^ 63) else min value (2 ^ 63 - 1)

/-- `%04x` of `sscanf`: the value and what follows it. -/
def scan04x (s : Line) : Option (Int × Line) :=
  let s := s.dropWhile AtTok.isspace
  let (neg, rest) := hexSign (s.take 4)
  let digits := hexDigits rest
  if digits = [] then none
  else
    let before := (s.take 4).length - (skipHexPrefix rest).length
    some (if neg then -hexDigitsValue digits else hexDigitsValue digits, s.drop (before + digits.length))

/-! ## AT+CSQ and AT+CESQ -/

/-- The first list is what is left to be found of the needle. -/
def findFrom (needle : Line) : Line → Line → Bool
  | [], _ => true
  | _ :: _, [] => false
  | c :: rest, b :: buf => if c = b then findFrom needle rest buf else findFrom needle needle buf

def findInBuf (buf needle : Line) : Bool := findFrom needle needle buf

def rssi2G (rssi_3g : Int) : Int :=
  if rssi_3g ≤ 31 then rssi_3g
  else if 100 ≤ rssi_3g ∧ rssi_3g ≤ 191 then compensate rssi_3g
  else 99

/-- The line of the new response, if one is made. A field that is missing leaves `ber` as it is. -/
def csq_execute_cmd_rsp (ber : Int) (line : Line) : Option Line :=
  if findInBuf line (ascii "+CSQ") then
    (AtTok.at_tok_start (some line)).bind fun input =>
      let rssi := AtTok.at_tok_nextint (some input)
      rssi.value.map fun rssi_3g =>
        let tok := AtTok.at_tok_nextint rssi.p_cur
        let ber := tok.p_out.getD ber
        ascii "+CSQ:" ++ commas [rssi2G rssi_3g, if tok.ok ∧ ber > 99 then 99 else ber]
  else
    none

def readCesq : Reader (List Int) := do
  let rxlev ← nextint
  let ber ← nextint
  let rscp ← nextint
  let ecno ← nextint
  let rsrq ← nextint
  let rsrp ← nextint
  pure [rxlevLevel rxlev, ber, compensate rscp, ecno, rsrq, rsrpLevel rsrp]

def cesq_execute_cmd_rsp (line : Line) : Option Line :=
  if findInBuf line (ascii "+CESQ") then
    (AtTok.at_tok_start (some line)).bind fun cur => (readCesq.run' (some cur)).map fun values =>
      ascii "+CESQ: " ++ commas values
  else
    none

/-! ## What is printed is read -/

/-- The range of an `int`. -/
def InInt (n : Int) : Prop := -2 ^ 31 ≤ n ∧ n < 2 ^ 31

theorem inInt_toInt (l : Int) : InInt (toInt l) := by
  have hlow := Int.le_bmod (x := l) (m := 2 ^ 32) (by decide)
  have hhigh := Int.bmod_lt (x := l) (m := 2 ^ 32) (by decide)
  constructor
  · rw [toInt]
    omega
  · rw [toInt]
    omega

theorem toInt_above {n : Int} (hlow : 2 ^ 31 ≤ n) (hhigh : n < 2 ^ 32) : toInt n = n - 2 ^ 32 := by
  rw [toInt, Int.bmod]
  split
  · omega
  · omega

theorem toInt_below {n : Int} (hlow : -2 ^ 32 ≤ n) (hhigh : n < -2 ^ 31) : toInt n = n + 2 ^ 32 := by
  rw [toInt, Int.bmod]
  split
  · omega
  · omega

theorem inInt_number {i : Nat} {cur : Option Line} {n : Int} (h : number i cur = some n) : InInt n := by
  simp only [number, Option.bind_eq_some_iff, Option.map_eq_some_iff] at h
  obtain ⟨s, -, l, -, rfl⟩ := h
  exact inInt_toInt l

theorem commas_cons (n m : Int) (numbers : List Int) :
    commas (n :: m :: numbers) = decimal n ++ 44 :: commas (m :: numbers) := by
  rw [commas, commas, List.map_cons, List.map_cons, List.intercalate_cons_cons]
  simp [ascii]

theorem number_commas (numbers : List Int) (h : ∀ n ∈ numbers, InInt n) (i : Nat) (hi : i < numbers.length) :
    number i (some (commas numbers)) = numbers[i]? := by
  have hread (n : Int) (hn : InInt n) : (strtol (decimal n)).map toInt = some n := by
    have hvalue := strtol_decimal (n := n) (t := []) (by have := hn.1; omega) (by have := hn.2; omega) (by simp)
    rw [List.append_nil] at hvalue
    rw [hvalue, Option.map_some, toInt_of_range hn.1 hn.2]
  have hplain (n : Int) : Plain (decimal n) := by
    have htail := plain_decimal n (t := []) (by simp)
    rwa [List.append_nil] at htail
  induction numbers generalizing i with
  | nil => cases hi
  | cons n numbers ih =>
    have hfirst := hread n (h n List.mem_cons_self)
    cases numbers with
    | nil =>
      obtain rfl : i = 0 := by
        rw [List.length_singleton] at hi
        omega
      have htext : commas [n] = decimal n := by simp [commas]
      rw [htext, number, field, behind_zero, nextTok_end (hplain n), List.getElem?_cons_zero]
      exact hfirst
    | cons m numbers =>
      rw [commas_cons]
      cases i with
      | zero =>
        rw [number, field, behind_zero, nextTok_comma (hplain n), List.getElem?_cons_zero]
        exact hfirst
      | succ i =>
        have hrest := ih (fun k hk => h k (List.mem_cons_of_mem _ hk)) i (by simpa using hi)
        rw [number, field, behind, nextTok_comma (hplain n), List.getElem?_cons_succ, ← hrest]
        rfl

end UniRil.NetworkRequests
