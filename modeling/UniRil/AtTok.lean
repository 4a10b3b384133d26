import UniRil.CString
import Mathlib.Algebra.Ring.Int.Defs
import Mathlib.Algebra.Order.Ring.Nat

/-!
# The tokens of an AT response line (at_tok.c)

`p_cur` is the text from the current position on, or `none` for NULL.
-/

namespace UniRil.AtTok

abbrev Line := List Byte

def isspace (c : Byte) : Bool := c = 32 || (9 ≤ c && c ≤ 13)

def isdigit (c : Byte) : Bool := 48 ≤ c && c ≤ 57

/-- The text after the first `start_flag`: the call fails exactly when there is none. -/
def at_tok_flag_start (p_cur : Option Line) (start_flag : Byte) : Option Line :=
  p_cur.bind fun s => (s.dropWhile (· != start_flag)).tail?

/-- 58 is `:`. -/
def at_tok_start (p_cur : Option Line) : Option Line := at_tok_flag_start p_cur 58

def skipWhiteSpace (p_cur : Option Line) : Option Line := p_cur.map (·.dropWhile isspace)

/-- 44 is a comma. -/
def skipNextComma (p_cur : Option Line) : Option Line :=
  p_cur.map fun s => (s.dropWhile (· != 44)).drop 1

def strsep (s : Line) (delim : Byte) : Line × Option Line :=
  (s.takeWhile (· != delim), (s.dropWhile (· != delim)).tail?)

/-- 34 is a double quote. -/
def nextTok (p_cur : Option Line) : Option Line × Option Line :=
  match skipWhiteSpace p_cur with
  | none => (none, none)
  | some (34 :: s) =>
    let (ret, cur) := strsep s 34
    (some ret, skipNextComma cur)
  | some s =>
    let (ret, cur) := strsep s 44
    (some ret, cur)

/-- The value of a string of digits. -/
def digitsValue (s : Line) : Nat := s.foldl (fun n c => 10 * n + (c.toNat - 48)) 0

/-- `strtol` with base 10 and a `long` of 64 bits; `none` when it consumes nothing. -/
def strtol (s : Line) : Option Int :=
  let (neg, s) := match s.dropWhile isspace with
    | 45 :: s => (true, s)
    | 43 :: s => (false, s)
    | s => (false, s)
  let digits := s.takeWhile isdigit
  if digits.isEmpty then none
  else some (if neg then max (-digitsValue digits) (-2 ^ 63) else min (digitsValue digits) (2 ^ 63 - 1))

/-- The conversion of a `long` to an `int`. -/
def toInt (l : Int) : Int := l.bmod (2 ^ 32)

def atoi (s : Line) : Int := toInt ((strtol s).getD 0)

/-- What a call that reads a token leaves: `ok` when it returns 0, and the store to `*p_out`. -/
structure Tok (α : Type) where
  ok : Bool
  p_out : Option α
  p_cur : Option Line

/-- The value of a token that was read. -/
def Tok.value {α : Type} (t : Tok α) : Option α := if t.ok then t.p_out else none

def at_tok_nextint (p_cur : Option Line) : Tok Int :=
  match nextTok p_cur with
  | (none, cur) => { ok := false, p_out := none, p_cur := cur }
  -- `*p_out` is stored before the test that a numeral was there
  | (some ret, cur) => { ok := (strtol ret).isSome, p_out := some (atoi ret), p_cur := cur }

def at_tok_nextstr (p_cur : Option Line) : Tok Line :=
  match nextTok p_cur with
  | (none, cur) => { ok := false, p_out := none, p_cur := cur }
  | (some ret, cur) => { ok := true, p_out := some ret, p_cur := cur }

def at_tok_hasmore (p_cur : Option Line) : Bool := p_cur.any (!·.isEmpty)

end UniRil.AtTok
