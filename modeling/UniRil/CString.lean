import Mathlib.Data.List.TakeWhile

/-! # Bytes and C strings -/

namespace UniRil

abbrev Byte := UInt8

/-- The bytes of an ASCII literal of the source. -/
def ascii (s : String) : List Byte := s.toList.map fun c => UInt8.ofNat c.toNat

def NUL : Byte := 0
def CR : Byte := 13
def LF : Byte := 10

/-- The C string that starts at the head of some memory cells. -/
def cstr (cells : List Byte) : List Byte := cells.takeWhile (· != NUL)

def strlen (cells : List Byte) : Nat := (cstr cells).length

/-- `strStartsWith` of misc.c, on the bytes before the NULs. -/
def strStartsWith : List Byte → List Byte → Bool
  | l :: line, p :: pre => if l != p then false else strStartsWith line pre
  | _, pre => pre.isEmpty

theorem strStartsWith_iff (line pre : List Byte) : strStartsWith line pre = true ↔ pre <+: line := by
  induction line, pre using strStartsWith.induct with
  | case1 l line p pre hne =>
    have hpl : p ≠ l := fun h => by simp [h] at hne
    rw [strStartsWith, if_pos hne]
    simp [List.cons_prefix_cons, hpl]
  | case2 l line p pre heq ih =>
    have hlp : l = p := by simpa using heq
    rw [strStartsWith, if_neg heq, ih, List.cons_prefix_cons, hlp]
    simp
  | case3 line pre hnil =>
    cases pre with
    | nil => cases line <;> simp [strStartsWith]
    | cons p pre =>
      cases line with
      | nil => simp [strStartsWith]
      | cons l line => exact (hnil l line p pre rfl rfl).elim

/-- Of two prefixes of one line, one is a prefix of the other. -/
theorem strStartsWith_comparable {line pre pre' : List Byte} (h : strStartsWith line pre = true)
    (h' : strStartsWith line pre' = true) : pre <+: pre' ∨ pre' <+: pre :=
  List.prefix_or_prefix_of_prefix ((strStartsWith_iff line pre).1 h) ((strStartsWith_iff line pre').1 h')

theorem cstr_append_nul {l : List Byte} (hl : NUL ∉ l) (rest : List Byte) : cstr (l ++ NUL :: rest) = l := by
  have hpos : ∀ b ∈ l, (b != NUL) = true := by
    intro b hb
    simpa using ne_of_mem_of_not_mem hb hl
  rw [cstr, List.takeWhile_append_of_pos hpos]
  simp

theorem nul_notMem_cstr (cells : List Byte) : NUL ∉ cstr cells := by
  intro h
  simpa using List.mem_takeWhile_imp h

theorem cstr_of_notMem {l : List Byte} (hl : NUL ∉ l) : cstr l = l := by
  rw [cstr, List.takeWhile_eq_self_iff]
  intro b hb
  simpa using ne_of_mem_of_not_mem hb hl

end UniRil
