import UniRil.Data.Context
import UniRil.NetworkRequests.Fields

/-!
# A search that never goes back (channel_controller.c)

`findInBuf` compares in one pass. Where a comparison fails it begins again behind the byte that
failed, so an occurrence that begins inside the failed comparison is missed.
-/

namespace UniRil.NetworkRequests

open AtTok (Line)

/-! ## Where a comparison begins -/

/-- The texts after which nothing of the needle is matched: failed comparisons, one after the other. -/
inductive Skipped (needle : Line) : Line → Prop
  | nil : Skipped needle []
  | failed {u pre : Line} {b : Byte} : u <+: needle → ¬u ++ [b] <+: needle → u ≠ needle → Skipped needle pre →
      Skipped needle (u ++ b :: pre)

/-- The needle stands where a comparison begins. -/
def Met (needle buf : Line) : Prop := ∃ pre rest, Skipped needle pre ∧ buf = pre ++ needle ++ rest

/-- The comparison at hand fails at a byte of `buf`, and the needle is met behind it. -/
def MetLater (needle left buf : Line) : Prop :=
  ∃ u b behind, u <+: left ∧ ¬u ++ [b] <+: left ∧ u ≠ left ∧ Met needle behind ∧ buf = u ++ b :: behind

theorem metLater_equal {needle left buf : Line} {c : Byte} :
    MetLater needle (c :: left) (c :: buf) ↔ MetLater needle left buf := by
  constructor
  · rintro ⟨u, b, behind, hu, hb, hne, hmet, heq⟩
    cases u with
    | nil =>
      obtain ⟨rfl, rfl⟩ := List.cons.inj heq
      exact absurd (List.cons_prefix_cons.2 ⟨rfl, List.nil_prefix⟩) hb
    | cons d u =>
      obtain ⟨rfl, rfl⟩ := List.cons.inj heq
      refine ⟨u, b, behind, (List.cons_prefix_cons.1 hu).2, ?_, ?_, hmet, rfl⟩
      · exact fun h => hb (List.cons_prefix_cons.2 ⟨rfl, h⟩)
      · exact fun h => hne (congrArg (c :: ·) h)
  · rintro ⟨u, b, behind, hu, hb, hne, hmet, rfl⟩
    refine ⟨c :: u, b, behind, List.cons_prefix_cons.2 ⟨rfl, hu⟩, ?_, ?_, hmet, rfl⟩
    · exact fun h => hb (List.cons_prefix_cons.1 h).2
    · exact fun h => hne (List.cons.inj h).2

theorem metLater_different {needle left buf : Line} {b c : Byte} (hne : c ≠ b) :
    MetLater needle (c :: left) (b :: buf) ↔ Met needle buf := by
  constructor
  · rintro ⟨u, d, behind, hu, -, -, hmet, heq⟩
    cases u with
    | nil =>
      obtain ⟨rfl, rfl⟩ := List.cons.inj heq
      exact hmet
    | cons e u =>
      obtain ⟨rfl, rfl⟩ := List.cons.inj heq
      exact absurd (List.cons_prefix_cons.1 hu).1.symm hne
  · intro hmet
    refine ⟨[], b, buf, List.nil_prefix, ?_, (List.cons_ne_nil c left).symm, hmet, rfl⟩
    exact fun h => hne (List.cons_prefix_cons.1 h).1.symm

/-- The needle is met at once, or behind a failed comparison. -/
theorem met_iff (needle buf : Line) : Met needle buf ↔ needle <+: buf ∨ MetLater needle needle buf := by
  constructor
  · rintro ⟨pre, rest, hpre, rfl⟩
    cases hpre with
    | nil => exact .inl ⟨rest, rfl⟩
    | failed hu hb hne hskipped =>
      rename_i u pre b
      exact .inr ⟨u, b, pre ++ needle ++ rest, hu, hb, hne, ⟨pre, rest, hskipped, rfl⟩, by simp⟩
  · rintro (⟨rest, rfl⟩ | ⟨u, b, behind, hu, hb, hne, ⟨pre, rest, hskipped, rfl⟩, rfl⟩)
    · exact ⟨[], rest, .nil, rfl⟩
    · exact ⟨u ++ b :: pre, rest, .failed hu hb hne hskipped, by simp⟩

/-- With `left` still to be matched: it comes next, or its comparison fails and the needle is met later. -/
theorem findFrom_iff (needle left buf : Line) :
    findFrom needle left buf = true ↔ left <+: buf ∨ MetLater needle left buf := by
  induction buf generalizing left with
  | nil =>
    cases left with
    | nil => simp [findFrom]
    | cons c left => simp [findFrom, MetLater]
  | cons b buf ih =>
    cases left with
    | nil => simp [findFrom]
    | cons c left =>
      by_cases hcb : c = b
      · subst hcb
        rw [findFrom, if_pos rfl, ih, List.cons_prefix_cons, metLater_equal]
        simp
      · rw [findFrom, if_neg hcb, ih, ← met_iff, metLater_different hcb, List.cons_prefix_cons]
        simp [hcb]

theorem findInBuf_iff (buf needle : Line) : findInBuf buf needle = true ↔ Met needle buf := by
  rw [findInBuf, findFrom_iff, met_iff]

/-- What is found is there. -/
theorem infix_of_findInBuf {buf needle : Line} (h : findInBuf buf needle = true) : needle <:+: buf := by
  obtain ⟨pre, rest, -, rfl⟩ := (findInBuf_iff buf needle).1 h
  exact ⟨pre, rest, rfl⟩

/-- The packet service has the search under its own name. -/
theorem findInBuf_eq (buf needle : Line) : Data.findInBuf buf needle = findInBuf buf needle := by
  have hgo {needle : Line} (hneedle : needle ≠ []) {left : Line} (hleft : left ≠ []) (buf : Line) :
      Data.findInBuf.go needle left buf = findFrom needle left buf := by
    induction buf generalizing left with
    | nil =>
      obtain ⟨c, left, rfl⟩ := List.exists_cons_of_ne_nil hleft
      rfl
    | cons b buf ih =>
      obtain ⟨c, left, rfl⟩ := List.exists_cons_of_ne_nil hleft
      rw [Data.findInBuf.go, findFrom, ih hneedle]
      cases left with
      | nil => simp [findFrom]
      | cons d left => rw [ih (List.cons_ne_nil d left), List.isEmpty_cons, Bool.false_or]
  cases needle with
  | nil => simp [Data.findInBuf, findInBuf, findFrom]
  | cons c needle =>
    have hne := List.cons_ne_nil c needle
    rw [Data.findInBuf, findInBuf, hgo hne hne, List.isEmpty_cons, Bool.false_or]

/-! ## Is it found? -/

/-- **The search is right exactly where an occurrence is met**: with an empty needle, without an
occurrence, or with one that begins where a comparison begins. -/
theorem findInBuf_right_iff (buf needle : Line) :
    (findInBuf buf needle = true ↔ needle = [] ∨ needle <:+: buf) ↔
      needle = [] ∨ ¬needle <:+: buf ∨ ∃ pre rest, Skipped needle pre ∧ buf = pre ++ needle ++ rest := by
  have hsound : findInBuf buf needle = true → needle <:+: buf := infix_of_findInBuf
  have hmet : findInBuf buf needle = true ↔ ∃ pre rest, Skipped needle pre ∧ buf = pre ++ needle ++ rest :=
    findInBuf_iff buf needle
  by_cases hempty : needle = []
  · subst hempty
    simp [findInBuf, findFrom]
  · rw [← hmet]
    simp only [hempty, false_or]
    by_cases hoccurs : needle <:+: buf
    · simp [hoccurs]
    · have hnot : ¬findInBuf buf needle = true := fun h => hoccurs (hsound h)
      simp [hoccurs, hnot]

/-- The second plus sign is taken for the end of a failed comparison. -/
theorem findInBuf_right_counterexample :
    ¬∀ buf needle : Line, findInBuf buf needle = true ↔ needle = [] ∨ needle <:+: buf := by
  intro h
  have hfound := (h (ascii "++CSQ: 20,99") (ascii "+CSQ")).2 (.inr ⟨ascii "+", ascii ": 20,99", by decide⟩)
  exact absurd hfound (by decide)

/-! ## Needles that are always found -/

theorem findFrom_replicate {n : Nat} {b : Byte} {j : Nat} (hj : j ≤ n) {buf : Line}
    (h : List.replicate j b <+: buf ∨ List.replicate n b <:+: buf) :
    findFrom (List.replicate n b) (List.replicate j b) buf = true := by
  induction buf generalizing j with
  | nil =>
    have hzero : j = 0 := by
      rcases h with h | h
      · simpa using List.prefix_nil.1 h
      · have hn : n = 0 := by simpa using List.infix_nil.1 h
        omega
    rw [hzero, List.replicate_zero, findFrom]
  | cons c buf ih =>
    cases j with
    | zero => rw [List.replicate_zero, findFrom]
    | succ j =>
      rw [List.replicate_succ, findFrom]
      split
      · rename_i hbc
        subst hbc
        refine ih (by omega) ?_
        rcases h with h | h
        · exact .inl (List.cons_prefix_cons.1 (by rwa [List.replicate_succ] at h)).2
        · rcases List.infix_cons_iff.1 h with hprefix | hinfix
          · -- What is left is shorter than the needle behind its first byte.
            obtain ⟨n, rfl⟩ := Nat.exists_eq_succ_of_ne_zero (by omega : n ≠ 0)
            rw [List.replicate_succ, List.cons_prefix_cons] at hprefix
            have hshort : List.replicate j b <+: List.replicate n b := by
              refine ⟨List.replicate (n - j) b, ?_⟩
              rw [List.replicate_append_replicate]
              congr 1
              omega
            exact .inl (hshort.trans hprefix.2)
          · exact .inr hinfix
      · rename_i hbc
        refine ih (le_refl n) (.inr ?_)
        rcases h with h | h
        · rw [List.replicate_succ, List.cons_prefix_cons] at h
          exact absurd h.1 hbc
        · rcases List.infix_cons_iff.1 h with hprefix | hinfix
          · obtain ⟨n, rfl⟩ := Nat.exists_eq_succ_of_ne_zero (by omega : n ≠ 0)
            rw [List.replicate_succ, List.cons_prefix_cons] at hprefix
            exact absurd hprefix.1 hbc
          · exact hinfix

/-- One byte too many makes the comparison fail. -/
theorem findFrom_late {needle : Line} {b d : Byte} (hne : b ≠ d) (j : Nat) (left buf : Line) :
    findFrom needle (List.replicate j b ++ d :: left) (List.replicate j b ++ b :: buf) =
      findFrom needle needle buf := by
  induction j with
  | zero => rw [List.replicate_zero, List.nil_append, List.nil_append, findFrom, if_neg (Ne.symm hne)]
  | succ j ih => rw [List.replicate_succ, List.cons_append, List.cons_append, findFrom, if_pos rfl, ih]

/-- How often a text begins with `b`. -/
theorem leading (b : Byte) (l : Line) :
    ∃ k, l = List.replicate k b ∨ ∃ d left, b ≠ d ∧ l = List.replicate k b ++ d :: left := by
  induction l with
  | nil => exact ⟨0, .inl rfl⟩
  | cons c l ih =>
    by_cases hbc : b = c
    · subst hbc
      obtain ⟨k, rfl | ⟨d, left, hne, rfl⟩⟩ := ih
      · exact ⟨k + 1, .inl rfl⟩
      · exact ⟨k + 1, .inr ⟨d, left, hne, rfl⟩⟩
    · exact ⟨0, .inr ⟨c, l, hbc, rfl⟩⟩

/-- **A needle is found wherever it is** exactly when it is one byte over and over. -/
theorem findInBuf_always_iff (needle : Line) :
    (∀ buf, findInBuf buf needle = true ↔ needle = [] ∨ needle <:+: buf) ↔ ∃ n b, needle = List.replicate n b := by
  constructor
  · intro h
    cases needle with
    | nil => exact ⟨0, 0, rfl⟩
    | cons b needle =>
      obtain ⟨k, hsplit | ⟨d, left, hne, hsplit⟩⟩ := leading b (b :: needle)
      · exact ⟨k, b, hsplit⟩
      · -- Behind its first byte the needle is missed.
        have hoccurs : b :: needle <:+: b :: (b :: needle) := (List.suffix_cons b (b :: needle)).isInfix
        have hfound := (h (b :: (b :: needle))).2 (.inr hoccurs)
        have hbuf : b :: (b :: needle) = List.replicate k b ++ b :: d :: left := by
          rw [hsplit, ← List.cons_append, ← List.replicate_succ, List.replicate_succ', List.append_assoc]
          rfl
        rw [findInBuf, hbuf, hsplit, findFrom_late hne] at hfound
        have hle := (infix_of_findInBuf hfound).length_le
        cases k with
        | zero =>
          obtain ⟨hbd, -⟩ := List.cons.inj hsplit
          exact absurd hbd hne
        | succ k => simp at hle
  · rintro ⟨n, b, rfl⟩ buf
    constructor
    · exact fun h => .inr (infix_of_findInBuf h)
    · rintro (hempty | hinfix)
      · rw [hempty, findInBuf, findFrom]
      · exact findFrom_replicate (le_refl n) (.inr hinfix)

end UniRil.NetworkRequests
