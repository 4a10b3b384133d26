import Mathlib.Data.List.Basic

/-!
# The lines of a stream

A line is a non-empty maximal run of elements that are no separators, ended by a separator.
-/

namespace Lines

variable {α : Type*} {isSep : α → Bool}

/-- The lines of `w`, in order. What follows the last separator is not a line yet. -/
def lines (isSep : α → Bool) (w : List α) : List (List α) :=
  (w.splitOnP isSep).dropLast.filter fun l => !l.isEmpty

theorem lines_append_sep {l : List α} {e : α} (hl : ∀ b ∈ l, isSep b = false) (he : isSep e = true)
    (w : List α) : lines isSep (l ++ e :: w) = (if l.isEmpty then [] else [l]) ++ lines isSep w := by
  rw [lines, List.splitOnP_append_cons_of_forall_mem hl e he,
    List.dropLast_cons_of_ne_nil (List.splitOnP_ne_nil isSep w), List.filter_cons, ← lines]
  cases l <;> simp

theorem lines_line {l : List α} {e : α} (hl : ∀ b ∈ l, isSep b = false) (hne : l ≠ [])
    (he : isSep e = true) (w : List α) : lines isSep (l ++ e :: w) = l :: lines isSep w := by
  rw [lines_append_sep hl he, if_neg (by simpa using hne), List.singleton_append]

theorem lines_sep {e : α} (he : isSep e = true) (w : List α) : lines isSep (e :: w) = lines isSep w := by
  simpa using lines_append_sep (l := []) (by simp) he w

theorem lines_seps {s : List α} (hs : ∀ b ∈ s, isSep b = true) (w : List α) :
    lines isSep (s ++ w) = lines isSep w := by
  induction s with
  | nil => rfl
  | cons b s ih =>
    rw [List.cons_append, lines_sep (hs b (by simp)), ih fun b hb => hs b (by simp [hb])]

theorem lines_unended {w : List α} (hw : ∀ b ∈ w, isSep b = false) : lines isSep w = [] := by
  rw [lines, List.splitOnP_eq_singleton hw]
  rfl

/-- A stream either has no separator or is a run of others, a separator and the rest. -/
theorem run_or_split (isSep : α → Bool) (w : List α) :
    (∀ b ∈ w, isSep b = false) ∨
      ∃ l e rest, w = l ++ e :: rest ∧ (∀ b ∈ l, isSep b = false) ∧ isSep e = true := by
  induction w with
  | nil => exact Or.inl (by simp)
  | cons b w ih =>
    rcases hb : isSep b with _ | _
    · rcases ih with h | ⟨l, e, rest, rfl, hl, he⟩
      · exact Or.inl (by simpa [hb] using h)
      · exact Or.inr ⟨b :: l, e, rest, rfl, by simpa [hb] using hl, he⟩
    · exact Or.inr ⟨[], b, w, rfl, by simp, hb⟩

end Lines
