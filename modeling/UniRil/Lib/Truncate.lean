import Mathlib.Data.List.TakeDrop

/-!
# Appending to a buffer that is too short

What does not fit is left out. However a text is put together, the buffer holds the beginning of the whole text.
-/

namespace Truncate

variable {α : Type*}

/-- `src` behind `dst`, in a buffer with room for `n` elements. -/
def append (n : Nat) (dst src : List α) : List α := dst ++ src.take (n - dst.length)

/-- A buffer that holds the beginning of `a` holds the beginning of `a ++ b` after `b` was appended. -/
theorem append_take (n : Nat) (a b : List α) : append n (a.take n) b = (a ++ b).take n := by
  rw [append, List.take_append, List.length_take]
  congr 2
  omega

end Truncate
