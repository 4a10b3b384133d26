import UniRil.Lib.Lines
import UniRil.Readline.Code

/-! # What the line buffer of a channel means -/

namespace UniRil.Readline

/-- The buffer holds `text` from the cursor on, and the NUL of the last read right behind it. -/
structure Holds (b : ATBuffer) (text : List Byte) : Prop where
  size : b.s_ATBuffer.length = MAX_AT_RESPONSE + 1
  cells : ∃ stale, b.cells = text ++ NUL :: stale
  read : b.p_read = b.s_ATBufferCur + text.length

/-- No line of the stream starts with '>'. What follows the last newline counts as a line. -/
def NoPrompt (w : List Byte) : Prop :=
  ∀ pre post, w = pre ++ 62 :: post → ∃ c, pre.getLast? = some c ∧ isNewline c = false

/-- Every line fits in the buffer with the newlines before it and its terminator. -/
def Fits (w : List Byte) : Prop :=
  ∀ pre newlines line term post, w = pre ++ newlines ++ line ++ term ++ post →
    (∀ c ∈ newlines, isNewline c = true) → (∀ c ∈ line, isNewline c = false) → line ≠ [] →
    (∀ c ∈ term, isNewline c = true) → term.length ≤ 1 →
    newlines.length + line.length + term.length ≤ MAX_AT_RESPONSE

/-- The streams that `readline` frames. -/
structure Framed (w : List Byte) : Prop where
  noNul : NUL ∉ w
  noPrompt : NoPrompt w
  fits : Fits w

/-- Some suffix of a framed stream is framed when it starts where a line can start. -/
theorem Framed.after {pre w : List Byte} {e : Byte} (h : Framed (pre ++ e :: w)) (he : isNewline e = true) :
    Framed w := by
  refine ⟨?_, ?_, ?_⟩
  · intro hw
    exact h.noNul (by simp [hw])
  · rintro p post rfl
    obtain ⟨c, hc, hnl⟩ := h.noPrompt (pre ++ e :: p) post (by simp)
    cases p with
    | nil =>
      obtain rfl : e = c := by simpa using hc
      exact absurd he (by simp [hnl])
    | cons d p => exact ⟨c, by simpa [List.getLast?_cons_cons] using hc, hnl⟩
  · rintro p newlines line term post rfl hnl hline hne hterm hlen
    exact h.fits (pre ++ e :: p) newlines line term post (by simp) hnl hline hne hterm hlen

theorem Framed.skip {s w : List Byte} (h : Framed (s ++ w)) (hs : ∀ c ∈ s, isNewline c = true) : Framed w := by
  induction s with
  | nil => exact h
  | cons c s ih =>
    have hsw : Framed (s ++ w) := @Framed.after [] _ _ h (hs c (by simp))
    exact ih hsw fun d hd => hs d (by simp [hd])

/-- A short stream without '>' is framed. -/
theorem framed_of_short {w : List Byte} (hnul : NUL ∉ w) (hgt : 62 ∉ w) (hlen : w.length ≤ MAX_AT_RESPONSE) :
    Framed w := by
  refine ⟨hnul, ?_, ?_⟩
  · rintro pre post rfl
    exact absurd (by simp) hgt
  · rintro pre newlines line term post rfl - - - - -
    simp only [List.length_append] at hlen
    omega

theorem framed_nil : Framed [] := framed_of_short (by simp) (by simp) (by simp)

/-- Newlines, then a line start: it is not the prompt. -/
theorem NoPrompt.head {s w : List Byte} (h : NoPrompt (s ++ w)) (hs : ∀ c ∈ s, isNewline c = true) (post : List Byte) :
    w ≠ 62 :: post := by
  rintro rfl
  obtain ⟨c, hc, hnl⟩ := h s post rfl
  exact absurd (hs c (List.mem_of_getLast? hc)) (by simp [hnl])

end UniRil.Readline
