import UniRil.Call.Requests
import UniRil.Lib.Lines

/-!
# The tokens between commas

What `strtok_r` makes of a text, piece by piece.
-/

namespace UniRil.Call.Requests

open AtTok (Line)

variable {s t : Line}

theorem comma_split (s : Line) : (44 : Byte) ∉ s ∨ ∃ t rest, s = t ++ 44 :: rest ∧ (44 : Byte) ∉ t := by
  rcases Lines.run_or_split (· == 44) s with h | ⟨t, e, rest, rfl, ht, he⟩
  · exact .inl fun hmem => by simpa using h 44 hmem
  · rw [beq_iff_eq.1 he]
    exact .inr ⟨t, rest, rfl, fun hmem => by simpa using ht 44 hmem⟩

theorem ne_comma (h : (44 : Byte) ∉ t) : ∀ c ∈ t, (c == (44 : Byte)) = false := by
  intro c hc
  rw [beq_eq_false_iff_ne]
  exact ne_of_mem_of_not_mem hc h

theorem tokens_of_notMem (h : (44 : Byte) ∉ t) : tokens 44 t = if t = [] then [] else [t] := by
  rw [tokens, List.splitOnP_eq_singleton (ne_comma h)]
  by_cases ht : t = []
  · simp [ht]
  · simp [ht]

theorem tokens_append_comma (h : (44 : Byte) ∉ t) (rest : Line) :
    tokens 44 (t ++ 44 :: rest) = (if t = [] then [] else [t]) ++ tokens 44 rest := by
  rw [tokens, List.splitOnP_append_cons_of_forall_mem (ne_comma h) 44 rfl, tokens]
  by_cases ht : t = []
  · simp [ht]
  · simp [ht]

/-- Tokens are not empty, and hold no comma. -/
theorem of_mem_tokens (h : t ∈ tokens 44 s) : t ≠ [] ∧ (44 : Byte) ∉ t := by
  have hpieces (s : Line) : ∀ p ∈ s.splitOnP (· == (44 : Byte)), (44 : Byte) ∉ p := by
    induction s with
    | nil => simp
    | cons c s ih =>
      rw [List.splitOnP_cons_eq_if_modifyHead]
      split
      · simpa using ih
      · next hc =>
        obtain ⟨p, ps, hps⟩ := List.exists_cons_of_ne_nil (List.splitOnP_ne_nil (· == (44 : Byte)) s)
        rw [hps] at ih ⊢
        rw [List.forall_mem_cons] at ih
        rw [List.modifyHead_cons, List.forall_mem_cons, List.mem_cons, not_or]
        exact ⟨⟨fun heq => hc (by simp [← heq]), ih.1⟩, ih.2⟩
  rw [tokens, List.mem_filter] at h
  exact ⟨by simpa using h.2, hpieces s t h.1⟩

theorem tokens_eq_nil_iff : tokens 44 s = [] ↔ ∀ c ∈ s, c = 44 := by
  induction s with
  | nil => simp [tokens_of_notMem]
  | cons c s ih =>
    by_cases hc : c = 44
    · subst hc
      have hskip : tokens 44 (44 :: s) = tokens 44 s := tokens_append_comma (t := []) (by simp) s
      rw [hskip, ih, List.forall_mem_cons]
      simp
    · refine iff_of_false (fun hnil => ?_) fun hall => hc (hall c List.mem_cons_self)
      rcases comma_split (c :: s) with hnone | ⟨t, rest, heq, ht⟩
      · simp [tokens_of_notMem hnone] at hnil
      · rw [heq, tokens_append_comma ht] at hnil
        cases t with
        | nil => exact hc (List.cons.inj heq).1
        | cons d t => simp at hnil

/-- The tokens of a list are its entries. -/
theorem tokens_intercalate {texts : List Line} (h : ∀ t ∈ texts, t ≠ [] ∧ (44 : Byte) ∉ t) :
    tokens 44 ((ascii ",").intercalate texts) = texts := by
  induction texts with
  | nil => exact tokens_of_notMem List.not_mem_nil
  | cons t texts ih =>
    rw [List.forall_mem_cons] at h
    obtain ⟨⟨hne, hcomma⟩, hrest⟩ := h
    cases texts with
    | nil => rw [List.intercalate_singleton, tokens_of_notMem hcomma, if_neg hne]
    | cons t' texts =>
      have hsplit := tokens_append_comma hcomma ((ascii ",").intercalate (t' :: texts))
      rw [ih hrest, if_neg hne, List.singleton_append] at hsplit
      rw [List.intercalate_cons_cons, List.append_assoc]
      exact hsplit

end UniRil.Call.Requests
