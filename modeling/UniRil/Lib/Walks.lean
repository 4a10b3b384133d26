import Mathlib.Data.List.TakeWhile

/-!
# Loops over a list that an element can leave

`rejects` tells for which elements a step leaves the loop, and with what.
-/

namespace UniRil.Walks

variable {α δ ε κ : Type}

/-- The data behind the loop, and with what it was left. -/
def walk (step : α → δ → Except ε δ) : List α → δ → δ × Option ε
  | [], d => (d, none)
  | a :: as, d =>
    match step a d with
    | .error e => (d, some e)
    | .ok d' => walk step as d'

theorem walk_cons_ok {step : α → δ → Except ε δ} {a : α} {d d' : δ} (h : step a d = .ok d') (as : List α) :
    walk step (a :: as) d = walk step as d' := by
  rw [walk, h]

theorem walk_cons_error {step : α → δ → Except ε δ} {a : α} {d : δ} {e : ε} (h : step a d = .error e) (as : List α) :
    walk step (a :: as) d = (d, some e) := by
  rw [walk, h]

/-- What the steps keep holds behind the loop. -/
theorem walk_keeps {step : α → δ → Except ε δ} {P : δ → Prop} {as : List α}
    (h : ∀ a ∈ as, ∀ d d', step a d = .ok d' → P d → P d') {d : δ} (hd : P d) : P (walk step as d).1 := by
  induction as generalizing d with
  | nil => exact hd
  | cons a as ih =>
    have hrest := fun a' ha' => h a' (List.mem_cons_of_mem a ha')
    cases hstep : step a d with
    | error e =>
      rw [walk_cons_error hstep]
      exact hd
    | ok d' =>
      rw [walk_cons_ok hstep]
      exact ih hrest (h a List.mem_cons_self d d' hstep hd)

/-- Whether a step leaves the loop does not depend on the data. -/
def Rejects (step : α → δ → Except ε δ) (rejects : α → Option ε) : Prop :=
  ∀ a d, (∃ d', step a d = .ok d' ∧ rejects a = none) ∨ ∃ e, step a d = .error e ∧ rejects a = some e

section

variable {step : α → δ → Except ε δ} {rejects : α → Option ε}

theorem Rejects.cons_ok (h : Rejects step rejects) {a : α} (ha : rejects a = none) (as : List α) (d : δ) :
    ∃ d', step a d = .ok d' ∧ walk step (a :: as) d = walk step as d' := by
  obtain ⟨d', hd', -⟩ | ⟨e, -, he⟩ := h a d
  · exact ⟨d', hd', walk_cons_ok hd' as⟩
  · rw [ha] at he
    exact absurd he (Option.some_ne_none e).symm

theorem Rejects.cons_error (h : Rejects step rejects) {a : α} {e : ε} (ha : rejects a = some e) (as : List α) (d : δ) :
    walk step (a :: as) d = (d, some e) := by
  obtain ⟨d', -, hnone⟩ | ⟨e', he', hsome⟩ := h a d
  · rw [ha] at hnone
    exact absurd hnone (Option.some_ne_none e)
  · rw [ha] at hsome
    rw [walk_cons_error he', Option.some.inj hsome]

/-- Elements that are not rejected are passed. -/
theorem Rejects.walk_append (h : Rejects step rejects) {as : List α} (has : ∀ a ∈ as, rejects a = none) (bs : List α)
    (d : δ) : walk step (as ++ bs) d = walk step bs (walk step as d).1 := by
  induction as generalizing d with
  | nil => rfl
  | cons a as ih =>
    obtain ⟨d', hd', -⟩ := h.cons_ok (has a List.mem_cons_self) as d
    rw [List.cons_append, walk_cons_ok hd', walk_cons_ok hd', ih fun a' ha' => has a' (List.mem_cons_of_mem _ ha')]

/-- The loop is left with what the first rejected element is rejected with. -/
theorem Rejects.walk_snd (h : Rejects step rejects) (as : List α) (d : δ) :
    (walk step as d).2 = as.findSome? rejects := by
  induction as generalizing d with
  | nil => rfl
  | cons a as ih =>
    rw [List.findSome?_cons]
    cases ha : rejects a with
    | none =>
      obtain ⟨d', -, hwalk⟩ := h.cons_ok ha as d
      rw [hwalk, ih]
    | some e => rw [h.cons_error ha]

/-- What the steps add to a log is added for the elements before the first rejected one. -/
theorem Rejects.walk_log (h : Rejects step rejects) {log : δ → List κ} {adds : α → List κ}
    (hadds : ∀ a d d', step a d = .ok d' → log d' = log d ++ adds a) (as : List α) (d : δ) :
    log (walk step as d).1 = log d ++ (as.takeWhile fun a => (rejects a).isNone).flatMap adds := by
  induction as generalizing d with
  | nil => simp [walk]
  | cons a as ih =>
    cases ha : rejects a with
    | none =>
      obtain ⟨d', hd', hwalk⟩ := h.cons_ok ha as d
      rw [hwalk, ih, hadds a d d' hd', List.takeWhile_cons_of_pos (by simp [ha]), List.flatMap_cons, List.append_assoc]
    | some e => rw [h.cons_error ha, List.takeWhile_cons_of_neg (by simp [ha]), List.flatMap_nil, List.append_nil]

end

end UniRil.Walks
