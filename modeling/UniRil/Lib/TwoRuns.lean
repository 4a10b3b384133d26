import Mathlib.Data.List.Forall2
import Mathlib.Order.Defs.Unbundled

/-!
# One party in two runs

The parties take steps in turn on one state. Two runs in which a party does the same are compared
where the party comes to act.
-/

namespace TwoRuns

variable {σ ι κ : Type} [DecidableEq ι] {step : σ → ι × κ → σ} {i : ι}

/-- What the party does in a run, each time with the state it meets. -/
def visits (step : σ → ι × κ → σ) (i : ι) : σ → List (ι × κ) → List (σ × κ)
  | _, [] => []
  | s, a :: run => if a.1 = i then (s, a.2) :: visits step i (step s a) run else visits step i (step s a) run

theorem visits_own (s : σ) (k : κ) (run : List (ι × κ)) :
    visits step i s ((i, k) :: run) = (s, k) :: visits step i (step s (i, k)) run := by
  rw [visits, if_pos rfl]

theorem visits_other {s : σ} {a : ι × κ} (ha : a.1 ≠ i) (run : List (ι × κ)) :
    visits step i s (a :: run) = visits step i (step s a) run := by
  rw [visits, if_neg ha]

/-- What a party does is its part of the run. -/
theorem visits_map (s : σ) (run : List (ι × κ)) :
    (visits step i s run).map Prod.snd = (run.filter fun a => a.1 = i).map Prod.snd := by
  induction run generalizing s with
  | nil => rfl
  | cons a run ih =>
    rw [visits]
    split
    · rename_i ha
      rw [List.map_cons, ih, List.filter_cons_of_pos (by simpa using ha), List.map_cons]
    · rename_i ha
      rw [ih, List.filter_cons_of_neg (by simpa using ha)]

/-- The party does the same in both runs. -/
theorem visits_sameOps {s t : σ} {run run' : List (ι × κ)}
    (h : (run.filter fun a => a.1 = i) = run'.filter fun a => a.1 = i) :
    List.Forall₂ (fun v v' => v.2 = v'.2) (visits step i s run) (visits step i t run') := by
  have hmap : (visits step i s run).map Prod.snd = (visits step i t run').map Prod.snd := by
    rw [visits_map, visits_map, h]
  rwa [← List.forall₂_eq_eq_eq, List.forall₂_map_left_iff, List.forall₂_map_right_iff] at hmap

/-- What is decided by the state that is met is decided visit by visit. -/
theorem forall₂_visits_iff {P Q : σ × κ → σ × κ → Prop} (hPQ : ∀ s t k, P (s, k) (t, k) ↔ Q (s, k) (t, k))
    {s t : σ} {run run' : List (ι × κ)} (h : (run.filter fun a => a.1 = i) = run'.filter fun a => a.1 = i) :
    List.Forall₂ P (visits step i s run) (visits step i t run') ↔
      List.Forall₂ Q (visits step i s run) (visits step i t run') := by
  have hops := @visits_sameOps _ _ _ _ step i s t run run' h
  constructor
  · refine List.Forall₂.mp (fun v v' hv => ?_) hops
    obtain ⟨s, k⟩ := v
    obtain ⟨t, k'⟩ := v'
    obtain rfl : k = k' := hv
    exact (hPQ s t k).1
  · refine List.Forall₂.mp (fun v v' hv => ?_) hops
    obtain ⟨s, k⟩ := v
    obtain ⟨t, k'⟩ := v'
    obtain rfl : k = k' := hv
    exact (hPQ s t k).2

/-! ## Unwinding -/

section Unwinding

variable {ν : Type} {view : σ → ν}

/-- The steps of the others leave what the party sees of the state. -/
def Unseen (step : σ → ι × κ → σ) (i : ι) (view : σ → ν) : σ → List (ι × κ) → Prop
  | _, [] => True
  | s, a :: run => (a.1 ≠ i → view (step s a) = view s) ∧ Unseen step i view (step s a) run

/-- What the party does and sees. -/
def trace (step : σ → ι × κ → σ) (i : ι) (view : σ → ν) (s : σ) (run : List (ι × κ)) : List (ν × κ) :=
  (visits step i s run).map fun v => (view v.1, v.2)

/-- The steps of the others can be left out. -/
theorem trace_purge (hstep : ∀ s t k, view s = view t → view (step s (i, k)) = view (step t (i, k))) {s t : σ}
    {run : List (ι × κ)} (hrun : Unseen step i view s run) (hst : view s = view t) :
    trace step i view s run = trace step i view t (run.filter fun a => a.1 = i) := by
  induction run generalizing s t with
  | nil => rfl
  | cons a run ih =>
    obtain ⟨j, k⟩ := a
    by_cases hj : j = i
    · subst hj
      rw [List.filter_cons_of_pos (by simp), trace, trace, visits_own, visits_own, List.map_cons, List.map_cons, hst]
      exact congrArg _ (ih hrun.2 (hstep s t k hst))
    · rw [List.filter_cons_of_neg (by simpa using hj), trace, visits_other hj]
      exact ih hrun.2 ((hrun.1 hj).trans hst)

/-- Two runs in which the party does the same and the others are not seen. -/
theorem trace_eq (hstep : ∀ s t k, view s = view t → view (step s (i, k)) = view (step t (i, k))) {s t : σ}
    {run run' : List (ι × κ)} (hrun : Unseen step i view s run) (hrun' : Unseen step i view t run')
    (h : (run.filter fun a => a.1 = i) = run'.filter fun a => a.1 = i) (hst : view s = view t) :
    trace step i view s run = trace step i view t run' := by
  rw [trace_purge hstep hrun hst, h, trace_purge hstep hrun' rfl]

/-- What is decided by the view is the same at every visit. -/
theorem forall₂_of_trace_eq {P : σ × κ → σ × κ → Prop} (hP : ∀ s t k, view s = view t → P (s, k) (t, k)) {s t : σ}
    {run run' : List (ι × κ)} (h : trace step i view s run = trace step i view t run') :
    List.Forall₂ P (visits step i s run) (visits step i t run') := by
  rw [trace, trace, ← List.forall₂_eq_eq_eq, List.forall₂_map_left_iff, List.forall₂_map_right_iff] at h
  refine h.imp fun v v' hv => ?_
  obtain ⟨s, k⟩ := v
  obtain ⟨t, k'⟩ := v'
  obtain ⟨hview, rfl⟩ := Prod.mk.inj hv
  exact hP s t k hview

end Unwinding

end TwoRuns
