import Mathlib.Data.List.Induction
import Mathlib.Logic.Function.Basic

/-!
# Runs of a labelled transition system

A system is a step function; the label of a step says which party moves and how, so that a step is
determined by its label. A label that is not enabled gives `none`.
-/

namespace Runs

variable {σ α : Type*} (step : σ → α → Option σ)

/-- The state after the steps of a list, if each was enabled. -/
def run : σ → List α → Option σ
  | s, [] => some s
  | s, a :: as => (step s a).bind (run · as)

/-- `C` holds of every step of the run: of the state before it and its label. -/
def Steps (C : σ → α → Prop) : σ → List α → Prop
  | _, [] => True
  | s, a :: as => C s a ∧ ∀ s', step s a = some s' → Steps C s' as

/-- `P` holds of every state of the run. -/
def Always (P : σ → Prop) : σ → List α → Prop
  | s, [] => P s
  | s, a :: as => P s ∧ ∀ s', step s a = some s' → Always P s' as

/-- Some run leads from `init` to the state. -/
def Reachable (init s : σ) : Prop := ∃ as, run step init as = some s

variable {step} {P I : σ → Prop} {C : σ → α → Prop}

instance Steps.decidable [∀ s a, Decidable (C s a)] : (s : σ) → (as : List α) → Decidable (Steps step C s as)
  | _, [] => inferInstanceAs (Decidable True)
  | s, a :: as =>
    match h : step s a with
    | none => decidable_of_iff (C s a) (by simp [Steps, h])
    | some s' =>
      have := Steps.decidable s' as
      decidable_of_iff (C s a ∧ Steps step C s' as) (by simp [Steps, h])

theorem run_cons_some {s s' : σ} {a : α} {as : List α} :
    run step s (a :: as) = some s' ↔ ∃ m, step s a = some m ∧ run step m as = some s' :=
  Option.bind_eq_some_iff

theorem run_append (s : σ) (as bs : List α) :
    run step s (as ++ bs) = (run step s as).bind (run step · bs) := by
  induction as generalizing s with
  | nil => rfl
  | cons a as ih => simp only [List.cons_append, run, Option.bind_assoc, ih]

/-- A system whose labels are translated runs as the other one does on the translated labels. -/
theorem run_map {β : Type*} (f : β → α) (s : σ) (bs : List β) :
    run (fun s b => step s (f b)) s bs = run step s (bs.map f) := by
  induction bs generalizing s with
  | nil => rfl
  | cons b bs ih => simp only [List.map_cons, run, ih]

theorem Reachable.refl (s : σ) : Reachable step s s := ⟨[], rfl⟩

theorem Reachable.tail {init s s' : σ} {a : α} (h : Reachable step init s) (hstep : step s a = some s') :
    Reachable step init s' := by
  obtain ⟨as, has⟩ := h
  exact ⟨as ++ [a], by simp [run_append, has, run, hstep]⟩

theorem Reachable.run {init s s' : σ} {as : List α} (h : Reachable step init s)
    (hrun : Runs.run step s as = some s') : Reachable step init s' := by
  obtain ⟨bs, hbs⟩ := h
  exact ⟨bs ++ as, by rw [run_append, hbs, Option.bind_some, hrun]⟩

/-- An invariant that a step keeps under `C` holds at the end of a run whose steps all meet `C`. -/
theorem invariant_run (hstep : ∀ s a s', I s → C s a → step s a = some s' → I s') {s s' : σ} {as : List α}
    (h : I s) (hC : Steps step C s as) (hrun : run step s as = some s') : I s' := by
  induction as generalizing s with
  | nil =>
    obtain rfl : s = s' := by simpa [run] using hrun
    exact h
  | cons a as ih =>
    obtain ⟨m, hm, hrun⟩ := run_cons_some.1 hrun
    exact ih (hstep s a m h hC.1 hm) (hC.2 m hm) hrun

/-- An invariant that every step keeps holds in every reachable state. -/
theorem Reachable.invariant {init s : σ} (h : Reachable step init s) (hinit : I init)
    (hstep : ∀ s a s', I s → step s a = some s' → I s') : I s := by
  obtain ⟨as, has⟩ := h
  have htrue : ∀ (s : σ) (as : List α), Steps step (fun _ _ => True) s as := by
    intro s as
    induction as generalizing s with
    | nil => trivial
    | cons a as ih => exact ⟨trivial, fun m _ => ih m⟩
  exact invariant_run (fun s a s' hI _ hs => hstep s a s' hI hs) hinit (htrue init as) has

theorem Always.mono {Q : σ → Prop} (hPQ : ∀ s, P s → Q s) {s : σ} {as : List α} (h : Always step P s as) :
    Always step Q s as := by
  induction as generalizing s with
  | nil => exact hPQ s h
  | cons a as ih => exact ⟨hPQ s h.1, fun m hm => ih (h.2 m hm)⟩

/-- What always holds holds at the end. -/
theorem Always.last {s s' : σ} {as : List α} (h : Always step P s as) (hrun : run step s as = some s') : P s' := by
  induction as generalizing s with
  | nil =>
    obtain rfl : s = s' := by simpa [run] using hrun
    exact h
  | cons a as ih =>
    obtain ⟨m, hm, hrun⟩ := run_cons_some.1 hrun
    exact ih (h.2 m hm) hrun

/-- What steps under `C` keep holds throughout a run whose steps all meet `C`. -/
theorem always_of_steps (hstep : ∀ s a s', P s → C s a → step s a = some s' → P s') {s : σ} {as : List α} (h : P s)
    (hC : Steps step C s as) : Always step P s as := by
  induction as generalizing s with
  | nil => exact h
  | cons a as ih => exact ⟨h, fun m hm => ih (hstep s a m h hC.1 hm) (hC.2 m hm)⟩

/-- A property that an invariant of the steps under `C` implies and that a step outside `C` breaks
holds throughout a run exactly when all its steps meet `C`. -/
theorem always_iff_steps_of_invariant (hstep : ∀ s a s', I s → C s a → step s a = some s' → I s')
    (hP : ∀ s, I s → P s) (hbreak : ∀ s a, I s → ¬ C s a → ∃ s', step s a = some s' ∧ ¬ P s') {s : σ} (h : I s)
    (as : List α) : Always step P s as ↔ Steps step C s as := by
  induction as generalizing s with
  | nil => exact iff_of_true (hP s h) trivial
  | cons a as ih =>
    simp only [Always, Steps]
    by_cases hC : C s a
    · refine ⟨fun hA => ⟨hC, fun m hm => ?_⟩, fun hS => ⟨hP s h, fun m hm => ?_⟩⟩
      · exact (ih (hstep s a m h hC hm)).1 (hA.2 m hm)
      · exact (ih (hstep s a m h hC hm)).2 (hS.2 m hm)
    · obtain ⟨m, hm, hnot⟩ := hbreak s a h hC
      refine iff_of_false (fun hA => hnot ?_) fun hS => hC hS.1
      have hnext := hA.2 m hm
      cases as with
      | nil => exact hnext
      | cons b bs => exact hnext.1

/-- Under an invariant of the steps that meet `C`, steps that meet `C` have what `C` implies. -/
theorem steps_mono {D : σ → α → Prop} (hstep : ∀ s a s', I s → C s a → step s a = some s' → I s')
    (himp : ∀ s a, I s → C s a → D s a) {s : σ} {as : List α} (h : I s) (hC : Steps step C s as) : Steps step D s as := by
  induction as generalizing s with
  | nil => trivial
  | cons a as ih => exact ⟨himp s a h hC.1, fun m hm => ih (hstep s a m h hC.1 hm) (hC.2 m hm)⟩

/-- Under an invariant of the steps that meet `C`, a property of steps that agrees with `C` holds of
all steps of a run exactly when `C` does. -/
theorem steps_iff_steps {D : σ → α → Prop} (hstep : ∀ s a s', I s → C s a → step s a = some s' → I s')
    (hiff : ∀ s a, I s → (D s a ↔ C s a)) {s : σ} (h : I s) (as : List α) : Steps step D s as ↔ Steps step C s as := by
  induction as generalizing s with
  | nil => exact Iff.rfl
  | cons a as ih =>
    refine (and_congr_left' (hiff s a h)).trans (and_congr_right fun hC => ?_)
    exact forall_congr' fun m => forall_congr' fun hm => ih (hstep s a m h hC hm)

/-- A property that steps under `C` keep and that a step outside `C` breaks holds throughout a run
exactly when all its steps meet `C`. -/
theorem always_iff_steps (hI : ∀ s a s', I s → step s a = some s' → I s')
    (hkeep : ∀ s a s', I s → P s → C s a → step s a = some s' → P s')
    (hbreak : ∀ s a, I s → ¬ C s a → ∃ s', step s a = some s' ∧ ¬ P s') {s : σ} (h : I s) (hP : P s) (as : List α) :
    Always step P s as ↔ Steps step C s as :=
  always_iff_steps_of_invariant
    (fun s a s' hs hC hstep => And.intro (hI s a s' hs.1 hstep) (hkeep s a s' hs.1 hs.2 hC hstep)) (fun _ => And.right)
    (fun s a hs => hbreak s a hs.1) (And.intro h hP) as

/-- An invariant of the state and the steps that led to it. -/
theorem history_invariant {H : List α → σ → Prop} {init : σ} (hinit : H [] init)
    (hstep : ∀ as s a s', H as s → step s a = some s' → H (as ++ [a]) s') {as : List α} {s : σ}
    (hrun : run step init as = some s) : H as s := by
  induction as using List.reverseRecOn generalizing s with
  | nil =>
    obtain rfl : init = s := by simpa [run] using hrun
    exact hinit
  | append_singleton as a ih =>
    rw [run_append, Option.bind_eq_some_iff] at hrun
    obtain ⟨m, hm, hlast⟩ := hrun
    exact hstep as m a s (ih hm) (by simpa [run] using hlast)

/-- A property of every step, proved of each step from a reachable state. -/
theorem steps_of_reachable {init : σ} (h : ∀ s a, Reachable step init s → C s a) {s : σ} {as : List α}
    (hs : Reachable step init s) : Steps step C s as := by
  induction as generalizing s with
  | nil => trivial
  | cons a as ih => exact ⟨h s a hs, fun m hm => ih (hs.tail hm)⟩

/-- Steps that each lower a measure are at most as many as it allows. -/
theorem length_le_measure {μ : σ → Nat} (hI : ∀ s a s', I s → C s a → step s a = some s' → I s')
    (hμ : ∀ s a s', I s → C s a → step s a = some s' → μ s' < μ s) {s s' : σ} {as : List α} (h : I s)
    (hC : Steps step C s as) (hrun : run step s as = some s') : as.length + μ s' ≤ μ s := by
  induction as generalizing s with
  | nil =>
    obtain rfl : s = s' := by simpa [run] using hrun
    simp
  | cons a as ih =>
    obtain ⟨m, hm, hrun⟩ := run_cons_some.1 hrun
    have hless := hμ s a m h hC.1 hm
    have hrest := ih (hI s a m h hC.1 hm) (hC.2 m hm) hrun
    simp only [List.length_cons]
    omega

theorem steps_forall {ι : Type*} {D : ι → σ → α → Prop} {s : σ} {as : List α} :
    (∀ i, Steps step (D i) s as) ↔ Steps step (fun s a => ∀ i, D i s a) s as := by
  induction as generalizing s with
  | nil => exact iff_of_true (fun _ => trivial) trivial
  | cons a as ih =>
    simp only [Steps, forall_and, ← ih]
    exact and_congr_right fun _ => ⟨fun h m hm i => h i m hm, fun h i m hm => h m hm i⟩

theorem steps_congr {D : σ → α → Prop} (h : ∀ s a, D s a ↔ C s a) {s : σ} {as : List α} :
    Steps step D s as ↔ Steps step C s as := by
  rw [show D = C from funext fun s => funext fun a => propext (h s a)]

/-- What the steps of a run come to. -/
def tally (step : σ → α → Option σ) (f : σ → α → Nat) : σ → List α → Nat
  | _, [] => 0
  | s, a :: as => f s a + (step s a).elim 0 (tally step f · as)

/-- An invariant that counts goes up by what the steps of a run come to. -/
theorem count_run {J : σ → Nat → Prop} {f : σ → α → Nat}
    (hstep : ∀ s a s' d, J s d → step s a = some s' → J s' (d + f s a)) {s s' : σ} {as : List α} {d : Nat} (h : J s d)
    (hrun : run step s as = some s') : J s' (d + tally step f s as) := by
  induction as generalizing s d with
  | nil =>
    obtain rfl : s = s' := by simpa [run] using hrun
    exact h
  | cons a as ih =>
    obtain ⟨m, hm, hrun⟩ := run_cons_some.1 hrun
    have hrest := ih (hstep s a m d h hm) hrun
    rw [Nat.add_assoc] at hrest
    simpa only [tally, hm, Option.elim_some] using hrest

theorem tally_eq_zero {f : σ → α → Nat} {s : σ} {as : List α} :
    tally step f s as = 0 ↔ Steps step (fun s a => f s a = 0) s as := by
  induction as generalizing s with
  | nil => exact iff_of_true rfl trivial
  | cons a as ih =>
    simp only [tally, Steps, Nat.add_eq_zero_iff]
    refine and_congr_right fun _ => ?_
    cases h : step s a with
    | none => simp
    | some m => simpa using ih

instance decidableSteps [∀ s a, Decidable (C s a)] : (s : σ) → (as : List α) → Decidable (Steps step C s as)
  | _, [] => isTrue trivial
  | s, a :: as =>
    match h : step s a with
    | none => decidable_of_iff (C s a) ⟨fun hC => ⟨hC, by simp [h]⟩, And.left⟩
    | some m =>
      have := decidableSteps m as
      decidable_of_iff (C s a ∧ Steps step C m as)
        ⟨fun hC => ⟨hC.1, by rintro _ hm; obtain rfl := Option.some.inj (h.symm.trans hm); exact hC.2⟩,
          fun hC => ⟨hC.1, hC.2 m h⟩⟩

/-! ## Independent components -/

section Components

variable {ι : Type*} [DecidableEq ι] (stepOf : ι → σ → α → Option σ)

/-- A family of systems of which one moves at a time. -/
def stepAt (s : ι → σ) (a : ι × α) : Option (ι → σ) :=
  (stepOf a.1 (s a.1) a.2).map (Function.update s a.1)

/-- The steps of one component. -/
def component (i : ι) (as : List (ι × α)) : List α :=
  as.filterMap fun a => if a.1 = i then some a.2 else none

variable {stepOf}

theorem component_cons (i j : ι) (a : α) (as : List (ι × α)) :
    component i ((j, a) :: as) = if j = i then a :: component i as else component i as := by
  rw [component, List.filterMap_cons]
  by_cases h : j = i <;> simp [h, component]

theorem mem_component {i : ι} {a : α} {as : List (ι × α)} : a ∈ component i as ↔ (i, a) ∈ as := by
  induction as with
  | nil => simp [component]
  | cons b as ih =>
    obtain ⟨j, b⟩ := b
    rw [component_cons, List.mem_cons, Prod.mk.injEq, ← ih]
    by_cases h : j = i
    · rw [if_pos h, List.mem_cons]
      exact or_congr_left ⟨fun hab => ⟨h.symm, hab⟩, And.right⟩
    · rw [if_neg h]
      exact ⟨Or.inr, fun hor => hor.resolve_left fun hij => h hij.1.symm⟩

/-- A run of the family is a run of every component. -/
theorem run_component {s s' : ι → σ} {as : List (ι × α)} (hrun : run (stepAt stepOf) s as = some s') (i : ι) :
    run (stepOf i) (s i) (component i as) = some (s' i) := by
  induction as generalizing s with
  | nil =>
    obtain rfl : s = s' := by simpa [run] using hrun
    rfl
  | cons a as ih =>
    obtain ⟨m, hm, hrun⟩ := run_cons_some.1 hrun
    obtain ⟨t, ht, rfl⟩ := Option.map_eq_some_iff.1 hm
    obtain ⟨j, a⟩ := a
    have hrest := ih hrun
    rw [component_cons]
    by_cases hji : j = i
    · subst hji
      rw [Function.update_self] at hrest
      rw [if_pos rfl, run, ht, Option.bind_some, hrest]
    · rw [Function.update_of_ne (Ne.symm hji)] at hrest
      rw [if_neg hji, hrest]

/-- Each component has a property throughout a run of the family exactly when every step meets `C` in the
component that moves. -/
theorem always_stepAt_iff (hkeep : ∀ i s a s', P s → C s a → stepOf i s a = some s' → P s')
    (hbreak : ∀ i s a, ¬ C s a → ∃ s', stepOf i s a = some s' ∧ ¬ P s') {s : ι → σ} (h : ∀ i, P (s i))
    (as : List (ι × α)) :
    Always (stepAt stepOf) (fun s : ι → σ => ∀ i, P (s i)) s as ↔
      Steps (stepAt stepOf) (fun s a => C (s a.1) a.2) s as := by
  refine always_iff_steps_of_invariant (I := fun s : ι → σ => ∀ i, P (s i)) (fun s a s' hs hC hstep i => ?_)
    (fun _ => id) (fun s a _ hC => ?_) h as
  · obtain ⟨t, ht, rfl⟩ := Option.map_eq_some_iff.1 hstep
    by_cases hi : i = a.1
    · subst hi
      rw [Function.update_self]
      exact hkeep a.1 _ _ t (hs a.1) hC ht
    · rw [Function.update_of_ne hi]
      exact hs i
  · obtain ⟨t, ht, hnot⟩ := hbreak a.1 (s a.1) a.2 hC
    refine ⟨Function.update s a.1 t, Option.map_eq_some_iff.2 ⟨t, ht, rfl⟩, fun hall => hnot ?_⟩
    simpa using hall a.1

end Components

end Runs
