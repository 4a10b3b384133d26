import UniRil.Lib.FailRules

/-!
# Functions with labels

A function comes back, jumps to a label of its caller, crashes, or is still under way when its fuel
is used up. What it has done before stays done.
-/

namespace Flows

open FailRules

/-- How a function ends without coming back. -/
inductive Exit (ε : Type)
  | goto (l : ε)
  | crashes
  | runsOn

abbrev Flow (σ ε : Type) := ExceptT (Exit ε) (StateM σ)

variable {σ ε ε' α β : Type}

def goto (l : ε) : Flow σ ε α := throw (.goto l)

def crash : Flow σ ε α := throw .crashes

def runOn : Flow σ ε α := throw .runsOn

/-- The value that is there, or a crash. -/
def deref (o : Option α) : Flow σ ε α :=
  match o with
  | none => crash
  | some a => pure a

/-- The value that is there, or a jump. -/
def demand (o : Option α) (l : ε) : Flow σ ε α :=
  match o with
  | none => goto l
  | some a => pure a

/-- `m`, with the code that stands at its label. -/
def labelled (m : Flow σ ε α) (h : ε → Flow σ ε' α) : Flow σ ε' α := fun s =>
  match m s with
  | (.ok a, s') => (.ok a, s')
  | (.error (.goto l), s') => h l s'
  | (.error .crashes, s') => (.error .crashes, s')
  | (.error .runsOn, s') => (.error .runsOn, s')

/-! ## What holds at the end -/

/-- `Q` holds where the function comes back, `E` where it ends otherwise. -/
def wp (m : Flow σ ε α) (Q : α → σ → Prop) (E : Exit ε → σ → Prop) (s : σ) : Prop :=
  match m s with
  | (.ok a, s') => Q a s'
  | (.error e, s') => E e s'

/-- What has to hold at the exits of `m` for the code at its label to end well. -/
def atLabel (h : ε → Flow σ ε' α) (Q : α → σ → Prop) (E : Exit ε' → σ → Prop) : Exit ε → σ → Prop
  | .goto l, s => wp (h l) Q E s
  | .crashes, s => E .crashes s
  | .runsOn, s => E .runsOn s

section

variable {Q : α → σ → Prop} {E : Exit ε → σ → Prop} {s : σ}

@[simp ↓] theorem wp_pure (a : α) : wp (pure a : Flow σ ε α) Q E s ↔ Q a s := Iff.rfl

@[simp ↓] theorem wp_goto (l : ε) : wp (goto l : Flow σ ε α) Q E s ↔ E (.goto l) s := Iff.rfl

@[simp ↓] theorem wp_crash : wp (crash : Flow σ ε α) Q E s ↔ E .crashes s := Iff.rfl

@[simp ↓] theorem wp_runOn : wp (runOn : Flow σ ε α) Q E s ↔ E .runsOn s := Iff.rfl

@[simp ↓] theorem wp_get {Q : σ → σ → Prop} : wp (get : Flow σ ε σ) Q E s ↔ Q s s := Iff.rfl

@[simp ↓] theorem wp_modify {Q : PUnit → σ → Prop} (f : σ → σ) :
    wp (modify f : Flow σ ε PUnit) Q E s ↔ Q ⟨⟩ (f s) := Iff.rfl

@[simp ↓] theorem wp_bind {Q : β → σ → Prop} (m : Flow σ ε α) (f : α → Flow σ ε β) :
    wp (m >>= f) Q E s ↔ wp m (fun a => wp (f a) Q E) E s := by
  unfold wp
  rw [bindE_apply]
  rcases m s with ⟨r, s'⟩
  cases r <;> rfl

@[simp ↓] theorem wp_map {Q : β → σ → Prop} (f : α → β) (m : Flow σ ε α) :
    wp (f <$> m) Q E s ↔ wp m (fun a => Q (f a)) E s := by
  rw [← bind_pure_comp, wp_bind]
  rfl

@[simp ↓] theorem wp_ite (c : Prop) [Decidable c] (m n : Flow σ ε α) :
    wp (if c then m else n) Q E s ↔ (c → wp m Q E s) ∧ (¬ c → wp n Q E s) := by
  split
  · simp [*]
  · simp [*]

@[simp ↓] theorem wp_elim (o : Option β) (n : Flow σ ε α) (m : β → Flow σ ε α) :
    wp (o.elim n m) Q E s ↔ (∀ b, o = some b → wp (m b) Q E s) ∧ (o = none → wp n Q E s) := by
  cases o <;> simp

@[simp ↓] theorem wp_deref (o : Option α) :
    wp (deref o : Flow σ ε α) Q E s ↔ (∀ a, o = some a → Q a s) ∧ (o = none → E .crashes s) := by
  cases o <;> simp [deref]

@[simp ↓] theorem wp_demand (o : Option α) (l : ε) :
    wp (demand o l : Flow σ ε α) Q E s ↔ (∀ a, o = some a → Q a s) ∧ (o = none → E (.goto l) s) := by
  cases o <;> simp [demand]

@[simp ↓] theorem wp_labelled {E : Exit ε' → σ → Prop} (m : Flow σ ε α) (h : ε → Flow σ ε' α) :
    wp (labelled m h) Q E s ↔ wp m Q (atLabel h Q E) s := by
  unfold wp labelled
  rcases m s with ⟨r, s'⟩
  rcases r with (l | _ | _) | a <;> rfl

@[simp ↓] theorem atLabel_goto {E : Exit ε' → σ → Prop} (h : ε → Flow σ ε' α) (l : ε) :
    atLabel h Q E (.goto l) s ↔ wp (h l) Q E s := Iff.rfl

@[simp ↓] theorem atLabel_crashes {E : Exit ε' → σ → Prop} (h : ε → Flow σ ε' α) :
    atLabel h Q E .crashes s ↔ E .crashes s := Iff.rfl

@[simp ↓] theorem atLabel_runsOn {E : Exit ε' → σ → Prop} (h : ε → Flow σ ε' α) :
    atLabel h Q E .runsOn s ↔ E .runsOn s := Iff.rfl

theorem wp_mono {Q' : α → σ → Prop} {E' : Exit ε → σ → Prop} {m : Flow σ ε α} (h : wp m Q E s)
    (hQ : ∀ a s', Q a s' → Q' a s') (hE : ∀ e s', E e s' → E' e s') : wp m Q' E' s := by
  unfold wp at h ⊢
  rcases hms : m s with ⟨r, s'⟩
  rw [hms] at h
  cases r with
  | ok a => exact hQ a s' h
  | error e => exact hE e s' h

theorem wp_trivial (m : Flow σ ε α) (s : σ) : wp m (fun _ _ => True) (fun _ _ => True) s := by
  unfold wp
  split
  · trivial
  · trivial

theorem wp_congr {Q' : α → σ → Prop} {E' : Exit ε → σ → Prop} {m : Flow σ ε α} (hQ : ∀ a s', Q a s' ↔ Q' a s')
    (hE : ∀ e s', E e s' ↔ E' e s') : wp m Q E s ↔ wp m Q' E' s :=
  ⟨fun h => wp_mono h (fun a s' => (hQ a s').1) fun e s' => (hE e s').1,
    fun h => wp_mono h (fun a s' => (hQ a s').2) fun e s' => (hE e s').2⟩

/-- What every end that is known of decides in the same way. -/
theorem wp_iff_of_wp {Q' : α → σ → Prop} {E' : Exit ε → σ → Prop} {P : Prop} {m : Flow σ ε α} (h : wp m Q E s)
    (hQ : ∀ a s', Q a s' → (Q' a s' ↔ P)) (hE : ∀ e s', E e s' → (E' e s' ↔ P)) : wp m Q' E' s ↔ P := by
  unfold wp at h ⊢
  rcases hms : m s with ⟨r, s'⟩
  rw [hms] at h
  cases r with
  | ok a => exact hQ a s' h
  | error e => exact hE e s' h

/-- How a run ends, from what is known to hold at its end. -/
theorem exists_of_wp {m : Flow σ ε α} (h : wp m Q E s) :
    (∃ a s', m s = (.ok a, s') ∧ Q a s') ∨ ∃ e s', m s = (.error e, s') ∧ E e s' := by
  unfold wp at h
  rcases hms : m s with ⟨r, s'⟩
  rw [hms] at h
  cases r with
  | ok a => exact .inl ⟨a, s', rfl, h⟩
  | error e => exact .inr ⟨e, s', rfl, h⟩

theorem wp_of_ok {m : Flow σ ε α} {a : α} {s' : σ} (h : m s = (.ok a, s')) : wp m Q E s ↔ Q a s' := by
  rw [wp, h]

theorem wp_of_error {m : Flow σ ε α} {e : Exit ε} {s' : σ} (h : m s = (.error e, s')) : wp m Q E s ↔ E e s' := by
  rw [wp, h]

end

/-! ## Functions that come back -/

/-- What a function gives back. -/
def valueOf [Inhabited α] (m : Flow σ ε α) (s : σ) : α :=
  match (m s).1 with
  | .ok a => a
  | .error _ => default

/-- The state a function leaves. -/
def after (m : Flow σ ε α) (s : σ) : σ := (m s).2

theorem wp_of_returns [Inhabited α] {R : σ → σ → Prop} {m : Flow σ ε α} (h : Returns R m) {Q : α → σ → Prop}
    {E : Exit ε → σ → Prop} {s : σ} : wp m Q E s ↔ Q (valueOf m s) (after m s) := by
  obtain ⟨a, s', hs, -⟩ := h s
  simp [wp, valueOf, after, hs]

theorem returns_iff {R : σ → σ → Prop} {m : Flow σ ε α} :
    Returns R m ↔ ∀ s, wp m (fun _ s' => R s s') (fun _ _ => False) s := by
  refine forall_congr' fun s => ?_
  unfold wp
  rcases m s with ⟨r, s'⟩
  constructor
  · rintro ⟨a, t, ht, hR⟩
    cases ht
    exact hR
  · intro h
    cases r with
    | ok a => exact ⟨a, s', rfl, h⟩
    | error e => exact h.elim

theorem rel_of_returns {R : σ → σ → Prop} {m : Flow σ ε α} (h : Returns R m) (s : σ) : R s (after m s) := by
  obtain ⟨a, s', hs, hR⟩ := h s
  rw [after, hs]
  exact hR

/-- What holds wherever the function comes back, if it does, holds of the state it leaves. -/
theorem after_of_wp {P : σ → Prop} {m : Flow σ ε α} {s : σ} (h : wp m (fun _ s' => P s') (fun _ _ => False) s) :
    P (after m s) := by
  rcases exists_of_wp h with ⟨a, s', hrun, hs'⟩ | ⟨_, _, _, hs'⟩
  · rw [after, hrun]
    exact hs'
  · exact hs'.elim

/-- What holds however the function ends holds of the state it leaves. -/
theorem after_of_ends {P : σ → Prop} {m : Flow σ ε α} {s : σ} (h : wp m (fun _ s' => P s') (fun _ s' => P s') s) :
    P (after m s) := by
  rcases exists_of_wp h with ⟨a, s', hrun, hs'⟩ | ⟨e, s', hrun, hs'⟩
  · rw [after, hrun]
    exact hs'
  · rw [after, hrun]
    exact hs'

/-- A state left with `P` and without `Q` is none of those where `P` gives `Q`. -/
theorem not_wp_of_after {P Q : σ → Prop} {m : Flow σ ε α} {s : σ} (hP : P (after m s)) (hQ : ¬ Q (after m s)) :
    ¬ wp m (fun _ s' => P s' → Q s') (fun _ s' => ¬ P s') s := by
  intro h
  rcases exists_of_wp h with ⟨a, s', hrun, hs'⟩ | ⟨e, s', hrun, hs'⟩
  · rw [after, hrun] at hP hQ
    exact hQ (hs' hP)
  · rw [after, hrun] at hP
    exact hs' hP

end Flows
