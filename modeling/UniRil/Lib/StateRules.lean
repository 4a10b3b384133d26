import Mathlib.Logic.Relation
import Mathlib.Order.Defs.Unbundled

/-!
# Rules for stateful functions

A stateful function maps the state before to its result and the state after. `Spec` is a
postcondition over both states, `Keeps` a relation that no call leaves, and `Related` compares two
calls in two states.
-/

namespace StateRules

variable {σ α β ι ρ : Type}

/-- Reads a part of the state. -/
def reads (f : σ → α) : StateM σ α := fun s => (f s, s)

@[simp] theorem reads_apply (f : σ → α) (s : σ) : reads f s = (f s, s) := rfl

@[simp] theorem modify_apply (f : σ → σ) (s : σ) : (modify f : StateM σ PUnit) s = (⟨⟩, f s) := rfl

@[simp] theorem pure_apply (a : α) (s : σ) : (pure a : StateM σ α) s = (a, s) := rfl

@[simp] theorem bind_apply (m : StateM σ α) (f : α → StateM σ β) (s : σ) : (m >>= f) s = f (m s).1 (m s).2 := rfl

theorem reads_bind (f : σ → α) (g : α → StateM σ β) (s : σ) : (reads f >>= g) s = g (f s) s := rfl

theorem if_apply (c : Prop) [Decidable c] (m n : StateM σ α) (s : σ) :
    (if c then m else n) s = if c then m s else n s :=
  apply_ite (· s) c m n

/-- `m`, if `c` holds. -/
def when (c : Prop) [Decidable c] (m : StateM σ PUnit) : StateM σ PUnit := if c then m else pure ⟨⟩

/-! ## Postconditions -/

/-- The state before, the result and the state after are related by `Q`. -/
def Spec (m : StateM σ α) (Q : σ → α → σ → Prop) : Prop := ∀ s, Q s (m s).1 (m s).2

theorem Spec.pure {Q : σ → α → σ → Prop} {a : α} (h : ∀ s, Q s a s) : Spec (pure a : StateM σ α) Q := h

theorem Spec.mono {m : StateM σ α} {Q Q' : σ → α → σ → Prop} (hm : Spec m Q)
    (h : ∀ s a s', Q s a s' → Q' s a s') : Spec m Q' :=
  fun s => h _ _ _ (hm s)

theorem Spec.and {m : StateM σ α} {Q Q' : σ → α → σ → Prop} (hm : Spec m Q) (hm' : Spec m Q') :
    Spec m fun s a s' => Q s a s' ∧ Q' s a s' :=
  fun s => ⟨hm s, hm' s⟩

theorem Spec.bind {m : StateM σ α} {f : α → StateM σ β} {Q₁ : σ → α → σ → Prop} {Q₂ : α → σ → β → σ → Prop}
    {Q : σ → β → σ → Prop} (hm : Spec m Q₁) (hf : ∀ a, Spec (f a) (Q₂ a))
    (hQ : ∀ s a s' b s'', Q₁ s a s' → Q₂ a s' b s'' → Q s b s'') : Spec (m >>= f) Q :=
  fun s => hQ _ _ _ _ _ (hm s) (hf _ _)

theorem Spec.ite {c : Prop} [Decidable c] {m n : StateM σ α} {Q : σ → α → σ → Prop} (hm : c → Spec m Q)
    (hn : ¬ c → Spec n Q) : Spec (if c then m else n) Q := by
  by_cases h : c
  · rw [if_pos h]
    exact hm h
  · rw [if_neg h]
    exact hn h

/-- Every result satisfies `P`. -/
def Returns (P : α → Prop) (m : StateM σ α) : Prop := ∀ s, P (m s).1

theorem Returns.pure {P : α → Prop} {a : α} (h : P a) : Returns P (pure a : StateM σ α) := fun _ => h

/-- The result is that of the last call. -/
theorem Returns.bind {P : β → Prop} {m : StateM σ α} {f : α → StateM σ β} (hf : ∀ a, Returns P (f a)) :
    Returns P (m >>= f) :=
  fun _ => hf _ _

theorem Returns.ite {P : α → Prop} {c : Prop} [Decidable c] {m n : StateM σ α} (hm : Returns P m)
    (hn : Returns P n) : Returns P (if c then m else n) := by
  split
  · exact hm
  · exact hn

/-! ## Relations that no call leaves -/

/-- The state after is related to the state before. -/
def Keeps (R : σ → σ → Prop) (m : StateM σ α) : Prop := ∀ s, R s (m s).2

section Keeps

variable {R : σ → σ → Prop} {m : StateM σ α}

theorem Keeps.mono {R' : σ → σ → Prop} (hm : Keeps R m) (h : ∀ s s', R s s' → R' s s') : Keeps R' m :=
  fun s => h _ _ (hm s)

theorem Keeps.modify {f : σ → σ} (h : ∀ s, R s (f s)) : Keeps R (modify f : StateM σ PUnit) := h

theorem Keeps.ite {c : Prop} [Decidable c] {n : StateM σ α} (hm : Keeps R m) (hn : Keeps R n) :
    Keeps R (if c then m else n) := by
  split
  · exact hm
  · exact hn

/-- A postcondition that a first call cannot spoil. -/
theorem Spec.after {f : α → StateM σ β} {Q : σ → β → σ → Prop} (hQ : ∀ s s' b s'', R s s' → Q s' b s'' → Q s b s'')
    (hm : Keeps R m) (hf : ∀ a, Spec (f a) Q) : Spec (m >>= f) Q :=
  fun s => hQ _ _ _ _ (hm s) (hf _ _)

/-- A postcondition that a last call cannot spoil. -/
theorem Spec.before {n : StateM σ β} {Q : σ → α → σ → Prop} (hm : Spec m Q)
    (hQ : ∀ s a s' s'', Q s a s' → R s' s'' → Q s a s'') (hn : Keeps R n) :
    Spec (m >>= fun a => n >>= fun _ => Pure.pure a) Q :=
  fun s => hQ _ _ _ _ (hm s) (hn _)

variable [IsPreorder σ R]

theorem Keeps.pure {a : α} : Keeps R (pure a : StateM σ α) := fun s => refl s

theorem Keeps.reads {f : σ → α} : Keeps R (reads f) := fun s => refl s

theorem Keeps.when {c : Prop} [Decidable c] {m : StateM σ PUnit} (hm : Keeps R m) : Keeps R (when c m) :=
  .ite hm .pure

theorem Keeps.bind {f : α → StateM σ β} (hm : Keeps R m) (hf : ∀ a, Keeps R (f a)) : Keeps R (m >>= f) :=
  fun s => IsTrans.trans _ _ _ (hm s) (hf _ _)

end Keeps

/-! ## Measures that calls add to -/

/-- The call adds `n` to the measure `μ` of the state. -/
def Adds (μ : σ → Nat) (n : Nat) (m : StateM σ α) : Prop := ∀ s, μ (m s).2 = μ s + n

section Adds

variable {μ : σ → Nat} {n k : Nat} {m : StateM σ α}

theorem Adds.pure {a : α} : Adds μ 0 (pure a : StateM σ α) := fun _ => rfl

theorem Adds.reads {f : σ → α} : Adds μ 0 (reads f) := fun _ => rfl

theorem Adds.bind {f : α → StateM σ β} (hm : Adds μ n m) (hf : ∀ a, Adds μ k (f a)) : Adds μ (n + k) (m >>= f) := by
  intro s
  rw [bind_apply, hf, hm, Nat.add_assoc]

/-- What adds nothing may come before. -/
theorem Adds.after {f : α → StateM σ β} (hm : Adds μ 0 m) (hf : ∀ a, Adds μ k (f a)) : Adds μ k (m >>= f) := by
  have hbind := hm.bind hf
  rwa [Nat.zero_add] at hbind

/-- The same, when the first call cannot return everything. -/
theorem Adds.afterReturns {P : α → Prop} {f : α → StateM σ β} (hm : Adds μ 0 m) (hP : Returns P m)
    (hf : ∀ a, P a → Adds μ k (f a)) : Adds μ k (m >>= f) := by
  intro s
  rw [bind_apply, hf _ (hP s), hm, Nat.add_zero]

/-- What adds nothing may come afterwards. -/
theorem Adds.before {f : α → StateM σ β} (hm : Adds μ n m) (hf : ∀ a, Adds μ 0 (f a)) : Adds μ n (m >>= f) :=
  hm.bind hf

theorem Adds.ite {c : Prop} [Decidable c] {m' : StateM σ α} (hm : c → Adds μ n m) (hm' : ¬ c → Adds μ n m') :
    Adds μ n (if c then m else m') := by
  split
  · exact hm (by assumption)
  · exact hm' (by assumption)

theorem Adds.when {c : Prop} [Decidable c] {m : StateM σ PUnit} (hm : Adds μ 0 m) : Adds μ 0 (when c m) :=
  .ite (fun _ => hm) fun _ => .pure

end Adds

/-! ## Two calls compared -/

/-- Calls from related states have related results and leave related states. -/
def Related (R : σ → σ → Prop) (m n : StateM σ α) (Q : α → α → σ → σ → Prop) : Prop :=
  ∀ s t, R s t → Q (m s).1 (n t).1 (m s).2 (n t).2

/-- Calls from related states have the same result and leave related states. -/
abbrev Agrees (R : σ → σ → Prop) (m : StateM σ α) (R' : σ → σ → Prop) : Prop :=
  Related R m m fun a b s t => a = b ∧ R' s t

section Related

variable {R R' : σ → σ → Prop} {m n : StateM σ α}

theorem Related.bind {f g : α → StateM σ β} {Q : α → α → σ → σ → Prop} {Q' : β → β → σ → σ → Prop}
    (hm : Related R m n Q) (hf : ∀ a b, Related (Q a b) (f a) (g b) Q') : Related R (m >>= f) (n >>= g) Q' :=
  fun s t h => hf _ _ _ _ (hm s t h)

/-- Both go on with the same result. -/
theorem Related.bindSame {f g : α → StateM σ β} {Q' : β → β → σ → σ → Prop}
    (hm : Related R m n fun a b s t => a = b ∧ R' s t) (hf : ∀ a, Related R' (f a) (g a) Q') :
    Related R (m >>= f) (n >>= g) Q' := by
  refine .bind hm fun a b s t h => ?_
  obtain ⟨rfl, h⟩ := h
  exact hf a s t h

theorem Related.ite {c : Prop} [Decidable c] {m' n' : StateM σ α} {Q : α → α → σ → σ → Prop}
    (hm : c → Related R m n Q) (hm' : ¬ c → Related R m' n' Q) :
    Related R (if c then m else m') (if c then n else n') Q := by
  split
  · exact hm (by assumption)
  · exact hm' (by assumption)

theorem Agrees.pure {a : α} : Agrees R (pure a : StateM σ α) R := fun _ _ h => ⟨rfl, h⟩

theorem Agrees.reads {f : σ → α} (h : ∀ s t, R s t → f s = f t) : Agrees R (reads f) R := fun s t hst => ⟨h s t hst, hst⟩

theorem Agrees.bind {f : α → StateM σ β} {R'' : σ → σ → Prop} (hm : Agrees R m R') (hf : ∀ a, Agrees R' (f a) R'') :
    Agrees R (m >>= f) R'' :=
  Related.bindSame hm hf

theorem Agrees.ite {c : Prop} [Decidable c] (hm : c → Agrees R m R') (hn : ¬ c → Agrees R n R') :
    Agrees R (if c then m else n) R' :=
  Related.ite hm hn

theorem Agrees.when {c : Prop} [Decidable c] {m : StateM σ PUnit} (hm : Agrees R m R) : Agrees R (when c m) R :=
  .ite (fun _ => hm) fun _ => .pure

end Related

/-! ## Loops -/

/-- `body` is repeated until it yields a result, at most so many times. -/
def iterate (body : ι → StateM σ (ι ⊕ ρ)) : Nat → ι → StateM σ (Option ρ)
  | 0, _ => pure none
  | fuel + 1, i => do
    match ← body i with
    | .inl next => iterate body fuel next
    | .inr r => pure (some r)

section Iterate

variable {body : ι → StateM σ (ι ⊕ ρ)}

/-- The rounds that can be reached from a round, itself included. -/
def Visits (body : ι → StateM σ (ι ⊕ ρ)) : ι × σ → ι × σ → Prop :=
  Relation.ReflTransGen fun p q => body p.1 p.2 = (.inl q.1, q.2)

/-- The round `q` is the last one, and the loop yields `r` in the state `s'`. -/
structure Leaves (body : ι → StateM σ (ι ⊕ ρ)) (p q : ι × σ) (r : ρ) (s' : σ) : Prop where
  visits : Visits body p q
  last : body q.1 q.2 = (.inr r, s')

theorem iterate_succ (fuel : Nat) (i : ι) (s : σ) :
    iterate body (fuel + 1) i s =
      match body i s with
      | (.inl next, s') => iterate body fuel next s'
      | (.inr r, s') => (some r, s') := by
  rw [iterate, bind_apply]
  cases h : body i s with
  | mk next s' => cases next <;> rfl

theorem iterate_leaves {fuel : Nat} {i : ι} {s s' : σ} {r : ρ} (h : iterate body fuel i s = (some r, s')) :
    ∃ q, Leaves body (i, s) q r s' := by
  induction fuel generalizing i s with
  | zero => cases h
  | succ fuel ih =>
    rw [iterate_succ] at h
    cases hbody : body i s with
    | mk next t =>
      rw [hbody] at h
      cases next with
      | inl next =>
        obtain ⟨q, hq⟩ := ih h
        exact ⟨q, .head hbody hq.visits, hq.last⟩
      | inr r' =>
        obtain ⟨hr, rfl⟩ := Prod.mk.inj h
        obtain rfl := Option.some.inj hr
        exact ⟨(i, s), .refl, hbody⟩

/-- The body is a function, so that there is only one last round. -/
theorem Leaves.iterate {fuel : Nat} {i : ι} {s s' : σ} {q : ι × σ} {r : ρ} (h : Leaves body (i, s) q r s')
    (hfuel : (iterate body fuel i s).1.isSome) : StateRules.iterate body fuel i s = (some r, s') := by
  induction fuel generalizing i s with
  | zero => cases hfuel
  | succ fuel ih =>
    rw [iterate_succ] at hfuel ⊢
    cases hbody : body i s with
    | mk next t =>
      rw [hbody] at hfuel
      obtain ⟨hvisits, hlast⟩ := h
      cases next with
      | inl next =>
        rcases hvisits.cases_head with rfl | ⟨⟨j, u⟩, hstep, hrest⟩
        · rw [hbody] at hlast
          cases hlast
        · rw [hbody] at hstep
          obtain ⟨hj, rfl⟩ := Prod.mk.inj hstep
          obtain rfl := Sum.inl.inj hj
          exact ih ⟨hrest, hlast⟩ hfuel
      | inr r' =>
        rcases hvisits.cases_head with rfl | ⟨⟨j, u⟩, hstep, -⟩
        · rw [hbody] at hlast
          obtain ⟨hr, rfl⟩ := Prod.mk.inj hlast
          obtain rfl := Sum.inr.inj hr
          rfl
        · rw [hbody] at hstep
          cases hstep

/-- A relation that every round keeps is kept by the loop. -/
theorem Keeps.iterate {R : σ → σ → Prop} [IsPreorder σ R] (h : ∀ i, Keeps R (body i)) {fuel : Nat} {i : ι} :
    Keeps R (StateRules.iterate body fuel i) := by
  induction fuel generalizing i with
  | zero => exact .pure
  | succ fuel ih =>
    refine .bind (h i) fun out => ?_
    cases out with
    | inl next => exact ih
    | inr r => exact .pure

theorem Agrees.iterate {R : σ → σ → Prop} (h : ∀ i, Agrees R (body i) R) {fuel : Nat} {i : ι} :
    Agrees R (StateRules.iterate body fuel i) R := by
  induction fuel generalizing i with
  | zero => exact .pure
  | succ fuel ih =>
    refine .bind (h i) fun out => ?_
    cases out with
    | inl next => exact ih
    | inr r => exact .pure

/-- Rounds that lower a measure come to an end. -/
theorem iterate_isSome (μ : ι → σ → Nat) (hμ : ∀ i s j s', body i s = (.inl j, s') → μ j s' < μ i s) {fuel : Nat}
    {i : ι} {s : σ} (h : μ i s < fuel) : (iterate body fuel i s).1.isSome := by
  induction fuel generalizing i s with
  | zero => exact absurd h (Nat.not_lt_zero _)
  | succ fuel ih =>
    rw [iterate_succ]
    cases hbody : body i s with
    | mk next t =>
      cases next with
      | inl next =>
        have hless := hμ i s next t hbody
        exact ih (by omega)
      | inr r => rfl

/-- What every round keeps holds in all rounds that are reached. -/
theorem Visits.invariant {I : ι → σ → Prop} (hI : ∀ i s j s', I i s → body i s = (.inl j, s') → I j s')
    {p q : ι × σ} (h : Visits body p q) (hp : I p.1 p.2) : I q.1 q.2 := by
  induction h with
  | refl => exact hp
  | tail _ hstep ih => exact hI _ _ _ _ ih hstep

end Iterate

end StateRules
