import Mathlib.Order.Defs.Unbundled

/-!
# Rules for stateful functions that may fail

What such a function has done to the state before it fails stays done.
-/

namespace FailRules

variable {σ α β ε : Type}

@[simp] theorem ok_apply (a : α) (s : σ) : (pure a : ExceptT ε (StateM σ) α) s = (.ok a, s) := rfl

@[simp] theorem throw_apply (e : ε) (s : σ) : (throw e : ExceptT ε (StateM σ) α) s = (.error e, s) := rfl

@[simp] theorem getE_apply (s : σ) : (get : ExceptT ε (StateM σ) σ) s = (.ok s, s) := rfl

@[simp] theorem setE_apply (t s : σ) : (set t : ExceptT ε (StateM σ) PUnit) s = (.ok ⟨⟩, t) := rfl

@[simp] theorem modifyE_apply (f : σ → σ) (s : σ) : (modify f : ExceptT ε (StateM σ) PUnit) s = (.ok ⟨⟩, f s) := rfl

theorem bindE_apply (m : ExceptT ε (StateM σ) α) (f : α → ExceptT ε (StateM σ) β) (s : σ) :
    (m >>= f) s = match m s with
      | (.ok a, s') => f a s'
      | (.error e, s') => (.error e, s') := by
  show (ExceptT.bindCont f (m s).1) (m s).2 = _
  rcases m s with ⟨r, s'⟩
  cases r <;> rfl

theorem bindE_ok {m : ExceptT ε (StateM σ) α} {f : α → ExceptT ε (StateM σ) β} {s s' : σ} {a : α}
    (h : m s = (.ok a, s')) : (m >>= f) s = f a s' := by
  rw [bindE_apply, h]

theorem bindE_error {m : ExceptT ε (StateM σ) α} {f : α → ExceptT ε (StateM σ) β} {s s' : σ} {e : ε}
    (h : m s = (.error e, s')) : (m >>= f) s = (.error e, s') := by
  rw [bindE_apply, h]

/-- `m`, if `c` holds. -/
def whenE (c : Prop) [Decidable c] (m : ExceptT ε (StateM σ) PUnit) : ExceptT ε (StateM σ) PUnit :=
  if c then m else pure ⟨⟩

/-- The state after is related to the state before, whether the function comes back or not. -/
def Stays (R : σ → σ → Prop) (m : ExceptT ε (StateM σ) α) : Prop := ∀ s, R s (m s).2

section Stays

variable {R : σ → σ → Prop} {m : ExceptT ε (StateM σ) α}

theorem Stays.modify {f : σ → σ} (h : ∀ s, R s (f s)) : Stays R (modify f : ExceptT ε (StateM σ) PUnit) := h

theorem Stays.ite {c : Prop} [Decidable c] {n : ExceptT ε (StateM σ) α} (hm : Stays R m) (hn : Stays R n) :
    Stays R (if c then m else n) := by
  split
  · exact hm
  · exact hn

variable [IsPreorder σ R]

theorem Stays.pure {a : α} : Stays R (pure a : ExceptT ε (StateM σ) α) := fun s => refl s

theorem Stays.throw {e : ε} : Stays R (throw e : ExceptT ε (StateM σ) α) := fun s => refl s

theorem Stays.when {c : Prop} [Decidable c] {m : ExceptT ε (StateM σ) PUnit} (hm : Stays R m) : Stays R (whenE c m) :=
  .ite hm .pure

theorem Stays.get : Stays R (get : ExceptT ε (StateM σ) σ) := fun s => refl s

theorem Stays.bind {f : α → ExceptT ε (StateM σ) β} (hm : Stays R m) (hf : ∀ a, Stays R (f a)) : Stays R (m >>= f) := by
  intro s
  have hs := hm s
  rw [bindE_apply]
  rcases hms : m s with ⟨r, s'⟩
  rw [hms] at hs
  cases r with
  | ok a => exact IsTrans.trans _ _ _ hs (hf a s')
  | error e => exact hs

end Stays

/-- The function comes back, and the state after is related to the state before. -/
def Returns (R : σ → σ → Prop) (m : ExceptT ε (StateM σ) α) : Prop := ∀ s, ∃ a s', m s = (.ok a, s') ∧ R s s'

section Returns

variable {R : σ → σ → Prop} {m : ExceptT ε (StateM σ) α}

theorem Returns.modify {f : σ → σ} (h : ∀ s, R s (f s)) : Returns R (modify f : ExceptT ε (StateM σ) PUnit) :=
  fun s => ⟨⟨⟩, f s, rfl, h s⟩

theorem Returns.ite {c : Prop} [Decidable c] {n : ExceptT ε (StateM σ) α} (hm : Returns R m) (hn : Returns R n) :
    Returns R (if c then m else n) := by
  split
  · exact hm
  · exact hn

variable [IsPreorder σ R]

theorem Returns.pure {a : α} : Returns R (pure a : ExceptT ε (StateM σ) α) := fun s => ⟨a, s, rfl, refl s⟩

theorem Returns.get : Returns R (get : ExceptT ε (StateM σ) σ) := fun s => ⟨s, s, rfl, refl s⟩

theorem Returns.bind {f : α → ExceptT ε (StateM σ) β} (hm : Returns R m) (hf : ∀ a, Returns R (f a)) :
    Returns R (m >>= f) := by
  intro s
  obtain ⟨a, s', hs, hR⟩ := hm s
  obtain ⟨b, s'', hs', hR'⟩ := hf a s'
  exact ⟨b, s'', (bindE_ok hs).trans hs', IsTrans.trans _ _ _ hR hR'⟩

end Returns

end FailRules
