import UniRil.Lib.FailRules

/-!
# Two runs of one function

Runs from related states end alike: both come back with one value, or both fail. What a function makes of the part of
the state that the relation leaves open cannot be seen in what it returns.
-/

namespace FailRules

variable {σ α β ε : Type} {R S T : σ → σ → Prop}

/-- How two runs end that end alike. -/
inductive EndAlike (S : σ → σ → Prop) : Except ε α × σ → Except ε α × σ → Prop
  | ok (a : α) {s t : σ} (h : S s t) : EndAlike S (.ok a, s) (.ok a, t)
  | error (e e' : ε) (s t : σ) : EndAlike S (.error e, s) (.error e', t)

/-- Runs from states in `R` end alike, in states in `S` where they come back. -/
def Alike (R S : σ → σ → Prop) (m : ExceptT ε (StateM σ) α) : Prop := ∀ s t, R s t → EndAlike S (m s) (m t)

section

variable {m : ExceptT ε (StateM σ) α}

theorem Alike.pure {a : α} (h : ∀ s t, R s t → S s t) : Alike R S (pure a : ExceptT ε (StateM σ) α) :=
  fun s t hst => .ok a (h s t hst)

theorem Alike.throw {e : ε} : Alike R S (throw e : ExceptT ε (StateM σ) α) := fun s t _ => .error e e s t

theorem Alike.modify {f : σ → σ} (h : ∀ s t, R s t → S (f s) (f t)) :
    Alike R S (modify f : ExceptT ε (StateM σ) PUnit) := by
  intro s t hst
  rw [modifyE_apply, modifyE_apply]
  exact .ok PUnit.unit (h s t hst)

theorem Alike.ite {c : Prop} [Decidable c] {n : ExceptT ε (StateM σ) α} (hm : Alike R S m) (hn : Alike R S n) :
    Alike R S (if c then m else n) := by
  split
  · exact hm
  · exact hn

theorem Alike.bind {f : α → ExceptT ε (StateM σ) β} (hm : Alike R S m) (hf : ∀ a, Alike S T (f a)) :
    Alike R T (m >>= f) := by
  intro s t hst
  have hends := hm s t hst
  rw [bindE_apply, bindE_apply]
  rcases hs : m s with ⟨r, s'⟩
  rcases ht : m t with ⟨r', t'⟩
  rw [hs, ht] at hends
  cases hends with
  | ok a hst' => exact hf a s' t' hst'
  | error e e' => exact .error e e' s' t'

theorem Alike.weaken (hm : Alike R S m) (h : ∀ s t, S s t → T s t) : Alike R T m := by
  intro s t hst
  have hends := hm s t hst
  rcases hs : m s with ⟨r, s'⟩
  rcases ht : m t with ⟨r', t'⟩
  rw [hs, ht] at hends
  cases hends with
  | ok a hst' => exact .ok a (h s' t' hst')
  | error e e' => exact .error e e' s' t'

end

end FailRules
