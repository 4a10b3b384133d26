import Mathlib.Logic.Basic

/-!
# Programs that act on their surroundings

A program is a tree of actions; the reply to an action chooses the way on. A contract says on an
abstract state of the program's own what each action needs and does, and what the surroundings may
change between two actions.
-/

namespace Programs

inductive Prog (A : Type) (R : A → Type) (α : Type) where
  | ret (value : α)
  | act (a : A) (rest : R a → Prog A R α)

variable {A : Type} {R : A → Type} {α β γ G : Type}

def Prog.bind : Prog A R α → (α → Prog A R β) → Prog A R β
  | .ret value, f => f value
  | .act a rest, f => .act a fun r => (rest r).bind f

instance : Monad (Prog A R) where
  pure := Prog.ret
  bind := Prog.bind

/-- A single action. -/
def perform (a : A) : Prog A R (R a) := .act a .ret

theorem pure_bind (value : α) (f : α → Prog A R β) : (pure value >>= f : Prog A R β) = f value := rfl

theorem bind_pure (m : Prog A R α) : m >>= pure = m := by
  induction m with
  | ret value => rfl
  | act a rest ih => exact congrArg (Prog.act a) (funext ih)

theorem bind_assoc (m : Prog A R α) (f : α → Prog A R β) (h : β → Prog A R γ) :
    (m >>= f) >>= h = m >>= fun value => f value >>= h := by
  induction m with
  | ret value => rfl
  | act a rest ih => exact congrArg (Prog.act a) (funext ih)

/-! ## Actions of a program -/

/-- Every action that the program may come to has `p`. -/
def Takes (p : A → Prop) : Prog A R α → Prop
  | .ret _ => True
  | .act a rest => p a ∧ ∀ r, Takes p (rest r)

theorem Takes.bind {p : A → Prop} {m : Prog A R α} {f : α → Prog A R β} (h : Takes p m) (hf : ∀ value, Takes p (f value)) :
    Takes p (m >>= f) := by
  induction m with
  | ret value => exact hf value
  | act a rest ih => exact ⟨h.1, fun r => ih r (h.2 r)⟩

theorem Takes.act {p : A → Prop} {a : A} {f : R a → Prog A R α} (ha : p a) (hf : ∀ r, Takes p (f r)) :
    Takes p (perform a >>= f) := ⟨ha, hf⟩

theorem Takes.pure {p : A → Prop} (value : α) : Takes p (Pure.pure value : Prog A R α) := trivial

theorem Takes.last {p : A → Prop} {a : A} (ha : p a) : Takes p (perform a : Prog A R (R a)) := ⟨ha, fun _ => trivial⟩

/-! ## Contracts -/

structure Contract (A : Type) (R : A → Type) (G : Type) where
  /-- What the surroundings may do between two actions. -/
  rely : G → G → Prop
  /-- When an action may be taken. -/
  pre : G → A → Prop
  /-- What may be the case after an action with this reply. -/
  post : G → (a : A) → R a → G → Prop
  refl : ∀ g, rely g g
  trans : ∀ {g₁ g₂ g₃}, rely g₁ g₂ → rely g₂ g₃ → rely g₁ g₃

/-- The program takes only actions that it may take, and ends with `Q`. -/
def Follows (C : Contract A R G) (Q : G → α → Prop) : G → Prog A R α → Prop
  | g, .ret value => ∀ g', C.rely g g' → Q g' value
  | g, .act a rest => ∀ g', C.rely g g' → C.pre g' a ∧ ∀ r g'', C.post g' a r g'' → Follows C Q g'' (rest r)

variable {C : Contract A R G} {Q Q' : G → α → Prop} {S : G → β → Prop} {g g' : G}

/-- What the surroundings do in between does not matter. -/
theorem Follows.stable {m : Prog A R α} (h : Follows C Q g m) (hg : C.rely g g') : Follows C Q g' m := by
  cases m with
  | ret value => exact fun g'' hg' => h g'' (C.trans hg hg')
  | act a rest => exact fun g'' hg' => h g'' (C.trans hg hg')

theorem Follows.mono {m : Prog A R α} (h : Follows C Q g m) (hQ : ∀ g value, Q g value → Q' g value) :
    Follows C Q' g m := by
  induction m generalizing g with
  | ret value => exact fun g' hg => hQ g' value (h g' hg)
  | act a rest ih =>
    intro g' hg
    obtain ⟨hpre, hpost⟩ := h g' hg
    exact ⟨hpre, fun r g'' hr => ih r (hpost r g'' hr)⟩

/-- **A program is followed by another one that takes over what it leaves.** -/
theorem Follows.bind {m : Prog A R β} {f : β → Prog A R α} (h : Follows C S g m)
    (hf : ∀ g value, S g value → Follows C Q g (f value)) : Follows C Q g (m >>= f) := by
  induction m generalizing g with
  | ret value => exact hf g value (h g (C.refl g))
  | act a rest ih =>
    intro g' hg
    obtain ⟨hpre, hpost⟩ := h g' hg
    exact ⟨hpre, fun r g'' hr => ih r (hpost r g'' hr)⟩

theorem Follows.perform {a : A} {f : R a → Prog A R α}
    (h : ∀ g', C.rely g g' → C.pre g' a ∧ ∀ r g'', C.post g' a r g'' → Follows C Q g'' (f r)) :
    Follows C Q g (Programs.perform a >>= f) := h

theorem Follows.pure {value : α} (h : ∀ g', C.rely g g' → Q g' value) : Follows C Q g (Pure.pure value : Prog A R α) := h

/-- What a program that follows its contract may do next. -/
theorem Follows.next {a : A} {rest : R a → Prog A R α} (h : Follows C Q g (.act a rest)) :
    C.pre g a ∧ ∀ r g', C.post g a r g' → Follows C Q g' (rest r) := h g (C.refl g)

theorem Follows.result {value : α} (h : Follows C Q g (.ret value)) : Q g value := h g (C.refl g)

/-! ## Triples -/

/-- The surroundings keep the assertion. -/
def Stable (C : Contract A R G) (P : G → Prop) : Prop := ∀ g g', C.rely g g' → P g → P g'

/-- From a state with `P` the program follows its contract and ends with `Q`. -/
def Triple (C : Contract A R G) (P : G → Prop) (m : Prog A R α) (Q : G → α → Prop) : Prop := ∀ g, P g → Follows C Q g m

variable {P P' : G → Prop}

theorem Triple.pre {m : Prog A R α} (h : Triple C P m Q) (hP : ∀ g, P' g → P g) : Triple C P' m Q :=
  fun g hg => h g (hP g hg)

theorem Triple.post {m : Prog A R α} (h : Triple C P m Q) (hQ : ∀ g value, Q g value → Q' g value) : Triple C P m Q' :=
  fun g hg => (h g hg).mono hQ

theorem Triple.pure {value : α} (hP : Stable C P) (h : ∀ g, P g → Q g value) : Triple C P (Pure.pure value) Q :=
  fun g hg => Follows.pure fun g' hrely => h g' (hP g g' hrely hg)

theorem Triple.bind {m : Prog A R β} {f : β → Prog A R α} (h : Triple C P m S)
    (hf : ∀ value, Triple C (S · value) (f value) Q) : Triple C P (m >>= f) Q :=
  fun g hg => (h g hg).bind fun g' value hS => hf value g' hS

theorem Triple.act {a : A} {f : R a → Prog A R α} (hP : Stable C P) (hpre : ∀ g, P g → C.pre g a)
    (h : ∀ r, Triple C (fun g' => ∃ g, P g ∧ C.post g a r g') (f r) Q) : Triple C P (perform a >>= f) Q := by
  intro g hg
  refine Follows.perform fun g' hrely => ?_
  have hg' := hP g g' hrely hg
  exact ⟨hpre g' hg', fun r g'' hpost => h r g'' ⟨g', hg', hpost⟩⟩

theorem Triple.last {a : A} {Q : G → R a → Prop} (hP : Stable C P) (hpre : ∀ g, P g → C.pre g a)
    (h : ∀ r, Triple C (fun g' => ∃ g, P g ∧ C.post g a r g') (Pure.pure r) Q) : Triple C P (perform a) Q := by
  have hbind := Triple.act hP hpre h
  rwa [bind_pure] at hbind

/-- A program whose actions all leave the state as it is leaves it as it is. -/
theorem Triple.of_takes {p : A → Prop} {m : Prog A R α} (h : Takes p m) (hrely : ∀ g g', C.rely g g' → g' = g)
    (hp : ∀ g a, p a → C.pre g a ∧ ∀ r g', C.post g a r g' → g' = g) (g : G) :
    Triple C (· = g) m (fun g' _ => g' = g) := by
  intro g' hg'
  subst hg'
  induction m with
  | ret value => exact fun g'' hg => hrely g' g'' hg
  | act a rest ih =>
    intro g'' hg
    obtain rfl := hrely g' g'' hg
    obtain ⟨hpre, hpost⟩ := hp g'' a h.1
    refine ⟨hpre, fun r g₂ hr => ?_⟩
    obtain rfl := hpost r g₂ hr
    exact ih r (h.2 r)

end Programs
