import Mathlib.Data.List.Basic

/-!
# One field of a slot that is used again

Records are read into a slot one after the other, and each may store the field. Behind an accepted record
comes a fresh slot, behind a rejected one the same slot again. What a rejected record stored shows in
an accepted one that stores nothing.
-/

namespace Reused

variable {ι α : Type*} (ok : ι → Bool) (stored : ι → Option α) (zero : α)

/-- The field of each accepted record, when the slot holds `v`. -/
def carried : α → List ι → List α
  | _, [] => []
  | v, a :: l =>
    let v := (stored a).getD v
    if ok a then v :: carried zero l else carried v l

/-- The field as each accepted record has it by itself. -/
def own (l : List ι) : List α := (l.filter ok).map fun a => (stored a).getD zero

/-- The first record that is accepted or stores the field is accepted and does not store it. -/
def Exposed (l : List ι) : Prop :=
  ∃ mid a post, l = mid ++ a :: post ∧ (∀ r ∈ mid, ok r = false ∧ stored r = none) ∧ ok a = true ∧ stored a = none

/-- Where a rejected record stores something else than the initial value, no accepted record takes it over. -/
def Clean (l : List ι) : Prop :=
  ∀ pre bad post v, l = pre ++ bad :: post → ok bad = false → stored bad = some v → Exposed ok stored post → v = zero

variable {ok stored zero} {l : List ι} {a : ι}

theorem exposed_cons :
    Exposed ok stored (a :: l) ↔ stored a = none ∧ (ok a = true ∨ ok a = false ∧ Exposed ok stored l) := by
  constructor
  · rintro ⟨mid, b, post, heq, hmid, hok, hnone⟩
    cases mid with
    | nil =>
      obtain ⟨rfl, rfl⟩ := List.cons.inj heq
      exact ⟨hnone, .inl hok⟩
    | cons r mid =>
      obtain ⟨rfl, rfl⟩ := List.cons.inj heq
      obtain ⟨hr, hmid⟩ := List.forall_mem_cons.1 hmid
      exact ⟨hr.2, .inr ⟨hr.1, mid, b, post, rfl, hmid, hok, hnone⟩⟩
  · rintro ⟨hnone, hok | ⟨hbad, mid, b, post, rfl, hmid, hok, hb⟩⟩
    · exact ⟨[], a, l, rfl, by simp, hok, hnone⟩
    · exact ⟨a :: mid, b, post, rfl, List.forall_mem_cons.2 ⟨⟨hbad, hnone⟩, hmid⟩, hok, hb⟩

theorem not_exposed_nil : ¬Exposed ok stored [] := by
  rintro ⟨mid, a, post, heq, -⟩
  cases mid <;> cases heq

theorem clean_cons :
    Clean ok stored zero (a :: l) ↔
      (ok a = false → ∀ v, stored a = some v → Exposed ok stored l → v = zero) ∧ Clean ok stored zero l := by
  constructor
  · intro h
    refine ⟨fun hbad v hv => h [] a l v rfl hbad hv, fun pre bad post v heq => ?_⟩
    exact h (a :: pre) bad post v (by rw [heq]; rfl)
  · rintro ⟨hhead, htail⟩ pre bad post v heq
    cases pre with
    | nil =>
      obtain ⟨rfl, rfl⟩ := List.cons.inj heq
      exact fun hbad hv => hhead hbad v hv
    | cons b pre =>
      obtain ⟨rfl, rfl⟩ := List.cons.inj heq
      exact htail pre bad post v rfl

theorem clean_nil : Clean ok stored zero [] := by
  intro pre bad post v heq
  cases pre <;> cases heq

/-- With `v` in the slot. -/
theorem carried_eq_own_from_iff (v : α) (l : List ι) :
    carried ok stored zero v l = own ok stored zero l ↔ (Exposed ok stored l → v = zero) ∧ Clean ok stored zero l := by
  induction l generalizing v with
  | nil => simp [carried, own, not_exposed_nil, clean_nil]
  | cons a l ih =>
    rw [carried, exposed_cons, clean_cons]
    cases hok : ok a with
    | true =>
      have hown : own ok stored zero (a :: l) = (stored a).getD zero :: own ok stored zero l := by
        rw [own, List.filter_cons_of_pos hok, List.map_cons, own]
      rw [hown]
      simp only [if_true, List.cons.injEq, ih zero]
      cases stored a with
      | none => simp
      | some w => simp
    | false =>
      have hown : own ok stored zero (a :: l) = own ok stored zero l := by
        rw [own, List.filter_cons_of_neg (by rw [hok]; decide), own]
      rw [hown]
      simp only [Bool.false_eq_true, if_false, ih]
      cases stored a with
      | none => simp
      | some w => simp

/-- **The fields are the records' own exactly when the list is clean.** -/
theorem carried_eq_own_iff (l : List ι) :
    carried ok stored zero zero l = own ok stored zero l ↔ Clean ok stored zero l := by
  rw [carried_eq_own_from_iff]
  exact and_iff_right fun _ => rfl

/-- A field that each accepted record stores. -/
theorem clean_of_accepted (h : ∀ a, ok a = true → stored a ≠ none) (l : List ι) : Clean ok stored zero l := by
  rintro pre bad post v rfl hbad hv ⟨mid, a, post, rfl, hmid, hok, hnone⟩
  exact absurd hnone (h a hok)

/-- A field that no rejected record stores, or only with its initial value. -/
theorem clean_of_rejected (h : ∀ a v, ok a = false → stored a = some v → v = zero) (l : List ι) :
    Clean ok stored zero l :=
  fun _ bad _ v _ hbad hv _ => h bad v hbad hv

end Reused
