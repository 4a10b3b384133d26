import Mathlib.Data.List.Nodup
import Mathlib.Data.List.Perm.Subperm
import Mathlib.Logic.Function.Basic

/-!
# Doubly linked rings

The links of all cells are two functions of the address. A ring is a list of cells whose last one
leads back to the first.
-/

namespace Rings

variable {ι : Type*}

@[ext]
structure Links (ι : Type*) where
  next : ι → ι
  prev : ι → ι

/-- The cells of `l` lie between `a` and `b`, in this order. -/
def Path (h : Links ι) (a : ι) : List ι → ι → Prop
  | [], b => h.next a = b ∧ h.prev b = a
  | c :: l, b => (h.next a = c ∧ h.prev c = a) ∧ Path h c l b

/-- The ring of the cells `a :: l`. -/
structure Ring (h : Links ι) (a : ι) (l : List ι) : Prop where
  nodup : (a :: l).Nodup
  path : Path h a l a

variable {h h' : Links ι} {a b c : ι} {l : List ι}

theorem Path.append {r : List ι} : Path h a (l ++ c :: r) b ↔ Path h a l c ∧ Path h c r b := by
  induction l generalizing a with
  | nil => rfl
  | cons d l ih =>
    rw [List.cons_append, Path, Path, ih]
    exact and_assoc.symm

theorem Path.next_eq (hp : Path h a l b) : h.next a = (l ++ [b]).head (by simp) := by
  cases l with
  | nil => exact hp.1
  | cons c l => exact hp.1.1

theorem Path.prev_eq (hp : Path h a l b) : h.prev b = (a :: l).getLast (by simp) := by
  induction l generalizing a with
  | nil => exact hp.2
  | cons c l ih =>
    rw [List.getLast_cons (by simp)]
    exact ih hp.2

/-- A path depends on the links between its cells only. -/
theorem Path.congr (hp : Path h a l b) (hnext : ∀ c ∈ a :: l, h'.next c = h.next c)
    (hprev : ∀ c ∈ l ++ [b], h'.prev c = h.prev c) : Path h' a l b := by
  induction l generalizing a with
  | nil => exact ⟨(hnext a (by simp)).trans hp.1, (hprev b (by simp)).trans hp.2⟩
  | cons c l ih =>
    refine ⟨⟨(hnext a (by simp)).trans hp.1.1, (hprev c (by simp)).trans hp.1.2⟩, ih hp.2 ?_ ?_⟩
    · exact fun d hd => hnext d (List.mem_cons_of_mem a hd)
    · exact fun d hd => hprev d (List.mem_cons_of_mem c hd)

/-- A ring of one cell. -/
theorem Ring.single (hnext : h.next a = a) (hprev : h.prev a = a) : Ring h a [] := ⟨List.nodup_singleton a, hnext, hprev⟩

/-- A ring may be read from any of its cells. -/
theorem Ring.rotate {r : List ι} (hr : Ring h a (l ++ c :: r)) : Ring h c (r ++ a :: l) := by
  obtain ⟨hleft, hright⟩ := Path.append.1 hr.path
  refine ⟨?_, Path.append.2 ⟨hright, hleft⟩⟩
  have hperm : (c :: (r ++ a :: l)).Perm (a :: (l ++ c :: r)) := @List.perm_append_comm _ (c :: r) (a :: l)
  exact hperm.nodup_iff.2 hr.nodup

/-- A ring depends on the links of its cells only. -/
theorem Ring.congr (hr : Ring h a l) (heq : ∀ c ∈ a :: l, h'.next c = h.next c ∧ h'.prev c = h.prev c) : Ring h' a l := by
  refine ⟨hr.nodup, hr.path.congr (fun c hc => (heq c hc).1) fun c hc => (heq c ?_).2⟩
  rcases List.mem_append.1 hc with hc | hc
  · exact List.mem_cons_of_mem a hc
  · rw [List.mem_singleton.1 hc]
    exact List.mem_cons_self

theorem Ring.next_mem (hr : Ring h a l) : h.next a ∈ a :: l := by
  rw [hr.path.next_eq]
  cases l with
  | nil => exact List.mem_cons_self
  | cons b l => exact List.mem_cons_of_mem a List.mem_cons_self

theorem Ring.prev_mem (hr : Ring h a l) : h.prev a ∈ a :: l := by
  rw [hr.path.prev_eq]
  exact List.getLast_mem _

theorem Ring.next_eq_self_iff (hr : Ring h a l) : h.next a = a ↔ l = [] := by
  rw [hr.path.next_eq]
  cases l with
  | nil => simp
  | cons b l =>
    have hab : b ≠ a := fun heq => (List.nodup_cons.1 hr.nodup).1 (heq ▸ List.mem_cons_self)
    simpa using hab

theorem Path.unique {l' : List ι} (hp : Path h a l b) (hp' : Path h a l' b) (hb : b ∉ l) (hb' : b ∉ l') : l = l' := by
  induction l generalizing a l' with
  | nil =>
    cases l' with
    | nil => rfl
    | cons d l' => exact absurd (List.mem_cons.2 (.inl (hp.1.symm.trans hp'.1.1))) hb'
  | cons c l ih =>
    cases l' with
    | nil => exact absurd (List.mem_cons.2 (.inl (hp'.1.symm.trans hp.1.1))) hb
    | cons d l' =>
      obtain rfl : c = d := hp.1.1.symm.trans hp'.1.1
      rw [ih hp.2 hp'.2 (fun h => hb (List.mem_cons_of_mem c h)) fun h => hb' (List.mem_cons_of_mem c h)]

/-- The links determine the ring. -/
theorem Ring.unique {l' : List ι} (hr : Ring h a l) (hr' : Ring h a l') : l = l' :=
  hr.path.unique hr'.path (List.nodup_cons.1 hr.nodup).1 (List.nodup_cons.1 hr'.nodup).1

/-- A ring of addresses below a bound is no longer than the bound. -/
theorem length_le_of_lt {l : List Nat} {n : Nat} (hl : l.Nodup) (hlt : ∀ a ∈ l, a < n) : l.length ≤ n := by
  have hsub : l ⊆ List.range n := fun a ha => List.mem_range.2 (hlt a ha)
  simpa using (hl.subperm hsub).length_le

/-! ## Operations -/

variable [DecidableEq ι]

/-- `b` is made the successor of `a`. -/
def Links.link (h : Links ι) (a b : ι) : Links ι :=
  { next := Function.update h.next a b, prev := Function.update h.prev b a }

/-- The last link of a path is turned to another cell. -/
theorem Path.redirect (hp : Path h a l b) (hl : (a :: l).Nodup) (hc : c ∉ l) :
    Path (h.link ((a :: l).getLast (by simp)) c) a l c := by
  induction l generalizing a with
  | nil => exact ⟨Function.update_self .., Function.update_self ..⟩
  | cons d l ih =>
    have hlast := List.getLast_cons (a := a) (List.cons_ne_nil d l)
    have ha : a ≠ (d :: l).getLast (by simp) := fun heq =>
      (List.nodup_cons.1 hl).1 (heq ▸ List.getLast_mem _)
    have hd : d ≠ c := fun heq => hc (by simp [heq])
    rw [hlast]
    refine ⟨⟨?_, ?_⟩, ih hp.2 (List.nodup_cons.1 hl).2 fun hmem => hc (List.mem_cons_of_mem d hmem)⟩
    · exact (Function.update_of_ne ha _ _).trans hp.1.1
    · exact (Function.update_of_ne hd _ _).trans hp.1.2

/-- The first cell of a ring is unlinked: its neighbours are linked, and its successor comes first. -/
theorem Ring.unlink (hr : Ring h a (b :: l)) : Ring (h.link (h.prev a) (h.next a)) b l := by
  obtain ⟨hnodup, ⟨hnext, -⟩, hpath⟩ := hr
  obtain ⟨-, hnodup⟩ := List.nodup_cons.1 hnodup
  rw [hpath.prev_eq, hnext]
  exact ⟨hnodup, hpath.redirect hnodup (List.nodup_cons.1 hnodup).1⟩

/-- A new cell that was given its links is linked in before the first one, at the end. -/
theorem Ring.insert (hr : Ring h a l) (hc : c ∉ a :: l) (hother : ∀ d ≠ c, h'.next d = h.next d ∧ h'.prev d = h.prev d)
    (hnext : h'.next c = a) (hprev : h'.prev c = h.prev a) :
    Ring { next := Function.update h'.next (h.prev a) c, prev := Function.update h'.prev a c } a (l ++ [c]) := by
  have hold : ∀ d ∈ a :: l, d ≠ c := fun d hd heq => hc (heq ▸ hd)
  have hac : c ≠ a := (hold a (by simp)).symm
  have hlast : h.prev a = (a :: l).getLast (by simp) := hr.path.prev_eq
  have hlastc : c ≠ h.prev a := (hold _ (hlast ▸ List.getLast_mem _)).symm
  have hpath : Path h' a l a := by
    refine hr.path.congr (fun d hd => (hother d (hold d hd)).1) fun d hd => (hother d (hold d ?_)).2
    rcases List.mem_append.1 hd with hd | hd
    · exact List.mem_cons_of_mem a hd
    · rw [List.mem_singleton.1 hd]
      exact List.mem_cons_self
  have hredirect := hpath.redirect hr.nodup fun hmem => hc (List.mem_cons_of_mem a hmem)
  rw [← hlast] at hredirect
  refine ⟨?_, Path.append.2 ⟨hredirect.congr (fun d hd => rfl) fun d hd => ?_, ?_, Function.update_self ..⟩⟩
  · rw [← List.cons_append, List.nodup_append]
    refine ⟨hr.nodup, List.nodup_singleton c, fun d hd e he => ?_⟩
    rw [List.mem_singleton.1 he]
    exact hold d hd
  · rcases List.mem_append.1 hd with hd | hd
    · have hda : d ≠ a := fun heq => (List.nodup_cons.1 hr.nodup).1 (heq ▸ hd)
      have hdc : d ≠ c := hold d (List.mem_cons_of_mem a hd)
      simp [Links.link, hda, hdc]
    · rw [List.mem_singleton.1 hd]
      simp [Links.link, hac, hprev]
  · exact (Function.update_of_ne hlastc _ _).trans hnext

/-- Any cell may be unlinked. -/
theorem Ring.unlinkAt {r : List ι} (hr : Ring h a (l ++ c :: r)) :
    Ring (h.link (h.prev c) (h.next c)) a (l ++ r) := by
  have hrot := hr.rotate
  cases r with
  | nil =>
    rw [List.append_nil]
    exact hrot.unlink
  | cons d r => exact Ring.rotate (Ring.unlink hrot)

/-- A new cell is linked in before any cell `d`. -/
theorem Ring.insertAt {r : List ι} {d : ι} (hr : Ring h a (l ++ d :: r)) (hc : c ∉ a :: (l ++ d :: r))
    (hother : ∀ e ≠ c, h'.next e = h.next e ∧ h'.prev e = h.prev e) (hnext : h'.next c = d) (hprev : h'.prev c = h.prev d) :
    Ring { next := Function.update h'.next (h.prev d) c, prev := Function.update h'.prev d c } a (l ++ c :: d :: r) := by
  have hperm : (d :: (r ++ a :: l)).Perm (a :: (l ++ d :: r)) := @List.perm_append_comm _ (d :: r) (a :: l)
  have hring := hr.rotate.insert (fun hmem => hc (hperm.mem_iff.1 hmem)) hother hnext hprev
  rw [List.append_assoc, List.cons_append] at hring
  have hrot := hring.rotate
  rwa [List.append_assoc, List.singleton_append] at hrot

/-- A new cell is linked in after the cells of `l`, before the one that follows them. -/
theorem Ring.insertBefore {r : List ι} {d : ι} (hr : Ring h a (l ++ r)) (hc : c ∉ a :: (l ++ r))
    (hd : d = (r ++ [a]).head (by simp)) (hother : ∀ e ≠ c, h'.next e = h.next e ∧ h'.prev e = h.prev e)
    (hnext : h'.next c = d) (hprev : h'.prev c = h.prev d) :
    Ring { next := Function.update h'.next (h.prev d) c, prev := Function.update h'.prev d c } a (l ++ c :: r) := by
  cases r with
  | nil =>
    rw [List.append_nil] at hr hc
    subst hd
    exact hr.insert hc hother hnext hprev
  | cons e r =>
    subst hd
    exact hr.insertAt hc hother hnext hprev

end Rings
