import UniRil.Libril.Timers

/-!
# The lists of the event loop

Over two rings without a common event, the functions of ril_event.cpp do what the lists of their events say.
-/

namespace UniRil.Libril.Timers

open Rings Runs

/-! ## The order of times -/

/-- The seconds decide, then the microseconds. -/
def Timeval.key (t : Timeval) : Int ×ₗ Int := toLex (t.tv_sec, t.tv_usec)

theorem timercmp_lt {a b : Timeval} : timercmp a b (· < ·) = true ↔ a.key < b.key := by
  rw [timercmp, Timeval.key, Timeval.key, Prod.Lex.toLex_lt_toLex]
  split
  · simp [*]
  · simp [*]

theorem timercmp_gt {a b : Timeval} : timercmp a b (· > ·) = true ↔ b.key < a.key := by
  rw [← timercmp_lt, timercmp, timercmp]
  by_cases h : a.tv_sec = b.tv_sec
  · rw [if_pos h, if_pos h.symm]
  · rw [if_neg h, if_neg (Ne.symm h)]

theorem le_iff {a b : Timeval} : a.le b ↔ a.key ≤ b.key := by
  rw [Timeval.le, ← not_lt, ← timercmp_lt, Bool.not_eq_true]

/-! ## The two functions on lists -/

variable {h : Links EventPtr} {a ev list : EventPtr} {l r : List EventPtr}

theorem ring_addToList (hr : Ring h a (l ++ r)) (hev : ev ∉ a :: (l ++ r)) (hlist : list = (r ++ [a]).head (by simp)) :
    Ring (addToList ev list h) a (l ++ ev :: r) := by
  have hne : list ≠ ev := by
    rintro rfl
    apply hev
    rw [hlist]
    cases r <;> simp
  let h' : Links EventPtr :=
    { next := Function.update h.next ev list, prev := Function.update h.prev ev (h.prev list) }
  have heq : addToList ev list h =
      { next := Function.update h'.next (h.prev list) ev, prev := Function.update h'.prev list ev } := by
    simp [addToList, h']
  rw [heq]
  refine hr.insertBefore hev hlist ?_ ?_ ?_
  · intro e he
    exact ⟨Function.update_of_ne he _ _, Function.update_of_ne he _ _⟩
  · exact Function.update_self ..
  · exact Function.update_self ..

theorem ring_removeFromList (hr : Ring h a (l ++ ev :: r)) : Ring (removeFromList ev h) a (l ++ r) := by
  have hself : h.next ev ≠ ev := by
    intro heq
    have hnil := hr.rotate.next_eq_self_iff.1 heq
    simp at hnil
  have hother : ∀ c ≠ ev, (removeFromList ev h).next c = (h.link (h.prev ev) (h.next ev)).next c ∧
      (removeFromList ev h).prev c = (h.link (h.prev ev) (h.next ev)).prev c := by
    intro c hc
    simp [removeFromList, Links.link, hc, Function.update_of_ne hself.symm]
  refine hr.unlinkAt.congr ?_
  intro c hc
  refine hother c ?_
  rintro rfl
  have hnodup := hr.rotate.nodup
  refine (List.nodup_cons.1 hnodup).1 ?_
  simp at hc ⊢
  tauto

/-- A ring does not change when an event is put into another one. -/
theorem addToList_other {b : EventPtr} {m : List EventPtr} (hr : Ring h a (l ++ r)) (hb : Ring h b m)
    (hlist : list = (r ++ [a]).head (by simp)) (hev : ev ∉ b :: m) (hapart : ∀ c ∈ b :: m, c ∉ a :: (l ++ r)) :
    Ring (addToList ev list h) b m := by
  have hmem : list ∈ a :: (l ++ r) := by
    rw [hlist]
    cases r <;> simp
  have hprev : h.prev list ∈ a :: (l ++ r) := by
    rcases List.mem_cons.1 hmem with rfl | hin
    · exact hr.prev_mem
    · obtain ⟨l', r', heq⟩ := List.append_of_mem hin
      have hperm : (list :: (r' ++ a :: l')).Perm (a :: (l' ++ list :: r')) :=
        @List.perm_append_comm _ (list :: r') (a :: l')
      rw [heq] at hr ⊢
      exact hperm.mem_iff.1 hr.rotate.prev_mem
  refine hb.congr ?_
  intro c hc
  have hcev : c ≠ ev := ne_of_mem_of_not_mem hc hev
  have hclist : c ≠ list := fun heq => hapart c hc (heq ▸ hmem)
  have hcprev : c ≠ h.prev list := fun heq => hapart c hc (heq ▸ hprev)
  simp [addToList, hcev, hclist, hcprev]

theorem removeFromList_other {b : EventPtr} {m : List EventPtr} (hr : Ring h a (l ++ ev :: r)) (hb : Ring h b m)
    (hapart : ∀ c ∈ b :: m, c ∉ a :: (l ++ ev :: r)) : Ring (removeFromList ev h) b m := by
  have hperm : (ev :: (r ++ a :: l)).Perm (a :: (l ++ ev :: r)) := @List.perm_append_comm _ (ev :: r) (a :: l)
  have hnext : h.next ev ∈ a :: (l ++ ev :: r) := hperm.mem_iff.1 hr.rotate.next_mem
  have hprev : h.prev ev ∈ a :: (l ++ ev :: r) := hperm.mem_iff.1 hr.rotate.prev_mem
  have hself : h.next ev ≠ ev := by
    intro heq
    have hnil := hr.rotate.next_eq_self_iff.1 heq
    simp at hnil
  refine hb.congr ?_
  intro c hc
  have hcev : c ≠ ev := fun heq => hapart c hc (heq ▸ by simp)
  have hcnext : c ≠ h.next ev := fun heq => hapart c hc (heq ▸ hnext)
  have hcprev : c ≠ h.prev ev := fun heq => hapart c hc (heq ▸ hprev)
  simp [removeFromList, hcev, hcnext, hcprev, Function.update_of_ne hself.symm]

/-! ## The loops -/

variable {timers : List Nat} {pending : List EventPtr} {timeout : EventPtr → Timeval} {fuel : Nat}

/-- The event that a walk of timer_list is at, with these timers left. -/
def walkAt (timers : List Nat) : EventPtr := (timers.map EventPtr.timer ++ [EventPtr.timer_list]).head (by simp)

theorem walkAt_cons (n : Nat) (rest : List Nat) : walkAt (n :: rest) = .timer n := rfl

theorem next_timer_list (hr : Ring h .timer_list (timers.map .timer)) : h.next .timer_list = walkAt timers :=
  hr.path.next_eq

theorem findLater_eq {deadline : Timeval} {early : Nat → Bool} (hp : Path h a (timers.map .timer) .timer_list)
    (hearly : ∀ n ∈ timers, timercmp (timeout (.timer n)) deadline (· < ·) = early n) (hfuel : timers.length < fuel) :
    findLater h.next timeout deadline fuel (walkAt timers) = walkAt (timers.dropWhile early) := by
  induction timers generalizing fuel a with
  | nil =>
    obtain ⟨fuel, rfl⟩ : ∃ k, fuel = k + 1 := ⟨fuel - 1, by simp at hfuel; omega⟩
    simp [findLater, walkAt]
  | cons n timers ih =>
    obtain ⟨fuel, rfl⟩ : ∃ k, fuel = k + 1 := ⟨fuel - 1, by simp at hfuel; omega⟩
    rw [walkAt_cons, findLater, List.dropWhile_cons, hearly n (by simp)]
    by_cases hlt : early n = true
    · rw [if_pos ⟨hlt, by simp⟩, if_pos hlt, hp.2.next_eq]
      exact ih hp.2 (fun m hm => hearly m (List.mem_cons_of_mem n hm)) (by simpa using hfuel)
    · rw [if_neg (fun h => hlt h.1), if_neg hlt]
      rfl

/-- Both lists, and no event in both. -/
structure TwoRings (h : Links EventPtr) (timers : List Nat) (pending : List EventPtr) : Prop where
  timerRing : Ring h .timer_list (timers.map .timer)
  pendingRing : Ring h .pending_list pending
  apart : ∀ ev ∈ pending, ev ∉ EventPtr.timer_list :: timers.map .timer

theorem TwoRings.separate (hr : TwoRings h timers pending) :
    ∀ ev ∈ EventPtr.pending_list :: pending, ev ∉ EventPtr.timer_list :: timers.map .timer := by
  intro ev hev
  rcases List.mem_cons.1 hev with rfl | hev
  · simp
  · exact hr.apart ev hev

theorem TwoRings.separate' (hr : TwoRings h timers pending) :
    ∀ ev ∈ EventPtr.timer_list :: timers.map .timer, ev ∉ EventPtr.pending_list :: pending :=
  fun ev hev hmem => hr.separate ev hmem hev

/-- A new timer is put before what `list` points to. -/
theorem TwoRings.addTimer {l r : List Nat} {n : Nat} (hr : TwoRings h (l ++ r) pending) (hn : n ∉ l ++ r)
    (hpending : .timer n ∉ pending) : TwoRings (addToList (.timer n) (walkAt r) h) (l ++ n :: r) pending := by
  have hring := hr.timerRing
  have hsep := hr.separate
  rw [List.map_append] at hring hsep
  have hnew : EventPtr.timer n ∉ EventPtr.timer_list :: (l.map .timer ++ r.map .timer) := by
    simpa using hn
  refine ⟨?_, ?_, ?_⟩
  · rw [List.map_append, List.map_cons]
    exact ring_addToList hring hnew rfl
  · exact addToList_other hring hr.pendingRing rfl (by simpa using hpending) hsep
  · intro ev hev hmem
    refine hr.apart ev hev ?_
    have hne : ev ≠ .timer n := ne_of_mem_of_not_mem hev hpending
    simp only [List.map_append, List.map_cons, List.mem_cons, List.mem_append] at hmem ⊢
    tauto

/-- An event is put at the end of pending_list. -/
theorem TwoRings.addPending (hr : TwoRings h timers pending) (htimers : ev ∉ EventPtr.timer_list :: timers.map .timer)
    (hpending : ev ∉ EventPtr.pending_list :: pending) :
    TwoRings (addToList ev .pending_list h) timers (pending ++ [ev]) := by
  have hring : Ring h .pending_list (pending ++ []) := by
    rw [List.append_nil]
    exact hr.pendingRing
  have hsep := hr.separate'
  rw [← List.append_nil pending] at hpending hsep
  refine ⟨?_, ring_addToList hring hpending rfl, ?_⟩
  · exact addToList_other hring hr.timerRing rfl htimers hsep
  · intro e he
    rcases List.mem_append.1 he with he | he
    · exact hr.apart e he
    · rw [List.mem_singleton.1 he]
      exact htimers

theorem TwoRings.removeTimer {n : Nat} (hr : TwoRings h (n :: timers) pending) :
    TwoRings (removeFromList (.timer n) h) timers pending := by
  refine ⟨ring_removeFromList (l := []) hr.timerRing, ?_, ?_⟩
  · exact removeFromList_other (l := []) hr.timerRing hr.pendingRing hr.separate
  · intro ev hev hmem
    refine hr.apart ev hev ?_
    simp only [List.map_cons, List.mem_cons] at hmem ⊢
    tauto

theorem TwoRings.removePending (hr : TwoRings h timers (ev :: pending)) :
    TwoRings (removeFromList ev h) timers pending := by
  refine ⟨?_, ring_removeFromList (l := []) hr.pendingRing, ?_⟩
  · exact removeFromList_other (l := []) hr.pendingRing hr.timerRing hr.separate'
  · intro e he
    exact hr.apart e (List.mem_cons_of_mem ev he)

/-- The timers that the loop of processTimeouts takes out. -/
theorem collect_eq {now : Timeval} {late : Nat → Bool} (hr : TwoRings h timers pending)
    (hlate : ∀ n ∈ timers, timercmp now (timeout (.timer n)) (· > ·) = late n) (hfuel : timers.length < fuel) :
    (collect timeout now fuel (walkAt timers) h).2 = timers.takeWhile late ∧
      TwoRings (collect timeout now fuel (walkAt timers) h).1 (timers.dropWhile late)
        (pending ++ (timers.takeWhile late).map .timer) := by
  induction timers generalizing fuel h pending with
  | nil =>
    obtain ⟨fuel, rfl⟩ : ∃ k, fuel = k + 1 := ⟨fuel - 1, by simp at hfuel; omega⟩
    simpa [collect, walkAt] using hr
  | cons n timers ih =>
    obtain ⟨fuel, rfl⟩ : ∃ k, fuel = k + 1 := ⟨fuel - 1, by simp at hfuel; omega⟩
    rw [walkAt_cons, collect, List.takeWhile_cons, List.dropWhile_cons, hlate n (by simp)]
    by_cases hgt : late n = true
    · have hnext : h.next (.timer n) = walkAt timers := hr.timerRing.path.2.next_eq
      have hnodup := (List.nodup_cons.1 hr.timerRing.nodup).2
      have hn : EventPtr.timer n ∉ EventPtr.timer_list :: timers.map .timer := by
        rw [List.map_cons, List.nodup_cons] at hnodup
        simpa using hnodup.1
      have hn' : EventPtr.timer n ∉ EventPtr.pending_list :: pending := hr.separate' _ (by simp)
      obtain ⟨hcollected, hrings⟩ := ih (hr.removeTimer.addPending hn hn')
        (fun m hm => hlate m (List.mem_cons_of_mem n hm)) (by simpa using hfuel)
      rw [if_pos ⟨by simp, hgt⟩, if_pos hgt, if_pos hgt, hnext]
      refine ⟨congrArg (n :: ·) hcollected, ?_⟩
      rw [List.append_assoc, List.singleton_append] at hrings
      exact hrings
    · rw [if_neg (fun h => hgt h.2), if_neg hgt, if_neg hgt]
      simpa using hr

/-- The events of the watch table are put behind the timers. -/
theorem TwoRings.addReady (ready : List Nat) (hr : TwoRings h timers pending) (hready : ready.Nodup)
    (hnew : ∀ i ∈ ready, .watch i ∉ pending) :
    TwoRings (ready.foldl (fun h i => addToList (.watch i) .pending_list h) h) timers
      (pending ++ ready.map .watch) := by
  induction ready generalizing h pending with
  | nil => simpa using hr
  | cons i ready ih =>
    obtain ⟨hi, hready⟩ := List.nodup_cons.1 hready
    have hrings : TwoRings (addToList (.watch i) .pending_list h) timers (pending ++ [.watch i]) :=
      hr.addPending (by simp) (by simpa using hnew i (by simp))
    have hall := ih hrings hready ?_
    · simpa using hall
    · intro j hj hmem
      rcases List.mem_append.1 hmem with hmem | hmem
      · exact hnew j (List.mem_cons_of_mem i hj) hmem
      · obtain rfl : j = i := by simpa using hmem
        exact hi hj

end UniRil.Libril.Timers
