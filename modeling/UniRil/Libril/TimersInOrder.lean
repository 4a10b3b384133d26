import Mathlib.Data.List.TakeWhile
import UniRil.Libril.TimerLists

/-!
# The order in which timers fire

What has fired, what is about to fire and what waits make one list. No step of the loop changes its order, and a new
timer goes in before the first one that is not earlier, so before the timers with its own deadline.
-/

namespace UniRil.Libril.Timers

open Rings Runs

variable {timers : List Nat} {pending : List EventPtr}

/-! ## The invariant -/

variable {s s' : State}

structure Good (s : State) (timers : List Nat) (pending : List EventPtr) : Prop where
  rings : TwoRings s.links timers pending
  sane : Sane s (timersOf pending) timers
  collected : s.collected = s.fired.map Fired.timer ++ timersOf pending
  /-- What is about to fire is late, and not earlier than what this round fired. -/
  expired : ∀ n ∈ timersOf pending, timercmp (s.deadline n) s.now (· < ·) = true
  pending_sorted : (timersOf pending).Pairwise fun a b => (s.deadline a).le (s.deadline b)
  this_round : ∀ f ∈ s.fired, f.round = s.rounds → ∀ n ∈ timersOf pending, (s.deadline f.timer).le (s.deadline n)
  round_le : ∀ f ∈ s.fired, f.round ≤ s.rounds
  found : ∀ n ∈ timers, n < s.addedBefore → s.now.le (s.deadline n)
  addedBefore_le : s.addedBefore ≤ s.added
  at_select : s.loop = .select → pending = []
  at_ready : s.loop = .processReadReadies → ∀ i, EventPtr.watch i ∉ pending
  at_fire : ∀ ev, s.loop = .firePending ev → ev = (pending ++ [EventPtr.pending_list]).head (by simp)

theorem mem_timersOf {n : Nat} : n ∈ timersOf pending ↔ .timer n ∈ pending := by
  simp only [timersOf, List.mem_filterMap]
  constructor
  · rintro ⟨ev, hev, hn⟩
    cases ev <;> simp [EventPtr.toTimer] at hn
    rwa [← hn]
  · intro h
    exact ⟨_, h, rfl⟩

theorem timersOf_append (l r : List EventPtr) : timersOf (l ++ r) = timersOf l ++ timersOf r := List.filterMap_append

theorem timersOf_timers (l : List Nat) : timersOf (l.map .timer) = l := by
  simp [timersOf, List.filterMap_map, EventPtr.toTimer, Function.comp_def]

theorem timersOf_watches (l : List Nat) : timersOf (l.map .watch) = [] := by
  simp [timersOf, List.filterMap_map, EventPtr.toTimer, Function.comp_def]

theorem good_init : Good State.init [] [] := by
  constructor <;> simp [State.init, timersOf]
  · refine ⟨Ring.single rfl rfl, Ring.single rfl rfl, by simp⟩
  · constructor <;> simp [State.order]

theorem Good.lt_added {n : Nat} (hs : Good s timers pending) (hn : n ∈ timers ∨ n ∈ timersOf pending) :
    n < s.added := by
  refine (hs.sane.mem_order n).1 ?_
  simp only [State.order, List.mem_append]
  tauto

theorem Good.length_timers (hs : Good s timers pending) : timers.length < s.added + 1 := by
  have hnodup : timers.Nodup := (List.nodup_append.1 hs.sane.nodup).2.1
  exact Nat.lt_succ_of_le (length_le_of_lt hnodup fun n hn => hs.lt_added (.inl hn))

/-! ### A timer is added -/

theorem deadline_add {now tv : Timeval} {n : Nat} :
    (ril_timer_add s now tv).deadline n = if n = s.added then timeradd now tv else s.deadline n := by
  by_cases hn : n = s.added
  · simp [ril_timer_add, State.deadline, hn]
  · simp [ril_timer_add, State.deadline, hn]

theorem deadline_add_of_lt {now tv : Timeval} {n : Nat} (hn : n < s.added) :
    (ril_timer_add s now tv).deadline n = s.deadline n := by
  rw [deadline_add, if_neg (by omega)]

def State.early (s : State) (d : Timeval) (n : Nat) : Bool := timercmp (s.deadline n) d (· < ·)

/-- What a walk over a sorted list stops at, and what lies behind, is not early. -/
theorem le_of_mem_dropWhile {d : Timeval} (hsorted : timers.Pairwise fun a b => (s.deadline a).le (s.deadline b)) :
    ∀ n ∈ timers.dropWhile (s.early d), d.le (s.deadline n) := by
  induction timers with
  | nil => simp
  | cons a timers ih =>
    obtain ⟨ha, hsorted⟩ := List.pairwise_cons.1 hsorted
    rw [List.dropWhile_cons]
    split
    · exact ih hsorted
    · rename_i hnot
      have hda : d.le (s.deadline a) := by simpa [Timeval.le, State.early] using hnot
      intro n hn
      rcases List.mem_cons.1 hn with rfl | hn
      · exact hda
      · exact le_iff.2 ((le_iff.1 hda).trans (le_iff.1 (ha n hn)))

/-- A sorted list falls into what is early and what is not. -/
theorem split_early (d : Timeval) (hsorted : timers.Pairwise fun a b => (s.deadline a).le (s.deadline b)) :
    ∃ l r, timers = l ++ r ∧ timers.takeWhile (s.early d) = l ∧ timers.dropWhile (s.early d) = r ∧
      (∀ n ∈ l, timercmp (s.deadline n) d (· < ·) = true) ∧ ∀ n ∈ r, d.le (s.deadline n) :=
  ⟨_, _, List.takeWhile_append_dropWhile.symm, rfl, rfl, fun _ hn => List.mem_takeWhile_imp (p := s.early d) hn,
    le_of_mem_dropWhile hsorted⟩

/-- The new timer stands behind all that are earlier. -/
theorem good_add (hs : Good s timers pending) (now tv : Timeval) :
    ∃ l r, timers = l ++ r ∧ (∀ n ∈ l, timercmp (s.deadline n) (timeradd now tv) (· < ·) = true) ∧
      (∀ n ∈ r, (timeradd now tv).le (s.deadline n)) ∧
      Good (ril_timer_add s now tv) (l ++ s.added :: r) pending := by
  have hnew : s.added ∉ timers := fun hmem => (hs.lt_added (.inl hmem)).false
  have hnew' : EventPtr.timer s.added ∉ pending := fun hmem => (hs.lt_added (.inr (mem_timersOf.2 hmem))).false
  obtain ⟨l, r, rfl, -, hdrop, hl, hr⟩ := split_early (timeradd now tv) hs.sane.sorted
  have hwalk : findLater s.links.next (Function.update s.timeout (.timer s.added) (timeradd now tv)) (timeradd now tv)
      (s.added + 1) (s.links.next .timer_list) = walkAt r := by
    rw [next_timer_list hs.rings.timerRing]
    refine (findLater_eq hs.rings.timerRing.path ?_ hs.length_timers).trans (congrArg walkAt hdrop)
    intro n hn
    have hne : n ≠ s.added := ne_of_mem_of_not_mem hn hnew
    simp [State.early, State.deadline, hne]
  have hsame : ∀ n ∈ s.order (timersOf pending) (l ++ r), (ril_timer_add s now tv).deadline n = s.deadline n :=
    fun n hn => deadline_add_of_lt ((hs.sane.mem_order n).1 hn)
  have hnewest : (ril_timer_add s now tv).deadline s.added = timeradd now tv := by rw [deadline_add, if_pos rfl]
  have hfired : ∀ f ∈ s.fired, (ril_timer_add s now tv).deadline f.timer = s.deadline f.timer := by
    intro f hf
    refine hsame _ ?_
    simp only [State.order, List.mem_append, List.mem_map]
    exact .inl (.inl ⟨f, hf, rfl⟩)
  have hpending : ∀ n ∈ timersOf pending, (ril_timer_add s now tv).deadline n = s.deadline n :=
    fun n hn => hsame n (by simp [State.order, hn])
  have hwaiting : ∀ n ∈ l ++ r, (ril_timer_add s now tv).deadline n = s.deadline n := by
    intro n hn
    refine hsame n ?_
    simp only [State.order, List.mem_append] at hn ⊢
    exact .inr hn
  have hfound : ∀ n ∈ l ++ s.added :: r, n < s.addedBefore → s.now.le ((ril_timer_add s now tv).deadline n) := by
    intro n hn hbefore
    have hne : n ≠ s.added := by
      have := hs.addedBefore_le
      omega
    have hold : n ∈ l ++ r := by
      simp only [List.mem_append, List.mem_cons] at hn ⊢
      tauto
    rw [hwaiting n hold]
    exact hs.found n hold hbefore
  have horder : ((ril_timer_add s now tv).order (timersOf pending) (l ++ s.added :: r)).Perm
      (s.added :: s.order (timersOf pending) (l ++ r)) :=
    (List.perm_middle.append_left _).trans List.perm_middle
  refine ⟨l, r, rfl, hl, hr, ?_⟩
  constructor
  · have hrings := hs.rings.addTimer hnew hnew'
    rw [← hwalk] at hrings
    exact hrings
  · constructor
    · obtain ⟨hsl, hsr, hslr⟩ := List.pairwise_append.1 hs.sane.sorted
      refine List.pairwise_append.2 ⟨?_, List.pairwise_cons.2 ⟨?_, ?_⟩, ?_⟩
      · refine hsl.imp_of_mem ?_
        intro a b ha hb hab
        rwa [hwaiting a (by simp [ha]), hwaiting b (by simp [hb])]
      · intro b hb
        rw [hnewest, hwaiting b (by simp [hb])]
        exact hr b hb
      · refine hsr.imp_of_mem ?_
        intro a b ha hb hab
        rwa [hwaiting a (by simp [ha]), hwaiting b (by simp [hb])]
      · intro a ha b hb
        rw [hwaiting a (by simp [ha])]
        rcases List.mem_cons.1 hb with rfl | hb
        · rw [hnewest]
          exact le_iff.2 (timercmp_lt.1 (hl a ha)).le
        · rw [hwaiting b (by simp [hb])]
          exact hslr a ha b hb
    · rw [horder.nodup_iff, List.nodup_cons]
      exact ⟨fun hmem => ((hs.sane.mem_order _).1 hmem).false, hs.sane.nodup⟩
    · intro n
      rw [horder.mem_iff, List.mem_cons, hs.sane.mem_order]
      show _ ↔ n < s.added + 1
      omega
    · intro f hf
      rw [hfired f hf]
      exact hs.sane.passed f hf
    · refine hs.sane.rounds.imp_of_mem ?_
      intro f g hf hg hfg
      rwa [hfired f hf, hfired g hg]
    · intro hloop
      exact ⟨(hs.sane.due hloop).1, hfound⟩
  · exact hs.collected
  · intro n hn
    rw [hpending n hn]
    exact hs.expired n hn
  · refine hs.pending_sorted.imp_of_mem ?_
    intro a b ha hb hab
    rwa [hpending a ha, hpending b hb]
  · intro f hf hround n hn
    rw [hfired f hf, hpending n hn]
    exact hs.this_round f hf hround n hn
  · exact hs.round_le
  · exact hfound
  · exact hs.addedBefore_le.trans (Nat.le_succ _)
  · exact hs.at_select
  · exact hs.at_ready
  · exact hs.at_fire

/-! ### The event loop -/

theorem good_processTimeouts (hs : Good s timers []) (now : Timeval) :
    ∃ l r, timers = l ++ r ∧ Good (processTimeouts s now) r (l.map .timer) := by
  have hlate : ∀ n ∈ timers, timercmp now (s.timeout (.timer n)) (· > ·) = s.early now n := by
    intro n _
    rw [Bool.eq_iff_iff, timercmp_gt, State.early, timercmp_lt]
    rfl
  have hcollect := collect_eq hs.rings hlate hs.length_timers
  rw [← next_timer_list hs.rings.timerRing] at hcollect
  obtain ⟨l, r, rfl, htake, hdrop, hl, hr⟩ := split_early now hs.sane.sorted
  rw [htake, hdrop] at hcollect
  obtain ⟨htaken, hrings⟩ := hcollect
  obtain ⟨hsl, hsr, -⟩ := List.pairwise_append.1 hs.sane.sorted
  have horder : (processTimeouts s now).order (timersOf (l.map .timer)) r = s.order (timersOf []) (l ++ r) := by
    rw [timersOf_timers]
    simp [State.order, processTimeouts, timersOf]
  refine ⟨l, r, rfl, ?_⟩
  constructor
  · exact hrings
  · constructor
    · exact hsr
    · rw [horder]
      exact hs.sane.nodup
    · rw [horder]
      exact hs.sane.mem_order
    · exact hs.sane.passed
    · exact hs.sane.rounds
    · intro hloop
      cases hloop
  · have hcollected := hs.collected
    rw [timersOf_timers]
    simp only [processTimeouts]
    rw [htaken, hcollected]
    simp [timersOf]
  · rw [timersOf_timers]
    exact hl
  · rw [timersOf_timers]
    exact hsl
  · intro f hf hround
    have hle := hs.round_le f hf
    have hround : f.round = s.rounds + 1 := hround
    omega
  · intro f hf
    exact (hs.round_le f hf).trans (Nat.le_succ _)
  · intro n hn _
    exact hr n hn
  · exact Nat.le_refl _
  · intro hloop
    cases hloop
  · intro _ i
    simp
  · intro ev hloop
    cases hloop

theorem good_processReadReadies (hs : Good s timers pending) (hloop : s.loop = .processReadReadies) {ready : List Nat}
    (hready : ready.Nodup) : Good (processReadReadies s ready) timers (pending ++ ready.map .watch) := by
  have hrings := hs.rings.addReady ready hready fun i _ => hs.at_ready hloop i
  have htimers : timersOf (pending ++ ready.map .watch) = timersOf pending := by
    rw [timersOf_append, timersOf_watches, List.append_nil]
  constructor
  · exact hrings
  · rw [htimers]
    refine ⟨hs.sane.sorted, hs.sane.nodup, hs.sane.mem_order, hs.sane.passed, hs.sane.rounds, ?_⟩
    intro h
    cases h
  · rw [htimers]
    exact hs.collected
  · rw [htimers]
    exact hs.expired
  · rw [htimers]
    exact hs.pending_sorted
  · rw [htimers]
    exact hs.this_round
  · exact hs.round_le
  · exact hs.found
  · exact hs.addedBefore_le
  · intro h
    cases h
  · intro h
    cases h
  · intro ev h
    cases h
    exact hrings.pendingRing.path.next_eq

/-- firePending is through. -/
theorem good_done (hs : Good s timers []) : Good { s with loop := .select } timers [] := by
  refine ⟨hs.rings, ?_, hs.collected, hs.expired, hs.pending_sorted, hs.this_round, hs.round_le, hs.found,
    hs.addedBefore_le, fun _ => rfl, ?_, ?_⟩
  · exact ⟨hs.sane.sorted, hs.sane.nodup, hs.sane.mem_order, hs.sane.passed, hs.sane.rounds, fun _ => ⟨rfl, hs.found⟩⟩
  · intro h
    cases h
  · intro ev h
    cases h

theorem fired_fire (ev : EventPtr) :
    ∃ new, (fire s ev).fired = s.fired ++ new ∧ new.map Fired.timer = timersOf [ev] ∧
      ∀ f ∈ new, f.round = s.rounds ∧ f.now = s.now := by
  cases ev with
  | timer n => exact ⟨[{ timer := n, round := s.rounds, now := s.now }], rfl, rfl, by simp⟩
  | null => exact ⟨[], (List.append_nil _).symm, rfl, by simp⟩
  | timer_list => exact ⟨[], (List.append_nil _).symm, rfl, by simp⟩
  | pending_list => exact ⟨[], (List.append_nil _).symm, rfl, by simp⟩
  | watch i => exact ⟨[], (List.append_nil _).symm, rfl, by simp⟩

/-- The first event of pending_list is fired. -/
theorem good_fire {ev : EventPtr} (hs : Good s timers (ev :: pending)) :
    Good (fire s ev) timers pending ∧
      (fire s ev).order (timersOf pending) timers = s.order (timersOf (ev :: pending)) timers := by
  obtain ⟨new, hfired, hnew, hround⟩ := fired_fire (s := s) ev
  have htimers : timersOf (ev :: pending) = new.map Fired.timer ++ timersOf pending := by
    rw [hnew, ← timersOf_append, List.singleton_append]
  have horder : (fire s ev).order (timersOf pending) timers = s.order (timersOf (ev :: pending)) timers := by
    simp [State.order, hfired, htimers]
  have hpending : ∀ n ∈ timersOf pending, n ∈ timersOf (ev :: pending) := by
    intro n hn
    rw [htimers]
    exact List.mem_append_right _ hn
  have hnewMem : ∀ f ∈ new, f.timer ∈ timersOf (ev :: pending) := by
    intro f hf
    rw [htimers]
    exact List.mem_append_left _ (List.mem_map_of_mem hf)
  have hsorted := hs.pending_sorted
  rw [htimers, List.pairwise_append] at hsorted
  refine ⟨?_, horder⟩
  constructor
  · exact hs.rings.removePending
  · constructor
    · exact hs.sane.sorted
    · rw [horder]
      exact hs.sane.nodup
    · rw [horder]
      exact hs.sane.mem_order
    · rw [hfired]
      intro f hf
      rcases List.mem_append.1 hf with hf | hf
      · exact hs.sane.passed f hf
      · rw [(hround f hf).2]
        exact hs.expired _ (hnewMem f hf)
    · rw [hfired, List.pairwise_append]
      refine ⟨hs.sane.rounds, ?_, ?_⟩
      · refine (List.pairwise_map.1 hsorted.1).imp ?_
        intro f g hle _
        exact hle
      · intro f hf g hg hfg
        rw [(hround g hg).1] at hfg
        exact hs.this_round f hf hfg _ (hnewMem g hg)
    · intro h
      cases h
  · rw [hfired, List.map_append, List.append_assoc, ← htimers]
    exact hs.collected
  · exact fun n hn => hs.expired n (hpending n hn)
  · exact hsorted.2.1
  · rw [hfired]
    intro f hf hthis n hn
    rcases List.mem_append.1 hf with hf | hf
    · exact hs.this_round f hf hthis n (hpending n hn)
    · exact hsorted.2.2 _ (List.mem_map_of_mem hf) n hn
  · rw [hfired]
    intro f hf
    rcases List.mem_append.1 hf with hf | hf
    · exact hs.round_le f hf
    · exact (hround f hf).1.le
  · exact hs.found
  · exact hs.addedBefore_le
  · intro h
    cases h
  · intro h
    cases h
  · intro e h
    cases h
    exact hs.rings.pendingRing.path.2.next_eq

/-! ## Runs -/

/-- What a step makes of the lists. -/
theorem good_step {a : Step} (hs : Good s timers pending) (hstep : step s a = some s') :
    ∃ timers' pending', Good s' timers' pending' ∧
      ((∃ now tv, a = .ril_timer_add now tv ∧ s' = ril_timer_add s now tv ∧ pending' = pending ∧
          ∃ l r, timers = l ++ r ∧ timers' = l ++ s.added :: r ∧
          (∀ n ∈ l, timercmp (s.deadline n) (timeradd now tv) (· < ·) = true) ∧
          ∀ n ∈ r, (timeradd now tv).le (s.deadline n)) ∨
        s'.deadline = s.deadline ∧ s'.order (timersOf pending') timers' = s.order (timersOf pending) timers) := by
  cases a with
  | ril_timer_add now tv =>
    obtain rfl : ril_timer_add s now tv = s' := Option.some.inj hstep
    obtain ⟨l, r, hsplit, hl, hr, hgood⟩ := good_add hs now tv
    exact ⟨_, _, hgood, .inl ⟨now, tv, rfl, rfl, rfl, l, r, hsplit, rfl, hl, hr⟩⟩
  | processTimeouts now =>
    simp only [step] at hstep
    split at hstep
    · rename_i hloop
      cases hstep
      obtain rfl := hs.at_select hloop
      obtain ⟨l, r, rfl, hgood⟩ := good_processTimeouts hs now
      refine ⟨_, _, hgood, .inr ⟨rfl, ?_⟩⟩
      rw [timersOf_timers]
      simp [State.order, processTimeouts, timersOf]
    · cases hstep
  | processReadReadies ready =>
    simp only [step] at hstep
    split at hstep
    · rename_i h
      cases hstep
      refine ⟨_, _, good_processReadReadies hs h.1 h.2, .inr ⟨rfl, ?_⟩⟩
      rw [timersOf_append, timersOf_watches, List.append_nil]
      rfl
    · cases hstep
  | firePending =>
    simp only [step] at hstep
    split at hstep
    · rename_i ev hloop
      have hev := hs.at_fire ev hloop
      cases hstep
      cases pending with
      | nil =>
        obtain rfl : ev = .pending_list := hev
        exact ⟨_, _, good_done hs, .inr ⟨rfl, rfl⟩⟩
      | cons first pending =>
        obtain rfl : ev = first := hev
        have hne : ev ≠ .pending_list := by
          rintro rfl
          exact (List.nodup_cons.1 hs.rings.pendingRing.nodup).1 (by simp)
        rw [if_neg hne]
        obtain ⟨hgood, horder⟩ := good_fire hs
        exact ⟨_, _, hgood, .inr ⟨rfl, horder⟩⟩
    · cases hstep

theorem Good.timersInOrder_iff (hs : Good s timers pending) :
    TimersInOrder s ↔ (s.order (timersOf pending) timers).Pairwise fun a b => s.deadline a = s.deadline b → a < b := by
  constructor
  · rintro ⟨timers', pending', htimers, hpending, horder⟩
    have heq : timers = timers' := by
      refine List.map_injective_iff.2 ?_ (hs.rings.timerRing.unique htimers)
      intro a b h
      cases h
      rfl
    rw [heq, hs.rings.pendingRing.unique hpending]
    exact horder.fifo
  · intro hfifo
    exact ⟨timers, pending, hs.rings.timerRing, hs.rings.pendingRing, hs.sane, hfifo⟩

/-- A step keeps the order unless it adds a timer behind one with its deadline. -/
theorem timersInOrder_step {a : Step} (hs : Good s timers pending) (hP : TimersInOrder s) (hC : DeadlineUnused s a)
    (hstep : step s a = some s') : TimersInOrder s' := by
  obtain ⟨timers', pending', hgood, hcase⟩ := good_step hs hstep
  rw [hs.timersInOrder_iff] at hP
  rw [hgood.timersInOrder_iff]
  rcases hcase with ⟨now, tv, rfl, rfl, rfl, l, r, rfl, rfl, hl, hr⟩ | ⟨hdeadline, horder⟩
  · have hold : ∀ n ∈ s.order (timersOf pending') (l ++ r), (ril_timer_add s now tv).deadline n = s.deadline n :=
      fun n hn => deadline_add_of_lt ((hs.sane.mem_order n).1 hn)
    have hlt : ∀ n ∈ s.order (timersOf pending') (l ++ r), n < s.added := fun n hn => (hs.sane.mem_order n).1 hn
    have hfired : (ril_timer_add s now tv).fired = s.fired := rfl
    have hnewest : (ril_timer_add s now tv).deadline s.added = timeradd now tv := by rw [deadline_add, if_pos rfl]
    have hlater : ∀ n ∈ r, s.deadline n ≠ timeradd now tv := by
      intro n hn
      refine hC n (hs.lt_added (.inl (by simp [hn]))) ?_
      rw [hs.collected]
      have hdisjoint := (List.nodup_append.1 hs.sane.nodup).2.2
      exact fun hmem => hdisjoint n hmem n (by simp [hn]) rfl
    have hfifo : (s.order (timersOf pending') (l ++ r)).Pairwise fun a b =>
        (ril_timer_add s now tv).deadline a = (ril_timer_add s now tv).deadline b → a < b := by
      refine hP.imp_of_mem ?_
      intro a b ha hb hab
      rwa [hold a ha, hold b hb]
    rw [State.order, ← List.append_assoc] at hfifo hold hlt
    rw [State.order, hfired, ← List.append_assoc]
    obtain ⟨hleft, hright, hcross⟩ := List.pairwise_append.1 hfifo
    refine List.pairwise_append.2 ⟨hleft, List.pairwise_cons.2 ⟨?_, hright⟩, ?_⟩
    · intro b hb heq
      rw [hnewest, hold b (List.mem_append_right _ hb)] at heq
      exact absurd heq.symm (hlater b hb)
    · intro a ha b hb
      rcases List.mem_cons.1 hb with rfl | hb
      · exact fun _ => hlt a (List.mem_append_left _ ha)
      · exact hcross a ha b hb
  · rw [horder, hdeadline]
    exact hP

/-- A timer that is added behind one with its deadline stands before it. -/
theorem timersInOrder_breaks {a : Step} (hs : Good s timers pending) (hC : ¬ DeadlineUnused s a) :
    ∃ s', step s a = some s' ∧ ¬ TimersInOrder s' := by
  cases a with
  | ril_timer_add now tv =>
    simp only [DeadlineUnused, not_forall, not_not] at hC
    obtain ⟨n, hn, hwaits, heq⟩ := hC
    obtain ⟨l, r, rfl, hl, hr, hgood⟩ := good_add hs now tv
    refine ⟨_, rfl, ?_⟩
    rw [hgood.timersInOrder_iff]
    intro hfifo
    have hmem : n ∈ r := by
      have hmem := (hs.sane.mem_order n).2 hn
      rw [State.order, ← hs.collected, List.mem_append] at hmem
      rcases List.mem_append.1 (hmem.resolve_left hwaits) with hl' | hr'
      · have hlt := timercmp_lt.1 (hl n hl')
        rw [heq] at hlt
        exact absurd hlt (lt_irrefl _)
      · exact hr'
    have hright := (List.pairwise_append.1 (List.pairwise_append.1 hfifo).2.1).2.1
    have hlast := (List.pairwise_cons.1 hright).1 n hmem
    rw [deadline_add, if_pos rfl, deadline_add_of_lt hn, heq] at hlast
    have := hlast rfl
    omega
  | processTimeouts now => exact absurd trivial hC
  | processReadReadies ready => exact absurd trivial hC
  | firePending => exact absurd trivial hC

/-- **The timers of the event loop fire in order**, each once, after its deadline and as it was added, exactly
when no timer is added while one with its deadline waits. -/
theorem timersInOrder_iff_deadlineUnused (run : List Step) :
    Always step TimersInOrder State.init run ↔ Steps step DeadlineUnused State.init run := by
  refine always_iff_steps (I := fun s => ∃ timers pending, Good s timers pending) ?_ ?_ ?_ ⟨[], [], good_init⟩ ?_ run
  · rintro s a s' ⟨timers, pending, hs⟩ hstep
    obtain ⟨timers', pending', hgood, -⟩ := good_step hs hstep
    exact ⟨timers', pending', hgood⟩
  · rintro s a s' ⟨timers, pending, hs⟩ hP hC hstep
    exact timersInOrder_step hs hP hC hstep
  · rintro s a ⟨timers, pending, hs⟩ hC
    exact timersInOrder_breaks hs hC
  · rw [good_init.timersInOrder_iff]
    simp [State.order, State.init, timersOf]

/-! ## Two timers without a delay -/

def atOnce (now : Timeval) : Step := .ril_timer_add now { tv_sec := 0, tv_usec := 0 }

/-- Two callbacks are requested, and the loop runs a second later. -/
def twoTimers (usec : Int) : List Step :=
  [atOnce { tv_sec := 1, tv_usec := 0 }, atOnce { tv_sec := 1, tv_usec := usec },
    .processTimeouts { tv_sec := 2, tv_usec := 0 }, .processReadReadies [0], .firePending, .firePending, .firePending,
    .firePending]

/-- Within one microsecond the second one fires first. -/
theorem fired_at_once :
    (run step State.init (twoTimers 0)).map (fun s => (s.fired.map Fired.timer, s.deadline 0, s.deadline 1)) =
      some ([1, 0], { tv_sec := 1, tv_usec := 0 }, { tv_sec := 1, tv_usec := 0 }) := by
  decide

theorem timersInOrder_fails_at_once : ¬ Always step TimersInOrder State.init (twoTimers 0) := by
  intro h
  obtain ⟨s, hrun, hfired⟩ := Option.map_eq_some_iff.1 fired_at_once
  simp only [Prod.mk.injEq] at hfired
  obtain ⟨hfired, h0, h1⟩ := hfired
  obtain ⟨timers, pending, -, -, horder⟩ := h.last hrun
  have hfifo := horder.fifo
  rw [State.order, hfired, List.append_assoc] at hfifo
  have hlt := (List.pairwise_cons.1 hfifo).1 0 (by simp) (h1.trans h0.symm)
  omega

end UniRil.Libril.Timers
