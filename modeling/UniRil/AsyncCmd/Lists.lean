import UniRil.AsyncCmd.Code

/-!
# The two lists of events

The functions of ril_async_cmd_handler.c follow pointers. Over rings of live events they do what the
lists of their events say.
-/

namespace UniRil.AsyncCmd

open Rings

def State.links (s : State) : Links EventPtr := { next := fun ev => (s.events ev).next, prev := fun ev => (s.events ev).prev }

variable {s s' s'' : State} {ev a b : EventPtr} {l r : List EventPtr}

/-! ## Memory -/


theorem touch_of_live (h : s.live ev = true) : s.touch ev = s := if_pos h

theorem get_bind {α : Type} (f : State → StateM State α) : (get >>= f).run s = (f s).run s := rfl

theorem bind_run {α β : Type} {x : StateM State α} {f : α → StateM State β} {v : α} (h : x.run s = (v, s')) :
    (x >>= f).run s = (f v).run s' := by
  show (f (x.run s).1).run (x.run s).2 = _
  rw [h]

theorem load_bind {α : Type} (h : s.live ev = true) (f : RilEvent → StateM State α) :
    (load ev >>= f).run s = (f (s.events ev)).run s := by
  show (f (s.events ev)).run (s.touch ev) = _
  rw [touch_of_live h]

def State.set (s : State) (ev : EventPtr) (f : RilEvent → RilEvent) : State :=
  { s with events := Function.update s.events ev (f (s.events ev)) }

theorem store_run (f : RilEvent → RilEvent) (h : s.live ev = true) : (store ev f).run s = ((), s.set ev f) := by
  show ((), { s.touch ev with events := Function.update s.events ev (f (s.events ev)) }) = ((), s.set ev f)
  rw [touch_of_live h]
  rfl

theorem store_bind {α : Type} (f : RilEvent → RilEvent) (h : s.live ev = true) (x : Unit → StateM State α) :
    (store ev f >>= x).run s = (x ()).run (s.set ev f) := by
  show (x ()).run ((store ev f).run s).2 = _
  rw [store_run f h]

@[simp] theorem live_set (ev : EventPtr) (f : RilEvent → RilEvent) : (s.set ev f).live = s.live := rfl

theorem live_ne_null (h : s.live ev = true) : ev ≠ .null := by
  rintro rfl
  cases h

/-- Only links are different. -/
structure Relinked (s s' : State) : Prop where
  rest : s' = { s with events := s'.events }
  timeout : ∀ ev, (s'.events ev).timeout = (s.events ev).timeout
  func : ∀ ev, (s'.events ev).func = (s.events ev).func
  param : ∀ ev, (s'.events ev).param = (s.events ev).param

theorem Relinked.refl (s : State) : Relinked s s := ⟨rfl, fun _ => rfl, fun _ => rfl, fun _ => rfl⟩

theorem Relinked.trans (h : Relinked s s') (h' : Relinked s' s'') : Relinked s s'' := by
  refine ⟨?_, ?_, ?_, ?_⟩
  · rw [h'.rest, h.rest]
  · intro ev
    rw [h'.timeout, h.timeout]
  · intro ev
    rw [h'.func, h.func]
  · intro ev
    rw [h'.param, h.param]

theorem Relinked.live (h : Relinked s s') : s'.live = s.live := by
  rw [h.rest]
  rfl

theorem relinked_set {f : RilEvent → RilEvent} (ht : ∀ e, (f e).timeout = e.timeout) (hf : ∀ e, (f e).func = e.func)
    (hp : ∀ e, (f e).param = e.param) : Relinked s (s.set ev f) := by
  refine ⟨rfl, ?_, ?_, ?_⟩
  · intro b
    by_cases h : b = ev <;> simp [State.set, h, ht]
  · intro b
    by_cases h : b = ev <;> simp [State.set, h, hf]
  · intro b
    by_cases h : b = ev <;> simp [State.set, h, hp]

theorem links_setNext (ev b : EventPtr) :
    (s.set ev fun e => { e with next := b }).links = { s.links with next := Function.update s.links.next ev b } := by
  ext c
  · by_cases h : c = ev <;> simp [State.links, State.set, h]
  · by_cases h : c = ev <;> simp [State.links, State.set, h]

theorem links_setPrev (ev b : EventPtr) :
    (s.set ev fun e => { e with prev := b }).links = { s.links with prev := Function.update s.links.prev ev b } := by
  ext c
  · by_cases h : c = ev <;> simp [State.links, State.set, h]
  · by_cases h : c = ev <;> simp [State.links, State.set, h]

/-- The links of the events outside a list of events are as before. -/
def SameOutside (l : List EventPtr) (h h' : Links EventPtr) : Prop :=
  ∀ c ∉ l, h'.next c = h.next c ∧ h'.prev c = h.prev c

/-! ## Removal -/

/-- **An event that is unlinked leaves its ring as it was around it.** -/
theorem removeFromList_run (hr : Ring s.links a (l ++ ev :: r)) (hlive : ∀ c ∈ a :: (l ++ ev :: r), s.live c = true) :
    ∃ s', (removeFromList ev).run s = ((), s') ∧ Relinked s s' ∧ Ring s'.links a (l ++ r) ∧
      SameOutside (a :: (l ++ ev :: r)) s.links s'.links := by
  have hrot := hr.rotate
  have hperm : (ev :: (r ++ a :: l)).Perm (a :: (l ++ ev :: r)) := @List.perm_append_comm _ (ev :: r) (a :: l)
  have hnext : (s.events ev).next ∈ a :: (l ++ ev :: r) := hperm.mem_iff.1 hrot.next_mem
  have hprev : (s.events ev).prev ∈ a :: (l ++ ev :: r) := hperm.mem_iff.1 hrot.prev_mem
  have hev : ev ∈ a :: (l ++ ev :: r) := by simp
  have hself : ev ≠ (s.events ev).next := by
    intro heq
    have hnil := hrot.next_eq_self_iff.1 heq.symm
    simp at hnil
  let s₁ := s.set (s.events ev).next fun n => { n with prev := (s.events ev).prev }
  have hsame : s₁.events ev = s.events ev := Function.update_of_ne hself _ _
  let s₂ := s₁.set (s.events ev).prev fun p => { p with next := (s.events ev).next }
  let s₃ := s₂.set ev fun e => { e with next := .null }
  let s₄ := s₃.set ev fun e => { e with prev := .null }
  have hlinks₂ : s₂.links = s.links.link (s.events ev).prev (s.events ev).next := by
    rw [links_setNext, links_setPrev]
    rfl
  have hother : ∀ c ≠ ev, s₄.links.next c = s₂.links.next c ∧ s₄.links.prev c = s₂.links.prev c := by
    intro c hc
    rw [links_setPrev, links_setNext]
    exact ⟨Function.update_of_ne hc _ _, Function.update_of_ne hc _ _⟩
  refine ⟨s₄, ?_, ?_, ?_, ?_⟩
  · rw [removeFromList, if_pos (live_ne_null (hlive ev hev)), load_bind (hlive ev hev), store_bind _ (hlive _ hnext)]
    have hlive₁ : ∀ c ∈ a :: (l ++ ev :: r), s₁.live c = true := hlive
    have hlive₂ : ∀ c ∈ a :: (l ++ ev :: r), s₂.live c = true := hlive
    have hlive₃ : ∀ c ∈ a :: (l ++ ev :: r), s₃.live c = true := hlive
    rw [load_bind (hlive₁ ev hev), hsame, store_bind _ (hlive₁ _ hprev), store_bind _ (hlive₂ ev hev)]
    exact store_run _ (hlive₃ ev hev)
  · refine ((relinked_set ?_ ?_ ?_).trans (relinked_set ?_ ?_ ?_)).trans
      ((relinked_set ?_ ?_ ?_).trans (relinked_set ?_ ?_ ?_)) <;> intro e <;> rfl
  · have hring := hr.unlinkAt
    have hnodup := hrot.nodup
    refine hring.congr ?_
    intro c hc
    have hne : c ≠ ev := by
      rintro rfl
      refine (List.nodup_cons.1 hnodup).1 ?_
      simp at hc ⊢
      tauto
    rw [(hother c hne).1, (hother c hne).2, hlinks₂]
    exact ⟨rfl, rfl⟩
  · intro c hc
    have hne : c ≠ ev := fun heq => hc (heq ▸ hev)
    rw [(hother c hne).1, (hother c hne).2, hlinks₂]
    exact ⟨Function.update_of_ne (ne_of_mem_of_not_mem hprev hc).symm _ _,
      Function.update_of_ne (ne_of_mem_of_not_mem hnext hc).symm _ _⟩

/-! ## Insertion -/

/-- **An event that is in no ring is linked in before the event that `list` points to.** -/
theorem addToList_run {list : EventPtr} (hr : Ring s.links a (l ++ r)) (hlist : list = (r ++ [a]).head (by simp))
    (hlive : ∀ c ∈ a :: (l ++ r), s.live c = true) (hev : s.live ev = true) (hnew : ev ∉ a :: (l ++ r)) :
    ∃ s', (addToList ev list).run s = ((), s') ∧ Relinked s s' ∧ Ring s'.links a (l ++ ev :: r) ∧
      SameOutside (ev :: a :: (l ++ r)) s.links s'.links := by
  have hmem : list ∈ a :: (l ++ r) := by
    rw [hlist]
    cases r with
    | nil => exact List.mem_cons_self
    | cons b r => simp
  have hprev : (s.events list).prev ∈ a :: (l ++ r) := by
    rcases List.mem_cons.1 hmem with rfl | hin
    · exact hr.prev_mem
    · obtain ⟨l', r', heq⟩ := List.append_of_mem hin
      have hperm : (list :: (r' ++ a :: l')).Perm (a :: (l' ++ list :: r')) := @List.perm_append_comm _ (list :: r') (a :: l')
      rw [heq] at hr ⊢
      exact hperm.mem_iff.1 hr.rotate.prev_mem
  have hne : list ≠ ev := ne_of_mem_of_not_mem hmem hnew
  have hnep : (s.events list).prev ≠ ev := ne_of_mem_of_not_mem hprev hnew
  let s₁ := s.set ev fun e => { e with next := list }
  have hsame : s₁.events list = s.events list := Function.update_of_ne hne _ _
  let s₂ := s₁.set ev fun e => { e with prev := (s.events list).prev }
  have hself : (s₂.events ev).prev = (s.events list).prev := by simp [s₂, State.set]
  let s₃ := s₂.set (s.events list).prev fun p => { p with next := ev }
  let s₄ := s₃.set list fun l => { l with prev := ev }
  have hother : ∀ c ≠ ev, s₂.links.next c = s.links.next c ∧ s₂.links.prev c = s.links.prev c := by
    intro c hc
    rw [links_setPrev, links_setNext]
    exact ⟨Function.update_of_ne hc _ _, Function.update_of_ne hc _ _⟩
  have hlinks : s₄.links = { next := Function.update s₂.links.next (s.links.prev list) ev,
                             prev := Function.update s₂.links.prev list ev } := by
    rw [links_setPrev, links_setNext]
    rfl
  refine ⟨s₄, ?_, ?_, ?_, ?_⟩
  · have hlive₁ : ∀ c ∈ a :: (l ++ r), s₁.live c = true := hlive
    have hlive₃ : ∀ c ∈ a :: (l ++ r), s₃.live c = true := hlive
    have hlive₂ : ∀ c ∈ a :: (l ++ r), s₂.live c = true := hlive
    have hev₁ : s₁.live ev = true := hev
    have hev₂ : s₂.live ev = true := hev
    rw [addToList, if_pos ⟨live_ne_null hev, live_ne_null (hlive list hmem)⟩, store_bind _ hev,
      load_bind (hlive₁ list hmem), hsame, store_bind _ hev₁, load_bind hev₂, hself, store_bind _ (hlive₂ _ hprev)]
    exact store_run _ (hlive₃ list hmem)
  · refine ((relinked_set ?_ ?_ ?_).trans (relinked_set ?_ ?_ ?_)).trans
      ((relinked_set ?_ ?_ ?_).trans (relinked_set ?_ ?_ ?_)) <;> intro e <;> rfl
  · rw [hlinks]
    refine hr.insertBefore hnew hlist hother ?_ ?_
    · simp [s₂, s₁, State.links, State.set]
    · exact hself
  · intro c hc
    obtain ⟨hcev, hc⟩ := not_or.1 (List.mem_cons.not.1 hc)
    rw [hlinks]
    refine ⟨?_, ?_⟩
    · exact (Function.update_of_ne (ne_of_mem_of_not_mem hprev hc).symm _ _).trans (hother c hcev).1
    · exact (Function.update_of_ne (ne_of_mem_of_not_mem hmem hc).symm _ _).trans (hother c hcev).2

/-! ## Both rings -/

/-- The members of the events that the links are not are set. -/
structure Entries (s : State) : Prop where
  param : ∀ p < s.fresh, (s.events (.event p)).param = some p
  func : ∀ p < s.fresh, (s.events (.event p)).func = some .userTimerCallback
  wakeup : (s.events .s_wakeupEvent).func = some .processWakeupCallback

/-- The timer list holds these entries and the pending list these events, each event at most once. -/
structure Holds (s : State) (timer : List Nat) (pending : List EventPtr) : Prop where
  timerRing : Ring s.links .s_timerList (timer.map .event)
  pendingRing : Ring s.links .s_pendingList pending
  timer_live : ∀ p ∈ timer, s.live (.event p) = true
  pending_live : ∀ ev ∈ pending, s.live ev = true
  apart : ∀ ev ∈ pending, ev ∉ EventPtr.s_timerList :: timer.map .event
  entries : Entries s

variable {timer : List Nat} {pending : List EventPtr} {p : Nat}

theorem live_event : s.live (.event p) = true ↔ p < s.fresh ∧ s.freed p = false := by
  simp [State.live]

theorem Entries.relinked (h : Entries s) (hs : Relinked s s') : Entries s' := by
  have hfresh : s'.fresh = s.fresh := by rw [hs.rest]
  refine ⟨fun p hp => ?_, fun p hp => ?_, ?_⟩
  · exact (hs.param _).trans (h.param p (hfresh ▸ hp))
  · exact (hs.func _).trans (h.func p (hfresh ▸ hp))
  · exact (hs.func _).trans h.wakeup

/-- The lists are in the events and in what is allocated. -/
theorem Holds.congr (h : Holds s timer pending) (hevents : s'.events = s.events) (hfresh : s'.fresh = s.fresh)
    (hfreed : s'.freed = s.freed) : Holds s' timer pending := by
  have hlinks : s'.links = s.links := by simp only [State.links, hevents]
  have hlive : ∀ ev, s'.live ev = s.live ev := by
    intro ev
    cases ev <;> simp [State.live, hfresh, hfreed]
  refine ⟨hlinks ▸ h.timerRing, hlinks ▸ h.pendingRing, ?_, ?_, h.apart, ?_, ?_, ?_⟩
  · intro p hp
    rw [hlive]
    exact h.timer_live p hp
  · intro ev hev
    rw [hlive]
    exact h.pending_live ev hev
  · rw [hevents, hfresh]
    exact h.entries.param
  · rw [hevents, hfresh]
    exact h.entries.func
  · rw [hevents]
    exact h.entries.wakeup

theorem Holds.separate (h : Holds s timer pending) :
    ∀ ev ∈ EventPtr.s_pendingList :: pending, ev ∉ EventPtr.s_timerList :: timer.map .event := by
  intro ev hev
  rcases List.mem_cons.1 hev with rfl | hev
  · simp
  · exact h.apart ev hev

theorem Holds.timer_nodup (h : Holds s timer pending) : timer.Nodup :=
  (List.nodup_cons.1 h.timerRing.nodup).2.of_map

theorem Holds.timerRing_live (h : Holds s timer pending) :
    ∀ ev ∈ EventPtr.s_timerList :: timer.map .event, s.live ev = true := by
  intro ev hev
  rcases List.mem_cons.1 hev with rfl | hev
  · rfl
  · obtain ⟨p, hp, rfl⟩ := List.mem_map.1 hev
    exact h.timer_live p hp

theorem Holds.pendingRing_live (h : Holds s timer pending) :
    ∀ ev ∈ EventPtr.s_pendingList :: pending, s.live ev = true := by
  intro ev hev
  rcases List.mem_cons.1 hev with rfl | hev
  · rfl
  · exact h.pending_live ev hev

/-- The bound of the walks is large enough. -/
theorem Holds.length_timer (h : Holds s timer pending) : timer.length < s.fresh + 1 :=
  Nat.lt_succ_of_le (length_le_of_lt h.timer_nodup fun p hp => (live_event.1 (h.timer_live p hp)).1)

/-- An entry is taken out of the timer list. -/
theorem Holds.unlinkTimer {l r : List Nat} (h : Holds s (l ++ p :: r) pending) :
    ∃ s', (removeFromList (.event p)).run s = ((), s') ∧ Relinked s s' ∧ Holds s' (l ++ r) pending := by
  have hring := h.timerRing
  have hlive := h.timerRing_live
  have hsep := h.separate
  rw [List.map_append, List.map_cons] at hring hlive hsep
  obtain ⟨s', hrun, hrel, hring', hsame⟩ := removeFromList_run hring hlive
  refine ⟨s', hrun, hrel, ?_, ?_, ?_, ?_, ?_, h.entries.relinked hrel⟩
  · rw [List.map_append]
    exact hring'
  · exact h.pendingRing.congr fun c hc => hsame c (hsep c hc)
  · intro q hq
    rw [hrel.live]
    refine h.timer_live q ?_
    simp at hq ⊢
    tauto
  · intro ev hev
    rw [hrel.live]
    exact h.pending_live ev hev
  · intro ev hev hmem
    refine h.apart ev hev ?_
    simp only [List.map_append, List.map_cons, List.mem_cons, List.mem_append] at hmem ⊢
    tauto

/-- The first event is taken out of the pending list. -/
theorem Holds.unlinkPending (h : Holds s timer (ev :: pending)) :
    ∃ s', (removeFromList ev).run s = ((), s') ∧ Relinked s s' ∧ Holds s' timer pending := by
  obtain ⟨s', hrun, hrel, hring', hsame⟩ := removeFromList_run (l := []) h.pendingRing h.pendingRing_live
  refine ⟨s', hrun, hrel, ?_, hring', ?_, ?_, ?_, h.entries.relinked hrel⟩
  · exact h.timerRing.congr fun c hc => hsame c fun hmem => h.separate c hmem hc
  · intro q hq
    rw [hrel.live]
    exact h.timer_live q hq
  · intro e he
    rw [hrel.live]
    exact h.pending_live e (List.mem_cons_of_mem ev he)
  · exact fun e he => h.apart e (List.mem_cons_of_mem ev he)

/-- An event of neither list is put at the end of the pending list. -/
theorem Holds.linkPending (h : Holds s timer pending) (hlive : s.live ev = true)
    (htimer : ev ∉ EventPtr.s_timerList :: timer.map .event) (hpending : ev ∉ EventPtr.s_pendingList :: pending) :
    ∃ s', (addToList ev .s_pendingList).run s = ((), s') ∧ Relinked s s' ∧ Holds s' timer (pending ++ [ev]) := by
  have hring : Ring s.links .s_pendingList (pending ++ []) := (List.append_nil pending).symm ▸ h.pendingRing
  have hall := h.pendingRing_live
  rw [← List.append_nil pending] at hall hpending
  obtain ⟨s', hrun, hrel, hring', hsame⟩ := addToList_run hring rfl hall hlive hpending
  refine ⟨s', hrun, hrel, ?_, hring', ?_, ?_, ?_, h.entries.relinked hrel⟩
  · refine h.timerRing.congr fun c hc => hsame c ?_
    rw [List.append_nil]
    exact fun hmem => (List.mem_cons.1 hmem).elim (fun heq => htimer (heq ▸ hc)) fun hin => h.separate c hin hc
  · intro q hq
    rw [hrel.live]
    exact h.timer_live q hq
  · intro e he
    rw [hrel.live]
    rcases List.mem_append.1 he with he | he
    · exact h.pending_live e he
    · exact List.mem_singleton.1 he ▸ hlive
  · intro e he
    rcases List.mem_append.1 he with he | he
    · exact h.apart e he
    · exact List.mem_singleton.1 he ▸ htimer

/-- An entry of neither list is put into the timer list, before the event that `list` points to. -/
theorem Holds.linkTimer {l r : List Nat} {list : EventPtr} (h : Holds s (l ++ r) pending)
    (hlist : list = (r.map EventPtr.event ++ [EventPtr.s_timerList]).head (by simp)) (hlive : s.live (.event p) = true)
    (htimer : p ∉ l ++ r) (hpending : .event p ∉ pending) :
    ∃ s', (addToList (.event p) list).run s = ((), s') ∧ Relinked s s' ∧ Holds s' (l ++ p :: r) pending := by
  have hring := h.timerRing
  have hall := h.timerRing_live
  have hsep := h.separate
  rw [List.map_append] at hring hall hsep
  have hnew : EventPtr.event p ∉ EventPtr.s_timerList :: (l.map .event ++ r.map .event) := by
    simp at htimer ⊢
    exact htimer
  obtain ⟨s', hrun, hrel, hring', hsame⟩ := addToList_run hring hlist hall hlive hnew
  refine ⟨s', hrun, hrel, ?_, ?_, ?_, ?_, ?_, h.entries.relinked hrel⟩
  · rw [List.map_append, List.map_cons]
    exact hring'
  · refine h.pendingRing.congr fun c hc => hsame c ?_
    refine fun hmem => (List.mem_cons.1 hmem).elim (fun heq => ?_) (hsep c hc)
    rcases List.mem_cons.1 hc with hc | hc
    · exact absurd (heq.symm.trans hc) (by simp)
    · exact hpending (heq ▸ hc)
  · intro q hq
    rw [hrel.live]
    rcases List.mem_append.1 hq with hq | hq
    · exact h.timer_live q (List.mem_append_left _ hq)
    · rcases List.mem_cons.1 hq with rfl | hq
      · exact hlive
      · exact h.timer_live q (List.mem_append_right _ hq)
  · intro e he
    rw [hrel.live]
    exact h.pending_live e he
  · intro e he hmem
    have hne : e ≠ .event p := ne_of_mem_of_not_mem he hpending
    refine h.apart e he ?_
    simp only [List.map_append, List.map_cons, List.mem_cons, List.mem_append] at hmem ⊢
    tauto

end UniRil.AsyncCmd
