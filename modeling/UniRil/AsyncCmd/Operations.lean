import UniRil.AsyncCmd.Lists

/-!
# What the operations do to the lists

One statement for each function of ril_async_cmd_handler.c, over lists that hold their events.
-/

namespace UniRil.AsyncCmd

open Rings

variable {s s' : State} {ev : EventPtr} {timer l r : List Nat} {pending : List EventPtr} {p fuel : Nat}

/-- Where the walk of the timer list is when these entries are still to come. -/
def walkAt (r : List Nat) : EventPtr := (r.map EventPtr.event ++ [EventPtr.s_timerList]).head (by simp)

@[simp] theorem walkAt_nil : walkAt [] = .s_timerList := rfl

@[simp] theorem walkAt_cons : walkAt (p :: r) = .event p := rfl

theorem Holds.timer_next (h : Holds s timer pending) : (s.events .s_timerList).next = walkAt timer := h.timerRing.path.next_eq

theorem Holds.next_walkAt (h : Holds s (l ++ p :: r) pending) : (s.events (.event p)).next = walkAt r := by
  have hring := h.timerRing
  rw [List.map_append, List.map_cons] at hring
  exact (Path.append.1 hring.path).2.next_eq

theorem Holds.live_middle (h : Holds s (l ++ p :: r) pending) : s.live (.event p) = true := h.timer_live p (by simp)

theorem Holds.param_middle (h : Holds s (l ++ p :: r) pending) : (s.events (.event p)).param = some p :=
  h.entries.param p (live_event.1 h.live_middle).1

theorem Holds.append_cons (h : Holds s (l ++ p :: r) pending) : Holds s ((l ++ [p]) ++ r) pending := by
  rwa [List.append_assoc]

theorem erase_middle (h : (l ++ p :: r).Nodup) : (l ++ p :: r).erase p = l ++ r := by
  have hl : p ∉ l := fun hmem => List.disjoint_of_nodup_append h hmem List.mem_cons_self
  rw [List.erase_append_right _ hl, List.erase_cons_head]

theorem loadInfo_bind {α : Type} (h : s.live (.event p) = true) (f : UserCallbackInfo → StateM State α) :
    (loadInfo (some p) >>= f).run s = (f (s.infos p)).run s := by
  show (f (s.infos p)).run (s.touch (.event p)) = _
  rw [touch_of_live h]

/-- `s` after an entry was freed. -/
def State.ended (s : State) (p : Nat) (ending : Ending) : State :=
  { s with
    freed := Function.update s.freed p true
    log := s.log ++ [{ p_info := p, token := (s.infos p).token, ending := ending }] }

theorem free_run (h : s.live (.event p) = true) (ending : Ending) :
    (free (some p) (s.infos p).token ending).run s = ((), s.ended p ending) := by
  unfold free
  simp only [StateT.run, touch_of_live h]
  rfl

theorem live_ended_of_ne {ending : Ending} (h : ev ≠ .event p) : (s.ended p ending).live ev = s.live ev := by
  cases ev with
  | event q =>
    have hfreed : (s.ended p ending).freed q = s.freed q := Function.update_of_ne (fun heq => h (congrArg EventPtr.event heq)) _ _
    simp only [State.live, hfreed]
    rfl
  | null => rfl
  | s_timerList => rfl
  | s_pendingList => rfl
  | s_wakeupEvent => rfl

/-- An entry of neither list may be freed. -/
theorem Holds.ended (h : Holds s timer pending) (htimer : p ∉ timer) (hpending : .event p ∉ pending) (ending : Ending) :
    Holds (s.ended p ending) timer pending := by
  refine ⟨h.timerRing, h.pendingRing, fun q hq => ?_, fun e he => ?_, h.apart, h.entries.param, h.entries.func, h.entries.wakeup⟩
  · have hne : q ≠ p := ne_of_mem_of_not_mem hq htimer
    rw [live_ended_of_ne fun heq => hne (EventPtr.event.inj heq)]
    exact h.timer_live q hq
  · rw [live_ended_of_ne (ne_of_mem_of_not_mem he hpending)]
    exact h.pending_live e he

/-! ## addAsyncCmdList -/

theorem findLater_run (timeout : Nat) (h : Holds s (l ++ r) pending) (hfuel : r.length < fuel) :
    ∃ r₁ r₂, r = r₁ ++ r₂ ∧ (findLater timeout fuel (walkAt r)).run s = (walkAt r₂, s) := by
  induction r generalizing l fuel with
  | nil =>
    obtain ⟨fuel, rfl⟩ : ∃ n, fuel = n + 1 := ⟨fuel - 1, by omega⟩
    refine ⟨[], [], rfl, ?_⟩
    rw [walkAt_nil, findLater, load_bind rfl, if_neg fun hand => hand.2 rfl]
    rfl
  | cons p r ih =>
    obtain ⟨fuel, rfl⟩ : ∃ n, fuel = n + 1 := ⟨fuel - 1, by omega⟩
    rw [walkAt_cons, findLater, load_bind h.live_middle, h.next_walkAt]
    by_cases hearlier : (s.events (.event p)).timeout < timeout
    · obtain ⟨r₁, r₂, rfl, hrun⟩ := ih h.append_cons (by simpa using hfuel)
      refine ⟨p :: r₁, r₂, rfl, ?_⟩
      rw [if_pos ⟨hearlier, by simp⟩]
      exact hrun
    · refine ⟨[], p :: r, rfl, ?_⟩
      rw [if_neg fun hand => hearlier hand.1]
      rfl

/-- Members that are not links do not matter to the lists. -/
theorem Holds.set {f : RilEvent → RilEvent} (h : Holds s timer pending) (hnext : ∀ e, (f e).next = e.next)
    (hprev : ∀ e, (f e).prev = e.prev) (hfunc : ∀ e, (f e).func = e.func) (hparam : ∀ e, (f e).param = e.param) :
    Holds (s.set ev f) timer pending := by
  have hevents : ∀ {α : Type} (g : RilEvent → α), (∀ e, g (f e) = g e) → ∀ c, g ((s.set ev f).events c) = g (s.events c) := by
    intro α g hg c
    by_cases hc : c = ev
    · subst hc
      simp [State.set, hg]
    · simp [State.set, hc]
  have hlinks : (s.set ev f).links = s.links := by
    ext c
    · exact hevents RilEvent.next hnext c
    · exact hevents RilEvent.prev hprev c
  refine ⟨hlinks ▸ h.timerRing, hlinks ▸ h.pendingRing, h.timer_live, h.pending_live, h.apart, ?_, ?_, ?_⟩
  · exact fun p hp => (hevents RilEvent.param hparam _).trans (h.entries.param p hp)
  · exact fun p hp => (hevents RilEvent.func hfunc _).trans (h.entries.func p hp)
  · exact (hevents RilEvent.func hfunc _).trans h.entries.wakeup

theorem live_newEntry {p_info : UserCallbackInfo} (h : s.live ev = true) : ((newEntry p_info).run s).2.live ev = true := by
  cases ev with
  | event p =>
    obtain ⟨hlt, hfreed⟩ := live_event.1 h
    exact live_event.2 ⟨Nat.lt_succ_of_lt hlt, hfreed⟩
  | null => cases h
  | s_timerList => rfl
  | s_pendingList => rfl
  | s_wakeupEvent => rfl

/-- A new entry is in neither list. -/
theorem Holds.afterNew (h : Holds s timer pending) (p_info : UserCallbackInfo) :
    Holds ((newEntry p_info).run s).2 timer pending := by
  have hfresh : s.live (.event s.fresh) = false := by simp [State.live]
  have hsame : ∀ c, s.live c = true → ((newEntry p_info).run s).2.events c = s.events c := by
    intro c hc
    refine Function.update_of_ne ?_ _ _
    rintro rfl
    rw [hfresh] at hc
    cases hc
  have hself : ((newEntry p_info).run s).2.events (.event s.fresh) =
      { next := .null, prev := .null, fd := -1, timeout := 0, func := some .userTimerCallback, param := some s.fresh } :=
    Function.update_self ..
  refine ⟨?_, ?_, fun q hq => live_newEntry (h.timer_live q hq), fun e he => live_newEntry (h.pending_live e he), h.apart,
    fun q hq => ?_, fun q hq => ?_, ?_⟩
  · refine h.timerRing.congr fun c hc => ?_
    simp only [State.links, hsame c (h.timerRing_live c hc), and_self]
  · refine h.pendingRing.congr fun c hc => ?_
    simp only [State.links, hsame c (h.pendingRing_live c hc), and_self]
  · rcases Nat.lt_succ_iff_lt_or_eq.1 hq with hlt | rfl
    · refine (congrArg RilEvent.param (Function.update_of_ne ?_ _ _)).trans (h.entries.param q hlt)
      exact fun heq => Nat.ne_of_lt hlt (EventPtr.event.inj heq)
    · rw [hself]
  · rcases Nat.lt_succ_iff_lt_or_eq.1 hq with hlt | rfl
    · refine (congrArg RilEvent.func (Function.update_of_ne ?_ _ _)).trans (h.entries.func q hlt)
      exact fun heq => Nat.ne_of_lt hlt (EventPtr.event.inj heq)
    · rw [hself]
  · exact (congrArg RilEvent.func (hsame _ rfl)).trans h.entries.wakeup

theorem addRilEvent_run (h : Holds s timer pending) (hlive : s.live (.event p) = true) (htimer : p ∉ timer)
    (hpending : .event p ∉ pending) (tv : Nat) :
    ∃ s' l r, (addRilEvent (.event p) tv).run s = ((), s') ∧ timer = l ++ r ∧ Holds s' (l ++ p :: r) pending ∧
      s' = { s with events := s'.events } := by
  let s₁ := s.set (.event p) fun e => { e with fd := -1 }
  let s₂ := s₁.set (.event p) fun e => { e with timeout := s.now + tv }
  have h₂ : Holds s₂ timer pending := by
    refine Holds.set (h.set ?_ ?_ ?_ ?_) ?_ ?_ ?_ ?_ <;> intro e <;> rfl
  obtain ⟨l, r, heq, hfind⟩ := findLater_run (s.now + tv) (l := []) h₂ h₂.length_timer
  rw [heq] at h₂
  have hlive₂ : s₂.live (.event p) = true := hlive
  obtain ⟨s', hrun, hrel, hholds⟩ := h₂.linkTimer rfl hlive₂ (heq ▸ htimer) hpending
  refine ⟨s', l, r, ?_, heq, hholds, ?_⟩
  · have hlive₁ : s₁.live (.event p) = true := hlive
    rw [addRilEvent, load_bind rfl, h.timer_next, store_bind _ hlive, get_bind, store_bind _ hlive₁]
    exact (bind_run hfind).trans hrun
  · rw [hrel.rest]
    rfl

/-- **A new entry is put into the timer list.** -/
theorem addAsyncCmdList_run (h : Holds s timer pending) (hfreed : s.freed s.fresh = false) (socket_id : RIL_SOCKET_ID)
    (t : RIL_Token) (cmd : ConstChar) (data : Nat) (timeout : Int) :
    ∃ s' l r, (addAsyncCmdList socket_id t cmd data timeout).run s = ((), s') ∧ timer = l ++ r ∧
      Holds s' (l ++ s.fresh :: r) pending ∧ s'.fresh = s.fresh + 1 ∧ s'.freed = s.freed ∧ s'.fault = s.fault ∧
      s'.handler = s.handler ∧ s'.log = s.log ∧
      s'.infos = Function.update s.infos s.fresh { token := t, socket_id := socket_id, data := data, cmd := cmd } := by
  have hdead : s.live (.event s.fresh) = false := by simp [State.live]
  have htimer : s.fresh ∉ timer := by
    intro hmem
    have hlive := h.timer_live _ hmem
    rw [hdead] at hlive
    cases hlive
  have hpending : .event s.fresh ∉ pending := by
    intro hmem
    have hlive := h.pending_live _ hmem
    rw [hdead] at hlive
    cases hlive
  have hnew := h.afterNew { token := t, socket_id := socket_id, data := data, cmd := cmd }
  have hlive : ((newEntry { token := t, socket_id := socket_id, data := data, cmd := cmd }).run s).2.live
      (.event s.fresh) = true := live_event.2 ⟨Nat.lt_succ_self _, hfreed⟩
  obtain ⟨s', l, r, hrun, heq, hholds, hrest⟩ :=
    addRilEvent_run hnew hlive htimer hpending (if timeout ≤ 0 then 0 else timeout.toNat * 1000000)
  refine ⟨{ s' with pipe := s'.pipe + 1 }, l, r, ?_, heq, ?_, ?_⟩
  · exact (bind_run rfl).trans ((bind_run hrun).trans rfl)
  · exact hholds.congr rfl rfl rfl
  · rw [hrest]
    exact ⟨rfl, rfl, rfl, rfl, rfl, rfl⟩

/-! ## removeAsyncCmdList -/

/-- The entry that removeAsyncCmdList looks for. -/
def UserCallbackInfo.isOf (p_info : UserCallbackInfo) (t : RIL_Token) (cmd : ConstChar) : Prop :=
  p_info.token = t ∧ p_info.cmd.addr = cmd.addr

/-- An entry of the timer list was unlinked, and freed after that. -/
def EndsFrom (s : State) (timer : List Nat) (pending : List EventPtr) (p : Nat) (s' : State) : Prop :=
  Holds s' (timer.erase p) pending ∧
    s' = { s.ended p .removeAsyncCmdList with events := s'.events }

theorem removeLoop_run (t : RIL_Token) (cmd : ConstChar) (h : Holds s (l ++ r) pending) (hfuel : r.length < fuel) :
    ∃ s', (removeLoop t cmd fuel (walkAt r)).run s = ((), s') ∧
      ((s' = s ∧ ∀ p ∈ r, ¬ (s.infos p).isOf t cmd) ∨
        ∃ p ∈ r, (s.infos p).isOf t cmd ∧ EndsFrom s (l ++ r) pending p s') := by
  induction r generalizing l fuel with
  | nil =>
    obtain ⟨fuel, rfl⟩ : ∃ n, fuel = n + 1 := ⟨fuel - 1, by omega⟩
    refine ⟨s, ?_, Or.inl ⟨rfl, by simp⟩⟩
    rw [walkAt_nil, removeLoop, if_neg (by simp)]
    rfl
  | cons p r ih =>
    obtain ⟨fuel, rfl⟩ : ∃ n, fuel = n + 1 := ⟨fuel - 1, by omega⟩
    have hlive := h.live_middle
    have hstart : (removeLoop t cmd (fuel + 1) (walkAt (p :: r))).run s =
        (if (s.infos p).token = t ∧ (s.infos p).cmd.addr = cmd.addr then do
          removeFromList (.event p)
          free (some p) (s.infos p).token .removeAsyncCmdList
        else removeLoop t cmd fuel (walkAt r)).run s := by
      rw [walkAt_cons, removeLoop, if_pos (by simp), load_bind hlive, h.param_middle, loadInfo_bind hlive, h.next_walkAt]
    rw [hstart]
    by_cases his : (s.infos p).token = t ∧ (s.infos p).cmd.addr = cmd.addr
    · obtain ⟨s₁, hrun, hrel, hholds⟩ := h.unlinkTimer
      have hinfos : s₁.infos = s.infos := by rw [hrel.rest]
      have hlive₁ : s₁.live (.event p) = true := hrel.live ▸ hlive
      have hnodup := h.timer_nodup
      have htimer : p ∉ l ++ r := by
        have hmiddle := (List.nodup_middle.1 hnodup)
        exact (List.nodup_cons.1 hmiddle).1
      refine ⟨s₁.ended p .removeAsyncCmdList, ?_, Or.inr ⟨p, List.mem_cons_self, his, ?_, ?_⟩⟩
      · rw [if_pos his, bind_run hrun, ← hinfos]
        exact free_run hlive₁ _
      · rw [erase_middle hnodup]
        exact hholds.ended htimer (fun hmem => h.apart _ hmem (by simp)) _
      · rw [hrel.rest]
        rfl
    · obtain ⟨s', hrun, hcases⟩ := ih h.append_cons (by simpa using hfuel)
      refine ⟨s', ?_, ?_⟩
      · rw [if_neg his]
        exact hrun
      · rw [List.append_assoc, List.singleton_append] at hcases
        refine hcases.imp (fun hnone => ⟨hnone.1, ?_⟩) fun ⟨q, hq, hof, hends⟩ => ⟨q, List.mem_cons_of_mem p hq, hof, hends⟩
        intro q hq
        rcases List.mem_cons.1 hq with rfl | hq
        · exact his
        · exact hnone.2 q hq

/-- **Either nothing is removed or an entry of the request is.** -/
theorem removeAsyncCmdList_run (t : RIL_Token) (cmd : ConstChar) (h : Holds s timer pending) :
    ∃ s', (removeAsyncCmdList t cmd).run s = ((), s') ∧
      ((s' = s ∧ ∀ p ∈ timer, ¬ (s.infos p).isOf t cmd) ∨
        ∃ p ∈ timer, (s.infos p).isOf t cmd ∧ EndsFrom s timer pending p s') := by
  have hloop := removeLoop_run (l := []) t cmd h h.length_timer
  rw [removeAsyncCmdList, load_bind rfl, get_bind, h.timer_next]
  exact hloop

/-! ## checkAndCompleteRequest -/

theorem touch_fault (h : s.fault = true ∨ s.live ev = false) : (s.touch ev).fault = true := by
  unfold State.touch
  split
  · rename_i hlive
    exact h.resolve_right fun hdead => by simp [hlive] at hdead
  · rfl

/-- An entry that was freed is not unlinked without a fault. -/
theorem removeFromList_dead (h : s.live (.event p) = false) :
    ((removeFromList (.event p)).run s).2.fault = true := by
  have hload : ∀ {s : State} (ev), s.fault = true → (s.touch ev).fault = true := fun ev hs => touch_fault (Or.inl hs)
  rw [removeFromList, if_pos (by simp)]
  exact hload _ (hload _ (hload _ (hload _ (hload _ (touch_fault (Or.inr h))))))

theorem onRequestComplete_run (hlive : s.live (.event p) = true) (hparam : (s.events (.event p)).param = some p)
    (resp : Nat) : ∃ ending, (onRequestComplete (.event p) resp).run s = ((), s.ended p ending) := by
  refine ⟨.onRequestComplete ((s_asyncCmdTable.find? fun c =>
    strncaseeq c.1 (s.infos p).cmd.chars c.1.length).map (·.2)) (s.infos p).data resp, ?_⟩
  rw [onRequestComplete, load_bind hlive, hparam, loadInfo_bind hlive]
  exact free_run hlive _

/-- **The walk changes nothing until it finds an entry, and that one is unlinked after it was freed.** -/
theorem checkLoop_run (socket_id : RIL_SOCKET_ID) (cmd : List Byte) (resp : Nat) (h : Holds s (l ++ r) pending)
    (hfuel : r.length < fuel) :
    ∃ s', (checkLoop socket_id cmd resp fuel (walkAt r)).run s = ((), s') ∧
      (if ∃ p ∈ r, (s.infos p).awaits socket_id cmd then s'.fault = true else s' = s) := by
  induction r generalizing l fuel with
  | nil =>
    obtain ⟨fuel, rfl⟩ : ∃ n, fuel = n + 1 := ⟨fuel - 1, by omega⟩
    refine ⟨s, ?_, ?_⟩
    · rw [walkAt_nil, checkLoop, if_neg (by simp)]
      rfl
    · rw [if_neg (by simp)]
  | cons p r ih =>
    obtain ⟨fuel, rfl⟩ : ∃ n, fuel = n + 1 := ⟨fuel - 1, by omega⟩
    have hlive := h.live_middle
    rw [walkAt_cons, checkLoop, if_pos (by simp), load_bind hlive, h.param_middle, loadInfo_bind hlive, h.next_walkAt]
    by_cases hp : (s.infos p).awaits socket_id cmd
    · obtain ⟨ending, hcomplete⟩ := onRequestComplete_run hlive h.param_middle resp
      refine ⟨((removeFromList (.event p)).run (s.ended p ending)).2, ?_, ?_⟩
      · rw [if_pos hp]
        exact bind_run hcomplete
      · rw [if_pos ⟨p, List.mem_cons_self, hp⟩]
        exact removeFromList_dead (by simp [State.live, State.ended])
    · obtain ⟨s', hrun, hcases⟩ := ih h.append_cons (by simpa using hfuel)
      refine ⟨s', ?_, ?_⟩
      · rw [if_neg hp]
        exact hrun
      · simpa [hp] using hcases

theorem checkAndCompleteRequest_run (socket_id : RIL_SOCKET_ID) (cmd : List Byte) (resp : Nat)
    (h : Holds s timer pending) :
    ∃ s', (checkAndCompleteRequest socket_id cmd resp).run s = ((), s') ∧
      (if ∃ p ∈ timer, (s.infos p).awaits socket_id cmd then s'.fault = true else s' = s) := by
  have hloop := checkLoop_run (l := []) socket_id cmd resp h h.length_timer
  rw [checkAndCompleteRequest, load_bind rfl, get_bind, h.timer_next]
  exact hloop

/-! ## The handler thread -/

/-- Entries are moved from the head of the timer list to the end of the pending list. -/
theorem timeoutsLoop_run (now : Nat) (h : Holds s timer pending) (hfuel : timer.length < fuel) :
    ∃ s' l r, (timeoutsLoop now fuel (walkAt timer)).run s = ((), s') ∧ timer = l ++ r ∧ Relinked s s' ∧
      Holds s' r (pending ++ l.map .event) := by
  induction timer generalizing s pending fuel with
  | nil =>
    obtain ⟨fuel, rfl⟩ : ∃ n, fuel = n + 1 := ⟨fuel - 1, by omega⟩
    refine ⟨s, [], [], ?_, rfl, Relinked.refl s, ?_⟩
    · rw [walkAt_nil, timeoutsLoop, if_neg (by simp)]
      rfl
    · rwa [List.map_nil, List.append_nil]
  | cons p r ih =>
    obtain ⟨fuel, rfl⟩ : ∃ n, fuel = n + 1 := ⟨fuel - 1, by omega⟩
    have hmiddle : Holds s ([] ++ p :: r) pending := h
    have hlive := hmiddle.live_middle
    rw [walkAt_cons, timeoutsLoop, if_pos (by simp), load_bind hlive, hmiddle.next_walkAt]
    by_cases hexpired : now > (s.events (.event p)).timeout
    · have hnodup := h.timer_nodup
      obtain ⟨s₁, hrun₁, hrel₁, h₁⟩ := hmiddle.unlinkTimer
      have hlive₁ : s₁.live (.event p) = true := hrel₁.live ▸ hlive
      have htimer : .event p ∉ EventPtr.s_timerList :: ([] ++ r).map .event := by
        simpa using (List.nodup_cons.1 hnodup).1
      have hpending : .event p ∉ EventPtr.s_pendingList :: pending := by
        refine fun hmem => (List.mem_cons.1 hmem).elim (by simp) fun hin => h.apart _ hin (by simp)
      obtain ⟨s₂, hrun₂, hrel₂, h₂⟩ := h₁.linkPending hlive₁ htimer hpending
      obtain ⟨s', l, r', hrun, rfl, hrel, hholds⟩ := ih h₂ (by simpa using hfuel)
      refine ⟨s', p :: l, r', ?_, rfl, (hrel₁.trans hrel₂).trans hrel, ?_⟩
      · rw [if_pos hexpired, bind_run hrun₁, bind_run hrun₂]
        exact hrun
      · rw [List.append_assoc] at hholds
        exact hholds
    · refine ⟨s, [], p :: r, ?_, rfl, Relinked.refl s, ?_⟩
      · rw [if_neg hexpired]
        rfl
      · rwa [List.map_nil, List.append_nil]

theorem processTimeouts_run (h : Holds s timer pending) :
    ∃ s' l r, processTimeouts.run s = ((), s') ∧ timer = l ++ r ∧ Relinked s s' ∧ Holds s' r (pending ++ l.map .event) := by
  have hloop := timeoutsLoop_run s.now h h.length_timer
  rw [processTimeouts, load_bind rfl, get_bind, h.timer_next]
  exact hloop

/-- The call back of an entry fails the request and frees the entry. -/
theorem callFunc_event (hlive : s.live (.event p) = true) (h : Entries s) :
    ∃ unlocked, (callFunc (.event p)).run s = ((), s.ended p (.userTimerCallback unlocked)) := by
  have hlt := (live_event.1 hlive).1
  refine ⟨(s.infos p).cmd.chars == ascii "+SPTESTMODE:", ?_⟩
  rw [callFunc, load_bind hlive, h.func p hlt, h.param p hlt]
  show (userTimerCallback (some p)).run s = _
  rw [userTimerCallback, loadInfo_bind hlive]
  exact free_run hlive _

theorem callFunc_wakeup (h : Entries s) : (callFunc .s_wakeupEvent).run s = ((), { s with pipe := 0 }) := by
  rw [callFunc, load_bind rfl, h.wakeup]
  rfl

end UniRil.AsyncCmd
