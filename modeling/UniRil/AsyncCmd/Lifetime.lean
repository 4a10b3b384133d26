import UniRil.AsyncCmd.Operations
import UniRil.Lib.Runs

/-!
# The life of an entry

Every entry is ended once. Whether it is left alone after that depends on checkAndCompleteRequest,
which frees an entry before it unlinks it, and on calcNextTimeout, which reads an entry without the mutex.
-/

namespace UniRil.AsyncCmd

open Rings Runs

/-! ## Which steps disturb -/

/-- The walk from an event on. -/
def State.timerFrom (s : State) : Nat → EventPtr → List EventPtr
  | 0, _ => []
  | n + 1, ev => if ev = .s_timerList then [] else ev :: s.timerFrom n (s.events ev).next

/-- The events in s_timerList. -/
def State.timerList (s : State) : List EventPtr := s.timerFrom (s.fresh + 1) (s.events .s_timerList).next

/-- The entry whose time-out calcNextTimeout is about to read. -/
def Handler.reads : Handler → Option EventPtr
  | .timercmp tev _ | .timersub tev _ => some tev
  | _ => none

/-- No URC meets an entry that waits for it, and what calcNextTimeout found at the head of s_timerList
is still in the list when it reads the time-out. -/
def Undisturbed (s : State) : Step → Prop
  | .checkAndCompleteRequest socket_id cmd _ => ∀ p, .event p ∈ s.timerList → ¬ (s.infos p).awaits socket_id cmd
  | .handler => ∀ tev, s.handler.reads = some tev → tev ∈ s.timerList
  | _ => True

/-- No access to a freed entry so far, and no entry was ended twice. -/
structure Sound (s : State) : Prop where
  fault : s.fault = false
  once : (s.log.map Ended.p_info).Nodup

/-! ## Invariant -/

/-- Where the walk of the pending list is when these events are still to come. -/
def pendingAt (r : List EventPtr) : EventPtr := (r ++ [EventPtr.s_pendingList]).head (by simp)

/-- What the handler thread relies on before a statement. -/
def AtStatement (s : State) (timer : List Nat) (pending : List EventPtr) : Handler → Prop
  | .calcNextTimeout | .select _ | .processTimeouts _ | .returned => pending = []
  | .timercmp tev _ | .timersub tev _ =>
    pending = [] ∧ ∃ p, tev = .event p ∧ p < s.fresh ∧ (p ∈ timer ∨ s.freed p = true)
  | .addWakeup _ => .s_wakeupEvent ∉ pending
  | .firePending => True
  | .loop ev => ev = pendingAt pending
  | .remove ev next => ∃ rest, pending = ev :: rest ∧ next = pendingAt rest
  | .call ev next =>
    next = pendingAt pending ∧ ev ∉ pending ∧
      (ev = .s_wakeupEvent ∨ ∃ p, ev = .event p ∧ s.live (.event p) = true ∧ p ∉ timer)

/-- The log tells what was freed. -/
structure Ledger (s : State) : Prop where
  sound : Sound s
  freed_lt : ∀ p, s.freed p = true → p < s.fresh
  logged : ∀ e ∈ s.log, s.freed e.p_info = true

structure Inv (s : State) (timer : List Nat) (pending : List EventPtr) : Prop where
  holds : Holds s timer pending
  ledger : Ledger s
  statement : AtStatement s timer pending s.handler

variable {s s' : State} {timer timer' : List Nat} {pending : List EventPtr} {p : Nat}

theorem init_inv : Inv .init [] [] := by
  refine ⟨⟨?_, ?_, by simp, by simp, by simp, by simp [State.init], by simp [State.init], rfl⟩,
    ⟨⟨rfl, by simp [State.init]⟩, by simp [State.init], by simp [State.init]⟩, rfl⟩
  · exact Ring.single rfl rfl
  · exact Ring.single rfl rfl

theorem timerFrom_walkAt {l r : List Nat} {n : Nat} (h : Holds s (l ++ r) pending) (hn : r.length < n) :
    s.timerFrom n (walkAt r) = r.map .event := by
  induction r generalizing l n with
  | nil =>
    obtain ⟨n, rfl⟩ : ∃ m, n = m + 1 := ⟨n - 1, by omega⟩
    rw [walkAt_nil, State.timerFrom, if_pos rfl]
    rfl
  | cons p r ih =>
    obtain ⟨n, rfl⟩ : ∃ m, n = m + 1 := ⟨n - 1, by omega⟩
    rw [walkAt_cons, State.timerFrom, if_neg (by simp), h.next_walkAt, ih h.append_cons (by simpa using hn)]
    rfl

theorem Holds.timerList (h : Holds s timer pending) : s.timerList = timer.map .event := by
  rw [State.timerList, h.timer_next]
  exact timerFrom_walkAt (l := []) h h.length_timer

theorem Holds.mem_timerList (h : Holds s timer pending) : .event p ∈ s.timerList ↔ p ∈ timer := by
  rw [h.timerList]
  simp

theorem Ledger.congr (h : Ledger s) (hfresh : s.fresh ≤ s'.fresh) (hfreed : s'.freed = s.freed) (hfault : s'.fault = s.fault)
    (hlog : s'.log = s.log) : Ledger s' := by
  refine ⟨⟨hfault.trans h.sound.fault, hlog ▸ h.sound.once⟩, fun p hp => ?_, fun e he => ?_⟩
  · exact Nat.lt_of_lt_of_le (h.freed_lt p (hfreed ▸ hp)) hfresh
  · rw [hfreed]
    exact h.logged e (hlog ▸ he)

theorem Ledger.relinked (h : Ledger s) (hs : Relinked s s') : Ledger s' := by
  refine h.congr ?_ ?_ ?_ ?_ <;> rw [hs.rest]

theorem freed_ended {q : Nat} {ending : Ending} : (s.ended p ending).freed q = true ↔ q = p ∨ s.freed q = true := by
  by_cases h : q = p
  · simp [State.ended, h]
  · simp [State.ended, h]

/-- An entry that was not freed was not ended either. -/
theorem Ledger.ended (h : Ledger s) (hlive : s.live (.event p) = true) (ending : Ending) : Ledger (s.ended p ending) := by
  obtain ⟨hlt, hfreed⟩ := live_event.1 hlive
  refine ⟨⟨h.sound.fault, ?_⟩, fun q hq => ?_, fun e he => freed_ended.2 ?_⟩
  · simp only [State.ended, List.map_append, List.nodup_append]
    refine ⟨h.sound.once, List.nodup_singleton _, ?_⟩
    intro q hq q' hq' heq
    obtain ⟨e, he, rfl⟩ := List.mem_map.1 hq
    have hp : e.p_info = p := heq.trans (by simpa using hq')
    have hlogged := h.logged e he
    rw [hp, hfreed] at hlogged
    cases hlogged
  · exact (freed_ended.1 hq).elim (fun heq => heq ▸ hlt) (h.freed_lt q)
  · rcases List.mem_append.1 he with he | he
    · exact Or.inr (h.logged e he)
    · exact Or.inl (by rw [List.mem_singleton.1 he])

/-! ## Steps of the other threads -/

/-- The handler thread relies on nothing that adding or ending an entry of the timer list changes. -/
theorem AtStatement.other {hd : Handler} (h : AtStatement s timer pending hd) (hfresh : s.fresh ≤ s'.fresh)
    (hmem : ∀ p ∈ timer, p ∈ timer' ∨ s'.freed p = true) (hfreed : ∀ p, s.freed p = true → s'.freed p = true)
    (hlive : ∀ p, s.live (.event p) = true → p ∉ timer → s'.live (.event p) = true ∧ p ∉ timer') :
    AtStatement s' timer' pending hd := by
  have hreads : ∀ tev, (∃ p, tev = EventPtr.event p ∧ p < s.fresh ∧ (p ∈ timer ∨ s.freed p = true)) →
      ∃ p, tev = EventPtr.event p ∧ p < s'.fresh ∧ (p ∈ timer' ∨ s'.freed p = true) := by
    rintro tev ⟨p, rfl, hlt, hor⟩
    refine ⟨p, rfl, Nat.lt_of_lt_of_le hlt hfresh, ?_⟩
    exact hor.elim (hmem p) fun hf => Or.inr (hfreed p hf)
  cases hd with
  | timercmp tev now => exact ⟨h.1, hreads tev h.2⟩
  | timersub tev now => exact ⟨h.1, hreads tev h.2⟩
  | call ev next =>
    refine ⟨h.1, h.2.1, h.2.2.imp_right ?_⟩
    rintro ⟨p, rfl, hl, hp⟩
    exact ⟨p, rfl, hlive p hl hp⟩
  | calcNextTimeout => exact h
  | select ptv => exact h
  | processTimeouts wakeup => exact h
  | addWakeup wakeup => exact h
  | firePending => exact h
  | loop ev => exact h
  | remove ev next => exact h
  | returned => exact h

theorem Inv.addAsyncCmdList (h : Inv s timer pending) (socket_id : RIL_SOCKET_ID) (t : RIL_Token) (cmd : ConstChar)
    (data : Nat) (timeout : Int) :
    ∃ timer', Inv ((addAsyncCmdList socket_id t cmd data timeout).run s).2 timer' pending := by
  have hfreed : s.freed s.fresh = false := by
    rw [Bool.eq_false_iff]
    exact fun hf => Nat.lt_irrefl _ (h.ledger.freed_lt _ hf)
  obtain ⟨s', l, r, hrun, rfl, hholds, hfresh, hfr, hfault, hhandler, hlog, -⟩ :=
    addAsyncCmdList_run h.holds hfreed socket_id t cmd data timeout
  have hle : s.fresh ≤ s'.fresh := hfresh ▸ Nat.le_succ _
  refine ⟨l ++ s.fresh :: r, ?_⟩
  rw [hrun]
  refine ⟨hholds, h.ledger.congr hle hfr hfault hlog, ?_⟩
  show AtStatement s' _ _ s'.handler
  rw [hhandler]
  refine h.statement.other hle ?_ (fun p hp => hfr ▸ hp) ?_
  · intro p hp
    refine Or.inl ?_
    simp at hp ⊢
    tauto
  · intro p hlive hp
    obtain ⟨hlt, hf⟩ := live_event.1 hlive
    refine ⟨live_event.2 ⟨Nat.lt_of_lt_of_le hlt hle, hfr ▸ hf⟩, ?_⟩
    have hne : p ≠ s.fresh := Nat.ne_of_lt hlt
    simp at hp ⊢
    tauto

theorem Inv.removeAsyncCmdList (h : Inv s timer pending) (t : RIL_Token) (cmd : ConstChar) :
    ∃ timer', Inv ((removeAsyncCmdList t cmd).run s).2 timer' pending := by
  obtain ⟨s', hrun, ⟨rfl, -⟩ | ⟨p, hp, -, hholds, hrest⟩⟩ := removeAsyncCmdList_run t cmd h.holds
  · exact ⟨timer, hrun ▸ h⟩
  · have hlive := h.holds.timer_live p hp
    refine ⟨timer.erase p, ?_⟩
    rw [hrun]
    have hfreed : s'.freed = (s.ended p .removeAsyncCmdList).freed := by rw [hrest]
    have hfresh : s'.fresh = s.fresh := by rw [hrest]; rfl
    refine ⟨hholds, ?_, ?_⟩
    · refine (h.ledger.ended hlive .removeAsyncCmdList).congr ?_ hfreed ?_ ?_
      · exact hfresh.ge
      · rw [hrest]
      · rw [hrest]
    · have hhandler : s'.handler = s.handler := by rw [hrest]; rfl
      show AtStatement s' _ _ s'.handler
      rw [hhandler]
      refine h.statement.other hfresh.ge ?_ ?_ ?_
      · intro q hq
        by_cases heq : q = p
        · exact Or.inr (by rw [hfreed]; exact freed_ended.2 (Or.inl heq))
        · exact Or.inl ((List.mem_erase_of_ne heq).2 hq)
      · intro q hq
        rw [hfreed]
        exact freed_ended.2 (Or.inr hq)
      · intro q hq hnot
        have hne : q ≠ p := (ne_of_mem_of_not_mem hp hnot).symm
        obtain ⟨hlt, hf⟩ := live_event.1 hq
        refine ⟨live_event.2 ⟨hfresh ▸ hlt, ?_⟩, fun hmem => hnot (List.mem_of_mem_erase hmem)⟩
        rw [hfreed, Bool.eq_false_iff, Ne, freed_ended]
        simp [hne, hf]

/-! ## Steps of the handler thread -/

theorem pendingAt_cons {ev : EventPtr} : pendingAt (ev :: pending) = ev := rfl

theorem Holds.pending_next (h : Holds s timer pending) : (s.events .s_pendingList).next = pendingAt pending :=
  h.pendingRing.path.next_eq

theorem Holds.next_pendingAt {ev : EventPtr} (h : Holds s timer (ev :: pending)) : (s.events ev).next = pendingAt pending :=
  h.pendingRing.path.2.next_eq

/-- An event of the pending list is the one of the wakeup pipe, or that of an entry of neither list. -/
theorem Holds.pending_kind {ev : EventPtr} (h : Holds s timer pending) (hev : ev ∈ pending) :
    ev = .s_wakeupEvent ∨ ∃ p, ev = .event p ∧ s.live (.event p) = true ∧ p ∉ timer := by
  have hapart := h.apart ev hev
  cases ev with
  | null => exact absurd (h.pending_live _ hev) (by simp [State.live])
  | s_timerList => simp at hapart
  | s_pendingList => exact absurd hev (List.nodup_cons.1 h.pendingRing.nodup).1
  | s_wakeupEvent => exact Or.inl rfl
  | event p => exact Or.inr ⟨p, rfl, h.pending_live _ hev, by simpa using hapart⟩

/-- The lists do not depend on the statement that the handler thread is at. -/
theorem Inv.goto (h : Holds s timer pending) (hl : Ledger s) {hd : Handler} (hat : AtStatement s timer pending hd) :
    Inv { s with handler := hd } timer pending := by
  refine ⟨h.congr rfl rfl rfl, hl.congr le_rfl rfl rfl rfl, ?_⟩
  cases hd <;> exact hat

/-- **A statement of the handler thread keeps the lists, when what it reads is still there.** -/
theorem Inv.handlerStep {hd : Handler} (h : Inv s timer pending) (hhd : s.handler = hd)
    (hreads : ∀ tev, hd.reads = some tev → tev ∈ s.timerList) :
    ∃ timer' pending', Inv ((handlerStep hd).run s).2 timer' pending' := by
  have hat := h.statement
  rw [hhd] at hat
  have hread : ∀ tev, hd.reads = some tev → s.live tev = true := by
    intro tev htev
    have hmem := hreads tev htev
    rw [h.holds.timerList] at hmem
    exact h.holds.timerRing_live tev (List.mem_cons_of_mem _ hmem)
  cases hd with
  | calcNextTimeout =>
    refine ⟨timer, pending, ?_⟩
    rw [AsyncCmd.handlerStep, load_bind rfl, get_bind, h.holds.timer_next]
    refine Inv.goto h.holds h.ledger ?_
    cases timer with
    | nil => exact hat
    | cons p r =>
      have hlive := h.holds.timer_live p List.mem_cons_self
      exact ⟨hat, p, rfl, (live_event.1 hlive).1, Or.inl List.mem_cons_self⟩
  | timercmp tev now =>
    refine ⟨timer, pending, ?_⟩
    rw [AsyncCmd.handlerStep, load_bind (hread tev rfl)]
    refine Inv.goto h.holds h.ledger ?_
    split
    · exact hat
    · exact hat.1
  | timersub tev now =>
    refine ⟨timer, pending, ?_⟩
    rw [AsyncCmd.handlerStep, load_bind (hread tev rfl)]
    exact Inv.goto h.holds h.ledger hat.1
  | select ptv => exact ⟨timer, pending, h⟩
  | processTimeouts wakeup =>
    obtain ⟨s₁, l, r, hrun, -, hrel, hholds⟩ := processTimeouts_run h.holds
    refine ⟨r, pending ++ l.map .event, ?_⟩
    rw [AsyncCmd.handlerStep, bind_run hrun]
    refine Inv.goto hholds (h.ledger.relinked hrel) ?_
    obtain rfl : pending = [] := hat
    simp [AtStatement]
  | addWakeup wakeup =>
    cases wakeup with
    | false => exact ⟨timer, pending, Inv.goto h.holds h.ledger trivial⟩
    | true =>
      obtain ⟨s₁, hrun, hrel, hholds⟩ := h.holds.linkPending (show s.live .s_wakeupEvent = true from rfl) (by simp) (by simpa [AtStatement] using hat)
      refine ⟨timer, pending ++ [.s_wakeupEvent], ?_⟩
      rw [AsyncCmd.handlerStep, if_pos rfl, bind_run hrun]
      exact Inv.goto hholds (h.ledger.relinked hrel) trivial
  | firePending =>
    refine ⟨timer, pending, ?_⟩
    rw [AsyncCmd.handlerStep, load_bind rfl, h.holds.pending_next]
    exact Inv.goto h.holds h.ledger rfl
  | loop ev =>
    refine ⟨timer, pending, ?_⟩
    obtain rfl : ev = pendingAt pending := hat
    cases pending with
    | nil => exact Inv.goto h.holds h.ledger rfl
    | cons ev rest =>
      have hne : pendingAt (ev :: rest) ≠ .s_pendingList := by
        intro heq
        exact (List.nodup_cons.1 h.holds.pendingRing.nodup).1 (by simp [← heq, pendingAt_cons])
      have hnext := h.holds.next_pendingAt
      rw [AsyncCmd.handlerStep, if_pos hne, pendingAt_cons, load_bind (h.holds.pending_live ev List.mem_cons_self), hnext]
      exact Inv.goto h.holds h.ledger ⟨rest, rfl, rfl⟩
  | remove ev next =>
    obtain ⟨rest, rfl, rfl⟩ := hat
    obtain ⟨s₁, hrun, hrel, hholds⟩ := h.holds.unlinkPending
    refine ⟨timer, rest, ?_⟩
    rw [AsyncCmd.handlerStep, bind_run hrun]
    refine Inv.goto hholds (h.ledger.relinked hrel) ⟨rfl, ?_, ?_⟩
    · have hnodup := (List.nodup_cons.1 h.holds.pendingRing.nodup).2
      exact (List.nodup_cons.1 hnodup).1
    · rw [hrel.live]
      exact h.holds.pending_kind List.mem_cons_self
  | call ev next =>
    refine ⟨timer, pending, ?_⟩
    obtain ⟨rfl, hpending, rfl | ⟨p, rfl, hlive, htimer⟩⟩ := hat
    · rw [AsyncCmd.handlerStep, bind_run (callFunc_wakeup h.holds.entries)]
      have hholds : Holds { s with pipe := 0 } timer pending := h.holds.congr rfl rfl rfl
      have hledger : Ledger { s with pipe := 0 } := h.ledger.congr le_rfl rfl rfl rfl
      exact Inv.goto hholds hledger rfl
    · obtain ⟨unlocked, hrun⟩ := callFunc_event hlive h.holds.entries
      rw [AsyncCmd.handlerStep, bind_run hrun]
      exact Inv.goto (h.holds.ended htimer hpending _) (h.ledger.ended hlive _) rfl
  | returned => exact ⟨timer, pending, h⟩

/-! ## Runs -/

/-- A step that disturbs nothing keeps the invariant. -/
theorem Inv.step {a : Step} (h : Inv s timer pending) (ha : Undisturbed s a) (hstep : step s a = some s') :
    ∃ timer' pending', Inv s' timer' pending' := by
  cases a with
  | addAsyncCmdList socket_id t cmd data timeout =>
    obtain ⟨timer', hinv⟩ := h.addAsyncCmdList socket_id t cmd data timeout
    cases hstep
    exact ⟨timer', pending, hinv⟩
  | removeAsyncCmdList t cmd =>
    obtain ⟨timer', hinv⟩ := h.removeAsyncCmdList t cmd
    cases hstep
    exact ⟨timer', pending, hinv⟩
  | checkAndCompleteRequest socket_id cmd resp =>
    obtain ⟨s₁, hrun, hcases⟩ := checkAndCompleteRequest_run socket_id cmd resp h.holds
    have hnone : ¬ ∃ p ∈ timer, (s.infos p).awaits socket_id cmd := by
      rintro ⟨p, hp, hawaits⟩
      exact ha p (h.holds.mem_timerList.2 hp) hawaits
    rw [if_neg hnone] at hcases
    subst hcases
    cases hstep
    exact ⟨timer, pending, hrun ▸ h⟩
  | tick d =>
    cases hstep
    refine ⟨timer, pending, h.holds.congr rfl rfl rfl, h.ledger.congr le_rfl rfl rfl rfl, ?_⟩
    exact h.statement.other le_rfl (fun p hp => Or.inl hp) (fun p hp => hp) fun p hl hp => ⟨hl, hp⟩
  | select ret =>
    have hat := h.statement
    simp only [AsyncCmd.step] at hstep
    split at hstep
    · rename_i ptv hhd
      rw [hhd] at hat
      obtain rfl : pending = [] := hat
      refine ⟨timer, [], ?_⟩
      cases ret with
      | eintr =>
        cases hstep
        exact Inv.goto h.holds h.ledger rfl
      | error =>
        cases hstep
        exact Inv.goto h.holds h.ledger rfl
      | ready wakeup =>
        obtain ⟨-, heq⟩ := Option.ite_none_right_eq_some.1 hstep
        cases heq
        exact Inv.goto h.holds h.ledger rfl
    · cases hstep
  | handler =>
    obtain ⟨timer', pending', hinv⟩ := h.handlerStep rfl ha
    refine ⟨timer', pending', ?_⟩
    simp only [AsyncCmd.step] at hstep
    split at hstep
    · cases hstep
    · cases hstep
    · cases hstep
      exact hinv

/-- A step that disturbs is a fault. -/
theorem Inv.fault {a : Step} (h : Inv s timer pending) (ha : ¬ Undisturbed s a) :
    ∃ s', AsyncCmd.step s a = some s' ∧ s'.fault = true := by
  cases a with
  | checkAndCompleteRequest socket_id cmd resp =>
    obtain ⟨s₁, hrun, hcases⟩ := checkAndCompleteRequest_run socket_id cmd resp h.holds
    have hsome : ∃ p ∈ timer, (s.infos p).awaits socket_id cmd := by
      simpa [Undisturbed, h.holds.mem_timerList] using ha
    rw [if_pos hsome] at hcases
    exact ⟨s₁, congrArg some (congrArg Prod.snd hrun), hcases⟩
  | handler =>
    obtain ⟨tev, hreads, hnot⟩ : ∃ tev, s.handler.reads = some tev ∧ tev ∉ s.timerList := by
      simpa [Undisturbed] using ha
    have hat := h.statement
    have hdead : ∀ p, p < s.fresh ∧ (p ∈ timer ∨ s.freed p = true) → .event p ∉ s.timerList →
        (s.touch (.event p)).fault = true := by
      intro p hp hmem
      rw [h.holds.mem_timerList] at hmem
      refine touch_fault (Or.inr ?_)
      simp [State.live, hp.2.resolve_left hmem]
    cases hhd : s.handler with
    | timercmp tev' now =>
      rw [hhd] at hreads hat
      obtain rfl : tev' = tev := Option.some.inj hreads
      obtain ⟨-, p, rfl, hp⟩ := hat
      refine ⟨((AsyncCmd.handlerStep (.timercmp (.event p) now)).run s).2, ?_, hdead p hp hnot⟩
      simp only [AsyncCmd.step, hhd]
    | timersub tev' now =>
      rw [hhd] at hreads hat
      obtain rfl : tev' = tev := Option.some.inj hreads
      obtain ⟨-, p, rfl, hp⟩ := hat
      refine ⟨((AsyncCmd.handlerStep (.timersub (.event p) now)).run s).2, ?_, hdead p hp hnot⟩
      simp only [AsyncCmd.step, hhd]
    | calcNextTimeout => simp [hhd, Handler.reads] at hreads
    | select ptv => simp [hhd, Handler.reads] at hreads
    | processTimeouts wakeup => simp [hhd, Handler.reads] at hreads
    | addWakeup wakeup => simp [hhd, Handler.reads] at hreads
    | firePending => simp [hhd, Handler.reads] at hreads
    | loop ev => simp [hhd, Handler.reads] at hreads
    | remove ev next => simp [hhd, Handler.reads] at hreads
    | call ev next => simp [hhd, Handler.reads] at hreads
    | returned => simp [hhd, Handler.reads] at hreads
  | addAsyncCmdList socket_id t cmd data timeout => exact absurd trivial ha
  | removeAsyncCmdList t cmd => exact absurd trivial ha
  | tick d => exact absurd trivial ha
  | select ret => exact absurd trivial ha

/-- **No freed entry is accessed and none ends twice as long as no URC meets a waiting entry and
calcNextTimeout reads an entry of the list.** -/
theorem entries_sound_iff (steps : List Step) : Always step Sound .init steps ↔ Steps step Undisturbed .init steps := by
  have hinit : ∃ timer pending, Inv .init timer pending := ⟨[], [], init_inv⟩
  refine always_iff_steps_of_invariant (I := fun s => ∃ timer pending, Inv s timer pending) ?_ ?_ ?_ hinit steps
  · rintro s a s' ⟨timer, pending, h⟩ ha hstep
    exact h.step ha hstep
  · rintro s ⟨timer, pending, h⟩
    exact h.ledger.sound
  · rintro s a ⟨timer, pending, h⟩ ha
    obtain ⟨s', hstep, hfault⟩ := h.fault ha
    refine ⟨s', hstep, fun hs => ?_⟩
    rw [hs.fault] at hfault
    cases hfault

/-- A request on SIM 1 waits for +CLCK, and the URC comes. -/
def clckSteps : List Step :=
  [.addAsyncCmdList 0 7 { addr := 1, chars := ascii "+CLCK:" } 0 10, .checkAndCompleteRequest 0 (ascii "+CLCK:") 0]

theorem urc_touches_freed : ¬ Always step Sound .init clckSteps := by
  intro h
  have hfault : (run step .init clckSteps).map State.fault = some true := by decide
  obtain ⟨s, hrun, hs⟩ := Option.map_eq_some_iff.1 hfault
  have hsound := (h.last hrun).fault
  rw [hs] at hsound
  cases hsound

end UniRil.AsyncCmd
