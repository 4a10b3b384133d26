import UniRil.AsyncCmd.Lifetime
import UniRil.Lib.StateRules

/-!
# What a step does to the entries

An entry that a URC ends is unlinked after it was freed. As long as its memory is not given out again the lists come
out of that as they should, and every step adds one entry, ends one, or leaves them all alone.
-/

namespace UniRil.AsyncCmd

open Rings Runs StateRules

variable {s s' : State} {timer timer' l r : List Nat} {pending : List EventPtr} {p fuel : Nat}

/-! ## Unlinking what was freed -/

/-- Only links and the fault have changed. -/
def Touched (s s' : State) : Prop := s' = { s with events := s'.events, fault := s'.fault }

instance : IsPreorder State Touched where
  refl _ := rfl
  trans s t u h h' := by
    unfold Touched at h h' ⊢
    rw [h', h]

theorem touched_touch (s : State) (ev : EventPtr) : Touched s (s.touch ev) := by
  unfold State.touch
  split
  · rfl
  · rfl

theorem touched_load (ev : EventPtr) : Keeps Touched (load ev) := fun s => touched_touch s ev

theorem touched_store (ev : EventPtr) (f : RilEvent → RilEvent) : Keeps Touched (store ev f) := by
  intro s
  have htouch := touched_touch s ev
  unfold Touched store at *
  rw [htouch]

theorem touched_removeFromList (ev : EventPtr) : Keeps Touched (removeFromList ev) := by
  refine .ite ?_ .pure
  refine (touched_load _).bind fun e => (touched_store _ _).bind fun _ => ?_
  refine (touched_load _).bind fun e => (touched_store _ _).bind fun _ => ?_
  exact (touched_store _ _).bind fun _ => touched_store _ _

def SameEvents (s s' : State) : Prop := s.events = s'.events

theorem events_touch (s : State) (ev : EventPtr) : (s.touch ev).events = s.events := by
  unfold State.touch
  split
  · rfl
  · rfl

theorem sameEvents_load (ev : EventPtr) : Agrees SameEvents (load ev) SameEvents := by
  intro s t h
  refine ⟨congrFun h ev, ?_⟩
  exact (events_touch s ev).trans (h.trans (events_touch t ev).symm)

theorem sameEvents_store (ev : EventPtr) (f : RilEvent → RilEvent) :
    Agrees SameEvents (store ev f) SameEvents := by
  intro s t h
  refine ⟨rfl, ?_⟩
  unfold SameEvents at *
  simp only [store, h]

/-- Whether an event is still allocated makes no difference to the links. -/
theorem sameEvents_removeFromList (ev : EventPtr) : Agrees SameEvents (removeFromList ev) SameEvents := by
  refine .ite (fun _ => ?_) fun _ => .pure
  refine (sameEvents_load _).bind fun e => (sameEvents_store _ _).bind fun _ => ?_
  refine (sameEvents_load _).bind fun e => (sameEvents_store _ _).bind fun _ => ?_
  exact (sameEvents_store _ _).bind fun _ => sameEvents_store _ _

/-! ## A URC -/

/-- How checkAndCompleteRequest ends an entry. -/
def completion (p_info : UserCallbackInfo) (resp : Nat) : Ending :=
  .onRequestComplete ((s_asyncCmdTable.find? fun c => strncaseeq c.1 p_info.cmd.chars c.1.length).map (·.2))
    p_info.data resp

theorem onRequestComplete_completion (hlive : s.live (.event p) = true) (hparam : (s.events (.event p)).param = some p)
    (resp : Nat) : (onRequestComplete (.event p) resp).run s = ((), s.ended p (completion (s.infos p) resp)) := by
  rw [onRequestComplete, load_bind hlive, hparam, loadInfo_bind hlive]
  exact free_run hlive _

/-- An entry of the timer list that has just been ended is unlinked all the same. -/
theorem Holds.unlinkEnded (h : Holds s (l ++ p :: r) pending) (ending : Ending) :
    ∃ s', (removeFromList (.event p)).run (s.ended p ending) = ((), s') ∧ Holds s' (l ++ r) pending ∧
      Touched (s.ended p ending) s' := by
  obtain ⟨s₁, hrun, hrel, hholds⟩ := h.unlinkTimer
  have hnodup := List.nodup_middle.1 h.timer_nodup
  have htouched := touched_removeFromList (.event p) (s.ended p ending)
  have hevents := (sameEvents_removeFromList (.event p) s (s.ended p ending) rfl).2
  refine ⟨((removeFromList (.event p)).run (s.ended p ending)).2, rfl, ?_, htouched⟩
  have hended : Holds (s₁.ended p ending) (l ++ r) pending :=
    hholds.ended (List.nodup_cons.1 hnodup).1 (fun hmem => h.apart _ hmem (by simp)) ending
  have hs₁ : ((removeFromList (.event p)) s).2 = s₁ := congrArg Prod.snd hrun
  refine hended.congr ?_ ?_ ?_
  · refine hevents.symm.trans ?_
    rw [hs₁]
    rfl
  · refine (congrArg State.fresh htouched).trans ?_
    show s.fresh = s₁.fresh
    rw [hrel.rest]
  · refine (congrArg State.freed htouched).trans ?_
    show Function.update s.freed p true = Function.update s₁.freed p true
    rw [hrel.rest]

/-- The first entry that awaits the URC is ended and unlinked. -/
theorem checkLoop_ends (socket_id : RIL_SOCKET_ID) (cmd : List Byte) (resp : Nat) (h : Holds s (l ++ r) pending)
    (hfuel : r.length < fuel) :
    ∃ s', (checkLoop socket_id cmd resp fuel (walkAt r)).run s = ((), s') ∧
      (s' = s ∨ ∃ p ∈ r, Holds s' ((l ++ r).erase p) pending ∧
        Touched (s.ended p (completion (s.infos p) resp)) s') := by
  induction r generalizing l fuel with
  | nil =>
    obtain ⟨fuel, rfl⟩ : ∃ n, fuel = n + 1 := ⟨fuel - 1, by omega⟩
    refine ⟨s, ?_, Or.inl rfl⟩
    rw [walkAt_nil, checkLoop, if_neg (by simp)]
    rfl
  | cons p r ih =>
    obtain ⟨fuel, rfl⟩ : ∃ n, fuel = n + 1 := ⟨fuel - 1, by omega⟩
    have hlive := h.live_middle
    rw [walkAt_cons, checkLoop, if_pos (by simp), load_bind hlive, h.param_middle, loadInfo_bind hlive, h.next_walkAt]
    by_cases hp : (s.infos p).awaits socket_id cmd
    · obtain ⟨s', hrun, hholds, htouched⟩ := h.unlinkEnded (completion (s.infos p) resp)
      refine ⟨s', ?_, Or.inr ⟨p, List.mem_cons_self, ?_, htouched⟩⟩
      · rw [if_pos hp, bind_run (onRequestComplete_completion hlive h.param_middle resp)]
        exact hrun
      · rw [erase_middle h.timer_nodup]
        exact hholds
    · obtain ⟨s', hrun, hcases⟩ := ih h.append_cons (by simpa using hfuel)
      refine ⟨s', ?_, ?_⟩
      · rw [if_neg hp]
        exact hrun
      · rw [List.append_assoc, List.singleton_append] at hcases
        rcases hcases with heq | ⟨q, hq, hends⟩
        · exact .inl heq
        · exact .inr ⟨q, List.mem_cons_of_mem p hq, hends⟩

theorem checkAndCompleteRequest_ends (socket_id : RIL_SOCKET_ID) (cmd : List Byte) (resp : Nat)
    (h : Holds s timer pending) :
    ∃ s', (checkAndCompleteRequest socket_id cmd resp).run s = ((), s') ∧
      (s' = s ∨ ∃ p ∈ timer, Holds s' (timer.erase p) pending ∧
        Touched (s.ended p (completion (s.infos p) resp)) s') := by
  have hloop := checkLoop_ends (l := []) socket_id cmd resp h h.length_timer
  rw [checkAndCompleteRequest, load_bind rfl, get_bind, h.timer_next]
  exact hloop

/-! ## Steps -/

/-- The lists hold the entries that have not ended, but for the one that the handler thread has taken out. -/
structure Life (s : State) (timer : List Nat) (pending : List EventPtr) : Prop where
  holds : Holds s timer pending
  freed_lt : ∀ p, s.freed p = true → p < s.fresh
  statement : AtStatement s timer pending s.handler
  waiting : ∀ p < s.fresh, s.freed p = false →
    p ∈ timer ∨ .event p ∈ pending ∨ ∃ next, s.handler = .call (.event p) next

/-- The entries, and what has become of them, are as they were. -/
structure Unchanged (s s' : State) : Prop where
  fresh : s'.fresh = s.fresh
  infos : s'.infos = s.infos
  freed : s'.freed = s.freed
  log : s'.log = s.log

/-- A step that ended an entry. -/
structure EndedBy (s : State) (p : Nat) (ending : Ending) (s' : State) : Prop where
  live : s.live (.event p) = true
  fresh : s'.fresh = s.fresh
  infos : s'.infos = s.infos
  freed : s'.freed = Function.update s.freed p true
  log : s'.log = s.log ++ [{ p_info := p, token := (s.infos p).token, ending }]
  /-- A URC is told what the entry says. -/
  completion : ∀ func data resp, ending = .onRequestComplete func data resp →
    ending = AsyncCmd.completion (s.infos p) resp

theorem Touched.handler {ending : Ending} (h : Touched (s.ended p ending) s') : s'.handler = s.handler := by
  rw [h]
  rfl

theorem Touched.endedBy {ending : Ending} (h : Touched (s.ended p ending) s') (hlive : s.live (.event p) = true)
    (hcompletion : ∀ func data resp, ending = .onRequestComplete func data resp →
      ending = AsyncCmd.completion (s.infos p) resp) : EndedBy s p ending s' := by
  rw [h]
  exact ⟨hlive, rfl, rfl, rfl, rfl, hcompletion⟩

/-- What a step does to the entries that does not add one. -/
def Quiet (s s' : State) : Prop := Unchanged s s' ∨ ∃ p ending, EndedBy s p ending s'

theorem init_life : Life .init [] [] :=
  ⟨init_inv.holds, by simp [State.init], init_inv.statement, by simp [State.init]⟩

/-- A step that added an entry. -/
structure Added (p_info : UserCallbackInfo) (s s' : State) : Prop where
  fresh : s'.fresh = s.fresh + 1
  infos : s'.infos = Function.update s.infos s.fresh p_info
  freed : s'.freed = s.freed
  log : s'.log = s.log

theorem Life.freed_fresh (h : Life s timer pending) : s.freed s.fresh = false := by
  rw [Bool.eq_false_iff]
  exact fun hf => Nat.lt_irrefl _ (h.freed_lt _ hf)

theorem Life.addAsyncCmdList (h : Life s timer pending) (socket_id : RIL_SOCKET_ID) (t : RIL_Token) (cmd : ConstChar)
    (data : Nat) (timeout : Int) :
    (∃ timer', Life ((addAsyncCmdList socket_id t cmd data timeout).run s).2 timer' pending) ∧
      Added { token := t, socket_id, data, cmd } s
        ((AsyncCmd.addAsyncCmdList socket_id t cmd data timeout).run s).2 := by
  obtain ⟨s', l, r, hrun, rfl, hholds, hfresh, hfr, -, hhandler, hlog, hinfos⟩ :=
    addAsyncCmdList_run h.holds h.freed_fresh socket_id t cmd data timeout
  have hle : s.fresh ≤ s'.fresh := hfresh ▸ Nat.le_succ _
  rw [hrun]
  refine ⟨⟨l ++ s.fresh :: r, hholds, ?_, ?_, ?_⟩, hfresh, hinfos, hfr, hlog⟩
  · intro p hp
    exact Nat.lt_of_lt_of_le (h.freed_lt p (hfr ▸ hp)) hle
  · show AtStatement s' _ _ s'.handler
    rw [hhandler]
    refine h.statement.other hle ?_ (fun p hp => hfr ▸ hp) ?_
    · intro p hp
      refine Or.inl ?_
      simp at hp ⊢
      tauto
    · intro p hlive hp
      obtain ⟨hlt, hf⟩ := live_event.1 hlive
      refine ⟨live_event.2 ⟨Nat.lt_of_lt_of_le hlt hle, hfr ▸ hf⟩, ?_⟩
      have hne : p ≠ s.fresh := Nat.ne_of_lt hlt
      simp at hp ⊢
      tauto
  · intro p hp hf
    rw [hhandler]
    by_cases hnew : p = s.fresh
    · exact .inl (by simp [hnew])
    · have hlt : p < s.fresh := by
        have hp' : p < s.fresh + 1 := hfresh ▸ hp
        omega
      refine (h.waiting p hlt (hfr ▸ hf)).imp_left fun hmem => ?_
      simp at hmem ⊢
      tauto

/-- The end of an entry of the timer list. -/
theorem Life.ends (h : Life s timer pending) (hp : p ∈ timer)
    (hholds : Holds s' (timer.erase p) pending) (hfresh : s'.fresh = s.fresh)
    (hfreed : s'.freed = Function.update s.freed p true) (hhandler : s'.handler = s.handler) :
    Life s' (timer.erase p) pending := by
  have hfreed' {q : Nat} : s'.freed q = true ↔ q = p ∨ s.freed q = true := by
    rw [hfreed]
    exact @freed_ended s p q .removeAsyncCmdList
  refine ⟨hholds, ?_, ?_, ?_⟩
  · intro q hq
    rw [hfresh]
    refine (hfreed'.mp hq).elim (fun heq => ?_) (h.freed_lt q)
    rw [heq]
    exact (live_event.1 (h.holds.timer_live p hp)).1
  · show AtStatement s' _ _ s'.handler
    rw [hhandler]
    refine h.statement.other hfresh.ge ?_ (fun q hq => hfreed'.mpr (.inr hq)) ?_
    · intro q hq
      by_cases heq : q = p
      · exact .inr (hfreed'.mpr (.inl heq))
      · exact .inl ((List.mem_erase_of_ne heq).2 hq)
    · intro q hq hnot
      have hne : q ≠ p := (ne_of_mem_of_not_mem hp hnot).symm
      obtain ⟨hlt, hf⟩ := live_event.1 hq
      refine ⟨live_event.2 ⟨hfresh ▸ hlt, ?_⟩, fun hmem => hnot (List.mem_of_mem_erase hmem)⟩
      rw [Bool.eq_false_iff, Ne, hfreed']
      simp [hne, hf]
  · intro q hq hf
    rw [Bool.eq_false_iff, Ne, hfreed', not_or, Bool.not_eq_true] at hf
    rw [hhandler]
    refine (h.waiting q (hfresh ▸ hq) hf.2).imp_left fun hmem => ?_
    exact (List.mem_erase_of_ne hf.1).2 hmem

theorem Life.removeAsyncCmdList (h : Life s timer pending) (t : RIL_Token) (cmd : ConstChar) :
    (∃ timer', Life ((removeAsyncCmdList t cmd).run s).2 timer' pending) ∧
      Quiet s ((AsyncCmd.removeAsyncCmdList t cmd).run s).2 := by
  obtain ⟨s', hrun, ⟨rfl, -⟩ | ⟨p, hp, -, hholds, hrest⟩⟩ := removeAsyncCmdList_run t cmd h.holds
  · rw [hrun]
    exact ⟨⟨timer, h⟩, .inl ⟨rfl, rfl, rfl, rfl⟩⟩
  · rw [hrun]
    have htouched : Touched (s.ended p .removeAsyncCmdList) s' := by rw [Touched, hrest]
    have hended := htouched.endedBy (h.holds.timer_live p hp) fun _ _ _ heq => by cases heq
    refine ⟨⟨timer.erase p, h.ends hp hholds hended.fresh hended.freed htouched.handler⟩, .inr ⟨p, _, hended⟩⟩

theorem Life.checkAndCompleteRequest (h : Life s timer pending) (socket_id : RIL_SOCKET_ID) (cmd : List Byte)
    (resp : Nat) :
    (∃ timer', Life ((checkAndCompleteRequest socket_id cmd resp).run s).2 timer' pending) ∧
      Quiet s ((AsyncCmd.checkAndCompleteRequest socket_id cmd resp).run s).2 := by
  obtain ⟨s', hrun, rfl | ⟨p, hp, hholds, hrest⟩⟩ := checkAndCompleteRequest_ends socket_id cmd resp h.holds
  · rw [hrun]
    exact ⟨⟨timer, h⟩, .inl ⟨rfl, rfl, rfl, rfl⟩⟩
  · rw [hrun]
    have hended := hrest.endedBy (h.holds.timer_live p hp) fun _ _ _ heq => by
      unfold completion at heq ⊢
      cases heq
      rfl
    refine ⟨⟨timer.erase p, h.ends hp hholds hended.fresh hended.freed hrest.handler⟩, .inr ⟨p, _, hended⟩⟩

/-! ## The handler thread -/

theorem Relinked.unchanged (h : Relinked s s') : Unchanged s s' := by
  rw [h.rest]
  exact ⟨rfl, rfl, rfl, rfl⟩

theorem Unchanged.trans {u : State} (h : Unchanged s s') (h' : Unchanged s' u) : Unchanged s u :=
  ⟨h'.fresh.trans h.fresh, h'.infos.trans h.infos, h'.freed.trans h.freed, h'.log.trans h.log⟩

theorem unchanged_goto (s : State) (hd : Handler) : Unchanged s { s with handler := hd } := ⟨rfl, rfl, rfl, rfl⟩

theorem unchanged_touch (s : State) (ev : EventPtr) : Unchanged s (s.touch ev) := by
  rw [touched_touch s ev]
  exact ⟨rfl, rfl, rfl, rfl⟩

/-- Where the entries that have not ended are, for a handler thread at `hd`. -/
def Waiting (s : State) (timer : List Nat) (pending : List EventPtr) (hd : Handler) : Prop :=
  ∀ p < s.fresh, s.freed p = false → p ∈ timer ∨ .event p ∈ pending ∨ ∃ next, hd = .call (.event p) next

/-- The handler thread goes to its next statement, and nothing was added or ended. -/
theorem Life.move {hd : Handler} {timer' : List Nat} {pending' : List EventPtr} (h : Life s timer pending)
    (hs : Unchanged s s') (hholds : Holds s' timer' pending') (hat : AtStatement s' timer' pending' hd)
    (hwaiting : Waiting s timer' pending' hd) :
    (∃ timer' pending', Life { s' with handler := hd } timer' pending') ∧ Quiet s { s' with handler := hd } := by
  refine ⟨⟨timer', pending', hholds.congr rfl rfl rfl, ?_, ?_, ?_⟩, .inl (hs.trans (unchanged_goto s' hd))⟩
  · intro p hp
    have hlt := h.freed_lt p (hs.freed ▸ hp)
    exact hs.fresh.symm ▸ hlt
  · cases hd with
    | _ => exact hat
  · intro p hp hf
    exact hwaiting p (hs.fresh ▸ hp) (hs.freed ▸ hf)

/-- The handler thread goes on without touching the lists. -/
theorem Life.moveOn {hd hd' : Handler} (h : Life s timer pending) (hhd : s.handler = hd') (ev : EventPtr)
    (hcall : ∀ ev next, hd' ≠ .call ev next) (hat : AtStatement s timer pending hd) :
    (∃ timer' pending', Life { s.touch ev with handler := hd } timer' pending') ∧
      Quiet s { s.touch ev with handler := hd } := by
  have htouched := touched_touch s ev
  have hevents := events_touch s ev
  have hholds : Holds (s.touch ev) timer pending := by
    rw [htouched, hevents]
    exact h.holds.congr rfl rfl rfl
  refine h.move (unchanged_touch s ev) hholds ?_ ?_
  · rw [htouched]
    cases hd with
    | _ => exact hat
  · intro p hp hf
    refine (h.waiting p hp hf).imp_right fun hor => .inl (hor.resolve_right ?_)
    rintro ⟨next, hcalled⟩
    exact hcall _ next (hhd.symm.trans hcalled)

/-- A statement of the handler thread, whether or not what it reads is still there. -/
theorem Life.handlerStep {hd : Handler} (h : Life s timer pending) (hhd : s.handler = hd) :
    (∃ timer' pending', Life ((handlerStep hd).run s).2 timer' pending') ∧
      Quiet s ((AsyncCmd.handlerStep hd).run s).2 := by
  have hat := h.statement
  have hwaiting := h.waiting
  rw [hhd] at hat hwaiting
  cases hd with
  | calcNextTimeout =>
    refine h.moveOn hhd .s_timerList (by simp) ?_
    show AtStatement s timer pending (if (s.events .s_timerList).next = .s_timerList then _ else _)
    rw [h.holds.timer_next]
    cases timer with
    | nil => exact hat
    | cons p r =>
      have hlive := h.holds.timer_live p List.mem_cons_self
      exact ⟨hat, p, rfl, (live_event.1 hlive).1, Or.inl List.mem_cons_self⟩
  | timercmp tev now =>
    refine h.moveOn hhd tev (by simp) ?_
    show AtStatement s timer pending (if (s.events tev).timeout > now then _ else _)
    split
    · exact hat
    · exact hat.1
  | timersub tev now => exact h.moveOn hhd tev (by simp) hat.1
  | select ptv => exact ⟨⟨timer, pending, h⟩, .inl ⟨rfl, rfl, rfl, rfl⟩⟩
  | processTimeouts wakeup =>
    obtain ⟨s₁, l, r, hrun, rfl, hrel, hholds⟩ := processTimeouts_run h.holds
    obtain rfl : pending = [] := hat
    rw [AsyncCmd.handlerStep, bind_run hrun]
    refine h.move hrel.unchanged hholds (by simp [AtStatement]) ?_
    intro p hp hf
    have hmem := hwaiting p hp hf
    simp at hmem ⊢
    tauto
  | addWakeup wakeup =>
    cases wakeup with
    | false => exact h.moveOn hhd .s_timerList (by simp) trivial
    | true =>
      have hnot : EventPtr.s_wakeupEvent ∉ EventPtr.s_pendingList :: pending := by simpa [AtStatement] using hat
      obtain ⟨s₁, hrun, hrel, hholds⟩ :=
        h.holds.linkPending (show s.live .s_wakeupEvent = true from rfl) (by simp) hnot
      rw [AsyncCmd.handlerStep, if_pos rfl, bind_run hrun]
      refine h.move hrel.unchanged hholds trivial ?_
      intro p hp hf
      have hmem := hwaiting p hp hf
      simp at hmem ⊢
      exact hmem
  | firePending => exact h.moveOn hhd .s_pendingList (by simp) h.holds.pending_next
  | loop ev =>
    obtain rfl : ev = pendingAt pending := hat
    cases pending with
    | nil => exact h.moveOn hhd .s_timerList (by simp) rfl
    | cons ev rest =>
      have hne : pendingAt (ev :: rest) ≠ .s_pendingList := by
        intro heq
        exact (List.nodup_cons.1 h.holds.pendingRing.nodup).1 (by simp [← heq, pendingAt_cons])
      have hnext := h.holds.next_pendingAt
      rw [AsyncCmd.handlerStep, if_pos hne, pendingAt_cons]
      exact h.moveOn hhd ev (by simp) ⟨rest, rfl, hnext⟩
  | remove ev next =>
    obtain ⟨rest, rfl, rfl⟩ := hat
    obtain ⟨s₁, hrun, hrel, hholds⟩ := h.holds.unlinkPending
    rw [AsyncCmd.handlerStep, bind_run hrun]
    refine h.move hrel.unchanged hholds ⟨rfl, ?_, ?_⟩ ?_
    · have hnodup := (List.nodup_cons.1 h.holds.pendingRing.nodup).2
      exact (List.nodup_cons.1 hnodup).1
    · rw [hrel.live]
      exact h.holds.pending_kind List.mem_cons_self
    · intro p hp hf
      refine (hwaiting p hp hf).imp_right fun hor => ?_
      rcases List.mem_cons.1 (hor.resolve_right (by simp)) with heq | hrest
      · exact .inr ⟨_, by rw [heq]⟩
      · exact .inl hrest
  | call ev next =>
    obtain ⟨rfl, hpending, rfl | ⟨p, rfl, hlive, htimer⟩⟩ := hat
    · rw [AsyncCmd.handlerStep, bind_run (callFunc_wakeup h.holds.entries)]
      have hholds : Holds { s with pipe := 0 } timer pending := h.holds.congr rfl rfl rfl
      have hsame : Unchanged s { s with pipe := 0 } := ⟨rfl, rfl, rfl, rfl⟩
      refine h.move hsame hholds rfl ?_
      intro p hp hf
      refine (hwaiting p hp hf).imp_right fun hor => .inl (hor.resolve_right ?_)
      simp
    · obtain ⟨unlocked, hrun⟩ := callFunc_event hlive h.holds.entries
      rw [AsyncCmd.handlerStep, bind_run hrun]
      have hholds := h.holds.ended htimer hpending (.userTimerCallback unlocked)
      have hfreed {q : Nat} := @freed_ended s p q (.userTimerCallback unlocked)
      refine ⟨⟨timer, pending, hholds.congr rfl rfl rfl, ?_, rfl, ?_⟩,
        .inr ⟨p, .userTimerCallback unlocked, ?_⟩⟩
      · intro q hq
        exact (hfreed.1 hq).elim (fun heq => heq ▸ (live_event.1 hlive).1) (h.freed_lt q)
      · intro q hq hf
        have hnot : ¬ (q = p ∨ s.freed q = true) := by
          rw [← hfreed, Bool.not_eq_true]
          exact hf
        rw [not_or, Bool.not_eq_true] at hnot
        refine (hwaiting q hq hnot.2).imp_right fun hor => .inl (hor.resolve_right ?_)
        rintro ⟨next, heq⟩
        exact hnot.1 (EventPtr.event.inj (Handler.call.inj heq).1).symm
      · refine ⟨hlive, rfl, rfl, rfl, rfl, ?_⟩
        intro func data resp heq
        cases heq
  | returned => exact ⟨⟨timer, pending, h⟩, .inl ⟨rfl, rfl, rfl, rfl⟩⟩

theorem Life.select {ret : Select} {ptv : Option Nat} (h : Life s timer pending) (hhd : s.handler = .select ptv)
    (hstep : selectStep ret ptv s = some s') : (∃ timer' pending', Life s' timer' pending') ∧ Quiet s s' := by
  have hat := h.statement
  rw [hhd] at hat
  obtain rfl : pending = [] := hat
  have hcall : ∀ ev next, Handler.select ptv ≠ .call ev next := by simp
  have hmove : ∀ hd, AtStatement s timer [] hd →
      (∃ timer' pending', Life { s with handler := hd } timer' pending') ∧ Quiet s { s with handler := hd } :=
    fun hd hgo => h.moveOn hhd .s_timerList hcall hgo
  cases ret with
  | eintr =>
    cases hstep
    exact hmove .calcNextTimeout rfl
  | error =>
    cases hstep
    exact hmove .returned rfl
  | ready wakeup =>
    obtain ⟨-, heq⟩ := Option.ite_none_right_eq_some.1 hstep
    cases heq
    exact hmove (.processTimeouts wakeup) rfl

/-- **No step but addAsyncCmdList adds an entry, and each ends at most one.** -/
theorem Life.step {a : Step} (h : Life s timer pending)
    (ha : ∀ socket_id t cmd data timeout, a ≠ .addAsyncCmdList socket_id t cmd data timeout)
    (hstep : step s a = some s') : (∃ timer' pending', Life s' timer' pending') ∧ Quiet s s' := by
  cases a with
  | addAsyncCmdList socket_id t cmd data timeout => exact absurd rfl (ha _ _ _ _ _)
  | removeAsyncCmdList t cmd =>
    cases hstep
    exact (h.removeAsyncCmdList t cmd).imp_left fun ⟨timer', hlife⟩ => ⟨timer', pending, hlife⟩
  | checkAndCompleteRequest socket_id cmd resp =>
    cases hstep
    exact (h.checkAndCompleteRequest socket_id cmd resp).imp_left fun ⟨timer', hlife⟩ => ⟨timer', pending, hlife⟩
  | tick d =>
    cases hstep
    refine ⟨⟨timer, pending, h.holds.congr rfl rfl rfl, h.freed_lt, ?_, h.waiting⟩, .inl ⟨rfl, rfl, rfl, rfl⟩⟩
    exact h.statement.other le_rfl (fun p hp => Or.inl hp) (fun p hp => hp) fun p hl hp => ⟨hl, hp⟩
  | select ret =>
    simp only [AsyncCmd.step] at hstep
    split at hstep
    · rename_i ptv hhd
      exact h.select hhd hstep
    · cases hstep
  | handler =>
    have hhandler := h.handlerStep rfl
    simp only [AsyncCmd.step] at hstep
    split at hstep
    · cases hstep
    · cases hstep
    · cases hstep
      exact hhandler

end UniRil.AsyncCmd
