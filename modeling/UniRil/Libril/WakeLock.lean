import UniRil.Lib.Runs

/-!
# The wake lock and its timers (ril.cpp)

grabPartialWakeLock arms a timer, and a newer grab cancels the older timer through its `userParam`. The event loop
reads `userParam` before wakeTimeoutCallback takes s_wakeLockCountMutex, and drops its pointer to the timer
without that mutex. `s_callbacks.version` is 13 or more.
-/

namespace UniRil.Libril.WakeLock

open Runs

/-! ## Steps -/

/-- The address of a UserCallbackInfo. -/
abbrev Info := Nat

/-- Where userTimerCallback is. -/
inductive Phase
  /-- wakeTimeoutCallback was given NULL, and has not got the mutex. -/
  | entered
  /-- The callback has returned. -/
  | returned
  /-- The timer was found in s_last_wake_timeout_info. -/
  | found
  deriving DecidableEq

structure State where
  s_wakelock_count : Nat
  /-- The lock named `ANDROID_WAKE_LOCK_NAME`. -/
  held : Bool
  s_last_wake_timeout_info : Option Info
  /-- `userParam` is not NULL: the timer is cancelled. -/
  userParam : Info → Bool
  /-- The timers that have not fired. -/
  armed : List Info
  /-- The timer whose callback the event loop runs. -/
  running : Option (Info × Phase)
  /-- The timer of the latest grab that got one. -/
  latest : Option Info
  /-- The grabs that were neither released nor ended by the timer of the latest grab. -/
  unreleased : Nat

def State.start : State where
  s_wakelock_count := 0
  held := false
  s_last_wake_timeout_info := none
  userParam _ := false
  armed := []
  running := none
  latest := none
  unreleased := 0

/-- The memory of the timer is not free. -/
def State.allocated (s : State) (p : Info) : Prop := p ∈ s.armed ∨ s.running.map Prod.fst = some p

instance (s : State) (p : Info) : Decidable (s.allocated p) := inferInstanceAs (Decidable (_ ∨ _))

/-- `s_last_wake_timeout_info->userParam = 1`, if there is one. -/
def cancel (s_last_wake_timeout_info : Option Info) (userParam : Info → Bool) : Info → Bool :=
  match s_last_wake_timeout_info with
  | none => userParam
  | some last => Function.update userParam last true

inductive Label
  /-- grabPartialWakeLock; `none` when calloc fails. -/
  | grabPartialWakeLock (p_info : Option Info)
  | releaseWakeLock
  /-- The event loop reads `userParam` and calls wakeTimeoutCallback. -/
  | fires (p_info : Info)
  /-- The locked part of wakeTimeoutCallback. -/
  | wakeTimeoutCallback
  /-- userTimerCallback compares the timer with s_last_wake_timeout_info. -/
  | compares
  /-- `s_last_wake_timeout_info = NULL` -/
  | clears
  deriving DecidableEq

def grab (s : State) (p_info : Info) : State :=
  { s with
    held := true
    s_wakelock_count := s.s_wakelock_count + 1
    userParam := cancel s.s_last_wake_timeout_info (Function.update s.userParam p_info false)
    s_last_wake_timeout_info := some p_info
    armed := p_info :: s.armed
    latest := some p_info
    unreleased := s.unreleased + 1 }

def release (s : State) : State :=
  if 1 < s.s_wakelock_count then
    { s with s_wakelock_count := s.s_wakelock_count - 1, unreleased := s.unreleased - 1 }
  else
    { s with
      s_wakelock_count := 0
      held := false
      userParam := cancel s.s_last_wake_timeout_info s.userParam
      unreleased := s.unreleased - 1 }

def step (s : State) : Label → Option State
  | .grabPartialWakeLock none => some { s with held := false }
  | .grabPartialWakeLock (some p_info) => if s.allocated p_info then none else some (grab s p_info)
  | .releaseWakeLock => some (release s)
  | .fires p_info =>
    if p_info ∈ s.armed ∧ s.running = none then
      some { s with
        armed := s.armed.erase p_info
        running := some (p_info, if s.userParam p_info then .returned else .entered) }
    else none
  | .wakeTimeoutCallback =>
    match s.running with
    | some (p_info, .entered) =>
      some { s with
        s_wakelock_count := 0
        held := false
        running := some (p_info, .returned)
        unreleased := if s.latest = some p_info then 0 else s.unreleased }
    | _ => none
  | .compares =>
    match s.running with
    | some (p_info, .returned) =>
      some { s with running := if s.s_last_wake_timeout_info = some p_info then some (p_info, .found) else none }
    | _ => none
  | .clears =>
    match s.running with
    | some (_, .found) => some { s with s_last_wake_timeout_info := none, running := none }
    | _ => none

/-! ## Runs -/

/-- The timer has not been cancelled and has not come to the locked part of its callback. -/
def State.pending (s : State) (p_info : Info) : Prop :=
  s.userParam p_info = false ∧ (p_info ∈ s.armed ∨ s.running = some (p_info, .entered))

structure Sound (s : State) : Prop where
  count : s.held = true ↔ 0 < s.s_wakelock_count
  timer : s.held = true → ∃ p_info, s.latest = some p_info ∧ s.pending p_info
  /-- The lock is not held only when every grab was released or the timer of the latest one has fired. -/
  released : s.held = false → s.unreleased = 0

/-- While the lock is held, a timer is allocated, and no callback but that of the latest grab gets the mutex. -/
def Kept (s : State) : Label → Prop
  | .grabPartialWakeLock none => s.held = false
  | .wakeTimeoutCallback => ∀ p_info, s.running = some (p_info, .entered) → s.held = true → s.latest = some p_info
  | _ => True

/-! ## The count -/

variable {s s' : State}

structure Counted (s : State) : Prop where
  sound : Sound s
  unreleased : s.unreleased = s.s_wakelock_count
  last : ∀ p_info, s.s_last_wake_timeout_info = some p_info → s.allocated p_info

theorem counted_start : Counted State.start := by
  refine ⟨⟨?_, fun h => ?_, fun _ => rfl⟩, rfl, fun p_info h => ?_⟩
  · exact iff_of_false Bool.false_ne_true (Nat.lt_irrefl 0)
  · cases h
  · cases h

theorem cancel_of_ne {last : Option Info} {p_info : Info} (h : last ≠ some p_info) (userParam : Info → Bool) :
    cancel last userParam p_info = userParam p_info := by
  cases last with
  | none => rfl
  | some q => exact Function.update_of_ne (fun heq => h (congrArg some heq.symm)) _ _

theorem counted_grab {p_info : Info} (h : Counted s) (hfresh : ¬ s.allocated p_info) : Counted (grab s p_info) := by
  have hlast : s.s_last_wake_timeout_info ≠ some p_info := fun hlast => hfresh (h.last p_info hlast)
  refine ⟨⟨?_, fun _ => ?_, fun hheld => ?_⟩, ?_, fun q hq => ?_⟩
  · exact iff_of_true rfl (Nat.succ_pos _)
  · refine ⟨p_info, rfl, ?_, Or.inl List.mem_cons_self⟩
    exact (cancel_of_ne hlast _).trans (Function.update_self _ _ _)
  · cases hheld
  · exact congrArg (· + 1) h.unreleased
  · left
    obtain rfl := Option.some.inj hq
    exact List.mem_cons_self

theorem counted_release (h : Counted s) : Counted (release s) := by
  have hunreleased := h.unreleased
  unfold release
  split
  · rename_i hmore
    have hheld := h.sound.count.2 (Nat.lt_of_succ_lt hmore)
    refine ⟨⟨?_, fun _ => h.sound.timer hheld, fun hnot => ?_⟩, ?_, h.last⟩
    · refine iff_of_true hheld ?_
      show 0 < s.s_wakelock_count - 1
      omega
    · exact absurd hheld (by simpa using hnot)
    · show s.unreleased - 1 = s.s_wakelock_count - 1
      omega
  · refine ⟨⟨?_, fun hheld => ?_, fun _ => ?_⟩, ?_, h.last⟩
    · exact iff_of_false Bool.false_ne_true (Nat.lt_irrefl 0)
    · cases hheld
    · show s.unreleased - 1 = 0
      omega
    · show s.unreleased - 1 = 0
      omega

/-- The event loop takes a timer, which stays allocated. -/
theorem counted_fires {p_info : Info} (h : Counted s) (hstep : step s (.fires p_info) = some s') : Counted s' := by
  obtain ⟨⟨harmed, hrunning⟩, heq⟩ := Option.ite_none_right_eq_some.1 hstep
  obtain rfl := Option.some.inj heq
  refine ⟨⟨h.sound.count, fun hheld => ?_, h.sound.released⟩, h.unreleased, fun q hq => ?_⟩
  · obtain ⟨q, hlatest, hparam, hpending⟩ := h.sound.timer hheld
    refine ⟨q, hlatest, hparam, ?_⟩
    by_cases hqp : q = p_info
    · right
      show some _ = some _
      rw [← hqp, hparam]
      rfl
    · left
      obtain hq | hq := hpending
      · exact (List.mem_erase_of_ne hqp).2 hq
      · rw [hrunning] at hq
        cases hq
  · by_cases hqp : q = p_info
    · exact Or.inr (congrArg some hqp.symm)
    · left
      obtain hq | hq := h.last q hq
      · exact (List.mem_erase_of_ne hqp).2 hq
      · rw [hrunning] at hq
        cases hq

theorem counted_wakeTimeoutCallback (h : Counted s) (hkept : Kept s .wakeTimeoutCallback)
    (hstep : step s .wakeTimeoutCallback = some s') : Counted s' := by
  simp only [step] at hstep
  split at hstep
  · rename_i p_info hrunning
    obtain rfl := Option.some.inj hstep
    have hnone : (if s.latest = some p_info then 0 else s.unreleased) = 0 := by
      split
      · rfl
      · rename_i hnewer
        refine h.sound.released ?_
        by_contra hheld
        exact hnewer (hkept p_info hrunning (by simpa using hheld))
    refine ⟨⟨?_, fun hheld => ?_, fun _ => hnone⟩, hnone, fun q hq => ?_⟩
    · exact iff_of_false Bool.false_ne_true (Nat.lt_irrefl 0)
    · cases hheld
    · obtain hq | hq := h.last q hq
      · exact Or.inl hq
      · right
        rw [hrunning] at hq
        exact hq
  · cases hstep

theorem counted_step {a : Label} (h : Counted s) (hkept : Kept s a) (hstep : step s a = some s') : Counted s' := by
  cases a with
  | grabPartialWakeLock p_info =>
    cases p_info with
    | none =>
      obtain rfl := Option.some.inj hstep
      have hheld : s.held = false := hkept
      refine ⟨⟨?_, fun hnow => ?_, fun _ => h.sound.released hheld⟩, h.unreleased, h.last⟩
      · have hcount := h.sound.count
        rw [hheld] at hcount
        exact hcount
      · cases hnow
    | some p_info =>
      obtain ⟨hfresh, heq⟩ := Option.ite_none_left_eq_some.1 hstep
      obtain rfl := Option.some.inj heq
      exact counted_grab h hfresh
  | releaseWakeLock =>
    obtain rfl := Option.some.inj hstep
    exact counted_release h
  | fires p_info => exact counted_fires h hstep
  | wakeTimeoutCallback => exact counted_wakeTimeoutCallback h hkept hstep
  | compares =>
    simp only [step] at hstep
    split at hstep
    · rename_i p_info hrunning
      obtain rfl := Option.some.inj hstep
      refine ⟨⟨h.sound.count, fun hheld => ?_, h.sound.released⟩, h.unreleased, fun q hq => ?_⟩
      · obtain ⟨q, hlatest, hparam, hq | hq⟩ := h.sound.timer hheld
        · exact ⟨q, hlatest, hparam, Or.inl hq⟩
        · rw [hrunning] at hq
          cases hq
      · obtain harmed | hrun := h.last q hq
        · exact Or.inl harmed
        · right
          rw [hrunning] at hrun
          obtain rfl : p_info = q := Option.some.inj hrun
          have hlast : s.s_last_wake_timeout_info = some p_info := hq
          show Option.map Prod.fst (if _ then _ else _) = _
          rw [if_pos hlast]
          rfl
    · cases hstep
  | clears =>
    simp only [step] at hstep
    split at hstep
    · rename_i p_info hrunning
      obtain rfl := Option.some.inj hstep
      refine ⟨⟨h.sound.count, fun hheld => ?_, h.sound.released⟩, h.unreleased, fun q hq => ?_⟩
      · obtain ⟨q, hlatest, hparam, hq | hq⟩ := h.sound.timer hheld
        · exact ⟨q, hlatest, hparam, Or.inl hq⟩
        · rw [hrunning] at hq
          cases hq
      · cases hq
    · cases hstep

/-! ## Steps that lose the lock -/

/-- The failed grab releases the lock of the others. -/
theorem lost_of_grab (h : Counted s) (hheld : s.held = true) :
    ∃ s', step s (.grabPartialWakeLock none) = some s' ∧ ¬ Sound s' := by
  refine ⟨_, rfl, fun hsound => ?_⟩
  have hcount := hsound.count.2 (h.sound.count.1 hheld)
  cases hcount

/-- An older timer ends a newer grab. -/
theorem lost_of_wakeTimeoutCallback {p_info : Info} (h : Counted s) (hrunning : s.running = some (p_info, .entered))
    (hheld : s.held = true) (hnewer : s.latest ≠ some p_info) :
    ∃ s', step s .wakeTimeoutCallback = some s' ∧ ¬ Sound s' := by
  have hcount := h.sound.count.1 hheld
  have hunreleased := h.unreleased
  simp only [step, hrunning]
  refine ⟨_, rfl, fun hsound => ?_⟩
  have hnone := hsound.released rfl
  simp only [if_neg hnewer] at hnone
  omega

/-- **The wake lock follows its count.** It does throughout a run, its timer is pending and no grab is cut short,
exactly when no timer allocation fails while the lock is held, and no timer that a newer grab has replaced gets
to the locked part of its callback while the lock is held. -/
theorem awake_iff_kept (labels : List Label) :
    Always step Sound State.start labels ↔ Steps step Kept State.start labels := by
  refine always_iff_steps_of_invariant (fun s a s' => counted_step) (fun s h => h.sound) (fun s a h hnot => ?_)
    counted_start labels
  cases a with
  | grabPartialWakeLock p_info =>
    cases p_info with
    | none => exact lost_of_grab h (by simpa [Kept] using hnot)
    | some p_info => exact absurd trivial hnot
  | wakeTimeoutCallback =>
    simp only [Kept, not_forall] at hnot
    obtain ⟨p_info, hrunning, hheld, hnewer⟩ := hnot
    exact lost_of_wakeTimeoutCallback h hrunning hheld hnewer
  | releaseWakeLock => exact absurd trivial hnot
  | fires p_info => exact absurd trivial hnot
  | compares => exact absurd trivial hnot
  | clears => exact absurd trivial hnot

/-- The timer of the first grab reads its parameter, the second grab comes, and the first timer takes its lock. -/
theorem sound_fails_olderTimer :
    ¬ ∀ labels s, run step State.start labels = some s → Sound s := by
  intro h
  have hrun : ∃ s, run step State.start [.grabPartialWakeLock (some 1), .fires 1, .grabPartialWakeLock (some 2),
      .wakeTimeoutCallback] = some s ∧ s.held = false ∧ s.unreleased = 2 := by
    refine ⟨_, rfl, rfl, rfl⟩
  obtain ⟨s, hrun, hheld, hunreleased⟩ := hrun
  have hnone := (h _ s hrun).released hheld
  omega

end UniRil.Libril.WakeLock
