import UniRil.AtTok
import UniRil.Command.Code
import UniRil.Lib.Runs

/-!
# Polling a busy SIM

`s_sim_busy` is raised by getSIMStatus, which arms a timer for getSIMStatusAgainForSimBusy, and is lowered by that
callback and by a modem reset. requestRadioPower waits while it is up. The state is that of one SIM.
-/

namespace UniRil.Sim.BusyPoll

open AtTok Command Runs

/-! ## Answers to AT+CPIN? -/

def CME_ERROR_NON_CME : Int := -1

def CME_SUCCESS : Int := 0

def CME_SIM_BUSY : Int := 14

def at_get_cme_error (p_response : ATResponse) : Int :=
  if p_response.success then CME_SUCCESS
  else
    match p_response.finalResponse with
    | none => CME_ERROR_NON_CME
    | some finalResponse =>
      if strStartsWith finalResponse (ascii "+CME ERROR:") then
        (at_tok_nextint (at_tok_start (some finalResponse))).value.getD CME_ERROR_NON_CME
      else CME_ERROR_NON_CME

/-- What at_send_command_singleline returns, and the response unless that is an error. -/
structure Answer where
  err : Int
  p_response : ATResponse

/-! ## Steps -/

inductive RIL_RadioState
  | RADIO_STATE_OFF
  | RADIO_STATE_UNAVAILABLE
  | RADIO_STATE_SIM_NOT_READY
  | RADIO_STATE_SIM_LOCKED_OR_ABSENT
  | RADIO_STATE_SIM_READY
  | RADIO_STATE_RUIM_NOT_READY
  | RADIO_STATE_RUIM_READY
  | RADIO_STATE_RUIM_LOCKED_OR_ABSENT
  | RADIO_STATE_NV_NOT_READY
  | RADIO_STATE_NV_READY
  | RADIO_STATE_ON
  deriving DecidableEq

/-- Where a thread is in getSIMStatus, and in requestRadioPower if that was the caller. -/
inductive ThreadPc
  | idle
  /-- before the lock of s_simStatusMutex -/
  | getSIMStatus (radioPower : Bool)
  /-- AT+CPIN? has been sent. -/
  | asked (radioPower : Bool)
  /-- after `done:` -/
  | done (radioPower : Bool)
  /-- getSIMStatus has returned to requestRadioPower. -/
  | returned
  /-- requestRadioPower has found the SIM busy. -/
  | foundBusy
  /-- in pthread_cond_timedwait -/
  | waits
  deriving DecidableEq

structure State where
  s_radioState : RIL_RadioState
  s_sim_busy : Bool
  /-- The calls of getSIMStatusAgainForSimBusy whose timer runs. -/
  scheduled : Nat
  /-- Those that have begun and have not looked at the radio state. -/
  begun : Nat
  /-- Those that have sent AT+CPIN?. -/
  asked : Nat
  /-- Those that have found the SIM busy, and will lower the flag and signal. -/
  lowering : Nat
  /-- onModemReset_Sim has found the SIM busy. -/
  resetting : Bool
  /-- The owner of s_simStatusMutex. -/
  s_simStatusMutex : Option Nat
  threads : Nat → ThreadPc
  /-- The threads that wait on s_sim_busy_cond. -/
  waiting : List Nat

/-- The callbacks that are scheduled or running. -/
def State.polls (s : State) : Nat := s.scheduled + s.begun + s.asked + s.lowering

def State.goto (s : State) (t : Nat) (pc : ThreadPc) : State := { s with threads := Function.update s.threads t pc }

/-- The flag is lowered, and pthread_cond_signal wakes a thread if one waits. -/
def State.signal (s : State) (woken : Nat) : State :=
  if woken ∈ s.waiting then
    { s.goto woken .idle with s_sim_busy := false, waiting := s.waiting.erase woken }
  else { s with s_sim_busy := false }

/-- pthread_cond_signal can wake this thread. -/
def State.mayWake (s : State) (woken : Nat) : Bool := s.waiting.isEmpty || s.waiting.contains woken

inductive Label
  | setRadioState (newState : RIL_RadioState)
  /-- A call of getSIMStatus. -/
  | getSIMStatus (t : Nat)
  /-- requestRadioPower, to turn the radio on. -/
  | requestRadioPower (t : Nat)
  | lock (t : Nat)
  | answered (t : Nat) (answer : Answer)
  | unlock (t : Nat)
  /-- requestRadioPower looks at the flag. -/
  | looks (t : Nat)
  | pthread_cond_timedwait (t : Nat)
  /-- The wait ends without a signal. -/
  | timesOut (t : Nat)
  /-- The timer calls getSIMStatusAgainForSimBusy. -/
  | fires
  /-- The callback looks at the radio state. -/
  | asks
  | pollAnswered (answer : Answer)
  | pollSignals (woken : Nat)
  /-- onModemReset_Sim looks at the flag. -/
  | onModemReset_Sim
  | resetSignals (woken : Nat)

/-- The answer in getSIMStatus: at a busy SIM the flag is raised and the timer armed, if the flag was down. -/
def simStatusAnswered (s : State) (answer : Answer) : State :=
  if answer.err ≠ 0 then s
  else if at_get_cme_error answer.p_response = CME_SIM_BUSY then
    if s.s_sim_busy then s else { s with s_sim_busy := true, scheduled := s.scheduled + 1 }
  else s

/-- The answer in getSIMStatusAgainForSimBusy. -/
def againAnswered (s : State) (answer : Answer) : State :=
  if answer.err ≠ 0 then { s with asked := s.asked - 1 }
  else if at_get_cme_error answer.p_response = CME_SIM_BUSY then
    { s with asked := s.asked - 1, scheduled := s.scheduled + 1 }
  else if s.s_sim_busy then { s with asked := s.asked - 1, lowering := s.lowering + 1 }
  else { s with asked := s.asked - 1 }

def step (s : State) : Label → Option State
  | .setRadioState newState => some { s with s_radioState := newState }
  | .getSIMStatus t => if s.threads t = .idle then some (s.goto t (.getSIMStatus false)) else none
  | .requestRadioPower t =>
    if s.threads t = .idle ∧ s.s_radioState = .RADIO_STATE_OFF then some (s.goto t (.getSIMStatus true)) else none
  | .lock t =>
    match s.threads t, s.s_simStatusMutex with
    | .getSIMStatus radioPower, none =>
      if s.s_radioState = .RADIO_STATE_UNAVAILABLE then
        some { s.goto t (.done radioPower) with s_simStatusMutex := some t }
      else some { s.goto t (.asked radioPower) with s_simStatusMutex := some t }
    | _, _ => none
  | .answered t answer =>
    match s.threads t with
    | .asked radioPower => some ((simStatusAnswered s answer).goto t (.done radioPower))
    | _ => none
  | .unlock t =>
    match s.threads t with
    | .done radioPower =>
      some { s.goto t (if radioPower then .returned else .idle) with s_simStatusMutex := none }
    | _ => none
  | .looks t =>
    if s.threads t = .returned then some (s.goto t (if s.s_sim_busy then .foundBusy else .idle)) else none
  | .pthread_cond_timedwait t =>
    if s.threads t = .foundBusy then some { s.goto t .waits with waiting := t :: s.waiting } else none
  | .timesOut t =>
    if t ∈ s.waiting then some { s.goto t .idle with waiting := s.waiting.erase t } else none
  | .fires => if s.scheduled = 0 then none else some { s with scheduled := s.scheduled - 1, begun := s.begun + 1 }
  | .asks =>
    if s.begun = 0 then none
    else if s.s_radioState = .RADIO_STATE_UNAVAILABLE then some { s with begun := s.begun - 1 }
    else some { s with begun := s.begun - 1, asked := s.asked + 1 }
  | .pollAnswered answer => if s.asked = 0 then none else some (againAnswered s answer)
  | .pollSignals woken =>
    if s.lowering ≠ 0 ∧ s.mayWake woken then some { s.signal woken with lowering := s.lowering - 1 } else none
  | .onModemReset_Sim => if s.resetting then none else some { s with resetting := s.s_sim_busy }
  | .resetSignals woken =>
    if s.resetting ∧ s.mayWake woken then some { s.signal woken with resetting := false } else none

def State.start (s_radioState : RIL_RadioState) : State where
  s_radioState
  s_sim_busy := false
  scheduled := 0
  begun := 0
  asked := 0
  lowering := 0
  resetting := false
  s_simStatusMutex := none
  threads _ := .idle
  waiting := []

/-! ## Runs -/

/-- Somebody will find the flag up, or has found it up and is going to signal. -/
def State.signalDue (s : State) : Prop := s.s_sim_busy = true ∨ s.lowering ≠ 0 ∨ s.resetting = true

/-- While the flag is up a callback is scheduled or running, and while requestRadioPower waits a signal is due. -/
structure Polled (s : State) : Prop where
  busy : s.s_sim_busy = true → s.polls ≠ 0
  waiting : s.waiting ≠ [] → s.signalDue

/-- The last callback does not return with the flag up, and no wait begins or goes on after the last signal. -/
def Kept (s : State) : Label → Prop
  | .asks =>
    s.begun ≠ 0 → s.s_radioState = .RADIO_STATE_UNAVAILABLE → s.s_sim_busy = true → s.polls ≠ 1
  | .pollAnswered answer => s.asked ≠ 0 → answer.err ≠ 0 → s.s_sim_busy = true → s.polls ≠ 1
  | .pthread_cond_timedwait t => s.threads t = .foundBusy → s.signalDue
  | .pollSignals woken =>
    s.lowering ≠ 0 → s.mayWake woken = true → s.lowering ≠ 1 ∨ s.resetting = true ∨ s.waiting.erase woken = []
  | .resetSignals woken =>
    s.resetting = true → s.mayWake woken = true → s.lowering ≠ 0 ∨ s.waiting.erase woken = []
  | _ => True

/-! ## Steps keep it -/

variable {s s' : State}

@[simp] theorem goto_signalDue (t : Nat) (pc : ThreadPc) : (s.goto t pc).signalDue ↔ s.signalDue := Iff.rfl

@[simp] theorem signal_s_sim_busy (woken : Nat) : (s.signal woken).s_sim_busy = false := by
  unfold State.signal
  split <;> rfl

@[simp] theorem signal_waiting (woken : Nat) : (s.signal woken).waiting = s.waiting.erase woken := by
  unfold State.signal
  split
  · rfl
  · rename_i hnot
    exact (List.erase_of_not_mem hnot).symm

@[simp] theorem signal_lowering (woken : Nat) : (s.signal woken).lowering = s.lowering := by
  unfold State.signal
  split <;> rfl

@[simp] theorem signal_resetting (woken : Nat) : (s.signal woken).resetting = s.resetting := by
  unfold State.signal
  split <;> rfl

/-- A signal goes to a thread that waits, so that a second one goes on waiting. -/
theorem waiting_of_erase {woken : Nat} (h : s.waiting.erase woken ≠ []) : s.waiting ≠ [] := by
  intro hnil
  rw [hnil] at h
  exact h rfl

theorem polled_start (s_radioState : RIL_RadioState) : Polled (State.start s_radioState) :=
  ⟨fun h => absurd h Bool.false_ne_true, fun h => absurd rfl h⟩

theorem polled_simStatusAnswered (answer : Answer) (h : Polled s) : Polled (simStatusAnswered s answer) := by
  unfold simStatusAnswered
  split
  · exact h
  · split
    · split
      · exact h
      · refine ⟨fun _ => ?_, fun _ => Or.inl rfl⟩
        simp only [State.polls]
        omega
    · exact h

theorem polled_againAnswered (answer : Answer) (h : Polled s)
    (hkept : answer.err ≠ 0 → s.s_sim_busy = true → s.polls ≠ 1) : Polled (againAnswered s answer) := by
  unfold againAnswered
  split
  · rename_i herr
    refine ⟨fun hbusy => ?_, h.waiting⟩
    have hone := hkept herr hbusy
    have hsome := h.busy hbusy
    simp only [State.polls] at hone hsome ⊢
    omega
  · split
    · refine ⟨fun hbusy => ?_, h.waiting⟩
      simp only [State.polls]
      omega
    · split
      · rename_i hbusy
        refine ⟨fun _ => ?_, fun _ => Or.inl hbusy⟩
        simp only [State.polls]
        omega
      · rename_i hidle
        exact ⟨fun hbusy => absurd hbusy hidle, h.waiting⟩

theorem polled_asks (h : Polled s) (hkept : Kept s .asks) (hstep : step s .asks = some s') : Polled s' := by
  obtain ⟨hbegun, hstep⟩ := Option.ite_none_left_eq_some.1 hstep
  split at hstep
  · rename_i hunavailable
    obtain rfl := Option.some.inj hstep
    refine ⟨fun hbusy => ?_, h.waiting⟩
    have hone := hkept hbegun hunavailable hbusy
    have hsome := h.busy hbusy
    simp only [State.polls] at hone hsome ⊢
    omega
  · obtain rfl := Option.some.inj hstep
    refine ⟨fun hbusy => ?_, h.waiting⟩
    have hsome := h.busy hbusy
    simp only [State.polls] at hsome ⊢
    omega

theorem polled_pollSignals {woken : Nat} (hkept : Kept s (.pollSignals woken))
    (hstep : step s (.pollSignals woken) = some s') : Polled s' := by
  obtain ⟨⟨hlowering, hwake⟩, heq⟩ := Option.ite_none_right_eq_some.1 hstep
  obtain rfl := Option.some.inj heq
  refine ⟨fun hbusy => ?_, fun hwaiting => ?_⟩
  · simp at hbusy
  · simp only [signal_waiting] at hwaiting
    obtain hmore | hreset | hnone := hkept hlowering hwake
    · right
      left
      show s.lowering - 1 ≠ 0
      omega
    · right
      right
      simpa using hreset
    · exact absurd hnone hwaiting

theorem polled_resetSignals {woken : Nat} (hkept : Kept s (.resetSignals woken))
    (hstep : step s (.resetSignals woken) = some s') : Polled s' := by
  obtain ⟨⟨hresetting, hwake⟩, heq⟩ := Option.ite_none_right_eq_some.1 hstep
  obtain rfl := Option.some.inj heq
  refine ⟨fun hbusy => ?_, fun hwaiting => ?_⟩
  · simp at hbusy
  · simp only [signal_waiting] at hwaiting
    obtain hmore | hnone := hkept hresetting hwake
    · right
      left
      simpa using hmore
    · exact absurd hnone hwaiting

theorem polled_step {a : Label} (h : Polled s) (hkept : Kept s a) (hstep : step s a = some s') : Polled s' := by
  cases a with
  | setRadioState newState =>
    cases hstep
    exact ⟨h.busy, h.waiting⟩
  | getSIMStatus t =>
    obtain ⟨-, heq⟩ := Option.ite_none_right_eq_some.1 hstep
    obtain rfl := Option.some.inj heq
    exact ⟨h.busy, h.waiting⟩
  | requestRadioPower t =>
    obtain ⟨-, heq⟩ := Option.ite_none_right_eq_some.1 hstep
    obtain rfl := Option.some.inj heq
    exact ⟨h.busy, h.waiting⟩
  | lock t =>
    simp only [step] at hstep
    split at hstep
    · split at hstep
      · cases hstep
        exact ⟨h.busy, h.waiting⟩
      · cases hstep
        exact ⟨h.busy, h.waiting⟩
    · cases hstep
  | answered t answer =>
    simp only [step] at hstep
    split at hstep
    · cases hstep
      have hanswered := polled_simStatusAnswered answer h
      exact ⟨hanswered.busy, hanswered.waiting⟩
    · cases hstep
  | unlock t =>
    simp only [step] at hstep
    split at hstep
    · cases hstep
      exact ⟨h.busy, h.waiting⟩
    · cases hstep
  | looks t =>
    obtain ⟨-, heq⟩ := Option.ite_none_right_eq_some.1 hstep
    obtain rfl := Option.some.inj heq
    exact ⟨h.busy, h.waiting⟩
  | pthread_cond_timedwait t =>
    obtain ⟨hfound, heq⟩ := Option.ite_none_right_eq_some.1 hstep
    obtain rfl := Option.some.inj heq
    exact ⟨h.busy, fun _ => hkept hfound⟩
  | timesOut t =>
    obtain ⟨-, heq⟩ := Option.ite_none_right_eq_some.1 hstep
    obtain rfl := Option.some.inj heq
    exact ⟨h.busy, fun hwaiting => h.waiting (waiting_of_erase hwaiting)⟩
  | fires =>
    obtain ⟨hscheduled, heq⟩ := Option.ite_none_left_eq_some.1 hstep
    obtain rfl := Option.some.inj heq
    refine ⟨fun _ => ?_, h.waiting⟩
    simp only [State.polls]
    omega
  | asks => exact polled_asks h hkept hstep
  | pollAnswered answer =>
    obtain ⟨hasked, heq⟩ := Option.ite_none_left_eq_some.1 hstep
    obtain rfl := Option.some.inj heq
    exact polled_againAnswered answer h (hkept hasked)
  | pollSignals woken => exact polled_pollSignals hkept hstep
  | onModemReset_Sim =>
    obtain ⟨hresetting, heq⟩ := Option.ite_none_left_eq_some.1 hstep
    obtain rfl := Option.some.inj heq
    refine ⟨h.busy, fun hwaiting => ?_⟩
    obtain hbusy | hlowering | hreset := h.waiting hwaiting
    · exact Or.inl hbusy
    · exact Or.inr (Or.inl hlowering)
    · exact absurd hreset hresetting
  | resetSignals woken => exact polled_resetSignals hkept hstep

/-! ## Steps that lose the last poll or the last signal -/

/-- The last callback returns with the flag up. -/
theorem lost_of_asks (hkept : ¬ Kept s .asks) : ∃ s', step s .asks = some s' ∧ ¬ Polled s' := by
  simp only [Kept, not_forall, Decidable.not_not] at hkept
  obtain ⟨hbegun, hunavailable, hbusy, hone⟩ := hkept
  refine ⟨_, (if_neg hbegun).trans (if_pos hunavailable), fun h => h.busy hbusy ?_⟩
  simp only [State.polls] at hone ⊢
  omega

theorem lost_of_pollAnswered {answer : Answer} (hkept : ¬ Kept s (.pollAnswered answer)) :
    ∃ s', step s (.pollAnswered answer) = some s' ∧ ¬ Polled s' := by
  simp only [Kept, not_forall, Decidable.not_not] at hkept
  obtain ⟨hasked, herr, hbusy, hone⟩ := hkept
  refine ⟨_, if_neg hasked, fun h => ?_⟩
  rw [againAnswered, if_pos herr] at h
  refine h.busy hbusy ?_
  simp only [State.polls] at hone ⊢
  omega

/-- The signal came between the look at the flag and the wait. -/
theorem lost_of_timedwait {t : Nat} (hkept : ¬ Kept s (.pthread_cond_timedwait t)) :
    ∃ s', step s (.pthread_cond_timedwait t) = some s' ∧ ¬ Polled s' := by
  simp only [Kept, not_forall] at hkept
  obtain ⟨hfound, hnone⟩ := hkept
  exact ⟨_, if_pos hfound, fun h => hnone (h.waiting (List.cons_ne_nil t s.waiting))⟩

/-- One thread is woken, and another goes on waiting. -/
theorem lost_of_pollSignals {woken : Nat} (hkept : ¬ Kept s (.pollSignals woken)) :
    ∃ s', step s (.pollSignals woken) = some s' ∧ ¬ Polled s' := by
  simp only [Kept, not_forall, not_or, Decidable.not_not] at hkept
  obtain ⟨hlowering, hwake, hone, hreset, hwaiting⟩ := hkept
  refine ⟨_, if_pos ⟨hlowering, hwake⟩, fun h => ?_⟩
  have hdue := h.waiting (by simpa using hwaiting)
  simp only [State.signalDue, signal_s_sim_busy, signal_resetting, hone] at hdue
  simp [hreset] at hdue

theorem lost_of_resetSignals {woken : Nat} (hkept : ¬ Kept s (.resetSignals woken)) :
    ∃ s', step s (.resetSignals woken) = some s' ∧ ¬ Polled s' := by
  simp only [Kept, not_forall, not_or, Decidable.not_not] at hkept
  obtain ⟨hresetting, hwake, hnone, hwaiting⟩ := hkept
  refine ⟨_, if_pos ⟨hresetting, hwake⟩, fun h => ?_⟩
  have hdue := h.waiting (by simpa using hwaiting)
  simp [State.signalDue, hnone] at hdue

/-- **A busy SIM is polled.** Throughout a run of the SIMs a callback is scheduled or running for every busy one
and a signal is due to whoever waits, exactly when the last callback of a SIM never finds the radio unavailable
or gets no answer while the flag is up, no wait begins after the last signal, and no second thread waits at it. -/
theorem polled_iff_kept (s_radioState : Nat → RIL_RadioState) (labels : List (Nat × Label)) :
    Always (stepAt fun _ => step) (fun s => ∀ socket_id, Polled (s socket_id)) (fun i => State.start (s_radioState i))
        labels ↔
      Steps (stepAt fun _ => step) (fun s a => Kept (s a.1) a.2) (fun i => State.start (s_radioState i)) labels := by
  refine always_stepAt_iff (fun _ _ _ _ => polled_step) (fun _ s a hkept => ?_) (fun i => polled_start _) labels
  cases a with
  | asks => exact lost_of_asks hkept
  | pollAnswered answer => exact lost_of_pollAnswered hkept
  | pthread_cond_timedwait t => exact lost_of_timedwait hkept
  | pollSignals woken => exact lost_of_pollSignals hkept
  | resetSignals woken => exact lost_of_resetSignals hkept
  | setRadioState newState => exact absurd trivial hkept
  | getSIMStatus t => exact absurd trivial hkept
  | requestRadioPower t => exact absurd trivial hkept
  | lock t => exact absurd trivial hkept
  | answered t answer => exact absurd trivial hkept
  | unlock t => exact absurd trivial hkept
  | looks t => exact absurd trivial hkept
  | timesOut t => exact absurd trivial hkept
  | fires => exact absurd trivial hkept
  | onModemReset_Sim => exact absurd trivial hkept

/-- `+CME ERROR: 14` -/
def simBusy : Answer where
  err := 0
  p_response := { success := false, finalResponse := some (ascii "+CME ERROR: 14"), p_intermediates := [] }

/-- AT_ERROR_TIMEOUT -/
def timeout : Answer := { err := -4, p_response := at_response_new }

/-- AT+CPIN? of the poll times out, and nothing is scheduled any more. -/
theorem polled_fails_timeout :
    ¬ ∀ (s_radioState : Nat → RIL_RadioState) (labels : List (Nat × Label)) (s : Nat → State),
      run (stepAt fun _ => step) (fun i => State.start (s_radioState i)) labels = some s →
        ∀ socket_id, (s socket_id).s_sim_busy = true → (s socket_id).polls ≠ 0 := by
  intro h
  have hrun : ∃ s, run (stepAt fun _ => step) (fun _ => State.start .RADIO_STATE_OFF) [(0, .getSIMStatus 1),
      (0, .lock 1), (0, .answered 1 simBusy), (0, .unlock 1), (0, .fires), (0, .asks), (0, .pollAnswered timeout)] =
        some s ∧ (s 0).s_sim_busy = true ∧ (s 0).polls = 0 := by
    refine ⟨_, rfl, ?_, ?_⟩
    · decide
    · decide
  obtain ⟨s, hrun, hbusy, hnone⟩ := hrun
  exact h _ _ s hrun 0 hbusy hnone

end UniRil.Sim.BusyPoll
