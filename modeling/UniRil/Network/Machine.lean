import UniRil.Lib.Runs
import UniRil.Network.Code

/-!
# Requests, URCs and timers together

Any number of requests run as threads, one action at a time. The entries that addAsyncCmdList leaves are
ended by a URC or by the handler thread, which first takes an expired entry out of `s_timerList` and
fires it later.
-/

namespace UniRil.Network

open Programs Runs
open Data (RIL_SOCKET_ID)

/-- An entry for "+SPTESTMODE:". -/
structure Entry where
  socket_id : RIL_SOCKET_ID
  token : RIL_Token
  data : Option RIL_RadioCapability
  deriving DecidableEq

/-- What happens, with the request on whose behalf. -/
inductive Event
  | lockRadioPower (t : RIL_Token)
  | unlockRadioPower (t : RIL_Token)
  | RIL_onRequestComplete (t : RIL_Token) (e : RIL_Errno) (response : Option RIL_RadioCapability)
  | callApply (t : RIL_Token) (lte : Bool)
  | answer (t : RIL_Token) (cmd : List Byte) (a : Answer)
  | send (simId : RIL_SOCKET_ID) (cmd : List Byte)
  | voiceNetworkStateChanged (socket_id : RIL_SOCKET_ID)
  | unsolRadioCapability (socket_id : RIL_SOCKET_ID) (session : Int)
  deriving DecidableEq

/-- What a thread is told from outside at an action. -/
structure Env where
  query : Query → Bool
  answer : Answer

structure State where
  globals : Globals
  /-- Both mutexes of `s_radioPowerMutex` are locked. -/
  radioPower : Bool
  /-- `s_workModeMutex` is locked. -/
  workMode : Bool
  s_timerList : List Entry
  s_pendingList : List Entry
  /-- The rest of a request that was made. -/
  threads : RIL_Token → Option (NetProg Unit)
  log : List Event

def State.record (s : State) (e : Event) : State := { s with log := s.log ++ [e] }

/-- An action of request `t`; `none` while it must wait. -/
def execute (t : RIL_Token) (env : Env) (s : State) : (a : Act) → Option (a.Reply × State)
  | .get => some (s.globals, s)
  | .modify f => some ((), { s with globals := f s.globals })
  | .test q => some (env.query q, s)
  | .lockRadioPower => if s.radioPower then none else some ((), { s with radioPower := true }.record (.lockRadioPower t))
  | .unlockRadioPower => some ((), { s with radioPower := false }.record (.unlockRadioPower t))
  | .lockWorkMode => if s.workMode then none else some ((), { s with workMode := true })
  | .unlockWorkMode => some ((), { s with workMode := false })
  | .send simId cmd => some ((), s.record (.send simId cmd))
  | .ask _ cmd => some (env.answer, s.record (.answer t cmd env.answer))
  | .addAsyncCmdList socket_id t data =>
    some ((), { s with s_timerList := s.s_timerList ++ [{ socket_id := socket_id, token := t, data := data }] })
  | .removeAsyncCmdList t => some ((), { s with s_timerList := s.s_timerList.eraseP (·.token = t) })
  | .RIL_onRequestComplete t e response => some ((), s.record (.RIL_onRequestComplete t e response))
  | .voiceNetworkStateChanged socket_id => some ((), s.record (.voiceNetworkStateChanged socket_id))
  | .unsolRadioCapability socket_id session => some ((), s.record (.unsolRadioCapability socket_id session))
  | .callApply lte => some ((), s.record (.callApply t lte))

/-- sendUnsolRadioCapability on the thread of the URC. -/
def State.unsolRadioCapability (s : State) : State :=
  let g := s.globals
  { s with
    globals := { g with s_sessionId := fun _ => 0 }
    log := s.log ++ [.unsolRadioCapability g.s_multiModeSim (g.s_sessionId g.s_multiModeSim),
      .unsolRadioCapability (otherSim g.s_multiModeSim) (g.s_sessionId (otherSim g.s_multiModeSim))] }

def dispatchSPTESTMODE (t : RIL_Token) (data : Option RIL_RadioCapability) (status : Int) (s : State) : State :=
  let s := { s with radioPower := false }.record (.unlockRadioPower t)
  if status = 1 then
    let s := s.record (.RIL_onRequestComplete t .RIL_E_SUCCESS data)
    if data.isSome then s.unsolRadioCapability else s
  else s.record (.RIL_onRequestComplete t .RIL_E_GENERIC_FAILURE data)

def userTimerCallback (t : RIL_Token) (s : State) : State :=
  ({ s with radioPower := false }.record (.unlockRadioPower t)).record
    (.RIL_onRequestComplete t .RIL_E_GENERIC_FAILURE none)

inductive Label
  /-- A request comes, on a thread of its own. -/
  | request (socket_id : RIL_SOCKET_ID) (t : RIL_Token) (r : Request)
  | thread (t : RIL_Token) (env : Env)
  /-- `+SPTESTMODE:` with this status. -/
  | urc (socket_id : RIL_SOCKET_ID) (status : Int)
  /-- processTimeouts moves the first entry. -/
  | expire
  /-- firePending calls the function of its first entry. -/
  | fire

def step (cfg : Config) (s : State) : Label → Option State
  | .request socket_id t r =>
    match s.threads t with
    | none => some { s with threads := Function.update s.threads t (some (processNetworkRequests cfg socket_id t r)) }
    | some _ => none
  | .thread t env =>
    match s.threads t with
    | some (.act a rest) =>
      (execute t env s a).map fun r => { r.2 with threads := Function.update r.2.threads t (some (rest r.1)) }
    | _ => none
  | .urc socket_id status =>
    match s.s_timerList.find? (·.socket_id = socket_id) with
    | some e =>
      some (dispatchSPTESTMODE e.token e.data status
        { s with s_timerList := s.s_timerList.eraseP (·.socket_id = socket_id) })
    | none => some s
  | .expire =>
    match s.s_timerList with
    | e :: rest => some { s with s_timerList := rest, s_pendingList := s.s_pendingList ++ [e] }
    | [] => none
  | .fire =>
    match s.s_pendingList with
    | e :: rest => some (userTimerCallback e.token { s with s_pendingList := rest })
    | [] => none

/-- No request has been made yet. -/
def State.start (g : Globals) : State where
  globals := g
  radioPower := false
  workMode := false
  s_timerList := []
  s_pendingList := []
  threads := fun _ => none
  log := []

/-- Every request is over: its function has returned and no entry waits. -/
structure State.Quiet (s : State) : Prop where
  timerList : s.s_timerList = []
  pendingList : s.s_pendingList = []
  threads : ∀ t p, s.threads t = some p → p = .ret ()

/-! ## Threads -/

variable {cfg : Config} {s s' : State} {env : Env} {t u : RIL_Token}

theorem execute_threads {a : Act} {r : a.Reply} (hexec : execute u env s a = some (r, s')) : s'.threads = s.threads := by
  cases a with
  | lockRadioPower | lockWorkMode =>
    obtain ⟨-, heq⟩ := Option.ite_none_left_eq_some.1 hexec
    cases heq
    rfl
  | _ =>
    cases hexec
    rfl

theorem threads_dispatch (data : Option RIL_RadioCapability) (status : Int) (s : State) :
    (dispatchSPTESTMODE u data status s).threads = s.threads := by
  unfold dispatchSPTESTMODE
  dsimp only
  split
  · split
    · rfl
    · rfl
  · rfl

def Label.requested : Label → Option RIL_Token
  | .request _ t _ => some t
  | _ => none

/-- Only requests that were made have threads. -/
theorem threads_step {a : Label} (hstep : step cfg s a = some s') (h : (s'.threads t).isSome = true) :
    (s.threads t).isSome = true ∨ a.requested = some t := by
  cases a with
  | request socket_id u r =>
    cases hprog : s.threads u with
    | none =>
      simp only [step, hprog] at hstep
      cases hstep
      by_cases hut : u = t
      · exact Or.inr (congrArg some hut)
      · left
        simpa [Function.update_of_ne (Ne.symm hut)] using h
    | some p => simp only [step, hprog, reduceCtorEq] at hstep
  | thread u env =>
    cases hprog : s.threads u with
    | none => simp only [step, hprog, reduceCtorEq] at hstep
    | some p =>
      cases p with
      | ret value => simp only [step, hprog, reduceCtorEq] at hstep
      | act a rest =>
        simp only [step, hprog, Option.map_eq_some_iff] at hstep
        obtain ⟨⟨r, m⟩, hexec, rfl⟩ := hstep
        left
        by_cases hut : u = t
        · rw [← hut, hprog]
          rfl
        · simpa [Function.update_of_ne (Ne.symm hut), execute_threads hexec] using h
  | urc socket_id status =>
    left
    cases hfind : s.s_timerList.find? (·.socket_id = socket_id) with
    | none =>
      simp only [step, hfind] at hstep
      cases hstep
      exact h
    | some e =>
      simp only [step, hfind] at hstep
      cases hstep
      rwa [threads_dispatch] at h
  | expire =>
    left
    cases hlist : s.s_timerList with
    | nil => simp only [step, hlist, reduceCtorEq] at hstep
    | cons e rest =>
      simp only [step, hlist] at hstep
      cases hstep
      exact h
  | fire =>
    left
    cases hlist : s.s_pendingList with
    | nil => simp only [step, hlist, reduceCtorEq] at hstep
    | cons e rest =>
      simp only [step, hlist] at hstep
      cases hstep
      exact h

theorem threads_run {g : Globals} {labels : List Label} (hrun : run (step cfg) (State.start g) labels = some s)
    (h : (s.threads t).isSome = true) : t ∈ labels.filterMap Label.requested := by
  refine history_invariant (H := fun labels s => ∀ t, (s.threads t).isSome = true → t ∈ labels.filterMap Label.requested)
    (fun t ht => ?_) (fun labels s a s' ih hstep t ht => ?_) hrun t h
  · cases ht
  · rw [List.filterMap_append, List.mem_append]
    obtain hbefore | hnew := threads_step hstep ht
    · exact Or.inl (ih t hbefore)
    · exact Or.inr (by simp [hnew])

/-- The function of the request has returned, if it was made. -/
def finished : Option (NetProg Unit) → Bool
  | some (.act _ _) => false
  | _ => true

def State.over (s : State) (labels : List Label) : Bool :=
  s.s_timerList.isEmpty && s.s_pendingList.isEmpty &&
    (labels.filterMap Label.requested).all fun t => finished (s.threads t)

theorem quiet_of_over {g : Globals} {labels : List Label} (hrun : run (step cfg) (State.start g) labels = some s)
    (h : s.over labels = true) : s.Quiet := by
  simp only [State.over, Bool.and_eq_true, List.isEmpty_iff, List.all_eq_true] at h
  obtain ⟨⟨htimer, hpending⟩, hthreads⟩ := h
  refine ⟨htimer, hpending, fun t p hp => ?_⟩
  have hfinished := hthreads t (threads_run hrun (by rw [hp]; rfl))
  rw [hp] at hfinished
  cases p with
  | ret value => rfl
  | act a rest => cases hfinished

end UniRil.Network
