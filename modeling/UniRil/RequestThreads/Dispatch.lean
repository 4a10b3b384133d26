import UniRil.RequestThreads.Progress

/-!
# Request dispatch loses nothing

The stations run independently, so what holds of one station holds of each in every interleaving.
-/

namespace UniRil.RequestThreads

open Runs

variable {cfg : Config}

/-- The requests of a class that the calls of a run gave to a thread, in the order of their insertion. -/
def calls (cfg : Config) (d : Dispatcher) (cmdType : ATCmdType) (as : List Act) : List RequestInfo :=
  as.filterMap fun
    | .enqueueRequest r =>
      if dispatcherOf r.socket_id (getCmdType cfg r.request) = d ∧ getCmdType cfg r.request = cmdType then some r
      else none
    | .move _ _ => none

/-- The steps of the threads themselves: no new call, no spurious wake-up, no failing pool. -/
def Act.progress : Act → Bool
  | .enqueueRequest _ => false
  | .move _ m => m.progress

/-- When a step starts a sim-list request, the call list of that thread is empty. -/
def SimAfterCall (cfg : Config) (s : Dispatcher → Station) (a : Act) : Prop :=
  ∀ s', step cfg s a = some s' → ∀ d r, (s' d).pc = .execute .NORMAL_SLOW r →
    (s d).pc = .execute .NORMAL_SLOW r ∨ (s d).lists .NORMAL_FAST = []

theorem run_step_eq (s : Dispatcher → Station) (as : List Act) :
    run (step cfg) s as = run (stepAt fun d => stationStep d.served) s (as.map (Act.at cfg)) :=
  @run_map _ _ (stepAt fun d : Dispatcher => stationStep d.served) _ (Act.at cfg) s as

/-- A run of the whole system is a run of every station. -/
theorem run_station {s s' : Dispatcher → Station} {as : List Act} (hrun : run (step cfg) s as = some s')
    (d : Dispatcher) :
    run (stationStep d.served) (s d) (component d (as.map (Act.at cfg))) = some (s' d) := by
  rw [run_step_eq] at hrun
  exact run_component hrun d

theorem enqueuedIn_enqueue (c c' : ATCmdType) (r : RequestInfo) (as : List StationAct) :
    enqueuedIn c (.enqueue c' r :: as) = if c' = c then r :: enqueuedIn c as else enqueuedIn c as := by
  by_cases h : c' = c <;> simp [enqueuedIn, h]

theorem calls_enqueueRequest (d : Dispatcher) (c : ATCmdType) (r : RequestInfo) (as : List Act) :
    calls cfg d c (.enqueueRequest r :: as) =
      if dispatcherOf r.socket_id (getCmdType cfg r.request) = d ∧ getCmdType cfg r.request = c then
        r :: calls cfg d c as
      else calls cfg d c as := by
  by_cases h : dispatcherOf r.socket_id (getCmdType cfg r.request) = d ∧ getCmdType cfg r.request = c
  · simp only [calls, List.filterMap_cons, if_pos h]
  · simp only [calls, List.filterMap_cons, if_neg h]

theorem enqueuedIn_component (d : Dispatcher) (c : ATCmdType) (as : List Act) :
    enqueuedIn c (component d (as.map (Act.at cfg))) = calls cfg d c as := by
  induction as with
  | nil => rfl
  | cons a as ih =>
    rw [List.map_cons]
    cases a with
    | enqueueRequest r =>
      rw [calls_enqueueRequest, Act.at, component_cons]
      by_cases hd : dispatcherOf r.socket_id (getCmdType cfg r.request) = d
      · rw [if_pos hd, enqueuedIn_enqueue, ih]
        simp [hd]
      · rw [if_neg hd, if_neg fun h => hd h.1, ih]
    | move d' m =>
      have hcalls : calls cfg d c (.move d' m :: as) = calls cfg d c as := rfl
      rw [hcalls, Act.at, component_cons, ← ih]
      split <;> rfl

theorem pickList_sim {lists : ATCmdType → List RequestInfo} {d : Dispatcher}
    (h : pickList lists d.served = some .NORMAL_SLOW) : lists .NORMAL_FAST = [] := by
  cases d with
  | normalDispatch socket_id =>
    by_contra hne
    simp [pickList, Dispatcher.served, hne] at h
  | _ => simp [pickList, Dispatcher.served] at h

theorem sim_after_call_station {d : Dispatcher} {st st' : Station} {a : StationAct}
    (hs : stationStep d.served st a = some st') {r : RequestInfo} (hpc : st'.pc = .execute .NORMAL_SLOW r) :
    st.pc = .execute .NORMAL_SLOW r ∨ st.lists .NORMAL_FAST = [] := by
  cases a with
  | enqueue c r' =>
    simp only [stationStep, Option.ite_none_right_eq_some, Option.some.injEq] at hs
    obtain ⟨-, rfl⟩ := hs
    exact Or.inl hpc
  | move m =>
    cases m with
    | dispatch =>
      cases dispatch_cases hs with
      | pick _ hpick hc =>
        simp only [Pc.execute.injEq] at hpc
        obtain ⟨rfl, -⟩ := hpc
        exact Or.inr (pickList_sim hpick)
      | _ => simp at hpc
    | caller i =>
      cases callerStep_cases hs with
      | wake hc hblocked => simp at hpc
      | _ => exact Or.inl hpc
    | spurious =>
      simp only [stationStep] at hs
      split at hs
      · obtain rfl := Option.some.inj hs
        simp at hpc
      · simp at hs
    | refused =>
      simp only [stationStep] at hs
      split at hs
      · obtain rfl := Option.some.inj hs
        exact Or.inl hpc
      · simp at hs

theorem sim_after_call (s : Dispatcher → Station) (a : Act) : SimAfterCall cfg s a := by
  intro s' hs d r hpc
  obtain ⟨st, hst, rfl⟩ := Option.map_eq_some_iff.1 hs
  by_cases hd : d = (a.at cfg).1
  · subst hd
    rw [Function.update_self] at hpc
    exact sim_after_call_station hst hpc
  · rw [Function.update_of_ne hd] at hpc
    exact Or.inl hpc

theorem progress_component {bs : List Act} (hbs : ∀ b ∈ bs, b.progress = true) (d : Dispatcher) :
    ∀ a ∈ component d (bs.map (Act.at cfg)), ∃ m, a = .move m ∧ m.progress = true := by
  intro a ha
  obtain ⟨b, hb, hat⟩ := List.mem_map.1 (mem_component.1 ha)
  have hprog := hbs b hb
  cases b with
  | enqueueRequest r => simp [Act.progress] at hprog
  | move d' m => exact ⟨m, (congrArg Prod.snd hat).symm, hprog⟩

/-- The steps of a station without new calls are bounded. -/
theorem station_steps_le {st st' : Station} {served : List ATCmdType} (h : Inv served st) {as : List StationAct}
    (has : ∀ a ∈ as, ∃ m, a = .move m ∧ m.progress = true) (hrun : run (stationStep served) st as = some st') :
    as.length ≤ st.measure served := by
  have hC : ∀ (st : Station) (as : List StationAct), (∀ a ∈ as, ∃ m, a = .move m ∧ m.progress = true) →
      Steps (stationStep served) (fun _ a => ∃ m, a = .move m ∧ m.progress = true) st as := by
    intro st as has
    induction as generalizing st with
    | nil => trivial
    | cons a as ih => exact ⟨has a (by simp), fun m _ => ih m fun a ha => has a (by simp [ha])⟩
  have hle := length_le_measure (I := Inv served) (μ := Station.measure served) (fun _ _ _ hI _ hs => inv_step hI hs)
    (fun _ _ _ hI hC hs => by
      obtain ⟨m, rfl, hm⟩ := hC
      exact measure_move hI hm hs) h (hC st as has) hrun
  omega

/-- **Dispatch loses nothing and never sleeps on work.** In every interleaving, for every thread `d`
and class `c`: the requests executed are the first of those enqueued, in order, and the others are
pending; a thread that waits while a list has a request is owed a signal; a sim-list request starts
only with the call list empty; when no thread can move all requests are executed; and without new
calls that point is reached. -/
theorem requests_dispatched (cfg : Config) (as : List Act) (s : Dispatcher → Station)
    (hrun : run (step cfg) init as = some s) :
    (∀ d c, calls cfg d c as = (s d).executed c ++ (s d).pending c) ∧
      (∀ d c, (s d).pc = .blocked → (s d).lists c ≠ [] → ∃ k ∈ (s d).callers, k.owes = true) ∧
      Steps (step cfg) (SimAfterCall cfg) init as ∧
      ((∀ d m, m.progress = true → step cfg s (.move d m) = none) → ∀ d c, (s d).executed c = calls cfg d c as) ∧
      ∀ bs s', run (step cfg) s bs = some s' → (∀ b ∈ bs, b.progress = true) →
        ∀ d, (component d (bs.map (Act.at cfg))).length ≤ (s d).measure d.served := by
  have hstation : ∀ d, Inv d.served (s d) ∧ ∀ c, calls cfg d c as = (s d).executed c ++ (s d).pending c := by
    intro d
    obtain ⟨hinv, heq⟩ := enqueued_eq (run_station hrun d)
    exact ⟨hinv, fun c => by rw [← heq c, enqueuedIn_component]⟩
  refine ⟨fun d => (hstation d).2, fun d c hpc hne => (hstation d).1.awake c hne (by simp [hpc, Pc.passed]), ?_, ?_, ?_⟩
  · exact steps_of_reachable (fun s a _ => sim_after_call s a) (Reachable.refl init)
  · intro hstuck d c
    obtain ⟨-, hpc, hempty⟩ := stuck_station (hstation d).1 fun m hm => Option.map_eq_none_iff.1 (hstuck d m hm)
    rw [(hstation d).2 c, pending_of_ne_remove (by simp [hpc]), hempty c, List.append_nil]
  · intro bs s' hbs hprog d
    exact station_steps_le (hstation d).1 (progress_component hprog d) (run_station hbs d)

/-- A dial request and a SIM request, up to the execution of the first. -/
theorem requests_dispatched_dial :
    ∃ s, run (step ⟨2, false⟩) init
        [.enqueueRequest ⟨RIL_REQUEST_DIAL, 1, 0⟩, .enqueueRequest ⟨ RIL_REQUEST_SIM_IO, 2, 0⟩,
          .move (.normalDispatch 0) .dispatch, .move (.normalDispatch 0) .dispatch,
          .move (.normalDispatch 0) .dispatch, .move (.normalDispatch 0) .dispatch,
          .move (.normalDispatch 0) .dispatch, .move (.normalDispatch 0) .dispatch] = some s ∧
      (s (.normalDispatch 0)).executed .NORMAL_FAST = [⟨RIL_REQUEST_DIAL, 1, 0⟩] ∧
      [⟨ RIL_REQUEST_SIM_IO, 2, 0⟩] =
        (s (.normalDispatch 0)).executed .NORMAL_SLOW ++ (s (.normalDispatch 0)).pending .NORMAL_SLOW :=
  ⟨_, rfl, rfl, (requests_dispatched ⟨2, false⟩
    [.enqueueRequest ⟨RIL_REQUEST_DIAL, 1, 0⟩, .enqueueRequest ⟨ RIL_REQUEST_SIM_IO, 2, 0⟩,
      .move (.normalDispatch 0) .dispatch, .move (.normalDispatch 0) .dispatch,
      .move (.normalDispatch 0) .dispatch, .move (.normalDispatch 0) .dispatch,
      .move (.normalDispatch 0) .dispatch, .move (.normalDispatch 0) .dispatch] _ rfl).1
    (.normalDispatch 0) .NORMAL_SLOW⟩

end UniRil.RequestThreads
