import Mathlib.Algebra.Order.Ring.Nat
import UniRil.RequestThreads.Station

/-!
# Order and progress of a station

The requests of a list are executed in the order of their insertion, and the steps that are left
without new calls are bounded by a measure.
-/

namespace UniRil.RequestThreads

variable {served : List ATCmdType} {st st' : Station}

/-! ## Order -/

/-- The requests inserted into a list, in order. -/
def enqueuedIn (cmdType : ATCmdType) (as : List StationAct) : List RequestInfo :=
  as.filterMap fun
    | .enqueue c r => if c = cmdType then some r else none
    | .move _ => none

/-- The requests of a list that are not yet executed. -/
def Station.pending (st : Station) (cmdType : ATCmdType) : List RequestInfo :=
  match st.pc with
  | .remove c _ => if c = cmdType then (st.lists cmdType).tail else st.lists cmdType
  | _ => st.lists cmdType

theorem pending_of_ne_remove (h : ∀ c r, st.pc ≠ .remove c r) (c : ATCmdType) : st.pending c = st.lists c := by
  rw [Station.pending]
  split
  · rename_i c' r hpc
    exact absurd hpc (h c' r)
  · rfl

theorem executed_dispatched (h : Inv served st) (hd : Dispatched served st st') (c : ATCmdType) :
    st'.executed c ++ st'.pending c = st.executed c ++ st.pending c := by
  cases hd with
  | @execute c' r hpc =>
    obtain ⟨rest, hc'⟩ := h.taken c' r (Or.inl hpc)
    rw [@pending_of_ne_remove st (by simp [hpc])]
    simp only [Station.pending]
    by_cases heq : c' = c
    · subst heq
      simp [hc']
    · simp [Function.update_of_ne (Ne.symm heq), heq]
  | @remove c' r hpc =>
    obtain ⟨rest, hc'⟩ := h.taken c' r (Or.inr hpc)
    rw [@pending_of_ne_remove { st with pc := _, lists := _ } (by simp)]
    simp only [Station.pending, hpc]
    by_cases heq : c' = c
    · subst heq
      simp [hc']
    · simp [Function.update_of_ne (Ne.symm heq), heq]
  | _ => simp only [Station.pending, *]

theorem executed_called (hd : Called st st') (c : ATCmdType) :
    st'.executed c ++ st'.pending c = st.executed c ++ st.pending c := by
  cases hd with
  | wake hc hpc => simp only [Station.pending, hpc]
  | _ => rfl

theorem pending_enqueue (h : Inv served st) (c c' : ATCmdType) (r : RequestInfo) (callers : List Caller) :
    ({ st with lists := Function.update st.lists c' (st.lists c' ++ [r]), callers := callers } : Station).pending c =
      if c' = c then st.pending c ++ [r] else st.pending c := by
  by_cases heq : c' = c
  · subst heq
    simp only [Station.pending, Function.update_self, if_true]
    split
    · rename_i c'' r'' hpc
      obtain ⟨rest, hrest⟩ := h.taken c'' r'' (Or.inr hpc)
      split
      · rename_i heq
        subst heq
        simp [hrest]
      · rfl
    · rfl
  · simp only [Station.pending, Function.update_of_ne (Ne.symm heq), if_neg heq]

/-- Executed and pending requests together are the requests inserted, in order. -/
theorem enqueued_eq {as : List StationAct} (hrun : Runs.run (stationStep served) .init as = some st) :
    Inv served st ∧ ∀ c, enqueuedIn c as = st.executed c ++ st.pending c := by
  refine Runs.history_invariant (H := fun as st => Inv served st ∧ ∀ c, enqueuedIn c as = st.executed c ++ st.pending c)
    ⟨inv_init, fun c => rfl⟩ ?_ hrun
  rintro as st a st' ⟨hinv, heq⟩ hs
  refine ⟨inv_step hinv hs, fun c => ?_⟩
  rw [enqueuedIn, List.filterMap_append, ← enqueuedIn, heq c]
  cases a with
  | enqueue c' r =>
    simp only [stationStep, Option.ite_none_right_eq_some, Option.some.injEq] at hs
    obtain ⟨-, rfl⟩ := hs
    rw [pending_enqueue hinv]
    by_cases hcc : c' = c <;> simp [hcc]
  | move m =>
    simp only [List.filterMap_cons, List.filterMap_nil, List.append_nil]
    cases m with
    | dispatch => exact (executed_dispatched hinv (dispatch_cases hs) c).symm
    | caller i => exact (executed_called (callerStep_cases hs) c).symm
    | spurious =>
      simp only [stationStep] at hs
      split at hs
      · rename_i hpc
        obtain rfl := Option.some.inj hs
        simp only [Station.pending, hpc]
      · simp at hs
    | refused =>
      simp only [stationStep] at hs
      split at hs
      · obtain rfl := Option.some.inj hs
        rfl
      · simp at hs

/-! ## Nothing stuck -/

/-- With a request in some list, the list picked has one. -/
theorem pickList_ne_nil {lists : ATCmdType → List RequestInfo} (h : ∃ c ∈ served, lists c ≠ []) :
    ∃ c, pickList lists served = some c ∧ lists c ≠ [] := by
  induction served using pickList.induct lists with
  | case1 => simp at h
  | case2 c => exact ⟨c, rfl, by simpa using h⟩
  | case3 c rest hne he ih =>
    rw [List.isEmpty_iff] at he
    obtain ⟨c', hc', hl⟩ := ih (by simpa [he] using h)
    refine ⟨c', ?_, hl⟩
    rwa [pickList, if_pos (by simp [he])]
    exact hne
  | case4 c rest hne he =>
    refine ⟨c, ?_, by simpa using he⟩
    rw [pickList, if_neg he]
    exact hne

/-- The moves of the threads themselves: no spurious wake-up and no failing pool. -/
def Move.progress : Move → Bool
  | .dispatch | .caller _ => true
  | .spurious | .refused => false

/-- A station that cannot move has no caller left, and its thread waits on empty lists. -/
theorem stuck_station (h : Inv served st)
    (hstuck : ∀ m, m.progress = true → stationStep served st (.move m) = none) :
    st.callers = [] ∧ st.pc = .blocked ∧ ∀ c, st.lists c = [] := by
  have hd : dispatch served st = none := hstuck .dispatch rfl
  have hinserted : ∀ k ∈ st.callers, k = .inserted ∧ st.mutex = true := by
    intro k hk
    obtain ⟨i, hi⟩ := List.mem_iff_getElem?.1 hk
    have hc : callerStep i st = none := hstuck (.caller i) rfl
    cases k <;> simp_all [callerStep]
  have hcount : st.callers.countP Caller.holds = 0 := by
    rw [List.countP_eq_zero]
    intro k hk
    simp [(hinserted k hk).1, Caller.holds]
  have hmutex := h.mutex
  rw [hcount, Nat.add_zero] at hmutex
  have hpc : st.pc = .blocked := by
    cases hp : st.pc with
    | blocked => rfl
    | test rem => cases rem <;> simp [dispatch, hp] at hd
    | scan rem => cases rem <;> simp [dispatch, hp] at hd
    | pick =>
      obtain ⟨c, hc⟩ := h.found hp
      obtain ⟨c', hpick, hne⟩ := @pickList_ne_nil served st.lists ⟨c, h.own c hc, hc⟩
      simp [dispatch, hp, hpick, List.head?_eq_none_iff, hne] at hd
    | _ => cases hm : st.mutex <;> simp [dispatch, hp, hm, Pc.holds] at hd hmutex
  have hcallers : st.callers = [] := by
    rcases hcs : st.callers with _ | ⟨k, ks⟩
    · rfl
    · have hm := (hinserted k (by simp [hcs])).2
      simp [hpc, hm, Pc.holds] at hmutex
  refine ⟨hcallers, hpc, fun c => ?_⟩
  by_contra hne
  obtain ⟨k, hk, -⟩ := h.awake c hne (by simp [hpc, Pc.passed])
  simp [hcallers] at hk

/-! ## The work left -/

def work (served : List ATCmdType) (lists : ATCmdType → List RequestInfo) : Nat :=
  (served.map fun c => (lists c).length).sum

/-- Some list among these has a request. -/
def hasRequest (lists : ATCmdType → List RequestInfo) (cs : List ATCmdType) : Bool :=
  cs.any fun c => !(lists c).isEmpty

/-- How far the thread is from its next removal, or from its wait. -/
def rank (served : List ATCmdType) (lists : ATCmdType → List RequestInfo) : Pc → Nat
  | .blocked => 0
  | .remove _ _ => 1
  | .execute _ _ => 2
  | .pick => 3
  | .scan rem => if hasRequest lists rem then 4 + rem.length else 10 + 2 * served.length + rem.length
  | .unlock => if hasRequest lists served then 5 + served.length else 11 + 3 * served.length
  | .woken => if hasRequest lists served then 6 + served.length else 12 + 3 * served.length
  | .wait => 7 + served.length
  | .test rem => 8 + served.length + rem.length
  | .lock => 9 + 2 * served.length

def Caller.weight (served : List ATCmdType) : Caller → Nat
  | .inserted => 15 + 3 * served.length
  | .locked => 14 + 3 * served.length
  | .signalled => 1

def Station.measure (served : List ATCmdType) (st : Station) : Nat :=
  (20 + 3 * served.length) * work served st.lists + rank served st.lists st.pc +
    (st.callers.map (Caller.weight served)).sum

theorem hasRequest_of_mem {lists : ATCmdType → List RequestInfo} {c : ATCmdType} {cs : List ATCmdType} (hc : c ∈ cs)
    (hne : lists c ≠ []) : hasRequest lists cs = true := by
  rw [hasRequest, List.any_eq_true]
  exact ⟨c, hc, by simpa using hne⟩

theorem hasRequest_cons_nil {lists : ATCmdType → List RequestInfo} {c : ATCmdType} (cs : List ATCmdType)
    (hc : lists c = []) : hasRequest lists (c :: cs) = hasRequest lists cs := by
  simp [hasRequest, hc]

theorem rank_dispatched (h : Inv served st) (hd : Dispatched served st st') (hpc : ∀ c r, st.pc ≠ .remove c r) :
    rank served st'.lists st'.pc < rank served st.lists st.pc := by
  cases hd with
  | remove hr => exact absurd hr (hpc _ _)
  | testFound hr hc =>
    simp only [hr, rank, hasRequest_of_mem (h.own _ hc) hc, if_true, List.length_cons]
    omega
  | scanFound hr hc =>
    simp only [hr, rank]
    split <;> simp only [List.length_cons] <;> omega
  | scanEmpty hr hc =>
    simp only [hr, rank, hasRequest_cons_nil _ hc, List.length_cons]
    split <;> omega
  | unlock hr =>
    simp only [hr, rank]
    split <;> omega
  | woken hr hm =>
    simp only [hr, rank]
    split <;> omega
  | scanNil hr =>
    simp [hr, rank, hasRequest]
  | lock hr hm =>
    simp only [hr, rank]
    omega
  | _ => simp [rank, *]

theorem work_remove (h : Inv served st) {c : ATCmdType} {r : RequestInfo} (hpc : st.pc = .remove c r) :
    work served (Function.update st.lists c ((st.lists c).erase r)) < work served st.lists := by
  obtain ⟨rest, hc⟩ := h.taken c r (Or.inr hpc)
  have hmem := h.own c (by simp [hc])
  refine List.sum_lt_sum _ _ (fun c' _ => ?_) ⟨c, hmem, ?_⟩
  · by_cases heq : c' = c
    · subst heq
      simp [hc]
    · simp [Function.update_of_ne heq]
  · simp [hc]

theorem measure_dispatched (h : Inv served st) (hd : Dispatched served st st') :
    st'.measure served < st.measure served := by
  by_cases hpc : ∃ c r, st.pc = .remove c r
  · obtain ⟨c, r, hpc⟩ := hpc
    cases hd with
    | @remove c' r' hpc' =>
      have hwork := Nat.mul_le_mul_left (20 + 3 * served.length) (work_remove h hpc')
      have hrank : rank served (Function.update st.lists c' ((st.lists c').erase r')) (.scan served) ≤
          10 + 3 * served.length := by
        simp only [rank]
        split <;> omega
      simp only [Station.measure]
      rw [Nat.mul_succ] at hwork
      omega
    | _ => simp_all
  · have hrank := rank_dispatched h hd fun c r heq => hpc ⟨c, r, heq⟩
    have hsame : st'.lists = st.lists ∧ st'.callers = st.callers := by
      cases hd with
      | remove hr => exact absurd ⟨_, _, hr⟩ hpc
      | _ => exact ⟨rfl, rfl⟩
    rw [hsame.1] at hrank
    simp only [Station.measure, hsame.1, hsame.2]
    omega

theorem measure_called (hd : Called st st') : st'.measure served < st.measure served := by
  have hsum : ∀ (pre post : List Caller) (k : Caller), ((pre ++ k :: post).map (Caller.weight served)).sum =
      ((pre ++ post).map (Caller.weight served)).sum + k.weight served := by
    intro pre post k
    simp only [List.map_append, List.map_cons, List.sum_append, List.sum_cons]
    omega
  cases hd with
  | lock hc _ | signal hc _ =>
    simp only [Station.measure, hc, hsum, Caller.weight]
    omega
  | wake hc hpc =>
    simp only [Station.measure, hc, hpc, hsum, Caller.weight, rank]
    split <;> omega
  | unlock hc =>
    simp only [Station.measure, hc, hsum, Caller.weight]
    omega

theorem measure_move {m : Move} (h : Inv served st) (hm : m.progress = true)
    (hs : stationStep served st (.move m) = some st') : st'.measure served < st.measure served := by
  cases m with
  | dispatch => exact measure_dispatched h (dispatch_cases hs)
  | caller i => exact measure_called (callerStep_cases hs)
  | spurious => simp [Move.progress] at hm
  | refused => simp [Move.progress] at hm

end UniRil.RequestThreads
