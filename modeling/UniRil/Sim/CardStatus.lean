import Mathlib.Logic.Function.Basic
import UniRil.Lib.Runs

/-!
# The semaphore around getCardStatus

`s_sem` of a SIM is a gate at start-up, which RIL_Init closes and initializeCallback opens, and a mutex for
the GET_SIM_STATUS requests afterwards. initializeCallback posts it at every start of the modem.
-/

namespace UniRil.Sim.CardStatus

open Runs

/-! ## Steps -/

/-- Where RIL_Init is in its loop over the SIMs. -/
inductive InitPc
  | sem_init (simId : Nat)
  /-- pthread_create of mainLoop -/
  | creates (simId : Nat)
  | sem_wait (simId : Nat)
  /-- RIL_Init has returned, and requests can come. -/
  | returned
  deriving DecidableEq

/-- Where the mainLoop of a SIM is. -/
inductive MainPc
  | notCreated
  /-- The channels are being opened. -/
  | opens
  /-- waitForClose -/
  | waits
  /-- at_open has failed, and the thread has returned. -/
  | ended
  deriving DecidableEq

structure State where
  init : InitPc
  mainLoop : Nat → MainPc
  /-- The values of `s_sem`. -/
  s_sem : Nat → Nat
  /-- The calls of initializeCallback that were requested and have not finished. -/
  callbacks : Nat → Nat
  /-- The calls of initializeCallback that have finished. -/
  initialized : Nat → Nat
  /-- The threads between sem_wait and sem_post of GET_SIM_STATUS. -/
  inside : Nat → List Nat

def State.post (s : State) (socket_id : Nat) : State :=
  { s with s_sem := Function.update s.s_sem socket_id (s.s_sem socket_id + 1) }

/-- sem_wait; `none` while it must wait. -/
def State.wait (s : State) (socket_id : Nat) : Option State :=
  if s.s_sem socket_id = 0 then none
  else some { s with s_sem := Function.update s.s_sem socket_id (s.s_sem socket_id - 1) }

def State.gotoMain (s : State) (socket_id : Nat) (pc : MainPc) : State :=
  { s with mainLoop := Function.update s.mainLoop socket_id pc }

inductive Label
  | RIL_Init
  /-- The channels are open, and RIL_requestTimedCallback is called for initializeCallback. -/
  | opened (socket_id : Nat)
  | atOpenFails (socket_id : Nat)
  /-- The channels were closed: the modem restarts. -/
  | closed (socket_id : Nat)
  /-- initializeCallback ends. -/
  | initializeCallback (socket_id : Nat)
  /-- sem_wait of a GET_SIM_STATUS request. -/
  | enters (t socket_id : Nat)
  /-- sem_post after getCardStatus. -/
  | leaves (t socket_id : Nat)
  deriving DecidableEq

/-- The next step of RIL_Init, of `simCount` SIMs. -/
def advanceInit (simCount : Nat) (s : State) : Option State :=
  match s.init with
  | .sem_init simId =>
    if simId < simCount then some { s with s_sem := Function.update s.s_sem simId 1, init := .creates simId }
    else some { s with init := .returned }
  | .creates simId => some { s.gotoMain simId .opens with init := .sem_wait simId }
  | .sem_wait simId => (s.wait simId).map fun s => { s with init := .sem_init (simId + 1) }
  | .returned => none

def step (simCount : Nat) (s : State) : Label → Option State
  | .RIL_Init => advanceInit simCount s
  | .opened socket_id =>
    if s.mainLoop socket_id = .opens then
      some { s.gotoMain socket_id .waits with
        callbacks := Function.update s.callbacks socket_id (s.callbacks socket_id + 1) }
    else none
  | .atOpenFails socket_id => if s.mainLoop socket_id = .opens then some (s.gotoMain socket_id .ended) else none
  | .closed socket_id => if s.mainLoop socket_id = .waits then some (s.gotoMain socket_id .opens) else none
  | .initializeCallback socket_id =>
    if s.callbacks socket_id = 0 then none
    else
      some { s.post socket_id with
        callbacks := Function.update s.callbacks socket_id (s.callbacks socket_id - 1)
        initialized := Function.update s.initialized socket_id (s.initialized socket_id + 1) }
  | .enters t socket_id =>
    if s.init = .returned ∧ socket_id < simCount ∧ t ∉ s.inside socket_id then
      (s.wait socket_id).map fun s =>
        { s with inside := Function.update s.inside socket_id (t :: s.inside socket_id) }
    else none
  | .leaves t socket_id =>
    if t ∈ s.inside socket_id then
      some { s.post socket_id with inside := Function.update s.inside socket_id ((s.inside socket_id).erase t) }
    else none

def State.start : State where
  init := .sem_init 0
  mainLoop _ := .notCreated
  s_sem _ := 0
  callbacks _ := 0
  initialized _ := 0
  inside _ := []

/-! ## Runs -/

/-- At most one thread is inside, and none before initializeCallback has finished. -/
def Solo (s : State) : Prop :=
  ∀ socket_id, s.s_sem socket_id + (s.inside socket_id).length ≤ 1 ∧
    (s.inside socket_id ≠ [] → 0 < s.initialized socket_id)

/-- RIL_Init has passed sem_init of the SIM. -/
def State.inited (s : State) (socket_id : Nat) : Bool :=
  match s.init with
  | .sem_init simId => socket_id < simId
  | .creates simId | .sem_wait simId => socket_id ≤ simId
  | .returned => true

/-- RIL_Init has passed sem_wait of the SIM. -/
def State.waited (s : State) (socket_id : Nat) : Bool :=
  match s.init with
  | .sem_init simId | .creates simId | .sem_wait simId => socket_id < simId
  | .returned => true

/-- initializeCallback finishes once for the SIM, and not before RIL_Init waits for it. -/
def FirstStart (s : State) : Label → Prop
  | .initializeCallback socket_id =>
    s.callbacks socket_id ≠ 0 → s.waited socket_id = true ∧ s.initialized socket_id = 0
  | _ => True

/-! ## The count -/

variable {simCount : Nat} {s s' : State} {socket_id : Nat}

/-- The posts and waits of a semaphore, and what was started for its SIM. -/
structure CountAt (s : State) (k : Nat) : Prop where
  count : s.s_sem k + (s.inside k).length + (s.waited k).toNat = (s.inited k).toNat + s.initialized k
  mainLoop : s.mainLoop k ≠ .notCreated → s.inited k = true
  callbacks : s.callbacks k ≠ 0 → s.inited k = true
  initialized : s.initialized k ≠ 0 → s.inited k = true
  inside : s.inside k ≠ [] → s.waited k = true

def Counted (s : State) : Prop := ∀ k, CountAt s k

/-- What RIL_Init has done for a SIM stays as it is. -/
theorem CountAt.same {k : Nat} (h : CountAt s k) (hinit : s'.init = s.init) (hsem : s'.s_sem k = s.s_sem k)
    (hinside : s'.inside k = s.inside k) (hmain : s'.mainLoop k = s.mainLoop k)
    (hcallbacks : s'.callbacks k = s.callbacks k) (hinitialized : s'.initialized k = s.initialized k) :
    CountAt s' k := by
  have hinited : s'.inited k = s.inited k := by rw [State.inited, hinit]; rfl
  have hwaited : s'.waited k = s.waited k := by rw [State.waited, hinit]; rfl
  refine ⟨?_, ?_, ?_, ?_, ?_⟩
  · rw [hsem, hinside, hwaited, hinited, hinitialized]
    exact h.count
  · rw [hmain, hinited]
    exact h.mainLoop
  · rw [hcallbacks, hinited]
    exact h.callbacks
  · rw [hinitialized, hinited]
    exact h.initialized
  · rw [hinside, hwaited]
    exact h.inside

theorem counted_start : Counted State.start := by
  intro k
  exact ⟨rfl, fun h => absurd rfl h, fun h => absurd rfl h, fun h => absurd rfl h, fun h => absurd rfl h⟩

/-- All but the count follows when RIL_Init goes on and leaves the rest as it is. -/
theorem CountAt.advance {k : Nat} (h : CountAt s k) (hinited : s.inited k = true → s'.inited k = true)
    (hwaited : s.waited k = true → s'.waited k = true) (hinside : s'.inside k = s.inside k)
    (hcount : s'.s_sem k + (s'.inside k).length + (s'.waited k).toNat = (s'.inited k).toNat + s'.initialized k)
    (hmain : s'.mainLoop k ≠ .notCreated → s.mainLoop k ≠ .notCreated ∨ s'.inited k = true)
    (hcallbacks : s'.callbacks k = s.callbacks k) (hinitialized : s'.initialized k = s.initialized k) :
    CountAt s' k := by
  refine ⟨hcount, fun hk => ?_, fun hk => ?_, fun hk => ?_, fun hk => ?_⟩
  · obtain hbefore | hafter := hmain hk
    · exact hinited (h.mainLoop hbefore)
    · exact hafter
  · exact hinited (h.callbacks (hcallbacks ▸ hk))
  · exact hinited (h.initialized (hinitialized ▸ hk))
  · exact hwaited (h.inside (hinside ▸ hk))

/-- A SIM that RIL_Init has not come to has a semaphore of value 0. -/
theorem CountAt.fresh {k : Nat} (h : CountAt s k) (hinited : s.inited k = false) :
    s.s_sem k = 0 ∧ s.inside k = [] ∧ s.initialized k = 0 := by
  have hnone : s.initialized k = 0 := by
    refine Decidable.byContradiction fun hne => ?_
    rw [h.initialized hne] at hinited
    cases hinited
  have hcount := h.count
  rw [hinited, hnone] at hcount
  simp only [Bool.toNat_false] at hcount
  exact ⟨by omega, List.length_eq_zero_iff.1 (by omega), hnone⟩

theorem waited_advanceInit {k : Nat} (hstep : advanceInit simCount s = some s') (h : s.waited k = true) :
    s'.waited k = true := by
  unfold advanceInit at hstep
  cases hinit : s.init with
  | sem_init simId =>
    simp only [State.waited, hinit, decide_eq_true_eq] at h
    simp only [hinit] at hstep
    split at hstep
    · cases hstep
      simpa [State.waited] using h
    · cases hstep
      rfl
  | creates simId =>
    simp only [State.waited, hinit, decide_eq_true_eq] at h
    simp only [hinit] at hstep
    cases hstep
    simpa [State.waited] using h
  | sem_wait simId =>
    simp only [State.waited, hinit, decide_eq_true_eq] at h
    simp only [hinit, Option.map_eq_some_iff] at hstep
    obtain ⟨m, -, rfl⟩ := hstep
    simp only [State.waited, decide_eq_true_eq]
    omega
  | returned =>
    simp only [hinit] at hstep
    cases hstep

theorem counted_advanceInit (h : Counted s) (hstep : advanceInit simCount s = some s') : Counted s' := by
  intro k
  have hk := h k
  have hcount := hk.count
  have hkeep := waited_advanceInit (k := k) hstep
  unfold advanceInit at hstep
  cases hinit : s.init with
  | sem_init simId =>
    have hinited : s.inited k = decide (k < simId) := by simp [State.inited, hinit]
    have hwaited : s.waited k = decide (k < simId) := by simp [State.waited, hinit]
    simp only [hinit] at hstep
    split at hstep
    · cases hstep
      refine hk.advance (fun hbefore => ?_) hkeep rfl ?_ Or.inl rfl rfl
      · simp only [hinited, decide_eq_true_eq] at hbefore
        simp only [State.inited, decide_eq_true_eq]
        omega
      · by_cases hsim : k = simId
        · subst hsim
          obtain ⟨-, hinside, hinitialized⟩ := hk.fresh (by simp [hinited])
          simp [State.inited, State.waited, hinside, hinitialized]
        · have hle : k ≤ simId ↔ k < simId := by omega
          simp only [State.inited, State.waited, Function.update_of_ne hsim, hle]
          rwa [hinited, hwaited] at hcount
    · cases hstep
      refine hk.advance (fun _ => rfl) hkeep rfl ?_ Or.inl rfl rfl
      by_cases hsim : k < simId
      · simp only [hinited, hwaited, hsim, decide_true] at hcount
        exact hcount
      · obtain ⟨hsem, hinside, hinitialized⟩ := hk.fresh (by simp [hinited, hsim])
        simp [State.inited, State.waited, hsem, hinside, hinitialized]
  | creates simId =>
    have hinited : s.inited k = decide (k ≤ simId) := by simp [State.inited, hinit]
    have hwaited : s.waited k = decide (k < simId) := by simp [State.waited, hinit]
    simp only [hinit] at hstep
    cases hstep
    refine hk.advance (fun hbefore => ?_) hkeep rfl ?_ (fun hmain => ?_) rfl rfl
    · simp only [hinited, decide_eq_true_eq] at hbefore
      simp only [State.inited, decide_eq_true_eq]
      exact hbefore
    · rwa [hinited, hwaited] at hcount
    · by_cases hsim : k = simId
      · exact Or.inr (by simp [State.inited, hsim])
      · left
        simpa [State.gotoMain, Function.update_of_ne hsim] using hmain
  | sem_wait simId =>
    have hinited : s.inited k = decide (k ≤ simId) := by simp [State.inited, hinit]
    have hwaited : s.waited k = decide (k < simId) := by simp [State.waited, hinit]
    simp only [hinit, Option.map_eq_some_iff] at hstep
    obtain ⟨m, hwait, rfl⟩ := hstep
    obtain ⟨hpositive, heq⟩ := Option.ite_none_left_eq_some.1 hwait
    obtain rfl := Option.some.inj heq
    refine hk.advance (fun hbefore => ?_) hkeep rfl ?_ Or.inl rfl rfl
    · simp only [hinited, decide_eq_true_eq] at hbefore
      simp only [State.inited, decide_eq_true_eq]
      omega
    · by_cases hsim : k = simId
      · subst hsim
        simp only [hinited, hwaited, Nat.le_refl, decide_true, Nat.lt_irrefl, decide_false, Bool.toNat_true,
          Bool.toNat_false] at hcount
        simp only [State.inited, State.waited, Function.update_self, Nat.lt_succ_self, decide_true, Bool.toNat_true]
        omega
      · have hlt : k < simId + 1 ↔ k < simId := by omega
        have hle : k ≤ simId ↔ k < simId := by omega
        simp only [State.inited, State.waited, Function.update_of_ne hsim, hlt]
        simp only [hinited, hwaited, hle] at hcount
        exact hcount
  | returned =>
    simp only [hinit] at hstep
    cases hstep

/-- A step of a SIM leaves the other SIMs as they are. -/
theorem Counted.of_one {k : Nat} (h : Counted s) (hinit : s'.init = s.init)
    (hothers : ∀ i, i ≠ k → s'.s_sem i = s.s_sem i ∧ s'.inside i = s.inside i ∧
      s'.mainLoop i = s.mainLoop i ∧ s'.callbacks i = s.callbacks i ∧ s'.initialized i = s.initialized i)
    (hone : CountAt s' k) : Counted s' := by
  intro i
  by_cases hi : i = k
  · exact hi ▸ hone
  · obtain ⟨hsem, hinside, hmain, hcallbacks, hinitialized⟩ := hothers i hi
    exact (h i).same hinit hsem hinside hmain hcallbacks hinitialized

theorem counted_gotoMain (h : Counted s) {pc : MainPc} (hmain : s.mainLoop socket_id ≠ .notCreated) :
    Counted (s.gotoMain socket_id pc) := by
  refine h.of_one (k := socket_id) rfl (fun k hk => ?_) ?_
  · simp [State.gotoMain, Function.update_of_ne hk]
  · have hone := h socket_id
    exact ⟨hone.count, fun _ => hone.mainLoop hmain, hone.callbacks, hone.initialized, hone.inside⟩

theorem counted_step {a : Label} (h : Counted s) (hstep : step simCount s a = some s') : Counted s' := by
  cases a with
  | RIL_Init => exact counted_advanceInit h hstep
  | opened socket_id =>
    obtain ⟨hopens, heq⟩ := Option.ite_none_right_eq_some.1 hstep
    obtain rfl := Option.some.inj heq
    have hinited := (h socket_id).mainLoop (by simp [hopens])
    have hgone := @counted_gotoMain s socket_id h .waits (by simp [hopens])
    refine hgone.of_one (k := socket_id) rfl (fun k hk => ?_) ?_
    · simp [State.gotoMain, Function.update_of_ne hk]
    · have hone := hgone socket_id
      exact ⟨hone.count, hone.mainLoop, fun _ => hinited, hone.initialized, hone.inside⟩
  | atOpenFails socket_id =>
    obtain ⟨hopens, heq⟩ := Option.ite_none_right_eq_some.1 hstep
    obtain rfl := Option.some.inj heq
    exact counted_gotoMain h (by simp [hopens])
  | closed socket_id =>
    obtain ⟨hwaits, heq⟩ := Option.ite_none_right_eq_some.1 hstep
    obtain rfl := Option.some.inj heq
    exact counted_gotoMain h (by simp [hwaits])
  | initializeCallback socket_id =>
    obtain ⟨hcallbacks, heq⟩ := Option.ite_none_left_eq_some.1 hstep
    obtain rfl := Option.some.inj heq
    have hone := h socket_id
    have hinited := hone.callbacks hcallbacks
    refine h.of_one (k := socket_id) rfl (fun k hk => ?_)
      ⟨?_, hone.mainLoop, fun _ => hinited, fun _ => hinited, hone.inside⟩
    · simp [State.post, Function.update_of_ne hk]
    · have hcount := hone.count
      show _ + (s.inside socket_id).length + (s.waited socket_id).toNat = (s.inited socket_id).toNat + _
      simp only [State.post, Function.update_self]
      omega
  | enters t socket_id =>
    obtain ⟨⟨hreturned, -, -⟩, heq⟩ := Option.ite_none_right_eq_some.1 hstep
    obtain ⟨m, hwait, rfl⟩ := Option.map_eq_some_iff.1 heq
    obtain ⟨hpositive, heq⟩ := Option.ite_none_left_eq_some.1 hwait
    obtain rfl := Option.some.inj heq
    have hone := h socket_id
    have hwaited : s.waited socket_id = true := by rw [State.waited, hreturned]
    refine h.of_one (k := socket_id) rfl (fun k hk => ?_)
      ⟨?_, hone.mainLoop, hone.callbacks, hone.initialized, fun _ => hwaited⟩
    · simp [Function.update_of_ne hk]
    · have hcount := hone.count
      show _ + List.length _ + (s.waited socket_id).toNat = (s.inited socket_id).toNat + s.initialized socket_id
      simp only [Function.update_self, List.length_cons]
      omega
  | leaves t socket_id =>
    obtain ⟨hmem, heq⟩ := Option.ite_none_right_eq_some.1 hstep
    obtain rfl := Option.some.inj heq
    have hone := h socket_id
    have hwaited := hone.inside (List.ne_nil_of_mem hmem)
    refine h.of_one (k := socket_id) rfl (fun k hk => ?_)
      ⟨?_, hone.mainLoop, hone.callbacks, hone.initialized, fun _ => hwaited⟩
    · simp [State.post, Function.update_of_ne hk]
    · have hcount := hone.count
      have hlength := List.length_erase_of_mem hmem
      have hpositive := List.length_pos_of_mem hmem
      show _ + List.length _ + (s.waited socket_id).toNat = (s.inited socket_id).toNat + s.initialized socket_id
      simp only [State.post, Function.update_self]
      omega

/-! ## Starts -/

/-- RIL_Init has waited for each SIM that is initialized, and that happened once. -/
def Started (s : State) : Prop := ∀ k, s.initialized k ≤ 1 ∧ (s.initialized k ≠ 0 → s.waited k = true)

theorem started_start : Started State.start := fun _ => ⟨Nat.zero_le 1, fun h => absurd rfl h⟩

theorem started_step {a : Label} (h : Started s) (hfirst : FirstStart s a) (hstep : step simCount s a = some s') :
    Started s' := by
  cases a with
  | RIL_Init =>
    have hinitialized : s'.initialized = s.initialized := by
      simp only [step] at hstep
      unfold advanceInit at hstep
      split at hstep
      · split at hstep <;> · cases hstep; rfl
      · cases hstep
        rfl
      · obtain ⟨m, hwait, rfl⟩ := Option.map_eq_some_iff.1 hstep
        obtain ⟨-, heq⟩ := Option.ite_none_left_eq_some.1 hwait
        obtain rfl := Option.some.inj heq
        rfl
      · cases hstep
    intro k
    rw [hinitialized]
    exact ⟨(h k).1, fun hne => waited_advanceInit hstep ((h k).2 hne)⟩
  | opened socket_id =>
    obtain ⟨-, heq⟩ := Option.ite_none_right_eq_some.1 hstep
    obtain rfl := Option.some.inj heq
    exact h
  | atOpenFails socket_id =>
    obtain ⟨-, heq⟩ := Option.ite_none_right_eq_some.1 hstep
    obtain rfl := Option.some.inj heq
    exact h
  | closed socket_id =>
    obtain ⟨-, heq⟩ := Option.ite_none_right_eq_some.1 hstep
    obtain rfl := Option.some.inj heq
    exact h
  | initializeCallback socket_id =>
    obtain ⟨hcallbacks, heq⟩ := Option.ite_none_left_eq_some.1 hstep
    obtain rfl := Option.some.inj heq
    obtain ⟨hwaited, hfresh⟩ := hfirst hcallbacks
    intro k
    by_cases hk : k = socket_id
    · subst hk
      refine ⟨?_, fun _ => hwaited⟩
      simp [hfresh]
    · simp only [Function.update_of_ne hk]
      exact h k
  | enters t socket_id =>
    obtain ⟨-, heq⟩ := Option.ite_none_right_eq_some.1 hstep
    obtain ⟨m, hwait, rfl⟩ := Option.map_eq_some_iff.1 heq
    obtain ⟨-, heq⟩ := Option.ite_none_left_eq_some.1 hwait
    obtain rfl := Option.some.inj heq
    exact h
  | leaves t socket_id =>
    obtain ⟨-, heq⟩ := Option.ite_none_right_eq_some.1 hstep
    obtain rfl := Option.some.inj heq
    exact h

theorem CountAt.solo {k : Nat} (h : CountAt s k)
    (hstarted : s.initialized k ≤ 1 ∧ (s.initialized k ≠ 0 → s.waited k = true)) :
    s.s_sem k + (s.inside k).length ≤ 1 ∧ (s.inside k ≠ [] → 0 < s.initialized k) := by
  obtain ⟨hone, hwaited⟩ := hstarted
  have hcount := h.count
  have hinited := Bool.toNat_le (s.inited k)
  by_cases hzero : s.initialized k = 0
  · refine ⟨by omega, fun hinside => ?_⟩
    have hlength := List.length_pos_iff.2 hinside
    simp only [h.inside hinside, Bool.toNat_true] at hcount
    omega
  · simp only [hwaited hzero, Bool.toNat_true] at hcount
    exact ⟨by omega, fun _ => by omega⟩

/-- A second start, or one that RIL_Init has not waited for, raises the count past 1. -/
theorem CountAt.post {k : Nat} (h : CountAt s k) (hcallbacks : s.callbacks k ≠ 0)
    (hagain : s.waited k = true → s.initialized k ≠ 0) : 1 < s.s_sem k + 1 + (s.inside k).length := by
  have hcount := h.count
  simp only [h.callbacks hcallbacks, Bool.toNat_true] at hcount
  cases hwaited : s.waited k with
  | false =>
    simp only [hwaited, Bool.toNat_false] at hcount
    omega
  | true =>
    have hne := hagain hwaited
    simp only [hwaited, Bool.toNat_true] at hcount
    omega

/-- **One card status at a time.** The threads inside getCardStatus and the value of the semaphore come to
at most one throughout a run exactly when no initializeCallback finishes but the first of its SIM, and that
after RIL_Init has waited for the SIM. -/
theorem solo_iff_firstStart (simCount : Nat) (labels : List Label) :
    Always (step simCount) Solo State.start labels ↔ Steps (step simCount) FirstStart State.start labels := by
  refine always_iff_steps_of_invariant (I := fun s => Counted s ∧ Started s) (fun s a s' hs hfirst hstep => ?_)
    (fun s hs k => (hs.1 k).solo (hs.2 k)) (fun s a hs hnot => ?_) ⟨counted_start, started_start⟩ labels
  · exact ⟨counted_step hs.1 hstep, started_step hs.2 hfirst hstep⟩
  · cases a with
    | initializeCallback socket_id =>
      simp only [FirstStart, not_forall, not_and] at hnot
      obtain ⟨hcallbacks, hagain⟩ := hnot
      refine ⟨_, if_neg hcallbacks, fun hsolo => ?_⟩
      have hpost := (hs.1 socket_id).post hcallbacks hagain
      have hle := (hsolo socket_id).1
      simp only [State.post, Function.update_self] at hle
      omega
    | RIL_Init => exact absurd trivial hnot
    | opened socket_id => exact absurd trivial hnot
    | atOpenFails socket_id => exact absurd trivial hnot
    | closed socket_id => exact absurd trivial hnot
    | enters t socket_id => exact absurd trivial hnot
    | leaves t socket_id => exact absurd trivial hnot

/-- The modem of a phone with one SIM restarts, and initializeCallback posts a second time. -/
theorem solo_fails_restart :
    ¬ ∀ labels s, run (step 1) State.start labels = some s → Solo s := by
  intro h
  have hrun : ∃ s, run (step 1) State.start [.RIL_Init, .RIL_Init, .RIL_Init, .RIL_Init, .opened 0,
      .initializeCallback 0, .closed 0, .opened 0, .initializeCallback 0, .enters 1 0, .enters 2 0] = some s ∧
      s.inside 0 = [2, 1] := by
    refine ⟨_, rfl, rfl⟩
  obtain ⟨s, hrun, hinside⟩ := hrun
  have hle := (h _ s hrun 0).1
  simp only [hinside, List.length_cons] at hle
  omega

end UniRil.Sim.CardStatus
