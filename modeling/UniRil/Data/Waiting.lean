import UniRil.Data.State
import UniRil.Lib.Runs

/-!
# Waiting for a data call (`requestSetupDataConnection` and `requestSetupDataCall`)

The functions of the other modules run one at a time. Here two threads take turns, and a setup is the
list of its accesses to what the threads share.
-/

namespace UniRil.Data.Waiting

/-! ## The accesses of a setup -/

inductive Access
  /-- `pthread_mutex_lock`, `pthread_mutex_unlock` and `pthread_cond_signal`, of `s_signalBipPdp…`. -/
  | lock
  | unlock
  | signal
  | setState (socket_id : RIL_SOCKET_ID) (i : Int) (state : PDPState)
  | setPdpState (i : Int) (pdpState : Bool)
  deriving DecidableEq

def putPDP (socket_id : RIL_SOCKET_ID) (cid : Int) : List Access :=
  if cid < 0 ∨ MAX_PDP ≤ cid then []
  else [.setState socket_id cid .PDP_IDLE, .lock, .setPdpState cid false, .unlock]

/-- What a setup does to the slots before its labels, and again when it sends the list. -/
inductive SlotCall
  | getPDP (i : Int)
  | putPDPByIndex (i : Int)
  | putPDP (i : Int)

def SlotCall.accesses (socket_id : RIL_SOCKET_ID) : SlotCall → List Access
  | .getPDP i => [.setState socket_id i .PDP_BUSY]
  | .putPDPByIndex i => [.setState socket_id i .PDP_IDLE]
  | .putPDP i => Waiting.putPDP socket_id i

/-- The label through which it leaves. -/
inductive Ending
  | done (index : Int)
  | error (fb_cid index : Int)

def Ending.accesses (socket_id : RIL_SOCKET_ID) : Ending → List Access
  | .done index => [.lock, .setPdpState index true, .signal, .unlock]
  | .error fb_cid index =>
    -- the flag is set after `putPDP` has cleared it, and without the mutex
    (if 0 ≤ index then Waiting.putPDP socket_id (fb_cid - 1) ++ Waiting.putPDP socket_id index ++ [.setPdpState index true]
      else []) ++ [.lock, .signal, .unlock]

structure Setup where
  socket_id : RIL_SOCKET_ID
  before : List SlotCall
  ending : Ending
  after : List SlotCall

def Setup.accesses (s : Setup) : List Access :=
  s.before.flatMap (·.accesses s.socket_id) ++ s.ending.accesses s.socket_id ++ s.after.flatMap (·.accesses s.socket_id)

/-! ## Two threads -/

/-- The thread of `requestSetupDataConnection`. -/
inductive Opener
  | idle
  /-- The slot is busy. -/
  | found (i : Int)
  /-- Its flag was not set. -/
  | tested (i : Int)
  | holding (i : Int)
  /-- In `pthread_cond_wait`, without the mutex. -/
  | waiting (i : Int)
  | woken (i : Int)
  | relocked (i : Int)
  /-- No slot fits: a setup of its own. -/
  | setup (accesses : List Access)
  deriving DecidableEq

inductive Thread
  | opener
  | caller
  deriving DecidableEq

structure State where
  state : RIL_SOCKET_ID → Int → PDPState
  pdpState : Int → Bool
  mutex : Option Thread
  opener : Opener
  /-- The accesses left of the setup on the other thread. -/
  caller : List Access
  /-- How many of its setups have sent their signal. -/
  signals : Nat
  /-- How many will have, when the setup for which the opener waits has. -/
  awaited : Nat

def State.init : State where
  state := fun _ _ => .PDP_IDLE
  pdpState := fun _ => false
  mutex := none
  opener := .idle
  caller := []
  signals := 0
  awaited := 0

def Opener.wake : Opener → Opener
  | .waiting i => .woken i
  | o => o

/-- `none` while the mutex is not free. -/
def access (who : Thread) (a : Access) (s : State) : Option State :=
  match a with
  | .lock => if s.mutex = none then some { s with mutex := some who } else none
  | .unlock => some { s with mutex := none }
  | .signal => some { s with opener := s.opener.wake }
  | .setState socket_id i state =>
    some { s with state := Function.update s.state socket_id (Function.update (s.state socket_id) i state) }
  | .setPdpState i pdpState => some { s with pdpState := Function.update s.pdpState i pdpState }

inductive Step
  /-- The state of a slot that fits is read, and then its flag. -/
  | find (socket_id : RIL_SOCKET_ID) (i : Int)
  | test
  | lock
  | wait
  /-- `pthread_cond_wait` may also return without a signal. -/
  | wake
  | relock
  | unlock
  | beginOwn (s : Setup)
  | ownAccess
  | begin (s : Setup)
  | callerAccess

def step (s : State) : Step → Option State
  | .find socket_id i =>
    if s.opener = .idle ∧ s.state socket_id i = .PDP_BUSY then some { s with opener := .found i } else none
  | .test =>
    match s.opener with
    | .found i =>
      if s.pdpState i then some { s with opener := .idle }
      else some { s with opener := .tested i, awaited := if .signal ∈ s.caller then s.signals + 1 else s.signals }
    | _ => none
  | .lock =>
    match s.opener with
    | .tested i => if s.mutex = none then some { s with mutex := some .opener, opener := .holding i } else none
    | _ => none
  | .wait =>
    match s.opener with
    | .holding i => some { s with mutex := none, opener := .waiting i }
    | _ => none
  | .wake =>
    match s.opener with
    | .waiting i => some { s with opener := .woken i }
    | _ => none
  | .relock =>
    match s.opener with
    | .woken i => if s.mutex = none then some { s with mutex := some .opener, opener := .relocked i } else none
    | _ => none
  | .unlock =>
    match s.opener with
    | .relocked _ => some { s with mutex := none, opener := .idle }
    | _ => none
  | .beginOwn setup => if s.opener = .idle then some { s with opener := .setup setup.accesses } else none
  | .ownAccess =>
    match s.opener with
    | .setup (a :: as) => access .opener a { s with opener := if as = [] then .idle else .setup as }
    | _ => none
  | .begin setup => if s.caller = [] then some { s with caller := setup.accesses } else none
  | .callerAccess =>
    match s.caller with
    | a :: as => access .caller a { s with caller := as, signals := if a = .signal then s.signals + 1 else s.signals }
    | [] => none

/-- The opener is blocked for a slot, and the setup for which it waits has sent its signal. -/
def Stuck (s : State) : Prop := (∃ i, s.opener = .waiting i) ∧ s.awaited ≤ s.signals

/-- The wait begins before the signal of the setup that was on its way when the flag was read. -/
def WaitsInTime (s : State) (a : Step) : Prop := ∀ i, s.opener = .holding i → a = .wait → s.signals < s.awaited

variable {s s' : State} {a : Step} {i : Int}

/-! ## Who waits -/

theorem access_frame {who : Thread} {x : Access} (h : access who x s = some s') :
    s'.opener = (if x = .signal then s.opener.wake else s.opener) ∧ s'.caller = s.caller ∧ s'.signals = s.signals ∧
      s'.awaited = s.awaited := by
  cases x with
  | lock =>
    simp only [access] at h
    split at h <;> cases h
    exact ⟨rfl, rfl, rfl, rfl⟩
  | _ =>
    cases h
    exact ⟨rfl, rfl, rfl, rfl⟩

theorem Opener.wake_ne_waiting (o : Opener) : o.wake ≠ .waiting i := by
  cases o <;> simp [wake]

theorem access_waiting {who : Thread} {x : Access} (h : access who x s = some s') (hw : s'.opener = .waiting i) :
    s.opener = .waiting i ∧ x ≠ .signal ∧ s'.signals = s.signals ∧ s'.awaited = s.awaited := by
  obtain ⟨hopener, -, hsignals, hawaited⟩ := access_frame h
  rw [hw] at hopener
  by_cases hx : x = .signal
  · rw [if_pos hx] at hopener
    exact absurd hopener.symm s.opener.wake_ne_waiting
  · rw [if_neg hx] at hopener
    exact ⟨hopener.symm, hx, hsignals, hawaited⟩

/-- Whoever waits after a step has begun to, or was waiting and nothing was signalled. -/
theorem step_waiting (h : step s a = some s') (hw : s'.opener = .waiting i) :
    (a = .wait ∧ s.opener = .holding i ∨ s.opener = .waiting i) ∧ s'.signals = s.signals ∧ s'.awaited = s.awaited := by
  cases a with
  | find socket_id j =>
    simp only [step] at h
    split at h
    · cases h
      cases hw
    · cases h
  | test =>
    simp only [step] at h
    split at h
    · split at h
      · cases h
        cases hw
      · cases h
        cases hw
    · cases h
  | lock =>
    simp only [step] at h
    split at h
    · split at h
      · cases h
        cases hw
      · cases h
    · cases h
  | wait =>
    simp only [step] at h
    split at h
    · rename_i j hj
      cases h
      obtain rfl : j = i := Opener.waiting.inj hw
      exact ⟨.inl ⟨rfl, hj⟩, rfl, rfl⟩
    · cases h
  | wake =>
    simp only [step] at h
    split at h
    · cases h
      cases hw
    · cases h
  | relock =>
    simp only [step] at h
    split at h
    · split at h
      · cases h
        cases hw
      · cases h
    · cases h
  | unlock =>
    simp only [step] at h
    split at h
    · cases h
      cases hw
    · cases h
  | beginOwn setup =>
    simp only [step] at h
    split at h
    · cases h
      cases hw
    · cases h
  | ownAccess =>
    simp only [step] at h
    split at h
    · obtain ⟨hopener, -⟩ := access_waiting h hw
      dsimp only at hopener
      split at hopener <;> cases hopener
    · cases h
  | begin setup =>
    simp only [step] at h
    split at h
    · cases h
      exact ⟨.inr hw, rfl, rfl⟩
    · cases h
  | callerAccess =>
    simp only [step] at h
    split at h
    · obtain ⟨hopener, hx, hsignals, hawaited⟩ := access_waiting h hw
      refine ⟨.inr hopener, ?_, hawaited⟩
      rw [hsignals]
      exact if_neg hx
    · cases h

theorem always_not_stuck_iff (h : ¬ Stuck s) (as : List Step) :
    Runs.Always step (¬ Stuck ·) s as ↔ Runs.Steps step WaitsInTime s as := by
  refine Runs.always_iff_steps_of_invariant (I := (¬ Stuck ·)) (fun s a s' hs hC hstep hstuck => ?_) (fun _ hs => hs)
    (fun s a hs hC => ?_) h as
  · obtain ⟨⟨i, hw⟩, hle⟩ := hstuck
    obtain ⟨hfrom, hsignals, hawaited⟩ := step_waiting hstep hw
    rw [hsignals, hawaited] at hle
    rcases hfrom with ⟨hwait, hholding⟩ | hwaiting
    · exact Nat.not_le.2 (hC i hholding hwait) hle
    · exact hs ⟨⟨i, hwaiting⟩, hle⟩
  · obtain ⟨i, hholding, rfl, hle⟩ : ∃ i, s.opener = .holding i ∧ a = .wait ∧ ¬ s.signals < s.awaited := by
      simpa only [WaitsInTime, not_forall, exists_prop] using hC
    refine ⟨{ s with mutex := none, opener := .waiting i }, by simp [step, hholding], fun hnot => ?_⟩
    exact hnot ⟨⟨i, rfl⟩, Nat.not_lt.1 hle⟩

/-! ## The mutex -/

/-- A thread that holds the mutex or not locks it when it does not and gives it back, and it signals
only while it holds it. -/
def Balanced : Bool → List Access → Prop
  | held, [] => held = false
  | held, .lock :: as => held = false ∧ Balanced true as
  | held, .unlock :: as => held = true ∧ Balanced false as
  | held, .signal :: as => held = true ∧ Balanced held as
  | held, .setState _ _ _ :: as => Balanced held as
  | held, .setPdpState _ _ :: as => Balanced held as

theorem Balanced.append {held : Bool} {as bs : List Access} (h : Balanced held as) (h' : Balanced false bs) :
    Balanced held (as ++ bs) := by
  induction as generalizing held with
  | nil => exact h ▸ h'
  | cons a as ih =>
    cases a with
    | lock => exact ⟨h.1, ih h.2⟩
    | unlock => exact ⟨h.1, ih h.2⟩
    | signal => exact ⟨h.1, ih h.2⟩
    | setState =>
      have hrest : Balanced held as := h
      exact ih hrest
    | setPdpState =>
      have hrest : Balanced held as := h
      exact ih hrest

theorem balanced_putPDP (socket_id : RIL_SOCKET_ID) (cid : Int) : Balanced false (putPDP socket_id cid) := by
  unfold putPDP
  split <;> simp [Balanced]

theorem balanced_slotCalls (socket_id : RIL_SOCKET_ID) (calls : List SlotCall) :
    Balanced false (calls.flatMap (·.accesses socket_id)) := by
  induction calls with
  | nil => rfl
  | cons call calls ih =>
    rw [List.flatMap_cons]
    refine .append ?_ ih
    cases call with
    | getPDP => rfl
    | putPDPByIndex => rfl
    | putPDP i => exact balanced_putPDP socket_id i

theorem balanced_ending (socket_id : RIL_SOCKET_ID) (ending : Ending) : Balanced false (ending.accesses socket_id) := by
  cases ending with
  | done => simp [Ending.accesses, Balanced]
  | error fb_cid index =>
    refine .append ?_ (by simp [Balanced])
    split
    · exact .append (.append (balanced_putPDP _ _) (balanced_putPDP _ _)) rfl
    · rfl

theorem balanced_setup (s : Setup) : Balanced false s.accesses :=
  .append (.append (balanced_slotCalls _ _) (balanced_ending _ _)) (balanced_slotCalls _ _)

def Opener.Balanced (held : Bool) : Opener → Prop
  | .idle | .found _ | .tested _ | .waiting _ | .woken _ => held = false
  | .holding _ | .relocked _ => held = true
  | .setup as => Waiting.Balanced held as

def State.held (s : State) (who : Thread) : Bool := s.mutex = some who

/-- An access keeps the discipline of its thread and leaves that of the other alone. -/
theorem access_held {who other : Thread} {x : Access} {as : List Access} (h : Balanced (s.held who) (x :: as))
    (hne : other ≠ who) (hrun : access who x s = some s') : Balanced (s'.held who) as ∧ s'.held other = s.held other := by
  cases x with
  | lock =>
    simp only [access] at hrun
    split at hrun
    · rename_i hfree
      cases hrun
      refine ⟨by simpa [State.held] using h.2, ?_⟩
      simp [State.held, hfree, Ne.symm hne]
    · cases hrun
  | unlock =>
    cases hrun
    have hheld : s.mutex = some who := of_decide_eq_true h.1
    refine ⟨by simpa [State.held] using h.2, ?_⟩
    simp [State.held, hheld, Ne.symm hne]
  | signal =>
    cases hrun
    exact ⟨h.2, rfl⟩
  | setState =>
    cases hrun
    exact ⟨h, rfl⟩
  | setPdpState =>
    cases hrun
    exact ⟨h, rfl⟩

/-! ## Tests in time -/

/-- The flag is found unset only while a setup is on its way to its signal, and the signal does not
fall between the test and the lock. -/
def TestsInTime (s : State) (a : Step) : Prop :=
  (∀ i, a = .test → s.opener = .found i → s.pdpState i = false → .signal ∈ s.caller) ∧
    ∀ i, a = .callerAccess → s.caller.head? = some .signal → s.opener ≠ .tested i

/-- Between its test and its wake, the opener awaits a signal to come. -/
structure InTime (s : State) : Prop where
  caller : Balanced (s.held .caller) s.caller
  opener : s.opener.Balanced (s.held .opener)
  awaited : ∀ i, s.opener = .tested i ∨ s.opener = .holding i ∨ s.opener = .waiting i → s.signals < s.awaited

theorem Opener.Balanced.wake {held : Bool} {o : Opener} (h : o.Balanced held) : o.wake.Balanced held := by
  cases o <;> exact h

/-- What the opener has left of a setup of its own. -/
theorem Opener.Balanced.rest {held : Bool} {as : List Access} (h : Waiting.Balanced held as) :
    Opener.Balanced held (if as = [] then .idle else .setup as) := by
  split
  · rename_i hnil
    rw [hnil] at h
    exact h
  · exact h

theorem State.held_iff {who : Thread} : s.held who = true ↔ s.mutex = some who := by
  simp [State.held]

theorem State.held_free {who : Thread} (h : s.mutex = none) : s.held who = false := by
  simp [State.held, h]

theorem inTime_init : InTime .init where
  caller := rfl
  opener := rfl
  awaited i h := by
    rcases h with h | h | h <;> cases h

theorem inTime_step (h : InTime s) (hC : TestsInTime s a) (hstep : step s a = some s') : InTime s' := by
  obtain ⟨hcaller, hopener, hawaited⟩ := h
  cases a with
  | find socket_id i =>
    simp only [step] at hstep
    split at hstep
    · rename_i hbusy
      cases hstep
      rw [hbusy.1] at hopener
      exact ⟨hcaller, hopener, fun _ h => by rcases h with h | h | h <;> cases h⟩
    · cases hstep
  | test =>
    simp only [step] at hstep
    split at hstep
    · rename_i i hfound
      rw [hfound] at hopener
      split at hstep
      · cases hstep
        exact ⟨hcaller, hopener, fun _ h => by rcases h with h | h | h <;> cases h⟩
      · rename_i hflag
        cases hstep
        refine ⟨hcaller, hopener, fun _ _ => ?_⟩
        dsimp only
        rw [if_pos (hC.1 i rfl hfound (eq_false_of_ne_true hflag))]
        exact Nat.lt_succ_self _
    · cases hstep
  | lock =>
    simp only [step] at hstep
    split at hstep
    · rename_i i htested
      split at hstep
      · rename_i hfree
        cases hstep
        rw [State.held_free hfree] at hcaller
        exact ⟨hcaller, rfl, fun _ _ => hawaited i (.inl htested)⟩
      · cases hstep
    · cases hstep
  | wait =>
    simp only [step] at hstep
    split at hstep
    · rename_i i hholding
      cases hstep
      rw [hholding] at hopener
      have hmutex : s.mutex = some .opener := State.held_iff.1 hopener
      have hother : s.held .caller = false := by simp [State.held, hmutex]
      rw [hother] at hcaller
      exact ⟨hcaller, rfl, fun _ _ => hawaited i (.inr (.inl hholding))⟩
    · cases hstep
  | wake =>
    simp only [step] at hstep
    split at hstep
    · rename_i i hwaiting
      cases hstep
      rw [hwaiting] at hopener
      exact ⟨hcaller, hopener, fun _ h => by rcases h with h | h | h <;> cases h⟩
    · cases hstep
  | relock =>
    simp only [step] at hstep
    split at hstep
    · split at hstep
      · rename_i hfree
        cases hstep
        rw [State.held_free hfree] at hcaller
        exact ⟨hcaller, rfl, fun _ h => by rcases h with h | h | h <;> cases h⟩
      · cases hstep
    · cases hstep
  | unlock =>
    simp only [step] at hstep
    split at hstep
    · rename_i i hrelocked
      cases hstep
      rw [hrelocked] at hopener
      have hmutex : s.mutex = some .opener := State.held_iff.1 hopener
      have hother : s.held .caller = false := by simp [State.held, hmutex]
      rw [hother] at hcaller
      exact ⟨hcaller, rfl, fun _ h => by rcases h with h | h | h <;> cases h⟩
    · cases hstep
  | beginOwn setup =>
    simp only [step] at hstep
    split at hstep
    · rename_i hidle
      cases hstep
      rw [hidle] at hopener
      have hbalanced : Balanced (s.held .opener) setup.accesses := by
        rw [hopener]
        exact balanced_setup setup
      exact ⟨hcaller, hbalanced, fun _ h => by rcases h with h | h | h <;> cases h⟩
    · cases hstep
  | ownAccess =>
    simp only [step] at hstep
    split at hstep
    · rename_i x as hsetup
      rw [hsetup] at hopener
      obtain ⟨hframe, hlist, -, -⟩ := access_frame hstep
      have hdiscipline : Balanced (State.held { s with opener := if as = [] then .idle else .setup as } .opener) (x :: as) :=
        hopener
      obtain ⟨hrest, hother⟩ := access_held hdiscipline (by decide : Thread.caller ≠ .opener) hstep
      have hidle : s'.opener = if as = [] then .idle else .setup as := by
        rw [hframe]
        by_cases hnil : as = [] <;> simp [hnil, Opener.wake]
      refine ⟨?_, ?_, fun i h => ?_⟩
      · rw [hother, hlist]
        exact hcaller
      · rw [hidle]
        exact .rest hrest
      · rw [hidle] at h
        by_cases hnil : as = [] <;> simp [hnil] at h
    · cases hstep
  | begin setup =>
    simp only [step] at hstep
    split at hstep
    · rename_i hnil
      cases hstep
      rw [hnil] at hcaller
      have hfree : s.held .caller = false := hcaller
      have hbalanced : Balanced (s.held .caller) setup.accesses := by
        rw [hfree]
        exact balanced_setup setup
      exact ⟨hbalanced, hopener, hawaited⟩
    · cases hstep
  | callerAccess =>
    simp only [step] at hstep
    split at hstep
    · rename_i x as hlist
      rw [hlist] at hcaller
      obtain ⟨hframe, hlist', hsignals, hawaited'⟩ := access_frame hstep
      have hdiscipline : Balanced
          (State.held { s with caller := as, signals := if x = .signal then s.signals + 1 else s.signals } .caller)
          (x :: as) :=
        hcaller
      obtain ⟨hrest, hother⟩ := access_held hdiscipline (by decide : Thread.opener ≠ .caller) hstep
      refine ⟨?_, ?_, fun i h => ?_⟩
      · rw [hlist']
        exact hrest
      · rw [hother, hframe]
        split
        · exact hopener.wake
        · exact hopener
      · rw [hsignals, hawaited']
        dsimp only
        by_cases hx : x = .signal
        · -- whoever signals holds the mutex, so the opener does not, and the signal does not fall after its test
          rw [hframe, if_pos hx] at h
          rw [hx] at hcaller
          have hmutex : s.mutex = some .caller := State.held_iff.1 hcaller.1
          have hfree : s.held .opener = false := by simp [State.held, hmutex]
          have htested := hC.2 i rfl (by rw [hlist, hx]; rfl)
          rw [hfree] at hopener
          cases ho : s.opener <;> simp_all [Opener.wake, Opener.Balanced]
        · rw [if_neg hx]
          rw [hframe, if_neg hx] at h
          exact hawaited i h
    · cases hstep

theorem InTime.waitsInTime (h : InTime s) : WaitsInTime s a :=
  fun i hholding _ => h.awaited i (.inr (.inl hholding))

theorem init_not_stuck : ¬ Stuck .init :=
  fun h => by
    obtain ⟨_, hw⟩ := h.1
    cases hw

/-- **An opener is always woken** in exactly the runs in which each wait begins before the signal of
the setup on its way. These are at least the runs whose tests come in time. -/
theorem open_woken_iff (as : List Step) :
    (Runs.Always step (¬ Stuck ·) .init as ↔ Runs.Steps step WaitsInTime .init as) ∧
      (Runs.Steps step TestsInTime .init as → Runs.Always step (¬ Stuck ·) .init as) := by
  have hiff := always_not_stuck_iff init_not_stuck as
  refine ⟨hiff, fun hC => hiff.2 ?_⟩
  exact Runs.steps_mono (fun _ _ _ => inTime_step) (fun _ _ h _ => h.waitsInTime) inTime_init hC

def setupOfSlot0 : Setup where
  socket_id := .RIL_SOCKET_1
  before := [.getPDP 0]
  ending := .done 0
  after := []

/-- The whole end of the setup falls between the test of the flag and the lock. -/
def lateOpen : List Step :=
  [.begin setupOfSlot0, .callerAccess, .find .RIL_SOCKET_1 0, .test, .callerAccess, .callerAccess, .callerAccess, .callerAccess,
    .lock, .wait]

theorem open_not_woken : ∃ s, Runs.run step .init lateOpen = some s ∧ s.opener = .waiting 0 ∧ s.caller = [] ∧
    s.pdpState 0 = true ∧ Stuck s := by
  have hrun : (Runs.run step .init lateOpen).any (fun s => s.opener = .waiting 0 ∧ s.caller = [] ∧ s.pdpState 0 = true ∧
      s.awaited ≤ s.signals) = true := by decide
  obtain ⟨s, hs, h⟩ := (Option.any_eq_true _ _).1 hrun
  obtain ⟨hwaiting, hcaller, hflag, hsignals⟩ := of_decide_eq_true h
  exact ⟨s, hs, hwaiting, hcaller, hflag, ⟨0, hwaiting⟩, hsignals⟩

end UniRil.Data.Waiting
