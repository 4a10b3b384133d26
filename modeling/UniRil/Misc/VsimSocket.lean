import Mathlib.Data.List.Nodup
import Mathlib.Data.List.Count
import UniRil.Lib.Runs

/-!
# The socket of the virtual SIM (ril_misc.c)

`s_vsimClientFd` and `s_vsimListenLoop` are shared by the listener, the threads that send to the client, and the
requests VSIM_CREATE, VSIM_INIT and VSIM_EXIT of any SIM. A section of `s_vsimSocketMutex` is one step, and so is every
other read or store of a shared variable. Descriptors are named by the number of their acceptance.
-/

namespace UniRil.Misc.Vsim

/-- Who closes the client. -/
inductive Closer where
  | listenVsimSocketThread
  | sendVsimReqThread
  | VSIM_EXIT
deriving DecidableEq

/-- The next step of a thread. -/
inductive Thread where
  /-- VSIM_CREATE -/
  | setsInitFlag (socket_id : Nat)
  | testsListenLoop
  | vsimInit
  /-- VSIM_INIT, at the head of its loop with the mutex. -/
  | testsClient
  /-- In pthread_cond_wait. -/
  | waits
  /-- VSIM_EXIT -/
  | clearsInitFlag (socket_id : Nat)
  | sendsExit
  | testsInitFlags
  | testsOpen
  | stopsListening
  /-- listenVsimSocketThread -/
  | accepts
  | signals
  | reads
  /-- Behind the close, with the descriptor that was closed. -/
  | clearsListenLoop (closed : Option Nat)
  | loops
  /-- sendVsimReqThread -/
  | testsConnected
  | writes
  | closes (who : Closer)
  /-- At the store of -1, with the descriptor that was closed. -/
  | clears (who : Closer) (closed : Option Nat)
  | done
deriving DecidableEq

structure State where
  /-- None is -1. -/
  s_vsimClientFd : Option Nat
  s_vsimListenLoop : Bool
  s_vsimInitFlag : Nat → Bool
  threads : List Thread
  accepted : Nat
  closed : List Nat

def State.start : State where
  s_vsimClientFd := none
  s_vsimListenLoop := false
  s_vsimInitFlag := fun _ => false
  threads := []
  accepted := 0
  closed := []

inductive Entry where
  | VSIM_CREATE (socket_id : Nat)
  | VSIM_INIT
  | VSIM_EXIT (socket_id : Nat)
  | sendVsimReq
deriving DecidableEq

def Entry.thread : Entry → Thread
  | .VSIM_CREATE socket_id => .setsInitFlag socket_id
  | .VSIM_INIT => .testsClient
  | .VSIM_EXIT socket_id => .clearsInitFlag socket_id
  | .sendVsimReq => .testsConnected

inductive Label where
  | start (entry : Entry)
  /-- A wait ends without a signal. -/
  | wakes (i : Nat)
  /-- The next step of a thread: what it calls succeeds or not, and which thread a signal wakes, if it waits. -/
  | thread (i : Nat) (success : Bool) (woken : Nat)
deriving DecidableEq

def State.goto (s : State) (i : Nat) (t : Thread) : State := { s with threads := s.threads.set i t }

/-- pthread_cond_signal -/
def signal (woken : Nat) (threads : List Thread) : List Thread :=
  threads.set (if threads[woken]? = some .waits then woken else threads.idxOf .waits) .testsClient

def Closer.afterClose (closed : Option Nat) : Closer → Thread
  | .listenVsimSocketThread => .clearsListenLoop closed
  | who => .clears who closed

def Closer.afterClear : Closer → Thread
  | .listenVsimSocketThread => .loops
  | .sendVsimReqThread => .done
  | .VSIM_EXIT => .stopsListening

/-- With one SIM, only its flag is tested. -/
def initFlags (SIM_COUNT : Nat) (s : State) : Bool :=
  s.s_vsimInitFlag 0 || (2 ≤ SIM_COUNT && s.s_vsimInitFlag 1)

def act (SIM_COUNT : Nat) (i : Nat) (success : Bool) (woken : Nat) (s : State) : Thread → Option State
  | .setsInitFlag socket_id =>
    some { s.goto i .testsListenLoop with s_vsimInitFlag := Function.update s.s_vsimInitFlag socket_id true }
  | .testsListenLoop => some (s.goto i (if s.s_vsimListenLoop then .done else .vsimInit))
  -- pthread_create makes the listener or fails
  | .vsimInit => some { s with threads := s.threads.set i .done ++ if success then [.accepts] else [] }
  | .testsClient => some (s.goto i (if s.s_vsimClientFd = none then .waits else .done))
  | .waits => none
  | .clearsInitFlag socket_id =>
    some { s.goto i .sendsExit with s_vsimInitFlag := Function.update s.s_vsimInitFlag socket_id false }
  | .sendsExit => some (s.goto i (if success then .testsInitFlags else .done))
  | .testsInitFlags => some (s.goto i (if initFlags SIM_COUNT s then .done else .testsOpen))
  | .testsOpen => some (s.goto i (if s.s_vsimClientFd = none then .stopsListening else .closes .VSIM_EXIT))
  | .stopsListening => some { s.goto i .done with s_vsimListenLoop := false }
  | .accepts =>
    some { s.goto i .signals with
      s_vsimClientFd := if success then some s.accepted else none
      accepted := if success then s.accepted + 1 else s.accepted }
  | .signals => some { s with threads := signal woken (s.threads.set i .reads), s_vsimListenLoop := true }
  | .reads => some (s.goto i (if success then .loops else .closes .listenVsimSocketThread))
  | .clearsListenLoop closed =>
    some { s.goto i (.clears .listenVsimSocketThread closed) with s_vsimListenLoop := false }
  | .loops => some (s.goto i (if s.s_vsimClientFd = none then .done else .reads))
  | .testsConnected => some (s.goto i (if s.s_vsimClientFd = none then .done else .writes))
  | .writes => some (s.goto i (if success then .done else .closes .sendVsimReqThread))
  | .closes who =>
    some { s.goto i (who.afterClose s.s_vsimClientFd) with closed := s.closed ++ s.s_vsimClientFd.toList }
  | .clears who _ => some { s.goto i who.afterClear with s_vsimClientFd := none }
  | .done => none

def step (SIM_COUNT : Nat) (s : State) : Label → Option State
  | .start entry => some { s with threads := s.threads ++ [entry.thread] }
  | .wakes i => if s.threads[i]? = some .waits then some (s.goto i .testsClient) else none
  | .thread i success woken => s.threads[i]?.bind (act SIM_COUNT i success woken s)

/-! ## The owner and the waiters -/

def Thread.isListener : Thread → Bool
  | .accepts | .signals | .reads | .clearsListenLoop _ | .loops | .closes .listenVsimSocketThread
  | .clears .listenVsimSocketThread _ => true
  | _ => false

/-- A listener whose accept has returned. -/
def Thread.hasAccepted (t : Thread) : Bool := t.isListener && t != .accepts

/-- The thread has closed the descriptor, and not stored -1 since. -/
def Thread.hasClosed (d : Nat) : Thread → Bool
  | .clearsListenLoop closed | .clears _ closed => closed = some d
  | _ => false

/-- One listener is alive at most. No descriptor is closed twice, and one that was not closed is the client of a
listener. No VSIM_INIT waits while a descriptor is open and no signal is owed. -/
structure Owned (s : State) : Prop where
  oneListener : s.threads.countP Thread.isListener ≤ 1
  closedOnce : s.closed.Nodup
  kept : ∀ d < s.accepted, d ∉ s.closed → s.s_vsimClientFd = some d ∧ ∃ t ∈ s.threads, t.hasAccepted
  woken : ∀ d < s.accepted, d ∉ s.closed → .signals ∉ s.threads → .waits ∉ s.threads

/-- Some thread is between its close of the descriptor and its store of -1. -/
def State.Closing (s : State) (d : Nat) : Prop := ∃ t ∈ s.threads, t.hasClosed d

def TurnOf (s : State) (success : Bool) : Thread → Prop
  | .vsimInit => success = true → ∀ t ∈ s.threads, ¬ t.isListener
  | .closes _ => ∀ d, s.s_vsimClientFd = some d → ¬ s.Closing d
  | .clears _ _ => ∀ d, s.s_vsimClientFd = some d → s.Closing d
  | .signals => ∀ d, s.s_vsimClientFd = some d → ¬ s.Closing d → s.threads.count .waits ≤ 1
  | _ => True

/-- VSIM_CREATE makes a listener when none is alive. No thread comes to close the client while another one is between
its close of it and its store of -1, and none stores -1 over a client that nobody closed. A listener signals a client
that is not being closed when one VSIM_INIT waits at most. -/
def TakesTurns (s : State) : Label → Prop
  | .thread i success _ => ∀ t, s.threads[i]? = some t → TurnOf s success t
  | _ => True

variable {SIM_COUNT i : Nat} {s s' : State} {t u : Thread} {l : List Thread} {p : Thread → Bool}

/-! ## Counting threads -/

theorem countP_set_add (h : l[i]? = some t) :
    (l.set i u).countP p + (p t).toNat = l.countP p + (p u).toNat := by
  induction l generalizing i with
  | nil => cases h
  | cons v l ih =>
    cases i with
    | zero =>
      obtain rfl : v = t := by simpa using h
      rw [List.set_cons_zero, List.countP_cons, List.countP_cons]
      cases p v
      all_goals
        cases p u
        all_goals simp
    | succ i =>
      have hrest := ih (i := i) h
      rw [List.set_cons_succ, List.countP_cons, List.countP_cons]
      omega

theorem countP_goto (hi : s.threads[i]? = some t) (hp : p u = p t) :
    (s.goto i u).threads.countP p = s.threads.countP p := by
  have hset := countP_set_add (p := p) (u := u) hi
  rw [hp] at hset
  exact Nat.add_right_cancel hset

theorem countP_goto_add (hi : s.threads[i]? = some t) (hp : p t = false) (hp' : p u = true) :
    (s.goto i u).threads.countP p = s.threads.countP p + 1 := by
  have hset := countP_set_add (p := p) (u := u) hi
  rw [hp, hp'] at hset
  exact hset

theorem countP_goto_sub (hi : s.threads[i]? = some t) (hp : p t = true) (hp' : p u = false) :
    (s.goto i u).threads.countP p + 1 = s.threads.countP p := by
  have hset := countP_set_add (p := p) (u := u) hi
  rw [hp, hp'] at hset
  exact hset

theorem signal_cases (woken : Nat) (l : List Thread) :
    (.waits ∉ l ∧ signal woken l = l) ∨ ∃ k, l[k]? = some .waits ∧ signal woken l = l.set k .testsClient := by
  unfold signal
  split_ifs with hwoken
  · exact .inr ⟨woken, hwoken, rfl⟩
  · by_cases hmem : .waits ∈ l
    · exact .inr ⟨l.idxOf .waits, List.getElem?_idxOf hmem, rfl⟩
    · exact .inl ⟨hmem, List.set_eq_of_length_le (Nat.le_of_eq (List.idxOf_eq_length hmem).symm)⟩

theorem countP_signal (woken : Nat) (hp : p .waits = p .testsClient) : (signal woken l).countP p = l.countP p := by
  rcases signal_cases woken l with ⟨-, heq⟩ | ⟨k, hk, heq⟩
  · rw [heq]
  · have hset := countP_set_add (p := p) (u := .testsClient) hk
    rw [heq]
    rw [hp] at hset
    omega

theorem count_signal (woken : Nat) (l : List Thread) : (signal woken l).count .waits = l.count .waits - 1 := by
  rcases signal_cases woken l with ⟨hnone, heq⟩ | ⟨k, hk, heq⟩
  · rw [heq, List.count_eq_zero.2 hnone]
  · have hset := countP_set_add (p := (· == .waits)) (u := .testsClient) hk
    have hone : (l.set k .testsClient).count .waits + 1 = l.count .waits := hset
    rw [heq]
    omega

/-! ## What the threads keep -/

structure Guarded (s : State) : Prop where
  oneListener : s.threads.countP Thread.isListener ≤ 1
  connected : s.s_vsimClientFd ≠ none → 0 < s.threads.countP Thread.hasAccepted
  closedOnce : s.closed.Nodup
  closedKnown : ∀ d ∈ s.closed, d < s.accepted
  known : ∀ d, s.s_vsimClientFd = some d → d < s.accepted
  kept : ∀ d < s.accepted, d ∉ s.closed → s.s_vsimClientFd = some d
  hasClosed : ∀ d, 0 < s.threads.countP (Thread.hasClosed d) → d ∈ s.closed
  closing : ∀ d, s.s_vsimClientFd = some d → d ∈ s.closed → 0 < s.threads.countP (Thread.hasClosed d)
  woken : ∀ d < s.accepted, d ∉ s.closed → 0 < s.threads.count .signals ∨ s.threads.count .waits = 0

theorem guarded_start : Guarded .start where
  oneListener := by decide
  connected h := absurd rfl h
  closedOnce := List.nodup_nil
  closedKnown := by rintro d ⟨⟩
  known := by rintro d ⟨⟩
  kept := by rintro d ⟨⟩
  hasClosed := by rintro d ⟨⟩
  closing := by rintro d ⟨⟩
  woken := by rintro d ⟨⟩

theorem closing_iff {d : Nat} : s.Closing d ↔ 0 < s.threads.countP (Thread.hasClosed d) := by
  rw [List.countP_pos_iff]
  rfl

theorem Guarded.mem_closed_iff (h : Guarded s) {d : Nat} (hd : s.s_vsimClientFd = some d) :
    d ∈ s.closed ↔ s.Closing d := by
  rw [closing_iff]
  exact ⟨h.closing d hd, h.hasClosed d⟩

theorem Guarded.owned (h : Guarded s) : Owned s where
  oneListener := h.oneListener
  closedOnce := h.closedOnce
  kept d hd hopen := by
    have hclient := h.kept d hd hopen
    refine ⟨hclient, List.countP_pos_iff.1 (h.connected ?_)⟩
    rw [hclient]
    exact Option.some_ne_none d
  woken d hd hopen hnone := by
    rw [← List.count_eq_zero] at hnone ⊢
    exact (h.woken d hd hopen).resolve_left (by omega)

/-- The threads move, and the descriptors stay. -/
theorem Guarded.moves (h : Guarded s) (hclient : s'.s_vsimClientFd = s.s_vsimClientFd)
    (haccepted : s'.accepted = s.accepted) (hclosed : s'.closed = s.closed)
    (hlistener : s'.threads.countP Thread.isListener ≤ 1)
    (hconnected : s.s_vsimClientFd ≠ none →
      s.threads.countP Thread.hasAccepted ≤ s'.threads.countP Thread.hasAccepted)
    (hclosing : ∀ d, s'.threads.countP (Thread.hasClosed d) = s.threads.countP (Thread.hasClosed d))
    (hwoken : ∀ d < s.accepted, d ∉ s.closed → 0 < s'.threads.count .signals ∨ s'.threads.count .waits = 0) :
    Guarded s' := by
  constructor
  · exact hlistener
  · intro hne
    rw [hclient] at hne
    exact Nat.lt_of_lt_of_le (h.connected hne) (hconnected hne)
  · rw [hclosed]
    exact h.closedOnce
  · rw [hclosed, haccepted]
    exact h.closedKnown
  · rw [hclient, haccepted]
    exact h.known
  · rw [hclient, haccepted, hclosed]
    exact h.kept
  · intro d hd
    rw [hclosed]
    exact h.hasClosed d (hclosing d ▸ hd)
  · intro d hd hmem
    rw [hclosing]
    rw [hclient] at hd
    rw [hclosed] at hmem
    exact h.closing d hd hmem
  · rw [haccepted, hclosed]
    exact hwoken

/-- Two places of a thread that mean the same to the others. -/
structure SameRole (t u : Thread) : Prop where
  isListener : u.isListener = t.isListener
  hasAccepted : u.hasAccepted = t.hasAccepted
  hasClosed : ∀ d, u.hasClosed d = t.hasClosed d
  signals : (u == .signals) = (t == .signals)
  waits : (u == .waits) = (t == .waits)

theorem Guarded.goto (h : Guarded s) (hi : s.threads[i]? = some t) (hrole : SameRole t u) : Guarded (s.goto i u) := by
  refine h.moves rfl rfl rfl ?_ ?_ ?_ ?_
  · rw [countP_goto hi hrole.isListener]
    exact h.oneListener
  · intro _
    exact Nat.le_of_eq (countP_goto hi hrole.hasAccepted).symm
  · intro d
    exact countP_goto hi (hrole.hasClosed d)
  · intro d hd hopen
    unfold List.count
    rw [countP_goto hi hrole.signals, countP_goto hi hrole.waits]
    exact h.woken d hd hopen

/-! ## The steps -/

theorem Guarded.starts (h : Guarded s) (entry : Entry) : Guarded { s with threads := s.threads ++ [entry.thread] } := by
  have hsame : ∀ {p : Thread → Bool}, p entry.thread = false →
      (s.threads ++ [entry.thread]).countP p = s.threads.countP p := by
    intro p hp
    rw [List.countP_append, List.countP_singleton, hp]
    rfl
  refine h.moves rfl rfl rfl ?_ ?_ ?_ ?_
  · refine Nat.le_trans (Nat.le_of_eq (hsame ?_)) h.oneListener
    cases entry
    all_goals rfl
  · intro _
    refine Nat.le_of_eq (hsame ?_).symm
    cases entry
    all_goals rfl
  · intro d
    apply hsame
    cases entry
    all_goals rfl
  · intro d hd hopen
    dsimp only
    rw [List.count_eq_countP, List.count_eq_countP, hsame, hsame]
    · exact h.woken d hd hopen
    all_goals
      cases entry
      all_goals rfl

theorem Guarded.wakes (h : Guarded s) (hi : s.threads[i]? = some .waits) : Guarded (s.goto i .testsClient) := by
  refine h.moves rfl rfl rfl ?_ ?_ ?_ ?_
  · rw [countP_goto (p := Thread.isListener) (u := .testsClient) hi rfl]
    exact h.oneListener
  · intro _
    exact Nat.le_of_eq (countP_goto (p := Thread.hasAccepted) (u := .testsClient) hi rfl).symm
  · intro d
    exact countP_goto hi rfl
  · intro d hd hopen
    unfold List.count
    rw [countP_goto (p := (· == .signals)) (u := .testsClient) hi rfl]
    have hwaits := countP_goto_sub (p := (· == .waits)) (u := .testsClient) hi rfl rfl
    refine (h.woken d hd hopen).imp_right fun hnone => ?_
    unfold List.count at hnone
    omega

/-- A VSIM_INIT that finds no client finds no descriptor open. -/
theorem Guarded.waits (h : Guarded s) (hi : s.threads[i]? = some .testsClient) (hnone : s.s_vsimClientFd = none) :
    Guarded (s.goto i .waits) := by
  refine h.moves rfl rfl rfl ?_ ?_ ?_ ?_
  · rw [countP_goto (p := Thread.isListener) (u := .waits) hi rfl]
    exact h.oneListener
  · intro _
    exact Nat.le_of_eq (countP_goto (p := Thread.hasAccepted) (u := .waits) hi rfl).symm
  · intro d
    exact countP_goto hi rfl
  · intro d hd hopen
    have hclient := h.kept d hd hopen
    rw [hnone] at hclient
    cases hclient

/-- A listener ends without a client. -/
theorem Guarded.ends (h : Guarded s) (hi : s.threads[i]? = some .loops) (hnone : s.s_vsimClientFd = none) :
    Guarded (s.goto i .done) := by
  refine h.moves rfl rfl rfl ?_ ?_ ?_ ?_
  · have hless := countP_goto_sub (p := Thread.isListener) (u := .done) hi rfl rfl
    have hone := h.oneListener
    omega
  · intro hne
    exact absurd hnone hne
  · intro d
    exact countP_goto hi rfl
  · intro d hd hopen
    unfold List.count
    rw [countP_goto (p := (· == .signals)) (u := .done) hi rfl, countP_goto (p := (· == .waits)) (u := .done) hi rfl]
    exact h.woken d hd hopen

theorem Guarded.creates {success : Bool} (h : Guarded s) (hi : s.threads[i]? = some .vsimInit)
    (hnone : success = true → ∀ t ∈ s.threads, ¬ t.isListener) :
    Guarded { s with threads := s.threads.set i .done ++ if success then [.accepts] else [] } := by
  have hdone : Guarded (s.goto i .done) := h.goto hi ⟨rfl, rfl, fun _ => rfl, rfl, rfl⟩
  cases success with
  | false =>
    simpa [State.goto] using hdone
  | true =>
    have hadd : ∀ p : Thread → Bool, (s.threads.set i .done ++ [Thread.accepts]).countP p =
        (s.goto i .done).threads.countP p + (p Thread.accepts).toNat := by
      intro p
      rw [List.countP_append, List.countP_singleton]
      cases p Thread.accepts
      all_goals rfl
    refine hdone.moves rfl rfl rfl ?_ ?_ ?_ ?_
    · have hzero : s.threads.countP Thread.isListener = 0 := List.countP_eq_zero.2 (hnone rfl)
      refine Nat.le_of_eq ((hadd Thread.isListener).trans ?_)
      rw [countP_goto (u := .done) hi rfl, hzero]
      rfl
    · intro _
      exact Nat.le_of_eq (hadd Thread.hasAccepted).symm
    · intro d
      exact hadd (Thread.hasClosed d)
    · intro d hd hopen
      have hsignals := hadd (· == .signals)
      have hwaits := hadd (· == .waits)
      have hwoken := hdone.woken d hd hopen
      unfold List.count at hwoken ⊢
      dsimp only
      rw [if_pos rfl, hsignals, hwaits]
      exact hwoken

theorem countP_hasAccepted_add (l : List Thread) :
    l.countP Thread.hasAccepted + l.count .accepts = l.countP Thread.isListener := by
  induction l with
  | nil => rfl
  | cons t l ih =>
    rw [List.countP_cons, List.countP_cons, List.count_cons, ← ih]
    by_cases ht : t = .accepts
    · subst ht
      simp [Thread.hasAccepted, Thread.isListener]
      omega
    · simp [Thread.hasAccepted, ht]
      omega

/-- A listener that waits for a client is the only one, so that there is none. -/
theorem Guarded.client_eq_none (h : Guarded s) (hi : s.threads[i]? = some .accepts) : s.s_vsimClientFd = none := by
  by_contra hne
  have hconnected := h.connected hne
  have hadd := countP_hasAccepted_add s.threads
  have haccepts := List.count_pos_iff.2 (List.mem_of_getElem? hi)
  have hone := h.oneListener
  omega

theorem Guarded.accepts (h : Guarded s) (hi : s.threads[i]? = some .accepts) (success : Bool) :
    Guarded { s.goto i .signals with
      s_vsimClientFd := if success then some s.accepted else none
      accepted := if success then s.accepted + 1 else s.accepted } := by
  have hnone := h.client_eq_none hi
  have hclosed : ∀ d < s.accepted, d ∈ s.closed := by
    intro d hd
    by_contra hopen
    have hclient := h.kept d hd hopen
    rw [hnone] at hclient
    cases hclient
  have hconnected := countP_goto_add (p := Thread.hasAccepted) (u := .signals) hi rfl rfl
  have howed := countP_goto_add (p := (· == .signals)) (u := .signals) hi rfl rfl
  constructor
  · exact Nat.le_trans (Nat.le_of_eq (countP_goto (p := Thread.isListener) (u := .signals) hi rfl)) h.oneListener
  · intro _
    exact Nat.lt_of_lt_of_eq (Nat.succ_pos _) hconnected.symm
  · exact h.closedOnce
  · intro d hd
    have hlt := h.closedKnown d hd
    dsimp only
    split_ifs
    all_goals omega
  · intro d hd
    cases success with
    | false => cases hd
    | true =>
      obtain rfl := Option.some.inj hd
      exact Nat.lt_succ_self _
  · intro d hd hopen
    cases success with
    | false => exact absurd (hclosed d hd) hopen
    | true =>
      rcases Nat.lt_succ_iff_lt_or_eq.1 hd with hlt | rfl
      · exact absurd (hclosed d hlt) hopen
      · rfl
  · intro d hd
    apply h.hasClosed d
    exact Nat.lt_of_lt_of_eq hd (countP_goto (p := Thread.hasClosed d) (u := .signals) hi rfl)
  · intro d hd hmem
    cases success with
    | false => cases hd
    | true =>
      obtain rfl := Option.some.inj hd
      exact absurd (h.closedKnown _ hmem) (Nat.lt_irrefl _)
  · intro d _ _
    exact .inl (Nat.lt_of_lt_of_eq (Nat.succ_pos _) howed.symm)

theorem Guarded.signals (h : Guarded s) (hi : s.threads[i]? = some .signals) (woken : Nat)
    (hfew : ∀ d, s.s_vsimClientFd = some d → ¬ s.Closing d → s.threads.count .waits ≤ 1) :
    Guarded { s with threads := signal woken (s.threads.set i .reads), s_vsimListenLoop := true } := by
  have hsame : ∀ {p : Thread → Bool}, p .waits = p .testsClient → p .reads = p .signals →
      (signal woken (s.threads.set i .reads)).countP p = s.threads.countP p := by
    intro p hp hp'
    exact (countP_signal woken hp).trans (countP_goto (u := .reads) hi hp')
  refine h.moves rfl rfl rfl ?_ ?_ ?_ ?_
  · exact Nat.le_trans (Nat.le_of_eq (hsame rfl rfl)) h.oneListener
  · intro _
    exact Nat.le_of_eq (hsame rfl rfl).symm
  · intro d
    exact hsame rfl rfl
  · intro d hd hopen
    have hclient := h.kept d hd hopen
    have hwaits : (s.threads.set i .reads).count .waits = s.threads.count .waits :=
      countP_goto (p := (· == .waits)) (u := .reads) hi rfl
    have hle := hfew d hclient (mt (h.mem_closed_iff hclient).2 hopen)
    refine .inr ?_
    dsimp only
    rw [count_signal, hwaits]
    omega

theorem sameRole_closes (who : Closer) : SameRole (.closes who) (who.afterClose none) := by
  cases who
  all_goals exact ⟨rfl, rfl, fun _ => rfl, rfl, rfl⟩

theorem Guarded.closes {who : Closer} (h : Guarded s) (hi : s.threads[i]? = some (.closes who))
    (hfree : ∀ d, s.s_vsimClientFd = some d → ¬ s.Closing d) :
    Guarded { s.goto i (who.afterClose s.s_vsimClientFd) with closed := s.closed ++ s.s_vsimClientFd.toList } := by
  rcases hclient : s.s_vsimClientFd with _ | d
  · have hgoto := h.goto hi (sameRole_closes who)
    simpa [State.goto] using hgoto
  · have hopen : d ∉ s.closed := mt (h.mem_closed_iff hclient).1 (hfree d hclient)
    have hadd : (s.goto i (who.afterClose (some d))).threads.countP (Thread.hasClosed d) =
        s.threads.countP (Thread.hasClosed d) + 1 := by
      apply countP_goto_add hi
      · rfl
      · cases who
        all_goals simp [Closer.afterClose, Thread.hasClosed]
    have hlistener : (s.goto i (who.afterClose (some d))).threads.countP Thread.isListener =
        s.threads.countP Thread.isListener := by
      apply countP_goto hi
      cases who
      all_goals rfl
    have hconnected : (s.goto i (who.afterClose (some d))).threads.countP Thread.hasAccepted =
        s.threads.countP Thread.hasAccepted := by
      apply countP_goto hi
      cases who
      all_goals rfl
    constructor
    · exact Nat.le_trans (Nat.le_of_eq hlistener) h.oneListener
    · intro _
      exact Nat.lt_of_lt_of_eq (h.connected (by rw [hclient]; exact Option.some_ne_none d)) hconnected.symm
    · exact List.nodup_append.2 ⟨h.closedOnce, List.nodup_singleton d, by
        intro e he f hf
        rw [Option.toList_some, List.mem_singleton] at hf
        subst hf
        exact ne_of_mem_of_not_mem he hopen⟩
    · intro e he
      rcases List.mem_append.1 he with he | he
      · exact h.closedKnown e he
      · obtain rfl : e = d := by simpa using he
        exact h.known e hclient
    · intro e he
      exact h.known e he
    · intro e he hnot
      exact h.kept e he fun hmem => hnot (List.mem_append_left _ hmem)
    · intro e he
      by_cases hed : e = d
      · subst hed
        simp
      · have hsame : (s.goto i (who.afterClose (some d))).threads.countP (Thread.hasClosed e) =
            s.threads.countP (Thread.hasClosed e) := by
          apply countP_goto hi
          cases who
          all_goals simp [Closer.afterClose, Thread.hasClosed, Ne.symm hed]
        exact List.mem_append_left _ (h.hasClosed e (Nat.lt_of_lt_of_eq he hsame))
    · intro e he _
      obtain rfl : d = e := Option.some.inj (hclient.symm.trans he)
      exact Nat.lt_of_lt_of_eq (Nat.succ_pos _) hadd.symm
    · intro e he hnot
      have hwoken := h.woken e he fun hmem => hnot (List.mem_append_left _ hmem)
      have hsignals : (s.goto i (who.afterClose (some d))).threads.count .signals = s.threads.count .signals := by
        apply countP_goto hi
        cases who
        all_goals rfl
      have hwaits : (s.goto i (who.afterClose (some d))).threads.count .waits = s.threads.count .waits := by
        apply countP_goto hi
        cases who
        all_goals rfl
      dsimp only
      rw [hsignals, hwaits]
      exact hwoken

theorem Guarded.clears {who : Closer} {closed : Option Nat} (h : Guarded s)
    (hi : s.threads[i]? = some (.clears who closed)) (hclosing : ∀ d, s.s_vsimClientFd = some d → s.Closing d) :
    Guarded { s.goto i who.afterClear with s_vsimClientFd := none } := by
  have hclosed : ∀ d < s.accepted, d ∈ s.closed := by
    intro d hd
    by_contra hopen
    have hclient := h.kept d hd hopen
    exact hopen ((h.mem_closed_iff hclient).2 (hclosing d hclient))
  have hlistener : (s.goto i who.afterClear).threads.countP Thread.isListener = s.threads.countP Thread.isListener := by
    apply countP_goto hi
    cases who
    all_goals rfl
  constructor
  · exact Nat.le_trans (Nat.le_of_eq hlistener) h.oneListener
  · intro hne
    exact absurd rfl hne
  · exact h.closedOnce
  · exact h.closedKnown
  · rintro d ⟨⟩
  · intro d hd hopen
    exact absurd (hclosed d hd) hopen
  · intro d hd
    apply h.hasClosed d
    have hset := countP_set_add (p := Thread.hasClosed d) (u := who.afterClear) hi
    have hfalse : who.afterClear.hasClosed d = false := by
      cases who
      all_goals rfl
    rw [hfalse, Bool.toNat_false] at hset
    exact Nat.lt_of_lt_of_le hd (by change (s.threads.set i who.afterClear).countP _ ≤ _; omega)
  · rintro d ⟨⟩
  · intro d hd hopen
    exact absurd (hclosed d hd) hopen

/-- The steps of a request or a sender between their stores: no other thread has a part in them. -/
theorem Guarded.flags {flag : Nat → Bool} {loop : Bool} (h : Guarded s) :
    Guarded { s with s_vsimInitFlag := flag, s_vsimListenLoop := loop } :=
  { h with }

theorem guarded_act {success : Bool} {woken : Nat} (h : Guarded s) (hi : s.threads[i]? = some t)
    (hturn : TurnOf s success t) (hact : act SIM_COUNT i success woken s t = some s') : Guarded s' := by
  cases t with
  | setsInitFlag socket_id =>
    obtain rfl := Option.some.inj hact
    exact (h.goto (u := .testsListenLoop) hi ⟨rfl, rfl, fun _ => rfl, rfl, rfl⟩).flags
  | testsListenLoop =>
    obtain rfl := Option.some.inj hact
    apply h.goto hi
    split_ifs
    all_goals exact ⟨rfl, rfl, fun _ => rfl, rfl, rfl⟩
  | vsimInit =>
    obtain rfl := Option.some.inj hact
    exact h.creates hi hturn
  | testsClient =>
    obtain rfl := Option.some.inj hact
    split_ifs with hnone
    · exact h.waits hi hnone
    · exact h.goto hi ⟨rfl, rfl, fun _ => rfl, rfl, rfl⟩
  | waits => cases hact
  | clearsInitFlag socket_id =>
    obtain rfl := Option.some.inj hact
    exact (h.goto (u := .sendsExit) hi ⟨rfl, rfl, fun _ => rfl, rfl, rfl⟩).flags
  | sendsExit =>
    obtain rfl := Option.some.inj hact
    apply h.goto hi
    split_ifs
    all_goals exact ⟨rfl, rfl, fun _ => rfl, rfl, rfl⟩
  | testsInitFlags =>
    obtain rfl := Option.some.inj hact
    apply h.goto hi
    split_ifs
    all_goals exact ⟨rfl, rfl, fun _ => rfl, rfl, rfl⟩
  | testsOpen =>
    obtain rfl := Option.some.inj hact
    apply h.goto hi
    split_ifs
    all_goals exact ⟨rfl, rfl, fun _ => rfl, rfl, rfl⟩
  | stopsListening =>
    obtain rfl := Option.some.inj hact
    exact (h.goto (u := .done) hi ⟨rfl, rfl, fun _ => rfl, rfl, rfl⟩).flags
  | accepts =>
    obtain rfl := Option.some.inj hact
    exact h.accepts hi success
  | signals =>
    obtain rfl := Option.some.inj hact
    exact h.signals hi woken hturn
  | reads =>
    obtain rfl := Option.some.inj hact
    apply h.goto hi
    split_ifs
    all_goals exact ⟨rfl, rfl, fun _ => rfl, rfl, rfl⟩
  | clearsListenLoop closed =>
    obtain rfl := Option.some.inj hact
    exact (h.goto (u := .clears .listenVsimSocketThread closed) hi ⟨rfl, rfl, fun _ => rfl, rfl, rfl⟩).flags
  | loops =>
    obtain rfl := Option.some.inj hact
    split_ifs with hnone
    · exact h.ends hi hnone
    · exact h.goto hi ⟨rfl, rfl, fun _ => rfl, rfl, rfl⟩
  | testsConnected =>
    obtain rfl := Option.some.inj hact
    apply h.goto hi
    split_ifs
    all_goals exact ⟨rfl, rfl, fun _ => rfl, rfl, rfl⟩
  | writes =>
    obtain rfl := Option.some.inj hact
    apply h.goto hi
    split_ifs
    all_goals exact ⟨rfl, rfl, fun _ => rfl, rfl, rfl⟩
  | closes who =>
    obtain rfl := Option.some.inj hact
    exact h.closes hi hturn
  | clears who closed =>
    obtain rfl := Option.some.inj hact
    exact h.clears hi hturn
  | done => cases hact

theorem guarded_step (s : State) (a : Label) (s' : State) (h : Guarded s) (hturn : TakesTurns s a)
    (hstep : step SIM_COUNT s a = some s') : Guarded s' := by
  cases a with
  | start entry =>
    obtain rfl := Option.some.inj hstep
    exact h.starts entry
  | wakes i =>
    obtain ⟨hi, hstep⟩ := Option.ite_none_right_eq_some.1 hstep
    obtain rfl := Option.some.inj hstep
    exact h.wakes hi
  | thread i success woken =>
    obtain ⟨t, hi, hact⟩ := Option.bind_eq_some_iff.1 hstep
    exact guarded_act h hi (hturn t hi) hact

/-! ## The steps out of turn -/

/-- A step out of turn breaks the property. -/
theorem act_breaks {success : Bool} {woken : Nat} (h : Guarded s) (hi : s.threads[i]? = some t)
    (hturn : ¬ TurnOf s success t) : ∃ s', act SIM_COUNT i success woken s t = some s' ∧ ¬ Owned s' := by
  cases t with
  | vsimInit =>
    unfold TurnOf at hturn
    push Not at hturn
    obtain ⟨rfl, v, hv, hlistener⟩ := hturn
    refine ⟨_, rfl, fun howned => ?_⟩
    have hpos : 0 < s.threads.countP Thread.isListener := List.countP_pos_iff.2 ⟨v, hv, hlistener⟩
    have hsame := countP_goto (p := Thread.isListener) (u := .done) hi rfl
    have hone := howned.oneListener
    rw [if_pos rfl, List.countP_append] at hone
    change (s.goto i .done).threads.countP _ + 1 ≤ 1 at hone
    omega
  | closes who =>
    unfold TurnOf at hturn
    push Not at hturn
    obtain ⟨d, hclient, hclosing⟩ := hturn
    refine ⟨_, rfl, fun howned => ?_⟩
    have honce := howned.closedOnce
    have hmem := (h.mem_closed_iff hclient).2 hclosing
    rw [hclient] at honce
    exact (List.nodup_append.1 honce).2.2 d hmem d (by simp) rfl
  | clears who closed =>
    unfold TurnOf at hturn
    push Not at hturn
    obtain ⟨d, hclient, hopen⟩ := hturn
    refine ⟨_, rfl, fun howned => ?_⟩
    obtain ⟨hclient', -⟩ := howned.kept d (h.known d hclient) (mt (h.mem_closed_iff hclient).1 hopen)
    cases hclient'
  | signals =>
    unfold TurnOf at hturn
    push Not at hturn
    obtain ⟨d, hclient, hopen, hmany⟩ := hturn
    refine ⟨_, rfl, fun howned => ?_⟩
    have howed : (signal woken (s.threads.set i .reads)).count .signals + 1 = s.threads.count .signals := by
      have hsub := countP_goto_sub (p := (· == .signals)) (u := .reads) hi rfl rfl
      have hsame := countP_signal (p := (· == .signals)) (l := s.threads.set i .reads) woken rfl
      change _ + 1 = s.threads.count .signals at hsub
      rw [← hsub]
      exact congrArg (· + 1) hsame
    have hone : s.threads.count .signals ≤ 1 := by
      refine Nat.le_trans (List.countP_mono_left fun v _ hv => ?_) h.oneListener
      rw [eq_of_beq hv]
      rfl
    have hwaits : (signal woken (s.threads.set i .reads)).count .waits = s.threads.count .waits - 1 := by
      have hsame := countP_goto (p := (· == .waits)) (u := .reads) hi rfl
      rw [count_signal]
      exact congrArg (· - 1) hsame
    have hnone := howned.woken d (h.known d hclient) (mt (h.mem_closed_iff hclient).1 hopen)
      (List.count_eq_zero.1 (by dsimp only; omega))
    have hzero := List.count_eq_zero.2 hnone
    dsimp only at hzero
    omega
  | _ => exact absurd trivial hturn

theorem step_breaks (s : State) (a : Label) (h : Guarded s) (hturn : ¬ TakesTurns s a) :
    ∃ s', step SIM_COUNT s a = some s' ∧ ¬ Owned s' := by
  cases a with
  | start entry => exact absurd trivial hturn
  | wakes i => exact absurd trivial hturn
  | thread i success woken =>
    unfold TakesTurns at hturn
    push Not at hturn
    obtain ⟨t, hi, hturn⟩ := hturn
    obtain ⟨s', hact, hnot⟩ := act_breaks h hi hturn
    exact ⟨s', Option.bind_eq_some_iff.2 ⟨t, hi, hact⟩, hnot⟩

/-- **In every run the socket has one owner and wakes its waiters exactly if its threads take turns.** -/
theorem owned_iff_takesTurns (SIM_COUNT : Nat) (labels : List Label) :
    Runs.Always (step SIM_COUNT) Owned .start labels ↔ Runs.Steps (step SIM_COUNT) TakesTurns .start labels :=
  Runs.always_iff_steps_of_invariant guarded_step (fun _ h => h.owned) step_breaks guarded_start labels

/-- VSIM_CREATE for both SIMs, before a client has connected. -/
def createTwice : List Label :=
  [.start (.VSIM_CREATE 0), .thread 0 true 0, .thread 0 true 0, .thread 0 true 0,
    .start (.VSIM_CREATE 1), .thread 2 true 0, .thread 2 true 0, .thread 2 true 0]

/-- Two listeners are alive. -/
theorem owned_fails_createTwice : ¬ Runs.Always (step 2) Owned .start createTwice := by
  have hrun : (Runs.run (step 2) .start createTwice).map (·.threads) = some [.done, .accepts, .done, .accepts] := by
    decide
  obtain ⟨s, hrun, hs⟩ := Option.map_eq_some_iff.1 hrun
  intro h
  have hone := (h.last hrun).oneListener
  rw [hs] at hone
  exact absurd hone (by decide)

end UniRil.Misc.Vsim
