import UniRil.Misc.VsimSocket

/-!
# The grace period of the virtual SIM (ril_misc.c)

A listener that sees a disconnect asks the modem for the virtual SIMs and leaves closeVirtualThread to the event loop,
which calls it when `s_timevalCloseVsim` has passed. The callback only looks at the descriptor of that moment.
-/

namespace UniRil.Misc.VsimGrace

open Vsim (Thread)
open Runs

/-- `VirtualCardPara`, with the time at which the event loop was asked to call back. Times are in microseconds. -/
structure Callback where
  socket_id1 : Int
  socket_id2 : Int
  scheduled : Nat
  relativeTime : Nat
  /-- A client has been connected since the disconnect. -/
  reconnected : Bool
deriving DecidableEq

/-- The SIMs that closeVirtualThread closes. -/
def Callback.sockets (SIM_COUNT : Nat) (c : Callback) : List Nat :=
  (if c.socket_id1 = 1 then [0] else []) ++ if 2 ≤ SIM_COUNT ∧ c.socket_id2 = 1 then [1] else []

/-- A call of closeVirtual. -/
structure Closing where
  callback : Callback
  socket_id : Nat
deriving DecidableEq

structure State where
  socket : Vsim.State
  now : Nat
  /-- `s_timevalCloseVsim.tv_sec` -/
  tv_sec : Nat
  /-- The listeners between their store of -1 and RIL_requestTimedCallback, and whether a client has been connected
  since the store. -/
  scheduling : List (Nat × Bool)
  pending : List Callback
  /-- What closeVirtualThread still has to call. -/
  calls : List Closing
  closeVirtual : List (Closing × Nat)

def State.start : State where
  socket := .start
  now := 0
  tv_sec := 60
  scheduling := []
  pending := []
  calls := []
  closeVirtual := []

/-- Some accepted descriptor was not closed. -/
def connected (s : Vsim.State) : Bool := (List.range s.accepted).any fun d => decide (d ∉ s.closed)

def Callback.observe (client : Bool) (c : Callback) : Callback := { c with reconnected := c.reconnected || client }

def Closing.observe (client : Bool) (x : Closing) : Closing := { x with callback := x.callback.observe client }

/-- The callbacks of earlier disconnects see the client, if there is one. -/
def State.observe (s : State) : State :=
  { s with
    scheduling := s.scheduling.map fun x => (x.1, x.2 || connected s.socket)
    pending := s.pending.map (Callback.observe (connected s.socket))
    calls := s.calls.map (Closing.observe (connected s.socket)) }

inductive Label where
  | socket (a : Vsim.Label)
  /-- A listener has the answers to AT+VIRTUALSIMINIT? for the SIMs. -/
  | requestTimedCallback (i : Nat) (vsimMode1 vsimMode2 : Int)
  | VSIM_TIMEOUT (time : Int)
  | tick (d : Nat)
  | closeVirtualThread (k : Nat)
  | closeVirtual
deriving DecidableEq

/-- The listener that stores -1 has a callback to ask for. -/
def disconnected (s : Vsim.State) : Vsim.Label → List (Nat × Bool)
  | .thread i _ _ =>
    match s.threads[i]? with
    | some (.clears .listenVsimSocketThread _) => [(i, false)]
    | _ => []
  | _ => []

/-- A listener goes on when it has asked. -/
def State.busy (s : State) : Vsim.Label → Bool
  | .thread i _ _ => s.scheduling.any (·.1 == i)
  | _ => false

def Callback.expires (c : Callback) : Nat := c.scheduled + c.relativeTime

def State.requestTimedCallback (SIM_COUNT i : Nat) (vsimMode1 vsimMode2 : Int) (s : State) : Option State :=
  (s.scheduling.find? (·.1 == i)).map fun x =>
    { s with
      scheduling := s.scheduling.filter (·.1 != i)
      pending := s.pending ++
        [{ socket_id1 := vsimMode1
           socket_id2 := if 2 ≤ SIM_COUNT then vsimMode2 else -1
           scheduled := s.now
           relativeTime := s.tv_sec * 1000000
           reconnected := x.2 }] }

/-- The event loop calls what expires first, when the last call has returned. -/
def State.closeVirtualThread (SIM_COUNT k : Nat) (s : State) : Option State :=
  s.pending[k]?.bind fun c =>
    if c.expires < s.now ∧ (∀ c' ∈ s.pending, c.expires ≤ c'.expires) ∧ s.calls = [] then
      some { s with
        pending := s.pending.eraseIdx k
        calls := if s.socket.s_vsimClientFd = none then (c.sockets SIM_COUNT).map (Closing.mk c) else [] }
    else none

def step (SIM_COUNT : Nat) (s : State) : Label → Option State
  | .socket a =>
    if s.busy a then none
    else (Vsim.step SIM_COUNT s.socket a).map fun socket =>
      { s with socket, scheduling := s.scheduling ++ disconnected s.socket a }.observe
  | .requestTimedCallback i vsimMode1 vsimMode2 => s.requestTimedCallback SIM_COUNT i vsimMode1 vsimMode2
  | .VSIM_TIMEOUT time => some (if 0 < time then { s with tv_sec := time.toNat } else s)
  | .tick d => some { s with now := s.now + d }
  | .closeVirtualThread k => s.closeVirtualThread SIM_COUNT k
  | .closeVirtual =>
    match s.calls with
    | [] => none
    | x :: calls => some { s with calls, closeVirtual := s.closeVirtual ++ [(x, s.now)] }

/-- No virtual SIM was closed before the time had passed, and no client has been connected since the disconnect that
the callback was for. -/
def GraceKept (s : State) : Prop :=
  ∀ x ∈ s.closeVirtual, x.1.callback.reconnected = false ∧ x.1.callback.expires < x.2

/-- No earlier disconnect has a callback to come that would close a SIM. -/
def State.NoneLeft (SIM_COUNT : Nat) (s : State) : Prop :=
  (∀ x ∈ s.scheduling, x.2 = false) ∧ ∀ c ∈ s.pending, c.reconnected = true → c.sockets SIM_COUNT = []

def StaysConnected (SIM_COUNT : Nat) (s : State) : Thread → Prop
  | .accepts => connected s.socket = false ∧ s.calls = []
  | .clears _ _ => connected s.socket = false
  | .closes _ => ∀ d ∈ s.socket.s_vsimClientFd, d ∉ s.socket.closed → s.NoneLeft SIM_COUNT
  | _ => True

/-- accept returns and -1 is stored when no client is connected, and accept not while closeVirtualThread closes the
SIMs. A client is not disconnected as long as a callback for a disconnect before its connection is to come that would
close a SIM. -/
def Settled (SIM_COUNT : Nat) (s : State) : Label → Prop
  | .socket (.thread i _ _) => ∀ t ∈ s.socket.threads[i]?, StaysConnected SIM_COUNT s t
  | _ => True

instance (SIM_COUNT : Nat) (s : State) : Decidable (s.NoneLeft SIM_COUNT) := inferInstanceAs (Decidable (_ ∧ _))

instance (SIM_COUNT : Nat) (s : State) : (t : Thread) → Decidable (StaysConnected SIM_COUNT s t)
  | .accepts => inferInstanceAs (Decidable (_ ∧ _))
  | .clears _ _ => inferInstanceAs (Decidable (_ = _))
  | .closes _ => inferInstanceAs (Decidable (∀ d ∈ s.socket.s_vsimClientFd, _))
  | .setsInitFlag _ | .testsListenLoop | .vsimInit | .testsClient | .waits | .clearsInitFlag _ | .sendsExit
  | .testsInitFlags | .testsOpen | .stopsListening | .signals | .reads | .clearsListenLoop _ | .loops
  | .testsConnected | .writes | .done => inferInstanceAs (Decidable True)

instance (SIM_COUNT : Nat) (s : State) : (a : Label) → Decidable (Settled SIM_COUNT s a)
  | .socket (.thread i _ _) => inferInstanceAs (Decidable (∀ t ∈ s.socket.threads[i]?, StaysConnected SIM_COUNT s t))
  | .socket (.start _) | .socket (.wakes _) | .requestTimedCallback _ _ _ | .VSIM_TIMEOUT _ | .tick _
  | .closeVirtualThread _ | .closeVirtual => inferInstanceAs (Decidable True)

variable {SIM_COUNT i : Nat} {s s' : State} {t : Thread}

/-! ## Invariant -/

theorem connected_eq_false {s : Vsim.State} : connected s = false ↔ ∀ d < s.accepted, d ∈ s.closed := by
  simp [connected]

structure Inv (SIM_COUNT : Nat) (s : State) : Prop where
  kept : ∀ d < s.socket.accepted, d ∉ s.socket.closed → s.socket.s_vsimClientFd = some d
  /-- A callback that would come too early finds a client. -/
  left : connected s.socket = false → s.NoneLeft SIM_COUNT
  calls : ∀ x ∈ s.calls, connected s.socket = false ∧ x.callback.reconnected = false ∧ x.callback.expires < s.now
  closeVirtual : GraceKept s

theorem start_inv : Inv SIM_COUNT .start := by
  refine ⟨?_, fun _ => ⟨?_, ?_⟩, ?_, ?_⟩
  · rintro d ⟨⟩
  · rintro x ⟨⟩
  · rintro x ⟨⟩
  · rintro x ⟨⟩
  · rintro x ⟨⟩

/-- The other steps of a thread leave the descriptors alone. -/
theorem act_client {s s' : Vsim.State} {success : Bool} {woken : Nat} (haccepts : t ≠ .accepts)
    (hcloses : ∀ who, t ≠ .closes who) (hclears : ∀ who closed, t ≠ .clears who closed)
    (hact : Vsim.act SIM_COUNT i success woken s t = some s') :
    s'.s_vsimClientFd = s.s_vsimClientFd ∧ s'.accepted = s.accepted ∧ s'.closed = s.closed := by
  cases t with
  | accepts => exact absurd rfl haccepts
  | closes who => exact absurd rfl (hcloses who)
  | clears who closed => exact absurd rfl (hclears who closed)
  | waits => cases hact
  | done => cases hact
  | _ =>
    obtain rfl := Option.some.inj hact
    exact ⟨rfl, rfl, rfl⟩

theorem sockets_observe {client : Bool} (c : Callback) :
    (c.observe client).sockets SIM_COUNT = c.sockets SIM_COUNT := rfl

/-- What the callbacks see of a step of the socket. -/
theorem Inv.observe {socket : Vsim.State} {scheduling : List (Nat × Bool)} (h : Inv SIM_COUNT s)
    (hkept : ∀ d < socket.accepted, d ∉ socket.closed → socket.s_vsimClientFd = some d)
    (hnew : ∀ x ∈ scheduling, x.2 = false) (hleft : connected socket = false → s.NoneLeft SIM_COUNT)
    (hcalls : s.calls ≠ [] → connected socket = false) :
    Inv SIM_COUNT { s with socket, scheduling := s.scheduling ++ scheduling }.observe := by
  refine ⟨hkept, ?_, ?_, h.closeVirtual⟩
  · intro hconnected
    have hnone : connected socket = false := hconnected
    obtain ⟨hscheduling, hpending⟩ := hleft hnone
    refine ⟨fun x hx => ?_, fun c hc => ?_⟩
    · obtain ⟨y, hy, rfl⟩ := List.mem_map.1 hx
      have hbefore : y.2 = false := (List.mem_append.1 hy).elim (hscheduling y) (hnew y)
      show (y.2 || connected socket) = false
      rw [hbefore, hnone]
      rfl
    · obtain ⟨c, hmem, rfl⟩ := List.mem_map.1 hc
      intro hreconnected
      have hbefore : (c.reconnected || connected socket) = true := hreconnected
      rw [hnone, Bool.or_false] at hbefore
      exact (sockets_observe c).trans (hpending c hmem hbefore)
  · intro y hy
    obtain ⟨x, hx, rfl⟩ := List.mem_map.1 hy
    have hnone := hcalls (List.ne_nil_of_mem hx)
    obtain ⟨-, hreconnected, hexpired⟩ := h.calls x hx
    refine ⟨hnone, ?_, hexpired⟩
    show (x.callback.reconnected || connected socket) = false
    rw [hreconnected, hnone]
    rfl

/-! ## Steps -/

theorem disconnected_false {a : Vsim.Label} {socket : Vsim.State} : ∀ x ∈ disconnected socket a, x.2 = false := by
  intro x hx
  unfold disconnected at hx
  split at hx
  · split at hx
    · rw [List.mem_singleton.1 hx]
    · cases hx
  · cases hx

theorem Inv.same {socket : Vsim.State} {scheduling : List (Nat × Bool)} (h : Inv SIM_COUNT s)
    (hclient : socket.s_vsimClientFd = s.socket.s_vsimClientFd) (haccepted : socket.accepted = s.socket.accepted)
    (hclosed : socket.closed = s.socket.closed) (hnew : ∀ x ∈ scheduling, x.2 = false) :
    Inv SIM_COUNT { s with socket, scheduling := s.scheduling ++ scheduling }.observe := by
  have hconnected : connected socket = connected s.socket := by
    unfold connected
    rw [haccepted, hclosed]
  refine h.observe ?_ hnew ?_ ?_
  · rw [haccepted, hclosed, hclient]
    exact h.kept
  · rw [hconnected]
    exact h.left
  · intro hne
    obtain ⟨x, hx⟩ := List.exists_mem_of_ne_nil _ hne
    rw [hconnected]
    exact (h.calls x hx).1

theorem Inv.socketStep {success : Bool} {woken : Nat} {socket : Vsim.State} {scheduling : List (Nat × Bool)}
    (h : Inv SIM_COUNT s) (hstays : StaysConnected SIM_COUNT s t) (hnew : ∀ x ∈ scheduling, x.2 = false)
    (hact : Vsim.act SIM_COUNT i success woken s.socket t = some socket) :
    Inv SIM_COUNT { s with socket, scheduling := s.scheduling ++ scheduling }.observe := by
  by_cases haccepts : t = .accepts
  · subst haccepts
    obtain ⟨hnone, hcalls⟩ := hstays
    obtain rfl := Option.some.inj hact
    refine h.observe ?_ hnew (fun _ => h.left hnone) fun hne => absurd hcalls hne
    intro d hd hopen
    have hclosed : d ∉ s.socket.closed := hopen
    have hknown : s.socket.accepted ≤ d := by
      by_contra hlt
      exact hclosed (connected_eq_false.1 hnone d (Nat.lt_of_not_le hlt))
    cases success with
    | false => exact absurd hd (Nat.not_lt.2 hknown)
    | true =>
      have hle : d < s.socket.accepted + 1 := hd
      exact congrArg some (by omega)
  by_cases hcloses : ∃ who, t = .closes who
  · obtain ⟨who, rfl⟩ := hcloses
    obtain rfl := Option.some.inj hact
    have hmem : ∀ d ∈ s.socket.closed, d ∈ s.socket.closed ++ s.socket.s_vsimClientFd.toList :=
      fun d hd => List.mem_append_left _ hd
    have hstill : connected s.socket = false → connected { s.socket.goto i (who.afterClose s.socket.s_vsimClientFd) with
        closed := s.socket.closed ++ s.socket.s_vsimClientFd.toList } = false :=
      fun hnone => connected_eq_false.2 fun d hd => hmem d (connected_eq_false.1 hnone d hd)
    refine h.observe ?_ hnew ?_ ?_
    · intro d hd hopen
      exact h.kept d hd fun hclosed => hopen (hmem d hclosed)
    · intro hnone
      by_cases hbefore : connected s.socket = false
      · exact h.left hbefore
      · rw [connected_eq_false] at hbefore
        push Not at hbefore
        obtain ⟨d, hd, hopen⟩ := hbefore
        exact hstays d (h.kept d hd hopen) hopen
    · intro hne
      obtain ⟨x, hx⟩ := List.exists_mem_of_ne_nil _ hne
      exact hstill (h.calls x hx).1
  by_cases hclears : ∃ who closed, t = .clears who closed
  · obtain ⟨who, closed, rfl⟩ := hclears
    obtain rfl := Option.some.inj hact
    have hnone : connected s.socket = false := hstays
    refine h.observe ?_ hnew h.left fun _ => hnone
    intro d hd hopen
    exact absurd (connected_eq_false.1 hnone d hd) hopen
  · obtain ⟨hclient, haccepted, hclosed⟩ := act_client haccepts (fun who heq => hcloses ⟨who, heq⟩)
      (fun who closed heq => hclears ⟨who, closed, heq⟩) hact
    exact h.same hclient haccepted hclosed hnew

theorem Inv.requestTimedCallback {vsimMode1 vsimMode2 : Int} (h : Inv SIM_COUNT s)
    (hstep : s.requestTimedCallback SIM_COUNT i vsimMode1 vsimMode2 = some s') : Inv SIM_COUNT s' := by
  obtain ⟨x, hx, rfl⟩ := Option.map_eq_some_iff.1 hstep
  refine ⟨h.kept, ?_, h.calls, h.closeVirtual⟩
  intro hnone
  obtain ⟨hscheduling, hpending⟩ := h.left hnone
  refine ⟨fun y hy => hscheduling y (List.mem_of_mem_filter hy), fun c hc => ?_⟩
  rcases List.mem_append.1 hc with hold | hnew
  · exact hpending c hold
  · intro hreconnected
    rw [List.mem_singleton.1 hnew] at hreconnected
    have hnot := hscheduling x (List.mem_of_find?_eq_some hx)
    rw [hnot] at hreconnected
    cases hreconnected

theorem Inv.closeVirtualThread {k : Nat} (h : Inv SIM_COUNT s)
    (hstep : s.closeVirtualThread SIM_COUNT k = some s') : Inv SIM_COUNT s' := by
  obtain ⟨c, hc, hsome⟩ := Option.bind_eq_some_iff.1 hstep
  obtain ⟨⟨hexpired, -, -⟩, heq⟩ := Option.ite_none_right_eq_some.1 hsome
  obtain rfl := Option.some.inj heq
  have hmem := List.mem_of_getElem? hc
  refine ⟨h.kept, ?_, ?_, h.closeVirtual⟩
  · intro hnone
    exact (h.left hnone).imp_right fun hpending c' hc' => hpending c' (List.mem_of_mem_eraseIdx hc')
  · intro x hx
    dsimp only at hx
    split at hx
    · rename_i hclient
      obtain ⟨socket_id, hsocket, rfl⟩ := List.mem_map.1 hx
      -- no descriptor is open, as the client would be it
      have hnone : connected s.socket = false := by
        refine connected_eq_false.2 fun d hd => ?_
        by_contra hopen
        rw [h.kept d hd hopen] at hclient
        cases hclient
      refine ⟨hnone, ?_, hexpired⟩
      rw [Bool.eq_false_iff]
      intro hreconnected
      rw [(h.left hnone).2 c hmem hreconnected] at hsocket
      cases hsocket
    · cases hx

theorem Inv.step {a : Label} (h : Inv SIM_COUNT s) (ha : Settled SIM_COUNT s a)
    (hstep : step SIM_COUNT s a = some s') : Inv SIM_COUNT s' := by
  cases a with
  | socket a =>
    obtain ⟨-, hsome⟩ := Option.ite_none_left_eq_some.1 hstep
    obtain ⟨socket, hsocket, rfl⟩ := Option.map_eq_some_iff.1 hsome
    have hnew : ∀ x ∈ disconnected s.socket a, x.2 = false := disconnected_false
    cases a with
    | start entry =>
      obtain rfl := Option.some.inj hsocket
      exact h.same rfl rfl rfl hnew
    | wakes i =>
      obtain ⟨-, heq⟩ := Option.ite_none_right_eq_some.1 hsocket
      obtain rfl := Option.some.inj heq
      exact h.same rfl rfl rfl hnew
    | thread i success woken =>
      obtain ⟨t, hi, hact⟩ := Option.bind_eq_some_iff.1 hsocket
      exact h.socketStep (ha t hi) hnew hact
  | requestTimedCallback i vsimMode1 vsimMode2 => exact h.requestTimedCallback hstep
  | VSIM_TIMEOUT time =>
    obtain rfl := Option.some.inj hstep
    split
    · exact ⟨h.kept, h.left, h.calls, h.closeVirtual⟩
    · exact h
  | tick d =>
    obtain rfl := Option.some.inj hstep
    refine ⟨h.kept, h.left, fun x hx => ?_, h.closeVirtual⟩
    obtain ⟨hnone, hreconnected, hexpired⟩ := h.calls x hx
    exact ⟨hnone, hreconnected, Nat.lt_of_lt_of_le hexpired (Nat.le_add_right _ _)⟩
  | closeVirtualThread k => exact h.closeVirtualThread hstep
  | closeVirtual =>
    unfold VsimGrace.step at hstep
    cases hcalls : s.calls with
    | nil => simp [hcalls] at hstep
    | cons x calls =>
      simp only [hcalls, Option.some.injEq] at hstep
      subst hstep
      have hhead := h.calls x (hcalls ▸ List.mem_cons_self)
      refine ⟨h.kept, h.left, fun y hy => h.calls y (hcalls ▸ List.mem_cons_of_mem x hy), ?_⟩
      intro y hy
      rcases List.mem_append.1 hy with hold | hnew
      · exact h.closeVirtual y hold
      · rw [List.mem_singleton.1 hnew]
        exact hhead.2

/-- **No virtual SIM is closed for a disconnect after which a client was connected, if no client goes away again while
the callback of that disconnect is to come.** -/
theorem grace_kept (SIM_COUNT : Nat) (labels : List Label)
    (h : Steps (step SIM_COUNT) (Settled SIM_COUNT) .start labels) :
    Always (step SIM_COUNT) GraceKept .start labels := by
  have hinv : Always (step SIM_COUNT) (Inv SIM_COUNT) .start labels :=
    always_of_steps (fun _ _ _ hs ha hstep => hs.step ha hstep) start_inv h
  exact hinv.mono fun _ hs => hs.closeVirtual

/-- VSIM_CREATE is thread `i`, and its listener the next one: a client connects and goes away again. -/
def session (i : Nat) : List Label :=
  .socket (.start (.VSIM_CREATE 0)) :: List.replicate 3 (.socket (.thread i true 0)) ++
    List.replicate 2 (.socket (.thread (i + 1) true 0)) ++ .socket (.thread (i + 1) false 0) ::
    List.replicate 3 (.socket (.thread (i + 1) true 0)) ++
    [.requestTimedCallback (i + 1) 1 (-1), .socket (.thread (i + 1) true 0)]

def oneSession : List Label := session 0 ++ [.tick 60000001, .closeVirtualThread 0, .closeVirtual]

theorem grace_kept_oneSession : Always (step 2) GraceKept .start oneSession :=
  grace_kept 2 oneSession (by decide)

/-- A client comes back after ten seconds and goes away again. -/
def twoSessions : List Label :=
  session 0 ++ .tick 10000000 :: session 2 ++ [.tick 50000001, .closeVirtualThread 0, .closeVirtual]

theorem grace_fails_twoSessions : ¬ Always (step 2) GraceKept .start twoSessions := by
  intro h
  have hrun : (run (step 2) .start twoSessions).map (·.closeVirtual.map (·.1.callback.reconnected)) = some [true] := by
    decide
  obtain ⟨s, hrun, hs⟩ := Option.map_eq_some_iff.1 hrun
  obtain ⟨x, hx, hreconnected⟩ := List.mem_map.1 (hs ▸ List.mem_singleton_self true)
  have hkept := (h.last hrun x hx).1
  rw [hreconnected] at hkept
  cases hkept

end UniRil.Misc.VsimGrace
