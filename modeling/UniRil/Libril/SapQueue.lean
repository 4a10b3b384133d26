import Mathlib.Data.List.Nodup
import UniRil.Lib.Runs

/-!
# Pending requests of the SAP socket (RilSapSocket.cpp, rilSocketQueue.h)

A completion is given its SapSocketRequest, and looks in the queue for one with the same message id and token.
The id is read from the header of each request it passes, which that request's own completion frees.
-/

namespace UniRil.Libril.SapQueue

open Runs

/-! ## Steps -/

abbrev Addr := Nat

structure MsgHeader where
  id : Int
  token : Int

structure SapSocketRequest where
  token : Int
  curr : Addr

structure State where
  requests : Addr → SapSocketRequest
  headers : Addr → MsgHeader
  /-- The SapSocketRequest has been allocated and not freed. -/
  liveRequest : Addr → Bool
  liveHeader : Addr → Bool
  /-- The front comes first. -/
  pendingResponseQueue : List Addr
  /-- The requests that were dispatched and not completed. -/
  outstanding : List Addr
  /-- What each completion was given and what it removed and freed. -/
  completions : List (Addr × Option Addr)
  /-- A completion or a search has read a freed request or header. -/
  staleRead : Bool

/-- `checkAndDequeue` from an element of the queue on: what it finds, and whether it read anything freed. -/
def find (s : State) (id token : Int) : List Addr → Option Addr × Bool
  | [] => (none, false)
  | ppCur :: rest =>
    let cur := s.requests ppCur
    let stale := !s.liveRequest ppCur
    -- the header is read only when the tokens are equal
    if token = cur.token then
      let stale := stale || !s.liveHeader cur.curr
      if id = (s.headers cur.curr).id then (some ppCur, stale)
      else ((find s id token rest).1, stale || (find s id token rest).2)
    else ((find s id token rest).1, stale || (find s id token rest).2)

def free (live : Addr → Bool) : Option Addr → Addr → Bool
  | none => live
  | some a => Function.update live a false

def dispatchRequest (s : State) (currRequest req : Addr) (hdr : MsgHeader) : State :=
  { s with
    requests := Function.update s.requests currRequest { token := hdr.token, curr := req }
    headers := Function.update s.headers req hdr
    liveRequest := Function.update s.liveRequest currRequest true
    liveHeader := Function.update s.liveHeader req true
    pendingResponseQueue := currRequest :: s.pendingResponseQueue
    outstanding := currRequest :: s.outstanding }

def onRequestComplete (s : State) (t : Addr) : State :=
  let hdr := (s.requests t).curr
  let found := find s (s.headers hdr).id (s.headers hdr).token s.pendingResponseQueue
  { s with
    liveRequest := free s.liveRequest found.1
    liveHeader := Function.update s.liveHeader hdr false
    pendingResponseQueue := found.1.elim s.pendingResponseQueue s.pendingResponseQueue.erase
    outstanding := s.outstanding.erase t
    completions := (t, found.1) :: s.completions
    staleRead := s.staleRead || !s.liveRequest t || !s.liveHeader hdr || found.2 }

inductive Label
  /-- A header that was allocated, and memory from malloc for the request. -/
  | dispatchRequest (currRequest req : Addr) (hdr : MsgHeader)
  | onRequestComplete (t : Addr)

/-- Allocated memory was free, and each request is completed once. -/
def step (s : State) : Label → Option State
  | .dispatchRequest currRequest req hdr =>
    if s.liveRequest currRequest = false ∧ s.liveHeader req = false then some (dispatchRequest s currRequest req hdr)
    else none
  | .onRequestComplete t => if t ∈ s.outstanding then some (onRequestComplete s t) else none

def State.start (requests : Addr → SapSocketRequest) (headers : Addr → MsgHeader) : State where
  requests
  headers
  liveRequest _ := false
  liveHeader _ := false
  pendingResponseQueue := []
  outstanding := []
  completions := []
  staleRead := false

/-! ## Runs -/

/-- Each completion removed and freed what it was given, and nothing freed was read. -/
structure Sound (s : State) : Prop where
  completions : ∀ c ∈ s.completions, c.2 = some c.1
  staleRead : s.staleRead = false

/-- The message id and token that a search compares. -/
def State.key (s : State) (t : Addr) : Int × Int := ((s.headers (s.requests t).curr).id, (s.requests t).token)

/-- No request that was dispatched later and is pending has the same message id and token. -/
def Kept (s : State) : Label → Prop
  | .dispatchRequest _ _ _ => True
  | .onRequestComplete t =>
    t ∈ s.outstanding → ∀ q ∈ s.pendingResponseQueue.takeWhile (· ≠ t), s.key q ≠ s.key t

/-! ## The invariant -/

variable {s s' : State}

structure Inv (s : State) : Prop where
  sound : Sound s
  outstanding : ∀ t, t ∈ s.outstanding ↔ t ∈ s.pendingResponseQueue
  once : s.outstanding.Nodup
  nodup : s.pendingResponseQueue.Nodup
  live : ∀ t ∈ s.pendingResponseQueue, s.liveRequest t = true ∧ s.liveHeader (s.requests t).curr = true
  token : ∀ t ∈ s.pendingResponseQueue, (s.headers (s.requests t).curr).token = (s.requests t).token
  /-- Each request has a header of its own. -/
  curr : ∀ t ∈ s.pendingResponseQueue, ∀ q ∈ s.pendingResponseQueue,
    (s.requests t).curr = (s.requests q).curr → t = q

theorem inv_start (requests : Addr → SapSocketRequest) (headers : Addr → MsgHeader) :
    Inv (State.start requests headers) where
  sound := ⟨by simp [State.start], rfl⟩
  outstanding _ := Iff.rfl
  once := List.nodup_nil
  nodup := List.nodup_nil
  live := by simp [State.start]
  token := by simp [State.start]
  curr := by simp [State.start]

/-- In a queue of live requests the search finds the first one with the key, and reads nothing freed. -/
theorem find_eq (id token : Int) (queue : List Addr)
    (hlive : ∀ t ∈ queue, s.liveRequest t = true ∧ s.liveHeader (s.requests t).curr = true) :
    find s id token queue = (queue.find? (fun q => s.key q = (id, token)), false) := by
  induction queue with
  | nil => rfl
  | cons q rest ih =>
    obtain ⟨hrequest, hheader⟩ := hlive q List.mem_cons_self
    have hrest := ih fun t ht => hlive t (List.mem_cons_of_mem q ht)
    rw [find, List.find?_cons, hrest]
    by_cases htoken : token = (s.requests q).token
    · by_cases hid : id = (s.headers (s.requests q).curr).id
      · simp [State.key, htoken, hid, hrequest, hheader]
      · have hkey : s.key q ≠ (id, token) := fun hkey => hid (congrArg Prod.fst hkey).symm
        simp [htoken, hid, hrequest, hheader, htoken ▸ hkey]
    · have hkey : s.key q ≠ (id, token) := fun hkey => htoken (congrArg Prod.snd hkey).symm
      simp [htoken, hrequest, hkey]

/-- The search finds the request itself exactly when none before it has its key. -/
theorem find?_self_iff {α β : Type} [DecidableEq α] [DecidableEq β] (key : α → β) {t : α} {queue : List α}
    (ht : t ∈ queue) :
    queue.find? (fun q => key q = key t) = some t ↔ ∀ q ∈ queue.takeWhile (· ≠ t), key q ≠ key t := by
  induction queue with
  | nil => cases ht
  | cons q rest ih =>
    by_cases hq : q = t
    · subst hq
      simp
    · have hrest : t ∈ rest := by simpa [Ne.symm hq] using ht
      by_cases hkey : key q = key t
      · simp [hkey, hq]
      · simp [hkey, hq, ih hrest]

theorem inv_dispatchRequest {currRequest req : Addr} {hdr : MsgHeader} (h : Inv s)
    (hrequest : s.liveRequest currRequest = false) (hheader : s.liveHeader req = false) :
    Inv (dispatchRequest s currRequest req hdr) := by
  have hne : ∀ t ∈ s.pendingResponseQueue, t ≠ currRequest ∧ (s.requests t).curr ≠ req := by
    intro t ht
    obtain ⟨htlive, hcurr⟩ := h.live t ht
    refine ⟨?_, ?_⟩
    · rintro rfl
      rw [hrequest] at htlive
      cases htlive
    · rintro rfl
      rw [hheader] at hcurr
      cases hcurr
  have hnew : currRequest ∉ s.pendingResponseQueue := fun hmem => (hne currRequest hmem).1 rfl
  refine ⟨⟨h.sound.completions, h.sound.staleRead⟩, fun t => ?_, ?_, ?_, ?_, ?_, ?_⟩
  · simp only [dispatchRequest, List.mem_cons, h.outstanding t]
  · exact List.nodup_cons.2 ⟨fun hmem => hnew ((h.outstanding currRequest).1 hmem), h.once⟩
  · exact List.nodup_cons.2 ⟨hnew, h.nodup⟩
  · intro t ht
    obtain rfl | ht := List.mem_cons.1 ht
    · simp [dispatchRequest]
    · obtain ⟨hcur, hreq⟩ := hne t ht
      simpa [dispatchRequest, Function.update_of_ne hcur, Function.update_of_ne hreq] using h.live t ht
  · intro t ht
    obtain rfl | ht := List.mem_cons.1 ht
    · simp [dispatchRequest]
    · obtain ⟨hcur, hreq⟩ := hne t ht
      simpa [dispatchRequest, Function.update_of_ne hcur, Function.update_of_ne hreq] using h.token t ht
  · intro t ht q hq hcurr
    obtain htnew | ht := List.mem_cons.1 ht
    · obtain hqnew | hq := List.mem_cons.1 hq
      · rw [htnew, hqnew]
      · obtain ⟨hcur, hreq⟩ := hne q hq
        simp only [dispatchRequest, htnew, Function.update_self, Function.update_of_ne hcur] at hcurr
        exact absurd hcurr.symm hreq
    · obtain ⟨htcur, htreq⟩ := hne t ht
      obtain hqnew | hq := List.mem_cons.1 hq
      · simp only [dispatchRequest, hqnew, Function.update_self, Function.update_of_ne htcur] at hcurr
        exact absurd hcurr htreq
      · obtain ⟨hqcur, -⟩ := hne q hq
        simp only [dispatchRequest, Function.update_of_ne htcur, Function.update_of_ne hqcur] at hcurr
        exact h.curr t ht q hq hcurr

/-- What a completion finds in a queue of live requests. -/
theorem find_queue {t : Addr} (h : Inv s) (ht : t ∈ s.pendingResponseQueue) :
    find s (s.headers (s.requests t).curr).id (s.headers (s.requests t).curr).token s.pendingResponseQueue =
      (s.pendingResponseQueue.find? (fun q => s.key q = s.key t), false) := by
  rw [h.token t ht]
  exact find_eq _ _ _ h.live

theorem inv_onRequestComplete {t : Addr} (h : Inv s) (ht : t ∈ s.pendingResponseQueue)
    (hkept : ∀ q ∈ s.pendingResponseQueue.takeWhile (· ≠ t), s.key q ≠ s.key t) : Inv (onRequestComplete s t) := by
  have hfound := find_queue h ht
  rw [(find?_self_iff s.key ht).2 hkept] at hfound
  obtain ⟨hrequest, hheader⟩ := h.live t ht
  have hqueue : ∀ q, q ∈ (onRequestComplete s t).pendingResponseQueue ↔ q ≠ t ∧ q ∈ s.pendingResponseQueue := by
    intro q
    simp only [onRequestComplete, hfound, Option.elim_some]
    exact h.nodup.mem_erase_iff
  refine ⟨⟨fun c hc => ?_, ?_⟩, fun q => ?_, ?_, ?_, ?_, ?_, ?_⟩
  · simp only [onRequestComplete, hfound] at hc
    obtain rfl | hc := List.mem_cons.1 hc
    · rfl
    · exact h.sound.completions c hc
  · simp [onRequestComplete, hfound, h.sound.staleRead, hrequest, hheader]
  · rw [hqueue, ← h.outstanding q]
    exact h.once.mem_erase_iff
  · exact h.once.erase t
  · simp only [onRequestComplete, hfound, Option.elim_some]
    exact h.nodup.erase t
  · intro q hq
    obtain ⟨hqt, hq⟩ := (hqueue q).1 hq
    have hcurr : (s.requests q).curr ≠ (s.requests t).curr := fun hcurr => hqt (h.curr q hq t ht hcurr)
    simpa [onRequestComplete, hfound, free, Function.update_of_ne hqt, Function.update_of_ne hcurr] using h.live q hq
  · exact fun q hq => h.token q ((hqueue q).1 hq).2
  · exact fun q hq p hp => h.curr q ((hqueue q).1 hq).2 p ((hqueue p).1 hp).2

theorem inv_step {a : Label} (h : Inv s) (hkept : Kept s a) (hstep : step s a = some s') : Inv s' := by
  cases a with
  | dispatchRequest currRequest req hdr =>
    obtain ⟨⟨hrequest, hheader⟩, heq⟩ := Option.ite_none_right_eq_some.1 hstep
    obtain rfl := Option.some.inj heq
    exact inv_dispatchRequest h hrequest hheader
  | onRequestComplete t =>
    obtain ⟨ht, heq⟩ := Option.ite_none_right_eq_some.1 hstep
    obtain rfl := Option.some.inj heq
    exact inv_onRequestComplete h ((h.outstanding t).1 ht) (hkept ht)

/-- **Each SAP request is released by its own completion.** Throughout a run each completion removes and frees the
request it was given and nothing freed is read, exactly when no request is completed while one that was dispatched
after it and is pending has the same message id and token. -/
theorem released_iff_kept (requests : Addr → SapSocketRequest) (headers : Addr → MsgHeader) (labels : List Label) :
    Always step Sound (State.start requests headers) labels ↔ Steps step Kept (State.start requests headers) labels := by
  refine always_iff_steps_of_invariant (fun s a s' => inv_step) (fun s h => h.sound) (fun s a h hnot => ?_)
    (inv_start requests headers) labels
  cases a with
  | dispatchRequest currRequest req hdr => exact absurd trivial hnot
  | onRequestComplete t =>
    obtain ⟨ht, hnewer⟩ := Classical.not_imp.1 hnot
    have hqueue := (h.outstanding t).1 ht
    refine ⟨onRequestComplete s t, if_pos ht, fun hsound => hnewer ?_⟩
    have hfound := hsound.completions _ List.mem_cons_self
    rw [find_queue h hqueue] at hfound
    exact (find?_self_iff s.key hqueue).1 hfound

/-- Two requests with the same message id and token: the completion of the first one frees the second one. -/
theorem sound_fails_equalPair :
    ¬ ∀ requests headers labels s, run step (State.start requests headers) labels = some s → Sound s := by
  intro h
  have hrun : (run step (State.start (fun _ => { token := 0, curr := 0 }) fun _ => { id := 0, token := 0 })
      [.dispatchRequest 1 11 { id := 3, token := 7 }, .dispatchRequest 2 12 { id := 3, token := 7 },
        .onRequestComplete 1]).map State.completions = some [(1, some 2)] := by
    decide
  obtain ⟨s, hrun, hs⟩ := Option.map_eq_some_iff.1 hrun
  have hsame := (h _ _ _ s hrun).completions (1, some 2) (by rw [hs]; exact List.mem_cons_self)
  cases hsame

end UniRil.Libril.SapQueue
