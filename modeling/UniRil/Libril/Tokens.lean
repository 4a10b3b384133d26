import Mathlib.Data.List.Nodup
import UniRil.Lib.Runs

/-!
# Pending requests and their tokens (ril.cpp)

A token is the address of a RequestInfo. It is valid while that address is in the list of pending requests of the
SIM that the memory at the address names, and the memory can have been freed and handed out again.
-/

namespace UniRil.Libril.Tokens

open Runs

/-! ## Steps -/

abbrev Addr := Nat

structure RequestInfo where
  token : Int
  cancelled : Nat
  /-- `local` -/
  locally : Nat
  socket_id : Nat
  wasAckSent : Bool

/-- Where a thread is in addRequestToList, RIL_onRequestAck or RIL_onRequestComplete. -/
inductive Pc
  | idle
  /-- calloc has returned, and the RequestInfo is not in the list. -/
  | adds (r : Nat)
  /-- before the search in the list of a SIM -/
  | searches (r : Nat) (hook : Nat) (isAck : Bool)
  | responds (r : Nat)
  | frees (r : Nat)

/-- The request whose RequestInfo the thread has for itself. -/
def Pc.owns : Pc → Option Nat
  | .adds r => some r
  | .responds r => some r
  | .frees r => some r
  | .idle => none
  | .searches _ _ _ => none

structure State where
  memory : Addr → RequestInfo
  allocated : Addr → Bool
  s_pendingRequests : Nat → List Addr
  threads : Nat → Pc
  /-- The requests so far are numbered from 0. -/
  requests : Nat
  /-- The token of a request. -/
  address : Nat → Addr
  serial : Nat → Int
  /-- The latest request with its RequestInfo at the address. -/
  owner : Addr → Nat
  handedOut : List Nat
  /-- The requests of the tokens that RIL_onRequestComplete took for valid. -/
  accepted : List Nat
  /-- The requests whose RequestInfo was removed for them. -/
  answered : List Nat
  /-- The requests of the tokens, and the serial numbers under which the data went. -/
  delivered : List (Nat × Int)

/-- The list of a SIM; that of the first SIM for any other number. -/
def pendingRequestsHook (simCount socket_id : Nat) : Nat := if socket_id < simCount then socket_id else 0

inductive Label
  /-- calloc of addRequestToList, which gives memory that is free. -/
  | addRequestToList (t : Nat) (pRI : Addr) (serial : Int) (socket_id : Nat)
  | links (t : Nat)
  /-- RIL_onRequestAck or RIL_onRequestComplete, for a token that was handed out: the SIM is read. -/
  | onRequest (t r : Nat) (isAck : Bool)
  /-- The locked part of checkAndDequeueRequestInfoIfAck. -/
  | checkAndDequeue (t : Nat)
  | responseFunction (t : Nat)
  /-- `free(pRI)`, and what is in the memory then. -/
  | free (t : Nat) (garbage : RequestInfo)

def State.goto (s : State) (t : Nat) (pc : Pc) : State := { s with threads := Function.update s.threads t pc }

def addRequestToList (s : State) (t : Nat) (pRI : Addr) (serial : Int) (socket_id : Nat) : State :=
  { s.goto t (.adds s.requests) with
    memory :=
      Function.update s.memory pRI
        { token := serial, cancelled := 0, locally := 0, socket_id := socket_id, wasAckSent := false }
    allocated := Function.update s.allocated pRI true
    requests := s.requests + 1
    address := Function.update s.address s.requests pRI
    serial := Function.update s.serial s.requests serial
    owner := Function.update s.owner pRI s.requests }

/-- `*ppCur = (*ppCur)->p_next`, and the request counts as answered. -/
def dequeue (s : State) (t r hook : Nat) : State :=
  { s.goto t (.responds r) with
    s_pendingRequests := Function.update s.s_pendingRequests hook ((s.s_pendingRequests hook).erase (s.address r))
    accepted := r :: s.accepted
    answered := s.owner (s.address r) :: s.answered }

def checkAndDequeueRequestInfoIfAck (s : State) (t r hook : Nat) (isAck : Bool) : State :=
  if s.address r ∈ s.s_pendingRequests hook then
    if isAck then
      { s.goto t .idle with
        memory := Function.update s.memory (s.address r) { s.memory (s.address r) with wasAckSent := true } }
    else dequeue s t r hook
  else s.goto t .idle

def respond (s : State) (t r : Nat) : State :=
  let pRI := s.memory (s.address r)
  { s.goto t (.frees r) with
    delivered := if pRI.locally = 0 ∧ pRI.cancelled = 0 then (r, pRI.token) :: s.delivered else s.delivered }

def link (s : State) (t r hook : Nat) : State :=
  { s.goto t .idle with
    s_pendingRequests := Function.update s.s_pendingRequests hook (s.address r :: s.s_pendingRequests hook)
    handedOut := r :: s.handedOut }

def release (s : State) (t r : Nat) (garbage : RequestInfo) : State :=
  { s.goto t .idle with
    memory := Function.update s.memory (s.address r) garbage
    allocated := Function.update s.allocated (s.address r) false }

def step (simCount : Nat) (s : State) : Label → Option State
  | .addRequestToList t pRI serial socket_id =>
    match s.threads t, s.allocated pRI with
    | .idle, false => some (addRequestToList s t pRI serial socket_id)
    | _, _ => none
  | .links t =>
    match s.threads t with
    | .adds r => some (link s t r (pendingRequestsHook simCount (s.memory (s.address r)).socket_id))
    | _ => none
  | .onRequest t r isAck =>
    match s.threads t with
    | .idle =>
      if r ∈ s.handedOut then
        some (s.goto t (.searches r (pendingRequestsHook simCount (s.memory (s.address r)).socket_id) isAck))
      else none
    | _ => none
  | .checkAndDequeue t =>
    match s.threads t with
    | .searches r hook isAck => some (checkAndDequeueRequestInfoIfAck s t r hook isAck)
    | _ => none
  | .responseFunction t =>
    match s.threads t with
    | .responds r => some (respond s t r)
    | _ => none
  | .free t garbage =>
    match s.threads t with
    | .frees r => some (release s t r garbage)
    | _ => none

def State.start (memory : Addr → RequestInfo) : State where
  memory
  allocated _ := false
  s_pendingRequests _ := []
  threads _ := .idle
  requests := 0
  address _ := 0
  serial _ := 0
  owner _ := 0
  handedOut := []
  accepted := []
  answered := []
  delivered := []

/-! ## Runs -/

structure Faithful (s : State) : Prop where
  /-- A token is accepted once; what comes later is rejected. -/
  accepted : s.accepted.Nodup
  answered : s.answered.Nodup
  delivered : ∀ d ∈ s.delivered, d.2 = s.serial d.1

/-- A completion does not find another request at the address of its token. -/
def Kept (s : State) : Label → Prop
  | .checkAndDequeue t =>
    ∀ r hook, s.threads t = .searches r hook false → s.address r ∈ s.s_pendingRequests hook → s.owner (s.address r) = r
  | _ => True

/-! ## The invariant -/

variable {simCount : Nat} {s s' : State}

structure Inv (s : State) : Prop where
  faithful : Faithful s
  answered : s.answered = s.accepted
  /-- The memory of the latest request at an address, until it is freed. -/
  info : ∀ a, s.allocated a = true →
    s.address (s.owner a) = a ∧ s.owner a < s.requests ∧ (s.memory a).token = s.serial (s.owner a)
  pending : ∀ k a, a ∈ s.s_pendingRequests k → s.allocated a = true ∧ s.owner a ∉ s.accepted
  nodup : ∀ k, (s.s_pendingRequests k).Nodup
  /-- A RequestInfo is in one list. -/
  one : ∀ k l a, a ∈ s.s_pendingRequests k → a ∈ s.s_pendingRequests l → k = l
  owned : ∀ t r, (s.threads t).owns = some r →
    s.allocated (s.address r) = true ∧ s.owner (s.address r) = r ∧ ∀ k, s.address r ∉ s.s_pendingRequests k
  unique : ∀ t u r, (s.threads t).owns = some r → (s.threads u).owns = some r → t = u
  adds : ∀ t r, s.threads t = .adds r → r ∉ s.accepted
  finishes : ∀ t r, s.threads t = .responds r ∨ s.threads t = .frees r → r ∈ s.accepted
  searches : ∀ t r hook isAck, s.threads t = .searches r hook isAck → r ∈ s.handedOut
  handedOut : ∀ r ∈ s.handedOut, r < s.requests
  accepted : ∀ r ∈ s.accepted, r < s.requests
  delivered : ∀ d ∈ s.delivered, d.1 < s.requests
  /-- A request whose RequestInfo is gone was completed. -/
  gone : ∀ r ∈ s.handedOut, s.allocated (s.address r) = false ∨ s.owner (s.address r) ≠ r → r ∈ s.accepted

theorem inv_start (memory : Addr → RequestInfo) : Inv (State.start memory) where
  faithful := ⟨List.nodup_nil, List.nodup_nil, by simp [State.start]⟩
  answered := rfl
  info := by simp [State.start]
  pending := by simp [State.start]
  nodup := by simp [State.start]
  one := by simp [State.start]
  owned := by simp [State.start, Pc.owns]
  unique := by simp [State.start, Pc.owns]
  adds := by simp [State.start]
  finishes := by simp [State.start]
  searches := by simp [State.start]
  handedOut := by simp [State.start]
  accepted := by simp [State.start]
  delivered := by simp [State.start]
  gone := by simp [State.start]

/-- The thread that moves, or another one. -/
theorem goto_cases {t u : Nat} {pc x : Pc} (h : (s.goto t pc).threads u = x) :
    u = t ∧ pc = x ∨ u ≠ t ∧ s.threads u = x := by
  by_cases hu : u = t
  · subst hu
    left
    simp only [State.goto, Function.update_self] at h
    exact ⟨rfl, h⟩
  · right
    simp only [State.goto, Function.update_of_ne hu] at h
    exact ⟨hu, h⟩

theorem goto_owns {t u r : Nat} {pc : Pc} (h : ((s.goto t pc).threads u).owns = some r) :
    u = t ∧ pc.owns = some r ∨ u ≠ t ∧ (s.threads u).owns = some r := by
  obtain ⟨hu, hpc⟩ | ⟨hu, hpc⟩ := goto_cases (s := s) (rfl : (s.goto t pc).threads u = _)
  · rw [← hpc] at h
    exact Or.inl ⟨hu, h⟩
  · rw [← hpc] at h
    exact Or.inr ⟨hu, h⟩

/-- A thread may come to own what no other one owns. -/
theorem goto_unique {t : Nat} {pc : Pc} (h : Inv s)
    (hpc : ∀ r, pc.owns = some r → ∀ u, (s.threads u).owns = some r → u = t) :
    ∀ u v r, ((s.goto t pc).threads u).owns = some r → ((s.goto t pc).threads v).owns = some r → u = v := by
  intro u v r hu hv
  obtain ⟨hut, hpu⟩ | ⟨-, hu⟩ := goto_owns hu
  · obtain ⟨hvt, -⟩ | ⟨-, hv⟩ := goto_owns hv
    · exact hut.trans hvt.symm
    · exact hut.trans (hpc r hpu v hv).symm
  · obtain ⟨hvt, hpv⟩ | ⟨-, hv⟩ := goto_owns hv
    · exact (hpc r hpv u hu).trans hvt.symm
    · exact h.unique u v r hu hv

theorem inv_goto {t : Nat} {pc : Pc} (h : Inv s) (hpc : pc.owns = none)
    (hsearches : ∀ r hook isAck, pc = .searches r hook isAck → r ∈ s.handedOut) : Inv (s.goto t pc) where
  faithful := ⟨h.faithful.accepted, h.faithful.answered, h.faithful.delivered⟩
  answered := h.answered
  info := h.info
  pending := h.pending
  nodup := h.nodup
  one := h.one
  owned u r hu := by
    obtain ⟨-, hnone⟩ | ⟨-, hu⟩ := goto_owns hu
    · rw [hpc] at hnone
      cases hnone
    · exact h.owned u r hu
  unique := goto_unique h fun r hr => by
    rw [hpc] at hr
    cases hr
  adds u r hu := by
    obtain ⟨-, rfl⟩ | ⟨-, hu⟩ := goto_cases hu
    · cases hpc
    · exact h.adds u r hu
  finishes u r hu := by
    obtain hu | hu := hu
    · obtain ⟨-, rfl⟩ | ⟨-, hu⟩ := goto_cases hu
      · cases hpc
      · exact h.finishes u r (Or.inl hu)
    · obtain ⟨-, rfl⟩ | ⟨-, hu⟩ := goto_cases hu
      · cases hpc
      · exact h.finishes u r (Or.inr hu)
  searches u r hook isAck hu := by
    obtain ⟨-, hu⟩ | ⟨-, hu⟩ := goto_cases hu
    · exact hsearches r hook isAck hu
    · exact h.searches u r hook isAck hu
  handedOut := h.handedOut
  accepted := h.accepted
  delivered := h.delivered
  gone := h.gone

theorem inv_idle {t : Nat} (h : Inv s) : Inv (s.goto t .idle) :=
  inv_goto h rfl fun _ _ _ hpc => by cases hpc

/-- A thread that gets to another place does not search. -/
theorem goto_searches {t : Nat} {pc : Pc} (h : Inv s) (hpc : ∀ r hook isAck, pc ≠ .searches r hook isAck) :
    ∀ u r hook isAck, (s.goto t pc).threads u = .searches r hook isAck → r ∈ s.handedOut := by
  intro u r hook isAck hu
  obtain ⟨-, hu⟩ | ⟨-, hu⟩ := goto_cases hu
  · exact absurd hu (hpc r hook isAck)
  · exact h.searches u r hook isAck hu

/-- calloc hands out memory that no request has. -/
theorem inv_addRequestToList {t : Nat} {pRI : Addr} {serial : Int} {socket_id : Nat} (h : Inv s)
    (hfree : s.allocated pRI = false) : Inv (addRequestToList s t pRI serial socket_id) := by
  have hne : ∀ a, s.allocated a = true → a ≠ pRI := by
    rintro a ha rfl
    rw [hfree] at ha
    cases ha
  have hold : ∀ r, r < s.requests → Function.update s.address s.requests pRI r = s.address r :=
    fun r hr => Function.update_of_ne (Nat.ne_of_lt hr) _ _
  have hserial : ∀ r, r < s.requests → Function.update s.serial s.requests serial r = s.serial r :=
    fun r hr => Function.update_of_ne (Nat.ne_of_lt hr) _ _
  have hlt : ∀ u r, (s.threads u).owns = some r → r < s.requests := by
    intro u r hu
    obtain ⟨halloc, howner, -⟩ := h.owned u r hu
    exact howner ▸ (h.info _ halloc).2.1
  constructor
  · exact ⟨h.faithful.accepted, h.faithful.answered, fun d hd =>
      (h.faithful.delivered d hd).trans (hserial d.1 (h.delivered d hd)).symm⟩
  · exact h.answered
  · intro a ha
    by_cases hap : a = pRI
    · subst hap
      simp [addRequestToList]
    · simp only [addRequestToList, Function.update_of_ne hap] at ha ⊢
      obtain ⟨haddress, hrequest, htoken⟩ := h.info a ha
      exact ⟨(hold _ hrequest).trans haddress, Nat.lt_succ_of_lt hrequest, htoken.trans (hserial _ hrequest).symm⟩
  · intro k a ha
    obtain ⟨halloc, hnot⟩ := h.pending k a ha
    simp only [addRequestToList, Function.update_of_ne (hne a halloc)]
    exact ⟨halloc, hnot⟩
  · exact h.nodup
  · exact h.one
  · intro u r hu
    obtain ⟨-, hr⟩ | ⟨-, hu⟩ := goto_owns hu
    · obtain rfl : s.requests = r := Option.some.inj hr
      refine ⟨?_, ?_, fun k hk => ?_⟩
      · simp [addRequestToList]
      · simp [addRequestToList]
      · simp only [addRequestToList, Function.update_self] at hk
        exact hne pRI (h.pending k pRI hk).1 rfl
    · have hr := hlt u r hu
      obtain ⟨halloc, howner, hnot⟩ := h.owned u r hu
      simp only [addRequestToList, hold r hr, Function.update_of_ne (hne _ halloc)]
      exact ⟨halloc, howner, hnot⟩
  · refine goto_unique h fun r hr u hu => ?_
    obtain rfl : s.requests = r := Option.some.inj hr
    exact absurd (hlt u _ hu) (Nat.lt_irrefl _)
  · intro u r hu
    obtain ⟨-, hr⟩ | ⟨-, hu⟩ := goto_cases hu
    · cases hr
      exact fun hmem => Nat.lt_irrefl _ (h.accepted _ hmem)
    · exact h.adds u r hu
  · intro u r hu
    obtain hu | hu := hu
    · obtain ⟨-, hr⟩ | ⟨-, hu⟩ := goto_cases hu
      · cases hr
      · exact h.finishes u r (Or.inl hu)
    · obtain ⟨-, hr⟩ | ⟨-, hu⟩ := goto_cases hu
      · cases hr
      · exact h.finishes u r (Or.inr hu)
  · exact goto_searches h fun _ _ _ hpc => by cases hpc
  · exact fun r hr => Nat.lt_succ_of_lt (h.handedOut r hr)
  · exact fun r hr => Nat.lt_succ_of_lt (h.accepted r hr)
  · exact fun d hd => Nat.lt_succ_of_lt (h.delivered d hd)
  · intro r hr hgone
    have hrequest := h.handedOut r hr
    simp only [addRequestToList, hold r hrequest] at hgone
    refine h.gone r hr ?_
    by_cases hap : s.address r = pRI
    · exact Or.inl (hap ▸ hfree)
    · rwa [Function.update_of_ne hap, Function.update_of_ne hap] at hgone

theorem inv_link {t r hook : Nat} (h : Inv s) (ht : s.threads t = .adds r) : Inv (link s t r hook) := by
  obtain ⟨halloc, howner, hnot⟩ := h.owned t r (by rw [ht]; rfl)
  have hbase := inv_idle (t := t) h
  have hmem : ∀ k a, a ∈ (link s t r hook).s_pendingRequests k →
      a = s.address r ∧ k = hook ∨ a ∈ s.s_pendingRequests k := by
    intro k a ha
    by_cases hk : k = hook
    · subst hk
      simp only [link, Function.update_self, List.mem_cons] at ha
      exact ha.imp_left fun heq => And.intro heq rfl
    · simp only [link, Function.update_of_ne hk] at ha
      exact Or.inr ha
  refine { hbase with
    faithful := ⟨h.faithful.accepted, h.faithful.answered, h.faithful.delivered⟩
    pending := fun k a ha => ?_, nodup := fun k => ?_, one := fun k l a hk hl => ?_, owned := fun u q hu => ?_
    searches := fun u q k isAck hu => List.mem_cons_of_mem r (hbase.searches u q k isAck hu)
    handedOut := fun q hq => ?_, gone := fun q hq hgone => ?_ }
  · obtain ⟨rfl, -⟩ | ha := hmem k a ha
    · refine ⟨halloc, ?_⟩
      show s.owner (s.address r) ∉ s.accepted
      rw [howner]
      exact h.adds t r ht
    · exact h.pending k a ha
  · by_cases hk : k = hook
    · subst hk
      simp only [link, Function.update_self]
      exact List.nodup_cons.2 ⟨hnot k, h.nodup k⟩
    · simp only [link, Function.update_of_ne hk]
      exact h.nodup k
  · obtain ⟨ha, hkhook⟩ | hold := hmem k a hk
    · obtain ⟨-, hlhook⟩ | hother := hmem l a hl
      · rw [hkhook, hlhook]
      · rw [ha] at hother
        exact absurd hother (hnot l)
    · obtain ⟨ha, -⟩ | hother := hmem l a hl
      · rw [ha] at hold
        exact absurd hold (hnot k)
      · exact h.one k l a hold hother
  · obtain ⟨-, hidle⟩ | ⟨hut, hother⟩ := goto_owns hu
    · cases hidle
    · obtain ⟨hqalloc, hqowner, hqnot⟩ := h.owned u q hother
      refine ⟨hqalloc, hqowner, fun k hk => ?_⟩
      obtain ⟨heq, -⟩ | hold := hmem k _ hk
      · have heq : s.address q = s.address r := heq
        have hqr : q = r := by rw [← hqowner, ← howner, heq]
        subst hqr
        exact hut (h.unique u t q hother (by rw [ht]; rfl))
      · exact hqnot k hold
  · obtain rfl | hq := List.mem_cons.1 hq
    · exact howner ▸ (h.info _ halloc).2.1
    · exact h.handedOut q hq
  · obtain rfl | hq := List.mem_cons.1 hq
    · obtain hfree | hother := hgone
      · exact Bool.noConfusion (halloc.symm.trans hfree)
      · exact absurd howner hother
    · exact h.gone q hq hgone

theorem inv_ack {t r : Nat} (h : Inv s) :
    Inv { s.goto t .idle with
      memory := Function.update s.memory (s.address r) { s.memory (s.address r) with wasAckSent := true } } := by
  have hbase := inv_idle (t := t) h
  refine { hbase with
    faithful := ⟨h.faithful.accepted, h.faithful.answered, h.faithful.delivered⟩, info := fun a ha => ?_ }
  obtain ⟨haddress, hrequest, htoken⟩ := h.info a ha
  refine ⟨haddress, hrequest, ?_⟩
  by_cases hr : a = s.address r
  · rw [← hr]
    simp only [Function.update_self]
    exact htoken
  · simp only [Function.update_of_ne hr]
    exact htoken

/-- The RequestInfo goes from the list to the thread that completes its request. -/
theorem inv_dequeue {t r hook : Nat} (h : Inv s) (hmem : s.address r ∈ s.s_pendingRequests hook)
    (howner : s.owner (s.address r) = r) : Inv (dequeue s t r hook) := by
  obtain ⟨halloc, hnew⟩ := h.pending hook _ hmem
  rw [howner] at hnew
  have hrequest : r < s.requests := howner ▸ (h.info _ halloc).2.1
  have hsub : ∀ k a, a ∈ (dequeue s t r hook).s_pendingRequests k → a ∈ s.s_pendingRequests k ∧ a ≠ s.address r := by
    intro k a ha
    by_cases hk : k = hook
    · subst hk
      simp only [dequeue, Function.update_self] at ha
      obtain ⟨hne, hin⟩ := (h.nodup k).mem_erase_iff.1 ha
      exact ⟨hin, hne⟩
    · simp only [dequeue, Function.update_of_ne hk] at ha
      refine ⟨ha, fun heq => hk ?_⟩
      rw [heq] at ha
      exact h.one k hook _ ha hmem
  have hanswered : (dequeue s t r hook).answered = (dequeue s t r hook).accepted := by
    simp only [dequeue, howner, h.answered]
  have haccepted : (dequeue s t r hook).accepted.Nodup := List.nodup_cons.2 ⟨hnew, h.faithful.accepted⟩
  constructor
  · exact ⟨haccepted, hanswered ▸ haccepted, h.faithful.delivered⟩
  · exact hanswered
  · exact h.info
  · intro k a ha
    obtain ⟨hin, hne⟩ := hsub k a ha
    obtain ⟨haalloc, hanew⟩ := h.pending k a hin
    refine ⟨haalloc, fun hcons => ?_⟩
    obtain heq | hin := List.mem_cons.1 hcons
    · have heq : s.owner a = r := heq
      exact hne (by rw [← (h.info a haalloc).1, heq])
    · exact hanew hin
  · intro k
    by_cases hk : k = hook
    · subst hk
      simp only [dequeue, Function.update_self]
      exact (h.nodup k).erase _
    · simp only [dequeue, Function.update_of_ne hk]
      exact h.nodup k
  · exact fun k l a hk hl => h.one k l a (hsub k a hk).1 (hsub l a hl).1
  · intro u q hu
    obtain ⟨-, hq⟩ | ⟨-, hother⟩ := goto_owns hu
    · obtain rfl : r = q := Option.some.inj hq
      exact ⟨halloc, howner, fun k hk => (hsub k _ hk).2 rfl⟩
    · obtain ⟨hqalloc, hqowner, hqnot⟩ := h.owned u q hother
      exact ⟨hqalloc, hqowner, fun k hk => hqnot k (hsub k _ hk).1⟩
  · refine goto_unique h fun q hq u hu => ?_
    obtain rfl : r = q := Option.some.inj hq
    exact absurd hmem ((h.owned u r hu).2.2 hook)
  · intro u q hu
    obtain ⟨-, hq⟩ | ⟨-, hother⟩ := goto_cases hu
    · cases hq
    · intro hcons
      obtain heq | hin := List.mem_cons.1 hcons
      · have hown := h.owned u q (by rw [hother]; rfl)
        rw [heq] at hown
        exact hown.2.2 hook hmem
      · exact h.adds u q hother hin
  · intro u q hu
    obtain hu | hu := hu
    · obtain ⟨-, hq⟩ | ⟨-, hother⟩ := goto_cases hu
      · cases hq
        exact List.mem_cons_self
      · exact List.mem_cons_of_mem r (h.finishes u q (Or.inl hother))
    · obtain ⟨-, hq⟩ | ⟨-, hother⟩ := goto_cases hu
      · cases hq
      · exact List.mem_cons_of_mem r (h.finishes u q (Or.inr hother))
  · exact goto_searches h fun _ _ _ hpc => by cases hpc
  · exact h.handedOut
  · intro q hq
    obtain rfl | hq := List.mem_cons.1 hq
    · exact hrequest
    · exact h.accepted q hq
  · exact h.delivered
  · exact fun q hq hgone => List.mem_cons_of_mem r (h.gone q hq hgone)

theorem inv_respond {t r : Nat} (h : Inv s) (ht : s.threads t = .responds r) : Inv (respond s t r) := by
  obtain ⟨halloc, howner, hnot⟩ := h.owned t r (by rw [ht]; rfl)
  obtain ⟨-, hrequest, htoken⟩ := h.info _ halloc
  rw [howner] at hrequest htoken
  have hdelivered : ∀ d ∈ (respond s t r).delivered, d = (r, s.serial r) ∨ d ∈ s.delivered := by
    intro d hd
    simp only [respond] at hd
    split at hd
    · rw [htoken] at hd
      exact List.mem_cons.1 hd
    · exact Or.inr hd
  constructor
  · refine ⟨h.faithful.accepted, h.faithful.answered, fun d hd => ?_⟩
    obtain rfl | hd := hdelivered d hd
    · rfl
    · exact h.faithful.delivered d hd
  · exact h.answered
  · exact h.info
  · exact h.pending
  · exact h.nodup
  · exact h.one
  · intro u q hu
    obtain ⟨-, hq⟩ | ⟨-, hother⟩ := goto_owns hu
    · obtain rfl : r = q := Option.some.inj hq
      exact ⟨halloc, howner, hnot⟩
    · exact h.owned u q hother
  · refine goto_unique h fun q hq u hu => ?_
    obtain rfl : r = q := Option.some.inj hq
    exact h.unique u t r hu (by rw [ht]; rfl)
  · intro u q hu
    obtain ⟨-, hq⟩ | ⟨-, hother⟩ := goto_cases hu
    · cases hq
    · exact h.adds u q hother
  · intro u q hu
    obtain hu | hu := hu
    · obtain ⟨-, hq⟩ | ⟨-, hother⟩ := goto_cases hu
      · cases hq
      · exact h.finishes u q (Or.inl hother)
    · obtain ⟨-, hq⟩ | ⟨-, hother⟩ := goto_cases hu
      · cases hq
        exact h.finishes t r (Or.inl ht)
      · exact h.finishes u q (Or.inr hother)
  · exact goto_searches h fun _ _ _ hpc => by cases hpc
  · exact h.handedOut
  · exact h.accepted
  · intro d hd
    obtain rfl | hd := hdelivered d hd
    · exact hrequest
    · exact h.delivered d hd
  · exact h.gone

/-- Nobody else has the memory that is freed. -/
theorem inv_release {t r : Nat} {garbage : RequestInfo} (h : Inv s) (ht : s.threads t = .frees r) :
    Inv (release s t r garbage) := by
  obtain ⟨-, howner, hnot⟩ := h.owned t r (by rw [ht]; rfl)
  have hbase := inv_idle (t := t) h
  refine { hbase with
    faithful := ⟨h.faithful.accepted, h.faithful.answered, h.faithful.delivered⟩
    info := fun a ha => ?_, pending := fun k a ha => ?_, owned := fun u q hu => ?_, gone := fun q hq hgone => ?_ }
  · by_cases har : a = s.address r
    · simp only [release, har, Function.update_self] at ha
      cases ha
    · simp only [release, Function.update_of_ne har] at ha ⊢
      exact h.info a ha
  · have har : a ≠ s.address r := by
      rintro rfl
      exact hnot k ha
    simp only [release, Function.update_of_ne har]
    exact h.pending k a ha
  · obtain ⟨-, hidle⟩ | ⟨hut, hother⟩ := goto_owns hu
    · cases hidle
    · obtain ⟨hqalloc, hqowner, hqnot⟩ := h.owned u q hother
      have hqr : s.address q ≠ s.address r := by
        intro heq
        have hqr : q = r := by rw [← hqowner, heq, howner]
        subst hqr
        exact hut (h.unique u t q hother (by rw [ht]; rfl))
      simp only [release, State.goto, Function.update_of_ne hqr]
      exact ⟨hqalloc, hqowner, hqnot⟩
  · by_cases hqr : s.address q = s.address r
    · by_cases heq : q = r
      · subst heq
        exact h.finishes t q (Or.inr ht)
      · refine h.gone q hq (Or.inr ?_)
        rw [hqr, howner]
        exact Ne.symm heq
    · simp only [release, State.goto, Function.update_of_ne hqr] at hgone
      exact h.gone q hq hgone

theorem inv_step {a : Label} (h : Inv s) (hkept : Kept s a) (hstep : step simCount s a = some s') : Inv s' := by
  cases a with
  | addRequestToList t pRI serial socket_id =>
    simp only [step] at hstep
    split at hstep
    · rename_i hfree
      obtain rfl := Option.some.inj hstep
      exact inv_addRequestToList h hfree
    · cases hstep
  | links t =>
    simp only [step] at hstep
    split at hstep
    · rename_i r ht
      obtain rfl := Option.some.inj hstep
      exact inv_link h ht
    · cases hstep
  | onRequest t r isAck =>
    simp only [step] at hstep
    split at hstep
    · obtain ⟨hr, heq⟩ := Option.ite_none_right_eq_some.1 hstep
      obtain rfl := Option.some.inj heq
      exact inv_goto h rfl fun _ _ _ hpc => by
        cases hpc
        exact hr
    · cases hstep
  | checkAndDequeue t =>
    simp only [step] at hstep
    split at hstep
    · rename_i r hook isAck ht
      obtain rfl := Option.some.inj hstep
      unfold checkAndDequeueRequestInfoIfAck
      split
      · rename_i hmem
        cases isAck with
        | true => exact inv_ack h
        | false => exact inv_dequeue h hmem (hkept r hook ht hmem)
      · exact inv_idle h
    · cases hstep
  | responseFunction t =>
    simp only [step] at hstep
    split at hstep
    · rename_i r ht
      obtain rfl := Option.some.inj hstep
      exact inv_respond h ht
    · cases hstep
  | free t garbage =>
    simp only [step] at hstep
    split at hstep
    · rename_i r ht
      obtain rfl := Option.some.inj hstep
      exact inv_release h ht
    · cases hstep

/-- **A response reaches the request it belongs to.** Throughout a run each token is accepted at most once, each
request answered at most once, and each completion delivers under the serial number of the request its token was
handed out for, exactly when no completion finds at the address of its token a later request that is pending. -/
theorem faithful_iff_kept (simCount : Nat) (memory : Addr → RequestInfo) (labels : List Label) :
    Always (step simCount) Faithful (State.start memory) labels ↔
      Steps (step simCount) Kept (State.start memory) labels := by
  refine always_iff_steps_of_invariant (fun s a s' => inv_step) (fun s h => h.faithful) (fun s a h hnot => ?_)
    (inv_start memory) labels
  cases a with
  | checkAndDequeue t =>
    simp only [Kept, not_forall] at hnot
    obtain ⟨r, hook, ht, hmem, howner⟩ := hnot
    refine ⟨dequeue s t r hook, ?_, fun hfaithful => ?_⟩
    · simp [step, ht, checkAndDequeueRequestInfoIfAck, hmem]
    · have hgone := h.gone r (h.searches t r hook false ht) (Or.inr howner)
      exact (List.nodup_cons.1 hfaithful.accepted).1 hgone
  | addRequestToList t pRI serial socket_id => exact absurd trivial hnot
  | links t => exact absurd trivial hnot
  | onRequest t r isAck => exact absurd trivial hnot
  | responseFunction t => exact absurd trivial hnot
  | free t garbage => exact absurd trivial hnot

def freed : RequestInfo := { token := 0, cancelled := 0, locally := 0, socket_id := 0, wasAckSent := false }

/-- A handler completes its request twice, and the memory has gone to the next request in between: the second
completion delivers under the serial number of that one. -/
theorem faithful_fails_reusedAddress :
    ¬ ∀ simCount memory labels s, run (step simCount) (State.start memory) labels = some s → Faithful s := by
  intro h
  have hrun : (run (step 2) (State.start fun _ => freed) [.addRequestToList 1 8 100 0, .links 1,
      .onRequest 1 0 false, .checkAndDequeue 1, .responseFunction 1, .free 1 freed, .addRequestToList 2 8 101 0,
      .links 2, .onRequest 1 0 false, .checkAndDequeue 1, .responseFunction 1]).map
        (fun s => (s.delivered, s.serial 0)) = some ([(0, 101), (0, 100)], 100) := by
    decide
  obtain ⟨s, hrun, hs⟩ := Option.map_eq_some_iff.1 hrun
  obtain ⟨hdelivered, hserial⟩ := Prod.mk.inj hs
  have hsame := (h 2 _ _ s hrun).delivered (0, 101) (by rw [hdelivered]; exact List.mem_cons_self)
  rw [hserial] at hsame
  cases hsame

end UniRil.Libril.Tokens
