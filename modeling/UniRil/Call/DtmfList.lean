import UniRil.CString
import UniRil.Lib.Ring
import UniRil.Lib.Runs

/-!
# The list of DTMF tones (ril_call.c)

The list of one SIM. Its requests are served one at a time, and onModemReset_Call runs on a thread of its own. A
section of `s_listMutex` is one step; the other reads and stores of either thread are steps of their own. A node is
named by the number of its allocation.
-/

namespace UniRil.Call.Dtmf

open Rings

inductive ListNode where
  /-- The head, `&s_DTMFList[socket_id]`. -/
  | s_DTMFList
  | item (n : Nat)
deriving DecidableEq

def ListNode.node : ListNode → Option Nat
  | .s_DTMFList => none
  | .item n => some n

/-- The AT commands by their characters. -/
inductive Command where
  | SDTMF_1 (character : Byte)
  | EVTS_1 (character : Byte)
  | SDTMF_0
  | EVTS_0 (character : Byte)
deriving DecidableEq

/-- The request in service, before its next step. -/
inductive Request where
  | idle
  | adds (cmd_item : Nat) (character : Byte)
  | startsSDTMF (character : Byte)
  | startsEVTS (character : Byte)
  | reads (cmd_item : Nat)
  | stopsSDTMF (cmd_item : Nat) (character : Byte)
  | stopsEVTS (cmd_item : Nat) (character : Byte)
  | removes (cmd_item : Nat)
  | frees (cmd_item : Nat)
deriving DecidableEq

/-- onModemReset_Call, before its next step. -/
inductive Reset where
  | idle
  | walks (pList : ListNode)
  | removes (pList : Nat) (next : ListNode)
  | frees (pList : Nat) (next : ListNode)
  /-- The second store of list_init. -/
  | inits
deriving DecidableEq

/-- A command, with the character of the oldest DTMF_START to be stopped when it was sent. -/
structure Sent where
  command : Command
  oldest : Option Byte
deriving DecidableEq

structure State where
  links : Links ListNode
  data : Nat → Byte
  /-- The nodes that malloc has given out so far. -/
  allocated : Nat
  freed : List Nat
  /-- The nodes that were accessed after they were freed. -/
  touched : List Nat
  request : Request
  reset : Reset
  /-- The characters of each DTMF_START since the last reset for which no DTMF_STOP was served, oldest first. -/
  pending : List Byte
  sent : List Sent

def State.start : State where
  links := ⟨fun _ => .s_DTMFList, fun _ => .s_DTMFList⟩
  data := fun _ => NUL
  allocated := 0
  freed := []
  touched := []
  request := .idle
  reset := .idle
  pending := []
  sent := []

/-! ## Memory -/

def State.touch (s : State) : ListNode → State
  | .s_DTMFList => s
  | .item n => if n ∈ s.freed then { s with touched := s.touched ++ [n] } else s

def State.setNext (s : State) (node value : ListNode) : State :=
  { s.touch node with links := { s.links with next := Function.update s.links.next node value } }

def State.setPrev (s : State) (node value : ListNode) : State :=
  { s.touch node with links := { s.links with prev := Function.update s.links.prev node value } }

def list_add_tail (item : ListNode) (s : State) : State :=
  let s := s.setNext item .s_DTMFList
  let s := s.setPrev item (s.links.prev .s_DTMFList)
  let s := s.setNext (s.links.prev .s_DTMFList) item
  s.setPrev .s_DTMFList item

def list_remove (item : ListNode) (s : State) : State :=
  let s := (s.touch item).setPrev (s.links.next item) (s.links.prev item)
  (s.touch item).setNext (s.links.prev item) (s.links.next item)

def free (n : Nat) (s : State) : State := { s with freed := s.freed ++ [n] }

def at_send_command (command : Command) (s : State) : State :=
  { s with sent := s.sent ++ [{ command, oldest := s.pending.head? }] }

/-! ## The threads -/

inductive Label where
  /-- requestDTMFStart up to list_add_tail; malloc succeeds or not. -/
  | requestDTMFStart (character : Byte) (allocates : Bool)
  /-- requestDTMFStop up to the test of the list. -/
  | requestDTMFStop
  /-- The next step of the request; the modem accepts the command or not. -/
  | request (success : Bool)
  | onModemReset_Call
  /-- The next step of onModemReset_Call. -/
  | reset
deriving DecidableEq

def stepRequest (success : Bool) (s : State) : Option State :=
  match s.request with
  | .idle => none
  | .adds n character =>
    some { list_add_tail (.item n) s with request := .startsSDTMF character, pending := s.pending ++ [character] }
  | .startsSDTMF character =>
    some { at_send_command (.SDTMF_1 character) s with request := if success then .startsEVTS character else .idle }
  | .startsEVTS character => some { at_send_command (.EVTS_1 character) s with request := .idle }
  | .reads n => some { s.touch (.item n) with request := .stopsSDTMF n (s.data n) }
  | .stopsSDTMF n character =>
    some { at_send_command .SDTMF_0 s with request := if success then .stopsEVTS n character else .removes n }
  | .stopsEVTS n character => some { at_send_command (.EVTS_0 character) s with request := .removes n }
  | .removes n => some { list_remove (.item n) s with request := .frees n, pending := s.pending.tail }
  | .frees n => some { free n s with request := .idle }

/-- The reset takes effect where it reads that no node follows. -/
def forgets (next : ListNode) (s : State) : State := if next = .s_DTMFList then { s with pending := [] } else s

def stepReset (s : State) : Option State :=
  match s.reset with
  | .idle => none
  | .walks .s_DTMFList => some { s.setNext .s_DTMFList .s_DTMFList with reset := .inits }
  | .walks (.item n) =>
    let next := s.links.next (.item n)
    some { forgets next (s.touch (.item n)) with reset := .removes n next }
  | .removes n next => some { list_remove (.item n) s with reset := .frees n next }
  | .frees n next => some { free n s with reset := .walks next }
  | .inits => some { s.setPrev .s_DTMFList .s_DTMFList with reset := .idle }

def step (s : State) : Label → Option State
  | .requestDTMFStart character allocates =>
    if s.request = .idle then
      if allocates then
        some { s with
          data := Function.update s.data s.allocated character
          allocated := s.allocated + 1
          request := .adds s.allocated character }
      else some s
    else none
  | .requestDTMFStop =>
    if s.request = .idle then
      match s.links.next .s_DTMFList with
      | .s_DTMFList => some s
      | .item n => some { s with request := .reads n }
    else none
  | .request success => stepRequest success s
  | .onModemReset_Call =>
    if s.reset = .idle then
      let pList := s.links.next .s_DTMFList
      some { forgets pList s with reset := .walks pList }
    else none
  | .reset => stepReset s

/-! ## The nodes that a thread has -/

/-- The node of the list that a DTMF_STOP has. -/
def Request.linked : Request → Option Nat
  | .reads n | .stopsSDTMF n _ | .stopsEVTS n _ | .removes n => some n
  | _ => none

/-- The node outside the list that a request has. -/
def Request.unlinked : Request → Option Nat
  | .adds n _ | .frees n => some n
  | _ => none

/-- The nodes of the list that the reset is at and goes on to. -/
def Reset.linked : Reset → List Nat
  | .walks pList => pList.node.toList
  | .removes n next => n :: next.node.toList
  | .frees _ next => next.node.toList
  | _ => []

def Reset.unlinked : Reset → Option Nat
  | .frees n _ => some n
  | _ => none

/-- No node is freed twice or accessed once it was freed, and the list is a ring. A node that was not freed is in the
list, or a thread has it outside. Each AT+EVTS=0 names the character of the oldest DTMF_START to be stopped. -/
structure Sound (s : State) : Prop where
  freedOnce : s.freed.Nodup
  untouched : s.touched = []
  ring : ∃ l : List Nat, Ring s.links .s_DTMFList (l.map .item) ∧ ∀ n < s.allocated,
    n ∈ l ∨ n ∈ s.freed ∨ s.request.unlinked = some n ∨ s.reset.unlinked = some n
  oldest : ∀ e ∈ s.sent, ∀ character, e.command = .EVTS_0 character → e.oldest = some character

/-- A DTMF_STOP does not take a node that a reset has, a reset does not begin with the node of a DTMF_STOP, and the
list is empty at both stores of list_init. -/
def TakesFreeNodes (s : State) : Label → Prop
  | .requestDTMFStop => s.request = .idle → ∀ n ∈ (s.links.next .s_DTMFList).node, n ∉ s.reset.linked
  | .onModemReset_Call => s.reset = .idle → ∀ n ∈ (s.links.next .s_DTMFList).node, s.request.linked ≠ some n
  | .reset => s.reset = .walks .s_DTMFList ∨ s.reset = .inits → s.links.next .s_DTMFList = .s_DTMFList
  | _ => True

variable {s s' : State} {l : List Nat} {n : Nat} {node : ListNode}

/-! ## The list operations -/

/-- The head, or a node that was not freed. -/
def State.Live (s : State) : ListNode → Prop
  | .s_DTMFList => True
  | .item n => n ∉ s.freed

theorem touch_of_live (h : s.Live node) : s.touch node = s := by
  unfold State.touch
  split
  · rfl
  · exact if_neg h

theorem live_of_mem (hlive : ∀ n ∈ l, n ∉ s.freed) (h : node ∈ .s_DTMFList :: l.map ListNode.item) : s.Live node := by
  rcases List.mem_cons.1 h with rfl | h
  · trivial
  · obtain ⟨n, hn, rfl⟩ := List.mem_map.1 h
    exact hlive n hn

theorem touch_links (links : Links ListNode) : ({ s with links } : State).touch node = { s.touch node with links } := by
  unfold State.touch
  split
  · rfl
  · split_ifs
    all_goals rfl

theorem next_eq_head_iff (hr : Ring s.links .s_DTMFList (l.map .item)) :
    s.links.next .s_DTMFList = .s_DTMFList ↔ l = [] := by
  rw [hr.next_eq_self_iff, List.map_eq_nil_iff]

theorem node_next (hr : Ring s.links .s_DTMFList (l.map .item)) : (s.links.next .s_DTMFList).node = l.head? := by
  rw [hr.path.next_eq]
  cases l with
  | nil => rfl
  | cons m l => rfl

/-- The first node of the list is unlinked. -/
theorem list_remove_first (hr : Ring s.links .s_DTMFList ((n :: l).map .item)) (hlive : ∀ m ∈ n :: l, m ∉ s.freed) :
    ∃ links, list_remove (.item n) s = { s with links } ∧ Ring links .s_DTMFList (l.map .item) := by
  have hrot : Ring s.links (.item n) (l.map .item ++ [.s_DTMFList]) := Ring.rotate (l := []) hr
  have hall : ∀ node ∈ .item n :: (l.map ListNode.item ++ [.s_DTMFList]), s.Live node := by
    intro node hnode
    apply live_of_mem hlive
    simp only [List.mem_cons, List.mem_append, List.not_mem_nil, or_false, List.map_cons] at hnode ⊢
    tauto
  have hself : .item n ≠ s.links.next (.item n) := by
    intro heq
    have hnil := hrot.next_eq_self_iff.1 heq.symm
    simp at hnil
  refine ⟨s.links.link (s.links.prev (.item n)) (s.links.next (.item n)), ?_, Ring.unlinkAt (l := []) hr⟩
  have hprev : Function.update s.links.prev (s.links.next (.item n)) (s.links.prev (.item n)) (.item n) =
      s.links.prev (.item n) := Function.update_of_ne hself _ _
  simp only [list_remove, State.setNext, State.setPrev, touch_links, touch_of_live (hall _ List.mem_cons_self), hprev,
    touch_of_live (hall _ hrot.next_mem), touch_of_live (hall _ hrot.prev_mem)]
  rfl

/-- A new node is linked in at the end of the list. -/
theorem list_add_tail_last (hr : Ring s.links .s_DTMFList (l.map .item)) (hlive : ∀ m ∈ n :: l, m ∉ s.freed)
    (hn : n ∉ l) :
    ∃ links, list_add_tail (.item n) s = { s with links } ∧ Ring links .s_DTMFList ((l ++ [n]).map .item) := by
  have hnew : .item n ∉ .s_DTMFList :: l.map ListNode.item := by simpa using hn
  have hlast : s.links.prev .s_DTMFList ∈ .s_DTMFList :: l.map ListNode.item := hr.prev_mem
  have hall : ∀ node ∈ .s_DTMFList :: l.map ListNode.item, s.Live node :=
    fun node hnode => live_of_mem (fun m hm => hlive m (List.mem_cons_of_mem n hm)) hnode
  have hitem : s.Live (.item n) := hlive n List.mem_cons_self
  let links : Links ListNode :=
    { next := Function.update s.links.next (.item n) .s_DTMFList
      prev := Function.update s.links.prev (.item n) (s.links.prev .s_DTMFList) }
  have hother : ∀ d ≠ .item n, links.next d = s.links.next d ∧ links.prev d = s.links.prev d :=
    fun d hd => ⟨Function.update_of_ne hd _ _, Function.update_of_ne hd _ _⟩
  have hring := hr.insert hnew hother (Function.update_self ..) (Function.update_self ..)
  refine ⟨_, ?_, by simpa using hring⟩
  have hhead : ListNode.s_DTMFList ≠ .item n := ListNode.noConfusion
  have hprev : Function.update s.links.prev (.item n) (s.links.prev .s_DTMFList) .s_DTMFList =
      s.links.prev .s_DTMFList := Function.update_of_ne hhead _ _
  simp only [list_add_tail, State.setNext, State.setPrev, touch_links, touch_of_live hitem, hprev,
    touch_of_live (hall _ hlast), touch_of_live (hall _ List.mem_cons_self)]
  rfl

/-! ## What the threads keep -/

/-- The node that a request has, with its character. -/
def Request.character : Request → Option (Nat × Byte)
  | .adds n character | .stopsSDTMF n character | .stopsEVTS n character => some (n, character)
  | _ => none

/-- The nodes that the reset does not remove, once it has taken effect. -/
def Reset.kept (l : List Nat) : Reset → Option (List Nat)
  | .walks (.item _) | .removes _ (.item _) | .frees _ (.item _) => none
  | .removes _ .s_DTMFList => some l.tail
  | _ => some l

/-- Each node is in one place: in the list, freed, or outside the list with one thread. A thread has the first nodes of
the list, and only one of them does. -/
structure Guarded (s : State) (l : List Nat) : Prop where
  ring : Ring s.links .s_DTMFList (l.map .item)
  once : ∀ n, l.count n + s.freed.count n + s.request.unlinked.toList.count n + s.reset.unlinked.toList.count n =
    if n < s.allocated then 1 else 0
  untouched : s.touched = []
  first : ∀ n, s.request.linked = some n → l.head? = some n
  walked : s.reset.linked <+: l
  apart : s.request.linked = none ∨ s.reset.linked = []
  data : ∀ n character, s.request.character = some (n, character) → s.data n = character
  pending : ∀ kept, s.reset.kept l = some kept → s.pending = kept.map s.data
  oldest : ∀ e ∈ s.sent, ∀ character, e.command = .EVTS_0 character → e.oldest = some character

theorem guarded_start : Guarded .start [] where
  ring := .single rfl rfl
  once n := by simp [State.start, Request.unlinked, Reset.unlinked]
  untouched := rfl
  first := by rintro n ⟨⟩
  walked := List.prefix_rfl
  apart := .inl rfl
  data := by rintro n character ⟨⟩
  pending := by rintro kept ⟨⟩; rfl
  oldest := by rintro e ⟨⟩

theorem Guarded.count_le (h : Guarded s l) (n : Nat) :
    l.count n + s.freed.count n + s.request.unlinked.toList.count n + s.reset.unlinked.toList.count n ≤ 1 := by
  rw [h.once n]
  split_ifs
  all_goals omega

theorem Guarded.lt (h : Guarded s l) (hn : n ∈ l) : n < s.allocated := by
  have hcount := List.count_pos_iff.2 hn
  have honce := h.once n
  by_contra hnot
  rw [if_neg hnot] at honce
  omega

theorem Guarded.live (h : Guarded s l) (hn : n ∈ l) : n ∉ s.freed := by
  have hcount := List.count_pos_iff.2 hn
  have hle := h.count_le n
  rw [← List.count_eq_zero]
  omega

theorem Guarded.unlinked (h : Guarded s l) (hn : s.request.unlinked = some n) : n ∉ l ∧ n ∉ s.freed := by
  have hle := h.count_le n
  rw [hn, Option.toList_some, List.count_singleton_self] at hle
  rw [← List.count_eq_zero, ← List.count_eq_zero]
  omega

theorem Guarded.sound (h : Guarded s l) : Sound s where
  freedOnce := by
    rw [List.nodup_iff_count_le_one]
    intro n
    have hle := h.count_le n
    omega
  untouched := h.untouched
  ring := by
    refine ⟨l, h.ring, fun n hn => ?_⟩
    have honce := h.once n
    rw [if_pos hn] at honce
    by_contra hnone
    simp only [not_or] at hnone
    obtain ⟨hlist, hfreed, hrequest, hreset⟩ := hnone
    rw [List.count_eq_zero.2 hlist, List.count_eq_zero.2 hfreed, List.count_eq_zero.2 (by simpa using hrequest),
      List.count_eq_zero.2 (by simpa using hreset)] at honce
    omega
  oldest := h.oldest

/-- A reset that does not have the first node has none. -/
theorem Guarded.noneWalked (h : Guarded s l) (hfirst : l.head? = some n) (hn : n ∉ s.reset.linked) :
    s.reset.linked = [] := by
  obtain ⟨rest, hrest⟩ := h.walked
  rcases hlinked : s.reset.linked with _ | ⟨m, linked⟩
  · rfl
  · rw [hlinked] at hrest hn
    subst hrest
    obtain rfl : m = n := by simpa using hfirst
    exact absurd List.mem_cons_self hn

/-- A reset without a node of the list has taken effect. -/
theorem kept_of_linked_eq_nil {reset : Reset} (h : reset.linked = []) : reset.kept l = some l := by
  cases reset with
  | idle => rfl
  | walks pList =>
    cases pList with
    | s_DTMFList => rfl
    | item n => cases h
  | removes n next => cases h
  | frees n next =>
    cases next with
    | s_DTMFList => rfl
    | item m => cases h
  | inits => rfl

theorem subset_of_kept {reset : Reset} {kept : List Nat} (h : reset.kept l = some kept) : kept ⊆ l := by
  unfold Reset.kept at h
  split at h
  · cases h
  · cases h
  · cases h
  · obtain rfl := Option.some.inj h
    exact (List.tail_sublist l).subset
  · obtain rfl := Option.some.inj h
    exact List.Subset.refl l

/-- A node that is added behind those of the reset is kept. -/
theorem kept_append {reset : Reset} {kept : List Nat} (hwalked : reset.linked <+: l)
    (h : reset.kept (l ++ [n]) = some kept) : ∃ before, reset.kept l = some before ∧ kept = before ++ [n] := by
  unfold Reset.kept at h ⊢
  split at h
  · cases h
  · cases h
  · cases h
  · next m =>
    obtain ⟨rest, rfl⟩ := hwalked
    obtain rfl := Option.some.inj h
    exact ⟨_, rfl, rfl⟩
  · obtain rfl := Option.some.inj h
    exact ⟨l, rfl, rfl⟩

/-! ## The steps of a request -/

theorem Guarded.allocates (h : Guarded s l) (hidle : s.request = .idle) (character : Byte) :
    Guarded { s with
      data := Function.update s.data s.allocated character
      allocated := s.allocated + 1
      request := .adds s.allocated character } l where
  ring := h.ring
  once n := by
    have honce := h.once n
    rw [hidle] at honce
    simp only [Request.unlinked, Option.toList_none, Option.toList_some, List.count_nil, List.count_singleton]
      at honce ⊢
    by_cases hn : n = s.allocated
    · subst hn
      simp at honce ⊢
      omega
    · have hne : ¬ s.allocated = n := fun heq => hn heq.symm
      have hlt : n < s.allocated + 1 ↔ n < s.allocated := by omega
      simp only [beq_iff_eq, hne, hlt, if_false]
      omega
  untouched := h.untouched
  first := by rintro n ⟨⟩
  walked := h.walked
  apart := .inl rfl
  data := by
    rintro n c ⟨⟩
    exact Function.update_self ..
  pending kept hkept := by
    rw [h.pending kept hkept]
    apply List.map_congr_left
    intro n hn
    have hlt := h.lt (subset_of_kept hkept hn)
    exact (Function.update_of_ne (by omega) _ _).symm
  oldest := h.oldest

theorem Guarded.adds {character : Byte} (h : Guarded s l) (hadds : s.request = .adds n character) :
    Guarded { list_add_tail (.item n) s with
      request := .startsSDTMF character
      pending := s.pending ++ [character] } (l ++ [n]) := by
  obtain ⟨hnew, hfreed⟩ := h.unlinked (n := n) (by rw [hadds]; rfl)
  have hlive : ∀ m ∈ n :: l, m ∉ s.freed := by
    intro m hm
    rcases List.mem_cons.1 hm with rfl | hm
    · exact hfreed
    · exact h.live hm
  obtain ⟨links, heq, hring⟩ := list_add_tail_last h.ring hlive hnew
  rw [heq]
  refine { h with
    ring := hring, once := fun m => ?_, first := ?_, walked := ?_, apart := .inl rfl, data := ?_, pending := ?_ }
  · have honce := h.once m
    rw [hadds] at honce
    simp only [Request.unlinked, Option.toList_none, Option.toList_some, List.count_append, List.count_nil] at honce ⊢
    omega
  · rintro m ⟨⟩
  · exact h.walked.trans (List.prefix_append l [n])
  · rintro m c ⟨⟩
  · intro kept hkept
    obtain ⟨before, hbefore, rfl⟩ := kept_append h.walked hkept
    rw [List.map_append, ← h.pending before hbefore, List.map_singleton, h.data n character (by rw [hadds]; rfl)]

/-- The request goes on with the nodes that it has. -/
theorem Guarded.goes {before request : Request} (h : Guarded s l) (hbefore : s.request = before)
    (hunlinked : request.unlinked = before.unlinked) (hlinked : ∀ n, request.linked = some n → before.linked = some n)
    (hdata : ∀ n character, request.character = some (n, character) → s.data n = character) :
    Guarded { s with request } l := by
  subst hbefore
  refine { h with once := fun m => ?_, first := fun m hm => h.first m (hlinked m hm), apart := ?_, data := hdata }
  · rw [hunlinked]
    exact h.once m
  · apply h.apart.imp_left
    intro hnone
    rw [Option.eq_none_iff_forall_ne_some]
    intro m hm
    rw [hlinked m hm] at hnone
    cases hnone

theorem Guarded.sends {command : Command} (h : Guarded s l)
    (hcommand : ∀ character, command = .EVTS_0 character → s.pending.head? = some character) :
    Guarded (at_send_command command s) l := by
  refine { h with oldest := fun e he => ?_ }
  rcases List.mem_append.1 he with he | he
  · exact h.oldest e he
  · obtain rfl := List.mem_singleton.1 he
    exact hcommand

/-- The first node is the oldest to be stopped, while a DTMF_STOP has it. -/
theorem Guarded.pending_eq (h : Guarded s l) (hn : s.request.linked = some n) :
    s.reset.linked = [] ∧ l.head? = some n ∧ s.pending = l.map s.data := by
  have hnone : s.reset.linked = [] := by
    apply h.apart.resolve_left
    rw [hn]
    exact Option.some_ne_none n
  exact ⟨hnone, h.first n hn, h.pending l (kept_of_linked_eq_nil hnone)⟩

theorem Guarded.head_pending {character : Byte} (h : Guarded s l) (hn : s.request.linked = some n)
    (hcharacter : s.request.character = some (n, character)) : s.pending.head? = some character := by
  obtain ⟨-, hfirst, hpending⟩ := h.pending_eq hn
  rw [hpending, List.head?_map, hfirst, Option.map_some, h.data n character hcharacter]

theorem Guarded.removes (h : Guarded s l) (hremoves : s.request = .removes n) :
    Guarded { list_remove (.item n) s with
      request := .frees n
      pending := s.pending.tail } l.tail := by
  obtain ⟨hnone, hfirst, hpending⟩ := h.pending_eq (n := n) (by rw [hremoves]; rfl)
  obtain ⟨rest, rfl⟩ := List.head?_eq_some_iff.1 hfirst
  obtain ⟨links, heq, hring⟩ := list_remove_first h.ring fun m hm => h.live hm
  rw [heq]
  refine { h with
    ring := hring, once := fun m => ?_, first := ?_, walked := ?_, apart := .inl rfl, data := ?_, pending := ?_ }
  · have honce := h.once m
    rw [hremoves] at honce
    simp only [Request.unlinked, Option.toList_none, Option.toList_some, List.count_cons, List.count_nil,
      List.tail_cons] at honce ⊢
    omega
  · rintro m ⟨⟩
  · rw [hnone]
    exact List.nil_prefix
  · rintro m c ⟨⟩
  · intro kept hkept
    obtain rfl := Option.some.inj ((kept_of_linked_eq_nil hnone).symm.trans hkept)
    rw [hpending]
    rfl

theorem Guarded.frees (h : Guarded s l) (hfrees : s.request = .frees n) :
    Guarded { free n s with request := .idle } l := by
  refine { h with once := fun m => ?_, first := ?_, apart := .inl rfl, data := ?_ }
  · refine Eq.trans ?_ (h.once m)
    rw [hfrees]
    change l.count m + (s.freed ++ [n]).count m + 0 + s.reset.unlinked.toList.count m =
      l.count m + s.freed.count m + [n].count m + s.reset.unlinked.toList.count m
    rw [List.count_append]
    omega
  · rintro m ⟨⟩
  · rintro m c ⟨⟩

theorem guarded_stepRequest {success : Bool} (h : Guarded s l) (hstep : stepRequest success s = some s') :
    ∃ l', Guarded s' l' := by
  unfold stepRequest at hstep
  split at hstep
  · cases hstep
  · next hrequest =>
    obtain rfl := Option.some.inj hstep
    exact ⟨_, h.adds hrequest⟩
  · next hrequest =>
    obtain rfl := Option.some.inj hstep
    refine ⟨l, (h.sends ?_).goes hrequest ?_ ?_ ?_⟩
    · rintro c ⟨⟩
    · cases success
      all_goals rfl
    · cases success
      all_goals rintro m ⟨⟩
    · cases success
      all_goals rintro m c ⟨⟩
  · next hrequest =>
    obtain rfl := Option.some.inj hstep
    refine ⟨l, (h.sends ?_).goes hrequest rfl ?_ ?_⟩
    · rintro c ⟨⟩
    · rintro m ⟨⟩
    · rintro m c ⟨⟩
  · next n hrequest =>
    obtain rfl := Option.some.inj hstep
    have hfirst := h.first n (by rw [hrequest]; rfl)
    rw [touch_of_live (by exact h.live (List.mem_of_head? hfirst))]
    refine ⟨l, h.goes hrequest rfl (fun m hm => hm) ?_⟩
    rintro m c ⟨⟩
    rfl
  · next n character hrequest =>
    obtain rfl := Option.some.inj hstep
    have hdata := h.data n character (by rw [hrequest]; rfl)
    refine ⟨l, (h.sends ?_).goes hrequest ?_ ?_ ?_⟩
    · rintro c ⟨⟩
    · cases success
      all_goals rfl
    · cases success
      all_goals exact fun m hm => hm
    · cases success
      · rintro m c ⟨⟩
      · rintro m c ⟨⟩
        exact hdata
  · next n character hrequest =>
    obtain rfl := Option.some.inj hstep
    refine ⟨l, (h.sends ?_).goes hrequest rfl (fun m hm => hm) ?_⟩
    · rintro c ⟨⟩
      exact h.head_pending (n := n) (by rw [hrequest]; rfl) (by rw [hrequest]; rfl)
    · rintro m c ⟨⟩
  · next hrequest =>
    obtain rfl := Option.some.inj hstep
    exact ⟨_, h.removes hrequest⟩
  · next hrequest =>
    obtain rfl := Option.some.inj hstep
    exact ⟨_, h.frees hrequest⟩

/-! ## The steps of a reset -/

theorem forgets_of_ne (h : node ≠ .s_DTMFList) : forgets node s = s := if_neg h

theorem Guarded.begins (h : Guarded s l) (hidle : s.reset = .idle)
    (hfree : ∀ n ∈ (s.links.next .s_DTMFList).node, s.request.linked ≠ some n) :
    Guarded { forgets (s.links.next .s_DTMFList) s with reset := .walks (s.links.next .s_DTMFList) } l := by
  have hfirst := node_next h.ring
  rw [hfirst] at hfree
  cases l with
  | nil =>
    have hnext := (next_eq_head_iff h.ring).2 rfl
    rw [hnext]
    refine { h with once := fun m => ?_, walked := List.prefix_rfl, apart := .inr rfl, pending := ?_ }
    · refine Eq.trans ?_ (h.once m)
      rw [hidle]
      rfl
    · rintro kept ⟨⟩
      rfl
  | cons n l =>
    have hnext : s.links.next .s_DTMFList = .item n := h.ring.path.1.1
    rw [hnext, forgets_of_ne ListNode.noConfusion]
    refine { h with once := fun m => ?_, walked := ⟨l, rfl⟩, apart := .inl ?_, pending := ?_ }
    · refine Eq.trans ?_ (h.once m)
      rw [hidle]
      rfl
    · rw [Option.eq_none_iff_forall_ne_some]
      intro m hm
      obtain rfl : n = m := by simpa using h.first m hm
      exact hfree n rfl hm
    · rintro kept ⟨⟩

theorem Guarded.walks (h : Guarded s l) (hwalks : s.reset = .walks (.item n)) :
    Guarded { forgets (s.links.next (.item n)) (s.touch (.item n)) with
      reset := .removes n (s.links.next (.item n)) } l := by
  have hwalked := h.walked
  rw [hwalks] at hwalked
  obtain ⟨rest, rfl⟩ := hwalked
  have hnone : s.request.linked = none := by
    apply h.apart.resolve_right
    rw [hwalks]
    exact List.cons_ne_nil n []
  rw [touch_of_live (by exact h.live List.mem_cons_self)]
  cases rest with
  | nil =>
    have hnext : s.links.next (.item n) = .s_DTMFList := h.ring.path.2.1
    rw [hnext]
    refine { h with once := fun m => ?_, walked := List.prefix_rfl, apart := .inl hnone, pending := ?_ }
    · refine Eq.trans ?_ (h.once m)
      rw [hwalks]
      rfl
    · rintro kept ⟨⟩
      rfl
  | cons m rest =>
    have hnext : s.links.next (.item n) = .item m := h.ring.path.2.1.1
    rw [hnext, forgets_of_ne ListNode.noConfusion]
    refine { h with once := fun m => ?_, walked := ⟨rest, rfl⟩, apart := .inl hnone, pending := ?_ }
    · refine Eq.trans ?_ (h.once m)
      rw [hwalks]
      rfl
    · rintro kept ⟨⟩

theorem Guarded.unlinks {next : ListNode} (h : Guarded s l) (hremoves : s.reset = .removes n next) :
    Guarded { list_remove (.item n) s with reset := .frees n next } l.tail := by
  have hwalked := h.walked
  rw [hremoves] at hwalked
  obtain ⟨rest, rfl⟩ := hwalked
  have hnone : s.request.linked = none := by
    apply h.apart.resolve_right
    rw [hremoves]
    exact List.cons_ne_nil n _
  obtain ⟨links, heq, hring⟩ := list_remove_first h.ring fun m hm => h.live hm
  rw [heq]
  refine { h with
    ring := hring, once := fun m => ?_, first := ?_, walked := ⟨rest, rfl⟩, apart := .inl hnone, pending := ?_ }
  · refine Eq.trans ?_ (h.once m)
    rw [hremoves]
    simp only [Reset.linked, Reset.unlinked, Option.toList_none, Option.toList_some, List.cons_append, List.tail_cons,
      List.count_cons, List.count_nil]
    omega
  · rintro m hm
    rw [hnone] at hm
    cases hm
  · intro kept hkept
    apply h.pending kept
    rw [hremoves]
    cases next with
    | s_DTMFList => exact hkept
    | item q => cases hkept

theorem Guarded.releases {next : ListNode} (h : Guarded s l) (hfrees : s.reset = .frees n next) :
    Guarded { free n s with reset := .walks next } l := by
  refine { h with once := fun m => ?_, walked := ?_, apart := ?_, pending := fun kept hkept => h.pending kept ?_ }
  · refine Eq.trans ?_ (h.once m)
    rw [hfrees]
    change l.count m + (s.freed ++ [n]).count m + s.request.unlinked.toList.count m + 0 =
      l.count m + s.freed.count m + s.request.unlinked.toList.count m + [n].count m
    rw [List.count_append]
    omega
  · have hwalked := h.walked
    rw [hfrees] at hwalked
    exact hwalked
  · have hapart := h.apart
    rw [hfrees] at hapart
    exact hapart
  · rw [hfrees]
    cases next with
    | s_DTMFList => exact hkept
    | item q => cases hkept

/-- A reset without a node of the list goes on to another such step. -/
theorem Guarded.passes {before reset : Reset} (h : Guarded s l) (hbefore : s.reset = before)
    (hunlinked : reset.unlinked = before.unlinked) (hnone : reset.linked = []) (hnone' : before.linked = []) :
    Guarded { s with reset } l := by
  subst hbefore
  refine { h with
    once := fun m => ?_, walked := ?_, apart := .inr hnone, pending := fun kept hkept => h.pending kept ?_ }
  · rw [hunlinked]
    exact h.once m
  · rw [hnone]
    exact List.nil_prefix
  · rw [kept_of_linked_eq_nil hnone']
    exact (kept_of_linked_eq_nil hnone).symm.trans hkept

/-- list_init leaves an empty list as it is. -/
theorem Guarded.list_init_eq (h : Guarded s l) (hempty : s.links.next .s_DTMFList = .s_DTMFList) :
    s.setNext .s_DTMFList .s_DTMFList = s ∧ s.setPrev .s_DTMFList .s_DTMFList = s := by
  obtain rfl := (next_eq_head_iff h.ring).1 hempty
  have hprev : s.links.prev .s_DTMFList = .s_DTMFList := by simpa using h.ring.prev_mem
  unfold State.setNext State.setPrev State.touch
  constructor
  · dsimp only
    rw [Function.update_eq_self_iff.2 hempty.symm]
  · dsimp only
    rw [Function.update_eq_self_iff.2 hprev.symm]

theorem guarded_stepReset (h : Guarded s l) (hempty : s.reset = .walks .s_DTMFList ∨ s.reset = .inits →
    s.links.next .s_DTMFList = .s_DTMFList) (hstep : stepReset s = some s') : ∃ l', Guarded s' l' := by
  unfold stepReset at hstep
  split at hstep
  · cases hstep
  · next hreset =>
    obtain rfl := Option.some.inj hstep
    obtain ⟨heq, -⟩ := h.list_init_eq (hempty (.inl hreset))
    rw [heq]
    exact ⟨l, h.passes hreset rfl rfl rfl⟩
  · next n hreset =>
    obtain rfl := Option.some.inj hstep
    exact ⟨l, h.walks hreset⟩
  · next n next hreset =>
    obtain rfl := Option.some.inj hstep
    exact ⟨_, h.unlinks hreset⟩
  · next n next hreset =>
    obtain rfl := Option.some.inj hstep
    exact ⟨l, h.releases hreset⟩
  · next hreset =>
    obtain rfl := Option.some.inj hstep
    obtain ⟨-, heq⟩ := h.list_init_eq (hempty (.inr hreset))
    rw [heq]
    exact ⟨l, h.passes hreset rfl rfl rfl⟩

/-! ## Runs -/

theorem guarded_step (s : State) (a : Label) (s' : State) (h : ∃ l, Guarded s l) (hfree : TakesFreeNodes s a)
    (hstep : step s a = some s') : ∃ l, Guarded s' l := by
  obtain ⟨l, h⟩ := h
  unfold step at hstep
  split at hstep
  · next character allocates =>
    obtain ⟨hidle, hstep⟩ := Option.ite_none_right_eq_some.1 hstep
    split_ifs at hstep
    · obtain rfl := Option.some.inj hstep
      exact ⟨l, h.allocates hidle character⟩
    · obtain rfl := Option.some.inj hstep
      exact ⟨l, h⟩
  · obtain ⟨hidle, hstep⟩ := Option.ite_none_right_eq_some.1 hstep
    have hfirst := node_next h.ring
    split at hstep
    · obtain rfl := Option.some.inj hstep
      exact ⟨l, h⟩
    · next n hnext =>
      obtain rfl := Option.some.inj hstep
      rw [hnext] at hfirst
      have hn : n ∉ s.reset.linked := hfree hidle n (by rw [hnext]; rfl)
      refine ⟨l, { h with once := fun m => ?_, first := ?_, apart := .inr (h.noneWalked hfirst.symm hn), data := ?_ }⟩
      · refine Eq.trans ?_ (h.once m)
        rw [hidle]
        rfl
      · rintro m ⟨⟩
        exact hfirst.symm
      · rintro m c ⟨⟩
  · exact guarded_stepRequest h hstep
  · obtain ⟨hidle, hstep⟩ := Option.ite_none_right_eq_some.1 hstep
    obtain rfl := Option.some.inj hstep
    exact ⟨l, h.begins hidle (hfree hidle)⟩
  · exact guarded_stepReset h hfree hstep

/-- **In every run in which no thread takes a node that the other one has, and list_init finds the list empty, the
list is sound.** -/
theorem sound_of_takesFreeNodes (labels : List Label) (h : Runs.Steps step TakesFreeNodes .start labels) :
    Runs.Always step Sound .start labels := by
  have hguarded := Runs.always_of_steps guarded_step ⟨[], guarded_start⟩ h
  exact hguarded.mono fun s ⟨_, hs⟩ => hs.sound

instance (s : State) : (a : Label) → Decidable (TakesFreeNodes s a)
  | .requestDTMFStop =>
    inferInstanceAs (Decidable (s.request = .idle → ∀ n ∈ (s.links.next .s_DTMFList).node, n ∉ s.reset.linked))
  | .onModemReset_Call =>
    inferInstanceAs (Decidable (s.reset = .idle → ∀ n ∈ (s.links.next .s_DTMFList).node, s.request.linked ≠ some n))
  | .reset =>
    inferInstanceAs (Decidable (s.reset = .walks .s_DTMFList ∨ s.reset = .inits →
      s.links.next .s_DTMFList = .s_DTMFList))
  | .requestDTMFStart _ _ => isTrue trivial
  | .request _ => isTrue trivial

/-- Tones 1 and 2 start, tone 1 is stopped, and the modem is reset. -/
def resetAfterStop : List Label :=
  [.requestDTMFStart 49 true, .request true, .request true, .request true,
    .requestDTMFStart 50 true, .request true, .request true, .request true,
    .requestDTMFStop] ++ List.replicate 5 (.request true) ++ .onModemReset_Call :: List.replicate 5 .reset

theorem sound_resetAfterStop : Runs.Always step Sound .start resetAfterStop :=
  sound_of_takesFreeNodes resetAfterStop (by decide)

/-- The modem is reset while DTMF_STOP waits for the answer to its first command. -/
def resetDuringStop : List Label :=
  [.requestDTMFStart 49 true, .request true, .request true, .request true, .requestDTMFStop, .request true,
    .onModemReset_Call, .reset, .reset, .reset, .request true, .request true, .request true, .request true]

/-- The node is freed twice. -/
theorem sound_fails_resetDuringStop : ¬ Runs.Always step Sound .start resetDuringStop := by
  have hrun : (Runs.run step .start resetDuringStop).map (·.freed) = some [0, 0] := by decide
  obtain ⟨s, hrun, hs⟩ := Option.map_eq_some_iff.1 hrun
  intro h
  have honce := (h.last hrun).freedOnce
  rw [hs] at honce
  exact absurd honce (by decide)

end UniRil.Call.Dtmf
