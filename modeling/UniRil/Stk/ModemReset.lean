import UniRil.Stk.Channels

/-!
# The contexts when the modem is reset (ril_stk.c)

The loop is written for a list that ends with NULL, and the contexts are held in a ring. A node that was freed is no
longer to be read: what is read of it is not known, and the run ends there.
-/

namespace UniRil.Stk.ModemReset

open Rings

/-! ## What is freed -/

/-- The data of a command. -/
inductive Data
  | pOCData
  | pSCData
  | pRCData
  | pCCData
  deriving DecidableEq

inductive Member
  | recevieData
  | text (d : Data)
  | data (d : Data)
  | pCStatus
  | pCmdDet
  deriving DecidableEq

/-- What `free` is given. -/
inductive Block
  | s_stkUnsolResponse
  | node (a : Addr)
  | context (c : Addr)
  | member (c : Addr) (m : Member)
  deriving DecidableEq

/-- Which pointers of a context are not NULL. -/
structure Owned where
  recevieData : Bool
  /-- Whether the data is there, and whether it has a text. -/
  data : Data → Option Bool
  pCStatus : Bool
  pCmdDet : Bool

def Owned.freeData (o : Owned) (d : Data) : List Member :=
  match o.data d with
  | none => []
  | some hasText => (if hasText then [.text d] else []) ++ [.data d]

/-- The members in the order of `freeStkContextList`. -/
def Owned.members (o : Owned) : List Member :=
  (if o.recevieData then [.recevieData] else []) ++ o.freeData .pOCData ++ (if o.pCStatus then [.pCStatus] else []) ++
    o.freeData .pSCData ++ o.freeData .pRCData ++ o.freeData .pCCData ++ (if o.pCmdDet then [.pCmdDet] else [])

/-! ## The heap -/

/-- A node whose links may be NULL. -/
structure Node where
  pstkcontext : Addr
  prev : Option Addr
  next : Option Addr

structure Heap where
  nodes : Addr → Node
  owned : Addr → Owned
  /-- What was freed, in this order. -/
  frees : List Block

inductive Fault
  | null
  | freed (a : Addr)
  /-- The loop has gone on longer than there are nodes. -/
  | endless
  deriving DecidableEq

/-- A run ends with a value, or where it may not go on. -/
abbrev Run (α : Type) := Except (Fault × Heap) α

/-- The node behind a pointer that is read or written through. -/
def Heap.node (h : Heap) : Option Addr → Run (Addr × Node)
  | none => .error (.null, h)
  | some a => if .node a ∈ h.frees then .error (.freed a, h) else .ok (a, h.nodes a)

def Heap.set (h : Heap) (a : Addr) (f : Node → Node) : Heap :=
  { h with nodes := Function.update h.nodes a (f (h.nodes a)) }

def Heap.store (h : Heap) (p : Option Addr) (f : Node → Node) : Run Heap := do
  let (a, _) ← h.node p
  .ok (h.set a f)

/-! ## The functions -/

def Heap.blocks (h : Heap) (a : Addr) : List Block :=
  let c := (h.nodes a).pstkcontext
  (h.owned c).members.map (.member c) ++ [.context c, .node a]

/-- The node is there: the loop does not call the function with NULL. -/
def freeStkContextList (stkContextList : Addr) (h : Heap) : Run Heap := do
  let (a, _) ← h.node (some stkContextList)
  .ok { h with frees := h.frees ++ h.blocks a }

/-- The loop of `onModemReset_Stk`. -/
def resetLoop : Nat → Option Addr → Heap → Run Heap
  | _, none, h => .ok h
  | 0, some _, h => .error (.endless, h)
  | fuel + 1, some pList, h => do
    let (_, node) ← h.node (some pList)
    let next := node.next
    let h ← h.store node.next fun n => { n with prev := node.prev }
    -- the only node of a ring has been stored to
    let (_, node) ← h.node (some pList)
    let h ← h.store node.prev fun n => { n with next := node.next }
    let h ← h.store (some pList) fun n => { n with next := none }
    let h ← h.store (some pList) fun n => { n with prev := none }
    let h ← freeStkContextList pList h
    resetLoop fuel next h

/-- The variables of one SIM. -/
structure Sim where
  s_stkServiceRunning : Bool
  s_lunchOpenChannelDialog : Bool
  s_stkUnsolResponse : Option (List Byte)
  s_stkContextList : Option Addr
  s_curBipChannelID : Nat
  s_bipState : Nat → BipChannelState
  heap : Heap
  /-- No node has this address, nor a higher one. -/
  fresh : Addr

/-- The body of the loop over the SIMs. -/
def resetSim (s : Sim) : Run Sim := do
  let freed := if s.s_stkUnsolResponse.isSome then [Block.s_stkUnsolResponse] else []
  let heap ← resetLoop (s.fresh + 1) s.s_stkContextList { s.heap with frees := s.heap.frees ++ freed }
  .ok { s with
    s_stkServiceRunning := false
    s_lunchOpenChannelDialog := false
    s_stkUnsolResponse := none
    s_stkContextList := none
    s_curBipChannelID := 0
    s_bipState := fun i => if i < MAX_BIP_CHANNELS then .BIP_CHANNEL_IDLE else s.s_bipState i
    heap := heap }

/-- The SIMs below `RIL_SOCKET_NUM`, one after the other. -/
def onModemReset_Stk : Nat → (Nat → Sim) → Run (Nat → Sim)
  | 0, sims => .ok sims
  | socket_id + 1, sims => do
    let sims ← onModemReset_Stk socket_id sims
    let sim ← resetSim (sims socket_id)
    .ok (Function.update sims socket_id sim)

/-! ## A step of the loop -/

variable {h : Heap} {a : Addr}

def Heap.Live (h : Heap) (a : Addr) : Prop := .node a ∉ h.frees

theorem node_of_live (hlive : h.Live a) : h.node (some a) = .ok (a, h.nodes a) := if_neg hlive

theorem node_of_freed (hfreed : .node a ∈ h.frees) : h.node (some a) = .error (.freed a, h) := if_pos hfreed

theorem store_of_live (hlive : h.Live a) (f : Node → Node) : h.store (some a) f = .ok (h.set a f) := by
  unfold Heap.store
  rw [node_of_live hlive]
  rfl

@[simp] theorem frees_set (a : Addr) (f : Node → Node) : (h.set a f).frees = h.frees := rfl

@[simp] theorem owned_set (a : Addr) (f : Node → Node) : (h.set a f).owned = h.owned := rfl

theorem set_self (a : Addr) (f : Node → Node) : (h.set a f).nodes a = f (h.nodes a) := Function.update_self ..

theorem set_ne {b : Addr} (hne : b ≠ a) (f : Node → Node) : (h.set a f).nodes b = h.nodes b :=
  Function.update_of_ne hne ..

/-! ## The ring of the nodes -/

/-- The links of the nodes that have both. -/
def Heap.links (h : Heap) : Links Addr where
  next := fun a => (h.nodes a).next.getD a
  prev := fun a => (h.nodes a).prev.getD a

theorem links_setPrev (a p : Addr) :
    (h.set a fun n => { n with prev := some p }).links =
      { h.links with prev := Function.update h.links.prev a p } := by
  ext b
  · by_cases hb : b = a
    · simp [Heap.links, hb, set_self]
    · simp [Heap.links, set_ne hb]
  · by_cases hb : b = a
    · simp [Heap.links, hb, set_self]
    · simp [Heap.links, hb, set_ne hb]

theorem links_setNext (a p : Addr) :
    (h.set a fun n => { n with next := some p }).links =
      { h.links with next := Function.update h.links.next a p } := by
  ext b
  · by_cases hb : b = a
    · simp [Heap.links, hb, set_self]
    · simp [Heap.links, hb, set_ne hb]
  · by_cases hb : b = a
    · simp [Heap.links, hb, set_self]
    · simp [Heap.links, set_ne hb]

def Node.Linked (n : Node) : Prop := n.next.isSome ∧ n.prev.isSome

theorem linked_set {a b : Addr} {f : Node → Node} (hf : ∀ n : Node, n.Linked → (f n).Linked)
    (hb : (h.nodes b).Linked) : ((h.set a f).nodes b).Linked := by
  by_cases hba : b = a
  · rw [hba, set_self]
    exact hf _ (hba ▸ hb)
  · rw [set_ne hba]
    exact hb

/-- A ring none of whose nodes was freed. -/
structure LiveRing (h : Heap) (head : Addr) (l : List Addr) : Prop where
  ring : Ring h.links head l
  linked : ∀ a ∈ head :: l, (h.nodes a).Linked
  live : ∀ a ∈ head :: l, h.Live a

variable {head : Addr} {l : List Addr}

theorem LiveRing.next_eq (hr : LiveRing h head l) : (h.nodes head).next = some (h.links.next head) := by
  obtain ⟨n, hn⟩ := Option.isSome_iff_exists.1 (hr.linked head List.mem_cons_self).1
  simp [Heap.links, hn]

theorem LiveRing.prev_eq (hr : LiveRing h head l) : (h.nodes head).prev = some (h.links.prev head) := by
  obtain ⟨p, hp⟩ := Option.isSome_iff_exists.1 (hr.linked head List.mem_cons_self).2
  simp [Heap.links, hp]

/-- The heap after a turn of the loop. -/
def Heap.unlinked (h : Heap) (a : Addr) : Heap :=
  (((h.set (h.links.next a) fun n => { n with prev := some (h.links.prev a) }).set (h.links.prev a) fun n =>
    { n with next := some (h.links.next a) }).set a fun n => { n with next := none }).set a fun n =>
      { n with prev := none }

def Heap.released (h : Heap) (a : Addr) : Heap := { h.unlinked a with frees := h.frees ++ h.blocks a }

theorem context_set (a b : Addr) {f : Node → Node} (hf : ∀ n, (f n).pstkcontext = n.pstkcontext) :
    ((h.set a f).nodes b).pstkcontext = (h.nodes b).pstkcontext := by
  by_cases hb : b = a
  · rw [hb, set_self, hf]
  · rw [set_ne hb]

theorem context_unlinked (a b : Addr) : ((h.unlinked a).nodes b).pstkcontext = (h.nodes b).pstkcontext := by
  unfold Heap.unlinked
  rw [context_set, context_set, context_set, context_set]
  · intro n
    rfl
  · intro n
    rfl
  · intro n
    rfl
  · intro n
    rfl

theorem blocks_unlinked (a b : Addr) : (h.unlinked a).blocks b = h.blocks b := by
  unfold Heap.blocks
  rw [context_unlinked]
  rfl

/-- **One turn**: the first node is taken out of the ring and freed. -/
theorem resetLoop_step (hr : LiveRing h head l) (fuel : Nat) :
    resetLoop (fuel + 1) (some head) h = resetLoop fuel (some (h.links.next head)) (h.released head) := by
  have hhead : h.Live head := hr.live head List.mem_cons_self
  have hnext : h.Live (h.links.next head) := hr.live _ hr.ring.next_mem
  have hprev : h.Live (h.links.prev head) := hr.live _ hr.ring.prev_mem
  -- the store to the next node leaves the links of the first one
  have hself : (h.set (h.links.next head) fun n => { n with prev := some (h.links.prev head) }).nodes head =
      h.nodes head := by
    by_cases hone : head = h.links.next head
    · rw [← hone, set_self, ← hr.prev_eq]
    · rw [set_ne hone]
  rw [resetLoop, node_of_live hhead]
  simp only [bind, Except.bind]
  rw [hr.next_eq, store_of_live hnext, hr.prev_eq]
  simp only
  rw [node_of_live (show Heap.Live (h.set _ _) head from hhead), hself]
  simp only [hr.next_eq, hr.prev_eq]
  rw [store_of_live (show Heap.Live (h.set _ _) _ from hprev)]
  simp only
  rw [store_of_live (show Heap.Live ((h.set _ _).set _ _) _ from hhead)]
  simp only
  rw [store_of_live (show Heap.Live (((h.set _ _).set _ _).set _ _) _ from hhead)]
  have hfree : freeStkContextList head (h.unlinked head) = .ok (h.released head) := by
    unfold freeStkContextList Heap.released
    rw [node_of_live (show Heap.Live (h.unlinked head) head from hhead)]
    simp only [bind, Except.bind]
    rw [blocks_unlinked]
    rfl
  show (freeStkContextList head (h.unlinked head)).bind (resetLoop fuel (some (h.links.next head))) = _
  rw [hfree]
  rfl

/-- The node that is freed is the only one that is left without links. -/
theorem nodes_unlinked {a b : Addr} (hb : b ≠ a) :
    (h.unlinked a).nodes b =
      ((h.set (h.links.next a) fun n => { n with prev := some (h.links.prev a) }).set (h.links.prev a) fun n =>
        { n with next := some (h.links.next a) }).nodes b := by
  unfold Heap.unlinked
  rw [set_ne hb, set_ne hb]

theorem links_released {a b : Addr} (hb : b ≠ a) :
    (h.released a).links.next b = (h.links.link (h.links.prev a) (h.links.next a)).next b ∧
      (h.released a).links.prev b = (h.links.link (h.links.prev a) (h.links.next a)).prev b := by
  have hlinks : (h.released a).links = (h.unlinked a).links := rfl
  have hcell := nodes_unlinked (h := h) hb
  have hnext (h h' : Heap) (heq : h.nodes b = h'.nodes b) :
      h.links.next b = h'.links.next b ∧ h.links.prev b = h'.links.prev b := by
    simp only [Heap.links, heq, and_self]
  rw [hlinks, (hnext _ _ hcell).1, (hnext _ _ hcell).2, links_setNext, links_setPrev]
  exact ⟨rfl, rfl⟩

/-- The ring of the others, none of them freed. -/
theorem LiveRing.released {b : Addr} (hr : LiveRing h head (b :: l)) : LiveRing (h.released head) b l := by
  obtain ⟨hhead, -⟩ := List.nodup_cons.1 hr.ring.nodup
  have hne {a : Addr} (ha : a ∈ b :: l) : a ≠ head := fun heq => hhead (heq ▸ ha)
  have hfirst : h.links.next head = b := hr.ring.path.1.1
  constructor
  · apply hr.ring.unlink.congr
    intro a ha
    exact links_released (hne ha)
  · intro a ha
    show ((h.unlinked head).nodes a).Linked
    rw [nodes_unlinked (hne ha)]
    refine linked_set ?_ (linked_set ?_ (hr.linked a (List.mem_cons_of_mem head ha)))
    · intro n hn
      exact ⟨rfl, hn.2⟩
    · intro n hn
      exact ⟨hn.1, rfl⟩
  · intro a ha hfreed
    rcases List.mem_append.1 hfreed with hfreed | hfreed
    · exact hr.live a (List.mem_cons_of_mem head ha) hfreed
    · simp [Heap.blocks, hne ha] at hfreed

/-- **The whole ring**: each node is freed once, with what it holds, and then the last one is read. -/
theorem resetLoop_ring (hr : LiveRing h head l) {fuel : Nat} (hfuel : l.length + 1 < fuel) :
    ∃ h', resetLoop fuel (some head) h = .error (.freed ((head :: l).getLast (List.cons_ne_nil head l)), h') ∧
      h'.frees = h.frees ++ (head :: l).flatMap h.blocks := by
  induction l generalizing h head fuel with
  | nil =>
    obtain ⟨fuel, rfl⟩ : ∃ n, fuel = n + 2 := ⟨fuel - 2, by simp at hfuel; omega⟩
    have hnext : h.links.next head = head := hr.ring.path.1
    have hfreed : .node head ∈ (h.released head).frees := by simp [Heap.released, Heap.blocks]
    rw [resetLoop_step hr, hnext, resetLoop, node_of_freed hfreed]
    exact ⟨h.released head, rfl, by simp [Heap.released]⟩
  | cons b l ih =>
    obtain ⟨fuel, rfl⟩ : ∃ n, fuel = n + 1 := ⟨fuel - 1, by omega⟩
    have hnext : h.links.next head = b := hr.ring.path.1.1
    have hrest : l.length + 1 < fuel := by
      rw [List.length_cons] at hfuel
      omega
    obtain ⟨h', hrun, hfrees⟩ := ih hr.released hrest
    rw [resetLoop_step hr, hnext, hrun]
    refine ⟨h', rfl, ?_⟩
    have hblocks : (h.released head).blocks = h.blocks := funext fun a => blocks_unlinked head a
    rw [hfrees, hblocks, Heap.released, List.flatMap_cons (x := head), List.append_assoc]

/-! ## The variables of the SIMs -/

/-- The SIM with the list that `addToStkContextList` has built. -/
def Sim.ofState (s : State) (owned : Addr → Owned) (s_stkServiceRunning : Bool)
    (s_stkUnsolResponse : Option (List Byte)) : Sim where
  s_stkServiceRunning := s_stkServiceRunning
  s_lunchOpenChannelDialog := s.s_lunchOpenChannelDialog
  s_stkUnsolResponse := s_stkUnsolResponse
  s_stkContextList := s.s_stkContextList
  s_curBipChannelID := s.s_curBipChannelID
  s_bipState := s.s_bipState
  heap :=
    { nodes := fun a =>
        { pstkcontext := (s.nodes a).pstkcontext, prev := some (s.nodes a).prev, next := some (s.nodes a).next }
      owned := owned
      frees := [] }
  fresh := s.fresh

variable {s : State}

section
variable (owned : Addr → Owned) (running : Bool) (response : Option (List Byte))

theorem liveRing_ofState (frees : List Block) (hfrees : ∀ a, .node a ∉ frees) (hring : Ring s.links head l) :
    LiveRing { (Sim.ofState s owned running response).heap with frees := frees } head l := by
  constructor
  · exact hring
  · intro a ha
    exact ⟨rfl, rfl⟩
  · intro a ha
    exact hfrees a

/-- Nothing is to be released: the variables are set all the same. -/
theorem resetSim_nil (h : s.s_stkContextList = none) :
    ∃ sim, resetSim (.ofState s owned running response) = .ok sim ∧ sim.s_stkContextList = none := by
  unfold resetSim
  simp only [Sim.ofState, h]
  exact ⟨_, rfl, rfl⟩

/-- A ring is not left again. -/
theorem resetSim_ring (h : s.s_stkContextList = some head) (hring : Ring s.links head l)
    (hlt : ∀ a ∈ head :: l, a < s.fresh) :
    ∃ h', resetSim (.ofState s owned running response) =
      .error (.freed ((head :: l).getLast (List.cons_ne_nil head l)), h') := by
  have hlength := length_le_of_lt hring.nodup hlt
  have hfrees (a : Addr) : Block.node a ∉ if response.isSome then [Block.s_stkUnsolResponse] else [] := by
    split
    · simp
    · simp
  have hfuel : l.length + 1 < s.fresh + 1 := by
    rw [List.length_cons] at hlength
    omega
  obtain ⟨h', hrun, -⟩ := resetLoop_ring (liveRing_ofState owned running response _ hfrees hring) hfuel
  refine ⟨h', ?_⟩
  unfold resetSim
  rw [show (Sim.ofState s owned running response).s_stkContextList = some head from h]
  show (resetLoop (s.fresh + 1) (some head) { (Sim.ofState s owned running response).heap with
    frees := if response.isSome then [Block.s_stkUnsolResponse] else [] }).bind _ = _
  rw [hrun]
  rfl

end

/-! ## The reset -/

variable {RIL_SOCKET_NUM : Nat} {before after : Nat → Sim}

theorem bind_eq_ok {α β : Type} {x : Run α} {f : α → Run β} {b : β} (h : x >>= f = .ok b) :
    ∃ a, x = .ok a ∧ f a = .ok b := by
  cases x with
  | error e => cases h
  | ok a => exact ⟨a, rfl, h⟩

/-- A reset that comes to its end has reset each SIM. -/
theorem onModemReset_ok (h : onModemReset_Stk RIL_SOCKET_NUM before = .ok after) :
    (∀ socket_id < RIL_SOCKET_NUM, resetSim (before socket_id) = .ok (after socket_id)) ∧
      ∀ socket_id, RIL_SOCKET_NUM ≤ socket_id → after socket_id = before socket_id := by
  induction RIL_SOCKET_NUM generalizing after with
  | zero =>
    cases h
    exact ⟨fun _ hlt => absurd hlt (Nat.not_lt_zero _), fun _ _ => rfl⟩
  | succ n ih =>
    obtain ⟨sims, hsims, hrest⟩ := bind_eq_ok h
    obtain ⟨sim, hsim, hok⟩ := bind_eq_ok hrest
    cases hok
    obtain ⟨hdone, hleft⟩ := ih hsims
    rw [hleft n (Nat.le_refl n)] at hsim
    constructor
    · intro socket_id hlt
      by_cases heq : socket_id = n
      · rw [heq, Function.update_self]
        exact hsim
      · rw [Function.update_of_ne heq]
        exact hdone socket_id (by omega)
    · intro socket_id hle
      rw [Function.update_of_ne (by omega)]
      exact hleft socket_id (by omega)

/-- When each SIM can be reset, the reset comes to its end. -/
theorem onModemReset_exists (h : ∀ socket_id < RIL_SOCKET_NUM, ∃ sim, resetSim (before socket_id) = .ok sim) :
    ∃ after, onModemReset_Stk RIL_SOCKET_NUM before = .ok after := by
  induction RIL_SOCKET_NUM with
  | zero => exact ⟨before, rfl⟩
  | succ n ih =>
    obtain ⟨sims, hsims⟩ := ih fun socket_id hlt => h socket_id (Nat.lt_succ_of_lt hlt)
    obtain ⟨sim, hsim⟩ := h n (Nat.lt_succ_self n)
    refine ⟨Function.update sims n sim, ?_⟩
    have hn := (onModemReset_ok hsims).2 n (Nat.le_refl n)
    rw [onModemReset_Stk, hsims]
    show (resetSim (sims n)).bind _ = _
    rw [hn, hsim]
    rfl

/-- The nodes of the ring of a SIM. -/
def InRing (s : State) (a : Addr) : Prop :=
  ∃ head l, s.s_stkContextList = some head ∧ Ring s.links head l ∧ a ∈ head :: l

/-- The SIMs at the reset. -/
structure Before (RIL_SOCKET_NUM : Nat) where
  states : Nat → State
  ctxs : Nat → List Addr
  holds : ∀ socket_id < RIL_SOCKET_NUM, (states socket_id).Holds (ctxs socket_id)
  owned : Nat → Addr → Owned
  s_stkServiceRunning : Nat → Bool
  s_stkUnsolResponse : Nat → Option (List Byte)

def Before.sim (b : Before RIL_SOCKET_NUM) (socket_id : Nat) : Sim :=
  .ofState (b.states socket_id) (b.owned socket_id) (b.s_stkServiceRunning socket_id) (b.s_stkUnsolResponse socket_id)

/-- The reset comes to its end, no list is left, and each node and each context was freed once. -/
def ReleasesOnce (b : Before RIL_SOCKET_NUM) : Prop :=
  ∃ after, onModemReset_Stk RIL_SOCKET_NUM b.sim = .ok after ∧ ∀ socket_id < RIL_SOCKET_NUM,
    (after socket_id).s_stkContextList = none ∧
    (∀ a, InRing (b.states socket_id) a → (after socket_id).heap.frees.count (.node a) = 1) ∧
    ∀ c ∈ b.ctxs socket_id, (after socket_id).heap.frees.count (.context c) = 1

/-- Without a context, there is no ring. -/
theorem list_eq_none_iff {ctxs : List Addr} (h : s.Holds ctxs) : s.s_stkContextList = none ↔ ctxs = [] := by
  unfold State.Holds at h
  constructor
  · intro hnone
    rw [hnone] at h
    exact h
  · rintro rfl
    split at h
    · assumption
    · obtain ⟨l, -, -, hctxs⟩ := h
      cases hctxs

/-- A SIM is reset when it has no context. -/
theorem resetSim_iff (b : Before RIL_SOCKET_NUM) {socket_id : Nat} (hlt : socket_id < RIL_SOCKET_NUM) :
    (∃ sim, resetSim (b.sim socket_id) = .ok sim) ↔ b.ctxs socket_id = [] := by
  have hholds := b.holds socket_id hlt
  rw [← list_eq_none_iff hholds]
  constructor
  · rintro ⟨sim, hsim⟩
    cases hlist : (b.states socket_id).s_stkContextList with
    | none => rfl
    | some head =>
      unfold State.Holds at hholds
      rw [hlist] at hholds
      obtain ⟨l, hring, hfresh, -⟩ := hholds
      obtain ⟨h', hfault⟩ := resetSim_ring (b.owned socket_id) (b.s_stkServiceRunning socket_id)
        (b.s_stkUnsolResponse socket_id) hlist hring fun a ha => (hfresh a ha).1
      rw [Before.sim, hfault] at hsim
      cases hsim
  · intro hlist
    obtain ⟨sim, hsim, -⟩ := resetSim_nil (b.owned socket_id) (b.s_stkServiceRunning socket_id)
      (b.s_stkUnsolResponse socket_id) hlist
    exact ⟨sim, hsim⟩

/-- **A modem reset releases every context once** only when there is none: the loop reads the last node of a ring
after it has freed it. -/
theorem releasesOnce_iff (RIL_SOCKET_NUM : Nat) (b : Before RIL_SOCKET_NUM) :
    ReleasesOnce b ↔ ∀ socket_id < RIL_SOCKET_NUM, b.ctxs socket_id = [] := by
  constructor
  · rintro ⟨after, hrun, -⟩ socket_id hlt
    exact (resetSim_iff b hlt).1 ⟨_, (onModemReset_ok hrun).1 socket_id hlt⟩
  · intro hnone
    obtain ⟨after, hrun⟩ := onModemReset_exists fun socket_id hlt => (resetSim_iff b hlt).2 (hnone socket_id hlt)
    refine ⟨after, hrun, fun socket_id hlt => ?_⟩
    have hlist := (list_eq_none_iff (b.holds socket_id hlt)).2 (hnone socket_id hlt)
    refine ⟨?_, ?_, ?_⟩
    · obtain ⟨sim, hsim, hleft⟩ := resetSim_nil (b.owned socket_id) (b.s_stkServiceRunning socket_id)
        (b.s_stkUnsolResponse socket_id) hlist
      have hdone := (onModemReset_ok hrun).1 socket_id hlt
      rw [Before.sim, hsim] at hdone
      cases hdone
      exact hleft
    · rintro a ⟨head, l, hsome, -⟩
      rw [hlist] at hsome
      cases hsome
    · intro c hc
      rw [hnone socket_id hlt] at hc
      cases hc

/-- One SIM with one context. -/
def oneContext : Before 1 where
  states := fun _ => State.init.addChannel
  ctxs := fun _ => [0]
  holds := fun _ _ => (init_inStepWith.initAndAdd rfl).holds
  owned := fun _ _ => { recevieData := false, data := fun _ => none, pCStatus := false, pCmdDet := true }
  s_stkServiceRunning := fun _ => true
  s_stkUnsolResponse := fun _ => none

/-- The only node is its own successor, and it is read after it was freed. -/
theorem releasesOnce_fails_oneContext : ¬ReleasesOnce oneContext := by
  rintro ⟨after, hrun, -⟩
  have hempty := (resetSim_iff oneContext (by decide)).1 ⟨_, (onModemReset_ok hrun).1 0 (by decide)⟩
  cases hempty

end UniRil.Stk.ModemReset
