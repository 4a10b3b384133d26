import UniRil.Stk.Contexts

/-!
# The ring of contexts as a list

The functions of ril_stk.c follow pointers; over a ring they do what the list of its contexts says.
-/

namespace UniRil.Stk

open Rings

def State.links (s : State) : Links Addr := { next := fun a => (s.nodes a).next, prev := fun a => (s.nodes a).prev }

def State.contextAt (s : State) (a : Addr) : Addr := (s.nodes a).pstkcontext

def State.channelOf (s : State) (c : Addr) : Nat := (s.contexts c).channel_id

/-- The ring holds the contexts in this order; NULL holds none. -/
def State.Holds (s : State) (ctxs : List Addr) : Prop :=
  match s.s_stkContextList with
  | none => ctxs = []
  | some head =>
    ∃ l, Ring s.links head l ∧ (∀ a ∈ head :: l, a < s.fresh ∧ s.contextAt a < s.fresh) ∧
      ctxs = (head :: l).map s.contextAt

variable {s s' : State} {ctxs : List Addr}

theorem State.Holds.lt_fresh (h : s.Holds ctxs) {c : Addr} (hc : c ∈ ctxs) : c < s.fresh := by
  unfold State.Holds at h
  split at h
  · rw [h] at hc
    cases hc
  · obtain ⟨l, -, hlt, rfl⟩ := h
    obtain ⟨a, ha, rfl⟩ := List.mem_map.1 hc
    exact (hlt a ha).2

/-- What `Holds` looks at is as before. -/
structure SameRing (s s' : State) : Prop where
  list : s'.s_stkContextList = s.s_stkContextList
  nodes : s'.nodes = s.nodes
  fresh : s.fresh ≤ s'.fresh

theorem State.Holds.of_same (h : s.Holds ctxs) (hs : SameRing s s') : s'.Holds ctxs := by
  have hlinks : s'.links = s.links := by simp only [State.links, hs.nodes]
  have hat : s'.contextAt = s.contextAt := by
    funext a
    simp only [State.contextAt, hs.nodes]
  unfold State.Holds at h ⊢
  rw [hs.list, hlinks, hat]
  split at h
  · exact h
  · obtain ⟨l, hring, hlt, hctxs⟩ := h
    refine ⟨l, hring, fun a ha => ?_, hctxs⟩
    exact (hlt a ha).imp (Nat.lt_of_lt_of_le · hs.fresh) (Nat.lt_of_lt_of_le · hs.fresh)

/-! ## Nodes -/

@[simp] theorem setNode_list (a : Addr) (f : StkContextList → StkContextList) :
    (s.setNode a f).s_stkContextList = s.s_stkContextList := rfl

@[simp] theorem setNode_fresh (a : Addr) (f : StkContextList → StkContextList) : (s.setNode a f).fresh = s.fresh := rfl

@[simp] theorem setNode_bipState (a : Addr) (f : StkContextList → StkContextList) :
    (s.setNode a f).s_bipState = s.s_bipState := rfl

@[simp] theorem setNode_contexts (a : Addr) (f : StkContextList → StkContextList) :
    (s.setNode a f).contexts = s.contexts := rfl

theorem setNode_self (a : Addr) (f : StkContextList → StkContextList) : (s.setNode a f).nodes a = f (s.nodes a) := by
  simp [State.setNode]

theorem setNode_ne {a b : Addr} (f : StkContextList → StkContextList) (h : b ≠ a) :
    (s.setNode a f).nodes b = s.nodes b := by
  simp [State.setNode, h]

theorem contextAt_setNode (a : Addr) {f : StkContextList → StkContextList}
    (hf : ∀ n, (f n).pstkcontext = n.pstkcontext) : (s.setNode a f).contextAt = s.contextAt := by
  funext b
  by_cases h : b = a
  · rw [State.contextAt, h, setNode_self, hf, State.contextAt]
  · rw [State.contextAt, setNode_ne f h, State.contextAt]

theorem links_setPrev (a p : Addr) :
    (s.setNode a fun n => { n with prev := p }).links = { s.links with prev := Function.update s.links.prev a p } := by
  ext b
  · by_cases h : b = a <;> simp [State.links, State.setNode, h]
  · by_cases h : b = a <;> simp [State.links, State.setNode, h]

theorem links_setNext (a p : Addr) :
    (s.setNode a fun n => { n with next := p }).links = { s.links with next := Function.update s.links.next a p } := by
  ext b
  · by_cases h : b = a <;> simp [State.links, State.setNode, h]
  · by_cases h : b = a <;> simp [State.links, State.setNode, h]

/-! ## Removal -/

theorem walkTo_head (pstkcontext head : Addr) (fuel : Nat) : walkTo pstkcontext head s fuel head = head := by
  cases fuel with
  | zero => rfl
  | succ fuel => rw [walkTo, if_neg fun h => h.1 rfl]

/-- The node keeps its own links, so that both stores go to its old neighbours. -/
theorem unlinkNode_eq {a : Addr} (h : s.links.next a ≠ a) :
    unlinkNode a s = (s.setNode (s.links.next a) fun n => { n with prev := s.links.prev a }).setNode (s.links.prev a)
      fun n => { n with next := s.links.next a } := by
  have hnode : (s.setNode (s.nodes a).next fun n => { n with prev := (s.nodes a).prev }).nodes a = s.nodes a :=
    setNode_ne _ (Ne.symm h)
  simp only [unlinkNode, hnode]
  rfl

theorem links_unlinkNode {a : Addr} (h : s.links.next a ≠ a) :
    (unlinkNode a s).links = s.links.link (s.links.prev a) (s.links.next a) := by
  rw [unlinkNode_eq h, links_setNext, links_setPrev]
  rfl

theorem contextAt_unlinkNode {a : Addr} (h : s.links.next a ≠ a) : (unlinkNode a s).contextAt = s.contextAt := by
  rw [unlinkNode_eq h, contextAt_setNode _ (by intro n; rfl), contextAt_setNode _ (by intro n; rfl)]

/-- The first context is taken out. -/
theorem removeFromStkContextList_head {c : Addr} (h : s.Holds (c :: ctxs)) :
    (removeFromStkContextList c s).1 = true ∧ (removeFromStkContextList c s).2.Holds ctxs := by
  unfold State.Holds at h
  split at h
  · cases h
  · rename_i head hlist
    obtain ⟨l, hring, hlt, hctxs⟩ := h
    obtain ⟨hc, rfl⟩ : c = s.contextAt head ∧ ctxs = l.map s.contextAt := List.cons.inj hctxs
    have hc' : ¬ c ≠ (s.nodes head).pstkcontext := not_not.2 hc
    have hself : head = (s.nodes head).next ↔ l = [] := eq_comm.trans hring.next_eq_self_iff
    unfold removeFromStkContextList
    rw [hlist]
    simp only
    cases l with
    | nil =>
      rw [if_pos (hself.2 rfl), if_neg hc']
      exact ⟨rfl, rfl⟩
    | cons b l =>
      have hne : ¬ head = (s.nodes head).next := fun heq => nomatch hself.1 heq
      have hlinks := links_unlinkNode (a := head) (Ne.symm hne)
      -- the pointer read after the stores is the old one
      have hnext : ((unlinkNode head s).nodes head).next = b := by
        show (unlinkNode head s).links.next head = b
        rw [hlinks, ← hring.path.1.1]
        by_cases hp : head = s.links.prev head
        · rw [← hp]
          exact Function.update_self ..
        · exact Function.update_of_ne hp _ _
      rw [if_neg hne, if_neg hc']
      refine ⟨rfl, ?_⟩
      simp only [State.Holds, hnext]
      refine ⟨l, ?_, fun a ha => ?_, ?_⟩
      · show Ring (unlinkNode head s).links b l
        rw [hlinks]
        exact hring.unlink
      · show a < s.fresh ∧ (unlinkNode head s).contextAt a < s.fresh
        rw [contextAt_unlinkNode (Ne.symm hne)]
        exact hlt a (List.mem_cons_of_mem head ha)
      · show (b :: l).map s.contextAt = (b :: l).map (unlinkNode head s).contextAt
        rw [contextAt_unlinkNode (Ne.symm hne)]

/-- No other context is. -/
theorem removeFromStkContextList_other {c d : Addr} (h : s.Holds (d :: ctxs)) (hne : c ≠ d) :
    removeFromStkContextList c s = (false, s) := by
  unfold State.Holds at h
  split at h
  · cases h
  · rename_i head hlist
    obtain ⟨l, -, -, hctxs⟩ := h
    have hd : d = (s.nodes head).pstkcontext := (List.cons.inj hctxs).1
    unfold removeFromStkContextList
    rw [hlist]
    simp only [walkTo_head, if_true, if_pos (hd ▸ hne)]
    exact ite_self _

/-! ## Insertion -/

/-- A new node. -/
def State.newNode (s : State) (node : StkContextList) : State :=
  { s with fresh := s.fresh + 1 }.setNode s.fresh fun _ => node

theorem links_newNode_ne (node : StkContextList) {a : Addr} (h : a ≠ s.fresh) :
    (s.newNode node).links.next a = s.links.next a ∧ (s.newNode node).links.prev a = s.links.prev a := by
  simp [State.newNode, State.links, State.setNode, h]

theorem contextAt_newNode_ne (node : StkContextList) {a : Addr} (h : a ≠ s.fresh) :
    (s.newNode node).contextAt a = s.contextAt a := by
  simp [State.newNode, State.contextAt, State.setNode, h]

theorem addToStkContextList_some {c head : Addr} (h : s.s_stkContextList = some head) :
    addToStkContextList c s =
      ((s.newNode { pstkcontext := c, prev := s.links.prev head, next := head }).setNode (s.links.prev head)
        fun n => { n with next := s.fresh }).setNode head fun n => { n with prev := s.fresh } := by
  simp only [addToStkContextList, setNode_self, h]
  cases s
  cases h
  rfl

theorem addToStkContextList_holds {c : Addr} (h : s.Holds ctxs) (hc : c < s.fresh) :
    (addToStkContextList c s).Holds (ctxs ++ [c]) := by
  unfold State.Holds at h
  split at h
  · rename_i hlist
    subst h
    have hnew : (addToStkContextList c s).links.next s.fresh = s.fresh ∧
        (addToStkContextList c s).links.prev s.fresh = s.fresh ∧ (addToStkContextList c s).contextAt s.fresh = c := by
      simp [addToStkContextList, hlist, State.links, State.contextAt, State.setNode]
    have hfresh : (addToStkContextList c s).fresh = s.fresh + 1 := by simp [addToStkContextList, hlist, State.setNode]
    have hhead : (addToStkContextList c s).s_stkContextList = some s.fresh := by simp [addToStkContextList, hlist]
    rw [State.Holds, hhead]
    refine ⟨[], Ring.single hnew.1 hnew.2.1, ?_, by simp [hnew.2.2]⟩
    simp only [List.mem_singleton, forall_eq, hnew.2.2, hfresh]
    exact ⟨Nat.lt_succ_self _, Nat.lt_succ_of_lt hc⟩
  · rename_i head hlist
    obtain ⟨l, hring, hlt, rfl⟩ := h
    have hold : ∀ a ∈ head :: l, a ≠ s.fresh := fun a ha => Nat.ne_of_lt (hlt a ha).1
    have hat : (addToStkContextList c s).contextAt =
        (s.newNode { pstkcontext := c, prev := s.links.prev head, next := head }).contextAt := by
      rw [addToStkContextList_some hlist, contextAt_setNode _ (by intro n; rfl), contextAt_setNode _ (by intro n; rfl)]
    have hself : (addToStkContextList c s).contextAt s.fresh = c := by
      rw [hat]
      simp [State.newNode, State.contextAt, setNode_self]
    have hothers : ∀ a ∈ head :: l, (addToStkContextList c s).contextAt a = s.contextAt a := by
      intro a ha
      rw [hat, contextAt_newNode_ne _ (hold a ha)]
    have hhead : (addToStkContextList c s).s_stkContextList = some head := by
      rw [addToStkContextList_some hlist]
      exact hlist
    have hfresh : (addToStkContextList c s).fresh = s.fresh + 1 := by rw [addToStkContextList_some hlist]; rfl
    rw [State.Holds, hhead]
    refine ⟨l ++ [s.fresh], ?_, fun a ha => ?_, ?_⟩
    · rw [addToStkContextList_some hlist, links_setPrev, links_setNext]
      refine hring.insert (fun hmem => hold _ hmem rfl) (fun d hd => links_newNode_ne _ hd) ?_ ?_
      · simp [State.newNode, State.links, setNode_self]
      · simp [State.newNode, State.links, setNode_self]
    · rw [hfresh]
      rcases List.mem_append.1 (List.cons_append ▸ ha) with ha | ha
      · rw [hothers a ha]
        exact (hlt a ha).imp Nat.lt_succ_of_lt Nat.lt_succ_of_lt
      · rw [List.mem_singleton.1 ha, hself]
        exact ⟨Nat.lt_succ_self _, Nat.lt_succ_of_lt hc⟩
    · rw [← List.cons_append, List.map_append, List.map_singleton, hself]
      congr 1
      exact List.map_congr_left fun a ha => (hothers a ha).symm

/-! ## Search -/

/-- The contexts from a node on, when the walk is long enough. -/
theorem getStkContextFrom_eq {head tmp : Addr} {l : List Addr} {id fuel : Nat} (hpath : Path s.links tmp l head)
    (hhead : head ∉ l) (hfuel : l.length < fuel) :
    getStkContextFrom id head s fuel tmp = ((tmp :: l).map s.contextAt).find? fun c => id = s.channelOf c := by
  induction l generalizing tmp fuel with
  | nil =>
    obtain ⟨fuel, rfl⟩ : ∃ n, fuel = n + 1 := ⟨fuel - 1, by omega⟩
    have hnext : (s.nodes tmp).next = head := hpath.1
    rw [getStkContextFrom, if_pos hnext, List.map_singleton, List.find?_singleton]
    show (if id = s.channelOf (s.contextAt tmp) then some (s.contextAt tmp) else none) = _
    by_cases hid : id = s.channelOf (s.contextAt tmp)
    · rw [if_pos hid, if_pos (decide_eq_true hid)]
    · rw [if_neg hid, if_neg (by simpa using hid)]
  | cons b l ih =>
    obtain ⟨fuel, rfl⟩ : ∃ n, fuel = n + 1 := ⟨fuel - 1, by omega⟩
    have hnext : (s.nodes tmp).next = b := hpath.1.1
    have hb : b ≠ head := fun heq => hhead (by simp [heq])
    rw [getStkContextFrom, hnext, if_neg hb, List.map_cons, List.find?_cons,
      ih hpath.2 (fun hmem => hhead (List.mem_cons_of_mem b hmem)) (by simpa using hfuel)]
    simp only [State.channelOf, State.contextAt]
    split <;> simp_all

/-- **The look-up finds the first context of a channel.** -/
theorem getStkContext_eq (h : s.Holds ctxs) (id : Nat) :
    getStkContext id s = ctxs.find? fun c => id = s.channelOf c := by
  unfold State.Holds at h
  split at h
  · rename_i hlist
    rw [getStkContext, hlist, h]
    rfl
  · rename_i head hlist
    obtain ⟨l, hring, hlt, rfl⟩ := h
    have hlength := length_le_of_lt hring.nodup fun a ha => (hlt a ha).1
    rw [getStkContext, hlist]
    exact getStkContextFrom_eq hring.path (List.nodup_cons.1 hring.nodup).1 (Nat.lt_of_succ_le hlength)

/-- What is found is in the ring, under its number. -/
theorem State.Holds.found (h : s.Holds ctxs) {id : Nat} {c : Addr} (hget : getStkContext id s = some c) :
    c ∈ ctxs ∧ s.channelOf c = id := by
  rw [getStkContext_eq h] at hget
  have hid := List.find?_some hget
  exact ⟨List.mem_of_find?_eq_some hget, (of_decide_eq_true hid).symm⟩

end UniRil.Stk
