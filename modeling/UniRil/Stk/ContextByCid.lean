import UniRil.Stk.Channels

/-!
# The context of a data call (ril_stk.c)

`sendEvenLoopThread` is told of a data call that has ended, and takes down the link of the context that
`getStkContextUseCid` answers.
-/

namespace UniRil.Stk

open Rings

/-! ## The look-up -/

def State.cidOf (s : State) (c : Addr) : Int := (s.contexts c).openchannelCid

/-- The loop of `getStkContextUseCid`; a walk goes over as many nodes as there can be. -/
def walkToCid (openchannelCid : Int) (head : Addr) (s : State) : Nat → Addr → Addr
  | 0, tmp => tmp
  | fuel + 1, tmp =>
    if tmp ≠ head ∧ openchannelCid ≠ s.cidOf (s.nodes tmp).pstkcontext then
      walkToCid openchannelCid head s fuel (s.nodes tmp).next
    else tmp

def getStkContextUseCid (openchannelCid : Int) (s : State) : Option Addr :=
  if openchannelCid < 0 then none
  else
    s.s_stkContextList.bind fun head =>
      if openchannelCid ≠ s.cidOf (s.nodes head).pstkcontext ∧ head ≠ (s.nodes head).next then
        let tmp := walkToCid openchannelCid head s s.fresh (s.nodes head).next
        if tmp = head then none else some (s.nodes tmp).pstkcontext
      -- the only node is taken whatever its cid is
      else some (s.nodes head).pstkcontext

variable {s : State} {ctxs : List Addr} {cid : Int}

/-! ## The walk -/

theorem walkToCid_head (head : Addr) (fuel : Nat) : walkToCid cid head s fuel head = head := by
  cases fuel with
  | zero => rfl
  | succ fuel => rw [walkToCid, if_neg fun h => h.1 rfl]

theorem walkToCid_step {head tmp : Addr} (htmp : tmp ≠ head) (fuel : Nat) :
    walkToCid cid head s (fuel + 1) tmp =
      if cid = s.cidOf (s.contextAt tmp) then tmp else walkToCid cid head s fuel (s.nodes tmp).next := by
  rw [walkToCid]
  by_cases hcid : cid = s.cidOf (s.contextAt tmp)
  · have hstop : ¬(tmp ≠ head ∧ cid ≠ s.cidOf (s.nodes tmp).pstkcontext) := fun h => h.2 hcid
    rw [if_neg hstop, if_pos hcid]
  · have hgo : tmp ≠ head ∧ cid ≠ s.cidOf (s.nodes tmp).pstkcontext := ⟨htmp, hcid⟩
    rw [if_pos hgo, if_neg hcid]

/-- The walk comes to the first node with the cid, or once around. -/
theorem walkToCid_eq {head tmp : Addr} {l : List Addr} {fuel : Nat} (hpath : Path s.links tmp l head)
    (hhead : head ∉ tmp :: l) (hfuel : l.length + 1 < fuel) :
    (if walkToCid cid head s fuel tmp = head then none
      else some (s.contextAt (walkToCid cid head s fuel tmp))) =
      ((tmp :: l).map s.contextAt).find? fun c => cid = s.cidOf c := by
  induction l generalizing tmp fuel with
  | nil =>
    have htmp : tmp ≠ head := fun heq => hhead (heq ▸ List.mem_cons_self)
    have hnext : (s.nodes tmp).next = head := hpath.1
    obtain ⟨fuel, rfl⟩ : ∃ n, fuel = n + 2 := ⟨fuel - 2, by simp at hfuel; omega⟩
    rw [List.map_singleton, List.find?_singleton, walkToCid_step htmp, hnext]
    by_cases hcid : cid = s.cidOf (s.contextAt tmp)
    · rw [if_pos hcid, if_neg htmp, if_pos (decide_eq_true hcid)]
    · rw [if_neg hcid, walkToCid_head, if_pos rfl, if_neg (by simpa using hcid)]
  | cons b l ih =>
    have htmp : tmp ≠ head := fun heq => hhead (heq ▸ List.mem_cons_self)
    have hnext : (s.nodes tmp).next = b := hpath.1.1
    obtain ⟨fuel, rfl⟩ : ∃ n, fuel = n + 1 := ⟨fuel - 1, by omega⟩
    rw [List.map_cons, List.find?_cons, walkToCid_step htmp, hnext]
    by_cases hcid : cid = s.cidOf (s.contextAt tmp)
    · rw [if_pos hcid, if_neg htmp, decide_eq_true hcid]
    · rw [if_neg hcid, decide_eq_false hcid]
      exact ih hpath.2 (fun h => hhead (List.mem_cons_of_mem tmp h)) (by simp at hfuel; omega)

/-- Among several contexts, the first with the cid is found. -/
theorem getStkContextUseCid_eq_find (h : s.Holds ctxs) (hmany : 2 ≤ ctxs.length) (hcid : 0 ≤ cid) :
    getStkContextUseCid cid s = ctxs.find? fun c => cid = s.cidOf c := by
  unfold State.Holds at h
  split at h
  · rw [h] at hmany
    cases hmany
  · rename_i head hlist
    obtain ⟨l, hring, hlt, rfl⟩ := h
    have hlength := length_le_of_lt hring.nodup fun a ha => (hlt a ha).1
    rw [getStkContextUseCid, if_neg (by omega), hlist, Option.bind_some, List.map_cons, List.find?_cons]
    cases l with
    | nil => simp at hmany
    | cons b l =>
      have hnext : (s.nodes head).next = b := hring.path.1.1
      have hhead : head ∉ b :: l := (List.nodup_cons.1 hring.nodup).1
      have hother : head ≠ (s.nodes head).next := fun heq => hhead (by rw [heq, hnext]; exact List.mem_cons_self)
      by_cases hfirst : cid = s.cidOf (s.contextAt head)
      · have hstop : ¬(cid ≠ s.cidOf (s.nodes head).pstkcontext ∧ head ≠ (s.nodes head).next) := fun h => h.1 hfirst
        rw [if_neg hstop, decide_eq_true hfirst]
        rfl
      · have hgo : cid ≠ s.cidOf (s.nodes head).pstkcontext ∧ head ≠ (s.nodes head).next := ⟨hfirst, hother⟩
        rw [if_pos hgo, decide_eq_false hfirst, hnext]
        exact walkToCid_eq hring.path.2 hhead (by simp at hlength; omega)

/-- The only context is found whatever its cid is. -/
theorem getStkContextUseCid_single {c : Addr} (h : s.Holds [c]) (hcid : 0 ≤ cid) :
    getStkContextUseCid cid s = some c := by
  unfold State.Holds at h
  split at h
  · cases h
  · rename_i head hlist
    obtain ⟨l, hring, -, hctxs⟩ := h
    obtain ⟨hc, hl⟩ : c = s.contextAt head ∧ [] = l.map s.contextAt := List.cons.inj hctxs
    have hnext : (s.nodes head).next = head := hring.next_eq_self_iff.2 (List.map_eq_nil_iff.1 hl.symm)
    have hstop : ¬(cid ≠ s.cidOf (s.nodes head).pstkcontext ∧ head ≠ (s.nodes head).next) := fun h => h.2 hnext.symm
    rw [getStkContextUseCid, if_neg (by omega), hlist, Option.bind_some, if_neg hstop, hc]
    rfl

/-! ## What is found has the cid -/

/-- A context with the cid is answered when there is one, and NULL otherwise. -/
def FoundByCid (s : State) (ctxs : List Addr) (cid : Int) : Prop :=
  ((∃ c ∈ ctxs, s.cidOf c = cid) → ∃ c ∈ ctxs, s.cidOf c = cid ∧ getStkContextUseCid cid s = some c) ∧
    ((∀ c ∈ ctxs, s.cidOf c ≠ cid) → getStkContextUseCid cid s = none)

theorem foundByCid_of_find (h : getStkContextUseCid cid s = ctxs.find? fun c => cid = s.cidOf c) :
    FoundByCid s ctxs cid := by
  unfold FoundByCid
  rw [h]
  constructor
  · rintro ⟨c, hc, hcid⟩
    cases hfind : ctxs.find? fun c => cid = s.cidOf c with
    | none =>
      have hnone := List.find?_eq_none.1 hfind c hc
      simp [hcid] at hnone
    | some d =>
      have hd := List.find?_some hfind
      exact ⟨d, List.mem_of_find?_eq_some hfind, (of_decide_eq_true hd).symm, rfl⟩
  · intro hnone
    apply List.find?_eq_none.2
    intro c hc
    simpa using (hnone c hc).symm

/-- **The context of a data call is found**, and no other, unless the ring has one context only: that one is answered
for every cid. -/
theorem foundByCid_iff (s : State) (ctxs : List Addr) (h : s.Holds ctxs) (hne : ctxs ≠ []) (cid : Int)
    (hcid : 0 ≤ cid) : FoundByCid s ctxs cid ↔ (ctxs.length = 1 → ∃ c ∈ ctxs, s.cidOf c = cid) := by
  constructor
  · intro hfound hone
    obtain ⟨c, rfl⟩ := List.length_eq_one_iff.1 hone
    by_contra hother
    have hnone := hfound.2 fun c' hc' heq => hother ⟨c', hc', heq⟩
    rw [getStkContextUseCid_single h hcid] at hnone
    cases hnone
  · intro hsingle
    apply foundByCid_of_find
    by_cases hone : ctxs.length = 1
    · obtain ⟨c, hc, hcidc⟩ := hsingle hone
      obtain ⟨d, rfl⟩ := List.length_eq_one_iff.1 hone
      obtain rfl := List.mem_singleton.1 hc
      rw [getStkContextUseCid_single h hcid, List.find?_singleton, if_pos (decide_eq_true hcidc.symm)]
    · have hpos := List.length_pos_iff.2 hne
      exact getStkContextUseCid_eq_find h (by omega) hcid

theorem foundByCid_iff_twoChannels : FoundByCid twoChannels [0, 2] 3 :=
  (foundByCid_iff twoChannels [0, 2] twoChannels_holds (by decide) 3 (by decide)).2 fun hone => absurd hone (by decide)

/-- One channel, whose data call is not up yet. -/
def oneChannel : State := State.init.addChannel

theorem oneChannel_holds : oneChannel.Holds [0] := (init_inStepWith.initAndAdd rfl).holds

/-- The end of data call 1 is taken for that of the only channel. -/
theorem foundByCid_fails_oneChannel :
    oneChannel.Holds [0] ∧ oneChannel.cidOf 0 = -1 ∧ ¬FoundByCid oneChannel [0] 1 := by
  refine ⟨oneChannel_holds, rfl, fun h => ?_⟩
  have hnone := h.2 (by simp only [List.mem_singleton, forall_eq]; decide)
  rw [getStkContextUseCid_single oneChannel_holds (by decide)] at hnone
  cases hnone

end UniRil.Stk
