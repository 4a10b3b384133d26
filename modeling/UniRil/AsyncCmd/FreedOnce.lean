import UniRil.AsyncCmd.Blocks

/-!
# Blocks are freed once

An entry owns its block, so that it is enough that no block is registered twice.
-/

namespace UniRil.AsyncCmd

open Runs

variable {RC : Type} {s s' : System RC} {literals : Literals}

/-- Every block that was registered is freed when its entry ends and not before, is not used after that, and a
dispatcher is given what the request wrote. -/
structure FreedOnce (s : System RC) : Prop where
  misused : s.heap.misused = false
  frees : ∀ p < s.list.fresh, (s.list.infos p).data ≠ 0 →
    s.heap.frees (s.list.infos p).data = if s.list.freed p then 1 else 0
  /-- No entry is lost before it ends. -/
  waiting : ∃ timer pending, Holds s.list timer pending ∧ Waiting s.list timer pending s.list.handler
  delivered : ∀ d ∈ s.deliveries, ∃ r ∈ s.requests,
    d = { func := r.kind.func, t := r.t, contents := r.kind.contents }

/-- No AT+SPTESTMODE of a radio capability is answered with the error that makes the request try again. -/
def NotRetried (s : System RC) : Label RC → Prop
  | .runs i answer => ∀ r rc, s.requests[i]? = some r → r.statement = .at_send_command →
      r.kind = .setLTERadioCapability rc → answer ≠ .failure (some (ascii "+CME ERROR: 3"))
  | _ => True

/-! ## Invariant -/

/-- The entry that the request registers. -/
def Request.entry (r : Request RC) (literals : Literals) : UserCallbackInfo :=
  { token := r.t, socket_id := r.socket_id, data := r.data, cmd := r.kind.respCmd literals }

/-- What a request relies on. -/
structure Request.Holding (r : Request RC) (heap : Heap RC) : Prop where
  written : heap.read r.data = r.kind.contents
  block : r.data ≠ 0 → (heap.read r.data).isSome
  once : r.data ≠ 0 → r.statement ≠ .removeAsyncCmdList true

/-- Where the blocks are. -/
structure Owned (literals : Literals) (s : System RC) : Prop where
  life : ∃ timer pending, Life s.list timer pending
  misused : s.heap.misused = false
  holding : ∀ r ∈ s.requests, r.Holding s.heap
  /-- No two requests have a block in common. -/
  apart : ∀ (i j : Nat) (r r' : Request RC), s.requests[i]? = some r → s.requests[j]? = some r' →
    r.data = r'.data → r.data ≠ 0 → i = j
  entered : ∀ p < s.list.fresh, ∃ r ∈ s.requests, s.list.infos p = r.entry literals ∧
    (r.data ≠ 0 → r.statement ≠ .addAsyncCmdList)
  /-- Nor do two entries. -/
  single : ∀ p < s.list.fresh, ∀ q < s.list.fresh, (s.list.infos p).data = (s.list.infos q).data →
    (s.list.infos p).data ≠ 0 → p = q
  frees : ∀ p < s.list.fresh, (s.list.infos p).data ≠ 0 →
    s.heap.frees (s.list.infos p).data = if s.list.freed p then 1 else 0
  kept : ∀ data, (∀ p < s.list.fresh, (s.list.infos p).data ≠ data) → s.heap.frees data = 0
  delivered : ∀ d ∈ s.deliveries, ∃ r ∈ s.requests,
    d = { func := r.kind.func, t := r.t, contents := r.kind.contents }

theorem init_owned : Owned literals (.init : System RC) := by
  refine ⟨⟨[], [], init_life⟩, rfl, ?_, ?_, ?_, ?_, ?_, fun _ _ => rfl, ?_⟩
  · simp [System.init]
  · simp [System.init]
  · simp [System.init, State.init]
  · simp [System.init, State.init]
  · simp [System.init, State.init]
  · simp [System.init]

theorem Owned.freedOnce (h : Owned literals s) : FreedOnce s := by
  obtain ⟨timer, pending, hlife⟩ := h.life
  exact ⟨h.misused, h.frees, ⟨timer, pending, hlife.holds, hlife.waiting⟩, h.delivered⟩

/-! ## What the blocks rely on -/

namespace Heap

variable {heap : Heap RC} {data : Nat} {contents : Contents RC}

theorem load_of_live (h : heap.live data = true) : heap.load data = heap := if_pos h

theorem pass_of_live (h : heap.live data = true) : heap.pass data = heap := by
  unfold pass
  rw [load_of_live h, ite_self]

theorem read_lt (h : data ≠ 0) (hread : (heap.read data).isSome) : data ≤ heap.blocks.length := by
  cases data with
  | zero => exact absurd rfl h
  | succ n =>
    obtain ⟨c, hc⟩ := Option.isSome_iff_exists.1 hread
    exact (List.getElem?_eq_some_iff.1 hc).1

theorem read_malloc_of_some (h : (heap.read data).isSome) : (heap.malloc contents).read data = heap.read data := by
  cases data with
  | zero => rfl
  | succ n => exact List.getElem?_append_left (read_lt (Nat.succ_ne_zero n) h)

theorem read_malloc_fresh : (heap.malloc contents).read (heap.blocks.length + 1) = some contents :=
  List.getElem?_concat_length

end Heap

variable {r r' : Request RC} {i : Nat}

theorem Request.Holding.contents_none (h : r.Holding s.heap) : r.data = 0 → r.kind.contents = none := by
  intro hdata
  rw [← h.written, hdata]
  rfl

theorem Kind.contents_none {kind : Kind RC} (h : kind.contents = none) : kind = .setLTEPreferredNetType := by
  cases kind with
  | setLTEPreferredNetType => rfl
  | setLTERadioCapability rc => cases h
  | setFacilityLock mode => cases h

/-- The block of a request may be read until it is freed. -/
theorem Request.Holding.live {heap : Heap RC} (h : r.Holding heap) (hdata : r.data ≠ 0)
    (hfrees : heap.frees r.data = 0) : heap.live r.data = true := by
  simp [Heap.live, h.block hdata, hfrees]

theorem Owned.holding_get (h : Owned literals s) (hr : s.requests[i]? = some r) : r.Holding s.heap :=
  h.holding r (List.mem_of_getElem? hr)

/-- The block of a request that has not registered it is that of no entry. -/
theorem Owned.unregistered (h : Owned literals s) (hr : s.requests[i]? = some r) (hadd : r.statement = .addAsyncCmdList)
    (hdata : r.data ≠ 0) : ∀ p < s.list.fresh, (s.list.infos p).data ≠ r.data := by
  intro p hp heq
  obtain ⟨r', hr', hinfo, hentered⟩ := h.entered p hp
  obtain ⟨j, hj⟩ := List.mem_iff_getElem?.1 hr'
  have hsame : r.data = r'.data := by rw [← heq, hinfo]; rfl
  obtain rfl := h.apart i j r r' hr hj hsame hdata
  obtain rfl : r = r' := Option.some.inj (hr.symm.trans hj)
  exact hentered hdata hadd

/-! ## The steps of a request -/

theorem set_some {l : List (Request RC)} {j : Nat} {a b : Request RC} (h : l[i]? = some r) :
    (l.set i a)[j]? = some b ↔ (j = i ∧ b = a) ∨ (j ≠ i ∧ l[j]? = some b) := by
  have hlt : i < l.length := (List.getElem?_eq_some_iff.1 h).1
  by_cases hj : j = i
  · simp [hj, hlt, eq_comm]
  · simp [hj, List.getElem?_set_ne (Ne.symm hj)]

/-- What was known of some request is known of one after the request has gone on. -/
theorem exists_set {l : List (Request RC)} {a : Request RC} {P : Request RC → Prop} (h : l[i]? = some r)
    (hP : P r → P a) (hexists : ∃ b ∈ l, P b) : ∃ b ∈ l.set i a, P b := by
  obtain ⟨b, hb, hPb⟩ := hexists
  obtain ⟨j, hj⟩ := List.mem_iff_getElem?.1 hb
  by_cases hji : j = i
  · obtain rfl : r = b := Option.some.inj (h.symm.trans (hji ▸ hj))
    exact ⟨a, List.mem_of_getElem? ((set_some h).2 (.inl ⟨rfl, rfl⟩)), hP hPb⟩
  · exact ⟨b, List.mem_of_getElem? ((set_some h).2 (.inr ⟨hji, hj⟩)), hPb⟩

/-- A request goes on, but not to register a block. -/
theorem Owned.set (h : Owned literals s) (hr : s.requests[i]? = some r) (statement : Statement) (retryTimes : Nat)
    (hone : r.data ≠ 0 → statement ≠ .removeAsyncCmdList true) (hadd : r.data ≠ 0 → statement ≠ .addAsyncCmdList) :
    Owned literals (s.set i { r with statement, retryTimes }) := by
  have hget {j : Nat} {b : Request RC} : (s.set i { r with statement, retryTimes }).requests[j]? = some b → _ :=
    (set_some hr).1
  refine ⟨h.life, h.misused, ?_, ?_, ?_, h.single, h.frees, h.kept, ?_⟩
  · intro b hb
    obtain ⟨j, hj⟩ := List.mem_iff_getElem?.1 hb
    rcases hget hj with ⟨-, rfl⟩ | ⟨-, hb⟩
    · exact ⟨(h.holding_get hr).written, (h.holding_get hr).block, hone⟩
    · exact h.holding_get hb
  · intro j k b c hb hc
    rcases hget hb with ⟨rfl, rfl⟩ | ⟨-, hbefore⟩
    · rcases hget hc with ⟨rfl, rfl⟩ | ⟨-, hafter⟩
      · exact fun _ _ => rfl
      · exact h.apart j k r c hr hafter
    · rcases hget hc with ⟨rfl, rfl⟩ | ⟨-, hafter⟩
      · exact h.apart j k b r hbefore hr
      · exact h.apart j k b c hbefore hafter
  · intro p hp
    refine exists_set hr ?_ (h.entered p hp)
    exact fun hinfo => ⟨hinfo.1, hadd⟩
  · intro d hd
    exact exists_set hr id (h.delivered d hd)

/-- A request registers its block. -/
theorem Owned.adds (h : Owned literals s) (hr : r ∈ s.requests) (hadd : r.data ≠ 0 → r.statement ≠ .addAsyncCmdList)
    (hnew : r.data ≠ 0 → ∀ p < s.list.fresh, (s.list.infos p).data ≠ r.data) : Owned literals (s.adds literals r) := by
  obtain ⟨timer, pending, hlife⟩ := h.life
  obtain ⟨⟨timer', hlife'⟩, hadded⟩ :=
    hlife.addAsyncCmdList r.socket_id r.t (r.kind.respCmd literals) r.data r.kind.timeout
  have hheap : s.heap.pass r.data = s.heap := by
    by_cases hdata : r.data = 0
    · exact if_pos hdata
    · exact Heap.pass_of_live ((h.holding r hr).live hdata (h.kept _ (hnew hdata)))
  have hlt {p : Nat} (hp : p < (s.adds literals r).list.fresh) : p < s.list.fresh ∨ p = s.list.fresh := by
    have hle : p < s.list.fresh + 1 := hadded.fresh ▸ hp
    omega
  have hold {p : Nat} (hp : p < s.list.fresh) : (s.adds literals r).list.infos p = s.list.infos p := by
    show (((addAsyncCmdList _ _ _ _ _).run s.list).2).infos p = _
    rw [hadded.infos, Function.update_of_ne (Nat.ne_of_lt hp)]
  have hself : (s.adds literals r).list.infos s.list.fresh = r.entry literals := by
    show (((addAsyncCmdList _ _ _ _ _).run s.list).2).infos s.list.fresh = _
    rw [hadded.infos, Function.update_self]
    rfl
  have hfreed : (s.adds literals r).list.freed = s.list.freed := hadded.freed
  have hsame : (s.adds literals r).heap = s.heap := hheap
  refine ⟨⟨timer', pending, hlife'⟩, ?_, ?_, h.apart, ?_, ?_, ?_, ?_, h.delivered⟩
  · rw [hsame]
    exact h.misused
  · rw [hsame]
    exact h.holding
  · intro p hp
    rcases hlt hp with hp | rfl
    · rw [hold hp]
      exact h.entered p hp
    · exact ⟨r, hr, hself, hadd⟩
  · intro p hp q hq
    rcases hlt hp with hp | rfl
    · rcases hlt hq with hq | rfl
      · rw [hold hp, hold hq]
        exact h.single p hp q hq
      · rw [hold hp, hself]
        exact fun heq hne => absurd heq (hnew (fun hzero => hne (heq.trans hzero)) p hp)
    · rcases hlt hq with hq | rfl
      · rw [hold hq, hself]
        exact fun heq hne => absurd heq.symm (hnew hne q hq)
      · exact fun _ _ => rfl
  · intro p hp hdata
    rw [hsame, hfreed]
    rcases hlt hp with hp | rfl
    · rw [hold hp] at hdata ⊢
      exact h.frees p hp hdata
    · rw [hself] at hdata ⊢
      rw [hlife.freed_fresh]
      exact h.kept _ (hnew hdata)
  · intro data hdata
    rw [hsame]
    refine h.kept data fun p hp => ?_
    rw [← hold hp]
    refine hdata p ?_
    show p < (((addAsyncCmdList _ _ _ _ _).run s.list).2).fresh
    rw [hadded.fresh]
    exact Nat.lt_succ_of_lt hp

theorem Owned.enters (h : Owned literals s) (hr : r.Holding s.heap)
    (hnew : r.data ≠ 0 → ∀ r' ∈ s.requests, r'.data ≠ r.data) : Owned literals (s.enters r) := by
  have hget {j : Nat} {b : Request RC} : (s.enters r).requests[j]? = some b →
      s.requests[j]? = some b ∨ (j = s.requests.length ∧ b = r) := by
    intro hb
    rcases Nat.lt_trichotomy j s.requests.length with hlt | rfl | hgt
    · exact .inl ((List.getElem?_append_left hlt).symm.trans hb)
    · exact .inr ⟨rfl, (Option.some.inj (List.getElem?_concat_length.symm.trans hb)).symm⟩
    · have hlen : (s.enters r).requests.length ≤ j := by
        rw [show (s.enters r).requests = s.requests ++ [r] from rfl, List.length_append]
        exact hgt
      exact absurd ((List.getElem?_eq_none hlen).symm.trans hb) (by simp)
  refine ⟨h.life, h.misused, ?_, ?_, ?_, h.single, h.frees, h.kept, ?_⟩
  · intro b hb
    rcases List.mem_append.1 hb with hold | hself
    · exact h.holding b hold
    · exact List.mem_singleton.1 hself ▸ hr
  · intro j k b c hb hc
    rcases hget hb with hbefore | ⟨rfl, rfl⟩
    · rcases hget hc with hafter | ⟨rfl, rfl⟩
      · exact h.apart j k b c hbefore hafter
      · intro heq hne
        exact absurd heq (hnew (heq ▸ hne) b (List.mem_of_getElem? hbefore))
    · rcases hget hc with hafter | ⟨rfl, rfl⟩
      · exact fun heq hne => absurd heq.symm (hnew hne c (List.mem_of_getElem? hafter))
      · exact fun _ _ => rfl
  · intro p hp
    obtain ⟨b, hb, hinfo⟩ := h.entered p hp
    exact ⟨b, List.mem_append_left _ hb, hinfo⟩
  · intro d hd
    obtain ⟨b, hb, heq⟩ := h.delivered d hd
    exact ⟨b, List.mem_append_left _ hb, heq⟩

theorem Request.Holding.malloc {heap : Heap RC} (h : r.Holding heap) (contents : Contents RC) :
    r.Holding (heap.malloc contents) := by
  have hread : (heap.malloc contents).read r.data = heap.read r.data := by
    by_cases hdata : r.data = 0
    · rw [hdata]
      rfl
    · exact Heap.read_malloc_of_some (h.block hdata)
  refine ⟨hread.trans h.written, fun hdata => ?_, h.once⟩
  rw [hread]
  exact h.block hdata

theorem Owned.malloc (h : Owned literals s) (contents : Contents RC) :
    Owned literals { s with heap := s.heap.malloc contents } :=
  ⟨h.life, h.misused, fun r hr => (h.holding r hr).malloc contents, h.apart, h.entered, h.single, h.frees, h.kept,
    h.delivered⟩

/-- A request begins. -/
theorem Owned.starts (h : Owned literals s) (kind : Kind RC) (t : RIL_Token) (socket_id : RIL_SOCKET_ID) :
    Owned literals (s.starts kind t socket_id) := by
  unfold System.starts
  split
  · rename_i hnone
    refine h.enters ⟨hnone.symm, fun hne => absurd rfl hne, fun hne => absurd rfl hne⟩ fun hne => absurd rfl hne
  · rename_i contents hsome
    refine (h.malloc contents).enters ⟨?_, fun _ => ?_, fun _ => by simp⟩ fun _ r' hr' heq => ?_
    · exact Heap.read_malloc_fresh.trans hsome.symm
    · exact Option.isSome_of_eq_some Heap.read_malloc_fresh
    · have hdata : r'.data = s.heap.blocks.length + 1 := heq
      have hle := Heap.read_lt (by omega) ((h.holding r' hr').block (by omega))
      omega

/-! ## What ends an entry -/

theorem asyncCmdTable_sptestmode :
    (s_asyncCmdTable.find? fun c => strncaseeq c.1 (ascii "+SPTESTMODE:") c.1.length).map (·.2) =
      some .dispatchSPTESTMODE := by
  decide

theorem asyncCmdTable_clck :
    (s_asyncCmdTable.find? fun c => strncaseeq c.1 (ascii "+CLCK:") c.1.length).map (·.2) = some .dispatchCLCK := by
  decide

/-- The dispatcher that a URC finds for the entry of a request. -/
theorem completion_entry (r : Request RC) (resp : Nat) :
    completion (r.entry literals) resp = .onRequestComplete (some r.kind.func) r.data resp := by
  unfold completion Request.entry
  cases hkind : r.kind with
  | setLTERadioCapability rc => exact congrArg (Ending.onRequestComplete · r.data resp) asyncCmdTable_sptestmode
  | setLTEPreferredNetType => exact congrArg (Ending.onRequestComplete · r.data resp) asyncCmdTable_sptestmode
  | setFacilityLock mode => exact congrArg (Ending.onRequestComplete · r.data resp) asyncCmdTable_clck

/-- A dispatcher may read what it reads. -/
theorem Request.Holding.dispatch {s : System RC} (h : r.Holding s.heap)
    (hfrees : r.data ≠ 0 → s.heap.frees r.data = 0) :
    s.dispatch r.kind.func r.t r.data =
      { s with deliveries := s.deliveries ++ [{ func := r.kind.func, t := r.t, contents := r.kind.contents }] } := by
  have hlive (hdata : r.data ≠ 0) := h.live hdata (hfrees hdata)
  have hpass : s.heap.pass r.data = s.heap := by
    by_cases hdata : r.data = 0
    · exact if_pos hdata
    · exact Heap.pass_of_live (hlive hdata)
  have hload : (∃ mode, r.kind = .setFacilityLock mode) → s.heap.load r.data = s.heap := by
    rintro ⟨mode, hkind⟩
    refine Heap.load_of_live (hlive fun hdata => ?_)
    have hnone := h.contents_none hdata
    rw [hkind] at hnone
    cases hnone
  unfold System.dispatch
  rw [h.written]
  cases hkind : r.kind with
  | setLTERadioCapability rc => simp only [Kind.func, hpass]
  | setLTEPreferredNetType => simp only [Kind.func, hpass]
  | setFacilityLock mode => simp only [Kind.func, hload ⟨mode, hkind⟩]

/-- Whatever ends the entry of a request frees the block of that request. -/
theorem EndedBy.ends {p : Nat} {ending : Ending} {list : State} (h : EndedBy s.list p ending list)
    (hr : r.Holding s.heap) (hinfo : s.list.infos p = r.entry literals)
    (hfrees : r.data ≠ 0 → s.heap.frees r.data = 0) :
    ∃ delivered, ({ s with list } : System RC).ends { p_info := p, token := (s.list.infos p).token, ending } =
        { s with list, heap := s.heap.free r.data, deliveries := s.deliveries ++ delivered } ∧
      ∀ d ∈ delivered, d = { func := r.kind.func, t := r.t, contents := r.kind.contents } := by
  have hdata : (list.infos p).data = r.data := by
    rw [h.infos, hinfo]
    rfl
  have htoken : (s.list.infos p).token = r.t := by
    rw [hinfo]
    rfl
  cases hending : ending with
  | onRequestComplete func data resp =>
    have hcompletion := h.completion func data resp hending
    rw [hinfo, completion_entry, hending] at hcompletion
    obtain ⟨rfl, rfl, -⟩ := Ending.onRequestComplete.inj hcompletion
    refine ⟨[{ func := r.kind.func, t := r.t, contents := r.kind.contents }], ?_, by simp⟩
    have hdispatch := Request.Holding.dispatch (s := { s with list }) hr hfrees
    rw [htoken]
    exact congrArg (System.free · r.data) hdispatch
  | userTimerCallback unlocked =>
    refine ⟨[], ?_, by simp⟩
    simp only [System.ends, System.free, hdata, List.append_nil]
  | removeAsyncCmdList =>
    refine ⟨[], ?_, by simp⟩
    simp only [System.ends, System.free, hdata, List.append_nil]

namespace Heap

theorem frees_free {heap : Heap RC} {data data' : Nat} (h : data' ≠ data) :
    (heap.free data).frees data' = heap.frees data' := by
  unfold free
  split
  · rfl
  · exact Function.update_of_ne h _ _

theorem frees_free_self {heap : Heap RC} {data : Nat} (h : data ≠ 0) :
    (heap.free data).frees data = heap.frees data + 1 := by
  unfold free
  rw [if_neg h]
  exact Function.update_self ..

theorem read_free {heap : Heap RC} {data : Nat} : (heap.free data).read = heap.read := by
  unfold free load
  split_ifs
  · rfl
  · rfl
  · rfl

theorem misused_free {heap : Heap RC} {data : Nat} (h : data ≠ 0 → heap.live data = true) :
    (heap.free data).misused = heap.misused := by
  unfold free
  split
  · rfl
  · rename_i hdata
    rw [load_of_live (h hdata)]

end Heap

/-- An entry ends. -/
theorem Owned.ended {p : Nat} {ending : Ending} {list : State} (h : Owned literals s)
    (hlife : ∃ timer pending, Life list timer pending) (hended : EndedBy s.list p ending list) :
    Owned literals (({ s with list } : System RC).ends { p_info := p, token := (s.list.infos p).token, ending }) := by
  obtain ⟨hp, hfreed⟩ := live_event.1 hended.live
  obtain ⟨r, hr, hinfo, -⟩ := h.entered p hp
  have hholding := h.holding r hr
  have hdata : (s.list.infos p).data = r.data := by
    rw [hinfo]
    rfl
  have hfrees (hne : r.data ≠ 0) : s.heap.frees r.data = 0 := by
    have hcount := h.frees p hp (hdata ▸ hne)
    rwa [hdata, hfreed] at hcount
  obtain ⟨delivered, heq, hdelivered⟩ := hended.ends hholding hinfo hfrees
  rw [heq]
  have hfresh := hended.fresh
  have hinfos := hended.infos
  refine ⟨hlife, ?_, ?_, h.apart, ?_, ?_, ?_, ?_, ?_⟩
  · exact (Heap.misused_free fun hne => hholding.live hne (hfrees hne)).trans h.misused
  · intro r' hr'
    have hheld := h.holding r' hr'
    have hread : (s.heap.free r.data).read = s.heap.read := Heap.read_free
    exact ⟨(congrFun hread _).trans hheld.written, fun hne => hread ▸ hheld.block hne, hheld.once⟩
  · intro q hq
    rw [hinfos]
    exact h.entered q (hfresh ▸ hq)
  · intro q hq q' hq'
    rw [hinfos]
    exact h.single q (hfresh ▸ hq) q' (hfresh ▸ hq')
  · intro q hq hne
    rw [hinfos] at hne ⊢
    rw [hended.freed]
    by_cases hqp : q = p
    · rw [hqp, hdata] at hne ⊢
      rw [Function.update_self, Heap.frees_free_self hne, hfrees hne]
      rfl
    · have hapart : (s.list.infos q).data ≠ r.data :=
        fun hsame => hqp (h.single q (hfresh ▸ hq) p hp (hsame.trans hdata.symm) hne)
      rw [Function.update_of_ne hqp, Heap.frees_free hapart]
      exact h.frees q (hfresh ▸ hq) hne
  · intro data hnone
    have hbefore : ∀ q < s.list.fresh, (s.list.infos q).data ≠ data := by
      rw [← hfresh, ← hinfos]
      exact hnone
    have hapart : data ≠ r.data := fun hsame => hbefore p hp (hdata.trans hsame.symm)
    rw [Heap.frees_free hapart]
    exact h.kept data hbefore
  · intro d hd
    rcases List.mem_append.1 hd with hold | hnew
    · exact h.delivered d hold
    · exact ⟨r, hr, hdelivered d hnew⟩

theorem Owned.after {list : State} (h : Owned literals s) (hlife : ∃ timer pending, Life list timer pending)
    (hquiet : Quiet s.list list) : Owned literals (s.after list) := by
  unfold System.after
  rcases hquiet with hsame | ⟨p, ending, hended⟩
  · rw [hsame.log, List.drop_length, List.foldl_nil]
    refine ⟨hlife, h.misused, h.holding, h.apart, ?_, ?_, ?_, ?_, h.delivered⟩
    · intro p hp
      rw [hsame.infos]
      exact h.entered p (hsame.fresh ▸ hp)
    · intro p hp q hq
      rw [hsame.infos]
      exact h.single p (hsame.fresh ▸ hp) q (hsame.fresh ▸ hq)
    · intro p hp
      rw [hsame.infos, hsame.freed]
      exact h.frees p (hsame.fresh ▸ hp)
    · intro data hnone
      rw [hsame.fresh, hsame.infos] at hnone
      exact h.kept data hnone
  · rw [hended.log, List.drop_left]
    exact h.ended hlife hended

/-! ## Runs -/

theorem requests_after (s : System RC) (list : State) : (s.after list).requests = s.requests := by
  have hends (l : List Ended) (s : System RC) : (l.foldl System.ends s).requests = s.requests := by
    induction l generalizing s with
    | nil => rfl
    | cons e l ih =>
      refine (ih (s.ends e)).trans ?_
      unfold System.ends
      split
      · rfl
      · rfl
      · rfl
      · rfl
  exact hends _ { s with list }

/-- Only a request without a block tries again. -/
theorem Owned.answered {answer : Answer} (h : Owned literals s) (hr : s.requests[i]? = some r)
    (hkind : ∀ rc, r.kind = .setLTERadioCapability rc → answer ≠ .failure (some (ascii "+CME ERROR: 3"))) :
    Owned literals (s.set i (r.answered answer)) := by
  cases answer with
  | success => exact h.set hr .returned r.retryTimes (by simp) (by simp)
  | failure finalResponse =>
    by_cases hagain : r.kind.triesAgain ∧ r.retryTimes < 3 ∧ finalResponse = some (ascii "+CME ERROR: 3")
    · rw [Request.answered, if_pos hagain]
      obtain ⟨htries, -, rfl⟩ := hagain
      have hpreferred : r.kind.contents = none := by
        cases hk : r.kind with
        | setLTERadioCapability rc => exact absurd rfl (hkind rc hk)
        | setLTEPreferredNetType => rfl
        | setFacilityLock mode =>
          rw [hk] at htries
          cases htries
      have hdata : ¬ r.data ≠ 0 := by
        intro hne
        have hsome := (h.holding_get hr).block hne
        rw [(h.holding_get hr).written, hpreferred] at hsome
        cases hsome
      exact h.set hr _ _ (fun hne => absurd hne hdata) fun hne => absurd hne hdata
    · rw [Request.answered, if_neg hagain]
      exact h.set hr (.removeAsyncCmdList false) r.retryTimes (by simp) (by simp)

theorem Owned.runs {answer : Answer} (h : Owned literals s) (ha : NotRetried s (.runs i answer))
    (hstep : s.runs literals i answer = some s') : Owned literals s' := by
  obtain ⟨r, hr, hsome⟩ := Option.bind_eq_some_iff.1 hstep
  cases hstatement : r.statement with
  | addAsyncCmdList =>
    rw [hstatement] at hsome
    cases hsome
    have hset := h.set hr .at_send_command r.retryTimes (by simp) (by simp)
    have hnew := h.unregistered hr hstatement
    exact hset.adds (r := { r with statement := .at_send_command })
      (List.mem_of_getElem? ((set_some hr).2 (.inl ⟨rfl, rfl⟩))) (by simp) hnew
  | at_send_command =>
    rw [hstatement] at hsome
    cases hsome
    exact h.answered hr fun rc => ha r rc hr hstatement
  | removeAsyncCmdList again =>
    rw [hstatement] at hsome
    cases hsome
    obtain ⟨timer, pending, hlife⟩ := h.life
    obtain ⟨⟨timer', hlife'⟩, hquiet⟩ := hlife.removeAsyncCmdList r.t (r.kind.respCmd literals)
    have hafter := h.after ⟨timer', pending, hlife'⟩ hquiet
    have hr' : (s.after ((removeAsyncCmdList r.t (r.kind.respCmd literals)).run s.list).2).requests[i]? = some r := by
      rw [requests_after]
      exact hr
    refine hafter.set hr' _ _ ?_ ?_
    · split
      · simp
      · simp
    · cases again with
      | false => simp
      | true => exact fun hne => absurd hstatement ((h.holding_get hr).once hne)
  | returned =>
    rw [hstatement] at hsome
    cases hsome

/-- **A step keeps the blocks.** -/
theorem Owned.step {a : Label RC} (h : Owned literals s) (ha : NotRetried s a) (hstep : s.step literals a = some s') :
    Owned literals s' := by
  obtain ⟨timer, pending, hlife⟩ := h.life
  have hlist (a : Step) (hne : ∀ socket_id t cmd data timeout, a ≠ .addAsyncCmdList socket_id t cmd data timeout)
      (hsome : (AsyncCmd.step s.list a).map s.after = some s') : Owned literals s' := by
    obtain ⟨list, hlist, rfl⟩ := Option.map_eq_some_iff.1 hsome
    obtain ⟨hlife', hquiet⟩ := hlife.step hne hlist
    exact h.after hlife' hquiet
  cases a with
  | request kind t socket_id =>
    cases hstep
    exact h.starts kind t socket_id
  | runs i answer => exact h.runs ha hstep
  | checkAndCompleteRequest socket_id cmd resp =>
    exact hlist (.checkAndCompleteRequest socket_id cmd resp) (by simp) hstep
  | tick d => exact hlist (.tick d) (by simp) hstep
  | select ret => exact hlist (.select ret) (by simp) hstep
  | handler => exact hlist .handler (by simp) hstep

/-- **In a run in which no radio capability is retried, each block is freed once, is not used after that and is
delivered as it was written.** -/
theorem blocks_freed_once (literals : Literals) (steps : List (Label RC))
    (h : Steps (System.step literals) NotRetried .init steps) :
    Always (System.step literals) FreedOnce .init steps := by
  have howned : Always (System.step literals) (Owned literals) .init steps :=
    always_of_steps (fun _ _ _ hs ha hstep => hs.step ha hstep) init_owned h
  exact howned.mono fun _ hs => hs.freedOnce

/-- The lock of the FD facility, and the URC for it. -/
def lockSteps : List (Label Unit) :=
  [.request (.setFacilityLock 1) 7 0, .runs 0 .success, .runs 0 .success, .checkAndCompleteRequest 0 (ascii "+CLCK:") 1]

theorem lock_freed_once : Always (System.step ⟨1, 2, 3⟩) FreedOnce .init lockSteps :=
  blocks_freed_once ⟨1, 2, 3⟩ lockSteps (by simp [lockSteps, Steps, NotRetried])

/-- A radio capability is answered +CME ERROR: 3 and then refused. -/
def retriedSteps (rc : RC) : List (Label RC) :=
  [.request (.setLTERadioCapability rc) 7 0, .runs 0 .success, .runs 0 (.failure (some (ascii "+CME ERROR: 3"))),
    .runs 0 .success, .runs 0 .success, .runs 0 (.failure (some (ascii "ERROR"))), .runs 0 .success]

theorem retry_frees_twice : ¬ Always (System.step ⟨1, 2, 3⟩) FreedOnce .init (retriedSteps ()) := by
  intro h
  have hlast : (run (System.step ⟨1, 2, 3⟩) .init (retriedSteps ())).map
      (fun s => (s.list.fresh, (s.list.infos 0).data, s.heap.frees 1)) = some (2, 1, 2) := by
    decide +kernel
  obtain ⟨s, hrun, hs⟩ := Option.map_eq_some_iff.1 hlast
  obtain ⟨hfresh, hdata, hfrees⟩ : s.list.fresh = 2 ∧ (s.list.infos 0).data = 1 ∧ s.heap.frees 1 = 2 := by
    simpa using hs
  have honce := (h.last hrun).frees 0 (by omega) (by omega)
  rw [hdata, hfrees] at honce
  split at honce
  · omega
  · omega

end UniRil.AsyncCmd
