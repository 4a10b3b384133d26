import UniRil.Network.Locks

/-!
# Every mode switch releases its locks and answers once

A URC and the handler thread pay the debt of an entry when they take it out. So the balance of a request
goes wrong only where removeAsyncCmdList takes back a debt that was paid already.
-/

namespace UniRil.Network

open Programs Runs
open Data (RIL_SOCKET_ID)

variable {cfg : Config} {s s' m : State} {t u : RIL_Token} {d : Nat}

/-! ## Entries -/

/-- The debt of an entry of request `u` was paid, and the entry is gone. -/
structure Collected (u t : RIL_Token) (s s' : State) : Prop where
  released : s'.released t = s.released t + if u = t then 1 else 0
  acquired : s'.acquired t = s.acquired t
  completed : s'.completed t = s.completed t + if u = t then 1 else 0
  waiting : s'.waiting t + (if u = t then 1 else 0) = s.waiting t

theorem countP_eraseP_find {p q : Entry → Bool} {l : List Entry} {e : Entry} (h : l.find? q = some e) :
    (l.eraseP q).countP p + (if p e = true then 1 else 0) = l.countP p := by
  induction l with
  | nil => cases h
  | cons e' l ih =>
    by_cases he : q e' = true
    · rw [List.find?_cons_of_pos he] at h
      obtain rfl := Option.some.inj h
      rw [List.eraseP_cons_of_pos he, List.countP_cons]
    · rw [List.find?_cons_of_neg he] at h
      rw [List.eraseP_cons_of_neg he, List.countP_cons, List.countP_cons, ← ih h]
      omega

/-- The two unlocks and the answer. -/
def State.pay (s : State) (u : RIL_Token) (e : RIL_Errno) (response : Option RIL_RadioCapability) : State :=
  ({ s with radioPower := false }.record (.unlockRadioPower u)).record (.RIL_onRequestComplete u e response)

theorem collected_pay {e : RIL_Errno} {response : Option RIL_RadioCapability} (hreleased : m.released t = s.released t)
    (hacquired : m.acquired t = s.acquired t) (hcompleted : m.completed t = s.completed t)
    (hwaiting : m.waiting t + (if u = t then 1 else 0) = s.waiting t) : Collected u t s (m.pay u e response) := by
  refine ⟨?_, ?_, ?_, hwaiting⟩
  · rw [State.pay, released_record, released_record, ← hreleased]
    simp only [reduceCtorEq, Event.unlockRadioPower.injEq, if_false, Nat.add_zero]
    rfl
  · rw [State.pay, acquired_record, acquired_record, ← hacquired]
    simp only [reduceCtorEq, if_false, Nat.add_zero]
    rfl
  · rw [State.pay, completed_record, completed_record, ← hcompleted]
    simp only [Event.answers, decide_eq_true_eq, Bool.false_eq_true, if_false, Nat.add_zero]
    rfl

theorem Collected.then (h : Collected u t s m) (hsame : SameCounts t m s') : Collected u t s s' := by
  refine ⟨?_, ?_, ?_, ?_⟩
  · rw [hsame.released, h.released]
  · rw [hsame.acquired, h.acquired]
  · rw [hsame.completed, h.completed]
  · rw [hsame.waiting, h.waiting]

theorem sameCounts_unsolRadioCapability (s : State) : SameCounts t s s.unsolRadioCapability := by
  refine ⟨?_, ?_, ?_, rfl⟩
  · simp [State.released, State.unsolRadioCapability]
  · simp [State.acquired, State.unsolRadioCapability]
  · simp [State.completed, State.unsolRadioCapability, Event.answers]

def answerTo (status : Int) : RIL_Errno := if status = 1 then .RIL_E_SUCCESS else .RIL_E_GENERIC_FAILURE

/-- dispatchSPTESTMODE pays, and may send what counts nothing. -/
theorem dispatchSPTESTMODE_pays (data : Option RIL_RadioCapability) (status : Int) (s : State) :
    dispatchSPTESTMODE u data status s = s.pay u (answerTo status) data ∨
      dispatchSPTESTMODE u data status s = (s.pay u (answerTo status) data).unsolRadioCapability := by
  unfold dispatchSPTESTMODE answerTo
  dsimp only
  split
  · split
    · exact Or.inr rfl
    · exact Or.inl rfl
  · exact Or.inl rfl

theorem collected_dispatch {data : Option RIL_RadioCapability} {status : Int} (hreleased : m.released t = s.released t)
    (hacquired : m.acquired t = s.acquired t) (hcompleted : m.completed t = s.completed t)
    (hwaiting : m.waiting t + (if u = t then 1 else 0) = s.waiting t) :
    Collected u t s (dispatchSPTESTMODE u data status m) := by
  obtain heq | heq := @dispatchSPTESTMODE_pays u data status m
  · rw [heq]
    exact collected_pay hreleased hacquired hcompleted hwaiting
  · rw [heq]
    exact (collected_pay hreleased hacquired hcompleted hwaiting).then (sameCounts_unsolRadioCapability _)

/-! ## The account of a request -/

theorem Account.same (h : Account t s d) (hsame : SameCounts t s s') (hthreads : s'.threads t = s.threads t) :
    Account t s' d := by
  unfold Account at h ⊢
  rw [hthreads]
  cases hprog : s.threads t with
  | none =>
    simp only [hprog] at h ⊢
    obtain ⟨⟨hacquired, hreleased, hcompleted, hwaiting⟩, hd⟩ := h
    exact ⟨⟨hsame.acquired.trans hacquired, hsame.released.trans hreleased, hsame.completed.trans hcompleted,
      hsame.waiting.trans hwaiting⟩, hd⟩
  | some p =>
    simp only [hprog] at h ⊢
    obtain ⟨o, howes, hbalance⟩ := h
    exact ⟨o, howes, hbalance.same hsame⟩

/-- The entry pays for the request it belongs to. -/
theorem Account.collected (h : Account t s d) (hpaid : Collected u t s s') (hthreads : s'.threads t = s.threads t) :
    Account t s' d := by
  obtain ⟨hreleased, hacquired, hcompleted, hwaiting⟩ := hpaid
  unfold Account at h ⊢
  rw [hthreads]
  cases hprog : s.threads t with
  | none =>
    simp only [hprog] at h ⊢
    obtain ⟨huntouched, hd⟩ := h
    have hnone := huntouched.waiting
    have hacq := huntouched.acquired
    have hrel := huntouched.released
    have hcom := huntouched.completed
    exact ⟨⟨by omega, by omega, by omega, by omega⟩, hd⟩
  | some p =>
    simp only [hprog] at h ⊢
    obtain ⟨o, howes, hlocks, hanswers, honce⟩ := h
    exact ⟨o, howes, by omega, by omega, by omega⟩

/-! ## Steps -/

/-- What is known of request `t` in a run so far. -/
structure Ledger (t : RIL_Token) (s : State) (d : Nat) : Prop where
  obliged : Obliged s
  account : Account t s d

theorem Obliged.same (h : Obliged s) (hthreads : s'.threads = s.threads) : Obliged s' := by
  intro v p hv
  exact h v p (hthreads ▸ hv)

theorem Obliged.update (h : Obliged s) {p : NetProg Unit} {o : Owed} (howes : Owes u o Paid p)
    (hthreads : s'.threads = Function.update s.threads u (some p)) : Obliged s' := by
  intro v q hv
  rw [hthreads, Function.update_apply] at hv
  split at hv
  · rename_i hvu
    subst hvu
    obtain rfl := Option.some.inj hv
    exact ⟨o, howes⟩
  · exact h v q hv

theorem ledger_request {socket_id : RIL_SOCKET_ID} {r : Request} (h : Ledger t s d) (hfree : s.threads u = none) :
    Ledger t { s with threads := Function.update s.threads u (some (processNetworkRequests cfg socket_id u r)) } d := by
  have howes : Owes u .onlyToken Paid (processNetworkRequests cfg socket_id u r) := owes_processNetworkRequests cfg socket_id r
  refine ⟨h.obliged.update howes rfl, ?_⟩
  by_cases hut : u = t
  · subst hut
    have haccount := h.account
    simp only [Account, hfree] at haccount
    obtain ⟨⟨hacquired, hreleased, hcompleted, hwaiting⟩, rfl⟩ := haccount
    simp only [Account, Function.update_self]
    refine ⟨.onlyToken, howes, ?_, ?_, fun _ => ?_⟩
    · show s.released u + 0 + s.waiting u = s.acquired u + 0
      omega
    · show s.completed u + 1 + s.waiting u = 1 + 0
      omega
    · show 0 + s.waiting u ≤ 1
      omega
  · exact h.account.same (SameCounts.of_eq rfl rfl rfl) (Function.update_of_ne (Ne.symm hut) _ _)

theorem ledger_thread {env : Env} {a : Act} {rest : a.Reply → NetProg Unit} {r : a.Reply} (h : Ledger t s d)
    (hprog : s.threads u = some (.act a rest)) (hexec : execute u env s a = some (r, m)) :
    Ledger t { m with threads := Function.update m.threads u (some (rest r)) } (d + a.misses t s) := by
  have hthreads := execute_threads hexec
  obtain ⟨o, howes⟩ := h.obliged u _ hprog
  obtain ⟨hallows, hrest⟩ := howes.next
  refine ⟨(h.obliged.same hthreads).update (hrest r _ rfl) rfl, ?_⟩
  by_cases hut : u = t
  · subst hut
    have haccount := h.account
    simp only [Account, hprog] at haccount
    obtain ⟨o', howes', hbalance⟩ := haccount
    obtain ⟨hallows', hrest'⟩ := howes'.next
    simp only [Account, Function.update_self]
    refine ⟨o'.after a, hrest' r _ rfl, (hbalance.execute hallows' hexec).same (SameCounts.of_eq rfl rfl rfl)⟩
  · obtain ⟨hsame, hmisses⟩ := execute_other hut hallows hexec
    rw [hmisses, Nat.add_zero]
    refine h.account.same (hsame.trans (SameCounts.of_eq rfl rfl rfl)) ?_
    exact (Function.update_of_ne (Ne.symm hut) _ _).trans (congrFun hthreads t)

theorem ledger_urc {socket_id : RIL_SOCKET_ID} {status : Int} {e : Entry} (h : Ledger t s d)
    (hfind : s.s_timerList.find? (·.socket_id = socket_id) = some e) :
    Ledger t (dispatchSPTESTMODE e.token e.data status
      { s with s_timerList := s.s_timerList.eraseP (·.socket_id = socket_id) }) d := by
  have hthreads := @threads_dispatch e.token e.data status
    { s with s_timerList := s.s_timerList.eraseP (·.socket_id = socket_id) }
  refine ⟨h.obliged.same hthreads, h.account.collected (u := e.token) ?_ (congrFun hthreads t)⟩
  refine collected_dispatch rfl rfl rfl ?_
  have herase := @countP_eraseP_find (fun e => decide (e.token = t)) _ _ _ hfind
  simp only [decide_eq_true_eq] at herase
  simp only [State.waiting, ← herase]
  omega

/-- processTimeouts only moves the entry. -/
theorem ledger_expire {e : Entry} {rest : List Entry} (h : Ledger t s d) (hlist : s.s_timerList = e :: rest) :
    Ledger t { s with s_timerList := rest, s_pendingList := s.s_pendingList ++ [e] } d := by
  refine ⟨h.obliged.same rfl, h.account.same ⟨rfl, rfl, rfl, ?_⟩ rfl⟩
  simp only [State.waiting, hlist, List.countP_append, List.countP_cons, List.countP_nil]
  omega

theorem ledger_fire {e : Entry} {rest : List Entry} (h : Ledger t s d) (hlist : s.s_pendingList = e :: rest) :
    Ledger t (userTimerCallback e.token { s with s_pendingList := rest }) d := by
  refine ⟨h.obliged.same rfl, h.account.collected (u := e.token) ?_ rfl⟩
  refine @collected_pay s { s with s_pendingList := rest } t e.token _ _ rfl rfl rfl ?_
  simp only [State.waiting, hlist, List.countP_cons, decide_eq_true_eq]
  omega

/-- **A step changes the account of a request only by a removal that finds nothing.** -/
theorem ledger_step (s : State) (a : Label) (s' : State) (d : Nat) (h : Ledger t s d) (hstep : step cfg s a = some s') :
    Ledger t s' (d + missed t s a) := by
  cases a with
  | request socket_id u r =>
    cases hprog : s.threads u with
    | none =>
      simp only [step, hprog] at hstep
      cases hstep
      exact ledger_request h hprog
    | some p => simp only [step, hprog, reduceCtorEq] at hstep
  | thread u env =>
    cases hprog : s.threads u with
    | none => simp only [step, hprog, reduceCtorEq] at hstep
    | some p =>
      cases p with
      | ret value => simp only [step, hprog, reduceCtorEq] at hstep
      | act a rest =>
        simp only [step, hprog, Option.map_eq_some_iff] at hstep
        obtain ⟨⟨r, m⟩, hexec, rfl⟩ := hstep
        simp only [missed, hprog]
        exact ledger_thread h hprog hexec
  | urc socket_id status =>
    cases hfind : s.s_timerList.find? (·.socket_id = socket_id) with
    | none =>
      simp only [step, hfind] at hstep
      cases hstep
      exact h
    | some e =>
      simp only [step, hfind] at hstep
      cases hstep
      exact ledger_urc h hfind
  | expire =>
    cases hlist : s.s_timerList with
    | nil => simp only [step, hlist, reduceCtorEq] at hstep
    | cons e rest =>
      simp only [step, hlist] at hstep
      cases hstep
      exact ledger_expire h hlist
  | fire =>
    cases hlist : s.s_pendingList with
    | nil => simp only [step, hlist, reduceCtorEq] at hstep
    | cons e rest =>
      simp only [step, hlist] at hstep
      cases hstep
      exact ledger_fire h hlist

theorem ledger_start (t : RIL_Token) (g : Globals) : Ledger t (State.start g) 0 := by
  refine ⟨?_, ⟨rfl, rfl, rfl, rfl⟩, rfl⟩
  intro u p hu
  cases hu

/-! ## Runs -/

/-- While nothing went wrong, locks and answers are in order. -/
theorem Ledger.orderly (h : ∀ t, Ledger t s 0) : Orderly s := by
  intro t
  have haccount := (h t).account
  unfold Account at haccount
  cases hprog : s.threads t with
  | none =>
    simp only [hprog] at haccount
    obtain ⟨⟨hacquired, hreleased, hcompleted, -⟩, -⟩ := haccount
    omega
  | some p =>
    simp only [hprog] at haccount
    obtain ⟨o, -, hlocks, hanswers, honce⟩ := haccount
    have hbound := honce rfl
    omega

/-- When all is over, what went wrong is what was done too often. -/
theorem Ledger.quiet (h : Ledger t s d) (hquiet : s.Quiet) :
    if (s.threads t).isSome then s.released t = s.acquired t + d ∧ s.completed t = 1 + d else d = 0 := by
  have haccount := h.account
  unfold Account at haccount
  cases hprog : s.threads t with
  | none =>
    simp only [hprog] at haccount
    exact haccount.2
  | some p =>
    simp only [hprog] at haccount
    obtain ⟨o, howes, hlocks, hanswers, -⟩ := haccount
    obtain rfl := hquiet.threads t p hprog
    obtain rfl : o = .none := howes.result
    have hwaiting : s.waiting t = 0 := by simp [State.waiting, hquiet.timerList, hquiet.pendingList]
    have hlock : Owed.none.lock.toNat = 0 := rfl
    have htoken : Owed.none.token.toNat = 0 := rfl
    exact ⟨by omega, by omega⟩

theorem misses_eq_zero_iff (a : Act) (rest : a.Reply → NetProg Unit) :
    (∀ t, a.misses t s = 0) ↔ ∀ t' ∈ removes (.act a rest), ∃ e ∈ s.s_timerList, e.token = t' := by
  cases a with
  | removeAsyncCmdList u =>
    simp only [removes, Option.mem_some_iff, forall_eq']
    constructor
    · intro h
      have hpos : 0 < s.s_timerList.countP (·.token = u) := by
        refine Nat.pos_of_ne_zero fun hnone => ?_
        simpa [Act.misses, hnone] using h u
      obtain ⟨e, he, htoken⟩ := List.countP_pos_iff.1 hpos
      exact ⟨e, he, of_decide_eq_true htoken⟩
    · rintro ⟨e, he, htoken⟩ t
      refine if_neg ?_
      rintro ⟨rfl, hnone⟩
      have hpos : 0 < s.s_timerList.countP (·.token = u) := List.countP_pos_iff.2 ⟨e, he, decide_eq_true htoken⟩
      omega
  | _ => exact iff_of_true (fun _ => rfl) fun t' ht' => absurd ht' (Option.not_mem_none t')

theorem missed_eq_zero_iff (s : State) (a : Label) : (∀ t, missed t s a = 0) ↔ Prompt s a := by
  cases a with
  | thread u env =>
    cases hprog : s.threads u with
    | none => simp [missed, Prompt, hprog]
    | some p =>
      cases p with
      | ret value => simp [missed, Prompt, hprog, removes]
      | act a rest =>
        simp only [missed, Prompt, hprog, Option.bind_some]
        exact misses_eq_zero_iff a rest
  | request socket_id u r => exact iff_of_true (fun _ => rfl) trivial
  | urc socket_id status => exact iff_of_true (fun _ => rfl) trivial
  | expire => exact iff_of_true (fun _ => rfl) trivial
  | fire => exact iff_of_true (fun _ => rfl) trivial

/-- All is over, and every request that was made has released what it took and was answered once; on
the way no release and no answer was one too many. -/
def Settles (cfg : Config) (g : Globals) (labels : List Label) (s : State) : Prop :=
  Always (step cfg) Orderly (State.start g) labels ∧ Settled s

/-- **In every run of requests, URCs and time-outs the locks are released once and the requests answered
once exactly if removeAsyncCmdList always finds its entry.** -/
theorem settles_iff_prompt (cfg : Config) (g : Globals) (labels : List Label) (s : State)
    (hrun : run (step cfg) (State.start g) labels = some s) (hquiet : s.Quiet) :
    Settles cfg g labels s ↔ Steps (step cfg) Prompt (State.start g) labels := by
  constructor
  · rintro ⟨-, hsettled⟩
    refine (steps_congr missed_eq_zero_iff).1 (steps_forall.1 fun t => tally_eq_zero.1 ?_)
    have hledger : Ledger t s (0 + tally (step cfg) (missed t) (State.start g) labels) :=
      count_run ledger_step (ledger_start t g) hrun
    have hend := hledger.quiet hquiet
    split at hend
    · rename_i hmade
      have hreleased := (hsettled t hmade).1
      omega
    · omega
  · intro hprompt
    have hledger : Always (step cfg) (fun s => ∀ t, Ledger t s 0) (State.start g) labels := by
      refine always_of_steps (fun s a s' h ha hstep t => ?_) (fun t => ledger_start t g) hprompt
      have hnext := ledger_step s a s' 0 (h t) hstep
      rwa [(missed_eq_zero_iff s a).2 ha t] at hnext
    refine ⟨hledger.mono fun s => Ledger.orderly, fun t hmade => ?_⟩
    have hend := (hledger.last hrun t).quiet hquiet
    rwa [if_pos hmade] at hend

/-- An LTE modem whose SIMs are alike. -/
def alikeConfig : Config where
  s_isLTE := true
  s_modemConfig := .LWG_LWG
  s_modem := ascii "l"
  modemConfig := ascii "TL_LF_TD_W_G,TL_LF_TD_W_G"

/-- SIM 1 is the primary one, and both have all modes. -/
def alikeGlobals : Globals where
  s_multiModeSim := .RIL_SOCKET_1
  s_workMode := fun _ => TD_LTE_AND_LTE_FDD_AND_W_AND_TD_AND_GSM
  s_requestSetRC := fun _ => 0
  s_sessionId := fun _ => 0
  s_radioAccessFamily := fun _ => 0
  workModeProp := ascii "9,9"
  primarySimProp := ascii "0"

/-- Request 7 asks for LTE only; it is run up to the command. -/
def lteOnlyAsked : List Label :=
  .request .RIL_SOCKET_1 7 (.RIL_REQUEST_SET_PREFERRED_NETWORK_TYPE 11) ::
    List.replicate 7 (.thread 7 { query := fun _ => false, answer := .ok })

/-- The command is answered with OK, and the URC follows. -/
def lteOnlyTaken : List Label :=
  lteOnlyAsked ++ List.replicate 4 (.thread 7 { query := fun _ => false, answer := .ok }) ++ [.urc .RIL_SOCKET_1 1]

/-- The URC comes first, and then the error of the command. -/
def lteOnlyRefused : List Label :=
  lteOnlyAsked ++ .urc .RIL_SOCKET_1 2 :: List.replicate 5 (.thread 7 { query := fun _ => false, answer := .error })

theorem settles_iff_prompt_lteOnlyTaken :
    ∃ s, run (step alikeConfig) (State.start alikeGlobals) lteOnlyTaken = some s ∧ s.Quiet ∧
      Settles alikeConfig alikeGlobals lteOnlyTaken s := by
  have hover : (run (step alikeConfig) (State.start alikeGlobals) lteOnlyTaken).any (·.over lteOnlyTaken) = true := by
    decide
  obtain ⟨s, hrun, hs⟩ := (Option.any_eq_true _ _).1 hover
  have hquiet := quiet_of_over hrun hs
  exact ⟨s, hrun, hquiet, (settles_iff_prompt alikeConfig alikeGlobals lteOnlyTaken s hrun hquiet).2 (by decide)⟩

theorem settles_fails_lteOnlyRefused :
    ∃ s, run (step alikeConfig) (State.start alikeGlobals) lteOnlyRefused = some s ∧ s.Quiet ∧
      s.acquired 7 = 1 ∧ s.released 7 = 2 ∧ s.completed 7 = 2 ∧ ¬ Settled s := by
  have hover : (run (step alikeConfig) (State.start alikeGlobals) lteOnlyRefused).any (fun s =>
      s.over lteOnlyRefused && (s.acquired 7 = 1 && s.released 7 = 2 && s.completed 7 = 2 &&
        (s.threads 7).isSome)) = true := by
    decide
  obtain ⟨s, hrun, hs⟩ := (Option.any_eq_true _ _).1 hover
  simp only [Bool.and_eq_true, decide_eq_true_eq] at hs
  obtain ⟨hs, ⟨⟨hacquired, hreleased⟩, hcompleted⟩, hmade⟩ := hs
  refine ⟨s, hrun, quiet_of_over hrun hs, hacquired, hreleased, hcompleted, fun hsettled => ?_⟩
  have hbalanced := (hsettled 7 hmade).1
  omega

end UniRil.Network
