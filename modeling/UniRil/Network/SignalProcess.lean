import UniRil.AtTok
import UniRil.Lib.Runs

/-!
# The thread that reports the signal strength

signal_process keeps the last samples of each SIM. When a pass over the SIMs finds no change it sleeps for a second
and waits for a signal. The handler of a +CESQ or +CSQ line signals first and stores the new values then.
-/

namespace UniRil.Network.SignalProcess

open AtTok Runs

/-! ## The stored values -/

/-- The cells of the arrays `rxlev`, `rscp`, `rsrp` and `rssi` of a SIM. -/
structure Signal where
  rxlev : Int
  rscp : Int
  rsrp : Int
  rssi : Int
  deriving DecidableEq

def Signal.zero : Signal := { rxlev := 0, rscp := 0, rsrp := 0, rssi := 0 }

/-- The range of TD-SCDMA values, with 1 for compensation. -/
def compensate (level : Int) : Int :=
  if 100 ≤ level ∧ level < 103 then 0
  else if 103 ≤ level ∧ level < 165 then (level - 103 + 1) / 2
  else if 165 ≤ level ∧ level ≤ 191 then 31
  else level

def rssiLevel (rssi : Int) : Int :=
  if (31 < rssi ∧ rssi < 100) ∨ 191 < rssi then 99 else compensate rssi

def rxlevLevel (rxlev : Int) : Int :=
  if rxlev ≤ 61 then (rxlev + 2).tdiv 2 else if rxlev ≤ 63 then 31 else compensate rxlev

def rsrpLevel (rsrp : Int) : Int := if rsrp = 255 then -255 else toInt (141 - rsrp)

/-- What `at_tok_nextint(&atInStr, &cell)` leaves in the cell. -/
def cell (tok : Tok Int) (old : Int) : Int := tok.p_out.getD old

def csq_unsol_rsp (line : Line) (s : Signal) : Signal :=
  match at_tok_flag_start (some line) 58 with
  | none => s
  | some atInStr =>
    let rssi := at_tok_nextint (some atInStr)
    if !rssi.ok then { s with rssi := cell rssi s.rssi }
    else if !(at_tok_nextint rssi.p_cur).ok then { s with rssi := cell rssi s.rssi }
    else { s with rssi := rssiLevel (cell rssi s.rssi) }

/-- The tokens behind rscp: ecno, rsrq and rsrp. -/
def cesqRest (atInStr : Option Line) (s : Signal) : Signal :=
  let ecno := at_tok_nextint atInStr
  if !ecno.ok then s
  else
    let rsrq := at_tok_nextint ecno.p_cur
    if !rsrq.ok then s
    else
      let rsrp := at_tok_nextint rsrq.p_cur
      if !rsrp.ok then { s with rsrp := cell rsrp s.rsrp } else { s with rsrp := rsrpLevel (cell rsrp s.rsrp) }

def cesq_unsol_rsp (line : Line) (s : Signal) : Signal :=
  match at_tok_flag_start (some line) 58 with
  | none => s
  | some atInStr =>
    let rxlev := at_tok_nextint (some atInStr)
    if !rxlev.ok then { s with rxlev := cell rxlev s.rxlev }
    else
      let s := { s with rxlev := rxlevLevel (cell rxlev s.rxlev) }
      let ber := at_tok_nextint rxlev.p_cur
      if !ber.ok then s
      else
        let rscp := at_tok_nextint ber.p_cur
        if !rscp.ok then { s with rscp := cell rscp s.rscp }
        else cesqRest rscp.p_cur { s with rscp := compensate (cell rscp s.rscp) }

/-! ## A turn of a SIM -/

structure Config where
  /-- SIM_COUNT -/
  simCount : Nat
  s_isLTE : Bool
  /-- `s_modem` is "t" or "w". -/
  modemTW : Bool
  /-- `s_isSimPresent[sim_index] == PRESENT` -/
  s_isSimPresent : Nat → Bool
  /-- The value it computes in floating point. -/
  least_squares : List Int → Int

def SIG_POOL_SIZE : Nat := 10

/-- The samples of a SIM. -/
structure Pool where
  sample_rsrp_sim : List Int
  sample_rscp_sim : List Int
  sample_rxlev_sim : List Int
  sample_rssi_sim : List Int
  deriving DecidableEq

def Pool.zero : Pool where
  sample_rsrp_sim := List.replicate SIG_POOL_SIZE 0
  sample_rscp_sim := List.replicate SIG_POOL_SIZE 0
  sample_rxlev_sim := List.replicate SIG_POOL_SIZE 0
  sample_rssi_sim := List.replicate SIG_POOL_SIZE 0

/-- The loop over an array: the array after it, and by how much it raised `nosigUpdate`. -/
def sampleLoop (unset : Int → Bool) (newSig : Int) : List Int → List Int × Nat
  | a :: b :: rest =>
    let (tail, nosigUpdate) := sampleLoop unset newSig (b :: rest)
    if a = b then
      if a = newSig then (a :: tail, nosigUpdate + 1)
      else if unset a then (newSig :: tail, nosigUpdate)
      else (a :: tail, nosigUpdate)
    else (b :: tail, nosigUpdate)
  | array => (array, 0)

/-- The last sample is the new value; or, when the signal falls by more than one step, the computed one if that
is valid. -/
def lastSample (least_squares : List Int → Int) (falls : Int → Int → Bool) (invalid : Int → Int → Bool) (newSig : Int)
    (array : List Int) : List Int :=
  let array := array.set (SIG_POOL_SIZE - 1) newSig
  if falls newSig (array.getD (SIG_POOL_SIZE - 2) 0) then
    let value := least_squares array
    if invalid value newSig then array else array.set (SIG_POOL_SIZE - 1) value
  else array

def rsrpUnset (a : Int) : Bool := a = 0 || a < 44 || 140 < a

def unset (a : Int) : Bool := a ≤ 0 || 31 < a

def rsrpFalls (newSig last : Int) : Bool := last < newSig && newSig != last + 1

def falls (newSig last : Int) : Bool := newSig < last && newSig != last - 1

def rsrpInvalid (value newSig : Int) : Bool := value < 44 || 140 < value || newSig < value

def invalid (value newSig : Int) : Bool := value < 0 || 31 < value || value < newSig

/-- The turn of a present SIM: whether its signal has not changed, and its samples. -/
def turn (cfg : Config) (s : Signal) (pool : Pool) : Bool × Pool :=
  if cfg.s_isLTE then
    let rsrp := sampleLoop rsrpUnset s.rsrp pool.sample_rsrp_sim
    let rscp := sampleLoop unset s.rscp pool.sample_rscp_sim
    let rxlev := sampleLoop unset s.rxlev pool.sample_rxlev_sim
    if rsrp.2 + rscp.2 + rxlev.2 = 3 * (SIG_POOL_SIZE - 1) then
      (true, { pool with sample_rsrp_sim := rsrp.1, sample_rscp_sim := rscp.1, sample_rxlev_sim := rxlev.1 })
    else
      (false, { pool with
        sample_rsrp_sim := lastSample cfg.least_squares rsrpFalls rsrpInvalid s.rsrp rsrp.1
        sample_rscp_sim := lastSample cfg.least_squares falls invalid s.rscp rscp.1
        sample_rxlev_sim := lastSample cfg.least_squares falls invalid s.rxlev rxlev.1 })
  else
    let rssi := sampleLoop unset s.rssi pool.sample_rssi_sim
    if rssi.2 = SIG_POOL_SIZE - 1 then (true, { pool with sample_rssi_sim := rssi.1 })
    else (false, { pool with sample_rssi_sim := lastSample cfg.least_squares falls invalid s.rssi rssi.1 })

/-! ## Steps -/

inductive Unsolicited
  | CSQ (line : Line)
  | CESQ (line : Line)
  deriving DecidableEq

/-- A line for which processNetworkUnsolicited does not leave at once. -/
def Config.handles (cfg : Config) : Unsolicited → Bool
  | .CSQ _ => !cfg.s_isLTE
  | .CESQ _ => !cfg.modemTW

def Unsolicited.store : Unsolicited → Signal → Signal
  | .CSQ line => csq_unsol_rsp line
  | .CESQ line => cesq_unsol_rsp line

/-- Where signal_process is. -/
inductive Pc
  /-- before the turn of a SIM, or at the end of the loop -/
  | loop (sim_index noSigChange noSimCard : Nat)
  | sleeps (noSigChange noSimCard : Nat)
  | tests (noSigChange noSimCard : Nat)
  /-- before the lock and pthread_cond_wait -/
  | waits
  /-- in pthread_cond_wait -/
  | blocked
  deriving DecidableEq

structure State where
  signal : Nat → Signal
  pools : Nat → Pool
  pc : Pc
  /-- The handlers that have not signalled, each with its SIM and line. -/
  owing : List (Nat × Unsolicited)
  /-- The handlers that have signalled and have not stored the values. -/
  signalled : List (Nat × Unsolicited)

def State.start : State where
  signal _ := Signal.zero
  pools _ := Pool.zero
  pc := .loop 0 0 0
  owing := []
  signalled := []

inductive Label
  | unsolicited (socket_id : Nat) (line : Unsolicited)
  | pthread_cond_signal (handler : Nat × Unsolicited)
  | stores (handler : Nat × Unsolicited)
  /-- signal_process goes on in its loop over the SIMs. -/
  | turn
  | sleep
  | test
  | pthread_cond_wait
  /-- pthread_cond_wait returns without a signal. -/
  | wakes

def stores (s : State) (handler : Nat × Unsolicited) : State :=
  { s with
    signal := Function.update s.signal handler.1 (handler.2.store (s.signal handler.1))
    signalled := s.signalled.erase handler }

def loop (cfg : Config) (s : State) (sim_index noSigChange noSimCard : Nat) : State :=
  if sim_index < cfg.simCount then
    if cfg.s_isSimPresent sim_index then
      let turned := turn cfg (s.signal sim_index) (s.pools sim_index)
      { s with
        pools := Function.update s.pools sim_index turned.2
        pc := .loop (sim_index + 1) (noSigChange + turned.1.toNat) noSimCard }
    else { s with pc := .loop (sim_index + 1) noSigChange (noSimCard + 1) }
  else { s with pc := .sleeps noSigChange noSimCard }

/-- The screen is on. -/
def step (cfg : Config) (s : State) : Label → Option State
  | .unsolicited socket_id line =>
    some (if cfg.handles line then { s with owing := (socket_id, line) :: s.owing } else s)
  | .pthread_cond_signal handler =>
    if handler ∈ s.owing then
      some { s with
        owing := s.owing.erase handler
        signalled := handler :: s.signalled
        pc := if s.pc = .blocked then .loop 0 0 0 else s.pc }
    else none
  | .stores handler => if handler ∈ s.signalled then some (stores s handler) else none
  | .turn =>
    match s.pc with
    | .loop sim_index noSigChange noSimCard => some (loop cfg s sim_index noSigChange noSimCard)
    | _ => none
  | .sleep =>
    match s.pc with
    | .sleeps noSigChange noSimCard => some { s with pc := .tests noSigChange noSimCard }
    | _ => none
  | .test =>
    match s.pc with
    | .tests noSigChange noSimCard =>
      some { s with pc := if noSigChange + noSimCard = cfg.simCount then .waits else .loop 0 0 0 }
    | _ => none
  | .pthread_cond_wait => if s.pc = .waits then some { s with pc := .blocked } else none
  | .wakes => if s.pc = .blocked then some { s with pc := .loop 0 0 0 } else none

/-! ## Runs -/

/-- All samples of the SIM are its stored values. -/
def Aligned (cfg : Config) (s : Signal) (pool : Pool) : Prop :=
  if cfg.s_isLTE then
    (∀ a ∈ pool.sample_rsrp_sim, a = s.rsrp) ∧ (∀ a ∈ pool.sample_rscp_sim, a = s.rscp) ∧
      ∀ a ∈ pool.sample_rxlev_sim, a = s.rxlev
  else ∀ a ∈ pool.sample_rssi_sim, a = s.rssi

/-- The samples of every present SIM are its stored values. -/
def State.Aligned (cfg : Config) (s : State) : Prop :=
  ∀ sim_index < cfg.simCount, cfg.s_isSimPresent sim_index = true →
    SignalProcess.Aligned cfg (s.signal sim_index) (s.pools sim_index)

/-- A blocked signal_process has nothing to report, or a handler owes it a signal. -/
def Reported (cfg : Config) (s : State) : Prop := s.pc = .blocked → s.owing ≠ [] ∨ s.Aligned cfg

/-- signal_process does not begin to wait when values were stored since the turn of their SIM, and no value is
stored that differs while it is blocked, unless a handler owes a signal. -/
def Kept (cfg : Config) (s : State) : Label → Prop
  | .pthread_cond_wait => s.pc = .waits → s.owing ≠ [] ∨ s.Aligned cfg
  | .stores handler =>
    handler ∈ s.signalled → s.pc = .blocked → s.owing ≠ [] ∨ (stores s handler).Aligned cfg
  | _ => True

/-! ## What is unchanged -/

variable {cfg : Config} {s s' : State}

theorem sampleLoop_length (unset : Int → Bool) (newSig : Int) (array : List Int) :
    (sampleLoop unset newSig array).1.length = array.length := by
  induction array with
  | nil => rfl
  | cons a tail ih =>
    cases tail with
    | nil => rfl
    | cons b rest =>
      rw [List.length_cons, ← ih, sampleLoop]
      simp only
      split
      · split
        · rfl
        · split <;> rfl
      · rfl

theorem sampleLoop_le (unset : Int → Bool) (newSig : Int) (array : List Int) :
    (sampleLoop unset newSig array).2 ≤ array.length - 1 := by
  induction array with
  | nil => exact Nat.le_refl 0
  | cons a tail ih =>
    cases tail with
    | nil => exact Nat.le_refl 0
    | cons b rest =>
      simp only [List.length_cons, Nat.add_sub_cancel] at ih ⊢
      rw [sampleLoop]
      simp only
      split
      · split
        · exact Nat.succ_le_succ ih
        · split
          · exact Nat.le_succ_of_le ih
          · exact Nat.le_succ_of_le ih
      · exact Nat.le_succ_of_le ih

/-- When every sample but the last one counts, the samples are the new value, and stay. -/
theorem sampleLoop_all {unset : Int → Bool} {newSig : Int} {array : List Int} (hlong : 2 ≤ array.length)
    (h : (sampleLoop unset newSig array).2 = array.length - 1) :
    (sampleLoop unset newSig array).1 = array ∧ ∀ a ∈ array, a = newSig := by
  induction array with
  | nil => simp at hlong
  | cons a tail ih =>
    cases tail with
    | nil => simp at hlong
    | cons b rest =>
      have hle := sampleLoop_le unset newSig (b :: rest)
      simp only [List.length_cons, Nat.add_sub_cancel] at h hle ih
      rw [sampleLoop] at h ⊢
      simp only at h ⊢
      by_cases hab : a = b
      · by_cases hnew : a = newSig
        · rw [if_pos hab, if_pos hnew] at h ⊢
          subst hab hnew
          cases rest with
          | nil => exact ⟨rfl, by simp⟩
          | cons c rest =>
            obtain ⟨htail, hall⟩ := ih (by simp) (Nat.succ.inj h)
            exact ⟨congrArg _ htail, List.forall_mem_cons.2 ⟨rfl, hall⟩⟩
        · rw [if_pos hab, if_neg hnew] at h
          split at h <;> · simp only at h; omega
      · rw [if_neg hab] at h
        simp only at h
        omega

theorem lastSample_length (least_squares : List Int → Int) (falls invalid : Int → Int → Bool) (newSig : Int)
    (array : List Int) : (lastSample least_squares falls invalid newSig array).length = array.length := by
  unfold lastSample
  simp only
  split
  · split
    · exact List.length_set
    · rw [List.length_set, List.length_set]
  · exact List.length_set

structure Pool.Full (pool : Pool) : Prop where
  rsrp : pool.sample_rsrp_sim.length = SIG_POOL_SIZE
  rscp : pool.sample_rscp_sim.length = SIG_POOL_SIZE
  rxlev : pool.sample_rxlev_sim.length = SIG_POOL_SIZE
  rssi : pool.sample_rssi_sim.length = SIG_POOL_SIZE

theorem full_zero : Pool.zero.Full := ⟨rfl, rfl, rfl, rfl⟩

theorem full_turn {pool : Pool} (cfg : Config) (s : Signal) (h : pool.Full) : (turn cfg s pool).2.Full := by
  unfold turn
  split
  · simp only
    split
    · exact ⟨(sampleLoop_length ..).trans h.rsrp, (sampleLoop_length ..).trans h.rscp,
        (sampleLoop_length ..).trans h.rxlev, h.rssi⟩
    · exact ⟨((lastSample_length ..).trans (sampleLoop_length ..)).trans h.rsrp,
        ((lastSample_length ..).trans (sampleLoop_length ..)).trans h.rscp,
        ((lastSample_length ..).trans (sampleLoop_length ..)).trans h.rxlev, h.rssi⟩
  · simp only
    split
    · exact ⟨h.rsrp, h.rscp, h.rxlev, (sampleLoop_length ..).trans h.rssi⟩
    · exact ⟨h.rsrp, h.rscp, h.rxlev, ((lastSample_length ..).trans (sampleLoop_length ..)).trans h.rssi⟩

/-- An array of a full pool whose loop counts all its samples. -/
theorem sampleLoop_full {unset : Int → Bool} {newSig : Int} {array : List Int} (hfull : array.length = SIG_POOL_SIZE)
    (h : (sampleLoop unset newSig array).2 = SIG_POOL_SIZE - 1) :
    ∀ a ∈ (sampleLoop unset newSig array).1, a = newSig := by
  have hlong : 2 ≤ array.length := by rw [hfull]; decide
  obtain ⟨hsame, hall⟩ := sampleLoop_all hlong (by rw [h, hfull])
  rw [hsame]
  exact hall

/-- A turn that finds no change leaves samples that are the stored values. -/
theorem aligned_turn {pool : Pool} {s : Signal} (hfull : pool.Full) (h : (turn cfg s pool).1 = true) :
    Aligned cfg s (turn cfg s pool).2 := by
  unfold turn Aligned at *
  split at h
  · rename_i hlte
    simp only [if_pos hlte] at h ⊢
    split at h
    · rename_i hcount
      have hrsrp := sampleLoop_le rsrpUnset s.rsrp pool.sample_rsrp_sim
      have hrscp := sampleLoop_le unset s.rscp pool.sample_rscp_sim
      have hrxlev := sampleLoop_le unset s.rxlev pool.sample_rxlev_sim
      rw [hfull.rsrp] at hrsrp
      rw [hfull.rscp] at hrscp
      rw [hfull.rxlev] at hrxlev
      rw [if_pos hcount]
      exact ⟨sampleLoop_full hfull.rsrp (by omega), sampleLoop_full hfull.rscp (by omega),
        sampleLoop_full hfull.rxlev (by omega)⟩
    · cases h
  · rename_i hlte
    simp only [if_neg hlte] at h ⊢
    split at h
    · rename_i hcount
      rw [if_pos hcount]
      exact sampleLoop_full hfull.rssi hcount
    · cases h

/-! ## A pass that finds no change -/

/-- The samples of every present SIM up to one were brought in line with values it had. -/
def State.InLine (cfg : Config) (s : State) (sim_index : Nat) : Prop :=
  ∀ k < sim_index, cfg.s_isSimPresent k = true → ∃ signal, SignalProcess.Aligned cfg signal (s.pools k)

/-- The counts of a pass so far: each SIM is counted at most once. -/
def Counts (cfg : Config) (s : State) : Prop :=
  match s.pc with
  | .loop sim_index noSigChange noSimCard =>
    sim_index ≤ cfg.simCount ∧ noSigChange + noSimCard ≤ sim_index ∧
      (noSigChange + noSimCard = sim_index → s.InLine cfg sim_index)
  | .sleeps noSigChange noSimCard | .tests noSigChange noSimCard =>
    noSigChange + noSimCard = cfg.simCount → s.InLine cfg cfg.simCount
  | .waits | .blocked => s.InLine cfg cfg.simCount

structure Pass (cfg : Config) (s : State) : Prop where
  full : ∀ k, (s.pools k).Full
  counts : Counts cfg s

theorem pass_start : Pass cfg State.start :=
  ⟨fun _ => full_zero, Nat.zero_le _, Nat.le_refl 0, fun _ k hk => absurd hk (Nat.not_lt_zero k)⟩

/-- A new pass begins. -/
theorem pass_again (h : Pass cfg s) (hpools : s'.pools = s.pools) (hpc : s'.pc = .loop 0 0 0) : Pass cfg s' := by
  refine ⟨fun k => hpools ▸ h.full k, ?_⟩
  rw [Counts, hpc]
  exact ⟨Nat.zero_le _, Nat.le_refl 0, fun _ k hk => absurd hk (Nat.not_lt_zero k)⟩

theorem pass_same (h : Pass cfg s) (hpools : s'.pools = s.pools) (hpc : s'.pc = s.pc) : Pass cfg s' := by
  refine ⟨fun k => hpools ▸ h.full k, ?_⟩
  have hcounts := h.counts
  rw [Counts] at hcounts ⊢
  rw [hpc]
  simpa only [State.InLine, hpools] using hcounts

theorem inLine_succ {sim_index : Nat} (h : s.InLine cfg sim_index)
    (hlast : cfg.s_isSimPresent sim_index = true → ∃ signal, Aligned cfg signal (s.pools sim_index)) :
    s.InLine cfg (sim_index + 1) := by
  intro k hk hpresent
  obtain hlt | rfl := Nat.lt_succ_iff_lt_or_eq.1 hk
  · exact h k hlt hpresent
  · exact hlast hpresent

theorem pass_loop {sim_index noSigChange noSimCard : Nat} (h : Pass cfg s)
    (hpc : s.pc = .loop sim_index noSigChange noSimCard) : Pass cfg (loop cfg s sim_index noSigChange noSimCard) := by
  have hcounts := h.counts
  simp only [Counts, hpc] at hcounts
  obtain ⟨hle, hsum, hline⟩ := hcounts
  unfold loop
  split
  · rename_i hlt
    split
    · rename_i hpresent
      have hpools : ∀ k, k ≠ sim_index →
          Function.update s.pools sim_index (turn cfg (s.signal sim_index) (s.pools sim_index)).2 k = s.pools k :=
        fun k hk => Function.update_of_ne hk _ _
      refine ⟨fun k => ?_, hlt, ?_, fun hall => ?_⟩
      · by_cases hk : k = sim_index
        · subst hk
          simp only [Function.update_self]
          exact full_turn cfg _ (h.full k)
        · simp only [hpools k hk]
          exact h.full k
      · have htoNat := Bool.toNat_le (turn cfg (s.signal sim_index) (s.pools sim_index)).1
        omega
      · have hunchanged : (turn cfg (s.signal sim_index) (s.pools sim_index)).1 = true := by
          cases hturn : (turn cfg (s.signal sim_index) (s.pools sim_index)).1 with
          | true => rfl
          | false =>
            rw [hturn, Bool.toNat_false] at hall
            omega
        rw [hunchanged, Bool.toNat_true] at hall
        refine inLine_succ (fun k hk hkpresent => ?_) fun _ => ⟨s.signal sim_index, ?_⟩
        · simp only [hpools k (Nat.ne_of_lt hk)]
          exact hline (by omega) k hk hkpresent
        · simp only [Function.update_self]
          exact aligned_turn (h.full sim_index) hunchanged
    · rename_i habsent
      refine ⟨h.full, hlt, ?_, fun hall => ?_⟩
      · omega
      · exact inLine_succ (hline (by omega)) fun hpresent => absurd hpresent habsent
  · rename_i hend
    refine ⟨h.full, fun hall => ?_⟩
    have hlast : sim_index = cfg.simCount := by omega
    exact hlast ▸ hline (by omega)

theorem pass_step {a : Label} (h : Pass cfg s) (hstep : step cfg s a = some s') : Pass cfg s' := by
  cases a with
  | unsolicited socket_id line =>
    obtain rfl := Option.some.inj hstep
    refine pass_same h ?_ ?_
    · split <;> rfl
    · split <;> rfl
  | pthread_cond_signal handler =>
    obtain ⟨-, heq⟩ := Option.ite_none_right_eq_some.1 hstep
    obtain rfl := Option.some.inj heq
    by_cases hblocked : s.pc = .blocked
    · exact pass_again h rfl (if_pos hblocked)
    · exact pass_same h rfl (if_neg hblocked)
  | stores handler =>
    obtain ⟨-, heq⟩ := Option.ite_none_right_eq_some.1 hstep
    obtain rfl := Option.some.inj heq
    exact pass_same h rfl rfl
  | turn =>
    simp only [step] at hstep
    split at hstep
    · rename_i sim_index noSigChange noSimCard hpc
      obtain rfl := Option.some.inj hstep
      exact pass_loop h hpc
    · cases hstep
  | sleep =>
    simp only [step] at hstep
    split at hstep
    · rename_i noSigChange noSimCard hpc
      obtain rfl := Option.some.inj hstep
      have hcounts := h.counts
      simp only [Counts, hpc] at hcounts
      exact ⟨h.full, hcounts⟩
    · cases hstep
  | test =>
    simp only [step] at hstep
    split at hstep
    · rename_i noSigChange noSimCard hpc
      obtain rfl := Option.some.inj hstep
      have hcounts := h.counts
      simp only [Counts, hpc] at hcounts
      by_cases hall : noSigChange + noSimCard = cfg.simCount
      · refine ⟨h.full, ?_⟩
        simp only [Counts, if_pos hall]
        exact hcounts hall
      · exact pass_again h rfl (if_neg hall)
    · cases hstep
  | pthread_cond_wait =>
    obtain ⟨hpc, heq⟩ := Option.ite_none_right_eq_some.1 hstep
    obtain rfl := Option.some.inj heq
    have hcounts := h.counts
    simp only [Counts, hpc] at hcounts
    exact ⟨h.full, hcounts⟩
  | wakes =>
    obtain ⟨-, heq⟩ := Option.ite_none_right_eq_some.1 hstep
    obtain rfl := Option.some.inj heq
    exact pass_again h rfl rfl

/-- The samples of a present SIM are all one value of it each while signal_process is blocked. -/
theorem blocked_inLine (h : Reachable (step cfg) State.start s) (hblocked : s.pc = .blocked) :
    s.InLine cfg cfg.simCount := by
  have hcounts := (h.invariant (I := Pass cfg) pass_start fun s a s' => pass_step).counts
  simpa only [Counts, hblocked] using hcounts

/-! ## Changes that are reported -/

theorem reported_step {a : Label} (h : Reported cfg s) (hkept : Kept cfg s a) (hstep : step cfg s a = some s') :
    Reported cfg s' := by
  intro hblocked
  cases a with
  | unsolicited socket_id line =>
    obtain rfl := Option.some.inj hstep
    split at hblocked
    · rename_i hhandles
      rw [if_pos hhandles]
      exact Or.inl (List.cons_ne_nil _ _)
    · rename_i hhandles
      rw [if_neg hhandles]
      exact h hblocked
  | pthread_cond_signal handler =>
    obtain ⟨-, heq⟩ := Option.ite_none_right_eq_some.1 hstep
    obtain rfl := Option.some.inj heq
    simp only at hblocked
    split at hblocked
    · cases hblocked
    · rename_i hnot
      exact absurd hblocked hnot
  | stores handler =>
    obtain ⟨hmem, heq⟩ := Option.ite_none_right_eq_some.1 hstep
    obtain rfl := Option.some.inj heq
    exact hkept hmem hblocked
  | turn =>
    simp only [step] at hstep
    split at hstep
    · obtain rfl := Option.some.inj hstep
      unfold loop at hblocked
      split at hblocked
      · split at hblocked <;> cases hblocked
      · cases hblocked
    · cases hstep
  | sleep =>
    simp only [step] at hstep
    split at hstep
    · obtain rfl := Option.some.inj hstep
      cases hblocked
    · cases hstep
  | test =>
    simp only [step] at hstep
    split at hstep
    · obtain rfl := Option.some.inj hstep
      simp only at hblocked
      split at hblocked <;> cases hblocked
    · cases hstep
  | pthread_cond_wait =>
    obtain ⟨hpc, heq⟩ := Option.ite_none_right_eq_some.1 hstep
    obtain rfl := Option.some.inj heq
    exact hkept hpc
  | wakes =>
    obtain ⟨-, heq⟩ := Option.ite_none_right_eq_some.1 hstep
    obtain rfl := Option.some.inj heq
    cases hblocked

/-- One SIM with a card, on LTE. -/
def oneSim : Config where
  simCount := 1
  s_isLTE := true
  modemTW := false
  s_isSimPresent _ := true
  least_squares _ := 0

def cesqLine : Nat × Unsolicited := (0, .CESQ (ascii "+CESQ: 99,99,255,255,20,40"))

end UniRil.Network.SignalProcess
