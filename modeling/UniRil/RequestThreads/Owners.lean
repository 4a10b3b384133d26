import UniRil.RequestThreads.Channels

/-!
# One owner for each AT channel

The mutex of a channel protects its test and its store, so a channel that is found idle has no owner. This
holds as long as mainLoop does not make an owned channel idle.
-/

namespace UniRil.RequestThreads.Channels

open Runs

variable {cfg : Config} {s s' : State} {t u : Nat} {pc : Pc} {c : Nat}

/-! ## The invariant -/

/-- The channel whose mutex a thread holds. -/
def Pc.locked : Pc → Option Nat
  | .tests _ channelID | .takes _ channelID | .leaves _ channelID | .skips _ channelID | .putTests channelID
  | .putStores channelID | .putUnlocks channelID => some channelID
  | _ => none

/-- A thread looks at the channels of its SIM. -/
def Pc.InRange (cfg : Config) : Pc → Prop
  | .waits socket_id => socket_id < cfg.s_simCount
  | .locks socket_id channelID => socket_id < cfg.s_simCount ∧ cfg.firstChannel socket_id ≤ channelID
  | .tests socket_id channelID | .takes socket_id channelID | .leaves socket_id channelID | .skips socket_id channelID
  | .holds socket_id channelID =>
    socket_id < cfg.s_simCount ∧ cfg.firstChannel socket_id ≤ channelID ∧ channelID < cfg.lastChannel socket_id
  | _ => True

structure Guarded (cfg : Config) (s : State) : Prop where
  exclusive : ∀ t u c, (s.threads t).owns = some c → (s.threads u).owns = some c → t = u
  busy : ∀ t c, (s.threads t).owns = some c → (s.s_channelInfo c).state = .CHANNEL_BUSY
  mutex : ∀ t c, (s.threads t).locked = some c → (s.s_channelInfo c).mutex = some t
  takes : ∀ t socket_id c, s.threads t = .takes socket_id c → (s.s_channelInfo c).state = .CHANNEL_IDLE
  range : ∀ t, (s.threads t).InRange cfg

/-- The channels of a SIM are those that getSocketIdByChannelID gives to it. -/
theorem getSocketIdByChannelID_of_range {socket_id : Nat} (hsocket : socket_id < cfg.s_simCount)
    (hfirst : cfg.firstChannel socket_id ≤ c) (hlast : c < cfg.lastChannel socket_id) :
    getSocketIdByChannelID cfg c = socket_id := by
  unfold Config.firstChannel at hfirst
  unfold Config.lastChannel at hlast
  unfold getSocketIdByChannelID
  obtain hone | htwo := cfg.valid
  · rw [if_neg (by omega)]
    omega
  · rw [if_pos (by omega)] at hfirst hlast ⊢
    simp only [D_AT_CHANNEL_OFFSET, D_AT_CHANNEL_1, D_AT_URC2, D_AT_CHANNEL2_2] at hfirst hlast ⊢
    obtain rfl | rfl : socket_id = 0 ∨ socket_id = 1 := by omega
    · exact if_neg (by omega)
    · exact if_pos (by omega)

theorem Guarded.oneOwner (h : Guarded cfg s) : OneOwner cfg s := by
  refine ⟨h.exclusive, h.busy, fun t socket_id c ht => ?_⟩
  have hrange := h.range t
  rw [ht] at hrange
  exact getSocketIdByChannelID_of_range hrange.1 hrange.2.1 hrange.2.2

/-! ## Moves -/

theorem goto_threads (pc : Pc) (u : Nat) : (s.goto t pc).threads u = if u = t then pc else s.threads u :=
  Function.update_apply s.threads t pc u

/-- After a move of thread `t` a thread is where it was, or is `t` where it has got to. -/
theorem of_goto {P : Pc → Prop} (h : P ((s.goto t pc).threads u)) : u = t ∧ P pc ∨ u ≠ t ∧ P (s.threads u) := by
  rw [goto_threads] at h
  split at h
  · rename_i hut
    exact Or.inl ⟨hut, h⟩
  · rename_i hut
    exact Or.inr ⟨hut, h⟩

/-- A thread moves on while the channels change under it. -/
theorem guarded_move {m : State} (h : Guarded cfg s) (hthreads : m.threads = s.threads) (hrange : pc.InRange cfg)
    (hexclusive : ∀ c, pc.owns = some c → ∀ u, u ≠ t → (s.threads u).owns ≠ some c)
    (hbusy : ∀ u c, (u = t ∧ pc.owns = some c ∨ u ≠ t ∧ (s.threads u).owns = some c) →
      (m.s_channelInfo c).state = .CHANNEL_BUSY)
    (hmutex : ∀ u c, (u = t ∧ pc.locked = some c ∨ u ≠ t ∧ (s.threads u).locked = some c) →
      (m.s_channelInfo c).mutex = some u)
    (htakes : ∀ u socket_id c, (u = t ∧ pc = .takes socket_id c ∨ u ≠ t ∧ s.threads u = .takes socket_id c) →
      (m.s_channelInfo c).state = .CHANNEL_IDLE) :
    Guarded cfg (m.goto t pc) := by
  have hmoved : ∀ {P : Pc → Prop} {u}, P ((m.goto t pc).threads u) → u = t ∧ P pc ∨ u ≠ t ∧ P (s.threads u) := by
    intro P u hP
    rw [← hthreads]
    exact of_goto hP
  refine ⟨fun t₁ t₂ c h₁ h₂ => ?_, fun u c hu => ?_, fun u c hu => ?_, fun u socket_id c hu => ?_, fun u => ?_⟩
  · obtain ⟨rfl, hpc₁⟩ | ⟨hne₁, hpc₁⟩ := hmoved (P := fun pc => pc.owns = some c) h₁
    · obtain ⟨rfl, hpc₂⟩ | ⟨hne₂, hpc₂⟩ := hmoved (P := fun pc => pc.owns = some c) h₂
      · rfl
      · exact absurd hpc₂ (hexclusive c hpc₁ t₂ hne₂)
    · obtain ⟨rfl, hpc₂⟩ | ⟨hne₂, hpc₂⟩ := hmoved (P := fun pc => pc.owns = some c) h₂
      · exact absurd hpc₁ (hexclusive c hpc₂ t₁ hne₁)
      · exact h.exclusive t₁ t₂ c hpc₁ hpc₂
  · exact hbusy u c (hmoved (P := fun pc => pc.owns = some c) hu)
  · exact hmutex u c (hmoved (P := fun pc => pc.locked = some c) hu)
  · exact htakes u socket_id c (hmoved (P := (· = .takes socket_id c)) hu)
  · rw [goto_threads]
    split
    · exact hrange
    · rw [hthreads]
      exact h.range u

/-- A thread moves on and gets nothing new. -/
theorem guarded_goto (h : Guarded cfg s) (hrange : pc.InRange cfg)
    (howns : ∀ c, pc.owns = some c → (s.threads t).owns = some c)
    (hlocked : ∀ c, pc.locked = some c → (s.threads t).locked = some c)
    (htakes : ∀ socket_id c, pc = .takes socket_id c → (s.s_channelInfo c).state = .CHANNEL_IDLE) :
    Guarded cfg (s.goto t pc) := by
  refine guarded_move h rfl hrange (fun c hc u hu ho => ?_) (fun u c hu => ?_) (fun u c hu => ?_) (fun u socket_id c hu => ?_)
  · exact hu (h.exclusive u t c ho (howns c hc))
  · obtain ⟨rfl, hpc⟩ | ⟨-, hu⟩ := hu
    · exact h.busy u c (howns c hpc)
    · exact h.busy u c hu
  · obtain ⟨rfl, hpc⟩ | ⟨-, hu⟩ := hu
    · exact h.mutex u c (hlocked c hpc)
    · exact h.mutex u c hu
  · obtain ⟨rfl, hpc⟩ | ⟨-, hu⟩ := hu
    · exact htakes socket_id c hpc
    · exact h.takes u socket_id c hu

@[simp] theorem setMutex_state (d : Nat) (m : Option Nat) :
    ((s.setMutex c m).s_channelInfo d).state = (s.s_channelInfo d).state := by
  simp only [State.setMutex, State.setInfo, Function.update_apply]
  split
  · rename_i hd
    rw [hd]
  · rfl

theorem setMutex_mutex (d : Nat) (m : Option Nat) :
    ((s.setMutex c m).s_channelInfo d).mutex = if d = c then m else (s.s_channelInfo d).mutex := by
  simp only [State.setMutex, State.setInfo, Function.update_apply]
  split
  · rfl
  · rfl

@[simp] theorem setState_mutex (d : Nat) (state : ChannelState) :
    ((s.setState c state).s_channelInfo d).mutex = (s.s_channelInfo d).mutex := by
  simp only [State.setState, State.setInfo, Function.update_apply]
  split
  · rename_i hd
    rw [hd]
  · rfl

theorem setState_state (d : Nat) (state : ChannelState) :
    ((s.setState c state).s_channelInfo d).state = if d = c then state else (s.s_channelInfo d).state := by
  simp only [State.setState, State.setInfo, Function.update_apply]
  split
  · rfl
  · rfl

/-- Under the mutex, which nobody had. -/
theorem guarded_lock (h : Guarded cfg s) (hlock : s.lock t c pc = some s') (hrange : pc.InRange cfg)
    (howns : ∀ c, pc.owns = some c → (s.threads t).owns = some c) (hlocked : pc.locked = some c)
    (htakes : ∀ socket_id d, pc ≠ .takes socket_id d) : Guarded cfg s' := by
  obtain ⟨hfree, heq⟩ := Option.ite_none_right_eq_some.1 hlock
  obtain rfl := Option.some.inj heq
  refine guarded_move h rfl hrange (fun d hd u hu ho => ?_) (fun u d hu => ?_) (fun u d hu => ?_) (fun u socket_id d hu => ?_)
  · exact hu (h.exclusive u t d ho (howns d hd))
  · rw [setMutex_state]
    obtain ⟨rfl, hpc⟩ | ⟨-, hu⟩ := hu
    · exact h.busy u d (howns d hpc)
    · exact h.busy u d hu
  · rw [setMutex_mutex]
    obtain ⟨rfl, hpc⟩ | ⟨-, hu⟩ := hu
    · rw [hlocked] at hpc
      exact if_pos (Option.some.inj hpc).symm
    · have hmutex := h.mutex u d hu
      split
      · rename_i hd
        rw [hd, hfree] at hmutex
        cases hmutex
      · exact hmutex
  · rw [setMutex_state]
    obtain ⟨-, hpc⟩ | ⟨-, hu⟩ := hu
    · exact absurd hpc (htakes socket_id d)
    · exact h.takes u socket_id d hu

/-- The mutex is given back. -/
theorem guarded_unlock (h : Guarded cfg s) (hheld : (s.threads t).locked = some c) (hrange : pc.InRange cfg)
    (howns : ∀ c, pc.owns = some c → (s.threads t).owns = some c) (hlocked : pc.locked = none) :
    Guarded cfg (s.unlock t c pc) := by
  refine guarded_move h rfl hrange (fun d hd u hu ho => ?_) (fun u d hu => ?_) (fun u d hu => ?_) (fun u socket_id d hu => ?_)
  · exact hu (h.exclusive u t d ho (howns d hd))
  · rw [setMutex_state]
    obtain ⟨rfl, hpc⟩ | ⟨-, hu⟩ := hu
    · exact h.busy u d (howns d hpc)
    · exact h.busy u d hu
  · rw [setMutex_mutex]
    obtain ⟨-, hpc⟩ | ⟨hne, hu⟩ := hu
    · rw [hlocked] at hpc
      cases hpc
    · have hmutex := h.mutex u d hu
      split
      · rename_i hd
        subst hd
        exact absurd (Option.some.inj (hmutex.symm.trans (h.mutex t d hheld))) hne
      · exact hmutex
  · rw [setMutex_state]
    obtain ⟨-, hpc⟩ | ⟨-, hu⟩ := hu
    · rw [hpc] at hlocked
      cases hlocked
    · exact h.takes u socket_id d hu

/-- An idle channel that a thread has under its mutex gets an owner. -/
theorem guarded_take {socket_id : Nat} (h : Guarded cfg s) (ht : s.threads t = .takes socket_id c) :
    Guarded cfg ((s.setState c .CHANNEL_BUSY).goto t (.leaves socket_id c)) := by
  have hidle := h.takes t socket_id c ht
  have hmutex := h.mutex t c (by rw [ht]; rfl)
  have hfree : ∀ u, (s.threads u).owns ≠ some c := by
    intro u hu
    rw [h.busy u c hu] at hidle
    cases hidle
  have hrange := h.range t
  rw [ht] at hrange
  refine guarded_move h rfl hrange (fun d hd u hu => ?_) (fun u d hu => ?_) (fun u d hu => ?_) (fun u socket_id d hu => ?_)
  · obtain rfl := Option.some.inj hd
    exact hfree u
  · rw [setState_state]
    obtain ⟨-, hpc⟩ | ⟨-, hu⟩ := hu
    · exact if_pos (Option.some.inj hpc).symm
    · split
      · rfl
      · exact h.busy u d hu
  · rw [setState_mutex]
    obtain ⟨rfl, hpc⟩ | ⟨-, hu⟩ := hu
    · obtain rfl := Option.some.inj hpc
      exact hmutex
    · exact h.mutex u d hu
  · obtain ⟨-, hpc⟩ | ⟨hne, hu⟩ := hu
    · cases hpc
    · have hother := h.mutex u d (by rw [hu]; rfl)
      rw [setState_state]
      split
      · rename_i hd
        subst hd
        exact absurd (Option.some.inj (hother.symm.trans hmutex)) hne
      · exact h.takes u socket_id d hu

/-- The owner of a channel gives it up. -/
theorem guarded_put (h : Guarded cfg s) (ht : s.threads t = .putStores c) :
    Guarded cfg ((s.setState c .CHANNEL_IDLE).goto t (.putUnlocks c)) := by
  have howns : (s.threads t).owns = some c := by
    rw [ht]
    rfl
  refine guarded_move h rfl trivial (fun d hd => ?_) (fun u d hu => ?_) (fun u d hu => ?_) (fun u socket_id d hu => ?_)
  · cases hd
  · obtain ⟨-, hpc⟩ | ⟨hne, hu⟩ := hu
    · cases hpc
    · rw [setState_state]
      split
      · rename_i hd
        subst hd
        exact absurd (h.exclusive u t d hu howns) hne
      · exact h.busy u d hu
  · rw [setState_mutex]
    obtain ⟨rfl, hpc⟩ | ⟨-, hu⟩ := hu
    · obtain rfl := Option.some.inj hpc
      exact h.mutex u c (by rw [ht]; rfl)
    · exact h.mutex u d hu
  · obtain ⟨-, hpc⟩ | ⟨-, hu⟩ := hu
    · cases hpc
    · rw [setState_state]
      split
      · rfl
      · exact h.takes u socket_id d hu

/-! ## Steps -/

/-- Each step of getChannel and putChannel keeps the invariant. -/
theorem guarded_advance (h : Guarded cfg s) (hstep : advance cfg s t (s.threads t) = some s') : Guarded cfg s' := by
  have hrange := h.range t
  cases hpc : s.threads t with
  | idle =>
    rw [hpc] at hstep
    cases hstep
  | waits socket_id =>
    rw [hpc] at hstep hrange
    simp only [advance] at hstep
    split at hstep
    · cases hstep
      exact guarded_goto h ⟨hrange, Nat.le_refl _⟩ (fun c hc => by cases hc) (fun c hc => by cases hc) fun _ _ heq => by cases heq
    · cases hstep
      exact h
  | locks socket_id channelID =>
    rw [hpc] at hstep hrange
    simp only [advance] at hstep
    split at hstep
    · rename_i hlast
      exact guarded_lock h hstep ⟨hrange.1, hrange.2, hlast⟩ (fun c hc => by cases hc) rfl fun _ _ heq => by cases heq
    · cases hstep
      exact guarded_goto h hrange.1 (fun c hc => by cases hc) (fun c hc => by cases hc) fun _ _ heq => by cases heq
  | tests socket_id channelID =>
    have hlocked : (s.threads t).locked = some channelID := by rw [hpc]; rfl
    rw [hpc] at hstep hrange
    simp only [advance] at hstep
    split at hstep
    · rename_i hidle
      cases hstep
      refine guarded_goto h hrange (fun c hc => by cases hc) (fun c hc => hlocked.trans hc) fun _ c heq => ?_
      cases heq
      exact hidle
    · cases hstep
      exact guarded_goto h hrange (fun c hc => by cases hc) (fun c hc => hlocked.trans hc) fun _ _ heq => by cases heq
  | takes socket_id channelID =>
    rw [hpc] at hstep
    cases hstep
    exact guarded_take h hpc
  | leaves socket_id channelID =>
    have hlocked : (s.threads t).locked = some channelID := by rw [hpc]; rfl
    have howns : (s.threads t).owns = some channelID := by rw [hpc]; rfl
    rw [hpc] at hstep hrange
    cases hstep
    exact guarded_unlock h hlocked hrange (fun c hc => howns.trans hc) rfl
  | skips socket_id channelID =>
    have hlocked : (s.threads t).locked = some channelID := by rw [hpc]; rfl
    rw [hpc] at hstep hrange
    cases hstep
    exact guarded_unlock h hlocked ⟨hrange.1, Nat.le_succ_of_le hrange.2.1⟩ (fun c hc => by cases hc) rfl
  | holds socket_id channelID =>
    rw [hpc] at hstep
    cases hstep
  | putLocks channelID =>
    have howns : (s.threads t).owns = some channelID := by rw [hpc]; rfl
    rw [hpc] at hstep
    exact guarded_lock h hstep trivial (fun c hc => howns.trans hc) rfl fun _ _ heq => by cases heq
  | putTests channelID =>
    have hlocked : (s.threads t).locked = some channelID := by rw [hpc]; rfl
    have howns : (s.threads t).owns = some channelID := by rw [hpc]; rfl
    rw [hpc] at hstep
    simp only [advance] at hstep
    split at hstep
    · cases hstep
      exact guarded_goto h trivial (fun c hc => by cases hc) (fun c hc => hlocked.trans hc) fun _ _ heq => by cases heq
    · cases hstep
      exact guarded_goto h trivial (fun c hc => howns.trans hc) (fun c hc => hlocked.trans hc) fun _ _ heq => by cases heq
  | putStores channelID =>
    rw [hpc] at hstep
    cases hstep
    exact guarded_put h hpc
  | putUnlocks channelID =>
    have hlocked : (s.threads t).locked = some channelID := by rw [hpc]; rfl
    rw [hpc] at hstep
    cases hstep
    exact guarded_unlock h hlocked trivial (fun c hc => by cases hc) rfl

/-- setChannelInfo on a channel that nobody has. -/
theorem guarded_setChannelInfo {fd : Int} (h : Guarded cfg s) (hfree : ∀ t, (s.threads t).owns ≠ some c) :
    Guarded cfg (setChannelInfo fd c s) := by
  refine ⟨h.exclusive, fun t d ht => ?_, fun t d ht => ?_, fun t socket_id d ht => ?_, h.range⟩
  · have hne : d ≠ c := fun heq => hfree t (heq ▸ ht)
    simpa [setChannelInfo, State.setInfo, Function.update_of_ne hne] using h.busy t d ht
  · have hmutex := h.mutex t d ht
    by_cases hd : d = c
    · subst hd
      simpa [setChannelInfo, State.setInfo] using hmutex
    · simpa [setChannelInfo, State.setInfo, Function.update_of_ne hd] using hmutex
  · have hidle := h.takes t socket_id d ht
    by_cases hd : d = c
    · subst hd
      simp [setChannelInfo, State.setInfo]
    · simpa [setChannelInfo, State.setInfo, Function.update_of_ne hd] using hidle

/-- The mainLoop threads move on. -/
theorem Guarded.gotoMain (h : Guarded cfg s) (socket_id : Nat) (pc : MainPc) : Guarded cfg (s.gotoMain socket_id pc) :=
  ⟨h.exclusive, h.busy, h.mutex, h.takes, h.range⟩

theorem Guarded.setChannelOpened (h : Guarded cfg s) (socket_id : Nat) : Guarded cfg (setChannelOpened socket_id s) :=
  ⟨h.exclusive, h.busy, h.mutex, h.takes, h.range⟩

/-- **A step that opens no owned channel keeps the invariant.** -/
theorem guarded_step (s : State) (a : Label) (s' : State) (h : Guarded cfg s) (hopens : OpensUnowned cfg s a)
    (hstep : step cfg s a = some s') : Guarded cfg s' := by
  unfold step at hstep
  cases a with
  | getChannel t socket_id =>
    dsimp only at hstep
    split at hstep
    · split at hstep
      · cases hstep
        exact h
      · rename_i hvalid
        cases hstep
        exact guarded_goto h (Nat.lt_of_not_le hvalid) (fun c hc => by cases hc) (fun c hc => by cases hc)
          fun _ _ heq => by cases heq
    · cases hstep
  | putChannel t =>
    dsimp only at hstep
    split at hstep
    · rename_i socket_id channelID hpc
      have howns : (s.threads t).owns = some channelID := by rw [hpc]; rfl
      split at hstep
      · cases hstep
        exact guarded_goto h trivial (fun c hc => by cases hc) (fun c hc => by cases hc) fun _ _ heq => by cases heq
      · cases hstep
        exact guarded_goto h trivial (fun c hc => howns.trans hc) (fun c hc => by cases hc) fun _ _ heq => by cases heq
    · cases hstep
  | thread t => exact guarded_advance h hstep
  | opened socket_id fd =>
    dsimp only at hstep
    split at hstep
    · rename_i channelID hmain
      obtain ⟨hlast, heq⟩ := Option.ite_none_right_eq_some.1 hstep
      cases heq
      exact (guarded_setChannelInfo h (hopens channelID hmain hlast)).gotoMain _ _
    · cases hstep
  | openFails socket_id =>
    dsimp only at hstep
    split at hstep
    · obtain ⟨-, heq⟩ := Option.ite_none_right_eq_some.1 hstep
      cases heq
      exact h.gotoMain _ _
    · cases hstep
  | atOpenFails socket_id fd =>
    dsimp only at hstep
    split at hstep
    · rename_i channelID hmain
      obtain ⟨hlast, heq⟩ := Option.ite_none_right_eq_some.1 hstep
      cases heq
      exact (guarded_setChannelInfo h (hopens channelID hmain hlast)).gotoMain _ _
    · cases hstep
  | channelsOpened socket_id =>
    dsimp only at hstep
    split at hstep
    · obtain ⟨-, heq⟩ := Option.ite_none_left_eq_some.1 hstep
      cases heq
      exact (h.setChannelOpened socket_id).gotoMain _ _
    · cases hstep
  | closed socket_id =>
    dsimp only at hstep
    split at hstep
    · cases hstep
      exact h.gotoMain _ _
    · cases hstep

/-- An owned channel that is opened is idle at once. -/
theorem oneOwner_broken {fd : Int} (ht : (s.threads t).owns = some c) (hthreads : s'.threads = s.threads)
    (hinfo : s'.s_channelInfo = (setChannelInfo fd c s).s_channelInfo) : ¬ OneOwner cfg s' := by
  intro h
  have hbusy := h.busy t c (by rw [hthreads, ht])
  rw [hinfo] at hbusy
  simp [setChannelInfo, State.setInfo] at hbusy

theorem step_breaks (s : State) (a : Label) (hopens : ¬ OpensUnowned cfg s a) :
    ∃ s', step cfg s a = some s' ∧ ¬ OneOwner cfg s' := by
  cases a with
  | opened socket_id fd =>
    simp only [OpensUnowned, not_forall, not_not] at hopens
    obtain ⟨c, hmain, hlast, t, ht⟩ := hopens
    refine ⟨(setChannelInfo fd c s).gotoMain socket_id (.opens (c + 1)), ?_, oneOwner_broken ht rfl rfl⟩
    simp only [step, hmain, if_pos hlast]
  | atOpenFails socket_id fd =>
    simp only [OpensUnowned, not_forall, not_not] at hopens
    obtain ⟨c, hmain, hlast, t, ht⟩ := hopens
    refine ⟨(setChannelInfo fd c s).gotoMain socket_id .ended, ?_, oneOwner_broken ht rfl rfl⟩
    simp only [step, hmain, if_pos hlast]
  | getChannel t socket_id => exact absurd trivial hopens
  | putChannel t => exact absurd trivial hopens
  | thread t => exact absurd trivial hopens
  | openFails socket_id => exact absurd trivial hopens
  | channelsOpened socket_id => exact absurd trivial hopens
  | closed socket_id => exact absurd trivial hopens

theorem guarded_start (cfg : Config) : Guarded cfg (State.start cfg) := by
  refine ⟨fun t u c ht => ?_, fun t c ht => ?_, fun t c ht => ?_, fun t socket_id c ht => ?_, fun t => trivial⟩
  · cases ht
  · cases ht
  · cases ht
  · cases ht

/-- **In every run an AT channel has one owner at a time, is busy while it has one, and belongs to the SIM it
was got for, exactly if mainLoop opens no channel that a thread has.** -/
theorem oneOwner_iff_opensUnowned (cfg : Config) (labels : List Label) :
    Always (step cfg) (OneOwner cfg) (State.start cfg) labels ↔ Steps (step cfg) (OpensUnowned cfg) (State.start cfg) labels :=
  always_iff_steps_of_invariant guarded_step (fun _ h => h.oneOwner) (fun s a _ => step_breaks s a) (guarded_start cfg) labels

def twoSims : Config where
  s_simCount := 2
  valid := Or.inr rfl

/-- SIM 1 opens its channels, thread 0 gets channel 1, the modem restarts, and thread 1 gets channel 1 too. -/
def restartWhileHeld : List Label :=
  [.opened 0 5, .opened 0 6, .opened 0 7, .channelsOpened 0] ++
    (.getChannel 0 0 :: List.replicate 5 (.thread 0)) ++ [.closed 0, .opened 0 5, .opened 0 6] ++
      (.getChannel 1 0 :: List.replicate 5 (.thread 1))

theorem oneOwner_fails_restartWhileHeld :
    ∃ s, run (step twoSims) (State.start twoSims) restartWhileHeld = some s ∧ s.threads 0 = .holds 0 1 ∧
      s.threads 1 = .holds 0 1 ∧ ¬ OneOwner twoSims s := by
  have hend : (run (step twoSims) (State.start twoSims) restartWhileHeld).any
      (fun s => s.threads 0 = .holds 0 1 && s.threads 1 = .holds 0 1) = true := by
    decide
  obtain ⟨s, hrun, hs⟩ := (Option.any_eq_true _ _).1 hend
  simp only [Bool.and_eq_true, decide_eq_true_eq] at hs
  obtain ⟨hfirst, hsecond⟩ := hs
  refine ⟨s, hrun, hfirst, hsecond, fun h => ?_⟩
  have hsame := h.exclusive 0 1 1 (by rw [hfirst]; rfl) (by rw [hsecond]; rfl)
  cases hsame

end UniRil.RequestThreads.Channels
