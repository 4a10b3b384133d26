import UniRil.Network.Outcome
import UniRil.Network.Settled

/-!
# Requests one at a time

A round is one request from the moment it comes until nothing of it is left. The course of the request
goes along with the machine.
-/

namespace UniRil.Network

open Programs Runs
open Data (RIL_SOCKET_ID)

/-! ## Rounds -/

structure Round where
  socket_id : RIL_SOCKET_ID
  token : RIL_Token
  request : Request
  moves : List Label
  /-- No other request comes. -/
  alone : ∀ a ∈ moves, a.requested = none

def Round.labels (r : Round) : List Label := .request r.socket_id r.token r.request :: r.moves

/-- The log is that of one round. -/
def State.begin (s : State) : State := { s with log := [] }

/-- A round from its request until all is over. -/
def serve (cfg : Config) (s : State) (r : Round) : Option State :=
  (run (step cfg) s.begin r.labels).bind fun s' => if s'.over r.labels = true then some s' else none

/-- A round that failed has changed nothing, and the property still tells the work modes. -/
def Unharmed (cfg : Config) (s : State) (r : Round) : Prop :=
  ∀ s', serve cfg s r = some s' →
    (s'.failed r.token = true → s'.globals.core = s.globals.core) ∧ (s.globals.core.Told → s'.globals.core.Told)

/-- All steps of the round are timely. -/
def TimelyRound (cfg : Config) (s : State) (r : Round) : Prop :=
  ∀ s', serve cfg s r = some s' → Steps (step cfg) (Timely cfg) s.begin r.labels

/-! ## Contracts and rounds -/

section Contracts

variable {cfg : Config} {t : RIL_Token} {s s' : State} {G : Type} {C : Contract Act Act.Reply G} {Q : G → Unit → Prop}
  {R : State → G → Prop} {g : G} {m : NetProg Unit}

theorem threads_surroundings {a : Label} (hrequest : a.requested = none) (hthread : ∀ u env, a ≠ .thread u env)
    (hstep : step cfg s a = some s') : s'.threads = s.threads := by
  cases a with
  | request socket_id u r => cases hrequest
  | thread u env => exact absurd rfl (hthread u env)
  | urc socket_id status =>
    cases hfind : s.s_timerList.find? (·.socket_id = socket_id) with
    | none =>
      simp only [step, hfind] at hstep
      cases hstep
      rfl
    | some e =>
      simp only [step, hfind] at hstep
      cases hstep
      exact threads_dispatch _ _ _
  | expire =>
    cases hlist : s.s_timerList with
    | nil => simp only [step, hlist, reduceCtorEq] at hstep
    | cons e rest =>
      simp only [step, hlist] at hstep
      cases hstep
      rfl
  | fire =>
    cases hlist : s.s_pendingList with
    | nil => simp only [step, hlist, reduceCtorEq] at hstep
    | cons e rest =>
      simp only [step, hlist] at hstep
      cases hstep
      rfl

/-- No thread but that of request `t` can move. -/
def Alone (t : RIL_Token) (s : State) : Prop := ∀ u, u ≠ t → ∀ p, s.threads u = some p → p = .ret ()

/-- A relation between states and what a contract speaks of that every action of request `t` and everything
beside it keeps is kept by the moves of a round. -/
theorem run_follows {moves : List Label} (hthreads : ∀ {s g f}, R s g → R { s with threads := f } g)
    (hexec : ∀ {s g env a r s'}, R s g → C.pre g a → execute t env s a = some (r, s') → ∃ g', C.post g a r g' ∧ R s' g')
    (hbeside : ∀ {s g a s'}, R s g → a.requested = none → (∀ u env, a ≠ .thread u env) → step cfg s a = some s' →
      ∃ g', C.rely g g' ∧ R s' g')
    (hR : R s g) (halone : Alone t s) (hm : s.threads t = some m) (hfollows : Follows C Q g m)
    (hmoves : ∀ a ∈ moves, a.requested = none) (hrun : run (step cfg) s moves = some s') :
    ∃ g' m', R s' g' ∧ Alone t s' ∧ s'.threads t = some m' ∧ Follows C Q g' m' := by
  induction moves generalizing s g m with
  | nil =>
    obtain rfl : s = s' := by simpa [run] using hrun
    exact ⟨g, m, hR, halone, hm, hfollows⟩
  | cons a moves ih =>
    obtain ⟨s₁, hstep, hrun⟩ := run_cons_some.1 hrun
    have hrest : ∀ b ∈ moves, b.requested = none := fun b hb => hmoves b (List.mem_cons_of_mem a hb)
    have hrequest := hmoves a List.mem_cons_self
    by_cases hthread : ∃ u env, a = .thread u env
    · obtain ⟨u, env, rfl⟩ := hthread
      cases hprog : s.threads u with
      | none => simp only [step, hprog, reduceCtorEq] at hstep
      | some p =>
        cases p with
        | ret value => simp only [step, hprog, reduceCtorEq] at hstep
        | act a rest =>
          simp only [step, hprog, Option.map_eq_some_iff] at hstep
          obtain ⟨⟨r, s₂⟩, hexecute, rfl⟩ := hstep
          obtain rfl : u = t := by
            refine by_contra fun hut => ?_
            cases halone u hut _ hprog
          obtain rfl := Option.some.inj (hprog.symm.trans hm)
          obtain ⟨hpre, hpost⟩ := hfollows.next
          obtain ⟨g', hg', hR'⟩ := hexec hR hpre hexecute
          refine ih (hthreads hR') (fun v hv p hp => ?_) (Function.update_self _ _ _) (hpost r g' hg') hrest hrun
          have hbefore : s₂.threads v = some p := (Function.update_of_ne hv _ _).symm.trans hp
          rw [execute_threads hexecute] at hbefore
          exact halone v hv p hbefore
    · have hnot : ∀ u env, a ≠ .thread u env := fun u env heq => hthread ⟨u, env, heq⟩
      have hsame := threads_surroundings hrequest hnot hstep
      obtain ⟨g', hrely, hR'⟩ := hbeside hR hrequest hnot hstep
      refine ih hR' (fun v hv p hp => halone v hv p (hsame ▸ hp)) ?_ (hfollows.stable hrely) hrest hrun
      rw [hsame]
      exact hm

/-- The same for a whole round. -/
theorem serve_follows {r : Round} (hquiet : s.Quiet) (hserve : serve cfg s r = some s')
    (hthreads : ∀ {s g f}, R s g → R { s with threads := f } g)
    (hexec : ∀ {s g env a x s'}, R s g → C.pre g a → execute r.token env s a = some (x, s') → ∃ g', C.post g a x g' ∧ R s' g')
    (hbeside : ∀ {s g a s'}, R s g → a.requested = none → (∀ u env, a ≠ .thread u env) → step cfg s a = some s' →
      ∃ g', C.rely g g' ∧ R s' g')
    (hR : R s.begin g) (hfollows : Follows C Q g (processNetworkRequests cfg r.socket_id r.token r.request)) :
    ∃ g', R s' g' ∧ Q g' () := by
  obtain ⟨s₁, hrun, hif⟩ := Option.bind_eq_some_iff.1 hserve
  rw [Option.ite_none_right_eq_some] at hif
  obtain ⟨hover, heq⟩ := hif
  obtain rfl := Option.some.inj heq
  obtain ⟨s₂, hrequest, hmoves⟩ := run_cons_some.1 hrun
  cases hprog : s.begin.threads r.token with
  | some p => simp only [step, hprog, reduceCtorEq] at hrequest
  | none =>
    simp only [step, hprog] at hrequest
    cases hrequest
    obtain ⟨g', m, hR', -, hm, hfollows'⟩ := run_follows hthreads hexec hbeside (hthreads hR)
      (fun u hu p hp => hquiet.threads u p ((Function.update_of_ne hu _ _).symm.trans hp)) (Function.update_self _ _ _)
      hfollows r.alone hmoves
    refine ⟨g', hR', ?_⟩
    simp only [State.over, Bool.and_eq_true, List.all_eq_true] at hover
    have hfinished := hover.2 r.token (by simp [Round.labels, Label.requested])
    rw [hm] at hfinished
    cases m with
    | act a rest => cases hfinished
    | ret value => exact hfollows'.result

end Contracts

/-! ## The state and the course -/

/-- What the state shows of the course of request `t`. -/
structure Shows (t : RIL_Token) (s : State) (g : Course) : Prop where
  core : s.globals.core = g.core
  switching : s.switching t = g.switching
  taken : s.taken t = g.taken
  failed : (s.failed t || s.expired t) = g.failed
  retries : s.retries t = g.retries
  timer : if g.entry = true then ∃ e, s.s_timerList = [e] ∧ e.token = t else s.s_timerList = []
  pending : ∀ e ∈ s.s_pendingList, e.token = t

structure Tracks (cfg : Config) (c₀ : Core) (t : RIL_Token) (s : State) (g : Course) : Prop where
  shows : Shows t s g
  idle : ∀ u, u ≠ t → ∀ p, s.threads u = some p → p = .ret ()
  follows : ∃ m, s.threads t = some m ∧ Follows (course cfg.s_isLTE t) (fun g _ => Ended c₀ g) g m

variable {cfg : Config} {c₀ : Core} {t : RIL_Token} {s s' : State} {g g' : Course} {env : Env}

@[simp] theorem switching_record (e : Event) : (s.record e).switching t = (s.switching t || e.calls t) := by
  simp [State.switching, State.record]

@[simp] theorem taken_record (e : Event) : (s.record e).taken t = (s.taken t || e.taken t) := by
  simp [State.taken, State.record]

@[simp] theorem failed_record (e : Event) : (s.record e).failed t = (s.failed t || e.fails t) := by
  simp [State.failed, State.record]

@[simp] theorem retries_record (e : Event) :
    (s.record e).retries t = s.retries t + if e.retried t = true then 1 else 0 := by
  simp [State.retries, State.record, List.countP_append, List.countP_singleton]

@[simp] theorem expired_record (e : Event) : (s.record e).expired t = s.expired t := rfl

/-- An event that the course does not see. -/
def Event.still (t : RIL_Token) (e : Event) : Prop :=
  e.calls t = false ∧ e.taken t = false ∧ e.fails t = false ∧ e.retried t = false

theorem Shows.record {e : Event} (h : Shows t s g) (he : e.still t) : Shows t (s.record e) g := by
  obtain ⟨hcalls, htaken, hfails, hretried⟩ := he
  refine ⟨h.core, ?_, ?_, ?_, ?_, h.timer, h.pending⟩
  · rw [switching_record, hcalls, Bool.or_false, h.switching]
  · rw [taken_record, htaken, Bool.or_false, h.taken]
  · rw [failed_record, hfails, Bool.or_false, expired_record, h.failed]
  · rw [retries_record, hretried, if_neg (by decide), Nat.add_zero, h.retries]

/-- The globals, the lists and the log are as before. -/
theorem Shows.same (h : Shows t s g) (hcore : s'.globals.core = s.globals.core) (hlog : s'.log = s.log)
    (htimer : s'.s_timerList = s.s_timerList) (hpending : s'.s_pendingList = s.s_pendingList) : Shows t s' g := by
  refine ⟨hcore.trans h.core, ?_, ?_, ?_, ?_, ?_, ?_⟩
  · rw [State.switching, hlog]
    exact h.switching
  · rw [State.taken, hlog]
    exact h.taken
  · rw [State.failed, State.expired, hlog, hpending]
    exact h.failed
  · rw [State.retries, hlog]
    exact h.retries
  · rw [htimer]
    exact h.timer
  · rw [hpending]
    exact h.pending

theorem Shows.complete {e : RIL_Errno} {response : Option RIL_RadioCapability} (h : Shows t s g) :
    Shows t (s.record (.RIL_onRequestComplete t e response)) { g with failed := g.failed || e ≠ .RIL_E_SUCCESS } := by
  refine ⟨h.core, ?_, ?_, ?_, ?_, h.timer, h.pending⟩
  · simp [Event.calls, h.switching]
  · simp [Event.taken, h.taken]
  · rw [failed_record, expired_record, Bool.or_right_comm, h.failed]
    simp [Event.fails]
  · simp [Event.retried, h.retries]

/-- What makes an action late. -/
def Course.spoiledBy (lte : Bool) (g : Course) (env : Env) : Act → Bool
  | .ask _ _ => spoils lte g.switching g.failed g.retries env.answer
  | _ => false

/-- **The course goes along with an action of the request.** -/
theorem shows_execute {lte : Bool} {a : Act} {r : a.Reply} (h : Shows t s g) (hallows : g.allows t a)
    (hexec : execute t env s a = some (r, s')) :
    ∃ g', Course.After lte g a r g' ∧ Shows t s' g' ∧ g'.late = (g.late || g.spoiledBy lte env a) := by
  cases a with
  | get =>
    cases hexec
    exact ⟨g, ⟨h.core, rfl⟩, h, by simp [Course.spoiledBy]⟩
  | modify f =>
    cases hexec
    refine ⟨{ g with core := (f s.globals).core }, ⟨s.globals, h.core, rfl⟩, ?_, by simp [Course.spoiledBy]⟩
    exact ⟨rfl, h.switching, h.taken, h.failed, h.retries, h.timer, h.pending⟩
  | test q =>
    cases hexec
    exact ⟨g, rfl, h, by simp [Course.spoiledBy]⟩
  | lockRadioPower =>
    obtain ⟨-, heq⟩ := Option.ite_none_left_eq_some.1 hexec
    cases heq
    have hsame : Shows t { s with radioPower := true } g := h.same rfl rfl rfl rfl
    exact ⟨g, rfl, hsame.record ⟨rfl, rfl, rfl, rfl⟩, by simp [Course.spoiledBy]⟩
  | unlockRadioPower =>
    cases hexec
    have hsame : Shows t { s with radioPower := false } g := h.same rfl rfl rfl rfl
    exact ⟨g, rfl, hsame.record ⟨rfl, rfl, rfl, rfl⟩, by simp [Course.spoiledBy]⟩
  | lockWorkMode =>
    obtain ⟨-, heq⟩ := Option.ite_none_left_eq_some.1 hexec
    cases heq
    exact ⟨g, rfl, h.same rfl rfl rfl rfl, by simp [Course.spoiledBy]⟩
  | unlockWorkMode =>
    cases hexec
    exact ⟨g, rfl, h.same rfl rfl rfl rfl, by simp [Course.spoiledBy]⟩
  | send simId cmd =>
    cases hexec
    exact ⟨g, rfl, h.record ⟨rfl, rfl, rfl, rfl⟩, by simp [Course.spoiledBy]⟩
  | ask simId cmd =>
    cases hexec
    refine ⟨g.answered lte env.answer, rfl, ⟨h.core, ?_, ?_, ?_, ?_, h.timer, h.pending⟩, rfl⟩
    · simp [Event.calls, Course.answered, h.switching]
    · simp [Event.taken, Course.answered, h.taken]
    · simp [Event.fails, Course.answered, h.failed]
    · simp [Event.retried, Course.answered, h.retries]
  | addAsyncCmdList socket_id t' data =>
    cases hexec
    obtain ⟨rfl, hentry⟩ := hallows
    refine ⟨{ g with entry := true }, rfl, ⟨h.core, h.switching, h.taken, h.failed, h.retries, ?_, h.pending⟩,
      by simp [Course.spoiledBy]⟩
    have hnil := h.timer
    rw [if_neg (by simp [hentry])] at hnil
    rw [if_pos rfl]
    exact ⟨_, by rw [hnil]; rfl, rfl⟩
  | removeAsyncCmdList t' =>
    cases hexec
    obtain rfl : t' = t := hallows
    refine ⟨{ g with entry := false }, rfl, ⟨h.core, h.switching, h.taken, h.failed, h.retries, ?_, h.pending⟩,
      by simp [Course.spoiledBy]⟩
    have htimer := h.timer
    rw [if_neg (by simp)]
    split at htimer
    · obtain ⟨e, hlist, htoken⟩ := htimer
      simp [hlist, htoken]
    · rw [htimer]
      rfl
  | RIL_onRequestComplete t' e response =>
    cases hexec
    obtain rfl : t' = t := hallows
    exact ⟨{ g with failed := g.failed || e ≠ .RIL_E_SUCCESS }, rfl, h.complete, by simp [Course.spoiledBy]⟩
  | voiceNetworkStateChanged socket_id =>
    cases hexec
    exact ⟨g, rfl, h.record ⟨rfl, rfl, rfl, rfl⟩, by simp [Course.spoiledBy]⟩
  | unsolRadioCapability socket_id session =>
    cases hexec
    exact ⟨g, rfl, h.record ⟨rfl, rfl, rfl, rfl⟩, by simp [Course.spoiledBy]⟩
  | callApply b =>
    cases hexec
    refine ⟨{ g with switching := true }, rfl, ⟨h.core, ?_, ?_, ?_, ?_, h.timer, h.pending⟩,
      by simp [Course.spoiledBy]⟩
    · simp [Event.calls]
    · simp [Event.taken, h.taken]
    · simp [Event.fails, h.failed]
    · simp [Event.retried, h.retries]

/-! ## The surroundings -/

theorem Shows.late (h : Shows t s g) (b : Bool) : Shows t s { g with late := b } :=
  ⟨h.core, h.switching, h.taken, h.failed, h.retries, h.timer, h.pending⟩

theorem Shows.pay {e : RIL_Errno} {response : Option RIL_RadioCapability} (h : Shows t s g) :
    Shows t (s.pay t e response) { g with failed := g.failed || e ≠ .RIL_E_SUCCESS } := by
  have hunlocked : Shows t { s with radioPower := false } g := h.same rfl rfl rfl rfl
  have hrecorded : Shows t ({ s with radioPower := false }.record (.unlockRadioPower t)) g :=
    hunlocked.record ⟨rfl, rfl, rfl, rfl⟩
  exact hrecorded.complete

theorem Shows.unsol (h : Shows t s g) : Shows t s.unsolRadioCapability g := by
  refine ⟨h.core, ?_, ?_, ?_, ?_, h.timer, h.pending⟩
  · simpa [State.switching, State.unsolRadioCapability, Event.calls] using h.switching
  · simpa [State.taken, State.unsolRadioCapability, Event.taken] using h.taken
  · simpa [State.failed, State.expired, State.unsolRadioCapability, Event.fails] using h.failed
  · simpa [State.retries, State.unsolRadioCapability, Event.retried] using h.retries

/-- An entry that is found is that of the request. -/
theorem Shows.entry_of_mem (h : Shows t s g) {e : Entry} (he : e ∈ s.s_timerList) :
    g.entry = true ∧ s.s_timerList = [e] ∧ e.token = t := by
  have htimer := h.timer
  split at htimer
  · rename_i hentry
    obtain ⟨e', hlist, htoken⟩ := htimer
    rw [hlist, List.mem_singleton] at he
    subst he
    exact ⟨hentry, hlist, htoken⟩
  · rw [htimer] at he
    cases he

theorem Shows.takeOut (h : Shows t s g) : Shows t { s with s_timerList := [] } { g with entry := false } :=
  ⟨h.core, h.switching, h.taken, h.failed, h.retries, rfl, h.pending⟩

/-- What an answer to the entry leaves of the course. -/
def Course.paid (g : Course) (status : Int) : Course :=
  { g with
    entry := false
    failed := g.failed || answerTo status ≠ .RIL_E_SUCCESS
    late := g.late || status ≠ 1 && (g.switching || g.taken) }

theorem meanwhile_paid (hentry : g.entry = true) (status : Int) : Course.Meanwhile g (g.paid status) := by
  by_cases hstatus : status = 1
  · have heq : g.paid status = { g with entry := false } := by simp [Course.paid, answerTo, hstatus]
    rw [heq]
    exact .succeeds g hentry
  · have heq : g.paid status =
        { g with entry := false, failed := true, late := g.late || (g.switching || g.taken) } := by
      simp [Course.paid, answerTo, hstatus]
    rw [heq]
    exact .fails g hentry

theorem Shows.dispatch (h : Shows t s g) (data : Option RIL_RadioCapability) (status : Int) :
    Shows t (dispatchSPTESTMODE t data status s) { g with failed := g.failed || answerTo status ≠ .RIL_E_SUCCESS } := by
  obtain heq | heq := @dispatchSPTESTMODE_pays t data status s
  · rw [heq]
    exact h.pay
  · rw [heq]
    exact h.pay.unsol

/-- **The course goes along with what the surroundings do.** -/
theorem shows_surroundings {a : Label} (h : Shows t s g) (hrequest : a.requested = none)
    (hthread : ∀ u env, a ≠ .thread u env) (hstep : step cfg s a = some s') :
    ∃ g', Course.Meanwhile g g' ∧ Shows t s' g' ∧ (g'.late = true ↔ g.late = true ∨ ¬ Timely cfg s a) := by
  cases a with
  | request socket_id u r => cases hrequest
  | thread u env => exact absurd rfl (hthread u env)
  | urc socket_id status =>
    cases hfind : s.s_timerList.find? (·.socket_id = socket_id) with
    | none =>
      simp only [step, hfind] at hstep
      cases hstep
      exact ⟨g, .nothing g, h, by simp [Timely, hfind]⟩
    | some e =>
      simp only [step, hfind] at hstep
      cases hstep
      obtain ⟨hentry, hlist, rfl⟩ := h.entry_of_mem (List.mem_of_find?_eq_some hfind)
      have hsocket := @List.find?_some _ (fun e : Entry => decide (e.socket_id = socket_id)) _ _ hfind
      have hout : { s with s_timerList := s.s_timerList.eraseP (·.socket_id = socket_id) } = { s with s_timerList := [] } := by
        simp [hlist, of_decide_eq_true hsocket]
      rw [hout]
      refine ⟨g.paid status, meanwhile_paid hentry status, (h.takeOut.dispatch e.data status).late _, ?_⟩
      cases hsw : g.switching with
      | true => simp [Timely, Course.paid, hfind, h.switching, hsw]
      | false => simp [Timely, Course.paid, hfind, h.switching, h.taken, hsw]
  | expire =>
    cases hlist : s.s_timerList with
    | nil => simp only [step, hlist, reduceCtorEq] at hstep
    | cons e rest =>
      simp only [step, hlist] at hstep
      cases hstep
      obtain ⟨hentry, hone, rfl⟩ := h.entry_of_mem (hlist ▸ List.mem_cons_self)
      obtain rfl : rest = [] := by simpa [hlist] using hone
      refine ⟨_, .fails g hentry, ⟨h.core, h.switching, h.taken, ?_, h.retries, rfl, ?_⟩, ?_⟩
      · simp [State.expired]
      · intro e' he'
        rw [List.mem_append, List.mem_singleton] at he'
        obtain hbefore | rfl := he'
        · exact h.pending e' hbefore
        · rfl
      · cases hsw : g.switching with
        | true => simp [Timely, hlist, h.switching, hsw]
        | false => simp [Timely, hlist, h.switching, h.taken, hsw]
  | fire =>
    cases hlist : s.s_pendingList with
    | nil => simp only [step, hlist, reduceCtorEq] at hstep
    | cons e rest =>
      simp only [step, hlist] at hstep
      cases hstep
      obtain rfl : e.token = t := h.pending e (hlist ▸ List.mem_cons_self)
      have hfailed : g.failed = true := by simpa [State.expired, hlist] using h.failed.symm
      refine ⟨g, .nothing g, ⟨h.core, ?_, ?_, ?_, ?_, h.timer, ?_⟩, by simp [Timely]⟩
      · rw [userTimerCallback, switching_record, switching_record]
        exact (Bool.or_false _).trans ((Bool.or_false _).trans h.switching)
      · rw [userTimerCallback, taken_record, taken_record]
        exact (Bool.or_false _).trans ((Bool.or_false _).trans h.taken)
      · simp [userTimerCallback, Event.fails, hfailed]
      · rw [userTimerCallback, retries_record, retries_record]
        exact h.retries
      · exact fun e' he' => h.pending e' (hlist ▸ List.mem_cons_of_mem e he')

theorem tracks_surroundings {a : Label} (h : Tracks cfg c₀ t s g) (hrequest : a.requested = none)
    (hthread : ∀ u env, a ≠ .thread u env) (hstep : step cfg s a = some s') :
    ∃ g', Tracks cfg c₀ t s' g' ∧ (g'.late = true ↔ g.late = true ∨ ¬ Timely cfg s a) := by
  obtain ⟨g', hmeanwhile, hshows, hlate⟩ := shows_surroundings h.shows hrequest hthread hstep
  obtain ⟨m, hm, hfollows⟩ := h.follows
  have hsame := threads_surroundings hrequest hthread hstep
  refine ⟨g', ⟨hshows, fun u hu p hp => h.idle u hu p (hsame ▸ hp), m, ?_, hfollows.stable hmeanwhile⟩, hlate⟩
  rw [hsame]
  exact hm

theorem timely_thread {a : Act} {rest : a.Reply → NetProg Unit} (h : Shows t s g)
    (hprog : s.threads t = some (.act a rest)) :
    Timely cfg s (.thread t env) ↔ g.spoiledBy cfg.s_isLTE env a = false := by
  cases a with
  | ask simId cmd =>
    simp only [Timely, hprog, Option.any_some, asks, true_implies, Course.spoiledBy, h.switching, h.failed, h.retries]
  | _ => simp [Timely, hprog, asks, Course.spoiledBy]

/-- **The course goes along with the machine, and is late once a step was not timely.** -/
theorem tracks_step {a : Label} (h : Tracks cfg c₀ t s g) (hrequest : a.requested = none)
    (hstep : step cfg s a = some s') :
    ∃ g', Tracks cfg c₀ t s' g' ∧ (g'.late = true ↔ g.late = true ∨ ¬ Timely cfg s a) := by
  by_cases hthread : ∃ u env, a = .thread u env
  · obtain ⟨u, env, rfl⟩ := hthread
    cases hprog : s.threads u with
    | none => simp only [step, hprog, reduceCtorEq] at hstep
    | some p =>
      cases p with
      | ret value => simp only [step, hprog, reduceCtorEq] at hstep
      | act a rest =>
        simp only [step, hprog, Option.map_eq_some_iff] at hstep
        obtain ⟨⟨r, m⟩, hexec, rfl⟩ := hstep
        obtain rfl : u = t := by
          refine by_contra fun hut => ?_
          cases h.idle u hut _ hprog
        obtain ⟨p, hp, hfollows⟩ := h.follows
        obtain rfl := Option.some.inj (hprog.symm.trans hp)
        obtain ⟨hallows, hrest⟩ := hfollows.next
        obtain ⟨g', hafter, hshows, hlate⟩ := shows_execute h.shows hallows hexec
        have hidle : ∀ v, v ≠ u → ∀ p, Function.update m.threads u (some (rest r)) v = some p → p = .ret () := by
          intro v hv p hp
          rw [Function.update_of_ne hv, execute_threads hexec] at hp
          exact h.idle v hv p hp
        refine ⟨g', ⟨hshows.same rfl rfl rfl rfl, hidle, rest r, Function.update_self _ _ _, hrest r g' hafter⟩, ?_⟩
        rw [hlate, Bool.or_eq_true, timely_thread h.shows hprog, Bool.not_eq_false]
  · exact tracks_surroundings h hrequest (fun u env heq => hthread ⟨u, env, heq⟩) hstep

theorem tracks_run {moves : List Label} (h : Tracks cfg c₀ t s g) (halone : ∀ a ∈ moves, a.requested = none)
    (hrun : run (step cfg) s moves = some s') :
    ∃ g', Tracks cfg c₀ t s' g' ∧ (g'.late = true ↔ g.late = true ∨ ¬ Steps (step cfg) (Timely cfg) s moves) := by
  induction moves generalizing s g with
  | nil =>
    obtain rfl : s = s' := by simpa [run] using hrun
    exact ⟨g, h, by simp [Steps]⟩
  | cons a moves ih =>
    obtain ⟨m, hm, hrun⟩ := run_cons_some.1 hrun
    obtain ⟨g', hg', hlate'⟩ := tracks_step h (halone a List.mem_cons_self) hm
    obtain ⟨g'', hg'', hlate''⟩ := ih hg' (fun b hb => halone b (List.mem_cons_of_mem a hb)) hrun
    refine ⟨g'', hg'', ?_⟩
    rw [hlate'', hlate', or_assoc, ← not_and_or]
    simp only [Steps, hm, Option.some.injEq, forall_eq']

/-! ## Rounds -/

/-- The course of a request that comes. -/
def Course.start (c₀ : Core) : Course where
  core := c₀
  switching := false
  taken := false
  failed := false
  retries := 0
  entry := false
  late := false

theorem calm_start (c₀ : Core) : Calm false true c₀ (.start c₀) := ⟨rfl, rfl, rfl, rfl, rfl, fun _ => ⟨rfl, rfl⟩⟩

theorem tracks_request {socket_id : RIL_SOCKET_ID} {r : Request} (hquiet : s.Quiet)
    (hstep : step cfg s.begin (.request socket_id t r) = some s') : Tracks cfg s.globals.core t s' (.start s.globals.core) := by
  cases hprog : s.begin.threads t with
  | some p => simp only [step, hprog, reduceCtorEq] at hstep
  | none =>
    simp only [step, hprog] at hstep
    cases hstep
    refine ⟨⟨rfl, rfl, rfl, ?_, rfl, hquiet.timerList, ?_⟩, fun u hu p hp => ?_, _, Function.update_self _ _ _, ?_⟩
    · simp [State.failed, State.expired, State.begin, hquiet.pendingList, Course.start]
    · intro e he
      simp [State.begin, hquiet.pendingList] at he
    · have hbefore : s.threads u = some p := (Function.update_of_ne hu _ _).symm.trans hp
      exact hquiet.threads u p hbefore
    · exact leads_processNetworkRequests cfg socket_id r _ (calm_start s.globals.core)

/-- When all is over, nothing is left of the request, and the course has ended. -/
theorem tracks_over (h : Tracks cfg c₀ t s g) (htimer : s.s_timerList = []) (hpending : s.s_pendingList = [])
    (hfinished : finished (s.threads t) = true) :
    s.Quiet ∧ (g.late = true ↔ s.globals.core ≠ c₀ ∧ s.failed t = true) ∧ (c₀.Told → s.globals.core.Told) := by
  obtain ⟨m, hm, hfollows⟩ := h.follows
  rw [hm] at hfinished
  cases m with
  | act a rest => cases hfinished
  | ret value =>
    obtain ⟨hlate, htold, -⟩ := hfollows.result
    refine ⟨⟨htimer, hpending, fun u p hp => ?_⟩, ?_, ?_⟩
    · by_cases hut : u = t
      · subst hut
        exact Option.some.inj (hp.symm.trans hm)
      · exact h.idle u hut p hp
    · have hfailed := h.shows.failed
      rw [State.expired, hpending, List.any_nil, Bool.or_false] at hfailed
      rw [hlate, h.shows.core, hfailed]
    · rw [h.shows.core]
      exact htold

/-- **What a round leaves.** -/
theorem serve_spec {r : Round} (hquiet : s.Quiet) (hserve : serve cfg s r = some s') :
    s'.Quiet ∧ (¬ Steps (step cfg) (Timely cfg) s.begin r.labels ↔
      s'.globals.core ≠ s.globals.core ∧ s'.failed r.token = true) ∧ (s.globals.core.Told → s'.globals.core.Told) := by
  obtain ⟨m, hrun, hif⟩ := Option.bind_eq_some_iff.1 hserve
  rw [Option.ite_none_right_eq_some] at hif
  obtain ⟨hover, heq⟩ := hif
  obtain rfl := Option.some.inj heq
  simp only [State.over, Bool.and_eq_true, List.isEmpty_iff, List.all_eq_true] at hover
  obtain ⟨⟨htimer, hpending⟩, hthreads⟩ := hover
  obtain ⟨m₁, hrequest, hmoves⟩ := run_cons_some.1 hrun
  obtain ⟨g, hg, hlate⟩ := tracks_run (tracks_request hquiet hrequest) r.alone hmoves
  obtain ⟨hquiet', hended, htold⟩ := tracks_over hg htimer hpending (hthreads r.token (by simp [Round.labels, Label.requested]))
  refine ⟨hquiet', ?_, htold⟩
  rw [← hended, hlate]
  simp [Round.labels, Steps, hrequest, Timely, Course.start]

theorem unharmed_iff {r : Round} (hquiet : s.Quiet) : Unharmed cfg s r ↔ TimelyRound cfg s r := by
  refine forall_congr' fun s' => forall_congr' fun hserve => ?_
  obtain ⟨-, hlate, htold⟩ := serve_spec hquiet hserve
  rw [and_iff_left htold]
  constructor
  · intro h
    refine by_contra fun hnot => ?_
    obtain ⟨hne, hfailed⟩ := hlate.1 hnot
    exact hne (h hfailed)
  · intro h hfailed
    refine by_contra fun hne => ?_
    exact hlate.2 ⟨hne, hfailed⟩ h

theorem quiet_start (g : Globals) : (State.start g).Quiet := ⟨rfl, rfl, fun t p hp => by cases hp⟩

/-- **In every sequence of requests, executed one at a time, a request that fails has changed nothing exactly
if no failure comes to a request that has changed data and no change to one that has failed.** -/
theorem unharmed_iff_timely (cfg : Config) (g : Globals) (rounds : List Round) :
    Steps (serve cfg) (Unharmed cfg) (State.start g) rounds ↔ Steps (serve cfg) (TimelyRound cfg) (State.start g) rounds := by
  refine steps_iff_steps (I := State.Quiet) (fun s r s' hquiet _ hserve => ?_) (fun s r hquiet => unharmed_iff hquiet)
    (quiet_start g) rounds
  exact (serve_spec hquiet hserve).1

def applyRc : RIL_RadioCapability where
  version := 1
  session := 1
  phase := RC_PHASE_APPLY
  rat := 65536
  logicalModemUuid := []
  status := 0

/-- SIM 1 applies first, and nothing is switched. -/
def firstApply : Round where
  socket_id := .RIL_SOCKET_1
  token := 7
  request := .RIL_REQUEST_SET_RADIO_CAPABILITY applyRc
  moves := List.replicate 4 (.thread 7 { query := fun _ => false, answer := .ok })
  alone a ha := by rw [List.eq_of_mem_replicate ha]; rfl

/-- Then SIM 2 applies, and AT+SPTESTMODE is answered with an error. -/
def refusedApply : Round where
  socket_id := .RIL_SOCKET_2
  token := 8
  request := .RIL_REQUEST_SET_RADIO_CAPABILITY applyRc
  moves := List.replicate 23 (.thread 8 { query := fun _ => false, answer := .error })
  alone a ha := by rw [List.eq_of_mem_replicate ha]; rfl

theorem unharmed_fails_refusedApply :
    ¬ Steps (serve alikeConfig) (Unharmed alikeConfig) (State.start { alikeGlobals with s_radioAccessFamily := fun _ => 65536 })
      [firstApply, refusedApply] := by
  have hend : ((serve alikeConfig (State.start { alikeGlobals with s_radioAccessFamily := fun _ => 65536 }) firstApply).any
      fun s => (serve alikeConfig s refusedApply).any fun s' =>
        s'.failed refusedApply.token && s'.globals.s_multiModeSim ≠ s.globals.s_multiModeSim) = true := by
    decide
  obtain ⟨s, hfirst, hs⟩ := (Option.any_eq_true _ _).1 hend
  obtain ⟨s', hsecond, hs'⟩ := (Option.any_eq_true _ _).1 hs
  rw [Bool.and_eq_true, decide_eq_true_eq] at hs'
  rintro ⟨-, hrest⟩
  have hsame := ((hrest s hfirst).1 s' hsecond).1 hs'.1
  exact hs'.2 (congrArg Core.s_multiModeSim hsame)

end UniRil.Network
