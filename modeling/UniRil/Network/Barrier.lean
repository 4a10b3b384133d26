import UniRil.Network.Serial

/-!
# The two SIMs meet before a switch

An APPLY is remembered in `s_requestSetRC` until a switch runs. What the flags are is told by the
requests that were sent before.
-/

namespace UniRil.Network

open Programs Runs
open Data (RIL_SOCKET_ID)

/-! ## Actions that leave the flags alone -/

/-- The action neither changes `s_requestSetRC`, nor runs a switch, nor refuses the request. -/
def Act.aside : Act → Prop
  | .modify f => ∀ g, (f g).s_requestSetRC = g.s_requestSetRC
  | .callApply _ => False
  | .RIL_onRequestComplete _ e _ => e ≠ .RIL_E_REQUEST_NOT_SUPPORTED
  | _ => True

abbrev Aside {α : Type} (m : NetProg α) : Prop := Takes Act.aside m

theorem aside_sendTestMode (socket_id : RIL_SOCKET_ID) (t : RIL_Token) (data : Option RIL_RadioCapability) (cmd : List Byte)
    (retries : Nat) : Aside (sendTestMode socket_id t data cmd retries) := by
  induction retries with
  | zero =>
    refine Takes.act trivial fun _ => Takes.act trivial fun (answer : Answer) => ?_
    split
    · exact Takes.pure true
    · exact Takes.act trivial fun _ => Takes.pure false
  | succ retries ih =>
    refine Takes.act trivial fun _ => Takes.act trivial fun (answer : Answer) => ?_
    split
    · exact Takes.pure true
    · split
      · exact Takes.act trivial fun _ => ih
      · exact Takes.act trivial fun _ => Takes.pure false

variable {t : RIL_Token} {e : RIL_Errno}

theorem aside_setLTEPreferredDone (he : e ≠ .RIL_E_REQUEST_NOT_SUPPORTED) : Aside (setLTEPreferredDone t e) :=
  Takes.act trivial fun _ => Takes.act he fun _ => Takes.pure (-1)

theorem aside_setLTEPreferredMode (socket_id : RIL_SOCKET_ID) (type workMode : Int) :
    Aside (setLTEPreferredMode socket_id t type workMode) := by
  unfold setLTEPreferredMode
  split
  · exact aside_setLTEPreferredDone (by decide)
  · refine Takes.act trivial fun g => Takes.bind (aside_sendTestMode _ _ _ _ 3) fun taken => ?_
    split
    · exact Takes.act (fun _ => rfl) fun _ => Takes.act (fun _ => rfl) fun _ => Takes.act trivial fun _ => Takes.pure 0
    · exact aside_setLTEPreferredDone (by decide)

theorem aside_setLTEPreferredType (cfg : Config) (socket_id : RIL_SOCKET_ID) (type : Int) :
    Aside (setLTEPreferredType cfg socket_id t type) := by
  unfold setLTEPreferredType
  split
  · exact aside_setLTEPreferredDone (by decide)
  · refine Takes.act trivial fun g => ?_
    dsimp only
    split
    · split
      · exact aside_setLTEPreferredDone (by decide)
      · exact aside_setLTEPreferredMode socket_id _ _
    · split
      · refine Takes.act trivial fun g => ?_
        split
        · exact aside_setLTEPreferredDone (by decide)
        · exact aside_setLTEPreferredMode socket_id _ _
      · exact aside_setLTEPreferredMode socket_id _ _

theorem aside_setPreferredDone (he : e ≠ .RIL_E_REQUEST_NOT_SUPPORTED) : Aside (setPreferredDone t e) :=
  Takes.act trivial fun _ => Takes.last he

theorem aside_sendAutoAttach (cfg : Config) (socket_id : RIL_SOCKET_ID) : Aside (sendAutoAttach cfg socket_id) := by
  unfold sendAutoAttach
  split
  · exact Takes.pure ()
  · refine Takes.act trivial fun (allowed : Bool) => ?_
    split
    · exact Takes.last trivial
    · cases socket_id with
      | RIL_SOCKET_1 => exact Takes.last trivial
      | RIL_SOCKET_2 => exact Takes.act trivial fun _ => Takes.last trivial

theorem aside_requestSetPreferredNetType (cfg : Config) (socket_id : RIL_SOCKET_ID) (data : Int) :
    Aside (requestSetPreferredNetType cfg socket_id data t) := by
  refine Takes.act trivial fun _ => Takes.act trivial fun _ => ?_
  dsimp only
  split
  · exact aside_setPreferredDone (by decide)
  · refine Takes.act trivial fun g => ?_
    split
    · exact aside_setPreferredDone (by decide)
    · split
      · exact aside_setPreferredDone (by decide)
      · refine Takes.bind (aside_sendAutoAttach cfg socket_id) fun _ => Takes.act trivial fun (answer : Answer) => ?_
        split
        · refine Takes.act (fun _ => rfl) fun _ => Takes.act trivial fun g => Takes.act (fun _ => rfl) fun _ => ?_
          exact aside_setPreferredDone (by decide)
        · exact aside_setPreferredDone (by decide)

theorem aside_sendUnsolRadioCapability : Aside sendUnsolRadioCapability :=
  Takes.act trivial fun _ => Takes.act trivial fun _ => Takes.act (fun _ => rfl) fun _ => Takes.act trivial fun _ =>
    Takes.act trivial fun _ => Takes.last fun _ => rfl

theorem aside_setWorkMode : Aside setWorkMode :=
  Takes.act trivial fun _ => Takes.act trivial fun _ => Takes.act (fun _ => rfl) fun _ => Takes.act trivial fun _ =>
    Takes.act (fun _ => rfl) fun _ => Takes.last trivial

theorem aside_applySetLTERadioCapability (rc : RIL_RadioCapability) (socket_id : RIL_SOCKET_ID) :
    Aside (applySetLTERadioCapability rc socket_id t) := by
  refine Takes.act trivial fun g => ?_
  split
  · exact Takes.pure 2
  · refine Takes.act (fun _ => rfl) fun _ => Takes.act trivial fun g => Takes.act trivial fun _ => Takes.act (fun _ => rfl) fun _ => ?_
    refine Takes.bind aside_setWorkMode fun _ => Takes.act trivial fun g => ?_
    exact Takes.bind (aside_sendTestMode _ _ _ _ 3) fun taken => Takes.pure _

theorem aside_shutDownRadios (l : List RIL_SOCKET_ID) : Aside (shutDownRadios l) := by
  induction l with
  | nil => exact Takes.pure true
  | cons simId rest ih =>
    refine Takes.act trivial fun (off : Bool) => ?_
    split
    · exact ih
    · refine Takes.act trivial fun (answer : Answer) => ?_
      split
      · exact ih
      · exact Takes.pure false

theorem aside_startRadios (cmd : List Byte) (l : List RIL_SOCKET_ID) : Aside (startRadios cmd l) := by
  induction l with
  | nil => exact Takes.pure true
  | cons simId rest ih =>
    refine Takes.act trivial fun (off : Bool) => ?_
    split
    · exact ih
    · refine Takes.act trivial fun _ => Takes.act trivial fun two => Takes.act trivial fun g => Takes.act trivial fun _ => ?_
      refine Takes.act trivial fun (answer : Answer) => ?_
      split
      · exact ih
      · exact Takes.pure false

theorem aside_applySetRadioCapability (rc : RIL_RadioCapability) (socket_id : RIL_SOCKET_ID) :
    Aside (applySetRadioCapability rc socket_id) := by
  refine Takes.act trivial fun g => ?_
  split
  · exact Takes.pure 1
  · refine Takes.act (fun _ => rfl) fun _ => Takes.act (fun _ => rfl) fun _ => Takes.bind (aside_shutDownRadios _) fun down => ?_
    split
    · refine Takes.bind aside_setWorkMode fun _ => Takes.act trivial fun g => ?_
      exact Takes.bind (aside_startRadios _ _) fun started => Takes.pure _
    · exact Takes.pure 0

/-! ## The flags -/

/-- What a request does to the flags, whether it runs the switch, and whether it is refused as a whole. -/
@[ext] structure Meeting where
  flags : RIL_SOCKET_ID → Int
  called : Bool
  refused : Bool

def Meeting.After (g : Meeting) : (a : Act) → a.Reply → Meeting → Prop
  | .get, r, g' => r.s_requestSetRC = g.flags ∧ g' = g
  | .modify f, _, g' =>
    ∃ globals : Globals, globals.s_requestSetRC = g.flags ∧ g' = { g with flags := (f globals).s_requestSetRC }
  | .callApply _, _, g' => g' = { g with called := true }
  | .RIL_onRequestComplete _ e _, _, g' => g' = { g with refused := g.refused || e = .RIL_E_REQUEST_NOT_SUPPORTED }
  | _, _, g' => g' = g

/-- Nobody else touches the flags. -/
def meeting : Contract Act Act.Reply Meeting where
  rely g g' := g' = g
  pre _ _ := True
  post := Meeting.After
  refl _ := rfl
  trans h h' := h'.trans h

variable {α : Type} {g g' : Meeting} {Q : Meeting → α → Prop}

abbrev Meets {α : Type} (g : Meeting) (m : NetProg α) (Q : Meeting → α → Prop) : Prop := Triple meeting (· = g) m Q

theorem Meets.act {a : Act} {f : a.Reply → NetProg α} (h : ∀ r g', g.After a r g' → Meets g' (f r) Q) :
    Meets g (Network.act a >>= f) Q := by
  refine Triple.act (fun _ _ hrely hg => hrely.trans hg) (fun _ _ => trivial) fun r => ?_
  rintro g' ⟨g₁, rfl, hafter⟩
  exact h r g' hafter g' rfl

theorem Meets.pure {value : α} (h : Q g value) : Meets g (Pure.pure value) Q := by
  rintro g' rfl g'' rfl
  exact h

theorem Act.aside_after {a : Act} (ha : a.aside) {r : a.Reply} (hafter : g.After a r g') : g' = g := by
  cases a with
  | modify f =>
    obtain ⟨globals, hflags, rfl⟩ := hafter
    rw [ha globals, hflags]
  | callApply b => exact ha.elim
  | RIL_onRequestComplete t e response =>
    have hne : e ≠ .RIL_E_REQUEST_NOT_SUPPORTED := ha
    obtain rfl : g' = _ := hafter
    simp [hne]
  | get => exact hafter.2
  | _ => exact hafter

theorem meets_aside {m : NetProg α} (h : Aside m) (g : Meeting) : Meets g m (fun g' _ => g' = g) :=
  Triple.of_takes h (fun _ _ hrely => hrely) (fun _ _ ha => ⟨trivial, fun _ _ hafter => Act.aside_after ha hafter⟩) g

theorem aside_complete {response : Option RIL_RadioCapability} (he : e ≠ .RIL_E_REQUEST_NOT_SUPPORTED) :
    (Act.RIL_onRequestComplete t e response).aside := he

/-- A store elsewhere and an answer. -/
theorem aside_answer {k : Globals → Globals} {response : Option RIL_RadioCapability}
    (hk : ∀ g, (k g).s_requestSetRC = g.s_requestSetRC) (he : e ≠ .RIL_E_REQUEST_NOT_SUPPORTED) :
    Aside (modify k >>= fun _ => RIL_onRequestComplete t e response) :=
  Takes.act hk fun _ => Takes.last (aside_complete he)

theorem meets_runSwitch (cfg : Config) (responseRc : RIL_RadioCapability) (socket_id : RIL_SOCKET_ID) (g : Meeting) :
    Meets g (runSwitch cfg responseRc socket_id t) (fun g' _ => g' = { g with called := true }) := by
  refine Meets.act fun _ g' hafter => ?_
  obtain rfl : g' = g := hafter
  refine Meets.act fun _ g'' hafter => ?_
  obtain rfl : g'' = _ := hafter
  refine meets_aside ?_ _
  split
  · refine Takes.bind (aside_applySetLTERadioCapability _ _) fun ret => ?_
    split
    · exact Takes.act trivial fun _ => Takes.last (aside_complete (by decide))
    · split
      · exact Takes.act trivial fun _ => Takes.act (aside_complete (by decide)) fun _ => aside_sendUnsolRadioCapability
      · exact Takes.pure ()
  · refine Takes.bind (aside_applySetRadioCapability _ _) fun ret => Takes.act trivial fun _ => ?_
    split
    · exact Takes.act (aside_complete (by decide)) fun _ => aside_sendUnsolRadioCapability
    · exact Takes.last (aside_complete (by decide))

/-- What requestSetRadioCapability does to the flags. -/
def Meeting.outcome (flags : RIL_SOCKET_ID → Int) (socket_id : RIL_SOCKET_ID) (rc : RIL_RadioCapability) : Meeting :=
  if rc.phase = RC_PHASE_APPLY then
    if sims.any (Function.update flags socket_id 1 · ≠ 1) then
      { flags := Function.update flags socket_id 1, called := false, refused := false }
    else { flags := fun _ => 0, called := true, refused := false }
  else { flags := flags, called := false, refused := false }

def Meeting.start (flags : RIL_SOCKET_ID → Int) : Meeting := { flags := flags, called := false, refused := false }

theorem meets_requestSetRadioCapability (cfg : Config) (socket_id : RIL_SOCKET_ID) (rc : RIL_RadioCapability)
    (flags : RIL_SOCKET_ID → Int) :
    Meets (.start flags) (requestSetRadioCapability cfg socket_id rc t) (fun g' _ => g' = .outcome flags socket_id rc) := by
  have hstart : rc.phase ≠ RC_PHASE_APPLY → Meeting.outcome flags socket_id rc = .start flags := fun h => if_neg h
  unfold requestSetRadioCapability
  split
  · rename_i hphase
    rw [hstart (by rw [hphase]; decide)]
    exact meets_aside (aside_answer (fun _ => rfl) (by decide)) _
  · split
    · rename_i hphase
      rw [hstart (by rw [hphase]; decide)]
      exact meets_aside (aside_answer (fun _ => rfl) (by decide)) _
    · split
      · rename_i hphase
        refine Meets.act fun _ g₁ hafter => ?_
        obtain ⟨globals, hflags, rfl⟩ := hafter
        refine Meets.act fun (r : Globals) g₂ hafter => ?_
        obtain ⟨hr, rfl⟩ := hafter
        have hr' : r.s_requestSetRC = Function.update flags socket_id 1 := by
          rw [hr]
          exact congrArg (Function.update · socket_id 1) hflags
        rw [Meeting.outcome, if_pos hphase, ← hr']
        refine Triple.pre (P := (· = { flags := r.s_requestSetRC, called := false, refused := false })) ?_
          fun g hg => hg.trans (Meeting.ext hr.symm rfl rfl)
        dsimp only
        split
        · exact meets_aside (Takes.last (aside_complete (by decide))) _
        · refine Meets.act fun _ g₁ hafter => ?_
          obtain ⟨_, -, rfl⟩ := hafter
          exact meets_runSwitch cfg _ socket_id _
      · rename_i hphase
        rw [hstart hphase]
        exact meets_aside (aside_answer (fun _ => rfl) (by decide)) _

/-- What a request leaves of the flags. -/
def Meeting.Left (flags : RIL_SOCKET_ID → Int) (socket_id : RIL_SOCKET_ID) (g : Meeting) : Request → Prop
  | .RIL_REQUEST_SET_PREFERRED_NETWORK_TYPE _ => g = .start flags
  | .RIL_REQUEST_SET_RADIO_CAPABILITY rc =>
    g = { flags := flags, called := false, refused := true } ∨ g = .outcome flags socket_id rc

theorem meets_processNetworkRequests (cfg : Config) (socket_id : RIL_SOCKET_ID) (r : Request) (flags : RIL_SOCKET_ID → Int) :
    Meets (.start flags) (processNetworkRequests cfg socket_id t r) (fun g' _ => g'.Left flags socket_id r) := by
  cases r with
  | RIL_REQUEST_SET_PREFERRED_NETWORK_TYPE data =>
    refine meets_aside ?_ _
    rw [processNetworkRequests]
    split
    · refine Takes.act trivial fun _ => Takes.act trivial fun (engineer : Bool) => Takes.act trivial fun _ => ?_
      refine Takes.act trivial fun g => Takes.bind (aside_setLTEPreferredType cfg socket_id _) fun err => ?_
      split
      · exact Takes.last trivial
      · exact Takes.pure ()
    · exact aside_requestSetPreferredNetType cfg socket_id data
  | RIL_REQUEST_SET_RADIO_CAPABILITY rc =>
    refine Meets.act fun (fixed : Bool) g' hafter => ?_
    obtain rfl : g' = _ := hafter
    split
    · refine Triple.last (fun _ _ hrely hg => hrely.trans hg) (fun _ _ => trivial) fun _ => ?_
      rintro g' ⟨g, rfl, rfl⟩ g'' rfl
      exact Or.inl rfl
    · exact (meets_requestSetRadioCapability cfg socket_id rc flags).post fun _ _ hg => Or.inr hg

/-! ## Rounds -/

def Event.refuses : Event → Bool
  | .RIL_onRequestComplete _ e _ => e = .RIL_E_REQUEST_NOT_SUPPORTED
  | _ => false

/-- The request of the round was refused because the slots are fixed. -/
def State.refused (s : State) : Bool := s.log.any Event.refuses

/-- What the state shows of the meeting. -/
structure Notes (t : RIL_Token) (s : State) (g : Meeting) : Prop where
  flags : s.globals.s_requestSetRC = g.flags
  called : s.switching t = g.called
  refused : s.refused = g.refused

variable {s s' : State} {env : Env} {cfg : Config}

@[simp] theorem refused_record (e : Event) : (s.record e).refused = (s.refused || e.refuses) := by
  simp [State.refused, State.record]

theorem Notes.same (h : Notes t s g) (hflags : s'.globals.s_requestSetRC = s.globals.s_requestSetRC)
    (hlog : s'.log = s.log) : Notes t s' g := by
  refine ⟨hflags.trans h.flags, ?_, ?_⟩
  · rw [State.switching, hlog]
    exact h.called
  · rw [State.refused, hlog]
    exact h.refused

theorem Notes.record {e : Event} (h : Notes t s g) (hcalls : e.calls t = false) (hrefuses : e.refuses = false) :
    Notes t (s.record e) g := by
  refine ⟨h.flags, ?_, ?_⟩
  · rw [switching_record, hcalls, Bool.or_false, h.called]
  · rw [refused_record, hrefuses, Bool.or_false, h.refused]

/-- **The notes go along with an action of the request.** -/
theorem notes_execute {a : Act} {r : a.Reply} (h : Notes t s g) (hexec : execute t env s a = some (r, s')) :
    ∃ g', g.After a r g' ∧ Notes t s' g' := by
  cases a with
  | get =>
    cases hexec
    exact ⟨g, ⟨h.flags, rfl⟩, h⟩
  | modify f =>
    cases hexec
    exact ⟨_, ⟨s.globals, h.flags, rfl⟩, rfl, h.called, h.refused⟩
  | lockRadioPower =>
    obtain ⟨-, heq⟩ := Option.ite_none_left_eq_some.1 hexec
    cases heq
    have hsame : Notes t { s with radioPower := true } g := h.same rfl rfl
    exact ⟨g, rfl, hsame.record rfl rfl⟩
  | lockWorkMode =>
    obtain ⟨-, heq⟩ := Option.ite_none_left_eq_some.1 hexec
    cases heq
    exact ⟨g, rfl, h.same rfl rfl⟩
  | unlockRadioPower =>
    cases hexec
    have hsame : Notes t { s with radioPower := false } g := h.same rfl rfl
    exact ⟨g, rfl, hsame.record rfl rfl⟩
  | test q =>
    cases hexec
    exact ⟨g, rfl, h⟩
  | unlockWorkMode =>
    cases hexec
    exact ⟨g, rfl, h.same rfl rfl⟩
  | addAsyncCmdList socket_id t' data =>
    cases hexec
    exact ⟨g, rfl, h.same rfl rfl⟩
  | removeAsyncCmdList t' =>
    cases hexec
    exact ⟨g, rfl, h.same rfl rfl⟩
  | RIL_onRequestComplete t' e response =>
    cases hexec
    refine ⟨_, rfl, h.flags, ?_, ?_⟩
    · simp [Event.calls, h.called]
    · simp [Event.refuses, h.refused]
  | callApply b =>
    cases hexec
    refine ⟨_, rfl, h.flags, ?_, ?_⟩
    · simp [Event.calls]
    · simp [Event.refuses, h.refused]
  | send simId cmd =>
    cases hexec
    exact ⟨g, rfl, h.record rfl rfl⟩
  | ask simId cmd =>
    cases hexec
    exact ⟨g, rfl, h.record rfl rfl⟩
  | voiceNetworkStateChanged socket_id =>
    cases hexec
    exact ⟨g, rfl, h.record rfl rfl⟩
  | unsolRadioCapability socket_id session =>
    cases hexec
    exact ⟨g, rfl, h.record rfl rfl⟩

theorem Notes.pay {u : RIL_Token} {response : Option RIL_RadioCapability} (h : Notes t s g)
    (he : e ≠ .RIL_E_REQUEST_NOT_SUPPORTED) : Notes t (s.pay u e response) g := by
  have hunlocked : Notes t { s with radioPower := false } g := h.same rfl rfl
  have hrecorded : Notes t ({ s with radioPower := false }.record (.unlockRadioPower u)) g := hunlocked.record rfl rfl
  exact hrecorded.record rfl (decide_eq_false he)

theorem Notes.unsol (h : Notes t s g) : Notes t s.unsolRadioCapability g := by
  refine ⟨h.flags, ?_, ?_⟩
  · simpa [State.switching, State.unsolRadioCapability, Event.calls] using h.called
  · simpa [State.refused, State.unsolRadioCapability, Event.refuses] using h.refused

theorem Notes.dispatch {u : RIL_Token} (h : Notes t s g) (data : Option RIL_RadioCapability) (status : Int) :
    Notes t (dispatchSPTESTMODE u data status s) g := by
  have hanswer : answerTo status ≠ .RIL_E_REQUEST_NOT_SUPPORTED := by
    unfold answerTo
    split
    · decide
    · decide
  obtain heq | heq := @dispatchSPTESTMODE_pays u data status s
  · rw [heq]
    exact h.pay hanswer
  · rw [heq]
    exact (h.pay hanswer).unsol

/-- Nothing that happens beside the request touches the flags. -/
theorem notes_surroundings {a : Label} (h : Notes t s g) (hrequest : a.requested = none)
    (hthread : ∀ u env, a ≠ .thread u env) (hstep : step cfg s a = some s') : Notes t s' g := by
  cases a with
  | request socket_id u r => cases hrequest
  | thread u env => exact absurd rfl (hthread u env)
  | urc socket_id status =>
    cases hfind : s.s_timerList.find? (·.socket_id = socket_id) with
    | none =>
      simp only [step, hfind] at hstep
      cases hstep
      exact h
    | some e =>
      simp only [step, hfind] at hstep
      cases hstep
      have hout : Notes t { s with s_timerList := s.s_timerList.eraseP (·.socket_id = socket_id) } g := h.same rfl rfl
      exact hout.dispatch e.data status
  | expire =>
    cases hlist : s.s_timerList with
    | nil => simp only [step, hlist, reduceCtorEq] at hstep
    | cons e rest =>
      simp only [step, hlist] at hstep
      cases hstep
      exact h.same rfl rfl
  | fire =>
    cases hlist : s.s_pendingList with
    | nil => simp only [step, hlist, reduceCtorEq] at hstep
    | cons e rest =>
      simp only [step, hlist] at hstep
      cases hstep
      have hout : Notes t { s with s_pendingList := rest } g := h.same rfl rfl
      have hpaid : Notes t (State.pay _ e.token .RIL_E_GENERIC_FAILURE none) g := hout.pay (by decide)
      exact hpaid

/-- **What a round does to the flags.** -/
theorem serve_left {r : Round} (hquiet : s.Quiet) (hserve : serve cfg s r = some s') :
    ∃ g : Meeting, g.Left s.globals.s_requestSetRC r.socket_id r.request ∧ s'.globals.s_requestSetRC = g.flags ∧
      s'.switching r.token = g.called ∧ s'.refused = g.refused := by
  obtain ⟨g, hnotes, hleft⟩ := serve_follows (C := meeting) (R := Notes r.token) hquiet hserve
    (fun hR => hR.same rfl rfl) (fun hR _ hexec => notes_execute hR hexec)
    (fun hR hrequest hthread hstep => ⟨_, rfl, notes_surroundings hR hrequest hthread hstep⟩)
    ⟨rfl, rfl, rfl⟩ (meets_processNetworkRequests cfg r.socket_id r.request s.globals.s_requestSetRC _ rfl)
  exact ⟨g, hleft, hnotes.flags, hnotes.called, hnotes.refused⟩

/-! ## The history -/

/-- A SET_RADIO_CAPABILITY that was taken, and whether it ran the switch. -/
structure Sent where
  socket_id : RIL_SOCKET_ID
  phase : Int
  session : Int
  switched : Bool

/-- What a round adds to the history. -/
def Round.sent (r : Round) (s' : State) : Option Sent :=
  match r.request with
  | .RIL_REQUEST_SET_PREFERRED_NETWORK_TYPE _ => none
  | .RIL_REQUEST_SET_RADIO_CAPABILITY rc =>
    if s'.refused then none
    else some { socket_id := r.socket_id, phase := rc.phase, session := rc.session, switched := s'.switching r.token }

/-- The SIM has sent an APPLY after the last switch. The history has the last request first. -/
def pending (socket_id : RIL_SOCKET_ID) : List Sent → Bool
  | [] => false
  | i :: history => !i.switched && (i.socket_id = socket_id && i.phase = RC_PHASE_APPLY || pending socket_id history)

/-- The SIM has sent an APPLY of the session after the last switch and after its last FINISH. -/
def standing (socket_id : RIL_SOCKET_ID) (session : Int) : List Sent → Bool
  | [] => false
  | i :: history =>
    !i.switched && !(i.socket_id = socket_id && i.phase = RC_PHASE_FINISH) &&
      (i.socket_id = socket_id && i.phase = RC_PHASE_APPLY && i.session = session || standing socket_id session history)

/-- A state with the requests that led to it. -/
structure Past where
  state : State
  history : List Sent

def Past.serve (cfg : Config) (p : Past) (r : Round) : Option Past :=
  (Network.serve cfg p.state r).map fun s' => { state := s', history := (r.sent s').toList ++ p.history }

/-- An APPLY runs the switch exactly if the other SIM waits for it in the same session. -/
def MeetsInSession (cfg : Config) (p : Past) (r : Round) : Prop :=
  ∀ s', Network.serve cfg p.state r = some s' → ∀ i ∈ r.sent s', i.phase = RC_PHASE_APPLY →
    (i.switched = true ↔ standing (otherSim i.socket_id) i.session p.history = true)

/-- When an APPLY comes, one that the other SIM has sent since the last switch is of the same session and
not finished. -/
def NoLeftover (cfg : Config) (p : Past) (r : Round) : Prop :=
  ∀ s', Network.serve cfg p.state r = some s' → ∀ i ∈ r.sent s', i.phase = RC_PHASE_APPLY →
    pending (otherSim i.socket_id) p.history = true → standing (otherSim i.socket_id) i.session p.history = true

theorem pending_of_standing {o : RIL_SOCKET_ID} {n : Int} {history : List Sent} (h : standing o n history = true) :
    pending o history = true := by
  induction history with
  | nil => cases h
  | cons i history ih =>
    simp only [standing, pending, Bool.and_eq_true, Bool.or_eq_true] at h ⊢
    obtain ⟨⟨hswitched, -⟩, ⟨happly, -⟩ | hrest⟩ := h
    · exact ⟨hswitched, Or.inl happly⟩
    · exact ⟨hswitched, Or.inr (ih hrest)⟩

/-- The flags tell what was sent. -/
structure Remembered (p : Past) : Prop where
  quiet : p.state.Quiet
  flags : ∀ o, p.state.globals.s_requestSetRC o = if pending o p.history then 1 else 0

/-- At start-up no SIM has sent anything. -/
def Past.start (g : Globals) : Past where
  state := State.start { g with s_requestSetRC := fun _ => 0 }
  history := []

theorem remembered_start (g : Globals) : Remembered (.start g) := ⟨quiet_start _, fun _ => rfl⟩

theorem any_ne_one (flags : RIL_SOCKET_ID → Int) (socket_id : RIL_SOCKET_ID) :
    sims.any (Function.update flags socket_id 1 · ≠ 1) = true ↔ flags (otherSim socket_id) ≠ 1 := by
  cases socket_id with
  | RIL_SOCKET_1 => simp [sims, otherSim]
  | RIL_SOCKET_2 => simp [sims, otherSim]

/-- What a taken SET_RADIO_CAPABILITY does to the flags. -/
def Sent.apply (i : Sent) (flags : RIL_SOCKET_ID → Int) : RIL_SOCKET_ID → Int :=
  if i.switched then fun _ => 0
  else if i.phase = RC_PHASE_APPLY then Function.update flags i.socket_id 1
  else flags

/-- **A SET_RADIO_CAPABILITY runs the switch if it is an APPLY and the flag of the other SIM is set.** -/
theorem sent_spec {r : Round} {i : Sent} (hquiet : s.Quiet) (hserve : serve cfg s r = some s') (hsent : i ∈ r.sent s') :
    s'.globals.s_requestSetRC = i.apply s.globals.s_requestSetRC ∧
    (i.switched = true ↔ i.phase = RC_PHASE_APPLY ∧ s.globals.s_requestSetRC (otherSim i.socket_id) = 1) := by
  obtain ⟨g, hleft, hflags, hcalled, hrefused⟩ := serve_left hquiet hserve
  unfold Round.sent at hsent
  unfold Meeting.Left at hleft
  cases hrequest : r.request with
  | RIL_REQUEST_SET_PREFERRED_NETWORK_TYPE data =>
    rw [hrequest] at hsent
    cases hsent
  | RIL_REQUEST_SET_RADIO_CAPABILITY rc =>
    simp only [hrequest] at hsent hleft
    split at hsent
    · cases hsent
    · rename_i htaken
      obtain rfl := Option.some.inj hsent
      obtain rfl | houtcome := hleft
      · exact absurd hrefused htaken
      · rw [hflags, Sent.apply, hcalled, houtcome, Meeting.outcome]
        simp only [any_ne_one]
        by_cases hphase : rc.phase = RC_PHASE_APPLY
        · by_cases hother : s.globals.s_requestSetRC (otherSim r.socket_id) = 1
          · simp [hphase, hother]
          · simp [hphase, hother]
        · simp [hphase]

/-- A request that is not taken leaves the flags alone. -/
theorem unsent_spec {r : Round} (hquiet : s.Quiet) (hserve : serve cfg s r = some s') (hsent : r.sent s' = none) :
    s'.globals.s_requestSetRC = s.globals.s_requestSetRC := by
  obtain ⟨g, hleft, hflags, hcalled, hrefused⟩ := serve_left hquiet hserve
  unfold Round.sent at hsent
  unfold Meeting.Left at hleft
  rw [hflags]
  cases hrequest : r.request with
  | RIL_REQUEST_SET_PREFERRED_NETWORK_TYPE data =>
    simp only [hrequest] at hleft
    rw [hleft]
    rfl
  | RIL_REQUEST_SET_RADIO_CAPABILITY rc =>
    simp only [hrequest] at hsent hleft
    split at hsent
    · rename_i hrefuses
      obtain rfl | rfl := hleft
      · rfl
      · rw [hrefused, Meeting.outcome] at hrefuses
        split at hrefuses
        · split at hrefuses
          · cases hrefuses
          · cases hrefuses
        · cases hrefuses
    · cases hsent

theorem remembered_step (p : Past) (r : Round) (p' : Past) (h : Remembered p) (hserve : p.serve cfg r = some p') :
    Remembered p' := by
  obtain ⟨s', hs, rfl⟩ := Option.map_eq_some_iff.1 hserve
  refine ⟨(serve_spec h.quiet hs).1, fun o => ?_⟩
  cases hsent : r.sent s' with
  | none =>
    dsimp only
    rw [unsent_spec h.quiet hs hsent]
    exact h.flags o
  | some i =>
    obtain ⟨hflags, -⟩ := sent_spec h.quiet hs hsent
    dsimp only
    rw [hflags, Sent.apply]
    simp only [Option.toList_some, List.singleton_append, pending]
    split
    · rename_i hswitched
      simp [hswitched]
    · rename_i hswitched
      split
      · rename_i hphase
        by_cases ho : o = i.socket_id
        · subst ho
          simp [hswitched, hphase]
        · rw [Function.update_of_ne ho, h.flags o]
          simp [hswitched, Ne.symm ho]
      · rename_i hphase
        rw [h.flags o]
        simp [hswitched, hphase]

/-- **In every sequence of requests, executed one at a time, a switch is run exactly when both SIMs have
applied in one session, if and only if no APPLY is left over from another one.** -/
theorem meetsInSession_iff (cfg : Config) (g : Globals) (rounds : List Round) :
    Steps (Past.serve cfg) (MeetsInSession cfg) (.start g) rounds ↔ Steps (Past.serve cfg) (NoLeftover cfg) (.start g) rounds := by
  refine steps_iff_steps (fun p r p' h _ hserve => remembered_step p r p' h hserve) (fun p r h => ?_) (remembered_start g) rounds
  refine forall_congr' fun s' => forall_congr' fun hserve => forall_congr' fun i => forall_congr' fun hsent => ?_
  refine forall_congr' fun hphase => ?_
  obtain ⟨-, hswitched⟩ := sent_spec h.quiet hserve hsent
  have hflag : p.state.globals.s_requestSetRC (otherSim i.socket_id) = 1 ↔ pending (otherSim i.socket_id) p.history = true := by
    rw [h.flags]
    split
    · rename_i hpending
      exact iff_of_true rfl hpending
    · rename_i hpending
      exact iff_of_false (by decide) hpending
  rw [hswitched, hflag, and_iff_right hphase]
  exact ⟨fun hiff => hiff.1, fun himp => ⟨himp, pending_of_standing⟩⟩

/-- SIM 2 applies in session 1. -/
def leftoverApply : Round where
  socket_id := .RIL_SOCKET_2
  token := 6
  request := .RIL_REQUEST_SET_RADIO_CAPABILITY applyRc
  moves := List.replicate 4 (.thread 6 { query := fun _ => false, answer := .ok })
  alone a ha := by rw [List.eq_of_mem_replicate ha]; rfl

/-- Session 1 is finished. -/
def leftoverFinish : Round where
  socket_id := .RIL_SOCKET_2
  token := 8
  request := .RIL_REQUEST_SET_RADIO_CAPABILITY { applyRc with phase := RC_PHASE_FINISH }
  moves := List.replicate 3 (.thread 8 { query := fun _ => false, answer := .ok })
  alone a ha := by rw [List.eq_of_mem_replicate ha]; rfl

/-- SIM 1 applies in session 2. -/
def laterApply : Round where
  socket_id := .RIL_SOCKET_1
  token := 9
  request := .RIL_REQUEST_SET_RADIO_CAPABILITY { applyRc with session := 2 }
  moves := List.replicate 15 (.thread 9 { query := fun _ => false, answer := .ok })
  alone a ha := by rw [List.eq_of_mem_replicate ha]; rfl

theorem meetsInSession_fails_leftoverApply :
    ¬ Steps (Past.serve alikeConfig) (MeetsInSession alikeConfig)
      (.start { alikeGlobals with s_radioAccessFamily := fun _ => 65536 }) [leftoverApply, leftoverFinish, laterApply] := by
  have hend : ((Past.serve alikeConfig (.start { alikeGlobals with s_radioAccessFamily := fun _ => 65536 }) leftoverApply).any
      fun p => (p.serve alikeConfig leftoverFinish).any fun p => (serve alikeConfig p.state laterApply).any fun s' =>
        (laterApply.sent s').any fun i =>
          i.phase = RC_PHASE_APPLY && i.switched && !standing (otherSim i.socket_id) i.session p.history) = true := by
    decide
  obtain ⟨p₁, happly, h₁⟩ := (Option.any_eq_true _ _).1 hend
  obtain ⟨p₂, hfinish, h₂⟩ := (Option.any_eq_true _ _).1 h₁
  obtain ⟨s', hlater, h₃⟩ := (Option.any_eq_true _ _).1 h₂
  obtain ⟨i, hsent, h₄⟩ := (Option.any_eq_true _ _).1 h₃
  simp only [Bool.and_eq_true, decide_eq_true_eq, Bool.not_eq_true'] at h₄
  obtain ⟨⟨hphase, hswitched⟩, hstanding⟩ := h₄
  rintro ⟨-, hrest⟩
  have hmeets := (((hrest p₁ happly).2 p₂ hfinish).1 s' hlater i hsent hphase).1 hswitched
  rw [hstanding] at hmeets
  cases hmeets

end UniRil.Network
