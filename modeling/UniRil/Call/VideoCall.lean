import UniRil.AtTok
import UniRil.Lib.Runs

/-!
# The downgrade of a video call (ril_call.c)

`s_videoCallId` remembers one video call of a SIM. Lines of ^DSCI set and clear it, a modem reset clears it, and
onDowngradeToVoice, which the event loop runs once the bearer of the video is lost, reads it twice: getChannel may
block in between.
-/

namespace UniRil.Call

open AtTok

variable {SIM_COUNT : Nat}

def RIL_CALL_ACTIVE : Int := 0

/-- 6 of ^DSCI. -/
def DISCONNECTED : Int := 6

/-- What `s_videoCallId` holds without a video call. -/
def NO_CALL : Int := -1

/-! ## The lines -/

structure RIL_VideoPhone_DSCI where
  id : Int
  idr : Int
  stat : Int
  type : Int
deriving DecidableEq

def readDSCI (s : Line) : Option RIL_VideoPhone_DSCI := do
  let id := at_tok_nextint (at_tok_start (some s))
  let idr := at_tok_nextint id.p_cur
  let stat := at_tok_nextint idr.p_cur
  let type := at_tok_nextint stat.p_cur
  return { id := ← id.value, idr := ← idr.value, stat := ← stat.value, type := ← type.value }

structure SPIMSPDPINFO where
  state : Int
  qci : Int
  isVideoCall : Int

def readSPIMSPDPINFO (s : Line) : Option SPIMSPDPINFO := do
  -- that the cid is not there is only logged
  let cid := at_tok_nextint (at_tok_start (some s))
  let state := at_tok_nextint cid.p_cur
  let qci := at_tok_nextint state.p_cur
  let isVideoCall := at_tok_nextint qci.p_cur
  return {
    state := ← state.value
    qci := ← qci.value
    isVideoCall := ← if at_tok_hasmore qci.p_cur then isVideoCall.value else some 1 }

/-! ## The system -/

inductive Event (SIM_COUNT : Nat) where
  | dsci (socket_id : Fin SIM_COUNT) (response : RIL_VideoPhone_DSCI)
  | reset (socket_id : Fin SIM_COUNT)
deriving DecidableEq

/-- Newest first. -/
abbrev History (SIM_COUNT : Nat) := List (Event SIM_COUNT)

/-- A callback, with what had happened when the bearer was lost. -/
structure Downgrade (SIM_COUNT : Nat) where
  socket_id : Fin SIM_COUNT
  atLoss : History SIM_COUNT
deriving DecidableEq

inductive Outcome (SIM_COUNT : Nat) where
  | cancelled (d : Downgrade SIM_COUNT)
  /-- AT+CCMMD with the id was sent after the history. -/
  | sent (d : Downgrade SIM_COUNT) (id : Int) (history : History SIM_COUNT)
deriving DecidableEq

structure State (SIM_COUNT : Nat) where
  s_videoCallId : Fin SIM_COUNT → Int
  queued : List (Downgrade SIM_COUNT)
  /-- The callback that the event loop is in, past its test. -/
  running : Option (Downgrade SIM_COUNT)
  history : History SIM_COUNT
  outcomes : List (Outcome SIM_COUNT)

def State.start : State SIM_COUNT where
  s_videoCallId := fun _ => NO_CALL
  queued := []
  running := none
  history := []
  outcomes := []

def State.setVideoCallId (s : State SIM_COUNT) (socket_id : Fin SIM_COUNT) (id : Int) : State SIM_COUNT :=
  { s with s_videoCallId := Function.update s.s_videoCallId socket_id id }

def State.sees (s : State SIM_COUNT) (e : Event SIM_COUNT) : State SIM_COUNT :=
  { s with history := e :: s.history }

/-- The branch of ^DSCI once the type is read. -/
def onDSCI (socket_id : Fin SIM_COUNT) (response : RIL_VideoPhone_DSCI) (s : State SIM_COUNT) : State SIM_COUNT :=
  if response.stat = DISCONNECTED ∧ s.s_videoCallId socket_id = response.id then
    s.setVideoCallId socket_id NO_CALL
  else if response.type > 0 ∧ response.stat = RIL_CALL_ACTIVE then
    s.setVideoCallId socket_id response.id
  else s

def RIL_requestTimedCallback (socket_id : Fin SIM_COUNT) (s : State SIM_COUNT) : State SIM_COUNT :=
  { s with queued := s.queued ++ [{ socket_id, atLoss := s.history }] }

/-- The branches of ^DSCI and +SPIMSPDPINFO. -/
def processCallUnsolicited (socket_id : Fin SIM_COUNT) (line : Line) (s : State SIM_COUNT) : State SIM_COUNT :=
  if strStartsWith line (ascii "^DSCI:") then
    match readDSCI line with
    | none => s
    | some response => (onDSCI socket_id response s).sees (.dsci socket_id response)
  else if strStartsWith line (ascii "+SPIMSPDPINFO") then
    match readSPIMSPDPINFO line with
    | none => s
    | some info =>
      -- deactivated, and of the quality class of video
      if info.state = 0 ∧ info.qci = 2 ∧ info.isVideoCall = 1 then RIL_requestTimedCallback socket_id s else s
  else s

inductive Label (SIM_COUNT : Nat) where
  | unsolicited (socket_id : Fin SIM_COUNT) (line : Line)
  /-- onModemReset_Call comes to the SIM. -/
  | reset (socket_id : Fin SIM_COUNT)
  /-- The event loop starts the callback at the place of the queue: onDowngradeToVoice up to getChannel. -/
  | starts (k : Nat)
  /-- onDowngradeToVoice from there. -/
  | sends

def starts (d : Downgrade SIM_COUNT) (s : State SIM_COUNT) : State SIM_COUNT :=
  if s.s_videoCallId d.socket_id = NO_CALL then { s with outcomes := s.outcomes ++ [.cancelled d] }
  else { s with running := some d }

def sends (d : Downgrade SIM_COUNT) (s : State SIM_COUNT) : State SIM_COUNT :=
  { s with
    running := none
    outcomes := s.outcomes ++ [.sent d (s.s_videoCallId d.socket_id) s.history] }

def step (s : State SIM_COUNT) : Label SIM_COUNT → Option (State SIM_COUNT)
  | .unsolicited socket_id line => some (processCallUnsolicited socket_id line s)
  | .reset socket_id => some ((s.setVideoCallId socket_id NO_CALL).sees (.reset socket_id))
  | .starts k =>
    if s.running = none then s.queued[k]?.map fun d => starts d { s with queued := s.queued.eraseIdx k } else none
  | .sends => s.running.map fun d => sends d s

/-! ## The calls -/

def Event.lineOf (socket_id : Fin SIM_COUNT) (c : Int) : Event SIM_COUNT → Option RIL_VideoPhone_DSCI
  | .dsci sim response => if sim = socket_id ∧ response.id = c then some response else none
  | .reset _ => none

/-- The last ^DSCI line for the call. -/
def lastLine (history : History SIM_COUNT) (socket_id : Fin SIM_COUNT) (c : Int) : Option RIL_VideoPhone_DSCI :=
  history.findSome? (Event.lineOf socket_id c)

/-- The line shows an active video call. -/
def RIL_VideoPhone_DSCI.ShowsVideo (response : RIL_VideoPhone_DSCI) : Prop :=
  0 < response.type ∧ response.stat = RIL_CALL_ACTIVE

/-- The last line of some call shows it active with a video. -/
def SomeVideoCall (history : History SIM_COUNT) (socket_id : Fin SIM_COUNT) : Prop :=
  ∃ c ≠ NO_CALL, ∃ response, lastLine history socket_id c = some response ∧ response.ShowsVideo

/-- Each command that was sent was for a call which its last line told a video call that goes on, and none was left
out when the bearer had been lost with a video call active. -/
structure HitsVideoCall (s : State SIM_COUNT) : Prop where
  hits : ∀ d c history, .sent d c history ∈ s.outcomes →
    c ≠ NO_CALL ∧ ∃ response, lastLine history d.socket_id c = some response ∧ 0 < response.type ∧
      response.stat ≠ DISCONNECTED
  sent : ∀ d, .cancelled d ∈ s.outcomes → ¬ SomeVideoCall d.atLoss d.socket_id

/-- After the event, no earlier line tells the latest video call. -/
def Event.Forgets (socket_id : Fin SIM_COUNT) (c : Int) : Event SIM_COUNT → Prop
  | .dsci sim response => sim = socket_id ∧ (response.ShowsVideo ∨ response.stat = DISCONNECTED ∧ response.id = c)
  | .reset sim => sim = socket_id

/-- A line showed the call active with a video. Since then the call was not disconnected, no line showed another one
so, and the modem was not reset. -/
def LatestVideoCall (history : History SIM_COUNT) (socket_id : Fin SIM_COUNT) (c : Int) : Prop :=
  ∃ newer response older, history = newer ++ .dsci socket_id response :: older ∧ response.ShowsVideo ∧
    response.id = c ∧ ∀ e ∈ newer, ¬ e.Forgets socket_id c

/-- The step does not start a downgrade, owed to a video call, when there is no latest video call, and does not send
one unless there is a latest video call and its last line has a type above 0. -/
def KnowsVideoCall (s : State SIM_COUNT) : Label SIM_COUNT → Prop
  | .starts k => s.running = none → ∀ d, s.queued[k]? = some d → SomeVideoCall d.atLoss d.socket_id →
      ∃ c ≠ NO_CALL, LatestVideoCall s.history d.socket_id c
  | .sends => ∀ d, s.running = some d →
      ∃ c ≠ NO_CALL, LatestVideoCall s.history d.socket_id c ∧
        ∃ response, lastLine s.history d.socket_id c = some response ∧ 0 < response.type
  | _ => True

/-! ## The latest video call -/

variable {s s' : State SIM_COUNT} {socket_id : Fin SIM_COUNT} {c : Int} {e : Event SIM_COUNT}
  {history : History SIM_COUNT} {response : RIL_VideoPhone_DSCI} {d : Downgrade SIM_COUNT}

theorem latestVideoCall_cons :
    LatestVideoCall (e :: history) socket_id c ↔
      (∃ response, e = .dsci socket_id response ∧ response.ShowsVideo ∧ response.id = c) ∨
        (¬ e.Forgets socket_id c ∧ LatestVideoCall history socket_id c) := by
  constructor
  · rintro ⟨newer, response, older, heq, hvideo, hid, hnewer⟩
    rcases List.cons_eq_append_iff.1 heq with ⟨-, hline⟩ | ⟨newer', rfl, hrest⟩
    · obtain ⟨rfl, -⟩ := List.cons.inj hline
      exact .inl ⟨response, rfl, hvideo, hid⟩
    · refine .inr ⟨hnewer e List.mem_cons_self, newer', response, older, hrest, hvideo, hid, fun e' he' => ?_⟩
      exact hnewer e' (List.mem_cons_of_mem e he')
  · rintro (⟨response, rfl, hvideo, hid⟩ | ⟨hkeeps, newer, response, older, rfl, hvideo, hid, hnewer⟩)
    · exact ⟨[], response, history, rfl, hvideo, hid, by simp⟩
    · refine ⟨e :: newer, response, older, rfl, hvideo, hid, fun e' he' => ?_⟩
      rcases List.mem_cons.1 he' with rfl | he'
      · exact hkeeps
      · exact hnewer e' he'

theorem not_latestVideoCall_nil : ¬ LatestVideoCall ([] : History SIM_COUNT) socket_id c := by
  rintro ⟨newer, response, older, heq, -⟩
  simp at heq

theorem lineOf_dsci_self : Event.lineOf socket_id response.id (.dsci socket_id response) = some response := by
  unfold Event.lineOf
  simp

theorem eq_of_lineOf (h : e.lineOf socket_id c = some response) : e = .dsci socket_id response ∧ response.id = c := by
  unfold Event.lineOf at h
  split at h
  · next sim response' =>
    obtain ⟨⟨rfl, rfl⟩, hsome⟩ := Option.ite_none_right_eq_some.1 h
    obtain rfl := Option.some.inj hsome
    exact ⟨rfl, rfl⟩
  · cases h

/-- The latest video call was not told disconnected by its last line. -/
theorem lastLine_of_latest (h : LatestVideoCall history socket_id c) :
    ∃ response, lastLine history socket_id c = some response ∧ response.stat ≠ DISCONNECTED := by
  induction history with
  | nil => exact absurd h not_latestVideoCall_nil
  | cons e history ih =>
    unfold lastLine at ih ⊢
    rw [List.findSome?_cons]
    rcases latestVideoCall_cons.1 h with ⟨response, rfl, hvideo, rfl⟩ | ⟨hkeeps, h⟩
    · refine ⟨response, by rw [lineOf_dsci_self], ?_⟩
      rw [hvideo.2]
      decide
    · rcases hline : e.lineOf socket_id c with _ | response
      · exact ih h
      · obtain ⟨rfl, rfl⟩ := eq_of_lineOf hline
        exact ⟨response, rfl, fun hstat => hkeeps ⟨rfl, .inr ⟨hstat, rfl⟩⟩⟩

/-! ## What a SIM remembers -/

/-- `s_videoCallId` is the latest video call, if there is one. -/
def Remembers (s : State SIM_COUNT) : Prop :=
  ∀ socket_id, ∀ c ≠ NO_CALL, s.s_videoCallId socket_id = c ↔ LatestVideoCall s.history socket_id c

theorem remembers_start : Remembers (State.start : State SIM_COUNT) := by
  intro socket_id c hc
  exact iff_of_false hc.symm not_latestVideoCall_nil

/-- An event of one SIM leaves what the others remember. -/
theorem Remembers.update {id : Int} (h : Remembers s)
    (hself : ∀ c ≠ NO_CALL, id = c ↔ LatestVideoCall (e :: s.history) socket_id c)
    (hother : ∀ sim ≠ socket_id, ∀ c, LatestVideoCall (e :: s.history) sim c ↔ LatestVideoCall s.history sim c) :
    Remembers ((s.setVideoCallId socket_id id).sees e) := by
  intro sim c hc
  change Function.update s.s_videoCallId socket_id id sim = c ↔ LatestVideoCall (e :: s.history) sim c
  by_cases hsim : sim = socket_id
  · subst hsim
    rw [Function.update_self]
    exact hself c hc
  · rw [Function.update_of_ne hsim, h sim c hc]
    exact (hother sim hsim c).symm

theorem latest_dsci_other {sim : Fin SIM_COUNT} (hsim : sim ≠ socket_id) :
    LatestVideoCall (.dsci socket_id response :: history) sim c ↔ LatestVideoCall history sim c := by
  have hforgets : ¬ (Event.dsci socket_id response).Forgets sim c := by
    rintro ⟨rfl, -⟩
    exact hsim rfl
  rw [latestVideoCall_cons]
  simp [hforgets, hsim.symm]

theorem latest_dsci_self :
    LatestVideoCall (.dsci socket_id response :: history) socket_id c ↔
      (response.ShowsVideo ∧ response.id = c) ∨
        (¬ response.ShowsVideo ∧ ¬ (response.stat = DISCONNECTED ∧ response.id = c) ∧
          LatestVideoCall history socket_id c) := by
  rw [latestVideoCall_cons]
  unfold Event.Forgets
  simp [and_assoc]

theorem Remembers.onDSCI (h : Remembers s) :
    Remembers ((onDSCI socket_id response s).sees (.dsci socket_id response)) := by
  have hother : ∀ sim ≠ socket_id, ∀ c,
      LatestVideoCall (.dsci socket_id response :: s.history) sim c ↔ LatestVideoCall s.history sim c :=
    fun _ hsim _ => latest_dsci_other hsim
  unfold Call.onDSCI
  split_ifs with hends hvideo
  · -- the remembered call is over: no other one is the latest
    have hnot : ¬ response.ShowsVideo := by
      rintro ⟨-, hactive⟩
      exact absurd (hends.1.symm.trans hactive) (by decide)
    refine h.update (fun c hc => ?_) hother
    rw [latest_dsci_self]
    refine iff_of_false hc.symm ?_
    rintro (⟨hvideo, -⟩ | ⟨-, hkeeps, hlatest⟩)
    · exact hnot hvideo
    · exact hkeeps ⟨hends.1, hends.2.symm.trans ((h socket_id c hc).2 hlatest)⟩
  · have hshows : response.ShowsVideo := hvideo
    refine h.update (fun c _ => ?_) hother
    rw [latest_dsci_self]
    simp [hshows]
  · have hself : s = s.setVideoCallId socket_id (s.s_videoCallId socket_id) := by
      unfold State.setVideoCallId
      rw [Function.update_eq_self]
    have hnot : ¬ response.ShowsVideo := hvideo
    rw [hself]
    refine h.update (fun c hc => ?_) hother
    rw [latest_dsci_self, h socket_id c hc]
    constructor
    · intro hlatest
      refine .inr ⟨hnot, fun hover => hends ⟨hover.1, ?_⟩, hlatest⟩
      exact ((h socket_id c hc).2 hlatest).trans hover.2.symm
    · rintro (⟨hshows, -⟩ | ⟨-, -, hlatest⟩)
      · exact absurd hshows hnot
      · exact hlatest

theorem Remembers.reset (h : Remembers s) :
    Remembers ((s.setVideoCallId socket_id NO_CALL).sees (.reset socket_id)) := by
  refine h.update (fun c hc => iff_of_false hc.symm ?_) fun sim hsim c => ?_
  · rw [latestVideoCall_cons]
    simp [Event.Forgets]
  · rw [latestVideoCall_cons]
    simp [Event.Forgets, hsim.symm]

/-! ## The steps -/

theorem processCallUnsolicited_cases (socket_id : Fin SIM_COUNT) (line : Line) (s : State SIM_COUNT) :
    processCallUnsolicited socket_id line s = s ∨
    (∃ response, processCallUnsolicited socket_id line s =
      (onDSCI socket_id response s).sees (.dsci socket_id response)) ∨
    processCallUnsolicited socket_id line s = RIL_requestTimedCallback socket_id s := by
  unfold processCallUnsolicited
  split_ifs
  · split
    · exact .inl rfl
    · next response _ => exact .inr (.inl ⟨response, rfl⟩)
  · split
    · exact .inl rfl
    · split_ifs
      · exact .inr (.inr rfl)
      · exact .inl rfl
  · exact .inl rfl

theorem outcomes_onDSCI : (onDSCI socket_id response s).outcomes = s.outcomes := by
  unfold onDSCI
  split_ifs
  all_goals rfl

theorem outcomes_processCallUnsolicited (line : Line) :
    (processCallUnsolicited socket_id line s).outcomes = s.outcomes := by
  rcases processCallUnsolicited_cases socket_id line s with heq | ⟨response, heq⟩ | heq
  · rw [heq]
  · rw [heq]
    exact outcomes_onDSCI
  · rw [heq]
    rfl

theorem Remembers.unsolicited (h : Remembers s) (line : Line) :
    Remembers (processCallUnsolicited socket_id line s) := by
  rcases processCallUnsolicited_cases socket_id line s with heq | ⟨response, heq⟩ | heq
  · rw [heq]
    exact h
  · rw [heq]
    exact h.onDSCI
  · rw [heq]
    exact h

theorem Remembers.starts (h : Remembers s) : Remembers (starts d s) := by
  unfold Call.starts
  split_ifs
  all_goals exact h

theorem remembers_step (s : State SIM_COUNT) (a : Label SIM_COUNT) (s' : State SIM_COUNT) (h : Remembers s)
    (hstep : step s a = some s') : Remembers s' := by
  unfold step at hstep
  split at hstep
  · next socket_id line =>
    obtain rfl := Option.some.inj hstep
    exact h.unsolicited line
  · obtain rfl := Option.some.inj hstep
    exact h.reset
  · obtain ⟨-, hstep⟩ := Option.ite_none_right_eq_some.1 hstep
    obtain ⟨d, -, rfl⟩ := Option.map_eq_some_iff.1 hstep
    exact Remembers.starts h
  · obtain ⟨d, -, rfl⟩ := Option.map_eq_some_iff.1 hstep
    exact h

/-- The test of onDowngradeToVoice. -/
theorem Remembers.noCall_iff (h : Remembers s) :
    s.s_videoCallId socket_id = NO_CALL ↔ ¬ ∃ c ≠ NO_CALL, LatestVideoCall s.history socket_id c := by
  constructor
  · rintro hnone ⟨c, hc, hlatest⟩
    exact hc (((h socket_id c hc).2 hlatest).symm.trans hnone)
  · intro hnone
    by_contra hsome
    exact hnone ⟨_, hsome, (h socket_id _ hsome).1 rfl⟩

/-- The command that onDowngradeToVoice sends. -/
theorem Remembers.sends_iff (h : Remembers s) :
    (s.s_videoCallId socket_id ≠ NO_CALL ∧ ∃ response,
      lastLine s.history socket_id (s.s_videoCallId socket_id) = some response ∧ 0 < response.type ∧
        response.stat ≠ DISCONNECTED) ↔
    ∃ c ≠ NO_CALL, LatestVideoCall s.history socket_id c ∧
      ∃ response, lastLine s.history socket_id c = some response ∧ 0 < response.type := by
  constructor
  · rintro ⟨hsome, response, hline, htype, -⟩
    exact ⟨_, hsome, (h socket_id _ hsome).1 rfl, response, hline, htype⟩
  · rintro ⟨c, hc, hlatest, response, hline, htype⟩
    obtain rfl := (h socket_id c hc).2 hlatest
    obtain ⟨response', hline', hstat⟩ := lastLine_of_latest hlatest
    obtain rfl := Option.some.inj (hline.symm.trans hline')
    exact ⟨hc, response, hline, htype, hstat⟩

theorem HitsVideoCall.congr (h : HitsVideoCall s) (houtcomes : s'.outcomes = s.outcomes) : HitsVideoCall s' := by
  constructor
  · rw [houtcomes]
    exact h.hits
  · rw [houtcomes]
    exact h.sent

theorem hitsVideoCall_starts (h : Remembers s) (hs : HitsVideoCall s) :
    HitsVideoCall (starts d s) ↔
      (SomeVideoCall d.atLoss d.socket_id → ∃ c ≠ NO_CALL, LatestVideoCall s.history d.socket_id c) := by
  unfold starts
  split_ifs with hnone
  · have hno := h.noCall_iff.1 hnone
    constructor
    · intro hhits howed
      exact absurd howed (hhits.sent d (by simp))
    · intro howed
      constructor
      · intro d' c history hmem
        exact hs.hits d' c history (by simpa using hmem)
      · intro d' hmem
        rcases List.mem_append.1 hmem with hmem | hmem
        · exact hs.sent d' hmem
        · obtain rfl : d' = d := by simpa using hmem
          exact fun hvideo => hno (howed hvideo)
  · have hsome := not_not.1 (mt h.noCall_iff.2 hnone)
    exact iff_of_true (hs.congr rfl) fun _ => hsome

theorem hitsVideoCall_sends (h : Remembers s) (hs : HitsVideoCall s) :
    HitsVideoCall (sends d s) ↔
      ∃ c ≠ NO_CALL, LatestVideoCall s.history d.socket_id c ∧
        ∃ response, lastLine s.history d.socket_id c = some response ∧ 0 < response.type := by
  rw [← h.sends_iff]
  unfold sends
  constructor
  · intro hhits
    exact hhits.hits d _ _ (by simp)
  · intro hsends
    constructor
    · intro d' c history hmem
      rcases List.mem_append.1 hmem with hmem | hmem
      · exact hs.hits d' c history hmem
      · obtain ⟨rfl, rfl, rfl⟩ : d' = d ∧ c = s.s_videoCallId d.socket_id ∧ history = s.history := by simpa using hmem
        exact hsends
    · intro d' hmem
      exact hs.sent d' (by simpa using hmem)

theorem hitsVideoCall_start : HitsVideoCall (State.start : State SIM_COUNT) := by
  constructor
  · rintro d c history ⟨⟩
  · rintro d ⟨⟩

theorem hitsVideoCall_step (s : State SIM_COUNT) (a : Label SIM_COUNT) (s' : State SIM_COUNT) (h : Remembers s)
    (hs : HitsVideoCall s) (hknows : KnowsVideoCall s a) (hstep : step s a = some s') : HitsVideoCall s' := by
  unfold step at hstep
  split at hstep
  · next socket_id line =>
    obtain rfl := Option.some.inj hstep
    exact hs.congr (outcomes_processCallUnsolicited line)
  · obtain rfl := Option.some.inj hstep
    exact hs.congr rfl
  · next k =>
    obtain ⟨hidle, hstep⟩ := Option.ite_none_right_eq_some.1 hstep
    obtain ⟨d, hd, rfl⟩ := Option.map_eq_some_iff.1 hstep
    have hrest : Remembers { s with queued := s.queued.eraseIdx k } := h
    exact (hitsVideoCall_starts hrest (hs.congr rfl)).2 (hknows hidle d hd)
  · obtain ⟨d, hd, rfl⟩ := Option.map_eq_some_iff.1 hstep
    exact (hitsVideoCall_sends h hs).2 (hknows d hd)

/-- A step that does not know the video call breaks the property. -/
theorem step_misses (s : State SIM_COUNT) (a : Label SIM_COUNT) (h : Remembers s) (hknows : ¬ KnowsVideoCall s a) :
    ∃ s', step s a = some s' ∧ ¬ HitsVideoCall s' := by
  unfold KnowsVideoCall at hknows
  split at hknows
  · next k =>
    push Not at hknows
    obtain ⟨hidle, d, hd, hvideo, hnone⟩ := hknows
    refine ⟨starts d { s with queued := s.queued.eraseIdx k }, by simp [step, hidle, hd], fun hhits => ?_⟩
    have hno : s.s_videoCallId d.socket_id = NO_CALL := h.noCall_iff.2 (by push Not; exact hnone)
    refine hhits.sent d ?_ hvideo
    unfold starts
    rw [if_pos hno]
    simp
  · push Not at hknows
    obtain ⟨d, hd, hnone⟩ := hknows
    refine ⟨sends d s, by simp [step, hd], fun hhits => ?_⟩
    have hsent := h.sends_iff.1 (hhits.hits d _ _ (by simp [sends]))
    obtain ⟨c, hc, hlatest, response, hline, htype⟩ := hsent
    exact absurd htype (not_lt.2 (hnone c hc hlatest response hline))
  · exact absurd trivial hknows

/-- **In every run, the downgrades hit video calls exactly if each one that starts for a video call, and each one that
sends its command, finds a latest video call, and its last line has a type above 0 when the command is sent.** -/
theorem hitsVideoCall_iff_knowsVideoCall (SIM_COUNT : Nat) (labels : List (Label SIM_COUNT)) :
    Runs.Always step HitsVideoCall State.start labels ↔ Runs.Steps step KnowsVideoCall State.start labels :=
  Runs.always_iff_steps remembers_step hitsVideoCall_step step_misses remembers_start hitsVideoCall_start labels

/-- Calls 1 and 2 become active with a video, call 2 ends, and the bearer is lost. -/
def secondCallEnds : List (Label 1) := [
  .unsolicited 0 (ascii "^DSCI: 1,0,0,1"),
  .unsolicited 0 (ascii "^DSCI: 2,1,0,1"),
  .unsolicited 0 (ascii "^DSCI: 2,1,6,1"),
  .unsolicited 0 (ascii "+SPIMSPDPINFO: 11,0,2"),
  .starts 0]

/-- The downgrade is cancelled though call 1 is still active with a video. -/
theorem hitsVideoCall_fails_second_call_ends : ¬ Runs.Always step HitsVideoCall State.start secondCallEnds := by
  have hrun : (Runs.run step State.start secondCallEnds).map (·.outcomes) = some [.cancelled {
      socket_id := 0
      atLoss := [.dsci 0 ⟨2, 1, 6, 1⟩, .dsci 0 ⟨2, 1, 0, 1⟩, .dsci 0 ⟨1, 0, 0, 1⟩] }] := by
    decide
  obtain ⟨s, hrun, hs⟩ := Option.map_eq_some_iff.1 hrun
  intro h
  refine (h.last hrun).sent _ (by rw [hs]; exact List.mem_singleton_self _) ⟨1, by decide, ⟨1, 0, 0, 1⟩, rfl, ?_⟩
  exact ⟨by decide, rfl⟩

end UniRil.Call
