import UniRil.NetworkRequests.RadioPower

/-!
# One answer for each request of the network

Two switches of a modem with LTE send AT+SPTESTMODE, which another thread answers: these are left to it.
-/

namespace UniRil.NetworkRequests

open Flows Handlers FailRules
open AtTok (Line)
open Network (RIL_RadioCapability)
open RadioSwitch (Radios startRadios shutDownRadios applySetRadioCapability)
open RequestThreads.Channels (Config)
open Sim (lineOf)

/-! ## The switch of the radios -/

section

variable {cfg : Config} {idle : Nat → Nat} {socket_id channelID : Nat} {channel : Nat → Option Nat} {w : World Radios}

/-- Nobody was told anything, and the radios are as they were. -/
def Unmoved (w w' : World Radios) : Prop := Quiet w w' ∧ w'.globals.s_radioState = w.globals.s_radioState

theorem Unmoved.trans {w₁ w₂ w₃ : World Radios} (h : Unmoved w₁ w₂) (h' : Unmoved w₂ w₃) : Unmoved w₁ w₃ :=
  ⟨h.1.trans h'.1, h'.2.trans h.2⟩


@[simp] theorem unmoved_refl : Unmoved w w := ⟨fun _ => rfl, rfl⟩

section

variable {w' : World Radios}

@[simp] theorem unmoved_sends (cmd : Line) : Unmoved w (w'.sends cmd) ↔ Unmoved w w' := by simp [Unmoved, Quiet]
@[simp] theorem unmoved_gives : Unmoved w w'.gives ↔ Unmoved w w' := by simp [Unmoved, Quiet]
@[simp] theorem unmoved_reads (r : Nat) : Unmoved w (w'.reads r) ↔ Unmoved w w' := by simp [Unmoved, Quiet]
@[simp] theorem unmoved_frees (r : Nat) : Unmoved w (w'.frees r) ↔ Unmoved w w' := by simp [Unmoved, Quiet]

theorem unmoved_setGlobals {f : Radios → Radios} (hf : ∀ g, (f g).s_radioState = g.s_radioState) :
    Unmoved w (w'.setGlobals f) ↔ Unmoved w w' := by
  simp [Unmoved, Quiet, hf]

@[simp] theorem unmoved_obtain (c : Nat) : Unmoved w (w'.setGlobals fun g => g.obtain c) ↔ Unmoved w w' :=
  unmoved_setGlobals fun _ => rfl

@[simp] theorem unmoved_releaseOther (simId : Nat) :
    Unmoved w (w'.setGlobals fun g => g.releaseOther cfg socket_id channel simId) ↔ Unmoved w w' :=
  unmoved_setGlobals fun g => RadioSwitch.s_radioState_releaseOther g simId

theorem s_radioState_foldl (sims : List Nat) (g : Radios) :
    (sims.foldl (Radios.releaseOther cfg socket_id channel) g).s_radioState = g.s_radioState := by
  induction sims generalizing g with
  | nil => rfl
  | cons simId rest ih => rw [List.foldl_cons, ih, RadioSwitch.s_radioState_releaseOther]

@[simp] theorem unmoved_foldl (sims : List Nat) :
    Unmoved w (w'.setGlobals fun g => sims.foldl (Radios.releaseOther cfg socket_id channel) g) ↔ Unmoved w w' :=
  unmoved_setGlobals (s_radioState_foldl sims)

end

/-- The second loop ends, or the code at the label goes on. -/
theorem wp_startRadios_of_ends {Q : Unit → World Radios → Prop} {E : Exit Pointer → World Radios → Prop} (cmd : Line)
    (sims : List Nat) (hchannel : ∀ s ∈ sims, w.globals.s_radioState s ≠ .OFF → channel s ≠ none)
    (hQ : ∀ w', Unmoved w w' → Q ⟨⟩ w') (hE : ∀ p w', Unmoved w w' → E (.goto p) w') :
    wp (startRadios cfg socket_id channel cmd sims) Q E w := by
  induction sims generalizing w with
  | nil => exact hQ w unmoved_refl
  | cons simId rest ih =>
    have hnext : ∀ w', Unmoved w w' → wp (startRadios cfg socket_id channel cmd rest) Q E w' := by
      intro w' hw'
      refine ih ?_ (fun w'' h => hQ w'' (hw'.trans h)) fun p w'' h => hE p w'' (hw'.trans h)
      rw [hw'.2]
      exact fun s hs => hchannel s (List.mem_cons_of_mem simId hs)
    by_cases hoff : w.globals.s_radioState simId = .OFF
    · simp [startRadios, hoff, hnext]
    · obtain ⟨c, hc⟩ := Option.ne_none_iff_exists'.1 (hchannel simId (by simp) hoff)
      simp [startRadios, hoff, hc, hnext, hE]

/-- The first loop ends with a channel for each SIM whose radio is on, or the code at the label goes on. -/
theorem wp_shutDownRadios_of_ends {Q : (Nat → Option Nat) → World Radios → Prop}
    {E : Exit Pointer → World Radios → Prop} (all sims : List Nat)
    (hbefore : ∀ s ∈ all, s ∉ sims → w.globals.s_radioState s ≠ .OFF → channel s ≠ none)
    (hQ : ∀ channel w', Unmoved w w' → (∀ s ∈ all, w'.globals.s_radioState s ≠ .OFF → channel s ≠ none) → Q channel w')
    (hE : ∀ p w', Unmoved w w' → E (.goto p) w') :
    wp (shutDownRadios cfg idle socket_id channelID sims channel) Q E w := by
  induction sims generalizing channel w with
  | nil => exact hQ channel w unmoved_refl fun s hs => hbefore s hs (by simp)
  | cons simId rest ih =>
    have hnext : ∀ channel' w', Unmoved w w' →
        (∀ s ∈ all, s ∉ rest → w.globals.s_radioState s ≠ .OFF → channel' s ≠ none) →
        wp (shutDownRadios cfg idle socket_id channelID rest channel') Q E w' := by
      intro channel' w' hw' hchannel'
      refine ih ?_ (fun c w'' h => hQ c w'' (hw'.trans h)) fun p w'' h => hE p w'' (hw'.trans h)
      rwa [hw'.2]
    by_cases hoff : w.globals.s_radioState simId = .OFF
    · have hskip : ∀ s ∈ all, s ∉ rest → w.globals.s_radioState s ≠ .OFF → channel s ≠ none := by
        intro s hs hrest hon
        refine hbefore s hs ?_ hon
        rintro (_ | ⟨_, hmem⟩)
        · exact hon hoff
        · exact hrest hmem
      simpa [shutDownRadios, hoff] using hnext channel w unmoved_refl hskip
    · have hupdate : ∀ c s, s ∈ all → s ∉ rest → w.globals.s_radioState s ≠ .OFF →
          Function.update channel simId (some c) s ≠ none := by
        intro c s hs hrest hon
        by_cases heq : s = simId
        · simp [heq]
        · rw [Function.update_of_ne heq]
          exact hbefore s hs (by simp [heq, hrest]) hon
      by_cases hown : simId = socket_id
      · subst hown
        simp [shutDownRadios, hoff, hE]
        exact fun f _ _ _ => hnext _ _ (by simp) (hupdate channelID)
      · simp [shutDownRadios, hoff, hown, hE]
        exact fun f _ _ _ => hnext _ _ (by simp) (hupdate (idle simId))

theorem quiet_applySetRadioCapability {ε : Type} (rat : Int) :
    Returns Quiet (applySetRadioCapability cfg idle rat socket_id channelID : Handler Radios ε Int) := by
  rw [returns_iff]
  intro w
  have hfail : ∀ (p : Pointer) w', Quiet w w' →
      atLabel (fun p => (do at_response_free p; pure 0 : Handler Radios ε Int)) (fun _ w' => Quiet w w')
        (fun _ _ => False) (.goto p) w' := by
    rintro (_ | r) w' hw' <;> simpa [Quiet] using hw'
  unfold applySetRadioCapability
  rw [wp_labelled, wp_bind, wp_getGlobals]
  cases RadioSwitch.newMultiModeSim cfg rat socket_id w.globals.s_multiModeSim with
  | none => exact fun _ => rfl
  | some simId =>
    simp only [Option.elim_some, wp_bind, wp_modifyGlobals]
    refine wp_shutDownRadios_of_ends (List.range cfg.s_simCount) (List.range cfg.s_simCount)
      (fun s hs hs' => absurd hs hs') (fun channel w' hw' hchannel => ?_) fun p w' hw' => hfail p w' ?_
    · rw [RadioSwitch.setWorkMode, wp_bind, wp_modifyGlobals, wp_bind, wp_getGlobals, wp_bind]
      refine wp_startRadios_of_ends _ _ hchannel (fun w'' hw'' => ?_) fun p w'' hw'' => hfail p w'' ?_
      all_goals exact fun t => by simpa using (hw''.1 t).trans (hw'.1 t)
    · exact fun t => by simpa using hw'.1 t
end

/-! ## The radio capability and the modes -/

section

variable {ε : Type} {b : Build} {o : Outside} {socket_id channelID t : Nat} {w : World Globals}

@[simp] theorem quiet_sendUnsolRadioCapability :
    Returns Quiet (sendUnsolRadioCapability b : Handler Globals ε Unit) := by
  rw [returns_iff]
  intro w
  simp [sendUnsolRadioCapability, Quiet]

/-- The globals behind the request of the SIM to switch. -/
def Globals.asked (socket_id : Nat) (rc : RIL_RadioCapability) (g : Globals) : Globals :=
  { g with
    s_sessionId := Function.update g.s_sessionId socket_id rc.session
    s_requestSetRC := Function.update g.s_requestSetRC socket_id 1 }

/-- The thread of the request answers. -/
def Synchronous (b : Build) (socket_id : Nat) (r : Request) (g : Globals) : Prop :=
  b.network.s_isLTE = true →
    match r with
    | .SET_PREFERRED_NETWORK_TYPE data =>
      let type := preferredTypeLTE b socket_id data g
      type ≠ 0 → keepsMode b socket_id type g
    | .SET_RADIO_CAPABILITY rc =>
      Sim.getProperty g.FIXED_SLOT_PROP (ascii "false") ≠ ascii "true" → rc.phase = Network.RC_PHASE_APPLY →
        (g.asked socket_id rc).allAsked b = true → keepsPrimarySim b socket_id rc.rat g
    | _ => True

theorem once_requestSetLTEPreferredNetType (data : Int)
    (h : preferredTypeLTE b socket_id data w.globals ≠ 0 →
      keepsMode b socket_id (preferredTypeLTE b socket_id data w.globals) w.globals) :
    Once t (requestSetLTEPreferredNetType b socket_id data (some t)) w := by
  by_cases htype : preferredTypeLTE b socket_id data w.globals = 0
  · simp [Once, requestSetLTEPreferredNetType, htype]
  · simp [Once, requestSetLTEPreferredNetType, htype, h htype]

theorem once_requestGetRadioCapability : Once t (requestGetRadioCapability b socket_id (some t)) w := by
  simp [Once, requestGetRadioCapability]

theorem once_applyCapability (rc : RIL_RadioCapability)
    (h : b.network.s_isLTE = true → keepsPrimarySim b socket_id rc.rat w.globals) :
    Once t (applyCapability b o socket_id channelID rc (some t)) w := by
  unfold Once applyCapability
  rw [wp_bind, wp_modifyGlobals]
  generalize hcleared : w.setGlobals _ = w'
  have hw : w'.completions (some t) = w.completions (some t) := by rw [← hcleared, completions_setGlobals]
  rw [← hw]
  by_cases hlte : b.network.s_isLTE = true
  · have hkeeps : keepsPrimarySim b socket_id rc.rat w'.globals := by
      rw [← hcleared]
      exact h hlte
    simp [hlte, hkeeps, wp_of_returns quiet_sendUnsolRadioCapability]
  · have hquiet : Returns Quiet
        (onRadios (applySetRadioCapability b.channels o.idle rc.rat socket_id channelID) : Handler Globals Empty Int) :=
      quiet_within _ _ (quiet_applySetRadioCapability rc.rat)
    simp [hlte, wp_of_returns hquiet, hquiet, wp_of_returns quiet_sendUnsolRadioCapability]

theorem once_requestSetRadioCapability (rc : RIL_RadioCapability)
    (h : b.network.s_isLTE = true → rc.phase = Network.RC_PHASE_APPLY →
      (w.globals.asked socket_id rc).allAsked b = true → keepsPrimarySim b socket_id rc.rat w.globals) :
    Once t (requestSetRadioCapability b o socket_id channelID rc (some t)) w := by
  unfold Once requestSetRadioCapability
  split
  · simp
  · split
    · simp
    · split
      · rename_i happly
        rw [wp_bind, wp_modifyGlobals, wp_bind, wp_modifyGlobals, wp_bind, wp_getGlobals]
        generalize hasked : (w.setGlobals _).setGlobals _ = w'
        have hglobals : w'.globals = w.globals.asked socket_id rc := by
          rw [← hasked]
          rfl
        have hw : w'.completions (some t) = w.completions (some t) := by simp [← hasked]
        rw [hglobals, ← hw]
        split
        · rename_i hall
          refine once_applyCapability _ fun hlte => ?_
          rw [hglobals]
          exact h hlte happly hall
        · simp
      · simp

/-! ## The requests -/

/-- The request is answered. -/
def Answerable (b : Build) (o : Outside) (socket_id : Nat) (r : Request) (w : World Globals) : Prop :=
  match r with
  | .SIGNAL_STRENGTH => b.network.s_isLTE = true → lineOf (ascii "+CESQ:") (w.answers 0) ≠ none
  | .OPERATOR => AnswerFits (w.withGlobals w.globals.operators)
  | .RADIO_POWER data =>
    PowerRead b o socket_id data (w.setGlobals fun g =>
      { g with s_desiredRadioState := Function.update g.s_desiredRadioState socket_id data })
  | .SET_NETWORK_SELECTION_MANUAL data => data ≠ none
  | .QUERY_AVAILABLE_NETWORKS =>
    ∀ line, lineOf (ascii "+COPS:") (w.answers 0) = some line → ListEnds o.updateNetworkList line
  | .GET_NEIGHBORING_CELL_IDS =>
    (w.globals.slots socket_id).s_isSimPresent = .PRESENT → NeighboursFit o.stackRoom neighbourPrefixes w.answers
  | .GET_CELL_INFO_LIST => CellsCounted b.network.s_isLTE o.uninitialised w.answers (w.allocates 0)
  | .UPDATE_OPERATOR_NAME plmn =>
    plmn = none → w.globals.operators.s_operatorInfoList ≠ [] →
      ∀ name, o.updatePlmn ARRAY_SIZE none = some name → name.1 = []
  | _ => True

theorem once_within {γ γ' : Type} {view : γ' → γ} {update : γ → γ' → γ'} {m : Handler γ Empty Unit} {w : World γ'} :
    Once t (within view update m) w ↔ Once t m (w.withGlobals (view w.globals)) := by
  unfold Once
  rw [wp_within]
  rfl

theorem once_between {f f' : Globals → Globals} {m : Handler Globals Empty Unit} :
    Once t (do modifyGlobals f; m; modifyGlobals f') w ↔ Once t m (w.setGlobals f) := by
  unfold Once
  rw [wp_bind, wp_modifyGlobals, wp_bind]
  refine wp_congr (fun _ w' => ?_) fun _ _ => Iff.rfl
  rw [wp_modifyGlobals, completions_setGlobals, completions_setGlobals]

theorem once_processNetworkRequests (r : Request) (h : Synchronous b socket_id r w.globals) :
    Once t (processNetworkRequests b o socket_id channelID r (some t)) w ↔ Answerable b o socket_id r w := by
  cases r with
  | SIGNAL_STRENGTH =>
    simp only [processNetworkRequests, Answerable]
    split
    · rename_i hlte
      rw [once_requestSignalStrengthLTE, forall_prop_of_true hlte]
    · rename_i hlte
      exact iff_of_true (once_requestSignalStrength o t) fun h => absurd h hlte
  | REGISTRATION request =>
    refine iff_of_true ?_ trivial
    rw [processNetworkRequests, once_within]
    exact once_requestRegistrationState t _ request
  | OPERATOR =>
    rw [processNetworkRequests, once_within]
    exact once_requestOperator t _ _
  | RADIO_POWER data => exact once_requestRadioPower b o socket_id data
  | QUERY_NETWORK_SELECTION_MODE => exact iff_of_true (once_requestQueryNetworkSelectionMode t) trivial
  | SET_NETWORK_SELECTION_AUTOMATIC => exact iff_of_true (once_setNetworkSelectionAutomatic socket_id t) trivial
  | SET_NETWORK_SELECTION_MANUAL data => exact once_between.trans (once_requestNetworkRegistration t data)
  | QUERY_AVAILABLE_NETWORKS => exact once_between.trans (once_requestNetworkList t _ _)
  | RESET_RADIO => exact iff_of_true (once_requestResetRadio socket_id t) trivial
  | SET_BAND_MODE data => exact iff_of_true (once_sendAll t _ _ _) trivial
  | QUERY_AVAILABLE_BAND_MODE => exact iff_of_true (once_complete t _ _) trivial
  | SET_PREFERRED_NETWORK_TYPE data =>
    refine iff_of_true ?_ trivial
    simp only [processNetworkRequests]
    split
    · rename_i hlte
      exact once_requestSetLTEPreferredNetType data (h hlte)
    · exact once_requestSetPreferredNetType b o socket_id t data
  | GET_PREFERRED_NETWORK_TYPE =>
    refine iff_of_true ?_ trivial
    simp only [processNetworkRequests]
    split
    · exact once_requestGetLTEPreferredNetType socket_id t
    · exact once_requestGetPreferredNetType o t
  | GET_NEIGHBORING_CELL_IDS => exact once_requestNeighboaringCellIds o socket_id
  | SET_LOCATION_UPDATES enable => exact iff_of_true (once_requestSetLocationUpdates t enable) trivial
  | GET_CELL_INFO_LIST => exact once_requestGetCellInfoList _ _ _
  | SET_UNSOL_CELL_INFO_LIST_RATE => exact iff_of_true (once_complete t _ _) trivial
  | SHUTDOWN => exact iff_of_true (once_requestShutdown socket_id t) trivial
  | GET_RADIO_CAPABILITY => exact iff_of_true once_requestGetRadioCapability trivial
  | SET_RADIO_CAPABILITY rc =>
    refine iff_of_true ?_ trivial
    unfold Once processNetworkRequests
    rw [wp_bind, wp_getGlobals]
    split
    · exact once_complete t _ _
    · rename_i hfixed
      exact once_requestSetRadioCapability rc fun hlte => h hlte hfixed
  | GET_IMS_BEARER_STATE =>
    refine iff_of_true ?_ trivial
    simp [Once, processNetworkRequests]
  | STOP_QUERY_NETWORK => exact iff_of_true (once_completeByOutcome t _) trivial
  | UPDATE_OPERATOR_NAME plmn => exact once_requestUpdateOperatorName o t plmn
  | START_NETWORK_SCAN data =>
    refine iff_of_true ?_ trivial
    rw [processNetworkRequests, once_within]
    exact once_requestStartNetworkScan t data
  | STOP_NETWORK_SCAN =>
    refine iff_of_true ?_ trivial
    simp [Once, processNetworkRequests]
  | SET_EMERGENCY_ONLY value => exact iff_of_true (once_requestSetEmergencyOnly t value) trivial

end

/-- The handler comes back, and the token of the request was answered once. -/
def AnsweredOnce (b : Build) (o : Outside) (socket_id channelID : Nat) (r : Request) (t : Nat) (answers : Nat → Answer)
    (allocates : Nat → Bool) (g : Globals) : Prop :=
  wp (processNetworkRequests b o socket_id channelID r (some t)) (fun _ w => w.completions (some t) = 1)
    (fun _ _ => False) (.start answers allocates g)

/-- Two SIMs on a modem with LTE. -/
def lteModem : Build where
  channels := RadioSwitch.twoSims
  network :=
    { s_isLTE := true, s_modemConfig := .LWG_LWG, s_modem := ascii "l"
      modemConfig := ascii "TL_LF_TD_W_G,TL_LF_TD_W_G" }
  s_roModemConfig := .LWG_LWG

/-- Nothing is known of any operator, and nobody else does anything. -/
def alone : Outside where
  whileWaiting := id
  timesOut := false
  idle := fun _ => 1
  RIL_getONS := fun _ => none
  updatePlmn := fun _ _ => none
  updateNetworkList := fun _ => none
  stale := ⟨fun _ => none, fun _ => 0⟩
  uninitialised := ⟨0, 0, 0⟩
  type := 0
  numToStr := []
  ril_nano_time := 0
  stackRoom := 0

/-- Both radios are on, and the first SIM is the one with LTE. -/
def bothReady : Globals where
  slots := fun _ => Sim.idleSlot
  pdps := fun _ => .init
  shared := .init
  calls :=
    { s_isSimPresent := Call.Requests.PRESENT, s_callFailCause := Call.Requests.CALL_FAIL_ERROR_UNSPECIFIED
      s_maybeAddCall := 0, s_realEccList := none, s_DTMFList := [] }
  registration :=
    { s_PSRegStateDetail := 0, inService := false, s_in2G := false, s_in4G := false, s_imsRegistered := 0 }
  operators := { s_nitzOperatorInfo := [], s_operatorXmlInfoList := [], s_operatorInfoList := [] }
  s_multiModeSim := 0
  s_workMode := fun _ => Network.TD_LTE_AND_LTE_FDD_AND_W_AND_TD_AND_GSM
  s_desiredRadioState := fun _ => 1
  s_requestSetRC := fun _ => 0
  s_sessionId := fun _ => 0
  s_radioAccessFamily := fun _ => 0
  s_dataAllowed := fun _ => 0
  s_radioOnError := fun _ => false
  s_imsBearerEstablished := fun _ => 0
  s_presentSIMCount := 2
  s_setNetworkId := -1
  s_manualSearchNetworkId := -1
  ENGTEST_ENABLE_PROP := []
  COPS_MODE_PROP := []
  CEMODE_PROP := []
  LTE_MANUAL_ATTACH_PROP := []
  FIXED_SLOT_PROP := []
  PRIMARY_SIM_PROP := ascii "0"
  MODEM_WORKMODE_PROP := ascii "9,9"
  obtained := []
  released := []
  queued := []

end UniRil.NetworkRequests
