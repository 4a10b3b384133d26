import UniRil.NetworkRequests.Once

/-!
# When the radio answers

Turning the radio on or off reads the status of cards. A card that refuses AT+CPIN? without an error ends the process.
-/

namespace UniRil.NetworkRequests

open Flows Handlers FailRules
open AtTok (Line)

variable {ε : Type} (b : Build) (o : Outside) (socket_id : Nat)

/-! ## Cards -/

/-- The status of the card is read, or its radio is away. -/
def StatusRead (simId : Nat) (w : World Globals) : Prop :=
  (w.globals.slots simId).s_radioState ≠ .UNAVAILABLE → ¬ Sim.refusedWithoutError (w.answers 0)

/-- The states that are not known are read one after the other. -/
def StatesRead : List Nat → World Globals → Prop
  | [], _ => True
  | simId :: rest, w =>
    if (w.globals.slots simId).s_isSimPresent = .SIM_UNKNOWN then
      StatusRead simId w ∧ StatesRead rest (after (readSIMState b o simId : Handler Globals Pointer Unit) w)
    else StatesRead rest w

/-- What RADIO_POWER reads: the card of the request, and then those whose state is not known. -/
def PowerRead (data : Int) (w : World Globals) : Prop :=
  if data = 0 then StatusRead socket_id w
  else if 0 < data ∧ (w.globals.slots socket_id).s_radioState = .OFF then
    StatusRead socket_id w ∧
      StatesRead b o (List.range b.simCount) (after (awaitCard o socket_id : Handler Globals Pointer Unit) w)
  else True

section

variable {w : World Globals} {E : Exit ε → World Globals → Prop}

/-- The status is read and nobody is answered, or the process ends. -/
theorem ends_getSIMStatus (simId : Nat) :
    wp (getSIMStatus simId : Handler Globals ε Sim.SimStatus) (fun _ w' => StatusRead simId w ∧ Quiet w w')
      (fun e _ => e = .crashes ∧ ¬ StatusRead simId w) w := by
  have hread := Misc.wp_getSIMStatus (ε := ε) false (w.withGlobals (w.globals.slots simId))
  unfold getSIMStatus onSlot
  rw [wp_within]
  rcases exists_of_wp (Misc.completions_getSIMStatus (ε := ε) false (w.withGlobals (w.globals.slots simId))) with
    ⟨status, w', hrun, hw'⟩ | ⟨e, w', hrun, rfl⟩
  · rw [wp_of_ok hrun] at hread ⊢
    exact ⟨hread.1 hw', hw'⟩
  · rw [wp_of_error hrun] at hread ⊢
    exact ⟨rfl, fun h => hread.2 h⟩

theorem ends_readSIMState (simId : Nat) :
    wp (readSIMState b o simId : Handler Globals ε Unit) (fun _ w' => StatusRead simId w ∧ Quiet w w')
      (fun e _ => e = .crashes ∧ ¬ StatusRead simId w) w := by
  unfold readSIMState
  rw [wp_bind, onRadios, wp_within, RadioSwitch.wp_getChannel, wp_bind]
  refine wp_mono (ends_getSIMStatus simId) ?_ ?_
  · rintro status w' ⟨hread, hquiet⟩
    rw [onRadios, wp_within, RadioSwitch.wp_putChannel]
    exact ⟨hread, hquiet⟩
  · exact fun e w' h => h

theorem Quiet.trans {γ : Type} {w₁ w₂ w₃ : World γ} (h : Quiet w₁ w₂) (h' : Quiet w₂ w₃) : Quiet w₁ w₃ :=
  fun t => (h' t).trans (h t)

theorem wp_readSIMStates {w : World Globals} {Q : Unit → World Globals → Prop} {E : Exit Pointer → World Globals → Prop}
    (sims : List Nat) (hQ : ∀ w', Quiet w w' → Q ⟨⟩ w') (hE : ∀ w', ¬ E .crashes w') :
    wp (readSIMStates b o sims) Q E w ↔ StatesRead b o sims w := by
  induction sims generalizing w with
  | nil => exact iff_of_true (hQ w fun _ => rfl) trivial
  | cons simId rest ih =>
    rw [readSIMStates, StatesRead, wp_bind, wp_getGlobals]
    by_cases hunknown : (w.globals.slots simId).s_isSimPresent = .SIM_UNKNOWN
    · simp only [hunknown, if_true, wp_bind]
      rcases exists_of_wp (ends_readSIMState (ε := Pointer) b o (w := w) simId) with
        ⟨_, w', hrun, hread, hquiet⟩ | ⟨e, w', hrun, rfl, hread⟩
      · rw [wp_of_ok hrun, and_iff_right hread, after, hrun]
        exact ih fun w'' hw'' => hQ w'' (hquiet.trans hw'')
      · rw [wp_of_error hrun]
        exact iff_of_false (hE w') fun h => hread h.1
    · simp only [hunknown, if_false]
      exact ih hQ

/-! ## The radio -/

@[simp] theorem quiet_sendWorkMode : Returns Quiet (sendWorkMode b : Handler Globals ε Unit) := by
  rw [returns_iff]
  intro w
  simp [sendWorkMode, onRadios, RadioSwitch.setWorkMode, Quiet]

@[simp] theorem quiet_sendAttach : Returns Quiet (sendAttach b socket_id : Handler Globals ε Unit) := by
  rw [returns_iff]
  intro w
  simp [sendAttach, sendDataCard, Quiet]

/-- The radio is on, or the code at the label goes on. -/
theorem ends_turnOn : wp (turnOn o socket_id) (fun _ w' => Quiet w w') (fun e w' => (∃ p, e = .goto p) ∧ Quiet w w')
    w := by
  simp [turnOn, Quiet]

theorem ends_powerOff :
    wp (powerOff socket_id) (fun _ w' => StatusRead socket_id w ∧ Quiet w w')
      (fun e w' => (∃ p, e = .goto p) ∧ StatusRead socket_id w ∧ Quiet w w' ∨ e = .crashes ∧ ¬ StatusRead socket_id w)
      w := by
  unfold powerOff
  rw [wp_bind]
  refine wp_mono (ends_getSIMStatus socket_id) ?_ fun e _ h => .inr h
  rintro status w' ⟨hread, hquiet⟩
  have hcompletions : ∀ t, w'.completions t = w.completions t := hquiet
  simp [hread, hcompletions, Quiet]

theorem ends_awaitCard :
    wp (awaitCard o socket_id : Handler Globals ε Unit) (fun _ w' => StatusRead socket_id w ∧ Quiet w w')
      (fun e _ => e = .crashes ∧ ¬ StatusRead socket_id w) w := by
  unfold awaitCard
  rw [wp_bind]
  refine wp_mono (ends_getSIMStatus socket_id) ?_ fun e _ h => h
  rintro status w' ⟨hread, hquiet⟩
  have hcompletions : ∀ t, w'.completions t = w.completions t := hquiet
  simp [hread, hcompletions, Quiet]

end

/-- The code at the label of requestRadioPower. -/
def failPower (t : RIL_Token) (p_response : Pointer) : Handler Globals ε Unit := do
  at_response_free p_response
  RIL_onRequestComplete t .GENERIC_FAILURE .NULL

section

variable {t n : Nat} {w : World Globals}

theorem fails_failPower : Fails (failPower (some t)) t n := by
  rintro (_ | r) w hw
  · simp [failPower, hw]
  · simp [failPower, hw]

theorem onceIn_completePower (hw : w.completions (some t) = n) (p_response : Pointer) :
    OnceIn (failPower (some t)) t n (completePower (some t) p_response) w := by
  cases p_response with
  | none => simp [OnceIn, completePower, hw]
  | some r => simp [OnceIn, completePower, hw]

/-- The work modes are sent and the radio is turned on. -/
theorem onceIn_turnOn (hw : w.completions (some t) = n) :
    OnceIn (failPower (some t)) t n
      (do
        sendWorkMode b
        sendAttach b socket_id
        let p_response ← turnOn o socket_id
        completePower (some t) p_response) w := by
  unfold OnceIn
  rw [wp_labelled, wp_bind, wp_of_returns (quiet_sendWorkMode b), wp_bind, wp_of_returns (quiet_sendAttach b socket_id),
    wp_bind]
  refine wp_mono (ends_turnOn o socket_id) (fun p_response w' hquiet => ?_) ?_
  · have hw' : w'.completions (some t) = n := by simpa [hw] using hquiet (some t)
    rw [← wp_labelled]
    exact onceIn_completePower hw' p_response
  · rintro _ w' ⟨⟨p, rfl⟩, hquiet⟩
    exact fails_failPower p w' (by simpa [hw] using hquiet (some t))

/-- Behind the cards the request is always answered. -/
theorem onceIn_behindCards (hw : w.completions (some t) = n) :
    OnceIn (failPower (some t)) t n
      (do
        let g ← getGlobals
        if Sim.getProperty (g.slots socket_id).SIM_ENABLED_PROP (ascii "1") = ascii "0" then
          goto none
        match missingCard b socket_id g with
        | some switchOther => do
          if switchOther then
            modifyGlobals fun g => { g with queued := g.queued ++ [1 - socket_id] }
          RIL_onUnsolicitedResponse .RIL_UNSOL_RESPONSE_SIM_STATUS_CHANGED
          RIL_onRequestComplete (some t) .SUCCESS .NULL
        | none => do
          sendWorkMode b
          sendAttach b socket_id
          let p_response ← turnOn o socket_id
          completePower (some t) p_response) w := by
  have hfail := @fails_failPower t n
  unfold OnceIn
  rw [wp_labelled, wp_bind, wp_getGlobals, ← wp_labelled]
  dsimp only
  by_cases henabled : Sim.getProperty (w.globals.slots socket_id).SIM_ENABLED_PROP (ascii "1") = ascii "0"
  · rw [if_pos henabled]
    exact onceIn_goto hfail hw none
  · rw [if_neg henabled]
    cases missingCard b socket_id w.globals with
    | some switchOther => cases switchOther <;> simp [hw]
    | none => exact onceIn_turnOn b o socket_id hw

theorem onceIn_powerOn (hw : w.completions (some t) = n) :
    OnceIn (failPower (some t)) t n (powerOn b o socket_id (some t)) w ↔
      StatusRead socket_id w ∧
        StatesRead b o (List.range b.simCount) (after (awaitCard o socket_id : Handler Globals Pointer Unit) w) := by
  unfold OnceIn powerOn
  rw [wp_labelled, wp_bind]
  rcases exists_of_wp (ends_awaitCard (ε := Pointer) o socket_id (w := w)) with
    ⟨_, w', hrun, hread, hquiet⟩ | ⟨e, w', hrun, rfl, hread⟩
  · rw [wp_of_ok hrun, and_iff_right hread, after, hrun, wp_bind, initSIMPresentState, wp_bind]
    refine wp_readSIMStates b o _ (fun w'' hw'' => ?_) fun _ => id
    have hcompletions : w''.completions (some t) = n := ((hquiet.trans hw'') (some t)).trans hw
    rw [wp_modifyGlobals, ← wp_labelled]
    exact onceIn_behindCards b o socket_id (by simpa using hcompletions)
  · rw [wp_of_error hrun]
    exact iff_of_false id fun h => hread h.1

theorem once_requestRadioPower (data : Int) :
    Once t (requestRadioPower b o socket_id data (some t)) w ↔
      PowerRead b o socket_id data (w.setGlobals fun g =>
        { g with s_desiredRadioState := Function.update g.s_desiredRadioState socket_id data }) := by
  unfold Once requestRadioPower PowerRead
  rw [wp_labelled, wp_bind, wp_modifyGlobals, wp_bind, wp_getGlobals]
  generalize hstart : w.setGlobals _ = w'
  have hw : w'.completions (some t) = w.completions (some t) := by rw [← hstart, completions_setGlobals]
  rw [← hw, ← wp_labelled]
  split
  · rw [wp_labelled, wp_bind]
    refine wp_iff_of_wp (ends_powerOff socket_id) ?_ ?_
    · rintro p_response w'' ⟨hread, hquiet⟩
      refine iff_of_true ?_ hread
      rw [← wp_labelled]
      exact onceIn_completePower (hquiet (some t)) p_response
    · rintro _ w'' (⟨⟨p, rfl⟩, hread, hquiet⟩ | ⟨rfl, hread⟩)
      · exact iff_of_true (fails_failPower p w'' (hquiet (some t))) hread
      · exact iff_of_false id hread
  · split
    · exact onceIn_powerOn b o socket_id rfl
    · exact iff_of_true (onceIn_completePower rfl none) trivial

end

end UniRil.NetworkRequests
