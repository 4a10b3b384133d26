import UniRil.Call.Requests
import UniRil.Handlers.Rules

/-!
# One answer for each call request

The handlers of ril_call.c answer once, whatever the modem says. What they cannot bear is a string that is missing.
-/

namespace UniRil.Call.Requests

open Flows Handlers CurrentCalls FailRules
open AtTok (Line)

variable {ε : Type}

/-- One answer more. -/
def Once (t : Nat) (m : Handler Globals Empty Unit) (w : World Globals) : Prop :=
  wp m (fun _ w' => w'.completions (some t) = w.completions (some t) + 1) (fun _ _ => False) w

section

variable {w : World Globals} (t : Nat)

theorem once_complete (e : RIL_Errno) (response : Payload) :
    Once t (RIL_onRequestComplete (some t) e response) w := by
  simp [Once]

theorem once_sendAndComplete (cmd : Line) : Once t (sendAndComplete cmd (some t)) w := by
  simp [Once, sendAndComplete, completeByOutcome]

theorem once_sendNULLAndComplete (cmd : Line) : Once t (sendNULLAndComplete cmd (some t)) w := by
  simp [Once, sendNULLAndComplete]

theorem once_sendOrFailWith (cmd finalResponse : Line) (e : RIL_Errno) :
    Once t (sendOrFailWith cmd finalResponse e (some t)) w := by
  simp [Once, sendOrFailWith, failWith]

theorem once_currentCalls {κ : Type} (cmd responsePrefix : Line) (fromLine : Line → κ → Int → Bool × κ × Int) (zero : κ)
    (row : κ → List Int × List (Option Line)) :
    Once t (currentCalls cmd responsePrefix fromLine zero row (some t)) w := by
  simp [Once, currentCalls, sendCLCC]

theorem once_requestDial (p_dial : RIL_Dial) : Once t (requestDial p_dial (some t)) w := by
  simp [Once, requestDial]

theorem once_requestEccDial (p_dial : RIL_Dial) (catgry : Int) : Once t (requestEccDial p_dial (some t) catgry) w := by
  simp [Once, requestEccDial]

theorem once_requestVideoPhoneDial (address : Option Line) : Once t (requestVideoPhoneDial address (some t)) w := by
  simp [Once, requestVideoPhoneDial, sendNULLAndComplete]

theorem once_requestHangup (line : Int) : Once t (requestHangup line (some t)) w := by
  simp [Once, requestHangup, all_calls, sendCLCC, sendOrFailWith, failWith]

theorem once_CHLD0 : Once t (CHLD0 (some t)) w := by
  simp [Once, CHLD0, sendAndComplete, completeByOutcome]

theorem once_requestSeparateConnection (party : Int) : Once t (requestSeparateConnection party (some t)) w := by
  simp [Once, requestSeparateConnection, CHLD, sendOrFailWith, failWith]

theorem once_cavims : Once t (cavims (some t)) w := by
  simp [Once, cavims]

theorem once_setCavims (state : Int) : Once t (setCavims state (some t)) w := by
  simp [Once, setCavims, sendAndComplete, completeByOutcome]

theorem once_asprintfAndComplete (cmd : Line) : Once t (asprintfAndComplete cmd (some t)) w := by
  simp [Once, asprintfAndComplete, sendAndComplete, completeByOutcome]

theorem once_requestGetVideoResolution : Once t (requestGetVideoResolution (some t)) w := by
  simp [Once, requestGetVideoResolution, queryLine]

theorem once_requestGetImsPaniInfo : Once t (requestGetImsPaniInfo (some t)) w := by
  simp [Once, requestGetImsPaniInfo, queryLine]

theorem once_getHdVoiceState : Once t (getHdVoiceState (some t)) w := by
  simp [Once, getHdVoiceState, queryLine]

theorem once_getTpmrState : Once t (getTpmrState (some t)) w := by
  simp [Once, getTpmrState, queryLine]

theorem once_getImsSrvccCapbility : Once t (getImsSrvccCapbility (some t)) w := by
  simp [Once, getImsSrvccCapbility, queryLine]

theorem once_notifyHandoverCallInfo (strings : Option Line) :
    Once t (notifyHandoverCallInfo strings (some t)) w := by
  simp [Once, notifyHandoverCallInfo]

theorem once_sendMedia (callId : Int) (media : Option Line) : Once t (sendMedia callId media (some t)) w := by
  cases media with
  | none => simp [Once, sendMedia]
  | some media => exact once_sendAndComplete t _

theorem once_updateEcclist (data : Option Line) : Once t (updateEcclist data (some t)) w := by
  simp [Once, updateEcclist]

theorem once_requestLastCallFailCause : Once t (requestLastCallFailCause (some t)) w := by
  simp [Once, requestLastCallFailCause]

theorem once_requestDTMF (data : Option Line) : Once t (requestDTMF data (some t)) w ↔ data ≠ none := by
  cases data with
  | none => simp [Once, requestDTMF, firstChar]
  | some s => simp [Once, requestDTMF, firstChar, sendOrFailWith, failWith]

theorem once_requestDTMFStart (data : Option Line) : Once t (requestDTMFStart data (some t)) w ↔ data ≠ none := by
  cases data with
  | none => simp [Once, requestDTMFStart, firstChar]
  | some s => simp [Once, requestDTMFStart, firstChar, sendTwo, sendOrFailWith, failWith]

theorem once_requestDTMFStop : Once t (requestDTMFStop (some t)) w := by
  cases hlist : w.globals.s_DTMFList with
  | nil => simp [Once, requestDTMFStop, hlist]
  | cons character rest => simp [Once, requestDTMFStop, hlist, sendTwo, sendOrFailWith, failWith]

end

/-! ## Emergency numbers -/

/-- The list was gone through, and a number that is missing was compared with none of it. -/
theorem wp_compareEcc {E : Exit ε → World Globals → Prop} {w : World Globals} {Q : Bool × Int → World Globals → Prop}
    {P : Prop} (dialNumber : Option Line) (l : List (Line × Option Line)) (catgry : Int) (hQ : ∀ a, Q a w ↔ P)
    (hE : ¬ E .crashes w) :
    wp (compareEcc dialNumber l catgry) Q E w ↔ (dialNumber = none → l = []) ∧ P := by
  induction l generalizing catgry with
  | nil => simp [compareEcc, hQ]
  | cons entry rest ih =>
    cases dialNumber with
    | none => simp [compareEcc, hE]
    | some number =>
      have hrest := ih catgry
      simp only [reduceCtorEq, false_implies, true_and] at hrest ⊢
      simp [compareEcc, hQ, hrest, ← or_imp, Decidable.em]

/-- The world is as it was, also where the comparison crashes. -/
theorem wp_compareEcc_any {E : Exit ε → World Globals → Prop} {w : World Globals}
    {Q : Bool × Int → World Globals → Prop} (dialNumber : Option Line) (l : List (Line × Option Line)) (catgry : Int)
    (hQ : ∀ a, Q a w) (hE : E .crashes w) : wp (compareEcc dialNumber l catgry) Q E w := by
  induction l generalizing catgry with
  | nil => simp [compareEcc, hQ]
  | cons entry rest ih => simp [compareEcc, hQ, hE, ih]

theorem once_requestDIAL {w : World Globals} (t : Nat) (p_dial : RIL_Dial) :
    Once t (requestDIAL p_dial (some t)) w ↔ (p_dial.address = none → eccList w.globals = []) := by
  unfold Once requestDIAL isEccNumber
  rw [wp_bind, wp_bind, wp_getGlobals, wp_compareEcc (P := True)]
  · exact and_iff_left trivial
  · rintro ⟨ret, category⟩
    cases ret with
    | true => exact iff_of_true (once_requestEccDial t p_dial category) trivial
    | false => exact iff_of_true (once_requestDial t p_dial) trivial
  · exact id

/-! ## Several calls -/

/-- The loop jumps with nothing answered, and does nothing else but come back. -/
def Stopped (t : RIL_Token) (n : Nat) : Exit (Pointer × Pointer) → World Globals → Prop
  | .goto _, w => w.completions t = n
  | .crashes, _ => False
  | .runsOn, _ => False

@[simp] theorem stopped_goto {t : RIL_Token} {n : Nat} {p : Pointer × Pointer} {w : World Globals} :
    Stopped t n (.goto p) w ↔ w.completions t = n := Iff.rfl

/-- While the calls are hung up the response of AT+CLCC is there. -/
theorem wp_hangupCalls {t : RIL_Token} {n : Nat} (mode : Int) (r : Response) (lines : List Line) (p_call : RIL_Call)
    {w : World Globals} (hw : w.completions t = n) :
    wp (hangupCalls mode (some r) lines p_call) (fun _ w' => w'.completions t = n) (Stopped t n) w := by
  induction lines generalizing p_call w with
  | nil => simpa [hangupCalls] using hw
  | cons line lines ih => simp [hangupCalls, hangupCall, hw, ih]

theorem once_requestSwitchMultiCall {w : World Globals} (t : Nat) (mode : Int) :
    Once t (requestSwitchMultiCall mode (some t)) w := by
  unfold Once requestSwitchMultiCall
  simp [sendCLCC]
  intro _ f ls _ _
  refine wp_mono (wp_hangupCalls (t := some t) mode _ _ _ rfl) ?_ ?_
  · intro _ w' hw'
    simp at hw'
    simp [hw']
  · intro e w' hw'
    cases e with
    | goto p =>
      obtain ⟨p_response, p_resp⟩ := p
      simp at hw'
      cases p_response <;> cases p_resp <;> simp [hw']
    | crashes => exact hw'
    | runsOn => exact hw'

/-! ## All of them -/

/-- The payloads whose missing string is read. -/
def Answerable (r : Request) (g : Globals) : Prop :=
  match r with
  | .DIAL p_dial => p_dial.address = none → eccList g = []
  | .DTMF data => data ≠ none
  | .DTMF_START data => data ≠ none
  | _ => True

theorem once_processCallRequest {w : World Globals} (t : Nat) (r : Request) :
    Once t (processCallRequest r (some t)) w ↔ Answerable r w.globals := by
  have hsend : ∀ cmd, Once t (sendAndComplete cmd (some t)) w := once_sendAndComplete t
  have hsendNULL : ∀ cmd, Once t (sendNULLAndComplete cmd (some t)) w := once_sendNULLAndComplete t
  have hfail : ∀ cmd finalResponse e, Once t (sendOrFailWith cmd finalResponse e (some t)) w := once_sendOrFailWith t
  cases r with
  | DIAL p_dial => exact once_requestDIAL t p_dial
  | DTMF data => exact once_requestDTMF t data
  | DTMF_START data => exact once_requestDTMFStart t data
  | GET_CURRENT_CALLS => exact iff_of_true (once_currentCalls t _ _ _ _ _) trivial
  | GET_IMS_CURRENT_CALLS => exact iff_of_true (once_currentCalls t _ _ _ _ _) trivial
  | HANGUP line => exact iff_of_true (once_requestHangup t line) trivial
  | HANGUP_WAITING_OR_BACKGROUND => exact iff_of_true (once_CHLD0 t) trivial
  | UDUB => exact iff_of_true (once_CHLD0 t) trivial
  | LAST_CALL_FAIL_CAUSE => exact iff_of_true (once_requestLastCallFailCause t) trivial
  | DTMF_STOP => exact iff_of_true (once_requestDTMFStop t) trivial
  | SEPARATE_CONNECTION party => exact iff_of_true (once_requestSeparateConnection t party) trivial
  | SET_IMS_VOICE_CALL_AVAILABILITY state => exact iff_of_true (once_setCavims t state) trivial
  | GET_IMS_VOICE_CALL_AVAILABILITY => exact iff_of_true (once_cavims t) trivial
  | IMS_CALL_REQUEST_MEDIA_CHANGE => exact iff_of_true (once_sendMedia t _ _) trivial
  | IMS_CALL_RESPONSE_MEDIA_CHANGE => exact iff_of_true (once_sendMedia t _ _) trivial
  | VIDEOPHONE_DIAL address => exact iff_of_true (once_requestVideoPhoneDial t address) trivial
  | VIDEOPHONE_STRING => exact iff_of_true (once_asprintfAndComplete t _) trivial
  | IMS_NETWORK_INFO_CHANGE => exact iff_of_true (once_asprintfAndComplete t _) trivial
  | SWITCH_MULTI_CALL mode => exact iff_of_true (once_requestSwitchMultiCall t mode) trivial
  | GET_HD_VOICE_STATE => exact iff_of_true (once_getHdVoiceState t) trivial
  | UPDATE_ECCLIST data => exact iff_of_true (once_updateEcclist t data) trivial
  | GET_TPMR_STATE => exact iff_of_true (once_getTpmrState t) trivial
  | IMS_NOTIFY_HANDOVER_CALL_INFO strings => exact iff_of_true (once_notifyHandoverCallInfo t strings) trivial
  | GET_IMS_SRVCC_CAPBILITY => exact iff_of_true (once_getImsSrvccCapbility t) trivial
  | GET_VIDEO_RESOLUTION => exact iff_of_true (once_requestGetVideoResolution t) trivial
  | GET_IMS_PANI_INFO => exact iff_of_true (once_requestGetImsPaniInfo t) trivial
  | HANGUP_FOREGROUND_RESUME_BACKGROUND | SWITCH_WAITING_OR_HOLDING_AND_ACTIVE | CONFERENCE | ANSWER
  | EXPLICIT_CALL_TRANSFER | EXT_EXPLICIT_CALL_TRANSFER => exact iff_of_true (hfail _ _ _) trivial
  | SET_TTY_MODE | QUERY_TTY_MODE | EXIT_EMERGENCY_CALLBACK_MODE => exact iff_of_true (once_complete t _ _) trivial
  | IMS_HANDOVER_STATUS_UPDATE | IMS_HANDOVER_CALL_END | IMS_UPDATE_DATA_ROUTER | IMS_WIFI_ENABLE
  | IMS_WIFI_CALL_STATE_CHANGE | SET_TPMR_STATE => exact iff_of_true (hsendNULL _) trivial
  | IMS_CALL_FALL_BACK_TO_VOICE | IMS_INITIAL_GROUP_CALL | IMS_ADD_TO_GROUP_CALL | VIDEOPHONE_CODEC
  | VIDEOPHONE_FALLBACK | VIDEOPHONE_LOCAL_MEDIA | VIDEOPHONE_CONTROL_IFRAME | SET_VOICE_DOMAIN | IMS_HANDOVER
  | SET_VIDEO_RESOLUTION | ENABLE_LOCAL_HOLD | ENABLE_WIFI_PARAM_REPORT | CALL_MEDIA_CHANGE_REQUEST_TIMEOUT
  | SET_DUAL_VOLTE_STATE | SET_LOCAL_TONE | IMS_HOLD_SINGLE_CALL | IMS_MUTE_SINGLE_CALL | IMS_SILENCE_SINGLE_CALL
  | IMS_ENABLE_LOCAL_CONFERENCE =>
    exact iff_of_true (hsend _) trivial

/-! ## Redials -/

/-- No request is completed, however the function ends. -/
def Silent (m : Handler Globals Empty Unit) (w : World Globals) : Prop :=
  wp m (fun _ w' => ∀ t : Nat, w'.completions (some t) = w.completions (some t))
    (fun _ w' => ∀ t : Nat, w'.completions (some t) = w.completions (some t)) w

theorem silent_redialWhileCallFailed {w : World Globals} (param : Option (Option Line)) :
    Silent (redialWhileCallFailed param) w := by
  cases param with
  | none => simp [Silent, redialWhileCallFailed]
  | some address => simp [Silent, redialWhileCallFailed, requestDial]

theorem silent_dialEmergencyWhileCallFailed {w : World Globals} (param : Option (Option Line)) :
    Silent (dialEmergencyWhileCallFailed param) w := by
  cases param with
  | none => simp [Silent, dialEmergencyWhileCallFailed]
  | some address =>
    unfold Silent dialEmergencyWhileCallFailed isEccNumber
    rw [wp_bind, wp_bind, wp_getGlobals]
    apply wp_compareEcc_any
    · rintro ⟨ret, category⟩
      simp [requestEccDial]
    · exact fun _ => rfl

/-! ## Requests and redials -/

/-- What is run: a request with its token, or a redial without one. -/
inductive Run where
  | processCallRequest (r : Request) (t : Nat)
  | dialEmergencyWhileCallFailed (param : Option (Option Line))
  | redialWhileCallFailed (param : Option (Option Line))

def NoneCompleted (w : World Globals) : Prop := ∀ t : Nat, w.completions (some t) = 0

/-- A request is answered once by a handler that comes back; a redial answers nobody, however it ends. -/
def Run.Settled (x : Run) (answers : Nat → Answer) (allocates : Nat → Bool) (g : Globals) : Prop :=
  match x with
  | .processCallRequest r t =>
    wp (Requests.processCallRequest r (some t) : Handler Globals Empty Unit) (fun _ w => w.completions (some t) = 1)
      (fun _ _ => False) (.start answers allocates g)
  | .dialEmergencyWhileCallFailed param =>
    wp (Requests.dialEmergencyWhileCallFailed param : Handler Globals Empty Unit) (fun _ => NoneCompleted)
      (fun _ => NoneCompleted) (.start answers allocates g)
  | .redialWhileCallFailed param =>
    wp (Requests.redialWhileCallFailed param : Handler Globals Empty Unit) (fun _ => NoneCompleted)
      (fun _ => NoneCompleted) (.start answers allocates g)

/-- No string is missing that is read. -/
def Run.StringsThere (x : Run) (g : Globals) : Prop :=
  match x with
  | .processCallRequest r _ => Answerable r g
  | .dialEmergencyWhileCallFailed _ => True
  | .redialWhileCallFailed _ => True

/-- **Every call request is answered once, and a redial answers none**, iff no missing string is read. -/
theorem settled_iff_stringsThere (x : Run) (answers : Nat → Answer) (allocates : Nat → Bool) (g : Globals) :
    x.Settled answers allocates g ↔ x.StringsThere g := by
  cases x with
  | processCallRequest r t => exact once_processCallRequest (w := .start answers allocates g) t r
  | dialEmergencyWhileCallFailed param => exact iff_of_true (silent_dialEmergencyWhileCallFailed param) trivial
  | redialWhileCallFailed param => exact iff_of_true (silent_redialWhileCallFailed param) trivial

/-- A card is in, and no call was made. -/
def idleGlobals : Globals where
  s_isSimPresent := PRESENT
  s_callFailCause := CALL_FAIL_ERROR_UNSPECIFIED
  s_maybeAddCall := 0
  s_realEccList := none
  s_DTMFList := []

theorem settled_fails_dialNothing :
    ¬ (Run.processCallRequest (.DIAL { address := none, clir := 0 }) 1).Settled (fun _ => .response (ascii "OK") [])
      (fun _ => true) idleGlobals := by
  intro h
  simp only [Run.Settled] at h
  have hone := after_of_wp h
  revert hone
  decide

end UniRil.Call.Requests
