import UniRil.Ss.Requests

/-!
# One answer for each request of the supplementary services
-/

namespace UniRil.Ss.Requests

open Flows Handlers FailRules
open AtTok (Line)

variable {ε : Type} {t : RIL_Token} {w : World (Further Globals)}

/-! ## Where a request fails -/

section

variable {E : Exit ε → World (Further Globals) → Prop} {n : Nat}

@[simp] theorem wp_cmeError_none {Q : Option (AtTok.Tok Int) → World (Further Globals) → Prop} :
    wp (cmeError none) Q E w ↔ Q none w := Iff.rfl

@[simp] theorem wp_cmeError_some {Q : Option (AtTok.Tok Int) → World (Further Globals) → Prop} (r : Response) :
    wp (cmeError (some r)) Q E w ↔ Q (errNumOf r.finalResponse) (w.reads r.handle) := by
  simp [cmeError]

/-- Whatever the number says, the request is told once. -/
@[simp] theorem wp_failByNumber (codes : Int → RIL_Errno) (p_response : Pointer) (h : told t w = n) :
    wp (failByNumber codes t p_response) (fun _ w' => told t w' = n + 1) E w := by
  cases p_response <;> simp [failByNumber, h]

@[simp] theorem wp_failSs (p_response : Pointer) (h : told t w = n) :
    wp (failSs t p_response) (fun _ w' => told t w' = n + 1) E w := by
  cases p_response <;> simp [failSs, h]

end

/-! ## USSD -/

theorem tells_requestSendUSSD (data : Option Line) :
    Tells t (requestSendUSSD data t) w ↔ (w.globals.file.s_isSimPresent = .PRESENT → data ≠ none) := by
  cases data with
  | none => simp [Tells, requestSendUSSD]
  | some data => simp [Tells, requestSendUSSD]

theorem tells_sendAndComplete (cmd : Line) : Tells t (sendAndComplete cmd t) w := by
  simp [Tells, sendAndComplete, completeByOutcome]

theorem tells_requestCancelUSSD : Tells t (requestCancelUSSD t) w := by
  simp [Tells, requestCancelUSSD, sendAndComplete, completeByOutcome]

/-! ## Call forwarding -/

theorem tells_setForward (cmd responsePrefix : Line) (codes : Int → RIL_Errno) :
    Tells t (setForward cmd responsePrefix codes t) w := by
  simp [Tells, setForward]

theorem tells_requestSetCallForward (data : Option RIL_CallForwardInfo) : Tells t (requestSetCallForward data t) w := by
  cases data with
  | none => exact wp_failSs none rfl
  | some data => exact tells_setForward _ _ _

theorem tells_requestSetCallForwardU (data : Option RIL_CallForwardInfo) :
    Tells t (requestSetCallForwardU data t) w := by
  cases data with
  | none => exact wp_failSs none rfl
  | some data => exact tells_setForward _ _ _

theorem tells_queryForward (cmd responsePrefix : Line) (codes : Int → RIL_Errno)
    (rows : List Line → List RIL_CallForwardInfo) : Tells t (queryForward cmd responsePrefix codes rows t) w := by
  simp [Tells, queryForward]

theorem tells_requestQueryCallForward (data : Option RIL_CallForwardInfo) :
    Tells t (requestQueryCallForward data t) w := by
  cases data with
  | none => exact wp_failSs none rfl
  | some data => exact tells_queryForward _ _ _ _

theorem tells_requestQueryCallForwardU (data : Option RIL_CallForwardInfo) :
    Tells t (requestQueryCallForwardU data t) w := by
  cases data with
  | none => exact wp_failSs none rfl
  | some data => exact tells_queryForward _ _ _ _

theorem tells_requestCallForwardUri (data : Option RIL_CallForwardInfoUri) : Tells t (requestCallForwardUri data t) w := by
  cases data with
  | none => exact wp_failSs none rfl
  | some data => by_cases h : data.status = 2 <;> simp [Tells, requestCallForwardUri, h]

/-! ## Questions -/

theorem tells_requestQueryColpColr (cmd responsePrefix : Line) : Tells t (requestQueryColpColr cmd responsePrefix t) w := by
  simp [Tells, requestQueryColpColr, askTwo]

theorem tells_requestGetCnap : Tells t (requestGetCnap t) w := by
  simp [Tells, requestGetCnap, askTwo]

theorem tells_requestQueryClip : Tells t (requestQueryClip t) w := by
  simp [Tells, requestQueryClip, askTwo]

theorem tells_requestGetClir : Tells t (requestGetClir t) w := by
  simp [Tells, requestGetClir]

theorem tells_requestQueryCallWaiting (c : Int) : Tells t (requestQueryCallWaiting c t) w := by
  simp [Tells, requestQueryCallWaiting]

theorem tells_requestSetCallWaiting (enable c : Int) : Tells t (requestSetCallWaiting enable c t) w := by
  simp [Tells, requestSetCallWaiting]

/-! ## Passwords and notifications -/

theorem tells_requestChangeFacilityLock (data : List (Option Line)) : Tells t (requestChangeFacilityLock data t) w := by
  unfold Tells requestChangeFacilityLock
  cases threeTexts data with
  | none => simp
  | some texts => simp

/-- NULL is read where the command could not be sent. -/
theorem tells_requestSetSuppServiceNotifications (mode : Int) :
    Tells t (requestSetSuppServiceNotifications mode t) w ↔ w.answers 0 ≠ .failed := by
  cases h : w.answers 0 <;> simp [Tells, requestSetSuppServiceNotifications, h]

theorem tells_requestMmiEnterSim (str : Option Line) : Tells t (requestMmiEnterSim str t) w := by
  simp [Tells, requestMmiEnterSim]

/-! ## The requests -/

/-- The text of a USSD request is there, and the notifications are asked of a modem that can be reached. -/
def Answerable (r : Request) (answers : Nat → Answer) (g : Globals) : Prop :=
  match r with
  | .SEND_USSD data => g.s_isSimPresent = .PRESENT → data ≠ none
  | .SET_SUPP_SVC_NOTIFICATION _ => answers 0 ≠ .failed
  | _ => True

theorem tells_processSSRequests (r : Request) :
    Tells t (processSSRequests r t) w ↔ Answerable r w.answers w.globals.file := by
  cases r with
  | SEND_USSD data => exact tells_requestSendUSSD data
  | CANCEL_USSD => exact iff_of_true tells_requestCancelUSSD trivial
  | GET_CLIR => exact iff_of_true tells_requestGetClir trivial
  | SET_CLIR n => exact iff_of_true (tells_sendAndComplete _) trivial
  | QUERY_CALL_FORWARD_STATUS data =>
    refine iff_of_true ?_ trivial
    simp only [Tells, processSSRequests]
    rw [wp_bind, wp_getFile]
    split
    · exact tells_requestQueryCallForwardU data
    · exact tells_requestQueryCallForward data
  | SET_CALL_FORWARD data =>
    refine iff_of_true ?_ trivial
    simp only [Tells, processSSRequests]
    rw [wp_bind, wp_getFile]
    split
    · exact tells_requestSetCallForwardU data
    · exact tells_requestSetCallForward data
  | QUERY_CALL_WAITING c => exact iff_of_true (tells_requestQueryCallWaiting c) trivial
  | SET_CALL_WAITING enable c => exact iff_of_true (tells_requestSetCallWaiting enable c) trivial
  | CHANGE_BARRING_PASSWORD data => exact iff_of_true (tells_requestChangeFacilityLock data) trivial
  | QUERY_CLIP => exact iff_of_true tells_requestQueryClip trivial
  | SET_SUPP_SVC_NOTIFICATION mode => exact tells_requestSetSuppServiceNotifications mode
  | QUERY_CALL_FORWARD_STATUS_URI data => exact iff_of_true (tells_requestCallForwardUri data) trivial
  | SET_CALL_FORWARD_URI data => exact iff_of_true (tells_requestCallForwardUri data) trivial
  | SET_COLP n => exact iff_of_true (by simp [Tells, processSSRequests]) trivial
  | QUERY_COLP => exact iff_of_true (tells_requestQueryColpColr _ _) trivial
  | QUERY_COLR => exact iff_of_true (tells_requestQueryColpColr _ _) trivial
  | MMI_ENTER_SIM str => exact iff_of_true (tells_requestMmiEnterSim str) trivial
  | UPDATE_CLIP enable => exact iff_of_true (tells_sendAndComplete _) trivial
  | GET_CNAP => exact iff_of_true tells_requestGetCnap trivial

/-- The handler comes back, and the token of the request was answered once. -/
def AnsweredOnce (r : Request) (t : Nat) (answers : Nat → Answer) (allocates : Nat → Bool) (g : Globals) : Prop :=
  wp (processSSRequests r (some t) : SsHandler Empty Unit) (fun _ w => told (some t) w = 1) (fun _ _ => False)
    (.start answers allocates { file := g, completed := [] })

/-- **A request of the supplementary services is answered once**, whatever the modem answers, but for a USSD request
without its text and for the notifications where the modem cannot be reached. -/
theorem ssRequest_answeredOnce_iff (r : Request) (t : Nat) (answers : Nat → Answer) (allocates : Nat → Bool)
    (g : Globals) : AnsweredOnce r t answers allocates g ↔ Answerable r answers g :=
  tells_processSSRequests (w := .start answers allocates { file := g, completed := [] }) r

end UniRil.Ss.Requests
