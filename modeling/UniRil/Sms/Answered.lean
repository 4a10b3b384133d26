import UniRil.Sms.Requests

/-!
# One answer for each request of the short messages
-/

namespace UniRil.Sms.Requests

open Flows Handlers FailRules
open AtTok (Line)

variable {ε : Type} {t : RIL_Token} {w : World (Further Globals)}

/-! ## Sending -/

theorem tells_requestSendSMS (smsc pdu : Option Line) :
    Tells t (requestSendSMS smsc pdu t) w ↔ (w.globals.file.s_isSimPresent = .PRESENT → pdu ≠ none) := by
  cases pdu with
  | none => simp [Tells, requestSendSMS]
  | some pdu =>
    simp [Tells, requestSendSMS, withLabels, sendPdu, at_send_command_sms, failSend, errorCode, finalResponse]

theorem tells_requestSendIMSSMS (sms : RIL_IMS_SMS) :
    Tells t (requestSendIMSSMS sms t) w ↔
      (sms.tech = .RADIO_TECH_3GPP → ∃ pdu, sms.pdu = some pdu ∧ NUL ∈ sms.cells pdu) := by
  by_cases htech : sms.tech = .RADIO_TECH_3GPP
  · cases hpdu : sms.pdu with
    | none => simp [Tells, requestSendIMSSMS, htech, hpdu]
    | some pdu =>
      by_cases hend : NUL ∈ sms.cells pdu
      · simp [Tells, requestSendIMSSMS, withLabels, sendPdu, at_send_command_sms, failSend, errorCode, finalResponse,
          htech, hpdu, hend]
        -- a number that comes to the second test is one of two
        exact fun f ls _ _ cur _ n _ hpassed h313 h512 => absurd (hpassed h313) h512
      · simp [Tells, requestSendIMSSMS, htech, hpdu, hend]
  · simp [Tells, requestSendIMSSMS, htech]

theorem tells_requestSMSAcknowledge (ackSuccess : Int) : Tells t (requestSMSAcknowledge ackSuccess t) w := by
  simp [Tells, requestSMSAcknowledge]

theorem tells_requestWriteSmsToSim (p_args : RIL_SMS_WriteArgs) :
    Tells t (requestWriteSmsToSim p_args t) w ↔ (w.globals.file.s_isSimPresent = .PRESENT → p_args.pdu ≠ none) := by
  cases hpdu : p_args.pdu with
  | none => simp [Tells, requestWriteSmsToSim, hpdu]
  | some pdu => simp [Tells, requestWriteSmsToSim, at_send_command_sms, failSend, errorCode, finalResponse, hpdu]

/-! ## One command -/

theorem tells_sendAndComplete (cmd : Line) : Tells t (sendAndComplete cmd t) w := by
  simp [Tells, sendAndComplete, completeByOutcome]

theorem tells_withCard {m : SmsHandler Empty Unit} (h : Tells t m w) : Tells t (withCard t m) w := by
  unfold Tells withCard
  rw [wp_bind, wp_getFile]
  split
  · simp
  · exact h

/-! ## Cell broadcast -/

theorem wp_sendAll {Q : Unit → World (Further Globals) → Prop} {E : Exit ε → World (Further Globals) → Prop}
    (cmds : List Line) (hQ : ∀ w', told t w' = told t w → Q ⟨⟩ w') : wp (sendAll cmds) Q E w := by
  induction cmds generalizing w with
  | nil => exact hQ w rfl
  | cons cmd rest ih =>
    have hrest : ∀ w', told t w' = told t w → wp (sendAll rest) Q E w' :=
      fun w' hw' => ih fun w'' hw'' => hQ w'' (hw''.trans hw')
    simp [sendAll, hrest]

theorem tells_requestSetSmsBroadcastConfig (data : List RIL_GSM_BroadcastSmsConfigInfo) :
    Tells t (requestSetSmsBroadcastConfig data t) w ↔ data ≠ [] ∧ (cscbOf data).serviceId.length ≤ ARRAY_SIZE := by
  by_cases h : data = [] ∨ ARRAY_SIZE < (cscbOf data).serviceId.length
  · refine iff_of_false ?_ ?_
    · simp [Tells, requestSetSmsBroadcastConfig, h]
    · rintro ⟨hdata, hroom⟩
      exact h.elim hdata (not_lt.2 hroom)
  · refine iff_of_true ?_ ⟨fun hdata => h (.inl hdata), not_lt.1 fun hroom => h (.inr hroom)⟩
    simp [Tells, requestSetSmsBroadcastConfig, completeByOutcome, h]
    have hsppws : ∀ w', told t w' = told t w + 1 →
        wp (sendAll (sppwsCommands (cscbOf data).serviceId)) (fun _ w'' => told t w'' = told t w + 1)
          (fun _ _ => False : Exit Empty → World (Further Globals) → Prop) w' :=
      fun w' hw' => wp_sendAll _ fun w'' hw'' => hw''.trans hw'
    simp [hsppws]

theorem tells_requestGetSmsBroadcastConfig : Tells t (requestGetSmsBroadcastConfig t) w := by
  simp [Tells, requestGetSmsBroadcastConfig, askText]

theorem p_out_nextstr (cur : Line) : (AtTok.at_tok_nextstr (some cur)).p_out ≠ none := by
  obtain ⟨ret, hret⟩ := at_tok_nextstr_some cur
  intro hnone
  simp [AtTok.Tok.value, hnone] at hret

theorem tells_requestGetSmscAddress : Tells t (requestGetSmscAddress t) w := by
  apply tells_withCard
  simp [Tells, askText, failAsk]
  exact fun f ls _ line _ _ cur _ => p_out_nextstr cur

theorem tells_requestSetSmscAddress (data : Option Line) : Tells t (requestSetSmscAddress data t) w := by
  apply tells_withCard
  cases data with
  | none => simp [Tells]
  | some data => simp [Tells, sendAndComplete, completeByOutcome]

/-! ## The storage -/

theorem tells_requestGetSIMCapacity : Tells t (requestGetSIMCapacity t) w := by
  simp [Tells, requestGetSIMCapacity, askText, failAsk]

theorem tells_requestStoreSmsToSim (value : Int) : Tells t (requestStoreSmsToSim value t) w := by
  simp [Tells, requestStoreSmsToSim, askText, failAsk, skipCommas, skipNextComma]

theorem tells_requestQuerySmsStorageMode : Tells t (requestQuerySmsStorageMode t) w := by
  simp [Tells, requestQuerySmsStorageMode, askText, failAsk, skipCommas, skipNextComma]

/-! ## The requests -/

/-- The texts that are read are there, and what is written has room. -/
def Answerable (r : Request) (g : Globals) : Prop :=
  match r with
  | .SEND_SMS _ pdu => g.s_isSimPresent = .PRESENT → pdu ≠ none
  | .SEND_SMS_EXPECT_MORE _ pdu => g.s_isSimPresent = .PRESENT → pdu ≠ none
  | .IMS_SEND_SMS sms => sms.tech = .RADIO_TECH_3GPP → ∃ pdu, sms.pdu = some pdu ∧ NUL ∈ sms.cells pdu
  | .WRITE_SMS_TO_SIM p_args => g.s_isSimPresent = .PRESENT → p_args.pdu ≠ none
  | .GSM_SET_BROADCAST_SMS_CONFIG data => data ≠ [] ∧ (cscbOf data).serviceId.length ≤ ARRAY_SIZE
  | _ => True

theorem tells_processSmsRequests (r : Request) : Tells t (processSmsRequests r t) w ↔ Answerable r w.globals.file := by
  cases r with
  | SEND_SMS smsc pdu => exact tells_requestSendSMS smsc pdu
  | SEND_SMS_EXPECT_MORE smsc pdu => exact tells_requestSendSMS smsc pdu
  | IMS_SEND_SMS sms => exact tells_requestSendIMSSMS sms
  | SMS_ACKNOWLEDGE ackSuccess => exact iff_of_true (tells_requestSMSAcknowledge ackSuccess) trivial
  | WRITE_SMS_TO_SIM p_args => exact tells_requestWriteSmsToSim p_args
  | DELETE_SMS_ON_SIM index => exact iff_of_true (tells_withCard (tells_sendAndComplete _)) trivial
  | GSM_SMS_BROADCAST_ACTIVATION active => exact iff_of_true (tells_sendAndComplete _) trivial
  | GSM_SET_BROADCAST_SMS_CONFIG data => exact tells_requestSetSmsBroadcastConfig data
  | GSM_GET_BROADCAST_SMS_CONFIG => exact iff_of_true tells_requestGetSmsBroadcastConfig trivial
  | GET_SMSC_ADDRESS => exact iff_of_true tells_requestGetSmscAddress trivial
  | SET_SMSC_ADDRESS data => exact iff_of_true (tells_requestSetSmscAddress data) trivial
  | REPORT_SMS_MEMORY_STATUS status => exact iff_of_true (tells_withCard (tells_sendAndComplete _)) trivial
  | SET_IMS_SMSC data => exact iff_of_true (tells_sendAndComplete _) trivial
  | GET_SIM_CAPACITY => exact iff_of_true tells_requestGetSIMCapacity trivial
  | STORE_SMS_TO_SIM value => exact iff_of_true (tells_requestStoreSmsToSim value) trivial
  | QUERY_SMS_STORAGE_MODE => exact iff_of_true tells_requestQuerySmsStorageMode trivial
  | SET_SMS_BEARER n => exact iff_of_true (tells_sendAndComplete _) trivial

/-- The handler comes back, and the token of the request was answered once. -/
def AnsweredOnce (r : Request) (t : Nat) (answers : Nat → Answer) (allocates : Nat → Bool) (g : Globals) : Prop :=
  wp (processSmsRequests r (some t) : SmsHandler Empty Unit) (fun _ w => told (some t) w = 1) (fun _ _ => False)
    (.start answers allocates { file := g, completed := [] })

/-- The framework sends the PDU only when it has one: an empty text comes as NULL. -/
example : ¬ Answerable (.SEND_SMS none none) { s_isSimPresent := .PRESENT, MIFI_PRODUCT_PROP := [] } :=
  fun h => h rfl rfl

end UniRil.Sms.Requests
