import UniRil.Data.Frames

/-!
# The answer to AT+CGDATA

Two functions look at it. `cgdata_set_cmd_rsp` may rewrite the response, and what is then in it
decides whether `errorHandlingForCGDATA` tears the context down.
-/

namespace UniRil.Data

open StateRules

variable {cfg : Config} {socket_id : RIL_SOCKET_ID}

/-! ## The error handler -/

/-- The answer makes `errorHandlingForCGDATA` send AT+CGACT=0. -/
def Reply.gaveUp : Reply → Bool
  | .error err => err = .TIMEOUT
  | .ok p_response =>
    !p_response.success && !strStartsWith (p_response.finalResponse.getD []) (ascii "+CME ERROR:") &&
      strStartsWith (p_response.finalResponse.getD []) (ascii "ERROR")

/-- The answer to AT+CGDATA leads to one that does so. -/
def Answer.givesUp : Answer → Bool
  | .failed err => err = .TIMEOUT
  | .response finalResponse _ =>
    !Command.isFinalResponseSuccess finalResponse &&
      (!Command.isFinalResponseError finalResponse || strStartsWith finalResponse (ascii "ERROR"))

theorem quiet_errorHandling_of_not_gaveUp {reply : Reply} (h : reply.gaveUp = false) {cid c : Int} :
    Keeps (Quiet socket_id c) (errorHandlingForCGDATA socket_id reply cid) := by
  unfold errorHandlingForCGDATA
  cases reply with
  | error err =>
    rw [Reply.gaveUp, decide_eq_false_iff_not] at h
    simp only [if_neg h]
    exact .bind quiet_failCause fun _ => .pure
  | ok p_response =>
    simp only [Reply.gaveUp, Bool.and_eq_false_iff, Bool.not_eq_false'] at h
    by_cases hok : p_response.success = true
    · simp only [if_pos hok]
      exact .pure
    by_cases hcme : strStartsWith (p_response.finalResponse.getD []) (ascii "+CME ERROR:") = true
    · simp only [if_neg hok, if_pos hcme]
      split
      · exact .ite .pure (.ite .pure (.ite .pure (.bind quiet_failCause fun _ => .pure)))
      · exact .bind quiet_failCause fun _ => .pure
    · have herror := h.resolve_left fun h => h.elim hok hcme
      simp only [if_neg hok, if_neg hcme, herror, Bool.false_eq_true, if_false]
      exact .bind quiet_failCause fun _ => .pure

/-- Whether the activation succeeds is in the response alone. -/
theorem errorHandling_success {reply : Reply} {cid : Int} (w : World) :
    (errorHandlingForCGDATA socket_id reply cid w).1 = DATA_ACTIVE_SUCCESS ↔ reply.success = true := by
  have hdeactivate : Returns (· ≠ DATA_ACTIVE_SUCCESS) (deactivateAfterTimeout socket_id cid) :=
    .bind fun _ => .bind fun _ => .bind fun _ => .pure (by decide)
  have hfailed : Returns (· ≠ DATA_ACTIVE_SUCCESS) (pure DATA_ACTIVE_FAILED : M Int) := .pure (by decide)
  unfold errorHandlingForCGDATA
  cases reply with
  | error err =>
    refine iff_of_false ?_ Bool.false_ne_true
    have hne : Returns (· ≠ DATA_ACTIVE_SUCCESS) (do
        setFailCause socket_id .PDP_FAIL_ERROR_UNSPECIFIED
        if err = .TIMEOUT then deactivateAfterTimeout socket_id cid else pure DATA_ACTIVE_FAILED) :=
      .bind fun _ => .ite hdeactivate hfailed
    exact hne w
  | ok p_response =>
    simp only [if_apply, Reply.success]
    by_cases hok : p_response.success = true
    · rw [if_pos hok]
      exact iff_of_true rfl hok
    rw [if_neg hok]
    refine iff_of_false ?_ hok
    split
    · cases cmeErrorCode (p_response.finalResponse.getD []) with
      | some failCause =>
        exact Returns.ite (.pure (by decide)) (.ite (.pure (by decide)) (.ite (.pure (by decide)) (.bind fun _ => hfailed))) w
      | none => exact Returns.bind (fun _ => hfailed) w
    · exact Returns.bind (fun _ => .ite hdeactivate hfailed) w

/-- The two events of a deactivation. -/
def tearDown (cid : Int) : List Event := [.at_send_command (.CGACT_0 cid), .cgact_deact_cmd_rsp cid]

/-- The handler has torn down `cid`. -/
structure TornDown (socket_id : RIL_SOCKET_ID) (cid : Int) (w : World) (ret : Int) (w' : World) : Prop where
  failed : ret = DATA_ACTIVE_FAILED
  log : w'.log = w.log ++ tearDown cid
  detached : (w'.sim socket_id).s_LTEDetached = (w.sim socket_id).s_LTEDetached

theorem deactivateAfterTimeout_tornDown {cid : Int} :
    Spec (deactivateAfterTimeout socket_id cid) (TornDown socket_id cid) := by
  intro w
  exact ⟨rfl, List.append_assoc w.log [_] [_], (quiet_deactivateAfterTimeout w).detached⟩

theorem TornDown.after_failCause {cid : Int} {cause : FailCause} {m : M Int} (h : Spec m (TornDown socket_id cid)) :
    Spec (do setFailCause socket_id cause; m) (TornDown socket_id cid) := by
  intro w
  obtain ⟨hfailed, hlog, hdetached⟩ := h (setFailCause socket_id cause w).2
  refine ⟨hfailed, hlog, hdetached.trans ?_⟩
  simp [setFailCause, modifySim]

theorem errorHandling_gaveUp {reply : Reply} (h : reply.gaveUp = true) {cid : Int} :
    Spec (errorHandlingForCGDATA socket_id reply cid) (TornDown socket_id cid) := by
  unfold errorHandlingForCGDATA
  cases reply with
  | error err =>
    rw [Reply.gaveUp, decide_eq_true_eq] at h
    simp only [if_pos h]
    exact TornDown.after_failCause deactivateAfterTimeout_tornDown
  | ok p_response =>
    simp only [Reply.gaveUp, Bool.and_eq_true, Bool.not_eq_true'] at h
    obtain ⟨⟨hfailed, hcme⟩, herror⟩ := h
    simp only [hfailed, hcme, herror, Bool.false_eq_true, if_false, if_true]
    exact TornDown.after_failCause deactivateAfterTimeout_tornDown

/-! ## The response after `cgdata_set_cmd_rsp` -/

/-- The response is a final one of the same success. -/
def SameSuccess (p_response : Command.ATResponse) (r : Int × Reply) : Prop :=
  ∃ p, r.2 = .ok p ∧ p.success = p_response.success

theorem establish_success {p_response : Command.ATResponse} {pdpIndex cid primaryCid : Int} :
    Returns (SameSuccess p_response) (establish p_response pdpIndex cid primaryCid) := by
  have hok : SameSuccess p_response (AT_RESULT_OK, .ok p_response) := ⟨_, rfl, rfl⟩
  have herror : SameSuccess p_response (cgdataError p_response) := ⟨_, rfl, rfl⟩
  unfold establish
  refine .bind fun state => .ite (.bind fun merged => .bind fun ip_state => .bind fun up => ?_) (.pure hok)
  exact .ite (.pure hok) (.pure herror)

theorem connected_success {p_response : Command.ATResponse} {pdpIndex cid primaryCid : Int} :
    Returns (SameSuccess p_response) (connected cfg p_response pdpIndex cid primaryCid) := by
  have herror : SameSuccess p_response (cgdataError p_response) := ⟨_, rfl, rfl⟩
  unfold connected
  refine .bind fun _ => .bind fun rdp => .ite (.bind fun _ => .bind fun cgact => ?_) (.bind fun _ => establish_success)
  exact .ite (.pure herror) establish_success

theorem cgdata_rsp_success {reply : Reply} {pdpIndex primaryCid : Int} (w : World) :
    (cgdata_set_cmd_rsp cfg reply pdpIndex primaryCid w).1.2.success = reply.success := by
  unfold cgdata_set_cmd_rsp
  cases reply with
  | error err => rfl
  | ok p_response =>
    have hsame : ∀ {m : M (Int × Reply)}, Returns (SameSuccess p_response) m → (m w).1.2.success = p_response.success := by
      intro m h
      obtain ⟨p, hp, hps⟩ := h w
      rw [hp]
      exact hps
    refine hsame (.ite (.pure ⟨_, rfl, rfl⟩) (.bind fun cid => ?_))
    cases getATResponseType (p_response.finalResponse.getD []) with
    | CONNECT => exact connected_success
    | ERROR => exact .bind fun _ => .pure ⟨_, rfl, rfl⟩
    | OK => exact .pure ⟨_, rfl, rfl⟩
    | MID => exact .pure ⟨_, rfl, rfl⟩

theorem Reply.gaveUp_of_success {p_response : Command.ATResponse} (h : p_response.success = true) :
    Reply.gaveUp (.ok p_response) = false := by
  rw [Reply.gaveUp, h]
  rfl

theorem isFinalResponseSuccess_of_connect {line : Line} (h : strStartsWith line (ascii "CONNECT") = true) :
    Command.isFinalResponseSuccess line = true := by
  simp [Command.isFinalResponseSuccess, Command.s_finalResponsesSuccess, h]

/-- An error line is no line of success. -/
theorem not_success_of_error {line : Line} (h : Command.isFinalResponseError line = true) :
    Command.isFinalResponseSuccess line = false := by
  by_contra hsuccess
  obtain ⟨e, he, hline⟩ := List.any_eq_true.1 h
  obtain ⟨s, hs, hline'⟩ := List.any_eq_true.1 (Bool.of_not_eq_false hsuccess)
  have hdisjoint : ∀ e ∈ Command.s_finalResponsesError, ∀ s ∈ Command.s_finalResponsesSuccess,
      ¬(e <+: s ∨ s <+: e) := by decide
  exact hdisjoint e he s hs (strStartsWith_comparable hline hline')

theorem not_cme_of_error {line : Line} (h : strStartsWith line (ascii "ERROR") = true) :
    strStartsWith line (ascii "+CME ERROR:") = false := by
  by_contra hcme
  exact absurd (strStartsWith_comparable h (Bool.of_not_eq_false hcme)) (by decide)

theorem cgdata_rsp_gaveUp {answer : Answer} {pdpIndex primaryCid : Int} (hindex : 0 ≤ pdpIndex ∧ pdpIndex < MAX_PDP_NUM)
    (w : World) :
    (cgdata_set_cmd_rsp cfg answer.reply pdpIndex primaryCid w).1.2.gaveUp = answer.givesUp := by
  unfold cgdata_set_cmd_rsp
  cases answer with
  | failed err => rfl
  | response finalResponse lines =>
    have hif : ¬(pdpIndex < 0 ∨ MAX_PDP_NUM ≤ pdpIndex) := by omega
    simp only [Answer.reply, if_neg hif, bind_apply, Option.getD_some]
    unfold getATResponseType
    by_cases hconnect : strStartsWith finalResponse (ascii "CONNECT") = true
    · have hsuccess := isFinalResponseSuccess_of_connect hconnect
      simp only [if_pos hconnect]
      obtain ⟨p, hp, hps⟩ := @connected_success cfg
        { success := Command.isFinalResponseSuccess finalResponse
          finalResponse := some finalResponse
          p_intermediates := lines } pdpIndex ((readShared fun g => (g.pdp_info pdpIndex).cid) w).1 primaryCid
        ((readShared fun g => (g.pdp_info pdpIndex).cid) w).2
      rw [hp, Reply.gaveUp_of_success (hps.trans hsuccess), Answer.givesUp, hsuccess]
      rfl
    simp only [if_neg hconnect]
    by_cases herror : Command.isFinalResponseError finalResponse = true
    · have hsuccess := not_success_of_error herror
      simp only [Reply.gaveUp, Answer.givesUp, hsuccess, herror]
      cases hplain : strStartsWith finalResponse (ascii "ERROR") with
      | false => simp [hplain]
      | true => simp [hplain, not_cme_of_error hplain]
    cases hsuccess : Command.isFinalResponseSuccess finalResponse with
    | true =>
      simp only [if_neg herror, if_true, pure_apply, Answer.givesUp, hsuccess]
      exact Reply.gaveUp_of_success rfl
    | false =>
      simp only [Bool.false_eq_true, if_false, pure_apply, cgdataError, Reply.gaveUp, Answer.givesUp,
        hsuccess, Option.getD_some, herror, Bool.not_false, Bool.true_or, Bool.true_and]
      decide

end UniRil.Data
