import UniRil.Data.Rounds
import UniRil.Data.Steps
import UniRil.Data.Dispatch

/-!
# How often a data request is answered

Each call of `RIL_onRequestComplete` is counted, first in the log of the data functions and then
among the completions of a request.
-/

namespace UniRil.Data

open StateRules AtTok

variable {cfg : Config} {socket_id : RIL_SOCKET_ID} {data : SetupData}

/-! ## Completions in the log -/

def World.answers (w : World) : Nat := w.log.countP fun e => e.completion.isSome

theorem adds_note {e : Event} {n : Nat} (h : (if e.completion.isSome then 1 else 0) = n) : Adds World.answers n (note e) := by
  intro w
  show (w.log ++ [e]).countP _ = w.log.countP _ + n
  rw [List.countP_append, List.countP_singleton, h]

theorem adds_complete {e : RIL_Errno} {calls : List DataCall} : Adds World.answers 1 (RIL_onRequestComplete e calls) :=
  adds_note rfl

/-- No completion has come or gone. -/
def SameAnswers (w w' : World) : Prop := w'.answers = w.answers

instance : IsPreorder World SameAnswers where
  refl _ := rfl
  trans _ _ _ h h' := h'.trans h

theorem sameAnswers_send {cmd : AtCommand} : Keeps SameAnswers (at_send_command cmd) := by
  intro w
  show (w.log ++ [_]).countP _ = _
  rw [List.countP_append]
  rfl

theorem sameAnswers_query : Keeps SameAnswers queryAllActivePDNInfos := by
  unfold queryAllActivePDNInfos
  refine .bind (fun _ => rfl) fun _ => .bind sameAnswers_send fun reply => .ite ?_ .pure
  exact .bind .reads fun _ _ => rfl

theorem sameAnswers (socket_id : RIL_SOCKET_ID) : Steps socket_id SameAnswers where
  send := sameAnswers_send
  log {e} he := by
    have hnone : Adds World.answers 0 (note e) := by
      refine adds_note ?_
      cases e with
      | RIL_onRequestComplete => exact he.elim
      | _ => rfl
    exact hnone
  sim _ := rfl
  contexts _ _ := rfl
  channel _ _ := rfl
  openchannelCid _ := rfl
  addr {_} w := by
    unfold getIPV6Addr
    split <;> rfl

theorem adds_keeps {α : Type} {m : M α} (h : Keeps SameAnswers m) : Adds World.answers 0 m := h

/-! ## Functions that answer -/

/-- The completions of a call that got the token, or NULL. -/
def tokens (hasToken : Bool) : Nat := if hasToken then 1 else 0

theorem adds_sendDataCallList {hasToken : Bool} {e : RIL_Errno} {calls : List DataCall} :
    Adds World.answers (tokens hasToken) (sendDataCallList hasToken e calls) := by
  cases hasToken with
  | true => exact adds_complete
  | false => exact adds_note rfl

theorem adds_reportFailure {fb_cid cid : Int} : Adds World.answers 1 (reportFailure socket_id fb_cid cid) :=
  .after (adds_keeps (sameAnswers socket_id).putPDP) fun _ => .after (adds_keeps (sameAnswers socket_id).putPDP) fun _ =>
    .after (fun _ => rfl) fun _ => adds_complete

theorem adds_reportSetup {cid : Int} {call : DataCall} : Adds World.answers 1 (reportSetup cfg socket_id cid call) := by
  unfold reportSetup
  refine .after (adds_keeps Steps.getFallbackCid) fun fb_cid => .after .reads fun detached => ?_
  refine .ite (fun _ => adds_reportFailure) fun _ => .ite (fun _ => ?_) fun _ => adds_complete
  refine .after (adds_keeps sameAnswers_send) fun _ => .after (adds_keeps (sameAnswers socket_id).deact) fun _ => ?_
  exact adds_reportFailure

theorem adds_reportMissing : Adds World.answers 1 (reportMissing socket_id) :=
  .after (fun _ => rfl) fun _ => adds_complete

theorem adds_answerDataCallList {cid : Int} {hasToken : Bool} {n : Nat} {responses : Int → DataCall} :
    Adds World.answers (tokens hasToken) (answerDataCallList cfg socket_id cid hasToken n responses) := by
  unfold answerDataCallList
  refine .ite (fun htoken => ?_) fun _ => adds_sendDataCallList
  rw [htoken.1]
  split
  · exact .before adds_reportSetup fun _ _ => rfl
  · exact .before adds_reportMissing fun _ _ => rfl

theorem adds_requestOrSendDataCallList {cid : Int} {hasToken : Bool} :
    Adds World.answers (tokens hasToken) (requestOrSendDataCallList cfg socket_id cid hasToken) := by
  unfold requestOrSendDataCallList
  refine .after (adds_keeps sameAnswers_send) fun cgact => .ite (fun _ => ?_) fun _ => adds_sendDataCallList
  split
  · exact adds_sendDataCallList
  · refine .after (adds_keeps sameAnswers_send) fun cgdcont => .ite (fun _ => ?_) fun _ => adds_sendDataCallList
    refine .after .reads fun stack => .after (adds_keeps Steps.getPDPState) fun state => .after .reads fun g => ?_
    dsimp only
    split
    · exact adds_sendDataCallList
    · exact adds_answerDataCallList

theorem adds_setupError {index : Int} : Adds World.answers 1 (setupError socket_id index) :=
  .after (.when (.after (adds_keeps (sameAnswers socket_id).releaseSlot) fun _ _ => rfl)) fun _ =>
    .after (fun _ => rfl) fun _ => .after .reads fun _ => adds_complete

/-- The request always reaches one of its labels. -/
theorem adds_requestSetupDataCall : Adds World.answers 1 (requestSetupDataCall cfg socket_id data) := by
  have hsome : Returns (fun label : Option Label => label.isSome) (setupRounds cfg socket_id data) := setupRounds_isSome
  refine (adds_keeps ((sameAnswers socket_id).setupRounds fun _ => sameAnswers_query)).afterReturns hsome fun label hlabel => ?_
  match label with
  | some (.done _ index) =>
    refine .after (fun _ => rfl) fun _ => .after (fun _ => rfl) fun _ => ?_
    exact @adds_requestOrSendDataCallList cfg socket_id (index + 1) true
  | some (.error index) => exact adds_setupError

theorem adds_answerDeactivate {error : Bool} : Adds World.answers 1 (answerDeactivate socket_id true error) := by
  unfold answerDeactivate
  exact .after .reads fun present => .ite (fun _ => adds_complete) fun _ => .ite (fun _ => adds_complete) fun h => (h rfl).elim

theorem adds_deactivateDataConnection {p_cid : Line} :
    Adds World.answers 1 (deactivateDataConnection cfg socket_id p_cid true) := by
  unfold deactivateDataConnection
  refine .ite (fun _ => adds_answerDeactivate) fun _ => .after (fun _ => rfl) fun _ => ?_
  refine .after (adds_keeps Steps.getPDPState) fun state => .ite (fun _ => adds_answerDeactivate) fun _ => ?_
  refine .after .reads fun count => .ite (fun _ => adds_answerDeactivate) fun _ => ?_
  exact .after (adds_keeps (sameAnswers socket_id).deactivateCall) fun _ => adds_answerDeactivate

theorem adds_detachGPRS : Adds World.answers 1 (detachGPRS cfg socket_id true) := by
  unfold detachGPRS
  refine .ite (fun _ => adds_complete) fun _ => .after (adds_keeps (sameAnswers socket_id).detachFromNetwork) fun ok => ?_
  exact .ite (fun _ => adds_complete) fun _ => adds_complete

/-! ## Requests -/

def Server.answers (s : Server) : Nat := s.completions.length

theorem adds_withToken {α : Type} {n : Nat} {m : Config → M α} (h : ∀ cfg, Adds World.answers n (m cfg)) :
    Adds Server.answers n (withToken m) := by
  intro s
  have hlog : (m s.cfg { s.world with log := [] }).2.answers = 0 + n := h s.cfg { s.world with log := [] }
  rw [World.answers, ← List.length_filterMap_eq_countP, Nat.zero_add] at hlog
  show (s.completions ++ _).length = s.completions.length + n
  rw [List.length_append, ← hlog]

theorem adds_withoutToken {α : Type} {m : Config → M α} : Adds Server.answers 0 (withoutToken m) := fun _ => rfl

theorem adds_answer {c : Completion} :
    Adds Server.answers 1 (modify fun s => { s with completions := s.completions ++ [c] } : P Unit) := by
  intro s
  show (s.completions ++ [c]).length = _
  rw [List.length_append]
  rfl

theorem adds_succeed : Adds Server.answers 1 succeed := adds_answer

theorem adds_fail : Adds Server.answers 1 fail := adds_answer

theorem adds_failWith {cause : FailCause} : Adds Server.answers 1 (failWith socket_id cause) :=
  .after (fun _ => rfl) fun _ => adds_fail

theorem adds_sendP {cmd : DataCommand} : Adds Server.answers 0 (send cmd) := fun _ => rfl

theorem adds_sendAndReport {cmd : DataCommand} : Adds Server.answers 1 (sendAndReport cmd) :=
  .after adds_sendP fun _ => .ite (fun _ => adds_succeed) fun _ => adds_fail

theorem adds_sendAndSucceed {cmd : DataCommand} : Adds Server.answers 1 (sendAndSucceed cmd) :=
  .after adds_sendP fun _ => adds_succeed

theorem adds_setup : Adds Server.answers 1 (processSetupDataCall socket_id data) := by
  have hsetup : Adds Server.answers 1 (withToken fun cfg => requestSetupDataCall cfg socket_id data) :=
    adds_withToken fun _ => adds_requestSetupDataCall
  have hon : Adds Server.answers 1 (setupOnPacketService socket_id data) :=
    .after .reads fun s => .ite (fun _ => adds_failWith) fun _ => .before hsetup fun _ _ => rfl
  have hoff : Adds Server.answers 1 (setupOffPacketService socket_id data) := by
    unfold setupOffPacketService
    refine .after .reads fun s => .ite (fun _ => hsetup) fun _ => .ite (fun _ => ?_) fun _ => adds_failWith
    exact .after (fun _ => rfl) fun _ => adds_failWith
  unfold processSetupDataCall
  refine .after .reads fun s => .ite (fun _ => adds_answer) fun _ => .ite (fun _ => adds_failWith) fun _ => ?_
  refine .ite (fun _ => .ite (fun _ => ?_) fun _ => hsetup) fun _ => adds_failWith
  exact .ite (fun _ => hon) fun _ => hoff

theorem adds_attachGPRS : Adds Server.answers 1 (attachGPRS socket_id) := by
  unfold attachGPRS
  refine .after .reads fun s => .ite (fun _ => adds_fail) fun _ => .after (.when adds_withoutToken) fun _ => ?_
  refine .ite (fun _ => adds_sendAndSucceed) fun _ => .ite (fun _ => adds_fail) fun _ => ?_
  refine .ite (fun _ => adds_sendAndReport) fun _ => .ite (fun _ => ?_) fun _ => adds_sendAndSucceed
  exact .after adds_sendP fun _ => adds_sendAndReport

theorem adds_allowData {allowed : Int} : Adds Server.answers 1 (processAllowData socket_id allowed) := by
  have hsave : Adds Server.answers 0 (saveDataCardProp socket_id) := by
    intro s
    unfold saveDataCardProp
    rw [modify_apply]
    split <;> rfl
  have hdetach : Adds Server.answers 1 (withToken fun cfg => detachGPRS cfg socket_id true) :=
    adds_withToken fun _ => adds_detachGPRS
  have hrequest : Adds Server.answers 1 (requestAllowData socket_id allowed) := by
    unfold requestAllowData
    refine .after (fun _ => rfl) fun _ => .after .reads fun s => .ite (fun _ => ?_) fun _ => ?_
    · exact .ite (fun _ => .after hsave fun _ => adds_attachGPRS) fun _ => hdetach
    · exact .ite (fun _ => .after hsave fun _ => adds_answer) fun _ => adds_succeed
  exact .after .reads fun s => .ite (fun _ => adds_fail) fun _ => hrequest

theorem adds_sendProfile {cid : Int} {p : InitialAttachApn} : Adds Server.answers 0 (sendProfile socket_id cid p) :=
  .after adds_sendP fun _ => .after adds_sendP fun _ => .after .reads fun _ => .when (.after adds_sendP fun _ => .pure)

theorem adds_setInitialAttach {apn : Option InitialAttachApn} :
    Adds Server.answers 1 (requestSetInitialAttachAPN socket_id apn) := by
  have hquery : ∀ cid, Adds Server.answers 0 (getDataProfile cid) := by
    intro cid
    unfold getDataProfile
    refine .after (adds_withToken fun _ => adds_keeps sameAnswers_query) fun _ => .after .reads fun pdn => ?_
    exact .ite (fun _ => .after adds_sendP fun _ => .pure) fun _ => .pure
  have hreattach : ∀ c : Prop, [Decidable c] → Adds Server.answers 0 (when c (do
      let _ ← send .SPREATTACH
      pure ())) := fun _ _ => .when (.after adds_sendP fun _ => .pure)
  have hlte : ∀ p, Adds Server.answers 0 (setInitialAttachLTE socket_id p) := by
    intro p
    unfold setInitialAttachLTE
    refine .after (hquery 1) fun response => .after .reads fun s => .ite (fun _ => hreattach _) fun _ => ?_
    exact .after adds_sendProfile fun _ => hreattach _
  have hend : Adds Server.answers 1 (do
      succeed
      setWorldSim socket_id fun m => { m with s_trafficClass := TRAFFIC_CLASS_DEFAULT }) :=
    .before adds_succeed fun _ _ => rfl
  unfold requestSetInitialAttachAPN
  refine .after .reads fun s => ?_
  cases apn with
  | none => exact hend
  | some p => exact .ite (fun _ => .after (hlte p) fun _ => hend) fun _ => .after adds_sendProfile fun _ => hend

theorem adds_setProfile {cid : Int} {apn : Option InitialAttachApn} :
    Adds Server.answers 1 (setProfile socket_id cid apn) := by
  cases apn with
  | none => exact adds_fail
  | some p => exact .after adds_sendProfile fun _ => adds_succeed

theorem adds_setXcapIpAddr {index ipv4 ipv6 : Option Line} :
    Adds Server.answers 1 (setXcapIpAddr socket_id index ipv4 ipv6) := by
  unfold setXcapIpAddr
  refine .after .reads fun s => ?_
  cases index with
  | none => exact adds_fail
  | some index =>
    refine .ite (fun _ => .after (adds_withToken fun _ => adds_keeps Steps.getPDPCid) fun cid => ?_) fun _ => adds_fail
    exact .ite (fun _ => adds_sendAndSucceed) fun _ => adds_fail

theorem adds_setImsPcscfAddr {strings : Option Line} : Adds Server.answers 1 (setImsPcscfAddr strings) := by
  unfold setImsPcscfAddr
  refine .ite (fun _ => adds_fail) fun _ => .after adds_sendP fun reply => ?_
  cases reply with
  | ok _ => exact adds_succeed
  | error _ => exact adds_fail

theorem adds_updatePlmn {type action plmn act1 act2 act3 : Int} :
    Adds Server.answers 1 (updatePlmn type action plmn act1 act2 act3) := by
  unfold updatePlmn
  refine .ite (fun _ => .ite (fun _ => adds_sendAndReport) fun _ => ?_) fun _ => ?_
  · exact .ite (fun _ => adds_sendAndReport) fun _ => adds_fail
  · exact .ite (fun _ => adds_sendAndReport) fun _ => adds_fail

theorem adds_queryPlmn {type : Int} : Adds Server.answers 1 (queryPlmn type) :=
  .ite (fun _ => adds_fail) fun _ => .after adds_sendP fun _ => .ite (fun _ => adds_answer) fun _ => adds_fail

theorem adds_setTrafficClass {value : Int} : Adds Server.answers 1 (setTrafficClass socket_id value) :=
  .ite (fun _ => .after (fun _ => rfl) fun _ => adds_fail) fun _ => .after (fun _ => rfl) fun _ => adds_succeed

/-! ### The two requests that read a line -/

/-- The cid, the bearer id and the APN can be read. -/
def hasApn (line : Line) : Bool :=
  let cid := at_tok_nextint (at_tok_flag_start (some line) 58)
  let bearer_id := at_tok_nextint cid.p_cur
  cid.value.isSome && bearer_id.value.isSome && (at_tok_nextstr bearer_id.p_cur).value.isSome

theorem pcscfAddr_isSome (line : Line) : (pcscfAddr line).isSome = hasApn line := by
  unfold pcscfAddr hasApn
  dsimp only
  cases (at_tok_nextint (at_tok_flag_start (some line) 58)).value with
  | none => rfl
  | some cid =>
    cases (at_tok_nextint (at_tok_nextint (at_tok_flag_start (some line) 58)).p_cur).value with
    | none => rfl
    | some bearer_id =>
      cases (at_tok_nextstr (at_tok_nextint (at_tok_nextint (at_tok_flag_start (some line) 58)).p_cur).p_cur).value <;> rfl

/-- Both addresses can be read. -/
def hasRegAddrs (line : Line) : Bool :=
  let imsAddr0 := at_tok_nextstr (at_tok_flag_start (some line) 58)
  imsAddr0.value.isSome && (at_tok_nextstr imsAddr0.p_cur).value.isSome

theorem regAddrs_isSome (line : Line) : (regAddrs line).isSome = hasRegAddrs line := by
  unfold regAddrs hasRegAddrs
  dsimp only
  cases (at_tok_nextstr (at_tok_flag_start (some line) 58)).value with
  | none => rfl
  | some a => cases (at_tok_nextstr (at_tok_nextstr (at_tok_flag_start (some line) 58)).p_cur).value <;> rfl

/-- The first line that names the command has an APN. -/
def pcscfRead (lines : List Line) : Bool :=
  (lines.find? fun line => findInBuf line (ascii "+CGCONTRDP")).any hasApn

/-- The first line names the command, and an address cannot be read. -/
def regAddrsMissing (lines : List Line) : Bool :=
  lines.head?.any fun line => findInBuf line (ascii "+SPIMSREGADDR") && !hasRegAddrs line

/-- The completions for a request, by the first answer of the modem to it. -/
def answersTo (request : Request) (reply : Reply) : Nat :=
  match request with
  | .GET_IMS_PCSCF_ADDR => if reply.success ∧ pcscfRead reply.p_intermediates then 2 else 1
  | .IMS_REGADDR => if reply.success ∧ regAddrsMissing reply.p_intermediates then 0 else 1
  | _ => 1

theorem adds_pcscfLoop {lines : List Line} :
    Adds Server.answers (if pcscfRead lines then 1 else 0) (pcscfLoop lines) := by
  have hcomplete : ∀ addr, Adds Server.answers 1 (completeString addr) := by
    intro addr
    cases addr with
    | none => exact adds_fail
    | some s => exact adds_answer
  induction lines with
  | nil => exact .pure
  | cons line lines ih =>
    rw [pcscfLoop, pcscfRead, List.find?_cons]
    cases hnamed : findInBuf line (ascii "+CGCONTRDP") with
    | true =>
      rw [if_pos rfl, Option.any_some, ← pcscfAddr_isSome]
      cases pcscfAddr line with
      | none => exact .pure
      | some addr => exact hcomplete addr
    | false => exact ih

theorem adds_completeRegAddrs {line : Line} {lines : List Line} :
    Adds Server.answers (if regAddrsMissing (line :: lines) then 0 else 1) (completeRegAddrs line) := by
  rw [completeRegAddrs, regAddrsMissing, List.head?_cons, Option.any_some]
  cases findInBuf line (ascii "+SPIMSREGADDR") with
  | false => exact adds_fail
  | true =>
    rw [if_pos rfl, Bool.true_and, ← regAddrs_isSome]
    cases regAddrs line with
    | none => exact .pure
    | some addrs => exact adds_answer

theorem getImsPcscfAddr_answers (s : Server) :
    (getImsPcscfAddr s).2.answers = s.answers + answersTo .GET_IMS_PCSCF_ADDR s.world.env.next.1.reply := by
  have hreply : (send .CGCONTRDP_ims s).1 = s.world.env.next.1.reply := rfl
  rw [getImsPcscfAddr, bind_apply, hreply]
  by_cases hsuccess : s.world.env.next.1.reply.success = true
  · rw [if_pos hsuccess, answersTo, Adds.bind adds_pcscfLoop fun _ => adds_fail, adds_sendP]
    simp only [hsuccess, true_and, Nat.add_zero, Nat.add_left_cancel_iff]
    split <;> rfl
  · rw [if_neg hsuccess, answersTo, if_neg fun h => hsuccess h.1, adds_fail, adds_sendP]

theorem imsRegAddr_answers (s : Server) :
    (imsRegAddr s).2.answers = s.answers + answersTo .IMS_REGADDR s.world.env.next.1.reply := by
  have hreply : (send .SPIMSREGADDR_query s).1 = s.world.env.next.1.reply := rfl
  rw [imsRegAddr, bind_apply, hreply]
  by_cases hsuccess : s.world.env.next.1.reply.success = true
  · rw [if_pos hsuccess, answersTo]
    cases s.world.env.next.1.reply.p_intermediates with
    | nil =>
      rw [if_neg fun h => Bool.false_ne_true h.2]
      exact adds_fail _
    | cons line lines =>
      simp only [hsuccess, true_and]
      exact @adds_completeRegAddrs line lines _
  · rw [if_neg hsuccess, answersTo, if_neg fun h => hsuccess h.1, adds_fail, adds_sendP]

theorem serveRequest_answers (request : Request) (s : Server) :
    (serveRequest socket_id request s).2.answers = s.answers + answersTo request s.world.env.next.1.reply := by
  cases request with
  | GET_IMS_PCSCF_ADDR => exact getImsPcscfAddr_answers s
  | IMS_REGADDR => exact imsRegAddr_answers s
  | SETUP_DATA_CALL data => exact adds_setup s
  | DEACTIVATE_DATA_CALL p_cid => exact adds_withToken (fun _ => adds_deactivateDataConnection) s
  | LAST_DATA_CALL_FAIL_CAUSE => exact Adds.after .reads (fun _ => adds_answer) s
  | DATA_CALL_LIST => exact adds_withToken (fun cfg => @adds_requestOrSendDataCallList cfg socket_id (-1) true) s
  | ALLOW_DATA allowed => exact adds_allowData s
  | SET_INITIAL_ATTACH_APN apn => exact adds_setInitialAttach s
  | SET_IMS_INITIAL_ATTACH_APN apn => exact adds_setProfile s
  | SET_SOS_INITIAL_ATTACH_APN apn => exact adds_setProfile s
  | TRAFFIC_CLASS value => exact adds_setTrafficClass s
  | ENABLE_LTE value => exact adds_sendAndReport s
  | ATTACH_DATA value => exact adds_sendAndReport s
  | FORCE_DETACH => exact adds_sendAndReport s
  | ENABLE_RAU_NOTIFY => exact adds_sendAndSucceed s
  | SET_SINGLE_PDN value => exact Adds.after (fun _ => rfl) (fun _ => adds_succeed) s
  | SET_XCAP_IP_ADDR index ipv4 ipv6 => exact adds_setXcapIpAddr s
  | SET_IMS_PCSCF_ADDR strings => exact adds_setImsPcscfAddr s
  | REATTACH => exact adds_sendAndSucceed s
  | UPDATE_PLMN type action plmn act1 act2 act3 => exact adds_updatePlmn s
  | QUERY_PLMN type => exact adds_queryPlmn s

theorem processDataRequest_answers (request : Request) (s : Server) :
    (processDataRequest socket_id request s).2.answers = s.answers + answersTo request s.world.env.next.1.reply := by
  unfold processDataRequest
  rw [bind_apply, modify_apply, serveRequest_answers]
  split <;> rfl

/-- The answer of the modem does not lead around the one completion: that of AT+CGCONTRDP=11 has no line
that can be read up to the APN, or that of AT+SPIMSREGADDR? has both addresses. -/
def AnswersOnce (request : Request) (reply : Reply) : Prop :=
  (request = .GET_IMS_PCSCF_ADDR → ¬ (reply.success ∧ pcscfRead reply.p_intermediates)) ∧
    (request = .IMS_REGADDR → ¬ (reply.success ∧ regAddrsMissing reply.p_intermediates))

/-- **A data request is answered exactly once** unless the modem answers one of the two queries for
addresses of the IMS in full or in part. -/
theorem request_answered_once_iff (socket_id : RIL_SOCKET_ID) (request : Request) (s : Server) :
    (processDataRequest socket_id request s).2.completions.length = s.completions.length + 1 ↔
      AnswersOnce request s.world.env.next.1.reply := by
  have hanswers := @processDataRequest_answers socket_id request s
  rw [Server.answers, Server.answers] at hanswers
  rw [hanswers, Nat.add_left_cancel_iff]
  cases request with
  | GET_IMS_PCSCF_ADDR => simp [answersTo, AnswersOnce]
  | IMS_REGADDR => simp [answersTo, AnswersOnce]
  | _ => simp [answersTo, AnswersOnce]

/-! ### A complete answer to AT+CGCONTRDP=11 -/

/-- A server on a SIM in service, with the answers to come. -/
def serverOf (answers : List Answer) : Server where
  cfg := gsmConfig
  world := World.init (envOf answers)
  globals :=
    { s_manualSearchNetworkId := -1, s_setNetworkId := -1, s_swapCard := 0, s_failCount := 0
      modemLWG_LWG := false, isAttachEnable := true, manualAttach := false }
  radio := fun _ =>
    { s_desiredRadioState := 1, s_radioState := .RADIO_STATE_ON, inService := true, s_in4G := 1, s_PSRegStateDetail := 2 }
  s_dataAllowed := fun _ => 1
  sent := []
  completions := []

def pcscfAnswer : Answer :=
  .response (ascii "OK") [ascii "+CGCONTRDP: 11,5,\"ims\",\"10.0.0.2\",\"\",\"10.0.0.3\",\"10.0.0.4\",\"10.0.0.5\""]

theorem pcscf_answered_twice :
    ¬ ∀ socket_id request s,
      (processDataRequest socket_id request s).2.completions.length = s.completions.length + 1 := by
  intro honce
  have htwice : (processDataRequest .RIL_SOCKET_1 .GET_IMS_PCSCF_ADDR (serverOf [pcscfAnswer])).2.completions.length = 2 := by
    decide
  exact absurd (htwice.symm.trans (honce .RIL_SOCKET_1 .GET_IMS_PCSCF_ADDR (serverOf [pcscfAnswer]))) (by decide)

example :
    (processDataRequest .RIL_SOCKET_1 .IMS_REGADDR
      (serverOf [.response (ascii "OK") [ascii "+SPIMSREGADDR: 10.0.0.2"]])).2.completions.length = 0 := by
  decide

end UniRil.Data
