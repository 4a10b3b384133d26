import UniRil.Data.Addresses
import UniRil.Data.Rounds
import UniRil.Data.ErrorHandling

/-!
# When an activation that succeeds has established its context

What the modem answers from AT+CGDATA on comes to one of four outcomes. The result of the activation
and the context are compared over them.
-/

namespace UniRil.Data

open StateRules

variable {cfg : Config} {socket_id : RIL_SOCKET_ID} {data : SetupData}

/-! ## The outcomes -/

/-- What the answers from AT+CGDATA on come to. -/
inductive Link
  | refused
  | unconnected
  | silent
  | reported (lines : List Line)
  deriving DecidableEq

/-- An answer to AT+CGDATA, and what answers the requests after it. -/
def Answer.link (env : Env) : Answer → Link
  | .failed _ => .refused
  | .response finalResponse _ =>
    if strStartsWith finalResponse (ascii "CONNECT") then
      if env.next.1.reply.isTimeout then .silent else .reported env.next.1.reply.p_intermediates
    else if Command.isFinalResponseSuccess finalResponse then .unconnected
    else .refused

/-- The kernel gets an IPv6 address in time. -/
def Env.addressComes (env : Env) : Bool :=
  match env.ipv6Addrs with
  | some _ :: _ => true
  | _ => false

/-- The types of the contexts after the answers. -/
def Link.ipTypes (g : Shared) : Link → Int → IPType
  | .reported lines => typesAfter g.ipTypes g.s_pdpType lines
  | _ => g.ipTypes

/-- The types of the interfaces after the answers. -/
def Link.netTypes (g : Shared) : Link → Int → IPType
  | .reported lines => typesAfter g.netTypes g.s_pdpType lines
  | _ => g.netTypes

/-- An address was reported for the context. -/
def Link.active (index : Int) : Link → Bool
  | .reported lines => named index lines
  | _ => false

/-- Two contexts of different types become one interface. -/
def mergesIn (ip : Int → IPType) (cid primaryCid : Int) : Bool :=
  1 ≤ primaryCid ∧ primaryCid < MAX_PDP_NUM ∧ 1 ≤ cid ∧ cid < MAX_PDP_NUM ∧ ip (primaryCid - 1) ≠ ip (cid - 1)

/-- The second context was merged into the first. -/
def Link.merged (g : Shared) (idx primaryCid : Int) (l : Link) : Bool :=
  l.active idx && mergesIn (l.ipTypes g) (idx + 1) primaryCid

/-- The types of the interfaces, with those that are merged. -/
def Link.interfaces (g : Shared) (idx primaryCid : Int) (l : Link) : Int → IPType :=
  if l.merged g idx primaryCid then Function.update (l.netTypes g) (primaryCid - 1) .IPV4V6 else l.netTypes g

/-- An address was reported, and the interface can be brought up with it. -/
def Link.up (g : Shared) (env : Env) (idx primaryCid : Int) (l : Link) : Prop :=
  l.active idx = true ∧ (l.merged g idx primaryCid = true ∨ l.ipTypes g idx = .IPV4 ∨ l.ipTypes g idx = .IPV4V6 ∨
    env.addressComes = true)

/-! ## The interface -/

theorem dispose_apply (masterCid secondaryCid : Int) (w : World) :
    dispose_data_fallback masterCid secondaryCid w =
      bif mergesIn w.shared.ipTypes secondaryCid masterCid then
        (true, { w with shared := w.shared.mergeFallback (masterCid - 1) (secondaryCid - 1) })
      else (false, w) := by
  unfold dispose_data_fallback mergesIn Shared.ipTypes
  rw [if_apply]
  by_cases hrange : masterCid < 1 ∨ MAX_PDP_NUM ≤ masterCid ∨ secondaryCid < 1 ∨ MAX_PDP_NUM ≤ secondaryCid
  · rw [if_pos hrange, decide_eq_false (by omega)]
    rfl
  · rw [if_neg hrange, readShared, reads_bind, if_apply]
    by_cases hsame : (w.shared.pdp_info (masterCid - 1)).ip_state = (w.shared.pdp_info (secondaryCid - 1)).ip_state
    · rw [if_pos (decide_eq_true hsame), decide_eq_false (by simp [hsame])]
      rfl
    · rw [if_neg (by simpa using hsame), decide_eq_true ⟨by omega, by omega, by omega, by omega, hsame⟩]
      rfl

theorem mergeFallback_state (g : Shared) (i j k : Int) : ((g.mergeFallback i j).pdp_info k).state = (g.pdp_info k).state := by
  unfold Shared.mergeFallback
  by_cases h : k = i
  · subst h
    cases (g.pdp_info k).ip_state <;> simp [Shared.setInfo, Shared.setNet]
  · cases (g.pdp_info i).ip_state <;> simp [Shared.setInfo, Shared.setNet, h]

theorem mergeFallback_types (g : Shared) (i j : Int) :
    (g.mergeFallback i j).ipTypes = Function.update g.ipTypes i .IPV4V6 ∧
      (g.mergeFallback i j).netTypes = Function.update g.netTypes i .IPV4V6 := by
  unfold Shared.mergeFallback
  refine ⟨funext fun k => ?_, funext fun k => ?_⟩
  all_goals
    by_cases h : k = i
    · subst h
      cases (g.pdp_info k).ip_state <;> simp [Shared.ipTypes, Shared.netTypes, Shared.setInfo, Shared.setNet]
    · cases (g.pdp_info i).ip_state <;> simp [Shared.ipTypes, Shared.netTypes, Shared.setInfo, Shared.setNet, h]

/-- What bringing up the interface leaves of the contexts and the interfaces. -/
structure BroughtUp (idx : Int) (type : IPType) (w : World) (up : Bool) (w' : World) : Prop where
  result : up = (type = .IPV4 ∨ type = .IPV4V6 ∨ w.env.addressComes)
  state : ∀ i, (w'.shared.pdp_info i).state = (w.shared.pdp_info i).state
  ip : w'.shared.ipTypes = w.shared.ipTypes ∨ type = .IPV4V6 ∧ w'.shared.ipTypes = Function.update w.shared.ipTypes idx .IPV4
  net : w'.shared.netTypes = w.shared.netTypes

theorem getIPV6Addr_spec (idx : Int) (w : World) :
    (getIPV6Addr idx w).1 = w.env.addressComes ∧ (getIPV6Addr idx w).2.shared.pdp_info = w.shared.pdp_info ∧
      (getIPV6Addr idx w).2.shared.netTypes = w.shared.netTypes := by
  unfold getIPV6Addr Env.addressComes
  match w.env.ipv6Addrs with
  | [] => exact ⟨rfl, rfl, rfl⟩
  | none :: addrs => exact ⟨rfl, rfl, rfl⟩
  | some addr :: addrs =>
    refine ⟨rfl, rfl, funext fun i => ?_⟩
    by_cases h : i = idx
    · subst h
      simp [Shared.netTypes, Shared.setNet]
    · simp [Shared.netTypes, Shared.setNet, h]

theorem upNetInterface_spec (idx : Int) (type : IPType) :
    Spec (upNetInterface idx type) (BroughtUp idx type) := by
  intro w
  obtain ⟨hcomes, hinfo, hnet⟩ := getIPV6Addr_spec idx w
  have hip : (getIPV6Addr idx w).2.shared.ipTypes = w.shared.ipTypes := by
    unfold Shared.ipTypes
    rw [hinfo]
  unfold upNetInterface
  rw [if_apply]
  by_cases hipv4 : type = .IPV4
  · rw [if_pos hipv4]
    exact ⟨by simp [hipv4], fun _ => rfl, .inl rfl, rfl⟩
  rw [if_neg hipv4, bind_apply, if_apply, hcomes]
  cases haddress : w.env.addressComes with
  | true =>
    rw [if_pos rfl]
    exact ⟨by simp [haddress], fun i => by rw [pure_apply, hinfo], .inl hip, hnet⟩
  | false =>
    rw [if_neg Bool.false_ne_true, if_apply]
    by_cases hdual : type = .IPV4V6
    · rw [if_pos hdual]
      refine ⟨by simp [hdual], fun i => ?_, .inr ⟨hdual, ?_⟩, hnet⟩
      · simp only [bind_apply, pure_apply, modifyShared, modify_apply, setInfo_state, hinfo]
        split
        · rename_i hi
          rw [hi]
        · rfl
      · rw [← hip]
        exact ipTypes_setInfo _ idx fun p => { p with ip_state := .IPV4 }
    · rw [if_neg hdual]
      exact ⟨by simp [hipv4, hdual, haddress], fun i => by rw [pure_apply, hinfo], .inl hip, hnet⟩

/-- How `bringUp` ends. -/
structure InterfaceUp (idx : Int) (w : World) (r : Int × Reply) (w' : World) : Prop where
  result : r.1 = AT_RESULT_OK ↔
    (w.shared.ipTypes idx = .IPV4 ∨ w.shared.ipTypes idx = .IPV4V6 ∨ w.env.addressComes = true)
  state : ∀ i, (w'.shared.pdp_info i).state = (w.shared.pdp_info i).state
  ip : ∀ i, w'.shared.ipTypes i = .UNKNOWN ↔ w.shared.ipTypes i = .UNKNOWN
  net : w'.shared.netTypes = w.shared.netTypes

theorem cgdataError_ne {p_response : Command.ATResponse} : (cgdataError p_response).1 ≠ AT_RESULT_OK := by
  show AT_RESULT_NG ≠ AT_RESULT_OK
  decide

theorem bringUp_spec {p_response : Command.ATResponse} {idx : Int} : Spec (bringUp p_response idx) (InterfaceUp idx) := by
  intro w
  have hup : BroughtUp idx (w.shared.ipTypes idx) w (upNetInterface idx (w.shared.ipTypes idx) w).1
    (upNetInterface idx (w.shared.ipTypes idx) w).2 := upNetInterface_spec idx _ w
  have hip : ∀ i, (upNetInterface idx (w.shared.ipTypes idx) w).2.shared.ipTypes i = .UNKNOWN ↔
      w.shared.ipTypes i = .UNKNOWN := by
    intro i
    rcases hup.ip with h | ⟨hdual, h⟩
    · rw [h]
    · rw [h]
      by_cases hi : i = idx
      · subst hi
        simp [hdual]
      · simp [hi]
  have hrun : bringUp p_response idx w =
      if (upNetInterface idx (w.shared.ipTypes idx) w).1 then
        ((AT_RESULT_OK, .ok p_response), (upNetInterface idx (w.shared.ipTypes idx) w).2)
      else (cgdataError p_response, (upNetInterface idx (w.shared.ipTypes idx) w).2) := by
    unfold bringUp
    rw [readShared, reads_bind, bind_apply, if_apply]
    rfl
  rw [hrun]
  split
  · rename_i htrue
    exact ⟨iff_of_true rfl (hup.result.mp htrue), hup.state, hip, hup.net⟩
  · rename_i hfalse
    exact ⟨iff_of_false cgdataError_ne fun h => hfalse (hup.result.mpr h), hup.state, hip, hup.net⟩

/-- How `establish` ends, from a state in which the modem has been asked for the addresses. -/
structure Brought (idx primaryCid : Int) (w : World) (r : Int × Reply) (w' : World) : Prop where
  result : r.1 = AT_RESULT_OK ↔ ((w.shared.pdp_info idx).state = .ACTIVE →
    mergesIn w.shared.ipTypes (idx + 1) primaryCid = true ∨ w.shared.ipTypes idx = .IPV4 ∨
      w.shared.ipTypes idx = .IPV4V6 ∨ w.env.addressComes = true)
  state : ∀ i, (w'.shared.pdp_info i).state = (w.shared.pdp_info i).state
  ip : w'.shared.ipTypes idx = .UNKNOWN ↔ w.shared.ipTypes idx = .UNKNOWN
  net : w'.shared.netTypes = if (w.shared.pdp_info idx).state = .ACTIVE ∧ mergesIn w.shared.ipTypes (idx + 1) primaryCid
    then Function.update w.shared.netTypes (primaryCid - 1) .IPV4V6 else w.shared.netTypes

theorem mergesIn_ne {ip : Int → IPType} {idx primaryCid : Int} (h : mergesIn ip (idx + 1) primaryCid = true) :
    idx ≠ primaryCid - 1 := by
  rintro rfl
  simp [mergesIn] at h

theorem establish_spec {p_response : Command.ATResponse} {idx primaryCid : Int} :
    Spec (establish p_response idx (idx + 1) primaryCid) (Brought idx primaryCid) := by
  intro w
  unfold establish
  rw [readShared, reads_bind, if_apply]
  by_cases hactive : (w.shared.pdp_info idx).state = .ACTIVE
  · rw [if_pos hactive, bind_apply, dispose_apply]
    cases hmerges : mergesIn w.shared.ipTypes (idx + 1) primaryCid with
    | true =>
      obtain ⟨hip, hnet⟩ := mergeFallback_types w.shared (primaryCid - 1) (idx + 1 - 1)
      let w₁ : World := { w with shared := w.shared.mergeFallback (primaryCid - 1) (idx + 1 - 1) }
      have hup : InterfaceUp (primaryCid - 1) w₁ _ _ := @bringUp_spec p_response _ w₁
      show Brought idx primaryCid w (bringUp p_response (primaryCid - 1) w₁).1 (bringUp p_response (primaryCid - 1) w₁).2
      have hdual : w₁.shared.ipTypes (primaryCid - 1) = .IPV4V6 := by
        rw [hip]
        exact Function.update_self _ _ _
      refine ⟨iff_of_true (hup.result.2 (.inr (.inl hdual))) fun _ => .inl hmerges, fun i => ?_, ?_, ?_⟩
      · exact (hup.state i).trans (mergeFallback_state _ _ _ _)
      · rw [← Function.update_of_ne (mergesIn_ne hmerges) IPType.IPV4V6 w.shared.ipTypes, ← hip]
        exact hup.ip idx
      · rw [if_pos ⟨hactive, hmerges⟩, ← hnet]
        exact hup.net
    | false =>
      have hup : InterfaceUp idx w _ _ := @bringUp_spec p_response _ w
      show Brought idx primaryCid w (bringUp p_response idx w).1 (bringUp p_response idx w).2
      refine ⟨hup.result.trans ?_, hup.state, hup.ip idx, ?_⟩
      · simp [hactive, hmerges]
      · rw [if_neg (by simp [hmerges])]
        exact hup.net
  · rw [if_neg hactive]
    refine ⟨iff_of_true rfl fun h => (hactive h).elim, fun _ => rfl, Iff.rfl, ?_⟩
    rw [if_neg fun h => hactive h.1]
    rfl

/-! ## The answer to AT+CGDATA -/

/-- How `cgdata_set_cmd_rsp` ends, when the answers come to `l`. -/
structure Outcome (l : Link) (idx primaryCid : Int) (w : World) (r : Int × Reply) (w' : World) : Prop where
  result : r.1 = AT_RESULT_OK ∨ r.1 = AT_RESULT_NG
  good : l ≠ .refused → (r.1 = AT_RESULT_OK ∧ (w'.shared.pdp_info idx).state = .ACTIVE ↔
    l.up w.shared w.env idx primaryCid)
  active : (w.shared.pdp_info idx).state ≠ .ACTIVE → ((w'.shared.pdp_info idx).state = .ACTIVE ↔ l.active idx = true)
  ip : w'.shared.ipTypes idx = .UNKNOWN ↔ l.ipTypes w.shared idx = .UNKNOWN
  net : w'.shared.netTypes = l.interfaces w.shared idx primaryCid

theorem next_addressComes (env : Env) : env.next.2.addressComes = env.addressComes := by
  unfold Env.next Env.addressComes
  cases env.answers <;> rfl

theorem establish_result {p_response : Command.ATResponse} {idx cid primaryCid : Int} :
    Returns (fun r => r.1 = AT_RESULT_OK ∨ r.1 = AT_RESULT_NG) (establish p_response idx cid primaryCid) := by
  unfold establish bringUp
  refine .bind fun state => .ite (.bind fun merged => .bind fun ip_state => .bind fun up => ?_) (.pure (.inl rfl))
  exact .ite (.pure (.inl rfl)) (.pure (.inr rfl))

/-- The outcome when the context was left ACTIVE by the addresses or not at all. -/
theorem Brought.outcome {l : Link} {idx primaryCid : Int} {w w₁ w' : World} {r : Int × Reply}
    (h : Brought idx primaryCid w₁ r w') (hresult : r.1 = AT_RESULT_OK ∨ r.1 = AT_RESULT_NG)
    (hstate : (w₁.shared.pdp_info idx).state = .ACTIVE ↔ l.active idx = true) (hip : w₁.shared.ipTypes = l.ipTypes w.shared)
    (hnet : w₁.shared.netTypes = l.netTypes w.shared) (henv : w₁.env.addressComes = w.env.addressComes) :
    Outcome l idx primaryCid w r w' := by
  obtain ⟨hbrought, hkept, hknown, hinterfaces⟩ := h
  simp only [hip, hstate, hnet] at hbrought hinterfaces hknown
  rw [henv] at hbrought
  refine ⟨hresult, fun _ => ?_, fun _ => by rw [hkept, hstate], hknown, ?_⟩
  · rw [hbrought, hkept, hstate, Link.up, Link.merged, Bool.and_eq_true]
    constructor
    · rintro ⟨hup, hactive⟩
      exact ⟨hactive, (hup hactive).imp_left fun hmerges => ⟨hactive, hmerges⟩⟩
    · rintro ⟨hactive, hup⟩
      exact ⟨fun _ => hup.imp_left And.right, hactive⟩
  · rw [hinterfaces, Link.interfaces, Link.merged]
    simp only [Bool.and_eq_true]

theorem connected_spec {p_response : Command.ATResponse} {idx primaryCid : Int} (w : World) :
    Outcome (if w.env.next.1.reply.isTimeout then .silent else .reported w.env.next.1.reply.p_intermediates)
      idx primaryCid w (connected cfg p_response idx (idx + 1) primaryCid w).1
      (connected cfg p_response idx (idx + 1) primaryCid w).2 := by
  have hsend : ∀ (cmd : AtCommand) (w : World), at_send_command cmd w =
      (w.env.next.1.reply, { w with env := w.env.next.2, log := w.log ++ [.at_send_command cmd] }) := fun _ _ => rfl
  have hsame : ∀ (g : Shared) (state : PDP_STATE), (g.setInfo idx fun p => { p with state := state }).ipTypes = g.ipTypes :=
    fun _ _ => ipTypes_setInfo_same fun _ => rfl
  unfold connected
  simp only [bind_apply, modifyShared, modify_apply, hsend, if_apply]
  split
  · rename_i htimeout
    have hdeacting : ((((w.shared.setInfo idx fun p => { p with state := .ESTING }).setInfo idx
        fun p => { p with state := .DEACTING }).pdp_info idx).state = .ACTIVE) ↔ Link.silent.active idx = true := by
      simp [setInfo_state, Link.active]
    split
    · refine ⟨.inr rfl, fun _ => iff_of_false (fun hand => cgdataError_ne hand.1) fun hup => Bool.false_ne_true hup.1,
        fun _ => hdeacting, ?_, rfl⟩
      simp only [pure_apply, hsame]
      exact Iff.rfl
    · exact (establish_spec _).outcome (establish_result _) hdeacting ((hsame _ _).trans (hsame _ _)) rfl
        ((next_addressComes _).trans (next_addressComes _))
  · obtain ⟨hstate, hip, hnet⟩ := cgcontrdp_spec w.env.next.1.reply.p_intermediates
      (w.shared.setInfo idx fun p => { p with state := .ESTING })
    rw [hsame] at hip
    refine (establish_spec _).outcome (establish_result _) ?_ hip hnet (next_addressComes _)
    rw [hstate, setInfo_state, if_pos rfl, Link.active]
    cases named idx w.env.next.1.reply.p_intermediates with
    | true => simp
    | false => simp

/-- The answer to AT+CGDATA and what follows it, for a context whose cid is its own. -/
theorem cgdata_rsp_spec {answer : Answer} {idx primaryCid : Int} {w : World} (hidx : 0 ≤ idx ∧ idx < MAX_PDP_NUM)
    (hcid : (w.shared.pdp_info idx).cid = idx + 1) :
    Outcome (answer.link w.env) idx primaryCid w (cgdata_set_cmd_rsp cfg answer.reply idx primaryCid w).1
      (cgdata_set_cmd_rsp cfg answer.reply idx primaryCid w).2 := by
  unfold cgdata_set_cmd_rsp
  cases answer with
  | failed err =>
    refine ⟨.inr rfl, fun h => (h rfl).elim, fun hstate => iff_of_false hstate Bool.false_ne_true, Iff.rfl, rfl⟩
  | response finalResponse lines =>
    have hif : ¬(idx < 0 ∨ MAX_PDP_NUM ≤ idx) := by omega
    simp only [Answer.reply, if_neg hif, readShared, reads_bind, hcid, Option.getD_some]
    unfold getATResponseType Answer.link
    by_cases hconnect : strStartsWith finalResponse (ascii "CONNECT") = true
    · simp only [if_pos hconnect]
      exact connected_spec w
    simp only [if_neg hconnect]
    by_cases herror : Command.isFinalResponseError finalResponse = true
    · simp only [if_pos herror, not_success_of_error herror, Bool.false_eq_true, if_false]
      have hsame : (w.shared.setInfo idx fun p => { p with state := .IDLE }).ipTypes = w.shared.ipTypes :=
        ipTypes_setInfo_same fun _ => rfl
      refine ⟨.inl rfl, fun h => (h rfl).elim, fun _ => ?_, ?_, rfl⟩
      · simp [modifyShared, setInfo_state, Link.active]
      · simp [modifyShared, hsame, Link.ipTypes]
    · simp only [if_neg herror]
      cases hsuccess : Command.isFinalResponseSuccess finalResponse with
      | true =>
        refine ⟨.inr rfl, fun _ => iff_of_false (fun hand => cgdataError_ne hand.1) fun hup => Bool.false_ne_true hup.1,
          fun hstate => ?_, Iff.rfl, rfl⟩
        exact iff_of_false hstate Bool.false_ne_true
      | false =>
        refine ⟨.inr rfl, fun h => (h rfl).elim, fun hstate => iff_of_false hstate Bool.false_ne_true, Iff.rfl, rfl⟩

theorem link_refused {answer : Answer} {env : Env} : answer.link env = .refused ↔ answer.reply.success = false := by
  cases answer with
  | failed err => exact iff_of_true rfl rfl
  | response finalResponse lines =>
    simp only [Answer.link]
    by_cases hconnect : strStartsWith finalResponse (ascii "CONNECT") = true
    · have hsuccess : Reply.success (Answer.reply (.response finalResponse lines)) = true :=
        isFinalResponseSuccess_of_connect hconnect
      rw [if_pos hconnect, hsuccess]
      refine iff_of_false ?_ nofun
      split
      · nofun
      · nofun
    · rw [if_neg hconnect]
      cases hsuccess : Command.isFinalResponseSuccess finalResponse with
      | true => simp [Answer.reply, Reply.success, hsuccess]
      | false => simp [Answer.reply, Reply.success, hsuccess]

/-! ## The activation -/

/-- The answers from AT+CGDATA on, in an activation that starts with `env`. -/
def Config.fromCgdata (cfg : Config) (env : Env) : Env :=
  if cfg.qosDefault then env.next.2.next.2.next.2.next.2 else env.next.2.next.2.next.2

/-- What the answers come to that are still to come before AT+CGDATA. -/
def Env.link (env : Env) : Link := env.next.1.link env.next.2

theorem Link.ipTypes_congr (l : Link) {g g' : Shared} (hip : g.ipTypes = g'.ipTypes)
    (hasked : g.s_pdpType = g'.s_pdpType) : l.ipTypes g = l.ipTypes g' := by
  cases l <;> simp only [Link.ipTypes, hip, hasked]

theorem Link.interfaces_congr (l : Link) {g g' : Shared} {idx primaryCid : Int} (hip : g.ipTypes = g'.ipTypes)
    (hnet : g.netTypes = g'.netTypes) (hasked : g.s_pdpType = g'.s_pdpType) :
    l.interfaces g idx primaryCid = l.interfaces g' idx primaryCid := by
  have htypes : l.netTypes g = l.netTypes g' := by cases l <;> simp only [Link.netTypes, hnet, hasked]
  rw [Link.interfaces, Link.interfaces, Link.merged, Link.merged, Link.ipTypes_congr l hip hasked, htypes]

/-- The contexts while AT+CGDATA runs. -/
def Shared.acting (g : Shared) (cid : Int) : Shared := g.setInfo (cid - 1) fun p => { p with state := .ACTING, cid := cid }

theorem acting_spec (g : Shared) (cid : Int) :
    ((g.acting cid).pdp_info (cid - 1)).cid = cid - 1 + 1 ∧ ((g.acting cid).pdp_info (cid - 1)).state ≠ .ACTIVE ∧
      (g.acting cid).ipTypes = g.ipTypes := by
  refine ⟨by simp [Shared.acting, Shared.setInfo], by simp [Shared.acting, Shared.setInfo], ?_⟩
  exact ipTypes_setInfo_same fun _ => rfl

theorem context_range {cid : Int} (hcid : 1 ≤ cid ∧ cid ≤ MAX_PDP) : 0 ≤ cid - 1 ∧ cid - 1 < MAX_PDP_NUM := by
  have hmax := hcid.2
  rw [MAX_PDP] at hmax
  rw [MAX_PDP_NUM]
  omega

/-- How `sendCgdata` ends, if not by a failure. -/
structure Connected (l : Link) (cid primaryCid : Int) (w : World) (ret : Int) (w' : World) : Prop where
  result : ret = DATA_ACTIVE_SUCCESS ↔ l ≠ .refused
  active : ret = DATA_ACTIVE_SUCCESS → ((w'.shared.pdp_info (cid - 1)).state = .ACTIVE ↔ l.active (cid - 1) = true)
  ip : ret = DATA_ACTIVE_SUCCESS → (w'.shared.ipTypes (cid - 1) = .UNKNOWN ↔ l.ipTypes w.shared (cid - 1) = .UNKNOWN)
  net : ret = DATA_ACTIVE_SUCCESS → w'.shared.netTypes = l.interfaces w.shared (cid - 1) primaryCid

/-- A successful response passes through the error handler and changes nothing. -/
theorem errorHandling_of_success {reply : Reply} {cid : Int} {w : World}
    (h : (errorHandlingForCGDATA socket_id reply cid w).1 = DATA_ACTIVE_SUCCESS) :
    (errorHandlingForCGDATA socket_id reply cid w).2 = w := by
  have hsuccess := (errorHandling_success w).1 h
  cases reply with
  | error err => exact (Bool.false_ne_true hsuccess).elim
  | ok p_response =>
    have hok : p_response.success = true := hsuccess
    unfold errorHandlingForCGDATA
    simp only [if_pos hok]
    rfl

theorem sendCgdata_spec {mEther : Bool} {cid primaryCid : Int} (hcid : 1 ≤ cid ∧ cid ≤ MAX_PDP) (w : World) :
    Connected w.env.link cid primaryCid w (sendCgdata cfg socket_id mEther cid primaryCid w).1
      (sendCgdata cfg socket_id mEther cid primaryCid w).2 := by
  let asked : World := { w with
    shared := w.shared.acting cid
    env := w.env.next.2
    log := w.log ++ [.at_send_command (.CGDATA mEther cid primaryCid)] }
  let sent : World := asked.setSim socket_id fun m => { m with s_curCid := cid }
  let answered : (Int × Reply) × World := cgdata_set_cmd_rsp cfg w.env.next.1.reply (cid - 1) primaryCid sent
  have hrun : sendCgdata cfg socket_id mEther cid primaryCid w =
    errorHandlingForCGDATA socket_id answered.1.2 cid answered.2 := rfl
  obtain ⟨hstored, hacting, hip⟩ := acting_spec w.shared cid
  have houtcome : Outcome w.env.link (cid - 1) primaryCid sent answered.1 answered.2 :=
    @cgdata_rsp_spec cfg w.env.next.1 (cid - 1) primaryCid sent (context_range hcid) hstored
  have hlink : w.env.link.ipTypes sent.shared = w.env.link.ipTypes w.shared := Link.ipTypes_congr _ hip rfl
  have hinterfaces : w.env.link.interfaces sent.shared (cid - 1) primaryCid =
      w.env.link.interfaces w.shared (cid - 1) primaryCid := Link.interfaces_congr _ hip rfl rfl
  rw [hrun]
  refine ⟨?_, fun hok => ?_, fun hok => ?_, fun hok => ?_⟩
  · rw [errorHandling_success, cgdata_rsp_success, Ne, Env.link, link_refused, Bool.not_eq_false]
  · rw [errorHandling_of_success hok]
    exact houtcome.active hacting
  · rw [errorHandling_of_success hok, houtcome.ip, hlink]
  · rw [errorHandling_of_success hok, houtcome.net, hinterfaces]

theorem sendAuthAndQos_world {cid : Int} (w : World) :
    (sendAuthAndQos cfg socket_id data cid w).2.shared = w.shared ∧
      (sendAuthAndQos cfg socket_id data cid w).2.env = if cfg.qosDefault then w.env.next.2.next.2 else w.env.next.2 := by
  unfold sendAuthAndQos
  simp only [bind_apply, readSim, reads_apply, when, if_apply]
  split
  · exact ⟨rfl, rfl⟩
  · exact ⟨rfl, rfl⟩

/-- After the modem has connected, only the type of the first context can make the activation fail. -/
theorem activated_result {cid primaryCid : Int} (w : World) :
    ((activated socket_id cid primaryCid w).1 = DATA_ACTIVE_SUCCESS ↔
      (0 < primaryCid → w.shared.netTypes (primaryCid - 1) = .IPV4V6)) ∧
    ((activated socket_id cid primaryCid w).1 = DATA_ACTIVE_SUCCESS →
      (activated socket_id cid primaryCid w).2.shared = w.shared) := by
  unfold activated settleContext
  simp only [bind_apply, pure_apply, if_apply]
  by_cases hprimary : 0 < primaryCid
  · simp only [if_pos hprimary]
    unfold joinContexts getIPType
    rw [readShared, reads_bind, if_apply]
    by_cases hdual : w.shared.netTypes (primaryCid - 1) = .IPV4V6
    · have hdual' : ¬ (w.shared.net (primaryCid - 1)).ip_type ≠ .IPV4V6 := not_not.2 hdual
      rw [if_neg hdual', bind_apply]
      refine ⟨iff_of_true rfl fun _ => hdual, fun _ => ?_⟩
      rw [setPDPMapping, if_apply]
      split
      · rfl
      · rfl
    · have hdual' : (w.shared.net (primaryCid - 1)).ip_type ≠ .IPV4V6 := hdual
      rw [if_pos hdual']
      have hfailed : DATA_ACTIVE_FALLBACK_FAILED ≠ DATA_ACTIVE_SUCCESS := by decide
      exact ⟨iff_of_false hfailed fun h => hdual (h hprimary), fun h => (hfailed h).elim⟩
  · simp only [if_neg hprimary]
    refine ⟨iff_of_true rfl fun h => (hprimary h).elim, fun _ => ?_⟩
    rw [recordCid, bind_apply, updatePDPCid, if_apply]
    split
    · rfl
    · rfl

/-- Unless AT+CGDCONT or AT+CGDATA is refused, or the first context does not become dual, an address of
known type is reported for the cid. -/
def Config.Establishes (cfg : Config) (cid primaryCid : Int) (w : World) : Prop :=
  let l := (cfg.fromCgdata w.env).link
  let g := w.shared.deactivate cid
  w.env.next.2.next.1.reply.success = true → l ≠ .refused →
    (0 < primaryCid → l.interfaces g (cid - 1) primaryCid (primaryCid - 1) = .IPV4V6) →
      l.active (cid - 1) = true ∧ l.ipTypes g (cid - 1) ≠ .UNKNOWN

/-- `activeSpeciedCidProcess` up to the answer of AT+CGDCONT. -/
def World.asked (w : World) (cid : Int) (type apn : Line) : World :=
  { w with
    shared := w.shared.deactivate cid
    env := w.env.next.2.next.2
    log := w.log ++ [.at_send_command (.CGACT_0 cid)] ++ [.cgact_deact_cmd_rsp cid] ++
      [.at_send_command (.CGDCONT cid type apn)] }

theorem activeSpeciedCidProcess_apply {pdp_type : Line} {cid primaryCid : Int} (w : World) :
    activeSpeciedCidProcess cfg socket_id data cid pdp_type primaryCid w =
      let w₁ := w.asked cid (if pdp_type = ascii "IPV4+IPV6" then ascii "IP" else pdp_type) data.apn
      let sent := sendCgdata cfg socket_id cfg.s_isLTE cid primaryCid (sendAuthAndQos cfg socket_id data cid w₁).2
      if w.env.next.2.next.1.reply.success then
        if sent.1 ≠ DATA_ACTIVE_SUCCESS then (sent.1, (putPDP socket_id (cid - 1) sent.2).2)
        else activated socket_id cid primaryCid sent.2
      else (DATA_ACTIVE_FAILED,
        (putPDP socket_id (cid - 1) (setFailCause socket_id .PDP_FAIL_ERROR_UNSPECIFIED w₁).2).2) := by
  have hsend : ∀ (cmd : AtCommand) (w : World), at_send_command cmd w =
      (w.env.next.1.reply, { w with env := w.env.next.2, log := w.log ++ [.at_send_command cmd] }) := fun _ _ => rfl
  unfold activeSpeciedCidProcess
  simp only [bind_apply, if_apply, hsend, cgact_deact_cmd_rsp, note, modifyShared, modify_apply]
  rfl

/-- An activation that succeeds leaves its context ACTIVE with a known type exactly when such an
address was reported. -/
theorem activation_established_iff {pdp_type : Line} {cid primaryCid : Int} (hcid : 1 ≤ cid ∧ cid ≤ MAX_PDP) (w : World) :
    ((activeSpeciedCidProcess cfg socket_id data cid pdp_type primaryCid w).1 = DATA_ACTIVE_SUCCESS →
      let g := (activeSpeciedCidProcess cfg socket_id data cid pdp_type primaryCid w).2.shared
      (g.pdp_info (cid - 1)).state = .ACTIVE ∧ (g.pdp_info (cid - 1)).ip_state ≠ .UNKNOWN) ↔
    cfg.Establishes cid primaryCid w := by
  let w₁ := w.asked cid (if pdp_type = ascii "IPV4+IPV6" then ascii "IP" else pdp_type) data.apn
  let w₂ := (sendAuthAndQos cfg socket_id data cid w₁).2
  let sent := sendCgdata cfg socket_id cfg.s_isLTE cid primaryCid w₂
  obtain ⟨hshared, henv⟩ := @sendAuthAndQos_world cfg socket_id data cid w₁
  have hconnected : Connected _ cid primaryCid w₂ sent.1 sent.2 := sendCgdata_spec hcid w₂
  have hw₂ : w₂.env = cfg.fromCgdata w.env := henv
  rw [hw₂] at hconnected
  rw [activeSpeciedCidProcess_apply, Config.Establishes]
  dsimp only
  by_cases haccepted : w.env.next.2.next.1.reply.success = true
  · rw [if_pos haccepted]
    by_cases hrefused : (cfg.fromCgdata w.env).link = .refused
    · have hret : sent.1 ≠ DATA_ACTIVE_SUCCESS := fun h => hconnected.result.1 h hrefused
      rw [if_pos hret]
      exact iff_of_true (fun h => (hret h).elim) fun _ h => (h hrefused).elim
    · have hret : sent.1 = DATA_ACTIVE_SUCCESS := hconnected.result.2 hrefused
      have hnet := hconnected.net hret
      have hactive := hconnected.active hret
      have hip := hconnected.ip hret
      rw [hshared] at hnet hip
      obtain ⟨hactivated, hkept⟩ := @activated_result socket_id cid primaryCid sent.2
      rw [hnet] at hactivated
      rw [if_neg (not_not.2 hret)]
      constructor
      · intro hestablished _ _ hdual
        have hsuccess := hactivated.2 hdual
        have hg := hestablished hsuccess
        rw [hkept hsuccess] at hg
        exact ⟨hactive.1 hg.1, fun hunknown => hg.2 (hip.2 hunknown)⟩
      · intro hreported hsuccess
        obtain ⟨hnamed, hknown⟩ := hreported haccepted hrefused (hactivated.1 hsuccess)
        rw [hkept hsuccess]
        exact ⟨hactive.2 hnamed, fun hunknown => hknown (hip.1 hunknown)⟩
  · rw [if_neg haccepted]
    exact iff_of_true nofun fun h => (haccepted h).elim

/-- AT+CGDATA with the function that brings up the interface. -/
def answerCgdata (cfg : Config) (mEther : Bool) (cid primaryCid : Int) : M (Int × Reply) := do
  cgdata_set_cmd_req cid
  let reply ← at_send_command (.CGDATA mEther cid primaryCid)
  cgdata_set_cmd_rsp cfg reply (cid - 1) primaryCid

/-- A failure that `cgdata_set_cmd_rsp` reports or leaves in the context is seen by the error handler
exactly when AT+CGDATA was refused; otherwise it must not happen. -/
theorem failure_reported_iff {mEther : Bool} {cid primaryCid : Int} (hcid : 1 ≤ cid ∧ cid ≤ MAX_PDP) (w : World) :
    ((answerCgdata cfg mEther cid primaryCid w).1.1 = AT_RESULT_NG ∨
        ((answerCgdata cfg mEther cid primaryCid w).2.shared.pdp_info (cid - 1)).state ≠ .ACTIVE →
      (errorHandlingForCGDATA socket_id (answerCgdata cfg mEther cid primaryCid w).1.2 cid
        (answerCgdata cfg mEther cid primaryCid w).2).1 ≠ DATA_ACTIVE_SUCCESS) ↔
    (w.env.link ≠ .refused → w.env.link.up w.shared w.env (cid - 1) primaryCid) := by
  let asked : World := { w with
    shared := w.shared.acting cid
    env := w.env.next.2
    log := w.log ++ [.at_send_command (.CGDATA mEther cid primaryCid)] }
  obtain ⟨hstored, -, hip⟩ := acting_spec w.shared cid
  have houtcome : Outcome w.env.link (cid - 1) primaryCid asked (answerCgdata cfg mEther cid primaryCid w).1
      (answerCgdata cfg mEther cid primaryCid w).2 :=
    @cgdata_rsp_spec cfg w.env.next.1 (cid - 1) primaryCid asked (context_range hcid) hstored
  have hsuccess : (answerCgdata cfg mEther cid primaryCid w).1.2.success = w.env.next.1.reply.success :=
    cgdata_rsp_success asked
  have hup : w.env.link.up asked.shared asked.env (cid - 1) primaryCid ↔
      w.env.link.up w.shared w.env (cid - 1) primaryCid := by
    have htypes : w.env.link.ipTypes asked.shared = w.env.link.ipTypes w.shared := Link.ipTypes_congr _ hip rfl
    rw [Link.up, Link.up, Link.merged, Link.merged, htypes, show asked.env = w.env.next.2 from rfl, next_addressComes]
  have hbad : (answerCgdata cfg mEther cid primaryCid w).1.1 = AT_RESULT_NG ∨
      ((answerCgdata cfg mEther cid primaryCid w).2.shared.pdp_info (cid - 1)).state ≠ .ACTIVE ↔
      ¬((answerCgdata cfg mEther cid primaryCid w).1.1 = AT_RESULT_OK ∧
        ((answerCgdata cfg mEther cid primaryCid w).2.shared.pdp_info (cid - 1)).state = .ACTIVE) := by
    rcases houtcome.result with h | h <;> simp [h, AT_RESULT_OK, AT_RESULT_NG]
  have hhandled : (errorHandlingForCGDATA socket_id (answerCgdata cfg mEther cid primaryCid w).1.2 cid
      (answerCgdata cfg mEther cid primaryCid w).2).1 ≠ DATA_ACTIVE_SUCCESS ↔ w.env.link = .refused := by
    rw [Ne, errorHandling_success, hsuccess, Bool.not_eq_true, Env.link, link_refused]
  rw [hbad, hhandled]
  constructor
  · intro hseen hrefused
    by_contra hnot
    exact hrefused (hseen fun hok => hnot (hup.1 ((houtcome.good hrefused).1 hok)))
  · intro hneeds hfailure
    by_contra hrefused
    exact hfailure ((houtcome.good hrefused).2 (hup.2 (hneeds hrefused)))

/-- **Success means an established context** exactly under two conditions on the answers, for the
activation and for the two functions that look at the answer to AT+CGDATA. -/
theorem success_established_iff (cfg : Config) (socket_id : RIL_SOCKET_ID) (data : SetupData) (pdp_type : Line)
    (cid primaryCid : Int) (hcid : 1 ≤ cid ∧ cid ≤ MAX_PDP) :
    (∀ w, ((activeSpeciedCidProcess cfg socket_id data cid pdp_type primaryCid w).1 = DATA_ACTIVE_SUCCESS →
        let g := (activeSpeciedCidProcess cfg socket_id data cid pdp_type primaryCid w).2.shared
        (g.pdp_info (cid - 1)).state = .ACTIVE ∧ (g.pdp_info (cid - 1)).ip_state ≠ .UNKNOWN) ↔
      cfg.Establishes cid primaryCid w) ∧
    ∀ mEther w, ((answerCgdata cfg mEther cid primaryCid w).1.1 = AT_RESULT_NG ∨
        ((answerCgdata cfg mEther cid primaryCid w).2.shared.pdp_info (cid - 1)).state ≠ .ACTIVE →
      (errorHandlingForCGDATA socket_id (answerCgdata cfg mEther cid primaryCid w).1.2 cid
        (answerCgdata cfg mEther cid primaryCid w).2).1 ≠ DATA_ACTIVE_SUCCESS) ↔
      (w.env.link ≠ .refused → w.env.link.up w.shared w.env (cid - 1) primaryCid) :=
  ⟨activation_established_iff hcid, fun _ => failure_reported_iff hcid⟩

/-! ### A modem that connects and then says nothing -/

/-- AT+CGDATA is answered CONNECT; AT+SIPCONFIG is not answered. -/
def silentNetwork : List Answer := [okAnswer, okAnswer, okAnswer, .response (ascii "CONNECT") []]

theorem success_established_iff_silent :
    ((activeSpeciedCidProcess gsmConfig .RIL_SOCKET_1 ipData 1 (ascii "IP") 0 (World.init (envOf silentNetwork))).1 =
        DATA_ACTIVE_SUCCESS →
      let g := (activeSpeciedCidProcess gsmConfig .RIL_SOCKET_1 ipData 1 (ascii "IP") 0
        (World.init (envOf silentNetwork))).2.shared
      (g.pdp_info 0).state = .ACTIVE ∧ (g.pdp_info 0).ip_state ≠ .UNKNOWN) ↔
    gsmConfig.Establishes 1 0 (World.init (envOf silentNetwork)) :=
  (success_established_iff gsmConfig .RIL_SOCKET_1 ipData (ascii "IP") 1 0 (by decide)).1 _

theorem silent_network_succeeds :
    ¬((activeSpeciedCidProcess gsmConfig .RIL_SOCKET_1 ipData 1 (ascii "IP") 0 (World.init (envOf silentNetwork))).1 =
        DATA_ACTIVE_SUCCESS →
      let g := (activeSpeciedCidProcess gsmConfig .RIL_SOCKET_1 ipData 1 (ascii "IP") 0
        (World.init (envOf silentNetwork))).2.shared
      (g.pdp_info 0).state = .ACTIVE ∧ (g.pdp_info 0).ip_state ≠ .UNKNOWN) := by
  decide

end UniRil.Data
