import UniRil.Stk.Channels
import UniRil.Stk.Sessions

/-!
# One terminal response for each command
-/

namespace UniRil.Stk

open Rings FailRules

variable {s t : State} {c : Addr} {ctxs : List Addr}

def Event.isResponse : Event → Bool
  | .sendTRData _ => true
  | _ => false

/-- How many terminal responses were sent. -/
def State.responses (s : State) : Nat := s.log.countP Event.isResponse

/-- The function comes to its end and sends one terminal response. -/
def AnswersOnce (m : M Unit) (s : State) : Prop := (m s).1 = .ok () ∧ (m s).2.responses = s.responses + 1

@[simp] theorem responses_noted (e : Event) : (s.noted e).responses = s.responses + if e.isResponse then 1 else 0 := by
  rw [State.responses, noted_log, List.countP_append, List.countP_singleton]
  rfl

@[simp] theorem responses_setContext (f : StkContext → StkContext) : (s.setContext c f).responses = s.responses := rfl

theorem responses_sending {fd : Int} {writes : List WriteResult} {data : List Byte}
    {r : List Event × List WriteResult} (h : sent fd writes data = some r) : (s.sending r).responses = s.responses := by
  have hnone : r.1.countP Event.isResponse = 0 := by
    refine List.countP_eq_zero.2 fun e he => ?_
    have hsocket := sent_events h e he
    cases e <;> simp_all [Event.ofSocket, Event.isResponse]
  rw [State.responses, sending_log, List.countP_append, hnone]
  rfl

/-- The state when the command was answered, and the responses since. -/
theorem AnswersOnce.of_eq {m : M Unit} (h : m s = (.ok (), t)) (ht : t.responses = s.responses + 1) : AnswersOnce m s := by
  rw [AnswersOnce, h]
  exact ⟨rfl, ht⟩

theorem not_answersOnce {m : M Unit} {e : Fault} (h : m s = (.error e, t)) : ¬ AnswersOnce m s := by
  rw [AnswersOnce, h]
  exact fun hand => nomatch hand.1

/-! ## Steps that do not answer -/

/-- No response was sent, and the contexts have the details of their commands. -/
structure Quiet (s t : State) : Prop where
  responses : t.responses = s.responses
  details : ∀ c, (t.contexts c).pCmdDet = (s.contexts c).pCmdDet

instance : IsPreorder State Quiet where
  refl _ := ⟨rfl, fun _ => rfl⟩
  trans _ _ _ h h' := ⟨h'.responses.trans h.responses, fun c => (h'.details c).trans (h.details c)⟩

theorem quiet_note {e : Event} (h : e.isResponse = false) : Returns Quiet (note e) := by
  refine .modify fun s => ⟨?_, fun _ => rfl⟩
  show (s.noted e).responses = s.responses
  simp [h]

theorem quiet_modifyContext {f : StkContext → StkContext} (hf : ∀ ctx, (f ctx).pCmdDet = ctx.pCmdDet) :
    Returns Quiet (modifyContext c f) := by
  refine .modify fun s => ⟨rfl, fun d => ?_⟩
  by_cases h : d = c
  · simp [State.setContext, h, hf]
  · simp [State.setContext, h]

theorem quiet_readContext {α : Type} {f : StkContext → α} : Returns Quiet (readContext c f) :=
  .bind .get fun _ => .pure

theorem quiet_closeSocket : Returns Quiet (closeSocket c) := by
  refine .bind quiet_readContext fun _ => .bind quiet_readContext fun _ => .ite ?_ (.ite ?_ .pure)
  · exact .bind (quiet_note rfl) fun _ => quiet_modifyContext fun _ => rfl
  · exact .bind (quiet_note rfl) fun _ => quiet_modifyContext fun _ => rfl

theorem quiet_endConnectivity : Returns Quiet (endConnectivity c) :=
  .bind quiet_readContext fun _ => .bind (quiet_note rfl) fun _ => quiet_modifyContext fun _ => rfl

/-- A function that does not answer, before one that does. -/
theorem answersOnce_bind {α : Type} {m : M α} {k : α → M Unit} {P : State → Prop} (hm : Returns Quiet m)
    (hP : ∀ {s t}, P s → Quiet s t → P t) (hs : P s) (hk : ∀ a t, P t → AnswersOnce (k a) t) : AnswersOnce (m >>= k) s := by
  obtain ⟨a, t, hrun, hquiet⟩ := hm s
  obtain ⟨hok, hone⟩ := hk a t (hP hs hquiet)
  rw [AnswersOnce, bindE_ok hrun, ← hquiet.responses]
  exact ⟨hok, hone⟩

/-- The context has the details of its command. -/
def HasDetails (c : Addr) (s : State) : Prop := (s.contexts c).pCmdDet.isSome

theorem HasDetails.quiet (h : HasDetails c s) (hq : Quiet s t) : HasDetails c t := by
  rw [HasDetails, hq.details]
  exact h

/-! ## CLOSE CHANNEL -/

theorem answersOnce_onCmdResponse {code : Nat} {response : Response} (h : HasDetails c s)
    (hlen : (response.body code s).bytes.length ≤ 4000) : AnswersOnce (onCmdResponse c code response) s := by
  obtain ⟨det, hdet⟩ := Option.isSome_iff_exists.1 h
  exact .of_eq (onCmdResponse_apply hdet hlen) (by simp [Event.isResponse])

theorem answersOnce_lunchCloseChannel {id : Nat} (hget : getStkContext id s = some c) (h : HasDetails c s) :
    AnswersOnce (lunchCloseChannel id) s := by
  have hclose : ∀ code s, HasDetails c s → AnswersOnce (SendCloseChannelResponse c code) s := fun _ _ hs =>
    answersOnce_onCmdResponse hs (Nat.zero_le _)
  rw [AnswersOnce, lunchCloseChannel, bindE_ok (getE_apply s), hget]
  refine answersOnce_bind (quiet_modifyContext fun _ => rfl) HasDetails.quiet h fun _ _ h => ?_
  refine answersOnce_bind quiet_closeSocket HasDetails.quiet h fun _ _ h => ?_
  refine answersOnce_bind (quiet_modifyContext fun _ => rfl) HasDetails.quiet h fun _ _ h => ?_
  refine answersOnce_bind quiet_readContext HasDetails.quiet h fun _ _ h => ?_
  split
  · exact answersOnce_bind quiet_endConnectivity HasDetails.quiet h fun _ _ => hclose _ _
  · exact hclose _ _ h

theorem removeFromStkContextList_log (c : Addr) (s : State) : (removeFromStkContextList c s).2.log = s.log := by
  unfold removeFromStkContextList
  split
  · rfl
  · split
    · split <;> rfl
    · split
      · dsimp only
        split <;> rfl
      · rfl

theorem putBipChannel_log (id : Nat) (s : State) : (putBipChannel id s).log = s.log := by
  unfold putBipChannel
  split
  · rfl
  · split <;> rfl

theorem AnswersOnce.modify {m : M Unit} (h : AnswersOnce m s) {f : State → State} (hf : ∀ s, (f s).log = s.log) :
    AnswersOnce (m >>= fun _ => modify f) s := by
  have hrun : m s = (.ok (), (m s).2) := Prod.ext h.1 rfl
  rw [AnswersOnce, bindE_ok hrun, modifyE_apply]
  refine ⟨rfl, ?_⟩
  rw [State.responses, hf]
  exact h.2

theorem answersOnce_clientCloseChannel {tlvs : List TLV} {det : CommandDetails} :
    AnswersOnce (clientCloseChannel tlvs det) s := by
  unfold AnswersOnce clientCloseChannel
  dsimp only
  rw [bindE_ok (getE_apply s)]
  cases hget : getStkContext (processCloseChannel tlvs).channelId s with
  | none => exact AnswersOnce.of_eq (sendTerminalResponse_apply (Nat.zero_le _)) (by simp [Event.isResponse])
  | some c =>
    dsimp only
    rw [giveCommand, bindE_ok (modifyContext_apply _)]
    refine AnswersOnce.modify (answersOnce_lunchCloseChannel (c := c) ?_ ?_) fun s => ?_
    · rw [getStkContext_setContext (by intro ctx; rfl), hget]
    · simp [HasDetails]
    · exact (putBipChannel_log _ _).trans (removeFromStkContextList_log c s)

/-! ## GET CHANNEL STATUS -/

theorem nodesAfter_eq {head tmp : Addr} {l : List Addr} {fuel : Nat} (hpath : Path s.links tmp l head) (hhead : head ∉ l)
    (hfuel : l.length < fuel) : nodesAfter head s fuel tmp = l := by
  induction l generalizing tmp fuel with
  | nil =>
    obtain ⟨fuel, rfl⟩ : ∃ n, fuel = n + 1 := ⟨fuel - 1, by omega⟩
    exact if_pos hpath.1
  | cons b l ih =>
    obtain ⟨fuel, rfl⟩ : ∃ n, fuel = n + 1 := ⟨fuel - 1, by omega⟩
    have hnext : (s.nodes tmp).next = b := hpath.1.1
    have hb : b ≠ head := fun heq => hhead (by simp [heq])
    rw [nodesAfter, hnext, if_neg hb, ih hpath.2 (fun hmem => hhead (List.mem_cons_of_mem b hmem)) (by simpa using hfuel)]

theorem length_channelStatus_bytes (first : Byte) (others : List Byte) :
    (ResponseBody.channelStatus first others).bytes.length = 4 * (others.length + 1) := by
  have hothers : (others.flatMap fun status => [0x00, 0xB8, 0x02, status]).length = 4 * others.length := by
    induction others with
    | nil => rfl
    | cons status others ih =>
      rw [List.flatMap_cons, List.length_append, ih, List.length_cons]
      simp only [List.length_cons, List.length_nil]
      omega
  simp only [ResponseBody.bytes, List.length_append, hothers, List.length_cons, List.length_nil]
  omega

theorem length_channelStatusBody (status : ChannelStatus) (h : s.Holds ctxs) (hne : ctxs ≠ []) :
    (channelStatusBody status s).bytes.length = 4 * ctxs.length := by
  unfold State.Holds at h
  split at h
  · exact absurd h hne
  · rename_i head hlist
    obtain ⟨l, hring, hlt, rfl⟩ := h
    have hlength := length_le_of_lt hring.nodup fun a ha => (hlt a ha).1
    rw [channelStatusBody, hlist]
    dsimp only
    rw [nodesAfter_eq hring.path (List.nodup_cons.1 hring.nodup).1 (Nat.lt_of_succ_le hlength)]
    rw [length_channelStatus_bytes, List.length_map, List.length_map, List.length_cons]

/-- With so many contexts the answer to GET CHANNEL STATUS still fits. -/
def MAX_STATUS_CONTEXTS : Nat := 1020

theorem fits_iff {det : CommandDetails} {code : Nat} {body : ResponseBody} :
    (TerminalResponse.mk det code none body).fits = true ↔ body.bytes.length < 4084 := by
  have hlen : (TerminalResponse.mk det code none body).bytes.length = 12 + body.bytes.length := by
    simp [TerminalResponse.bytes]
    omega
  rw [TerminalResponse.fits, hlen, decide_eq_true_iff]
  show _ < 4096 ↔ _
  omega

theorem answersOnce_lunchGetChannelStatus_iff (h : s.Holds ctxs) (hget : getStkContext DEFAULT_CHANNELID s = some c)
    (hdet : HasDetails c s) :
    AnswersOnce (lunchGetChannelStatus DEFAULT_CHANNELID) s ↔ ctxs.length ≤ MAX_STATUS_CONTEXTS := by
  obtain ⟨det, hdet⟩ := Option.isSome_iff_exists.1 hdet
  have hne : ctxs ≠ [] := by
    rintro rfl
    rw [getStkContext_eq h] at hget
    cases hget
  have hlen := length_channelStatusBody (s.contexts c).channelStatus h hne
  have hrun : lunchGetChannelStatus DEFAULT_CHANNELID s =
      sendTerminalResponse (some det) OK none (channelStatusBody (s.contexts c).channelStatus s) s := by
    simp only [lunchGetChannelStatus, bindE_apply, getE_apply, hget, sendChannelStatusResponse, readContext_apply,
      onCmdResponse, hdet, Response.body]
  have hfits : (TerminalResponse.mk det OK none (channelStatusBody (s.contexts c).channelStatus s)).fits = true ↔
      ctxs.length ≤ MAX_STATUS_CONTEXTS := by
    rw [fits_iff, hlen, MAX_STATUS_CONTEXTS]
    omega
  rw [← hfits, AnswersOnce, hrun, sendTerminalResponse]
  split
  · rename_i hok
    exact iff_of_true ⟨rfl, responses_noted _⟩ hok
  · rename_i hover
    refine iff_of_false (fun hand => ?_) hover
    cases hand.1

/-- **GET CHANNEL STATUS is answered** unless it is about so many contexts that the answer does not fit. -/
theorem answersOnce_clientGetChannelStatus_iff {det : CommandDetails} (h : s.Holds ctxs) :
    AnswersOnce (clientGetChannelStatus det) s ↔
      (DEFAULT_CHANNELID ∈ ctxs.map s.channelOf → ctxs.length ≤ MAX_STATUS_CONTEXTS) := by
  have hfind := getStkContext_eq h DEFAULT_CHANNELID
  unfold AnswersOnce clientGetChannelStatus
  rw [bindE_ok (getE_apply s)]
  cases hget : getStkContext DEFAULT_CHANNELID s with
  | none =>
    have hnot : DEFAULT_CHANNELID ∉ ctxs.map s.channelOf := by
      rintro hmem
      obtain ⟨c, hc, hid⟩ := List.mem_map.1 hmem
      exact List.find?_eq_none.1 (hfind.symm.trans hget) c hc (decide_eq_true hid.symm)
    refine iff_of_true ?_ fun hmem => absurd hmem hnot
    exact AnswersOnce.of_eq (sendTerminalResponse_apply (by decide)) (by simp [Event.isResponse])
  | some c =>
    dsimp only
    rw [giveCommand, bindE_ok (modifyContext_apply _)]
    have hmem : DEFAULT_CHANNELID ∈ ctxs.map s.channelOf := List.mem_map.2 ⟨c, h.found hget⟩
    rw [forall_prop_of_true hmem]
    refine answersOnce_lunchGetChannelStatus_iff (c := c) (h.of_same ⟨rfl, rfl, Nat.le_refl _⟩) ?_ ?_
    · rw [getStkContext_setContext (by intro ctx; rfl), hget]
    · simp [HasDetails]

/-! ## RECEIVE DATA -/

/-- The channel has a context, and data are buffered for it. -/
def HasData (s : State) (channelId : Nat) : Prop :=
  ∃ c, getStkContext channelId s = some c ∧ (s.contexts c).recevieData.isSome ∧ 0 < (s.contexts c).receiveDataLen

theorem answersOnce_clientReceiveData_iff {beyond : Mem} {around : Int → Byte} {tlvs : List TLV} {det : CommandDetails} :
    AnswersOnce (clientReceiveData beyond around tlvs det) s ↔ HasData s (processReceiveData (beyond 0) tlvs).channelId := by
  cases hget : getStkContext (processReceiveData (beyond 0) tlvs).channelId s with
  | none =>
    refine iff_of_false (not_answersOnce (clientReceiveData_none rfl hget)) ?_
    rintro ⟨c, hc, -⟩
    cases hget.symm.trans hc
  | some c =>
    have hdata : HasData s (processReceiveData (beyond 0) tlvs).channelId ↔
        (s.contexts c).recevieData.isSome ∧ 0 < (s.contexts c).receiveDataLen := by
      simp [HasData, hget]
    have hrun : clientReceiveData beyond around tlvs det s = _ := clientReceiveData_apply rfl hget
    rw [hdata]
    cases hpacket : (s.contexts c).recevieData with
    | none =>
      simp only [hpacket] at hrun
      exact iff_of_false (not_answersOnce hrun) fun hand => nomatch hand.1
    | some packet =>
      simp only [hpacket] at hrun
      by_cases hlen : 0 < (s.contexts c).receiveDataLen
      · rw [if_pos hlen] at hrun
        exact iff_of_true (.of_eq hrun (by simp [State.receiveData, Event.isResponse])) ⟨rfl, hlen⟩
      · rw [if_neg hlen] at hrun
        exact iff_of_false (not_answersOnce hrun) fun hand => hlen hand.2

/-! ## SEND DATA -/

/-- The socket is not there, or it comes to take so many bytes, or there are too many for a write. -/
def Ready (fd : Int) (writes : List WriteResult) (n : Nat) : Prop :=
  fd < 0 ∨ MAX_BUFFER_BYTES < n ∨ takes writes n = true

theorem isSome_sent_iff {fd : Int} {writes : List WriteResult} {data : List Byte} :
    (sent fd writes data).isSome ↔ Ready fd writes data.length := by
  rw [sent, Ready, ← or_assoc]
  split
  · rename_i h
    simp [h]
  · rename_i h
    rw [isSome_blockingWrite, or_iff_right h]

theorem length_binOfHex (hex : List Byte) : (binOfHex hex).length = hex.length / 2 := by
  rw [binOfHex, List.length_take, List.length_append, List.length_replicate]
  omega

/-- The channel has a context, and if this has a socket, there are data that it takes at once or later. -/
def CanSend (s : State) (det : CommandDetails) (sc : SendChannelData) : Prop :=
  ∃ c oc, getStkContext sc.channelId s = some c ∧ (s.contexts c).pOCData = some oc ∧
    ∀ fd, fdSocketIdOf (s.contexts c) oc.transportType = some fd → fd ≠ -1 →
      ∃ data, sc.sendDataStr = some data ∧
        (det.commandQualifier ≠ SEND_DATA_STORE →
          Ready fd s.writes ((strlcat (s.contexts c).sendDataStorer data MAX_BUFFER_BYTES).length / 2))

theorem responses_sentImmediately {r : List Event × List WriteResult} {answer : Event} {counted : StkContext → StkContext}
    (hr : (s.sending r).responses = s.responses) (hanswer : answer.isResponse = true) :
    (s.sentImmediately c r answer counted).responses = s.responses + 1 := by
  have hthread : Event.receiveDataThread.isResponse = false := rfl
  rw [State.sentImmediately, responses_setContext]
  split <;> simp [hr, hanswer, hthread]

theorem answersOnce_sendData_iff {m : M Unit} {det : CommandDetails} {oc : OpenChannelData} {data : List Byte} {fd : Int}
    (h : m s = t.sendData c det oc data fd) (ht : t.responses = s.responses) :
    AnswersOnce m s ↔ (det.commandQualifier ≠ SEND_DATA_STORE →
      Ready fd t.writes ((strlcat (t.contexts c).sendDataStorer data MAX_BUFFER_BYTES).length / 2)) := by
  unfold State.sendData at h
  by_cases hstore : det.commandQualifier = SEND_DATA_STORE
  · simp only [if_pos hstore] at h
    refine iff_of_true (.of_eq h ?_) fun hnot => absurd hstore hnot
    simp [ht, sendDataAnswer, Event.isResponse]
  · simp only [if_neg hstore] at h
    have hready : (sent fd t.writes (binOfHex ((t.setContext c (·.appended data)).contexts c).sendDataStorer)).isSome ↔ _ :=
      isSome_sent_iff
    rw [length_binOfHex] at hready
    have happended : ((t.setContext c (·.appended data)).contexts c).sendDataStorer =
        strlcat (t.contexts c).sendDataStorer data MAX_BUFFER_BYTES := by
      rw [setContext_self]
      rfl
    rw [forall_prop_of_true hstore, ← happended, ← hready]
    cases hsent : sent fd t.writes (binOfHex ((t.setContext c (·.appended data)).contexts c).sendDataStorer) with
    | none =>
      simp only [hsent] at h
      exact iff_of_false (not_answersOnce h) (by simp)
    | some r =>
      simp only [hsent] at h
      refine iff_of_true (.of_eq h ?_) rfl
      rw [responses_sentImmediately (responses_sending hsent) rfl, responses_setContext, ht]

theorem answersOnce_clientSendData_iff {tlvs : List TLV} {det : CommandDetails} :
    AnswersOnce (clientSendData tlvs det) s ↔ CanSend s det (processSendData tlvs) := by
  cases hget : getStkContext (processSendData tlvs).channelId s with
  | none =>
    refine iff_of_false (not_answersOnce (clientSendData_none rfl hget)) ?_
    rintro ⟨c, -, hc, -⟩
    cases hget.symm.trans hc
  | some c =>
    have hrun : clientSendData tlvs det s = _ := clientSendData_apply rfl hget
    cases hoc : (s.contexts c).pOCData with
    | none =>
      simp only [hoc] at hrun
      refine iff_of_false (not_answersOnce hrun) ?_
      rintro ⟨c', oc, hc', hoc', -⟩
      obtain rfl := Option.some.inj (hget.symm.trans hc')
      cases hoc.symm.trans hoc'
    | some oc =>
      have hcan : CanSend s det (processSendData tlvs) ↔
          ∀ fd, fdSocketIdOf (s.contexts c) oc.transportType = some fd → fd ≠ -1 →
            ∃ data, (processSendData tlvs).sendDataStr = some data ∧
              (det.commandQualifier ≠ SEND_DATA_STORE →
                Ready fd s.writes ((strlcat (s.contexts c).sendDataStorer data MAX_BUFFER_BYTES).length / 2)) := by
        simp [CanSend, hget, hoc]
      rw [hcan]
      simp only [hoc] at hrun
      cases hfd : fdSocketIdOf (s.contexts c) oc.transportType with
      | none =>
        simp only [hfd] at hrun
        exact iff_of_true (.of_eq hrun (by simp [sendDataAnswer, Event.isResponse])) fun fd hfd => nomatch hfd
      | some fd =>
        simp only [hfd] at hrun
        by_cases hnone : fd = -1
        · rw [if_pos hnone] at hrun
          refine iff_of_true (.of_eq hrun (by simp [sendDataAnswer, Event.isResponse])) fun fd' hfd' hne => ?_
          exact absurd (Option.some.inj hfd' ▸ hnone) hne
        · rw [if_neg hnone] at hrun
          cases hdata : (processSendData tlvs).sendDataStr with
          | none =>
            simp only [hdata] at hrun
            refine iff_of_false (not_answersOnce hrun) fun hall => ?_
            obtain ⟨data, hdata', -⟩ := hall fd rfl hnone
            cases hdata'
          | some data =>
            simp only [hdata] at hrun
            rw [answersOnce_sendData_iff hrun rfl]
            simp [hnone, StkContext.givenSend]

/-! ## All commands -/

theorem addToStkContextList_log (c : Addr) (s : State) : (addToStkContextList c s).log = s.log := by
  cases h : s.s_stkContextList <;> simp [addToStkContextList, h, State.setNode]

theorem initStkContext_log {d : OpenChannelData} {det : CommandDetails} (h : initStkContext d det s = some (c, t)) :
    t.log = s.log := by
  simp only [initStkContext, getBipChannel, Option.map_map, Option.map_eq_some_iff, Function.comp_apply,
    Prod.mk.injEq] at h
  obtain ⟨i, -, -, rfl⟩ := h
  rfl

theorem startOpenChannel_responses (d : OpenChannelData) (s : State) :
    (startOpenChannel d s).2.responses = s.responses := by
  unfold startOpenChannel
  split
  · exact responses_noted (s := { s with s_lunchOpenChannelDialog := true }) .RIL_UNSOL_STK_PROACTIVE_COMMAND
  · exact responses_noted (.lunchOpenChannel s.s_curBipChannelID)

/-- OPEN CHANNEL is answered later, by the thread that opens the channel. -/
theorem not_answersOnce_clientOpenChannel {tlvs : List TLV} {det : CommandDetails} :
    ¬ AnswersOnce (clientOpenChannel tlvs det) s := by
  unfold AnswersOnce clientOpenChannel
  rw [bindE_ok (getE_apply s)]
  cases hinit : initStkContext (processOpenChannel tlvs { bufferSize := 0, transportType := 0, hasText := false }) det s with
  | none => exact fun hand => nomatch hand.1
  | some r =>
    obtain ⟨c, t⟩ := r
    dsimp only
    rw [bindE_ok (setE_apply _ s), startOpenChannel_responses, State.responses, addToStkContextList_log,
      initStkContext_log hinit]
    exact fun hand => Nat.ne_of_lt (Nat.lt_succ_self _) hand.2

/-- What it takes for a command to be answered once. -/
def CommandAnswerable (s : State) (ctxs : List Addr) (beyond : Mem) (tlvs : List TLV) (det : CommandDetails) : Prop :=
  (det.typeOfCommand = SEND_DATA ∧ CanSend s det (processSendData tlvs)) ∨
    det.typeOfCommand = CLOSE_CHANNEL ∨
    (det.typeOfCommand = RECEIVE_DATA ∧ HasData s (processReceiveData (beyond 0) tlvs).channelId) ∨
    (det.typeOfCommand = GET_CHANNEL_STATUS ∧
      (DEFAULT_CHANNELID ∈ ctxs.map s.channelOf → ctxs.length ≤ MAX_STATUS_CONTEXTS))

theorem answersOnce_clientCommand_iff {beyond : Mem} {around : Int → Byte} {tlvs : List TLV} {det : CommandDetails}
    (h : s.Holds ctxs) :
    AnswersOnce (clientCommand beyond around tlvs det) s ↔ CommandAnswerable s ctxs beyond tlvs det := by
  unfold clientCommand CommandAnswerable
  split
  · rename_i hopen
    refine iff_of_false not_answersOnce_clientOpenChannel ?_
    simp [hopen, OPEN_CHANNEL, SEND_DATA, CLOSE_CHANNEL, RECEIVE_DATA, GET_CHANNEL_STATUS]
  · split
    · rename_i hsend
      rw [answersOnce_clientSendData_iff]
      simp [hsend, SEND_DATA, CLOSE_CHANNEL, RECEIVE_DATA, GET_CHANNEL_STATUS]
    · split
      · rename_i hclose
        exact iff_of_true answersOnce_clientCloseChannel (.inr (.inl hclose))
      · split
        · rename_i hreceive
          rw [answersOnce_clientReceiveData_iff]
          simp [hreceive, SEND_DATA, CLOSE_CHANNEL, RECEIVE_DATA, GET_CHANNEL_STATUS]
        · split
          · rename_i hstatus
            rw [answersOnce_clientGetChannelStatus_iff h]
            simp [hstatus, SEND_DATA, CLOSE_CHANNEL, RECEIVE_DATA, GET_CHANNEL_STATUS]
          · rename_i hsend hclose hreceive hstatus
            refine iff_of_false (fun hand => ?_) (by simp [hsend, hclose, hreceive, hstatus])
            exact Nat.ne_of_lt (Nat.lt_succ_self _) hand.2

/-- What it takes for the text of a command to be answered once. -/
def Answerable (s : State) (ctxs : List Addr) (beyond : Mem) (rawData : List Byte) : Prop :=
  ∃ berTlv, parseProCommand beyond rawData = .OK berTlv ∧
    ∀ det, processCommandDetails berTlv.compTlvs = some det → berTlv.lengthValid = true →
      CommandAnswerable s ctxs beyond berTlv.compTlvs det

/-- **A command gets its one terminal response** exactly when it can be parsed and what it needs is there. -/
theorem processBipClient_answersOnce_iff (s : State) (ctxs : List Addr) (h : s.Holds ctxs) (beyond : Mem)
    (around : Int → Byte) (rawData : List Byte) :
    AnswersOnce (processBipClient beyond around rawData) s ↔ Answerable s ctxs beyond rawData := by
  have hnot : AnswersOnce (pure ()) s → False := fun hand => Nat.ne_of_lt (Nat.lt_succ_self _) hand.2
  have hunknown : ∀ det, AnswersOnce (sendTerminalResponse (some det) CMD_DATA_NOT_UNDERSTOOD none .none) s := fun det =>
    .of_eq (sendTerminalResponse_apply (Nat.zero_le _)) (by simp [Event.isResponse])
  unfold processBipClient Answerable
  cases hparse : parseProCommand beyond rawData with
  | OK berTlv =>
    simp only [Parsed.OK.injEq, exists_eq_left']
    cases hdet : processCommandDetails berTlv.compTlvs with
    | none => exact iff_of_true (hunknown _) fun det hdet => nomatch hdet
    | some det =>
      simp only [Option.some.injEq, forall_eq']
      by_cases hvalid : berTlv.lengthValid = true
      · rw [if_pos hvalid, forall_prop_of_true hvalid]
        exact answersOnce_clientCommand_iff h
      · rw [if_neg hvalid]
        exact iff_of_true (hunknown _) fun hvalid' => absurd hvalid' hvalid
  | CMD_DATA_NOT_UNDERSTOOD => exact iff_of_false hnot (by simp)
  | REQUIRED_VALUES_MISSING => exact iff_of_false hnot (by simp)
  | RESULT_EXCEPTION => exact iff_of_false hnot (by simp)

/-- CLOSE CHANNEL is answered without a channel. -/
theorem processBipClient_answersOnce_iff_close :
    AnswersOnce (processBipClient (fun _ => 0) (fun _ => 0) (bareClose 1).response) State.init ↔
      Answerable State.init [] (fun _ => 0) (bareClose 1).response :=
  processBipClient_answersOnce_iff State.init [] rfl _ _ _

/-- SEND DATA of a channel that does not exist: the context that is missing is used. -/
theorem not_answersOnce_sendData :
    cmdTypeOf (bareCommand 0x43 0x21).response (fun _ => 0) = SEND_DATA ∧ State.init.Holds [] ∧
      ¬ AnswersOnce (processBipClient (fun _ => 0) (fun _ => 0) (bareCommand 0x43 0x21).response) State.init := by
  refine ⟨by decide, rfl, fun hand => ?_⟩
  have herror : (processBipClient (fun _ => 0) (fun _ => 0) (bareCommand 0x43 0x21).response State.init).1 =
      .error .nullPointer := by decide +kernel
  cases hand.1.symm.trans herror

end UniRil.Stk
