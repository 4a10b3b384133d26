import UniRil.Lib.Runs
import UniRil.Stk.Client
import UniRil.Stk.ContextRing

/-!
# The channels and the ring of contexts

CLOSE CHANNEL takes its context out of the ring when it is the first one. As long as only such
contexts are closed, the ring and the table of channels stay in step.
-/

namespace UniRil.Stk

open FailRules

variable {s s' : State} {ctxs : List Addr} {c : Addr}

/-- The ring, the table and the numbers of the contexts are as before. -/
structure SameChannels (s s' : State) : Prop extends SameRing s s' where
  bipState : s'.s_bipState = s.s_bipState
  channelOf : s'.channelOf = s.channelOf

instance : IsPreorder State SameChannels where
  refl _ := ⟨⟨rfl, rfl, Nat.le_refl _⟩, rfl, rfl⟩
  trans _ _ _ h h' :=
    ⟨⟨h'.list.trans h.list, h'.nodes.trans h.nodes, Nat.le_trans h.fresh h'.fresh⟩, h'.bipState.trans h.bipState,
      h'.channelOf.trans h.channelOf⟩

/-! ## The sessions leave the channels alone -/

theorem same_note {e : Event} : Stays SameChannels (note e) := fun _ => ⟨⟨rfl, rfl, Nat.le_refl _⟩, rfl, rfl⟩

theorem same_readContext {α : Type} {f : StkContext → α} : Stays SameChannels (readContext c f) :=
  .bind .get fun _ => .pure

theorem same_deref {α : Type} {p : Option α} : Stays SameChannels (deref p) := by
  cases p with
  | none => exact .throw
  | some a => exact .pure

theorem same_modifyContext {f : StkContext → StkContext} (hf : ∀ ctx, (f ctx).channel_id = ctx.channel_id) :
    Stays SameChannels (modifyContext c f) := by
  refine .modify fun s => ⟨⟨rfl, rfl, Nat.le_refl _⟩, rfl, ?_⟩
  funext d
  by_cases h : d = c
  · simp [State.channelOf, State.setContext, h, hf]
  · simp [State.channelOf, State.setContext, h]

theorem same_sendTerminalResponse {pCmdDet : Option CommandDetails} {resCode : Nat} {additionalInfo : Option Nat}
    {body : ResponseBody} : Stays SameChannels (sendTerminalResponse pCmdDet resCode additionalInfo body) := by
  unfold sendTerminalResponse
  split
  · exact .pure
  · exact .ite same_note .throw

theorem same_onCmdResponse {resCode : Nat} {response : Response} :
    Stays SameChannels (onCmdResponse c resCode response) :=
  .bind .get fun _ => same_sendTerminalResponse

theorem same_sendStrData {fd : Int} {data : List Byte} : Stays SameChannels (sendStrData fd data) := by
  unfold sendStrData
  refine .ite .pure ?_
  intro s
  rw [bindE_ok (getE_apply s)]
  cases blockingWrite fd s.writes data with
  | none => exact refl s
  | some r => exact ⟨⟨rfl, rfl, Nat.le_refl _⟩, rfl, rfl⟩

theorem same_appendSendData : Stays SameChannels (appendSendData c) := by
  refine .bind same_readContext fun _ => .bind same_deref fun _ => .bind same_deref fun _ => ?_
  exact same_modifyContext fun _ => rfl

theorem same_answerSendData {mode : Nat} {sendlen : Int} : Stays SameChannels (answerSendData c mode sendlen) := by
  refine .bind same_readContext fun _ => .bind same_deref fun _ => .bind same_readContext fun _ => ?_
  exact .bind (same_modifyContext fun _ => rfl) fun _ => same_onCmdResponse

theorem same_sendImmediately {fd : Int} {mode : Nat} {sendlen : Int} :
    Stays SameChannels (sendImmediately c fd mode sendlen) := by
  refine .bind same_appendSendData fun _ => .bind same_readContext fun _ => .bind same_sendStrData fun _ => ?_
  refine .bind same_answerSendData fun _ => .bind same_readContext fun threadInLoop => ?_
  exact .bind (.when same_note) fun _ => same_modifyContext fun _ => rfl

theorem same_lunchSendData {id : Nat} : Stays SameChannels (lunchSendData id) := by
  refine .bind .get fun s => ?_
  split
  · exact .pure
  · refine .bind same_readContext fun _ => .bind same_deref fun _ => .bind same_readContext fun _ => .bind same_deref fun _ => ?_
    refine .bind same_readContext fun _ => .bind same_deref fun _ => .bind same_readContext fun fd => ?_
    split
    · exact same_onCmdResponse
    · refine .ite same_onCmdResponse (.ite ?_ same_sendImmediately)
      exact .bind same_appendSendData fun _ => same_answerSendData

theorem same_ReceiveDataResponse {dataStr : Option (List Byte)} {len : Int} {resCode : Nat} :
    Stays SameChannels (ReceiveDataResponse c dataStr len resCode) :=
  .bind same_deref fun _ => same_onCmdResponse

theorem same_lunchReceiveData {around : Int → Byte} {id : Nat} : Stays SameChannels (lunchReceiveData around id) := by
  refine .bind .get fun s => ?_
  split
  · exact .pure
  · refine .bind same_readContext fun _ => .bind same_deref fun _ => .bind same_readContext fun _ => ?_
    refine .bind same_readContext fun packet => ?_
    split
    · refine .ite ?_ same_ReceiveDataResponse
      refine .bind same_readContext fun _ => .bind same_readContext fun _ => .bind same_note fun _ => ?_
      exact .bind (same_modifyContext fun _ => rfl) fun _ => same_ReceiveDataResponse
    · exact same_ReceiveDataResponse

theorem same_lunchGetChannelStatus {id : Nat} : Stays SameChannels (lunchGetChannelStatus id) := by
  refine .bind .get fun s => ?_
  split
  · exact .pure
  · exact .bind same_readContext fun _ => same_onCmdResponse

theorem same_closeSocket : Stays SameChannels (closeSocket c) := by
  refine .bind same_readContext fun _ => .bind same_readContext fun _ => .ite ?_ (.ite ?_ .pure)
  · exact .bind same_note fun _ => same_modifyContext fun _ => rfl
  · exact .bind same_note fun _ => same_modifyContext fun _ => rfl

theorem same_endConnectivity : Stays SameChannels (endConnectivity c) :=
  .bind same_readContext fun _ => .bind same_note fun _ => same_modifyContext fun _ => rfl

theorem same_lunchCloseChannel {id : Nat} : Stays SameChannels (lunchCloseChannel id) := by
  refine .bind .get fun s => ?_
  split
  · exact .pure
  · refine .bind (same_modifyContext fun _ => rfl) fun _ => .bind same_closeSocket fun _ => ?_
    refine .bind (same_modifyContext fun _ => rfl) fun _ => .bind same_readContext fun _ => ?_
    exact .ite (.bind same_endConnectivity fun _ => same_onCmdResponse) same_onCmdResponse

theorem same_startOpenChannel {d : OpenChannelData} : Stays SameChannels (startOpenChannel d) := by
  refine .ite (.bind ?_ fun _ => same_note) (.bind .get fun _ => same_note)
  exact .modify fun s => ⟨⟨rfl, rfl, Nat.le_refl _⟩, rfl, rfl⟩

/-! ## In step -/

/-- The numbers of the contexts in the ring are distinct, and they are the ones marked busy. -/
structure InStepWith (s : State) (ctxs : List Addr) : Prop where
  holds : s.Holds ctxs
  nodup : (ctxs.map s.channelOf).Nodup
  busy : ∀ id, id ∈ ctxs.map s.channelOf ↔
    (1 ≤ id ∧ id ≤ MAX_BIP_CHANNELS) ∧ s.s_bipState (id - 1) = .BIP_CHANNEL_BUSY

def InStep (s : State) : Prop := ∃ ctxs, InStepWith s ctxs

theorem InStepWith.of_same (h : InStepWith s ctxs) (hs : SameChannels s s') : InStepWith s' ctxs where
  holds := h.holds.of_same hs.toSameRing
  nodup := hs.channelOf ▸ h.nodup
  busy := by
    rw [hs.channelOf, hs.bipState]
    exact h.busy

/-- The first context of the ring. -/
def State.first (s : State) : Option Addr := s.s_stkContextList.map s.contextAt

theorem State.Holds.first_eq (h : s.Holds ctxs) : s.first = ctxs.head? := by
  unfold State.Holds at h
  split at h
  · rename_i hlist
    rw [State.first, hlist, h]
    rfl
  · rename_i head hlist
    obtain ⟨l, -, -, rfl⟩ := h
    rw [State.first, hlist]
    rfl

/-! ## A context leaves -/

theorem removeFromStkContextList_frame (c : Addr) (s : State) :
    (removeFromStkContextList c s).2.contexts = s.contexts ∧
      (removeFromStkContextList c s).2.s_bipState = s.s_bipState := by
  unfold removeFromStkContextList
  split
  · exact ⟨rfl, rfl⟩
  · split
    · split <;> exact ⟨rfl, rfl⟩
    · split
      · dsimp only
        split <;> exact ⟨rfl, rfl⟩
      · exact ⟨rfl, rfl⟩

theorem putBipChannel_same (id : Nat) (s : State) :
    SameRing s (putBipChannel id s) ∧ (putBipChannel id s).channelOf = s.channelOf := by
  unfold putBipChannel
  split
  · exact ⟨⟨rfl, rfl, Nat.le_refl _⟩, rfl⟩
  · split
    · exact ⟨⟨rfl, rfl, Nat.le_refl _⟩, rfl⟩
    · exact ⟨⟨rfl, rfl, Nat.le_refl _⟩, rfl⟩

theorem putBipChannel_busy {id : Nat} (hrange : 1 ≤ id ∧ id ≤ MAX_BIP_CHANNELS)
    (hbusy : s.s_bipState (id - 1) = .BIP_CHANNEL_BUSY) :
    (putBipChannel id s).s_bipState = Function.update s.s_bipState (id - 1) .BIP_CHANNEL_IDLE := by
  rw [putBipChannel, if_neg (by omega), if_neg (not_not.2 hbusy)]

/-- The first context is taken out and its channel put. -/
theorem InStepWith.dropFirst (h : InStepWith s (c :: ctxs)) :
    InStepWith (putBipChannel (s.channelOf c) (removeFromStkContextList c s).2) ctxs := by
  obtain ⟨hcontexts, hbip⟩ := removeFromStkContextList_frame c s
  have hof : (removeFromStkContextList c s).2.channelOf = s.channelOf := by
    funext d
    simp only [State.channelOf, hcontexts]
  obtain ⟨hring, hput⟩ := putBipChannel_same (s.channelOf c) (removeFromStkContextList c s).2
  obtain ⟨hrange, hbusy⟩ := (h.busy (s.channelOf c)).1 (by simp)
  obtain ⟨hnot, hnodup⟩ := List.nodup_cons.1 h.nodup
  refine ⟨(removeFromStkContextList_head h.holds).2.of_same hring, by rwa [hput, hof], fun id => ?_⟩
  rw [hput, hof, putBipChannel_busy hrange (hbip ▸ hbusy), hbip]
  by_cases hid : id = s.channelOf c
  · subst hid
    rw [Function.update_self]
    refine iff_of_false hnot fun hand => ?_
    cases hand.2
  · have hmem : id ∈ ctxs.map s.channelOf ↔ id ∈ (c :: ctxs).map s.channelOf := by simp [hid]
    rw [hmem, h.busy]
    refine and_congr_right fun hid' => ?_
    rw [Function.update_of_ne (by omega)]

/-- **Removal succeeds exactly for the first context.** -/
theorem removed_iff (h : s.Holds ctxs) (hids : (ctxs.map s.channelOf).Nodup) (hc : c ∈ ctxs) :
    (removeFromStkContextList c s).1 = true ∧ (removeFromStkContextList c s).2.Holds (ctxs.erase c) ↔
      ctxs.head? = some c := by
  cases ctxs with
  | nil => cases hc
  | cons d ctxs =>
    by_cases hd : c = d
    · subst hd
      rw [List.erase_cons_head]
      exact iff_of_true (removeFromStkContextList_head h) rfl
    · rw [removeFromStkContextList_other h hd]
      exact iff_of_false (fun hand => nomatch hand.1) fun heq => hd (Option.some.inj heq).symm

/-! ## A context enters -/

theorem addToStkContextList_frame (c : Addr) (s : State) :
    (addToStkContextList c s).contexts = s.contexts ∧ (addToStkContextList c s).s_bipState = s.s_bipState := by
  cases h : s.s_stkContextList <;> simp [addToStkContextList, h]

/-- What a new context is: it has an idle channel, which is busy now. -/
structure Initialised (s : State) (c : Addr) (s' : State) (i : Nat) : Prop where
  ring : SameRing s s'
  new : c = s.fresh ∧ c < s'.fresh
  range : i < MAX_BIP_CHANNELS
  idle : s.s_bipState i = .BIP_CHANNEL_IDLE
  busy : s'.s_bipState = Function.update s.s_bipState i .BIP_CHANNEL_BUSY
  channel : s'.channelOf c = i + 1
  others : ∀ d ≠ c, s'.channelOf d = s.channelOf d

theorem initStkContext_spec {d : OpenChannelData} {det : CommandDetails} (h : initStkContext d det s = some (c, s')) :
    ∃ i, Initialised s c s' i := by
  simp only [initStkContext, getBipChannel, Option.map_map, Option.map_eq_some_iff, Function.comp_apply,
    Prod.mk.injEq] at h
  obtain ⟨i, hfind, rfl, rfl⟩ := h
  refine ⟨i, ⟨rfl, rfl, Nat.le_succ _⟩, ⟨rfl, Nat.lt_succ_self _⟩, List.mem_range.1 (List.mem_of_find?_eq_some hfind),
    by simpa using List.find?_some hfind, rfl, ?_, fun d hd => ?_⟩
  · simp [State.channelOf, State.setContext, initialContext]
  · simp [State.channelOf, State.setContext, hd]

theorem InStepWith.initAndAdd {d : OpenChannelData} {det : CommandDetails} (h : InStepWith s ctxs)
    (hinit : initStkContext d det s = some (c, s')) : InStepWith (addToStkContextList c s') (ctxs ++ [c]) := by
  obtain ⟨i, hi⟩ := initStkContext_spec hinit
  obtain ⟨hcontexts, hbip⟩ := addToStkContextList_frame c s'
  have hof : (addToStkContextList c s').channelOf = s'.channelOf := by
    funext d
    simp only [State.channelOf, hcontexts]
  have hids : (ctxs ++ [c]).map s'.channelOf = ctxs.map s.channelOf ++ [i + 1] := by
    rw [List.map_append, List.map_singleton, hi.channel]
    congr 1
    refine List.map_congr_left fun d hd => hi.others d ?_
    rintro rfl
    exact Nat.lt_irrefl _ (hi.new.1 ▸ h.holds.lt_fresh hd)
  have hnew : i + 1 ∉ ctxs.map s.channelOf := by
    intro hmem
    have hbusy := ((h.busy _).1 hmem).2
    rw [Nat.add_sub_cancel, hi.idle] at hbusy
    cases hbusy
  refine ⟨addToStkContextList_holds (h.holds.of_same hi.ring) hi.new.2, ?_, fun id => ?_⟩
  · rw [hof, hids, List.nodup_append]
    refine ⟨h.nodup, List.nodup_singleton _, fun id hid id' hid' heq => hnew ?_⟩
    rwa [← List.mem_singleton.1 hid', ← heq]
  · rw [hof, hids, hbip, hi.busy, List.mem_append, h.busy, List.mem_singleton]
    have hrange := hi.range
    by_cases hid : id = i + 1
    · subst hid
      rw [Nat.add_sub_cancel, Function.update_self]
      exact iff_of_true (.inr rfl) ⟨⟨by omega, by omega⟩, rfl⟩
    · rw [or_iff_left hid]
      refine and_congr_right fun hid' => ?_
      rw [Function.update_of_ne (by omega)]

/-! ## One command -/

variable {p : Proactive}

/-- The state in which the thread of the command starts. -/
def Proactive.cleared (p : Proactive) (s : State) : State :=
  if cmdTypeOf p.response p.beyond = OPEN_CHANNEL ∧ p.single then clearForOpenChannel s else s

/-- The context that the command closes. -/
def Proactive.closed (p : Proactive) (s : State) : Option Addr :=
  match parseProCommand p.beyond p.response with
  | .OK berTlv =>
    match processCommandDetails berTlv.compTlvs with
    | some cmdDet =>
      if berTlv.lengthValid ∧ cmdDet.typeOfCommand = CLOSE_CHANNEL then
        getStkContext (processCloseChannel berTlv.compTlvs).channelId s
      else none
    | none => none
  | _ => none

/-- The current channel is put when its context makes room, and the context that is closed is the
first one. -/
def ClosesFirst (s : State) (p : Proactive) : Prop :=
  (cmdTypeOf p.response p.beyond = OPEN_CHANNEL → p.single → ∀ c, s.first = some c → s.channelOf c = s.s_curBipChannelID) ∧
    ∀ c, p.closed (p.cleared s) = some c → (p.cleared s).first = some c

theorem InStep.of_same (h : InStep s) (hs : SameChannels s s') : InStep s' :=
  h.imp fun _ hctxs => hctxs.of_same hs

theorem InStep.of_stays {α : Type} {m : M α} (h : InStep s) (hm : Stays SameChannels m) : InStep (m s).2 :=
  h.of_same (hm s)

theorem clearForOpenChannel_inStep (h : InStep s) (hcur : ∀ c, s.first = some c → s.channelOf c = s.s_curBipChannelID) :
    InStep (clearForOpenChannel s) := by
  obtain ⟨ctxs, h⟩ := h
  have hfirst := h.holds.first_eq
  unfold clearForOpenChannel
  cases hlist : s.s_stkContextList with
  | none => exact ⟨ctxs, h⟩
  | some head =>
    have hhead : s.first = some (s.contextAt head) := by rw [State.first, hlist]; rfl
    have hid := hcur _ hhead
    cases ctxs with
    | nil => exact nomatch hfirst.symm.trans hhead
    | cons c ctxs =>
      obtain rfl : c = s.contextAt head := Option.some.inj (hfirst.symm.trans hhead)
      show InStep (putBipChannel s.s_curBipChannelID (removeFromStkContextList (s.contextAt head) s).2)
      rw [← hid]
      exact ⟨ctxs, h.dropFirst⟩

theorem clientOpenChannel_inStep {tlvs : List TLV} {det : CommandDetails} (h : InStep s) :
    InStep (clientOpenChannel tlvs det s).2 := by
  obtain ⟨ctxs, h⟩ := h
  unfold clientOpenChannel
  rw [bindE_ok (getE_apply s)]
  cases hinit : initStkContext (processOpenChannel tlvs { bufferSize := 0, transportType := 0, hasText := false }) det s with
  | none => exact ⟨ctxs, h⟩
  | some r =>
    obtain ⟨c, s'⟩ := r
    dsimp only
    rw [bindE_ok (setE_apply _ s)]
    exact InStep.of_stays ⟨_, h.initAndAdd hinit⟩ same_startOpenChannel

theorem clientCloseChannel_inStep {tlvs : List TLV} {det : CommandDetails} (h : InStep s)
    (hfirst : ∀ c, getStkContext (processCloseChannel tlvs).channelId s = some c → s.first = some c) :
    InStep (clientCloseChannel tlvs det s).2 := by
  unfold clientCloseChannel
  dsimp only
  rw [bindE_ok (getE_apply s)]
  cases hget : getStkContext (processCloseChannel tlvs).channelId s with
  | none => exact h.of_stays same_sendTerminalResponse
  | some c =>
    dsimp only
    have hstays : Stays SameChannels (giveCommand c det (fun ctx => { ctx with pCCData := some (processCloseChannel tlvs) })
        >>= fun _ => lunchCloseChannel (processCloseChannel tlvs).channelId) :=
      .bind (same_modifyContext fun _ => rfl) fun _ => same_lunchCloseChannel
    obtain ⟨ctxs, h⟩ := h
    rw [← bind_assoc, bindE_apply]
    have hsame := hstays s
    split
    · rename_i hrun
      rw [hrun] at hsame
      have hhead := h.holds.first_eq.symm.trans (hfirst c hget)
      obtain ⟨ctxs, rfl⟩ : ∃ r, ctxs = c :: r := List.head?_eq_some_iff.1 hhead
      have hid := (h.holds.found hget).2
      rw [← hid, ← congrFun hsame.channelOf c]
      exact ⟨ctxs, (h.of_same hsame).dropFirst.of_same ⟨⟨rfl, rfl, Nat.le_refl _⟩, rfl, rfl⟩⟩
    · rename_i hrun
      rw [hrun] at hsame
      exact ⟨ctxs, h.of_same hsame⟩

theorem same_giveCommand {det : CommandDetails} {f : StkContext → StkContext} (hf : ∀ ctx, (f ctx).channel_id = ctx.channel_id) :
    Stays SameChannels (giveCommand c det f) :=
  same_modifyContext hf

theorem same_clientSendData {tlvs : List TLV} {det : CommandDetails} : Stays SameChannels (clientSendData tlvs det) := by
  refine .bind .get fun s => .bind (.when same_sendTerminalResponse) fun _ => .bind same_deref fun c => ?_
  exact .bind (same_giveCommand fun _ => rfl) fun _ => same_lunchSendData

theorem same_clientReceiveData {tlvs : List TLV} {det : CommandDetails} :
    Stays SameChannels (clientReceiveData p.beyond p.around tlvs det) :=
  .bind .get fun _ => .bind same_deref fun _ => .bind (same_giveCommand fun _ => rfl) fun _ => same_lunchReceiveData

theorem same_clientGetChannelStatus {det : CommandDetails} : Stays SameChannels (clientGetChannelStatus det) := by
  refine .bind .get fun s => ?_
  split
  · exact same_sendTerminalResponse
  · exact .bind (same_giveCommand fun _ => rfl) fun _ => same_lunchGetChannelStatus

theorem processBipClient_inStep (h : InStep s) (hfirst : ∀ c, p.closed s = some c → s.first = some c) :
    InStep (processBipClient p.beyond p.around p.response s).2 := by
  unfold processBipClient
  unfold Proactive.closed at hfirst
  cases hparse : parseProCommand p.beyond p.response with
  | OK berTlv =>
    rw [hparse] at hfirst
    dsimp only at hfirst ⊢
    cases hdet : processCommandDetails berTlv.compTlvs with
    | none => exact h.of_stays same_sendTerminalResponse
    | some det =>
      rw [hdet] at hfirst
      dsimp only at hfirst ⊢
      split
      · rename_i hvalid
        unfold clientCommand
        split
        · exact clientOpenChannel_inStep h
        · split
          · exact h.of_stays same_clientSendData
          · split
            · rename_i hclose
              rw [if_pos ⟨hvalid, hclose⟩] at hfirst
              exact clientCloseChannel_inStep h hfirst
            · split
              · exact h.of_stays same_clientReceiveData
              · split
                · exact h.of_stays same_clientGetChannelStatus
                · exact h
      · exact h.of_stays same_sendTerminalResponse
  | CMD_DATA_NOT_UNDERSTOOD => exact h
  | REQUIRED_VALUES_MISSING => exact h
  | RESULT_EXCEPTION => exact h

theorem getStkContext_same (h : s.Holds ctxs) (hs : SameChannels s s') (id : Nat) :
    getStkContext id s' = getStkContext id s := by
  rw [getStkContext_eq h, getStkContext_eq (h.of_same hs.toSameRing), hs.channelOf]

theorem Proactive.closed_same (h : s.Holds ctxs) (hs : SameChannels s s') : p.closed s' = p.closed s := by
  unfold Proactive.closed
  simp only [getStkContext_same h hs]

theorem processProactive_inStep (h : InStep s) (hC : ClosesFirst s p) : InStep (processProactive p s).2 := by
  have hclient : ∀ t, InStep t → (∀ c, p.closed t = some c → t.first = some c) →
      ∀ (c : Prop) [Decidable c], InStep (whenE c (processBipClient p.beyond p.around p.response) t).2 := by
    intro t ht hfirst c _
    unfold whenE
    split
    · exact processBipClient_inStep ht hfirst
    · exact ht
  unfold processProactive
  obtain ⟨hclear, hfirst⟩ := hC
  unfold Proactive.cleared at hfirst
  by_cases hclose : cmdTypeOf p.response p.beyond = CLOSE_CHANNEL
  · have hopen : ¬(cmdTypeOf p.response p.beyond = OPEN_CHANNEL ∧ p.single) := fun hand =>
      absurd (hclose.symm.trans hand.1) (by decide)
    rw [if_neg hopen] at hfirst
    obtain ⟨ctxs, hctxs⟩ := h
    have hsame : SameChannels s { s with log := s.log ++ [.RIL_UNSOL_STK_PROACTIVE_COMMAND] } :=
      ⟨⟨rfl, rfl, Nat.le_refl _⟩, rfl, rfl⟩
    rw [whenE, if_pos hclose, note, bindE_ok (modifyE_apply _ s), whenE, if_neg hopen, bindE_ok (ok_apply _ _)]
    refine hclient _ ⟨ctxs, hctxs.of_same hsame⟩ (fun c hc => ?_) _
    rw [Proactive.closed_same hctxs.holds hsame] at hc
    exact hfirst c hc
  · rw [whenE, if_neg hclose, bindE_ok (ok_apply _ s), whenE]
    split
    · rename_i hopen
      rw [if_pos hopen] at hfirst
      rw [bindE_ok (modifyE_apply _ s)]
      exact hclient _ (clearForOpenChannel_inStep h (hclear hopen.1 hopen.2)) hfirst _
    · rename_i hopen
      rw [if_neg hopen] at hfirst
      rw [bindE_ok (ok_apply _ s)]
      exact hclient _ h hfirst _

/-! ## Runs of commands -/

/-- One command, unless it never comes to its end. -/
def channelStep (s : State) (p : Proactive) : Option State := completed (processProactive p) s

theorem channelStep_inStep (h : InStep s) (hC : ClosesFirst s p) (hstep : channelStep s p = some s') : InStep s' := by
  have hnext := processProactive_inStep h hC
  rw [completed_eq_some_iff.1 hstep] at hnext
  exact hnext

/-- No channel was opened yet. -/
def State.init : State where
  s_stkContextList := none
  nodes := fun _ => { pstkcontext := 0, prev := 0, next := 0 }
  contexts := fun _ => initialContext 0 { bufferSize := 0, transportType := 0, hasText := false } noDetails
  fresh := 0
  s_curBipChannelID := 0
  s_bipState := fun _ => .BIP_CHANNEL_IDLE
  s_lunchOpenChannelDialog := false
  writes := []
  log := []

theorem init_inStepWith : InStepWith State.init [] :=
  ⟨rfl, List.nodup_nil, fun id => iff_of_false (by simp) fun h => nomatch h.2⟩

/-- **A channel that is closed is removed** exactly when its context comes first, and while only such
channels are closed the ring holds the busy channels. -/
theorem close_removes_iff_first (s : State) (ctxs : List Addr) (c : Addr) (ps : List Proactive) :
    (s.Holds ctxs → (ctxs.map s.channelOf).Nodup → c ∈ ctxs →
      ((removeFromStkContextList c s).1 = true ∧ (removeFromStkContextList c s).2.Holds (ctxs.erase c) ↔
        ctxs.head? = some c)) ∧
      (Runs.Steps channelStep ClosesFirst State.init ps → Runs.Always channelStep InStep State.init ps) :=
  ⟨removed_iff, Runs.always_of_steps (fun _ _ _ => channelStep_inStep) ⟨[], init_inStepWith⟩⟩

/-! ## Two channels -/

instance (s : State) (p : Proactive) : Decidable (ClosesFirst s p) :=
  inferInstanceAs (Decidable
    ((cmdTypeOf p.response p.beyond = OPEN_CHANNEL → p.single →
        ∀ c ∈ s.first, s.channelOf c = s.s_curBipChannelID) ∧
      ∀ c ∈ p.closed (p.cleared s), (p.cleared s).first = some c))

/-- A command with its details, its devices and nothing else. -/
def bareCommand (typeOfCommand destination : Byte) : Proactive where
  single := false
  response :=
    hexText (fun _ => false) [0xD0, 0x09, 0x81, 0x03, 0x01, typeOfCommand, 0x00, 0x82, 0x02, 0x81, destination]
  beyond := fun _ => 0
  around := fun _ => 0

def bareOpen : Proactive := bareCommand 0x40 0x82

/-- CLOSE CHANNEL of the channel with this number. -/
def bareClose (channelId : Byte) : Proactive := bareCommand 0x41 (0x20 ||| channelId)

/-- A context for the next channel. -/
def State.addChannel (s : State) : State :=
  match initStkContext { bufferSize := 0, transportType := 0, hasText := false } noDetails s with
  | none => s
  | some (c, s) => addToStkContextList c s

def twoChannels : State := State.init.addChannel.addChannel

theorem twoChannels_holds : twoChannels.Holds [0, 2] :=
  ((init_inStepWith.initAndAdd rfl).initAndAdd rfl).holds

theorem close_removes_iff_first_twoChannels :
    ((removeFromStkContextList 0 twoChannels).1 = true ∧
        (removeFromStkContextList 0 twoChannels).2.Holds ([0, 2].erase 0) ↔ [0, 2].head? = some 0) ∧
      Runs.Always channelStep InStep State.init [bareOpen, bareOpen, bareClose 1] :=
  ⟨(close_removes_iff_first twoChannels [0, 2] 0 []).1 twoChannels_holds (by decide) (by decide),
    (close_removes_iff_first twoChannels [0, 2] 0 [bareOpen, bareOpen, bareClose 1]).2 (by decide +kernel)⟩

/-- The second channel is not removed when it is closed, and it stays in the ring as an idle one. -/
theorem close_keeps_second :
    (twoChannels.Holds [0, 2] ∧ ([0, 2].map twoChannels.channelOf).Nodup ∧
        (removeFromStkContextList 2 twoChannels).1 = false) ∧
      ¬ Runs.Always channelStep InStep State.init [bareOpen, bareOpen, bareClose 2] := by
  refine ⟨⟨twoChannels_holds, by decide, by decide⟩, fun h => ?_⟩
  have hend : (Runs.run channelStep State.init [bareOpen, bareOpen, bareClose 2]).any
      (fun s => (getStkContext 2 s).isSome ∧ s.s_bipState 1 = .BIP_CHANNEL_IDLE) := by decide +kernel
  obtain ⟨s, hrun, hs⟩ := (Option.any_eq_true _ _).1 hend
  obtain ⟨hget, hidle⟩ := of_decide_eq_true hs
  obtain ⟨c, hc⟩ := Option.isSome_iff_exists.1 hget
  obtain ⟨ctxs, hstep⟩ := h.last hrun
  have hmem : 2 ∈ ctxs.map s.channelOf := List.mem_map.2 ⟨c, hstep.holds.found hc⟩
  exact nomatch hidle.symm.trans ((hstep.busy 2).1 hmem).2

end UniRil.Stk
