import UniRil.Data.Setup

/-!
# What the steps of one activation leave alone

Commands and their answers change neither the slots nor the usage counts, and while one cid is
activated nothing but that cid is torn down.
-/

namespace UniRil.Data

open StateRules

/-- The cid that an event takes out of service. -/
def Event.tornDown : Event → Option Int
  | .at_send_command (.CGACT_0 cid) => some cid
  | .cgact_deact_cmd_rsp cid => some cid
  | _ => none

/-- No slot is taken, and no cid but `cid` is torn down. -/
def Event.OnlyTears (cid : Int) : Event → Prop
  | .getPDP _ => False
  | e => ∀ c, e.tornDown = some c → c = cid

/-- The log has grown by events of one kind. -/
def Logged (E : Event → Prop) (w w' : World) : Prop := ∃ es, w'.log = w.log ++ es ∧ ∀ e ∈ es, E e

/-- Slots, usage counts and the other SIMs are as before, and only `cid` was torn down. -/
structure Quiet (socket_id : RIL_SOCKET_ID) (cid : Int) (w w' : World) : Prop where
  others : ∀ s, s ≠ socket_id → w'.sim s = w.sim s
  slots : (w'.sim socket_id).s_PDP = (w.sim socket_id).s_PDP
  detached : (w'.sim socket_id).s_LTEDetached = (w.sim socket_id).s_LTEDetached
  channels : w'.shared.s_openchannelInfo = w.shared.s_openchannelInfo
  log : Logged (Event.OnlyTears cid) w w'

theorem Logged.refl {E : Event → Prop} (w : World) : Logged E w w := ⟨[], by simp, by simp⟩

theorem Logged.trans {E : Event → Prop} {w w' w'' : World} (h : Logged E w w') (h' : Logged E w' w'') :
    Logged E w w'' := by
  obtain ⟨es, hes, hE⟩ := h
  obtain ⟨fs, hfs, hF⟩ := h'
  refine ⟨es ++ fs, by rw [hfs, hes, List.append_assoc], fun e he => ?_⟩
  rcases List.mem_append.1 he with he | he
  · exact hE e he
  · exact hF e he

theorem Logged.of_eq {E : Event → Prop} {w w' : World} (h : w'.log = w.log) : Logged E w w' :=
  ⟨[], by simp [h], by simp⟩

theorem Logged.one {E : Event → Prop} {w w' : World} {e : Event} (h : w'.log = w.log ++ [e]) (he : E e) :
    Logged E w w' :=
  ⟨[e], h, by simpa using he⟩

instance (E : Event → Prop) : IsPreorder World (Logged E) where
  refl := Logged.refl
  trans _ _ _ := Logged.trans

variable {cfg : Config} {socket_id : RIL_SOCKET_ID} {cid : Int}

instance : IsPreorder World (Quiet socket_id cid) where
  refl w := ⟨fun _ _ => rfl, rfl, rfl, rfl, .refl w⟩
  trans _ _ _ h h' :=
    ⟨fun s hs => (h'.others s hs).trans (h.others s hs), h'.slots.trans h.slots, h'.detached.trans h.detached,
      h'.channels.trans h.channels, h.log.trans h'.log⟩

@[simp] theorem setSim_self (w : World) (f : Sim → Sim) : (w.setSim socket_id f).sim socket_id = f (w.sim socket_id) := by
  simp [World.setSim]

theorem setSim_ne (w : World) (f : Sim → Sim) {s : RIL_SOCKET_ID} (h : s ≠ socket_id) :
    (w.setSim socket_id f).sim s = w.sim s := by
  simp [World.setSim, h]

/-! ## The steps -/

theorem quiet_send {cmd : AtCommand} (h : ∀ c, cmd = .CGACT_0 c → c = cid) :
    Keeps (Quiet socket_id cid) (at_send_command cmd) := by
  intro w
  refine ⟨fun _ _ => rfl, rfl, rfl, rfl, .one rfl ?_⟩
  intro c hc
  cases cmd <;> simp_all [Event.tornDown]

theorem quiet_sendCommand {cmd : AtCommand} (h : ∀ c, cmd = .CGACT_0 c → c = cid) :
    Keeps (Quiet socket_id cid) (sendCommand cmd) :=
  .bind (quiet_send h) fun _ => .pure

theorem quiet_deact : Keeps (Quiet socket_id cid) (cgact_deact_cmd_rsp cid) := by
  intro w
  refine ⟨fun _ _ => rfl, rfl, rfl, rfl, .one rfl ?_⟩
  intro c hc
  simpa [Event.tornDown, eq_comm] using hc

theorem quiet_modifyShared {f : Shared → Shared} (h : ∀ g, (f g).s_openchannelInfo = g.s_openchannelInfo) :
    Keeps (Quiet socket_id cid) (modifyShared f) :=
  fun w => ⟨fun _ _ => rfl, rfl, rfl, h w.shared, .of_eq rfl⟩

theorem quiet_modifySim {f : Sim → Sim} (hslots : ∀ m, (f m).s_PDP = m.s_PDP)
    (hdetached : ∀ m, (f m).s_LTEDetached = m.s_LTEDetached) : Keeps (Quiet socket_id cid) (modifySim socket_id f) := by
  intro w
  refine ⟨fun _ hs => setSim_ne w f hs, ?_, ?_, rfl, .of_eq rfl⟩
  · simpa [modifySim] using hslots (w.sim socket_id)
  · simpa [modifySim] using hdetached (w.sim socket_id)

theorem quiet_failCause {cause : FailCause} : Keeps (Quiet socket_id cid) (setFailCause socket_id cause) :=
  quiet_modifySim (fun _ => rfl) fun _ => rfl

theorem quiet_readShared {α : Type} {f : Shared → α} : Keeps (Quiet socket_id cid) (readShared f) := .reads

theorem quiet_readSim {α : Type} {f : Sim → α} : Keeps (Quiet socket_id cid) (readSim socket_id f) := .reads

theorem quiet_getPDPState {index : Int} : Keeps (Quiet socket_id cid) (getPDPState socket_id index) :=
  .ite .pure quiet_readSim

theorem quiet_getFallbackCid {index : Int} : Keeps (Quiet socket_id cid) (getFallbackCid socket_id index) :=
  .ite .pure quiet_readSim

/-! ## The answer to AT+CGDATA -/

@[simp] theorem setInfo_channels (g : Shared) (i : Int) (f : PDP_INFO → PDP_INFO) :
    (g.setInfo i f).s_openchannelInfo = g.s_openchannelInfo := rfl

@[simp] theorem setNet_channels (g : Shared) (i : Int) (f : NetProps → NetProps) :
    (g.setNet i f).s_openchannelInfo = g.s_openchannelInfo := rfl

theorem storeAddress_channels (type : IPType) (i : Int) (k : Contrdp) (g : Shared) :
    (storeAddress type i k g).1.s_openchannelInfo = g.s_openchannelInfo := by
  cases type <;> rfl

theorem contrdpStore_channels (c : Int) (k : Contrdp) (g : Shared) :
    (contrdpStore c k g).1.s_openchannelInfo = g.s_openchannelInfo := by
  rw [contrdpStore, setInfo_channels]
  split <;> exact storeAddress_channels _ _ _ _

theorem contrdpLine_channels (s : Shared × Contrdp) (line : Line) :
    (contrdpLine s line).1.s_openchannelInfo = s.1.s_openchannelInfo := by
  unfold contrdpLine
  split
  · rfl
  · split
    · exact contrdpStore_channels _ _ _
    · rfl

theorem cgcontrdp_channels (lines : List Line) (g : Shared) :
    (cgcontrdp_set_cmd_rsp lines g).s_openchannelInfo = g.s_openchannelInfo := by
  have hfold : ∀ s : Shared × Contrdp, (lines.foldl contrdpLine s).1.s_openchannelInfo = s.1.s_openchannelInfo := by
    induction lines with
    | nil => intro s; rfl
    | cons line lines ih =>
      intro s
      rw [List.foldl_cons, ih, contrdpLine_channels]
  exact hfold _

theorem mergeFallback_channels (g : Shared) (i j : Int) :
    (g.mergeFallback i j).s_openchannelInfo = g.s_openchannelInfo := by
  unfold Shared.mergeFallback
  cases (g.pdp_info i).ip_state <;> rfl

theorem quiet_cgdata_req {c : Int} : Keeps (Quiet socket_id cid) (cgdata_set_cmd_req c) :=
  quiet_modifyShared fun _ => rfl

theorem quiet_dispose {masterCid secondaryCid : Int} :
    Keeps (Quiet socket_id cid) (dispose_data_fallback masterCid secondaryCid) := by
  unfold dispose_data_fallback
  refine .ite .pure (.bind quiet_readShared fun same => ?_)
  cases same with
  | true => exact .pure
  | false => exact .bind (quiet_modifyShared fun g => mergeFallback_channels g _ _) fun _ => .pure

theorem quiet_getIPV6Addr {cidIndex : Int} : Keeps (Quiet socket_id cid) (getIPV6Addr cidIndex) := by
  intro w
  unfold getIPV6Addr
  split
  · exact refl w
  · exact ⟨fun _ _ => rfl, rfl, rfl, rfl, .of_eq rfl⟩
  · exact ⟨fun _ _ => rfl, rfl, rfl, rfl, .of_eq rfl⟩

theorem quiet_upNetInterface {cidIndex : Int} {ipType : IPType} :
    Keeps (Quiet socket_id cid) (upNetInterface cidIndex ipType) := by
  unfold upNetInterface
  refine .ite .pure (.bind quiet_getIPV6Addr fun ok => ?_)
  refine .ite .pure (.ite (.bind (quiet_modifyShared fun _ => rfl) fun _ => .pure) .pure)

theorem quiet_establish {p_response : Command.ATResponse} {pdpIndex c primaryCid : Int} :
    Keeps (Quiet socket_id cid) (establish p_response pdpIndex c primaryCid) := by
  unfold establish
  refine .bind quiet_readShared fun state => .ite ?_ .pure
  refine .bind quiet_dispose fun merged => .bind quiet_readShared fun ip_state => ?_
  exact .bind quiet_upNetInterface fun up => .ite .pure .pure

theorem quiet_connected {p_response : Command.ATResponse} {pdpIndex primaryCid : Int} :
    Keeps (Quiet socket_id cid) (connected cfg p_response pdpIndex cid primaryCid) := by
  unfold connected
  refine .bind (quiet_modifyShared fun _ => rfl) fun _ => .bind ?_ fun rdp => .ite ?_ ?_
  · split <;> exact quiet_send (by simp)
  · refine .bind (quiet_modifyShared fun _ => rfl) fun _ => .bind (quiet_send (by simp)) fun cgact => ?_
    exact .ite .pure quiet_establish
  · exact .bind (quiet_modifyShared fun g => cgcontrdp_channels _ g) fun _ => quiet_establish

/-- The cid that is torn down when no address arrives is the one stored in the context. -/
theorem quiet_cgdata_rsp {reply : Reply} {pdpIndex primaryCid : Int} {w : World}
    (hcid : (w.shared.pdp_info pdpIndex).cid = cid) :
    Quiet socket_id cid w (cgdata_set_cmd_rsp cfg reply pdpIndex primaryCid w).2 := by
  unfold cgdata_set_cmd_rsp
  cases reply with
  | error err => exact refl w
  | ok p_response =>
    simp only
    split
    · exact refl w
    · simp only [bind_apply, readShared, reads_apply, hcid]
      cases getATResponseType (p_response.finalResponse.getD []) with
      | CONNECT => exact quiet_connected w
      | ERROR =>
        have hkeep : Keeps (Quiet socket_id cid) (modifyShared (·.setInfo pdpIndex fun p => { p with state := .IDLE })) :=
          quiet_modifyShared fun _ => rfl
        exact hkeep w
      | OK => exact refl w
      | MID => exact refl w

theorem quiet_deactivateAfterTimeout : Keeps (Quiet socket_id cid) (deactivateAfterTimeout socket_id cid) :=
  .bind quiet_failCause fun _ => .bind (quiet_send (by simp)) fun _ => .bind quiet_deact fun _ => .pure

theorem quiet_errorHandling {reply : Reply} :
    Keeps (Quiet socket_id cid) (errorHandlingForCGDATA socket_id reply cid) := by
  unfold errorHandlingForCGDATA
  cases reply with
  | error err => exact .bind quiet_failCause fun _ => .ite quiet_deactivateAfterTimeout .pure
  | ok p_response =>
    refine .ite .pure (.ite ?_ (.bind quiet_failCause fun _ => .ite quiet_deactivateAfterTimeout .pure))
    split
    · exact .ite .pure (.ite .pure (.ite .pure (.bind quiet_failCause fun _ => .pure)))
    · exact .bind quiet_failCause fun _ => .pure

theorem quiet_sendAuthAndQos {data : SetupData} {c : Int} :
    Keeps (Quiet socket_id cid) (sendAuthAndQos cfg socket_id data c) :=
  .bind (quiet_send (by simp)) fun _ => .bind quiet_readSim fun _ => .when (quiet_sendCommand (by simp))

theorem quiet_sendCgdata {mEther : Bool} {primaryCid : Int} :
    Keeps (Quiet socket_id cid) (sendCgdata cfg socket_id mEther cid primaryCid) := by
  intro w
  unfold sendCgdata
  simp only [bind_apply]
  refine IsTrans.trans _ _ _ ?_ (quiet_errorHandling _)
  refine IsTrans.trans _ _ _ ?_ (quiet_cgdata_rsp ?_)
  · refine IsTrans.trans _ _ _ (quiet_cgdata_req (c := cid) w) ?_
    refine IsTrans.trans _ _ _ (quiet_send ?_ _) (quiet_modifySim (f := fun m => { m with s_curCid := cid }) ?_ ?_ _)
    · simp
    · exact fun _ => rfl
    · exact fun _ => rfl
  · simp [cgdata_set_cmd_req, modifyShared, at_send_command, modifySim, World.setSim, Shared.setInfo]

/-! ## The query of the second context -/

theorem quiet_getSPACTFBcause : Keeps (Quiet socket_id cid) (getSPACTFBcause socket_id) := by
  unfold getSPACTFBcause
  refine .bind (quiet_send (by simp)) fun reply => .ite ?_ (.bind quiet_failCause fun _ => .pure)
  split
  · exact .bind quiet_failCause fun _ => .pure
  · split
    · exact .pure
    · exact .pure

theorem quiet_secondContext {pdp_type : Line} {cidIndex : Int} :
    Keeps (Quiet socket_id cid) (secondContext cfg socket_id pdp_type cidIndex) := by
  unfold secondContext
  refine .ite .pure (.ite (.bind ?_ fun _ => .pure) .pure)
  unfold checkFallBackType
  refine .bind quiet_readShared fun ipType => .ite (.bind quiet_getSPACTFBcause fun fbCause => .ite ?_ .pure) .pure
  cases ipType <;> exact .pure

theorem quiet_queryAllActivePDNInfos : Keeps (Quiet socket_id cid) queryAllActivePDNInfos := by
  unfold queryAllActivePDNInfos
  refine .bind (quiet_modifyShared fun _ => rfl) fun _ => .bind (quiet_send (by simp)) fun reply => .ite ?_ .pure
  exact .bind .reads fun _ => quiet_modifyShared fun _ => rfl

end UniRil.Data
