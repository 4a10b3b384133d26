import UniRil.Data.Requests

/-!
# The steps of the data functions

Up to their answers, the functions of a SIM are made of a few kinds of steps. A relation that these
steps keep is kept by the functions.
-/

namespace UniRil.Data

open StateRules AtTok

/-! ## Stores to the tables of the contexts -/

/-- The tables of the contexts come from `g`, everything else from `h`. -/
def Shared.into (g h : Shared) : Shared :=
  { h with
    s_pdpType := g.s_pdpType
    pdp_info := g.pdp_info
    net := g.net
    s_SavedDns := g.s_SavedDns
    s_SavedDns_IPV6 := g.s_SavedDns_IPV6 }

/-- The function works on the tables of the contexts alone. -/
def Local (f : Shared → Shared) : Prop := ∀ g h : Shared, f (g.into h) = (f g).into h

theorem Local.frame {f : Shared → Shared} (hf : Local f) (g : Shared) : f g = (f g).into g := hf g g

theorem local_setInfo {i : Int} {f : PDP_INFO → PDP_INFO} : Local (·.setInfo i f) := fun _ _ => rfl

theorem local_deactivate {cid : Int} : Local (·.deactivate cid) := fun _ _ => rfl

theorem local_pdpType {type : IPType} : Local fun g => { g with s_pdpType := type } := fun _ _ => rfl

theorem local_mergeFallback {i j : Int} : Local (·.mergeFallback i j) := by
  intro g h
  have hinfo : (g.into h).pdp_info = g.pdp_info := rfl
  simp only [Shared.mergeFallback, hinfo]
  cases (g.pdp_info i).ip_state <;> rfl

theorem storeAddress_into (type : IPType) (i : Int) (k : Contrdp) (g h : Shared) :
    storeAddress type i k (g.into h) = ((storeAddress type i k g).1.into h, (storeAddress type i k g).2) := by
  cases type <;> rfl

theorem contrdpStore_into (cid : Int) (k : Contrdp) (g h : Shared) :
    contrdpStore cid k (g.into h) = ((contrdpStore cid k g).1.into h, (contrdpStore cid k g).2) := by
  simp only [contrdpStore, storeAddress_into]
  split <;> rfl

theorem contrdpLine_into (g h : Shared) (k : Contrdp) (line : Line) :
    contrdpLine (g.into h, k) line = ((contrdpLine (g, k) line).1.into h, (contrdpLine (g, k) line).2) := by
  unfold contrdpLine
  split
  · rfl
  · split
    · exact contrdpStore_into _ _ g h
    · rfl

theorem local_cgcontrdp {lines : List Line} : Local (cgcontrdp_set_cmd_rsp lines) := by
  have hfold : ∀ (k : Contrdp) (g h : Shared),
      (lines.foldl contrdpLine (g.into h, k)).1 = (lines.foldl contrdpLine (g, k)).1.into h := by
    induction lines with
    | nil => exact fun _ _ _ => rfl
    | cons line lines ih =>
      intro k g h
      rw [List.foldl_cons, List.foldl_cons, contrdpLine_into, ih]
  exact fun g h => hfold _ g h

/-! ## The kinds of steps -/

/-- No answer to a request. -/
def Event.Silent : Event → Prop
  | .RIL_onRequestComplete _ _ => False
  | _ => True

/-- The SIM asks the modem for its PDNs. -/
def QueriesPdn (cfg : Config) (socket_id : RIL_SOCKET_ID) : Prop :=
  cfg.s_isLTE ∧ (cfg.isLWG_LWG ∨ socket_id = cfg.s_multiModeSim)

/-- Every kind of step keeps `R`. A query of the PDNs is not among them. -/
structure Steps (socket_id : RIL_SOCKET_ID) (R : World → World → Prop) : Prop where
  send : ∀ {cmd}, Keeps R (at_send_command cmd)
  log : ∀ {e : Event}, e.Silent → Keeps R (note e)
  sim : ∀ {f}, Keeps R (modifySim socket_id f)
  contexts : ∀ {f}, Local f → Keeps R (modifyShared f)
  channel : ∀ {i f}, (∀ c : OpenchannelInfo, (f c).state = c.state ∨ (f c).state = .CLOSE) →
    Keeps R (modifyShared (·.setChannel i f))
  openchannelCid : ∀ {cid}, Keeps R (modifyShared fun g => { g with s_openchannelCid := cid })
  addr : ∀ {i}, Keeps R (getIPV6Addr i)

namespace Steps

variable {cfg : Config} {socket_id : RIL_SOCKET_ID} {data : SetupData} {R : World → World → Prop} [IsPreorder World R]
  (h : Steps socket_id R)

include h

omit [IsPreorder World R] in
theorem failCause {cause : FailCause} : Keeps R (setFailCause socket_id cause) := h.sim

theorem deact {cid : Int} : Keeps R (cgact_deact_cmd_rsp cid) :=
  .bind (h.log trivial) fun _ => h.contexts local_deactivate

theorem sendCommand {cmd : AtCommand} : Keeps R (sendCommand cmd) := .bind h.send fun _ => .pure

theorem getPDP : Keeps R (getPDP cfg socket_id) := by
  intro w
  unfold Data.getPDP
  split
  · exact refl w
  · rename_i i _
    have hnote : Keeps R (note (.getPDP i)) := h.log trivial
    exact Keeps.bind h.sim (fun _ => hnote) w

theorem getPDPByIndex {i : Int} : Keeps R (getPDPByIndex socket_id i) := by
  intro w
  unfold Data.getPDPByIndex
  have hnote : Keeps R (note (.getPDP i)) := h.log trivial
  split
  · exact Keeps.bind h.sim (fun _ => hnote) w
  · exact refl w

theorem putPDP {i : Int} : Keeps R (putPDP socket_id i) :=
  .ite .pure (.bind h.sim fun _ => h.channel fun _ => .inl rfl)

theorem putPDPByIndex {i : Int} : Keeps R (putPDPByIndex socket_id i) := .ite .pure h.sim

theorem updatePDPCid {cid state : Int} : Keeps R (updatePDPCid socket_id cid state) := .ite .pure h.sim

omit h in
theorem getPDPCid {i : Int} : Keeps R (getPDPCid socket_id i) := .ite .pure .reads

omit h in
theorem getPDPState {i : Int} : Keeps R (getPDPState socket_id i) := .ite .pure .reads

omit h in
theorem getFallbackCid {i : Int} : Keeps R (getFallbackCid socket_id i) := .ite .pure .reads

theorem releaseSlot {index : Int} : Keeps R (releaseSlot socket_id index) :=
  .bind getFallbackCid fun _ => .bind h.putPDP fun _ => h.putPDP

/-! ### The answer to AT+CGDATA -/

theorem dispose {masterCid secondaryCid : Int} : Keeps R (dispose_data_fallback masterCid secondaryCid) := by
  unfold dispose_data_fallback
  refine .ite .pure (.bind .reads fun same => ?_)
  exact .ite .pure (.bind (h.contexts local_mergeFallback) fun _ => .pure)

theorem establish {p_response : Command.ATResponse} {pdpIndex cid primaryCid : Int} :
    Keeps R (establish p_response pdpIndex cid primaryCid) := by
  have hup : ∀ cidIndex ipType, Keeps R (upNetInterface cidIndex ipType) := by
    intro cidIndex ipType
    unfold upNetInterface
    refine .ite .pure (.bind h.addr fun ok => .ite .pure ?_)
    exact .ite (.bind (h.contexts local_setInfo) fun _ => .pure) .pure
  unfold Data.establish bringUp
  refine .bind .reads fun state => .ite ?_ .pure
  refine .bind h.dispose fun merged => .bind .reads fun ip_state => .bind (hup _ _) fun up => ?_
  exact .ite .pure .pure

theorem cgdata_rsp {reply : Reply} {pdpIndex primaryCid : Int} :
    Keeps R (cgdata_set_cmd_rsp cfg reply pdpIndex primaryCid) := by
  unfold cgdata_set_cmd_rsp
  split
  · exact .pure
  · refine .ite .pure (.bind .reads fun cid => ?_)
    split
    · unfold connected
      refine .bind (h.contexts local_setInfo) fun _ => .bind h.send fun rdp => .ite ?_ ?_
      · refine .bind (h.contexts local_setInfo) fun _ => .bind h.send fun cgact => ?_
        exact .ite .pure h.establish
      · exact .bind (h.contexts local_cgcontrdp) fun _ => h.establish
    · exact .bind (h.contexts local_setInfo) fun _ => .pure
    · exact .pure

theorem errorHandling {reply : Reply} {cid : Int} : Keeps R (errorHandlingForCGDATA socket_id reply cid) := by
  have hdeactivate : Keeps R (deactivateAfterTimeout socket_id cid) :=
    .bind h.failCause fun _ => .bind h.send fun _ => .bind h.deact fun _ => .pure
  unfold errorHandlingForCGDATA
  split
  · exact .bind h.failCause fun _ => .ite hdeactivate .pure
  · refine .ite .pure (.ite ?_ (.bind h.failCause fun _ => .ite hdeactivate .pure))
    split
    · exact .ite .pure (.ite .pure (.ite .pure (.bind h.failCause fun _ => .pure)))
    · exact .bind h.failCause fun _ => .pure

theorem sendCgdata {mEther : Bool} {cid primaryCid : Int} : Keeps R (sendCgdata cfg socket_id mEther cid primaryCid) :=
  .bind (h.contexts local_setInfo) fun _ => .bind h.send fun _ => .bind h.sim fun _ =>
    .bind h.cgdata_rsp fun _ => h.errorHandling

theorem sendAuthAndQos {cid : Int} : Keeps R (sendAuthAndQos cfg socket_id data cid) :=
  .bind h.send fun _ => .bind .reads fun _ => .when h.sendCommand

/-! ### A setup up to its label -/

theorem activeSpeciedCidProcess {cid primaryCid : Int} {pdp_type : Line} :
    Keeps R (activeSpeciedCidProcess cfg socket_id data cid pdp_type primaryCid) := by
  have hjoin : Keeps R (joinContexts socket_id cid primaryCid) := by
    unfold joinContexts
    refine .bind .reads fun ipType => .ite ?_ (.bind (.ite .pure h.sim) fun _ => .pure)
    exact .bind h.send fun _ => .bind h.deact fun _ => .bind h.putPDP fun _ => .pure
  have hsettle : Keeps R (settleContext socket_id cid primaryCid) :=
    .ite hjoin (.bind h.updatePDPCid fun _ => .pure)
  unfold Data.activeSpeciedCidProcess
  refine .bind h.send fun _ => .bind h.deact fun _ => .bind h.send fun cgdcont => .ite ?_ ?_
  · refine .bind h.sendAuthAndQos fun _ => .bind h.sendCgdata fun ret => .ite (.bind h.putPDP fun _ => .pure) ?_
    exact .bind hsettle fun _ => .bind h.sim fun _ => .pure
  · exact .bind h.failCause fun _ => .bind h.putPDP fun _ => .pure

theorem checkFallBack {pdp_type : Line} {cidIndex : Int} :
    Keeps R (checkFallBack cfg socket_id data pdp_type cidIndex) := by
  have hcause : Keeps R (getSPACTFBcause socket_id) := by
    unfold getSPACTFBcause
    refine .bind h.send fun reply => .ite ?_ (.bind h.failCause fun _ => .pure)
    split
    · exact .bind h.failCause fun _ => .pure
    · split <;> exact .pure
  have htype : Keeps R (checkFallBackType cfg socket_id pdp_type cidIndex) := by
    unfold checkFallBackType
    refine .bind .reads fun ipType => .ite (.bind hcause fun fbCause => .ite ?_ .pure) .pure
    split <;> exact .pure
  have hsecond : Keeps R (secondContext cfg socket_id pdp_type cidIndex) :=
    .ite .pure (.ite (.bind htype fun _ => .pure) .pure)
  unfold Data.checkFallBack
  refine .bind hsecond fun second => ?_
  split
  · exact .pure
  · refine .bind h.getPDP fun index => .bind getPDPCid fun cid => .ite .pure ?_
    exact .bind h.activeSpeciedCidProcess fun _ => .pure

theorem fallback {index : Int} : Keeps R (doIPV4_IPV6_Fallback cfg socket_id index data) := by
  have hsend : Keeps R (sendFallbackCgdata cfg socket_id index) :=
    .bind (h.contexts local_setInfo) fun _ => .bind h.send fun _ => .bind h.cgdata_rsp fun _ => h.errorHandling
  have hsix : Keeps R (fallbackIPV6 cfg socket_id data) := by
    unfold fallbackIPV6
    refine .bind h.getPDP fun index => .bind getPDPCid fun cid => .ite ?_ ?_
    · exact .bind h.failCause fun _ => h.putPDP
    · exact .bind h.activeSpeciedCidProcess fun _ => .pure
  unfold doIPV4_IPV6_Fallback
  refine .bind h.send fun cgdcont => .ite (.bind hsend fun ret => ?_) (.bind h.failCause fun _ => .pure)
  exact .ite .pure (.bind h.updatePDPCid fun _ => .bind hsix fun _ => .pure)

theorem reuseIdleSlot {type : Line} {i ret : Int} : Keeps R (reuseIdleSlot cfg socket_id data type i ret) := by
  have hafter : ∀ cgdata_err, Keeps R (afterReuse cfg socket_id data type i ret cgdata_err) := by
    intro cgdata_err
    unfold afterReuse
    refine .ite ?_ (.ite ?_ (.bind h.putPDPByIndex fun _ => .pure))
    · exact .bind h.updatePDPCid fun _ => .bind h.openchannelCid fun _ => .bind h.checkFallBack fun _ => .pure
    · exact .bind h.updatePDPCid fun _ => .bind h.putPDPByIndex fun _ => .pure
  unfold Data.reuseIdleSlot
  refine .bind h.getPDPByIndex fun _ => .bind h.deact fun _ => .bind h.send fun _ => ?_
  exact .bind h.sendAuthAndQos fun _ => .bind h.sendCgdata fun cgdata_err => hafter cgdata_err

theorem reuseLoop {type : Line} {is : List Int} {ret : Int} :
    Keeps R (reuseLoop cfg socket_id data type is ret) := by
  induction is generalizing ret with
  | nil => exact .pure
  | cons i is ih =>
    rw [Data.reuseLoop]
    refine .bind .reads fun pdn => .bind .reads fun allowed => .ite ?_ ih
    exact .bind getPDPState fun state => .ite h.reuseIdleSlot (.bind .reads fun channel => ih)

theorem reuseDefaultBearer (hquery : QueriesPdn cfg socket_id → Keeps R queryAllActivePDNInfos) {type : Line} :
    Keeps R (reuseDefaultBearer cfg socket_id data type) := by
  unfold Data.reuseDefaultBearer
  split
  · refine .bind (hquery (by assumption)) fun _ => .bind .reads fun activePDN => ?_
    exact .ite h.reuseLoop .pure
  · exact .pure

theorem setupRound (hquery : QueriesPdn cfg socket_id → Keeps R queryAllActivePDNInfos) {r : Retry} :
    Keeps R (setupRound cfg socket_id data r) := by
  have hafter : ∀ r ret, Keeps R (afterActivation cfg socket_id data r ret) := by
    intro r ret
    unfold afterActivation
    refine .ite (.ite .pure .pure) (.ite ?_ (.ite ?_ (.ite ?_ (.ite .pure .pure))))
    · exact .bind h.fallback fun up => .ite .pure .pure
    · exact .bind h.updatePDPCid fun _ => .pure
    · exact .bind h.checkFallBack fun _ => .pure
  have hplain : Keeps R (plainActivation cfg socket_id data r) := by
    unfold plainActivation
    refine .bind h.getPDP fun index => .bind getPDPCid fun cid => .ite (.bind h.failCause fun _ => .pure) ?_
    exact .bind h.activeSpeciedCidProcess fun ret => hafter _ ret
  unfold Data.setupRound
  refine .bind (h.contexts local_pdpType) fun _ => .bind h.sim fun _ => .bind (h.reuseDefaultBearer hquery) fun ret => ?_
  exact .ite .pure (.ite .pure (.ite .pure hplain))

theorem switchVolte {on : Bool} : Keeps R (switchVolte cfg socket_id on) := .bind .reads fun _ => .when h.sendCommand

theorem setupRounds (hquery : QueriesPdn cfg socket_id → Keeps R queryAllActivePDNInfos) :
    Keeps R (setupRounds cfg socket_id data) :=
  .bind h.switchVolte fun _ => .iterate fun _ => h.setupRound hquery

/-! ### Deactivation, detach and unsolicited lines -/

theorem deactivateCall {cid : Int} : Keeps R (deactivateCall cfg socket_id cid) := by
  have hcid : ∀ cid, Keeps R (deactivateCid cid) := fun _ => .bind h.send fun _ => h.deact
  unfold Data.deactivateCall
  refine .bind getFallbackCid fun secondaryCid => .bind (hcid cid) fun _ => .bind (.when (hcid secondaryCid)) fun _ => ?_
  exact .bind h.putPDP fun _ => .bind h.putPDP fun _ => h.switchVolte

/-- Without a token the list is only sent up. -/
theorem dataCallListChanged {cid : Int} : Keeps R (requestOrSendDataCallList cfg socket_id cid false) := by
  have hsend : ∀ e calls, Keeps R (sendDataCallList false e calls) := fun _ _ => h.log trivial
  unfold requestOrSendDataCallList
  refine .bind h.send fun cgact => .ite ?_ (hsend _ _)
  split
  · exact hsend _ _
  · refine .bind h.send fun cgdcont => .ite ?_ (hsend _ _)
    refine .bind .reads fun stack => .bind getPDPState fun state => .bind .reads fun g => ?_
    dsimp only
    split
    · exact hsend _ _
    · rw [answerDataCallList, if_neg (by simp)]
      exact hsend _ _

theorem detachFromNetwork : Keeps R (detachFromNetwork cfg socket_id) := by
  have hslots : ∀ is, Keeps R (detachSlots cfg socket_id is) := by
    intro is
    induction is with
    | nil => exact .pure
    | cons i is ih =>
      refine .bind getPDPCid fun _ => .bind getPDPState fun state => .bind (.when ?_) fun _ => ih
      exact .bind h.send fun _ => .bind h.putPDP fun _ => .bind h.deact fun _ => .when h.dataCallListChanged
  have hcard : Keeps R (switchDataCard cfg socket_id) := by
    unfold switchDataCard
    refine .ite .pure (.ite .pure (.ite ?_ (.bind h.send fun _ => .pure)))
    exact .bind h.send fun reply => .ite (.bind h.send fun _ => .pure) .pure
  unfold Data.detachFromNetwork
  exact .ite (.bind (hslots _) fun _ => hcard) (.bind h.send fun _ => .pure)

theorem unsolicited {s : Line} : Keeps R (processDataUnsolicited socket_id s) := by
  have hended : ∀ cid, Keeps R (callEnded socket_id cid) := by
    intro cid
    unfold callEnded closeChannel
    refine .bind .reads fun _ => .bind (.when h.sim) fun _ => .bind .reads fun _ => .bind (.when ?_) fun _ => ?_
    · exact .bind (h.channel fun _ => .inr rfl) fun _ => h.releaseSlot
    · exact h.channel fun _ => .inl rfl
  unfold processDataUnsolicited processCgev processCend
  refine .ite ?_ (.ite ?_ .pure)
  · split
    · exact h.updatePDPCid
    · exact .pure
  · split
    · exact .ite (.bind getPDPState fun _ => .ite (hended _) .pure) .pure
    · exact .pure

end Steps

end UniRil.Data
