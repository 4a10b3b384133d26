import UniRil.Data.Requests

/-!
# What the functions of a SIM depend on

They read the SIM's own cells and the shared tables, and write them, and nothing of the other SIM.
The functions that send commands depend on the answers to come, too.
-/

namespace UniRil.Data

open StateRules AtTok

variable {cfg : Config} {socket_id : RIL_SOCKET_ID} {data : SetupData} {out : Prop}

/-- The SIM sees the same in both worlds, and the outside as well when `out` holds. -/
structure SameView (socket_id : RIL_SOCKET_ID) (out : Prop) (w w' : World) : Prop where
  sim : w.sim socket_id = w'.sim socket_id
  shared : w.shared = w'.shared
  outside : out → w.env = w'.env ∧ w.log = w'.log

/-- The function has the same result in both worlds, and leaves the same to see. -/
abbrev Confined (socket_id : RIL_SOCKET_ID) (out : Prop) {α : Type} (m : M α) : Prop :=
  Agrees (SameView socket_id out) m (SameView socket_id out)

namespace Confined

/-! ## Reads and writes -/

theorem readSim {α : Type} {f : Sim → α} : Confined socket_id out (readSim socket_id f) :=
  .reads fun _ _ h => congrArg f h.sim

theorem readShared {α : Type} {f : Shared → α} : Confined socket_id out (readShared f) :=
  .reads fun _ _ h => congrArg f h.shared

theorem modifySim {f : Sim → Sim} : Confined socket_id out (modifySim socket_id f) := by
  refine fun w w' h => ⟨rfl, ?_, h.shared, h.outside⟩
  show Function.update w.sim socket_id _ socket_id = Function.update w'.sim socket_id _ socket_id
  rw [Function.update_self, Function.update_self, h.sim]

theorem modifyShared {f : Shared → Shared} : Confined socket_id out (modifyShared f) :=
  fun _ _ h => ⟨rfl, h.sim, congrArg f h.shared, h.outside⟩

theorem note {e : Event} : Confined socket_id out (note e) :=
  fun _ _ h => ⟨rfl, h.sim, h.shared, fun hout => ⟨(h.outside hout).1, congrArg (· ++ [e]) (h.outside hout).2⟩⟩

theorem failCause {cause : FailCause} : Confined socket_id out (setFailCause socket_id cause) := modifySim

theorem readStack : Confined socket_id True (reads fun w => w.env.stack) :=
  .reads fun _ _ h => congrArg Env.stack (h.outside trivial).1

theorem send {cmd : AtCommand} : Confined socket_id True (at_send_command cmd) := by
  intro w w' h
  obtain ⟨henv, hlog⟩ := h.outside trivial
  refine ⟨congrArg (fun env : Env => env.next.1.reply) henv, h.sim, h.shared, fun _ => ⟨?_, ?_⟩⟩
  · exact congrArg (fun env : Env => env.next.2) henv
  · exact congrArg (· ++ [.at_send_command cmd]) hlog

theorem sendCommand {cmd : AtCommand} : Confined socket_id True (sendCommand cmd) := .bind send fun _ => .pure

theorem addr {i : Int} : Confined socket_id True (getIPV6Addr i) := by
  intro w w' h
  obtain ⟨henv, hlog⟩ := h.outside trivial
  unfold getIPV6Addr
  rw [← henv]
  split
  · exact ⟨rfl, h⟩
  · exact ⟨rfl, h.sim, h.shared, fun _ => ⟨by rw [henv], hlog⟩⟩
  · exact ⟨rfl, h.sim, congrArg (fun g : Shared => g.setNet i fun n => { n with ipv6_ip := _ }) h.shared,
      fun _ => ⟨by rw [henv], hlog⟩⟩

/-! ## The slots -/

theorem takes {w w' : World} (h : SameView socket_id out w w') (i : Int) :
    SameView socket_id out
      { w.setSim socket_id (·.setPDP i fun p => { p with state := .PDP_BUSY }) with log := w.log ++ [.getPDP i] }
      { w'.setSim socket_id (·.setPDP i fun p => { p with state := .PDP_BUSY }) with
        log := w'.log ++ [.getPDP i] } where
  sim := by
    show Function.update w.sim socket_id _ socket_id = Function.update w'.sim socket_id _ socket_id
    rw [Function.update_self, Function.update_self, h.sim]
  shared := h.shared
  outside hout := ⟨(h.outside hout).1, congrArg (· ++ [.getPDP i]) (h.outside hout).2⟩

theorem getPDP : Confined socket_id out (getPDP cfg socket_id) := by
  intro w w' h
  have hfree : isFree cfg socket_id w = isFree cfg socket_id w' := by
    funext i
    rw [isFree, isFree, h.sim, h.shared]
  unfold Data.getPDP
  rw [← hfree]
  split
  · exact ⟨rfl, h⟩
  · exact ⟨rfl, takes h _⟩

theorem getPDPByIndex {i : Int} : Confined socket_id out (getPDPByIndex socket_id i) := by
  intro w w' h
  unfold Data.getPDPByIndex
  rw [← h.sim]
  split
  · exact ⟨rfl, takes h _⟩
  · exact ⟨rfl, h⟩

theorem putPDP {i : Int} : Confined socket_id out (putPDP socket_id i) :=
  .ite (fun _ => .pure) fun _ => .bind modifySim fun _ => modifyShared

theorem putPDPByIndex {i : Int} : Confined socket_id out (putPDPByIndex socket_id i) :=
  .ite (fun _ => .pure) fun _ => modifySim

theorem updatePDPCid {cid state : Int} : Confined socket_id out (updatePDPCid socket_id cid state) :=
  .ite (fun _ => .pure) fun _ => modifySim

theorem setPDPMapping {i j : Int} : Confined socket_id out (setPDPMapping socket_id i j) :=
  .ite (fun _ => .pure) fun _ => modifySim

theorem getPDPCid {i : Int} : Confined socket_id out (getPDPCid socket_id i) := .ite (fun _ => .pure) fun _ => readSim

theorem getPDPState {i : Int} : Confined socket_id out (getPDPState socket_id i) :=
  .ite (fun _ => .pure) fun _ => readSim

theorem getFallbackCid {i : Int} : Confined socket_id out (getFallbackCid socket_id i) :=
  .ite (fun _ => .pure) fun _ => readSim

theorem releaseSlot {i : Int} : Confined socket_id out (releaseSlot socket_id i) :=
  .bind getFallbackCid fun _ => .bind putPDP fun _ => putPDP

/-! ## One activation -/

theorem deact {cid : Int} : Confined socket_id out (cgact_deact_cmd_rsp cid) := .bind note fun _ => modifyShared

theorem deactivateCid {cid : Int} : Confined socket_id True (deactivateCid cid) := .bind send fun _ => deact

theorem bringUp {p_response : Command.ATResponse} {i : Int} : Confined socket_id True (bringUp p_response i) := by
  have hup : ∀ ipType, Confined socket_id True (upNetInterface i ipType) := by
    intro ipType
    refine .ite (fun _ => .pure) fun _ => .bind addr fun up => .ite (fun _ => .pure) fun _ => ?_
    exact .ite (fun _ => .bind modifyShared fun _ => .pure) fun _ => .pure
  exact .bind readShared fun _ => .bind (hup _) fun _ => .ite (fun _ => .pure) fun _ => .pure

theorem establish {p_response : Command.ATResponse} {pdpIndex cid primaryCid : Int} :
    Confined socket_id True (establish p_response pdpIndex cid primaryCid) := by
  have hdispose : ∀ i j, Confined socket_id True (dispose_data_fallback i j) := by
    intro i j
    refine .ite (fun _ => .pure) fun _ => .bind readShared fun _ => .ite (fun _ => .pure) fun _ => ?_
    exact .bind modifyShared fun _ => .pure
  exact .bind readShared fun _ => .ite (fun _ => .bind (hdispose _ _) fun _ => bringUp) fun _ => .pure

theorem cgdata_rsp {reply : Reply} {pdpIndex primaryCid : Int} :
    Confined socket_id True (cgdata_set_cmd_rsp cfg reply pdpIndex primaryCid) := by
  have hconnected : ∀ p_response cid, Confined socket_id True (connected cfg p_response pdpIndex cid primaryCid) := by
    intro p_response cid
    refine .bind modifyShared fun _ => .bind send fun _ => .ite (fun _ => ?_) fun _ => ?_
    · exact .bind modifyShared fun _ => .bind send fun _ => .ite (fun _ => .pure) fun _ => establish
    · exact .bind modifyShared fun _ => establish
  unfold cgdata_set_cmd_rsp
  split
  · exact .pure
  · refine .ite (fun _ => .pure) fun _ => .bind readShared fun cid => ?_
    split
    · exact hconnected _ _
    · exact .bind modifyShared fun _ => .pure
    · exact .pure

theorem errorHandling {reply : Reply} {cid : Int} :
    Confined socket_id True (errorHandlingForCGDATA socket_id reply cid) := by
  have htimeout : ∀ cid, Confined socket_id True (deactivateAfterTimeout socket_id cid) :=
    fun _ => .bind failCause fun _ => .bind send fun _ => .bind deact fun _ => .pure
  have hcme : ∀ cause, Confined socket_id True (handleCmeError socket_id cause) := by
    intro cause
    refine .ite (fun _ => .pure) fun _ => .ite (fun _ => .pure) fun _ => .ite (fun _ => .pure) fun _ => ?_
    exact .bind failCause fun _ => .pure
  unfold errorHandlingForCGDATA
  split
  · exact .bind failCause fun _ => .ite (fun _ => htimeout _) fun _ => .pure
  · refine .ite (fun _ => .pure) fun _ => .ite (fun _ => ?_) fun _ => ?_
    · split
      · exact hcme _
      · exact .bind failCause fun _ => .pure
    · exact .bind failCause fun _ => .ite (fun _ => htimeout _) fun _ => .pure

theorem sendAuthAndQos {cid : Int} : Confined socket_id True (sendAuthAndQos cfg socket_id data cid) :=
  .bind send fun _ => .bind readSim fun _ => .when sendCommand

theorem sendCgdata {mEther : Bool} {cid primaryCid : Int} :
    Confined socket_id True (sendCgdata cfg socket_id mEther cid primaryCid) :=
  .bind modifyShared fun _ => .bind send fun _ => .bind modifySim fun _ => .bind cgdata_rsp fun _ => errorHandling

theorem activated {cid primaryCid : Int} : Confined socket_id True (activated socket_id cid primaryCid) := by
  have hjoin : Confined socket_id True (joinContexts socket_id cid primaryCid) := by
    refine .bind readShared fun _ => .ite (fun _ => ?_) fun _ => .bind setPDPMapping fun _ => .pure
    exact .bind send fun _ => .bind deact fun _ => .bind putPDP fun _ => .pure
  refine .bind (.ite (fun _ => hjoin) fun _ => .bind updatePDPCid fun _ => .pure) fun _ => ?_
  exact .bind modifySim fun _ => .pure

theorem activeSpeciedCidProcess {cid primaryCid : Int} {pdp_type : Line} :
    Confined socket_id True (activeSpeciedCidProcess cfg socket_id data cid pdp_type primaryCid) := by
  unfold Data.activeSpeciedCidProcess
  refine .bind send fun _ => .bind deact fun _ => .bind send fun _ => .ite (fun _ => ?_) fun _ => ?_
  · refine .bind sendAuthAndQos fun _ => .bind sendCgdata fun _ => .ite (fun _ => ?_) fun _ => activated
    exact .bind putPDP fun _ => .pure
  · exact .bind failCause fun _ => .bind putPDP fun _ => .pure

/-! ## The second context -/

theorem secondContext {pdp_type : Line} {i : Int} :
    Confined socket_id True (secondContext cfg socket_id pdp_type i) := by
  have hcause : Confined socket_id True (getSPACTFBcause socket_id) := by
    refine .bind send fun reply => .ite (fun _ => ?_) fun _ => .bind failCause fun _ => .pure
    split
    · exact .bind failCause fun _ => .pure
    · split <;> exact .pure
  have htype : Confined socket_id True (checkFallBackType cfg socket_id pdp_type i) := by
    refine .bind readShared fun ipType => .ite (fun _ => .bind hcause fun _ => ?_) fun _ => .pure
    refine .ite (fun _ => ?_) fun _ => .pure
    split <;> exact .pure
  exact .ite (fun _ => .pure) fun _ => .ite (fun _ => .bind htype fun _ => .pure) fun _ => .pure

theorem checkFallBack {pdp_type : Line} {i : Int} :
    Confined socket_id True (checkFallBack cfg socket_id data pdp_type i) := by
  refine .bind secondContext fun second => ?_
  cases second with
  | none => exact .pure
  | some second =>
    refine .bind getPDP fun _ => .bind getPDPCid fun _ => .ite (fun _ => .pure) fun _ => ?_
    exact .bind activeSpeciedCidProcess fun _ => .pure

theorem fallback {index : Int} : Confined socket_id True (doIPV4_IPV6_Fallback cfg socket_id index data) := by
  have hsend : Confined socket_id True (sendFallbackCgdata cfg socket_id index) :=
    .bind modifyShared fun _ => .bind send fun _ => .bind cgdata_rsp fun _ => errorHandling
  have hIPV6 : Confined socket_id True (fallbackIPV6 cfg socket_id data) := by
    refine .bind getPDP fun _ => .bind getPDPCid fun _ => .ite (fun _ => .bind failCause fun _ => putPDP) fun _ => ?_
    exact .bind activeSpeciedCidProcess fun _ => .pure
  refine .bind send fun _ => .ite (fun _ => ?_) fun _ => .bind failCause fun _ => .pure
  refine .bind hsend fun _ => .ite (fun _ => .pure) fun _ => ?_
  exact .bind updatePDPCid fun _ => .bind hIPV6 fun _ => .pure

/-! ## A setup request -/

theorem reuseIdleSlot {type : Line} {i ret : Int} :
    Confined socket_id True (reuseIdleSlot cfg socket_id data type i ret) := by
  have hafter : ∀ err, Confined socket_id True (afterReuse cfg socket_id data type i ret err) := by
    intro err
    refine .ite (fun _ => ?_) fun _ => .ite (fun _ => ?_) fun _ => .bind putPDPByIndex fun _ => .pure
    · exact .bind updatePDPCid fun _ => .bind modifyShared fun _ => .bind checkFallBack fun _ => .pure
    · exact .bind updatePDPCid fun _ => .bind putPDPByIndex fun _ => .pure
  refine .bind getPDPByIndex fun _ => .bind deact fun _ => .bind send fun _ => .bind sendAuthAndQos fun _ => ?_
  exact .bind sendCgdata fun err => hafter err

theorem reuseLoop {type : Line} {is : List Int} {ret : Int} :
    Confined socket_id True (reuseLoop cfg socket_id data type is ret) := by
  induction is generalizing ret with
  | nil => exact .pure
  | cons i is ih =>
    rw [Data.reuseLoop]
    refine .bind readShared fun _ => .bind readSim fun _ => .ite (fun _ => ?_) fun _ => ih
    exact .bind getPDPState fun _ => .ite (fun _ => reuseIdleSlot) fun _ => .bind readShared fun _ => ih

theorem reuseDefaultBearer {type : Line} : Confined socket_id True (reuseDefaultBearer cfg socket_id data type) := by
  have hquery : Confined socket_id True queryAllActivePDNInfos := by
    refine .bind modifyShared fun _ => .bind send fun _ => .ite (fun _ => ?_) fun _ => .pure
    exact .bind readStack fun _ => modifyShared
  refine .ite (fun _ => .bind hquery fun _ => .bind readShared fun _ => ?_) fun _ => .pure
  exact .ite (fun _ => reuseLoop) fun _ => .pure

theorem setupRound {r : Retry} : Confined socket_id True (setupRound cfg socket_id data r) := by
  have hafter : ∀ r ret, Confined socket_id True (afterActivation cfg socket_id data r ret) := by
    intro r ret
    refine .ite (fun _ => .ite (fun _ => .pure) fun _ => .pure) fun _ => .ite (fun _ => ?_) fun _ => .ite (fun _ => ?_)
      fun _ => .ite (fun _ => ?_) fun _ => .ite (fun _ => .pure) fun _ => .pure
    · exact .bind fallback fun _ => .ite (fun _ => .pure) fun _ => .pure
    · exact .bind updatePDPCid fun _ => .pure
    · exact .bind checkFallBack fun _ => .pure
  have hplain : Confined socket_id True (plainActivation cfg socket_id data r) := by
    refine .bind getPDP fun _ => .bind getPDPCid fun _ => .ite (fun _ => .bind failCause fun _ => .pure) fun _ => ?_
    exact .bind activeSpeciedCidProcess fun ret => hafter _ ret
  refine .bind modifyShared fun _ => .bind modifySim fun _ => .bind reuseDefaultBearer fun _ => ?_
  exact .ite (fun _ => .pure) fun _ => .ite (fun _ => .pure) fun _ => .ite (fun _ => .pure) fun _ => hplain

theorem switchVolte {on : Bool} : Confined socket_id True (switchVolte cfg socket_id on) :=
  .bind readSim fun _ => .when sendCommand

theorem dataCallList {cid : Int} {hasToken : Bool} :
    Confined socket_id True (requestOrSendDataCallList cfg socket_id cid hasToken) := by
  have hsend : ∀ e calls, Confined socket_id True (sendDataCallList hasToken e calls) :=
    fun _ _ => .ite (fun _ => note) fun _ => note
  have hfailure : ∀ fb_cid, Confined socket_id True (reportFailure socket_id fb_cid cid) :=
    fun _ => .bind putPDP fun _ => .bind putPDP fun _ => .bind failCause fun _ => note
  have hsetup : ∀ call, Confined socket_id True (reportSetup cfg socket_id cid call) := by
    intro call
    refine .bind getFallbackCid fun _ => .bind readSim fun _ => .ite (fun _ => hfailure _) fun _ => ?_
    exact .ite (fun _ => .bind send fun _ => .bind deact fun _ => hfailure _) fun _ => note
  have hanswer : ∀ n responses,
      Confined socket_id True (answerDataCallList cfg socket_id cid hasToken n responses) := by
    intro n responses
    refine .ite (fun _ => ?_) fun _ => hsend _ _
    split
    · exact .bind (hsetup _) fun _ => modifySim
    · exact .bind (.bind failCause fun _ => note) fun _ => modifySim
  refine .bind send fun cgact => .ite (fun _ => ?_) fun _ => hsend _ _
  split
  · exact hsend _ _
  · refine .bind send fun cgdcont => .ite (fun _ => ?_) fun _ => hsend _ _
    refine .bind readStack fun stack => .bind getPDPState fun state => .bind readShared fun g => ?_
    dsimp only
    split
    · exact hsend _ _
    · exact hanswer _ _

theorem requestSetupDataCall : Confined socket_id True (requestSetupDataCall cfg socket_id data) := by
  have hunusable : Confined socket_id True (putUnusablePDPCid socket_id) := modifySim
  refine .bind (.bind switchVolte fun _ => .iterate fun _ => setupRound) fun label => ?_
  match label with
  | some (.done _ index) => exact .bind hunusable fun _ => .bind modifyShared fun _ => dataCallList
  | some (.error index) =>
    refine .bind (.when (.bind releaseSlot fun _ => modifyShared)) fun _ => .bind hunusable fun _ => ?_
    exact .bind readSim fun _ => note
  | none => exact .pure

/-! ## The other operations -/

theorem deactivateDataConnection {p_cid : Line} {hasToken : Bool} :
    Confined socket_id True (deactivateDataConnection cfg socket_id p_cid hasToken) := by
  have hanswer : ∀ error, Confined socket_id True (answerDeactivate socket_id hasToken error) :=
    fun _ => .bind readSim fun _ => .ite (fun _ => note) fun _ => .ite (fun _ => note) fun _ => .pure
  have hcall : ∀ cid, Confined socket_id True (deactivateCall cfg socket_id cid) := by
    intro cid
    refine .bind getFallbackCid fun _ => .bind deactivateCid fun _ => .bind (.when deactivateCid) fun _ => ?_
    exact .bind putPDP fun _ => .bind putPDP fun _ => switchVolte
  refine .ite (fun _ => hanswer _) fun _ => .bind modifyShared fun _ => .bind getPDPState fun _ => ?_
  refine .ite (fun _ => hanswer _) fun _ => .bind readShared fun _ => .ite (fun _ => hanswer _) fun _ => ?_
  exact .bind (hcall _) fun _ => hanswer _

theorem detachGPRS {hasToken : Bool} : Confined socket_id True (detachGPRS cfg socket_id hasToken) := by
  have hslots : ∀ is, Confined socket_id True (detachSlots cfg socket_id is) := by
    intro is
    induction is with
    | nil => exact .pure
    | cons i is ih =>
      refine .bind getPDPCid fun _ => .bind getPDPState fun _ => .bind (.when ?_) fun _ => ih
      exact .bind send fun _ => .bind putPDP fun _ => .bind deact fun _ => .when dataCallList
  have hcard : Confined socket_id True (switchDataCard cfg socket_id) := by
    refine .ite (fun _ => .pure) fun _ => .ite (fun _ => .pure) fun _ => .ite (fun _ => ?_) fun _ => ?_
    · exact .bind send fun _ => .ite (fun _ => .bind send fun _ => .pure) fun _ => .pure
    · exact .bind send fun _ => .pure
  have hnetwork : Confined socket_id True (detachFromNetwork cfg socket_id) :=
    .ite (fun _ => .bind (hslots _) fun _ => hcard) fun _ => .bind send fun _ => .pure
  exact .ite (fun _ => note) fun _ => .bind hnetwork fun _ => .ite (fun _ => .when note) fun _ => note

/-- No command is sent, so that the answers to come do not matter. -/
theorem processDataUnsolicited {s : Line} : Confined socket_id out (processDataUnsolicited socket_id s) := by
  have hended : ∀ cid, Confined socket_id out (callEnded socket_id cid) := by
    intro cid
    refine .bind readSim fun _ => .bind (.when modifySim) fun _ => .bind readShared fun _ => ?_
    refine .bind (.when ?_) fun _ => modifyShared
    exact .bind modifyShared fun _ => releaseSlot
  unfold Data.processDataUnsolicited processCgev processCend
  refine .ite (fun _ => ?_) fun _ => .ite (fun _ => ?_) fun _ => .pure
  · split
    · exact updatePDPCid
    · exact .pure
  · split
    · exact .ite (fun _ => .bind getPDPState fun _ => .ite (fun _ => hended _) fun _ => .pure) fun _ => .pure
    · exact .pure

end Confined

/-! ## One operation -/

/-- What a SIM sees of a world: its own cells and the shared tables. -/
def World.view (socket_id : RIL_SOCKET_ID) (w : World) : Sim × Shared := (w.sim socket_id, w.shared)

/-- An operation of a SIM changes what the SIM sees by what it sees. -/
theorem perform_view {w w' : World} {op : Op} (h : w.view socket_id = w'.view socket_id) :
    (perform cfg w (socket_id, op)).view socket_id = (perform cfg w' (socket_id, op)).view socket_id := by
  have hsim : w.sim socket_id = w'.sim socket_id := congrArg Prod.fst h
  have hshared : w.shared = w'.shared := congrArg Prod.snd h
  have hview : ∀ {out} {m : M Unit}, Confined socket_id out m →
      SameView socket_id out (w.enter op) (w'.enter op) →
      (m (w.enter op)).2.view socket_id = (m (w'.enter op)).2.view socket_id := by
    intro out m hm hsame
    have hafter := (hm _ _ hsame).2
    exact Prod.ext hafter.sim hafter.shared
  have hsame : ∀ {out}, (out → op.env w.env = op.env w'.env) →
      SameView socket_id out (w.enter op) (w'.enter op) :=
    fun henv => ⟨hsim, hshared, fun hout => ⟨henv hout, rfl⟩⟩
  cases op with
  | setupDataCall data env => exact hview Confined.requestSetupDataCall (hsame fun _ => rfl)
  | deactivateDataCall p_cid env => exact hview Confined.deactivateDataConnection (hsame fun _ => rfl)
  | detach hasToken env => exact hview Confined.detachGPRS (hsame fun _ => rfl)
  | dataCallListChanged cid env => exact hview Confined.dataCallList (hsame fun _ => rfl)
  | unsolicited s => exact hview (@Confined.processDataUnsolicited socket_id False s) (hsame False.elim)

end UniRil.Data
