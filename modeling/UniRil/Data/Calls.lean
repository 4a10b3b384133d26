import UniRil.Data.Moves
import UniRil.Data.Requests
import UniRil.Lib.Runs

/-!
# Modem resets, and the moves of whole operations
-/

namespace UniRil.Data

open StateRules

/-! ## A modem reset -/

def resetSlots (socket_id : RIL_SOCKET_ID) : List Int → M Unit
  | [] => pure ()
  | i :: is => do
    putPDP socket_id i
    resetSlots socket_id is

def resetSim (socket_id : RIL_SOCKET_ID) : M Unit := do
  modifySim socket_id fun m => { m with s_LTEDetached := false, s_lastPDPFailCause := .PDP_FAIL_ERROR_UNSPECIFIED }
  resetSlots socket_id [0, 1, 2, 3, 4, 5]

def closedChannel : OpenchannelInfo := { cid := -1, state := .CLOSE, pdpState := false, count := 0 }

def onModemReset_Data : M Unit := do
  modifyShared fun g => { g with s_activePDN := 0, s_openchannelCid := -1 }
  resetSim .RIL_SOCKET_1
  resetSim .RIL_SOCKET_2
  modifyShared fun g =>
    { g with
      s_openchannelInfo := fun i => if 0 ≤ i ∧ i < 6 then closedChannel else g.s_openchannelInfo i
      pdp_info := fun i => if 0 ≤ i ∧ i < MAX_PDP_NUM then .init else g.pdp_info i }

inductive Call
  | serve (socket_id : RIL_SOCKET_ID) (op : Op)
  | modemReset

/-- One operation of one SIM, or a reset for all. -/
def call (cfg : Config) (w : World) : Call → World
  | .serve socket_id op => perform cfg w (socket_id, op)
  | .modemReset => (onModemReset_Data { w with log := [] }).2

variable {cfg : Config} {socket_id : RIL_SOCKET_ID} {data : SetupData}

/-! ## The list of data calls -/

theorem movesTo_reportFailure {fb_cid cid : Int} :
    MovesTo socket_id .rest (reportFailure socket_id fb_cid cid) fun _ => .rest :=
  .bind movesTo_release fun _ => .bind movesTo_release fun _ =>
    .bind (movesTo_still still_failCause) fun _ => movesTo_still still_note

theorem movesTo_reportSetup {cid : Int} {c : DataCall} :
    MovesTo socket_id .rest (reportSetup cfg socket_id cid c) fun _ => .rest := by
  unfold reportSetup
  refine .bind (movesTo_still (.ite .pure .reads)) fun fb_cid => .bind (movesTo_still .reads) fun detached => ?_
  refine .ite (fun _ => movesTo_reportFailure) fun _ => .ite (fun _ => ?_) fun _ => movesTo_still still_note
  refine .bind (movesTo_still still_send) fun _ => .bind (movesTo_quiet quiet_deact) fun _ => ?_
  exact movesTo_reportFailure

theorem still_sendDataCallList {hasToken : Bool} {e : RIL_Errno} {calls : List DataCall} :
    Keeps (Still socket_id) (sendDataCallList hasToken e calls) :=
  .ite still_note still_note

theorem movesTo_answerDataCallList {cid : Int} {hasToken : Bool} {n : Nat} {responses : Int → DataCall} :
    MovesTo socket_id .rest (answerDataCallList cfg socket_id cid hasToken n responses) fun _ => .rest := by
  have hclear : MovesTo socket_id .rest (clearSetupMarks socket_id) fun _ => .rest :=
    movesTo_still (still_modifySim fun _ => rfl)
  unfold answerDataCallList
  refine .ite (fun _ => ?_) fun _ => movesTo_still still_sendDataCallList
  split
  · exact .bind movesTo_reportSetup fun _ => hclear
  · exact .bind (movesTo_still (.bind still_failCause fun _ => still_note)) fun _ => hclear

theorem movesTo_requestOrSendDataCallList {cid : Int} {hasToken : Bool} :
    MovesTo socket_id .rest (requestOrSendDataCallList cfg socket_id cid hasToken) fun _ => .rest := by
  unfold requestOrSendDataCallList
  refine .bind (movesTo_still still_send) fun cgact => .ite (fun _ => ?_) fun _ => movesTo_still still_sendDataCallList
  split
  · exact movesTo_still still_sendDataCallList
  · refine .bind (movesTo_still still_send) fun cgdcont => .ite (fun _ => ?_) fun _ => movesTo_still still_sendDataCallList
    refine .bind (movesTo_still .reads) fun stack => .bind (movesTo_still (.ite .pure .reads)) fun state => ?_
    refine .bind (movesTo_still .reads) fun g => ?_
    dsimp only
    split
    · exact movesTo_still still_sendDataCallList
    · exact movesTo_answerDataCallList

/-! ## The ends of a setup -/

theorem movesTo_releaseSlot {index : Int} : MovesTo socket_id .rest (releaseSlot socket_id index) fun _ => .rest :=
  .bind (movesTo_still (.ite .pure .reads)) fun _ => .bind movesTo_release fun _ => movesTo_release

/-! ## Deactivation and detach -/

theorem still_answerDeactivate {hasToken error : Bool} :
    Keeps (Still socket_id) (answerDeactivate socket_id hasToken error) :=
  .bind .reads fun _ => .ite still_note (.ite still_note .pure)

theorem still_deactivateCid {cid : Int} : Keeps (Still socket_id) (deactivateCid cid) :=
  .bind still_send fun _ => still_quiet quiet_deact

theorem movesTo_deactivateCall {cid : Int} :
    MovesTo socket_id .rest (deactivateCall cfg socket_id cid) fun _ => .rest := by
  unfold deactivateCall
  refine .bind (movesTo_still (.ite .pure .reads)) fun secondaryCid => .bind (movesTo_still still_deactivateCid) fun _ => ?_
  refine .bind (movesTo_still (.when still_deactivateCid)) fun _ => .bind movesTo_release fun _ => ?_
  exact .bind movesTo_release fun _ => movesTo_still still_switchVolte

theorem movesTo_deactivate {p_cid : Line} {hasToken : Bool} :
    MovesTo socket_id .rest (deactivateDataConnection cfg socket_id p_cid hasToken) fun _ => .rest := by
  have hanswer : ∀ error, MovesTo socket_id .rest (answerDeactivate socket_id hasToken error) fun _ => .rest :=
    fun _ => movesTo_still still_answerDeactivate
  unfold deactivateDataConnection
  refine .ite (fun _ => hanswer _) fun _ => .bind (movesTo_still (still_setChannel fun c => ?_)) fun _ => ?_
  · split <;> rfl
  · refine .bind (movesTo_still (.ite .pure .reads)) fun state => .ite (fun _ => hanswer _) fun _ => ?_
    refine .bind (movesTo_still .reads) fun count => .ite (fun _ => hanswer _) fun _ => ?_
    exact .bind movesTo_deactivateCall fun _ => hanswer _

theorem movesTo_detachSlots {is : List Int} : MovesTo socket_id .rest (detachSlots cfg socket_id is) fun _ => .rest := by
  induction is with
  | nil => exact .pure rfl
  | cons i is ih =>
    rw [detachSlots]
    refine .bind (movesTo_still (.ite .pure .reads)) fun cid => .bind (movesTo_still (.ite .pure .reads)) fun state => ?_
    refine .bind (.when ?_) fun _ => ih
    refine .bind (movesTo_still still_send) fun _ => .bind movesTo_release fun _ => ?_
    exact .bind (movesTo_quiet quiet_deact) fun _ => .when movesTo_requestOrSendDataCallList

theorem still_switchDataCard : Keeps (Still socket_id) (switchDataCard cfg socket_id) := by
  unfold switchDataCard
  refine .ite .pure (.ite .pure (.ite ?_ (.bind still_send fun _ => .pure)))
  exact .bind still_send fun reply => .ite (.bind still_send fun _ => .pure) .pure

theorem movesTo_detachGPRS {hasToken : Bool} :
    MovesTo socket_id .rest (detachGPRS cfg socket_id hasToken) fun _ => .rest := by
  have hdetach : MovesTo socket_id .rest (detachFromNetwork cfg socket_id) fun _ => .rest := by
    unfold detachFromNetwork
    refine .ite (fun _ => .bind movesTo_detachSlots fun _ => movesTo_still still_switchDataCard) fun _ => ?_
    exact .bind (movesTo_still still_send) fun _ => .pure rfl
  unfold detachGPRS
  refine .ite (fun _ => movesTo_still still_note) fun _ => .bind hdetach fun ok => ?_
  exact .ite (fun _ => .when (movesTo_still still_note)) fun _ => movesTo_still still_note

/-! ## Unsolicited lines and resets -/

theorem movesTo_processCend {s : Line} : MovesTo socket_id .rest (processCend socket_id s) fun _ => .rest := by
  have hclose : ∀ cid, MovesTo socket_id .rest (closeChannel socket_id cid) fun _ => .rest := fun _ =>
    .bind (movesTo_still (still_setChannel fun _ => rfl)) fun _ => movesTo_releaseSlot
  have hended : ∀ cid, MovesTo socket_id .rest (callEnded socket_id cid) fun _ => .rest := by
    intro cid
    unfold callEnded
    refine .bind (movesTo_still .reads) fun _ => .bind (movesTo_still (.when (still_modifySim fun _ => rfl))) fun _ => ?_
    refine .bind (movesTo_still .reads) fun _ => .bind (.when (hclose cid)) fun _ => ?_
    exact movesTo_still (still_setChannel fun _ => rfl)
  unfold processCend
  split
  · refine .ite (fun _ => .bind (movesTo_still (.ite .pure .reads)) fun _ => ?_) fun _ => .pure rfl
    exact .ite (fun _ => hended _) fun _ => .pure rfl
  · exact .pure rfl

theorem movesTo_resetSlots {is : List Int} : MovesTo socket_id .rest (resetSlots socket_id is) fun _ => .rest := by
  induction is with
  | nil => exact .pure rfl
  | cons i is ih => exact .bind movesTo_release fun _ => ih

theorem movesTo_resetSim : MovesTo socket_id .rest (resetSim socket_id) fun _ => .rest :=
  .bind (movesTo_still (still_modifySim fun _ => rfl)) fun _ => movesTo_resetSlots

end UniRil.Data
