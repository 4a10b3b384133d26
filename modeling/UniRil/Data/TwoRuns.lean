import UniRil.Data.Dispatch
import UniRil.Data.OneSim
import UniRil.Data.Rounds
import UniRil.Data.Steps
import UniRil.Lib.TwoRuns

/-!
# Deactivation on one SIM in two runs

Both runs hold the same operations of one SIM; those of the other SIM are arbitrary. A call is
counted by its cid, for both SIMs together.
-/

namespace UniRil.Data

open StateRules AtTok TwoRuns

variable {cfg : Config} {socket_id : RIL_SOCKET_ID} {p_cid : Line}

/-! ## What a deactivation shows -/

/-- AT+CGACT=0, for any cid. -/
def Event.isCGACT_0 : Event → Bool
  | .at_send_command (.CGACT_0 _) => true
  | _ => false

/-- The answers of an operation, and whether it sent AT+CGACT=0. -/
def World.shown (w : World) : List Completion × Bool :=
  (w.log.filterMap Event.completion, w.log.any Event.isCGACT_0)

/-- A deactivation of the SIM shows the same in both states. -/
def ShownAlike (cfg : Config) (socket_id : RIL_SOCKET_ID) (v v' : World × Op) : Prop :=
  match v.2 with
  | .deactivateDataCall _ _ =>
    (perform cfg v.1 (socket_id, v.2)).shown = (perform cfg v'.1 (socket_id, v'.2)).shown
  | _ => True

/-! ## What a deactivation meets -/

/-- The slot of the call is in use. -/
def World.InUse (w : World) (socket_id : RIL_SOCKET_ID) (cid : Int) : Prop :=
  1 ≤ cid ∧ cid ≤ MAX_PDP ∧ ((w.sim socket_id).s_PDP (cid - 1)).state = .PDP_BUSY

/-- The cid is counted at most once, on both SIMs together. -/
def World.CountedOnce (w : World) (cid : Int) : Prop :=
  (w.shared.s_openchannelInfo (cid - 1)).count = 0 ∨ (w.shared.s_openchannelInfo (cid - 1)).count = 1

def World.LastUse (w : World) (socket_id : RIL_SOCKET_ID) (cid : Int) : Prop :=
  w.InUse socket_id cid ∧ w.CountedOnce cid

def World.FurtherUse (w : World) (socket_id : RIL_SOCKET_ID) (cid : Int) : Prop :=
  w.InUse socket_id cid ∧ ¬w.CountedOnce cid

instance (w : World) (cid : Int) : Decidable (w.InUse socket_id cid) :=
  inferInstanceAs (Decidable (1 ≤ cid ∧ cid ≤ MAX_PDP ∧ _))

instance (w : World) (cid : Int) : Decidable (w.CountedOnce cid) := inferInstanceAs (Decidable (_ ∨ _))

instance (w : World) (cid : Int) : Decidable (w.LastUse socket_id cid) := inferInstanceAs (Decidable (_ ∧ _))

instance (w : World) (cid : Int) : Decidable (w.FurtherUse socket_id cid) := inferInstanceAs (Decidable (_ ∧ ¬_))

/-- What the deactivation of `cid` depends on is the same in both states. -/
structure MeetsAlike (socket_id : RIL_SOCKET_ID) (cid : Int) (w w' : World) : Prop where
  present : (w.sim socket_id).s_isSimPresent = (w'.sim socket_id).s_isSimPresent
  lastUse : w.LastUse socket_id cid ↔ w'.LastUse socket_id cid
  furtherUse : (w.sim socket_id).s_isSimPresent = true → (w.FurtherUse socket_id cid ↔ w'.FurtherUse socket_id cid)

/-- The same, at the deactivations of a SIM. -/
def MetAlike (socket_id : RIL_SOCKET_ID) (v v' : World × Op) : Prop :=
  match v.2 with
  | .deactivateDataCall p_cid _ => MeetsAlike socket_id (atoi p_cid) v.1 v'.1
  | _ => True

/-! ## One deactivation -/

/-- No answer was given, and the SIM is as present as before. -/
structure Unanswered (socket_id : RIL_SOCKET_ID) (w w' : World) : Prop where
  log : Logged Event.Silent w w'
  present : (w'.sim socket_id).s_isSimPresent = (w.sim socket_id).s_isSimPresent

instance : IsPreorder World (Unanswered socket_id) where
  refl w := ⟨.refl w, rfl⟩
  trans _ _ _ h h' := ⟨h.log.trans h'.log, h'.present.trans h.present⟩

theorem simPutPDP_present (m : Sim) (i : Int) : (m.putPDP i).s_isSimPresent = m.s_isSimPresent := by
  unfold Sim.putPDP
  simp only [Sim.setPDP]
  split <;> rfl

theorem unanswered_send {cmd : AtCommand} : Keeps (Unanswered socket_id) (at_send_command cmd) :=
  fun _ => ⟨.one rfl trivial, rfl⟩

theorem unanswered_putPDP {i : Int} : Keeps (Unanswered socket_id) (putPDP socket_id i) := by
  have hsim : Keeps (Unanswered socket_id) (modifySim socket_id (·.putPDP i)) := by
    intro w
    refine ⟨.of_eq rfl, ?_⟩
    rw [modifySim, modify_apply, setSim_self]
    exact simPutPDP_present _ _
  unfold putPDP
  exact .ite .pure (.bind hsim fun _ _ => ⟨.of_eq rfl, rfl⟩)

theorem unanswered_deactivateCid {cid : Int} : Keeps (Unanswered socket_id) (deactivateCid cid) :=
  .bind unanswered_send fun _ _ => ⟨.one rfl trivial, rfl⟩

/-- What comes after the first AT+CGACT=0. -/
theorem unanswered_afterDeactivate {cid secondaryCid : Int} :
    Keeps (Unanswered socket_id) (do
      when (secondaryCid ≠ -1) (deactivateCid secondaryCid)
      putPDP socket_id (secondaryCid - 1)
      putPDP socket_id (cid - 1)
      switchVolte cfg socket_id true) := by
  refine .bind (.when unanswered_deactivateCid) fun _ => .bind unanswered_putPDP fun _ => ?_
  refine .bind unanswered_putPDP fun _ => .bind .reads fun _ => .when ?_
  exact .bind unanswered_send fun _ => .pure

theorem deactivateCall_spec {cid : Int} (w : World) :
    Unanswered socket_id w (deactivateCall cfg socket_id cid w).2 ∧
      .at_send_command (.CGACT_0 cid) ∈ (deactivateCall cfg socket_id cid w).2.log := by
  have hfallback : (getFallbackCid socket_id (cid - 1) w).2 = w := by
    unfold getFallbackCid
    split <;> rfl
  rw [deactivateCall, bind_apply, hfallback, bind_apply]
  have hafter := @unanswered_afterDeactivate cfg socket_id cid (getFallbackCid socket_id (cid - 1) w).1
    (deactivateCid cid w).2
  refine ⟨IsTrans.trans _ _ _ (unanswered_deactivateCid w) hafter, ?_⟩
  obtain ⟨es, hes, -⟩ := hafter.log
  rw [hes]
  have hsent : Event.at_send_command (.CGACT_0 cid) ∈ (deactivateCid cid w).2.log := by
    simp [deactivateCid, at_send_command, cgact_deact_cmd_rsp, note, modifyShared]
  exact List.mem_append_left _ hsent

theorem silent_completions {es : List Event} (h : ∀ e ∈ es, e.Silent) : es.filterMap Event.completion = [] := by
  rw [List.filterMap_eq_nil_iff]
  intro e he
  cases e with
  | RIL_onRequestComplete => exact (h _ he).elim
  | _ => rfl

/-- The code of the answer. -/
def deactivateErrno (present error : Bool) : RIL_Errno :=
  if present = false then .RIL_E_INVALID_CALL_ID
  else if error then .RIL_E_GENERIC_FAILURE
  else .RIL_E_SUCCESS

theorem deactivateErrno_eq {present present' error error' : Bool} :
    deactivateErrno present error = deactivateErrno present' error' ↔
      present = present' ∧ (present = true → error = error') := by
  revert present present' error error'
  decide

/-- The end of a deactivation that began in `w`. -/
theorem shown_answerDeactivate {error : Bool} {w w' : World} (hlog : w.log = []) (h : Unanswered socket_id w w') :
    (answerDeactivate socket_id true error w').2.shown =
      ([.complete (deactivateErrno (w.sim socket_id).s_isSimPresent error) .none], w'.log.any Event.isCGACT_0) := by
  have hanswer : (answerDeactivate socket_id true error w').2.log =
      w'.log ++ [.RIL_onRequestComplete (deactivateErrno (w.sim socket_id).s_isSimPresent error) []] := by
    rw [← h.present, answerDeactivate, readSim, reads_bind, deactivateErrno]
    cases (w'.sim socket_id).s_isSimPresent <;> rfl
  obtain ⟨es, hes, hsilent⟩ := h.log
  rw [hlog, List.nil_append] at hes
  rw [World.shown, hanswer, List.filterMap_append, List.any_append, hes, silent_completions hsilent]
  simp [Event.completion, Event.isCGACT_0]

theorem getPDPState_inUse {w : World} {cid : Int} (hcid : 1 ≤ cid) :
    getPDPState socket_id (cid - 1) w = (if w.InUse socket_id cid then .PDP_BUSY else .PDP_IDLE, w) := by
  unfold getPDPState
  by_cases hout : MAX_PDP ≤ cid - 1 ∨ cid - 1 < 0
  · have huse : ¬w.InUse socket_id cid := fun h => by have := h.2.1; omega
    rw [if_pos hout, if_neg huse]
    rfl
  · rw [if_neg hout]
    refine Prod.ext ?_ rfl
    show ((w.sim socket_id).s_PDP (cid - 1)).state = _
    cases hstate : ((w.sim socket_id).s_PDP (cid - 1)).state with
    | PDP_IDLE =>
      have huse : ¬w.InUse socket_id cid := fun h => PDPState.noConfusion (hstate.symm.trans h.2.2)
      rw [if_neg huse]
    | PDP_BUSY => rw [if_pos ⟨hcid, by omega, hstate⟩]

/-- One use of the cid is taken back. -/
def World.uncount (w : World) (cid : Int) : World :=
  { w with shared := w.shared.setChannel (cid - 1) fun c => if 0 < c.count then { c with count := c.count - 1 } else c }

theorem uncount_count {w : World} {cid : Int} :
    ((w.uncount cid).shared.s_openchannelInfo (cid - 1)).count = 0 ↔ w.CountedOnce cid := by
  simp only [World.uncount, Shared.setChannel, Function.update_self, World.CountedOnce]
  split
  · simp only
    omega
  · omega

/-- A deactivation of a valid cid tears the call down when this was its last use. -/
theorem deactivateDataConnection_apply {w : World} (hcid : 1 ≤ atoi p_cid) :
    deactivateDataConnection cfg socket_id p_cid true w =
      (if w.LastUse socket_id (atoi p_cid) then do
        deactivateCall cfg socket_id (atoi p_cid)
        answerDeactivate socket_id true false
      else answerDeactivate socket_id true (decide (w.FurtherUse socket_id (atoi p_cid))))
        (w.uncount (atoi p_cid)) := by
  have hstate := @getPDPState_inUse socket_id (w.uncount (atoi p_cid)) (atoi p_cid) hcid
  have hcount := @uncount_count w (atoi p_cid)
  have huncount : (w.uncount (atoi p_cid)).InUse socket_id (atoi p_cid) ↔ w.InUse socket_id (atoi p_cid) := Iff.rfl
  unfold deactivateDataConnection
  rw [if_neg (by omega), modifyShared, bind_apply, modify_apply, ← World.uncount, bind_apply, hstate]
  by_cases huse : w.InUse socket_id (atoi p_cid)
  · rw [if_pos (huncount.2 huse), if_neg (by simp), readShared, reads_bind]
    by_cases honce : w.CountedOnce (atoi p_cid)
    · rw [if_neg (not_not.2 (hcount.2 honce)), if_pos ⟨huse, honce⟩]
    · rw [if_pos (hcount.not.2 honce), if_neg fun h => honce h.2, decide_eq_true ⟨huse, honce⟩]
  · rw [if_neg (huncount.not.2 huse), if_pos rfl, if_neg fun h => huse h.1, decide_eq_false fun h => huse h.1]

/-- The answer of a deactivation, and whether it tears the call down, from the state it meets. -/
theorem deactivate_shown {w : World} (hlog : w.log = []) :
    (deactivateDataConnection cfg socket_id p_cid true w).2.shown =
      ([.complete (deactivateErrno (w.sim socket_id).s_isSimPresent
          (decide (atoi p_cid < 1 ∨ w.FurtherUse socket_id (atoi p_cid)))) .none],
        decide (w.LastUse socket_id (atoi p_cid))) := by
  by_cases hcid : atoi p_cid < 1
  · have hlast : ¬w.LastUse socket_id (atoi p_cid) := fun h => by have := h.1.1; omega
    rw [deactivateDataConnection, if_pos hcid, shown_answerDeactivate hlog (refl w), hlog, decide_eq_true (.inl hcid),
      decide_eq_false hlast]
    rfl
  · have hcounted : Unanswered socket_id w (w.uncount (atoi p_cid)) := ⟨.of_eq rfl, rfl⟩
    have hlogged : (w.uncount (atoi p_cid)).log = [] := hlog
    rw [deactivateDataConnection_apply (by omega)]
    by_cases hlast : w.LastUse socket_id (atoi p_cid)
    · obtain ⟨hcall, hsent⟩ := @deactivateCall_spec cfg socket_id (atoi p_cid) (w.uncount (atoi p_cid))
      have htorn :
          (deactivateCall cfg socket_id (atoi p_cid) (w.uncount (atoi p_cid))).2.log.any Event.isCGACT_0 = true :=
        List.any_eq_true.2 ⟨_, hsent, rfl⟩
      have hkept : ¬(atoi p_cid < 1 ∨ w.FurtherUse socket_id (atoi p_cid)) := by
        rintro (h | h)
        · exact hcid h
        · exact h.2 hlast.2
      rw [if_pos hlast, bind_apply, shown_answerDeactivate hlog (IsTrans.trans _ _ _ hcounted hcall), htorn,
        decide_eq_true hlast, decide_eq_false hkept]
    · rw [if_neg hlast, shown_answerDeactivate hlog hcounted, hlogged, decide_eq_false hlast]
      simp only [hcid, false_or]
      rfl

/-! ## Two deactivations -/

/-- An invalid cid is refused in both states. -/
theorem refused_iff {w w' : World} {cid : Int} :
    (cid < 1 ∨ w.FurtherUse socket_id cid ↔ cid < 1 ∨ w'.FurtherUse socket_id cid) ↔
      (w.FurtherUse socket_id cid ↔ w'.FurtherUse socket_id cid) := by
  have hvalid : ∀ w : World, w.FurtherUse socket_id cid → ¬cid < 1 := fun w h => by have := h.1.1; omega
  constructor
  · intro h
    constructor
    · exact fun hw => (h.1 (.inr hw)).resolve_left (hvalid w hw)
    · exact fun hw => (h.2 (.inr hw)).resolve_left (hvalid w' hw)
  · exact fun h => or_congr_right h

/-- Two deactivations of a cid show the same when they meet the same. -/
theorem shownAlike_iff {w w' : World} {op : Op} :
    ShownAlike cfg socket_id (w, op) (w', op) ↔ MetAlike socket_id (w, op) (w', op) := by
  cases op with
  | deactivateDataCall p_cid env =>
    have hshown := @deactivate_shown cfg socket_id p_cid (w.enter (.deactivateDataCall p_cid env)) rfl
    have hshown' := @deactivate_shown cfg socket_id p_cid (w'.enter (.deactivateDataCall p_cid env)) rfl
    show World.shown _ = World.shown _ ↔ MeetsAlike socket_id (atoi p_cid) w w'
    rw [perform, perform, Op.code, hshown, hshown']
    simp only [Prod.mk.injEq, List.cons.injEq, Completion.complete.injEq, and_true, deactivateErrno_eq,
      decide_eq_decide]
    constructor
    · rintro ⟨⟨hpresent, hrefused⟩, hlast⟩
      exact ⟨hpresent, hlast, fun h => refused_iff.1 (hrefused h)⟩
    · intro h
      exact ⟨⟨h.present, fun hpresent => refused_iff.2 (h.furtherUse hpresent)⟩, h.lastUse⟩
  | setupDataCall data env => exact Iff.rfl
  | detach hasToken env => exact Iff.rfl
  | dataCallListChanged cid env => exact Iff.rfl
  | unsolicited s => exact Iff.rfl

theorem ShownAlike.shown {w w' : World} {env : Env}
    (h : ShownAlike cfg socket_id (w, .deactivateDataCall p_cid env) (w', .deactivateDataCall p_cid env)) :
    (perform cfg w (socket_id, .deactivateDataCall p_cid env)).shown =
      (perform cfg w' (socket_id, .deactivateDataCall p_cid env)).shown :=
  h

/-- What a deactivation meets is part of what the SIM sees. -/
theorem metAlike_of_view {w w' : World} {op : Op} (h : w.view socket_id = w'.view socket_id) :
    MetAlike socket_id (w, op) (w', op) := by
  have hsim : w.sim socket_id = w'.sim socket_id := congrArg Prod.fst h
  have hshared : w.shared = w'.shared := congrArg Prod.snd h
  have huse : ∀ cid, w.InUse socket_id cid ↔ w'.InUse socket_id cid := fun cid => by rw [World.InUse, hsim]; rfl
  have honce : ∀ cid, w.CountedOnce cid ↔ w'.CountedOnce cid := fun cid => by rw [World.CountedOnce, hshared]; rfl
  cases op with
  | deactivateDataCall p_cid env =>
    exact ⟨congrArg Sim.s_isSimPresent hsim, and_congr (huse _) (honce _),
      fun _ => and_congr (huse _) (not_congr (honce _))⟩
  | setupDataCall data env => trivial
  | detach hasToken env => trivial
  | dataCallListChanged cid env => trivial
  | unsolicited s => trivial

/-! ## Two runs -/

/-- The other SIM comes in through the shared tables alone. -/
theorem metAlike_of_unseen {w : World} {run run' : List (RIL_SOCKET_ID × Op)}
    (hrun : Unseen (perform cfg) socket_id (World.view socket_id) w run)
    (hrun' : Unseen (perform cfg) socket_id (World.view socket_id) w run')
    (h : (run.filter fun a => a.1 = socket_id) = run'.filter fun a => a.1 = socket_id) :
    List.Forall₂ (MetAlike socket_id) (visits (perform cfg) socket_id w run)
      (visits (perform cfg) socket_id w run') :=
  forall₂_of_trace_eq (fun _ _ _ => metAlike_of_view) (trace_eq (fun _ _ _ => perform_view) hrun hrun' h rfl)

theorem deactivations_alike_iff (cfg : Config) (socket_id : RIL_SOCKET_ID) (w : World)
    {run run' : List (RIL_SOCKET_ID × Op)}
    (h : (run.filter fun a => a.1 = socket_id) = run'.filter fun a => a.1 = socket_id) :
    List.Forall₂ (ShownAlike cfg socket_id) (visits (perform cfg) socket_id w run)
        (visits (perform cfg) socket_id w run') ↔
      List.Forall₂ (MetAlike socket_id) (visits (perform cfg) socket_id w run)
        (visits (perform cfg) socket_id w run') :=
  forall₂_visits_iff (fun _ _ _ => shownAlike_iff) h

/-! ### A cid that both SIMs use -/

/-- The call comes up as cid 1 and is listed. -/
def upNetwork : List Answer :=
  [okAnswer, okAnswer, okAnswer, .response (ascii "CONNECT") [],
    .response (ascii "OK") [ascii "+SIPCONFIG: 1,5,\"cmnet\",\"10.0.0.1.255.255.255.0\",\"\",\"8.8.8.8\",\"8.8.4.4\""],
    .response (ascii "OK") [ascii "+CGACT: 1,1"],
    .response (ascii "OK") [ascii "+CGDCONT: 1,\"IP\",\"cmnet\",\"\",0,0"]]

def setsUp : Op := .setupDataCall ipData (envOf upNetwork)

def takesDown : Op := .deactivateDataCall (ascii "1") (envOf [okAnswer])

def alone : List (RIL_SOCKET_ID × Op) := [(.RIL_SOCKET_1, setsUp), (.RIL_SOCKET_1, takesDown)]

def together : List (RIL_SOCKET_ID × Op) :=
  [(.RIL_SOCKET_1, setsUp), (.RIL_SOCKET_2, setsUp), (.RIL_SOCKET_1, takesDown)]

theorem deactivations_alike_iff_shared :
    List.Forall₂ (ShownAlike gsmConfig .RIL_SOCKET_1)
        (visits (perform gsmConfig) .RIL_SOCKET_1 (World.init (envOf [])) alone)
        (visits (perform gsmConfig) .RIL_SOCKET_1 (World.init (envOf [])) together) ↔
      List.Forall₂ (MetAlike .RIL_SOCKET_1)
        (visits (perform gsmConfig) .RIL_SOCKET_1 (World.init (envOf [])) alone)
        (visits (perform gsmConfig) .RIL_SOCKET_1 (World.init (envOf [])) together) :=
  deactivations_alike_iff gsmConfig .RIL_SOCKET_1 (World.init (envOf [])) rfl

/-- The other SIM's call holds the count up: AT+CGACT=0 is not sent. -/
theorem deactivations_differ :
    ¬∀ (cfg : Config) (socket_id : RIL_SOCKET_ID) (env : Env) (run run' : List (RIL_SOCKET_ID × Op)),
      ((run.filter fun a => a.1 = socket_id) = run'.filter fun a => a.1 = socket_id) →
        List.Forall₂ (ShownAlike cfg socket_id) (visits (perform cfg) socket_id (World.init env) run)
          (visits (perform cfg) socket_id (World.init env) run') := by
  intro halike
  let once := perform gsmConfig (World.init (envOf [])) (.RIL_SOCKET_1, setsUp)
  let twice := perform gsmConfig once (.RIL_SOCKET_2, setsUp)
  have hshown : List.Forall₂ (ShownAlike gsmConfig .RIL_SOCKET_1)
      [(World.init (envOf []), setsUp), (once, takesDown)] [(World.init (envOf []), setsUp), (twice, takesDown)] :=
    halike gsmConfig .RIL_SOCKET_1 (envOf []) alone together rfl
  have hlast : (perform gsmConfig once (.RIL_SOCKET_1, takesDown)).shown =
      (perform gsmConfig twice (.RIL_SOCKET_1, takesDown)).shown :=
    ShownAlike.shown (List.forall₂_cons.1 (List.forall₂_cons.1 hshown).2).1
  have hsent : (perform gsmConfig once (.RIL_SOCKET_1, takesDown)).shown.2 = true := by decide +kernel
  have hkept : (perform gsmConfig twice (.RIL_SOCKET_1, takesDown)).shown.2 = false := by decide +kernel
  rw [hlast, hkept] at hsent
  cases hsent

end UniRil.Data
