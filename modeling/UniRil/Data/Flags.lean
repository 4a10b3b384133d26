import UniRil.Data.Mapping

/-!
# The flags of the slots (`pdpState`)

A set flag tells the next BIP channel that the data call of the slot is up, so that it need not
wait. The flags are raised at the two labels of a setup.
-/

namespace UniRil.Data

open StateRules

/-! ## Flags that tell the truth -/

/-- The slot whose activation is in progress. -/
def Phase.activating : Phase → Option Int
  | .taken i | .second _ i => some i
  | .rest | .first _ => none

/-- A slot in use has its own cid, unless its activation is in progress. No idle slot has its flag
set, and none that is being activated. -/
structure Truthful (t : Table) (p : Phase) : Prop where
  flags : ∀ i, InRange i → t.flag i = true → (t.slot i).state = .PDP_BUSY
  own : ∀ i, InRange i → (t.slot i).state = .PDP_BUSY → p.activating ≠ some i → (t.slot i).cid = i + 1
  hand : ∀ i, p.activating = some i → t.flag i = false

variable {t t' : Table} {i j : Int} {p q : Phase}

theorem Truthful.unflagged (h : Truthful t p) (hi : InRange i) (hidle : (t.slot i).state = .PDP_IDLE) :
    t.flag i = false := by
  refine Bool.eq_false_iff.2 fun hflag => ?_
  rw [h.flags i hi hflag] at hidle
  cases hidle

/-- A write to one slot, seen through that slot alone. -/
theorem Truthful.setSlot {f : PDPInfo → PDPInfo} (h : Truthful t p)
    (hflag : InRange i → t.flag i = true → (f (t.slot i)).state = .PDP_BUSY)
    (hown : InRange i → (f (t.slot i)).state = .PDP_BUSY → q.activating ≠ some i → (f (t.slot i)).cid = i + 1)
    (hothers : ∀ k ≠ i, q.activating ≠ some k → p.activating ≠ some k)
    (hhand : ∀ k, q.activating = some k → t.flag k = false) : Truthful (t.setSlot i f) q := by
  refine ⟨fun k hk hflagged => ?_, fun k hk hbusy hnot => ?_, hhand⟩
  · by_cases hki : k = i
    · subst hki
      rw [setSlot_self]
      exact hflag hk hflagged
    · rw [setSlot_ne _ _ hki]
      exact h.flags k hk hflagged
  · by_cases hki : k = i
    · subst hki
      rw [setSlot_self] at hbusy ⊢
      exact hown hk hbusy hnot
    · rw [setSlot_ne _ _ hki] at hbusy ⊢
      exact h.own k hk hbusy (hothers k hki hnot)

theorem Truthful.release (h : Truthful t p) (hq : q.activating = none) (hp : ∀ k ≠ i, p.activating ≠ some k) :
    Truthful (t.release i) q := by
  have hflag : (t.release i).flag = Function.update t.flag i false := rfl
  refine ⟨fun k hk hflagged => ?_, fun k hk hbusy _ => ?_, fun k hk => ?_⟩
  · by_cases hki : k = i
    · rw [hflag, hki, Function.update_self] at hflagged
      cases hflagged
    · rw [hflag, Function.update_of_ne hki] at hflagged
      rw [release_state hki]
      exact h.flags k hk hflagged
  · by_cases hki : k = i
    · rw [hki, release_self] at hbusy
      cases hbusy
    · rw [release_state hki] at hbusy
      rw [release_cid hki]
      exact h.own k hk hbusy (hp k hki)
  · rw [hq] at hk
    cases hk

/-- Only slots that were given up are cleared, and these are idle. -/
theorem Truthful.clear (h : Truthful t .rest) : Truthful t.clear .rest := by
  refine ⟨fun k hk hflagged => ?_, fun k hk hbusy hnot => ?_, fun _ hk => nomatch hk⟩
  · rw [(clear_slot t k).2]
    exact h.flags k hk hflagged
  · rw [(clear_slot t k).2] at hbusy
    have hcid := h.own k hk hbusy hnot
    have hkeep : t.clear.slot k = t.slot k := by
      refine if_neg fun hgone => ?_
      obtain ⟨h0, -⟩ := hk
      rw [hcid, UNUSABLE_CID] at hgone
      omega
    rw [hkeep]
    exact hcid

/-- Every move keeps the flags truthful. -/
theorem truthful_move (hmove : Move (p, t) (q, t')) (h : Truthful t p) : Truthful t' q := by
  cases hmove with
  | take hi hidle =>
    refine h.setSlot (fun _ _ => rfl) (fun _ _ hnot => (hnot rfl).elim) (fun _ _ _ => nofun) fun k hk => ?_
    obtain rfl := Option.some.inj hk
    exact h.unflagged hi hidle
  | mark =>
    refine h.setSlot (fun _ hflag => ?_) (fun _ _ hnot => (hnot rfl).elim) (fun _ _ hnot => hnot) h.hand
    rw [h.hand _ rfl] at hflag
    cases hflag
  | putBack =>
    refine h.setSlot (fun _ hflag => ?_) (fun _ hbusy => nomatch hbusy) (fun k hki _ hk => ?_) fun _ hk => nomatch hk
    · rw [h.hand _ rfl] at hflag
      cases hflag
    · exact hki (Option.some.inj hk).symm
  | drop => exact h.release rfl fun k hki hk => hki (Option.some.inj hk).symm
  | record =>
    refine h.setSlot (fun _ hflag => ?_) (fun _ _ _ => rfl) (fun k hki _ hk => ?_) fun _ hk => nomatch hk
    · rw [h.hand _ rfl] at hflag
      cases hflag
    · exact hki (Option.some.inj hk).symm
  | keep => exact ⟨h.flags, h.own, fun _ hk => nomatch hk⟩
  | takeSecond hj hidle =>
    refine h.setSlot (fun _ _ => rfl) (fun _ _ hnot => (hnot rfl).elim) (fun _ _ _ => nofun) fun k hk => ?_
    obtain rfl := Option.some.inj hk
    exact h.unflagged hj hidle
  | join =>
    rename_i i j
    have hfirst : Truthful (t.setSlot i fun s => { s with cid := i + 1, secondary_cid := j + 1, isPrimary := true })
        (.second i j) :=
      h.setSlot (fun hi hflag => h.flags i hi hflag) (fun _ _ _ => rfl) (fun _ _ hnot => hnot) h.hand
    refine hfirst.setSlot (fun _ hflag => ?_) (fun _ _ _ => rfl) (fun k hki _ hk => ?_) fun _ hk => nomatch hk
    · rw [hfirst.hand j rfl] at hflag
      cases hflag
    · exact hki (Option.some.inj hk).symm
  | recordSecond =>
    refine h.setSlot (fun _ hflag => ?_) (fun _ _ _ => rfl) (fun k hki _ hk => ?_) fun _ hk => nomatch hk
    · rw [h.hand _ rfl] at hflag
      cases hflag
    · exact hki (Option.some.inj hk).symm
  | dropSecond => exact h.release rfl fun k hki hk => hki (Option.some.inj hk).symm
  | release hi => exact h.release rfl fun _ _ => nofun
  | markIdle hidle =>
    refine h.setSlot (fun hi hflag => ?_) (fun _ hbusy => ?_) (fun _ _ _ => nofun) fun _ hk => nomatch hk
    · exact h.flags _ hi hflag
    · exact nomatch hidle.symm.trans hbusy
  | clear => exact h.clear

theorem Moves.truthful {socket_id : RIL_SOCKET_ID} {w w' : World} (hmoves : Moves socket_id p w q w')
    (h : Truthful (w.table socket_id) p) : Truthful (w'.table socket_id) q := by
  have hall : ∀ x : Phase × Table, Relation.ReflTransGen Move (p, w.table socket_id) x → Truthful x.2 x.1 := by
    intro x hx
    induction hx with
    | refl => exact h
    | tail _ hmove ih => exact truthful_move hmove ih
  exact hall _ hmoves.moves

/-! ## The flag at the labels -/

def Table.raise (t : Table) (i : Int) : Table := { t with flag := Function.update t.flag i true }

theorem Truthful.raise (h : Truthful t .rest) (hbusy : InRange i → (t.slot i).state = .PDP_BUSY) :
    Truthful (t.raise i) .rest := by
  refine ⟨fun k hk hflag => ?_, h.own, fun _ hk => nomatch hk⟩
  by_cases hki : k = i
  · subst hki
    exact hbusy hk
  · refine h.flags k hk ?_
    rw [← hflag]
    exact (Function.update_of_ne hki _ _).symm

theorem release_raise_slot (t : Table) (i k : Int) : ((t.raise i).release k).slot = (t.release k).slot := by
  unfold Table.release Table.forget Table.raise
  dsimp only
  split <;> rfl

theorem release_raise_self (t : Table) (i : Int) : (t.raise i).release i = t.release i :=
  Table.ext (release_raise_slot t i i) (Function.update_idem _ _ _)

theorem release_raise_ne (t : Table) {i k : Int} (h : k ≠ i) : (t.raise i).release k = (t.release k).raise i :=
  Table.ext (release_raise_slot t i k) (Function.update_comm (Ne.symm h) _ _ _)

/-- A release by a number that may not be one of a slot. -/
def Table.put (t : Table) (i : Int) : Table := if InRange i then t.release i else t

/-- The partner of a slot is released before it. -/
def Table.releaseBoth (t : Table) (i : Int) : Table := (t.put ((t.slot i).secondary_cid - 1)).release i

theorem Truthful.put (h : Truthful t .rest) : Truthful (t.put i) .rest := by
  unfold Table.put
  split
  · exact h.release rfl fun _ _ => nofun
  · exact h

/-- The release of a slot lowers its flag, however it was. -/
theorem Truthful.releaseBoth_raise (h : Truthful t .rest) : Truthful ((t.raise i).releaseBoth i) .rest := by
  have hboth : (t.raise i).releaseBoth i = t.releaseBoth i := by
    have hslot : (t.raise i).slot = t.slot := rfl
    unfold Table.releaseBoth Table.put
    rw [hslot]
    split
    · by_cases hpartner : (t.slot i).secondary_cid - 1 = i
      · rw [hpartner, release_raise_self]
      · rw [release_raise_ne t hpartner, release_raise_self]
    · exact release_raise_self t i
  rw [hboth]
  exact h.put.release rfl fun _ _ => nofun

/-! ## The list that answers a setup -/

variable {cfg : Config} {socket_id : RIL_SOCKET_ID} {data : SetupData} {w w' : World}

/-- The entry that the modem's answers to come make for the call of `cid`. -/
def listedCall (socket_id : RIL_SOCKET_ID) (cid : Int) (w : World) : Option DataCall :=
  let cgact := w.env.next
  let cgdcont := cgact.2.next
  if cgact.1.reply.success ∧ cgdcont.1.reply.success then do
    let calls ← cgactEntries cgact.1.reply.p_intermediates
    let idle := (getPDPState socket_id (cid - 1) w).1 = .PDP_IDLE
    let responses ← cgdcont.1.reply.p_intermediates.foldlM (cgdcontEntry w.shared calls.length cid true idle)
      (responsesOf calls w.env.stack)
    let i ← [0, 1, 2, 3, 4, 5].find? fun i => (responses i).cid = cid
    pure (responses i)
  else none

/-- The call that was set up is listed as down, or the network detached meanwhile. -/
def ListsDown (cfg : Config) (socket_id : RIL_SOCKET_ID) (cid : Int) (w : World) : Prop :=
  ∃ c, listedCall socket_id cid w = some c ∧
    (c.active = 0 ∨ cfg.s_isLTE ∧ (w.sim socket_id).s_LTEDetached)

theorem next_stack (env : Env) : env.next.2.stack = env.stack := by
  unfold Env.next
  split <;> rfl

theorem table_put {i : Int} : (putPDP socket_id i w).2.table socket_id = (w.table socket_id).put i := by
  unfold Table.put
  split
  · rename_i hi
    exact table_putPDP hi
  · rename_i hi
    rw [putPDP, if_pos (by rw [InRange] at hi; omega)]
    rfl

theorem table_reportFailure {fb_cid i : Int} (hi : InRange i) :
    (reportFailure socket_id fb_cid (i + 1) w).2.table socket_id = ((w.table socket_id).put (fb_cid - 1)).release i := by
  have hrest : Keeps (Still socket_id) (do
      setFailCause socket_id .PDP_FAIL_ERROR_UNSPECIFIED
      RIL_onRequestComplete .RIL_E_GENERIC_FAILURE []) :=
    .bind still_failCause fun _ => still_note
  have hstill := hrest (putPDP socket_id (i + 1 - 1) (putPDP socket_id (fb_cid - 1) w).2).2
  refine hstill.table.trans ?_
  rw [Int.add_sub_cancel, table_putPDP hi, table_put]

theorem getFallbackCid_apply (hi : InRange i) :
    getFallbackCid socket_id i w = (((w.table socket_id).slot i).secondary_cid, w) := by
  rw [getFallbackCid, if_neg (by rw [InRange] at hi; omega)]
  rfl

theorem table_releaseSlot (hi : InRange i) :
    (releaseSlot socket_id i w).2.table socket_id = (w.table socket_id).releaseBoth i := by
  unfold releaseSlot
  rw [bind_apply, getFallbackCid_apply hi, bind_apply, table_putPDP hi, table_put]
  rfl

theorem table_reportSetup {c : DataCall} (hi : InRange i) :
    (reportSetup cfg socket_id (i + 1) c w).2.table socket_id =
      if c.active = 0 ∨ cfg.s_isLTE ∧ (w.sim socket_id).s_LTEDetached then (w.table socket_id).releaseBoth i
      else w.table socket_id := by
  unfold reportSetup
  rw [Int.add_sub_cancel, bind_apply, getFallbackCid_apply hi]
  dsimp only
  rw [readSim, reads_bind, if_apply]
  by_cases hdown : c.active = 0
  · rw [if_pos hdown, if_pos (.inl hdown)]
    exact table_reportFailure hi
  · rw [if_neg hdown, if_apply]
    by_cases hdetached : cfg.s_isLTE = true ∧ (w.sim socket_id).s_LTEDetached = true
    · rw [if_pos hdetached, if_pos (.inr hdetached)]
      have htorn : (cgact_deact_cmd_rsp (i + 1) (at_send_command (.CGACT_0 (i + 1)) w).2).2.table socket_id =
          w.table socket_id :=
        (still_deactivateCid w).table
      show (reportFailure socket_id _ (i + 1)
        (cgact_deact_cmd_rsp (i + 1) (at_send_command (.CGACT_0 (i + 1)) w).2).2).2.table socket_id = _
      rw [table_reportFailure hi, htorn]
      rfl
    · rw [if_neg hdetached, if_neg (by simp [hdown, hdetached])]
      exact (still_note w).table

theorem table_answerDataCallList (hi : InRange i) {n : Nat} {responses : Int → DataCall} :
    (answerDataCallList cfg socket_id (i + 1) true n responses w).2.table socket_id =
      match [0, 1, 2, 3, 4, 5].find? fun k : Int => (responses k).cid = i + 1 with
      | some k =>
        if (responses k).active = 0 ∨ cfg.s_isLTE ∧ (w.sim socket_id).s_LTEDetached then (w.table socket_id).releaseBoth i
        else w.table socket_id
      | none => w.table socket_id := by
  have hclear : Keeps (Still socket_id) (clearSetupMarks socket_id) := still_modifySim fun _ => rfl
  have hcid : 0 < i + 1 := by
    have := hi.1
    omega
  unfold answerDataCallList
  rw [if_pos ⟨rfl, hcid⟩]
  cases [0, 1, 2, 3, 4, 5].find? fun k : Int => (responses k).cid = i + 1 with
  | some k => exact (hclear _).table.trans (table_reportSetup hi)
  | none =>
    have hmissing : Keeps (Still socket_id) (do
        reportMissing socket_id
        clearSetupMarks socket_id) :=
      .bind (.bind still_failCause fun _ => still_note) fun _ => hclear
    exact (hmissing w).table

/-- The table after the list: only a call that is listed as down is released. -/
theorem table_list (hi : InRange i) :
    (requestOrSendDataCallList cfg socket_id (i + 1) true w).2.table socket_id =
      match listedCall socket_id (i + 1) w with
      | some c =>
        if c.active = 0 ∨ cfg.s_isLTE ∧ (w.sim socket_id).s_LTEDetached then (w.table socket_id).releaseBoth i
        else w.table socket_id
      | none => w.table socket_id := by
  -- the commands change nothing that is read afterwards
  let sent : World := (at_send_command .CGACT_query w).2
  let asked : World := (at_send_command .CGDCONT_query sent).2
  have hsame : ∀ hasToken e calls, (sendDataCallList hasToken e calls asked).2.table socket_id = w.table socket_id :=
    fun _ _ _ => (still_sendDataCallList _).table
  unfold requestOrSendDataCallList listedCall
  rw [bind_apply, if_apply]
  by_cases hcgact : w.env.next.1.reply.success = true
  · have hsent : (at_send_command .CGACT_query w).1.success = true := hcgact
    have hlines : (at_send_command .CGACT_query w).1.p_intermediates = w.env.next.1.reply.p_intermediates := rfl
    rw [if_pos hsent, hlines]
    cases hcalls : cgactEntries w.env.next.1.reply.p_intermediates with
    | none =>
      simp only [hcalls, Option.bind_eq_bind, Option.bind_none, ite_self]
      exact (still_sendDataCallList _).table
    | some calls =>
      dsimp only
      rw [bind_apply, if_apply]
      by_cases hcgdcont : w.env.next.2.next.1.reply.success = true
      · have hasked : (at_send_command .CGDCONT_query sent).1.success = true := hcgdcont
        rw [if_pos hasked, if_pos ⟨hcgact, hcgdcont⟩]
        simp only [bind_apply, Int.add_sub_cancel, getPDPState_apply hi, hcalls, Option.bind_eq_bind, Option.bind_some]
        have hstack : asked.env.stack = w.env.stack := (next_stack _).trans (next_stack _)
        have hidle : asked.slot socket_id i = w.slot socket_id i := rfl
        have hworld : (at_send_command .CGDCONT_query (at_send_command .CGACT_query w).2).2 = asked := rfl
        have hshared : id asked.shared = w.shared := rfl
        have hlist : (at_send_command .CGDCONT_query (at_send_command .CGACT_query w).2).1.p_intermediates =
            w.env.next.2.next.1.reply.p_intermediates := rfl
        simp only [readShared, reads_apply, hworld, hshared, hlist]
        rw [hstack, hidle]
        generalize List.foldlM (cgdcontEntry w.shared calls.length (i + 1) true
          (decide ((w.slot socket_id i).state = PDPState.PDP_IDLE))) (responsesOf calls w.env.stack)
          w.env.next.2.next.1.reply.p_intermediates = entries
        cases entries with
        | none => exact hsame _ _ _
        | some responses =>
          refine (table_answerDataCallList hi).trans ?_
          rw [Option.bind_some]
          cases [0, 1, 2, 3, 4, 5].find? fun k : Int => (responses k).cid = i + 1 with
          | some k => rfl
          | none => rfl
      · have hasked : ¬ (at_send_command .CGDCONT_query sent).1.success = true := hcgdcont
        rw [if_neg hasked, if_neg fun h => hcgdcont h.2]
        exact hsame _ _ _
  · have hsent : ¬ (at_send_command .CGACT_query w).1.success = true := hcgact
    rw [if_neg hsent, if_neg fun h => hcgact h.1]
    exact (still_sendDataCallList _).table

/-! ## A setup -/

/-- The world in which `setupDone` asks for the list. -/
def World.raised (w : World) (socket_id : RIL_SOCKET_ID) (index : Int) : World :=
  let w := (putUnusablePDPCid socket_id w).2
  { w with
    shared := { w.shared with s_openchannelCid := index + 1 }.setChannel index fun c =>
      { c with count := c.count + 1, pdpState := true } }

theorem setupDone_apply {index : Int} :
    (setupDone cfg socket_id index w).2 =
      (requestOrSendDataCallList cfg socket_id (index + 1) true (w.raised socket_id index)).2 := rfl

theorem raised_flags (g : Shared) (i : Int) (f : OpenchannelInfo → OpenchannelInfo) (hf : ∀ c, (f c).pdpState = true) :
    (fun k => ((g.setChannel i f).s_openchannelInfo k).pdpState) =
      Function.update (fun k => (g.s_openchannelInfo k).pdpState) i true := by
  funext k
  by_cases hk : k = i
  · subst hk
    simp [Shared.setChannel, hf]
  · simp [Shared.setChannel, hk]

theorem table_clear : (putUnusablePDPCid socket_id w).2.table socket_id = (w.table socket_id).clear :=
  table_modifySim rfl rfl

theorem table_raised {index : Int} : (w.raised socket_id index).table socket_id = ((w.table socket_id).clear).raise index := by
  refine Table.ext ?_ ?_
  · show ((putUnusablePDPCid socket_id w).2.table socket_id).slot = _
    rw [table_clear]
    rfl
  · exact raised_flags { w.shared with s_openchannelCid := index + 1 } index
      (fun c => { c with count := c.count + 1, pdpState := true }) fun _ => rfl

theorem cgdcontEntry_congr {g g' : Shared} (hnet : g.net = g'.net) {n : Nat} {cid : Int} {hasToken idle : Bool} :
    cgdcontEntry g n cid hasToken idle = cgdcontEntry g' n cid hasToken idle := by
  funext responses line
  simp only [cgdcontEntry, hnet]

theorem listedCall_raised {index cid : Int} : listedCall socket_id cid (w.raised socket_id index) = listedCall socket_id cid w := by
  have hnet : (w.raised socket_id index).shared.net = w.shared.net := rfl
  have henv : (w.raised socket_id index).env = w.env := rfl
  have hstate : (getPDPState socket_id (cid - 1) (w.raised socket_id index)).1 = (getPDPState socket_id (cid - 1) w).1 := by
    have htable := congrArg Table.slot (@table_raised socket_id w index)
    unfold getPDPState
    split
    · rfl
    · show (((w.raised socket_id index).table socket_id).slot (cid - 1)).state = _
      rw [htable]
      exact (clear_slot (w.table socket_id) (cid - 1)).2
  unfold listedCall
  rw [henv, hstate]
  simp only [cgdcontEntry_congr hnet]

theorem listsDown_raised {index cid : Int} :
    ListsDown cfg socket_id cid (w.raised socket_id index) ↔ ListsDown cfg socket_id cid w := by
  have hdetached : ((w.raised socket_id index).sim socket_id).s_LTEDetached = (w.sim socket_id).s_LTEDetached := by
    show ((putUnusablePDPCid socket_id w).2.sim socket_id).s_LTEDetached = _
    rw [putUnusablePDPCid, modifySim, modify_apply, setSim_self]
  rw [ListsDown, ListsDown, listedCall_raised, hdetached]

theorem table_listsDown (hi : InRange i) (hdown : ListsDown cfg socket_id (i + 1) w) :
    (requestOrSendDataCallList cfg socket_id (i + 1) true w).2.table socket_id = (w.table socket_id).releaseBoth i := by
  obtain ⟨c, hc, h⟩ := hdown
  rw [table_list hi, hc]
  exact if_pos h

theorem table_not_listsDown (hi : InRange i) (hup : ¬ ListsDown cfg socket_id (i + 1) w) :
    (requestOrSendDataCallList cfg socket_id (i + 1) true w).2.table socket_id = w.table socket_id := by
  rw [table_list hi]
  cases hc : listedCall socket_id (i + 1) w with
  | none => rfl
  | some c => exact if_neg fun h => hup ⟨c, hc, h⟩

/-- A setup that raises no flag of an idle slot: it does not fail with a slot in hand, and where it
leaves through `done` without its slot, the list reports the call as down. -/
def HonestSetup (cfg : Config) (socket_id : RIL_SOCKET_ID) (data : SetupData) (w : World) : Prop :=
  match (setupRounds cfg socket_id data w).1 with
  | some (.error i) => ¬ InRange i
  | some (.done .retriesSpent i) => ListsDown cfg socket_id (i + 1) (setupRounds cfg socket_id data w).2
  | some (.done .fallenBack i) => ListsDown cfg socket_id (i + 1) (setupRounds cfg socket_id data w).2
  | _ => True

/-- A set flag belongs to a slot whose data call is established. -/
def TellsTruth (socket_id : RIL_SOCKET_ID) (w : World) : Prop :=
  ∀ i, InRange i → (w.shared.s_openchannelInfo i).pdpState = true → Owned socket_id w i

theorem Truthful.tellsTruth (h : Truthful (w.table socket_id) .rest) : TellsTruth socket_id w := by
  intro i hi hflag
  have hbusy := h.flags i hi hflag
  exact ⟨hbusy, h.own i hi hbusy nofun⟩

/-- The exits of a setup that have lost their slot are those of its own activation. -/
theorem afterActivation_index {k : Retry} {ret : Int} :
    Returns (fun out => ∀ o index, out = .inr (.done o index) → index = k.index) (afterActivation cfg socket_id data k ret) := by
  unfold afterActivation
  refine .ite (.ite (.pure nofun) (.pure fun _ _ h => ?_)) (.ite (.bind fun ok => ?_) (.ite (.bind fun _ => .pure nofun) ?_))
  · cases h
    rfl
  · refine .ite (.pure fun _ _ h => ?_) (.pure nofun)
    cases h
    rfl
  · refine .ite (.bind fun _ => .pure fun _ _ h => ?_) (.ite (.pure nofun) (.pure fun _ _ h => ?_))
    · cases h
      rfl
    · cases h
      rfl

theorem plainActivation_index {k : Retry} {o : Origin} {index : Int}
    (h : (plainActivation cfg socket_id data k w).1 = .inr (.done o index)) : InRange index := by
  unfold plainActivation at h
  rw [takeSlot_apply] at h
  split at h
  · cases h
  · rename_i hindex
    obtain ⟨hi, -⟩ := getPDP_moves hindex
    rw [bind_apply] at h
    rw [afterActivation_index _ o index h]
    exact hi

theorem setupRound_index {k : Retry} {o : Origin} {index : Int} (ho : o ≠ .reused)
    (h : (setupRound cfg socket_id data k w).1 = .inr (.done o index)) : InRange index := by
  unfold setupRound at h
  simp only [bind_apply, if_apply] at h
  split at h
  · cases h
    exact (ho rfl).elim
  · split at h
    · cases h
    · split at h
      · cases h
      · exact plainActivation_index h

/-- The exits through `done` that keep the slot, and those that lose it. -/
theorem done_state {o : Origin} {index : Int} (hrun : setupRounds cfg socket_id data w = (some (.done o index), w')) :
    (o = .activated ∨ o = .reused) ∧ (w'.slot socket_id index).state = .PDP_BUSY ∨
      (o = .retriesSpent ∨ o = .fallenBack) ∧ InRange index ∧ (w'.slot socket_id index).state = .PDP_IDLE := by
  obtain ⟨q, hlast⟩ := setupRounds_eq_some.1 hrun
  have hround := @setupRound_spec cfg socket_id data q.1 q.2
  rw [hlast.last] at hround
  have hrange : o ≠ .reused → InRange index := fun ho => setupRound_index ho (congrArg Prod.fst hlast.last)
  cases o with
  | activated => exact .inl ⟨.inl rfl, hround.1⟩
  | reused =>
    refine .inl ⟨.inr rfl, ?_⟩
    obtain ⟨-, howned⟩ | ⟨-, hbusy, -⟩ := hround
    · exact howned.1
    · exact hbusy
  | retriesSpent => exact .inr ⟨.inl rfl, hrange nofun, hround⟩
  | fallenBack => exact .inr ⟨.inr rfl, hrange nofun, hround⟩

/-- A setup that fails with a slot in hand leaves it idle, with its flag set. -/
theorem table_setupError {index : Int} (hindex : 0 ≤ index) :
    (setupError socket_id index w).2.table socket_id = (((releaseSlot socket_id index w).2.table socket_id).raise index).clear := by
  let released := (releaseSlot socket_id index w).2
  let raised : World := (modifyShared (·.setChannel index fun c => { c with pdpState := true }) released).2
  have hraised : raised.table socket_id = (released.table socket_id).raise index :=
    Table.ext rfl (raised_flags released.shared index (fun c => { c with pdpState := true }) fun _ => rfl)
  have hrest : (setupError socket_id index w).2.table socket_id = (putUnusablePDPCid socket_id raised).2.table socket_id := by
    unfold setupError
    rw [when, if_pos hindex]
    rfl
  rw [hrest, table_clear, hraised]

theorem setupError_none {index : Int} (hindex : ¬ 0 ≤ index) :
    (setupError socket_id index w).2.table socket_id = (w.table socket_id).clear := by
  unfold setupError
  rw [when, if_neg hindex]
  exact table_clear

/-- An honest setup keeps the flags truthful. -/
theorem truthful_setup (h : Truthful (w.table socket_id) .rest) (hC : HonestSetup cfg socket_id data w) :
    Truthful ((requestSetupDataCall cfg socket_id data w).2.table socket_id) .rest := by
  have hrounds := (@movesTo_setupRounds cfg socket_id data w).truthful h
  unfold HonestSetup at hC
  unfold requestSetupDataCall
  rw [bind_apply]
  cases hrun : setupRounds cfg socket_id data w with
  | mk label w' =>
    rw [hrun] at hrounds hC
    match label with
    | none => exact hrounds
    | some (.error index) =>
      show Truthful ((setupError socket_id index w').2.table socket_id) .rest
      by_cases hindex : 0 ≤ index
      · rw [table_setupError hindex]
        have hreleased := (@movesTo_releaseSlot socket_id index w').truthful hrounds
        exact (hreleased.raise fun hi => (hC hi).elim).clear
      · rw [setupError_none hindex]
        exact hrounds.clear
    | some (.done o index) =>
      show Truthful ((setupDone cfg socket_id index w').2.table socket_id) .rest
      rw [setupDone_apply]
      obtain ⟨-, hbusy⟩ | ⟨ho, hi, -⟩ := done_state hrun
      · have hraised : Truthful ((w'.raised socket_id index).table socket_id) .rest := by
          rw [table_raised]
          refine hrounds.clear.raise fun _ => ?_
          rw [(clear_slot _ index).2]
          exact hbusy
        exact (movesTo_requestOrSendDataCallList _).truthful hraised
      · have hdown : ListsDown cfg socket_id (index + 1) w' := by
          rcases ho with rfl | rfl
          · exact hC
          · exact hC
        rw [table_listsDown hi (listsDown_raised.2 hdown), table_raised]
        exact hrounds.clear.releaseBoth_raise

/-- Any other setup leaves an idle slot with its flag set. -/
theorem setup_breaks (hC : ¬ HonestSetup cfg socket_id data w) :
    ¬ TellsTruth socket_id (requestSetupDataCall cfg socket_id data w).2 := by
  have hbreak : ∀ {w' : World} {t : Table} {index : Int}, w'.table socket_id = t → InRange index → t.flag index = true →
      (t.slot index).state = .PDP_IDLE → ¬ TellsTruth socket_id w' := by
    rintro w' t index rfl hi hflag hidle htruth
    have hbusy := (htruth index hi hflag).1
    exact nomatch hidle.symm.trans hbusy
  unfold HonestSetup at hC
  unfold requestSetupDataCall
  rw [bind_apply]
  cases hrun : setupRounds cfg socket_id data w with
  | mk label w' =>
    rw [hrun] at hC
    match label with
    | none => exact (hC trivial).elim
    | some (.error index) =>
      have hi : InRange index := not_not.1 hC
      refine hbreak (table_setupError hi.1) hi (Function.update_self _ _ _) ?_
      rw [(clear_slot _ index).2, table_releaseSlot hi]
      exact congrArg PDPInfo.state (release_self _ index)
    | some (.done o index) =>
      show ¬ TellsTruth socket_id (setupDone cfg socket_id index w').2
      rw [setupDone_apply]
      obtain ⟨ho, -⟩ | ⟨ho, hi, hidle⟩ := done_state hrun
      · rcases ho with rfl | rfl
        · exact (hC trivial).elim
        · exact (hC trivial).elim
      · have hup : ¬ ListsDown cfg socket_id (index + 1) w' := by
          rcases ho with rfl | rfl
          · exact hC
          · exact hC
        refine hbreak ((table_not_listsDown hi (listsDown_raised.not.2 hup)).trans table_raised) hi (Function.update_self _ _ _) ?_
        exact (clear_slot _ index).2.trans hidle

/-! ## Runs of one SIM -/

inductive SimOp
  | setupDataCall (data : SetupData) (env : Env)
  | deactivateDataCall (p_cid : Line) (env : Env)
  | detach (hasToken : Bool) (env : Env)
  | dataCallListChanged (cid : Int) (env : Env)
  | cend (s : Line)
  | modemReset

/-- One operation, with the answers that come while it runs. -/
def serve (cfg : Config) (socket_id : RIL_SOCKET_ID) (w : World) : SimOp → World
  | .setupDataCall data env => (requestSetupDataCall cfg socket_id data { w with env := env, log := [] }).2
  | .deactivateDataCall p_cid env => (deactivateDataConnection cfg socket_id p_cid true { w with env := env, log := [] }).2
  | .detach hasToken env => (detachGPRS cfg socket_id hasToken { w with env := env, log := [] }).2
  | .dataCallListChanged cid env =>
    (requestOrSendDataCallList cfg socket_id cid false { w with env := env, log := [] }).2
  | .cend s => (processCend socket_id s { w with log := [] }).2
  | .modemReset => (onModemReset_Data { w with log := [] }).2

def simStep (cfg : Config) (socket_id : RIL_SOCKET_ID) (w : World) (op : SimOp) : Option World :=
  some (serve cfg socket_id w op)

def Honest (cfg : Config) (socket_id : RIL_SOCKET_ID) (w : World) : SimOp → Prop
  | .setupDataCall data env => HonestSetup cfg socket_id data { w with env := env, log := [] }
  | _ => True

theorem put_idle {k : Int} (h : (t.slot i).state = .PDP_IDLE ∨ k = i ∧ InRange i) : ((t.put k).slot i).state = .PDP_IDLE := by
  unfold Table.put
  by_cases hki : k = i
  · subst hki
    split
    · rw [release_self]
      rfl
    · rename_i hout
      exact h.resolve_right fun h => hout h.2
  · have hidle := h.resolve_right fun h => hki h.1
    split
    · rw [release_state (Ne.symm hki)]
      exact hidle
    · exact hidle

theorem resetSlots_idle {is : List Int} (hi : InRange i)
    (h : i ∈ is ∨ ((w.table socket_id).slot i).state = .PDP_IDLE) :
    (((resetSlots socket_id is w).2.table socket_id).slot i).state = .PDP_IDLE := by
  induction is generalizing w with
  | nil => exact h.resolve_left nofun
  | cons k is ih =>
    rw [resetSlots, bind_apply]
    refine ih ?_
    rw [table_put]
    rcases h with h | hidle
    · rcases List.mem_cons.1 h with rfl | h
      · exact .inr (put_idle (.inr ⟨rfl, hi⟩))
      · exact .inl h
    · exact .inr (put_idle (.inl hidle))

theorem resetSim_idle (hi : InRange i) : (((resetSim socket_id w).2.table socket_id).slot i).state = .PDP_IDLE := by
  refine resetSlots_idle hi (.inl ?_)
  obtain ⟨h0, h6⟩ := hi
  rw [MAX_PDP] at h6
  simp only [List.mem_cons, List.not_mem_nil, or_false]
  omega

theorem resetSim_other {s : RIL_SOCKET_ID} (hs : s ≠ socket_id) : ((resetSim socket_id w).2.sim s) = w.sim s :=
  (@movesTo_resetSim socket_id w).others s hs

/-- A reset leaves all slots idle, and no flag set. -/
theorem reset_truthful : Truthful ((onModemReset_Data w).2.table socket_id) .rest := by
  let start : World := (modifyShared (fun g => { g with s_activePDN := 0, s_openchannelCid := -1 }) w).2
  let first : World := (resetSim .RIL_SOCKET_1 start).2
  let both : World := (resetSim .RIL_SOCKET_2 first).2
  have hidle : ∀ i, InRange i → ((both.table socket_id).slot i).state = .PDP_IDLE := by
    intro i hi
    cases socket_id with
    | RIL_SOCKET_1 =>
      have hother : both.sim .RIL_SOCKET_1 = first.sim .RIL_SOCKET_1 := resetSim_other nofun
      rw [table_slot, hother]
      exact @resetSim_idle i .RIL_SOCKET_1 start hi
    | RIL_SOCKET_2 => exact resetSim_idle hi
  have hflag : ∀ i, InRange i → ((onModemReset_Data w).2.table socket_id).flag i = false := by
    rintro i ⟨h0, h6⟩
    exact congrArg OpenchannelInfo.pdpState (if_pos ⟨h0, h6⟩)
  refine ⟨fun i hi hflagged => ?_, fun i hi hbusy _ => ?_, fun _ hk => nomatch hk⟩
  · rw [hflag i hi] at hflagged
    cases hflagged
  · exact nomatch (hidle i hi).symm.trans hbusy

theorem truthful_serve {op : SimOp} (h : Truthful (w.table socket_id) .rest) (hC : Honest cfg socket_id w op) :
    Truthful ((serve cfg socket_id w op).table socket_id) .rest := by
  cases op with
  | setupDataCall data env => exact truthful_setup h hC
  | deactivateDataCall p_cid env => exact (movesTo_deactivate { w with env := env, log := [] }).truthful h
  | detach hasToken env => exact (movesTo_detachGPRS { w with env := env, log := [] }).truthful h
  | dataCallListChanged cid env =>
    exact (movesTo_requestOrSendDataCallList { w with env := env, log := [] }).truthful h
  | cend s => exact (movesTo_processCend { w with log := [] }).truthful h
  | modemReset => exact reset_truthful

theorem truthful_init (env : Env) : Truthful ((World.init env).table socket_id) .rest :=
  ⟨fun _ _ hflag => (nomatch hflag), fun _ _ hbusy => (nomatch hbusy), fun _ hk => (nomatch hk)⟩

/-! ## The reader of the flags -/

/-- The loop of `requestSetupDataConnection` over the indexes that are left. -/
def findConnection (socket_id : RIL_SOCKET_ID) (data : SetupData) : List Int → M (Option Int)
  | [] => pure none
  | i :: is => do
    let pdn ← readShared fun g => g.s_PDN i
    let state ← getPDPState socket_id i
    if pdn.nCid = i + 1 ∧ state = .PDP_BUSY ∧ isApnEqual data.apn pdn.strApn ∧ isProtocolEqual data.type pdn.strIPType then
      pure (some i)
    else findConnection socket_id data is

inductive Connection
  | refused
  /-- The cid of a data call that was there; `waits` when its flag was not set. -/
  | reused (cid : Int) (waits : Bool)
  | opened (cid : Int)

def reuseConnection (i : Int) : M Connection := do
  let flag ← readShared fun g => (g.s_openchannelInfo i).pdpState
  modifyShared (·.setChannel i fun c => { c with cid := i + 1, state := .REUSE, count := c.count + 1 })
  pure (.reused (i + 1) !flag)

def openConnection (cfg : Config) (socket_id : RIL_SOCKET_ID) (data : SetupData) : M Connection := do
  requestSetupDataCall cfg socket_id data
  let cid ← readShared (·.s_openchannelCid)
  when (0 < cid) (modifyShared (·.setChannel (cid - 1) fun c => { c with cid := cid, state := .OPEN }))
  pure (.opened cid)

/-- The wait for a flag that is not set is over at once here. -/
def requestSetupDataConnection (cfg : Config) (socket_id : RIL_SOCKET_ID) (dataAllowed : Bool) (data : SetupData) :
    M Connection :=
  if dataAllowed = false then pure .refused
  else do
    modifyShared fun g => { g with s_openchannelCid := -1 }
    queryAllActivePDNInfos
    let activePDN ← readShared (·.s_activePDN)
    if 0 < activePDN then
      match ← findConnection socket_id data [0, 1, 2, 3, 4, 5] with
      | some i => reuseConnection i
      | none => openConnection cfg socket_id data
    else openConnection cfg socket_id data

theorem findConnection_spec {is : List Int} (his : ∀ i ∈ is, InRange i)
    (h : (findConnection socket_id data is w).1 = some i) :
    InRange i ∧ ((w.table socket_id).slot i).state = .PDP_BUSY ∧ (findConnection socket_id data is w).2 = w := by
  induction is with
  | nil => cases h
  | cons k is ih =>
    have hk := his k List.mem_cons_self
    replace ih := ih fun j hj => his j (List.mem_cons_of_mem _ hj)
    rw [findConnection, readShared, reads_bind, bind_apply, getPDPState_apply hk, if_apply] at h ⊢
    dsimp only at h ⊢
    split at h
    · rename_i hfits
      rw [if_pos hfits]
      obtain rfl := Option.some.inj h
      exact ⟨hk, hfits.2.1, rfl⟩
    · rename_i hnot
      rw [if_neg hnot]
      exact ih h

theorem openConnection_opened : ∃ cid, (openConnection cfg socket_id data w).1 = .opened cid := ⟨_, rfl⟩

/-- A data call that is handed out without a wait had its flag set. -/
theorem reused_flag {dataAllowed : Bool} {cid : Int}
    (h : (requestSetupDataConnection cfg socket_id dataAllowed data w).1 = .reused cid false) :
    InRange (cid - 1) ∧ (w.shared.s_openchannelInfo (cid - 1)).pdpState = true := by
  let asked : World := (queryAllActivePDNInfos (modifyShared (fun g => { g with s_openchannelCid := -1 }) w).2).2
  have hchannels : asked.shared.s_openchannelInfo = w.shared.s_openchannelInfo :=
    (@quiet_queryAllActivePDNInfos socket_id 0 _).channels
  have hopened : ∀ w', (openConnection cfg socket_id data w').1 ≠ .reused cid false := by
    intro w'
    obtain ⟨c, hc⟩ := @openConnection_opened cfg socket_id data w'
    rw [hc]
    exact nofun
  unfold requestSetupDataConnection at h
  rw [if_apply] at h
  split at h
  · cases h
  · rw [bind_apply, bind_apply, readShared, reads_bind, if_apply] at h
    split at h
    · replace h : ((match (findConnection socket_id data [0, 1, 2, 3, 4, 5] asked).1 with
          | some i => reuseConnection i
          | none => openConnection cfg socket_id data) (findConnection socket_id data [0, 1, 2, 3, 4, 5] asked).2).1 =
          .reused cid false := h
      cases hfound : (findConnection socket_id data [0, 1, 2, 3, 4, 5] asked).1 with
      | none =>
        rw [hfound] at h
        exact (hopened _ h).elim
      | some i =>
        obtain ⟨hi, -, hworld⟩ := findConnection_spec (by simp only [InRange]; decide) hfound
        rw [hfound, hworld] at h
        obtain ⟨rfl, hflag⟩ := Connection.reused.inj h
        rw [Int.add_sub_cancel, ← hchannels]
        exact ⟨hi, Bool.not_eq_false' .. ▸ hflag⟩
    · exact (hopened _ h).elim

/-! ## When the flags tell the truth -/

end UniRil.Data
