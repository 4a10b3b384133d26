import UniRil.Data.ErrorHandling
import UniRil.Data.Rounds

/-!
# What a setup request tears down

The log of a request is read from left to right, with the slot that the request has taken last. A
cid is torn down rightly when it is the one of that slot.
-/

namespace UniRil.Data

open StateRules

variable {cfg : Config} {socket_id : RIL_SOCKET_ID} {data : SetupData}

/-- The slot being activated after an event, when it was `active` before. -/
def Event.activating (active : Option Int) : Event → Option Int
  | .getPDP index => some index
  | _ => active

/-- Every cid that is torn down is a valid one, and the one of the slot being activated then. -/
def TearsOwn : Option Int → List Event → Prop
  | _, [] => True
  | active, e :: es =>
    (∀ c ∈ e.tornDown, 1 ≤ c ∧ c ≤ MAX_PDP ∧ active = some (c - 1)) ∧ TearsOwn (e.activating active) es

instance TearsOwn.decidable : (active : Option Int) → (es : List Event) → Decidable (TearsOwn active es)
  | _, [] => .isTrue trivial
  | active, e :: es =>
    have := TearsOwn.decidable (e.activating active) es
    inferInstanceAs (Decidable ((∀ c ∈ e.tornDown, 1 ≤ c ∧ c ≤ MAX_PDP ∧ active = some (c - 1)) ∧ _))

theorem tearsOwn_append {active : Option Int} {es fs : List Event} :
    TearsOwn active (es ++ fs) ↔ TearsOwn active es ∧ TearsOwn (es.foldl Event.activating active) fs := by
  induction es generalizing active with
  | nil => simp [TearsOwn]
  | cons e es ih => rw [List.cons_append, TearsOwn, TearsOwn, ih, List.foldl_cons, and_assoc]

/-- The slot that is being activated stays the same while only `cid` is torn down. -/
theorem activating_onlyTears {cid : Int} {es : List Event} (h : ∀ e ∈ es, e.OnlyTears cid) (active : Option Int) :
    es.foldl Event.activating active = active := by
  induction es with
  | nil => rfl
  | cons e es ih =>
    have hactive : e.activating active = active := by
      have he := h e List.mem_cons_self
      cases e <;> first | rfl | exact he.elim
    rw [List.foldl_cons, hactive, ih fun e he => h e (List.mem_cons_of_mem _ he)]

theorem tearsOwn_onlyTears {index : Int} {es : List Event} (hindex : 0 ≤ index ∧ index < MAX_PDP)
    (h : ∀ e ∈ es, e.OnlyTears (index + 1)) : TearsOwn (some index) es := by
  induction es with
  | nil => trivial
  | cons e es ih =>
    refine ⟨fun c hc => ?_, ?_⟩
    · have he := h e List.mem_cons_self
      have hcid : c = index + 1 := by
        cases e <;> first | exact he c hc | cases hc
      subst hcid
      exact ⟨by omega, by omega, by rw [Int.add_sub_cancel]⟩
    · have hactive := @activating_onlyTears _ [e] (by simpa using h e List.mem_cons_self) (some index)
      rw [List.foldl_cons, List.foldl_nil] at hactive
      rw [hactive]
      exact ih fun e he => h e (List.mem_cons_of_mem _ he)

/-! ## Steps that tear down rightly -/

/-- The log has grown by tear-downs of what was taken since, and no detach was noted. -/
structure Fine (socket_id : RIL_SOCKET_ID) (w w' : World) : Prop where
  log : ∃ es, w'.log = w.log ++ es ∧ ∀ active, TearsOwn active es
  detached : (w.sim socket_id).s_LTEDetached = false → (w'.sim socket_id).s_LTEDetached = false

instance : IsPreorder World (Fine socket_id) where
  refl w := ⟨⟨[], by simp, fun _ => trivial⟩, id⟩
  trans w w' w'' h h' := by
    obtain ⟨es, hes, hown⟩ := h.log
    obtain ⟨fs, hfs, hown'⟩ := h'.log
    refine ⟨⟨es ++ fs, by rw [hfs, hes, List.append_assoc], fun active => ?_⟩, h'.detached ∘ h.detached⟩
    exact tearsOwn_append.2 ⟨hown active, hown' _⟩

/-- Only `cid` was torn down and no slot was taken. -/
structure Tears (socket_id : RIL_SOCKET_ID) (cid : Int) (w w' : World) : Prop where
  log : Logged (Event.OnlyTears cid) w w'
  detached : (w'.sim socket_id).s_LTEDetached = (w.sim socket_id).s_LTEDetached

instance {cid : Int} : IsPreorder World (Tears socket_id cid) where
  refl w := ⟨.refl w, rfl⟩
  trans _ _ _ h h' := ⟨h.log.trans h'.log, h'.detached.trans h.detached⟩

theorem tears_of_quiet {α : Type} {m : M α} {cid : Int} (h : Keeps (Quiet socket_id cid) m) :
    Keeps (Tears socket_id cid) m :=
  h.mono fun _ _ hw => ⟨hw.log, hw.detached⟩

/-- What tears down only `cid`, for every `cid`, tears down nothing. -/
theorem fine_of_tears {α : Type} {m : M α} (h : ∀ cid, Keeps (Tears socket_id cid) m) : Keeps (Fine socket_id) m := by
  intro w
  obtain ⟨⟨es, hes, h0⟩, hdetached⟩ := h 0 w
  obtain ⟨⟨fs, hfs, h1⟩, -⟩ := h 1 w
  obtain rfl : es = fs := List.append_cancel_left (hes.symm.trans hfs)
  refine ⟨⟨es, hes, fun active => ?_⟩, hdetached.trans⟩
  have hnone : ∀ e ∈ es, e.tornDown = none := by
    intro e he
    cases htorn : e.tornDown with
    | none => rfl
    | some c =>
      have hc0 := h0 e he
      have hc1 := h1 e he
      have hc : c = 0 ∧ c = 1 := by
        cases e with
        | getPDP index => exact hc0.elim
        | at_send_command cmd => exact ⟨hc0 c htorn, hc1 c htorn⟩
        | cgact_deact_cmd_rsp cid => exact ⟨hc0 c htorn, hc1 c htorn⟩
        | RIL_onRequestComplete err calls => exact ⟨hc0 c htorn, hc1 c htorn⟩
        | RIL_UNSOL_DATA_CALL_LIST_CHANGED calls => exact ⟨hc0 c htorn, hc1 c htorn⟩
      omega
  clear hes hfs h0 h1
  induction es generalizing active with
  | nil => trivial
  | cons e es ih =>
    refine ⟨fun c hc => ?_, ih _ fun e he => hnone e (List.mem_cons_of_mem _ he)⟩
    rw [hnone e List.mem_cons_self] at hc
    cases hc

theorem fine_of_quiet {α : Type} {m : M α} (h : ∀ cid, Keeps (Quiet socket_id cid) m) : Keeps (Fine socket_id) m :=
  fine_of_tears fun cid => tears_of_quiet (h cid)

/-- A slot is taken, and then only its own cid is torn down. -/
theorem fine_taken {index : Int} {w w' w'' : World} (hindex : 0 ≤ index ∧ index < MAX_PDP)
    (htaken : w'.log = w.log ++ [.getPDP index])
    (hdetached : (w'.sim socket_id).s_LTEDetached = (w.sim socket_id).s_LTEDetached)
    (h : Tears socket_id (index + 1) w' w'') : Fine socket_id w w'' := by
  obtain ⟨es, hes, honly⟩ := h.log
  refine ⟨⟨.getPDP index :: es, by rw [hes, htaken, List.append_assoc]; rfl, fun active => ⟨nofun, ?_⟩⟩, fun hd => ?_⟩
  · exact tearsOwn_onlyTears hindex honly
  · exact (h.detached.trans hdetached).trans hd

/-! ## One activation -/

theorem tears_modifySim {cid : Int} {f : Sim → Sim} (h : ∀ m, (f m).s_LTEDetached = m.s_LTEDetached) :
    Keeps (Tears socket_id cid) (modifySim socket_id f) := by
  intro w
  refine ⟨.of_eq rfl, ?_⟩
  rw [modifySim, modify_apply, setSim_self]
  exact h _

theorem simPutPDP_detached (m : Sim) (i : Int) : (m.putPDP i).s_LTEDetached = m.s_LTEDetached := by
  unfold Sim.putPDP
  simp only [Sim.setPDP]
  split <;> rfl

theorem tears_putPDP {cid index : Int} : Keeps (Tears socket_id cid) (putPDP socket_id index) := by
  unfold putPDP
  refine .ite .pure (.bind (tears_modifySim fun m => simPutPDP_detached m _) fun _ => ?_)
  exact fun w => ⟨.of_eq rfl, rfl⟩

theorem tears_updatePDPCid {cid c state : Int} : Keeps (Tears socket_id cid) (updatePDPCid socket_id c state) :=
  .ite .pure (tears_modifySim fun _ => rfl)

theorem tears_joinContexts {cid primaryCid : Int} :
    Keeps (Tears socket_id cid) (joinContexts socket_id cid primaryCid) := by
  unfold joinContexts
  refine .bind (tears_of_quiet quiet_readShared) fun ipType => .ite ?_ ?_
  · refine .bind (tears_of_quiet (quiet_send (by simp))) fun _ => .bind (tears_of_quiet quiet_deact) fun _ => ?_
    exact .bind tears_putPDP fun _ => .pure
  · exact .bind (.ite .pure (tears_modifySim fun _ => rfl)) fun _ => .pure

theorem tears_activated {cid primaryCid : Int} : Keeps (Tears socket_id cid) (activated socket_id cid primaryCid) := by
  unfold activated
  refine .bind (.ite tears_joinContexts ?_) fun ret => .bind (tears_modifySim fun _ => rfl) fun _ => .pure
  exact .bind tears_updatePDPCid fun _ => .pure

theorem tears_activeSpeciedCidProcess {cid primaryCid : Int} {pdp_type : Line} :
    Keeps (Tears socket_id cid) (activeSpeciedCidProcess cfg socket_id data cid pdp_type primaryCid) := by
  unfold activeSpeciedCidProcess
  refine .bind (tears_of_quiet (quiet_send (by simp))) fun _ => .bind (tears_of_quiet quiet_deact) fun _ => ?_
  refine .bind (tears_of_quiet (quiet_send (by simp))) fun cgdcont => .ite ?_ ?_
  · refine .bind (tears_of_quiet quiet_sendAuthAndQos) fun _ => .bind (tears_of_quiet quiet_sendCgdata) fun ret => ?_
    exact .ite (.bind tears_putPDP fun _ => .pure) tears_activated
  · exact .bind (tears_of_quiet quiet_failCause) fun _ => .bind tears_putPDP fun _ => .pure

/-! ## Contexts that are taken and activated -/

theorem getPDP_log {w : World} (h : (getPDP cfg socket_id w).1 ≠ -1) :
    (getPDP cfg socket_id w).2.log = w.log ++ [.getPDP (getPDP cfg socket_id w).1] ∧
      ((getPDP cfg socket_id w).2.sim socket_id).s_LTEDetached = (w.sim socket_id).s_LTEDetached := by
  unfold getPDP at h ⊢
  split
  · rename_i hnone
    rw [hnone] at h
    exact (h rfl).elim
  · exact ⟨rfl, by simp [Sim.setPDP, World.setSim]⟩

/-- What follows the taking of a slot. -/
theorem fine_getPDP {w w' : World} (hindex : (getPDP cfg socket_id w).1 ≠ -1)
    (h : Tears socket_id ((getPDP cfg socket_id w).1 + 1) (getPDP cfg socket_id w).2 w') : Fine socket_id w w' := by
  have hrange : 1 ≤ (getPDP cfg socket_id w).1 + 1 ∧ (getPDP cfg socket_id w).1 + 1 ≤ MAX_PDP :=
    (getPDP_spec w).range hindex
  obtain ⟨hlog, hdetached⟩ := getPDP_log hindex
  exact fine_taken ⟨by omega, by omega⟩ hlog hdetached h

theorem fine_checkFallBack {pdp_type : Line} {cidIndex : Int} :
    Keeps (Fine socket_id) (checkFallBack cfg socket_id data pdp_type cidIndex) := by
  unfold checkFallBack
  refine .bind (fine_of_quiet fun _ => quiet_secondContext) fun second => ?_
  cases second with
  | none => exact .pure
  | some second =>
    intro w
    simp only
    rw [takeSlot_apply]
    split
    · exact refl w
    · exact fine_getPDP (by assumption) (tears_activeSpeciedCidProcess _)

theorem fine_fallbackIPV6 : Keeps (Fine socket_id) (fallbackIPV6 cfg socket_id data) := by
  intro w
  unfold fallbackIPV6
  rw [takeSlot_apply]
  split
  · exact fine_of_quiet (fun _ => quiet_failCause) w
  · exact fine_getPDP (by assumption) (tears_activeSpeciedCidProcess _)

/-! ## Reuse of a default bearer -/

theorem tears_putPDPByIndex {cid i : Int} : Keeps (Tears socket_id cid) (putPDPByIndex socket_id i) :=
  .ite .pure (tears_modifySim fun _ => rfl)

theorem fine_afterReuse {type : Line} {i ret cgdata_err : Int} :
    Keeps (Fine socket_id) (afterReuse cfg socket_id data type i ret cgdata_err) := by
  have hupdate : ∀ state, Keeps (Fine socket_id) (updatePDPCid socket_id (i + 1) state) :=
    fun _ => fine_of_tears fun _ => tears_updatePDPCid
  have hput : Keeps (Fine socket_id) (putPDPByIndex socket_id i) := fine_of_tears fun _ => tears_putPDPByIndex
  unfold afterReuse
  refine .ite (.bind (hupdate _) fun _ => .bind (fine_of_quiet fun _ => quiet_modifyShared fun _ => rfl) fun _ => ?_) ?_
  · exact .bind fine_checkFallBack fun _ => .pure
  · exact .ite (.bind (hupdate _) fun _ => .bind hput fun _ => .pure) (.bind hput fun _ => .pure)

theorem fine_reuseIdleSlot {type : Line} {i ret : Int} (hi : 0 ≤ i ∧ i < MAX_PDP) {w : World}
    (hidle : (w.slot socket_id i).state = .PDP_IDLE) :
    Fine socket_id w (reuseIdleSlot cfg socket_id data type i ret w).2 := by
  have htaken : (getPDPByIndex socket_id i w).2.log = w.log ++ [.getPDP i] ∧
      ((getPDPByIndex socket_id i w).2.sim socket_id).s_LTEDetached = (w.sim socket_id).s_LTEDetached := by
    rw [getPDPByIndex, if_pos ⟨hi.1, hi.2, hidle⟩]
    exact ⟨rfl, by simp [Sim.setPDP, World.setSim]⟩
  -- up to the answer only the own cid is torn down
  have hactivate : Keeps (Tears socket_id (i + 1)) (do
      cgact_deact_cmd_rsp (i + 1)
      let _ ← at_send_command (.CGDCONT (i + 1) type data.apn)
      sendAuthAndQos cfg socket_id data (i + 1)
      sendCgdata cfg socket_id true (i + 1) 0) := by
    refine .bind (tears_of_quiet quiet_deact) fun _ => .bind (tears_of_quiet (quiet_send (by simp))) fun _ => ?_
    exact .bind (tears_of_quiet quiet_sendAuthAndQos) fun _ => tears_of_quiet quiet_sendCgdata
  exact IsTrans.trans _ _ _ (fine_taken hi htaken.1 htaken.2 (hactivate _)) (fine_afterReuse _)

theorem fine_reuseLoop {type : Line} {is : List Int} (his : ∀ i ∈ is, 0 ≤ i ∧ i < MAX_PDP) (ret : Int) :
    Keeps (Fine socket_id) (reuseLoop cfg socket_id data type is ret) := by
  induction is generalizing ret with
  | nil => exact .pure
  | cons i is ih =>
    have hi := his i List.mem_cons_self
    replace ih := ih fun j hj => his j (List.mem_cons_of_mem _ hj)
    intro w
    rw [reuseLoop, readShared, reads_bind, readSim, reads_bind, if_apply]
    split
    · rw [bind_apply, getPDPState_apply hi]
      simp only [if_apply]
      split
      · exact fine_reuseIdleSlot hi (by assumption)
      · rw [readShared, reads_bind]
        exact ih _ w
    · exact ih ret w

theorem fine_reuseDefaultBearer {type : Line} :
    Keeps (Fine socket_id) (reuseDefaultBearer cfg socket_id data type) := by
  unfold reuseDefaultBearer
  refine .ite (.bind (fine_of_quiet fun _ => quiet_queryAllActivePDNInfos) fun _ => ?_) .pure
  exact .bind .reads fun _ => .ite (fine_reuseLoop (by decide) _) .pure

/-! ## The fallback to two contexts -/

/-- The fallback that starts here has its AT+CGDCONT accepted and its AT+CGDATA given up. -/
def Env.GivesUp (env : Env) : Prop := env.next.1.reply.success = true ∧ env.next.2.next.1.givesUp = true

/-- The cid `index` was torn down and not `index + 1`, which alone was torn down before. -/
structure TornWrong (socket_id : RIL_SOCKET_ID) (index : Int) (w w' : World) : Prop where
  log : ∃ es, w'.log = w.log ++ (es ++ tearDown index) ∧ ∀ e ∈ es, e.OnlyTears (index + 1)
  detached : (w'.sim socket_id).s_LTEDetached = (w.sim socket_id).s_LTEDetached

theorem TornWrong.after {index : Int} {w w' w'' : World} (h : Tears socket_id (index + 1) w w')
    (hw : TornWrong socket_id index w' w'') : TornWrong socket_id index w w'' := by
  obtain ⟨es, hes, honly⟩ := h.log
  obtain ⟨fs, hfs, honly'⟩ := hw.log
  refine ⟨⟨es ++ fs, by rw [hfs, hes]; simp only [List.append_assoc], fun e he => ?_⟩, hw.detached.trans h.detached⟩
  rcases List.mem_append.1 he with he | he
  · exact honly e he
  · exact honly' e he

/-- The error handler gets the index: it tears down the wrong cid, or none. -/
theorem sendFallbackCgdata_spec {index : Int} (hindex : 0 ≤ index ∧ index < MAX_PDP) (w : World) :
    if w.env.next.1.givesUp then
      (sendFallbackCgdata cfg socket_id index w).1 = DATA_ACTIVE_FAILED ∧
        TornWrong socket_id index w (sendFallbackCgdata cfg socket_id index w).2
    else Tears socket_id (index + 1) w (sendFallbackCgdata cfg socket_id index w).2 := by
  let sent : Reply × World :=
    at_send_command (.CGDATA cfg.s_isLTE (index + 1) 0) (cgdata_set_cmd_req (index + 1) w).2
  let answered : (Int × Reply) × World := cgdata_set_cmd_rsp cfg sent.1 index 0 sent.2
  have hcid : (sent.2.shared.pdp_info index).cid = index + 1 := by
    simp [sent, at_send_command, cgdata_set_cmd_req, modifyShared, Shared.setInfo]
  have hanswered : Tears socket_id (index + 1) w answered.2 := by
    refine IsTrans.trans _ _ _ (tears_of_quiet (@quiet_cgdata_req socket_id _ (index + 1)) w) ?_
    refine IsTrans.trans _ _ _ (tears_of_quiet (@quiet_send socket_id _ (.CGDATA cfg.s_isLTE (index + 1) 0) (by simp)) _) ?_
    have hquiet : Quiet socket_id (index + 1) sent.2 answered.2 := quiet_cgdata_rsp hcid
    exact ⟨hquiet.log, hquiet.detached⟩
  have hgave : answered.1.2.gaveUp = w.env.next.1.givesUp := cgdata_rsp_gaveUp ⟨hindex.1, by
    have := hindex.2
    rw [MAX_PDP] at this
    rw [MAX_PDP_NUM]
    omega⟩ sent.2
  have hrun : sendFallbackCgdata cfg socket_id index w = errorHandlingForCGDATA socket_id answered.1.2 index answered.2 :=
    rfl
  rw [hrun]
  split
  · rename_i hgives
    have htorn := @errorHandling_gaveUp socket_id _ (hgave.trans hgives) index answered.2
    exact ⟨htorn.failed, .after hanswered ⟨⟨[], htorn.log, by simp⟩, htorn.detached⟩⟩
  · rename_i hgives
    refine IsTrans.trans _ _ _ hanswered (tears_of_quiet (quiet_errorHandling_of_not_gaveUp ?_) _)
    rw [hgave]
    exact Bool.of_not_eq_true hgives

theorem fallback_spec {index : Int} (hindex : 0 ≤ index ∧ index < MAX_PDP) (w : World) :
    (w.env.GivesUp → (doIPV4_IPV6_Fallback cfg socket_id index data w).1 = false ∧
      TornWrong socket_id index w (doIPV4_IPV6_Fallback cfg socket_id index data w).2) ∧
    (¬ w.env.GivesUp → ∃ w', Tears socket_id (index + 1) w w' ∧
      Fine socket_id w' (doIPV4_IPV6_Fallback cfg socket_id index data w).2) := by
  let cgdcont : Reply × World := at_send_command (.CGDCONT (index + 1) (ascii "IP") data.apn) w
  have hsent : Tears socket_id (index + 1) w cgdcont.2 := tears_of_quiet (quiet_send (by simp)) w
  have hspec := @sendFallbackCgdata_spec cfg socket_id index hindex cgdcont.2
  unfold doIPV4_IPV6_Fallback
  simp only [bind_apply, if_apply]
  by_cases hok : cgdcont.1.success = true
  · rw [if_pos hok]
    by_cases hgives : cgdcont.2.env.next.1.givesUp = true
    · rw [if_pos hgives] at hspec
      obtain ⟨hfailed, htorn⟩ := hspec
      have hne : (sendFallbackCgdata cfg socket_id index cgdcont.2).1 ≠ DATA_ACTIVE_SUCCESS := by
        rw [hfailed]
        decide
      rw [if_pos hne]
      exact ⟨fun _ => ⟨rfl, htorn.after hsent⟩, fun hnot => (hnot ⟨hok, hgives⟩).elim⟩
    · rw [if_neg hgives] at hspec
      refine ⟨fun h => (hgives h.2).elim, fun _ => ⟨_, IsTrans.trans _ _ _ hsent hspec, ?_⟩⟩
      split
      · exact refl _
      · exact IsTrans.trans _ _ _ (fine_of_tears (fun _ => tears_updatePDPCid) _) (fine_fallbackIPV6 _)
  · rw [if_neg hok]
    refine ⟨fun h => (hok h.1).elim, fun _ => ⟨_, hsent, ?_⟩⟩
    exact fine_of_quiet (fun _ => quiet_failCause) _

/-! ## One round -/

/-- The log has grown by events that tear down a cid wrongly, whatever was taken before. -/
structure Wrong (socket_id : RIL_SOCKET_ID) (w w' : World) : Prop where
  log : ∃ es, w'.log = w.log ++ es ∧ ∀ active, ¬ TearsOwn active es
  detached : (w.sim socket_id).s_LTEDetached = false → (w'.sim socket_id).s_LTEDetached = false

theorem Wrong.after {w w' w'' : World} (h : Fine socket_id w w') (hw : Wrong socket_id w' w'') :
    Wrong socket_id w w'' := by
  obtain ⟨es, hes, -⟩ := h.log
  obtain ⟨fs, hfs, hwrong⟩ := hw.log
  refine ⟨⟨es ++ fs, by rw [hfs, hes, List.append_assoc], fun active hown => ?_⟩, hw.detached ∘ h.detached⟩
  exact hwrong _ (tearsOwn_append.1 hown).2

theorem Wrong.before {w w' w'' : World} (hw : Wrong socket_id w w') (h : Fine socket_id w' w'') :
    Wrong socket_id w w'' := by
  obtain ⟨es, hes, hwrong⟩ := hw.log
  obtain ⟨fs, hfs, -⟩ := h.log
  refine ⟨⟨es ++ fs, by rw [hfs, hes, List.append_assoc], fun active hown => ?_⟩, h.detached ∘ hw.detached⟩
  exact hwrong _ (tearsOwn_append.1 hown).1

/-- The cid `index` is not the one of the slot `index`. -/
theorem wrong_taken {index : Int} {w w' w'' : World} (htaken : w'.log = w.log ++ [.getPDP index])
    (hdetached : (w'.sim socket_id).s_LTEDetached = (w.sim socket_id).s_LTEDetached)
    (h : TornWrong socket_id index w' w'') : Wrong socket_id w w'' := by
  obtain ⟨es, hes, honly⟩ := h.log
  refine ⟨⟨.getPDP index :: (es ++ tearDown index), by rw [hes, htaken, List.append_assoc]; rfl, fun active hown => ?_⟩,
    fun hd => (h.detached.trans hdetached).trans hd⟩
  have htorn := (tearsOwn_append.1 hown.2).2.1 index rfl
  rw [activating_onlyTears honly] at htorn
  have hsame : index = index - 1 := Option.some.inj htorn.2.2
  omega

/-- A round that takes a slot of its own comes to `doIPV4_IPV6_Fallback`, in the state `w'`. -/
structure FallsBack (cfg : Config) (socket_id : RIL_SOCKET_ID) (data : SetupData) (w w' : World) : Prop where
  slot : (getPDP cfg socket_id w).1 ≠ -1
  answered : activeSpeciedCidProcess cfg socket_id data ((getPDP cfg socket_id w).1 + 1) data.type 0
    (getPDP cfg socket_id w).2 = (DATA_ACTIVE_NEED_FALLBACK, w')

/-- What comes after the activation, unless it is the fallback. -/
theorem fine_afterActivation {r : Retry} {ret : Int} (hret : ret ≠ DATA_ACTIVE_NEED_FALLBACK) :
    Keeps (Fine socket_id) (afterActivation cfg socket_id data r ret) := by
  unfold afterActivation
  refine .ite (.ite .pure .pure) ?_
  rw [if_neg hret]
  refine .ite (.bind (fine_of_tears fun _ => tears_updatePDPCid) fun _ => .pure) (.ite ?_ (.ite .pure .pure))
  exact .bind fine_checkFallBack fun _ => .pure

theorem plainActivation_wrong {r : Retry} {w w₁ : World} (h : FallsBack cfg socket_id data w w₁)
    (hgives : w₁.env.GivesUp) :
    (∃ l, (plainActivation cfg socket_id data r w).1 = .inr l) ∧
      Wrong socket_id w (plainActivation cfg socket_id data r w).2 := by
  have hrange := (getPDP_spec w).range h.slot
  obtain ⟨hlog, hdetached⟩ := getPDP_log h.slot
  have hactive := @tears_activeSpeciedCidProcess cfg socket_id data ((getPDP cfg socket_id w).1 + 1) 0 data.type
      (getPDP cfg socket_id w).2
  rw [h.answered] at hactive
  obtain ⟨hfalse, htorn⟩ := (@fallback_spec cfg socket_id data (getPDP cfg socket_id w).1 (by omega) w₁).1 hgives
  unfold plainActivation
  rw [takeSlot_apply, if_neg h.slot, bind_apply, h.answered]
  have hne : DATA_ACTIVE_NEED_FALLBACK ≠ DATA_ACTIVE_NEED_RETRY := by decide
  unfold afterActivation
  rw [if_neg hne, if_pos rfl, bind_apply, hfalse]
  exact ⟨⟨_, rfl⟩, wrong_taken hlog hdetached (htorn.after hactive)⟩

theorem plainActivation_fine {r : Retry} {w : World}
    (h : ∀ w₁, FallsBack cfg socket_id data w w₁ → ¬ w₁.env.GivesUp) :
    Fine socket_id w (plainActivation cfg socket_id data r w).2 := by
  unfold plainActivation
  rw [takeSlot_apply]
  split
  · exact fine_of_quiet (fun _ => quiet_failCause) w
  · rename_i hslot
    have hrange := (getPDP_spec w).range hslot
    have hactive := @tears_activeSpeciedCidProcess cfg socket_id data ((getPDP cfg socket_id w).1 + 1) 0 data.type
      (getPDP cfg socket_id w).2
    rw [bind_apply]
    by_cases hret : (activeSpeciedCidProcess cfg socket_id data ((getPDP cfg socket_id w).1 + 1) data.type 0
        (getPDP cfg socket_id w).2).1 = DATA_ACTIVE_NEED_FALLBACK
    · obtain ⟨w₂, htears, hfine⟩ := (@fallback_spec cfg socket_id data (getPDP cfg socket_id w).1 (by omega) _).2
        (h _ ⟨hslot, Prod.ext hret rfl⟩)
      rw [hret]
      unfold afterActivation
      rw [if_neg (by decide), if_pos rfl, bind_apply, if_apply]
      refine IsTrans.trans _ _ _ (fine_getPDP hslot (IsTrans.trans _ _ _ hactive htears)) ?_
      split
      · exact hfine
      · exact hfine
    · exact IsTrans.trans _ _ _ (fine_getPDP hslot hactive) (fine_afterActivation hret _)

/-- The steps of a round before it takes a slot of its own. -/
def prepareRound (cfg : Config) (socket_id : RIL_SOCKET_ID) (data : SetupData) : M Int := do
  modifyShared fun g => { g with s_pdpType := pdpTypeOf data.type }
  modifySim socket_id fun m => { m with s_LTEDetached := false }
  reuseDefaultBearer cfg socket_id data data.type

theorem prepareRound_fine (w : World) :
    Fine socket_id w (prepareRound cfg socket_id data w).2 ∧
      ((prepareRound cfg socket_id data w).2.sim socket_id).s_LTEDetached = false := by
  let marked : World := { w with shared := { w.shared with s_pdpType := pdpTypeOf data.type } }.setSim socket_id
    fun m => { m with s_LTEDetached := false }
  have hmarked : (marked.sim socket_id).s_LTEDetached = false := by simp [marked]
  have hstart : Fine socket_id w marked := ⟨⟨[], by simp [marked, World.setSim], fun _ => trivial⟩, fun _ => hmarked⟩
  have hfine : Fine socket_id marked (prepareRound cfg socket_id data w).2 := fine_reuseDefaultBearer marked
  exact ⟨IsTrans.trans _ _ _ hstart hfine, hfine.detached hmarked⟩

/-- The round takes a slot of its own, and the fallback it comes to is given up by the modem. -/
structure GivenUpIn (cfg : Config) (socket_id : RIL_SOCKET_ID) (data : SetupData) (q : Retry × World) : Prop where
  notReused : ¬ 0 < (prepareRound cfg socket_id data q.2).1
  noError : (prepareRound cfg socket_id data q.2).1 ≠ -3
  noRetry : ¬((prepareRound cfg socket_id data q.2).1 = -2 ∧ q.1.nRetryTimes < 5)
  fallsBack : ∃ w', FallsBack cfg socket_id data (prepareRound cfg socket_id data q.2).2 w' ∧ w'.env.GivesUp

theorem setupRound_eq (r : Retry) :
    setupRound cfg socket_id data r = (do
      let ret ← prepareRound cfg socket_id data
      if 0 < ret then pure (.inr (.done .reused (ret - 1)))
      else if ret = -3 then pure (.inr (.error r.index))
      else if ret = -2 ∧ r.nRetryTimes < 5 then pure (.inl { r with nRetryTimes := r.nRetryTimes + 1 })
      else plainActivation cfg socket_id data r) :=
  rfl

theorem setupRound_wrong {q : Retry × World} (h : GivenUpIn cfg socket_id data q) :
    (∃ l, (setupRound cfg socket_id data q.1 q.2).1 = .inr l) ∧
      Wrong socket_id q.2 (setupRound cfg socket_id data q.1 q.2).2 ∧
      ((setupRound cfg socket_id data q.1 q.2).2.sim socket_id).s_LTEDetached = false := by
  obtain ⟨w₁, hfalls, hgives⟩ := h.fallsBack
  obtain ⟨hlast, hwrong⟩ := @plainActivation_wrong cfg socket_id data q.1 _ _ hfalls hgives
  obtain ⟨hprepared, hdetached⟩ := @prepareRound_fine cfg socket_id data q.2
  rw [setupRound_eq, bind_apply, if_neg h.notReused, if_neg h.noError, if_neg h.noRetry]
  exact ⟨hlast, hwrong.after hprepared, hwrong.detached hdetached⟩

theorem setupRound_fine {q : Retry × World} (h : ¬ GivenUpIn cfg socket_id data q) :
    Fine socket_id q.2 (setupRound cfg socket_id data q.1 q.2).2 ∧
      ((setupRound cfg socket_id data q.1 q.2).2.sim socket_id).s_LTEDetached = false := by
  obtain ⟨hprepared, hdetached⟩ := @prepareRound_fine cfg socket_id data q.2
  have hafter : Fine socket_id (prepareRound cfg socket_id data q.2).2 (setupRound cfg socket_id data q.1 q.2).2 := by
    rw [setupRound_eq, bind_apply]
    split
    · exact refl _
    · rename_i hreused
      split
      · exact refl _
      · rename_i herror
        split
        · exact refl _
        · rename_i hretry
          exact plainActivation_fine fun w₁ hfalls hgives => h ⟨hreused, herror, hretry, w₁, hfalls, hgives⟩
  exact ⟨IsTrans.trans _ _ _ hprepared hafter, hafter.detached hdetached⟩

/-- A round that is given up is the last one, so that those before it are fine. -/
theorem visits_fine {p q : Retry × World} (h : Visits (setupRound cfg socket_id data) p q) :
    Fine socket_id p.2 q.2 := by
  induction h with
  | refl => exact refl _
  | @tail q q' _ hstep ih =>
    have hgood : ¬ GivenUpIn cfg socket_id data q := by
      intro hbad
      obtain ⟨⟨l, hlast⟩, -⟩ := setupRound_wrong hbad
      rw [hstep] at hlast
      cases hlast
    have hround := (setupRound_fine hgood).1
    rw [hstep] at hround
    exact IsTrans.trans _ _ _ ih hround

/-! ## The end of the request -/

/-- As `Fine`, when no detach has been noted. -/
def Calm (socket_id : RIL_SOCKET_ID) (w w' : World) : Prop :=
  (w.sim socket_id).s_LTEDetached = false → Fine socket_id w w'

instance : IsPreorder World (Calm socket_id) where
  refl w _ := refl w
  trans _ _ _ h h' hd := IsTrans.trans _ _ _ (h hd) (h' ((h hd).detached hd))

theorem calm_of_fine {α : Type} {m : M α} (h : Keeps (Fine socket_id) m) : Keeps (Calm socket_id) m :=
  h.mono fun _ _ hw _ => hw

theorem calm_of_quiet {α : Type} {m : M α} (h : ∀ cid, Keeps (Quiet socket_id cid) m) : Keeps (Calm socket_id) m :=
  calm_of_fine (fine_of_quiet h)

theorem quiet_note {e : Event} {cid : Int} (h : e.OnlyTears cid) : Keeps (Quiet socket_id cid) (note e) :=
  fun _ => ⟨fun _ _ => rfl, rfl, rfl, rfl, .one rfl h⟩

theorem quiet_onRequestComplete {e : RIL_Errno} {calls : List DataCall} {cid : Int} :
    Keeps (Quiet socket_id cid) (RIL_onRequestComplete e calls) :=
  quiet_note nofun

theorem fine_putPDP {index : Int} : Keeps (Fine socket_id) (putPDP socket_id index) :=
  fine_of_tears fun _ => tears_putPDP

theorem fine_reportFailure {fb_cid cid : Int} : Keeps (Fine socket_id) (reportFailure socket_id fb_cid cid) := by
  unfold reportFailure
  refine .bind fine_putPDP fun _ => .bind fine_putPDP fun _ => ?_
  exact .bind (fine_of_quiet fun _ => quiet_failCause) fun _ => fine_of_quiet fun _ => quiet_onRequestComplete

/-- Only after a detach is the call that was set up torn down again. -/
theorem calm_reportSetup {cid : Int} {call : DataCall} : Keeps (Calm socket_id) (reportSetup cfg socket_id cid call) := by
  intro w hd
  have hfb : (getFallbackCid socket_id (cid - 1) w).2 = w := by
    rw [getFallbackCid, if_apply]
    split <;> rfl
  unfold reportSetup
  simp only [bind_apply, readSim, reads_apply, hfb, hd, if_apply, Bool.false_eq_true, and_false, if_false]
  split
  · exact fine_reportFailure _
  · exact fine_of_quiet (fun _ => quiet_onRequestComplete) _

theorem calm_sendDataCallList {hasToken : Bool} {e : RIL_Errno} {calls : List DataCall} :
    Keeps (Calm socket_id) (sendDataCallList hasToken e calls) :=
  calm_of_quiet fun _ => .ite quiet_onRequestComplete (quiet_note nofun)

theorem calm_clearSetupMarks : Keeps (Calm socket_id) (clearSetupMarks socket_id) := by
  intro w _
  refine ⟨⟨[], by simp [clearSetupMarks, modifySim, World.setSim], fun _ => trivial⟩, fun _ => ?_⟩
  simp [clearSetupMarks, modifySim]

theorem calm_answerDataCallList {cid : Int} {hasToken : Bool} {n : Nat} {responses : Int → DataCall} :
    Keeps (Calm socket_id) (answerDataCallList cfg socket_id cid hasToken n responses) := by
  have hmissing : Keeps (Calm socket_id) (reportMissing socket_id) :=
    calm_of_quiet fun _ => .bind quiet_failCause fun _ => quiet_onRequestComplete
  unfold answerDataCallList
  refine .ite ?_ calm_sendDataCallList
  split
  · exact .bind calm_reportSetup fun _ => calm_clearSetupMarks
  · exact .bind hmissing fun _ => calm_clearSetupMarks

theorem calm_requestOrSendDataCallList {cid : Int} {hasToken : Bool} :
    Keeps (Calm socket_id) (requestOrSendDataCallList cfg socket_id cid hasToken) := by
  have hsend : ∀ {cmd}, (∀ c, cmd ≠ .CGACT_0 c) → Keeps (Calm socket_id) (at_send_command cmd) :=
    fun h => calm_of_quiet fun _ => quiet_send fun c hc => (h c hc).elim
  unfold requestOrSendDataCallList
  refine .bind (hsend nofun) fun cgact => .ite ?_ calm_sendDataCallList
  split
  · exact calm_sendDataCallList
  · refine .bind (hsend nofun) fun cgdcont => .ite ?_ calm_sendDataCallList
    refine .bind .reads fun stack => .bind (calm_of_quiet fun _ => quiet_getPDPState) fun state => .bind .reads fun g => ?_
    dsimp only
    split
    · exact calm_sendDataCallList
    · exact calm_answerDataCallList

theorem calm_setupDone {index : Int} : Keeps (Calm socket_id) (setupDone cfg socket_id index) := by
  unfold setupDone
  refine .bind (calm_of_fine (fine_of_tears fun _ => tears_modifySim fun _ => rfl)) fun _ => .bind ?_ fun _ => ?_
  · exact fun w _ => ⟨⟨[], by simp [modifyShared], fun _ => trivial⟩, id⟩
  · exact calm_requestOrSendDataCallList

theorem calm_setupError {index : Int} : Keeps (Calm socket_id) (setupError socket_id index) := by
  unfold setupError
  refine calm_of_fine (.bind (.when ?_) fun _ => .bind (fine_of_tears fun _ => tears_modifySim fun _ => rfl) fun _ => ?_)
  · refine .bind (.bind (fine_of_quiet fun _ => quiet_getFallbackCid) fun fb_cid => ?_) fun _ => ?_
    · exact .bind fine_putPDP fun _ => fine_putPDP
    · exact fun w => ⟨⟨[], by simp [modifyShared], fun _ => trivial⟩, id⟩
  · exact .bind .reads fun cause => fine_of_quiet fun _ => quiet_onRequestComplete

/-- What follows the label through which the rounds are left. -/
def finish (cfg : Config) (socket_id : RIL_SOCKET_ID) : Label → M Unit
  | .done _ index => setupDone cfg socket_id index
  | .error index => setupError socket_id index

theorem requestSetupDataCall_of_last {w w' : World} {q : Retry × World} {l : Label}
    (h : LastRound cfg socket_id data w q l w') :
    requestSetupDataCall cfg socket_id data w = finish cfg socket_id l w' := by
  unfold requestSetupDataCall
  rw [bind_apply, setupRounds_eq_some.2 ⟨q, h⟩]
  cases l <;> rfl

theorem calm_finish {l : Label} : Keeps (Calm socket_id) (finish cfg socket_id l) := by
  cases l with
  | done origin index => exact calm_setupDone
  | error index => exact calm_setupError

theorem fine_switchVolte {on : Bool} : Keeps (Fine socket_id) (switchVolte cfg socket_id on) := by
  unfold switchVolte
  refine .bind .reads fun active => .when (fine_of_quiet fun _ => quiet_sendCommand nofun)

/-- **A setup request** tears down nothing but the call it is activating, unless the modem gives up
the first context of a fallback. -/
theorem tears_own_iff (cfg : Config) (socket_id : RIL_SOCKET_ID) (data : SetupData) (w : World) :
    (∀ es, (requestSetupDataCall cfg socket_id data w).2.log = w.log ++ es → TearsOwn none es) ↔
      ∀ q, Visits (setupRound cfg socket_id data)
        ({ index := -1, nRetryTimes := 0 }, (switchVolte cfg socket_id false w).2) q →
        ¬ GivenUpIn cfg socket_id data q := by
  have hstart : Fine socket_id w (switchVolte cfg socket_id false w).2 := fine_switchVolte w
  constructor
  · intro hown q hvisits hbad
    obtain ⟨⟨l, hlast⟩, hwrong, hdetached⟩ := setupRound_wrong hbad
    have hrun := requestSetupDataCall_of_last ⟨hvisits, pair_eq hlast⟩
    rw [hrun] at hown
    have hall := ((hwrong.after (visits_fine hvisits)).after hstart).before (@calm_finish cfg _ l _ hdetached)
    obtain ⟨es, hes, hnot⟩ := hall.log
    exact hnot _ (hown es hes)
  · intro hgood es hes
    obtain ⟨l, hl⟩ := Option.isSome_iff_exists.1 (@setupRounds_isSome cfg socket_id data w)
    obtain ⟨q, hlast⟩ := setupRounds_eq_some.1 (pair_eq hl)
    obtain ⟨hround, hdetached⟩ := setupRound_fine (hgood q hlast.visits)
    rw [hlast.last] at hround hdetached
    rw [requestSetupDataCall_of_last hlast] at hes
    have hall := IsTrans.trans _ _ _ (IsTrans.trans _ _ _ (IsTrans.trans _ _ _ hstart (visits_fine hlast.visits)) hround)
      (@calm_finish cfg _ l _ hdetached)
    obtain ⟨fs, hfs, hown⟩ := hall.log
    obtain rfl := List.append_cancel_left (hes.symm.trans hfs)
    exact hown none

/-! ### A second call that the modem gives up -/

/-- The first slot holds a call that is up. -/
def firstCallUp (env : Env) : World :=
  (World.init env).setSim .RIL_SOCKET_1 (·.setPDP 0 fun p => { p with state := .PDP_BUSY, cid := 1 })

/-- AT+CGDATA is rejected with 128, and the one of the fallback is not answered. -/
def rejectingNetwork : List Answer := [okAnswer, okAnswer, okAnswer, cmeError "128", okAnswer]

theorem fallback_tears_first_call :
    ¬ ∀ es, (requestSetupDataCall gsmConfig .RIL_SOCKET_1 ipData (firstCallUp (envOf rejectingNetwork))).2.log =
      (firstCallUp (envOf rejectingNetwork)).log ++ es → TearsOwn none es := by
  intro hown
  have hfirst : ¬ TearsOwn none
      (requestSetupDataCall gsmConfig .RIL_SOCKET_1 ipData (firstCallUp (envOf rejectingNetwork))).2.log := by
    decide
  exact hfirst (hown _ rfl)

end UniRil.Data
