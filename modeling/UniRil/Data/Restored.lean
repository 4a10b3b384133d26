import UniRil.Data.Moves

/-!
# A setup that fails gives its slots back

The rounds of a request that fails take slots and give them back, each as it was or marked as
unusable. The label `error` takes the marks away.
-/

namespace UniRil.Data

open StateRules

variable {cfg : Config} {socket_id : RIL_SOCKET_ID} {data : SetupData}

/-! ## Slots as they were -/

/-- A slot that was given up. -/
def unusable : PDPInfo := { s_PDP_init with cid := UNUSABLE_CID }

/-- The whole slots are the same. -/
def SameTable (socket_id : RIL_SOCKET_ID) (w w' : World) : Prop := ∀ i, w'.slot socket_id i = w.slot socket_id i

/-- Unused slots may have been marked as unusable; nothing else has happened to the table. -/
def Marked (socket_id : RIL_SOCKET_ID) (w w' : World) : Prop :=
  ∀ i, w'.slot socket_id i = w.slot socket_id i ∨
    w.slot socket_id i = s_PDP_init ∧ w'.slot socket_id i = unusable

/-- An idle slot holds nothing of an earlier call. -/
def IdleUnused (socket_id : RIL_SOCKET_ID) (w : World) : Prop :=
  ∀ i, InRange i → (w.slot socket_id i).state = .PDP_IDLE → w.slot socket_id i = s_PDP_init ∨ w.slot socket_id i = unusable

/-- The slot the request would release is not in use. -/
def Idle (socket_id : RIL_SOCKET_ID) (w : World) (index : Int) : Prop :=
  0 ≤ index → index < MAX_PDP ∧ (w.slot socket_id index).state = .PDP_IDLE

instance : IsPreorder World (SameTable socket_id) where
  refl _ _ := rfl
  trans _ _ _ h h' i := (h' i).trans (h i)

theorem SameTable.marked {w w' : World} (h : SameTable socket_id w w') : Marked socket_id w w' := fun i => .inl (h i)

instance : IsPreorder World (Marked socket_id) where
  refl w := SameTable.marked (refl w)
  trans w w' w'' h h' := by
    intro i
    rcases h i with hi | ⟨hinit, hmark⟩
    · rw [← hi]
      exact h' i
    · rcases h' i with hi' | ⟨hinit', -⟩
      · exact .inr ⟨hinit, hi'.trans hmark⟩
      · exact absurd (hmark.symm.trans hinit') (by decide)

theorem Marked.state {w w' : World} (h : Marked socket_id w w') (i : Int) :
    (w'.slot socket_id i).state = (w.slot socket_id i).state := by
  rcases h i with hi | ⟨hinit, hmark⟩
  · rw [hi]
  · rw [hinit, hmark]
    rfl

theorem Marked.idleUnused {w w' : World} (h : Marked socket_id w w') (hw : IdleUnused socket_id w) :
    IdleUnused socket_id w' := by
  intro i hi hidle
  rw [h.state] at hidle
  rcases h i with hsame | ⟨-, hmark⟩
  · rw [hsame]
    exact hw i hi hidle
  · exact .inr hmark

theorem Marked.idle {w w' : World} (h : Marked socket_id w w') {index : Int} (hw : Idle socket_id w index) :
    Idle socket_id w' index := by
  intro hindex
  rw [h.state]
  exact hw hindex

theorem Quiet.sameTable {cid : Int} {w w' : World} (h : Quiet socket_id cid w w') : SameTable socket_id w w' := by
  intro i
  rw [World.slot, h.slots]
  rfl

theorem sameTable_of_quiet {α : Type} {m : M α} {cid : Int} (h : Keeps (Quiet socket_id cid) m) :
    Keeps (SameTable socket_id) m :=
  h.mono fun _ _ => Quiet.sameTable

theorem sameTable_modifySim {f : Sim → Sim} (h : ∀ m, (f m).s_PDP = m.s_PDP) :
    Keeps (SameTable socket_id) (modifySim socket_id f) := by
  intro w i
  rw [modifySim, modify_apply, slot_setSim, h]
  rfl

theorem sameTable_sendFallbackCgdata {index : Int} :
    Keeps (SameTable socket_id) (sendFallbackCgdata cfg socket_id index) := by
  unfold sendFallbackCgdata
  refine .bind (sameTable_of_quiet (@quiet_cgdata_req socket_id 0 _)) fun _ => ?_
  refine .bind (sameTable_of_quiet (@quiet_send socket_id 0 _ (by simp))) fun reply => ?_
  refine .bind (fun w => (quiet_cgdata_rsp rfl).sameTable) fun _ => ?_
  exact sameTable_of_quiet quiet_errorHandling

/-! ## One activation that fails -/

/-- The slot is emptied, and no other slot changes. -/
def Emptied (socket_id : RIL_SOCKET_ID) (index : Int) (w w' : World) : Prop :=
  w'.slot socket_id index = s_PDP_init ∧ ∀ i ≠ index, w'.slot socket_id i = w.slot socket_id i

/-- A slot without a partner is released alone. -/
theorem putPDP_emptied {index : Int} (hi : InRange index) {w : World}
    (halone : (w.slot socket_id index).secondary_cid = -1) : Emptied socket_id index w (putPDP socket_id index w).2 := by
  have hif : ¬(index < 0 ∨ MAX_PDP ≤ index) := by
    unfold InRange at hi
    omega
  have hslot : ∀ i, (putPDP socket_id index w).2.slot socket_id i = ((w.sim socket_id).putPDP index).s_PDP i := by
    intro i
    rw [putPDP, if_neg hif]
    exact slot_setSim w (·.putPDP index) i
  have hpartner : ¬(0 < ((w.sim socket_id).s_PDP index).secondary_cid ∧
      ((w.sim socket_id).s_PDP index).secondary_cid ≤ MAX_PDP) := by
    unfold World.slot at halone
    omega
  refine ⟨?_, fun i hne => ?_⟩
  · rw [hslot, simPutPDP_self]
    rfl
  · rw [hslot, Sim.putPDP, setPDP_ne _ _ hne, if_neg hpartner]
    rfl

/-- The activation of a first context empties its slot when it fails. -/
def FailsEmptied (socket_id : RIL_SOCKET_ID) (index : Int) (w : World) (ret : Int) (w' : World) : Prop :=
  (w.slot socket_id index).secondary_cid = -1 → ret ≠ DATA_ACTIVE_SUCCESS → Emptied socket_id index w w'

theorem FailsEmptied.after {index ret : Int} {w w' w'' : World} (h : SameTable socket_id w w')
    (hf : FailsEmptied socket_id index w' ret w'') : FailsEmptied socket_id index w ret w'' := by
  intro halone hret
  rw [← h index] at halone
  obtain ⟨hself, hothers⟩ := hf halone hret
  exact ⟨hself, fun i hi => (hothers i hi).trans (h i)⟩

theorem putPDP_failsEmptied {index ret : Int} (hi : InRange index) :
    Spec (do putPDP socket_id index; pure ret) (FailsEmptied socket_id index) :=
  fun _ halone _ => putPDP_emptied hi halone

theorem activeSpeciedCidProcess_emptied {index : Int} {pdp_type : Line} (hi : InRange index) :
    Spec (activeSpeciedCidProcess cfg socket_id data (index + 1) pdp_type 0) (FailsEmptied socket_id index) := by
  have hquiet : ∀ {α : Type} {m : M α}, Keeps (Quiet socket_id (index + 1)) m → Keeps (SameTable socket_id) m :=
    fun h => sameTable_of_quiet h
  have hput : ∀ ret, Spec (do putPDP socket_id (index + 1 - 1); pure ret) (FailsEmptied socket_id index) := by
    intro ret
    rw [Int.add_sub_cancel]
    exact putPDP_failsEmptied hi
  unfold activeSpeciedCidProcess
  refine .after (fun _ _ _ _ => FailsEmptied.after) (hquiet (quiet_send (by simp))) fun _ => ?_
  refine .after (fun _ _ _ _ => FailsEmptied.after) (hquiet quiet_deact) fun _ => ?_
  refine .after (fun _ _ _ _ => FailsEmptied.after) (hquiet (quiet_send (by simp))) fun cgdcont => .ite (fun _ => ?_) fun _ => ?_
  · refine .after (fun _ _ _ _ => FailsEmptied.after) (hquiet quiet_sendAuthAndQos) fun _ => ?_
    refine .after (fun _ _ _ _ => FailsEmptied.after) (hquiet quiet_sendCgdata) fun ret => ?_
    exact .ite (fun _ => hput ret) fun _ _ _ hret => (hret rfl).elim
  · exact .after (fun _ _ _ _ => FailsEmptied.after) (hquiet quiet_failCause) fun _ => hput _

/-! ## Reuse of a default bearer -/

/-- A slot taken by its index, later. -/
structure TakenWhole (socket_id : RIL_SOCKET_ID) (i : Int) (w w' : World) : Prop where
  range : InRange i
  idle : (w.slot socket_id i).state = .PDP_IDLE
  self : w'.slot socket_id i = { w.slot socket_id i with state := .PDP_BUSY }
  others : ∀ j ≠ i, w'.slot socket_id j = w.slot socket_id j

theorem TakenWhole.before {i : Int} {w w' w'' : World} (ht : TakenWhole socket_id i w w')
    (h : SameTable socket_id w' w'') : TakenWhole socket_id i w w'' where
  range := ht.range
  idle := ht.idle
  self := (h i).trans ht.self
  others j hj := (h j).trans (ht.others j hj)

theorem PDPInfo.idle_of_busy {p q : PDPInfo} (hidle : p.state = .PDP_IDLE) (h : q = { p with state := .PDP_BUSY }) :
    { q with state := .PDP_IDLE } = p := by
  subst h
  cases p
  simp_all

theorem TakenWhole.putBack {i : Int} {w w' : World} (ht : TakenWhole socket_id i w w') :
    Marked socket_id w (putPDPByIndex socket_id i w').2 := by
  obtain ⟨hself, hothers⟩ := @putPDPByIndex_slot socket_id i ht.range w'
  intro j
  by_cases hj : j = i
  · subst hj
    rw [hself]
    exact .inl (PDPInfo.idle_of_busy ht.idle ht.self)
  · rw [hothers j hj]
    exact .inl (ht.others j hj)

theorem TakenWhole.giveUp {i : Int} {w w' : World} (ht : TakenWhole socket_id i w w') (hw : IdleUnused socket_id w) :
    Marked socket_id w (putPDPByIndex socket_id i (updatePDPCid socket_id (i + 1) (-1) w').2).2 := by
  obtain ⟨hself, hothers⟩ := @putPDPByIndex_slot socket_id i ht.range (updatePDPCid socket_id (i + 1) (-1) w').2
  obtain ⟨hself', hothers'⟩ := @updatePDPCid_slot socket_id i (-1) ht.range w'
  intro j
  by_cases hj : j = i
  · subst hj
    rw [hself, hself', ht.self]
    rcases hw j ht.range ht.idle with hinit | hmark
    · rw [hinit]
      exact .inr ⟨rfl, rfl⟩
    · rw [hmark]
      exact .inl rfl
  · rw [hothers j hj, hothers' j hj]
    exact .inl (ht.others j hj)

/-- How a function of the reuse ends: with a bearer, or with the table only marked. -/
def Reuses (socket_id : RIL_SOCKET_ID) (w : World) (r : Int) (w' : World) : Prop :=
  IdleUnused socket_id w → 0 < r ∨ Marked socket_id w w'

theorem Reuses.after {w w' w'' : World} {r : Int} (h : SameTable socket_id w w') (hr : Reuses socket_id w' r w'') :
    Reuses socket_id w r w'' :=
  fun hw => (hr (h.marked.idleUnused hw)).imp_right fun hm => IsTrans.trans _ _ _ h.marked hm

theorem TakenWhole.afterReuse {type : Line} {i ret cgdata_err : Int} {w w' : World} (ht : TakenWhole socket_id i w w') :
    Reuses socket_id w (afterReuse cfg socket_id data type i ret cgdata_err w').1
      (afterReuse cfg socket_id data type i ret cgdata_err w').2 := by
  intro hw
  unfold Data.afterReuse
  have hi := ht.range.1
  by_cases hok : cgdata_err = DATA_ACTIVE_SUCCESS
  · simp only [if_pos hok]
    left
    show 0 < i + 1
    omega
  · by_cases hother : cgdata_err = DATA_ACTIVE_NEED_RETRY_FOR_ANOTHER_CID
    · simp only [if_neg hok, if_pos hother]
      exact .inr (ht.giveUp hw)
    · simp only [if_neg hok, if_neg hother]
      exact .inr ht.putBack

theorem reuseIdleSlot_reuses {type : Line} {i ret : Int} (hi : InRange i) {w : World}
    (hidle : (w.slot socket_id i).state = .PDP_IDLE) :
    Reuses socket_id w (reuseIdleSlot cfg socket_id data type i ret w).1
      (reuseIdleSlot cfg socket_id data type i ret w).2 := by
  have hquiet : ∀ {α : Type} {m : M α}, Keeps (Quiet socket_id (i + 1)) m → Keeps (SameTable socket_id) m :=
    fun h => sameTable_of_quiet h
  have htaken : TakenWhole socket_id i w (getPDPByIndex socket_id i w).2 := by
    obtain ⟨hself, hothers⟩ := getPDPByIndex_slot hi hidle
    exact ⟨hi, hidle, hself, hothers⟩
  let Q : World → Int → World → Prop := fun w₁ r w' => TakenWhole socket_id i w w₁ → Reuses socket_id w r w'
  have hQ : ∀ w₁ w₂ r w', SameTable socket_id w₁ w₂ → Q w₂ r w' → Q w₁ r w' :=
    fun _ _ _ _ h hq ht => hq (ht.before h)
  unfold reuseIdleSlot
  rw [bind_apply]
  refine Spec.after hQ (hquiet quiet_deact) (fun _ => ?_) _ htaken
  refine .after hQ (hquiet (quiet_send (by simp))) fun _ => ?_
  refine .after hQ (hquiet quiet_sendAuthAndQos) fun _ => ?_
  exact .after hQ (hquiet quiet_sendCgdata) fun cgdata_err w₁ ht => ht.afterReuse

theorem reuseLoop_reuses {type : Line} {is : List Int} (his : ∀ i ∈ is, InRange i) (ret : Int) :
    Spec (reuseLoop cfg socket_id data type is ret) (Reuses socket_id) := by
  induction is generalizing ret with
  | nil => exact fun w _ => .inr (refl w)
  | cons i is ih =>
    have hi := his i List.mem_cons_self
    replace ih := ih fun j hj => his j (List.mem_cons_of_mem _ hj)
    intro w
    rw [reuseLoop, readShared, reads_bind, readSim, reads_bind, if_apply]
    split
    · rw [bind_apply, getPDPState_apply hi, if_apply]
      split
      · exact reuseIdleSlot_reuses hi (by assumption)
      · exact ih _ w
    · exact ih ret w

theorem reuseDefaultBearer_reuses {type : Line} :
    Spec (reuseDefaultBearer cfg socket_id data type) (Reuses socket_id) := by
  have hpure : Spec (pure (-1) : M Int) (Reuses socket_id) := .pure fun w _ => .inr (refl w)
  unfold reuseDefaultBearer
  refine .ite (fun _ => ?_) fun _ => hpure
  refine .after (fun _ _ _ _ => Reuses.after) (sameTable_of_quiet (@quiet_queryAllActivePDNInfos socket_id 0)) fun _ => ?_
  refine .after (fun _ _ _ _ => Reuses.after) (sameTable_of_quiet (@quiet_readShared socket_id 0 _ _)) fun _ => ?_
  refine .ite (fun _ => reuseLoop_reuses (fun i hi => ?_) _) fun _ => hpure
  simp only [List.mem_cons, List.not_mem_nil, or_false] at hi
  unfold InRange MAX_PDP
  omega

/-! ## The rounds -/

/-- A round that does not reach `done` only marks slots, and what it would release is idle. -/
def RoundRestores (socket_id : RIL_SOCKET_ID) (w : World) (out : Retry ⊕ Label) (w' : World) : Prop :=
  match out with
  | .inl r => Marked socket_id w w' ∧ Idle socket_id w' r.index
  | .inr (.error index) => Marked socket_id w w' ∧ Idle socket_id w' index
  | .inr (.done _ _) => True

theorem RoundRestores.after {w w' w'' : World} {out : Retry ⊕ Label} (hm : Marked socket_id w w')
    (h : RoundRestores socket_id w' out w'') : RoundRestores socket_id w out w'' := by
  match out with
  | .inl r => exact ⟨IsTrans.trans _ _ _ hm h.1, h.2⟩
  | .inr (.error index) => exact ⟨IsTrans.trans _ _ _ hm h.1, h.2⟩
  | .inr (.done origin index) => trivial

theorem getPDP_slot {w : World} (hindex : (getPDP cfg socket_id w).1 ≠ -1) :
    InRange (getPDP cfg socket_id w).1 ∧ TakenWhole socket_id (getPDP cfg socket_id w).1 w (getPDP cfg socket_id w).2 ∧
      (w.slot socket_id (getPDP cfg socket_id w).1).cid = -1 := by
  unfold getPDP at hindex ⊢
  cases hfind : (slotIndexes cfg).find? (isFree cfg socket_id w) with
  | none =>
    rw [hfind] at hindex
    exact (hindex rfl).elim
  | some i =>
    have hfree := List.find?_some hfind
    simp only [isFree, Bool.and_eq_true, decide_eq_true_eq] at hfree
    have hi := mem_slotIndexes (List.mem_of_find?_eq_some hfind)
    refine ⟨hi, ⟨hi, hfree.2.1, ?_, fun j hj => ?_⟩, hfree.2.2⟩
    · simp [World.slot, World.setSim, setPDP_self]
    · simp [World.slot, World.setSim, setPDP_ne _ _ hj]

/-- What follows an activation, from a state in which one that failed left the table as it was. -/
theorem afterActivation_restores {r : Retry} {ret : Int} {w w' : World} (hi : InRange r.index)
    (hinit : w.slot socket_id r.index = s_PDP_init) (hsame : ret ≠ DATA_ACTIVE_SUCCESS → SameTable socket_id w w') :
    RoundRestores socket_id w (afterActivation cfg socket_id data r ret w').1
      (afterActivation cfg socket_id data r ret w').2 := by
  have hidle : ∀ w₁, Marked socket_id w w₁ → Idle socket_id w₁ r.index := by
    intro w₁ hm
    refine hm.idle fun _ => ⟨hi.2, ?_⟩
    rw [hinit]
    rfl
  unfold afterActivation
  by_cases hretry : ret = DATA_ACTIVE_NEED_RETRY
  · have hs := hsame (by rw [hretry]; decide)
    rw [if_pos hretry]
    split
    · exact ⟨hs.marked, hidle _ hs.marked⟩
    · trivial
  rw [if_neg hretry]
  by_cases hfallback : ret = DATA_ACTIVE_NEED_FALLBACK
  · have hs := hsame (by rw [hfallback]; decide)
    have hfails : Spec (doIPV4_IPV6_Fallback cfg socket_id r.index data)
        fun w₁ ok w₂ => ok = false → SameTable socket_id w₁ w₂ := by
      have hQ : ∀ (w₁ w₂ : World) (ok : Bool) (w₃ : World), SameTable socket_id w₁ w₂ →
          (ok = false → SameTable socket_id w₂ w₃) → ok = false → SameTable socket_id w₁ w₃ :=
        fun _ _ _ _ h h' hok => IsTrans.trans _ _ _ h (h' hok)
      unfold doIPV4_IPV6_Fallback
      refine .after hQ (sameTable_of_quiet (@quiet_send socket_id 0 _ (by simp))) fun cgdcont => .ite (fun _ => ?_) fun _ => ?_
      · refine .after hQ sameTable_sendFallbackCgdata fun ret => .ite (fun _ w₁ _ => refl w₁) fun _ w₁ hok => ?_
        exact absurd hok Bool.true_eq_false.mp
      · exact .after hQ (sameTable_of_quiet (@quiet_failCause socket_id 0 _)) fun _ w₁ _ => refl w₁
    rw [if_pos hfallback, bind_apply, if_apply]
    split
    · trivial
    · rename_i hok
      have hm := SameTable.marked (IsTrans.trans _ _ _ hs (hfails w' (Bool.eq_false_iff.2 hok)))
      exact ⟨hm, hidle _ hm⟩
  rw [if_neg hfallback]
  by_cases hanother : ret = DATA_ACTIVE_NEED_RETRY_FOR_ANOTHER_CID
  · have hs := hsame (by rw [hanother]; decide)
    obtain ⟨hself, hothers⟩ := @updatePDPCid_slot socket_id r.index (-1) hi w'
    have hm : Marked socket_id w (updatePDPCid socket_id (r.index + 1) (-1) w').2 := by
      intro j
      by_cases hj : j = r.index
      · subst hj
        rw [hself, hs r.index, hinit]
        exact .inr ⟨rfl, rfl⟩
      · rw [hothers j hj]
        exact .inl (hs j)
    rw [if_pos hanother]
    exact ⟨hm, hidle _ hm⟩
  rw [if_neg hanother]
  split
  · trivial
  · split
    · have hm := (hsame (by assumption)).marked
      exact ⟨hm, hidle _ hm⟩
    · trivial

theorem plainActivation_restores {r : Retry} {w : World} (hw : IdleUnused socket_id w) :
    RoundRestores socket_id w (plainActivation cfg socket_id data r w).1 (plainActivation cfg socket_id data r w).2 := by
  unfold plainActivation
  rw [takeSlot_apply]
  split
  · have hsame := (sameTable_of_quiet (@quiet_failCause socket_id 0 .PDP_FAIL_ERROR_UNSPECIFIED) w).marked
    exact ⟨hsame, fun h => absurd h (by decide)⟩
  · rename_i hindex
    obtain ⟨hi, ht, hfree⟩ := getPDP_slot hindex
    have hinit : w.slot socket_id (getPDP cfg socket_id w).1 = s_PDP_init := by
      refine (hw _ hi ht.idle).resolve_right fun hmark => ?_
      rw [hmark] at hfree
      exact absurd hfree (by decide)
    have halone : ((getPDP cfg socket_id w).2.slot socket_id (getPDP cfg socket_id w).1).secondary_cid = -1 := by
      rw [ht.self, hinit]
      rfl
    rw [bind_apply]
    refine afterActivation_restores (r := { r with index := (getPDP cfg socket_id w).1 }) hi hinit fun hret i => ?_
    obtain ⟨hself, hothers⟩ := activeSpeciedCidProcess_emptied hi _ halone hret
    by_cases hne : i = (getPDP cfg socket_id w).1
    · rw [hne, hself, hinit]
    · rw [hothers i hne, ht.others i hne]

theorem setupRound_restores {r : Retry} {w : World} (hw : IdleUnused socket_id w) (hr : Idle socket_id w r.index) :
    RoundRestores socket_id w (setupRound cfg socket_id data r w).1 (setupRound cfg socket_id data r w).2 := by
  have hpdp : Keeps (SameTable socket_id) (modifyShared fun g => { g with s_pdpType := pdpTypeOf data.type }) :=
    sameTable_of_quiet (@quiet_modifyShared socket_id 0 _ fun _ => rfl)
  have hdet : Keeps (SameTable socket_id) (modifySim socket_id fun m => { m with s_LTEDetached := false }) :=
    sameTable_modifySim fun _ => rfl
  unfold setupRound
  rw [bind_apply, bind_apply]
  have hm := SameTable.marked (IsTrans.trans _ _ _ (hpdp w) (hdet _))
  refine .after hm ?_
  have hw' := hm.idleUnused hw
  have hr' := hm.idle hr
  generalize (modifySim socket_id (fun m => { m with s_LTEDetached := false })
    ((modifyShared fun g => { g with s_pdpType := pdpTypeOf data.type }) w).2).2 = w₁ at hw' hr'
  have hreuse := @reuseDefaultBearer_reuses cfg socket_id data data.type w₁ hw'
  rw [bind_apply, if_apply]
  split
  · trivial
  · rename_i hpos
    have hmark := hreuse.resolve_left hpos
    refine .after hmark ?_
    have hidle := hmark.idle hr'
    rw [if_apply]
    split
    · exact ⟨refl _, hidle⟩
    · rw [if_apply]
      split
      · exact ⟨refl _, hidle⟩
      · exact plainActivation_restores (hmark.idleUnused hw')

/-- The rounds before the label `error` have only marked slots. -/
theorem setupRounds_restores {w w' : World} {index : Int} (hw : IdleUnused socket_id w)
    (h : setupRounds cfg socket_id data w = (some (.error index), w')) :
    Marked socket_id w w' ∧ Idle socket_id w' index := by
  obtain ⟨q, hvisits, hlast⟩ := setupRounds_eq_some.1 h
  have hvolte : SameTable socket_id w (switchVolte cfg socket_id false w).2 :=
    Keeps.bind .reads (fun _ => .when (sameTable_of_quiet (@quiet_sendCommand socket_id 0 _ (by simp)))) w
  have hinv : Marked socket_id w q.2 ∧ Idle socket_id q.2 q.1.index := by
    refine hvisits.invariant (I := fun r s => Marked socket_id w s ∧ Idle socket_id s r.index) ?_
      ⟨hvolte.marked, fun h => absurd h (show ¬(0 : Int) ≤ -1 by decide)⟩
    rintro r s r' s' ⟨hm, hr⟩ hround
    have hrestores := @setupRound_restores cfg socket_id data r s (hm.idleUnused hw) hr
    rw [hround] at hrestores
    exact ⟨IsTrans.trans _ _ _ hm hrestores.1, hrestores.2⟩
  have hrestores := @setupRound_restores cfg socket_id data q.1 q.2 (hinv.1.idleUnused hw) hinv.2
  rw [hlast] at hrestores
  exact ⟨IsTrans.trans _ _ _ hinv.1 hrestores.1, hrestores.2⟩

/-! ## The label `error` -/

/-- What `putUnusablePDPCid` makes of a slot. -/
def PDPInfo.unmarked (p : PDPInfo) : PDPInfo := if p.cid = UNUSABLE_CID then { p with cid := -1 } else p

theorem putUnusablePDPCid_slot {i : Int} (hi : InRange i) (w : World) :
    (putUnusablePDPCid socket_id w).2.slot socket_id i = (w.slot socket_id i).unmarked := by
  rw [putUnusablePDPCid, modifySim, modify_apply, slot_setSim]
  simp only [hi.1, hi.2, true_and, PDPInfo.unmarked]
  rfl

theorem Marked.unmarked {w w' : World} (h : Marked socket_id w w') (i : Int) :
    (w'.slot socket_id i).unmarked = (w.slot socket_id i).unmarked := by
  rcases h i with hi | ⟨hinit, hmark⟩
  · rw [hi]
  · rw [hinit, hmark]
    decide

/-- The release of an idle slot leaves nothing but what the marks hide. -/
theorem releaseSlot_unmarked {index : Int} {w : World} (hw : IdleUnused socket_id w) (hindex : 0 ≤ index)
    (hidle : Idle socket_id w index) (i : Int) :
    ((releaseSlot socket_id index w).2.slot socket_id i).unmarked = (w.slot socket_id i).unmarked := by
  obtain ⟨hlt, hstate⟩ := hidle hindex
  have hi : InRange index := ⟨hindex, hlt⟩
  have halone : (w.slot socket_id index).secondary_cid = -1 := by
    rcases hw index hi hstate with h | h
    · rw [h]
      rfl
    · rw [h]
      rfl
  have hfb : getFallbackCid socket_id index w = (-1, w) := by
    rw [getFallbackCid, if_neg (by omega)]
    exact Prod.ext halone rfl
  have hrelease : releaseSlot socket_id index w = putPDP socket_id index w := by
    rw [releaseSlot, bind_apply, hfb]
    rfl
  obtain ⟨hself, hothers⟩ := putPDP_emptied hi halone
  rw [hrelease]
  by_cases hne : i = index
  · rw [hne, hself]
    rcases hw index hi hstate with h | h
    · rw [h]
    · rw [h]
      decide
  · rw [hothers i hne]

theorem setupError_slot {index i : Int} {w : World} (hw : IdleUnused socket_id w) (hidle : Idle socket_id w index)
    (hi : InRange i) : (setupError socket_id index w).2.slot socket_id i = (w.slot socket_id i).unmarked := by
  have hend : ∀ w₁ : World, ((do
      putUnusablePDPCid socket_id
      let cause ← readSim socket_id (·.s_lastPDPFailCause)
      RIL_onRequestComplete .RIL_E_GENERIC_FAILURE [{ emptyDataCall with status := some cause }] : M Unit) w₁).2.slot
        socket_id i = (w₁.slot socket_id i).unmarked :=
    fun w₁ => putUnusablePDPCid_slot hi w₁
  unfold setupError
  rw [bind_apply, hend, when, if_apply]
  split
  · exact releaseSlot_unmarked hw (by assumption) hidle i
  · rfl

/-- **A setup ends, and when it fails the table is as it was**, but for the marks that were in it. -/
theorem failed_setup_restores (cfg : Config) (socket_id : RIL_SOCKET_ID) (data : SetupData) (w : World)
    (hidle : ∀ i, InRange i → (w.slot socket_id i).state = .PDP_IDLE → w.slot socket_id i = s_PDP_init) :
    (setupRounds cfg socket_id data w).1.isSome ∧
      ∀ index, (setupRounds cfg socket_id data w).1 = some (.error index) → ∀ i, InRange i →
        (requestSetupDataCall cfg socket_id data w).2.slot socket_id i = (w.slot socket_id i).unmarked := by
  refine ⟨setupRounds_isSome w, fun index herror i hi => ?_⟩
  have hw : IdleUnused socket_id w := fun j hj hstate => .inl (hidle j hj hstate)
  obtain ⟨hm, hindex⟩ := setupRounds_restores hw (pair_eq herror)
  rw [requestSetupDataCall, bind_apply, herror]
  show (setupError socket_id index (setupRounds cfg socket_id data w).2).2.slot socket_id i = _
  rw [setupError_slot (hm.idleUnused hw) hindex hi, hm.unmarked]

/-- Every slot is busy and marked as unusable. -/
def markedWorld : World :=
  (World.init (envOf [])).setSim .RIL_SOCKET_1 fun m => { m with s_PDP := fun _ => { unusable with state := .PDP_BUSY } }

theorem failed_setup_unmarks :
    ¬ ∀ (cfg : Config) (socket_id : RIL_SOCKET_ID) (data : SetupData) (w : World),
      (∀ i, InRange i → (w.slot socket_id i).state = .PDP_IDLE → w.slot socket_id i = s_PDP_init) →
      (setupRounds cfg socket_id data w).1.isSome ∧
        ∀ index, (setupRounds cfg socket_id data w).1 = some (.error index) → ∀ i, InRange i →
          (requestSetupDataCall cfg socket_id data w).2.slot socket_id i = w.slot socket_id i := by
  intro h
  have hbusy : ∀ i, (markedWorld.slot .RIL_SOCKET_1 i).state = .PDP_BUSY := fun _ => rfl
  have herror : (setupRounds gsmConfig .RIL_SOCKET_1 ipData markedWorld).1 = some (.error (-1)) := by decide
  have hkept := (h gsmConfig .RIL_SOCKET_1 ipData markedWorld
    (fun i _ hstate => absurd ((hbusy i).symm.trans hstate) (by decide))).2 (-1) herror 0 ⟨by decide, by decide⟩
  revert hkept
  decide

theorem failed_setup_restores_gsm :
    (setupRounds gsmConfig .RIL_SOCKET_1 ipData (World.init (envOf []))).1 = some (.error 0) ∧
      ∀ i, InRange i → (requestSetupDataCall gsmConfig .RIL_SOCKET_1 ipData (World.init (envOf []))).2.slot .RIL_SOCKET_1 i =
        ((World.init (envOf [])).slot .RIL_SOCKET_1 i).unmarked := by
  have herror : (setupRounds gsmConfig .RIL_SOCKET_1 ipData (World.init (envOf []))).1 = some (.error 0) := by
    decide
  exact ⟨herror, (failed_setup_restores gsmConfig .RIL_SOCKET_1 ipData (World.init (envOf []))
    fun _ _ _ => rfl).2 0 herror⟩

end UniRil.Data
