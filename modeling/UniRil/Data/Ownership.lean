import UniRil.Data.Frames

/-!
# Who owns a slot

The slots matter through their state and their cid. A request owns the slot of its call when the
slot is busy with its own cid.
-/

namespace UniRil.Data

open StateRules

variable {cfg : Config} {socket_id : RIL_SOCKET_ID} {data : SetupData}

def World.slot (w : World) (socket_id : RIL_SOCKET_ID) (index : Int) : PDPInfo := (w.sim socket_id).s_PDP index

def Owned (socket_id : RIL_SOCKET_ID) (w : World) (index : Int) : Prop :=
  (w.slot socket_id index).state = .PDP_BUSY ∧ (w.slot socket_id index).cid = index + 1

/-- The slots have the same states and cids. -/
def SameSlots (socket_id : RIL_SOCKET_ID) (w w' : World) : Prop :=
  ∀ i, (w'.slot socket_id i).state = (w.slot socket_id i).state ∧ (w'.slot socket_id i).cid = (w.slot socket_id i).cid

instance : IsPreorder World (SameSlots socket_id) where
  refl _ _ := ⟨rfl, rfl⟩
  trans _ _ _ h h' i := ⟨(h' i).1.trans (h i).1, (h' i).2.trans (h i).2⟩

theorem Quiet.sameSlots {cid : Int} {w w' : World} (h : Quiet socket_id cid w w') : SameSlots socket_id w w' := by
  intro i
  rw [World.slot, h.slots]
  exact ⟨rfl, rfl⟩

theorem sameSlots_of_quiet {α : Type} {m : M α} {cid : Int} (h : Keeps (Quiet socket_id cid) m) :
    Keeps (SameSlots socket_id) m :=
  h.mono fun _ _ => Quiet.sameSlots

/-! ## One activation -/

/-- What the activation of `cid` with the result `ret` makes of the slots. -/
structure Activation (socket_id : RIL_SOCKET_ID) (cid : Int) (w : World) (ret : Int) (w' : World) : Prop where
  up : ret = DATA_ACTIVE_SUCCESS →
    (w'.slot socket_id (cid - 1)).state = (w.slot socket_id (cid - 1)).state ∧ (w'.slot socket_id (cid - 1)).cid = cid
  released : ret ≠ DATA_ACTIVE_SUCCESS →
    (w'.slot socket_id (cid - 1)).state = .PDP_IDLE ∧ (w'.slot socket_id (cid - 1)).cid = -1
  others : ∀ i ≠ cid - 1, (w'.slot socket_id i).state = (w.slot socket_id i).state
  otherCids : ∀ i ≠ cid - 1, (w'.slot socket_id i).cid = (w.slot socket_id i).cid ∨
    ret = DATA_ACTIVE_SUCCESS ∧ (w'.slot socket_id i).cid = i + 1

theorem Activation.after {cid ret : Int} {w w' w'' : World} (h : SameSlots socket_id w w')
    (ha : Activation socket_id cid w' ret w'') : Activation socket_id cid w ret w'' where
  up hret := ⟨(ha.up hret).1.trans (h _).1, (ha.up hret).2⟩
  released := ha.released
  others i hi := (ha.others i hi).trans (h i).1
  otherCids i hi := (ha.otherCids i hi).imp_left (·.trans (h i).2)

theorem Activation.before {cid ret : Int} {w w' w'' : World} (ha : Activation socket_id cid w ret w')
    (h : SameSlots socket_id w' w'') : Activation socket_id cid w ret w'' where
  up hret := ⟨(h _).1.trans (ha.up hret).1, (h _).2.trans (ha.up hret).2⟩
  released hret := ⟨(h _).1.trans (ha.released hret).1, (h _).2.trans (ha.released hret).2⟩
  others i hi := (h i).1.trans (ha.others i hi)
  otherCids i hi := (ha.otherCids i hi).imp ((h i).2.trans ·) (And.imp_right ((h i).2.trans ·))

theorem slot_setSim (w : World) (f : Sim → Sim) (i : Int) :
    (w.setSim socket_id f).slot socket_id i = (f (w.sim socket_id)).s_PDP i := by
  rw [World.slot, setSim_self]

theorem sameSlots_modifySim {f : Sim → Sim} (h : ∀ m, (f m).s_PDP = m.s_PDP) :
    Keeps (SameSlots socket_id) (modifySim socket_id f) := by
  intro w i
  rw [modifySim, modify_apply, slot_setSim, h]
  exact ⟨rfl, rfl⟩

theorem setPDP_self (m : Sim) (i : Int) (f : PDPInfo → PDPInfo) : (m.setPDP i f).s_PDP i = f (m.s_PDP i) := by
  simp [Sim.setPDP]

theorem setPDP_ne (m : Sim) {i j : Int} (f : PDPInfo → PDPInfo) (h : j ≠ i) : (m.setPDP i f).s_PDP j = m.s_PDP j := by
  simp [Sim.setPDP, h]

theorem simPutPDP_self (m : Sim) (i : Int) :
    (m.putPDP i).s_PDP i = { cid := -1, secondary_cid := -1, isPrimary := false, state := .PDP_IDLE } := by
  rw [Sim.putPDP, setPDP_self]

/-- Of the other slots only the number of the partner changes. -/
theorem simPutPDP_ne (m : Sim) {i j : Int} (h : j ≠ i) :
    ((m.putPDP i).s_PDP j).state = (m.s_PDP j).state ∧ ((m.putPDP i).s_PDP j).cid = (m.s_PDP j).cid := by
  rw [Sim.putPDP, setPDP_ne _ _ h]
  split
  · by_cases hj : j = (m.s_PDP i).secondary_cid - 1
    · subst hj
      rw [setPDP_self]
      exact ⟨rfl, rfl⟩
    · rw [setPDP_ne _ _ hj]
      exact ⟨rfl, rfl⟩
  · exact ⟨rfl, rfl⟩

/-- The release of a slot, seen through its state and cid. -/
structure Released (socket_id : RIL_SOCKET_ID) (index : Int) (w w' : World) : Prop where
  self : (w'.slot socket_id index).state = .PDP_IDLE ∧ (w'.slot socket_id index).cid = -1
  others : ∀ i ≠ index, (w'.slot socket_id i).state = (w.slot socket_id i).state ∧
    (w'.slot socket_id i).cid = (w.slot socket_id i).cid

theorem putPDP_released {index : Int} (h : 0 ≤ index ∧ index < MAX_PDP) (w : World) :
    Released socket_id index w (putPDP socket_id index w).2 := by
  have hif : ¬(index < 0 ∨ MAX_PDP ≤ index) := by omega
  have hslot : ∀ i, (putPDP socket_id index w).2.slot socket_id i = ((w.sim socket_id).putPDP index).s_PDP i := by
    intro i
    rw [putPDP, if_neg hif]
    exact slot_setSim w (·.putPDP index) i
  refine ⟨?_, fun i hi => ?_⟩
  · rw [hslot, simPutPDP_self]
    exact ⟨rfl, rfl⟩
  · rw [hslot]
    exact simPutPDP_ne _ hi

theorem Released.activation {cid ret : Int} {w w' : World} (h : Released socket_id (cid - 1) w w')
    (hret : ret ≠ DATA_ACTIVE_SUCCESS) : Activation socket_id cid w ret w' where
  up hok := (hret hok).elim
  released _ := h.self
  others i hi := (h.others i hi).1
  otherCids i hi := .inl (h.others i hi).2

theorem putPDP_activation {cid ret : Int} (hcid : 1 ≤ cid ∧ cid ≤ MAX_PDP) (hret : ret ≠ DATA_ACTIVE_SUCCESS) :
    Spec (do putPDP socket_id (cid - 1); pure ret) (Activation socket_id cid) :=
  fun w => (putPDP_released (by omega) w).activation hret

/-- The cid goes into the slot. -/
theorem updatePDPCid_activation {cid : Int} (hcid : 1 ≤ cid ∧ cid ≤ MAX_PDP) :
    Spec (do updatePDPCid socket_id cid 1; pure DATA_ACTIVE_SUCCESS) (Activation socket_id cid) := by
  intro w
  have hif : ¬(cid ≤ 0 ∨ MAX_PDP < cid) := by omega
  simp only [bind_apply, pure_apply, updatePDPCid, if_neg hif, modifySim, modify_apply]
  refine ⟨fun _ => ?_, fun h => (h rfl).elim, fun i hi => ?_, fun i hi => .inl ?_⟩
  · rw [slot_setSim, setPDP_self]
    exact ⟨rfl, rfl⟩
  · rw [slot_setSim, setPDP_ne _ _ hi]
    rfl
  · rw [slot_setSim, setPDP_ne _ _ hi]
    rfl

theorem setPDPMapping_activation {cid primaryCid : Int} (hcid : 1 ≤ cid ∧ cid ≤ MAX_PDP)
    (hprimary : 1 ≤ primaryCid ∧ primaryCid ≤ MAX_PDP) :
    Spec (do setPDPMapping socket_id (primaryCid - 1) (cid - 1); pure DATA_ACTIVE_SUCCESS)
      (Activation socket_id cid) := by
  intro w
  have hif : ¬(primaryCid - 1 < 0 ∨ MAX_PDP ≤ primaryCid - 1 ∨ cid - 1 < 0 ∨ MAX_PDP ≤ cid - 1) := by omega
  simp only [bind_apply, pure_apply, setPDPMapping, if_neg hif, modifySim, modify_apply]
  refine ⟨fun _ => ?_, fun h => (h rfl).elim, fun i hi => ?_, fun i hi => ?_⟩
  · rw [slot_setSim, Sim.setPDPMapping, setPDP_self]
    by_cases h : cid - 1 = primaryCid - 1
    · simp [h, setPDP_self, World.slot]
      omega
    · simp [setPDP_ne _ _ h, World.slot]
  · rw [slot_setSim, Sim.setPDPMapping, setPDP_ne _ _ hi]
    by_cases h : i = primaryCid - 1
    · rw [h, setPDP_self]
      rfl
    · rw [setPDP_ne _ _ h]
      rfl
  · rw [slot_setSim, Sim.setPDPMapping, setPDP_ne _ _ hi]
    by_cases h : i = primaryCid - 1
    · rw [h, setPDP_self]
      exact .inr ⟨rfl, rfl⟩
    · rw [setPDP_ne _ _ h]
      exact .inl rfl

theorem joinContexts_spec {cid primaryCid : Int} (hcid : 1 ≤ cid ∧ cid ≤ MAX_PDP)
    (hprimary : 1 ≤ primaryCid ∧ primaryCid ≤ MAX_PDP) :
    Spec (joinContexts socket_id cid primaryCid) (Activation socket_id cid) := by
  have hquiet : ∀ {α : Type} {m : M α}, Keeps (Quiet socket_id cid) m → Keeps (SameSlots socket_id) m :=
    fun h => sameSlots_of_quiet h
  unfold joinContexts
  refine .after (fun _ _ _ _ => Activation.after) (hquiet quiet_readShared) fun ipType => ?_
  refine .ite (fun _ => ?_) fun _ => setPDPMapping_activation hcid hprimary
  refine .after (fun _ _ _ _ => Activation.after) (hquiet (quiet_send (by simp))) fun _ => ?_
  exact .after (fun _ _ _ _ => Activation.after) (hquiet quiet_deact) fun _ => putPDP_activation hcid (by decide)

theorem activated_spec {cid primaryCid : Int} (hcid : 1 ≤ cid ∧ cid ≤ MAX_PDP) (hprimary : primaryCid ≤ MAX_PDP) :
    Spec (activated socket_id cid primaryCid) (Activation socket_id cid) := by
  have hquiet : Keeps (Quiet socket_id cid) (modifySim socket_id fun m => { m with s_trafficClass := 2 }) :=
    quiet_modifySim (fun _ => rfl) fun _ => rfl
  unfold activated
  refine .before (Q := Activation socket_id cid) ?_ (fun _ _ _ _ => Activation.before) (sameSlots_of_quiet hquiet)
  exact .ite (fun hpos => joinContexts_spec hcid ⟨hpos, hprimary⟩) fun _ => updatePDPCid_activation hcid

/-- **One activation** takes its own cid or releases its slot. -/
theorem activeSpeciedCidProcess_spec {cid primaryCid : Int} {pdp_type : Line} (hcid : 1 ≤ cid ∧ cid ≤ MAX_PDP)
    (hprimary : primaryCid ≤ MAX_PDP) :
    Spec (activeSpeciedCidProcess cfg socket_id data cid pdp_type primaryCid) (Activation socket_id cid) := by
  have hquiet : ∀ {α : Type} {m : M α}, Keeps (Quiet socket_id cid) m → Keeps (SameSlots socket_id) m :=
    fun h => sameSlots_of_quiet h
  unfold activeSpeciedCidProcess
  refine .after (fun _ _ _ _ => Activation.after) (hquiet (quiet_send (by simp))) fun _ => ?_
  refine .after (fun _ _ _ _ => Activation.after) (hquiet quiet_deact) fun _ => ?_
  refine .after (fun _ _ _ _ => Activation.after) (hquiet (quiet_send (by simp))) fun cgdcont => .ite (fun _ => ?_) fun _ => ?_
  · refine .after (fun _ _ _ _ => Activation.after) (hquiet quiet_sendAuthAndQos) fun _ => ?_
    refine .after (fun _ _ _ _ => Activation.after) (hquiet quiet_sendCgdata) fun ret => ?_
    exact .ite (putPDP_activation hcid) fun _ => activated_spec hcid hprimary
  · exact .after (fun _ _ _ _ => Activation.after) (hquiet quiet_failCause) fun _ => putPDP_activation hcid (by decide)

/-! ## Taking a slot -/

/-- What `getPDP` makes of the slots; -1 stands for none. -/
def Taken (socket_id : RIL_SOCKET_ID) (w : World) (index : Int) (w' : World) : Prop :=
  index = -1 ∧ w' = w ∨
    (0 ≤ index ∧ index < MAX_PDP) ∧
    ((w.slot socket_id index).state = .PDP_IDLE ∧ (w.slot socket_id index).cid = -1) ∧
    ((w'.slot socket_id index).state = .PDP_BUSY ∧ (w'.slot socket_id index).cid = -1) ∧
    ∀ i ≠ index, w'.slot socket_id i = w.slot socket_id i

theorem mem_slotIndexes {i : Int} (h : i ∈ slotIndexes cfg) : 0 ≤ i ∧ i < MAX_PDP := by
  have hmem := (List.mem_filter.1 h).1
  simp only [List.mem_cons, List.not_mem_nil, or_false] at hmem
  rw [MAX_PDP]
  omega

theorem getPDP_spec : Spec (getPDP cfg socket_id) (Taken socket_id) := by
  intro w
  unfold getPDP
  cases hfind : (slotIndexes cfg).find? (isFree cfg socket_id w) with
  | none => exact .inl ⟨rfl, rfl⟩
  | some i =>
    have hfree := List.find?_some hfind
    simp only [isFree, Bool.and_eq_true, decide_eq_true_eq] at hfree
    refine .inr ⟨mem_slotIndexes (List.mem_of_find?_eq_some hfind), hfree.2, ?_, fun j hj => ?_⟩
    · simp [World.slot, World.setSim, setPDP_self, hfree.2.2]
    · simp [World.slot, World.setSim, setPDP_ne _ _ hj]

theorem getPDPCid_apply {index : Int} (h : 0 ≤ index ∧ index < MAX_PDP) (w : World) :
    getPDPCid socket_id index w = ((w.slot socket_id index).cid, w) := by
  rw [getPDPCid, if_neg (by omega)]
  rfl

theorem getPDPState_apply {index : Int} (h : 0 ≤ index ∧ index < MAX_PDP) (w : World) :
    getPDPState socket_id index w = ((w.slot socket_id index).state, w) := by
  rw [getPDPState, if_neg (by omega)]
  rfl

/-- The slot is in use or already has its cid, and it stays so. -/
def Settled (socket_id : RIL_SOCKET_ID) (w : World) (i : Int) : Prop :=
  (w.slot socket_id i).state = .PDP_BUSY ∨ (w.slot socket_id i).cid ≠ -1

/-- A settled slot keeps its state, and its own cid if it has it. -/
structure KeepsSlot (socket_id : RIL_SOCKET_ID) (i : Int) (w w' : World) : Prop where
  state : (w'.slot socket_id i).state = (w.slot socket_id i).state
  cid : (w.slot socket_id i).cid = i + 1 → (w'.slot socket_id i).cid = i + 1

/-- The test after `getPDP` only fails when there was no free slot. -/
theorem takeSlot_apply {α : Type} (none some : Int → M α) (w : World) :
    (do
      let index ← getPDP cfg socket_id
      let cid ← getPDPCid socket_id index
      if index < 0 ∨ 0 ≤ cid then none index else some index) w =
      if (getPDP cfg socket_id w).1 = -1 then none (-1) w
      else some (getPDP cfg socket_id w).1 (getPDP cfg socket_id w).2 := by
  simp only [bind_apply]
  have ht : Taken socket_id w (getPDP cfg socket_id w).1 (getPDP cfg socket_id w).2 := getPDP_spec w
  obtain ⟨hindex, hw⟩ | ⟨hrange, -, hnow, -⟩ := ht
  · rw [hindex, hw, if_pos (.inl (by decide)), if_pos rfl]
    rfl
  · rw [getPDPCid_apply hrange, hnow.2, if_neg (by omega), if_neg (by omega)]

/-- An activation in a slot just taken leaves the settled ones. -/
theorem activation_keepsSlot {i index ret : Int} {w w' w'' : World} (hi : Settled socket_id w i)
    (ht : Taken socket_id w index w') (hindex : index ≠ -1) (ha : Activation socket_id (index + 1) w' ret w'') :
    KeepsSlot socket_id i w w'' := by
  obtain h | ⟨-, hfree, -, hothers⟩ := ht
  · exact (hindex h.1).elim
  have hne : i ≠ index := by
    rintro rfl
    rcases hi with hbusy | hcid
    · rw [hfree.1] at hbusy
      exact absurd hbusy (by decide)
    · exact hcid hfree.2
  have hne' : i ≠ index + 1 - 1 := by omega
  refine ⟨?_, fun hcid => ?_⟩
  · rw [ha.others i hne', hothers i hne]
  · rcases ha.otherCids i hne' with h | h
    · rw [h, hothers i hne, hcid]
    · exact h.2

theorem Taken.range {index : Int} {w w' : World} (h : Taken socket_id w index w') (hindex : index ≠ -1) :
    1 ≤ index + 1 ∧ index + 1 ≤ MAX_PDP := by
  obtain h | ⟨hrange, -⟩ := h
  · exact (hindex h.1).elim
  · omega

theorem KeepsSlot.refl {i : Int} (w : World) : KeepsSlot socket_id i w w := ⟨rfl, id⟩

theorem KeepsSlot.after {i : Int} {w w' w'' : World} (h : SameSlots socket_id w w')
    (hk : KeepsSlot socket_id i w' w'') : KeepsSlot socket_id i w w'' :=
  ⟨hk.state.trans (h i).1, fun hcid => hk.cid ((h i).2.trans hcid)⟩

theorem Settled.of_sameSlots {i : Int} {w w' : World} (h : SameSlots socket_id w w') (hi : Settled socket_id w i) :
    Settled socket_id w' i := by
  rw [Settled, (h i).1, (h i).2]
  exact hi

theorem takeAndActivate_keepsSlot {i primaryCid : Int} {pdp_type : Line} {w : World} (hi : Settled socket_id w i)
    (hindex : (getPDP cfg socket_id w).1 ≠ -1) (hprimary : primaryCid ≤ MAX_PDP) :
    KeepsSlot socket_id i w (activeSpeciedCidProcess cfg socket_id data ((getPDP cfg socket_id w).1 + 1) pdp_type
      primaryCid (getPDP cfg socket_id w).2).2 :=
  have ht := getPDP_spec w
  activation_keepsSlot hi ht hindex (activeSpeciedCidProcess_spec (ht.range hindex) hprimary _)

/-- The second context of the call whose slot is `cidIndex`. -/
theorem secondContext_primary {pdp_type type : Line} {cidIndex primaryCid : Int} {w : World}
    (h : (secondContext cfg socket_id pdp_type cidIndex w).1 = some (type, primaryCid)) :
    primaryCid = 0 ∨ primaryCid = cidIndex + 1 := by
  unfold secondContext at h
  split at h
  · simp only [pure_apply, Option.some.injEq, Prod.mk.injEq] at h
    exact .inl h.2.symm
  · split at h
    · simp only [bind_apply, pure_apply, Option.map_eq_some_iff, Prod.mk.injEq] at h
      obtain ⟨_, -, -, hprimary⟩ := h
      exact .inr hprimary.symm
    · cases h

theorem checkFallBack_keepsSlot {i cidIndex : Int} {pdp_type : Line} {w : World} (hi : Settled socket_id w i)
    (hindex : cidIndex < MAX_PDP) :
    KeepsSlot socket_id i w (checkFallBack cfg socket_id data pdp_type cidIndex w).2 := by
  have hsame : SameSlots socket_id w (secondContext cfg socket_id pdp_type cidIndex w).2 :=
    (@quiet_secondContext cfg socket_id 0 _ _ w).sameSlots
  refine .after hsame ?_
  unfold checkFallBack
  rw [bind_apply]
  cases hsecond : (secondContext cfg socket_id pdp_type cidIndex w).1 with
  | none => exact .refl _
  | some second =>
    obtain ⟨type, primaryCid⟩ := second
    have hprimary : primaryCid ≤ MAX_PDP := by
      have := secondContext_primary hsecond
      rw [MAX_PDP] at *
      omega
    simp only
    rw [takeSlot_apply]
    split
    · exact .refl _
    · exact takeAndActivate_keepsSlot (hi.of_sameSlots hsame) (by assumption) hprimary

theorem fallbackIPV6_keepsSlot {i : Int} {w : World} (hi : Settled socket_id w i) :
    KeepsSlot socket_id i w (fallbackIPV6 cfg socket_id data w).2 := by
  unfold fallbackIPV6
  rw [takeSlot_apply]
  split
  · exact .after (@quiet_failCause socket_id 0 _ w).sameSlots (.refl _)
  · exact takeAndActivate_keepsSlot hi (by assumption) (by decide)

/-! ## Reuse of a default bearer -/

/-- Idle slots may have been marked as unusable; nothing else has happened to the slots. -/
def GivenUp (socket_id : RIL_SOCKET_ID) (w w' : World) : Prop :=
  ∀ i, (w'.slot socket_id i).state = (w.slot socket_id i).state ∧
    ((w'.slot socket_id i).cid = (w.slot socket_id i).cid ∨
      (w.slot socket_id i).state = .PDP_IDLE ∧ (w.slot socket_id i).cid = -1 ∧
        (w'.slot socket_id i).cid = UNUSABLE_CID)

theorem SameSlots.givenUp {w w' : World} (h : SameSlots socket_id w w') : GivenUp socket_id w w' :=
  fun i => ⟨(h i).1, .inl (h i).2⟩

instance : IsPreorder World (GivenUp socket_id) where
  refl w := SameSlots.givenUp (refl w)
  trans w w' w'' h h' := by
    intro i
    obtain ⟨hstate, hcid⟩ := h i
    obtain ⟨hstate', hcid'⟩ := h' i
    refine ⟨hstate'.trans hstate, ?_⟩
    rw [hstate] at hcid'
    rcases hcid with hcid | ⟨hidle, hfree, hgone⟩
    · rw [hcid] at hcid'
      exact hcid'
    · rw [hgone] at hcid'
      rcases hcid' with hcid' | ⟨-, hfree', -⟩
      · exact .inr ⟨hidle, hfree, hcid'⟩
      · exact absurd hfree' (by decide)

theorem GivenUp.after {w w' w'' : World} (h : SameSlots socket_id w w') (hg : GivenUp socket_id w' w'') :
    GivenUp socket_id w w'' := by
  intro i
  have hi := hg i
  rw [(h i).1, (h i).2] at hi
  exact hi

/-- How the reuse of an idle slot ends, when `ret` was the result so far. -/
def ReusedIdle (socket_id : RIL_SOCKET_ID) (i ret : Int) (w : World) (r : Int) (w' : World) : Prop :=
  r = i + 1 ∧ Owned socket_id w' i ∨ (r = ret ∨ r = -2 ∨ r = -3) ∧ GivenUp socket_id w w'

theorem updatePDPCid_slot {i state : Int} (hi : 0 ≤ i ∧ i < MAX_PDP) (w : World) :
    (updatePDPCid socket_id (i + 1) state w).2.slot socket_id i = (w.slot socket_id i).update (i + 1) state ∧
      ∀ j ≠ i, (updatePDPCid socket_id (i + 1) state w).2.slot socket_id j = w.slot socket_id j := by
  have hif : ¬(i + 1 ≤ 0 ∨ MAX_PDP < i + 1) := by omega
  rw [updatePDPCid, if_neg hif, Int.add_sub_cancel, modifySim, modify_apply]
  refine ⟨?_, fun j hj => ?_⟩
  · rw [slot_setSim, setPDP_self]
    rfl
  · rw [slot_setSim, setPDP_ne _ _ hj]
    rfl

theorem putPDPByIndex_slot {i : Int} (hi : 0 ≤ i ∧ i < MAX_PDP) (w : World) :
    (putPDPByIndex socket_id i w).2.slot socket_id i = { w.slot socket_id i with state := .PDP_IDLE } ∧
      ∀ j ≠ i, (putPDPByIndex socket_id i w).2.slot socket_id j = w.slot socket_id j := by
  have hif : ¬(i < 0 ∨ MAX_PDP ≤ i) := by omega
  rw [putPDPByIndex, if_neg hif, modifySim, modify_apply]
  refine ⟨?_, fun j hj => ?_⟩
  · rw [slot_setSim, setPDP_self]
    rfl
  · rw [slot_setSim, setPDP_ne _ _ hj]
    rfl

theorem getPDPByIndex_slot {i : Int} {w : World} (hi : 0 ≤ i ∧ i < MAX_PDP)
    (hidle : (w.slot socket_id i).state = .PDP_IDLE) :
    (getPDPByIndex socket_id i w).2.slot socket_id i = { w.slot socket_id i with state := .PDP_BUSY } ∧
      ∀ j ≠ i, (getPDPByIndex socket_id i w).2.slot socket_id j = w.slot socket_id j := by
  rw [getPDPByIndex, if_pos ⟨hi.1, hi.2, hidle⟩]
  refine ⟨?_, fun j hj => ?_⟩
  · simp [World.slot, World.setSim, setPDP_self]
  · simp [World.slot, World.setSim, setPDP_ne _ _ hj]

/-- The slot has been taken by its index, and `w'` is a later state. -/
structure TakenByIndex (socket_id : RIL_SOCKET_ID) (i : Int) (w w' : World) : Prop where
  range : 0 ≤ i ∧ i < MAX_PDP
  idle : (w.slot socket_id i).state = .PDP_IDLE
  busy : (w'.slot socket_id i).state = .PDP_BUSY
  cid : (w'.slot socket_id i).cid = (w.slot socket_id i).cid
  others : ∀ j ≠ i, (w'.slot socket_id j).state = (w.slot socket_id j).state ∧
    (w'.slot socket_id j).cid = (w.slot socket_id j).cid

theorem TakenByIndex.before {i : Int} {w w' w'' : World} (ht : TakenByIndex socket_id i w w')
    (h : SameSlots socket_id w' w'') : TakenByIndex socket_id i w w'' where
  range := ht.range
  idle := ht.idle
  busy := (h i).1.trans ht.busy
  cid := (h i).2.trans ht.cid
  others j hj := ⟨(h j).1.trans (ht.others j hj).1, (h j).2.trans (ht.others j hj).2⟩

/-- The slot goes back as it was. -/
theorem TakenByIndex.putBack {i : Int} {w w' : World} (ht : TakenByIndex socket_id i w w') :
    GivenUp socket_id w (putPDPByIndex socket_id i w').2 := by
  obtain ⟨hself, hothers⟩ := @putPDPByIndex_slot socket_id i ht.range w'
  intro j
  by_cases hj : j = i
  · subst hj
    rw [hself]
    exact ⟨ht.idle.symm, .inl ht.cid⟩
  · rw [hothers j hj]
    exact ⟨(ht.others j hj).1, .inl (ht.others j hj).2⟩

/-- The slot goes back marked as unusable. -/
theorem TakenByIndex.giveUp {i : Int} {w w' : World} (ht : TakenByIndex socket_id i w w') :
    GivenUp socket_id w (putPDPByIndex socket_id i (updatePDPCid socket_id (i + 1) (-1) w').2).2 := by
  obtain ⟨hself, hothers⟩ := @putPDPByIndex_slot socket_id i ht.range
    (updatePDPCid socket_id (i + 1) (-1) w').2
  obtain ⟨hself', hothers'⟩ := @updatePDPCid_slot socket_id i (-1) ht.range w'
  intro j
  by_cases hj : j = i
  · subst hj
    rw [hself, hself', PDPInfo.update, if_neg (by decide), if_neg (by decide)]
    refine ⟨ht.idle.symm, ?_⟩
    split
    · rename_i hcid
      exact .inr ⟨ht.idle, ht.cid.symm.trans hcid.2, rfl⟩
    · exact .inl ht.cid
  · rw [hothers j hj, hothers' j hj]
    exact ⟨(ht.others j hj).1, .inl (ht.others j hj).2⟩

/-- The slot gets its cid. -/
theorem TakenByIndex.owned {i : Int} {w w' : World} (ht : TakenByIndex socket_id i w w') :
    Owned socket_id (updatePDPCid socket_id (i + 1) 1 w').2 i := by
  obtain ⟨hself, -⟩ := @updatePDPCid_slot socket_id i 1 ht.range w'
  rw [Owned, hself]
  exact ⟨ht.busy, rfl⟩

theorem Owned.settled {i : Int} {w : World} (h : Owned socket_id w i) : Settled socket_id w i := .inl h.1

theorem Owned.kept {i : Int} {w w' : World} (h : Owned socket_id w i) (hk : KeepsSlot socket_id i w w') :
    Owned socket_id w' i :=
  ⟨hk.state.trans h.1, hk.cid h.2⟩

theorem Owned.of_sameSlots {i : Int} {w w' : World} (hs : SameSlots socket_id w w') (h : Owned socket_id w i) :
    Owned socket_id w' i :=
  h.kept ⟨(hs i).1, fun hcid => (hs i).2.trans hcid⟩

theorem TakenByIndex.afterReuse {type : Line} {i ret cgdata_err : Int} {w w' : World}
    (ht : TakenByIndex socket_id i w w') :
    ReusedIdle socket_id i ret w (afterReuse cfg socket_id data type i ret cgdata_err w').1
      (afterReuse cfg socket_id data type i ret cgdata_err w').2 := by
  unfold Data.afterReuse
  by_cases hok : cgdata_err = DATA_ACTIVE_SUCCESS
  · simp only [if_pos hok]
    have hsame : Keeps (SameSlots socket_id) (modifyShared fun g => { g with s_openchannelCid := i + 1 }) :=
      sameSlots_of_quiet (@quiet_modifyShared socket_id 0 _ fun _ => rfl)
    have howned := ht.owned.of_sameSlots (hsame (updatePDPCid socket_id (i + 1) 1 w').2)
    exact .inl ⟨rfl, howned.kept (checkFallBack_keepsSlot howned.settled ht.range.2)⟩
  · by_cases hother : cgdata_err = DATA_ACTIVE_NEED_RETRY_FOR_ANOTHER_CID
    · simp only [if_neg hok, if_pos hother]
      exact .inr ⟨.inl rfl, ht.giveUp⟩
    · simp only [if_neg hok, if_neg hother]
      refine .inr ⟨.inr ?_, ht.putBack⟩
      by_cases hretry : cgdata_err = DATA_ACTIVE_NEED_RETRY
      · exact .inl (if_pos hretry)
      · exact .inr (if_neg hretry)

theorem reuseIdleSlot_spec {type : Line} {i ret : Int} (hi : 0 ≤ i ∧ i < MAX_PDP) {w : World}
    (hidle : (w.slot socket_id i).state = .PDP_IDLE) :
    ReusedIdle socket_id i ret w (reuseIdleSlot cfg socket_id data type i ret w).1
      (reuseIdleSlot cfg socket_id data type i ret w).2 := by
  have hquiet : ∀ {α : Type} {m : M α}, Keeps (Quiet socket_id (i + 1)) m → Keeps (SameSlots socket_id) m :=
    fun h => sameSlots_of_quiet h
  have htaken : TakenByIndex socket_id i w (getPDPByIndex socket_id i w).2 := by
    obtain ⟨hself, hothers⟩ := getPDPByIndex_slot hi hidle
    refine ⟨hi, hidle, by rw [hself], by rw [hself], fun j hj => ?_⟩
    rw [hothers j hj]
    exact ⟨rfl, rfl⟩
  -- the steps up to the answer leave the slot taken
  let Q : World → Int → World → Prop := fun w₁ r w' =>
    TakenByIndex socket_id i w w₁ → ReusedIdle socket_id i ret w r w'
  have hQ : ∀ w₁ w₂ r w', SameSlots socket_id w₁ w₂ → Q w₂ r w' → Q w₁ r w' :=
    fun _ _ _ _ h hq ht => hq (ht.before h)
  unfold reuseIdleSlot
  rw [bind_apply]
  refine Spec.after hQ (hquiet quiet_deact) (fun _ => ?_) _ htaken
  refine .after hQ (hquiet (quiet_send (by simp))) fun _ => ?_
  refine .after hQ (hquiet quiet_sendAuthAndQos) fun _ => ?_
  exact .after hQ (hquiet quiet_sendCgdata) fun cgdata_err w₁ ht => ht.afterReuse

/-- How the loop over the default bearers ends. -/
def Reused (socket_id : RIL_SOCKET_ID) (ret : Int) (w : World) (r : Int) (w' : World) : Prop :=
  (∃ i, 0 ≤ i ∧ r = i + 1 ∧ (w.slot socket_id i).state = .PDP_IDLE ∧ Owned socket_id w' i) ∨
    (r = ret ∨ r = -2 ∨ r = -3 ∨ ∃ i, r = i + 1 ∧ (w.slot socket_id i).state = .PDP_BUSY) ∧
      GivenUp socket_id w w'

theorem reuseLoop_spec {type : Line} {is : List Int} (his : ∀ i ∈ is, 0 ≤ i ∧ i < MAX_PDP) (ret : Int) :
    Spec (reuseLoop cfg socket_id data type is ret) (Reused socket_id ret) := by
  induction is generalizing ret with
  | nil => exact fun w => .inr ⟨.inl rfl, SameSlots.givenUp (refl w)⟩
  | cons i is ih =>
    have hi := his i List.mem_cons_self
    replace ih := ih fun j hj => his j (List.mem_cons_of_mem _ hj)
    intro w
    rw [reuseLoop]
    rw [readShared, reads_bind, readSim, reads_bind, if_apply]
    split
    · rw [bind_apply, getPDPState_apply hi]
      simp only [if_apply]
      cases hstate : (w.slot socket_id i).state with
      | PDP_IDLE =>
        rw [if_pos rfl]
        have hidle := @reuseIdleSlot_spec cfg _ data type i ret hi w hstate
        obtain ⟨hr, howned⟩ | ⟨hr, hg⟩ := hidle
        · exact .inl ⟨i, hi.1, hr, hstate, howned⟩
        · exact .inr ⟨hr.imp_right (·.imp_right .inl), hg⟩
      | PDP_BUSY =>
        rw [if_neg (by decide), readShared, reads_bind]
        have hnext : ∀ (c : Prop) [Decidable c], (if c then i + 1 else ret) = i + 1 ∨ (if c then i + 1 else ret) = ret :=
          fun c _ => ite_eq_or_eq c _ _
        obtain h | ⟨hr, hg⟩ := ih (if (w.shared.s_openchannelInfo i).state ≠ .CLOSE then i + 1 else ret) w
        · exact .inl h
        · refine .inr ⟨?_, hg⟩
          rcases hr with hr | hr
          · rcases hnext ((w.shared.s_openchannelInfo i).state ≠ .CLOSE) with h | h
            · exact .inr (.inr (.inr ⟨i, hr.trans h, hstate⟩))
            · exact .inl (hr.trans h)
          · exact .inr hr
    · exact ih ret w

theorem reuseDefaultBearer_spec {type : Line} :
    Spec (reuseDefaultBearer cfg socket_id data type) (Reused socket_id (-1)) := by
  have hpure : Spec (pure (-1) : M Int) (Reused socket_id (-1)) :=
    .pure fun w => .inr ⟨.inl rfl, SameSlots.givenUp (refl w)⟩
  have hQ : ∀ w w' r w'', SameSlots socket_id w w' → Reused socket_id (-1) w' r w'' → Reused socket_id (-1) w r w'' := by
    rintro w w' r w'' hs (⟨i, hi, hr, hidle, howned⟩ | ⟨hr, hg⟩)
    · exact .inl ⟨i, hi, hr, (hs i).1.symm.trans hidle, howned⟩
    · refine .inr ⟨hr.imp_right (·.imp_right (·.imp_right ?_)), hg.after hs⟩
      rintro ⟨i, hri, hbusy⟩
      exact ⟨i, hri, (hs i).1.symm.trans hbusy⟩
  unfold reuseDefaultBearer
  refine .ite (fun _ => ?_) fun _ => hpure
  refine .after hQ (sameSlots_of_quiet (@quiet_queryAllActivePDNInfos socket_id 0)) fun _ => ?_
  refine .after hQ (sameSlots_of_quiet (@quiet_readShared socket_id 0 _ _)) fun _ => .ite (fun _ => ?_) fun _ => hpure
  exact reuseLoop_spec (by decide) _

/-! ## One round of the request -/

/-- How a round ends that has taken a slot of its own. -/
def PlainEnd (socket_id : RIL_SOCKET_ID) (r : Retry) (w : World) (out : Retry ⊕ Label) (w' : World) : Prop :=
  match out with
  | .inl r' => GivenUp socket_id w w' ∧
      (r'.nRetryTimes = r.nRetryTimes + 1 ∧ r.nRetryTimes < 5 ∨
        r'.nRetryTimes = r.nRetryTimes ∧ ∃ i ∈ [0, 1, 2, 3, 4, 5],
          (w.slot socket_id i).cid = -1 ∧ (w'.slot socket_id i).cid = UNUSABLE_CID)
  | .inr (.done .activated i) => Owned socket_id w' i
  | .inr (.done .reused _) => False
  | .inr (.done _ i) => (w'.slot socket_id i).state = .PDP_IDLE
  | .inr (.error _) => True

theorem updatePDPCid_idle {i : Int} (hi : 0 ≤ i ∧ i < MAX_PDP) {w : World}
    (hidle : (w.slot socket_id i).state = .PDP_IDLE) :
    Settled socket_id (updatePDPCid socket_id (i + 1) 1 w).2 i ∧
      ((updatePDPCid socket_id (i + 1) 1 w).2.slot socket_id i).state = .PDP_IDLE := by
  obtain ⟨hself, -⟩ := @updatePDPCid_slot socket_id i 1 hi w
  rw [Settled, hself]
  refine ⟨.inr ?_, hidle⟩
  show i + 1 ≠ -1
  omega

theorem sameSlots_sendFallbackCgdata {index : Int} :
    Keeps (SameSlots socket_id) (sendFallbackCgdata cfg socket_id index) := by
  unfold sendFallbackCgdata
  refine .bind (sameSlots_of_quiet (@quiet_cgdata_req socket_id 0 _)) fun _ => ?_
  refine .bind (sameSlots_of_quiet (@quiet_send socket_id 0 _ (by simp))) fun reply => ?_
  refine .bind (fun w => (quiet_cgdata_rsp rfl).sameSlots) fun _ => ?_
  exact sameSlots_of_quiet quiet_errorHandling

/-- An idle slot is still idle after a fallback that went well. -/
def StaysIdle (socket_id : RIL_SOCKET_ID) (i : Int) (w : World) (ok : Bool) (w' : World) : Prop :=
  (w.slot socket_id i).state = .PDP_IDLE → ok = true → (w'.slot socket_id i).state = .PDP_IDLE

/-- The slot that the first activation released is not taken again. -/
theorem fallback_idle {i : Int} (hi : 0 ≤ i ∧ i < MAX_PDP) :
    Spec (doIPV4_IPV6_Fallback cfg socket_id i data) (StaysIdle socket_id i) := by
  have hQ : ∀ w w' ok w'', SameSlots socket_id w w' → StaysIdle socket_id i w' ok w'' →
      StaysIdle socket_id i w ok w'' :=
    fun _ _ _ _ hs hq hidle => hq ((hs i).1.trans hidle)
  unfold doIPV4_IPV6_Fallback
  refine .after hQ (sameSlots_of_quiet (@quiet_send socket_id 0 _ (by simp))) fun cgdcont => .ite (fun _ => ?_) fun _ => ?_
  · refine .after hQ sameSlots_sendFallbackCgdata fun ret => .ite (fun _ w _ hok => nomatch hok) fun _ w hidle _ => ?_
    obtain ⟨hsettled, hidle'⟩ := updatePDPCid_idle hi hidle
    exact (fallbackIPV6_keepsSlot hsettled).state.trans hidle'
  · exact .after hQ (sameSlots_of_quiet (@quiet_failCause socket_id 0 _)) fun _ w _ hok => nomatch hok

/-- What follows the activation in `index`, from a state in which it left the slots so. -/
theorem afterActivation_spec {r : Retry} {ret : Int} {w w' : World} (hi : 0 ≤ r.index ∧ r.index < MAX_PDP)
    (hfree : (w.slot socket_id r.index).state = .PDP_IDLE ∧ (w.slot socket_id r.index).cid = -1)
    (hup : ret = DATA_ACTIVE_SUCCESS → Owned socket_id w' r.index)
    (hreleased : ret ≠ DATA_ACTIVE_SUCCESS → SameSlots socket_id w w') :
    PlainEnd socket_id r w (afterActivation cfg socket_id data r ret w').1
      (afterActivation cfg socket_id data r ret w').2 := by
  unfold afterActivation
  by_cases hretry : ret = DATA_ACTIVE_NEED_RETRY
  · have hsame := hreleased (by rw [hretry]; decide)
    rw [if_pos hretry]
    split
    · rename_i hn
      exact ⟨hsame.givenUp, .inl ⟨rfl, hn⟩⟩
    · exact (hsame r.index).1.trans hfree.1
  rw [if_neg hretry]
  by_cases hfallback : ret = DATA_ACTIVE_NEED_FALLBACK
  · have hsame := hreleased (by rw [hfallback]; decide)
    have hidle := @fallback_idle cfg socket_id data _ hi w' ((hsame r.index).1.trans hfree.1)
    rw [if_pos hfallback, bind_apply, if_apply]
    split
    · rename_i hok
      exact hidle hok
    · trivial
  rw [if_neg hfallback]
  by_cases hanother : ret = DATA_ACTIVE_NEED_RETRY_FOR_ANOTHER_CID
  · have hsame := hreleased (by rw [hanother]; decide)
    obtain ⟨hself, hothers⟩ := @updatePDPCid_slot socket_id r.index (-1) hi w'
    have hgone : ((updatePDPCid socket_id (r.index + 1) (-1) w').2.slot socket_id r.index) =
        { w'.slot socket_id r.index with cid := UNUSABLE_CID } := by
      rw [hself, PDPInfo.update, if_neg (by decide), if_neg (by decide), if_pos ⟨rfl, (hsame r.index).2.trans hfree.2⟩]
    rw [if_pos hanother]
    refine ⟨fun j => ?_, .inr ⟨rfl, r.index, ?_, hfree.2, ?_⟩⟩
    · by_cases hj : j = r.index
      · subst hj
        show (((updatePDPCid socket_id (r.index + 1) (-1) w').2.slot socket_id r.index).state = _) ∧ _
        rw [hgone]
        exact ⟨(hsame r.index).1, .inr ⟨hfree.1, hfree.2, by simp only [bind_apply, pure_apply, hgone]⟩⟩
      · simp only [bind_apply, pure_apply, hothers j hj]
        exact ⟨(hsame j).1, .inl (hsame j).2⟩
    · simp only [List.mem_cons, List.not_mem_nil, or_false]
      rw [MAX_PDP] at hi
      omega
    · simp only [bind_apply, pure_apply, hgone]
  rw [if_neg hanother]
  split
  · rename_i hok
    have howned := hup hok.1
    exact howned.kept (checkFallBack_keepsSlot howned.settled hi.2)
  · split
    · trivial
    · rename_i hok
      exact hup (not_not.1 hok)

end UniRil.Data
