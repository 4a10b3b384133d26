import UniRil.Data.Calls

/-!
# The second contexts (`secondary_cid`)

Two slots are linked when the first names the second. Every move of the machine keeps the links
symmetric and between slots that are in use, as long as the slots that are joined are free.
-/

namespace UniRil.Data

open StateRules

/-! ## Linked slots -/

structure Linked (t : Table) (i j : Int) : Prop where
  left : InRange i
  right : InRange j
  names : (t.slot i).secondary_cid = j + 1

/-- The links of a table at rest. -/
structure Paired (t : Table) : Prop where
  symm : ∀ i j, Linked t i j → Linked t j i
  irrefl : ∀ i, ¬ Linked t i i
  busy : ∀ i j, Linked t i j → (t.slot i).state = .PDP_BUSY

/-- A slot in use that is linked to none. -/
structure Fresh (t : Table) (i : Int) : Prop where
  range : InRange i
  busy : (t.slot i).state = .PDP_BUSY
  alone : ∀ j, ¬ Linked t i j

/-- The slots that a request has in hand are not linked yet. -/
def InHand (t : Table) : Phase → Prop
  | .rest => True
  | .taken i | .first i => Fresh t i
  | .second i j => i ≠ j ∧ Fresh t i ∧ Fresh t j

variable {t t' : Table} {i j a b : Int} {p q : Phase}

theorem Linked.unique {k : Int} (h : Linked t i j) (h' : Linked t i k) : j = k := by
  have := h.names.symm.trans h'.names
  omega

theorem Paired.alone (h : Paired t) (hidle : (t.slot i).state = .PDP_IDLE) (j : Int) : ¬ Linked t i j := by
  intro hlink
  rw [h.busy i j hlink] at hidle
  cases hidle

/-! ## Writes that keep the links -/

theorem linked_congr (h : ∀ i, (t'.slot i).secondary_cid = (t.slot i).secondary_cid) : Linked t' i j ↔ Linked t i j :=
  ⟨fun ⟨hi, hj, hn⟩ => ⟨hi, hj, (h i).symm.trans hn⟩, fun ⟨hi, hj, hn⟩ => ⟨hi, hj, (h i).trans hn⟩⟩

/-- Only links and the states of linked slots matter. -/
theorem Paired.congr (h : Paired t) (hlinks : ∀ i j, Linked t' i j ↔ Linked t i j)
    (hstates : ∀ i j, Linked t i j → (t'.slot i).state = (t.slot i).state) : Paired t' where
  symm i j hlink := (hlinks j i).2 (h.symm i j ((hlinks i j).1 hlink))
  irrefl i hlink := h.irrefl i ((hlinks i i).1 hlink)
  busy i j hlink := (hstates i j ((hlinks i j).1 hlink)).trans (h.busy i j ((hlinks i j).1 hlink))

theorem Fresh.congr (h : Fresh t i) (hlinks : ∀ i j, Linked t' i j ↔ Linked t i j)
    (hstate : (t'.slot i).state = (t.slot i).state) : Fresh t' i :=
  ⟨h.range, hstate.trans h.busy, fun j hlink => h.alone j ((hlinks i j).1 hlink)⟩

theorem setSlot_self (t : Table) (i : Int) (f : PDPInfo → PDPInfo) : (t.setSlot i f).slot i = f (t.slot i) :=
  Function.update_self _ _ _

theorem setSlot_ne (t : Table) {i j : Int} (f : PDPInfo → PDPInfo) (h : j ≠ i) : (t.setSlot i f).slot j = t.slot j :=
  Function.update_of_ne h _ _

/-- A write to one slot that keeps its partner. -/
theorem linked_setSlot {f : PDPInfo → PDPInfo} (h : ∀ s, (f s).secondary_cid = s.secondary_cid) (a b : Int) :
    Linked (t.setSlot i f) a b ↔ Linked t a b := by
  refine linked_congr fun k => ?_
  by_cases hk : k = i
  · subst hk
    rw [setSlot_self, h]
  · rw [setSlot_ne _ _ hk]

theorem setCid_state (t : Table) (i cid k : Int) : ((t.setCid i cid).slot k).state = (t.slot k).state := by
  by_cases hk : k = i
  · subst hk
    rw [Table.setCid, setSlot_self]
  · rw [Table.setCid, setSlot_ne _ _ hk]

theorem Paired.setCid {cid : Int} (h : Paired t) : Paired (t.setCid i cid) :=
  h.congr (linked_setSlot fun _ => rfl) fun a _ _ => setCid_state t i cid a

theorem Fresh.setCid {cid : Int} (h : Fresh t a) : Fresh (t.setCid i cid) a :=
  h.congr (linked_setSlot fun _ => rfl) (setCid_state t i cid a)

/-- A slot that is linked to none may change its state. -/
theorem Paired.setState {state : PDPState} (h : Paired t) (halone : ∀ j, ¬ Linked t i j) : Paired (t.setState i state) := by
  refine h.congr (linked_setSlot fun _ => rfl) fun a b hlink => ?_
  have ha : a ≠ i := fun hai => halone b (hai ▸ hlink)
  rw [Table.setState, setSlot_ne _ _ ha]

theorem Fresh.taken (hi : InRange i) (halone : ∀ j, ¬ Linked t i j) : Fresh (t.setState i .PDP_BUSY) i := by
  have hlinks : ∀ a b, Linked (t.setState i .PDP_BUSY) a b ↔ Linked t a b := linked_setSlot fun _ => rfl
  refine ⟨hi, ?_, fun j hlink => halone j ((hlinks i j).1 hlink)⟩
  rw [Table.setState, setSlot_self]

theorem Fresh.setState {state : PDPState} (h : Fresh t a) (hne : a ≠ i) : Fresh (t.setState i state) a := by
  refine h.congr (linked_setSlot fun _ => rfl) ?_
  rw [Table.setState, setSlot_ne _ _ hne]

theorem clear_slot (t : Table) (k : Int) :
    (t.clear.slot k).secondary_cid = (t.slot k).secondary_cid ∧ (t.clear.slot k).state = (t.slot k).state := by
  unfold Table.clear
  dsimp only
  split
  · exact ⟨rfl, rfl⟩
  · exact ⟨rfl, rfl⟩

theorem Paired.clear (h : Paired t) : Paired t.clear :=
  h.congr (fun _ _ => linked_congr fun k => (clear_slot t k).1) fun a _ _ => (clear_slot t a).2

/-! ## Release -/

theorem release_self (t : Table) (i : Int) : (t.release i).slot i = s_PDP_init :=
  setSlot_self (t.forget i) i fun _ => s_PDP_init

/-- The partner loses its number, and nothing else changes outside of the slot. -/
theorem release_ne {k : Int} (h : k ≠ i) :
    (t.release i).slot k =
      { t.slot k with
        secondary_cid := if InRange k ∧ (t.slot i).secondary_cid = k + 1 then -1 else (t.slot k).secondary_cid } := by
  have hslot : (t.release i).slot k = (t.forget i).slot k := setSlot_ne (t.forget i) (fun _ => s_PDP_init) h
  rw [hslot, Table.forget]
  by_cases hk : InRange k ∧ (t.slot i).secondary_cid = k + 1
  · obtain ⟨h0, h6⟩ := hk.1
    have hpartner : 0 < (t.slot i).secondary_cid ∧ (t.slot i).secondary_cid ≤ MAX_PDP := by
      rw [hk.2]
      omega
    rw [if_pos hpartner, if_pos hk, hk.2, Int.add_sub_cancel, setSlot_self]
  · rw [if_neg hk]
    split
    · rename_i hpartner
      have hne : k ≠ (t.slot i).secondary_cid - 1 := by
        intro hkp
        refine hk ⟨⟨?_, ?_⟩, ?_⟩ <;> omega
      rw [setSlot_ne _ _ hne]
    · rfl

theorem release_secondary {k : Int} (h : k ≠ i) :
    ((t.release i).slot k).secondary_cid =
      if InRange k ∧ (t.slot i).secondary_cid = k + 1 then -1 else (t.slot k).secondary_cid := by
  rw [release_ne h]

theorem release_state {k : Int} (h : k ≠ i) : ((t.release i).slot k).state = (t.slot k).state := by
  rw [release_ne h]

theorem release_cid {k : Int} (h : k ≠ i) : ((t.release i).slot k).cid = (t.slot k).cid := by
  rw [release_ne h]

/-- The links of a released slot are gone, and the others stay. -/
theorem release_linked (h : Paired t) (hi : InRange i) : Linked (t.release i) a b ↔ Linked t a b ∧ a ≠ i ∧ b ≠ i := by
  constructor
  · rintro ⟨ha, hb, hn⟩
    have hai : a ≠ i := by
      rintro rfl
      rw [release_self] at hn
      have hminus : (-1 : Int) = b + 1 := hn
      obtain ⟨h0, -⟩ := hb
      omega
    rw [release_secondary hai] at hn
    by_cases hpartner : InRange a ∧ (t.slot i).secondary_cid = a + 1
    · rw [if_pos hpartner] at hn
      obtain ⟨h0, -⟩ := hb
      omega
    · rw [if_neg hpartner] at hn
      refine ⟨⟨ha, hb, hn⟩, hai, ?_⟩
      -- a slot that names the released one is named by it
      rintro rfl
      exact hpartner ⟨ha, (h.symm a b ⟨ha, hb, hn⟩).names⟩
  · rintro ⟨hlink, hai, hbi⟩
    have hpartner : ¬(InRange a ∧ (t.slot i).secondary_cid = a + 1) := by
      rintro ⟨ha, hn⟩
      exact hbi (hlink.unique (h.symm i a ⟨hi, ha, hn⟩))
    refine ⟨hlink.left, hlink.right, ?_⟩
    rw [release_secondary hai, if_neg hpartner]
    exact hlink.names

theorem Paired.release (h : Paired t) (hi : InRange i) : Paired (t.release i) where
  symm a b hlink := by
    obtain ⟨hlink, hai, hbi⟩ := (release_linked h hi).1 hlink
    exact (release_linked h hi).2 ⟨h.symm a b hlink, hbi, hai⟩
  irrefl a hlink := h.irrefl a ((release_linked h hi).1 hlink).1
  busy a b hlink := by
    obtain ⟨hlink, hai, -⟩ := (release_linked h hi).1 hlink
    exact (release_state hai).trans (h.busy a b hlink)

/-! ## Two slots are joined -/

theorem join_slot (hne : i ≠ j) (k : Int) :
    ((t.join i j).slot k).state = (t.slot k).state ∧
      ((t.join i j).slot k).secondary_cid =
        if k = i then j + 1 else if k = j then i + 1 else (t.slot k).secondary_cid := by
  unfold Table.join
  by_cases hkj : k = j
  · subst hkj
    rw [setSlot_self, setSlot_ne _ _ (Ne.symm hne), if_neg (Ne.symm hne), if_pos rfl]
    exact ⟨rfl, rfl⟩
  · rw [setSlot_ne _ _ hkj]
    by_cases hki : k = i
    · subst hki
      rw [setSlot_self, if_pos rfl]
      exact ⟨rfl, rfl⟩
    · rw [setSlot_ne _ _ hki, if_neg hki, if_neg hkj]
      exact ⟨rfl, rfl⟩

theorem join_linked (hne : i ≠ j) (hi : Fresh t i) (hj : Fresh t j) :
    Linked (t.join i j) a b ↔ a = i ∧ b = j ∨ a = j ∧ b = i ∨ Linked t a b := by
  constructor
  · rintro ⟨ha, hb, hn⟩
    rw [(join_slot hne a).2] at hn
    by_cases hai : a = i
    · rw [if_pos hai] at hn
      exact .inl ⟨hai, by omega⟩
    · rw [if_neg hai] at hn
      by_cases haj : a = j
      · rw [if_pos haj] at hn
        exact .inr (.inl ⟨haj, by omega⟩)
      · rw [if_neg haj] at hn
        exact .inr (.inr ⟨ha, hb, hn⟩)
  · rintro (⟨rfl, rfl⟩ | ⟨rfl, rfl⟩ | hlink)
    · refine ⟨hi.range, hj.range, ?_⟩
      rw [(join_slot hne a).2, if_pos rfl]
    · refine ⟨hj.range, hi.range, ?_⟩
      rw [(join_slot hne a).2, if_neg (Ne.symm hne), if_pos rfl]
    · refine ⟨hlink.left, hlink.right, ?_⟩
      have hai : a ≠ i := fun hai => hi.alone b (hai ▸ hlink)
      have haj : a ≠ j := fun haj => hj.alone b (haj ▸ hlink)
      rw [(join_slot hne a).2, if_neg hai, if_neg haj]
      exact hlink.names

theorem Paired.join (h : Paired t) (hne : i ≠ j) (hi : Fresh t i) (hj : Fresh t j) : Paired (t.join i j) where
  symm a b hlink := by
    refine (join_linked hne hi hj).2 ?_
    rcases (join_linked hne hi hj).1 hlink with ⟨ha, hb⟩ | ⟨ha, hb⟩ | hlink
    · exact .inr (.inl ⟨hb, ha⟩)
    · exact .inl ⟨hb, ha⟩
    · exact .inr (.inr (h.symm a b hlink))
  irrefl a hlink := by
    rcases (join_linked hne hi hj).1 hlink with ⟨ha, hb⟩ | ⟨ha, hb⟩ | hlink
    · exact hne (ha.symm.trans hb)
    · exact hne (hb.symm.trans ha)
    · exact h.irrefl a hlink
  busy a b hlink := by
    rw [(join_slot hne a).1]
    rcases (join_linked hne hi hj).1 hlink with ⟨ha, -⟩ | ⟨ha, -⟩ | hlink
    · exact ha ▸ hi.busy
    · exact ha ▸ hj.busy
    · exact h.busy a b hlink

/-! ## The moves -/

/-- Every move keeps the links of the table paired, and what is in hand free. -/
theorem paired_move (hmove : Move (p, t) (q, t')) (h : Paired t) (hhand : InHand t p) : Paired t' ∧ InHand t' q := by
  cases hmove with
  | take hi hidle => exact ⟨h.setState (h.alone hidle), .taken hi (h.alone hidle)⟩
  | mark => exact ⟨h.setCid, hhand.setCid⟩
  | putBack => exact ⟨h.setState hhand.alone, trivial⟩
  | drop => exact ⟨h.release hhand.range, trivial⟩
  | record => exact ⟨h.setCid, hhand.setCid⟩
  | keep => exact ⟨h, trivial⟩
  | takeSecond hj hidle =>
    rename_i i j
    have hne : i ≠ j := by
      rintro rfl
      rw [hhand.busy] at hidle
      cases hidle
    exact ⟨h.setState (h.alone hidle), hne, hhand.setState hne, .taken hj (h.alone hidle)⟩
  | join => exact ⟨h.join hhand.1 hhand.2.1 hhand.2.2, trivial⟩
  | recordSecond => exact ⟨h.setCid, trivial⟩
  | dropSecond => exact ⟨h.release hhand.2.2.range, trivial⟩
  | release hi => exact ⟨h.release hi, trivial⟩
  | markIdle => exact ⟨h.setCid, trivial⟩
  | clear => exact ⟨h.clear, trivial⟩

theorem Moves.paired {socket_id : RIL_SOCKET_ID} {w w' : World} (hmoves : Moves socket_id .rest w .rest w')
    (h : Paired (w.table socket_id)) : Paired (w'.table socket_id) := by
  have hall : ∀ x : Phase × Table, Relation.ReflTransGen Move (.rest, w.table socket_id) x →
      Paired x.2 ∧ InHand x.2 x.1 := by
    intro x hx
    induction hx with
    | refl => exact ⟨h, trivial⟩
    | tail _ hmove ih => exact paired_move hmove ih.1 ih.2
  exact (hall _ hmoves.moves).1

/-! ## Runs -/

/-- A partial involution of the slots, on slots that are in use. -/
structure PartialInvolution (socket_id : RIL_SOCKET_ID) (w : World) : Prop where
  names : ∀ i j, InRange i → InRange j →
    ((w.slot socket_id i).secondary_cid = j + 1 ↔ (w.slot socket_id j).secondary_cid = i + 1)
  irrefl : ∀ i, InRange i → (w.slot socket_id i).secondary_cid ≠ i + 1
  busy : ∀ i j, InRange i → InRange j → (w.slot socket_id i).secondary_cid = j + 1 →
    (w.slot socket_id i).state = .PDP_BUSY ∧ (w.slot socket_id j).state = .PDP_BUSY

variable {cfg : Config} {socket_id : RIL_SOCKET_ID} {data : SetupData}

theorem Paired.partialInvolution {w : World} (h : Paired (w.table socket_id)) : PartialInvolution socket_id w where
  names i j hi hj := ⟨fun hn => (h.symm i j ⟨hi, hj, hn⟩).names, fun hn => (h.symm j i ⟨hj, hi, hn⟩).names⟩
  irrefl i hi hn := h.irrefl i ⟨hi, hi, hn⟩
  busy i j hi hj hn := ⟨h.busy i j ⟨hi, hj, hn⟩, h.busy j i (h.symm i j ⟨hi, hj, hn⟩)⟩

/-- The links of all SIMs stay paired. -/
def StayPaired (w w' : World) : Prop := (∀ s, Paired (w.table s)) → ∀ s, Paired (w'.table s)

instance : IsPreorder World StayPaired where
  refl _ := id
  trans _ _ _ h h' := h' ∘ h

theorem table_slot (w : World) (s : RIL_SOCKET_ID) : (w.table s).slot = (w.sim s).s_PDP := rfl

/-- The links do not depend on the flags. -/
theorem Paired.of_slots (h : Paired t) (hslots : t'.slot = t.slot) : Paired t' := by
  refine h.congr (fun _ _ => linked_congr fun k => ?_) fun a _ _ => ?_
  · rw [hslots]
  · rw [hslots]

theorem stayPaired_of_slots {w w' : World} (h : ∀ s, (w'.sim s).s_PDP = (w.sim s).s_PDP) : StayPaired w w' :=
  fun hw s => (hw s).of_slots (h s)

theorem Moves.stayPaired {w w' : World} (h : Moves socket_id .rest w .rest w') : StayPaired w w' := by
  intro hw s
  by_cases hs : s = socket_id
  · subst hs
    exact h.paired (hw s)
  · exact (hw s).of_slots (congrArg Sim.s_PDP (h.others s hs))

theorem stayPaired_of_moves {α : Type} {m : M α} (h : MovesTo socket_id .rest m fun _ => .rest) : Keeps StayPaired m :=
  fun w => (h w).stayPaired

theorem stayPaired_modifyShared {f : Shared → Shared} : Keeps StayPaired (modifyShared f) :=
  fun _ => stayPaired_of_slots fun _ => rfl

theorem stayPaired_setupDataCall : Keeps StayPaired (requestSetupDataCall cfg socket_id data) := by
  unfold requestSetupDataCall
  refine .bind (stayPaired_of_moves movesTo_setupRounds) fun label => ?_
  split
  · refine .bind (stayPaired_of_moves movesTo_clear) fun _ => .bind stayPaired_modifyShared fun _ => ?_
    exact stayPaired_of_moves movesTo_requestOrSendDataCallList
  · refine .bind (.when (.bind (stayPaired_of_moves movesTo_releaseSlot) fun _ => stayPaired_modifyShared)) fun _ => ?_
    refine .bind (stayPaired_of_moves movesTo_clear) fun _ => .bind .reads fun _ => ?_
    exact fun _ => stayPaired_of_slots fun _ => rfl
  · exact .pure

/-- A +CGEV line only changes a cid. -/
theorem stayPaired_updatePDPCid {cid state : Int} : Keeps StayPaired (updatePDPCid socket_id cid state) := by
  refine .ite .pure fun w hw s => ?_
  by_cases hs : s = socket_id
  · subst hs
    rw [table_setPDP]
    have hkeeps : ∀ q : PDPInfo, (q.update cid state).secondary_cid = q.secondary_cid ∧ (q.update cid state).state = q.state := by
      intro q
      unfold PDPInfo.update
      split_ifs <;> exact ⟨rfl, rfl⟩
    refine (hw s).congr (linked_setSlot fun q => (hkeeps q).1) fun a _ _ => ?_
    by_cases ha : a = cid - 1
    · subst ha
      rw [setSlot_self]
      exact (hkeeps _).2
    · rw [setSlot_ne _ _ ha]
  · exact (hw s).of_slots (congrArg Sim.s_PDP (others_modifySim s hs))

theorem stayPaired_unsolicited {s : Line} : Keeps StayPaired (processDataUnsolicited socket_id s) := by
  unfold processDataUnsolicited processCgev
  refine .ite ?_ (.ite (stayPaired_of_moves movesTo_processCend) .pure)
  split
  · exact stayPaired_updatePDPCid
  · exact .pure

theorem stayPaired_reset : Keeps StayPaired onModemReset_Data := by
  unfold onModemReset_Data
  refine .bind stayPaired_modifyShared fun _ => .bind (stayPaired_of_moves movesTo_resetSim) fun _ => ?_
  exact .bind (stayPaired_of_moves movesTo_resetSim) fun _ => stayPaired_modifyShared

theorem call_stayPaired (w : World) (c : Call) : StayPaired w (call cfg w c) := by
  cases c with
  | serve socket_id op =>
    have hcode : Keeps StayPaired (op.code cfg socket_id) := by
      cases op with
      | setupDataCall => exact stayPaired_setupDataCall
      | deactivateDataCall => exact stayPaired_of_moves movesTo_deactivate
      | detach => exact stayPaired_of_moves movesTo_detachGPRS
      | dataCallListChanged => exact stayPaired_of_moves movesTo_requestOrSendDataCallList
      | unsolicited => exact stayPaired_unsolicited
    exact hcode (w.enter op)
  | modemReset => exact stayPaired_reset { w with log := [] }

theorem paired_init (env : Env) (s : RIL_SOCKET_ID) : Paired ((World.init env).table s) := by
  have hnone : ∀ i j, ¬ Linked ((World.init env).table s) i j := by
    rintro i j ⟨-, ⟨h0, -⟩, hn⟩
    have hminus : (-1 : Int) = j + 1 := hn
    omega
  exact ⟨fun i j h => (hnone i j h).elim, fun i => hnone i i, fun i j h => (hnone i j h).elim⟩

/-- **The second contexts** form a partial involution after every run. -/
theorem mapping_partialInvolution (cfg : Config) (env : Env) (cs : List Call) (socket_id : RIL_SOCKET_ID) :
    PartialInvolution socket_id (cs.foldl (call cfg) (World.init env)) := by
  have hrun : ∀ w, (∀ s, Paired (w.table s)) → ∀ s, Paired ((cs.foldl (call cfg) w).table s) := by
    induction cs with
    | nil => exact fun _ hw => hw
    | cons c cs ih => exact fun w hw => ih _ (call_stayPaired w c hw)
  exact (hrun _ (paired_init env) socket_id).partialInvolution

end UniRil.Data
