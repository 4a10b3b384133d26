import UniRil.Data.Rounds

/-!
# The life of a slot

An abstract machine over the slots of one SIM and the flags `pdpState`. A request takes a slot,
records its cid, and may join a second slot to it; all of this ends before the next request. The
functions of the other modules only make moves of this machine.
-/

namespace UniRil.Data

open StateRules

/-! ## The machine -/

@[ext]
structure Table where
  slot : Int → PDPInfo
  flag : Int → Bool

/-- What the request in progress has in hand. -/
inductive Phase
  | rest
  /-- The slot is taken, its cid not recorded yet. -/
  | taken (i : Int)
  /-- The call of the slot is up and may get a second context. -/
  | first (i : Int)
  | second (i j : Int)
  deriving DecidableEq

def InRange (i : Int) : Prop := 0 ≤ i ∧ i < MAX_PDP

instance (i : Int) : Decidable (InRange i) := inferInstanceAs (Decidable (0 ≤ i ∧ i < MAX_PDP))

def Table.setSlot (t : Table) (i : Int) (f : PDPInfo → PDPInfo) : Table :=
  { t with slot := Function.update t.slot i (f (t.slot i)) }

/-- The partner of the slot forgets it. -/
def Table.forget (t : Table) (i : Int) : Table :=
  if 0 < (t.slot i).secondary_cid ∧ (t.slot i).secondary_cid ≤ MAX_PDP then
    t.setSlot ((t.slot i).secondary_cid - 1) fun q => { q with secondary_cid := -1 }
  else t

def Table.release (t : Table) (i : Int) : Table :=
  { (t.forget i).setSlot i fun _ => s_PDP_init with flag := Function.update t.flag i false }

def Table.join (t : Table) (i j : Int) : Table :=
  (t.setSlot i fun p => { p with cid := i + 1, secondary_cid := j + 1, isPrimary := true }).setSlot j
    fun p => { p with cid := j + 1, secondary_cid := i + 1, isPrimary := false }

def Table.setState (t : Table) (i : Int) (state : PDPState) : Table := t.setSlot i fun p => { p with state := state }

def Table.setCid (t : Table) (i cid : Int) : Table := t.setSlot i fun p => { p with cid := cid }

/-- The slots given up can be used again. -/
def Table.clear (t : Table) : Table :=
  { t with slot := fun i =>
      if 0 ≤ i ∧ i < MAX_PDP ∧ (t.slot i).cid = UNUSABLE_CID then { t.slot i with cid := -1 } else t.slot i }

inductive Move : Phase × Table → Phase × Table → Prop
  | take {t : Table} {i : Int} (hi : InRange i) (hidle : (t.slot i).state = .PDP_IDLE) :
    Move (.rest, t) (.taken i, t.setState i .PDP_BUSY)
  | mark {t : Table} {i cid : Int} : Move (.taken i, t) (.taken i, t.setCid i cid)
  | putBack {t : Table} {i : Int} : Move (.taken i, t) (.rest, t.setState i .PDP_IDLE)
  | drop {t : Table} {i : Int} : Move (.taken i, t) (.rest, t.release i)
  | record {t : Table} {i : Int} : Move (.taken i, t) (.first i, t.setCid i (i + 1))
  | keep {t : Table} {i : Int} : Move (.first i, t) (.rest, t)
  | takeSecond {t : Table} {i j : Int} (hj : InRange j) (hidle : (t.slot j).state = .PDP_IDLE) :
    Move (.first i, t) (.second i j, t.setState j .PDP_BUSY)
  | join {t : Table} {i j : Int} : Move (.second i j, t) (.rest, t.join i j)
  | recordSecond {t : Table} {i j : Int} : Move (.second i j, t) (.rest, t.setCid j (j + 1))
  | dropSecond {t : Table} {i j : Int} : Move (.second i j, t) (.rest, t.release j)
  | release {t : Table} {i : Int} (hi : InRange i) : Move (.rest, t) (.rest, t.release i)
  | markIdle {t : Table} {i cid : Int} (hidle : (t.slot i).state = .PDP_IDLE) : Move (.rest, t) (.rest, t.setCid i cid)
  | clear {t : Table} : Move (.rest, t) (.rest, t.clear)

/-! ## What the code makes of the table -/

def World.table (w : World) (socket_id : RIL_SOCKET_ID) : Table where
  slot := (w.sim socket_id).s_PDP
  flag i := (w.shared.s_openchannelInfo i).pdpState

/-- The table of the SIM has moved, and the other SIMs are as before. -/
structure Moves (socket_id : RIL_SOCKET_ID) (p : Phase) (w : World) (p' : Phase) (w' : World) : Prop where
  others : ∀ s ≠ socket_id, w'.sim s = w.sim s
  moves : Relation.ReflTransGen Move (p, w.table socket_id) (p', w'.table socket_id)

/-- From the phase `p`, a call leads to the phase that `q` assigns to its result. -/
def MovesTo {α : Type} (socket_id : RIL_SOCKET_ID) (p : Phase) (m : M α) (q : α → Phase) : Prop :=
  ∀ w, Moves socket_id p w (q (m w).1) (m w).2

variable {cfg : Config} {socket_id : RIL_SOCKET_ID} {data : SetupData} {α β : Type} {p q r : Phase} {w w' w'' : World}

theorem Moves.refl (w : World) : Moves socket_id p w p w := ⟨fun _ _ => rfl, .refl⟩

theorem Moves.trans (h : Moves socket_id p w q w') (h' : Moves socket_id q w' r w'') : Moves socket_id p w r w'' :=
  ⟨fun s hs => (h'.others s hs).trans (h.others s hs), h.moves.trans h'.moves⟩

theorem Moves.one (hothers : ∀ s ≠ socket_id, w'.sim s = w.sim s)
    (h : Move (p, w.table socket_id) (q, w'.table socket_id)) : Moves socket_id p w q w' :=
  ⟨hothers, .single h⟩

theorem MovesTo.pure {a : α} {q : α → Phase} (h : q a = p) : MovesTo socket_id p (pure a : M α) q := by
  intro w
  rw [pure_apply, h]
  exact .refl w

theorem MovesTo.bind {m : M α} {f : α → M β} {q : α → Phase} {r : β → Phase} (hm : MovesTo socket_id p m q)
    (hf : ∀ a, MovesTo socket_id (q a) (f a) r) : MovesTo socket_id p (m >>= f) r :=
  fun w => (hm w).trans (hf _ _)

theorem MovesTo.ite {c : Prop} [Decidable c] {m n : M α} {q : α → Phase} (hm : c → MovesTo socket_id p m q)
    (hn : ¬ c → MovesTo socket_id p n q) : MovesTo socket_id p (if c then m else n) q := by
  split
  · exact hm (by assumption)
  · exact hn (by assumption)

theorem MovesTo.when {c : Prop} [Decidable c] {m : M PUnit} (hm : MovesTo socket_id p m fun _ => p) :
    MovesTo socket_id p (when c m) fun _ => p :=
  .ite (fun _ => hm) fun _ => .pure rfl

/-- Neither the table of the SIM nor the other SIMs have changed. -/
structure Still (socket_id : RIL_SOCKET_ID) (w w' : World) : Prop where
  others : ∀ s ≠ socket_id, w'.sim s = w.sim s
  table : w'.table socket_id = w.table socket_id

instance : IsPreorder World (Still socket_id) where
  refl _ := ⟨fun _ _ => rfl, rfl⟩
  trans _ _ _ h h' := ⟨fun s hs => (h'.others s hs).trans (h.others s hs), h'.table.trans h.table⟩

theorem Still.moves (h : Still socket_id w w') : Moves socket_id p w p w' := by
  refine ⟨h.others, ?_⟩
  rw [h.table]

theorem movesTo_still {m : M α} (h : Keeps (Still socket_id) m) : MovesTo socket_id p m fun _ => p := fun w => (h w).moves

theorem still_quiet {m : M α} {cid : Int} (h : Keeps (Quiet socket_id cid) m) : Keeps (Still socket_id) m :=
  h.mono fun w w' hq => ⟨hq.others, by rw [World.table, World.table, hq.slots, hq.channels]⟩

theorem movesTo_quiet {m : M α} {cid : Int} (h : Keeps (Quiet socket_id cid) m) : MovesTo socket_id p m fun _ => p :=
  movesTo_still (still_quiet h)

theorem still_send {cmd : AtCommand} : Keeps (Still socket_id) (at_send_command cmd) := fun _ => ⟨fun _ _ => rfl, rfl⟩

theorem still_note {e : Event} : Keeps (Still socket_id) (note e) := fun _ => ⟨fun _ _ => rfl, rfl⟩

/-- The flags are not touched. -/
theorem still_modifyShared {f : Shared → Shared}
    (h : ∀ g i, ((f g).s_openchannelInfo i).pdpState = (g.s_openchannelInfo i).pdpState) :
    Keeps (Still socket_id) (modifyShared f) :=
  fun w => ⟨fun _ _ => rfl, congrArg (Table.mk _) (funext (h w.shared))⟩

theorem still_setChannel {i : Int} {f : OpenchannelInfo → OpenchannelInfo} (h : ∀ c, (f c).pdpState = c.pdpState) :
    Keeps (Still socket_id) (modifyShared (·.setChannel i f)) := by
  refine still_modifyShared fun g j => ?_
  by_cases hj : j = i
  · subst hj
    simp [Shared.setChannel, h]
  · simp [Shared.setChannel, hj]

theorem still_modifySim {f : Sim → Sim} (h : ∀ m, (f m).s_PDP = m.s_PDP) : Keeps (Still socket_id) (modifySim socket_id f) := by
  intro w
  refine ⟨fun _ hs => setSim_ne w f hs, ?_⟩
  rw [modifySim, modify_apply, World.table, setSim_self, h]
  rfl

theorem still_failCause {cause : FailCause} : Keeps (Still socket_id) (setFailCause socket_id cause) :=
  still_modifySim fun _ => rfl

theorem still_sendAuthAndQos {cid : Int} : Keeps (Still socket_id) (sendAuthAndQos cfg socket_id data cid) :=
  .bind still_send fun _ => .bind .reads fun _ => .when (.bind still_send fun _ => .pure)

/-! ## The slots -/

theorem table_modifySim {f : Sim → Sim} {t : Table} (hslot : (f (w.sim socket_id)).s_PDP = t.slot)
    (hflag : (w.table socket_id).flag = t.flag) : (modifySim socket_id f w).2.table socket_id = t := by
  rw [modifySim, modify_apply, World.table, setSim_self, hslot]
  exact congrArg (Table.mk _) hflag

theorem others_modifySim {f : Sim → Sim} : ∀ s ≠ socket_id, (modifySim socket_id f w).2.sim s = w.sim s :=
  fun _ hs => setSim_ne w f hs

theorem simPutPDP_slots (m : Sim) (flag : Int → Bool) (i : Int) :
    (m.putPDP i).s_PDP = (Table.release { slot := m.s_PDP, flag := flag } i).slot := by
  unfold Sim.putPDP Table.release Table.forget
  dsimp only
  split <;> rfl

theorem lowered_flags (g : Shared) (i : Int) :
    (fun j => ((g.setChannel i fun c => { c with count := 0, pdpState := false }).s_openchannelInfo j).pdpState) =
      Function.update (fun j => (g.s_openchannelInfo j).pdpState) i false := by
  funext j
  by_cases hj : j = i
  · subst hj
    simp [Shared.setChannel]
  · simp [Shared.setChannel, hj]

theorem table_putPDP {i : Int} (hi : InRange i) :
    (putPDP socket_id i w).2.table socket_id = (w.table socket_id).release i := by
  have hif : ¬(i < 0 ∨ MAX_PDP ≤ i) := by
    obtain ⟨h0, h6⟩ := hi
    omega
  have hslots : ((putPDP socket_id i w).2.sim socket_id).s_PDP = ((w.table socket_id).release i).slot := by
    rw [putPDP, if_neg hif]
    exact (congrArg Sim.s_PDP (setSim_self w (·.putPDP i))).trans (simPutPDP_slots _ _ _)
  have hflags : ((putPDP socket_id i w).2.table socket_id).flag = ((w.table socket_id).release i).flag := by
    rw [putPDP, if_neg hif]
    exact lowered_flags w.shared i
  rw [World.table, hslots]
  exact congrArg (Table.mk _) hflags

theorem others_putPDP {i : Int} : ∀ s ≠ socket_id, (putPDP socket_id i w).2.sim s = w.sim s := by
  intro s hs
  rw [putPDP]
  split
  · rfl
  · exact setSim_ne w (·.putPDP i) hs

/-- A release that the machine allows. -/
theorem movesTo_putPDP {i : Int} (hi : InRange i) (h : ∀ t : Table, Move (p, t) (q, t.release i)) :
    MovesTo socket_id p (putPDP socket_id i) fun _ => q := by
  intro w
  refine .one others_putPDP ?_
  rw [table_putPDP hi]
  exact h _

/-- At rest any slot may be released; the functions test the number. -/
theorem movesTo_release {i : Int} : MovesTo socket_id .rest (putPDP socket_id i) fun _ => .rest := by
  by_cases hi : InRange i
  · exact movesTo_putPDP hi fun _ => .release hi
  · rw [putPDP, if_pos (by rw [InRange] at hi; omega)]
    exact .pure rfl

theorem table_setPDP {i : Int} {f : PDPInfo → PDPInfo} :
    (modifySim socket_id (·.setPDP i f) w).2.table socket_id = (w.table socket_id).setSlot i f :=
  table_modifySim rfl rfl

/-- A write to one slot that the machine allows. -/
theorem movesTo_setPDP {i : Int} {f : PDPInfo → PDPInfo} (h : ∀ t : Table, Move (p, t) (q, t.setSlot i f)) :
    MovesTo socket_id p (modifySim socket_id (·.setPDP i f)) fun _ => q := by
  intro w
  refine .one others_modifySim ?_
  rw [table_setPDP]
  exact h _

theorem movesTo_setCid {i cid : Int} (h : ∀ t : Table, Move (p, t) (q, t.setCid i cid)) :
    MovesTo socket_id p (modifySim socket_id (·.setPDP i fun s => { s with cid := cid })) fun _ => q :=
  movesTo_setPDP h

theorem updatePDPCid_eq {i state : Int} (hi : InRange i) :
    updatePDPCid socket_id (i + 1) state = modifySim socket_id (·.setPDP i (·.update (i + 1) state)) := by
  have hif : ¬(i + 1 ≤ 0 ∨ MAX_PDP < i + 1) := by
    obtain ⟨h0, h6⟩ := hi
    omega
  rw [updatePDPCid, if_neg hif, Int.add_sub_cancel]

/-- The cid of the slot is recorded. -/
theorem movesTo_record {i : Int} (hi : InRange i) (h : ∀ t : Table, Move (p, t) (q, t.setCid i (i + 1))) :
    MovesTo socket_id p (updatePDPCid socket_id (i + 1) 1) fun _ => q := by
  rw [updatePDPCid_eq hi]
  exact movesTo_setCid h

/-- A slot that was never up is marked, if it has no cid yet. -/
theorem updatePDPCid_giveUp {i : Int} (hi : InRange i) :
    (updatePDPCid socket_id (i + 1) (-1) w).2.table socket_id =
      (w.table socket_id).setCid i
        (if ((w.table socket_id).slot i).cid = -1 then UNUSABLE_CID else ((w.table socket_id).slot i).cid) := by
  rw [updatePDPCid_eq hi, table_setPDP, Table.setCid, Table.setSlot, Table.setSlot, PDPInfo.update, if_neg (by decide),
    if_neg (by decide)]
  split
  · rename_i h
    rw [if_pos h.2]
  · rename_i h
    rw [if_neg fun hc => h ⟨rfl, hc⟩]

theorem others_updatePDPCid {cid state : Int} : ∀ s ≠ socket_id, (updatePDPCid socket_id cid state w).2.sim s = w.sim s := by
  intro s hs
  rw [updatePDPCid]
  split
  · rfl
  · exact others_modifySim s hs

theorem movesTo_putBack {i : Int} (hi : InRange i) :
    MovesTo socket_id (.taken i) (putPDPByIndex socket_id i) fun _ => .rest := by
  have hif : ¬(i < 0 ∨ MAX_PDP ≤ i) := by
    obtain ⟨h0, h6⟩ := hi
    omega
  rw [putPDPByIndex, if_neg hif]
  exact movesTo_setPDP fun _ => .putBack

theorem movesTo_clear : MovesTo socket_id .rest (putUnusablePDPCid socket_id) fun _ => .rest := by
  intro w
  refine .one others_modifySim ?_
  have htable : (putUnusablePDPCid socket_id w).2.table socket_id = (w.table socket_id).clear :=
    table_modifySim rfl rfl
  rw [htable]
  exact .clear

/-! ## One activation -/

theorem movesTo_join {i j : Int} (hi : InRange i) (hj : InRange j) :
    MovesTo socket_id (.second i j) (setPDPMapping socket_id i j) fun _ => .rest := by
  have hif : ¬(i < 0 ∨ MAX_PDP ≤ i ∨ j < 0 ∨ MAX_PDP ≤ j) := by
    obtain ⟨h0, h6⟩ := hi
    obtain ⟨h0', h6'⟩ := hj
    omega
  rw [setPDPMapping, if_neg hif]
  intro w
  refine .one others_modifySim ?_
  have htable : (modifySim socket_id (·.setPDPMapping i j) w).2.table socket_id = (w.table socket_id).join i j :=
    table_modifySim rfl rfl
  rw [htable]
  exact .join

theorem movesTo_joinContexts {i j : Int} (hi : InRange i) (hj : InRange j) :
    MovesTo socket_id (.second i j) (joinContexts socket_id (j + 1) (i + 1)) fun _ => .rest := by
  unfold joinContexts
  rw [Int.add_sub_cancel, Int.add_sub_cancel]
  refine .bind (movesTo_still .reads) fun ipType => .ite (fun _ => ?_) fun _ => ?_
  · refine .bind (movesTo_still still_send) fun _ => .bind (movesTo_quiet quiet_deact) fun _ => ?_
    exact .bind (movesTo_putPDP hj fun _ => .dropSecond) fun _ => .pure rfl
  · exact .bind (movesTo_join hi hj) fun _ => .pure rfl

theorem movesTo_trafficClass : MovesTo socket_id p (modifySim socket_id fun m => { m with s_trafficClass := 2 }) fun _ => p :=
  movesTo_still (still_modifySim fun _ => rfl)

/-- The phase after the activation of the slot `i`, which was taken. -/
def Phase.after (i ret : Int) : Phase := if ret = DATA_ACTIVE_SUCCESS then .first i else .rest

theorem movesTo_activated {i : Int} (hi : InRange i) :
    MovesTo socket_id (.taken i) (activated socket_id (i + 1) 0) (.after i) := by
  have hsettle : MovesTo socket_id (.taken i) (settleContext socket_id (i + 1) 0) (.after i) := by
    rw [settleContext, if_neg (by decide), recordCid]
    exact .bind (movesTo_record hi fun _ => .record) fun _ => .pure rfl
  unfold activated
  exact .bind hsettle fun ret => .bind movesTo_trafficClass fun _ => .pure rfl

/-- The second slot is joined to the first or stands for itself. -/
theorem movesTo_activatedSecond {i j primaryCid : Int} (hi : InRange i) (hj : InRange j)
    (hprimary : primaryCid = 0 ∨ primaryCid = i + 1) :
    MovesTo socket_id (.second i j) (activated socket_id (j + 1) primaryCid) fun _ => .rest := by
  have hsettle : MovesTo socket_id (.second i j) (settleContext socket_id (j + 1) primaryCid) fun _ => .rest := by
    unfold settleContext recordCid
    rcases hprimary with rfl | rfl
    · rw [if_neg (by decide)]
      exact .bind (movesTo_record hj fun _ => .recordSecond) fun _ => .pure rfl
    · rw [if_pos (by have := hi.1; omega)]
      exact movesTo_joinContexts hi hj
  unfold activated
  exact .bind hsettle fun ret => .bind movesTo_trafficClass fun _ => .pure rfl

/-- An activation goes on as `activated` or gives its slot back. -/
theorem movesTo_activeSpeciedCidProcess {i primaryCid : Int} {pdp_type : Line} {q : Int → Phase}
    (hput : MovesTo socket_id p (putPDP socket_id i) fun _ => .rest)
    (hup : MovesTo socket_id p (activated socket_id (i + 1) primaryCid) q)
    (hq : ∀ ret ≠ DATA_ACTIVE_SUCCESS, q ret = .rest) :
    MovesTo socket_id p (activeSpeciedCidProcess cfg socket_id data (i + 1) pdp_type primaryCid) q := by
  unfold activeSpeciedCidProcess
  rw [Int.add_sub_cancel]
  refine .bind (movesTo_still still_send) fun _ => .bind (movesTo_quiet quiet_deact) fun _ => ?_
  refine .bind (movesTo_still still_send) fun cgdcont => .ite (fun _ => ?_) fun _ => ?_
  · refine .bind (movesTo_still still_sendAuthAndQos) fun _ => .bind (movesTo_quiet quiet_sendCgdata) fun ret => ?_
    exact .ite (fun hret => .bind hput fun _ => .pure (hq ret hret)) fun _ => hup
  · exact .bind (movesTo_still still_failCause) fun _ => .bind hput fun _ => .pure (hq _ (by decide))

theorem movesTo_activation {i : Int} {pdp_type : Line} (hi : InRange i) :
    MovesTo socket_id (.taken i) (activeSpeciedCidProcess cfg socket_id data (i + 1) pdp_type 0) (.after i) :=
  movesTo_activeSpeciedCidProcess (movesTo_putPDP hi fun _ => .drop) (movesTo_activated hi) fun _ hret => if_neg hret

theorem movesTo_secondActivation {i j primaryCid : Int} {pdp_type : Line} (hi : InRange i) (hj : InRange j)
    (hprimary : primaryCid = 0 ∨ primaryCid = i + 1) :
    MovesTo socket_id (.second i j) (activeSpeciedCidProcess cfg socket_id data (j + 1) pdp_type primaryCid)
      fun _ => .rest :=
  movesTo_activeSpeciedCidProcess (movesTo_putPDP hj fun _ => .dropSecond) (movesTo_activatedSecond hi hj hprimary)
    fun _ _ => rfl

/-! ## Taking a slot -/

theorem getPDP_moves (h : (getPDP cfg socket_id w).1 ≠ -1) :
    InRange (getPDP cfg socket_id w).1 ∧ ((w.table socket_id).slot (getPDP cfg socket_id w).1).state = .PDP_IDLE ∧
      (∀ s ≠ socket_id, (getPDP cfg socket_id w).2.sim s = w.sim s) ∧
      (getPDP cfg socket_id w).2.table socket_id =
        (w.table socket_id).setState (getPDP cfg socket_id w).1 .PDP_BUSY := by
  unfold getPDP at h ⊢
  cases hfind : (slotIndexes cfg).find? (isFree cfg socket_id w) with
  | none =>
    rw [hfind] at h
    exact (h rfl).elim
  | some i =>
    have hfree := List.find?_some hfind
    simp only [isFree, Bool.and_eq_true, decide_eq_true_eq] at hfree
    refine ⟨mem_slotIndexes (List.mem_of_find?_eq_some hfind), hfree.2.1, ?_, ?_⟩
    · exact others_modifySim (w := w) (f := (·.setPDP i fun p => { p with state := .PDP_BUSY }))
    · exact table_modifySim (w := w) (f := (·.setPDP i fun p => { p with state := .PDP_BUSY })) rfl rfl

/-- A slot is taken at rest and activated. -/
theorem take_moves (h : (getPDP cfg socket_id w).1 ≠ -1) :
    Moves socket_id .rest w (.taken (getPDP cfg socket_id w).1) (getPDP cfg socket_id w).2 := by
  obtain ⟨hi, hidle, hothers, htable⟩ := getPDP_moves h
  refine .one hothers ?_
  rw [htable]
  exact .take hi hidle

theorem takeSecond_moves {i : Int} (h : (getPDP cfg socket_id w).1 ≠ -1) :
    Moves socket_id (.first i) w (.second i (getPDP cfg socket_id w).1) (getPDP cfg socket_id w).2 := by
  obtain ⟨hj, hidle, hothers, htable⟩ := getPDP_moves h
  refine .one hothers ?_
  rw [htable]
  exact .takeSecond hj hidle

theorem movesTo_keep {i : Int} {a : α} : MovesTo socket_id (.first i) (pure a : M α) fun _ => .rest :=
  fun _ => .one (fun _ _ => rfl) .keep

theorem movesTo_after {i ret : Int} {a : α} : MovesTo socket_id (.after i ret) (pure a : M α) fun _ => .rest := by
  unfold Phase.after
  split
  · exact movesTo_keep
  · exact .pure rfl

theorem movesTo_checkFallBack {i : Int} {pdp_type : Line} (hi : InRange i) :
    MovesTo socket_id (.first i) (checkFallBack cfg socket_id data pdp_type i) fun _ => .rest := by
  intro w
  have hquery : MovesTo socket_id (.first i) (secondContext cfg socket_id pdp_type i) fun _ => .first i :=
    movesTo_quiet (@quiet_secondContext cfg socket_id 0 _ _)
  refine (hquery w).trans ?_
  unfold checkFallBack
  rw [bind_apply]
  cases hsecond : (secondContext cfg socket_id pdp_type i w).1 with
  | none => exact movesTo_keep _
  | some second =>
    obtain ⟨type, primaryCid⟩ := second
    simp only
    rw [takeSlot_apply]
    split
    · exact movesTo_keep _
    · rename_i hindex
      obtain ⟨hj, -⟩ := getPDP_moves hindex
      have hactivate : MovesTo socket_id (.second i (getPDP cfg socket_id (secondContext cfg socket_id pdp_type i w).2).1)
          (do
            let _ ← activeSpeciedCidProcess cfg socket_id data
              ((getPDP cfg socket_id (secondContext cfg socket_id pdp_type i w).2).1 + 1) type primaryCid
            pure ()) fun _ => .rest :=
        .bind (movesTo_secondActivation hi hj (secondContext_primary hsecond)) fun _ => .pure rfl
      exact (takeSecond_moves hindex).trans (hactivate _)

theorem movesTo_fallbackIPV6 : MovesTo socket_id .rest (fallbackIPV6 cfg socket_id data) fun _ => .rest := by
  intro w
  unfold fallbackIPV6
  rw [takeSlot_apply]
  split
  · have hfail : MovesTo socket_id .rest (do
        setFailCause socket_id .PDP_FAIL_ERROR_UNSPECIFIED
        putPDP socket_id (-1)) fun _ => .rest :=
      .bind (movesTo_still still_failCause) fun _ => movesTo_release
    exact hfail w
  · rename_i hindex
    obtain ⟨hi, -⟩ := getPDP_moves hindex
    have hactivate : MovesTo socket_id (.taken (getPDP cfg socket_id w).1) (do
        let _ ← activeSpeciedCidProcess cfg socket_id data ((getPDP cfg socket_id w).1 + 1) (ascii "IPV6") 0
        pure ()) fun _ => .rest :=
      .bind (movesTo_activation hi) fun _ => movesTo_after
    exact (take_moves hindex).trans (hactivate _)

/-! ## The fallback to two contexts -/

theorem still_sendFallbackCgdata {index : Int} : Keeps (Still socket_id) (sendFallbackCgdata cfg socket_id index) := by
  unfold sendFallbackCgdata
  refine .bind (still_modifyShared fun _ _ => rfl) fun _ => ?_
  refine .bind (still_send) fun reply => ?_
  refine .bind (fun w => ?_) fun _ => still_quiet quiet_errorHandling
  have hrsp := @quiet_cgdata_rsp cfg socket_id _ reply index 0 w rfl
  exact ⟨hrsp.others, by rw [World.table, World.table, hrsp.slots, hrsp.channels]⟩

/-- The slot that the first activation released gets its cid back. -/
theorem markIdle_moves {i : Int} (hi : InRange i) (hidle : ((w.table socket_id).slot i).state = .PDP_IDLE) :
    Moves socket_id .rest w .rest (updatePDPCid socket_id (i + 1) 1 w).2 := by
  refine .one others_updatePDPCid ?_
  rw [updatePDPCid_eq hi, table_setPDP]
  exact .markIdle hidle

theorem fallback_moves {i : Int} (hi : InRange i) (hidle : ((w.table socket_id).slot i).state = .PDP_IDLE) :
    Moves socket_id .rest w .rest (doIPV4_IPV6_Fallback cfg socket_id i data w).2 := by
  -- as long as the table stands still, the slot is idle
  let Q : World → Bool → World → Prop := fun w _ w' =>
    ((w.table socket_id).slot i).state = .PDP_IDLE → Moves socket_id .rest w .rest w'
  have hQ : ∀ w w' ok w'', Still socket_id w w' → Q w' ok w'' → Q w ok w'' :=
    fun w w' ok w'' hs hq hidle => hs.moves.trans (hq (by rw [hs.table]; exact hidle))
  have hpure : Spec (pure false : M Bool) Q := fun w _ => .refl w
  have hspec : Spec (doIPV4_IPV6_Fallback cfg socket_id i data) Q := by
    unfold doIPV4_IPV6_Fallback
    refine .after hQ (still_send) fun cgdcont => .ite (fun _ => ?_) fun _ => ?_
    · refine .after hQ still_sendFallbackCgdata fun ret => .ite (fun _ => hpure) fun _ => ?_
      have hfallback : MovesTo socket_id .rest (do fallbackIPV6 cfg socket_id data; pure true) fun _ => .rest :=
        .bind movesTo_fallbackIPV6 fun _ => .pure rfl
      exact fun w hidle => (markIdle_moves hi hidle).trans (hfallback _)
    · exact .after hQ still_failCause fun _ => hpure
  exact hspec w hidle

/-! ## Reuse of a default bearer -/

theorem movesTo_afterReuse {type : Line} {i ret cgdata_err : Int} (hi : InRange i) :
    MovesTo socket_id (.taken i) (afterReuse cfg socket_id data type i ret cgdata_err) fun _ => .rest := by
  unfold afterReuse
  refine .ite (fun _ => ?_) fun _ => .ite (fun _ => ?_) fun _ => .bind (movesTo_putBack hi) fun _ => .pure rfl
  · refine .bind (movesTo_record hi fun _ => .record) fun _ => ?_
    refine .bind (movesTo_still (still_modifyShared fun _ _ => rfl)) fun _ => ?_
    exact .bind (movesTo_checkFallBack hi) fun _ => .pure rfl
  · refine .bind (q := fun _ => .taken i) (fun w => .one others_updatePDPCid ?_) fun _ => ?_
    · rw [updatePDPCid_giveUp hi]
      exact .mark
    · exact .bind (movesTo_putBack hi) fun _ => .pure rfl

theorem reuseIdleSlot_moves {type : Line} {i ret : Int} (hi : InRange i)
    (hidle : ((w.table socket_id).slot i).state = .PDP_IDLE) :
    Moves socket_id .rest w .rest (reuseIdleSlot cfg socket_id data type i ret w).2 := by
  have htake : Moves socket_id .rest w (.taken i) (getPDPByIndex socket_id i w).2 := by
    rw [getPDPByIndex, if_pos ⟨hi.1, hi.2, hidle⟩]
    refine .one (others_modifySim (w := w) (f := (·.setPDP i fun p => { p with state := .PDP_BUSY }))) ?_
    have htable : (w.setSim socket_id (·.setPDP i fun p => { p with state := .PDP_BUSY })).table socket_id =
        (w.table socket_id).setState i .PDP_BUSY :=
      table_modifySim (w := w) (f := (·.setPDP i fun p => { p with state := .PDP_BUSY })) rfl rfl
    show Move _ (_, (w.setSim socket_id (·.setPDP i fun p => { p with state := .PDP_BUSY })).table socket_id)
    rw [htable]
    exact .take hi hidle
  have hactivate : MovesTo socket_id (.taken i) (do
      cgact_deact_cmd_rsp (i + 1)
      let _ ← at_send_command (.CGDCONT (i + 1) type data.apn)
      sendAuthAndQos cfg socket_id data (i + 1)
      let cgdata_err ← sendCgdata cfg socket_id true (i + 1) 0
      afterReuse cfg socket_id data type i ret cgdata_err) fun _ => .rest := by
    refine .bind (movesTo_quiet quiet_deact) fun _ => .bind (movesTo_still still_send) fun _ => ?_
    refine .bind (movesTo_still still_sendAuthAndQos) fun _ => ?_
    exact .bind (movesTo_quiet quiet_sendCgdata) fun _ => movesTo_afterReuse hi
  exact htake.trans (hactivate _)

theorem movesTo_reuseLoop {type : Line} {is : List Int} (his : ∀ i ∈ is, InRange i) (ret : Int) :
    MovesTo socket_id .rest (reuseLoop cfg socket_id data type is ret) fun _ => .rest := by
  induction is generalizing ret with
  | nil => exact .pure rfl
  | cons i is ih =>
    have hi := his i List.mem_cons_self
    replace ih := ih fun j hj => his j (List.mem_cons_of_mem _ hj)
    intro w
    rw [reuseLoop, readShared, reads_bind, readSim, reads_bind, if_apply]
    split
    · rw [bind_apply, getPDPState_apply hi]
      simp only [if_apply]
      split
      · exact reuseIdleSlot_moves hi (by assumption)
      · rw [readShared, reads_bind]
        exact ih _ w
    · exact ih ret w

theorem movesTo_reuseDefaultBearer {type : Line} :
    MovesTo socket_id .rest (reuseDefaultBearer cfg socket_id data type) fun _ => .rest := by
  unfold reuseDefaultBearer
  refine .ite (fun _ => ?_) fun _ => .pure rfl
  refine .bind (movesTo_quiet (@quiet_queryAllActivePDNInfos socket_id 0)) fun _ => ?_
  refine .bind (movesTo_still .reads) fun _ => .ite (fun _ => ?_) fun _ => .pure rfl
  exact movesTo_reuseLoop (by simp only [InRange]; decide) _

/-! ## The rounds of a setup -/

/-- The result of an activation decides how to go on; the slot is idle unless it is up. -/
theorem afterActivation_moves {k : Retry} {ret : Int} (hi : InRange k.index)
    (hidle : ret ≠ DATA_ACTIVE_SUCCESS → ((w.table socket_id).slot k.index).state = .PDP_IDLE) :
    Moves socket_id (.after k.index ret) w .rest (afterActivation cfg socket_id data k ret w).2 := by
  by_cases hok : ret = DATA_ACTIVE_SUCCESS
  · have hup : MovesTo socket_id (.first k.index) (afterActivation cfg socket_id data k ret) fun _ => .rest := by
      unfold afterActivation
      rw [hok, if_neg (by decide), if_neg (by decide), if_neg (by decide)]
      refine .ite (fun _ => ?_) fun _ => .ite (fun _ => movesTo_keep) fun _ => movesTo_keep
      exact .bind (movesTo_checkFallBack hi) fun _ => .pure rfl
    rw [Phase.after, if_pos hok]
    exact hup w
  · rw [Phase.after, if_neg hok]
    unfold afterActivation
    simp only [if_apply]
    split
    · split <;> exact .refl w
    · split
      · have hfallback : Moves socket_id .rest w .rest (doIPV4_IPV6_Fallback cfg socket_id k.index data w).2 :=
          fallback_moves hi (hidle hok)
        rw [bind_apply, if_apply]
        split <;> exact hfallback
      · split
        · refine .one others_updatePDPCid ?_
          have hgiveUp := @updatePDPCid_giveUp socket_id w _ hi
          simp only [bind_apply, pure_apply, hgiveUp]
          exact .markIdle (hidle hok)
        · split
          · rename_i h
            exact (hok h.1).elim
          · exact .refl w

/-- A slot is taken, activated, and settled. -/
theorem movesTo_plainActivation {k : Retry} :
    MovesTo socket_id .rest (plainActivation cfg socket_id data k) fun _ => .rest := by
  intro w
  unfold plainActivation
  rw [takeSlot_apply]
  split
  · have hfail : MovesTo socket_id .rest (do
        setFailCause socket_id .PDP_FAIL_ERROR_UNSPECIFIED
        pure (.inr (.error (-1))) : M (Retry ⊕ Label)) fun _ => .rest :=
      .bind (movesTo_still still_failCause) fun _ => .pure rfl
    exact hfail w
  · rename_i hindex
    obtain ⟨hi, -⟩ := getPDP_moves hindex
    have hspec := @activeSpeciedCidProcess_spec cfg socket_id data _ 0 data.type ((getPDP_spec w).range hindex) (by decide)
      (getPDP cfg socket_id w).2
    have hactivation := @movesTo_activation cfg socket_id data _ data.type hi (getPDP cfg socket_id w).2
    refine ((take_moves hindex).trans hactivation).trans ?_
    rw [bind_apply]
    refine afterActivation_moves (k := { k with index := (getPDP cfg socket_id w).1 }) hi fun hne => ?_
    have hreleased := (hspec.released hne).1
    rw [Int.add_sub_cancel] at hreleased
    exact hreleased

theorem movesTo_setupRound {k : Retry} : MovesTo socket_id .rest (setupRound cfg socket_id data k) fun _ => .rest := by
  unfold setupRound
  refine .bind (movesTo_still (still_modifyShared fun _ _ => rfl)) fun _ => ?_
  refine .bind (movesTo_still (still_modifySim fun _ => rfl)) fun _ => .bind movesTo_reuseDefaultBearer fun ret => ?_
  refine .ite (fun _ => .pure rfl) fun _ => .ite (fun _ => .pure rfl) fun _ => .ite (fun _ => .pure rfl) fun _ => ?_
  exact movesTo_plainActivation

theorem movesTo_iterate {ι ρ : Type} {body : ι → M (ι ⊕ ρ)} (hbody : ∀ i, MovesTo socket_id p (body i) fun _ => p)
    (fuel : Nat) (i : ι) : MovesTo socket_id p (iterate body fuel i) fun _ => p := by
  induction fuel generalizing i with
  | zero => exact .pure rfl
  | succ fuel ih =>
    refine .bind (hbody i) fun next => ?_
    cases next with
    | inl next => exact ih next
    | inr r => exact .pure rfl

theorem still_switchVolte {on : Bool} : Keeps (Still socket_id) (switchVolte cfg socket_id on) :=
  .bind .reads fun _ => .when (.bind still_send fun _ => .pure)

/-- **The rounds of a setup** begin and end at rest. -/
theorem movesTo_setupRounds : MovesTo socket_id .rest (setupRounds cfg socket_id data) fun _ => .rest :=
  .bind (movesTo_still still_switchVolte) fun _ => movesTo_iterate (fun _ => movesTo_setupRound) _ _

end UniRil.Data
