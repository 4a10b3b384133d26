import UniRil.Network.Course

/-!
# What the functions of a mode switch leave

Each function from the assertion it is entered with to the one it returns with.
-/

namespace UniRil.Network

open Programs
open Data (RIL_SOCKET_ID)

variable {lte : Bool} {t : RIL_Token} {c c₀ : Core} {sw fresh : Bool} {n : Nat}

/-! ## The loop -/

theorem Leads.add {α : Type} {Q : Course → α → Prop} {socket_id : RIL_SOCKET_ID} {data : Option RIL_RadioCapability}
    {f : Unit → NetProg α} (h : Leads lte t (Trying sw n c) (f ()) Q) :
    Leads lte t (fun g => Trying sw n c g ∧ g.entry = false) (addAsyncCmdList socket_id t data >>= f) Q := by
  refine Triple.act (stable_of_entry fun g hg => hg.2) (fun g hg => ⟨rfl, hg.2⟩) fun r => h.pre ?_
  rintro g' ⟨g, ⟨hg, -⟩, rfl⟩
  exact ⟨hg.core, hg.switching, hg.taken, hg.retries, hg.late⟩

theorem Leads.remove {α : Type} {P : Course → Prop} {Q : Course → α → Prop} {f : Unit → NetProg α}
    (hP : Stable (course lte t) P) (h : Leads lte t (fun g' => ∃ g, P g ∧ g' = { g with entry := false }) (f ()) Q) :
    Leads lte t P (removeAsyncCmdList t >>= f) Q :=
  Triple.act hP (fun _ _ => rfl) fun _ => h

/-- An answer that is neither OK nor the last. -/
theorem trying_retry {g : Course} (hg : Trying sw n c g) (hn : n < 3) :
    Trying sw (n + 1) c (g.answered true .cmeError3) := by
  obtain ⟨hcore, hswitching, htaken, hretries, hlate⟩ := hg
  refine ⟨hcore, hswitching, fun hsw => ?_, ?_, ?_⟩
  · simp [Course.answered, htaken hsw]
  · simp [Course.answered, hretries]
  · have hspoils : spoils true g.switching g.failed g.retries .cmeError3 = false := by
      simp [spoils, hretries, hn]
    simp [Course.answered, hspoils, hlate]

/-- The OK. -/
theorem took_ok {g : Course} (hg : Trying sw n c g) : Took c (g.answered true .ok) := by
  obtain ⟨hcore, hswitching, -, -, hlate⟩ := hg
  refine ⟨hcore, by simp [Course.answered], ?_⟩
  cases sw with
  | true => simp [Course.answered, spoils, hswitching, hlate]
  | false => simp [Course.answered, spoils, hswitching, hlate]

/-- The last refusal came, and the entry was not removed yet. -/
structure Refusing (sw : Bool) (c : Core) (g : Course) : Prop where
  core : g.core = c
  changes : (g.switching || g.taken) = true → sw = true
  late : g.late = sw

theorem stable_refusing : Stable (course lte t) (Refusing sw c) := by
  intro g g' hrely hg
  cases hrely with
  | nothing => exact hg
  | succeeds hentry => exact ⟨hg.core, hg.changes, hg.late⟩
  | fails hentry =>
    refine ⟨hg.core, hg.changes, ?_⟩
    cases hchanges : g.switching || g.taken with
    | true => simp [hg.changes hchanges]
    | false => simp [hg.late]

theorem refusing_last {g : Course} {a : Answer} (hg : Trying sw n c g) (hok : a ≠ .ok) (hlast : a = .cmeError3 → 3 ≤ n) :
    Refusing sw c (g.answered true a) := by
  obtain ⟨hcore, hswitching, htaken, hretries, hlate⟩ := hg
  have hspoils : spoils true g.switching g.failed g.retries a = sw := by
    cases a with
    | ok => exact absurd rfl hok
    | error => simp [spoils, hswitching]
    | cmeError3 => simp [spoils, hswitching, hretries, hlast rfl]
  cases sw with
  | true => exact ⟨hcore, fun _ => rfl, by simp [Course.answered, hspoils]⟩
  | false => exact ⟨hcore, by simp [Course.answered, hswitching, htaken rfl, hok], by simp [Course.answered, hspoils, hlate]⟩

theorem leads_refused : Leads lte t (Refusing sw c) (removeAsyncCmdList t >>= fun _ => pure false)
    (fun g taken => if taken then Took c g else Refused sw c g) := by
  refine Leads.remove stable_refusing (Triple.pre (Triple.pure (ofCore_refused.stable c lte t) fun g hg => hg) ?_)
  rintro g' ⟨g, hg, rfl⟩
  exact ⟨hg.core, rfl, hg.late⟩

/-- The entry is removed before the command is tried again. -/
theorem leads_again {m : NetProg Bool} {Q : Course → Bool → Prop}
    (h : Leads lte t (fun g => Trying sw n c g ∧ g.entry = false) m Q) :
    Leads lte t (Trying sw n c) (removeAsyncCmdList t >>= fun _ => m) Q := by
  refine Leads.remove (ofCore_trying.stable c lte t) (h.pre ?_)
  rintro g' ⟨g, hg, rfl⟩
  exact ⟨⟨hg.core, hg.switching, hg.taken, hg.retries, hg.late⟩, rfl⟩

theorem leads_taken : Leads lte t (Took c) (pure true) (fun g taken => if taken then Took c g else Refused sw c g) :=
  Triple.pure (ofCore_took.stable c lte t) fun _ hg => hg

/-- **The loop ends with the command taken or refused for good.** -/
theorem leads_sendTestMode (socket_id : RIL_SOCKET_ID) (data : Option RIL_RadioCapability) (cmd : List Byte) (retries : Nat)
    (hn : n + retries = 3) :
    Leads true t (fun g => Trying sw n c g ∧ g.entry = false) (sendTestMode socket_id t data cmd retries)
      (fun g taken => if taken then Took c g else Refused sw c g) := by
  induction retries generalizing n with
  | zero =>
    refine Leads.add (Triple.act (ofCore_trying.stable c true t) (fun _ _ => trivial) fun (answer : Answer) => ?_)
    split
    · rename_i hok
      refine leads_taken.pre ?_
      rintro g' ⟨g, hg, rfl⟩
      exact hok ▸ took_ok hg
    · rename_i hok
      refine leads_refused.pre ?_
      rintro g' ⟨g, hg, rfl⟩
      exact refusing_last hg hok fun _ => by omega
  | succ retries ih =>
    refine Leads.add (Triple.act (ofCore_trying.stable c true t) (fun _ _ => trivial) fun (answer : Answer) => ?_)
    split
    · rename_i hok
      refine leads_taken.pre ?_
      rintro g' ⟨g, hg, rfl⟩
      exact hok ▸ took_ok hg
    · rename_i hok
      split
      · rename_i hretry
        have hagain : n + 1 + retries = 3 := by omega
        refine (leads_again (ih hagain)).pre ?_
        rintro g' ⟨g, hg, rfl⟩
        exact hretry ▸ trying_retry hg (by omega)
      · rename_i hretry
        refine leads_refused.pre ?_
        rintro g' ⟨g, hg, rfl⟩
        exact refusing_last hg hok fun h => absurd h hretry

/-! ## Answers -/

theorem Leads.complete {α : Type} {P : Course → Prop} {Q : Course → α → Prop} {e : RIL_Errno}
    {response : Option RIL_RadioCapability} {f : Unit → NetProg α} (hP : Stable (course lte t) P)
    (h : Leads lte t (fun g' => ∃ g, P g ∧ g' = { g with failed := g.failed || e ≠ .RIL_E_SUCCESS }) (f ()) Q) :
    Leads lte t P (RIL_onRequestComplete t e response >>= f) Q :=
  Triple.act hP (fun _ _ => rfl) fun _ => h

/-- An answer that ends the request well. -/
def Closes (c₀ : Core) (e : RIL_Errno) (P : Course → Prop) : Prop :=
  ∀ g, P g → Ended c₀ { g with failed := g.failed || e ≠ .RIL_E_SUCCESS }

theorem leads_answer {P : Course → Prop} {e : RIL_Errno} {response : Option RIL_RadioCapability}
    (hP : Stable (course lte t) P) (h : Closes c₀ e P) :
    Leads lte t P (RIL_onRequestComplete t e response) (fun g _ => Ended c₀ g) := by
  refine Triple.last hP (fun _ _ => rfl) fun _ => (Triple.pure (@stable_ended lte t c₀) fun g hg => hg).pre ?_
  rintro g' ⟨g, hg, rfl⟩
  exact h g hg

/-- The data is as it was, and nothing is late. -/
structure Spared (c₀ : Core) (g : Course) : Prop where
  core : g.core = c₀
  entry : g.entry = false
  late : g.late = false

theorem stable_spared : Stable (course lte t) (Spared c₀) := stable_of_entry fun _ hg => hg.entry

theorem closes_spared (e : RIL_Errno) : Closes c₀ e (Spared c₀) := by
  intro g hg
  refine ⟨iff_of_false (by simp [hg.late]) fun h => h.1 hg.core, fun htold => ?_, fun hentry => absurd hentry (by simp [hg.entry])⟩
  rw [hg.core]
  exact htold

theorem Calm.spared {g : Course} (hg : Calm sw fresh c₀ g) : Spared c₀ g := ⟨hg.core, hg.entry, hg.late⟩

/-- After a change that is told, a success closes. -/
theorem closes_calm (htold : c₀.Told → c.Told) : Closes c₀ .RIL_E_SUCCESS (Calm sw fresh c) := by
  intro g hg
  refine ⟨iff_of_false (by simp [hg.late]) fun h => ?_, fun h => ?_, fun hentry => absurd hentry (by simp [hg.entry])⟩
  · simp [hg.failed] at h
  · rw [hg.core]
    exact htold h

/-- After a change that was refused, an error closes. -/
theorem closes_refused (hne : c ≠ c₀) (htold : c₀.Told → c.Told) : Closes c₀ .RIL_E_GENERIC_FAILURE (Refused true c) := by
  intro g hg
  refine ⟨iff_of_true hg.late ⟨fun h => hne (hg.core.symm.trans h), ?_⟩, fun h => ?_, fun hentry => absurd hentry (by simp [hg.entry])⟩
  · simp
  · rw [hg.core]
    exact htold h

/-! ## SET_PREFERRED_NETWORK_TYPE -/

theorem leads_setLTEPreferredDone (e : RIL_Errno) :
    Leads lte t (Spared c₀) (setLTEPreferredDone t e) (fun g _ => Ended c₀ g) := by
  refine Leads.still stable_spared rfl fun _ => Leads.complete stable_spared (Triple.pre (Triple.pure stable_ended fun g hg => hg) ?_)
  rintro g' ⟨g, hg, rfl⟩
  exact closes_spared e g hg

theorem leads_setPreferredDone {P : Course → Prop} (e : RIL_Errno) (hP : Stable (course lte t) P) (h : Closes c₀ e P) :
    Leads lte t P (setPreferredDone t e) (fun g _ => Ended c₀ g) :=
  Leads.still hP rfl fun _ => leads_answer hP h

/-- The data that the command of a preferred type stands for. -/
def preferredCore (c : Core) (socket_id : RIL_SOCKET_ID) (type : Int) : Core :=
  { c with
    s_workMode := Function.update c.s_workMode socket_id type
    workModeProp := match socket_id with
      | .RIL_SOCKET_1 => pairText type (c.s_workMode .RIL_SOCKET_2)
      | .RIL_SOCKET_2 => pairText (c.s_workMode .RIL_SOCKET_1) type }

theorem told_preferredCore (c : Core) (socket_id : RIL_SOCKET_ID) (type : Int) : (preferredCore c socket_id type).Told := by
  cases socket_id with
  | RIL_SOCKET_1 => rfl
  | RIL_SOCKET_2 => rfl

theorem preferredCore_ne {socket_id : RIL_SOCKET_ID} {type : Int} (h : type ≠ c₀.s_workMode socket_id) :
    preferredCore c₀ socket_id type ≠ c₀ := by
  intro heq
  have hmode : Function.update c₀.s_workMode socket_id type socket_id = c₀.s_workMode socket_id :=
    congrFun (congrArg Core.s_workMode heq) socket_id
  rw [Function.update_self] at hmode
  exact h hmode

theorem ended_took {g : Course} (hne : c ≠ c₀) (htold : c₀.Told → c.Told) (hg : Took c g) : Ended c₀ g := by
  refine ⟨?_, fun h => ?_, fun _ => ⟨fun h => hne (hg.core.symm.trans h), hg.changes⟩⟩
  · rw [hg.late, hg.core]
    exact ⟨fun h => ⟨hne, h⟩, And.right⟩
  · rw [hg.core]
    exact htold h

theorem leads_setLTEPreferredMode (socket_id : RIL_SOCKET_ID) (type : Int) :
    Leads true t (Calm false true c₀) (setLTEPreferredMode socket_id t type (c₀.s_workMode socket_id))
      (fun g _ => Ended c₀ g) := by
  unfold setLTEPreferredMode
  split
  · exact (leads_setLTEPreferredDone _).pre fun g hg => hg.spared
  · rename_i hne
    refine Leads.get ofCore_calm fun r hr => ?_
    dsimp only
    refine Triple.bind (Triple.pre (@leads_sendTestMode t c₀ false 0 socket_id _ _ 3 rfl) ?_) fun taken => ?_
    · intro g hg
      obtain ⟨hcore, hswitching, hfailed, hentry, hlate, hfresh⟩ := hg
      exact ⟨⟨hcore, hswitching, fun _ => (hfresh rfl).1, (hfresh rfl).2, hlate⟩, hentry⟩
    · cases taken with
      | true =>
        subst hr
        refine Leads.modify ofCore_took (fun c => { c with s_workMode := Function.update c.s_workMode socket_id type })
          (fun _ => rfl) ?_
        refine Leads.modify ofCore_took (fun c => { c with workModeProp := (preferredCore r.core socket_id type).workModeProp })
          (fun _ => rfl) ?_
        change Leads true t (Took (preferredCore r.core socket_id type)) _ _
        refine Leads.still (ofCore_took.stable _ true t) rfl fun _ => Triple.pure (ofCore_took.stable _ true t) fun g hg => ?_
        exact ended_took (preferredCore_ne hne) (fun _ => told_preferredCore _ socket_id type) hg
      | false =>
        exact (leads_setLTEPreferredDone _).pre fun g hg => ⟨hg.core, hg.entry, hg.late⟩

theorem leads_setLTEPreferredType (cfg : Config) (socket_id : RIL_SOCKET_ID) (type : Int) :
    Leads true t (Calm false true c₀) (setLTEPreferredType cfg socket_id t type) (fun g _ => Ended c₀ g) := by
  have hdone : ∀ e, Leads true t (Calm false true c₀) (setLTEPreferredDone t e) (fun g _ => Ended c₀ g) :=
    fun e => (leads_setLTEPreferredDone e).pre fun g hg => hg.spared
  unfold setLTEPreferredType
  split
  · exact hdone _
  · refine Leads.get ofCore_calm fun r hr => ?_
    subst hr
    dsimp only
    split
    · split
      · exact hdone _
      · exact leads_setLTEPreferredMode socket_id type
    · split
      · refine Leads.get ofCore_calm fun r' _ => ?_
        split
        · exact hdone _
        · exact leads_setLTEPreferredMode socket_id type
      · exact leads_setLTEPreferredMode socket_id type

theorem leads_requestSetLTEPreferredNetType (cfg : Config) (socket_id : RIL_SOCKET_ID) (data : Int) :
    Leads true t (Calm false true c₀) (requestSetLTEPreferredNetType cfg socket_id data t) (fun g _ => Ended c₀ g) := by
  have hcalm := (ofCore_calm : OfCore (Calm false true)).stable c₀ true t
  refine Leads.still hcalm rfl fun engineer => Leads.still hcalm rfl fun _ => Leads.get ofCore_calm fun r _ => ?_
  exact leads_setLTEPreferredType cfg socket_id _

theorem leads_sendAutoAttach (cfg : Config) (socket_id : RIL_SOCKET_ID) {P : Course → Prop} (hP : Stable (course lte t) P) :
    Leads lte t P (sendAutoAttach cfg socket_id) (fun g _ => P g) := by
  unfold sendAutoAttach
  split
  · exact Triple.pure hP fun g hg => hg
  · refine Leads.still hP rfl fun (allowed : Bool) => ?_
    split
    · exact Leads.stillLast hP rfl
    · cases socket_id with
      | RIL_SOCKET_1 => exact Leads.stillLast hP rfl
      | RIL_SOCKET_2 => exact Leads.still hP rfl fun _ => Leads.stillLast hP rfl

/-- An answer that spoils nothing. -/
theorem calm_answered {g : Course} {a : Answer} (hg : Calm sw fresh c g) (hspoils : sw = true → a = .ok) :
    Calm sw false c (g.answered lte a) := by
  obtain ⟨hcore, hswitching, hfailed, hentry, hlate, -⟩ := hg
  refine ⟨hcore, hswitching, hfailed, hentry, ?_, fun h => Bool.noConfusion h⟩
  cases sw with
  | true => simp [Course.answered, spoils, hswitching, hlate, hspoils rfl]
  | false => simp [Course.answered, spoils, hswitching, hlate, hfailed]

theorem told_workModeText {r : Globals} (h : r.core = c) : Core.Told { c with workModeProp := r.workModeText } := by
  subst h
  rfl

theorem leads_requestSetPreferredNetType (cfg : Config) (socket_id : RIL_SOCKET_ID) (data : Int) :
    Leads lte t (Calm false true c₀) (requestSetPreferredNetType cfg socket_id data t) (fun g _ => Ended c₀ g) := by
  have hcalm := (ofCore_calm : OfCore (Calm false true)).stable c₀ lte t
  have hdone : ∀ e, Leads lte t (Calm false true c₀) (setPreferredDone t e) (fun g _ => Ended c₀ g) :=
    fun e => leads_setPreferredDone e hcalm fun g hg => closes_spared e g hg.spared
  refine Leads.still hcalm rfl fun _ => Leads.still hcalm rfl fun _ => ?_
  dsimp only
  split
  · exact hdone _
  · refine Leads.get ofCore_calm fun r _ => ?_
    split
    · exact hdone _
    · split
      · exact hdone _
      · refine Triple.bind (leads_sendAutoAttach cfg socket_id hcalm) fun _ => Triple.act hcalm (fun _ _ => trivial) ?_
        intro (answer : Answer)
        have hanswered : ∀ g', (∃ g, Calm false true c₀ g ∧ g' = g.answered lte answer) → Calm false false c₀ g' := by
          rintro g' ⟨g, hg, rfl⟩
          exact calm_answered hg fun h => Bool.noConfusion h
        refine Triple.pre ?_ hanswered
        split
        · refine Leads.modify ofCore_calm (fun c => { c with s_workMode := Function.update c.s_workMode socket_id _ })
            (fun _ => rfl) (Leads.get ofCore_calm fun r hr => ?_)
          refine Leads.modify ofCore_calm (fun c => { c with workModeProp := r.workModeText }) (fun _ => rfl) ?_
          refine leads_setPreferredDone _ (ofCore_calm.stable _ lte t) (closes_calm fun _ => ?_)
          exact told_workModeText hr
        · exact leads_setPreferredDone _ (ofCore_calm.stable _ lte t) fun g hg => closes_spared _ g hg.spared

/-! ## SET_RADIO_CAPABILITY -/

theorem leads_sendUnsolRadioCapability : Leads lte t (Calm sw fresh c) sendUnsolRadioCapability (fun g _ => Calm sw fresh c g) := by
  have hcalm := (ofCore_calm : OfCore (Calm sw fresh)).stable c lte t
  refine Leads.get ofCore_calm fun r _ => Leads.still hcalm rfl fun _ => ?_
  refine Leads.modify ofCore_calm id (fun _ => rfl) (Leads.get ofCore_calm fun r' _ => Leads.still hcalm rfl fun _ => ?_)
  exact Leads.modifyLast ofCore_calm id fun _ => rfl

def swappedModes (s_workMode : RIL_SOCKET_ID → Int) (singleModeSim multiModeSim : RIL_SOCKET_ID) : RIL_SOCKET_ID → Int :=
  Function.update (Function.update s_workMode singleModeSim (s_workMode multiModeSim)) multiModeSim (s_workMode singleModeSim)

/-- The data after setWorkMode. -/
def swappedCore (c : Core) (singleModeSim multiModeSim : RIL_SOCKET_ID) : Core :=
  let s_workMode := swappedModes c.s_workMode singleModeSim multiModeSim
  { c with
    s_workMode := s_workMode
    workModeProp := pairText (s_workMode .RIL_SOCKET_1) (s_workMode .RIL_SOCKET_2) }

theorem leads_setWorkMode : Leads lte t (Calm sw fresh c) setWorkMode
    (fun g _ => Calm sw fresh (swappedCore c (otherSim c.s_multiModeSim) c.s_multiModeSim) g) := by
  refine Leads.get ofCore_calm fun r hr => ?_
  subst hr
  refine Leads.still (ofCore_calm.stable _ lte t) rfl fun _ => ?_
  refine Leads.modify ofCore_calm
    (fun c => { c with s_workMode := swappedModes c.s_workMode (otherSim r.s_multiModeSim) c.s_multiModeSim })
    (fun _ => rfl) (Leads.get ofCore_calm fun r' hr' => ?_)
  refine Leads.modify ofCore_calm (fun c => { c with workModeProp := r'.workModeText }) (fun _ => rfl) ?_
  have htext : r'.workModeText = pairText (r'.core.s_workMode .RIL_SOCKET_1) (r'.core.s_workMode .RIL_SOCKET_2) := rfl
  rw [htext, hr']
  exact Leads.stillLast (ofCore_calm.stable _ lte t) rfl

/-- The data once the primary SIM is another one. -/
def movedCore (c : Core) (simId : RIL_SOCKET_ID) : Core :=
  { c with s_multiModeSim := simId, primarySimProp := decimal (simNumber simId) }

/-- The data once the SIMs are switched. -/
def switchedCore (c : Core) (simId : RIL_SOCKET_ID) : Core := swappedCore (movedCore c simId) (otherSim simId) simId

theorem switchedCore_ne {simId : RIL_SOCKET_ID} (h : simId ≠ c₀.s_multiModeSim) : switchedCore c₀ simId ≠ c₀ :=
  fun heq => h (congrArg Core.s_multiModeSim heq)

theorem newMultiModeSim_ne {socket_id s_multiModeSim simId : RIL_SOCKET_ID} {maxRat : Bool}
    (h : newMultiModeSim socket_id s_multiModeSim maxRat = some simId) : simId ≠ s_multiModeSim := by
  unfold newMultiModeSim at h
  split at h
  · obtain ⟨hne, heq⟩ := Option.ite_none_right_eq_some.1 h
    exact Option.some.inj heq ▸ hne.symm
  · obtain ⟨rfl, heq⟩ := Option.ite_none_right_eq_some.1 h
    obtain rfl := Option.some.inj heq
    cases s_multiModeSim with
    | RIL_SOCKET_1 => decide
    | RIL_SOCKET_2 => decide

/-- What applySetLTERadioCapability returns, and what holds then. -/
def AfterApply (c₀ : Core) (g : Course) (ret : Int) : Prop :=
  ret = 2 ∧ Calm true true c₀ g ∨ ∃ c, c ≠ c₀ ∧ c.Told ∧ (ret = 1 ∧ Took c g ∨ ret = 0 ∧ Refused true c g)

theorem leads_applySetLTERadioCapability (rc : RIL_RadioCapability) (socket_id : RIL_SOCKET_ID) :
    Leads true t (Calm true true c₀) (applySetLTERadioCapability rc socket_id t) (AfterApply c₀) := by
  refine Leads.get ofCore_calm fun r hr => ?_
  split
  · exact Triple.pure (ofCore_calm.stable _ true t) fun g hg => Or.inl ⟨rfl, hg⟩
  · rename_i simId hnew
    refine Leads.modify ofCore_calm (fun c => { c with s_multiModeSim := simId }) (fun _ => rfl) ?_
    refine Leads.get ofCore_calm fun r' hr' => Leads.still (ofCore_calm.stable _ true t) rfl fun _ => ?_
    refine Leads.modify ofCore_calm (fun c => { c with primarySimProp := decimal (simNumber c.s_multiModeSim) })
      (fun _ => rfl) (Triple.bind leads_setWorkMode fun _ => ?_)
    change Leads true t (Calm true true (switchedCore c₀ simId)) _ _
    have hne : switchedCore c₀ simId ≠ c₀ := by
      refine switchedCore_ne ?_
      rw [← hr]
      exact newMultiModeSim_ne hnew
    refine Leads.get ofCore_calm fun r'' _ => ?_
    refine Triple.bind (Triple.pre (@leads_sendTestMode t (switchedCore c₀ simId) true 0 socket_id _ _ 3 rfl) ?_) fun taken => ?_
    · intro g hg
      obtain ⟨hcore, hswitching, hfailed, hentry, hlate, hfresh⟩ := hg
      exact ⟨⟨hcore, hswitching, fun h => Bool.noConfusion h, (hfresh rfl).2, by simp [hlate, hfailed]⟩, hentry⟩
    · cases taken with
      | true => exact Triple.pure (ofCore_took.stable _ true t) fun g hg => Or.inr ⟨_, hne, rfl, Or.inl ⟨rfl, hg⟩⟩
      | false => exact Triple.pure (ofCore_refused.stable _ true t) fun g hg => Or.inr ⟨_, hne, rfl, Or.inr ⟨rfl, hg⟩⟩

theorem Calm.stale {g : Course} (hg : Calm sw fresh c g) : Calm sw false c g :=
  ⟨hg.core, hg.switching, hg.failed, hg.entry, hg.late, fun h => Bool.noConfusion h⟩

/-- A refusal during the switch of a modem without LTE. -/
theorem refused_answered {g : Course} {a : Answer} (hg : Calm true fresh c g) (hok : a ≠ .ok) :
    Refused true c (g.answered false a) := by
  obtain ⟨hcore, hswitching, -, hentry, -, -⟩ := hg
  refine ⟨hcore, hentry, ?_⟩
  cases a with
  | ok => exact absurd rfl hok
  | error => simp [Course.answered, spoils, hswitching]
  | cmeError3 => simp [Course.answered, spoils, hswitching]

/-- A command of the switch decides whether it goes on. -/
theorem leads_askRadio {simId : RIL_SOCKET_ID} {cmd : List Byte} {m : NetProg Bool}
    (h : Leads false t (Calm true false c) m (fun g ok => if ok then Calm true false c g else Refused true c g)) :
    Leads false t (Calm true false c) (ask simId cmd >>= fun answer => if answer = .ok then m else pure false)
      (fun g ok => if ok then Calm true false c g else Refused true c g) := by
  refine Triple.act (ofCore_calm.stable _ false t) (fun _ _ => trivial) fun (answer : Answer) => ?_
  split
  · rename_i hok
    refine h.pre ?_
    rintro g' ⟨g, hg, rfl⟩
    exact calm_answered hg fun _ => hok
  · rename_i hok
    refine (Triple.pure (ofCore_refused.stable c false t) fun g hg => hg).pre ?_
    rintro g' ⟨g, hg, rfl⟩
    exact refused_answered hg hok

theorem leads_shutDownRadios (l : List RIL_SOCKET_ID) :
    Leads false t (Calm true false c) (shutDownRadios l)
      (fun g down => if down then Calm true false c g else Refused true c g) := by
  induction l with
  | nil => exact Triple.pure (ofCore_calm.stable _ false t) fun g hg => hg
  | cons simId rest ih =>
    refine Leads.still (ofCore_calm.stable _ false t) rfl fun (off : Bool) => ?_
    split
    · exact ih
    · exact leads_askRadio ih

theorem leads_startRadios (cmd : List Byte) (l : List RIL_SOCKET_ID) :
    Leads false t (Calm true false c) (startRadios cmd l)
      (fun g started => if started then Calm true false c g else Refused true c g) := by
  induction l with
  | nil => exact Triple.pure (ofCore_calm.stable _ false t) fun g hg => hg
  | cons simId rest ih =>
    have hcalm := (ofCore_calm : OfCore (Calm true false)).stable c false t
    refine Leads.still hcalm rfl fun (off : Bool) => ?_
    split
    · exact ih
    · refine Leads.still hcalm rfl fun _ => Leads.still hcalm rfl fun two => Leads.get ofCore_calm fun r _ => ?_
      exact Leads.still hcalm rfl fun _ => leads_askRadio ih

/-- What applySetRadioCapability returns, and what holds then. -/
def AfterRadioApply (c₀ : Core) (g : Course) (ret : Int) : Prop :=
  ∃ c, (c₀.Told → c.Told) ∧ (ret = 1 ∧ Calm true false c g ∨ ret = 0 ∧ c ≠ c₀ ∧ Refused true c g)

theorem leads_applySetRadioCapability (rc : RIL_RadioCapability) (socket_id : RIL_SOCKET_ID) :
    Leads false t (Calm true true c₀) (applySetRadioCapability rc socket_id) (AfterRadioApply c₀) := by
  refine Leads.get ofCore_calm fun r hr => ?_
  split
  · exact Triple.pure (ofCore_calm.stable _ false t) fun g hg => ⟨c₀, id, Or.inl ⟨rfl, hg.stale⟩⟩
  · rename_i simId hnew
    have hnew' : simId ≠ c₀.s_multiModeSim := by
      rw [← hr]
      exact newMultiModeSim_ne hnew
    refine Leads.modify ofCore_calm (fun c => { c with s_multiModeSim := simId }) (fun _ => rfl) ?_
    refine Leads.modify ofCore_calm (fun c => { c with primarySimProp := decimal (simNumber c.s_multiModeSim) }) (fun _ => rfl) ?_
    change Leads false t (Calm true true (movedCore c₀ simId)) _ _
    refine Triple.bind ((leads_shutDownRadios sims).pre fun g hg => hg.stale) fun down => ?_
    cases down with
    | true =>
      refine Triple.bind leads_setWorkMode fun _ => Leads.get ofCore_calm fun r' _ => ?_
      change Leads false t (Calm true false (switchedCore c₀ simId)) _ _
      refine Triple.bind (leads_startRadios _ _) fun started => ?_
      cases started with
      | true => exact Triple.pure (ofCore_calm.stable _ false t) fun g hg =>
          ⟨switchedCore c₀ simId, fun _ => rfl, Or.inl ⟨rfl, hg⟩⟩
      | false =>
        exact Triple.pure (ofCore_refused.stable _ false t) fun g hg =>
          ⟨switchedCore c₀ simId, fun _ => rfl, Or.inr ⟨rfl, switchedCore_ne hnew', hg⟩⟩
    | false =>
      refine Triple.pure (ofCore_refused.stable _ false t) fun g hg =>
        ⟨movedCore c₀ simId, fun htold => htold, Or.inr ⟨rfl, fun heq => ?_, hg⟩⟩
      exact hnew' (congrArg Core.s_multiModeSim heq)

theorem leads_pay {P : Course → Prop} {e : RIL_Errno} {response : Option RIL_RadioCapability}
    (hP : Stable (course lte t) P) (h : Closes c₀ e P) :
    Leads lte t P (unlockRadioPower >>= fun _ => RIL_onRequestComplete t e response) (fun g _ => Ended c₀ g) :=
  Leads.still hP rfl fun _ => leads_answer hP h

theorem Leads.call {α : Type} {Q : Course → α → Prop} {b : Bool} {f : Unit → NetProg α}
    (h : Leads lte t (Calm true fresh c) (f ()) Q) : Leads lte t (Calm sw fresh c) (act (.callApply b) >>= f) Q := by
  refine Triple.act (ofCore_calm.stable c lte t) (fun _ _ => trivial) fun _ => h.pre ?_
  rintro g' ⟨g, hg, rfl⟩
  exact ⟨hg.core, rfl, hg.failed, hg.entry, hg.late, hg.fresh⟩

/-- A success leaves nothing that could fail. -/
theorem leads_success {α : Type} {Q : Course → α → Prop} {response : Option RIL_RadioCapability} {f : Unit → NetProg α}
    (h : Leads lte t (Calm sw fresh c) (f ()) Q) :
    Leads lte t (Calm sw fresh c) (RIL_onRequestComplete t .RIL_E_SUCCESS response >>= f) Q := by
  refine Leads.complete (ofCore_calm.stable c lte t) (h.pre ?_)
  rintro g' ⟨g, hg, rfl⟩
  exact ⟨hg.core, hg.switching, by simp [hg.failed], hg.entry, hg.late, hg.fresh⟩

theorem ended_calm {g : Course} (htold : c₀.Told → c.Told) (hg : Calm sw fresh c g) : Ended c₀ g := by
  refine ⟨iff_of_false (by simp [hg.late]) fun h => ?_, fun h => ?_, fun hentry => absurd hentry (by simp [hg.entry])⟩
  · simp [hg.failed] at h
  · rw [hg.core]
    exact htold h

/-- The success of a switch is announced. -/
theorem leads_announce {response : Option RIL_RadioCapability} (htold : c₀.Told → c.Told) :
    Leads lte t (Calm sw fresh c) (RIL_onRequestComplete t .RIL_E_SUCCESS response >>= fun _ => sendUnsolRadioCapability)
      (fun g _ => Ended c₀ g) :=
  leads_success (leads_sendUnsolRadioCapability.post fun _ _ hg => ended_calm htold hg)

theorem leads_runSwitch (cfg : Config) (responseRc : RIL_RadioCapability) (socket_id : RIL_SOCKET_ID) :
    Leads cfg.s_isLTE t (Calm false true c₀) (runSwitch cfg responseRc socket_id t) (fun g _ => Ended c₀ g) := by
  refine Leads.still (ofCore_calm.stable _ _ t) rfl fun _ => Leads.call ?_
  cases cfg.s_isLTE with
  | true =>
    rw [if_pos rfl]
    refine Triple.bind (leads_applySetLTERadioCapability responseRc socket_id) fun ret => ?_
    rintro g (⟨rfl, hcalm⟩ | ⟨c, hne, htold, ⟨rfl, htook⟩ | ⟨rfl, hrefused⟩⟩)
    · rw [if_neg (by decide), if_pos rfl]
      exact Leads.still (ofCore_calm.stable _ true t) rfl (fun _ => leads_announce id) g hcalm
    · rw [if_neg (by decide), if_neg (by decide)]
      refine Triple.pure (ofCore_took.stable c true t) (fun g' hg' => ?_) g htook
      exact ended_took hne (fun _ => htold) hg'
    · rw [if_pos (by decide)]
      exact leads_pay (ofCore_refused.stable _ true t) (closes_refused hne fun _ => htold) g hrefused
  | false =>
    rw [if_neg (by decide)]
    refine Triple.bind (leads_applySetRadioCapability responseRc socket_id) fun ret => ?_
    rintro g ⟨c, htold, ⟨rfl, hcalm⟩ | ⟨rfl, hne, hrefused⟩⟩
    · refine Leads.still (ofCore_calm.stable _ false t) rfl (fun _ => ?_) g hcalm
      rw [if_pos (by decide)]
      exact leads_announce htold
    · refine Leads.still (ofCore_refused.stable _ false t) rfl (fun _ => ?_) g hrefused
      rw [if_neg (by decide)]
      exact leads_answer (ofCore_refused.stable _ false t) (closes_refused hne htold)

theorem leads_requestSetRadioCapability (cfg : Config) (socket_id : RIL_SOCKET_ID) (rc : RIL_RadioCapability) :
    Leads cfg.s_isLTE t (Calm false true c₀) (requestSetRadioCapability cfg socket_id rc t) (fun g _ => Ended c₀ g) := by
  have hcalm := (ofCore_calm : OfCore (Calm false true)).stable c₀ cfg.s_isLTE t
  have hanswer : ∀ e response, Leads cfg.s_isLTE t (Calm false true c₀) (RIL_onRequestComplete t e response) (fun g _ => Ended c₀ g) :=
    fun e response => leads_answer hcalm fun g hg => closes_spared e g hg.spared
  unfold requestSetRadioCapability
  split
  · exact Leads.modify ofCore_calm id (fun _ => rfl) (hanswer _ _)
  · split
    · exact Leads.modify ofCore_calm id (fun _ => rfl) (hanswer _ _)
    · split
      · refine Leads.modify ofCore_calm id (fun _ => rfl) (Leads.get ofCore_calm fun r _ => ?_)
        split
        · exact hanswer _ _
        · exact Leads.modify ofCore_calm id (fun _ => rfl) (leads_runSwitch cfg _ socket_id)
      · exact Leads.modify ofCore_calm id (fun _ => rfl) (hanswer _ _)

/-- **When the function of a request has returned, something was late exactly if the request has failed
although it changed the data.** -/
theorem leads_processNetworkRequests (cfg : Config) (socket_id : RIL_SOCKET_ID) (r : Request) :
    Leads cfg.s_isLTE t (Calm false true c₀) (processNetworkRequests cfg socket_id t r) (fun g _ => Ended c₀ g) := by
  have hcalm := (ofCore_calm : OfCore (Calm false true)).stable c₀ cfg.s_isLTE t
  cases r with
  | RIL_REQUEST_SET_PREFERRED_NETWORK_TYPE data =>
    rw [processNetworkRequests]
    split
    · rename_i hlte
      rw [hlte] at hcalm ⊢
      refine Leads.still hcalm rfl fun _ => Triple.bind (leads_requestSetLTEPreferredNetType cfg socket_id data) fun err => ?_
      split
      · exact Leads.stillLast stable_ended rfl
      · exact Triple.pure stable_ended fun g hg => hg
    · exact leads_requestSetPreferredNetType cfg socket_id data
  | RIL_REQUEST_SET_RADIO_CAPABILITY rc =>
    refine Leads.still hcalm rfl fun (fixed : Bool) => ?_
    split
    · exact leads_answer hcalm fun g hg => closes_spared _ g hg.spared
    · exact leads_requestSetRadioCapability cfg socket_id rc

end UniRil.Network
