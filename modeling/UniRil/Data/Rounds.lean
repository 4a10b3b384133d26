import UniRil.Data.Ownership

/-!
# A data call reported up is owned by its slot

The request goes round by round through its label `RETRY`. It ends after at most twelve rounds, and
the last round decides who owns the slot.
-/

namespace UniRil.Data

open StateRules

variable {cfg : Config} {socket_id : RIL_SOCKET_ID} {data : SetupData}

/-! ## One round -/

theorem PlainEnd.after {r : Retry} {w w' w'' : World} {out : Retry ⊕ Label} (hg : GivenUp socket_id w w')
    (h : PlainEnd socket_id r w' out w'') : PlainEnd socket_id r w out w'' := by
  match out with
  | .inl r' =>
    obtain ⟨hg', hn | ⟨hn, i, hi, hfree, hgone⟩⟩ := h
    · exact ⟨IsTrans.trans _ _ _ hg hg', .inl hn⟩
    · refine ⟨IsTrans.trans _ _ _ hg hg', .inr ⟨hn, i, hi, ?_, hgone⟩⟩
      rcases (hg i).2 with hcid | ⟨-, hcid, -⟩
      · exact hcid.symm.trans hfree
      · exact hcid
  | .inr (.done .activated i) => exact h
  | .inr (.done .reused i) => exact h
  | .inr (.done .retriesSpent i) => exact h
  | .inr (.done .fallenBack i) => exact h
  | .inr (.error i) => exact h

theorem plainActivation_spec {r : Retry} :
    Spec (plainActivation cfg socket_id data r) (PlainEnd socket_id r) := by
  intro w
  have ht : Taken socket_id w (getPDP cfg socket_id w).1 (getPDP cfg socket_id w).2 := getPDP_spec w
  unfold plainActivation
  rw [takeSlot_apply]
  split
  · trivial
  · rename_i hindex
    have hact := @activeSpeciedCidProcess_spec cfg socket_id data _ 0 data.type (ht.range hindex) (by decide)
      (getPDP cfg socket_id w).2
    obtain h | ⟨hrange, hfree, hnow, hothers⟩ := ht
    · exact (hindex h.1).elim
    rw [bind_apply]
    refine afterActivation_spec (r := { r with index := (getPDP cfg socket_id w).1 }) hrange hfree (fun hok => ?_) fun hne => ?_
    · have hup := hact.up hok
      rw [Int.add_sub_cancel] at hup
      exact ⟨hup.1.trans hnow.1, hup.2⟩
    · have hreleased := hact.released hne
      rw [Int.add_sub_cancel] at hreleased
      intro i
      by_cases hi : i = (getPDP cfg socket_id w).1
      · subst hi
        exact ⟨hreleased.1.trans hfree.1.symm, hreleased.2.trans hfree.2.symm⟩
      · have hne' : i ≠ (getPDP cfg socket_id w).1 + 1 - 1 := by omega
        have hstate := hact.others i hne'
        have hcid := (hact.otherCids i hne').resolve_right fun h => hne h.1
        rw [hothers i hi] at hstate hcid
        exact ⟨hstate, hcid⟩

/-- How a round ends. -/
def RoundEnd (socket_id : RIL_SOCKET_ID) (r : Retry) (w : World) (out : Retry ⊕ Label) (w' : World) : Prop :=
  match out with
  | .inr (.done .reused i) =>
    (w.slot socket_id i).state = .PDP_IDLE ∧ Owned socket_id w' i ∨
      (w.slot socket_id i).state = .PDP_BUSY ∧ (w'.slot socket_id i).state = .PDP_BUSY ∧
        (w'.slot socket_id i).cid = (w.slot socket_id i).cid
  | out => PlainEnd socket_id r w out w'

theorem PlainEnd.roundEnd {r : Retry} {w w' : World} {out : Retry ⊕ Label} (h : PlainEnd socket_id r w out w') :
    RoundEnd socket_id r w out w' := by
  match out with
  | .inl r' => exact h
  | .inr (.done .activated i) => exact h
  | .inr (.done .reused i) => exact h.elim
  | .inr (.done .retriesSpent i) => exact h
  | .inr (.done .fallenBack i) => exact h
  | .inr (.error i) => exact h

theorem RoundEnd.after {r : Retry} {w w' w'' : World} {out : Retry ⊕ Label} (hs : SameSlots socket_id w w')
    (h : RoundEnd socket_id r w' out w'') : RoundEnd socket_id r w out w'' := by
  match out with
  | .inr (.done .reused i) =>
    rw [RoundEnd, (hs i).1, (hs i).2] at h
    exact h
  | .inl r' => exact @PlainEnd.after socket_id r w w' w'' (.inl r') hs.givenUp h
  | .inr (.done .activated i) => exact h
  | .inr (.done .retriesSpent i) => exact h
  | .inr (.done .fallenBack i) => exact h
  | .inr (.error i) => exact h

theorem setupRound_spec {r : Retry} : Spec (setupRound cfg socket_id data r) (RoundEnd socket_id r) := by
  unfold setupRound
  refine .after (fun _ _ _ _ => RoundEnd.after) (sameSlots_of_quiet (@quiet_modifyShared socket_id 0 _ fun _ => rfl))
    fun _ => ?_
  refine .after (fun _ _ _ _ => RoundEnd.after) (sameSlots_modifySim fun _ => rfl) fun _ w => ?_
  have hreused := @reuseDefaultBearer_spec cfg socket_id data data.type w
  rw [bind_apply, if_apply]
  split
  · rename_i hpos
    obtain ⟨i, -, hi, hidle, howned⟩ | ⟨hr | hr | hr | ⟨i, hi, hbusy⟩, hg⟩ := hreused
    · rw [hi, Int.add_sub_cancel]
      exact .inl ⟨hidle, howned⟩
    · omega
    · omega
    · omega
    · rw [hi, Int.add_sub_cancel]
      obtain ⟨hstate, hcid⟩ := hg i
      refine .inr ⟨hbusy, hstate.trans hbusy, hcid.resolve_right fun h => ?_⟩
      rw [hbusy] at h
      exact nomatch h.1
  · rename_i hneg
    have hg : GivenUp socket_id w (reuseDefaultBearer cfg socket_id data data.type w).2 := by
      obtain ⟨i, hi, hr, -⟩ | ⟨-, hg⟩ := hreused
      · omega
      · exact hg
    rw [if_apply]
    split
    · trivial
    · rw [if_apply]
      split
      · rename_i hretry
        exact ⟨hg, .inl ⟨rfl, hretry.2⟩⟩
      · exact (PlainEnd.after hg (plainActivation_spec _)).roundEnd

/-! ## The rounds come to an end -/

theorem countP_lt_of_mem {α : Type} {p q : α → Bool} {l : List α} {a : α} (h : ∀ x ∈ l, p x → q x) (ha : a ∈ l)
    (hp : p a = false) (hq : q a = true) : l.countP p < l.countP q := by
  induction l with
  | nil => cases ha
  | cons x l ih =>
    have htail := List.countP_mono_left fun y hy => h y (List.mem_cons_of_mem x hy)
    rw [List.countP_cons, List.countP_cons]
    rcases List.mem_cons.1 ha with rfl | ha
    · rw [hp, hq]
      simp only [Bool.false_eq_true, if_false, if_true]
      omega
    · have hless := ih (fun y hy => h y (List.mem_cons_of_mem x hy)) ha
      have hhead : (if p x = true then 1 else 0) ≤ if q x = true then 1 else 0 := by
        split
        · rw [if_pos (h x List.mem_cons_self (by assumption))]
        · exact Nat.zero_le _
      omega

/-- The slots that a round can still give up. -/
def freeSlots (socket_id : RIL_SOCKET_ID) (w : World) : Nat :=
  [0, 1, 2, 3, 4, 5].countP fun i => (w.slot socket_id i).cid = -1

/-- Each round but the last uses up a retry or a slot. -/
def roundsLeft (socket_id : RIL_SOCKET_ID) (r : Retry) (w : World) : Nat := 5 - r.nRetryTimes + freeSlots socket_id w

theorem GivenUp.free {w w' : World} (h : GivenUp socket_id w w') {i : Int}
    (hfree : (w'.slot socket_id i).cid = -1) : (w.slot socket_id i).cid = -1 := by
  rcases (h i).2 with hcid | ⟨-, hcid, -⟩
  · exact hcid.symm.trans hfree
  · exact hcid

theorem roundsLeft_lt {r r' : Retry} {w w' : World} (h : setupRound cfg socket_id data r w = (.inl r', w')) :
    roundsLeft socket_id r' w' < roundsLeft socket_id r w := by
  have hround := @setupRound_spec cfg socket_id data r w
  rw [h] at hround
  obtain ⟨hg, hretry | ⟨hn, i, hi, hfree, hgone⟩⟩ : PlainEnd socket_id r w (.inl r') w' := hround
  · have hle : freeSlots socket_id w' ≤ freeSlots socket_id w :=
      List.countP_mono_left fun j _ hj => by simpa using hg.free (by simpa using hj)
    rw [roundsLeft, roundsLeft]
    omega
  · have hlt : freeSlots socket_id w' < freeSlots socket_id w := by
      refine countP_lt_of_mem (fun j _ hj => ?_) hi ?_ ?_
      · simpa using hg.free (by simpa using hj)
      · simp [hgone, UNUSABLE_CID]
      · simp [hfree]
    rw [roundsLeft, roundsLeft, hn]
    omega

/-- The request always leaves through a label, whatever the modem answers. -/
theorem setupRounds_isSome (w : World) : (setupRounds cfg socket_id data w).1.isSome := by
  have hfree : freeSlots socket_id (switchVolte cfg socket_id false w).2 ≤ 6 := List.countP_le_length
  have hfuel : roundsLeft socket_id { index := -1, nRetryTimes := 0 } (switchVolte cfg socket_id false w).2 < maxRounds := by
    show 5 - 0 + freeSlots socket_id (switchVolte cfg socket_id false w).2 < 12
    omega
  exact iterate_isSome (roundsLeft socket_id) (fun _ _ _ _ => roundsLeft_lt) hfuel

/-! ## Who owns the slot in the end -/

/-- The round `q` is the last one of the request and reaches the label `l`. -/
def LastRound (cfg : Config) (socket_id : RIL_SOCKET_ID) (data : SetupData) (w : World) (q : Retry × World) (l : Label)
    (w' : World) : Prop :=
  Leaves (setupRound cfg socket_id data) ({ index := -1, nRetryTimes := 0 }, (switchVolte cfg socket_id false w).2)
    q l w'

theorem setupRounds_eq_some {w w' : World} {l : Label} :
    setupRounds cfg socket_id data w = (some l, w') ↔ ∃ q, LastRound cfg socket_id data w q l w' :=
  ⟨iterate_leaves, fun ⟨_, hq⟩ => hq.iterate (setupRounds_isSome w)⟩

/-- The exits that leave the slot of the call without its owner: the modem has answered 288 once too
often, the two contexts of a fallback are up, or a bearer is reused whose slot lost its cid. -/
def LosesSlot (socket_id : RIL_SOCKET_ID) (w : World) : Label → Prop
  | .done .retriesSpent _ => True
  | .done .fallenBack _ => True
  | .done .reused i => (w.slot socket_id i).state = .PDP_BUSY ∧ (w.slot socket_id i).cid ≠ i + 1
  | .done .activated _ => False
  | .error _ => False

theorem owned_iff {r : Retry} {w w' : World} {origin : Origin} {index : Int}
    (h : RoundEnd socket_id r w (.inr (.done origin index)) w') :
    Owned socket_id w' index ↔ ¬ LosesSlot socket_id w (.done origin index) := by
  cases origin with
  | activated => exact iff_of_true h not_false
  | reused =>
    obtain ⟨hidle, howned⟩ | ⟨hbusy, hbusy', hcid⟩ := h
    · refine iff_of_true howned fun hlost => ?_
      exact nomatch hidle.symm.trans hlost.1
    · rw [Owned, hcid, LosesSlot, not_and_not_right]
      exact ⟨fun howned _ => howned.2, fun hown => ⟨hbusy', hown hbusy⟩⟩
  | retriesSpent =>
    refine iff_of_false (fun howned => ?_) fun hnot => hnot trivial
    exact absurd (howned.1.symm.trans h) (by decide)
  | fallenBack =>
    refine iff_of_false (fun howned => ?_) fun hnot => hnot trivial
    exact absurd (howned.1.symm.trans h) (by decide)

/-- **A request that leaves through `done`** owns the slot of its call exactly when it does not take
one of the three wrong exits. -/
theorem done_owned_iff (cfg : Config) (socket_id : RIL_SOCKET_ID) (data : SetupData) (w : World) :
    (∀ origin index w', setupRounds cfg socket_id data w = (some (.done origin index), w') →
        Owned socket_id w' index) ↔
      ∀ q l w', LastRound cfg socket_id data w q l w' → ¬ LosesSlot socket_id q.2 l := by
  constructor
  · intro howned q l w' hlast
    cases l with
    | error index => exact not_false
    | done origin index =>
      have hround := @setupRound_spec cfg socket_id data q.1 q.2
      rw [hlast.last] at hround
      exact (owned_iff hround).1 (howned origin index w' (setupRounds_eq_some.2 ⟨q, hlast⟩))
  · intro hkeeps origin index w' hrun
    obtain ⟨q, hlast⟩ := setupRounds_eq_some.1 hrun
    have hround := @setupRound_spec cfg socket_id data q.1 q.2
    rw [hlast.last] at hround
    exact (owned_iff hround).2 (hkeeps q _ w' hlast)

/-! ### A request on a modem without LTE -/

def gsmConfig : Config where
  s_isLTE := false
  isLWG_LWG := false
  s_multiModeSim := .RIL_SOCKET_1
  useDefaultPDN := false
  qosDefault := false
  carrier := ascii "unknown"
  isVoLteEnable := false
  ddrStatus := false
  s_autoDetach := true
  allSIMsPresent := false
  inSession := fun _ => false

def ipData : SetupData where
  apn := ascii "cmnet"
  username := []
  password := []
  authtype := ascii "0"
  pdpType := none

def okAnswer : Answer := .response (ascii "OK") []

def cmeError (n : String) : Answer := .response (ascii "+CME ERROR: " ++ ascii n) []

def envOf (answers : List Answer) : Env where
  answers := answers
  ipv6Addrs := []
  stack := { active := 0, apn := [], type := 0, responses := fun _ => emptyDataCall }

/-- AT+CGACT=0, AT+CGDCONT and AT+CGPCO are accepted, AT+CGDATA is answered 288, six times over. -/
def busyNetwork : List Answer := (List.replicate 6 [okAnswer, okAnswer, okAnswer, cmeError "288"]).flatten

theorem pair_eq {α β : Type} {p : α × β} {a : α} (h : p.1 = a) : p = (a, p.2) := Prod.ext h rfl

theorem retries_lose_slot :
    ¬ ∀ origin index w',
      setupRounds gsmConfig .RIL_SOCKET_1 ipData (World.init (envOf busyNetwork)) = (some (.done origin index), w') →
        Owned .RIL_SOCKET_1 w' index := by
  intro howned
  have hdone : (setupRounds gsmConfig .RIL_SOCKET_1 ipData (World.init (envOf busyNetwork))).1 =
      some (.done .retriesSpent 0) := by decide +kernel
  have hidle : ((setupRounds gsmConfig .RIL_SOCKET_1 ipData (World.init (envOf busyNetwork))).2.slot .RIL_SOCKET_1 0).state
      = .PDP_IDLE := by decide +kernel
  have hbusy := (howned _ _ _ (pair_eq hdone)).1
  exact absurd (hidle.symm.trans hbusy) (by decide)

end UniRil.Data
