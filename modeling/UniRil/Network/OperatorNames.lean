import Mathlib.Data.List.Nodup
import UniRil.AtTok
import UniRil.Lib.Runs

/-!
# The list of updated operator names

requestUpdateOperatorName removes the entry of a plmn in one critical section and adds the new name in another one.
requestOperator adds the name it asked for when the list had none. The list and the threads are those of one SIM.
-/

namespace UniRil.Network.OperatorNames

open AtTok Runs

/-! ## The list -/

structure OperatorInfo where
  plmn : Line
  operatorName : Line
  deriving DecidableEq

def getOperatorName (plmn : Line) (optList : List OperatorInfo) : Option Line :=
  (optList.find? (·.plmn = plmn)).map (·.operatorName)

/-- An entry that is there is kept. -/
def addToOperatorInfoList (plmn operatorName : Line) (optList : List OperatorInfo) : List OperatorInfo :=
  if optList.any (·.plmn = plmn) then optList
  else optList ++ [{ plmn := plmn, operatorName := operatorName }]

/-- The loop of requestUpdateOperatorName. -/
def removeOperatorInfo (plmn : Line) (optList : List OperatorInfo) : List OperatorInfo :=
  optList.eraseP (·.plmn = plmn)

/-! ## Steps -/

/-- Where a thread is. -/
inductive Pc
  | idle
  /-- requestUpdateOperatorName, before updatePlmn -/
  | updates (plmn : Line)
  | removes (plmn operatorName : Line)
  | inserts (plmn operatorName : Line)
  /-- requestOperator, before getOperatorName -/
  | searches (plmn : Line)
  /-- requestOperator, before updatePlmn -/
  | asks (plmn : Line)
  | adds (plmn updatedPlmn : Line)
  deriving DecidableEq

structure State where
  s_operatorInfoList : List OperatorInfo
  /-- What updatePlmn gives back at present: `err` and the name. -/
  names : Line → Int × Line
  threads : Nat → Pc
  /-- The name of the last update of a plmn that completed with success, until another one takes the lock. -/
  updated : Line → Option Line

def State.goto (s : State) (t : Nat) (pc : Pc) : State := { s with threads := Function.update s.threads t pc }

inductive Label
  | changes (plmn : Line) (answer : Int × Line)
  | requestUpdateOperatorName (t : Nat) (plmn : Line)
  | requestOperator (t : Nat) (plmn : Line)
  /-- The thread goes on. -/
  | next (t : Nat)

/-- updatePlmn gave a name. -/
def named (answer : Int × Line) : Bool := answer.1 == 0 && !answer.2.isEmpty

def advance (s : State) (t : Nat) : Pc → Option State
  | .idle => none
  | .updates plmn =>
    some (s.goto t (if named (s.names plmn) then .removes plmn (s.names plmn).2 else .idle))
  | .removes plmn operatorName =>
    some { s.goto t (.inserts plmn operatorName) with
      s_operatorInfoList := removeOperatorInfo plmn s.s_operatorInfoList
      updated := Function.update s.updated plmn none }
  | .inserts plmn operatorName =>
    -- the request completes with success
    some { s.goto t .idle with
      s_operatorInfoList := addToOperatorInfoList plmn operatorName s.s_operatorInfoList
      updated := Function.update s.updated plmn (some operatorName) }
  | .searches plmn =>
    some (s.goto t (if (getOperatorName plmn s.s_operatorInfoList).isSome then .idle else .asks plmn))
  | .asks plmn => some (s.goto t (if named (s.names plmn) then .adds plmn (s.names plmn).2 else .idle))
  | .adds plmn updatedPlmn =>
    some { s.goto t .idle with
      s_operatorInfoList := addToOperatorInfoList plmn updatedPlmn s.s_operatorInfoList }

def step (s : State) : Label → Option State
  | .changes plmn answer => some { s with names := Function.update s.names plmn answer }
  | .requestUpdateOperatorName t plmn => if s.threads t = .idle then some (s.goto t (.updates plmn)) else none
  | .requestOperator t plmn => if s.threads t = .idle then some (s.goto t (.searches plmn)) else none
  | .next t => advance s t (s.threads t)

def State.start (names : Line → Int × Line) : State where
  s_operatorInfoList := []
  names
  threads _ := .idle
  updated _ := none

/-! ## Runs -/

structure Sound (s : State) : Prop where
  updated : ∀ plmn operatorName, s.updated plmn = some operatorName →
    getOperatorName plmn s.s_operatorInfoList = some operatorName
  /-- No plmn is there twice. -/
  nodup : (s.s_operatorInfoList.map (·.plmn)).Nodup

/-- An update that adds its name finds no other name there. -/
def Kept (s : State) : Label → Prop
  | .next t => ∀ plmn operatorName, s.threads t = .inserts plmn operatorName →
      ∀ present, getOperatorName plmn s.s_operatorInfoList = some present → present = operatorName
  | _ => True

/-! ## Lookups -/

variable {optList : List OperatorInfo} {plmn operatorName : Line} {s s' : State}

theorem any_plmn_iff : optList.any (·.plmn = plmn) = true ↔ plmn ∈ optList.map (·.plmn) := by
  simp

theorem getOperatorName_eq_none : getOperatorName plmn optList = none ↔ plmn ∉ optList.map (·.plmn) := by
  simp [getOperatorName]

/-- An addition answers for its plmn with the entry that was there, or else with the new name. -/
theorem getOperatorName_add_self :
    getOperatorName plmn (addToOperatorInfoList plmn operatorName optList) =
      some ((getOperatorName plmn optList).getD operatorName) := by
  unfold addToOperatorInfoList
  split
  · rename_i hthere
    have hsome : getOperatorName plmn optList ≠ none := by
      rw [Ne, getOperatorName_eq_none, not_not]
      exact any_plmn_iff.1 hthere
    obtain ⟨present, hpresent⟩ := Option.ne_none_iff_exists'.1 hsome
    rw [hpresent, Option.getD_some]
  · rename_i hnew
    have hnone : optList.find? (·.plmn = plmn) = none := by
      rw [List.find?_eq_none]
      simpa using hnew
    simp [getOperatorName, List.find?_append, hnone]

theorem getOperatorName_add_of_ne {q : Line} (h : q ≠ plmn) :
    getOperatorName q (addToOperatorInfoList plmn operatorName optList) = getOperatorName q optList := by
  unfold addToOperatorInfoList
  split
  · rfl
  · simp [getOperatorName, List.find?_append, Ne.symm h]

theorem getOperatorName_remove_of_ne {q : Line} (h : q ≠ plmn) :
    getOperatorName q (removeOperatorInfo plmn optList) = getOperatorName q optList := by
  unfold removeOperatorInfo
  induction optList with
  | nil => rfl
  | cons node rest ih =>
    by_cases hnode : node.plmn = plmn
    · have hq : node.plmn ≠ q := fun heq => h (heq.symm.trans hnode)
      simp [getOperatorName, hnode, Ne.symm h]
    · rw [List.eraseP_cons_of_neg (by simpa using hnode)]
      unfold getOperatorName at ih ⊢
      rw [List.find?_cons, List.find?_cons]
      split
      · rfl
      · exact ih

theorem nodup_add (h : (optList.map (·.plmn)).Nodup) :
    ((addToOperatorInfoList plmn operatorName optList).map (·.plmn)).Nodup := by
  unfold addToOperatorInfoList
  split
  · exact h
  · rename_i hnew
    rw [List.map_append, List.nodup_append']
    refine ⟨h, by simp, ?_⟩
    rw [List.map_singleton, List.disjoint_singleton]
    exact fun hmem => hnew (any_plmn_iff.2 hmem)

theorem nodup_remove (h : (optList.map (·.plmn)).Nodup) : ((removeOperatorInfo plmn optList).map (·.plmn)).Nodup :=
  h.sublist ((List.eraseP_sublist).map _)

/-! ## Steps keep it -/

theorem sound_start (names : Line → Int × Line) : Sound (State.start names) :=
  ⟨fun _ _ h => (by cases h), List.nodup_nil⟩

/-- A step that leaves the list alone. -/
theorem sound_same (h : Sound s) (hlist : s'.s_operatorInfoList = s.s_operatorInfoList)
    (hupdated : s'.updated = s.updated) : Sound s' := by
  refine ⟨fun plmn operatorName hname => ?_, ?_⟩
  · rw [hupdated] at hname
    rw [hlist]
    exact h.updated plmn operatorName hname
  · rw [hlist]
    exact h.nodup

theorem sound_removes {t : Nat} (h : Sound s) :
    Sound { s.goto t (.inserts plmn operatorName) with
      s_operatorInfoList := removeOperatorInfo plmn s.s_operatorInfoList
      updated := Function.update s.updated plmn none } := by
  refine ⟨fun q name hname => ?_, nodup_remove h.nodup⟩
  by_cases hq : q = plmn
  · simp only [hq, Function.update_self] at hname
    cases hname
  · simp only [Function.update_of_ne hq] at hname
    simp only [getOperatorName_remove_of_ne hq]
    exact h.updated q name hname

theorem sound_inserts {t : Nat} (h : Sound s)
    (hkept : ∀ present, getOperatorName plmn s.s_operatorInfoList = some present → present = operatorName) :
    Sound { s.goto t .idle with
      s_operatorInfoList := addToOperatorInfoList plmn operatorName s.s_operatorInfoList
      updated := Function.update s.updated plmn (some operatorName) } := by
  refine ⟨fun q name hname => ?_, nodup_add h.nodup⟩
  by_cases hq : q = plmn
  · simp only [hq, Function.update_self, Option.some.injEq] at hname
    simp only [hq, getOperatorName_add_self, ← hname, Option.some.injEq]
    cases hpresent : getOperatorName plmn s.s_operatorInfoList with
    | none => rfl
    | some present => exact hkept present hpresent
  · simp only [Function.update_of_ne hq] at hname
    simp only [getOperatorName_add_of_ne hq]
    exact h.updated q name hname

/-- An addition keeps the entries that are there. -/
theorem sound_adds {t : Nat} (h : Sound s) :
    Sound { s.goto t .idle with
      s_operatorInfoList := addToOperatorInfoList plmn operatorName s.s_operatorInfoList } := by
  refine ⟨fun q name hname => ?_, nodup_add h.nodup⟩
  have hthere := h.updated q name hname
  by_cases hq : q = plmn
  · rw [hq] at hthere
    simp only [hq, getOperatorName_add_self, hthere, Option.getD_some]
  · simp only [getOperatorName_add_of_ne hq]
    exact hthere

theorem sound_step {a : Label} (h : Sound s) (hkept : Kept s a) (hstep : step s a = some s') : Sound s' := by
  cases a with
  | changes plmn answer =>
    obtain rfl := Option.some.inj hstep
    exact sound_same h rfl rfl
  | requestUpdateOperatorName t plmn =>
    obtain ⟨-, heq⟩ := Option.ite_none_right_eq_some.1 hstep
    obtain rfl := Option.some.inj heq
    exact sound_same h rfl rfl
  | requestOperator t plmn =>
    obtain ⟨-, heq⟩ := Option.ite_none_right_eq_some.1 hstep
    obtain rfl := Option.some.inj heq
    exact sound_same h rfl rfl
  | next t =>
    simp only [step] at hstep
    cases hpc : s.threads t with
    | idle =>
      rw [hpc] at hstep
      cases hstep
    | updates plmn =>
      rw [hpc] at hstep
      obtain rfl := Option.some.inj hstep
      exact sound_same h rfl rfl
    | removes plmn operatorName =>
      rw [hpc] at hstep
      obtain rfl := Option.some.inj hstep
      exact sound_removes h
    | inserts plmn operatorName =>
      rw [hpc] at hstep
      obtain rfl := Option.some.inj hstep
      exact sound_inserts h (hkept plmn operatorName hpc)
    | searches plmn =>
      rw [hpc] at hstep
      obtain rfl := Option.some.inj hstep
      exact sound_same h rfl rfl
    | asks plmn =>
      rw [hpc] at hstep
      obtain rfl := Option.some.inj hstep
      exact sound_same h rfl rfl
    | adds plmn updatedPlmn =>
      rw [hpc] at hstep
      obtain rfl := Option.some.inj hstep
      exact sound_adds h

/-- The addition of an update that finds another name keeps that one. -/
theorem lost_of_inserts {t : Nat} {present : Line} (hpc : s.threads t = .inserts plmn operatorName)
    (hpresent : getOperatorName plmn s.s_operatorInfoList = some present) (hother : present ≠ operatorName) :
    ∃ s', step s (.next t) = some s' ∧ ¬ Sound s' := by
  simp only [step, hpc, advance]
  refine ⟨_, rfl, fun hsound => hother ?_⟩
  have hname := hsound.updated plmn operatorName (Function.update_self _ _ _)
  simp only [getOperatorName_add_self, hpresent, Option.getD_some, Option.some.injEq] at hname
  exact hname

/-- **An operator name that was updated stays.** Throughout a run getOperatorName gives the name of the last update
of a plmn that completed, and no plmn is there twice, exactly when no update finds another name for its plmn when it
comes to add its own. -/
theorem named_iff_kept (names : Line → Int × Line) (labels : List Label) :
    Always step Sound (State.start names) labels ↔ Steps step Kept (State.start names) labels := by
  refine always_iff_steps (I := fun _ => True) (fun _ _ _ _ _ => trivial) (fun s a s' _ => sound_step)
    (fun s a _ hnot => ?_) trivial (sound_start names) labels
  cases a with
  | next t =>
    simp only [Kept, not_forall] at hnot
    obtain ⟨plmn, operatorName, hpc, present, hpresent, hother⟩ := hnot
    exact lost_of_inserts hpc hpresent hother
  | changes plmn answer => exact absurd trivial hnot
  | requestUpdateOperatorName t plmn => exact absurd trivial hnot
  | requestOperator t plmn => exact absurd trivial hnot

def somePlmn : Line := ascii "46000"

/-- requestOperator asks for the name before it changes, and adds it between the removal and the addition. -/
theorem sound_fails_oldName :
    ¬ ∀ names labels s, run step (State.start names) labels = some s → Sound s := by
  intro h
  have hrun : (run step (State.start fun _ => (0, ascii "old")) [.requestOperator 1 somePlmn, .next 1, .next 1,
      .changes somePlmn (0, ascii "new"), .requestUpdateOperatorName 2 somePlmn, .next 2, .next 2, .next 1, .next 2]).map
        (fun s => (s.updated somePlmn, s.s_operatorInfoList)) =
      some (some (ascii "new"), [{ plmn := somePlmn, operatorName := ascii "old" }]) := by
    decide
  obtain ⟨s, hrun, hs⟩ := Option.map_eq_some_iff.1 hrun
  obtain ⟨hupdated, hlist⟩ := Prod.mk.inj hs
  have hname := (h _ _ s hrun).updated somePlmn _ hupdated
  rw [hlist] at hname
  exact absurd hname (by decide)

end UniRil.Network.OperatorNames
