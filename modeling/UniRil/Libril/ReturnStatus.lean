import Mathlib.Logic.Function.Basic
import UniRil.Lib.Runs

/-!
# Callbacks of dead clients (ril_service.cpp)

checkReturnStatus gives up the read lock of a slot, takes the write lock and sets the callback objects of a service
to NULL, unless a counter says that the service has been registered anew. One slot and its lock are modelled.
-/

namespace UniRil.Libril.ReturnStatus

open Runs

/-! ## State -/

inductive ServiceType
  | OEM_SERVICE
  | RADIO_SERVICE
  | RADIOINTERACTOR_SERVICE
  | ATC_SERVICE
  deriving DecidableEq

/-- A binder object; NULL is `none`. -/
abbrev Sp := Option Nat

structure Objects where
  mRadioResponse : Sp
  mRadioIndication : Sp
  mRadioResponseV1_1 : Sp
  mRadioIndicationV1_1 : Sp
  mExtRadioResponse : Sp
  mExtRadioIndication : Sp
  mOemHookResponse : Sp
  mOemHookIndication : Sp
  mAtcRadioResponse : Sp
  mAtcRadioIndication : Sp

/-- What checkReturnStatus has noted, and how often the service had been registered by then. -/
structure Check where
  srvType : ServiceType
  counter : Int32
  registrations : Nat

abbrev Thread := Nat

/-- Where a thread is. -/
inductive Phase
  | idle
  /-- It holds the read lock, and calls a callback. -/
  | calling
  /-- It holds the read lock. -/
  | counted (check : Check)
  | unlocked (check : Check)
  /-- It holds the write lock. -/
  | locked (check : Check)
  | compared
  | reacquiring

/-- The objects of a service were set to NULL: its registrations at the reading of the counter, and at this time. -/
structure Erasure where
  before : Nat
  now : Nat
  deriving DecidableEq

structure State where
  objects : Objects
  mCounterRadio : Int32
  mCounterOemHook : Int32
  /-- Who holds radioServiceRwlock. -/
  readers : List Thread
  writer : Option Thread
  phase : Thread → Phase
  /-- How often the objects of a service were set. -/
  registrations : ServiceType → Nat
  erasures : List Erasure

/-- After radio::registerService. -/
def State.init : State where
  objects :=
    { mRadioResponse := none, mRadioIndication := none, mRadioResponseV1_1 := none, mRadioIndicationV1_1 := none,
      mExtRadioResponse := none, mExtRadioIndication := none, mOemHookResponse := none, mOemHookIndication := none,
      mAtcRadioResponse := none, mAtcRadioIndication := none }
  mCounterRadio := 0
  mCounterOemHook := 0
  readers := []
  writer := none
  phase _ := .idle
  registrations _ := 0
  erasures := []

/-! ## Registrations -/

/-- A call of one of the four functions that set callback objects. -/
inductive Registration
  /-- `response11` and `indication11` are what castFrom makes of the parameters. -/
  | setResponseFunctions (response indication response11 indication11 : Sp)
  | setExtResponseFunctions (response indication : Sp)
  | setOemHookResponseFunctions (response indication : Sp)
  | setAtcResponseFunctions (response indication : Sp)

def Registration.service : Registration → ServiceType
  | .setResponseFunctions .. => .RADIO_SERVICE
  | .setExtResponseFunctions .. => .RADIOINTERACTOR_SERVICE
  | .setOemHookResponseFunctions .. => .OEM_SERVICE
  | .setAtcResponseFunctions .. => .ATC_SERVICE

def Registration.store (objects : Objects) : Registration → Objects
  | .setResponseFunctions response indication response11 indication11 =>
    let both := response11 ≠ none ∧ indication11 ≠ none
    { objects with
      mRadioResponse := response
      mRadioIndication := indication
      mRadioResponseV1_1 := if both then response11 else none
      mRadioIndicationV1_1 := if both then indication11 else none }
  | .setExtResponseFunctions response indication =>
    { objects with mExtRadioResponse := response, mExtRadioIndication := indication }
  | .setOemHookResponseFunctions response indication =>
    { objects with mOemHookResponse := response, mOemHookIndication := indication }
  | .setAtcResponseFunctions response indication =>
    { objects with mAtcRadioResponse := response, mAtcRadioIndication := indication }

/-- The part under the write lock. -/
def register (s : State) (r : Registration) : State :=
  { s with
    objects := r.store s.objects
    -- setAtcResponseFunctions leaves the counters alone
    mCounterRadio :=
      if r.service = .RADIO_SERVICE ∨ r.service = .RADIOINTERACTOR_SERVICE then s.mCounterRadio + 1 else s.mCounterRadio
    mCounterOemHook := if r.service = .OEM_SERVICE then s.mCounterOemHook + 1 else s.mCounterOemHook
    registrations := Function.update s.registrations r.service (s.registrations r.service + 1) }

/-! ## checkReturnStatus -/

/-- The service whose objects are set to NULL. -/
def ServiceType.erased : ServiceType → ServiceType
  | .RADIO_SERVICE => .RADIO_SERVICE
  | .RADIOINTERACTOR_SERVICE => .RADIOINTERACTOR_SERVICE
  | _ => .OEM_SERVICE

def erase (objects : Objects) (srvType : ServiceType) : Objects :=
  if srvType = .RADIO_SERVICE then
    { objects with
      mRadioResponse := none
      mRadioIndication := none
      mRadioResponseV1_1 := none
      mRadioIndicationV1_1 := none }
  else if srvType = .RADIOINTERACTOR_SERVICE then
    { objects with mExtRadioResponse := none, mExtRadioIndication := none }
  else
    { objects with mOemHookResponse := none, mOemHookIndication := none }

/-- `(srvType == OEM_SERVICE)? mCounterOemHook[slotId] : mCounterRadio[slotId]` -/
def counterOf (s : State) (srvType : ServiceType) : Int32 :=
  if srvType = .OEM_SERVICE then s.mCounterOemHook else s.mCounterRadio

/-- `counter == (srvType == OEM_SERVICE)? mCounterOemHook[slotId] : mCounterRadio[slotId]`: the comparison binds
tighter than the conditional, so that it chooses the counter that is tested. -/
def testedCounter (s : State) (check : Check) : Int32 :=
  if check.counter = (if check.srvType = .OEM_SERVICE then 1 else 0) then s.mCounterOemHook else s.mCounterRadio

def compare (s : State) (check : Check) : State :=
  if testedCounter s check ≠ 0 then
    { s with
      objects := erase s.objects check.srvType
      mCounterOemHook := if check.srvType = .OEM_SERVICE then s.mCounterOemHook + 1 else s.mCounterOemHook
      mCounterRadio := if check.srvType = .OEM_SERVICE then s.mCounterRadio else s.mCounterRadio + 1
      erasures := s.erasures ++
        [{ before := check.registrations, now := s.registrations check.srvType.erased }] }
  else s

/-! ## Steps -/

inductive Step
  | register (r : Registration)
  /-- A response or an indication goes to a client. -/
  | rdlock (t : Thread)
  | unlock (t : Thread)
  /-- The callback has failed, and checkReturnStatus notes the counter. -/
  | counter (t : Thread) (srvType : ServiceType)
  | unlockRead (t : Thread)
  | wrlock (t : Thread)
  | compare (t : Thread)
  | unlockWrite (t : Thread)
  | rdlockAgain (t : Thread)

def State.goto (s : State) (t : Thread) (phase : Phase) : State :=
  { s with phase := Function.update s.phase t phase }

def step (s : State) : Step → Option State
  | .register r => if s.readers = [] ∧ s.writer = none then some (register s r) else none
  | .rdlock t =>
    match s.phase t with
    | .idle => if s.writer = none then some ({ s with readers := t :: s.readers }.goto t .calling) else none
    | _ => none
  | .unlock t =>
    match s.phase t with
    | .calling => some ({ s with readers := s.readers.erase t }.goto t .idle)
    | _ => none
  | .counter t srvType =>
    match s.phase t with
    | .calling =>
      some (s.goto t (.counted
        { srvType := srvType, counter := counterOf s srvType, registrations := s.registrations srvType.erased }))
    | _ => none
  | .unlockRead t =>
    match s.phase t with
    | .counted check => some ({ s with readers := s.readers.erase t }.goto t (.unlocked check))
    | _ => none
  | .wrlock t =>
    match s.phase t with
    | .unlocked check =>
      if s.readers = [] ∧ s.writer = none then some ({ s with writer := some t }.goto t (.locked check)) else none
    | _ => none
  | .compare t =>
    match s.phase t with
    | .locked check => some ((compare s check).goto t .compared)
    | _ => none
  | .unlockWrite t =>
    match s.phase t with
    | .compared => some ({ s with writer := none }.goto t .reacquiring)
    | _ => none
  | .rdlockAgain t =>
    match s.phase t with
    | .reacquiring => if s.writer = none then some ({ s with readers := t :: s.readers }.goto t .calling) else none
    | _ => none

/-! ## Newer registrations -/

/-- No objects were set to NULL that had been registered since the counter was read. -/
def KeepsNewer (s : State) : Prop := ∀ e ∈ s.erasures, e.before = e.now

instance (s : State) : Decidable (KeepsNewer s) := inferInstanceAs (Decidable (∀ e ∈ s.erasures, _))

/-- At a comparison behind a new registration, the counter that is tested is zero. -/
def ZeroAfterRegistration (s : State) : Step → Prop
  | .compare t =>
    match s.phase t with
    | .locked check => s.registrations check.srvType.erased ≠ check.registrations → testedCounter s check = 0
    | _ => True
  | _ => True

/-- Objects are set to NULL in comparisons only. -/
theorem erasures_step {s s' : State} {a : Step} (ha : ∀ t, a ≠ .compare t) (hstep : step s a = some s') :
    s'.erasures = s.erasures := by
  cases a
  case compare t => exact absurd rfl (ha t)
  all_goals
    simp only [step] at hstep
    grind [State.goto, register]

theorem erasures_compare {s s' : State} {t : Thread} (hstep : step s (.compare t) = some s') :
    ∃ check, s.phase t = .locked check ∧ s'.erasures =
      if testedCounter s check = 0 then s.erasures
      else s.erasures ++ [{ before := check.registrations, now := s.registrations check.srvType.erased }] := by
  simp only [step] at hstep
  split at hstep
  · rename_i check hphase
    cases hstep
    refine ⟨check, hphase, ?_⟩
    by_cases htest : testedCounter s check = 0
    · simp [compare, State.goto, htest]
    · simp [compare, State.goto, htest]
  · cases hstep

theorem keepsNewer_step {s s' : State} {a : Step} (h : KeepsNewer s) (hC : ZeroAfterRegistration s a)
    (hstep : step s a = some s') : KeepsNewer s' := by
  by_cases ha : ∃ t, a = .compare t
  · obtain ⟨t, rfl⟩ := ha
    obtain ⟨check, hphase, herasures⟩ := erasures_compare hstep
    simp only [ZeroAfterRegistration, hphase] at hC
    rw [KeepsNewer, herasures]
    split
    · exact h
    · rename_i htest
      intro e he
      rcases List.mem_append.1 he with he | he
      · exact h e he
      · rw [List.mem_singleton.1 he]
        by_contra hne
        exact htest (hC (Ne.symm hne))
  · rw [KeepsNewer, erasures_step (fun t ht => ha ⟨t, ht⟩) hstep]
    exact h

theorem keepsNewer_breaks {s : State} {a : Step} (hC : ¬ ZeroAfterRegistration s a) :
    ∃ s', step s a = some s' ∧ ¬ KeepsNewer s' := by
  cases a
  case compare t =>
    simp only [ZeroAfterRegistration] at hC
    split at hC
    · rename_i check hphase
      have hstep : step s (.compare t) = some ((compare s check).goto t .compared) := by simp only [step, hphase]
      obtain ⟨hnewer, htest⟩ := Classical.not_imp.1 hC
      refine ⟨_, hstep, ?_⟩
      obtain ⟨check', hphase', herasures⟩ := erasures_compare hstep
      obtain rfl : check = check' := by
        rw [hphase] at hphase'
        exact Phase.locked.inj hphase'
      rw [KeepsNewer, herasures, if_neg htest]
      intro h
      exact hnewer (h _ (List.mem_append_right _ List.mem_cons_self)).symm
    · exact absurd trivial hC
  all_goals exact absurd trivial hC

/-- **The cleanup after a dead client spares newer registrations** exactly when the counter that it tests is zero
wherever there is one. -/
theorem keepsNewer_iff_zeroAfterRegistration (run : List Step) :
    Always step KeepsNewer State.init run ↔ Steps step ZeroAfterRegistration State.init run := by
  refine always_iff_steps (I := fun _ => True) ?_ ?_ ?_ trivial ?_ run
  · exact fun _ _ _ _ _ => trivial
  · exact fun _ _ _ _ h hC hstep => keepsNewer_step h hC hstep
  · exact fun _ _ _ hC => keepsNewer_breaks hC
  · intro e he
    cases he

/-- A radio client registers, dies and registers anew before the write lock is taken. -/
def restart : List Step :=
  [.register (.setResponseFunctions (some 1) (some 2) none none), .rdlock 0, .counter 0 .RADIO_SERVICE, .unlockRead 0,
    .register (.setResponseFunctions (some 3) (some 4) none none), .wrlock 0, .compare 0]

theorem keepsNewer_fails_restart : ¬ Always step KeepsNewer State.init restart := by
  intro h
  have hlast : (run step State.init restart).map State.erasures = some [{ before := 1, now := 2 }] := by decide
  obtain ⟨s, hrun, herasures⟩ := Option.map_eq_some_iff.1 hlast
  have hall := h.last hrun
  rw [KeepsNewer, herasures] at hall
  exact absurd (hall _ List.mem_cons_self) (by decide)

end UniRil.Libril.ReturnStatus
