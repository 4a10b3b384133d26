import UniRil.Lib.Runs
import UniRil.Sim.PinCoding
import UniRil.Sim.Requests

/-!
# Which PIN is entered without a request

The handlers that save a PIN, the one that enters it after an assert of the modem, and the lines
that report the card, as the steps of a run on one slot. Beside the slot stands the PIN that the
modem accepted last for the card in it.
-/

namespace UniRil.Sim

open Flows Handlers
open AtTok (Line isdigit)

variable {ε : Type}

/-! ## +ECIND -/

/-- The value and the cause of a line about the card. Where a cause has to be read and cannot be, nothing
is done. -/
def ecindOf (s : Line) : Option (Int × Option Int) :=
  let type := AtTok.at_tok_nextint (AtTok.at_tok_start (some s))
  type.value.bind fun n =>
    if n = 3 ∧ AtTok.at_tok_hasmore type.p_cur then
      let value := AtTok.at_tok_nextint type.p_cur
      value.value.bind fun v =>
        if (v = 1 ∨ v = 0 ∨ v = 2) ∧ AtTok.at_tok_hasmore value.p_cur then
          (AtTok.at_tok_nextint value.p_cur).value.map fun cause => (v, some cause)
        else some (v, none)
    else none

/-- What a line with the value 1 is told on for. -/
def reportAbsent (cause : Int) : Handler Slot ε Unit := do
  if cause = 2 then
    RIL_onUnsolicitedResponse .RIL_EXT_UNSOL_SIMMGR_SIM_STATUS_CHANGED
    RIL_requestTimedCallback .onSimAbsent
  else if cause = 34 ∨ cause = 25 then
    RIL_onUnsolicitedResponse .RIL_EXT_UNSOL_SIMMGR_SIM_STATUS_CHANGED
    if cause = 34 then
      RIL_requestTimedCallback .onSimAbsent
    else
      RIL_onUnsolicitedResponse .RIL_UNSOL_RESPONSE_SIM_STATUS_CHANGED
  else if cause = 1 ∨ cause = 7 then
    RIL_onUnsolicitedResponse .RIL_UNSOL_RESPONSE_SIM_STATUS_CHANGED
    RIL_onUnsolicitedResponse .RIL_EXT_UNSOL_SIMMGR_SIM_STATUS_CHANGED

def onSimStatusChanged (s : Line) : Handler Slot ε Unit :=
  (ecindOf s).elim (pure ()) fun (value, cause) => do
    if value = 1 then
      cause.elim (pure ()) reportAbsent
    else if value = 100 ∨ value = 4 then
      RIL_onUnsolicitedResponse .RIL_UNSOL_RESPONSE_SIM_STATUS_CHANGED
      if value = 4 then
        RIL_requestTimedCallback .onSimlockLocked
      else
        RIL_onUnsolicitedResponse .RIL_EXT_UNSOL_SIMMGR_SIM_STATUS_CHANGED
    else if value = 0 ∨ value = 2 then
      if cause = some 0 then
        modifyGlobals fun g => { g with s_imsInitISIM := -1 }
      RIL_requestTimedCallback .onSimPresent

/-- The line says that the card is gone: pulled out, or none is there. -/
def removesCard (s : Line) : Bool :=
  ecindOf s ∈ [some (1, some 2), some (1, some 34), some (1, some 1), some (1, some 7)]

/-! ## The modem restarts -/

def onModemReset_Sim : Handler Slot ε Unit :=
  modifyGlobals fun g =>
    { g with
      s_isSimPresent := .ABSENT
      s_imsInitISIM := -1
      s_simSessionId := -1
      s_appType := .UNKNOWN
      s_sim_busy := false }

/-! ## The steps of a slot -/

inductive Action
  | requestEnterSimPin (strings : List (Option Line)) (t : RIL_Token)
  | requestChangeSimPin (strings : List (Option Line)) (t : RIL_Token)
  | requestFacilityLock (kind : FacilityRequest) (data : List (Option Line)) (count : Nat) (meanwhile : List Arrival)
    (t : RIL_Token)
  | getSIMStatus (simmgr : Bool)
  | onSimStatusChanged (s : Line)
  /-- The modem restarts, and the property says so. -/
  | modemAssert
  /-- Whatever the other handlers make of the slot. -/
  | elsewhere (other : Slot)

def Action.run : Action → Handler Slot Empty Unit
  | .requestEnterSimPin strings t => Sim.requestEnterSimPin strings t
  | .requestChangeSimPin strings t => Sim.requestChangeSimPin strings t
  | .requestFacilityLock kind data count meanwhile t => Sim.requestFacilityLock kind data count meanwhile t
  | .getSIMStatus simmgr => do
    let _ ← Sim.getSIMStatus simmgr
  | .onSimStatusChanged s => Sim.onSimStatusChanged s
  | .modemAssert => do
    onModemReset_Sim
    modifyGlobals fun g => { g with MODEM_ASSERT_PROP := ascii "1" }
  | .elsewhere other =>
    modifyGlobals fun g =>
      { other with
        AUTO_SAVE_PIN := g.AUTO_SAVE_PIN
        SIM_PIN_PROP := g.SIM_PIN_PROP
        MODEM_ASSERT_PROP := g.MODEM_ASSERT_PROP }

/-- The PIN of the card that the modem accepts with the request. -/
def Action.newPin (answers : Nat → Answer) (allocates : Nat → Bool) : Action → Option Line
  | .requestEnterSimPin strings _ =>
    if strings.length = 2 then
      if allocates 0 = true ∧ Answer.succeeds (answers 0) = true then some (printed (strings.getD 0 none)) else none
    else if strings.length = 3 ∧ cpinResultOf (answers 0) ≠ none ∧ allocates 0 = true ∧
        Answer.succeeds (answers 1) = true then
      some (printed (strings.getD 1 none))
    else none
  | .requestChangeSimPin strings _ =>
    if strings.length = 3 ∧ cpinResultOf (answers 0) ≠ none ∧ allocates 0 = true ∧
        Answer.succeeds (answers 1) = true then
      some (printed (strings.getD 1 none))
    else none
  | .requestFacilityLock kind data count _ _ =>
    if count = 5 ∧ given (data.getD 0 none) = some (ascii "SC") ∧
        (∃ mode, given (data.getD 1 none) = some mode ∧ mode.head? ≠ some 50) ∧
        (kind = .SET_FACILITY_LOCK → given (data.getD 2 none) ≠ none) ∧ data.getD 3 none ≠ none ∧
        allocates 0 = true ∧ Answer.succeeds (answers 0) = true then
      some (printed (data.getD 2 none))
    else none
  | _ => none

def Action.removesCard : Action → Bool
  | .onSimStatusChanged s => Sim.removesCard s
  | _ => false

/-- An action, with what the modem answers to its commands. -/
structure Step where
  action : Action
  answers : Nat → Answer
  allocates : Nat → Bool

/-- The slot, and the PIN the modem accepted last for the card that is in it. -/
structure Card where
  slot : Slot
  accepted : Option Line

/-- The world that a step leaves. -/
def Step.world (s : Step) (g : Slot) : World Slot := after s.action.run (.start s.answers s.allocates g)

/-- The accepted PIN, from where the step has its own PIN accepted on. A PIN that `getSIMStatus` enters is
the accepted one, as long as every one is. -/
def Step.accepted (s : Step) (accepted : Option Line) : Option Line :=
  if s.action.removesCard then none else (s.action.newPin s.answers s.allocates).or accepted

/-- A crash starts the process anew. The properties stay. -/
def pinStep (c : Card) (s : Step) : Option Card :=
  some { slot := (s.world c.slot).globals, accepted := s.accepted c.accepted }

/-! ## The right PIN -/

/-- Each PIN that is entered without a request is the one the modem accepted last for the card. -/
def EntersAccepted (c : Card) (s : Step) : Prop :=
  ∀ pin ∈ (s.world c.slot).automaticPins, s.accepted c.accepted = some pin

/-- Where a PIN is entered without a request, the modem has accepted one since a card was removed, and the
last one has four digits. -/
def AcceptedSinceRemoval (c : Card) (s : Step) : Prop :=
  (s.world c.slot).automaticPins ≠ [] →
    ∃ pin, s.accepted c.accepted = some pin ∧ pin.length = 4 ∧ ∀ d ∈ pin, isdigit d = true

instance (c : Card) (s : Step) : Decidable (EntersAccepted c s) := inferInstanceAs (Decidable (∀ pin ∈ _, _))

instance (c : Card) (s : Step) : Decidable (AcceptedSinceRemoval c s) :=
  decidable_of_iff
    ((s.world c.slot).automaticPins ≠ [] →
      ∃ pin ∈ s.accepted c.accepted, pin.length = 4 ∧ pin.all isdigit = true)
    (by simp only [AcceptedSinceRemoval, List.all_eq_true, Option.mem_def])

end UniRil.Sim
