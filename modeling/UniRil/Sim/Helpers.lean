import UniRil.Sim.Cards
import UniRil.Sim.SimLocks

/-!
# What the helpers leave alone

The helpers of ril_sim.c come back, free what they were given, and answer no request.
-/

namespace UniRil.Sim

open Flows Handlers FailRules
open AtTok (Line)

variable {ε α : Type}

/-- The memory, the answers, the waiting requests and the cached PIN are as they were. -/
structure Aside (w w' : World Slot) : Prop where
  live : w'.live = w.live
  misused : w'.misused = w.misused
  completions : ∀ t, w'.completions t = w.completions t
  automaticPins : w'.automaticPins = w.automaticPins
  s_timerList : w'.globals.s_timerList = w.globals.s_timerList
  AUTO_SAVE_PIN : w'.globals.AUTO_SAVE_PIN = w.globals.AUTO_SAVE_PIN
  SIM_PIN_PROP : w'.globals.SIM_PIN_PROP = w.globals.SIM_PIN_PROP
  MODEM_ASSERT_PROP : w'.globals.MODEM_ASSERT_PROP = w.globals.MODEM_ASSERT_PROP

theorem aside_iff {w w' : World Slot} :
    Aside w w' ↔ w'.live = w.live ∧ w'.misused = w.misused ∧ (∀ t, w'.completions t = w.completions t) ∧
      w'.automaticPins = w.automaticPins ∧ w'.globals.s_timerList = w.globals.s_timerList ∧
      w'.globals.AUTO_SAVE_PIN = w.globals.AUTO_SAVE_PIN ∧ w'.globals.SIM_PIN_PROP = w.globals.SIM_PIN_PROP ∧
      w'.globals.MODEM_ASSERT_PROP = w.globals.MODEM_ASSERT_PROP := by
  constructor
  · rintro ⟨h1, h2, h3, h4, h5, h6, h7, h8⟩
    exact ⟨h1, h2, h3, h4, h5, h6, h7, h8⟩
  · rintro ⟨h1, h2, h3, h4, h5, h6, h7, h8⟩
    exact ⟨h1, h2, h3, h4, h5, h6, h7, h8⟩

section

variable {m : Handler Slot ε α} {w : World Slot}

@[simp] theorem live_after (h : Returns Aside m) : (after m w).live = w.live := (rel_of_returns h w).live

@[simp] theorem misused_after (h : Returns Aside m) : (after m w).misused = w.misused := (rel_of_returns h w).misused

@[simp] theorem completions_after (h : Returns Aside m) (t : RIL_Token) :
    (after m w).completions t = w.completions t :=
  (rel_of_returns h w).completions t

@[simp] theorem automaticPins_after (h : Returns Aside m) : (after m w).automaticPins = w.automaticPins :=
  (rel_of_returns h w).automaticPins

@[simp] theorem timerList_after (h : Returns Aside m) : (after m w).globals.s_timerList = w.globals.s_timerList :=
  (rel_of_returns h w).s_timerList

@[simp] theorem autoSave_after (h : Returns Aside m) : (after m w).globals.AUTO_SAVE_PIN = w.globals.AUTO_SAVE_PIN :=
  (rel_of_returns h w).AUTO_SAVE_PIN

@[simp] theorem simPin_after (h : Returns Aside m) : (after m w).globals.SIM_PIN_PROP = w.globals.SIM_PIN_PROP :=
  (rel_of_returns h w).SIM_PIN_PROP

@[simp] theorem modemAssert_after (h : Returns Aside m) :
    (after m w).globals.MODEM_ASSERT_PROP = w.globals.MODEM_ASSERT_PROP :=
  (rel_of_returns h w).MODEM_ASSERT_PROP

end

section

variable {E : Exit ε → World Slot → Prop} {w : World Slot}

@[simp] theorem aside_getSimlockRemainTimes (type : SimUnlockType) :
    Returns Aside (getSimlockRemainTimes type : Handler Slot ε Int) := by
  rw [returns_iff]
  intro w
  simp [getSimlockRemainTimes, setPinPukRemainTimes, aside_iff]

@[simp ↓] theorem wp_getSimlockRemainTimes (type : SimUnlockType) {Q : Int → World Slot → Prop} :
    wp (getSimlockRemainTimes type) Q E w ↔
      Q (valueOf (getSimlockRemainTimes type : Handler Slot ε Int) w)
        (after (getSimlockRemainTimes type : Handler Slot ε Int) w) :=
  wp_of_returns (aside_getSimlockRemainTimes type)

@[simp] theorem aside_reportSIMStatus (simmgr : Bool) (ret : SimStatus) :
    Returns Aside (reportSIMStatus simmgr ret : Handler Slot ε SimStatus) := by
  rw [returns_iff]
  intro w
  simp [reportSIMStatus, aside_iff]

@[simp ↓] theorem wp_reportSIMStatus (simmgr : Bool) (ret : SimStatus) {Q : SimStatus → World Slot → Prop} :
    wp (reportSIMStatus simmgr ret) Q E w ↔
      Q (valueOf (reportSIMStatus simmgr ret : Handler Slot ε SimStatus) w)
        (after (reportSIMStatus simmgr ret : Handler Slot ε SimStatus) w) :=
  wp_of_returns (aside_reportSIMStatus simmgr ret)

@[simp] theorem aside_setRadioState (newState : RadioState) :
    Returns Aside (setRadioState newState : Handler Slot ε Unit) := by
  rw [returns_iff]
  intro w
  simp [setRadioState, onSIMReady, aside_iff]

@[simp ↓] theorem wp_setRadioState (newState : RadioState) {Q : Unit → World Slot → Prop} :
    wp (setRadioState newState) Q E w ↔
      Q (valueOf (setRadioState newState : Handler Slot ε Unit) w)
        (after (setRadioState newState : Handler Slot ε Unit) w) :=
  wp_of_returns (aside_setRadioState newState)

@[simp] theorem aside_getSimType : Returns Aside (getSimType : Handler Slot ε RIL_AppType) := by
  rw [returns_iff]
  intro w
  simp [getSimType, aside_iff]

@[simp ↓] theorem wp_getSimType {Q : RIL_AppType → World Slot → Prop} :
    wp getSimType Q E w ↔
      Q (valueOf (getSimType : Handler Slot ε RIL_AppType) w) (after (getSimType : Handler Slot ε RIL_AppType) w) :=
  wp_of_returns aside_getSimType

@[simp] theorem aside_initISIM : Returns Aside (initISIM : Handler Slot ε Int) := by
  rw [returns_iff]
  intro w
  simp [initISIM, aside_iff]

@[simp ↓] theorem wp_initISIM {Q : Int → World Slot → Prop} :
    wp initISIM Q E w ↔ Q (valueOf (initISIM : Handler Slot ε Int) w) (after (initISIM : Handler Slot ε Int) w) :=
  wp_of_returns aside_initISIM

@[simp] theorem aside_getNetLockRemainTimes (type : Int) :
    Returns Aside (getNetLockRemainTimes type : Handler Slot ε Int) := by
  rw [returns_iff]
  intro w
  simp [getNetLockRemainTimes, aside_iff]

@[simp ↓] theorem wp_getNetLockRemainTimes (type : Int) {Q : Int → World Slot → Prop} :
    wp (getNetLockRemainTimes type) Q E w ↔
      Q (valueOf (getNetLockRemainTimes type : Handler Slot ε Int) w)
        (after (getNetLockRemainTimes type : Handler Slot ε Int) w) :=
  wp_of_returns (aside_getNetLockRemainTimes type)

@[simp] theorem aside_getRemainTimes (type : Option Line) :
    Returns Aside (getRemainTimes type : Handler Slot ε Int) := by
  rw [returns_iff]
  intro w
  simp [getRemainTimes, aside_iff]

@[simp ↓] theorem wp_getRemainTimes (type : Option Line) {Q : Int → World Slot → Prop} :
    wp (getRemainTimes type) Q E w ↔
      Q (valueOf (getRemainTimes type : Handler Slot ε Int) w) (after (getRemainTimes type : Handler Slot ε Int) w) :=
  wp_of_returns (aside_getRemainTimes type)

@[simp] theorem aside_getIMEIPassword (first : Bool) : Returns Aside (getIMEIPassword first : Handler Slot ε Line) := by
  rw [returns_iff]
  intro w
  simp [getIMEIPassword, aside_iff]

@[simp ↓] theorem wp_getIMEIPassword (first : Bool) {Q : Line → World Slot → Prop} :
    wp (getIMEIPassword first) Q E w ↔
      Q (valueOf (getIMEIPassword first : Handler Slot ε Line) w)
        (after (getIMEIPassword first : Handler Slot ε Line) w) :=
  wp_of_returns (aside_getIMEIPassword first)

@[simp ↓] theorem wp_whiteListOrJump (whiteList : Except WhiteListError Line) (l : ε)
    {Q : Line → World Slot → Prop} :
    wp (whiteListOrJump whiteList l) Q E w ↔
      (∀ text, whiteList = .ok text → Q text w) ∧ (whiteList = .error .missing → E (.goto l) w) ∧
        (whiteList = .error .overflow → E .crashes w) := by
  rcases whiteList with (_ | _) | text
  · simp [whiteListOrJump]
  · simp [whiteListOrJump]
  · simp [whiteListOrJump]

end

end UniRil.Sim
