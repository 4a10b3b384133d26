import UniRil.Call.CallEntries

/-!
# Switching several calls (ril_call.c)

SWITCH_MULTI_CALL hangs up the calls its mode selects one after the other. What it looks at behind each hang-up is the
response of AT+CLCC, and only a hang-up without any response stops it.
-/

namespace UniRil.Call.SwitchMultiCall

open Flows Handlers CurrentCalls
open AtTok (Line)
open Requests (Globals hungUp hangupCall hangupCalls requestSwitchMultiCall sendCLCC)

/-! ## The mode -/

/-- If mode is 1, hang up all active calls; if mode is 2, all hold calls; if mode is 3, all active and hold calls. -/
inductive Mode
  | active
  | hold
  | both

def Mode.value : Mode → Int
  | .active => 1
  | .hold => 2
  | .both => 3

def ACTIVE : Int := 0

def Mode.selects (state : Int) : Mode → Bool
  | .active => state = ACTIVE
  | .hold => state = HOLDING
  | .both => state = ACTIVE ∨ state = HOLDING

theorem hungUp_value (mode : Mode) (state : Int) : hungUp mode.value state = mode.selects state := by
  rw [Bool.eq_iff_iff]
  cases mode with
  | active =>
    simp [hungUp, Mode.value, Mode.selects]
    exact Iff.rfl
  | hold => simp [hungUp, Mode.value, Mode.selects]
  | both =>
    simp [hungUp, Mode.value, Mode.selects]
    exact Iff.rfl

theorem value_ne (mode : Mode) : mode.value ≠ 0 := by
  cases mode with
  | active => decide
  | hold => decide
  | both => decide

/-! ## Commands one after the other -/

def succeeded : Answer → Bool
  | .failed => false
  | .response finalResponse _ => Command.isFinalResponseSuccess finalResponse

def responded : Answer → Bool
  | .failed => false
  | .response _ _ => true

/-- A hang-up for each accepted line whose call is in a state the mode selects. -/
def hangUps (mode : Mode) (lines : List Line) : List Line :=
  ((lines.filterMap (ownCall callFromCLCCLine .zero)).filter fun call => mode.selects call.state).map fun call =>
    ascii "AT+CHLD=7" ++ decimal call.index

/-- The hang-ups that go out if the switch goes on only behind some of the answers, and AT+CHLD=2 behind them all. -/
def sentFrom (goesOn : Answer → Bool) (answers : Nat → Answer) : List Line → List Line
  | [] => [ascii "AT+CHLD=2"]
  | cmd :: cmds => cmd :: if goesOn (answers 0) then sentFrom goesOn (fun n => answers (n + 1)) cmds else []

theorem sentFrom_ne_nil (goesOn : Answer → Bool) (answers : Nat → Answer) (cmds : List Line) :
    sentFrom goesOn answers cmds ≠ [] := by
  cases cmds with
  | nil => simp [sentFrom]
  | cons cmd cmds => simp [sentFrom]

/-- No hang-up is refused: the first that does not end with success gets no response. -/
def NoneRefused (answers : Nat → Answer) : List Line → Prop
  | [] => True
  | _ :: cmds =>
    responded (answers 0) = true → succeeded (answers 0) = true ∧ NoneRefused (fun n => answers (n + 1)) cmds

/-- The first hang-up that is refused is not the last command. -/
theorem sentFrom_eq_iff (answers : Nat → Answer) (cmds : List Line) :
    sentFrom responded answers cmds = sentFrom succeeded answers cmds ↔ NoneRefused answers cmds := by
  induction cmds generalizing answers with
  | nil => simp [sentFrom, NoneRefused]
  | cons cmd cmds ih =>
    unfold sentFrom NoneRefused
    cases answers 0 with
    | failed => simp [responded, succeeded]
    | response f ls =>
      cases hf : Command.isFinalResponseSuccess f with
      | true => simp [responded, succeeded, hf, ih]
      | false => simp [responded, succeeded, hf, sentFrom_ne_nil]

theorem succeeded_of_responded {answers : Nat → Answer} {cmds : List Line} (h : NoneRefused answers cmds)
    (hresponded : ∀ i < cmds.length, responded (answers i) = true) :
    ∀ i < cmds.length, succeeded (answers i) = true := by
  induction cmds generalizing answers with
  | nil => simp
  | cons cmd cmds ih =>
    rw [List.length_cons, Nat.forall_lt_succ_left] at hresponded ⊢
    obtain ⟨hzero, hrest⟩ := h hresponded.1
    exact ⟨hzero, ih hrest hresponded.2⟩

/-! ## The loop -/

/-- The response of AT+CLCC, and no other one, is there. -/
structure Held (r : Response) (w : World Globals) : Prop where
  live : w.live = [r.handle]
  misused : w.misused = false

/-- What is in the log and what is still to come do not change. -/
def Due (cmds : List Line) (w : World Globals) : List Event :=
  w.log ++ (sentFrom responded w.answers cmds).map .at_send_command

theorem due_failed {cmd : Line} {cmds : List Line} {w : World Globals} (h : responded (w.answers 0) = false) :
    Due (cmd :: cmds) w = w.log ++ [.at_send_command cmd] := by
  simp [Due, sentFrom, h]

theorem due_responded {cmd : Line} {cmds : List Line} {w w' : World Globals} (h : responded (w.answers 0) = true)
    (hanswers : w'.answers = fun n => w.answers (n + 1)) (hlog : w'.log = w.log ++ [.at_send_command cmd]) :
    Due (cmd :: cmds) w = Due cmds w' := by
  simp [Due, sentFrom, h, hanswers, hlog]

theorem held_reads {r : Response} {w : World Globals} (hw : Held r w) : Held r (w.reads r.handle) :=
  ⟨hw.live, by simp [hw.live, hw.misused]⟩

theorem held_setGlobals {r : Response} {w : World Globals} (f : Globals → Globals) (hw : Held r w) :
    Held r (w.setGlobals f) := ⟨hw.live, hw.misused⟩

theorem hangUps_accepted {mode : Mode} {line : Line} {lines : List Line} {own : RIL_Call}
    (h : ownCall callFromCLCCLine .zero line = some own) :
    hangUps mode (line :: lines) =
      if mode.selects own.state then (ascii "AT+CHLD=7" ++ decimal own.index) :: hangUps mode lines
      else hangUps mode lines := by
  unfold hangUps
  rw [List.filterMap_cons_some h, List.filter_cons]
  split
  · rfl
  · rfl

theorem hangUps_refused {mode : Mode} {line : Line} {lines : List Line}
    (h : ownCall callFromCLCCLine .zero line = none) : hangUps mode (line :: lines) = hangUps mode lines := by
  unfold hangUps
  rw [List.filterMap_cons_none h]

theorem overwritten_state (line : Line) (own c : RIL_Call) :
    (overwritten line own c).state = own.state ∧ (overwritten line own c).index = own.index := by
  unfold overwritten
  split
  · exact ⟨rfl, rfl⟩
  · exact ⟨rfl, rfl⟩

/-- A hang-up goes out, and what comes behind it is done if there is a response at all. -/
theorem wp_hangupCall {r : Response} (hr : r.success = true) (index : Int) {w : World Globals} (hw : Held r w)
    {Q : Unit → World Globals → Prop} {E : Exit (Pointer × Pointer) → World Globals → Prop}
    (hfailed : responded (w.answers 0) = false →
      E (.goto (some r, none)) (w.sends (ascii "AT+CHLD=7" ++ decimal index)))
    (hdone : responded (w.answers 0) = true → ∀ w', Held r w' → w'.answers = (fun n => w.answers (n + 1)) →
      w'.log = w.log ++ [.at_send_command (ascii "AT+CHLD=7" ++ decimal index)] → Q () w') :
    wp (hangupCall index (some r)) Q E w := by
  unfold hangupCall
  simp [hr]
  constructor
  · intro h
    exact hfailed (by simp [h, responded])
  · intro f ls h
    refine hdone (by simp [h, responded]) _ ⟨?_, ?_⟩ rfl rfl
    · simp [hw.live]
    · simp [hw.live, hw.misused]

theorem wp_hangupCalls {mode : Mode} {r : Response} (hr : r.success = true) (lines : List Line) {c : RIL_Call}
    (hc : c.numberPresentation = 0) {w : World Globals} (hw : Held r w) :
    wp (hangupCalls mode.value (some r) lines c)
      (fun _ w' => Held r w' ∧ Due [] w' = Due (hangUps mode lines) w ∧
        ∀ i < (hangUps mode lines).length, responded (w.answers i) = true)
      (fun e w' => e = .goto (some r, none) ∧ Held r w' ∧ w'.log = Due (hangUps mode lines) w) w := by
  induction lines generalizing c w with
  | nil => simp [hangupCalls, hangUps, hw]
  | cons line lines ih =>
    unfold hangupCalls
    have hw' := held_reads hw
    cases callFromCLCCLine_readInto line hc w.globals.s_maybeAddCall with
    | refused call b hown h hzero =>
      rw [hangUps_refused hown]
      simp [h]
      exact ih hzero (held_setGlobals _ hw')
    | accepted own b hown hnumber h =>
      obtain ⟨hstate, hindex⟩ := overwritten_state line own c
      rw [hangUps_accepted hown]
      simp [h, hstate, hindex, hungUp_value]
      have hset := held_setGlobals (fun g => { g with s_maybeAddCall := b }) hw'
      cases hselects : mode.selects own.state with
      | false =>
        simp
        exact ih rfl hset
      | true =>
        simp
        refine wp_hangupCall hr own.index hset ?_ ?_
        · intro hfailed
          exact ⟨rfl, ⟨hw.live, hset.misused⟩, (due_failed hfailed).symm⟩
        · intro hresponded w' hheld hanswers hlog
          have hdue := @due_responded _ (hangUps mode lines) w w' hresponded hanswers hlog
          refine wp_mono (ih rfl hheld) (fun _ w'' h => ⟨h.1, ?_, ?_⟩) fun e w'' h => ⟨h.1, h.2.1, ?_⟩
          · rw [h.2.1, hdue]
          · intro i hi
            cases i with
            | zero => exact hresponded
            | succ i => simpa [hanswers] using h.2.2 i (by omega)
          · rw [h.2.2, hdue]

/-! ## The request -/

/-- The accepted lines are hung up in order up to the first hang-up that does not end with success, AT+CHLD=2 goes out
behind all of them, and the request is completed once, with success only if all of them succeeded. -/
def Switched (mode : Mode) (answers : Nat → Answer) (t : RIL_Token) (log : List Event) : Prop :=
  match linesOf (ascii "+CLCC:") (answers 0) with
  | some lines => ∃ e,
      log = .at_send_command (ascii "AT+CLCC") ::
        (sentFrom succeeded (fun n => answers (n + 1)) (hangUps mode lines)).map .at_send_command ++
          [.RIL_onRequestComplete t e .NULL] ∧
      (e = .SUCCESS → ∀ i < (hangUps mode lines).length, succeeded (answers (i + 1)) = true)
  | none => log = [.at_send_command (ascii "AT+CLCC"), .RIL_onRequestComplete t .GENERIC_FAILURE .NULL]

/-- What becomes of a switch whose list of calls is there. -/
structure Walked (mode : Mode) (answers : Nat → Answer) (t : RIL_Token) (lines : List Line) (e : RIL_Errno)
    (w : World Globals) : Prop where
  log : w.log = .at_send_command (ascii "AT+CLCC") ::
    (sentFrom responded (fun n => answers (n + 1)) (hangUps mode lines)).map .at_send_command ++
      [.RIL_onRequestComplete t e .NULL]
  responded : e = .SUCCESS → ∀ i < (hangUps mode lines).length, responded (answers (i + 1)) = true
  live : w.live = []
  misused : w.misused = false

theorem wp_requestSwitchMultiCall {mode : Mode} {answers : Nat → Answer} {lines : List Line}
    (hlines : linesOf (ascii "+CLCC:") (answers 0) = some lines) (t : RIL_Token) (allocates : Nat → Bool)
    (g : Globals) :
    wp (requestSwitchMultiCall mode.value t : Handler Globals Empty Unit)
      (fun _ w => ∃ e, Walked mode answers t lines e w) (fun _ _ => False) (.start answers allocates g) := by
  obtain ⟨f, ls, ha, hf, rfl⟩ := linesOf_eq_some.mp hlines
  unfold requestSwitchMultiCall sendCLCC
  simp [value_ne, World.start, ha, hf]
  have hheld : Held ⟨0, true, f, Command.intermediatesOf .MULTILINE (ascii "+CLCC:") ls⟩
      ((((World.start answers allocates g).sends (ascii "AT+CLCC")).gives.reads 0).reads 0) := ⟨rfl, rfl⟩
  refine wp_mono (wp_hangupCalls rfl _ rfl hheld) ?_ ?_
  · intro _ w' hw'
    obtain ⟨⟨hlive, hmisused⟩, hdue, hall⟩ := hw'
    simp [Due, sentFrom] at hdue
    have hlog (e : RIL_Errno) : w'.log ++ [.at_send_command (ascii "AT+CHLD=2")] ++
        [.RIL_onRequestComplete t e .NULL] = _ := congrArg (· ++ [.RIL_onRequestComplete t e .NULL]) hdue
    simp
    constructor
    · intro _
      exact ⟨_, hlog _, by simp, by simp [hlive], by simp [hlive, hmisused]⟩
    · intro f' ls' _
      constructor
      · intro _
        exact ⟨_, hlog _, by simp, by simp [hlive], by simp [hlive, hmisused]⟩
      · intro _
        exact ⟨_, hlog _, fun _ => hall, by simp [hlive], by simp [hlive, hmisused]⟩
  · intro e w' hw'
    obtain ⟨rfl, ⟨hlive, hmisused⟩, hlog⟩ := hw'
    simp
    refine ⟨.GENERIC_FAILURE, by simp [hlog, Due], ?_, by simp [hlive], by simp [hlive, hmisused]⟩
    intro h
    cases h

/-- Of the hang-ups for a list, the first that does not end with success gets no response, if there is one. -/
def InOrder (mode : Mode) (answers : Nat → Answer) : Prop :=
  ∀ lines, linesOf (ascii "+CLCC:") (answers 0) = some lines →
    NoneRefused (fun n => answers (n + 1)) (hangUps mode lines)

theorem send_injective : Function.Injective Event.at_send_command := by
  intro cmd cmd' h
  cases h
  rfl

theorem switched_iff_of_walked {mode : Mode} {answers : Nat → Answer} {t : RIL_Token} {lines : List Line}
    {e : RIL_Errno} {w : World Globals} (hlines : linesOf (ascii "+CLCC:") (answers 0) = some lines)
    (hw : Walked mode answers t lines e w) : Switched mode answers t w.log ↔ InOrder mode answers := by
  unfold Switched InOrder
  simp only [hlines, Option.some.injEq, forall_eq']
  rw [← sentFrom_eq_iff, hw.log]
  constructor
  · rintro ⟨e', heq, -⟩
    have hsent := (List.append_inj' (List.cons.inj heq).2 rfl).1
    exact (List.map_inj_right send_injective).mp hsent
  · intro heq
    refine ⟨e, by rw [heq], fun he => ?_⟩
    exact succeeded_of_responded ((sentFrom_eq_iff _ _).mp heq) (hw.responded he)

theorem switched_iff_of_lines {mode : Mode} {answers : Nat → Answer} {lines : List Line}
    (hlines : linesOf (ascii "+CLCC:") (answers 0) = some lines) (t : RIL_Token) (allocates : Nat → Bool)
    (g : Globals) :
    wp (requestSwitchMultiCall mode.value t : Handler Globals Empty Unit)
        (fun _ w => Switched mode answers t w.log ∧ w.live = [] ∧ w.misused = false) (fun _ _ => False)
        (.start answers allocates g) ↔
      InOrder mode answers := by
  refine wp_iff_of_wp (wp_requestSwitchMultiCall hlines t allocates g) ?_ ?_
  · rintro _ w ⟨e, hw⟩
    rw [← switched_iff_of_walked hlines hw]
    exact and_iff_left ⟨hw.live, hw.misused⟩
  · exact fun _ _ h => h.elim

/-- **A switch is one for all calls** exactly if no hang-up is refused. -/
theorem switched_iff (mode : Mode) (t : RIL_Token) (answers : Nat → Answer) (allocates : Nat → Bool) (g : Globals) :
    wp (requestSwitchMultiCall mode.value t : Handler Globals Empty Unit)
        (fun _ w => Switched mode answers t w.log ∧ w.live = [] ∧ w.misused = false) (fun _ _ => False)
        (.start answers allocates g) ↔
      InOrder mode answers := by
  cases hlines : linesOf (ascii "+CLCC:") (answers 0) with
  | some lines => exact switched_iff_of_lines hlines t allocates g
  | none =>
    have hnone := linesOf_eq_none.mp hlines
    refine iff_of_true ?_ (by simp [InOrder, hlines])
    unfold Switched requestSwitchMultiCall sendCLCC
    simp only [hlines]
    cases ha : answers 0 with
    | failed => simp [value_ne, World.start, ha]
    | response f ls => simp [value_ne, World.start, ha, hnone f ls ha]

/-- There are two active calls, and hanging up the first is refused. -/
def firstRefused : Nat → Answer
  | 1 => .response (ascii "ERROR") []
  | _ => .response (ascii "OK") [ascii "+CLCC: 1,0,0,0,0", ascii "+CLCC: 2,0,0,0,1"]

theorem linesOf_firstRefused : linesOf (ascii "+CLCC:") (firstRefused 0) =
    some [ascii "+CLCC: 1,0,0,0,0", ascii "+CLCC: 2,0,0,0,1"] := by decide

theorem hangUps_firstRefused : hangUps .active [ascii "+CLCC: 1,0,0,0,0", ascii "+CLCC: 2,0,0,0,1"] =
    [ascii "AT+CHLD=71", ascii "AT+CHLD=72"] := by decide

/-- The second call is hung up, and AT+CHLD=2 goes out. -/
theorem switched_fails_refused :
    ¬ wp (requestSwitchMultiCall Mode.active.value none : Handler Globals Empty Unit)
        (fun _ w => Switched .active firstRefused none w.log ∧ w.live = [] ∧ w.misused = false) (fun _ _ => False)
        (.start firstRefused (fun _ => true) Requests.idleGlobals) := by
  rw [@switched_iff_of_lines .active firstRefused _ linesOf_firstRefused none]
  intro horder
  have hnone := horder _ linesOf_firstRefused
  have hresponded : responded (firstRefused 1) = true := by decide
  have hrefused : succeeded (firstRefused 1) = false := by decide
  rw [hangUps_firstRefused, NoneRefused] at hnone
  exact absurd (hnone hresponded).1 (by rw [hrefused]; exact Bool.false_ne_true)

end UniRil.Call.SwitchMultiCall
