import UniRil.Misc.Requests
import UniRil.Sim.Ownership
import UniRil.Sim.Requests

/-!
# One answer for each of the other requests

A handler of ril_misc.c answers by the token of the request, and `sendCmdSync` in the buffer of its caller. The
commands that are passed through come to the same function from both.
-/

namespace UniRil.Misc

open Flows Handlers FailRules
open AsyncCmd (strncaseeq)
open AtTok (Line)
open Sim (Answer.succeeds)

variable {ε α : Type}

/-! ## Callers -/

/-- The caller is told by its token, or in its buffer. -/
inductive Caller
  | token (t : Nat)
  | buffer (responseLen : Nat)

def Caller.t : Caller → RIL_Token
  | .token t => some t
  | .buffer _ => none

def Caller.atResp : Caller → Option Nat
  | .token _ => none
  | .buffer responseLen => some responseLen

/-- How often the caller was told something. -/
def Caller.told : Caller → World Globals → Nat
  | .token t, w => w.completions (some t)
  | .buffer _, w => w.globals.atResp.length

inductive Call
  | processMiscRequests (r : Request) (t : Nat)
  | sendCmdSync (cmd : Option Line) (responseLen : Nat)

def Call.caller : Call → Caller
  | .processMiscRequests _ t => .token t
  | .sendCmdSync _ responseLen => .buffer responseLen

def Call.run : Call → Handler Globals ε Unit
  | .processMiscRequests r t => Misc.processMiscRequests r (some t)
  | .sendCmdSync cmd responseLen => Misc.sendCmdSync cmd responseLen

/-- The call comes back, and its caller was told once. -/
def AnsweredOnce (c : Call) (answers : Nat → Answer) (allocates : Nat → Bool) (g : Globals) : Prop :=
  wp (c.run : Handler Globals Empty Unit) (fun _ w => c.caller.told w = 1) (fun _ _ => False)
    (.start answers allocates { g with atResp := [] })

/-! ## What is answered -/

/-- The status of the card is read, or the radio is away. -/
def statusRead (g : Globals) (a : Answer) : Prop :=
  g.slot.s_radioState ≠ .UNAVAILABLE → ¬ Sim.refusedWithoutError a

/-- 58 is the colon in front of the command for the modem. -/
def answeredAT (c : Caller) (cmd : Line) (answers : Nat → Answer) (g : Globals) : Prop :=
  if strncaseeq cmd (ascii "AT+SNVM=1") 9 then True
  else if strStartsWith cmd (ascii "VSIM_CREATE") then c.t = none
  else if strStartsWith cmd (ascii "VSIM_INIT") then 58 ∈ cmd
  else if strStartsWith cmd (ascii "VSIM_EXIT") then
    58 ∈ cmd ∧ (answers 0 ≠ .failed → c.t = none) ∧ (Answer.succeeds (answers 0) → statusRead g (answers 1))
  else if strStartsWith cmd (ascii "VSIM_TIMEOUT") then c.t = none
  else True

def answeredVsim (cmd : Line) (answers : Nat → Answer) (g : Globals) : Prop :=
  if strStartsWith cmd (ascii "VSIM_INIT") then 58 ∈ cmd
  else if strStartsWith cmd (ascii "VSIM_EXIT") then
    58 ∈ cmd ∧ (Answer.succeeds (answers 0) → statusRead g (answers 1))
  else if strStartsWith cmd (ascii "VSIM_TIMEOUT") then
    -- a number makes the handler look for the response to a command that was never sent
    (AtTok.at_tok_nextint (AtTok.at_tok_start (some cmd))).ok = false
  else True

def Answerable (c : Call) (answers : Nat → Answer) (g : Globals) : Prop :=
  match c with
  | .processMiscRequests (.OEM_HOOK_STRINGS strings) t =>
    strings ≠ [] ∧ ∀ cmd, strings.head? = some (some cmd) → answeredAT (.token t) cmd answers g
  | .processMiscRequests (.SEND_CMD cmd) t => ∀ text, cmd = some text → answeredAT (.token t) text answers g
  | .processMiscRequests (.VSIM_SEND_CMD cmd) _ => ∀ text, cmd = some text → answeredVsim text answers g
  | .processMiscRequests _ _ => True
  | .sendCmdSync cmd responseLen =>
    ∀ text, cmd = some text → answeredAT (.buffer responseLen) text answers g

/-! ## What answers nobody -/

/-- Nobody was told anything. -/
structure Quiet (w w' : World Globals) : Prop where
  completions : ∀ t, w'.completions t = w.completions t
  atResp : w'.globals.atResp = w.globals.atResp

theorem quiet_iff {w w' : World Globals} :
    Quiet w w' ↔ (∀ t, w'.completions t = w.completions t) ∧ w'.globals.atResp = w.globals.atResp :=
  ⟨fun h => ⟨h.completions, h.atResp⟩, fun h => ⟨h.1, h.2⟩⟩

theorem Quiet.told {w w' : World Globals} (h : Quiet w w') (c : Caller) : c.told w' = c.told w := by
  cases c with
  | token t => exact h.completions (some t)
  | buffer n => exact congrArg List.length h.atResp

section

variable {w : World Globals} (c : Caller) (cmd : Line) (h : Nat)

@[simp] theorem told_sends : c.told (w.sends cmd) = c.told w := by
  cases c with
  | token t => exact completions_sends cmd (some t)
  | buffer n => rfl

@[simp] theorem told_gives : c.told w.gives = c.told w := by
  cases c with
  | token t => rfl
  | buffer n => rfl

@[simp] theorem told_reads : c.told (w.reads h) = c.told w := by
  cases c with
  | token t => rfl
  | buffer n => rfl

@[simp] theorem told_frees : c.told (w.frees h) = c.told w := by
  cases c with
  | token t => rfl
  | buffer n => rfl

theorem told_setGlobals {f : Globals → Globals} (hf : (f w.globals).atResp = w.globals.atResp) :
    c.told (w.setGlobals f) = c.told w := by
  cases c with
  | token t => rfl
  | buffer n => exact congrArg List.length hf

end

theorem completions_getSIMStatus (simmgr : Bool) (w : World Sim.Slot) :
    wp (Sim.getSIMStatus simmgr : Handler Sim.Slot ε Sim.SimStatus)
      (fun _ w' => ∀ t, w'.completions t = w.completions t) (fun e _ => e = .crashes) w := by
  simp [Sim.getSIMStatus, Sim.querySIMStatus, Sim.simPin]

theorem wp_getSIMStatus (simmgr : Bool) (w : World Sim.Slot) :
    wp (Sim.getSIMStatus simmgr : Handler Sim.Slot ε Sim.SimStatus)
      (fun _ w' => ∀ t, w'.completions t = w.completions t) (fun _ _ => False) w ↔
      (w.globals.s_radioState ≠ .UNAVAILABLE → ¬ Sim.refusedWithoutError (w.answers 0)) := by
  simp [Sim.getSIMStatus, Sim.querySIMStatus, Sim.simPin, Sim.refusedWithoutError]
  refine imp_congr_right fun _ => forall_congr' fun f => forall_congr' fun ls => imp_congr_right fun _ =>
    imp_congr_right fun _ => ?_
  constructor
  · intro h hcme
    refine h ?_ ?_ hcme
    · exact fun hne => absurd (hcme.symm.trans hne) (by decide)
    · exact fun hne => absurd (hcme.symm.trans hne) (by decide)
  · intro h _ _ hcme
    exact h hcme

section

variable {m : Handler Globals ε α} {w : World Globals}

@[simp] theorem completions_after (h : Returns Quiet m) (t : RIL_Token) :
    (after m w).completions t = w.completions t :=
  (rel_of_returns h w).completions t

@[simp] theorem atResp_after (h : Returns Quiet m) : (after m w).globals.atResp = w.globals.atResp :=
  (rel_of_returns h w).atResp

end

@[simp] theorem quiet_setRadioState (newState : Sim.RadioState) :
    Returns Quiet (setRadioState newState : Handler Globals ε Unit) := by
  rw [returns_iff]
  intro w
  simp [setRadioState, quiet_iff]

@[simp ↓] theorem wp_setRadioState (newState : Sim.RadioState) {Q : Unit → World Globals → Prop}
    {E : Exit ε → World Globals → Prop} {w : World Globals} :
    wp (setRadioState newState) Q E w ↔
      Q (valueOf (setRadioState newState : Handler Globals ε Unit) w)
        (after (setRadioState newState : Handler Globals ε Unit) w) :=
  wp_of_returns (quiet_setRadioState newState)

/-- A refused AT+CPIN? without an error is the end of the process. -/
theorem wp_onSimDisabled {Q : Unit → World Globals → Prop} {E : Exit ε → World Globals → Prop} {w : World Globals}
    {P : Prop} (hQ : ∀ w', Quiet w w' → (Q ⟨⟩ w' ↔ P)) (hE : ∀ w', ¬ E .crashes w') :
    wp onSimDisabled Q E w ↔ statusRead w.globals (w.answers 0) ∧ P := by
  have hrest : ∀ w', Quiet w w' →
      (wp (do let _ ← at_send_command_NULL (ascii "AT+SFUN=5"); setRadioState .OFF : Handler Globals ε Unit) Q E w' ↔
        P) := by
    intro w' hw'
    have hsent : ∀ w'', Quiet w' w'' →
        (Q ⟨⟩ (after (setRadioState .OFF : Handler Globals ε Unit) w'') ↔ P) := by
      intro w'' hw''
      refine hQ _ ⟨fun t => ?_, ?_⟩
      · simp [hw''.completions, hw'.completions]
      · simp [hw''.atResp, hw'.atResp]
    cases ha : w'.answers 0 with
    | failed => simp [ha, hsent, quiet_iff]
    | response f ls => simp [ha, hsent, quiet_iff]
  unfold onSimDisabled
  rw [wp_bind, wp_within]
  have hread := wp_getSIMStatus (ε := ε) false (w.withGlobals w.globals.slot)
  rcases exists_of_wp (completions_getSIMStatus (ε := ε) false (w.withGlobals w.globals.slot)) with
    ⟨status, w', hrun, hw'⟩ | ⟨e, w', hrun, rfl⟩
  · rw [wp_of_ok hrun] at hread ⊢
    have hquiet : Quiet w (w'.withGlobals { w.globals with slot := w'.globals }) := ⟨hw', rfl⟩
    rw [hrest _ hquiet]
    exact (and_iff_right (hread.1 hw')).symm
  · rw [wp_of_error hrun] at hread ⊢
    exact iff_of_false (hE _) fun h => hread.2 h.1

/-! ## Commands that are passed through -/

section

variable {w : World Globals} {E : Exit Pointer → World Globals → Prop}

@[simp ↓] theorem wp_answerAT_failed {Q : Unit → World Globals → Prop} (ATcmd : Line) (t : RIL_Token)
    (atResp : Option Nat) : wp (answerAT ATcmd t atResp ⟨false, none⟩) Q E w ↔ E (.goto none) w := by
  simp [answerAT]

/-- A jump to the label is made before the caller is told. -/
def AtError (c : Caller) (n : Nat) : Exit Pointer → World Globals → Prop
  | .goto _, w => c.told w = n
  | .crashes, _ => False
  | .runsOn, _ => False

@[simp] theorem atError_goto {c : Caller} {n : Nat} {p_response : Pointer} :
    AtError c n (.goto p_response) w ↔ c.told w = n := Iff.rfl

@[simp] theorem atError_crashes {c : Caller} {n : Nat} : AtError c n .crashes w ↔ False := Iff.rfl

theorem told_answerAT {c : Caller} {n : Nat} (hw : c.told w = n) (ATcmd : Line) (r : Response) :
    wp (answerAT ATcmd c.t c.atResp ⟨true, some r⟩) (fun _ w' => c.told w' = n + 1) E w := by
  subst hw
  cases c with
  | token t => simp [answerAT, Caller.t, Caller.told]
  | buffer n => simp [answerAT, Caller.t, Caller.atResp, Caller.told, writeResp]

theorem told_sendMultiline (c : Caller) (ATcmd cmd : Line) :
    wp (do let s ← at_send_command_multiline cmd [] none; answerAT ATcmd c.t c.atResp s)
      (fun _ w' => c.told w' = c.told w + 1) (AtError c (c.told w)) w := by
  rw [wp_bind, wp_at_send_command_multiline]
  constructor
  · intro _
    simp
  · intro f ls _
    apply told_answerAT
    simp

theorem told_sendSNVM (c : Caller) (ATcmd : Line) :
    wp (sendSNVM ATcmd c.t c.atResp) (fun _ w' => c.told w' = c.told w + 1) (AtError c (c.told w)) w := by
  unfold sendSNVM
  rw [wp_ite]
  constructor
  · intro _
    rw [wp_bind]
    refine (wp_at_send_command_full ..).2 ⟨fun _ => ?_, fun f ls _ => ?_⟩
    · simp
    · apply told_answerAT
      simp
  · intro _
    cases c with
    | token t => simp [Caller.t, Caller.told]
    | buffer n => simp [Caller.t, Caller.atResp, Caller.told, writeResp]

theorem told_vsimCreate (c : Caller) :
    wp (vsimCreate c.atResp) (fun _ w' => c.told w' = c.told w + 1) (AtError c (c.told w)) w ↔ c.t = none := by
  cases c with
  | token t => simp [vsimCreate, writeResp, Caller.t, Caller.atResp, Caller.told]
  | buffer n => simp [vsimCreate, writeResp, Caller.t, Caller.atResp, Caller.told]

theorem told_vsimTimeout (c : Caller) (ATcmd : Line) :
    wp (vsimTimeout ATcmd c.atResp) (fun _ w' => c.told w' = c.told w + 1) (AtError c (c.told w)) w ↔ c.t = none := by
  cases c with
  | token t => simp [vsimTimeout, writeResp, Caller.t, Caller.atResp, Caller.told]
  | buffer n => simp [vsimTimeout, writeResp, Caller.t, Caller.atResp, Caller.told]

theorem told_vsimInit (c : Caller) (ATcmd : Line) :
    wp
      (do
        waitForClient
        let cmd ← deref (AtTok.at_tok_start (some ATcmd))
        let s ← at_send_command cmd none
        answerAT ATcmd c.t c.atResp s)
      (fun _ w' => c.told w' = c.told w + 1) (AtError c (c.told w)) w ↔ 58 ∈ ATcmd := by
  rw [← at_tok_start_isSome]
  have hwait : c.told (w.setGlobals fun g =>
      if g.s_vsimClientFd < 0 then { g with s_vsimClientFd := g.nextClientFd } else g) = c.told w := by
    apply told_setGlobals
    split
    · rfl
    · rfl
  cases hstart : AtTok.at_tok_start (some ATcmd) with
  | none => simp [waitForClient]
  | some cmd =>
    simp [waitForClient, hwait]
    intro f ls _
    apply told_answerAT
    simpa using hwait

/-- The buffer is written; a token is left without an answer. -/
theorem told_writeResp {c : Caller} {n : Nat} (hw : c.told w = n) (text : Line) (r : Response) :
    wp (do writeResp c.atResp text; at_response_free (some r)) (fun _ w' => c.told w' = n + 1) E w ↔ c.t = none := by
  subst hw
  cases c with
  | token t => simp [writeResp, Caller.t, Caller.atResp]
  | buffer n => simp [writeResp, Caller.t, Caller.atResp, Caller.told]

/-- The end of VSIM_EXIT when the modem has agreed. -/
theorem told_closed {c : Caller} {n : Nat} (hw : c.told w = n) (r : Response) :
    wp
      (do
        closeClient
        onSimDisabled
        let r ← deref (some r)
        touch r
        writeResp c.atResp (resultText [r.finalResponse])
        at_response_free (some r))
      (fun _ w' => c.told w' = n + 1) (AtError c n) w ↔ c.t = none ∧ statusRead w.globals (w.answers 0) := by
  rw [wp_bind, closeClient, wp_modifyGlobals, wp_bind, and_comm]
  have hslot : (if !w.globals.s_vsimInitFlag && !w.globals.otherInitFlag then
      { w.globals with s_vsimClientFd := -1, s_vsimListenLoop := false } else w.globals).slot = w.globals.slot := by
    split
    · rfl
    · rfl
  have hclosed : c.told (w.setGlobals fun g => if !g.s_vsimInitFlag && !g.otherInitFlag then
      { g with s_vsimClientFd := -1, s_vsimListenLoop := false } else g) = n := by
    rw [← hw]
    apply told_setGlobals
    split
    · rfl
    · rfl
  refine (wp_onSimDisabled (P := c.t = none) ?_ ?_).trans ?_
  · intro w' hw'
    have hdone : c.told (w'.reads r.handle) = n := by
      rw [told_reads, hw'.told, hclosed]
    have htold := told_writeResp (E := AtError c n) hdone (resultText [r.finalResponse]) r
    rw [wp_bind] at htold
    simpa using htold
  · exact fun _ => id
  · unfold statusRead
    rw [globals_setGlobals, hslot]
    rfl

theorem told_vsimExit (c : Caller) (ATcmd : Line) :
    wp (vsimExit ATcmd c.atResp) (fun _ w' => c.told w' = c.told w + 1) (AtError c (c.told w)) w ↔
      58 ∈ ATcmd ∧ (w.answers 0 ≠ .failed → c.t = none) ∧
        (Answer.succeeds (w.answers 0) → statusRead w.globals (w.answers 1)) := by
  rw [← at_tok_start_isSome]
  have hflag : c.told (w.setGlobals fun g => { g with s_vsimInitFlag := false }) = c.told w := by
    apply told_setGlobals
    rfl
  cases hstart : AtTok.at_tok_start (some ATcmd) with
  | none => simp [vsimExit, hstart]
  | some cmd =>
    cases hanswer : w.answers 0 with
    | failed => simp [vsimExit, hstart, hanswer, hflag, Answer.succeeds]
    | response f ls =>
      cases hf : Command.isFinalResponseSuccess f with
      | false =>
        simp [vsimExit, hstart, hanswer, hf, Answer.succeeds]
        rw [← wp_bind]
        apply told_writeResp
        simpa using hflag
      | true =>
        simp [vsimExit, hstart, hanswer, hf, Answer.succeeds]
        rw [← wp_bind]
        refine (told_closed ?_ _).trans ?_
        · simpa using hflag
        · rfl

/-- One answer more. -/
def Once (c : Caller) (m : Handler Globals Empty Unit) (w : World Globals) : Prop :=
  wp m (fun _ w' => c.told w' = c.told w + 1) (fun _ _ => False) w

/-- The code at the label tells the caller. -/
theorem atLabel_requestSendAT {c : Caller} {n : Nat} (e : Exit Pointer) (w : World Globals) :
    atLabel
        (fun p_response => do
          if c.t ≠ none then
            RIL_onRequestComplete c.t .GENERIC_FAILURE (.strings [some (resultText [ascii "ERROR"])])
          else
            writeResp c.atResp (ascii "ERROR")
          at_response_free p_response)
        (fun _ w' => c.told w' = n + 1) (fun (_ : Exit Empty) _ => False) e w ↔ AtError c n e w := by
  cases e with
  | crashes => rfl
  | runsOn => rfl
  | goto p_response =>
    cases c with
    | token t => cases p_response <;> simp [Caller.t, Caller.told]
    | buffer m => cases p_response <;> simp [Caller.t, Caller.atResp, Caller.told, writeResp]

theorem once_requestSendAT (c : Caller) (data : Option Line) :
    Once c (requestSendAT data c.t c.atResp) w ↔ ∀ cmd, data = some cmd → answeredAT c cmd w.answers w.globals := by
  unfold Once requestSendAT
  rw [wp_labelled]
  refine (wp_congr (fun _ _ => Iff.rfl) atLabel_requestSendAT).trans ?_
  cases data with
  | none => simp
  | some cmd =>
    simp only [wp_bind, wp_demand, Option.some.injEq, forall_eq', reduceCtorEq, false_implies, and_true, answeredAT]
    split
    · exact iff_of_true (told_sendSNVM c cmd) trivial
    split
    · exact told_vsimCreate c
    split
    · exact told_vsimInit c cmd
    split
    · exact told_vsimExit c cmd
    split
    · exact told_vsimTimeout c cmd
    · exact iff_of_true (told_sendMultiline c cmd cmd) trivial

theorem once_requestVsimCmd (data : Option Line) (t : Nat) :
    Once (.token t) (requestVsimCmd data (some t)) w ↔
      ∀ cmd, data = some cmd → answeredVsim cmd w.answers w.globals := by
  cases data with
  | none => simp [Once, requestVsimCmd, Caller.told]
  | some cmd =>
    simp only [Option.some.injEq, forall_eq', answeredVsim]
    split
    case isTrue hinit =>
      rw [← at_tok_start_isSome]
      cases hstart : AtTok.at_tok_start (some cmd) with
      | none => simp [Once, requestVsimCmd, sendVsimCmd, hinit, hstart]
      | some _ => simp [Once, requestVsimCmd, sendVsimCmd, hinit, hstart, Caller.told]
    split
    case isTrue hinit hexit =>
      rw [← at_tok_start_isSome]
      cases hstart : AtTok.at_tok_start (some cmd) with
      | none => simp [Once, requestVsimCmd, sendVsimCmd, hinit, hexit, hstart]
      | some text =>
        cases hanswer : w.answers 0 with
        | failed =>
          simp [Once, requestVsimCmd, sendVsimCmd, hinit, hexit, hstart, hanswer, Caller.told, Answer.succeeds]
        | response f ls =>
          cases hf : Command.isFinalResponseSuccess f with
          | false =>
            simp [Once, requestVsimCmd, sendVsimCmd, hinit, hexit, hstart, hanswer, hf, Caller.told, Answer.succeeds]
          | true =>
            simp [Once, requestVsimCmd, sendVsimCmd, hinit, hexit, hstart, hanswer, hf, Caller.told, Answer.succeeds]
            refine (wp_onSimDisabled (P := True) ?_ ?_).trans ?_
            · intro w' hw'
              simp [hw'.completions]
            · exact fun _ => id
            · simp [statusRead]
    split
    case isTrue hinit hexit htimeout =>
      cases hok : (AtTok.at_tok_nextint (AtTok.at_tok_start (some cmd))).ok with
      | true => simp [Once, requestVsimCmd, sendVsimCmd, hinit, hexit, htimeout, hok, Caller.told]
      | false => simp [Once, requestVsimCmd, sendVsimCmd, hinit, hexit, htimeout, hok, Caller.told]
    case isFalse hinit hexit htimeout => simp [Once, requestVsimCmd, sendVsimCmd, hinit, hexit, htimeout, Caller.told]

end

/-! ## The other handlers -/

/-- A line that was asked for has the colon of its prefix. -/
theorem at_tok_start_of_single {responsePrefix line : Line} {ls : List Line} (hcolon : 58 ∈ responsePrefix)
    (h : Command.intermediatesOf .SINGLELINE responsePrefix ls = [line]) : AtTok.at_tok_start (some line) ≠ none := by
  have hmem : line ∈ ls.filter (Command.fits .SINGLELINE responsePrefix) := by
    apply List.mem_of_mem_take
    unfold Command.intermediatesOf at h
    rw [if_neg (by decide)] at h
    rw [h]
    exact List.mem_singleton.2 rfl
  have hstart : strStartsWith line responsePrefix = true := by
    simpa [Command.fits, Command.isIntermediate] using (List.mem_filter.1 hmem).2
  have hline := (at_tok_start_isSome line).2 (((strStartsWith_iff line responsePrefix).1 hstart).subset hcolon)
  intro hnone
  rw [hnone] at hline
  cases hline

/-- The handler answers from wherever it stands. -/
def Answers (t n : Nat) (m : Handler Globals Empty Unit) : Prop :=
  ∀ w, w.completions (some t) = n → wp m (fun _ w' => w'.completions (some t) = n + 1) (fun _ _ => False) w

section

variable {t n : Nat} {m m' : Handler Globals Empty Unit}

theorem Answers.send (h : Answers t n m) (cmd : Line) : Answers t n (do let _ ← at_send_command_NULL cmd; m) := by
  intro w hw
  rw [wp_bind, wp_at_send_command_NULL]
  constructor
  · intro _
    apply h
    simpa using hw
  · intro f ls _
    apply h
    simpa using hw

theorem Answers.ite {c : Prop} [Decidable c] (h : Answers t n m) (h' : Answers t n m') :
    Answers t n (if c then m else m') := by
  split
  · exact h
  · exact h'

theorem Answers.callback (h : Answers t n m) (callback : Callback) :
    Answers t n (do RIL_requestTimedCallback callback; m) := by
  intro w hw
  apply h
  simpa using hw

theorem Answers.unsolicited (h : Answers t n m) (code : Unsolicited) :
    Answers t n (do RIL_onUnsolicitedResponse code; m) := by
  intro w hw
  apply h
  simpa using hw

theorem Answers.complete (e : RIL_Errno) (response : Payload) :
    Answers t n (RIL_onRequestComplete (some t) e response) := by
  intro w hw
  simpa using hw

theorem answers_requestScreeState (status : Int) : Answers t n (requestScreeState status (some t)) := by
  intro w hw
  unfold requestScreeState
  rw [wp_bind, wp_modifyGlobals, wp_bind, wp_getGlobals]
  refine (?_ : Answers t n _) _ ?_
  · repeat' first
      | apply Answers.send
      | apply Answers.callback
      | apply Answers.unsolicited
      | apply Answers.complete
      | apply Answers.ite
  · simpa using hw

end

section

variable {w : World Globals} (t : Nat)

theorem once_complete (e : RIL_Errno) (response : Payload) :
    Once (.token t) (RIL_onRequestComplete (some t) e response) w := by
  simp [Once, Caller.told]

theorem once_requestBasebandVersion : Once (.token t) (requestBasebandVersion (some t)) w := by
  simp [Once, requestBasebandVersion, Caller.told]

theorem once_getIMEI : Once (.token t) (getIMEI (some t)) w := by
  simp [Once, getIMEI, Caller.told]

theorem once_requestGetIMEISV : Once (.token t) (requestGetIMEISV (some t)) w := by
  simp [Once, requestGetIMEISV, readSV, Caller.told]

theorem once_requestDeviceIdentify : Once (.token t) (requestDeviceIdentify (some t)) w := by
  simp [Once, requestDeviceIdentify, readSV, Caller.told]

theorem once_setMute (enable : Int) : Once (.token t) (setMute enable (some t)) w := by
  simp [Once, setMute, Caller.told]

theorem once_getMute : Once (.token t) (getMute (some t)) w := by
  simp [Once, getMute, Caller.told]
  intro f ls _ _ line hline
  have h := at_tok_start_of_single (by decide) hline
  simp [h]

theorem once_requestScreeState (status : Int) : Once (.token t) (requestScreeState status (some t)) w :=
  answers_requestScreeState status w rfl

theorem once_getBandInfo : Once (.token t) (getBandInfo (some t)) w := by
  simp [Once, getBandInfo, Caller.told, AtTok.skipWhiteSpace]
  intro _ f ls _ _ line hline
  exact at_tok_start_of_single (by decide) hline

theorem once_downgradeRadioPower (mode : Int) : Once (.token t) (downgradeRadioPower mode (some t)) w := by
  simp [Once, downgradeRadioPower, completeByOutcome, Caller.told]

theorem once_setLocationInfo (longitude latitude : Option Line) :
    Once (.token t) (setLocationInfo longitude latitude (some t)) w := by
  cases longitude with
  | none => simp [Once, setLocationInfo, Caller.told]
  | some longitude =>
    cases latitude with
    | none => simp [Once, setLocationInfo, Caller.told]
    | some latitude => simp [Once, setLocationInfo, completeByOutcome, Caller.told]

theorem once_requestGetSpecialRATCAP : Once (.token t) (requestGetSpecialRATCAP (some t)) w := by
  simp [Once, requestGetSpecialRATCAP, Caller.told]

theorem once_setBandInfoMode (mode : Int) : Once (.token t) (setBandInfoMode mode (some t)) w := by
  simp [Once, setBandInfoMode, completeByOutcome, Caller.told]

theorem once_setSpecialRatcap (value : Int) : Once (.token t) (setSpecialRatcap value (some t)) w := by
  simp [Once, setSpecialRatcap, completeByOutcome, Caller.told]

theorem once_processMiscRequests (r : Request) :
    Once (.token t) (processMiscRequests r (some t)) w ↔
      Answerable (.processMiscRequests r t) w.answers w.globals := by
  cases r with
  | BASEBAND_VERSION => exact iff_of_true (once_requestBasebandVersion t) trivial
  | GET_IMEI => exact iff_of_true (once_getIMEI t) trivial
  | GET_IMEISV => exact iff_of_true (once_requestGetIMEISV t) trivial
  | DEVICE_IDENTITY => exact iff_of_true (once_requestDeviceIdentify t) trivial
  | SET_MUTE enable => exact iff_of_true (once_setMute t enable) trivial
  | GET_MUTE => exact iff_of_true (once_getMute t) trivial
  | SCREEN_STATE status => exact iff_of_true (once_requestScreeState t status) trivial
  | GET_HARDWARE_CONFIG => exact iff_of_true (once_complete t .SUCCESS _) trivial
  | NV_RESET_CONFIG => exact iff_of_true (once_complete t .SUCCESS .NULL) trivial
  | GET_BAND_INFO => exact iff_of_true (once_getBandInfo t) trivial
  | SET_BAND_INFO_MODE mode => exact iff_of_true (once_setBandInfoMode t mode) trivial
  | SET_SPECIAL_RATCAP value => exact iff_of_true (once_setSpecialRatcap t value) trivial
  | RADIO_POWER_FALLBACK mode => exact iff_of_true (once_downgradeRadioPower t mode) trivial
  | SET_LOCATION_INFO longitude latitude => exact iff_of_true (once_setLocationInfo t longitude latitude) trivial
  | GET_SPECIAL_RATCAP => exact iff_of_true (once_requestGetSpecialRATCAP t) trivial
  | SEND_CMD cmd => exact once_requestSendAT (.token t) cmd
  | VSIM_SEND_CMD cmd => exact once_requestVsimCmd cmd t
  | OEM_HOOK_STRINGS strings =>
    cases strings with
    | nil => simp [Once, processMiscRequests, Answerable]
    | cons cmd rest =>
      have h := once_requestSendAT (w := w) (.token t) cmd
      simpa [Once, processMiscRequests, Answerable, Caller.t, Caller.atResp] using h

end

/-- **Every other request, and every command given to `sendCmdSync`, is answered once** iff its word for the virtual
SIM is answered in the way of the caller. -/
theorem toldOnce_iff_answerable (c : Call) (answers : Nat → Answer) (allocates : Nat → Bool) (g : Globals) :
    AnsweredOnce c answers allocates g ↔ Answerable c answers g := by
  have hstart : ∀ c : Caller, c.told (.start answers allocates { g with atResp := [] }) = 0 := by
    rintro (t | n)
    · rfl
    · rfl
  cases c with
  | processMiscRequests r t =>
    have h := once_processMiscRequests (w := .start answers allocates { g with atResp := [] }) t r
    unfold Once at h
    rw [hstart] at h
    exact h
  | sendCmdSync cmd n =>
    have h := once_requestSendAT (w := .start answers allocates { g with atResp := [] }) (.buffer n) cmd
    unfold Once at h
    rw [hstart] at h
    exact h

/-- Nothing is set, and the radio is on. -/
def idleGlobals : Globals where
  slot := Sim.idleSlot
  s_maybeAddCall := 0
  s_screenState := 1
  s_isLTE := true
  s_in4G := false
  isExistActivePdp := false
  VOLTE_ENABLE_PROP := []
  RADIO_FD_DISABLE_PROP := []
  PROP_FAST_DORMANCY := []
  OVERSEA_VERSION := []
  bt_pan_active := []
  agps_active := []
  internet_tethering := []
  wifi_active := []
  mms_active := []
  s_vsimClientFd := -1
  nextClientFd := 7
  s_vsimListenLoop := false
  s_vsimInitFlag := false
  otherInitFlag := false
  listeners := 0
  s_timevalCloseVsim := 0
  atResp := []

theorem toldOnce_fails_vsimCreate :
    ¬ AnsweredOnce (.processMiscRequests (.OEM_HOOK_STRINGS [some (ascii "VSIM_CREATE")]) 1) (fun _ => .failed)
      (fun _ => true) idleGlobals := by
  intro h
  have hone := after_of_wp h
  revert hone
  decide

end UniRil.Misc
