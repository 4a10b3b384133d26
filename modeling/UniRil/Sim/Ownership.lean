import UniRil.Sim.Helpers

/-!
# When the responses are freed once

The helpers leave the memory as they found it. A handler then misuses it only through its own variable.
-/

namespace UniRil.Sim

open Flows Handlers FailRules
open AtTok (Line)

variable {γ ε : Type}

/-! ## The helpers -/

/-- The response in the variable is the handler's to free. Apart from it the memory is as it was. -/
structure Owes (p_response : Pointer) (w w' : World γ) : Prop where
  live : w'.live = (p_response.toList.map (·.handle)) ++ w.live
  misused : w'.misused = w.misused

theorem owes_iff {p_response : Pointer} {w w' : World γ} :
    Owes p_response w w' ↔ w'.live = (p_response.toList.map (·.handle)) ++ w.live ∧ w'.misused = w.misused :=
  ⟨fun h => ⟨h.live, h.misused⟩, fun h => ⟨h.1, h.2⟩⟩

abbrev Tidy (w w' : World γ) : Prop := Owes none w w'

/-- What holds where `getSIMStatus` jumps to its label or crashes. -/
def QueryEnd (w : World Slot) : Exit (SimStatus × Pointer) → World Slot → Prop
  | .goto d, w' => Owes d.2 w w'
  | .crashes, w' => w'.misused = w.misused
  | .runsOn, _ => False

theorem wp_querySIMStatus (w : World Slot) :
    wp querySIMStatus (fun d w' => Owes d.2 w w') (QueryEnd w) w := by
  simp [querySIMStatus, simPin, owes_iff, QueryEnd]

/-- A helper that may crash leaves the memory as it found it. -/
def Keeps {α : Type} (m : Handler γ ε α) : Prop :=
  ∀ w, wp m (fun _ w' => Tidy w w') (fun e w' => e = .crashes ∧ w'.misused = w.misused) w

theorem keeps_getSIMStatus (simmgr : Bool) : Keeps (getSIMStatus simmgr : Handler Slot ε SimStatus) := by
  intro w
  have hend : ∀ (d : SimStatus × Pointer) w', Owes d.2 w w' →
      wp (do at_response_free d.2; reportSIMStatus simmgr d.1 : Handler Slot ε SimStatus)
        (fun _ w' => Tidy w w') (fun e w' => e = .crashes ∧ w'.misused = w.misused) w' := by
    intro d w' hw
    obtain ⟨ret, p_response⟩ := d
    rw [owes_iff] at hw
    cases p_response with
    | none => simpa [owes_iff] using hw
    | some r => simp_all [owes_iff]
  unfold getSIMStatus
  simp only [wp_bind, wp_labelled]
  refine wp_mono (wp_querySIMStatus w) ?_ ?_
  · intro d w' hw
    simpa using hend d w' hw
  · intro e w' hw
    cases e with
    | goto d => simpa using hend d w' hw
    | crashes => simpa [QueryEnd] using hw
    | runsOn => exact hw.elim

/-! ## Handlers -/

/-- Where the handler comes back every response is freed, and none was freed twice or read after it. -/
def Linear {α : Type} (m : Handler γ Empty α) (w : World γ) : Prop :=
  wp m (fun _ w' => w'.live = [] ∧ w'.misused = false) (fun _ w' => w'.misused = false) w

theorem wp_reportUnlocked {E : Exit ε → World Slot → Prop} {w : World Slot} (r : Response) (hlive : w.live = [r.handle])
    (hmisused : w.misused = false) (hE : ∀ w', w'.misused = false → E .crashes w') :
    wp (reportUnlocked (some r)) (fun _ w' => w'.live = [] ∧ w'.misused = false) E w := by
  unfold reportUnlocked
  rw [wp_bind]
  refine wp_mono (keeps_getSIMStatus false w) ?_ ?_
  · intro ret w' hw
    have hw' := owes_iff.1 hw
    simp_all
  · rintro e w' ⟨rfl, hw'⟩
    exact hE w' (hw'.trans hmisused)

/-- The line a command that has to bring one is answered with. -/
def lineOf (responsePrefix : Line) : Answer → Option Line
  | .failed => none
  | .response finalResponse lines =>
    if Command.isFinalResponseSuccess finalResponse then
      (Command.intermediatesOf .SINGLELINE responsePrefix lines).head?
    else none

theorem lineOf_eq_some {responsePrefix : Line} {a : Answer} {line : Line} :
    lineOf responsePrefix a = some line ↔
      ∃ f ls, a = .response f ls ∧ Command.isFinalResponseSuccess f = true ∧
        Command.intermediatesOf .SINGLELINE responsePrefix ls = [line] := by
  cases a with
  | failed => simp [lineOf]
  | response f ls =>
    rcases @intermediatesOf_single responsePrefix .SINGLELINE rfl ls with hls | ⟨l, hls⟩
    · simp [lineOf, hls]
    · simp [lineOf, hls]

/-- What `requestEnterSimPin` reads from the answer to AT+CPIN?. -/
def cpinResultOf (a : Answer) : Option Line :=
  (lineOf (ascii "+CPIN:") a).bind fun line =>
    (AtTok.at_tok_start (some line)).bind fun cur => (AtTok.at_tok_nextstr (some cur)).value

theorem linear_requestEnterSimPin (strings : List (Option Line)) (t : RIL_Token) (w : World Slot) (hlive : w.live = [])
    (hmisused : w.misused = false) :
    Linear (requestEnterSimPin strings t) w ↔
      (strings.length = 3 → ∀ result, cpinResultOf (w.answers 0) = some result →
        w.allocates 0 = true ∧ w.answers 1 ≠ .failed) := by
  unfold Linear
  simp [requestEnterSimPin, unlockCommand, hlive, hmisused, wp_reportUnlocked, cachePin, cpinResultOf,
    Option.bind_eq_some_iff, lineOf_eq_some]
  constructor
  · intro h h3 result line f ls hf hs hl cur hc hr
    obtain ⟨ha, hne⟩ := h (by omega) h3 f ls hf line hs hl cur hc result hr
    exact ⟨ha, hne ha⟩
  · intro h _ h3 f ls hf line hs hl cur hc result hr
    obtain ⟨ha, hne⟩ := h h3 result line f ls hf hs hl cur hc hr
    exact ⟨ha, fun _ => hne⟩

/-- What `requestGetICCID` reads from the answer to AT+CCID?. -/
def iccidOf (a : Answer) : Option Line :=
  (lineOf (ascii "+CCID: ") a).bind fun line =>
    (AtTok.at_tok_start (some line)).bind fun cur => (AtTok.at_tok_nextstr (some cur)).value

theorem linear_requestGetICCID (t : RIL_Token) (w : World Slot) (hlive : w.live = []) (hmisused : w.misused = false) :
    Linear (requestGetICCID t) w ↔ iccidOf (w.answers 0) = none := by
  unfold Linear
  rw [Option.eq_none_iff_forall_ne_some]
  simp [requestGetICCID, hlive, hmisused, iccidOf, Option.bind_eq_some_iff, lineOf_eq_some]
  constructor
  · intro h iccid line f ls hf hs hl cur hc hi
    exact h f ls hf line hs hl cur hc iccid hi
  · intro h f ls hf line hs hl cur hc iccid hi
    exact h iccid line f ls hf hs hl cur hc hi

theorem nextstr_of_hasmore {cur : Option Line} (h : AtTok.at_tok_hasmore cur = true) :
    ∃ s, (AtTok.at_tok_nextstr cur).value = some s := by
  cases cur with
  | none => simp [AtTok.at_tok_hasmore] at h
  | some s =>
    obtain ⟨ret, cur, hret⟩ := nextTok_some s
    exact ⟨ret, by simp [AtTok.at_tok_nextstr, AtTok.Tok.value, hret]⟩

/-- The status words `readSimRecord` reads from the answer to AT+CRSM. -/
def simStatusOf (a : Answer) : Option (Int × Int) :=
  (lineOf (ascii "+CRSM:") a).bind fun line =>
    (AtTok.at_tok_start (some line)).bind fun cur =>
      let sw1 := AtTok.at_tok_nextint (some cur)
      sw1.value.bind fun n1 => (AtTok.at_tok_nextint sw1.p_cur).value.map fun n2 => (n1, n2)

theorem linear_readSimRecord (p_args : RIL_SIM_IO_v6) (w : World Slot) (hlive : w.live = [])
    (hmisused : w.misused = false) :
    Linear (readSimRecord p_args) w ↔
      (p_args.fileid = 12258 → p_args.command = READ_BINERY → w.allocates 0 = true →
        simStatusOf (w.answers 0) = some (105, 134) → w.answers 1 ≠ .failed) := by
  unfold Linear
  simp [readSimRecord, readICCID, simIoResponse, hlive, hmisused, simStatusOf, Option.bind_eq_some_iff,
    lineOf_eq_some]
  have hisim : p_args.fileid = 12258 → isISIMFileId p_args.fileid = false := by
    intro hfile
    rw [hfile]
    decide
  constructor
  · intro h hfile hcmd halloc line f ls hf hs hl cur hc h1 h2
    obtain ⟨hmore, hlast⟩ := h (by simp [hisim hfile]) halloc f ls hf line hs (by simpa [hisim hfile] using hl) cur hc
      105 h1 134 h2
    cases hm : AtTok.at_tok_hasmore (AtTok.at_tok_nextint (AtTok.at_tok_nextint (some cur)).p_cur).p_cur with
    | false => exact hlast hm hfile hcmd rfl rfl
    | true =>
      obtain ⟨text, htext⟩ := nextstr_of_hasmore hm
      exact hmore hm text htext hfile hcmd rfl rfl
  · intro h _ halloc f ls hf line hs hl cur hc n1 h1 n2 h2
    have hans : p_args.fileid = 12258 → p_args.command = READ_BINERY → n1 = 105 → n2 = 134 →
        ¬ w.answers 1 = .failed := by
      rintro hfile hcmd rfl rfl
      exact h hfile hcmd halloc line f ls hf hs (by simpa [hisim hfile] using hl) cur hc h1 h2
    exact ⟨fun _ _ _ => hans, fun _ => hans⟩

/-- The answer of the card asks for another command: the one to send, and the status words. -/
def retryOf (beyond : Int → Line) (a : Answer) (p_args : RIL_SIM_APDU) (sw : Int × Int) :
    Option (RIL_SIM_APDU × (Int × Int)) :=
  (lineOf (ascii "+CGLA:") a).bind fun line =>
    (AtTok.at_tok_start (some line)).bind fun cur =>
      let len := AtTok.at_tok_nextint (some cur)
      len.value.bind fun n =>
        (AtTok.at_tok_nextstr len.p_cur).value.bind fun text =>
          let status := statusWords beyond n text sw
          (retryApdu p_args status.1 status.2).map fun next => (next, status.1)

theorem forall_retryOf {beyond : Int → Line} {a : Answer} {p_args : RIL_SIM_APDU} {sw : Int × Int}
    {P : RIL_SIM_APDU → Int × Int → Prop} :
    (∀ next sw', retryOf beyond a p_args sw = some (next, sw') → P next sw') ↔
      ∀ f ls, a = .response f ls → ∀ line, Command.isFinalResponseSuccess f = true →
        Command.intermediatesOf .SINGLELINE (ascii "+CGLA:") ls = [line] →
        ∀ cur, AtTok.at_tok_start (some line) = some cur →
        ∀ n, (AtTok.at_tok_nextint (some cur)).value = some n →
        ∀ text, (AtTok.at_tok_nextstr (AtTok.at_tok_nextint (some cur)).p_cur).value = some text →
        ∀ next, retryApdu p_args (statusWords beyond n text sw).1 (statusWords beyond n text sw).2 = some next →
          P next (statusWords beyond n text sw).1 := by
  constructor
  · intro h f ls ha line hf hls cur hcur n hn text htext next hnext
    apply h
    simp [retryOf, lineOf_eq_some.2 ⟨f, ls, ha, hf, hls⟩, hcur, hn, htext, hnext]
  · intro h next sw' hr
    simp only [retryOf, Option.bind_eq_some_iff, lineOf_eq_some, Option.map_eq_some_iff, Prod.mk.injEq] at hr
    obtain ⟨line, ⟨f, ls, ha, hf, hls⟩, cur, hcur, n, hn, text, htext, next', hnext, rfl, rfl⟩ := hr
    exact h f ls ha line hf hls cur hcur n hn text htext next' hnext

/-- Each of the first `k` answers asks for another command. -/
def Retried (beyond : Int → Line) : (Nat → Answer) → RIL_SIM_APDU → Int × Int → Nat → Prop
  | _, _, _, 0 => True
  | answers, p_args, sw, k + 1 =>
    ∃ next sw', retryOf beyond (answers 0) p_args sw = some (next, sw') ∧
      Retried beyond (fun n => answers (n + 1)) next sw' k

/-- The command that follows each answer that asks for one is answered, as far as the fuel goes. -/
def RetriesAnswered (beyond : Int → Line) (fuel : Nat) (answers : Nat → Answer) (p_args : RIL_SIM_APDU)
    (sw : Int × Int) : Prop :=
  ∀ k < fuel, Retried beyond answers p_args sw (k + 1) → answers (k + 1) ≠ .failed

theorem retriesAnswered_iff {beyond : Int → Line} {fuel : Nat} {answers : Nat → Answer} {p_args : RIL_SIM_APDU}
    {sw : Int × Int} :
    RetriesAnswered beyond fuel answers p_args sw ↔
      ∀ next sw', retryOf beyond (answers 0) p_args sw = some (next, sw') →
        ∀ k < fuel, Retried beyond (fun n => answers (n + 1)) next sw' k → answers (k + 1) ≠ .failed := by
  constructor
  · intro h next sw' hr k hk hret
    exact h k hk ⟨next, sw', hr, hret⟩
  · rintro h k hk ⟨next, sw', hr, hret⟩
    exact h next sw' hr k hk hret

/-- What has to hold where the exchange with the card ends. -/
structure ApduEnd (Q : ApduResult → World Slot → Prop) (E : Exit (RIL_Errno × Pointer) → World Slot → Prop) :
    Prop where
  result p_args sw text r cur w : w.live = [r.handle] → w.misused = false → Q ⟨p_args, sw, text, ⟨r, cur⟩, some r⟩ w
  refused e r w : w.live = [r.handle] → w.misused = false → E (.goto (e, some r)) w
  nothing e w : w.live = [] → w.misused = false → E (.goto (e, none)) w
  stale e r w : w.live = [] → ¬ E (.goto (e, some r)) w
  runsOn w : w.misused = false → E .runsOn w

section

variable {Q : ApduResult → World Slot → Prop} {E : Exit (RIL_Errno × Pointer) → World Slot → Prop}

/-- The variable holds a response that was freed. -/
theorem wp_exchangeApdu_stale (beyond : Int → Line) (hend : ApduEnd Q E) (fuel : Nat) (p_args : RIL_SIM_APDU)
    (sw : Int × Int) (r : Response) (w : World Slot) (hlive : w.live = []) (hmisused : w.misused = false) :
    wp (exchangeApdu beyond fuel p_args sw (some r)) Q E w ↔
      ∀ k < fuel, Retried beyond w.answers p_args sw k → w.answers k ≠ .failed := by
  induction fuel generalizing p_args sw r w with
  | zero => simp [exchangeApdu, hend.runsOn, hmisused]
  | succ fuel ih =>
    have hrest := @retriesAnswered_iff beyond fuel w.answers p_args sw
    rw [forall_retryOf, RetriesAnswered] at hrest
    rw [Nat.forall_lt_succ_left, hrest]
    simp [exchangeApdu, hlive, hmisused, hend.result, hend.refused, hend.nothing, hend.stale, ih, Retried]

theorem wp_exchangeApdu (beyond : Int → Line) (hend : ApduEnd Q E) (fuel : Nat) (p_args : RIL_SIM_APDU)
    (sw : Int × Int) (w : World Slot) (hlive : w.live = []) (hmisused : w.misused = false) :
    wp (exchangeApdu beyond (fuel + 1) p_args sw none) Q E w ↔ RetriesAnswered beyond fuel w.answers p_args sw := by
  rw [retriesAnswered_iff, forall_retryOf]
  simp [exchangeApdu, hlive, hmisused, hend.result, hend.refused, hend.nothing, wp_exchangeApdu_stale, hend]

end

theorem linear_requestTransmitApdu (beyond : Int → Line) (p_args : RIL_SIM_APDU) (t : RIL_Token) (w : World Slot)
    (hlive : w.live = []) (hmisused : w.misused = false) :
    (∀ fuel, Linear (requestTransmitApdu beyond fuel p_args t) w) ↔
      ∀ k, Retried beyond w.answers p_args (0, 0) (k + 1) → w.answers (k + 1) ≠ .failed := by
  have hfuel : ∀ fuel, Linear (requestTransmitApdu beyond (fuel + 1) p_args t) w ↔
      RetriesAnswered beyond fuel w.answers p_args (0, 0) := by
    intro fuel
    simp only [Linear, requestTransmitApdu, wp_labelled, wp_bind]
    apply wp_exchangeApdu _ _ _ _ _ _ hlive hmisused
    constructor
    · intro p_args sw text r cur w hl hm
      simp [hl, hm, fetchProactiveCommand]
    · intro e r w hl hm
      simp [hl, hm]
    · intro e w hl hm
      simp [hl, hm]
    · intro e r w hl
      simp [hl]
    · intro w hm
      simp [hm]
  constructor
  · intro h k
    exact (hfuel (k + 1)).1 (h (k + 2)) k (by omega)
  · intro h fuel
    cases fuel with
    | zero => simp [Linear, requestTransmitApdu, exchangeApdu, hmisused]
    | succ fuel => exact (hfuel fuel).2 fun k _ => h k

/-! ## All of them -/

inductive Call
  | requestEnterSimPin (strings : List (Option Line)) (t : RIL_Token)
  | readSimRecord (p_args : RIL_SIM_IO_v6)
  | requestTransmitApdu (p_args : RIL_SIM_APDU) (t : RIL_Token)
  | requestGetICCID (t : RIL_Token)

def Call.run (beyond : Int → Line) (fuel : Nat) : Call → Handler Slot Empty Unit
  | .requestEnterSimPin strings t => Sim.requestEnterSimPin strings t
  | .readSimRecord p_args => do
    let _ ← Sim.readSimRecord p_args
  | .requestTransmitApdu p_args t => Sim.requestTransmitApdu beyond fuel p_args t
  | .requestGetICCID t => Sim.requestGetICCID t

/-- However often the handler sends its command again. -/
def OwnsLinearly (beyond : Int → Line) (c : Call) (answers : Nat → Answer) (allocates : Nat → Bool) (g : Slot) : Prop :=
  ∀ fuel, Linear (c.run beyond fuel) (.start answers allocates g)

/-- No send behind a free fails without a response, and no ICCID is there to be passed on. -/
def FreesInTime (beyond : Int → Line) (c : Call) (answers : Nat → Answer) (allocates : Nat → Bool) : Prop :=
  match c with
  | .requestEnterSimPin strings _ =>
    strings.length = 3 → ∀ result, cpinResultOf (answers 0) = some result → allocates 0 = true ∧ answers 1 ≠ .failed
  | .readSimRecord p_args =>
    p_args.fileid = 12258 → p_args.command = READ_BINERY → allocates 0 = true →
      simStatusOf (answers 0) = some (105, 134) → answers 1 ≠ .failed
  | .requestTransmitApdu p_args _ => ∀ k, Retried beyond answers p_args (0, 0) (k + 1) → answers (k + 1) ≠ .failed
  | .requestGetICCID _ => iccidOf (answers 0) = none

/-- **Every response is freed exactly once and not read after that** iff the handler frees in time. -/
theorem ownsLinearly_iff_freesInTime (beyond : Int → Line) (c : Call) (answers : Nat → Answer)
    (allocates : Nat → Bool) (g : Slot) :
    OwnsLinearly beyond c answers allocates g ↔ FreesInTime beyond c answers allocates := by
  unfold OwnsLinearly
  cases c with
  | requestEnterSimPin strings t =>
    exact (forall_const Nat).trans (linear_requestEnterSimPin strings t _ rfl rfl)
  | readSimRecord p_args =>
    simp only [Call.run, Linear, wp_bind, forall_const]
    exact linear_readSimRecord p_args _ rfl rfl
  | requestTransmitApdu p_args t => exact linear_requestTransmitApdu beyond p_args t _ rfl rfl
  | requestGetICCID t => exact (forall_const Nat).trans (linear_requestGetICCID t _ rfl rfl)

theorem misused_of_linear {α : Type} {m : Handler γ Empty α} {w : World γ} (h : Linear m w) :
    (after m w).misused = false := by
  unfold Linear wp at h
  unfold after
  rcases hm : m w with ⟨r, w'⟩
  rw [hm] at h
  cases r with
  | ok a => exact h.2
  | error e => exact h

/-- An idle slot. -/
def idleSlot : Slot where
  s_radioState := .ON
  s_closed := false
  s_sim_busy := false
  s_isSimPresent := .PRESENT
  s_needQueryPinTimes := false
  s_needQueryPukTimes := false
  s_needQueryPinPuk2Times := false
  s_appType := .USIM
  s_imsInitISIM := -1
  s_simSessionId := -1
  AUTO_SAVE_PIN := ascii "1"
  SIM_PIN_PROP := []
  MODEM_ASSERT_PROP := []
  SIM_ENABLED_PROP := []
  MIFI_PRODUCT_PROP := []
  PIN_PUK_REMAIN_TIMES_PROP := SimUnlockType.remaintime
  s_timerList := []
  rand := fun n => n
  outside := fun _ => NUL

/-- The card wants its PUK, and the modem does not answer the PUK in time. -/
def pukTimeout : Nat → Answer
  | 0 => .response (ascii "OK") [ascii "+CPIN: SIM PUK"]
  | _ => .failed

theorem ownsLinearly_fails_pukTimeout :
    ¬ OwnsLinearly (fun _ => []) (.requestEnterSimPin [some (ascii "12345678"), some (ascii "1111"), none] (some 1))
      pukTimeout (fun _ => true) idleSlot := by
  intro h
  have hfreed := misused_of_linear (h 0)
  revert hfreed
  decide

end UniRil.Sim
