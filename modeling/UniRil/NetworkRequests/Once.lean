import UniRil.Misc.Answered
import UniRil.NetworkRequests.CellsDecoded
import UniRil.NetworkRequests.ListEntries
import UniRil.NetworkRequests.Requests

/-!
# Network requests that are answered once

The handlers that answer once whatever the modem says, and those that do on a condition: what they read of the answers
says which.
-/

namespace UniRil.NetworkRequests

open Flows Handlers FailRules
open AtTok (Line toInt)
open Sim (lineOf)

variable {γ ε α : Type}

/-! ## What answers nobody -/

/-- Nobody was told anything. -/
def Quiet (w w' : World γ) : Prop := ∀ t, w'.completions t = w.completions t

section

variable {m : Handler γ ε α} {w : World γ}

@[simp] theorem completions_after (h : Returns Quiet m) (t : RIL_Token) :
    (after m w).completions t = w.completions t :=
  rel_of_returns h w t

theorem quiet_within {γ' : Type} (view : γ' → γ) (update : γ → γ' → γ') (h : Returns Quiet m) :
    Returns Quiet (within view update m) := by
  rw [returns_iff] at h ⊢
  intro w
  rw [wp_within]
  exact wp_mono (h _) (fun _ _ h => h) fun _ _ h => h

end

@[simp] theorem quiet_setRadioState (socket_id : Nat) (newState : Sim.RadioState) :
    Returns Quiet (setRadioState socket_id newState : Handler Globals ε Unit) := by
  unfold setRadioState onSlot
  apply quiet_within
  rw [returns_iff]
  intro w
  simp [Quiet]

@[simp] theorem quiet_isRadioOn : Returns Quiet (isRadioOn : Handler Globals ε Int) := by
  rw [returns_iff]
  intro w
  simp [isRadioOn, askLine, Quiet]

@[simp] theorem quiet_queryCeregTac : Returns Quiet (queryCeregTac : Handler RegistrationGlobals ε (Option Int)) := by
  rw [returns_iff]
  intro w
  simp [queryCeregTac, askLine, Quiet]

/-- What requestShutdown begins with. -/
@[simp] theorem quiet_all_calls : Returns Quiet (Call.Requests.all_calls : Handler Call.Requests.Globals ε Int) := by
  rw [returns_iff]
  intro w
  simp [Call.Requests.all_calls, Call.Requests.sendCLCC, Quiet]

section

variable {E : Exit ε → World Globals → Prop} {w : World Globals}

@[simp ↓] theorem wp_setRadioState (socket_id : Nat) (newState : Sim.RadioState) {Q : Unit → World Globals → Prop} :
    wp (setRadioState socket_id newState) Q E w ↔
      Q (valueOf (setRadioState socket_id newState : Handler Globals ε Unit) w)
        (after (setRadioState socket_id newState : Handler Globals ε Unit) w) :=
  wp_of_returns (quiet_setRadioState socket_id newState)

@[simp ↓] theorem wp_isRadioOn {Q : Int → World Globals → Prop} :
    wp isRadioOn Q E w ↔
      Q (valueOf (isRadioOn : Handler Globals ε Int) w) (after (isRadioOn : Handler Globals ε Int) w) :=
  wp_of_returns quiet_isRadioOn

end

@[simp ↓] theorem wp_newResponse {E : Exit ε → World γ → Prop} {w : World γ} {Q : Response → World γ → Prop}
    (newLine : Line) :
    wp (newResponse newLine) Q E w ↔
      Q { handle := w.given, success := false, finalResponse := [], p_intermediates := [newLine] } w.gives := by
  rw [wp, newResponse]

/-! ## Handlers that always answer -/

/-- One answer more. -/
def Once (t : Nat) (m : Handler γ Empty Unit) (w : World γ) : Prop :=
  wp m (fun _ w' => w'.completions (some t) = w.completions (some t) + 1) (fun _ _ => False) w

section

variable {w : World Globals} (b : Build) (o : Outside) (socket_id t : Nat)

theorem once_complete (e : RIL_Errno) (response : Payload) :
    Once t (RIL_onRequestComplete (some t) e response) w := by
  simp [Once]

theorem once_requestSignalStrength : Once t (requestSignalStrength o (some t)) w := by
  simp [Once, requestSignalStrength, askLine, failSignals]

theorem once_requestQueryNetworkSelectionMode : Once t (requestQueryNetworkSelectionMode (some t)) w := by
  simp [Once, requestQueryNetworkSelectionMode, askLine]

theorem once_setNetworkSelectionAutomatic : Once t (setNetworkSelectionAutomatic socket_id (some t)) w := by
  simp [Once, setNetworkSelectionAutomatic, failSelection]

theorem once_requestResetRadio : Once t (requestResetRadio socket_id (some t)) w := by
  simp [Once, requestResetRadio]

theorem once_requestShutdown : Once t (requestShutdown socket_id (some t)) w := by
  simp [Once, requestShutdown, wp_of_returns quiet_all_calls]

theorem once_requestSetEmergencyOnly (value : Int) : Once t (requestSetEmergencyOnly value (some t)) w := by
  simp [Once, requestSetEmergencyOnly]

theorem once_sendAll (cmds : List Line) (e : RIL_Errno) (response : Payload) :
    Once t (do sendAll cmds; RIL_onRequestComplete (some t) e response) w := by
  unfold Once
  induction cmds generalizing w with
  | nil => simp [sendAll]
  | cons cmd rest ih =>
    simp only [sendAll, bind_assoc, wp_bind, wp_at_send_command_NULL]
    constructor
    · intro _
      have hrest := ih (w := w.sends cmd)
      rwa [completions_sends, wp_bind] at hrest
    · intro f ls _
      have hrest := ih (w := (w.sends cmd).gives.frees w.given)
      rwa [completions_frees, completions_gives, completions_sends, wp_bind] at hrest

theorem once_requestSetPreferredNetType (data : Int) :
    Once t (requestSetPreferredNetType b o socket_id data (some t)) w := by
  simp [Once, requestSetPreferredNetType, sendAutoAttach]

theorem once_requestGetPreferredNetType : Once t (requestGetPreferredNetType o (some t)) w := by
  simp [Once, requestGetPreferredNetType, askLine]

theorem once_requestGetLTEPreferredNetType : Once t (requestGetLTEPreferredNetType socket_id (some t)) w := by
  simp [Once, requestGetLTEPreferredNetType]

theorem once_requestSetLocationUpdates (enable : Int) : Once t (requestSetLocationUpdates enable (some t)) w := by
  simp [Once, requestSetLocationUpdates]

theorem once_completeByOutcome (cmd : Line) :
    Once t (do let s ← at_send_command cmd none; completeByOutcome (some t) s) w := by
  simp [Once, completeByOutcome]

theorem once_requestRegistrationState (s_isLTE : Bool) (request : RegistrationRequest) {w : World RegistrationGlobals} :
    Once t (requestRegistrationState s_isLTE request (some t)) w := by
  cases request with
  | VOICE_REGISTRATION_STATE =>
    simp [Once, requestRegistrationState, askLine, completeRegistration, wp_of_returns quiet_queryCeregTac]
  | _ => simp [Once, requestRegistrationState, askLine, completeRegistration]

theorem once_requestStartNetworkScan (data : RIL_NetworkScanRequest) {w : World Unit} :
    Once t (requestStartNetworkScan data (some t)) w := by
  simp [Once, requestStartNetworkScan]

/-! ## Handlers that answer on a condition -/

/-- A modem that refuses AT+CESQ has the request answered twice. -/
theorem once_requestSignalStrengthLTE :
    Once t (requestSignalStrengthLTE (some t)) w ↔ lineOf (ascii "+CESQ:") (w.answers 0) ≠ none := by
  cases hline : lineOf (ascii "+CESQ:") (w.answers 0) with
  | none =>
    refine iff_of_false ?_ fun h => h rfl
    cases ha : w.answers 0 with
    | failed => simp [Once, requestSignalStrengthLTE, failSignals, ha]
    | response f ls =>
      rw [ha, lineOf] at hline
      by_cases hf : Command.isFinalResponseSuccess f = true
      · rw [if_pos hf, List.head?_eq_none_iff] at hline
        simp [Once, requestSignalStrengthLTE, failSignals, ha, hline]
      · simp [Once, requestSignalStrengthLTE, failSignals, ha, hf]
  | some line =>
    obtain ⟨f, ls, ha, hf, hls⟩ := Sim.lineOf_eq_some.1 hline
    simp [Once, requestSignalStrengthLTE, failSignals, ha, hf, hls]

theorem once_requestNetworkRegistration (data : Option Line) :
    Once t (requestNetworkRegistration data (some t)) w ↔ data ≠ none := by
  cases data with
  | none => simp [Once, requestNetworkRegistration, failSelection]
  | some data => simp [Once, requestNetworkRegistration, failSelection]

theorem once_requestNetworkList (updateNetworkList : UpdateNetworkList) (stale : Stale) {w : World γ} :
    Once t (requestNetworkList updateNetworkList stale (some t)) w ↔
      ∀ line, lineOf (ascii "+COPS:") (w.answers 0) = some line → ListEnds updateNetworkList line := by
  cases hline : lineOf (ascii "+COPS:") (w.answers 0) with
  | none =>
    refine iff_of_true ?_ fun _ h => nomatch h
    cases ha : w.answers 0 with
    | failed => simp [Once, requestNetworkList, failNetworkList, ha]
    | response f ls =>
      rw [ha, lineOf] at hline
      by_cases hf : Command.isFinalResponseSuccess f = true
      · rw [if_pos hf, List.head?_eq_none_iff] at hline
        simp [Once, requestNetworkList, failNetworkList, ha, hline]
      · simp [Once, requestNetworkList, failNetworkList, ha, hf]
  | some line =>
    obtain ⟨f, ls, ha, hf, hls⟩ := Sim.lineOf_eq_some.1 hline
    simp [Once, requestNetworkList, failNetworkList, ha, hf, hls]
    rw [ListEnds, ← networkList_ne_none stale, ← not_lt]
    tauto

/-- NULL is compared with the names that are known. -/
theorem once_requestUpdateOperatorName (plmn : Option Line) :
    Once t (requestUpdateOperatorName o plmn (some t)) w ↔
      (plmn = none → w.globals.operators.s_operatorInfoList ≠ [] →
        ∀ name, o.updatePlmn ARRAY_SIZE none = some name → name.1 = []) := by
  unfold Once requestUpdateOperatorName
  cases hname : o.updatePlmn ARRAY_SIZE plmn with
  | none =>
    refine iff_of_true (by simp) ?_
    rintro rfl - name hsome
    cases hname.symm.trans hsome
  | some name =>
    cases plmn with
    | some plmn => simp [removeOperator]
    | none =>
      simp [removeOperator, hname]
      exact not_imp_comm

theorem once_requestOperator (RIL_getONS updatePlmn : Line → Option OperatorName) {w : World Operators} :
    Once t (requestOperator RIL_getONS updatePlmn (some t)) w ↔ AnswerFits w := by
  refine wp_iff_of_wp (wp_requestOperator RIL_getONS updatePlmn (some t)) ?_ ?_
  · rintro _ w' ⟨hfits, err, response, hlog⟩
    refine iff_of_true ?_ hfits
    simp [World.completions, hlog, Event.completes]
  · rintro _ w' ⟨hfits, -⟩
    exact iff_of_false id hfits

end

/-! ## Answers that are read one after the other -/

theorem completions_asked {cmd : Line} {w w' : World γ} (h : Asked cmd w w') (t : RIL_Token) :
    w'.completions t = w.completions t := by
  rw [World.completions, h.1, List.countP_append]
  rfl

/-- With the code at its label, the handler leaves one answer more than `n`. -/
def OnceIn (fail : ε → Handler γ Empty Unit) (t n : Nat) (m : Handler γ ε Unit) (w : World γ) : Prop :=
  wp (labelled m fail) (fun _ w' => w'.completions (some t) = n + 1) (fun _ _ => False) w

/-- The code at the label answers. -/
def Fails (fail : ε → Handler γ Empty Unit) (t n : Nat) : Prop :=
  ∀ p w, w.completions (some t) = n →
    wp (fail p) (fun _ w' => w'.completions (some t) = n + 1) (fun _ _ => False) w

theorem forall_map_fst {β : Type} {o : Option (α × β)} {P : α → Prop} :
    (∀ a, o.map Prod.fst = some a → P a) ↔ ∀ v, o = some v → P v.1 := by
  constructor
  · exact fun h v hv => h v.1 (by rw [hv, Option.map_some])
  · intro h a ha
    obtain ⟨v, hv, rfl⟩ := Option.map_eq_some_iff.1 ha
    exact h v hv

theorem forall_bind {β : Type} {o : Option α} {f : α → Option β} {P : β → Prop} :
    (∀ b, o.bind f = some b → P b) ↔ ∀ a, o = some a → ∀ b, f a = some b → P b := by
  simp only [Option.bind_eq_some_iff]
  exact ⟨fun h a ha b hb => h b ⟨a, ha, hb⟩, fun h b ⟨a, ha, hb⟩ => h a ha b hb⟩

section

variable {fail : ε → Handler γ Empty Unit} {t n : Nat} {w : World γ}

theorem onceIn_goto (hfail : Fails fail t n) (hw : w.completions (some t) = n) (p : ε) :
    OnceIn fail t n (goto p) w := by
  rw [OnceIn, wp_labelled, wp_goto, atLabel_goto]
  exact hfail p w hw

theorem onceIn_demand (hfail : Fails fail t n) (hw : w.completions (some t) = n) {o : Option α} {p : ε}
    {k : α → Handler γ ε Unit} {P : α → Prop} (h : ∀ a, o = some a → (OnceIn fail t n (k a) w ↔ P a)) :
    OnceIn fail t n (demand o p >>= k) w ↔ ∀ a, o = some a → P a := by
  cases o with
  | none => exact iff_of_true (onceIn_goto hfail hw p) fun _ h => nomatch h
  | some a =>
    simp only [Option.some.injEq, forall_eq']
    exact h a rfl

end

section

variable {fail : Pointers → Handler γ Empty Unit} {t n : Nat} {w : World γ}

theorem onceIn_ask (hfail : Fails fail t n) (hw : w.completions (some t) = n) {cmd responsePrefix : Line}
    {p_newResponse : Pointer} {k : Response × Line → Handler γ Pointers Unit} {P : Line → Prop}
    (h : ∀ a w', lineOf responsePrefix (w.answers 0) = some a.2 → Asked cmd w w' → w'.completions (some t) = n →
      (OnceIn fail t n (k a) w' ↔ P a.2)) :
    OnceIn fail t n (askLine cmd responsePrefix p_newResponse >>= k) w ↔
      ∀ line, lineOf responsePrefix (w.answers 0) = some line → P line := by
  rw [OnceIn, wp_labelled, wp_bind]
  refine wp_iff_of_wp
    (Q := fun a w' => lineOf responsePrefix (w.answers 0) = some a.2 ∧ Asked cmd w w')
    (E := fun e w' => (∃ p, e = .goto p) ∧ lineOf responsePrefix (w.answers 0) = none ∧ Asked cmd w w')
    (wp_askLine ?_ ?_) ?_ ?_
  · exact fun r line w' hline hasked => ⟨hline, hasked⟩
  · exact fun p w' hline hasked => ⟨⟨p, rfl⟩, hline, hasked⟩
  · rintro a w' ⟨hline, hasked⟩
    rw [hline]
    simp only [Option.some.injEq, forall_eq']
    rw [← wp_labelled]
    exact h a w' hline hasked ((completions_asked hasked (some t)).trans hw)
  · rintro _ w' ⟨⟨p, rfl⟩, hline, hasked⟩
    rw [hline]
    exact iff_of_true (hfail p w' ((completions_asked hasked (some t)).trans hw)) fun _ h => nomatch h

theorem onceIn_free (r : Response) {k : Unit → Handler γ Pointers Unit} :
    OnceIn fail t n (at_response_free (some r) >>= k) w ↔ OnceIn fail t n (k ()) (w.frees r.handle) := by
  rw [OnceIn, wp_labelled, wp_bind, wp_at_response_free_some, OnceIn, wp_labelled]

theorem onceIn_newResponse (newLine : Line) {k : Response → Handler γ Pointers Unit} :
    OnceIn fail t n (newResponse newLine >>= k) w ↔
      OnceIn fail t n
        (k { handle := w.given, success := false, finalResponse := [], p_intermediates := [newLine] }) w.gives := by
  rw [OnceIn, wp_labelled, wp_bind, wp_newResponse, OnceIn, wp_labelled]

/-- A command, and what is read of its answer. -/
theorem onceIn_read (hfail : Fails fail t n) (hw : w.completions (some t) = n)
    {cmd responsePrefix : Line} {p_new p_new' : Pointer} {reader : Reader α}
    {k : Response × Line → α × Option Line → Handler γ Pointers Unit} {P : α × Option Line → Prop}
    (h : ∀ a v w', answered responsePrefix reader (w.answers 0) = some v → Asked cmd w w' →
      w'.completions (some t) = n → (OnceIn fail t n (k a v) w' ↔ P v)) :
    OnceIn fail t n
        (do
          let a ← askLine cmd responsePrefix p_new
          let v ← demand (readLine reader a.2) (some a.1, p_new')
          k a v) w ↔
      ∀ v, answered responsePrefix reader (w.answers 0) = some v → P v := by
  have hread : (∀ v, answered responsePrefix reader (w.answers 0) = some v → P v) ↔
      ∀ line, lineOf responsePrefix (w.answers 0) = some line → ∀ v, readLine reader line = some v → P v := by
    simp only [answered, Option.bind_eq_some_iff]
    constructor
    · exact fun h line hline v hv => h v ⟨line, hline, hv⟩
    · rintro h v ⟨line, hline, hv⟩
      exact h line hline v hv
  rw [hread]
  refine onceIn_ask hfail hw fun a w' hline hasked hw' => ?_
  refine onceIn_demand hfail hw' fun v hv => ?_
  exact h a v w' (by rw [answered, hline, Option.bind_some, hv]) hasked hw'

end

/-! ## Neighbouring cells -/

/-- The number of cells is within what the stack has room for. -/
def NumberFits (stackRoom : Nat) (cur : Option Line) : Prop :=
  ∀ n rest, readCellNumber cur = some (n, rest) → 0 ≤ n ∧ n ≤ stackRoom

/-- The answers with these beginnings, up to the first that has something behind its colon. -/
def NeighboursFit (stackRoom : Nat) : List Line → (Nat → Answer) → Prop
  | [], _ => True
  | responsePrefix :: rest, answers =>
    ∀ line, lineOf responsePrefix (answers 0) = some line → ∀ cur, AtTok.at_tok_start (some line) = some cur →
      if AtTok.at_tok_hasmore (some cur) then NumberFits stackRoom (some cur)
      else NeighboursFit stackRoom rest fun n => answers (n + 1)

def neighbourPrefixes : List Line := [ascii "+Q2GNCELL:", ascii "+Q3GNCELL:", ascii "+SPQ4GNCELL:"]

section

variable {w : World Globals} (b : Build) (o : Outside) (socket_id t : Nat)

/-- The code at the label of requestNeighboaringCellIds. -/
def failNeighbors (t : RIL_Token) (p : Pointers) : Handler Globals ε Unit := do
  RIL_onRequestComplete t .GENERIC_FAILURE .NULL
  at_response_free p.1

variable {t} {n : Nat}

theorem fails_failNeighbors : Fails (failNeighbors (some t)) t n := by
  rintro ⟨_ | r, p'⟩ w hw
  · simp [failNeighbors, hw]
  · simp [failNeighbors, hw]

theorem onceIn_neighboringCells (hw : w.completions (some t) = n) (fourG : Bool) (r : Response) (cur : Option Line) :
    OnceIn (failNeighbors (some t)) t n
        (do
          let cells ← neighboringCells o fourG (some r, none) cur
          completeNeighbors (some t) r cells) w ↔ NumberFits o.stackRoom cur := by
  unfold OnceIn neighboringCells NumberFits
  cases hread : readCellNumber cur with
  | none => simp [failNeighbors, hw]
  | some found =>
    obtain ⟨number, rest⟩ := found
    simp [failNeighbors, completeNeighbors, hw]
    omega

/-- One of the commands: its cells are reported, or the next one is sent. -/
theorem onceIn_neighbourCommand (hw : w.completions (some t) = n) {cmd responsePrefix : Line} {fourG : Bool}
    {next : Response × Line → Handler Globals Pointers Unit} {P : Prop}
    (hnext : ∀ a w', w'.completions (some t) = n → (w'.answers = fun k => w.answers (k + 1)) →
      (OnceIn (failNeighbors (some t)) t n (next a) w' ↔ P)) :
    OnceIn (failNeighbors (some t)) t n
        (do
          let a ← askLine cmd responsePrefix none
          let cur ← demand (AtTok.at_tok_start (some a.2)) (some a.1, none)
          if AtTok.at_tok_hasmore (some cur) then
            let cells ← neighboringCells o fourG (some a.1, none) (some cur)
            completeNeighbors (some t) a.1 cells
          else
            next a) w ↔
      ∀ line, lineOf responsePrefix (w.answers 0) = some line → ∀ cur, AtTok.at_tok_start (some line) = some cur →
        if AtTok.at_tok_hasmore (some cur) then NumberFits o.stackRoom (some cur) else P := by
  refine onceIn_ask fails_failNeighbors hw fun a w' hline hasked hw' => ?_
  refine onceIn_demand fails_failNeighbors hw' fun cur _ => ?_
  split
  · exact onceIn_neighboringCells o hw' fourG a.1 (some cur)
  · exact hnext a w' hw' hasked.2.1

theorem once_requestNeighboaringCellIds :
    Once t (requestNeighboaringCellIds o socket_id (some t)) w ↔
      ((w.globals.slots socket_id).s_isSimPresent = .PRESENT →
        NeighboursFit o.stackRoom neighbourPrefixes w.answers) := by
  unfold Once requestNeighboaringCellIds
  rw [wp_bind, wp_getGlobals]
  by_cases hpresent : (w.globals.slots socket_id).s_isSimPresent = .PRESENT
  · rw [if_neg (not_not.2 hpresent), forall_prop_of_true hpresent]
    dsimp only
    refine onceIn_neighbourCommand o rfl fun a₁ w₁ hw₁ hanswers₁ => ?_
    rw [onceIn_free, ← hanswers₁]
    refine onceIn_neighbourCommand (w := w₁.frees a₁.1.handle) o ?_ fun a₂ w₂ hw₂ hanswers₂ => ?_
    · rw [completions_frees, hw₁]
    rw [answers_frees] at hanswers₂
    rw [onceIn_free, ← hanswers₂]
    refine onceIn_neighbourCommand (w := w₂.frees a₂.1.handle) o ?_ fun a₃ w₃ hw₃ _ => ?_
    · rw [completions_frees, hw₂]
    exact iff_of_true (onceIn_goto fails_failNeighbors hw₃ _) trivial
  · simp [hpresent]

end

/-! ## Cells -/

/-- Where all four answers are read and the number of the neighbours is -1, no array is given out. -/
def CellsCounted (s_isLTE : Bool) (stale : Uninitialised) (answers : Nat → Answer) (room : Bool) : Prop :=
  ∀ cops, copsOf (answers 0) = some cops → ∀ registration, cregOf (cellTypeOf cops.2) (answers 1) = some registration →
    ∀ signals, signalsOf s_isLTE stale.ber.toInt (answers 2) = some signals →
      ∀ r, servingOf (cellTypeOf cops.2) (known stale cops.1 registration signals) (answers 3) = some r →
        toInt (r.1.2 + 1) = 0 → room = false

section

variable {t n : Nat} {w : World γ}

theorem fails_refused : Fails (refused (some t) : Pointers → Handler γ Empty Unit) t n := by
  rintro ⟨_ | r, _ | r'⟩ w hw
  all_goals simp [refused, hw]

/-- With no room for the first row there is no answer. -/
theorem onceIn_reportCells (hw : w.completions (some t) = n) (cellType : RIL_CellInfoType) (ril_nano_time : Nat)
    (s : Serving) (r r' : Response) (info : CellInfo) {number : Int} (hnumber : InInt number) (line : Option Line) :
    OnceIn (refused (some t)) t n (reportCells cellType ril_nano_time (some t) s (some r, some r') info number line) w ↔
      (toInt (number + 1) = 0 → w.allocates 0 = false) := by
  have hfail := @fails_refused γ t n
  unfold reportCells callocCells
  rw [OnceIn, wp_labelled, wp_bind, wp_bind, wp_allocated, wp_pure, ← wp_labelled]
  by_cases hroom : 0 ≤ toInt (number + 1) ∧ w.allocates 0 = true
  · obtain ⟨hcount, hallocates⟩ := hroom
    rw [if_pos ⟨hcount, hallocates⟩]
    by_cases hzero : toInt (number + 1) = 0
    · simp [store, hzero, hallocates]
    · refine iff_of_true ?_ fun h => absurd h hzero
      have hsucc : (toInt (number + 1)).toNat = number.toNat + 1 := by
        have hlow := hnumber.1
        have hhigh := hnumber.2
        by_cases hmax : number = 2 ^ 31 - 1
        · rw [hmax] at hcount
          exact absurd hcount (by decide)
        · rw [toInt_of_range (by omega) (by omega)] at hcount hzero ⊢
          omega
      rw [hsucc, List.replicate_succ]
      simp only [demand, pure_bind, wp_labelled, wp_bind, wp_store]
      rw [if_pos (by simp), List.set_cons_zero]
      have hpasses : passes cellType number line ≤ (List.replicate number.toNat RIL_CellInfo_v12.zero).length := by
        rw [passes, List.length_replicate]
        split
        · exact le_rfl
        · exact Nat.zero_le _
      refine wp_neighbours cellType (some r, some r') _ _ line [_] _ (by simp) hpasses ?_ ?_
      · intro infos _
        simp [hw, store]
      · intro _
        rw [atLabel_goto]
        exact hfail _ w.asks hw
  · rw [if_neg hroom]
    refine iff_of_true (onceIn_goto hfail (by simpa using hw) _) fun hzero => ?_
    rw [hzero] at hroom
    simpa using hroom

theorem once_requestGetCellInfoList (s_isLTE : Bool) (stale : Uninitialised) (ril_nano_time : Nat) :
    Once t (requestGetCellInfoList s_isLTE stale ril_nano_time (some t)) w ↔
      CellsCounted s_isLTE stale w.answers (w.allocates 0) := by
  have hfail := @fails_refused γ t (w.completions (some t))
  unfold Once requestGetCellInfoList CellsCounted
  dsimp only
  rw [copsOf, forall_map_fst]
  refine onceIn_read hfail rfl fun a cops w₁ _ hasked₁ hw₁ => ?_
  rw [onceIn_free, cregOf, forall_map_fst]
  have hsecond : w.answers 1 = (w₁.frees a.1.handle).answers 0 := by simp [hasked₁.2.1]
  rw [hsecond]
  refine onceIn_read hfail (by simpa using hw₁) fun a₂ registration w₂ _ hasked₂ hw₂ => ?_
  rw [onceIn_free]
  have hthird : w.answers 2 = (w₂.frees a₂.1.handle).answers 0 := by simp [hasked₂.2.1, hasked₁.2.1]
  simp only [signalsOf, forall_bind, forall_map_fst]
  rw [hthird]
  refine onceIn_ask hfail (by simpa using hw₂) fun a₃ w₃ _ hasked₃ hw₃ => ?_
  refine onceIn_demand hfail hw₃ fun newLine _ => ?_
  rw [onceIn_newResponse]
  refine onceIn_demand hfail (by simpa using hw₃) fun signals _ => ?_
  rw [onceIn_free, servingOf]
  have hfourth : w.answers 3 = (w₃.gives.frees a₃.1.handle).answers 0 := by
    simp [hasked₃.2.1, hasked₂.2.1, hasked₁.2.1]
  rw [hfourth]
  refine onceIn_read hfail (by simpa using hw₃) fun a₄ cells w₄ hcells hasked₄ hw₄ => ?_
  have hnumber : InInt cells.1.2 := by
    obtain ⟨line, -, hline⟩ := Option.bind_eq_some_iff.1 hcells
    obtain ⟨cur, -, hserving⟩ := Option.bind_eq_some_iff.1 hline
    exact (serving_eq_some _ hserving).2.1
  have hallocates : w.allocates 0 = w₄.allocates 0 := by
    simp [hasked₄.2.2, hasked₃.2.2, hasked₂.2.2, hasked₁.2.2]
  rw [hallocates]
  exact onceIn_reportCells hw₄ _ ril_nano_time _ a₄.1 _ cells.1.1 hnumber cells.2

end

end UniRil.NetworkRequests
