import UniRil.Sim.Loops

/-!
# When a request is answered once

A handler that is under way owes its request one answer, which it gives itself or leaves to the list of
the waiting requests.
-/

namespace UniRil.Sim

open Flows Handlers FailRules
open AtTok (Line)

variable {ε α : Type}

/-! ## Owed answers -/

/-- The answers that were given, and those the list will give. -/
def owed (w : World Slot) (t : RIL_Token) : Nat := w.completions t + waiting w t

theorem not_waiting {l : List (RIL_Token × Int)} {t : RIL_Token} (h : t ∉ l.map (·.1)) :
    l.countP (fun p => decide (p.1 = t)) = 0 := by
  rw [List.countP_eq_zero]
  intro p hp
  have hne : p.1 ≠ t := fun heq => h (heq ▸ List.mem_map_of_mem hp)
  simpa using hne

theorem countP_eraseP (l : List (RIL_Token × Int)) (t t' : RIL_Token) :
    (l.eraseP (·.1 = t)).countP (fun p => decide (p.1 = t')) + (if t = t' ∧ t ∈ l.map (·.1) then 1 else 0) =
      l.countP (fun p => decide (p.1 = t')) := by
  induction l with
  | nil => simp
  | cons p l ih =>
    by_cases hp : p.1 = t
    · simp [List.countP_cons, hp]
    · have hmem : t ∈ (p :: l).map (·.1) ↔ t ∈ l.map (·.1) := by
        simp [Ne.symm hp]
      simp only [List.eraseP_cons, hp, decide_false, cond_false, List.countP_cons, hmem]
      omega

/-- What the arrivals change: the list, and who was answered from it. -/
structure Arrived (as : List Arrival) (w w' : World Slot) : Prop where
  answers : w'.answers = w.answers
  allocates : w'.allocates = w.allocates
  globals : w'.globals = { w.globals with s_timerList := as.foldl leave w.globals.s_timerList }
  owed : ∀ t, owed w' t = owed w t

theorem arrived_arrive (a : Arrival) : Returns (Arrived [a]) (arrive a : Handler Slot ε Unit) := by
  rw [returns_iff]
  intro w
  cases a with
  | CLCK status =>
    have hlist : ∀ p l, w.globals.s_timerList = p :: l → ∀ w' : World Slot, w'.answers = w.answers →
        w'.allocates = w.allocates → w'.globals = w.globals →
        (∀ t, w'.completions t = w.completions t + if p.1 = t then 1 else 0) →
        Arrived [.CLCK status] w (w'.setGlobals fun g => { g with s_timerList := g.s_timerList.tail }) := by
      intro p l hl w' hans hall hg hc
      constructor
      · exact hans
      · exact hall
      · simp [leave, hg]
      · intro t
        simp [owed, waiting, hg, hl, hc, List.countP_cons]
        omega
    simp only [arrive, checkAndCompleteRequest, wp_bind, wp_getGlobals, wp_elim]
    constructor
    · rintro ⟨t, mode⟩ hhead
      obtain ⟨l, hl⟩ := List.head?_eq_some_iff.1 hhead
      simp only [dispatchCLCK, wp_ite, wp_RIL_onRequestComplete, wp_modifyGlobals]
      constructor
      · intro _
        apply hlist _ _ hl <;> simp
      · intro _
        apply hlist _ _ hl <;> simp
    · intro hhead
      have hl := List.head?_eq_none_iff.1 hhead
      constructor
      · rfl
      · rfl
      · simp [leave, hl]
        rw [← hl]
      · intro t
        rfl
  | timeout t =>
    have herase := fun t' => countP_eraseP w.globals.s_timerList t t'
    simp only [arrive, userTimerCallback, removeAsyncCmdList, wp_bind, wp_getGlobals, wp_ite, wp_modifyGlobals,
      wp_RIL_onRequestComplete, wp_pure]
    constructor
    · intro hmem
      constructor
      · rfl
      · rfl
      · simp [leave]
      · intro t'
        have h := herase t'
        simp only [hmem, and_true] at h
        simp [owed, waiting]
        omega
    · intro hmem
      have hl : w.globals.s_timerList.eraseP (fun p => decide (p.1 = t)) = w.globals.s_timerList := by
        apply List.eraseP_of_forall_not
        intro p hp
        have hne : p.1 ≠ t := fun heq => hmem (heq ▸ List.mem_map_of_mem hp)
        simpa using hne
      constructor
      · rfl
      · rfl
      · simp [leave, hl]
      · intro t'
        rfl

theorem arrived_arriveAll (as : List Arrival) : Returns (Arrived as) (arriveAll as : Handler Slot ε Unit) := by
  rw [returns_iff]
  intro w
  induction as generalizing w with
  | nil => exact ⟨rfl, rfl, rfl, fun _ => rfl⟩
  | cons a as ih =>
    simp only [arriveAll, wp_bind]
    refine wp_mono (returns_iff.1 (arrived_arrive a) w) ?_ ?_
    · intro _ w1 h1
      refine wp_mono (ih w1) ?_ ?_
      · intro _ w2 h2
        constructor
        · exact h2.answers.trans h1.answers
        · exact h2.allocates.trans h1.allocates
        · simp [h2.globals, h1.globals]
        · intro t
          exact (h2.owed t).trans (h1.owed t)
      · intro _ _ h
        exact h
    · intro _ _ h
      exact h.elim

/-- When everything has arrived, the timer of the request included, nothing is owed any more. -/
theorem wp_arriveAll_timeout (as : List Arrival) (t : RIL_Token) {E : Exit ε → World Slot → Prop} (w : World Slot) :
    wp (do arriveAll as; arrive (.timeout t) : Handler Slot ε Unit)
      (fun _ w' => w'.completions t = 1 ∧ waiting w' t = 0) E w ↔ owed w t = 1 := by
  rw [wp_bind, wp_of_returns (arrived_arriveAll as), wp_of_returns (arrived_arrive (.timeout t))]
  have h1 := rel_of_returns (arrived_arriveAll as : Returns (Arrived as) (arriveAll as : Handler Slot ε Unit)) w
  generalize after (arriveAll as : Handler Slot ε Unit) w = w1 at h1 ⊢
  have h2 := rel_of_returns (arrived_arrive (.timeout t) : Returns _ (arrive (.timeout t) : Handler Slot ε Unit)) w1
  generalize after (arrive (.timeout t) : Handler Slot ε Unit) w1 = w2 at h2 ⊢
  have howed := (h2.owed t).trans (h1.owed t)
  have hwait : waiting w2 t = waiting w1 t - 1 := by
    have h := countP_eraseP w1.globals.s_timerList t t
    have hmem : t ∈ w1.globals.s_timerList.map (·.1) ∨ waiting w1 t = 0 := by
      by_cases hm : t ∈ w1.globals.s_timerList.map (·.1)
      · exact .inl hm
      · exact .inr (not_waiting hm)
    simp only [waiting, h2.globals, List.foldl_cons, List.foldl_nil, leave] at hmem ⊢
    rcases hmem with hm | hz
    · simp only [hm, and_self, if_true] at h
      omega
    · rw [hz] at h ⊢
      omega
  have h3 := h1.owed t
  unfold owed at howed h3 ⊢
  omega

/-! ## One answer is owed where the handler comes back -/

@[simp] theorem onceEnd_crashes (t : RIL_Token) (w : World Slot) :
    OnceEnd t (.crashes : Exit ε) w ↔ w.completions t = 1 := Iff.rfl

@[simp] theorem onceEnd_runsOn (t : RIL_Token) (w : World Slot) : OnceEnd t (.runsOn : Exit ε) w ↔ False := Iff.rfl

theorem succeeds_iff {a : Answer} :
    Answer.succeeds a = true ↔ ∃ f ls, a = .response f ls ∧ Command.isFinalResponseSuccess f = true := by
  cases a <;> simp [Answer.succeeds]

def Once (t : RIL_Token) (m : Handler Slot Empty Unit) (w : World Slot) : Prop :=
  wp m (fun _ w' => owed w' t = 1) (OnceEnd t) w

/-- Where the command of a lock fails, the answer is still owed. -/
def LockEnd (t : RIL_Token) : Exit Pointer → World Slot → Prop
  | .goto _, w => owed w t = 0
  | .crashes, w => w.completions t = 1
  | .runsOn, _ => False

@[simp] theorem lockEnd_goto (t : RIL_Token) (p : Pointer) (w : World Slot) : LockEnd t (.goto p) w ↔ owed w t = 0 :=
  Iff.rfl

@[simp] theorem lockEnd_crashes (t : RIL_Token) (w : World Slot) : LockEnd t .crashes w ↔ w.completions t = 1 := Iff.rfl

theorem owed_errnoOfLock (facility mode : Line) (p_response : Pointer) :
    Returns (fun w w' => ∀ t, owed w' t = owed w t)
      (errnoOfLock facility mode p_response : Handler Slot ε RIL_Errno) := by
  rw [returns_iff]
  intro w
  cases p_response with
  | none => simp [errnoOfLock]
  | some r => simp [errnoOfLock, owed, waiting]

theorem wp_failLock (type : Option Line) (errnoType : RIL_Errno) (p_response : Pointer) (t : RIL_Token)
    {E : Exit ε → World Slot → Prop} {w : World Slot} :
    wp (failLock type errnoType p_response t) (fun _ w' => owed w' t = 1) E w ↔ owed w t = 0 := by
  have hone : w.completions t + 1 + waiting w t = 1 ↔ owed w t = 0 := by
    unfold owed
    omega
  rw [← hone]
  cases p_response with
  | none => simp [failLock, owed, waiting]
  | some r => simp [failLock, owed, waiting]

/-- What stands at the label of the command answers the request once. -/
theorem wp_lockCommand (facility mode : Line) (type : Option Line) (m : Handler Slot Pointer Unit) (t : RIL_Token)
    {h : RIL_Errno → Handler Slot Empty Unit} {w : World Slot} :
    wp m (fun _ w' => owed w' t = 1)
        (atLabel (fun p_response => do
            let errnoType ← errnoOfLock facility mode p_response
            failLock type errnoType p_response t)
          (fun _ w' => owed w' t = 1) (atLabel h (fun _ w' => owed w' t = 1) (OnceEnd t))) w ↔
      wp m (fun _ w' => owed w' t = 1) (LockEnd t) w := by
  refine wp_congr (fun _ _ => Iff.rfl) ?_
  rintro (p_response | _ | _) w'
  · have herr := rel_of_returns (owed_errnoOfLock facility mode p_response :
      Returns _ (errnoOfLock facility mode p_response : Handler Slot RIL_Errno RIL_Errno)) w' t
    rw [atLabel_goto, wp_bind, wp_of_returns (owed_errnoOfLock facility mode p_response), wp_failLock, herr]
    rfl
  · rfl
  · rfl

/-- The status of the card is asked for when the request has been answered. -/
theorem wp_reportUnlocked_answered {t : RIL_Token} {w : World Slot} (p_response : Pointer)
    {E : Exit ε → World Slot → Prop} (hanswered : w.completions t = 1)
    (hwaiting : w.globals.s_timerList.countP (fun p => decide (p.1 = t)) = 0)
    (hE : ∀ w', w'.completions t = 1 → E .crashes w') :
    wp (reportUnlocked p_response)
      (fun _ w' => w'.completions t + w'.globals.s_timerList.countP (fun p => decide (p.1 = t)) = 1) E w := by
  cases p_response with
  | none => simp [reportUnlocked, getSIMStatus, querySIMStatus, simPin, hanswered, hwaiting, hE]
  | some r => simp [reportUnlocked, getSIMStatus, querySIMStatus, simPin, hanswered, hwaiting, hE]

section

variable {t : RIL_Token} {w : World Slot} (hanswered : w.completions t = 0)
  (hwaiting : w.globals.s_timerList.countP (fun p => decide (p.1 = t)) = 0)
include hanswered hwaiting

theorem once_requestEnterSimPin2 (pin2 : Option Line) : Once t (requestEnterSimPin2 pin2 t) w := by
  simp [Once, requestEnterSimPin2, owed, waiting, hanswered, hwaiting]

theorem once_requestChangeSimPin2 (strings : List (Option Line)) : Once t (requestChangeSimPin2 strings t) w := by
  simp [Once, requestChangeSimPin2, changePin, changeCommand, owed, waiting, hanswered, hwaiting]

theorem once_requestChangeSimPin (strings : List (Option Line)) :
    Once t (requestChangeSimPin strings t) w ↔
      (strings.length = 3 → cpinResultOf (w.answers 0) ≠ none → w.allocates 0 = true →
        Answer.succeeds (w.answers 1) = true → needCacheSimPin w.globals → strings.getD 1 none ≠ none) := by
  have hok := @succeeds_iff (w.answers 1)
  simp [Once, requestChangeSimPin, changePin, changeCommand, cacheString, cachePin, owed, waiting, hanswered, hwaiting,
    needCacheSimPin, cpinResultOf, lineOf_eq_some, Option.ne_none_iff_exists', hok]
  constructor
  · intro h h3 line f ls hf hs hl cur hc result hr ha f' ls' hf' hs' hcache
    exact h h3 f ls hf line hs hl cur hc result hr ha f' ls' hf' hs' hcache
  · intro h h3 f ls hf line hs hl cur hc result hr ha f' ls' hf' hs' hcache
    exact h h3 line f ls hf hs hl cur hc result hr ha f' ls' hf' hs' hcache

theorem once_requestDepersonalization : Once t (requestDepersonalization t) w := by
  simp [Once, requestDepersonalization, owed, waiting, hanswered, hwaiting]

theorem once_requestGetIMSI : Once t (requestGetIMSI t) w := by
  simp [Once, requestGetIMSI, owed, waiting, hanswered, hwaiting]

theorem once_requestTransmitApduBasic (beyond : Int → Line) (p_args : RIL_SIM_APDU) :
    Once t (requestTransmitApduBasic beyond p_args t) w := by
  simp [Once, requestTransmitApduBasic, fetchBasic, owed, waiting, hanswered, hwaiting]

theorem once_requestCloseLogicalChannel (session_id : Int) : Once t (requestCloseLogicalChannel session_id t) w := by
  simp [Once, requestCloseLogicalChannel, completeByOutcome, owed, waiting, hanswered, hwaiting]

theorem once_requestGetSimLockRemainTimes (fac : Int) : Once t (requestGetSimLockRemainTimes fac t) w := by
  simp [Once, requestGetSimLockRemainTimes, owed, waiting, hanswered, hwaiting]

theorem once_requestFacilityLockByUser (first : Bool) (data : List (Option Line)) :
    Once t (requestFacilityLockByUser first data t) w ↔ (data.length = 2 → data.getD 1 none ≠ none) := by
  simp [Once, requestFacilityLockByUser, requestFacilityLockByUser.errnoOfUser, owed, waiting, hanswered, hwaiting]

theorem once_requestGetSimLockStatus (fac : Int) : Once t (requestGetSimLockStatus fac t) w := by
  simp [Once, requestGetSimLockStatus, failWith, owed, waiting, hanswered, hwaiting]

theorem once_requestGetSimLockDummys : Once t (requestGetSimLockDummys t) w := by
  simp [Once, requestGetSimLockDummys, nextints, failWith, owed, waiting, hanswered, hwaiting]

theorem once_requestGetSimLockWhiteList (stackFits : Int → Bool) (data : List Int) :
    Once t (requestGetSimLockWhiteList stackFits data t) w ↔
      (data.length = 1 → w.allocates 0 = true → whiteListOf stackFits (w.answers 0) ≠ some (.error .overflow)) := by
  simp [Once, requestGetSimLockWhiteList, failWith, owed, waiting, hanswered, hwaiting, whiteListOf,
    Option.bind_eq_some_iff, lineOf_eq_some]
  constructor
  · intro h h1 halloc line f ls hf hs hl cur hc type ht num hn
    exact h h1 halloc f ls hf line hs hl cur hc type ht num hn
  · intro h h1 halloc f ls hf line hs hl cur hc type ht num hn
    exact h h1 halloc line f ls hf hs hl cur hc type ht num hn

theorem once_requestInitISIM (strings : List (Option Line)) : Once t (requestInitISIM strings t) w := by
  simp [Once, requestInitISIM, owed, waiting, hanswered, hwaiting]

theorem once_switchIms (cmd : Line) : Once t (switchIms cmd t) w := by
  simp [Once, switchIms, owed, waiting, hanswered, hwaiting]

theorem once_notifySIMStatus : Once t (notifySIMStatus t) w := by
  simp [Once, notifySIMStatus, owed, waiting, hanswered, hwaiting]

theorem once_requestSIMGetAtr : Once t (requestSIMGetAtr t) w := by
  simp [Once, requestSIMGetAtr, owed, waiting, hanswered, hwaiting]

theorem once_requestGetSubsidyLock (stack : Int) : Once t (requestGetSubsidyLock stack t) w := by
  simp [Once, requestGetSubsidyLock, owed, waiting, hanswered, hwaiting]

theorem once_requestGetICCID : Once t (requestGetICCID t) w := by
  simp [Once, requestGetICCID, owed, waiting, hanswered, hwaiting]

theorem once_openChannel (stack : Nat → Int) (cmd : Line) (bareStatus : Bool) :
    Once t (openChannel stack cmd bareStatus t) w ↔
      ∀ data, selectDataOf (w.answers 0) = some data → data.length / 2 + 3 ≤ MAX_RESPONSE := by
  simp [Once, openChannel, selectResponse, owed, waiting, hanswered, hwaiting, selectDataOf,
    Option.bind_eq_some_iff, lineOf_eq_some]
  constructor
  · intro h data line f ls hf hs hl cur hc n hn hmore word hword hmore' hdata
    exact h f ls hf line hs hl cur hc n hn hmore word hword hmore' data hdata
  · intro h f ls hf line hs hl cur hc n hn hmore word hword hmore' data hdata
    exact h data line f ls hf hs hl cur hc n hn hmore word hword hmore' hdata

theorem once_requestAuthentication (heap : Heap) (sim_auth : RIL_SimAuthentication) :
    Once t (requestAuthentication heap sim_auth t) w ↔
      ∀ authData, sim_auth.authData = some authData →
        sim_auth.authContext = AUTH_CONTEXT_EAP_AKA ∨ sim_auth.authContext = AUTH_CONTEXT_EAP_SIM →
        w.allocates 0 = true → base64_decode authData ≠ none := by
  simp [Once, requestAuthentication, requestUSimAuthentication, requestSimAuthentication, challenge, authenticate,
    completeAuthentication, failAuthentication, owed, waiting, hanswered, hwaiting]
  refine forall_congr' fun authData => imp_congr_right fun _ => ?_
  by_cases haka : sim_auth.authContext = AUTH_CONTEXT_EAP_AKA
  · simp [haka]
  · simp [haka]

theorem once_requestGetSimStatus (simmgr : Bool) :
    Once t (requestGetSimStatus simmgr t) w ↔
      ((simmgr = true ∨ getProperty w.globals.SIM_ENABLED_PROP (ascii "1") ≠ ascii "0") →
        w.globals.s_radioState ≠ .UNAVAILABLE → ¬ refusedWithoutError (w.answers 0)) := by
  simp [Once, requestGetSimStatus, getCardStatus, getSIMStatus, querySIMStatus, simPin, owed, waiting, hanswered,
    hwaiting, refusedWithoutError]
  constructor
  · intro h hsim hradio f ls ha hf hcme
    have hother : at_get_cme_error ⟨0, false, f, []⟩ ≠ CME_SIM_NOT_INSERTED ∧
        at_get_cme_error ⟨0, false, f, []⟩ ≠ CME_SIM_BUSY := by
      rw [hcme]
      decide
    refine h ?_ hradio f ls ha hf hother.1 hother.2 hcme
    rcases hsim with hsim | hsim
    · simp [hsim]
    · exact fun _ => hsim
  · intro h hsim hradio f ls ha hf _ _ hcme
    refine h ?_ hradio f ls ha hf hcme
    cases simmgr with
    | true => exact .inl rfl
    | false => exact .inr (hsim rfl)

theorem once_requestEnterSimPuk2 (strings : List (Option Line)) : Once t (requestEnterSimPuk2 strings t) w := by
  simp [Once, requestEnterSimPuk2, getSIMStatus, querySIMStatus, simPin, owed, waiting, hanswered, hwaiting]

theorem once_requestEnterSimPin (strings : List (Option Line)) : Once t (requestEnterSimPin strings t) w := by
  simp [Once, requestEnterSimPin, unlockCommand, cachePin, wp_reportUnlocked_answered, owed, waiting, hanswered,
    hwaiting]

theorem once_requestSIMPower (onOff : Int) (htoken : t ≠ none) : Once t (requestSIMPower onOff t) w ↔ 0 ≤ onOff := by
  simp [Once, requestSIMPower, powerCommand, notifySIMStatus, owed, waiting, hanswered, hwaiting, htoken]
  omega

theorem not_once_requestSIMPower (onOff : Int) (htoken : t ≠ none) : ¬ Once t (requestSIMPower onOff none) w := by
  have hother : (none : RIL_Token) ≠ t := htoken.symm
  have hsome : ∀ a : Answer, ¬ (¬ a = .failed ∧ ∀ f ls, ¬ a = .response f ls) := by
    intro a
    cases a with
    | failed => simp
    | response f ls => simp
  simp [Once, requestSIMPower, powerCommand, notifySIMStatus, owed, waiting, hanswered, hwaiting, hother, hsome]

theorem once_requestSIM_IO (p_args : RIL_SIM_IO_v6) :
    Once t ( requestSIM_IO p_args t) w ↔
      (p_args.command = READ_BINERY → 255 < p_args.p3 →
        PartsBringData w.globals p_args.fileid ((p_args.p3 + 254) / 255).toNat w.allocates w.answers ∧
          (2 ^ 30 ≤ p_args.p3 → ∀ sr used, partOf w.globals p_args.fileid (w.allocates 0) w.answers = some (sr, used) →
            goodStatus sr.sw1 = false)) := by
  by_cases hlong : p_args.command = READ_BINERY ∧ 255 < p_args.p3
  · obtain ⟨hcmd, hp3⟩ := hlong
    simp only [hcmd, hp3, forall_const]
    rw [← partsFit_buffer hp3]
    simp only [Once, requestSIM_IO, hcmd, hp3, and_self, if_true]
    generalize (if p_args.p3 < 2 ^ 30 then some [] else none : Option Line) = buffer
    rw [wp_labelled, wp_bind]
    rcases exists_of_wp (wp_readParts p_args hcmd ((p_args.p3 + 254) / 255).toNat 0 buffer w) with
      ⟨sr, w1, hrun, hs, hfits⟩ | ⟨e, w1, hrun, hs, ⟨rfl, hfits⟩ | ⟨rfl, hfits⟩⟩
    · rw [wp_of_ok hrun]
      simp [hfits, owed, waiting, hs.globals, hs.completions, hanswered, hwaiting]
    · rw [wp_of_error hrun]
      simp [hfits, owed, waiting, hs.globals, hs.completions, hanswered, hwaiting]
    · rw [wp_of_error hrun]
      simp [hfits, hs.completions, hanswered]
  · have hshort : Once t ( requestSIM_IO p_args t) w := by
      simp only [Once, requestSIM_IO, hlong, if_false]
      simp [readSimRecord, readICCID, simIoResponse, owed, waiting, hanswered, hwaiting]
    simp only [hshort, true_iff]
    intro hcmd hp3
    exact absurd ⟨hcmd, hp3⟩ hlong

theorem once_requestTransmitApdu (beyond : Int → Line) (fuel : Nat) (p_args : RIL_SIM_APDU) :
    Once t (requestTransmitApdu beyond fuel p_args t) w ↔ ¬ Retried beyond w.answers p_args (0, 0) fuel := by
  unfold Once requestTransmitApdu
  rw [wp_labelled, wp_bind]
  rcases exists_of_wp (wp_exchangeApdu_ends beyond fuel p_args (0, 0) none w) with
    ⟨result, w1, hrun, hs, hends⟩ | ⟨e, w1, hrun, hs, ⟨⟨l, rfl⟩, hends⟩ | ⟨rfl, hruns⟩⟩
  · rw [wp_of_ok hrun]
    obtain ⟨p_args', sw, simResponse, line, p_response⟩ := result
    cases p_response with
    | none => simp [hends, fetchProactiveCommand, owed, waiting, hs.globals, hs.completions, hanswered, hwaiting]
    | some r => simp [hends, fetchProactiveCommand, owed, waiting, hs.globals, hs.completions, hanswered, hwaiting]
  · rw [wp_of_error hrun]
    obtain ⟨err_no, p_response⟩ := l
    cases p_response with
    | none => simp [hends, owed, waiting, hs.globals, hs.completions, hanswered, hwaiting]
    | some r => simp [hends, owed, waiting, hs.globals, hs.completions, hanswered, hwaiting]
  · rw [wp_of_error hrun]
    simp [hruns]

/-! ## Facility locks -/

theorem wp_queryLock (kind : FacilityRequest) (cmd facility : Line) (serviceClass : Int) :
    wp (queryLock kind cmd facility serviceClass t) (fun _ w' => owed w' t = 1) (LockEnd t) w ↔
      (facility = ascii "FD" → lockQueried (w.answers 0) = true → w.globals.s_appType ≠ .UNKNOWN →
        fdnFits (w.answers 1)) := by
  unfold queryLock
  rw [wp_bind, wp_at_send_command_multiline]
  cases ha : w.answers 0 with
  | failed => simp [lockQueried, owed, waiting, hanswered, hwaiting]
  | response f ls =>
    cases hf : Command.isFinalResponseSuccess f with
    | false => simp [lockQueried, owed, waiting, hanswered, hwaiting, hf]
    | true =>
      simp [hf]
      rcases exists_of_wp (wp_lockStatus
          ⟨w.given, true, f, Command.intermediatesOf .MULTILINE (ascii "+CLCK: ") ls⟩
          (Command.intermediatesOf .MULTILINE (ascii "+CLCK: ") ls) (0, 0) serviceClass
          ((w.sends cmd).gives.reads w.given)) with
        ⟨v, w1, hrun, hall, hread⟩ | ⟨e, w1, hrun, rfl, hall, hread⟩
      · rw [wp_of_ok hrun]
        simp [lockQueried, hf, hall, queryFDNServiceAvailable, fdnAvailable, simIoResponse, owed, waiting, hanswered,
          hwaiting, hread.answers, hread.globals, hread.completions, fdnFits]
        refine imp_congr_right fun _ => imp_congr_right fun _ => ?_
        constructor
        · intro h sr text hsr htext hlen
          simp only [simIoResponseOf, Option.bind_eq_some_iff, lineOf_eq_some, simIoFields] at hsr
          obtain ⟨line, ⟨f, ls, ha, hf, hl⟩, cur, hc, n1, h1, n2, h2, hsr⟩ := hsr
          split at hsr
          · next hm =>
            obtain ⟨text', htext', rfl⟩ := Option.map_eq_some_iff.1 hsr
            cases htext
            exact h f ls ha line hf hl cur hc n1 h1 n2 h2 hm text htext' hlen
          · cases hsr
            cases htext
        · intro h f ls ha line hf hl cur hc n1 h1 n2 h2 hm text htext hlen
          refine h ⟨n1, n2, some text⟩ text ?_ rfl hlen
          simp [simIoResponseOf, lineOf_eq_some.2 ⟨f, ls, ha, hf, hl⟩, simIoFields, hc, h1, h2, hm, htext]
      · rw [wp_of_error hrun]
        simp [lockQueried, hf, hall, owed, waiting, hanswered, hwaiting, hread.globals, hread.completions]

theorem wp_setLock (cmd facility mode : Line) (password : Option Line) (meanwhile : List Arrival)
    (hpassword : password ≠ none) :
    wp (setLock cmd facility mode password meanwhile t) (fun _ w' => owed w' t = 1) (LockEnd t) w ↔
      (facility = ascii "FD" → Answer.succeeds (w.answers 0) = false →
        t ∈ (meanwhile.foldl leave (w.globals.s_timerList ++ [(t, AtTok.atoi mode)])).map (·.1)) := by
  obtain ⟨pin, rfl⟩ := Option.ne_none_iff_exists'.1 hpassword
  by_cases hfd : facility = ascii "FD"
  · subst hfd
    simp only [setLock, addAsyncCmdList, if_true, forall_const, wp_bind, wp_modifyGlobals]
    rw [wp_of_returns (arrived_arriveAll meanwhile)]
    have h1 := rel_of_returns
      (arrived_arriveAll meanwhile : Returns _ (arriveAll meanwhile : Handler Slot Pointer Unit))
      (w.setGlobals fun g => { g with s_timerList := g.s_timerList ++ [(t, AtTok.atoi mode)] })
    generalize after (arriveAll meanwhile : Handler Slot Pointer Unit)
      (w.setGlobals fun g => { g with s_timerList := g.s_timerList ++ [(t, AtTok.atoi mode)] }) = w1 at h1 ⊢
    have howed : w1.completions t + w1.globals.s_timerList.countP (fun p => decide (p.1 = t)) = 1 := by
      have h := h1.owed t
      simpa [owed, waiting, hanswered, hwaiting, List.countP_append] using h
    have hans : w1.answers = w.answers := h1.answers
    have hlist : w1.globals.s_timerList =
        meanwhile.foldl leave (w.globals.s_timerList ++ [(t, AtTok.atoi mode)]) := by
      rw [h1.globals]
      rfl
    have hfailed : w1.completions t + (w1.globals.s_timerList.eraseP (·.1 = t)).countP (fun p => decide (p.1 = t)) = 0 ↔
        t ∈ w1.globals.s_timerList.map (·.1) := by
      have herase := countP_eraseP w1.globals.s_timerList t t
      by_cases hmem : t ∈ w1.globals.s_timerList.map (·.1)
      · simp only [hmem, and_self, if_true] at herase
        simp only [hmem, iff_true]
        omega
      · have hnone := not_waiting hmem
        simp only [hmem, and_false, if_false, hnone] at herase
        simp only [hmem, iff_false]
        omega
    rw [← hlist]
    cases ha : w.answers 0 with
    | failed => simpa [removeAsyncCmdList, hans, ha, owed, waiting, Answer.succeeds] using hfailed
    | response f ls =>
      cases hf : Command.isFinalResponseSuccess f with
      | true => simp [hans, ha, hf, owed, waiting, Answer.succeeds, howed]
      | false => simpa [removeAsyncCmdList, hans, ha, hf, owed, waiting, Answer.succeeds] using hfailed
  · simp only [setLock, hfd, if_false, wp_bind, false_implies, iff_true]
    rw [wp_of_returns (arrived_arriveAll meanwhile)]
    have h1 := rel_of_returns
      (arrived_arriveAll meanwhile : Returns _ (arriveAll meanwhile : Handler Slot Pointer Unit)) w
    generalize after (arriveAll meanwhile : Handler Slot Pointer Unit) w = w1 at h1 ⊢
    have howed : w1.completions t = 0 ∧ w1.globals.s_timerList.countP (fun p => decide (p.1 = t)) = 0 := by
      have h := h1.owed t
      simp only [owed, waiting, hanswered, hwaiting] at h
      omega
    simp [cacheString, cachePin, owed, waiting, howed.1, howed.2]

theorem once_requestFacilityLock (kind : FacilityRequest) (data : List (Option Line)) (count : Nat)
    (meanwhile : List Arrival) (hkind : kind = .SET_FACILITY_LOCK ∨ data.getD 1 none = some (ascii "2")) :
    Once t (requestFacilityLock kind data count meanwhile t) w ↔
      LockAnswerable kind data count meanwhile t w.answers w.allocates w.globals := by
  have howed : owed w t = 0 := by simp [owed, waiting, hanswered, hwaiting]
  have hend : ∀ type errnoType, wp (failLock type errnoType none t : Handler Slot Empty Unit)
      (fun _ w' => owed w' t = 1) (OnceEnd t) w := fun type errnoType => (wp_failLock type errnoType none t).2 howed
  simp only [Once, requestFacilityLock, LockAnswerable]
  generalize data.getD 0 none = s0, data.getD 1 none = s1, data.getD 2 none = s2, data.getD 3 none = s3 at hkind ⊢
  by_cases hcount : count = 5
  · cases hfacility : given s0 with
    | none => simp [hcount, hend]
    | some facility =>
      cases hmode : given s1 with
      | none => simp [hcount, hend]
      | some mode =>
        by_cases hset : kind = .SET_FACILITY_LOCK ∧ given s2 = none
        · simp [hcount, hset, hend]
        · have hgiven : kind = .SET_FACILITY_LOCK → ¬ given s2 = none := fun hk hs2 => hset ⟨hk, hs2⟩
          cases s3 with
          | none => simp [hcount, hset, hanswered]
          | some serviceText =>
            cases halloc : w.allocates 0 with
            | false => simp [hcount, hset, halloc, failLock, owed, waiting, hanswered, hwaiting]
            | true =>
              have hpassword : mode.head? ≠ some 50 → s2 ≠ none := by
                intro hne
                rcases hkind with rfl | rfl
                · rintro rfl
                  exact hgiven rfl rfl
                · cases hmode
                  exact absurd (by decide) hne
              simp [hcount, hset, halloc, wp_lockCommand]
              rw [forall_prop_of_true hgiven]
              by_cases hquery : mode.head? = some 50
              · simp only [hquery, if_true, forall_const, not_true, false_implies, and_true]
                exact wp_queryLock (w := w.asks) hanswered hwaiting kind _ facility _
              · simp only [hquery, if_false, forall_const, false_implies, true_and, not_false_eq_true]
                simpa using wp_setLock (w := w.asks) hanswered hwaiting (lockCommand facility mode serviceText s2)
                  facility mode s2 meanwhile (hpassword hquery)
  · simp [hcount, hend]

end

/-! ## All of them -/

theorem lockAnswerable_ext {data : List (Option Line)} {count : Nat} {meanwhile : List Arrival} {t : RIL_Token}
    {answers : Nat → Answer} {allocates : Nat → Bool} {g : Slot} :
    LockAnswerable .EXT_QUERY_FACILITY_LOCK data count meanwhile t answers allocates g ↔
      LockAnswerable .QUERY_FACILITY_LOCK data count meanwhile t answers allocates g := by
  simp [LockAnswerable]

/-- Some number of rounds ends the handler with one answer owed. -/
theorem once_processSimRequests (e : Surroundings) (r : Request) {t : RIL_Token} {w : World Slot} (htoken : t ≠ none)
    (hanswered : w.completions t = 0) (hwaiting : w.globals.s_timerList.countP (fun p => decide (p.1 = t)) = 0) :
    (∃ fuel, Once t (processSimRequests e fuel r t) w) ↔ Answerable e r t w.answers w.allocates w.globals := by
  have halways : ∀ {m : Handler Slot Empty Unit}, Once t m w → ((∃ _ : Nat, Once t m w) ↔ True) := by
    intro m h
    exact iff_of_true ⟨0, h⟩ trivial
  cases r with
  | GET_SIM_STATUS simmgr => exact (exists_const Nat).trans (once_requestGetSimStatus hanswered hwaiting simmgr)
  | ENTER_SIM_PIN strings => exact halways (once_requestEnterSimPin hanswered hwaiting strings)
  | ENTER_SIM_PIN2 pin2 => exact halways (once_requestEnterSimPin2 hanswered hwaiting pin2)
  | ENTER_SIM_PUK2 strings => exact halways (once_requestEnterSimPuk2 hanswered hwaiting strings)
  | CHANGE_SIM_PIN strings => exact (exists_const Nat).trans (once_requestChangeSimPin hanswered hwaiting strings)
  | CHANGE_SIM_PIN2 strings => exact halways (once_requestChangeSimPin2 hanswered hwaiting strings)
  | ENTER_NETWORK_DEPERSONALIZATION => exact halways (once_requestDepersonalization hanswered hwaiting)
  | GET_IMSI => exact halways (once_requestGetIMSI hanswered hwaiting)
  | SIM_IO p_args => exact (exists_const Nat).trans ( once_requestSIM_IO hanswered hwaiting p_args)
  | QUERY_FACILITY_LOCK strings =>
    exact (exists_const Nat).trans (once_requestFacilityLock hanswered hwaiting _ _ _ _ (.inr rfl))
  | EXT_QUERY_FACILITY_LOCK strings =>
    exact ((exists_const Nat).trans (once_requestFacilityLock hanswered hwaiting _ _ _ _ (.inr rfl))).trans
      lockAnswerable_ext
  | SET_FACILITY_LOCK strings =>
    exact (exists_const Nat).trans (once_requestFacilityLock hanswered hwaiting _ _ _ _ (.inl rfl))
  | SIM_TRANSMIT_APDU_BASIC p_args => exact halways (once_requestTransmitApduBasic hanswered hwaiting e.beyond p_args)
  | SIM_OPEN_CHANNEL params =>
    unfold processSimRequests
    by_cases hp2 : params.p2 < 0
    · simp only [hp2, if_true]
      exact (exists_const Nat).trans (once_openChannel hanswered hwaiting _ _ true)
    · simp only [hp2, if_false]
      exact (exists_const Nat).trans (once_openChannel hanswered hwaiting _ _ false)
  | SIM_CLOSE_CHANNEL session_id => exact halways (once_requestCloseLogicalChannel hanswered hwaiting session_id)
  | SIM_TRANSMIT_APDU_CHANNEL p_args =>
    exact exists_congr fun fuel => once_requestTransmitApdu hanswered hwaiting e.beyond fuel p_args
  | SIM_AUTHENTICATION sim_auth =>
    exact (exists_const Nat).trans (once_requestAuthentication hanswered hwaiting e.heap sim_auth)
  | GET_SIMLOCK_REMAIN_TIMES fac => exact halways (once_requestGetSimLockRemainTimes hanswered hwaiting fac)
  | SET_FACILITY_LOCK_FOR_USER data =>
    exact (exists_const Nat).trans (once_requestFacilityLockByUser hanswered hwaiting e.first data)
  | GET_SIMLOCK_STATUS fac => exact halways (once_requestGetSimLockStatus hanswered hwaiting fac)
  | GET_SIMLOCK_DUMMYS => exact halways (once_requestGetSimLockDummys hanswered hwaiting)
  | GET_SIMLOCK_WHITE_LIST data =>
    exact (exists_const Nat).trans (once_requestGetSimLockWhiteList hanswered hwaiting e.stackFits data)
  | INIT_ISIM strings => exact halways (once_requestInitISIM hanswered hwaiting strings)
  | ENABLE_IMS => exact halways (once_switchIms hanswered hwaiting _)
  | DISABLE_IMS => exact halways (once_switchIms hanswered hwaiting _)
  | SIMMGR_SIM_POWER => exact halways (once_notifySIMStatus hanswered hwaiting)
  | SIM_GET_ATR => exact halways (once_requestSIMGetAtr hanswered hwaiting)
  | SIM_POWER_REAL onOff =>
    exact (exists_const Nat).trans (iff_of_false (not_once_requestSIMPower hanswered hwaiting onOff htoken) not_false)
  | SET_SIM_CARD_POWER onOff => exact (exists_const Nat).trans (once_requestSIMPower hanswered hwaiting onOff htoken)
  | GET_SUBSIDYLOCK_STATUS => exact halways (once_requestGetSubsidyLock hanswered hwaiting e.stack)
  | GET_ICCID => exact halways (once_requestGetICCID hanswered hwaiting)

/-- **Every SIM request is answered once** iff the branch that loses or doubles its answer is not taken. -/
theorem answeredOnce_iff_answerable (e : Surroundings) (r : Request) (t : Nat) (answers : Nat → Answer)
    (allocates : Nat → Bool) (g : Slot) (hnew : some t ∉ g.s_timerList.map (·.1)) :
    AnsweredOnce e r t answers allocates g ↔ Answerable e r (some t) answers allocates g := by
  have honce := @once_processSimRequests e r (some t) (.start answers allocates g) (Option.some_ne_none t) rfl
    (not_waiting hnew)
  refine Iff.trans (exists_congr fun fuel => ?_) honce
  rw [wp_bind]
  exact wp_congr (fun _ w' => wp_arriveAll_timeout e.later (some t) w') fun _ _ => Iff.rfl

/-- The URC comes while AT+CLCK is out, and again behind the handler. -/
def urcFirst : Surroundings where
  beyond := fun _ => []
  heap := { bin := fun _ => 0, hex := fun _ => 0 }
  stackFits := fun _ => true
  stack := 0
  array := fun _ => 0
  first := true
  meanwhile := [.CLCK 1]
  later := [.CLCK 1]

/-- The lock of the fixed dialling numbers is closed. -/
def closeFD : Request :=
  .SET_FACILITY_LOCK [some (ascii "FD"), some (ascii "1"), some (ascii "1234"), some (ascii "7"), none]

theorem answeredOnce_iff_answerable_ok :
    AnsweredOnce urcFirst closeFD 1 (fun _ => .response (ascii "OK") []) (fun _ => true) idleSlot := by
  refine (answeredOnce_iff_answerable _ _ _ _ _ _ (by decide)).2 ?_
  intro facility mode _ _ hmode _
  have hok : Answer.succeeds (.response (ascii "OK") []) = true := by decide
  refine ⟨?_, ?_⟩
  · decide
  · intro _ _
    cases hmode
    rw [if_neg (by decide)]
    intro hfailed
    rw [hok] at hfailed
    cases hfailed

theorem completions_of_once {t : RIL_Token} {m : Handler Slot Empty Unit} {w : World Slot}
    (h : wp m (fun _ w' => w'.completions t = 1 ∧ waiting w' t = 0) (OnceEnd t) w) : (after m w).completions t = 1 := by
  rcases exists_of_wp h with ⟨a, w', hrun, hw'⟩ | ⟨e, w', hrun, hw'⟩
  · rw [after, hrun]
    exact hw'.1
  · rw [after, hrun]
    cases e with
    | goto l => exact hw'.elim
    | crashes => exact hw'
    | runsOn => exact hw'.elim

theorem answeredOnce_fails_refused :
    ¬ AnsweredOnce urcFirst closeFD 1 (fun _ => .response (ascii "ERROR") []) (fun _ => true) idleSlot := by
  rintro ⟨fuel, h⟩
  have honce := completions_of_once h
  simp only [closeFD, processSimRequests] at honce
  revert honce
  decide

end UniRil.Sim
