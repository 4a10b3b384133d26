import UniRil.Sim.Answered
import UniRil.Sim.PinCache

/-!
# The PIN that is entered without a request

A step saves the PIN that the modem accepts with it and leaves the saved one alone otherwise, and what it
enters on its own is what it finds saved. Nothing takes the saved PIN away with its card.
-/

namespace UniRil.Sim
open Flows Handlers FailRules
open AtTok (Line isdigit)
variable {ε α : Type}

/-- The cell is as it was, and no PIN was entered. -/
structure PinKept (w w' : World Slot) : Prop where
  AUTO_SAVE_PIN : w'.globals.AUTO_SAVE_PIN = w.globals.AUTO_SAVE_PIN
  SIM_PIN_PROP : w'.globals.SIM_PIN_PROP = w.globals.SIM_PIN_PROP
  automaticPins : w'.automaticPins = w.automaticPins

theorem pinKept_iff {w w' : World Slot} :
    PinKept w w' ↔ w'.globals.AUTO_SAVE_PIN = w.globals.AUTO_SAVE_PIN ∧
      w'.globals.SIM_PIN_PROP = w.globals.SIM_PIN_PROP ∧ w'.automaticPins = w.automaticPins :=
  ⟨fun h => ⟨h.1, h.2, h.3⟩, fun h => ⟨h.1, h.2.1, h.2.2⟩⟩

theorem PinKept.trans {w w1 w2 : World Slot} (h1 : PinKept w w1) (h2 : PinKept w1 w2) : PinKept w w2 where
  AUTO_SAVE_PIN := h2.AUTO_SAVE_PIN.trans h1.AUTO_SAVE_PIN
  SIM_PIN_PROP := h2.SIM_PIN_PROP.trans h1.SIM_PIN_PROP
  automaticPins := h2.automaticPins.trans h1.automaticPins

theorem automaticPins_arriveAll (as : List Arrival) :
    Returns (fun w w' => w'.automaticPins = w.automaticPins) (arriveAll as : Handler Slot ε Unit) := by
  rw [returns_iff]
  intro w
  induction as generalizing w with
  | nil => simp [arriveAll]
  | cons a as ih =>
    have hrest : ∀ w1, w1.automaticPins = w.automaticPins →
        wp (arriveAll as : Handler Slot ε Unit) (fun _ w' => w'.automaticPins = w.automaticPins)
          (fun _ _ => False) w1 := by
      intro w1 hw1
      refine wp_mono (ih w1) ?_ ?_
      · intro _ w2 h2
        exact h2.trans hw1
      · intro _ _ h
        exact h
    cases a with
    | CLCK status => simp [arriveAll, arrive, checkAndCompleteRequest, dispatchCLCK, hrest]
    | timeout t => simp [arriveAll, arrive, userTimerCallback, removeAsyncCmdList, hrest]

theorem pinKept_arriveAll (as : List Arrival) : Returns PinKept (arriveAll as : Handler Slot ε Unit) := by
  rw [returns_iff]
  intro w
  rw [wp_of_returns (arrived_arriveAll as)]
  have h := rel_of_returns (arrived_arriveAll as : Returns _ (arriveAll as : Handler Slot ε Unit)) w
  have hpins := rel_of_returns (automaticPins_arriveAll as : Returns _ (arriveAll as : Handler Slot ε Unit)) w
  rw [pinKept_iff, h.globals]
  exact ⟨rfl, rfl, hpins⟩

theorem pinKept_lockStatus (r : Response) (lines : List Line) (response : Int × Int) (serviceClass : Int)
    (w : World Slot) :
    wp (lockStatus r lines response serviceClass) (fun _ => PinKept w) (fun _ => PinKept w) w := by
  induction lines generalizing response serviceClass w with
  | nil => simp [lockStatus, pinKept_iff]
  | cons l lines ih =>
    have hrest : ∀ (w1 : World Slot) response c, PinKept w w1 →
        wp (lockStatus r lines response c) (fun _ => PinKept w) (fun _ => PinKept w) w1 := by
      intro w1 response c hw1
      refine wp_mono (ih response c w1) ?_ ?_
      · intro _ w2 h2
        exact hw1.trans h2
      · intro _ w2 h2
        exact hw1.trans h2
    simp [lockStatus, hrest, pinKept_iff]

theorem pinKept_queryLock (kind : FacilityRequest) (cmd facility : Line) (serviceClass : Int) (t : RIL_Token)
    (w : World Slot) :
    wp (queryLock kind cmd facility serviceClass t) (fun _ => PinKept w) (fun _ => PinKept w) w := by
  unfold queryLock
  simp only [wp_bind, wp_at_send_command_multiline]
  refine ⟨?_, ?_⟩
  · intro ha
    simp [pinKept_iff]
  · intro f ls ha
    cases hf : Command.isFinalResponseSuccess f with
    | false => simp [pinKept_iff]
    | true =>
      simp
      rcases exists_of_wp (pinKept_lockStatus
          ⟨w.given, true, f, Command.intermediatesOf .MULTILINE (ascii "+CLCK: ") ls⟩
          (Command.intermediatesOf .MULTILINE (ascii "+CLCK: ") ls) (0, 0) serviceClass
          ((w.sends cmd).gives.reads w.given)) with
        ⟨v, w1, hrun, hkept⟩ | ⟨e, w1, hrun, hkept⟩
      · rw [wp_of_ok hrun]
        rw [pinKept_iff] at hkept
        simp [queryFDNServiceAvailable, fdnAvailable, simIoResponse, pinKept_iff, hkept]
      · rw [wp_of_error hrun]
        rw [pinKept_iff] at hkept ⊢
        simpa using hkept

theorem pinKept_setLock (cmd facility mode : Line) (password : Option Line) (meanwhile : List Arrival) (t : RIL_Token)
    (w : World Slot) (hno : ¬ (facility = ascii "SC" ∧ Answer.succeeds (w.answers 0) = true)) :
    wp (setLock cmd facility mode password meanwhile t) (fun _ => PinKept w) (fun _ => PinKept w) w := by
  by_cases hfd : facility = ascii "FD"
  · simp only [setLock, addAsyncCmdList, hfd, if_true, wp_bind, wp_modifyGlobals]
    rw [wp_of_returns (pinKept_arriveAll meanwhile)]
    have h := rel_of_returns (pinKept_arriveAll meanwhile : Returns _ (arriveAll meanwhile : Handler Slot Pointer Unit))
      (w.setGlobals fun g => { g with s_timerList := g.s_timerList ++ [(t, AtTok.atoi mode)] })
    generalize after (arriveAll meanwhile : Handler Slot Pointer Unit)
      (w.setGlobals fun g => { g with s_timerList := g.s_timerList ++ [(t, AtTok.atoi mode)] }) = w1 at h ⊢
    rw [pinKept_iff] at h
    simp at h
    simp [removeAsyncCmdList, pinKept_iff, h]
  · simp only [setLock, hfd, if_false, wp_bind]
    rw [wp_of_returns (pinKept_arriveAll meanwhile)]
    have h := rel_of_returns (pinKept_arriveAll (ε := Pointer) meanwhile) w
    have h' := rel_of_returns (arrived_arriveAll (ε := Pointer) meanwhile) w
    generalize after (arriveAll meanwhile : Handler Slot Pointer Unit) w = w1 at h h' ⊢
    rw [pinKept_iff] at h
    simp [cacheString, cachePin, pinKept_iff, h, h'.answers]
    intro f ls ha hf hsc
    exact absurd ⟨hsc, succeeds_iff.2 ⟨f, ls, ha, hf⟩⟩ hno

/-- What stands at the label of the command leaves the PIN alone. -/
theorem pinKept_lockCommand (facility mode : Line) (type : Option Line) (p_response : Pointer) (t : RIL_Token)
    (w : World Slot) :
    wp (do
        let errnoType ← errnoOfLock facility mode p_response
        failLock type errnoType p_response t : Handler Slot ε Unit)
      (fun _ => PinKept w) (fun _ _ => False) w := by
  cases p_response with
  | none => simp [errnoOfLock, failLock, pinKept_iff]
  | some r => simp [errnoOfLock, failLock, pinKept_iff]

/-- What has been read back from the cell may have been entered. -/
structure Entered (w w' : World Slot) : Prop where
  AUTO_SAVE_PIN : w'.globals.AUTO_SAVE_PIN = w.globals.AUTO_SAVE_PIN
  SIM_PIN_PROP : w'.globals.SIM_PIN_PROP = w.globals.SIM_PIN_PROP
  automaticPins : w'.automaticPins = w.automaticPins ∨
    w'.automaticPins = w.automaticPins ++ [decryptPin (getProperty w.globals.SIM_PIN_PROP [])] ∧
      (decryptPin (getProperty w.globals.SIM_PIN_PROP [])).length = 4

theorem entered_iff {w w' : World Slot} :
    Entered w w' ↔ w'.globals.AUTO_SAVE_PIN = w.globals.AUTO_SAVE_PIN ∧
      w'.globals.SIM_PIN_PROP = w.globals.SIM_PIN_PROP ∧ (w'.automaticPins = w.automaticPins ∨
    w'.automaticPins = w.automaticPins ++ [decryptPin (getProperty w.globals.SIM_PIN_PROP [])] ∧
      (decryptPin (getProperty w.globals.SIM_PIN_PROP [])).length = 4) :=
  ⟨fun h => ⟨h.1, h.2, h.3⟩, fun h => ⟨h.1, h.2.1, h.2.2⟩⟩

theorem entered_getSIMStatus (simmgr : Bool) (w : World Slot) :
    wp (getSIMStatus simmgr : Handler Slot ε SimStatus) (fun _ => Entered w) (fun e w' => e = .crashes ∧ Entered w w')
      w := by
  by_cases hlen : (decryptPin (getProperty w.globals.SIM_PIN_PROP [])).length = 4
  · simp [getSIMStatus, querySIMStatus, simPin, entered_iff, hlen]
  · simp [getSIMStatus, querySIMStatus, simPin, entered_iff, hlen]

theorem entered_reportUnlocked (p_response : Pointer) (w : World Slot) :
    wp (reportUnlocked p_response : Handler Slot ε Unit) (fun _ => Entered w) (fun e w' => e = .crashes ∧ Entered w w')
      w := by
  unfold reportUnlocked
  rw [wp_bind]
  refine wp_mono (entered_getSIMStatus false w) ?_ ?_
  · intro status w' hw'
    rw [entered_iff] at hw'
    cases p_response with
    | none => simp [entered_iff, hw']
    | some r => simp [entered_iff, hw']
  · intro e w' hw'
    exact hw'

/-- What an action leaves: the new PIN is saved, and what is entered is what the cell holds. -/
structure Cached (newPin : Option Line) (g : Slot) (w' : World Slot) : Prop where
  AUTO_SAVE_PIN : w'.globals.AUTO_SAVE_PIN = g.AUTO_SAVE_PIN
  kept : newPin = none → w'.globals.SIM_PIN_PROP = g.SIM_PIN_PROP
  saved : ∀ pin, newPin = some pin → (∀ d ∈ pin, isdigit d = true) →
    ∃ rand outside, w'.globals.SIM_PIN_PROP = cstr (encryptPin rand outside pin)
  entered : w'.automaticPins = [] ∨
    w'.automaticPins = [decryptPin (getProperty w'.globals.SIM_PIN_PROP [])] ∧
      (decryptPin (getProperty w'.globals.SIM_PIN_PROP [])).length = 4

theorem cached_of_entered {newPin : Option Line} {g : Slot} {w w' : World Slot}
    (hauto : w.globals.AUTO_SAVE_PIN = g.AUTO_SAVE_PIN) (hnone : w.automaticPins = [])
    (hkept : newPin = none → w.globals.SIM_PIN_PROP = g.SIM_PIN_PROP)
    (hsaved : ∀ pin, newPin = some pin → (∀ d ∈ pin, isdigit d = true) →
      ∃ rand outside, w.globals.SIM_PIN_PROP = cstr (encryptPin rand outside pin))
    (h : Entered w w') : Cached newPin g w' := by
  constructor
  · exact h.AUTO_SAVE_PIN.trans hauto
  · intro hnew
    exact h.SIM_PIN_PROP.trans (hkept hnew)
  · intro pin hnew hdigits
    rw [h.SIM_PIN_PROP]
    exact hsaved pin hnew hdigits
  · rw [h.SIM_PIN_PROP]
    simpa [hnone] using h.automaticPins

theorem entered_refl (w : World Slot) : Entered w w := ⟨rfl, rfl, .inl rfl⟩

theorem cached_none_iff {g : Slot} {w : World Slot} :
    Cached none g w ↔ w.globals.AUTO_SAVE_PIN = g.AUTO_SAVE_PIN ∧ w.globals.SIM_PIN_PROP = g.SIM_PIN_PROP ∧
      (w.automaticPins = [] ∨ w.automaticPins = [decryptPin (getProperty w.globals.SIM_PIN_PROP [])] ∧
        (decryptPin (getProperty w.globals.SIM_PIN_PROP [])).length = 4) := by
  constructor
  · intro h
    exact ⟨h.AUTO_SAVE_PIN, h.kept rfl, h.entered⟩
  · rintro ⟨hauto, hkept, hentered⟩
    refine ⟨hauto, fun _ => hkept, ?_, hentered⟩
    intro pin hpin
    cases hpin

theorem not_digits_null : ¬ ∀ d ∈ ascii "(null)", isdigit d = true := by decide

theorem needCacheSimPin_after {m : Handler Slot ε α} {w : World Slot} (h : Returns Aside m) :
    needCacheSimPin (after m w).globals ↔ needCacheSimPin w.globals := by
  simp [needCacheSimPin, h]

theorem cached_saved {g : Slot} {pin : Option Line} {w w' : World Slot}
    (hauto : w.globals.AUTO_SAVE_PIN = g.AUTO_SAVE_PIN) (hempty : w.automaticPins = [])
    (hsaved : pin ≠ none → ∃ rand outside, w.globals.SIM_PIN_PROP = cstr (encryptPin rand outside (printed pin)))
    (h : Entered w w') : Cached (some (printed pin)) g w' := by
  refine cached_of_entered hauto hempty ?_ ?_ h
  · intro hnew
    cases hnew
  · intro p hnew hdigits
    cases hnew
    apply hsaved
    rintro rfl
    exact not_digits_null hdigits

/-- The end of `requestEnterSimPin`, where the PIN has been saved if there is one. -/
theorem cached_reportUnlocked {g : Slot} {pin : Option Line} {p_response : Pointer} {w : World Slot}
    {E : Exit ε → World Slot → Prop} (hauto : w.globals.AUTO_SAVE_PIN = g.AUTO_SAVE_PIN)
    (hempty : w.automaticPins = [])
    (hsaved : pin ≠ none → ∃ rand outside, w.globals.SIM_PIN_PROP = cstr (encryptPin rand outside (printed pin)))
    (hE : ∀ w', Cached (some (printed pin)) g w' → E .crashes w') :
    wp (reportUnlocked p_response) (fun _ => Cached (some (printed pin)) g) E w := by
  refine wp_mono (entered_reportUnlocked p_response w) ?_ ?_
  · intro _ w' h
    exact cached_saved hauto hempty hsaved h
  · rintro e w' ⟨rfl, h⟩
    exact hE w' (cached_saved hauto hempty hsaved h)

theorem cpinResultOf_eq_some {a : Answer} {result : Line} :
    cpinResultOf a = some result ↔
      ∃ f ls line, a = .response f ls ∧ Command.isFinalResponseSuccess f = true ∧
        Command.intermediatesOf .SINGLELINE (ascii "+CPIN:") ls = [line] ∧
        ∃ cur, AtTok.at_tok_start (some line) = some cur ∧ (AtTok.at_tok_nextstr (some cur)).value = some result := by
  simp only [cpinResultOf, Option.bind_eq_some_iff, lineOf_eq_some]
  constructor
  · rintro ⟨line, ⟨f, ls, ha, hf, hl⟩, cur, hc, hr⟩
    exact ⟨f, ls, line, ha, hf, hl, cur, hc, hr⟩
  · rintro ⟨f, ls, line, ha, hf, hl, cur, hc, hr⟩
    exact ⟨line, ⟨f, ls, ha, hf, hl⟩, cur, hc, hr⟩

/-- The request does not have a PIN accepted. -/
theorem cached_of_pinKept {w w' : World Slot} (hnone : w.automaticPins = []) (h : PinKept w w') :
    Cached none w.globals w' := by
  rw [cached_none_iff]
  exact ⟨h.AUTO_SAVE_PIN, h.SIM_PIN_PROP, .inl (h.automaticPins.trans hnone)⟩

/-- A lock without a new PIN: the command, and what stands at its label. -/
theorem cached_lock {w : World Slot} (hnone : w.automaticPins = []) (facility mode : Line) (type : Option Line)
    (m : Handler Slot Pointer Unit) (t : RIL_Token) {h : RIL_Errno → Handler Slot Empty Unit}
    (hm : wp m (fun _ => PinKept w.asks) (fun _ => PinKept w.asks) w.asks) :
    wp m (fun _ => Cached none w.globals)
      (atLabel (fun p_response => do
          let errnoType ← errnoOfLock facility mode p_response
          failLock type errnoType p_response t)
        (fun _ => Cached none w.globals)
        (atLabel h (fun _ => Cached none w.globals) (fun _ => Cached none w.globals))) w.asks := by
  have hcached : ∀ w', PinKept w.asks w' → Cached none w.globals w' := by
    intro w' h
    exact cached_of_pinKept hnone ⟨h.AUTO_SAVE_PIN, h.SIM_PIN_PROP, h.automaticPins⟩
  refine wp_mono hm ?_ ?_
  · intro _ w' hw'
    exact hcached w' hw'
  · rintro (p_response | _ | _) w' hw'
    · refine wp_mono (pinKept_lockCommand facility mode type p_response t w') ?_ ?_
      · intro _ w'' hw''
        exact hcached w'' (hw'.trans hw'')
      · intro _ _ hfalse
        exact hfalse.elim
    · exact hcached w' hw'
    · exact hcached w' hw'

section

variable {w : World Slot} (hcaching : needCacheSimPin w.globals) (hnone : w.automaticPins = [])
include hcaching hnone

theorem cached_requestEnterSimPin (strings : List (Option Line)) (t : RIL_Token) :
    wp (requestEnterSimPin strings t : Handler Slot Empty Unit)
      (fun _ => Cached (Action.newPin w.answers w.allocates (.requestEnterSimPin strings t)) w.globals)
      (fun _ => Cached (Action.newPin w.answers w.allocates (.requestEnterSimPin strings t)) w.globals) w := by
  by_cases h2 : strings.length = 2
  · by_cases hok : w.allocates 0 = true ∧ Answer.succeeds (w.answers 0) = true
    · obtain ⟨halloc, hsucc⟩ := hok
      obtain ⟨f, ls, ha, hf⟩ := succeeds_iff.1 hsucc
      simp [requestEnterSimPin, unlockCommand, Action.newPin, h2, halloc, ha, hf, Answer.succeeds, cachePin, hcaching]
      constructor
      · intro hpin
        exact cached_reportUnlocked (by simp) (by simp [hnone])
          (fun _ => ⟨w.globals.rand, w.globals.outside, by simp⟩) (by simp)
      · intro hpin
        exact cached_reportUnlocked (by simp) (by simp [hnone]) (fun h => absurd hpin h) (by simp)
    · have hnew : Action.newPin w.answers w.allocates (.requestEnterSimPin strings t) = none := by
        simp only [Action.newPin, h2, if_true, hok, if_false]
      rw [hnew]
      simp [requestEnterSimPin, unlockCommand, h2, cached_none_iff, hnone]
      intro halloc f ls ha hf
      exact absurd ⟨halloc, succeeds_iff.2 ⟨f, ls, ha, hf⟩⟩ hok
  · by_cases h3 : strings.length = 3
    · by_cases hok : cpinResultOf (w.answers 0) ≠ none ∧ w.allocates 0 = true ∧ Answer.succeeds (w.answers 1) = true
      · obtain ⟨hcpin, halloc, hsucc⟩ := hok
        obtain ⟨result, hresult⟩ := Option.ne_none_iff_exists'.1 hcpin
        obtain ⟨f, ls, line, ha, hf, hl, cur, hc, hr⟩ := cpinResultOf_eq_some.1 hresult
        obtain ⟨f', ls', ha', hf'⟩ := succeeds_iff.1 hsucc
        have hnew : Action.newPin w.answers w.allocates (.requestEnterSimPin strings t) =
            some (printed (strings.getD 1 none)) := by
          rw [Action.newPin, if_neg h2, if_pos ⟨h3, hcpin, halloc, hsucc⟩]
        rw [hnew]
        simp [requestEnterSimPin, unlockCommand, h3, ha, hf, hl, hc, hr, halloc, ha', hf', cachePin, hcaching]
        constructor
        · intro hpin
          exact cached_reportUnlocked (by simp) (by simp [hnone])
            (fun _ => ⟨w.globals.rand, w.globals.outside, by simp⟩) (by simp)
        · intro hpin
          exact cached_reportUnlocked (by simp) (by simp [hnone]) (fun h => absurd hpin h) (by simp)
      · have hnew : Action.newPin w.answers w.allocates (.requestEnterSimPin strings t) = none := by
          rw [Action.newPin, if_neg h2, if_neg (fun h => hok h.2)]
        rw [hnew]
        simp [requestEnterSimPin, unlockCommand, h3, cached_none_iff, hnone]
        intro f ls ha line hf hl cur hc result hr halloc f' ls' ha' hf'
        refine absurd ⟨?_, halloc, succeeds_iff.2 ⟨f', ls', ha', hf'⟩⟩ hok
        rw [cpinResultOf_eq_some.2 ⟨f, ls, line, ha, hf, hl, cur, hc, hr⟩]
        exact Option.some_ne_none _
    · simp [requestEnterSimPin, unlockCommand, Action.newPin, h2, h3, cached_none_iff, hnone]

theorem cached_requestChangeSimPin (strings : List (Option Line)) (t : RIL_Token) :
    wp (requestChangeSimPin strings t : Handler Slot Empty Unit)
      (fun _ => Cached (Action.newPin w.answers w.allocates (.requestChangeSimPin strings t)) w.globals)
      (fun _ => Cached (Action.newPin w.answers w.allocates (.requestChangeSimPin strings t)) w.globals) w := by
  by_cases h3 : strings.length = 3
  · by_cases hok : cpinResultOf (w.answers 0) ≠ none ∧ w.allocates 0 = true ∧ Answer.succeeds (w.answers 1) = true
    · obtain ⟨hcpin, halloc, hsucc⟩ := hok
      obtain ⟨result, hresult⟩ := Option.ne_none_iff_exists'.1 hcpin
      obtain ⟨f, ls, line, ha, hf, hl, cur, hc, hr⟩ := cpinResultOf_eq_some.1 hresult
      obtain ⟨f', ls', ha', hf'⟩ := succeeds_iff.1 hsucc
      rw [Action.newPin, if_pos ⟨h3, hcpin, halloc, hsucc⟩]
      simp [requestChangeSimPin, changePin, changeCommand, cacheString, h3, ha, hf, hl, hc, hr, halloc, ha', hf',
        cachePin, needCacheSimPin_after, hcaching]
      constructor
      · intro pin hpin
        exact cached_saved (by simp) (by simp [hnone]) (fun _ => ⟨_, _, by rw [hpin]; rfl⟩) (entered_refl _)
      · intro hpin
        exact cached_saved (by simp) (by simp [hnone]) (fun h => absurd hpin h) (entered_refl _)
    · rw [Action.newPin, if_neg (fun h => hok h.2)]
      simp [requestChangeSimPin, changePin, changeCommand, cacheString, cachePin, h3, cached_none_iff, hnone]
      intro f ls ha line hf hl cur hc result hr halloc f' ls' ha' hf'
      refine absurd ⟨?_, halloc, succeeds_iff.2 ⟨f', ls', ha', hf'⟩⟩ hok
      rw [cpinResultOf_eq_some.2 ⟨f, ls, line, ha, hf, hl, cur, hc, hr⟩]
      exact Option.some_ne_none _
  · rw [Action.newPin, if_neg (fun h => h3 h.1)]
    simp [requestChangeSimPin, changePin, changeCommand, cacheString, cachePin, h3, cached_none_iff, hnone]

theorem cached_setLock_SC (cmd mode : Line) (password : Option Line) (meanwhile : List Arrival) (t : RIL_Token)
    (hsucc : Answer.succeeds (w.answers 0) = true) :
    wp (setLock cmd (ascii "SC") mode password meanwhile t) (fun _ => Cached (some (printed password)) w.globals)
      (fun e w' => e = .crashes ∧ Cached (some (printed password)) w.globals w') w := by
  have hfd : ascii "SC" ≠ ascii "FD" := by decide
  obtain ⟨f, ls, ha, hf⟩ := succeeds_iff.1 hsucc
  simp only [setLock, hfd, if_false, wp_bind]
  rw [wp_of_returns (pinKept_arriveAll meanwhile)]
  have h := rel_of_returns (pinKept_arriveAll (ε := Pointer) meanwhile) w
  have h' := rel_of_returns (arrived_arriveAll (ε := Pointer) meanwhile) w
  generalize after (arriveAll meanwhile : Handler Slot Pointer Unit) w = w1 at h h' ⊢
  have hcaching' : needCacheSimPin w1.globals := by simpa [needCacheSimPin, h.AUTO_SAVE_PIN] using hcaching
  simp [cacheString, cachePin, h'.answers, ha, hf, hcaching']
  have hauto := h.AUTO_SAVE_PIN
  have hpins := h.automaticPins.trans hnone
  constructor
  · intro pin hpin
    exact cached_saved (by simp [hauto]) (by simp [hpins])
      (fun _ => ⟨w1.globals.rand, w1.globals.outside, by simp [hpin, printed]⟩) (entered_refl _)
  · intro hpin
    exact cached_saved (by simp [hauto]) (by simp [hpins]) (fun hne => absurd hpin hne) (entered_refl _)

theorem cached_requestFacilityLock (kind : FacilityRequest) (data : List (Option Line)) (count : Nat)
    (meanwhile : List Arrival) (t : RIL_Token) {newPin : Option Line}
    (hnew : Action.newPin w.answers w.allocates (.requestFacilityLock kind data count meanwhile t) = newPin) :
    wp (requestFacilityLock kind data count meanwhile t : Handler Slot Empty Unit)
      (fun _ => Cached newPin w.globals) (fun _ => Cached newPin w.globals) w := by
  subst hnew
  simp only [requestFacilityLock, Action.newPin]
  generalize data.getD 0 none = s0, data.getD 1 none = s1, data.getD 2 none = s2, data.getD 3 none = s3
  by_cases hcount : count = 5
  · cases hfacility : given s0 with
    | none => simp [hcount, failLock, cached_none_iff, hnone]
    | some facility =>
      cases hmode : given s1 with
      | none => simp [hcount, failLock, cached_none_iff, hnone]
      | some mode =>
        by_cases hset : kind = .SET_FACILITY_LOCK ∧ given s2 = none
        · simp [hcount, hset, failLock, cached_none_iff, hnone]
        · have hgiven : kind = .SET_FACILITY_LOCK → ¬ given s2 = none := fun hk hs2 => hset ⟨hk, hs2⟩
          cases s3 with
          | none => simp [hcount, hset, cached_none_iff, hnone]
          | some serviceText =>
            cases halloc : w.allocates 0 with
            | false => simp [hcount, hset, halloc, failLock, cached_none_iff, hnone]
            | true =>
              simp [hcount, hset, halloc]
              constructor
              · intro hquery
                rw [if_neg (fun h => h.2.1 hquery)]
                exact cached_lock hnone _ _ _ _ _ (pinKept_queryLock kind _ facility _ t w.asks)
              · intro hquery
                by_cases hok : facility = ascii "SC" ∧ Answer.succeeds (w.answers 0) = true
                · obtain ⟨rfl, hsucc⟩ := hok
                  rw [if_pos ⟨rfl, hquery, hgiven, hsucc⟩]
                  refine wp_mono (cached_setLock_SC (w := w.asks) hcaching hnone _ mode s2 meanwhile t hsucc) ?_ ?_
                  · intro _ w' hw'
                    exact hw'
                  · rintro e w' ⟨rfl, hw'⟩
                    exact hw'
                · rw [if_neg (fun h => hok ⟨h.1, h.2.2.2⟩)]
                  exact cached_lock hnone _ _ _ _ _ (pinKept_setLock _ facility mode s2 meanwhile t w.asks hok)
  · simp [hcount, failLock, cached_none_iff, hnone]

theorem cached_run (a : Action) :
    wp a.run (fun _ => Cached (a.newPin w.answers w.allocates) w.globals)
      (fun _ => Cached (a.newPin w.answers w.allocates) w.globals) w := by
  cases a with
  | requestEnterSimPin strings t => exact cached_requestEnterSimPin hcaching hnone strings t
  | requestChangeSimPin strings t => exact cached_requestChangeSimPin hcaching hnone strings t
  | requestFacilityLock kind data count meanwhile t =>
    exact cached_requestFacilityLock hcaching hnone kind data count meanwhile t rfl
  | getSIMStatus simmgr =>
    simp only [Action.run, Action.newPin, wp_bind]
    have hcached : ∀ w', Entered w w' → Cached none w.globals w' := by
      intro w' h
      exact cached_of_entered rfl hnone (fun _ => rfl) (fun _ hnew => by cases hnew) h
    refine wp_mono (entered_getSIMStatus simmgr w) ?_ ?_
    · intro _ w' h
      exact hcached w' h
    · intro _ w' h
      exact hcached w' h.2
  | onSimStatusChanged s => simp [Action.run, Action.newPin, onSimStatusChanged, reportAbsent, cached_none_iff, hnone]
  | modemAssert => simp [Action.run, Action.newPin, onModemReset_Sim, cached_none_iff, hnone]
  | elsewhere other => simp [Action.run, Action.newPin, cached_none_iff, hnone]

end

/-! ## The saved PIN along a run -/

/-- The PIN is saved at all, and the PIN that the modem accepted last is what reads back. -/
structure Saved (c : Card) : Prop where
  caching : needCacheSimPin c.slot
  reads_back : ∀ pin, c.accepted = some pin → (∀ d ∈ pin, isdigit d = true) → pin.length = 4 →
    decryptPin (getProperty c.slot.SIM_PIN_PROP []) = pin

theorem cached_world {c : Card} (hcaching : needCacheSimPin c.slot) (s : Step) :
    Cached (s.action.newPin s.answers s.allocates) c.slot (s.world c.slot) :=
  after_of_ends (cached_run (w := .start s.answers s.allocates c.slot) hcaching rfl s.action)

/-- What the step leaves in the cell reads back as the accepted PIN, unless the card is gone. -/
theorem reads_back_step {c : Card} (h : Saved c) (s : Step) {pin : Line} (hpin : s.accepted c.accepted = some pin)
    (hdigits : ∀ d ∈ pin, isdigit d = true) (hlen : pin.length = 4) :
    decryptPin (getProperty (s.world c.slot).globals.SIM_PIN_PROP []) = pin := by
  have hworld := cached_world h.caching s
  rw [Step.accepted] at hpin
  split at hpin
  · cases hpin
  · cases hnew : s.action.newPin s.answers s.allocates with
    | none =>
      rw [hnew, Option.none_or] at hpin
      rw [hworld.kept hnew]
      exact h.reads_back pin hpin hdigits hlen
    | some new =>
      rw [hnew, Option.some_or] at hpin
      cases hpin
      obtain ⟨rand, outside, hsaved⟩ := hworld.saved pin hnew hdigits
      rw [hsaved]
      exact decryptPin_encryptPin rand outside hdigits (by omega)

theorem saved_step {c c' : Card} {s : Step} (h : Saved c) (hstep : pinStep c s = some c') : Saved c' := by
  obtain rfl : _ = c' := Option.some.inj hstep
  constructor
  · have hworld := cached_world h.caching s
    have hcaching := h.caching
    rw [needCacheSimPin] at hcaching ⊢
    rw [hworld.AUTO_SAVE_PIN]
    exact hcaching
  · intro pin hpin hdigits hlen
    exact reads_back_step h s hpin hdigits hlen

theorem entersAccepted_iff {c : Card} (h : Saved c) (s : Step) : EntersAccepted c s ↔ AcceptedSinceRemoval c s := by
  rcases (cached_world h.caching s).entered with hnone | ⟨hentered, hlen⟩
  · simp [EntersAccepted, AcceptedSinceRemoval, hnone]
  · constructor
    · intro haccepted _
      refine ⟨_, haccepted _ ?_, hlen, isdigit_decryptPin _⟩
      rw [hentered, List.mem_singleton]
    · rintro hsince pin hpin
      obtain ⟨accepted, haccepted, hlen', hdigits⟩ := hsince (by simp [hentered])
      rw [hentered, List.mem_singleton] at hpin
      rw [hpin, reads_back_step h s haccepted hdigits hlen']
      exact haccepted

/-- **What a slot enters on its own is the PIN that the modem accepted last for the card**, exactly when
there has been one since a card was removed and it has four digits. -/
theorem entersAccepted_iff_acceptedSinceRemoval (c : Card) (run : List Step) (hcaching : needCacheSimPin c.slot)
    (hfirst : c.accepted = none) :
    Runs.Steps pinStep EntersAccepted c run ↔ Runs.Steps pinStep AcceptedSinceRemoval c run := by
  have hsaved : Saved c := by
    refine ⟨hcaching, ?_⟩
    intro pin hpin
    rw [hfirst] at hpin
    cases hpin
  exact Runs.steps_iff_steps (fun _ _ _ h _ hstep => saved_step h hstep) (fun _ s h => entersAccepted_iff h s) hsaved
    run

/-! ## Two runs -/

def firstCard : Card := { slot := idleSlot, accepted := none }

/-- The modem accepts every command, and the card wants its PIN. -/
def wantsPin : Nat → Answer
  | 0 => .response (ascii "OK") [ascii "+CPIN: SIM PIN"]
  | _ => .response (ascii "OK") []

def Action.answered (action : Action) : Step := { action := action, answers := wantsPin, allocates := fun _ => true }

def enter1234 : Step := Action.answered (.requestEnterSimPin [some (ascii "1234"), none] (some 1))

theorem entersAccepted_reboot :
    Runs.Steps pinStep EntersAccepted firstCard
      [enter1234, Action.answered .modemAssert, Action.answered (.getSIMStatus false)] :=
  (entersAccepted_iff_acceptedSinceRemoval firstCard _ (by decide) rfl).2 (by decide)

/-- Another card is put in before the modem restarts. -/
theorem entersAccepted_fails_other_card :
    ¬ Runs.Steps pinStep EntersAccepted firstCard
      [enter1234, Action.answered (.onSimStatusChanged (ascii "+ECIND: 3,1,34")),
        Action.answered (.onSimStatusChanged (ascii "+ECIND: 3,0,0")), Action.answered .modemAssert,
        Action.answered (.getSIMStatus false)] := by
  decide

end UniRil.Sim
