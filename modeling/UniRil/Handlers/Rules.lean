import UniRil.Handlers.Code

/-!
# Rules for request handlers

What has to hold before each of the functions a handler is made of. A send has one case for each thing
the modem can do.
-/

namespace UniRil.Handlers

open Flows
open Command (isFinalResponseSuccess intermediatesOf ATCommandType)
open AtTok (Line)

variable {γ ε α : Type} {E : Exit ε → World γ → Prop} {w : World γ}

/-! ## What the changes of the world leave alone -/

section

variable (e : Event) (cmd : Line) (h : Nat) (t : RIL_Token) (f : γ → γ)

@[simp] theorem answers_note : (w.note e).answers = w.answers := rfl
@[simp] theorem answers_sends : (w.sends cmd).answers = fun n => w.answers (n + 1) := rfl
@[simp] theorem answers_gives : w.gives.answers = w.answers := rfl
@[simp] theorem answers_reads : (w.reads h).answers = w.answers := rfl
@[simp] theorem answers_frees : (w.frees h).answers = w.answers := rfl
@[simp] theorem answers_asks : w.asks.answers = w.answers := rfl
@[simp] theorem answers_setGlobals : (w.setGlobals f).answers = w.answers := rfl

@[simp] theorem allocates_note : (w.note e).allocates = w.allocates := rfl
@[simp] theorem allocates_sends : (w.sends cmd).allocates = w.allocates := rfl
@[simp] theorem allocates_gives : w.gives.allocates = w.allocates := rfl
@[simp] theorem allocates_reads : (w.reads h).allocates = w.allocates := rfl
@[simp] theorem allocates_frees : (w.frees h).allocates = w.allocates := rfl
@[simp] theorem allocates_asks : w.asks.allocates = fun n => w.allocates (n + 1) := rfl
@[simp] theorem allocates_setGlobals : (w.setGlobals f).allocates = w.allocates := rfl

@[simp] theorem globals_note : (w.note e).globals = w.globals := rfl
@[simp] theorem globals_sends : (w.sends cmd).globals = w.globals := rfl
@[simp] theorem globals_gives : w.gives.globals = w.globals := rfl
@[simp] theorem globals_reads : (w.reads h).globals = w.globals := rfl
@[simp] theorem globals_frees : (w.frees h).globals = w.globals := rfl
@[simp] theorem globals_asks : w.asks.globals = w.globals := rfl
@[simp] theorem globals_setGlobals : (w.setGlobals f).globals = f w.globals := rfl

@[simp] theorem given_note : (w.note e).given = w.given := rfl
@[simp] theorem given_sends : (w.sends cmd).given = w.given := rfl
@[simp] theorem given_gives : w.gives.given = w.given + 1 := rfl
@[simp] theorem given_reads : (w.reads h).given = w.given := rfl
@[simp] theorem given_frees : (w.frees h).given = w.given := rfl
@[simp] theorem given_asks : w.asks.given = w.given := rfl
@[simp] theorem given_setGlobals : (w.setGlobals f).given = w.given := rfl

@[simp] theorem live_note : (w.note e).live = w.live := rfl
@[simp] theorem live_sends : (w.sends cmd).live = w.live := rfl
@[simp] theorem live_gives : w.gives.live = w.given :: w.live := rfl
@[simp] theorem live_reads : (w.reads h).live = w.live := rfl
@[simp] theorem live_frees : (w.frees h).live = w.live.erase h := rfl
@[simp] theorem live_asks : w.asks.live = w.live := rfl
@[simp] theorem live_setGlobals : (w.setGlobals f).live = w.live := rfl

@[simp] theorem misused_note : (w.note e).misused = w.misused := rfl
@[simp] theorem misused_sends : (w.sends cmd).misused = w.misused := rfl
@[simp] theorem misused_gives : w.gives.misused = w.misused := rfl
@[simp] theorem misused_reads : (w.reads h).misused = (w.misused || decide (h ∉ w.live)) := rfl
@[simp] theorem misused_frees : (w.frees h).misused = (w.misused || decide (h ∉ w.live)) := rfl
@[simp] theorem misused_asks : w.asks.misused = w.misused := rfl
@[simp] theorem misused_setGlobals : (w.setGlobals f).misused = w.misused := rfl

@[simp] theorem log_note : (w.note e).log = w.log ++ [e] := rfl
@[simp] theorem log_sends : (w.sends cmd).log = w.log ++ [.at_send_command cmd] := rfl
@[simp] theorem log_gives : w.gives.log = w.log := rfl
@[simp] theorem log_reads : (w.reads h).log = w.log := rfl
@[simp] theorem log_frees : (w.frees h).log = w.log := rfl
@[simp] theorem log_asks : w.asks.log = w.log := rfl
@[simp] theorem log_setGlobals : (w.setGlobals f).log = w.log := rfl

@[simp] theorem answers_withGlobals {γ' : Type} (g : γ') : (w.withGlobals g).answers = w.answers := rfl
@[simp] theorem globals_withGlobals {γ' : Type} (g : γ') : (w.withGlobals g).globals = g := rfl
@[simp] theorem completions_withGlobals {γ' : Type} (g : γ') : (w.withGlobals g).completions t = w.completions t := (rfl)

@[simp] theorem completions_note : (w.note e).completions t = w.completions t + if e.completes t then 1 else 0 := by
  simp [World.completions, World.note, List.countP_append, List.countP_cons]

@[simp] theorem completions_sends : (w.sends cmd).completions t = w.completions t := by
  simp [World.completions, World.sends, List.countP_append, Event.completes]

@[simp] theorem automaticPins_note : (w.note e).automaticPins = w.automaticPins ++ e.automatic.toList := by
  cases h : e.automatic with
  | none => simp [World.automaticPins, World.note, List.filterMap_append, h]
  | some pin => simp [World.automaticPins, World.note, List.filterMap_append, h]

@[simp] theorem automaticPins_sends : (w.sends cmd).automaticPins = w.automaticPins := by
  simp [World.automaticPins, World.sends, List.filterMap_append, Event.automatic]

@[simp] theorem automaticPins_gives : w.gives.automaticPins = w.automaticPins := rfl
@[simp] theorem automaticPins_reads : (w.reads h).automaticPins = w.automaticPins := rfl
@[simp] theorem automaticPins_frees : (w.frees h).automaticPins = w.automaticPins := rfl
@[simp] theorem automaticPins_asks : w.asks.automaticPins = w.automaticPins := rfl
@[simp] theorem automaticPins_setGlobals : (w.setGlobals f).automaticPins = w.automaticPins := rfl

-- with `(rfl)` each of these is a step of the proof: by unfolding, the texts of the logs would be compared
@[simp] theorem completions_gives : w.gives.completions t = w.completions t := (rfl)
@[simp] theorem completions_reads : (w.reads h).completions t = w.completions t := (rfl)
@[simp] theorem completions_frees : (w.frees h).completions t = w.completions t := (rfl)
@[simp] theorem completions_asks : w.asks.completions t = w.completions t := (rfl)
@[simp] theorem completions_setGlobals : (w.setGlobals f).completions t = w.completions t := (rfl)

end

/-! ## Memory, answers, globals -/

section

variable {Q : PUnit → World γ → Prop}

@[simp ↓] theorem wp_touch (r : Response) :
    wp (touch r : Handler γ ε Unit) Q E w ↔ Q ⟨⟩ (w.reads r.handle) := Iff.rfl

@[simp ↓] theorem wp_at_response_free_none :
    wp (at_response_free none : Handler γ ε Unit) Q E w ↔ Q ⟨⟩ w := Iff.rfl

@[simp ↓] theorem wp_at_response_free_some (r : Response) :
    wp (at_response_free (some r) : Handler γ ε Unit) Q E w ↔ Q ⟨⟩ (w.frees r.handle) := Iff.rfl

@[simp ↓] theorem wp_RIL_onRequestComplete (t : RIL_Token) (e : RIL_Errno) (response : Payload) :
    wp (RIL_onRequestComplete t e response : Handler γ ε Unit) Q E w ↔
      Q ⟨⟩ (w.note (.RIL_onRequestComplete t e response)) := Iff.rfl

@[simp ↓] theorem wp_RIL_onUnsolicitedResponse (code : Unsolicited) :
    wp (RIL_onUnsolicitedResponse code : Handler γ ε Unit) Q E w ↔
      Q ⟨⟩ (w.note (.RIL_onUnsolicitedResponse code)) := Iff.rfl

@[simp ↓] theorem wp_RIL_onUnsolicitedText (code : Unsolicited) (text : Line) :
    wp (RIL_onUnsolicitedText code text : Handler γ ε Unit) Q E w ↔
      Q ⟨⟩ (w.note (.RIL_onUnsolicitedText code text)) := Iff.rfl

@[simp ↓] theorem wp_RIL_requestTimedCallback (callback : Callback) :
    wp (RIL_requestTimedCallback callback : Handler γ ε Unit) Q E w ↔
      Q ⟨⟩ (w.note (.RIL_requestTimedCallback callback)) := Iff.rfl

@[simp ↓] theorem wp_modifyGlobals (f : γ → γ) :
    wp (modifyGlobals f : Handler γ ε Unit) Q E w ↔ Q ⟨⟩ (w.setGlobals f) := Iff.rfl

end

@[simp ↓] theorem wp_getGlobals {Q : γ → World γ → Prop} :
    wp (getGlobals : Handler γ ε γ) Q E w ↔ Q w.globals w := by
  simp [getGlobals]

@[simp ↓] theorem wp_allocated {Q : Bool → World γ → Prop} :
    wp (allocated : Handler γ ε Bool) Q E w ↔ Q (w.allocates 0) w.asks := Iff.rfl

@[simp] theorem completes_complete (t t' : RIL_Token) (e : RIL_Errno) (response : Payload) :
    (Event.RIL_onRequestComplete t' e response).completes t = decide (t' = t) := rfl

@[simp] theorem completes_unsolicited (t : RIL_Token) (code : Unsolicited) :
    (Event.RIL_onUnsolicitedResponse code).completes t = false := rfl

@[simp] theorem completes_unsolicitedText (t : RIL_Token) (code : Unsolicited) (text : Line) :
    (Event.RIL_onUnsolicitedText code text).completes t = false := rfl

@[simp] theorem completes_callback (t : RIL_Token) (callback : Callback) :
    (Event.RIL_requestTimedCallback callback).completes t = false := rfl

@[simp] theorem completes_automaticPin (t : RIL_Token) (pin : Line) :
    (Event.automaticPin pin).completes t = false := rfl

@[simp] theorem automatic_complete (t : RIL_Token) (e : RIL_Errno) (response : Payload) :
    (Event.RIL_onRequestComplete t e response).automatic = none := rfl

@[simp] theorem automatic_unsolicited (code : Unsolicited) :
    (Event.RIL_onUnsolicitedResponse code).automatic = none := rfl

@[simp] theorem automatic_unsolicitedText (code : Unsolicited) (text : Line) :
    (Event.RIL_onUnsolicitedText code text).automatic = none := rfl

@[simp] theorem automatic_callback (callback : Callback) :
    (Event.RIL_requestTimedCallback callback).automatic = none := rfl

@[simp] theorem automatic_automaticPin (pin : Line) : (Event.automaticPin pin).automatic = some pin := rfl

@[simp ↓] theorem wp_within {γ' : Type} {view : γ' → γ} {update : γ → γ' → γ'} {m : Handler γ ε α}
    {Q : α → World γ' → Prop} {E : Exit ε → World γ' → Prop} {w : World γ'} :
    wp (within view update m) Q E w ↔
      wp m (fun a w' => Q a (w'.withGlobals (update w'.globals w.globals)))
        (fun e w' => E e (w'.withGlobals (update w'.globals w.globals))) (w.withGlobals (view w.globals)) := by
  unfold wp within
  rcases m (w.withGlobals (view w.globals)) with ⟨r, w'⟩
  cases r
  all_goals rfl

/-! ## Sends -/

section

variable {Q : Sent → World γ → Prop} (cmd responsePrefix : Line) (p_response : Pointer)

theorem wp_at_send_command_full (type : ATCommandType) :
    wp (at_send_command_full type responsePrefix cmd p_response) Q E w ↔
      (w.answers 0 = .failed → Q ⟨false, p_response⟩ (w.sends cmd)) ∧
      ∀ f ls, w.answers 0 = .response f ls →
        Q ⟨true, some ⟨w.given, isFinalResponseSuccess f, f, intermediatesOf type responsePrefix ls⟩⟩
          (w.sends cmd).gives := by
  unfold wp at_send_command_full
  cases w.answers 0 with
  | failed => simp
  | response f ls => simp

@[simp ↓] theorem wp_at_send_command :
    wp (at_send_command cmd p_response) Q E w ↔
      (w.answers 0 = .failed → Q ⟨false, p_response⟩ (w.sends cmd)) ∧
      ∀ f ls, w.answers 0 = .response f ls →
        Q ⟨true, some ⟨w.given, isFinalResponseSuccess f, f, []⟩⟩ (w.sends cmd).gives := by
  have hnone : ∀ ls, intermediatesOf .NO_RESULT [] ls = [] := by
    intro ls
    rw [Command.intermediatesOf_eq_nil]
    intro l _
    rfl
  simp [at_send_command, wp_at_send_command_full, hnone]

@[simp ↓] theorem wp_at_send_command_multiline :
    wp (at_send_command_multiline cmd responsePrefix p_response) Q E w ↔
      (w.answers 0 = .failed → Q ⟨false, p_response⟩ (w.sends cmd)) ∧
      ∀ f ls, w.answers 0 = .response f ls →
        Q ⟨true, some ⟨w.given, isFinalResponseSuccess f, f, intermediatesOf .MULTILINE responsePrefix ls⟩⟩
          (w.sends cmd).gives :=
  wp_at_send_command_full cmd responsePrefix p_response .MULTILINE

/-- A command that keeps one line at most. -/
theorem intermediatesOf_single {type : ATCommandType} (h : type.many = false) (ls : List Line) :
    intermediatesOf type responsePrefix ls = [] ∨ ∃ l, intermediatesOf type responsePrefix ls = [l] := by
  rw [intermediatesOf, if_neg (by simp [h])]
  cases ls.filter (Command.fits type responsePrefix) with
  | nil => exact .inl rfl
  | cons l rest => exact .inr ⟨l, rfl⟩

theorem wp_withIntermediate {type : ATCommandType} (h : type.many = false) :
    wp (at_send_command_full type responsePrefix cmd p_response >>= withIntermediate) Q E w ↔
      (w.answers 0 = .failed → Q ⟨false, p_response⟩ (w.sends cmd)) ∧
      ∀ f ls, w.answers 0 = .response f ls →
        (isFinalResponseSuccess f = false →
          Q ⟨true, some ⟨w.given, false, f, intermediatesOf type responsePrefix ls⟩⟩ (w.sends cmd).gives) ∧
        (isFinalResponseSuccess f = true → intermediatesOf type responsePrefix ls = [] →
          Q ⟨false, none⟩ ((w.sends cmd).gives.frees w.given)) ∧
        ∀ line, isFinalResponseSuccess f = true → intermediatesOf type responsePrefix ls = [line] →
          Q ⟨true, some ⟨w.given, true, f, [line]⟩⟩ (w.sends cmd).gives := by
  rw [wp_bind, wp_at_send_command_full]
  refine and_congr ?_ (forall_congr' fun f => forall_congr' fun ls => imp_congr_right fun _ => ?_)
  · refine imp_congr_right fun _ => ?_
    cases p_response <;> simp [withIntermediate]
  · rcases hf : isFinalResponseSuccess f with _ | _
    · simp [withIntermediate]
    · rcases intermediatesOf_single responsePrefix h ls with hls | ⟨l, hls⟩
      · simp [withIntermediate, hls]
      · simp [withIntermediate, hls]

@[simp ↓] theorem wp_at_send_command_singleline :
    wp (at_send_command_singleline cmd responsePrefix p_response) Q E w ↔
      (w.answers 0 = .failed → Q ⟨false, p_response⟩ (w.sends cmd)) ∧
      ∀ f ls, w.answers 0 = .response f ls →
        (isFinalResponseSuccess f = false →
          Q ⟨true, some ⟨w.given, false, f, intermediatesOf .SINGLELINE responsePrefix ls⟩⟩ (w.sends cmd).gives) ∧
        (isFinalResponseSuccess f = true → intermediatesOf .SINGLELINE responsePrefix ls = [] →
          Q ⟨false, none⟩ ((w.sends cmd).gives.frees w.given)) ∧
        ∀ line, isFinalResponseSuccess f = true → intermediatesOf .SINGLELINE responsePrefix ls = [line] →
          Q ⟨true, some ⟨w.given, true, f, [line]⟩⟩ (w.sends cmd).gives :=
  wp_withIntermediate cmd responsePrefix p_response rfl

@[simp ↓] theorem wp_at_send_command_numeric :
    wp (at_send_command_numeric cmd p_response) Q E w ↔
      (w.answers 0 = .failed → Q ⟨false, p_response⟩ (w.sends cmd)) ∧
      ∀ f ls, w.answers 0 = .response f ls →
        (isFinalResponseSuccess f = false →
          Q ⟨true, some ⟨w.given, false, f, intermediatesOf .NUMERIC [] ls⟩⟩ (w.sends cmd).gives) ∧
        (isFinalResponseSuccess f = true → intermediatesOf .NUMERIC [] ls = [] →
          Q ⟨false, none⟩ ((w.sends cmd).gives.frees w.given)) ∧
        ∀ line, isFinalResponseSuccess f = true → intermediatesOf .NUMERIC [] ls = [line] →
          Q ⟨true, some ⟨w.given, true, f, [line]⟩⟩ (w.sends cmd).gives :=
  wp_withIntermediate cmd [] p_response rfl

end

@[simp ↓] theorem wp_at_send_command_NULL {Q : Bool → World γ → Prop} (cmd : Line) :
    wp (at_send_command_NULL cmd) Q E w ↔
      (w.answers 0 = .failed → Q false (w.sends cmd)) ∧
      ∀ f ls, w.answers 0 = .response f ls → Q true ((w.sends cmd).gives.frees w.given) := by
  simp [at_send_command_NULL]

/-! ## Responses -/

section

variable {Q : Bool → World γ → Prop}

@[simp ↓] theorem wp_unsuccessful_failed (p_response : Pointer) :
    wp (unsuccessful ⟨false, p_response⟩) Q E w ↔ Q true w := by
  simp [unsuccessful]

@[simp ↓] theorem wp_unsuccessful_some (r : Response) :
    wp (unsuccessful ⟨true, some r⟩) Q E w ↔ Q (!r.success) (w.reads r.handle) := by
  simp [unsuccessful]

@[simp ↓] theorem wp_unsuccessful_none : wp (unsuccessful ⟨true, none⟩) Q E w ↔ E .crashes w := by
  simp [unsuccessful]

@[simp ↓] theorem wp_at_tok_hasmore (line : Text) :
    wp (at_tok_hasmore line) Q E w ↔ Q (AtTok.at_tok_hasmore line.cur) (w.reads line.response.handle) := by
  simp [at_tok_hasmore]

end

@[simp ↓] theorem wp_firstLine_some {Q : Text → World γ → Prop} (r : Response) :
    wp (firstLine (some r)) Q E w ↔
      (∀ line, r.p_intermediates.head? = some line → Q ⟨r, some line⟩ (w.reads r.handle)) ∧
      (r.p_intermediates = [] → E .crashes (w.reads r.handle)) := by
  simp [firstLine]

@[simp ↓] theorem wp_at_tok_start {Q : Text → World γ → Prop} (line : Text) (l : ε) :
    wp (at_tok_start line l) Q E w ↔
      (∀ cur, AtTok.at_tok_start line.cur = some cur →
        Q { line with cur := some cur } (w.reads line.response.handle)) ∧
      (AtTok.at_tok_start line.cur = none → E (.goto l) (w.reads line.response.handle)) := by
  simp [at_tok_start]

@[simp ↓] theorem wp_at_tok_nextint {Q : Int × Text → World γ → Prop} (line : Text) (l : ε) :
    wp (at_tok_nextint line l) Q E w ↔
      (∀ n, (AtTok.at_tok_nextint line.cur).value = some n →
        Q (n, { line with cur := (AtTok.at_tok_nextint line.cur).p_cur }) (w.reads line.response.handle)) ∧
      ((AtTok.at_tok_nextint line.cur).value = none → E (.goto l) (w.reads line.response.handle)) := by
  simp [at_tok_nextint]

@[simp ↓] theorem wp_nextint {Q : AtTok.Tok Int × Text → World γ → Prop} (line : Text) :
    wp (nextint line) Q E w ↔
      Q (AtTok.at_tok_nextint line.cur, { line with cur := (AtTok.at_tok_nextint line.cur).p_cur })
        (w.reads line.response.handle) := by
  simp [nextint]

@[simp ↓] theorem wp_at_tok_nextstr {Q : Line × Text → World γ → Prop} (line : Text) (l : ε) :
    wp (at_tok_nextstr line l) Q E w ↔
      (∀ s, (AtTok.at_tok_nextstr line.cur).value = some s →
        Q (s, { line with cur := (AtTok.at_tok_nextstr line.cur).p_cur }) (w.reads line.response.handle)) ∧
      ((AtTok.at_tok_nextstr line.cur).value = none → E (.goto l) (w.reads line.response.handle)) := by
  simp [at_tok_nextstr]

end UniRil.Handlers
