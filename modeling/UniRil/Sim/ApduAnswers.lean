import UniRil.Sim.Cards
import UniRil.Sim.Helpers
import UniRil.Sim.Ownership

/-!
# The answer to an APDU

Four places cut the status words off an answer of the card, each at a place that the modem counts.
-/

namespace UniRil.Sim

open Flows Handlers
open AtTok (Line)

/-! ## Answer lines -/

/-- The length field of an answer line and its data. -/
def apduFields (line : Line) : Option (Int × Line) :=
  (AtTok.at_tok_start (some line)).bind fun cur =>
    let len := AtTok.at_tok_nextint (some cur)
    len.value.bind fun n => (AtTok.at_tok_nextstr len.p_cur).value.map fun text => (n, text)

/-- The data are hex digits, four at least, and the length field is their number. -/
def Exact (len : Int) (text : Line) : Prop := (∀ c ∈ text, hexValue c ≠ none) ∧ len = text.length ∧ 4 ≤ len

instance (len : Int) (text : Line) : Decidable (Exact len text) := inferInstanceAs (Decidable (_ ∧ _))

/-- The number of two hex digits. -/
def hexByte (high low : Byte) : Int :=
  ((16 * ((hexValue high).getD 0).toNat + ((hexValue low).getD 0).toNat : Nat) : Int)

/-- The last two bytes are the status words, and the digits before them are the data. -/
def SplitAs (text : Line) (sw : Int × Int) (simResponse : Line) : Prop :=
  ∃ a b c d, text = simResponse ++ [a, b, c, d] ∧ sw = (hexByte a b, hexByte c d)

/-- Every answer line that can be read is exact. -/
def ExactLine (line : Line) : Prop := ∀ len text, apduFields line = some (len, text) → Exact len text

/-! ## The cut -/

set_option maxRecDepth 10000 in
theorem digit_of_hexValue {c : Byte} (h : hexValue c ≠ none) : AtTok.isspace c = false ∧ c ≠ 45 ∧ c ≠ 43 := by
  have hall : ∀ n < 256, hexValue (UInt8.ofNat n) ≠ none →
      AtTok.isspace (UInt8.ofNat n) = false ∧ UInt8.ofNat n ≠ 45 ∧ UInt8.ofNat n ≠ 43 := by decide
  have hc := hall c.toNat c.toNat_lt
  rw [UInt8.ofNat_toNat] at hc
  exact hc h

/-- Two digits are scanned. -/
theorem scan02x_digits {a b : Byte} (ha : hexValue a ≠ none) (hb : hexValue b ≠ none) (rest : Line) :
    scan02x (a :: b :: rest) = some (hexByte a b, rest) := by
  obtain ⟨hspace, hminus, hplus⟩ := digit_of_hexValue ha
  have hsome (c : Byte) (hc : hexValue c ≠ none) : (hexValue c).isSome = true := Option.isSome_iff_ne_none.2 hc
  simp [scan02x, hspace, hminus, hplus, hsome a ha, hsome b hb, hexByte]

theorem four_of_length {l : Line} (h : l.length = 4) : ∃ a b c d, l = [a, b, c, d] := by
  obtain ⟨a, l, rfl⟩ := List.exists_cons_of_length_eq_add_one h
  obtain ⟨b, l, rfl⟩ := List.exists_cons_of_length_eq_add_one (Nat.succ.inj h)
  obtain ⟨c, l, rfl⟩ := List.exists_cons_of_length_eq_add_one (Nat.succ.inj (Nat.succ.inj h))
  obtain ⟨d, rfl⟩ := List.length_eq_one_iff.1 (Nat.succ.inj (Nat.succ.inj (Nat.succ.inj h)))
  exact ⟨a, b, c, d, rfl⟩

theorem statusWords_exact (beyond : Int → Line) {len : Int} {text : Line} (h : Exact len text) (sw : Int × Int) :
    SplitAs text (statusWords beyond len text sw).1 (statusWords beyond len text sw).2 := by
  obtain ⟨hhex, hlen, hfour⟩ := h
  have hplace : (len - 4).toNat = text.length - 4 := by omega
  obtain ⟨a, b, c, d, hlast⟩ : ∃ a b c d, text.drop (text.length - 4) = [a, b, c, d] :=
    four_of_length (by rw [List.length_drop]; omega)
  have hmem : ∀ x ∈ [a, b, c, d], hexValue x ≠ none := fun x hx => hhex x (List.mem_of_mem_drop (hlast ▸ hx))
  have hfirst := scan02x_digits (hmem a (by simp)) (hmem b (by simp)) [c, d]
  have hsecond := scan02x_digits (hmem c (by simp)) (hmem d (by simp)) []
  have hinside : 0 ≤ len - 4 ∧ len - 4 ≤ (text.length : Int) := by omega
  refine ⟨a, b, c, d, ?_, ?_⟩
  · simp only [statusWords, hinside, and_self, if_true, hplace]
    rw [← hlast, List.take_append_drop]
  · simp only [statusWords, hinside, and_self, if_true, hplace, hlast, hfirst, hsecond]

/-! ## What comes next -/

/-- The event behind the command. -/
def Next (m : Handler Slot Empty Unit) (cmd : Line) (w : World Slot) (P : Event → Prop) : Prop :=
  ∃ e, (w.log ++ [.at_send_command cmd, e]) <+: (after m w).log ∧ P e

/-- An exact line is split, and what is made of it is `good`; every other line is refused. -/
def Splits (line : Line) (good : Int × Int → Line → Prop) (refused : Prop) : Prop :=
  (∀ len text, apduFields line = some (len, text) → Exact len text →
    ∃ sw simResponse, SplitAs text sw simResponse ∧ good sw simResponse) ∧
  ((∀ len text, apduFields line = some (len, text) → ¬ Exact len text) → refused)

theorem apduFields_eq_some {line : Line} {len : Int} {text : Line} :
    apduFields line = some (len, text) ↔
      ∃ cur, AtTok.at_tok_start (some line) = some cur ∧ (AtTok.at_tok_nextint (some cur)).value = some len ∧
        (AtTok.at_tok_nextstr (AtTok.at_tok_nextint (some cur)).p_cur).value = some text := by
  simp [apduFields, Option.bind_eq_some_iff]

theorem not_read {line : Line} (hnone : apduFields line = none) {cur : Line}
    (hcur : AtTok.at_tok_start (some line) = some cur) {n : Int}
    (hn : (AtTok.at_tok_nextint (some cur)).value = some n) (s : Line) :
    (AtTok.at_tok_nextstr (AtTok.at_tok_nextint (some cur)).p_cur).value ≠ some s := by
  intro hs
  rw [apduFields_eq_some.2 ⟨cur, hcur, hn, hs⟩] at hnone
  cases hnone

theorem splits_iff_exactLine {line : Line} {good : Int × Int → Line → Prop} {refused : Prop} (beyond : Int → Line)
    (sw : Int × Int) (hunread : apduFields line = none → refused)
    (hread : ∀ len text, apduFields line = some (len, text) →
      good (statusWords beyond len text sw).1 (statusWords beyond len text sw).2 ∧ ¬ refused) :
    Splits line good refused ↔ ExactLine line := by
  cases hfields : apduFields line with
  | none =>
    refine iff_of_true ⟨?_, fun _ => hunread hfields⟩ ?_
    · intro len text hsome
      cases hfields.symm.trans hsome
    · intro len text hsome
      cases hfields.symm.trans hsome
  | some fields =>
    obtain ⟨len, text⟩ := fields
    obtain ⟨hgood, hrefused⟩ := hread len text hfields
    constructor
    · intro h len' text' hsome
      obtain ⟨rfl, rfl⟩ := Prod.mk.inj (Option.some.inj (hfields.symm.trans hsome))
      by_contra hexact
      refine hrefused (h.2 fun len' text' hsome' => ?_)
      obtain ⟨rfl, rfl⟩ := Prod.mk.inj (Option.some.inj (hfields.symm.trans hsome'))
      exact hexact
    · intro h
      refine ⟨?_, ?_⟩
      · intro len' text' hsome hexact
        obtain ⟨rfl, rfl⟩ := Prod.mk.inj (Option.some.inj (hfields.symm.trans hsome))
        exact ⟨_, _, statusWords_exact beyond hexact sw, hgood⟩
      · intro hnone
        exact absurd (h len text hfields) (hnone len text hfields)

/-- The request fails. -/
def failure (t : RIL_Token) (e : Event) : Prop := ∃ err ≠ RIL_Errno.SUCCESS, e = .RIL_onRequestComplete t err .NULL

/-! ## The requests -/

/-- `requestTransmitApdu` from the label `retry` on. -/
def transmitFrom (beyond : Int → Line) (fuel : Nat) (p_args : RIL_SIM_APDU) (sw : Int × Int) (p_response : Pointer)
    (t : RIL_Token) : Handler Slot Empty Unit :=
  labelled (do
      let result ← exchangeApdu beyond fuel p_args sw p_response
      touch result.line.response
      RIL_onRequestComplete t .SUCCESS (.simData result.sw.1 result.sw.2 (some result.simResponse))
      at_response_free result.p_response
      if result.p_args.instruction = 20 ∧ result.sw.1 = 0x90 then
        RIL_onUnsolicitedResponse .RIL_UNSOL_STK_SESSION_END
      if result.sw.1 = 0x91 then
        fetchProactiveCommand beyond result.p_args.sessionid result.sw)
    fun (err_no, p_response) => do
      RIL_onRequestComplete t err_no .NULL
      at_response_free p_response

/-- What `requestTransmitApdu` does about an answer: the next command, or the report. -/
def apduNext (p_args : RIL_SIM_APDU) (t : RIL_Token) (sw : Int × Int) (simResponse : Line) : Event :=
  (retryApdu p_args sw simResponse).elim
    (.RIL_onRequestComplete t .SUCCESS (.simData sw.1 sw.2 (some simResponse)))
    fun p_args => .at_send_command (apduCommand p_args)

theorem not_failure_apduNext (p_args : RIL_SIM_APDU) (t : RIL_Token) (sw : Int × Int) (simResponse : Line) :
    ¬ failure t (apduNext p_args t sw simResponse) := by
  rintro ⟨err, hne, heq⟩
  rw [apduNext] at heq
  cases hretry : retryApdu p_args sw simResponse with
  | none => simp [hretry] at heq
  | some p_args' => simp [hretry] at heq

variable {w : World Slot} (beyond : Int → Line) (sw : Int × Int) (t : RIL_Token) {line : Line}

theorem next_iff {m : Handler Slot Empty Unit} {cmd : Line} {e : Event} {P : Event → Prop}
    (h : (w.log ++ [.at_send_command cmd, e]) <+: (after m w).log) : Next m cmd w P ↔ P e := by
  constructor
  · rintro ⟨e', h', hP⟩
    have hsame := (List.prefix_of_prefix_length_le h h' (by simp)).eq_of_length (by simp)
    have heq : e = e' := by simpa using hsame
    rwa [heq]
  · exact fun hP => ⟨e, h, hP⟩

/-- How a log goes on, told of all the ways a handler ends. -/
theorem log_after {m : Handler Slot Empty Unit} {l : List Event}
    (h : wp m (fun _ w' => l <+: w'.log) (fun _ w' => l <+: w'.log) w) : l <+: (after m w).log :=
  after_of_ends h

theorem splits_requestTransmitApduBasic (p_args : RIL_SIM_APDU)
    (hline : lineOf (ascii "+CSIM:") (w.answers 0) = some line) :
    Splits line
        (fun sw simResponse => Next (requestTransmitApduBasic beyond p_args t) (basicCommand p_args) w
          (· = .RIL_onRequestComplete t .SUCCESS (.simData sw.1 sw.2 (some simResponse))))
        (Next (requestTransmitApduBasic beyond p_args t) (basicCommand p_args) w (failure t)) ↔ ExactLine line := by
  obtain ⟨f, ls, ha, hf, hls⟩ := lineOf_eq_some.1 hline
  apply splits_iff_exactLine beyond (0, 0)
  · intro hnone
    refine ⟨.RIL_onRequestComplete t .GENERIC_FAILURE .NULL, log_after ?_, .GENERIC_FAILURE, by decide, rfl⟩
    simp [requestTransmitApduBasic, ha, hf, hls]
    exact fun cur hcur n hn s hs => absurd hs (not_read hnone hcur hn s)
  · intro len text hfields
    obtain ⟨cur, hcur, hn, hs⟩ := apduFields_eq_some.1 hfields
    have hlog : (w.log ++ [.at_send_command (basicCommand p_args), .RIL_onRequestComplete t .SUCCESS
        (.simData (statusWords beyond len text (0, 0)).1.1 (statusWords beyond len text (0, 0)).1.2
          (some (statusWords beyond len text (0, 0)).2))]) <+:
        (after (requestTransmitApduBasic beyond p_args t : Handler Slot Empty Unit) w).log := by
      apply log_after
      simp [requestTransmitApduBasic, ha, hf, hls, hcur, hn, hs, fetchBasic]
    refine ⟨(next_iff hlog).2 rfl, ?_⟩
    rw [next_iff hlog]
    rintro ⟨err, hne, heq⟩
    simp at heq

/-! ## The proactive command -/

/-- Nothing follows the command. -/
def Quiet (m : Handler Slot Empty Unit) (cmd : Line) (w : World Slot) : Prop :=
  (after m w).log = w.log ++ [.at_send_command cmd]

theorem not_quiet {m : Handler Slot Empty Unit} {cmd : Line} {e : Event}
    (h : (w.log ++ [.at_send_command cmd, e]) <+: (after m w).log) : ¬ Quiet m cmd w := by
  intro hquiet
  have hlen := h.length_le
  rw [hquiet] at hlen
  simp at hlen

theorem log_after_eq {γ : Type} {w : World γ} {m : Handler γ Empty Unit} {l : List Event}
    (h : wp m (fun _ w' => w'.log = l) (fun _ w' => w'.log = l) w) : (after m w).log = l :=
  after_of_ends h

def fetchBasicCommand (sw : Int × Int) : Line := ascii "AT+CSIM=10,\"a0120000" ++ hex02 sw.2 ++ ascii "\""

def fetchCommand (sessionid : Int) (sw : Int × Int) : Line :=
  ascii "AT+CGLA= " ++ decimal sessionid ++ ascii ", 10,\"a0120000" ++ hex02 sw.2 ++ ascii "\""

/-- The proactive command that is reported. -/
def proactive (simResponse : Line) : Event :=
  .RIL_onUnsolicitedText .RIL_UNSOL_STK_PROACTIVE_COMMAND simResponse

theorem splits_fetchBasic (hline : lineOf (ascii "+CSIM:") (w.answers 0) = some line) :
    Splits line (fun _ simResponse => Next (fetchBasic beyond sw) (fetchBasicCommand sw) w (· = proactive simResponse))
        (Quiet (fetchBasic beyond sw) (fetchBasicCommand sw) w) ↔ ExactLine line := by
  obtain ⟨f, ls, ha, hf, hls⟩ := lineOf_eq_some.1 hline
  apply splits_iff_exactLine beyond sw
  · intro hnone
    apply log_after_eq
    simp [fetchBasic, fetchBasicCommand, ha, hf, hls]
    exact fun cur hcur n hn s hs => absurd hs (not_read hnone hcur hn s)
  · intro len text hfields
    obtain ⟨cur, hcur, hn, hs⟩ := apduFields_eq_some.1 hfields
    have hlog : (w.log ++ [.at_send_command (fetchBasicCommand sw), proactive (statusWords beyond len text sw).2]) <+:
        (after (fetchBasic beyond sw : Handler Slot Empty Unit) w).log := by
      apply log_after
      simp [fetchBasic, fetchBasicCommand, proactive, ha, hf, hls, hcur, hn, hs]
    exact ⟨(next_iff hlog).2 rfl, not_quiet hlog⟩

theorem splits_fetchProactiveCommand (sessionid : Int) (hline : lineOf (ascii "+CSIM:") (w.answers 0) = some line) :
    Splits line
        (fun _ simResponse => Next (fetchProactiveCommand beyond sessionid sw) (fetchCommand sessionid sw) w
          (· = proactive simResponse))
        (Quiet (fetchProactiveCommand beyond sessionid sw) (fetchCommand sessionid sw) w) ↔ ExactLine line := by
  obtain ⟨f, ls, ha, hf, hls⟩ := lineOf_eq_some.1 hline
  apply splits_iff_exactLine beyond sw
  · intro hnone
    apply log_after_eq
    simp [fetchProactiveCommand, fetchCommand, ha, hf, hls]
    exact fun cur hcur n hn s hs => absurd hs (not_read hnone hcur hn s)
  · intro len text hfields
    obtain ⟨cur, hcur, hn, hs⟩ := apduFields_eq_some.1 hfields
    have hlog : (w.log ++ [.at_send_command (fetchCommand sessionid sw),
        proactive (statusWords beyond len text sw).2]) <+:
        (after (fetchProactiveCommand beyond sessionid sw : Handler Slot Empty Unit) w).log := by
      apply log_after
      simp [fetchProactiveCommand, fetchCommand, proactive, ha, hf, hls, hcur, hn, hs]
    exact ⟨(next_iff hlog).2 rfl, not_quiet hlog⟩

/-! ## Repeated commands -/

/-- The log of an exchange only grows. -/
theorem grows_exchangeApdu (fuel : Nat) (p_args : RIL_SIM_APDU) (p_response : Pointer) :
    wp (exchangeApdu beyond fuel p_args sw p_response) (fun _ w' => w.log <+: w'.log) (fun _ w' => w.log <+: w'.log)
      w := by
  induction fuel generalizing p_args sw p_response w with
  | zero => simp [exchangeApdu]
  | succ fuel ih =>
    have hnext (w' : World Slot) (h : w.log <+: w'.log) (p_args : RIL_SIM_APDU) (sw : Int × Int) (r : Pointer) :
        wp (exchangeApdu beyond fuel p_args sw r) (fun _ w'' => w.log <+: w''.log) (fun _ w'' => w.log <+: w''.log)
          w' := wp_mono (ih sw p_args r) (fun _ _ => h.trans) (fun _ _ => h.trans)
    simp [exchangeApdu]
    intros
    apply hnext
    simp

/-- An exchange begins with its command. -/
theorem begins_exchangeApdu (fuel : Nat) (p_args : RIL_SIM_APDU) (p_response : Pointer) :
    wp (exchangeApdu beyond (fuel + 1) p_args sw p_response)
      (fun _ w' => (w.log ++ [.at_send_command (apduCommand p_args)]) <+: w'.log)
      (fun _ w' => (w.log ++ [.at_send_command (apduCommand p_args)]) <+: w'.log) w := by
  have hnext (w' : World Slot) (h : (w.log ++ [.at_send_command (apduCommand p_args)]) <+: w'.log)
      (p_args' : RIL_SIM_APDU) (sw : Int × Int) (r : Pointer) :
      wp (exchangeApdu beyond fuel p_args' sw r)
        (fun _ w'' => (w.log ++ [.at_send_command (apduCommand p_args)]) <+: w''.log)
        (fun _ w'' => (w.log ++ [.at_send_command (apduCommand p_args)]) <+: w''.log) w' :=
    wp_mono (grows_exchangeApdu beyond sw fuel p_args' r) (fun _ _ => h.trans) (fun _ _ => h.trans)
  simp [exchangeApdu]
  intros
  apply hnext
  simp

/-- What an exchange has logged stays behind it. -/
theorem keeps_transmitFrom {l : List Event} (fuel : Nat) (p_args : RIL_SIM_APDU) (p_response : Pointer)
    (h : wp (exchangeApdu beyond fuel p_args sw p_response) (fun _ w' => l <+: w'.log) (fun _ w' => l <+: w'.log) w) :
    wp (transmitFrom beyond fuel p_args sw p_response t) (fun _ w' => l <+: w'.log) (fun _ w' => l <+: w'.log) w := by
  simp only [transmitFrom]
  rw [wp_labelled, wp_bind]
  apply wp_mono h
  · intro result w' hlog
    have hmore : ∀ rest, l <+: w'.log ++ rest := fun rest => hlog.trans (List.prefix_append _ _)
    cases result.p_response with
    | none => simp [fetchProactiveCommand, hmore]
    | some r => simp [fetchProactiveCommand, hmore]
  · intro e w' hlog
    have hmore : ∀ rest, l <+: w'.log ++ rest := fun rest => hlog.trans (List.prefix_append _ _)
    rcases e with ⟨err_no, _ | r⟩ | _ | _
    · simp [hmore]
    · simp [hmore]
    · exact hlog
    · exact hlog

theorem splits_transmitFrom (fuel : Nat) (p_args : RIL_SIM_APDU) (p_response : Pointer)
    (hline : lineOf (ascii "+CGLA:") (w.answers 0) = some line) :
    Splits line
        (fun sw' simResponse => Next (transmitFrom beyond (fuel + 2) p_args sw p_response t) (apduCommand p_args) w
          (· = apduNext p_args t sw' simResponse))
        (Next (transmitFrom beyond (fuel + 2) p_args sw p_response t) (apduCommand p_args) w (failure t)) ↔
      ExactLine line := by
  obtain ⟨f, ls, ha, hf, hls⟩ := lineOf_eq_some.1 hline
  apply splits_iff_exactLine beyond sw
  · intro hnone
    refine ⟨.RIL_onRequestComplete t .GENERIC_FAILURE .NULL, log_after ?_, .GENERIC_FAILURE, by decide, rfl⟩
    rw [transmitFrom, exchangeApdu]
    simp [ha, hf, hls]
    exact fun cur hcur n hn s hs => absurd hs (not_read hnone hcur hn s)
  · intro len text hfields
    obtain ⟨cur, hcur, hn, hs⟩ := apduFields_eq_some.1 hfields
    have hlog : (w.log ++ [.at_send_command (apduCommand p_args), apduNext p_args t
        (statusWords beyond len text sw).1 (statusWords beyond len text sw).2]) <+:
        (after (transmitFrom beyond (fuel + 2) p_args sw p_response t) w).log := by
      apply log_after
      cases hretry : retryApdu p_args (statusWords beyond len text sw).1 (statusWords beyond len text sw).2 with
      | none =>
        have hone : wp (exchangeApdu beyond (fuel + 2) p_args sw p_response)
            (fun result w' => result.sw = (statusWords beyond len text sw).1 ∧
              result.simResponse = (statusWords beyond len text sw).2 ∧
              w'.log = w.log ++ [.at_send_command (apduCommand p_args)]) (fun _ _ => False) w := by
          rw [exchangeApdu]
          simp [ha, hf, hls, hcur, hn, hs, hretry]
        rw [transmitFrom, wp_labelled, wp_bind]
        apply wp_mono hone
        · rintro result w' ⟨hsw, htext, hlog⟩
          cases result.p_response with
          | none => simp [hsw, htext, hlog, fetchProactiveCommand, apduNext, hretry]
          | some r => simp [hsw, htext, hlog, fetchProactiveCommand, apduNext, hretry]
        · exact fun _ _ h => h.elim
      | some p_args' =>
        apply keeps_transmitFrom
        rw [exchangeApdu]
        simp [ha, hf, hls, hcur, hn, hs, hretry, apduNext]
        have hnext := begins_exchangeApdu beyond (statusWords beyond len text sw).1 fuel p_args'
          (some ⟨w.given, true, f, [line]⟩)
          (w := ((((((((w.sends (apduCommand p_args)).gives.reads w.given).reads w.given).reads w.given).reads
            w.given).reads w.given).reads w.given).frees w.given))
        simpa using hnext
    exact ⟨(next_iff hlog).2 rfl, fun h => not_failure_apduNext p_args t _ _ ((next_iff hlog).1 h)⟩

/-- **Answers are split exactly** where they are exact, in all four places; no other answer that can be
read is refused. -/
theorem answers_split_iff (fuel : Nat) (p_args : RIL_SIM_APDU) (p_response : Pointer) (sessionid : Int) :
    (∀ line, lineOf (ascii "+CGLA:") (w.answers 0) = some line →
      (Splits line
          (fun sw' simResponse => Next (transmitFrom beyond (fuel + 2) p_args sw p_response t) (apduCommand p_args) w
            (· = apduNext p_args t sw' simResponse))
          (Next (transmitFrom beyond (fuel + 2) p_args sw p_response t) (apduCommand p_args) w (failure t)) ↔
        ExactLine line)) ∧
    ∀ line, lineOf (ascii "+CSIM:") (w.answers 0) = some line →
      (Splits line
          (fun sw' simResponse => Next (requestTransmitApduBasic beyond p_args t) (basicCommand p_args) w
            (· = .RIL_onRequestComplete t .SUCCESS (.simData sw'.1 sw'.2 (some simResponse))))
          (Next (requestTransmitApduBasic beyond p_args t) (basicCommand p_args) w (failure t)) ↔ ExactLine line) ∧
      (Splits line
          (fun _ simResponse => Next (fetchBasic beyond sw) (fetchBasicCommand sw) w (· = proactive simResponse))
          (Quiet (fetchBasic beyond sw) (fetchBasicCommand sw) w) ↔ ExactLine line) ∧
      (Splits line
          (fun _ simResponse => Next (fetchProactiveCommand beyond sessionid sw) (fetchCommand sessionid sw) w
            (· = proactive simResponse))
          (Quiet (fetchProactiveCommand beyond sessionid sw) (fetchCommand sessionid sw) w) ↔ ExactLine line) := by
  refine ⟨fun line hline => splits_transmitFrom beyond sw t fuel p_args p_response hline, fun line hline => ?_⟩
  exact ⟨splits_requestTransmitApduBasic beyond t p_args hline, splits_fetchBasic beyond sw hline,
    splits_fetchProactiveCommand beyond sw sessionid hline⟩

/-- A read of the card's identity, without data. -/
def readApdu : RIL_SIM_APDU where
  sessionid := 1
  cla := 0
  instruction := 0xb0
  p1 := 0
  p2 := 0
  p3 := 2
  data := none

/-- The modem answers every command with this line. -/
def answersWith (line : Line) : World Slot := .start (fun _ => .response (ascii "OK") [line]) (fun _ => true) idleSlot

theorem answers_split_iff_exact :
    Splits (ascii "+CSIM: 8,\"12349000\"")
      (fun sw' simResponse => Next (requestTransmitApduBasic (fun _ => []) readApdu (some 1)) (basicCommand readApdu)
        (answersWith (ascii "+CSIM: 8,\"12349000\""))
        (· = .RIL_onRequestComplete (some 1) .SUCCESS (.simData sw'.1 sw'.2 (some simResponse))))
      (Next (requestTransmitApduBasic (fun _ => []) readApdu (some 1)) (basicCommand readApdu)
        (answersWith (ascii "+CSIM: 8,\"12349000\"")) (failure (some 1))) := by
  refine ((answers_split_iff (fun _ => []) (0, 0) (some 1) 0 readApdu none 1).2 _ (by decide)).1.2 ?_
  intro len text hfields
  have hsome : apduFields (ascii "+CSIM: 8,\"12349000\"") = some (8, ascii "12349000") := by decide
  obtain ⟨rfl, rfl⟩ := Prod.mk.inj (Option.some.inj (hsome.symm.trans hfields))
  exact ⟨by simp [ascii, hexValue], rfl, by decide⟩

/-- The length field counts bytes and not digits: the status words are read out of the data. -/
theorem answers_split_fails_bytes :
    ¬ Splits (ascii "+CSIM: 4,\"12349000\"")
      (fun sw' simResponse => Next (requestTransmitApduBasic (fun _ => []) readApdu (some 1)) (basicCommand readApdu)
        (answersWith (ascii "+CSIM: 4,\"12349000\""))
        (· = .RIL_onRequestComplete (some 1) .SUCCESS (.simData sw'.1 sw'.2 (some simResponse))))
      (Next (requestTransmitApduBasic (fun _ => []) readApdu (some 1)) (basicCommand readApdu)
        (answersWith (ascii "+CSIM: 4,\"12349000\"")) (failure (some 1))) := by
  rintro ⟨-, hrefused⟩
  have hsome : apduFields (ascii "+CSIM: 4,\"12349000\"") = some (4, ascii "12349000") := by decide
  obtain ⟨e, hlog, err, hne, rfl⟩ := hrefused (by
    intro len text hfields
    obtain ⟨rfl, rfl⟩ := Prod.mk.inj (Option.some.inj (hsome.symm.trans hfields))
    exact fun h => absurd h.2.1 (by decide))
  obtain ⟨rest, hrest⟩ := hlog
  have hnext : (after (requestTransmitApduBasic (fun _ => []) readApdu (some 1) : Handler Slot Empty Unit)
      (answersWith (ascii "+CSIM: 4,\"12349000\""))).log[1]? =
        some (.RIL_onRequestComplete (some 1) .SUCCESS (.simData 0x12 0x34 (some []))) := by decide
  rw [← hrest] at hnext
  cases hnext

end UniRil.Sim
