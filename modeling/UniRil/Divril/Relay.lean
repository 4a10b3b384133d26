import UniRil.Divril.Answers
import UniRil.NetworkRequests.NetworkScan
import UniRil.Lib.Runs

/-!
# The relay of a diverted channel

Each line of the modem belongs to the command that waits, or is relayed on its own. The code does it with buffers of
1024 and of 128 bytes; the relay it is compared with has no bounds.
-/

namespace UniRil.Divril

open AtTok (Line at_tok_start at_tok_nextint at_tok_flag_start)
open NetworkRequests (IsNumeral strtol_isNumeral nextTok_blanks isNumeral_decimal)
open Runs

/-! ## The channel -/

/-- The arguments of sendCommand, and the echo flag at that time. -/
structure Call where
  s_needEchoCommand : Bool
  command : Line
  tag : Bool
  deriving DecidableEq

structure Channel where
  /-- The command that waits, with `sp_response`. -/
  waiting : Option (Call × CmdResponse)
  /-- What sendResponse was given. -/
  sent : List Line
  /-- A line filled a local buffer to its last byte or went beyond it, so that its text has no end there. -/
  overflow : Bool
  deriving DecidableEq

inductive Label
  | sendCommand (call : Call)
  /-- processLine -/
  | line (line : Line)
  /-- The command that waits finds its final response. -/
  | wakes
  | timesOut
  deriving DecidableEq

/-- What sendCommand has in its buffer before the answer. -/
def Call.buf (serviceId : SERVICE_ID) (call : Call) : Line :=
  if call.s_needEchoCommand ∧ serviceId = .EMBMS then echo call.command call.tag else []

def Channel.handleUnsolicited (serviceId : SERVICE_ID) (s : Channel) (line : Line) : Channel :=
  match processUnsolResp serviceId line with
  | none => { s with overflow := true }
  | some texts => { s with sent := s.sent ++ texts }

def Channel.processLine (serviceId : SERVICE_ID) (s : Channel) (line : Line) : Channel :=
  match s.waiting with
  | none => s.handleUnsolicited serviceId line
  | some (call, r) => { s with waiting := some (call, r.processLine line) }

/-- The calls for a service come from one thread, so that none comes while another waits. -/
def Channel.step (serviceId : SERVICE_ID) (s : Channel) : Label → Option Channel
  | .sendCommand call =>
    match s.waiting with
    | none => some { s with waiting := some (call, at_response_new) }
    | some _ => none
  | .line line => some (s.processLine serviceId line)
  | .wakes =>
    match s.waiting with
    | none => none
    | some (call, r) =>
      if r.finalResponse.isSome then
        some { s with waiting := none, sent := s.sent ++ [answer (call.buf serviceId) 0 (some r.reverseIntermediates)] }
      else none
  | .timesOut =>
    match s.waiting with
    | none => none
    | some (call, _) =>
      some { s with waiting := none, sent := s.sent ++ [answer (call.buf serviceId) ERROR_TIMEOUT none] }

/-! ## The relay -/

/-- The echo, however long it is. -/
def Call.echoLine (serviceId : SERVICE_ID) (call : Call) : Line :=
  if call.s_needEchoCommand ∧ serviceId = .EMBMS then
    (if call.tag then
      cereg ((at_tok_nextint (at_tok_flag_start (some (snprintf bufSize call.command)) 61)).p_out.getD 0)
    else call.command) ++ crlf
  else []

open Classical in
/-- +MBMSEREG: n is +CEREG: n for the client of the EMBMS service, and so is any other text behind +MBMSEREG:. -/
noncomputable def unsolicited (serviceId : SERVICE_ID) (line : Line) : Line :=
  match serviceId with
  | .MDT => line
  | .EMBMS =>
    if strStartsWith line (ascii "+MBMSEREG:") then
      let rest := line.drop (ascii "+MBMSEREG:").length
      if h : ∃ n, IsNumeral rest n then ascii "+CEREG: " ++ decimal h.choose ++ crlf
      else ascii "+CEREG:" ++ rest ++ crlf
    else line ++ crlf

/-- A command that waits, with its lines and its final response so far. -/
structure Waiting where
  call : Call
  lines : List Line
  final : Option Line

structure Relay where
  waiting : Option Waiting
  sent : List Line

noncomputable def Relay.line (serviceId : SERVICE_ID) (a : Relay) (line : Line) : Relay :=
  match a.waiting with
  | none => { a with sent := a.sent ++ [unsolicited serviceId line] }
  | some w =>
    match w.final with
    | some _ => { a with sent := a.sent ++ [unsolicited serviceId line] }
    | none =>
      if isFinal line then { a with waiting := some { w with final := some line } }
      else { a with waiting := some { w with lines := w.lines ++ [line] } }

noncomputable def Relay.step (serviceId : SERVICE_ID) (a : Relay) : Label → Option Relay
  | .sendCommand call => some { a with waiting := some { call, lines := [], final := none } }
  | .line line => some (a.line serviceId line)
  | .wakes =>
    a.waiting.map fun w =>
      { waiting := none
        sent := a.sent ++ [w.call.echoLine serviceId ++ w.lines.flatMap (· ++ crlf) ++ w.final.getD [] ++ crlf] }
  | .timesOut =>
    a.waiting.map fun w =>
      { waiting := none, sent := a.sent ++ [w.call.echoLine serviceId ++ ascii "ERROR" ++ crlf] }

/-- The channel and the relay side by side. -/
noncomputable def step (serviceId : SERVICE_ID) (p : Channel × Relay) (a : Label) : Option (Channel × Relay) := do
  let s ← p.1.step serviceId a
  let r ← p.2.step serviceId a
  some (s, r)

def start : Channel × Relay :=
  ({ waiting := none, sent := [], overflow := false }, { waiting := none, sent := [] })

/-- The channel has relayed what the relay has. -/
structure Whole (p : Channel × Relay) : Prop where
  sent : p.1.sent = p.2.sent
  overflow : p.1.overflow = false

/-! ## When it is whole -/

/-- An unsolicited line that fits the buffer, or has a number behind +MBMSEREG:. -/
def FitsUnsolicited (serviceId : SERVICE_ID) (line : Line) : Prop :=
  serviceId = .EMBMS →
    if strStartsWith line (ascii "+MBMSEREG:") then ∃ n, IsNumeral (line.drop (ascii "+MBMSEREG:").length) n
    else line.length + 2 < ARRAY_SIZE

/-- A line that is read while a command waits comes before its final response, and an unsolicited one fits. When a
command has its final response, that is no error or has no lines before it, and the answer fits. -/
def Fits (serviceId : SERVICE_ID) (p : Channel × Relay) : Label → Prop
  | .sendCommand _ => True
  | .line line =>
    (p.1.waiting = none → FitsUnsolicited serviceId line) ∧
      ∀ call r, p.1.waiting = some (call, r) → r.finalResponse = none
  | .wakes => ∀ call r f, p.1.waiting = some (call, r) → r.finalResponse = some f →
    (r.success = true ∨ r.p_intermediates = []) ∧
      (call.echoLine serviceId ++ r.p_intermediates.reverse.flatMap (· ++ crlf) ++ f ++ crlf).length < bufSize
  | .timesOut => ∀ call r, p.1.waiting = some (call, r) →
    (call.echoLine serviceId ++ ascii "ERROR" ++ crlf).length < bufSize

variable {serviceId : SERVICE_ID} {p p' : Channel × Relay} {line : Line} {call : Call} {r : CmdResponse}

/-! ## Unsolicited lines -/

theorem snprintf_cereg {v : Int} (hlow : -2 ^ 31 ≤ v) (hhigh : v < 2 ^ 31) :
    strlcat (snprintf ARRAY_SIZE (ascii "+CEREG: " ++ decimal v)) crlf ARRAY_SIZE =
      ascii "+CEREG: " ++ decimal v ++ crlf := by
  have hle := length_decimal_le hlow hhigh
  have hpre : (ascii "+CEREG: ").length = 8 := by decide
  have htake := Truncate.append_take (ARRAY_SIZE - 1) (ascii "+CEREG: " ++ decimal v) crlf
  refine htake.trans (List.take_of_length_le ?_)
  simp only [List.length_append, hpre, crlf, List.length_cons, List.length_nil, ARRAY_SIZE]
  omega

/-- +MBMSEREG: and what is behind it. -/
theorem mbmsereg_line (h : strStartsWith line (ascii "+MBMSEREG:") = true) :
    at_tok_start (some line) = some (line.drop (ascii "+MBMSEREG:").length) := by
  obtain ⟨rest, rfl⟩ := (strStartsWith_iff _ _).1 h
  have hsplit : ascii "+MBMSEREG:" = ascii "+MBMSEREG" ++ [58] := by decide
  rw [List.drop_left, hsplit, List.append_assoc]
  exact at_tok_flag_start_append (by decide) rest

theorem unsolicited_number {n : Int} (h : strStartsWith line (ascii "+MBMSEREG:") = true)
    (hn : IsNumeral (line.drop (ascii "+MBMSEREG:").length) n) :
    unsolicited .EMBMS line = ascii "+CEREG: " ++ decimal n ++ crlf := by
  have hex : ∃ n, IsNumeral (line.drop (ascii "+MBMSEREG:").length) n := ⟨n, hn⟩
  unfold unsolicited
  simp only [if_pos h, dif_pos hex, hex.choose_spec.unique hn]

/-- The number that was sent is there in the line. -/
theorem numeral_of_eq {v : Int} (hpre : strStartsWith line (ascii "+MBMSEREG:") = true) (hlow : -2 ^ 31 ≤ v)
    (hhigh : v < 2 ^ 31) (heq : ascii "+CEREG: " ++ decimal v ++ crlf = unsolicited .EMBMS line) :
    ∃ n, IsNumeral (line.drop (ascii "+MBMSEREG:").length) n := by
  by_contra hnone
  have htext : unsolicited .EMBMS line = ascii "+CEREG:" ++ line.drop (ascii "+MBMSEREG:").length ++ crlf := by
    unfold unsolicited
    simp only [if_pos hpre, dif_neg hnone]
  have hsplit : ascii "+CEREG: " = ascii "+CEREG:" ++ [32] := by decide
  rw [htext, hsplit, List.append_assoc (ascii "+CEREG:")] at heq
  have hrest := List.append_cancel_left (List.append_cancel_right heq)
  refine hnone ⟨v, ?_⟩
  rw [← hrest]
  exact (isNumeral_decimal ⟨hlow, hhigh⟩).blank

/-- What is relayed is what should be, in just one case. -/
theorem processUnsolResp_iff :
    processUnsolResp serviceId line = some [unsolicited serviceId line] ↔ FitsUnsolicited serviceId line := by
  cases serviceId with
  | MDT => simp [processUnsolResp, unsolicited, FitsUnsolicited]
  | EMBMS =>
    unfold FitsUnsolicited
    by_cases hpre : strStartsWith line (ascii "+MBMSEREG:") = true
    · simp only [processUnsolResp, if_pos hpre, mbmsereg_line hpre]
      constructor
      · intro heq
        rcases at_tok_nextint_cases (some (line.drop (ascii "+MBMSEREG:").length)) with ⟨hok, -⟩ |
          ⟨v, hok, hout, -, hlow, hhigh⟩
        · simp [hok] at heq
        · simp only [hok, if_true, hout, Option.getD_some, snprintf_cereg hlow hhigh] at heq
          exact fun _ => numeral_of_eq hpre hlow hhigh (List.singleton_injective (Option.some.inj heq))
      · intro hfits
        obtain ⟨n, hn⟩ := hfits trivial
        rw [hn.at_tok_nextint, unsolicited_number hpre hn]
        simp only [if_true, Option.getD_some, snprintf_cereg hn.1.1 hn.1.2]
    · have htext : unsolicited .EMBMS line = line ++ crlf := by simp [unsolicited, hpre]
      simp only [processUnsolResp, if_neg hpre, htext, forall_true_left]
      by_cases hroom : line.length < ARRAY_SIZE
      · have htake : strlcat line crlf ARRAY_SIZE = (line ++ crlf).take (ARRAY_SIZE - 1) := by
          rw [← Truncate.append_take, List.take_of_length_le (Nat.le_sub_one_of_lt hroom)]
          rfl
        rw [if_pos hroom, htake]
        simp [crlf, ARRAY_SIZE]
        omega
      · rw [if_neg hroom]
        simp
        omega

/-! ## Commands -/

theorem holds_buf (serviceId : SERVICE_ID) (call : Call) : Holds (call.buf serviceId) (call.echoLine serviceId) := by
  unfold Call.buf Call.echoLine
  by_cases hon : call.s_needEchoCommand = true ∧ serviceId = .EMBMS
  · rw [if_pos hon, if_pos hon]
    cases htag : call.tag with
    | false => exact holds_echo call.command
    | true => exact (holds_snprintf _).strlcat crlf
  · rw [if_neg hon, if_neg hon]
    exact holds_nil

/-- The answer to a command that has its final response. -/
theorem answer_eq_iff {f : Line} (hf : r.finalResponse = some f) :
    answer (call.buf serviceId) 0 (some r.reverseIntermediates) =
        call.echoLine serviceId ++ r.p_intermediates.reverse.flatMap (· ++ crlf) ++ f ++ crlf ↔
      (r.success = true ∨ r.p_intermediates = []) ∧
        (call.echoLine serviceId ++ r.p_intermediates.reverse.flatMap (· ++ crlf) ++ f ++ crlf).length < bufSize := by
  have hholds := holds_answer_response (holds_buf serviceId call) r.reverseIntermediates
  have hbody : r.reverseIntermediates.body =
      (if r.success then r.p_intermediates.reverse.flatMap (· ++ crlf) else []) ++ f := by
    simp only [CmdResponse.body, CmdResponse.reverseIntermediates, hf, Option.getD_some]
  rw [hbody] at hholds
  by_cases hall : r.success = true ∨ r.p_intermediates = []
  · have hlines : (if r.success then r.p_intermediates.reverse.flatMap (· ++ crlf) else []) =
        r.p_intermediates.reverse.flatMap (· ++ crlf) := by
      rcases hall with hsuccess | hnil
      · rw [if_pos hsuccess]
      · simp [hnil]
    rw [hlines, ← List.append_assoc] at hholds
    rw [hholds.eq_iff]
    exact (and_iff_right hall).symm
  · rw [not_or] at hall
    refine iff_of_false (fun heq => ?_) fun hand => hand.1.elim hall.1 hall.2
    -- the lines that are missing make it longer
    have hshort : (answer (call.buf serviceId) 0 (some r.reverseIntermediates)).length ≤
        (call.echoLine serviceId ++ f ++ crlf).length := by
      rw [if_neg hall.1, List.nil_append] at hholds
      rw [hholds]
      exact List.length_take_le' _ _
    obtain ⟨line, lines, hcons⟩ := List.exists_cons_of_ne_nil hall.2
    rw [heq, hcons] at hshort
    simp [crlf] at hshort
    omega

theorem timesOut_eq_iff :
    answer (call.buf serviceId) ERROR_TIMEOUT none = call.echoLine serviceId ++ ascii "ERROR" ++ crlf ↔
      (call.echoLine serviceId ++ ascii "ERROR" ++ crlf).length < bufSize :=
  (holds_answer_error (holds_buf serviceId call) (by decide) none).eq_iff

/-! ## Side by side -/

/-- What the relay has for a command that waits. -/
def asWaiting (w : Call × CmdResponse) : Waiting :=
  { call := w.1, lines := w.2.p_intermediates.reverse, final := w.2.finalResponse }

/-- The relay that has what the channel has. -/
def Channel.relay (s : Channel) : Relay := { waiting := s.waiting.map asWaiting, sent := s.sent }

structure Sim (p : Channel × Relay) : Prop where
  relay : p.2 = p.1.relay
  overflow : p.1.overflow = false

theorem Sim.whole (h : Sim p) : Whole p := ⟨by rw [h.relay]; rfl, h.overflow⟩

theorem start_sim : Sim start := ⟨rfl, rfl⟩

theorem step_eq {a : Label} {s s' : Channel} {t t' : Relay} :
    step serviceId (s, t) a = some (s', t') ↔ s.step serviceId a = some s' ∧ t.step serviceId a = some t' := by
  simp [step, Option.bind_eq_some_iff]

/-- A line for the command that waits. -/
theorem line_asWaiting (hfinal : r.finalResponse = none) (sent : List Line) (line : Line) :
    Relay.line serviceId { waiting := some (asWaiting (call, r)), sent } line =
      { waiting := some (asWaiting (call, r.processLine line)), sent } := by
  unfold Relay.line CmdResponse.processLine isFinal
  cases hsuccess : isFinalResponseSuccess line with
  | true => simp [asWaiting, hfinal]
  | false =>
    cases herror : isFinalResponseError line with
    | true => simp [asWaiting, hfinal]
    | false => simp [asWaiting, hfinal]

/-- What fits is relayed as it should be. -/
theorem step_relay {s s' : Channel} {t : Relay} {a : Label} (ha : Fits serviceId (s, t) a)
    (hstep : s.step serviceId a = some s') :
    s.relay.step serviceId a = some s'.relay ∧ s'.overflow = s.overflow := by
  obtain ⟨waiting, sent, overflow⟩ := s
  cases a with
  | sendCommand call =>
    cases waiting with
    | none =>
      cases hstep
      exact ⟨rfl, rfl⟩
    | some w => cases hstep
  | line line =>
    cases hstep
    cases waiting with
    | none =>
      have hline := processUnsolResp_iff.2 (ha.1 rfl)
      simp [Channel.processLine, Channel.handleUnsolicited, hline, Channel.relay, Relay.step, Relay.line]
    | some w =>
      have hfinal := ha.2 w.1 w.2 rfl
      exact ⟨congrArg some (line_asWaiting hfinal sent line), rfl⟩
  | wakes =>
    cases waiting with
    | none => cases hstep
    | some w =>
      obtain ⟨call, r⟩ := w
      cases hfinal : r.finalResponse with
      | none => simp [Channel.step, hfinal] at hstep
      | some f =>
        have hanswer := (@answer_eq_iff serviceId _ _ _ hfinal).2 (ha call r f rfl hfinal)
        simp only [Channel.step, hfinal, Option.isSome_some, if_true, hanswer] at hstep
        cases hstep
        refine ⟨?_, rfl⟩
        simp [Channel.relay, Relay.step, asWaiting, hfinal]
  | timesOut =>
    cases waiting with
    | none => cases hstep
    | some w =>
      have hanswer := timesOut_eq_iff.2 (ha w.1 w.2 rfl)
      cases hstep
      refine ⟨?_, rfl⟩
      simp [Channel.relay, Relay.step, asWaiting, hanswer]

theorem Sim.keeps {a : Label} (h : Sim p) (ha : Fits serviceId p a) (hstep : step serviceId p a = some p') :
    Sim p' := by
  obtain ⟨s, t⟩ := p
  obtain ⟨s', t'⟩ := p'
  obtain ⟨hs, ht⟩ := step_eq.1 hstep
  obtain ⟨hrelay, hoverflow⟩ := step_relay ha hs
  obtain rfl : t = s.relay := h.relay
  rw [hrelay] at ht
  exact ⟨(Option.some.inj ht).symm, hoverflow.trans h.overflow⟩

/-- An unsolicited line that does not fit. -/
theorem handleUnsolicited_broken {s : Channel} {t : Relay} (h : ¬ FitsUnsolicited serviceId line)
    (ht : t.sent = s.sent ++ [unsolicited serviceId line]) : ¬ Whole (s.handleUnsolicited serviceId line, t) := by
  intro hwhole
  apply h
  apply processUnsolResp_iff.1
  unfold Channel.handleUnsolicited at hwhole
  cases hresp : processUnsolResp serviceId line with
  | none =>
    rw [hresp] at hwhole
    cases hwhole.overflow
  | some texts =>
    rw [hresp] at hwhole
    exact congrArg some (List.append_cancel_left (hwhole.sent.trans ht))

theorem Sim.breaks {a : Label} (h : Sim p) (ha : ¬ Fits serviceId p a) :
    ∃ p', step serviceId p a = some p' ∧ ¬ Whole p' := by
  obtain ⟨⟨waiting, sent, overflow⟩, t⟩ := p
  obtain rfl : t = Channel.relay { waiting, sent, overflow } := h.relay
  cases a with
  | sendCommand call => exact (ha trivial).elim
  | line line =>
    refine ⟨_, step_eq.2 ⟨rfl, rfl⟩, fun hwhole => ha ⟨fun hnone => ?_, fun call r hsome => ?_⟩⟩
    · by_contra hfits
      obtain rfl : waiting = none := hnone
      exact handleUnsolicited_broken hfits rfl hwhole
    · cases hfinal : r.finalResponse with
      | none => rfl
      | some f =>
        -- the relay has sent one more
        obtain rfl : waiting = some (call, r) := hsome
        have hsent := hwhole.sent
        simp [Channel.processLine, Channel.relay, Relay.line, asWaiting, hfinal] at hsent
  | wakes =>
    simp only [Fits, not_forall] at ha
    obtain ⟨call, r, f, hwaiting, hfinal, hnot⟩ := ha
    obtain rfl : waiting = some (call, r) := hwaiting
    refine ⟨_, step_eq.2 ⟨if_pos (by rw [hfinal]; rfl), rfl⟩, fun hwhole => hnot ((answer_eq_iff hfinal).1 ?_)⟩
    have hsent := List.append_cancel_left hwhole.sent
    simpa [asWaiting, hfinal] using hsent
  | timesOut =>
    simp only [Fits, not_forall] at ha
    obtain ⟨call, r, hwaiting, hnot⟩ := ha
    obtain rfl : waiting = some (call, r) := hwaiting
    refine ⟨_, step_eq.2 ⟨rfl, rfl⟩, fun hwhole => hnot (timesOut_eq_iff.1 ?_)⟩
    exact List.singleton_injective (List.append_cancel_left hwhole.sent)

/-- **A diverted channel relays everything whole exactly if everything fits.** -/
theorem relays_iff (serviceId : SERVICE_ID) (labels : List Label) :
    Always (step serviceId) Whole start labels ↔ Steps (step serviceId) (Fits serviceId) start labels :=
  always_iff_steps_of_invariant (fun _ _ _ hs ha hstep => hs.keeps ha hstep) (fun _ hs => hs.whole)
    (fun _ _ hs ha => hs.breaks ha) start_sim labels

/-- An unsolicited line of 200 bytes is copied into a buffer of 128. -/
theorem relays_fails_longLine : ¬ Always (step .EMBMS) Whole start [.line (List.replicate 200 65)] := by
  intro h
  have hbroken : (start.1.handleUnsolicited .EMBMS (List.replicate 200 65)).overflow = true := by decide +kernel
  have hwhole := (h.2 _ (step_eq.2 ⟨rfl, rfl⟩)).overflow
  exact Bool.false_ne_true (hwhole.symm.trans hbroken)

end UniRil.Divril
