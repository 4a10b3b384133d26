import UniRil.Divril.Code
import Mathlib.Data.List.Infix

/-!
# The answer to a diverted command

Every branch of sendAtCmd builds its answer in a buffer of ARRAY_SIZE * 8 bytes, whatever the pieces are.
-/

namespace UniRil.Divril

open AtTok (Line at_tok_nextint at_tok_flag_start at_tok_hasmore skipNextComma)

/-! ## What the answer is -/

def isFinal (line : Line) : Bool := isFinalResponseSuccess line || isFinalResponseError line

/-- The lines before the final response and that one, or the final response alone when it is an error. -/
def Outcome.result : Outcome → Line
  | .reads lines =>
    match lines.find? isFinal with
    | none => ascii "ERROR"
    | some f =>
      if isFinalResponseSuccess f then (lines.takeWhile (!isFinal ·)).flatMap (· ++ crlf) ++ f else f
  | _ => ascii "ERROR"

/-- The channel is given the command. -/
def Outcome.takes : Outcome → Bool
  | .pending | .closed => false
  | .writeError | .reads _ => true

def deviceInfoResult (interfaces : Interfaces) : Line :=
  match interfaces.hwaddr with
  | some macAddr => ascii "%MBMSCMD:" ++ macText macAddr ++ crlf ++ ascii "OK"
  | none => ascii "ERROR"

/-- The number behind the first comma says what to do. -/
def enableEmbmsResult (interfaces : Interfaces) (text : Line) : Line :=
  let line := skipNextComma (some text)
  let num := if at_tok_hasmore line then (at_tok_nextint line).p_out.getD (-1) else -1
  if num = 0 then ascii "OK"
  else if num = 1 ∧ interfaces.ifc_enable = 0 then ascii "%MBMSCMD:" ++ ifname ++ crlf ++ ascii "OK"
  else ascii "ERROR"

/-- sendAtCmd answers these words by itself. -/
def isLocal (text : Line) : Bool := strstr text (ascii "DEVICE INFO") || strstr text (ascii "ENABLE_EMBMS")

def result (interfaces : Interfaces) (serviceId : SERVICE_ID) (text : Line) (outcome : Outcome) : Line :=
  match serviceId with
  | .EMBMS =>
    if strstr text (ascii "DEVICE INFO") then deviceInfoResult interfaces
    else if strstr text (ascii "ENABLE_EMBMS") then enableEmbmsResult interfaces text
    else if text = ascii "ATE1" ∨ text = ascii "ATE0" then ascii "OK"
    else outcome.result
  | .MDT => outcome.result

/-- The EMBMS service echoes the command when it was told to. -/
def echoed (serviceId : SERVICE_ID) (s_needEchoCommand : Bool) (text : Line) : Line :=
  if s_needEchoCommand ∧ serviceId = .EMBMS then text ++ crlf else []

/-- The echo line, if there is one, and the result, each with its end of line. -/
def expected (interfaces : Interfaces) (serviceId : SERVICE_ID) (s_needEchoCommand : Bool) (text : Line)
    (outcome : Outcome) : Line :=
  echoed serviceId s_needEchoCommand text ++ result interfaces serviceId text outcome ++ crlf

def cereg (n : Int) : Line := ascii "AT+CEREG=" ++ decimal n

def mbmsereg (n : Int) : Line := ascii "AT+MBMSEREG=" ++ decimal n

/-- The command is answered once, and AT+CEREG=n is AT+MBMSEREG=n for the modem. -/
def AnsweredOnce (interfaces : Interfaces) (serviceId : SERVICE_ID) (s_needEchoCommand : Bool) (text : Line)
    (outcome : Outcome) : Prop :=
  ∃ done, sendAtCmd interfaces false serviceId s_needEchoCommand (received serviceId text) outcome = some done ∧
    done.sent = [expected interfaces serviceId s_needEchoCommand text outcome] ∧
    (serviceId = .EMBMS → ∀ n, text = cereg n → done.written = if outcome.takes then [mbmsereg n] else [])

/-- What the EMBMS service needs of a command. -/
structure EmbmsAnswerable (s_needEchoCommand : Bool) (text : Line) (outcome : Outcome) : Prop where
  nonempty : text ≠ []
  /-- The commands that turn the echo on and off are not echoed. -/
  noEcho : text = ascii "ATE1" ∨ text = ascii "ATE0" → s_needEchoCommand = false
  /-- A number is there to be set. It is echoed alone, and as an `int`. -/
  number : isLocal text = false → setsCereg text = true →
    ∃ v, (at_tok_nextint (at_tok_flag_start (some text) 61)).value = some v ∧
      (s_needEchoCommand = true → text = cereg v) ∧ (outcome.takes = true → ∀ n, text = cereg n → n = v)

/-- The answer fits the buffer, and the EMBMS service has what it needs. -/
def Answerable (interfaces : Interfaces) (serviceId : SERVICE_ID) (s_needEchoCommand : Bool) (text : Line)
    (outcome : Outcome) : Prop :=
  (expected interfaces serviceId s_needEchoCommand text outcome).length < bufSize ∧
    (serviceId = .EMBMS → EmbmsAnswerable s_needEchoCommand text outcome)

/-! ## Buffers -/

/-- A buffer holds the beginning of `text`. -/
def Holds (buf text : Line) : Prop := buf = text.take (bufSize - 1)

variable {buf text : Line}

theorem Holds.strlcat (h : Holds buf text) (src : Line) : Holds (strlcat buf src bufSize) (text ++ src) := by
  unfold Holds at *
  rw [h]
  exact Truncate.append_take _ _ _

theorem holds_nil : Holds [] [] := rfl

theorem holds_snprintf (text : Line) : Holds (snprintf bufSize text) text := rfl

theorem Holds.eq_iff (h : Holds buf text) : buf = text ↔ text.length < bufSize := by
  rw [h, List.take_eq_self_iff]
  exact Nat.le_sub_one_iff_lt (by decide)

theorem Holds.length_lt (h : Holds buf text) : buf.length < bufSize := by
  rw [h, List.length_take]
  exact Nat.lt_of_le_of_lt (Nat.min_le_left _ _) (by decide)

theorem holds_foldl (lines : List Line) (h : Holds buf text) :
    Holds (lines.foldl (fun buf line => Divril.strlcat (Divril.strlcat buf line bufSize) crlf bufSize) buf)
      (text ++ lines.flatMap (· ++ crlf)) := by
  induction lines generalizing buf text with
  | nil => simpa using h
  | cons line lines ih =>
    have hrest := ih ((h.strlcat line).strlcat crlf)
    rw [List.foldl_cons, List.flatMap_cons, ← List.append_assoc]
    simpa only [List.append_assoc] using hrest

/-! ## The channel -/

/-- The wait ends with the first final response. -/
theorem awaits_eq (p : List Line) (lines : List Line) :
    CmdResponse.awaits { success := false, finalResponse := none, p_intermediates := p } lines =
      (lines.find? isFinal).map fun f =>
        { success := isFinalResponseSuccess f, finalResponse := some f,
          p_intermediates := (lines.takeWhile (!isFinal ·)).reverse ++ p } := by
  induction lines generalizing p with
  | nil => rfl
  | cons line lines ih =>
    unfold CmdResponse.awaits CmdResponse.processLine
    by_cases hsuccess : isFinalResponseSuccess line = true
    · simp [hsuccess, isFinal]
    · by_cases herror : isFinalResponseError line = true
      · simp [hsuccess, herror, isFinal]
      · have hrest := ih (line :: p)
        simp [hsuccess, herror, isFinal] at hrest ⊢
        exact hrest

/-- The lines are left out of an answer that is an error. -/
def CmdResponse.body (r : CmdResponse) : Line :=
  (if r.success then r.p_intermediates.flatMap (· ++ crlf) else []) ++ r.finalResponse.getD []

theorem holds_answer_response (h : Holds buf text) (r : CmdResponse) :
    Holds (answer buf 0 (some r)) (text ++ r.body ++ crlf) := by
  unfold answer CmdResponse.body
  refine Holds.strlcat ?_ crlf
  rw [if_neg (by decide)]
  cases hsuccess : r.success with
  | true =>
    simp only [hsuccess, if_true, ← List.append_assoc]
    exact (holds_foldl _ h).strlcat _
  | false =>
    simp only [hsuccess, Bool.false_eq_true, if_false, List.nil_append]
    exact h.strlcat _

theorem holds_answer_error (h : Holds buf text) {err : Int} (herr : err < 0) (p_outResponse : Option CmdResponse) :
    Holds (answer buf err p_outResponse) (text ++ ascii "ERROR" ++ crlf) := by
  unfold answer
  rw [if_pos herr]
  exact (h.strlcat _).strlcat crlf

/-- sendCommand's answer behind its echo. -/
theorem holds_answer {outcome : Outcome} {command : Line} {err : Int} {p_outResponse : Option CmdResponse}
    {written : List Line} (h : Holds buf text)
    (hsend : send_command_full_nolock (some command) outcome = some (err, p_outResponse, written)) :
    Holds (answer buf err p_outResponse) (text ++ outcome.result ++ crlf) := by
  cases outcome with
  | reads lines =>
    simp only [send_command_full_nolock, Option.map_some, Option.some.injEq, at_response_new, awaits_eq] at hsend
    simp only [Outcome.result]
    cases hfind : lines.find? isFinal with
    | none =>
      simp only [hfind, Option.map_none, Prod.mk.injEq] at hsend
      obtain ⟨rfl, rfl, -⟩ := hsend
      exact holds_answer_error h (by decide) none
    | some f =>
      simp only [hfind, Option.map_some, Prod.mk.injEq] at hsend
      obtain ⟨rfl, rfl, -⟩ := hsend
      have hresponse := holds_answer_response h
        { success := isFinalResponseSuccess f, finalResponse := some f,
          p_intermediates := lines.takeWhile (!isFinal ·) }
      simp only [CmdResponse.reverseIntermediates, List.append_nil, List.reverse_reverse]
      by_cases hsuccess : isFinalResponseSuccess f = true
      · simpa [CmdResponse.body, hsuccess] using hresponse
      · simpa [CmdResponse.body, hsuccess] using hresponse
  | pending =>
    simp only [send_command_full_nolock, Option.some.injEq, Prod.mk.injEq] at hsend
    obtain ⟨rfl, rfl, -⟩ := hsend
    exact holds_answer_error h (by decide) none
  | closed =>
    simp only [send_command_full_nolock, Option.map_some, Option.some.injEq, Prod.mk.injEq] at hsend
    obtain ⟨rfl, rfl, -⟩ := hsend
    exact holds_answer_error h (by decide) none
  | writeError =>
    simp only [send_command_full_nolock, Option.map_some, Option.some.injEq, Prod.mk.injEq] at hsend
    obtain ⟨rfl, rfl, -⟩ := hsend
    exact holds_answer_error h (by decide) none

theorem send_some (command : Line) (outcome : Outcome) :
    ∃ err p_outResponse, send_command_full_nolock (some command) outcome =
      some (err, p_outResponse, if outcome.takes then [command] else []) := by
  cases outcome with
  | pending => exact ⟨_, _, rfl⟩
  | closed => exact ⟨_, _, rfl⟩
  | writeError => exact ⟨_, _, rfl⟩
  | reads lines =>
    simp only [send_command_full_nolock, Option.map_some]
    cases at_response_new.awaits lines with
    | none => exact ⟨_, _, rfl⟩
    | some r => exact ⟨_, _, rfl⟩

/-- **sendCommand answers once.** -/
theorem sendCommand_answers (serviceId : SERVICE_ID) (on tag : Bool) (command : Line) (outcome : Outcome) {text : Line}
    (h : on = true ∧ serviceId = .EMBMS → Holds (echo command tag) text)
    (hoff : ¬ (on = true ∧ serviceId = .EMBMS) → text = []) :
    ∃ err buf, Holds buf (text ++ outcome.result ++ crlf) ∧
      sendCommand serviceId on (some command) tag outcome =
        some { err, s_needEchoCommand := on, written := if outcome.takes then [command] else [], sent := [buf] } := by
  obtain ⟨err, p_outResponse, hsend⟩ := send_some command outcome
  unfold sendCommand
  rw [hsend]
  by_cases hon : on = true ∧ serviceId = .EMBMS
  · refine ⟨err, answer (echo command tag) err p_outResponse, holds_answer (h hon) hsend, ?_⟩
    simp [hon]
  · refine ⟨err, answer [] err p_outResponse, ?_, ?_⟩
    · rw [hoff hon]
      exact holds_answer holds_nil hsend
    · simp [hon]

/-! ## Words of the command -/

theorem strstr_iff (s needle : Line) : strstr s needle = true ↔ needle <:+: s := by
  rw [strstr, List.any_eq_true, List.infix_iff_prefix_suffix]
  simp only [List.mem_tails, strStartsWith_iff]
  exact exists_congr fun t => And.comm

theorem strstr_eq_false {s needle : Line} {c : Byte} (hc : c ∈ needle) (hs : c ∉ s) : strstr s needle = false := by
  rw [Bool.eq_false_iff, Ne, strstr_iff]
  exact fun h => hs (h.subset hc)

theorem notMem_append_decimal {c : Byte} {pre : Line} (hpre : c ∉ pre) (hdigit : AtTok.isdigit c = false) (hc : c ≠ 45)
    (n : Int) : c ∉ pre ++ decimal n := by
  rw [List.mem_append, not_or]
  refine ⟨hpre, fun hmem => ?_⟩
  rcases mem_decimal hmem with h | h
  · rw [hdigit] at h
    cases h
  · exact hc h

theorem isLocal_eq_false {text : Line} : isLocal text = false ↔
    strstr text (ascii "DEVICE INFO") = false ∧ strstr text (ascii "ENABLE_EMBMS") = false := by
  rw [isLocal, Bool.or_eq_false_iff]

theorem isLocal_cereg (n : Int) : isLocal (cereg n) = false := by
  have hdevice : strstr (cereg n) (ascii "DEVICE INFO") = false :=
    @strstr_eq_false _ _ 86 (by decide) (notMem_append_decimal (by decide) (by decide) (by decide) n)
  have henable : strstr (cereg n) (ascii "ENABLE_EMBMS") = false :=
    @strstr_eq_false _ _ 78 (by decide) (notMem_append_decimal (by decide) (by decide) (by decide) n)
  rw [isLocal, hdevice, henable]
  rfl

theorem setsCereg_cereg (n : Int) : setsCereg (cereg n) = true := by
  have hset : strstr (cereg n) (ascii "AT+CEREG=") = true := (strstr_iff _ _).2 (List.prefix_append _ _).isInfix
  have hquery : strstr (cereg n) (ascii "AT+CEREG=?") = false :=
    @strstr_eq_false _ _ 63 (by decide) (notMem_append_decimal (by decide) (by decide) (by decide) n)
  rw [setsCereg, hset, hquery]
  rfl

theorem flag_start_mbmsereg (n : Int) : at_tok_flag_start (some (mbmsereg n)) 61 = some (decimal n) := by
  have hsplit : ascii "AT+MBMSEREG=" = ascii "AT+MBMSEREG" ++ [61] := by decide
  rw [mbmsereg, hsplit, List.append_assoc]
  exact at_tok_flag_start_append (by decide) _

theorem mbmsereg_injective : Function.Injective mbmsereg := fun _ _ h => decimal_injective (List.append_cancel_left h)

theorem cr_notMem_cereg (n : Int) : CR ∉ cereg n :=
  notMem_append_decimal (by decide) (by decide) (by decide) n

theorem snprintf_of_lt {s : Line} (h : s.length < bufSize) : snprintf bufSize s = s :=
  List.take_of_length_le (Nat.le_sub_one_of_lt h)

theorem length_mbmsereg {v : Int} (hlow : -2 ^ 31 ≤ v) (hhigh : v < 2 ^ 31) : (mbmsereg v).length < bufSize := by
  have hle := length_decimal_le hlow hhigh
  have hpre : (ascii "AT+MBMSEREG=").length = 12 := by decide
  have hsize : bufSize = 1024 := rfl
  rw [mbmsereg, List.length_append, hpre, hsize]
  omega

/-- The echo is made from what the command was rewritten to. -/
theorem holds_echo_mbmsereg {v : Int} (hlow : -2 ^ 31 ≤ v) (hhigh : v < 2 ^ 31) :
    Holds (echo (mbmsereg v) true) (cereg v ++ crlf) := by
  obtain ⟨w, hread, -, -, hw⟩ := at_tok_nextint_end v
  obtain rfl := hw hlow hhigh
  unfold echo
  rw [snprintf_of_lt (length_mbmsereg hlow hhigh), flag_start_mbmsereg, hread]
  exact (holds_snprintf _).strlcat crlf

theorem holds_echo (command : Line) : Holds (echo command false) (command ++ crlf) :=
  (holds_nil.strlcat command).strlcat crlf

theorem holds_localEcho (on : Bool) (command : Line) : Holds (localEcho on command) (echoed .EMBMS on command) := by
  unfold localEcho echoed
  cases on with
  | false => exact holds_nil
  | true => exact (holds_nil.strlcat command).strlcat crlf

/-! ## sendAtCmd -/

variable {interfaces : Interfaces} {on : Bool} {outcome : Outcome}

theorem enableEmbms_answers (interfaces : Interfaces) (on : Bool) (text : Line) :
    ∃ err buf, enableEmbms interfaces on text = { err, s_needEchoCommand := on, written := [], sent := [buf] } ∧
      Holds buf (echoed .EMBMS on text ++ enableEmbmsResult interfaces text ++ crlf) := by
  have hecho := holds_localEcho on text
  have herror := (hecho.strlcat (ascii "ERROR")).strlcat crlf
  have hok := (hecho.strlcat (ascii "OK")).strlcat crlf
  have hstart := ((((hecho.strlcat (ascii "%MBMSCMD:")).strlcat ifname).strlcat crlf).strlcat (ascii "OK")).strlcat crlf
  unfold enableEmbms enableEmbmsResult
  by_cases hmore : at_tok_hasmore (skipNextComma (some text)) = true
  · simp only [if_pos hmore]
    by_cases hzero : (at_tok_nextint (skipNextComma (some text))).p_out.getD (-1) = 0
    · simp only [if_pos hzero]
      exact ⟨0, _, rfl, hok⟩
    · simp only [if_neg hzero]
      by_cases hone : (at_tok_nextint (skipNextComma (some text))).p_out.getD (-1) = 1
      · by_cases henabled : interfaces.ifc_enable = 0
        · simp only [hone, henabled, and_self, if_true, ne_eq, not_true_eq_false, if_false]
          refine ⟨0, _, rfl, ?_⟩
          simpa only [List.append_assoc] using hstart
        · simp only [hone, henabled, and_false, if_true, if_false, ne_eq, not_false_eq_true]
          exact ⟨-1, _, rfl, herror⟩
      · simp only [hone, false_and, if_false]
        exact ⟨-1, _, rfl, herror⟩
  · simp only [if_neg hmore]
    exact ⟨-1, _, rfl, herror⟩

/-- The answers that sendAtCmd has by itself. -/
theorem sendEmbmsCmd_local (interfaces : Interfaces) (on : Bool) (outcome : Outcome) (h : isLocal text = true) :
    ∃ err buf, sendEmbmsCmd interfaces on text outcome =
        some { err, s_needEchoCommand := on, written := [], sent := [buf] } ∧
      Holds buf (expected interfaces .EMBMS on text outcome) := by
  have hecho := holds_localEcho on text
  unfold sendEmbmsCmd expected result
  by_cases hdevice : strstr text (ascii "DEVICE INFO") = true
  · simp only [if_pos hdevice]
    refine ⟨0, _, rfl, Holds.strlcat ?_ crlf⟩
    unfold deviceInfoResult
    cases interfaces.hwaddr with
    | none => exact hecho.strlcat _
    | some macAddr =>
      have hall := (((hecho.strlcat (ascii "%MBMSCMD:")).strlcat (macText macAddr)).strlcat crlf).strlcat (ascii "OK")
      simpa only [List.append_assoc] using hall
  · have henable : strstr text (ascii "ENABLE_EMBMS") = true := by
      simpa [isLocal, hdevice] using h
    obtain ⟨err, buf, heq, hholds⟩ := enableEmbms_answers interfaces on text
    simp only [if_neg hdevice, if_pos henable]
    exact ⟨err, buf, congrArg some heq, hholds⟩

theorem sendEmbmsCmd_cereg (interfaces : Interfaces) (on : Bool) (outcome : Outcome) (hlocal : isLocal text = false)
    (hsets : setsCereg text = true) :
    (at_tok_nextint (at_tok_flag_start (some text) 61)).value = none ∧
        (∀ done, sendEmbmsCmd interfaces on text outcome = some done → done.sent = []) ∨
      ∃ v err buf, (at_tok_nextint (at_tok_flag_start (some text) 61)).value = some v ∧
        sendEmbmsCmd interfaces on text outcome =
          some { err, s_needEchoCommand := on, written := if outcome.takes then [mbmsereg v] else [], sent := [buf] } ∧
        Holds buf ((if on then cereg v ++ crlf else []) ++ outcome.result ++ crlf) := by
  obtain ⟨hdevice, henable⟩ := isLocal_eq_false.1 hlocal
  unfold sendEmbmsCmd
  rw [if_neg (by simp [hdevice]), if_neg (by simp [henable]), if_pos hsets]
  rcases at_tok_nextint_cases (at_tok_flag_start (some text) 61) with ⟨hok, hvalue⟩ |
    ⟨v, hok, hout, hvalue, hlow, hhigh⟩
  · refine .inl ⟨hvalue, fun done hdone => ?_⟩
    simp only [hok, Bool.false_eq_true, if_false, Option.some.injEq] at hdone
    rw [← hdone]
  · have hon : on = true ∧ SERVICE_ID.EMBMS = .EMBMS →
        Holds (echo (mbmsereg v) true) (if on then cereg v ++ crlf else []) := by
      intro hon
      rw [if_pos hon.1]
      exact holds_echo_mbmsereg hlow hhigh
    obtain ⟨err, buf, hholds, heq⟩ := sendCommand_answers .EMBMS on true (mbmsereg v) outcome hon fun hoff => by
      rw [if_neg fun hand => hoff ⟨hand, rfl⟩]
    refine .inr ⟨v, err, buf, hvalue, ?_, hholds⟩
    have hsnprintf : snprintf bufSize (mbmsereg v) = mbmsereg v := snprintf_of_lt (length_mbmsereg hlow hhigh)
    simp only [if_pos hok, hout, Option.getD_some]
    exact (congrArg (fun buf => sendCommand .EMBMS on (some buf) true outcome) hsnprintf).trans heq

theorem sendEmbmsCmd_other (interfaces : Interfaces) (on : Bool) (outcome : Outcome) (hlocal : isLocal text = false)
    (hsets : setsCereg text = false) (hecho : text ≠ ascii "ATE1" ∧ text ≠ ascii "ATE0") :
    ∃ err buf, sendEmbmsCmd interfaces on text outcome =
        some { err, s_needEchoCommand := on, written := if outcome.takes then [text] else [], sent := [buf] } ∧
      Holds buf (expected interfaces .EMBMS on text outcome) := by
  obtain ⟨hdevice, henable⟩ := isLocal_eq_false.1 hlocal
  have hresult : result interfaces .EMBMS text outcome = outcome.result := by
    simp [result, hdevice, henable, hecho]
  have hsend : sendEmbmsCmd interfaces on text outcome = sendCommand .EMBMS on (some text) false outcome := by
    simp [sendEmbmsCmd, hdevice, henable, hsets, hecho]
  have hon : on = true ∧ SERVICE_ID.EMBMS = .EMBMS → Holds (echo text false) (echoed .EMBMS on text) := by
    intro hon
    rw [echoed, if_pos hon]
    exact holds_echo text
  obtain ⟨err, buf, hholds, heq⟩ := sendCommand_answers .EMBMS on false text outcome hon fun hoff => if_neg hoff
  refine ⟨err, buf, hsend.trans heq, ?_⟩
  rw [expected, hresult]
  exact hholds

/-- Of two commands with an end of line, the answer to one is that to the other only where they are the same. -/
theorem Holds.echo_iff {c t rest : Line} (hc : CR ∉ c) (h : Holds buf (c ++ crlf ++ rest)) :
    buf = t ++ crlf ++ rest ↔ (t ++ crlf ++ rest).length < bufSize ∧ t = c := by
  constructor
  · intro heq
    have hfits : (t ++ crlf ++ rest).length < bufSize := heq ▸ h.length_lt
    refine ⟨hfits, ?_⟩
    rw [h] at heq
    by_cases hlt : t.length < c.length
    · -- where the one ends, the other goes on with a byte that is no CR
      have hcr : (t ++ crlf ++ rest)[t.length]? = some CR := by simp [crlf]
      have hbyte : ((c ++ crlf ++ rest).take (bufSize - 1))[t.length]? = some (c.get ⟨t.length, hlt⟩) := by
        have hroom : t.length < bufSize - 1 := by
          simp [crlf] at hfits
          omega
        rw [List.getElem?_take_of_lt hroom, List.append_assoc, List.getElem?_append_left hlt,
          List.getElem?_eq_getElem hlt]
        rfl
      rw [heq, hcr] at hbyte
      exact absurd (Option.some.inj hbyte ▸ List.get_mem _ _) hc
    · have hall : (c ++ crlf ++ rest).length ≤ bufSize - 1 := by
        simp only [List.length_append] at hfits ⊢
        omega
      rw [List.take_of_length_le hall] at heq
      simp only [List.append_assoc] at heq
      exact (List.append_cancel_right heq).symm
  · rintro ⟨hfits, rfl⟩
    exact h.eq_iff.2 hfits

/-! ## One answer -/

theorem sendEmbmsCmd_echoSwitch (interfaces : Interfaces) (on : Bool) (outcome : Outcome)
    (h : text = ascii "ATE1" ∨ text = ascii "ATE0") :
    ∃ err on', sendEmbmsCmd interfaces on text outcome =
      some { err, s_needEchoCommand := on', written := [], sent := [ascii "OK" ++ crlf] } := by
  rcases h with rfl | rfl
  · exact ⟨0, true, rfl⟩
  · exact ⟨0, false, rfl⟩

theorem answeredOnce_iff_of_call {serviceId : SERVICE_ID} {done : Done}
    (h : sendAtCmd interfaces false serviceId on (received serviceId text) outcome = some done) :
    AnsweredOnce interfaces serviceId on text outcome ↔
      done.sent = [expected interfaces serviceId on text outcome] ∧
        (serviceId = .EMBMS → ∀ n, text = cereg n → done.written = if outcome.takes then [mbmsereg n] else []) := by
  constructor
  · rintro ⟨done', hdone, hsent⟩
    obtain rfl := Option.some.inj (h.symm.trans hdone)
    exact hsent
  · exact fun hsent => ⟨done, h, hsent⟩

/-- A command that is sent on, or that sendAtCmd answers, with nothing to be rewritten. -/
theorem answeredOnce_iff_fits {err : Int} {written : List Line}
    (h : sendAtCmd interfaces false .EMBMS on (received .EMBMS text) outcome =
      some { err, s_needEchoCommand := on, written, sent := [buf] })
    (hholds : Holds buf (expected interfaces .EMBMS on text outcome)) (hcereg : ∀ n, text ≠ cereg n)
    (hneeds : EmbmsAnswerable on text outcome) :
    AnsweredOnce interfaces .EMBMS on text outcome ↔ Answerable interfaces .EMBMS on text outcome := by
  rw [answeredOnce_iff_of_call h, Answerable, ← hholds.eq_iff]
  constructor
  · exact fun hsent => ⟨List.singleton_injective hsent.1, fun _ => hneeds⟩
  · exact fun hand => ⟨congrArg (fun buf => [buf]) hand.1, fun _ n hn => absurd hn (hcereg n)⟩

theorem ate_words (h : text = ascii "ATE1" ∨ text = ascii "ATE0") : isLocal text = false ∧ setsCereg text = false := by
  rcases h with rfl | rfl
  · decide
  · decide

theorem expected_of_not_local (interfaces : Interfaces) (on : Bool) (outcome : Outcome)
    (hlocal : isLocal text = false) (hate : ¬ (text = ascii "ATE1" ∨ text = ascii "ATE0")) :
    expected interfaces .EMBMS on text outcome = echoed .EMBMS on text ++ outcome.result ++ crlf := by
  obtain ⟨hdevice, henable⟩ := isLocal_eq_false.1 hlocal
  simp [expected, result, hdevice, henable, hate]

/-- The commands that turn the echo on and off. -/
theorem echoSwitch_answeredOnce_iff (hcall : sendAtCmd interfaces false .EMBMS on (received .EMBMS text) outcome =
      sendEmbmsCmd interfaces on text outcome) (hate : text = ascii "ATE1" ∨ text = ascii "ATE0") :
    AnsweredOnce interfaces .EMBMS on text outcome ↔ Answerable interfaces .EMBMS on text outcome := by
  obtain ⟨hlocal, hsets⟩ := ate_words hate
  obtain ⟨err, on', heq⟩ := sendEmbmsCmd_echoSwitch interfaces on outcome hate
  obtain ⟨hdevice, henable⟩ := isLocal_eq_false.1 hlocal
  have hexpected : expected interfaces .EMBMS on text outcome = echoed .EMBMS on text ++ (ascii "OK" ++ crlf) := by
    simp [expected, result, hdevice, henable, hate]
  rw [answeredOnce_iff_of_call (hcall.trans heq), Answerable, hexpected]
  constructor
  · rintro ⟨hsent, -⟩
    have hnil : [] = echoed .EMBMS on text := List.append_cancel_right (List.singleton_injective hsent)
    have hoff : on = false := by
      rw [Bool.eq_false_iff]
      rintro rfl
      simp [echoed, crlf] at hnil
    rw [← hnil]
    refine ⟨by decide, fun _ => ⟨?_, fun _ => hoff, fun _ hset => ?_⟩⟩
    · rcases hate with rfl | rfl
      · decide
      · decide
    · rw [hsets] at hset
      cases hset
  · rintro ⟨-, hneeds⟩
    obtain rfl := (hneeds rfl).noEcho hate
    refine ⟨rfl, fun _ n hn => ?_⟩
    rw [hn, setsCereg_cereg] at hsets
    cases hsets

/-- The commands that are rewritten. -/
theorem cereg_answeredOnce_iff (hcall : sendAtCmd interfaces false .EMBMS on (received .EMBMS text) outcome =
      sendEmbmsCmd interfaces on text outcome) (hne : text ≠ []) (hlocal : isLocal text = false)
    (hsets : setsCereg text = true) :
    AnsweredOnce interfaces .EMBMS on text outcome ↔ Answerable interfaces .EMBMS on text outcome := by
  have hate : ¬ (text = ascii "ATE1" ∨ text = ascii "ATE0") := by
    intro hate
    rw [(ate_words hate).2] at hsets
    cases hsets
  have hexpected := expected_of_not_local interfaces on outcome hlocal hate
  rcases sendEmbmsCmd_cereg interfaces on outcome hlocal hsets with ⟨hvalue, hsent⟩ | ⟨v, err, buf, hvalue, heq, hholds⟩
  · constructor
    · rintro ⟨done, hdone, hone, -⟩
      rw [hsent done (hcall.symm.trans hdone)] at hone
      cases hone
    · rintro ⟨-, hneeds⟩
      obtain ⟨v, hv, -⟩ := (hneeds rfl).number hlocal hsets
      rw [hvalue] at hv
      cases hv
  · have htext : buf = echoed .EMBMS on text ++ outcome.result ++ crlf ↔
        (echoed .EMBMS on text ++ outcome.result ++ crlf).length < bufSize ∧ (on = true → text = cereg v) := by
      cases on with
      | false =>
        have hiff := hholds.eq_iff
        simpa [echoed] using hiff
      | true =>
        have hassoc : Holds buf (cereg v ++ crlf ++ (outcome.result ++ crlf)) := by
          rw [← List.append_assoc]
          exact hholds
        have hiff := hassoc.echo_iff (t := text) (cr_notMem_cereg v)
        simpa [echoed] using hiff
    have hwritten : (∀ n, text = cereg n → (if outcome.takes then [mbmsereg v] else []) =
          if outcome.takes then [mbmsereg n] else []) ↔ (outcome.takes = true → ∀ n, text = cereg n → n = v) := by
      cases outcome.takes with
      | false => simp
      | true => simp [mbmsereg_injective.eq_iff, eq_comm]
    rw [answeredOnce_iff_of_call (hcall.trans heq), Answerable, hexpected]
    constructor
    · rintro ⟨hone, hcereg⟩
      obtain ⟨hfits, hecho⟩ := htext.1 (List.singleton_injective hone)
      refine ⟨hfits, fun _ => ⟨hne, fun h => absurd h hate, fun _ _ => ⟨v, hvalue, hecho, ?_⟩⟩⟩
      exact hwritten.1 (hcereg rfl)
    · rintro ⟨hfits, hneeds⟩
      obtain ⟨w, hw, hecho, hnumber⟩ := (hneeds rfl).number hlocal hsets
      obtain rfl : v = w := Option.some.inj (hvalue.symm.trans hw)
      exact ⟨congrArg (fun buf => [buf]) (htext.2 ⟨hfits, hecho⟩), fun _ => hwritten.2 hnumber⟩

theorem embms_answeredOnce_iff (hcall : sendAtCmd interfaces false .EMBMS on (received .EMBMS text) outcome =
      sendEmbmsCmd interfaces on text outcome) (hne : text ≠ []) :
    AnsweredOnce interfaces .EMBMS on text outcome ↔ Answerable interfaces .EMBMS on text outcome := by
  by_cases hlocal : isLocal text = true
  · obtain ⟨err, buf, heq, hholds⟩ := sendEmbmsCmd_local interfaces on outcome hlocal
    have hcereg : ∀ n, text ≠ cereg n := by
      rintro n rfl
      rw [isLocal_cereg] at hlocal
      cases hlocal
    refine answeredOnce_iff_fits (hcall.trans heq) hholds hcereg ⟨hne, fun hate => ?_, fun hnot => ?_⟩
    · rw [(ate_words hate).1] at hlocal
      cases hlocal
    · rw [hlocal] at hnot
      cases hnot
  rw [Bool.not_eq_true] at hlocal
  by_cases hsets : setsCereg text = true
  · exact cereg_answeredOnce_iff hcall hne hlocal hsets
  rw [Bool.not_eq_true] at hsets
  have hcereg : ∀ n, text ≠ cereg n := by
    rintro n rfl
    rw [setsCereg_cereg] at hsets
    cases hsets
  by_cases hate : text = ascii "ATE1" ∨ text = ascii "ATE0"
  · exact echoSwitch_answeredOnce_iff hcall hate
  · obtain ⟨err, buf, heq, hholds⟩ := sendEmbmsCmd_other interfaces on outcome hlocal hsets (not_or.1 hate)
    refine answeredOnce_iff_fits (hcall.trans heq) hholds hcereg ⟨hne, fun h => absurd h hate, fun _ hset => ?_⟩
    rw [hsets] at hset
    cases hset

theorem mdt_answeredOnce_iff : AnsweredOnce interfaces .MDT on text outcome ↔
    Answerable interfaces .MDT on text outcome := by
  have hoff : ¬ (on = true ∧ SERVICE_ID.MDT = .EMBMS) := by simp
  obtain ⟨err, buf, hholds, heq⟩ := sendCommand_answers .MDT on false text outcome (fun hon => absurd hon hoff)
    fun _ => rfl
  have hexpected : expected interfaces .MDT on text outcome = [] ++ outcome.result ++ crlf := by
    rw [expected, echoed, if_neg hoff]
    rfl
  rw [← hexpected] at hholds
  have hcall : sendAtCmd interfaces false .MDT on (received .MDT text) outcome = _ := heq
  constructor
  · rintro ⟨done, hdone, hsent, -⟩
    obtain rfl := Option.some.inj (hcall.symm.trans hdone)
    refine ⟨hholds.eq_iff.1 (List.singleton_injective hsent), fun h => ?_⟩
    cases h
  · rintro ⟨hfits, -⟩
    refine ⟨_, hcall, congrArg (fun buf => [buf]) (hholds.eq_iff.2 hfits), fun h => ?_⟩
    cases h

/-- **A command is answered once exactly when its answer fits the buffer and, for the EMBMS service, it is not empty,
has the number that it sets and is not the one that switches the echo off while it is on.** -/
theorem command_answeredOnce_iff (interfaces : Interfaces) (serviceId : SERVICE_ID) (s_needEchoCommand : Bool)
    (text : Line) (outcome : Outcome) :
    AnsweredOnce interfaces serviceId s_needEchoCommand text outcome ↔
      Answerable interfaces serviceId s_needEchoCommand text outcome := by
  cases serviceId with
  | EMBMS =>
    by_cases hne : text = []
    · subst hne
      constructor
      · rintro ⟨done, hdone, -⟩
        cases hdone
      · rintro ⟨-, hneeds⟩
        exact absurd rfl (hneeds rfl).nonempty
    · refine embms_answeredOnce_iff ?_ hne
      have hreceived : received .EMBMS text = some text := by simp [received, copyHidlStringToRil, hne]
      rw [hreceived]
      rfl
  | MDT => exact mdt_answeredOnce_iff

/-- AT+CEREG= without a number is not answered. -/
theorem answeredOnce_fails_noNumber :
    ¬ AnsweredOnce ⟨none, 0⟩ .EMBMS false (ascii "AT+CEREG=") (.reads [ascii "OK"]) := by
  rintro ⟨done, hdone, hsent, -⟩
  have hcall : sendAtCmd ⟨none, 0⟩ false .EMBMS false (received .EMBMS (ascii "AT+CEREG=")) (.reads [ascii "OK"]) =
      some { err := -1, s_needEchoCommand := false, written := [], sent := [] } := by
    decide
  obtain rfl := Option.some.inj (hcall.symm.trans hdone)
  cases hsent

end UniRil.Divril
