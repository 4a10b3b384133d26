import UniRil.Lib.Runs
import UniRil.Command.Frozen

/-!
# Which command a response answers

One channel as a system: the command thread, the reader, and a modem that answers the commands it
received in order. The commands are numbered in the order they are issued.
-/

namespace UniRil.Command.Matching

open Runs

/-- What `at_send_command_full` returned for a command, and the command whose answer it is. -/
structure Return where
  command : Nat
  result : Except ATError ATResponse
  finalOf : Option Nat

structure State where
  ch : ATChannels
  readerClosed : Bool
  /-- The command the command thread waits for. -/
  thread : Option Nat
  next : Nat
  /-- The commands the modem still owes a final line, oldest first. -/
  owed : List Nat
  /-- The lines on their way to `processLine`, each with the command it answers. -/
  wire : List (Option Nat × Line)
  /-- The command that the line in `finalResponse` answers. -/
  finalOf : Option Nat
  returned : List Return

def init : State :=
  { ch := { s_type := .NO_RESULT, s_responsePrefix := [], s_smsPDU := none, sp_response := none }
    readerClosed := false, thread := none, next := 0, owed := [], wire := [], finalOf := none, returned := [] }

inductive Act
  /-- The command thread calls `at_send_command_full` and the command is written. -/
  | issue (type : ATCommandType) (responsePrefix : Line) (smspdu : Option Line)
  /-- The same, but `write` fails. -/
  | issueFails (type : ATCommandType) (responsePrefix : Line) (smspdu : Option Line)
  /-- The modem sends an intermediate line of the oldest command it owes an answer. -/
  | intermediate (line : Line)
  /-- The modem sends the final line of the oldest command it owes an answer. -/
  | final (line : Line)
  /-- The modem sends a line that answers no command. -/
  | unsolicited (line : Line)
  | processLine
  | wakeUp
  | timeout
  | closeReader

/-- The command thread returns. -/
def State.return (s : State) (command : Nat) (ch : ATChannels) (result : Except ATError ATResponse) : State :=
  { s with ch := ch, thread := none, returned := s.returned ++ [⟨command, result, s.finalOf⟩] }

/-- The command thread enters `at_send_command_full_nolock`; `written` is what the write came to. -/
def State.enter (s : State) (type : ATCommandType) (responsePrefix : Line) (smspdu : Option Line) (written : Bool) :
    State :=
  if s.ch.sp_response.isSome then
    { s with next := s.next + 1 }.return s.next (clearPendingCommand s.ch) (.error .COMMAND_PENDING)
  else if s.readerClosed then
    { s with next := s.next + 1 }.return s.next (clearPendingCommand s.ch) (.error .CHANNEL_CLOSED)
  else if written then
    { s with
      ch := beginCommand type responsePrefix smspdu, thread := some s.next, next := s.next + 1,
      owed := s.owed ++ [s.next], finalOf := none }
  else
    { s with next := s.next + 1 }.return s.next (clearPendingCommand s.ch) (.error .GENERIC)

def State.wake (s : State) (command : Nat) (timedOut : Bool) : State :=
  match wakeUp s.ch s.readerClosed timedOut with
  | (some result, ch) => s.return command ch result
  | (none, _) => s

def step (s : State) : Act → Option State
  | .issue type responsePrefix smspdu =>
    if s.thread.isNone then some (s.enter type responsePrefix smspdu true) else none
  | .issueFails type responsePrefix smspdu =>
    if s.thread.isNone then some (s.enter type responsePrefix smspdu false) else none
  | .intermediate line =>
    match s.owed, isFinalResponse line with
    | id :: _, false => some { s with wire := s.wire ++ [(some id, line)] }
    | _, _ => none
  | .final line =>
    match s.owed, isFinalResponse line with
    | id :: owed, true => some { s with owed := owed, wire := s.wire ++ [(some id, line)] }
    | _, _ => none
  | .unsolicited line =>
    if isFinalResponse line then none else some { s with wire := s.wire ++ [(none, line)] }
  | .processLine =>
    match s.wire, s.readerClosed with
    | (tag, line) :: wire, false =>
      some
        { s with
          ch := (Command.processLine s.ch line).1, wire := wire,
          finalOf := if s.ch.sp_response.isSome && isFinalResponse line then tag else s.finalOf }
    | _, _ => none
  | .wakeUp => s.thread.map fun command => s.wake command false
  | .timeout => s.thread.map fun command => s.wake command true
  | .closeReader => some { s with readerClosed := true }

/-- A returned final response is the answer to its own command. -/
def Return.Matched (r : Return) : Prop := ∀ p_response, r.result = .ok p_response → r.finalOf = some r.command

/-- The modem owes no answer, and none is on its way. -/
def State.Answered (s : State) : Prop := s.owed = [] ∧ ∀ e ∈ s.wire, isFinalResponse e.2 = false

/-- A command is issued only when every earlier one is answered. -/
def InSync (s : State) : Act → Prop
  | .issue _ _ _ => s.Answered
  | _ => True

instance (s : State) : Decidable s.Answered := inferInstanceAs (Decidable (_ ∧ _))

instance (s : State) : (a : Act) → Decidable (InSync s a)
  | .issue _ _ _ => inferInstanceAs (Decidable s.Answered)
  | .issueFails _ _ _ | .intermediate _ | .final _ | .unsolicited _ | .processLine | .wakeUp | .timeout
  | .closeReader => isTrue trivial

/-! ## The invariant of runs in sync -/

/-- Whatever is still to come answers the command that waits. -/
structure Own (s : State) (command : Nat) : Prop where
  owed : ∀ id ∈ s.owed, id = command
  wire : ∀ e ∈ s.wire, isFinalResponse e.2 = true → e.1 = some command
  final : ∀ r, s.ch.sp_response = some r → r.finalResponse.isSome → s.finalOf = some command

structure Inv (s : State) : Prop where
  own : ∀ command, s.thread = some command → Own s command
  matched : ∀ r ∈ s.returned, r.Matched

theorem inv_init : Inv init := ⟨fun _ h => by simp [init] at h, by simp [init]⟩

theorem inv_return {s : State} {command : Nat} {ch : ATChannels} {result : Except ATError ATResponse}
    (h : ∀ r ∈ s.returned, r.Matched) (hresult : ∀ r, result = .ok r → s.finalOf = some command) :
    Inv (s.return command ch result) := by
  refine ⟨fun _ hthread => by simp [State.return] at hthread, ?_⟩
  intro r hr
  rcases List.mem_append.1 hr with hr | hr
  · exact h r hr
  · obtain rfl := List.mem_singleton.1 hr
    exact hresult

theorem inv_enter {s : State} (h : ∀ r ∈ s.returned, r.Matched) (type : ATCommandType) (responsePrefix : Line)
    (smspdu : Option Line) (written : Bool) (hsync : written = true → s.Answered) :
    Inv (s.enter type responsePrefix smspdu written) := by
  rw [State.enter]
  split
  · exact inv_return h (by simp)
  split
  · exact inv_return h (by simp)
  split
  · rename_i hwritten
    obtain ⟨howed, hwire⟩ := hsync hwritten
    refine ⟨?_, h⟩
    rintro command ⟨⟩
    refine ⟨by simp [howed], fun e he hfinal => ?_, ?_⟩
    · simp [hwire e he] at hfinal
    · rintro r ⟨⟩ hfinal
      simp [at_response_new] at hfinal
  · exact inv_return h (by simp)

theorem inv_wake {s : State} (h : Inv s) {command : Nat} (hthread : s.thread = some command) (timedOut : Bool) :
    Inv (s.wake command timedOut) := by
  rw [State.wake]
  split
  · rename_i result ch hw
    refine inv_return h.matched ?_
    rintro r rfl
    simp only [wakeUp] at hw
    rcases hr : s.ch.sp_response with _ | p_response
    · simp [hr] at hw
    · simp only [hr] at hw
      split at hw
      · simp at hw
      · split at hw
        · simp at hw
        · rename_i hnone
          split at hw
          · simp at hw
          · rename_i hopen
            refine (h.own command hthread).final p_response hr ?_
            simpa [hopen, Option.isSome_iff_ne_none] using hnone
  · exact h

theorem processLine_finalResponse {ch : ATChannels} {line : Line} {r : ATResponse}
    (h : (Command.processLine ch line).1.sp_response = some r) (hr : r.finalResponse.isSome) :
    (ch.sp_response.isSome && isFinalResponse line) = true ∨
      ∃ r₀, ch.sp_response = some r₀ ∧ r₀.finalResponse.isSome := by
  rcases hch : ch.sp_response with _ | r₀
  · simp [Command.processLine, hch] at h
  · by_cases hfinal : isFinalResponse line = true
    · exact Or.inl (by simp [hfinal])
    · right
      refine ⟨r₀, rfl, ?_⟩
      obtain ⟨hs, he⟩ : isFinalResponseSuccess line = false ∧ isFinalResponseError line = false := by
        simpa [isFinalResponse] using hfinal
      simp only [Command.processLine, hch, hs, he, Bool.false_eq_true, if_false] at h
      split at h
      · obtain rfl : r₀ = r := by simpa [hch] using h
        exact hr
      · split at h
        · obtain rfl := Option.some.inj h
          exact hr
        · obtain rfl : r₀ = r := by simpa [hch] using h
          exact hr

theorem inv_step {s : State} {a : Act} {s' : State} (h : Inv s) (hsync : InSync s a) (hs : step s a = some s') :
    Inv s' := by
  cases a with
  | issue type responsePrefix smspdu =>
    simp only [step, Option.ite_none_right_eq_some, Option.some.injEq] at hs
    obtain ⟨-, rfl⟩ := hs
    exact inv_enter h.matched type responsePrefix smspdu true fun _ => hsync
  | issueFails type responsePrefix smspdu =>
    simp only [step, Option.ite_none_right_eq_some, Option.some.injEq] at hs
    obtain ⟨-, rfl⟩ := hs
    exact inv_enter h.matched type responsePrefix smspdu false (by simp)
  | intermediate line =>
    simp only [step] at hs
    split at hs
    · rename_i id owed howed hf
      obtain rfl := Option.some.inj hs
      refine ⟨fun command hthread => ?_, h.matched⟩
      have hown := h.own command hthread
      refine ⟨hown.owed, fun e he hfinal => ?_, hown.final⟩
      rcases List.mem_append.1 he with he | he
      · exact hown.wire e he hfinal
      · obtain rfl := List.mem_singleton.1 he
        simp [hf] at hfinal
    · simp at hs
  | final line =>
    simp only [step] at hs
    split at hs
    · rename_i id owed howed hf
      obtain rfl := Option.some.inj hs
      refine ⟨fun command hthread => ?_, h.matched⟩
      have hown := h.own command hthread
      refine ⟨fun o ho => hown.owed o (by simp [howed, show o ∈ owed from ho]), fun e he hfinal => ?_, hown.final⟩
      rcases List.mem_append.1 he with he | he
      · exact hown.wire e he hfinal
      · obtain rfl := List.mem_singleton.1 he
        exact congrArg some (hown.owed id (by simp [howed]))
    · simp at hs
  | unsolicited line =>
    simp only [step, Option.ite_none_left_eq_some, Option.some.injEq] at hs
    obtain ⟨hf, rfl⟩ := hs
    refine ⟨fun command hthread => ?_, h.matched⟩
    have hown := h.own command hthread
    refine ⟨hown.owed, fun e he hfinal => ?_, hown.final⟩
    rcases List.mem_append.1 he with he | he
    · exact hown.wire e he hfinal
    · obtain rfl := List.mem_singleton.1 he
      exact absurd hfinal hf
  | processLine =>
    simp only [step] at hs
    split at hs
    · rename_i tag line wire hwire hopen
      obtain rfl := Option.some.inj hs
      refine ⟨fun command hthread => ?_, h.matched⟩
      have hown := h.own command hthread
      refine ⟨hown.owed, fun e he => hown.wire e (by simp [hwire, show e ∈ wire from he]), fun r hr hfinal => ?_⟩
      rcases processLine_finalResponse hr hfinal with hrec | ⟨r₀, hr₀, hfinal₀⟩
      · simp only [hrec, if_true]
        exact hown.wire (tag, line) (by simp [hwire]) (by simp_all)
      · have hold := hown.final r₀ hr₀ hfinal₀
        split
        · rename_i hrec
          exact hown.wire (tag, line) (by simp [hwire]) (by simp_all)
        · exact hold
    · simp at hs
  | wakeUp =>
    simp only [step, Option.map_eq_some_iff] at hs
    obtain ⟨command, hthread, rfl⟩ := hs
    exact inv_wake h hthread false
  | timeout =>
    simp only [step, Option.map_eq_some_iff] at hs
    obtain ⟨command, hthread, rfl⟩ := hs
    exact inv_wake h hthread true
  | closeReader =>
    obtain rfl := Option.some.inj hs
    exact ⟨fun command hthread => ⟨(h.own command hthread).owed, (h.own command hthread).wire,
      (h.own command hthread).final⟩, h.matched⟩

theorem matched_of_inSync {as : List Act} {s : State} (hrun : run step init as = some s)
    (hsync : Steps step InSync init as) : ∀ r ∈ s.returned, r.Matched :=
  (invariant_run (fun _ _ _ => inv_step) inv_init hsync hrun).matched

/-! ## Out of sync -/

/-- The tags are numbers of commands already issued, and an idle channel has no response. -/
structure Numbered (s : State) : Prop where
  owed : ∀ id ∈ s.owed, id < s.next
  wire : ∀ e ∈ s.wire, ∀ id, e.1 = some id → id < s.next
  urc : ∀ e ∈ s.wire, e.1 = none → isFinalResponse e.2 = false
  idle : s.thread = none → s.ch.sp_response = none

theorem numbered_return {s : State} (h : Numbered s) (command : Nat) (ch : ATChannels)
    (result : Except ATError ATResponse) (hch : ch.sp_response = none) : Numbered (s.return command ch result) :=
  ⟨h.owed, h.wire, h.urc, fun _ => hch⟩

theorem numbered_enter {s : State} (h : Numbered s) (type : ATCommandType) (responsePrefix : Line)
    (smspdu : Option Line) (written : Bool) : Numbered (s.enter type responsePrefix smspdu written) := by
  have hnext : ∀ s' : State, s' = { s with next := s.next + 1 } → Numbered s' := by
    rintro s' rfl
    exact ⟨fun id hid => Nat.lt_succ_of_lt (h.owed id hid), fun e he id hid => Nat.lt_succ_of_lt (h.wire e he id hid),
      h.urc, h.idle⟩
  rw [State.enter]
  split
  · exact numbered_return (hnext _ rfl) _ _ _ rfl
  split
  · exact numbered_return (hnext _ rfl) _ _ _ rfl
  split
  · refine ⟨fun id hid => ?_, fun e he id hid => Nat.lt_succ_of_lt (h.wire e he id hid), h.urc, by simp⟩
    rcases List.mem_append.1 hid with hid | hid
    · exact Nat.lt_succ_of_lt (h.owed id hid)
    · obtain rfl := List.mem_singleton.1 hid
      exact Nat.lt_succ_self _
  · exact numbered_return (hnext _ rfl) _ _ _ rfl

theorem numbered_wake {s : State} (h : Numbered s) (command : Nat) (timedOut : Bool) :
    Numbered (s.wake command timedOut) := by
  rw [State.wake]
  split
  · rename_i result ch hw
    refine numbered_return h _ _ _ ?_
    simp only [wakeUp] at hw
    split at hw
    · simp at hw
    · split at hw
      · obtain ⟨-, rfl⟩ := Prod.mk.inj hw
        rfl
      · split at hw
        · simp at hw
        · split at hw <;> obtain ⟨-, rfl⟩ := Prod.mk.inj hw <;> rfl
  · exact h

theorem numbered_append {s : State} (h : Numbered s) (owed : List Nat) (e : Option Nat × Line)
    (howed : ∀ id ∈ owed, id ∈ s.owed) (htag : ∀ id, e.1 = some id → id < s.next)
    (hurc : e.1 = none → isFinalResponse e.2 = false) :
    Numbered { s with owed := owed, wire := s.wire ++ [e] } := by
  refine ⟨fun id hid => h.owed id (howed id hid), fun e' he' => ?_, fun e' he' => ?_, h.idle⟩
  · rcases List.mem_append.1 he' with he' | he'
    · exact h.wire e' he'
    · obtain rfl := List.mem_singleton.1 he'
      exact htag
  · rcases List.mem_append.1 he' with he' | he'
    · exact h.urc e' he'
    · obtain rfl := List.mem_singleton.1 he'
      exact hurc

theorem processLine_isSome (ch : ATChannels) (line : Line) :
    (Command.processLine ch line).1.sp_response.isSome = ch.sp_response.isSome := by
  rcases hch : ch.sp_response with _ | r
  · simp [Command.processLine, hch]
  · simp only [Command.processLine, hch]
    split
    · rfl
    split
    · rfl
    split
    · simp
    · split <;> simp [hch]

theorem numbered_step (s : State) (a : Act) (s' : State) (h : Numbered s) (hs : step s a = some s') : Numbered s' := by
  cases a with
  | issue type responsePrefix smspdu =>
    simp only [step, Option.ite_none_right_eq_some, Option.some.injEq] at hs
    obtain ⟨-, rfl⟩ := hs
    exact numbered_enter h type responsePrefix smspdu true
  | issueFails type responsePrefix smspdu =>
    simp only [step, Option.ite_none_right_eq_some, Option.some.injEq] at hs
    obtain ⟨-, rfl⟩ := hs
    exact numbered_enter h type responsePrefix smspdu false
  | intermediate line =>
    simp only [step] at hs
    split at hs
    · rename_i id owed howed hf
      obtain rfl := Option.some.inj hs
      refine numbered_append h s.owed (some id, line) (fun _ hid => hid) ?_ (by simp)
      rintro _ ⟨⟩
      exact h.owed id (by simp [howed])
    · simp at hs
  | final line =>
    simp only [step] at hs
    split at hs
    · rename_i id owed howed hf
      obtain rfl := Option.some.inj hs
      refine numbered_append h owed (some id, line) (fun _ hid => by simp [howed, hid]) ?_ (by simp)
      rintro _ ⟨⟩
      exact h.owed id (by simp [howed])
    · simp at hs
  | unsolicited line =>
    simp only [step, Option.ite_none_left_eq_some, Option.some.injEq] at hs
    obtain ⟨hf, rfl⟩ := hs
    exact numbered_append h s.owed (none, line) (fun _ hid => hid) (by simp) fun _ => by simpa using hf
  | processLine =>
    simp only [step] at hs
    split at hs
    · rename_i tag line wire hwire hopen
      obtain rfl := Option.some.inj hs
      refine ⟨h.owed, fun e he => h.wire e (by simp [hwire, show e ∈ wire from he]),
        fun e he => h.urc e (by simp [hwire, show e ∈ wire from he]), fun hidle => ?_⟩
      have hnone := processLine_isSome s.ch line
      rw [h.idle hidle] at hnone
      exact Option.isSome_eq_false_iff.1 hnone |> Option.isNone_iff_eq_none.1
    · simp at hs
  | wakeUp =>
    simp only [step, Option.map_eq_some_iff] at hs
    obtain ⟨command, -, rfl⟩ := hs
    exact numbered_wake h command false
  | timeout =>
    simp only [step, Option.map_eq_some_iff] at hs
    obtain ⟨command, -, rfl⟩ := hs
    exact numbered_wake h command true
  | closeReader =>
    obtain rfl := Option.some.inj hs
    exact ⟨h.owed, h.wire, h.urc, h.idle⟩

theorem numbered_of_reachable {s : State} (h : Reachable step init s) : Numbered s :=
  h.invariant ⟨by simp [init], by simp [init], by simp [init], fun _ => rfl⟩ numbered_step

/-- The reader works off the lines before the first final one. -/
theorem run_processLines (pre rest : List (Option Nat × Line)) (s : State) (hwire : s.wire = pre ++ rest)
    (hopen : s.readerClosed = false) (hpre : ∀ e ∈ pre, isFinalResponse e.2 = false) (hch : s.ch.sp_response.isSome) :
    ∃ ch, ch.sp_response.isSome ∧
      run step s (pre.map fun _ => Act.processLine) = some { s with ch := ch, wire := rest } := by
  induction pre generalizing s with
  | nil =>
    rw [List.nil_append] at hwire
    exact ⟨s.ch, hch, by rw [← hwire]; rfl⟩
  | cons e pre ih =>
    obtain ⟨hf, hpre⟩ := List.forall_mem_cons.1 hpre
    have hstep : step s .processLine =
        some { s with ch := (Command.processLine s.ch e.2).1, wire := pre ++ rest } := by
      simp [step, hwire, hopen, hf]
    obtain ⟨ch, hch', hrun⟩ := ih { s with ch := (Command.processLine s.ch e.2).1, wire := pre ++ rest } rfl hopen hpre
      (by rw [processLine_isSome]; exact hch)
    exact ⟨ch, hch', by simp only [List.map_cons, run, hstep, Option.bind_some, hrun]⟩

/-- With a foreign final line on its way the waiting command returns it. -/
theorem run_mismatch {s : State} {command id : Nat} {pre post : List (Option Nat × Line)} {line : Line}
    (hthread : s.thread = some command) (hopen : s.readerClosed = false) (hch : s.ch.sp_response.isSome)
    (hwire : s.wire = pre ++ (some id, line) :: post) (hpre : ∀ e ∈ pre, isFinalResponse e.2 = false)
    (hfinal : isFinalResponse line = true) (hid : id ≠ command) :
    ∃ as s', run step s as = some s' ∧ ∃ r ∈ s'.returned, ¬ r.Matched := by
  obtain ⟨ch, hch', hrun⟩ := run_processLines pre ((some id, line) :: post) s hwire hopen hpre hch
  obtain ⟨r₀, hr₀⟩ := Option.isSome_iff_exists.1 hch'
  have hpending : ch = pending ch.s_type ch.s_responsePrefix ch.s_smsPDU r₀ := by rw [pending, ← hr₀]
  let r : ATResponse := { r₀ with success := isFinalResponseSuccess line, finalResponse := some line }
  have hline : (Command.processLine ch line).1 = pending ch.s_type ch.s_responsePrefix ch.s_smsPDU r := by
    rw [hpending, processLine_final hfinal]
    rfl
  have hstep : step { s with ch := ch, wire := (some id, line) :: post } .processLine =
      some { s with ch := pending ch.s_type ch.s_responsePrefix ch.s_smsPDU r, wire := post, finalOf := some id } := by
    simp only [step, hopen, hline, hch', hfinal, Bool.and_self, if_true]
  have hwake : step { s with ch := pending ch.s_type ch.s_responsePrefix ch.s_smsPDU r, wire := post, finalOf := some id }
      .wakeUp = some ({ s with wire := post, finalOf := some id }.return command
        (clearPendingCommand (pending ch.s_type ch.s_responsePrefix ch.s_smsPDU r)) (.ok (reverseIntermediates r))) := by
    simp [step, hthread, State.wake, wakeUp, pending, hopen, r, State.return]
  refine ⟨(pre.map fun _ => Act.processLine) ++ [.processLine, .wakeUp],
    { s with wire := post, finalOf := some id }.return command
      (clearPendingCommand (pending ch.s_type ch.s_responsePrefix ch.s_smsPDU r)) (.ok (reverseIntermediates r)), ?_,
    ⟨command, .ok (reverseIntermediates r), some id⟩, ?_, ?_⟩
  · rw [run_append, hrun, Option.bind_some, run, hstep, Option.bind_some, run, hwake]
    rfl
  · simp [State.return]
  · intro hmatched
    exact hid (Option.some.inj (hmatched _ rfl))

/-- A list of lines with a final one among them, split at the first of these. -/
theorem exists_first_final {wire : List (Option Nat × Line)} (h : ∃ e ∈ wire, isFinalResponse e.2 = true) :
    ∃ pre e post, wire = pre ++ e :: post ∧ (∀ e ∈ pre, isFinalResponse e.2 = false) ∧ isFinalResponse e.2 = true := by
  induction wire with
  | nil => simp at h
  | cons e wire ih =>
    rcases hf : isFinalResponse e.2 with _ | _
    · obtain ⟨pre, e', post, rfl, hpre, hfinal⟩ := ih (by simpa [hf] using h)
      exact ⟨e :: pre, e', post, rfl, by simpa [hf] using hpre, hfinal⟩
    · exact ⟨[], e, wire, rfl, by simp, hf⟩

/-- A command issued while an earlier answer is outstanding can return that answer. -/
theorem mismatch_of_unanswered {s : State} (hs : Reachable step init s) (hidle : s.thread = none)
    (hopen : s.readerClosed = false) (hnot : ¬ s.Answered) (type : ATCommandType) (responsePrefix : Line)
    (smspdu : Option Line) :
    ∃ as s', run step s (.issue type responsePrefix smspdu :: as) = some s' ∧ ∃ r ∈ s'.returned, ¬ r.Matched := by
  have hnum := numbered_of_reachable hs
  have hissue : step s (.issue type responsePrefix smspdu) = some
      { s with
        ch := beginCommand type responsePrefix smspdu, thread := some s.next, next := s.next + 1,
        owed := s.owed ++ [s.next], finalOf := none } := by
    simp [step, hidle, State.enter, hnum.idle hidle, hopen]
  by_cases hwire : ∃ e ∈ s.wire, isFinalResponse e.2 = true
  · obtain ⟨pre, ⟨tag, line⟩, post, hsplit, hpre, hfinal⟩ := exists_first_final hwire
    rcases tag with _ | id
    · have hurc := hnum.urc (none, line) (by simp [hsplit]) rfl
      simp only at hurc hfinal
      simp [hurc] at hfinal
    · have hid := hnum.wire (some id, line) (by simp [hsplit]) id rfl
      obtain ⟨as, s', hrun, hmis⟩ := run_mismatch
        (s := { s with
          ch := beginCommand type responsePrefix smspdu, thread := some s.next, next := s.next + 1,
          owed := s.owed ++ [s.next], finalOf := none }) rfl hopen rfl hsplit hpre hfinal (by omega)
      exact ⟨as, s', by rw [run, hissue, Option.bind_some, hrun], hmis⟩
  · -- The modem first answers the oldest command it owes.
    have hnone : ∀ e ∈ s.wire, isFinalResponse e.2 = false := by simpa using hwire
    obtain ⟨id, owed, howed⟩ : ∃ id owed, s.owed = id :: owed := by
      rcases howed : s.owed with _ | ⟨id, owed⟩
      · exact absurd ⟨howed, hnone⟩ hnot
      · exact ⟨id, owed, rfl⟩
    have hid := hnum.owed id (by simp [howed])
    have hanswer : step
        { s with
          ch := beginCommand type responsePrefix smspdu, thread := some s.next, next := s.next + 1,
          owed := s.owed ++ [s.next], finalOf := none } (.final (ascii "OK")) = some
        { s with
          ch := beginCommand type responsePrefix smspdu, thread := some s.next, next := s.next + 1,
          owed := owed ++ [s.next], finalOf := none, wire := s.wire ++ [(some id, ascii "OK")] } := by
      simp only [step, howed, List.cons_append, (by decide : isFinalResponse (ascii "OK") = true)]
    obtain ⟨as, s', hrun, hmis⟩ := run_mismatch
      (s := { s with
        ch := beginCommand type responsePrefix smspdu, thread := some s.next, next := s.next + 1,
        owed := owed ++ [s.next], finalOf := none, wire := s.wire ++ [(some id, ascii "OK")] })
      rfl hopen rfl rfl hnone (by decide) (by omega)
    exact ⟨.final (ascii "OK") :: as, s', by
      rw [run, hissue, Option.bind_some, run, hanswer, Option.bind_some, hrun], hmis⟩

/-- **Responses are matched to their commands in every run that issues a command only when the earlier
ones are answered; and from a state where one is not, the next command can return its late answer.** -/
theorem responses_matched (s : State) :
    (∀ as, run step init as = some s → Steps step InSync init as → ∀ r ∈ s.returned, r.Matched) ∧
      (Reachable step init s → s.thread = none → s.readerClosed = false → ¬ s.Answered →
        ∀ type responsePrefix smspdu, ∃ as s', run step s (.issue type responsePrefix smspdu :: as) = some s' ∧
          ∃ r ∈ s'.returned, ¬ r.Matched) :=
  ⟨fun _ hrun hsync => matched_of_inSync hrun hsync, fun hs hidle hopen hnot => mismatch_of_unanswered hs hidle hopen hnot⟩

/-- The late answer to a command that timed out comes before the next command: the latter gets its own. -/
theorem responses_matched_late_answer :
    ∃ s, run step init [.issue .NO_RESULT [] none, .timeout, .final (ascii "OK"), .processLine,
        .issue .NO_RESULT [] none, .final (ascii "ERROR"), .processLine, .wakeUp] = some s ∧
      s.returned.map (fun r => (r.command, r.finalOf)) = [(0, none), (1, some 1)] ∧ ∀ r ∈ s.returned, r.Matched := by
  refine ⟨_, rfl, rfl, (responses_matched _).1 [.issue .NO_RESULT [] none, .timeout, .final (ascii "OK"), .processLine,
    .issue .NO_RESULT [] none, .final (ascii "ERROR"), .processLine, .wakeUp] rfl ?_⟩
  decide

/-- The answer to a command that timed out comes after the next command was issued, which returns it. -/
theorem late_answer_returned :
    ∃ s, run step init [.issue .NO_RESULT [] none, .timeout, .issue .NO_RESULT [] none, .final (ascii "OK"),
        .processLine, .wakeUp] = some s ∧
      s.returned.map (fun r => (r.command, r.finalOf)) = [(0, none), (1, some 0)] ∧ ∃ r ∈ s.returned, ¬ r.Matched := by
  refine ⟨_, rfl, rfl, _, List.mem_cons_of_mem _ (List.mem_singleton_self _), fun h => ?_⟩
  exact absurd (h _ rfl) (by decide)

end UniRil.Command.Matching
