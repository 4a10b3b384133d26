import UniRil.Command.Code

/-!
# A command that is rejected

While one thread waits for its response it does not hold the mutex of the channel, and another thread may bring a
command of its own.
-/

namespace UniRil.Command

/-- The arguments of `at_send_command_full_nolock` but for those of the wait. -/
structure SendArgs where
  type : ATCommandType
  responsePrefix : Line
  smspdu : Option Line

/-- What calloc and `writeline` come to. -/
structure SendEnv where
  allocated : Bool
  writeline : Except ATError Unit

/-- `at_send_command_full_nolock` up to its wait, which it reaches with no error. -/
def at_send_command_full_nolock (ch : ATChannels) (args : SendArgs) (env : SendEnv) :
    Except ATError Unit × ATChannels :=
  if ch.sp_response.isSome then (.error .COMMAND_PENDING, clearPendingCommand ch)
  else
    let ch := beginCommand args.type args.responsePrefix args.smspdu
    if env.allocated then
      match env.writeline with
      | .ok () => (.ok (), ch)
      | .error err => (.error err, clearPendingCommand ch)
    else (.error .GENERIC, clearPendingCommand { ch with sp_response := none })

/-- What becomes of the thread that waits, when it has the mutex again. -/
inductive Resumed
  | waits
  | returns (result : Except ATError ATResponse)
  | dereferencesNull

/-- The wait goes on while the response has no final line, so that there must be a response to look at. -/
def resume (ch : ATChannels) (readerClosed timedOut : Bool) : Resumed :=
  if timedOut then .returns (.error .TIMEOUT)
  else
    match ch.sp_response with
    | none => .dereferencesNull
    | some p_response =>
      if p_response.finalResponse.isNone && !readerClosed then .waits
      else if readerClosed then .returns (.error .CHANNEL_CLOSED)
      else .returns (.ok (reverseIntermediates p_response))

/-- The command that waits is as it was. -/
structure LeftAlone (ch ch' : ATChannels) : Prop where
  sp_response : ch'.sp_response = ch.sp_response
  s_responsePrefix : ch'.s_responsePrefix = ch.s_responsePrefix
  s_smsPDU : ch'.s_smsPDU = ch.s_smsPDU
  s_type : ch'.s_type = ch.s_type

/-- The other command is rejected, and nothing else happens. -/
def OnlyRejected (ch : ATChannels) (args : SendArgs) (env : SendEnv) : Prop :=
  (at_send_command_full_nolock ch args env).1 = .error .COMMAND_PENDING ∧
    LeftAlone ch (at_send_command_full_nolock ch args env).2

variable {ch : ATChannels} {args : SendArgs} {env : SendEnv}

theorem reject (h : ch.sp_response.isSome) :
    at_send_command_full_nolock ch args env = (.error .COMMAND_PENDING, clearPendingCommand ch) := if_pos h

/-- Without a response to put them in, the lines are all unsolicited. -/
theorem processLines_idle (h : ch.sp_response = none) (lines : List Line) :
    processLines ch lines = (ch, lines.map Effect.unsolicited) := by
  induction lines with
  | nil => rfl
  | cons line lines ih =>
    have hline : processLine ch line = (ch, [.unsolicited line]) := by
      unfold processLine
      rw [h]
    rw [processLines, hline]
    simp only [ih, List.map_cons, List.singleton_append]

/-- **A rejected command takes the response away from the one that waits.** What the modem answers to that one is
handed out as unsolicited, and the thread that waits for it dereferences NULL. -/
theorem reject_drops_pending (ch : ATChannels) (args : SendArgs) (env : SendEnv) (h : ch.sp_response.isSome) :
    ¬ OnlyRejected ch args env ∧ ∀ (lines : List Line) (readerClosed : Bool),
      (processLines (at_send_command_full_nolock ch args env).2 lines).2 = lines.map Effect.unsolicited ∧
        resume (processLines (at_send_command_full_nolock ch args env).2 lines).1 readerClosed false =
          .dereferencesNull := by
  rw [OnlyRejected, reject h]
  constructor
  · rintro ⟨-, hsame⟩
    rw [← hsame.sp_response] at h
    cases h
  · intro lines readerClosed
    rw [processLines_idle rfl]
    exact ⟨rfl, rfl⟩

/-- The channel on which AT+CSQ waits, after another command. -/
def csqRejected : ATChannels :=
  (at_send_command_full_nolock (beginCommand .SINGLELINE (ascii "+CSQ:") none) ⟨.NO_RESULT, [], none⟩ ⟨true, .ok ()⟩).2

/-- No thread gets the answer to AT+CSQ. -/
theorem reject_drops_csq :
    (processLines csqRejected [ascii "+CSQ: 20,99", ascii "OK"]).2 =
        [.unsolicited (ascii "+CSQ: 20,99"), .unsolicited (ascii "OK")] ∧
      resume (processLines csqRejected [ascii "+CSQ: 20,99", ascii "OK"]).1 false false = .dereferencesNull :=
  (reject_drops_pending (beginCommand .SINGLELINE (ascii "+CSQ:") none) ⟨.NO_RESULT, [], none⟩ ⟨true, .ok ()⟩ rfl).2
    [ascii "+CSQ: 20,99", ascii "OK"] false

/-- AT+CSQ is not left alone. -/
theorem onlyRejected_fails_csq :
    ¬ OnlyRejected (beginCommand .SINGLELINE (ascii "+CSQ:") none) ⟨.NO_RESULT, [], none⟩ ⟨true, .ok ()⟩ := by
  rintro ⟨-, hsame⟩
  cases hsame.sp_response

end UniRil.Command
