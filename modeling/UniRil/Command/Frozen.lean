import Mathlib.Data.List.Count
import Mathlib.Data.List.Induction
import UniRil.Command.Code

/-!
# What a command makes of its lines

The lines up to the first final response decide the response as long as none of the lines behind it
is taken for the same command.
-/

namespace UniRil.Command

/-! ## The intended response -/

/-- The type takes any number of intermediate responses. -/
def ATCommandType.many : ATCommandType → Bool
  | .MULTILINE => true
  | _ => false

/-- The line can be an intermediate response of a command of this type. -/
def fits (type : ATCommandType) (responsePrefix line : Line) : Bool := isIntermediate type responsePrefix [] line

/-- The intermediate responses among the lines before the final response. -/
def intermediatesOf (type : ATCommandType) (responsePrefix : Line) (pre : List Line) : List Line :=
  if type.many then pre.filter (fits type responsePrefix) else (pre.filter (fits type responsePrefix)).take 1

/-- The other lines before the final response. -/
def othersOf (type : ATCommandType) (responsePrefix : Line) (pre : List Line) : List Line :=
  if type.many then pre.filter (fun l => !fits type responsePrefix l) else pre.eraseP (fits type responsePrefix)

/-- The lines passed to the unsolicited handler. -/
def handedOver (effects : List Effect) : List Line :=
  effects.filterMap fun
    | .unsolicited line => some line
    | _ => none

theorem isIntermediate_eq (type : ATCommandType) (responsePrefix : Line) (p_intermediates : List Line) (line : Line) :
    isIntermediate type responsePrefix p_intermediates line =
      (fits type responsePrefix line && (type.many || p_intermediates.isEmpty)) := by
  cases type <;> simp [isIntermediate, fits, ATCommandType.many, Bool.and_comm]

theorem intermediatesOf_eq_nil {type : ATCommandType} {responsePrefix : Line} {pre : List Line} :
    intermediatesOf type responsePrefix pre = [] ↔ ∀ l ∈ pre, fits type responsePrefix l = false := by
  rw [intermediatesOf]
  split <;> simp [List.filter_eq_nil_iff]

theorem intermediatesOf_concat (type : ATCommandType) (responsePrefix : Line) (pre : List Line) (line : Line) :
    intermediatesOf type responsePrefix (pre ++ [line]) =
      intermediatesOf type responsePrefix pre ++
        if isIntermediate type responsePrefix (intermediatesOf type responsePrefix pre) line then [line] else [] := by
  rw [isIntermediate_eq]
  by_cases hmany : type.many = true
  · rcases h : fits type responsePrefix line with _ | _ <;> simp [intermediatesOf, hmany, h]
  · rcases hpre : pre.filter (fits type responsePrefix) with _ | ⟨l, ls⟩
    · rcases h : fits type responsePrefix line with _ | _ <;> simp [intermediatesOf, hmany, hpre, h]
    · simp [intermediatesOf, hmany, hpre]

theorem othersOf_concat (type : ATCommandType) (responsePrefix : Line) (pre : List Line) (line : Line) :
    othersOf type responsePrefix (pre ++ [line]) =
      othersOf type responsePrefix pre ++
        if isIntermediate type responsePrefix (intermediatesOf type responsePrefix pre) line then [] else [line] := by
  have hnil := @intermediatesOf_eq_nil type responsePrefix pre
  rw [isIntermediate_eq]
  by_cases hmany : type.many = true
  · rcases h : fits type responsePrefix line with _ | _ <;> simp [othersOf, hmany, h]
  · simp only [othersOf, if_neg hmany, List.eraseP_append]
    by_cases hany : pre.any (fits type responsePrefix)
    · have hne : intermediatesOf type responsePrefix pre ≠ [] := by
        rw [ne_eq, hnil]
        simpa using hany
      simp [hany, hne, hmany]
    · have heq : intermediatesOf type responsePrefix pre = [] := by
        rw [hnil]
        simpa using hany
      have hpre : pre.eraseP (fits type responsePrefix) = pre := List.eraseP_of_forall_not (by simpa using hany)
      rcases h : fits type responsePrefix line with _ | _ <;> simp [hany, heq, h, hpre]

theorem othersOf_length (type : ATCommandType) (responsePrefix : Line) (pre : List Line) :
    (othersOf type responsePrefix pre).length + (intermediatesOf type responsePrefix pre).length = pre.length := by
  induction pre using List.reverseRecOn with
  | nil => simp [othersOf, intermediatesOf]
  | append_singleton pre line ih =>
    rw [othersOf_concat, intermediatesOf_concat]
    split <;> simp <;> omega

/-! ## One line -/

/-- A channel with a pending command. -/
def pending (type : ATCommandType) (responsePrefix : Line) (smspdu : Option Line) (r : ATResponse) : ATChannels :=
  { s_type := type, s_responsePrefix := responsePrefix, s_smsPDU := smspdu, sp_response := some r }

section Line

variable {type : ATCommandType} {responsePrefix : Line} {smspdu : Option Line} {r : ATResponse} {line : Line}

theorem processLine_final (h : isFinalResponse line = true) :
    processLine (pending type responsePrefix smspdu r) line =
      (pending type responsePrefix smspdu
        { r with success := isFinalResponseSuccess line, finalResponse := some line }, [.signal]) := by
  rcases hs : isFinalResponseSuccess line with _ | _
  · have he : isFinalResponseError line = true := by simpa [isFinalResponse, hs] using h
    simp [processLine, pending, hs, he]
  · simp [processLine, pending, hs]

/-- The prompt releases the PDU of the command. -/
theorem processLine_prompt {pdu : Line} :
    processLine (pending type responsePrefix (some pdu) r) (ascii "> ") =
      (pending type responsePrefix none r, [.writeCtrlZ pdu]) := by
  have hs : isFinalResponseSuccess (ascii "> ") = false := by decide
  have he : isFinalResponseError (ascii "> ") = false := by decide
  simp [processLine, pending, hs, he]

theorem processLine_rest (hf : isFinalResponse line = false) (hp : smspdu = none ∨ line ≠ ascii "> ") :
    processLine (pending type responsePrefix smspdu r) line =
      if isIntermediate type responsePrefix r.p_intermediates line then
        (pending type responsePrefix smspdu { r with p_intermediates := line :: r.p_intermediates }, [])
      else (pending type responsePrefix smspdu r, [.unsolicited line]) := by
  obtain ⟨hs, he⟩ : isFinalResponseSuccess line = false ∧ isFinalResponseError line = false := by
    simpa [isFinalResponse] using hf
  rcases hi : isIntermediate type responsePrefix r.p_intermediates line with _ | _
  all_goals
    rcases hp with rfl | hne
    · simp [processLine, pending, hs, he, hi]
    · cases smspdu <;> simp [processLine, pending, hs, he, hne, hi]

end Line

theorem isFinalResponse_prompt : isFinalResponse (ascii "> ") = false := by decide

/-! ## Sequences of lines -/

section Lines

variable {type : ATCommandType} {responsePrefix : Line}

/-- Every line goes to one place: the handler, the intermediates, the final response or the prompt. -/
theorem processLines_count (lines : List Line) (smspdu : Option Line) (r : ATResponse) :
    ∃ smspdu' r', (processLines (pending type responsePrefix smspdu r) lines).1 =
        pending type responsePrefix smspdu' r' ∧ r.p_intermediates.length ≤ r'.p_intermediates.length ∧
      (handedOver (processLines (pending type responsePrefix smspdu r) lines).2).length +
          r'.p_intermediates.length + lines.countP isFinalResponse +
          (if smspdu.isSome ∧ ascii "> " ∈ lines then 1 else 0) =
        lines.length + r.p_intermediates.length := by
  induction lines generalizing smspdu r with
  | nil => exact ⟨smspdu, r, rfl, le_refl _, by simp [processLines, handedOver]⟩
  | cons line lines ih =>
    rcases hf : isFinalResponse line with _ | _
    · by_cases hp : smspdu = none ∨ line ≠ ascii "> "
      · have hmem : (smspdu.isSome ∧ ascii "> " ∈ line :: lines) ↔ smspdu.isSome ∧ ascii "> " ∈ lines := by
          rcases hp with rfl | hne
          · simp
          · simp [Ne.symm hne]
        simp only [processLines, processLine_rest hf hp, List.countP_cons, hf, hmem]
        split
        · obtain ⟨smspdu', r', hch, hle, hcount⟩ :=
            ih smspdu { r with p_intermediates := line :: r.p_intermediates }
          simp only [List.length_cons] at hle hcount
          refine ⟨smspdu', r', hch, by omega, ?_⟩
          simp only [List.nil_append, List.length_cons, Bool.false_eq_true, if_false]
          omega
        · obtain ⟨smspdu', r', hch, hle, hcount⟩ := ih smspdu r
          refine ⟨smspdu', r', hch, hle, ?_⟩
          simp only [handedOver, List.filterMap_append, List.length_append] at hcount ⊢
          simp only [List.filterMap_cons, List.filterMap_nil, List.length_cons, List.length_nil,
            Bool.false_eq_true, if_false]
          omega
      · obtain ⟨hsome, rfl⟩ : smspdu ≠ none ∧ line = ascii "> " := by simpa using hp
        obtain ⟨pdu, rfl⟩ := Option.ne_none_iff_exists'.1 hsome
        obtain ⟨smspdu', r', hch, hle, hcount⟩ := ih none r
        refine ⟨smspdu', r', ?_, hle, ?_⟩
        · simpa only [processLines, processLine_prompt] using hch
        · simp only [processLines, processLine_prompt, List.countP_cons, hf]
          simp only [handedOver, List.filterMap_append] at hcount ⊢
          simp at hcount ⊢
          omega
    · have hne : ascii "> " ≠ line := by
        rintro rfl
        simp [isFinalResponse_prompt] at hf
      obtain ⟨smspdu', r', hch, hle, hcount⟩ :=
        ih smspdu { r with success := isFinalResponseSuccess line, finalResponse := some line }
      simp only [processLines, processLine_final hf, List.countP_cons, hf]
      refine ⟨smspdu', r', hch, hle, ?_⟩
      simp only [handedOver, List.filterMap_append, List.length_append, List.mem_cons, hne, false_or] at hcount ⊢
      simp only [List.filterMap_cons, List.filterMap_nil, List.length_cons, List.length_nil, if_true]
      omega

/-- Lines before the final response, without the prompt: the intermediates and the others are sorted out. -/
theorem processLines_pre (lines : List Line) (pre : List Line) (smspdu : Option Line) (r : ATResponse)
    (hf : ∀ l ∈ lines, isFinalResponse l = false) (hp : smspdu = none ∨ ascii "> " ∉ lines)
    (hr : r.p_intermediates = (intermediatesOf type responsePrefix pre).reverse) :
    (processLines (pending type responsePrefix smspdu r) lines).1 = pending type responsePrefix smspdu
        { r with p_intermediates := (intermediatesOf type responsePrefix (pre ++ lines)).reverse } ∧
      othersOf type responsePrefix pre ++ handedOver (processLines (pending type responsePrefix smspdu r) lines).2 =
        othersOf type responsePrefix (pre ++ lines) := by
  induction lines generalizing pre r with
  | nil => simp [processLines, handedOver, ← hr]
  | cons line lines ih =>
    have hline : smspdu = none ∨ line ≠ ascii "> " := hp.imp_right fun h => by
      rintro rfl
      exact h (by simp)
    have hlines : smspdu = none ∨ ascii "> " ∉ lines := hp.imp_right fun h hmem => h (by simp [hmem])
    have hf' : ∀ l ∈ lines, isFinalResponse l = false := fun l hl => hf l (by simp [hl])
    have hempty : isIntermediate type responsePrefix r.p_intermediates line =
        isIntermediate type responsePrefix (intermediatesOf type responsePrefix pre) line := by
      rw [isIntermediate_eq, isIntermediate_eq, hr, List.isEmpty_reverse]
    have hinter := intermediatesOf_concat type responsePrefix pre line
    have hother := othersOf_concat type responsePrefix pre line
    simp only [processLines, processLine_rest (hf line (by simp)) hline, hempty]
    have hassoc : pre ++ line :: lines = (pre ++ [line]) ++ lines := by simp
    rw [hassoc]
    split
    · rename_i h
      rw [if_pos h] at hinter hother
      have hnext := ih (pre ++ [line]) { r with p_intermediates := line :: r.p_intermediates } hf' hlines
        (by simp [hinter, hr])
      refine ⟨hnext.1, ?_⟩
      rw [← hnext.2, hother, List.append_nil]
      rfl
    · rename_i h
      rw [if_neg h] at hinter hother
      have hnext := ih (pre ++ [line]) r hf' hlines (by simp [hinter, hr])
      refine ⟨hnext.1, ?_⟩
      rw [← hnext.2, hother, List.append_assoc]
      rfl

/-- Lines that fit in no way are handed over and change nothing. -/
theorem processLines_others (lines : List Line) (smspdu : Option Line) (r : ATResponse)
    (hp : smspdu = none ∨ ascii "> " ∉ lines)
    (h : ∀ l ∈ lines, isFinalResponse l = false ∧ isIntermediate type responsePrefix r.p_intermediates l = false) :
    (processLines (pending type responsePrefix smspdu r) lines).1 = pending type responsePrefix smspdu r ∧
      handedOver (processLines (pending type responsePrefix smspdu r) lines).2 = lines := by
  induction lines with
  | nil => exact ⟨rfl, rfl⟩
  | cons line lines ih =>
    obtain ⟨⟨hf, hi⟩, hrest⟩ := List.forall_mem_cons.1 h
    have hline : smspdu = none ∨ line ≠ ascii "> " := hp.imp_right fun h => by
      rintro rfl
      exact h (by simp)
    obtain ⟨hch, hover⟩ := ih (hp.imp_right fun h hmem => h (by simp [hmem])) hrest
    simp only [processLines, processLine_rest hf hline, hi, Bool.false_eq_true, if_false]
    refine ⟨hch, ?_⟩
    rw [handedOver, List.filterMap_append]
    exact congrArg (line :: ·) hover

/-- A line that is still taken as an intermediate response makes the response longer. -/
theorem processLines_grow (lines : List Line) (smspdu : Option Line) (r : ATResponse)
    (hp : smspdu = none ∨ ascii "> " ∉ lines) (hf : ∀ l ∈ lines, isFinalResponse l = false) {l : Line}
    (hl : l ∈ lines) (hi : isIntermediate type responsePrefix r.p_intermediates l = true) :
    ∃ smspdu' r', (processLines (pending type responsePrefix smspdu r) lines).1 =
        pending type responsePrefix smspdu' r' ∧ r.p_intermediates.length < r'.p_intermediates.length := by
  induction lines with
  | nil => simp at hl
  | cons line lines ih =>
    have hline : smspdu = none ∨ line ≠ ascii "> " := hp.imp_right fun h => by
      rintro rfl
      exact h (by simp)
    simp only [processLines, processLine_rest (hf line (by simp)) hline]
    split
    · obtain ⟨smspdu', r', hch, hle, -⟩ :=
        processLines_count lines smspdu { r with p_intermediates := line :: r.p_intermediates }
      exact ⟨smspdu', r', hch, hle⟩
    · rename_i hno
      refine ih (hp.imp_right fun h hmem => h (by simp [hmem])) (fun l hl => hf l (by simp [hl])) ?_
      rcases List.mem_cons.1 hl with rfl | hmem
      · exact absurd hi hno
      · exact hmem

end Lines

theorem processLines_append (ch : ATChannels) (xs ys : List Line) :
    processLines ch (xs ++ ys) =
      ((processLines (processLines ch xs).1 ys).1,
        (processLines ch xs).2 ++ (processLines (processLines ch xs).1 ys).2) := by
  induction xs generalizing ch with
  | nil => rfl
  | cons x xs ih => simp [processLines, ih]

/-! ## The whole command -/

/-- The response is that of the lines up to the first final one, and every other line was handed over. -/
def Frozen (type : ATCommandType) (responsePrefix : Line) (smspdu : Option Line) (pre : List Line) (fin : Line)
    (post : List Line) : Prop :=
  (sendCommand type responsePrefix smspdu (pre ++ fin :: post)).1 = some (.ok
      { success := isFinalResponseSuccess fin
        finalResponse := some fin
        p_intermediates := intermediatesOf type responsePrefix pre }) ∧
    handedOver (sendCommand type responsePrefix smspdu (pre ++ fin :: post)).2 =
      othersOf type responsePrefix pre ++ post

/-- The line would be taken for the command whose first lines are `pre`. -/
def Taken (type : ATCommandType) (responsePrefix : Line) (pre : List Line) (line : Line) : Prop :=
  isFinalResponse line = true ∨
    fits type responsePrefix line = true ∧ (type = .MULTILINE ∨ ∀ l ∈ pre, fits type responsePrefix l = false)

theorem not_taken_iff {type : ATCommandType} {responsePrefix : Line} {pre : List Line} {line : Line} :
    ¬ Taken type responsePrefix pre line ↔ isFinalResponse line = false ∧
      isIntermediate type responsePrefix (intermediatesOf type responsePrefix pre).reverse line = false := by
  have hmany : type.many = true ↔ type = .MULTILINE := by cases type <;> simp [ATCommandType.many]
  rw [Taken, isIntermediate_eq, List.isEmpty_reverse, not_or, Bool.not_eq_true, Bool.and_eq_false_iff,
    ← hmany, ← intermediatesOf_eq_nil]
  refine and_congr_right fun _ => ?_
  rcases fits type responsePrefix line with _ | _ <;> rcases type.many with _ | _ <;> simp

theorem wakeUp_pending {type : ATCommandType} {responsePrefix : Line} {smspdu : Option Line} {r : ATResponse}
    (h : r.finalResponse.isSome) :
    (wakeUp (pending type responsePrefix smspdu r) false false).1 = some (.ok (reverseIntermediates r)) := by
  simp [wakeUp, pending, Option.isSome_iff_ne_none.1 h]

section Whole

variable {type : ATCommandType} {responsePrefix : Line} {smspdu : Option Line} {pre post : List Line} {fin : Line}

/-- The channel right after the first final response. -/
theorem processLines_first_final (hpre : ∀ l ∈ pre, isFinalResponse l = false) (hfin : isFinalResponse fin = true)
    (hp : smspdu = none ∨ ascii "> " ∉ pre) :
    (processLines (beginCommand type responsePrefix smspdu) (pre ++ [fin])).1 =
        pending type responsePrefix smspdu
          { success := isFinalResponseSuccess fin
            finalResponse := some fin
            p_intermediates := (intermediatesOf type responsePrefix pre).reverse } ∧
      handedOver (processLines (beginCommand type responsePrefix smspdu) (pre ++ [fin])).2 =
        othersOf type responsePrefix pre := by
  have hnil : othersOf type responsePrefix [] = [] := by simp [othersOf]
  obtain ⟨hch, hover⟩ := @processLines_pre type responsePrefix pre [] smspdu
    at_response_new hpre hp (by simp [at_response_new, intermediatesOf])
  have hbegin : beginCommand type responsePrefix smspdu = pending type responsePrefix smspdu at_response_new := rfl
  rw [hnil, List.nil_append, List.nil_append] at hover
  rw [processLines_append, hbegin, hch, processLines, processLine_final hfin]
  refine ⟨rfl, ?_⟩
  rw [handedOver, List.filterMap_append, ← handedOver, hover]
  exact List.append_nil _

theorem frozen_of_condition (hpre : ∀ l ∈ pre, isFinalResponse l = false) (hfin : isFinalResponse fin = true)
    (hp : smspdu = none ∨ ascii "> " ∉ pre ++ post) (hpost : ∀ l ∈ post, ¬ Taken type responsePrefix pre l) :
    Frozen type responsePrefix smspdu pre fin post := by
  obtain ⟨hch, hover⟩ := @processLines_first_final type responsePrefix smspdu pre fin hpre hfin
    (hp.imp_right fun h hmem => h (List.mem_append_left _ hmem))
  obtain ⟨hch', hover'⟩ := @processLines_others type responsePrefix post smspdu
    { success := isFinalResponseSuccess fin
      finalResponse := some fin
      p_intermediates := (intermediatesOf type responsePrefix pre).reverse }
    (hp.imp_right fun h hmem => h (List.mem_append_right _ hmem)) fun l hl => not_taken_iff.1 (hpost l hl)
  have hsplit : pre ++ fin :: post = (pre ++ [fin]) ++ post := by simp
  rw [Frozen, sendCommand, hsplit, processLines_append, hch]
  simp only [hch']
  refine ⟨?_, ?_⟩
  · rw [wakeUp_pending rfl, reverseIntermediates, List.reverse_reverse]
  · rw [handedOver, List.filterMap_append, ← handedOver, ← handedOver, hover, hover']

theorem condition_of_frozen (hpre : ∀ l ∈ pre, isFinalResponse l = false) (hfin : isFinalResponse fin = true)
    (h : Frozen type responsePrefix smspdu pre fin post) :
    (smspdu = none ∨ ascii "> " ∉ pre ++ post) ∧ ∀ l ∈ post, ¬ Taken type responsePrefix pre l := by
  obtain ⟨hret, hover⟩ := h
  -- Every line is counted once, so exactly one is final and none is the prompt.
  obtain ⟨smspdu', r', hch, -, hcount⟩ := @processLines_count type responsePrefix
    (pre ++ fin :: post) smspdu at_response_new
  have hbegin : beginCommand type responsePrefix smspdu = pending type responsePrefix smspdu at_response_new := rfl
  rw [sendCommand, hbegin] at hret hover
  simp only [hch] at hret hover
  rw [hover] at hcount
  have hfinal : r'.finalResponse.isSome := by
    rcases hr : r'.finalResponse with _ | f
    · simp [wakeUp, pending, hr] at hret
    · rfl
  rw [wakeUp_pending hfinal] at hret
  simp only [Option.some.injEq, Except.ok.injEq, reverseIntermediates, ATResponse.mk.injEq] at hret
  have hlen : r'.p_intermediates.length = (intermediatesOf type responsePrefix pre).length := by
    rw [← hret.2.2, List.length_reverse]
  have hothers := othersOf_length type responsePrefix pre
  have hcpre : pre.countP isFinalResponse = 0 := List.countP_eq_zero.2 fun l hl => by simp [hpre l hl]
  simp only [List.length_append, List.length_cons, List.countP_append, List.countP_cons, hcpre, hfin, if_true,
    at_response_new, List.length_nil] at hcount
  have hcpost : post.countP isFinalResponse = 0 := by omega
  have hnofinal : ∀ l ∈ post, isFinalResponse l = false := by simpa [List.countP_eq_zero] using hcpost
  have hprompt : ¬ (smspdu.isSome ∧ ascii "> " ∈ pre ++ fin :: post) := by
    intro hp
    rw [if_pos hp] at hcount
    omega
  have hp : smspdu = none ∨ ascii "> " ∉ pre ++ post := by
    rcases smspdu with _ | pdu
    · exact Or.inl rfl
    · right
      intro hmem
      refine hprompt ⟨rfl, ?_⟩
      simp only [List.mem_append, List.mem_cons] at hmem ⊢
      exact hmem.imp_right Or.inr
  refine ⟨hp, fun l hl => not_taken_iff.2 ⟨hnofinal l hl, ?_⟩⟩
  -- A further intermediate would make the response longer than the one returned.
  rcases hi : isIntermediate type responsePrefix (intermediatesOf type responsePrefix pre).reverse l with _ | _
  · rfl
  · obtain ⟨hch₁, -⟩ := @processLines_first_final type responsePrefix smspdu pre fin hpre hfin
      (hp.imp_right fun h hmem => h (List.mem_append_left _ hmem))
    obtain ⟨smspdu₂, r₂, hch₂, hlt⟩ := @processLines_grow type responsePrefix post smspdu
      { success := isFinalResponseSuccess fin
        finalResponse := some fin
        p_intermediates := (intermediatesOf type responsePrefix pre).reverse }
      (hp.imp_right fun h hmem => h (List.mem_append_right _ hmem)) hnofinal l hl hi
    have hsplit : pre ++ fin :: post = (pre ++ [fin]) ++ post := by simp
    rw [hsplit, processLines_append, ← hbegin, hch₁, hch₂] at hch
    obtain ⟨-, rfl⟩ : smspdu₂ = smspdu' ∧ r₂ = r' := by simpa [pending] using hch
    simp only [List.length_reverse] at hlt
    omega

/-- **The response is frozen at the first final line exactly when no later line is taken for the
command and no prompt answers its PDU.** -/
theorem frozen_iff (hpre : ∀ l ∈ pre, isFinalResponse l = false) (hfin : isFinalResponse fin = true) :
    Frozen type responsePrefix smspdu pre fin post ↔
      (smspdu = none ∨ ascii "> " ∉ pre ++ post) ∧ ∀ l ∈ post, ¬ Taken type responsePrefix pre l :=
  ⟨condition_of_frozen hpre hfin, fun h => frozen_of_condition hpre hfin h.1 h.2⟩

end Whole

/-- A line behind the final one that is handed over. -/
theorem frozen_csq :
    Frozen .SINGLELINE (ascii "+CSQ:") none [ascii "+CSQ: 20,99"] (ascii "OK") [ascii "+CREG: 1"] :=
  (frozen_iff (by decide) (by decide)).2 ⟨Or.inl rfl, by simp only [not_taken_iff]; decide⟩

/-- An unsolicited "NO CARRIER" before the command thread runs turns the "OK" into a failure. -/
theorem not_frozen_no_carrier :
    (sendCommand .SINGLELINE (ascii "+CSQ:") none [ascii "+CSQ: 20,99", ascii "OK", ascii "NO CARRIER"]).1 =
        some (.ok
          { success := false, finalResponse := some (ascii "NO CARRIER"), p_intermediates := [ascii "+CSQ: 20,99"] }) ∧
      ¬ Frozen .SINGLELINE (ascii "+CSQ:") none [ascii "+CSQ: 20,99"] (ascii "OK") [ascii "NO CARRIER"] := by
  refine ⟨by decide, fun h => ?_⟩
  have hret := h.1
  revert hret
  decide

end UniRil.Command
