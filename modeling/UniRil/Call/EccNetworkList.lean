import UniRil.Call.EmergencyRedial

/-!
# The emergency numbers of the network (ril_call.c)

queryEccNetworkList writes the entries of all lines into one buffer, each behind the text that is there.
-/

namespace UniRil.Call.EccNetworkList

open Flows Handlers EmergencyRedial
open AtTok (Line)

variable {ε : Type}

/-! ## The query -/

/-- The loop over the lines behind the first: `+CEN2:<cat>,<number>`. -/
def appendEntries (r : Response) : Line → List Line → Handler Redials Unit Line
  | eccNetList, [] => pure eccNetList
  | eccNetList, p_cur :: rest => do
    let line ← at_tok_start { response := r, cur := some p_cur } ()
    let (category, line) ← at_tok_nextint line ()
    let (number, _) ← at_tok_nextstr line ()
    appendEntries r
      (snprintf (2 * ARRAY_SIZE) (eccNetList ++ ascii "," ++ number ++ ascii "@" ++ decimal category)) rest

def queryEccNetworkList (idle : Nat) : Handler Redials ε Unit := do
  let channelID ← getChannel idle
  let s ← at_send_command_multiline (ascii "AT+CEN?") (ascii "+CEN") none
  labelled (do
      if ← unsuccessful s then
        goto ()
      let mcc ← getMcc s.p_response
      let r ← deref s.p_response
      let eccNetList ← appendEntries r (snprintf (2 * ARRAY_SIZE) mcc) r.p_intermediates.tail
      if eccNetList ≠ [] then
        RIL_onUnsolicitedText .RIL_EXT_UNSOL_ECC_NETWORKLIST_CHANGED eccNetList
      else
        RIL_onUnsolicitedResponse .RIL_EXT_UNSOL_ECC_NETWORKLIST_CHANGED)
    -- done:
    fun _ => pure ()
  at_response_free s.p_response
  putChannel channelID

/-! ## What is reported -/

/-- NULL is reported for an empty list. -/
def report : Event → Option Line
  | .RIL_onUnsolicitedText .RIL_EXT_UNSOL_ECC_NETWORKLIST_CHANGED text => some text
  | .RIL_onUnsolicitedResponse .RIL_EXT_UNSOL_ECC_NETWORKLIST_CHANGED => some []
  | _ => none

def reports (log : List Event) : List Line := log.filterMap report

/-! ## What the lines say -/

/-- The number and the category. -/
def entryOf (line : Line) : Option (Line × Int) :=
  (AtTok.at_tok_start (some line)).bind fun cur =>
    let category := AtTok.at_tok_nextint (some cur)
    category.value.bind fun c => (AtTok.at_tok_nextstr category.p_cur).value.map fun number => (number, c)

/-- `,number@category` for every line in order; `none` if one of them cannot be read. -/
def entriesText : List Line → Option Line
  | [] => some []
  | line :: lines =>
    (entryOf line).bind fun entry =>
      (entriesText lines).map fun text => ascii "," ++ entry.1 ++ ascii "@" ++ decimal entry.2 ++ text

/-- The `mcc` and all entries. -/
def wholeList : List Line → Option Line
  | [] => none
  | first :: lines => (mccOf first).bind fun mcc => (entriesText lines).map (mcc ++ ·)

/-- Nothing is reported, or the whole list of a successful answer. -/
def ReportsWhole (a : Answer) (log : List Event) : Prop :=
  reports log = [] ∨
    ∃ lines text, linesOf (ascii "+CEN") a = some lines ∧ wholeList lines = some text ∧ reports log = [text]

/-- A successful answer has a line, and what can be read whole has room in the buffer. -/
def ListFits (a : Answer) : Prop :=
  ∀ lines, linesOf (ascii "+CEN") a = some lines →
    lines ≠ [] ∧ ∀ text, wholeList lines = some text → text.length < 2 * ARRAY_SIZE

/-! ## The loop -/

/-- A line is read, or the loop is left. -/
theorem entriesText_cons (line : Line) (lines : List Line) :
    entriesText (line :: lines) =
      (AtTok.at_tok_start (some line)).bind fun cur =>
        (AtTok.at_tok_nextint (some cur)).value.bind fun category =>
          (AtTok.at_tok_nextstr (AtTok.at_tok_nextint (some cur)).p_cur).value.bind fun number =>
            (entriesText lines).map fun text => ascii "," ++ number ++ ascii "@" ++ decimal category ++ text := by
  rw [entriesText, entryOf]
  cases AtTok.at_tok_start (some line) with
  | none => rfl
  | some cur =>
    simp only [Option.bind_some]
    cases (AtTok.at_tok_nextint (some cur)).value with
    | none => rfl
    | some category =>
      simp only [Option.bind_some]
      cases (AtTok.at_tok_nextstr (AtTok.at_tok_nextint (some cur)).p_cur).value with
      | none => rfl
      | some number => rfl

/-- The buffer holds the beginning of the whole text. -/
theorem wp_appendEntries {E : Exit Unit → World Redials → Prop} {Q : Line → World Redials → Prop} {w : World Redials}
    {P : Line → List Event → Prop} {R : List Event → Prop} (r : Response) (text : Line) (lines : List Line)
    (hQ : ∀ buf w', Q buf w' ↔ P buf w'.log) (hE : ∀ w', E (.goto ()) w' ↔ R w'.log) :
    wp (appendEntries r (snprintf (2 * ARRAY_SIZE) text) lines) Q E w ↔
      (entriesText lines).elim (R w.log) fun entries => P (snprintf (2 * ARRAY_SIZE) (text ++ entries)) w.log := by
  induction lines generalizing text w with
  | nil => simp [appendEntries, entriesText, hQ]
  | cons line lines ih =>
    rw [entriesText_cons]
    cases hcur : AtTok.at_tok_start (some line) with
    | none => simp [appendEntries, hcur, hE]
    | some cur =>
      cases hcategory : (AtTok.at_tok_nextint (some cur)).value with
      | none => simp [appendEntries, hcur, hcategory, hE]
      | some category =>
        cases hnumber : (AtTok.at_tok_nextstr (AtTok.at_tok_nextint (some cur)).p_cur).value with
        | none => simp [appendEntries, hcur, hcategory, hnumber, hE]
        | some number =>
          simp [appendEntries, hcur, hcategory, hnumber, snprintf_append, ih, Function.comp_def]

/-! ## Every answer -/

theorem reports_append (l l' : List Event) : reports (l ++ l') = reports l ++ reports l' := List.filterMap_append

theorem wholeList_cons {line mcc : Line} (h : mccOf line = some mcc) (lines : List Line) :
    wholeList (line :: lines) = (entriesText lines).map (mcc ++ ·) := by
  rw [wholeList, h, Option.bind_some]

theorem mccOf_eq_none {line : Line} (h : (58 : Byte) ∉ line) : mccOf line = none := by
  have hnone : AtTok.at_tok_start (some line) = none := by
    rw [← Option.not_isSome_iff_eq_none, at_tok_start_isSome]
    exact h
  rw [mccOf, hnone, Option.bind_none]

/-- The buffer is reported. -/
def networkReport (eccNetList : Line) : Event :=
  if eccNetList ≠ [] then .RIL_onUnsolicitedText .RIL_EXT_UNSOL_ECC_NETWORKLIST_CHANGED eccNetList
  else .RIL_onUnsolicitedResponse .RIL_EXT_UNSOL_ECC_NETWORKLIST_CHANGED

theorem reports_networkReport (eccNetList : Line) : reports [networkReport eccNetList] = [eccNetList] := by
  unfold networkReport
  split
  · rfl
  · next h => rw [not_not.1 h]; rfl

theorem reports_query : reports [.at_send_command (ascii "AT+CEN?")] = [] := rfl

theorem snprintf_eq_iff {size : Nat} (h : 0 < size) (s : Line) : snprintf size s = s ↔ s.length < size := by
  constructor
  · intro heq
    have hlen := congrArg List.length heq
    rw [snprintf, List.length_take] at hlen
    omega
  · exact snprintf_of_lt

/-- What was read whole is reported whole if it has room. -/
theorem reportsWhole_buffer {f line mcc entries : Line} {ls lines : List Line}
    (hf : Command.isFinalResponseSuccess f = true)
    (hls : Command.intermediatesOf .MULTILINE (ascii "+CEN") ls = line :: lines) (hmcc : mccOf line = some mcc)
    (hentries : entriesText lines = some entries) :
    ReportsWhole (.response f ls)
        ([.at_send_command (ascii "AT+CEN?")] ++ [networkReport (snprintf (2 * ARRAY_SIZE) (mcc ++ entries))]) ↔
      ListFits (.response f ls) := by
  have hlines : linesOf (ascii "+CEN") (.response f ls) = some (line :: lines) := by simp [linesOf, hf, hls]
  have hwhole : wholeList (line :: lines) = some (mcc ++ entries) := by
    rw [wholeList_cons hmcc, hentries, Option.map_some]
  have hfits := @snprintf_eq_iff (2 * ARRAY_SIZE) (by decide) (mcc ++ entries)
  unfold ReportsWhole ListFits
  rw [reports_append, reports_query, reports_networkReport, List.nil_append, hlines]
  rw [eq_comm, List.length_append] at hfits
  simpa [hwhole] using hfits

/-- **The emergency numbers of the network are reported whole or not at all** exactly if a line is there and the list
has room. -/
theorem reportsWhole_iff (idle : Nat) (answers : Nat → Answer) (allocates : Nat → Bool) (calls : Requests.Globals) :
    wp (queryEccNetworkList idle : Handler Redials Empty Unit) (fun _ w => ReportsWhole (answers 0) w.log)
        (fun _ _ => False) (.start answers allocates { calls, obtained := [], released := [] }) ↔
      ListFits (answers 0) := by
  unfold queryEccNetworkList
  cases ha : answers 0 with
  | failed =>
    simp [World.start, ha, ReportsWhole, ListFits, linesOf]
    exact reports_query
  | response f ls =>
    by_cases hf : Command.isFinalResponseSuccess f = true
    · cases hls : Command.intermediatesOf .MULTILINE (ascii "+CEN") ls with
      | nil =>
        simp [World.start, ha, hf, hls, ListFits, linesOf]
        rw [wp_getMcc_nil rfl]
        exact id
      | cons line lines =>
        by_cases hcolon : (58 : Byte) ∈ line
        · obtain ⟨mcc, hmcc, hread⟩ := wp_getMcc_cons (r := ⟨0, true, f, line :: lines⟩) rfl hcolon
          simp [World.start, ha, hf, hls, hread]
          refine (wp_appendEntries (P := fun buf log => ReportsWhole (.response f ls) (log ++ [networkReport buf]))
            (R := ReportsWhole (.response f ls)) _ mcc lines ?_ ?_).trans ?_
          · intro buf w'
            by_cases hbuf : buf = []
            · simp [hbuf, networkReport]
            · simp [hbuf, networkReport]
          · intro w'
            simp
          · cases hentries : entriesText lines with
            | none =>
              -- a line cannot be read, and nothing is reported
              refine iff_of_true (.inl reports_query) ?_
              simp [ListFits, linesOf, hf, hls, wholeList, hmcc, hentries]
            | some entries => exact reportsWhole_buffer hf hls hmcc hentries
        · simp [World.start, ha, hf, hls, ListFits, linesOf, wholeList, mccOf_eq_none hcolon]
          rw [wp_getMcc_bad rfl hcolon]
          exact .inl reports_query
    · simp [World.start, ha, hf, ReportsWhole, ListFits, linesOf]
      exact reports_query

/-- AT+CEN? is answered with OK and nothing else. -/
theorem reportsWhole_fails_noLine :
    ¬ wp (queryEccNetworkList 1 : Handler Redials Empty Unit)
        (fun _ w => ReportsWhole (.response (ascii "OK") []) w.log) (fun _ _ => False)
        (.start (fun _ => .response (ascii "OK") []) (fun _ => true)
          { calls := Requests.idleGlobals, obtained := [], released := [] }) := by
  have hf : Command.isFinalResponseSuccess (ascii "OK") = true := by decide
  have hls : Command.intermediatesOf .MULTILINE (ascii "+CEN") [] = [] := rfl
  unfold queryEccNetworkList
  simp [World.start, hf, hls]
  rw [wp_getMcc_nil rfl]
  exact id

end UniRil.Call.EccNetworkList
