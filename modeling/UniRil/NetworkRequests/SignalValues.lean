import UniRil.NetworkRequests.Fields

/-!
# The values of +CSQ and +CESQ (ril_network.c)

A line that comes on its own is written to the cells of its SIM, field by field; the answer to a command is rewritten
with values of its own. The conversions stand in both places.
-/

namespace UniRil.NetworkRequests

open Flows Handlers
open AtTok (Line)
open Network.SignalProcess (Signal compensate rssiLevel rxlevLevel rsrpLevel)

/-! ## The cells -/

/-- The cells of a SIM. -/
structure SignalCells where
  rxlev : Int
  ber : Int
  rscp : Int
  ecno : Int
  rsrq : Int
  rsrp : Int
  rssi : Int
  berr : Int
  s_psOpened : Bool
  deriving DecidableEq

/-- What a +CESQ line has of them. -/
def SignalCells.cesq (s : SignalCells) : List Int := [s.rxlev, s.ber, s.rscp, s.ecno, s.rsrq, s.rsrp]

def SignalCells.csq (s : SignalCells) : List Int := [s.rssi, s.berr]

/-- `err = at_tok_nextint(&atInStr, &cell); if (err < 0) goto error;` -/
def nextCell (atInStr : Option Line) (store : SignalCells → Int → SignalCells) :
    Flow SignalCells Unit (Option Line) := do
  let tok := AtTok.at_tok_nextint atInStr
  modify fun s => tok.p_out.elim s (store s)
  if tok.ok then pure tok.p_cur else goto ()

/-- `AT_RESULT_OK` comes with the text for `newLine`, and `AT_RESULT_NG` without one. -/
def csq_unsol_rsp (s_isLTE : Bool) (line : Line) : Flow SignalCells Empty (Option Line) :=
  labelled (do
      let atInStr ← demand (AtTok.at_tok_start (some line)) ()
      let atInStr ← nextCell atInStr fun s rssi => { s with rssi := rssi }
      let _ ← nextCell atInStr fun s berr => { s with berr := berr }
      modify fun s => { s with rssi := rssiLevel s.rssi }
      modify fun s => { s with berr := if s.berr > 99 then 99 else s.berr }
      let s ← get
      if s.s_psOpened ∧ !s_isLTE then
        modify fun s => { s with s_psOpened := false }
        pure (some (snprintf AT_COMMAND_LEN (ascii "+CSQ: " ++ commas s.csq)))
      else
        pure none)
    -- error:
    fun _ => pure none

def cesq_unsol_rsp (s_isLTE : Bool) (line : Line) : Flow SignalCells Empty (Option Line) :=
  labelled (do
      let atInStr ← demand (AtTok.at_tok_start (some line)) ()
      let atInStr ← nextCell atInStr fun s rxlev => { s with rxlev := rxlev }
      modify fun s => { s with rxlev := rxlevLevel s.rxlev }
      let atInStr ← nextCell atInStr fun s ber => { s with ber := ber }
      let atInStr ← nextCell atInStr fun s rscp => { s with rscp := rscp }
      modify fun s => { s with rscp := compensate s.rscp }
      let atInStr ← nextCell atInStr fun s ecno => { s with ecno := ecno }
      let atInStr ← nextCell atInStr fun s rsrq => { s with rsrq := rsrq }
      let _ ← nextCell atInStr fun s rsrp => { s with rsrp := rsrp }
      modify fun s => { s with rsrp := rsrpLevel s.rsrp }
      let s ← get
      if s.s_psOpened ∧ s_isLTE then
        modify fun s => { s with s_psOpened := false }
        pure (some (snprintf AT_COMMAND_LEN (ascii "+CESQ: " ++ commas s.cesq)))
      else
        pure none)
    -- error:
    fun _ => pure none

/-! ## What is documented -/

/-- The line begins so, and the numbers stand behind the colon. -/
def HasNumbers (begins : Line) (numbers : List Int) (line : Line) : Prop :=
  begins <+: line ∧ ∃ cur, AtTok.at_tok_start (some line) = some cur ∧
    ∀ i < numbers.length, number i (some cur) = numbers[i]?

/-- The ranges of TD-SCDMA begin at 100. -/
def documentedRxlev (rxlev : Int) : Prop := 0 ≤ rxlev ∧ rxlev ≤ 63 ∨ rxlev = 99 ∨ 100 ≤ rxlev ∧ rxlev ≤ 191

def documentedRscp (rscp : Int) : Prop := 0 ≤ rscp ∧ rscp ≤ 96 ∨ rscp = 255 ∨ 100 ≤ rscp ∧ rscp ≤ 191

def documentedRssi (rssi : Int) : Prop :=
  0 ≤ rssi ∧ rssi ≤ 31 ∨ rssi = 99 ∨ 100 ≤ rssi ∧ rssi ≤ 191 ∨ rssi = 199

/-- A level, or an unknown one. -/
def IsLevel (level : Int) : Prop := 0 ≤ level ∧ level ≤ 31 ∨ level = 99 ∨ level = 255

/-- The cells and the answer have the same values, and documented levels become levels. -/
structure CesqAgrees (line : Line) (rxlev rscp : Int) (s : SignalCells) : Prop where
  same : cesq_execute_cmd_rsp line = some (ascii "+CESQ: " ++ commas s.cesq)
  rxlev : documentedRxlev rxlev → IsLevel s.rxlev
  rscp : documentedRscp rscp → IsLevel s.rscp

structure CsqAgrees (line : Line) (rssi : Int) (s : SignalCells) : Prop where
  same : ∀ ber, csq_execute_cmd_rsp ber line = some (ascii "+CSQ:" ++ commas s.csq)
  rssi : documentedRssi rssi → IsLevel s.rssi

/-- Whatever is in the cells, and whether or not the SIM is in LTE. -/
def SignalsAgree (line : Line) : Prop :=
  ∀ (s_isLTE : Bool) (s : SignalCells),
    (∀ rxlev ber rscp ecno rsrq rsrp, HasNumbers (ascii "+CESQ:") [rxlev, ber, rscp, ecno, rsrq, rsrp] line →
      CesqAgrees line rxlev rscp (after (cesq_unsol_rsp s_isLTE line) s)) ∧
    ∀ rssi berr, HasNumbers (ascii "+CSQ:") [rssi, berr] line →
      CsqAgrees line rssi (after (csq_unsol_rsp s_isLTE line) s)

/-- No +CESQ line has a `rscp` from 32 to 96. -/
def LevelsConverted (line : Line) : Prop :=
  ∀ rxlev ber rscp ecno rsrq rsrp, HasNumbers (ascii "+CESQ:") [rxlev, ber, rscp, ecno, rsrq, rsrp] line →
    ¬ (32 ≤ rscp ∧ rscp ≤ 96)

/-! ## The levels -/

theorem isLevel_rxlevLevel {rxlev : Int} (h : documentedRxlev rxlev) : IsLevel (rxlevLevel rxlev) := by
  unfold IsLevel rxlevLevel compensate
  unfold documentedRxlev at h
  rw [Int.tdiv_eq_ediv]
  split
  · omega
  · omega

/-- Of the levels of W-CDMA only those up to 31 are levels afterwards. -/
theorem isLevel_compensate_iff {rscp : Int} (h : documentedRscp rscp) :
    IsLevel (compensate rscp) ↔ ¬ (32 ≤ rscp ∧ rscp ≤ 96) := by
  unfold IsLevel compensate
  unfold documentedRscp at h
  omega

theorem isLevel_rssiLevel {rssi : Int} (h : documentedRssi rssi) : IsLevel (rssiLevel rssi) := by
  unfold IsLevel rssiLevel compensate
  unfold documentedRssi at h
  omega

/-- The two conversions of AT+CSQ are the same, on every number. -/
theorem rssi2G_eq (rssi : Int) : rssi2G rssi = rssiLevel rssi := by
  unfold rssi2G rssiLevel compensate
  omega

/-! ## The values that are reported -/

/-- The cells from which the strength is reported. -/
def SignalCells.signal (s : SignalCells) : Signal :=
  { rxlev := s.rxlev, rscp := s.rscp, rsrp := s.rsrp, rssi := s.rssi }

/-- A token is a number, or the line is left; a text that is no number is stored before. -/
theorem at_tok_nextint_cases (cur : Option Line) :
    (∃ n rest, AtTok.at_tok_nextint cur = ⟨true, some n, rest⟩) ∨
      ∃ p_out rest, AtTok.at_tok_nextint cur = ⟨false, p_out, rest⟩ := by
  rw [at_tok_nextint_eq, number]
  cases field 0 cur with
  | none => simp
  | some text => cases h : AtTok.strtol text with
    | none => simp [h]
    | some n => simp [h]

section

open Network.SignalProcess (cell)

variable (s_isLTE : Bool) (line : Line) (s : SignalCells)

/-- A line stores what the thread for the strength takes from it. -/
theorem signal_csq_unsol_rsp :
    (after (csq_unsol_rsp s_isLTE line) s).signal = Network.SignalProcess.csq_unsol_rsp line s.signal := by
  apply after_of_ends (P := fun s' : SignalCells => s'.signal = Network.SignalProcess.csq_unsol_rsp line s.signal)
  unfold csq_unsol_rsp Network.SignalProcess.csq_unsol_rsp AtTok.at_tok_start nextCell
  cases AtTok.at_tok_flag_start (some line) 58 with
  | none => simp
  | some cur =>
    rcases at_tok_nextint_cases (some cur) with ⟨rssi, cur, h⟩ | ⟨p_out, cur, h⟩
    · rcases at_tok_nextint_cases cur with ⟨berr, _, hberr⟩ | ⟨p_out, _, hberr⟩
      · simp [h, hberr, cell, SignalCells.signal]
      · cases p_out with
        | none => simp [h, hberr, cell, SignalCells.signal]
        | some n => simp [h, hberr, cell, SignalCells.signal]
    · cases p_out with
      | none => simp [h, cell, SignalCells.signal]
      | some n => simp [h, cell, SignalCells.signal]

theorem signal_cesq_unsol_rsp :
    (after (cesq_unsol_rsp s_isLTE line) s).signal = Network.SignalProcess.cesq_unsol_rsp line s.signal := by
  apply after_of_ends (P := fun s' : SignalCells => s'.signal = Network.SignalProcess.cesq_unsol_rsp line s.signal)
  unfold cesq_unsol_rsp Network.SignalProcess.cesq_unsol_rsp Network.SignalProcess.cesqRest AtTok.at_tok_start nextCell
  cases AtTok.at_tok_flag_start (some line) 58 with
  | none => simp
  | some cur =>
    rcases at_tok_nextint_cases (some cur) with ⟨rxlev, cur, hrxlev⟩ | ⟨p_out, _, hrxlev⟩
    · rcases at_tok_nextint_cases cur with ⟨ber, cur, hber⟩ | ⟨p_out, _, hber⟩
      · rcases at_tok_nextint_cases cur with ⟨rscp, cur, hrscp⟩ | ⟨p_out, _, hrscp⟩
        · rcases at_tok_nextint_cases cur with ⟨ecno, cur, hecno⟩ | ⟨p_out, _, hecno⟩
          · rcases at_tok_nextint_cases cur with ⟨rsrq, cur, hrsrq⟩ | ⟨p_out, _, hrsrq⟩
            · rcases at_tok_nextint_cases cur with ⟨rsrp, cur, hrsrp⟩ | ⟨p_out, _, hrsrp⟩
              · simp [hrxlev, hber, hrscp, hecno, hrsrq, hrsrp, cell, SignalCells.signal]
              · cases p_out with
                | none => simp [hrxlev, hber, hrscp, hecno, hrsrq, hrsrp, cell, SignalCells.signal]
                | some n => simp [hrxlev, hber, hrscp, hecno, hrsrq, hrsrp, cell, SignalCells.signal]
            · cases p_out with
              | none => simp [hrxlev, hber, hrscp, hecno, hrsrq, cell, SignalCells.signal]
              | some n => simp [hrxlev, hber, hrscp, hecno, hrsrq, cell, SignalCells.signal]
          · cases p_out with
            | none => simp [hrxlev, hber, hrscp, hecno, cell, SignalCells.signal]
            | some n => simp [hrxlev, hber, hrscp, hecno, cell, SignalCells.signal]
        · cases p_out with
          | none => simp [hrxlev, hber, hrscp, cell, SignalCells.signal]
          | some n => simp [hrxlev, hber, hrscp, cell, SignalCells.signal]
      · cases p_out with
        | none => simp [hrxlev, hber, cell, SignalCells.signal]
        | some n => simp [hrxlev, hber, cell, SignalCells.signal]
    · cases p_out with
      | none => simp [hrxlev, cell, SignalCells.signal]
      | some n => simp [hrxlev, cell, SignalCells.signal]

end

/-! ## A line with all its numbers -/

section

variable {line cur : Line} {s : SignalCells}

/-- The number at a place is stored, and the reading goes on behind it. -/
theorem wp_nextCell {i : Nat} {cur : Option Line} {n : Int} (h : number i cur = some n)
    (store : SignalCells → Int → SignalCells) {Q : Option Line → SignalCells → Prop}
    {E : Exit Unit → SignalCells → Prop} :
    wp (nextCell (behind i cur) store) Q E s ↔ Q (behind (i + 1) cur) (store s n) := by
  have hvalue : (AtTok.at_tok_nextint (behind i cur)).value = some n := by
    rw [value_nextint, number_behind]
    exact h
  rw [AtTok.Tok.value] at hvalue
  split at hvalue
  · next hok =>
    have hcur : (AtTok.at_tok_nextint (behind i cur)).p_cur = behind (i + 1) cur := by
      rw [at_tok_nextint_eq, behind_behind]
    simp [nextCell, hok, hvalue, hcur]
  · cases hvalue

theorem cesq_unsol_rsp_cells {rxlev ber rscp ecno rsrq rsrp : Int} (hcur : AtTok.at_tok_start (some line) = some cur)
    (h : ∀ i < 6, number i (some cur) = [rxlev, ber, rscp, ecno, rsrq, rsrp][i]?) (s_isLTE : Bool) :
    (after (cesq_unsol_rsp s_isLTE line) s).cesq =
      [rxlevLevel rxlev, ber, compensate rscp, ecno, rsrq, rsrpLevel rsrp] := by
  apply after_of_ends (P := fun s' : SignalCells =>
    s'.cesq = [rxlevLevel rxlev, ber, compensate rscp, ecno, rsrq, rsrpLevel rsrp])
  unfold cesq_unsol_rsp
  rw [hcur, demand, wp_labelled, wp_bind, wp_pure, ← behind_zero (some cur)]
  simp only [wp_bind, wp_modify, wp_get, wp_ite, wp_pure, wp_nextCell (h 0 (by decide)), wp_nextCell (h 1 (by decide)),
    wp_nextCell (h 2 (by decide)), wp_nextCell (h 3 (by decide)), wp_nextCell (h 4 (by decide)),
    wp_nextCell (h 5 (by decide))]
  exact ⟨fun _ => rfl, fun _ => rfl⟩

theorem csq_unsol_rsp_cells {rssi berr : Int} (hcur : AtTok.at_tok_start (some line) = some cur)
    (h : ∀ i < 2, number i (some cur) = [rssi, berr][i]?) (s_isLTE : Bool) :
    (after (csq_unsol_rsp s_isLTE line) s).csq = [rssiLevel rssi, if berr > 99 then 99 else berr] := by
  apply after_of_ends (P := fun s' : SignalCells => s'.csq = [rssiLevel rssi, if berr > 99 then 99 else berr])
  unfold csq_unsol_rsp
  rw [hcur, demand, wp_labelled, wp_bind, wp_pure, ← behind_zero (some cur)]
  simp only [wp_bind, wp_modify, wp_get, wp_ite, wp_pure, wp_nextCell (h 0 (by decide)), wp_nextCell (h 1 (by decide))]
  exact ⟨fun _ => rfl, fun _ => rfl⟩

theorem findInBuf_prefix {buf needle : Line} (h : needle <+: buf) : findInBuf buf needle = true := by
  have hfrom (needle : Line) {s buf : Line} (h : s <+: buf) : findFrom needle s buf = true := by
    induction s generalizing buf with
    | nil => rw [findFrom]
    | cons c s ih =>
      cases buf with
      | nil => simp at h
      | cons b buf =>
        rw [List.cons_prefix_cons] at h
        rw [findFrom, if_pos h.1]
        exact ih h.2
  exact hfrom needle h

theorem cesq_execute_cmd_rsp_values {rxlev ber rscp ecno rsrq rsrp : Int} (hbegins : ascii "+CESQ:" <+: line)
    (hcur : AtTok.at_tok_start (some line) = some cur)
    (h : ∀ i < 6, number i (some cur) = [rxlev, ber, rscp, ecno, rsrq, rsrp][i]?) :
    cesq_execute_cmd_rsp line =
      some (ascii "+CESQ: " ++ commas [rxlevLevel rxlev, ber, compensate rscp, ecno, rsrq, rsrpLevel rsrp]) := by
  have hfound : findInBuf line (ascii "+CESQ") = true :=
    findInBuf_prefix (List.IsPrefix.trans (by decide) hbegins)
  have hread : readCesq (some cur) =
      some ([rxlevLevel rxlev, ber, compensate rscp, ecno, rsrq, rsrpLevel rsrp], behind 6 (some cur)) := by
    unfold readCesq
    rw [← behind_zero (some cur)]
    simp only [bind_nextint_eq_some, pure_eq_some]
    exact ⟨_, h 0 (by decide), _, h 1 (by decide), _, h 2 (by decide), _, h 3 (by decide), _, h 4 (by decide), _,
      h 5 (by decide), rfl⟩
  have hrun : readCesq.run' (some cur) = (readCesq (some cur)).map Prod.fst := rfl
  rw [cesq_execute_cmd_rsp, if_pos hfound, hcur, Option.bind_some, hrun, hread]
  rfl

theorem csq_execute_cmd_rsp_values {rssi berr : Int} (hbegins : ascii "+CSQ:" <+: line)
    (hcur : AtTok.at_tok_start (some line) = some cur) (h : ∀ i < 2, number i (some cur) = [rssi, berr][i]?)
    (ber : Int) :
    csq_execute_cmd_rsp ber line = some (ascii "+CSQ:" ++ commas [rssiLevel rssi, if berr > 99 then 99 else berr]) := by
  have hfound : findInBuf line (ascii "+CSQ") = true :=
    findInBuf_prefix (List.IsPrefix.trans (by decide) hbegins)
  have hrssi : number 0 (some cur) = some rssi := h 0 (by decide)
  have hberr : number 0 (behind 1 (some cur)) = some berr := by
    rw [number_behind]
    exact h 1 (by decide)
  have hvalue : (AtTok.at_tok_nextint (behind 1 (some cur))).value = some berr := by rw [value_nextint, hberr]
  have hfirst : (AtTok.at_tok_nextint (some cur)).p_cur = behind 1 (some cur) := by rw [at_tok_nextint_eq]
  rw [csq_execute_cmd_rsp, if_pos hfound, hcur, Option.bind_some]
  simp only [value_nextint, hrssi, hfirst, Option.map_some]
  rw [AtTok.Tok.value] at hvalue
  split at hvalue
  · next hok => simp [hok, hvalue, rssi2G_eq]
  · cases hvalue

end

/-! ## Every line -/

/-- **The values of a line agree**, and are levels exactly if no level of W-CDMA is left as it is. -/
theorem signals_agree_iff (line : Line) : SignalsAgree line ↔ LevelsConverted line := by
  constructor
  · rintro h rxlev ber rscp ecno rsrq rsrp hline ⟨hlow, hhigh⟩
    have hparts := hline
    obtain ⟨-, cur, hcur, hnumbers⟩ := hparts
    have hdocumented : documentedRscp rscp := .inl ⟨by omega, hhigh⟩
    have hlevel := ((h true ⟨0, 0, 0, 0, 0, 0, 0, 0, false⟩).1 rxlev ber rscp ecno rsrq rsrp hline).rscp hdocumented
    have hcells := cesq_unsol_rsp_cells (s := ⟨0, 0, 0, 0, 0, 0, 0, 0, false⟩) hcur hnumbers true
    simp only [SignalCells.cesq, List.cons.injEq] at hcells
    rw [hcells.2.2.1] at hlevel
    exact (isLevel_compensate_iff hdocumented).1 hlevel ⟨hlow, hhigh⟩
  · intro h s_isLTE s
    constructor
    · rintro rxlev ber rscp ecno rsrq rsrp hline
      have hparts := hline
      obtain ⟨hbegins, cur, hcur, hnumbers⟩ := hparts
      have hcells := cesq_unsol_rsp_cells (s := s) hcur hnumbers s_isLTE
      have hfields := hcells
      simp only [SignalCells.cesq, List.cons.injEq] at hfields
      constructor
      · rw [hcells]
        exact cesq_execute_cmd_rsp_values hbegins hcur hnumbers
      · intro hdocumented
        rw [hfields.1]
        exact isLevel_rxlevLevel hdocumented
      · intro hdocumented
        rw [hfields.2.2.1]
        exact (isLevel_compensate_iff hdocumented).2 (h rxlev ber rscp ecno rsrq rsrp hline)
    · rintro rssi berr ⟨hbegins, cur, hcur, hnumbers⟩
      have hcells := csq_unsol_rsp_cells (s := s) hcur hnumbers s_isLTE
      have hfields := hcells
      simp only [SignalCells.csq, List.cons.injEq] at hfields
      constructor
      · intro ber
        rw [hcells]
        exact csq_execute_cmd_rsp_values hbegins hcur hnumbers ber
      · intro hdocumented
        rw [hfields.1]
        exact isLevel_rssiLevel hdocumented

/-- A level of W-CDMA in the middle of its range stays as it is. -/
theorem signals_agree_fails_rscp : ¬ SignalsAgree (ascii "+CESQ: 99,99,50,255,255,255") := by
  intro h
  have hline : HasNumbers (ascii "+CESQ:") [99, 99, 50, 255, 255, 255] (ascii "+CESQ: 99,99,50,255,255,255") :=
    ⟨by decide, ascii " 99,99,50,255,255,255", by decide, by decide⟩
  have hlevel := ((h true ⟨0, 0, 0, 0, 0, 0, 0, 0, false⟩).1 _ _ _ _ _ _ hline).rscp (.inl ⟨by decide, by decide⟩)
  obtain ⟨-, cur, hcur, hnumbers⟩ := hline
  have hcells := cesq_unsol_rsp_cells (s := ⟨0, 0, 0, 0, 0, 0, 0, 0, false⟩) hcur hnumbers true
  simp only [SignalCells.cesq, List.cons.injEq] at hcells
  rw [hcells.2.2.1] at hlevel
  exact absurd hlevel (by unfold IsLevel; decide)

end UniRil.NetworkRequests
