import UniRil.Call.Tokens
import UniRil.Network.OperatorNames
import UniRil.Sim.ApduAnswers

/-!
# The operator of the current network (ril_network.c)

The triple query answers with a long name, a short name and a numeric, one line each. The names of a NITZ
record, of the two lists or of the services take the place of the first two; four arrays of a fixed length
hold what is on its way.
-/

namespace UniRil.NetworkRequests

open Flows Handlers
open AtTok (Line)
open Call.Requests (tokens comma_split ne_comma tokens_of_notMem tokens_append_comma of_mem_tokens tokens_eq_nil_iff)
open Network.OperatorNames (OperatorInfo getOperatorName addToOperatorInfoList)

/-! ## The NITZ record -/

def ARRAY_SIZE : Nat := 128

structure NitzRecord where
  mcc : Line
  mnc : Line
  fullName : Line
  shortName : Line
  deriving DecidableEq

/-- The fields of a +SPNWNAME line, if there are four. -/
def spnwname (s : Line) : Option NitzRecord :=
  let mcc := AtTok.at_tok_nextstr (AtTok.at_tok_start (some s))
  let mnc := AtTok.at_tok_nextstr mcc.p_cur
  let fullName := AtTok.at_tok_nextstr mnc.p_cur
  let shortName := AtTok.at_tok_nextstr fullName.p_cur
  mcc.value.bind fun mcc => mnc.value.bind fun mnc => fullName.value.bind fun fullName =>
    shortName.value.map fun shortName =>
      { mcc := mcc, mnc := mnc, fullName := fullName, shortName := shortName }

namespace NitzRecord

def numeric (r : NitzRecord) : Line := r.mcc ++ r.mnc

def names (r : NitzRecord) : Line := r.fullName ++ ascii "," ++ r.shortName

/-- `s_nitzOperatorInfo[socket_id]` -/
def text (r : NitzRecord) : Line := snprintf ARRAY_SIZE (r.numeric ++ ascii "," ++ r.names)

def firstName (r : NitzRecord) : Option Line :=
  if r.fullName ≠ [] then some r.fullName else if r.shortName ≠ [] then some r.shortName else none

end NitzRecord

/-- `plmnName` and `updatedPlmn` have 64 characters. -/
def copied (name : Line) : Option Line := if name.length < 64 then some name else none

/-- The name that is copied, if one is; without a result, something is written outside of an array. -/
def matchNITZOperatorInfo (optInfo plmn : Line) : Option (Option Line) :=
  match tokens 44 (snprintf ARRAY_SIZE optInfo) with
  | [] => some none
  | ptr :: rest =>
    if ptr ≠ plmn then some none
    -- `ptr[i]` takes the NULL behind the last token, too
    else if 3 ≤ rest.length + 1 then none
    else
      match rest with
      | [] => some none
      | name :: _ => if name ≠ [] then (copied name).map some else some none

/-! ## The request -/

/-- A name that the callee writes into 64 characters. -/
abbrev OperatorName := { name : Line // name.length < 64 }

/-- What the request shares with others, for one SIM. -/
structure Operators where
  s_nitzOperatorInfo : Line
  s_operatorXmlInfoList : List OperatorInfo
  s_operatorInfoList : List OperatorInfo

/-- The part of `processNetworkUnsolicited` for +SPNWNAME. -/
def processSPNWNAME (s : Line) (g : Operators) : Operators :=
  (spnwname s).elim g fun r => { g with s_nitzOperatorInfo := r.text }

inductive LineError
  | unreadable
  | overflow
  deriving DecidableEq

/-- What one line stores into `response`. -/
def copsName (line : Line) : Except LineError (Option Line) :=
  ((AtTok.at_tok_start (some line)).bind fun cur =>
    let skip := AtTok.at_tok_nextint (some cur)
    skip.value.bind fun _ =>
      if !AtTok.at_tok_hasmore skip.p_cur then some none
      else
        let skip := AtTok.at_tok_nextint skip.p_cur
        skip.value.bind fun _ =>
          if !AtTok.at_tok_hasmore skip.p_cur then some none
          else (AtTok.at_tok_nextstr skip.p_cur).value.map some).elim (.error .unreadable) .ok

def operatorLines : Nat → List Line → List (Option Line) → Except LineError (List (Option Line))
  | i, [], response => if i ≠ 3 then .error .unreadable else .ok response
  | i, line :: lines, response => do
    let name ← copsName line
    if 3 ≤ i then .error .overflow else operatorLines (i + 1) lines (response.set i name)

variable {ε : Type}

def linesOrJump (response : Except LineError (List (Option Line))) (l : ε) : Handler Operators ε (List (Option Line)) :=
  match response with
  | .ok response => pure response
  | .error .unreadable => goto l
  | .error .overflow => crash

/-- The name of the plmn: of the NITZ record, of the list of the known ones, or of the file. -/
def operatorNameOf (RIL_getONS : Line → Option OperatorName) (plmn : Line) : Handler Operators ε (Option Line) := do
  let g ← getGlobals
  let nitz ← if g.s_nitzOperatorInfo ≠ [] then deref (matchNITZOperatorInfo g.s_nitzOperatorInfo plmn) else pure none
  nitz.elim
    ((getOperatorName plmn g.s_operatorXmlInfoList).elim
      ((RIL_getONS plmn).elim (pure none) fun name => do
        modifyGlobals fun g =>
          { g with s_operatorXmlInfoList := addToOperatorInfoList plmn name.1 g.s_operatorXmlInfoList }
        pure (some name.1))
      fun name => some <$> deref (copied name))
    fun name => pure (some name)

def updatedNameOf (updatePlmn : Line → Option OperatorName) (plmn : Line) : Handler Operators ε (Option Line) := do
  let g ← getGlobals
  (getOperatorName plmn g.s_operatorInfoList).elim
    ((updatePlmn plmn).elim (pure none) fun name =>
      if name.1 ≠ [] then do
        modifyGlobals fun g => { g with s_operatorInfoList := addToOperatorInfoList plmn name.1 g.s_operatorInfoList }
        pure (some name.1)
      else
        pure none)
    fun name => some <$> deref (copied name)

/-- `response[0]` and `response[1]` -/
def rename (response : List (Option Line)) (name : Option Line) : List (Option Line) :=
  name.elim response fun name => (response.set 0 (some name)).set 1 (some name)

def operatorQuery : Line := ascii "AT+COPS=3,0;+COPS?;+COPS=3,1;+COPS?;+COPS=3,2;+COPS?"

def requestOperator (RIL_getONS updatePlmn : Line → Option OperatorName) (t : RIL_Token) :
    Handler Operators ε Unit :=
  labelled (do
      let s ← at_send_command_multiline operatorQuery (ascii "+COPS:") none
      if !s.ok then
        goto s.p_response
      let r ← deref s.p_response
      touch r
      let response ← linesOrJump (operatorLines 0 r.p_intermediates [none, none, none]) s.p_response
      let response ← (response.getD 2 none).elim (pure response) fun plmn => do
        let name ← operatorNameOf RIL_getONS plmn
        let updated ← updatedNameOf updatePlmn plmn
        pure (rename (rename response name) updated)
      RIL_onRequestComplete t .SUCCESS (.strings response)
      at_response_free s.p_response)
    -- error:
    fun p_response => do
      RIL_onRequestComplete t .GENERIC_FAILURE .NULL
      at_response_free p_response

/-! ## The name of a record -/

/-- The numeric is kept whole, only one name is there, and it fits. -/
def NitzRecord.NameFits (r : NitzRecord) : Prop :=
  r.fullName = [] ∧ r.shortName = [] ∨
    r.numeric ≠ [] ∧ (44 : Byte) ∉ r.numeric ∧
      if r.fullName = [] then
        (44 : Byte) ∉ r.shortName ∧ r.shortName.length < 64 ∧
          r.numeric.length + 2 + r.shortName.length < ARRAY_SIZE
      else
        (44 : Byte) ∉ r.fullName ∧ r.fullName.length < 64 ∧ r.numeric.length + 1 + r.fullName.length < ARRAY_SIZE ∧
          ∀ c ∈ r.shortName.take (ARRAY_SIZE - 1 - (r.numeric.length + 1 + r.fullName.length + 1)), c = 44

theorem matchNITZ_some_iff {optInfo plmn name : Line} :
    matchNITZOperatorInfo optInfo plmn = some (some name) ↔
      tokens 44 (snprintf ARRAY_SIZE optInfo) = [plmn, name] ∧ name.length < 64 := by
  have hmem : ∀ t ∈ tokens 44 (snprintf ARRAY_SIZE optInfo), t ≠ [] := fun t ht => (of_mem_tokens ht).1
  unfold matchNITZOperatorInfo
  cases h : tokens 44 (snprintf ARRAY_SIZE optInfo) with
  | nil => simp
  | cons ptr rest =>
    rw [h] at hmem
    by_cases hptr : ptr = plmn
    · cases rest with
      | nil => simp [hptr]
      | cons n rest =>
        cases rest with
        | nil =>
          have hn : n ≠ [] := hmem n (by simp)
          by_cases hlen : n.length < 64
          · simp [hptr, hn, copied, hlen]
            rintro rfl
            exact hlen
          · simp [hptr, hn, copied, hlen]
            rintro rfl
            omega
        | cons n' rest => simp [hptr]
    · simp [hptr]

theorem tokens_names_full {full short : Line} (hfull : full ≠ []) (m : Nat) :
    tokens 44 ((full ++ 44 :: short).take m) = [full] ↔
      (44 : Byte) ∉ full ∧ full.length ≤ m ∧ ∀ c ∈ short.take (m - (full.length + 1)), c = 44 := by
  have hlong (hm : full.length < m) (hcomma : (44 : Byte) ∉ full) :
      tokens 44 ((full ++ 44 :: short).take m) = [full] ++ tokens 44 (short.take (m - (full.length + 1))) := by
    obtain ⟨n, hn⟩ : ∃ n, m - full.length = n + 1 := ⟨m - full.length - 1, by omega⟩
    have hrest : n = m - (full.length + 1) := by omega
    rw [List.take_append, List.take_of_length_le hm.le, hn, List.take_succ_cons, tokens_append_comma hcomma,
      if_neg hfull, hrest]
  constructor
  · intro h
    have hcomma : (44 : Byte) ∉ full := (of_mem_tokens (by rw [h]; exact List.mem_singleton_self _)).2
    refine ⟨hcomma, ?_⟩
    rcases lt_trichotomy m full.length with hlt | rfl | hgt
    · rw [List.take_append_of_le_length hlt.le,
        tokens_of_notMem fun hmem => hcomma (List.mem_of_mem_take hmem)] at h
      split at h
      · cases h
      · have hlen := congrArg List.length (List.cons.inj h).1
        rw [List.length_take] at hlen
        omega
    · refine ⟨le_rfl, ?_⟩
      rw [Nat.sub_eq_zero_of_le (Nat.le_succ _), List.take_zero]
      simp
    · rw [hlong hgt hcomma, List.append_right_eq_self] at h
      exact ⟨hgt.le, tokens_eq_nil_iff.1 h⟩
  · rintro ⟨hcomma, hle, hrest⟩
    rcases hle.eq_or_lt with heq | hlt
    · rw [← heq, List.take_append_of_le_length le_rfl, List.take_length, tokens_of_notMem hcomma, if_neg hfull]
    · rw [hlong hlt hcomma, tokens_eq_nil_iff.2 hrest, List.append_nil]

theorem tokens_names_short {short : Line} (hshort : short ≠ []) (m : Nat) :
    tokens 44 ((44 :: short).take m) = [short] ↔ (44 : Byte) ∉ short ∧ short.length + 1 ≤ m := by
  cases m with
  | zero => simp [tokens_of_notMem]
  | succ m =>
    have hskip : tokens 44 ((44 :: short).take (m + 1)) = tokens 44 (short.take m) := by
      rw [List.take_succ_cons]
      exact tokens_append_comma (t := []) (by simp) _
    rw [hskip, Nat.add_le_add_iff_right]
    constructor
    · intro h
      have hcomma : (44 : Byte) ∉ short := (of_mem_tokens (by rw [h]; exact List.mem_singleton_self _)).2
      rw [tokens_of_notMem fun hmem => hcomma (List.mem_of_mem_take hmem)] at h
      split at h
      · cases h
      · have hlen := congrArg List.length (List.cons.inj h).1
        rw [List.length_take] at hlen
        exact ⟨hcomma, by omega⟩
    · rintro ⟨hcomma, hle⟩
      rw [List.take_of_length_le hle, tokens_of_notMem hcomma, if_neg hshort]

/-- A numeric is the first token of its record, if it is kept whole. -/
theorem tokens_text (r : NitzRecord) (hne : r.numeric ≠ []) (hcomma : (44 : Byte) ∉ r.numeric) :
    tokens 44 r.text =
      if r.numeric.length ≤ 126 then r.numeric :: tokens 44 (r.names.take (126 - r.numeric.length))
      else [r.numeric.take 127] := by
  have htext : r.text = (r.numeric ++ 44 :: r.names).take 127 := by
    rw [NitzRecord.text, snprintf, List.append_assoc]
    rfl
  rw [htext]
  split
  · next hlen =>
    have hn : 127 - r.numeric.length = 126 - r.numeric.length + 1 := by omega
    rw [List.take_append, List.take_of_length_le (by omega), hn, List.take_succ_cons, tokens_append_comma hcomma,
      if_neg hne]
    rfl
  · next hlen =>
    have hcut : r.numeric.take 127 ≠ [] := by
      rw [← List.length_pos_iff, List.length_take]
      omega
    rw [List.take_append_of_le_length (by omega), tokens_of_notMem fun hmem => hcomma (List.mem_of_mem_take hmem),
      if_neg hcut]

theorem tokens_text_iff (r : NitzRecord) (name : Line) :
    tokens 44 r.text = [r.numeric, name] ↔
      r.numeric ≠ [] ∧ (44 : Byte) ∉ r.numeric ∧ r.numeric.length ≤ 126 ∧
        tokens 44 (r.names.take (126 - r.numeric.length)) = [name] := by
  constructor
  · intro h
    obtain ⟨hne, hcomma⟩ := of_mem_tokens (s := r.text) (t := r.numeric) (by rw [h]; exact List.mem_cons_self)
    rw [tokens_text r hne hcomma] at h
    split at h
    · next hlen => exact ⟨hne, hcomma, hlen, (List.cons.inj h).2⟩
    · cases (List.cons.inj h).2
  · rintro ⟨hne, hcomma, hlen, hname⟩
    rw [tokens_text r hne hcomma, if_pos hlen, hname]

theorem snprintf_text (r : NitzRecord) : snprintf ARRAY_SIZE r.text = r.text := by
  rw [NitzRecord.text, snprintf, snprintf, List.take_take, min_self]

/-- A record without names yields none. -/
theorem matchNITZ_of_noName (r : NitzRecord) (hfull : r.fullName = []) (hshort : r.shortName = []) :
    matchNITZOperatorInfo r.text r.numeric = some none := by
  have hnames : ∀ m, tokens 44 (r.names.take m) = [] := by
    intro m
    rw [tokens_eq_nil_iff]
    intro c hc
    have hmem := List.mem_of_mem_take hc
    rw [NitzRecord.names, hfull, hshort] at hmem
    exact List.mem_singleton.1 hmem
  have htext := tokens_text r
  unfold matchNITZOperatorInfo
  rw [snprintf_text]
  cases h : tokens 44 r.text with
  | nil => rfl
  | cons ptr rest =>
    by_cases hptr : ptr = r.numeric
    · have hmem : r.numeric ∈ tokens 44 r.text := by
        rw [h, hptr]
        exact List.mem_cons_self
      obtain ⟨hne, hcomma⟩ := of_mem_tokens hmem
      have hrest : rest = [] := by
        rw [h, hnames] at htext
        have heq := htext hne hcomma
        split at heq
        · exact (List.cons.inj heq).2
        · exact (List.cons.inj heq).2
      simp [hptr, hrest]
    · simp [hptr]

/-- **The first name of a record** is what its numeric yields exactly if it is the only one and fits. -/
theorem matchNITZ_iff_nameFits (r : NitzRecord) :
    matchNITZOperatorInfo r.text r.numeric = some r.firstName ↔ r.NameFits := by
  by_cases hfull : r.fullName = []
  · by_cases hshort : r.shortName = []
    · have hfirst : r.firstName = none := by simp [NitzRecord.firstName, hfull, hshort]
      rw [hfirst]
      exact iff_of_true (matchNITZ_of_noName r hfull hshort) (.inl ⟨hfull, hshort⟩)
    · have hfirst : r.firstName = some r.shortName := by simp [NitzRecord.firstName, hfull, hshort]
      have hnames : r.names = 44 :: r.shortName := by
        rw [NitzRecord.names, hfull]
        rfl
      rw [hfirst, matchNITZ_some_iff, snprintf_text, tokens_text_iff, hnames, tokens_names_short hshort,
        NitzRecord.NameFits, if_pos hfull]
      constructor
      · rintro ⟨⟨hne, hcomma, hlen, hcomma', hfits⟩, hsize⟩
        exact .inr ⟨hne, hcomma, hcomma', hsize, by rw [ARRAY_SIZE]; omega⟩
      · rintro (⟨-, hnil⟩ | ⟨hne, hcomma, hcomma', hsize, hfits⟩)
        · exact absurd hnil hshort
        · rw [ARRAY_SIZE] at hfits
          exact ⟨⟨hne, hcomma, by omega, hcomma', by omega⟩, hsize⟩
  · have hfirst : r.firstName = some r.fullName := by simp [NitzRecord.firstName, hfull]
    have hnames : r.names = r.fullName ++ 44 :: r.shortName := by
      rw [NitzRecord.names, List.append_assoc]
      rfl
    have hsame : ARRAY_SIZE - 1 - (r.numeric.length + 1 + r.fullName.length + 1) =
        126 - r.numeric.length - (r.fullName.length + 1) := by
      rw [ARRAY_SIZE]
      omega
    rw [hfirst, matchNITZ_some_iff, snprintf_text, tokens_text_iff, hnames, tokens_names_full hfull,
      NitzRecord.NameFits, if_neg hfull, hsame]
    constructor
    · rintro ⟨⟨hne, hcomma, hlen, hcomma', hfits, hrest⟩, hsize⟩
      exact .inr ⟨hne, hcomma, hcomma', hsize, by rw [ARRAY_SIZE]; omega, hrest⟩
    · rintro (⟨hnil, -⟩ | ⟨hne, hcomma, hcomma', hsize, hfits, hrest⟩)
      · exact absurd hnil hfull
      · rw [ARRAY_SIZE] at hfits
        exact ⟨⟨hne, hcomma, by omega, hcomma', by omega, hrest⟩, hsize⟩

/-! ## The lines -/

def copsLines : Answer → List Line
  | .failed => []
  | .response _ lines => Command.intermediatesOf .MULTILINE (ascii "+COPS:") lines

/-- No fourth line is reached. -/
def LinesFit (lines : List Line) : Prop := 4 ≤ lines.length → ∃ line ∈ lines.take 4, copsName line = .error .unreadable

/-- The numeric, where there are three lines that can be read. -/
def answeredNumeric : List Line → Option Line
  | [long, short, numeric] =>
    match copsName long, copsName short, copsName numeric with
    | .ok _, .ok _, .ok name => name
    | _, _, _ => none
  | _ => none

theorem copsName_ne_overflow (line : Line) : copsName line ≠ .error .overflow := by
  unfold copsName
  generalize Option.bind _ _ = read
  cases read with
  | none => simp
  | some name => simp

theorem operatorLines_overflow_iff {i : Nat} (hi : i ≤ 3) (lines : List Line) (response : List (Option Line)) :
    operatorLines i lines response = .error .overflow ↔
      4 - i ≤ lines.length ∧ ∀ line ∈ lines.take (4 - i), copsName line ≠ .error .unreadable := by
  induction lines generalizing i response with
  | nil =>
    refine iff_of_false ?_ fun h => ?_
    · rw [operatorLines]
      split
      · simp
      · simp
    · have hlen := h.1
      rw [List.length_nil] at hlen
      omega
  | cons line lines ih =>
    obtain ⟨n, hn⟩ : ∃ n, 4 - i = n + 1 := ⟨3 - i, by omega⟩
    rw [hn, List.length_cons, Nat.add_le_add_iff_right, List.take_succ_cons, List.forall_mem_cons, operatorLines]
    cases hname : copsName line with
    | error e =>
      have he : e = .unreadable := by
        cases e with
        | unreadable => rfl
        | overflow => exact absurd hname (copsName_ne_overflow line)
      subst he
      simp [bind, Except.bind]
    | ok name =>
      simp only [bind, Except.bind]
      split
      · next hthree =>
        have hzero : n = 0 := by omega
        simp [hzero]
      · next hthree =>
        have hrest : 4 - (i + 1) = n := by omega
        rw [ih (by omega), hrest]
        simp

theorem linesFit_iff (lines : List Line) :
    LinesFit lines ↔ operatorLines 0 lines [none, none, none] ≠ .error .overflow := by
  rw [Ne, operatorLines_overflow_iff (Nat.zero_le 3), LinesFit]
  push Not
  rfl

/-- Three lines are read in order. -/
theorem answeredNumeric_of_ok {lines : List Line} {response : List (Option Line)}
    (h : operatorLines 0 lines [none, none, none] = .ok response) :
    answeredNumeric lines = response.getD 2 none := by
  have hread {line : Line} {f : Option Line → Except LineError (List (Option Line))}
      (h : (copsName line >>= f) = .ok response) : ∃ name, copsName line = .ok name ∧ f name = .ok response := by
    cases hname : copsName line with
    | error e =>
      rw [hname] at h
      cases h
    | ok name =>
      rw [hname] at h
      exact ⟨name, rfl, h⟩
  cases lines with
  | nil => cases h
  | cons long lines =>
    obtain ⟨longName, hlong, h⟩ := hread h
    cases lines with
    | nil => cases h
    | cons short lines =>
      obtain ⟨shortName, hshort, h⟩ := hread h
      cases lines with
      | nil => cases h
      | cons numeric lines =>
        obtain ⟨plmn, hnumeric, h⟩ := hread h
        cases lines with
        | nil =>
          cases h
          simp [answeredNumeric, hlong, hshort, hnumeric]
        | cons line lines =>
          obtain ⟨name, -, h⟩ := hread h
          cases h

theorem ok_of_answeredNumeric {lines : List Line} {plmn : Line} (h : answeredNumeric lines = some plmn) :
    ∃ response, operatorLines 0 lines [none, none, none] = .ok response := by
  unfold answeredNumeric at h
  split at h
  · next long short numeric =>
    split at h
    · next longName shortName name hlong hshort hnumeric =>
      exact ⟨[longName, shortName, name], by simp [operatorLines, hlong, hshort, hnumeric, bind, Except.bind]⟩
    · cases h
  · cases h

/-! ## The names -/

/-- If the plmn begins the record, one name follows it at most, and it fits. -/
def NitzFits (optInfo plmn : Line) : Prop :=
  ∀ rest, tokens 44 (snprintf ARRAY_SIZE optInfo) = plmn :: rest → rest.length ≤ 1 ∧ ∀ name ∈ rest, name.length < 64

/-- The name of the first list fits, where the record has none. -/
def ListFits (g : Operators) (plmn : Line) : Prop :=
  (∀ name, tokens 44 (snprintf ARRAY_SIZE g.s_nitzOperatorInfo) ≠ [plmn, name]) →
    ∀ name, getOperatorName plmn g.s_operatorXmlInfoList = some name → name.length < 64

/-- The names that are found in the record and in the lists fit. -/
def NamesFit (g : Operators) (plmn : Line) : Prop :=
  NitzFits g.s_nitzOperatorInfo plmn ∧ ListFits g plmn ∧
    ∀ name, getOperatorName plmn g.s_operatorInfoList = some name → name.length < 64

theorem nitzFits_iff (optInfo plmn : Line) :
    NitzFits optInfo plmn ↔ matchNITZOperatorInfo optInfo plmn ≠ none := by
  have hmem : ∀ t ∈ tokens 44 (snprintf ARRAY_SIZE optInfo), t ≠ [] := fun t ht => (of_mem_tokens ht).1
  unfold NitzFits matchNITZOperatorInfo
  cases h : tokens 44 (snprintf ARRAY_SIZE optInfo) with
  | nil => simp
  | cons ptr rest =>
    rw [h] at hmem
    by_cases hptr : ptr = plmn
    · cases rest with
      | nil => simp [hptr]
      | cons n rest =>
        cases rest with
        | nil =>
          have hn : n ≠ [] := hmem n (by simp)
          by_cases hlen : n.length < 64
          · simp [hptr, hn, copied, hlen]
          · simp [hptr, hn, copied, hlen]
        | cons n' rest => simp [hptr]
    · simp [hptr]

variable {w : World Operators} {plmn : Line} {Q : Option Line → World Operators → Prop}
  {E : Exit ε → World Operators → Prop}

/-- The second list is left alone, and the name fits. -/
theorem wp_operatorNameOf (RIL_getONS : Line → Option OperatorName) :
    wp (operatorNameOf RIL_getONS plmn : Handler Operators ε (Option Line))
      (fun _ w' => w'.log = w.log ∧ w'.globals.s_operatorInfoList = w.globals.s_operatorInfoList ∧
        NitzFits w.globals.s_nitzOperatorInfo plmn ∧ ListFits w.globals plmn)
      (fun e w' => e = .crashes ∧ w'.log = w.log ∧
        ¬ (NitzFits w.globals.s_nitzOperatorInfo plmn ∧ ListFits w.globals plmn)) w := by
  have hone (optInfo : Line) (h : optInfo = []) : matchNITZOperatorInfo optInfo plmn = some none := by
    rw [h]
    rfl
  cases hmatch : matchNITZOperatorInfo w.globals.s_nitzOperatorInfo plmn with
  | none =>
    have hne : w.globals.s_nitzOperatorInfo ≠ [] := fun h => by simp [hone _ h] at hmatch
    have hfits : ¬ NitzFits w.globals.s_nitzOperatorInfo plmn := by simp [nitzFits_iff, hmatch]
    simp [operatorNameOf, hne, hmatch, hfits]
  | some nitz =>
    have hfits : NitzFits w.globals.s_nitzOperatorInfo plmn := by simp [nitzFits_iff, hmatch]
    cases nitz with
    | some name =>
      have hlist : ListFits w.globals plmn := fun h => absurd (matchNITZ_some_iff.1 hmatch).1 (h name)
      have hne : w.globals.s_nitzOperatorInfo ≠ [] := fun h => by simp [hone _ h] at hmatch
      simp [operatorNameOf, hne, hmatch, hfits, hlist]
    | none =>
      have hno : ∀ name, tokens 44 (snprintf ARRAY_SIZE w.globals.s_nitzOperatorInfo) ≠ [plmn, name] := by
        intro name htokens
        have hname := matchNITZ_some_iff.2 ⟨htokens, (hfits [name] htokens).2 name (List.mem_singleton_self _)⟩
        rw [hmatch] at hname
        cases hname
      have hlist : ListFits w.globals plmn ↔
          ∀ name, getOperatorName plmn w.globals.s_operatorXmlInfoList = some name → name.length < 64 :=
        ⟨fun h => h hno, fun h _ => h⟩
      simp only [hlist]
      cases hname : getOperatorName plmn w.globals.s_operatorXmlInfoList with
      | none => simp [operatorNameOf, hmatch, hname, hfits]
      | some name =>
        by_cases hlen : name.length < 64
        · simp [operatorNameOf, hmatch, hname, hfits, copied, hlen]
        · simp [operatorNameOf, hmatch, hname, hfits, copied, hlen]
          omega

theorem wp_updatedNameOf (updatePlmn : Line → Option OperatorName) :
    wp (updatedNameOf updatePlmn plmn : Handler Operators ε (Option Line))
      (fun _ w' => w'.log = w.log ∧
        ∀ name, getOperatorName plmn w.globals.s_operatorInfoList = some name → name.length < 64)
      (fun e w' => e = .crashes ∧ w'.log = w.log ∧
        ¬ ∀ name, getOperatorName plmn w.globals.s_operatorInfoList = some name → name.length < 64) w := by
  cases hname : getOperatorName plmn w.globals.s_operatorInfoList with
  | none => simp [updatedNameOf, hname]
  | some name =>
    by_cases hlen : name.length < 64
    · simp [updatedNameOf, hname, copied, hlen]
    · simp [updatedNameOf, hname, copied, hlen]
      omega

/-! ## The request -/

/-- The last event completes the request. -/
def Completed (t : RIL_Token) (log : List Event) : Prop := ∃ e, log.getLast? = some e ∧ e.completes t = true

theorem completed_sent (t : RIL_Token) (log : List Event) (cmd : Line) (err : RIL_Errno) (response : Payload) :
    Completed t (log ++ [.at_send_command cmd, .RIL_onRequestComplete t err response]) :=
  ⟨.RIL_onRequestComplete t err response, by simp, by simp [Event.completes]⟩

theorem not_completed_sent (t : RIL_Token) (log : List Event) (cmd : Line) :
    ¬ Completed t (log ++ [.at_send_command cmd]) := by
  simp [Completed, Event.completes]

/-- The lines fit, and where they give a numeric its names do. -/
def AnswerFits (w : World Operators) : Prop :=
  LinesFit (copsLines (w.answers 0)) ∧
    ∀ plmn, answeredNumeric (copsLines (w.answers 0)) = some plmn → NamesFit w.globals plmn

/-- The command was sent and the request completed. -/
def SentAndCompleted (t : RIL_Token) (w w' : World Operators) : Prop :=
  ∃ err response,
    w'.log = w.log ++ [.at_send_command operatorQuery, .RIL_onRequestComplete t err response]

/-- The request comes back with one answer, or ends without one where something does not fit. -/
theorem wp_requestOperator (RIL_getONS updatePlmn : Line → Option OperatorName) (t : RIL_Token) :
    wp (requestOperator RIL_getONS updatePlmn t : Handler Operators Empty Unit)
      (fun _ w' => AnswerFits w ∧ SentAndCompleted t w w')
      (fun _ w' => ¬ AnswerFits w ∧ w'.log = w.log ++ [.at_send_command operatorQuery]) w := by
  unfold AnswerFits SentAndCompleted
  rw [linesFit_iff]
  cases ha : w.answers 0 with
  | failed =>
    have hnone : answeredNumeric (copsLines .failed) = none := rfl
    have hread : operatorLines 0 (copsLines .failed) [none, none, none] = .error .unreadable := rfl
    simp [requestOperator, ha, hnone, hread]
  | response f lines =>
    cases hread : operatorLines 0 (copsLines (.response f lines)) [none, none, none] with
    | error e =>
      have hnone (plmn : Line) : answeredNumeric (copsLines (.response f lines)) ≠ some plmn := by
        intro h
        obtain ⟨response, hok⟩ := ok_of_answeredNumeric h
        cases hread.symm.trans hok
      have hlines : operatorLines 0 (Command.intermediatesOf .MULTILINE (ascii "+COPS:") lines) [none, none, none] =
          .error e := hread
      cases e with
      | unreadable => simp [requestOperator, ha, hnone, hlines, linesOrJump]
      | overflow => simp [requestOperator, ha, hlines, linesOrJump]
    | ok response =>
      have hlines : operatorLines 0 (Command.intermediatesOf .MULTILINE (ascii "+COPS:") lines) [none, none, none] =
          .ok response := hread
      rw [answeredNumeric_of_ok hread]
      cases hplmn : response.getD 2 none with
      | none =>
        have hplmn' : response[2]?.getD none = none := by rw [← List.getD_eq_getElem?_getD, hplmn]
        simp [requestOperator, ha, hlines, linesOrJump, hplmn']
      | some plmn =>
        have hplmn' : response[2]?.getD none = some plmn := by rw [← List.getD_eq_getElem?_getD, hplmn]
        simp [requestOperator, ha, hlines, linesOrJump, hplmn']
        apply wp_mono (wp_operatorNameOf RIL_getONS)
        · rintro name w' ⟨hlog, hlist, hnitz, hfirst⟩
          rw [wp_map]
          apply wp_mono (wp_updatedNameOf updatePlmn)
          · rintro updated w'' ⟨hlog', hfits⟩
            rw [hlist] at hfits
            have hnames : NamesFit w.globals plmn := ⟨hnitz, hfirst, hfits⟩
            simp [hlog', hlog, hnames]
          · rintro e w'' ⟨rfl, hlog', hfits⟩
            rw [hlist] at hfits
            have hnames : ¬ NamesFit w.globals plmn := fun h => hfits h.2.2
            simp [hlog', hlog, hnames]
        · rintro e w' ⟨rfl, hlog, hfits⟩
          have hnames : ¬ NamesFit w.globals plmn := fun h => hfits ⟨h.1, h.2.1⟩
          simp [hlog, hnames]

/-- **The request stays inside its arrays** exactly if the lines and the names fit. -/
theorem completed_iff (RIL_getONS updatePlmn : Line → Option OperatorName) (t : RIL_Token) :
    Completed t (after (requestOperator RIL_getONS updatePlmn t : Handler Operators Empty Unit) w).log ↔
      LinesFit (copsLines (w.answers 0)) ∧
        ∀ plmn, answeredNumeric (copsLines (w.answers 0)) = some plmn → NamesFit w.globals plmn := by
  apply after_of_ends (P := fun w' : World Operators => Completed t w'.log ↔ _)
  refine wp_mono (wp_requestOperator RIL_getONS updatePlmn t) ?_ ?_
  · rintro _ w' ⟨hfits, err, response, hlog⟩
    rw [hlog]
    exact iff_of_true (completed_sent t w.log operatorQuery err response) hfits
  · rintro _ w' ⟨hfits, hlog⟩
    rw [hlog]
    exact iff_of_false (not_completed_sent t w.log operatorQuery) hfits

/-! ## Both together -/

/-- The request stays inside its arrays, and the record of the line yields its first name. -/
def LookedUp (RIL_getONS updatePlmn : Line → Option OperatorName) (t : RIL_Token) (s : Line) (w : World Operators) :
    Prop :=
  Completed t
      (after (requestOperator RIL_getONS updatePlmn t : Handler Operators Empty Unit)
        (w.setGlobals (processSPNWNAME s))).log ∧
    ∀ r, spnwname s = some r → matchNITZOperatorInfo r.text r.numeric = some r.firstName

/-- **An operator is looked up** inside of the arrays, and by its first name, exactly if the lines and the names
fit. -/
theorem lookedUp_iff (RIL_getONS updatePlmn : Line → Option OperatorName) (t : RIL_Token) (s : Line)
    (w : World Operators) :
    LookedUp RIL_getONS updatePlmn t s w ↔
      LinesFit (copsLines (w.answers 0)) ∧
        (∀ plmn, answeredNumeric (copsLines (w.answers 0)) = some plmn →
          NamesFit (processSPNWNAME s w.globals) plmn) ∧
        ∀ r, spnwname s = some r → r.NameFits := by
  rw [LookedUp, completed_iff, and_assoc]
  simp only [matchNITZ_iff_nameFits, answers_setGlobals, globals_setGlobals]

/-- A record with both names: the NULL behind its tokens is written behind `ptr`. -/
theorem lookedUp_fails_twoNames :
    ¬ LookedUp (fun _ => none) (fun _ => none) (some 1) (ascii "+SPNWNAME: \"460\",\"01\",\"China Unicom\",\"CUCC\"")
      (.start (fun _ => .response (ascii "OK")
          [ascii "+COPS: 0,0,\"CHN-UNICOM\",7", ascii "+COPS: 0,1,\"UNICOM\",7", ascii "+COPS: 0,2,\"46001\",7"])
        (fun _ => true) { s_nitzOperatorInfo := [], s_operatorXmlInfoList := [], s_operatorInfoList := [] }) := by
  rintro ⟨-, hname⟩
  have hrecord : spnwname (ascii "+SPNWNAME: \"460\",\"01\",\"China Unicom\",\"CUCC\"") =
      some ⟨ascii "460", ascii "01", ascii "China Unicom", ascii "CUCC"⟩ := by
    decide
  have hnone : matchNITZOperatorInfo
      (NitzRecord.text ⟨ascii "460", ascii "01", ascii "China Unicom", ascii "CUCC"⟩) (ascii "46001") = none := by
    decide
  cases hnone.symm.trans (hname _ hrecord)

end UniRil.NetworkRequests
