import UniRil.AtTok
import UniRil.Lib.Reused

/-!
# Call forwarding entries (ril_ss.c)

Each line is read into the first slot that is not valid yet. A line that is rejected may have stored some of
its fields there before it failed.
-/

namespace UniRil.Ss

open AtTok

/-! ## The code -/

structure RIL_CallForwardInfo where
  status : Int
  reason : Int
  serviceClass : Int
  toa : Int
  number : Option Line
  timeSeconds : Int
  deriving DecidableEq

/-- After `memset`. -/
def RIL_CallForwardInfo.zero : RIL_CallForwardInfo :=
  { status := 0, reason := 0, serviceClass := 0, toa := 0, number := none, timeSeconds := 0 }

/-- What a line stores through `p_forward`: `none` where a field is left as it is. -/
structure Stores where
  status : Option Int := none
  serviceClass : Option Int := none
  number : Option (Option Line) := none
  toa : Option Int := none
  timeSeconds : Option Int := none

def RIL_CallForwardInfo.store (p_forward : RIL_CallForwardInfo) (s : Stores) : RIL_CallForwardInfo :=
  { p_forward with
    status := s.status.getD p_forward.status
    serviceClass := s.serviceClass.getD p_forward.serviceClass
    number := s.number.getD p_forward.number
    toa := s.toa.getD p_forward.toa
    timeSeconds := s.timeSeconds.getD p_forward.timeSeconds }

/-- What both functions begin with: whether 0 is returned, and the stores. The fields that may be missing
are read by `optional`. -/
def forwardFromLine (optional : Option Line → Stores → Bool × Stores) (line : Line) : Bool × Stores :=
  match at_tok_start (some line) with
  | none => (false, {})
  | some line =>
    let status := at_tok_nextint (some line)
    let s : Stores := { status := status.p_out }
    if status.ok then
      let serviceClass := at_tok_nextint status.p_cur
      let s := { s with serviceClass := serviceClass.p_out }
      if serviceClass.ok then
        if at_tok_hasmore serviceClass.p_cur then optional serviceClass.p_cur s else (true, s)
      else (false, s)
    else (false, s)

/-- The time, behind two commas. -/
def timeCur (line : Option Line) : Option Line := skipNextComma (skipNextComma line)

/-- `0 == strspn(number, "+0123456789")` -/
def noNumber (number : Line) : Bool := !number.head?.any fun c => c = 43 || isdigit c

def ccfcOptional (line : Option Line) (s : Stores) : Bool × Stores :=
  let number := at_tok_nextstr line
  if number.ok then
    let s := { s with number := number.p_out.map fun n => if noNumber n then none else some n }
    let toa := at_tok_nextint number.p_cur
    let s := { s with toa := toa.p_out }
    if toa.ok then
      if at_tok_hasmore toa.p_cur && at_tok_hasmore (timeCur toa.p_cur) then
        let timeSeconds := at_tok_nextint (timeCur toa.p_cur)
        (timeSeconds.ok, { s with timeSeconds := timeSeconds.p_out })
      else (true, s)
    else (false, s)
  else (true, s)

def ccfcuOptional (line : Option Line) (s : Stores) : Bool × Stores :=
  let numberType := at_tok_nextint line
  if numberType.ok then
    let toa := at_tok_nextint numberType.p_cur
    let s := { s with toa := toa.p_out }
    if toa.ok then
      let number := at_tok_nextstr toa.p_cur
      if number.ok then
        let s := { s with number := number.p_out.map some }
        if at_tok_hasmore number.p_cur && at_tok_hasmore (timeCur number.p_cur) then
          let timeSeconds := at_tok_nextint (timeCur number.p_cur)
          -- the line is accepted all the same
          (true, { s with timeSeconds := if timeSeconds.ok then timeSeconds.p_out else some 0 })
        else (true, s)
      else (true, s)
    else (false, s)
  else (false, s)

def forwardFromCCFCLine : Line → Bool × Stores := forwardFromLine ccfcOptional

def forwardFromCCFCULine : Line → Bool × Stores := forwardFromLine ccfcuOptional

/-- The pool and the number of entries that are valid. -/
structure Forwards where
  forwardList : List RIL_CallForwardInfo
  validCount : Nat

def Forwards.line (fromLine : Line → Bool × Stores) (reason : Int) (f : Forwards) (line : Line) : Forwards :=
  let r := fromLine line
  { forwardList := f.forwardList.modify f.validCount fun p => { p.store r.2 with reason := reason }
    validCount := if r.1 then f.validCount + 1 else f.validCount }

/-- The entries that are reported for the lines of a successful response. -/
def queryCallForward (fromLine : Line → Bool × Stores) (reason : Int) (lines : List Line) :
    List RIL_CallForwardInfo :=
  let f := lines.foldl (Forwards.line fromLine reason)
    { forwardList := List.replicate lines.length .zero, validCount := 0 }
  f.forwardList.take f.validCount

def requestQueryCallForward : Int → List Line → List RIL_CallForwardInfo := queryCallForward forwardFromCCFCLine

def requestQueryCallForwardU : Int → List Line → List RIL_CallForwardInfo := queryCallForward forwardFromCCFCULine

/-! ## The slot at hand -/

section

variable (fromLine : Line → Bool × Stores) (reason : Int)

/-- The slot after a line. -/
def filled (slot : RIL_CallForwardInfo) (line : Line) : RIL_CallForwardInfo :=
  { slot.store (fromLine line).2 with reason := reason }

/-- The entries, when the first slot is `slot` and the others are zero. -/
def entriesFrom : RIL_CallForwardInfo → List Line → List RIL_CallForwardInfo
  | _, [] => []
  | slot, line :: lines =>
    if (fromLine line).1 then filled fromLine reason slot line :: entriesFrom .zero lines
    else entriesFrom (filled fromLine reason slot line) lines

/-- There is a slot for each line that is left. -/
theorem queryCallForward_from (done : List RIL_CallForwardInfo) (slot : RIL_CallForwardInfo) (n : Nat)
    {lines : List Line} (h : lines.length ≤ n + 1) :
    let f := lines.foldl (Forwards.line fromLine reason)
      { forwardList := done ++ slot :: List.replicate n .zero, validCount := done.length }
    f.forwardList.take f.validCount = done ++ entriesFrom fromLine reason slot lines := by
  induction lines generalizing done slot n with
  | nil => simp [entriesFrom]
  | cons line lines ih =>
    have hmodify : (done ++ slot :: List.replicate n .zero).modify done.length
        (fun p => { p.store (fromLine line).2 with reason := reason }) =
          done ++ filled fromLine reason slot line :: List.replicate n .zero := by
      rw [List.modify_eq_set_getElem?]
      simp [filled]
    rw [List.foldl_cons, Forwards.line, hmodify, entriesFrom]
    cases hok : (fromLine line).1 with
    | false =>
      simp only [Bool.false_eq_true, if_false]
      exact ih done _ n (by simp at h; omega)
    | true =>
      simp only [if_true]
      cases n with
      | zero =>
        obtain rfl : lines = [] := by simpa using h
        rw [entriesFrom]
        exact List.take_of_length_le (by simp)
      | succ n =>
        have hnext := ih (done ++ [filled fromLine reason slot line]) .zero n (by simp at h; omega)
        rw [List.length_append, List.length_singleton, List.append_assoc, List.append_assoc] at hnext
        exact hnext

theorem queryCallForward_eq (lines : List Line) :
    queryCallForward fromLine reason lines = entriesFrom fromLine reason .zero lines := by
  cases lines with
  | nil => rfl
  | cons line lines => exact queryCallForward_from fromLine reason [] .zero lines.length (by simp)

/-! ## Field by field -/

/-- The entries as the accepted lines have them by themselves: what a line does not store is 0 or NULL. -/
def ownEntries (lines : List Line) : List RIL_CallForwardInfo :=
  (lines.filter fun line => (fromLine line).1).map (filled fromLine reason .zero)

/-- The lines that store a field, `stored`, leave it to the accepted line that they come from. -/
def OwnField {α : Type} (stored : Stores → Option α) (zero : α) (lines : List Line) : Prop :=
  Reused.Clean (fun line => (fromLine line).1) (fun line => stored (fromLine line).2) zero lines

variable {fromLine} {reason}

/-- A field of the entries is what is carried from line to line. -/
theorem map_entriesFrom {α : Type} {field : RIL_CallForwardInfo → α} {stored : Stores → Option α}
    (hfield : ∀ slot line, field (filled fromLine reason slot line) = (stored (fromLine line).2).getD (field slot))
    (slot : RIL_CallForwardInfo) (lines : List Line) :
    (entriesFrom fromLine reason slot lines).map field =
      Reused.carried (fun line => (fromLine line).1) (fun line => stored (fromLine line).2) (field .zero) (field slot)
        lines := by
  induction lines generalizing slot with
  | nil => rfl
  | cons line lines ih =>
    rw [entriesFrom, Reused.carried, ← hfield slot line]
    split
    · rw [List.map_cons, ih]
    · rw [ih]

theorem map_ownEntries {α : Type} {field : RIL_CallForwardInfo → α} {stored : Stores → Option α}
    (hfield : ∀ slot line, field (filled fromLine reason slot line) = (stored (fromLine line).2).getD (field slot))
    (lines : List Line) :
    (ownEntries fromLine reason lines).map field =
      Reused.own (fun line => (fromLine line).1) (fun line => stored (fromLine line).2) (field .zero) lines := by
  rw [ownEntries, Reused.own, List.map_map]
  exact List.map_congr_left fun line _ => hfield .zero line

theorem map_eq_iff {α : Type} (field : RIL_CallForwardInfo → α) (stored : Stores → Option α)
    (hfield : ∀ slot line, field (filled fromLine reason slot line) = (stored (fromLine line).2).getD (field slot))
    (lines : List Line) :
    (queryCallForward fromLine reason lines).map field = (ownEntries fromLine reason lines).map field ↔
      OwnField fromLine stored (field .zero) lines := by
  rw [queryCallForward_eq, map_entriesFrom hfield, map_ownEntries hfield, Reused.carried_eq_own_iff, OwnField]

/-- Entries are the same when their fields are. -/
theorem entries_eq_iff (l l' : List RIL_CallForwardInfo) :
    l = l' ↔ l.map (·.status) = l'.map (·.status) ∧ l.map (·.reason) = l'.map (·.reason) ∧
      l.map (·.serviceClass) = l'.map (·.serviceClass) ∧ l.map (·.toa) = l'.map (·.toa) ∧
      l.map (·.number) = l'.map (·.number) ∧ l.map (·.timeSeconds) = l'.map (·.timeSeconds) := by
  constructor
  · rintro rfl
    exact ⟨rfl, rfl, rfl, rfl, rfl, rfl⟩
  · rintro ⟨hstatus, hreason, hclass, htoa, hnumber, htime⟩
    induction l generalizing l' with
    | nil => exact (List.map_eq_nil_iff.1 hstatus.symm).symm
    | cons p l ih =>
      cases l' with
      | nil => cases hstatus
      | cons p' l' =>
        simp only [List.map_cons, List.cons.injEq] at hstatus hreason hclass htoa hnumber htime
        rw [ih l' hstatus.2 hreason.2 hclass.2 htoa.2 hnumber.2 htime.2]
        congr 1
        cases p
        cases p'
        simp_all

/-- What the functions promise of all fields but one or two: an accepted line stores the first two. -/
theorem queryCallForward_eq_own_iff
    (haccepted : ∀ line, (fromLine line).1 = true →
      (fromLine line).2.status ≠ none ∧ (fromLine line).2.serviceClass ≠ none)
    (lines : List Line) :
    queryCallForward fromLine reason lines = ownEntries fromLine reason lines ↔
      OwnField fromLine (·.number) none lines ∧ OwnField fromLine (·.toa) 0 lines ∧
        OwnField fromLine (·.timeSeconds) 0 lines := by
  have hstatus : OwnField fromLine (·.status) 0 lines :=
    Reused.clean_of_accepted (fun line hok => (haccepted line hok).1) lines
  have hclass : OwnField fromLine (·.serviceClass) 0 lines :=
    Reused.clean_of_accepted (fun line hok => (haccepted line hok).2) lines
  have hreason : OwnField fromLine (fun _ => some reason) 0 lines :=
    Reused.clean_of_accepted (fun _ _ => Option.some_ne_none reason) lines
  rw [entries_eq_iff, map_eq_iff (·.status) (·.status) (fun _ _ => rfl),
    map_eq_iff (·.reason) (fun _ => some reason) (fun _ _ => rfl),
    map_eq_iff (·.serviceClass) (·.serviceClass) (fun _ _ => rfl),
    map_eq_iff (·.toa) (·.toa) (fun _ _ => rfl),
    map_eq_iff (·.number) (·.number) (fun _ _ => rfl),
    map_eq_iff (·.timeSeconds) (·.timeSeconds) (fun _ _ => rfl)]
  constructor
  · rintro ⟨-, -, -, htoa, hnumber, htime⟩
    exact ⟨hnumber, htoa, htime⟩
  · rintro ⟨hnumber, htoa, htime⟩
    exact ⟨hstatus, hreason, hclass, htoa, hnumber, htime⟩

end

/-! ## What a line stores -/

theorem at_tok_nextint_stored {cur : Option Line} (h : (at_tok_nextint cur).ok = true) :
    (at_tok_nextint cur).p_out ≠ none := by
  unfold at_tok_nextint at h ⊢
  split at h
  · cases h
  · simp

/-- Where no numeral is found, 0 is stored or nothing. -/
theorem at_tok_nextint_failed {cur : Option Line} {v : Int} (h : (at_tok_nextint cur).ok = false)
    (hv : (at_tok_nextint cur).p_out = some v) : v = 0 := by
  unfold at_tok_nextint at h hv
  cases htok : nextTok cur with
  | mk ret cur' =>
    cases ret with
    | none => simp [htok] at hv
    | some ret =>
      simp only [htok, Option.isSome_eq_false_iff, Option.isNone_iff_eq_none] at h hv
      rw [← Option.some.inj hv, atoi, h]
      rfl

variable {optional : Option Line → Stores → Bool × Stores} {line : Line}

theorem forwardFromLine_accepted
    (hkeeps : ∀ cur s, (optional cur s).2.status = s.status ∧ (optional cur s).2.serviceClass = s.serviceClass)
    (h : (forwardFromLine optional line).1 = true) :
    (forwardFromLine optional line).2.status ≠ none ∧ (forwardFromLine optional line).2.serviceClass ≠ none := by
  unfold forwardFromLine at h ⊢
  cases hstart : at_tok_start (some line) with
  | none => simp [hstart] at h
  | some cur =>
    simp only [hstart] at h ⊢
    cases hstatus : (at_tok_nextint (some cur)).ok with
    | false => simp [hstatus] at h
    | true =>
      simp only [hstatus, if_true] at h ⊢
      cases hclass : (at_tok_nextint (at_tok_nextint (some cur)).p_cur).ok with
      | false => simp [hclass] at h
      | true =>
        simp only [if_true]
        have hboth := And.intro (at_tok_nextint_stored hstatus) (at_tok_nextint_stored hclass)
        split
        · rw [(hkeeps _ _).1, (hkeeps _ _).2]
          exact hboth
        · exact hboth

/-- The fields that may be missing are stored by `optional` or not at all. -/
theorem forwardFromLine_stores (optional : Option Line → Stores → Bool × Stores) (line : Line) :
    ((forwardFromLine optional line).2.number = none ∧ (forwardFromLine optional line).2.toa = none ∧
      (forwardFromLine optional line).2.timeSeconds = none) ∨
    ∃ cur s, forwardFromLine optional line = optional cur s ∧ s.number = none ∧ s.toa = none ∧
      s.timeSeconds = none := by
  unfold forwardFromLine
  cases at_tok_start (some line) with
  | none => exact .inl ⟨rfl, rfl, rfl⟩
  | some cur =>
    dsimp only
    split
    · split
      · split
        · exact .inr ⟨_, _, rfl, rfl, rfl, rfl⟩
        · exact .inl ⟨rfl, rfl, rfl⟩
      · exact .inl ⟨rfl, rfl, rfl⟩
    · exact .inl ⟨rfl, rfl, rfl⟩

theorem ccfcOptional_keeps (cur : Option Line) (s : Stores) :
    (ccfcOptional cur s).2.status = s.status ∧ (ccfcOptional cur s).2.serviceClass = s.serviceClass := by
  unfold ccfcOptional
  dsimp only
  split
  · split
    · split
      · exact ⟨rfl, rfl⟩
      · exact ⟨rfl, rfl⟩
    · exact ⟨rfl, rfl⟩
  · exact ⟨rfl, rfl⟩

theorem ccfcuOptional_keeps (cur : Option Line) (s : Stores) :
    (ccfcuOptional cur s).2.status = s.status ∧ (ccfcuOptional cur s).2.serviceClass = s.serviceClass := by
  unfold ccfcuOptional
  dsimp only
  split
  · split
    · split
      · split
        · exact ⟨rfl, rfl⟩
        · exact ⟨rfl, rfl⟩
      · exact ⟨rfl, rfl⟩
    · exact ⟨rfl, rfl⟩
  · exact ⟨rfl, rfl⟩

/-- Only a time that cannot be read makes the line fail after it was stored, and then it is 0. -/
theorem ccfcOptional_time {cur : Option Line} {s : Stores} {v : Int} (hs : s.timeSeconds = none)
    (h : (ccfcOptional cur s).1 = false) (hv : (ccfcOptional cur s).2.timeSeconds = some v) : v = 0 := by
  unfold ccfcOptional at h hv
  dsimp only at h hv
  split at h
  · rename_i hnumber
    rw [if_pos hnumber] at hv
    split at h
    · rename_i htoa
      rw [if_pos htoa] at hv
      split at h
      · rename_i hmore
        rw [if_pos hmore] at hv
        exact at_tok_nextint_failed h hv
      · cases h
    · rename_i htoa
      rw [if_neg htoa] at hv
      cases hs.symm.trans hv
  · cases h

/-- A line of the other kind fails before its number. -/
theorem ccfcuOptional_rejected {cur : Option Line} {s : Stores} (hnumber : s.number = none) (htoa : s.toa = none)
    (htime : s.timeSeconds = none) (h : (ccfcuOptional cur s).1 = false) :
    (ccfcuOptional cur s).2.number = none ∧ (∀ v, (ccfcuOptional cur s).2.toa = some v → v = 0) ∧
      (ccfcuOptional cur s).2.timeSeconds = none := by
  unfold ccfcuOptional at h ⊢
  dsimp only at h ⊢
  split at h
  · rename_i htype
    rw [if_pos htype]
    split at h
    · split at h
      · split at h
        · cases h
        · cases h
      · cases h
    · rename_i hfailed
      rw [if_neg hfailed]
      exact ⟨hnumber, fun v hv => at_tok_nextint_failed (Bool.eq_false_iff.2 hfailed) hv, htime⟩
  · rename_i htype
    rw [if_neg htype]
    refine ⟨hnumber, fun v hv => ?_, htime⟩
    cases htoa.symm.trans hv

/-! ## No field of another line -/

/-- The entries of `AT+CCFC` are the lines' own when no number and no `toa` of a rejected line is left. -/
theorem requestQueryCallForward_iff (reason : Int) (lines : List Line) :
    requestQueryCallForward reason lines = ownEntries forwardFromCCFCLine reason lines ↔
      OwnField forwardFromCCFCLine (·.number) none lines ∧ OwnField forwardFromCCFCLine (·.toa) 0 lines := by
  have htime : OwnField forwardFromCCFCLine (·.timeSeconds) 0 lines := by
    refine Reused.clean_of_rejected (fun line v hbad hv => ?_) lines
    rcases forwardFromLine_stores _ line with ⟨-, -, hnone⟩ | ⟨cur, s, heq, -, -, hs⟩
    · cases hnone.symm.trans hv
    · unfold forwardFromCCFCLine at hbad hv
      rw [heq] at hbad hv
      exact ccfcOptional_time hs hbad hv
  have haccepted (line : Line) (hok : (forwardFromCCFCLine line).1 = true) :
      (forwardFromCCFCLine line).2.status ≠ none ∧ (forwardFromCCFCLine line).2.serviceClass ≠ none :=
    forwardFromLine_accepted ccfcOptional_keeps hok
  rw [requestQueryCallForward, queryCallForward_eq_own_iff haccepted]
  constructor
  · rintro ⟨hnumber, htoa, -⟩
    exact ⟨hnumber, htoa⟩
  · rintro ⟨hnumber, htoa⟩
    exact ⟨hnumber, htoa, htime⟩

/-- The entries of `AT+CCFCU` always are. -/
theorem requestQueryCallForwardU_eq (reason : Int) (lines : List Line) :
    requestQueryCallForwardU reason lines = ownEntries forwardFromCCFCULine reason lines := by
  have hrejected {line : Line} (hbad : (forwardFromCCFCULine line).1 = false) :
      (forwardFromCCFCULine line).2.number = none ∧ (∀ v, (forwardFromCCFCULine line).2.toa = some v → v = 0) ∧
        (forwardFromCCFCULine line).2.timeSeconds = none := by
    rcases forwardFromLine_stores _ line with ⟨hnumber, htoa, htime⟩ | ⟨cur, s, heq, hnumber, htoa, htime⟩
    · refine ⟨hnumber, fun v hv => ?_, htime⟩
      cases htoa.symm.trans hv
    · unfold forwardFromCCFCULine at hbad ⊢
      rw [heq] at hbad ⊢
      exact ccfcuOptional_rejected hnumber htoa htime hbad
  have haccepted (line : Line) (hok : (forwardFromCCFCULine line).1 = true) :
      (forwardFromCCFCULine line).2.status ≠ none ∧ (forwardFromCCFCULine line).2.serviceClass ≠ none :=
    forwardFromLine_accepted ccfcuOptional_keeps hok
  rw [requestQueryCallForwardU, queryCallForward_eq_own_iff haccepted]
  refine ⟨?_, ?_, ?_⟩
  · refine Reused.clean_of_rejected (fun line v hbad hv => ?_) lines
    cases (hrejected hbad).1.symm.trans hv
  · exact Reused.clean_of_rejected (fun line v hbad hv => (hrejected hbad).2.1 v hv) lines
  · refine Reused.clean_of_rejected (fun line v hbad hv => ?_) lines
    cases (hrejected hbad).2.2.symm.trans hv

/-- **Each entry is its own line's**, always for `AT+CCFCU`, and for `AT+CCFC` exactly when no accepted line
that stores no number or no `toa` comes upon what a rejected line left there. -/
theorem entries_own_iff (reason : Int) (lines : List Line) :
    (requestQueryCallForward reason lines = ownEntries forwardFromCCFCLine reason lines ∧
        requestQueryCallForwardU reason lines = ownEntries forwardFromCCFCULine reason lines) ↔
      OwnField forwardFromCCFCLine (·.number) none lines ∧ OwnField forwardFromCCFCLine (·.toa) 0 lines := by
  rw [← requestQueryCallForward_iff reason lines]
  exact and_iff_left (requestQueryCallForwardU_eq reason lines)

/-- The second line has no number, and its entry has that of the first. -/
theorem entries_own_counterexample :
    ¬∀ (reason : Int) (lines : List Line),
      requestQueryCallForward reason lines = ownEntries forwardFromCCFCLine reason lines ∧
        requestQueryCallForwardU reason lines = ownEntries forwardFromCCFCULine reason lines := by
  intro h
  have hown := (h 0 [ascii "+CCFC: 1,1,\"12345\"", ascii "+CCFC: 0,2"]).1
  exact absurd hown (by decide)

end UniRil.Ss
