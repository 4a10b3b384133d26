import UniRil.Call.CurrentCalls
import UniRil.Decimal
import UniRil.Lib.Flows

/-!
# The lines of ^DSCI (ril_call.c)

The record of a line lies on the stack and is not cleared. Which of its members have been stored to depends on where
the line ends.
-/

namespace UniRil.Call.Dsci

open Flows AtTok
open CurrentCalls (HOLDING)

/-! ## The record -/

/-- The integers of RIL_VideoPhone_DSCI. -/
inductive Member
  | id
  | idr
  | stat
  | type
  | mpty
  | num_type
  | bs_type
  | cause
  | location
  deriving DecidableEq

def Member.all : List Member := [.id, .idr, .stat, .type, .mpty, .num_type, .bs_type, .cause, .location]

/-- What lay on the stack; a number that is `none` is NULL. -/
structure Stack where
  member : Member → Int
  number : Option Line

/-- What was stored. -/
structure RIL_VideoPhone_DSCI where
  member : Member → Option Int
  number : Option Line

def RIL_VideoPhone_DSCI.empty : RIL_VideoPhone_DSCI where
  member := fun _ => none
  number := none

def RIL_VideoPhone_DSCI.store (m : Member) (n : Int) (response : RIL_VideoPhone_DSCI) : RIL_VideoPhone_DSCI :=
  { response with member := fun m' => if m' = m then some n else response.member m' }

def RIL_VideoPhone_DSCI.complete (response : RIL_VideoPhone_DSCI) : Bool :=
  Member.all.all (fun m => (response.member m).isSome) && response.number.isSome

inductive Event
  | dialEmergencyWhileCallFailed (number : Option Line)
  | redialWhileCallFailed (number : Option Line)
  | RIL_UNSOL_RESPONSE_CALL_STATE_CHANGED
  | RIL_UNSOL_RESPONSE_IMS_CALL_STATE_CHANGED
  | RIL_EXT_UNSOL_VIDEOPHONE_DSCI (response : RIL_VideoPhone_DSCI)

structure State where
  tmp : Option Line
  response : RIL_VideoPhone_DSCI
  s_maybeAddCall : Int
  /-- Of the SIM the line came from. -/
  s_videoCallId : Int
  /-- A member was tested or reported that nothing had been stored to. -/
  unassigned : Bool
  events : List Event

/-- The failure is the jump to `out`. -/
abbrev Parser := Flow State Unit

/-! ## One field -/

def orOut (ok : Bool) : Parser Unit := if ok then pure () else goto ()

def nextint (m : Member) : Parser Bool := do
  let s ← get
  let tok := at_tok_nextint s.tmp
  modify fun s => { s with
    tmp := tok.p_cur
    response := tok.p_out.elim s.response fun n => s.response.store m n }
  pure tok.ok

def nextstr : Parser Bool := do
  let s ← get
  let tok := at_tok_nextstr s.tmp
  modify fun s => { s with
    tmp := tok.p_cur
    response := tok.p_out.elim s.response fun text => { s.response with number := some text } }
  pure tok.ok

def hasmore : Parser Bool := do
  let s ← get
  pure (at_tok_hasmore s.tmp)

def assign (m : Member) (n : Int) : Parser Unit := modify fun s => { s with response := s.response.store m n }

def note (e : Event) : Parser Unit := modify fun s => { s with events := s.events ++ [e] }

variable (stack : Stack)

/-- The value of a member, which is what lay on the stack if nothing was stored. -/
def use (m : Member) : Parser Int := do
  let s ← get
  modify fun s => { s with unassigned := s.unassigned || (s.response.member m).isNone }
  pure ((s.response.member m).getD (stack.member m))

def useNumber : Parser (Option Line) := do
  let s ← get
  modify fun s => { s with unassigned := s.unassigned || s.response.number.isNone }
  pure (s.response.number.or stack.number)

def report : Parser Unit := do
  let s ← get
  modify fun s => { s with unassigned := s.unassigned || !s.response.complete }
  note (.RIL_EXT_UNSOL_VIDEOPHONE_DSCI s.response)

/-- The right side of `&&` is only looked at behind a left one that holds. -/
def andAlso (c : Bool) (m : Parser Bool) : Parser Bool := if c then m else pure false

/-! ## The line -/

def callStateChanged : Parser Unit := do
  let type ← use stack .type
  if type = 1 ∨ type = 3 then
    note .RIL_UNSOL_RESPONSE_IMS_CALL_STATE_CHANGED
  else
    note .RIL_UNSOL_RESPONSE_CALL_STATE_CHANGED

/-- Add for VoLTE to handle call retry. -/
def retry : Parser Unit := do
  let cause ← use stack .cause
  if ← andAlso (cause = 380) (do pure (← useNumber stack).isSome) then
    note (.dialEmergencyWhileCallFailed (← useNumber stack))
  else if ← andAlso (cause = 400 ∨ cause = 381) (do pure (← useNumber stack).isSome) then
    note (.redialWhileCallFailed (← useNumber stack))
  else
    callStateChanged stack

def videoPhone : Parser Unit := do
  let type ← use stack .type
  if type = 1 ∨ type = 3 then
    if ← hasmore then
      if !(← nextint .location) then
        assign .location 0
    else
      assign .location 0
    report

def bsType : Parser Unit := do
  -- that these two are not there is only logged
  let _ ← nextint .bs_type
  let _ ← nextint .cause
  retry stack
  videoPhone stack

def volteTail : Parser Unit := do
  orOut (← nextint .num_type)
  if ← hasmore then
    bsType stack
  else
    callStateChanged stack

def tail : Parser Unit := do
  note .RIL_UNSOL_RESPONSE_CALL_STATE_CHANGED
  orOut (← nextint .num_type)
  orOut (← nextint .bs_type)
  if ← hasmore then
    orOut (← nextint .cause)
    if ← hasmore then
      orOut (← nextint .location)
    else
      assign .location 0
    report

/-- State 6 is disconnected, type 0 is video. -/
def videoCall : Parser Unit := do
  let stat ← use stack .stat
  if ← andAlso (stat = 6) (do pure ((← get).s_videoCallId = (← use stack .id))) then
    modify fun s => { s with s_videoCallId := -1 }
  else
    let type ← use stack .type
    if ← andAlso (type > 0) (do pure ((← use stack .stat) = 0)) then
      let id ← use stack .id
      modify fun s => { s with s_videoCallId := id }

def numbers (isVoLteEnable : Bool) : Parser Unit := do
  orOut (← nextint .mpty)
  orOut (← nextstr)
  if isVoLteEnable then
    volteTail stack
  else
    tail

def fields (isVoLteEnable : Bool) : Parser Unit := do
  orOut (← nextint .id)
  orOut (← nextint .idr)
  let ok ← nextint .stat
  -- the test comes before the one whether there was a stat
  let stat ← use stack .stat
  modify fun s => { s with
    s_maybeAddCall := if stat = HOLDING ∧ s.s_maybeAddCall = 0 then 1 else s.s_maybeAddCall }
  orOut ok
  orOut (← nextint .type)
  videoCall stack
  numbers stack isVoLteEnable

/-- The branch of ^DSCI, with what stands behind the prefix. -/
def processCallUnsolicited (isVoLteEnable : Bool) (line : Line) : Flow State Empty Unit := do
  modify fun s => { s with tmp := at_tok_start (some (ascii "^DSCI:" ++ line)) }
  labelled (fields stack isVoLteEnable) fun _ => pure ()

/-! ## What a line should lead to -/

/-- What stands behind a field. -/
def past (cur : Option Line) : Option Line := (nextTok cur).2

/-- Where a field of the line begins. -/
def fieldAt (line : Line) : Nat → Option Line
  | 0 => some line
  | k + 1 => past (fieldAt line k)

def valueAt (line : Line) (k : Nat) : Option Int := (at_tok_nextint (fieldAt line k)).p_out

/-- The field begins with a numeral. -/
def Numeral (line : Line) (k : Nat) : Prop := (at_tok_nextint (fieldAt line k)).ok = true

/-- The fields up to num_type can be read, and there is more behind them. -/
def HasBsType (line : Line) : Prop :=
  (∀ k ∈ [0, 1, 2, 3, 4, 6], Numeral line k) ∧ (fieldAt line 5).isSome ∧ at_tok_hasmore (fieldAt line 7) = true

def indication (type : Int) : Event :=
  if type = 1 ∨ type = 3 then .RIL_UNSOL_RESPONSE_IMS_CALL_STATE_CHANGED else .RIL_UNSOL_RESPONSE_CALL_STATE_CHANGED

/-- Emergency retry for cause 380, redial for 381 and 400, call-state indication for the others. -/
def outcome (cause type : Int) (number : Option Line) : Event :=
  if cause = 380 then .dialEmergencyWhileCallFailed number
  else if cause = 400 ∨ cause = 381 then .redialWhileCallFailed number
  else indication type

def Event.isOutcome : Event → Bool
  | .RIL_EXT_UNSOL_VIDEOPHONE_DSCI _ => false
  | _ => true

/-- Nothing was tested or reported that the line had not assigned, and with a bs_type the fields of the line led to one
outcome. -/
structure OwnFields (isVoLteEnable : Bool) (line : Line) (s : State) : Prop where
  assigned : s.unassigned = false
  outcome : isVoLteEnable = true → HasBsType line → ∃ cause type number,
    valueAt line 8 = some cause ∧ valueAt line 3 = some type ∧
      (at_tok_nextstr (fieldAt line 5)).p_out = some number ∧
      s.events.filter Event.isOutcome = [Dsci.outcome cause type (some number)]

/-- The line does not end where its stat should be, nor, with VoLTE, where its cause should. -/
def HasFields (isVoLteEnable : Bool) (line : Line) : Prop :=
  (Numeral line 0 → Numeral line 1 → (fieldAt line 2).isSome) ∧
  (isVoLteEnable = true → HasBsType line → (fieldAt line 8).isSome)

def State.start (s_maybeAddCall s_videoCallId : Int) : State where
  tmp := none
  response := .empty
  s_maybeAddCall := s_maybeAddCall
  s_videoCallId := s_videoCallId
  unassigned := false
  events := []

/-! ## The parts -/

section

variable {stack : Stack} {s : State} {E : Exit Unit → State → Prop}

theorem p_cur_nextint (cur : Option Line) : (at_tok_nextint cur).p_cur = past cur := by
  cases cur with
  | none => rfl
  | some text =>
    obtain ⟨ret, cur, h⟩ := nextTok_some text
    rw [at_tok_nextint, past, h]

/-- Something is stored exactly if the line does not end in front of the field. -/
theorem isSome_p_out (cur : Option Line) : (at_tok_nextint cur).p_out.isSome = cur.isSome := by
  cases cur with
  | none => rfl
  | some text =>
    obtain ⟨ret, cur, h⟩ := nextTok_some text
    rw [at_tok_nextint, h]
    rfl

theorem isSome_of_hasmore {cur : Option Line} (h : at_tok_hasmore cur = true) : cur.isSome := by
  cases cur with
  | none => cases h
  | some text => rfl

theorem isSome_of_numeral {cur : Option Line} (h : (at_tok_nextint cur).ok = true) : cur.isSome := by
  cases cur with
  | none => cases h
  | some text => rfl

@[simp ↓] theorem wp_orOut {Q : PUnit → State → Prop} (ok : Bool) :
    wp (orOut ok) Q E s ↔ (ok = true → Q ⟨⟩ s) ∧ (ok = false → E (.goto ()) s) := by
  cases ok with
  | true => simp [orOut]
  | false => simp [orOut]

def State.reads (s : State) (m : Member) : State :=
  { s with
    tmp := (at_tok_nextint s.tmp).p_cur
    response := (at_tok_nextint s.tmp).p_out.elim s.response fun n => s.response.store m n }

@[simp] theorem unassigned_reads (m : Member) : (s.reads m).unassigned = s.unassigned := rfl

@[simp] theorem events_reads (m : Member) : (s.reads m).events = s.events := rfl

@[simp] theorem tmp_reads (m : Member) : (s.reads m).tmp = past s.tmp := p_cur_nextint s.tmp

@[simp] theorem number_reads (m : Member) : (s.reads m).response.number = s.response.number := by
  unfold State.reads
  cases (at_tok_nextint s.tmp).p_out with
  | none => rfl
  | some n => rfl

theorem member_reads (m m' : Member) : (s.reads m).response.member m' =
    if m' = m then (at_tok_nextint s.tmp).p_out.or (s.response.member m) else s.response.member m' := by
  unfold State.reads
  cases (at_tok_nextint s.tmp).p_out with
  | none =>
    by_cases hm : m' = m
    · simp [hm]
    · simp [hm]
  | some n => rfl

theorem isSome_member_reads {m m' : Member} (h : (s.response.member m').isSome) :
    ((s.reads m).response.member m').isSome := by
  rw [member_reads]
  split
  · next hm =>
    rw [hm] at h
    simp [Option.isSome_or, h]
  · exact h

@[simp ↓] theorem wp_nextint {Q : Bool → State → Prop} (m : Member) :
    wp (nextint m) Q E s ↔ Q (at_tok_nextint s.tmp).ok (s.reads m) := Iff.rfl

@[simp ↓] theorem wp_hasmore {Q : Bool → State → Prop} : wp hasmore Q E s ↔ Q (at_tok_hasmore s.tmp) s := Iff.rfl

@[simp ↓] theorem wp_assign {Q : PUnit → State → Prop} (m : Member) (n : Int) :
    wp (assign m n) Q E s ↔ Q ⟨⟩ { s with response := s.response.store m n } := Iff.rfl

@[simp ↓] theorem wp_note {Q : PUnit → State → Prop} (e : Event) :
    wp (note e) Q E s ↔ Q ⟨⟩ { s with events := s.events ++ [e] } := Iff.rfl

@[simp ↓] theorem wp_report {Q : PUnit → State → Prop} :
    wp report Q E s ↔ Q ⟨⟩ { s with
      unassigned := s.unassigned || !s.response.complete
      events := s.events ++ [.RIL_EXT_UNSOL_VIDEOPHONE_DSCI s.response] } := by
  simp [report]

theorem wp_use {Q : Int → State → Prop} {m : Member} {n : Int} (h : s.response.member m = some n) :
    wp (use stack m) Q E s ↔ Q n s := by
  simp [use, h]

theorem wp_useNumber {Q : Option Line → State → Prop} {number : Line} (h : s.response.number = some number) :
    wp (useNumber stack) Q E s ↔ Q (some number) s := by
  simp [useNumber, h]

/-! ## Retries -/

/-- The fields up to the number are there. -/
structure Filled (type : Int) (number : Line) (s : State) : Prop where
  members : ∀ m ∈ [Member.id, .idr, .stat, .mpty], (s.response.member m).isSome
  type : s.response.member .type = some type
  number : s.response.number = some number

theorem Filled.reads {type : Int} {number : Line} (h : Filled type number s) {m : Member} (hm : m ≠ .type) :
    Filled type number (s.reads m) where
  members m' hm' := isSome_member_reads (h.members m' hm')
  type := by rw [member_reads, if_neg hm.symm, h.type]
  number := by rw [number_reads, h.number]

theorem Filled.notes {type : Int} {number : Line} (h : Filled type number s) (events : List Event) :
    Filled type number { s with events } :=
  ⟨h.members, h.type, h.number⟩

theorem isOutcome_outcome (cause type : Int) (number : Option Line) : (outcome cause type number).isOutcome = true := by
  unfold outcome indication
  split_ifs
  all_goals rfl

theorem wp_callStateChanged {Q : PUnit → State → Prop} (type : Int) (h : s.response.member .type = some type) :
    wp (callStateChanged stack) Q E s ↔ Q ⟨⟩ { s with events := s.events ++ [indication type] } := by
  unfold callStateChanged indication
  rw [wp_bind, wp_use h]
  split
  · exact Iff.rfl
  · exact Iff.rfl

theorem wp_retry {Q : PUnit → State → Prop} {cause type : Int} {number : Line}
    (hcause : s.response.member .cause = some cause) (hs : Filled type number s) :
    wp (retry stack) Q E s ↔ Q ⟨⟩ { s with events := s.events ++ [outcome cause type (some number)] } := by
  unfold retry andAlso outcome
  by_cases hemergency : cause = 380
  · simp [wp_use hcause, wp_useNumber hs.number, hemergency]
  · by_cases hredial : cause = 400 ∨ cause = 381
    · simp only [wp_bind, wp_use hcause, hemergency, hredial, decide_false, decide_true, if_true, if_false,
        wp_pure, Bool.false_eq_true]
      rw [wp_useNumber hs.number]
      simp [wp_useNumber hs.number]
    · simp only [wp_bind, wp_use hcause, hemergency, hredial, decide_false, if_false, wp_pure, Bool.false_eq_true,
        wp_callStateChanged type hs.type]

/-- A cause that is not there is looked at. -/
theorem wp_retry_unassigned (h : s.response.member .cause = none) :
    wp (retry stack) (fun _ s' => s'.unassigned = true) (fun _ _ => False) s := by
  unfold retry andAlso callStateChanged use useNumber
  simp [h]

theorem wp_videoPhone_unassigned (h : s.unassigned = true) :
    wp (videoPhone stack) (fun _ s' => s'.unassigned = true) (fun _ _ => False) s := by
  unfold videoPhone use
  simp [h]

theorem wp_unassigned (h : s.response.member .cause = none) :
    wp (do retry stack; videoPhone stack) (fun _ s' => s'.unassigned = true) (fun _ _ => False) s := by
  rw [wp_bind]
  exact wp_mono (wp_retry_unassigned h) (fun _ _ => wp_videoPhone_unassigned) fun _ _ => id

theorem complete_store {response : RIL_VideoPhone_DSCI} (hmembers : ∀ m ≠ .location, (response.member m).isSome)
    (hnumber : response.number.isSome) (n : Int) : (response.store .location n).complete = true := by
  simp [RIL_VideoPhone_DSCI.complete, RIL_VideoPhone_DSCI.store, Member.all, hmembers, hnumber]

theorem complete_reads (hmembers : ∀ m ≠ .location, (s.response.member m).isSome)
    (hnumber : s.response.number.isSome) (htmp : s.tmp.isSome) : (s.reads .location).response.complete = true := by
  have hlocation : ((s.reads .location).response.member .location).isSome := by
    rw [member_reads, if_pos rfl, Option.isSome_or, isSome_p_out, htmp]
    rfl
  have hothers : ∀ m ≠ .location, ((s.reads .location).response.member m).isSome :=
    fun m hm => isSome_member_reads (hmembers m hm)
  simp [RIL_VideoPhone_DSCI.complete, Member.all, hothers, hlocation, hnumber]

/-- Reports are no outcomes. -/
def Calm (s s' : State) : Prop :=
  s'.unassigned = false ∧ s'.events.filter Event.isOutcome = s.events.filter Event.isOutcome

/-- A record with all members is reported; the location is 0 where there is none. -/
theorem wp_videoPhone {type : Int} {number : Line} (hs : Filled type number s)
    (hmembers : ∀ m ∈ [Member.num_type, .bs_type, .cause], (s.response.member m).isSome)
    (hunassigned : s.unassigned = false) : wp (videoPhone stack) (fun _ => Calm s) (fun _ _ => False) s := by
  have hreport : ∀ response, (Event.RIL_EXT_UNSOL_VIDEOPHONE_DSCI response).isOutcome = false := fun _ => rfl
  have hnumber : s.response.number.isSome := by rw [hs.number]; rfl
  have hothers : ∀ m ≠ .location, (s.response.member m).isSome := by
    intro m hm
    cases m with
    | location => exact absurd rfl hm
    | type => rw [hs.type]; rfl
    | num_type | bs_type | cause => exact hmembers _ (by simp)
    | id | idr | stat | mpty => exact hs.members _ (by simp)
  unfold videoPhone
  simp [wp_use hs.type, Calm, hunassigned, complete_store hothers hnumber, hreport]
  intro _ hmore
  refine ⟨fun _ => ?_, fun _ => complete_reads hothers hnumber (isSome_of_hasmore hmore)⟩
  exact complete_store (fun m hm => isSome_member_reads (hothers m hm)) (by simpa using hnumber) 0

/-- Behind the number of a line, with VoLTE. -/
structure Retried (cur : Option Line) (type : Int) (number : Line) (s : State) : Prop where
  unassigned : s.unassigned = false
  outcome : (at_tok_nextint cur).ok = true → at_tok_hasmore (past cur) = true →
    ∃ cause, (at_tok_nextint (past (past cur))).p_out = some cause ∧
      s.events.filter Event.isOutcome = [Dsci.outcome cause type (some number)]

/-- Behind num_type the line has a bs_type. -/
theorem wp_bsType {type : Int} {number : Line} (hs : Filled type number s) (htmp : s.tmp.isSome)
    (hnum_type : (s.response.member .num_type).isSome) (hcause : s.response.member .cause = none)
    (hunassigned : s.unassigned = false) (hevents : s.events = []) :
    wp (bsType stack)
        (fun _ s' => s'.unassigned = false ∧ ∃ cause, (at_tok_nextint (past s.tmp)).p_out = some cause ∧
          s'.events.filter Event.isOutcome = [outcome cause type (some number)])
        E s ↔
      (past s.tmp).isSome := by
  unfold bsType
  have hfilled : Filled type number ((s.reads .bs_type).reads .cause) := (hs.reads (by decide)).reads (by decide)
  have hread : ((s.reads .bs_type).reads .cause).response.member .cause = (at_tok_nextint (past s.tmp)).p_out := by
    rw [member_reads, if_pos rfl, member_reads, if_neg (by decide), hcause, tmp_reads, Option.or_none]
  rw [wp_bind, wp_nextint, wp_bind, wp_nextint]
  cases hout : (at_tok_nextint (past s.tmp)).p_out with
  | none =>
    rw [← isSome_p_out, hout]
    refine wp_iff_of_wp (wp_unassigned (hread.trans hout)) ?_ ?_
    · intro _ s' hs'
      simp [hs']
    · exact fun _ _ h => h.elim
  | some cause =>
    rw [← isSome_p_out, hout]
    refine iff_of_true ?_ rfl
    rw [wp_bind, wp_retry (hread.trans hout) hfilled]
    refine wp_mono (wp_videoPhone (hfilled.notes _) ?_ hunassigned) ?_ ?_
    · intro m hm
      simp only [List.mem_cons, List.not_mem_nil, or_false] at hm
      obtain rfl | rfl | rfl := hm
      · exact isSome_member_reads (isSome_member_reads hnum_type)
      · refine isSome_member_reads ?_
        rw [member_reads, if_pos rfl, Option.isSome_or, isSome_p_out, htmp]
        rfl
      · show (((s.reads .bs_type).reads .cause).response.member .cause).isSome
        rw [hread, hout]
        rfl
    · intro _ s' hs'
      refine ⟨hs'.1, cause, rfl, ?_⟩
      rw [hs'.2]
      simp [hevents, isOutcome_outcome]
    · exact fun _ _ h => h.elim

theorem wp_volteTail {type : Int} {number : Line} (hs : Filled type number s)
    (hcause : s.response.member .cause = none) (hunassigned : s.unassigned = false) (hevents : s.events = []) :
    wp (volteTail stack) (fun _ => Retried s.tmp type number) (fun e s' => e = .goto () ∧ Retried s.tmp type number s')
        s ↔
      ((at_tok_nextint s.tmp).ok = true → at_tok_hasmore (past s.tmp) = true → (past (past s.tmp)).isSome) := by
  unfold volteTail
  rw [wp_bind, wp_nextint, wp_bind, wp_orOut]
  cases hok : (at_tok_nextint s.tmp).ok with
  | false =>
    refine iff_of_true ⟨by simp, fun _ => ⟨rfl, hunassigned, ?_⟩⟩ (by simp)
    simp [hok]
  | true =>
    simp only [true_imp_iff, Bool.true_eq_false, false_imp_iff, and_true]
    rw [wp_bind, wp_hasmore, tmp_reads]
    have hfilled : Filled type number (s.reads .num_type) := hs.reads (by decide)
    cases hmore : at_tok_hasmore (past s.tmp) with
    | false =>
      refine iff_of_true ?_ (by simp)
      rw [if_neg (by simp), wp_callStateChanged type hfilled.type]
      exact ⟨hunassigned, by simp [hmore]⟩
    | true =>
      have hnum_type : ((s.reads .num_type).response.member .num_type).isSome := by
        rw [member_reads, if_pos rfl, Option.isSome_or, isSome_p_out, isSome_of_numeral hok]
        rfl
      have hnone : (s.reads .num_type).response.member .cause = none := by
        rw [member_reads, if_neg (by decide), hcause]
      have htmp : (s.reads .num_type).tmp.isSome := by
        rw [tmp_reads]
        exact isSome_of_hasmore hmore
      simp only [if_true, true_imp_iff]
      refine Iff.trans (wp_congr (fun _ s' => ?_) fun _ _ => Iff.rfl)
        ((wp_bsType hfilled htmp hnum_type hnone hunassigned hevents).trans ?_)
      · rw [tmp_reads]
        exact ⟨fun h => ⟨h.unassigned, h.outcome hok hmore⟩, fun h => ⟨h.1, fun _ _ => h.2⟩⟩
      · rw [tmp_reads]

theorem isSome_reads {m : Member} (h : s.tmp.isSome) : ((s.reads m).response.member m).isSome := by
  rw [member_reads, if_pos rfl, Option.isSome_or, isSome_p_out, h]
  rfl

/-- The members that are stored to up to the cause. -/
theorem isSome_upToCause {type : Int} {number : Line} (hs : Filled type number s) (hnum_type : s.tmp.isSome)
    (hbs_type : (past s.tmp).isSome) (hcause : (past (past s.tmp)).isSome) {m : Member} (hm : m ≠ .location) :
    ((((s.reads .num_type).reads .bs_type).reads .cause).response.member m).isSome := by
  cases m with
  | location => exact absurd rfl hm
  | type =>
    rw [(((hs.reads (by decide)).reads (by decide)).reads (by decide) : Filled type number _).type]
    rfl
  | num_type => exact isSome_member_reads (isSome_member_reads (isSome_reads hnum_type))
  | bs_type =>
    refine isSome_member_reads (isSome_reads ?_)
    rwa [tmp_reads]
  | cause =>
    refine isSome_reads ?_
    rwa [tmp_reads, tmp_reads]
  | id | idr | stat | mpty =>
    exact isSome_member_reads (isSome_member_reads (isSome_member_reads (hs.members _ (by simp))))

/-- Without VoLTE the line is left where a field is not there. -/
theorem wp_tail {type : Int} {number : Line} (hs : Filled type number s) (hunassigned : s.unassigned = false) :
    wp tail (fun _ s' => s'.unassigned = false) (fun e s' => e = .goto () ∧ s'.unassigned = false) s := by
  unfold tail
  simp [hunassigned]
  intro hnum_type hbs_type hmore hcause
  have hmembers := fun m (hm : m ≠ Member.location) => isSome_upToCause
    (hs.notes (s.events ++ [Event.RIL_UNSOL_RESPONSE_CALL_STATE_CHANGED])) (isSome_of_numeral hnum_type)
    (isSome_of_numeral hbs_type) (isSome_of_hasmore hmore) hm
  rw [hunassigned] at hmembers
  have hnumber : s.response.number.isSome := by rw [hs.number]; rfl
  constructor
  · intro hmore' hlocation
    refine complete_reads hmembers (by simpa using hnumber) ?_
    simpa using isSome_of_numeral hlocation
  · intro _
    exact complete_store hmembers (by simpa using hnumber) 0

/-! ## The line -/

theorem wp_videoCall {id stat type : Int} (hid : s.response.member .id = some id)
    (hstat : s.response.member .stat = some stat) (htype : s.response.member .type = some type)
    {Q : PUnit → State → Prop} :
    wp (videoCall stack) Q E s ↔
      Q ⟨⟩ { s with s_videoCallId :=
        if stat = 6 ∧ s.s_videoCallId = id then -1 else if type > 0 ∧ stat = 0 then id else s.s_videoCallId } := by
  unfold videoCall andAlso
  simp [wp_use hid, wp_use hstat, wp_use htype]
  by_cases hvideo : 0 < type
  · by_cases hactive : stat = 0
    · simp [hvideo, hactive]
    · by_cases hcall : s.s_videoCallId = id
      · by_cases hdisconnected : stat = 6
        · simp [hdisconnected, hcall]
        · simp [hdisconnected, hvideo, hactive]
      · simp [hcall, hvideo, hactive]
  · have hnone : type ≤ 0 := Int.not_lt.mp hvideo
    by_cases hcall : s.s_videoCallId = id
    · by_cases hdisconnected : stat = 6
      · simp [hdisconnected, hcall]
      · simp [hdisconnected, hvideo, hnone]
    · simp [hcall, hvideo, hnone]

/-- A line that is left at a field in front of its bs_type. -/
theorem left_iff {isVoLteEnable : Bool} {line : Line} {k : Nat} (hk : k ∈ [0, 1, 2, 3, 4, 6]) {P : Prop}
    (hunassigned : s.unassigned = false)
    (hstat : ¬ Numeral line k → Numeral line 0 → Numeral line 1 → (fieldAt line 2).isSome)
    (hP : Numeral line k → (P ↔ HasFields isVoLteEnable line)) :
    ((at_tok_nextint (fieldAt line k)).ok = true → P) ∧
        ((at_tok_nextint (fieldAt line k)).ok = false →
          Exit.goto () = Exit.goto () ∧ OwnFields isVoLteEnable line s) ↔
      HasFields isVoLteEnable line := by
  by_cases hnumeral : Numeral line k
  · rw [← hP hnumeral]
    unfold Numeral at hnumeral
    simp [hnumeral]
  · have hno : ¬ HasBsType line := fun h => hnumeral (h.1 k hk)
    refine iff_of_true ⟨fun h => absurd h hnumeral, fun _ => ⟨rfl, hunassigned, ?_⟩⟩ ⟨hstat hnumeral, ?_⟩
    · exact fun _ h => absurd h hno
    · exact fun _ h => absurd h hno

def State.readsNumber (s : State) : State :=
  { s with
    tmp := (at_tok_nextstr s.tmp).p_cur
    response := (at_tok_nextstr s.tmp).p_out.elim s.response fun text => { s.response with number := some text } }

@[simp ↓] theorem wp_nextstr {Q : Bool → State → Prop} :
    wp nextstr Q E s ↔ Q (at_tok_nextstr s.tmp).ok s.readsNumber := Iff.rfl

theorem nextstr_some {text : Line} : ∃ number, at_tok_nextstr (some text) = ⟨true, some number, past (some text)⟩ := by
  obtain ⟨ret, cur, h⟩ := nextTok_some text
  exact ⟨ret, by rw [at_tok_nextstr, past, h]⟩

/-- The fields in front of mpty have been read, and they are those of the line. -/
structure UpToType (line : Line) (s : State) : Prop where
  tmp : s.tmp = fieldAt line 4
  members : ∀ m ∈ [Member.id, .idr, .stat, .type], (s.response.member m).isSome
  type : s.response.member .type = valueAt line 3
  cause : s.response.member .cause = none
  unassigned : s.unassigned = false
  events : s.events = []
  numerals : ∀ k ∈ [0, 1, 2, 3], Numeral line k

theorem wp_numbers {isVoLteEnable : Bool} {line : Line} (hs : UpToType line s) :
    wp (numbers stack isVoLteEnable) (fun _ => OwnFields isVoLteEnable line)
        (fun e s' => e = .goto () ∧ OwnFields isVoLteEnable line s') s ↔
      HasFields isVoLteEnable line := by
  have hstat : (fieldAt line 2).isSome := isSome_of_numeral (hs.numerals 2 (by decide))
  unfold numbers
  rw [wp_bind, wp_nextint, wp_bind, wp_orOut, hs.tmp]
  refine left_iff (by decide) hs.unassigned (fun _ _ _ => hstat) fun hmpty => ?_
  have htmp : (s.reads .mpty).tmp = fieldAt line 5 := by rw [tmp_reads, hs.tmp]; rfl
  rw [wp_bind, wp_nextstr, wp_bind, wp_orOut, htmp]
  cases hcur : fieldAt line 5 with
  | none =>
    have hno : ¬ HasBsType line := fun h => by simpa [hcur] using h.2.1
    refine iff_of_true ⟨(fun h => by cases h), fun _ => ⟨rfl, hs.unassigned, fun _ h => absurd h hno⟩⟩ ⟨fun _ _ => hstat, ?_⟩
    exact fun _ h => absurd h hno
  | some text =>
    obtain ⟨number, h⟩ := @nextstr_some text
    obtain ⟨type, htype⟩ := Option.isSome_iff_exists.mp (hs.members .type (by decide))
    have hnumber : (s.reads .mpty).readsNumber =
        { s.reads .mpty with
          tmp := fieldAt line 6, response := { (s.reads .mpty).response with number := some number } } := by
      simp only [State.readsNumber, htmp, hcur, h, Option.elim_some]
      rw [← hcur]
      rfl
    rw [h, hnumber]
    simp only [true_imp_iff, Bool.true_eq_false, false_imp_iff, and_true]
    have hfilled : Filled type number { s.reads .mpty with
        tmp := fieldAt line 6, response := { (s.reads .mpty).response with number := some number } } := by
      refine ⟨fun m hm => ?_, ?_, rfl⟩
      · simp only [List.mem_cons, List.not_mem_nil, or_false] at hm
        obtain rfl | rfl | rfl | rfl := hm
        · exact isSome_member_reads (hs.members .id (by decide))
        · exact isSome_member_reads (hs.members .idr (by decide))
        · exact isSome_member_reads (hs.members .stat (by decide))
        · refine isSome_reads ?_
          rw [hs.tmp]
          exact isSome_of_numeral hmpty
      · show (s.reads .mpty).response.member .type = some type
        rw [member_reads, if_neg (by decide), htype]
    cases isVoLteEnable with
    | false =>
      refine iff_of_true ?_ ⟨fun _ _ => hstat, by simp⟩
      refine wp_mono (wp_tail hfilled hs.unassigned) ?_ ?_
      · exact fun _ s' hs' => ⟨hs', by simp⟩
      · exact fun e s' hs' => ⟨hs'.1, hs'.2, by simp⟩
    | true =>
      have hnone : (s.reads .mpty).response.member .cause = none := by
        rw [member_reads, if_neg (by decide), hs.cause]
      have hbs : HasBsType line ↔ Numeral line 6 ∧ at_tok_hasmore (fieldAt line 7) = true := by
        constructor
        · exact fun h => ⟨h.1 6 (by decide), h.2.2⟩
        · intro h
          refine ⟨fun k hk => ?_, by rw [hcur]; rfl, h.2⟩
          simp only [List.mem_cons, List.not_mem_nil, or_false] at hk
          obtain rfl | rfl | rfl | rfl | rfl | rfl := hk
          · exact hs.numerals 0 (by decide)
          · exact hs.numerals 1 (by decide)
          · exact hs.numerals 2 (by decide)
          · exact hs.numerals 3 (by decide)
          · exact hmpty
          · exact h.1
      have htype' : valueAt line 3 = some type := hs.type.symm.trans htype
      have hown (s' : State) : OwnFields true line s' ↔ Retried (fieldAt line 6) type number s' := by
        constructor
        · intro h'
          refine ⟨h'.assigned, fun hnum_type hmore => ?_⟩
          obtain ⟨cause, type', number', hcause, htype'', hnumber', hfilter⟩ :=
            h'.outcome rfl (hbs.mpr ⟨hnum_type, hmore⟩)
          rw [hcur, h] at hnumber'
          cases htype'.symm.trans htype''
          cases hnumber'
          exact ⟨cause, hcause, hfilter⟩
        · intro h'
          refine ⟨h'.unassigned, fun _ hbs' => ?_⟩
          obtain ⟨hnum_type, hmore⟩ := hbs.mp hbs'
          obtain ⟨cause, hcause, hfilter⟩ := h'.outcome hnum_type hmore
          exact ⟨cause, type, number, hcause, htype', by rw [hcur, h], hfilter⟩
      rw [if_pos rfl]
      refine (wp_congr (fun _ s' => hown s') fun _ s' => and_congr_right fun _ => hown s').trans ?_
      refine (wp_volteTail hfilled hnone hs.unassigned hs.events).trans ?_
      unfold HasFields
      rw [hbs]
      exact ⟨fun h => ⟨fun _ _ => hstat, fun _ h' => h h'.1 h'.2⟩, fun h hnum_type hmore => h.2 rfl ⟨hnum_type, hmore⟩⟩

/-- What has been read when the line shows whether it goes on with VoLTE. -/
theorem wp_fields {isVoLteEnable : Bool} {line : Line} (htmp : s.tmp = fieldAt line 0)
    (hresponse : s.response = .empty) (hunassigned : s.unassigned = false) (hevents : s.events = []) :
    wp (fields stack isVoLteEnable) (fun _ => OwnFields isVoLteEnable line)
        (fun e s' => e = .goto () ∧ OwnFields isVoLteEnable line s') s ↔
      HasFields isVoLteEnable line := by
  have htmp₁ : (s.reads .id).tmp = fieldAt line 1 := by rw [tmp_reads, htmp]; rfl
  have htmp₂ : ((s.reads .id).reads .idr).tmp = fieldAt line 2 := by rw [tmp_reads, htmp₁]; rfl
  unfold fields
  rw [wp_bind, wp_nextint, wp_bind, wp_orOut, htmp]
  refine left_iff (by decide) hunassigned (fun h h' => absurd h' h) fun hid => ?_
  rw [wp_bind, wp_nextint, wp_bind, wp_orOut, htmp₁]
  refine left_iff (by decide) hunassigned (fun h _ h' => absurd h' h) fun hidr => ?_
  rw [wp_bind, wp_nextint, wp_bind, htmp₂]
  generalize hs₃ : ((s.reads .id).reads .idr).reads .stat = s₃
  have hread : s₃.response.member .stat = valueAt line 2 := by
    rw [← hs₃, member_reads, if_pos rfl, htmp₂, member_reads, if_neg (by decide), member_reads, if_neg (by decide),
      hresponse]
    exact Option.or_none
  have hunassigned₃ : s₃.unassigned = false := by rw [← hs₃]; exact hunassigned
  have htmp₃ : s₃.tmp = fieldAt line 3 := by rw [← hs₃, tmp_reads, htmp₂]; rfl
  have hevents₃ : s₃.events = [] := by rw [← hs₃]; exact hevents
  cases hstat : valueAt line 2 with
  | none =>
    have hend : (fieldAt line 2).isSome = false := by rw [← isSome_p_out]; exact congrArg Option.isSome hstat
    have hok : (at_tok_nextint (fieldAt line 2)).ok = false := by
      rw [Option.isSome_eq_false_iff, Option.isNone_iff_eq_none] at hend
      rw [hend]
      rfl
    refine iff_of_false ?_ fun h => absurd (h.1 hid hidr) (by rw [hend]; exact Bool.false_ne_true)
    simp [use, hread, hstat, hok]
    intro h
    simpa using h.assigned
  | some stat =>
    have hend : (fieldAt line 2).isSome := by rw [← isSome_p_out]; exact congrArg Option.isSome hstat
    rw [wp_use (hread.trans hstat), wp_bind, wp_modify, wp_bind, wp_orOut]
    refine left_iff (by decide) hunassigned₃ (fun _ _ _ => hend) fun hnumeral => ?_
    rw [wp_bind, wp_nextint, wp_bind, wp_orOut]
    generalize hs₄ : State.mk _ _ _ _ _ _ = s₄
    have hresponse₄ : s₄.response = s₃.response := by rw [← hs₄]
    have hunassigned₄ : s₄.unassigned = false := by rw [← hs₄]; exact hunassigned₃
    have hevents₄ : s₄.events = [] := by rw [← hs₄]; exact hevents₃
    have htmp₄ : s₄.tmp = fieldAt line 3 := by rw [← hs₄]; exact htmp₃
    rw [htmp₄]
    refine left_iff (by decide) hunassigned₄ (fun _ _ _ => hend) fun htype => ?_
    have hmember {m : Member} (hm : m ≠ .type) : (s₄.reads .type).response.member m = s₃.response.member m := by
      rw [member_reads, if_neg hm, hresponse₄]
    have hid' : ((s₄.reads .type).response.member .id).isSome := by
      rw [hmember (by decide), ← hs₃]
      refine isSome_member_reads (isSome_member_reads (isSome_reads ?_))
      rw [htmp]
      exact isSome_of_numeral hid
    have hidr' : ((s₄.reads .type).response.member .idr).isSome := by
      rw [hmember (by decide), ← hs₃]
      refine isSome_member_reads (isSome_reads ?_)
      rw [htmp₁]
      exact isSome_of_numeral hidr
    have hstat' : (s₄.reads .type).response.member .stat = some stat := by
      rw [hmember (by decide), hread, hstat]
    have hnone : s₃.response.member .cause = none := by
      rw [← hs₃, member_reads, if_neg (by decide), member_reads, if_neg (by decide), member_reads,
        if_neg (by decide), hresponse]
      rfl
    have htype' : (s₄.reads .type).response.member .type = valueAt line 3 := by
      rw [member_reads, if_pos rfl, htmp₄, hresponse₄, ← hs₃, member_reads, if_neg (by decide), member_reads,
        if_neg (by decide), member_reads, if_neg (by decide), hresponse]
      exact Option.or_none
    have hsome : (valueAt line 3).isSome := by
      rw [valueAt, isSome_p_out]
      exact isSome_of_numeral htype
    obtain ⟨id, hid'⟩ := Option.isSome_iff_exists.mp hid'
    obtain ⟨type, hsome⟩ := Option.isSome_iff_exists.mp hsome
    rw [wp_bind, wp_videoCall hid' hstat' (htype'.trans hsome)]
    refine wp_numbers ⟨?_, ?_, htype', ?_, hunassigned₄, hevents₄, ?_⟩
    · show (s₄.reads .type).tmp = fieldAt line 4
      rw [tmp_reads, htmp₄]
      rfl
    · intro m hm
      show ((s₄.reads .type).response.member m).isSome
      simp only [List.mem_cons, List.not_mem_nil, or_false] at hm
      obtain rfl | rfl | rfl | rfl := hm
      · rw [hid']
        rfl
      · exact hidr'
      · rw [hstat']
        rfl
      · rw [htype', hsome]
        rfl
    · exact (hmember (by decide)).trans hnone
    · intro k hk
      simp only [List.mem_cons, List.not_mem_nil, or_false] at hk
      obtain rfl | rfl | rfl | rfl := hk
      · exact hid
      · exact hidr
      · exact hnumeral
      · exact htype

end

theorem at_tok_start_prefix (line : Line) : at_tok_start (some (ascii "^DSCI:" ++ line)) = some line := by
  have hname : ascii "^DSCI:" = [94, 68, 83, 67, 73, 58] := by decide
  rw [hname]
  rfl

theorem wp_processCallUnsolicited (stack : Stack) (isVoLteEnable : Bool) (line : Line)
    (s_maybeAddCall s_videoCallId : Int) {Q : State → Prop} :
    wp (processCallUnsolicited stack isVoLteEnable line) (fun _ => Q) (fun _ _ => False)
        (.start s_maybeAddCall s_videoCallId) ↔
      wp (fields stack isVoLteEnable) (fun _ => Q) (fun e s' => e = .goto () ∧ Q s')
        { State.start s_maybeAddCall s_videoCallId with tmp := some line } := by
  unfold processCallUnsolicited
  rw [wp_bind, wp_modify, wp_labelled, at_tok_start_prefix]
  refine wp_congr (fun _ _ => Iff.rfl) fun e s' => ?_
  cases e with
  | goto l => simp
  | crashes => simp
  | runsOn => simp

/-- **A ^DSCI line acts only on its own fields** exactly if it does not end in front of its stat or, with VoLTE, of
its cause. -/
theorem ownFields_iff (stack : Stack) (isVoLteEnable : Bool) (line : Line) (s_maybeAddCall s_videoCallId : Int) :
    wp (processCallUnsolicited stack isVoLteEnable line) (fun _ => OwnFields isVoLteEnable line) (fun _ _ => False)
        (.start s_maybeAddCall s_videoCallId) ↔
      HasFields isVoLteEnable line := by
  rw [wp_processCallUnsolicited]
  exact wp_fields rfl rfl rfl rfl

/-- With VoLTE a line ends behind its bs_type. -/
theorem ownFields_fails_noCause :
    ¬ wp (processCallUnsolicited { member := fun _ => 0, number := none } true (ascii " 1,0,3,0,0,\"112\",129,0"))
        (fun _ => OwnFields true (ascii " 1,0,3,0,0,\"112\",129,0")) (fun _ _ => False) (.start 0 (-1)) := by
  have hnumerals : ∀ k ∈ [0, 1, 2, 3, 4, 6],
      (at_tok_nextint (fieldAt (ascii " 1,0,3,0,0,\"112\",129,0") k)).ok = true := by decide
  have hbs : (fieldAt (ascii " 1,0,3,0,0,\"112\",129,0") 5).isSome ∧
      at_tok_hasmore (fieldAt (ascii " 1,0,3,0,0,\"112\",129,0") 7) = true := by decide
  have hcause : (fieldAt (ascii " 1,0,3,0,0,\"112\",129,0") 8).isSome = false := by decide
  rw [wp_processCallUnsolicited, wp_fields rfl rfl rfl rfl]
  intro h
  rw [h.2 rfl ⟨hnumerals, hbs⟩] at hcause
  cases hcause

end UniRil.Call.Dsci
