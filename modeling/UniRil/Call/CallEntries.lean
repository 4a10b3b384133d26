import UniRil.Call.Answered
import UniRil.Handlers.Commands
import UniRil.Lib.Alike

/-!
# The entries of a call list

A record that a line has broken off in is filled again by the next line. What is left of the first line in it then
depends on which fields the second one has.
-/

namespace UniRil.Call.CurrentCalls

open FailRules
open AtTok (Line)

variable {κ β : Type}

/-! ## Records that agree -/

/-- The lines are the same, and what `view` sees of the records. -/
def Agree (view : κ → β) (s t : Scan κ) : Prop := s.line = t.line ∧ view s.p_call = view t.p_call

variable {view : κ → β}

/-- `at_tok_nextint` into a variable that is no part of the record. -/
def token : Scanner κ (AtTok.Tok Int) := do
  let s ← get
  let tok := AtTok.at_tok_nextint s.line
  set { s with line := tok.p_cur }
  pure tok

theorem alike_token : Alike (Agree view) (Agree view) (token : Scanner κ (AtTok.Tok Int)) := by
  rintro ⟨line, c, b⟩ ⟨line', c', b'⟩ ⟨hline, hview⟩
  obtain rfl : line = line' := hline
  exact .ok (AtTok.at_tok_nextint line) ⟨rfl, hview⟩

theorem start_apply (s : Scan κ) :
    start s = (AtTok.at_tok_start s.line).elim (.error (), s) fun line => (.ok ⟨⟩, { s with line := some line }) := by
  unfold start
  rw [bindE_ok (getE_apply s)]
  cases h : AtTok.at_tok_start s.line with
  | none => rfl
  | some line => rfl

theorem alike_start : Alike (Agree view) (Agree view) (start : Scanner κ Unit) := by
  rintro s t ⟨hline, hview⟩
  rw [start_apply, start_apply, hline]
  cases AtTok.at_tok_start t.line with
  | none => exact .error () () s t
  | some line => exact .ok _ ⟨rfl, hview⟩

theorem alike_orError (ok : Bool) : Alike (Agree view) (Agree view) (orError ok : Scanner κ Unit) := by
  cases ok with
  | true => exact .pure fun _ _ h => h
  | false => exact .throw

theorem hasmore_apply (s : Scan κ) : hasmore s = (.ok (AtTok.at_tok_hasmore s.line), s) := rfl

theorem alike_hasmore : Alike (Agree view) (Agree view) (hasmore : Scanner κ Bool) := by
  rintro s t ⟨hline, hview⟩
  rw [hasmore_apply, hasmore_apply, hline]
  exact .ok _ ⟨hline, hview⟩

theorem nextint_of_ok {cur : Option Line} (h : (AtTok.at_tok_nextint cur).ok = true) :
    ∃ n, (AtTok.at_tok_nextint cur).p_out = some n := by
  revert h
  unfold AtTok.at_tok_nextint
  split
  · simp
  · simp

theorem nextstr_of_ok {cur : Option Line} (h : (AtTok.at_tok_nextstr cur).ok = true) :
    ∃ text, (AtTok.at_tok_nextstr cur).p_out = some text := by
  revert h
  unfold AtTok.at_tok_nextstr
  split
  · simp
  · simp

/-! ## Fields -/

/-- A field that must be there. -/
def required (store : Int → κ → κ) : Scanner κ Unit := do
  orError (← nextint store)

def requiredBool (store : Int → κ → κ) : Scanner κ Unit := do
  orError (← nextbool store)

/-- A store sets the field, and leaves what `view` sees. -/
structure IsField {ν μ : Type} (store : ν → κ → κ) (field : κ → μ) (view : κ → β) : Prop where
  stored : ∀ n c c', field (store n c) = field (store n c')
  kept : ∀ n c, view (store n c) = view c

theorem IsField.agree {ν μ : Type} {store : ν → κ → κ} {field : κ → μ} (h : IsField store field view) (n : ν)
    {c c' : κ} (hview : view c = view c') :
    (field (store n c), view (store n c)) = (field (store n c'), view (store n c')) := by
  rw [h.stored n c c', h.kept, h.kept, hview]

/-- A store that was made or not. -/
theorem IsField.agree_elim {ν μ : Type} {store : ν → κ → κ} {field : κ → μ} (h : IsField store field view)
    (p_out : Option ν) {c c' : κ} (hview : view c = view c') :
    view (p_out.elim c fun n => store n c) = view (p_out.elim c' fun n => store n c') := by
  cases p_out with
  | none => exact hview
  | some n => exact ((h.kept n c).trans hview).trans (h.kept n c').symm

section

variable {store : Int → κ → κ} (field : κ → Int)

theorem alike_required (h : IsField store field view) :
    Alike (Agree view) (Agree fun c => (field c, view c)) (required store) := by
  rintro ⟨line, c, b⟩ ⟨line', c', b'⟩ ⟨hline, hview⟩
  obtain rfl : line = line' := hline
  unfold required nextint
  simp only [bindE_apply, getE_apply, setE_apply, ok_apply]
  cases hok : (AtTok.at_tok_nextint line).ok with
  | false => exact .error () () _ _
  | true =>
    obtain ⟨n, hn⟩ := nextint_of_ok hok
    rw [hn]
    exact .ok _ ⟨rfl, h.agree n hview⟩

theorem alike_requiredBool (h : IsField store field view) :
    Alike (Agree view) (Agree fun c => (field c, view c)) (requiredBool store) := by
  rintro ⟨line, c, b⟩ ⟨line', c', b'⟩ ⟨hline, hview⟩
  obtain rfl : line = line' := hline
  unfold requiredBool nextbool
  simp only [bindE_apply, getE_apply, setE_apply, ok_apply]
  generalize ((AtTok.at_tok_nextint line).ok &&
    ((AtTok.at_tok_nextint line).p_out == some 0 || (AtTok.at_tok_nextint line).p_out == some 1)) = ok
  cases ok with
  | false => exact .error () () _ _
  | true => exact .ok PUnit.unit ⟨rfl, h.agree _ hview⟩

theorem alike_nextintOr (default : Int) (h : IsField store field view) :
    Alike (Agree view) (Agree fun c => (field c, view c)) (nextintOr default store) := by
  rintro ⟨line, c, b⟩ ⟨line', c', b'⟩ ⟨hline, hview⟩
  obtain rfl : line = line' := hline
  unfold nextintOr nextint
  simp only [bindE_apply, getE_apply, setE_apply, ok_apply]
  cases hok : (AtTok.at_tok_nextint line).ok with
  | false => exact .ok PUnit.unit ⟨rfl, h.agree default (h.agree_elim _ hview)⟩
  | true =>
    obtain ⟨n, hn⟩ := nextint_of_ok hok
    rw [hn]
    exact .ok _ ⟨rfl, h.agree n hview⟩

end

/-- A store that sees nothing of what `view` does not see. -/
theorem alike_nextint {store : Int → κ → κ} (h : ∀ n c c', view c = view c' → view (store n c) = view (store n c')) :
    Alike (Agree view) (Agree view) (nextint store) := by
  rintro ⟨line, c, b⟩ ⟨line', c', b'⟩ ⟨hline, hview⟩
  obtain rfl : line = line' := hline
  refine .ok _ ⟨rfl, ?_⟩
  cases hout : (AtTok.at_tok_nextint line).p_out with
  | none => simpa [hout] using hview
  | some n => simpa [hout] using h n c c' hview

theorem alike_nextstr {store : Line → κ → κ} (h : ∀ n c c', view c = view c' → view (store n c) = view (store n c')) :
    Alike (Agree view) (Agree view) (nextstr store) := by
  rintro ⟨line, c, b⟩ ⟨line', c', b'⟩ ⟨hline, hview⟩
  obtain rfl : line = line' := hline
  refine .ok _ ⟨rfl, ?_⟩
  cases hout : (AtTok.at_tok_nextstr line).p_out with
  | none => simpa [hout] using hview
  | some n => simpa [hout] using h n c c' hview

/-- A string, or another one for it. -/
def nextstrOr (default : Line) (store : Line → κ → κ) : Scanner κ Unit := do
  if !(← nextstr store) then
    modify fun s => { s with p_call := store default s.p_call }

theorem alike_nextstrOr {store : Line → κ → κ} {μ : Type} (field : κ → μ) (default : Line)
    (h : IsField store field view) :
    Alike (Agree view) (Agree fun c => (field c, view c)) (nextstrOr default store) := by
  rintro ⟨line, c, b⟩ ⟨line', c', b'⟩ ⟨hline, hview⟩
  obtain rfl : line = line' := hline
  unfold nextstrOr nextstr
  simp only [bindE_apply, getE_apply, setE_apply, ok_apply]
  cases hok : (AtTok.at_tok_nextstr line).ok with
  | false => exact .ok PUnit.unit ⟨rfl, h.agree default (h.agree_elim _ hview)⟩
  | true =>
    obtain ⟨text, htext⟩ := nextstr_of_ok hok
    rw [htext]
    exact .ok _ ⟨rfl, h.agree text hview⟩

/-! ## +CLCCS -/

def storeState (store : Int → κ → κ) (state : κ → Int) (p_state : Option Int) : Scanner κ Unit := do
  modify fun s => { s with p_call := store (p_state.getD (state s.p_call)) s.p_call }
  modify fun s =>
    if state s.p_call = HOLDING ∨ state s.p_call = WAITING then { s with s_maybeAddCall := 1 } else s
  orError p_state.isSome

/-- `s_maybeAddCall` is no part of a record. -/
theorem alike_maybeAddCall (state : κ → Int) :
    Alike (Agree view) (Agree view) (modify fun s =>
      if state s.p_call = HOLDING ∨ state s.p_call = WAITING then { s with s_maybeAddCall := 1 } else s :
      Scanner κ Unit) := by
  refine .modify fun s t h => ?_
  split
  · split
    · exact h
    · exact h
  · split
    · exact h
    · exact h

/-- The state is stored where there is one; elsewhere the line is refused. -/
theorem alike_storeState {store : Int → κ → κ} {state : κ → Int} (h : IsField store state view) (p_state : Option Int) :
    Alike (Agree view) (Agree fun c => (state c, view c)) (storeState store state p_state) := by
  unfold storeState
  cases p_state with
  | none =>
    refine Alike.bind (S := Agree view) (.modify fun s t hst => ⟨hst.1, ?_⟩) fun _ =>
      (alike_maybeAddCall state).bind fun _ => Alike.throw
    exact ((h.kept _ s.p_call).trans hst.2).trans (h.kept _ t.p_call).symm
  | some n =>
    exact Alike.bind (.modify fun s t hst => ⟨hst.1, h.agree n hst.2⟩) fun _ =>
      (alike_maybeAddCall state).bind fun _ => Alike.pure fun _ _ hst => hst

def clccsState : Scanner RIL_Call_VoLTE Unit := do
  let state ← token
  orError state.ok
  storeState (fun n c => { c with state := n }) (·.state) (voLTEStateToRILState (state.p_out.getD 0))

/-- Up to the state, behind which no line is refused. -/
def clccsBegin : Scanner RIL_Call_VoLTE Unit := do
  start
  required fun n c => { c with index := n }
  requiredBool fun n c => { c with isMT := n }
  nextintOr 0 fun n c => { c with negStatusPresent := n }
  nextintOr 0 fun n c => { c with negStatus := n }
  nextstrOr (ascii " ") fun text c => { c with mediaDescription := some text }
  nextintOr 0 fun n c => { c with csMode := n }
  clccsState

def clccsNumber : Scanner RIL_Call_VoLTE Unit := do
  if ← hasmore then
    let _ ← nextstr fun text c =>
      { c with number := some (if strstr text (ascii "anonymous@anonymous.invalid") then [] else text) }

def clccsEnd : Scanner RIL_Call_VoLTE Unit := do
  nextintOr 0 fun n c => { c with mpty := n }
  nextintOr 2 fun n c => { c with numberType := n }
  nextintOr 128 fun n c => { c with toa := n }
  clccsNumber
  nextintOr 0 fun n c => { c with prioritypresent := n }
  nextintOr 0 fun n c => { c with priority := n }
  nextintOr 0 fun n c => { c with CliValidityPresent := n }
  nextintOr 0 fun n c => { c with numberPresentation := n }
  if ← hasmore then
    let _ ← nextint fun localHold c => if localHold = 0 then c else { c with state := HOLDING }

theorem bind_ite {α γ : Type} {c : Prop} [Decidable c] (m n : Scanner κ α) (f : α → Scanner κ γ) :
    (if c then m else n) >>= f = if c then m >>= f else n >>= f := by
  split
  · rfl
  · rfl

theorem clccsFields_eq : clccsFields = (do clccsBegin; clccsEnd) := by
  unfold clccsFields clccsBegin clccsEnd clccsState clccsNumber required requiredBool nextstrOr token storeState
  simp only [bind_assoc, bind_ite, pure_bind]

theorem alike_clccsState {v : RIL_Call_VoLTE → β} (hv : ∀ n c, v { c with state := n } = v c) :
    Alike (Agree v) (Agree fun c => (c.state, v c)) clccsState := by
  refine alike_token.bind fun state => (alike_orError _).bind fun _ => ?_
  exact alike_storeState ⟨fun _ _ _ => rfl, hv⟩ _

theorem alike_clccsBegin :
    Alike (Agree RIL_Call_VoLTE.number)
      (Agree fun c => (c.state, c.csMode, c.mediaDescription, c.negStatus, c.negStatusPresent, c.isMT, c.index,
        c.number)) clccsBegin := by
  unfold clccsBegin
  refine alike_start.bind fun _ => ?_
  refine (alike_required RIL_Call_VoLTE.index ⟨by intros; rfl, by intros; rfl⟩).bind fun _ => ?_
  refine (alike_requiredBool RIL_Call_VoLTE.isMT ⟨by intros; rfl, by intros; rfl⟩).bind fun _ => ?_
  refine (alike_nextintOr RIL_Call_VoLTE.negStatusPresent 0 ⟨by intros; rfl, by intros; rfl⟩).bind fun _ => ?_
  refine (alike_nextintOr RIL_Call_VoLTE.negStatus 0 ⟨by intros; rfl, by intros; rfl⟩).bind fun _ => ?_
  refine (alike_nextstrOr RIL_Call_VoLTE.mediaDescription _ ⟨by intros; rfl, by intros; rfl⟩).bind fun _ => ?_
  refine (alike_nextintOr RIL_Call_VoLTE.csMode 0 ⟨by intros; rfl, by intros; rfl⟩).bind fun _ => ?_
  exact alike_clccsState fun _ _ => rfl

theorem alike_clccsNumber {v : RIL_Call_VoLTE → β}
    (hv : ∀ n c c', v c = v c' → v { c with number := n } = v { c' with number := n }) :
    Alike (Agree v) (Agree v) clccsNumber := by
  refine alike_hasmore.bind fun more => ?_
  cases more with
  | false => exact Alike.pure fun _ _ h => h
  | true =>
    refine (alike_nextstr ?_).bind fun _ => Alike.pure fun _ _ h => h
    intro text c c' h
    exact hv _ c c' h

theorem alike_clccsEnd :
    Alike (Agree fun c : RIL_Call_VoLTE => (c.state, c.csMode, c.mediaDescription, c.negStatus, c.negStatusPresent,
      c.isMT, c.index, c.number)) (Agree fun c => c) clccsEnd := by
  unfold clccsEnd
  refine (alike_nextintOr RIL_Call_VoLTE.mpty 0 ⟨by intros; rfl, by intros; rfl⟩).bind fun _ => ?_
  refine (alike_nextintOr RIL_Call_VoLTE.numberType 2 ⟨by intros; rfl, by intros; rfl⟩).bind fun _ => ?_
  refine (alike_nextintOr RIL_Call_VoLTE.toa 128 ⟨by intros; rfl, by intros; rfl⟩).bind fun _ => ?_
  refine (alike_clccsNumber ?_).bind fun _ => ?_
  · intro n c c' h
    simp_all
  refine (alike_nextintOr RIL_Call_VoLTE.prioritypresent 0 ⟨by intros; rfl, by intros; rfl⟩).bind fun _ => ?_
  refine (alike_nextintOr RIL_Call_VoLTE.priority 0 ⟨by intros; rfl, by intros; rfl⟩).bind fun _ => ?_
  refine (alike_nextintOr RIL_Call_VoLTE.CliValidityPresent 0 ⟨by intros; rfl, by intros; rfl⟩).bind fun _ => ?_
  refine (alike_nextintOr RIL_Call_VoLTE.numberPresentation 0 ⟨by intros; rfl, by intros; rfl⟩).bind fun _ => ?_
  refine Alike.bind (S := Agree fun c => c) (alike_hasmore.weaken ?_) fun more => ?_
  · rintro ⟨_, c, _⟩ ⟨_, c', _⟩ ⟨hline, hview⟩
    refine ⟨hline, ?_⟩
    simp only [Prod.mk.injEq] at hview
    cases c
    cases c'
    simp_all
  · cases more with
    | false => exact Alike.pure fun _ _ h => h
    | true =>
      refine (alike_nextint ?_).bind fun _ => Alike.pure fun _ _ h => h
      rintro n c c' rfl
      rfl

/-! ## What is left where a line is refused -/

/-- What `view` sees is left as it was. -/
def Kept (view : κ → β) (s t : Scan κ) : Prop := view t.p_call = view s.p_call

instance (view : κ → β) : IsPreorder (Scan κ) (Kept view) where
  refl _ := rfl
  trans _ _ _ h h' := Eq.trans h' h

section

variable {store : Int → κ → κ}

theorem kept_elim {ν : Type} {store : ν → κ → κ} (h : ∀ n c, view (store n c) = view c) (p_out : Option ν) (c : κ) :
    view (p_out.elim c fun n => store n c) = view c := by
  cases p_out with
  | none => rfl
  | some n => exact h n c

theorem kept_start : Stays (Kept view) (start : Scanner κ Unit) := by
  intro s
  rw [start_apply]
  cases AtTok.at_tok_start s.line with
  | none => rfl
  | some line => rfl

theorem kept_orError (ok : Bool) : Stays (Kept view) (orError ok : Scanner κ Unit) := by
  cases ok with
  | true => exact .pure
  | false => exact .throw

theorem kept_token : Stays (Kept view) (token : Scanner κ (AtTok.Tok Int)) := fun _ => rfl

theorem kept_required (h : ∀ n c, view (store n c) = view c) : Stays (Kept view) (required store) :=
  .bind (fun s => kept_elim h _ s.p_call) kept_orError

theorem kept_requiredBool (h : ∀ n c, view (store n c) = view c) : Stays (Kept view) (requiredBool store) := by
  refine .bind (fun s => ?_) kept_orError
  simp only [Kept, nextbool, bindE_apply, getE_apply, setE_apply, ok_apply]
  split
  · exact h _ s.p_call
  · rfl

theorem kept_nextintOr (default : Int) (h : ∀ n c, view (store n c) = view c) :
    Stays (Kept view) (nextintOr default store) := by
  refine .bind (fun s => kept_elim h _ s.p_call) fun ok => ?_
  cases ok with
  | true => exact .pure
  | false => exact .modify fun s => h default s.p_call

theorem kept_nextstrOr (default : Line) {store : Line → κ → κ} (h : ∀ n c, view (store n c) = view c) :
    Stays (Kept view) (nextstrOr default store) := by
  refine .bind (fun s => kept_elim h _ s.p_call) fun ok => ?_
  cases ok with
  | true => exact .pure
  | false => exact .modify fun s => h default s.p_call

theorem kept_storeState {state : κ → Int} (h : ∀ n c, view (store n c) = view c) (p_state : Option Int) :
    Stays (Kept view) (storeState store state p_state) := by
  refine .bind (.modify fun s => h _ s.p_call) fun _ => .bind (.modify fun s => ?_) fun _ => kept_orError _
  split
  · rfl
  · rfl

end

theorem kept_clccsBegin : Stays (Kept RIL_Call_VoLTE.number) clccsBegin := by
  unfold clccsBegin clccsState
  refine kept_start.bind fun _ => (kept_required ?_).bind fun _ => (kept_requiredBool ?_).bind fun _ => ?_
  · exact fun _ _ => rfl
  · exact fun _ _ => rfl
  refine (kept_nextintOr _ ?_).bind fun _ => (kept_nextintOr _ ?_).bind fun _ => (kept_nextstrOr _ ?_).bind fun _ => ?_
  · exact fun _ _ => rfl
  · exact fun _ _ => rfl
  · exact fun _ _ => rfl
  refine (kept_nextintOr _ ?_).bind fun _ => kept_token.bind fun _ => (kept_orError _).bind fun _ => ?_
  · exact fun _ _ => rfl
  refine kept_storeState ?_ _
  exact fun _ _ => rfl

theorem returns_nextintOr (default : Int) (store : Int → κ → κ) :
    Returns (Kept fun _ : κ => ()) (nextintOr default store) := by
  refine .bind (fun s => ⟨_, _, rfl, rfl⟩) fun ok => ?_
  cases ok with
  | true => exact .pure
  | false => exact .modify fun _ => rfl

theorem returns_nextstr (store : Line → κ → κ) : Returns (Kept fun _ : κ => ()) (nextstr store) :=
  fun _ => ⟨_, _, rfl, rfl⟩

theorem returns_nextint (store : Int → κ → κ) : Returns (Kept fun _ : κ => ()) (nextint store) :=
  fun _ => ⟨_, _, rfl, rfl⟩

theorem returns_hasmore : Returns (Kept fun _ : κ => ()) (hasmore : Scanner κ Bool) := fun _ => ⟨_, _, rfl, rfl⟩

/-- Behind the state no line is refused. -/
theorem returns_clccsEnd : Returns (Kept fun _ : RIL_Call_VoLTE => ()) clccsEnd := by
  unfold clccsEnd clccsNumber
  have hor := @returns_nextintOr RIL_Call_VoLTE
  refine (hor _ _).bind fun _ => (hor _ _).bind fun _ => (hor _ _).bind fun _ => ?_
  refine .bind (returns_hasmore.bind fun more => ?_) fun _ => ?_
  · exact .ite ((returns_nextstr _).bind fun _ => .pure) .pure
  refine (hor _ _).bind fun _ => (hor _ _).bind fun _ => (hor _ _).bind fun _ => (hor _ _).bind fun _ => ?_
  refine returns_hasmore.bind fun more => ?_
  exact .ite ((returns_nextint _).bind fun _ => .pure) .pure

/-- A line that is refused is refused before its number. -/
theorem clccsFields_error {s t : Scan RIL_Call_VoLTE} {e : Unit} (h : clccsFields s = (.error e, t)) :
    t.p_call.number = s.p_call.number := by
  have hkept := kept_clccsBegin s
  rw [clccsFields_eq, bindE_apply] at h
  rcases hbegin : clccsBegin s with ⟨r, s'⟩
  rw [hbegin] at h hkept
  cases r with
  | ok a =>
    obtain ⟨b, s'', hend, -⟩ := returns_clccsEnd s'
    cases hend.symm.trans h
  | error e' =>
    obtain rfl : s' = t := (Prod.mk.inj h).2
    exact hkept

/-! ## What a line says -/

/-- What an accepted line says by itself. -/
def ownCall (fromLine : Line → κ → Int → Bool × κ × Int) (zero : κ) (line : Line) : Option κ :=
  if (fromLine line zero 0).1 then some (fromLine line zero 0).2.1 else none

/-- **An entry of AT+CLCCS is the one of its line**, and a line that is refused leaves no number. -/
theorem callFromCLCCLineVoLTE_own (line : Line) {c : RIL_Call_VoLTE} (h : c.number = none) (s_maybeAddCall : Int) :
    (∃ call b, callFromCLCCLineVoLTE line c s_maybeAddCall = (true, call, b) ∧
        ownCall callFromCLCCLineVoLTE .zero line = some call) ∨
      ∃ call b, callFromCLCCLineVoLTE line c s_maybeAddCall = (false, call, b) ∧
        ownCall callFromCLCCLineVoLTE .zero line = none ∧ call.number = none := by
  have halike : Alike (Agree RIL_Call_VoLTE.number) (Agree fun c => c) clccsFields := by
    rw [clccsFields_eq]
    exact alike_clccsBegin.bind fun _ => alike_clccsEnd
  have hends := halike ⟨some line, c, s_maybeAddCall⟩ ⟨some line, .zero, 0⟩ ⟨rfl, h⟩
  have hkept := @clccsFields_error ⟨some line, c, s_maybeAddCall⟩
  unfold ownCall callFromCLCCLineVoLTE
  rcases hs : clccsFields ⟨some line, c, s_maybeAddCall⟩ with ⟨r, s⟩
  rcases ht : clccsFields ⟨some line, .zero, 0⟩ with ⟨r', t⟩
  rw [hs, ht] at hends
  cases hends with
  | ok a hst => exact .inl ⟨s.p_call, s.s_maybeAddCall, rfl, congrArg some hst.2.symm⟩
  | error e e' => exact .inr ⟨s.p_call, s.s_maybeAddCall, rfl, rfl, (hkept hs).trans h⟩

/-! ## +CLCC -/

/-- Up to the number. -/
def clccBegin : Scanner RIL_Call Unit := do
  start
  required fun n c => { c with index := n }
  requiredBool fun n c => { c with isMT := n }
  let state ← token
  orError state.ok
  storeState (fun n c => { c with state := n }) (·.state) (clccStateToRILState (state.p_out.getD 0))
  let mode ← token
  orError mode.ok
  modify fun s => { s with p_call := { s.p_call with isVoice := if mode.p_out = some 0 then 1 else 0 } }
  let isMpty ← token
  orError isMpty.ok
  modify fun s => { s with p_call := { s.p_call with isMpty := isMpty.p_out.getD 0 % 256 } }

def clccPresentation : Scanner RIL_Call Unit := do
  if ← hasmore then
    modify fun s => { s with line := s.line.map skipCommas }
    required fun n c => { c with numberPresentation := n }

def clccTail : Scanner RIL_Call Unit := do
  required fun n c => { c with toa := n }
  clccPresentation

def clccEnd : Scanner RIL_Call Unit := do
  if ← hasmore then
    let _ ← nextstr fun text c => { c with number := some text }
    clccTail

theorem clccFields_eq : clccFields = (do clccBegin; clccEnd) := by
  unfold clccFields clccBegin clccEnd clccTail clccPresentation required requiredBool token storeState
  simp only [bind_assoc, pure_bind]

theorem alike_assign {f : κ → κ} (field : κ → Int) (hstored : ∀ c c', field (f c) = field (f c'))
    (hkept : ∀ c, view (f c) = view c) :
    Alike (Agree view) (Agree fun c => (field c, view c))
      (modify fun s => { s with p_call := f s.p_call } : Scanner κ Unit) := by
  refine .modify fun s t h => ⟨h.1, ?_⟩
  exact Prod.ext (hstored _ _) (((hkept _).trans h.2).trans (hkept _).symm)

theorem alike_clccBegin :
    Alike (Agree RIL_Call.numberPresentation)
      (Agree fun c => (c.isMpty, c.isVoice, c.state, c.isMT, c.index, c.numberPresentation)) clccBegin := by
  unfold clccBegin
  refine alike_start.bind fun _ => ?_
  refine (alike_required RIL_Call.index ⟨by intros; rfl, by intros; rfl⟩).bind fun _ => ?_
  refine (alike_requiredBool RIL_Call.isMT ⟨by intros; rfl, by intros; rfl⟩).bind fun _ => ?_
  refine alike_token.bind fun state => (alike_orError _).bind fun _ => ?_
  refine (alike_storeState ⟨by intros; rfl, by intros; rfl⟩ _).bind fun _ => ?_
  refine alike_token.bind fun mode => (alike_orError _).bind fun _ => ?_
  refine (alike_assign (f := fun c => { c with isVoice := if mode.p_out = some 0 then 1 else 0 }) RIL_Call.isVoice
    ?_ ?_).bind fun _ => ?_
  · exact fun _ _ => rfl
  · exact fun _ => rfl
  refine alike_token.bind fun isMpty => (alike_orError _).bind fun _ => ?_
  refine alike_assign (f := fun c => { c with isMpty := isMpty.p_out.getD 0 % 256 }) RIL_Call.isMpty ?_ ?_
  · exact fun _ _ => rfl
  · exact fun _ => rfl

theorem kept_clccBegin : Stays (Kept fun c : RIL_Call => (c.number, c.toa, c.numberPresentation)) clccBegin := by
  unfold clccBegin
  refine kept_start.bind fun _ => (kept_required ?_).bind fun _ => (kept_requiredBool ?_).bind fun _ => ?_
  · exact fun _ _ => rfl
  · exact fun _ _ => rfl
  refine kept_token.bind fun _ => (kept_orError _).bind fun _ => (kept_storeState ?_ _).bind fun _ => ?_
  · exact fun _ _ => rfl
  refine kept_token.bind fun _ => (kept_orError _).bind fun _ => .bind (.modify fun _ => rfl) fun _ => ?_
  exact kept_token.bind fun _ => (kept_orError _).bind fun _ => .modify fun _ => rfl

/-- A text without a numeral is read as 0. -/
theorem nextint_of_not_ok {cur : Option Line} (h : (AtTok.at_tok_nextint cur).ok = false) :
    (AtTok.at_tok_nextint cur).p_out.getD 0 = 0 := by
  revert h
  unfold AtTok.at_tok_nextint
  split
  · simp
  · simp only [Option.isSome_eq_false_iff, Option.isNone_iff_eq_none, Option.getD_some, AtTok.atoi]
    intro hnone
    rw [hnone]
    rfl

theorem required_error {store : Int → κ → κ} {s : Scan κ} (h : (AtTok.at_tok_nextint s.line).ok = false) :
    required store s = (.error (), { s with
      line := (AtTok.at_tok_nextint s.line).p_cur
      p_call := (AtTok.at_tok_nextint s.line).p_out.elim s.p_call fun n => store n s.p_call }) := by
  unfold required nextint
  simp only [bindE_apply, getE_apply, setE_apply, ok_apply, h]
  rfl

theorem required_ok {store : Int → κ → κ} {s : Scan κ} {n : Int} (hok : (AtTok.at_tok_nextint s.line).ok = true)
    (hn : (AtTok.at_tok_nextint s.line).p_out = some n) :
    required store s = (.ok (), { s with
      line := (AtTok.at_tok_nextint s.line).p_cur
      p_call := store n s.p_call }) := by
  unfold required nextint
  simp only [bindE_apply, getE_apply, setE_apply, ok_apply, hok, hn]
  rfl

theorem clccPresentation_apply (cur : Option Line) (c : RIL_Call) (b : Int) :
    clccPresentation ⟨cur, c, b⟩ =
      if AtTok.at_tok_hasmore cur then
        required (fun n c => { c with numberPresentation := n }) ⟨cur.map skipCommas, c, b⟩
      else
        (.ok (), ⟨cur, c, b⟩) := by
  unfold clccPresentation
  rw [bindE_ok (hasmore_apply _)]
  split
  · rfl
  · rfl

/-- The end of a line from behind its number. -/
theorem clccTail_cases (cur : Option Line) :
    (∀ c b, ∃ t, clccTail ⟨cur, c, b⟩ = (.error (), t) ∧ t.p_call.number = c.number ∧
        (c.numberPresentation = 0 → t.p_call.numberPresentation = 0)) ∨
      ∃ toa numberPresentation cur', ∀ c b, c.numberPresentation = 0 →
        clccTail ⟨cur, c, b⟩ = (.ok (), ⟨cur', { c with toa, numberPresentation }, b⟩) := by
  cases htoa : (AtTok.at_tok_nextint cur).ok with
  | false =>
    refine .inl fun c b => ⟨_, bindE_error (required_error htoa), ?_⟩
    cases (AtTok.at_tok_nextint cur).p_out with
    | none => exact ⟨rfl, id⟩
    | some n => exact ⟨rfl, id⟩
  | true =>
    obtain ⟨toa, hn⟩ := nextint_of_ok htoa
    have hrest (c : RIL_Call) (b : Int) :
        clccTail ⟨cur, c, b⟩ = clccPresentation ⟨(AtTok.at_tok_nextint cur).p_cur, { c with toa }, b⟩ :=
      bindE_ok (required_ok htoa hn)
    generalize (AtTok.at_tok_nextint cur).p_cur = behind at hrest
    cases hmore : AtTok.at_tok_hasmore behind with
    | false =>
      refine .inr ⟨toa, 0, behind, fun c b hc => ?_⟩
      rw [hrest, clccPresentation_apply, if_neg (by simp [hmore]), ← hc]
    | true =>
      simp only [hrest, clccPresentation_apply, hmore, if_true]
      cases hok : (AtTok.at_tok_nextint (behind.map skipCommas)).ok with
      | false =>
        refine .inl fun c b => ⟨_, required_error hok, ?_⟩
        have hzero := nextint_of_not_ok hok
        cases hout : (AtTok.at_tok_nextint (behind.map skipCommas)).p_out with
        | none => exact ⟨rfl, id⟩
        | some n => exact ⟨rfl, fun _ => by simpa [hout] using hzero⟩
      | true =>
        obtain ⟨numberPresentation, hn⟩ := nextint_of_ok hok
        refine .inr ⟨toa, numberPresentation, (AtTok.at_tok_nextint (behind.map skipCommas)).p_cur, fun c b _ => ?_⟩
        exact required_ok (s := ⟨behind.map skipCommas, { c with toa }, b⟩) hok hn

theorem clccEnd_number {s : Line} (hs : s ≠ []) :
    ∃ text behind, ∀ c b, clccEnd ⟨some s, c, b⟩ = clccTail ⟨behind, { c with number := some text }, b⟩ := by
  obtain ⟨text, behind, htext⟩ := nextTok_some s
  have hstr : AtTok.at_tok_nextstr (some s) = ⟨true, some text, behind⟩ := by rw [AtTok.at_tok_nextstr, htext]
  have hmore : AtTok.at_tok_hasmore (some s) = true := by simpa [AtTok.at_tok_hasmore] using hs
  refine ⟨text, behind, fun c b => ?_⟩
  unfold clccEnd
  rw [bindE_ok (hasmore_apply _)]
  simp only [hmore, if_true, bindE_apply, nextstr, getE_apply, setE_apply, ok_apply, hstr, Option.elim_some]

/-- Without a number a line ends where its other fields do. -/
theorem clccEnd_done {s : Scan RIL_Call} (h : AtTok.at_tok_hasmore s.line = false) : clccEnd s = (.ok (), s) := by
  unfold clccEnd
  rw [bindE_ok (hasmore_apply s), h]
  rfl

/-- The fields in front of the number are good, and there is more behind them. -/
def hasNumber (line : Line) : Bool :=
  match clccBegin ⟨some line, .zero, 0⟩ with
  | (.ok _, s) => AtTok.at_tok_hasmore s.line
  | (.error _, _) => false

/-- What an accepted line leaves of a record that is not empty. -/
def overwritten (line : Line) (own c : RIL_Call) : RIL_Call :=
  if hasNumber line then own else { own with number := c.number, toa := c.toa }

/-- How a line ends that is read into `c`. -/
inductive ReadInto (line : Line) (c : RIL_Call) (s_maybeAddCall : Int) : Prop
  | accepted (own : RIL_Call) (b : Int) (hown : ownCall callFromCLCCLine .zero line = some own)
      (hnumber : hasNumber line = false → own.number = none ∧ own.toa = 0)
      (h : callFromCLCCLine line c s_maybeAddCall = (true, overwritten line own c, b))
  | refused (call : RIL_Call) (b : Int) (hown : ownCall callFromCLCCLine .zero line = none)
      (h : callFromCLCCLine line c s_maybeAddCall = (false, call, b)) (hzero : call.numberPresentation = 0)
      (hnumber : hasNumber line = true → call.number ≠ none)
      (hkept : hasNumber line = false → call.number = c.number ∧ call.toa = c.toa)

theorem callFromCLCCLine_of {line : Line} {c : RIL_Call} {b : Int} {r : Except Unit Unit} {s : Scan RIL_Call}
    (h : (do clccBegin; clccEnd : Scanner RIL_Call Unit) ⟨some line, c, b⟩ = (r, s)) :
    callFromCLCCLine line c b = (r.isOk, s.p_call, s.s_maybeAddCall) := by
  unfold callFromCLCCLine
  rw [clccFields_eq, h]

theorem ownCall_of {line : Line} {r : Except Unit Unit} {s : Scan RIL_Call}
    (h : (do clccBegin; clccEnd : Scanner RIL_Call Unit) ⟨some line, .zero, 0⟩ = (r, s)) :
    ownCall callFromCLCCLine .zero line = if r.isOk then some s.p_call else none := by
  unfold ownCall
  rw [callFromCLCCLine_of h]

theorem callFromCLCCLine_readInto (line : Line) {c : RIL_Call} (hc : c.numberPresentation = 0) (s_maybeAddCall : Int) :
    ReadInto line c s_maybeAddCall := by
  have hends := alike_clccBegin ⟨some line, c, s_maybeAddCall⟩ ⟨some line, .zero, 0⟩ ⟨rfl, hc⟩
  have hkept := kept_clccBegin ⟨some line, c, s_maybeAddCall⟩
  have hkept' := kept_clccBegin ⟨some line, .zero, 0⟩
  rcases hs : clccBegin ⟨some line, c, s_maybeAddCall⟩ with ⟨r, cur, call, b⟩
  rcases ht : clccBegin ⟨some line, .zero, 0⟩ with ⟨r', cur', own, b'⟩
  rw [hs, ht] at hends
  rw [hs] at hkept
  rw [ht] at hkept'
  simp only [Kept, Prod.mk.injEq] at hkept hkept'
  obtain ⟨hnumber, htoa, hzero⟩ := hkept
  obtain ⟨hnumber', htoa', hzero'⟩ := hkept'
  cases hends with
  | error =>
    have hno : hasNumber line = false := by rw [hasNumber, ht]
    refine .refused call b (ownCall_of (bindE_error ht)) (callFromCLCCLine_of (bindE_error hs)) (hzero.trans hc) ?_ ?_
    · simp [hno]
    · exact fun _ => ⟨hnumber, htoa⟩
  | ok _ hst =>
    obtain ⟨hcur, hview⟩ := hst
    simp only [Prod.mk.injEq] at hcur hview
    subst hcur
    have hhas : hasNumber line = AtTok.at_tok_hasmore cur := by rw [hasNumber, ht]
    cases hmore : AtTok.at_tok_hasmore cur with
    | false =>
      rw [hmore] at hhas
      have hown := ownCall_of ((bindE_ok ht).trans (clccEnd_done hmore))
      refine .accepted own b hown (fun _ => ⟨hnumber', htoa'⟩) ?_
      rw [callFromCLCCLine_of ((bindE_ok hs).trans (clccEnd_done hmore)), overwritten, hhas]
      cases call
      cases own
      simp_all [Except.isOk, Except.toBool]
    | true =>
      rw [hmore] at hhas
      obtain ⟨l, hl, rfl⟩ : ∃ l, l ≠ [] ∧ cur = some l := by
        cases cur with
        | none => cases hmore
        | some l => exact ⟨l, by simpa [AtTok.at_tok_hasmore] using hmore, rfl⟩
      obtain ⟨text, behind, hend⟩ := clccEnd_number hl
      rcases clccTail_cases behind with hbad | ⟨toa, numberPresentation, last, hgood⟩
      · obtain ⟨u, hu, hunumber, huzero⟩ := hbad { call with number := some text } b
        obtain ⟨u', hu', -⟩ := hbad { own with number := some text } b'
        have hown := ownCall_of ((bindE_ok ht).trans ((hend _ _).trans hu'))
        have hcall := callFromCLCCLine_of ((bindE_ok hs).trans ((hend _ _).trans hu))
        refine .refused _ _ hown hcall (huzero (hzero.trans hc)) (fun _ => ?_) ?_
        · rw [hunumber]
          exact Option.some_ne_none text
        · simp [hhas]
      · have hgood' := hgood { own with number := some text } b' hzero'
        have hown := ownCall_of ((bindE_ok ht).trans ((hend _ _).trans hgood'))
        have hcall := callFromCLCCLine_of ((bindE_ok hs).trans ((hend _ _).trans
          (hgood { call with number := some text } b (hzero.trans hc))))
        refine .accepted _ b hown (by simp [hhas]) ?_
        rw [hcall, overwritten, hhas]
        cases call
        cases own
        simp_all [Except.isOk, Except.toBool]

/-! ## One entry for each line -/

/-- What a record holds that lines were refused from: nothing, or the number of one of them. -/
structure Carried (left : Bool) (c : RIL_Call) : Prop where
  numberPresentation : c.numberPresentation = 0
  number : left = true → c.number ≠ none
  none : left = false → c.number = none ∧ c.toa = 0

/-- No accepted line without a number comes behind a refused line with one, with only refused lines between them;
`left` says whether there was such a line already. -/
def Separate : Bool → List Line → Prop
  | _, [] => True
  | left, line :: lines =>
    match ownCall callFromCLCCLine .zero line with
    | some _ => (left = true → hasNumber line = true) ∧ Separate false lines
    | none => Separate (left || hasNumber line) lines

theorem overwritten_eq_iff {left : Bool} {line : Line} {own c : RIL_Call} (hc : Carried left c)
    (hown : hasNumber line = false → own.number = none ∧ own.toa = 0) :
    overwritten line own c = own ↔ (left = true → hasNumber line = true) := by
  unfold overwritten
  cases hnumber : hasNumber line with
  | true => simp
  | false =>
    obtain ⟨hnone, htoa⟩ := hown hnumber
    cases left with
    | false =>
      obtain ⟨hnone', htoa'⟩ := hc.none rfl
      cases own
      simp_all
    | true =>
      have hsome := hc.number rfl
      cases own
      simp_all

/-- The calls are those of the lines where no number is left over. -/
theorem validCalls_own_iff {left : Bool} (lines : List Line) {c : RIL_Call} (hc : Carried left c)
    (s_maybeAddCall : Int) :
    (validCalls callFromCLCCLine .zero lines c s_maybeAddCall).1 =
        lines.filterMap (ownCall callFromCLCCLine .zero) ↔ Separate left lines := by
  induction lines generalizing left c s_maybeAddCall with
  | nil => simp [validCalls, Separate]
  | cons line lines ih =>
    have hzero : Carried false .zero := ⟨rfl, by simp, fun _ => ⟨rfl, rfl⟩⟩
    cases callFromCLCCLine_readInto line hc.numberPresentation s_maybeAddCall with
    | accepted own b hown hnumber h =>
      unfold validCalls Separate
      rw [h, List.filterMap_cons_some hown, hown]
      simp only [if_true, List.cons.injEq, overwritten_eq_iff hc hnumber, ih hzero]
    | refused call b hown h hzero' hnumber hkept =>
      unfold validCalls Separate
      rw [h, List.filterMap_cons_none hown, hown]
      refine ih ⟨hzero', ?_, ?_⟩ b
      · intro hleft
        cases hhas : hasNumber line with
        | true => exact hnumber hhas
        | false =>
          rw [(hkept hhas).1]
          exact hc.number (by simpa [hhas] using hleft)
      · intro hleft
        obtain ⟨hleft, hhas⟩ := Bool.or_eq_false_iff.mp hleft
        obtain ⟨hnumber, htoa⟩ := hkept hhas
        rw [hnumber, htoa]
        exact hc.none hleft

theorem validCalls_ownVoLTE (lines : List Line) {c : RIL_Call_VoLTE} (hc : c.number = none) (s_maybeAddCall : Int) :
    (validCalls callFromCLCCLineVoLTE .zero lines c s_maybeAddCall).1 =
      lines.filterMap (ownCall callFromCLCCLineVoLTE .zero) := by
  induction lines generalizing c s_maybeAddCall with
  | nil => rfl
  | cons line lines ih =>
    unfold validCalls
    rcases callFromCLCCLineVoLTE_own line hc s_maybeAddCall with ⟨call, b, h, hown⟩ | ⟨call, b, h, hown, hnone⟩
    · rw [h, List.filterMap_cons_some hown]
      exact congrArg (call :: ·) (ih rfl b)
    · rw [h, List.filterMap_cons_none hown]
      exact ih hnone b

/-! ## The requests -/

open Flows Handlers
open Requests (Globals currentCalls requestGetCurrentCalls requestGetCurrentCallsVoLTE)

variable {ε : Type}

inductive CallList where
  | CLCC
  | CLCCS

def CallList.request (t : RIL_Token) : CallList → Handler Globals ε Unit
  | .CLCC => requestGetCurrentCalls t
  | .CLCCS => requestGetCurrentCallsVoLTE t

def CallList.command : CallList → Line
  | .CLCC => ascii "AT+CLCC"
  | .CLCCS => ascii "AT+CLCCS"

def CallList.responsePrefix : CallList → Line
  | .CLCC => ascii "+CLCC:"
  | .CLCCS => ascii "+CLCCS:"

/-- One entry for each accepted line, in order, with nothing but what the line says. -/
def CallList.entries (lines : List Line) : CallList → Payload
  | .CLCC => .records ((lines.filterMap (ownCall callFromCLCCLine .zero)).map RIL_Call.row)
  | .CLCCS => .records ((lines.filterMap (ownCall callFromCLCCLineVoLTE .zero)).map RIL_Call_VoLTE.row)

/-- Where the modem gives a list, the framework gets the entries of its lines. -/
def CallList.Reported (l : CallList) (t : RIL_Token) (a : Answer) (log : List Event) : Prop :=
  ∀ lines, linesOf l.responsePrefix a = some lines →
    log = [.at_send_command l.command, .RIL_onRequestComplete t .SUCCESS (l.entries lines)]

/-- In AT+CLCCS every line has its number, or the record has none. -/
def CallList.NoneLeft (l : CallList) (lines : List Line) : Prop :=
  match l with
  | .CLCC => Separate false lines
  | .CLCCS => True

theorem row_injective : Function.Injective RIL_Call.row := by
  rintro ⟨⟩ ⟨⟩ h
  simp_all [RIL_Call.row]

theorem wp_currentCalls {κ : Type} {cmd responsePrefix : Line}
    {fromLine : Line → κ → Int → Bool × κ × Int} {zero : κ} {row : κ → List Int × List (Option Line)} {t : RIL_Token}
    {answers : Nat → Answer} {allocates : Nat → Bool} {g : Globals} (Reports : List Line → List Event → Prop) :
    wp (currentCalls cmd responsePrefix fromLine zero row t : Handler Globals Empty Unit)
        (fun _ w => ∀ lines, linesOf responsePrefix (answers 0) = some lines → Reports lines w.log) (fun _ _ => False)
        (.start answers allocates g) ↔
      ∀ lines, linesOf responsePrefix (answers 0) = some lines →
        Reports lines [.at_send_command cmd,
          .RIL_onRequestComplete t .SUCCESS (.records ((validCalls fromLine zero lines zero 0).1.map row))] := by
  unfold currentCalls Requests.sendCLCC
  cases ha : answers 0 with
  | failed => simp [World.start, ha, linesOf]
  | response f ls =>
    cases hf : Command.isFinalResponseSuccess f with
    | false => simp [World.start, ha, hf, linesOf]
    | true => simp [World.start, ha, hf, linesOf]

theorem wp_requestGetCurrentCalls (t : RIL_Token) (answers : Nat → Answer) (allocates : Nat → Bool) (g : Globals) :
    wp (CallList.CLCC.request t : Handler Globals Empty Unit)
        (fun _ w => CallList.CLCC.Reported t (answers 0) w.log) (fun _ _ => False) (.start answers allocates g) ↔
      ∀ lines, linesOf (ascii "+CLCC:") (answers 0) = some lines →
        (validCalls callFromCLCCLine .zero lines .zero 0).1 =
          lines.filterMap (ownCall callFromCLCCLine .zero) := by
  refine (wp_currentCalls fun lines log =>
    log = [.at_send_command (ascii "AT+CLCC"), .RIL_onRequestComplete t .SUCCESS
      (CallList.CLCC.entries lines)]).trans (forall₂_congr fun lines _ => ?_)
  rw [← List.map_inj_right row_injective]
  simp [CallList.entries]

/-- **The entries of a call list do not leak into each other** exactly if no number of a refused line is left over for
a line that has none; in AT+CLCCS they never do. -/
theorem entriesOwn_iff (l : CallList) (t : RIL_Token) (answers : Nat → Answer) (allocates : Nat → Bool) (g : Globals) :
    wp (l.request t : Handler Globals Empty Unit) (fun _ w => l.Reported t (answers 0) w.log) (fun _ _ => False)
        (.start answers allocates g) ↔
      ∀ lines, linesOf l.responsePrefix (answers 0) = some lines → l.NoneLeft lines := by
  cases l with
  | CLCC =>
    have hzero : Carried false .zero := ⟨rfl, by simp, fun _ => ⟨rfl, rfl⟩⟩
    refine (wp_requestGetCurrentCalls t answers allocates g).trans (forall₂_congr fun lines _ => ?_)
    exact validCalls_own_iff lines hzero 0
  | CLCCS =>
    refine (wp_currentCalls fun lines log =>
      log = [.at_send_command CallList.CLCCS.command, .RIL_onRequestComplete t .SUCCESS
        (CallList.CLCCS.entries lines)]).trans (forall₂_congr fun lines _ => ?_)
    refine iff_of_true ?_ trivial
    rw [validCalls_ownVoLTE lines rfl 0]
    rfl

/-- The number of a line without a type of address is reported for the call in the next line. -/
theorem entriesOwn_fails_number :
    ¬ wp (CallList.CLCC.request none : Handler Globals Empty Unit)
        (fun _ w => CallList.CLCC.Reported none
          (.response (ascii "OK") [ascii "+CLCC: 1,0,0,0,0,\"123\"", ascii "+CLCC: 2,0,1,0,0"]) w.log)
        (fun _ _ => False)
        (.start (fun _ => .response (ascii "OK") [ascii "+CLCC: 1,0,0,0,0,\"123\"", ascii "+CLCC: 2,0,1,0,0"])
          (fun _ => true) Requests.idleGlobals) := by
  intro h
  let answer := Answer.response (ascii "OK") [ascii "+CLCC: 1,0,0,0,0,\"123\"", ascii "+CLCC: 2,0,1,0,0"]
  have hlines := (wp_requestGetCurrentCalls none (fun _ => answer) (fun _ => true) Requests.idleGlobals).mp h
    [ascii "+CLCC: 1,0,0,0,0,\"123\"", ascii "+CLCC: 2,0,1,0,0"] (by decide)
  have hnumbers := congrArg (List.map RIL_Call.number) hlines
  revert hnumbers
  decide

end UniRil.Call.CurrentCalls
