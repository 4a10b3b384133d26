import UniRil.AtTok
import UniRil.Lib.FailRules

/-!
# The lines of AT+CLCC and AT+CLCCS (ril_call.c)

A line fills the record it is given field by field. Where it breaks off the record keeps what was stored, and the next
line is read into the same record.
-/

namespace UniRil.Call.CurrentCalls

open AtTok (Line)

/-! ## One line -/

/-- `line`, `p_call` and `s_maybeAddCall`. -/
structure Scan (κ : Type) where
  line : Option Line
  p_call : κ
  s_maybeAddCall : Int

/-- The failure is the jump to `error`. -/
abbrev Scanner (κ : Type) := ExceptT Unit (StateM (Scan κ))

variable {κ : Type}

def orError (ok : Bool) : Scanner κ Unit := if ok then pure () else throw ()

def nextint (store : Int → κ → κ) : Scanner κ Bool := do
  let s ← get
  let tok := AtTok.at_tok_nextint s.line
  set { s with line := tok.p_cur, p_call := tok.p_out.elim s.p_call fun n => store n s.p_call }
  pure tok.ok

def nextbool (store : Int → κ → κ) : Scanner κ Bool := do
  let s ← get
  let tok := AtTok.at_tok_nextint s.line
  -- booleans should be 0 or 1
  let ok := tok.ok && (tok.p_out == some 0 || tok.p_out == some 1)
  set { s with line := tok.p_cur, p_call := if ok then store (tok.p_out.getD 0) s.p_call else s.p_call }
  pure ok

def nextstr (store : Line → κ → κ) : Scanner κ Bool := do
  let s ← get
  let tok := AtTok.at_tok_nextstr s.line
  set { s with line := tok.p_cur, p_call := tok.p_out.elim s.p_call fun text => store text s.p_call }
  pure tok.ok

/-- The integer is stored, and another value over it if none could be read. -/
def nextintOr (default : Int) (store : Int → κ → κ) : Scanner κ Unit := do
  if !(← nextint store) then
    modify fun s => { s with p_call := store default s.p_call }

def start : Scanner κ Unit := do
  let s ← get
  let line := AtTok.at_tok_start s.line
  orError line.isSome
  set { s with line }

def hasmore : Scanner κ Bool := do
  let s ← get
  pure (AtTok.at_tok_hasmore s.line)

/-! ## +CLCC -/

def HOLDING : Int := 1
def DIALING : Int := 2
def ALERTING : Int := 3
def INCOMING : Int := 4
def WAITING : Int := 5

structure RIL_Call where
  state : Int
  index : Int
  toa : Int
  isMpty : Int
  isMT : Int
  isVoice : Int
  number : Option Line
  numberPresentation : Int

/-- What `memset` leaves. -/
def RIL_Call.zero : RIL_Call where
  state := 0
  index := 0
  toa := 0
  isMpty := 0
  isMT := 0
  isVoice := 0
  number := none
  numberPresentation := 0

def RIL_Call.row (c : RIL_Call) : List Int × List (Option Line) :=
  ([c.state, c.index, c.toa, c.isMpty, c.isMT, c.isVoice, c.numberPresentation], [c.number])

def clccStateToRILState (state : Int) : Option Int := if 0 ≤ state ∧ state ≤ 5 then some state else none

/-- `skipNextComma` for each comma that is left. -/
def skipCommas (line : Line) : Line := (line.reverse.takeWhile (· != 44)).reverse

def clccFields : Scanner RIL_Call Unit := do
  start
  orError (← nextint fun n c => { c with index := n })
  orError (← nextbool fun n c => { c with isMT := n })
  let s ← get
  let state := AtTok.at_tok_nextint s.line
  set { s with line := state.p_cur }
  orError state.ok
  let p_state := clccStateToRILState (state.p_out.getD 0)
  modify fun s => { s with p_call := { s.p_call with state := p_state.getD s.p_call.state } }
  -- the test comes before the one whether there was a state
  modify fun s =>
    if s.p_call.state = HOLDING ∨ s.p_call.state = WAITING then { s with s_maybeAddCall := 1 } else s
  orError p_state.isSome
  let s ← get
  let mode := AtTok.at_tok_nextint s.line
  set { s with line := mode.p_cur }
  orError mode.ok
  modify fun s => { s with p_call := { s.p_call with isVoice := if mode.p_out = some 0 then 1 else 0 } }
  let s ← get
  let isMpty := AtTok.at_tok_nextint s.line
  set { s with line := isMpty.p_cur }
  orError isMpty.ok
  -- a `char`
  modify fun s => { s with p_call := { s.p_call with isMpty := isMpty.p_out.getD 0 % 256 } }
  if ← hasmore then
    let _ ← nextstr fun text c => { c with number := some text }
    orError (← nextint fun n c => { c with toa := n })
    if ← hasmore then
      modify fun s => { s with line := s.line.map skipCommas }
      orError (← nextint fun n c => { c with numberPresentation := n })

/-- Whether the line is valid, the record it leaves, and `s_maybeAddCall`. -/
def callFromCLCCLine (line : Line) (p_call : RIL_Call) (s_maybeAddCall : Int) : Bool × RIL_Call × Int :=
  let (r, s) := clccFields { line := some line, p_call, s_maybeAddCall }
  (r.isOk, s.p_call, s.s_maybeAddCall)

/-! ## +CLCCS -/

structure RIL_Call_VoLTE where
  index : Int
  isMT : Int
  negStatusPresent : Int
  negStatus : Int
  mediaDescription : Option Line
  csMode : Int
  state : Int
  mpty : Int
  numberType : Int
  toa : Int
  number : Option Line
  prioritypresent : Int
  priority : Int
  CliValidityPresent : Int
  numberPresentation : Int

def RIL_Call_VoLTE.zero : RIL_Call_VoLTE where
  index := 0
  isMT := 0
  negStatusPresent := 0
  negStatus := 0
  mediaDescription := none
  csMode := 0
  state := 0
  mpty := 0
  numberType := 0
  toa := 0
  number := none
  prioritypresent := 0
  priority := 0
  CliValidityPresent := 0
  numberPresentation := 0

def RIL_Call_VoLTE.row (c : RIL_Call_VoLTE) : List Int × List (Option Line) :=
  ([c.index, c.isMT, c.negStatusPresent, c.negStatus, c.csMode, c.state, c.mpty, c.numberType, c.toa,
    c.prioritypresent, c.priority, c.CliValidityPresent, c.numberPresentation], [c.mediaDescription, c.number])

def voLTEStateToRILState (state : Int) : Option Int :=
  if state ∈ [2, 3, 11] then some DIALING
  else if state = 4 then some ALERTING
  else if state = 5 then some INCOMING
  else if state = 6 then some 0
  else if state = 12 then some WAITING
  else if state ∈ [13, 14] then some HOLDING
  else none

/-- `strstr` finds the text. -/
def strstr : Line → Line → Bool
  | [], sub => sub.isEmpty
  | c :: s, sub => sub.isPrefixOf (c :: s) || strstr s sub

def clccsFields : Scanner RIL_Call_VoLTE Unit := do
  start
  orError (← nextint fun n c => { c with index := n })
  orError (← nextbool fun n c => { c with isMT := n })
  nextintOr 0 fun n c => { c with negStatusPresent := n }
  nextintOr 0 fun n c => { c with negStatus := n }
  if !(← nextstr fun text c => { c with mediaDescription := some text }) then
    modify fun s => { s with p_call := { s.p_call with mediaDescription := some (ascii " ") } }
  nextintOr 0 fun n c => { c with csMode := n }
  let s ← get
  let state := AtTok.at_tok_nextint s.line
  set { s with line := state.p_cur }
  orError state.ok
  let p_state := voLTEStateToRILState (state.p_out.getD 0)
  modify fun s => { s with p_call := { s.p_call with state := p_state.getD s.p_call.state } }
  modify fun s =>
    if s.p_call.state = HOLDING ∨ s.p_call.state = WAITING then { s with s_maybeAddCall := 1 } else s
  orError p_state.isSome
  nextintOr 0 fun n c => { c with mpty := n }
  nextintOr 2 fun n c => { c with numberType := n }
  nextintOr 128 fun n c => { c with toa := n }
  if ← hasmore then
    let _ ← nextstr fun text c =>
      { c with number := some (if strstr text (ascii "anonymous@anonymous.invalid") then [] else text) }
  nextintOr 0 fun n c => { c with prioritypresent := n }
  nextintOr 0 fun n c => { c with priority := n }
  nextintOr 0 fun n c => { c with CliValidityPresent := n }
  nextintOr 0 fun n c => { c with numberPresentation := n }
  if ← hasmore then
    let _ ← nextint fun localHold c => if localHold = 0 then c else { c with state := HOLDING }

def callFromCLCCLineVoLTE (line : Line) (p_call : RIL_Call_VoLTE) (s_maybeAddCall : Int) :
    Bool × RIL_Call_VoLTE × Int :=
  let (r, s) := clccsFields { line := some line, p_call, s_maybeAddCall }
  (r.isOk, s.p_call, s.s_maybeAddCall)

/-! ## All lines -/

/-- The valid calls and `s_maybeAddCall`. A record that was not counted is used again. -/
def validCalls (fromLine : Line → κ → Int → Bool × κ × Int) (zero : κ) : List Line → κ → Int → List κ × Int
  | [], _, s_maybeAddCall => ([], s_maybeAddCall)
  | line :: lines, p_call, s_maybeAddCall =>
    let (ok, call, s_maybeAddCall) := fromLine line p_call s_maybeAddCall
    if ok then
      let (calls, s_maybeAddCall) := validCalls fromLine zero lines zero s_maybeAddCall
      (call :: calls, s_maybeAddCall)
    else
      validCalls fromLine zero lines call s_maybeAddCall

example :
    (callFromCLCCLine (ascii "+CLCC: 1,0,2,0,0,\"+18005551212\",145") .zero 0).2.1.number =
      some (ascii "+18005551212") := by
  decide

end UniRil.Call.CurrentCalls
