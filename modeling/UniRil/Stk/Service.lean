import UniRil.Sim.Slot
import UniRil.Stk.Client

/-!
# The STK service (ril_stk.c)

The framework is told of proactive commands once it has reported that its STK service runs. Until then one
command is kept for it.
-/

namespace UniRil.Stk

open AtTok
open Sim (SimPresentState)

/-- What the framework is told, and the callbacks that are asked for. -/
inductive Notice
  | STK_SESSION_END
  | STK_PROACTIVE_COMMAND (response : Line)
  | STK_EVENT_NOTIFY (response : Line)
  | STK_CC_ALPHA_NOTIFY (alpha_data : Line)
  | SIM_REFRESH (result ef_id : Int)
  | SIMMGR_SIM_STATUS_CHANGED
  | RESPONSE_SIM_STATUS_CHANGED
  | initIsimCard
  | onSimAbsent
  | onSimPresent
  | onSimlockLocked
  deriving DecidableEq

/-- The globals of one SIM. -/
structure Service where
  s_stkServiceRunning : Bool
  /-- The block of the command that is kept. -/
  s_stkUnsolResponse : Option Line
  s_isSimPresent : SimPresentState
  s_imsInitISIM : Int
  /-- The commands that a BIP thread was started with. -/
  clients : List Line
  notices : List Notice

def Service.tell (g : Service) (n : Notice) : Service := { g with notices := g.notices ++ [n] }

/-- `s_stkServiceRunning[socket_id] = false` -/
def Service.stop (g : Service) : Service := { g with s_stkServiceRunning := false }

/-- `s_stkUnsolResponse[socket_id] = response` -/
def Service.keep (g : Service) (response : Option Line) : Service := { g with s_stkUnsolResponse := response }

/-- The session of the ISIM has to be started again. -/
def Service.resetIsim (g : Service) : Service := { g with s_imsInitISIM := -1 }

/-- Before the first line. -/
def Service.init : Service where
  s_stkServiceRunning := false
  s_stkUnsolResponse := none
  s_isSimPresent := .SIM_UNKNOWN
  s_imsInitISIM := -1
  clients := []
  notices := []

/-- A value that was read, and the text behind it. -/
def took {α : Type} (t : Tok α) : Option (α × Option Line) := t.value.map fun a => (a, t.p_cur)

def REFRESH : Nat := 0x01

/-! ## Lines of the card -/

/-- `strncasecmp` of as many cells as `text` has digits. -/
def digitsAt (response : Line) (beyond : Mem) (i : Nat) (text : Line) : Bool :=
  (List.range text.length).map (fun k => cellAt response beyond (i + k)) = text

/-- What the framework is told at once when it can be, and what is kept for it otherwise. -/
def giveOrKeep (response : Line) (g : Service) : Service :=
  let g := if g.s_isSimPresent = .ABSENT ∧ g.s_stkServiceRunning then g.stop else g
  if g.s_stkServiceRunning = false then g.keep (some response) else g.tell (.STK_PROACTIVE_COMMAND response)

/-- The types that a thread is started for. -/
def isBip (cmdType : Nat) : Bool := cmdType ∈ [OPEN_CHANNEL, CLOSE_CHANNEL, RECEIVE_DATA, SEND_DATA, GET_CHANNEL_STATUS]

/-- A REFRESH that resets the card, by its qualifier. -/
def isSimReset (response : Line) (beyond : Mem) : Bool :=
  cmdTypeOf response beyond = REFRESH && digitsAt response beyond (typePos response beyond + 2) (ascii "04")

def onProCmd (response : Line) (beyond : Mem) (g : Service) : Service :=
  let cmdType := cmdTypeOf response beyond
  let g := if cmdType = CLOSE_CHANNEL then g.tell (.STK_PROACTIVE_COMMAND response) else g
  if isBip cmdType then { g with clients := g.clients ++ [response] }
  else if isSimReset response beyond then g.stop.tell (.STK_PROACTIVE_COMMAND response)
  else giveOrKeep response g

/-- The first string of a line. -/
def firstText (s : Line) : Option Line := (at_tok_nextstr (at_tok_start (some s))).value

def SIM_INIT : Int := 1
def SIM_RESET : Int := 2

/-- An ISIM application is meant where the AID goes on so. -/
def onRefresh (s : Line) (beyond : Mem) (g : Service) : Option Service := do
  let (result, cur) ← took (at_tok_nextint (at_tok_start (some s)))
  let (ef_id, cur) ← took (at_tok_nextint cur)
  let aid ← (at_tok_nextstr (skipNextComma cur)).value
  let g := if result = SIM_RESET ∨ result = SIM_INIT then g.resetIsim.stop else g
  let g := if aid ≠ [] ∧ digitsAt aid beyond 10 (ascii "1004") then g.resetIsim.tell .initIsimCard else g
  pure (g.tell (.SIM_REFRESH result ef_id))

/-- The text of a call that the card has changed; all of the numbers around it have to be there. -/
def callCtrl (s : Line) : Option Line := do
  let (_, cur) ← took (at_tok_nextint (at_tok_start (some s)))
  let (_, cur) ← took (at_tok_nextint cur)
  let (_, cur) ← took (at_tok_nextint cur)
  let (alpha_len, cur) ← took (at_tok_nextint cur)
  guard (alpha_len ≠ 0)
  let (alpha_data, cur) ← took (at_tok_nextstr cur)
  guard (alpha_data ≠ [])
  let (_, cur) ← took (at_tok_nextint cur)
  let (_, cur) ← took (at_tok_nextint cur)
  let (_, cur) ← took (at_tok_nextint cur)
  let (_, cur) ← took (at_tok_nextint cur)
  let _ ← took (at_tok_nextstr cur)
  pure alpha_data

/-- The globals when a line is taken; a line that can not be read leaves them alone. -/
def processStkUnsolicited (s : Line) (beyond : Mem) (g : Service) : Service :=
  if strStartsWith s (ascii "+SPUSATENDSESSIONIND") then g.tell .STK_SESSION_END
  else if strStartsWith s (ascii "+SPUSATPROCMDIND:") then
    (firstText s).elim g fun response => onProCmd response beyond g
  else if strStartsWith s (ascii "+SPUSATDISPLAY:") then
    (firstText s).elim g fun response => g.tell (.STK_EVENT_NOTIFY response)
  else if strStartsWith s (ascii "+SPUSATSETUPCALL:") then
    (firstText s).elim g fun response => g.tell (.STK_PROACTIVE_COMMAND response)
  else if strStartsWith s (ascii "+SPUSATREFRESH:") then (onRefresh s beyond g).getD g
  else if strStartsWith s (ascii "+SPUSATCALLCTRL:") then
    (callCtrl s).elim g fun alpha_data => g.tell (.STK_CC_ALPHA_NOTIFY alpha_data)
  else g

/-! ## The state of the card (ril_sim.c) -/

/-- The causes of a card that can not be used: the service does not run without it. -/
def onSimFault (cause : Int) (g : Service) : Service :=
  if cause = 2 ∨ cause = 34 then ((g.tell .SIMMGR_SIM_STATUS_CHANGED).tell .onSimAbsent).stop
  else if cause = 25 then (g.tell .SIMMGR_SIM_STATUS_CHANGED).tell .RESPONSE_SIM_STATUS_CHANGED
  else if cause = 1 ∨ cause = 7 then ((g.tell .RESPONSE_SIM_STATUS_CHANGED).tell .SIMMGR_SIM_STATUS_CHANGED).stop
  else g

/-- `cause` is read where more of the line is there: `none` leaves the function. -/
def simCause (cur : Option Line) : Option (Option Int) :=
  if at_tok_hasmore cur then (at_tok_nextint cur).value.map some else some none

def onSimStatusChanged (s : Line) (g : Service) : Service :=
  match took (at_tok_nextint (at_tok_start (some s))) with
  | some (3, cur) =>
    if at_tok_hasmore cur then
      match took (at_tok_nextint cur) with
      | none => g
      | some (value, cur) =>
        if value = 1 then (simCause cur).elim g fun cause => cause.elim g fun cause => onSimFault cause g
        else if value = 100 then (g.tell .RESPONSE_SIM_STATUS_CHANGED).tell .SIMMGR_SIM_STATUS_CHANGED
        else if value = 4 then (g.tell .RESPONSE_SIM_STATUS_CHANGED).tell .onSimlockLocked
        else if value = 0 ∨ value = 2 then
          (simCause cur).elim g fun cause =>
            (if cause = some 0 then g.resetIsim else g).tell .onSimPresent
        else g
    else g
  | _ => g

/-! ## The framework and the modem -/

/-- What REPORT_STK_SERVICE_IS_RUNNING does before its answer. -/
def serviceIsRunning (g : Service) : Service :=
  let g := { g with s_stkServiceRunning := true }
  match g.s_stkUnsolResponse with
  | none => g
  | some response => (g.tell (.STK_PROACTIVE_COMMAND response)).keep none

/-- The globals above that `onModemReset_Stk` sets. -/
def resetService (g : Service) : Service := g.stop.keep none

def setSimPresent (hasSim : SimPresentState) (g : Service) : Service := { g with s_isSimPresent := hasSim }

end UniRil.Stk
