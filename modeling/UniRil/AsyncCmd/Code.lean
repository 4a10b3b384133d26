import UniRil.CString
import UniRil.Lib.Ring

/-!
# Requests that wait for a URC (ril_async_cmd_handler.c)

Each waiting request is a `UserCallbackInfo` with its `ril_event` embedded. A critical section of
s_listMutex is one step; the handler thread also looks at the lists without the mutex, in steps of
its own. Addresses that `malloc` gives out are not used again.
-/

namespace UniRil.AsyncCmd

abbrev RIL_SOCKET_ID := Nat
abbrev RIL_Token := Nat

/-- A `const char *`: where it points to and the string that is there. -/
structure ConstChar where
  addr : Nat
  chars : List Byte
  deriving DecidableEq

/-- A `ril_event *`; the last is the event inside a `UserCallbackInfo`. -/
inductive EventPtr
  | null
  | s_timerList
  | s_pendingList
  | s_wakeupEvent
  | event (p_info : Nat)
  deriving DecidableEq

inductive RilEventCb
  | userTimerCallback
  | processWakeupCallback
  deriving DecidableEq

/-- Times are in microseconds. -/
structure RilEvent where
  next : EventPtr
  prev : EventPtr
  fd : Int
  timeout : Nat
  func : Option RilEventCb
  param : Option Nat
  deriving DecidableEq

/-- The members beside the event. -/
structure UserCallbackInfo where
  data : Nat
  cmd : ConstChar
  token : RIL_Token
  socket_id : RIL_SOCKET_ID
  deriving DecidableEq

inductive AsyncFunc
  | dispatchCLCK
  | dispatchSPTESTMODE
  deriving DecidableEq

def s_asyncCmdTable : List (List Byte × AsyncFunc) :=
  [(ascii "+CLCK:", .dispatchCLCK), (ascii "+SPTESTMODE:", .dispatchSPTESTMODE)]

/-! ## State -/

/-- What ended the wait of an entry. -/
inductive Ending
  /-- A URC; the function of the table is called with this response. -/
  | onRequestComplete (func : Option AsyncFunc) (data resp : Nat)
  /-- The request fails; the radio power mutexes are released before, or not. -/
  | userTimerCallback (unlocked : Bool)
  | removeAsyncCmdList
  deriving DecidableEq

structure Ended where
  p_info : Nat
  token : RIL_Token
  ending : Ending
  deriving DecidableEq

/-- The next statement of the handler thread. -/
inductive Handler
  | calcNextTimeout
  | timercmp (tev : EventPtr) (now : Nat)
  | timersub (tev : EventPtr) (now : Nat)
  | select (ptv : Option Nat)
  | processTimeouts (wakeup : Bool)
  | addWakeup (wakeup : Bool)
  | firePending
  | loop (ev : EventPtr)
  | remove (ev next : EventPtr)
  | call (ev next : EventPtr)
  | returned
  deriving DecidableEq

structure State where
  events : EventPtr → RilEvent
  infos : Nat → UserCallbackInfo
  /-- The next address that `malloc` gives out. -/
  fresh : Nat
  freed : Nat → Bool
  /-- NULL or an entry that was freed has been read or written. -/
  fault : Bool
  now : Nat
  /-- The bytes in the wakeup pipe. -/
  pipe : Nat
  handler : Handler
  log : List Ended

/-! ## Memory -/

def State.live (s : State) : EventPtr → Bool
  | .null => false
  | .s_timerList | .s_pendingList | .s_wakeupEvent => true
  | .event p_info => p_info < s.fresh && !s.freed p_info

def State.touch (s : State) (ev : EventPtr) : State := if s.live ev then s else { s with fault := true }

def load (ev : EventPtr) : StateM State RilEvent := fun s => (s.events ev, s.touch ev)

def store (ev : EventPtr) (f : RilEvent → RilEvent) : StateM State Unit := fun s =>
  ((), { s.touch ev with events := Function.update s.events ev (f (s.events ev)) })

/-- The entry that `param` points to. -/
def loadInfo (param : Option Nat) : StateM State UserCallbackInfo := fun s =>
  match param with
  | none => (s.infos 0, s.touch .null)
  | some p_info => (s.infos p_info, s.touch (.event p_info))

/-- `free(p_info)`, after the wait was ended. -/
def free (param : Option Nat) (token : RIL_Token) (ending : Ending) : StateM State Unit := fun s =>
  match param with
  | none => ((), s)
  | some p_info =>
    ((), { s.touch (.event p_info) with
      freed := Function.update s.freed p_info true
      log := s.log ++ [{ p_info := p_info, token := token, ending := ending }] })

/-! ## Lists -/

def addToList (ev list : EventPtr) : StateM State Unit := do
  if ev ≠ .null ∧ list ≠ .null then
    store ev fun e => { e with next := list }
    let l ← load list
    store ev fun e => { e with prev := l.prev }
    let e ← load ev
    store e.prev fun p => { p with next := ev }
    store list fun l => { l with prev := ev }

def removeFromList (ev : EventPtr) : StateM State Unit := do
  if ev ≠ .null then
    let e ← load ev
    store e.next fun n => { n with prev := e.prev }
    let e ← load ev
    store e.prev fun p => { p with next := e.next }
    store ev fun e => { e with next := .null }
    store ev fun e => { e with prev := .null }

/-! ## Entries -/

/-- The first event that is not before `timeout`; there are at most `fuel` to look at. -/
def findLater (timeout : Nat) : Nat → EventPtr → StateM State EventPtr
  | 0, list => pure list
  | fuel + 1, list => do
    let l ← load list
    if l.timeout < timeout ∧ list ≠ .s_timerList then findLater timeout fuel l.next else pure list

def addRilEvent (ev : EventPtr) (tv : Nat) : StateM State Unit := do
  let head ← load .s_timerList
  store ev fun e => { e with fd := -1 }
  let s ← get
  store ev fun e => { e with timeout := s.now + tv }
  let list ← findLater (s.now + tv) (s.fresh + 1) head.next
  addToList ev list

def triggerEvLoop : StateM State Unit := modify fun s => { s with pipe := s.pipe + 1 }

/-- `malloc` and `setRilEvent`. -/
def newEntry (p_info : UserCallbackInfo) : StateM State Nat := fun s =>
  (s.fresh, { s with
    fresh := s.fresh + 1
    infos := Function.update s.infos s.fresh p_info
    events := Function.update s.events (.event s.fresh)
      { next := .null, prev := .null, fd := -1, timeout := 0, func := some .userTimerCallback, param := some s.fresh } })

def addAsyncCmdList (socket_id : RIL_SOCKET_ID) (t : RIL_Token) (cmd : ConstChar) (data : Nat) (timeout : Int) :
    StateM State Unit := do
  let p_info ← newEntry { token := t, socket_id := socket_id, data := data, cmd := cmd }
  addRilEvent (.event p_info) (if timeout ≤ 0 then 0 else timeout.toNat * 1000000)
  triggerEvLoop

def removeLoop (t : RIL_Token) (cmd : ConstChar) : Nat → EventPtr → StateM State Unit
  | 0, _ => pure ()
  | fuel + 1, tev => do
    if tev ≠ .s_timerList then
      let e ← load tev
      let p_info ← loadInfo e.param
      if p_info.token = t ∧ p_info.cmd.addr = cmd.addr then
        removeFromList tev
        free e.param p_info.token .removeAsyncCmdList
      else removeLoop t cmd fuel e.next

def removeAsyncCmdList (t : RIL_Token) (cmd : ConstChar) : StateM State Unit := do
  let head ← load .s_timerList
  let s ← get
  removeLoop t cmd (s.fresh + 1) head.next

def tolower (c : Byte) : Byte := if 65 ≤ c ∧ c ≤ 90 then c + 32 else c

/-- `strncasecmp` finds no difference. -/
def strncaseeq (s1 s2 : List Byte) (n : Nat) : Bool :=
  ((s1 ++ [NUL]).take n).map tolower == ((s2 ++ [NUL]).take n).map tolower

def onRequestComplete (ev : EventPtr) (resp : Nat) : StateM State Unit := do
  let e ← load ev
  let p_info ← loadInfo e.param
  let p_cmdInfo := s_asyncCmdTable.find? fun c => strncaseeq c.1 p_info.cmd.chars c.1.length
  free e.param p_info.token (.onRequestComplete (p_cmdInfo.map (·.2)) p_info.data resp)

/-- The test of checkAndCompleteRequest. -/
def UserCallbackInfo.awaits (p_info : UserCallbackInfo) (socket_id : RIL_SOCKET_ID) (cmd : List Byte) : Prop :=
  p_info.socket_id = socket_id ∧ p_info.cmd.chars = cmd

instance (p_info : UserCallbackInfo) (socket_id : RIL_SOCKET_ID) (cmd : List Byte) :
    Decidable (p_info.awaits socket_id cmd) := inferInstanceAs (Decidable (_ ∧ _))

def checkLoop (socket_id : RIL_SOCKET_ID) (cmd : List Byte) (resp : Nat) : Nat → EventPtr → StateM State Unit
  | 0, _ => pure ()
  | fuel + 1, tev => do
    if tev ≠ .s_timerList then
      let e ← load tev
      let p_info ← loadInfo e.param
      if p_info.awaits socket_id cmd then
        onRequestComplete tev resp
        removeFromList tev
      else checkLoop socket_id cmd resp fuel e.next

def checkAndCompleteRequest (socket_id : RIL_SOCKET_ID) (cmd : List Byte) (resp : Nat) : StateM State Unit := do
  let head ← load .s_timerList
  let s ← get
  checkLoop socket_id cmd resp (s.fresh + 1) head.next

/-! ## The handler thread -/

def timeoutsLoop (now : Nat) : Nat → EventPtr → StateM State Unit
  | 0, _ => pure ()
  | fuel + 1, tev => do
    if tev ≠ .s_timerList then
      let e ← load tev
      if now > e.timeout then
        removeFromList tev
        addToList tev .s_pendingList
        timeoutsLoop now fuel e.next

def processTimeouts : StateM State Unit := do
  let head ← load .s_timerList
  let s ← get
  timeoutsLoop s.now (s.fresh + 1) head.next

def userTimerCallback (param : Option Nat) : StateM State Unit := do
  let p_info ← loadInfo param
  free param p_info.token (.userTimerCallback (p_info.cmd.chars == ascii "+SPTESTMODE:"))

def processWakeupCallback : StateM State Unit := modify fun s => { s with pipe := 0 }

/-- `ev->func(ev->param)`. -/
def callFunc (ev : EventPtr) : StateM State Unit := do
  let e ← load ev
  match e.func with
  | some .userTimerCallback => userTimerCallback e.param
  | some .processWakeupCallback => processWakeupCallback
  | none => modify fun s => { s with fault := true }

def goto (h : Handler) : StateM State Unit := modify fun s => { s with handler := h }

/-- What `select` returns: EINTR, another error, or that the wakeup pipe is ready or not. -/
inductive Select
  | eintr
  | error
  | ready (wakeup : Bool)
  deriving DecidableEq

/-- A statement of asyncCmdHandlerLoop and of what it calls. -/
def handlerStep : Handler → StateM State Unit
  | .calcNextTimeout => do
    let head ← load .s_timerList
    let s ← get
    goto (if head.next = .s_timerList then .select none else .timercmp head.next s.now)
  | .timercmp tev now => do
    let e ← load tev
    goto (if e.timeout > now then .timersub tev now else .select (some 0))
  | .timersub tev now => do
    let e ← load tev
    goto (.select (some (e.timeout - now)))
  | .processTimeouts wakeup => do
    processTimeouts
    goto (.addWakeup wakeup)
  | .addWakeup wakeup => do
    if wakeup then addToList .s_wakeupEvent .s_pendingList
    goto .firePending
  | .firePending => do
    let list ← load .s_pendingList
    goto (.loop list.next)
  | .loop ev => do
    if ev ≠ .s_pendingList then
      let e ← load ev
      goto (.remove ev e.next)
    else goto .calcNextTimeout
  | .remove ev next => do
    removeFromList ev
    goto (.call ev next)
  | .call ev next => do
    callFunc ev
    goto (.loop next)
  | .select _ | .returned => pure ()

/-! ## Steps -/

inductive Step
  | addAsyncCmdList (socket_id : RIL_SOCKET_ID) (t : RIL_Token) (cmd : ConstChar) (data : Nat) (timeout : Int)
  | removeAsyncCmdList (t : RIL_Token) (cmd : ConstChar)
  | checkAndCompleteRequest (socket_id : RIL_SOCKET_ID) (cmd : List Byte) (resp : Nat)
  /-- Time passes. -/
  | tick (d : Nat)
  /-- `select` returns. -/
  | select (ret : Select)
  /-- The handler thread goes on. -/
  | handler
  deriving DecidableEq

/-- `select` blocks without a time-out until the pipe is ready. -/
def selectStep (ret : Select) (ptv : Option Nat) (s : State) : Option State :=
  match ret with
  | .eintr => some { s with handler := .calcNextTimeout }
  | .error => some { s with handler := .returned }
  | .ready wakeup =>
    if wakeup = decide (0 < s.pipe) ∧ (wakeup ∨ ptv.isSome) then some { s with handler := .processTimeouts wakeup } else none

def step (s : State) : Step → Option State
  | .addAsyncCmdList socket_id t cmd data timeout => some ((addAsyncCmdList socket_id t cmd data timeout).run s).2
  | .removeAsyncCmdList t cmd => some ((removeAsyncCmdList t cmd).run s).2
  | .checkAndCompleteRequest socket_id cmd resp => some ((checkAndCompleteRequest socket_id cmd resp).run s).2
  | .tick d => some { s with now := s.now + d }
  | .select ret =>
    match s.handler with
    | .select ptv => selectStep ret ptv s
    | _ => none
  | .handler =>
    match s.handler with
    | .select _ | .returned => none
    | h => some ((handlerStep h).run s).2

/-- `initList`. -/
def initList (list : EventPtr) : RilEvent :=
  { next := list, prev := list, fd := -1, timeout := 0, func := none, param := none }

/-- After startAsyncCmdHandlerLoop has set up the lists. -/
def State.init : State where
  events := fun ev =>
    match ev with
    | .s_wakeupEvent =>
      { next := .null, prev := .null, fd := 0, timeout := 0, func := some .processWakeupCallback, param := none }
    | ev => initList ev
  infos := fun _ => { data := 0, cmd := { addr := 0, chars := [] }, token := 0, socket_id := 0 }
  fresh := 0
  freed := fun _ => false
  fault := false
  now := 0
  pipe := 1
  handler := .calcNextTimeout
  log := []

end UniRil.AsyncCmd
