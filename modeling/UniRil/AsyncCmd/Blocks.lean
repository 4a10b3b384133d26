import UniRil.AsyncCmd.Endings

/-!
# The data of a waiting request

applySetLTERadioCapability, requestSetLTEPreferredNetType and the lock of the FD facility register themselves with
addAsyncCmdList before they send their command. A block that goes along belongs to the entry from there on: whatever
ends the entry frees it. The retries of applySetLTERadioCapability do not know that.
-/

namespace UniRil.AsyncCmd

open Runs

variable {RC : Type}

/-! ## Blocks -/

inductive Contents (RC : Type)
  | radioCapability (rc : RC)
  | mode (mode : Int)
  deriving DecidableEq

/-- The blocks that `malloc` gave out. The first one is at 1, NULL is 0, and no address is given out again. -/
structure Heap (RC : Type) where
  blocks : List (Contents RC)
  frees : Nat → Nat
  /-- NULL was read, or a block was used after it was freed. -/
  misused : Bool

namespace Heap

def malloc (h : Heap RC) (contents : Contents RC) : Heap RC := { h with blocks := h.blocks ++ [contents] }

def read (h : Heap RC) : Nat → Option (Contents RC)
  | 0 => none
  | n + 1 => h.blocks[n]?

/-- The block may be read. -/
def live (h : Heap RC) (data : Nat) : Bool := (h.read data).isSome && h.frees data == 0

def load (h : Heap RC) (data : Nat) : Heap RC := if h.live data then h else { h with misused := true }

/-- NULL may be passed on. -/
def pass (h : Heap RC) (data : Nat) : Heap RC := if data = 0 then h else h.load data

def free (h : Heap RC) (data : Nat) : Heap RC :=
  if data = 0 then h else { h.load data with frees := Function.update h.frees data (h.frees data + 1) }

end Heap

/-! ## Requests -/

inductive Kind (RC : Type)
  | setLTERadioCapability (rc : RC)
  | setLTEPreferredNetType
  | setFacilityLock (mode : Int)
  deriving DecidableEq

/-- What the request writes into the block that it allocates. -/
def Kind.contents : Kind RC → Option (Contents RC)
  | .setLTERadioCapability rc => some (.radioCapability rc)
  | .setLTEPreferredNetType => none
  | .setFacilityLock mode => some (.mode mode)

/-- Where the string literals are. -/
structure Literals where
  setLTERadioCapability : Nat
  setLTEPreferredNetType : Nat
  setFacilityLock : Nat

def Kind.respCmd (literals : Literals) : Kind RC → ConstChar
  | .setLTERadioCapability _ => { addr := literals.setLTERadioCapability, chars := ascii "+SPTESTMODE:" }
  | .setLTEPreferredNetType => { addr := literals.setLTEPreferredNetType, chars := ascii "+SPTESTMODE:" }
  | .setFacilityLock _ => { addr := literals.setFacilityLock, chars := ascii "+CLCK:" }

/-- In seconds. -/
def Kind.timeout : Kind RC → Int
  | .setLTERadioCapability _ | .setLTEPreferredNetType => 120
  | .setFacilityLock _ => 10

def Kind.func : Kind RC → AsyncFunc
  | .setLTERadioCapability _ | .setLTEPreferredNetType => .dispatchSPTESTMODE
  | .setFacilityLock _ => .dispatchCLCK

def Kind.triesAgain : Kind RC → Bool
  | .setLTERadioCapability _ | .setLTEPreferredNetType => true
  | .setFacilityLock _ => false

inductive Statement
  | addAsyncCmdList
  | at_send_command
  /-- With the `goto again` after it, or not. -/
  | removeAsyncCmdList (again : Bool)
  | returned
  deriving DecidableEq

structure Request (RC : Type) where
  kind : Kind RC
  t : RIL_Token
  socket_id : RIL_SOCKET_ID
  data : Nat
  retryTimes : Nat
  statement : Statement

/-- What at_send_command gives: success, or a failure with the final response, if there is one. -/
inductive Answer
  | success
  | failure (finalResponse : Option (List Byte))
  deriving DecidableEq

def Request.answered (r : Request RC) : Answer → Request RC
  | .success => { r with statement := .returned }
  | .failure finalResponse =>
    if r.kind.triesAgain ∧ r.retryTimes < 3 ∧ finalResponse = some (ascii "+CME ERROR: 3") then
      { r with retryTimes := r.retryTimes + 1, statement := .removeAsyncCmdList true }
    else { r with statement := .removeAsyncCmdList false }

def Request.removed (r : Request RC) (again : Bool) : Request RC :=
  { r with statement := if again then .addAsyncCmdList else .returned }

/-- What a dispatcher was given. -/
structure Delivery (RC : Type) where
  func : AsyncFunc
  t : RIL_Token
  contents : Option (Contents RC)
  deriving DecidableEq

structure System (RC : Type) where
  list : State
  heap : Heap RC
  requests : List (Request RC)
  deliveries : List (Delivery RC)

def System.init : System RC where
  list := .init
  heap := { blocks := [], frees := fun _ => 0, misused := false }
  requests := []
  deliveries := []

/-! ## What ends an entry -/

/-- dispatchCLCK reads the mode, dispatchSPTESTMODE passes the capability on. -/
def System.dispatch (s : System RC) (func : AsyncFunc) (t : RIL_Token) (data : Nat) : System RC :=
  { s with
    heap := match func with
      | .dispatchCLCK => s.heap.load data
      | .dispatchSPTESTMODE => s.heap.pass data
    deliveries := s.deliveries ++ [{ func, t, contents := s.heap.read data }] }

def System.free (s : System RC) (data : Nat) : System RC := { s with heap := s.heap.free data }

def System.ends (s : System RC) (e : Ended) : System RC :=
  match e.ending with
  | .onRequestComplete (some func) data _ => (s.dispatch func e.token data).free data
  | .onRequestComplete none data _ => s.free data
  | .userTimerCallback _ => s.free (s.list.infos e.p_info).data
  | .removeAsyncCmdList => s.free (s.list.infos e.p_info).data

/-- After a step of the lists. -/
def System.after (s : System RC) (list : State) : System RC :=
  (list.log.drop s.list.log.length).foldl System.ends { s with list }

/-! ## Steps -/

inductive Label (RC : Type)
  | request (kind : Kind RC) (t : RIL_Token) (socket_id : RIL_SOCKET_ID)
  /-- The request goes on; the answer is that of at_send_command. -/
  | runs (i : Nat) (answer : Answer)
  | checkAndCompleteRequest (socket_id : RIL_SOCKET_ID) (cmd : List Byte) (resp : Nat)
  | tick (d : Nat)
  | select (ret : Select)
  | handler

def System.enters (s : System RC) (r : Request RC) : System RC := { s with requests := s.requests ++ [r] }

/-- A request allocates and writes its block. -/
def System.starts (s : System RC) (kind : Kind RC) (t : RIL_Token) (socket_id : RIL_SOCKET_ID) : System RC :=
  match kind.contents with
  | none => s.enters { kind, t, socket_id, data := 0, retryTimes := 0, statement := .addAsyncCmdList }
  | some contents =>
    { s with heap := s.heap.malloc contents }.enters
      { kind, t, socket_id, data := s.heap.blocks.length + 1, retryTimes := 0, statement := .addAsyncCmdList }

def System.set (s : System RC) (i : Nat) (r : Request RC) : System RC := { s with requests := s.requests.set i r }

def System.adds (s : System RC) (literals : Literals) (r : Request RC) : System RC :=
  { s with
    list := ((addAsyncCmdList r.socket_id r.t (r.kind.respCmd literals) r.data r.kind.timeout).run s.list).2
    heap := s.heap.pass r.data }

def System.runs (literals : Literals) (s : System RC) (i : Nat) (answer : Answer) : Option (System RC) := do
  let r ← s.requests[i]?
  match r.statement with
  | .addAsyncCmdList => some ((s.adds literals r).set i { r with statement := .at_send_command })
  | .at_send_command => some (s.set i (r.answered answer))
  | .removeAsyncCmdList again =>
    some ((s.after ((removeAsyncCmdList r.t (r.kind.respCmd literals)).run s.list).2).set i (r.removed again))
  | .returned => none

def System.step (literals : Literals) (s : System RC) : Label RC → Option (System RC)
  | .request kind t socket_id => some (s.starts kind t socket_id)
  | .runs i answer => s.runs literals i answer
  | .checkAndCompleteRequest socket_id cmd resp =>
    (AsyncCmd.step s.list (.checkAndCompleteRequest socket_id cmd resp)).map s.after
  | .tick d => (AsyncCmd.step s.list (.tick d)).map s.after
  | .select ret => (AsyncCmd.step s.list (.select ret)).map s.after
  | .handler => (AsyncCmd.step s.list .handler).map s.after

end UniRil.AsyncCmd
