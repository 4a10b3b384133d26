import Mathlib.Data.Prod.Lex
import UniRil.Lib.Ring
import UniRil.Lib.Runs

/-!
# Timers of the event loop (ril_event.cpp)

A timer is a `ril_event` of its own in one of two rings. A critical section of listMutex is one step, and so
is one round of firePending, which works without the mutex; callbacks add timers between its rounds. The
addresses of timers are not used again.
-/

namespace UniRil.Libril.Timers

open Rings Runs

/-! ## Times -/

structure Timeval where
  tv_sec : Int
  tv_usec : Int
  deriving DecidableEq

def timercmp (a b : Timeval) (op : Int → Int → Bool) : Bool :=
  if a.tv_sec = b.tv_sec then op a.tv_usec b.tv_usec else op a.tv_sec b.tv_sec

def timeradd (tvp uvp : Timeval) : Timeval :=
  let sec := tvp.tv_sec + uvp.tv_sec
  let usec := tvp.tv_usec + uvp.tv_usec
  if 1000000 ≤ usec then { tv_sec := sec + 1, tv_usec := usec - 1000000 } else { tv_sec := sec, tv_usec := usec }

/-! ## Events -/

/-- A `ril_event *`. Timers are numbered in the order in which they are added. -/
inductive EventPtr
  | null
  | timer_list
  | pending_list
  | timer (n : Nat)
  /-- An event of the watch table. -/
  | watch (i : Nat)
  deriving DecidableEq

def addToList (ev list : EventPtr) (h : Links EventPtr) : Links EventPtr :=
  let h := { h with next := Function.update h.next ev list }
  let h := { h with prev := Function.update h.prev ev (h.prev list) }
  let h := { h with next := Function.update h.next (h.prev ev) ev }
  { h with prev := Function.update h.prev list ev }

def removeFromList (ev : EventPtr) (h : Links EventPtr) : Links EventPtr :=
  let h := { h with prev := Function.update h.prev (h.next ev) (h.prev ev) }
  let h := { h with next := Function.update h.next (h.prev ev) (h.next ev) }
  let h := { h with next := Function.update h.next ev .null }
  { h with prev := Function.update h.prev ev .null }

/-- Where the event loop is. -/
inductive Loop
  /-- In `select`, or before it. -/
  | select
  | processReadReadies
  /-- In firePending, with its variable `ev`. -/
  | firePending (ev : EventPtr)
  deriving DecidableEq

structure Fired where
  timer : Nat
  /-- The call of processTimeouts that collected it, and the clock it read. -/
  round : Nat
  now : Timeval
  deriving DecidableEq

structure State where
  links : Links EventPtr
  timeout : EventPtr → Timeval
  loop : Loop
  /-- How many timers were added. -/
  added : Nat
  /-- The timers that processTimeouts took out of timer_list. -/
  collected : List Nat
  /-- The timers whose callbacks were called. -/
  fired : List Fired
  /-- The calls of processTimeouts, the clock the last one read, and how many timers had been added by then. -/
  rounds : Nat
  now : Timeval
  addedBefore : Nat

/-- After ril_event_init. -/
def State.init : State where
  links := { next := fun ev => ev, prev := fun ev => ev }
  timeout _ := { tv_sec := 0, tv_usec := 0 }
  loop := .select
  added := 0
  collected := []
  fired := []
  rounds := 0
  now := { tv_sec := 0, tv_usec := 0 }
  addedBefore := 0

/-! ## Functions -/

/-- The loop of ril_timer_add, for as many events as there may be. -/
def findLater (next : EventPtr → EventPtr) (timeout : EventPtr → Timeval) (deadline : Timeval) :
    Nat → EventPtr → EventPtr
  | 0, list => list
  | fuel + 1, list =>
    if timercmp (timeout list) deadline (· < ·) ∧ list ≠ .timer_list then
      findLater next timeout deadline fuel (next list)
    else list

/-- `now` is what getNow reads. -/
def ril_timer_add (s : State) (now tv : Timeval) : State :=
  let ev := EventPtr.timer s.added
  let timeout := Function.update s.timeout ev (timeradd now tv)
  let list := findLater s.links.next timeout (timeradd now tv) (s.added + 1) (s.links.next .timer_list)
  { s with links := addToList ev list s.links, timeout := timeout, added := s.added + 1 }

/-- The loop of processTimeouts: the links, and the timers it takes out. -/
def collect (timeout : EventPtr → Timeval) (now : Timeval) : Nat → EventPtr → Links EventPtr → Links EventPtr × List Nat
  | 0, _, h => (h, [])
  | fuel + 1, tev, h =>
    if tev ≠ .timer_list ∧ timercmp now (timeout tev) (· > ·) then
      let rest := collect timeout now fuel (h.next tev) (addToList tev .pending_list (removeFromList tev h))
      match tev with
      | .timer n => (rest.1, n :: rest.2)
      | _ => rest
    else (h, [])

def processTimeouts (s : State) (now : Timeval) : State :=
  let result := collect s.timeout now (s.added + 1) (s.links.next .timer_list) s.links
  { s with
    links := result.1
    collected := s.collected ++ result.2
    rounds := s.rounds + 1
    now := now
    addedBefore := s.added
    loop := .processReadReadies }

/-- `ready` are the places of the watch table whose descriptors can be read. -/
def processReadReadies (s : State) (ready : List Nat) : State :=
  let links := ready.foldl (fun h i => addToList (.watch i) .pending_list h) s.links
  { s with links := links, loop := .firePending (links.next .pending_list) }

/-- `ev` is taken out of its list, and its callback is called. -/
def fire (s : State) (ev : EventPtr) : State :=
  let next := s.links.next ev
  let fired :=
    match ev with
    | .timer n => s.fired ++ [{ timer := n, round := s.rounds, now := s.now }]
    | _ => s.fired
  { s with links := removeFromList ev s.links, fired := fired, loop := .firePending next }

/-! ## Steps -/

inductive Step
  /-- A callback or another thread adds a timer. -/
  | ril_timer_add (now tv : Timeval)
  | processTimeouts (now : Timeval)
  | processReadReadies (ready : List Nat)
  /-- One round of firePending, or its end. -/
  | firePending
  deriving DecidableEq

def step (s : State) : Step → Option State
  | .ril_timer_add now tv => some (ril_timer_add s now tv)
  | .processTimeouts now => if s.loop = .select then some (processTimeouts s now) else none
  | .processReadReadies ready =>
    if s.loop = .processReadReadies ∧ ready.Nodup then some (processReadReadies s ready) else none
  | .firePending =>
    match s.loop with
    | .firePending ev => some (if ev = .pending_list then { s with loop := .select } else fire s ev)
    | _ => none

/-! ## Runs -/

def State.deadline (s : State) (n : Nat) : Timeval := s.timeout (.timer n)

/-- `a` is not after `b`. -/
def Timeval.le (a b : Timeval) : Prop := timercmp b a (· < ·) = false

instance (a b : Timeval) : Decidable (a.le b) := inferInstanceAs (Decidable (_ = _))

/-- The timers that fired, those that are about to and those that wait, in the order in which they fire. -/
def State.order (s : State) (pending timers : List Nat) : List Nat := s.fired.map Fired.timer ++ pending ++ timers

structure Sane (s : State) (pending timers : List Nat) : Prop where
  sorted : timers.Pairwise fun a b => (s.deadline a).le (s.deadline b)
  nodup : (s.order pending timers).Nodup
  /-- Each timer that was added waits, is about to fire or has fired. -/
  mem_order : ∀ n, n ∈ s.order pending timers ↔ n < s.added
  /-- A timer fires after its deadline. -/
  passed : ∀ f ∈ s.fired, timercmp (s.deadline f.timer) f.now (· < ·) = true
  /-- Within a round, deadlines do not decrease. -/
  rounds : s.fired.Pairwise fun f g => f.round = g.round → (s.deadline f.timer).le (s.deadline g.timer)
  /-- A timer whose deadline has passed fires in the round that finds it so. -/
  due : s.loop = .select → pending = [] ∧ ∀ n ∈ timers, n < s.addedBefore → s.now.le (s.deadline n)

structure InOrder (s : State) (pending timers : List Nat) : Prop extends Sane s pending timers where
  /-- Timers with equal deadlines fire as they were added. -/
  fifo : (s.order pending timers).Pairwise fun a b => s.deadline a = s.deadline b → a < b

def EventPtr.toTimer : EventPtr → Option Nat
  | .timer n => some n
  | _ => none

/-- The timers of a list of events. -/
def timersOf (events : List EventPtr) : List Nat := events.filterMap EventPtr.toTimer

/-- The lists are rings, and their timers are in order. -/
def TimersInOrder (s : State) : Prop :=
  ∃ timers pending, Ring s.links .timer_list (timers.map .timer) ∧ Ring s.links .pending_list pending ∧
    InOrder s (timersOf pending) timers

/-- No timer waits that has the deadline of the new one. -/
def DeadlineUnused (s : State) : Step → Prop
  | .ril_timer_add now tv => ∀ n < s.added, n ∉ s.collected → s.deadline n ≠ timeradd now tv
  | _ => True

end UniRil.Libril.Timers
