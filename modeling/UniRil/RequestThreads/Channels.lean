import Mathlib.Logic.Function.Basic
import UniRil.Lib.Runs

/-!
# AT channels of request_threads.c

Threads take a channel with getChannel and give it back with putChannel, each store and each test a step
of its own under the mutex of the channel. The mainLoop of a SIM opens the channels of the SIM again
after each restart of the modem, without the mutex.
-/

namespace UniRil.RequestThreads.Channels

open Runs

/-! ## Channels -/

def D_AT_CHANNEL_1 : Nat := 1
def D_AT_CHANNEL_OFFSET : Nat := 3
def D_AT_URC2 : Nat := 3
def D_AT_CHANNEL2_2 : Nat := 5
def D_MAX_AT_CHANNELS : Nat := 6
def S_AT_CHANNEL_1 : Nat := 1
def S_MAX_AT_CHANNELS : Nat := 4

inductive ChannelState
  | CHANNEL_IDLE
  | CHANNEL_BUSY
  deriving DecidableEq

structure ChannelInfo where
  channelID : Nat
  fd : Int
  state : ChannelState
  /-- The thread that holds `mutex`. -/
  mutex : Option Nat

/-- The channel numbers are made for one or two SIMs. -/
structure Config where
  s_simCount : Nat
  valid : s_simCount = 1 ∨ s_simCount = 2

def Config.s_maxChannelNum (cfg : Config) : Nat := if cfg.s_simCount = 1 then S_MAX_AT_CHANNELS else D_MAX_AT_CHANNELS

/-- `firstChannel` of getChannel. -/
def Config.firstChannel (cfg : Config) (socket_id : Nat) : Nat :=
  if 2 ≤ cfg.s_simCount then socket_id * D_AT_CHANNEL_OFFSET + D_AT_CHANNEL_1 else S_AT_CHANNEL_1

/-- `lastChannel`, of getChannel and of mainLoop. -/
def Config.lastChannel (cfg : Config) (socket_id : Nat) : Nat :=
  if 2 ≤ cfg.s_simCount then (socket_id + 1) * D_AT_CHANNEL_OFFSET else S_MAX_AT_CHANNELS

/-- `firstChannel` of mainLoop, which opens the channel for URCs too. -/
def Config.firstOpened (cfg : Config) (socket_id : Nat) : Nat :=
  if 2 ≤ cfg.s_simCount then socket_id * D_AT_CHANNEL_OFFSET else 0

def getSocketIdByChannelID (cfg : Config) (channelID : Nat) : Nat :=
  if 2 ≤ cfg.s_simCount then if D_AT_URC2 ≤ channelID ∧ channelID ≤ D_AT_CHANNEL2_2 then 1 else 0 else 0

/-! ## Threads -/

/-- What a thread does next. -/
inductive Pc
  | idle
  /-- `if (!s_channelOpen[socket_id])` -/
  | waits (socket_id : Nat)
  /-- The head of the loop over the channels, and pthread_mutex_lock. -/
  | locks (socket_id channelID : Nat)
  /-- The test for CHANNEL_IDLE. -/
  | tests (socket_id channelID : Nat)
  /-- The store of CHANNEL_BUSY. -/
  | takes (socket_id channelID : Nat)
  /-- Unlock, and return the channel. -/
  | leaves (socket_id channelID : Nat)
  /-- Unlock, and try the next channel. -/
  | skips (socket_id channelID : Nat)
  /-- getChannel has returned the channel. -/
  | holds (socket_id channelID : Nat)
  | putLocks (channelID : Nat)
  /-- The test for CHANNEL_BUSY. -/
  | putTests (channelID : Nat)
  /-- The store of CHANNEL_IDLE. -/
  | putStores (channelID : Nat)
  | putUnlocks (channelID : Nat)
  deriving DecidableEq

/-- Where the mainLoop of a SIM is. -/
inductive MainPc
  /-- The head of the loop over the channels. -/
  | opens (channelID : Nat)
  /-- waitForClose -/
  | waits
  /-- at_open has failed, and the thread has returned. -/
  | ended
  deriving DecidableEq

structure State where
  s_channelInfo : Nat → ChannelInfo
  s_channelOpen : Nat → Bool
  threads : Nat → Pc
  mainLoop : Nat → MainPc

def State.setInfo (s : State) (channelID : Nat) (info : ChannelInfo) : State :=
  { s with s_channelInfo := Function.update s.s_channelInfo channelID info }

def State.setState (s : State) (channelID : Nat) (state : ChannelState) : State :=
  s.setInfo channelID { s.s_channelInfo channelID with state := state }

def State.setMutex (s : State) (channelID : Nat) (mutex : Option Nat) : State :=
  s.setInfo channelID { s.s_channelInfo channelID with mutex := mutex }

def State.goto (s : State) (t : Nat) (pc : Pc) : State := { s with threads := Function.update s.threads t pc }

def State.gotoMain (s : State) (socket_id : Nat) (pc : MainPc) : State :=
  { s with mainLoop := Function.update s.mainLoop socket_id pc }

def setChannelInfo (fd : Int) (channelID : Nat) (s : State) : State :=
  s.setInfo channelID { s.s_channelInfo channelID with fd := fd, state := .CHANNEL_IDLE, channelID := channelID }

def setChannelOpened (socket_id : Nat) (s : State) : State :=
  { s with s_channelOpen := Function.update s.s_channelOpen socket_id true }

/-! ## Steps -/

inductive Label
  /-- The thread calls getChannel. -/
  | getChannel (t socket_id : Nat)
  /-- The thread calls putChannel on what it got. -/
  | putChannel (t : Nat)
  | thread (t : Nat)
  /-- The next channel is opened. -/
  | opened (socket_id : Nat) (fd : Int)
  /-- `open` fails, and mainLoop goes to `again`. -/
  | openFails (socket_id : Nat)
  | atOpenFails (socket_id : Nat) (fd : Int)
  /-- All channels are open. -/
  | channelsOpened (socket_id : Nat)
  /-- The channels were closed: the modem has restarted. -/
  | closed (socket_id : Nat)
  deriving DecidableEq

/-- pthread_mutex_lock, then `pc`; `none` while another thread holds the mutex. -/
def State.lock (s : State) (t channelID : Nat) (pc : Pc) : Option State :=
  if (s.s_channelInfo channelID).mutex = none then some ((s.setMutex channelID (some t)).goto t pc) else none

def State.unlock (s : State) (t channelID : Nat) (pc : Pc) : State := (s.setMutex channelID none).goto t pc

/-- The next step of getChannel and putChannel. -/
def advance (cfg : Config) (s : State) (t : Nat) : Pc → Option State
  | .idle => none
  | .waits socket_id =>
    if s.s_channelOpen socket_id then some (s.goto t (.locks socket_id (cfg.firstChannel socket_id))) else some s
  | .locks socket_id channelID =>
    if channelID < cfg.lastChannel socket_id then s.lock t channelID (.tests socket_id channelID)
    else some (s.goto t (.waits socket_id))
  | .tests socket_id channelID =>
    if (s.s_channelInfo channelID).state = .CHANNEL_IDLE then some (s.goto t (.takes socket_id channelID))
    else some (s.goto t (.skips socket_id channelID))
  | .takes socket_id channelID => some ((s.setState channelID .CHANNEL_BUSY).goto t (.leaves socket_id channelID))
  | .leaves socket_id channelID => some (s.unlock t channelID (.holds socket_id channelID))
  | .skips socket_id channelID => some (s.unlock t channelID (.locks socket_id (channelID + 1)))
  | .holds _ _ => none
  | .putLocks channelID => s.lock t channelID (.putTests channelID)
  | .putTests channelID =>
    if (s.s_channelInfo channelID).state ≠ .CHANNEL_BUSY then some (s.goto t (.putUnlocks channelID))
    else some (s.goto t (.putStores channelID))
  | .putStores channelID => some ((s.setState channelID .CHANNEL_IDLE).goto t (.putUnlocks channelID))
  | .putUnlocks channelID => some (s.unlock t channelID .idle)

def step (cfg : Config) (s : State) : Label → Option State
  | .getChannel t socket_id =>
    match s.threads t with
    -- -1 is returned at once, and putChannel does nothing with it
    | .idle => if cfg.s_simCount ≤ socket_id then some s else some (s.goto t (.waits socket_id))
    | _ => none
  | .putChannel t =>
    match s.threads t with
    | .holds _ channelID =>
      if channelID < 1 ∨ cfg.s_maxChannelNum ≤ channelID then some (s.goto t .idle)
      else some (s.goto t (.putLocks channelID))
    | _ => none
  | .thread t => advance cfg s t (s.threads t)
  | .opened socket_id fd =>
    match s.mainLoop socket_id with
    | .opens channelID =>
      if channelID < cfg.lastChannel socket_id then
        some ((setChannelInfo fd channelID s).gotoMain socket_id (.opens (channelID + 1)))
      else none
    | _ => none
  | .openFails socket_id =>
    match s.mainLoop socket_id with
    | .opens channelID =>
      if channelID < cfg.lastChannel socket_id then some (s.gotoMain socket_id (.opens (cfg.firstOpened socket_id))) else none
    | _ => none
  | .atOpenFails socket_id fd =>
    match s.mainLoop socket_id with
    | .opens channelID =>
      if channelID < cfg.lastChannel socket_id then some ((setChannelInfo fd channelID s).gotoMain socket_id .ended) else none
    | _ => none
  | .channelsOpened socket_id =>
    match s.mainLoop socket_id with
    | .opens channelID =>
      if channelID < cfg.lastChannel socket_id then none else some ((setChannelOpened socket_id s).gotoMain socket_id .waits)
    | _ => none
  | .closed socket_id =>
    match s.mainLoop socket_id with
    | .waits => some (s.gotoMain socket_id (.opens (cfg.firstOpened socket_id)))
    | _ => none

/-- After requestThreadsInit, with a mainLoop for each SIM. -/
def State.start (cfg : Config) : State where
  s_channelInfo _ := { channelID := 0, fd := -1, state := .CHANNEL_IDLE, mutex := none }
  s_channelOpen _ := false
  threads _ := .idle
  mainLoop socket_id := if socket_id < cfg.s_simCount then .opens (cfg.firstOpened socket_id) else .ended

/-! ## Owners -/

/-- The channel that a thread has: from the store of CHANNEL_BUSY in getChannel to that of CHANNEL_IDLE
in putChannel. -/
def Pc.owns : Pc → Option Nat
  | .leaves _ channelID | .holds _ channelID | .putLocks channelID | .putTests channelID | .putStores channelID => some channelID
  | _ => none

/-- A channel has one owner at a time, is busy while it has one, and is got for the SIM it belongs to. -/
structure OneOwner (cfg : Config) (s : State) : Prop where
  exclusive : ∀ t u c, (s.threads t).owns = some c → (s.threads u).owns = some c → t = u
  busy : ∀ t c, (s.threads t).owns = some c → (s.s_channelInfo c).state = .CHANNEL_BUSY
  belongs : ∀ t socket_id c, s.threads t = .holds socket_id c → getSocketIdByChannelID cfg c = socket_id

/-- mainLoop opens no channel that a thread has. -/
def OpensUnowned (cfg : Config) (s : State) : Label → Prop
  | .opened socket_id _ | .atOpenFails socket_id _ =>
    ∀ c, s.mainLoop socket_id = .opens c → c < cfg.lastChannel socket_id → ∀ t, (s.threads t).owns ≠ some c
  | _ => True

end UniRil.RequestThreads.Channels
