import UniRil.Handlers.Rules
import UniRil.Network.Code
import UniRil.RequestThreads.Channels
import UniRil.Sim.Slot

/-!
# The channels of a switch without LTE (ril_network.c)

applySetRadioCapability takes a channel of each other SIM in its first loop and gives it back in its second. The
caller has locked the radio power of both SIMs, so that `s_radioState` stays as it is.
-/

namespace UniRil.RadioSwitch

open Flows Handlers
open AtTok (Line)
open RequestThreads.Channels (Config)
open Sim (RadioState)

variable {ε : Type}

/-! ## Channels -/

structure Radios where
  s_multiModeSim : Nat
  s_workMode : Nat → Int
  s_presentSIMCount : Int
  s_radioState : Nat → RadioState
  PRIMARY_SIM_PROP : Line
  MODEM_WORKMODE_PROP : Line
  /-- What getChannel returned. -/
  obtained : List Nat
  /-- What putChannel was called with. -/
  released : List Nat

/-- `idle` is the channel of each SIM that is found idle. -/
def getChannel (idle : Nat → Nat) (simId : Nat) : Handler Radios ε Nat := do
  modifyGlobals fun g => { g with obtained := g.obtained ++ [idle simId] }
  pure (idle simId)

/-- -1 is `none`. -/
def putChannel (cfg : Config) (channelID : Option Nat) : Handler Radios ε Unit :=
  channelID.elim (pure ()) fun c => do
    if ¬ (c < 1 ∨ cfg.s_maxChannelNum ≤ c) then
      modifyGlobals fun g => { g with released := g.released ++ [c] }

/-! ## The switch -/

/-- `s_workMode` as setWorkMode leaves it: the two SIMs change places. -/
def swapWorkMode (cfg : Config) (g : Radios) : Nat → Int :=
  let singleModeSim := if cfg.s_simCount = 2 then if g.s_multiModeSim = 0 then 1 else 0 else 0
  let s_workMode := Function.update g.s_workMode singleModeSim (g.s_workMode g.s_multiModeSim)
  Function.update s_workMode g.s_multiModeSim (g.s_workMode singleModeSim)

def workModeText (cfg : Config) (s_workMode : Nat → Int) : Line :=
  if cfg.s_simCount = 2 then Network.pairText (s_workMode 0) (s_workMode 1)
  else Network.pairText (s_workMode 0) Network.GSM_ONLY

def setWorkMode (cfg : Config) : Handler Radios ε Unit :=
  modifyGlobals fun g =>
    { g with
      s_workMode := swapWorkMode cfg g
      MODEM_WORKMODE_PROP := workModeText cfg (swapWorkMode cfg g) }

def buildWorkModeCmd (cfg : Config) (s_workMode : Nat → Int) : Line :=
  ascii "AT+SPTESTMODEM=" ++ workModeText cfg s_workMode

/-- `none` where the function returns at once. -/
def newMultiModeSim (cfg : Config) (rat : Int) (socket_id s_multiModeSim : Nat) : Option Nat :=
  if Network.hasBits rat Network.RAF_UMTS || Network.hasBits rat Network.RAF_TD_SCDMA ||
      Network.hasBits rat Network.RAF_LTE then
    if s_multiModeSim ≠ socket_id then some socket_id else none
  else if cfg.s_simCount = 2 then if s_multiModeSim = socket_id then some (1 - socket_id) else none
  else some s_multiModeSim

/-- `if (simId != (int)socket_id) putChannel(channel[simId]);` -/
def putOther (cfg : Config) (socket_id : Nat) (channel : Nat → Option Nat) (simId : Nat) : Handler Radios ε Unit :=
  if simId ≠ socket_id then putChannel cfg (channel simId) else pure ()

/-- The clean-up of the first loop: the channels of these SIMs. -/
def putChannels (cfg : Config) (socket_id : Nat) (channel : Nat → Option Nat) : List Nat → Handler Radios ε Unit
  | [] => pure ()
  | i :: rest => do
    putOther cfg socket_id channel i
    putChannels cfg socket_id channel rest

/-- The first loop; `channel` is -1 before. -/
def shutDownRadios (cfg : Config) (idle : Nat → Nat) (socket_id channelID : Nat) :
    List Nat → (Nat → Option Nat) → Handler Radios Pointer (Nat → Option Nat)
  | [], channel => pure channel
  | simId :: rest, channel => do
    let g ← getGlobals
    if g.s_radioState simId = .OFF then
      shutDownRadios cfg idle socket_id channelID rest channel
    else
      let c ← if simId ≠ socket_id then getChannel idle simId else pure channelID
      let channel := Function.update channel simId (some c)
      let s ← at_send_command (ascii "AT+SFUN=5") none
      if ← unsuccessful s then
        putChannels cfg socket_id channel (List.range simId)
        goto s.p_response
      else
        at_response_free s.p_response
        shutDownRadios cfg idle socket_id channelID rest channel

/-- The second loop. -/
def startRadios (cfg : Config) (socket_id : Nat) (channel : Nat → Option Nat) (cmd : Line) :
    List Nat → Handler Radios Pointer Unit
  | [] => pure ()
  | simId :: rest => do
    let g ← getGlobals
    if g.s_radioState simId = .OFF then
      putOther cfg socket_id channel simId
      startRadios cfg socket_id channel cmd rest
    else
      -- `s_ATChannels[-1]` does not exist
      let _ ← deref (channel simId)
      let _ ← at_send_command_NULL cmd
      let _ ← at_send_command_NULL
        (if cfg.s_simCount = 2 ∧ g.s_presentSIMCount = 2 ∧ simId ≠ g.s_multiModeSim then ascii "AT+SAUTOATT=0"
          else ascii "AT+SAUTOATT=1")
      let s ← at_send_command (ascii "AT+SFUN=4") none
      putOther cfg socket_id channel simId
      if ← unsuccessful s then
        goto s.p_response
      else
        at_response_free s.p_response
        startRadios cfg socket_id channel cmd rest

def applySetRadioCapability (cfg : Config) (idle : Nat → Nat) (rat : Int) (socket_id channelID : Nat) :
    Handler Radios ε Int :=
  labelled (do
      let g ← getGlobals
      (newMultiModeSim cfg rat socket_id g.s_multiModeSim).elim (pure 1) fun simId => do
        modifyGlobals fun g => { g with s_multiModeSim := simId, PRIMARY_SIM_PROP := decimal simId }
        let sims := List.range cfg.s_simCount
        let channel ← shutDownRadios cfg idle socket_id channelID sims fun _ => none
        setWorkMode cfg
        let g ← getGlobals
        startRadios cfg socket_id channel (buildWorkModeCmd cfg g.s_workMode) sims
        pure 1)
    -- error:
    fun p_response => do
      at_response_free p_response
      pure 0

/-! ## Balance -/

/-- A channel that getChannel may return for the SIM. -/
def BelongsTo (cfg : Config) (channelID simId : Nat) : Prop :=
  cfg.firstChannel simId ≤ channelID ∧ channelID < cfg.lastChannel simId

instance (cfg : Config) (channelID simId : Nat) : Decidable (BelongsTo cfg channelID simId) :=
  inferInstanceAs (Decidable (_ ∧ _))

/-- What was obtained was released once, and the channel of the caller was not. -/
structure Balanced (channelID : Nat) (g : Radios) : Prop where
  once : ∀ c ∈ g.obtained, g.released.count c = 1
  kept : channelID ∉ g.released

def Radios.isOn (g : Radios) (simId : Nat) : Prop := g.s_radioState simId ≠ .OFF

instance (g : Radios) (simId : Nat) : Decidable (g.isOn simId) := inferInstanceAs (Decidable (_ ≠ _))

/-- How many radios of smaller SIMs are on. -/
def Radios.onBefore (g : Radios) (simId : Nat) : Nat := (List.range simId).countP fun s => g.isOn s

def succeeds : Answer → Bool
  | .failed => false
  | .response finalResponse _ => Command.isFinalResponseSuccess finalResponse

/-- AT+SFUN=5 is accepted for the SIM. -/
def ShutsDown (answers : Nat → Answer) (g : Radios) (simId : Nat) : Prop := succeeds (answers (g.onBefore simId)) = true

/-- AT+SFUN=4 is accepted for the SIM. It is the third command of a round of the second loop. -/
def Starts (cfg : Config) (answers : Nat → Answer) (g : Radios) (simId : Nat) : Prop :=
  succeeds (answers (g.onBefore cfg.s_simCount + 3 * g.onBefore simId + 2)) = true

/-- For each other SIM whose radio is on: AT+SFUN=5 is accepted for it if it is sent, and when it is accepted for
all, AT+SFUN=4 is accepted for all smaller SIMs. -/
def GivesBack (cfg : Config) (rat : Int) (socket_id : Nat) (answers : Nat → Answer) (g : Radios) : Prop :=
  newMultiModeSim cfg rat socket_id g.s_multiModeSim ≠ none →
    ∀ other < cfg.s_simCount, other ≠ socket_id → g.isOn other →
      ((∀ s < other, g.isOn s → ShutsDown answers g s) → ShutsDown answers g other) ∧
      ((∀ s < cfg.s_simCount, g.isOn s → ShutsDown answers g s) → ∀ s < other, g.isOn s → Starts cfg answers g s)

variable {cfg : Config} {idle : Nat → Nat} {socket_id channelID : Nat} {channel : Nat → Option Nat}

/-! ## What becomes of the channels -/

def Radios.obtain (g : Radios) (c : Nat) : Radios := { g with obtained := g.obtained ++ [c] }

def Radios.release (cfg : Config) (g : Radios) (channelID : Option Nat) : Radios :=
  channelID.elim g fun c => if c < 1 ∨ cfg.s_maxChannelNum ≤ c then g else { g with released := g.released ++ [c] }

/-- What a command of the second loop and the end of the first one do to the channels of the other SIMs. -/
def Radios.releaseOther (cfg : Config) (socket_id : Nat) (channel : Nat → Option Nat) (g : Radios) (simId : Nat) :
    Radios :=
  if simId ≠ socket_id then g.release cfg (channel simId) else g

section

variable {E : Exit ε → World Radios → Prop} {w : World Radios}

@[simp ↓] theorem wp_getChannel {Q : Nat → World Radios → Prop} (simId : Nat) :
    wp (getChannel idle simId) Q E w ↔ Q (idle simId) (w.setGlobals fun g => g.obtain (idle simId)) := by
  simp [getChannel, Radios.obtain]

@[simp ↓] theorem wp_putChannel {Q : Unit → World Radios → Prop} (c : Option Nat) :
    wp (putChannel cfg c) Q E w ↔ Q () (w.setGlobals fun g => g.release cfg c) := by
  cases c with
  | none => rfl
  | some c =>
    by_cases hc : c < 1 ∨ cfg.s_maxChannelNum ≤ c
    · simp only [putChannel, Radios.release, Option.elim_some, hc, not_true, if_true, if_false]
      rfl
    · simp only [putChannel, Radios.release, Option.elim_some, hc, not_false_iff, if_true, if_false]
      rfl

@[simp ↓] theorem wp_putOther {Q : Unit → World Radios → Prop} (simId : Nat) :
    wp (putOther cfg socket_id channel simId) Q E w ↔
      Q () (w.setGlobals fun g => g.releaseOther cfg socket_id channel simId) := by
  by_cases hown : simId = socket_id
  · simp only [putOther, Radios.releaseOther, hown, ne_eq, not_true, if_false]
    rfl
  · simp [putOther, Radios.releaseOther, hown]

@[simp ↓] theorem wp_putChannels {Q : Unit → World Radios → Prop} (sims : List Nat) :
    wp (putChannels cfg socket_id channel sims) Q E w ↔
      Q () (w.setGlobals fun g => sims.foldl (Radios.releaseOther cfg socket_id channel) g) := by
  induction sims generalizing w with
  | nil => rfl
  | cons i rest ih =>
    simp only [putChannels, wp_bind, wp_putOther, ih]
    rfl

end

/-! ## The two loops -/

section

variable {P : Radios → Prop} {E : Exit Pointer → World Radios → Prop} {w : World Radios}

/-- The second loop: what holds of the channels at its end, or where it stops. -/
def startsThen (cfg : Config) (socket_id : Nat) (channel : Nat → Option Nat) (P : Radios → Prop) :
    List Nat → (Nat → Answer) → Radios → Prop
  | [], _, g => P g
  | simId :: rest, answers, g =>
    if g.s_radioState simId = .OFF then
      startsThen cfg socket_id channel P rest answers (g.releaseOther cfg socket_id channel simId)
    else if succeeds (answers 2) = true then
      startsThen cfg socket_id channel P rest (fun n => answers (n + 3)) (g.releaseOther cfg socket_id channel simId)
    else P (g.releaseOther cfg socket_id channel simId)

theorem s_radioState_releaseOther (g : Radios) (simId : Nat) :
    (g.releaseOther cfg socket_id channel simId).s_radioState = g.s_radioState := by
  unfold Radios.releaseOther Radios.release
  split
  · cases channel simId with
    | none => rfl
    | some c =>
      simp only [Option.elim_some]
      split <;> rfl
  · rfl

theorem wp_startRadios (cmd : Line) (sims : List Nat)
    (hchannel : ∀ s ∈ sims, w.globals.s_radioState s ≠ .OFF → channel s ≠ none)
    (hE : ∀ p w', E (.goto p) w' ↔ P w'.globals) :
    wp (startRadios cfg socket_id channel cmd sims) (fun _ w' => P w'.globals) E w ↔
      startsThen cfg socket_id channel P sims w.answers w.globals := by
  induction sims generalizing w with
  | nil => rfl
  | cons simId rest ih =>
    have hrest : ∀ w' : World Radios, w'.globals = w.globals.releaseOther cfg socket_id channel simId →
        (wp (startRadios cfg socket_id channel cmd rest) (fun _ w' => P w'.globals) E w' ↔
          startsThen cfg socket_id channel P rest w'.answers w'.globals) := by
      intro w' hw'
      refine ih ?_
      intro s hs
      rw [hw', s_radioState_releaseOther]
      exact hchannel s (List.mem_cons_of_mem simId hs)
    by_cases hoff : w.globals.s_radioState simId = .OFF
    · simp only [startRadios, startsThen, wp_bind, wp_getGlobals, hoff, if_true, wp_putOther]
      exact hrest _ rfl
    · obtain ⟨c, hc⟩ := Option.ne_none_iff_exists'.1 (hchannel simId (by simp) hoff)
      -- what the first two commands bring is not looked at
      rcases h2 : w.answers 2 with _ | ⟨finalResponse, lines⟩
      · rcases h0 : w.answers 0 with _ | ⟨_, _⟩ <;> rcases h1 : w.answers 1 with _ | ⟨_, _⟩
        all_goals simp [startRadios, startsThen, succeeds, hoff, hc, hE, h0, h1, h2]
      · rcases hf : Command.isFinalResponseSuccess finalResponse with _ | _
        · rcases h0 : w.answers 0 with _ | ⟨_, _⟩ <;> rcases h1 : w.answers 1 with _ | ⟨_, _⟩
          all_goals simp [startRadios, startsThen, succeeds, hoff, hc, hE, h0, h1, h2, hf]
        · rcases h0 : w.answers 0 with _ | ⟨_, _⟩ <;> rcases h1 : w.answers 1 with _ | ⟨_, _⟩
          all_goals
            simp [startRadios, startsThen, succeeds, hoff, hc, h0, h1, h2, hf]
            exact hrest _ rfl

/-- The first loop: what holds of the channels where it stops, or `P'` at its end. -/
def shutsThen (cfg : Config) (idle : Nat → Nat) (socket_id channelID : Nat) (P : Radios → Prop)
    (P' : (Nat → Option Nat) → (Nat → Answer) → Radios → Prop) :
    List Nat → (Nat → Option Nat) → (Nat → Answer) → Radios → Prop
  | [], channel, answers, g => P' channel answers g
  | simId :: rest, channel, answers, g =>
    if g.s_radioState simId = .OFF then
      shutsThen cfg idle socket_id channelID P P' rest channel answers g
    else if simId ≠ socket_id then
      if succeeds (answers 0) = true then
        shutsThen cfg idle socket_id channelID P P' rest (Function.update channel simId (some (idle simId)))
          (fun n => answers (n + 1)) (g.obtain (idle simId))
      else
        P
          ((List.range simId).foldl
            (Radios.releaseOther cfg socket_id (Function.update channel simId (some (idle simId))))
            (g.obtain (idle simId)))
    else
      if succeeds (answers 0) = true then
        shutsThen cfg idle socket_id channelID P P' rest (Function.update channel simId (some channelID))
          (fun n => answers (n + 1)) g
      else
        P
          ((List.range simId).foldl
            (Radios.releaseOther cfg socket_id (Function.update channel simId (some channelID))) g)

theorem wp_shutDownRadios {Q : (Nat → Option Nat) → World Radios → Prop}
    {P' : (Nat → Option Nat) → (Nat → Answer) → Radios → Prop} (all sims : List Nat) (channel : Nat → Option Nat)
    (hE : ∀ p w', E (.goto p) w' ↔ P w'.globals)
    (hQ : ∀ channel w', (∀ s ∈ all, w'.globals.s_radioState s ≠ .OFF → channel s ≠ none) →
      (Q channel w' ↔ P' channel w'.answers w'.globals))
    (hbefore : ∀ s ∈ all, s ∉ sims → w.globals.s_radioState s ≠ .OFF → channel s ≠ none) :
    wp (shutDownRadios cfg idle socket_id channelID sims channel) Q E w ↔
      shutsThen cfg idle socket_id channelID P P' sims channel w.answers w.globals := by
  induction sims generalizing channel w with
  | nil => exact hQ channel w fun s hs => hbefore s hs (by simp)
  | cons simId rest ih =>
    have hupdate : ∀ c s, s ∈ all → s ∉ rest → w.globals.s_radioState s ≠ .OFF →
        Function.update channel simId (some c) s ≠ none := by
      intro c s hs hrest hon
      by_cases heq : s = simId
      · simp [heq]
      · rw [Function.update_of_ne heq]
        exact hbefore s hs (by simp [heq, hrest]) hon
    by_cases hoff : w.globals.s_radioState simId = .OFF
    · have hskip : ∀ s ∈ all, s ∉ rest → w.globals.s_radioState s ≠ .OFF → channel s ≠ none := by
        intro s hs hrest hon
        refine hbefore s hs ?_ hon
        rintro (_ | ⟨_, hmem⟩)
        · exact hon hoff
        · exact hrest hmem
      simp [shutDownRadios, shutsThen, hoff, ih _ hskip]
    · rcases h0 : w.answers 0 with _ | ⟨finalResponse, lines⟩
      · by_cases hown : simId = socket_id
        · subst hown
          simp [shutDownRadios, shutsThen, succeeds, hoff, hE, h0]
        · simp [shutDownRadios, shutsThen, succeeds, hoff, hown, hE, h0]
      · rcases hf : Command.isFinalResponseSuccess finalResponse with _ | _
        · by_cases hown : simId = socket_id
          · subst hown
            simp [shutDownRadios, shutsThen, succeeds, hoff, hE, h0, hf]
          · simp [shutDownRadios, shutsThen, succeeds, hoff, hown, hE, h0, hf]
        · by_cases hown : simId = socket_id
          · subst hown
            simp [shutDownRadios, shutsThen, succeeds, hoff, hE, h0, hf]
            exact ih _ (hupdate channelID)
          · simp [shutDownRadios, shutsThen, succeeds, hoff, hown, hE, h0, hf]
            exact ih _ (hupdate (idle simId))

end

/-! ## The switch -/

theorem forall_lt_two {P : Nat → Prop} : (∀ s < 2, P s) ↔ P 0 ∧ P 1 := by
  refine ⟨fun h => ⟨h 0 (by omega), h 1 (by omega)⟩, fun h s hs => ?_⟩
  obtain rfl | rfl : s = 0 ∨ s = 1 := by omega
  · exact h.1
  · exact h.2

theorem balanced_iff (g : Radios) :
    Balanced channelID g ↔ (∀ c ∈ g.obtained, g.released.count c = 1) ∧ channelID ∉ g.released :=
  ⟨fun h => ⟨h.once, h.kept⟩, fun h => ⟨h.1, h.2⟩⟩

/-- The channel of the other SIM is not the one of the caller, and putChannel takes it. -/
theorem release_other (h2 : cfg.s_simCount = 2) (hsocket : socket_id < 2) (hown : BelongsTo cfg channelID socket_id)
    {c : Nat} (hc : BelongsTo cfg c (1 - socket_id)) :
    channelID ≠ c ∧ ∀ g, Radios.release cfg g (some c) = { g with released := g.released ++ [c] } := by
  have hmax : cfg.s_maxChannelNum = 6 := by
    rw [Config.s_maxChannelNum, if_neg (by omega)]
    rfl
  simp only [BelongsTo, Config.firstChannel, Config.lastChannel, RequestThreads.Channels.D_AT_CHANNEL_OFFSET,
    RequestThreads.Channels.D_AT_CHANNEL_1, h2, le_refl, if_true] at hown hc
  refine ⟨by omega, fun g => ?_⟩
  rw [Radios.release, Option.elim_some, if_neg (by omega)]

theorem release_none (g : Radios) : g.release cfg none = g := rfl

/-- The globals at the start of the second loop. -/
def Radios.switched (cfg : Config) (g : Radios) : Radios :=
  { g with s_workMode := swapWorkMode cfg g, MODEM_WORKMODE_PROP := workModeText cfg (swapWorkMode cfg g) }

theorem wp_applySetRadioCapability {P : Radios → Prop} {E : Exit ε → World Radios → Prop} {w : World Radios}
    (rat : Int) :
    wp (applySetRadioCapability cfg idle rat socket_id channelID : Handler Radios ε Int)
        (fun _ w' => P w'.globals) E w ↔
      (newMultiModeSim cfg rat socket_id w.globals.s_multiModeSim).elim (P w.globals) fun simId =>
        shutsThen cfg idle socket_id channelID P
          (fun channel answers g =>
            startsThen cfg socket_id channel P (List.range cfg.s_simCount) answers (g.switched cfg))
          (List.range cfg.s_simCount) (fun _ => none) w.answers
          { w.globals with s_multiModeSim := simId, PRIMARY_SIM_PROP := decimal simId } := by
  have herror : ∀ (p : Pointer) (w' : World Radios),
      atLabel (fun p_response => (do at_response_free p_response; pure 0 : Handler Radios ε Int))
        (fun _ w' => P w'.globals) E (.goto p) w' ↔ P w'.globals := by
    rintro (_ | r) w'
    · simp
    · simp
  rcases hsim : newMultiModeSim cfg rat socket_id w.globals.s_multiModeSim with _ | simId
  · simp [applySetRadioCapability, hsim]
  · simp only [applySetRadioCapability, wp_labelled, wp_bind, wp_getGlobals, hsim, Option.elim_some, wp_modifyGlobals]
    rw [wp_shutDownRadios (List.range cfg.s_simCount) _ _ herror]
    · rfl
    · intro channel w' hchannel
      simp only [setWorkMode, wp_bind, wp_modifyGlobals, wp_getGlobals]
      exact wp_startRadios (w := w'.setGlobals fun g => g.switched cfg) _ _ hchannel herror
    · intro s hs hnot
      exact absurd hs hnot

/-- AT+SFUN=5 is accepted for the first SIM and refused for the second. -/
def secondRefuses : Nat → Answer
  | 0 => .response (ascii "OK") []
  | _ => .response (ascii "ERROR") []

theorem twoSims_valid : 2 = 1 ∨ 2 = 2 := .inr rfl

def twoSims : Config := ⟨2, twoSims_valid⟩

/-- Both radios are on, and the second SIM has LTE. -/
def bothOn : Radios where
  s_multiModeSim := 1
  s_workMode := fun _ => 0
  s_presentSIMCount := 2
  s_radioState := fun _ => .SIM_READY
  PRIMARY_SIM_PROP := []
  MODEM_WORKMODE_PROP := []
  obtained := []
  released := []

/-- **The channels are balanced at the end exactly when the first loop does not stop at another SIM, and the second one
not before another SIM.** -/
theorem balanced_iff_givesBack (cfg : Config) (idle : Nat → Nat) (rat : Int) (socket_id channelID : Nat)
    (answers : Nat → Answer) (allocates : Nat → Bool) (g : Radios) (hsocket : socket_id < cfg.s_simCount)
    (hown : BelongsTo cfg channelID socket_id) (hidle : ∀ s < cfg.s_simCount, BelongsTo cfg (idle s) s) :
    wp (applySetRadioCapability cfg idle rat socket_id channelID : Handler Radios Empty Int)
        (fun _ w => Balanced channelID w.globals) (fun _ _ => False)
        (.start answers allocates { g with obtained := [], released := [] }) ↔
      GivesBack cfg rat socket_id answers g := by
  rw [wp_applySetRadioCapability]
  rcases hsim : newMultiModeSim cfg rat socket_id g.s_multiModeSim with _ | simId
  · simp [GivesBack, World.start, hsim, balanced_iff]
  · rcases cfg.valid with h1 | h2
    · obtain rfl : socket_id = 0 := by omega
      simp [GivesBack, World.start, hsim, h1, List.range_succ, shutsThen, startsThen, Radios.releaseOther,
        Radios.switched, balanced_iff]
    · obtain rfl | rfl : socket_id = 0 ∨ socket_id = 1 := by omega
      · obtain ⟨hne, hrelease⟩ := release_other h2 (by omega) hown (hidle 1 (by omega))
        by_cases hon0 : g.s_radioState 0 = .OFF <;> by_cases hon1 : g.s_radioState 1 = .OFF
        all_goals
          simp only [GivesBack, h2, forall_lt_two]
          simp [World.start, hsim, h2, List.range_succ, shutsThen, startsThen, Radios.releaseOther,
            Radios.switched, balanced_iff, ShutsDown, Starts, Radios.isOn, Radios.onBefore,
            Radios.obtain, release_none, hon0, hon1, hne, hrelease]
        tauto
      · obtain ⟨hne, hrelease⟩ := release_other h2 (by omega) hown (hidle 0 (by omega))
        by_cases hon0 : g.s_radioState 0 = .OFF <;> by_cases hon1 : g.s_radioState 1 = .OFF
        all_goals
          simp only [GivesBack, h2, forall_lt_two]
          simp [World.start, hsim, h2, List.range_succ, shutsThen, startsThen, Radios.releaseOther,
            Radios.switched, balanced_iff, ShutsDown, Starts, Radios.isOn, Radios.onBefore,
            Radios.obtain, release_none, hon0, hon1, hne, hrelease]

theorem balanced_iff_givesBack_both_on :
    wp (applySetRadioCapability twoSims (fun s => 3 * s + 1) 16384 0 2 : Handler Radios Empty Int)
        (fun _ w => Balanced 2 w.globals) (fun _ _ => False) (.start (fun _ => .failed) (fun _ => true) bothOn) ↔
      GivesBack twoSims 16384 0 (fun _ => .failed) bothOn :=
  balanced_iff_givesBack twoSims (fun s => 3 * s + 1) 16384 0 2 (fun _ => .failed) (fun _ => true) bothOn
    (by decide) (by decide) (by decide)

/-- The channel of the second SIM is not given back when its radio does not shut down. -/
theorem balanced_fails_second_refuses :
    ¬ wp (applySetRadioCapability twoSims (fun s => 3 * s + 1) 16384 0 2 : Handler Radios Empty Int)
        (fun _ w => Balanced 2 w.globals) (fun _ _ => False) (.start secondRefuses (fun _ => true) bothOn) := by
  have hrun : ∃ w : World Radios,
      (applySetRadioCapability twoSims (fun s => 3 * s + 1) 16384 0 2 : Handler Radios Empty Int)
        (.start secondRefuses (fun _ => true) bothOn) = (.ok 0, w) ∧ w.globals.obtained = [4] ∧
          w.globals.released = [] := ⟨_, rfl, rfl, rfl⟩
  obtain ⟨w, hw, hobtained, hreleased⟩ := hrun
  rw [wp_of_ok hw]
  intro h
  have := h.once 4 (by simp [hobtained])
  simp [hreleased] at this

end UniRil.RadioSwitch
