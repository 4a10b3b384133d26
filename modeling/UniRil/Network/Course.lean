import UniRil.Network.Machine

/-!
# What a mode switch changes, and when it can still fail

The data that a request changes, the ways in which it can fail afterwards, and what each function leaves
of both. A failure is late when it comes after the data was changed, or when the change comes after it.
-/

namespace UniRil.Network

open Programs
open Data (RIL_SOCKET_ID)

/-! ## The data -/

/-- What a mode switch changes. -/
structure Core where
  s_multiModeSim : RIL_SOCKET_ID
  s_workMode : RIL_SOCKET_ID → Int
  workModeProp : List Byte
  primarySimProp : List Byte

def Globals.core (g : Globals) : Core where
  s_multiModeSim := g.s_multiModeSim
  s_workMode := g.s_workMode
  workModeProp := g.workModeProp
  primarySimProp := g.primarySimProp

/-- The property `MODEM_WORKMODE_PROP` tells the work modes. -/
def Core.Told (c : Core) : Prop := c.workModeProp = pairText (c.s_workMode .RIL_SOCKET_1) (c.s_workMode .RIL_SOCKET_2)

/-! ## What a request has met so far -/

def Event.calls (t : RIL_Token) : Event → Bool
  | .callApply t' _ => t' = t
  | _ => false

def Event.taken (t : RIL_Token) : Event → Bool
  | .answer t' _ a => t' = t && a = .ok
  | _ => false

def Event.retried (t : RIL_Token) : Event → Bool
  | .answer t' _ a => t' = t && a = .cmeError3
  | _ => false

def Event.fails (t : RIL_Token) : Event → Bool
  | .RIL_onRequestComplete t' e _ => t' = t && e ≠ .RIL_E_SUCCESS
  | _ => false

/-- The request has begun to switch the SIMs. -/
def State.switching (s : State) (t : RIL_Token) : Bool := s.log.any (Event.calls t)

/-- A command of the request was answered with OK. -/
def State.taken (s : State) (t : RIL_Token) : Bool := s.log.any (Event.taken t)

/-- The request has been completed with an error. -/
def State.failed (s : State) (t : RIL_Token) : Bool := s.log.any (Event.fails t)

/-- The answers `+CME ERROR: 3` so far. -/
def State.retries (s : State) (t : RIL_Token) : Nat := s.log.countP (Event.retried t)

/-- An expired entry of the request waits to be fired. -/
def State.expired (s : State) (t : RIL_Token) : Bool := s.s_pendingList.any (·.token = t)

/-- The answer comes too late to leave things as they are: a switch is refused for good, or the command of
a request that has failed is taken. -/
def spoils (lte switching failed : Bool) (retries : Nat) (a : Answer) : Bool :=
  if switching then a = .error || a = .cmeError3 && (!lte || 3 ≤ retries) else a = .ok && failed

/-- The next action of the program is a command whose answer decides. -/
def asks : NetProg Unit → Bool
  | .act (.ask _ _) _ => true
  | _ => false

/-- No failure comes to a request that has changed data, and no change to one that has failed: neither by
an answer, nor by a URC, nor by a time-out. -/
def Timely (cfg : Config) (s : State) : Label → Prop
  | .thread t env => (s.threads t).any asks = true →
      spoils cfg.s_isLTE (s.switching t) (s.failed t || s.expired t) (s.retries t) env.answer = false
  | .urc socket_id status => status ≠ 1 → ∀ e ∈ s.s_timerList.find? (·.socket_id = socket_id),
      (s.switching e.token || s.taken e.token) = false
  | .expire => ∀ e ∈ s.s_timerList.head?, (s.switching e.token || s.taken e.token) = false
  | _ => True

instance decidableTimely (cfg : Config) (s : State) : (a : Label) → Decidable (Timely cfg s a)
  | .thread t env => inferInstanceAs (Decidable ((s.threads t).any asks = true →
      spoils cfg.s_isLTE (s.switching t) (s.failed t || s.expired t) (s.retries t) env.answer = false))
  | .urc socket_id status => inferInstanceAs (Decidable (status ≠ 1 → ∀ e ∈ s.s_timerList.find? (·.socket_id = socket_id),
      (s.switching e.token || s.taken e.token) = false))
  | .expire => inferInstanceAs (Decidable (∀ e ∈ s.s_timerList.head?, (s.switching e.token || s.taken e.token) = false))
  | .request _ _ _ => isTrue trivial
  | .fire => isTrue trivial

/-! ## The course of a request -/

structure Course where
  core : Core
  switching : Bool
  taken : Bool
  /-- It was completed with an error, or its time-out is sure to come. -/
  failed : Bool
  retries : Nat
  /-- Its entry is in `s_timerList`. -/
  entry : Bool
  /-- Something was not timely. -/
  late : Bool

/-- The entry is taken out. -/
inductive Course.Meanwhile : Course → Course → Prop
  | nothing (g : Course) : Meanwhile g g
  | succeeds (g : Course) (hentry : g.entry = true) : Meanwhile g { g with entry := false }
  | fails (g : Course) (hentry : g.entry = true) :
    Meanwhile g { g with entry := false, failed := true, late := g.late || (g.switching || g.taken) }

def Course.allows (t : RIL_Token) (g : Course) : Act → Prop
  | .addAsyncCmdList _ t' _ => t' = t ∧ g.entry = false
  | .removeAsyncCmdList t' => t' = t
  | .RIL_onRequestComplete t' _ _ => t' = t
  | _ => True

def Course.answered (lte : Bool) (g : Course) (a : Answer) : Course :=
  { g with
    taken := g.taken || a = .ok
    retries := g.retries + if a = .cmeError3 then 1 else 0
    late := g.late || spoils lte g.switching g.failed g.retries a }

def Course.After (lte : Bool) (g : Course) : (a : Act) → a.Reply → Course → Prop
  | .get, r, g' => r.core = g.core ∧ g' = g
  | .modify f, _, g' => ∃ globals : Globals, globals.core = g.core ∧ g' = { g with core := (f globals).core }
  | .ask _ _, answer, g' => g' = g.answered lte answer
  | .addAsyncCmdList _ _ _, _, g' => g' = { g with entry := true }
  | .removeAsyncCmdList _, _, g' => g' = { g with entry := false }
  | .RIL_onRequestComplete _ e _, _, g' => g' = { g with failed := g.failed || e ≠ .RIL_E_SUCCESS }
  | .callApply _, _, g' => g' = { g with switching := true }
  | _, _, g' => g' = g

theorem Course.Meanwhile.trans {g g' g'' : Course} (h : Meanwhile g g') (h' : Meanwhile g' g'') : Meanwhile g g'' := by
  cases h with
  | nothing => exact h'
  | succeeds hentry =>
    cases h' with
    | nothing => exact .succeeds g hentry
    | succeeds hentry' => cases hentry'
    | fails hentry' => cases hentry'
  | fails hentry =>
    cases h' with
    | nothing => exact .fails g hentry
    | succeeds hentry' => cases hentry'
    | fails hentry' => cases hentry'

def course (lte : Bool) (t : RIL_Token) : Contract Act Act.Reply Course where
  rely := Course.Meanwhile
  pre := Course.allows t
  post := Course.After lte
  refl := .nothing
  trans := Course.Meanwhile.trans

abbrev Leads {α : Type} (lte : Bool) (t : RIL_Token) (P : Course → Prop) (m : NetProg α) (Q : Course → α → Prop) : Prop :=
  Triple (course lte t) P m Q

/-! ## Rules -/

variable {α : Type} {lte : Bool} {t : RIL_Token} {g g' : Course} {c c₀ : Core} {sw fresh : Bool} {n : Nat}
  {P : Course → Prop} {Q : Course → α → Prop}

/-- An action that the course does not see. -/
def Act.still : Act → Bool
  | .test _ | .lockRadioPower | .unlockRadioPower | .lockWorkMode | .unlockWorkMode | .send _ _
  | .voiceNetworkStateChanged _ | .unsolRadioCapability _ _ => true
  | _ => false

theorem Act.still_spec {a : Act} (ha : a.still = true) {r : a.Reply} :
    g.allows t a ∧ (Course.After lte g a r g' → g' = g) := by
  cases a <;> first | exact ⟨trivial, id⟩ | cases ha

theorem Leads.still {a : Act} {f : a.Reply → NetProg α} (hP : Stable (course lte t) P) (ha : a.still = true)
    (h : ∀ r, Leads lte t P (f r) Q) : Leads lte t P (act a >>= f) Q := by
  refine Triple.act hP (fun g _ => ?_) fun r => (h r).pre ?_
  · cases a <;> first | exact trivial | cases ha
  · rintro g' ⟨g, hg, hafter⟩
    rwa [(Act.still_spec (t := t) ha).2 hafter]

theorem Leads.stillLast {a : Act} (hP : Stable (course lte t) P) (ha : a.still = true) :
    Leads lte t P (act a) (fun g _ => P g) := by
  refine Triple.last hP (fun g _ => ?_) fun r => (Triple.pure hP fun g hg => hg).pre ?_
  · cases a <;> first | exact trivial | cases ha
  · rintro g' ⟨g, hg, hafter⟩
    rwa [(Act.still_spec (t := t) ha).2 hafter]

/-- An assertion for each value of the data. -/
structure OfCore (P : Core → Course → Prop) : Prop where
  stable : ∀ c lte t, Stable (course lte t) (P c)
  core : ∀ {c g}, P c g → g.core = c
  move : ∀ {c g} c', P c g → P c' { g with core := c' }

theorem Leads.get {P : Core → Course → Prop} {f : Globals → NetProg α} (hP : OfCore P)
    (h : ∀ r : Globals, r.core = c → Leads lte t (P c) (f r) Q) : Leads lte t (P c) (Network.get >>= f) Q := by
  refine Triple.act (hP.stable c lte t) (fun _ _ => trivial) fun r => ?_
  rintro g' ⟨g, hg, hr, rfl⟩
  exact h r (hr.trans (hP.core hg)) g' hg

theorem Leads.modify {P : Core → Course → Prop} {k : Globals → Globals} {f : Unit → NetProg α} (hP : OfCore P)
    (K : Core → Core) (hk : ∀ globals, (k globals).core = K globals.core) (h : Leads lte t (P (K c)) (f ()) Q) :
    Leads lte t (P c) (Network.modify k >>= f) Q := by
  refine Triple.act (hP.stable c lte t) (fun _ _ => trivial) fun r => ?_
  rintro g' ⟨g, hg, globals, hglobals, rfl⟩
  rw [hk, hglobals, hP.core hg]
  exact h _ (hP.move (K c) hg)

theorem Leads.modifyLast {P : Core → Course → Prop} {k : Globals → Globals} (hP : OfCore P) (K : Core → Core)
    (hk : ∀ globals, (k globals).core = K globals.core) :
    Leads lte t (P c) (Network.modify k) (fun g _ => P (K c) g) := by
  have hbind : Leads lte t (P c) (Network.modify k >>= pure) (fun g _ => P (K c) g) :=
    Leads.modify hP K hk (Triple.pure (hP.stable (K c) lte t) fun _ hg => hg)
  rwa [Programs.bind_pure] at hbind

/-! ## Assertions -/

theorem stable_of_entry {P : Course → Prop} (hP : ∀ g, P g → g.entry = false) : Stable (course lte t) P := by
  intro g g' hrely hg
  cases hrely with
  | nothing => exact hg
  | succeeds hentry => exact absurd hentry (by simp [hP g hg])
  | fails hentry => exact absurd hentry (by simp [hP g hg])

/-- Nothing has failed, and no entry waits. -/
structure Calm (sw fresh : Bool) (c : Core) (g : Course) : Prop where
  core : g.core = c
  switching : g.switching = sw
  failed : g.failed = false
  entry : g.entry = false
  late : g.late = false
  fresh : fresh = true → g.taken = false ∧ g.retries = 0

theorem ofCore_calm : OfCore (Calm sw fresh) where
  stable _ _ _ := stable_of_entry fun _ hg => hg.entry
  core hg := hg.core
  move _ hg := ⟨rfl, hg.switching, hg.failed, hg.entry, hg.late, hg.fresh⟩

/-- The command is tried. A switch has changed data already, another request has not. -/
structure Trying (sw : Bool) (n : Nat) (c : Core) (g : Course) : Prop where
  core : g.core = c
  switching : g.switching = sw
  taken : sw = false → g.taken = false
  retries : g.retries = n
  late : g.late = (sw && g.failed)

theorem ofCore_trying : OfCore (Trying sw n) where
  stable _ _ _ g g' hrely hg := by
    cases hrely with
    | nothing => exact hg
    | succeeds hentry => exact ⟨hg.core, hg.switching, hg.taken, hg.retries, hg.late⟩
    | fails hentry =>
      refine ⟨hg.core, hg.switching, hg.taken, hg.retries, ?_⟩
      have hlate := hg.late
      have htaken := hg.taken
      have hsw := hg.switching
      cases sw <;> simp_all
  core hg := hg.core
  move _ hg := ⟨rfl, hg.switching, hg.taken, hg.retries, hg.late⟩

/-- The command was taken. -/
structure Took (c : Core) (g : Course) : Prop where
  core : g.core = c
  changes : (g.switching || g.taken) = true
  late : g.late = g.failed

theorem ofCore_took : OfCore Took where
  stable _ _ _ g g' hrely hg := by
    cases hrely with
    | nothing => exact hg
    | succeeds hentry => exact ⟨hg.core, hg.changes, hg.late⟩
    | fails hentry => exact ⟨hg.core, hg.changes, by simp [hg.changes]⟩
  core hg := hg.core
  move _ hg := ⟨rfl, hg.changes, hg.late⟩

/-- The command was refused, which for a switch is too late. -/
structure Refused (sw : Bool) (c : Core) (g : Course) : Prop where
  core : g.core = c
  entry : g.entry = false
  late : g.late = sw

theorem ofCore_refused : OfCore (Refused sw) where
  stable _ _ _ := stable_of_entry fun _ hg => hg.entry
  core hg := hg.core
  move _ hg := ⟨rfl, hg.entry, hg.late⟩

/-- What holds when the function of the request has returned: something was late exactly if the request
has failed although it changed the data. -/
structure Ended (c₀ : Core) (g : Course) : Prop where
  late : g.late = true ↔ g.core ≠ c₀ ∧ g.failed = true
  told : c₀.Told → g.core.Told
  entry : g.entry = true → g.core ≠ c₀ ∧ (g.switching || g.taken) = true

theorem stable_ended : Stable (course lte t) (Ended c₀) := by
  intro g g' hrely hg
  cases hrely with
  | nothing => exact hg
  | succeeds hentry => exact ⟨hg.late, hg.told, fun h => Bool.noConfusion h⟩
  | fails hentry =>
    obtain ⟨hcore, hchanges⟩ := hg.entry hentry
    refine ⟨?_, hg.told, fun h => Bool.noConfusion h⟩
    simp [hchanges, hcore]

end UniRil.Network
