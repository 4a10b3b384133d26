import UniRil.Lib.Runs
import UniRil.Stk.Service

/-!
# The proactive commands that the framework is told of

Only one command is kept while the STK service does not run, and what comes meanwhile either takes its place or
overtakes it.
-/

namespace UniRil.Stk

open AtTok Runs
open Sim (SimPresentState)

/-- What changes the globals of the service. -/
inductive ServiceStep
  /-- A line that comes to `processStkUnsolicited`. -/
  | unsolicited (s : Line) (beyond : Mem)
  /-- A line `+ECIND:`. -/
  | simStatus (s : Line)
  | REPORT_STK_SERVICE_IS_RUNNING
  /-- A BIP thread lets the user be asked. -/
  | openChannelDialog (hexString : Line)
  | setSimPresent (hasSim : SimPresentState)
  | onModemReset

def serviceStep (g : Service) : ServiceStep → Service
  | .unsolicited s beyond => processStkUnsolicited s beyond g
  | .simStatus s => onSimStatusChanged s g
  | .REPORT_STK_SERVICE_IS_RUNNING => serviceIsRunning g
  | .openChannelDialog hexString => g.tell (.STK_PROACTIVE_COMMAND hexString)
  | .setSimPresent hasSim => setSimPresent hasSim g
  | .onModemReset => resetService g

/-! ## Commands for the framework -/

/-- A command, and whether it waits for the service. -/
structure ProactiveCommand where
  response : Line
  waits : Bool
  deriving DecidableEq

/-- A BIP command is for a thread alone, but the end of a channel is told as well. -/
def proCmd (response : Line) (beyond : Mem) : Option ProactiveCommand :=
  if cmdTypeOf response beyond = CLOSE_CHANNEL then some { response := response, waits := false }
  else if isBip (cmdTypeOf response beyond) then none
  else some { response := response, waits := !isSimReset response beyond }

def ServiceStep.command : ServiceStep → Option ProactiveCommand
  | .unsolicited s beyond =>
    if strStartsWith s (ascii "+SPUSATPROCMDIND:") then (firstText s).bind fun response => proCmd response beyond
    else if strStartsWith s (ascii "+SPUSATSETUPCALL:") then
      (firstText s).bind fun response => some { response := response, waits := false }
    else none
  | .openChannelDialog hexString => some { response := hexString, waits := false }
  | _ => none

/-- The commands for the framework, in the order in which they come. -/
def received (as : List ServiceStep) : List Line := as.filterMap fun a => a.command.map (·.response)

def Notice.command : Notice → Option Line
  | .STK_PROACTIVE_COMMAND response => some response
  | _ => none

/-- The commands that the framework was told of. -/
def Service.handed (g : Service) : List Line := g.notices.filterMap Notice.command

/-- All of the commands that are not lost. -/
def Service.known (g : Service) : List Line := g.handed ++ g.s_stkUnsolResponse.toList

/-- Nothing touches the command that is kept: the modem is not reset, and no other command comes. -/
def Undisturbed (g : Service) (a : ServiceStep) : Prop :=
  ∀ kept, g.s_stkUnsolResponse = some kept →
    a ≠ .onModemReset ∧ ∀ c, a.command = some c → c.waits = false ∧ c.response = kept

/-- Every command that was kept was given away when the service began to run. -/
def Idle (g : Service) : Prop := g.s_stkServiceRunning = true → g.s_stkUnsolResponse = none

/-! ## One step -/

@[simp] theorem handed_tell (g : Service) (n : Notice) : (g.tell n).handed = g.handed ++ n.command.toList := by
  cases h : n.command <;> simp [Service.handed, Service.tell, List.filterMap_append, h]

@[simp] theorem handed_stop (g : Service) : g.stop.handed = g.handed := rfl
@[simp] theorem handed_keep (g : Service) (response : Option Line) : (g.keep response).handed = g.handed := rfl

/-- What a step does to the commands. -/
inductive Moved (g g' : Service) : ServiceStep → Prop
  | tells {a : ServiceStep} (ha : a ≠ .onModemReset) (hwaits : ∀ c, a.command = some c → c.waits = true → g.s_stkServiceRunning = true)
      (hhanded : g'.handed = g.handed ++ (a.command.map (·.response)).toList)
      (hkept : g'.s_stkUnsolResponse = g.s_stkUnsolResponse)
      (hrunning : g'.s_stkServiceRunning = true → g.s_stkServiceRunning = true) : Moved g g' a
  | keeps {a : ServiceStep} {c : ProactiveCommand} (hc : a.command = some c) (hwaits : c.waits = true)
      (hhanded : g'.handed = g.handed) (hkept : g'.s_stkUnsolResponse = some c.response)
      (hrunning : g'.s_stkServiceRunning = false) : Moved g g' a
  | runs (hhanded : g'.handed = g.handed ++ g.s_stkUnsolResponse.toList) (hkept : g'.s_stkUnsolResponse = none) :
      Moved g g' .REPORT_STK_SERVICE_IS_RUNNING
  | resets (hhanded : g'.handed = g.handed) (hkept : g'.s_stkUnsolResponse = none) : Moved g g' .onModemReset

/-- The commands are left alone. -/
structure Still (g g' : Service) : Prop where
  handed : g'.handed = g.handed
  kept : g'.s_stkUnsolResponse = g.s_stkUnsolResponse
  running : g'.s_stkServiceRunning = true → g.s_stkServiceRunning = true

@[refl] theorem Still.refl (g : Service) : Still g g := ⟨rfl, rfl, id⟩

theorem Still.trans {g g' g'' : Service} (h : Still g g') (h' : Still g' g'') : Still g g'' :=
  ⟨h'.handed.trans h.handed, h'.kept.trans h.kept, fun hr => h.running (h'.running hr)⟩

theorem Still.tell {g g' : Service} (h : Still g g') {n : Notice} (hn : n.command = none) : Still g (g'.tell n) :=
  ⟨by simp [hn, h.handed], h.kept, h.running⟩

theorem Still.stop {g g' : Service} (h : Still g g') : Still g g'.stop := ⟨h.handed, h.kept, fun hr => nomatch hr⟩

theorem Still.resetIsim {g g' : Service} (h : Still g g') : Still g g'.resetIsim := ⟨h.handed, h.kept, h.running⟩

theorem Still.ite {g g' g'' : Service} {p : Prop} [Decidable p] (h : Still g g') (h' : Still g g'') :
    Still g (if p then g' else g'') := by
  split
  · exact h
  · exact h'

theorem Still.elim {α : Type} {g : Service} {f : α → Service} (o : Option α) (h : ∀ a, Still g (f a)) :
    Still g (o.elim g f) := by
  cases o with
  | none => exact .refl g
  | some a => exact h a

theorem Still.moved {g g' : Service} {a : ServiceStep} (h : Still g g') (ha : a ≠ .onModemReset)
    (hc : a.command = none) : Moved g g' a :=
  .tells ha (by simp [hc]) (by simp [hc, h.handed]) h.kept h.running

/-! ## Each function -/

theorem moved_giveOrKeep {g : Service} {a : ServiceStep} {c : ProactiveCommand} (ha : a ≠ .onModemReset)
    (hc : a.command = some c) (hwaits : c.waits = true) : Moved g (giveOrKeep c.response g) a := by
  unfold giveOrKeep
  dsimp only
  by_cases habsent : g.s_isSimPresent = .ABSENT ∧ g.s_stkServiceRunning = true
  · rw [if_pos habsent]
    exact .keeps hc hwaits rfl rfl rfl
  · rw [if_neg habsent]
    by_cases hrunning : g.s_stkServiceRunning = false
    · rw [if_pos hrunning]
      exact .keeps hc hwaits rfl rfl hrunning
    · rw [if_neg hrunning]
      refine .tells ha (fun _ _ _ => by simpa using hrunning) ?_ rfl id
      rw [hc]
      exact handed_tell g _

theorem moved_onProCmd {g : Service} {a : ServiceStep} {response : Line} {beyond : Mem}
    (ha : a ≠ .onModemReset) (hc : a.command = proCmd response beyond) : Moved g (onProCmd response beyond g) a := by
  unfold onProCmd
  unfold proCmd at hc
  dsimp only
  by_cases hclose : cmdTypeOf response beyond = CLOSE_CHANNEL
  · have hbip : isBip (cmdTypeOf response beyond) = true := by simp [isBip, hclose]
    rw [if_pos hclose] at hc
    rw [if_pos hclose, if_pos hbip]
    refine .tells ha (by simp [hc]) ?_ rfl id
    rw [hc]
    exact handed_tell g _
  · rw [if_neg hclose] at hc
    rw [if_neg hclose]
    by_cases hbip : isBip (cmdTypeOf response beyond) = true
    · rw [if_pos hbip] at hc
      rw [if_pos hbip]
      exact Still.moved ⟨rfl, rfl, id⟩ ha hc
    · rw [if_neg hbip] at hc
      rw [if_neg hbip]
      by_cases hreset : isSimReset response beyond = true
      · rw [if_pos hreset]
        exact .tells ha (by simp [hc, hreset]) (by simp [hc, Notice.command]) rfl fun hr => nomatch hr
      · rw [if_neg hreset]
        exact moved_giveOrKeep ha hc (by simp [hreset])

theorem still_onRefresh {s : Line} {beyond : Mem} {g g' : Service} (h : onRefresh s beyond g = some g') :
    Still g g' := by
  simp only [onRefresh, Option.bind_eq_bind, Option.bind_eq_some_iff, Option.pure_def, Option.some.injEq] at h
  obtain ⟨result, -, ef_id, -, aid, -, rfl⟩ := h
  refine Still.tell ?_ rfl
  have hstop : Still g (if result.1 = SIM_RESET ∨ result.1 = SIM_INIT then g.resetIsim.stop else g) :=
    .ite (Still.refl g).resetIsim.stop (.refl g)
  exact .ite (hstop.resetIsim.tell rfl) hstop

theorem still_onSimFault (cause : Int) (g : Service) : Still g (onSimFault cause g) :=
  .ite (((Still.refl g).tell rfl).tell rfl).stop
    (.ite (((Still.refl g).tell rfl).tell rfl) (.ite (((Still.refl g).tell rfl).tell rfl).stop (.refl g)))

theorem still_onSimStatusChanged (s : Line) (g : Service) : Still g (onSimStatusChanged s g) := by
  unfold onSimStatusChanged
  split
  · refine .ite ?_ (.refl g)
    split
    · exact .refl g
    · refine .ite (.elim _ fun cause => .elim _ fun cause => still_onSimFault cause g) (.ite ?_ (.ite ?_ (.ite ?_ (.refl g))))
      · exact ((Still.refl g).tell rfl).tell rfl
      · exact ((Still.refl g).tell rfl).tell rfl
      · exact .elim _ fun cause => Still.tell (.ite (Still.refl g).resetIsim (.refl g)) rfl
  · exact .refl g

theorem moved_firstText {g : Service} {a : ServiceStep} {s : Line} {f : Line → Option ProactiveCommand}
    {k : Line → Service} (ha : a ≠ .onModemReset) (hc : a.command = (firstText s).bind f)
    (h : ∀ response, a.command = f response → Moved g (k response) a) :
    Moved g ((firstText s).elim g k) a := by
  cases htext : firstText s with
  | none => exact (Still.refl g).moved ha (by rw [hc, htext]; rfl)
  | some response => exact h response (by rw [hc, htext]; rfl)

/-- A line has one of two beginnings that differ. -/
theorem strStartsWith_other {s pre : Line} (pre' : Line) (h : strStartsWith s pre = true)
    (hne : ¬ pre <+: pre' ∧ ¬ pre' <+: pre) :
    strStartsWith s pre' = false := by
  cases h' : strStartsWith s pre' with
  | false => rfl
  | true => exact ((strStartsWith_comparable h h').elim hne.1 hne.2).elim

theorem moved_unsolicited (g : Service) (s : Line) (beyond : Mem) :
    Moved g (processStkUnsolicited s beyond g) (.unsolicited s beyond) := by
  unfold processStkUnsolicited
  have ha : ServiceStep.unsolicited s beyond ≠ .onModemReset := fun h => nomatch h
  by_cases hend : strStartsWith s (ascii "+SPUSATENDSESSIONIND") = true
  · rw [if_pos hend]
    refine ((Still.refl g).tell rfl).moved ha ?_
    simp [ServiceStep.command, strStartsWith_other (ascii "+SPUSATPROCMDIND:") hend (by decide),
      strStartsWith_other (ascii "+SPUSATSETUPCALL:") hend (by decide)]
  rw [if_neg hend]
  by_cases hcmd : strStartsWith s (ascii "+SPUSATPROCMDIND:") = true
  · rw [if_pos hcmd]
    refine moved_firstText (f := fun response => proCmd response beyond) ha ?_ fun response => moved_onProCmd ha
    simp [ServiceStep.command, hcmd]
  rw [if_neg hcmd]
  by_cases hdisplay : strStartsWith s (ascii "+SPUSATDISPLAY:") = true
  · rw [if_pos hdisplay]
    refine Still.moved (.elim _ fun response => (Still.refl g).tell rfl) ha ?_
    simp [ServiceStep.command, hcmd, strStartsWith_other (ascii "+SPUSATSETUPCALL:") hdisplay (by decide)]
  rw [if_neg hdisplay]
  by_cases hsetup : strStartsWith s (ascii "+SPUSATSETUPCALL:") = true
  · rw [if_pos hsetup]
    refine moved_firstText (f := fun response => some { response := response, waits := false }) ha ?_ fun response hc => ?_
    · simp [ServiceStep.command, hcmd, hsetup]
    · refine .tells ha (by simp [hc]) ?_ rfl id
      rw [hc]
      exact handed_tell g _
  rw [if_neg hsetup]
  have hnone : ServiceStep.command (.unsolicited s beyond) = none := by simp [ServiceStep.command, hcmd, hsetup]
  split
  · cases hrefresh : onRefresh s beyond g with
    | none => exact (Still.refl g).moved ha hnone
    | some g' => exact (still_onRefresh hrefresh).moved ha hnone
  · exact Still.moved (.ite (.elim _ fun alpha_data => (Still.refl g).tell rfl) (.refl g)) ha hnone

theorem moved_serviceStep (g : Service) (a : ServiceStep) : Moved g (serviceStep g a) a := by
  cases a with
  | unsolicited s beyond => exact moved_unsolicited g s beyond
  | simStatus s => exact (still_onSimStatusChanged s g).moved (fun h => nomatch h) rfl
  | REPORT_STK_SERVICE_IS_RUNNING =>
    simp only [serviceStep, serviceIsRunning]
    cases h : g.s_stkUnsolResponse with
    | none => exact .runs (by rw [h]; exact (List.append_nil _).symm) rfl
    | some response =>
      refine .runs ?_ rfl
      rw [h]
      exact handed_tell _ _
  | openChannelDialog hexString => exact .tells (fun h => nomatch h) (by simp [ServiceStep.command]) (handed_tell g _) rfl id
  | setSimPresent hasSim => exact Still.moved ⟨rfl, rfl, id⟩ (fun h => nomatch h) rfl
  | onModemReset => exact .resets rfl rfl

/-! ## Runs -/

theorem Moved.idle {g g' : Service} {a : ServiceStep} (h : Moved g g' a) (hg : Idle g) : Idle g' := by
  intro hrunning
  cases h with
  | tells ha hwaits hhanded hkept hr => rw [hkept, hg (hr hrunning)]
  | keeps hc hwaits hhanded hkept hr => simp [hr] at hrunning
  | runs hhanded hkept => exact hkept
  | resets hhanded hkept => exact hkept

/-- The framework and the globals know of no more commands than have come. -/
theorem Moved.length_known_le {g g' : Service} {a : ServiceStep} (h : Moved g g' a) :
    g'.known.length ≤ g.known.length + (a.command.map (·.response)).toList.length := by
  cases h with
  | tells ha hwaits hhanded hkept hr => simp [Service.known, hhanded, hkept]; omega
  | keeps hc hwaits hhanded hkept hr => simp [Service.known, hhanded, hkept, hc]
  | runs hhanded hkept => simp [Service.known, hhanded, hkept]
  | resets hhanded hkept => simp [Service.known, hhanded, hkept]; omega

/-- **One step keeps the commands in order iff it leaves the command that is kept alone.** -/
theorem Moved.known_iff {g g' : Service} {a : ServiceStep} (h : Moved g g' a) (hg : Idle g) {before : List Line}
    (hlen : g.known.length ≤ before.length) :
    g'.known = before ++ (a.command.map (·.response)).toList ↔ g.known = before ∧ Undisturbed g a := by
  unfold Service.known at hlen ⊢
  unfold Undisturbed
  cases hstored : g.s_stkUnsolResponse with
  | none =>
    -- nothing is kept that could be disturbed
    cases h with
    | tells ha hwaits hhanded hkept hr => simp [hhanded, hkept, hstored]
    | keeps hc hwaits hhanded hkept hr => simp [hhanded, hkept, hc]
    | runs hhanded hkept => simp [hhanded, hkept, hstored, ServiceStep.command]
    | resets hhanded hkept => simp [hhanded, hkept, ServiceStep.command]
  | some kept =>
    have hstops : g.s_stkServiceRunning ≠ true := fun hr => by simp [hg hr] at hstored
    rw [hstored] at hlen
    have hshort : g.handed ≠ before := by
      rintro rfl
      simp at hlen
    cases h with
    | tells ha hwaits hhanded hkept hr =>
      rw [hhanded, hkept, hstored]
      cases hc : ServiceStep.command _ with
      | none => simp [ha]
      | some c =>
        have hnow : c.waits = false := by simpa [hstops] using hwaits c hc
        -- the command that is told overtakes the one that is kept
        simp only [Option.map_some, Option.toList_some]
        constructor
        · intro heq
          obtain ⟨hbefore, hsame⟩ := List.append_inj' heq rfl
          obtain rfl : kept = c.response := by simpa using hsame
          exact ⟨hbefore, fun k hk => ⟨ha, fun c' hc' => by simp_all⟩⟩
        · rintro ⟨rfl, hundisturbed⟩
          rw [((hundisturbed kept rfl).2 c rfl).2]
    | keeps hc hwaits hhanded hkept hr => simp [hhanded, hkept, hc, hwaits, hshort]
    | runs hhanded hkept => simp [hhanded, hkept, hstored, ServiceStep.command]
    | resets hhanded hkept => simp [hhanded, hkept, hshort, ServiceStep.command]

theorem known_foldl_iff (as : List ServiceStep) (g : Service) (hg : Idle g) (before : List Line)
    (hlen : g.known.length ≤ before.length) :
    (as.foldl serviceStep g).known = before ++ received as ↔
      g.known = before ∧ Steps (fun g a => some (serviceStep g a)) Undisturbed g as := by
  induction as generalizing g before with
  | nil => simp [received, Steps]
  | cons a as ih =>
    have hmoved := moved_serviceStep g a
    have hcons : received (a :: as) = (a.command.map (·.response)).toList ++ received as := by
      cases h : a.command <;> simp [received, h]
    have hlen' : (serviceStep g a).known.length ≤ (before ++ (a.command.map (·.response)).toList).length := by
      have := hmoved.length_known_le
      rw [List.length_append]
      omega
    rw [List.foldl_cons, hcons, ← List.append_assoc, ih _ (hmoved.idle hg) _ hlen', hmoved.known_iff hg hlen]
    simp [Steps, and_assoc]

/-- **The framework is told of the proactive commands as they come, each once and in order, iff nothing disturbs the
command that is kept for it**: one is kept, and a second one takes its place or overtakes it. -/
theorem delivered_in_order_iff (as : List ServiceStep) :
    (as.foldl serviceStep .init).known = received as ↔
      Steps (fun g a => some (serviceStep g a)) Undisturbed .init as := by
  have h := known_foldl_iff as .init (fun h => nomatch h) [] (Nat.le_refl 0)
  rw [List.nil_append] at h
  exact h.trans (and_iff_right rfl)

end UniRil.Stk
