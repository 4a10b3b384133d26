import UniRil.Dispatch

/-!
# What becomes of an unsolicited line (sprd_ril.c)

`onUnsolicited` asks the files one after the other, and each of them looks at the beginning of the line.
-/

namespace UniRil.Dispatch

open AtTok (Line)
open Sim.BusyPoll (RIL_RadioState)

/-- The beginnings of the lines that the `processXxxUnsolicited` of a file does not return 0 for; AT_PREFIX is `+SP`. -/
def File.beginnings : File → List Line
  | .Sim => [ascii "+ECIND:", ascii "+SPEXPIRESIM:", ascii "+CLCK:", ascii "+SPSLENABLED:"]
  | .Call =>
    [ascii "+CRING:", ascii "RING", ascii "NO CARRIER", ascii "+CCWA", ascii "^DSCI:", ascii "+CMCCSI:",
     ascii "+CMCCSS", ascii "+CEN1", ascii "+CIREPH", ascii "+SPDVTCODECRI:", ascii "+SPDVTSTRRI:",
     ascii "+SPDVTSENDRI", ascii "+SPDVTMMTI", ascii "+SPDVTRELEASING", ascii "+SPDVTRECARI", ascii "+SPVTMDSTRT",
     ascii "+SPDVTRING:", ascii "+SPDVTCLOSED", ascii "+SPIMSPDPINFO", ascii "+SCSFB", ascii "+CSSSFB",
     ascii "+IMSHOU", ascii "+IMSHORSTU", ascii "+IMSHOLTEINFU", ascii "+IMSREGADDR:", ascii "+WIFIPARAM:",
     ascii "+EARLYMEDIA:", ascii "+SPCAPABILITY:"]
  | .Network =>
    [ascii "+CSQ:", ascii "+CESQ:", ascii "+CREG:", ascii "+CGREG:", ascii "+CEREG:", ascii "+CIREGU:", ascii "^CONN:",
     ascii "+SPPCI:", ascii "+SPNWNAME:", ascii "+SPTESTMODE:", ascii "+SPDSDASTATUS:", ascii "+SPFREQSCAN:"]
  | .Data =>
    [ascii "+CGEV:", ascii "^CEND:", ascii "+SPGS:", ascii "+SPREPORTRAU:", ascii "+SPERROR:", ascii "+SPSWAPCARD:",
     ascii "SPUCOPSLIST:", ascii "+SPPCODATA:"]
  | .SS => [ascii "+CUSD:", ascii "+CSSI:", ascii "+CSSU:", ascii "+SPDSDASTATUS:"]
  | .Sms =>
    [ascii "+CMT:", ascii "+CDS:", ascii "+CMGR:", ascii "+CMTI:", ascii "+CBM:", ascii "+SPLWRN:", ascii "^SMOF:"]
  | .Stk =>
    [ascii "+SPUSATENDSESSIONIND", ascii "+SPUSATPROCMDIND:", ascii "+SPUSATDISPLAY:", ascii "+SPUSATSETUPCALL:",
     ascii "+SPUSATREFRESH:", ascii "+SPUSATCALLCTRL:"]
  | .Misc => [ascii "+CTZV:", ascii "+SPCLB:", ascii "%RSIMREQ:", ascii "+SPLTERATEMODE:"]

/-- The function of the file does not return 0. -/
def File.takes (s : Line) (f : File) : Bool := f.beginnings.any (strStartsWith s)

/-- The operands of the `||`. -/
def unsolicitedFiles : List File := [.Sim, .Call, .Network, .Data, .SS, .Sms, .Stk, .Misc]

/-- The file whose function processes the line, with the functions in some order. -/
def onUnsolicitedIn (order : List File) (radioState : RIL_RadioState) (s : Line) : Option File :=
  if radioState = .RADIO_STATE_UNAVAILABLE then none else order.find? (File.takes s)

def onUnsolicited : RIL_RadioState → Line → Option File := onUnsolicitedIn unsolicitedFiles

def SPDSDASTATUS : Line := ascii "+SPDSDASTATUS:"

/-! ## At most one file processes a line -/

/-- One of the two is the beginning of the other. -/
def Comparable (p q : Line) : Prop := p <+: q ∨ q <+: p

instance (p q : Line) : Decidable (Comparable p q) := inferInstanceAs (Decidable (p <+: q ∨ q <+: p))

theorem beginnings_comparable : unsolicitedFiles.Pairwise fun f g =>
    ∀ p ∈ f.beginnings, ∀ q ∈ g.beginnings, Comparable p q → p = SPDSDASTATUS ∧ q = SPDSDASTATUS := by
  decide +kernel

theorem takes_iff (s : Line) (f : File) : f.takes s = true ↔ ∃ p ∈ f.beginnings, strStartsWith s p = true := by
  simp [File.takes]

/-- Only one line has two files that would process it. -/
theorem takes_unique {s : Line} (hs : strStartsWith s SPDSDASTATUS = false) {f g : File} (hf : f ∈ unsolicitedFiles)
    (hg : g ∈ unsolicitedFiles) (hfs : f.takes s = true) (hgs : g.takes s = true) : f = g := by
  rw [takes_iff] at hfs hgs
  obtain ⟨p, hp, hsp⟩ := hfs
  obtain ⟨q, hq, hsq⟩ := hgs
  by_contra hne
  have hboth := (@List.Pairwise.forall _ _ _ ⟨fun _ _ h p hp q hq hpq => (h q hq p hp hpq.symm).symm⟩
    beginnings_comparable) hf hg hne
  rw [(hboth p hp q hq (strStartsWith_comparable hsp hsq)).1, hs] at hsp
  exact Bool.false_ne_true hsp

theorem takes_SPDSDASTATUS {s : Line} (hs : strStartsWith s SPDSDASTATUS = true) :
    File.Network.takes s = true ∧ File.SS.takes s = true := by
  simp only [takes_iff]
  exact ⟨⟨_, by decide, hs⟩, ⟨_, by decide, hs⟩⟩

theorem mem_unsolicitedFiles (f : File) : f ∈ unsolicitedFiles := by
  cases f <;> decide

/-- **A line is processed by the same file in every order of the files iff it is none of +SPDSDASTATUS:**, or no line is
processed at all. -/
theorem onUnsolicited_perm_iff (radioState : RIL_RadioState) (s : Line) :
    (∀ order, order.Perm unsolicitedFiles → onUnsolicitedIn order radioState s = onUnsolicited radioState s) ↔
      (radioState ≠ .RADIO_STATE_UNAVAILABLE → strStartsWith s SPDSDASTATUS = false) := by
  unfold onUnsolicited onUnsolicitedIn
  by_cases hstate : radioState = .RADIO_STATE_UNAVAILABLE
  · simp [hstate]
  · simp only [if_neg hstate]
    refine ⟨fun hsame _ => ?_, fun hs order horder => ?_⟩
    · rw [← Bool.not_eq_true]
      intro hs
      obtain ⟨hnetwork, hss⟩ := takes_SPDSDASTATUS hs
      have hfirst := hsame [.Network, .Sim, .Call, .Data, .SS, .Sms, .Stk, .Misc] (by decide)
      have hsecond := hsame [.SS, .Network, .Sim, .Call, .Data, .Sms, .Stk, .Misc] (by decide)
      rw [List.find?_cons_of_pos hnetwork] at hfirst
      rw [List.find?_cons_of_pos hss, ← hfirst] at hsecond
      simp at hsecond
    · refine find?_perm horder fun f _ g _ => ?_
      exact takes_unique (hs hstate) (mem_unsolicitedFiles f) (mem_unsolicitedFiles g)

end UniRil.Dispatch
