import UniRil.Call.EccList

/-!
# Emergency calls the network asks for (ril_call.c)

A call that failed with cause 380 is dialled again as an emergency call, behind a query of the emergency numbers of
the network. Both functions take a channel of their own.
-/

namespace UniRil.Call.EmergencyRedial

open Flows Handlers
open AtTok (Line)
open Requests (Globals RIL_Dial eccList)
open EccList (lookup eccCommand)

variable {ε : Type}

/-! ## Channels -/

/-- The cells of the calls, and what became of the channels. -/
structure Redials where
  calls : Globals
  /-- What getChannel returned. -/
  obtained : List Nat
  /-- What putChannel was called with. -/
  released : List Nat

/-- `idle` is the channel that is found idle. -/
def getChannel (idle : Nat) : Handler Redials ε Nat := do
  modifyGlobals fun g => { g with obtained := g.obtained ++ [idle] }
  pure idle

def putChannel (channelID : Nat) : Handler Redials ε Unit :=
  modifyGlobals fun g => { g with released := g.released ++ [channelID] }

def onCalls {α : Type} (m : Handler Globals ε α) : Handler Redials ε α :=
  within Redials.calls (fun calls g => { g with calls }) m

/-! ## The redial -/

def ARRAY_SIZE : Nat := 128

/-- The `mcc` of the first line: `+CEN1:<reporting>,<mcc>,<mnc>`. -/
def getMcc (p_response : Pointer) : Handler Redials Unit Line := do
  let line ← firstLine p_response
  let line ← at_tok_start line ()
  let (mcc, _) ← at_tok_nextstr { line with cur := AtTok.skipNextComma line.cur } ()
  pure mcc

/-- The parameter is NULL where the allocation failed, the number where `strdup` did. -/
def dialEmergencyWhileCallFailed (idle : Nat) (param : Option (Option Line)) : Handler Redials ε Unit := do
  match param with
  | none => pure ()
  | some address => do
    let channelID ← getChannel idle
    let (_, category) ← onCalls (Requests.isEccNumber address (-1))
    let s ← at_send_command_multiline (ascii "AT+CEN?") (ascii "+CEN") none
    labelled (do
        if ← unsuccessful s then
          goto ()
        let mcc ← getMcc s.p_response
        RIL_onUnsolicitedText .RIL_EXT_UNSOL_ECC_NETWORKLIST_CHANGED
          (snprintf ARRAY_SIZE (mcc ++ ascii "," ++ printed address ++ ascii "@" ++ decimal category))
        onCalls (Requests.requestEccDial { address, clir := 0 } none category))
      -- done:
      fun _ => pure ()
    putChannel channelID
    at_response_free s.p_response

/-! ## What a redial is for -/

/-- The command dials. -/
def dials (cmd : Line) : Bool := (ascii "ATD").isPrefixOf cmd

/-- The category of the first entry for the number in the list that is in force, -1 if it has none. -/
def categoryOf (g : Globals) (n : Line) : Int := (lookup (eccList g) n (-1)).2

/-- One emergency call was dialled, to this number, and the channel was given back. -/
structure Redialled (n : Line) (category : Int) (idle : Nat) (w : World Redials) : Prop where
  dialled : (commands w.log).filter dials = [eccCommand n (if category = -1 then none else some category) 0]
  obtained : w.globals.obtained = [idle]
  released : w.globals.released = [idle]

/-- AT+CEN? is answered with success, with a line at least, and a colon in the first. -/
def MccThere (a : Answer) : Prop := ∃ line lines, linesOf (ascii "+CEN") a = some (line :: lines) ∧ (58 : Byte) ∈ line

/-! ## The steps -/

section

variable {E : Exit ε → World Redials → Prop} {w : World Redials}

@[simp ↓] theorem wp_getChannel {Q : Nat → World Redials → Prop} (idle : Nat) :
    wp (getChannel idle) Q E w ↔ Q idle (w.setGlobals fun g => { g with obtained := g.obtained ++ [idle] }) := by
  simp [getChannel]

@[simp ↓] theorem wp_putChannel {Q : Unit → World Redials → Prop} (channelID : Nat) :
    wp (putChannel channelID) Q E w ↔ Q () (w.setGlobals fun g => { g with released := g.released ++ [channelID] }) :=
  Iff.rfl

theorem wp_isEccNumber {Q : Bool × Int → World Redials → Prop} (n : Line) :
    wp (onCalls (Requests.isEccNumber (some n) (-1))) Q E w ↔ Q (lookup (eccList w.globals.calls) n (-1)) w := by
  unfold Requests.isEccNumber
  rw [onCalls, wp_within, wp_bind, wp_getGlobals, EccList.wp_compareEcc_some]
  exact Iff.rfl

end

/-! ## The first line -/

section

variable {E : Exit Unit → World Redials → Prop} {Q : Line → World Redials → Prop} {w : World Redials} {r : Response}
  {line : Line} {lines : List Line}

theorem wp_getMcc_nil (h : r.p_intermediates = []) :
    wp (getMcc (some r)) Q E w ↔ E .crashes (w.reads r.handle) := by
  simp [getMcc, h]

theorem wp_getMcc_bad (h : r.p_intermediates = line :: lines) (hcolon : (58 : Byte) ∉ line) :
    wp (getMcc (some r)) Q E w ↔ E (.goto ()) ((w.reads r.handle).reads r.handle) := by
  have hnone : AtTok.at_tok_start (some line) = none := by
    rw [← Option.not_isSome_iff_eq_none, at_tok_start_isSome]
    exact hcolon
  simp [getMcc, h, hnone]

def mccOf (line : Line) : Option Line :=
  (AtTok.at_tok_start (some line)).bind fun cur => (AtTok.at_tok_nextstr (AtTok.skipNextComma (some cur))).value

/-- The `mcc` is read, whatever stands behind the colon. -/
theorem wp_getMcc_cons (h : r.p_intermediates = line :: lines) (hcolon : (58 : Byte) ∈ line) :
    ∃ mcc, mccOf line = some mcc ∧
      ∀ {E : Exit Unit → World Redials → Prop} {Q : Line → World Redials → Prop} {w : World Redials},
        wp (getMcc (some r)) Q E w ↔ Q mcc (((w.reads r.handle).reads r.handle).reads r.handle) := by
  obtain ⟨cur, hcur⟩ := Option.isSome_iff_exists.1 ((at_tok_start_isSome line).2 hcolon)
  obtain ⟨mcc, hmcc⟩ := at_tok_nextstr_some (cur.dropWhile (· != 44)).tail
  refine ⟨mcc, ?_, ?_⟩
  · simp [mccOf, hcur, AtTok.skipNextComma, hmcc]
  · simp [getMcc, h, hcur, AtTok.skipNextComma, hmcc]

end

/-! ## Every failed call -/

theorem mccThere_iff {a : Answer} :
    MccThere a ↔ ∃ f ls line lines, a = .response f ls ∧ Command.isFinalResponseSuccess f = true ∧
      Command.intermediatesOf .MULTILINE (ascii "+CEN") ls = line :: lines ∧ (58 : Byte) ∈ line := by
  simp only [MccThere, linesOf_eq_some]
  constructor
  · rintro ⟨line, lines, ⟨f, ls, ha, hf, hls⟩, hcolon⟩
    exact ⟨f, ls, line, lines, ha, hf, hls, hcolon⟩
  · rintro ⟨f, ls, line, lines, ha, hf, hls, hcolon⟩
    exact ⟨line, lines, ⟨f, ls, ha, hf, hls⟩, hcolon⟩

theorem not_redialled {n : Line} {category : Int} {idle : Nat} {w : World Redials}
    (h : commands w.log = [ascii "AT+CEN?"]) : ¬ Redialled n category idle w := by
  intro hr
  have hdialled := hr.dialled
  have hquery : dials (ascii "AT+CEN?") = false := by decide
  rw [h, List.filter_cons_of_neg (by simp [hquery])] at hdialled
  cases hdialled

theorem dials_ATD (text : Line) : dials (ascii "ATD" ++ text) = true := by
  rw [dials, List.isPrefixOf_iff_prefix]
  exact List.prefix_append _ text

theorem categoryText_eq (category : Int) :
    (if category ≠ -1 then ascii "@" ++ decimal category ++ ascii ",#" else ascii "@,#") =
      ascii "@" ++ (if category = -1 then none else some category).elim [] decimal ++ ascii ",#" := by
  by_cases h : category = -1
  · rw [if_neg (not_not.2 h), if_pos h]
    rfl
  · rw [if_pos h, if_neg h, Option.elim_some]

/-- The call is dialled if there is memory for the command. -/
theorem wp_emergencyDial {E : Exit Unit → World Redials → Prop} {w : World Redials} {idle : Nat} (n : Line)
    (category : Int) (r : Response) (hlog : commands w.log = [ascii "AT+CEN?"])
    (hobtained : w.globals.obtained = [idle]) (hreleased : w.globals.released = []) :
    wp (onCalls (Requests.requestEccDial { address := some n, clir := 0 } none category))
        (fun _ => wp (do putChannel idle; at_response_free (some r) : Handler Redials Empty Unit)
          (fun _ => Redialled n category idle) fun _ _ => False) E w ↔
      w.allocates 0 = true := by
  have hend (w' : World Globals) :
      wp (do putChannel idle; at_response_free (some r) : Handler Redials Empty Unit)
          (fun _ => Redialled n category idle) (fun _ _ => False)
          (w'.withGlobals { w.globals with calls := w'.globals }) ↔
        (commands w'.log).filter dials = [eccCommand n (if category = -1 then none else some category) 0] := by
    simp only [wp_bind, wp_putChannel, wp_at_response_free_some]
    constructor
    · exact fun hr => hr.dialled
    · intro hdialled
      refine ⟨hdialled, hobtained, ?_⟩
      simp [hreleased]
  have hquery : dials (ascii "AT+CEN?") = false := by decide
  have hcommand := dials_ATD
  have hcategory := categoryText_eq category
  rw [onCalls, wp_within]
  refine (wp_congr (fun _ w' => hend w') fun _ _ => Iff.rfl).trans ?_
  rw [EccList.wp_requestEccDial
    (P := fun l => l.filter dials = [eccCommand n (if category = -1 then none else some category) 0]), hcategory]
  by_cases hmem : w.allocates 0
  · simp [hlog, hmem, hquery, hcommand, eccCommand, printed]
  · simp [hlog, hmem, hquery]

/-- **A failed call is dialled again** exactly if the network is answered for and there is memory for the command. -/
theorem redialled_iff (idle : Nat) (n : Line) (answers : Nat → Answer) (allocates : Nat → Bool) (calls : Globals) :
    wp (dialEmergencyWhileCallFailed idle (some (some n)) : Handler Redials Empty Unit)
        (fun _ => Redialled n (categoryOf calls n) idle) (fun _ _ => False)
        (.start answers allocates { calls, obtained := [], released := [] }) ↔
      MccThere (answers 0) ∧ allocates 0 = true := by
  rw [mccThere_iff]
  unfold dialEmergencyWhileCallFailed
  simp only [wp_bind, wp_getChannel, wp_isEccNumber, wp_at_send_command_multiline, wp_labelled]
  cases ha : answers 0 with
  | failed =>
    simp [World.start, ha]
    exact not_redialled rfl
  | response f ls =>
    by_cases hf : Command.isFinalResponseSuccess f = true
    · cases hls : Command.intermediatesOf .MULTILINE (ascii "+CEN") ls with
      | nil =>
        simp [World.start, ha, hf, hls]
        rw [wp_getMcc_nil rfl]
        exact id
      | cons line lines =>
        by_cases hcolon : (58 : Byte) ∈ line
        · obtain ⟨mcc, -, hmcc⟩ := wp_getMcc_cons (r := ⟨0, true, f, line :: lines⟩) rfl hcolon
          simp [World.start, ha, hf, hls, hcolon, hmcc]
          rw [categoryOf]
          exact wp_emergencyDial n _ _ rfl rfl rfl
        · simp [World.start, ha, hf, hls, hcolon]
          rw [wp_getMcc_bad rfl hcolon]
          exact not_redialled rfl
    · simp [World.start, ha, hf]
      exact not_redialled rfl

/-- AT+CEN? is answered with an error. -/
theorem redialled_fails_error :
    ¬ wp (dialEmergencyWhileCallFailed 1 (some (some (ascii "112"))) : Handler Redials Empty Unit)
        (fun _ => Redialled (ascii "112") (categoryOf Requests.idleGlobals (ascii "112")) 1) (fun _ _ => False)
        (.start (fun _ => .response (ascii "ERROR") []) (fun _ => true)
          { calls := Requests.idleGlobals, obtained := [], released := [] }) := by
  intro h
  have hrun := after_of_wp (P := Redialled (ascii "112") (categoryOf Requests.idleGlobals (ascii "112")) 1) h
  revert hrun
  refine not_redialled ?_
  decide

end UniRil.Call.EmergencyRedial
