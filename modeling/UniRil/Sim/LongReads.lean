import UniRil.Sim.Loops

/-!
# Long records (ril_sim.c)

requestSIM_IO reads more than 255 bytes in parts. What a card says to the commands of a run is told by the
run's own log.
-/

namespace UniRil.Sim

open Flows Handlers
open AtTok (Line)

/-! ## What the card says -/

def commandOf : Event → Option Line
  | .at_send_command cmd => some cmd
  | _ => none

def commandsOf (log : List Event) : List Line := log.filterMap commandOf

def readBinary (g : Slot) (p_args : RIL_SIM_IO_v6) (p1 p2 p3 : Nat) : Line :=
  simIoCommand g { p_args with p1 := p1, p2 := p2, p3 := p3 }

/-- What is asked for with READ BINARY is what the card says. -/
def AnsweredBy (g : Slot) (p_args : RIL_SIM_IO_v6) (card : Nat → Nat → Nat → Answer) (answers : Nat → Answer)
    (commands : List Line) : Prop :=
  ∀ k p1 p2 p3, commands[k]? = some (readBinary g p_args p1 p2 p3) → answers k = card p1 p2 p3

def responsePrefix (p_args : RIL_SIM_IO_v6) : Line :=
  if isISIMFileId p_args.fileid then ascii "+CRLA:" else ascii "+CRSM:"

/-- At each place of the file the card brings the bytes that are asked for, or another status. -/
def ReadsFile (p_args : RIL_SIM_IO_v6) (file : List Byte) (card : Nat → Nat → Nat → Answer) : Prop :=
  ∀ p1 p2 p3, 256 * p1 + p2 + p3 ≤ file.length →
    ∃ sr, simIoResponseOf (responsePrefix p_args) (card p1 p2 p3) = some sr ∧
      (goodStatus sr.sw1 = true →
        ∃ text, sr.simResponse = some text ∧
          convertHexToBin text = (true, (file.drop (256 * p1 + p2)).take p3))

/-- The status with which a card keeps its ICCID to itself. -/
def refusesICCID (p_args : RIL_SIM_IO_v6) (sr : RIL_SIM_IO_Response) : Prop :=
  p_args.fileid = 12258 ∧ sr.sw1 = 105 ∧ sr.sw2 = 134

/-! ## Parts -/

/-- The reads, each with its place and its length. -/
def readCommands (g : Slot) (p_args : RIL_SIM_IO_v6) (reads : List (Nat × Nat)) : List Event :=
  reads.map fun r => .at_send_command (readBinary g p_args (r.1 / 256) (r.1 % 256) r.2)

/-- The bytes that are read, one after another. -/
def bytesRead (reads : List (Nat × Nat)) : List Nat := reads.flatMap fun r => List.range' r.1 r.2

/-- What is left of the reads. The last one has brought `sr`: with a good status the reads cover the file
up to p3, with another one what was read before it is kept. -/
structure ReadInParts (p_args : RIL_SIM_IO_v6) (file : List Byte) (card : Nat → Nat → Nat → Answer)
    (reads : List (Nat × Nat)) (sw1 sw2 : Int) (text : Line) : Prop where
  short : ∀ r ∈ reads, 0 < r.2 ∧ r.2 ≤ 255
  last : ∃ before o n sr, reads = before ++ [(o, n)] ∧ bytesRead before = List.range o ∧
    simIoResponseOf (responsePrefix p_args) (card (o / 256) (o % 256) n) = some sr ∧ sr.sw1 = sw1 ∧ sr.sw2 = sw2 ∧
    if goodStatus sw1 = true then
      bytesRead reads = List.range p_args.p3.toNat ∧ convertHexToBin text = (true, file.take p_args.p3.toNat)
    else convertHexToBin text = (true, file.take o)

/-- The reads, and one answer. -/
def ReportsParts (g : Slot) (p_args : RIL_SIM_IO_v6) (t : RIL_Token) (file : List Byte)
    (card : Nat → Nat → Nat → Answer) (log : List Event) : Prop :=
  ∃ reads sw1 sw2 text,
    log = readCommands g p_args reads ++ [.RIL_onRequestComplete t .SUCCESS (.simData sw1 sw2 (some text))] ∧
      ReadInParts p_args file card reads sw1 sw2 text

variable {ε : Type} {g : Slot} {p_args : RIL_SIM_IO_v6} {file : List Byte} {card : Nat → Nat → Nat → Answer}
  {answers : Nat → Answer}

/-! ## The log -/

theorem commandsOf_append (l l' : List Event) : commandsOf (l ++ l') = commandsOf l ++ commandsOf l' :=
  List.filterMap_append

theorem commandsOf_readCommands (reads : List (Nat × Nat)) :
    commandsOf (readCommands g p_args reads) =
      reads.map fun r => readBinary g p_args (r.1 / 256) (r.1 % 256) r.2 := by
  have hall : commandOf ∘ (fun r => Event.at_send_command (readBinary g p_args (r.1 / 256) (r.1 % 256) r.2)) =
      fun r : Nat × Nat => some (readBinary g p_args (r.1 / 256) (r.1 % 256) r.2) := rfl
  rw [commandsOf, readCommands, List.filterMap_map, hall, List.filterMap_eq_map']

theorem AnsweredBy.append_left {l l' : List Line} (h : AnsweredBy g p_args card answers (l ++ l')) :
    AnsweredBy g p_args card answers l := by
  intro k p1 p2 p3 hk
  refine h k p1 p2 p3 ?_
  rw [List.getElem?_append_left ((List.getElem?_eq_some_iff.1 hk).1)]
  exact hk

/-- A command that the card has answered otherwise. -/
theorem not_answeredBy {log : List Event} {reads : List (Nat × Nat)} {o n : Nat}
    (h : readCommands g p_args (reads ++ [(o, n)]) <+: log) (hne : answers reads.length ≠ card (o / 256) (o % 256) n) :
    ¬ AnsweredBy g p_args card answers (commandsOf log) := by
  intro hby
  apply hne
  apply hby
  obtain ⟨rest, rfl⟩ := h
  rw [commandsOf_append, commandsOf_readCommands, List.getElem?_append_left (by simp)]
  simp

theorem wp_simIoResponse_log (line : Text) (p_response : Pointer) (w : World Slot) :
    wp (simIoResponse line p_response) (fun _ w' => w'.log = w.log)
      (fun e w' => e = .goto p_response ∧ w'.log = w.log) w := by
  simp [simIoResponse]

theorem wp_readICCID_log (r : Response) (w : World Slot) :
    wp (readICCID (some r)) (fun _ w' => w.log <+: w'.log) (fun e w' => (∃ p, e = .goto p) ∧ w.log <+: w'.log) w := by
  simp [readICCID]

/-- What a read does to the log. -/
structure PartLogged (p_args : RIL_SIM_IO_v6) (w w' : World Slot) : Prop where
  grows : w.log <+: w'.log
  sends : (isISIMFileId p_args.fileid = true → w.globals.s_simSessionId ≠ -1) → w.allocates 0 = true →
    w.log ++ [.at_send_command (simIoCommand w.globals p_args)] <+: w'.log ∧
      ∀ sr, simIoResponseOf (responsePrefix p_args) (w.answers 0) = some sr → ¬ refusesICCID p_args sr →
        w'.log = w.log ++ [.at_send_command (simIoCommand w.globals p_args)]

theorem partLogged_of_log {w w' : World Slot}
    (h : w.log ++ [.at_send_command (simIoCommand w.globals p_args)] <+: w'.log)
    (hplain : ∀ sr, simIoResponseOf (responsePrefix p_args) (w.answers 0) = some sr → ¬ refusesICCID p_args sr →
      w'.log = w.log ++ [.at_send_command (simIoCommand w.globals p_args)]) : PartLogged p_args w w' :=
  ⟨(List.prefix_append _ _).trans h, fun _ _ => ⟨h, hplain⟩⟩

theorem partLogged_of_eq {w w' : World Slot}
    (h : w'.log = w.log ++ [.at_send_command (simIoCommand w.globals p_args)]) : PartLogged p_args w w' :=
  partLogged_of_log (h ▸ List.prefix_refl _) fun _ _ _ => h

theorem wp_readSimRecord_log (hcmd : p_args.command = READ_BINERY) (w : World Slot) :
    wp (readSimRecord p_args : Handler Slot ε _) (fun _ w' => PartLogged p_args w w') (fun _ _ => False) w := by
  have hget : READ_BINERY ≠ COMMAND_GET_RESPONSE := by decide
  have hfree : ∀ {ε' β : Type} {E : Exit ε' → World Slot → Prop} {Q : World Slot → Prop} (p : Pointer) (b : β)
      (w1 : World Slot), (∀ w2 : World Slot, w2.log = w1.log → Q w2) →
      wp ((fun _ => b) <$> at_response_free p : Handler Slot ε' β) (fun _ w' => Q w') E w1 := by
    intro _ _ _ _ p b w1 h
    cases p with
    | none => simpa using h w1 rfl
    | some r => simpa using h (w1.frees r.handle) rfl
  simp [readSimRecord, hcmd, hget]
  refine ⟨?_, fun _ => ⟨?_, fun halloc => ⟨?_, ?_⟩⟩⟩
  · intro hisim hsession
    exact ⟨List.prefix_refl _, fun h => (h hisim hsession).elim⟩
  · intro hnone
    refine ⟨List.prefix_refl _, fun _ halloc => ?_⟩
    simp [hnone] at halloc
  · intro ha
    exact partLogged_of_eq rfl
  · intro f ls ha
    refine ⟨fun hf => partLogged_of_eq rfl, fun hf hl => partLogged_of_eq rfl, fun line hf hl => ?_⟩
    have hline : lineOf (responsePrefix p_args) (w.answers 0) = some line := lineOf_eq_some.2 ⟨f, ls, ha, hf, hl⟩
    generalize hr : (⟨w.given, true, f, [line]⟩ : Response) = r
    generalize hw0 : (((w.asks.sends (simIoCommand w.globals p_args)).gives.reads w.given).reads w.given) = w0
    have hlog0 : w0.log = w.log ++ [.at_send_command (simIoCommand w.globals p_args)] := by simp [← hw0]
    rcases exists_of_wp (wp_simIoResponse ⟨r, some line⟩ (some r) w0) with
      ⟨sr, w1, hrun, hfields, -⟩ | ⟨e, w1, hrun, rfl, hfields, -⟩
    · have hlog1 := (wp_of_ok hrun).1 (wp_simIoResponse_log ⟨r, some line⟩ (some r) w0)
      rw [wp_of_ok hrun]
      have hsr : simIoResponseOf (responsePrefix p_args) (w.answers 0) = some sr := by
        rw [simIoResponseOf, hline]
        exact hfields
      split
      · next hiccid =>
        have hlogged : ∀ w2 w3 : World Slot, w1.log <+: w2.log → w3.log = w2.log → PartLogged p_args w w3 := by
          intro w2 w3 h2 h3
          refine partLogged_of_log ?_ fun sr' hsr' hplain => ?_
          · rw [h3, ← hlog0, ← hlog1]
            exact h2
          · cases hsr.symm.trans hsr'
            exact (hplain hiccid).elim
        refine (wp_bind _ _).2 (wp_mono (wp_readICCID_log r w1) ?_ ?_)
        · intro a w2 h2
          exact hfree _ _ w2 fun w3 h3 => hlogged w2 w3 h2 h3
        · rintro e w2 ⟨⟨p, rfl⟩, h2⟩
          rw [atLabel_goto]
          exact hfree _ _ w2 fun w3 h3 => hlogged w2 w3 h2 h3
      · exact hfree _ _ w1 fun w2 h2 => partLogged_of_eq (by rw [h2, hlog1, hlog0])
    · have hlog1 := ((wp_of_error hrun).1 (wp_simIoResponse_log ⟨r, some line⟩ (some r) w0)).2
      rw [wp_of_error hrun, atLabel_goto]
      exact hfree _ _ w1 fun w2 h2 => partLogged_of_eq (by rw [h2, hlog1, hlog0])

/-- The log only grows while parts are read. -/
theorem wp_readParts_log (hcmd : p_args.command = READ_BINERY) (times total : Nat) (buffer : Option Line)
    (w : World Slot) :
    wp (readParts p_args times total buffer) (fun _ w' => w.log <+: w'.log) (fun _ w' => w.log <+: w'.log) w := by
  induction times generalizing total buffer w with
  | zero => exact List.prefix_refl _
  | succ times ih =>
    unfold readParts
    rw [wp_bind]
    generalize hq : (RIL_SIM_IO_v6.mk _ _ _ _ _ _ _) = q
    have hqcmd : q.command = READ_BINERY := by rw [← hq, hcmd]
    refine wp_mono (wp_readSimRecord_log hqcmd w) ?_ fun _ _ h => h.elim
    intro o w1 h1
    have hrest : ∀ total buffer,
        wp (readParts p_args times total buffer) (fun _ w' => w.log <+: w'.log) (fun _ w' => w.log <+: w'.log) w1 := by
      intro total buffer
      exact wp_mono (ih total buffer w1) (fun _ _ h => h1.grows.trans h) fun _ _ h => h1.grows.trans h
    simp [h1.grows, hrest]

/-! ## The parts -/

section

variable {len : Nat}

/-- The length of the part at `total`. -/
def partLength (len total : Nat) : Nat := if 255 ≤ len - total then 255 else len % 255

theorem partLength_eq {total : Nat} (hmod : total % 255 = 0) (hlt : total < len) :
    partLength len total = min 255 (len - total) := by
  unfold partLength
  split
  · omega
  · have hrest : len % 255 = (total + (len - total)) % 255 := by rw [Nat.add_sub_cancel' hlt.le]
    rw [hrest, Nat.add_mod, hmod, Nat.zero_add, Nat.mod_mod]
    omega

theorem range_append_range' (a n : Nat) : List.range a ++ List.range' a n = List.range (a + n) := by
  rw [List.range_eq_range', List.range_eq_range', ← List.range'_append_1, Nat.zero_add]

theorem bytesRead_concat (reads : List (Nat × Nat)) (o n : Nat) :
    bytesRead (reads ++ [(o, n)]) = bytesRead reads ++ List.range' o n := by
  simp [bytesRead]

/-- What is known when `reads` are done. -/
structure PartsDone (g : Slot) (p_args : RIL_SIM_IO_v6) (file : List Byte) (answers : Nat → Answer)
    (reads : List (Nat × Nat)) (total : Nat) (text : Line) (w : World Slot) : Prop where
  globals : w.globals = g
  allocates : ∀ n, w.allocates n = true
  answers : w.answers = fun n => answers (reads.length + n)
  log : w.log = readCommands g p_args reads
  short : ∀ r ∈ reads, 0 < r.2 ∧ r.2 ≤ 255
  bytes : bytesRead reads = List.range total
  text : convertHexToBin text = (true, file.take total)

/-- What holds at the end of the loop, if the card has answered. -/
def LoopEnd (g : Slot) (p_args : RIL_SIM_IO_v6) (file : List Byte) (card : Nat → Nat → Nat → Answer)
    (answers : Nat → Answer) (sr : RIL_SIM_IO_Response) (w : World Slot) : Prop :=
  AnsweredBy g p_args card answers (commandsOf w.log) →
    ∃ reads text, sr.simResponse = some text ∧ w.log = readCommands g p_args reads ∧
      ReadInParts p_args file card reads sr.sw1 sr.sw2 text

theorem short_concat {reads : List (Nat × Nat)} {o n : Nat} (h : ∀ r ∈ reads, 0 < r.2 ∧ r.2 ≤ 255) (hpos : 0 < n)
    (hle : n ≤ 255) : ∀ r ∈ reads ++ [(o, n)], 0 < r.2 ∧ r.2 ≤ 255 := by
  intro r hr
  rcases List.mem_append.1 hr with hr | hr
  · exact h r hr
  · obtain rfl := List.mem_singleton.1 hr
    exact ⟨hpos, hle⟩

/-- The arguments of one read. -/
def partArgs (p_args : RIL_SIM_IO_v6) (total n : Nat) : RIL_SIM_IO_v6 :=
  { p_args with p1 := (total / 256 : Nat), p2 := (total % 256 : Nat), p3 := n }

theorem partArgs_command (h : p_args.command = READ_BINERY) (total n : Nat) :
    (partArgs p_args total n).command = READ_BINERY := h

theorem readParts_succ (hlen : p_args.p3 = len) (times total : Nat) (buffer : Option Line) :
    readParts p_args (times + 1) total buffer = (do
      let sr ← readSimRecord (partArgs p_args total (partLength len total))
      let sr ← demand sr ()
      if !goodStatus sr.sw1 then
        pure { sr with simResponse := buffer }
      else do
        let simResponse ← deref buffer
        let part ← deref sr.simResponse
        let simResponse := simResponse ++ part.take (partLength len total * 2)
        if times = 0 then
          pure { sr with simResponse := some simResponse }
        else
          readParts p_args times (total + partLength len total) (some simResponse)) := by
  have hp3 : (if 255 ≤ p_args.p3 - total then 255 else p_args.p3 % 255) = (partLength len total : Int) := by
    rw [partLength, hlen]
    split
    · rw [if_pos (by omega)]
      rfl
    · rw [if_neg (by omega)]
      rfl
  have hdouble : ((partLength len total : Int) * 2).toNat = partLength len total * 2 := by omega
  rw [readParts]
  simp only [hp3, hdouble, Int.toNat_natCast, partArgs]

/-- The commands once the read at `total` has been sent. -/
theorem PartsDone.commands {reads : List (Nat × Nat)} {total : Nat} {text : Line} {w : World Slot}
    (hdone : PartsDone g p_args file answers reads total text w) (n : Nat) :
    readCommands g p_args (reads ++ [(total, n)]) =
      w.log ++ [.at_send_command (simIoCommand w.globals (partArgs p_args total n))] := by
  simp [readCommands, hdone.log, hdone.globals, readBinary, partArgs]

section

variable {total : Nat} {reads : List (Nat × Nat)} {text : Line} {w : World Slot}
  (hcmd : p_args.command = READ_BINERY) (hlen : p_args.p3 = len)
  (hsession : isISIMFileId p_args.fileid = true → g.s_simSessionId ≠ -1)
  (hdone : PartsDone g p_args file answers reads total text w)

include hcmd hlen hsession hdone

/-- The read at `total` is answered by something else than the card. -/
theorem wp_readParts_otherwise (times : Nat)
    (hother : answers reads.length ≠ card (total / 256) (total % 256) (partLength len total)) :
    wp (readParts p_args (times + 1) total (some text)) (LoopEnd g p_args file card answers)
      (fun _ w' => ¬ AnsweredBy g p_args card answers (commandsOf w'.log)) w := by
  have hread := wp_readSimRecord_log (ε := Unit) (partArgs_command hcmd total (partLength len total)) w
  rw [readParts_succ hlen, wp_bind]
  refine wp_mono hread ?_ fun _ _ h => h.elim
  intro o w1 h1
  have hsent := (h1.sends (by rw [hdone.globals]; exact hsession) (hdone.allocates 0)).1
  have hlong : ∀ w' : World Slot, w1.log <+: w'.log → ¬ AnsweredBy g p_args card answers (commandsOf w'.log) := by
    intro w' hw'
    have hcommands := hsent.trans hw'
    rw [← hdone.commands] at hcommands
    exact not_answeredBy hcommands hother
  have hnow : ∀ sr, LoopEnd g p_args file card answers sr w1 :=
    fun sr hby => (hlong w1 (List.prefix_refl _) hby).elim
  have hrest : ∀ total buffer,
      wp (readParts p_args times total buffer) (LoopEnd g p_args file card answers)
        (fun _ w' => ¬ AnsweredBy g p_args card answers (commandsOf w'.log)) w1 := by
    intro total buffer
    exact wp_mono (wp_readParts_log hcmd times total buffer w1) (fun _ w' h hby => (hlong w' h hby).elim)
      fun _ w' h => hlong w' h
  simp [hlong w1 (List.prefix_refl _), hrest, hnow]

variable (hfile : len ≤ file.length) (hcard : ReadsFile p_args file card)
  (hplain : ∀ p1 p2 p3 sr, simIoResponseOf (responsePrefix p_args) (card p1 p2 p3) = some sr →
    ¬ refusesICCID p_args sr)
  (hmod : total % 255 = 0) (hlt : total < len)

include hfile hcard hplain hmod hlt

/-- The read at `total` is answered by the card, and with a good status it goes on. -/
theorem wp_readParts_answered (times : Nat)
    (hasked : answers reads.length = card (total / 256) (total % 256) (partLength len total))
    (hnext : ∀ sr text' w1,
      PartsDone g p_args file answers (reads ++ [(total, partLength len total)]) (total + partLength len total) text'
        w1 →
      simIoResponseOf (responsePrefix p_args) (card (total / 256) (total % 256) (partLength len total)) = some sr →
      goodStatus sr.sw1 = true →
      wp (if times = 0 then pure { sr with simResponse := some text' }
          else readParts p_args times (total + partLength len total) (some text'))
        (LoopEnd g p_args file card answers)
        (fun _ w' => ¬ AnsweredBy g p_args card answers (commandsOf w'.log)) w1) :
    wp (readParts p_args (times + 1) total (some text)) (LoopEnd g p_args file card answers)
      (fun _ w' => ¬ AnsweredBy g p_args card answers (commandsOf w'.log)) w := by
  have hn := partLength_eq hmod hlt
  rw [readParts_succ hlen, wp_bind]
  generalize partLength len total = n at *
  obtain ⟨sr, hsr, hgood⟩ := hcard (total / 256) (total % 256) n (by omega)
  have hsr0 : simIoResponseOf (responsePrefix p_args) (w.answers 0) = some sr := by
    rw [hdone.answers, ← hsr, ← hasked]
    rfl
  have hnot := hplain _ _ _ sr hsr
  have hpartOf : partOf w.globals p_args.fileid (w.allocates 0) w.answers = some (sr, 1) := by
    rw [hdone.globals, hdone.allocates 0, partOf, if_neg fun h => hsession h.1 h.2]
    unfold responsePrefix at hsr0
    rw [hsr0]
    simpa [refusesICCID] using hnot
  have hpcmd := partArgs_command hcmd total n
  rcases exists_of_wp (wp_readSimRecord (ε := Unit) (partArgs p_args total n) hpcmd w) with
    ⟨o, w1, hrun, h1⟩ | ⟨_, _, _, h⟩
  swap
  · exact h.elim
  have hlogged := (wp_of_ok hrun).1 (wp_readSimRecord_log hpcmd w)
  rw [wp_of_ok hrun]
  obtain ⟨halloc1, hans1⟩ := h1.rest sr 1 hpartOf
  obtain rfl : o = some sr := by
    rw [h1.value, show (partArgs p_args total n).fileid = p_args.fileid from rfl, hpartOf]
    rfl
  have hlog1 : w1.log = readCommands g p_args (reads ++ [(total, n)]) := by
    rw [hdone.commands]
    refine (hlogged.sends ?_ (hdone.allocates 0)).2 sr hsr0 hnot
    rw [hdone.globals]
    exact hsession
  have hshort := short_concat hdone.short (o := total) (n := n) (by omega) (by omega)
  by_cases hstatus : goodStatus sr.sw1 = true
  · obtain ⟨part, hpart, hhex⟩ := hgood hstatus
    rw [show 256 * (total / 256) + total % 256 = total by omega] at hhex
    have htake : part.take (n * 2) = part := by
      refine List.take_of_length_le ?_
      rw [length_of_convertHexToBin hhex, List.length_take, List.length_drop]
      omega
    have hdone1 : PartsDone g p_args file answers (reads ++ [(total, n)]) (total + n) (text ++ part) w1 :=
      { globals := h1.globals.trans hdone.globals
        allocates := by
          intro k
          rw [halloc1]
          exact hdone.allocates (k + 1)
        answers := by
          rw [hans1, hdone.answers]
          funext k
          rw [List.length_append, List.length_singleton, Nat.add_assoc, Nat.add_comm 1 k]
        log := hlog1
        short := hshort
        bytes := by rw [bytesRead_concat, hdone.bytes, range_append_range']
        text := by rw [convertHexToBin_append_eq hdone.text hhex, ← List.take_add] }
    simpa [hstatus, hpart, htake, demand, deref] using hnext sr (text ++ part) w1 hdone1 hsr hstatus
  · -- what was read before is kept
    have hend : LoopEnd g p_args file card answers { sr with simResponse := some text } w1 := by
      intro _
      refine ⟨reads ++ [(total, n)], text, rfl, hlog1, hshort, reads, total, n, sr, rfl, hdone.bytes, hsr, rfl, rfl, ?_⟩
      rw [if_neg hstatus]
      exact hdone.text
    simpa [hstatus] using hend

theorem wp_readParts_reads (times : Nat) (htimes : total + 255 * times < len)
    (htimes' : len ≤ total + 255 * (times + 1)) :
    wp (readParts p_args (times + 1) total (some text)) (LoopEnd g p_args file card answers)
      (fun _ w' => ¬ AnsweredBy g p_args card answers (commandsOf w'.log)) w := by
  induction times generalizing total reads text w with
  | zero =>
    by_cases hasked : answers reads.length = card (total / 256) (total % 256) (partLength len total)
    · refine wp_readParts_answered hcmd hlen hsession hdone hfile hcard hplain hmod hlt 0 hasked ?_
      intro sr text' w1 hdone1 hsr hstatus
      have hn := partLength_eq hmod hlt
      have hall : total + partLength len total = len := by omega
      rw [hall] at hdone1
      intro _
      refine ⟨_, text', rfl, hdone1.log, hdone1.short, reads, total, _, sr, rfl, hdone.bytes, hsr, rfl, rfl, ?_⟩
      rw [if_pos hstatus, hlen]
      exact ⟨hdone1.bytes, hdone1.text⟩
    · exact wp_readParts_otherwise hcmd hlen hsession hdone 0 hasked
  | succ times ih =>
    by_cases hasked : answers reads.length = card (total / 256) (total % 256) (partLength len total)
    · have hlt1 : total + 255 < len :=
        Nat.lt_of_le_of_lt (Nat.add_le_add_left (Nat.le_mul_of_pos_right 255 times.succ_pos) total) htimes
      have htimes1 : total + 255 + 255 * times < len := by omega
      have htimes2 : len ≤ total + 255 + 255 * (times + 1) := by
        have hsum : total + 255 + 255 * (times + 1) = total + 255 * (times + 1 + 1) := by
          rw [Nat.mul_succ 255 (times + 1), Nat.add_assoc, Nat.add_comm 255]
        rwa [hsum]
      refine wp_readParts_answered hcmd hlen hsession hdone hfile hcard hplain hmod hlt (times + 1) hasked ?_
      intro sr text' w1 hdone1 hsr hstatus
      have hn := partLength_eq hmod hlt
      have hfull : partLength len total = 255 := by omega
      rw [hfull] at hdone1 ⊢
      rw [if_neg (Nat.succ_ne_zero times)]
      exact ih hdone1 (by rw [Nat.add_mod_right, hmod]) hlt1 htimes1 htimes2
    · exact wp_readParts_otherwise hcmd hlen hsession hdone (times + 1) hasked

end

/-- **A long record is read without gaps and reported once**, up to p3 or to the first read with another status. -/
theorem requestSIM_IO_readsParts (p_args : RIL_SIM_IO_v6) (t : RIL_Token) (file : List Byte)
    (card : Nat → Nat → Nat → Answer) (answers : Nat → Answer) (allocates : Nat → Bool) (g : Slot)
    (hcmd : p_args.command = READ_BINERY) (hlong : 255 < p_args.p3) (hint : p_args.p3 < 2 ^ 30)
    (hfile : p_args.p3 ≤ file.length) (hcard : ReadsFile p_args file card)
    (hsession : isISIMFileId p_args.fileid = true → g.s_simSessionId ≠ -1) (halloc : ∀ n, allocates n = true)
    (hplain : ∀ p1 p2 p3 sr, simIoResponseOf (responsePrefix p_args) (card p1 p2 p3) = some sr →
      ¬ refusesICCID p_args sr) :
    wp ( requestSIM_IO p_args t : Handler Slot Empty Unit)
      (fun _ w => AnsweredBy g p_args card answers (commandsOf w.log) → ReportsParts g p_args t file card w.log)
      (fun _ w => ¬ AnsweredBy g p_args card answers (commandsOf w.log)) (.start answers allocates g) := by
  obtain ⟨len, hlen⟩ := Int.eq_ofNat_of_zero_le (show 0 ≤ p_args.p3 by omega)
  obtain ⟨times, htimes⟩ : ∃ times, ((p_args.p3 + 254) / 255).toNat = times + 1 :=
    Nat.exists_eq_succ_of_ne_zero (by omega)
  have hstart : PartsDone g p_args file answers [] 0 [] (.start answers allocates g) :=
    { globals := rfl
      allocates := halloc
      answers := by
        funext n
        rw [List.length_nil, Nat.zero_add]
        rfl
      log := rfl
      short := by simp
      bytes := rfl
      text := rfl }
  have hloop := wp_readParts_reads hcmd hlen hsession hstart (by omega) hcard hplain (by omega)
    (by omega) times (by omega) (by omega)
  simp only [ requestSIM_IO, hcmd, hlong, hint, and_self, if_true, htimes, wp_labelled, wp_bind]
  refine wp_mono hloop ?_ ?_
  · intro sr w1 hend
    simp only [wp_RIL_onRequestComplete, log_note]
    intro hby
    have hby1 : AnsweredBy g p_args card answers (commandsOf w1.log) := by
      rw [commandsOf_append] at hby
      exact hby.append_left
    obtain ⟨reads, text, htext, hlog, hread⟩ := hend hby1
    exact ⟨reads, sr.sw1, sr.sw2, text, by rw [hlog, htext], hread⟩
  · rintro (_ | _ | _) w1 h
    · rw [atLabel_goto, wp_RIL_onRequestComplete]
      intro hby
      rw [log_note, commandsOf_append] at hby
      exact (h hby.append_left).elim
    · exact h
    · exact h

end

/-! ## Cards -/

/-- A transparent file of 300 bytes. -/
def longRead (fileid : Int) : RIL_SIM_IO_v6 where
  command := READ_BINERY
  fileid := fileid
  path := none
  p1 := 0
  p2 := 0
  p3 := 300
  data := none

def readLine (bytes : List Byte) : Line :=
  ascii "+CRSM" ++ 58 :: 32 :: (decimal 144 ++ 44 :: (decimal 0 ++ 44 :: 34 :: (convertBinToHex bytes ++ [34])))

def readingCard (file : List Byte) (p1 p2 p3 : Nat) : Answer :=
  .response (ascii "OK") [readLine ((file.drop (256 * p1 + p2)).take p3)]

theorem quote_notMem_hex (bin : List Byte) : 34 ∉ convertBinToHex bin := by
  have hdigit : ∀ n < 16, hexDigit (UInt8.ofNat n) ≠ 34 := by decide
  intro h
  rw [convertBinToHex, List.mem_flatMap] at h
  obtain ⟨b, -, hb⟩ := h
  obtain ⟨high, hhigh, low, hlow, hb1, hb2, -⟩ := halves b
  rw [hb1, hb2] at hb
  simp only [List.mem_cons, List.not_mem_nil, or_false] at hb
  rcases hb with hb | hb
  · exact hdigit high hhigh hb.symm
  · exact hdigit low hlow hb.symm

theorem simIoFields_readLine (bytes : List Byte) :
    simIoFields (some (readLine bytes)) = some ⟨144, 0, some (convertBinToHex bytes)⟩ := by
  have hname : ∀ c ∈ ascii "+CRSM", (c != 58) = true := by simp [ascii]
  have hstart : AtTok.at_tok_start (some (readLine bytes)) =
      some (32 :: (decimal 144 ++ 44 :: (decimal 0 ++ 44 :: 34 :: (convertBinToHex bytes ++ [34])))) := by
    rw [AtTok.at_tok_start, AtTok.at_tok_flag_start, Option.bind_some, readLine, List.dropWhile_append_of_pos hname]
    simp
  have hsw1 := at_tok_nextint_comma (n := 144) (by omega)
  have hsw2 := at_tok_nextint_comma (n := 0) (by omega)
  simp only [Nat.cast_ofNat, Nat.cast_zero] at hsw1 hsw2
  simp [simIoFields, hstart, at_tok_nextint_blank, hsw1, hsw2, AtTok.Tok.value, AtTok.at_tok_hasmore,
    at_tok_nextstr_quoted (quote_notMem_hex bytes)]

theorem readsFile_readingCard (file : List Byte) : ReadsFile (longRead 28474) file (readingCard file) := by
  intro p1 p2 p3 _
  generalize hbytes : (file.drop (256 * p1 + p2)).take p3 = bytes
  have hline : lineOf (responsePrefix (longRead 28474)) (readingCard file p1 p2 p3) = some (readLine bytes) := by
    rw [readingCard, hbytes]
    rfl
  refine ⟨⟨144, 0, some (convertBinToHex bytes)⟩, ?_, fun _ => ⟨_, rfl, convertHexToBin_convertBinToHex _⟩⟩
  rw [simIoResponseOf, hline, Option.bind_some, simIoFields_readLine]

def longFile : List Byte := List.replicate 300 7

/-- What the card says to the two reads. -/
def longAnswers (n : Nat) : Answer := readingCard longFile 0 (255 * n) (if n = 0 then 255 else 45)

theorem requestSIM_IO_readsParts_300 :
    wp ( requestSIM_IO (longRead 28474) (some 0) : Handler Slot Empty Unit)
      (fun _ w => AnsweredBy idleSlot (longRead 28474) (readingCard longFile) longAnswers (commandsOf w.log) →
        ReportsParts idleSlot (longRead 28474) (some 0) longFile (readingCard longFile) w.log)
      (fun _ w => ¬ AnsweredBy idleSlot (longRead 28474) (readingCard longFile) longAnswers (commandsOf w.log))
      (.start longAnswers (fun _ => true) idleSlot) := by
  have hlength : (longRead 28474).p3 ≤ longFile.length := by
    rw [longFile, List.length_replicate]
    exact Int.le_refl 300
  have hint : (300 : Int) < 2 ^ 30 := by omega
  refine requestSIM_IO_readsParts (longRead 28474) (some 0) longFile (readingCard longFile) longAnswers (fun _ => true)
    idleSlot rfl (by decide) hint hlength (readsFile_readingCard longFile) (fun h => absurd h (by decide))
    (fun _ => rfl) ?_
  rintro p1 p2 p3 sr - ⟨hfile, -⟩
  exact absurd hfile (by decide)

/-- The card keeps its ICCID to itself, and AT+CCID tells it. -/
def refusal : Answer := .response (ascii "OK") [ascii "+CRSM: 105,134"]

def refusedThenTold (n : Nat) : Answer :=
  if n % 2 = 0 then refusal else .response (ascii "OK") [ascii "+CCID: \"8986\""]

theorem readsFile_refusal : ReadsFile (longRead 12258) (List.replicate 300 0) fun _ _ _ => refusal := by
  intro p1 p2 p3 _
  refine ⟨⟨105, 134, none⟩, rfl, ?_⟩
  intro h
  exact absurd h (by decide)

theorem readBinary_ne_ccid (p1 p2 p3 : Nat) : ascii "AT+CCID" ≠ readBinary idleSlot (longRead 12258) p1 p2 p3 := by
  intro h
  have hchar : (ascii "AT+CCID")[4]? = (readBinary idleSlot (longRead 12258) p1 p2 p3)[4]? := by rw [h]
  have hcrsm : (readBinary idleSlot (longRead 12258) p1 p2 p3)[4]? = some 82 := rfl
  rw [hcrsm] at hchar
  exact absurd hchar (by decide)

theorem reportsParts_fails_refused :
    ReadsFile (longRead 12258) (List.replicate 300 0) (fun _ _ _ => refusal) ∧
      ¬ wp ( requestSIM_IO (longRead 12258) (some 0) : Handler Slot Empty Unit)
        (fun _ w => AnsweredBy idleSlot (longRead 12258) (fun _ _ _ => refusal) refusedThenTold (commandsOf w.log) →
          ReportsParts idleSlot (longRead 12258) (some 0) (List.replicate 300 0) (fun _ _ _ => refusal) w.log)
        (fun _ w => ¬ AnsweredBy idleSlot (longRead 12258) (fun _ _ _ => refusal) refusedThenTold (commandsOf w.log))
        (.start refusedThenTold (fun _ => true) idleSlot) := by
  have hlog : (after ( requestSIM_IO (longRead 12258) (some 0) : Handler Slot Empty Unit)
      (.start refusedThenTold (fun _ => true) idleSlot)).log =
      [.at_send_command (readBinary idleSlot (longRead 12258) 0 0 255), .at_send_command (ascii "AT+CCID"),
        .at_send_command (readBinary idleSlot (longRead 12258) 0 255 45), .at_send_command (ascii "AT+CCID"),
        .RIL_onRequestComplete (some 0) .SUCCESS (.simData 144 0 (some (ascii "98689868")))] := by decide +kernel
  refine ⟨readsFile_refusal, not_wp_of_after ?_ ?_⟩
  · rw [hlog]
    rintro (_ | _ | _ | _ | k) p1 p2 p3 hk
    · rfl
    · exact absurd (Option.some.inj hk) (readBinary_ne_ccid p1 p2 p3)
    · rfl
    · exact absurd (Option.some.inj hk) (readBinary_ne_ccid p1 p2 p3)
    · exact absurd hk (by simp [commandsOf, commandOf, List.filterMap_cons])
  · rw [hlog]
    rintro ⟨reads, sw1, sw2, text, heq, hread⟩
    obtain ⟨before, o, n, sr, -, -, hsr, hsw1, -⟩ := hread.last
    have hlast := congrArg List.getLast? heq
    rw [List.getLast?_concat] at hlast
    obtain ⟨rfl, -, -⟩ : 144 = sw1 ∧ 0 = sw2 ∧ some (ascii "98689868") = some text := by simpa using hlast
    have htold : simIoResponseOf (responsePrefix (longRead 12258)) refusal = some ⟨105, 134, none⟩ := rfl
    rw [htold] at hsr
    cases hsr
    exact absurd hsw1 (by decide)

end UniRil.Sim
