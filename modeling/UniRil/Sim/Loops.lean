import UniRil.Sim.Requests

/-!
# The loops of ril_sim.c

The lines of an answer, the parts of a long record and the commands to a logical channel: where each
loop ends, said in terms of the answers.
-/

namespace UniRil.Sim

open Flows Handlers
open AtTok (Line)

variable {ε : Type}

/-- Only responses were read. -/
structure OnlyRead (w w' : World Slot) : Prop where
  answers : w'.answers = w.answers
  allocates : w'.allocates = w.allocates
  globals : w'.globals = w.globals
  completions : ∀ t, w'.completions t = w.completions t

theorem OnlyRead.trans {w w1 w2 : World Slot} (h1 : OnlyRead w w1) (h2 : OnlyRead w1 w2) : OnlyRead w w2 where
  answers := h2.answers.trans h1.answers
  allocates := h2.allocates.trans h1.allocates
  globals := h2.globals.trans h1.globals
  completions t := (h2.completions t).trans (h1.completions t)

@[simp] theorem onlyRead_refl (w : World Slot) : OnlyRead w w := ⟨rfl, rfl, rfl, fun _ => rfl⟩

@[simp] theorem onlyRead_reads (w w' : World Slot) (h : Nat) : OnlyRead w (w'.reads h) ↔ OnlyRead w w' :=
  ⟨fun hw => ⟨hw.answers, hw.allocates, hw.globals, hw.completions⟩,
    fun hw => ⟨hw.answers, hw.allocates, hw.globals, hw.completions⟩⟩

/-- No request was answered. -/
structure Silent (w w' : World Slot) : Prop where
  globals : w'.globals = w.globals
  completions : ∀ t, w'.completions t = w.completions t

theorem silent_iff {w w' : World Slot} :
    Silent w w' ↔ w'.globals = w.globals ∧ ∀ t, w'.completions t = w.completions t :=
  ⟨fun h => ⟨h.globals, h.completions⟩, fun h => ⟨h.1, h.2⟩⟩

/-! ## The lines of AT+CLCK -/

theorem wp_lockStatus (r : Response) (lines : List Line) (response : Int × Int) (serviceClass : Int) (w : World Slot) :
    wp (lockStatus r lines response serviceClass)
      (fun _ w' => lines.all lockLineReads = true ∧ OnlyRead w w')
      (fun e w' => e = .goto (some r) ∧ lines.all lockLineReads = false ∧ OnlyRead w w') w := by
  induction lines generalizing response serviceClass w with
  | nil => simp [lockStatus]
  | cons l lines ih =>
    have hrest : ∀ (w1 : World Slot) response c, OnlyRead w w1 → lockLineReads l = true →
        wp (lockStatus r lines response c)
          (fun _ w' => (l :: lines).all lockLineReads = true ∧ OnlyRead w w')
          (fun e w' => e = .goto (some r) ∧ (l :: lines).all lockLineReads = false ∧ OnlyRead w w') w1 := by
      intro w1 response c hw1 hl
      simp only [List.all_cons, hl, Bool.true_and]
      refine wp_mono (ih response c w1) ?_ ?_
      · rintro _ w2 ⟨hall, hw2⟩
        exact ⟨hall, hw1.trans hw2⟩
      · rintro e w2 ⟨he, hall, hw2⟩
        exact ⟨he, hall, hw1.trans hw2⟩
    unfold lockStatus
    simp only [wp_bind, wp_at_tok_start, wp_at_tok_nextint, wp_at_tok_hasmore, wp_ite, wp_pure]
    refine ⟨?_, ?_⟩
    · intro cur hc
      refine ⟨?_, ?_⟩
      · intro n hn
        refine ⟨?_, ?_⟩
        · intro hm
          refine ⟨?_, ?_⟩
          · intro c hclass
            apply hrest
            · simp
            · simp [lockLineReads, hc, hn, hm, hclass]
          · intro hclass
            simp [lockLineReads, hc, hn, hm, hclass]
        · intro hm
          apply hrest
          · simp
          · simp [lockLineReads, hc, hn, hm]
      · intro hn
        simp [lockLineReads, hc, hn]
    · intro hc
      simp [lockLineReads, hc]

/-! ## The parts of a record -/

theorem wp_simIoResponse (line : Text) (p_response : Pointer) (w : World Slot) :
    wp (simIoResponse line p_response)
      (fun sr w' => simIoFields line.cur = some sr ∧ OnlyRead w w')
      (fun e w' => e = .goto p_response ∧ simIoFields line.cur = none ∧ OnlyRead w w') w := by
  simp only [simIoResponse, wp_bind, wp_at_tok_start, wp_at_tok_nextint, wp_at_tok_hasmore, wp_at_tok_nextstr, wp_ite,
    wp_pure, simIoFields]
  refine ⟨?_, ?_⟩
  · intro cur hc
    refine ⟨?_, ?_⟩
    · intro n1 h1
      refine ⟨?_, ?_⟩
      · intro n2 h2
        refine ⟨?_, ?_⟩
        · intro hm
          refine ⟨?_, ?_⟩
          · intro text htext
            simp [hc, h1, h2, hm, htext]
          · intro htext
            simp [hc, h1, h2, hm, htext]
        · intro hm
          simp [hc, h1, h2, hm]
      · intro h2
        simp [hc, h1, h2]
    · intro h1
      simp [hc, h1]
  · intro hc
    simp [hc]

theorem wp_readICCID (r : Response) (w : World Slot) :
    wp (readICCID (some r))
      (fun a w' => (textOf (ascii "+CCID:") (w.answers 0)).map
          (fun text => (⟨144, 0, some (swapPairs text)⟩ : RIL_SIM_IO_Response)) = some a.1 ∧
        w'.answers = (fun n => w.answers (n + 1)) ∧ w'.allocates = w.allocates ∧ w'.globals = w.globals ∧
          ∀ t, w'.completions t = w.completions t)
      (fun e w' => (∃ p, e = .goto p) ∧ textOf (ascii "+CCID:") (w.answers 0) = none ∧ w'.globals = w.globals ∧
          ∀ t, w'.completions t = w.completions t) w := by
  simp [readICCID, textOf]
  refine ⟨?_, ?_⟩
  · intro ha
    simp [ha, lineOf]
  · intro f ls ha
    refine ⟨?_, ?_, ?_⟩
    · intro hf
      simp [ha, lineOf, hf]
    · intro hf hl
      simp [ha, lineOf, hf, hl]
    · intro line hf hl
      simp [ha, lineOf, hf, hl]
      refine ⟨?_, ?_⟩
      · intro cur hc
        refine ⟨?_, ?_⟩
        · intro text htext
          simp [hc, htext]
        · intro htext
          simp [hc, htext]
      · intro hc
        simp [hc]

/-- What is left when a record of the command READ BINARY has been read. -/
structure PartRead (fileid : Int) (w : World Slot) (o : Option RIL_SIM_IO_Response) (w' : World Slot) : Prop where
  value : o = (partOf w.globals fileid (w.allocates 0) w.answers).map (·.1)
  globals : w'.globals = w.globals
  completions : ∀ t, w'.completions t = w.completions t
  rest : ∀ sr used, partOf w.globals fileid (w.allocates 0) w.answers = some (sr, used) →
    w'.allocates = (fun n => w.allocates (n + 1)) ∧ w'.answers = fun n => w.answers (n + used)

theorem partRead_iff {fileid : Int} {w w' : World Slot} {o : Option RIL_SIM_IO_Response} :
    PartRead fileid w o w' ↔ o = (partOf w.globals fileid (w.allocates 0) w.answers).map (·.1) ∧
      w'.globals = w.globals ∧ (∀ t, w'.completions t = w.completions t) ∧
      ∀ sr used, partOf w.globals fileid (w.allocates 0) w.answers = some (sr, used) →
        w'.allocates = (fun n => w.allocates (n + 1)) ∧ w'.answers = fun n => w.answers (n + used) :=
  ⟨fun h => ⟨h.value, h.globals, h.completions, h.rest⟩, fun h => ⟨h.1, h.2.1, h.2.2.1, h.2.2.2⟩⟩

theorem wp_readSimRecord (p_args : RIL_SIM_IO_v6) (hcmd : p_args.command = READ_BINERY) (w : World Slot) :
    wp (readSimRecord p_args : Handler Slot ε _) (PartRead p_args.fileid w) (fun _ _ => False) w := by
  have hget : READ_BINERY ≠ COMMAND_GET_RESPONSE := by decide
  have hfree : ∀ {ε' : Type} {E : Exit ε' → World Slot → Prop} (p : Pointer) (w' : World Slot) o,
      PartRead p_args.fileid w o w' →
      wp ((fun _ => o) <$> at_response_free p : Handler Slot ε' _) (PartRead p_args.fileid w) E w' := by
    intro _ _ p w' o hw'
    cases p with
    | none => simpa using hw'
    | some r => simpa [partRead_iff] using hw'
  simp [readSimRecord, hcmd, hget]
  refine ⟨?_, ?_⟩
  · intro hisim hsession
    simp [partRead_iff, partOf, hisim, hsession]
  · intro hisim
    refine ⟨?_, ?_⟩
    · intro halloc
      simp [partRead_iff, partOf, halloc]
    · intro halloc
      refine ⟨?_, ?_⟩
      · intro ha
        simp [partRead_iff, partOf, simIoResponseOf, lineOf, ha]
      · intro f ls ha
        refine ⟨?_, ?_, ?_⟩
        · intro hf
          simp [partRead_iff, partOf, simIoResponseOf, lineOf, ha, hf]
        · intro hf hl
          simp [partRead_iff, partOf, simIoResponseOf, lineOf, ha, hf, hl]
        · intro line hf hl
          have hpart : partOf w.globals p_args.fileid (w.allocates 0) w.answers =
              (simIoFields (some line)).bind fun sr =>
                if p_args.fileid = 12258 ∧ sr.sw1 = 105 ∧ sr.sw2 = 134 then
                  (textOf (ascii "+CCID:") (w.answers 1)).map fun text =>
                    ({ sw1 := 144, sw2 := 0, simResponse := some (swapPairs text) }, 2)
                else some (sr, 1) := by
            have hno : ¬ (isISIMFileId p_args.fileid = true ∧ w.globals.s_simSessionId = -1) := by
              rintro ⟨h1, h2⟩
              exact hisim h1 h2
            rw [partOf, if_neg hno]
            simp [simIoResponseOf, lineOf, ha, hf, hl, halloc]
          refine wp_mono (wp_simIoResponse _ _ _) ?_ ?_
          · rintro sr w1 ⟨hsr, hread⟩
            rw [hsr, Option.bind_some] at hpart
            split
            · next hiccid =>
              rw [if_pos hiccid] at hpart
              refine (wp_bind _ _).2 (wp_mono (wp_readICCID _ w1) ?_ ?_)
              · rintro ⟨sr', p_response⟩ w2 ⟨hvalue, hans, hall, hg, hc⟩
                have htext : textOf (ascii "+CCID:") (w1.answers 0) = textOf (ascii "+CCID:") (w.answers 1) := by
                  simp [hread.answers]
                rw [htext, Option.map_eq_some_iff] at hvalue
                obtain ⟨text, htext', rfl⟩ := hvalue
                rw [htext', Option.map_some] at hpart
                have hdone : PartRead p_args.fileid w (some ⟨144, 0, some (swapPairs text)⟩) w2 := by
                  simp [partRead_iff, hpart, hans, hall, hg, hc, hread.answers, hread.allocates, hread.globals,
                    hread.completions]
                exact hfree p_response w2 _ hdone
              · rintro e w2 ⟨⟨p_response, rfl⟩, htext, hg, hc⟩
                have htext' : textOf (ascii "+CCID:") (w1.answers 0) = textOf (ascii "+CCID:") (w.answers 1) := by
                  simp [hread.answers]
                rw [← htext', htext, Option.map_none] at hpart
                apply hfree
                simp [partRead_iff, hpart, hg, hc, hread.globals, hread.completions]
            · next hiccid =>
              rw [if_neg hiccid] at hpart
              simp [partRead_iff, hpart, hread.answers, hread.allocates, hread.globals, hread.completions]
          · rintro e w1 ⟨rfl, hsr, hread⟩
            rw [hsr] at hpart
            simp [partRead_iff, hpart, hread.globals, hread.completions]

/-- The first part is read with a good status. -/
def FirstPartGood (g : Slot) (fileid : Int) (allocates : Bool) (answers : Nat → Answer) : Prop :=
  ∃ sr used, partOf g fileid allocates answers = some (sr, used) ∧ goodStatus sr.sw1 = true

/-- No part that is copied is missing, and there is a buffer for them. -/
def PartsFit (g : Slot) (fileid : Int) (times : Nat) (buffer : Option Line) (allocates : Nat → Bool)
    (answers : Nat → Answer) : Prop :=
  PartsBringData g fileid times allocates answers ∧
    (buffer = none → times ≠ 0 → ¬ FirstPartGood g fileid (allocates 0) answers)

/-- The buffer is missing where its size is no `int`. -/
theorem partsFit_buffer {g : Slot} {fileid p3 : Int} {allocates : Nat → Bool} {answers : Nat → Answer}
    (hp3 : 255 < p3) :
    PartsFit g fileid ((p3 + 254) / 255).toNat (if p3 < 2 ^ 30 then some [] else none) allocates answers ↔
      PartsBringData g fileid ((p3 + 254) / 255).toNat allocates answers ∧
        (2 ^ 30 ≤ p3 → ∀ sr used, partOf g fileid (allocates 0) answers = some (sr, used) →
          goodStatus sr.sw1 = false) := by
  have htimes : ((p3 + 254) / 255).toNat ≠ 0 := by omega
  refine and_congr_right fun _ => ?_
  by_cases hlt : p3 < 2 ^ 30
  · have hge : ¬ 2 ^ 30 ≤ p3 := by omega
    simp only [hlt, hge, if_true, reduceCtorEq, false_implies]
  · have hge : 2 ^ 30 ≤ p3 := by omega
    simp only [hlt, hge, if_false, htimes, ne_eq, not_false_eq_true, forall_const, FirstPartGood]
    simp

theorem wp_readParts (p_args : RIL_SIM_IO_v6) (hcmd : p_args.command = READ_BINERY) (times total : Nat)
    (buffer : Option Line) (w : World Slot) :
    wp (readParts p_args times total buffer)
      (fun _ w' => Silent w w' ∧ PartsFit w.globals p_args.fileid times buffer w.allocates w.answers)
      (fun e w' => Silent w w' ∧
        (e = .goto () ∧ PartsFit w.globals p_args.fileid times buffer w.allocates w.answers ∨
          e = .crashes ∧ ¬ PartsFit w.globals p_args.fileid times buffer w.allocates w.answers)) w := by
  induction times generalizing total buffer w with
  | zero =>
    simp only [readParts, wp_pure]
    exact ⟨⟨rfl, fun _ => rfl⟩, trivial, fun _ h => absurd rfl h⟩
  | succ times ih =>
    unfold readParts
    simp only [wp_bind]
    refine wp_mono (wp_readSimRecord _ ?_ w) ?_ ?_
    · exact hcmd
    · intro o w1 h1
      have hsilent : Silent w w1 := ⟨h1.globals, h1.completions⟩
      have hvalue := h1.value
      cases hpart : partOf w.globals p_args.fileid (w.allocates 0) w.answers with
      | none =>
        have hfit : PartsFit w.globals p_args.fileid (times + 1) buffer w.allocates w.answers := by
          simp [PartsFit, PartsBringData, FirstPartGood, hpart]
        rw [hpart] at hvalue
        simp [hvalue, hsilent, hfit]
      | some part =>
        obtain ⟨sr, used⟩ := part
        rw [hpart] at hvalue
        subst hvalue
        obtain ⟨hall, hans⟩ := h1.rest sr used hpart
        have hfit : PartsFit w.globals p_args.fileid (times + 1) buffer w.allocates w.answers ↔
            (goodStatus sr.sw1 = true → buffer ≠ none ∧ sr.simResponse ≠ none ∧
              PartsBringData w.globals p_args.fileid times (fun n => w.allocates (n + 1))
                (fun n => w.answers (n + used))) := by
          simp [PartsFit, PartsBringData, FirstPartGood, hpart]
          cases goodStatus sr.sw1 <;> simp [and_comm]
        rw [hfit]
        simp
        refine ⟨?_, ?_⟩
        · intro hbad
          simp [hbad, hsilent]
        · intro hgood
          refine ⟨?_, ?_⟩
          · intro text htext
            refine ⟨?_, ?_⟩
            · intro part hp
              refine ⟨?_, ?_⟩
              · rintro rfl
                simp [htext, hp, hsilent, PartsBringData]
              · intro htimes
                have hrest : ∀ b, PartsFit w1.globals p_args.fileid times (some b) w1.allocates w1.answers ↔
                    PartsBringData w.globals p_args.fileid times (fun n => w.allocates (n + 1))
                      (fun n => w.answers (n + used)) := by
                  simp [PartsFit, h1.globals, hall, hans]
                have htrans : ∀ w2, Silent w1 w2 → Silent w w2 := by
                  intro w2 h2
                  exact ⟨h2.globals.trans h1.globals, fun t => (h2.completions t).trans (h1.completions t)⟩
                refine wp_mono (ih _ _ w1) ?_ ?_
                · rintro a w2 ⟨h2, hfits⟩
                  rw [hrest] at hfits
                  simp [htrans w2 h2, htext, hp, hfits]
                · rintro e w2 ⟨h2, hends⟩
                  rw [hrest] at hends
                  simpa [htrans w2 h2, hgood, htext, hp] using hends
            · intro hp
              simp [hgood, hp, hsilent]
          · intro hnone
            simp [hgood, hnone, hsilent]
    · intro _ _ h
      exact h.elim

/-! ## The commands to a channel -/

theorem wp_exchangeApdu_ends (beyond : Int → Line) (fuel : Nat) (p_args : RIL_SIM_APDU) (sw : Int × Int)
    (p_response : Pointer) (w : World Slot) :
    wp (exchangeApdu beyond fuel p_args sw p_response)
      (fun _ w' => Silent w w' ∧ ¬ Retried beyond w.answers p_args sw fuel)
      (fun e w' => Silent w w' ∧
        ((∃ l, e = .goto l) ∧ ¬ Retried beyond w.answers p_args sw fuel ∨
          e = .runsOn ∧ Retried beyond w.answers p_args sw fuel)) w := by
  induction fuel generalizing p_args sw p_response w with
  | zero => simp [exchangeApdu, Retried, silent_iff]
  | succ fuel ih =>
    have hnone : retryOf beyond (w.answers 0) p_args sw = none →
        ¬ Retried beyond w.answers p_args sw (fuel + 1) := by
      simp [Retried]
      intro h
      simp [h]
    unfold exchangeApdu
    simp only [wp_bind]
    rw [wp_at_send_command_singleline]
    refine ⟨?_, ?_⟩
    · intro ha
      have hno := hnone (by simp [ha, retryOf, lineOf])
      simp [hno, silent_iff]
    · intro f ls ha
      refine ⟨?_, ?_, ?_⟩
      · intro hf
        have hno := hnone (by simp [ha, retryOf, lineOf, hf])
        simp [hno, silent_iff]
      · intro hf hl
        have hno := hnone (by simp [ha, retryOf, lineOf, hf, hl])
        simp [hno, silent_iff]
      · intro line hf hl
        have hline : lineOf (ascii "+CGLA:") (w.answers 0) = some line := by
          rw [lineOf_eq_some]
          exact ⟨f, ls, ha, hf, hl⟩
        simp
        refine ⟨?_, ?_⟩
        · intro cur hc
          refine ⟨?_, ?_⟩
          · intro n hn
            refine ⟨?_, ?_⟩
            · intro text htext
              refine ⟨?_, ?_⟩
              · intro next hnext
                have hretried : Retried beyond w.answers p_args sw (fuel + 1) ↔
                    Retried beyond (fun n => w.answers (n + 1)) next (statusWords beyond n text sw).1 fuel := by
                  rcases hsw : (statusWords beyond n text sw).1 with ⟨sw1, sw2⟩
                  rw [hsw] at hnext
                  simp [Retried, retryOf, hline, hc, hn, htext, hsw, hnext]
                rw [hretried]
                refine wp_mono (ih next (statusWords beyond n text sw).1 _ _) ?_ ?_
                · rintro a w' ⟨hs, hends⟩
                  have hs' : Silent w w' := by simpa [silent_iff] using hs
                  exact ⟨hs', hends⟩
                · rintro e w' ⟨hs, hends⟩
                  have hs' : Silent w w' := by simpa [silent_iff] using hs
                  simpa [hs'] using hends
              · intro hnext
                have hno := hnone (by simp [retryOf, hline, hc, hn, htext, hnext])
                simp [hno, silent_iff]
            · intro htext
              have hno := hnone (by simp [retryOf, hline, hc, hn, htext])
              simp [hno, silent_iff]
          · intro hn
            have hno := hnone (by simp [retryOf, hline, hc, hn])
            simp [hno, silent_iff]
        · intro hc
          have hno := hnone (by simp [retryOf, hline, hc])
          simp [hno, silent_iff]

end UniRil.Sim
