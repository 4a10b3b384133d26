import Mathlib.Data.List.ReduceOption
import UniRil.Readline.Proofs

/-!
# The cursor and the prompt

`findNextEOL` ends the un-terminated prompt at the NUL behind the data. When the prompt is all
the data there is, the cursor then stands behind that NUL, where bytes of earlier reads lie.
-/

namespace UniRil.Readline

/-- The data from the cursor on is the prompt and nothing else. -/
def ATBuffer.atPrompt (b : ATBuffer) : Prop := isPrompt b.cells = true ∧ b.p_read = b.s_ATBufferCur + 2

/-- The read loop of `readline` looks for an EOL in `t`. -/
inductive FillTests : ATBuffer → Fd → ATBuffer → Prop
  | here {b fd t fd'} : b.pull fd = (true, t, fd') → FillTests b fd t
  | later {b fd b' fd' t} : b.pull fd = (true, b', fd') → b'.findEOL = none → FillTests b' fd' t → FillTests b fd t

/-- A call of `readline` looks for an EOL in `t`. -/
inductive Tests (b : ATBuffer) (fd : Fd) : ATBuffer → Prop
  | first : b.cells.headD NUL ≠ NUL → Tests b fd b.skipNewlines
  | fill {b' t} : b.enter = (none, b') → FillTests b' fd t → Tests b fd t

theorem atPrompt_iff {b : ATBuffer} {text : List Byte} (h : Holds b text) : b.atPrompt ↔ text = ascii "> " := by
  obtain ⟨stale, hcells⟩ := h.cells
  rw [ATBuffer.atPrompt, hcells, isPrompt_iff, h.read]
  constructor
  · rintro ⟨rfl | ⟨rest, rfl⟩, hlen⟩
    · rfl
    · have htwo : (ascii "> " ++ NUL :: rest).length = rest.length + 3 := rfl
      omega
  · rintro rfl
    exact ⟨Or.inl rfl, rfl⟩

/-- What looking for an EOL leads to. Either no test met the prompt: then `data` arrived and the buffer
`b` holds bytes of the text and of `data`, in their order. Or the last test met it. -/
inductive Outcome (tests : ATBuffer → Prop) (text : List Byte) (fd : Fd) (p : Option Nat) (b : ATBuffer) (fd' : Fd) :
    Prop where
  | clean (data text' : List Byte) (hdata : fd.flatten = data ++ fd'.flatten) (hb : Holds b text')
      (hsub : text'.Sublist (text ++ data)) (hp : ∀ q, p = some q → b.findEOL = some q ∧ ¬ b.atPrompt)
      (htests : ∀ t, tests t → ¬ t.atPrompt)
  | prompt (t : ATBuffer) (ht : tests t) (hprompt : t.atPrompt) (hb : Holds b (ascii "> "))
      (hp : p = some (b.s_ATBufferCur + 2))

theorem findEOL_prompt {b : ATBuffer} (h : Holds b (ascii "> ")) : b.findEOL = some (b.s_ATBufferCur + 2) := by
  have hprompt := (atPrompt_iff h).2 rfl
  simp [ATBuffer.findEOL, findNextEOL, hprompt.1]

/-- A turn on any buffer, full or not. -/
theorem pull_sublist {b : ATBuffer} {text : List Byte} (h : Holds b text) (fd : Fd) :
    ∃ got b' fd' data text', b.pull fd = (got, b', fd') ∧ fd.flatten = data ++ fd'.flatten ∧ Holds b' text' ∧
      text'.Sublist (text ++ data) ∧ (got = true → fd'.reads < fd.reads) := by
  have key : ∀ {b : ATBuffer} {text : List Byte}, Holds b text → b.p_read < MAX_AT_RESPONSE →
      ∃ got b' fd' data text', b.pull fd = (got, b', fd') ∧ fd.flatten = data ++ fd'.flatten ∧ Holds b' text' ∧
        text'.Sublist (text ++ data) ∧ (got = true → fd'.reads < fd.reads) := by
    intro b text h hroom
    obtain ⟨data, fd', hread, hcase⟩ := pull_spec h hroom fd
    obtain ⟨-, hflat, -, hreads⟩ := @Fd.read_spec fd (MAX_AT_RESPONSE - b.p_read) (by omega)
    rw [hread] at hflat hreads
    rcases hcase with ⟨rfl, hpull⟩ | ⟨hne, b', hpull, hb', -⟩
    · exact ⟨false, b, fd', [], text, hpull, hflat, h, by simp, by simp⟩
    · exact ⟨true, b', fd', data, _, hpull, hflat, hb', List.dropWhile_sublist _, fun _ => (hreads hne).1⟩
  by_cases hfull : b.p_read = MAX_AT_RESPONSE
  · have hreset : b.reset.p_read < MAX_AT_RESPONSE := (by decide : 0 < MAX_AT_RESPONSE)
    obtain ⟨got, b', fd', data, text', hpull, hflat, hb', hsub, hreads⟩ := key (reset_spec h.size) hreset
    exact ⟨got, b', fd', data, text', (pull_full hfull fd).trans hpull, hflat, hb',
      hsub.trans (List.sublist_append_right _ _), hreads⟩
  · exact key h (by have := h.le; omega)

theorem fill_outcome {fuel : Nat} {b : ATBuffer} {text : List Byte} {fd : Fd} (h : Holds b text)
    (hfuel : fd.reads < fuel) :
    Outcome (FillTests b fd) text fd (b.fill fuel fd).1 (b.fill fuel fd).2.1 (b.fill fuel fd).2.2 := by
  induction fuel generalizing b text fd with
  | zero => omega
  | succ fuel ih =>
    obtain ⟨got, b', fd', data, text', hpull, hflat, hb', hsub, hreads⟩ := pull_sublist h fd
    rw [ATBuffer.fill, hpull]
    cases got with
    | false =>
      refine .clean data text' hflat hb' hsub (by simp) ?_
      rintro t (⟨ht⟩ | ⟨ht, -, -⟩) <;> simp [hpull] at ht
    | true =>
      simp only [if_true]
      have htest : FillTests b fd b' := .here hpull
      rcases hp : b'.findEOL with _ | q
      · -- No EOL yet: the next turn.
        simp only
        have hless := hreads rfl
        rcases @ih b' text' fd' hb' (by omega) with
          ⟨data', text'', hflat', hb'', hsub', hp', htests⟩ | ⟨t, ht, hprompt, hb'', hp'⟩
        · refine .clean (data ++ data') text'' (by rw [hflat, hflat', List.append_assoc]) hb'' ?_ hp' ?_
          · rw [← List.append_assoc]
            exact hsub'.trans (hsub.append_right data')
          · rintro t (⟨ht⟩ | ⟨ht, -, hlater⟩)
            · obtain ⟨rfl, -⟩ : b' = t ∧ _ := by simpa [hpull] using ht
              rw [atPrompt_iff hb']
              rintro rfl
              simp [findEOL_prompt hb'] at hp
            · obtain ⟨rfl, rfl⟩ : b' = _ ∧ fd' = _ := by simpa [hpull] using ht
              exact htests t hlater
        · exact .prompt t (.later hpull hp ht) hprompt hb'' hp'
      · simp only
        by_cases hprompt : text' = ascii "> "
        · subst hprompt
          have hq := findEOL_prompt hb'
          rw [hp] at hq
          exact .prompt b' htest ((atPrompt_iff hb').2 rfl) hb' hq
        · rw [← atPrompt_iff hb'] at hprompt
          refine .clean data text' hflat hb' hsub (by rintro r ⟨⟩; exact ⟨hp, hprompt⟩) ?_
          rintro t (⟨ht⟩ | ⟨ht, hnone, -⟩)
          · obtain ⟨rfl, -⟩ : b' = t ∧ _ := by simpa [hpull] using ht
            exact hprompt
          · obtain ⟨rfl, -⟩ : b' = _ ∧ _ := by simpa [hpull] using ht
            simp [hnone] at hp

theorem search_outcome {b : ATBuffer} {text : List Byte} (h : Holds b text) (fd : Fd) :
    Outcome (Tests b fd) text fd (b.search fd).1 (b.search fd).2.1 (b.search fd).2.2 := by
  -- The loop is entered with a buffer `b'` that holds part of the text.
  have loop : ∀ {b' : ATBuffer} {text' : List Byte}, b.enter = (none, b') → Holds b' text' → text'.Sublist text →
      (∀ t, b.cells.headD NUL ≠ NUL → t = b.skipNewlines → ¬ t.atPrompt) →
      Outcome (Tests b fd) text fd (b.search fd).1 (b.search fd).2.1 (b.search fd).2.2 := by
    intro b' text' henter hb' hsub hfirst
    rw [ATBuffer.search, henter]
    rcases @fill_outcome (fd.reads + 1) _ _ fd hb' (by omega) with
      ⟨data, text'', hflat, hb'', hsub', hp, htests⟩ | ⟨t, ht, hprompt, hb'', hp⟩
    · refine .clean data text'' hflat hb'' (hsub'.trans (hsub.append_right data)) hp ?_
      rintro t (⟨hhead⟩ | ⟨ht, hfill⟩)
      · exact hfirst _ hhead rfl
      · obtain rfl : b' = _ := by simpa [henter] using ht
        exact htests t hfill
    · exact .prompt t (.fill henter ht) hprompt hb'' hp
  by_cases hhead : b.cells.headD NUL = NUL
  · refine @loop b.reset [] ?_ (reset_spec h.size) (List.nil_sublist _) fun _ hne => absurd hhead hne
    rw [ATBuffer.enter, if_pos hhead]
  · obtain ⟨hskip, -⟩ := skipNewlines_spec h
    have hsub := List.dropWhile_sublist isNewline (l := text)
    rcases hp : b.skipNewlines.findEOL with _ | q
    · obtain ⟨hmove, -⟩ := moveUp_spec hskip
      refine @loop b.skipNewlines.moveUp _ ?_ hmove ((List.takeWhile_sublist _).trans hsub) ?_
      · simp only [ATBuffer.enter, if_neg hhead, hp]
      · rintro t - rfl
        rw [atPrompt_iff hskip]
        intro htext
        rw [htext] at hskip
        simp [findEOL_prompt hskip] at hp
    · have henter : b.enter = (some q, b.skipNewlines) := by simp only [ATBuffer.enter, if_neg hhead, hp]
      simp only [ATBuffer.search, henter]
      by_cases htext : text.dropWhile isNewline = ascii "> "
      · rw [htext] at hskip
        have hq := findEOL_prompt hskip
        rw [hp] at hq
        exact .prompt _ (.first hhead) ((atPrompt_iff hskip).2 rfl) hskip hq
      · rw [← atPrompt_iff hskip] at htext
        refine .clean [] _ rfl hskip (by simpa using hsub) (by rintro r ⟨⟩; exact ⟨hp, htext⟩) ?_
        rintro t (⟨-⟩ | ⟨ht, -⟩)
        · exact htext
        · simp [henter] at ht

/-- The cursor is at most at the end of the received data. -/
abbrev ATBuffer.CursorOk (b : ATBuffer) : Prop := b.s_ATBufferCur ≤ b.p_read

/-- **One call.** Without the prompt the line and what the buffer then holds are bytes of the text and
of the data that arrived, in their order; with it the cursor leaves the data. -/
theorem readline_outcome {b : ATBuffer} {text : List Byte} (h : Holds b text) (fd : Fd) :
    (∃ data text', fd.flatten = data ++ (readline b fd).2.2.flatten ∧ Holds (readline b fd).2.1 text' ∧
        ((readline b fd).1.getD [] ++ text').Sublist (text ++ data) ∧ ∀ t, Tests b fd t → ¬ t.atPrompt) ∨
      (readline b fd).1.isSome ∧ ¬ (readline b fd).2.1.CursorOk ∧ ∃ t, Tests b fd t ∧ t.atPrompt := by
  have hsearch := search_outcome h fd
  rcases hs : b.search fd with ⟨p, b', fd'⟩
  rw [hs] at hsearch
  simp only [readline, hs]
  rcases hsearch with ⟨data, text', hflat, hb', hsub, hp, htests⟩ | ⟨t, ht, hprompt, hb', hp⟩
  · left
    cases p with
    | none => exact ⟨data, text', hflat, hb', by simpa using hsub, htests⟩
    | some q =>
      obtain ⟨hq, hnot⟩ := hp q rfl
      rcases findEOL_spec hb' with ⟨hp', -⟩ | ⟨line, e, rest, rfl, hp', hnul, -⟩ | ⟨rfl, hp'⟩
      · simp [hq] at hp'
      · obtain rfl : q = _ := by simpa [hq] using hp'
        obtain ⟨hline, hrest⟩ := takeLine_spec hb' hnul
        refine ⟨data, rest, hflat, hrest, ?_, htests⟩
        simp only [hline, Option.getD_some]
        exact ((List.sublist_cons_self e rest).append_left line).trans hsub
      · exact absurd ((atPrompt_iff hb').2 rfl) hnot
  · right
    simp only at hp hb'
    subst hp
    obtain ⟨-, hcur⟩ := takeLine_prompt hb'
    refine ⟨rfl, ?_, t, ht, hprompt⟩
    simp only [ATBuffer.CursorOk]
    omega

/-! ## Runs -/

/-- The buffer and the fd after `k` calls on a fresh channel. -/
def after (fd : Fd) (k : Nat) : ATBuffer × Fd := (calls k .at_open fd).2

/-- In the first `n` calls every line leaves the cursor within the data, and the bytes of the lines
returned so far are, line after line, bytes received so far. -/
def HandsOutReceived (fd : Fd) (n : Nat) : Prop :=
  (∀ k < n, (readline (after fd k).1 (after fd k).2).1.isSome → (readline (after fd k).1 (after fd k).2).2.1.CursorOk) ∧
  ∃ received, fd.flatten = received ++ (after fd n).2.flatten ∧
    (calls n .at_open fd).1.reduceOption.flatten.Sublist received

/-- No call among the first `n` looks for an EOL in a buffer that is left with the prompt alone. -/
def NeverAtPrompt (fd : Fd) (n : Nat) : Prop :=
  ∀ k < n, ∀ t, Tests (after fd k).1 (after fd k).2 t → ¬ t.atPrompt

theorem calls_cursor_iff {b : ATBuffer} {text : List Byte} (h : Holds b text) (fd : Fd) (n : Nat) :
    (∀ k < n, (readline (calls k b fd).2.1 (calls k b fd).2.2).1.isSome →
      (readline (calls k b fd).2.1 (calls k b fd).2.2).2.1.CursorOk) ↔
    ∀ k < n, ∀ t, Tests (calls k b fd).2.1 (calls k b fd).2.2 t → ¬ t.atPrompt := by
  induction n generalizing b text fd with
  | zero => simp
  | succ n ih =>
    simp only [Nat.forall_lt_succ_left, calls_succ_snd]
    rcases readline_outcome h fd with ⟨data, text', -, hb', -, htests⟩ | ⟨hsome, hcur, t, ht, hprompt⟩
    · have hok : (readline b fd).2.1.CursorOk := by
        have hread := hb'.read
        simp only [ATBuffer.CursorOk]
        omega
      exact and_congr (iff_of_true (fun _ => hok) htests) (ih hb' (readline b fd).2.2)
    · exact iff_of_false (fun hkept => hcur (hkept.1 hsome)) fun hclean => hclean.1 t ht hprompt

theorem calls_sublist {b : ATBuffer} {text : List Byte} (h : Holds b text) (fd : Fd) (n : Nat)
    (hclean : ∀ k < n, ∀ t, Tests (calls k b fd).2.1 (calls k b fd).2.2 t → ¬ t.atPrompt) :
    ∃ data text', fd.flatten = data ++ (calls n b fd).2.2.flatten ∧
      ((calls n b fd).1.reduceOption.flatten ++ text').Sublist (text ++ data) := by
  induction n generalizing b text fd with
  | zero => exact ⟨[], text, rfl, by simp [calls]⟩
  | succ n ih =>
    simp only [Nat.forall_lt_succ_left, calls_succ_snd] at hclean
    rcases readline_outcome h fd with ⟨data, text', hflat, hb', hsub, -⟩ | ⟨-, -, t, ht, hprompt⟩
    · obtain ⟨data', text'', hflat', hsub'⟩ := ih hb' (readline b fd).2.2 hclean.2
      rw [calls_succ_snd, calls_succ_fst]
      refine ⟨data ++ data', text'', by rw [hflat, hflat', List.append_assoc], ?_⟩
      have hline : (List.reduceOption ((readline b fd).1 :: (calls n (readline b fd).2.1 (readline b fd).2.2).1)).flatten =
          (readline b fd).1.getD [] ++ (calls n (readline b fd).2.1 (readline b fd).2.2).1.reduceOption.flatten := by
        cases (readline b fd).1 <;> simp
      have hrest := (hsub'.append_left ((readline b fd).1.getD []))
      rw [← List.append_assoc] at hrest
      rw [hline, ← List.append_assoc text, List.append_assoc]
      simp only [← List.append_assoc] at hrest ⊢
      exact hrest.trans (hsub.append_right data')
    · exact absurd hprompt (hclean.1 t ht)

/-- **readline hands out received bytes exactly as long as it never meets the prompt at the end of the
data.** -/
theorem handsOutReceived_iff (fd : Fd) (n : Nat) : HandsOutReceived fd n ↔ NeverAtPrompt fd n := by
  constructor
  · rintro ⟨hcur, -⟩
    exact (calls_cursor_iff holds_at_open fd n).1 hcur
  · intro hclean
    refine ⟨(calls_cursor_iff holds_at_open fd n).2 hclean, ?_⟩
    obtain ⟨data, text', hflat, hsub⟩ := calls_sublist holds_at_open fd n hclean
    exact ⟨data, hflat, (List.sublist_append_left _ _).trans hsub⟩

/-- After the prompt a line comes out that the modem did not send: "GS: 1" is left from "+CMGS: 1". -/
theorem prompt_hands_out_stale :
    (calls 4 .at_open [ascii "\r\n+CMGS: 1\r\n", ascii "\r\n> ", ascii "\r\n+CMGS: 2\r\n"]).1 =
      [some (ascii "+CMGS: 1"), some (ascii "> "), some (ascii "GS: 1"), some (ascii "+CMGS: 2")] ∧
    ¬ HandsOutReceived [ascii "\r\n+CMGS: 1\r\n", ascii "\r\n> ", ascii "\r\n+CMGS: 2\r\n"] 4 := by
  refine ⟨by decide, fun h => ?_⟩
  have hsome : (readline (after [ascii "\r\n+CMGS: 1\r\n", ascii "\r\n> ", ascii "\r\n+CMGS: 2\r\n"] 1).1
      (after [ascii "\r\n+CMGS: 1\r\n", ascii "\r\n> ", ascii "\r\n+CMGS: 2\r\n"] 1).2).1.isSome := by
    decide
  exact absurd (h.1 1 (by decide) hsome) (by decide)

end UniRil.Readline
