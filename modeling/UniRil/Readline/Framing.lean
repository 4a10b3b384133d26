import UniRil.Readline.Proofs

/-!
# `readline` frames the stream

However the reads cut the stream, successive calls return its lines.
-/

namespace UniRil.Readline

open Lines (lines lines_line lines_seps lines_unended run_or_split)

/-- Newlines skipped at the head of a stream change neither its lines nor that it is framed. -/
theorem skip_framed {text more : List Byte} (hw : Framed (text ++ more)) :
    Framed (text.dropWhile isNewline ++ more) ∧
      lines isNewline (text.dropWhile isNewline ++ more) = lines isNewline (text ++ more) := by
  have htaken : ∀ c ∈ text.takeWhile isNewline, isNewline c = true := fun c hc => List.mem_takeWhile_imp hc
  have hsplit : text ++ more = text.takeWhile isNewline ++ (text.dropWhile isNewline ++ more) := by
    rw [← List.append_assoc, List.takeWhile_append_dropWhile]
  rw [hsplit] at hw ⊢
  exact ⟨hw.skip htaken, (lines_seps htaken _).symm⟩

/-- After the newlines at its head a text holds no newline, or it starts with a line. -/
theorem findEOL_framed {b : ATBuffer} {text more : List Byte} (h : Holds b (text.dropWhile isNewline))
    (hw : Framed (text ++ more)) :
    (b.findEOL = none ∧ ∀ c ∈ text.dropWhile isNewline, isNewline c = false) ∨
      ∃ line e rest, text.dropWhile isNewline = line ++ e :: rest ∧
        b.findEOL = some (b.s_ATBufferCur + line.length) ∧ NUL ∉ line ∧ line ≠ [] ∧
        (∀ c ∈ line, isNewline c = false) ∧ isNewline e = true := by
  have hhead := List.head?_dropWhile_not isNewline text
  have hw' := (skip_framed hw).1
  generalize text.dropWhile isNewline = text at *
  have hnul : NUL ∉ text := fun hmem => hw'.noNul (by simp [hmem])
  have hgt : ascii "> " = [62, 32] := by decide
  rcases findEOL_spec h with ⟨hp, hnl⟩ | ⟨line, e, rest, rfl, hp, hline, ⟨hnl, he⟩ | ⟨-, rfl⟩⟩ | ⟨rfl, -⟩
  · rw [cstr_of_notMem hnul] at hnl
    exact Or.inl ⟨hp, hnl⟩
  · refine Or.inr ⟨line, e, rest, rfl, hp, hline, ?_, hnl, he⟩
    rintro rfl
    simp [he] at hhead
  · exact absurd (by simp) hnul
  · rw [hgt] at hw'
    exact absurd rfl (NoPrompt.head (s := []) hw'.noPrompt (by simp) (32 :: more))

/-- The state of the read loop: the skipped newlines and the text are what is left of the current
line, and no EOL is in sight. -/
structure Partial (b : ATBuffer) (fd : Fd) (w : List Byte) where
  skipped : List Byte
  text : List Byte
  holds : Holds b text
  cur : b.s_ATBufferCur = skipped.length
  newlines : ∀ c ∈ skipped, isNewline c = true
  unended : ∀ c ∈ text, isNewline c = false
  stream : w = skipped ++ (text ++ fd.flatten)
  framed : Framed w

/-- What looking for an EOL in the stream `w` leads to: its first line is in the buffer, or the fd has
no data now and nothing of `w` is lost. -/
inductive Framing (w : List Byte) (fd : Fd) : Option Nat → ATBuffer → Fd → Prop where
  | line {b : ATBuffer} {fd' : Fd} (line : List Byte) (e : Byte) (rest : List Byte)
      (hb : Holds b (line ++ e :: rest)) (hnul : NUL ∉ line) (hframed : Framed (rest ++ fd'.flatten))
      (hlines : lines isNewline w = line :: lines isNewline (rest ++ fd'.flatten))
      (hcount : fd'.count [] = fd.count []) : Framing w fd (some (b.s_ATBufferCur + line.length)) b fd'
  | dry {b : ATBuffer} {fd' : Fd} (text : List Byte) (hb : Holds b text) (hframed : Framed (text ++ fd'.flatten))
      (hlines : lines isNewline w = lines isNewline (text ++ fd'.flatten))
      (hcount : fd.count [] = fd'.count [] + 1 ∨ fd.count [] = 0 ∧ fd'.count [] = 0 ∧ lines isNewline w = []) :
      Framing w fd none b fd'

theorem Framing.mono {w w' : List Byte} {fd fd' fd'' : Fd} {p : Option Nat} {b : ATBuffer}
    (h : Framing w' fd' p b fd'') (hlines : lines isNewline w' = lines isNewline w)
    (hcount : fd'.count [] = fd.count []) : Framing w fd p b fd'' := by
  rw [Eq.comm] at hlines hcount
  cases h with
  | line line e rest hb hnul hframed hl hc =>
    exact .line line e rest hb hnul hframed (hlines.trans hl) (hc.trans hcount.symm)
  | dry text hb hframed hl hc =>
    exact .dry text hb hframed (hlines.trans hl) (by rwa [hcount, hlines])

/-- A full buffer that is ditched held nothing but newlines, or the stream ends there. -/
theorem Partial.ditch {b : ATBuffer} {fd : Fd} {w : List Byte} (h : Partial b fd w) :
    ∃ b₀ w₀, b.pull fd = b₀.pull fd ∧ b₀.p_read < MAX_AT_RESPONSE ∧ Nonempty (Partial b₀ fd w₀) ∧
      lines isNewline w₀ = lines isNewline w := by
  by_cases hfull : b.p_read = MAX_AT_RESPONSE
  · refine ⟨b.reset, fd.flatten, pull_full hfull fd, (by decide : 0 < MAX_AT_RESPONSE), ?_⟩
    have hreset := reset_spec h.holds.size
    have hframed := h.framed
    have hlen : h.skipped.length + h.text.length = MAX_AT_RESPONSE := by
      rw [← h.cur, ← h.holds.read, hfull]
    rw [h.stream] at hframed
    rw [h.stream, lines_seps h.newlines]
    by_cases htext : h.text = []
    · have hfd : Framed fd.flatten := by simpa [htext] using hframed.skip h.newlines
      exact ⟨⟨⟨[], [], hreset, rfl, by simp, by simp, rfl, hfd⟩⟩, by rw [htext, List.nil_append]⟩
    · rcases run_or_split isNewline fd.flatten with hrun | ⟨l, e, post, hsplit, hl, he⟩
      · -- The text and what follows are the last, unended line: it fits, so nothing follows.
        have hfits := hframed.fits [] h.skipped (h.text ++ fd.flatten) [] [] (by simp) h.newlines
          (List.forall_mem_append.2 ⟨h.unended, hrun⟩) (by simp [htext]) (by simp) (by simp)
        simp only [List.length_append, List.length_nil] at hfits
        have hfd : fd.flatten = [] := List.length_eq_zero_iff.1 (by omega)
        refine ⟨⟨⟨[], [], hreset, rfl, by simp, by simp, rfl, by rw [hfd]; exact framed_nil⟩⟩, ?_⟩
        rw [lines_unended hrun, hfd, List.append_nil, lines_unended h.unended]
      · have hfits := hframed.fits [] h.skipped (h.text ++ l) [e] post (by simp [hsplit]) h.newlines
          (List.forall_mem_append.2 ⟨h.unended, hl⟩) (by simp [htext]) (by simpa using he) (by simp)
        simp only [List.length_append, List.length_singleton] at hfits
        omega
  · have hle := h.holds.le
    exact ⟨b, w, rfl, by omega, ⟨h⟩, rfl⟩

theorem fill_frames {fuel : Nat} {b : ATBuffer} {fd : Fd} {w : List Byte} (h : Partial b fd w)
    (hfuel : fd.reads < fuel) : Framing w fd (b.fill fuel fd).1 (b.fill fuel fd).2.1 (b.fill fuel fd).2.2 := by
  induction fuel generalizing b fd w with
  | zero => omega
  | succ fuel ih =>
    obtain ⟨b₀, w₀, hpull₀, hroom, ⟨⟨skipped, text, hb, hcur, hskipped, htext, rfl, hframed⟩⟩, hlines⟩ := h.ditch
    obtain ⟨data, fd', hread, hcase⟩ := pull_spec hb hroom fd
    obtain ⟨-, hflat, hdry, hgot⟩ := @Fd.read_spec fd (MAX_AT_RESPONSE - b₀.p_read) (by omega)
    rw [hread] at hflat hdry hgot
    rw [lines_seps hskipped] at hlines
    rw [ATBuffer.fill, hpull₀]
    rcases hcase with ⟨rfl, hpull⟩ | ⟨hne, b', hpull, hb', hcur'⟩
    · -- No data: the partial line stays for the next call.
      rw [hpull]
      rw [List.nil_append] at hflat
      rw [hflat] at hframed hlines
      refine .dry text hb (hframed.skip hskipped) hlines.symm ?_
      rcases hdry rfl with ⟨rfl, hfd'⟩ | hfd
      · simp only at hfd'
        subst hfd'
        exact Or.inr ⟨rfl, rfl, by rw [← hlines, List.flatten_nil, List.append_nil, lines_unended htext]⟩
      · left
        rw [hfd, List.count_cons_self]
        rfl
    · rw [hpull]
      simp only [if_true]
      obtain ⟨hless, hcount⟩ := hgot hne
      have hstream : text ++ fd.flatten = (text ++ data) ++ fd'.flatten := by rw [hflat, List.append_assoc]
      have hframed' := hframed.skip hskipped
      rw [hstream] at hframed' hlines
      obtain ⟨hskip, hlines'⟩ := skip_framed hframed'
      rcases findEOL_framed hb' hframed' with ⟨hp, hunended⟩ | ⟨line, e, rest, hsplit, hp, hnul, hne, hnl, he⟩
      · -- No EOL: the newlines at the cursor join the skipped ones, and the next turn follows.
        simp only [hp]
        have htaken : ∀ c ∈ (text ++ data).takeWhile isNewline, isNewline c = true := fun c hc =>
          List.mem_takeWhile_imp hc
        have hnext : Partial b' fd' (skipped ++ (text ++ fd.flatten)) :=
          { skipped := skipped ++ (text ++ data).takeWhile isNewline
            text := (text ++ data).dropWhile isNewline
            holds := hb'
            cur := by rw [hcur', hcur, List.length_append]
            newlines := List.forall_mem_append.2 ⟨hskipped, htaken⟩
            unended := hunended
            stream := by
              rw [hstream, List.append_assoc skipped, ← List.append_assoc (List.takeWhile _ _),
                List.takeWhile_append_dropWhile]
            framed := hframed }
        refine (ih hnext (by simp only at hless; omega)).mono ?_ hcount
        rw [lines_seps hskipped, hstream, hlines]
      · simp only [hp]
        rw [hsplit] at hb' hskip hlines'
        rw [List.append_assoc, List.cons_append] at hskip hlines'
        refine .line line e rest hb' hnul (hskip.after he) ?_ hcount
        rw [← hlines, ← hlines', lines_line hnl hne he]

/-- Between two calls the buffer holds the part of the stream `w` that has arrived. -/
def Pending (b : ATBuffer) (fd : Fd) (w : List Byte) : Prop :=
  ∃ text, Holds b text ∧ w = text ++ fd.flatten ∧ Framed w

theorem pending_at_open {fd : Fd} (h : Framed fd.flatten) : Pending .at_open fd fd.flatten :=
  ⟨[], holds_at_open, rfl, h⟩

theorem search_frames {b : ATBuffer} {fd : Fd} {w : List Byte} (h : Pending b fd w) :
    Framing w fd (b.search fd).1 (b.search fd).2.1 (b.search fd).2.2 := by
  obtain ⟨text, hb, rfl, hframed⟩ := h
  by_cases hhead : b.cells.headD NUL = NUL
  · have henter : b.enter = (none, b.reset) := by rw [ATBuffer.enter, if_pos hhead]
    have htext : text = [] := by
      obtain ⟨stale, hcells⟩ := hb.cells
      cases text with
      | nil => rfl
      | cons c text =>
        rw [hcells] at hhead
        obtain rfl : c = NUL := hhead
        exact absurd (by simp) hframed.noNul
    subst htext
    rw [ATBuffer.search, henter]
    exact fill_frames ⟨[], [], reset_spec hb.size, rfl, by simp, by simp, rfl, hframed⟩ (by omega)
  · have hskip := (skipNewlines_spec hb).1
    obtain ⟨hframed', hlines⟩ := skip_framed hframed
    rcases findEOL_framed hskip hframed with ⟨hp, hunended⟩ | ⟨line, e, rest, hsplit, hp, hnul, hne, hnl, he⟩
    · have henter : b.enter = (none, b.skipNewlines.moveUp) := by
        simp only [ATBuffer.enter, if_neg hhead, hp]
      obtain ⟨hmove, hcur⟩ := moveUp_spec hskip
      have hnul : NUL ∉ text.dropWhile isNewline := fun hmem => hframed'.noNul (by simp [hmem])
      rw [cstr_of_notMem hnul] at hmove
      rw [ATBuffer.search, henter]
      have hpart : Partial b.skipNewlines.moveUp fd (text.dropWhile isNewline ++ fd.flatten) :=
        ⟨[], _, hmove, hcur, by simp, hunended, rfl, hframed'⟩
      exact (fill_frames hpart (by omega)).mono hlines rfl
    · have henter : b.enter = (some (b.skipNewlines.s_ATBufferCur + line.length), b.skipNewlines) := by
        simp only [ATBuffer.enter, if_neg hhead, hp]
      simp only [ATBuffer.search, henter]
      rw [hsplit] at hskip hframed' hlines
      rw [List.append_assoc, List.cons_append] at hframed' hlines
      exact .line line e rest hskip hnul (hframed'.after he) (by rw [← hlines, lines_line hnl hne he]) rfl

/-- **One call** returns the first line of the stream, or a read gave no data and no line is lost. -/
theorem readline_frames {b : ATBuffer} {fd : Fd} {w : List Byte} (h : Pending b fd w) :
    ∃ w', Pending (readline b fd).2.1 (readline b fd).2.2 w' ∧
      lines isNewline w = (readline b fd).1.toList ++ lines isNewline w' ∧
      ((readline b fd).2.2.count [] + (lines isNewline w').length + 1 = fd.count [] + (lines isNewline w).length ∨
        fd.count [] + (lines isNewline w).length = 0 ∧
          (readline b fd).2.2.count [] + (lines isNewline w').length = 0) := by
  have hsearch := search_frames h
  rcases hs : b.search fd with ⟨p, b', fd'⟩
  simp only [hs] at hsearch
  cases hsearch with
  | line line e rest hb hnul hframed hlines hcount =>
    obtain ⟨hline, hrest⟩ := takeLine_spec hb hnul
    have hr : readline b fd = (some line, (b'.takeLine (b'.s_ATBufferCur + line.length)).2, fd') := by
      simp only [readline, hs, hline]
    rw [hr]
    refine ⟨_, ⟨rest, hrest, rfl, hframed⟩, hlines, ?_⟩
    rw [hlines, List.length_cons, hcount]
    simp only
    omega
  | dry text hb hframed hlines hcount =>
    have hr : readline b fd = (none, b', fd') := by simp only [readline, hs]
    rw [hr]
    refine ⟨_, ⟨text, hb, rfl, hframed⟩, hlines, ?_⟩
    rw [← hlines]
    rcases hcount with hcount | ⟨hc, hc', hnil⟩
    · left
      simp only
      omega
    · right
      simp [hc, hc', hnil]

theorem calls_frames {b : ATBuffer} {fd : Fd} {w : List Byte} (h : Pending b fd w) (n : Nat) :
    ∃ left, lines isNewline w = (calls n b fd).1.reduceOption ++ left ∧
      (fd.count [] + (lines isNewline w).length ≤ n → left = []) := by
  induction n generalizing b fd w with
  | zero =>
    refine ⟨lines isNewline w, rfl, fun hn => ?_⟩
    exact List.length_eq_zero_iff.1 (by omega)
  | succ n ih =>
    obtain ⟨w', hpend, hlines, hcount⟩ := readline_frames h
    obtain ⟨left, hleft, hdone⟩ := ih hpend
    refine ⟨left, ?_, fun hn => hdone (by omega)⟩
    rw [hlines, hleft, calls_succ_fst, ← List.append_assoc]
    cases (readline b fd).1 <;> rfl

/-- **However the stream is cut into reads, the calls return its lines in order:** at any time a prefix
of them, and all of them once every empty read and every line had its call. -/
theorem calls_return_lines (fd : Fd) (h : Framed fd.flatten) (n : Nat) :
    (calls n .at_open fd).1.reduceOption <+: lines isNewline fd.flatten ∧
      (fd.count [] + (lines isNewline fd.flatten).length ≤ n →
        (calls n .at_open fd).1.reduceOption = lines isNewline fd.flatten) := by
  obtain ⟨left, hleft, hdone⟩ := calls_frames (pending_at_open h) n
  refine ⟨⟨left, hleft.symm⟩, fun hn => ?_⟩
  rw [hleft, hdone hn, List.append_nil]

/-- Two lines, cut inside both, with an empty read in the second. -/
theorem calls_return_two_lines :
    (calls 3 .at_open [ascii "\r\nO", ascii "K\r\n+C", [], ascii "SQ: 9\r"]).1.reduceOption =
      [ascii "OK", ascii "+CSQ: 9"] := by
  have hframed := framed_of_short (w := ascii "\r\nOK\r\n+CSQ: 9\r") (by decide) (by decide) (by decide)
  rw [(calls_return_lines [ascii "\r\nO", ascii "K\r\n+C", [], ascii "SQ: 9\r"] hframed 3).2 (by decide)]
  decide

end UniRil.Readline
