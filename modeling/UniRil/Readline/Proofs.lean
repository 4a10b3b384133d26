import UniRil.Readline.Spec

/-!
# The buffer operations keep `Holds`

One spec for each piece of `readline`, with the text before and after.
-/

namespace UniRil.Readline

theorem isNewline_nul : isNewline NUL = false := rfl

/-! ## Memory -/

theorem store_length {cells data : List Byte} {p : Nat} (h : p + data.length ≤ cells.length) :
    (store cells p data).length = cells.length := by
  simp only [store, List.length_append, List.length_take, List.length_drop]
  omega

theorem store_append {front back data : List Byte} {p : Nat} (hp : p = front.length) :
    store (front ++ back) p data = front ++ (data ++ back.drop data.length) := by
  subst hp
  simp [store]

theorem cstr_split (text stale : List Byte) : ∃ more, text ++ NUL :: stale = cstr text ++ NUL :: more := by
  induction text with
  | nil => exact ⟨stale, by simp [cstr]⟩
  | cons c text ih =>
    by_cases hc : c = NUL
    · exact ⟨text ++ NUL :: stale, by simp [cstr, hc]⟩
    · obtain ⟨more, hmore⟩ := ih
      have hcons : cstr (c :: text) = c :: cstr text := by simp [cstr, hc]
      exact ⟨more, by rw [hcons, List.cons_append, hmore, List.cons_append]⟩

theorem Holds.le {b : ATBuffer} {text : List Byte} (h : Holds b text) : b.p_read ≤ MAX_AT_RESPONSE := by
  obtain ⟨stale, hcells⟩ := h.cells
  have hlen := congrArg List.length hcells
  have hsize := h.size
  have hread := h.read
  simp only [ATBuffer.cells, List.length_drop, List.length_append, List.length_cons] at hlen
  omega

/-- The buffer is what lies before the cursor, the text, the NUL and stale bytes. -/
theorem Holds.split {b : ATBuffer} {text : List Byte} (h : Holds b text) :
    ∃ front stale, b.s_ATBuffer = front ++ (text ++ NUL :: stale) ∧ front.length = b.s_ATBufferCur := by
  obtain ⟨stale, hcells⟩ := h.cells
  have hle := h.le
  have hread := h.read
  have hsize := h.size
  refine ⟨b.s_ATBuffer.take b.s_ATBufferCur, stale, ?_, ?_⟩
  · rw [← hcells, ATBuffer.cells, List.take_append_drop]
  · rw [List.length_take]
    omega

theorem holds_of_split {b : ATBuffer} {front text stale : List Byte}
    (hsize : b.s_ATBuffer.length = MAX_AT_RESPONSE + 1) (hbuf : b.s_ATBuffer = front ++ (text ++ NUL :: stale))
    (hcur : b.s_ATBufferCur = front.length) (hread : b.p_read = b.s_ATBufferCur + text.length) : Holds b text := by
  refine ⟨hsize, ⟨stale, ?_⟩, hread⟩
  rw [ATBuffer.cells, hbuf, hcur, List.drop_left]

theorem holds_at_open : Holds .at_open [] := by
  refine ⟨List.length_replicate, ⟨List.replicate MAX_AT_RESPONSE NUL, ?_⟩, rfl⟩
  exact List.replicate_succ

/-! ## Scanning -/

theorem newlineCount_eq (text stale : List Byte) :
    newlineCount (text ++ NUL :: stale) = (text.takeWhile isNewline).length := by
  induction text with
  | nil => simp [newlineCount, isNewline_nul]
  | cons c text ih =>
    simp only [List.cons_append, newlineCount, ih, List.takeWhile_cons]
    split <;> rfl

theorem skipNewlines_spec {b : ATBuffer} {text : List Byte} (h : Holds b text) :
    Holds b.skipNewlines (text.dropWhile isNewline) ∧
      b.skipNewlines.s_ATBufferCur = b.s_ATBufferCur + (text.takeWhile isNewline).length := by
  obtain ⟨stale, hcells⟩ := h.cells
  have hcur : b.skipNewlines.s_ATBufferCur = b.s_ATBufferCur + (text.takeWhile isNewline).length := by
    rw [ATBuffer.skipNewlines, hcells, newlineCount_eq]
  have hlen := congrArg List.length (List.takeWhile_append_dropWhile (p := isNewline) (l := text))
  rw [List.length_append] at hlen
  refine ⟨⟨h.size, ⟨stale, ?_⟩, ?_⟩, hcur⟩
  · have hdrop : b.skipNewlines.cells = b.cells.drop (text.takeWhile isNewline).length := by
      rw [ATBuffer.cells, hcur, ATBuffer.cells, List.drop_drop]
      rfl
    rw [hdrop, hcells, ← List.takeWhile_append_dropWhile (p := isNewline) (l := text), List.append_assoc,
      List.takeWhile_append_dropWhile, List.drop_left]
  · have hread : b.skipNewlines.p_read = b.p_read := rfl
    rw [hread, h.read, hcur]
    omega

theorem eolOffset_none {text stale : List Byte} (h : eolOffset (text ++ NUL :: stale) = none) :
    ∀ c ∈ cstr text, isNewline c = false := by
  induction text with
  | nil => simp [cstr]
  | cons c text ih =>
    simp only [List.cons_append, eolOffset] at h
    by_cases hnul : c = NUL
    · simp [cstr, hnul]
    · rw [if_neg hnul] at h
      rcases hnl : isNewline c with _ | _
      · simp only [hnl, Bool.false_eq_true, if_false, Option.map_eq_none_iff] at h
        simpa [cstr, hnul, hnl] using ih h
      · simp [hnl] at h

theorem eolOffset_some {text stale : List Byte} {k : Nat} (h : eolOffset (text ++ NUL :: stale) = some k) :
    ∃ line e rest, text = line ++ e :: rest ∧ line.length = k ∧ NUL ∉ line ∧
      (∀ c ∈ line, isNewline c = false) ∧ isNewline e = true := by
  induction text generalizing k with
  | nil => simp [eolOffset] at h
  | cons c text ih =>
    simp only [List.cons_append, eolOffset] at h
    by_cases hnul : c = NUL
    · simp [hnul] at h
    · rw [if_neg hnul] at h
      rcases hnl : isNewline c with _ | _
      · simp only [hnl, Bool.false_eq_true, if_false, Option.map_eq_some_iff] at h
        obtain ⟨j, hj, rfl⟩ := h
        obtain ⟨line, e, rest, rfl, rfl, hline, hne, he⟩ := ih hj
        refine ⟨c :: line, e, rest, rfl, rfl, ?_, ?_, he⟩
        · simpa [Ne.symm hnul] using hline
        · simpa [hnl] using hne
      · simp only [hnl, if_true, Option.some.injEq] at h
        exact ⟨[], c, text, rfl, h, by simp, by simp, hnl⟩

theorem isPrompt_iff {text stale : List Byte} :
    isPrompt (text ++ NUL :: stale) = true ↔ text = ascii "> " ∨ ∃ rest, text = ascii "> " ++ NUL :: rest := by
  have hgt : ascii "> " = [62, 32] := by decide
  rw [isPrompt, List.isPrefixOf_iff_prefix, hgt]
  rcases text with _ | ⟨a, _ | ⟨b, _ | ⟨c, text⟩⟩⟩
  all_goals simp only [List.cons_append, List.nil_append, List.cons_prefix_cons, List.cons.injEq, List.nil_prefix]
  · simp [NUL]
  · simp [NUL]
  · simp [@eq_comm Byte 62, @eq_comm Byte 32]
  · simp [@eq_comm Byte 62, @eq_comm Byte 32, @eq_comm Byte NUL]

/-- What `findNextEOL` finds in a text: no line yet, a line and the byte that ends it, or the
prompt at the very end. -/
inductive FindEOL (b : ATBuffer) (text : List Byte) : Prop where
  | none (hp : b.findEOL = none) (hnl : ∀ c ∈ cstr text, isNewline c = false)
  | line (line : List Byte) (e : Byte) (rest : List Byte) (htext : text = line ++ e :: rest)
      (hp : b.findEOL = some (b.s_ATBufferCur + line.length)) (hnul : NUL ∉ line)
      (he : (∀ c ∈ line, isNewline c = false) ∧ isNewline e = true ∨ line = ascii "> " ∧ e = NUL)
  | prompt (htext : text = ascii "> ") (hp : b.findEOL = some (b.s_ATBufferCur + 2))

theorem findEOL_spec {b : ATBuffer} {text : List Byte} (h : Holds b text) : FindEOL b text := by
  obtain ⟨stale, hcells⟩ := h.cells
  rcases hprompt : isPrompt b.cells with _ | _
  · rcases heol : eolOffset b.cells with _ | k
    · refine .none (by simp [ATBuffer.findEOL, findNextEOL, hprompt, heol]) ?_
      rw [hcells] at heol
      exact eolOffset_none heol
    · have hp : b.findEOL = some (b.s_ATBufferCur + k) := by
        simp [ATBuffer.findEOL, findNextEOL, hprompt, heol]
      rw [hcells] at heol
      obtain ⟨line, e, rest, htext, rfl, hnul, hline, he⟩ := eolOffset_some heol
      exact .line line e rest htext hp hnul (Or.inl ⟨hline, he⟩)
  · have hp : b.findEOL = some (b.s_ATBufferCur + 2) := by simp [ATBuffer.findEOL, findNextEOL, hprompt]
    rw [hcells, isPrompt_iff] at hprompt
    rcases hprompt with htext | ⟨rest, htext⟩
    · exact .prompt htext hp
    · exact .line (ascii "> ") NUL rest htext hp (by decide) (Or.inr ⟨rfl, rfl⟩)

/-! ## The pieces of `readline` -/

theorem reset_spec {b : ATBuffer} (hsize : b.s_ATBuffer.length = MAX_AT_RESPONSE + 1) : Holds b.reset [] := by
  have hstore : (store b.s_ATBuffer 0 [NUL]).length = b.s_ATBuffer.length :=
    store_length (by rw [hsize, List.length_singleton]; omega)
  refine ⟨hstore.trans hsize, ⟨b.s_ATBuffer.drop 1, ?_⟩, rfl⟩
  simp [ATBuffer.cells, ATBuffer.reset, store]

theorem moveUp_spec {b : ATBuffer} {text : List Byte} (h : Holds b text) :
    Holds b.moveUp (cstr text) ∧ b.moveUp.s_ATBufferCur = 0 := by
  obtain ⟨stale, hcells⟩ := h.cells
  obtain ⟨more, hmore⟩ := cstr_split text stale
  rw [hmore] at hcells
  have hlen : strlen b.cells = (cstr text).length := by
    rw [strlen, hcells, cstr_append_nul (nul_notMem_cstr text)]
  have hmoved : b.cells.take ((cstr text).length + 1) = cstr text ++ [NUL] := by
    rw [hcells, List.take_length_add_append]
    rfl
  have hdef : b.moveUp = ⟨store b.s_ATBuffer 0 (cstr text ++ [NUL]), 0, (cstr text).length⟩ := by
    simp only [ATBuffer.moveUp, hlen, hmoved]
  have hfit : 0 + (cstr text ++ [NUL]).length ≤ b.s_ATBuffer.length := by
    have hdrop := congrArg List.length hcells
    simp only [ATBuffer.cells, List.length_drop, List.length_append, List.length_cons] at hdrop
    simp only [List.length_append, List.length_singleton]
    omega
  rw [hdef]
  refine ⟨⟨?_, ⟨b.s_ATBuffer.drop ((cstr text).length + 1), ?_⟩, ?_⟩, rfl⟩
  · rw [store_length hfit, h.size]
  · simp [ATBuffer.cells, store]
  · simp

/-- Data appended at `p_read`, as `read` leaves it. -/
theorem append_spec {b : ATBuffer} {text data : List Byte} (h : Holds b text)
    (hfit : b.p_read + data.length ≤ MAX_AT_RESPONSE) :
    Holds { b with s_ATBuffer := store b.s_ATBuffer b.p_read (data ++ [NUL]), p_read := b.p_read + data.length }
      (text ++ data) := by
  obtain ⟨front, stale, hbuf, hfront⟩ := h.split
  have hread : b.p_read = (front ++ text).length := by
    rw [List.length_append, hfront, h.read]
  have hroom : b.p_read + (data ++ [NUL]).length ≤ b.s_ATBuffer.length := by
    rw [h.size, List.length_append, List.length_singleton]
    omega
  refine @holds_of_split _ front _ ((NUL :: stale).drop (data.length + 1)) ?_ ?_ hfront.symm ?_
  · exact (store_length hroom).trans h.size
  · have hassoc : b.s_ATBuffer = (front ++ text) ++ NUL :: stale := by rw [hbuf, List.append_assoc]
    rw [hassoc, store_append hread]
    simp
  · simp only [h.read, List.length_append]
    omega

theorem takeLine_spec {b : ATBuffer} {line rest : List Byte} {e : Byte} (h : Holds b (line ++ e :: rest))
    (hnul : NUL ∉ line) :
    (b.takeLine (b.s_ATBufferCur + line.length)).1 = line ∧
      Holds (b.takeLine (b.s_ATBufferCur + line.length)).2 rest := by
  obtain ⟨front, stale, hbuf, hfront⟩ := h.split
  have hp : b.s_ATBufferCur + line.length = (front ++ line).length := by
    rw [List.length_append, hfront]
  have hassoc : b.s_ATBuffer = (front ++ line) ++ e :: (rest ++ NUL :: stale) := by simp [hbuf]
  have hstore : store b.s_ATBuffer (b.s_ATBufferCur + line.length) [NUL] =
      (front ++ line) ++ NUL :: (rest ++ NUL :: stale) := by
    rw [hassoc, store_append hp]
    rfl
  constructor
  · simp only [ATBuffer.takeLine, ATBuffer.cells, hstore, List.append_assoc]
    rw [← hfront, List.drop_left, cstr_append_nul hnul]
  · refine @holds_of_split _ (front ++ line ++ [NUL]) _ stale ?_ ?_ ?_ ?_
    · have hsize := h.size
      simp only [ATBuffer.takeLine, hstore]
      rw [hassoc] at hsize
      simpa using hsize
    · simp [ATBuffer.takeLine, hstore]
    · simp only [ATBuffer.takeLine, List.length_append, List.length_singleton, hfront]
    · simp only [ATBuffer.takeLine, h.read, List.length_append, List.length_cons]
      omega

/-- The prompt at the very end leaves the cursor one past the NUL. -/
theorem takeLine_prompt {b : ATBuffer} (h : Holds b (ascii "> ")) :
    (b.takeLine (b.s_ATBufferCur + 2)).1 = ascii "> " ∧
      (b.takeLine (b.s_ATBufferCur + 2)).2.s_ATBufferCur = (b.takeLine (b.s_ATBufferCur + 2)).2.p_read + 1 := by
  obtain ⟨front, stale, hbuf, hfront⟩ := h.split
  have hassoc : b.s_ATBuffer = (front ++ ascii "> ") ++ NUL :: stale := by rw [hbuf, List.append_assoc]
  have hp : b.s_ATBufferCur + 2 = (front ++ ascii "> ").length := by
    rw [List.length_append, hfront]
    rfl
  have hstore : store b.s_ATBuffer (b.s_ATBufferCur + 2) [NUL] = front ++ (ascii "> " ++ NUL :: stale) := by
    rw [hassoc, store_append hp, List.append_assoc]
    rfl
  constructor
  · simp only [ATBuffer.takeLine, ATBuffer.cells, hstore]
    rw [← hfront, List.drop_left, cstr_append_nul (by decide)]
  · simp only [ATBuffer.takeLine, h.read]
    rfl

/-! ## The fd -/

theorem Fd.read_spec {fd : Fd} {size : Nat} (hsize : 0 < size) :
    (fd.read size).1.length ≤ size ∧ fd.flatten = (fd.read size).1 ++ (fd.read size).2.flatten ∧
      ((fd.read size).1 = [] → fd = [] ∧ (fd.read size).2 = [] ∨ fd = [] :: (fd.read size).2) ∧
      ((fd.read size).1 ≠ [] → (fd.read size).2.reads < fd.reads ∧ (fd.read size).2.count [] = fd.count []) := by
  cases fd with
  | nil => simp [Fd.read]
  | cons data fd =>
    simp only [Fd.read]
    refine ⟨?_, ?_, ?_, ?_⟩
    · rw [List.length_take]
      omega
    · split
      · rename_i hle
        rw [List.take_of_length_le hle, List.flatten_cons]
      · rw [List.flatten_cons, List.flatten_cons, ← List.append_assoc, List.take_append_drop]
    · intro hnil
      have hdata : data = [] := by
        rcases List.take_eq_nil_iff.1 hnil with h | h
        · omega
        · exact h
      right
      simp [hdata]
    · intro hne
      have hdata : data ≠ [] := by
        rintro rfl
        exact hne (List.take_nil)
      have hpos : 0 < data.length := List.length_pos_iff.2 hdata
      split
      · refine ⟨?_, ?_⟩
        · simp only [Fd.reads, List.map_cons, List.sum_cons]
          omega
        · simp [hdata]
      · rename_i hlt
        have hdrop : data.drop size ≠ [] := by
          rw [ne_eq, List.drop_eq_nil_iff]
          exact hlt
        refine ⟨?_, ?_⟩
        · simp only [Fd.reads, List.map_cons, List.sum_cons, List.length_drop]
          omega
        · simp [hdata, hdrop]

/-! ## One turn of the read loop -/

/-- A full buffer is ditched, so a turn on it is a turn on the empty buffer. -/
theorem pull_full {b : ATBuffer} (hfull : b.p_read = MAX_AT_RESPONSE) (fd : Fd) : b.pull fd = b.reset.pull fd := by
  have hreset : ¬ MAX_AT_RESPONSE - b.reset.p_read = 0 := (by decide : ¬ MAX_AT_RESPONSE - 0 = 0)
  simp only [ATBuffer.pull, if_pos (show MAX_AT_RESPONSE - b.p_read = 0 by omega), if_neg hreset]

/-- A turn with room in the buffer appends what the read returns and skips the newlines. -/
theorem pull_spec {b : ATBuffer} {text : List Byte} (h : Holds b text) (hroom : b.p_read < MAX_AT_RESPONSE)
    (fd : Fd) :
    ∃ data fd', fd.read (MAX_AT_RESPONSE - b.p_read) = (data, fd') ∧
      (data = [] ∧ b.pull fd = (false, b, fd') ∨
        data ≠ [] ∧ ∃ b', b.pull fd = (true, b', fd') ∧ Holds b' ((text ++ data).dropWhile isNewline) ∧
          b'.s_ATBufferCur = b.s_ATBufferCur + ((text ++ data).takeWhile isNewline).length) := by
  have hlen := (@Fd.read_spec fd (MAX_AT_RESPONSE - b.p_read) (by omega)).1
  rw [ATBuffer.pull, if_neg (by omega)]
  rcases hread : fd.read (MAX_AT_RESPONSE - b.p_read) with ⟨data, fd'⟩
  rw [hread] at hlen
  refine ⟨data, fd', rfl, ?_⟩
  by_cases hdata : data = []
  · exact Or.inl ⟨hdata, by simp [hdata]⟩
  · have hfit : b.p_read + data.length ≤ MAX_AT_RESPONSE := by
      simp only at hlen
      omega
    have hskip := skipNewlines_spec (append_spec h hfit)
    exact Or.inr ⟨hdata, _, by simp [hdata], hskip.1, hskip.2⟩

end UniRil.Readline
