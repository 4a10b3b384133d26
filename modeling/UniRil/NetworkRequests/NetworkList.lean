import Mathlib.Data.List.Infix
import UniRil.Lib.Places
import UniRil.Sim.ApduAnswers

/-!
# The network list (ril_network.c)

The groups of the answer to AT+COPS=? are counted, and then an entry is read behind each parenthesis,
until as many were begun. Two buffers hold the texts that are made: one place each, next to each other.
-/

namespace UniRil.NetworkRequests

open Flows Handlers
open AtTok (Line)
open Sim (lineOf)

/-! ## The code -/

def statStr : List Line := [ascii "unknown", ascii "available", ascii "current", ascii "forbidden"]

/-- `statStr[stat]`, inside the table. -/
def statText (stat : Int) : Option Line := if 0 ≤ stat then statStr[stat.toNat]? else none

/-- The groups that are closed, and not in quotes. 34 is a quote, 40 and 41 are the parentheses. -/
def countGroups : Bool → Nat → Line → Nat
  | _, _, [] => 0
  | true, tok, c :: line => countGroups (c ≠ 34) tok line
  | false, tok, c :: line =>
    if c = 40 then countGroups false (tok + 1) line
    else if c = 41 ∧ tok = 1 then countGroups false 0 line + 1
    else countGroups (c = 34) tok line

/-- A pointer of `responses`. -/
inductive Cell
  /-- Into the line, to a constant, or wherever an uninitialised pointer goes. -/
  | text (s : Option Line)
  | tmp (o : Nat)
  | updatedNetList (o : Nat)

/-- `cur[0]`, ..., `cur[3]` -/
structure Row where
  longName : Cell
  shortName : Cell
  numeric : Cell
  status : Cell

def Row.cells (row : Row) : List Cell := [row.longName, row.shortName, row.numeric, row.status]

structure NetList where
  responses : List Row
  tmp : List Byte
  updatedNetList : List Byte

/-- What pointers show and buffers hold that are not initialised. -/
structure Stale where
  pointers : Nat → Option Line
  bytes : Nat → Byte

def NetList.alloca (stale : Stale) (count : Nat) : NetList where
  responses := (List.range count).map fun k =>
    { longName := .text (stale.pointers (4 * k))
      shortName := .text (stale.pointers (4 * k + 1))
      numeric := .text (stale.pointers (4 * k + 2))
      status := .text (stale.pointers (4 * k + 3)) }
  tmp := (List.range (32 * count)).map stale.bytes
  updatedNetList := (List.range (64 * count)).map stale.bytes

def NetList.shown (l : NetList) : Cell → Option Line
  | .text s => s
  | .tmp o => some (Places.load NUL l.tmp o)
  | .updatedNetList o => some (Places.load NUL l.updatedNetList o)

def NetList.strings (l : NetList) : List (Option Line) :=
  l.responses.flatMap fun row => row.cells.map l.shown

/-- A jump goes on with what is left of the line. -/
abbrev Entries := Flow NetList (Option Line)

def readInt (line : Option Line) : Entries (Int × Option Line) := do
  let tok := AtTok.at_tok_nextint line
  let n ← demand tok.value tok.p_cur
  pure (n, tok.p_cur)

def readStr (line : Option Line) : Entries (Line × Option Line) := do
  let tok := AtTok.at_tok_nextstr line
  let s ← demand tok.value tok.p_cur
  pure (s, tok.p_cur)

def setRow (k : Nat) (f : Row → Row) : Entries Unit :=
  modify fun l => { l with responses := l.responses.modify k f }

def printNumeric (count k : Nat) (numeric : Line) (act : Int) : Entries Unit := do
  let l ← get
  let tmp ← deref (Places.store NUL l.tmp (32 * k) (snprintf (32 * count) (numeric ++ ascii " " ++ decimal act)))
  modify fun l => { l with tmp := tmp }
  setRow k fun row => { row with numeric := .tmp (32 * k) }

/-- A name that the service replaces the long name of an entry by. -/
abbrev UpdateNetworkList := List (Option Line) → Option { name : Line // NUL ∉ name }

def updateName (updateNetworkList : UpdateNetworkList) (k : Nat) : Entries Unit := do
  let l ← get
  let cur := (l.responses[k]?.map fun row => row.cells.map l.shown).getD []
  (updateNetworkList cur).elim (pure ()) fun name => do
    let updatedNetList ← deref (Places.store NUL l.updatedNetList (64 * k) name)
    modify fun l => { l with updatedNetList := updatedNetList }
    setRow k fun row => { row with longName := .updatedNetList (64 * k) }

/-- One entry, behind its parenthesis. -/
def nextEntry (updateNetworkList : UpdateNetworkList) (count k : Nat) (line : Line) : Entries (Option Line) := do
  let (stat, line) ← readInt (some line)
  let status ← deref (statText stat)
  setRow k fun row => { row with status := .text (some status) }
  let (longName, line) ← readStr line
  setRow k fun row => { row with longName := .text (some longName) }
  let (shortName, line) ← readStr line
  setRow k fun row => { row with shortName := .text (some shortName) }
  let (numeric, line) ← readStr line
  setRow k fun row => { row with numeric := .text (some numeric) }
  let (act, line) ← readInt line
  printNumeric count k numeric act
  updateName updateNetworkList k
  pure line

/-- At most `n` entries more; `k` were read whole. -/
def readEntries (updateNetworkList : UpdateNetworkList) (count : Nat) :
    Nat → Nat → Option Line → Flow NetList Empty Unit
  | 0, _, line => do
    let _ ← deref line
    pure ()
  | n + 1, k, line => do
    let line ← deref line
    (AtTok.at_tok_flag_start (some line) 40).elim (pure ()) fun line => do
      let (k, line) ← labelled (do
          let line ← nextEntry updateNetworkList count k line
          pure (k + 1, line))
        fun line => pure (k, line)
      readEntries updateNetworkList count n k line

/-- The list, if its making does not crash. -/
def madeBy (m : Flow NetList Empty Unit) (l : NetList) : Option NetList :=
  match m l with
  | (.ok _, l) => some l
  | (.error _, _) => none

def networkList (updateNetworkList : UpdateNetworkList) (stale : Stale) (count : Nat) (line : Line) :
    Option NetList :=
  madeBy (readEntries updateNetworkList count count 0 (some line)) (.alloca stale count)

def failNetworkList {γ ε : Type} (t : RIL_Token) (p_response : Pointer) : Handler γ ε Unit := do
  if (p_response.map (·.finalResponse)) = some (ascii "+CME ERROR: 3") then
    RIL_onRequestComplete t .OPERATION_NOT_ALLOWED .NULL
  else
    RIL_onRequestComplete t .GENERIC_FAILURE .NULL
  at_response_free p_response

def requestNetworkList {γ ε : Type} (updateNetworkList : UpdateNetworkList) (stale : Stale) (t : RIL_Token) :
    Handler γ ε Unit :=
  labelled (do
      let s ← at_send_command_singleline (ascii "AT+COPS=?") (ascii "+COPS:") none
      if ← unsuccessful s then
        goto s.p_response
      let line ← firstLine s.p_response
      let text := line.cur.getD []
      let count := countGroups false 0 text
      if count ≤ 2 ∨ ascii ",,,," <:+: text then
        goto s.p_response
      touch line.response
      let l ← deref (networkList updateNetworkList stale (count - 2) text)
      RIL_onRequestComplete t .SUCCESS (.strings l.strings)
      at_response_free s.p_response)
    -- error:
    (failNetworkList t)

/-! ## The answers -/

/-- A text that can stand in quotes. -/
structure Quotable (s : Line) : Prop where
  no_quote : (34 : Byte) ∉ s
  no_nul : NUL ∉ s

/-- What an operator is listed with; its access technology may be absent, and is an int otherwise. -/
structure NetworkEntry where
  blanks : Nat
  stat : Int
  longName : Line
  shortName : Line
  numeric : Line
  act : Option Int
  longName_ok : Quotable longName
  shortName_ok : Quotable shortName
  numeric_ok : Quotable numeric
  act_ok : ∀ n ∈ act, -2 ^ 31 ≤ n ∧ n < 2 ^ 31

namespace NetworkEntry

variable (e : NetworkEntry)

def numericText (act : Int) : Line := e.numeric ++ ascii " " ++ decimal act

def actText : Line := e.act.elim [] fun act => 44 :: decimal act

/-- What stands behind the parenthesis, with the comma behind the entry. -/
def body : Line :=
  decimal e.stat ++ 44 :: quoted e.longName ++ 44 :: quoted e.shortName ++ 44 :: quoted e.numeric ++ e.actText ++
    ascii "),"

def text : Line := List.replicate e.blanks 32 ++ 40 :: e.body

/-- Long name, short name, numeric with access technology, and status, where the entry has them all. -/
def reported (updateNetworkList : UpdateNetworkList) : Option (List (Option Line)) :=
  e.act.bind fun act => (statText e.stat).map fun status =>
    let cur := [some e.longName, some e.shortName, some (e.numericText act), some status]
    ((updateNetworkList cur).elim (some e.longName) fun name => some name.1) :: cur.tail

/-- The entry has an access technology, and its status has a text. -/
def Whole : Prop := e.act.isSome ∧ 0 ≤ e.stat ∧ e.stat ≤ 3

end NetworkEntry

/-- A text without quotes and parentheses. -/
def Plain (s : Line) : Prop := ∀ c ∈ s, c ≠ 34 ∧ c ≠ 40 ∧ c ≠ 41

/-- An answer to AT+COPS=?: the entries, and the lists of the modes and the formats. -/
structure ScanAnswer where
  entries : List NetworkEntry
  modes : Line
  formats : Line
  modes_ok : Plain modes
  formats_ok : Plain formats

def ScanAnswer.capabilities (a : ScanAnswer) : Line := ascii ",(" ++ a.modes ++ ascii "),(" ++ a.formats ++ ascii ")"

def ScanAnswer.line (a : ScanAnswer) : Line :=
  ascii "+COPS:" ++ a.entries.flatMap NetworkEntry.text ++ a.capabilities

/-! ## Parentheses -/

theorem countGroups_plain {s : Line} (h : Plain s) (tok : Nat) (rest : Line) :
    countGroups false tok (s ++ rest) = countGroups false tok rest := by
  induction s with
  | nil => rfl
  | cons c s ih =>
    obtain ⟨hquote, hopen, hclose⟩ := h c List.mem_cons_self
    have hrest := ih fun c hc => h c (List.mem_cons_of_mem _ hc)
    rw [List.cons_append, countGroups]
    simp only [hquote, hopen, hclose, if_false, false_and, decide_false, hrest]

theorem countGroups_quoted {s : Line} (h : (34 : Byte) ∉ s) (tok : Nat) (rest : Line) :
    countGroups false tok (quoted s ++ rest) = countGroups false tok rest := by
  have hinside (s : Line) (h : (34 : Byte) ∉ s) :
      countGroups true tok (s ++ 34 :: rest) = countGroups false tok rest := by
    induction s with
    | nil => rfl
    | cons c s ih =>
      rw [List.mem_cons, not_or] at h
      rw [List.cons_append, countGroups, decide_eq_true (Ne.symm h.1), ih h.2]
  have hquoted : quoted s ++ rest = 34 :: (s ++ 34 :: rest) := by
    simp [quoted, ascii]
  rw [hquoted, countGroups]
  exact hinside s h

theorem plain_decimal (n : Int) : Plain (decimal n) := by
  intro c hc
  rcases mem_decimal hc with hdigit | rfl
  · refine ⟨?_, ?_, ?_⟩
    · rintro rfl
      exact absurd hdigit (by decide)
    · rintro rfl
      exact absurd hdigit (by decide)
    · rintro rfl
      exact absurd hdigit (by decide)
  · decide

/-- A group counts, whatever its names hold. -/
theorem countGroups_text (e : NetworkEntry) (rest : Line) :
    countGroups false 0 (e.text ++ rest) = countGroups false 0 rest + 1 := by
  have hblanks : Plain (List.replicate e.blanks 32) := by
    intro c hc
    rw [List.eq_of_mem_replicate hc]
    decide
  have hact : Plain e.actText := by
    unfold NetworkEntry.actText
    cases e.act with
    | none =>
      intro c hc
      cases hc
    | some act =>
      intro c hc
      rcases List.mem_cons.1 hc with rfl | hc
      · decide
      · exact plain_decimal act c hc
  have hbehind (tok : Nat) (s : Line) : countGroups false tok (44 :: s) = countGroups false tok s := rfl
  have hopen (s : Line) : countGroups false 0 (40 :: s) = countGroups false 1 s := rfl
  have hclose (s : Line) : countGroups false 1 (ascii ")," ++ s) = countGroups false 0 s + 1 := rfl
  simp only [NetworkEntry.text, NetworkEntry.body, List.append_assoc, List.cons_append]
  rw [countGroups_plain hblanks, hopen, countGroups_plain (plain_decimal _), hbehind,
    countGroups_quoted e.longName_ok.no_quote, hbehind, countGroups_quoted e.shortName_ok.no_quote, hbehind,
    countGroups_quoted e.numeric_ok.no_quote, countGroups_plain hact, hclose]

theorem countGroups_capabilities (a : ScanAnswer) : countGroups false 0 a.capabilities = 2 := by
  have hfirst (s : Line) : countGroups false 0 (ascii ",(" ++ s) = countGroups false 1 s := rfl
  have hsecond (s : Line) : countGroups false 1 (ascii "),(" ++ s) = countGroups false 1 s + 1 := rfl
  simp only [ScanAnswer.capabilities, List.append_assoc]
  rw [hfirst, countGroups_plain a.modes_ok, hsecond, countGroups_plain a.formats_ok]
  rfl

/-- **The first pass finds the entries** and two groups more. -/
theorem countGroups_line (a : ScanAnswer) : countGroups false 0 a.line = a.entries.length + 2 := by
  have hname (s : Line) : countGroups false 0 (ascii "+COPS:" ++ s) = countGroups false 0 s := rfl
  have hentries (es : List NetworkEntry) (rest : Line) :
      countGroups false 0 (es.flatMap NetworkEntry.text ++ rest) = es.length + countGroups false 0 rest := by
    induction es with
    | nil => simp
    | cons e es ih =>
      rw [List.flatMap_cons, List.append_assoc, countGroups_text, ih, List.length_cons]
      omega
  rw [ScanAnswer.line, List.append_assoc, hname, hentries, countGroups_capabilities]

/-! ## Entries -/

variable {updateNetworkList : UpdateNetworkList}

/-- The list behind an entry. -/
def filledRow (updateNetworkList : UpdateNetworkList) (count k : Nat) (e : NetworkEntry) (act : Int) (status : Line)
    (l : NetList) : Option NetList := do
  let text := snprintf (32 * count) (e.numericText act)
  let name := updateNetworkList [some e.longName, some e.shortName, some text, some status]
  let tmp ← Places.store NUL l.tmp (32 * k) text
  let updated ← name.elim (some l.updatedNetList) fun name => Places.store NUL l.updatedNetList (64 * k) name.1
  some
    { responses := l.responses.modify k fun _ =>
        { longName := name.elim (.text (some e.longName)) fun _ => .updatedNetList (64 * k)
          shortName := .text (some e.shortName)
          numeric := .tmp (32 * k)
          status := .text (some status) }
      tmp := tmp
      updatedNetList := updated }

theorem setRow_setRow {k : Nat} (f g : Row → Row) (m : PUnit → Entries (Option Line)) :
    (setRow k f >>= fun _ => setRow k g >>= m) = setRow k (g ∘ f) >>= m := by
  funext l
  simp only [setRow]
  have hmodify := List.modify_modify_eq f g k l.responses
  change m ⟨⟩ { l with responses := (l.responses.modify k f).modify k g } =
    m ⟨⟩ { l with responses := l.responses.modify k (g ∘ f) }
  rw [hmodify]

/-- The texts that are read of an entry. -/
def NetworkEntry.row (e : NetworkEntry) (status : Line) : Row where
  longName := .text (some e.longName)
  shortName := .text (some e.shortName)
  numeric := .text (some e.numeric)
  status := .text (some status)

/-- The fields of an entry, one after another. -/
theorem nextEntry_eq {count k : Nat} {e : NetworkEntry} {act : Int} (hact : e.act = some act)
    (hrange : 0 ≤ e.stat ∧ e.stat ≤ 3) (rest : Line) :
    nextEntry updateNetworkList count k (e.body ++ rest) = (do
      let status ← deref (statText e.stat)
      setRow k fun _ => e.row status
      printNumeric count k e.numeric act
      updateName updateNetworkList k
      pure (some rest)) := by
  have hquoted (s behind : Line) (hs : Quotable s) :
      readStr (some (quoted s ++ 44 :: behind)) = pure (s, some behind) := by
    have hcons : quoted s ++ 44 :: behind = 34 :: (s ++ 34 :: 44 :: behind) := by simp [quoted, ascii]
    rw [readStr, hcons, at_tok_nextstr_quoted hs.no_quote]
    rfl
  have hstat (behind : Line) : readInt (some (decimal e.stat ++ 44 :: behind)) = pure (e.stat, some behind) := by
    have htok := at_tok_nextint_decimal (n := e.stat) (t := []) (by omega) (by omega) (by simp) (by simp) behind
    rw [List.append_nil] at htok
    rw [readInt, htok]
    rfl
  have htail (behind : Line) : readInt (some (decimal act ++ ascii ")," ++ behind)) = pure (act, some behind) := by
    obtain ⟨hlow, hhigh⟩ := e.act_ok act hact
    have htok := at_tok_nextint_decimal hlow hhigh (t := ascii ")") (by decide) (by simp [ascii, AtTok.isdigit]) behind
    have hcons : decimal act ++ ascii ")," ++ behind = decimal act ++ ascii ")" ++ 44 :: behind := by
      rw [List.append_assoc, List.append_assoc]
      rfl
    rw [readInt, hcons, htok]
    rfl
  have hactText : e.actText = 44 :: decimal act := by rw [NetworkEntry.actText, hact, Option.elim_some]
  simp only [NetworkEntry.body, hactText, List.append_assoc, List.cons_append] at hstat hquoted htail ⊢
  simp only [nextEntry, hstat, pure_bind, hquoted _ _ e.longName_ok, hquoted _ _ e.shortName_ok,
    hquoted _ _ e.numeric_ok, htail, setRow_setRow]
  rfl

theorem nul_notMem_decimal (n : Int) : NUL ∉ decimal n := by
  intro h
  rcases mem_decimal h with hdigit | hminus
  · exact absurd hdigit (by decide)
  · exact absurd hminus (by decide)

theorem nul_notMem_snprintf {n : Nat} {s : Line} (h : NUL ∉ s) : NUL ∉ snprintf n s :=
  fun hmem => h (List.mem_of_mem_take hmem)

theorem nul_notMem_numericText (e : NetworkEntry) (act : Int) : NUL ∉ e.numericText act := by
  rw [NetworkEntry.numericText, List.mem_append, List.mem_append, not_or, not_or]
  exact ⟨⟨e.numeric_ok.no_nul, by decide⟩, nul_notMem_decimal act⟩

/-- What an entry leaves. -/
theorem wp_nextEntry {count k : Nat} {e : NetworkEntry} {act : Int} (hact : e.act = some act) {status : Line}
    (hrange : 0 ≤ e.stat ∧ e.stat ≤ 3) (hstatus : statText e.stat = some status) (rest : Line) {l : NetList}
    (hk : k < l.responses.length) {Q : Option Line → NetList → Prop} {E : Exit (Option Line) → NetList → Prop}
    (hQ : ∀ l', filledRow updateNetworkList count k e act status l = some l' → Q (some rest) l')
    (hE : filledRow updateNetworkList count k e act status l = none → ∀ l', E .crashes l') :
    wp (nextEntry updateNetworkList count k (e.body ++ rest)) Q E l := by
  obtain ⟨row, hrow⟩ : ∃ row, l.responses[k]? = some row := ⟨_, List.getElem?_eq_getElem hk⟩
  have htext : e.numeric ++ (ascii " " ++ decimal act) = e.numericText act := by
    rw [NetworkEntry.numericText, List.append_assoc]
  rw [nextEntry_eq hact hrange, hstatus]
  cases htmp : Places.store NUL l.tmp (32 * k) (snprintf (32 * count) (e.numericText act)) with
  | none =>
    have hnone : filledRow updateNetworkList count k e act status l = none := by simp [filledRow, htmp]
    simp [setRow, printNumeric, htext, htmp, hE hnone]
  | some tmp =>
    have hload := Places.load_store (nul_notMem_snprintf (n := 32 * count) (nul_notMem_numericText e act)) htmp
    cases hname : updateNetworkList [some e.longName, some e.shortName,
        some (snprintf (32 * count) (e.numericText act)), some status] with
    | none =>
      simp [setRow, printNumeric, updateName, htext, htmp, hrow, hload, Row.cells, NetList.shown, NetworkEntry.row,
        hname, List.modify_modify_eq]
      apply hQ
      simp [filledRow, htmp, hname]
      rfl
    | some name =>
      obtain ⟨name, hnul⟩ := name
      cases hupdated : Places.store NUL l.updatedNetList (64 * k) name with
      | none =>
        have hnone : filledRow updateNetworkList count k e act status l = none := by
          simp [filledRow, htmp, hname, hupdated]
        simp [setRow, printNumeric, updateName, htext, htmp, hrow, hload, Row.cells, NetList.shown, NetworkEntry.row,
          hname, List.modify_modify_eq, hE hnone]
        rintro _ - rfl updated hsome
        cases hupdated.symm.trans hsome
      | some updated =>
        simp [setRow, printNumeric, updateName, htext, htmp, hrow, hload, Row.cells, NetList.shown, NetworkEntry.row,
          hname, List.modify_modify_eq]
        rintro _ - rfl
        rw [hupdated]
        simp only [Option.some.injEq, forall_eq', reduceCtorEq, false_implies, and_true]
        apply hQ
        simp [filledRow, htmp, hname, hupdated]
        rfl

/-! ## The loop -/

/-- The list behind the entries, all of them whole. -/
def filled (updateNetworkList : UpdateNetworkList) (count : Nat) : Nat → List NetworkEntry → NetList → Option NetList
  | _, [], l => some l
  | k, e :: es, l =>
    e.act.bind fun act => (statText e.stat).bind fun status =>
      (filledRow updateNetworkList count k e act status l).bind (filled updateNetworkList count (k + 1) es)

theorem statText_isSome {stat : Int} (h : 0 ≤ stat ∧ stat ≤ 3) : ∃ status, statText stat = some status := by
  obtain ⟨n, rfl⟩ := Int.eq_ofNat_of_zero_le h.1
  have hn : n < statStr.length := by
    have hlen : statStr.length = 4 := rfl
    omega
  exact ⟨_, by rw [statText, if_pos h.1, Int.toNat_natCast, List.getElem?_eq_getElem hn]⟩

theorem length_filledRow {count k : Nat} {e : NetworkEntry} {act : Int} {status : Line} {l l' : NetList}
    (h : filledRow updateNetworkList count k e act status l = some l') :
    l'.responses.length = l.responses.length := by
  simp only [filledRow, Option.bind_eq_bind, Option.bind_eq_some_iff, Option.some.injEq] at h
  obtain ⟨tmp, -, updated, -, rfl⟩ := h
  simp

theorem at_tok_flag_start_text (e : NetworkEntry) (rest : Line) :
    AtTok.at_tok_flag_start (some (e.text ++ rest)) 40 = some (e.body ++ rest) := by
  have hblanks : ∀ c ∈ List.replicate e.blanks (32 : Byte), (c != 40) = true := by
    intro c hc
    rw [List.eq_of_mem_replicate hc]
    rfl
  rw [AtTok.at_tok_flag_start, Option.bind_some, NetworkEntry.text, List.append_assoc,
    List.dropWhile_append_of_pos hblanks]
  rfl

/-- **The second pass reads the entries**, if all of them are whole. -/
theorem wp_readEntries {count k : Nat} {es : List NetworkEntry} (hes : ∀ e ∈ es, e.Whole) (rest : Line) {l : NetList}
    (hk : k + es.length ≤ l.responses.length) :
    wp (readEntries updateNetworkList count es.length k (some (es.flatMap NetworkEntry.text ++ rest)))
      (fun _ l' => filled updateNetworkList count k es l = some l')
      (fun _ _ => filled updateNetworkList count k es l = none) l := by
  induction es generalizing k l with
  | nil => simp [readEntries, filled]
  | cons e es ih =>
    obtain ⟨hact, hrange⟩ := hes e List.mem_cons_self
    obtain ⟨act, hact⟩ := Option.isSome_iff_exists.1 hact
    obtain ⟨status, hstatus⟩ := statText_isSome hrange
    rw [List.length_cons] at hk
    have hfilled : filled updateNetworkList count k (e :: es) l =
        (filledRow updateNetworkList count k e act status l).bind (filled updateNetworkList count (k + 1) es) := by
      rw [filled, hact, Option.bind_some, hstatus, Option.bind_some]
    rw [List.length_cons, readEntries, List.flatMap_cons, List.append_assoc]
    simp only [deref, pure_bind, at_tok_flag_start_text, Option.elim_some]
    rw [wp_bind, wp_labelled, wp_bind]
    apply wp_nextEntry hact hrange hstatus _ (by omega)
    · intro l' hl'
      rw [hfilled, hl', Option.bind_some]
      refine ih (fun e he => hes e (List.mem_cons_of_mem _ he)) ?_
      rw [length_filledRow hl']
      omega
    · intro hnone l'
      rw [hfilled, hnone]
      rfl

theorem readEntries_prefix {pre : Line} (hpre : (40 : Byte) ∉ pre) (count n k : Nat) (line : Line) :
    readEntries updateNetworkList count n k (some (pre ++ line)) =
      readEntries updateNetworkList count n k (some line) := by
  cases n with
  | zero => rfl
  | succ n =>
    have hpos : ∀ c ∈ pre, (c != 40) = true := by
      intro c hc
      simpa using ne_of_mem_of_not_mem hc hpre
    have hflag : AtTok.at_tok_flag_start (some (pre ++ line)) 40 = AtTok.at_tok_flag_start (some line) 40 := by
      rw [AtTok.at_tok_flag_start, AtTok.at_tok_flag_start, Option.bind_some, Option.bind_some,
        List.dropWhile_append_of_pos hpos]
    simp only [readEntries, deref, pure_bind, hflag]

theorem length_nextEntry (count k : Nat) (line : Line) (l : NetList) :
    wp (nextEntry updateNetworkList count k line) (fun _ l' => l'.responses.length = l.responses.length)
      (fun _ l' => l'.responses.length = l.responses.length) l := by
  simp [nextEntry, readInt, readStr, setRow, printNumeric, updateName]

/-- No row is added, and none is lost. -/
theorem length_readEntries (count n k : Nat) (line : Option Line) (l : NetList) :
    wp (readEntries updateNetworkList count n k line) (fun _ l' => l'.responses.length = l.responses.length)
      (fun _ _ => True) l := by
  induction n generalizing k line l with
  | zero => simp [readEntries]
  | succ n ih =>
    have hnext (k : Nat) (line : Option Line) (l' : NetList) (h : l'.responses.length = l.responses.length) :
        wp (readEntries updateNetworkList count n k line) (fun _ l'' => l''.responses.length = l.responses.length)
          (fun _ _ => True) l' :=
      wp_mono (ih k line l') (fun _ _ h' => h'.trans h) fun _ _ _ => trivial
    simp only [readEntries, wp_bind, wp_deref, wp_elim, wp_labelled, implies_true, and_true, wp_pure]
    rintro line rfl
    intro entry _
    refine wp_mono (length_nextEntry count k entry l) ?_ ?_
    · intro line l' hlen
      exact hnext (k + 1) line l' hlen
    · rintro (line | _ | _) l' hlen
      · exact hnext k line l' hlen
      · trivial
      · trivial

/-! ## The rows -/

/-- The name, where the numeric is printed as `f` says. -/
def NetworkEntry.nameOf (updateNetworkList : UpdateNetworkList) (f : Line → Line) (e : NetworkEntry) : Option Line :=
  e.act.bind fun act => (statText e.stat).bind fun status =>
    (updateNetworkList [some e.longName, some e.shortName, some (f (e.numericText act)), some status]).map (·.1)

def NetworkEntry.printedRow (updateNetworkList : UpdateNetworkList) (f : Line → Line) (k : Nat) (e : NetworkEntry) :
    Row where
  longName := (e.nameOf updateNetworkList f).elim (.text (some e.longName)) fun _ => .updatedNetList (64 * k)
  shortName := .text (some e.shortName)
  numeric := .tmp (32 * k)
  status := .text (statText e.stat)

def printedRows (updateNetworkList : UpdateNetworkList) (f : Line → Line) : Nat → List NetworkEntry → List Row
  | _, [] => []
  | k, e :: es => e.printedRow updateNetworkList f k :: printedRows updateNetworkList f (k + 1) es

def printed (f : Line → Line) (es : List NetworkEntry) : List (Option Line) :=
  es.map fun e => e.act.map fun act => f (e.numericText act)

def names (updateNetworkList : UpdateNetworkList) (f : Line → Line) (es : List NetworkEntry) : List (Option Line) :=
  es.map (NetworkEntry.nameOf updateNetworkList f)

theorem take_modify_self {k : Nat} {rows : List Row} {row : Row} (hk : k < rows.length) :
    (rows.modify k fun _ => row).take (k + 1) = rows.take k ++ [row] := by
  have hsplit := List.modify_eq_take_cons_drop (f := fun _ => row) hk
  have hlen : (rows.take k).length = k := by rw [List.length_take]; omega
  rw [hsplit, List.take_append, hlen, List.take_of_length_le (by omega), Nat.add_sub_cancel_left]
  rfl

theorem filledRow_eq {count k : Nat} {e : NetworkEntry} {act : Int} {status : Line} (hact : e.act = some act)
    (hstatus : statText e.stat = some status) (l : NetList) :
    filledRow updateNetworkList count k e act status l =
      (Places.store NUL l.tmp (32 * k) (snprintf (32 * count) (e.numericText act))).bind fun tmp =>
        ((e.nameOf updateNetworkList (snprintf (32 * count))).elim (some l.updatedNetList)
            (Places.store NUL l.updatedNetList (64 * k))).bind fun updated =>
          some
            { responses := l.responses.modify k fun _ => e.printedRow updateNetworkList (snprintf (32 * count)) k
              tmp := tmp
              updatedNetList := updated } := by
  have hname : e.nameOf updateNetworkList (snprintf (32 * count)) =
      (updateNetworkList [some e.longName, some e.shortName, some (snprintf (32 * count) (e.numericText act)),
        some status]).map (·.1) := by
    rw [NetworkEntry.nameOf, hact, Option.bind_some, hstatus, Option.bind_some]
  cases h : updateNetworkList [some e.longName, some e.shortName, some (snprintf (32 * count) (e.numericText act)),
      some status] with
  | none => simp [filledRow, NetworkEntry.printedRow, hname, h, hstatus]
  | some name => simp [filledRow, NetworkEntry.printedRow, hname, h, hstatus]

/-- **What is filled**: both buffers, and the rows from `k` on. -/
theorem filled_iff {count k : Nat} {es : List NetworkEntry} (hes : ∀ e ∈ es, e.Whole) {l l' : NetList}
    (hlen : l.responses.length = k + es.length) :
    filled updateNetworkList count k es l = some l' ↔
      Places.storeAll NUL 32 k (printed (snprintf (32 * count)) es) l.tmp = some l'.tmp ∧
        Places.storeAll NUL 64 k (names updateNetworkList (snprintf (32 * count)) es) l.updatedNetList =
          some l'.updatedNetList ∧
        l'.responses = l.responses.take k ++ printedRows updateNetworkList (snprintf (32 * count)) k es := by
  induction es generalizing k l with
  | nil =>
    rw [List.length_nil, Nat.add_zero] at hlen
    have htake : l.responses.take k = l.responses := List.take_of_length_le (by omega)
    simp only [filled, printed, names, List.map_nil, Places.storeAll, printedRows, htake, List.append_nil,
      Option.some.injEq]
    constructor
    · rintro rfl
      exact ⟨rfl, rfl, rfl⟩
    · rintro ⟨htmp, hupdated, hrows⟩
      cases l
      cases l'
      cases htmp
      cases hupdated
      cases hrows
      rfl
  | cons e es ih =>
    obtain ⟨hact, hrange⟩ := hes e List.mem_cons_self
    obtain ⟨act, hact⟩ := Option.isSome_iff_exists.1 hact
    obtain ⟨status, hstatus⟩ := statText_isSome hrange
    rw [List.length_cons] at hlen
    have hes' : ∀ e ∈ es, e.Whole := fun e he => hes e (List.mem_cons_of_mem _ he)
    have htake := @take_modify_self k l.responses (e.printedRow updateNetworkList (snprintf (32 * count)) k) (by omega)
    have hfilled : filled updateNetworkList count k (e :: es) l =
        (filledRow updateNetworkList count k e act status l).bind (filled updateNetworkList count (k + 1) es) := by
      rw [filled, hact, Option.bind_some, hstatus, Option.bind_some]
    have hnext (tmp updated : List Byte) := ih hes' (k := k + 1)
      (l := { responses := l.responses.modify k fun _ => e.printedRow updateNetworkList (snprintf (32 * count)) k
              tmp := tmp, updatedNetList := updated }) (by rw [List.length_modify]; omega)
    rw [hfilled, filledRow_eq hact hstatus, printed, names, List.map_cons, List.map_cons, hact, Option.map_some,
      Places.storeAll_cons, Places.storeAll_cons, Option.elim_some, printedRows, Option.bind_assoc]
    simp only [Option.bind_assoc, Option.bind_some, Option.bind_eq_some_iff, hnext, htake, List.append_assoc,
      List.cons_append, List.nil_append]
    constructor
    · rintro ⟨tmp, htmp, updated, hupdated, hrest, hrest', hrows⟩
      exact ⟨⟨tmp, htmp, hrest⟩, ⟨updated, hupdated, hrest'⟩, hrows⟩
    · rintro ⟨⟨tmp, htmp, hrest⟩, ⟨updated, hupdated, hrest'⟩, hrows⟩
      exact ⟨tmp, htmp, updated, hupdated, hrest, hrest', hrows⟩

/-! ## What is reported -/

def shownRows (l : NetList) (rows : List Row) : List (Option Line) := rows.flatMap fun row => row.cells.map l.shown

/-- What all entries report that have everything. -/
def reportedEntries (updateNetworkList : UpdateNetworkList) (es : List NetworkEntry) : List (Option Line) :=
  (es.filterMap fun e => e.reported updateNetworkList).flatten

variable {l : NetList} {k : Nat} {e : NetworkEntry} {es : List NetworkEntry} {f : Line → Line}

theorem shownRows_cons_iff (he : e.Whole) :
    shownRows l (printedRows updateNetworkList f k (e :: es)) = reportedEntries updateNetworkList (e :: es) ↔
      (l.shown ((e.nameOf updateNetworkList f).elim (.text (some e.longName)) fun _ => .updatedNetList (64 * k)) =
          some ((e.nameOf updateNetworkList id).getD e.longName) ∧
        some (Places.load NUL l.tmp (32 * k)) = e.act.map e.numericText) ∧
        shownRows l (printedRows updateNetworkList f (k + 1) es) = reportedEntries updateNetworkList es := by
  obtain ⟨hact, hrange⟩ := he
  obtain ⟨act, hact⟩ := Option.isSome_iff_exists.1 hact
  obtain ⟨status, hstatus⟩ := statText_isSome hrange
  have hreported : e.reported updateNetworkList = some
      [some ((e.nameOf updateNetworkList id).getD e.longName), some e.shortName, some (e.numericText act),
        some status] := by
    cases h : updateNetworkList [some e.longName, some e.shortName, some (e.numericText act), some status] with
    | none => simp [NetworkEntry.reported, NetworkEntry.nameOf, hact, hstatus, h]
    | some name => simp [NetworkEntry.reported, NetworkEntry.nameOf, hact, hstatus, h]
  simp [shownRows, printedRows, reportedEntries, hreported, NetworkEntry.printedRow, Row.cells, NetList.shown, hact,
    hstatus, and_assoc]

/-- Whatever is reported of names, the numerics are read back. -/
theorem readBack_of_shownRows (hes : ∀ e ∈ es, e.Whole)
    (h : shownRows l (printedRows updateNetworkList f k es) = reportedEntries updateNetworkList es) :
    Places.ReadBack NUL 32 l.tmp k (printed id es) := by
  induction es generalizing k with
  | nil => trivial
  | cons e es ih =>
    have he := hes e List.mem_cons_self
    obtain ⟨⟨-, hnumeric⟩, hrest⟩ := (shownRows_cons_iff he).1 h
    obtain ⟨act, hact⟩ := Option.isSome_iff_exists.1 he.1
    rw [hact, Option.map_some] at hnumeric
    have hmore := ih (fun e he => hes e (List.mem_cons_of_mem _ he)) hrest
    rw [printed, List.map_cons, hact]
    exact ⟨Option.some.inj hnumeric, hmore⟩

/-- **The report is right** exactly if both buffers can be read back. -/
theorem shownRows_iff (hes : ∀ e ∈ es, e.Whole) :
    shownRows l (printedRows updateNetworkList id k es) = reportedEntries updateNetworkList es ↔
      Places.ReadBack NUL 32 l.tmp k (printed id es) ∧
        Places.ReadBack NUL 64 l.updatedNetList k (names updateNetworkList id es) := by
  induction es generalizing k with
  | nil => simp [shownRows, printedRows, reportedEntries, printed, names, Places.ReadBack]
  | cons e es ih =>
    have he := hes e List.mem_cons_self
    obtain ⟨act, hact⟩ := Option.isSome_iff_exists.1 he.1
    rw [shownRows_cons_iff he, ih fun e he => hes e (List.mem_cons_of_mem _ he), printed, printed, names, names,
      List.map_cons, List.map_cons, hact, Option.map_some, Option.map_some]
    cases hname : e.nameOf updateNetworkList id with
    | none =>
      simp only [Option.elim_none, NetList.shown, Option.getD_none, true_and, Places.ReadBack, Option.some.injEq, id,
        and_assoc]
    | some name =>
      simp only [Option.elim_some, NetList.shown, Option.getD_some, Places.ReadBack, Option.some.injEq, id]
      constructor
      · rintro ⟨⟨hlong, hnumeric⟩, hprinted, hnames⟩
        exact ⟨⟨hnumeric, hprinted⟩, hlong, hnames⟩
      · rintro ⟨⟨hnumeric, hprinted⟩, hlong, hnames⟩
        exact ⟨⟨hlong, hnumeric⟩, hprinted, hnames⟩

theorem printed_eq_map : printed f es = (printed id es).map (Option.map f) := by
  simp [printed, Function.comp_def]

/-- Short texts are printed whole. -/
theorem printed_whole {size : Nat} (h : ∀ s, some s ∈ printed id es → s.length < size) :
    printed (snprintf size) es = printed id es ∧
      names updateNetworkList (snprintf size) es = names updateNetworkList id es ∧
      ∀ k, printedRows updateNetworkList (snprintf size) k es = printedRows updateNetworkList id k es := by
  have hwhole : ∀ e ∈ es, ∀ act, e.act = some act → snprintf size (e.numericText act) = e.numericText act := by
    intro e he act hact
    have hlen := h (e.numericText act) (List.mem_map.2 ⟨e, he, by rw [hact, Option.map_some, id]⟩)
    rw [snprintf, List.take_of_length_le (by omega)]
  have hname : ∀ e ∈ es, e.nameOf updateNetworkList (snprintf size) = e.nameOf updateNetworkList id := by
    intro e he
    cases hact : e.act with
    | none => simp [NetworkEntry.nameOf, hact]
    | some act => simp [NetworkEntry.nameOf, hact, hwhole e he act hact]
  refine ⟨List.map_congr_left fun e he => ?_, List.map_congr_left hname, ?_⟩
  · cases hact : e.act with
    | none => rfl
    | some act => simp [hwhole e he act hact]
  · clear h hwhole
    induction es with
    | nil => exact fun k => rfl
    | cons e es ih =>
      intro k
      have hrest := ih fun e he => hname e (List.mem_cons_of_mem _ he)
      rw [printedRows, printedRows, hrest, NetworkEntry.printedRow, NetworkEntry.printedRow,
        hname e List.mem_cons_self]

theorem networkList_line (stale : Stale) (a : ScanAnswer) (hes : ∀ e ∈ a.entries, e.Whole) :
    networkList updateNetworkList stale a.entries.length a.line =
      filled updateNetworkList a.entries.length 0 a.entries (.alloca stale a.entries.length) := by
  have hname : (40 : Byte) ∉ ascii "+COPS:" := by decide
  have hrun := @wp_readEntries updateNetworkList a.entries.length 0 _ hes
    a.capabilities (l := .alloca stale a.entries.length) (by simp [NetList.alloca])
  rw [networkList, ScanAnswer.line, List.append_assoc, readEntries_prefix hname]
  rcases exists_of_wp hrun with ⟨_, l', hms, hl'⟩ | ⟨_, l', hms, hl'⟩
  · rw [madeBy, hms, hl']
  · rw [madeBy, hms, hl']

/-- **Whole entries are reported right** exactly if their texts fit. -/
theorem networkList_iff (stale : Stale) (a : ScanAnswer) (hes : ∀ e ∈ a.entries, e.Whole) :
    (∃ l, networkList updateNetworkList stale a.entries.length a.line = some l ∧
        l.strings = reportedEntries updateNetworkList a.entries) ↔
      Places.Fits 32 (printed id a.entries) ∧ Places.Fits 64 (names updateNetworkList id a.entries) := by
  rw [networkList_line stale a hes]
  have hfilled (l : NetList) := @filled_iff updateNetworkList a.entries.length 0 _ hes
    (.alloca stale a.entries.length) l (by simp [NetList.alloca])
  have htmp : (NetList.alloca stale a.entries.length).tmp.length = 32 * (0 + (printed id a.entries).length) := by
    simp [NetList.alloca, printed]
  have hupdated : (NetList.alloca stale a.entries.length).updatedNetList.length =
      64 * (0 + (names updateNetworkList id a.entries).length) := by
    simp [NetList.alloca, names]
  have hnul : ∀ s, some s ∈ printed id a.entries → NUL ∉ s := by
    intro s hs
    obtain ⟨e, -, heq⟩ := List.mem_map.1 hs
    obtain ⟨act, -, rfl⟩ := Option.map_eq_some_iff.1 heq
    exact nul_notMem_numericText e act
  have hnul' : ∀ s, some s ∈ names updateNetworkList id a.entries → NUL ∉ s := by
    intro s hs
    obtain ⟨e, -, heq⟩ := List.mem_map.1 hs
    obtain ⟨act, -, hrest⟩ := Option.bind_eq_some_iff.1 heq
    obtain ⟨status, -, hname⟩ := Option.bind_eq_some_iff.1 hrest
    obtain ⟨name, -, rfl⟩ := Option.map_eq_some_iff.1 hname
    exact name.2
  rw [← Places.fits_iff hnul htmp, ← Places.fits_iff hnul' hupdated]
  have hcount : (NetList.alloca stale a.entries.length).tmp.length = 32 * a.entries.length := by
    simp [NetList.alloca]
  constructor
  · rintro ⟨l, hl, hstrings⟩
    obtain ⟨hstore, hstore', hrows⟩ := (hfilled l).1 hl
    have hshown : shownRows l (printedRows updateNetworkList (snprintf (32 * a.entries.length)) 0 a.entries) =
        reportedEntries updateNetworkList a.entries := by
      rw [List.take_zero, List.nil_append] at hrows
      rw [← hrows]
      exact hstrings
    have hread := readBack_of_shownRows hes hshown
    have hshort : ∀ s, some s ∈ printed id a.entries → s.length < 32 * a.entries.length := by
      intro s hs
      rw [printed_eq_map] at hstore
      rw [← hcount]
      exact Places.length_lt_of_readBack hstore hread hs
    obtain ⟨hprinted, hnames, hprintedRows⟩ := @printed_whole updateNetworkList _ _ hshort
    rw [hprinted] at hstore
    rw [hnames] at hstore'
    rw [hprintedRows, shownRows_iff hes] at hshown
    exact ⟨⟨l.tmp, hstore, hshown.1⟩, l.updatedNetList, hstore', hshown.2⟩
  · rintro ⟨⟨tmp, hstore, hread⟩, updated, hstore', hread'⟩
    have hshort : ∀ s, some s ∈ printed id a.entries → s.length < 32 * a.entries.length := by
      intro s hs
      have hlt := Places.length_lt_of_fits ((Places.fits_iff hnul htmp).1 ⟨tmp, hstore, hread⟩) hs
      rwa [printed, List.length_map] at hlt
    obtain ⟨hprinted, hnames, hprintedRows⟩ := @printed_whole updateNetworkList _ _ hshort
    refine ⟨{ responses := printedRows updateNetworkList id 0 a.entries, tmp := tmp, updatedNetList := updated }, ?_,
      (shownRows_iff hes).2 ⟨hread, hread'⟩⟩
    rw [hfilled, hprinted, hnames, hprintedRows, List.take_zero, List.nil_append]
    exact ⟨hstore, hstore', rfl⟩

/-! ## The request -/

/-- The last event is a failure, or the report of what the entries say that have everything. -/
def ListedOrRefused (updateNetworkList : UpdateNetworkList) (t : RIL_Token) (a : ScanAnswer) (log : List Event) :
    Prop :=
  ∃ e, log.getLast? = some e ∧
    (Sim.failure t e ∨ e = .RIL_onRequestComplete t .SUCCESS (.strings (reportedEntries updateNetworkList a.entries)))

/-- There is no network, or every entry is whole and its texts fit into their places. -/
def Listable (updateNetworkList : UpdateNetworkList) (a : ScanAnswer) : Prop :=
  a.entries = [] ∨ ascii ",,,," <:+: a.line ∨
    (∀ e ∈ a.entries, e.Whole) ∧ Places.Fits 32 (printed id a.entries) ∧
      Places.Fits 64 (names updateNetworkList id a.entries)

variable {γ : Type} {w : World γ} {t : RIL_Token}

/-- A row is listed for every entry. -/
theorem length_strings {stale : Stale} {count : Nat} {line : Line} {l : NetList}
    (h : networkList updateNetworkList stale count line = some l) : l.strings.length = 4 * count := by
  have hlen : l.responses.length = count := by
    unfold networkList madeBy at h
    have hrun := @length_readEntries updateNetworkList count count 0 (some line)
      (.alloca stale count)
    rcases exists_of_wp hrun with ⟨_, l', hms, hl'⟩ | ⟨_, l', hms, -⟩
    · rw [hms] at h
      cases h
      rw [hl']
      simp [NetList.alloca]
    · rw [hms] at h
      cases h
  simp [NetList.strings, Row.cells, List.length_flatMap, hlen, List.map_const', List.sum_replicate_nat,
    Nat.mul_comm]

theorem whole_of_reported {e : NetworkEntry} (h : (e.reported updateNetworkList).isSome = true) : e.Whole := by
  obtain ⟨fields, hfields⟩ := Option.isSome_iff_exists.1 h
  obtain ⟨act, hact, hrest⟩ := Option.bind_eq_some_iff.1 hfields
  obtain ⟨status, hstatus, -⟩ := Option.map_eq_some_iff.1 hrest
  unfold statText at hstatus
  split at hstatus
  · next hnonneg =>
    have hlt := (List.getElem?_eq_some_iff.1 hstatus).1
    have hlen : statStr.length = 4 := rfl
    exact ⟨by rw [hact]; rfl, hnonneg, by omega⟩
  · cases hstatus

/-- A list that is right reports every entry. -/
theorem whole_of_strings {stale : Stale} {es : List NetworkEntry} {line : Line} {l : NetList}
    (hl : networkList updateNetworkList stale es.length line = some l)
    (hstrings : l.strings = reportedEntries updateNetworkList es) : ∀ e ∈ es, e.Whole := by
  have hfour : ∀ fields ∈ es.filterMap fun e => e.reported updateNetworkList, fields.length = 4 := by
    intro fields hfields
    obtain ⟨e, -, heq⟩ := List.mem_filterMap.1 hfields
    obtain ⟨act, -, hrest⟩ := Option.bind_eq_some_iff.1 heq
    obtain ⟨status, -, rfl⟩ := Option.map_eq_some_iff.1 hrest
    rfl
  have hlen := length_strings hl
  rw [hstrings, reportedEntries, List.length_flatten, List.map_congr_left hfour, List.map_const',
    List.sum_replicate_nat] at hlen
  have hsame : (es.filterMap fun e => e.reported updateNetworkList).length = es.length := by omega
  exact fun e he => whole_of_reported (List.filterMap_length_eq_length.1 hsame e he)

theorem refused_requestNetworkList (stale : Stale) {a : ScanAnswer}
    (hline : lineOf (ascii "+COPS:") (w.answers 0) = some a.line)
    (hrefused : a.entries = [] ∨ ascii ",,,," <:+: a.line) :
    ListedOrRefused updateNetworkList t a
      (after (requestNetworkList updateNetworkList stale t : Handler γ Empty Unit) w).log := by
  obtain ⟨f, ls, ha, hf, hls⟩ := Sim.lineOf_eq_some.1 hline
  apply after_of_ends (P := fun w' : World γ => ListedOrRefused updateNetworkList t a w'.log)
  have hfailure (err : RIL_Errno) (h : err ≠ .SUCCESS) :
      ListedOrRefused updateNetworkList t a
        (w.log ++ [.at_send_command (ascii "AT+COPS=?"), .RIL_onRequestComplete t err .NULL]) :=
    ⟨.RIL_onRequestComplete t err .NULL, by simp, .inl ⟨err, h, rfl⟩⟩
  simp [requestNetworkList, failNetworkList, ha, hf, hls, countGroups_line, hfailure]
  intro hpos hnone
  rcases hrefused with hempty | hcommas
  · simp [hempty] at hpos
  · exact absurd hcommas hnone

theorem log_requestNetworkList (stale : Stale) {a : ScanAnswer}
    (hline : lineOf (ascii "+COPS:") (w.answers 0) = some a.line)
    (hsome : ¬ (a.entries = [] ∨ ascii ",,,," <:+: a.line)) :
    (after (requestNetworkList updateNetworkList stale t : Handler γ Empty Unit) w).log =
      w.log ++ .at_send_command (ascii "AT+COPS=?") ::
        ((networkList updateNetworkList stale a.entries.length a.line).elim [] fun l =>
          [.RIL_onRequestComplete t .SUCCESS (.strings l.strings)]) := by
  obtain ⟨f, ls, ha, hf, hls⟩ := Sim.lineOf_eq_some.1 hline
  apply Sim.log_after_eq
  simp [requestNetworkList, failNetworkList, ha, hf, hls, countGroups_line]
  refine ⟨fun h => absurd h hsome, fun _ _ => ⟨fun l hl => ?_, fun hl => ?_⟩⟩
  · rw [hl, Option.elim_some]
  · rw [hl, Option.elim_none]

/-- **The list matches the answer, or is refused**, exactly if it can be listed. -/
theorem listedOrRefused_iff_listable (updateNetworkList : UpdateNetworkList) (stale : Stale) (w : World γ)
    (t : RIL_Token) (a : ScanAnswer) (hline : lineOf (ascii "+COPS:") (w.answers 0) = some a.line) :
    ListedOrRefused updateNetworkList t a
        (after (requestNetworkList updateNetworkList stale t : Handler γ Empty Unit) w).log ↔
      Listable updateNetworkList a := by
  by_cases hrefused : a.entries = [] ∨ ascii ",,,," <:+: a.line
  · refine iff_of_true (refused_requestNetworkList stale hline hrefused) ?_
    rcases hrefused with hempty | hcommas
    · exact .inl hempty
    · exact .inr (.inl hcommas)
  · have hlistable : Listable updateNetworkList a ↔ (∀ e ∈ a.entries, e.Whole) ∧
        Places.Fits 32 (printed id a.entries) ∧ Places.Fits 64 (names updateNetworkList id a.entries) := by
      rw [Listable, ← or_assoc, or_iff_right hrefused]
    have hlisted : ListedOrRefused updateNetworkList t a
        (after (requestNetworkList updateNetworkList stale t : Handler γ Empty Unit) w).log ↔
          ∃ l, networkList updateNetworkList stale a.entries.length a.line = some l ∧
            l.strings = reportedEntries updateNetworkList a.entries := by
      rw [log_requestNetworkList stale hline hrefused]
      cases networkList updateNetworkList stale a.entries.length a.line with
      | none => simp [ListedOrRefused, Sim.failure]
      | some l => simp [ListedOrRefused, Sim.failure]
    rw [hlistable, hlisted]
    constructor
    · rintro ⟨l, hl, hstrings⟩
      have hwhole := whole_of_strings hl hstrings
      exact ⟨hwhole, (networkList_iff stale a hwhole).1 ⟨l, hl, hstrings⟩⟩
    · rintro ⟨hwhole, hfits⟩
      exact (networkList_iff stale a hwhole).2 hfits

theorem quotable_name : Quotable (ascii "CHINA MOBILE") := ⟨by decide, by decide⟩
theorem quotable_short : Quotable (ascii "CMCC") := ⟨by decide, by decide⟩
theorem quotable_numeric : Quotable (ascii "46000") := ⟨by decide, by decide⟩

def chinaMobile : NetworkEntry where
  blanks := 1
  stat := 2
  longName := ascii "CHINA MOBILE"
  shortName := ascii "CMCC"
  numeric := ascii "46000"
  act := some 7
  longName_ok := quotable_name
  shortName_ok := quotable_short
  numeric_ok := quotable_numeric
  act_ok := by simp

def withoutAct (e : NetworkEntry) : NetworkEntry := { e with act := none, act_ok := by simp }

theorem plain_digits : Plain (ascii "0-4") := by
  have hdigits : ascii "0-4" = [48, 45, 52] := by decide
  simp [Plain, hdigits]

/-- An answer with the lists of the capabilities. -/
def scanOf (entries : List NetworkEntry) : ScanAnswer where
  entries := entries
  modes := ascii "0-4"
  formats := ascii "0-4"
  modes_ok := plain_digits
  formats_ok := plain_digits

/-- The modem answers so to every command. -/
def scanned (line : Line) : World Unit := .start (fun _ => .response (ascii "OK") [line]) (fun _ => true) ()

def noStale : Stale := ⟨fun _ => none, fun _ => 0⟩

/-- An entry is listed as it is. -/
theorem listedOrRefused_iff_listable_cmcc :
    ListedOrRefused (fun _ => none) (some 1) (scanOf [chinaMobile])
      (after (requestNetworkList (fun _ => none) noStale (some 1) : Handler Unit Empty Unit)
        (scanned (ascii "+COPS: (2,\"CHINA MOBILE\",\"CMCC\",\"46000\",7),,(0-4),(0-4)"))).log := by
  refine (listedOrRefused_iff_listable _ _ _ _ _ (by decide)).2 (.inr (.inr ⟨?_, ?_, ?_⟩))
  · intro e he
    rw [List.mem_singleton.1 he]
    exact ⟨rfl, by decide, by decide⟩
  · exact ⟨.inl (by decide), trivial⟩
  · trivial

/-- Without an access technology, the next entry is taken for it, and the lists behind the last entry for
an entry: the line ends too early. -/
theorem listedOrRefused_fails_noAct :
    ¬ ListedOrRefused (fun _ => none) (some 1) (scanOf [withoutAct chinaMobile, chinaMobile])
      (after (requestNetworkList (fun _ => none) noStale (some 1) : Handler Unit Empty Unit)
        (scanned (scanOf [withoutAct chinaMobile, chinaMobile]).line)).log := by
  rintro ⟨e, hlast, he⟩
  have hlog : (after (requestNetworkList (fun _ => none) noStale (some 1) : Handler Unit Empty Unit)
      (scanned (scanOf [withoutAct chinaMobile, chinaMobile]).line)).log.getLast? =
        some (.at_send_command (ascii "AT+COPS=?")) := by decide +kernel
  cases hlog.symm.trans hlast
  rcases he with ⟨err, -, heq⟩ | heq
  · cases heq
  · cases heq

end UniRil.NetworkRequests
