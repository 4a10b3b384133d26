import UniRil.Call.Answered
import UniRil.Call.Tokens
import UniRil.Decimal
import UniRil.Handlers.Commands

/-!
# The list of emergency numbers (ril_call.c)

UPDATE_ECCLIST copies the string of the request into a block of the length that the dispatcher tells, and DIAL reads
the block up to its NUL.
-/

namespace UniRil.Call.EccList

open Flows Handlers
open AtTok (Line)
open Requests (Globals RIL_Dial PRESENT eccNumbers compareEcc strtok_r tokens requestDial requestEccDial clirText)

variable {ε : Type}

/-! ## The block -/

/-- The cells of the calls, and the block behind `s_realEccList`. -/
structure Stored where
  calls : Globals
  s_realEccList : Option Line
  /-- A byte behind the block was read. -/
  outside : Bool

/-- `pString` and `dataLen` of dispatchString. -/
def dispatchString (str : Line) : Option Line × Nat :=
  if str = [] then (none, 0) else (some str, strlen str + 1)

/-- `calloc(datalen, 1)` and `snprintf` into it. -/
def printedBlock (datalen : Nat) (text : Line) : Line :=
  let printed := text.take (datalen - 1)
  printed ++ List.replicate (datalen - printed.length) NUL

def updateEcclist (data : Option Line) (datalen : Nat) (t : RIL_Token) : Handler Stored ε Unit := do
  modifyGlobals fun g => { g with s_realEccList := some (printedBlock datalen (printed data)) }
  RIL_onRequestComplete t .SUCCESS .NULL

def onCalls {α : Type} (m : Handler Globals ε α) : Handler Stored ε α :=
  within Stored.calls (fun calls g => { g with calls }) m

/-- `beyond` is what lies behind the block. -/
def isEccNumber (beyond : Line) (dialNumber : Option Line) (catgry : Int) : Handler Stored ε (Bool × Int) := do
  let g ← getGlobals
  match g.s_realEccList with
  | some block => do
    -- `strlen`
    modifyGlobals fun g => { g with outside := g.outside || NUL ∉ block }
    onCalls (compareEcc dialNumber (eccNumbers (cstr (block ++ beyond))) catgry)
  | none => onCalls (Requests.isEccNumber dialNumber catgry)

def requestDIAL (beyond : Line) (p_dial : RIL_Dial) (t : RIL_Token) : Handler Stored ε Unit := do
  let (ret, category) ← isEccNumber beyond p_dial.address (-1)
  if ret then
    onCalls (requestEccDial p_dial t category)
  else
    onCalls (requestDial p_dial t)

/-! ## Entries -/

/-- A category is an `int`, and -1 says that there is none. -/
structure EccEntry where
  number : Line
  category : Option Int
  number_ne : number ≠ []
  plain : (44 : Byte) ∉ number ∧ (64 : Byte) ∉ number ∧ NUL ∉ number
  category_int : ∀ c, category = some c → -2 ^ 31 ≤ c ∧ c < 2 ^ 31 ∧ c ≠ -1

/-- `number` or `number@category` -/
def EccEntry.text (e : EccEntry) : Line := e.number ++ e.category.elim [] fun c => 64 :: decimal c

def listText (entries : List EccEntry) : Line := (ascii ",").intercalate (entries.map EccEntry.text)

/-- The first entry for a number. -/
def firstFor (entries : List EccEntry) (n : Line) : Option EccEntry := entries.find? fun e => e.number = n

/-- The list is stored, and a number is dialled. -/
def storeAndDial (beyond : Line) (entries : List EccEntry) (p_dial : RIL_Dial) (t t' : RIL_Token) :
    Handler Stored Empty Unit := do
  let (data, datalen) := dispatchString (listText entries)
  updateEcclist data datalen t
  requestDIAL beyond p_dial t'

/-! ## What is dialled -/

/-- `ATDn@c,#`, or `ATDn@,#` without a category. -/
def eccCommand (n : Line) (category : Option Int) (clir : Int) : Line :=
  ascii "ATD" ++ n ++ ascii "@" ++ category.elim [] decimal ++ ascii ",#" ++ printed (clirText clir) ++ ascii ";"

/-- `ATDn` -/
def ordinaryCommand (n : Line) (clir : Int) : Line := ascii "ATD" ++ n ++ printed (clirText clir) ++ ascii ";"

/-- An emergency number is dialled as one, every other number is not, and nothing is read behind the list. -/
structure Recognised (entries : List EccEntry) (n : Line) (clir : Int) (t' : RIL_Token) (present : Prop)
    (w : World Stored) : Prop where
  emergency : ∀ e, firstFor entries n = some e → commands w.log = [eccCommand n e.category clir]
  ordinary : firstFor entries n = none → present → commands w.log = [ordinaryCommand n clir]
  noCard : firstFor entries n = none → ¬ present →
    commands w.log = [] ∧ ∃ err ≠ RIL_Errno.SUCCESS, .RIL_onRequestComplete t' err .NULL ∈ w.log
  inside : w.globals.outside = false

/-! ## Texts -/

theorem EccEntry.text_ne (e : EccEntry) : e.text ≠ [] := by
  unfold EccEntry.text
  exact List.append_ne_nil_of_left_ne_nil e.number_ne _

theorem notMem_decimal {c : Byte} (hdigit : AtTok.isdigit c = false) (hminus : c ≠ 45) (n : Int) : c ∉ decimal n := by
  intro hmem
  rcases mem_decimal hmem with h | h
  · rw [hdigit] at h
    cases h
  · exact hminus h

theorem EccEntry.notMem_text (e : EccEntry) {c : Byte} (hnumber : c ∉ e.number) (hat : c ≠ 64)
    (hdigit : AtTok.isdigit c = false) (hminus : c ≠ 45) : c ∉ e.text := by
  have hdecimal := notMem_decimal hdigit hminus
  unfold EccEntry.text
  cases e.category with
  | none => simpa using hnumber
  | some n => simp [hnumber, hat, hdecimal]

theorem EccEntry.comma_notMem_text (e : EccEntry) : (44 : Byte) ∉ e.text :=
  e.notMem_text e.plain.1 (by decide) (by decide) (by decide)

theorem nul_notMem_intercalate {texts : List Line} (h : ∀ t ∈ texts, NUL ∉ t) :
    NUL ∉ (ascii ",").intercalate texts := by
  induction texts with
  | nil => exact List.not_mem_nil
  | cons t texts ih =>
    rw [List.forall_mem_cons] at h
    cases texts with
    | nil => simpa using h.1
    | cons t' texts =>
      have hrest := ih h.2
      have hcomma : NUL ∉ ascii "," := by decide
      rw [List.intercalate_cons_cons]
      simp [h.1, hcomma, hrest]

theorem nul_notMem_listText (entries : List EccEntry) : NUL ∉ listText entries := by
  apply nul_notMem_intercalate
  intro t ht
  obtain ⟨e, -, rfl⟩ := List.mem_map.1 ht
  exact e.notMem_text e.plain.2.2 (by decide) (by decide) (by decide)

theorem listText_eq_nil_iff (entries : List EccEntry) : listText entries = [] ↔ entries = [] := by
  cases entries with
  | nil => exact iff_of_true rfl rfl
  | cons e entries =>
    have hne := e.text_ne
    refine iff_of_false ?_ (List.cons_ne_nil e entries)
    unfold listText
    cases entries with
    | nil => simpa using hne
    | cons e' entries =>
      rw [List.map_cons, List.map_cons, List.intercalate_cons_cons]
      simp [hne]

/-! ## What is read of the list -/

/-- The inner scan finds the number, and the category behind the `@`. -/
theorem strtok_r_text (e : EccEntry) : strtok_r e.text 64 = some (e.number, e.category.map decimal) := by
  have hat : ∀ c ∈ e.number, (c != (64 : Byte)) = true := by
    intro c hc
    simpa using ne_of_mem_of_not_mem hc e.plain.2.1
  obtain ⟨c, number, hnumber⟩ := List.exists_cons_of_ne_nil e.number_ne
  have hfirst : (c == (64 : Byte)) = false := by
    have hc := hat c (by rw [hnumber]; exact List.mem_cons_self)
    simpa using hc
  have hskip : e.text.dropWhile (· == (64 : Byte)) = e.text := by
    rw [EccEntry.text, hnumber, List.cons_append, List.dropWhile_cons_of_neg (by simp [hfirst])]
  rw [strtok_r, hskip, if_neg e.text_ne, EccEntry.text, List.takeWhile_append_of_pos hat,
    List.dropWhile_append_of_pos hat]
  cases e.category with
  | none => simp
  | some category => simp

/-- **The list is read** as its entries. -/
theorem eccNumbers_listText (entries : List EccEntry) :
    eccNumbers (listText entries) = entries.map fun e => (e.number, e.category.map decimal) := by
  have htexts : ∀ t ∈ entries.map EccEntry.text, t ≠ [] ∧ (44 : Byte) ∉ t := by
    intro t ht
    obtain ⟨e, -, rfl⟩ := List.mem_map.1 ht
    exact ⟨e.text_ne, e.comma_notMem_text⟩
  have hentries : ((fun tmpNumber => strtok_r tmpNumber 64) ∘ EccEntry.text) =
      some ∘ fun e : EccEntry => (e.number, e.category.map decimal) := funext strtok_r_text
  rw [eccNumbers, listText, Requests.tokens_intercalate htexts, List.filterMap_map, hentries, List.filterMap_eq_map]

/-! ## The search -/

/-- What `compareEcc` finds for a number: whether it is there, and the category. -/
def lookup (l : List (Line × Option Line)) (n : Line) (catgry : Int) : Bool × Int :=
  (l.find? fun entry => entry.1 = n).elim (false, catgry) fun entry => (true, entry.2.elim catgry AtTok.atoi)

theorem wp_compareEcc_some {E : Exit ε → World Globals → Prop} {w : World Globals}
    {Q : Bool × Int → World Globals → Prop} (n : Line) (l : List (Line × Option Line)) (catgry : Int) :
    wp (compareEcc (some n) l catgry) Q E w ↔ Q (lookup l n catgry) w := by
  induction l with
  | nil => rfl
  | cons entry rest ih =>
    by_cases hn : entry.1 = n
    · simp [compareEcc, lookup, hn]
    · have hlookup : lookup (entry :: rest) n catgry = lookup rest n catgry := by
        rw [lookup, List.find?_cons_of_neg (by simpa using hn), lookup]
      rw [hlookup, ← ih]
      simp [compareEcc, hn]

theorem atoi_category (e : EccEntry) : (e.category.map decimal).elim (-1) AtTok.atoi = e.category.getD (-1) := by
  cases hc : e.category with
  | none => rfl
  | some c =>
    obtain ⟨hlow, hhigh, -⟩ := e.category_int c hc
    have hstrtol := strtol_decimal (n := c) (t := []) (by omega) (by omega) (by simp)
    rw [List.append_nil] at hstrtol
    rw [Option.map_some, Option.elim_some, AtTok.atoi, hstrtol, Option.getD_some, toInt_of_range hlow hhigh,
      Option.getD_some]

theorem lookup_listText (entries : List EccEntry) (n : Line) :
    lookup (eccNumbers (listText entries)) n (-1) =
      (firstFor entries n).elim (false, -1) fun e => (true, e.category.getD (-1)) := by
  have hnumber : ((fun entry : Line × Option Line => decide (entry.1 = n)) ∘
      fun e : EccEntry => (e.number, e.category.map decimal)) = fun e => decide (e.number = n) := rfl
  rw [lookup, eccNumbers_listText, List.find?_map, hnumber, ← firstFor]
  cases firstFor entries n with
  | none => rfl
  | some e =>
    have hcategory := atoi_category e
    simpa using hcategory

/-! ## The two requests -/

theorem categoryText_eq (e : EccEntry) :
    (if e.category.getD (-1) ≠ -1 then ascii "@" ++ decimal (e.category.getD (-1)) ++ ascii ",#" else ascii "@,#") =
      ascii "@" ++ e.category.elim [] decimal ++ ascii ",#" := by
  cases hc : e.category with
  | none => rfl
  | some c => rw [Option.getD_some, if_pos (e.category_int c hc).2.2, Option.elim_some]

/-- The block of a list that is not empty ends with its NUL. -/
theorem printedBlock_text {text : Line} (h : NUL ∉ text) : printedBlock (strlen text + 1) text = text ++ [NUL] := by
  have hlen : strlen text = text.length := by rw [strlen, cstr_of_notMem h]
  rw [printedBlock, hlen, Nat.add_sub_cancel, List.take_length, Nat.add_sub_cancel_left]
  rfl

/-- The world after UPDATE_ECCLIST and the look at the list. -/
def found (entries : List EccEntry) (t : RIL_Token) (w : World Stored) : World Stored :=
  (w.note (.RIL_onRequestComplete t .SUCCESS .NULL)).setGlobals fun g =>
    { g with s_realEccList := some (listText entries ++ [NUL]) }

section

variable {E : Exit Empty → World Stored → Prop} {E₀ : Exit Empty → World Globals → Prop} {w : World Stored}
  (beyond : Line) (n : Line) (clir : Int) (t t' : RIL_Token)

theorem wp_isEccNumber {Q : Bool × Int → World Stored → Prop} {l : List EccEntry}
    (h : w.globals.s_realEccList = some (listText l ++ [NUL])) :
    wp (isEccNumber beyond (some n) (-1)) Q E w ↔
      Q ((firstFor l n).elim (false, -1) fun e => (true, e.category.getD (-1))) w := by
  have hread : cstr ((listText l ++ [NUL]) ++ beyond) = listText l := by
    rw [List.append_assoc, List.singleton_append, cstr_append_nul (nul_notMem_listText l)]
  have hend : NUL ∈ listText l ++ [NUL] := List.mem_append_right _ (List.mem_singleton_self NUL)
  have hsame :
      (w.setGlobals fun g => { g with outside := g.outside || decide (NUL ∉ listText l ++ [NUL]) }) = w := by
    simp [World.setGlobals]
  unfold isEccNumber
  rw [wp_bind, wp_getGlobals, h]
  simp only [wp_bind, wp_modifyGlobals, onCalls, wp_within, hread, wp_compareEcc_some, lookup_listText, hsame]
  exact Iff.rfl

/-- What is found in the block is what is found in the list without it. -/
theorem isEccNumber_agrees {Q : Bool × Int → World Stored → Prop} {entries : List EccEntry}
    (h : w.globals.s_realEccList = some (listText entries ++ [NUL])) :
    wp (isEccNumber beyond (some n) (-1)) Q E w ↔
      wp (Requests.isEccNumber (some n) (-1)) (fun r _ => Q r w) E₀
        (w.withGlobals { w.globals.calls with s_realEccList := some (listText entries) }) := by
  rw [wp_isEccNumber beyond n h, ← lookup_listText, Requests.isEccNumber, wp_bind, wp_getGlobals, wp_compareEcc_some]
  exact Iff.rfl

theorem wp_storeAndDial {Q : Unit → World Stored → Prop} {entries : List EccEntry} (h : entries ≠ []) :
    wp (storeAndDial beyond entries { address := some n, clir } t t') Q E w ↔
      wp ((firstFor entries n).elim (onCalls (requestDial { address := some n, clir } t')) fun e =>
          onCalls (requestEccDial { address := some n, clir } t' (e.category.getD (-1)))) Q E (found entries t w) := by
  have hne : listText entries ≠ [] := fun hnil => h ((listText_eq_nil_iff entries).1 hnil)
  have hblock := printedBlock_text (nul_notMem_listText entries)
  unfold storeAndDial dispatchString updateEcclist requestDIAL
  simp only [hne, if_false, printed, Option.getD_some, hblock, wp_bind, wp_modifyGlobals, wp_RIL_onRequestComplete]
  rw [wp_isEccNumber (l := entries) beyond n rfl]
  cases firstFor entries n with
  | none => exact Iff.rfl
  | some e => exact Iff.rfl

end

/-! ## What goes out -/

section

variable {E : Exit ε → World Globals → Prop} {P : List Line → Prop} {w : World Globals} (p_dial : RIL_Dial)
  (t : RIL_Token)

/-- The command is sent if there is memory for it. -/
theorem wp_requestEccDial (catgry : Int) :
    wp (requestEccDial p_dial t catgry) (fun _ w' => P (commands w'.log)) E w ↔
      P (commands w.log ++
        if w.allocates 0 then
          [ascii "ATD" ++ printed p_dial.address ++
            (if catgry ≠ -1 then ascii "@" ++ decimal catgry ++ ascii ",#" else ascii "@,#") ++
            printed (clirText p_dial.clir) ++ ascii ";"]
        else []) := by
  unfold requestEccDial
  by_cases hmem : w.allocates 0
  · cases ha : w.answers 0 with
    | failed => cases t <;> simp [ha, hmem]
    | response f ls => cases t <;> simp [ha, hmem]
  · cases t <;> simp [hmem]

theorem wp_requestDial :
    wp (requestDial p_dial t) (fun _ w' => P (commands w'.log)) E w ↔
      P (commands w.log ++
        if w.globals.s_isSimPresent = PRESENT ∧ w.allocates 0 then
          [ascii "ATD" ++ printed p_dial.address ++ printed (clirText p_dial.clir) ++ ascii ";"]
        else []) := by
  unfold requestDial
  by_cases hcard : w.globals.s_isSimPresent = PRESENT
  · by_cases hmem : w.allocates 0
    · cases ha : w.answers 0 with
      | failed => simp [ha, hcard, hmem]
      | response f ls => cases hf : Command.isFinalResponseSuccess f <;> simp [ha, hcard, hmem, hf]
    · simp [hcard, hmem]
  · simp [hcard]

end

/-! ## Recognition -/

section

variable {w : World Stored} {entries : List EccEntry} (beyond : Line) (n : Line) (clir : Int) (t t' : RIL_Token)
  (present : Prop)

/-- Only the cells of the calls are changed. -/
theorem wp_onCalls {m : Handler Globals Empty Unit} {P : List Line → Prop} (h : w.globals.outside = false) :
    wp (onCalls m) (fun _ w' => P (commands w'.log) ∧ w'.globals.outside = false) (fun _ _ => False) w ↔
      wp m (fun _ w' => P (commands w'.log)) (fun _ _ => False) (w.withGlobals w.globals.calls) := by
  rw [onCalls, wp_within]
  exact wp_congr (fun _ _ => and_iff_left h) fun _ _ => Iff.rfl

theorem recognised_emergency {e : EccEntry} (h : firstFor entries n = some e) :
    Recognised entries n clir t' present w ↔
      commands w.log = [eccCommand n e.category clir] ∧ w.globals.outside = false := by
  constructor
  · exact fun hr => ⟨hr.emergency e h, hr.inside⟩
  · rintro ⟨hcommands, hinside⟩
    refine ⟨?_, ?_, ?_, hinside⟩
    · rintro e' he'
      rw [h, Option.some.injEq] at he'
      rw [hcommands, he']
    · exact fun hnone => absurd (h.symm.trans hnone) (by simp)
    · exact fun hnone => absurd (h.symm.trans hnone) (by simp)

theorem recognised_ordinary (h : firstFor entries n = none) (hp : present) :
    Recognised entries n clir t' present w ↔
      commands w.log = [ordinaryCommand n clir] ∧ w.globals.outside = false := by
  constructor
  · exact fun hr => ⟨hr.ordinary h hp, hr.inside⟩
  · rintro ⟨hcommands, hinside⟩
    refine ⟨?_, fun _ _ => hcommands, fun _ hnot => absurd hp hnot, hinside⟩
    exact fun e he => absurd (h.symm.trans he) (by simp)

/-- What lies behind a list without entries is read. -/
theorem wp_storeAndDial_nil :
    wp (storeAndDial beyond [] { address := some n, clir } t t') (fun _ w' => w'.globals.outside = true)
      (fun _ _ => True) w := by
  unfold storeAndDial dispatchString updateEcclist requestDIAL isEccNumber
  simp [listText, onCalls, printedBlock, NUL, wp_trivial]

end

/-- **Emergency numbers are recognised** exactly if the list is not empty and there is memory for the command. -/
theorem recognised_iff (beyond : Line) (entries : List EccEntry) (n : Line) (clir : Int) (t t' : RIL_Token)
    (answers : Nat → Answer) (allocates : Nat → Bool) (calls : Globals) (s_realEccList : Option Line) :
    wp (storeAndDial beyond entries { address := some n, clir } t t')
        (fun _ => Recognised entries n clir t' (calls.s_isSimPresent = PRESENT)) (fun _ _ => False)
        (.start answers allocates { calls, s_realEccList, outside := false }) ↔
      entries ≠ [] ∧
        (allocates 0 = true ∨ firstFor entries n = none ∧ calls.s_isSimPresent ≠ PRESENT) := by
  by_cases hentries : entries = []
  · subst hentries
    refine iff_of_false (fun h => ?_) fun h => h.1 rfl
    rcases exists_of_wp h with ⟨a, s', hrun, hs'⟩ | ⟨_, _, _, hs'⟩
    · have hread := (wp_of_ok hrun).1 (wp_storeAndDial_nil beyond n clir t t')
      rw [hs'.inside] at hread
      cases hread
    · exact hs'
  rw [wp_storeAndDial beyond n clir t t' hentries, and_iff_right hentries]
  cases hfirst : firstFor entries n with
  | some e =>
    have hcategory := categoryText_eq e
    rw [Option.elim_some, wp_congr (fun _ _ => recognised_emergency n clir t' _ hfirst) fun _ _ => Iff.rfl,
      wp_onCalls (P := fun l => l = [eccCommand n e.category clir]) rfl,
      wp_requestEccDial (P := fun l => l = [eccCommand n e.category clir]), hcategory]
    by_cases hmem : allocates 0
    · simp [hmem, found, World.start, eccCommand, printed]
    · simp [hmem, found, World.start]
  | none =>
    by_cases hcard : calls.s_isSimPresent = PRESENT
    · rw [Option.elim_none, wp_congr (fun _ _ => recognised_ordinary n clir t' _ hfirst hcard) fun _ _ => Iff.rfl,
        wp_onCalls (P := fun l => l = [ordinaryCommand n clir]) rfl,
        wp_requestDial (P := fun l => l = [ordinaryCommand n clir])]
      by_cases hmem : allocates 0
      · simp [hmem, hcard, found, World.start, ordinaryCommand, printed]
      · simp [hmem, hcard, found, World.start]
    · refine iff_of_true ?_ (.inr ⟨rfl, hcard⟩)
      simp [onCalls, requestDial, found, World.start, hcard]
      refine ⟨?_, fun _ hpresent => hpresent.elim, fun _ _ => ⟨rfl, .INVALID_STATE, by decide, by simp⟩, rfl⟩
      exact fun e he => absurd (hfirst.symm.trans he) (by simp)

/-- 112 is dialled with a list that is empty, and a block behind it that holds other bytes. -/
theorem recognised_fails_empty :
    ¬ wp (storeAndDial (ascii "911") [] { address := some (ascii "112"), clir := 0 } (some 1) (some 2))
        (fun _ => Recognised [] (ascii "112") 0 (some 2) (Requests.idleGlobals.s_isSimPresent = PRESENT))
        (fun _ _ => False)
        (.start (fun _ => .response (ascii "OK") []) (fun _ => true)
          { calls := Requests.idleGlobals, s_realEccList := none, outside := false }) := by
  intro h
  rcases exists_of_wp h with ⟨a, s', hrun, hs'⟩ | ⟨_, _, _, hs'⟩
  · have hread := (wp_of_ok hrun).1 (wp_storeAndDial_nil (ascii "911") (ascii "112") 0 (some 1) (some 2))
    rw [hs'.inside] at hread
    cases hread
  · exact hs'

end UniRil.Call.EccList
