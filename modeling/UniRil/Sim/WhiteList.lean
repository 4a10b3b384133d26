import UniRil.Properties
import UniRil.Sim.ApduAnswers
import UniRil.Sim.Requests

/-!
# The white list of a SIM lock

A lock fills one to three rows with texts of the modem. `rowsRead` says what the rows hold when nothing
bounds them, as far as the fields of the line go; the code is compared with it.
-/

namespace UniRil.Sim

open Flows Handlers
open AtTok (Line)
open Properties (joined)

/-! ## The rows of a lock -/

/-- What is appended to a row: a field, a part of an IMSI with two digits, or an MCC and an MNC, filled
up to their lengths. -/
inductive Piece
  | field
  | imsi
  | plmn
  deriving DecidableEq

/-- The rows of one lock of the type. -/
def layout (type : Int) : List (List Piece) :=
  if type = 1 then [[.field], List.replicate 8 .imsi]
  else if type = 2 then [[.plmn]]
  else if type = 3 then [[.plmn, .field, .field]]
  else if type = 4 then [[.plmn], [.field]]
  else [[.plmn], [.field], [.field]]

/-- The text of a piece and what is left of the line; `none` where a field is missing. -/
def Piece.read (cur : Option Line) : Piece → Option (Line × Option Line)
  | .field =>
    let tok := AtTok.at_tok_nextstr cur
    tok.value.map fun s => (s, tok.p_cur)
  | .imsi =>
    let tok := AtTok.at_tok_nextstr cur
    tok.value.map fun s => (pad 2 s, tok.p_cur)
  | .plmn =>
    let mcc := AtTok.at_tok_nextstr cur
    let mnc := AtTok.at_tok_nextstr mcc.p_cur
    let mnc_digit := AtTok.at_tok_nextint mnc.p_cur
    mcc.value.bind fun mccText => mnc.value.bind fun mncText => mnc_digit.value.map fun n =>
      (fillAndCatPlmn mccText mncText n, mnc_digit.p_cur)

/-- The pieces of a row up to the first one that is missing, and what is left behind a whole row. -/
def rowRead : List Piece → Option Line → List (Piece × Line) × Option (Option Line)
  | [], cur => ([], some cur)
  | piece :: row, cur =>
    match piece.read cur with
    | none => ([], none)
    | some (text, cur) => ((piece, text) :: (rowRead row cur).1, (rowRead row cur).2)

/-- The rows up to the first one that is not whole, and whether all are. -/
def rowsRead : List (List Piece) → Option Line → List (List (Piece × Line)) × Bool
  | [], _ => ([], true)
  | row :: rows, cur =>
    match (rowRead row cur).2 with
    | none => ([(rowRead row cur).1], false)
    | some rest => ((rowRead row cur).1 :: (rowsRead rows rest).1, (rowsRead rows rest).2)

def rowText (row : List (Piece × Line)) : Line := row.flatMap (·.2)

/-- A row has a place for its text and the NUL, and each part of an IMSI has two digits. -/
def RowFits (row : List (Piece × Line)) : Prop :=
  (rowText row).length < WHITE_LIST_COLUMN ∧ ∀ p ∈ row, p.1 = .imsi → p.2.length ≤ 2

instance (row : List (Piece × Line)) : Decidable (RowFits row) := inferInstanceAs (Decidable (_ ∧ _))

/-! ## The code fills these rows -/

/-- The code's pieces: the one for an IMSI goes through a buffer of three bytes. -/
def readPiece (cur : Option Line) : Piece → Except WhiteListError (Line × Option Line)
  | .field => nextField cur
  | .imsi => do
    let (tmpImsi, cur) ← nextField cur
    if 2 < tmpImsi.length then .error .overflow else pure (pad 2 tmpImsi, cur)
  | .plmn => do
    let (mcc, cur) ← nextField cur
    let (mnc, cur) ← nextField cur
    let (mnc_digit, cur) ← nextDigit cur
    pure (fillAndCatPlmn mcc mnc mnc_digit, cur)

/-- A row that holds `text` is filled up. -/
def fillRow (text : Line) : List Piece → Option Line → Except WhiteListError (Line × Option Line)
  | [], cur => pure (text, cur)
  | piece :: row, cur => do
    let (s, cur) ← readPiece cur piece
    let text ← part (text ++ s)
    fillRow text row cur

def fillRows : List (List Piece) → Option Line → Except WhiteListError (List Line × Option Line)
  | [], cur => pure ([], cur)
  | row :: rows, cur => do
    let (text, cur) ← fillRow [] row cur
    let (texts, cur) ← fillRows rows cur
    pure (text :: texts, cur)

theorem length_pad {s : Line} (h : s.length ≤ 2) : (pad 2 s).length = 2 := by
  unfold pad
  split
  · rw [List.length_append]
    have hzero : (ascii "0").length = 1 := rfl
    omega
  · split
    · rw [List.length_append]
      have hzeros : (ascii "00").length = 2 := rfl
      omega
    · omega

/-- The parts of an IMSI stay within their row. -/
theorem nextImsis_eq (n : Nat) (text : Line) (cur : Option Line) (h : text.length + 2 * n ≤ 16) :
    fillRow text (List.replicate n .imsi) cur = (fun r => (text ++ r.1, r.2)) <$> nextImsis cur n := by
  induction n generalizing text cur with
  | zero => simp [fillRow, nextImsis]
  | succ n ih =>
    rw [List.replicate_succ, fillRow, readPiece, nextImsis]
    simp only [bind_assoc, map_bind]
    refine bind_congr fun field => ?_
    by_cases hlong : 2 < field.1.length
    · simp only [hlong, if_true]
      rfl
    · have hpad := length_pad (not_lt.1 hlong)
      have hpart : part (text ++ pad 2 field.1) = pure (text ++ pad 2 field.1) := by
        rw [part, if_pos (by rw [List.length_append, WHITE_LIST_COLUMN]; omega)]
        rfl
      have hrest := ih (text ++ pad 2 field.1) field.2 (by rw [List.length_append]; omega)
      simp only [hlong, if_false, pure_bind, hpart, hrest, bind_pure_comp, Functor.map_map, List.append_assoc]

/-- An entry is filled as its layout says. -/
theorem nextEntry_eq (type : Int) (cur : Option Line) : nextEntry type cur = fillRows (layout type) cur := by
  unfold nextEntry layout
  split
  · have himsis := fun cur => nextImsis_eq 8 [] cur (by decide)
    simp only [fillRows, fillRow, readPiece, himsis, bind_assoc, bind_pure_comp, bind_map_left,
      List.nil_append]
    simp
  · split
    · simp [fillRows, fillRow, readPiece, nextPlmn]
    · split
      · simp [fillRows, fillRow, readPiece, nextPlmn]
      · split
        · simp [fillRows, fillRow, readPiece, nextPlmn]
        · simp [fillRows, fillRow, readPiece, nextPlmn]

theorem fillRows_append (rows rows' : List (List Piece)) (cur : Option Line) :
    fillRows (rows ++ rows') cur =
      fillRows rows cur >>= fun r => fillRows rows' r.2 >>= fun r' => pure (r.1 ++ r'.1, r'.2) := by
  induction rows generalizing cur with
  | nil => simp [fillRows]
  | cons row rows ih => simp [fillRows, ih]

theorem nextEntries_eq (type : Int) (cur : Option Line) (n : Nat) :
    nextEntries type cur n = Prod.fst <$> fillRows (List.replicate n (layout type)).flatten cur := by
  induction n generalizing cur with
  | zero => simp [nextEntries, fillRows]
  | succ n ih =>
    rw [nextEntries, List.replicate_succ, List.flatten_cons, fillRows_append]
    simp [nextEntry_eq, ih]

/-! ## The rows with their bounds -/

theorem two_lt_length_pad (s : Line) : 2 < (pad 2 s).length ↔ 2 < s.length := by
  by_cases h : s.length ≤ 2
  · rw [length_pad h]
    omega
  · have hpad : pad 2 s = s := by
      rw [pad, if_neg (by omega), if_neg (by omega)]
    rw [hpad]

theorem readPiece_eq (piece : Piece) (cur : Option Line) :
    readPiece cur piece =
      match piece.read cur with
      | none => .error .missing
      | some (text, cur) => if piece = .imsi ∧ 2 < text.length then .error .overflow else .ok (text, cur) := by
  cases piece with
  | field =>
    cases h : (AtTok.at_tok_nextstr cur).value <;> simp [readPiece, nextField, Piece.read, h]
  | imsi =>
    cases h : (AtTok.at_tok_nextstr cur).value with
    | none => simp [readPiece, nextField, Piece.read, h, bind, Except.bind]
    | some s => simp [readPiece, nextField, Piece.read, h, bind, Except.bind, pure, Except.pure, two_lt_length_pad]
  | plmn =>
    cases hmcc : (AtTok.at_tok_nextstr cur).value with
    | none => simp [readPiece, nextField, Piece.read, hmcc, bind, Except.bind]
    | some mcc =>
      cases hmnc : (AtTok.at_tok_nextstr (AtTok.at_tok_nextstr cur).p_cur).value with
      | none => simp [readPiece, nextField, Piece.read, hmcc, hmnc, bind, Except.bind]
      | some mnc =>
        cases hdigit : (AtTok.at_tok_nextint (AtTok.at_tok_nextstr (AtTok.at_tok_nextstr cur).p_cur).p_cur).value with
        | none => simp [readPiece, nextField, nextDigit, Piece.read, hmcc, hmnc, hdigit, bind, Except.bind]
        | some n =>
          simp [readPiece, nextField, nextDigit, Piece.read, hmcc, hmnc, hdigit, bind, Except.bind, pure, Except.pure]

theorem fillRow_eq (row : List Piece) (text : Line) (cur : Option Line) (h : text.length < WHITE_LIST_COLUMN) :
    fillRow text row cur =
      if (text ++ rowText (rowRead row cur).1).length < WHITE_LIST_COLUMN ∧
          ∀ p ∈ (rowRead row cur).1, p.1 = .imsi → p.2.length ≤ 2 then
        (rowRead row cur).2.elim (.error .missing) fun rest => .ok (text ++ rowText (rowRead row cur).1, rest)
      else .error .overflow := by
  induction row generalizing text cur with
  | nil => simp [fillRow, rowRead, rowText, h, pure, Except.pure]
  | cons piece row ih =>
    rw [fillRow, readPiece_eq]
    cases hread : piece.read cur with
    | none => simp [rowRead, hread, rowText, h, bind, Except.bind]
    | some r =>
      obtain ⟨s, rest⟩ := r
      have hrow : rowRead (piece :: row) cur = ((piece, s) :: (rowRead row rest).1, (rowRead row rest).2) := by
        rw [rowRead, hread]
      have htext : rowText ((piece, s) :: (rowRead row rest).1) = s ++ rowText (rowRead row rest).1 := rfl
      rw [hrow]
      simp only [htext, List.forall_mem_cons]
      by_cases hlong : piece = .imsi ∧ 2 < s.length
      · rw [if_pos hlong, if_neg]
        · rfl
        · rintro ⟨-, himsi, -⟩
          exact absurd (himsi hlong.1) (not_le.2 hlong.2)
      · have himsi : piece = .imsi → s.length ≤ 2 := fun h => not_lt.1 fun hlt => hlong ⟨h, hlt⟩
        rw [if_neg hlong]
        by_cases hfits : (text ++ s).length < WHITE_LIST_COLUMN
        · have hrest := ih (text ++ s) rest hfits
          simp only [List.append_assoc] at hrest
          simpa only [part, if_pos hfits, bind, Except.bind, iff_true_intro himsi, true_and] using hrest
        · rw [if_neg]
          · simp only [part, if_neg hfits, bind, Except.bind]
          · rintro ⟨hlen, -⟩
            rw [← List.append_assoc, List.length_append] at hlen
            omega

theorem fst_row_behind (text : Line) (m : Except WhiteListError (List Line × Option Line)) :
    Prod.fst <$> (m >>= fun r => pure (text :: r.1, r.2)) = (text :: ·) <$> Prod.fst <$> m := by
  cases m
  · rfl
  · rfl

/-- **The rows are filled as they are read**, unless one does not fit. -/
theorem fillRows_eq (rows : List (List Piece)) (cur : Option Line) :
    Prod.fst <$> fillRows rows cur =
      if ∀ row ∈ (rowsRead rows cur).1, RowFits row then
        if (rowsRead rows cur).2 then .ok ((rowsRead rows cur).1.map rowText) else .error .missing
      else .error .overflow := by
  induction rows generalizing cur with
  | nil => rfl
  | cons row rows ih =>
    have hrow := fillRow_eq row [] cur (by decide)
    simp only [List.nil_append] at hrow
    rw [fillRows, hrow]
    cases hread : (rowRead row cur).2 with
    | none =>
      have hrows : rowsRead (row :: rows) cur = ([(rowRead row cur).1], false) := by rw [rowsRead, hread]
      rw [hrows]
      simp only [List.mem_singleton, forall_eq, RowFits]
      split
      · rfl
      · rfl
    | some rest =>
      have hrows : rowsRead (row :: rows) cur =
          ((rowRead row cur).1 :: (rowsRead rows rest).1, (rowsRead rows rest).2) := by rw [rowsRead, hread]
      rw [hrows]
      simp only [List.forall_mem_cons]
      by_cases hfits : RowFits (rowRead row cur).1
      · rw [if_pos (⟨hfits.1, hfits.2⟩ : _ ∧ _), Option.elim_some]
        refine (fst_row_behind _ (fillRows rows rest)).trans ?_
        rw [ih]
        by_cases hrest : ∀ row ∈ (rowsRead rows rest).1, RowFits row
        · have hboth : RowFits (rowRead row cur).1 ∧ ∀ row ∈ (rowsRead rows rest).1, RowFits row := ⟨hfits, hrest⟩
          rw [if_pos hrest, if_pos hboth]
          cases (rowsRead rows rest).2 <;> rfl
        · have hnone : ¬ (RowFits (rowRead row cur).1 ∧ ∀ row ∈ (rowsRead rows rest).1, RowFits row) :=
            fun h => hrest h.2
          rw [if_neg hrest, if_neg hnone]
          rfl
      · have hnone : ¬ (RowFits (rowRead row cur).1 ∧ ∀ row ∈ (rowsRead rows rest).1, RowFits row) :=
          fun h => hfits h.1
        rw [if_neg hnone]
        have hlong : ¬ ((rowText (rowRead row cur).1).length < WHITE_LIST_COLUMN ∧
            ∀ p ∈ (rowRead row cur).1, p.1 = .imsi → p.2.length ≤ 2) := hfits
        rw [if_neg hlong]
        rfl

/-! ## The rows are joined -/

/-- The rows behind the first one are all written exactly if none is empty and the last one leaves a
place for the NUL. -/
theorem cat_behind_iff (whitelistLen totalLen : Int) (parts : List Line) :
    catSimLockWhiteListString whitelistLen false totalLen parts = .ok (parts.flatMap fun part => 44 :: part) ↔
      (∀ part ∈ parts, part ≠ []) ∧
        (parts ≠ [] → totalLen + (parts.flatMap fun part => 44 :: part).length < whitelistLen) := by
  have hcomma (l : Line) : (ascii "," ++ l : Line) = 44 :: l := rfl
  induction parts generalizing totalLen with
  | nil => simp [catSimLockWhiteListString]
  | cons part parts ih =>
    have hlen : (((part :: parts).flatMap fun part => 44 :: part).length : Int) =
        part.length + 1 + (parts.flatMap fun part => 44 :: part).length := by
      simp only [List.flatMap_cons, List.length_append, List.length_cons]
      omega
    rw [catSimLockWhiteListString]
    by_cases hstop : part = [] ∨ whitelistLen < totalLen + part.length
    · simp only [hstop, if_true]
      refine iff_of_false (by simp) ?_
      rintro ⟨hne, hfits⟩
      have hlt := hfits (List.cons_ne_nil _ _)
      rcases hstop with rfl | hlong
      · exact hne [] List.mem_cons_self rfl
      · omega
    · obtain ⟨hpart, hshort⟩ := not_or.1 hstop
      by_cases hover : whitelistLen ≤ totalLen + part.length + 1
      · simp only [hstop, if_false, Bool.false_eq_true, hover, if_true]
        refine iff_of_false (by simp) ?_
        rintro ⟨-, hfits⟩
        have hlt := hfits (List.cons_ne_nil _ _)
        omega
      · have hrest := ih (totalLen + part.length + 1)
        have hmap : (catSimLockWhiteListString whitelistLen false (totalLen + part.length + 1) parts).map
            (ascii "," ++ part ++ ·) = .ok ((part :: parts).flatMap fun part => 44 :: part) ↔
            catSimLockWhiteListString whitelistLen false (totalLen + part.length + 1) parts =
              .ok (parts.flatMap fun part => 44 :: part) := by
          cases catSimLockWhiteListString whitelistLen false (totalLen + part.length + 1) parts with
          | error e => simp [Except.map]
          | ok text => simp [Except.map, hcomma]
        simp only [hstop, if_false, Bool.false_eq_true, hover]
        refine (hmap.trans hrest).trans ?_
        simp only [List.forall_mem_cons, hpart, not_false_eq_true, ne_eq, true_and]
        refine and_congr_right fun _ => ?_
        constructor
        · intro h _
          by_cases hnil : parts = []
          · subst hnil
            simp at hlen ⊢
            omega
          · have hlt := h hnil
            omega
        · intro h _
          have hlt := h (List.cons_ne_nil _ _)
          omega

theorem cat_ne_missing (whitelistLen : Int) (first : Bool) (totalLen : Int) (parts : List Line) :
    catSimLockWhiteListString whitelistLen first totalLen parts ≠ .error .missing := by
  induction parts generalizing first totalLen with
  | nil => simp [catSimLockWhiteListString]
  | cons part parts ih =>
    have hbehind (totalLen : Int) (text : Line) :
        (catSimLockWhiteListString whitelistLen false totalLen parts).map (text ++ ·) ≠ .error .missing := by
      have hrest := ih false totalLen
      cases h : catSimLockWhiteListString whitelistLen false totalLen parts with
      | ok rest => simp [Except.map]
      | error e =>
        rw [h] at hrest
        simpa [Except.map] using hrest
    rw [catSimLockWhiteListString]
    dsimp only
    by_cases hstop : part = [] ∨ whitelistLen < totalLen + part.length
    · rw [if_pos hstop]
      simp
    · rw [if_neg hstop]
      split_ifs
      · simp
      · exact hbehind _ _
      · simp
      · exact hbehind _ _

/-- **All rows are joined** exactly if none is empty and there is a place for the NUL. -/
theorem cat_iff {whitelistLen : Int} {part : Line} {parts : List Line} (hmore : parts ≠ []) :
    catSimLockWhiteListString whitelistLen true 0 (part :: parts) = .ok (joined (part :: parts)) ↔
      (∀ p ∈ part :: parts, p ≠ []) ∧ ((joined (part :: parts)).length : Int) < whitelistLen := by
  rw [Properties.joined_cons, catSimLockWhiteListString]
  have hbehind : (parts.flatMap fun part => 44 :: part) ≠ [] := by
    obtain ⟨p, rest, rfl⟩ := List.exists_cons_of_ne_nil hmore
    simp
  simp only [zero_add]
  by_cases hstop : part = [] ∨ whitelistLen < part.length
  · simp only [hstop, if_true]
    refine iff_of_false (fun h => ?_) ?_
    · have hnil := Except.ok.inj h
      exact hbehind (List.append_eq_nil_iff.1 hnil.symm).2
    · rintro ⟨hne, hlt⟩
      rw [List.length_append] at hlt
      rcases hstop with rfl | hlong
      · exact hne [] List.mem_cons_self rfl
      · omega
  · obtain ⟨hpart, hshort⟩ := not_or.1 hstop
    by_cases hover : whitelistLen ≤ part.length
    · simp only [hstop, if_false, hover, if_true]
      refine iff_of_false (by simp) ?_
      rintro ⟨-, hlt⟩
      rw [List.length_append] at hlt
      omega
    · have hmap : (catSimLockWhiteListString whitelistLen false part.length parts).map (part ++ ·) =
          .ok (part ++ parts.flatMap fun part => 44 :: part) ↔
          catSimLockWhiteListString whitelistLen false part.length parts =
            .ok (parts.flatMap fun part => 44 :: part) := by
        cases catSimLockWhiteListString whitelistLen false part.length parts with
        | error e => simp [Except.map]
        | ok text => simp [Except.map]
      simp only [hstop, if_false, if_true, hover]
      rw [hmap, cat_behind_iff, List.length_append]
      simp only [List.forall_mem_cons, hpart, hmore, ne_eq, not_false_eq_true, true_and, forall_true_left]
      refine and_congr_right fun _ => ?_
      omega

/-! ## The list -/

/-- The rows of all locks. -/
def listRows (type_ret numlocks_ret : Line) (cur : Option Line) : List (List (Piece × Line)) × Bool :=
  rowsRead (List.replicate (AtTok.atoi numlocks_ret).toNat (layout (AtTok.atoi type_ret))).flatten cur

/-- The type, the number of locks and the fields of all locks in order, if none is missing. -/
def listFields (type_ret numlocks_ret : Line) (cur : Option Line) : Option (List Line) :=
  if 0 ≤ AtTok.atoi numlocks_ret ∧ 1 ≤ AtTok.atoi type_ret ∧ AtTok.atoi type_ret ≤ 5 ∧
      (listRows type_ret numlocks_ret cur).2 then
    some (type_ret :: numlocks_ret :: (listRows type_ret numlocks_ret cur).1.map rowText)
  else none

/-- Whatever is read of the list fits into its row, and a whole list has no empty field and fits into
its buffer. -/
def ListFits (stackFits : Int → Bool) (type_ret numlocks_ret : Line) (cur : Option Line) : Prop :=
  0 ≤ AtTok.atoi numlocks_ret →
    stackFits (AtTok.atoi numlocks_ret) = true ∧ type_ret.length < WHITE_LIST_COLUMN ∧
      numlocks_ret.length < WHITE_LIST_COLUMN ∧
      (1 ≤ AtTok.atoi type_ret → AtTok.atoi type_ret ≤ 5 →
        (∀ row ∈ (listRows type_ret numlocks_ret cur).1, RowFits row) ∧
        ∀ fields, listFields type_ret numlocks_ret cur = some fields → (∀ field ∈ fields, field ≠ []) ∧
          ((joined fields).length : Int) <
            AtTok.atoi numlocks_ret * WHITE_LIST_PS_PART_LENGTH + WHITE_LIST_HEAD_LENGTH)

theorem whiteListParts_known {stackFits : Int → Bool} {type_ret numlocks_ret : Line} {cur : Option Line}
    (hnumlocks : 0 ≤ AtTok.atoi numlocks_ret) (hstack : stackFits (AtTok.atoi numlocks_ret) = true)
    (htype : type_ret.length < WHITE_LIST_COLUMN) (hlocks : numlocks_ret.length < WHITE_LIST_COLUMN) :
    whiteListParts stackFits type_ret numlocks_ret cur =
      if 1 ≤ AtTok.atoi type_ret ∧ AtTok.atoi type_ret ≤ 5 then
        ([type_ret, numlocks_ret] ++ ·) <$>
          nextEntries (AtTok.atoi type_ret) cur (AtTok.atoi numlocks_ret).toNat
      else .error .missing := by
  have hnonneg : ¬ AtTok.atoi numlocks_ret < 0 := not_lt.2 hnumlocks
  have hparts (text : Line) (h : text.length < WHITE_LIST_COLUMN) : part text = pure text := by
    rw [part, if_pos h]
    rfl
  simp only [whiteListParts, hnonneg, if_false, hstack, Bool.not_true, Bool.false_eq_true, hparts, htype, hlocks,
    pure_bind, bind_pure_comp]

theorem whiteListParts_overflow {stackFits : Int → Bool} {type_ret numlocks_ret : Line} {cur : Option Line}
    (hnumlocks : 0 ≤ AtTok.atoi numlocks_ret)
    (hhead : ¬ (stackFits (AtTok.atoi numlocks_ret) = true ∧ type_ret.length < WHITE_LIST_COLUMN ∧
      numlocks_ret.length < WHITE_LIST_COLUMN)) :
    whiteListParts stackFits type_ret numlocks_ret cur = .error .overflow := by
  simp only [whiteListParts, if_neg (not_lt.2 hnumlocks)]
  cases hstack : stackFits (AtTok.atoi numlocks_ret) with
  | false => rfl
  | true =>
    by_cases htype : type_ret.length < WHITE_LIST_COLUMN
    · have hlocks : ¬ numlocks_ret.length < WHITE_LIST_COLUMN := fun h => hhead ⟨hstack, htype, h⟩
      simp only [part, if_pos htype, if_neg hlocks]
      rfl
    · simp only [part, if_neg htype]
      rfl

/-- The rows of the locks, behind the two of the head. -/
theorem whiteListParts_eq {stackFits : Int → Bool} {type_ret numlocks_ret : Line} {c : Option Line}
    (hnumlocks : 0 ≤ AtTok.atoi numlocks_ret) (hstack : stackFits (AtTok.atoi numlocks_ret) = true)
    (htype : type_ret.length < WHITE_LIST_COLUMN) (hlocks : numlocks_ret.length < WHITE_LIST_COLUMN)
    (hlow : 1 ≤ AtTok.atoi type_ret) (hhigh : AtTok.atoi type_ret ≤ 5) :
    whiteListParts stackFits type_ret numlocks_ret c =
      if ∀ row ∈ (listRows type_ret numlocks_ret c).1, RowFits row then
        (listFields type_ret numlocks_ret c).elim (.error .missing) .ok
      else .error .overflow := by
  have hentries : nextEntries (AtTok.atoi type_ret) c (AtTok.atoi numlocks_ret).toNat =
      if ∀ row ∈ (listRows type_ret numlocks_ret c).1, RowFits row then
        if (listRows type_ret numlocks_ret c).2 then .ok ((listRows type_ret numlocks_ret c).1.map rowText)
        else .error .missing
      else .error .overflow := by
    rw [nextEntries_eq, fillRows_eq]
    rfl
  rw [whiteListParts_known hnumlocks hstack htype hlocks, if_pos ⟨hlow, hhigh⟩, hentries]
  by_cases hrows : ∀ row ∈ (listRows type_ret numlocks_ret c).1, RowFits row
  · rw [if_pos hrows, if_pos hrows]
    cases hwhole : (listRows type_ret numlocks_ret c).2 with
    | false =>
      simp [listFields, hwhole]
    | true =>
      simp [listFields, hwhole, hnumlocks, hlow, hhigh]
  · rw [if_neg hrows, if_neg hrows]
    rfl

/-- A list is missing, or it is these fields in order. -/
def Whole (fields : Option (List Line)) (whiteList : Except WhiteListError Line) : Prop :=
  whiteList = .error .missing ∨ ∃ fs, fields = some fs ∧ whiteList = .ok (joined fs)

theorem not_whole_overflow (fields : Option (List Line)) : ¬ Whole fields (.error .overflow) := by
  rintro (h | ⟨fs, -, h⟩)
  · cases h
  · cases h

/-- A list has a head, and the fields of the first lock behind it. -/
theorem exists_of_listFields {type_ret numlocks_ret : Line} {cur : Option Line} {fields : List Line}
    (h : listFields type_ret numlocks_ret cur = some fields) :
    fields = type_ret :: numlocks_ret :: (listRows type_ret numlocks_ret cur).1.map rowText := by
  unfold listFields at h
  split at h
  · exact (Option.some.inj h).symm
  · cases h

/-- **The list is missing or whole** exactly if everything fits. -/
theorem whole_iff_listFits (stackFits : Int → Bool) (type_ret numlocks_ret : Line) (cur : Option Line) :
    Whole (listFields type_ret numlocks_ret cur) (whiteListText stackFits type_ret numlocks_ret cur) ↔
      ListFits stackFits type_ret numlocks_ret cur := by
  have hmissing (h : whiteListParts stackFits type_ret numlocks_ret cur = .error .missing) :
      Whole (listFields type_ret numlocks_ret cur) (whiteListText stackFits type_ret numlocks_ret cur) := by
    rw [whiteListText, h]
    exact .inl rfl
  have hover (h : whiteListParts stackFits type_ret numlocks_ret cur = .error .overflow) :
      ¬ Whole (listFields type_ret numlocks_ret cur) (whiteListText stackFits type_ret numlocks_ret cur) := by
    rw [whiteListText, h]
    exact not_whole_overflow _
  by_cases hnumlocks : 0 ≤ AtTok.atoi numlocks_ret
  · have hnonneg : ¬ AtTok.atoi numlocks_ret < 0 := not_lt.2 hnumlocks
    rw [ListFits, forall_prop_of_true hnumlocks]
    by_cases hhead : stackFits (AtTok.atoi numlocks_ret) = true ∧ type_ret.length < WHITE_LIST_COLUMN ∧
        numlocks_ret.length < WHITE_LIST_COLUMN
    · obtain ⟨hstack, htype, hlocks⟩ := hhead
      by_cases hknown : 1 ≤ AtTok.atoi type_ret ∧ AtTok.atoi type_ret ≤ 5
      · obtain ⟨hlow, hhigh⟩ := hknown
        have hparts := whiteListParts_eq (c := cur) hnumlocks hstack htype hlocks hlow hhigh
        simp only [hstack, htype, hlocks, hlow, hhigh, true_and, forall_true_left]
        by_cases hrows : ∀ row ∈ (listRows type_ret numlocks_ret cur).1, RowFits row
        · rw [if_pos hrows] at hparts
          cases hfields : listFields type_ret numlocks_ret cur with
          | none =>
            rw [hfields] at hparts hmissing
            refine iff_of_true (hmissing hparts) ⟨hrows, fun fields h => ?_⟩
            cases h
          | some fields =>
            rw [hfields, Option.elim_some] at hparts
            have hhead := exists_of_listFields hfields
            have htext : whiteListText stackFits type_ret numlocks_ret cur = catSimLockWhiteListString
                (AtTok.atoi numlocks_ret * WHITE_LIST_PS_PART_LENGTH + WHITE_LIST_HEAD_LENGTH) true 0 fields := by
              rw [whiteListText, hparts]
              rfl
            have hcat := @cat_iff (AtTok.atoi numlocks_ret * WHITE_LIST_PS_PART_LENGTH +
              WHITE_LIST_HEAD_LENGTH) type_ret (numlocks_ret ::
                (listRows type_ret numlocks_ret cur).1.map rowText) (List.cons_ne_nil _ _)
            rw [← hhead, ← htext] at hcat
            constructor
            · rintro (hnone | ⟨fs, hsome, hok⟩)
              · exact absurd (htext.symm.trans hnone) (cat_ne_missing _ _ _ _)
              · cases hsome
                refine ⟨hrows, fun fs hfs => ?_⟩
                cases hfs
                exact hcat.1 hok
            · intro h
              exact .inr ⟨fields, rfl, hcat.2 (h.2 fields rfl)⟩
        · rw [if_neg hrows] at hparts
          refine iff_of_false (hover hparts) fun h => hrows h.1
      · refine iff_of_true (hmissing ?_) ⟨hstack, htype, hlocks, fun hlow hhigh => absurd ⟨hlow, hhigh⟩ hknown⟩
        rw [whiteListParts_known hnumlocks hstack htype hlocks, if_neg hknown]
    · refine iff_of_false (hover ?_) fun h => hhead ⟨h.1, h.2.1, h.2.2.1⟩
      exact whiteListParts_overflow hnumlocks hhead
  · refine iff_of_true (hmissing ?_) fun h => absurd h hnumlocks
    rw [whiteListParts, if_pos (not_le.1 hnumlocks)]

/-! ## The request -/

/-- The type and the number of locks of an answer line and what is behind them. -/
def listHead (line : Line) : Option (Line × Line × Option Line) :=
  (AtTok.at_tok_start (some line)).bind fun cur =>
    let type := AtTok.at_tok_nextstr (some cur)
    let numlocks := AtTok.at_tok_nextstr type.p_cur
    type.value.bind fun type_ret => numlocks.value.map fun numlocks_ret => (type_ret, numlocks_ret, numlocks.p_cur)

/-- The fields of the list in an answer. -/
def answeredFields (a : Answer) : Option (List Line) :=
  (lineOf (ascii "+SPSMNW:") a).bind fun line => (listHead line).bind fun r => listFields r.1 r.2.1 r.2.2

/-- The last event is a failure, or the report of all fields in order. -/
def CompleteOrRefused (t : RIL_Token) (fields : Option (List Line)) (log : List Event) : Prop :=
  ∃ e, log.getLast? = some e ∧
    (failure t e ∨ ∃ fs, fields = some fs ∧ e = .RIL_onRequestComplete t .SUCCESS (.string (joined fs)))

/-- What the request does about a list. -/
def reported (t : RIL_Token) : Except WhiteListError Line → List Event
  | .ok whiteList => [.RIL_onRequestComplete t .SUCCESS (.string whiteList)]
  | .error .missing => [.RIL_onRequestComplete t .GENERIC_FAILURE .NULL]
  | .error .overflow => []

variable {w : World Slot} {t : RIL_Token}

theorem completeOrRefused_reported {fields : Option (List Line)} {log : List Event} {cmd : Line}
    {whiteList : Except WhiteListError Line} (h : log = w.log ++ .at_send_command cmd :: reported t whiteList) :
    CompleteOrRefused t fields log ↔ Whole fields whiteList := by
  subst h
  rcases whiteList with (_ | _) | text
  · refine iff_of_true ⟨.RIL_onRequestComplete t .GENERIC_FAILURE .NULL, by simp [reported], .inl ?_⟩ (.inl rfl)
    exact ⟨.GENERIC_FAILURE, by decide, rfl⟩
  · refine iff_of_false ?_ (not_whole_overflow _)
    rintro ⟨e, hlast, ⟨err, -, rfl⟩ | ⟨fs, -, rfl⟩⟩
    · simp [reported] at hlast
    · simp [reported] at hlast
  · simp [CompleteOrRefused, Whole, reported, failure]

theorem log_requestGetSimLockWhiteList (stackFits : Int → Bool) {data : List Int} (hdata : data.length = 1)
    (hallocates : w.allocates 0 = true) :
    (after (requestGetSimLockWhiteList stackFits data t : Handler Slot Empty Unit) w).log =
      w.log ++ .at_send_command (ascii "AT+SPSMNW=" ++ decimal (data.getD 0 0) ++ ascii ",\"12345678\",1") ::
        reported t (((lineOf (ascii "+SPSMNW:") (w.answers 0)).bind listHead).elim (.error .missing)
          fun r => whiteListText stackFits r.1 r.2.1 r.2.2) := by
  apply log_after_eq
  simp [requestGetSimLockWhiteList, failWith, hdata, hallocates]
  refine ⟨fun ha => ?_, fun f ls ha => ⟨fun hf => ?_, fun hf hnil => ?_, fun line hf hls => ?_⟩⟩
  · simp [ha, lineOf, reported]
  · simp [ha, lineOf, hf, reported]
  · simp [ha, lineOf, hf, hnil, reported]
  · have hline : lineOf (ascii "+SPSMNW:") (w.answers 0) = some line := lineOf_eq_some.2 ⟨f, ls, ha, hf, hls⟩
    rw [hline, Option.bind_some]
    refine ⟨fun cur hcur => ⟨fun type htype => ⟨fun num hnum => ⟨fun text htext => ?_, fun hmissing => ?_,
      fun hover => ?_⟩, fun hnum => ?_⟩, fun htype => ?_⟩, fun hcur => ?_⟩
    · simp [listHead, hcur, htype, hnum, htext, reported]
    · simp [listHead, hcur, htype, hnum, hmissing, reported]
    · simp [listHead, hcur, htype, hnum, hover, reported]
    · simp [listHead, hcur, htype, hnum, reported]
    · simp [listHead, hcur, htype, reported]
    · simp [listHead, hcur, reported]

/-- **The list is complete or refused** exactly if whatever is read of it fits. -/
theorem completeOrRefused_iff_listFits (stackFits : Int → Bool) (data : List Int) (w : World Slot) (t : RIL_Token) :
    CompleteOrRefused t (answeredFields (w.answers 0))
        (after (requestGetSimLockWhiteList stackFits data t : Handler Slot Empty Unit) w).log ↔
      (data.length = 1 → w.allocates 0 = true → ∀ type_ret numlocks_ret cur,
        (lineOf (ascii "+SPSMNW:") (w.answers 0)).bind listHead = some (type_ret, numlocks_ret, cur) →
          ListFits stackFits type_ret numlocks_ret cur) := by
  by_cases hsent : data.length = 1 ∧ w.allocates 0 = true
  · obtain ⟨hdata, hallocates⟩ := hsent
    rw [completeOrRefused_reported (log_requestGetSimLockWhiteList stackFits hdata hallocates)]
    simp only [hdata, hallocates, forall_true_left]
    have hfields : answeredFields (w.answers 0) = ((lineOf (ascii "+SPSMNW:") (w.answers 0)).bind listHead).bind
        fun r => listFields r.1 r.2.1 r.2.2 := (Option.bind_assoc _ _ _).symm
    cases hhead : (lineOf (ascii "+SPSMNW:") (w.answers 0)).bind listHead with
    | none =>
      refine iff_of_true (.inl rfl) fun type_ret numlocks_ret cur h => ?_
      cases h
    | some r =>
      obtain ⟨type_ret, numlocks_ret, cur⟩ := r
      rw [hfields, hhead]
      rw [Option.bind_some, Option.elim_some, whole_iff_listFits]
      refine ⟨fun h _ _ _ heq => ?_, fun h => h _ _ _ rfl⟩
      cases heq
      exact h
  · refine iff_of_true ?_ fun hdata hallocates => absurd ⟨hdata, hallocates⟩ hsent
    have hlog : (after (requestGetSimLockWhiteList stackFits data t : Handler Slot Empty Unit) w).log =
        w.log ++ [.RIL_onRequestComplete t .GENERIC_FAILURE .NULL] := by
      apply log_after_eq
      simp [requestGetSimLockWhiteList, failWith]
      exact fun hdata hallocates => absurd ⟨hdata, hallocates⟩ hsent
    rw [hlog]
    exact ⟨_, List.getLast?_concat, .inl ⟨.GENERIC_FAILURE, by decide, rfl⟩⟩

/-- The first of two locks has an empty GID: it is the last that is reported. -/
theorem completeOrRefused_fails_gid1 :
    ¬ CompleteOrRefused (some 1) (answeredFields (.response (ascii "OK") [ascii "+SPSMNW: 4,2,460,00,2,,460,01,2,1F"]))
      (after (requestGetSimLockWhiteList (fun _ => true) [4] (some 1) : Handler Slot Empty Unit)
        (answersWith (ascii "+SPSMNW: 4,2,460,00,2,,460,01,2,1F"))).log := by
  have hfields : answeredFields (.response (ascii "OK") [ascii "+SPSMNW: 4,2,460,00,2,,460,01,2,1F"]) =
      some [ascii "4", ascii "2", ascii "46000", [], ascii "46001", ascii "1F"] := by decide
  have hreport : (after (requestGetSimLockWhiteList (fun _ => true) [4] (some 1) : Handler Slot Empty Unit)
      (answersWith (ascii "+SPSMNW: 4,2,460,00,2,,460,01,2,1F"))).log.getLast? =
      some (.RIL_onRequestComplete (some 1) .SUCCESS (.string (ascii "4,2,46000"))) := by decide
  rw [hfields]
  rintro ⟨e, hlast, he⟩
  cases hreport.symm.trans hlast
  rcases he with ⟨err, hne, heq⟩ | ⟨fs, hfs, heq⟩
  · cases heq
  · cases hfs
    cases heq

end UniRil.Sim
