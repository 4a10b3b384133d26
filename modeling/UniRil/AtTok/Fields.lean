import UniRil.Properties

/-!
# The fields of a response line are read back

A field is a token without commas or a string in quotes. Blanks may stand before it.
-/

namespace UniRil.AtTok

open Properties (joined)

inductive Token
  | unquoted (text : Line) (plain : Plain text)
  | quoted (text : Line) (unquotable : (34 : Byte) ∉ text)

structure Field where
  blanks : Line
  isBlank : ∀ c ∈ blanks, isspace c = true
  token : Token

def Token.value : Token → Line
  | .unquoted text _ => text
  | .quoted text _ => text

def Token.text : Token → Line
  | .unquoted text _ => text
  | .quoted text _ => 34 :: (text ++ [34])

def Field.value (f : Field) : Line := f.token.value

def Field.text (f : Field) : Line := f.blanks ++ f.token.text

def fieldsText (fields : List Field) : Line := joined (fields.map Field.text)

/-- So many calls of `at_tok_nextstr`: what they give, and the position behind them. -/
def nextstrs : Nat → Option Line → List (Option Line) × Option Line
  | 0, p_cur => ([], p_cur)
  | count + 1, p_cur =>
    let (ret, cur) := nextstrs count (at_tok_nextstr p_cur).p_cur
    ((at_tok_nextstr p_cur).value :: ret, cur)

/-! ## One field -/

theorem at_tok_nextstr_blanks {blanks : Line} (h : ∀ c ∈ blanks, isspace c = true) (s : Line) :
    at_tok_nextstr (some (blanks ++ s)) = at_tok_nextstr (some s) := by
  unfold at_tok_nextstr nextTok skipWhiteSpace
  rw [Option.map_some, Option.map_some, List.dropWhile_append_of_pos h]

/-- The position behind a field: at the end it is NULL behind a token, and not behind a quote. -/
def Token.behind : Token → List Field → Option Line
  | .unquoted _ _, [] => none
  | .quoted _ _, [] => some []
  | _, f :: fields => some (fieldsText (f :: fields))

theorem Token.behind_cons (token : Token) (f : Field) (fields : List Field) :
    token.behind (f :: fields) = some (fieldsText (f :: fields)) := by
  cases token with
  | unquoted text plain => rfl
  | quoted text unquotable => rfl

theorem fieldsText_cons (f f' : Field) (fields : List Field) :
    fieldsText (f :: f' :: fields) = f.blanks ++ (f.token.text ++ 44 :: fieldsText (f' :: fields)) := by
  unfold fieldsText
  rw [List.map_cons, List.map_cons, joined, Field.text, List.append_assoc]

theorem fieldsText_single (f : Field) : fieldsText [f] = f.blanks ++ f.token.text := rfl

/-- One call reads one field. -/
theorem at_tok_nextstr_field (f : Field) (fields : List Field) :
    at_tok_nextstr (some (fieldsText (f :: fields))) =
      { ok := true, p_out := some f.value, p_cur := f.token.behind fields } := by
  obtain ⟨blanks, hblanks, token⟩ := f
  cases fields with
  | nil =>
    rw [fieldsText_single, at_tok_nextstr_blanks hblanks]
    cases token with
    | unquoted text plain =>
      unfold at_tok_nextstr Token.text
      simp only [nextTok_end plain]
      rfl
    | quoted text unquotable =>
      exact at_tok_nextstr_quoted unquotable
  | cons f' fields =>
    rw [fieldsText_cons, at_tok_nextstr_blanks hblanks]
    cases token with
    | unquoted text plain =>
      unfold at_tok_nextstr Token.text
      simp only [nextTok_comma plain]
      rfl
    | quoted text unquotable =>
      have hquoted := @at_tok_nextstr_quoted text (44 :: fieldsText (f' :: fields)) unquotable
      rw [Token.text, List.cons_append, List.append_assoc, List.singleton_append, hquoted]
      rfl

/-! ## All fields -/

theorem nextstrs_succ (count : Nat) (f : Field) (fields : List Field) :
    nextstrs (count + 1) (some (fieldsText (f :: fields))) =
      (some f.value :: (nextstrs count (f.token.behind fields)).1, (nextstrs count (f.token.behind fields)).2) := by
  rw [nextstrs, at_tok_nextstr_field]
  rfl

/-- What is read does not depend on where the position is left at the end of the line. -/
theorem nextstrs_fields (fields : List Field) :
    (nextstrs fields.length (some (fieldsText fields))).1 = fields.map fun f => some f.value := by
  induction fields with
  | nil => rfl
  | cons f fields ih =>
    rw [List.length_cons, nextstrs_succ, List.map_cons]
    cases fields with
    | nil => rfl
    | cons f' fields => rw [Token.behind_cons, ih]

theorem hasmore_some (s : Line) : at_tok_hasmore (some s) = true ↔ s ≠ [] := by
  unfold at_tok_hasmore
  cases s with
  | nil => simp
  | cons c s => simp

/-- Behind so many fields, more is found exactly when the others have a text. -/
theorem hasmore_nextstrs {count : Nat} {fields : List Field} (h : count ≤ fields.length) :
    at_tok_hasmore (nextstrs count (some (fieldsText fields))).2 = true ↔ fieldsText (fields.drop count) ≠ [] := by
  induction count generalizing fields with
  | zero => exact hasmore_some _
  | succ count ih =>
    cases fields with
    | nil => exact absurd h (Nat.not_succ_le_zero count)
    | cons f fields =>
      rw [nextstrs_succ, List.drop_succ_cons]
      cases fields with
      | nil =>
        obtain rfl : count = 0 := by simpa using h
        obtain ⟨blanks, hblanks, token⟩ := f
        cases token with
        | unquoted text plain => simp [nextstrs, Token.behind, at_tok_hasmore, fieldsText, joined]
        | quoted text unquotable => simp [nextstrs, Token.behind, at_tok_hasmore, fieldsText, joined]
      | cons f' fields =>
        rw [Token.behind_cons]
        exact ih (Nat.le_of_succ_le_succ h)

/-- **The fields of a line are read in their order**, and more of them are announced exactly while a
text is left. -/
theorem fields_read {pre : Line} (h : (58 : Byte) ∉ pre) (fields : List Field) :
    ∃ cur, at_tok_start (some (pre ++ 58 :: fieldsText fields)) = some cur ∧
      (nextstrs fields.length (some cur)).1 = fields.map (fun f => some f.value) ∧
      ∀ count ≤ fields.length,
        at_tok_hasmore (nextstrs count (some cur)).2 = true ↔ fieldsText (fields.drop count) ≠ [] := by
  refine ⟨fieldsText fields, at_tok_flag_start_append h _, nextstrs_fields fields, ?_⟩
  intro count hcount
  exact hasmore_nextstrs hcount

theorem plain_one : Plain [49] := ⟨by simp [isspace], by decide⟩

/-- `1, ","`: a token, and a string behind a blank. -/
def twoFields : List Field :=
  [⟨[], List.forall_mem_nil _, .unquoted [49] plain_one⟩, ⟨[32], by simp [isspace], .quoted [44] (by decide)⟩]

theorem fields_read_two : ∃ cur, at_tok_start (some ([43] ++ 58 :: fieldsText twoFields)) = some cur ∧
    (nextstrs twoFields.length (some cur)).1 = twoFields.map (fun f => some f.value) ∧
    ∀ count ≤ twoFields.length, at_tok_hasmore (nextstrs count (some cur)).2 = true ↔
      fieldsText (twoFields.drop count) ≠ [] :=
  fields_read (by decide) twoFields

end UniRil.AtTok
