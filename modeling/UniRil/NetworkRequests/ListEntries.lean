import UniRil.NetworkRequests.Fields
import UniRil.NetworkRequests.NetworkList

/-!
# When the network list is made

Whatever the line of the answer to AT+COPS=? says, its loop comes back exactly if each entry has a status of the table,
its texts end before the buffers do, and the line does not end inside of an entry.
-/

namespace UniRil.NetworkRequests

open Flows Handlers
open AtTok (Line)
open Sim (lineOf)

variable (updateNetworkList : UpdateNetworkList) (count k : Nat)

/-! ## Entries -/

/-- How many fields of an entry are taken. -/
def fieldsTaken (cur : Option Line) : Nat :=
  if number 0 cur = none then 1
  else if field 1 cur = none then 2
  else if field 2 cur = none then 3
  else if field 3 cur = none then 4
  else 5

/-- Every field of the entry is there. -/
def TakenWhole (cur : Option Line) : Prop :=
  number 0 cur ≠ none ∧ field 1 cur ≠ none ∧ field 2 cur ≠ none ∧ field 3 cur ≠ none ∧ number 4 cur ≠ none

instance (cur : Option Line) : Decidable (TakenWhole cur) := inferInstanceAs (Decidable (_ ∧ _ ∧ _ ∧ _ ∧ _))

/-- What is printed behind the place of the entry. -/
def numericPrinted (numeric : Line) (act : Int) : Line := snprintf (32 * count) (numeric ++ ascii " " ++ decimal act)

/-- The name that replaces the long one ends before its buffer does. -/
def NameFits (name : Option { name : Line // NUL ∉ name }) : Prop :=
  ∀ n, name = some n → 64 * k + n.1.length < 64 * count

/-- The text that is printed ends before its buffer does, and so does the name. -/
def TextsFit (longName shortName numeric : Line) (act : Int) (status : Line) : Prop :=
  32 * k + (numericPrinted count numeric act).length < 32 * count ∧
    NameFits count k (updateNetworkList [some longName, some shortName,
      some ((numericPrinted count numeric act).takeWhile (· ≠ NUL)), some status])

/-- The status is in the table, and where all fields are there their texts fit. -/
def EntryFits (cur : Option Line) : Prop :=
  ∀ stat, number 0 cur = some stat → ∃ status, statText stat = some status ∧
    ∀ longName shortName numeric act, field 1 cur = some longName → field 2 cur = some shortName →
      field 3 cur = some numeric → number 4 cur = some act →
        TextsFit updateNetworkList count k longName shortName numeric act status

/-- The entries of a line, at most `n`. The line must not end before the next parenthesis is looked for. -/
def EntriesFit : Nat → Nat → Option Line → Prop
  | 0, _, line => line ≠ none
  | n + 1, k, line =>
    line ≠ none ∧ ∀ cur, AtTok.at_tok_flag_start line 40 = some cur →
      EntryFits updateNetworkList count k (some cur) ∧
        EntriesFit n (if TakenWhole (some cur) then k + 1 else k) (behind (fieldsTaken (some cur)) (some cur))

/-- The list is refused, or its entries fit. -/
def ListEnds (line : Line) : Prop :=
  countGroups false 0 line ≤ 2 ∨ ascii ",,,," <:+: line ∨
    EntriesFit updateNetworkList (countGroups false 0 line - 2) (countGroups false 0 line - 2) 0 (some line)

/-! ## One entry -/

section

variable {updateNetworkList count k} {l : NetList} {E : Exit (Option Line) → NetList → Prop}

theorem p_cur_nextint (line : Option Line) : (AtTok.at_tok_nextint line).p_cur = behind 1 line := by
  rw [at_tok_nextint_eq]

theorem wp_readInt {Q : Int × Option Line → NetList → Prop} (line : Option Line) :
    wp (readInt line) Q E l ↔
      (∀ n, number 0 line = some n → Q (n, behind 1 line) l) ∧
      (number 0 line = none → E (.goto (behind 1 line)) l) := by
  simp only [readInt, value_nextint, wp_bind, wp_demand, wp_pure, p_cur_nextint]

theorem p_cur_nextstr (line : Option Line) : (AtTok.at_tok_nextstr line).p_cur = behind 1 line := by
  cases h : AtTok.nextTok line with
  | mk ret rest => cases ret <;> simp [AtTok.at_tok_nextstr, behind, h]

theorem value_nextstr (line : Option Line) : (AtTok.at_tok_nextstr line).value = field 0 line := by
  cases h : AtTok.nextTok line with
  | mk ret rest => cases ret <;> simp [AtTok.at_tok_nextstr, AtTok.Tok.value, field, h]

theorem wp_readStr {Q : Line × Option Line → NetList → Prop} (line : Option Line) :
    wp (readStr line) Q E l ↔
      (∀ s, field 0 line = some s → Q (s, behind 1 line) l) ∧ (field 0 line = none → E (.goto (behind 1 line)) l) := by
  simp only [readStr, value_nextstr, wp_bind, wp_demand, wp_pure, p_cur_nextstr]

/-- A row for each place, and the buffers with room for all of them. -/
structure NetList.Sized (l : NetList) (count : Nat) : Prop where
  responses : l.responses.length = count
  tmp : l.tmp.length = 32 * count
  updatedNetList : l.updatedNetList.length = 64 * count

theorem sized_alloca (stale : Stale) : (NetList.alloca stale count).Sized count :=
  ⟨by simp [NetList.alloca], by simp [NetList.alloca], by simp [NetList.alloca]⟩

@[simp] theorem sized_modify (f : Row → Row) (responses : List Row) (tmp updatedNetList : List Byte) :
    NetList.Sized ⟨responses.modify k f, tmp, updatedNetList⟩ count ↔
      NetList.Sized ⟨responses, tmp, updatedNetList⟩ count := by
  constructor
  · exact fun h => ⟨by simpa using h.responses, h.tmp, h.updatedNetList⟩
  · exact fun h => ⟨by simpa using h.responses, h.tmp, h.updatedNetList⟩

theorem wp_updateName (hl : l.Sized count) {row : Row} (hrow : l.responses[k]? = some row) :
    wp (updateName updateNetworkList k)
      (fun _ l' => l'.Sized count ∧ NameFits count k (updateNetworkList (row.cells.map l.shown)))
      (fun e _ => e = .crashes ∧ ¬ NameFits count k (updateNetworkList (row.cells.map l.shown))) l := by
  simp only [updateName, wp_bind, wp_get, hrow, Option.map_some, Option.getD_some]
  cases hname : updateNetworkList (row.cells.map l.shown) with
  | none =>
    rw [Option.elim_none, wp_pure]
    refine ⟨hl, ?_⟩
    rintro _ ⟨⟩
  | some name =>
    rw [Option.elim_some, wp_bind, wp_deref]
    constructor
    · intro updatedNetList hstore
      rw [wp_bind, wp_modify, setRow, wp_modify]
      have hroom := (Places.store_eq_some.1 hstore).1
      rw [hl.updatedNetList] at hroom
      have hsized : NetList.Sized { l with updatedNetList := updatedNetList } count :=
        ⟨hl.responses, hl.tmp, (Places.length_store hstore).trans hl.updatedNetList⟩
      refine ⟨(sized_modify ..).2 hsized, ?_⟩
      rintro _ ⟨⟩
      exact hroom
    · intro hstore
      have hfull := Places.store_eq_none.1 hstore
      rw [hl.updatedNetList] at hfull
      exact ⟨rfl, fun h => absurd (h name rfl) (by omega)⟩

/-- The end of an entry: the text and the name are put into their places. -/
theorem wp_printed {longName shortName numeric status : Line} (act : Int) (hl : l.Sized count) {row : Row}
    (hrow : l.responses[k]? = some row) (hlong : row.longName = .text (some longName))
    (hshort : row.shortName = .text (some shortName)) (hstatus : row.status = .text (some status)) :
    wp (do printNumeric count k numeric act; updateName updateNetworkList k)
      (fun _ l' => l'.Sized count ∧ TextsFit updateNetworkList count k longName shortName numeric act status)
      (fun e _ => e = .crashes ∧ ¬ TextsFit updateNetworkList count k longName shortName numeric act status) l := by
  rw [wp_bind, printNumeric, wp_bind, wp_get, wp_bind, wp_deref]
  constructor
  · intro tmp hstore
    have hroom := (Places.store_eq_some.1 hstore).1
    rw [hl.tmp] at hroom
    rw [wp_bind, wp_modify, setRow, wp_modify]
    have hsized : NetList.Sized { l with tmp := tmp } count :=
      ⟨hl.responses, (Places.length_store hstore).trans hl.tmp, hl.updatedNetList⟩
    have hprinted : ({ l with
        responses := l.responses.modify k fun row => { row with numeric := .tmp (32 * k) }
        tmp := tmp } : NetList).responses[k]? = some { row with numeric := .tmp (32 * k) } := by
      simp [hrow]
    refine wp_mono (wp_updateName ((sized_modify ..).2 hsized) hprinted) ?_ ?_
    · rintro _ l' ⟨hl', hname⟩
      simp only [Row.cells, List.map_cons, List.map_nil, NetList.shown, hlong, hshort, hstatus,
        Places.load_store_takeWhile hstore] at hname
      exact ⟨hl', hroom, hname⟩
    · rintro _ l' ⟨rfl, hname⟩
      simp only [Row.cells, List.map_cons, List.map_nil, NetList.shown, hlong, hshort, hstatus,
        Places.load_store_takeWhile hstore] at hname
      exact ⟨rfl, fun h => hname h.2⟩
  · intro hstore
    have hfull := Places.store_eq_none.1 hstore
    rw [hl.tmp] at hfull
    exact ⟨rfl, fun h => absurd h.1 (by unfold numericPrinted; omega)⟩

/-- What is left behind an entry; whether it was whole. -/
def Left (updateNetworkList : UpdateNetworkList) (count k : Nat) (cur : Option Line) (whole : Prop) (line : Option Line)
    (l : NetList) : Prop :=
  l.Sized count ∧ EntryFits updateNetworkList count k cur ∧ (TakenWhole cur ↔ whole) ∧
    line = behind (fieldsTaken cur) cur

def EntryExit (updateNetworkList : UpdateNetworkList) (count k : Nat) (cur : Option Line) :
    Exit (Option Line) → NetList → Prop
  | .goto line, l => Left updateNetworkList count k cur False line l
  | .crashes, _ => ¬ EntryFits updateNetworkList count k cur
  | .runsOn, _ => False

/-- An entry that is not whole fits if its status does. -/
theorem entryFits_of_status {cur : Option Line} {stat : Int} {status : Line} (hstat : number 0 cur = some stat)
    (hstatus : statText stat = some status) (hwhole : ¬ TakenWhole cur) : EntryFits updateNetworkList count k cur := by
  intro stat' hstat'
  cases hstat.symm.trans hstat'
  refine ⟨status, hstatus, fun longName shortName numeric act h1 h2 h3 h4 => absurd ?_ hwhole⟩
  simp [TakenWhole, hstat, h1, h2, h3, h4]

/-- What becomes of an entry, at each of its fields. -/
theorem wp_nextEntry_iff (hl : l.Sized count) (hk : k < count) (cur : Line) :
    wp (nextEntry updateNetworkList count k cur) (Left updateNetworkList count k (some cur) True)
      (EntryExit updateNetworkList count k (some cur)) l := by
  cases h0 : number 0 (some cur) with
  | none => simp [nextEntry, wp_readInt, h0, EntryExit, Left, EntryFits, TakenWhole, fieldsTaken, hl]
  | some stat =>
    cases hstatus : statText stat with
    | none => simp [nextEntry, wp_readInt, h0, hstatus, EntryExit, EntryFits]
    | some status =>
      have hfits := @entryFits_of_status updateNetworkList count k (some cur) stat status h0 hstatus
      cases h1 : field 1 (some cur) with
      | none =>
        have hwhole : ¬ TakenWhole (some cur) := by simp [TakenWhole, h1]
        simp [nextEntry, wp_readInt, wp_readStr, setRow, field_behind, behind_behind, h0, hstatus, h1, EntryExit, Left,
          hwhole, hfits, fieldsTaken, hl]
      | some longName =>
        cases h2 : field 2 (some cur) with
        | none =>
          have hwhole : ¬ TakenWhole (some cur) := by simp [TakenWhole, h2]
          simp [nextEntry, wp_readInt, wp_readStr, setRow, field_behind, behind_behind, h0, hstatus, h1, h2, EntryExit,
            Left, hwhole, hfits, fieldsTaken, hl]
        | some shortName =>
          cases h3 : field 3 (some cur) with
          | none =>
            have hwhole : ¬ TakenWhole (some cur) := by simp [TakenWhole, h3]
            simp [nextEntry, wp_readInt, wp_readStr, setRow, field_behind, behind_behind, h0, hstatus, h1, h2, h3,
              EntryExit, Left, hwhole, hfits, fieldsTaken, hl]
          | some numeric =>
            cases h4 : number 4 (some cur) with
            | none =>
              have hwhole : ¬ TakenWhole (some cur) := by simp [TakenWhole, h4]
              simp [nextEntry, wp_readInt, wp_readStr, setRow, field_behind, number_behind, behind_behind, h0, hstatus,
                h1, h2, h3, h4, EntryExit, Left, hwhole, hfits, fieldsTaken, hl]
            | some act =>
              have hwhole : TakenWhole (some cur) := by simp [TakenWhole, h0, h1, h2, h3, h4]
              have hiff : EntryFits updateNetworkList count k (some cur) ↔
                  TextsFit updateNetworkList count k longName shortName numeric act status := by
                constructor
                · intro h
                  obtain ⟨status', hstatus', htexts⟩ := h stat h0
                  cases hstatus.symm.trans hstatus'
                  exact htexts longName shortName numeric act h1 h2 h3 h4
                · intro htexts stat' hstat'
                  cases h0.symm.trans hstat'
                  refine ⟨status, hstatus, fun longName' shortName' numeric' act' h1' h2' h3' h4' => ?_⟩
                  cases h1.symm.trans h1'
                  cases h2.symm.trans h2'
                  cases h3.symm.trans h3'
                  cases h4.symm.trans h4'
                  exact htexts
              obtain ⟨row, hrow⟩ : ∃ row, l.responses[k]? = some row :=
                ⟨_, List.getElem?_eq_getElem (hl.responses.symm ▸ hk)⟩
              simp only [nextEntry, wp_bind, wp_readInt, wp_readStr, wp_deref, setRow, wp_modify, field_behind,
                number_behind, behind_behind, h0, hstatus, h1, h2, h3, h4, Option.some.injEq, forall_eq', reduceCtorEq,
                false_implies, and_true, Nat.reduceAdd]
              rw [← wp_bind, ← bind_assoc, wp_bind]
              have hfilled : (some ⟨.text (some longName), .text (some shortName), .text (some numeric),
                  .text (some status)⟩ : Option Row) = some _ := rfl
              refine wp_mono (wp_printed act ?_ ((by simp [hrow] : _ = _).trans hfilled) rfl rfl rfl) ?_ ?_
              · simpa using hl
              · rintro _ l' ⟨hl', htexts⟩
                exact ⟨hl', hiff.2 htexts, iff_of_true hwhole trivial, by simp [fieldsTaken, h0, h1, h2, h3]⟩
              · rintro _ l' ⟨rfl, htexts⟩
                exact fun h => htexts (hiff.1 h)

/-! ## The loop -/

theorem wp_readEntries_iff {n : Nat} (hl : l.Sized count) (hn : k + n ≤ count) (line : Option Line) :
    wp (readEntries updateNetworkList count n k line) (fun _ _ => True) (fun _ _ => False) l ↔
      EntriesFit updateNetworkList count n k line := by
  induction n generalizing k line l with
  | zero => cases line <;> simp [readEntries, EntriesFit]
  | succ n ih =>
    cases line with
    | none => simp [readEntries, EntriesFit]
    | some line =>
      rw [readEntries, EntriesFit, wp_bind, deref, wp_pure]
      cases AtTok.at_tok_flag_start (some line) 40 with
      | none => simp
      | some cur =>
        simp only [Option.elim_some, wp_bind, wp_labelled, ne_eq, reduceCtorEq, not_false_eq_true, true_and,
          Option.some.injEq, forall_eq']
        refine wp_iff_of_wp (wp_nextEntry_iff hl (by omega) cur) ?_ ?_
        · rintro line' l' ⟨hl', hfits, hwhole, rfl⟩
          rw [if_pos (hwhole.2 trivial), and_iff_right hfits]
          exact ih hl' (by omega) _
        · rintro (line' | _ | _) l' hexit
          · obtain ⟨hl', hfits, hwhole, rfl⟩ := hexit
            rw [if_neg (fun h => hwhole.1 h), and_iff_right hfits]
            exact ih hl' (by omega) _
          · exact iff_of_false id fun h => hexit h.1
          · exact hexit.elim

/-- **The list is made** exactly if the entries fit. -/
theorem networkList_ne_none (stale : Stale) (line : Line) :
    networkList updateNetworkList stale count line ≠ none ↔ EntriesFit updateNetworkList count count 0 (some line) := by
  rw [← wp_readEntries_iff (sized_alloca stale) (by omega), networkList, madeBy, wp]
  split
  · next h => simp [h]
  · next h => simp [h]

end

end UniRil.NetworkRequests
