import UniRil.Data.Setup
import Mathlib.Data.List.Induction

/-!
# The PDN table and its cids

queryAllActivePDNInfos stores the cid of a line where a pointer stands, and its texts at the entry of the cid. The
readers of the table look a cid up by its index.
-/

namespace UniRil.Data

open StateRules AtTok

/-! ## The lines -/

/-- What a +SPIPCONTEXT line reports. -/
structure PdnEntry where
  cid : Int
  active : Int
  apn : Line
  type : Int
  deriving DecidableEq

/-- The fields of a line, if all of them can be read. -/
def pdnEntry (line : Line) : Option PdnEntry := do
  let nCid := at_tok_nextint (at_tok_start (some line))
  let active := at_tok_nextint nCid.p_cur
  let apn := at_tok_nextstr active.p_cur
  let type := at_tok_nextint apn.p_cur
  let cid ← nCid.value
  let isActive ← active.value
  let strApn ← apn.value
  let ipType ← type.value
  pure { cid, active := isActive, apn := strApn, type := ipType }

def PdnEntry.InRange (e : PdnEntry) : Prop := 1 ≤ e.cid ∧ e.cid ≤ MAX_PDP

/-- An active line for the cid. -/
def PdnEntry.Reports (c : Int) (e : PdnEntry) : Prop := e.cid = c ∧ e.active ≠ 0

instance PdnEntry.decidableInRange (e : PdnEntry) : Decidable e.InRange := inferInstanceAs (Decidable (_ ∧ _))

instance PdnEntry.decidableReports (c : Int) (e : PdnEntry) : Decidable (e.Reports c) := inferInstanceAs (Decidable (_ ∧ _))

/-- The texts of a line are there. -/
def PdnEntry.StoredIn (e : PdnEntry) (p : PDNInfo) : Prop := p.strApn = e.apn.take 63 ∧ p.strIPType = strIPType e.type

/-- Every cid is where it is looked up, exactly if a line reports it active, and has the texts of such a line. -/
def IndexedByCid (s_PDN : Int → PDNInfo) (entries : List PdnEntry) : Prop :=
  ∀ c, 1 ≤ c → c ≤ MAX_PDP →
    ((s_PDN (c - 1)).nCid = c ↔ ∃ e ∈ entries, e.Reports c) ∧
      ((s_PDN (c - 1)).nCid = c → ∃ e ∈ entries, e.Reports c ∧ e.StoredIn (s_PDN (c - 1)))

/-! ## When it is -/

/-- The lines that the pointer moves on for. -/
def inRange (entries : List PdnEntry) : List PdnEntry := entries.filter fun e => e.InRange

/-- The cid that the last line leaves where the pointer stands, when it is out of range. -/
def leftover (entries : List PdnEntry) : Option Int :=
  match entries.getLast? with
  | none => none
  | some e => if e.InRange then none else some e.cid

/-- The last line for the cid, whose texts stay. -/
def lastFor (entries : List PdnEntry) (c : Int) : Option PdnEntry := (entries.filter fun e => e.cid = c).getLast?

/-- The entry of the cid gets it from the line at its place, or has had it and is not written. -/
def MarkedAs (previous : Int → PDNInfo) (entries : List PdnEntry) (c : Int) : Prop :=
  match (inRange entries)[(c - 1).toNat]? with
  | some e => e.Reports c
  | none => (previous (c - 1)).nCid = c ∧ ¬ ((leftover entries).isSome ∧ (c - 1).toNat = (inRange entries).length)

/-- The active lines stand at the places of their cids, and the other entries hold no cid from before. -/
def InPlace (previous : Int → PDNInfo) (entries : List PdnEntry) : Prop :=
  ∀ c, 1 ≤ c → c ≤ MAX_PDP →
    if ∃ e ∈ entries, e.Reports c then
      MarkedAs previous entries c ∧
        ∃ e ∈ entries, e.Reports c ∧ ∀ last ∈ lastFor entries c,
          last.apn.take 63 = e.apn.take 63 ∧ strIPType last.type = strIPType e.type
    else ¬ MarkedAs previous entries c

variable {q q' : PdnQuery} {e : PdnEntry} {entries : List PdnEntry} {line : Line} {lines : List Line} {c i : Int}
  {previous : Int → PDNInfo}

/-! ## One line -/

theorem Tok.value_eq_some {α : Type} {t : Tok α} {a : α} : t.value = some a ↔ t.ok = true ∧ t.p_out = some a := by
  unfold Tok.value
  by_cases h : t.ok = true
  · simp [h]
  · simp [h]

/-- The first two fields of a line for a cid in range. -/
def PdnQuery.mark (q : PdnQuery) (cid active : Int) : PdnQuery :=
  let q := q.set q.pdns fun p => { p with nCid := cid }
  let q := { q with active := active }.require q.pdns (true && active ≠ 0)
  if q.active = 1 then { q with s_activePDN := q.s_activePDN + 1 } else q

/-- The other fields. -/
def PdnQuery.describe (q : PdnQuery) (i : Int) (apn : Line) (type : Int) (attachApn : Option Line) : PdnQuery :=
  let q := { q with apn := apn }.set i fun p => { p with strApn := apn.take 63 }
  let q := { q with type := type }.set i fun p => { p with strIPType := strIPType type }
  match attachApn with
  | none => q
  | some attachApn => q.set i fun p => { p with strAttachApn := attachApn.take 63 }

def PdnQuery.advance (q : PdnQuery) : PdnQuery := { q with pdns := q.pdns + 1 }

theorem pdnLine_eq (h : pdnEntry line = some e) : ∃ attachApn, pdnLine q line =
    if e.InRange then ((q.mark e.cid e.active).describe (e.cid - 1) e.apn e.type attachApn).advance
    else q.set q.pdns fun p => { p with nCid := e.cid } := by
  unfold pdnEntry at h
  simp only [Option.bind_eq_bind, Option.bind_eq_some_iff, Option.pure_def, Option.some.injEq] at h
  obtain ⟨cid, hcid, active, hactive, apn, hapn, type, htype, rfl⟩ := h
  rw [Tok.value_eq_some] at hcid hactive hapn htype
  have hrequire (q : PdnQuery) (i : Int) : q.require i true = q := rfl
  have hcidAt : ((q.set q.pdns fun p => { p with nCid := cid }).s_PDN q.pdns).nCid = cid := by
    simp [PdnQuery.set]
  have hpdns : (q.set q.pdns fun p => { p with nCid := cid }).pdns = q.pdns := rfl
  unfold pdnLine
  simp only [hcid, hactive, hapn, htype, Option.getD_some, hrequire, hpdns, hcidAt]
  generalize at_tok_hasmore _ = more
  generalize (at_tok_nextstr _).p_out.getD [] = attachApn
  refine ⟨if more then some attachApn else none, ?_⟩
  by_cases hin : PdnEntry.InRange ⟨cid, active, apn, type⟩
  · have hnot : ¬ (MAX_PDP < cid ∨ cid - 1 < 0) := by
      obtain ⟨hlow, hhigh⟩ := hin
      dsimp only at hlow hhigh
      omega
    rw [if_neg hnot, if_pos hin]
    cases more with
    | false => rfl
    | true => rfl
  · have hout : MAX_PDP < cid ∨ cid - 1 < 0 := by
      by_contra hnot
      exact hin ⟨by dsimp only; omega, by dsimp only; omega⟩
    rw [if_pos hout, if_neg hin]

/-- A field that is not set stays. -/
theorem set_keeps {α : Type} (g : PDNInfo → α) {f : PDNInfo → PDNInfo} (hf : ∀ p, g (f p) = g p) (q : PdnQuery)
    (j i : Int) : g ((q.set j f).s_PDN i) = g (q.s_PDN i) := by
  simp only [PdnQuery.set, Function.update_apply]
  by_cases hi : i = j
  · rw [if_pos hi, hf, hi]
  · rw [if_neg hi]

theorem mark_pdns (cid active : Int) : (q.mark cid active).pdns = q.pdns := by
  unfold PdnQuery.mark PdnQuery.require
  by_cases hzero : active = 0
  · simp [hzero, PdnQuery.set]
  · by_cases hone : active = 1
    · simp [hone, PdnQuery.set]
    · simp [hzero, hone, PdnQuery.set]

theorem mark_nCid (cid active : Int) (i : Int) : ((q.mark cid active).s_PDN i).nCid =
    if i = q.pdns then if active = 0 then -1 else cid else (q.s_PDN i).nCid := by
  unfold PdnQuery.mark PdnQuery.require
  by_cases hzero : active = 0
  · by_cases hi : i = q.pdns
    · simp [hzero, hi, PdnQuery.set]
    · simp [hzero, hi, PdnQuery.set]
  · by_cases hone : active = 1
    · by_cases hi : i = q.pdns
      · simp [hone, hi, PdnQuery.set]
      · simp [hone, hi, PdnQuery.set]
    · by_cases hi : i = q.pdns
      · simp [hzero, hone, hi, PdnQuery.set]
      · simp [hzero, hone, hi, PdnQuery.set]

theorem mark_keeps {α : Type} (g : PDNInfo → α) (hg : ∀ p nCid, g { p with nCid := nCid } = g p)
    (cid active i : Int) : g ((q.mark cid active).s_PDN i) = g (q.s_PDN i) := by
  have hset (q : PdnQuery) (j nCid : Int) : g ((q.set j fun p => { p with nCid := nCid }).s_PDN i) = g (q.s_PDN i) :=
    set_keeps g (fun p => hg p nCid) q j i
  unfold PdnQuery.mark PdnQuery.require
  by_cases hzero : active = 0
  · have hactive (q : PdnQuery) (j : Int) (f : PDNInfo → PDNInfo) : (q.set j f).active = q.active := rfl
    simp only [hzero, ne_eq, not_true_eq_false, decide_false, Bool.and_false, Bool.false_eq_true, if_false, hactive]
    rw [if_neg (by decide)]
    exact (hset _ _ _).trans (hset q q.pdns cid)
  · by_cases hone : active = 1
    · simpa [hone] using hset q q.pdns cid
    · simpa [hzero, hone] using hset q q.pdns cid

theorem describe_keeps {α : Type} (g : PDNInfo → α) (hApn : ∀ p strApn, g { p with strApn := strApn } = g p)
    (hType : ∀ p type, g { p with strIPType := type } = g p)
    (hAttach : ∀ p attachApn, g { p with strAttachApn := attachApn } = g p) (apn : Line) (type : Int)
    (attachApn : Option Line) (j i : Int) : g ((q.describe j apn type attachApn).s_PDN i) = g (q.s_PDN i) := by
  unfold PdnQuery.describe
  cases attachApn with
  | none =>
    refine (set_keeps g (hType · _) _ j i).trans ?_
    exact set_keeps g (hApn · _) { q with apn := apn } j i
  | some attachApn =>
    refine (set_keeps g (hAttach · _) _ j i).trans ((set_keeps g (hType · _) _ j i).trans ?_)
    exact set_keeps g (hApn · _) { q with apn := apn } j i

theorem describe_texts (apn : Line) (type : Int) (attachApn : Option Line) (j i : Int) :
    ((q.describe j apn type attachApn).s_PDN i).strApn = (if i = j then apn.take 63 else (q.s_PDN i).strApn) ∧
      ((q.describe j apn type attachApn).s_PDN i).strIPType =
        if i = j then strIPType type else (q.s_PDN i).strIPType := by
  unfold PdnQuery.describe
  by_cases hi : i = j
  · cases attachApn with
    | none => simp [PdnQuery.set, hi]
    | some attachApn => simp [PdnQuery.set, hi]
  · cases attachApn with
    | none => simp [PdnQuery.set, hi]
    | some attachApn => simp [PdnQuery.set, hi]

theorem describe_pdns (apn : Line) (type : Int) (attachApn : Option Line) (j : Int) :
    (q.describe j apn type attachApn).pdns = q.pdns := by
  cases attachApn with
  | none => rfl
  | some attachApn => rfl

/-- What a line does to the table. -/
structure Stores (q : PdnQuery) (e : PdnEntry) (q' : PdnQuery) : Prop where
  pdns : q'.pdns = if e.InRange then q.pdns + 1 else q.pdns
  nCid : ∀ i, (q'.s_PDN i).nCid =
    if i = q.pdns then if e.InRange ∧ e.active = 0 then -1 else e.cid else (q.s_PDN i).nCid
  texts : ∀ i, if e.InRange ∧ i = e.cid - 1 then e.StoredIn (q'.s_PDN i)
    else (q'.s_PDN i).strApn = (q.s_PDN i).strApn ∧ (q'.s_PDN i).strIPType = (q.s_PDN i).strIPType

theorem pdnLine_stores (h : pdnEntry line = some e) : Stores q e (pdnLine q line) := by
  obtain ⟨attachApn, hline⟩ := pdnLine_eq (q := q) h
  rw [hline]
  by_cases hin : e.InRange
  · rw [if_pos hin]
    refine ⟨?_, fun i => ?_, fun i => ?_⟩
    · rw [if_pos hin, ← mark_pdns (q := q) e.cid e.active]
      exact congrArg (· + 1) (describe_pdns _ _ _ _)
    · have hmark := mark_nCid (q := q) e.cid e.active i
      simp only [hin, true_and]
      rw [← hmark]
      exact describe_keeps (·.nCid) (fun _ _ => rfl) (fun _ _ => rfl) (fun _ _ => rfl) _ _ _ _ i
    · have htexts := describe_texts (q := q.mark e.cid e.active) e.apn e.type attachApn (e.cid - 1) i
      by_cases hi : i = e.cid - 1
      · rw [if_pos ⟨hin, hi⟩]
        rw [if_pos hi, if_pos hi] at htexts
        exact htexts
      · rw [if_neg fun h => hi h.2]
        rw [if_neg hi, if_neg hi, mark_keeps (·.strApn) fun _ _ => rfl,
          mark_keeps (·.strIPType) fun _ _ => rfl] at htexts
        exact htexts
  · rw [if_neg hin]
    refine ⟨?_, fun i => ?_, fun i => ?_⟩
    · rw [if_neg hin]
      rfl
    · simp only [PdnQuery.set, Function.update_apply, hin, false_and, if_false]
      by_cases hi : i = q.pdns
      · rw [if_pos hi, if_pos hi]
      · rw [if_neg hi, if_neg hi]
    · rw [if_neg fun h => hin h.1]
      constructor
      · exact set_keeps (·.strApn) (f := fun p => { p with nCid := e.cid }) (fun _ => rfl) q _ i
      · exact set_keeps (·.strIPType) (f := fun p => { p with nCid := e.cid }) (fun _ => rfl) q _ i

/-! ## All lines -/

/-- What `nCid` of an entry is after the lines. -/
def slot (previous : Int → PDNInfo) (entries : List PdnEntry) (j : Nat) : Int :=
  match (inRange entries)[j]? with
  | some e => if e.active = 0 then -1 else e.cid
  | none =>
    if j = (inRange entries).length then (leftover entries).getD (previous j).nCid else (previous j).nCid

/-- The table after the lines. -/
structure Filled (previous : Int → PDNInfo) (entries : List PdnEntry) (q : PdnQuery) : Prop where
  pdns : q.pdns = (inRange entries).length
  nCid : ∀ j : Nat, (q.s_PDN j).nCid = slot previous entries j
  texts : ∀ c, 1 ≤ c → c ≤ MAX_PDP → ∀ e ∈ lastFor entries c, e.StoredIn (q.s_PDN (c - 1))

theorem inRange_append_pos (h : e.InRange) : inRange (entries ++ [e]) = inRange entries ++ [e] := by
  simp [inRange, h]

theorem inRange_append_neg (h : ¬ e.InRange) : inRange (entries ++ [e]) = inRange entries := by
  simp [inRange, h]

theorem leftover_append (e : PdnEntry) : leftover (entries ++ [e]) = if e.InRange then none else some e.cid := by
  simp [leftover]

theorem lastFor_append (e : PdnEntry) :
    lastFor (entries ++ [e]) c = if e.cid = c then some e else lastFor entries c := by
  by_cases h : e.cid = c
  · simp [lastFor, h]
  · simp [lastFor, h]

/-- A line moves the slots on. -/
theorem slot_append (j : Nat) : slot previous (entries ++ [e]) j =
    if j = (inRange entries).length then if e.InRange ∧ e.active = 0 then -1 else e.cid
    else slot previous entries j := by
  unfold slot
  rw [leftover_append]
  by_cases hin : e.InRange
  · rw [inRange_append_pos hin, if_pos hin]
    rcases lt_trichotomy j (inRange entries).length with hlt | heq | hgt
    · rw [List.getElem?_append_left hlt, List.getElem?_eq_getElem hlt, if_neg hlt.ne]
    · simp [heq, hin]
    · have hnone : (inRange entries ++ [e])[j]? = none := by
        rw [List.getElem?_eq_none_iff, List.length_append]
        exact hgt
      rw [hnone, List.getElem?_eq_none hgt.le]
      simp [hgt.ne']
  · rw [inRange_append_neg hin, if_neg hin]
    by_cases heq : j = (inRange entries).length
    · simp [heq, hin]
    · simp [heq]

theorem Filled.append (h : Filled previous entries q) (hq : Stores q e q') : Filled previous (entries ++ [e]) q' := by
  refine ⟨?_, fun j => ?_, fun c hlow hhigh last hlast => ?_⟩
  · rw [hq.pdns, h.pdns]
    by_cases hin : e.InRange
    · rw [if_pos hin, inRange_append_pos hin, List.length_append]
      rfl
    · rw [if_neg hin, inRange_append_neg hin]
  · rw [hq.nCid, slot_append, h.nCid, h.pdns]
    simp only [Nat.cast_inj]
  · have htexts := hq.texts (c - 1)
    rw [lastFor_append] at hlast
    by_cases hc : e.cid = c
    · rw [if_pos hc] at hlast
      obtain rfl := Option.some.inj hlast
      rw [if_pos ⟨⟨hc ▸ hlow, hc ▸ hhigh⟩, by rw [hc]⟩] at htexts
      exact htexts
    · rw [if_neg hc] at hlast
      rw [if_neg fun h => hc (by omega)] at htexts
      have hstored := h.texts c hlow hhigh last hlast
      exact ⟨htexts.1.trans hstored.1, htexts.2.trans hstored.2⟩

theorem filled_lines (h : lines.mapM pdnEntry = some entries) (hq : Filled previous [] q) :
    Filled previous entries (lines.foldl pdnLine q) := by
  induction lines using List.reverseRecOn generalizing entries with
  | nil =>
    cases h
    exact hq
  | append_singleton lines line ih =>
    rw [List.mapM_append] at h
    simp only [List.mapM_cons, List.mapM_nil, Option.bind_eq_bind, Option.bind_eq_some_iff, Option.pure_def,
      Option.some.injEq] at h
    obtain ⟨entries, hentries, _, ⟨e, he, _, rfl, rfl⟩, rfl⟩ := h
    rw [List.foldl_append]
    exact (ih hentries).append (pdnLine_stores he)

/-! ## The cids -/

/-- No line out of range leaves a cid that is looked up. -/
theorem leftover_ne (hlow : 1 ≤ c) (hhigh : c ≤ MAX_PDP) : leftover entries ≠ some c := by
  unfold leftover
  cases entries.getLast? with
  | none => simp
  | some e =>
    by_cases hin : e.InRange
    · simp [hin]
    · simp only [if_neg hin, ne_eq, Option.some.injEq]
      rintro rfl
      exact hin ⟨hlow, hhigh⟩

theorem slot_eq_iff (hlow : 1 ≤ c) (hhigh : c ≤ MAX_PDP) :
    slot previous entries (c - 1).toNat = c ↔ MarkedAs previous entries c := by
  have hindex : ((c - 1).toNat : Int) = c - 1 := Int.toNat_of_nonneg (by omega)
  have hleft := @leftover_ne entries c hlow hhigh
  unfold slot MarkedAs
  rw [hindex]
  generalize (c - 1).toNat = j
  cases (inRange entries)[j]? with
  | some e =>
    by_cases hzero : e.active = 0
    · simp only [hzero, if_true, PdnEntry.Reports, ne_eq, not_true_eq_false, and_false, iff_false]
      omega
    · simp [hzero, PdnEntry.Reports]
  | none =>
    by_cases hlen : j = (inRange entries).length
    · cases hleftover : leftover entries with
      | none => simp
      | some cid =>
        rw [hleftover] at hleft
        simpa [hlen] using hleft
    · simp [hlen]

/-- The last line for a cid is there if any is. -/
theorem lastFor_isSome (h : ∃ e ∈ entries, e.Reports c) : ∃ last, lastFor entries c = some last := by
  obtain ⟨e, he, hc, -⟩ := h
  have hmem : e ∈ entries.filter fun e => e.cid = c := List.mem_filter.2 ⟨he, by simpa using hc⟩
  exact Option.isSome_iff_exists.1 (List.getLast?_isSome.2 (List.ne_nil_of_mem hmem))

theorem Filled.indexed_iff (h : Filled previous entries q) :
    IndexedByCid q.s_PDN entries ↔ InPlace previous entries := by
  refine forall_congr' fun c => forall_congr' fun hlow => forall_congr' fun hhigh => ?_
  have hindex : ((c - 1).toNat : Int) = c - 1 := Int.toNat_of_nonneg (by omega)
  have hslot := @slot_eq_iff entries c previous hlow hhigh
  rw [← h.nCid, hindex] at hslot
  rw [hslot]
  by_cases hreports : ∃ e ∈ entries, e.Reports c
  · rw [if_pos hreports, iff_true_right hreports]
    obtain ⟨last, hlast⟩ := lastFor_isSome hreports
    obtain ⟨hapn, htype⟩ := h.texts c hlow hhigh last hlast
    refine and_congr_right fun hmarked => ?_
    rw [forall_prop_of_true hmarked]
    refine exists_congr fun e => and_congr_right fun _ => and_congr_right fun _ => ?_
    simp only [hlast, Option.mem_def, Option.some.injEq, forall_eq', ← hapn, ← htype]
    rfl
  · rw [if_neg hreports, iff_false_right hreports]
    exact and_iff_left_of_imp fun hnot hmarked => (hnot hmarked).elim

theorem filled_start (previous : Int → PDNInfo) (stack : Stack) (s_activePDN : Int) :
    Filled previous []
      { s_PDN := previous, s_activePDN, pdns := 0, active := stack.active, apn := stack.apn, type := stack.type } := by
  refine ⟨rfl, fun j => ?_, fun c _ _ e he => ?_⟩
  · simp only [slot, inRange, leftover, List.filter_nil, List.getElem?_nil, List.getLast?_nil, Option.getD_none]
    exact (ite_self _).symm
  · simp [lastFor] at he

/-- **The table is indexed by the cids exactly if the active lines stand at the places of their cids**, as far as no
cids from before are left. -/
theorem indexedByCid_iff (w : World) (entries : List PdnEntry)
    (hsuccess : w.env.next.1.reply.success = true)
    (hlines : w.env.next.1.reply.p_intermediates.mapM pdnEntry = some entries) :
    IndexedByCid (queryAllActivePDNInfos w).2.shared.s_PDN entries ↔ InPlace w.shared.s_PDN entries := by
  have hfilled := filled_lines hlines (filled_start w.shared.s_PDN w.env.next.2.stack 0)
  have htable : (queryAllActivePDNInfos w).2.shared.s_PDN =
      (w.env.next.1.reply.p_intermediates.foldl pdnLine
        { s_PDN := w.shared.s_PDN, s_activePDN := 0, pdns := 0, active := w.env.next.2.stack.active
          apn := w.env.next.2.stack.apn, type := w.env.next.2.stack.type }).s_PDN := by
    have hasked : (at_send_command .SPIPCONTEXT_query
        (modifyShared (fun g => { g with s_activePDN := 0 }) w).2).1.success = true := hsuccess
    unfold queryAllActivePDNInfos
    rw [bind_apply, bind_apply, if_pos hasked]
    rfl
  rw [htable]
  exact hfilled.indexed_iff

/-- A modem that answers with the line. -/
def pdnAnswer (line : Line) : World :=
  World.init
    { answers := [.response (ascii "OK") [line]]
      ipv6Addrs := []
      stack := { active := 0, apn := [], type := 0, responses := fun _ => emptyDataCall } }

/-- The line for cid 1 is the first. -/
theorem indexedByCid_first :
    IndexedByCid (queryAllActivePDNInfos (pdnAnswer (ascii "+SPIPCONTEXT:1,1,\"ims\",2"))).2.shared.s_PDN
        [⟨1, 1, ascii "ims", 2⟩] ↔
      InPlace (pdnAnswer (ascii "+SPIPCONTEXT:1,1,\"ims\",2")).shared.s_PDN [⟨1, 1, ascii "ims", 2⟩] :=
  indexedByCid_iff (pdnAnswer (ascii "+SPIPCONTEXT:1,1,\"ims\",2")) [⟨1, 1, ascii "ims", 2⟩] (by decide)
    (by decide)

/-- Cid 2 alone is stored at the entry of cid 1. -/
theorem indexedByCid_fails_gap :
    pdnEntry (ascii "+SPIPCONTEXT:2,1,\"ims\",2") = some ⟨2, 1, ascii "ims", 2⟩ ∧
      ¬ IndexedByCid (queryAllActivePDNInfos (pdnAnswer (ascii "+SPIPCONTEXT:2,1,\"ims\",2"))).2.shared.s_PDN
        [⟨2, 1, ascii "ims", 2⟩] := by
  refine ⟨by decide, fun h => ?_⟩
  have hreports : PdnEntry.Reports 2 ⟨2, 1, ascii "ims", 2⟩ := ⟨rfl, by decide⟩
  have hstored := (h 2 (by decide) (by decide)).1.2 ⟨_, List.mem_singleton_self _, hreports⟩
  exact absurd hstored (by decide)

end UniRil.Data
