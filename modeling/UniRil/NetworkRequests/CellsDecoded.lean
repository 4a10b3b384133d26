import UniRil.NetworkRequests.CellAnswers
import UniRil.Sim.ApduAnswers

/-!
# Cells are decoded entry by entry

The log of the request is a transcript of the four answers. The serving cell has the digits of the numeric, and the
neighbours are the groups behind the fifth field, exactly if nothing is missing, cut or out of range.
-/

namespace UniRil.NetworkRequests

open Flows Handlers
open AtTok (Line toInt)
open Sim (lineOf lineOf_eq_some log_after_eq)

variable {γ : Type}

/-! ## The transcript -/

def answered {α : Type} (responsePrefix : Line) (reader : Reader α) (a : Answer) : Option (α × Option Line) :=
  (lineOf responsePrefix a).bind (readLine reader)

def copsOf (a : Answer) : Option (Line × Int) := (answered (ascii "+COPS:") readCops a).map Prod.fst

def cregOf (cellType : RIL_CellInfoType) (a : Answer) : Option Registration :=
  (answered (registrationCommand cellType).2 readCreg a).map Prod.fst

def signalsOf (s_isLTE : Bool) (ber : Int) (a : Answer) : Option Signals :=
  (lineOf (signalCommand s_isLTE).2 a).bind fun line => (rewritten s_isLTE ber line).bind fun newLine =>
    (readLine (signals s_isLTE) newLine).map Prod.fst

def servingOf (cellType : RIL_CellInfoType) (s : Serving) (a : Answer) : Option ((CellInfo × Int) × Option Line) :=
  answered (cellCommand cellType).2 (serving cellType s) a

def neighboursOf (cellType : RIL_CellInfoType) : Nat → Int × Int → Option Line → Option (List CellInfo)
  | 0, _, _ => some []
  | passes + 1, area, line =>
    (neighbour cellType area line).bind fun r =>
      (neighboursOf cellType passes r.1.2 r.2).map fun infos => r.1.1 :: infos

/-- The group of a neighbour. -/
def groupAt (cellType : RIL_CellInfoType) (k : Nat) (line : Option Line) : Option Line :=
  behind (groupWidth cellType * k) line

theorem groupAt_succ (cellType : RIL_CellInfoType) (k : Nat) (line : Option Line) :
    groupAt cellType (k + 1) line = groupAt cellType k (behind (groupWidth cellType) line) := by
  rw [groupAt, groupAt, behind_behind, Nat.mul_succ, Nat.add_comm]

theorem isSome_neighboursOf (cellType : RIL_CellInfoType) (n : Nat) (area : Int × Int) (line : Option Line) :
    (neighboursOf cellType n area line).isSome ↔ ∀ k < n, GroupRead cellType (groupAt cellType k line) := by
  induction n generalizing area line with
  | zero => simp [neighboursOf]
  | succ n ih =>
    rw [Nat.forall_lt_succ_left]
    simp only [groupAt_succ]
    rw [groupAt, Nat.mul_zero, behind_zero, ← @isSome_neighbour line area cellType, neighboursOf]
    cases hread : neighbour cellType area line with
    | none => simp
    | some r => simp [ih, (neighbour_eq_some hread).1]

/-- Every group is decoded exactly if it fits. -/
theorem neighboursOf_eq_some {cellType : RIL_CellInfoType} {n : Nat} {area : Int × Int} {line : Option Line}
    {infos : List CellInfo} (h : neighboursOf cellType n area line = some infos) :
    infos.length = n ∧ ∀ k < n,
      (neighbourOf cellType (groupAt cellType k line) = infos[k]? ↔ GroupFits cellType (groupAt cellType k line)) := by
  induction n generalizing area line infos with
  | zero =>
    cases h
    simp
  | succ n ih =>
    rw [neighboursOf, Option.bind_eq_some_iff] at h
    obtain ⟨r, hread, h⟩ := h
    rw [Option.map_eq_some_iff] at h
    obtain ⟨rest, hrest, rfl⟩ := h
    obtain ⟨hplace, hfits⟩ := neighbour_eq_some hread
    obtain ⟨hlen, hall⟩ := ih hrest
    rw [Nat.forall_lt_succ_left]
    refine ⟨by rw [List.length_cons, hlen], ?_, fun k hk => ?_⟩
    · rw [groupAt, Nat.mul_zero, behind_zero, List.getElem?_cons_zero]
      exact hfits
    · rw [groupAt_succ, ← hplace, List.getElem?_cons_succ]
      exact hall k hk

def refusal (t : RIL_Token) : Event := .RIL_onRequestComplete t .NO_NETWORK_FOUND .NULL

def report (t : RIL_Token) (cells : List RIL_CellInfo_v12) : Event :=
  .RIL_onRequestComplete t .SUCCESS (.records (cells.map RIL_CellInfo_v12.row))

/-- What follows the last answer. -/
def ending (cellType : RIL_CellInfoType) (ril_nano_time : Nat) (t : RIL_Token) (s : Serving) (room : Bool)
    (r : (CellInfo × Int) × Option Line) : List Event :=
  if toInt (r.1.2 + 1) < 0 ∨ room = false then [refusal t]
  -- there is no first row
  else if toInt (r.1.2 + 1) = 0 then []
  else
    (neighboursOf cellType (passes cellType r.1.2 r.2) (s.registration.lac, s.registration.cid)
        r.2).elim [refusal t] fun infos =>
      [report t (servingRow cellType ril_nano_time s r.1.1 ::
        (infos.map (neighbourRow cellType) ++ List.replicate (r.1.2.toNat - infos.length) .zero))]

def transcript (s_isLTE : Bool) (stale : Uninitialised) (ril_nano_time : Nat) (t : RIL_Token) (answers : Nat → Answer)
    (room : Bool) : List Event :=
  .at_send_command (ascii "AT+COPS?") :: (copsOf (answers 0)).elim [refusal t] fun cops =>
    .at_send_command (registrationCommand (cellTypeOf cops.2)).1 ::
      (cregOf (cellTypeOf cops.2) (answers 1)).elim [refusal t] fun registration =>
    .at_send_command (signalCommand s_isLTE).1 ::
      (signalsOf s_isLTE stale.ber.toInt (answers 2)).elim [refusal t] fun signals =>
    .at_send_command (cellCommand (cellTypeOf cops.2)).1 ::
      (servingOf (cellTypeOf cops.2) (known stale cops.1 registration signals) (answers 3)).elim [refusal t]
        (ending (cellTypeOf cops.2) ril_nano_time t (known stale cops.1 registration signals) room)

section

variable {ε α : Type} {w : World γ}

/-- A command was sent, and nothing else. -/
def Asked (cmd : Line) (w w' : World γ) : Prop :=
  w'.log = w.log ++ [.at_send_command cmd] ∧ w'.answers = (fun n => w.answers (n + 1)) ∧ w'.allocates = w.allocates

/-- A line is read, or the code at the label goes on; the globals are as before. -/
theorem wp_askLine_globals {cmd responsePrefix : Line} {p_newResponse : Pointer}
    {Q : Response × Line → World γ → Prop} {E : Exit Pointers → World γ → Prop}
    (hQ : ∀ r line w', lineOf responsePrefix (w.answers 0) = some line → Asked cmd w w' → w'.globals = w.globals →
      Q (r, line) w')
    (hE : ∀ p w', lineOf responsePrefix (w.answers 0) = none → Asked cmd w w' → w'.globals = w.globals →
      E (.goto p) w') :
    wp (askLine cmd responsePrefix p_newResponse) Q E w := by
  cases hline : lineOf responsePrefix (w.answers 0) with
  | some line =>
    obtain ⟨f, ls, ha, hf, hls⟩ := lineOf_eq_some.1 hline
    simp [askLine, ha, hf, hls]
    exact hQ _ line _ hline ⟨rfl, rfl, rfl⟩ rfl
  | none =>
    cases ha : w.answers 0 with
    | failed =>
      simp [askLine, ha]
      exact hE _ _ hline ⟨rfl, rfl, rfl⟩ rfl
    | response f ls =>
      have hhead := hline
      rw [ha, lineOf] at hhead
      by_cases hf : Command.isFinalResponseSuccess f = true
      · rw [if_pos hf, List.head?_eq_none_iff] at hhead
        simp [askLine, ha, hf, hhead]
        exact hE _ _ hline ⟨rfl, rfl, rfl⟩ rfl
      · simp [askLine, ha, hf]
        exact hE _ _ hline ⟨rfl, rfl, rfl⟩ rfl

theorem wp_askLine {cmd responsePrefix : Line} {p_newResponse : Pointer} {Q : Response × Line → World γ → Prop}
    {E : Exit Pointers → World γ → Prop}
    (hQ : ∀ r line w', lineOf responsePrefix (w.answers 0) = some line → Asked cmd w w' → Q (r, line) w')
    (hE : ∀ p w', lineOf responsePrefix (w.answers 0) = none → Asked cmd w w' → E (.goto p) w') :
    wp (askLine cmd responsePrefix p_newResponse) Q E w :=
  wp_askLine_globals (fun r line w' hline hasked _ => hQ r line w' hline hasked)
    fun p w' hline hasked _ => hE p w' hline hasked

theorem wp_store {Q : List RIL_CellInfo_v12 → World γ → Prop} {E : Exit ε → World γ → Prop} (i : Nat)
    (cell : RIL_CellInfo_v12) (response : List RIL_CellInfo_v12) :
    wp (store i cell response) Q E w ↔ if i < response.length then Q (response.set i cell) w else E .crashes w := by
  unfold store
  split
  · simp
  · simp

/-- The groups are stored behind the rows that are there, in order, and leave the others alone. -/
theorem wp_neighbours {Q : List RIL_CellInfo_v12 → World γ → Prop} {E : Exit ε → World γ → Prop}
    (cellType : RIL_CellInfoType) (l : ε) (passes : Nat) (area : Int × Int) (line : Option Line)
    (rows zeros : List RIL_CellInfo_v12) (hrows : rows ≠ []) (hzeros : passes ≤ zeros.length)
    (hQ : ∀ infos, neighboursOf cellType passes area line = some infos →
      Q (rows ++ infos.map (neighbourRow cellType) ++ zeros.drop infos.length) w)
    (hE : neighboursOf cellType passes area line = none → E (.goto l) w) :
    wp (neighbours cellType l passes (rows.length - 1) area line (rows ++ zeros)) Q E w := by
  induction passes generalizing area line rows zeros with
  | zero => simpa [neighbours] using hQ [] rfl
  | succ passes ih =>
    obtain ⟨zero, zeros, rfl⟩ := List.exists_cons_of_length_pos (Nat.lt_of_lt_of_le (Nat.succ_pos passes) hzeros)
    have hlen : rows.length - 1 + 1 = rows.length := Nat.sub_add_cancel (List.length_pos_iff.2 hrows)
    rw [neighbours, wp_bind]
    cases hread : neighbour cellType area line with
    | none =>
      rw [demand, wp_goto]
      exact hE (by simp [neighboursOf, hread])
    | some r =>
      obtain ⟨⟨info, area'⟩, line'⟩ := r
      have hset : (rows ++ zero :: zeros).set rows.length (neighbourRow cellType info) =
          (rows ++ [neighbourRow cellType info]) ++ zeros := by simp
      simp only [demand, wp_pure, hlen, wp_bind, wp_store]
      rw [if_pos (by simp), hset]
      have hnext := ih area' line' (rows ++ [neighbourRow cellType info]) zeros (by simp)
        (by simpa using hzeros) ?_ ?_
      · simpa using hnext
      · intro infos hinfos
        have hall := hQ (info :: infos) (by simp [neighboursOf, hread, hinfos])
        simpa using hall
      · intro hnone
        exact hE (by simp [neighboursOf, hread, hnone])

/-- How the log goes on, the code at the label included. -/
def EndsWith (t : RIL_Token) (m : Handler γ Pointers Unit) (es : List Event) (w : World γ) : Prop :=
  wp (labelled m (refused t) : Handler γ Empty Unit) (fun _ w' => w'.log = w.log ++ es)
    (fun _ w' => w'.log = w.log ++ es) w

theorem wp_at_response_free {Q : PUnit → World γ → Prop} {E : Exit ε → World γ → Prop} (p : Pointer)
    (h : ∀ w', w'.log = w.log → Q ⟨⟩ w') : wp (at_response_free p) Q E w := by
  cases p with
  | none => exact h w rfl
  | some r =>
    rw [wp_at_response_free_some]
    exact h _ rfl

theorem log_refused (t : RIL_Token) (p : Pointers) :
    wp (refused t p : Handler γ Empty Unit) (fun _ w' => w'.log = w.log ++ [refusal t])
      (fun _ w' => w'.log = w.log ++ [refusal t]) w := by
  unfold refused
  rw [wp_bind]
  refine wp_at_response_free p.1 fun w₁ h₁ => ?_
  rw [wp_bind]
  refine wp_at_response_free p.2 fun w₂ h₂ => ?_
  simp [h₁, h₂, refusal]

theorem endsWith_goto (t : RIL_Token) (p : Pointers) : EndsWith t (goto p) [refusal t] w := by
  rw [EndsWith, wp_labelled, wp_goto, atLabel_goto]
  exact log_refused t p

theorem endsWith_demand {t : RIL_Token} {o : Option α} {p : Pointers} {k : α → Handler γ Pointers Unit}
    {rest : α → List Event} (h : ∀ a, o = some a → EndsWith t (k a) (rest a) w) :
    EndsWith t (demand o p >>= k) (o.elim [refusal t] rest) w := by
  cases o with
  | none => exact endsWith_goto t p
  | some a => exact h a rfl

theorem endsWith_ask {t : RIL_Token} {cmd responsePrefix : Line} {p_newResponse : Pointer}
    {k : Response × Line → Handler γ Pointers Unit} {rest : Line → List Event}
    (h : ∀ r line w', lineOf responsePrefix (w.answers 0) = some line → Asked cmd w w' →
      EndsWith t (k (r, line)) (rest line) w') :
    EndsWith t (askLine cmd responsePrefix p_newResponse >>= k)
      (.at_send_command cmd :: (lineOf responsePrefix (w.answers 0)).elim [refusal t] rest) w := by
  rw [EndsWith, wp_labelled, wp_bind]
  apply wp_askLine
  · intro r line w' hline hasked
    have hrest := h r line w' hline hasked
    rw [EndsWith, wp_labelled, hasked.1, List.append_assoc] at hrest
    rw [hline]
    exact hrest
  · intro p w' hline hasked
    have hrest := log_refused (w := w') t p
    rw [hasked.1, List.append_assoc] at hrest
    rw [hline]
    exact hrest

/-- What does not touch the log goes by. -/
theorem endsWith_bind {t : RIL_Token} {m : Handler γ Pointers α} {k : α → Handler γ Pointers Unit} {es : List Event}
    {a : α} {u : World γ} (hm : m w = (.ok a, u)) (hlog : u.log = w.log) (h : EndsWith t (k a) es u) :
    EndsWith t (m >>= k) es w := by
  rw [EndsWith, wp_labelled, hlog] at h
  rw [EndsWith, wp_labelled, wp_bind, wp_of_ok hm]
  exact h

theorem elim_bind {β δ : Type} (o : Option α) (f : α → Option β) (d : δ) (g : β → δ) :
    (o.bind f).elim d g = o.elim d fun a => (f a).elim d g := by
  cases o with
  | none => rfl
  | some a => rfl

theorem endsWith_reportCells (cellType : RIL_CellInfoType) (ril_nano_time : Nat) (t : RIL_Token) (s : Serving)
    (p : Pointers) (info : CellInfo) {n : Int} (hn : InInt n) (line : Option Line) :
    EndsWith t (reportCells cellType ril_nano_time t s p info n line)
      (ending cellType ril_nano_time t s (w.allocates 0) ((info, n), line)) w := by
  unfold reportCells
  refine endsWith_bind (u := w.asks) (a := if 0 ≤ toInt (n + 1) ∧ w.allocates 0 = true then
    some (List.replicate (toInt (n + 1)).toNat .zero) else none) rfl rfl ?_
  unfold ending
  by_cases hroom : 0 ≤ toInt (n + 1) ∧ w.allocates 0 = true
  · obtain ⟨hcount, hallocates⟩ := hroom
    rw [if_pos ⟨hcount, hallocates⟩, if_neg (by simp [hallocates, hcount])]
    by_cases hzero : toInt (n + 1) = 0
    · rw [if_pos hzero, hzero, EndsWith, wp_labelled]
      simp [store]
    · have hsucc : (toInt (n + 1)).toNat = n.toNat + 1 := by
        have hwrap : toInt (n + 1) = n + 1 := by
          have hlow := hn.1
          have hhigh := hn.2
          by_cases hmax : n = 2 ^ 31 - 1
          · rw [hmax] at hcount
            exact absurd hcount (by decide)
          · exact toInt_of_range (by omega) (by omega)
        omega
      rw [if_neg hzero, hsucc, List.replicate_succ, EndsWith, wp_labelled]
      simp only [demand, pure_bind, wp_bind, wp_store]
      rw [if_pos (by simp), List.set_cons_zero]
      have hpasses : passes cellType n line ≤ (List.replicate n.toNat RIL_CellInfo_v12.zero).length := by
        rw [passes, List.length_replicate]
        split
        · exact le_rfl
        · exact Nat.zero_le _
      refine wp_neighbours cellType p _ _ line [_] _ (by simp) hpasses ?_ ?_
      · intro infos hinfos
        rw [hinfos, Option.elim_some, List.drop_replicate, wp_bind, wp_store, if_pos (by simp), List.append_assoc,
          List.singleton_append, List.set_cons_zero, wp_bind, wp_RIL_onRequestComplete, wp_bind]
        refine wp_at_response_free p.1 fun w₁ h₁ => ?_
        refine wp_at_response_free p.2 fun w₂ h₂ => ?_
        rw [h₂, h₁, log_note, report]
      · intro hnone
        rw [hnone, Option.elim_none, atLabel_goto]
        exact log_refused t p
  · rw [if_neg hroom, if_pos]
    · exact endsWith_goto t p
    · rw [not_and_or, Bool.not_eq_true, not_le] at hroom
      exact hroom

/-- **The log of the request** is the transcript of its answers. -/
theorem log_requestGetCellInfoList (s_isLTE : Bool) (stale : Uninitialised) (ril_nano_time : Nat) (t : RIL_Token) :
    (after (requestGetCellInfoList s_isLTE stale ril_nano_time t : Handler γ Empty Unit) w).log =
      w.log ++ transcript s_isLTE stale ril_nano_time t w.answers (w.allocates 0) := by
  apply log_after_eq
  unfold requestGetCellInfoList
  simp only [transcript, copsOf, cregOf, signalsOf, servingOf, answered, Option.elim_map, elim_bind]
  apply endsWith_ask
  rintro r line w₁ - ⟨-, hanswers₁, hallocates₁⟩
  apply endsWith_demand
  rintro ⟨⟨plmn, netType⟩, -⟩ -
  refine endsWith_bind (u := w₁.frees r.handle) rfl rfl ?_
  have hsecond : w.answers 1 = (w₁.frees r.handle).answers 0 := by simp [hanswers₁]
  rw [hsecond]
  apply endsWith_ask
  rintro r₂ line₂ w₂ - ⟨-, hanswers₂, hallocates₂⟩
  apply endsWith_demand
  rintro ⟨registration, -⟩ -
  refine endsWith_bind (u := w₂.frees r₂.handle) rfl rfl ?_
  have hthird : w.answers 2 = (w₂.frees r₂.handle).answers 0 := by simp [hanswers₂, hanswers₁]
  rw [hthird]
  apply endsWith_ask
  rintro r₃ line₃ w₃ - ⟨-, hanswers₃, hallocates₃⟩
  apply endsWith_demand
  rintro newLine -
  refine endsWith_bind (u := w₃.gives) rfl rfl ?_
  apply endsWith_demand
  rintro ⟨signals, -⟩ -
  refine endsWith_bind (u := w₃.gives.frees r₃.handle) rfl rfl ?_
  have hfourth : w.answers 3 = (w₃.gives.frees r₃.handle).answers 0 := by simp [hanswers₃, hanswers₂, hanswers₁]
  rw [hfourth]
  apply endsWith_ask
  rintro r₄ line₄ w₄ - ⟨-, -, hallocates₄⟩
  apply endsWith_demand
  rintro ⟨⟨info, n⟩, rest⟩ hserving
  have hroom : w.allocates 0 = w₄.allocates 0 := by simp [hallocates₄, hallocates₃, hallocates₂, hallocates₁]
  rw [hroom]
  obtain ⟨cur, -, hserving⟩ := Option.bind_eq_some_iff.1 hserving
  exact endsWith_reportCells _ _ _ _ _ _ (serving_eq_some _ hserving).2.1 _

end

/-! ## The report -/

theorem numbers_injective : Function.Injective CellInfo.numbers := by
  intro info info' h
  cases info <;> cases info' <;>
    simp_all [CellInfo.numbers, RIL_CellIdentityGsm.ext_iff, RIL_GSM_SignalStrength.ext_iff,
      RIL_CellIdentityLte.ext_iff, RIL_LTE_SignalStrength.ext_iff, RIL_CellIdentityWcdma.ext_iff,
      RIL_SignalStrengthWcdma.ext_iff, RIL_CellIdentityTdscdma.ext_iff]

theorem value_injective : Function.Injective RIL_CellInfoType.value := by
  intro type type' h
  cases type <;> cases type' <;> first | rfl | cases h

theorem row_injective : Function.Injective RIL_CellInfo_v12.row := by
  rintro ⟨type, registered, stampType, stamp, info⟩ ⟨type', registered', stampType', stamp', info'⟩ h
  simp only [RIL_CellInfo_v12.row, Prod.mk.injEq, List.cons.injEq, and_true] at h
  obtain ⟨htype, rfl, rfl, rfl, hinfo⟩ := h
  rw [value_injective htype, numbers_injective hinfo]

/-- The line of the cells. -/
def cellText (netType : Int) (a : Answer) : Option Line := textOf (cellCommand (cellTypeOf netType)).2 a

/-- One cell with the digits of the numeric, and one for every group. -/
def Decoded (answers : Nat → Answer) (cells : List RIL_CellInfo_v12) : Prop :=
  ∃ plmn netType, field 2 (textOf (ascii "+COPS:") (answers 0)) = some plmn ∧
    number 3 (textOf (ascii "+COPS:") (answers 0)) = some netType ∧
    ∃ n : Nat, (number 4 (cellText netType (answers 3))).getD 0 = n ∧ cells.length = n + 1 ∧
      (∃ serving mcc mnc, cells[0]? = some serving ∧ serving.CellInfo.code = some (mcc, mnc) ∧ DigitsOf plmn mcc mnc) ∧
      ∀ k < n, ∃ info,
        neighbourOf (cellTypeOf netType) (groupAt (cellTypeOf netType) k (behind 5 (cellText netType (answers 3)))) =
          some info ∧
        cells[k + 1]? = some (neighbourRow (cellTypeOf netType) info)

/-- The last event is an error, or the decoded cells. -/
def EndsWell (t : RIL_Token) (answers : Nat → Answer) (log : List Event) : Prop :=
  ∃ e, log.getLast? = some e ∧
    ((∃ err, e = .RIL_onRequestComplete t err .NULL ∧ err ≠ .SUCCESS) ∨
      ∃ cells, e = report t cells ∧ Decoded answers cells)

/-- The request ends well, whatever the variables hold that are not initialised, and does not depend on them. -/
def CellsReported (s_isLTE : Bool) (ril_nano_time : Nat) (t : RIL_Token) (w : World γ) : Prop :=
  (∀ stale stale',
      (after (requestGetCellInfoList s_isLTE stale ril_nano_time t : Handler γ Empty Unit) w).log =
        (after (requestGetCellInfoList s_isLTE stale' ril_nano_time t : Handler γ Empty Unit) w).log) ∧
    ∀ stale, EndsWell t w.answers
      (after (requestGetCellInfoList s_isLTE stale ril_nano_time t : Handler γ Empty Unit) w).log

/-- AT+CSQ was answered with a bit error rate, if one is asked for. -/
def BerRead (s_isLTE : Bool) (cellType : RIL_CellInfoType) (a : Answer) : Prop :=
  s_isLTE = true ∨ cellType = .LTE ∨ (field 1 (textOf (ascii "+CSQ:") a)).isSome = true

/-- There is a first row, and if all groups can be read, they fit, like the numeric and the bit error rate. -/
def CellsFit (s_isLTE : Bool) (w : World γ) (plmn : Line) (netType n : Int) (line : Option Line) : Prop :=
  w.allocates 0 = true → n ≠ -1 ∧
    (0 ≤ n → n < INT_MAX →
      (∀ k < passes (cellTypeOf netType) n line,
        GroupRead (cellTypeOf netType) (groupAt (cellTypeOf netType) k line)) →
      Numeric plmn ∧ BerRead s_isLTE (cellTypeOf netType) (w.answers 2) ∧
        (loops (cellTypeOf netType) line = true ∨ n = 0) ∧
        ∀ k < n.toNat, GroupFits (cellTypeOf netType) (groupAt (cellTypeOf netType) k line))

/-- Where all four answers can be read, the cells fit. -/
def AnswersFit (s_isLTE : Bool) (w : World γ) : Prop :=
  ∀ plmn netType registration signals s info n line, copsOf (w.answers 0) = some (plmn, netType) →
    cregOf (cellTypeOf netType) (w.answers 1) = some registration →
    signalsOf s_isLTE 0 (w.answers 2) = some signals →
    servingOf (cellTypeOf netType) s (w.answers 3) = some ((info, n), line) → CellsFit s_isLTE w plmn netType n line

/-! ## What is not initialised -/

theorem inInt_csqBer {cur : Option Line} {ber : Int} (h : csqBer cur = some ber) : InInt ber := by
  rw [csqBer, Option.map_eq_some_iff] at h
  obtain ⟨text, -, rfl⟩ := h
  split
  · exact ⟨by decide, by decide⟩
  · exact inInt_toInt _

/-- The bit error rate is that of the line, if there is one, and otherwise what the variable holds. -/
theorem signalsOf_csq {ber : Int} {a : Answer} {signals : Signals} (h : signalsOf false ber a = some signals)
    (hber : InInt ber) {ber' : Int} (hber' : InInt ber') :
    ∃ rssi, signals = csqSignals rssi ((csqBer (textOf (ascii "+CSQ:") a)).getD ber) ∧
      signalsOf false ber' a = some (csqSignals rssi ((csqBer (textOf (ascii "+CSQ:") a)).getD ber')) := by
  have hgetD {ber : Int} (hber : InInt ber) (cur : Option Line) : InInt ((csqBer cur).getD ber) := by
    cases hcsq : csqBer cur with
    | none => exact hber
    | some stored => exact inInt_csqBer hcsq
  have hcommand : (signalCommand false).2 = ascii "+CSQ:" := rfl
  simp only [signalsOf, hcommand, rewritten, Bool.false_eq_true, if_false, csq_execute_cmd_rsp_eq,
    NetworkRequests.signals] at h ⊢
  cases hline : lineOf (ascii "+CSQ:") a with
  | none => simp [hline] at h
  | some line =>
    have htext : textOf (ascii "+CSQ:") a = AtTok.at_tok_start (some line) := by rw [textOf, hline, Option.bind_some]
    simp only [hline, Option.bind_some] at h ⊢
    rw [htext]
    split at h
    · next hfound =>
      rw [if_pos hfound]
      cases hrssi : number 0 (AtTok.at_tok_start (some line)) with
      | none => simp [hrssi] at h
      | some rssi =>
        have hint := inInt_rssi2G (inInt_number hrssi)
        rw [hrssi, Option.map_some, Option.bind_some, readSignals_csq hint (hgetD hber _)] at h
        rw [Option.map_some, Option.bind_some, readSignals_csq hint (hgetD hber' _)]
        exact ⟨rssi2G rssi, (Option.some.inj h).symm, rfl⟩
    · cases h

theorem answered_eq_some {α : Type} {responsePrefix : Line} {reader : Reader α} {a : Answer} {v : α × Option Line} :
    answered responsePrefix reader a = some v ↔
      ∃ cur, textOf responsePrefix a = some cur ∧ reader (some cur) = some v := by
  simp only [answered, textOf, readLine, Option.bind_eq_some_iff]
  constructor
  · rintro ⟨line, hline, cur, hcur, hread⟩
    exact ⟨cur, ⟨line, hline, hcur⟩, hread⟩
  · rintro ⟨cur, ⟨line, hline, hcur⟩, hread⟩
    exact ⟨line, hline, cur, hcur, hread⟩

theorem copsOf_eq_some {a : Answer} {plmn : Line} {netType : Int} (h : copsOf a = some (plmn, netType)) :
    field 2 (textOf (ascii "+COPS:") a) = some plmn ∧ number 3 (textOf (ascii "+COPS:") a) = some netType := by
  rw [copsOf, Option.map_eq_some_iff] at h
  obtain ⟨v, hv, heq⟩ := h
  obtain ⟨cur, htext, hread⟩ := answered_eq_some.1 hv
  rw [htext]
  have hplaces := readCops_eq_some hread
  rwa [heq] at hplaces

theorem servingOf_eq_some {netType : Int} {s : Serving} {a : Answer} {info : CellInfo} {n : Int} {line : Option Line}
    (h : servingOf (cellTypeOf netType) s a = some ((info, n), line)) :
    (number 4 (cellText netType a)).getD 0 = n ∧ InInt n ∧ (n ≠ 0 → line = behind 5 (cellText netType a)) ∧
      info.code = some (s.mcc, s.mnc) ∧
      ∀ s', ∃ info', servingOf (cellTypeOf netType) s' a = some ((info', n), line) := by
  obtain ⟨cur, htext, hread⟩ := answered_eq_some.1 h
  obtain ⟨hn, hint, hline, hcode, hany⟩ := serving_eq_some s hread
  rw [cellText, htext]
  refine ⟨hn, hint, hline, hcode, fun s' => ?_⟩
  obtain ⟨info', hread'⟩ := hany s'
  exact ⟨info', answered_eq_some.2 ⟨cur, htext, hread'⟩⟩

/-- What was asked for comes out of every row exactly if the numeric is one and all groups fit. -/
theorem decoded_iff {answers : Nat → Answer} {plmn : Line} {netType : Int} {s : Serving} {info : CellInfo} {n : Int}
    {line : Option Line} {area : Int × Int} {infos : List CellInfo} (ril_nano_time : Nat)
    (hcops : copsOf (answers 0) = some (plmn, netType))
    (hserving : servingOf (cellTypeOf netType) s (answers 3) = some ((info, n), line)) (hn : 0 ≤ n)
    (hinfos : neighboursOf (cellTypeOf netType) (passes (cellTypeOf netType) n line) area line = some infos) :
    Decoded answers (servingRow (cellTypeOf netType) ril_nano_time s info ::
        (infos.map (neighbourRow (cellTypeOf netType)) ++ List.replicate (n.toNat - infos.length) .zero)) ↔
      DigitsOf plmn s.mcc s.mnc ∧ (loops (cellTypeOf netType) line = true ∨ n = 0) ∧
        ∀ k < n.toNat, GroupFits (cellTypeOf netType) (groupAt (cellTypeOf netType) k line) := by
  obtain ⟨hplmn, hnetType⟩ := copsOf_eq_some hcops
  obtain ⟨hnumber, -, hline, hcode, -⟩ := servingOf_eq_some hserving
  obtain ⟨hlen, hgroups⟩ := neighboursOf_eq_some hinfos
  have hle : infos.length ≤ n.toNat := by
    rw [hlen, passes]
    split
    · exact le_rfl
    · exact Nat.zero_le _
  constructor
  · rintro ⟨plmn', netType', hplmn', hnetType', n', hn', hcells, hfirst, hrest⟩
    cases hplmn.symm.trans hplmn'
    cases hnetType.symm.trans hnetType'
    have hsame : n'= n.toNat := by
      rw [hnumber] at hn'
      omega
    subst hsame
    obtain ⟨serving, mcc, mnc, hhead, hcode', hdigits⟩ := hfirst
    cases Option.some.inj hhead
    cases hcode.symm.trans hcode'
    have hloops : loops (cellTypeOf netType) line = true ∨ n = 0 := by
      by_contra hnot
      rw [not_or] at hnot
      obtain ⟨info', -, hcell⟩ := hrest 0 (by omega)
      have hnil : infos = [] := by
        rw [← List.length_eq_zero_iff, hlen, passes, if_neg hnot.1]
      rw [hnil, List.getElem?_cons_succ] at hcell
      have hzero : (List.replicate n.toNat RIL_CellInfo_v12.zero)[0]? = some .zero := by
        rw [List.getElem?_replicate, if_pos (by omega)]
      rw [List.map_nil, List.nil_append, List.length_nil, Nat.sub_zero, hzero] at hcell
      have hstamp := congrArg RIL_CellInfo_v12.timeStamp (Option.some.inj hcell)
      simp [RIL_CellInfo_v12.zero, neighbourRow, INT_MAX] at hstamp
    refine ⟨hdigits, hloops, fun k hk => ?_⟩
    have hpos : n ≠ 0 := by omega
    have hpasses : passes (cellTypeOf netType) n line = n.toNat := by
      rw [passes, if_pos (hloops.resolve_right hpos)]
    obtain ⟨info', hgroup, hcell⟩ := hrest k hk
    rw [← hline hpos] at hgroup
    rw [List.getElem?_cons_succ, List.getElem?_append_left (by rw [List.length_map]; omega), List.getElem?_map,
      Option.map_eq_some_iff] at hcell
    obtain ⟨info'', hinfo, hrow⟩ := hcell
    have hequal : info'' = info' := congrArg RIL_CellInfo_v12.CellInfo hrow
    rw [← hgroups k (by omega), hgroup, hinfo, hequal]
  · rintro ⟨hdigits, hloops, hfits⟩
    have hpasses : passes (cellTypeOf netType) n line = n.toNat := by
      rcases hloops with hloops | rfl
      · rw [passes, if_pos hloops]
      · rw [passes]
        split
        · rfl
        · rfl
    refine ⟨plmn, netType, hplmn, hnetType, n.toNat, by rw [hnumber]; omega, ?_,
      ⟨_, s.mcc, s.mnc, rfl, hcode, hdigits⟩, fun k hk => ?_⟩
    · simp
      omega
    · have hinfo := (hgroups k (by omega)).2 (hfits k hk)
      have hsome : infos[k]? = some infos[k] := List.getElem?_eq_getElem (by omega)
      refine ⟨infos[k], ?_, ?_⟩
      · rw [← hline (by omega), hinfo, hsome]
      · rw [List.getElem?_cons_succ, List.getElem?_append_left (by rw [List.length_map]; omega), List.getElem?_map,
          hsome, Option.map_some]

/-! ## All four answers -/

theorem plmnCode_of_numeric {plmn : Line} (h : Numeric plmn) (stale stale' : Uninitialised) :
    plmnCode stale plmn = plmnCode stale' plmn := by
  unfold plmnCode
  rcases h.1 with hlen | hlen
  · rw [if_pos hlen, if_pos hlen]
  · rw [if_neg (by omega), if_pos hlen, if_neg (by omega), if_pos hlen]

/-- The bit error rate of a row, if the technology has one. -/
def CellInfo.bitErrorRate : CellInfo → Option Int
  | .gsm _ s => some s.bitErrorRate
  | .wcdma _ s => some s.bitErrorRate
  | _ => none

theorem bitErrorRate_serving {cellType : RIL_CellInfoType} (hne : cellType ≠ .LTE) {s : Serving} {a : Answer}
    {ber : Int} (h2G : s.signals.biterr2G = ber) (h3G : s.signals.biterr3G = ber) {info : CellInfo} {n : Int}
    {line : Option Line} (h : servingOf cellType s a = some ((info, n), line)) : info.bitErrorRate = some ber := by
  obtain ⟨cur, -, hread⟩ := answered_eq_some.1 h
  unfold serving at hread
  split at hread
  · exact absurd rfl hne
  · obtain ⟨skip, sskip, arfcn, bsic, n, h0, h1, h2, h3, h4, heq⟩ := (servingGsm_eq_some s).1 hread
    cases heq
    exact congrArg some h2G
  · obtain ⟨skip, sskip, arfcn, h0, h1, h2, hrest⟩ := (servingWcdma_eq_some s).1 hread
    split at hrest
    · obtain ⟨psc, n, h3, h4, heq⟩ := hrest
      cases heq
      exact congrArg some h3G
    · cases hrest
      exact congrArg some h3G

theorem endsWell_report {t : RIL_Token} {answers : Nat → Answer} {log : List Event} {cells : List RIL_CellInfo_v12} :
    EndsWell t answers (log ++ [report t cells]) ↔ Decoded answers cells := by
  rw [EndsWell]
  simp only [List.getLast?_append, List.getLast?_singleton, Option.some_or, Option.some.injEq]
  constructor
  · rintro ⟨e, rfl, ⟨err, heq, hne⟩ | ⟨cells', heq, hcells⟩⟩
    · rw [report] at heq
      cases heq
    · rw [report, report, Event.RIL_onRequestComplete.injEq, Payload.records.injEq] at heq
      rwa [(List.map_inj_right fun _ _ h => row_injective h).1 heq.2.2]
  · intro hcells
    exact ⟨_, rfl, .inr ⟨cells, rfl, hcells⟩⟩

theorem cellsReported_of_refusal {s_isLTE : Bool} {ril_nano_time : Nat} {t : RIL_Token} {w : World γ} (log : List Event)
    (h : ∀ stale, transcript s_isLTE stale ril_nano_time t w.answers (w.allocates 0) = log ++ [refusal t]) :
    CellsReported s_isLTE ril_nano_time t w := by
  constructor
  · intro stale stale'
    rw [log_requestGetCellInfoList, log_requestGetCellInfoList, h, h]
  · intro stale
    rw [log_requestGetCellInfoList, h]
    refine ⟨refusal t, by simp, .inl ⟨.NO_NETWORK_FOUND, rfl, by decide⟩⟩

/-- What AT+CSQ or AT+CESQ gives is there for all values of `ber`, and is one of them if it was not set. -/
theorem signalsOf_stale {s_isLTE : Bool} {a : Answer} {signals : Signals} (h : signalsOf s_isLTE 0 a = some signals)
    (stale : Uninitialised) :
    ∃ signals', signalsOf s_isLTE stale.ber.toInt a = some signals' ∧
      if s_isLTE = true ∨ (field 1 (textOf (ascii "+CSQ:") a)).isSome = true then signals' = signals
      else signals'.biterr2G = stale.ber.toInt ∧ signals'.biterr3G = stale.ber.toInt := by
  cases s_isLTE with
  | true => exact ⟨signals, h, by simp⟩
  | false =>
    have hzero : InInt 0 := ⟨by decide, by decide⟩
    have hint : InInt stale.ber.toInt := ⟨stale.ber.le_toInt, stale.ber.toInt_lt⟩
    obtain ⟨rssi, rfl, hsignals⟩ := signalsOf_csq h hzero hint
    refine ⟨_, hsignals, ?_⟩
    rw [csqBer]
    cases field 1 (textOf (ascii "+CSQ:") a) with
    | none => simp [csqSignals]
    | some text => simp

theorem signalsOf_none {s_isLTE : Bool} {a : Answer} (h : signalsOf s_isLTE 0 a = none) (stale : Uninitialised) :
    signalsOf s_isLTE stale.ber.toInt a = none := by
  cases s_isLTE with
  | true => exact h
  | false =>
    cases hsignals : signalsOf false stale.ber.toInt a with
    | none => rfl
    | some signals =>
      have hzero : InInt 0 := ⟨by decide, by decide⟩
      have hint : InInt stale.ber.toInt := ⟨stale.ber.le_toInt, stale.ber.toInt_lt⟩
      obtain ⟨rssi, -, hsome⟩ := signalsOf_csq hsignals hint hzero
      cases h.symm.trans hsome

theorem cellsReported_read {s_isLTE : Bool} {w : World γ} {plmn : Line} {netType : Int} {registration : Registration}
    {signals : Signals} {s₀ : Serving} {info₀ : CellInfo} {n : Int} {line : Option Line} (ril_nano_time : Nat)
    (t : RIL_Token) (hcops : copsOf (w.answers 0) = some (plmn, netType))
    (hcreg : cregOf (cellTypeOf netType) (w.answers 1) = some registration)
    (hsignals : signalsOf s_isLTE 0 (w.answers 2) = some signals)
    (hserving : servingOf (cellTypeOf netType) s₀ (w.answers 3) = some ((info₀, n), line)) :
    CellsReported s_isLTE ril_nano_time t w ↔ CellsFit s_isLTE w plmn netType n line := by
  obtain ⟨-, hint, -, -, hany⟩ := servingOf_eq_some hserving
  choose sigs hsigs hber using signalsOf_stale hsignals
  choose infoOf hinfo using fun stale => hany (known stale plmn registration (sigs stale))
  have htranscript : ∃ sends cmd, ∀ stale, transcript s_isLTE stale ril_nano_time t w.answers (w.allocates 0) =
      (sends ++ [.at_send_command cmd]) ++
        ending (cellTypeOf netType) ril_nano_time t (known stale plmn registration (sigs stale)) (w.allocates 0)
          ((infoOf stale, n), line) := by
    refine ⟨[.at_send_command (ascii "AT+COPS?"), .at_send_command (registrationCommand (cellTypeOf netType)).1,
      .at_send_command (signalCommand s_isLTE).1], (cellCommand (cellTypeOf netType)).1, fun stale => ?_⟩
    simp [transcript, hcops, hcreg, hsigs, hinfo]
  obtain ⟨sends, cmd, htranscript⟩ := htranscript
  have hwrap (hn : n ≠ INT_MAX) : toInt (n + 1) = n + 1 := by
    have hlow := hint.1
    have hhigh := hint.2
    rw [INT_MAX] at hn
    exact toInt_of_range (by omega) (by omega)
  by_cases hroom : toInt (n + 1) < 0 ∨ w.allocates 0 = false
  · refine iff_of_true (cellsReported_of_refusal (sends ++ [.at_send_command cmd]) fun stale => ?_) fun hallocates => ?_
    · rw [htranscript, ending, if_pos hroom]
    · have hneg := hroom.resolve_right (by simp [hallocates])
      by_cases hmax : n = INT_MAX
      · rw [hmax]
        exact ⟨by decide, fun _ hlt => absurd hlt (lt_irrefl _)⟩
      · rw [hwrap hmax] at hneg
        exact ⟨by omega, fun hle => by omega⟩
  · rw [not_or, not_lt, Bool.not_eq_false] at hroom
    obtain ⟨hcount, hallocates⟩ := hroom
    have hmax : n ≠ INT_MAX := by
      rintro rfl
      exact absurd hcount (by decide)
    rw [hwrap hmax] at hcount
    by_cases hminus : n = -1
    · -- a store to the first row
      refine iff_of_false (fun h => ?_) fun h => (h hallocates).1 hminus
      obtain ⟨e, hlast, hends⟩ := h.2 ⟨0, 0, 0⟩
      have hzero : toInt (n + 1) = 0 := by rw [hminus]; rfl
      rw [log_requestGetCellInfoList, htranscript, ending, if_neg (by simp [hallocates, hzero]), if_pos hzero] at hlast
      simp at hlast
      subst hlast
      rcases hends with ⟨err, heq, -⟩ | ⟨cells, heq, -⟩
      · cases heq
      · cases heq
    · have hpos : ¬ toInt (n + 1) = 0 := by
        rw [hwrap hmax]
        omega
      cases hinfos : neighboursOf (cellTypeOf netType) (passes (cellTypeOf netType) n line)
        (registration.lac, registration.cid) line with
      | none =>
        refine iff_of_true (cellsReported_of_refusal (sends ++ [.at_send_command cmd]) fun stale => ?_)
          fun _ => ⟨hminus, fun _ _ hread => ?_⟩
        · rw [htranscript, ending, if_neg (by simp [hallocates, hwrap hmax, hcount]), if_neg hpos]
          simp only [known, hinfos, Option.elim_none]
        · have hsome := (isSome_neighboursOf _ _ (registration.lac, registration.cid) _).2 hread
          rw [hinfos] at hsome
          cases hsome
      | some infos =>
        have hreport (stale : Uninitialised) :
            (after (requestGetCellInfoList s_isLTE stale ril_nano_time t : Handler γ Empty Unit) w).log =
              (w.log ++ (sends ++ [.at_send_command cmd])) ++
                [report t (servingRow (cellTypeOf netType) ril_nano_time (known stale plmn registration (sigs stale))
                    (infoOf stale) ::
                  (infos.map (neighbourRow (cellTypeOf netType)) ++
                    List.replicate (n.toNat - infos.length) .zero))] := by
          rw [log_requestGetCellInfoList, htranscript, ending, if_neg (by simp [hallocates, hwrap hmax, hcount]),
            if_neg hpos]
          simp only [known, hinfos, Option.elim_some, List.append_assoc]
        have hdecoded (stale : Uninitialised) := decoded_iff ril_nano_time hcops (hinfo stale)
          (by omega) hinfos
        constructor
        · intro h _
          refine ⟨hminus, fun _ _ _ => ?_⟩
          have hends := h.2 ⟨0, 0, 0⟩
          rw [hreport, endsWell_report, hdecoded] at hends
          obtain ⟨hdigits, hloops, hfits⟩ := hends
          refine ⟨(digitsOf_plmnCode_iff _ plmn).1 hdigits, ?_, hloops, hfits⟩
          by_contra hnot
          rw [BerRead, ← or_assoc, or_right_comm, not_or] at hnot
          -- two values of `ber` give two reports
          have hrate (stale : Uninitialised) : (infoOf stale).bitErrorRate = some stale.ber.toInt := by
            have hstale := hber stale
            rw [if_neg hnot.1] at hstale
            exact bitErrorRate_serving hnot.2 hstale.1 hstale.2 (hinfo stale)
          have hsame := h.1 ⟨0, 0, 0⟩ ⟨0, 0, 1⟩
          rw [hreport, hreport, List.append_cancel_left_eq, List.cons.injEq, report, report,
            Event.RIL_onRequestComplete.injEq, Payload.records.injEq,
            List.map_inj_right fun _ _ h => row_injective h, List.cons.injEq] at hsame
          have hinfos := congrArg RIL_CellInfo_v12.CellInfo hsame.1.2.2.1
          have hrates := (hrate ⟨0, 0, 0⟩).symm.trans ((congrArg CellInfo.bitErrorRate hinfos).trans (hrate ⟨0, 0, 1⟩))
          exact absurd hrates (by decide)
        · intro h
          obtain ⟨-, h⟩ := h hallocates
          have hlt : n < INT_MAX := by
            have hhigh := hint.2
            rw [INT_MAX] at hmax ⊢
            omega
          have hgroups := (isSome_neighboursOf _ _ (registration.lac, registration.cid) _).1 (by rw [hinfos]; rfl)
          obtain ⟨hnumeric, hread, hloops, hfits⟩ := h (by omega) hlt hgroups
          constructor
          · intro stale stale'
            have hcode := plmnCode_of_numeric hnumeric stale stale'
            have hserved : servingOf (cellTypeOf netType) (known stale plmn registration (sigs stale)) (w.answers 3) =
                servingOf (cellTypeOf netType) (known stale' plmn registration (sigs stale')) (w.answers 3) := by
              by_cases hset : s_isLTE = true ∨ (field 1 (textOf (ascii "+CSQ:") (w.answers 2))).isSome = true
              · have hstale := hber stale
                have hstale' := hber stale'
                rw [if_pos hset] at hstale hstale'
                rw [known, known, hcode, hstale, hstale']
              · -- there is no bit error rate with LTE
                rw [BerRead, ← or_assoc, or_right_comm] at hread
                rw [hread.resolve_left hset, known, known, hcode]
                rfl
            have hsame : infoOf stale = infoOf stale' := by
              have hboth := (hinfo stale).symm.trans (hserved.trans (hinfo stale'))
              exact congrArg (fun r => r.1.1) (Option.some.inj hboth)
            rw [hreport, hreport, servingRow, servingRow, hsame]
            rfl
          · intro stale
            rw [hreport, endsWell_report, hdecoded]
            exact ⟨(digitsOf_plmnCode_iff stale plmn).2 hnumeric, hloops, hfits⟩

/-- **The cells are decoded** entry by entry exactly if the answers fit. -/
theorem cellsReported_iff (s_isLTE : Bool) (ril_nano_time : Nat) (t : RIL_Token) (w : World γ) :
    CellsReported s_isLTE ril_nano_time t w ↔ AnswersFit s_isLTE w := by
  cases hcops : copsOf (w.answers 0) with
  | none =>
    refine iff_of_true (cellsReported_of_refusal [_] fun stale => by simp [transcript, hcops]; rfl) ?_
    intro plmn netType registration signals s info n line hcops'
    cases hcops.symm.trans hcops'
  | some cops =>
    obtain ⟨plmn, netType⟩ := cops
    cases hcreg : cregOf (cellTypeOf netType) (w.answers 1) with
    | none =>
      refine iff_of_true
        (cellsReported_of_refusal [_, _] fun stale => by simp [transcript, hcops, hcreg]; exact ⟨rfl, rfl⟩) ?_
      intro plmn' netType' registration signals s info n line hcops' hcreg'
      cases hcops.symm.trans hcops'
      cases hcreg.symm.trans hcreg'
    | some registration =>
      cases hsignals : signalsOf s_isLTE 0 (w.answers 2) with
      | none =>
        refine iff_of_true (cellsReported_of_refusal [_, _, _] fun stale => by
          simp [transcript, hcops, hcreg, signalsOf_none hsignals stale]; exact ⟨rfl, rfl, rfl⟩) ?_
        intro plmn' netType' registration' signals s info n line hcops' hcreg' hsignals'
        cases hsignals.symm.trans hsignals'
      | some signals =>
        cases hserving : servingOf (cellTypeOf netType) (known ⟨0, 0, 0⟩ plmn registration signals) (w.answers 3) with
        | none =>
          have hnone (s : Serving) : servingOf (cellTypeOf netType) s (w.answers 3) = none := by
            cases hsome : servingOf (cellTypeOf netType) s (w.answers 3) with
            | none => rfl
            | some r =>
              obtain ⟨info, hinfo⟩ := (servingOf_eq_some hsome).2.2.2.2 (known ⟨0, 0, 0⟩ plmn registration signals)
              cases hserving.symm.trans hinfo
          have hread (stale : Uninitialised) :
              ∃ signals', signalsOf s_isLTE stale.ber.toInt (w.answers 2) = some signals' := by
            obtain ⟨signals', hsignals', -⟩ := signalsOf_stale hsignals stale
            exact ⟨signals', hsignals'⟩
          refine iff_of_true (cellsReported_of_refusal [_, _, _, _] fun stale => by
            obtain ⟨signals', hsignals'⟩ := hread stale
            simp [transcript, hcops, hcreg, hsignals', hnone]; exact ⟨rfl, rfl, rfl, rfl⟩) ?_
          intro plmn' netType' registration' signals' s info n line hcops' hcreg' hsignals' hserving'
          cases hcops.symm.trans hcops'
          cases (hnone s).symm.trans hserving'
        | some r =>
          obtain ⟨⟨info, n⟩, line⟩ := r
          rw [cellsReported_read ril_nano_time t hcops hcreg hsignals hserving]
          constructor
          · intro h plmn' netType' registration' signals' s info' n' line' hcops' hcreg' hsignals' hserving'
            cases hcops.symm.trans hcops'
            obtain ⟨info'', hinfo⟩ := (servingOf_eq_some hserving).2.2.2.2 s
            cases hinfo.symm.trans hserving'
            exact h
          · intro h
            exact h plmn netType registration signals _ info n line hcops hcreg hsignals hserving

def minusOneLines : List Line :=
  [ascii "+COPS: 0,2,\"46000\",7", ascii "+CEREG: 2,1,\"1A2B\",\"00C3D4E5\",7", ascii "+CESQ: 99,99,255,255,20,40",
    ascii "+SPQ4GNCELL: 1850,12,-9000,-800,-1"]

/-- A neighbour count of -1: there is no row for the serving cell. -/
theorem cellsReported_fails_minusOne :
    ¬ CellsReported true 0 (some 1)
      (.start (fun n => .response (ascii "OK") [minusOneLines.getD n []]) (fun _ => true) ()) := by
  intro h
  have hcops : copsOf (.response (ascii "OK") [minusOneLines.getD 0 []]) = some (ascii "46000", 7) := by
    decide
  obtain ⟨registration, hcreg⟩ := Option.isSome_iff_exists.1
    (show (cregOf (cellTypeOf 7) (.response (ascii "OK") [minusOneLines.getD 1 []])).isSome = true by decide)
  obtain ⟨signals, hsignals⟩ := Option.isSome_iff_exists.1
    (show (signalsOf true 0 (.response (ascii "OK") [minusOneLines.getD 2 []])).isSome = true by decide)
  have hcount : (servingOf (cellTypeOf 7) (known ⟨0, 0, 0⟩ [] ⟨0, 0, 0⟩ ⟨0, 0, 0, 0⟩)
      (.response (ascii "OK") [minusOneLines.getD 3 []])).map (fun r => r.1.2) = some (-1) := by
    decide
  obtain ⟨r, hserving, hminus⟩ := Option.map_eq_some_iff.1 hcount
  obtain ⟨⟨info, n⟩, line⟩ := r
  have hfit := (cellsReported_read 0 (some 1) hcops hcreg hsignals hserving).1 h rfl
  exact hfit.1 hminus

end UniRil.NetworkRequests
