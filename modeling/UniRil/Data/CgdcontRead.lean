import UniRil.Data.Cgdcont
import UniRil.Data.Setup

/-!
# The answer to AT+CGDCONT? (ril_data.c)

The modem does not know the addresses of an active context. They are put into its lines.
-/

namespace UniRil.Cgdcont

open AtTok
open UniRil.Command (ATResponse at_response_new)
open Data (findInBuf)

def MAX_AT_RESPONSE : Nat := 0x1000

/-- The cid, the type and the APN of a line. -/
def readContext (line : Line) : Option (Int × Line × Line) := do
  let cid := at_tok_nextint (at_tok_start (some line))
  let type := at_tok_nextstr cid.p_cur
  let apn := at_tok_nextstr type.p_cur
  let tmpCid ← cid.value
  let ip ← type.value
  let net ← apn.value
  pure (tmpCid, snprintf IP_ADDR_MAX ip, snprintf IP_ADDR_MAX net)

def contextText (tmpCid : Int) (ip net ipladdr dns1 dns2 : Line) : Line :=
  ascii "+CGDCONT:" ++ decimal tmpCid ++ ascii "," ++ quoted ip ++ ascii "," ++ quoted net ++ ascii "," ++
    quoted ipladdr ++ ascii ",0,0," ++ quoted dns1 ++ ascii "," ++ quoted dns2 ++ [CR]

/-- The line of a context. With DNS servers from the user, the address is that of the next entry. -/
def contextLine (pdp_info : Table) (tmpCid : Int) (ip net : Line) : Line :=
  let p := pdp_info (tmpCid - 1)
  if p.state = .ACTIVE then
    if p.manual_dns = 1 then
      contextText tmpCid ip net (pdp_info tmpCid).ipladdr p.userdns1addr p.userdns2addr
    else contextText tmpCid ip net p.ipladdr p.dns1addr p.dns2addr
  else contextText tmpCid ip net noDns noDns noDns

/-- What is in `atCmdStr` after a line. -/
def newLine (pdp_info : Table) (line : Line) : Line :=
  if findInBuf line (ascii "+CGDCONT") then
    match readContext line with
    | none => snprintf MAX_AT_RESPONSE line
    | some (tmpCid, ip, net) =>
      if tmpCid ≤ MAX_PDP_NUM then snprintf MAX_AT_RESPONSE (contextLine pdp_info tmpCid ip net)
      else snprintf MAX_AT_RESPONSE line
  else snprintf MAX_AT_RESPONSE line

def reWriteIntermediate (sp_response : ATResponse) (newLine : Line) : ATResponse :=
  { sp_response with p_intermediates := newLine :: sp_response.p_intermediates }

/-- The loop of `reverseNewIntermediates`. -/
def flipOver : List Line → List Line → List Line
  | [], p_intermediates => p_intermediates
  | pcur :: pnext, p_intermediates => flipOver pnext (pcur :: p_intermediates)

def reverseNewIntermediates (sp_response : ATResponse) : ATResponse :=
  { sp_response with p_intermediates := flipOver sp_response.p_intermediates [] }

/-- The new response, when there is one and a place for it. -/
def cgdcont_read_cmd_rsp (pdp_info : Table) (p_response : Option ATResponse) (pp_outResponse : Bool) :
    Option ATResponse :=
  match p_response with
  | none => none
  | some p_response =>
    let sp_response := p_response.p_intermediates.foldl
      (fun sp_response line => reWriteIntermediate sp_response (newLine pdp_info line)) at_response_new
    if pp_outResponse then some (reverseNewIntermediates sp_response) else none

/-! ## The lines -/

/-- A +CGDCONT line with a cid, a type and an APN. -/
def WellFormed (line : Line) : Prop := ascii "+CGDCONT:" <+: line ∧ (readContext line).isSome

/-- The cid and the address that a line gives. -/
def readAddress (line : Line) : Option (Int × Line) := do
  let cid := at_tok_nextint (at_tok_start (some line))
  let type := at_tok_nextstr cid.p_cur
  let apn := at_tok_nextstr type.p_cur
  let addr := at_tok_nextstr apn.p_cur
  let c ← cid.value
  let a ← addr.value
  pure (c, a)

/-- An entry of the table holds addresses of at most 15 characters. -/
structure Entries where
  pdp_info : Table
  fits : ∀ i, 0 ≤ i → i < MAX_PDP_NUM → (pdp_info i).ipladdr.length < IP_ADDR_SIZE

/-- What a line becomes: a line of an active context gives its address, and what is no such line stays. -/
structure KeptLine (pdp_info : Table) (line line' : Line) : Prop where
  copied : ¬ WellFormed line → line' = line
  addressed : WellFormed line → ∀ c ip net, readContext line = some (c, ip, net) → 1 ≤ c → c ≤ MAX_PDP_NUM →
    (pdp_info (c - 1)).state = .ACTIVE → readAddress line' = some (c, (pdp_info (c - 1)).ipladdr)

def KeepsShape (pdp_info : Table) (p_response : ATResponse) : Prop :=
  ∃ out, cgdcont_read_cmd_rsp pdp_info (some p_response) true = some out ∧
    List.Forall₂ (KeptLine pdp_info) p_response.p_intermediates out.p_intermediates

/-- A line that is rewritten although +CGDCONT is not its beginning. -/
def Garbled (line : Line) : Prop :=
  ¬ ascii "+CGDCONT:" <+: line ∧ findInBuf line (ascii "+CGDCONT") ∧
    ∃ context ∈ readContext line, context.1 ≤ MAX_PDP_NUM

/-- A text up to its first quote. -/
def unquoted (text : Line) : Line := text.takeWhile (· != 34)

/-- The entry whose address goes into the line of a cid. -/
def addressIndex (pdp_info : Table) (c : Int) : Int := if (pdp_info (c - 1)).manual_dns = 1 then c else c - 1

/-- Nothing goes wrong with the line: it fits the buffer, is not taken for another line, and the address of its context
is taken from the entry of that context. -/
structure Undisturbed (pdp_info : Table) (line : Line) : Prop where
  fits : ¬ WellFormed line → line.length < MAX_AT_RESPONSE
  begins : ¬ Garbled line
  address : WellFormed line → ∀ c ip net, readContext line = some (c, ip, net) → 1 ≤ c → c ≤ MAX_PDP_NUM →
    (pdp_info (c - 1)).state = .ACTIVE →
    unquoted (pdp_info (addressIndex pdp_info c)).ipladdr = (pdp_info (c - 1)).ipladdr

variable {pdp_info : Table} {p_response : ATResponse} {line text rest ip net : Line} {c : Int}

/-! ## The list -/

theorem flipOver_eq (lines acc : List Line) : flipOver lines acc = lines.reverse ++ acc := by
  induction lines generalizing acc with
  | nil => rfl
  | cons line lines ih => rw [flipOver, ih, List.reverse_cons, List.append_assoc, List.singleton_append]

/-- The lines come out in their order. -/
theorem cgdcont_read_lines (pdp_info : Table) (p_response : ATResponse) :
    cgdcont_read_cmd_rsp pdp_info (some p_response) true =
      some { at_response_new with p_intermediates := p_response.p_intermediates.map (newLine pdp_info) } := by
  have hpushed : ∀ (lines : List Line) (sp_response : ATResponse),
      lines.foldl (fun sp_response line => reWriteIntermediate sp_response (newLine pdp_info line)) sp_response =
        { sp_response with
          p_intermediates := (lines.map (newLine pdp_info)).reverse ++ sp_response.p_intermediates } := by
    intro lines
    induction lines with
    | nil => exact fun _ => rfl
    | cons line lines ih =>
      intro sp_response
      rw [List.foldl_cons, ih, reWriteIntermediate, List.map_cons, List.reverse_cons, List.append_assoc,
        List.singleton_append]
  unfold cgdcont_read_cmd_rsp
  dsimp only
  rw [if_pos rfl, hpushed, reverseNewIntermediates, flipOver_eq]
  simp [at_response_new]

/-! ## The fields of a new line -/

/-- A token has no quote, or no comma. -/
def IsToken (text : Line) : Prop := 34 ∉ text ∨ 44 ∉ text

theorem not_mem_takeWhile {b : Byte} (s : Line) : b ∉ s.takeWhile (· != b) := by
  intro hmem
  have := List.mem_takeWhile_imp hmem
  simp at this

theorem nextTok_isToken {p_cur cur : Option Line} (h : nextTok p_cur = (some text, cur)) : IsToken text := by
  unfold nextTok at h
  split at h
  · cases h
  · cases h
    exact .inl (not_mem_takeWhile _)
  · cases h
    exact .inr (not_mem_takeWhile _)

theorem nextstr_isToken {p_cur : Option Line} (h : (at_tok_nextstr p_cur).value = some text) : IsToken text := by
  unfold at_tok_nextstr at h
  split at h
  · cases h
  · rename_i htok
    cases h
    exact nextTok_isToken htok

theorem IsToken.snprintf (h : IsToken text) (size : Nat) : IsToken (snprintf size text) :=
  h.imp (fun hno hmem => hno (List.mem_of_mem_take hmem)) fun hno hmem => hno (List.mem_of_mem_take hmem)

theorem skipNextComma_append {pre : Line} (h : 44 ∉ pre) : skipNextComma (some (pre ++ 44 :: rest)) = some rest := by
  have hpos : ∀ c ∈ pre, (c != 44) = true := by
    intro c hc
    simpa using ne_of_mem_of_not_mem hc h
  rw [skipNextComma, Option.map_some, List.dropWhile_append_of_pos hpos]
  simp

/-- A field is read up to its first quote, and the next one starts behind the comma. -/
theorem nextstr_token (h : IsToken text) (rest : Line) :
    at_tok_nextstr (some (quoted text ++ 44 :: rest)) =
      { ok := true, p_out := some (unquoted text), p_cur := some rest } := by
  by_cases hquote : (34 : Byte) ∈ text
  · have hcomma : 44 ∉ text := h.resolve_left fun hno => hno hquote
    obtain ⟨pre, post, rfl, hpre⟩ := List.eq_append_cons_of_mem hquote
    have htext : unquoted (pre ++ 34 :: post) = pre := congrArg Prod.fst (strsep_append hpre (t := post))
    have hpost : 44 ∉ post ++ [34] := by
      simp only [List.mem_append, List.mem_cons, not_or] at hcomma
      simp [hcomma.2.2]
    have hskip : skipNextComma (some (post ++ [34] ++ 44 :: rest)) = some rest := skipNextComma_append hpost
    rw [quoted_append, List.append_assoc, List.cons_append, at_tok_nextstr_quoted hpre, htext]
    rw [List.append_assoc, List.singleton_append] at hskip
    rw [hskip]
  · have htext : unquoted text = text := by
      refine List.takeWhile_eq_self_iff.2 fun b hb => ?_
      simpa using ne_of_mem_of_not_mem hb hquote
    rw [nextstr_quoted hquote, htext]

/-- The field that is read last may be cut. -/
theorem nextstr_cut (s : Line) : (at_tok_nextstr (some (34 :: s))).value = some (unquoted s) := rfl

/-- What comes before the address. -/
def head (c : Int) (ip net : Line) : Line :=
  ascii "+CGDCONT:" ++ decimal c ++ ascii "," ++ quoted ip ++ ascii "," ++ quoted net ++ ascii ","

/-- The cid is read back, and the fields follow. -/
theorem nextint_head (hlow : -2 ^ 31 ≤ c) (hhigh : c < 2 ^ 31) (ip net s : Line) :
    at_tok_nextint (at_tok_start (some (head c ip net ++ 34 :: s))) =
      { ok := true, p_out := some c, p_cur := some (quoted ip ++ 44 :: (quoted net ++ 44 :: 34 :: s)) } := by
  have hname : ascii "+CGDCONT:" = ascii "+CGDCONT" ++ [58] := by decide
  have htext : head c ip net ++ 34 :: s = ascii "+CGDCONT" ++ 58 :: (decimal c ++ [] ++ 44 :: (quoted ip ++ 44 ::
      (quoted net ++ 44 :: 34 :: s))) := by
    rw [head, hname, comma_eq]
    simp only [List.append_assoc, List.cons_append, List.nil_append]
  have hstart : at_tok_start (some (head c ip net ++ 34 :: s)) = some (decimal c ++ [] ++ 44 :: (quoted ip ++ 44 ::
      (quoted net ++ 44 :: 34 :: s))) := by
    rw [htext]
    exact at_tok_flag_start_append (by decide) _
  rw [hstart, at_tok_nextint_decimal hlow hhigh (by simp) (by simp)]

theorem readAddress_head (hlow : -2 ^ 31 ≤ c) (hhigh : c < 2 ^ 31) (hip : IsToken ip) (hnet : IsToken net) (s : Line) :
    readAddress (head c ip net ++ 34 :: s) = some (c, unquoted s) := by
  unfold readAddress
  rw [nextint_head hlow hhigh]
  simp only [nextstr_token hip, nextstr_token hnet, nextstr_cut]
  rfl

theorem length_head (hlow : -2 ^ 31 ≤ c) (hhigh : c < 2 ^ 31) (hip : ip.length < IP_ADDR_MAX)
    (hnet : net.length < IP_ADDR_MAX) : (head c ip net).length < 300 := by
  have hquoted (t : Line) : (quoted t).length = t.length + 2 := by
    have hquote : (ascii "\"").length = 1 := by decide
    rw [quoted, List.length_append, List.length_append, hquote]
    omega
  have hcid : (decimal c).length ≤ 11 := length_decimal_le hlow hhigh
  have hname : (ascii "+CGDCONT:").length = 9 := by decide
  have hcomma : (ascii ",").length = 1 := by decide
  unfold IP_ADDR_MAX at hip hnet
  simp only [head, List.length_append, hquoted, hname, hcomma]
  omega

theorem unquoted_append (text tail : Line) : unquoted (text ++ 34 :: tail) = unquoted text := by
  unfold unquoted
  induction text with
  | nil => rfl
  | cons b text ih => rw [List.cons_append, List.takeWhile_cons, List.takeWhile_cons, ih]

theorem take_eq_iff {s t : Line} {m : Nat} (h : t.length < m) : s.take m = t ↔ s = t := by
  constructor
  · rintro rfl
    rw [List.length_take] at h
    exact (List.take_of_length_le (by omega)).symm
  · rintro rfl
    exact List.take_of_length_le (by omega)

/-- The buffer cuts a line behind its third quote at the earliest. -/
theorem contextText_cut (hlow : -2 ^ 31 ≤ c) (hhigh : c < 2 ^ 31) (hip : ip.length < IP_ADDR_MAX)
    (hnet : net.length < IP_ADDR_MAX) (ipladdr dns1 dns2 : Line) :
    ∃ tail m, IP_ADDR_SIZE ≤ m ∧ snprintf MAX_AT_RESPONSE (contextText c ip net ipladdr dns1 dns2) =
      head c ip net ++ 34 :: (ipladdr ++ 34 :: tail).take m := by
  have hlength := length_head hlow hhigh hip hnet
  obtain ⟨tail, htext⟩ : ∃ tail, contextText c ip net ipladdr dns1 dns2 =
      head c ip net ++ 34 :: (ipladdr ++ 34 :: tail) := by
    refine ⟨ascii ",0,0," ++ quoted dns1 ++ ascii "," ++ quoted dns2 ++ [CR], ?_⟩
    rw [← quoted_append, contextText, head]
    simp only [List.append_assoc]
  obtain ⟨m, hm⟩ : ∃ m, MAX_AT_RESPONSE - 1 - (head c ip net).length = m + 1 :=
    ⟨MAX_AT_RESPONSE - 1 - (head c ip net).length - 1, by unfold MAX_AT_RESPONSE; omega⟩
  refine ⟨tail, m, ?_, ?_⟩
  · unfold MAX_AT_RESPONSE at hm
    unfold IP_ADDR_SIZE
    omega
  · rw [htext, snprintf, List.take_append, List.take_of_length_le (by unfold MAX_AT_RESPONSE; omega), hm,
      List.take_succ_cons]

/-- So the address is in it, if it is short. -/
theorem readAddress_contextText (hlow : -2 ^ 31 ≤ c) (hhigh : c < 2 ^ 31) (hip : IsToken ip ∧ ip.length < IP_ADDR_MAX)
    (hnet : IsToken net ∧ net.length < IP_ADDR_MAX) {ipladdr dns1 dns2 : Line} (ht : text.length < IP_ADDR_SIZE) :
    readAddress (snprintf MAX_AT_RESPONSE (contextText c ip net ipladdr dns1 dns2)) = some (c, text) ↔
      unquoted ipladdr = text := by
  obtain ⟨tail, m, hm, hcut⟩ := contextText_cut hlow hhigh hip.2 hnet.2 ipladdr dns1 dns2
  have hread : unquoted ((ipladdr ++ 34 :: tail).take m) = (unquoted ipladdr).take m := by
    rw [← unquoted_append ipladdr tail, unquoted, unquoted, List.take_takeWhile]
  rw [hcut, readAddress_head hlow hhigh hip.1 hnet.1, hread, Option.some.injEq, Prod.mk.injEq]
  exact (and_iff_right rfl).trans (take_eq_iff (ht.trans_le hm))

/-! ## One line -/

theorem readContext_isToken (h : readContext line = some (c, ip, net)) :
    (IsToken ip ∧ ip.length < IP_ADDR_MAX) ∧ (IsToken net ∧ net.length < IP_ADDR_MAX) := by
  have hshort (t : Line) : (snprintf IP_ADDR_MAX t).length < IP_ADDR_MAX := by
    rw [snprintf, List.length_take]
    unfold IP_ADDR_MAX
    omega
  simp only [readContext, Option.bind_eq_bind, Option.bind_eq_some_iff, Option.pure_def, Option.some.injEq,
    Prod.mk.injEq] at h
  obtain ⟨_, -, type, htype, apn, hapn, rfl, rfl, rfl⟩ := h
  exact ⟨⟨(nextstr_isToken htype).snprintf _, hshort _⟩, (nextstr_isToken hapn).snprintf _, hshort _⟩

theorem readContext_range (h : readContext line = some (c, ip, net)) : -2 ^ 31 ≤ c ∧ c < 2 ^ 31 := by
  simp only [readContext, Option.bind_eq_bind, Option.bind_eq_some_iff, Option.pure_def, Option.some.injEq,
    Prod.mk.injEq] at h
  obtain ⟨_, hcid, _, -, _, -, rfl, -, -⟩ := h
  obtain ⟨-, hnone⟩ | ⟨v, -, -, hv, hrange⟩ := at_tok_nextint_cases (at_tok_start (some line))
  · cases hnone.symm.trans hcid
  · obtain rfl := Option.some.inj (hv.symm.trans hcid)
    exact hrange

theorem findInBuf_begins (h : ascii "+CGDCONT:" <+: line) : findInBuf line (ascii "+CGDCONT") = true := by
  have hgo : ∀ (needle s buf : Line), s ≠ [] → s <+: buf → findInBuf.go needle s buf = true := by
    intro needle s buf hs hbegins
    induction s generalizing buf with
    | nil => exact (hs rfl).elim
    | cons b s ih =>
      cases buf with
      | nil => cases List.prefix_nil.1 hbegins
      | cons b' buf =>
        rw [List.cons_prefix_cons] at hbegins
        rw [findInBuf.go, if_pos hbegins.1]
        cases s with
        | nil => rfl
        | cons b s => rw [ih buf (List.cons_ne_nil b s) hbegins.2, Bool.or_true]
  have hname : ascii "+CGDCONT" <+: line := List.IsPrefix.trans (by decide) h
  rw [findInBuf, hgo _ _ _ (by decide) hname, Bool.or_true]

theorem snprintf_eq_self {size : Nat} (hsize : 0 < size) : snprintf size line = line ↔ line.length < size := by
  constructor
  · intro heq
    have hlength := congrArg List.length heq
    rw [snprintf, List.length_take] at hlength
    omega
  · exact snprintf_of_lt

theorem prefix_contextLine (pdp_info : Table) (c : Int) (ip net : Line) :
    ascii "+CGDCONT:" <+: snprintf MAX_AT_RESPONSE (contextLine pdp_info c ip net) := by
  have htext (ipladdr dns1 dns2 : Line) : ascii "+CGDCONT:" <+: contextText c ip net ipladdr dns1 dns2 := by
    simp only [contextText, List.append_assoc]
    exact List.prefix_append _ _
  have hline : ascii "+CGDCONT:" <+: contextLine pdp_info c ip net := by
    unfold contextLine
    dsimp only
    split
    · split
      · exact htext _ _ _
      · exact htext _ _ _
    · exact htext _ _ _
  have hlength : (ascii "+CGDCONT:").length ≤ MAX_AT_RESPONSE - 1 := by decide
  exact List.prefix_take_iff.2 ⟨hline, hlength⟩

/-- What is no +CGDCONT line is copied, if it fits the buffer and is not taken for one. -/
theorem newLine_eq_self (h : ¬ WellFormed line) :
    newLine pdp_info line = line ↔ line.length < MAX_AT_RESPONSE ∧ ¬ Garbled line := by
  have hcopy : snprintf MAX_AT_RESPONSE line = line ↔ line.length < MAX_AT_RESPONSE := snprintf_eq_self (by decide)
  unfold newLine
  by_cases hfound : findInBuf line (ascii "+CGDCONT") = true
  · rw [if_pos hfound]
    cases hread : readContext line with
    | none =>
      have hno : ¬ Garbled line := by
        rintro ⟨-, -, context, hcontext, -⟩
        rw [hread] at hcontext
        cases hcontext
      exact hcopy.trans (and_iff_left hno).symm
    | some context =>
      obtain ⟨c, ip, net⟩ := context
      dsimp only
      have hbegins : ¬ ascii "+CGDCONT:" <+: line := fun hbegins => h ⟨hbegins, by rw [hread]; rfl⟩
      by_cases hc : c ≤ MAX_PDP_NUM
      · rw [if_pos hc]
        refine iff_of_false (fun heq => hbegins (heq ▸ prefix_contextLine pdp_info c ip net)) fun hgood => ?_
        exact hgood.2 ⟨hbegins, hfound, (c, ip, net), hread, hc⟩
      · rw [if_neg hc]
        have hno : ¬ Garbled line := by
          rintro ⟨-, -, context, hcontext, hle⟩
          rw [hread] at hcontext
          obtain rfl := Option.some.inj hcontext
          exact hc hle
        exact hcopy.trans (and_iff_left hno).symm
  · rw [if_neg hfound]
    exact hcopy.trans (and_iff_left fun hgarbled => hfound hgarbled.2.1).symm

/-- The line of an active context gives the address of the entry that it is taken from. -/
theorem readAddress_newLine (hbegins : ascii "+CGDCONT:" <+: line) (hread : readContext line = some (c, ip, net))
    (hhigh : c ≤ MAX_PDP_NUM) (hactive : (pdp_info (c - 1)).state = .ACTIVE)
    (ht : text.length < IP_ADDR_SIZE) :
    readAddress (newLine pdp_info line) = some (c, text) ↔
      unquoted (pdp_info (addressIndex pdp_info c)).ipladdr = text := by
  obtain ⟨hip, hnet⟩ := readContext_isToken hread
  obtain ⟨hlow', hhigh'⟩ := readContext_range hread
  unfold newLine
  rw [if_pos (findInBuf_begins hbegins), hread]
  dsimp only
  rw [if_pos hhigh, contextLine, if_pos hactive]
  unfold addressIndex
  by_cases hmanual : (pdp_info (c - 1)).manual_dns = 1
  · rw [if_pos hmanual, if_pos hmanual]
    exact readAddress_contextText hlow' hhigh' hip hnet ht
  · rw [if_neg hmanual, if_neg hmanual]
    exact readAddress_contextText hlow' hhigh' hip hnet ht

theorem keptLine_iff (t : Entries) :
    KeptLine t.pdp_info line (newLine t.pdp_info line) ↔ Undisturbed t.pdp_info line := by
  have hread : ∀ {c ip net}, WellFormed line → readContext line = some (c, ip, net) → 1 ≤ c → c ≤ MAX_PDP_NUM →
      (t.pdp_info (c - 1)).state = .ACTIVE →
      (readAddress (newLine t.pdp_info line) = some (c, (t.pdp_info (c - 1)).ipladdr) ↔
        unquoted (t.pdp_info (addressIndex t.pdp_info c)).ipladdr = (t.pdp_info (c - 1)).ipladdr) := by
    intro c ip net hline hcontext hlow hhigh hactive
    have hfits := t.fits (c - 1) (by omega) (by omega)
    exact readAddress_newLine hline.1 hcontext hhigh hactive hfits
  constructor
  · intro h
    refine ⟨fun hline => ((newLine_eq_self hline).1 (h.copied hline)).1, fun hgarbled => ?_, ?_⟩
    · have hline : ¬ WellFormed line := fun hline => hgarbled.1 hline.1
      exact ((newLine_eq_self hline).1 (h.copied hline)).2 hgarbled
    · intro hline c ip net hcontext hlow hhigh hactive
      exact (hread hline hcontext hlow hhigh hactive).1 (h.addressed hline c ip net hcontext hlow hhigh hactive)
  · intro h
    refine ⟨fun hline => (newLine_eq_self hline).2 ⟨h.fits hline, h.begins⟩, ?_⟩
    intro hline c ip net hcontext hlow hhigh hactive
    exact (hread hline hcontext hlow hhigh hactive).2 (h.address hline c ip net hcontext hlow hhigh hactive)

/-- **When the answer to AT+CGDCONT? keeps its shape and gives each context its own address.** -/
theorem keepsShape_iff (t : Entries) (p_response : ATResponse) :
    KeepsShape t.pdp_info p_response ↔ ∀ line ∈ p_response.p_intermediates, Undisturbed t.pdp_info line := by
  have hlines : KeepsShape t.pdp_info p_response ↔
      ∀ line ∈ p_response.p_intermediates, KeptLine t.pdp_info line (newLine t.pdp_info line) := by
    unfold KeepsShape
    rw [cgdcont_read_lines]
    simp only [Option.some.injEq, exists_eq_left', List.forall₂_map_right_iff, List.forall₂_same]
  rw [hlines]
  exact forall₂_congr fun _ _ => keptLine_iff t

/-! ## The list of data calls -/

theorem readContext_head (hlow : -2 ^ 31 ≤ c) (hhigh : c < 2 ^ 31) (hip : IsToken ip) (hnet : IsToken net) (s : Line) :
    ∃ ip' net', readContext (head c ip net ++ 34 :: s) = some (c, ip', net') := by
  unfold readContext
  rw [nextint_head hlow hhigh]
  simp only [nextstr_token hip, nextstr_token hnet]
  exact ⟨_, _, rfl⟩

theorem contextLine_cut (hlow : -2 ^ 31 ≤ c) (hhigh : c < 2 ^ 31) (hip : ip.length < IP_ADDR_MAX)
    (hnet : net.length < IP_ADDR_MAX) :
    ∃ s, snprintf MAX_AT_RESPONSE (contextLine pdp_info c ip net) = head c ip net ++ 34 :: s := by
  have hcut (ipladdr dns1 dns2 : Line) :
      ∃ s, snprintf MAX_AT_RESPONSE (contextText c ip net ipladdr dns1 dns2) = head c ip net ++ 34 :: s := by
    obtain ⟨tail, m, -, heq⟩ := contextText_cut hlow hhigh hip hnet ipladdr dns1 dns2
    exact ⟨_, heq⟩
  unfold contextLine
  dsimp only
  split
  · split
    · exact hcut _ _ _
    · exact hcut _ _ _
  · exact hcut _ _ _

/-- An entry of the list is made from the cid alone, once the type and the APN are there. -/
theorem cgdcontEntry_read {g : Data.Shared} {n : Nat} {cid : Int} {hasToken idle : Bool}
    {responses : Int → Data.DataCall} {line' ip' net' : Line} (h : readContext line = some (c, ip, net))
    (h' : readContext line' = some (c, ip', net')) :
    Data.cgdcontEntry g n cid hasToken idle responses line =
      Data.cgdcontEntry g n cid hasToken idle responses line' := by
  simp only [readContext, Option.bind_eq_bind, Option.bind_eq_some_iff, Option.pure_def, Option.some.injEq,
    Prod.mk.injEq] at h h'
  obtain ⟨_, hcid, _, htype, _, hapn, rfl, -, -⟩ := h
  obtain ⟨_, hcid', _, htype', _, hapn', rfl, -, -⟩ := h'
  simp only [Data.cgdcontEntry, hcid, htype, hapn, hcid', htype', hapn']
  rfl

/-- The list of data calls reads the new line as it would read the old one. -/
theorem cgdcontEntry_newLine {g : Data.Shared} {n : Nat} {cid : Int} {hasToken idle : Bool}
    {responses : Int → Data.DataCall} (hfits : line.length < MAX_AT_RESPONSE) :
    Data.cgdcontEntry g n cid hasToken idle responses (newLine pdp_info line) =
      Data.cgdcontEntry g n cid hasToken idle responses line := by
  have hcopy : snprintf MAX_AT_RESPONSE line = line := snprintf_of_lt hfits
  unfold newLine
  split
  · split
    · rw [hcopy]
    · rename_i c ip net hread
      split
      · obtain ⟨hip, hnet⟩ := readContext_isToken hread
        have hrange := readContext_range hread
        obtain ⟨s, hcut⟩ := @contextLine_cut pdp_info ip net c hrange.1 hrange.2 hip.2 hnet.2
        obtain ⟨ip', net', hread'⟩ := readContext_head hrange.1 hrange.2 hip.1 hnet.1 s
        rw [hcut]
        exact (cgdcontEntry_read hread hread').symm
      · rw [hcopy]
  · rw [hcopy]

/-! ### A context with DNS servers of its own -/

/-- The contexts 1 and 2 are active, and the user has set the servers of the first. -/
def ownServers : Entries where
  pdp_info i :=
    if i = 0 then
      { Table.reset 0 with
        ipladdr := ascii "10.0.0.1", userdns1addr := ascii "8.8.8.8", state := .ACTIVE, manual_dns := 1 }
    else if i = 1 then { Table.reset 1 with ipladdr := ascii "10.0.0.2", state := .ACTIVE }
    else Table.reset i
  fits i _ _ := by
    split
    · decide
    · split
      · decide
      · exact Nat.zero_lt_succ 15

def firstContext : Line := ascii "+CGDCONT:1,\"IP\",\"cmnet\""

theorem keepsShape_fails_ownServers :
    ¬ KeepsShape ownServers.pdp_info { at_response_new with p_intermediates := [firstContext] } := by
  rintro ⟨out, hout, hkept⟩
  have hread : readContext firstContext = some (1, ascii "IP", ascii "cmnet") := by decide
  have hother : readAddress (newLine ownServers.pdp_info firstContext) = some (1, ascii "10.0.0.2") := by
    decide
  have hwrong : ascii "10.0.0.2" ≠ ascii "10.0.0.1" := by decide
  rw [cgdcont_read_lines] at hout
  obtain rfl := Option.some.inj hout
  have hline := (List.forall₂_cons.1 hkept).1
  have hwellFormed : WellFormed firstContext := ⟨by decide, by rw [hread]; rfl⟩
  have hown := hline.addressed hwellFormed _ _ _ hread (by decide) (by decide) rfl
  rw [hother] at hown
  exact hwrong (congrArg Prod.snd (Option.some.inj hown))

end UniRil.Cgdcont
