import UniRil.AsyncCmd.Code
import UniRil.Data.State
import UniRil.Decimal

/-!
# Rewriting of AT+CGDCONT= (ril_data.c)

The modem is not told the DNS servers of a context. They are taken out of the command and kept in `pdp_info`.
-/

namespace UniRil.Cgdcont

open AtTok
open AsyncCmd (strncaseeq)
open Data (PDP_STATE)

def AT_RESULT_OK : Int := 0
def AT_RESULT_NG : Int := -1
def IP_ADDR_MAX : Nat := 128
def IP_ADDR_SIZE : Nat := 16
def MAX_PDP_NUM : Int := 12
def AT_COMMAND_LEN : Nat := 128

/-- A buffer of `size` bytes that holds a string ends it with a NUL. -/
def snprintf (size : Nat) (text : Line) : Line := text.take (size - 1)

/-- What the commands and the answers for AT+CGDCONT use of an entry. -/
structure PDP_INFO where
  dns1addr : Line
  dns2addr : Line
  userdns1addr : Line
  userdns2addr : Line
  ipladdr : Line
  state : PDP_STATE
  manual_dns : Int

/-- `pdp_info`, with what lies around it. -/
abbrev Table := Int → PDP_INFO

/-- The entry of a cid. Only a cid that is too large is noticed. -/
def Table.set (pdp_info : Table) (tmpCid : Int) (f : PDP_INFO → PDP_INFO) : Table :=
  if tmpCid ≤ MAX_PDP_NUM then Function.update pdp_info (tmpCid - 1) (f (pdp_info (tmpCid - 1))) else pdp_info

/-- After a reset of the modem. -/
def Table.reset : Table := fun _ =>
  { dns1addr := [], dns2addr := [], userdns1addr := [], userdns2addr := [], ipladdr := [], state := .IDLE
    manual_dns := 0 }

def noDns : Line := ascii "0.0.0.0"

/-- The next `n` strings, as far as there are any, and what is left when all of them are there. -/
def nextStrs : Nat → Option Line → List Line × Option (Option Line)
  | 0, input => ([], some input)
  | n + 1, input =>
    let out := at_tok_nextstr input
    match out.value with
    | none => ([], none)
    | some text =>
      let more := nextStrs n out.p_cur
      (snprintf IP_ADDR_MAX text :: more.1, more.2)

/-- The DNS servers behind the other fields. -/
def storeDns (pdp_info : Table) (tmpCid : Int) (input : Option Line) : Table :=
  let pdp_info := pdp_info.set tmpCid fun p => { p with userdns1addr := noDns, userdns2addr := noDns, manual_dns := 0 }
  let dns1 := at_tok_nextstr input
  match dns1.value with
  | none => pdp_info
  | some out =>
    let pdp_info :=
      if out ≠ [] then pdp_info.set tmpCid fun p => { p with userdns1addr := out.take (IP_ADDR_SIZE - 1) }
      else pdp_info
    let dns2 := at_tok_nextstr dns1.p_cur
    match dns2.value with
    | none => pdp_info
    | some out =>
      if out ≠ [] then pdp_info.set tmpCid fun p => { p with userdns2addr := out.take (IP_ADDR_SIZE - 1) }
      else pdp_info

/-- At `exit`. -/
def markManual (pdp_info : Table) (tmpCid : Int) : Table :=
  pdp_info.set tmpCid fun p =>
    if strncaseeq p.userdns1addr noDns noDns.length then p else { p with manual_dns := 1 }

def quoted (text : Line) : Line := ascii "\"" ++ text ++ ascii "\""

/-- The fields are those before the DNS servers; one that was not read is empty. -/
def newText (tmpCid : Int) (fields : List Line) : Line :=
  ascii "AT+CGDCONT=" ++ decimal tmpCid ++ ascii "," ++ quoted (fields.getD 0 []) ++ ascii "," ++
    quoted (fields.getD 1 []) ++ ascii "," ++ quoted (fields.getD 2 []) ++ ascii "," ++ fields.getD 3 [] ++
    ascii "," ++ fields.getD 4 [] ++ [CR]

/-- What a call leaves: its result, the text in `newCmd` and the table. -/
structure Request where
  ret : Int
  newCmd : Option Line
  pdp_info : Table

def cgdcont_set_cmd_req (pdp_info : Table) (cmd newCmd : Option Line) : Request :=
  let error : Request := { ret := AT_RESULT_NG, newCmd, pdp_info }
  if cmd.isNone ∨ newCmd.isNone then error
  else
    let cid := at_tok_nextint (at_tok_flag_start cmd 61)
    match cid.value with
    | none => error
    | some tmpCid =>
      let fields := nextStrs 5 cid.p_cur
      let pdp_info :=
        match fields.2 with
        | none => pdp_info
        | some input => storeDns pdp_info tmpCid input
      { ret := AT_RESULT_OK
        newCmd := some (snprintf AT_COMMAND_LEN (newText tmpCid fields.1))
        pdp_info := markManual pdp_info tmpCid }

/-! ## Commands -/

/-- The arguments of AT+CGDCONT=. The DNS servers come last, and the second one only behind the first. -/
structure Command where
  cid : Int
  type : Line
  apn : Line
  addr : Line
  d : Line
  h : Line
  dns : Option (Line × Option Line)

abbrev IsText (text : Line) : Prop := 34 ∉ text

abbrev IsUnsigned (text : Line) : Prop := text ≠ [] ∧ ∀ c ∈ text, isdigit c = true

structure Command.WellFormed (c : Command) : Prop where
  cid : 1 ≤ c.cid ∧ c.cid ≤ MAX_PDP_NUM
  type : IsText c.type ∧ c.type.length < IP_ADDR_MAX
  apn : IsText c.apn ∧ c.apn.length < IP_ADDR_MAX
  addr : IsText c.addr ∧ c.addr.length < IP_ADDR_MAX
  d : IsUnsigned c.d
  h : IsUnsigned c.h
  dns : ∀ dns1 dns2, c.dns = some (dns1, dns2) → IsText dns1 ∧ ∀ dns ∈ dns2, IsText dns

/-- The command up to the field `h`. -/
def Command.head (c : Command) : Line :=
  ascii "AT+CGDCONT=" ++ decimal c.cid ++ ascii "," ++ quoted c.type ++ ascii "," ++ quoted c.apn ++ ascii "," ++
    quoted c.addr ++ ascii "," ++ c.d ++ ascii "," ++ c.h

/-- The fields of the DNS servers. -/
def Command.tail (c : Command) : Line :=
  match c.dns with
  | none => []
  | some (dns1, none) => ascii "," ++ quoted dns1
  | some (dns1, some dns2) => ascii "," ++ quoted dns1 ++ ascii "," ++ quoted dns2

def Command.text (c : Command) : Line := c.head ++ c.tail

/-- The command for the modem. -/
def Command.rewritten (c : Command) : Line := c.head ++ [CR]

/-- A server that is absent is as an empty one. -/
def Command.dns1 (c : Command) : Line := (c.dns.map (·.1)).getD []

def Command.dns2 (c : Command) : Line := (c.dns.bind (·.2)).getD []

/-- What is kept of a server. -/
def kept (dns : Line) : Line := if dns = [] then noDns else dns.take 15

/-- The entry of the context after the command. -/
def Command.entry (c : Command) (p : PDP_INFO) : PDP_INFO :=
  { p with
    userdns1addr := kept c.dns1
    userdns2addr := kept c.dns2
    manual_dns := if c.dns1 ≠ [] ∧ ¬ noDns <+: c.dns1 then 1 else 0 }

variable {c : Command} {text rest : Line} {pdp_info : Table} {tmpCid : Int} {n : Nat}

/-! ## The fields -/

theorem comma_eq : ascii "," = [44] := by decide

theorem quoted_append (text rest : Line) : quoted text ++ rest = 34 :: (text ++ 34 :: rest) := by
  have hquote : ascii "\"" = [34] := by decide
  rw [quoted, hquote, List.append_assoc, List.append_assoc]
  rfl

theorem snprintf_of_lt {size : Nat} (h : text.length < size) : snprintf size text = text :=
  List.take_of_length_le (by omega)

theorem IsUnsigned.plain (h : IsUnsigned text) : Plain text := by
  have hchar {c : Byte} (hc : c ∈ text) : isspace c = false ∧ c ≠ 34 ∧ c ≠ 44 := by
    have hdigit := h.2 c hc
    refine ⟨(digit_first hdigit).1, ?_, ?_⟩
    · rintro rfl
      exact absurd hdigit (by decide)
    · rintro rfl
      exact absurd hdigit (by decide)
  constructor
  · intro c hc
    have hmem := hchar (List.mem_of_mem_head? hc)
    exact ⟨hmem.1, hmem.2.1⟩
  · exact fun hc => (hchar hc).2.2 rfl

theorem nextstr_quoted (h : IsText text) (rest : Line) :
    at_tok_nextstr (some (quoted text ++ 44 :: rest)) = { ok := true, p_out := some text, p_cur := some rest } := by
  rw [quoted_append, at_tok_nextstr_quoted h]
  rfl

/-- Behind the last quote there is an empty string. -/
theorem nextstr_quoted_end (h : IsText text) :
    at_tok_nextstr (some (quoted text)) = { ok := true, p_out := some text, p_cur := some [] } := by
  have hquoted := quoted_append text []
  rw [List.append_nil] at hquoted
  rw [hquoted, at_tok_nextstr_quoted h]
  rfl

theorem nextstr_plain (h : Plain text) (rest : Line) :
    at_tok_nextstr (some (text ++ 44 :: rest)) = { ok := true, p_out := some text, p_cur := some rest } := by
  rw [at_tok_nextstr, nextTok_comma h]

theorem nextstr_plain_end (h : Plain text) :
    at_tok_nextstr (some text) = { ok := true, p_out := some text, p_cur := none } := by
  rw [at_tok_nextstr, nextTok_end h]

theorem nextStrs_succ {input cur : Option Line}
    (h : at_tok_nextstr input = { ok := true, p_out := some text, p_cur := cur }) (hlen : text.length < IP_ADDR_MAX) :
    nextStrs (n + 1) input = (text :: (nextStrs n cur).1, (nextStrs n cur).2) := by
  rw [nextStrs, h]
  simp only [Tok.value, if_true, snprintf_of_lt hlen]

/-- What is there for the strings behind the field `h`. -/
def Command.servers (c : Command) : Option Line :=
  match c.dns with
  | none => none
  | some (dns1, none) => some (quoted dns1)
  | some (dns1, some dns2) => some (quoted dns1 ++ 44 :: quoted dns2)

theorem Command.WellFormed.nextstr_h (h : c.WellFormed) :
    at_tok_nextstr (some (c.h ++ c.tail)) = { ok := true, p_out := some c.h, p_cur := c.servers } := by
  have hplain := h.h.plain
  unfold Command.tail Command.servers
  split
  · rw [List.append_nil, nextstr_plain_end hplain]
  · rw [comma_eq]
    exact nextstr_plain hplain _
  · rw [comma_eq, List.append_assoc, List.append_assoc]
    exact nextstr_plain hplain _

theorem Command.text_eq (c : Command) :
    c.text = ascii "AT+CGDCONT" ++ 61 :: (decimal c.cid ++ 44 :: (quoted c.type ++ 44 :: (quoted c.apn ++ 44 ::
      (quoted c.addr ++ 44 :: (c.d ++ 44 :: (c.h ++ c.tail)))))) := by
  have hname : ascii "AT+CGDCONT=" = ascii "AT+CGDCONT" ++ [61] := by decide
  rw [Command.text, Command.head, hname, comma_eq]
  simp only [List.append_assoc, List.cons_append, List.nil_append]

/-- The numerals fit as the command does. -/
theorem Command.length_lt (hfits : c.rewritten.length < AT_COMMAND_LEN) :
    c.d.length < IP_ADDR_MAX ∧ c.h.length < IP_ADDR_MAX := by
  simp only [Command.rewritten, Command.head, List.length_append, AT_COMMAND_LEN] at hfits
  unfold IP_ADDR_MAX
  omega

/-- All the fields are read. -/
theorem Command.WellFormed.nextStrs (h : c.WellFormed) (hfits : c.rewritten.length < AT_COMMAND_LEN) :
    nextStrs 5 (some (quoted c.type ++ 44 :: (quoted c.apn ++ 44 :: (quoted c.addr ++ 44 :: (c.d ++ 44 ::
      (c.h ++ c.tail)))))) = ([c.type, c.apn, c.addr, c.d, c.h], some c.servers) := by
  obtain ⟨hd, hh⟩ := Command.length_lt hfits
  rw [nextStrs_succ (nextstr_quoted h.type.1 _) h.type.2, nextStrs_succ (nextstr_quoted h.apn.1 _) h.apn.2,
    nextStrs_succ (nextstr_quoted h.addr.1 _) h.addr.2, nextStrs_succ (nextstr_plain h.d.plain _) hd,
    nextStrs_succ h.nextstr_h hh]
  rfl

/-! ## The servers -/

theorem Table.set_of_le (h : tmpCid ≤ MAX_PDP_NUM) (f : PDP_INFO → PDP_INFO) :
    pdp_info.set tmpCid f = Function.update pdp_info (tmpCid - 1) (f (pdp_info (tmpCid - 1))) := if_pos h

theorem Table.set_set (f g : PDP_INFO → PDP_INFO) :
    (pdp_info.set tmpCid f).set tmpCid g = pdp_info.set tmpCid fun p => g (f p) := by
  unfold Table.set
  by_cases h : tmpCid ≤ MAX_PDP_NUM
  · simp only [if_pos h, Function.update_self, Function.update_idem]
  · simp only [if_neg h]

/-- The first server, when the entry has been reset. -/
theorem set_dns1 (dns1 : Line) :
    (if dns1 ≠ [] then
      (pdp_info.set tmpCid fun p => { p with userdns1addr := noDns, userdns2addr := noDns, manual_dns := 0 }).set tmpCid
        fun p => { p with userdns1addr := dns1.take (IP_ADDR_SIZE - 1) }
    else pdp_info.set tmpCid fun p => { p with userdns1addr := noDns, userdns2addr := noDns, manual_dns := 0 }) =
      pdp_info.set tmpCid fun p => { p with userdns1addr := kept dns1, userdns2addr := noDns, manual_dns := 0 } := by
  by_cases h : dns1 = []
  · rw [if_neg (not_not_intro h), kept, if_pos h]
  · rw [if_pos h, Table.set_set, kept, if_neg h]
    rfl

theorem set_dns2 (dns1 dns2 : Line) :
    (if dns2 ≠ [] then
      (pdp_info.set tmpCid fun p => { p with userdns1addr := kept dns1, userdns2addr := noDns, manual_dns := 0 }).set
        tmpCid fun p => { p with userdns2addr := dns2.take (IP_ADDR_SIZE - 1) }
    else pdp_info.set tmpCid fun p => { p with userdns1addr := kept dns1, userdns2addr := noDns, manual_dns := 0 }) =
      pdp_info.set tmpCid fun p =>
        { p with userdns1addr := kept dns1, userdns2addr := kept dns2, manual_dns := 0 } := by
  by_cases h : dns2 = []
  · rw [if_neg (not_not_intro h), h, kept, kept, if_pos rfl]
  · rw [if_pos h, Table.set_set]
    simp only [kept, if_neg h]
    rfl

/-- What `storeDns` makes of the entry. -/
theorem Command.WellFormed.storeDns (h : c.WellFormed) :
    storeDns pdp_info tmpCid c.servers = pdp_info.set tmpCid fun p =>
      { p with userdns1addr := kept c.dns1, userdns2addr := kept c.dns2, manual_dns := 0 } := by
  obtain ⟨-, -, -, -, -, -, hdns⟩ := h
  unfold Command.servers Command.dns1 Command.dns2
  obtain ⟨cid, type, apn, addr, d, h, dns⟩ := c
  rcases dns with _ | ⟨dns1, _ | dns2⟩
  · rfl
  · have htext := (hdns dns1 none rfl).1
    simp only [Cgdcont.storeDns, nextstr_quoted_end htext, Tok.value, if_true, set_dns1]
    rfl
  · have htext := hdns dns1 (some dns2) rfl
    have htext2 := htext.2 dns2 rfl
    simp only [Cgdcont.storeDns, nextstr_quoted htext.1, nextstr_quoted_end htext2, Tok.value, if_true, set_dns1,
      set_dns2]
    rfl

/-- Digits and dots are not made from other characters. -/
theorem tolower_eq_iff {b c : Byte} (hc : c < 65) : AsyncCmd.tolower b = c ↔ b = c := by
  unfold AsyncCmd.tolower
  rw [UInt8.lt_iff_toNat_lt] at hc
  by_cases hb : 65 ≤ b ∧ b ≤ 90
  · rw [if_pos hb]
    simp only [UInt8.le_iff_toNat_le, ← UInt8.toNat_inj, UInt8.toNat_add] at *
    simp at *
    omega
  · rw [if_neg hb]

theorem map_tolower_eq_iff {t : Line} (ht : ∀ c ∈ t, c < 65) (s : Line) : s.map AsyncCmd.tolower = t ↔ s = t := by
  induction t generalizing s with
  | nil => exact List.map_eq_nil_iff
  | cons c t ih =>
    rw [List.forall_mem_cons] at ht
    cases s with
    | nil => simp
    | cons b s => rw [List.map_cons, List.cons.injEq, List.cons.injEq, tolower_eq_iff ht.1, ih ht.2]

theorem strncaseeq_noDns (s : Line) : strncaseeq s noDns noDns.length = true ↔ noDns <+: s ++ [NUL] := by
  have hdots : ∀ c ∈ noDns, c < 65 := by simp [noDns, ascii]
  have hnoDns : ((noDns ++ [NUL]).take noDns.length).map AsyncCmd.tolower = noDns := by decide
  unfold strncaseeq
  rw [hnoDns, beq_iff_eq, map_tolower_eq_iff hdots, List.prefix_iff_eq_take]
  exact eq_comm

theorem strncaseeq_kept (dns : Line) :
    strncaseeq (kept dns) noDns noDns.length = true ↔ ¬ (dns ≠ [] ∧ ¬ noDns <+: dns) := by
  by_cases hnil : dns = []
  · have hkept : strncaseeq noDns noDns noDns.length = true := by decide
    rw [kept, if_pos hnil]
    exact iff_of_true hkept fun h => h.1 hnil
  · have hnul : noDns ≠ dns.take 15 ++ [NUL] := by
      intro heq
      have hmem : NUL ∈ noDns := heq ▸ List.mem_append_right _ List.mem_cons_self
      exact absurd hmem (by decide)
    have hlen : noDns.length ≤ 15 := by decide
    rw [kept, if_neg hnil, strncaseeq_noDns, List.prefix_concat_iff, List.prefix_take_iff, or_iff_right hnul,
      and_iff_left hlen, not_and_or, not_not, not_not]
    exact (or_iff_right hnil).symm

theorem Command.newText_eq (c : Command) : newText c.cid [c.type, c.apn, c.addr, c.d, c.h] = c.rewritten := rfl

/-- The servers and the mark make the entry. -/
theorem Command.markManual (c : Command) : markManual (pdp_info.set tmpCid fun p =>
    { p with userdns1addr := kept c.dns1, userdns2addr := kept c.dns2, manual_dns := 0 }) tmpCid =
      pdp_info.set tmpCid c.entry := by
  rw [Cgdcont.markManual, Table.set_set]
  congr 1
  funext p
  by_cases h : c.dns1 ≠ [] ∧ ¬ noDns <+: c.dns1
  · have hno : ¬ strncaseeq (kept c.dns1) noDns noDns.length = true := fun heq => (strncaseeq_kept _).1 heq h
    simp only [if_neg hno, Command.entry, if_pos h]
  · simp only [(strncaseeq_kept c.dns1).2 h, if_true, Command.entry, if_neg h]

/-- **A command for AT+CGDCONT= goes on without its DNS servers, and they are kept.** -/
theorem cgdcont_set (pdp_info : Table) (c : Command) (newCmd : Line) (h : c.WellFormed)
    (hfits : c.rewritten.length < AT_COMMAND_LEN) :
    cgdcont_set_cmd_req pdp_info (some c.text) (some newCmd) =
      { ret := AT_RESULT_OK
        newCmd := some c.rewritten
        pdp_info := Function.update pdp_info (c.cid - 1) (c.entry (pdp_info (c.cid - 1))) } := by
  obtain ⟨hlow, hhigh⟩ := h.cid
  have hsmall : c.cid < 2 ^ 31 := by
    unfold MAX_PDP_NUM at hhigh
    omega
  have hstart : at_tok_flag_start (some c.text) 61 = some (decimal c.cid ++ [] ++ 44 :: (quoted c.type ++ 44 ::
      (quoted c.apn ++ 44 :: (quoted c.addr ++ 44 :: (c.d ++ 44 :: (c.h ++ c.tail)))))) := by
    rw [c.text_eq, List.append_nil]
    exact at_tok_flag_start_append (by decide) _
  unfold cgdcont_set_cmd_req
  rw [if_neg (by simp), hstart, at_tok_nextint_decimal (by omega) hsmall (by simp) (by simp)]
  simp only [Tok.value, if_true, h.nextStrs hfits, h.storeDns, c.markManual, c.newText_eq, snprintf_of_lt hfits]
  rw [Table.set_of_le hhigh]

/-- An APN with one server of its own. -/
def cmnet : Command where
  cid := 3
  type := ascii "IP"
  apn := ascii "cmnet"
  addr := []
  d := ascii "0"
  h := ascii "0"
  dns := some (ascii "8.8.8.8", none)

theorem cmnet_wellFormed : cmnet.WellFormed where
  cid := by decide
  type := by decide
  apn := by decide
  addr := by decide
  d := by simp [cmnet, IsUnsigned, ascii, isdigit]
  h := by simp [cmnet, IsUnsigned, ascii, isdigit]
  dns := by
    rintro dns1 dns2 ⟨⟩
    exact ⟨by decide, by simp⟩

theorem cgdcont_set_cmnet :
    cgdcont_set_cmd_req Table.reset (some (ascii "AT+CGDCONT=3,\"IP\",\"cmnet\",\"\",0,0,\"8.8.8.8\"")) (some []) =
      { ret := AT_RESULT_OK
        newCmd := some (ascii "AT+CGDCONT=3,\"IP\",\"cmnet\",\"\",0,0\r")
        pdp_info := Function.update Table.reset 2
          { Table.reset 2 with userdns1addr := ascii "8.8.8.8", userdns2addr := ascii "0.0.0.0", manual_dns := 1 } } := by
  have htext : cmnet.text = ascii "AT+CGDCONT=3,\"IP\",\"cmnet\",\"\",0,0,\"8.8.8.8\"" := by decide
  have hrewritten : cmnet.rewritten = ascii "AT+CGDCONT=3,\"IP\",\"cmnet\",\"\",0,0\r" := by decide
  have hset := cgdcont_set Table.reset cmnet [] cmnet_wellFormed (by decide)
  rw [htext, hrewritten] at hset
  exact hset

end UniRil.Cgdcont
