import UniRil.Decimal

/-!
# Cell broadcast configurations (ril_sms.c)

A configuration is sent with AT+CSCB and read back from +CSCB. The identifiers come back as they were
sent. The mode does not: it is 0 for accepted types when it is sent, and 0 is read as not selected.
-/

namespace UniRil.Sms

open AtTok

/-! ## Sending -/

def ARRAY_SIZE : Nat := 128

structure RIL_GSM_BroadcastSmsConfigInfo where
  fromServiceId : Int
  toServiceId : Int
  fromCodeScheme : Int
  toCodeScheme : Int
  selected : Byte
  deriving DecidableEq

/-- The text, where the source returns 1. -/
def setSmsBroadcastConfigValue (value : Int) : Option (List Byte) :=
  if value < 0 ∨ value > 0xffff then none else some (decimal value)

/-- What is stored to `retStr`: 34 is a double quote, 45 a hyphen, 44 a comma. -/
def setSmsBroadcastConfigData (data : Int) (idx isFirst : Nat) : List Byte :=
  match setSmsBroadcastConfigValue data with
  | none => []
  | some str => (if idx = 0 ∧ isFirst = 1 then 34 else if isFirst = 2 then 45 else 44) :: str

/-- The variables of the loop. -/
structure Cscb where
  enable : Int
  channel : List Byte
  lang : List Byte
  serviceId : List Int
  deriving DecidableEq

def addConfig (i : Nat) (gsmBci : RIL_GSM_BroadcastSmsConfigInfo) (c : Cscb) : Cscb where
  enable := if i = 0 then if gsmBci.selected ≠ 0 then 0 else 1 else c.enable
  channel := c.channel ++ setSmsBroadcastConfigData gsmBci.fromServiceId i 1 ++
    if gsmBci.fromServiceId ≠ gsmBci.toServiceId then setSmsBroadcastConfigData gsmBci.toServiceId i 2 else []
  lang := c.lang ++ setSmsBroadcastConfigData gsmBci.fromCodeScheme i 1 ++
    setSmsBroadcastConfigData gsmBci.toCodeScheme i 2
  serviceId := c.serviceId ++ [gsmBci.fromServiceId, gsmBci.toServiceId]

def addConfigs : Nat → List RIL_GSM_BroadcastSmsConfigInfo → Cscb → Cscb
  | _, [], c => c
  | i, gsmBci :: rest, c => addConfigs (i + 1) rest (addConfig i gsmBci c)

def closeQuotes (c : Cscb) : Cscb :=
  { c with
    lang := if c.lang = [] then [34] else c.lang
    channel := if c.channel.length = 1 then c.channel ++ [34] else if c.channel = [] then [34] else c.channel }

/-- `"AT+CSCB=%d%c%s%c%c%s%c"` -/
def cscbCommand (c : Cscb) : List Byte :=
  ascii "AT+CSCB=" ++ (decimal c.enable ++ 44 :: (c.channel ++ 34 :: 44 :: (c.lang ++ [34])))

/-- How many ranges are for CMAS, for ETWS and for the ETWS test. -/
def countWarnings : List Int → Nat × Nat × Nat
  | first :: last :: rest =>
    let (cmas, etws, etwsTest) := countWarnings rest
    if first ≥ 4370 ∧ first ≤ 6400 ∧ last ≥ 4370 ∧ last ≤ 6400 then (cmas + 1, etws, etwsTest)
    else if (first ≥ 4352 ∧ first ≤ 4359 ∧ last ≥ 4352 ∧ last ≤ 4359) ∧ (first ≠ 4355 ∧ last ≠ 4355) then
      (cmas, etws + 1, etwsTest)
    else if first = 4355 ∧ last = 4355 then (cmas, etws, etwsTest + 1)
    else (cmas, etws, etwsTest)
  | _ => (0, 0, 0)

def sppwsCommands (serviceId : List Int) : List (List Byte) :=
  let (cmas, etws, etwsTest) := countWarnings serviceId
  (if 0 ≠ etwsTest then [ascii "AT+SPPWS=2,2,1,2"] else []) ++
    if 0 ≠ cmas ∧ 0 ≠ etws then [ascii "AT+SPPWS=1,1,2,1"]
    else if 0 ≠ cmas then [ascii "AT+SPPWS=2,2,2,1"]
    else if 0 ≠ etws then [ascii "AT+SPPWS=1,1,2,2"] else []

/-- The command, whether the request succeeds, and the commands that are sent after that. -/
structure Sent where
  cmd : List Byte
  success : Bool
  sppws : List (List Byte)
  deriving DecidableEq

/-- `none` when `serviceId` is overrun; `answer` is whether the modem takes the command. -/
def requestSetSmsBroadcastConfig (data : List RIL_GSM_BroadcastSmsConfigInfo) (answer : Bool) : Option Sent :=
  let c := closeQuotes (addConfigs 0 data { enable := 0, channel := [], lang := [], serviceId := [] })
  if c.serviceId.length ≤ ARRAY_SIZE then
    some { cmd := cscbCommand c, success := answer, sppws := if c.enable = 0 then sppwsCommands c.serviceId else [] }
  else none

/-! ## Reading back -/

/-- The next range of a list, and the two strings after that. Where no token is left, `item` stays. -/
def nextRange (list item : Option Line) : (Int × Int) × Option Line × Option Line :=
  let tok := at_tok_nextstr list
  match tok.p_out <|> item with
  | none => ((0, 0), tok.p_cur, none)
  | some s =>
    let (p, rest) := strsep s 45
    ((atoi p, rest.elim (atoi p) atoi), tok.p_cur, rest)

def readConfigs (selected : Byte) : Nat → Option Line → Option Line → Option Line → Option Line →
    List RIL_GSM_BroadcastSmsConfigInfo
  | 0, _, _, _, _ => []
  | n + 1, serviceIds, serviceId, codeSchemes, codeScheme =>
    let (service, serviceIds, serviceId) := nextRange serviceIds serviceId
    let (code, codeSchemes, codeScheme) := nextRange codeSchemes codeScheme
    { fromServiceId := service.1, toServiceId := service.2, fromCodeScheme := code.1, toCodeScheme := code.2
      selected := selected } :: readConfigs selected n serviceIds serviceId codeSchemes codeScheme

/-- The configurations, or `none` for an error. `response` is the line, when there is one. -/
def requestGetSmsBroadcastConfig (response : Option Line) : Option (List RIL_GSM_BroadcastSmsConfigInfo) := do
  let line ← response
  let line ← at_tok_start (some line)
  let mode := at_tok_nextint (some line)
  let value ← mode.value
  let serviceIds := at_tok_nextstr mode.p_cur
  let services ← serviceIds.value
  let codeSchemes := at_tok_nextstr serviceIds.p_cur
  let codes ← codeSchemes.value
  pure (readConfigs (if value = 0 then 0 else 1) (services.count 44 + 1) (some services) none (some codes) none)

/-! ## There and back -/

/-- The modem answers AT+CSCB? with the arguments of the command that was sent. -/
def cscbResponse (cmd : List Byte) : Line := ascii "+CSCB: " ++ cmd.drop (ascii "AT+CSCB=").length

/-- What is read after a list was sent. -/
def reported (data : List RIL_GSM_BroadcastSmsConfigInfo) (answer : Bool) :
    Option (List RIL_GSM_BroadcastSmsConfigInfo) :=
  (requestSetSmsBroadcastConfig data answer).bind fun sent => requestGetSmsBroadcastConfig (some (cscbResponse sent.cmd))

structure InRange (c : RIL_GSM_BroadcastSmsConfigInfo) : Prop where
  service : 0 ≤ c.fromServiceId ∧ c.fromServiceId ≤ c.toServiceId ∧ c.toServiceId ≤ 0xffff
  code : 0 ≤ c.fromCodeScheme ∧ c.fromCodeScheme ≤ c.toCodeScheme ∧ c.toCodeScheme ≤ 0xffff

/-- The configuration with the other selection. -/
def inverted (c : RIL_GSM_BroadcastSmsConfigInfo) : RIL_GSM_BroadcastSmsConfigInfo :=
  { c with selected := if c.selected = 0 then 1 else 0 }

/-! ## The texts -/

/-- The text of a range of numbers; one number stands for itself where `short` says so. -/
def rangeText (short : Bool) (first last : Nat) : Line :=
  decimal first ++ if short ∧ first = last then [] else 45 :: decimal last

/-- Items with commas between them. -/
def joined : List Line → Line
  | [] => []
  | item :: items => item ++ items.flatMap (44 :: ·)

/-- A text of digits and hyphens that starts with a digit. -/
structure IsItem (s : Line) : Prop where
  first : ∃ c r, s = c :: r ∧ isdigit c = true
  chars : ∀ c ∈ s, isdigit c = true ∨ c = 45

variable {s : Line} {items : List Line} {first last : Nat}

theorem isItem_rangeText (short : Bool) (first last : Nat) : IsItem (rangeText short first last) := by
  obtain ⟨c, r, heq⟩ := List.exists_cons_of_ne_nil (decimal_ne_nil first)
  have hdigit := isdigit_decimal first
  refine ⟨⟨c, r ++ _, by rw [rangeText, heq, List.cons_append], ?_⟩, fun d hd => ?_⟩
  · exact hdigit c (heq ▸ List.mem_cons_self)
  · rcases List.mem_append.1 hd with hd | hd
    · exact Or.inl (hdigit d hd)
    · split at hd
      · cases hd
      · rcases List.mem_cons.1 hd with rfl | hd
        · exact Or.inr rfl
        · exact Or.inl (isdigit_decimal last d hd)

theorem isdigit_ne {c : Byte} (h : isdigit c = true) : c ≠ 34 ∧ c ≠ 44 ∧ c ≠ 45 := by
  refine ⟨?_, ?_, ?_⟩ <;>
  · rintro rfl
    revert h
    decide

theorem IsItem.notMem (h : IsItem s) : (34 : Byte) ∉ s ∧ (44 : Byte) ∉ s := by
  refine ⟨fun hmem => ?_, fun hmem => ?_⟩
  · exact (h.chars _ hmem).elim (fun hd => (isdigit_ne hd).1 rfl) (by decide)
  · exact (h.chars _ hmem).elim (fun hd => (isdigit_ne hd).2.1 rfl) (by decide)

theorem strsep_last {pre : Line} {delim : Byte} (h : delim ∉ pre) : strsep pre delim = (pre, none) := by
  have hpos : ∀ c ∈ pre, (c != delim) = true := by
    intro c hc
    simpa using ne_of_mem_of_not_mem hc h
  rw [strsep, List.takeWhile_eq_self_iff.2 hpos, List.dropWhile_eq_nil_iff.2 hpos]
  rfl

/-- The rest of a list of items, as `strsep` leaves it. -/
def restOf : List Line → Option Line
  | [] => none
  | items => some (joined items)

/-- **The next token is the next item.** -/
theorem nextTok_joined (h : IsItem s) : nextTok (some (joined (s :: items))) = (some s, restOf items) := by
  obtain ⟨c, r, rfl, hc⟩ := h.first
  obtain ⟨hspace, -, -⟩ := digit_first hc
  have hskip : skipWhiteSpace (some (joined ((c :: r) :: items))) = some (joined ((c :: r) :: items)) := by
    rw [skipWhiteSpace, Option.map_some, joined, List.cons_append, List.dropWhile_cons, hspace, if_neg (by simp)]
  have hsep : strsep (joined ((c :: r) :: items)) 44 = (c :: r, restOf items) := by
    cases items with
    | nil =>
      rw [joined, List.flatMap_nil, List.append_nil]
      exact strsep_last h.notMem.2
    | cons item items =>
      rw [joined, List.flatMap_cons]
      exact strsep_append h.notMem.2
  unfold nextTok
  rw [hskip]
  split
  · rename_i heq
    cases heq
  · rename_i heq
    exact absurd (List.cons.inj (Option.some.inj heq)).1 (isdigit_ne hc).1
  · rename_i heq
    obtain rfl := Option.some.inj heq
    rw [hsep]

/-- **A range is read as it was written.** -/
theorem nextRange_joined (short : Bool) (hfirst : first ≤ 0xffff) (hlast : last ≤ 0xffff) (item : Option Line) :
    ∃ item', nextRange (some (joined (rangeText short first last :: items))) item =
      (((first : Int), (last : Int)), restOf items, item') := by
  have htok : nextTok (some (joined (rangeText short first last :: items))) = _ :=
    nextTok_joined (isItem_rangeText short first last)
  have hno : ∀ n : Nat, (45 : Byte) ∉ decimal n := fun n hmem => (isdigit_ne (isdigit_decimal n _ hmem)).2.2 rfl
  have hstr : at_tok_nextstr (some (joined (rangeText short first last :: items))) =
      { ok := true, p_out := some (rangeText short first last), p_cur := restOf items } := by
    rw [at_tok_nextstr, htok]
  have hfirst' : atoi (decimal first) = first := atoi_decimal (by omega)
  have hlast' : atoi (decimal last) = last := atoi_decimal (by omega)
  have hnext : ∀ s, rangeText short first last = s →
      nextRange (some (joined (rangeText short first last :: items))) item =
        ((atoi (strsep s 45).1, (strsep s 45).2.elim (atoi (strsep s 45).1) atoi), restOf items, (strsep s 45).2) := by
    rintro s rfl
    rw [nextRange, hstr]
    rfl
  by_cases heq : short ∧ first = last
  · have htext : rangeText short first last = decimal first := by rw [rangeText, if_pos heq, List.append_nil]
    refine ⟨none, ?_⟩
    rw [hnext _ htext, strsep_last (hno first), Option.elim_none, hfirst', heq.2]
  · have htext : rangeText short first last = decimal first ++ 45 :: decimal last := by rw [rangeText, if_neg heq]
    refine ⟨some (decimal last), ?_⟩
    rw [hnext _ htext, strsep_append (hno first), Option.elim_some, hfirst', hlast']

/-! ## What is sent -/

def serviceText (c : RIL_GSM_BroadcastSmsConfigInfo) : Line := rangeText true c.fromServiceId.toNat c.toServiceId.toNat

def codeText (c : RIL_GSM_BroadcastSmsConfigInfo) : Line := rangeText false c.fromCodeScheme.toNat c.toCodeScheme.toNat

variable {c : RIL_GSM_BroadcastSmsConfigInfo} {data : List RIL_GSM_BroadcastSmsConfigInfo}

theorem setSmsBroadcastConfigData_eq {n : Int} (h : 0 ≤ n ∧ n ≤ 0xffff) (idx isFirst : Nat) :
    setSmsBroadcastConfigData n idx isFirst =
      (if idx = 0 ∧ isFirst = 1 then 34 else if isFirst = 2 then 45 else 44) :: decimal n.toNat := by
  rw [setSmsBroadcastConfigData, setSmsBroadcastConfigValue, if_neg (by omega), Int.toNat_of_nonneg h.1]

/-- A configuration appends its two ranges, after a quote or a comma. -/
theorem addConfig_texts (h : InRange c) (i : Nat) (acc : Cscb) :
    (addConfig i c acc).channel = acc.channel ++ (if i = 0 then 34 else 44) :: serviceText c ∧
      (addConfig i c acc).lang = acc.lang ++ (if i = 0 then 34 else 44) :: codeText c := by
  obtain ⟨⟨hf, hft, ht⟩, hcf, hcft, hct⟩ := h
  have hsame : c.fromServiceId ≠ c.toServiceId ↔ ¬ (true = true ∧ c.fromServiceId.toNat = c.toServiceId.toNat) := by
    simp only [true_and]
    omega
  refine ⟨?_, ?_⟩
  · simp only [addConfig, serviceText, rangeText, setSmsBroadcastConfigData_eq ⟨hf, hft.trans ht⟩,
      setSmsBroadcastConfigData_eq ⟨hf.trans hft, ht⟩, hsame]
    by_cases heq : c.fromServiceId.toNat = c.toServiceId.toNat <;> simp [heq]
  · simp only [addConfig, codeText, rangeText, setSmsBroadcastConfigData_eq ⟨hcf, hcft.trans hct⟩,
      setSmsBroadcastConfigData_eq ⟨hcf.trans hcft, hct⟩]
    simp

/-- The configurations after the first one. -/
theorem addConfigs_rest (h : ∀ c ∈ data, InRange c) {i : Nat} (hi : i ≠ 0) (acc : Cscb) :
    addConfigs i data acc =
      { enable := acc.enable
        channel := acc.channel ++ (data.map serviceText).flatMap (44 :: ·)
        lang := acc.lang ++ (data.map codeText).flatMap (44 :: ·)
        serviceId := acc.serviceId ++ data.flatMap fun c => [c.fromServiceId, c.toServiceId] } := by
  induction data generalizing i acc with
  | nil => simp [addConfigs]
  | cons c data ih =>
    obtain ⟨hchannel, hlang⟩ := addConfig_texts (h c List.mem_cons_self) i acc
    rw [addConfigs, ih (fun d hd => h d (List.mem_cons_of_mem c hd)) (Nat.succ_ne_zero i), hchannel, hlang]
    simp [addConfig, hi]

/-- **All configurations, with the selection of the first.** -/
theorem addConfigs_all (h : ∀ d ∈ c :: data, InRange d) :
    closeQuotes (addConfigs 0 (c :: data) { enable := 0, channel := [], lang := [], serviceId := [] }) =
      { enable := if c.selected = 0 then 1 else 0
        channel := 34 :: joined ((c :: data).map serviceText)
        lang := 34 :: joined ((c :: data).map codeText)
        serviceId := (c :: data).flatMap fun c => [c.fromServiceId, c.toServiceId] } := by
  obtain ⟨hchannel, hlang⟩ :=
    addConfig_texts (h c List.mem_cons_self) 0 { enable := 0, channel := [], lang := [], serviceId := [] }
  obtain ⟨b, r, htext, -⟩ := (isItem_rangeText true c.fromServiceId.toNat c.toServiceId.toNat).first
  have htext' : serviceText c = b :: r := htext
  rw [addConfigs, addConfigs_rest (fun d hd => h d (List.mem_cons_of_mem c hd)) (by decide), hchannel, hlang]
  simp [closeQuotes, addConfig, joined, htext']

theorem length_serviceId (data : List RIL_GSM_BroadcastSmsConfigInfo) :
    (data.flatMap fun c => [c.fromServiceId, c.toServiceId]).length = 2 * data.length := by
  induction data with
  | nil => rfl
  | cons c data ih =>
    rw [List.flatMap_cons, List.length_append, ih, List.length_cons]
    simp only [List.length_cons, List.length_nil]
    omega

/-! ## What is read -/

theorem readConfigs_joined (h : ∀ c ∈ data, InRange c) (hne : data ≠ []) (selected : Byte) (item item' : Option Line) :
    readConfigs selected data.length (some (joined (data.map serviceText))) item (some (joined (data.map codeText))) item' =
      data.map fun c => { c with selected := selected } := by
  induction data generalizing item item' with
  | nil => exact absurd rfl hne
  | cons c data ih =>
    obtain ⟨⟨hf, hft, ht⟩, hcf, hcft, hct⟩ := h c List.mem_cons_self
    obtain ⟨rest, hservice⟩ := @nextRange_joined (data.map serviceText) c.fromServiceId.toNat c.toServiceId.toNat
      true (by omega) (by omega) item
    obtain ⟨rest', hcode⟩ := @nextRange_joined (data.map codeText) c.fromCodeScheme.toNat c.toCodeScheme.toNat
      false (by omega) (by omega) item'
    rw [Int.toNat_of_nonneg hf, Int.toNat_of_nonneg (hf.trans hft)] at hservice
    rw [Int.toNat_of_nonneg hcf, Int.toNat_of_nonneg (hcf.trans hcft)] at hcode
    have hstep : readConfigs selected (c :: data).length (some (joined ((c :: data).map serviceText))) item
        (some (joined ((c :: data).map codeText))) item' =
          { c with selected := selected } ::
            readConfigs selected data.length (restOf (data.map serviceText)) rest (restOf (data.map codeText)) rest' := by
      rw [List.length_cons, readConfigs]
      simp only [List.map_cons]
      rw [show nextRange (some (joined (serviceText c :: data.map serviceText))) item = _ from hservice,
        show nextRange (some (joined (codeText c :: data.map codeText))) item' = _ from hcode]
    rw [hstep, List.map_cons]
    congr 1
    cases data with
    | nil => rfl
    | cons d data => exact ih (fun e he => h e (List.mem_cons_of_mem c he)) (by simp) rest rest'

theorem count_joined (h : ∀ s ∈ items, IsItem s) (hs : IsItem s) : (joined (s :: items)).count 44 = items.length := by
  rw [joined, List.count_append, List.count_eq_zero.2 hs.notMem.2, Nat.zero_add]
  induction items with
  | nil => rfl
  | cons t items ih =>
    rw [List.flatMap_cons, List.count_append, ih fun u hu => h u (List.mem_cons_of_mem t hu), List.count_cons_self,
      List.count_eq_zero.2 (h t List.mem_cons_self).notMem.2, List.length_cons]
    omega

theorem quote_notMem_joined (h : ∀ s ∈ items, IsItem s) : (34 : Byte) ∉ joined items := by
  intro hmem
  cases items with
  | nil => cases hmem
  | cons s items =>
    rcases List.mem_append.1 hmem with hmem | hmem
    · exact (h s List.mem_cons_self).notMem.1 hmem
    · obtain ⟨t, ht, hin⟩ := List.mem_flatMap.1 hmem
      rcases List.mem_cons.1 hin with heq | hin
      · exact absurd heq (by decide)
      · exact (h t (List.mem_cons_of_mem s ht)).notMem.1 hin

/-- The line that comes back for a command. -/
theorem cscbResponse_eq (enable : Int) (channel lang : List Byte) (serviceId : List Int) :
    cscbResponse (cscbCommand { enable := enable, channel := channel, lang := lang, serviceId := serviceId }) =
      ascii "+CSCB: " ++ (decimal enable ++ 44 :: (channel ++ 34 :: 44 :: (lang ++ [34]))) := by
  rw [cscbResponse, cscbCommand, List.drop_left]

theorem at_tok_start_cscb (rest : Line) : at_tok_start (some (ascii "+CSCB: " ++ rest)) = some (32 :: rest) := by
  have hname : ∀ c ∈ ascii "+CSCB", (c != 58) = true := by simp [ascii]
  have hline : ascii "+CSCB: " ++ rest = ascii "+CSCB" ++ 58 :: 32 :: rest := rfl
  rw [at_tok_start, at_tok_flag_start, Option.bind_some, hline, List.dropWhile_append_of_pos hname]
  simp

/-- A number after a blank and before a comma. -/
theorem at_tok_nextint_decimal {n : Nat} (h : n < 2 ^ 31) (rest : Line) :
    at_tok_nextint (some (32 :: (decimal n ++ 44 :: rest))) = { ok := true, p_out := some (n : Int), p_cur := some rest } := by
  rw [at_tok_nextint_blank, at_tok_nextint_comma h]

/-- **The lists are read as they were written, under the mode that was sent.** -/
theorem requestGet_response (h : ∀ c ∈ data, InRange c) (hne : data ≠ []) (enable : Nat) (hen : enable ≤ 1)
    (serviceId : List Int) :
    requestGetSmsBroadcastConfig (some (cscbResponse (cscbCommand
      { enable := enable, channel := 34 :: joined (data.map serviceText), lang := 34 :: joined (data.map codeText)
        serviceId := serviceId }))) =
      some (data.map fun c => { c with selected := if enable = 0 then 0 else 1 }) := by
  have hservices : ∀ s ∈ data.map serviceText, IsItem s := by
    intro s hs
    obtain ⟨c, -, rfl⟩ := List.mem_map.1 hs
    exact isItem_rangeText _ _ _
  have hcodes : ∀ s ∈ data.map codeText, IsItem s := by
    intro s hs
    obtain ⟨c, -, rfl⟩ := List.mem_map.1 hs
    exact isItem_rangeText _ _ _
  have hcount : (joined (data.map serviceText)).count 44 + 1 = data.length := by
    cases data with
    | nil => exact absurd rfl hne
    | cons c data =>
      rw [List.map_cons, count_joined (fun s hs => hservices s (List.mem_cons_of_mem _ hs)) (hservices _ List.mem_cons_self),
        List.length_map, List.length_cons]
  have hmode : (enable : Int) = 0 ↔ enable = 0 := by omega
  have hline := at_tok_nextint_decimal (n := enable) (by omega)
    (34 :: (joined (data.map serviceText) ++ 34 :: 44 :: 34 :: (joined (data.map codeText) ++ [34])))
  have hcomma : ∀ rest : Line, skipNextComma (some (44 :: rest)) = some rest := by
    intro rest
    simp [skipNextComma]
  rw [cscbResponse_eq]
  simp only [requestGetSmsBroadcastConfig, Option.bind_eq_bind, Option.bind_some, List.cons_append, at_tok_start_cscb,
    hline, Tok.value, if_true, at_tok_nextstr_quoted (quote_notMem_joined hservices), hcomma,
    at_tok_nextstr_quoted (quote_notMem_joined hcodes), Option.pure_def, hcount, readConfigs_joined h hne, hmode]

/-! ## The round trip -/

/-- **What was sent is reported with the other selection, as long as the array of service ids is not
overrun; it is never reported as it was sent.** -/
theorem reported_inverted (data : List RIL_GSM_BroadcastSmsConfigInfo) (answer : Bool) (hne : data ≠ [])
    (hselected : ∀ c ∈ data, ∀ d ∈ data, c.selected = d.selected) (hrange : ∀ c ∈ data, InRange c) :
    reported data answer = (if 2 * data.length ≤ ARRAY_SIZE then some (data.map inverted) else none) ∧
      reported data answer ≠ some data := by
  have hreported : reported data answer = if 2 * data.length ≤ ARRAY_SIZE then some (data.map inverted) else none := by
    obtain ⟨c, data, rfl⟩ := List.exists_cons_of_ne_nil hne
    have hall := addConfigs_all hrange
    have hget := requestGet_response hrange hne (if c.selected = 0 then 1 else 0) (by split <;> omega)
      ((c :: data).flatMap fun c => [c.fromServiceId, c.toServiceId])
    have hmap : ((c :: data).map fun d => { d with
        selected := if (if c.selected = 0 then 1 else 0) = 0 then (0 : Byte) else 1 }) = (c :: data).map inverted := by
      refine List.map_congr_left fun d hd => ?_
      rw [inverted, hselected d hd c List.mem_cons_self]
      by_cases hc : c.selected = 0 <;> simp [hc]
    rw [hmap] at hget
    have hmode : (if c.selected = 0 then 1 else 0 : Int) = ((if c.selected = 0 then 1 else 0 : Nat) : Int) := by
      split <;> rfl
    rw [reported, requestSetSmsBroadcastConfig, hall]
    simp only [length_serviceId]
    split
    · rw [Option.bind_some, hmode]
      exact hget
    · rfl
  refine ⟨hreported, ?_⟩
  rw [hreported]
  split
  · intro heq
    obtain ⟨c, data, rfl⟩ := List.exists_cons_of_ne_nil hne
    have hc : (inverted c).selected = c.selected :=
      congrArg RIL_GSM_BroadcastSmsConfigInfo.selected (List.cons.inj (Option.some.inj heq)).1
    by_cases h0 : c.selected = 0 <;> simp [inverted, h0] at hc
    exact h0 hc.symm
  · simp

theorem reported_inverted_range :
    reported [⟨4373, 4383, 0, 255, 1⟩] true ≠ some [⟨4373, 4383, 0, 255, 1⟩] :=
  (reported_inverted [⟨4373, 4383, 0, 255, 1⟩] true (by decide) (by decide) (by
    intro c hc
    rw [List.mem_singleton.1 hc]
    exact ⟨by decide, by decide⟩)).2

theorem selected_reported_unselected :
    ¬ ∀ data answer, data ≠ [] → (∀ c ∈ data, ∀ d ∈ data, c.selected = d.selected) → (∀ c ∈ data, InRange c) →
      reported data answer = some data := by
  intro h
  have hreported := h [⟨4373, 4383, 0, 255, 1⟩] true (by decide) (by decide) (by
    intro c hc
    rw [List.mem_singleton.1 hc]
    exact ⟨by decide, by decide⟩)
  exact absurd hreported (by decide)

end UniRil.Sms
