import UniRil.NetworkRequests.CellAnswers
import Mathlib.Data.List.Forall2

/-!
# The results of a network scan (ril_network.c)

A line names a technology, a number of cells, and the cells; a `-` stands before the number and before each cell, and
before a negative number as well. The cells are found by searching for the next one from the last field on.
-/

namespace UniRil.NetworkRequests

open AtTok (Line toInt nextTok strtol atoi digitsValue isdigit isspace)

/-! ## The parser -/

inductive RIL_ScanStatus
  | PARTIAL
  | COMPLETE
  deriving DecidableEq

structure RIL_NetworkScanResult where
  status : RIL_ScanStatus
  network_infos_length : Nat
  network_infos : Option (List RIL_CellInfo_v12)
  deriving DecidableEq

/-- How the line ends: in a NULL that is read, in nothing, or in a report. -/
inductive Scanned
  | crashes
  | silent
  | reports (scanResult : RIL_NetworkScanResult)
  deriving DecidableEq

/-- The result of a scan that is over. -/
def scanComplete : RIL_NetworkScanResult := { status := .COMPLETE, network_infos_length := 0, network_infos := none }

/-- `at_tok_nextint`, so many times. -/
def nextints : Nat → Reader (List Int)
  | 0 => pure []
  | n + 1 => do
    let value ← nextint
    let values ← nextints n
    pure (value :: values)

/-- The fields of a cell. -/
def cellFields (rat : Int) : Nat := if rat = 0 then 8 else 9

/-- `cellInfoType`, as it is set. -/
def scanType (rat : Int) : RIL_CellInfoType :=
  if rat = 0 then .GSM else if rat = 1 then .WCDMA else if rat = 2 then .CDMA else .LTE

/-- What is stored of the fields, in their order. -/
def scanInfo (rat : Int) (f : Nat → Int) : CellInfo :=
  if rat = 0 then
    .gsm { cid := f 0, arfcn := f 1, bsic := toByte (f 2), mcc := f 4, mnc := f 5, mnc_digit := f 6, lac := f 7 }
      { signalStrength := f 3, bitErrorRate := 0, timingAdvance := 0 }
  else if rat = 1 then
    .wcdma { cid := f 0, uarfcn := f 1, psc := f 2, mcc := f 5, mnc := f 6, mnc_digit := f 7, lac := f 8 }
      { signalStrength := f 3, bitErrorRate := 0 }
  else if rat = 2 then
    .tdscdma { cid := f 0, mcc := f 5, mnc := f 6, mnc_digit := f 7, lac := f 8, cpid := 0 } (f 4)
  else
    .lte { ci := f 0, pci := f 1, earfcn := f 2, mcc := f 5, mnc := f 6, mnc_digit := f 7, tac := f 8 }
      { signalStrength := 0, rsrp := (f 3).tdiv (-100), rsrq := (f 4).tdiv (-100), rssnr := 0, cqi := 0,
        timingAdvance := 0 }

def scanRow (cellType : RIL_CellInfoType) (info : CellInfo) : RIL_CellInfo_v12 :=
  { RIL_CellInfo_v12.zero with cellInfoType := cellType, CellInfo := info }

/-- A row of the array. -/
def scannedRow (rat : Int) (g : List Int) : RIL_CellInfo_v12 :=
  scanRow (scanType rat) (scanInfo rat fun i => g.getD i 0)

inductive ScanError
  | crashes
  | out
  deriving DecidableEq

/-- `tmp = strchr(tmp, '-'); tmp++;` -/
def behindDash (tmp : Line) : Option Line := AtTok.at_tok_flag_start (some tmp) 45

/-- The fields of the next cell; `lac` or `tac` is read without a step. -/
def scanCell (rat : Int) (tmp : Line) : Except ScanError (List Int × Line) :=
  match behindDash tmp with
  | none => .error .crashes
  | some g =>
    match nextints (cellFields rat - 1) (some g) with
    | none => .error .out
    | some (_, none) => .error .crashes
    | some (values, some tmp) => .ok (values ++ [atoi tmp], tmp)

/-- The loop, with so many passes to come. -/
def scanCells (rat : Int) : Nat → Line → Except ScanError (List (List Int))
  | 0, _ => .ok []
  | n + 1, tmp => do
    let (g, tmp) ← scanCell rat tmp
    let groups ← scanCells rat n tmp
    pure (g :: groups)

/-- Whether there is room for so many rows is a parameter. -/
def processNetworkScanResults (room : Nat → Bool) (line : Line) : Scanned :=
  let rat := atoi line
  if rat < 0 ∨ rat = 255 ∨ rat = 254 then .reports scanComplete
  else
    match (AtTok.strsep line 45).2 with
    | none => .reports scanComplete
    | some tmp =>
      let cell_num := atoi tmp
      -- a negative number is a size beyond all memory
      let fits : Bool := 0 ≤ cell_num ∧ (cell_num = 0 ∨ room cell_num.toNat)
      let length := (cell_num % 2 ^ 32).toNat
      if rat ≤ 3 then
        if 0 < cell_num ∧ fits = false then .crashes
        else
          match scanCells rat cell_num.toNat tmp with
          | .error .crashes => .crashes
          | .error .out => .silent
          | .ok groups =>
            .reports
              { status := .PARTIAL
                network_infos_length := length
                network_infos := if fits then some (groups.map (scannedRow rat)) else none }
      else
        .reports
          { status := .PARTIAL
            network_infos_length := length
            network_infos := if fits then some (List.replicate cell_num.toNat .zero) else none }

/-! ## Lines -/

/-- A numeral of an `int`: blanks, a sign where it is negative, and digits. -/
def IsNumeral (t : Line) (v : Int) : Prop :=
  InInt v ∧ ∃ blanks digits : Line, (∀ c ∈ blanks, isspace c = true) ∧ digits ≠ [] ∧ (∀ c ∈ digits, isdigit c = true) ∧
    (t = blanks ++ digits ∧ v = digitsValue digits ∨ t = blanks ++ 45 :: digits ∧ v = -digitsValue digits ∧ v < 0)

/-- `-`, and the fields of a cell with commas between them. -/
def dashed (fields : List Line) : Line := 45 :: (ascii ",").intercalate fields

/-- A line of this form, with the numbers of its cells. The sign of the last number would be taken for a separator, if
another cell follows. -/
structure Reads (rat : Int) (groups : List (List Int)) (line : Line) : Prop where
  known : 0 ≤ rat ∧ rat ≤ 3
  fields : ∀ g ∈ groups, g.length = cellFields rat
  last : ∀ g ∈ groups.dropLast, 0 ≤ g.getLastD 0
  text : ∃ (head count : Line) (cells : List (List Line)), IsNumeral head rat ∧ IsNumeral count groups.length ∧
    List.Forall₂ (List.Forall₂ IsNumeral) cells groups ∧ line = head ++ 45 :: (count ++ cells.flatMap dashed)

/-- The line as it is documented: the numbers are printed, and those at the ends of a cell are not negative. -/
structure Documented (rat : Int) (groups : List (List Int)) (line : Line) : Prop where
  known : 0 ≤ rat ∧ rat ≤ 3
  fields : ∀ g ∈ groups, g.length = cellFields rat ∧ ∀ v ∈ g, InInt v
  ends : ∀ g ∈ groups, 0 ≤ g.headD 0 ∧ 0 ≤ g.getLastD 0
  text : line = decimal rat ++ 45 :: (decimal groups.length ++ groups.flatMap fun g => 45 :: Handlers.commas g)

/-! ## The report -/

/-- The technology of the cells, and the fields of a cell by their names. -/
def documentedType (rat : Int) : RIL_CellInfoType :=
  if rat = 0 then .GSM else if rat = 1 then .WCDMA else if rat = 2 then .TD_SCDMA else .LTE

def documentedInfo (rat : Int) (g : List Int) : CellInfo :=
  match g with
  | [cid, arfcn, bsic, rssi, mcc, mnc, mnc_digit, lac] =>
    .gsm { mcc := mcc, mnc := mnc, mnc_digit := mnc_digit, lac := lac, cid := cid, arfcn := arfcn, bsic := bsic }
      { signalStrength := rssi, bitErrorRate := 0, timingAdvance := 0 }
  | [cid, channel, code, rssi, level, mcc, mnc, mnc_digit, area] =>
    if rat = 1 then
      .wcdma
        { mcc := mcc, mnc := mnc, mnc_digit := mnc_digit, lac := area, cid := cid, psc := code, uarfcn := channel }
        { signalStrength := rssi, bitErrorRate := 0 }
    else if rat = 2 then
      .tdscdma { mcc := mcc, mnc := mnc, mnc_digit := mnc_digit, lac := area, cid := cid, cpid := 0 } level
    else
      .lte { mcc := mcc, mnc := mnc, mnc_digit := mnc_digit, ci := cid, pci := channel, tac := area, earfcn := code }
        { signalStrength := 0, rsrp := rssi.tdiv (-100), rsrq := level.tdiv (-100), rssnr := 0, cqi := 0,
          timingAdvance := 0 }
  | _ => .zero

def documentedResult (rat : Int) (groups : List (List Int)) : RIL_NetworkScanResult :=
  { status := .PARTIAL
    network_infos_length := groups.length
    network_infos := some (groups.map fun g => scanRow (documentedType rat) (documentedInfo rat g)) }

/-- No cells are reported, or those of the line. -/
def NothingWrong (line : Line) : Scanned → Prop
  | .crashes => False
  | .silent => True
  | .reports r => r.network_infos_length = 0 ∨ ∃ rat groups, Reads rat groups line ∧ r = documentedResult rat groups

/-- A documented line is reported, and of every line nothing wrong. -/
def Decodes (room : Nat → Bool) (line : Line) : Prop :=
  (∀ rat groups, Documented rat groups line →
      processNetworkScanResults room line = .reports (documentedResult rat groups)) ∧
    NothingWrong line (processNetworkScanResults room line)

/-! ## The condition -/

/-- The text behind the `-` that is taken for the beginning of a cell. -/
def groupStart (rat : Int) : Nat → Line → Option Line
  | 0, tmp => behindDash tmp
  | k + 1, tmp => (behindDash tmp).bind fun g => (behind (cellFields rat - 1) (some g)).bind (groupStart rat k)

/-- A cell that is found has a field that is no number. -/
def Unreadable (rat : Int) (n : Nat) (tmp : Line) : Prop :=
  ∃ k < n, ∃ g, groupStart rat k tmp = some g ∧ ∃ i < cellFields rat - 1, number i (some g) = none

/-- The cells are not of TD-SCDMA, and no `bsic` is cut. -/
def RightCells (rat : Int) (groups : List (List Int)) : Prop :=
  rat ≠ 2 ∧ (rat = 0 → ∀ g ∈ groups, 0 ≤ g.getD 2 0 ∧ g.getD 2 0 < 2 ^ 8)

/-- The scan is over; or the number of cells is 0; or a field is no number; or all cells are right. -/
def ScanFits (room : Nat → Bool) (line : Line) : Prop :=
  (atoi line < 0 ∨ atoi line = 255 ∨ atoi line = 254 ∨ (45 : Byte) ∉ line) ∨
    ∃ tmp, (AtTok.strsep line 45).2 = some tmp ∧
      ((atoi tmp = 0 ∧ ∀ rat groups, Documented rat groups line → groups = []) ∨
        0 < atoi tmp ∧ room (atoi tmp).toNat = true ∧
          (atoi line ≤ 3 ∧ Unreadable (atoi line) (atoi tmp).toNat tmp ∨
            ∃ rat groups, Reads rat groups line ∧ RightCells rat groups))

/-! ## The loop -/

theorem nextints_succ (n : Nat) (cur : Option Line) :
    nextints (n + 1) cur =
      (number 0 cur).bind fun value => (nextints n (behind 1 cur)).map fun r => (value :: r.1, r.2) := by
  cases h : number 0 cur with
  | none => simp [nextints, bind, StateT.bind, nextint_eq, h]
  | some value =>
    cases hrest : nextints n (behind 1 cur) with
    | none => simp [nextints, bind, StateT.bind, nextint_eq, h, hrest]
    | some r => simp [nextints, bind, StateT.bind, nextint_eq, h, hrest, pure_apply]

theorem nextints_eq_none_iff (n : Nat) (cur : Option Line) : nextints n cur = none ↔ ∃ i < n, number i cur = none := by
  induction n generalizing cur with
  | zero => simp [nextints, pure_apply]
  | succ n ih =>
    rw [nextints_succ]
    cases h : number 0 cur with
    | none =>
      have hfirst : ∃ i < n + 1, number i cur = none := ⟨0, Nat.succ_pos n, h⟩
      simpa using hfirst
    | some value =>
      rw [Option.bind_some, Option.map_eq_none_iff, ih]
      constructor
      · rintro ⟨i, hi, hnone⟩
        rw [number_behind] at hnone
        exact ⟨1 + i, by omega, hnone⟩
      · rintro ⟨i, hi, hnone⟩
        cases i with
        | zero => cases h.symm.trans hnone
        | succ i =>
          refine ⟨i, by omega, ?_⟩
          rw [number_behind, Nat.add_comm]
          exact hnone

theorem behind_nextints {n : Nat} {cur : Option Line} {v : List Int × Option Line} (h : nextints n cur = some v) :
    v.2 = behind n cur := by
  induction n generalizing cur v with
  | zero =>
    rw [nextints, pure_eq_some] at h
    rw [← h, behind_zero]
  | succ n ih =>
    rw [nextints_succ, Option.bind_eq_some_iff] at h
    obtain ⟨value, -, h⟩ := h
    rw [Option.map_eq_some_iff] at h
    obtain ⟨r, hr, rfl⟩ := h
    rw [ih hr, behind_behind, Nat.add_comm]

/-- A cell goes wrong where no `-` is left, at a field that is no number, or behind the last comma. -/
theorem scanCell_cases (rat : Int) (tmp : Line) :
    behindDash tmp = none ∧ scanCell rat tmp = .error .crashes ∨
      ∃ g, behindDash tmp = some g ∧
        ((∃ i < cellFields rat - 1, number i (some g) = none) ∧ scanCell rat tmp = .error .out ∨
          (¬ ∃ i < cellFields rat - 1, number i (some g) = none) ∧
            (behind (cellFields rat - 1) (some g) = none ∧ scanCell rat tmp = .error .crashes ∨
              ∃ values tmp', behind (cellFields rat - 1) (some g) = some tmp' ∧
                scanCell rat tmp = .ok (values, tmp'))) := by
  unfold scanCell
  cases behindDash tmp with
  | none => exact .inl ⟨rfl, rfl⟩
  | some g =>
    refine .inr ⟨g, rfl, ?_⟩
    rw [← nextints_eq_none_iff]
    cases hvalues : nextints (cellFields rat - 1) (some g) with
    | none => simp [hvalues]
    | some v =>
      obtain ⟨values, rest⟩ := v
      rw [← behind_nextints hvalues]
      cases rest with
      | none => simp [hvalues]
      | some tmp' => simp [hvalues]

/-- The loop leaves by its label exactly where a cell that is found has a field that is no number. -/
theorem scanCells_out_iff (rat : Int) (n : Nat) (tmp : Line) :
    scanCells rat n tmp = .error .out ↔ Unreadable rat n tmp := by
  induction n generalizing tmp with
  | zero => simp [scanCells, Unreadable]
  | succ n ih =>
    unfold Unreadable
    rw [scanCells]
    have hsucc (k : Nat) : groupStart rat (k + 1) tmp =
        (behindDash tmp).bind fun g => (behind (cellFields rat - 1) (some g)).bind (groupStart rat k) := rfl
    have hzero : groupStart rat 0 tmp = behindDash tmp := rfl
    rw [Nat.exists_lt_succ_left]
    simp only [hsucc, hzero]
    rcases scanCell_cases rat tmp with ⟨hdash, hcell⟩ | ⟨g, hdash, ⟨hfield, hcell⟩ | ⟨hread, ⟨hbehind, hcell⟩ |
      ⟨values, tmp', hbehind, hcell⟩⟩⟩
    · simp [hdash, hcell, bind, Except.bind]
    · simp [hdash, hcell, bind, Except.bind, hfield]
    · simp [hdash, hcell, bind, Except.bind, hbehind, hread]
    · have hout : (scanCells rat n tmp' >>= fun groups => pure (values :: groups)) = .error .out ↔
          scanCells rat n tmp' = .error .out := by
        cases scanCells rat n tmp' with
        | error e => simp [bind, Except.bind]
        | ok groups => simp [bind, Except.bind, pure, Except.pure]
      simp only [hcell, bind, Except.bind] at hout ⊢
      rw [hout, ih]
      simp [hdash, hbehind, hread, Unreadable]

/-! ## Numerals -/

theorem strtol_isNumeral {t rest : Line} {v : Int} (h : IsNumeral t v) (hrest : ∀ c ∈ rest.head?, isdigit c = false) :
    strtol (t ++ rest) = some v := by
  obtain ⟨⟨hlow, hhigh⟩, blanks, digits, hblanks, hne, hdigits, ⟨rfl, rfl⟩ | ⟨rfl, rfl, -⟩⟩ := h
  · rw [List.append_assoc, strtol_blanks hblanks, strtol_digits_append hne hdigits hrest (by omega)]
  · rw [List.append_assoc, strtol_blanks hblanks, List.cons_append, strtol_minus hne hdigits hrest (by omega)]

theorem atoi_isNumeral {t rest : Line} {v : Int} (h : IsNumeral t v) (hrest : ∀ c ∈ rest.head?, isdigit c = false) :
    atoi (t ++ rest) = v := by
  rw [atoi, strtol_isNumeral h hrest, Option.getD_some]
  exact toInt_of_range h.1.1 h.1.2

theorem nextTok_blanks {blanks : Line} (h : ∀ c ∈ blanks, isspace c = true) (s : Line) :
    nextTok (some (blanks ++ s)) = nextTok (some s) := by
  have hskip : AtTok.skipWhiteSpace (some (blanks ++ s)) = AtTok.skipWhiteSpace (some s) := by
    rw [AtTok.skipWhiteSpace, AtTok.skipWhiteSpace, Option.map_some, Option.map_some, List.dropWhile_append_of_pos h]
  rw [nextTok, nextTok, hskip]

/-- A numeral is a token, with blanks before it. -/
theorem IsNumeral.token {t : Line} {v : Int} (h : IsNumeral t v) :
    ∃ blanks tok : Line, t = blanks ++ tok ∧ (∀ c ∈ blanks, isspace c = true) ∧ Plain tok ∧ strtol tok = some v := by
  have hdigit {digits : Line} (hdigits : ∀ c ∈ digits, isdigit c = true) : (44 : Byte) ∉ digits :=
    fun hmem => absurd (hdigits 44 hmem) (by decide)
  have hvalue := h.1
  obtain ⟨-, blanks, digits, hblanks, hne, hdigits, ⟨rfl, rfl⟩ | ⟨rfl, rfl, -⟩⟩ := h
  · have hplain : Plain digits := by
      refine ⟨fun c hc => ?_, hdigit hdigits⟩
      have hc := hdigits c (List.mem_of_mem_head? hc)
      refine ⟨(digit_first hc).1, ?_⟩
      rintro rfl
      exact absurd hc (by decide)
    exact ⟨blanks, digits, rfl, hblanks, hplain, strtol_digits hne hdigits (by have := hvalue.2; omega)⟩
  · have hplain : Plain (45 :: digits) := by
      refine ⟨fun c hc => ?_, ?_⟩
      · obtain rfl := Option.some.inj hc
        decide
      · rw [List.mem_cons, not_or]
        exact ⟨by decide, hdigit hdigits⟩
    have hminus := strtol_minus (t := []) hne hdigits (by simp) (by have := hvalue.1; omega)
    rw [List.append_nil] at hminus
    exact ⟨blanks, 45 :: digits, rfl, hblanks, hplain, hminus⟩

theorem nextTok_isNumeral {t : Line} {v : Int} (h : IsNumeral t v) (rest : Line) :
    ∃ tok, nextTok (some (t ++ 44 :: rest)) = (some tok, some rest) ∧ strtol tok = some v := by
  obtain ⟨blanks, tok, rfl, hblanks, hplain, hvalue⟩ := h.token
  refine ⟨tok, ?_, hvalue⟩
  rw [List.append_assoc, nextTok_blanks hblanks, nextTok_comma hplain]

/-- A numeral that ends the line. -/
theorem IsNumeral.at_tok_nextint {t : Line} {v : Int} (h : IsNumeral t v) :
    AtTok.at_tok_nextint (some t) = { ok := true, p_out := some v, p_cur := none } := by
  obtain ⟨blanks, tok, rfl, hblanks, hplain, hvalue⟩ := h.token
  rw [AtTok.at_tok_nextint, nextTok_blanks hblanks, nextTok_end hplain]
  simp only [hvalue, Option.isSome_some, atoi, Option.getD_some, toInt_of_range h.1.1 h.1.2]

theorem IsNumeral.unique {t : Line} {v w : Int} (h : IsNumeral t v) (h' : IsNumeral t w) : v = w := by
  have heq := h.at_tok_nextint.symm.trans h'.at_tok_nextint
  exact Option.some.inj (congrArg AtTok.Tok.p_out heq)

theorem IsNumeral.blank {t : Line} {v : Int} (h : IsNumeral t v) : IsNumeral (32 :: t) v := by
  obtain ⟨hrange, blanks, digits, hblanks, hrest⟩ := h
  refine ⟨hrange, 32 :: blanks, digits, ?_, ?_⟩
  · intro c hc
    rcases List.mem_cons.1 hc with rfl | hc
    · decide
    · exact hblanks c hc
  · simpa using hrest

theorem number_isNumeral {t : Line} {v : Int} (h : IsNumeral t v) (rest : Line) :
    number 0 (some (t ++ 44 :: rest)) = some v ∧ behind 1 (some (t ++ 44 :: rest)) = some rest := by
  obtain ⟨tok, htok, hvalue⟩ := nextTok_isNumeral h rest
  rw [number, field, behind_zero, htok, behind, htok]
  refine ⟨?_, rfl⟩
  rw [Option.bind_some, hvalue, Option.map_some, toInt_of_range h.1.1 h.1.2]

/-- A number that is not negative has no sign. -/
theorem dash_notMem {t : Line} {v : Int} (h : IsNumeral t v) (hv : 0 ≤ v) : (45 : Byte) ∉ t := by
  obtain ⟨-, blanks, digits, hblanks, -, hdigits, ⟨rfl, -⟩ | ⟨-, -, hneg⟩⟩ := h
  · rw [List.mem_append, not_or]
    exact ⟨fun hmem => absurd (hblanks 45 hmem) (by decide), fun hmem => absurd (hdigits 45 hmem) (by decide)⟩
  · omega

theorem isNumeral_decimal {v : Int} (h : InInt v) : IsNumeral (decimal v) v := by
  refine ⟨h, [], ?_⟩
  cases v with
  | ofNat n =>
    refine ⟨decimal n, by simp, decimal_ne_nil n, isdigit_decimal n, .inl ⟨rfl, ?_⟩⟩
    rw [digitsValue_decimal]
    rfl
  | negSucc n =>
    refine ⟨decimal (n + 1 : Nat), by simp, decimal_ne_nil _, isdigit_decimal _, .inr ⟨decimal_negSucc n, ?_, ?_⟩⟩
    · rw [digitsValue_decimal]
      rfl
    · exact Int.negSucc_lt_zero n

/-! ## A line that is written -/

theorem behindDash_append {pre : Line} (h : (45 : Byte) ∉ pre) (rest : Line) :
    behindDash (pre ++ 45 :: rest) = some rest := by
  have hpos : ∀ c ∈ pre, (c != 45) = true := by
    intro c hc
    simpa using ne_of_mem_of_not_mem hc h
  rw [behindDash, AtTok.at_tok_flag_start, Option.bind_some, List.dropWhile_append_of_pos hpos]
  simp

theorem intercalate_cons (t : Line) {ts : List Line} (h : ts ≠ []) :
    (ascii ",").intercalate (t :: ts) = t ++ 44 :: (ascii ",").intercalate ts := by
  obtain ⟨u, us, rfl⟩ := List.exists_cons_of_ne_nil h
  rw [List.intercalate_cons_cons]
  simp [ascii]

/-- The fields before the last one are read, and the text goes on there. -/
theorem nextints_intercalate {init : List Line} {values : List Int} (h : List.Forall₂ IsNumeral init values)
    (last rest : Line) :
    nextints init.length (some ((ascii ",").intercalate (init ++ [last]) ++ rest)) =
      some (values, some (last ++ rest)) := by
  induction h with
  | nil => simp [nextints, pure_apply]
  | @cons t v init values hnumeral _ ih =>
    obtain ⟨hnumber, hbehind⟩ := number_isNumeral hnumeral ((ascii ",").intercalate (init ++ [last]) ++ rest)
    rw [List.cons_append, intercalate_cons t (by simp), List.append_assoc, List.cons_append, List.length_cons,
      nextints_succ, hnumber, hbehind, ih]
    rfl

theorem head_dashed (cells : List (List Line)) : ∀ c ∈ (cells.flatMap dashed).head?, isdigit c = false := by
  cases cells with
  | nil => simp
  | cons ts cells =>
    intro c hc
    obtain rfl := Option.some.inj hc
    decide

theorem scanCell_written {rat : Int} {init : List Line} {last pre rest : Line} {values : List Int} {v : Int}
    (hinit : List.Forall₂ IsNumeral init values) (hlast : IsNumeral last v) (hlen : init.length = cellFields rat - 1)
    (hpre : (45 : Byte) ∉ pre) (hrest : ∀ c ∈ rest.head?, isdigit c = false) :
    scanCell rat (pre ++ (dashed (init ++ [last]) ++ rest)) = .ok (values ++ [v], last ++ rest) := by
  rw [scanCell, dashed, List.cons_append, behindDash_append hpre, ← hlen]
  simp only [nextints_intercalate hinit, atoi_isNumeral hlast hrest]

/-- The cells are read in order. -/
theorem scanCells_written {rat : Int} {cells : List (List Line)} {groups : List (List Int)}
    (h : List.Forall₂ (List.Forall₂ IsNumeral) cells groups) (hfields : ∀ g ∈ groups, g.length = cellFields rat)
    (hlast : ∀ g ∈ groups.dropLast, 0 ≤ g.getLastD 0) {pre : Line} (hpre : groups ≠ [] → (45 : Byte) ∉ pre) {n : Nat}
    (hn : n ≤ groups.length) : scanCells rat n (pre ++ cells.flatMap dashed) = .ok (groups.take n) := by
  induction h generalizing pre n with
  | nil =>
    obtain rfl : n = 0 := Nat.le_zero.1 hn
    rfl
  | @cons ts g cells groups hcell _ ih =>
    cases n with
    | zero => rfl
    | succ n =>
      have hlen := hfields g List.mem_cons_self
      have hne : g ≠ [] := by
        rintro rfl
        rw [cellFields] at hlen
        split at hlen
        · cases hlen
        · cases hlen
      obtain ⟨values, v, rfl⟩ : ∃ values v, g = values ++ [v] :=
        ⟨g.dropLast, g.getLast hne, (List.dropLast_concat_getLast hne).symm⟩
      obtain ⟨init, last, rfl, hinit, hnumeral⟩ : ∃ init last, ts = init ++ [last] ∧
          List.Forall₂ IsNumeral init values ∧ IsNumeral last v := by
        have hfirst := List.forall₂_take_append ts values [v] hcell
        have hrest := List.forall₂_drop_append ts values [v] hcell
        have hsplit := (List.take_append_drop values.length ts).symm
        cases hdrop : ts.drop values.length with
        | nil =>
          rw [hdrop] at hrest
          cases hrest
        | cons last more =>
          rw [hdrop] at hrest hsplit
          cases hrest with
          | cons hnumeral hmore =>
            cases hmore
            exact ⟨_, last, hsplit, hfirst, hnumeral⟩
      have hrest := head_dashed cells
      have hinitlen : init.length = cellFields rat - 1 := by
        rw [hinit.length_eq, ← hlen, List.length_append, List.length_singleton]
        omega
      have hnext : groups ≠ [] → (45 : Byte) ∉ last := by
        intro hgroups
        have hmem : values ++ [v] ∈ ((values ++ [v]) :: groups).dropLast := by
          rw [List.dropLast_cons_of_ne_nil hgroups]
          exact List.mem_cons_self
        have hpos := hlast _ hmem
        rw [List.getLastD_concat] at hpos
        exact dash_notMem hnumeral hpos
      have hstep := scanCell_written hinit hnumeral hinitlen (hpre (by simp)) hrest
      have hlast' : ∀ g ∈ groups.dropLast, 0 ≤ g.getLastD 0 := by
        intro g hg
        have hgroups : groups ≠ [] := List.ne_nil_of_mem (List.dropLast_subset groups hg)
        refine hlast g ?_
        rw [List.dropLast_cons_of_ne_nil hgroups]
        exact List.mem_cons_of_mem _ hg
      have hfollowing := ih (fun g hg => hfields g (List.mem_cons_of_mem _ hg)) hlast' hnext (Nat.le_of_succ_le_succ hn)
      rw [scanCells, List.flatMap_cons, hstep]
      simp only [bind, Except.bind, hfollowing]
      rfl

/-! ## The report of a line -/

theorem four_first {l : List Int} {n : Nat} (h : l.length = n + 4) :
    ∃ a b c d rest, l = a :: b :: c :: d :: rest ∧ rest.length = n := by
  obtain ⟨a, l, rfl⟩ := List.exists_cons_of_length_eq_add_one h
  obtain ⟨b, l, rfl⟩ := List.exists_cons_of_length_eq_add_one (Nat.succ.inj h)
  obtain ⟨c, l, rfl⟩ := List.exists_cons_of_length_eq_add_one (Nat.succ.inj (Nat.succ.inj h))
  obtain ⟨d, l, rfl⟩ := List.exists_cons_of_length_eq_add_one (Nat.succ.inj (Nat.succ.inj (Nat.succ.inj h)))
  exact ⟨a, b, c, d, l, rfl, by simpa using h⟩

theorem cell_cases {rat : Int} {g : List Int} (h : g.length = cellFields rat) :
    rat = 0 ∧ (∃ cid arfcn bsic rssi mcc mnc mnc_digit lac, g = [cid, arfcn, bsic, rssi, mcc, mnc, mnc_digit, lac]) ∨
      rat ≠ 0 ∧ ∃ cid channel code rssi level mcc mnc mnc_digit area,
        g = [cid, channel, code, rssi, level, mcc, mnc, mnc_digit, area] := by
  rw [cellFields] at h
  split at h
  · next hrat =>
    obtain ⟨cid, arfcn, bsic, rssi, rest, rfl, hrest⟩ := four_first h
    obtain ⟨mcc, mnc, mnc_digit, lac, empty, rfl, hnone⟩ := four_first hrest
    rw [List.length_eq_zero_iff] at hnone
    exact .inl ⟨hrat, cid, arfcn, bsic, rssi, mcc, mnc, mnc_digit, lac, by rw [hnone]⟩
  · next hrat =>
    obtain ⟨cid, channel, code, rssi, rest, rfl, hrest⟩ := four_first h
    obtain ⟨level, mcc, mnc, mnc_digit, last, rfl, hlast⟩ := four_first hrest
    obtain ⟨area, rfl⟩ := List.length_eq_one_iff.1 hlast
    exact .inr ⟨hrat, cid, channel, code, rssi, level, mcc, mnc, mnc_digit, area, rfl⟩

/-- A row is that of the documented cell, unless the technology is TD-SCDMA or `bsic` is cut. -/
theorem scannedRow_iff {rat : Int} (hrat : 0 ≤ rat ∧ rat ≤ 3) {g : List Int} (h : g.length = cellFields rat) :
    scannedRow rat g = scanRow (documentedType rat) (documentedInfo rat g) ↔
      rat ≠ 2 ∧ (rat = 0 → 0 ≤ g.getD 2 0 ∧ g.getD 2 0 < 2 ^ 8) := by
  rcases cell_cases h with ⟨rfl, cid, arfcn, bsic, rssi, mcc, mnc, mnc_digit, lac, rfl⟩ |
    ⟨hne, cid, channel, code, rssi, level, mcc, mnc, mnc_digit, area, rfl⟩
  · have hbyte := toByte_iff (n := bsic)
    simp [scannedRow, scanRow, scanType, scanInfo, documentedType, documentedInfo]
    rw [eq_comm]
    exact hbyte
  · have hcases : rat = 1 ∨ rat = 2 ∨ rat = 3 := by omega
    rcases hcases with rfl | rfl | rfl
    · simp [scannedRow, scanRow, scanType, scanInfo, documentedType, documentedInfo]
    · simp [scannedRow, scanRow, scanType, scanInfo, documentedType, documentedInfo]
    · simp [scannedRow, scanRow, scanType, scanInfo, documentedType, documentedInfo]

theorem reads_scan {rat : Int} {groups : List (List Int)} {line : Line} (h : Reads rat groups line) :
    atoi line = rat ∧ InInt groups.length ∧ ∃ tmp, (AtTok.strsep line 45).2 = some tmp ∧
      strtol tmp = some (groups.length : Int) ∧ scanCells rat groups.length tmp = .ok groups := by
  obtain ⟨head, count, cells, hhead, hcount, hcells, rfl⟩ := h.text
  have hdash : (45 : Byte) ∉ head := dash_notMem hhead h.known.1
  have hdash' : (45 : Byte) ∉ count := dash_notMem hcount (by omega)
  have hrest := head_dashed cells
  refine ⟨atoi_isNumeral hhead (by simp; decide), hcount.1, _, by rw [strsep_append hdash],
    strtol_isNumeral hcount hrest, ?_⟩
  rw [scanCells_written hcells h.fields h.last (fun _ => hdash') le_rfl, List.take_length]

theorem process_of_reads {rat : Int} {groups : List (List Int)} {line : Line} (h : Reads rat groups line)
    (room : Nat → Bool) :
    processNetworkScanResults room line =
      if groups = [] ∨ room groups.length = true then
        .reports
          { status := .PARTIAL
            network_infos_length := groups.length
            network_infos := some (groups.map (scannedRow rat)) }
      else .crashes := by
  obtain ⟨hrat, hint, tmp, htmp, hstrtol, hscan⟩ := reads_scan h
  have hknown := h.known
  have hcount : atoi tmp = groups.length := by
    rw [atoi, hstrtol, Option.getD_some]
    exact toInt_of_range hint.1 hint.2
  unfold processNetworkScanResults
  simp only [hrat, htmp, hcount]
  rw [if_neg (by omega), if_pos hknown.2]
  have hcells : (groups.length : Int).toNat = groups.length := Int.toNat_natCast _
  rw [hcells, hscan]
  by_cases hempty : groups = []
  · simp [hempty]
  · have hpos : 0 < groups.length := List.length_pos_iff.2 hempty
    cases hroom : room groups.length with
    | true =>
      have hhigh := hint.2
      have hmod : (groups.length : Int) % 2 ^ 32 = groups.length := Int.emod_eq_of_lt (by omega) (by omega)
      simp only [hmod]
      simp [hempty]
    | false => simp [hempty, hpos]

/-- A line of this form is decoded exactly if its cells are right. -/
theorem rows_iff {rat : Int} (hrat : 0 ≤ rat ∧ rat ≤ 3) {groups : List (List Int)} (hne : groups ≠ [])
    (hfields : ∀ g ∈ groups, g.length = cellFields rat) :
    (groups.map (scannedRow rat) = groups.map fun g => scanRow (documentedType rat) (documentedInfo rat g)) ↔
      RightCells rat groups := by
  rw [List.map_inj_left, RightCells]
  constructor
  · intro h
    obtain ⟨g, hg⟩ := List.exists_mem_of_ne_nil groups hne
    refine ⟨((scannedRow_iff hrat (hfields g hg)).1 (h g hg)).1, fun hzero g hg => ?_⟩
    exact ((scannedRow_iff hrat (hfields g hg)).1 (h g hg)).2 hzero
  · rintro ⟨hne, hbsic⟩ g hg
    exact (scannedRow_iff hrat (hfields g hg)).2 ⟨hne, fun hzero => hbsic hzero g hg⟩

theorem dashed_commas (groups : List (List Int)) :
    (groups.flatMap fun g => 45 :: Handlers.commas g) = (groups.map fun g => g.map decimal).flatMap dashed := by
  rw [List.flatMap_map]
  rfl

theorem isNumeral_fields {rat : Int} {groups : List (List Int)}
    (h : ∀ g ∈ groups, g.length = cellFields rat ∧ ∀ v ∈ g, InInt v) :
    List.Forall₂ (List.Forall₂ IsNumeral) (groups.map fun g => g.map decimal) groups := by
  rw [List.forall₂_map_left_iff, List.forall₂_same]
  intro g hg
  rw [List.forall₂_map_left_iff, List.forall₂_same]
  exact fun v hv => isNumeral_decimal ((h g hg).2 v hv)

theorem dash_notMem_decimal (n : Nat) : (45 : Byte) ∉ decimal n :=
  fun hmem => absurd (isdigit_decimal n 45 hmem) (by decide)

/-- However many cells there are, those that are asked for are read. -/
theorem documented_scan {rat : Int} {groups : List (List Int)} {line : Line} (h : Documented rat groups line) :
    atoi line = rat ∧ (45 : Byte) ∈ line ∧ ∃ tmp, (AtTok.strsep line 45).2 = some tmp ∧
      strtol tmp = some (min (groups.length : Int) (2 ^ 63 - 1)) ∧
      ∀ n ≤ groups.length, scanCells rat n tmp = .ok (groups.take n) := by
  obtain ⟨hlow, hhigh⟩ := h.known
  have hrat : IsNumeral (decimal rat) rat := isNumeral_decimal ⟨by omega, by omega⟩
  have hcells := isNumeral_fields h.fields
  have hvalue := digitsValue_decimal groups.length
  have hcount := strtol_saturates (decimal_ne_nil groups.length) (isdigit_decimal groups.length)
    (head_dashed (groups.map fun g => g.map decimal))
  rw [hvalue] at hcount
  have hlast : ∀ g ∈ groups.dropLast, 0 ≤ g.getLastD 0 := fun g hg => (h.ends g (List.dropLast_subset groups hg)).2
  rw [h.text, dashed_commas]
  refine ⟨atoi_isNumeral hrat (by simp; decide), by simp, _, by rw [strsep_append (dash_notMem hrat hlow)], hcount, ?_⟩
  exact fun n hn => scanCells_written hcells (fun g hg => (h.fields g hg).1) hlast
    (fun _ => dash_notMem_decimal groups.length) hn

theorem reads_of_documented {rat : Int} {groups : List (List Int)} {line : Line} (h : Documented rat groups line)
    (hint : InInt groups.length) : Reads rat groups line where
  known := h.known
  fields := fun g hg => (h.fields g hg).1
  last := fun g hg => (h.ends g (List.dropLast_subset groups hg)).2
  text := by
    have hknown := h.known
    refine ⟨decimal rat, decimal groups.length, _, isNumeral_decimal ⟨by omega, by omega⟩, isNumeral_decimal hint,
      isNumeral_fields h.fields, ?_⟩
    rw [← dashed_commas]
    exact h.text

/-! ## Every line -/

theorem process_of_over {line : Line} (h : atoi line < 0 ∨ atoi line = 255 ∨ atoi line = 254) (room : Nat → Bool) :
    processNetworkScanResults room line = .reports scanComplete := by
  unfold processNetworkScanResults
  exact if_pos h

theorem strsep_none_iff (line : Line) : (AtTok.strsep line 45).2 = none ↔ (45 : Byte) ∉ line := by
  constructor
  · intro h hmem
    obtain ⟨pre, rest, rfl, hpre⟩ := List.eq_append_cons_of_mem hmem
    rw [strsep_append hpre] at h
    cases h
  · intro h
    have hpos : ∀ c ∈ line, (c != 45) = true := by
      intro c hc
      simpa using ne_of_mem_of_not_mem hc h
    rw [AtTok.strsep, List.dropWhile_eq_nil_iff.2 hpos]
    rfl

theorem process_of_notMem {line : Line} (h : (45 : Byte) ∉ line) (room : Nat → Bool) :
    processNetworkScanResults room line = .reports scanComplete := by
  unfold processNetworkScanResults
  simp only [(strsep_none_iff line).2 h]
  split
  · rfl
  · rfl

theorem atoi_mod_eq_zero_iff (text : Line) : (atoi text % 2 ^ 32).toNat = 0 ↔ atoi text = 0 := by
  have hint := inInt_toInt ((strtol text).getD 0)
  rw [← atoi] at hint
  obtain ⟨hlow, hhigh⟩ := hint
  omega

section

variable {line tmp : Line} (room : Nat → Bool) (hover : ¬ (atoi line < 0 ∨ atoi line = 255 ∨ atoi line = 254))
  (htmp : (AtTok.strsep line 45).2 = some tmp)

include hover htmp

theorem process_of_few (h : atoi tmp ≤ 0) :
    processNetworkScanResults room line =
      .reports
        { status := .PARTIAL
          network_infos_length := (atoi tmp % 2 ^ 32).toNat
          network_infos := if atoi tmp = 0 then some [] else none } := by
  unfold processNetworkScanResults
  rw [if_neg hover]
  simp only [htmp]
  have hcells : (atoi tmp).toNat = 0 := Int.toNat_of_nonpos h
  rw [hcells]
  by_cases hzero : atoi tmp = 0
  · simp [hzero, scanCells]
  · have hneg : ¬ 0 ≤ atoi tmp := by omega
    have hpos : ¬ 0 < atoi tmp := by omega
    simp [hzero, hneg, hpos, scanCells]

theorem process_of_many (h : 0 < atoi tmp) (hrat : atoi line ≤ 3) :
    processNetworkScanResults room line =
      if room (atoi tmp).toNat = true then
        match scanCells (atoi line) (atoi tmp).toNat tmp with
        | .error .crashes => .crashes
        | .error .out => .silent
        | .ok groups =>
          .reports
            { status := .PARTIAL
              network_infos_length := (atoi tmp % 2 ^ 32).toNat
              network_infos := some (groups.map (scannedRow (atoi line))) }
      else .crashes := by
  unfold processNetworkScanResults
  rw [if_neg hover]
  simp only [htmp]
  have hnonneg : 0 ≤ atoi tmp := by omega
  have hne : atoi tmp ≠ 0 := by omega
  rw [if_pos hrat]
  cases hroom : room (atoi tmp).toNat with
  | false => simp [h, hne]
  | true => simp [h, hnonneg]

theorem process_of_unknown (hrat : ¬ atoi line ≤ 3) :
    ∃ infos, processNetworkScanResults room line =
      .reports
        { status := .PARTIAL, network_infos_length := (atoi tmp % 2 ^ 32).toNat, network_infos := infos } := by
  unfold processNetworkScanResults
  rw [if_neg hover]
  simp only [htmp]
  rw [if_neg hrat]
  exact ⟨_, rfl⟩

/-- Nothing is reported exactly where a cell breaks off at a field. -/
theorem process_silent_iff :
    processNetworkScanResults room line = .silent ↔
      0 < atoi tmp ∧ room (atoi tmp).toNat = true ∧ atoi line ≤ 3 ∧ Unreadable (atoi line) (atoi tmp).toNat tmp := by
  rw [← scanCells_out_iff]
  by_cases hpos : 0 < atoi tmp
  · by_cases hrat : atoi line ≤ 3
    · rw [process_of_many room hover htmp hpos hrat]
      cases room (atoi tmp).toNat with
      | false => simp
      | true => cases scanCells (atoi line) (atoi tmp).toNat tmp with
        | error e => cases e with
          | crashes => simp
          | out => simp [hpos, hrat]
        | ok groups => simp
    · obtain ⟨infos, hprocess⟩ := process_of_unknown room hover htmp hrat
      simp [hprocess, hrat]
  · rw [process_of_few room hover htmp (by omega)]
    simp [hpos]

/-- No cells are reported only where their number is 0. -/
theorem process_zero {r : RIL_NetworkScanResult} (h : processNetworkScanResults room line = .reports r) :
    r.network_infos_length = 0 ↔ atoi tmp = 0 := by
  rw [← atoi_mod_eq_zero_iff]
  by_cases hpos : 0 < atoi tmp
  · by_cases hrat : atoi line ≤ 3
    · rw [process_of_many room hover htmp hpos hrat] at h
      split at h
      · cases hcells : scanCells (atoi line) (atoi tmp).toNat tmp with
        | error e =>
          cases e with
          | crashes => simp [hcells] at h
          | out => simp [hcells] at h
        | ok groups =>
          simp only [hcells, Scanned.reports.injEq] at h
          rw [← h]
      · cases h
    · obtain ⟨infos, hprocess⟩ := process_of_unknown room hover htmp hrat
      rw [hprocess, Scanned.reports.injEq] at h
      rw [← h]
  · rw [process_of_few room hover htmp (by omega), Scanned.reports.injEq] at h
    rw [← h]

end

theorem reads_count {rat : Int} {groups : List (List Int)} {line tmp : Line} (h : Reads rat groups line)
    (htmp : (AtTok.strsep line 45).2 = some tmp) : atoi tmp = groups.length := by
  obtain ⟨-, hint, tmp', htmp', hstrtol, -⟩ := reads_scan h
  obtain rfl := Option.some.inj (htmp.symm.trans htmp')
  rw [atoi, hstrtol, Option.getD_some]
  exact toInt_of_range hint.1 hint.2

/-- The number that is read is not above that of the cells. -/
theorem documented_count {rat : Int} {groups : List (List Int)} {line tmp : Line} (h : Documented rat groups line)
    (htmp : (AtTok.strsep line 45).2 = some tmp) : (atoi tmp).toNat ≤ groups.length := by
  obtain ⟨-, -, tmp', htmp', hstrtol, -⟩ := documented_scan h
  obtain rfl := Option.some.inj (htmp.symm.trans htmp')
  rw [atoi, hstrtol, Option.getD_some, toInt, Int.bmod_eq_emod]
  have hnonneg : 0 ≤ min (groups.length : Int) (2 ^ 63 - 1) := by omega
  split
  · omega
  · omega

/-- The cells of a documented line are those that are read. -/
theorem documented_unique {rat rat' : Int} {groups groups' : List (List Int)} {line : Line}
    (h : Reads rat groups line) (hdoc : Documented rat' groups' line) : rat' = rat ∧ groups' = groups := by
  obtain ⟨hrat, hint, tmp, htmp, hstrtol, hscan⟩ := reads_scan h
  obtain ⟨hrat', -, tmp', htmp', hstrtol', hscan'⟩ := documented_scan hdoc
  obtain rfl := Option.some.inj (htmp.symm.trans htmp')
  obtain rfl : rat' = rat := hrat'.symm.trans hrat
  have hlen := Option.some.inj (hstrtol.symm.trans hstrtol')
  have hbound := hint.2
  obtain hlen : groups.length = groups'.length := by omega
  have hall := hscan' groups.length hlen.le
  rw [hscan, Except.ok.injEq, hlen, List.take_length] at hall
  exact ⟨rfl, hall.symm⟩

theorem fits_of_decodes {room : Nat → Bool} {line : Line} (h : Decodes room line) : ScanFits room line := by
  obtain ⟨hdoc, hwrong⟩ := h
  by_cases hover : atoi line < 0 ∨ atoi line = 255 ∨ atoi line = 254
  · rcases hover with hover | hover | hover
    · exact .inl (.inl hover)
    · exact .inl (.inr (.inl hover))
    · exact .inl (.inr (.inr (.inl hover)))
  cases htmp : (AtTok.strsep line 45).2 with
  | none => exact .inl (.inr (.inr (.inr ((strsep_none_iff line).1 htmp))))
  | some tmp =>
    refine .inr ⟨tmp, htmp, ?_⟩
    have hnone {r : RIL_NetworkScanResult} (hr : processNetworkScanResults room line = .reports r)
        (hzero : r.network_infos_length = 0) :
        atoi tmp = 0 ∧ ∀ rat groups, Documented rat groups line → groups = [] := by
      refine ⟨(process_zero room hover htmp hr).1 hzero, fun rat groups hline => ?_⟩
      have hsame := hr.symm.trans (hdoc rat groups hline)
      rw [Scanned.reports.injEq] at hsame
      rw [hsame] at hzero
      exact List.length_eq_zero_iff.1 hzero
    cases hprocess : processNetworkScanResults room line with
    | crashes =>
      rw [hprocess] at hwrong
      exact hwrong.elim
    | silent =>
      obtain ⟨hpos, hroom, hrat, hfield⟩ := (process_silent_iff room hover htmp).1 hprocess
      exact .inr ⟨hpos, hroom, .inl ⟨hrat, hfield⟩⟩
    | reports r =>
      rw [hprocess] at hwrong
      rcases hwrong with hzero | ⟨rat, groups, hreads, rfl⟩
      · exact .inl (hnone hprocess hzero)
      · by_cases hempty : groups = []
        · exact .inl (hnone hprocess (by rw [hempty]; rfl))
        · have hcount := reads_count hreads htmp
          have hpos : 0 < groups.length := List.length_pos_iff.2 hempty
          rw [process_of_reads hreads] at hprocess
          split at hprocess
          · next hroom =>
            have hroom := hroom.resolve_left hempty
            rw [Scanned.reports.injEq, documentedResult, RIL_NetworkScanResult.mk.injEq, Option.some.injEq] at hprocess
            have hright := (rows_iff hreads.known hempty hreads.fields).1 hprocess.2.2
            refine .inr ⟨by omega, ?_, .inr ⟨rat, groups, hreads, hright⟩⟩
            rw [hcount, Int.toNat_natCast]
            exact hroom
          · cases hprocess

theorem nothingWrong_of_over {room : Nat → Bool} {line : Line}
    (h : atoi line < 0 ∨ atoi line = 255 ∨ atoi line = 254 ∨ (45 : Byte) ∉ line) :
    NothingWrong line (processNetworkScanResults room line) := by
  by_cases hcode : atoi line < 0 ∨ atoi line = 255 ∨ atoi line = 254
  · rw [process_of_over hcode]
    exact .inl rfl
  · rw [process_of_notMem (by tauto)]
    exact .inl rfl

theorem not_documented_of_over {line : Line}
    (h : atoi line < 0 ∨ atoi line = 255 ∨ atoi line = 254 ∨ (45 : Byte) ∉ line) (rat : Int)
    (groups : List (List Int)) : ¬ Documented rat groups line := by
  intro hdoc
  obtain ⟨hrat, hmem, -⟩ := documented_scan hdoc
  have hknown := hdoc.known
  rw [← hrat] at hknown
  rcases h with h | h | h | h
  · omega
  · omega
  · omega
  · exact h hmem

theorem decodes_of_fits {room : Nat → Bool} {line : Line} (h : ScanFits room line) : Decodes room line := by
  by_cases hover : atoi line < 0 ∨ atoi line = 255 ∨ atoi line = 254 ∨ (45 : Byte) ∉ line
  · exact ⟨fun rat groups hdoc => absurd hdoc (not_documented_of_over hover rat groups), nothingWrong_of_over hover⟩
  obtain ⟨tmp, htmp, hcases⟩ := h.resolve_left hover
  have hcode : ¬ (atoi line < 0 ∨ atoi line = 255 ∨ atoi line = 254) := by tauto
  rcases hcases with ⟨hzero, hempty⟩ | ⟨hpos, hroom, ⟨hrat, hfield⟩ | ⟨rat, groups, hreads, hright⟩⟩
  · constructor
    · intro rat groups hdoc
      obtain rfl := hempty rat groups hdoc
      rw [process_of_reads (reads_of_documented hdoc ⟨by simp, by simp⟩), if_pos (.inl rfl)]
      rfl
    · rw [process_of_few room hcode htmp hzero.le]
      exact .inl ((atoi_mod_eq_zero_iff tmp).2 hzero)
  · constructor
    · intro rat groups hdoc
      obtain ⟨hline, -, tmp', htmp', -, hscan⟩ := documented_scan hdoc
      obtain rfl := Option.some.inj (htmp.symm.trans htmp')
      rw [← scanCells_out_iff, hline, hscan _ (documented_count hdoc htmp)] at hfield
      cases hfield
    · rw [(process_silent_iff room hcode htmp).2 ⟨hpos, hroom, hrat, hfield⟩]
      exact trivial
  · have hcount := reads_count hreads htmp
    rw [hcount] at hpos hroom
    have hne : groups ≠ [] := List.length_pos_iff.1 (by omega)
    have hprocess := process_of_reads hreads room
    rw [if_pos (.inr hroom), (rows_iff hreads.known hne hreads.fields).2 hright] at hprocess
    constructor
    · intro rat' groups' hdoc
      obtain ⟨rfl, rfl⟩ := documented_unique hreads hdoc
      exact hprocess
    · rw [hprocess]
      exact .inr ⟨rat, groups, hreads, rfl⟩

/-- **A scan is decoded** exactly if it is over, names no cells, breaks off at a field, or its cells are right. -/
theorem decodes_iff (room : Nat → Bool) (line : Line) : Decodes room line ↔ ScanFits room line :=
  ⟨fits_of_decodes, decodes_of_fits⟩

/-- A cell of TD-SCDMA is reported as one of CDMA. -/
theorem decodes_fails_td : ¬ Decodes (fun _ => true) (ascii "2-1-1,9596,0,62,-96,460,44,2,1") := by
  intro h
  have hdoc : Documented 2 [[1, 9596, 0, 62, -96, 460, 44, 2, 1]] (ascii "2-1-1,9596,0,62,-96,460,44,2,1") := by
    constructor
    · decide
    · simp [cellFields, InInt]
    · simp
    · decide
  have hreport := h.1 _ _ hdoc
  exact absurd hreport (by decide +kernel)

end UniRil.NetworkRequests
