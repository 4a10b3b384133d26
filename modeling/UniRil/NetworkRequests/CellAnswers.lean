import UniRil.NetworkRequests.CellInfo
import UniRil.Sim.Ownership

/-!
# What the answers about cells say

The fields a reader takes, by their places; the groups of the neighbours; the bit error rate of AT+CSQ, which may be
missing; and the digits of the numeric.
-/

namespace UniRil.NetworkRequests

open Flows Handlers
open AtTok (Line toInt)
open Sim (lineOf)

/-! ## What is read -/

section

variable {cur : Option Line}

theorem readCops_eq_some {v : (Line × Int) × Option Line} (h : readCops cur = some v) :
    field 2 cur = some v.1.1 ∧ number 3 cur = some v.1.2 := by
  rw [← behind_zero cur] at h
  simp only [readCops, bind_nextint_eq_some, bind_nextstr_eq_some, pure_eq_some] at h
  obtain ⟨-, -, -, -, plmn, hplmn, netType, hnetType, rfl⟩ := h
  exact ⟨hplmn, hnetType⟩

variable (s : Serving) {v : (CellInfo × Int) × Option Line}

theorem servingLte_eq_some :
    servingLte s cur = some v ↔
      ∃ arfcn pci rsrp rsrq n, number 0 cur = some arfcn ∧ number 1 cur = some pci ∧ number 2 cur = some rsrp ∧
        number 3 cur = some rsrq ∧ number 4 cur = some n ∧
        v = ((.lte
          { mcc := s.mcc, mnc := s.mnc, mnc_digit := s.mnc_digit, ci := s.registration.cid, pci := pci,
            tac := s.registration.lac, earfcn := arfcn } (lteStrength rsrp rsrq), n), behind 5 cur) := by
  rw [← behind_zero cur]
  simp only [servingLte, bind_nextint_eq_some, pure_eq_some]
  simp only [behind_zero, exists_and_left, eq_comm]

theorem servingGsm_eq_some :
    servingGsm s cur = some v ↔
      ∃ skip sskip arfcn bsic n, field 0 cur = some skip ∧ number 1 cur = some sskip ∧ number 2 cur = some arfcn ∧
        number 3 cur = some bsic ∧ number 4 cur = some n ∧
        v = ((.gsm
          { mcc := s.mcc, mnc := s.mnc, mnc_digit := s.mnc_digit, lac := s.registration.lac, cid := s.registration.cid,
            arfcn := arfcn, bsic := toByte bsic }
          { signalStrength := s.signals.sig2G, bitErrorRate := s.signals.biterr2G, timingAdvance := INT_MAX }, n),
          behind 5 cur) := by
  rw [← behind_zero cur]
  simp only [servingGsm, bind_nextint_eq_some, bind_nextstr_eq_some, pure_eq_some]
  simp only [behind_zero, exists_and_left, eq_comm]

/-- The serving cell of WCDMA. -/
def wcdmaOf (s : Serving) (arfcn psc : Int) : CellInfo :=
  .wcdma
    { mcc := s.mcc, mnc := s.mnc, mnc_digit := s.mnc_digit, lac := s.registration.lac, cid := s.registration.cid,
      psc := psc, uarfcn := arfcn }
    { signalStrength := s.signals.sig3G, bitErrorRate := s.signals.biterr3G }

theorem servingWcdma_eq_some :
    servingWcdma s cur = some v ↔
      ∃ skip sskip arfcn, field 0 cur = some skip ∧ number 1 cur = some sskip ∧ number 2 cur = some arfcn ∧
        if AtTok.at_tok_hasmore (behind 3 cur) = true then
          ∃ psc n, number 3 cur = some psc ∧ number 4 cur = some n ∧ v = ((wcdmaOf s arfcn psc, n), behind 5 cur)
        else v = ((wcdmaOf s arfcn INT_MAX, 0), behind 3 cur) := by
  rw [← behind_zero cur]
  simp only [servingWcdma, bind_nextint_eq_some, bind_nextstr_eq_some, bind_hasmore, pure_bind]
  cases hmore : AtTok.at_tok_hasmore (behind 3 cur) with
  | false =>
    simp only [hmore, behind_zero, Bool.false_eq_true, if_false, pure_eq_some]
    simp only [exists_and_left, eq_comm, wcdmaOf]
  | true =>
    simp only [hmore, behind_zero, if_true, bind_nextint_eq_some, pure_eq_some]
    simp only [exists_and_left, eq_comm, wcdmaOf]

/-- The number of the neighbours has its place, and the groups follow; what is known does not matter to either. -/
theorem serving_eq_some {cellType : RIL_CellInfoType} {info : CellInfo} {n : Int} {line : Option Line}
    (h : serving cellType s cur = some ((info, n), line)) :
    (number 4 cur).getD 0 = n ∧ InInt n ∧ (n ≠ 0 → line = behind 5 cur) ∧ info.code = some (s.mcc, s.mnc) ∧
      ∀ s', ∃ info', serving cellType s' cur = some ((info', n), line) := by
  unfold serving at h ⊢
  split at h
  · obtain ⟨arfcn, pci, rsrp, rsrq, n, h0, h1, h2, h3, h4, heq⟩ := (servingLte_eq_some s).1 h
    cases heq
    refine ⟨by rw [h4]; rfl, inInt_number h4, fun _ => rfl, rfl, fun s' => ?_⟩
    exact ⟨_, (servingLte_eq_some s').2 ⟨_, _, _, _, _, h0, h1, h2, h3, h4, rfl⟩⟩
  · obtain ⟨skip, sskip, arfcn, bsic, n, h0, h1, h2, h3, h4, heq⟩ := (servingGsm_eq_some s).1 h
    cases heq
    refine ⟨by rw [h4]; rfl, inInt_number h4, fun _ => rfl, rfl, fun s' => ?_⟩
    exact ⟨_, (servingGsm_eq_some s').2 ⟨_, _, _, _, _, h0, h1, h2, h3, h4, rfl⟩⟩
  · obtain ⟨skip, sskip, arfcn, h0, h1, h2, hrest⟩ := (servingWcdma_eq_some s).1 h
    split at hrest
    · next hmore =>
      obtain ⟨psc, n, h3, h4, heq⟩ := hrest
      cases heq
      refine ⟨by rw [h4]; rfl, inInt_number h4, fun _ => rfl, rfl, fun s' => ?_⟩
      refine ⟨wcdmaOf s' arfcn psc, (servingWcdma_eq_some s').2 ⟨_, _, _, h0, h1, h2, ?_⟩⟩
      rw [if_pos hmore]
      exact ⟨_, _, h3, h4, rfl⟩
    · next hmore =>
      cases hrest
      have hnone : number 4 cur = none := by
        have hplace := number_of_hasmore (Bool.eq_false_of_not_eq_true hmore) 0
        rwa [number_behind] at hplace
      refine ⟨by rw [hnone]; rfl, ⟨by decide, by decide⟩, fun hne => absurd rfl hne, rfl, fun s' => ?_⟩
      refine ⟨wcdmaOf s' arfcn INT_MAX, (servingWcdma_eq_some s').2 ⟨_, _, _, h0, h1, h2, ?_⟩⟩
      rw [if_neg hmore]

end

/-! ## Groups -/

def groupWidth : RIL_CellInfoType → Nat
  | .LTE => 4
  | .GSM => 4
  | _ => 3

/-- Both numbers of a text. -/
def areaOf (text : Line) : Option (Int × Int) :=
  (scan04x text).bind fun lac => (scan04x lac.2).map fun cid => (lac.1, cid.1)

/-- The cell a group gives. -/
def neighbourOf : RIL_CellInfoType → Option Line → Option CellInfo
  | .LTE, g => do
    let arfcn ← number 0 g
    let pci ← number 1 g
    let rsrp ← number 2 g
    let rsrq ← number 3 g
    pure (.lte (lteIdentity pci arfcn) (lteStrength rsrp rsrq))
  | .GSM, g => do
    let text ← field 0 g
    let area ← areaOf text
    let sig2G ← number 1 g
    let arfcn ← number 2 g
    let bsic ← number 3 g
    pure (.gsm (gsmIdentity area arfcn bsic) (gsmStrength (clamped ((sig2G + 3).tdiv 2))))
  | _, g => do
    let arfcn ← number 0 g
    let psc ← number 1 g
    let sig3G ← number 2 g
    pure (.wcdma (wcdmaIdentity arfcn psc)
      { signalStrength := clamped ((sig3G - 3).tdiv 2), bitErrorRate := INT_MAX })

/-- The group can be read. -/
def GroupRead : RIL_CellInfoType → Option Line → Prop
  | .LTE, g => (number 0 g).isSome ∧ (number 1 g).isSome ∧ (number 2 g).isSome ∧ (number 3 g).isSome
  | .GSM, g => (field 0 g).isSome ∧ (number 1 g).isSome ∧ (number 2 g).isSome ∧ (number 3 g).isSome
  | _, g => (number 0 g).isSome ∧ (number 1 g).isSome ∧ (number 2 g).isSome

/-- Nothing of the group is cut, and no old value stands in for a missing one. -/
def GroupFits : RIL_CellInfoType → Option Line → Prop
  | .LTE, _ => True
  | .GSM, g =>
    (∀ text, field 0 g = some text → (areaOf text).isSome) ∧
      (∀ sig2G, number 1 g = some sig2G → sig2G < 2 ^ 31 - 3) ∧
      ∀ bsic, number 3 g = some bsic → 0 ≤ bsic ∧ bsic < 2 ^ 8
  | _, g => ∀ sig3G, number 2 g = some sig3G → -2 ^ 31 + 3 ≤ sig3G

section

variable {g : Option Line} {area : Int × Int} {v : (CellInfo × (Int × Int)) × Option Line}

theorem neighbourLte_eq_some :
    neighbour .LTE area g = some v ↔
      ∃ arfcn pci rsrp rsrq, number 0 g = some arfcn ∧ number 1 g = some pci ∧ number 2 g = some rsrp ∧
        number 3 g = some rsrq ∧ v = ((.lte (lteIdentity pci arfcn) (lteStrength rsrp rsrq), area), behind 4 g) := by
  rw [← behind_zero g]
  simp only [neighbour, neighbourLte, map_eq_pure_bind, bind_assoc, pure_bind, bind_nextint_eq_some, pure_eq_some]
  simp only [behind_zero, exists_and_left, eq_comm]

theorem neighbourGsm_eq_some :
    neighbour .GSM area g = some v ↔
      ∃ skip sig2G arfcn bsic, field 0 g = some skip ∧ number 1 g = some sig2G ∧ number 2 g = some arfcn ∧
        number 3 g = some bsic ∧
        v = ((.gsm (gsmIdentity (scanArea skip area) arfcn (toByte bsic))
          (gsmStrength (clamped ((toInt (sig2G + 3)).tdiv 2))), scanArea skip area), behind 4 g) := by
  rw [← behind_zero g]
  simp only [neighbour, neighbourGsm, bind_nextint_eq_some, bind_nextstr_eq_some, pure_eq_some]
  simp only [behind_zero, exists_and_left, eq_comm]

theorem neighbourWcdma_eq_some :
    ((Prod.mk · area) <$> neighbourWcdma : Reader (CellInfo × (Int × Int))) g = some v ↔
      ∃ arfcn psc sig3G, number 0 g = some arfcn ∧ number 1 g = some psc ∧ number 2 g = some sig3G ∧
        v = ((.wcdma (wcdmaIdentity arfcn psc)
          { signalStrength := clamped ((toInt (sig3G - 3)).tdiv 2), bitErrorRate := INT_MAX }, area), behind 3 g) := by
  rw [← behind_zero g]
  simp only [neighbourWcdma, map_eq_pure_bind, bind_assoc, pure_bind, bind_nextint_eq_some, pure_eq_some]
  simp only [behind_zero, exists_and_left, eq_comm]

theorem isSome_neighbour (cellType : RIL_CellInfoType) :
    (neighbour cellType area g).isSome ↔ GroupRead cellType g := by
  cases cellType with
  | LTE => simp [Option.isSome_iff_exists, neighbourLte_eq_some, GroupRead]
  | GSM =>
    simp only [Option.isSome_iff_exists, neighbourGsm_eq_some, GroupRead]
    constructor
    · rintro ⟨v, skip, sig2G, arfcn, bsic, h0, h1, h2, h3, -⟩
      exact ⟨⟨_, h0⟩, ⟨_, h1⟩, ⟨_, h2⟩, ⟨_, h3⟩⟩
    · rintro ⟨⟨skip, h0⟩, ⟨sig2G, h1⟩, ⟨arfcn, h2⟩, ⟨bsic, h3⟩⟩
      exact ⟨_, _, _, _, _, h0, h1, h2, h3, rfl⟩
  | _ => simp [Option.isSome_iff_exists, neighbour, neighbourWcdma_eq_some, GroupRead]

theorem clamped_tdiv_of_nonpos {n : Int} (h : n ≤ 0) : clamped (n.tdiv 2) = 0 := by
  have hneg : n.tdiv 2 = -((-n) / 2) := by
    rw [← Int.tdiv_eq_ediv_of_nonneg (by omega), Int.neg_tdiv, Int.neg_neg]
  rw [clamped, hneg, if_neg (by omega)]
  split
  · rfl
  · omega

theorem clamped_tdiv_of_le {n : Int} (h : 64 ≤ n) : clamped (n.tdiv 2) = 31 := by
  have hdiv : n.tdiv 2 = n / 2 := Int.tdiv_eq_ediv_of_nonneg (by omega)
  rw [clamped, hdiv, if_pos (by omega)]

/-- Beyond the range of an `int` the sum is negative. -/
theorem clamped_add_iff {n : Int} (h : InInt n) :
    clamped ((n + 3).tdiv 2) = clamped ((toInt (n + 3)).tdiv 2) ↔ n < 2 ^ 31 - 3 := by
  have hlow := h.1
  have hhigh := h.2
  by_cases hlt : n < 2 ^ 31 - 3
  · rw [toInt_of_range (by omega) (by omega)]
    exact iff_of_true rfl hlt
  · refine iff_of_false ?_ hlt
    rw [toInt_above (by omega) (by omega), clamped_tdiv_of_le (by omega), clamped_tdiv_of_nonpos (by omega)]
    decide

theorem clamped_sub_iff {n : Int} (h : InInt n) :
    clamped ((n - 3).tdiv 2) = clamped ((toInt (n - 3)).tdiv 2) ↔ -2 ^ 31 + 3 ≤ n := by
  have hlow := h.1
  have hhigh := h.2
  by_cases hle : -2 ^ 31 + 3 ≤ n
  · rw [toInt_of_range (by omega) (by omega)]
    exact iff_of_true rfl hle
  · refine iff_of_false ?_ hle
    rw [toInt_below (by omega) (by omega), clamped_tdiv_of_nonpos (by omega), clamped_tdiv_of_le (by omega)]
    decide

theorem toByte_iff {n : Int} : n = toByte n ↔ 0 ≤ n ∧ n < 2 ^ 8 := by
  rw [toByte]
  omega

theorem scanArea_of_areaOf {skip : Line} {found : Int × Int} (h : areaOf skip = some found) (area : Int × Int) :
    scanArea skip area = found := by
  rw [areaOf, Option.bind_eq_some_iff] at h
  obtain ⟨lac, hlac, hcid⟩ := h
  rw [Option.map_eq_some_iff] at hcid
  obtain ⟨cid, hcid, rfl⟩ := hcid
  rw [scanArea, hlac, Option.elim_some, hcid, Option.elim_some]

/-- **A group is decoded** exactly if it fits, and the next one follows. -/
theorem neighbour_eq_some {cellType : RIL_CellInfoType} (h : neighbour cellType area g = some v) :
    v.2 = behind (groupWidth cellType) g ∧ (neighbourOf cellType g = some v.1.1 ↔ GroupFits cellType g) := by
  cases cellType with
  | LTE =>
    obtain ⟨arfcn, pci, rsrp, rsrq, h0, h1, h2, h3, rfl⟩ := neighbourLte_eq_some.1 h
    refine ⟨rfl, iff_of_true ?_ trivial⟩
    simp [neighbourOf, h0, h1, h2, h3]
  | GSM =>
    obtain ⟨skip, sig2G, arfcn, bsic, h0, h1, h2, h3, rfl⟩ := neighbourGsm_eq_some.1 h
    refine ⟨rfl, ?_⟩
    simp only [GroupFits, h0, h1, h3, Option.some.injEq, forall_eq']
    cases harea : areaOf skip with
    | none => simp [neighbourOf, h0, harea]
    | some found =>
      rw [← clamped_add_iff (inInt_number h1), ← toByte_iff]
      simp [neighbourOf, h0, h1, h2, h3, harea, gsmIdentity, gsmStrength, scanArea_of_areaOf harea]
      exact and_comm
  | _ =>
    obtain ⟨arfcn, psc, sig3G, h0, h1, h2, rfl⟩ := neighbourWcdma_eq_some.1 h
    refine ⟨rfl, ?_⟩
    simp only [GroupFits, h2, Option.some.injEq, forall_eq']
    rw [← clamped_sub_iff (inInt_number h2)]
    simp [neighbourOf, h0, h1, h2]

end

/-! ## AT+CSQ -/

/-- The text of an answer behind its colon. -/
def textOf (responsePrefix : Line) (a : Answer) : Option Line :=
  (lineOf responsePrefix a).bind fun line => AtTok.at_tok_start (some line)

/-- What is stored of the bit error rate, if something is. -/
def csqBer (cur : Option Line) : Option Int :=
  (field 1 cur).map fun text => if (AtTok.strtol text).isSome ∧ AtTok.atoi text > 99 then 99 else AtTok.atoi text

theorem inInt_rssi2G {rssi : Int} (h : InInt rssi) : InInt (rssi2G rssi) := by
  have hlow := h.1
  have hhigh := h.2
  unfold rssi2G Network.SignalProcess.compensate InInt
  omega

theorem csq_execute_cmd_rsp_eq (ber : Int) (line : Line) :
    csq_execute_cmd_rsp ber line =
      if findInBuf line (ascii "+CSQ") then
        (number 0 (AtTok.at_tok_start (some line))).map fun rssi =>
          ascii "+CSQ:" ++ commas [rssi2G rssi, (csqBer (AtTok.at_tok_start (some line))).getD ber]
      else none := by
  unfold csq_execute_cmd_rsp
  split
  · cases AtTok.at_tok_start (some line) with
    | none => rfl
    | some input =>
      rw [Option.bind_some]
      simp only [value_nextint]
      simp only [at_tok_nextint_eq, number_behind, field_behind, csqBer]
      cases hfield : field 1 (some input) with
      | none => simp [number, hfield]
      | some text => simp [number, hfield]
  · rfl

/-- The signals of a new line. -/
def csqSignals (rssi ber : Int) : Signals := { sig2G := rssi, biterr2G := ber, sig3G := rssi, biterr3G := ber }

theorem readSignals_csq {rssi ber : Int} (hrssi : InInt rssi) (hber : InInt ber) :
    (readLine readSignals (ascii "+CSQ:" ++ commas [rssi, ber])).map Prod.fst = some (csqSignals rssi ber) := by
  have hname : ascii "+CSQ:" = [43, 67, 83, 81, 58] := by decide
  have hstart : AtTok.at_tok_start (some (ascii "+CSQ:" ++ commas [rssi, ber])) = some (commas [rssi, ber]) := by
    rw [hname]
    rfl
  have hread := number_commas [rssi, ber] (by simp [hrssi, hber])
  have hfirst := hread 0 (by simp)
  have hsecond := hread 1 (by simp)
  rw [readLine, hstart, Option.bind_some, ← behind_zero (some (commas [rssi, ber])), Option.map_eq_some_iff]
  refine ⟨(_, behind 2 (some (commas [rssi, ber]))), ?_, rfl⟩
  simp only [readSignals, bind_nextint_eq_some, pure_eq_some]
  exact ⟨_, hfirst, _, hsecond, rfl⟩

/-! ## The numeric -/

/-- The country has three digits, the network two or three. -/
def DigitsOf (plmn : Line) (mcc mnc : Int) : Prop :=
  ∃ country network : Line, plmn = country ++ network ∧ country.length = 3 ∧
    (network.length = 2 ∨ network.length = 3) ∧ (∀ c ∈ plmn, AtTok.isdigit c = true) ∧
    mcc = AtTok.digitsValue country ∧ mnc = AtTok.digitsValue network

def Numeric (plmn : Line) : Prop := (plmn.length = 5 ∨ plmn.length = 6) ∧ ∀ c ∈ plmn, AtTok.isdigit c = true

/-- The division that tells both apart. -/
theorem split_value {a b : Nat} (m : Nat) (hb : b < m) :
    ((a * m + b : Nat) : Int).tdiv m = a ∧ ((a * m + b : Nat) : Int) - ((a * m + b : Nat) : Int).tdiv m * m = b := by
  have hdiv : ((a * m + b : Nat) : Int).tdiv m = a := by
    rw [Int.tdiv_eq_ediv_of_nonneg (Int.natCast_nonneg _), ← Int.natCast_ediv, Nat.mul_comm,
      Nat.mul_add_div (Nat.zero_lt_of_lt hb), Nat.div_eq_of_lt hb, Nat.add_zero]
  refine ⟨hdiv, ?_⟩
  rw [hdiv, Int.natCast_add, Int.natCast_mul]
  omega

theorem digitsOf_plmnCode_iff (stale : Uninitialised) (plmn : Line) :
    DigitsOf plmn (plmnCode stale plmn).1 (plmnCode stale plmn).2 ↔ Numeric plmn := by
  constructor
  · rintro ⟨country, network, rfl, hcountry, hnetwork, hdigits, -, -⟩
    rw [Numeric, List.length_append]
    exact ⟨by omega, hdigits⟩
  · rintro ⟨hlen, hdigits⟩
    have hsplit := (List.take_append_drop 3 plmn).symm
    have hvalue := digitsValue_append_list (plmn.take 3) (plmn.drop 3)
    have hnetwork := digitsValue_lt (s := plmn.drop 3) fun c hc => hdigits c (List.mem_of_mem_drop hc)
    rw [← hsplit, List.length_drop] at hvalue
    rw [List.length_drop] at hnetwork
    have hatoi : AtTok.atoi plmn = AtTok.digitsValue plmn := by
      have hne : plmn ≠ [] := by
        rintro rfl
        simp at hlen
      have hsmall : AtTok.digitsValue plmn < 10 ^ 6 :=
        lt_of_lt_of_le (digitsValue_lt hdigits) (Nat.pow_le_pow_right (by decide) (by omega))
      rw [AtTok.atoi, strtol_digits hne hdigits (by omega), Option.getD_some]
      exact toInt_of_range (by omega) (by omega)
    have hboth : (plmnCode stale plmn).1 = AtTok.digitsValue (plmn.take 3) ∧
        (plmnCode stale plmn).2 = AtTok.digitsValue (plmn.drop 3) := by
      rcases hlen with hlen | hlen
      · rw [hlen] at hvalue hnetwork
        rw [plmnCode, if_pos hlen, hatoi, hvalue]
        exact split_value (10 ^ 2) hnetwork
      · rw [hlen] at hvalue hnetwork
        rw [plmnCode, if_neg (by omega), if_pos hlen, hatoi, hvalue]
        exact split_value (10 ^ 3) hnetwork
    exact ⟨plmn.take 3, plmn.drop 3, hsplit, by rw [List.length_take]; omega, by rw [List.length_drop]; omega,
      hdigits, hboth⟩

end UniRil.NetworkRequests
