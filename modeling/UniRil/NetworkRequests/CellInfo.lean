import UniRil.NetworkRequests.Fields

/-!
# The cells around (ril.h, ril_network.c)

The structures of a cell, and the request that asks for the serving cell and its neighbours with four commands. The
size of the array is a field of the last answer; a store outside of it is the end of the process.
-/

namespace UniRil.NetworkRequests

open Flows Handlers
open AtTok (Line toInt)

/-! ## Cells -/

def INT_MAX : Int := 2 ^ 31 - 1

inductive RIL_CellInfoType
  | NONE
  | GSM
  | CDMA
  | LTE
  | WCDMA
  | TD_SCDMA
  deriving DecidableEq

def RIL_CellInfoType.value : RIL_CellInfoType → Int
  | .NONE => 0
  | .GSM => 1
  | .CDMA => 2
  | .LTE => 3
  | .WCDMA => 4
  | .TD_SCDMA => 5

@[ext]
structure RIL_CellIdentityGsm where
  mcc : Int
  mnc : Int
  mnc_digit : Int
  lac : Int
  cid : Int
  arfcn : Int
  bsic : Int
  deriving DecidableEq

@[ext]
structure RIL_GSM_SignalStrength where
  signalStrength : Int
  bitErrorRate : Int
  timingAdvance : Int
  deriving DecidableEq

@[ext]
structure RIL_CellIdentityWcdma where
  mcc : Int
  mnc : Int
  mnc_digit : Int
  lac : Int
  cid : Int
  psc : Int
  uarfcn : Int
  deriving DecidableEq

@[ext]
structure RIL_SignalStrengthWcdma where
  signalStrength : Int
  bitErrorRate : Int
  deriving DecidableEq

@[ext]
structure RIL_CellIdentityLte where
  mcc : Int
  mnc : Int
  mnc_digit : Int
  ci : Int
  pci : Int
  tac : Int
  earfcn : Int
  deriving DecidableEq

@[ext]
structure RIL_LTE_SignalStrength where
  signalStrength : Int
  rsrp : Int
  rsrq : Int
  rssnr : Int
  cqi : Int
  timingAdvance : Int
  deriving DecidableEq

@[ext]
structure RIL_CellIdentityTdscdma where
  mcc : Int
  mnc : Int
  mnc_digit : Int
  lac : Int
  cid : Int
  cpid : Int
  deriving DecidableEq

/-- The union, by the member that was filled. -/
inductive CellInfo
  | zero
  | gsm (cellIdentityGsm : RIL_CellIdentityGsm) (signalStrengthGsm : RIL_GSM_SignalStrength)
  | lte (cellIdentityLte : RIL_CellIdentityLte) (signalStrengthLte : RIL_LTE_SignalStrength)
  | wcdma (cellIdentityWcdma : RIL_CellIdentityWcdma) (signalStrengthWcdma : RIL_SignalStrengthWcdma)
  | tdscdma (cellIdentityTdscdma : RIL_CellIdentityTdscdma) (rscp : Int)
  deriving DecidableEq

structure RIL_CellInfo_v12 where
  cellInfoType : RIL_CellInfoType
  registered : Int
  timeStampType : Int
  timeStamp : Int
  CellInfo : CellInfo
  deriving DecidableEq

/-- A row as `calloc` leaves it. -/
def RIL_CellInfo_v12.zero : RIL_CellInfo_v12 :=
  { cellInfoType := .NONE, registered := 0, timeStampType := 0, timeStamp := 0, CellInfo := .zero }

def RIL_TIMESTAMP_TYPE_OEM_RIL : Int := 3

namespace CellInfo

/-- The numbers of the member, in the order of its structure. -/
def numbers : CellInfo → List Int
  | zero => []
  | gsm i s =>
    [i.mcc, i.mnc, i.mnc_digit, i.lac, i.cid, i.arfcn, i.bsic, s.signalStrength, s.bitErrorRate, s.timingAdvance]
  | lte i s =>
    [i.mcc, i.mnc, i.mnc_digit, i.ci, i.pci, i.tac, i.earfcn, s.signalStrength, s.rsrp, s.rsrq, s.rssnr, s.cqi,
      s.timingAdvance]
  | wcdma i s => [i.mcc, i.mnc, i.mnc_digit, i.lac, i.cid, i.psc, i.uarfcn, s.signalStrength, s.bitErrorRate]
  | tdscdma i rscp => [i.mcc, i.mnc, i.mnc_digit, i.lac, i.cid, i.cpid, rscp]

/-- `mcc` and `mnc` -/
def code : CellInfo → Option (Int × Int)
  | zero => none
  | gsm i _ => some (i.mcc, i.mnc)
  | lte i _ => some (i.mcc, i.mnc)
  | wcdma i _ => some (i.mcc, i.mnc)
  | tdscdma i _ => some (i.mcc, i.mnc)

end CellInfo

/-- The numbers of a row. -/
def RIL_CellInfo_v12.row (cell : RIL_CellInfo_v12) : List Int × List (Option Line) :=
  (cell.cellInfoType.value :: cell.registered :: cell.timeStampType :: cell.timeStamp :: cell.CellInfo.numbers, [])

/-! ## The answers -/

/-- What the variables hold that are not initialised. -/
structure Uninitialised where
  mcc : BitVec 32
  mnc : BitVec 32
  ber : BitVec 32

/-- The numeric and the network type. -/
def readCops : Reader (Line × Int) := do
  let _ ← nextint
  let _ ← nextint
  let plmn ← nextstr
  let netType ← nextint
  pure (plmn, netType)

/-- `mcc` and `mnc` -/
def plmnCode (stale : Uninitialised) (plmn : Line) : Int × Int :=
  let value := AtTok.atoi plmn
  if plmn.length = 5 then (value.tdiv 100, value - value.tdiv 100 * 100)
  else if plmn.length = 6 then (value.tdiv 1000, value - value.tdiv 1000 * 1000)
  else (stale.mcc.toInt, stale.mnc.toInt)

def cellTypeOf (netType : Int) : RIL_CellInfoType :=
  if netType = 7 ∨ netType = 16 then .LTE
  else if netType = 0 ∨ netType = 1 ∨ netType = 3 then .GSM
  else .WCDMA

structure Registration where
  registered : Int
  lac : Int
  cid : Int

/-- 44 is a comma. -/
def readCreg : Reader Registration := do
  let line ← get
  let commas := (line.getD []).count 44
  if commas > 3 then do
    let _ ← nextint
    let registered ← nextint
    let skip ← nextstr
    let lac := toInt (strtol16 skip)
    let skip ← nextstr
    pure { registered := registered, lac := lac, cid := toInt (strtol16 skip) }
  else
    pure { registered := 0, lac := 0, cid := 0 }

structure Signals where
  sig2G : Int
  biterr2G : Int
  sig3G : Int
  biterr3G : Int

/-- rsrq and rsrp are read again with the cells. -/
def readSignalsLTE : Reader Signals := do
  let sig2G ← nextint
  let biterr2G ← nextint
  let sig3G ← nextint
  let biterr3G ← nextint
  let _rsrq ← nextint
  let _rsrp ← nextint
  pure { sig2G := sig2G, biterr2G := biterr2G, sig3G := sig3G, biterr3G := biterr3G }

def readSignals : Reader Signals := do
  let sig3G ← nextint
  let biterr3G ← nextint
  pure { sig2G := sig3G, biterr2G := biterr3G, sig3G := sig3G, biterr3G := biterr3G }

/-! ## The serving cell -/

/-- What the first three answers give. -/
structure Serving where
  mcc : Int
  mnc : Int
  mnc_digit : Int
  registration : Registration
  signals : Signals

/-- A `uint8_t`. -/
def toByte (n : Int) : Int := n % 2 ^ 8

def lteIdentity (pci earfcn : Int) : RIL_CellIdentityLte :=
  { mcc := INT_MAX, mnc := INT_MAX, mnc_digit := 0, ci := INT_MAX, pci := pci, tac := INT_MAX, earfcn := earfcn }

def lteStrength (rsrp rsrq : Int) : RIL_LTE_SignalStrength :=
  { signalStrength := rsrp.tdiv 100 + 140, rsrp := rsrp.tdiv (-100), rsrq := rsrq.tdiv (-100), rssnr := INT_MAX,
    cqi := INT_MAX, timingAdvance := INT_MAX }

/-- The union of the first row and `cellIdNumber`. -/
def servingLte (s : Serving) : Reader (CellInfo × Int) := do
  let arfcn ← nextint
  let pci ← nextint
  let rsrp ← nextint
  let rsrq ← nextint
  let cellIdNumber ← nextint
  let identity : RIL_CellIdentityLte :=
    { mcc := s.mcc, mnc := s.mnc, mnc_digit := s.mnc_digit, ci := s.registration.cid, pci := pci,
      tac := s.registration.lac, earfcn := arfcn }
  pure (.lte identity (lteStrength rsrp rsrq), cellIdNumber)

def servingGsm (s : Serving) : Reader (CellInfo × Int) := do
  let _skip ← nextstr
  let _sskip ← nextint
  let arfcn ← nextint
  let bsic ← nextint
  let cellIdNumber ← nextint
  let identity : RIL_CellIdentityGsm :=
    { mcc := s.mcc, mnc := s.mnc, mnc_digit := s.mnc_digit, lac := s.registration.lac, cid := s.registration.cid,
      arfcn := arfcn, bsic := toByte bsic }
  let strength : RIL_GSM_SignalStrength :=
    { signalStrength := s.signals.sig2G, bitErrorRate := s.signals.biterr2G, timingAdvance := INT_MAX }
  pure (.gsm identity strength, cellIdNumber)

/-- The scrambling code and the number of the neighbours may be missing. -/
def servingWcdma (s : Serving) : Reader (CellInfo × Int) := do
  let _skip ← nextstr
  let _sskip ← nextint
  let arfcn ← nextint
  let more ← hasmore
  let (psc, cellIdNumber) ← if more then do
      let psc ← nextint
      let cellIdNumber ← nextint
      pure (psc, cellIdNumber)
    else
      pure (INT_MAX, 0)
  let identity : RIL_CellIdentityWcdma :=
    { mcc := s.mcc, mnc := s.mnc, mnc_digit := s.mnc_digit, lac := s.registration.lac, cid := s.registration.cid,
      psc := psc, uarfcn := arfcn }
  pure (.wcdma identity { signalStrength := s.signals.sig3G, bitErrorRate := s.signals.biterr3G }, cellIdNumber)

def serving : RIL_CellInfoType → Serving → Reader (CellInfo × Int)
  | .LTE => servingLte
  | .GSM => servingGsm
  | _ => servingWcdma

/-! ## The neighbours -/

/-- `signalStrength > 31 ? 31 : (signalStrength < 0 ? 0 : signalStrength)` -/
def clamped (signalStrength : Int) : Int :=
  if signalStrength > 31 then 31 else if signalStrength < 0 then 0 else signalStrength

def neighbourLte : Reader CellInfo := do
  let arfcn ← nextint
  let pci ← nextint
  let rsrp ← nextint
  let rsrq ← nextint
  pure (.lte (lteIdentity pci arfcn) (lteStrength rsrp rsrq))

/-- `sscanf(skip, "%04x%04x", &lac, &cid)`: what is not there keeps its value. -/
def scanArea (skip : Line) (area : Int × Int) : Int × Int :=
  (scan04x skip).elim area fun lac => (lac.1, (scan04x lac.2).elim area.2 Prod.fst)

def gsmIdentity (area : Int × Int) (arfcn bsic : Int) : RIL_CellIdentityGsm :=
  { mcc := INT_MAX, mnc := INT_MAX, mnc_digit := 0, lac := area.1, cid := area.2, arfcn := arfcn, bsic := bsic }

def gsmStrength (signalStrength : Int) : RIL_GSM_SignalStrength :=
  { signalStrength := signalStrength, bitErrorRate := INT_MAX, timingAdvance := INT_MAX }

/-- `lac` and `cid` are those of the last cell. -/
def neighbourGsm (area : Int × Int) : Reader (CellInfo × (Int × Int)) := do
  let skip ← nextstr
  let area := scanArea skip area
  let sig2G ← nextint
  let arfcn ← nextint
  let bsic ← nextint
  let signalStrength := (toInt (sig2G + 3)).tdiv 2
  pure (.gsm (gsmIdentity area arfcn (toByte bsic)) (gsmStrength (clamped signalStrength)), area)

def wcdmaIdentity (uarfcn psc : Int) : RIL_CellIdentityWcdma :=
  { mcc := INT_MAX, mnc := INT_MAX, mnc_digit := 0, lac := INT_MAX, cid := INT_MAX, psc := psc, uarfcn := uarfcn }

def neighbourWcdma : Reader CellInfo := do
  let arfcn ← nextint
  let psc ← nextint
  let sig3G ← nextint
  let signalStrength := (toInt (sig3G - 3)).tdiv 2
  pure (.wcdma (wcdmaIdentity arfcn psc) { signalStrength := clamped signalStrength, bitErrorRate := INT_MAX })

def neighbour : RIL_CellInfoType → Int × Int → Reader (CellInfo × (Int × Int))
  | .LTE, area => (·, area) <$> neighbourLte
  | .GSM, area => neighbourGsm area
  | _, area => (·, area) <$> neighbourWcdma

def neighbourRow (cellType : RIL_CellInfoType) (info : CellInfo) : RIL_CellInfo_v12 :=
  { cellInfoType := cellType, registered := 0, timeStampType := RIL_TIMESTAMP_TYPE_OEM_RIL, timeStamp := INT_MAX,
    CellInfo := info }

/-! ## The request -/

section

variable {γ ε : Type}

/-- `response[i] = cell` -/
def store (i : Nat) (cell : RIL_CellInfo_v12) (response : List RIL_CellInfo_v12) :
    Handler γ ε (List RIL_CellInfo_v12) :=
  if i < response.length then pure (response.set i cell) else crash

/-- A number below zero is a size beyond all memory. -/
def callocCells (number : Int) : Handler γ ε (Option (List RIL_CellInfo_v12)) := do
  let room ← allocated
  pure (if 0 ≤ number ∧ room then some (List.replicate number.toNat .zero) else none)

/-- The loop, with as many passes to come as the first number says. -/
def neighbours (cellType : RIL_CellInfoType) (l : ε) :
    Nat → Nat → Int × Int → Option Line → List RIL_CellInfo_v12 → Handler γ ε (List RIL_CellInfo_v12)
  | 0, _, _, _, response => pure response
  | passes + 1, current, area, line, response => do
    let ((info, area), line) ← demand (neighbour cellType area line) l
    let response ← store (current + 1) (neighbourRow cellType info) response
    neighbours cellType l passes (current + 1) area line response

/-- `p_response` and `p_newResponse` -/
abbrev Pointers := Pointer × Pointer

/-- A command and the line of its answer. -/
def askLine (cmd responsePrefix : Line) (p_newResponse : Pointer) : Handler γ Pointers (Response × Line) := do
  let s ← at_send_command_singleline cmd responsePrefix none
  if ← unsuccessful s then
    goto (s.p_response, p_newResponse)
  let r ← deref s.p_response
  let line ← deref r.p_intermediates.head?
  pure (r, line)

/-- `at_response_new` and `reWriteIntermediate` -/
def newResponse (newLine : Line) : Handler γ ε Response := fun w =>
  (.ok { handle := w.given, success := false, finalResponse := [], p_intermediates := [newLine] }, w.gives)

/-- What is read of a line from its colon on. -/
def readLine {α : Type} (reader : Reader α) (line : Line) : Option (α × Option Line) :=
  (AtTok.at_tok_start (some line)).bind fun cur => reader (some cur)

/-- The command and the beginning of its answer. -/
def registrationCommand (cellType : RIL_CellInfoType) : Line × Line :=
  if cellType = .LTE then (ascii "AT+CEREG?", ascii "+CEREG:") else (ascii "AT+CREG?", ascii "+CREG:")

def signalCommand (s_isLTE : Bool) : Line × Line :=
  if s_isLTE then (ascii "AT+CESQ", ascii "+CESQ:") else (ascii "AT+CSQ", ascii "+CSQ:")

def rewritten (s_isLTE : Bool) (ber : Int) (line : Line) : Option Line :=
  if s_isLTE then cesq_execute_cmd_rsp line else csq_execute_cmd_rsp ber line

def signals (s_isLTE : Bool) : Reader Signals := if s_isLTE then readSignalsLTE else readSignals

def cellCommand : RIL_CellInfoType → Line × Line
  | .LTE => (ascii "AT+SPQ4GNCELLEX=4,4", ascii "+SPQ4GNCELL")
  | .GSM => (ascii "AT+SPQ2GNCELL", ascii "+SPQ2GNCELL")
  | _ => (ascii "AT+SPQ3GNCELLEX=4,3", ascii "+SPQ3GNCELL")

/-- With WCDMA there is no loop where nothing is left of the line. -/
def loops (cellType : RIL_CellInfoType) (line : Option Line) : Bool :=
  cellType ≠ .WCDMA || AtTok.at_tok_hasmore line

def passes (cellType : RIL_CellInfoType) (cellIdNumber : Int) (line : Option Line) : Nat :=
  if loops cellType line then cellIdNumber.toNat else 0

def known (stale : Uninitialised) (plmn : Line) (registration : Registration) (signals : Signals) : Serving :=
  { mcc := (plmnCode stale plmn).1
    mnc := (plmnCode stale plmn).2
    mnc_digit := toInt (plmn.length - 3)
    registration := registration
    signals := signals }

def servingRow (cellType : RIL_CellInfoType) (ril_nano_time : Nat) (s : Serving) (info : CellInfo) : RIL_CellInfo_v12 :=
  { cellInfoType := cellType
    registered :=
      if s.registration.registered = 1 ∨ s.registration.registered = 5 then 1 else s.registration.registered
    timeStampType := RIL_TIMESTAMP_TYPE_OEM_RIL
    timeStamp := (ril_nano_time - 1000) % 2 ^ 64
    CellInfo := info }

/-- The array, from its allocation to the report. -/
def reportCells (cellType : RIL_CellInfoType) (ril_nano_time : Nat) (t : RIL_Token) (s : Serving) (p : Pointers)
    (info : CellInfo) (cellIdNumber : Int) (line : Option Line) : Handler γ Pointers Unit := do
  let cells ← callocCells (toInt (cellIdNumber + 1))
  let response ← demand cells p
  let response ← store 0 { RIL_CellInfo_v12.zero with CellInfo := info } response
  let response ← neighbours cellType p (passes cellType cellIdNumber line) 0
    (s.registration.lac, s.registration.cid) line response
  let response ← store 0 (servingRow cellType ril_nano_time s info) response
  RIL_onRequestComplete t .SUCCESS (.records (response.map RIL_CellInfo_v12.row))
  at_response_free p.1
  at_response_free p.2

/-- `error:` -/
def refused (t : RIL_Token) (p : Pointers) : Handler γ ε Unit := do
  at_response_free p.1
  at_response_free p.2
  RIL_onRequestComplete t .NO_NETWORK_FOUND .NULL

def requestGetCellInfoList (s_isLTE : Bool) (stale : Uninitialised) (ril_nano_time : Nat) (t : RIL_Token) :
    Handler γ ε Unit :=
  labelled (do
      -- for mcc & mnc
      let (r, line) ← askLine (ascii "AT+COPS?") (ascii "+COPS:") none
      let ((plmn, netType), _) ← demand (readLine readCops line) (some r, none)
      let cellType := cellTypeOf netType
      at_response_free (some r)
      -- for net type, tac
      let (r, line) ← askLine (registrationCommand cellType).1 (registrationCommand cellType).2 none
      let (registration, _) ← demand (readLine readCreg line) (some r, none)
      at_response_free (some r)
      let (r, line) ← askLine (signalCommand s_isLTE).1 (signalCommand s_isLTE).2 none
      let newLine ← demand (rewritten s_isLTE stale.ber.toInt line) (some r, none)
      let new ← newResponse newLine
      let (signals, _) ← demand (readLine (signals s_isLTE) newLine) (some r, some new)
      at_response_free (some r)
      -- for cellinfo
      let (r, line) ← askLine (cellCommand cellType).1 (cellCommand cellType).2 (some new)
      let s := known stale plmn registration signals
      let ((info, cellIdNumber), line) ← demand (readLine (serving cellType s) line) (some r, some new)
      reportCells cellType ril_nano_time t s (some r, some new) info cellIdNumber line)
    (refused t)

end

end UniRil.NetworkRequests
