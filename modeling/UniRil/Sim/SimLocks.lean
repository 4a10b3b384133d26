import UniRil.Sim.Pins

/-!
# Locks of the subscription

The state, the dummies and the white list of a SIM lock, and the lock that is set with a password made
of the IMEI.
-/

namespace UniRil.Sim

open Flows Handlers
open AtTok (Line)

variable {ε : Type}

/-! ## The lock of the user -/

/-- Two digits of the IMEI make one of the password; the first one comes last. -/
def passwordOf (imei : Line) : Line :=
  let digit (i : Nat) : Nat := (imei.getD i NUL).toNat
  let sums := (List.range 7).map fun j : Nat =>
    UInt8.ofNat ((((digit (2 * j) : Int) - 48 + digit (2 * j + 1) - 48).tmod 10 + 48).toNat)
  sums ++ imei.take 1

/-- The IMEI is asked for on the first slot only. -/
def getIMEIPassword (first : Bool) : Handler Slot ε Line :=
  if !first then
    pure []
  else do
    let s ← at_send_command_numeric (ascii "AT+CGSN") none
    let imeiPwd ←
      if ← unsuccessful s then
        pure []
      else do
        let line ← firstLine s.p_response
        let imei := line.cur.getD []
        pure (if imei.length = 15 then passwordOf imei else [])
    at_response_free s.p_response
    pure imeiPwd

def requestFacilityLockByUser (first : Bool) (data : List (Option Line)) (t : RIL_Token) : Handler Slot ε Unit :=
  labelled (do
      if data.length ≠ 2 then
        goto (RIL_Errno.GENERIC_FAILURE, none)
      let imeiPwd ← getIMEIPassword first
      let mode ← deref (data.getD 1 none)
      let cmd := ascii "AT+CLCK=" ++ quoted (printed (data.getD 0 none)) ++ ascii "," ++ (mode ++ [NUL]).take 1 ++
        ascii "," ++ quoted imeiPwd
      let allocated ← allocated
      if !allocated then
        goto (.GENERIC_FAILURE, none)
      let s ← at_send_command cmd none
      if ← unsuccessful s then
        let errnoType ← errnoOfUser s.p_response
        goto (errnoType, s.p_response)
      RIL_onRequestComplete t .SUCCESS .NULL
      at_response_free s.p_response)
    fun (errnoType, p_response) => do
      RIL_onRequestComplete t errnoType .NULL
      at_response_free p_response
where
  /-- From the label `error` on. -/
  errnoOfUser (p_response : Pointer) : Handler Slot (RIL_Errno × Pointer) RIL_Errno :=
    p_response.elim (pure .GENERIC_FAILURE) fun r => do
      touch r
      if !strStartsWith r.finalResponse (ascii "+CME ERROR:") then
        pure .GENERIC_FAILURE
      else
        (AtTok.at_tok_nextint (AtTok.at_tok_start (some r.finalResponse))).value.elim (pure .GENERIC_FAILURE)
          fun errNum =>
          if errNum = 11 ∨ errNum = 12 then do
            setRadioState .SIM_LOCKED_OR_ABSENT
            pure .GENERIC_FAILURE
          else if errNum = 70 ∨ errNum = 128 then pure .FDN_CHECK_FAILURE
          else if errNum = 16 then pure .PASSWORD_INCORRECT
          else pure .GENERIC_FAILURE

/-! ## The state of a lock -/

def failWith (t : RIL_Token) (p_response : Pointer) : Handler Slot ε Unit := do
  RIL_onRequestComplete t .GENERIC_FAILURE .NULL
  at_response_free p_response

def requestGetSimLockStatus (fac : Int) (t : RIL_Token) : Handler Slot ε Unit :=
  labelled (do
      let allocated ← allocated
      if !allocated then
        goto none
      let s ← at_send_command_singleline (ascii "AT+SPSMPN=" ++ commas [fac, 1]) (ascii "+SPSMPN:") none
      if ← unsuccessful s then
        goto s.p_response
      let line ← firstLine s.p_response
      let line ← at_tok_start line s.p_response
      let (_, line) ← at_tok_nextint line s.p_response
      let (status, _) ← at_tok_nextint line s.p_response
      RIL_onRequestComplete t .SUCCESS (.ints [status])
      at_response_free s.p_response)
    -- error:
    (failWith t)

/-- The next `n` numbers. -/
def nextints (line : Text) (l : ε) : Nat → Handler Slot ε (List Int × Text)
  | 0 => pure ([], line)
  | n + 1 => do
    let (v, line) ← at_tok_nextint line l
    let (vs, line) ← nextints line l n
    pure (v :: vs, line)

def requestGetSimLockDummys (t : RIL_Token) : Handler Slot ε Unit :=
  labelled (do
      let s ← at_send_command_singleline (ascii "AT+SPSLDUM?") (ascii "+SPSLDUM:") none
      if ← unsuccessful s then
        goto s.p_response
      let line ← firstLine s.p_response
      let line ← at_tok_start line s.p_response
      let (dummy, _) ← nextints line s.p_response 8
      RIL_onRequestComplete t .SUCCESS (.ints dummy)
      at_response_free s.p_response)
    -- error:
    (failWith t)

/-! ## The white list -/

def WHITE_LIST_HEAD_LENGTH : Int := 5
def WHITE_LIST_PS_PART_LENGTH : Int := 20
def WHITE_LIST_COLUMN : Nat := 17

/-- Why the parts of a list are not made: a field is missing, or a buffer overflows. -/
inductive WhiteListError
  | missing
  | overflow
  deriving DecidableEq

/-- A part of the list; it has 16 characters at most. -/
def part (text : Line) : Except WhiteListError Line :=
  if text.length < WHITE_LIST_COLUMN then .ok text else .error .overflow

def nextField (cur : Option Line) : Except WhiteListError (Line × Option Line) :=
  let tok := AtTok.at_tok_nextstr cur
  tok.value.elim (.error .missing) fun s => .ok (s, tok.p_cur)

def nextDigit (cur : Option Line) : Except WhiteListError (Int × Option Line) :=
  let tok := AtTok.at_tok_nextint cur
  tok.value.elim (.error .missing) fun n => .ok (n, tok.p_cur)

def pad (width : Int) (text : Line) : Line :=
  if width - text.length = 1 then ascii "0" ++ text
  else if width - text.length = 2 then ascii "00" ++ text
  else text

def fillAndCatPlmn (mcc mnc : Line) (mncLen : Int) : Line :=
  (if mcc.length = 1 then ascii "00" ++ mcc else if mcc.length = 2 then ascii "0" ++ mcc else mcc) ++ pad mncLen mnc

def nextPlmn (cur : Option Line) : Except WhiteListError (Line × Option Line) := do
  let (mcc, cur) ← nextField cur
  let (mnc, cur) ← nextField cur
  let (mnc_digit, cur) ← nextDigit cur
  let plmn ← part (fillAndCatPlmn mcc mnc mnc_digit)
  pure (plmn, cur)

/-- The next `n` values of an IMSI, each two digits long at least; the buffer for one has three characters. -/
def nextImsis (cur : Option Line) : Nat → Except WhiteListError (Line × Option Line)
  | 0 => pure ([], cur)
  | n + 1 => do
    let (tmpImsi, cur) ← nextField cur
    if 2 < tmpImsi.length then
      .error .overflow
    else do
      let (rest, cur) ← nextImsis cur n
      pure (pad 2 tmpImsi ++ rest, cur)

/-- The parts of one entry of the list. -/
def nextEntry (type : Int) (cur : Option Line) : Except WhiteListError (List Line × Option Line) :=
  if type = 1 then do
    let (imsi_len, cur) ← nextField cur
    let imsi_len ← part imsi_len
    let (imsis, cur) ← nextImsis cur 8
    pure ([imsi_len, imsis], cur)
  else if type = 2 then do
    let (plmn, cur) ← nextPlmn cur
    pure ([plmn], cur)
  else if type = 3 then do
    let (plmn, cur) ← nextPlmn cur
    let (network_subset1, cur) ← nextField cur
    let plmn ← part (plmn ++ network_subset1)
    let (network_subset2, cur) ← nextField cur
    let plmn ← part (plmn ++ network_subset2)
    pure ([plmn], cur)
  else if type = 4 then do
    let (plmn, cur) ← nextPlmn cur
    let (gid1, cur) ← nextField cur
    let gid1 ← part gid1
    pure ([plmn, gid1], cur)
  else do
    let (plmn, cur) ← nextPlmn cur
    let (gid1, cur) ← nextField cur
    let gid1 ← part gid1
    let (gid2, cur) ← nextField cur
    let gid2 ← part gid2
    pure ([plmn, gid1, gid2], cur)

def nextEntries (type : Int) (cur : Option Line) : Nat → Except WhiteListError (List Line)
  | 0 => pure []
  | n + 1 => do
    let (entry, cur) ← nextEntry type cur
    let entries ← nextEntries type cur n
    pure (entry ++ entries)

/-- All parts of a list; `stackFits` says whether the stack has room for those of so many locks. -/
def whiteListParts (stackFits : Int → Bool) (type_ret numlocks_ret : Line) (cur : Option Line) :
    Except WhiteListError (List Line) :=
  let type := AtTok.atoi type_ret
  let numlocks := AtTok.atoi numlocks_ret
  if numlocks < 0 then .error .missing
  else if !stackFits numlocks then .error .overflow
  else do
    let type_ret ← part type_ret
    let numlocks_ret ← part numlocks_ret
    if 1 ≤ type ∧ type ≤ 5 then do
      let parts ← nextEntries type cur numlocks.toNat
      pure ([type_ret, numlocks_ret] ++ parts)
    else .error .missing

/-- The parts up to the first empty one, as far as they fit; the room for a comma and for the NUL is not
looked at. -/
def catSimLockWhiteListString (whitelistLen : Int) : Bool → Int → List Line → Except WhiteListError Line
  | _, _, [] => .ok []
  | first, totalLen, part :: parts =>
    let totalLen := totalLen + part.length
    if part = [] ∨ whitelistLen < totalLen then .ok []
    else
      let totalLen := if first then totalLen else totalLen + 1
      if whitelistLen ≤ totalLen then .error .overflow
      else
        (catSimLockWhiteListString whitelistLen false totalLen parts).map
          ((if first then part else ascii "," ++ part) ++ ·)

def whiteListText (stackFits : Int → Bool) (type_ret numlocks_ret : Line) (cur : Option Line) :
    Except WhiteListError Line := do
  let parts ← whiteListParts stackFits type_ret numlocks_ret cur
  let whiteListLen := AtTok.atoi numlocks_ret * WHITE_LIST_PS_PART_LENGTH + WHITE_LIST_HEAD_LENGTH
  catSimLockWhiteListString whiteListLen true 0 parts

/-- The list, or the jump, or what an overflow leads to. -/
def whiteListOrJump (whiteList : Except WhiteListError Line) (l : ε) : Handler Slot ε Line :=
  match whiteList with
  | .ok whiteList => pure whiteList
  | .error .missing => goto l
  | .error .overflow => crash

def requestGetSimLockWhiteList (stackFits : Int → Bool) (data : List Int) (t : RIL_Token) : Handler Slot ε Unit :=
  labelled (do
      if data.length ≠ 1 then
        goto none
      let allocated ← allocated
      if !allocated then
        goto none
      let s ← at_send_command_singleline
        (ascii "AT+SPSMNW=" ++ decimal (data.getD 0 0) ++ ascii ",\"12345678\",1") (ascii "+SPSMNW:") none
      if ← unsuccessful s then
        goto s.p_response
      let line ← firstLine s.p_response
      let line ← at_tok_start line s.p_response
      let (type_ret, line) ← at_tok_nextstr line s.p_response
      let (numlocks_ret, line) ← at_tok_nextstr line s.p_response
      touch line.response
      let whiteList ← whiteListOrJump (whiteListText stackFits type_ret numlocks_ret line.cur) s.p_response
      RIL_onRequestComplete t .SUCCESS (.string whiteList)
      at_response_free s.p_response)
    -- error:
    (failWith t)

end UniRil.Sim
