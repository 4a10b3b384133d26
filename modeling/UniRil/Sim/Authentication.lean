import UniRil.Sim.Responses

/-!
# Authentication by the card

The challenge comes in base64, and so goes the answer.
-/

namespace UniRil.Sim

open Flows Handlers
open AtTok (Line)

variable {ε : Type}

/-! ## Base64 -/

def base64char : Line := ascii "ABCDEFGHIJKLMNOPQRSTUVWXYZabcdefghijklmnopqrstuvwxyz0123456789+/"

/-- A character that is not in the table counts as 0xFF. -/
def base64Value (c : Byte) : Byte := (base64char.idxOf? c).elim 0xFF UInt8.ofNat

def masked (b mask : Byte) : Byte := b &&& mask

/-- `none` where the text ends within a group of four, so that the function reads on behind it. -/
def base64_decode : Line → Option (List Byte)
  | [] => some []
  | c0 :: c1 :: c2 :: c3 :: rest =>
    let b0 := masked (base64Value c0 <<< 2) 0xFC ||| masked (base64Value c1 >>> 4) 0x03
    let b1 := masked (base64Value c1 <<< 4) 0xF0 ||| masked (base64Value c2 >>> 2) 0x0F
    let b2 := masked (base64Value c2 <<< 6) 0xF0 ||| masked (base64Value c3) 0x3F
    if c2 = 61 then some [b0]
    else if c3 = 61 then some [b0, b1]
    else (base64_decode rest).map ([b0, b1, b2] ++ ·)
  | [c0, c1, c2] =>
    -- the fourth character is the NUL
    if c2 = 61 then some [masked (base64Value c0 <<< 2) 0xFC ||| masked (base64Value c1 >>> 4) 0x03] else none
  | _ => none

def base64Of (current : Byte) : Byte := base64char.getD current.toNat NUL

def base64_encode : List Byte → Line
  | [] => []
  | [a] => [base64Of (masked (a >>> 2) 0x3F), base64Of (masked (a <<< 4) 0x30), 61, 61]
  | [a, b] =>
    [base64Of (masked (a >>> 2) 0x3F), base64Of (masked (a <<< 4) 0x30 ||| masked (b >>> 4) 0x0F),
      base64Of (masked (b <<< 2) 0x3C), 61]
  | a :: b :: c :: rest =>
    [base64Of (masked (a >>> 2) 0x3F), base64Of (masked (a <<< 4) 0x30 ||| masked (b >>> 4) 0x0F),
      base64Of (masked (b <<< 2) 0x3C ||| masked (c >>> 6) 0x03), base64Of (masked c 0x3F)] ++ base64_encode rest

/-! ## The challenge -/

/-- What lies in memory where nothing was stored: behind the decoded bytes, and behind their hex text. -/
structure Heap where
  bin : Nat → Byte
  hex : Nat → Byte

/-- The challenge in bytes, and their text: as many bytes as `authData` has characters. -/
structure Challenge where
  binAuthData : Nat → Byte
  hexAuthData : Nat → Byte

def challengeOf (heap : Heap) (authData : Line) (bindata : List Byte) : Challenge :=
  let binAuthData := fun i => bindata.getD i (heap.bin i)
  let hex := convertBinToHex ((List.range authData.length).map binAuthData) ++ [NUL]
  { binAuthData := binAuthData, hexAuthData := fun i => hex.getD i (heap.hex i) }

/-- The characters that are copied, up to their first NUL. -/
def Challenge.copied (c : Challenge) (start len : Nat) : Line :=
  cstr ((List.range (2 * len)).map fun i => c.hexAuthData (start + i))

def Challenge.randLen (c : Challenge) : Nat := (c.binAuthData 0).toNat

def Challenge.autnLen (c : Challenge) : Nat := (c.binAuthData (c.randLen + 1)).toNat

def Challenge.rand (c : Challenge) : Line := c.copied 2 c.randLen

def Challenge.autn (c : Challenge) : Line := c.copied (c.randLen * 2 + 4) c.autnLen

/-- The challenge, with the results of the allocations. -/
def challenge (heap : Heap) (authData : Line) : Handler Slot Pointer Challenge := do
  let allocated0 ← allocated
  if !allocated0 then
    goto none
  let bindata ← deref (base64_decode authData)
  let allocated1 ← allocated
  if !allocated1 then
    goto none
  pure (challengeOf heap authData bindata)

/-! ## The answer -/

/-- A text of hex digits behind its length. -/
def lengthAndBytes (text : Line) : List Byte :=
  let len := text.length / 2
  let bytes := (convertHexToBin text).2
  UInt8.ofNat len :: (bytes ++ List.replicate (len - bytes.length) 0).take len

/-- As many bytes as the lengths in them add up to; a length is one byte. -/
def answerBytes (flag : List Byte) (texts : List Line) : List Byte :=
  (flag ++ texts.flatMap lengthAndBytes).take (flag.length + (texts.map fun text => 1 + text.length / 2 % 256).sum)

/-- The fields of the card, in their order, and the flag that comes first. -/
def completeAuthentication (flag : List Byte) (texts : List Line) (p_response : Pointer) (t : RIL_Token) :
    Handler Slot Pointer Unit := do
  let allocated0 ← allocated
  if !allocated0 then
    goto p_response
  let allocated1 ← allocated
  if !allocated1 then
    goto p_response
  RIL_onRequestComplete t .SUCCESS (.simData 0x90 0 (some (base64_encode (answerBytes flag texts))))

def SIM_AUTH_RESPONSE_SUCCESS : Int := 0
def SIM_AUTH_RESPONSE_SYNC_FAILURE : Int := 3

/-- The card answers with the status and its fields; the rest of both requests. -/
def authenticate (cmd : Line) (answer : Int → Text → Pointer → Handler Slot Pointer Unit) :
    Handler Slot Pointer Unit := do
  let allocated ← allocated
  if !allocated then
    goto none
  let s ← at_send_command_singleline cmd (ascii "^MBAU:") none
  if ← unsuccessful s then
    goto s.p_response
  let line ← firstLine s.p_response
  let line ← at_tok_start line s.p_response
  let (status, line) ← at_tok_nextint line s.p_response
  answer status line s.p_response
  at_response_free s.p_response

def failAuthentication (t : RIL_Token) (p_response : Pointer) : Handler Slot ε Unit := do
  RIL_onRequestComplete t .GENERIC_FAILURE .NULL
  at_response_free p_response

def requestUSimAuthentication (heap : Heap) (authData : Line) (t : RIL_Token) : Handler Slot ε Unit :=
  labelled (do
      let c ← challenge heap authData
      let allocated0 ← allocated
      if !allocated0 then
        goto none
      let allocated1 ← allocated
      if !allocated1 then
        goto none
      authenticate (ascii "AT^MBAU=" ++ quoted c.rand ++ ascii "," ++ quoted c.autn) fun status line p_response =>
        if status = SIM_AUTH_RESPONSE_SUCCESS then do
          let (res, line) ← at_tok_nextstr line p_response
          let (ck, line) ← at_tok_nextstr line p_response
          let (ik, _) ← at_tok_nextstr line p_response
          completeAuthentication [0xDB] [res, ck, ik] p_response t
        else if status = SIM_AUTH_RESPONSE_SYNC_FAILURE then do
          let (auts, _) ← at_tok_nextstr line p_response
          completeAuthentication [0xDC] [auts] p_response t
        else goto p_response)
    -- error:
    (failAuthentication t)

def requestSimAuthentication (heap : Heap) (authData : Line) (t : RIL_Token) : Handler Slot ε Unit :=
  labelled (do
      let c ← challenge heap authData
      let allocated ← allocated
      if !allocated then
        goto none
      authenticate (ascii "AT^MBAU=" ++ quoted c.rand) fun status line p_response =>
        if status = SIM_AUTH_RESPONSE_SUCCESS then do
          let (kc, line) ← at_tok_nextstr line p_response
          let (sres, _) ← at_tok_nextstr line p_response
          completeAuthentication [] [sres, kc] p_response t
        else goto p_response)
    -- error:
    (failAuthentication t)

def AUTH_CONTEXT_EAP_SIM : Int := 128
def AUTH_CONTEXT_EAP_AKA : Int := 129

structure RIL_SimAuthentication where
  authContext : Int
  authData : Option Line

/-- The case of `RIL_REQUEST_SIM_AUTHENTICATION`. -/
def requestAuthentication (heap : Heap) (sim_auth : RIL_SimAuthentication) (t : RIL_Token) : Handler Slot ε Unit :=
  sim_auth.authData.elim (RIL_onRequestComplete t .INVALID_ARGUMENTS .NULL) fun authData =>
    if sim_auth.authContext = AUTH_CONTEXT_EAP_AKA then requestUSimAuthentication heap authData t
    else if sim_auth.authContext = AUTH_CONTEXT_EAP_SIM then requestSimAuthentication heap authData t
    else RIL_onRequestComplete t .INVALID_ARGUMENTS .NULL

end UniRil.Sim
