import UniRil.Sms.Requests

/-!
# The address of the service centre there and back

The address goes to the modem as hex text and comes back as hex text, in the case the modem likes.
-/

namespace UniRil.Sms.Requests

open Flows Handlers FailRules
open AtTok (Line)

/-! ## The answer -/

/-- The answer to AT+CSCA?: the address in hex, and what the modem says of its type. -/
def cscaLine (upper : Nat → Bool) (data rest : Line) : Line := ascii "+CSCA: " ++ quoted (hexText upper data) ++ rest

section

variable (upper : Nat → Bool) (data rest : Line)

theorem cscaLine_eq :
    cscaLine upper data rest = ascii "+CSCA" ++ 58 :: 32 :: 34 :: (hexText upper data ++ 34 :: rest) := by
  simp [cscaLine, quoted, ascii]

theorem intermediatesOf_csca :
    Command.intermediatesOf .SINGLELINE (ascii "+CSCA:") [cscaLine upper data rest] = [cscaLine upper data rest] := by
  have hfits : Command.fits .SINGLELINE (ascii "+CSCA:") (cscaLine upper data rest) = true := by
    simp [Command.fits, Command.isIntermediate, cscaLine, strStartsWith, ascii]
  simp [Command.intermediatesOf, hfits]

theorem at_tok_start_csca :
    AtTok.at_tok_start (some (cscaLine upper data rest)) = some (32 :: 34 :: (hexText upper data ++ 34 :: rest)) := by
  have hname : ∀ c ∈ ascii "+CSCA", (c != 58) = true := by simp [ascii]
  rw [cscaLine_eq, AtTok.at_tok_start, AtTok.at_tok_flag_start, Option.bind_some,
    List.dropWhile_append_of_pos hname]
  simp

theorem notMem_hexText : (34 : Byte) ∉ hexText upper data := by
  intro h
  have hdigit := (convertHexToBin_eq_true_iff (by rw [length_hexText]; omega)).1
    (by rw [convertHexToBin_hexText]) 34 h
  simp [hexChars, ascii] at hdigit

theorem at_tok_nextstr_csca :
    (AtTok.at_tok_nextstr (some (32 :: 34 :: (hexText upper data ++ 34 :: rest)))).p_out =
      some (hexText upper data) := by
  have hblank : ∀ s, AtTok.at_tok_nextstr (some (32 :: s)) = AtTok.at_tok_nextstr (some s) := by
    intro s
    have hskip : AtTok.skipWhiteSpace (some (32 :: s)) = AtTok.skipWhiteSpace (some s) := by
      simp [AtTok.skipWhiteSpace, AtTok.isspace]
    rw [AtTok.at_tok_nextstr, AtTok.at_tok_nextstr, AtTok.nextTok, AtTok.nextTok, hskip]
  rw [hblank, at_tok_nextstr_quoted (notMem_hexText upper data)]

end

/-! ## There and back -/

/-- The address is set, and then it is asked for. -/
def setThenGet (data : Line) (t t' : RIL_Token) : SmsHandler Empty Unit := do
  processSmsRequests (.SET_SMSC_ADDRESS (some data)) t
  processSmsRequests .GET_SMSC_ADDRESS t'

/-- **The address that was set is the address that is reported**, where the modem gives its digits back. -/
theorem smscAddress_roundTrip (data rest f f' : Line) (upper : Nat → Bool) (t t' : RIL_Token) (answers : Nat → Answer)
    (allocates : Nat → Bool) (g : Globals) (hpresent : g.s_isSimPresent = .PRESENT) (hdata : data ≠ [])
    (hnul : NUL ∉ data) (hf : Command.isFinalResponseSuccess f = true) (hf' : Command.isFinalResponseSuccess f' = true)
    (hset : answers 0 = .response f [])
    (hget : answers 1 = .response f' [cscaLine upper data rest]) :
    wp (setThenGet data t t')
      (fun _ w => w.log =
        [.at_send_command (ascii "AT+CSCA=" ++ quoted (convertBinToHex data)), .RIL_onRequestComplete t .SUCCESS .NULL,
          .at_send_command (ascii "AT+CSCA?"), .RIL_onRequestComplete t' .SUCCESS (.string data)])
      (fun _ _ => False) (.start answers allocates { file := g, completed := [] }) := by
  simp [setThenGet, processSmsRequests, requestSetSmscAddress, requestGetSmscAddress, withCard, sendAndComplete,
    completeByOutcome, askText, World.start, hpresent, hdata, hset, hget, hf, hf', intermediatesOf_csca,
    at_tok_start_csca, at_tok_nextstr_csca, convertHexToBin_hexText, cstr_of_notMem hnul]

/-- An address whose digits come back in lower case. -/
theorem smscAddress_roundTrip_lower :
    wp (setThenGet (ascii "+4917,145") (some 1) (some 2))
      (fun _ w => w.log =
        [.at_send_command (ascii "AT+CSCA=" ++ quoted (convertBinToHex (ascii "+4917,145"))),
          .RIL_onRequestComplete (some 1) .SUCCESS .NULL, .at_send_command (ascii "AT+CSCA?"),
          .RIL_onRequestComplete (some 2) .SUCCESS (.string (ascii "+4917,145"))])
      (fun _ _ => False)
      (.start (fun n => .response (ascii "OK") (if n = 0 then [] else [cscaLine (fun _ => false) (ascii "+4917,145")
        (ascii ",145")])) (fun _ => true)
        { file := { s_isSimPresent := .PRESENT, MIFI_PRODUCT_PROP := [] }, completed := [] }) :=
  smscAddress_roundTrip _ _ _ _ _ _ _ _ _ _ rfl (by decide) (by decide) (by decide) (by decide) rfl rfl

end UniRil.Sms.Requests
