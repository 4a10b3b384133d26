import UniRil.Sim.ApduAnswers

/-!
# The answer to the opening of a logical channel

Two functions read the same line. They differ about a status without data, and both write one entry of
their array for each byte of the data.
-/

namespace UniRil.Sim

open Flows Handlers
open AtTok (Line)

/-! ## Answer lines -/

/-- The fields of a +SPCCHO line. -/
inductive ChannelLine
  | unreadable
  | bare (channel : Int)
  | status (channel : Int) (statusWord : Line)
  | select (channel : Int) (statusWord responseData : Line)
  deriving DecidableEq

def channelLine (line : Line) : ChannelLine :=
  (AtTok.at_tok_start (some line)).elim .unreadable fun cur =>
    let channel := AtTok.at_tok_nextint (some cur)
    channel.value.elim .unreadable fun n =>
      if AtTok.at_tok_hasmore channel.p_cur then
        let statusWord := AtTok.at_tok_nextstr channel.p_cur
        statusWord.value.elim .unreadable fun word =>
          if AtTok.at_tok_hasmore statusWord.p_cur then
            (AtTok.at_tok_nextstr statusWord.p_cur).value.elim .unreadable fun data => .select n word data
          else .status n word
      else .bare n

def numbers (bytes : List Byte) : List Int := bytes.map fun b => (b.toNat : Int)

/-- The array that stands for the line: the channel, the bytes of the select response and the status. -/
def ChannelLine.array : ChannelLine → List Int → Prop
  | .unreadable, _ => False
  | .bare n, array => array = [n, 0x90, 0x00]
  | .status n word, array => ∃ sw1 sw2, convertHexToBin word = (true, [sw1, sw2]) ∧ array = n :: numbers [sw1, sw2]
  | .select n word data, array =>
    ∃ bytes sw1 sw2, convertHexToBin data = (true, bytes) ∧ convertHexToBin word = (true, [sw1, sw2]) ∧
      array = n :: numbers (bytes ++ [sw1, sw2]) ∧ array.length ≤ MAX_RESPONSE

/-- A status comes with data; both are bytes in hex, and the array has a place for each. -/
def ChannelLine.Whole : ChannelLine → Prop
  | .unreadable => True
  | .bare _ => True
  | .status _ _ => False
  | .select _ word data =>
    (convertHexToBin data).1 = true ∧ (convertHexToBin word).1 = true ∧ word.length = 4 ∧
      data.length / 2 + 3 ≤ MAX_RESPONSE

/-! ## Scanned bytes -/

theorem hexByte_eq {a b high low : Byte} (ha : hexValue a = some high) (hb : hexValue b = some low) :
    hexByte a b = ((high <<< 4 ||| low).toNat : Int) := by
  rw [hexByte, ha, hb, toNat_digits (toNat_hexValue_lt ha) (toNat_hexValue_lt hb)]
  rfl

/-- The pairs of a hex text are scanned one by one. -/
theorem scanBytes_hex (stack : Nat → Int) (index : Nat) {text : Line} {bytes : List Byte}
    (h : convertHexToBin text = (true, bytes)) : scanBytes stack (text.length / 2) index text = numbers bytes := by
  induction text using convertHexToBin.induct generalizing index bytes with
  | case1 =>
    obtain rfl : [] = bytes := by simpa [convertHexToBin] using h
    rfl
  | case2 ch hnone => simp [convertHexToBin, hnone] at h
  | case3 ch high hsome => simp [convertHexToBin, hsome] at h
  | case4 ch ch' text hnone => simp [convertHexToBin, hnone] at h
  | case5 ch ch' text high hsome hnone => simp [convertHexToBin, hsome, hnone] at h
  | case6 ch ch' text high low hlow hhigh ih =>
    simp only [convertHexToBin, hlow, hhigh, Prod.mk.injEq] at h
    obtain ⟨htrue, rfl⟩ := h
    have hrest := @ih (index + 1) (convertHexToBin text).2 (by rw [← htrue])
    have hlen : (ch :: ch' :: text).length / 2 = text.length / 2 + 1 := by
      simp only [List.length_cons]
      omega
    have hscan := scan02x_digits (a := ch) (b := ch') (by simp [hhigh]) (by simp [hlow]) text
    rw [hlen, scanBytes, hscan, List.drop_succ_cons, List.drop_succ_cons, List.drop_zero, hrest]
    simp [numbers, hexByte_eq hhigh hlow]

theorem hexValue_of_convertHexToBin {text : Line} (h : (convertHexToBin text).1 = true) :
    ∀ c ∈ text, hexValue c ≠ none := by
  induction text using convertHexToBin.induct with
  | case1 => simp
  | case2 ch hnone => simp [convertHexToBin, hnone] at h
  | case3 ch high hsome => simp [convertHexToBin, hsome] at h
  | case4 ch ch' text hnone => simp [convertHexToBin, hnone] at h
  | case5 ch ch' text high hsome hnone => simp [convertHexToBin, hsome, hnone] at h
  | case6 ch ch' text high low hlow hhigh ih =>
    simp only [convertHexToBin, hlow, hhigh] at h
    intro c hc
    rcases List.mem_cons.1 hc with rfl | hc
    · simp [hhigh]
    · rcases List.mem_cons.1 hc with rfl | hc
      · simp [hlow]
      · exact ih h c hc

theorem scanStatus_hex (stack : Nat → Int) (index : Nat) {word : Line} {sw1 sw2 : Byte}
    (h : convertHexToBin word = (true, [sw1, sw2])) : scanStatus stack index word = numbers [sw1, sw2] := by
  have hlen := length_of_convertHexToBin h
  obtain ⟨a, b, c, d, rfl⟩ := four_of_length hlen
  have hhex := hexValue_of_convertHexToBin (congrArg Prod.fst h)
  have hpairs := scanBytes_hex stack index h
  have hfirst := scan02x_digits (hhex a (by simp)) (hhex b (by simp)) [c, d]
  have hsecond := scan02x_digits (hhex c (by simp)) (hhex d (by simp)) []
  have htwo : [a, b, c, d].length / 2 = 2 := by simp
  rw [htwo] at hpairs
  rw [← hpairs]
  simp [scanStatus, scanBytes, hfirst, hsecond]

/-! ## Both requests -/

/-- Both requests complete with the same, and if they succeed, with the array of the line. -/
def ReadsAlike (params params' : RIL_OpenChannelParams) (t t' : RIL_Token) (line : Line) (w w' : World Slot) : Prop :=
  ∀ stack stack', ∃ err payload,
    Next (requestOpenLogicalChannel stack params t) (ascii "AT+SPCCHO=" ++ quoted (printed params.aidPtr)) w
        (· = .RIL_onRequestComplete t err payload) ∧
      Next (requestSIMOpenChannelWithP2 stack' params' t')
        (ascii "AT+SPCCHO=" ++ quoted (printed params'.aidPtr) ++ ascii "," ++ decimal params'.p2) w'
        (· = .RIL_onRequestComplete t' err payload) ∧
      (err = .SUCCESS → ∃ array, payload = .ints array ∧ (channelLine line).array array)

/-- What the functions make of a line: the array, an error, or a crash. -/
inductive Opened
  | array (response : List Int)
  | fails
  | overflows

/-- What is left of the requests when the line is read. -/
def openedOf (stack : Nat → Int) (bareStatus : Bool) : ChannelLine → Opened
  | .unreadable => .fails
  | .bare n => .array [n, 0x90, 0x00]
  | .status n word => if bareStatus then .array (n :: scanStatus stack 1 word) else .fails
  | .select n word data =>
    if MAX_RESPONSE < data.length / 2 + 3 then .overflows
    else .array (n :: (scanBytes stack (data.length / 2) 1 data ++ scanStatus stack (data.length / 2 + 1) word))

variable {w : World Slot} {line : Line}

/-- The events of both requests. -/
def Opened.log (cmd : Line) (t : RIL_Token) : Opened → List Event
  | .array response => [.at_send_command cmd, .RIL_onRequestComplete t .SUCCESS (.ints response)]
  | .fails => [.at_send_command cmd, .RIL_onRequestComplete t .GENERIC_FAILURE .NULL]
  | .overflows => [.at_send_command cmd]

theorem log_openChannel (stack : Nat → Int) (cmd : Line) (bareStatus : Bool) (t : RIL_Token)
    (hline : lineOf (ascii "+SPCCHO:") (w.answers 0) = some line) :
    (after (openChannel stack cmd bareStatus t : Handler Slot Empty Unit) w).log =
      w.log ++ (openedOf stack bareStatus (channelLine line)).log cmd t := by
  obtain ⟨f, ls, ha, hf, hls⟩ := lineOf_eq_some.1 hline
  apply log_after_eq
  simp [openChannel, selectResponse, ha, hf, hls]
  cases hcur : AtTok.at_tok_start (some line) with
  | none => simp [channelLine, hcur, openedOf, Opened.log]
  | some cur =>
    cases hn : (AtTok.at_tok_nextint (some cur)).value with
    | none => simp [channelLine, hcur, hn, openedOf, Opened.log]
    | some n =>
      cases hmore : AtTok.at_tok_hasmore (AtTok.at_tok_nextint (some cur)).p_cur with
      | false => simp [channelLine, hcur, hn, hmore, openedOf, Opened.log]
      | true =>
        generalize hword : AtTok.at_tok_nextstr (AtTok.at_tok_nextint (some cur)).p_cur = word
        cases hvalue : word.value with
        | none => simp [channelLine, hcur, hn, hmore, hword, hvalue, openedOf, Opened.log]
        | some text =>
          cases hmore' : AtTok.at_tok_hasmore word.p_cur with
          | false =>
            cases bareStatus with
            | false => simp [channelLine, hcur, hn, hmore, hword, hvalue, hmore', openedOf, Opened.log]
            | true => simp [channelLine, hcur, hn, hmore, hword, hvalue, hmore', openedOf, Opened.log]
          | true =>
            cases hdata : (AtTok.at_tok_nextstr word.p_cur).value with
            | none => simp [channelLine, hcur, hn, hmore, hword, hvalue, hmore', hdata, openedOf, Opened.log]
            | some data =>
              simp [channelLine, hcur, hn, hmore, hword, hvalue, hmore', hdata, openedOf]
              constructor
              · intro hlong
                simp [Opened.log, hlong]
              · intro hshort
                simp [Opened.log, not_lt.2 hshort]

theorem next_openChannel {cmd : Line} {bareStatus : Bool} {stack : Nat → Int} {t : RIL_Token} {o : Opened}
    (hline : lineOf (ascii "+SPCCHO:") (w.answers 0) = some line)
    (ho : openedOf stack bareStatus (channelLine line) = o) {err : RIL_Errno} {payload : Payload} :
    Next (openChannel stack cmd bareStatus t) cmd w (· = .RIL_onRequestComplete t err payload) ↔
      o.log cmd t = [.at_send_command cmd, .RIL_onRequestComplete t err payload] := by
  have hlog := log_openChannel stack cmd bareStatus t hline
  rw [ho] at hlog
  constructor
  · rintro ⟨e, hpre, rfl⟩
    rw [hlog, List.prefix_append_right_inj] at hpre
    refine (hpre.eq_of_length_le ?_).symm
    cases o <;> simp [Opened.log]
  · intro h
    rw [h] at hlog
    exact ⟨_, hlog ▸ List.prefix_rfl, rfl⟩

/-- The data and the status are scanned as they are. -/
theorem openedOf_whole (stack : Nat → Int) (bareStatus : Bool) {n : Int} {word data : Line} {bytes : List Byte}
    {sw1 sw2 : Byte} (hdata : convertHexToBin data = (true, bytes)) (hword : convertHexToBin word = (true, [sw1, sw2]))
    (hfits : data.length / 2 + 3 ≤ MAX_RESPONSE) :
    openedOf stack bareStatus (.select n word data) = .array (n :: numbers (bytes ++ [sw1, sw2])) := by
  rw [openedOf, if_neg (not_lt.2 hfits), scanBytes_hex stack 1 hdata, scanStatus_hex stack _ hword]
  simp [numbers]

theorem array_of_whole {word data : Line} (hdata : (convertHexToBin data).1 = true)
    (hword : (convertHexToBin word).1 = true) (hlen : word.length = 4) :
    ∃ bytes sw1 sw2, convertHexToBin data = (true, bytes) ∧ convertHexToBin word = (true, [sw1, sw2]) := by
  have hpair : convertHexToBin word = (true, (convertHexToBin word).2) := by rw [← hword]
  have htwo := length_of_convertHexToBin hpair
  obtain ⟨sw1, rest, hwords⟩ := List.exists_cons_of_length_eq_add_one
    (by omega : (convertHexToBin word).2.length = 1 + 1)
  obtain ⟨sw2, rfl⟩ := List.length_eq_one_iff.1 (by rw [hwords, List.length_cons] at htwo; omega : rest.length = 1)
  exact ⟨(convertHexToBin data).2, sw1, sw2, by rw [← hdata], by rw [← hwords, ← hword]⟩

/-- **Both requests read a line alike**, and right, exactly if it is whole. -/
theorem readsAlike_iff_whole (params params' : RIL_OpenChannelParams) (t t' : RIL_Token) {w' : World Slot}
    (hline : lineOf (ascii "+SPCCHO:") (w.answers 0) = some line)
    (hline' : lineOf (ascii "+SPCCHO:") (w'.answers 0) = some line) :
    ReadsAlike params params' t t' line w w' ↔ (channelLine line).Whole := by
  simp only [ReadsAlike, requestOpenLogicalChannel, requestSIMOpenChannelWithP2, next_openChannel hline rfl,
    next_openChannel hline' rfl]
  cases hc : channelLine line with
  | unreadable =>
    refine iff_of_true (fun _ _ => ⟨.GENERIC_FAILURE, .NULL, rfl, rfl, fun h => ?_⟩) trivial
    cases h
  | bare n => exact iff_of_true (fun _ _ => ⟨.SUCCESS, .ints [n, 0x90, 0x00], rfl, rfl, fun _ => ⟨_, rfl, rfl⟩⟩) trivial
  | status n word =>
    refine iff_of_false (fun h => ?_) not_false
    obtain ⟨err, payload, hopen, hp2, -⟩ := h (fun _ => 0) fun _ => 0
    simp only [openedOf, if_true, Bool.false_eq_true, if_false, Opened.log, List.cons.injEq,
      Event.RIL_onRequestComplete.injEq, true_and, and_true] at hopen hp2
    exact absurd (hopen.1.trans hp2.1.symm) (by decide)
  | select n word data =>
    constructor
    · intro h
      obtain ⟨err, payload, hopen, -, harray⟩ := h (fun _ => 0) fun _ => 0
      have hfits : data.length / 2 + 3 ≤ MAX_RESPONSE := by
        by_contra hlong
        simp [openedOf, not_le.1 hlong, Opened.log] at hopen
      simp only [openedOf, not_lt.2 hfits, if_false, Opened.log, List.cons.injEq, Event.RIL_onRequestComplete.injEq,
        true_and, and_true] at hopen
      obtain ⟨array, -, bytes, sw1, sw2, hdata, hword, -, -⟩ := harray hopen.1.symm
      exact ⟨congrArg Prod.fst hdata, congrArg Prod.fst hword, length_of_convertHexToBin hword, hfits⟩
    · rintro ⟨hdata, hword, hlen, hfits⟩ stack stack'
      obtain ⟨bytes, sw1, sw2, hdata, hword⟩ := array_of_whole hdata hword hlen
      rw [openedOf_whole stack true hdata hword hfits, openedOf_whole stack' false hdata hword hfits]
      refine ⟨.SUCCESS, _, rfl, rfl, fun _ => ⟨_, rfl, bytes, sw1, sw2, hdata, hword, rfl, ?_⟩⟩
      have hbytes := length_of_convertHexToBin hdata
      simp only [numbers, List.map_append, List.length_cons, List.length_append, List.length_map, List.length_nil]
      omega

/-- The lines that the modem answers with to both requests. -/
theorem readsAlike_iff_whole_select :
    ReadsAlike { aidPtr := some (ascii "A000"), p2 := -1 } { aidPtr := some (ascii "A000"), p2 := 4 } (some 1) (some 2)
      (ascii "+SPCCHO: 1,9000,6F10") (answersWith (ascii "+SPCCHO: 1,9000,6F10"))
      (answersWith (ascii "+SPCCHO: 1,9000,6F10")) :=
  (readsAlike_iff_whole _ _ _ _ (by decide) (by decide)).2 (by
    have hline : channelLine (ascii "+SPCCHO: 1,9000,6F10") = .select 1 (ascii "9000") (ascii "6F10") := by
      decide
    rw [hline]
    exact ⟨by decide, by decide, by decide, by decide⟩)

/-- A status without data: the channel is open for one request, and an error for the other. -/
theorem readsAlike_fails_status :
    ¬ ReadsAlike { aidPtr := some (ascii "A000"), p2 := -1 } { aidPtr := some (ascii "A000"), p2 := 4 } (some 1)
      (some 2) (ascii "+SPCCHO: 1,9000") (answersWith (ascii "+SPCCHO: 1,9000"))
      (answersWith (ascii "+SPCCHO: 1,9000")) := by
  intro h
  obtain ⟨err, payload, hopen, hp2, -⟩ := h (fun _ => 0) fun _ => 0
  have hline : channelLine (ascii "+SPCCHO: 1,9000") = .status 1 (ascii "9000") := by decide
  simp only [requestOpenLogicalChannel, requestSIMOpenChannelWithP2] at hopen hp2
  rw [next_openChannel (by decide) (congrArg _ hline)] at hopen hp2
  simp [openedOf, Opened.log] at hopen hp2
  exact absurd (hopen.1.trans hp2.1.symm) (by decide)

end UniRil.Sim
