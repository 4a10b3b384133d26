import UniRil.Properties
import UniRil.Sim.AuthBase64
import UniRil.Sim.AuthBuffers
import UniRil.Sim.Helpers
import UniRil.Sim.Ownership

/-!
# Authentication from end to end

The challenge reaches the modem as it was given, and the answer of the card goes back as it came. Text
between commas may stand in quotes, and the digits of the modem are in any case.
-/

namespace UniRil.Sim

open Flows Handlers
open AtTok (Line)
open Properties (joined)

variable {ε : Type}

/-! ## The challenge -/

theorem map_range_getD (front middle behind : List Byte) (f : Nat → Byte) {n : Nat} (h : middle.length = n) :
    ((List.range n).map fun i => (front ++ (middle ++ behind)).getD (front.length + i) (f i)) = middle := by
  apply List.ext_getElem
  · simp [h]
  · intro i hi hi'
    simp [List.getElem?_append_right, List.getElem?_append_left hi', List.getElem?_eq_getElem hi']

theorem map_binAuthData (heap : Heap) {authData : Line} {bindata : List Byte} (h : bindata.length ≤ authData.length) :
    ∃ rest, (List.range authData.length).map (fun i => bindata.getD i (heap.bin i)) = bindata ++ rest := by
  obtain ⟨k, hk⟩ := Nat.exists_eq_add_of_le h
  refine ⟨(List.range k).map fun i => bindata.getD (bindata.length + i) (heap.bin (bindata.length + i)), ?_⟩
  rw [hk, List.range_add, List.map_append, List.map_map]
  congr 1
  have hfront := map_range_getD [] bindata [] heap.bin rfl
  simpa using hfront

theorem convertBinToHex_append (bin bin' : List Byte) :
    convertBinToHex (bin ++ bin') = convertBinToHex bin ++ convertBinToHex bin' := by
  rw [convertBinToHex, List.flatMap_append]
  rfl

theorem nul_notMem_convertBinToHex (bin : List Byte) : NUL ∉ convertBinToHex bin := by
  have hdigit : ∀ n < 16, hexDigit (UInt8.ofNat n) ≠ NUL := by decide
  rw [convertBinToHex, List.mem_flatMap]
  rintro ⟨b, -, hb⟩
  obtain ⟨high, hhigh, low, hlow, h, h', -⟩ := halves b
  rw [h, h', List.mem_cons, List.mem_singleton] at hb
  rcases hb with hb | hb
  · exact hdigit high hhigh hb.symm
  · exact hdigit low hlow hb.symm

/-- What is copied of the hex text is the hex of the bytes there. -/
theorem copied_eq (heap : Heap) (authData : Line) (front middle behind : List Byte)
    (h : (front ++ middle ++ behind).length ≤ authData.length) :
    (challengeOf heap authData (front ++ middle ++ behind)).copied (2 * front.length) middle.length =
      convertBinToHex middle := by
  obtain ⟨rest, hrest⟩ := map_binAuthData heap h
  have hhex : convertBinToHex (front ++ middle ++ behind ++ rest) ++ [NUL] =
      convertBinToHex front ++ (convertBinToHex middle ++ (convertBinToHex (behind ++ rest) ++ [NUL])) := by
    simp only [convertBinToHex_append, List.append_assoc]
  simp only [Challenge.copied, challengeOf, hrest, hhex]
  rw [← length_convertBinToHex front, ← length_convertBinToHex middle, map_range_getD _ _ _ _ rfl,
    cstr_of_notMem (nul_notMem_convertBinToHex middle)]

/-- A length and the bytes it counts. -/
def counted (bytes : List Byte) : List Byte := UInt8.ofNat bytes.length :: bytes

theorem length_le_length_encode (bytes : List Byte) : bytes.length ≤ (Base64.encode bytes).length := by
  rw [Base64.length_encode]
  omega

section

variable (heap : Heap) {rand : List Byte} (hrand : rand.length ≤ 255) (behind : List Byte)

include hrand

theorem randLen_counted : (challengeOf heap (Base64.encode (counted rand ++ behind)) (counted rand ++ behind)).randLen =
    rand.length := by
  simp only [Challenge.randLen, challengeOf, counted, List.cons_append, List.getD_cons_zero, UInt8.toNat_ofNat']
  omega

theorem rand_counted : (challengeOf heap (Base64.encode (counted rand ++ behind)) (counted rand ++ behind)).rand =
    hexText (fun _ => true) rand := by
  have hcopied := copied_eq heap (Base64.encode (counted rand ++ behind)) [UInt8.ofNat rand.length] rand behind
    (length_le_length_encode _)
  rw [Challenge.rand, randLen_counted heap hrand, ← convertBinToHex_eq]
  exact hcopied

variable {autn : List Byte} (hautn : autn.length ≤ 255)

include hautn

theorem autnLen_counted : (challengeOf heap (Base64.encode (counted rand ++ counted autn))
    (counted rand ++ counted autn)).autnLen = autn.length := by
  have hplace : (counted rand ++ counted autn).getD (rand.length + 1) (heap.bin (rand.length + 1)) =
      UInt8.ofNat autn.length := by
    simp [counted]
  rw [Challenge.autnLen, randLen_counted heap hrand]
  simp only [challengeOf, hplace, UInt8.toNat_ofNat']
  omega

theorem autn_counted : (challengeOf heap (Base64.encode (counted rand ++ counted autn))
    (counted rand ++ counted autn)).autn = hexText (fun _ => true) autn := by
  have hfront : counted rand ++ counted autn = (counted rand ++ [UInt8.ofNat autn.length]) ++ autn ++ [] := by
    simp [counted]
  have hcopied := copied_eq heap (Base64.encode (counted rand ++ counted autn))
    (counted rand ++ [UInt8.ofNat autn.length]) autn [] (by rw [← hfront]; exact length_le_length_encode _)
  have hstart : 2 * (counted rand ++ [UInt8.ofNat autn.length]).length = rand.length * 2 + 4 := by
    simp [counted]
    omega
  rw [← hfront, hstart] at hcopied
  rw [Challenge.autn, randLen_counted heap hrand, autnLen_counted heap hrand hautn, ← convertBinToHex_eq]
  exact hcopied

end

/-! ## The line of the modem -/

/-- A field of the answer: whether it is quoted, and its text. -/
def fieldText (field : Bool × Line) : Line := if field.1 then quoted field.2 else field.2

/-- `^MBAU: status,field,...` -/
def mbauLine (status : Nat) (fields : List (Bool × Line)) : Line :=
  ascii "^MBAU: " ++ (decimal status ++ 44 :: joined (fields.map fieldText))

/-- The bytes in hex, in quotes or not, the digits in the case that is given. -/
def hexField (quote : Bool) (upper : Nat → Bool) (bytes : List Byte) : Bool × Line := (quote, hexText upper bytes)

theorem plain_digit : ∀ n < 16, ∀ upper, digitIn upper (UInt8.ofNat n) ≠ 34 ∧ digitIn upper (UInt8.ofNat n) ≠ 44 ∧
    AtTok.isspace (digitIn upper (UInt8.ofNat n)) = false := by decide

/-- A hex digit is neither a quote nor a comma nor a blank. -/
theorem plain_hexText (upper : Nat → Bool) (bytes : List Byte) :
    ∀ c ∈ hexText upper bytes, c ≠ 34 ∧ c ≠ 44 ∧ AtTok.isspace c = false := by
  induction bytes generalizing upper with
  | nil => simp [hexText]
  | cons b bytes ih =>
    obtain ⟨high, hhigh, low, hlow, h, h', -⟩ := halves b
    intro c hc
    rw [hexText, h, h', List.mem_cons, List.mem_cons] at hc
    rcases hc with rfl | rfl | hc
    · exact plain_digit high hhigh _
    · exact plain_digit low hlow _
    · exact ih _ c hc

theorem nextTok_plain {text : Line} (hplain : ∀ c ∈ text, c ≠ 34 ∧ c ≠ 44 ∧ AtTok.isspace c = false) :
    AtTok.nextTok (some text) = (some text, none) ∧
      ∀ rest, AtTok.nextTok (some (text ++ 44 :: rest)) = (some text, some rest) := by
  have hcomma : (44 : Byte) ∉ text := fun h => (hplain 44 h).2.1 rfl
  have hone := Properties.strsep_of_notMem hcomma
  have hmore : ∀ rest, AtTok.strsep (text ++ 44 :: rest) 44 = (text, some rest) := fun rest => strsep_append hcomma
  cases text with
  | nil =>
    refine ⟨rfl, fun rest => ?_⟩
    simp [AtTok.nextTok, AtTok.skipWhiteSpace, AtTok.isspace, AtTok.strsep]
  | cons c text =>
    obtain ⟨hquote, -, hspace⟩ := hplain c List.mem_cons_self
    refine ⟨?_, fun rest => ?_⟩
    · simp [AtTok.nextTok, AtTok.skipWhiteSpace, hspace, hquote, hone]
    · have h := hmore rest
      rw [List.cons_append] at h ⊢
      simp [AtTok.nextTok, AtTok.skipWhiteSpace, hspace, hquote, h]

theorem quote_notMem_hexText (upper : Nat → Bool) (bytes : List Byte) : (34 : Byte) ∉ hexText upper bytes :=
  fun h => (plain_hexText upper bytes 34 h).1 rfl

/-- The next field of the line is read. -/
theorem at_tok_nextstr_field (quote : Bool) (upper : Nat → Bool) (bytes : List Byte) :
    (AtTok.at_tok_nextstr (some (fieldText (hexField quote upper bytes)))).value = some (hexText upper bytes) ∧
      ∀ rest, AtTok.at_tok_nextstr (some (fieldText (hexField quote upper bytes) ++ 44 :: rest)) =
        { ok := true, p_out := some (hexText upper bytes), p_cur := some rest } := by
  cases quote with
  | false =>
    obtain ⟨hone, hmore⟩ := nextTok_plain (plain_hexText upper bytes)
    have hfield : fieldText (hexField false upper bytes) = hexText upper bytes := rfl
    rw [hfield]
    refine ⟨?_, fun rest => ?_⟩
    · rw [AtTok.at_tok_nextstr, hone]
      rfl
    · rw [AtTok.at_tok_nextstr, hmore]
  | true =>
    have hfield : fieldText (hexField true upper bytes) = 34 :: (hexText upper bytes ++ [34]) := rfl
    rw [hfield]
    refine ⟨?_, fun rest => ?_⟩
    · rw [at_tok_nextstr_quoted (quote_notMem_hexText upper bytes)]
      rfl
    · rw [List.cons_append, List.append_assoc, List.cons_append, List.nil_append,
        at_tok_nextstr_quoted (quote_notMem_hexText upper bytes)]
      rfl

/-- The status is read, and the fields are left. -/
theorem mbauLine_reads {status : Nat} (h : status < 2 ^ 31) (fields : List (Bool × Line)) :
    ∃ cur, AtTok.at_tok_start (some (mbauLine status fields)) = some cur ∧
      (AtTok.at_tok_nextint (some cur)).value = some (status : Int) ∧
      (AtTok.at_tok_nextint (some cur)).p_cur = some (joined (fields.map fieldText)) := by
  refine ⟨32 :: (decimal status ++ 44 :: joined (fields.map fieldText)), rfl, ?_⟩
  rw [at_tok_nextint_blank, at_tok_nextint_comma h]
  exact ⟨rfl, rfl⟩

/-- Three fields are read one after another. -/
theorem at_tok_nextstr_three (q q' q'' : Bool) (u u' u'' : Nat → Bool) (a b c : List Byte) :
    let first := AtTok.at_tok_nextstr (some (joined
      ([hexField q u a, hexField q' u' b, hexField q'' u'' c].map fieldText)))
    let second := AtTok.at_tok_nextstr first.p_cur
    first.value = some (hexText u a) ∧ second.value = some (hexText u' b) ∧
      (AtTok.at_tok_nextstr second.p_cur).value = some (hexText u'' c) := by
  obtain ⟨-, hfirst⟩ := at_tok_nextstr_field q u a
  obtain ⟨-, hsecond⟩ := at_tok_nextstr_field q' u' b
  obtain ⟨hthird, -⟩ := at_tok_nextstr_field q'' u'' c
  simp only [List.map_cons, List.map_nil, joined, hfirst, hsecond]
  exact ⟨rfl, rfl, hthird⟩

/-- Two fields are read one after another. -/
theorem at_tok_nextstr_two (q q' : Bool) (u u' : Nat → Bool) (a b : List Byte) :
    let first := AtTok.at_tok_nextstr (some (joined ([hexField q u a, hexField q' u' b].map fieldText)))
    first.value = some (hexText u a) ∧ (AtTok.at_tok_nextstr first.p_cur).value = some (hexText u' b) := by
  obtain ⟨-, hfirst⟩ := at_tok_nextstr_field q u a
  obtain ⟨hsecond, -⟩ := at_tok_nextstr_field q' u' b
  simp only [List.map_cons, List.map_nil, joined, hfirst]
  exact ⟨rfl, hsecond⟩

/-! ## The answer -/

theorem lengthAndBytes_hexText (upper : Nat → Bool) (bytes : List Byte) :
    lengthAndBytes (hexText upper bytes) = counted bytes := by
  have hhalf : (hexText upper bytes).length / 2 = bytes.length := by
    rw [length_hexText]
    omega
  rw [lengthAndBytes, convertHexToBin_hexText, hhalf, Nat.sub_self, List.replicate_zero, List.append_nil,
    List.take_length, counted]

theorem answerBytes_hexText (flag : List Byte) (fields : List ((Nat → Bool) × List Byte))
    (h : ∀ field ∈ fields, field.2.length ≤ 255) :
    answerBytes flag (fields.map fun field => hexText field.1 field.2) =
      flag ++ fields.flatMap fun field => counted field.2 := by
  have hfields : (fields.map fun field => hexText field.1 field.2).flatMap lengthAndBytes =
      fields.flatMap fun field => counted field.2 := by
    rw [List.flatMap_map]
    exact List.flatMap_congr fun field _ => lengthAndBytes_hexText field.1 field.2
  have hsum : ((fields.map fun field => hexText field.1 field.2).map fun text => 1 + text.length / 2 % 256).sum =
      (fields.flatMap fun field => counted field.2).length := by
    rw [List.map_map, List.length_flatMap]
    congr 1
    refine List.map_congr_left fun field hfield => ?_
    have hlen := h field hfield
    simp only [Function.comp, length_hexText, counted, List.length_cons]
    omega
  rw [answerBytes, hfields, hsum, List.take_of_length_le (by rw [List.length_append])]

/-! ## The requests -/

/-- The command goes out and the request succeeds with the bytes in base64. -/
def Authenticates (m : Handler Slot Empty Unit) (cmd : Line) (t : RIL_Token) (answer : List Byte) (w : World Slot) :
    Prop :=
  wp m (fun _ w' => w'.log = w.log ++ [.at_send_command cmd,
    .RIL_onRequestComplete t .SUCCESS (.simData 0x90 0 (some (Base64.encode answer)))]) (fun _ _ => False) w

/-- Whatever is answered, this command is sent first. -/
def Commands (m : Handler Slot Empty Unit) (cmd : Line) (w : World Slot) : Prop :=
  wp m (fun _ w' => (w.log ++ [.at_send_command cmd]) <+: w'.log) (fun _ _ => False) w

def usimCommand (rand autn : List Byte) : Line :=
  ascii "AT^MBAU=" ++ quoted (hexText (fun _ => true) rand) ++ ascii "," ++ quoted (hexText (fun _ => true) autn)

def simCommand (rand : List Byte) : Line := ascii "AT^MBAU=" ++ quoted (hexText (fun _ => true) rand)

section

variable {w : World Slot} (heap : Heap) (t : RIL_Token) (halloc : w.allocates = fun _ => true)
  {rand autn : List Byte} (hrand : rand.length ≤ 255) (hautn : autn.length ≤ 255)

include halloc hrand

theorem commands_requestSimAuthentication :
    Commands (requestSimAuthentication heap (Base64.encode (counted rand)) t) (simCommand rand) w := by
  have hdecode := base64_decode_encode (counted rand)
  have hcommand := rand_counted heap hrand []
  simp only [List.append_nil] at hcommand
  simp [Commands, requestSimAuthentication, challenge, authenticate, completeAuthentication, failAuthentication, halloc,
    hdecode, hcommand, simCommand]

include hautn

theorem commands_requestUSimAuthentication :
    Commands (requestUSimAuthentication heap (Base64.encode (counted rand ++ counted autn)) t) (usimCommand rand autn)
      w := by
  have hdecode := base64_decode_encode (counted rand ++ counted autn)
  have hrandText := rand_counted heap hrand (counted autn)
  have hautnText := autn_counted heap hrand hautn
  simp [Commands, requestUSimAuthentication, challenge, authenticate, completeAuthentication, failAuthentication,
    halloc, hdecode, hrandText, hautnText, usimCommand]

/-- The card accepts. -/
theorem authenticates_usim_success {res ck ik : List Byte} (hlengths : ∀ bytes ∈ [res, ck, ik], bytes.length ≤ 255)
    (q q' q'' : Bool) (u u' u'' : Nat → Bool)
    (hline : lineOf (ascii "^MBAU:") (w.answers 0) =
      some (mbauLine 0 [hexField q u res, hexField q' u' ck, hexField q'' u'' ik])) :
    Authenticates (requestUSimAuthentication heap (Base64.encode (counted rand ++ counted autn)) t)
      (usimCommand rand autn) t (0xDB :: (counted res ++ counted ck ++ counted ik)) w := by
  have hdecode := base64_decode_encode (counted rand ++ counted autn)
  have hrandText := rand_counted heap hrand (counted autn)
  have hautnText := autn_counted heap hrand hautn
  have hanswer := answerBytes_hexText [0xDB] [(u, res), (u', ck), (u'', ik)] (by simpa using hlengths)
  obtain ⟨f, ls, ha, hf, hls⟩ := lineOf_eq_some.1 hline
  obtain ⟨cur, hstart, hstatus, hcur⟩ := mbauLine_reads (by decide : 0 < 2 ^ 31)
    [hexField q u res, hexField q' u' ck, hexField q'' u'' ik]
  obtain ⟨hfirst, hsecond, hthird⟩ := at_tok_nextstr_three q q' q'' u u' u'' res ck ik
  simp only [List.map_cons, List.map_nil] at hanswer
  generalize joined _ = rest at hcur hfirst hsecond hthird
  simp [Authenticates, requestUSimAuthentication, challenge, authenticate, completeAuthentication, halloc, hdecode,
    hrandText, hautnText, ha, hf, hls, hstart, hstatus, hcur, hfirst, hsecond, hthird,
    SIM_AUTH_RESPONSE_SUCCESS, usimCommand, hanswer, base64_encode_eq]

/-- The card is out of step. -/
theorem authenticates_usim_sync {auts : List Byte} (hlength : auts.length ≤ 255) (q : Bool) (u : Nat → Bool)
    (hline : lineOf (ascii "^MBAU:") (w.answers 0) = some (mbauLine 3 [hexField q u auts])) :
    Authenticates (requestUSimAuthentication heap (Base64.encode (counted rand ++ counted autn)) t)
      (usimCommand rand autn) t (0xDC :: counted auts) w := by
  have hdecode := base64_decode_encode (counted rand ++ counted autn)
  have hrandText := rand_counted heap hrand (counted autn)
  have hautnText := autn_counted heap hrand hautn
  have hanswer := answerBytes_hexText [0xDC] [(u, auts)] (by simpa using hlength)
  obtain ⟨f, ls, ha, hf, hls⟩ := lineOf_eq_some.1 hline
  obtain ⟨cur, hstart, hstatus, hcur⟩ := mbauLine_reads (by decide : 3 < 2 ^ 31) [hexField q u auts]
  have hfirst : (AtTok.at_tok_nextstr (some (joined ([hexField q u auts].map fieldText)))).value =
      some (hexText u auts) := (at_tok_nextstr_field q u auts).1
  simp only [List.map_cons, List.map_nil] at hanswer
  generalize joined _ = rest at hcur hfirst
  simp [Authenticates, requestUSimAuthentication, challenge, authenticate, completeAuthentication, halloc, hdecode,
    hrandText, hautnText, ha, hf, hls, hstart, hstatus, hcur, hfirst, SIM_AUTH_RESPONSE_SUCCESS,
    SIM_AUTH_RESPONSE_SYNC_FAILURE, usimCommand, hanswer, base64_encode_eq]

omit hautn in
/-- A SIM gives the key first, and the result goes back first. -/
theorem authenticates_sim {sres kc : List Byte} (hlengths : ∀ bytes ∈ [sres, kc], bytes.length ≤ 255) (q q' : Bool)
    (u u' : Nat → Bool)
    (hline : lineOf (ascii "^MBAU:") (w.answers 0) = some (mbauLine 0 [hexField q u kc, hexField q' u' sres])) :
    Authenticates (requestSimAuthentication heap (Base64.encode (counted rand)) t) (simCommand rand) t
      (counted sres ++ counted kc) w := by
  have hdecode := base64_decode_encode (counted rand)
  have hrandText := rand_counted heap hrand []
  simp only [List.append_nil] at hrandText
  have hanswer := answerBytes_hexText [] [(u', sres), (u, kc)] (by simpa using hlengths)
  obtain ⟨f, ls, ha, hf, hls⟩ := lineOf_eq_some.1 hline
  obtain ⟨cur, hstart, hstatus, hcur⟩ := mbauLine_reads (by decide : 0 < 2 ^ 31) [hexField q u kc, hexField q' u' sres]
  obtain ⟨hfirst, hsecond⟩ := at_tok_nextstr_two q q' u u' kc sres
  simp only [List.map_cons, List.map_nil] at hanswer
  generalize joined _ = rest at hcur hfirst hsecond
  simp [Authenticates, requestSimAuthentication, challenge, authenticate, completeAuthentication, halloc, hdecode,
    hrandText, ha, hf, hls, hstart, hstatus, hcur, hfirst, hsecond, SIM_AUTH_RESPONSE_SUCCESS, simCommand, hanswer,
    base64_encode_eq]

/-- **Challenges and results are carried unchanged**, and every answer is written within its buffers. -/
theorem authentication_carries :
    Commands (requestUSimAuthentication heap (Base64.encode (counted rand ++ counted autn)) t) (usimCommand rand autn)
        w ∧
      Commands (requestSimAuthentication heap (Base64.encode (counted rand)) t) (simCommand rand) w ∧
      (∀ res ck ik : List Byte, (∀ bytes ∈ [res, ck, ik], bytes.length ≤ 255) → ∀ q q' q'' u u' u'',
        (lineOf (ascii "^MBAU:") (w.answers 0) =
            some (mbauLine 0 [hexField q u res, hexField q' u' ck, hexField q'' u'' ik]) →
          Authenticates (requestUSimAuthentication heap (Base64.encode (counted rand ++ counted autn)) t)
            (usimCommand rand autn) t (0xDB :: (counted res ++ counted ck ++ counted ik)) w) ∧
        simResponse 4 [0xDB] [hexText u res, hexText u' ck, hexText u'' ik] =
          some (Base64.encode (0xDB :: (counted res ++ counted ck ++ counted ik)))) ∧
      (∀ auts : List Byte, auts.length ≤ 255 → ∀ q u,
        (lineOf (ascii "^MBAU:") (w.answers 0) = some (mbauLine 3 [hexField q u auts]) →
          Authenticates (requestUSimAuthentication heap (Base64.encode (counted rand ++ counted autn)) t)
            (usimCommand rand autn) t (0xDC :: counted auts) w) ∧
        simResponse 2 [0xDC] [hexText u auts] = some (Base64.encode (0xDC :: counted auts))) ∧
      ∀ sres kc : List Byte, (∀ bytes ∈ [sres, kc], bytes.length ≤ 255) → ∀ q q' u u',
        (lineOf (ascii "^MBAU:") (w.answers 0) = some (mbauLine 0 [hexField q u kc, hexField q' u' sres]) →
          Authenticates (requestSimAuthentication heap (Base64.encode (counted rand)) t) (simCommand rand) t
            (counted sres ++ counted kc) w) ∧
        simResponse 3 [] [hexText u' sres, hexText u kc] = some (Base64.encode (counted sres ++ counted kc)) := by
  refine ⟨commands_requestUSimAuthentication heap t halloc hrand hautn,
    commands_requestSimAuthentication heap t halloc hrand, ?_, ?_, ?_⟩
  · intro res ck ik hlengths q q' q'' u u' u''
    refine ⟨authenticates_usim_success heap t halloc hrand hautn hlengths q q' q'' u u' u'', ?_⟩
    have hanswer := answerBytes_hexText [0xDB] [(u, res), (u', ck), (u'', ik)] (by simpa using hlengths)
    simp only [List.map_cons, List.map_nil] at hanswer
    rw [simResponse_eq (by simp) (by simp), hanswer, base64_encode_eq]
    simp
  · intro auts hlength q u
    refine ⟨authenticates_usim_sync heap t halloc hrand hautn hlength q u, ?_⟩
    have hanswer := answerBytes_hexText [0xDC] [(u, auts)] (by simpa using hlength)
    simp only [List.map_cons, List.map_nil] at hanswer
    rw [simResponse_eq (by simp) (by simp), hanswer, base64_encode_eq]
    simp
  · intro sres kc hlengths q q' u u'
    refine ⟨authenticates_sim heap t halloc hrand hlengths q q' u u', ?_⟩
    have hanswer := answerBytes_hexText [] [(u', sres), (u, kc)] (by simpa using hlengths)
    simp only [List.map_cons, List.map_nil] at hanswer
    rw [simResponse_eq (by simp) (by simp), hanswer, base64_encode_eq]
    simp

end

/-- A card that accepts with two bytes, none and one. -/
theorem authentication_carries_success :
    Authenticates
      (requestUSimAuthentication { bin := fun _ => 7, hex := fun _ => 7 }
        (Base64.encode (counted [0x1f, 0xa0] ++ counted [5])) (some 1))
      (usimCommand [0x1f, 0xa0] [5]) (some 1) (0xDB :: (counted [1, 0xab] ++ counted [] ++ counted [9]))
      (.start (fun _ => .response (ascii "OK") [ascii "^MBAU: 0,\"01Ab\",,\"09\""]) (fun _ => true) idleSlot) :=
  ((authentication_carries { bin := fun _ => 7, hex := fun _ => 7 } (some 1) rfl (by decide) (by decide)).2.2.1
    [1, 0xab] [] [9] (by decide) true false true (fun i => i = 2) (fun _ => true) (fun _ => true)).1
    (by decide)

end UniRil.Sim
