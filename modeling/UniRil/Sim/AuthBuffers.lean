import UniRil.Sim.Authentication

/-!
# The buffers of the authentication answer

`binSimResponse` is filled field by field, each field over what the one before it may have left behind
its end. The length of the base64 text is read from the buffer.
-/

namespace UniRil.Sim

open AtTok (Line)

/-! ## Storing -/

/-- The buffer with some bytes stored; `none` where they do not all lie in it. -/
def stored (buffer : List Byte) (offset : Nat) (bytes : List Byte) : Option (List Byte) :=
  if offset + bytes.length ≤ buffer.length then
    some (buffer.take offset ++ bytes ++ buffer.drop (offset + bytes.length))
  else none

/-- A length byte and the bytes of a hex text. -/
def storeField (buffer : List Byte) (offset : Nat) (text : Line) : Option (List Byte) := do
  let buffer ← stored buffer offset [UInt8.ofNat (text.length / 2)]
  stored buffer (offset + 1) (convertHexToBin text).2

/-- Each field lies behind the one before it. -/
def storeFields : List Byte → Nat → List Line → Option (List Byte)
  | buffer, _, [] => some buffer
  | buffer, offset, text :: texts => do
    let buffer ← storeField buffer offset text
    storeFields buffer (offset + 1 + text.length / 2) texts

/-- The length bytes, read where they were stored. -/
def lengthsIn (buffer : List Byte) : Nat → List Line → Nat
  | _, [] => 0
  | offset, text :: texts => (buffer.getD offset 0).toNat + lengthsIn buffer (offset + 1 + text.length / 2) texts

/-- `binSimResponseLen`; `head` is what the lengths and the flag take. -/
def binSimResponseLen (head : Nat) (texts : List Line) : Nat := (texts.map List.length).sum / 2 + head

/-- `binSimResponse`, for one byte more than its length. -/
def binSimResponse (head : Nat) (flag : List Byte) (texts : List Line) : Option (List Byte) := do
  let buffer ← stored (List.replicate (binSimResponseLen head texts + 1) 0) 0 flag
  storeFields buffer flag.length texts

/-- `response.simResponse`; `none` where an access is outside the buffers. -/
def simResponse (head : Nat) (flag : List Byte) (texts : List Line) : Option Line := do
  let buffer ← binSimResponse head flag texts
  let binlength := flag.length + texts.length + lengthsIn buffer flag.length texts
  let base64 := base64_encode (buffer.take binlength)
  if binlength ≤ buffer.length ∧ base64.length + 1 ≤ 2 * binSimResponseLen head texts + 1 then some base64 else none

/-! ## What is in the buffer -/

theorem length_convertHexToBin_le (hex : List Byte) : (convertHexToBin hex).2.length ≤ (hex.length + 1) / 2 := by
  induction hex using convertHexToBin.induct with
  | case1 => simp [convertHexToBin]
  | case2 ch hnone => simp [convertHexToBin, hnone]
  | case3 ch high hsome => simp [convertHexToBin, hsome]
  | case4 ch ch' hex hnone => simp [convertHexToBin, hnone]
  | case5 ch ch' hex high hsome hnone =>
    simp [convertHexToBin, hsome, hnone]
    omega
  | case6 ch ch' hex high low hlow hhigh ih =>
    simp [convertHexToBin, hlow, hhigh]
    omega

theorem length_lengthAndBytes (text : Line) : (lengthAndBytes text).length = 1 + text.length / 2 := by
  have hbytes := length_convertHexToBin_le text
  simp [lengthAndBytes]
  omega

theorem stored_append (done old bytes rest : List Byte) (h : bytes.length = old.length) :
    stored (done ++ (old ++ rest)) done.length bytes = some (done ++ (bytes ++ rest)) := by
  rw [stored, if_pos (by simp; omega)]
  simp [h]

/-- Bytes that fill a field of `n`, or go one further, and the zeros behind them. -/
theorem bytes_and_zeros (bytes : List Byte) {n k : Nat} (hbytes : bytes.length ≤ n + 1) (hk : n + 1 ≤ k) :
    ∃ c', bytes ++ List.replicate (k - bytes.length) 0 =
      (bytes ++ List.replicate (n - bytes.length) 0).take n ++ c' :: List.replicate (k - (n + 1)) 0 := by
  by_cases hn : bytes.length ≤ n
  · refine ⟨0, ?_⟩
    have hzeros : List.replicate (k - bytes.length) (0 : Byte) =
        List.replicate (n - bytes.length) 0 ++ List.replicate (k - (n + 1) + 1) 0 := by
      rw [List.replicate_append_replicate]
      congr 1
      omega
    rw [hzeros, List.take_of_length_le (by simp; omega), List.append_assoc, List.replicate_succ]
  · have hlast : bytes.length = n + 1 := by omega
    obtain ⟨front, c', rfl⟩ := List.eq_nil_or_concat bytes |>.resolve_left (by rintro rfl; simp at hlast)
    rw [List.concat_eq_append] at hlast ⊢
    have hfront : front.length = n := by simpa using hlast
    refine ⟨c', ?_⟩
    have hnone : n - (front ++ [c']).length = 0 := by omega
    rw [hnone, hlast, List.replicate_zero, List.append_nil, List.take_left' hfront, List.append_assoc]
    rfl

/-- A field is stored, and at most one byte stands behind it. -/
theorem storeField_eq (done : List Byte) (c : Byte) (text : Line) {k : Nat} (h : text.length / 2 + 1 ≤ k) :
    ∃ c', storeField (done ++ c :: List.replicate k 0) done.length text =
      some (done ++ lengthAndBytes text ++ c' :: List.replicate (k - (text.length / 2 + 1)) 0) := by
  have hlen := length_convertHexToBin_le text
  obtain ⟨c', hrest⟩ := bytes_and_zeros (convertHexToBin text).2 (n := text.length / 2) (k := k) (by omega) h
  refine ⟨c', ?_⟩
  have hfirst := stored_append done [c] [UInt8.ofNat (text.length / 2)] (List.replicate k 0) rfl
  have hzeros : List.replicate k (0 : Byte) = List.replicate (convertHexToBin text).2.length 0 ++
      List.replicate (k - (convertHexToBin text).2.length) 0 := by
    rw [List.replicate_append_replicate]
    congr 1
    omega
  have hsecond := stored_append (done ++ [UInt8.ofNat (text.length / 2)])
    (List.replicate (convertHexToBin text).2.length 0) (convertHexToBin text).2
    (List.replicate (k - (convertHexToBin text).2.length) 0) (by simp)
  rw [← hzeros, hrest] at hsecond
  rw [storeField]
  simp only [List.cons_append, List.nil_append, List.append_assoc, List.length_append, List.length_singleton] at *
  rw [hfirst, Option.bind_eq_bind, Option.bind_some, hsecond, lengthAndBytes]
  simp

/-- **The fields lie one behind another**, whatever their texts are. -/
theorem storeFields_eq (texts : List Line) (done : List Byte) (c : Byte) {k : Nat}
    (h : (texts.map fun text => text.length / 2 + 1).sum ≤ k) :
    ∃ c' k', storeFields (done ++ c :: List.replicate k 0) done.length texts =
      some (done ++ texts.flatMap lengthAndBytes ++ c' :: List.replicate k' 0) := by
  induction texts generalizing done c k with
  | nil => exact ⟨c, k, by simp [storeFields]⟩
  | cons text texts ih =>
    rw [List.map_cons, List.sum_cons] at h
    obtain ⟨c', hfield⟩ := storeField_eq done c text (k := k) (by omega)
    have hlen : (done ++ lengthAndBytes text).length = done.length + 1 + text.length / 2 := by
      rw [List.length_append, length_lengthAndBytes]
      omega
    obtain ⟨c'', k'', hrest⟩ := ih (done ++ lengthAndBytes text) c' (k := k - (text.length / 2 + 1)) (by omega)
    refine ⟨c'', k'', ?_⟩
    rw [storeFields, hfield, Option.bind_eq_bind, Option.bind_some, ← hlen, hrest]
    simp

/-- The length bytes that are read are those that were stored. -/
theorem lengthsIn_eq (texts : List Line) (done rest : List Byte) :
    lengthsIn (done ++ texts.flatMap lengthAndBytes ++ rest) done.length texts =
      (texts.map fun text => text.length / 2 % 256).sum := by
  induction texts generalizing done with
  | nil => rfl
  | cons text texts ih =>
    have hrest := ih (done ++ lengthAndBytes text)
    have hlen : (done ++ lengthAndBytes text).length = done.length + 1 + text.length / 2 := by
      rw [List.length_append, length_lengthAndBytes]
      omega
    rw [hlen, List.append_assoc done, ← List.flatMap_cons] at hrest
    have hfirst : ((done ++ (text :: texts).flatMap lengthAndBytes ++ rest).getD done.length 0).toNat =
        text.length / 2 % 256 := by
      rw [List.append_assoc, List.getD_eq_getElem?_getD, List.getElem?_append_right le_rfl, Nat.sub_self,
        List.flatMap_cons, lengthAndBytes]
      simp
    rw [lengthsIn, hfirst, hrest, List.map_cons, List.sum_cons]

/-! ## The text that is reported -/

theorem sum_halves_le (texts : List Line) :
    2 * (texts.map fun text => text.length / 2 + 1).sum ≤ (texts.map List.length).sum + 2 * texts.length := by
  induction texts with
  | nil => simp
  | cons text texts ih =>
    simp only [List.map_cons, List.sum_cons, List.length_cons]
    omega

theorem sum_lengths_le (texts : List Line) :
    (texts.map fun text => 1 + text.length / 2 % 256).sum ≤ (texts.map fun text => text.length / 2 + 1).sum := by
  induction texts with
  | nil => simp
  | cons text texts ih =>
    simp only [List.map_cons, List.sum_cons]
    omega

theorem sum_lengths_eq (texts : List Line) :
    (texts.map fun text => 1 + text.length / 2 % 256).sum =
      texts.length + (texts.map fun text => text.length / 2 % 256).sum := by
  induction texts with
  | nil => rfl
  | cons text texts ih =>
    simp only [List.map_cons, List.sum_cons, List.length_cons]
    omega

theorem length_flatMap_lengthAndBytes (texts : List Line) :
    (texts.flatMap lengthAndBytes).length = (texts.map fun text => text.length / 2 + 1).sum := by
  induction texts with
  | nil => rfl
  | cons text texts ih =>
    simp only [List.flatMap_cons, List.length_append, length_lengthAndBytes, ih, List.map_cons, List.sum_cons]
    omega

theorem length_base64_encode (bytes : List Byte) : (base64_encode bytes).length = 4 * ((bytes.length + 2) / 3) := by
  induction bytes using base64_encode.induct with
  | case1 => rfl
  | case2 a => simp [base64_encode]
  | case3 a b => simp [base64_encode]
  | case4 a b c rest ih =>
    rw [base64_encode, List.length_append, ih]
    simp only [List.length_cons, List.length_nil]
    omega

/-- **The answer is written within its buffers**, and it is the text that is reported. -/
theorem simResponse_eq {head : Nat} {flag : List Byte} {texts : List Line} (hhead : flag.length + texts.length ≤ head)
    (htwo : 2 ≤ flag.length + texts.length) :
    simResponse head flag texts = some (base64_encode (answerBytes flag texts)) := by
  have hhalves := sum_halves_le texts
  have hlengths := sum_lengths_le texts
  have hsum := sum_lengths_eq texts
  have hsize : (texts.map fun text => text.length / 2 + 1).sum ≤ binSimResponseLen head texts - flag.length := by
    rw [binSimResponseLen]
    omega
  have hflag : stored (List.replicate (binSimResponseLen head texts + 1) 0) 0 flag =
      some (flag ++ 0 :: List.replicate (binSimResponseLen head texts - flag.length) 0) := by
    have hle : flag.length ≤ binSimResponseLen head texts := by
      rw [binSimResponseLen]
      omega
    rw [stored, if_pos (by simp; omega), List.take_zero, List.nil_append, List.drop_replicate, ← List.replicate_succ]
    congr 3
    omega
  obtain ⟨c', k', hfields⟩ := storeFields_eq texts flag 0 hsize
  have hbuffer : binSimResponse head flag texts =
      some (flag ++ texts.flatMap lengthAndBytes ++ c' :: List.replicate k' 0) := by
    rw [binSimResponse, hflag, Option.bind_eq_bind, Option.bind_some, hfields]
  have hlength := length_flatMap_lengthAndBytes texts
  rw [simResponse, hbuffer, Option.bind_eq_bind, Option.bind_some]
  simp only [lengthsIn_eq]
  have hbin : flag.length + texts.length + (texts.map fun text => text.length / 2 % 256).sum =
      flag.length + (texts.map fun text => 1 + text.length / 2 % 256).sum := by omega
  have htake : (flag ++ texts.flatMap lengthAndBytes ++ c' :: List.replicate k' 0).take
      (flag.length + (texts.map fun text => 1 + text.length / 2 % 256).sum) = answerBytes flag texts := by
    rw [List.take_append_of_le_length (by rw [List.length_append]; omega), answerBytes]
  have hanswer : (answerBytes flag texts).length =
      flag.length + (texts.map fun text => 1 + text.length / 2 % 256).sum := by
    rw [answerBytes, List.length_take, List.length_append]
    omega
  rw [hbin, htake, if_pos]
  refine ⟨?_, ?_⟩
  · rw [List.length_append, List.length_append]
    omega
  · rw [length_base64_encode, hanswer, binSimResponseLen]
    omega

end UniRil.Sim
