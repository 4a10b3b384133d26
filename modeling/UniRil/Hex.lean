import UniRil.CString

/-!
# Hex texts (ril_utils.c)

Both functions get their memory as the list of the cells they may use.
-/

namespace UniRil

/-- The digit of a half byte, as the branches on `tmp` compute it. -/
def hexDigit (tmp : Byte) : Byte := if tmp ≤ 9 then tmp + 48 else tmp + 65 - 10

def convertBinToHex (bin : List Byte) : List Byte :=
  bin.flatMap fun b : Byte => [hexDigit (b >>> 4), hexDigit (b &&& 0x0f)]

/-- The value of a digit, or `none` where the source returns -1. -/
def hexValue (ch : Byte) : Option Byte :=
  if 48 ≤ ch ∧ ch ≤ 57 then some (ch - 48)
  else if 97 ≤ ch ∧ ch ≤ 102 then some (ch - 97 + 10)
  else if 65 ≤ ch ∧ ch ≤ 70 then some (ch - 65 + 10)
  else none

/-- Whether the result is 0, and what was stored. A text of odd length ends at its NUL, which is no
digit. -/
def convertHexToBin : List Byte → Bool × List Byte
  | [] => (true, [])
  | [ch] =>
    match hexValue ch with
    | none => (false, [])
    | some high => (false, [high <<< 4])
  | ch :: ch' :: hex =>
    match hexValue ch, hexValue ch' with
    | none, _ => (false, [])
    | some high, none => (false, [high <<< 4])
    | some high, some low => ((convertHexToBin hex).1, (high <<< 4 ||| low) :: (convertHexToBin hex).2)

/-! ## Digits -/

set_option maxRecDepth 10000 in
theorem toNat_hexValue_lt {ch v : Byte} (h : hexValue ch = some v) : v.toNat < 16 := by
  have hall : ∀ n < 256, (hexValue (UInt8.ofNat n)).all (fun v => v.toNat < 16) = true := by decide
  have hch := hall ch.toNat ch.toNat_lt
  rw [UInt8.ofNat_toNat, h] at hch
  exact of_decide_eq_true hch

theorem toNat_digits {high low : Byte} (hhigh : high.toNat < 16) (hlow : low.toNat < 16) :
    (high <<< 4 ||| low).toNat = 16 * high.toNat + low.toNat := by
  have hall : ∀ h < 16, ∀ l < 16, (UInt8.ofNat h <<< 4 ||| UInt8.ofNat l).toNat = 16 * h + l := by decide
  have hboth := hall high.toNat hhigh low.toNat hlow
  rwa [UInt8.ofNat_toNat, UInt8.ofNat_toNat] at hboth

/-! ## Both cases -/

/-- A digit in the case that is asked for. -/
def digitIn (upper : Bool) (tmp : Byte) : Byte :=
  if tmp ≤ 9 then tmp + 48 else if upper then tmp + 55 else tmp + 87

/-- The bytes in hex, the digit at `i` in upper case when `upper i`. -/
def hexText (upper : Nat → Bool) : List Byte → List Byte
  | [] => []
  | b :: bin => digitIn (upper 0) (b >>> 4) :: digitIn (upper 1) (b &&& 0x0f) :: hexText (fun i => upper (i + 2)) bin

theorem length_hexText (upper : Nat → Bool) (bin : List Byte) : (hexText upper bin).length = 2 * bin.length := by
  induction bin generalizing upper with
  | nil => rfl
  | cons b bin ih =>
    rw [hexText, List.length_cons, List.length_cons, ih, List.length_cons]
    omega

theorem hexDigit_eq (tmp : Byte) : hexDigit tmp = digitIn true tmp := by
  rw [hexDigit, digitIn]
  split
  · rfl
  · rw [if_pos rfl, UInt8.sub_eq_add_neg, UInt8.add_assoc]
    rfl

/-- `convertBinToHex` writes upper case. -/
theorem convertBinToHex_eq (bin : List Byte) : convertBinToHex bin = hexText (fun _ => true) bin := by
  induction bin with
  | nil => rfl
  | cons b bin ih =>
    rw [hexText, ← ih, convertBinToHex, List.flatMap_cons, hexDigit_eq, hexDigit_eq]
    rfl

theorem length_convertBinToHex (bin : List Byte) : (convertBinToHex bin).length = 2 * bin.length := by
  rw [convertBinToHex_eq, length_hexText]

theorem hexValue_digitIn (upper : Bool) {n : Nat} (h : n < 16) :
    hexValue (digitIn upper (UInt8.ofNat n)) = some (UInt8.ofNat n) := by
  have hall : ∀ upper, ∀ n < 16, hexValue (digitIn upper (UInt8.ofNat n)) = some (UInt8.ofNat n) := by decide
  exact hall upper n h

set_option maxRecDepth 10000 in
theorem halves (b : Byte) : ∃ high < 16, ∃ low < 16,
    b >>> 4 = UInt8.ofNat high ∧ b &&& 0x0f = UInt8.ofNat low ∧ UInt8.ofNat high <<< 4 ||| UInt8.ofNat low = b := by
  have hall : ∀ n < 256, ∃ high < 16, ∃ low < 16, UInt8.ofNat n >>> 4 = UInt8.ofNat high ∧
      UInt8.ofNat n &&& 0x0f = UInt8.ofNat low ∧ UInt8.ofNat high <<< 4 ||| UInt8.ofNat low = UInt8.ofNat n := by
    intro n hn
    refine ⟨n / 16, by omega, n % 16, by omega, ?_⟩
    have hfin : ∀ n < 256, UInt8.ofNat n >>> 4 = UInt8.ofNat (n / 16) ∧ UInt8.ofNat n &&& 0x0f = UInt8.ofNat (n % 16) ∧
        UInt8.ofNat (n / 16) <<< 4 ||| UInt8.ofNat (n % 16) = UInt8.ofNat n := by decide
    exact hfin n hn
  have hb := hall b.toNat b.toNat_lt
  rwa [UInt8.ofNat_toNat] at hb

/-- **A hex text is read back**, whatever the case of its digits. -/
theorem convertHexToBin_hexText (upper : Nat → Bool) (bin : List Byte) :
    convertHexToBin (hexText upper bin) = (true, bin) := by
  induction bin generalizing upper with
  | nil => rfl
  | cons b bin ih =>
    obtain ⟨high, hhigh, low, hlow, hb, hb', hboth⟩ := halves b
    rw [hexText, hb, hb', convertHexToBin, hexValue_digitIn _ hhigh, hexValue_digitIn _ hlow, ih]
    simp only [hboth]

theorem convertHexToBin_convertBinToHex (bin : List Byte) : convertHexToBin (convertBinToHex bin) = (true, bin) := by
  rw [convertBinToHex_eq, convertHexToBin_hexText]

/-- Two texts that are hex make one. -/
theorem convertHexToBin_append_eq {hex hex' bin bin' : List Byte} (h : convertHexToBin hex = (true, bin))
    (h' : convertHexToBin hex' = (true, bin')) : convertHexToBin (hex ++ hex') = (true, bin ++ bin') := by
  induction hex using convertHexToBin.induct generalizing bin with
  | case1 =>
    obtain rfl : [] = bin := by simpa [convertHexToBin] using h
    exact h'
  | case2 ch hnone => simp [convertHexToBin, hnone] at h
  | case3 ch high hsome => simp [convertHexToBin, hsome] at h
  | case4 ch ch' hex hnone => simp [convertHexToBin, hnone] at h
  | case5 ch ch' hex high hsome hnone => simp [convertHexToBin, hsome, hnone] at h
  | case6 ch ch' hex high low hlow hhigh ih =>
    simp only [convertHexToBin, hlow, hhigh, Prod.mk.injEq, List.cons_append] at h ⊢
    obtain ⟨htrue, rfl⟩ := h
    have hrest : convertHexToBin hex = (true, (convertHexToBin hex).2) := by rw [← htrue]
    rw [ih hrest]
    exact ⟨rfl, rfl⟩

theorem length_of_convertHexToBin {hex bin : List Byte} (h : convertHexToBin hex = (true, bin)) :
    hex.length = 2 * bin.length := by
  induction hex using convertHexToBin.induct generalizing bin with
  | case1 =>
    obtain rfl : [] = bin := by simpa [convertHexToBin] using h
    rfl
  | case2 ch hnone => simp [convertHexToBin, hnone] at h
  | case3 ch high hsome => simp [convertHexToBin, hsome] at h
  | case4 ch ch' hex hnone => simp [convertHexToBin, hnone] at h
  | case5 ch ch' hex high hsome hnone => simp [convertHexToBin, hsome, hnone] at h
  | case6 ch ch' hex high low hlow hhigh ih =>
    simp only [convertHexToBin, hlow, hhigh, Prod.mk.injEq] at h
    obtain ⟨htrue, rfl⟩ := h
    have hrest : convertHexToBin hex = (true, (convertHexToBin hex).2) := by rw [← htrue]
    rw [List.length_cons, List.length_cons, List.length_cons, ih hrest]
    omega

theorem convertHexToBin_append {hex hex' : List Byte} (h : (convertHexToBin hex).1 = true)
    (h' : (convertHexToBin hex').1 = true) : (convertHexToBin (hex ++ hex')).1 = true := by
  rw [convertHexToBin_append_eq (Prod.ext h rfl) (Prod.ext h' rfl)]

theorem convertHexToBin_flatMap {α : Type} {f : α → List Byte} {l : List α}
    (h : ∀ a ∈ l, (convertHexToBin (f a)).1 = true) : (convertHexToBin (l.flatMap f)).1 = true := by
  induction l with
  | nil => rfl
  | cons a l ih =>
    rw [List.flatMap_cons]
    exact convertHexToBin_append (h a List.mem_cons_self) (ih fun b hb => h b (List.mem_cons_of_mem a hb))

/-! ## Digits in upper case -/

/-- The characters a hex text may have. -/
def hexChars : List Byte := ascii "0123456789abcdefABCDEF"

def toUpper (ch : Byte) : Byte := if 97 ≤ ch ∧ ch ≤ 122 then ch - 32 else ch

set_option maxRecDepth 10000 in
theorem mem_hexChars {ch : Byte} : ch ∈ hexChars ↔ ∃ v, hexValue ch = some v := by
  have hall : ∀ n < 256, UInt8.ofNat n ∈ hexChars ↔ (hexValue (UInt8.ofNat n)).isSome = true := by decide
  have hch := hall ch.toNat ch.toNat_lt
  rwa [UInt8.ofNat_toNat, Option.isSome_iff_exists] at hch

set_option maxRecDepth 10000 in
/-- A digit is written back in upper case. -/
theorem hexDigit_hexValue {ch v : Byte} (h : hexValue ch = some v) : hexDigit v = toUpper ch := by
  have hall : ∀ n < 256, (hexValue (UInt8.ofNat n)).all (fun v => hexDigit v == toUpper (UInt8.ofNat n)) = true := by
    decide
  have hch := hall ch.toNat ch.toNat_lt
  rw [UInt8.ofNat_toNat, h] at hch
  exact eq_of_beq hch

/-- Two half bytes are found again in the byte they make. -/
theorem halves_digits {high low : Byte} (hhigh : high.toNat < 16) (hlow : low.toNat < 16) :
    (high <<< 4 ||| low) >>> 4 = high ∧ (high <<< 4 ||| low) &&& 0x0f = low := by
  have hall : ∀ h < 16, ∀ l < 16, (UInt8.ofNat h <<< 4 ||| UInt8.ofNat l) >>> 4 = UInt8.ofNat h ∧
      (UInt8.ofNat h <<< 4 ||| UInt8.ofNat l) &&& 0x0f = UInt8.ofNat l := by decide
  have hboth := hall high.toNat hhigh low.toNat hlow
  rwa [UInt8.ofNat_toNat, UInt8.ofNat_toNat] at hboth

theorem convertHexToBin_eq_true_iff {hex : List Byte} (heven : hex.length % 2 = 0) :
    (convertHexToBin hex).1 = true ↔ ∀ ch ∈ hex, ch ∈ hexChars := by
  induction hex using convertHexToBin.induct with
  | case1 => simp [convertHexToBin]
  | case2 ch hnone => simp at heven
  | case3 ch high hsome => simp at heven
  | case4 ch ch' hex hnone => simp [convertHexToBin, hnone, mem_hexChars]
  | case5 ch ch' hex high hsome hnone => simp [convertHexToBin, hsome, hnone, mem_hexChars]
  | case6 ch ch' hex high low hlow hhigh ih =>
    have hrest := ih (by rw [List.length_cons, List.length_cons] at heven; omega)
    have hch : ch ∈ hexChars := mem_hexChars.2 ⟨high, hhigh⟩
    have hch' : ch' ∈ hexChars := mem_hexChars.2 ⟨low, hlow⟩
    simp only [convertHexToBin, hlow, hhigh, List.forall_mem_cons, hch, hch', true_and]
    exact hrest

theorem convertBinToHex_convertHexToBin {hex : List Byte} (h : (convertHexToBin hex).1 = true) :
    convertBinToHex (convertHexToBin hex).2 = hex.map toUpper := by
  induction hex using convertHexToBin.induct with
  | case1 => rfl
  | case2 ch hnone => simp [convertHexToBin, hnone] at h
  | case3 ch high hsome => simp [convertHexToBin, hsome] at h
  | case4 ch ch' hex hnone => simp [convertHexToBin, hnone] at h
  | case5 ch ch' hex high hsome hnone => simp [convertHexToBin, hsome, hnone] at h
  | case6 ch ch' hex high low hlow hhigh ih =>
    simp only [convertHexToBin, hlow, hhigh] at h ⊢
    obtain ⟨hup, hlo⟩ := halves_digits (toNat_hexValue_lt hhigh) (toNat_hexValue_lt hlow)
    have hcons : ∀ (b : Byte) (bin : List Byte),
        convertBinToHex (b :: bin) = hexDigit (b >>> 4) :: hexDigit (b &&& 0x0f) :: convertBinToHex bin :=
      fun _ _ => rfl
    rw [hcons, hup, hlo, hexDigit_hexValue hhigh, hexDigit_hexValue hlow, ih h]
    rfl

/-- **The conversions are inverse to each other**, up to the case of the digits, and only a text of
digits is accepted. -/
theorem hex_inverse :
    (∀ bin : List Byte, convertHexToBin (convertBinToHex bin) = (true, bin)) ∧
      (∀ hex : List Byte, hex.length % 2 = 0 → (∀ ch ∈ hex, ch ∈ hexChars) →
        convertBinToHex (convertHexToBin hex).2 = hex.map toUpper) ∧
      ∀ hex : List Byte, hex.length % 2 = 0 → ((convertHexToBin hex).1 = true ↔ ∀ ch ∈ hex, ch ∈ hexChars) := by
  refine ⟨convertHexToBin_convertBinToHex, ?_, fun hex => convertHexToBin_eq_true_iff⟩
  intro hex heven hdigits
  exact convertBinToHex_convertHexToBin ((convertHexToBin_eq_true_iff heven).2 hdigits)

theorem hex_inverse_0aFf : convertBinToHex (convertHexToBin (ascii "0aFf")).2 = ascii "0AFF" :=
  hex_inverse.2.1 (ascii "0aFf") rfl (by simp [ascii, hexChars])

end UniRil
