import UniRil.Lib.Base64
import UniRil.Sim.Authentication

/-!
# The base64 of ril_sim.c is base64

Each byte that is shifted and masked is a part of a number; parts that are joined do not overlap.
-/

namespace UniRil.Sim

open AtTok (Line)
open Base64 (character sextet number filler)

/-! ## Facts about all bytes -/

theorem byte_all {P : Byte → Prop} (h : ∀ n < 256, P (UInt8.ofNat n)) (b : Byte) : P b := by
  have hb := h b.toNat b.toNat_lt
  rwa [UInt8.ofNat_toNat] at hb

theorem base64char_eq : base64char = Base64.alphabet := rfl

theorem base64Value_character : ∀ s < 64, base64Value (character s) = UInt8.ofNat s := by decide

theorem or_four : ∀ x < 64, ∀ y < 4, UInt8.ofNat (x * 4) ||| UInt8.ofNat y = UInt8.ofNat (x * 4 + y) := by
  decide

theorem or_sixteen : ∀ x < 16, ∀ y < 16, UInt8.ofNat (x * 16) ||| UInt8.ofNat y = UInt8.ofNat (x * 16 + y) := by
  decide

theorem or_sixtyFour : ∀ x < 4, ∀ y < 64, UInt8.ofNat (x * 64) ||| UInt8.ofNat y = UInt8.ofNat (x * 64 + y) := by
  decide

/-! ## Encoding -/

section

variable (a b c : Byte)

set_option maxRecDepth 10000 in
theorem masked_first : masked (a >>> 2) 0x3F = UInt8.ofNat (a.toNat / 4) := by
  refine byte_all (P := fun a => masked (a >>> 2) 0x3F = UInt8.ofNat (a.toNat / 4)) ?_ a
  decide

set_option maxRecDepth 10000 in
theorem masked_second : masked (a <<< 4) 0x30 = UInt8.ofNat (a.toNat % 4 * 16) := by
  refine byte_all (P := fun a => masked (a <<< 4) 0x30 = UInt8.ofNat (a.toNat % 4 * 16)) ?_ a
  decide

set_option maxRecDepth 10000 in
theorem masked_second' : masked (b >>> 4) 0x0F = UInt8.ofNat (b.toNat / 16) := by
  refine byte_all (P := fun b => masked (b >>> 4) 0x0F = UInt8.ofNat (b.toNat / 16)) ?_ b
  decide

set_option maxRecDepth 10000 in
theorem masked_third : masked (b <<< 2) 0x3C = UInt8.ofNat (b.toNat % 16 * 4) := by
  refine byte_all (P := fun b => masked (b <<< 2) 0x3C = UInt8.ofNat (b.toNat % 16 * 4)) ?_ b
  decide

set_option maxRecDepth 10000 in
theorem masked_third' : masked (c >>> 6) 0x03 = UInt8.ofNat (c.toNat / 64) := by
  refine byte_all (P := fun c => masked (c >>> 6) 0x03 = UInt8.ofNat (c.toNat / 64)) ?_ c
  decide

set_option maxRecDepth 10000 in
theorem masked_fourth : masked c 0x3F = UInt8.ofNat (c.toNat % 64) := by
  refine byte_all (P := fun c => masked c 0x3F = UInt8.ofNat (c.toNat % 64)) ?_ c
  decide

end

theorem base64Of_ofNat {s : Nat} (h : s < 64) : base64Of (UInt8.ofNat s) = character s := by
  rw [base64Of, base64char_eq, UInt8.toNat_ofNat', Nat.mod_eq_of_lt (by omega), character]
  rfl

theorem base64Of_first (a b c : Byte) :
    base64Of (masked (a >>> 2) 0x3F) = character (sextet (number a b c) 3) := by
  have ha := a.toNat_lt
  rw [masked_first, Base64.sextet_three, base64Of_ofNat (by omega)]

theorem base64Of_second (a b c : Byte) :
    base64Of (masked (a <<< 4) 0x30 ||| masked (b >>> 4) 0x0F) = character (sextet (number a b c) 2) := by
  have hb := b.toNat_lt
  rw [masked_second, masked_second', or_sixteen _ (by omega) _ (by omega), Base64.sextet_two,
    base64Of_ofNat (by omega)]

theorem base64Of_third (a b c : Byte) :
    base64Of (masked (b <<< 2) 0x3C ||| masked (c >>> 6) 0x03) = character (sextet (number a b c) 1) := by
  have hc := c.toNat_lt
  rw [masked_third, masked_third', or_four _ (by omega) _ (by omega), Base64.sextet_one, base64Of_ofNat (by omega)]

theorem base64Of_fourth (a b c : Byte) : base64Of (masked c 0x3F) = character (sextet (number a b c) 0) := by
  rw [masked_fourth, Base64.sextet_zero, base64Of_ofNat (by omega)]

/-- **What is encoded is the base64 of the bytes.** -/
theorem base64_encode_eq (bytes : List Byte) : base64_encode bytes = Base64.encode bytes := by
  induction bytes using base64_encode.induct with
  | case1 => rfl
  | case2 a =>
    have hsecond := base64Of_second a 0 0
    have hzero : masked ((0 : Byte) >>> 4) 0x0F = 0 := by decide
    rw [hzero, UInt8.or_zero] at hsecond
    rw [base64_encode, Base64.encode, base64Of_first a 0 0, hsecond]
    rfl
  | case3 a b =>
    have hthird := base64Of_third a b 0
    have hzero : masked ((0 : Byte) >>> 6) 0x03 = 0 := by decide
    rw [hzero, UInt8.or_zero] at hthird
    rw [base64_encode, Base64.encode, base64Of_first a b 0, base64Of_second a b 0, hthird]
    rfl
  | case4 a b c rest ih =>
    rw [base64_encode, Base64.encode, base64Of_first a b c, base64Of_second a b c, base64Of_third a b c,
      base64Of_fourth a b c, ih]

/-! ## Decoding -/

section

variable {s s' : Nat}

theorem decoded_first (h : s < 64) (h' : s' < 64) :
    masked (base64Value (character s) <<< 2) 0xFC ||| masked (base64Value (character s') >>> 4) 0x03 =
      UInt8.ofNat (s * 4 + s' / 16) := by
  have hhigh : ∀ s < 64, masked (UInt8.ofNat s <<< 2) 0xFC = UInt8.ofNat (s * 4) := by decide
  have hlow : ∀ s < 64, masked (UInt8.ofNat s >>> 4) 0x03 = UInt8.ofNat (s / 16) := by decide
  rw [base64Value_character s h, base64Value_character s' h', hhigh s h, hlow s' h', or_four s h _ (by omega)]

theorem decoded_second (h : s < 64) (h' : s' < 64) :
    masked (base64Value (character s) <<< 4) 0xF0 ||| masked (base64Value (character s') >>> 2) 0x0F =
      UInt8.ofNat (s % 16 * 16 + s' / 4) := by
  have hhigh : ∀ s < 64, masked (UInt8.ofNat s <<< 4) 0xF0 = UInt8.ofNat (s % 16 * 16) := by decide
  have hlow : ∀ s < 64, masked (UInt8.ofNat s >>> 2) 0x0F = UInt8.ofNat (s / 4) := by decide
  rw [base64Value_character s h, base64Value_character s' h', hhigh s h, hlow s' h',
    or_sixteen _ (by omega) _ (by omega)]

theorem decoded_third (h : s < 64) (h' : s' < 64) :
    masked (base64Value (character s) <<< 6) 0xF0 ||| masked (base64Value (character s')) 0x3F =
      UInt8.ofNat (s % 4 * 64 + s') := by
  have hhigh : ∀ s < 64, masked (UInt8.ofNat s <<< 6) 0xF0 = UInt8.ofNat (s % 4 * 64) := by decide
  have hlow : ∀ s < 64, masked (UInt8.ofNat s) 0x3F = UInt8.ofNat s := by decide
  rw [base64Value_character s h, base64Value_character s' h', hhigh s h, hlow s' h',
    or_sixtyFour _ (by omega) _ h']

end

theorem ofNat_eq_of_toNat {b : Byte} {n : Nat} (h : n = b.toNat) : UInt8.ofNat n = b := by
  rw [h, UInt8.ofNat_toNat]

/-- The three bytes of a group come back from its characters. -/
theorem decoded_group (a b c : Byte) :
    masked (base64Value (character (sextet (number a b c) 3)) <<< 2) 0xFC |||
        masked (base64Value (character (sextet (number a b c) 2)) >>> 4) 0x03 = a ∧
      masked (base64Value (character (sextet (number a b c) 2)) <<< 4) 0xF0 |||
        masked (base64Value (character (sextet (number a b c) 1)) >>> 2) 0x0F = b ∧
      masked (base64Value (character (sextet (number a b c) 1)) <<< 6) 0xF0 |||
        masked (base64Value (character (sextet (number a b c) 0))) 0x3F = c := by
  have ha := a.toNat_lt
  have hb := b.toNat_lt
  have hc := c.toNat_lt
  have hlt := Base64.sextet_lt (number a b c)
  refine ⟨?_, ?_, ?_⟩
  · rw [decoded_first (hlt 3) (hlt 2), Base64.sextet_three, Base64.sextet_two]
    exact ofNat_eq_of_toNat (by omega)
  · rw [decoded_second (hlt 2) (hlt 1), Base64.sextet_two, Base64.sextet_one]
    exact ofNat_eq_of_toNat (by omega)
  · rw [decoded_third (hlt 1) (hlt 0), Base64.sextet_one, Base64.sextet_zero]
    exact ofNat_eq_of_toNat (by omega)

/-- **The base64 of bytes is decoded to them.** -/
theorem base64_decode_encode (bytes : List Byte) : base64_decode (Base64.encode bytes) = some bytes := by
  have hchar : ∀ n place, character (sextet n place) ≠ 61 := fun n place =>
    Base64.character_ne_filler _ (Base64.sextet_lt n place)
  induction bytes using Base64.encode.induct with
  | case1 => rfl
  | case2 a =>
    obtain ⟨hfirst, -, -⟩ := decoded_group a 0 0
    have hfiller : filler = 61 := rfl
    rw [Base64.encode, base64_decode, if_pos hfiller, hfirst]
  | case3 a b =>
    obtain ⟨hfirst, hsecond, -⟩ := decoded_group a b 0
    have hfiller : filler = 61 := rfl
    rw [Base64.encode, base64_decode, if_neg (hchar _ _), if_pos hfiller, hfirst, hsecond]
  | case4 a b c rest ih =>
    obtain ⟨hfirst, hsecond, hthird⟩ := decoded_group a b c
    rw [Base64.encode]
    simp only [List.cons_append, List.nil_append]
    rw [base64_decode, if_neg (hchar _ _), if_neg (hchar _ _), hfirst, hsecond, hthird, ih]
    rfl

end UniRil.Sim
