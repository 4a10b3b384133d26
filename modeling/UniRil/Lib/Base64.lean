import Mathlib.Algebra.Order.Ring.Nat
import Mathlib.Data.List.Basic

/-!
# Base64

Three bytes are a number of 24 bits, and each six of these are a character. Of a last group only the
characters that hold bits are written, and the group is filled up.
-/

namespace Base64

def alphabet : List UInt8 :=
  "ABCDEFGHIJKLMNOPQRSTUVWXYZabcdefghijklmnopqrstuvwxyz0123456789+/".toList.map fun c => UInt8.ofNat c.toNat

/-- The character `=`. -/
def filler : UInt8 := 61

def character (sextet : Nat) : UInt8 := alphabet.getD sextet 0

/-- The number of a group. -/
def number (a b c : UInt8) : Nat := a.toNat * 65536 + b.toNat * 256 + c.toNat

/-- The six bits at `place`, the last ones being at 0. -/
def sextet (n place : Nat) : Nat := n / 64 ^ place % 64

def encode : List UInt8 → List UInt8
  | [] => []
  | [a] => [character (sextet (number a 0 0) 3), character (sextet (number a 0 0) 2), filler, filler]
  | [a, b] =>
    [character (sextet (number a b 0) 3), character (sextet (number a b 0) 2), character (sextet (number a b 0) 1),
      filler]
  | a :: b :: c :: rest =>
    [character (sextet (number a b c) 3), character (sextet (number a b c) 2), character (sextet (number a b c) 1),
      character (sextet (number a b c) 0)] ++ encode rest

theorem sextet_lt (n place : Nat) : sextet n place < 64 := Nat.mod_lt _ (by decide)

section

variable (a b c : UInt8)

theorem sextet_three : sextet (number a b c) 3 = a.toNat / 4 := by
  have ha := a.toNat_lt
  have hb := b.toNat_lt
  have hc := c.toNat_lt
  simp only [sextet, number, Nat.reducePow] at *
  omega

theorem sextet_two : sextet (number a b c) 2 = a.toNat % 4 * 16 + b.toNat / 16 := by
  have hb := b.toNat_lt
  have hc := c.toNat_lt
  simp only [sextet, number, Nat.reducePow] at *
  omega

theorem sextet_one : sextet (number a b c) 1 = b.toNat % 16 * 4 + c.toNat / 64 := by
  have hc := c.toNat_lt
  simp only [sextet, number, Nat.reducePow] at *
  omega

theorem sextet_zero : sextet (number a b c) 0 = c.toNat % 64 := by
  simp only [sextet, number, Nat.reducePow]
  omega

end

theorem length_encode (l : List UInt8) : (encode l).length = 4 * ((l.length + 2) / 3) := by
  induction l using encode.induct with
  | case1 => rfl
  | case2 a => simp [encode]
  | case3 a b => simp [encode]
  | case4 a b c rest ih =>
    rw [encode, List.length_append, ih]
    simp only [List.length_cons, List.length_nil]
    omega

theorem character_ne_filler : ∀ s < 64, character s ≠ filler := by decide

end Base64
