import UniRil.Sim.Slot

/-!
# The cached PIN

The PIN is saved as its length and eight places, each with its own row of the table. A character that
is no digit takes a place from outside the table.
-/

namespace UniRil.Sim

open AtTok (Line isdigit)

/-! ## The tables -/

theorem idxOf_row : ∀ i < 10, randEncryptArray.idxOf? (randEncryptArray.getD i NUL) = some i := by decide

theorem idxOf_code : ∀ r < 10, ∀ d < 10,
    (encryptArray.getD r []).idxOf? ((encryptArray.getD r []).getD d NUL) = some d := by decide

theorem row_ne_nul : ∀ i < 10, randEncryptArray.getD i NUL ≠ NUL := by decide

theorem code_ne_nul : ∀ r < 10, ∀ d < 10, (encryptArray.getD r []).getD d NUL ≠ NUL := by decide

/-! ## One place -/

theorem digit_range {c : Byte} (h : isdigit c = true) : 48 ≤ c.toNat ∧ c.toNat ≤ 57 := by
  simpa [isdigit, UInt8.le_iff_toNat_le] using h

/-- The digit of the PIN that stands at a place, or the random one behind the PIN. -/
theorem encryptPlace_eq (rand : Nat → Nat) (outside : Int → Byte) {pin : Line} (hdigits : ∀ c ∈ pin, isdigit c = true)
    (i : Nat) :
    ∃ r < 10, ∃ d < 10,
      encryptPlace rand outside pin i = [randEncryptArray.getD r NUL, (encryptArray.getD r []).getD d NUL] ∧
        (i < pin.length → UInt8.ofNat (48 + d) = pin.getD i NUL) := by
  refine ⟨rand (2 * i) % 10, Nat.mod_lt _ (by omega), ?_⟩
  by_cases hi : i < pin.length
  · have hmem : pin.getD i NUL ∈ pin := by
      rw [List.getD_eq_getElem?_getD, List.getElem?_eq_getElem hi, Option.getD_some]
      exact List.getElem_mem hi
    have hrange := digit_range (hdigits _ hmem)
    refine ⟨(pin.getD i NUL).toNat - 48, by omega, ?_, ?_⟩
    · have hcode : encryptCode outside (rand (2 * i) % 10) ((pin.getD i NUL).toNat - 48) =
          (encryptArray.getD (rand (2 * i) % 10) []).getD ((pin.getD i NUL).toNat - 48) NUL := by
        rw [encryptCode, if_pos (by omega)]
        congr 1
        omega
      rw [encryptPlace, if_pos hi, hcode]
    · intro _
      have hsum : 48 + ((pin.getD i NUL).toNat - 48) = (pin.getD i NUL).toNat := by omega
      rw [hsum, UInt8.ofNat_toNat]
  · refine ⟨rand (2 * i + 1) % 10, Nat.mod_lt _ (by omega), ?_, fun h => absurd h hi⟩
    have hcode : encryptCode outside (rand (2 * i) % 10) ((rand (2 * i + 1) % 10 : Nat) : Int) =
        (encryptArray.getD (rand (2 * i) % 10) []).getD (rand (2 * i + 1) % 10) NUL := by
      rw [encryptCode, if_pos (by omega)]
      rfl
    rw [encryptPlace, if_neg hi, hcode]

/-! ## All places -/

theorem decryptPlaces_range (rand : Nat → Nat) (outside : Int → Byte) {pin : Line}
    (hdigits : ∀ c ∈ pin, isdigit c = true) (n m i : Nat) (hin : i + n ≤ pin.length) (hnm : n ≤ m) :
    decryptPlaces n ((List.range' i m).flatMap (encryptPlace rand outside pin)) = (pin.drop i).take n := by
  induction n generalizing m i with
  | zero => simp [decryptPlaces]
  | succ n ih =>
    obtain ⟨m, rfl⟩ : ∃ k, m = k + 1 := ⟨m - 1, by omega⟩
    obtain ⟨r, hr, d, hd, hplace, hdigit⟩ := encryptPlace_eq rand outside hdigits i
    have hi : i < pin.length := by omega
    have hrest := ih m (i + 1) (by omega) (by omega)
    rw [List.range'_succ, List.flatMap_cons, hplace]
    simp only [List.cons_append, List.nil_append, decryptPlaces, idxOf_row r hr, idxOf_code r hr d hd]
    rw [hrest, hdigit hi, List.drop_eq_getElem_cons hi, List.take_succ_cons,
      List.getD_eq_getElem?_getD, List.getElem?_eq_getElem hi, Option.getD_some]

theorem nul_notMem_encryptPin (rand : Nat → Nat) (outside : Int → Byte) {pin : Line}
    (hdigits : ∀ c ∈ pin, isdigit c = true) (hlen : pin.length < 10) : NUL ∉ encryptPin rand outside pin := by
  rw [encryptPin, if_pos hlen, List.mem_cons, List.mem_flatMap, not_or]
  refine ⟨(row_ne_nul _ hlen).symm, ?_⟩
  rintro ⟨i, _, hi⟩
  obtain ⟨r, hr, d, hd, hplace, -⟩ := encryptPlace_eq rand outside hdigits i
  rw [hplace, List.mem_cons, List.mem_singleton] at hi
  rcases hi with h | h
  · exact row_ne_nul r hr h.symm
  · exact code_ne_nul r hr d hd h.symm

/-- **The cached PIN reads back as it was saved**, if it consists of eight digits at most. -/
theorem decryptPin_encryptPin (rand : Nat → Nat) (outside : Int → Byte) {pin : Line}
    (hdigits : ∀ c ∈ pin, isdigit c = true) (hlen : pin.length ≤ 8) :
    decryptPin (getProperty (cstr (encryptPin rand outside pin)) []) = pin := by
  rw [cstr_of_notMem (nul_notMem_encryptPin rand outside hdigits (by omega)), getProperty, if_neg]
  · have hplaces := decryptPlaces_range rand outside hdigits pin.length 8 0 (by omega) hlen
    rw [encryptPin, if_pos (by omega)]
    simp only [decryptPin, idxOf_row pin.length (by omega), List.range_eq_range']
    rw [hplaces, List.drop_zero, List.take_length]
  · simp [encryptPin]

/-! ## What is read back -/

theorem isdigit_ofNat {j : Nat} (h : j < 10) : isdigit (UInt8.ofNat (48 + j)) = true := by
  have hdigits : ∀ j < 10, isdigit (UInt8.ofNat (48 + j)) = true := by decide
  exact hdigits j h

theorem idxOf_lt {l : Line} {c : Byte} {i : Nat} (h : l.idxOf? c = some i) : i < l.length := by
  obtain ⟨hi, -⟩ := List.idxOf?_eq_some_iff.1 h
  exact hi

theorem row_length {r : Nat} : (encryptArray.getD r []).length ≤ 10 := by
  have hrows : ∀ row ∈ encryptArray, row.length ≤ 10 := by decide
  rw [List.getD_eq_getElem?_getD]
  cases hrow : encryptArray[r]? with
  | none => simp
  | some row => exact hrows row (List.mem_of_getElem? hrow)

/-- What is read back consists of digits. -/
theorem isdigit_decryptPlaces (n : Nat) (places : Line) : ∀ c ∈ decryptPlaces n places, isdigit c = true := by
  induction n, places using decryptPlaces.induct with
  | case1 places => simp [decryptPlaces]
  | case2 n row c rest h => simp [decryptPlaces, h]
  | case3 n row c rest r hr h =>
    simp only [decryptPlaces, hr, h]
    simp
  | case4 n row c rest r hr j hj ih =>
    simp only [decryptPlaces, hr, hj, List.mem_cons, forall_eq_or_imp]
    exact ⟨isdigit_ofNat (lt_of_lt_of_le (idxOf_lt hj) row_length), ih⟩
  | case5 n places h =>
    unfold decryptPlaces
    split <;> simp_all

theorem isdigit_decryptPin (text : Line) : ∀ c ∈ decryptPin text, isdigit c = true := by
  cases text with
  | nil => simp [decryptPin]
  | cons len places =>
    cases hlen : randEncryptArray.idxOf? len with
    | none =>
      simp only [decryptPin, hlen]
      simp
    | some pinLen =>
      simp only [decryptPin, hlen]
      exact isdigit_decryptPlaces pinLen places

end UniRil.Sim
