import UniRil.Data.Context
import UniRil.Decimal
import UniRil.Hex

/-!
# The address in front of its mask (ril_data.c)

`readIPAddr` counts the dots in one pass and remembers where the fourth and the sixteenth stand. A
decimal address ends at one of the two, a colon address at the first blank.
-/

namespace UniRil.Data

open AtTok

/-! ## Dotted texts -/

/-- Octets in decimal, joined by dots. -/
def dotted (octets : List Byte) : Line := (ascii ".").intercalate (octets.map fun o => decimal o.toNat)

theorem dotted_cons (o : Byte) (octets : List Byte) :
    dotted (o :: octets) = decimal o.toNat ++ octets.flatMap fun o => 46 :: decimal o.toNat := by
  induction octets generalizing o with
  | nil => simp [dotted]
  | cons o' octets ih =>
    have hcons : dotted (o :: o' :: octets) = decimal o.toNat ++ 46 :: dotted (o' :: octets) := by
      rw [dotted, List.map_cons, List.map_cons, List.intercalate_cons_cons, dotted, List.map_cons,
        List.append_assoc]
      rfl
    rw [hcons, ih, List.flatMap_cons, List.cons_append]

theorem dotted_append {addr mask : List Byte} (ha : addr ≠ []) (hm : mask ≠ []) :
    dotted (addr ++ mask) = dotted addr ++ 46 :: dotted mask := by
  obtain ⟨a, addr, rfl⟩ := List.exists_cons_of_ne_nil ha
  obtain ⟨m, mask, rfl⟩ := List.exists_cons_of_ne_nil hm
  rw [List.cons_append, dotted_cons, dotted_cons, dotted_cons, List.flatMap_append, List.flatMap_cons]
  simp

/-- An octet and the dot or the NUL behind it take four bytes at most. -/
theorem length_dotted_lt {octets : List Byte} (h : octets ≠ []) : (dotted octets).length < 4 * octets.length := by
  have hoctet (o : Byte) : (decimal o.toNat).length ≤ 3 := by
    rw [decimal_natCast, List.length_map]
    exact (Nat.length_toDigits_le_iff (by decide) (by decide)).2 (by have := o.toNat_lt; omega)
  obtain ⟨o, octets, rfl⟩ := List.exists_cons_of_ne_nil h
  have hrest : (octets.flatMap fun o => 46 :: decimal o.toNat).length ≤ 4 * octets.length := by
    induction octets with
    | nil => simp
    | cons o' octets ih =>
      have hle := hoctet o'
      have hih := ih (List.cons_ne_nil o octets)
      rw [List.flatMap_cons, List.length_append, List.length_cons, List.length_cons]
      omega
  have hle := hoctet o
  rw [dotted_cons, List.length_append, List.length_cons]
  omega

/-! ## One pass -/

/-- Neither mark is set again, whatever comes before the next dot. -/
def AddrScan.Settled (k : AddrScan) : Prop := (k.comma_count = 4 → k.comma4_num ≠ 0) ∧ k.comma_count ≠ 16

/-- What is neither a dot nor a blank is skipped. -/
theorem scanIPAddr_skip {t : Line} (ht : ∀ c ∈ t, c ≠ 46 ∧ c ≠ 32) {k : AddrScan} (hk : k.Settled) (num : Nat)
    (rest : Line) : scanIPAddr num k (t ++ rest) = scanIPAddr (num + t.length) k rest := by
  induction t generalizing num with
  | nil => rfl
  | cons c t ih =>
    obtain ⟨hdot, hblank⟩ := ht c List.mem_cons_self
    have hmark : ¬(k.comma_count = 4 ∧ k.comma4_num = 0) := fun hboth => hk.1 hboth.1 hboth.2
    rw [List.cons_append, scanIPAddr, if_neg hdot]
    simp only [if_neg hblank, if_neg hmark, if_neg hk.2]
    rw [ih (fun d hd => ht d (List.mem_cons_of_mem c hd)), List.length_cons]
    congr 1
    omega

/-- A dot that is neither the fourth nor the sixteenth. -/
theorem scanIPAddr_dot {k : AddrScan} (h4 : k.comma_count + 1 ≠ 4) (h16 : k.comma_count + 1 ≠ 16) (num : Nat)
    (rest : Line) :
    scanIPAddr num k (46 :: rest) = scanIPAddr (num + 1) { k with comma_count := k.comma_count + 1 } rest := by
  rw [scanIPAddr]
  simp [h4, h16]

theorem scanIPAddr_fourth {k : AddrScan} (h4 : k.comma_count + 1 = 4) (hunset : k.comma4_num = 0) (num : Nat)
    (rest : Line) :
    scanIPAddr num k (46 :: rest) =
      scanIPAddr (num + 1) { k with comma_count := k.comma_count + 1, comma4_num := num } rest := by
  rw [scanIPAddr]
  simp [h4, hunset]

theorem scanIPAddr_space (k : AddrScan) (num : Nat) (rest : Line) :
    scanIPAddr num k (32 :: rest) = { k with space_num := num } := by
  rw [scanIPAddr]
  simp

theorem decimal_skipped (o : Byte) : ∀ c ∈ decimal o.toNat, c ≠ 46 ∧ c ≠ 32 := by
  intro c hc
  have hdigit := isdigit_decimal o.toNat c hc
  constructor
  · rintro rfl
    exact absurd hdigit (by decide)
  · rintro rfl
    exact absurd hdigit (by decide)

/-- Some octets whose dots are neither the fourth nor the sixteenth. -/
theorem scanIPAddr_octets {octets : List Byte} {k : AddrScan} (hk : k.Settled)
    (hmarks : k.comma_count + octets.length < 4 ∨ 4 ≤ k.comma_count ∧ k.comma_count + octets.length < 16)
    (num : Nat) (rest : Line) :
    scanIPAddr num k ((octets.flatMap fun o => 46 :: decimal o.toNat) ++ rest) =
      scanIPAddr (num + (octets.flatMap fun o => 46 :: decimal o.toNat).length)
        { k with comma_count := k.comma_count + octets.length } rest := by
  induction octets generalizing num k with
  | nil => rfl
  | cons o octets ih =>
    rw [List.length_cons] at hmarks
    have hnext : ({ k with comma_count := k.comma_count + 1 } : AddrScan).Settled := by
      constructor
      · intro h4
        simp only at h4
        omega
      · simp only
        omega
    have hmarks' : k.comma_count + 1 + octets.length < 4 ∨
        4 ≤ k.comma_count + 1 ∧ k.comma_count + 1 + octets.length < 16 := by omega
    rw [List.flatMap_cons, List.cons_append, List.cons_append, scanIPAddr_dot (by omega) (by omega), List.append_assoc,
      scanIPAddr_skip (decimal_skipped o) hnext, ih hnext hmarks']
    congr 1
    · rw [List.length_cons, List.length_append]
      omega
    · rw [List.length_cons]
      simp only [AddrScan.mk.injEq, and_self, and_true]
      omega

/-- A dotted text up to its third dot. -/
theorem scanIPAddr_dotted {o : Byte} {octets : List Byte} (h : octets.length < 4) (rest : Line) :
    scanIPAddr 0 { comma_count := 0, comma4_num := 0, comma16_num := 0, space_num := 0 }
        (dotted (o :: octets) ++ rest) =
      scanIPAddr (dotted (o :: octets)).length
        { comma_count := octets.length, comma4_num := 0, comma16_num := 0, space_num := 0 } rest := by
  have hk : AddrScan.Settled { comma_count := 0, comma4_num := 0, comma16_num := 0, space_num := 0 } := by
    simp [AddrScan.Settled]
  rw [dotted_cons, List.append_assoc, scanIPAddr_skip (decimal_skipped o) hk,
    scanIPAddr_octets hk (.inl (by simpa using h)), List.length_append]
  simp only [Nat.zero_add]

/-- The fourth dot is marked, and eleven more octets leave the mark alone. -/
theorem scanIPAddr_behind {num : Nat} (hnum : num ≠ 0) (o : Byte) {octets : List Byte} (h : octets.length < 12)
    (rest : Line) :
    scanIPAddr num { comma_count := 3, comma4_num := 0, comma16_num := 0, space_num := 0 }
        (46 :: (dotted (o :: octets) ++ rest)) =
      scanIPAddr (num + 1 + (dotted (o :: octets)).length)
        { comma_count := 4 + octets.length, comma4_num := num, comma16_num := 0, space_num := 0 } rest := by
  have hk : AddrScan.Settled { comma_count := 4, comma4_num := num, comma16_num := 0, space_num := 0 } := by
    simpa [AddrScan.Settled] using hnum
  rw [scanIPAddr_fourth rfl rfl, dotted_cons, List.append_assoc, scanIPAddr_skip (decimal_skipped o) hk,
    scanIPAddr_octets hk (.inr ⟨le_refl 4, by simp only; omega⟩), List.length_append, Nat.add_assoc (num + 1)]

theorem dotted_ne_nil {octets : List Byte} (h : octets ≠ []) : dotted octets ≠ [] := by
  obtain ⟨o, octets, rfl⟩ := List.exists_cons_of_ne_nil h
  rw [dotted_cons]
  exact List.append_ne_nil_of_left_ne_nil (decimal_ne_nil o.toNat) _

/-- The pass over four octets, a dot and at most twelve more. -/
theorem scanIPAddr_marked {addr more : List Byte} (haddr : addr.length = 4) (hmore : more ≠ [])
    (hlen : more.length ≤ 12) (rest : Line) :
    scanIPAddr 0 { comma_count := 0, comma4_num := 0, comma16_num := 0, space_num := 0 }
        (dotted (addr ++ more) ++ rest) =
      scanIPAddr (dotted (addr ++ more)).length
        { comma_count := 3 + more.length, comma4_num := (dotted addr).length, comma16_num := 0, space_num := 0 }
        rest := by
  have hne : addr ≠ [] := by
    rintro rfl
    cases haddr
  have hpos : (dotted addr).length ≠ 0 := fun h => dotted_ne_nil hne (List.length_eq_zero_iff.1 h)
  rw [dotted_append hne hmore, List.append_assoc, List.cons_append]
  obtain ⟨a, addr, rfl⟩ := List.exists_cons_of_ne_nil hne
  obtain ⟨o, more, rfl⟩ := List.exists_cons_of_ne_nil hmore
  rw [List.length_cons] at haddr hlen
  have hthree : addr.length = 3 := by omega
  rw [scanIPAddr_dotted (by omega), hthree, scanIPAddr_behind hpos o (by omega), List.length_append, List.length_cons,
    List.length_cons]
  congr 1
  · omega
  · simp only [AddrScan.mk.injEq, and_self, and_true]
    omega

/-! ## What is read -/

/-- Four octets and a mask of four. -/
theorem readIPAddr_v4 {addr mask : List Byte} (haddr : addr.length = 4) (hmask : mask.length = 4) (rsp : Line) :
    readIPAddr (some (dotted (addr ++ mask))) rsp = (.IPV4, some (dotted addr), dotted addr) := by
  have hne : addr ≠ [] := List.ne_nil_of_length_pos (by omega)
  have hne' : mask ≠ [] := List.ne_nil_of_length_pos (by omega)
  have hscan := scanIPAddr_marked haddr hne' (by omega) []
  rw [List.append_nil, hmask] at hscan
  have hcut : (dotted (addr ++ mask)).take (dotted addr).length = dotted addr := by
    rw [dotted_append hne hne', List.take_left]
  simp [readIPAddr, hscan, scanIPAddr, hcut]

/-- Sixteen octets and a mask of sixteen. -/
theorem readIPAddr_v6 {addr mask : List Byte} (haddr : addr.length = 16) (hmask : mask.length = 16) (rsp : Line) :
    readIPAddr (some (dotted (addr ++ mask))) rsp = (.IPV6, some (dotted addr), dotted addr) := by
  have hne : addr ≠ [] := List.ne_nil_of_length_pos (by omega)
  have hne' : mask ≠ [] := List.ne_nil_of_length_pos (by omega)
  have hfour : (addr.take 4).length = 4 := by
    rw [List.length_take]
    omega
  have htwelve : (addr.drop 4).length = 12 := by
    rw [List.length_drop]
    omega
  have hmore : addr.drop 4 ≠ [] := List.ne_nil_of_length_pos (by omega)
  have hscan := scanIPAddr_marked hfour hmore (by omega) (46 :: dotted mask)
  rw [List.take_append_drop, htwelve, ← dotted_append hne hne'] at hscan
  -- The sixteenth dot ends the pass.
  have hcut : (dotted (addr ++ mask)).take (dotted addr).length = dotted addr := by
    rw [dotted_append hne hne', List.take_left]
  simp [readIPAddr, hscan, scanIPAddr, hcut]

/-- Whatever has no dot is an address up to its first blank. -/
theorem readIPAddr_blank {addr : Line} (hne : addr ≠ []) (haddr : ∀ c ∈ addr, c ≠ 46 ∧ c ≠ 32) (mask rsp : Line) :
    readIPAddr (some (addr ++ 32 :: mask)) rsp = (.IPV6, some addr, addr) := by
  have hk : AddrScan.Settled { comma_count := 0, comma4_num := 0, comma16_num := 0, space_num := 0 } := by
    simp [AddrScan.Settled]
  have hscan := scanIPAddr_skip haddr hk 0 (32 :: mask)
  have hpos : 0 < addr.length := List.length_pos_iff.2 hne
  rw [scanIPAddr_space, Nat.zero_add] at hscan
  simp [readIPAddr, hscan, hpos]

/-- The characters of an address that is not written in decimal. -/
def colonHex (c : Byte) : Prop := c ∈ hexChars ∨ c = 58

theorem colonHex_skipped {c : Byte} (h : colonHex c) : c ≠ 46 ∧ c ≠ 32 := by
  rcases h with hdigit | rfl
  · constructor
    · rintro rfl
      simp [hexChars, ascii] at hdigit
    · rintro rfl
      simp [hexChars, ascii] at hdigit
  · decide

/-- The size of the `ip` of `cgcontrdp_set_cmd_rsp`. -/
def ipSize : Nat := 64

/-- **The address is cut from its mask**, and a decimal one fits the buffer of the caller with its NUL. -/
theorem readIPAddr_exact (rsp : Line) :
    (∀ addr mask : List Byte, addr.length = 4 → mask.length = 4 →
        readIPAddr (some (dotted (addr ++ mask))) rsp = (.IPV4, some (dotted addr), dotted addr) ∧
          (dotted addr).length < ipSize) ∧
      (∀ addr mask : List Byte, addr.length = 16 → mask.length = 16 →
        readIPAddr (some (dotted (addr ++ mask))) rsp = (.IPV6, some (dotted addr), dotted addr) ∧
          (dotted addr).length < ipSize) ∧
      ∀ addr mask : Line, addr ≠ [] → (∀ c ∈ addr, colonHex c) →
        readIPAddr (some (addr ++ 32 :: mask)) rsp = (.IPV6, some addr, addr) := by
  refine ⟨?_, ?_, ?_⟩
  · intro addr mask haddr hmask
    have hne : addr ≠ [] := List.ne_nil_of_length_pos (by omega)
    have hlt := length_dotted_lt hne
    exact ⟨readIPAddr_v4 haddr hmask rsp, by unfold ipSize; omega⟩
  · intro addr mask haddr hmask
    have hne : addr ≠ [] := List.ne_nil_of_length_pos (by omega)
    have hlt := length_dotted_lt hne
    exact ⟨readIPAddr_v6 haddr hmask rsp, by unfold ipSize; omega⟩
  · intro addr mask hne haddr
    exact readIPAddr_blank hne (fun c hc => colonHex_skipped (haddr c hc)) mask rsp

theorem readIPAddr_exact_ten :
    (readIPAddr (some (dotted ([10, 0, 200, 1] ++ [255, 255, 255, 0]))) []).2.2 = dotted [10, 0, 200, 1] := by
  rw [((readIPAddr_exact []).1 [10, 0, 200, 1] [255, 255, 255, 0] rfl rfl).1]

end UniRil.Data
