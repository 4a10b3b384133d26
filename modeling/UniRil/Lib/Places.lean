import Mathlib.Data.List.TakeWhile
import Mathlib.Data.List.TakeDrop

/-!
# Texts at fixed places of one buffer

A text ends with a terminator and is written at its place without a look at where the next place begins.
`Fits` says which texts can be read back, each from its own place.
-/

namespace Places

variable {α : Type} (z : α)

/-- The text and its terminator at an offset; `none` where the buffer ends before. -/
def store (buf : List α) (o : Nat) (s : List α) : Option (List α) :=
  if o + s.length < buf.length then some (buf.take o ++ s ++ z :: buf.drop (o + s.length + 1)) else none

def load [DecidableEq α] (buf : List α) (o : Nat) : List α := (buf.drop o).takeWhile (· ≠ z)

/-- The texts at the places from `k` on; a place without a text is left alone. -/
def storeAll (w : Nat) : Nat → List (Option (List α)) → List α → Option (List α)
  | _, [], buf => some buf
  | k, none :: xs, buf => storeAll w (k + 1) xs buf
  | k, some s :: xs, buf => (store z buf (w * k) s).bind fun buf => storeAll w (k + 1) xs buf

/-- How far away the next text or the end of the buffer is. -/
def gap (w : Nat) : List (Option (List α)) → Nat
  | [] => 0
  | none :: xs => w + gap w xs
  | some _ :: _ => 0

def next : List (Option (List α)) → Option (List α)
  | [] => none
  | none :: xs => next xs
  | some s :: _ => some s

/-- Each text ends before the next one begins, or the next one is its continuation. -/
def Fits (w : Nat) : List (Option (List α)) → Prop
  | [] => True
  | none :: xs => Fits w xs
  | some s :: xs => (s.length < w + gap w xs ∨ next xs = some (s.drop (w + gap w xs))) ∧ Fits w xs

/-- Each text is what is read at its place. -/
def ReadBack [DecidableEq α] (w : Nat) (buf : List α) : Nat → List (Option (List α)) → Prop
  | _, [] => True
  | k, none :: xs => ReadBack w buf (k + 1) xs
  | k, some s :: xs => load z buf (w * k) = s ∧ ReadBack w buf (k + 1) xs

variable {z} {w k o : Nat} {s : List α} {xs : List (Option (List α))} {buf buf' : List α}

/-! ## One text -/

theorem store_eq_some :
    store z buf o s = some buf' ↔
      o + s.length < buf.length ∧ buf' = buf.take o ++ s ++ z :: buf.drop (o + s.length + 1) := by
  unfold store
  split
  · next h => simp [h, eq_comm]
  · next h => simp [h]

theorem store_eq_none : store z buf o s = none ↔ buf.length ≤ o + s.length := by simp [store]

theorem length_store (h : store z buf o s = some buf') : buf'.length = buf.length := by
  obtain ⟨hlt, rfl⟩ := store_eq_some.1 h
  simp
  omega

theorem take_store (h : store z buf o s = some buf') : buf'.take o = buf.take o := by
  obtain ⟨hlt, rfl⟩ := store_eq_some.1 h
  rw [List.append_assoc, List.take_append_of_le_length (by simp; omega), List.take_take, min_self]

theorem drop_store (h : store z buf o s = some buf') : buf'.drop o = s ++ z :: buf.drop (o + s.length + 1) := by
  obtain ⟨hlt, rfl⟩ := store_eq_some.1 h
  have hlen : (buf.take o).length = o := by simp; omega
  rw [List.append_assoc, List.drop_append_of_le_length (by omega), List.drop_of_length_le (by omega), List.nil_append]

theorem takeWhile_of_notMem [DecidableEq α] (hs : z ∉ s) (rest : List α) :
    (s ++ rest).takeWhile (· ≠ z) = s ++ rest.takeWhile (· ≠ z) := by
  apply List.takeWhile_append_of_pos
  intro c hc
  simpa using ne_of_mem_of_not_mem hc hs

theorem load_store [DecidableEq α] (hs : z ∉ s) (h : store z buf o s = some buf') : load z buf' o = s := by
  rw [load, drop_store h, takeWhile_of_notMem hs]
  simp

/-- A text may hold the terminator. -/
theorem load_store_takeWhile [DecidableEq α] (h : store z buf o s = some buf') :
    load z buf' o = s.takeWhile (· ≠ z) := by
  rw [load, drop_store h, List.takeWhile_append]
  split
  · next hlen =>
    rw [(List.takeWhile_prefix fun c => decide (c ≠ z)).eq_of_length hlen, List.takeWhile_cons_of_neg (by simp),
      List.append_nil]
  · rfl

/-! ## The next text -/

theorem gap_le (w : Nat) (xs : List (Option (List α))) : gap w xs ≤ w * xs.length := by
  induction xs with
  | nil => simp [gap]
  | cons x xs ih =>
    rw [List.length_cons, Nat.mul_succ]
    cases x with
    | none =>
      rw [gap]
      omega
    | some s => simp [gap]

/-- A text that fits ends before the buffer does. -/
theorem length_next_lt (h : Fits w xs) {y : List α} (hnext : next xs = some y) :
    gap w xs + y.length < w * xs.length := by
  induction xs generalizing y with
  | nil => cases hnext
  | cons x xs ih =>
    rw [List.length_cons, Nat.mul_succ]
    cases x with
    | none =>
      have hrest := ih h hnext
      rw [gap]
      omega
    | some s =>
      cases hnext
      rw [gap]
      rcases h.1 with hlt | hcont
      · have hle := gap_le w xs
        omega
      · have hrest := ih h.2 hcont
        rw [List.length_drop] at hrest
        omega

theorem length_head_lt (h : Fits w (some s :: xs)) : s.length < w + w * xs.length := by
  have hle := gap_le w xs
  rcases h.1 with hlt | hcont
  · omega
  · have hnext := length_next_lt h.2 hcont
    rw [List.length_drop] at hnext
    omega

theorem length_lt_of_fits (h : Fits w xs) (hs : some s ∈ xs) : s.length < w * xs.length := by
  induction xs with
  | nil => cases hs
  | cons x xs ih =>
    rw [List.length_cons, Nat.mul_succ]
    rcases List.mem_cons.1 hs with rfl | hbehind
    · have hhead := length_head_lt h
      omega
    · cases x with
      | none =>
        have hrest := ih h hbehind
        omega
      | some y =>
        have hrest := ih h.2 hbehind
        omega

theorem gap_of_next_none (h : next xs = none) : gap w xs = w * xs.length := by
  induction xs with
  | nil => rfl
  | cons x xs ih =>
    cases x with
    | none =>
      rw [gap, ih h, List.length_cons, Nat.mul_succ]
      omega
    | some s => cases h

/-! ## All texts -/

theorem storeAll_cons (x : Option (List α)) :
    storeAll z w k (x :: xs) buf = (x.elim (some buf) (store z buf (w * k))).bind (storeAll z w (k + 1) xs) := by
  cases x with
  | none => rfl
  | some s => rfl

theorem length_storeAll (h : storeAll z w k xs buf = some buf') : buf'.length = buf.length := by
  induction xs generalizing k buf with
  | nil => rw [Option.some.inj h]
  | cons x xs ih =>
    cases x with
    | none => exact ih h
    | some s =>
      obtain ⟨mid, hstore, hrest⟩ := Option.bind_eq_some_iff.1 h
      exact (ih hrest).trans (length_store hstore)

/-- Up to the next text nothing is written. -/
theorem take_storeAll (h : storeAll z w k xs buf = some buf') {n : Nat} (hn : n ≤ w * k + gap w xs) :
    buf'.take n = buf.take n := by
  induction xs generalizing k buf n with
  | nil => rw [Option.some.inj h]
  | cons x xs ih =>
    cases x with
    | none =>
      apply ih h
      rw [gap] at hn
      rw [Nat.mul_succ]
      omega
    | some s =>
      obtain ⟨mid, hstore, hrest⟩ := Option.bind_eq_some_iff.1 h
      rw [gap] at hn
      have hmid : mid.take n = buf.take n := by
        have htake := congrArg (List.take n) (take_store hstore)
        rwa [List.take_take, List.take_take, min_eq_left (by omega)] at htake
      rw [← hmid]
      apply ih hrest
      rw [Nat.mul_succ]
      omega

theorem storeAll_of_noText (h : ∀ s, some s ∉ xs) : storeAll z w k xs buf = some buf := by
  induction xs generalizing k with
  | nil => rfl
  | cons x xs ih =>
    cases x with
    | none => exact ih fun s hs => h s (List.mem_cons_of_mem _ hs)
    | some s => exact absurd List.mem_cons_self (h s)

/-- The last text leaves its terminator. -/
theorem mem_drop_storeAll (h : storeAll z w k xs buf = some buf') (hs : some s ∈ xs) : z ∈ buf'.drop (w * k) := by
  induction xs generalizing k s buf with
  | nil => simp at hs
  | cons x xs ih =>
    have hbehind (h : z ∈ buf'.drop (w * (k + 1))) : z ∈ buf'.drop (w * k) := by
      rw [Nat.mul_succ, ← List.drop_drop] at h
      exact List.mem_of_mem_drop h
    cases x with
    | none => exact hbehind (ih h (by simpa using hs))
    | some s' =>
      obtain ⟨mid, hstore, hrest⟩ := Option.bind_eq_some_iff.1 h
      by_cases hmore : ∃ s, some s ∈ xs
      · obtain ⟨s, hs⟩ := hmore
        exact hbehind (ih hrest hs)
      · have hlast : ∀ s, some s ∉ xs := fun s hs => hmore ⟨s, hs⟩
        rw [storeAll_of_noText hlast] at hrest
        rw [← Option.some.inj hrest, drop_store hstore]
        simp

variable [DecidableEq α]

/-- What is read is shorter than the buffer, if a terminator is there. -/
theorem length_load_lt (h : z ∈ buf.drop o) : (load z buf o).length < buf.length := by
  have hle : (load z buf o).length ≤ (buf.drop o).length := (List.takeWhile_prefix _).length_le
  have hne : (load z buf o).length ≠ (buf.drop o).length := by
    intro heq
    have hall := (List.takeWhile_prefix fun c => decide (c ≠ z)).eq_of_length heq
    have hz := (List.takeWhile_eq_self_iff.1 hall) z h
    simp at hz
  rw [List.length_drop] at hle hne
  omega

/-- A text is read up to the next one, and from there on with it. -/
theorem load_storeAll (hs : z ∉ s) (h : storeAll z w k (some s :: xs) buf = some buf') :
    load z buf' (w * k) =
      if s.length < w + gap w xs then s else s.take (w + gap w xs) ++ load z buf' (w * k + (w + gap w xs)) := by
  obtain ⟨mid, hstore, hrest⟩ := Option.bind_eq_some_iff.1 h
  have htake := take_storeAll hrest (Nat.le_of_eq rfl)
  have hsplit : buf'.drop (w * k) =
      (s ++ z :: buf.drop (w * k + s.length + 1)).take (w + gap w xs) ++ buf'.drop (w * k + (w + gap w xs)) := by
    have hoff : w * (k + 1) + gap w xs - w * k = w + gap w xs := by rw [Nat.mul_succ]; omega
    have hmid := congrArg (List.drop (w * k)) htake
    rw [List.drop_take, List.drop_take, drop_store hstore, hoff] at hmid
    rw [← hmid, ← List.drop_drop, List.take_append_drop]
  rw [load, hsplit]
  split
  · next hlt =>
    obtain ⟨n, hn⟩ : ∃ n, w + gap w xs - s.length = n + 1 := ⟨w + gap w xs - s.length - 1, by omega⟩
    rw [List.take_append, List.take_of_length_le (by omega), hn, List.take_succ_cons, List.append_assoc,
      takeWhile_of_notMem hs]
    simp
  · next hge =>
    rw [List.take_append_of_le_length (by omega), takeWhile_of_notMem (fun h => hs (List.mem_of_mem_take h))]
    rfl

/-- What is read back, whatever was written for it, is shorter than the buffer. -/
theorem length_lt_of_readBack {f : List α → List α} (h : storeAll z w k (xs.map (Option.map f)) buf = some buf')
    (hread : ReadBack z w buf' k xs) (hs : some s ∈ xs) : s.length < buf.length := by
  induction xs generalizing k buf with
  | nil => cases hs
  | cons x xs ih =>
    cases x with
    | none => exact ih h hread (by simpa using hs)
    | some y =>
      have hz : z ∈ buf'.drop (w * k) := mem_drop_storeAll h List.mem_cons_self
      obtain ⟨mid, hstore, hrest⟩ := Option.bind_eq_some_iff.1 h
      rcases List.mem_cons.1 hs with hy | hs
      · cases hy
        rw [← length_storeAll h, ← hread.1]
        exact length_load_lt hz
      · rw [← length_store hstore]
        exact ih hrest hread.2 hs

/-- What is read at the next text. -/
theorem load_gap (h : ReadBack z w buf k xs) (hlen : buf.length = w * (k + xs.length)) :
    load z buf (w * k + gap w xs) = (next xs).getD [] := by
  induction xs generalizing k with
  | nil =>
    rw [load, List.drop_of_length_le (by simp [gap, hlen])]
    rfl
  | cons x xs ih =>
    cases x with
    | none =>
      rw [gap, ← Nat.add_assoc, ← Nat.mul_succ]
      exact ih h (by rw [hlen, List.length_cons]; congr 1; omega)
    | some s => exact h.1

/-- **The texts can be read back** exactly if they fit. -/
theorem fits_iff (hz : ∀ s, some s ∈ xs → z ∉ s) (hlen : buf.length = w * (k + xs.length)) :
    (∃ buf', storeAll z w k xs buf = some buf' ∧ ReadBack z w buf' k xs) ↔ Fits w xs := by
  induction xs generalizing k buf with
  | nil => simp [storeAll, ReadBack, Fits]
  | cons x xs ih =>
    have hlen' : buf.length = w * (k + 1 + xs.length) := by rw [hlen, List.length_cons]; congr 1; omega
    have hz' : ∀ s, some s ∈ xs → z ∉ s := fun s hs => hz s (List.mem_cons_of_mem _ hs)
    cases x with
    | none => exact ih hz' hlen'
    | some s =>
      have hs : z ∉ s := hz s List.mem_cons_self
      have hmul : w * (k + 1 + xs.length) = w * k + w + w * xs.length := by rw [Nat.mul_add, Nat.mul_succ]
      constructor
      · rintro ⟨buf', hall, hread, hrest⟩
        obtain ⟨mid, hstore, hmore⟩ := Option.bind_eq_some_iff.1 hall
        have hmid : mid.length = w * (k + 1 + xs.length) := (length_store hstore).trans hlen'
        have hbuf' : buf'.length = w * (k + 1 + xs.length) := (length_storeAll hmore).trans hmid
        refine ⟨?_, (ih hz' hmid).1 ⟨buf', hmore, hrest⟩⟩
        by_cases hlt : s.length < w + gap w xs
        · exact .inl hlt
        · rw [load_storeAll hs hall, if_neg hlt, ← Nat.add_assoc, ← Nat.mul_succ, load_gap hrest hbuf'] at hread
          right
          cases hnext : next xs with
          | none =>
            rw [hnext, Option.getD_none, List.append_nil] at hread
            have hinside := (store_eq_some.1 hstore).1
            have hle := congrArg List.length hread
            have hgap := gap_of_next_none (w := w) hnext
            rw [List.length_take] at hle
            omega
          | some y =>
            rw [hnext, Option.getD_some] at hread
            have hsplit := hread.trans (List.take_append_drop (w + gap w xs) s).symm
            rw [List.append_cancel_left hsplit]
      · rintro ⟨hplace, hfits⟩
        have hinside : w * k + s.length < buf.length := by
          have hhead := length_head_lt (s := s) (w := w) ⟨hplace, hfits⟩
          omega
        obtain ⟨mid, hstore⟩ : ∃ mid, store z buf (w * k) s = some mid := ⟨_, store_eq_some.2 ⟨hinside, rfl⟩⟩
        have hmid : mid.length = w * (k + 1 + xs.length) := (length_store hstore).trans hlen'
        obtain ⟨buf', hmore, hrest⟩ := (ih hz' hmid).2 hfits
        have hall : storeAll z w k (some s :: xs) buf = some buf' := by rw [storeAll, hstore, Option.bind_some, hmore]
        refine ⟨buf', hall, ?_, hrest⟩
        rw [load_storeAll hs hall]
        split
        · rfl
        · next hge =>
          have hbuf' : buf'.length = w * (k + 1 + xs.length) := (length_storeAll hmore).trans hmid
          rw [← Nat.add_assoc, ← Nat.mul_succ, load_gap hrest hbuf', hplace.resolve_left hge, Option.getD_some,
            List.take_append_drop]

end Places
