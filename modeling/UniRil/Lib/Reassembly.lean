import Mathlib.Data.List.Flatten
import Mathlib.Data.List.Infix

/-!
# Items out of a stream that comes in pieces

A receiver has a window for what was read and not yet taken. Each call takes an item out of the window, or reads once
and tries again.
-/

namespace Reassembly

variable {α β ε : Type*}

/-- `next` takes the first item off, if all of it is there. -/
structure Format (α β ε : Type*) where
  next : List α → Option (β × List α)
  next_nil : next [] = none
  next_append : ∀ {xs b rest} ys, next xs = some (b, rest) → next (xs ++ ys) = some (b, rest ++ ys)
  length_next : ∀ {xs b rest}, next xs = some (b, rest) → rest.length ≤ xs.length
  window : Nat
  window_pos : 0 < window
  again : ε
  full : ε

/-- What a read does: it brings at least one element when some are left, or fails. -/
inductive Read (ε : Type*)
  | upTo (n : Nat)
  | error (e : ε)

def Read.brings : Read ε → Bool
  | .upTo _ => true
  | .error _ => false

inductive Result (β ε : Type*)
  | item (b : β)
  | ended
  | failed (e : ε)

def Result.succeeds : Result β ε → Bool
  | .failed _ => false
  | _ => true

/-- What is in the window, and what is left of the stream. -/
structure Receiver (α : Type*) where
  held : List α
  pending : List α

/-- The elements that a read of `size` elements at most brings. -/
def chunk (size n : Nat) (pending : List α) : List α := pending.take (min (n + 1) size)

def Receiver.get (F : Format α β ε) (r : Receiver α) (read : Read ε) : Result β ε × Receiver α :=
  match F.next r.held with
  | some (b, held) => (.item b, { r with held })
  | none =>
    if r.held.length = F.window then (.failed F.full, r)
    else
      match read with
      | .error e => (.failed e, r)
      | .upTo n =>
        let new := chunk (F.window - r.held.length) n r.pending
        if new.isEmpty then (.ended, r)
        else
          match F.next (r.held ++ new) with
          | some (b, held) => (.item b, { held, pending := r.pending.drop new.length })
          | none => (.failed F.again, { held := r.held ++ new, pending := r.pending.drop new.length })

/-- Call after call. -/
def Receiver.gets (F : Format α β ε) : Receiver α → List (Read ε) → List (Result β ε) × Receiver α
  | r, [] => ([], r)
  | r, read :: reads =>
    let step := r.get F read
    let more := step.2.gets F reads
    (step.1 :: more.1, more.2)

/-! ## Streams -/

/-- The items stand one behind the other, each with a frame that fits the window, and `tail` behind them. -/
inductive Holds (F : Format α β ε) (tail : List α) : List α → List β → Prop
  | nil : Holds F tail tail []
  | cons {frame rest : List α} {b : β} {bs : List β} (hlen : frame.length ≤ F.window)
      (hnext : F.next frame = some (b, [])) (h : Holds F tail rest bs) : Holds F tail (frame ++ rest) (b :: bs)

/-- No item ends in the first window of the text. -/
def Stuck (F : Format α β ε) (tail : List α) : Prop := ∀ n ≤ F.window, F.next (tail.take n) = none

theorem stuck_nil (F : Format α β ε) : Stuck F [] := fun _ _ => by rw [List.take_nil, F.next_nil]

/-- The items that have not been taken, when the window is no longer than it may be. -/
structure Sees (F : Format α β ε) (tail : List α) (r : Receiver α) (bs : List β) : Prop where
  fits : r.held.length ≤ F.window
  holds : Holds F tail (r.held ++ r.pending) bs

variable {F : Format α β ε} {r r' : Receiver α} {b : β} {bs : List β} {tail rest held : List α}

theorem Format.next_frame {frame : List α} (h : F.next frame = some (b, [])) (rest : List α) :
    F.next (frame ++ rest) = some (b, rest) := F.next_append rest h

/-- The item in the window is the next one of the stream. -/
theorem Sees.take (h : Sees F tail r bs) (hstuck : Stuck F tail) (hnext : F.next r.held = some (b, held)) :
    ∃ bs', bs = b :: bs' ∧ Holds F tail (held ++ r.pending) bs' := by
  obtain ⟨hfits, hholds⟩ := h
  have hall := F.next_append r.pending hnext
  generalize hstream : r.held ++ r.pending = stream at hholds hall
  cases hholds with
  | nil =>
    have htake : tail.take r.held.length = r.held := by rw [← hstream, List.take_left]
    have hnone := hstuck r.held.length hfits
    rw [htake, hnext] at hnone
    cases hnone
  | cons hlen hframe hrest =>
    rw [F.next_frame hframe] at hall
    cases hall
    exact ⟨_, rfl, hrest⟩

/-- With no item in the window, all of the stream is there only when no items are left. -/
theorem Sees.empty (h : Sees F tail r bs) (hnone : F.next r.held = none) (hpending : r.pending = []) : bs = [] := by
  have hholds := h.holds
  rw [hpending, List.append_nil] at hholds
  generalize r.held = stream at hholds hnone
  cases hholds with
  | nil => rfl
  | cons hlen hframe hrest =>
    rw [F.next_frame hframe] at hnone
    cases hnone

/-- No frame is too long for the window. -/
theorem Sees.full (h : Sees F tail r bs) (hnone : F.next r.held = none) (hfull : r.held.length = F.window) :
    bs = [] := by
  have hholds := h.holds
  generalize hstream : r.held ++ r.pending = stream at hholds
  cases hholds with
  | nil => rfl
  | @cons frame rest b bs hlen hframe hrest =>
    have hpre : frame <+: r.held :=
      List.prefix_of_prefix_length_le ⟨rest, hstream.symm⟩ (List.prefix_append _ _) (hfull ▸ hlen)
    obtain ⟨more, hmore⟩ := hpre
    rw [← hmore, F.next_frame hframe] at hnone
    cases hnone

/-! ## One call -/

/-- What one call does. -/
inductive Got (F : Format α β ε) (tail : List α) (r : Receiver α) (bs : List β) (read : Read ε) :
    Result β ε → Receiver α → Prop
  | item {r' : Receiver α} {b : β} {bs' : List β} (hbs : bs = b :: bs') (h : Sees F tail r' bs')
      (hlen : r'.pending.length ≤ r.pending.length) : Got F tail r bs read (.item b) r'
  | ended (hbs : bs = []) (hpending : r.pending = []) : Got F tail r bs read .ended r
  | full (hbs : bs = []) (hheld : r.held.length = F.window) : Got F tail r bs read (.failed F.full) r
  | error {e : ε} (hread : read = .error e) : Got F tail r bs read (.failed e) r
  | again {r' : Receiver α} (h : Sees F tail r' bs) (hlen : r'.pending.length < r.pending.length) :
      Got F tail r bs read (.failed F.again) r'

theorem chunk_append (size n : Nat) (pending : List α) :
    chunk size n pending ++ pending.drop (chunk size n pending).length = pending :=
  List.prefix_iff_eq_append.1 (List.take_prefix _ _)

theorem length_chunk_le (size n : Nat) (pending : List α) : (chunk size n pending).length ≤ size := by
  rw [chunk, List.length_take]
  omega

theorem pending_eq_nil {size n : Nat} {pending : List α} (hsize : 0 < size) (h : chunk size n pending = []) :
    pending = [] := by
  rcases List.take_eq_nil_iff.1 h with hzero | hnil
  · omega
  · exact hnil

theorem length_drop_chunk_lt {size n : Nat} {pending : List α} (h : chunk size n pending ≠ []) :
    (pending.drop (chunk size n pending).length).length < pending.length := by
  have hpos := List.length_pos_iff.2 h
  have hall := congrArg List.length (chunk_append size n pending)
  rw [List.length_append] at hall
  omega

/-- A read moves the beginning of what is left into the window. -/
theorem Sees.reads (h : Sees F tail r bs) (n : Nat) :
    Sees F tail
      { held := r.held ++ chunk (F.window - r.held.length) n r.pending
        pending := r.pending.drop (chunk (F.window - r.held.length) n r.pending).length } bs := by
  have hchunk := length_chunk_le (F.window - r.held.length) n r.pending
  have hfits := h.fits
  constructor
  · rw [List.length_append]
    omega
  · rw [List.append_assoc, chunk_append]
    exact h.holds

theorem Sees.takes (h : Sees F tail r bs) (hstuck : Stuck F tail) (hnext : F.next r.held = some (b, held)) :
    ∃ bs', bs = b :: bs' ∧ Sees F tail { held, pending := r.pending } bs' := by
  obtain ⟨bs', hbs, hholds⟩ := h.take hstuck hnext
  exact ⟨bs', hbs, (F.length_next hnext).trans h.fits, hholds⟩

theorem get_of_some (hnext : F.next r.held = some (b, held)) (read : Read ε) :
    r.get F read = (.item b, { held, pending := r.pending }) := by
  unfold Receiver.get
  rw [hnext]

theorem get_of_full (hnext : F.next r.held = none) (hfull : r.held.length = F.window) (read : Read ε) :
    r.get F read = (.failed F.full, r) := by
  unfold Receiver.get
  rw [hnext]
  exact if_pos hfull

theorem get_of_error (hnext : F.next r.held = none) (hfull : r.held.length ≠ F.window) (e : ε) :
    r.get F (.error e) = (.failed e, r) := by
  unfold Receiver.get
  rw [hnext]
  exact if_neg hfull

/-- A read that brings nothing. -/
theorem get_of_nil {n : Nat} (hnext : F.next r.held = none) (hfull : r.held.length ≠ F.window)
    (hnew : chunk (F.window - r.held.length) n r.pending = []) : r.get F (.upTo n) = (.ended, r) := by
  unfold Receiver.get
  rw [hnext]
  simp only [if_neg hfull, hnew, List.isEmpty_nil, if_true]

/-- A read that brings something. -/
theorem get_of_ne_nil {n : Nat} (hnext : F.next r.held = none) (hfull : r.held.length ≠ F.window)
    (hnew : chunk (F.window - r.held.length) n r.pending ≠ []) :
    r.get F (.upTo n) =
      match F.next (r.held ++ chunk (F.window - r.held.length) n r.pending) with
      | some (b, held) =>
        (.item b, { held, pending := r.pending.drop (chunk (F.window - r.held.length) n r.pending).length })
      | none =>
        (.failed F.again,
          { held := r.held ++ chunk (F.window - r.held.length) n r.pending
            pending := r.pending.drop (chunk (F.window - r.held.length) n r.pending).length }) := by
  unfold Receiver.get
  rw [hnext]
  simp only [if_neg hfull, List.isEmpty_iff, if_neg hnew]

/-- **One call takes the next item, reads on, or finds the end.** -/
theorem Sees.get (h : Sees F tail r bs) (hstuck : Stuck F tail) (read : Read ε) :
    Got F tail r bs read (r.get F read).1 (r.get F read).2 := by
  cases hnext : F.next r.held with
  | some p =>
    obtain ⟨b, held⟩ := p
    obtain ⟨bs', hbs, hsees⟩ := h.takes hstuck hnext
    rw [get_of_some hnext]
    exact .item hbs hsees le_rfl
  | none =>
    by_cases hfull : r.held.length = F.window
    · rw [get_of_full hnext hfull]
      exact .full (h.full hnext hfull) hfull
    · have hsize : 0 < F.window - r.held.length := by
        have hfits := h.fits
        omega
      cases read with
      | error e =>
        rw [get_of_error hnext hfull]
        exact .error rfl
      | upTo n =>
        have hread := h.reads n
        by_cases hnew : chunk (F.window - r.held.length) n r.pending = []
        · have hpending := pending_eq_nil hsize hnew
          rw [get_of_nil hnext hfull hnew]
          exact .ended (h.empty hnext hpending) hpending
        · have hless := length_drop_chunk_lt hnew
          rw [get_of_ne_nil hnext hfull hnew]
          cases hagain : F.next (r.held ++ chunk (F.window - r.held.length) n r.pending) with
          | none => exact .again hread hless
          | some p =>
            obtain ⟨b, held⟩ := p
            obtain ⟨bs', hbs, hsees⟩ := hread.takes hstuck hagain
            exact .item hbs hsees hless.le

/-! ## Call after call -/

/-- A receiver whose calls have taken `taken`, and found the end `ends` times. -/
structure Progress (F : Format α β ε) (r : Receiver α) (bs : List β) (reads : List (Read ε))
    (results : List (Result β ε)) (r' : Receiver α) (taken left : List β) (ends : Nat) : Prop where
  items : bs = taken ++ left
  sees : Sees F [] r' left
  results : results.filter Result.succeeds = taken.map Result.item ++ List.replicate ends Result.ended
  ended : 0 < ends → left = []
  /-- Every read that brings something moves on. -/
  moves : ends = 0 → reads.countP Read.brings + left.length + r'.pending.length ≤ bs.length + r.pending.length

theorem Sees.not_full (h : Sees F [] r []) : r.held.length ≠ F.window := by
  have hholds := h.holds
  generalize hstream : r.held ++ r.pending = stream at hholds
  cases hholds with
  | nil =>
    have hnil := (List.append_eq_nil_iff.1 hstream).1
    rw [hnil]
    exact F.window_pos.ne

theorem countP_cons_le (read : Read ε) (reads : List (Read ε)) :
    (read :: reads).countP Read.brings ≤ reads.countP Read.brings + 1 := by
  rw [List.countP_cons]
  split
  · exact le_rfl
  · exact Nat.le_succ _

/-- **However the stream is cut, the items come in order and then the end.** -/
theorem Sees.gets (h : Sees F [] r bs) (reads : List (Read ε)) :
    ∃ taken left ends, Progress F r bs reads (r.gets F reads).1 (r.gets F reads).2 taken left ends := by
  induction reads generalizing r bs with
  | nil =>
    refine ⟨[], bs, 0, rfl, h, rfl, fun hpos => absurd hpos (lt_irrefl 0), fun _ => ?_⟩
    simp [Receiver.gets]
  | cons read reads ih =>
    have hcount := countP_cons_le read reads
    have hgot := h.get (stuck_nil F) read
    rw [Receiver.gets]
    generalize r.get F read = step at hgot
    obtain ⟨result, r'⟩ := step
    dsimp only at hgot ⊢
    cases hgot with
    | @item _ b bs' hbs hsees hlen =>
      obtain ⟨taken, left, ends, hitems, hleft, hresults, hended, hmoves⟩ := ih hsees
      refine ⟨b :: taken, left, ends, ?_, hleft, ?_, hended, fun hzero => ?_⟩
      · rw [hbs, hitems, List.cons_append]
      · exact congrArg (Result.item b :: ·) hresults
      · have hmore := hmoves hzero
        rw [hbs, List.length_cons]
        omega
    | ended hbs hpending =>
      obtain ⟨taken, left, ends, hitems, hleft, hresults, -, -⟩ := ih h
      obtain ⟨rfl, rfl⟩ := List.append_eq_nil_iff.1 (hitems.symm.trans hbs)
      exact ⟨[], [], ends + 1, hbs, hleft, congrArg (Result.ended :: ·) hresults, fun _ => rfl,
        fun hzero => absurd hzero (Nat.succ_ne_zero _)⟩
    | full hbs hheld =>
      rw [hbs] at h
      exact absurd hheld h.not_full
    | error hread =>
      obtain ⟨taken, left, ends, hitems, hleft, hresults, hended, hmoves⟩ := ih h
      refine ⟨taken, left, ends, hitems, hleft, hresults, hended, fun hzero => ?_⟩
      rw [hread, List.countP_cons_of_neg (by simp [Read.brings])]
      exact hmoves hzero
    | again hsees hlen =>
      obtain ⟨taken, left, ends, hitems, hleft, hresults, hended, hmoves⟩ := ih hsees
      refine ⟨taken, left, ends, hitems, hleft, hresults, hended, fun hzero => ?_⟩
      have hmore := hmoves hzero
      omega

/-- The same in front of any tail. -/
theorem Sees.gets_of_stuck (h : Sees F tail r bs) (hstuck : Stuck F tail) (reads : List (Read ε)) :
    ∃ left, Sees F tail (r.gets F reads).2 left := by
  induction reads generalizing r bs with
  | nil => exact ⟨bs, h⟩
  | cons read reads ih =>
    have hgot := h.get hstuck read
    rw [Receiver.gets]
    generalize r.get F read = step at hgot
    obtain ⟨result, r'⟩ := step
    dsimp only at hgot ⊢
    cases hgot with
    | item _ hsees _ => exact ih hsees
    | ended _ _ => exact ih h
    | full _ _ => exact ih h
    | error _ => exact ih h
    | again hsees _ => exact ih hsees

/-! ## A window that is full -/

theorem Holds.length_le {stream : List α} (h : Holds F tail stream bs) : tail.length + bs.length ≤ stream.length := by
  induction h with
  | nil => exact le_rfl
  | @cons frame rest b bs hlen hnext hrest ih =>
    have hpos : 0 < frame.length := by
      rw [List.length_pos_iff]
      rintro rfl
      rw [F.next_nil] at hnext
      cases hnext
    rw [List.length_append, List.length_cons]
    omega

/-- At most a window full of the tail has been read. -/
theorem Sees.length_tail_le (h : Sees F tail r bs) : tail.length + bs.length ≤ F.window + r.pending.length := by
  have hholds := h.holds.length_le
  rw [List.length_append] at hholds
  have hfits := h.fits
  omega

/-- **When the window is full of the tail, every call fails.** -/
theorem Sees.gets_full (h : Sees F tail r bs) (hstuck : Stuck F tail)
    (hlen : F.window + r.pending.length ≤ tail.length) (reads : List (Read ε)) :
    (r.gets F reads).1 = reads.map fun _ => Result.failed F.full := by
  have hle := h.length_tail_le
  obtain rfl : bs = [] := List.length_eq_zero_iff.1 (by omega)
  have htail : tail = r.held ++ r.pending := by
    have hholds := h.holds
    generalize r.held ++ r.pending = stream at hholds
    cases hholds
    rfl
  have hheld : r.held.length = F.window := by
    have hfits := h.fits
    rw [htail, List.length_append] at hlen
    omega
  have hnone : F.next r.held = none := by
    have htake := hstuck F.window le_rfl
    rwa [htail, List.take_left' hheld] at htake
  have hget (read : Read ε) : r.get F read = (.failed F.full, r) := by
    unfold Receiver.get
    rw [hnone]
    exact if_pos hheld
  clear h hle htail hheld hlen hnone
  induction reads with
  | nil => rfl
  | cons read reads ih =>
    simp only [Receiver.gets, hget, List.map_cons, ih]

end Reassembly
