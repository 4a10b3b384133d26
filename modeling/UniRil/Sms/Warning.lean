import Mathlib.Data.List.FinRange
import Mathlib.Data.List.Perm.Subperm
import UniRil.AtTok
import UniRil.Hex
import UniRil.Lib.Runs

/-!
# Segmented warnings (`processSmsUnsolicited` of ril_sms.c)

A warning comes in lines `+SPLWRN:<segment_id>,<total_segments>,<length>,<data>`. Whether it is
complete is decided by how many lines have come, not by which.
-/

namespace UniRil.Sms

open AtTok

/-! ## The code -/

/-- The statics of the function. -/
structure Warnings where
  count : Nat
  dataLen : Nat
  /-- The array, NULL where a segment was not stored. -/
  pdus : Option (List (Option (List Byte)))
  deriving DecidableEq

/-- The segment, the number of segments and the data. -/
def parseSPLWRN (s : List Byte) : Option (Int × Int × List Byte) :=
  if strStartsWith s (ascii "+SPLWRN:") then do
    let segmentId := at_tok_nextint (at_tok_start (some s))
    let totalSegments := at_tok_nextint segmentId.p_cur
    let skip := at_tok_nextint totalSegments.p_cur
    let data := at_tok_nextstr skip.p_cur
    pure (← segmentId.value, ← totalSegments.value, ← skip.value.bind fun _ => data.value)
  else none

/-- `none` when the store goes through NULL or outside the array. -/
def storeSegment (segmentId : Int) (data : List Byte) (w : Warnings) : Option Warnings :=
  w.pdus.bind fun pdus =>
    if 1 ≤ segmentId ∧ segmentId ≤ pdus.length then
      some { count := w.count + 1, dataLen := w.dataLen + data.length
             pdus := some (pdus.set (segmentId - 1).toNat (some data)) }
    else none

/-- All pages are put together in a buffer of `dataLen` bytes and sent if they are hex. -/
def deliver (w : Warnings) : Option (Warnings × Option (List Byte)) :=
  let pdus := w.pdus.getD []
  let msg := (pdus.take w.count).flatMap (·.getD [])
  if pdus.length < w.count ∨ w.dataLen < msg.length then none
  else
    let (ok, binData) := convertHexToBin msg
    some ({ count := 0, dataLen := 0, pdus := none }, if ok then some binData else none)

/-- The statics after a line, and the broadcast message that it makes; `none` when memory is violated. -/
def processSPLWRN (s : List Byte) (w : Warnings) : Option (Warnings × Option (List Byte)) :=
  match parseSPLWRN s with
  | none => some (w, none)
  | some (segmentId, totalSegments, data) =>
    if totalSegments < 10 ∧ w.count = 0 ∧ totalSegments < 0 then some ({ w with pdus := none }, none)
    else do
      let w := if totalSegments < 10 ∧ w.count = 0 then
          { w with pdus := some (List.replicate totalSegments.toNat none) } else w
      let w ← if segmentId ≤ totalSegments then storeSegment segmentId data w else some w
      if w.count = totalSegments then deliver w else some (w, none)

example : parseSPLWRN (ascii "+SPLWRN:2,3,4,\r\nA0B1") = some (2, 3, ascii "A0B1") := by decide

/-! ## A warning and its lines -/

/-- The hex text of a message, cut into segments. -/
structure Warning where
  data : List (List Byte)
  payload : List Byte
  nonempty : data ≠ []
  decodes : convertHexToBin data.flatten = (true, payload)

variable {w : Warning}

abbrev Warning.Segment (w : Warning) : Type := Fin w.data.length

/-- A line of the warning. -/
structure Warning.Line (w : Warning) where
  text : List Byte
  segment : w.Segment
  parsed : parseSPLWRN text = some ((segment.val : Int) + 1, (w.data.length : Int), w.data[segment])

/-- The statics, with the segments of the lines so far. -/
structure Reception (w : Warning) where
  statics : Warnings
  received : List w.Segment

def receive (t : Reception w) (line : w.Line) : Option (Reception w) :=
  (processSPLWRN line.text t.statics).map fun r => { statics := r.1, received := t.received ++ [line.segment] }

def Complete (received : List w.Segment) : Prop := ∀ i, i ∈ received

instance (received : List w.Segment) : Decidable (Complete received) :=
  inferInstanceAs (Decidable (∀ i, i ∈ received))

/-- The line is taken, and the message goes out when its last missing segment has come. -/
def Faithful (t : Reception w) (line : w.Line) : Prop :=
  ∃ s, processSPLWRN line.text t.statics = some (s,
    if Complete (t.received ++ [line.segment]) ∧ ¬ Complete t.received then some w.payload else none)

def Reception.init : Reception w := { statics := { count := 0, dataLen := 0, pdus := none }, received := [] }

/-! ## The array -/

/-- The array when these segments were stored. -/
def slots (q : List w.Segment) : List (Option (List Byte)) :=
  (List.finRange w.data.length).map fun i => if i ∈ q then some w.data[i] else none

theorem length_slots (q : List w.Segment) : (slots q).length = w.data.length := by
  rw [slots, List.length_map, List.length_finRange]

theorem slots_nil : slots ([] : List w.Segment) = List.replicate w.data.length none := by
  refine List.ext_getElem (by rw [length_slots, List.length_replicate]) fun i hi hi' => ?_
  simp [slots]

theorem set_slots (q : List w.Segment) (i : w.Segment) :
    (slots q).set i (some w.data[i]) = slots (q ++ [i]) := by
  refine List.ext_getElem (by rw [List.length_set, length_slots, length_slots]) fun j hj hj' => ?_
  have hj' : j < w.data.length := by rwa [length_slots] at hj'
  simp only [List.getElem_set, slots, List.getElem_map, List.getElem_finRange, List.mem_append, List.mem_singleton]
  by_cases h : i.val = j
  · subst h
    simp
  · have hne : (⟨j, hj'⟩ : w.Segment) ≠ i := by
      rintro rfl
      exact h rfl
    simp [h, hne]

/-- The text that these segments make. -/
def textOf (q : List w.Segment) : List Byte := (slots q).flatMap (·.getD [])

theorem textOf_complete {q : List w.Segment} (h : Complete q) : textOf q = w.data.flatten := by
  have hall : (slots q).map (·.getD []) = w.data := by
    refine List.ext_getElem (by rw [List.length_map, length_slots]) fun j hj hj' => ?_
    simp [slots, h ⟨j, hj'⟩]
  rw [textOf, List.flatMap_def, hall]

/-- One more entry makes the text longer by at most its length. -/
theorem length_flatMap_set_le {α β : Type} (f : α → List β) (l : List α) (i : Nat) (a : α) :
    ((l.set i a).flatMap f).length ≤ (l.flatMap f).length + (f a).length := by
  induction l generalizing i with
  | nil => simp
  | cons b l ih =>
    cases i with
    | zero => simp; omega
    | succ i =>
      have hrest := ih i
      simp only [List.set_cons_succ, List.flatMap_cons, List.length_append]
      omega

theorem length_textOf_append_le (q : List w.Segment) (i : w.Segment) :
    (textOf (q ++ [i])).length ≤ (textOf q).length + w.data[i].length := by
  rw [textOf, ← set_slots]
  exact length_flatMap_set_le _ _ _ _

/-- The statics when these segments have come since the last message. -/
structure Collects (s : Warnings) (q : List w.Segment) : Prop where
  count : s.count = q.length
  pdus : q ≠ [] → s.pdus = some (slots q)
  dataLen : (textOf q).length ≤ s.dataLen

theorem textOf_nil : textOf ([] : List w.Segment) = [] := by
  rw [textOf, slots_nil, List.flatMap_replicate]
  simp

theorem Collects.empty : Collects { count := 0, dataLen := 0, pdus := none } ([] : List w.Segment) where
  count := rfl
  pdus h := absurd rfl h
  dataLen := by
    rw [textOf_nil]
    exact Nat.le_refl _

/-! ## One line -/

theorem storeSegment_slots {s : Warnings} {q : List w.Segment} (h : s.pdus = some (slots q)) (i : w.Segment) :
    storeSegment ((i.val : Int) + 1) w.data[i] s = some
      { count := s.count + 1, dataLen := s.dataLen + w.data[i].length, pdus := some (slots (q ++ [i])) } := by
  have hindex : ((i.val : Int) + 1 - 1).toNat = i.val := by omega
  have hi := i.isLt
  rw [storeSegment, h, Option.bind_some, if_pos (by rw [length_slots]; omega), hindex, set_slots]

/-- The message of a text that is hex. -/
def messageOf (text : List Byte) : Option (List Byte) :=
  if (convertHexToBin text).1 then some (convertHexToBin text).2 else none

theorem deliver_slots {s : Warnings} {q : List w.Segment} (hcount : s.count = w.data.length)
    (hpdus : s.pdus = some (slots q)) (hlen : (textOf q).length ≤ s.dataLen) :
    deliver s = some ({ count := 0, dataLen := 0, pdus := none }, messageOf (textOf q)) := by
  have htake : (slots q).take s.count = slots q := List.take_of_length_le (by rw [length_slots, hcount])
  rw [deliver, hpdus, Option.getD_some]
  dsimp only
  rw [htake, if_neg]
  · rfl
  · rw [length_slots, hcount, ← textOf]
    omega

/-- What a line does with the segments before it: the last of so many lines makes the message. -/
theorem processSPLWRN_spec {s : Warnings} {q : List w.Segment} (h : Collects s q)
    (hN : w.data.length ≤ 9) (line : w.Line) :
    ∃ s', processSPLWRN line.text s = some (s',
        if q.length + 1 = w.data.length then messageOf (textOf (q ++ [line.segment])) else none) ∧
      Collects s' (if q.length + 1 = w.data.length then [] else q ++ [line.segment]) := by
  -- the array is new for the first line
  obtain ⟨s₁, hs₁, hcount, hpdus, hlen⟩ : ∃ s₁, (if (w.data.length : Int) < 10 ∧ s.count = 0 then
      { s with pdus := some (List.replicate (w.data.length : Int).toNat none) } else s) = s₁ ∧
        s₁.count = q.length ∧ s₁.pdus = some (slots q) ∧ (textOf q).length ≤ s₁.dataLen := by
    by_cases hnil : q = []
    · have hzero : s.count = 0 := by rw [h.count, hnil, List.length_nil]
      refine ⟨_, if_pos ⟨by omega, hzero⟩, h.count, ?_, h.dataLen⟩
      rw [hnil, slots_nil, Int.toNat_natCast]
    · have hpos : ¬ ((w.data.length : Int) < 10 ∧ s.count = 0) := fun hand =>
        hnil (List.eq_nil_of_length_eq_zero (h.count.symm.trans hand.2))
      exact ⟨_, if_neg hpos, h.count, h.pdus hnil, h.dataLen⟩
  have hi := line.segment.isLt
  have hstore := storeSegment_slots hpdus line.segment
  have hle := length_textOf_append_le q line.segment
  unfold processSPLWRN
  rw [line.parsed]
  simp only [hs₁]
  rw [if_neg (by omega), if_pos (by omega), hstore]
  simp only [Option.bind_eq_bind, Option.bind_some]
  by_cases hlast : q.length + 1 = w.data.length
  · rw [if_pos (by omega), if_pos hlast, if_pos hlast]
    exact ⟨_, deliver_slots (by dsimp only; omega) rfl (by dsimp only; omega), .empty⟩
  · rw [if_neg (by omega), if_neg hlast, if_neg hlast]
    refine ⟨_, rfl, by simp [hcount], fun _ => rfl, ?_⟩
    dsimp only
    omega

/-! ## A sequence of lines -/

/-- The line is among the first nine, it does not end a group with a repeated segment, and it does not
end a second group. -/
def InOrder (t : Reception w) (line : w.Line) : Prop :=
  w.data.length ≤ 9 ∧ (t.received.length + 1 = w.data.length → (t.received ++ [line.segment]).Nodup) ∧
    t.received.length + 1 < 2 * w.data.length

/-- The lines so far: fewer than there are segments, or each segment once and some more. -/
inductive Received (t : Reception w) : Prop
  | collecting (h : Collects t.statics t.received) (hless : t.received.length < w.data.length)
  | done (h : Collects t.statics (t.received.drop w.data.length)) (hall : (t.received.take w.data.length).Nodup)
      (hmore : w.data.length ≤ t.received.length) (hless : t.received.length < 2 * w.data.length)

theorem complete_iff_nodup {q : List w.Segment} (h : q.length = w.data.length) : Complete q ↔ q.Nodup := by
  constructor
  · intro hall
    have hsub := List.subperm_of_subset (List.nodup_finRange w.data.length) fun i _ => hall i
    exact (hsub.perm_of_length_le (by rw [List.length_finRange, h])).nodup_iff.1 (List.nodup_finRange _)
  · intro hnodup i
    have hsub := List.subperm_of_subset hnodup fun i _ => List.mem_finRange i
    exact (hsub.perm_of_length_le (by rw [List.length_finRange, h])).mem_iff.2 (List.mem_finRange i)

theorem not_complete_of_length {q : List w.Segment} (h : q.length < w.data.length) : ¬ Complete q := by
  intro hall
  have hle := (List.subperm_of_subset (List.nodup_finRange w.data.length) fun i _ => hall i).length_le
  rw [List.length_finRange] at hle
  omega

theorem complete_of_take {q : List w.Segment} (h : (q.take w.data.length).Nodup) (hlen : w.data.length ≤ q.length) :
    Complete q := fun i =>
  List.mem_of_mem_take ((complete_iff_nodup (by rw [List.length_take]; omega)).2 h i)

theorem messageOf_complete {q : List w.Segment} (h : Complete q) : messageOf (textOf q) = some w.payload := by
  rw [messageOf, textOf_complete h, w.decodes]
  rfl

/-- A line in order is taken as it should be, and the lines so far are again of their kind. -/
theorem faithful_of_inOrder {t : Reception w} {line : w.Line} (h : Received t) (hC : InOrder t line) :
    Faithful t line ∧ ∀ t', receive t line = some t' → Received t' := by
  obtain ⟨hN, hnodup, hless2⟩ := hC
  cases h with
  | collecting h hless =>
    obtain ⟨s', hrun, hnext⟩ := processSPLWRN_spec h hN line
    have hnot := not_complete_of_length hless
    by_cases hlast : t.received.length + 1 = w.data.length
    · have hlen : (t.received ++ [line.segment]).length = w.data.length := by simpa using hlast
      have hall : Complete (t.received ++ [line.segment]) := (complete_iff_nodup hlen).2 (hnodup hlast)
      rw [if_pos hlast, messageOf_complete hall] at hrun
      rw [if_pos hlast] at hnext
      refine ⟨⟨s', by rw [if_pos ⟨hall, hnot⟩, hrun]⟩, fun t' ht' => ?_⟩
      obtain rfl : { statics := s', received := t.received ++ [line.segment] } = t' := by
        simpa [receive, hrun] using ht'
      refine .done ?_ ?_ (Nat.le_of_eq hlen.symm) (by dsimp only; omega)
      · rw [List.drop_of_length_le (Nat.le_of_eq hlen)]
        exact hnext
      · rw [List.take_of_length_le (Nat.le_of_eq hlen)]
        exact hnodup hlast
    · rw [if_neg hlast] at hrun hnext
      have hlen : (t.received ++ [line.segment]).length < w.data.length := by
        rw [List.length_append, List.length_singleton]
        omega
      refine ⟨⟨s', by rw [if_neg fun hand => not_complete_of_length hlen hand.1, hrun]⟩, fun t' ht' => ?_⟩
      obtain rfl : { statics := s', received := t.received ++ [line.segment] } = t' := by
        simpa [receive, hrun] using ht'
      exact .collecting hnext hlen
  | done h hall hmore hless =>
    obtain ⟨s', hrun, hnext⟩ := processSPLWRN_spec h hN line
    have hmid : ¬ (t.received.drop w.data.length).length + 1 = w.data.length := by
      rw [List.length_drop]
      omega
    rw [if_neg hmid] at hrun hnext
    refine ⟨⟨s', by rw [if_neg fun hand => hand.2 (complete_of_take hall hmore), hrun]⟩, fun t' ht' => ?_⟩
    obtain rfl : { statics := s', received := t.received ++ [line.segment] } = t' := by
      simpa [receive, hrun] using ht'
    have hlen : (t.received ++ [line.segment]).length = t.received.length + 1 := by simp
    refine .done ?_ ?_ (by dsimp only; omega) (by dsimp only; omega)
    · rw [List.drop_append_of_le_length hmore]
      exact hnext
    · rw [List.take_append_of_le_length hmore]
      exact hall

/-! ## Out of order -/

/-- Each segment is the text of whole bytes. -/
def Warning.WholeBytes (w : Warning) : Prop := ∀ d ∈ w.data, (convertHexToBin d).1 = true

theorem messageOf_ne_none (hw : w.WholeBytes) (q : List w.Segment) : messageOf (textOf q) ≠ none := by
  have htext : (convertHexToBin (textOf q)).1 = true := by
    refine convertHexToBin_flatMap fun slot hslot => ?_
    obtain ⟨i, -, rfl⟩ := List.mem_map.1 hslot
    split
    · exact hw _ (List.getElem_mem _)
    · rfl
  rw [messageOf, if_pos htext]
  exact fun h => nomatch h

/-- With ten segments or more the array is never allocated. -/
theorem processSPLWRN_unallocated {s : Warnings} (hN : ¬ w.data.length ≤ 9) (hpdus : s.pdus = none) (line : w.Line) :
    processSPLWRN line.text s = none := by
  have hi := line.segment.isLt
  have hlarge : ¬ (w.data.length : Int) < 10 := by omega
  have hin : (line.segment.val : Int) + 1 ≤ w.data.length := by omega
  unfold processSPLWRN
  rw [line.parsed]
  simp only [hlarge, false_and, if_false, hin, if_true, storeSegment, hpdus]
  rfl

/-- A line out of order is not taken, or makes a message too early or once more. -/
theorem not_faithful {t : Reception w} {line : w.Line} (hw : w.WholeBytes) (h : Received t)
    (hpdus : ¬ w.data.length ≤ 9 → t.statics.pdus = none) (hC : ¬ InOrder t line) : ¬ Faithful t line := by
  rintro ⟨s, hs⟩
  by_cases hN : w.data.length ≤ 9
  · cases h with
    | collecting h hless =>
      obtain ⟨s', hrun, -⟩ := processSPLWRN_spec h hN line
      by_cases hlast : t.received.length + 1 = w.data.length
      · have hlen : (t.received ++ [line.segment]).length = w.data.length := by simpa using hlast
        have hnot : ¬ Complete (t.received ++ [line.segment]) := by
          rw [complete_iff_nodup hlen]
          exact fun hnodup => hC ⟨hN, fun _ => hnodup, by omega⟩
        rw [if_pos hlast] at hrun
        rw [if_neg fun hand => hnot hand.1] at hs
        exact messageOf_ne_none hw _ (Prod.mk.inj (Option.some.inj (hrun.symm.trans hs))).2
      · exact hC ⟨hN, fun heq => absurd heq hlast, by omega⟩
    | done h hall hmore hless =>
      obtain ⟨s', hrun, -⟩ := processSPLWRN_spec h hN line
      have hlast : (t.received.drop w.data.length).length + 1 = w.data.length := by
        rw [List.length_drop]
        by_contra hne
        exact hC ⟨hN, fun heq => absurd heq (by omega), by omega⟩
      rw [if_pos hlast] at hrun
      rw [if_neg fun hand => hand.2 (complete_of_take hall hmore)] at hs
      exact messageOf_ne_none hw _ (Prod.mk.inj (Option.some.inj (hrun.symm.trans hs))).2
  · cases (processSPLWRN_unallocated hN (hpdus hN) line).symm.trans hs

/-! ## All lines -/

/-- What the lines of a run have in order, in terms of the lines alone. -/
theorem steps_inOrder_iff {t : Reception w} (h : Received t) (lines : List w.Line) :
    Runs.Steps receive InOrder t lines ↔ lines = [] ∨ w.data.length ≤ 9 ∧
      (t.received.length < w.data.length → w.data.length ≤ t.received.length + lines.length →
        ((t.received ++ lines.map (·.segment)).take w.data.length).Nodup) ∧
      t.received.length + lines.length < 2 * w.data.length := by
  induction lines generalizing t with
  | nil => exact iff_of_true trivial (.inl rfl)
  | cons line lines ih =>
    rw [or_iff_right (List.cons_ne_nil _ _), Runs.Steps, List.length_cons, List.map_cons]
    have hnext : ∀ hC : InOrder t line, ∃ t', receive t line = some t' ∧ Received t' ∧
        t'.received = t.received ++ [line.segment] := by
      intro hC
      obtain ⟨⟨s, hs⟩, hkeep⟩ := faithful_of_inOrder h hC
      have hstep : receive t line = some { statics := s, received := t.received ++ [line.segment] } := by
        simp [receive, hs]
      exact ⟨_, hstep, hkeep _ hstep, rfl⟩
    constructor
    · rintro ⟨hC, hrest⟩
      obtain ⟨t', hstep, ht', hreceived⟩ := hnext hC
      obtain ⟨hN, hnodup, hless⟩ := hC
      rcases (ih ht').1 (hrest t' hstep) with rfl | ⟨-, hnodup', hless'⟩
      · refine ⟨hN, fun hshort hlong => ?_, hless⟩
        have hlast : t.received.length + 1 = w.data.length := Nat.le_antisymm hshort hlong
        rw [List.map_nil, List.take_of_length_le (by simp; omega)]
        exact hnodup hlast
      · rw [hreceived, List.length_append, List.length_singleton] at hnodup' hless'
        rw [List.append_assoc, List.singleton_append] at hnodup'
        refine ⟨hN, fun hshort hlong => ?_, by omega⟩
        by_cases hlast : t.received.length + 1 = w.data.length
        · rw [List.append_cons, List.take_append_of_le_length (by simp; omega), List.take_of_length_le (by simp; omega)]
          exact hnodup hlast
        · exact hnodup' (by omega) (by omega)
    · rintro ⟨hN, hnodup, hless⟩
      have hC : InOrder t line := by
        refine ⟨hN, fun hlast => ?_, by omega⟩
        have hall := hnodup (by omega) (by omega)
        rw [List.append_cons, List.take_append_of_le_length (by simp; omega),
          List.take_of_length_le (by simp; omega)] at hall
        exact hall
      refine ⟨hC, fun t' hstep => ?_⟩
      obtain ⟨t'', hstep', ht', hreceived⟩ := hnext hC
      obtain rfl := Option.some.inj (hstep'.symm.trans hstep)
      refine (ih ht').2 (.inr ⟨hN, fun hshort hlong => ?_, ?_⟩)
      · rw [hreceived, List.length_append, List.length_singleton] at hshort hlong
        rw [hreceived, List.append_assoc, List.singleton_append]
        exact hnodup (by omega) (by omega)
      · rw [hreceived, List.length_append, List.length_singleton]
        omega

/-- At most nine segments, the first so many lines pairwise distinct, and no second group of lines. -/
def EachOnceFirst (lines : List w.Line) : Prop :=
  lines = [] ∨ w.data.length ≤ 9 ∧
    (w.data.length ≤ lines.length → ((lines.take w.data.length).map (·.segment)).Nodup) ∧
    lines.length < 2 * w.data.length

/-- **A warning is reassembled faithfully** when each of its segments comes once before any comes again,
and, if every segment is the text of whole bytes, only then. -/
theorem warning_faithful_iff (w : Warning) (lines : List w.Line) :
    (EachOnceFirst lines → Runs.Steps receive Faithful (Reception.init : Reception w) lines) ∧
      (w.WholeBytes → (Runs.Steps receive Faithful (Reception.init : Reception w) lines ↔ EachOnceFirst lines)) := by
  have hinit : Received (Reception.init : Reception w) := .collecting .empty (List.length_pos_of_ne_nil w.nonempty)
  have hcond : Runs.Steps receive InOrder (Reception.init : Reception w) lines ↔ EachOnceFirst lines := by
    rw [steps_inOrder_iff hinit, EachOnceFirst]
    simp [Reception.init, List.map_take, List.length_pos_of_ne_nil w.nonempty]
  have hstep : ∀ t line t', (Received t ∧ (¬ w.data.length ≤ 9 → t.statics.pdus = none)) → InOrder t line →
      receive t line = some t' → Received t' ∧ (¬ w.data.length ≤ 9 → t'.statics.pdus = none) := fun t line t' h hC hrun =>
    ⟨(faithful_of_inOrder h.1 hC).2 t' hrun, fun hN => absurd hC.1 hN⟩
  refine ⟨fun h => ?_, fun hw => ?_⟩
  · refine Runs.steps_mono hstep (fun t line h hC => (faithful_of_inOrder h.1 hC).1) ⟨hinit, fun _ => rfl⟩ (hcond.2 h)
  · rw [← hcond]
    refine Runs.steps_iff_steps hstep (fun t line h => ⟨fun hF => ?_, fun hC => (faithful_of_inOrder h.1 hC).1⟩)
      ⟨hinit, fun _ => rfl⟩ lines
    by_contra hC
    exact not_faithful hw h.1 h.2 hC hF

/-- The two bytes A0 and B1, each in a segment. -/
def twoSegments : Warning where
  data := [ascii "A0", ascii "B1"]
  payload := [0xA0, 0xB1]
  nonempty := by decide
  decodes := by decide

def firstLine : twoSegments.Line where
  text := ascii "+SPLWRN:1,2,2,\r\nA0"
  segment := ⟨0, by decide⟩
  parsed := by decide

def secondLine : twoSegments.Line where
  text := ascii "+SPLWRN:2,2,2,\r\nB1"
  segment := ⟨1, by decide⟩
  parsed := by decide

theorem warning_faithful_iff_two :
    (EachOnceFirst [secondLine, firstLine] →
        Runs.Steps receive Faithful (Reception.init : Reception twoSegments) [secondLine, firstLine]) ∧
      (Runs.Steps receive Faithful (Reception.init : Reception twoSegments) [secondLine, firstLine] ↔
        EachOnceFirst [secondLine, firstLine]) :=
  ⟨(warning_faithful_iff twoSegments [secondLine, firstLine]).1,
    (warning_faithful_iff twoSegments [secondLine, firstLine]).2 (by unfold Warning.WholeBytes; decide)⟩

/-- The first segment twice: a message goes out without the second. -/
theorem repeated_segment_delivers :
    ¬ Runs.Steps receive Faithful (Reception.init : Reception twoSegments) [firstLine, firstLine] := by
  intro h
  have hstep : receive Reception.init firstLine = some
      { statics := { count := 1, dataLen := 2, pdus := some [some (ascii "A0"), none] }, received := [⟨0, by decide⟩] } := rfl
  obtain ⟨s, hs⟩ := (h.2 _ hstep).1
  have hmsg : (processSPLWRN firstLine.text
      { count := 1, dataLen := 2, pdus := some [some (ascii "A0"), none] }).map Prod.snd = some (some [0xA0]) := by
    decide
  rw [if_neg (by decide)] at hs
  rw [hs] at hmsg
  cases hmsg

end UniRil.Sms
