import Mathlib.Data.List.Perm.Basic
import Mathlib.Data.List.ReduceOption
import UniRil.Libril.RequestMemory

/-!
# The memory of a request is freed once

A function of the service gives up the blocks it allocates, one after the other, to the function that frees them, so
what is live is known at each step.
-/

namespace UniRil.Libril.RequestMemory

open Flows Dispatch
open AtTok (Line)

/-! ## The blocks that are live -/

/-- The live blocks, and what went out. -/
def At (l : List Addr) (es : List Event) (h : Heap) : Prop := h.live.Perm l ∧ h.events = es

/-- The blocks that are left at the end, with one answer. -/
def Ends (l : List Addr) (h : Heap) : Prop := h.live.Perm l ∧ h.events.countP Event.answers = 1

variable {α : Type} {Q : α → Heap → Prop} {P : Unit → Heap → Prop} {E : Exit Empty → Heap → Prop} {h : Heap}
variable {l : List Addr} {es : List Event}

theorem At.perm {l' : List Addr} (hat : At l es h) (hperm : l.Perm l') : At l' es h :=
  ⟨hat.1.trans hperm, hat.2⟩

theorem At.asks (hat : At l es h) : At l es h.asks := hat

theorem At.gives (hat : At l es h) : At (h.next :: l) es h.asks.gives := ⟨hat.1.cons _, hat.2⟩

theorem At.note {e : Event} (hat : At l es h) : At l (es ++ [e]) (h.note e) := by
  unfold At Heap.note
  exact ⟨hat.1, by simp [hat.2]⟩

theorem At.frees {a : Addr} (hat : At (a :: l) es h) : At l es (h.frees a) := by
  refine ⟨?_, hat.2⟩
  have := hat.1.erase a
  simpa [Heap.frees] using this

@[simp] theorem allocates_asks (n : Nat) : h.asks.allocates n = h.allocates (n + 1) := rfl
@[simp] theorem allocates_gives (n : Nat) : h.gives.allocates n = h.allocates n := rfl

@[simp ↓] theorem wp_calloc {Q : Option Addr → Heap → Prop} :
    wp calloc Q E h ↔
      (h.allocates 0 = true → Q (some h.next) h.asks.gives) ∧ (h.allocates 0 = false → Q none h.asks) := by
  simp [calloc]

@[simp ↓] theorem wp_note (e : Event) : wp (note e) P E h ↔ P () (h.note e) := by
  simp [note]

@[simp ↓] theorem wp_sendErrorResponse (e : RIL_Errno) :
    wp (sendErrorResponse e) P E h ↔ P () (h.note (.sendErrorResponse e)) := by
  simp [sendErrorResponse]

theorem wp_free {p : Option Addr} (hat : At (p.toList ++ l) es h) (hP : ∀ h', At l es h' → P () h') :
    wp (free p) P E h := by
  unfold free
  cases p with
  | none => simpa using hP h hat
  | some a =>
    have hmem : a ∈ h.live := hat.1.mem_iff.mpr (by simp)
    simpa [hmem] using hP _ hat.frees

theorem wp_freeAll {ps : List (Option Addr)} (hat : At (ps.reduceOption ++ l) es h)
    (hP : ∀ h', At l es h' → P () h') : wp (freeAll ps) P E h := by
  induction ps generalizing h with
  | nil => simpa [freeAll] using hP h hat
  | cons p ps ih =>
    unfold freeAll
    rw [wp_bind]
    refine wp_free (l := ps.reduceOption ++ l) (hat.perm ?_) fun h' hat' => ih hat'
    cases p <;> simp

theorem ends_of_at {e : RIL_Errno} (hat : At l [] h) : Ends l (h.note (.sendErrorResponse e)) := by
  have hnote := hat.note (e := .sendErrorResponse e)
  refine ⟨hnote.1, ?_⟩
  rw [hnote.2]
  rfl

/-! ## The end of processRequest -/

/-- The function frees some of the blocks and leaves the others. -/
def Leaves (m : Mem Unit) (l l' : List Addr) : Prop :=
  ∀ es h, At l es h → wp m (fun _ h' => At l' es h') (fun _ _ => False) h

theorem wp_perform_answering {d : Data} {as : List Act} (has : as.filterMap Act.freed = []) (hat : At l es h)
    (hP : ∀ h', At l (es ++ as.map .act) h' → P () h') : wp (perform d as) P E h := by
  induction as generalizing h es with
  | nil => simpa [perform] using hP h (by simpa using hat)
  | cons a as ih =>
    cases a with
    | freeFunction free => simp [Act.freed] at has
    | _ =>
      simp only [perform, wp_bind, wp_note]
      exact ih (by simpa [Act.freed] using has) hat.note fun h' hat' => hP h' (by simpa using hat')

theorem wp_perform_append {d : Data} (as as' : List Act) :
    wp (perform d (as ++ as')) P E h ↔ wp (perform d as) (fun _ => wp (perform d as') P E) E h := by
  induction as generalizing h with
  | nil => simp [perform]
  | cons a as ih =>
    cases a with
    | freeFunction free =>
      cases free with
      | none => simp [perform]
      | some f =>
        simp only [List.cons_append, perform, wp_bind]
        exact wp_congr (fun _ _ => ih) fun _ _ => Iff.rfl
    | _ => simp [perform, ih]

variable {r : Ready} {request : Int} {f : Free} {d : Data} {l' : List Addr}

/-- When the function of the table is called, the request was answered once. -/
theorem wp_CALL_ONREQUEST_of (hm : memoryManager request = some (some f))
    (hf : ∀ es h', At l es h' → es.countP Event.answers = 1 → wp (run f d) P E h') (hat : At l [] h) :
    wp (CALL_ONREQUEST r request d) P E h := by
  have hvalid : ¬ (r.socket_id < 0 ∨ r.ril.SIM_COUNT ≤ r.socket_id) := by
    have := r.valid
    omega
  obtain ⟨a, hanswers, hfreed, has⟩ := answering_eq files hvalid request
  have hnone : (answering files r.ril request r.socket_id).filterMap Act.freed = [] := by
    rcases has with has | has <;> rw [has, List.filterMap_cons_none hfreed] <;> rfl
  have hone : (answering files r.ril request r.socket_id).countP Act.answers = 1 := by
    rcases has with has | has <;> rw [has, List.countP_cons_of_pos hanswers] <;> rfl
  unfold CALL_ONREQUEST
  rw [processRequest, processRequestIn, wp_perform_append]
  refine wp_perform_answering hnone hat fun h' hat' => ?_
  simp only [done, hm, Option.toList_some, List.map_cons, List.map_nil, perform, wp_bind]
  apply hf _ _ hat'
  rw [List.nil_append, List.countP_map]
  exact hone

/-- What the function of the table leaves is left. -/
theorem wp_CALL_ONREQUEST (hm : memoryManager request = some (some f)) (hf : Leaves (run f d) l l')
    (hat : At l [] h) : wp (CALL_ONREQUEST r request d) (fun _ => Ends l') (fun _ _ => False) h := by
  refine wp_CALL_ONREQUEST_of hm (fun es h' hat' hone => ?_) hat
  refine wp_mono (hf _ _ hat') (fun _ h'' hat'' => ⟨hat''.1, ?_⟩) fun _ _ => id
  rw [hat''.2]
  exact hone

/-! ## What the functions of the tables free -/

theorem leaves_freeBlock {a : Addr} : Leaves (freeBlock (.block a)) [a] [] := by
  intro es h hat
  exact wp_free hat fun _ => id

theorem leaves_freeBlock_NULL : Leaves (freeBlock .NULL) [] [] := by
  intro es h hat
  exact wp_free hat fun _ => id

theorem leaves_freeStrings {a : Addr} {cells : List (Option Addr)} :
    Leaves (freeStrings (.cells a cells)) (a :: cells.reduceOption) [] := by
  intro es h hat
  unfold freeStrings
  simp only [wp_bind]
  refine wp_freeAll (l := [a]) (hat.perm (List.perm_append_singleton _ _).symm) fun h' hat' => ?_
  exact wp_free hat' fun _ => id

/-- The pointers of some of the fields. -/
def pointers (fields : List (Field × Option Addr)) (fs : List Field) : List (Option Addr) :=
  fs.map fun f => (fields.lookup f).join

theorem lookup_cons_of_ne {fields : List (Field × Option Addr)} {f g : Field} {p : Option Addr} (hne : f ≠ g) :
    List.lookup f ((g, p) :: fields) = fields.lookup f := by
  simp only [List.lookup_cons, beq_eq_false_iff_ne.mpr hne]

theorem lookup_of_mem {fields : List (Field × Option Addr)} {f : Field} (hmem : f ∈ fields.map Prod.fst) :
    ∃ p, fields.lookup f = some p := by
  induction fields with
  | nil => simp at hmem
  | cons x fields ih =>
    obtain ⟨g, p⟩ := x
    by_cases hf : f = g
    · exact ⟨p, by simp [hf]⟩
    · rw [lookup_cons_of_ne hf]
      exact ih (by simpa [hf] using hmem)

theorem wp_freeFields {a : Addr} {fields : List (Field × Option Addr)} {fs : List Field}
    (hfs : ∀ f ∈ fs, f ∈ fields.map Prod.fst) (hat : At ((pointers fields fs).reduceOption ++ l) es h)
    (hP : ∀ h', At l es h' → P () h') : wp (freeFields (.struct a fields) fs) P E h := by
  induction fs generalizing h with
  | nil => simpa [freeFields] using hP h hat
  | cons f fs ih =>
    obtain ⟨p, hp⟩ := lookup_of_mem (hfs f (by simp))
    simp only [freeFields, fieldOf, hp, wp_bind, wp_deref, Option.some.injEq, forall_eq', reduceCtorEq,
      false_implies, and_true]
    refine wp_free (l := (pointers fields fs).reduceOption ++ l) (hat.perm ?_) fun h' hat' =>
      ih (fun f hf => hfs f (by simp [hf])) hat'
    cases p <;> simp [pointers, hp]

theorem pointers_names {fields : List (Field × Option Addr)} (hnodup : (fields.map Prod.fst).Nodup) :
    pointers fields (fields.map Prod.fst) = fields.map Prod.snd := by
  induction fields with
  | nil => rfl
  | cons x fields ih =>
    obtain ⟨g, p⟩ := x
    rw [List.map_cons, List.nodup_cons] at hnodup
    have hrest : pointers ((g, p) :: fields) (fields.map Prod.fst) = pointers fields (fields.map Prod.fst) := by
      apply List.map_congr_left
      intro f hf
      rw [lookup_cons_of_ne]
      rintro rfl
      exact hnodup.1 hf
    have hfirst : (List.lookup g ((g, p) :: fields)).join = p := by simp
    calc pointers ((g, p) :: fields) (((g, p) :: fields).map Prod.fst)
        = (List.lookup g ((g, p) :: fields)).join :: pointers ((g, p) :: fields) (fields.map Prod.fst) := rfl
      _ = ((g, p) :: fields).map Prod.snd := by rw [hfirst, hrest, ih hnodup.2, List.map_cons]

/-- A structure is freed with all of its texts when the function names them all. -/
theorem leaves_freeStruct {a : Addr} (fs : List Field) (fields : List (Field × Option Addr)) (hnodup : fs.Nodup)
    (hperm : fs.Perm (fields.map Prod.fst)) :
    Leaves (freeStruct fs (.struct a fields)) (a :: (fields.map Prod.snd).reduceOption) [] := by
  intro es h hat
  unfold freeStruct
  rw [wp_bind]
  refine wp_freeFields (l := [a]) (fun f => hperm.mem_iff.mp) (hat.perm ?_) fun h' hat' => wp_free hat' fun _ => id
  rw [← pointers_names (hperm.nodup_iff.mp hnodup)]
  have hpointers : (pointers fields fs).Perm (pointers fields (fields.map Prod.fst)) := hperm.map _
  exact (List.perm_append_singleton _ _).symm.trans (List.Perm.append_right _ (hpointers.symm.filterMap id))

/-! ## What is copied, and freed where it is not passed on -/

/-- How many blocks the copies of the texts take. -/
def needed (allowEmpty : Bool) (srcs : List Line) : Nat := srcs.countP fun src => src ≠ [] ∨ allowEmpty = true

def errors (e : RIL_Errno) : List Event := [.sendErrorResponse e]

theorem wp_copyHidlStringToRil {src : Line} {allowEmpty : Bool} {Q : Option (Option Addr) → Heap → Prop}
    (hat : At l es h)
    (hok : ∀ p h', At (p.toList ++ l) es h' →
      (∀ i < needed allowEmpty [src], h.allocates i = true) →
      (∀ n, h'.allocates n = h.allocates (needed allowEmpty [src] + n)) → Q (some p) h')
    (hfail : ∀ h', At l (es ++ errors .NO_MEMORY) h' → needed allowEmpty [src] = 1 → h.allocates 0 = false →
      Q none h') :
    wp (copyHidlStringToRil src allowEmpty) Q E h := by
  unfold copyHidlStringToRil
  split
  · next hnone =>
    exact hok none h hat (by simp [needed, hnone.1, hnone.2]) (by simp [needed, hnone.1, hnone.2])
  · next hsome =>
    have hone : needed allowEmpty [src] = 1 := by
      simp only [needed, List.countP_singleton, decide_eq_true_eq, ite_eq_left_iff]
      intro h'
      simp_all
    simp only [wp_bind, wp_calloc, wp_sendErrorResponse, wp_pure]
    constructor
    · intro hgives
      refine hok _ _ hat.gives ?_ fun n => ?_
      · rw [hone]
        intro i hi
        rwa [Nat.lt_one_iff.mp hi]
      · rw [hone, allocates_gives, allocates_asks, Nat.add_comm]
    · exact fun hnot => hfail _ hat.asks.note hone hnot

theorem wp_copyTexts {allowEmpty : Bool} {c : List (Option Addr)} {srcs : List Line}
    {Q : Bool × List (Option Addr) → Heap → Prop} (hat : At (c.reduceOption ++ l) es h)
    (hok : ∀ ps h', ps.length = c.length + srcs.length → At (ps.reduceOption ++ l) es h' →
      (∀ i < needed allowEmpty srcs, h.allocates i = true) →
      (∀ n, h'.allocates n = h.allocates (needed allowEmpty srcs + n)) → Q (true, ps) h')
    (hfail : ∀ ps h', ps.length ≤ c.length + srcs.length →
      At (ps.reduceOption ++ l) (es ++ errors .NO_MEMORY) h' →
      (∃ i < needed allowEmpty srcs, h.allocates i = false) → Q (false, ps) h') :
    wp (copyTexts allowEmpty c srcs) Q E h := by
  induction srcs generalizing c h with
  | nil => exact hok c h (by simp) hat (by simp [needed]) (by simp [needed])
  | cons src srcs ih =>
    have hsum : needed allowEmpty (src :: srcs) = needed allowEmpty [src] + needed allowEmpty srcs := by
      simp [needed, List.countP_cons, Nat.add_comm]
    unfold copyTexts
    rw [wp_bind]
    refine wp_copyHidlStringToRil hat (fun p h' hat' hfirst hshift => ?_) fun h' hat' hone hnot => ?_
    · have hlength : (c ++ [p]).length + srcs.length = c.length + (src :: srcs).length := by
        simp only [List.length_append, List.length_cons, List.length_nil]
        omega
      refine ih (hat'.perm ?_) (fun ps h'' hps hat'' hall hshift' => ?_) fun ps h'' hps hat'' hsome => ?_
      · rw [List.reduceOption_append, List.append_assoc, ← List.append_assoc, ← List.append_assoc]
        apply List.Perm.append_right
        cases p with
        | none => simp
        | some a => simpa using (List.perm_append_singleton a c.reduceOption).symm
      · refine hok ps h'' (hps.trans hlength) hat'' (fun i hi => ?_) fun n => ?_
        · rcases Nat.lt_or_ge i (needed allowEmpty [src]) with hlt | hge
          · exact hfirst i hlt
          · have := hall (i - needed allowEmpty [src]) (by omega)
            rwa [hshift, Nat.add_sub_cancel' hge] at this
        · rw [hshift', hshift, hsum, Nat.add_assoc]
      · obtain ⟨i, hi, hnot⟩ := hsome
        rw [hshift] at hnot
        exact hfail ps h'' (by omega) hat'' ⟨_, by omega, hnot⟩
    · exact hfail c h' (by simp) hat' ⟨0, by omega, hnot⟩

def Settled (h : Heap) : Prop := h.live = [] ∧ h.events.countP Event.answers = 1

theorem settled_iff : Settled h ↔ Ends [] h := by
  simp [Settled, Ends]

/-- The function comes back, nothing is left, and the request is answered once. -/
def Settles (m : Mem Unit) (h : Heap) : Prop := wp m (fun _ => Settled) (fun _ _ => False) h

theorem settles_of_ends {m : Mem Unit} (hm : wp m (fun _ => Ends []) (fun _ _ => False) h) : Settles m h :=
  wp_mono hm (fun _ _ => settled_iff.mpr) fun _ _ => id

theorem settles_answered {e : RIL_Errno} (hat : At [] [] h) : Settled (h.note (.sendErrorResponse e)) :=
  settled_iff.mpr (ends_of_at hat)

theorem settles_free {a : Addr} {e : RIL_Errno} (hat : At [a] (errors e) h) : Settles (free (some a)) h := by
  refine wp_free hat fun h' hat' => ⟨List.perm_nil.mp hat'.1, ?_⟩
  rw [hat'.2]
  rfl

theorem settles_freeAll {ps : List (Option Addr)} {e : RIL_Errno} (hat : At ps.reduceOption (errors e) h) :
    Settles (freeAll ps) h := by
  refine wp_freeAll (l := []) (by simpa using hat) fun h' hat' => ⟨List.perm_nil.mp hat'.1, ?_⟩
  rw [hat'.2]
  rfl

theorem settles_CALL_ONREQUEST (hm : memoryManager request = some (some f)) (hf : Leaves (run f d) l [])
    (hat : At l [] h) : Settles (CALL_ONREQUEST r request d) h :=
  settles_of_ends (wp_CALL_ONREQUEST hm hf hat)

theorem settles_allocated {k : Addr → Mem Unit} (hat : At [] [] h)
    (hk : ∀ a h', At [a] [] h' → h.allocates 0 = true → (∀ n, h'.allocates n = h.allocates (n + 1)) →
      Settles (k a) h') :
    Settles (allocated k) h := by
  unfold Settles allocated
  simp only [wp_bind, wp_calloc, wp_sendErrorResponse]
  exact ⟨fun hgives => hk _ _ hat.gives hgives fun _ => rfl, fun _ => settles_answered hat.asks⟩

theorem at_start (allocates : Nat → Bool) : At [] [] (.start allocates) := ⟨List.Perm.nil, rfl⟩

/-! ## The functions with a request of their own choice -/

variable {allocates : Nat → Bool}

theorem settles_dispatchBlock (hm : memoryManager request = some (some f)) (hf : run f = freeBlock) :
    Settles (dispatchBlock r request) (.start allocates) := by
  refine settles_allocated (at_start _) fun a h hat _ _ => settles_CALL_ONREQUEST hm ?_ hat
  rw [hf]
  exact leaves_freeBlock

theorem settles_NULL (hm : memoryManager request = some (some f)) (hf : Leaves (run f .NULL) [] []) :
    Settles (CALL_ONREQUEST r request .NULL) (.start allocates) :=
  settles_CALL_ONREQUEST hm hf (at_start _)

theorem settles_dispatchString {str : Line} (hm : memoryManager request = some (some .freeString)) :
    Settles (dispatchString r request str) (.start allocates) := by
  unfold Settles dispatchString
  rw [wp_bind]
  refine wp_copyHidlStringToRil (at_start _) (fun p h' hat' _ _ => ?_) fun h' hat' _ _ => ?_
  · cases p with
    | none => exact settles_CALL_ONREQUEST hm leaves_freeBlock_NULL hat'
    | some a => exact settles_CALL_ONREQUEST hm leaves_freeBlock hat'
  · exact ⟨List.perm_nil.mp hat'.1, by rw [hat'.2]; rfl⟩

theorem settles_dispatchStrings {allowEmpty : Bool} {strs : List Line}
    (hm : memoryManager request = some (some .freeStrings)) :
    Settles (dispatchStrings r request allowEmpty strs) (.start allocates) := by
  refine settles_allocated (at_start _) fun a h hat _ _ => ?_
  unfold Settles
  rw [wp_bind]
  refine wp_copyTexts (l := [a]) (by simpa using hat) (fun ps h' _ hat' _ _ => ?_) fun ps h' _ hat' _ => ?_
  · exact settles_CALL_ONREQUEST hm leaves_freeStrings (hat'.perm (List.perm_append_singleton _ _))
  · rw [if_neg Bool.false_ne_true, wp_bind]
    exact wp_freeAll hat' fun h'' => settles_free

theorem settles_dispatchStruct {fields : List (Field × Line)} {fs : List Field}
    (hm : memoryManager request = some (some f)) (hf : run f = freeStruct fs) (hnodup : fs.Nodup)
    (hperm : fs.Perm (fields.map Prod.fst)) : Settles (dispatchStruct r request fields) (.start allocates) := by
  refine settles_allocated (at_start _) fun a h hat _ _ => ?_
  unfold Settles
  rw [wp_bind]
  refine wp_copyTexts (l := [a]) (by simpa using hat) (fun ps h' hps hat' _ _ => ?_) fun ps h' _ hat' _ => ?_
  · have hlength : (fields.map Prod.fst).length = ps.length := by simpa using hps.symm
    refine settles_CALL_ONREQUEST hm ?_ (hat'.perm (List.perm_append_singleton _ _))
    rw [hf]
    have hfree := leaves_freeStruct (a := a) fs ((fields.map Prod.fst).zip ps) hnodup
      (by rwa [List.map_fst_zip hlength.le])
    rwa [List.map_snd_zip hlength.ge] at hfree
  · rw [if_neg Bool.false_ne_true, wp_bind]
    exact wp_freeAll hat' fun h'' => settles_free

/-! ## The functions with a request of their own -/

theorem settles_checked {valid : Bool} {a : Addr} (hm : memoryManager request = some (some f))
    (hf : run f = freeBlock) (hat : At [a] [] h) : Settles (checked r valid a request) h := by
  unfold checked
  split
  · refine settles_CALL_ONREQUEST hm ?_ hat
    rw [hf]
    exact leaves_freeBlock
  · unfold Settles
    rw [wp_bind, wp_sendErrorResponse]
    exact settles_free hat.note

theorem settles_startNetworkScan {specifiers : List RadioAccessSpecifier} :
    Settles (startNetworkScan r specifiers) (.start allocates) := by
  unfold startNetworkScan
  split
  · exact settles_answered (at_start _)
  · exact settles_allocated (at_start _) fun a h hat _ _ =>
      settles_checked (f := .freeStartNetworkScan) (by decide) rfl hat

theorem settles_startKeepalive {type : KeepaliveType} {sourceAddress destinationAddress : List Byte} :
    Settles (startKeepalive r type sourceAddress destinationAddress) (.start allocates) :=
  settles_allocated (at_start _) fun a h hat _ _ => settles_checked (f := .freeStartKeepAlive) (by decide) rfl hat

theorem settles_setAllowedCarriers : Settles (setAllowedCarriers r) (.start allocates) := by
  refine settles_allocated (at_start _) fun cr h hat _ _ => ?_
  unfold Settles
  simp only [wp_bind, wp_calloc, wp_sendErrorResponse]
  refine ⟨fun _ => ⟨fun _ => ?_, fun _ => ?_⟩, fun _ => settles_free hat.asks.note⟩
  · exact settles_CALL_ONREQUEST (f := .freeSetAllowedCarriers) (by decide)
      (leaves_freeStruct _ _ (by decide) (List.Perm.refl _)) (hat.gives.gives.perm (List.reverse_perm [cr, _, _]))
  · exact settles_freeAll hat.gives.asks.note

theorem wp_fieldOf {a : Addr} {fields : List (Field × Option Addr)} {g : Field} {p : Option Addr}
    {Q : Option Addr → Heap → Prop} (hp : fields.lookup g = some p) (hQ : Q p h) :
    wp (fieldOf (.struct a fields) g) Q E h := by
  simpa [fieldOf, hp] using hQ

theorem leaves_freeDial {dial : Addr} {number : Option Addr} :
    Leaves (freeDial (.struct dial [(.address, number), (.uusInfo, none)])) (dial :: number.toList) [] := by
  intro es h hat
  unfold freeDial freeStruct
  rw [wp_bind]
  refine wp_fieldOf rfl ?_
  rw [wp_bind, freeUusInfo, wp_pure, wp_bind]
  refine wp_freeFields (l := [dial]) (by simp) (hat.perm ?_) fun h' hat' => wp_free hat' fun _ => id
  cases number with
  | none => exact List.Perm.refl _
  | some a => exact List.Perm.swap _ _ _

theorem leaves_freeDial_uusInfo {dial uusInfo : Addr} {number uusData : Option Addr} :
    Leaves (freeDial (.struct dial [(.address, number), (.uusInfo, some uusInfo), (.uusData, uusData)]))
      (uusData.toList ++ uusInfo :: (number.toList ++ [dial])) [] := by
  intro es h hat
  unfold freeDial freeStruct
  rw [wp_bind]
  refine wp_fieldOf rfl ?_
  rw [wp_bind, freeUusInfo, wp_bind]
  refine wp_freeFields (l := uusInfo :: (number.toList ++ [dial])) (by simp) (hat.perm ?_) fun h₁ hat₁ => ?_
  · cases uusData <;> exact List.Perm.refl _
  · refine wp_free (p := some uusInfo) hat₁ fun h₂ hat₂ => ?_
    rw [wp_bind]
    refine wp_freeFields (l := [dial]) (by simp) (hat₂.perm ?_) fun h₃ hat₃ => wp_free hat₃ fun _ => id
    cases number <;> exact List.Perm.refl _

theorem settles_dial {address : Line} {uusInfo : Option Line} :
    Settles (dial r address uusInfo) (.start allocates) := by
  refine settles_allocated (at_start _) fun dial h hat _ _ => ?_
  unfold Settles
  simp only [wp_bind, wp_calloc, wp_sendErrorResponse]
  refine ⟨fun _ => ?_, fun _ => settles_free hat.asks.note⟩
  refine wp_copyHidlStringToRil hat.gives (fun number h₁ hat₁ _ _ => ?_) fun h₁ hat₁ _ _ => ?_
  · cases uusInfo with
    | none =>
      rw [wp_bind]
      refine wp_free (p := some h.next) (l := dial :: number.toList) (hat₁.perm ?_) fun h₂ hat₂ => ?_
      · exact List.perm_append_comm.trans (List.Perm.refl _)
      · exact settles_CALL_ONREQUEST (f := .freeDial) (by decide) leaves_freeDial hat₂
    | some text =>
      rw [wp_bind]
      refine wp_copyHidlStringToRil hat₁ (fun uusData h₂ hat₂ _ _ => ?_) fun h₂ hat₂ _ _ => ?_
      · refine settles_CALL_ONREQUEST (f := .freeDial) (by decide) leaves_freeDial_uusInfo (hat₂.perm ?_)
        exact List.Perm.append_left _ List.perm_middle
      · refine settles_freeAll (hat₂.perm ?_)
        cases number with
        | none => exact List.Perm.swap _ _ _
        | some a => exact (List.Perm.swap _ _ _).cons a
  · exact settles_freeAll (hat₁.perm (List.Perm.swap _ _ _))

/-! ## The functions that leave something behind -/

theorem not_settled_of_ends {a : Addr} (hends : Ends (a :: l) h) : ¬ Settled h := by
  intro hsettled
  have := hends.1.length_eq
  rw [hsettled.1] at this
  simp at this

theorem settles_allocated_iff {k : Addr → Mem Unit} :
    Settles (allocated k) (.start allocates) ↔
      (allocates 0 = true → Settles (k 0) (Heap.start allocates).asks.gives) := by
  unfold Settles allocated
  simp only [wp_bind, wp_calloc, wp_sendErrorResponse]
  exact and_iff_left fun _ => settles_answered (at_start _).asks

theorem at_given : At [0] [] (Heap.start allocates).asks.gives := (at_start allocates).gives

/-- The memory of a request that is freed with freeVoid stays. -/
theorem not_settles_of_leaves {l l' : List Addr} {a : Addr} (hm : memoryManager request = some (some f))
    (hf : Leaves (run f d) l (a :: l')) (hat : At l [] h) : ¬ Settles (CALL_ONREQUEST r request d) h := by
  refine (wp_iff_of_wp (P := False) (wp_CALL_ONREQUEST hm hf hat) (fun _ _ hends => ?_) fun _ _ => False.elim).mp
  exact iff_false_intro (not_settled_of_ends hends)

theorem settles_freeVoid_iff (hm : memoryManager request = some (some .freeVoid)) :
    Settles (dispatchBlock r request) (.start allocates) ↔ allocates 0 = false := by
  refine settles_allocated_iff.trans ?_
  have hnot : ¬ Settles (CALL_ONREQUEST r request (.block 0)) (Heap.start allocates).asks.gives :=
    not_settles_of_leaves hm (show Leaves _ [0] [0] from fun es h hat => hat) at_given
  simp [hnot]

theorem needed_true (srcs : List Line) : needed true srcs = srcs.length := by
  simp [needed]

theorem settles_setInitialAttachApn_iff {p : DataProfileInfo} {isRoaming : Bool} :
    Settles (setInitialAttachApn r p isRoaming) (.start allocates) ↔ (allocates 0 = true → allocates 1 = true) := by
  refine settles_allocated_iff.trans (imp_congr_right fun _ => ?_)
  refine wp_iff_of_wp (Q := fun _ h => Ends [] h ∧ allocates 1 = true ∨ Ends [0] h ∧ allocates 1 = false)
    (E := fun _ _ => False) ?_ ?_ fun _ _ => False.elim
  · rw [wp_bind]
    refine wp_copyHidlStringToRil at_given (fun apn h hat hall _ => ?_) fun h hat _ hnot => ?_
    · have hone : allocates 1 = true := hall 0 (by simp [needed_true])
      simp only [hone, and_true, Bool.true_eq_false, and_false, or_false]
      rw [wp_bind]
      refine wp_copyTexts (l := [0]) (hat.perm ?_) (fun ps h' hps hat' _ _ => ?_) fun ps h' _ hat' _ => ?_
      · cases apn <;> simp
      · rw [if_pos rfl]
        have hfree := leaves_freeStruct (a := 0) [.apn, .protocol, .username, .password]
          ([Field.apn, .protocol, .username, .password].zip ps) (by decide)
          (by rw [List.map_fst_zip (by simp [hps])])
        rw [List.map_snd_zip (by simp [hps])] at hfree
        exact wp_CALL_ONREQUEST (f := .freeSetInitialAttachApn) (by decide) hfree
          (hat'.perm (List.perm_append_singleton _ _))
      · rw [if_neg Bool.false_ne_true, wp_bind]
        exact wp_freeAll hat' fun h'' hat'' => wp_mono (settles_free hat'') (fun _ _ => settled_iff.mp) fun _ _ => id
    · right
      exact ⟨⟨hat.1, by rw [hat.2]; rfl⟩, hnot⟩
  · rintro _ h (⟨hends, hone⟩ | ⟨hends, hone⟩)
    · simp [settled_iff, hends, hone]
    · simp [not_settled_of_ends hends, hone]

theorem wp_callocAll {num : Nat} {Q : List (Option Addr) → Heap → Prop} (hat : At l es h)
    (hQ : ∀ ps h', At (ps.reduceOption ++ l) es h' →
      ((∀ p ∈ ps, p ≠ none) ↔ ∀ i < num, h.allocates i = true) → Q ps h') :
    wp (callocAll num) Q E h := by
  induction num generalizing h l Q with
  | zero => exact hQ [] h hat (by simp)
  | succ num ih =>
    have hsplit : (∀ i < num + 1, h.allocates i = true) ↔
        h.allocates 0 = true ∧ ∀ i < num, h.allocates (i + 1) = true := Nat.forall_lt_succ_left
    simp only [callocAll, wp_bind, wp_calloc]
    constructor
    · intro hgives
      refine ih hat.gives fun ps h' hat' hall => hQ _ h' (hat'.perm ?_) ?_
      · exact List.perm_middle
      · rw [hsplit]
        simpa [hgives] using hall
    · intro hnot
      refine ih hat.asks fun ps h' hat' _ => hQ _ h' hat' ?_
      rw [hsplit]
      simp [hnot]

theorem wp_derefAll {ps : List (Option Addr)} :
    wp (derefAll ps) P E h ↔ ((∀ p ∈ ps, p ≠ none) → P () h) ∧ (¬ (∀ p ∈ ps, p ≠ none) → E .crashes h) := by
  induction ps with
  | nil => simp [derefAll]
  | cons p ps ih =>
    cases p with
    | none => simp [derefAll]
    | some a => simpa [derefAll] using ih

theorem leaves_freeSetGsmBroadcastConfig {a : Addr} {cells : List (Option Addr)} (hcells : ∀ p ∈ cells, p ≠ none) :
    Leaves (freeSetGsmBroadcastConfig (.cells a cells)) (cells.reduceOption ++ [a]) [] := by
  intro es h hat
  unfold freeSetGsmBroadcastConfig
  rw [wp_bind]
  induction cells generalizing h with
  | nil => exact wp_free hat fun _ => id
  | cons p cells ih =>
    cases p with
    | none => exact absurd rfl (hcells none (by simp))
    | some b =>
      simp only [List.forM_eq_forM, List.forM_cons, wp_bind, wp_deref, Option.some.injEq, forall_eq', reduceCtorEq,
        false_implies, and_true]
      refine wp_free (p := some b) hat fun h' hat' => ?_
      simpa using ih (fun p hp => hcells p (by simp [hp])) h' hat'

/-- A function that crashes or comes back without a block, as a condition says. -/
theorem settles_iff_of_wp {m : Mem Unit} {p : Prop} (hm : wp m (fun _ h' => Ends [] h' ∧ p) (fun _ _ => ¬ p) h) :
    Settles m h ↔ p :=
  wp_iff_of_wp hm (fun _ _ hends => iff_of_true (settled_iff.mpr hends.1) hends.2) fun _ _ => iff_of_false id

/-- A block that is not allocated is written to. -/
theorem settles_setBroadcastConfig_iff {num : Nat} (hm : memoryManager request = some (some f))
    (hf : run f = freeSetGsmBroadcastConfig) :
    Settles (setBroadcastConfig r request num) (.start allocates) ↔
      (allocates 0 = true → ∀ i < num, allocates (i + 1) = true) := by
  refine settles_allocated_iff.trans (imp_congr_right fun _ => settles_iff_of_wp ?_)
  rw [wp_bind]
  refine wp_callocAll at_given fun ps h hat hall => ?_
  rw [wp_bind, wp_derefAll]
  refine ⟨fun hps => ?_, fun hps hnot => hps (hall.mpr hnot)⟩
  refine wp_mono (wp_CALL_ONREQUEST hm ?_ hat) (fun _ _ hends => ⟨hends, hall.mp hps⟩) fun _ _ => False.elim
  rw [hf]
  exact leaves_freeSetGsmBroadcastConfig hps

/-! ## The data profiles -/

theorem fieldByField_cons (row : List (Option Addr)) (rows : List (List (Option Addr))) :
    (fieldByField (row :: rows)).Perm (((List.range 4).map fun k => row[k]?.join) ++ fieldByField rows) := by
  unfold fieldByField
  simp only [List.map_cons]
  exact (List.map_append_flatMap_perm _ _ _).symm

theorem perm_fieldByField {rows : List (List (Option Addr))} (hrows : ∀ row ∈ rows, row.length ≤ 4) :
    (fieldByField rows).reduceOption.Perm rows.flatten.reduceOption := by
  induction rows with
  | nil => exact List.Perm.refl _
  | cons row rows ih =>
    refine ((fieldByField_cons row rows).filterMap id).trans ?_
    rw [List.filterMap_append, List.flatten_cons, List.reduceOption_append]
    refine List.Perm.append (List.Perm.of_eq ?_) (ih fun row hrow => hrows row (by simp [hrow]))
    have hlength := hrows row (by simp)
    match row with
    | [] => rfl
    | [_] => rfl
    | [_, _] => rfl
    | [_, _, _] => rfl
    | [_, _, _, _] => rfl

theorem wp_copyProfiles {rows : List (List (Option Addr))} {texts : List (List Line)}
    {Q : Bool × List (List (Option Addr)) → Heap → Prop} (htexts : ∀ row ∈ texts, row.length = 4)
    (hrows : ∀ row ∈ rows, row.length ≤ 4) (hat : At (rows.flatten.reduceOption ++ l) es h)
    (hok : ∀ rows' h', rows'.length = rows.length + texts.length → At (rows'.flatten.reduceOption ++ l) es h' →
      Q (true, rows') h')
    (hfail : ∀ rows' h', (∀ row ∈ rows', row.length ≤ 4) →
      At (rows'.flatten.reduceOption ++ l) (es ++ errors .NO_MEMORY) h' → Q (false, rows') h') :
    wp (copyProfiles rows texts) Q E h := by
  induction texts generalizing rows h with
  | nil => exact hok rows h (by simp) hat
  | cons text texts ih =>
    have hflat : ∀ row : List (Option Addr), (row.reduceOption ++ (rows.flatten.reduceOption ++ l)).Perm
        ((rows ++ [row]).flatten.reduceOption ++ l) := by
      intro row
      rw [← List.append_assoc, List.flatten_append, List.reduceOption_append]
      simpa using List.perm_append_comm_assoc _ _ _
    have hlength := htexts text (by simp)
    have hshort : ∀ row : List (Option Addr), row.length ≤ 4 → ∀ row' ∈ rows ++ [row], row'.length ≤ 4 := by
      intro row hrow row' hmem
      rcases List.mem_append.mp hmem with hmem | hmem
      · exact hrows row' hmem
      · rwa [List.mem_singleton.mp hmem]
    unfold copyProfiles
    rw [wp_bind]
    refine wp_copyTexts (c := []) hat (fun row h' hrow hat' _ _ => ?_) fun row h' hrow hat' _ => ?_
    · have hfour : row.length ≤ 4 := by simp [hrow, hlength]
      refine ih (fun row hmem => htexts row (by simp [hmem])) (hshort row hfour) (hat'.perm (hflat row))
        fun rows' h'' hrows' => ?_
      exact hok rows' h'' (by simp only [List.length_append, List.length_cons, List.length_nil] at hrows' ⊢; omega)
    · exact hfail _ h' (hshort row (by simpa [hlength] using hrow)) (hat'.perm (hflat row))

theorem leaves_freeSetDataProfileData {a b : Addr} {rows : List (List (Option Addr))} (hrows : rows ≠ []) :
    Leaves (freeSetDataProfileData (.profiles a b rows)) (rows.flatten.reduceOption ++ [b, a]) [] := by
  intro es h hat
  unfold freeSetDataProfileData
  rw [wp_bind]
  refine wp_freeAll hat fun h' hat' => ?_
  rw [if_neg hrows, wp_bind]
  exact wp_free (p := some b) hat' fun h'' hat'' => wp_free (p := some a) hat'' fun _ => id

theorem settles_setDataProfile {profiles : List DataProfileInfo} {isRoaming : Bool} (hprofiles : profiles ≠ []) :
    Settles (setDataProfile r profiles isRoaming) (.start allocates) := by
  refine settles_allocated (at_start _) fun a h hat _ _ => ?_
  unfold Settles
  simp only [wp_bind, wp_calloc]
  refine ⟨fun _ => ?_, fun _ => ?_⟩
  · refine wp_copyProfiles (by simp [DataProfileInfo.texts]) (List.forall_mem_nil _) hat.gives
      (fun rows h' hrows hat' => ?_) fun rows h' hrows hat' => ?_
    · have hne : rows ≠ [] := by
        rintro rfl
        exact hprofiles (List.length_eq_zero_iff.mp (by simpa using hrows.symm))
      refine settles_CALL_ONREQUEST (f := .freeSetDataProfileData) (by decide) (leaves_freeSetDataProfileData hne)
        (hat'.perm (List.Perm.append_left _ (List.Perm.swap _ _ _)))
    · rw [if_neg Bool.false_ne_true, wp_bind]
      refine wp_freeAll (l := [h.next, a]) (hat'.perm ?_) fun h'' hat'' =>
        settles_freeAll (hat''.perm (List.Perm.swap _ _ _))
      exact List.Perm.append_right _ (perm_fieldByField hrows).symm
  · refine wp_free (p := some a) (l := []) hat.asks fun h' hat' => ?_
    rw [wp_sendErrorResponse]
    exact settles_answered hat'

/-- Without a profile there is no `dataProfiles[0]`. -/
theorem settles_noDataProfile_iff {isRoaming : Bool} :
    Settles (setDataProfile r [] isRoaming) (.start allocates) ↔ (allocates 0 = true → allocates 1 = false) := by
  refine settles_allocated_iff.trans (imp_congr_right fun _ => settles_iff_of_wp ?_)
  simp only [wp_bind, wp_calloc]
  refine ⟨fun hgives => ?_, fun hnot => ?_⟩
  · refine wp_CALL_ONREQUEST_of (f := .freeSetDataProfileData) (by decide) (fun es h _ _ => ?_) at_given.gives
    simp only [run, freeSetDataProfileData, List.flatten_nil, freeAll, wp_bind, wp_pure, if_pos, wp_crash]
    exact Bool.not_eq_false _ ▸ hgives
  · refine wp_free (p := some 0) (l := []) at_given.asks fun h' hat' => ?_
    rw [wp_sendErrorResponse]
    exact ⟨settled_iff.mp (settles_answered hat'), hnot⟩

/-! ## The key of a carrier, and an SMS of IMS -/

theorem settles_setCarrierInfoForImsiEncryption_iff {mnc mcc keyIdentifier : Line} :
    Settles (setCarrierInfoForImsiEncryption r mnc mcc keyIdentifier) (.start allocates) ↔
      (allocates 0 = true → (∀ i < needed false [mnc, mcc, keyIdentifier], allocates (i + 1) = true) →
        allocates (needed false [mnc, mcc, keyIdentifier] + 1) = true) := by
  refine settles_allocated_iff.trans (imp_congr_right fun _ => settles_iff_of_wp ?_)
  rw [wp_bind]
  refine wp_copyTexts (l := [0]) at_given (fun ps h hps hat hall hshift => ?_) fun ps h _ hat hsome => ?_
  · have hnew := hshift 0
    simp only [if_pos, wp_bind, wp_calloc, wp_deref, Option.some.injEq, forall_eq', reduceCtorEq, false_implies,
      and_true, forall_const, true_and]
    refine ⟨fun hgives => ?_, fun hnot => ?_⟩
    · have hfree := leaves_freeStruct (a := 0) [.mcc, .mnc, .keyIdentifier, .carrierKey]
        ([Field.mnc, .mcc, .keyIdentifier, .carrierKey].zip (ps ++ [some h.next])) (by decide)
        (by rw [List.map_fst_zip (by simp [hps])]; decide)
      rw [List.map_snd_zip (by simp [hps])] at hfree
      refine wp_mono (wp_CALL_ONREQUEST (f := .freeSetCarrierImsiEncryption) (by decide) hfree (hat.gives.perm ?_))
        (fun _ _ hends => ⟨hends, fun _ => hnew.symm.trans hgives⟩) fun _ _ => False.elim
      rw [List.reduceOption_append]
      exact (List.perm_append_singleton 0 (h.next :: ps.reduceOption)).trans
        ((List.perm_append_singleton h.next ps.reduceOption).symm.cons 0)
    · intro hkey
      exact absurd ((hkey hall).symm.trans (hnew.symm.trans hnot)) (by decide)
  · rw [if_neg Bool.false_ne_true, wp_bind]
    obtain ⟨i, hi, hnot⟩ := hsome
    refine wp_freeAll hat fun h' hat' => wp_mono (settles_free hat') (fun _ _ hsettled => ?_) fun _ _ => False.elim
    exact ⟨settled_iff.mp hsettled, fun hall => absurd (hall i hi) (Bool.eq_false_iff.mp hnot)⟩

theorem settles_dispatchImsCdmaSms {message : ImsSmsMessage} :
    Settles (dispatchImsCdmaSms r message) (.start allocates) :=
  settles_allocated (at_start _) fun a h hat _ _ => settles_checked (f := .freeSendImsSms) (by decide) rfl hat

/-- An SMS that is passed on stays. -/
theorem settles_imsGsm_iff {tech : RIL_RadioTechnologyFamily} {m : GsmSmsMessage} {cdmaMessage : Nat} :
    Settles (dispatchImsGsmSms r ⟨tech, [m], cdmaMessage⟩) (.start allocates) ↔
      ∃ i < needed false [m.smscPdu, m.pdu] + 2, allocates i = false := by
  rw [Nat.exists_lt_succ_left, Nat.exists_lt_succ_left]
  refine settles_allocated_iff.trans ?_
  rw [← Bool.not_eq_true, ← imp_iff_not_or]
  refine imp_congr_right fun _ => ?_
  refine wp_iff_of_wp (E := fun _ _ => False)
    (Q := fun _ h => Settled h ∧ (allocates 1 = false ∨
        ∃ i < needed false [m.smscPdu, m.pdu], allocates (i + 2) = false) ∨
      ¬ Settled h ∧ ¬ (allocates 1 = false ∨ ∃ i < needed false [m.smscPdu, m.pdu], allocates (i + 2) = false))
    ?_ (fun _ _ => iff_iff_and_or_not_and_not.mpr) fun _ _ => False.elim
  simp only [wp_bind, wp_calloc, wp_sendErrorResponse]
  refine ⟨fun hgives => ?_, fun hnot => ?_⟩
  · refine wp_copyTexts (l := [1, 0]) at_given.gives (fun ps h _ hat hall _ => ?_) fun ps h _ hat hsome => ?_
    · rw [if_pos rfl]
      have hleaves : Leaves (freeBlock (.imsGsm 0 1 ps)) (ps.reduceOption ++ [1, 0]) (1 :: ps.reduceOption) := by
        intro es h hat
        refine wp_free (p := some 0) (hat.perm ?_) fun _ => id
        have hcomm : (ps.reduceOption ++ [1, 0]).Perm ([1, 0] ++ ps.reduceOption) := List.perm_append_comm
        exact hcomm.trans (List.Perm.swap _ _ _)
      refine wp_mono (wp_CALL_ONREQUEST (f := .freeSendImsSms) (by decide) hleaves hat) (fun _ _ hends => ?_)
        fun _ _ => False.elim
      refine .inr ⟨not_settled_of_ends hends, ?_⟩
      rintro (hnot | ⟨i, hi, hnot⟩)
      · exact absurd (hgives.symm.trans hnot) (by decide)
      · exact absurd ((hall i hi).symm.trans hnot) (by decide)
    · rw [if_neg Bool.false_ne_true, wp_bind]
      refine wp_freeAll hat fun h' hat' => wp_mono (settles_freeAll hat') (fun _ _ hsettled => ?_) fun _ _ => False.elim
      exact .inl ⟨hsettled, .inr hsome⟩
  · exact wp_mono (settles_free at_given.asks.note) (fun _ _ hsettled => .inl ⟨hsettled, .inl hnot⟩)
      fun _ _ => False.elim

theorem settles_dispatchImsGsmSms_iff {message : ImsSmsMessage} :
    Settles (dispatchImsGsmSms r message) (.start allocates) ↔
      ∀ m, message.gsmMessage = [m] → ∃ i < needed false [m.smscPdu, m.pdu] + 2, allocates i = false := by
  have hinvalid : ∀ a h', At [a] [] h' → Settles (do
      sendErrorResponse .INVALID_ARGUMENTS
      free (some a)) h' := by
    intro a h' hat
    unfold Settles
    rw [wp_bind, wp_sendErrorResponse]
    exact settles_free hat.note
  obtain ⟨tech, gsmMessage, cdmaMessage⟩ := message
  match gsmMessage with
  | [] => exact iff_of_true (settles_allocated (at_start _) fun a h hat _ _ => hinvalid a h hat) (by simp)
  | _ :: _ :: _ => exact iff_of_true (settles_allocated (at_start _) fun a h hat _ _ => hinvalid a h hat) (by simp)
  | [m] => simpa using settles_imsGsm_iff

/-! ## Every request -/

def Dispatcher.free : Dispatcher → Free
  | .Void => .freeVoid
  | .String => .freeString
  | .Strings => .freeStrings
  | .Ints => .freeInts
  | .CallForwardStatus => .freeCallForwardStatus
  | .Raw => .freeRaw
  | .IccApdu => .freeIccApdu

def dispatchers : List Dispatcher := [.Void, .String, .Strings, .Ints, .CallForwardStatus, .Raw, .IccApdu]

/-- One request is not freed with the function that fits it. -/
theorem memoryManager_requests : ∀ d ∈ dispatchers, ∀ request ∈ d.requests,
    request ≠ RIL_EXT_REQUEST_GET_SIMLOCK_REMAIN_TIMES → memoryManager request = some (some d.free) := by
  decide +kernel

theorem memoryManager_offered {d : Dispatcher} (o : Offered d)
    (hne : o.request ≠ RIL_EXT_REQUEST_GET_SIMLOCK_REMAIN_TIMES) : memoryManager o.request = some (some d.free) := by
  refine memoryManager_requests d ?_ o.request o.offered hne
  cases d <;> decide

theorem remain_times_notMem : ∀ d ∈ dispatchers, d ≠ .Ints →
    RIL_EXT_REQUEST_GET_SIMLOCK_REMAIN_TIMES ∉ d.requests := by
  decide +kernel

theorem memoryManager_offered_of_ne {d : Dispatcher} (o : Offered d) (hd : d ≠ .Ints) :
    memoryManager o.request = some (some d.free) := by
  apply memoryManager_offered
  intro heq
  refine remain_times_notMem d ?_ hd (heq ▸ o.offered)
  cases d <;> decide

/-- When a call frees what it allocates. -/
def Sound (m : Method) (allocates : Nat → Bool) : Prop :=
  match m with
  | .dispatchInts o => o.request = RIL_EXT_REQUEST_GET_SIMLOCK_REMAIN_TIMES → allocates 0 = false
  | .setInitialAttachApn _ _ => allocates 0 = true → allocates 1 = true
  | .setGsmBroadcastConfig num => allocates 0 = true → ∀ i < num, allocates (i + 1) = true
  | .setCdmaBroadcastConfig num => allocates 0 = true → ∀ i < num, allocates (i + 1) = true
  | .setDataProfile profiles _ => profiles = [] → allocates 0 = true → allocates 1 = false
  | .setCarrierInfoForImsiEncryption mnc mcc keyIdentifier =>
    allocates 0 = true → (∀ i < needed false [mnc, mcc, keyIdentifier], allocates (i + 1) = true) →
      allocates (needed false [mnc, mcc, keyIdentifier] + 1) = true
  | .sendImsSms message =>
    message.tech = .RADIO_TECH_3GPP → ∀ m, message.gsmMessage = [m] →
      ∃ i < needed false [m.smscPdu, m.pdu] + 2, allocates i = false
  | _ => True

end UniRil.Libril.RequestMemory
