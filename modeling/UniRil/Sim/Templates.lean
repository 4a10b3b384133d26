import UniRil.Sim.Fcp

/-!
# Templates of a USIM

A template as its objects: 62 and its length, the file descriptor, the file size and others.
-/

namespace UniRil.Sim.Fcp

open Flows
open AtTok (Line)

variable {ε : Type} {byteUSIM : Nat → Byte} {data : List Byte}

/-! ## Templates -/

structure Tlv where
  tag : Byte
  value : List Byte
  short : value.length < 256

def Tlv.bytes (tlv : Tlv) : List Byte := tlv.tag :: UInt8.ofNat tlv.value.length :: tlv.value

inductive FileStructure
  | transparent
  | linearFixed
  | cyclic
  deriving DecidableEq

/-- The last three bits of the file descriptor. -/
def FileStructure.fileType : FileStructure → Byte
  | .transparent => 0x01
  | .linearFixed => 0x02
  | .cyclic => 0x06

/-- The structure in the answer of a SIM. -/
def FileStructure.code : FileStructure → Byte
  | .transparent => 0
  | .linearFixed => 1
  | .cyclic => 3

/-- 62 L, the file descriptor with r1, r2 and n if they are there, and the other objects. -/
structure Template where
  L : Byte
  file : FileStructure
  d1 : Byte
  d2 : Byte
  record : Option (Byte × Byte × Byte)
  before : List Tlv
  s1 : Byte
  s2 : Byte
  after : List Tlv
  fileType : d1 &&& 0x07 = file.fileType
  recordLength : file ≠ .transparent → ∃ r2 n, record = some (0, r2, n)
  sizeOnce : ∀ tlv ∈ before ++ after, tlv.tag ≠ 0x80

def Template.descriptor (t : Template) : Tlv where
  tag := 0x82
  value := t.record.elim [t.d1, t.d2] fun r => [t.d1, t.d2, r.1, r.2.1, r.2.2]
  short := by cases t.record <;> simp

def Template.bytes (t : Template) : List Byte :=
  0x62 :: t.L ::
    ((t.descriptor :: t.before).flatMap Tlv.bytes ++ 0x80 :: 2 :: t.s1 :: t.s2 :: t.after.flatMap Tlv.bytes)

def Template.recordByte (t : Template) : Byte := if t.file = .transparent then 0 else t.record.elim 0 fun r => r.2.1

/-- The TLVs before the tag 80 are stepped over. -/
theorem finds_findSize_tlvs (hmem : Holds byteUSIM data) (before : List Tlv) (hbefore : ∀ tlv ∈ before, tlv.tag ≠ 0x80)
    (rest : List Byte) (fuel i : Nat) (hdata : data.drop i = before.flatMap Tlv.bytes ++ 0x80 :: rest)
    (hfuel : before.length < fuel) (a : Accesses) :
    ∃ places, Finds (findSize byteUSIM data.length fuel i : Flow Accesses ε Nat) a
      (i + (before.flatMap Tlv.bytes).length) places ∧ ∀ p ∈ places, p < data.length := by
  induction before generalizing i fuel a with
  | nil =>
    obtain ⟨fuel, rfl⟩ := Nat.exists_eq_succ_of_ne_zero (show fuel ≠ 0 by omega)
    have hlt : i < data.length := by
      have := congrArg List.length hdata
      simp at this
      omega
    have htag : byteUSIM i = 0x80 := by
      rw [hmem i hlt, List.getD_eq_getElem?_getD, ← List.head?_drop, hdata]
      rfl
    refine ⟨[i], fun Q E => ?_, by simpa using hlt⟩
    simp [findSize, hlt, htag]
  | cons tlv before ih =>
    obtain ⟨fuel, rfl⟩ := Nat.exists_eq_succ_of_ne_zero (show fuel ≠ 0 by omega)
    rw [List.flatMap_cons, List.append_assoc] at hdata
    have hlength : i + 2 + tlv.value.length < data.length := by
      have := congrArg List.length hdata
      simp [Tlv.bytes] at this
      omega
    have htag : byteUSIM i = tlv.tag := by
      rw [hmem i (by omega), List.getD_eq_getElem?_getD, ← List.head?_drop, hdata]
      rfl
    have hsize : byteUSIM (i + 1) = UInt8.ofNat tlv.value.length := by
      rw [hmem (i + 1) (by omega), List.getD_eq_getElem?_getD, ← List.head?_drop, ← List.drop_drop, hdata]
      rfl
    have hnat : (UInt8.ofNat tlv.value.length).toNat = tlv.value.length := UInt8.toNat_ofNat_of_lt' tlv.short
    have hnext : data.drop (i + tlv.value.length + 2) = before.flatMap Tlv.bytes ++ 0x80 :: rest := by
      have hbytes : tlv.value.length + 2 = tlv.bytes.length := by simp [Tlv.bytes]
      rw [Nat.add_assoc, hbytes, ← List.drop_drop, hdata, List.drop_left]
    obtain ⟨places, hfinds, hplaces⟩ := ih (fun u hu => hbefore u (List.mem_cons_of_mem tlv hu)) fuel _ hnext
      (by simpa using hfuel) (a.read [i, i + 1])
    refine ⟨i :: (i + 1) :: places, fun Q E => ?_, ?_⟩
    · have hlt : i < data.length := by omega
      have hindex : i + ((tlv :: before).flatMap Tlv.bytes).length =
          i + tlv.value.length + 2 + (before.flatMap Tlv.bytes).length := by
        simp [Tlv.bytes]
        omega
      rw [hindex]
      simp only [findSize, hlt, if_true, wp_bind, wp_readByte, htag, hbefore tlv List.mem_cons_self, if_false, hsize,
        hnat, read_read, List.cons_append, List.nil_append]
      rw [hfinds, read_read]
      rfl
    · intro p hp
      rcases List.mem_cons.1 hp with rfl | hp
      · omega
      · rcases List.mem_cons.1 hp with rfl | hp
        · omega
        · exact hplaces p hp

theorem length_le_bytes (tlvs : List Tlv) : tlvs.length ≤ (tlvs.flatMap Tlv.bytes).length := by
  induction tlvs with
  | nil => exact le_refl 0
  | cons tlv tlvs ih =>
    simp only [List.flatMap_cons, List.length_cons, List.length_append, Tlv.bytes]
    omega

/-- The place of the tag 80. -/
def Template.sizeAt (t : Template) : Nat := 2 + ((t.descriptor :: t.before).flatMap Tlv.bytes).length

theorem Template.drop_sizeAt (t : Template) :
    t.bytes.drop t.sizeAt = 0x80 :: 2 :: t.s1 :: t.s2 :: t.after.flatMap Tlv.bytes := by
  rw [Template.sizeAt, ← List.drop_drop]
  exact List.drop_left

theorem Template.sizeAt_lt (t : Template) : t.sizeAt + 3 < t.bytes.length := by
  have := congrArg List.length t.drop_sizeAt
  simp at this
  omega

theorem Template.getD_sizeAt (t : Template) (k : Nat) :
    t.bytes.getD (t.sizeAt + k) 0 = (0x80 :: 2 :: t.s1 :: t.s2 :: t.after.flatMap Tlv.bytes).getD k 0 := by
  rw [← t.drop_sizeAt]
  simp [List.getD_eq_getElem?_getD]

theorem Template.four_lt (t : Template) : 4 < t.bytes.length := by
  have := t.sizeAt_lt
  rw [Template.sizeAt] at this
  simp [Template.descriptor, Tlv.bytes] at this
  omega

/-- A file with records has the length of one at the places 6 and 7. -/
theorem Template.record_bytes (t : Template) (h : t.file ≠ .transparent) :
    7 < t.bytes.length ∧ t.bytes.getD 2 0 = 0x82 ∧ t.bytes.getD 3 0 = 5 ∧ t.bytes.getD 7 0 = t.recordByte := by
  obtain ⟨r2, n, hrecord⟩ := t.recordLength h
  have := t.sizeAt_lt
  rw [Template.sizeAt] at this
  simp [Template.descriptor, Tlv.bytes, hrecord] at this
  refine ⟨by omega, ?_, ?_, ?_⟩
  · simp [Template.bytes, Template.descriptor, Tlv.bytes]
  · simp [Template.bytes, Template.descriptor, Tlv.bytes, hrecord]
  · simp [Template.bytes, Template.descriptor, Tlv.bytes, Template.recordByte, hrecord, h]

/-- **A template is translated field by field, and read inside only.** -/
theorem convertUsimToSim_template (t : Template) (byteUSIM : Nat → Byte) (hmem : Holds byteUSIM t.bytes)
    (hL : t.L ≠ 0x82) :
    wp (convertUsimToSim byteUSIM t.bytes.length : Flow Accesses Empty (Option Line))
      (fun hexUSIM a =>
        hexUSIM = some (convertBinToHex
          [0, 0, t.s1, t.s2, 0, 0, 4, 0, 0, 0, 0, 0, 0, t.file.code, t.recordByte]) ∧
        ∀ i ∈ a.reads, i < t.bytes.length)
      (fun _ _ => False) ⟨[], []⟩ := by
  obtain ⟨places, hfinds, hplaces⟩ := finds_findDescriptor (ε := Empty) hmem t.bytes.length 0 (by omega) ⟨[], []⟩
  have hdes : ((t.bytes.drop 0).idxOf? 0x82).elim 0 (fun k => 0 + k) = 2 := by
    rw [List.drop_zero, Template.bytes]
    simp [List.idxOf?_cons, hL, Template.descriptor, Tlv.bytes]
  rw [hdes] at hfinds
  have hlt := t.sizeAt_lt
  have hsteps : ∀ tlv ∈ t.descriptor :: t.before, tlv.tag ≠ 0x80 := by
    intro tlv htlv
    rcases List.mem_cons.1 htlv with rfl | htlv
    · exact (by decide : (0x82 : Byte) ≠ 0x80)
    · exact t.sizeOnce tlv (List.mem_append_left _ htlv)
  have hfuel : (t.descriptor :: t.before).length < t.bytes.length + 1 := by
    have := length_le_bytes (t.descriptor :: t.before)
    rw [Template.sizeAt] at hlt
    omega
  obtain ⟨places', hfinds', hplaces'⟩ :=
    finds_findSize_tlvs (ε := Empty) hmem (t.descriptor :: t.before) hsteps
      (2 :: t.s1 :: t.s2 :: t.after.flatMap Tlv.bytes) (t.bytes.length + 1) 2 rfl hfuel (Accesses.read ⟨[], []⟩ places)
  rw [convertUsimToSim, wp_bind, hfinds, wp_bind, hfinds', show 2 + _ = t.sizeAt from rfl]
  have hs1 : byteUSIM (t.sizeAt + 2) = t.s1 := by
    rw [hmem _ (by omega), t.getD_sizeAt]
    rfl
  have hs2 : byteUSIM (t.sizeAt + 3) = t.s2 := by
    rw [hmem _ (by omega), t.getD_sizeAt]
    rfl
  have hd1 : byteUSIM 4 = t.d1 := by
    rw [hmem _ t.four_lt]
    cases hrecord : t.record <;> simp [Template.bytes, Template.descriptor, Tlv.bytes, hrecord]
  have hreads : ∀ i ∈ (((((Accesses.read ⟨[], []⟩ places).read places').read [t.sizeAt + 2]).read [t.sizeAt + 3]).read
      [4]).reads, i < t.bytes.length := by
    intro i hi
    simp only [read_read, reads_read, List.nil_append, List.mem_append, List.mem_singleton, or_assoc] at hi
    rcases hi with hi | hi | rfl | rfl | rfl
    · exact hplaces i hi
    · exact hplaces' i hi
    · omega
    · omega
    · exact t.four_lt
  simp only [wp_bind, wp_readByte, hs1, hs2, hd1, t.fileType, wp_ite]
  generalize ((((Accesses.read ⟨[], []⟩ places).read places').read [t.sizeAt + 2]).read [t.sizeAt + 3]).read [4] = a
    at hreads
  cases hfile : t.file with
  | transparent =>
    simp [FileStructure.fileType, FileStructure.code, Template.recordByte, byteSIM, hfile]
    exact hreads
  | linearFixed =>
    obtain ⟨h7, h2, h3, hrecord⟩ := t.record_bytes (by rw [hfile]; decide)
    rw [← hmem 2 (by omega)] at h2
    rw [← hmem 3 (by omega)] at h3
    rw [← hmem 7 h7] at hrecord
    simp [FileStructure.fileType, FileStructure.code, byteSIM, readLinearFixed, readRecordLength, hrecord, h2, h3]
    rintro i (hi | rfl | rfl | rfl | rfl)
    · exact hreads i hi
    all_goals omega
  | cyclic =>
    obtain ⟨h7, -, -, hrecord⟩ := t.record_bytes (by rw [hfile]; decide)
    rw [← hmem 7 h7] at hrecord
    simp [FileStructure.fileType, FileStructure.code, byteSIM, readRecordLength, hrecord]
    rintro i (hi | rfl | rfl)
    · exact hreads i hi
    all_goals omega

/-- EF with 256 bytes. -/
def shortTemplate : Template where
  L := 13
  file := .transparent
  d1 := 0x41
  d2 := 0x21
  record := none
  before := [⟨0x83, [0x6f, 0x07], by decide⟩]
  s1 := 1
  s2 := 0
  after := [⟨0x88, [], by decide⟩]
  fileType := rfl
  recordLength := by simp
  sizeOnce := by decide

theorem convertUsimToSim_template_transparent :
    wp (convertUsimToSim (fun i => shortTemplate.bytes.getD i 0) shortTemplate.bytes.length :
        Flow Accesses Empty (Option Line))
      (fun hexUSIM a =>
        hexUSIM = some (convertBinToHex
          [0, 0, shortTemplate.s1, shortTemplate.s2, 0, 0, 4, 0, 0, 0, 0, 0, 0, shortTemplate.file.code,
            shortTemplate.recordByte]) ∧
        ∀ i ∈ a.reads, i < shortTemplate.bytes.length)
      (fun _ _ => False) ⟨[], []⟩ :=
  convertUsimToSim_template shortTemplate (fun i => shortTemplate.bytes.getD i 0) (fun _ _ => rfl) (by decide)

/-- The same with 130 bytes behind L. -/
def longTemplate : Template where
  L := 0x82
  file := .transparent
  d1 := 0x41
  d2 := 0x21
  record := none
  before := [⟨0xa5, List.replicate 120 0, by decide⟩]
  s1 := 1
  s2 := 0
  after := []
  fileType := rfl
  recordLength := by simp
  sizeOnce := by simp

theorem not_translated {data : List Byte} {text : Line} {P : Accesses → Prop} {a : Accesses}
    (hnone : Sim.convertUsimToSim data = none) :
    ¬ wp (convertUsimToSim (fun i => data.getD i 0) data.length : Flow Accesses ε (Option Line))
        (fun hexUSIM a => hexUSIM = some text ∧ P a) (fun _ _ => False) a := by
  intro h
  rcases exists_of_wp h with ⟨hexUSIM, b, hrun, rfl, -⟩ | ⟨_, _, _, h⟩
  · have heq := (wp_of_ok hrun).1 (convertUsimToSim_eq data a)
    rw [hnone] at heq
    cases heq
  · exact h

/-- The length is taken for the tag of the file descriptor. -/
theorem template_fails_length_82 :
    longTemplate.L.toNat + 2 = longTemplate.bytes.length ∧
      ¬ wp (convertUsimToSim (fun i => longTemplate.bytes.getD i 0) longTemplate.bytes.length :
            Flow Accesses Empty (Option Line))
          (fun hexUSIM a =>
            hexUSIM = some (convertBinToHex
              [0, 0, longTemplate.s1, longTemplate.s2, 0, 0, 4, 0, 0, 0, 0, 0, 0, longTemplate.file.code,
                longTemplate.recordByte]) ∧
            ∀ i ∈ a.reads, i < longTemplate.bytes.length)
          (fun _ _ => False) ⟨[], []⟩ := by
  have hlength : longTemplate.L.toNat + 2 = longTemplate.bytes.length := by decide +kernel
  have hnone : Sim.convertUsimToSim longTemplate.bytes = none := by decide
  exact ⟨hlength, not_translated hnone⟩

end UniRil.Sim.Fcp
