import UniRil.Sim.Requests

/-!
# File information of a USIM (ril_sim.c)

convertUsimToSim with each byte it reads, and what readSimRecord stores over the text of the card.
-/

namespace UniRil.Sim.Fcp

open Flows
open AtTok (Line)

variable {ε : Type}

/-! ## Memory -/

/-- The places of the decoded data that were read, and the places of `simResponse` that were stored to. -/
structure Accesses where
  reads : List Nat
  writes : List Nat

def Accesses.read (a : Accesses) (places : List Nat) : Accesses := { a with reads := a.reads ++ places }

def Accesses.write (a : Accesses) (n : Nat) : Accesses := { a with writes := a.writes ++ List.range n }

/-- `byteUSIM[i]` -/
def readByte (byteUSIM : Nat → Byte) (i : Nat) : Flow Accesses ε Byte := do
  modify fun a => a.read [i]
  pure (byteUSIM i)

/-- A store to the first bytes of `simResponse`. -/
def writeBytes (n : Nat) : Flow Accesses ε Unit := modify fun a => a.write n

/-! ## convertUsimToSim -/

/-- The first loop, with `n` places left. -/
def findDescriptor (byteUSIM : Nat → Byte) : Nat → Nat → Flow Accesses ε Nat
  | 0, _ => pure 0
  | n + 1, i => do
    let tag ← readByte byteUSIM i
    if tag = 0x82 then pure i else findDescriptor byteUSIM n (i + 1)

/-- The second loop. -/
def findSize (byteUSIM : Nat → Byte) (len : Nat) : Nat → Nat → Flow Accesses ε Nat
  | 0, _ => pure 0
  | fuel + 1, i =>
    if i < len then do
      let tag ← readByte byteUSIM i
      if tag = 0x80 then pure i
      else do
        let length ← readByte byteUSIM (i + 1)
        findSize byteUSIM len fuel (i + length.toNat + 2)
    else pure 0

/-- The answer of a SIM. -/
def byteSIM (size1 size2 fileStructure recordLength : Byte) : List Byte :=
  [0, 0, size1, size2, 0, 0, 4, 0, 0, 0, 0, 0, 0] ++ [fileStructure, recordLength]

/-- The byte that is stored loses the high one. -/
def readRecordLength (byteUSIM : Nat → Byte) : Flow Accesses ε Byte := do
  let _ ← readByte byteUSIM 6
  readByte byteUSIM 7

/-- The record length of a linear fixed file, or the jump to `error`. -/
def readLinearFixed (byteUSIM : Nat → Byte) : Flow Accesses ε (Option Byte) := do
  let tag ← readByte byteUSIM 2
  if tag ≠ 0x82 then pure none
  else do
    let length ← readByte byteUSIM 3
    if length ≠ 5 then pure none
    else do
      let recordLength ← readRecordLength byteUSIM
      pure (some recordLength)

/-- `none` where the source returns NULL. Each test of the file type reads the same byte again. -/
def convertUsimToSim (byteUSIM : Nat → Byte) (len : Nat) : Flow Accesses ε (Option Line) := do
  let desIndex ← findDescriptor byteUSIM len 0
  let sizeIndex ← findSize byteUSIM len (len + 1) desIndex
  let size1 ← readByte byteUSIM (sizeIndex + 2)
  let size2 ← readByte byteUSIM (sizeIndex + 3)
  let descriptor ← readByte byteUSIM (desIndex + 2)
  if descriptor &&& 0x07 = 0x01 then
    pure (some (convertBinToHex (byteSIM size1 size2 0 0)))
  else if descriptor &&& 0x07 = 0x02 then do
    let recordLength ← readLinearFixed byteUSIM
    pure (recordLength.map fun l => convertBinToHex (byteSIM size1 size2 1 l))
  else if descriptor &&& 0x07 = 0x06 then do
    let recordLength ← readRecordLength byteUSIM
    pure (some (convertBinToHex (byteSIM size1 size2 3 recordLength)))
  else
    pure (some (convertBinToHex (byteSIM size1 size2 0 0)))

/-! ## readSimRecord -/

/-- The memory from `byteUSIM` on: the bytes, zeros up to the place `usimLen`, and what lies behind. -/
def decoded (beyond : Nat → Byte) (data : List Byte) (usimLen i : Nat) : Byte :=
  if i ≤ usimLen then data.getD i 0 else beyond i

/-- `none` is the jump to `error`. -/
def simFormat (beyond : Nat → Byte) (simResponse : Line) : Flow Accesses ε (Option Line) := do
  let usimLen := simResponse.length / 2
  let byteUSIM := decoded beyond (convertHexToBin simResponse).2 usimLen
  let flag ← readByte byteUSIM 0
  if flag ≠ TYPE_FCP then pure none
  else do
    let hexUSIM ← convertUsimToSim byteUSIM usimLen
    hexUSIM.elim (pure (some simResponse)) fun hexUSIM => do
      -- memset, then strncpy
      writeBytes (usimLen * 2)
      writeBytes (RESPONSE_EF_SIZE * 2)
      pure (some hexUSIM)

/-- The text of the card is translated where it answers GET RESPONSE of a USIM. `none` is the jump to `error`. -/
def translateResponse (beyond : Nat → Byte) (g : Slot) (p_args : RIL_SIM_IO_v6) (sr : RIL_SIM_IO_Response) :
    Flow Accesses ε (Option RIL_SIM_IO_Response) :=
  if g.s_appType = .USIM ∧ p_args.command = COMMAND_GET_RESPONSE then
    sr.simResponse.elim (pure (some sr)) fun simResponse => do
      let translated ← simFormat beyond simResponse
      pure (translated.map fun text => { sr with simResponse := some text })
  else pure (some sr)

/-! ## What is read -/

variable {byteUSIM : Nat → Byte} {data : List Byte}

section

variable {E : Exit ε → Accesses → Prop} {a : Accesses}

@[simp ↓] theorem wp_readByte {Q : Byte → Accesses → Prop} (i : Nat) :
    wp (readByte byteUSIM i) Q E a ↔ Q (byteUSIM i) (a.read [i]) := Iff.rfl

@[simp ↓] theorem wp_writeBytes {Q : Unit → Accesses → Prop} (n : Nat) :
    wp (writeBytes n) Q E a ↔ Q () (a.write n) := Iff.rfl

@[simp] theorem read_read (places places' : List Nat) : (a.read places).read places' = a.read (places ++ places') := by
  simp [Accesses.read]

@[simp] theorem read_nil : a.read [] = a := by simp [Accesses.read]

@[simp] theorem writes_read (places : List Nat) : (a.read places).writes = a.writes := rfl

@[simp] theorem reads_read (places : List Nat) : (a.read places).reads = a.reads ++ places := rfl

end

/-! ## The loops -/

/-- The memory holds the bytes. -/
def Holds (byteUSIM : Nat → Byte) (data : List Byte) : Prop := ∀ i < data.length, byteUSIM i = data.getD i 0

/-- What a loop finds, and where it reads. -/
def Finds (m : Flow Accesses ε Nat) (a : Accesses) (index : Nat) (places : List Nat) : Prop :=
  ∀ Q E, wp m Q E a ↔ Q index (a.read places)

theorem finds_findDescriptor (hmem : Holds byteUSIM data) (n i : Nat) (h : i + n = data.length) (a : Accesses) :
    ∃ places, Finds (findDescriptor byteUSIM n i : Flow Accesses ε Nat) a
        (((data.drop i).idxOf? 0x82).elim 0 fun k => i + k) places ∧ ∀ p ∈ places, p < data.length := by
  induction n generalizing i a with
  | zero =>
    have hdrop : data.drop i = [] := List.drop_eq_nil_of_le (by omega)
    refine ⟨[], ?_, by simp⟩
    intro Q E
    simp [findDescriptor, hdrop]
  | succ n ih =>
    have hlt : i < data.length := by omega
    have hcell : byteUSIM i = data[i] := by rw [hmem i hlt]; simp [hlt]
    rw [List.drop_eq_getElem_cons hlt]
    by_cases htag : data[i] = 0x82
    · refine ⟨[i], ?_, by simpa using hlt⟩
      intro Q E
      simp [findDescriptor, hcell, htag, List.idxOf?_cons]
    · obtain ⟨places, hfinds, hplaces⟩ := ih (i + 1) (by omega) (a.read [i])
      refine ⟨i :: places, ?_, ?_⟩
      · intro Q E
        have hstep : wp (findDescriptor byteUSIM (n + 1) i : Flow Accesses ε Nat) Q E a ↔
            wp (findDescriptor byteUSIM n (i + 1)) Q E (a.read [i]) := by
          simp [findDescriptor, hcell, htag]
        have hindex : ((data[i] :: data.drop (i + 1)).idxOf? 0x82).elim 0 (fun k => i + k) =
            ((data.drop (i + 1)).idxOf? 0x82).elim 0 fun k => i + 1 + k := by
          rw [List.idxOf?_cons, if_neg (by simpa using htag)]
          cases (data.drop (i + 1)).idxOf? 0x82 with
          | none => rfl
          | some k => simp; omega
        rw [hstep, hfinds, hindex, read_read]
        rfl
      · intro p hp
        rcases List.mem_cons.1 hp with rfl | hp
        · exact hlt
        · exact hplaces p hp

theorem finds_findSize (hmem : Holds byteUSIM data) (hend : byteUSIM data.length = 0) (fuel i : Nat) (a : Accesses) :
    ∃ places, Finds (findSize byteUSIM data.length fuel i : Flow Accesses ε Nat) a (sizeIndexFrom data fuel i) places ∧
      ∀ p ∈ places, p ≤ data.length := by
  induction fuel generalizing i a with
  | zero => exact ⟨[], fun Q E => by simp [findSize, sizeIndexFrom], by simp⟩
  | succ fuel ih =>
    by_cases hlt : i < data.length
    · have htag := hmem i hlt
      have hlength : byteUSIM (i + 1) = data.getD (i + 1) 0 := by
        rcases Nat.lt_or_eq_of_le hlt with hin | hlast
        · exact hmem (i + 1) hin
        · rw [show i + 1 = data.length from hlast, hend]
          simp
      by_cases hsize : data.getD i 0 = 0x80
      · refine ⟨[i], fun Q E => ?_, by simpa using hlt.le⟩
        simp only [findSize, sizeIndexFrom, hlt, if_true, wp_bind, wp_readByte, htag, hsize, wp_pure]
      · obtain ⟨places, hfinds, hplaces⟩ := ih (i + (data.getD (i + 1) 0).toNat + 2) (a.read [i, i + 1])
        refine ⟨i :: (i + 1) :: places, fun Q E => ?_, ?_⟩
        · simp only [findSize, sizeIndexFrom, hlt, if_true, wp_bind, wp_readByte, htag, hsize, if_false, hlength,
            read_read, List.cons_append, List.nil_append]
          rw [hfinds, read_read]
          rfl
        · intro p hp
          rcases List.mem_cons.1 hp with rfl | hp
          · exact hlt.le
          · rcases List.mem_cons.1 hp with rfl | hp
            · exact hlt
            · exact hplaces p hp
    · exact ⟨[], fun Q E => by simp [findSize, sizeIndexFrom, hlt], by simp⟩

/-! ## Where the size is found -/

/-- From the place `i` on, going from tag to tag, the tag 80 is found at `j`. -/
inductive SizeTagAt (data : List Byte) : Nat → Nat → Prop
  | here {i : Nat} (hlt : i < data.length) (htag : data.getD i 0 = 0x80) : SizeTagAt data i i
  | next {i j : Nat} (hlt : i < data.length) (htag : data.getD i 0 ≠ 0x80)
      (h : SizeTagAt data (i + (data.getD (i + 1) 0).toNat + 2) j) : SizeTagAt data i j

theorem sizeIndexFrom_of_tag {i j : Nat} (h : SizeTagAt data i j) (fuel : Nat) (hfuel : data.length < i + fuel) :
    sizeIndexFrom data fuel i = j := by
  induction h generalizing fuel with
  | @here i hlt htag =>
    obtain ⟨fuel, rfl⟩ := Nat.exists_eq_succ_of_ne_zero (show fuel ≠ 0 by omega)
    rw [sizeIndexFrom, if_pos hlt, if_pos htag]
  | @next i j hlt htag _ ih =>
    obtain ⟨fuel, rfl⟩ := Nat.exists_eq_succ_of_ne_zero (show fuel ≠ 0 by omega)
    rw [sizeIndexFrom, if_pos hlt, if_neg htag]
    exact ih fuel (by omega)

theorem sizeIndexFrom_of_none {i : Nat} (h : ∀ j, ¬ SizeTagAt data i j) (fuel : Nat) :
    sizeIndexFrom data fuel i = 0 := by
  induction fuel generalizing i with
  | zero => rfl
  | succ fuel ih =>
    rw [sizeIndexFrom]
    split
    · next hlt =>
      by_cases htag : data.getD i 0 = 0x80
      · exact (h i (.here hlt htag)).elim
      · rw [if_neg htag]
        exact ih fun j hj => h j (.next hlt htag hj)
    · rfl

/-- The place of the first byte 82, or 0. -/
def descriptorAt (data : List Byte) : Nat := (data.idxOf? 0x82).getD 0

theorem descriptorAt_eq (data : List Byte) :
    ((data.drop 0).idxOf? 0x82).elim 0 (fun k => 0 + k) = descriptorAt data := by
  rw [List.drop_zero, descriptorAt]
  cases data.idxOf? 0x82 with
  | none => rfl
  | some k => exact Nat.zero_add k

theorem sizeIndex_fits_iff {i fuel : Nat} (hfuel : data.length < i + fuel) :
    sizeIndexFrom data fuel i + 3 ≤ data.length ↔ 3 ≤ data.length ∧ ∀ j, SizeTagAt data i j → j + 3 ≤ data.length := by
  by_cases hsome : ∃ j, SizeTagAt data i j
  · obtain ⟨j, hj⟩ := hsome
    rw [sizeIndexFrom_of_tag hj fuel hfuel]
    refine ⟨fun h => ⟨by omega, fun j' hj' => ?_⟩, fun h => h.2 j hj⟩
    rw [← sizeIndexFrom_of_tag hj' fuel hfuel, sizeIndexFrom_of_tag hj fuel hfuel]
    exact h
  · have hnone : ∀ j, ¬ SizeTagAt data i j := fun j hj => hsome ⟨j, hj⟩
    rw [sizeIndexFrom_of_none hnone, Nat.zero_add]
    exact ⟨fun h => ⟨h, fun j hj => (hnone j hj).elim⟩, fun h => h.1⟩

/-! ## The handler -/

theorem convertUsimToSim_eq (data : List Byte) (a : Accesses) :
    wp (convertUsimToSim (fun i => data.getD i 0) data.length : Flow Accesses ε (Option Line))
      (fun hexUSIM _ => hexUSIM = Sim.convertUsimToSim data) (fun _ _ => False) a := by
  have hmem : Holds (fun i => data.getD i 0) data := fun _ _ => rfl
  have hend : (fun i => data.getD i 0) data.length = 0 := by simp
  obtain ⟨places, hfinds, -⟩ := finds_findDescriptor (ε := ε) hmem data.length 0 (by omega) a
  rw [descriptorAt_eq] at hfinds
  obtain ⟨places', hfinds', -⟩ :=
    finds_findSize (ε := ε) hmem hend (data.length + 1) (descriptorAt data) (a.read places)
  rw [convertUsimToSim, wp_bind, hfinds, wp_bind, hfinds', Sim.convertUsimToSim]
  simp only [wp_bind, wp_readByte, wp_ite, wp_pure, descriptorAt]
  generalize data.getD ((data.idxOf? 0x82).getD 0 + 2) 0 &&& 0x07 = fileType
  by_cases h1 : fileType = 0x01
  · simp [h1, byteSIM]
  · by_cases h2 : fileType = 0x02
    · simp [h2, readLinearFixed, readRecordLength, byteSIM]
      tauto
    · by_cases h6 : fileType = 0x06
      · simp [h6, readRecordLength, byteSIM]
      · simp [h1, h2, h6, byteSIM]

/-- Where nothing but zeros lies behind the data, the text is the one of the handler. -/
theorem simFormat_eq (upper : Nat → Bool) (data : List Byte) (a : Accesses) :
    wp (simFormat (fun _ => 0) (hexText upper data) : Flow Accesses ε (Option Line))
      (fun text _ => text = Sim.simFormat (hexText upper data)) (fun _ _ => False) a := by
  have hlength : (hexText upper data).length / 2 = data.length := by rw [length_hexText]; omega
  have hmem : decoded (fun _ => 0) data data.length = fun i => data.getD i 0 := by
    funext i
    rw [decoded]
    split
    · rfl
    · next hout =>
      rw [List.getD_eq_getElem?_getD, List.getElem?_eq_none (by omega), Option.getD_none]
  rw [simFormat, convertHexToBin_hexText, hlength, hmem, Sim.simFormat, convertHexToBin_hexText, hlength]
  have hfirst : (data ++ [0]).getD 0 0 = data.getD 0 0 := by cases data <;> rfl
  have htake : (data ++ [0]).take data.length = data := List.take_left
  simp only [wp_bind, wp_readByte, wp_ite, wp_pure, hfirst, htake]
  refine ⟨fun hne => by rw [if_pos hne], fun hfcp => ?_⟩
  rw [if_neg hfcp]
  refine wp_mono (convertUsimToSim_eq data _) ?_ fun _ _ h => h
  rintro hexUSIM b rfl
  cases Sim.convertUsimToSim data <;> simp

/-! ## Bounds -/

/-- The reads lie inside the data and its terminator, the stores inside the text and its terminator. -/
structure Within (length size : Nat) (a : Accesses) : Prop where
  reads : ∀ i ∈ a.reads, i ≤ length
  writes : ∀ i ∈ a.writes, i ≤ size

/-- A linear fixed file whose descriptor does not stand at the place 2, or has no record length. -/
def RefusedLinear (data : List Byte) : Prop :=
  data.getD (descriptorAt data + 2) 0 &&& 0x07 = 0x02 ∧ (data.getD 2 0 ≠ 0x82 ∨ data.getD 3 0 ≠ 5)

/-- The first byte 82 is not the last one, the tag 80 that is reached from there is none of the last two, and
the data are as long as the answer of a SIM unless the file is refused. -/
structure Fits (data : List Byte) : Prop where
  descriptor : descriptorAt data + 2 ≤ data.length
  header : 3 ≤ data.length
  size : ∀ j, SizeTagAt data (descriptorAt data) j → j + 3 ≤ data.length
  answer : RefusedLinear data ∨ 15 ≤ data.length

theorem within_read {length size : Nat} {a : Accesses} (places : List Nat) :
    Within length size (a.read places) ↔ (∀ p ∈ places, p ≤ length) ∧ Within length size a := by
  constructor
  · rintro ⟨hreads, hwrites⟩
    exact ⟨fun p hp => hreads p (List.mem_append_right _ hp), fun p hp => hreads p (List.mem_append_left _ hp), hwrites⟩
  · rintro ⟨hplaces, hreads, hwrites⟩
    refine ⟨fun p hp => ?_, hwrites⟩
    rcases List.mem_append.1 hp with hp | hp
    · exact hreads p hp
    · exact hplaces p hp

theorem within_write {length size n : Nat} {a : Accesses} :
    Within length size (a.write n) ↔ n ≤ size + 1 ∧ Within length size a := by
  constructor
  · rintro ⟨hreads, hwrites⟩
    refine ⟨?_, hreads, fun p hp => hwrites p (List.mem_append_left _ hp)⟩
    rcases n with _ | n
    · omega
    · have := hwrites n (List.mem_append_right _ (List.mem_range.2 n.lt_succ_self))
      omega
  · rintro ⟨hn, hreads, hwrites⟩
    refine ⟨hreads, fun p hp => ?_⟩
    rcases List.mem_append.1 hp with hp | hp
    · exact hwrites p hp
    · have := List.mem_range.1 hp
      omega

theorem within_nothing (length size : Nat) : Within length size ⟨[], []⟩ := ⟨by simp, by simp⟩

/-- What the rest of readSimRecord stores, if there is an answer. -/
theorem within_convertUsimToSim_iff (hmem : Holds byteUSIM data) (hend : byteUSIM data.length = 0) {a : Accesses}
    (ha : Within data.length (2 * data.length) a) :
    wp (convertUsimToSim byteUSIM data.length : Flow Accesses ε (Option Line))
        (fun hexUSIM a => Within data.length (2 * data.length) a ∧ (hexUSIM ≠ none → 15 ≤ data.length))
        (fun _ _ => False) a ↔ Fits data := by
  obtain ⟨places, hfinds, hplaces⟩ := finds_findDescriptor (ε := ε) hmem data.length 0 (by omega) a
  rw [descriptorAt_eq] at hfinds
  obtain ⟨places', hfinds', hplaces'⟩ :=
    finds_findSize (ε := ε) hmem hend (data.length + 1) (descriptorAt data) (a.read places)
  have hfuel : data.length < descriptorAt data + (data.length + 1) := by omega
  have hsize := sizeIndex_fits_iff hfuel
  have hloops : Within data.length (2 * data.length) ((a.read places).read places') := by
    rw [within_read, within_read]
    exact ⟨hplaces', fun p hp => (hplaces p hp).le, ha⟩
  rw [convertUsimToSim, wp_bind, hfinds, wp_bind, hfinds']
  generalize (a.read places).read places' = b at hloops
  generalize sizeIndexFrom data (data.length + 1) (descriptorAt data) = z at hsize
  have hcell : ∀ i ≤ data.length, byteUSIM i = data.getD i 0 := by
    intro i hi
    rcases Nat.lt_or_eq_of_le hi with hlt | rfl
    · exact hmem i hlt
    · rw [hend]
      simp
  by_cases hbounds : z + 3 ≤ data.length ∧ descriptorAt data + 2 ≤ data.length
  · obtain ⟨hz, hd⟩ := hbounds
    have hfits : Fits data ↔ RefusedLinear data ∨ 15 ≤ data.length :=
      ⟨fun h => h.answer, fun h => ⟨hd, (hsize.1 hz).1, (hsize.1 hz).2, h⟩⟩
    have hz2 : z + 2 ≤ data.length := by omega
    have h2 : 2 ≤ data.length := by omega
    have h3 : 3 ≤ data.length := by omega
    rw [hfits, RefusedLinear, ← hcell _ hd, ← hcell 2 h2, ← hcell 3 h3]
    have hrecord : (6 ≤ data.length ∧ 7 ≤ data.length) ∧ 15 ≤ data.length ↔ 15 ≤ data.length := by omega
    simp [readLinearFixed, readRecordLength, within_read, hloops, hz, hz2, hd, h2, h3, hrecord]
    generalize byteUSIM (descriptorAt data + 2) &&& 7 = fileType
    by_cases hlinear : fileType = 2
    · simp [hlinear]
      tauto
    · simp [hlinear]
  · have hno : ¬ Fits data := fun h => hbounds ⟨hsize.2 ⟨h.header, h.size⟩, h.descriptor⟩
    simp only [hno, iff_false]
    simp [readLinearFixed, readRecordLength, within_read, hloops]
    generalize byteUSIM (descriptorAt data + 2) &&& 7 = fileType
    clear hsize hno
    tauto

theorem holds_decoded (beyond : Nat → Byte) (data : List Byte) : Holds (decoded beyond data data.length) data := by
  intro i hi
  rw [decoded, if_pos hi.le]

theorem decoded_length (beyond : Nat → Byte) (data : List Byte) : decoded beyond data data.length data.length = 0 := by
  rw [decoded, if_pos (le_refl _)]
  simp

theorem within_simFormat_iff (beyond : Nat → Byte) (upper : Nat → Bool) (data : List Byte) :
    wp (simFormat beyond (hexText upper data) : Flow Accesses ε (Option Line))
        (fun _ a => Within data.length (2 * data.length) a) (fun _ _ => False) ⟨[], []⟩ ↔
      (data.head? = some 0x62 → Fits data) := by
  have hlength : (hexText upper data).length / 2 = data.length := by rw [length_hexText]; omega
  have hflag : decoded beyond data data.length 0 = TYPE_FCP ↔ data.head? = some 0x62 := by
    rw [decoded, if_pos (Nat.zero_le _)]
    cases data with
    | nil => simp [TYPE_FCP]
    | cons b data => simp [TYPE_FCP]
  rw [simFormat, convertHexToBin_hexText, hlength]
  simp only [wp_bind, wp_readByte, wp_ite, wp_pure, ne_eq, hflag]
  by_cases hfcp : data.head? = some 0x62
  · have hstart : Within data.length (2 * data.length) (Accesses.read ⟨[], []⟩ [0]) :=
      (within_read _).2 ⟨by simp, within_nothing _ _⟩
    rw [← within_convertUsimToSim_iff (ε := ε) (holds_decoded beyond data) (decoded_length beyond data) hstart]
    simp only [hfcp, not_true, false_implies, true_and, not_false_iff, true_implies]
    refine wp_congr (fun hexUSIM a => ?_) fun _ _ => Iff.rfl
    cases hexUSIM with
    | none => simp
    | some hexUSIM =>
      have hwrite : data.length * 2 ≤ 2 * data.length + 1 := by omega
      have hanswer : 30 ≤ 2 * data.length + 1 ↔ 15 ≤ data.length := by omega
      simp [within_write, RESPONSE_EF_SIZE, hwrite, hanswer, and_comm]
  · simp [hfcp, within_read, within_nothing]

/-- **The accesses stay inside exactly when the template, if it is one, fits.** -/
theorem within_translateResponse_iff (beyond : Nat → Byte) (g : Slot) (p_args : RIL_SIM_IO_v6)
    (sr : RIL_SIM_IO_Response) (upper : Nat → Bool) (data : List Byte) (hcmd : p_args.command = COMMAND_GET_RESPONSE)
    (hdata : sr.simResponse = some (hexText upper data)) :
    wp (translateResponse beyond g p_args sr : Flow Accesses Empty (Option RIL_SIM_IO_Response))
        (fun _ a => Within data.length (hexText upper data).length a) (fun _ _ => False) ⟨[], []⟩ ↔
      (g.s_appType = .USIM → data.head? = some 0x62 → Fits data) := by
  rw [length_hexText, ← within_simFormat_iff (ε := Empty) beyond upper data]
  by_cases husim : g.s_appType = .USIM
  · simp [translateResponse, husim, hcmd, hdata]
  · simp [translateResponse, husim, within_nothing]

/-- GET RESPONSE for EF_IMSI. -/
def getResponse : RIL_SIM_IO_v6 where
  command := COMMAND_GET_RESPONSE
  fileid := 28423
  path := none
  p1 := 0
  p2 := 0
  p3 := 0
  data := none

/-- A template of ten bytes. -/
def tenBytes : List Byte := [0x62, 0x08, 0x82, 0x02, 0x41, 0x21, 0x80, 0x02, 0x01, 0x00]

def answerOf (data : List Byte) : RIL_SIM_IO_Response := ⟨144, 0, some (hexText (fun _ => true) data)⟩

theorem within_translateResponse_iff_ten :
    wp (translateResponse (fun _ => 0) idleSlot getResponse (answerOf tenBytes) :
          Flow Accesses Empty (Option RIL_SIM_IO_Response))
        (fun _ a => Within tenBytes.length (hexText (fun _ => true) tenBytes).length a) (fun _ _ => False) ⟨[], []⟩ ↔
      (idleSlot.s_appType = .USIM → tenBytes.head? = some 0x62 → Fits tenBytes) :=
  within_translateResponse_iff (fun _ => 0) idleSlot getResponse (answerOf tenBytes) (fun _ => true) tenBytes rfl rfl

/-- 30 characters are stored over 20. -/
theorem within_fails_ten :
    ¬ wp (translateResponse (fun _ => 0) idleSlot getResponse (answerOf tenBytes) :
          Flow Accesses Empty (Option RIL_SIM_IO_Response))
        (fun _ a => Within tenBytes.length (hexText (fun _ => true) tenBytes).length a) (fun _ _ => False)
        ⟨[], []⟩ := by
  intro h
  have husim : idleSlot.s_appType = .USIM ∧ getResponse.command = COMMAND_GET_RESPONSE := ⟨rfl, rfl⟩
  rw [translateResponse, if_pos husim, answerOf, Option.elim_some, wp_bind] at h
  rw [length_hexText] at h
  have hfits : Fits tenBytes := (within_simFormat_iff (ε := Empty) (fun _ => 0) (fun _ => true) tenBytes).1 h rfl
  rcases hfits.answer with ⟨hlinear, -⟩ | hlong
  · exact absurd hlinear (by decide)
  · exact absurd hlong (by decide)

end UniRil.Sim.Fcp
