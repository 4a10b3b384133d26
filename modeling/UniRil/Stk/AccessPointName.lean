import UniRil.Stk.Elements
import UniRil.Stk.RoundTrip

/-!
# The access point name

A value is a list of labels, each behind its length; the end of the value may cut the last one short.
-/

namespace UniRil.Stk.Elements

/-! ## Names -/

structure Label where
  text : List Byte
  length_pos : 1 ≤ text.length
  length_le : text.length ≤ 63
  ascii : ∀ c ∈ text, c < 128

def Label.encode (l : Label) : List Byte := UInt8.ofNat l.text.length :: l.text

structure AccessPointName where
  labels : List Label
  last : Label
  /-- How many bytes of the last label are there. -/
  present : Nat
  present_le : present ≤ last.text.length

def lastBytes (last : Label) (present : Nat) : List Byte :=
  UInt8.ofNat last.text.length :: last.text.take present

def nameBytes (ls : List Label) (last : Label) (present : Nat) : List Byte :=
  ls.flatMap Label.encode ++ lastBytes last present

def nameText (ls : List Label) (last : Label) (present : Nat) : List Byte :=
  List.intercalate [46] (ls.map Label.text ++ [last.text.take present])

def AccessPointName.bytes (a : AccessPointName) : List Byte := nameBytes a.labels a.last a.present

/-- The labels, as far as they are there, with dots between them. -/
def AccessPointName.text (a : AccessPointName) : List Byte := nameText a.labels a.last a.present

theorem nameBytes_cons (l : Label) (ls : List Label) (last : Label) (present : Nat) :
    nameBytes (l :: ls) last present = UInt8.ofNat l.text.length :: (l.text ++ nameBytes ls last present) := by
  unfold nameBytes Label.encode
  simp

theorem nameText_cons (l : Label) (ls : List Label) (last : Label) (present : Nat) :
    nameText (l :: ls) last present = l.text ++ 46 :: nameText ls last present := by
  unfold nameText
  cases ls with
  | nil => simp [List.intercalate_cons_cons]
  | cons l' ls => simp [List.intercalate_cons_cons]

theorem nameText_nil (last : Label) (present : Nat) : nameText [] last present = last.text.take present := by
  simp [nameText]

theorem length_lastBytes {last : Label} {present : Nat} (h : present ≤ last.text.length) :
    (lastBytes last present).length = present + 1 := by
  simp [lastBytes, h]

theorem length_nameBytes_pos (ls : List Label) (last : Label) (present : Nat) :
    0 < (nameBytes ls last present).length := by
  simp [nameBytes, lastBytes]

/-! ## The bytes of a label -/

theorem utf8Package_ascii {c : Byte} (h : c < 128) : utf8Package c.toNat = [c] := by
  unfold utf8Package
  rw [if_pos (by simpa using UInt8.lt_iff_toNat_lt.1 h), UInt8.ofNat_toNat]

theorem convertUcsToUtf8_ascii {text : List Byte} (h : ∀ c ∈ text, c < 128) : convertUcsToUtf8 text = text := by
  unfold convertUcsToUtf8
  induction text with
  | nil => rfl
  | cons c text ih =>
    rw [List.flatMap_cons, utf8Package_ascii (h c List.mem_cons_self),
      ih fun d hd => h d (List.mem_cons_of_mem _ hd)]
    rfl

theorem bytesAt_holds {mem : Mem} {pStr : Nat} {bytes : List Byte} (h : mem.Holds pStr bytes) {count : Nat}
    (hcount : count ≤ bytes.length) : bytesAt mem pStr count = bytes.take count := by
  have hleft : mem.Holds pStr (bytes.take count) := by
    rw [← List.take_append_drop count bytes] at h
    exact h.left
  have hvalues := hleft.values
  rwa [List.length_take, Nat.min_eq_left hcount] at hvalues

theorem Label.toNat_length (l : Label) : (UInt8.ofNat l.text.length).toNat = l.text.length := by
  have := l.length_le
  rw [UInt8.toNat_ofNat']
  omega

/-! ## What is read -/

/-- Nothing behind the value is read. -/
theorem labels_inside (mem : Mem) (pStr length i : Nat) : (labels mem pStr length i).2 ≤ pStr + length := by
  induction length using Nat.strongRecOn generalizing pStr i with
  | ind length ih =>
    unfold labels
    simp only
    split
    · split
      · split
        · have hrest := ih (length - ((mem pStr).toNat + 1)) (by omega) (pStr + 1 + (mem pStr).toNat) (mem pStr).toNat
          simp only
          omega
        · simp only
          omega
      · simp only
        omega
    · exact Nat.le_add_right pStr length

section

variable {mem : Mem} {pStr : Nat} {last : Label} {present : Nat}

/-- The last label is copied as it is when it is whole. -/
theorem labels_last_whole (h : mem.Holds pStr (lastBytes last last.text.length)) (i : Nat) :
    (labels mem pStr (last.text.length + 1) i).1 = last.text := by
  have hlength : (mem pStr).toNat = last.text.length := by rw [h.head, last.toNat_length]
  have hpos := last.length_pos
  have htext := h.tail
  rw [List.take_length] at htext
  unfold labels
  simp only [hlength]
  rw [if_pos (by omega), if_pos (by omega), if_neg (by omega), bytesAt_holds htext (Nat.le_refl _), List.take_length,
    convertUcsToUtf8_ascii last.ascii]

/-- Of a label that is cut short, as many bytes are missing as the label before had. -/
theorem labels_last_cut (h : mem.Holds pStr (lastBytes last present)) (hcut : present < last.text.length) (i : Nat) :
    (labels mem pStr (present + 1) i).1 = last.text.take (present - i) := by
  have hlength : (mem pStr).toNat = last.text.length := by rw [h.head, last.toNat_length]
  unfold labels
  simp only [hlength]
  split
  · rw [if_neg (by omega), Nat.add_sub_cancel, bytesAt_holds h.tail (by simp; omega), List.take_take,
      Nat.min_eq_left (by omega)]
    exact convertUcsToUtf8_ascii fun c hc => last.ascii c (List.mem_of_mem_take hc)
  · rw [show present - i = 0 by omega, List.take_zero]

/-- A label with more behind it: a dot follows unless one byte is left. -/
theorem labels_cons {l : Label} {ls : List Label} (h : mem.Holds pStr (nameBytes (l :: ls) last present)) (i : Nat) :
    (labels mem pStr (nameBytes (l :: ls) last present).length i).1 =
      if 1 < (nameBytes ls last present).length then
        l.text ++ 46 :: (labels mem (pStr + 1 + l.text.length) (nameBytes ls last present).length l.text.length).1
      else l.text := by
  rw [nameBytes_cons] at h ⊢
  have hlength : (mem pStr).toNat = l.text.length := by rw [h.head, l.toNat_length]
  have hpos := length_nameBytes_pos ls last present
  have hbytes : bytesAt mem (pStr + 1) l.text.length = l.text := by
    rw [bytesAt_holds h.tail.left (Nat.le_refl _), List.take_length]
  rw [List.length_cons, List.length_append, labels]
  simp only [hlength]
  have hrest : l.text.length + (nameBytes ls last present).length + 1 - (l.text.length + 1) =
      (nameBytes ls last present).length := by omega
  rw [if_pos (by omega), if_pos (by omega), hrest, hbytes, convertUcsToUtf8_ascii l.ascii]
  split
  · simp only
    rw [show utf8Package 46 = [46] from rfl, List.append_assoc]
    rfl
  · rfl

/-- All labels are joined where the last one is whole. -/
theorem labels_whole {ls : List Label} (h : mem.Holds pStr (nameBytes ls last last.text.length)) (i : Nat) :
    (labels mem pStr (nameBytes ls last last.text.length).length i).1 = nameText ls last last.text.length := by
  induction ls generalizing pStr i with
  | nil =>
    rw [nameText_nil, List.take_length]
    have hwhole := @labels_last_whole mem pStr last (by simpa [nameBytes] using h) i
    simpa [nameBytes, lastBytes] using hwhole
  | cons l ls ih =>
    have hrest : mem.Holds (pStr + 1 + l.text.length) (nameBytes ls last last.text.length) := by
      rw [nameBytes_cons] at h
      exact h.tail.right
    have hlong : 1 < (nameBytes ls last last.text.length).length := by
      have := last.length_pos
      simp [nameBytes, lastBytes]
      omega
    rw [labels_cons h, if_pos hlong, ih hrest, nameText_cons]

/-- Something is missing where the last one is cut short behind another one. -/
theorem length_labels_cut {l : Label} {ls : List Label} (hcut : present < last.text.length)
    (h : mem.Holds pStr (nameBytes (l :: ls) last present)) (i : Nat) :
    (labels mem pStr (nameBytes (l :: ls) last present).length i).1.length <
      (nameText (l :: ls) last present).length := by
  induction ls generalizing pStr l i with
  | nil =>
    have hpos := l.length_pos
    have hrest : mem.Holds (pStr + 1 + l.text.length) (lastBytes last present) := by
      rw [nameBytes_cons] at h
      simpa [nameBytes] using h.tail.right
    have hbytes : (nameBytes [] last present).length = present + 1 := by
      simpa [nameBytes] using length_lastBytes (Nat.le_of_lt hcut)
    rw [labels_cons h, nameText_cons, nameText_nil, hbytes, labels_last_cut hrest hcut]
    split
    · simp
      omega
    · simp
  | cons l' ls ih =>
    have hrest : mem.Holds (pStr + 1 + l.text.length) (nameBytes (l' :: ls) last present) := by
      rw [nameBytes_cons] at h
      exact h.tail.right
    have hlong : 1 < (nameBytes (l' :: ls) last present).length := by
      have := l'.length_pos
      rw [nameBytes_cons]
      simp
      omega
    rw [labels_cons h, if_pos hlong, nameText_cons]
    have := ih hrest l.text.length
    simp only [List.length_append, List.length_cons]
    omega

end

/-! ## The name of the channel -/

def AccessPointName.element (a : AccessPointName) (cr : Nat) (beyond : List Byte) : Element :=
  { tlv := { tag := NETWORK_ACCESS_NAME, cr := cr, length := a.bytes.length, value := a.bytes }, beyond := beyond }

/-- The value is not read beyond its end, and NetAccessName gets the labels with dots between them. -/
def AccessPointName.Joined (a : AccessPointName) (cr : Nat) (beyond : List Byte) (s : OpenChannel) : Prop :=
  (Elements.labels (a.element cr beyond).mem 0 a.bytes.length 0).2 ≤ a.bytes.length ∧
    (networkAccessName (a.element cr beyond) s).openChannelData.NetAccessName = a.text

theorem mem_holds (e : Element) : e.mem.Holds 0 e.tlv.value := by
  intro i hi
  unfold Element.mem
  rw [Nat.zero_add, List.getD_eq_getElem?_getD, List.getElem?_append_left hi, List.getElem?_eq_getElem hi,
    Option.getD_some]

theorem NetAccessName_eq (a : AccessPointName) (cr : Nat) (beyond : List Byte) (s : OpenChannel) :
    (networkAccessName (a.element cr beyond) s).openChannelData.NetAccessName =
      (cstr (labels (a.element cr beyond).mem 0 a.bytes.length 0).1).take 255 := by
  have hpos : (a.element cr beyond).tlv.length ≠ 0 := Nat.ne_of_gt (length_nameBytes_pos a.labels a.last a.present)
  unfold networkAccessName
  rw [if_neg hpos]
  rfl

/-- Where the name is decoded as a whole. -/
theorem labels_eq_text (a : AccessPointName) (h : a.present = a.last.text.length ∨ a.labels = []) (cr : Nat)
    (beyond : List Byte) : (labels (a.element cr beyond).mem 0 a.bytes.length 0).1 = a.text := by
  have hholds : (a.element cr beyond).mem.Holds 0 (nameBytes a.labels a.last a.present) := mem_holds _
  unfold AccessPointName.bytes AccessPointName.text
  by_cases hwhole : a.present = a.last.text.length
  · rw [hwhole] at hholds ⊢
    exact labels_whole hholds 0
  · have hnil := h.resolve_left hwhole
    rw [hnil] at hholds ⊢
    have hcut := @labels_last_cut _ _ a.last a.present hholds (Nat.lt_of_le_of_ne a.present_le hwhole) 0
    rw [nameText_nil]
    rw [show (nameBytes [] a.last a.present).length = a.present + 1 from length_lastBytes a.present_le]
    exact hcut

/-- **The labels are joined exactly when the last one is whole or the only one**, no byte of them is zero and the
name with its NUL fits. -/
theorem joined_iff (a : AccessPointName) (cr : Nat) (beyond : List Byte) (s : OpenChannel) :
    a.Joined cr beyond s ↔
      (a.present = a.last.text.length ∨ a.labels = []) ∧ NUL ∉ a.text ∧ a.text.length < ARRAY_SIZE * 2 := by
  unfold AccessPointName.Joined
  rw [NetAccessName_eq]
  constructor
  · rintro ⟨-, htext⟩
    refine ⟨?_, ?_, ?_⟩
    · by_cases hnil : a.labels = []
      · exact .inr hnil
      · left
        by_contra hne
        have hholds : (a.element cr beyond).mem.Holds 0 (nameBytes a.labels a.last a.present) := mem_holds _
        have hcut := Nat.lt_of_le_of_ne a.present_le hne
        have hlength := congrArg List.length htext
        have hcstr : (cstr (labels (a.element cr beyond).mem 0 a.bytes.length 0).1).length ≤
            (labels (a.element cr beyond).mem 0 a.bytes.length 0).1.length :=
          (List.takeWhile_prefix _).length_le
        unfold AccessPointName.bytes AccessPointName.text at *
        obtain ⟨l, ls, hcons⟩ := List.exists_cons_of_ne_nil hnil
        rw [hcons] at hholds hlength hcstr
        have hmissing := length_labels_cut hcut hholds 0
        rw [List.length_take] at hlength
        omega
    · intro hnul
      rw [← htext] at hnul
      exact nul_notMem_cstr _ (List.mem_of_mem_take hnul)
    · rw [← htext, List.length_take]
      unfold ARRAY_SIZE
      omega
  · rintro ⟨hwhole, hnul, hlength⟩
    refine ⟨?_, ?_⟩
    · have hinside := labels_inside (a.element cr beyond).mem 0 a.bytes.length 0
      omega
    · rw [labels_eq_text a hwhole, cstr_of_notMem hnul, List.take_of_length_le]
      unfold ARRAY_SIZE at hlength
      omega

/-- `abc` and four bytes of which `def` are there. -/
def cutName : AccessPointName :=
  { labels := [⟨[97, 98, 99], by decide, by decide, by simp⟩]
    last := ⟨[100, 101, 102, 103], by decide, by decide, by simp⟩
    present := 3
    present_le := by decide }

/-- Nothing of the second label is there: `abc.` -/
theorem joined_fails_cutName : ¬cutName.Joined 0 [] (OpenChannel.start noData) := by
  rw [joined_iff]
  rintro ⟨hwhole, -⟩
  exact absurd hwhole (by simp [cutName])

end UniRil.Stk.Elements
