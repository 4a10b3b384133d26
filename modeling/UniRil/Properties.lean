import UniRil.Decimal

/-!
# Properties with a value for each SIM (ril_utils.c)

The values stand in one text, between commas. What stands behind the value of the last SIM is not
looked at.
-/

namespace UniRil.Properties

open AtTok (Line strsep)

def PROPERTY_VALUE_MAX : Nat := 92

/-- `p[simId] = strsep(&buf, ",")` for each SIM; 44 is a comma. -/
def fields : Nat → Option Line → List (Option Line)
  | 0, _ => []
  | count + 1, none => none :: fields count none
  | count + 1, some buf => some (strsep buf 44).1 :: fields count (strsep buf 44).2

/-- `p` after the loop, `prop` being the text of the property. -/
def valuesOf (RIL_SOCKET_NUM : Nat) (prop : Line) : List (Option Line) :=
  if prop = [] then List.replicate RIL_SOCKET_NUM none else fields RIL_SOCKET_NUM (some prop)

def getProperty (RIL_SOCKET_NUM : Nat) (prop : Line) (socket_id : Nat) (defaultVal : Line) : Line :=
  match (valuesOf RIL_SOCKET_NUM prop).getD socket_id none with
  | none => defaultVal
  | some value => if value = [] then defaultVal else value

/-- `propVal`: what stands before the value, the value and what stands behind it. -/
def propVal (p : List (Option Line)) (socket_id : Nat) (value : Line) : Line :=
  ((p.take socket_id).flatMap fun field => field.getD [] ++ [44]) ++ value ++
    (p.drop (socket_id + 1)).flatMap fun field => 44 :: field.getD []

/-- The new text of the property; `none` where `propVal` has no place for it. -/
def setProperty (RIL_SOCKET_NUM : Nat) (prop : Line) (socket_id : Nat) (value : Line) : Option Line :=
  if RIL_SOCKET_NUM ≤ socket_id then some prop
  else
    let text := propVal (valuesOf RIL_SOCKET_NUM prop) socket_id value
    if text.length < PROPERTY_VALUE_MAX then some text else none

/-! ## The fields of a joined text -/

/-- The texts between commas. -/
def joined : List Line → Line
  | [] => []
  | [text] => text
  | text :: text' :: texts => text ++ 44 :: joined (text' :: texts)

theorem strsep_of_notMem {text : Line} {delim : Byte} (h : delim ∉ text) : strsep text delim = (text, none) := by
  have hpos : ∀ c ∈ text, (c != delim) = true := by
    intro c hc
    simpa using ne_of_mem_of_not_mem hc h
  rw [strsep, List.takeWhile_eq_self_iff.2 hpos, List.dropWhile_eq_nil_iff.2 hpos]
  rfl

theorem fields_joined (texts : List Line) (h : ∀ text ∈ texts, (44 : Byte) ∉ text) (hne : texts ≠ []) :
    fields texts.length (some (joined texts)) = texts.map some := by
  induction texts with
  | nil => exact absurd rfl hne
  | cons text texts ih =>
    have htext := h text List.mem_cons_self
    cases texts with
    | nil => simp [joined, fields, strsep_of_notMem htext]
    | cons text' texts =>
      have hrest := ih (fun t ht => h t (List.mem_cons_of_mem _ ht)) (List.cons_ne_nil _ _)
      rw [joined, List.length_cons, fields, strsep_append htext, hrest]
      rfl

theorem joined_cons {text : Line} {texts : List Line} :
    joined (text :: texts) = text ++ texts.flatMap fun t => 44 :: t := by
  induction texts generalizing text with
  | nil => simp [joined]
  | cons text' texts ih => rw [joined, ih, List.flatMap_cons, List.cons_append]

theorem joined_append {texts : List Line} {text : Line} {texts' : List Line} :
    joined (texts ++ text :: texts') =
      (texts.flatMap fun t => t ++ [44]) ++ text ++ texts'.flatMap fun t => 44 :: t := by
  induction texts with
  | nil => simp [joined_cons]
  | cons text' texts ih =>
    have hcons : joined (text' :: (texts ++ text :: texts')) = text' ++ 44 :: joined (texts ++ text :: texts') := by
      cases texts <;> simp [joined]
    rw [List.cons_append, hcons, ih]
    simp

/-- The new text has the values of all SIMs, with the new one in its place. -/
theorem propVal_eq_joined {p : List (Option Line)} {socket_id : Nat} (h : socket_id < p.length) (value : Line) :
    propVal p socket_id value = joined ((p.map fun field => field.getD []).set socket_id value) := by
  have hset : ((p.map fun field => field.getD []).set socket_id value) =
      (p.take socket_id).map (fun field => field.getD []) ++
        value :: (p.drop (socket_id + 1)).map fun field => field.getD [] := by
    rw [List.set_eq_take_append_cons_drop, if_pos (by simpa using h), List.map_take, List.map_drop]
  rw [hset, joined_append, List.flatMap_map, List.flatMap_map]
  rfl

/-! ## Fields without commas -/

theorem length_fields (count : Nat) (buf : Option Line) : (fields count buf).length = count := by
  induction count generalizing buf with
  | zero => rfl
  | succ count ih => cases buf <;> simp [fields, ih]

@[simp] theorem length_valuesOf (count : Nat) (prop : Line) : (valuesOf count prop).length = count := by
  unfold valuesOf
  split
  · exact List.length_replicate
  · exact length_fields _ _

theorem notMem_fields (count : Nat) (buf : Option Line) :
    ∀ field ∈ fields count buf, (44 : Byte) ∉ field.getD [] := by
  induction count generalizing buf with
  | zero => simp [fields]
  | succ count ih =>
    cases buf with
    | none =>
      intro field hfield
      rcases List.mem_cons.1 hfield with rfl | hrest
      · simp
      · exact ih none field hrest
    | some buf =>
      intro field hfield
      rcases List.mem_cons.1 hfield with rfl | hrest
      · intro hcomma
        simpa using List.mem_takeWhile_imp hcomma
      · exact ih _ field hrest

theorem notMem_valuesOf (count : Nat) (prop : Line) :
    ∀ field ∈ valuesOf count prop, (44 : Byte) ∉ field.getD [] := by
  unfold valuesOf
  split
  · intro field hfield
    simp [List.eq_of_mem_replicate hfield]
  · exact notMem_fields _ _

/-- The values that are found in the new text. -/
theorem valuesOf_propVal {count : Nat} (prop : Line) {socket_id : Nat} (h : socket_id < count) {value : Line}
    (hvalue : value ≠ []) (hcomma : (44 : Byte) ∉ value) :
    valuesOf count (propVal (valuesOf count prop) socket_id value) =
      (((valuesOf count prop).map fun field => field.getD []).set socket_id value).map some := by
  have hlen : socket_id < (valuesOf count prop).length := by simpa using h
  have hne : propVal (valuesOf count prop) socket_id value ≠ [] := by simp [propVal, hvalue]
  have hjoined := fields_joined (((valuesOf count prop).map fun field => field.getD []).set socket_id value)
    (by
      intro text htext
      rcases List.mem_or_eq_of_mem_set htext with hmem | rfl
      · obtain ⟨field, hfield, rfl⟩ := List.mem_map.1 hmem
        exact notMem_valuesOf count prop field hfield
      · exact hcomma)
    (by
      intro hnil
      have := congrArg List.length hnil
      simp at this
      omega)
  rw [List.length_set, List.length_map, length_valuesOf] at hjoined
  rw [valuesOf, if_neg hne, propVal_eq_joined hlen, hjoined]

/-! ## What is set is got -/

theorem setProperty_eq_some {count : Nat} {prop prop' : Line} {socket_id : Nat} (h : socket_id < count) {value : Line} :
    setProperty count prop socket_id value = some prop' ↔
      prop' = propVal (valuesOf count prop) socket_id value ∧ prop'.length < PROPERTY_VALUE_MAX := by
  rw [setProperty, if_neg (by omega)]
  constructor
  · intro hset
    obtain ⟨hlen, hprop⟩ := Option.ite_none_right_eq_some.1 hset
    obtain rfl := Option.some.inj hprop
    exact ⟨rfl, hlen⟩
  · rintro ⟨rfl, hlen⟩
    exact if_pos hlen

/-- **A value without commas is got as it was set**, where there is place for it. -/
theorem getProperty_setProperty {count : Nat} {prop prop' : Line} {socket_id : Nat} (h : socket_id < count)
    {value : Line} (hvalue : value ≠ []) (hcomma : (44 : Byte) ∉ value)
    (hset : setProperty count prop socket_id value = some prop') (defaultVal : Line) :
    getProperty count prop' socket_id defaultVal = value := by
  obtain ⟨rfl, -⟩ := (setProperty_eq_some h).1 hset
  rw [getProperty, valuesOf_propVal prop h hvalue hcomma]
  simp [h, hvalue]

/-- The values of the other SIMs stay. -/
theorem getProperty_setProperty_ne {count : Nat} {prop prop' : Line} {socket_id : Nat} (h : socket_id < count)
    {value : Line} (hvalue : value ≠ []) (hcomma : (44 : Byte) ∉ value)
    (hset : setProperty count prop socket_id value = some prop') {other : Nat} (hother : other ≠ socket_id)
    (defaultVal : Line) :
    getProperty count prop' other defaultVal = getProperty count prop other defaultVal := by
  obtain ⟨rfl, -⟩ := (setProperty_eq_some h).1 hset
  rw [getProperty, getProperty, valuesOf_propVal prop h hvalue hcomma]
  by_cases hlt : other < (valuesOf count prop).length
  · simp only [List.getD_eq_getElem?_getD, List.getElem?_map, List.getElem?_set_ne hother.symm,
      List.getElem?_eq_getElem hlt]
    cases (valuesOf count prop)[other] <;> simp
  · simp only [List.getD_eq_getElem?_getD, List.getElem?_map, List.getElem?_set_ne hother.symm,
      List.getElem?_eq_none (not_lt.1 hlt)]
    rfl

/-! ## The values as cells -/

/-- What each SIM has: nothing where the text has no field for it. -/
def cells (count : Nat) (prop : Line) : List Line := (valuesOf count prop).map fun field => field.getD []

@[simp] theorem length_cells (count : Nat) (prop : Line) : (cells count prop).length = count := by
  unfold cells
  rw [List.length_map, length_valuesOf]

theorem getProperty_eq (count : Nat) (prop : Line) (socket_id : Nat) (defaultVal : Line) :
    getProperty count prop socket_id defaultVal =
      if (cells count prop).getD socket_id [] = [] then defaultVal else (cells count prop).getD socket_id [] := by
  unfold getProperty cells
  rw [List.getD_eq_getElem?_getD, List.getD_eq_getElem?_getD, List.getElem?_map]
  cases (valuesOf count prop)[socket_id]? with
  | none => rfl
  | some field =>
    cases field with
    | none => rfl
    | some value => rfl

theorem notMem_cells {count : Nat} {prop text : Line} (h : text ∈ cells count prop) : (44 : Byte) ∉ text := by
  obtain ⟨field, hfield, rfl⟩ := List.mem_map.1 h
  exact notMem_valuesOf count prop field hfield

theorem joined_eq_nil {texts : List Line} (h : joined texts = []) : texts = [] ∨ texts = [[]] := by
  cases texts with
  | nil => exact .inl rfl
  | cons text texts =>
    cases texts with
    | nil => exact .inr (by rw [show text = [] from h])
    | cons text' texts => simp [joined] at h

theorem cells_joined {texts : List Line} (h : ∀ text ∈ texts, (44 : Byte) ∉ text) (hne : texts ≠ []) :
    cells texts.length (joined texts) = texts := by
  unfold cells valuesOf
  split
  · -- one empty value: the text of the property is empty too
    rename_i hnil
    obtain rfl := (joined_eq_nil hnil).resolve_left hne
    rfl
  · rw [fields_joined texts h hne, List.map_map]
    exact List.map_id texts

/-- Setting a value sets one cell. -/
theorem cells_propVal {count : Nat} (prop : Line) {socket_id : Nat} (h : socket_id < count) {value : Line}
    (hcomma : (44 : Byte) ∉ value) :
    cells count (propVal (valuesOf count prop) socket_id value) = (cells count prop).set socket_id value := by
  have hplain : ∀ text ∈ (cells count prop).set socket_id value, (44 : Byte) ∉ text := by
    intro text htext
    rcases List.mem_or_eq_of_mem_set htext with hmem | rfl
    · exact notMem_cells hmem
    · exact hcomma
  have hne : (cells count prop).set socket_id value ≠ [] := by
    apply List.ne_nil_of_length_pos
    rw [List.length_set, length_cells]
    omega
  have hjoined := cells_joined hplain hne
  rw [List.length_set, length_cells] at hjoined
  rw [propVal_eq_joined (by rw [length_valuesOf]; exact h)]
  exact hjoined

/-- **The values of the SIMs are cells of their own**: whatever the text of the property was, setting
one leaves the others, and an empty value gives the default. -/
theorem cells_independent {count : Nat} {prop : Line} {i : Nat} (h : i < count) {value : Line}
    (hcomma : (44 : Byte) ∉ value) (hfits : (propVal (valuesOf count prop) i value).length < PROPERTY_VALUE_MAX) :
    ∃ prop', setProperty count prop i value = some prop' ∧
      ∀ (j : Nat) (defaultVal : Line), getProperty count prop' j defaultVal =
        if j = i then if value = [] then defaultVal else value else getProperty count prop j defaultVal := by
  refine ⟨_, (setProperty_eq_some h).2 ⟨rfl, hfits⟩, ?_⟩
  intro j defaultVal
  rw [getProperty_eq, getProperty_eq, cells_propVal prop h hcomma, List.getD_eq_getElem?_getD]
  by_cases hj : j = i
  · subst hj
    rw [List.getElem?_set_self (by rw [length_cells]; exact h), Option.getD_some, if_pos rfl]
  · rw [List.getElem?_set_ne (Ne.symm hj), ← List.getD_eq_getElem?_getD, if_neg hj]

/-- The stored text has a field too few. -/
theorem cells_independent_second : ∃ prop', setProperty 2 [48] 1 [49] = some prop' ∧
    ∀ (j : Nat) (defaultVal : Line), getProperty 2 prop' j defaultVal =
      if j = 1 then if ([49] : Line) = [] then defaultVal else [49] else getProperty 2 [48] j defaultVal :=
  cells_independent (by decide) (by decide) (by decide)

end UniRil.Properties
