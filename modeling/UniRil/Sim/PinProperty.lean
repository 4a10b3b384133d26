import UniRil.Properties
import UniRil.Sim.PinCoding

/-!
# The cached PIN among those of the other SIMs

Whatever was saved before has at most seventeen bytes for each SIM, so that there is place for one
more PIN; and a PIN of digits has no comma in it.
-/

namespace UniRil.Sim

open AtTok (Line isdigit)
open Properties (setProperty propVal valuesOf fields joined PROPERTY_VALUE_MAX)

/-! ## No commas -/

theorem row_ne_comma : ∀ i < 10, randEncryptArray.getD i NUL ≠ 44 := by decide

theorem code_ne_comma : ∀ r < 10, ∀ d < 10, (encryptArray.getD r []).getD d NUL ≠ 44 := by decide

theorem comma_notMem_encryptPin (rand : Nat → Nat) (outside : Int → Byte) {pin : Line}
    (hdigits : ∀ c ∈ pin, isdigit c = true) (hlen : pin.length < 10) : (44 : Byte) ∉ encryptPin rand outside pin := by
  rw [encryptPin, if_pos hlen, List.mem_cons, List.mem_flatMap, not_or]
  refine ⟨(row_ne_comma _ hlen).symm, ?_⟩
  rintro ⟨i, _, hi⟩
  obtain ⟨r, hr, d, hd, hplace, -⟩ := encryptPlace_eq rand outside hdigits i
  rw [hplace, List.mem_cons, List.mem_singleton] at hi
  rcases hi with h | h
  · exact row_ne_comma r hr h.symm
  · exact code_ne_comma r hr d hd h.symm

theorem length_encryptPin (rand : Nat → Nat) (outside : Int → Byte) (pin : Line) :
    (encryptPin rand outside pin).length = 17 := by
  rw [encryptPin, List.length_cons, List.length_flatMap]
  rfl

/-! ## Short values -/

/-- No value in the text has more than seventeen bytes. -/
def ShortValues (text : Line) : Prop := ∀ value, value <:+: text → (44 : Byte) ∉ value → value.length ≤ 17

theorem shortValues_of_length {text : Line} (h : text.length ≤ 17) : ShortValues text :=
  fun _ hvalue _ => hvalue.length_le.trans h

theorem shortValues_of_isInfix {text text' : Line} (h : ShortValues text) (hwithin : text' <:+: text) :
    ShortValues text' := fun value hvalue hcomma => h value (hvalue.trans hwithin) hcomma

/-- A value does not go over a comma. -/
theorem prefix_of_prefix_comma {value : Line} (text : Line) {rest : Line} (h : value <+: text ++ 44 :: rest)
    (hcomma : (44 : Byte) ∉ value) : value <+: text := by
  rcases List.prefix_or_prefix_of_prefix h (List.prefix_append text (44 :: rest)) with hpre | hpre
  · exact hpre
  · obtain ⟨behind, rfl⟩ := hpre
    rw [List.prefix_append_right_inj] at h
    cases behind with
    | nil => simp
    | cons c behind =>
      rw [List.cons_prefix_cons] at h
      exact absurd (by simp [h.1]) hcomma

theorem shortValues_comma {text rest : Line} (h : ShortValues text) (h' : ShortValues rest) :
    ShortValues (text ++ 44 :: rest) := by
  induction text with
  | nil =>
    intro value hvalue hcomma
    rw [List.nil_append, List.infix_cons_iff] at hvalue
    rcases hvalue with hpre | hwithin
    · have hnil := prefix_of_prefix_comma [] hpre hcomma
      simp [List.prefix_nil.1 hnil]
    · exact h' value hwithin hcomma
  | cons c text ih =>
    intro value hvalue hcomma
    rw [List.cons_append, List.infix_cons_iff] at hvalue
    rcases hvalue with hpre | hwithin
    · exact h value (prefix_of_prefix_comma (c :: text) hpre hcomma).isInfix hcomma
    · exact ih (shortValues_of_isInfix h (List.suffix_cons c text).isInfix) value hwithin hcomma

theorem shortValues_joined {texts : List Line} (h : ∀ text ∈ texts, ShortValues text) : ShortValues (joined texts) := by
  induction texts with
  | nil => exact shortValues_of_length (Nat.zero_le _)
  | cons text texts ih =>
    have hrest := ih fun t ht => h t (List.mem_cons_of_mem _ ht)
    cases texts with
    | nil => exact h text List.mem_cons_self
    | cons text' texts => exact shortValues_comma (h text List.mem_cons_self) hrest

theorem infix_fields (count : Nat) (buf : Line) : ∀ field ∈ fields count (some buf), field.getD [] <:+: buf := by
  have hall : ∀ b : Option Line, ∀ field ∈ fields count b, field.getD [] <:+: b.getD [] := by
    induction count with
    | zero => simp [fields]
    | succ count ih =>
      intro b field hfield
      cases b with
      | none =>
        rcases List.mem_cons.1 hfield with rfl | hrest
        · exact List.nil_infix
        · exact ih none field hrest
      | some b =>
        rcases List.mem_cons.1 hfield with rfl | hrest
        · exact (List.takeWhile_prefix _).isInfix
        · refine (ih _ field hrest).trans ?_
          have hdrop := List.dropWhile_suffix (fun c : Byte => c != 44) (l := b)
          cases hb : b.dropWhile (fun c : Byte => c != 44) with
          | nil => simp [AtTok.strsep, hb]
          | cons c rest =>
            rw [hb] at hdrop
            simpa [AtTok.strsep, hb] using ((List.suffix_cons c rest).trans hdrop).isInfix
  exact hall (some buf)

theorem shortValues_valuesOf {prop : Line} (h : ShortValues prop) (count : Nat) :
    ∀ field ∈ valuesOf count prop, ShortValues (field.getD []) := by
  unfold valuesOf
  split
  · intro field hfield
    rw [List.eq_of_mem_replicate hfield]
    exact shortValues_of_length (Nat.zero_le _)
  · intro field hfield
    exact shortValues_of_isInfix h (infix_fields count prop field hfield)

/-! ## Every save -/

/-- What the property may hold: the PINs of the SIMs were saved in any order, whatever they are. -/
inductive SavedPins (RIL_SOCKET_NUM : Nat) : Line → Prop
  | unset : SavedPins RIL_SOCKET_NUM []
  | save {prop prop' : Line} (rand : Nat → Nat) (outside : Int → Byte) (pin : Line) (socket_id : Nat)
      (before : SavedPins RIL_SOCKET_NUM prop)
      (set : setProperty RIL_SOCKET_NUM prop socket_id (cstr (encryptPin rand outside pin)) = some prop') :
      SavedPins RIL_SOCKET_NUM prop'

theorem length_cstr_encryptPin (rand : Nat → Nat) (outside : Int → Byte) (pin : Line) :
    (cstr (encryptPin rand outside pin)).length ≤ 17 :=
  (List.takeWhile_prefix _).length_le.trans (length_encryptPin rand outside pin).le

theorem shortValues_propVal {count : Nat} {prop : Line} (h : ShortValues prop) {socket_id : Nat}
    (hsocket : socket_id < count) {value : Line} (hvalue : value.length ≤ 17) :
    ShortValues (propVal (valuesOf count prop) socket_id value) := by
  rw [Properties.propVal_eq_joined (by simpa using hsocket)]
  apply shortValues_joined
  intro text htext
  rcases List.mem_or_eq_of_mem_set htext with hmem | rfl
  · obtain ⟨field, hfield, rfl⟩ := List.mem_map.1 hmem
    exact shortValues_valuesOf h count field hfield
  · exact shortValues_of_length hvalue

theorem shortValues_of_savedPins {count : Nat} {prop : Line} (h : SavedPins count prop) : ShortValues prop := by
  induction h with
  | unset => exact shortValues_of_length (Nat.zero_le _)
  | save rand outside pin socket_id before set ih =>
    by_cases hsocket : socket_id < count
    · obtain ⟨rfl, -⟩ := (Properties.setProperty_eq_some hsocket).1 set
      exact shortValues_propVal ih hsocket (length_cstr_encryptPin rand outside pin)
    · rw [setProperty, if_pos (not_lt.1 hsocket)] at set
      exact Option.some.inj set ▸ ih

theorem length_flatMap_le {texts : List (Option Line)} {f : Option Line → Line}
    (h : ∀ text ∈ texts, (f text).length ≤ 18) : (texts.flatMap f).length ≤ 18 * texts.length := by
  induction texts with
  | nil => simp
  | cons text texts ih =>
    have hrest := ih fun t ht => h t (List.mem_cons_of_mem _ ht)
    have hfirst := h text List.mem_cons_self
    rw [List.flatMap_cons, List.length_append, List.length_cons]
    omega

/-- There is place for the PIN of one more SIM. -/
theorem length_propVal_lt {count : Nat} (hcount : count ≤ 4) {prop : Line} (h : SavedPins count prop) {socket_id : Nat}
    (hsocket : socket_id < count) {value : Line} (hvalue : value.length ≤ 17) :
    (propVal (valuesOf count prop) socket_id value).length < PROPERTY_VALUE_MAX := by
  have hfield : ∀ field ∈ valuesOf count prop, (field.getD []).length ≤ 17 := by
    intro field hmem
    exact shortValues_valuesOf (shortValues_of_savedPins h) count field hmem _ (List.infix_refl _)
      (Properties.notMem_valuesOf count prop field hmem)
  have hbefore : (((valuesOf count prop).take socket_id).flatMap fun field => field.getD [] ++ [44]).length ≤
      18 * socket_id := by
    refine (length_flatMap_le fun field hmem => ?_).trans (Nat.mul_le_mul_left 18 (List.length_take_le _ _))
    have := hfield field (List.mem_of_mem_take hmem)
    simp
    omega
  have hbehind : (((valuesOf count prop).drop (socket_id + 1)).flatMap fun field => 44 :: field.getD []).length ≤
      18 * (count - (socket_id + 1)) := by
    refine (length_flatMap_le fun field hmem => ?_).trans (by simp)
    have := hfield field (List.mem_of_mem_drop hmem)
    simp
    omega
  rw [propVal, List.length_append, List.length_append, PROPERTY_VALUE_MAX]
  omega

/-- **A PIN of digits is cached and comes back**: its seventeen bytes hold neither NUL nor comma, are
decoded to it, and are found in the property as they were set, which leaves the other SIMs alone. -/
theorem cached_pin_comes_back {RIL_SOCKET_NUM : Nat} (hnum : RIL_SOCKET_NUM ≤ 4) {prop : Line}
    (hprop : SavedPins RIL_SOCKET_NUM prop) {socket_id : Nat} (hsocket : socket_id < RIL_SOCKET_NUM) (rand : Nat → Nat)
    (outside : Int → Byte) {pin : Line} (hdigits : ∀ c ∈ pin, isdigit c = true) (hlen : pin.length ≤ 8) :
    (encryptPin rand outside pin).length = 17 ∧ NUL ∉ encryptPin rand outside pin ∧
      (44 : Byte) ∉ encryptPin rand outside pin ∧ decryptPin (encryptPin rand outside pin) = pin ∧
      ∃ prop', setProperty RIL_SOCKET_NUM prop socket_id (cstr (encryptPin rand outside pin)) = some prop' ∧
        Properties.getProperty RIL_SOCKET_NUM prop' socket_id [] = encryptPin rand outside pin ∧
        decryptPin (Properties.getProperty RIL_SOCKET_NUM prop' socket_id []) = pin ∧
        ∀ other ≠ socket_id, Properties.getProperty RIL_SOCKET_NUM prop' other [] =
          Properties.getProperty RIL_SOCKET_NUM prop other [] := by
  have hnul := nul_notMem_encryptPin rand outside hdigits (by omega)
  have hcomma := comma_notMem_encryptPin rand outside hdigits (by omega)
  have hcstr := cstr_of_notMem hnul
  have hlength := length_encryptPin rand outside pin
  have hne : encryptPin rand outside pin ≠ [] := by
    intro hnil
    simp [hnil] at hlength
  have hdecrypt : decryptPin (encryptPin rand outside pin) = pin := by
    have h := decryptPin_encryptPin rand outside hdigits hlen
    rwa [hcstr, getProperty, if_neg hne] at h
  have hset : setProperty RIL_SOCKET_NUM prop socket_id (cstr (encryptPin rand outside pin)) =
      some (propVal (valuesOf RIL_SOCKET_NUM prop) socket_id (encryptPin rand outside pin)) := by
    rw [hcstr, Properties.setProperty_eq_some hsocket]
    exact ⟨rfl, length_propVal_lt hnum hprop hsocket hlength.le⟩
  rw [hcstr] at hset
  have hget := Properties.getProperty_setProperty hsocket hne hcomma hset []
  refine ⟨hlength, hnul, hcomma, hdecrypt, _, hcstr.symm ▸ hset, hget, ?_, ?_⟩
  · rw [hget, hdecrypt]
  · intro other hother
    exact Properties.getProperty_setProperty_ne hsocket hne hcomma hset hother []

theorem cached_pin_comes_back_1234 :
    decryptPin (encryptPin (fun _ => 3) (fun _ => 0) (ascii "1234")) = ascii "1234" :=
  (cached_pin_comes_back (by decide : 2 ≤ 4) .unset (by decide : 1 < 2) (fun _ => 3) (fun _ => 0)
    (by simp [ascii, isdigit]) (by decide)).2.2.2.1

end UniRil.Sim
