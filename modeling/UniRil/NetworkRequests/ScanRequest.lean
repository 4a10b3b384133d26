import UniRil.Handlers.Commands
import UniRil.NetworkRequests.Fields

/-!
# The command of a network scan (ril_network.c)

The bands, the channels and the command itself are written into buffers of one length, each piece behind the text that
is there.
-/

namespace UniRil.NetworkRequests

open Flows Handlers
open AtTok (Line toInt isdigit)

/-! ## The request -/

def GERAN : Int := 1
def UTRAN : Int := 2
def EUTRAN : Int := 3

structure RIL_RadioAccessSpecifier where
  radio_access_network : Int
  bands : List Int
  channels : List UInt32
  deriving DecidableEq

structure RIL_NetworkScanRequest where
  type : Int
  interval : Int
  specifiers : List RIL_RadioAccessSpecifier
  deriving DecidableEq

/-- `"%d"` and then `"%s,%d"`, with the buffer as its own argument. -/
def listed : List Line → Line
  | [] => []
  | text :: texts =>
    texts.foldl (fun buf text => snprintf AT_COMMAND_LEN (buf ++ ascii "," ++ text)) (snprintf AT_COMMAND_LEN text)

namespace RIL_RadioAccessSpecifier

def known (p : RIL_RadioAccessSpecifier) : Prop :=
  p.radio_access_network = GERAN ∨ p.radio_access_network = UTRAN ∨ p.radio_access_network = EUTRAN

instance (p : RIL_RadioAccessSpecifier) : Decidable p.known := inferInstanceAs (Decidable (_ ∨ _ ∨ _))

def bandsBuffer (p : RIL_RadioAccessSpecifier) : Line := if p.known then listed (p.bands.map decimal) else []

/-- A channel has no sign, and is printed with one. -/
def channelsBuffer (p : RIL_RadioAccessSpecifier) : Line := listed (p.channels.map fun c => decimal (toInt c.toNat))

end RIL_RadioAccessSpecifier

/-- `%d,"%s","%s"` -/
def scanItem (access : Int) (bands channels : Line) : Line :=
  decimal access ++ ascii "," ++ quoted bands ++ ascii "," ++ quoted channels

def itemSent (p : RIL_RadioAccessSpecifier) : Line :=
  scanItem p.radio_access_network p.bandsBuffer p.channelsBuffer

/-- The buffer for the command, behind the loop. -/
def scanCommand : List RIL_RadioAccessSpecifier → Line
  | [] => []
  | p :: ps => listed ((ascii "AT+SPFREQSCAN=" ++ itemSent p) :: ps.map itemSent)

def requestStartNetworkScan (data : RIL_NetworkScanRequest) (t : RIL_Token) : Handler Unit Empty Unit := do
  let s ← at_send_command (scanCommand data.specifiers) none
  if ← unsuccessful s then
    RIL_onRequestComplete t .REQUEST_NOT_SUPPORTED .NULL
  else
    RIL_onRequestComplete t .SUCCESS .NULL
  at_response_free s.p_response

/-! ## What is asked for -/

def itemAsked (p : RIL_RadioAccessSpecifier) : Line :=
  scanItem p.radio_access_network (commas p.bands) (commas (p.channels.map fun c => (c.toNat : Int)))

/-- The networks, with all their bands and channels. -/
def listAsked (specifiers : List RIL_RadioAccessSpecifier) : Line := (ascii ",").intercalate (specifiers.map itemAsked)

/-- Every command that goes out names all that is asked for, and without a command the request fails. -/
def NamesAll (data : RIL_NetworkScanRequest) (t : RIL_Token) (log : List Event) : Prop :=
  (∀ cmd, .at_send_command cmd ∈ log → listAsked data.specifiers <:+: cmd) ∧
    ((∃ cmd, .at_send_command cmd ∈ log) ∨ ∃ e response, e ≠ .SUCCESS ∧ .RIL_onRequestComplete t e response ∈ log)

/-- The command has room in its buffer, no bands are asked for of an unknown network, and no channel has the bit of the
sign. -/
def ScanFitsBuffer (specifiers : List RIL_RadioAccessSpecifier) : Prop :=
  specifiers = [] ∨
    (ascii "AT+SPFREQSCAN=").length + (listAsked specifiers).length < AT_COMMAND_LEN ∧
      ∀ p ∈ specifiers, (p.known ∨ p.bands = []) ∧ ∀ c ∈ p.channels, c.toNat < 2 ^ 31

/-! ## The buffers -/

theorem intercalate_eq (t : Line) (ts : List Line) :
    (ascii ",").intercalate (t :: ts) = t ++ ts.flatMap fun t => 44 :: t := by
  induction ts generalizing t with
  | nil => simp
  | cons u ts ih =>
    rw [List.intercalate_cons_cons, ih, List.flatMap_cons]
    simp [ascii]

/-- The pieces are cut where their text is. -/
theorem listed_eq (texts : List Line) : listed texts = snprintf AT_COMMAND_LEN ((ascii ",").intercalate texts) := by
  cases texts with
  | nil => rfl
  | cons text texts =>
    rw [intercalate_eq, listed]
    induction texts generalizing text with
    | nil => rw [List.foldl_nil, List.flatMap_nil, List.append_nil]
    | cons text' texts ih =>
      rw [List.foldl_cons, List.append_assoc, snprintf_append, ih, List.flatMap_cons]
      simp [ascii]

theorem scanCommand_eq (p : RIL_RadioAccessSpecifier) (ps : List RIL_RadioAccessSpecifier) :
    scanCommand (p :: ps) =
      snprintf AT_COMMAND_LEN (ascii "AT+SPFREQSCAN=" ++ (ascii ",").intercalate ((p :: ps).map itemSent)) := by
  rw [scanCommand, listed_eq, intercalate_eq, List.map_cons, intercalate_eq, List.append_assoc]

/-- A piece stands in the whole. -/
theorem infix_intercalate {text : Line} {texts : List Line} (h : text ∈ texts) :
    text <:+: (ascii ",").intercalate texts := by
  cases texts with
  | nil => cases h
  | cons t ts =>
    rw [intercalate_eq]
    rcases List.mem_cons.1 h with rfl | hmem
    · exact (List.prefix_append text _).isInfix
    · obtain ⟨before, after, rfl⟩ := List.append_of_mem hmem
      refine ⟨t ++ before.flatMap (fun t => 44 :: t) ++ [44], after.flatMap fun t => 44 :: t, ?_⟩
      simp

/-! ## Numbers -/

theorem comma_notMem_decimal (n : Int) : (44 : Byte) ∉ decimal n := by
  intro hmem
  rcases mem_decimal hmem with h | h
  · exact absurd h (by decide)
  · exact absurd h (by decide)

theorem quote_notMem_decimal (n : Int) : (34 : Byte) ∉ decimal n := by
  intro hmem
  rcases mem_decimal hmem with h | h
  · exact absurd h (by decide)
  · exact absurd h (by decide)

theorem quote_notMem_intercalate {texts : List Line} (h : ∀ t ∈ texts, (34 : Byte) ∉ t) :
    (34 : Byte) ∉ (ascii ",").intercalate texts := by
  cases texts with
  | nil => simp
  | cons t ts =>
    rw [List.forall_mem_cons] at h
    rw [intercalate_eq, List.mem_append, not_or, List.mem_flatMap]
    refine ⟨h.1, ?_⟩
    rintro ⟨u, hu, hmem⟩
    rcases List.mem_cons.1 hmem with heq | hmem
    · exact absurd heq (by decide)
    · exact h.2 u hu hmem

theorem quote_notMem_commas (numbers : List Int) : (34 : Byte) ∉ commas numbers := by
  apply quote_notMem_intercalate
  intro t ht
  obtain ⟨n, -, rfl⟩ := List.mem_map.1 ht
  exact quote_notMem_decimal n

theorem split_injective {delim : Byte} {pre pre' rest rest' : Line} (h : delim ∉ pre) (h' : delim ∉ pre')
    (heq : pre ++ delim :: rest = pre' ++ delim :: rest') : pre = pre' ∧ rest = rest' := by
  have hsplit : AtTok.strsep (pre ++ delim :: rest) delim = (pre, some rest) := strsep_append h
  rw [heq, strsep_append h', Prod.mk.injEq, Option.some.injEq] at hsplit
  exact ⟨hsplit.1.symm, hsplit.2.symm⟩

theorem commas_map_iff {α : Type} (f g : α → Int) (l : List α) :
    commas (l.map f) = commas (l.map g) ↔ ∀ a ∈ l, decimal (f a) = decimal (g a) := by
  constructor
  · intro h
    cases l with
    | nil => simp
    | cons a l =>
      simp only [commas, List.map_cons, intercalate_eq] at h
      induction l generalizing a with
      | nil => simpa using h
      | cons b l ih =>
        simp only [List.map_cons, List.flatMap_cons, List.cons_append] at h
        obtain ⟨hfirst, hrest⟩ := split_injective (comma_notMem_decimal _) (comma_notMem_decimal _) h
        rw [List.forall_mem_cons]
        exact ⟨hfirst, ih b hrest⟩
  · intro h
    have htexts : (l.map f).map decimal = (l.map g).map decimal := by
      rw [List.map_map, List.map_map, List.map_inj_left]
      exact h
    rw [commas, commas, htexts]

/-- A channel is printed as it is, unless it has the bit of the sign. -/
theorem decimal_toInt_iff (c : UInt32) : decimal (toInt c.toNat) = decimal c.toNat ↔ c.toNat < 2 ^ 31 := by
  have hbound := c.toNat_lt
  constructor
  · intro h
    by_contra hle
    have hneg : toInt c.toNat < 0 := by
      rw [toInt, Int.bmod_eq_emod]
      split
      · omega
      · omega
    obtain ⟨n, hn⟩ := Int.eq_negSucc_of_lt_zero hneg
    rw [hn, decimal_negSucc] at h
    have hdigit := isdigit_decimal c.toNat 45 (by rw [← h]; exact List.mem_cons_self)
    exact absurd hdigit (by decide)
  · intro h
    rw [toInt_of_range (by omega) (by omega)]

/-! ## The items -/

theorem scanItem_append (access : Int) (bands channels tail : Line) :
    scanItem access bands channels ++ tail =
      (decimal access ++ [44]) ++ 34 :: (bands ++ 34 :: ([44] ++ 34 :: (channels ++ 34 :: tail))) := by
  simp [scanItem, quoted, ascii]

theorem quote_notMem_listed {α : Type} (f : α → Int) (l : List α) :
    (34 : Byte) ∉ listed (l.map fun a => decimal (f a)) := by
  rw [listed_eq]
  refine fun hmem => quote_notMem_intercalate (fun t ht => ?_) (List.mem_of_mem_take hmem)
  obtain ⟨a, -, rfl⟩ := List.mem_map.1 ht
  exact quote_notMem_decimal (f a)

theorem quote_notMem_bandsBuffer (p : RIL_RadioAccessSpecifier) : (34 : Byte) ∉ p.bandsBuffer := by
  unfold RIL_RadioAccessSpecifier.bandsBuffer
  split
  · exact quote_notMem_listed id p.bands
  · simp

theorem quote_notMem_channelsBuffer (p : RIL_RadioAccessSpecifier) : (34 : Byte) ∉ p.channelsBuffer := by
  unfold RIL_RadioAccessSpecifier.channelsBuffer
  apply quote_notMem_listed

theorem count_quote {pre : Line} (h : (34 : Byte) ∉ pre) (rest : Line) :
    (pre ++ 34 :: rest).count 34 = rest.count 34 + 1 := by
  rw [List.count_append, List.count_eq_zero.2 h, List.count_cons_self, Nat.zero_add]

theorem count_scanItem (access : Int) {bands channels : Line} (hbands : (34 : Byte) ∉ bands)
    (hchannels : (34 : Byte) ∉ channels) : (scanItem access bands channels).count 34 = 4 := by
  have haccess : (34 : Byte) ∉ decimal access ++ [44] := by
    have hquote := quote_notMem_decimal access
    simp [hquote]
  have htext := scanItem_append access bands channels []
  rw [List.append_nil] at htext
  rw [htext, count_quote haccess, count_quote hbands, count_quote (by decide), count_quote hchannels]
  rfl

theorem count_items {items : List Line} (h : ∀ item ∈ items, item.count 34 = 4) :
    ((ascii ",").intercalate items).count 34 = 4 * items.length := by
  cases items with
  | nil => rfl
  | cons item items =>
    rw [intercalate_eq]
    induction items generalizing item with
    | nil => simpa using h
    | cons item' items ih =>
      rw [List.forall_mem_cons] at h
      have hrest := ih item' h.2
      rw [List.count_append] at hrest
      rw [List.flatMap_cons, List.count_append, List.count_append, List.count_cons_of_ne (by decide), hrest, h.1]
      simp only [List.length_cons]
      omega

theorem item_injective {access : Int} {pre pre' bands bands' channels channels' tail tail' : Line}
    (hpre : (34 : Byte) ∉ pre) (hpre' : (34 : Byte) ∉ pre') (hbands : (34 : Byte) ∉ bands)
    (hbands' : (34 : Byte) ∉ bands') (hchannels : (34 : Byte) ∉ channels) (hchannels' : (34 : Byte) ∉ channels')
    (h : pre ++ (scanItem access bands channels ++ tail) = pre' ++ (scanItem access bands' channels' ++ tail')) :
    bands = bands' ∧ channels = channels' ∧ tail = tail' := by
  have hbegin {pre : Line} (hpre : (34 : Byte) ∉ pre) : (34 : Byte) ∉ pre ++ (decimal access ++ [44]) := by
    have hquote := quote_notMem_decimal access
    simp [hpre, hquote]
  rw [scanItem_append, scanItem_append, ← List.append_assoc pre, ← List.append_assoc pre'] at h
  obtain ⟨-, h⟩ := split_injective (hbegin hpre) (hbegin hpre') h
  obtain ⟨hsame, h⟩ := split_injective hbands hbands' h
  obtain ⟨-, h⟩ := @split_injective 34 [44] [44] _ _ (by decide) (by decide) h
  obtain ⟨hsame', htail⟩ := split_injective hchannels hchannels' h
  exact ⟨hsame, hsame', htail⟩

/-- The same items behind other beginnings have the same lists. -/
theorem items_injective {p : RIL_RadioAccessSpecifier} {ps : List RIL_RadioAccessSpecifier} {pre pre' : Line}
    (hpre : (34 : Byte) ∉ pre) (hpre' : (34 : Byte) ∉ pre')
    (h : pre ++ (ascii ",").intercalate ((p :: ps).map itemSent) = pre' ++ listAsked (p :: ps)) :
    ∀ q ∈ p :: ps, q.bandsBuffer = commas q.bands ∧
      q.channelsBuffer = commas (q.channels.map fun c => (c.toNat : Int)) := by
  rw [listAsked, List.map_cons, List.map_cons, intercalate_eq, intercalate_eq] at h
  induction ps generalizing p pre pre' with
  | nil =>
    obtain ⟨hbands, hchannels, -⟩ := item_injective hpre hpre' (quote_notMem_bandsBuffer p) (quote_notMem_commas _)
      (quote_notMem_channelsBuffer p) (quote_notMem_commas _) h
    rw [List.forall_mem_singleton]
    exact ⟨hbands, hchannels⟩
  | cons q ps ih =>
    obtain ⟨hbands, hchannels, hrest⟩ := item_injective hpre hpre' (quote_notMem_bandsBuffer p) (quote_notMem_commas _)
      (quote_notMem_channelsBuffer p) (quote_notMem_commas _) h
    rw [List.forall_mem_cons]
    exact ⟨⟨hbands, hchannels⟩, @ih q [44] [44] (by decide) (by decide) hrest⟩

/-! ## The command -/

/-- The text that is cut to the command. -/
def textSent (specifiers : List RIL_RadioAccessSpecifier) : Line :=
  ascii "AT+SPFREQSCAN=" ++ (ascii ",").intercalate (specifiers.map itemSent)

theorem count_textSent (specifiers : List RIL_RadioAccessSpecifier) :
    (textSent specifiers).count 34 = 4 * specifiers.length := by
  have hitems : ∀ item ∈ specifiers.map itemSent, item.count 34 = 4 := by
    intro item hitem
    obtain ⟨p, -, rfl⟩ := List.mem_map.1 hitem
    exact count_scanItem _ (quote_notMem_bandsBuffer p) (quote_notMem_channelsBuffer p)
  have hbegin : (ascii "AT+SPFREQSCAN=").count 34 = 0 := by decide
  rw [textSent, List.count_append, count_items hitems, hbegin, List.length_map, Nat.zero_add]

theorem count_listAsked (specifiers : List RIL_RadioAccessSpecifier) :
    (listAsked specifiers).count 34 = 4 * specifiers.length := by
  have hitems : ∀ item ∈ specifiers.map itemAsked, item.count 34 = 4 := by
    intro item hitem
    obtain ⟨p, -, rfl⟩ := List.mem_map.1 hitem
    exact count_scanItem _ (quote_notMem_commas _) (quote_notMem_commas _)
  rw [listAsked, count_items hitems, List.length_map]

theorem textSent_ends (p : RIL_RadioAccessSpecifier) (ps : List RIL_RadioAccessSpecifier) :
    (textSent (p :: ps)).getLast? = some 34 := by
  have hitem (s : Line) (q : RIL_RadioAccessSpecifier) : (s ++ itemSent q).getLast? = some 34 := by
    rw [itemSent, scanItem, quoted, quoted, ← List.append_assoc, ← List.append_assoc, ← List.append_assoc,
      List.getLast?_append]
    rfl
  rw [textSent, List.map_cons, intercalate_eq]
  rcases List.eq_nil_or_concat ps with rfl | ⟨init, q, rfl⟩
  · rw [List.map_nil, List.flatMap_nil, List.append_nil]
    exact hitem _ p
  · rw [List.concat_eq_append, List.map_append, List.flatMap_append, List.map_singleton, List.flatMap_singleton]
    have hlast := hitem [44] q
    rw [List.singleton_append] at hlast
    rw [List.getLast?_append, List.getLast?_append, List.getLast?_append, hlast]
    rfl

/-- A text that holds all items, as many quotation marks as there are, is the whole text. -/
theorem sent_of_isInfix {p : RIL_RadioAccessSpecifier} {ps : List RIL_RadioAccessSpecifier}
    (h : listAsked (p :: ps) <:+: snprintf AT_COMMAND_LEN (textSent (p :: ps))) :
    (textSent (p :: ps)).length < AT_COMMAND_LEN ∧
      ∃ pre, (34 : Byte) ∉ pre ∧ textSent (p :: ps) = pre ++ listAsked (p :: ps) := by
  obtain ⟨pre, post, hsent⟩ := h
  have htext : textSent (p :: ps) =
      pre ++ listAsked (p :: ps) ++ (post ++ (textSent (p :: ps)).drop (AT_COMMAND_LEN - 1)) := by
    rw [← List.append_assoc, hsent, snprintf, List.take_append_drop]
  have hcount := congrArg (List.count 34) htext
  rw [List.count_append, List.count_append, count_textSent, count_listAsked] at hcount
  have hpre : (34 : Byte) ∉ pre := List.count_eq_zero.1 (by omega)
  have hpost : (34 : Byte) ∉ post ++ (textSent (p :: ps)).drop (AT_COMMAND_LEN - 1) := List.count_eq_zero.1 (by omega)
  have hempty : post ++ (textSent (p :: ps)).drop (AT_COMMAND_LEN - 1) = [] := by
    by_contra hne
    have hlast := textSent_ends p ps
    rw [htext, List.getLast?_append, List.getLast?_eq_some_getLast hne, Option.some_or, Option.some.injEq] at hlast
    rw [← hlast] at hpost
    exact hpost (List.getLast_mem hne)
  rw [hempty, List.append_nil] at htext
  refine ⟨?_, pre, hpre, htext⟩
  have hfits := List.drop_eq_nil_iff.1 (List.append_eq_nil_iff.1 hempty).2
  unfold AT_COMMAND_LEN at hfits ⊢
  omega

theorem buffers_of_isInfix {p : RIL_RadioAccessSpecifier} {ps : List RIL_RadioAccessSpecifier}
    (h : listAsked (p :: ps) <:+: snprintf AT_COMMAND_LEN (textSent (p :: ps))) :
    ∀ q ∈ p :: ps, q.bandsBuffer = commas q.bands ∧
      q.channelsBuffer = commas (q.channels.map fun c => (c.toNat : Int)) := by
  obtain ⟨-, pre, hpre, htext⟩ := sent_of_isInfix h
  exact items_injective (by decide) hpre htext

theorem length_channelsBuffer {p : RIL_RadioAccessSpecifier} {ps : List RIL_RadioAccessSpecifier} (h : p ∈ ps) :
    p.channelsBuffer.length + 1 < (textSent ps).length := by
  have hitem := (infix_intercalate (List.mem_map_of_mem (f := itemSent) h)).length_le
  have hlen : p.channelsBuffer.length + 1 < (itemSent p).length := by
    simp [itemSent, scanItem, quoted, ascii]
    omega
  rw [textSent, List.length_append]
  omega

/-- What a buffer that is not full holds is printed whole. -/
theorem listed_whole {texts : List Line} (h : (listed texts).length + 1 < AT_COMMAND_LEN) :
    listed texts = (ascii ",").intercalate texts := by
  rw [listed_eq] at h ⊢
  rw [snprintf, List.length_take] at h
  exact snprintf_of_lt (by omega)

theorem itemSent_eq {p : RIL_RadioAccessSpecifier} (h : p.bandsBuffer = commas p.bands ∧
    p.channelsBuffer = commas (p.channels.map fun c => (c.toNat : Int))) : itemSent p = itemAsked p := by
  rw [itemSent, itemAsked, h.1, h.2]

theorem commas_eq_nil_iff (numbers : List Int) : commas numbers = [] ↔ numbers = [] := by
  cases numbers with
  | nil => simp [commas]
  | cons n numbers =>
    have hne := decimal_int_ne_nil n
    simp [commas, intercalate_eq, hne]

theorem channelsBuffer_whole {p : RIL_RadioAccessSpecifier} (h : p.channelsBuffer.length + 1 < AT_COMMAND_LEN) :
    p.channelsBuffer = commas (p.channels.map fun c => toInt c.toNat) := by
  have hwhole := listed_whole h
  rw [RIL_RadioAccessSpecifier.channelsBuffer, hwhole, commas, List.map_map, Function.comp_def]

theorem listed_of_lt {numbers : List Int} (h : (commas numbers).length < AT_COMMAND_LEN) :
    listed (numbers.map decimal) = commas numbers := by
  rw [listed_eq]
  exact snprintf_of_lt h

theorem buffers_fit {p : RIL_RadioAccessSpecifier} (hlen : (itemAsked p).length < AT_COMMAND_LEN)
    (hbands : p.known ∨ p.bands = []) (hchannels : ∀ c ∈ p.channels, c.toNat < 2 ^ 31) :
    p.bandsBuffer = commas p.bands ∧ p.channelsBuffer = commas (p.channels.map fun c => (c.toNat : Int)) := by
  simp only [itemAsked, scanItem, quoted, List.length_append] at hlen
  constructor
  · rw [RIL_RadioAccessSpecifier.bandsBuffer]
    split
    · exact listed_of_lt (by omega)
    · next hunknown =>
      rw [hbands.resolve_left hunknown]
      rfl
  · have hsame : commas (p.channels.map fun c => toInt c.toNat) = commas (p.channels.map fun c => (c.toNat : Int)) :=
      (commas_map_iff _ _ _).2 fun c hc => (decimal_toInt_iff c).2 (hchannels c hc)
    have hwhole := @listed_of_lt (p.channels.map fun c => toInt c.toNat) (by rw [hsame]; omega)
    rw [List.map_map, Function.comp_def] at hwhole
    rw [← hsame, ← hwhole, RIL_RadioAccessSpecifier.channelsBuffer]

/-- The command names all exactly if it fits. -/
theorem scanCommand_names_iff (specifiers : List RIL_RadioAccessSpecifier) :
    listAsked specifiers <:+: scanCommand specifiers ↔ ScanFitsBuffer specifiers := by
  cases specifiers with
  | nil => simp [listAsked, ScanFitsBuffer]
  | cons p ps =>
    have hcommand : scanCommand (p :: ps) = snprintf AT_COMMAND_LEN (textSent (p :: ps)) := scanCommand_eq p ps
    rw [hcommand, ScanFitsBuffer, or_iff_right (List.cons_ne_nil p ps)]
    constructor
    · intro h
      have hbuffers := buffers_of_isInfix h
      have hfits := (sent_of_isInfix h).1
      have hitems : (p :: ps).map itemSent = (p :: ps).map itemAsked :=
        List.map_inj_left.2 fun q hq => itemSent_eq (hbuffers q hq)
      refine ⟨?_, fun q hq => ⟨?_, ?_⟩⟩
      · rwa [textSent, hitems, List.length_append] at hfits
      · by_cases hknown : q.known
        · exact .inl hknown
        · have hbands := (hbuffers q hq).1
          rw [RIL_RadioAccessSpecifier.bandsBuffer, if_neg hknown] at hbands
          exact .inr ((commas_eq_nil_iff q.bands).1 hbands.symm)
      · have hroom := length_channelsBuffer hq
        have hchannels := (hbuffers q hq).2
        rw [channelsBuffer_whole (Nat.lt_trans hroom hfits), commas_map_iff] at hchannels
        exact fun c hc => (decimal_toInt_iff c).1 (hchannels c hc)
    · rintro ⟨hfits, hall⟩
      have hitems : (p :: ps).map itemSent = (p :: ps).map itemAsked := by
        refine List.map_inj_left.2 fun q hq => itemSent_eq ?_
        have hroom := (infix_intercalate (List.mem_map_of_mem (f := itemAsked) hq)).length_le
        rw [← listAsked] at hroom
        exact buffers_fit (by omega) (hall q hq).1 (hall q hq).2
      have htext : textSent (p :: ps) = ascii "AT+SPFREQSCAN=" ++ listAsked (p :: ps) := by
        rw [textSent, hitems, listAsked]
      rw [snprintf_of_lt (by rw [htext, List.length_append]; exact hfits), htext]
      exact (List.suffix_append _ _).isInfix

/-! ## The run -/

section

variable (data : RIL_NetworkScanRequest) (t : RIL_Token) (w : World Unit)

theorem requestStartNetworkScan_log :
    ∃ e, (after (requestStartNetworkScan data t) w).log =
      w.log ++ [.at_send_command (scanCommand data.specifiers), .RIL_onRequestComplete t e .NULL] := by
  refine after_of_ends (P := fun w' : World Unit => ∃ e, w'.log =
    w.log ++ [.at_send_command (scanCommand data.specifiers), .RIL_onRequestComplete t e .NULL]) ?_
  simp [requestStartNetworkScan]

end

/-- **A scan command names everything** exactly if it fits into its buffer. -/
theorem names_all_iff (data : RIL_NetworkScanRequest) (t : RIL_Token) (answers : Nat → Answer)
    (allocates : Nat → Bool) :
    NamesAll data t (after (requestStartNetworkScan data t) (World.start answers allocates ())).log ↔
      ScanFitsBuffer data.specifiers := by
  obtain ⟨e, hlog⟩ := requestStartNetworkScan_log data t (World.start answers allocates ())
  rw [hlog, ← scanCommand_names_iff]
  constructor
  · intro h
    exact h.1 _ (by simp)
  · intro h
    constructor
    · intro cmd hcmd
      obtain rfl : cmd = scanCommand data.specifiers := by simpa [World.start] using hcmd
      exact h
    · exact .inl ⟨scanCommand data.specifiers, by simp⟩

/-- 32 channels, as many as a request may have. -/
def manyChannels : RIL_NetworkScanRequest :=
  { type := 0
    interval := 0
    specifiers := [{ radio_access_network := EUTRAN, bands := [38], channels := List.replicate 32 38000 }] }

theorem names_all_fails_channels :
    ¬ NamesAll manyChannels (some 0)
      (after (requestStartNetworkScan manyChannels (some 0))
        (World.start (fun _ => .response (ascii "OK") []) (fun _ => true) ())).log := by
  intro h
  obtain ⟨e, hlog⟩ := requestStartNetworkScan_log manyChannels (some 0)
    (World.start (fun _ => .response (ascii "OK") []) (fun _ => true) ())
  have hnames := h.1 (scanCommand manyChannels.specifiers) (by rw [hlog]; simp)
  rw [scanCommand_names_iff] at hnames
  rcases hnames with hnone | ⟨hfits, -⟩
  · cases hnone
  · exact absurd hfits (by decide +kernel)

end UniRil.NetworkRequests
