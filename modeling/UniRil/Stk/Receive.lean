import Mathlib.Data.List.GetD
import UniRil.Stk.Channels
import UniRil.Stk.Sessions

/-!
# RECEIVE DATA over one packet

As long as a block is not asked for when less is left, the answers carry the packet piece by piece.
-/

namespace UniRil.Stk

open FailRules

variable {s s' : State} {c : Addr} {id : Nat} {packet : List Byte}

/-! ## What was delivered -/

def ResponseBody.data : ResponseBody → List Byte
  | .channelData data _ => data
  | _ => []

def Event.data : Event → List Byte
  | .sendTRData r => r.body.data
  | _ => []

/-- The data of the answers. -/
def delivered (events : List Event) : List Byte := events.flatMap Event.data

@[simp] theorem delivered_append (es es' : List Event) : delivered (es ++ es') = delivered es ++ delivered es' :=
  List.flatMap_append

theorem delivered_answer (offset : Int) (count : Nat) (r : TerminalResponse) :
    delivered [.copy offset count, .sendTRData r] = r.body.data := by
  simp [delivered, Event.data]

/-- The answers carry the packet, and nothing but the packet is read. -/
structure Delivers (packet : List Byte) (events : List Event) (released : Prop) : Prop where
  isPrefix : delivered events <+: packet
  whole : released → delivered events = packet
  inside : ∀ (offset : Int) (count : Nat), .copy offset count ∈ events → 0 ≤ offset ∧ offset + count ≤ packet.length
  remaining : ∀ before r after data (dataLen : Int), events = before ++ .sendTRData r :: after →
    r.body = .channelData data dataLen →
    dataLen = if RECEIVE_DATA_MAX_TR_LEN < (packet.length : Int) - (delivered before ++ data).length then 0xff
      else (packet.length : Int) - (delivered before ++ data).length

/-! ## Requests -/

/-- RECEIVE DATA on the channel, with what lies behind the command and around the packet. -/
structure ReceiveRequest (id : Nat) where
  beyond : Mem
  around : Int → Byte
  tlvs : List TLV
  cmdDet : CommandDetails
  onChannel : (processReceiveData (beyond 0) tlvs).channelId = id

variable {p : ReceiveRequest id}

def ReceiveRequest.channelDataLength (p : ReceiveRequest id) : Nat :=
  (processReceiveData (p.beyond 0) p.tlvs).channelDataLength

def receiveStep (s : State) (p : ReceiveRequest id) : Option State :=
  completed (clientReceiveData p.beyond p.around p.tlvs p.cmdDet) s

/-- A block is asked for only when as much is left. -/
def BlockFits (c : Addr) (s : State) (p : ReceiveRequest id) : Prop :=
  RECEIVE_DATA_MAX_TR_LEN ≤ p.channelDataLength → (s.contexts c).recevieData.isSome →
    RECEIVE_DATA_MAX_TR_LEN ≤ (s.contexts c).receiveDataLen

/-! ## One request -/

/-- What is copied for a request, and what is left then. -/
theorem receiveLengths_spec {len left : Int} (offset : Int) (hlen : 0 ≤ len) (hleft : 0 < left)
    (hfits : RECEIVE_DATA_MAX_TR_LEN ≤ len → RECEIVE_DATA_MAX_TR_LEN ≤ left) :
    (0 ≤ (receiveLengths len left).1 ∧ (receiveLengths len left).1 ≤ left) ∧
      (receiveLengths len left).2 = reportedLen (left - (receiveLengths len left).1) ∧
      (afterReceive len left offset).1 = left - (receiveLengths len left).1 ∧
      ((receiveLengths len left).1 < left → (afterReceive len left offset).2 = offset + (receiveLengths len left).1) := by
  have hmax : RECEIVE_DATA_MAX_TR_LEN = 237 := rfl
  unfold afterReceive receiveLengths
  by_cases hblock : len ≥ RECEIVE_DATA_MAX_TR_LEN
  · have hleft' := hfits hblock
    rw [if_pos hblock]
    dsimp only
    rw [if_neg fun hand => absurd hand.1 (Int.not_lt.2 hblock)]
    exact ⟨⟨by omega, hleft'⟩, rfl, rfl, fun _ => rfl⟩
  · rw [if_neg hblock]
    by_cases hpart : left > len
    · have hrest : reportedLen (left - len) ≠ 0 := by
        unfold reportedLen
        split <;> omega
      rw [if_pos hpart]
      dsimp only
      rw [if_neg fun hand => hrest hand.2]
      exact ⟨⟨hlen, by omega⟩, rfl, rfl, fun _ => rfl⟩
    · have hnone : reportedLen (left - left) = 0 := by
        rw [Int.sub_self]
        rfl
      rw [if_neg hpart]
      dsimp only
      rw [if_pos ⟨Int.not_le.1 hblock, rfl⟩]
      exact ⟨⟨by omega, Int.le_refl _⟩, hnone.symm, (Int.sub_self _).symm, fun h => absurd h (Int.lt_irrefl _)⟩

/-- What is copied from inside the packet is a piece of it. -/
theorem copyFrom_inside (beyond : Int → Byte) {offset count : Nat} (h : offset + count ≤ packet.length) :
    copyFrom packet beyond offset count = (packet.drop offset).take count := by
  refine List.ext_getElem (by simp [length_copyFrom]; omega) fun i hi hi' => ?_
  rw [length_copyFrom] at hi
  have hindex : ((offset : Int) + (i : Int)).toNat = offset + i := by omega
  simp only [copyFrom, List.getElem_map, List.getElem_range, List.getElem_take, List.getElem_drop]
  rw [if_pos (by omega), hindex]
  exact List.getD_eq_getElem _ _ (by omega)

/-- One more answer, with the next piece of the packet. -/
theorem Delivers.extend {es : List Event} {released released' : Prop} (h : Delivers packet es released) {k : Nat}
    {r : TerminalResponse} {dataLen : Int} (hk : (delivered es).length + k ≤ packet.length)
    (hbody : r.body = .channelData ((packet.drop (delivered es).length).take k) dataLen)
    (hlen : dataLen = reportedLen (packet.length - ((delivered es).length + k : Nat)))
    (hreleased : released' → (delivered es).length + k = packet.length) :
    Delivers packet (es ++ [.copy (delivered es).length k, .sendTRData r]) released' := by
  have hold : delivered es = packet.take (delivered es).length := List.prefix_iff_eq_take.1 h.isPrefix
  have hpiece : ((packet.drop (delivered es).length).take k).length = k := by
    rw [List.length_take, List.length_drop]
    omega
  have hnew : delivered (es ++ [.copy (delivered es).length k, .sendTRData r]) =
      packet.take ((delivered es).length + k) := by
    rw [delivered_append, delivered_answer, hbody, List.take_add, ← hold]
    rfl
  refine ⟨?_, fun hr => ?_, fun offset count hmem => ?_, fun before r' after data dataLen' heq hbody' => ?_⟩
  · rw [hnew]
    exact List.take_prefix _ _
  · rw [hnew, hreleased hr, List.take_length]
  · rcases List.mem_append.1 hmem with hmem | hmem
    · exact h.inside offset count hmem
    · simp only [List.mem_cons, Event.copy.injEq, reduceCtorEq, List.not_mem_nil, or_false] at hmem
      omega
  · rcases List.append_eq_append_iff.1 heq with ⟨a', rfl, ha'⟩ | ⟨c', rfl, hc'⟩
    · -- the answer is the new one
      obtain ⟨rfl, rfl⟩ : a' = [.copy (delivered es).length k] ∧ r = r' := by
        rcases a' with _ | ⟨e, a'⟩
        · exact nomatch (List.cons.inj ha').1
        · obtain ⟨rfl, hlast⟩ := List.cons.inj ha'
          rcases a' with _ | ⟨e, a'⟩
          · exact ⟨rfl, Event.sendTRData.inj (List.cons.inj hlast).1⟩
          · exact absurd (List.cons.inj hlast).2 (by simp)
      rw [hbody, ResponseBody.channelData.injEq] at hbody'
      obtain ⟨rfl, rfl⟩ := hbody'
      rw [delivered_append, show delivered [.copy (delivered es).length k] = [] from rfl, List.append_nil,
        List.length_append, hpiece, hlen]
      rfl
    · cases c' with
      | nil => simp at hc'
      | cons e c' =>
        obtain ⟨rfl, rfl⟩ := List.cons.inj hc'
        exact h.remaining before r' c' data dataLen' rfl hbody'

/-- The packet is in the buffer, up to what was delivered; or all of it was. -/
structure Receiving (id : Nat) (c : Addr) (packet : List Byte) (base : List Event) (s : State) (events : List Event) :
    Prop where
  log : s.log = base ++ events
  context : getStkContext id s = some c
  delivers : Delivers packet events ((s.contexts c).recevieData = none)
  buffer : ∀ q, (s.contexts c).recevieData = some q → q = packet ∧
    (s.contexts c).receiveDataLen = packet.length - (delivered events).length ∧
      (s.contexts c).receiveDataOffset = (delivered events).length ∧ 0 < (s.contexts c).receiveDataLen

/-- What a request that comes to its end has done. -/
structure Answered (c : Addr) (len : Int) (s s' : State) (det : CommandDetails) (around : Int → Byte)
    (packet : List Byte) : Prop where
  buffered : (s.contexts c).recevieData = some packet ∧ 0 < (s.contexts c).receiveDataLen
  log : s'.log = s.log ++ [.copy (s.contexts c).receiveDataOffset
      (receiveLengths len (s.contexts c).receiveDataLen).1.toNat,
    .sendTRData ⟨det, OK, none, (s.contexts c).answer around packet len⟩]
  left : (s'.contexts c).receiveDataLen =
    (afterReceive len (s.contexts c).receiveDataLen (s.contexts c).receiveDataOffset).1
  offset : (s'.contexts c).receiveDataOffset =
    (afterReceive len (s.contexts c).receiveDataLen (s.contexts c).receiveDataOffset).2
  buffer : (s'.contexts c).recevieData = if (s'.contexts c).receiveDataLen ≤ 0 then none else some packet
  context : ∀ id, getStkContext id s' = getStkContext id s

theorem receiveStep_spec (hget : getStkContext id s = some c) :
    (∃ packet s', receiveStep s p = some s' ∧ Answered c p.channelDataLength s s' p.cmdDet p.around packet) ∨
      receiveStep s p = none ∧
        ∀ packet, (s.contexts c).recevieData = some packet → ¬ 0 < (s.contexts c).receiveDataLen := by
  have hrun : clientReceiveData p.beyond p.around p.tlvs p.cmdDet s = _ :=
    clientReceiveData_apply rfl (p.onChannel.symm ▸ hget)
  cases hpacket : (s.contexts c).recevieData with
  | none =>
    simp only [hpacket] at hrun
    refine .inr ⟨?_, fun packet h => nomatch h⟩
    rw [receiveStep, completed, hrun]
  | some packet =>
    simp only [hpacket] at hrun
    by_cases hlen : 0 < (s.contexts c).receiveDataLen
    · rw [if_pos hlen] at hrun
      refine .inl ⟨packet, _, completed_eq_some_iff.2 hrun, ⟨hpacket, hlen⟩, ?_, ?_, ?_, ?_, fun id => ?_⟩
      · rw [receiveData_log, setContext_self]
        rfl
      · simp only [receiveData_context, setContext_self, StkContext.received, StkContext.givenReceive,
          ReceiveRequest.channelDataLength]
      · simp only [receiveData_context, setContext_self, StkContext.received, StkContext.givenReceive,
          ReceiveRequest.channelDataLength]
      · simp only [receiveData_context, setContext_self, StkContext.received, StkContext.givenReceive, hpacket]
      · rw [getStkContext_receiveData, getStkContext_setContext (by intro ctx; rfl)]
    · rw [if_neg hlen] at hrun
      refine .inr ⟨?_, fun _ _ => hlen⟩
      rw [receiveStep, completed, hrun]

variable {base events : List Event} {det : CommandDetails} {around : Int → Byte}

theorem Receiving.answered (h : Receiving id c packet base s events) {len : Nat} {q : List Byte}
    (ha : Answered c len s s' det around q)
    (hfits : RECEIVE_DATA_MAX_TR_LEN ≤ len → RECEIVE_DATA_MAX_TR_LEN ≤ (s.contexts c).receiveDataLen) :
    ∃ events', Receiving id c packet base s' events' := by
  obtain ⟨rfl, hleft, hoffset, hpos⟩ := h.buffer q ha.buffered.1
  obtain ⟨⟨h0, hle⟩, hremain, hafter, hnext⟩ :=
    receiveLengths_spec (s.contexts c).receiveDataOffset (Int.natCast_nonneg len) hpos hfits
  obtain ⟨k, hk⟩ := Int.eq_ofNat_of_zero_le h0
  have hinside : (delivered events).length + k ≤ q.length := by omega
  have hbody : (s.contexts c).answer around q len =
      .channelData ((q.drop (delivered events).length).take k) (receiveLengths len (s.contexts c).receiveDataLen).2 := by
    rw [StkContext.answer, hoffset, hk, Int.toNat_natCast, copyFrom_inside around hinside]
  have hleft' : (s'.contexts c).receiveDataLen = q.length - ((delivered events).length + k : Nat) := by
    rw [ha.left, hafter]
    omega
  have hlen : (delivered (events ++ [.copy (delivered events).length k,
      .sendTRData ⟨det, OK, none, (s.contexts c).answer around q len⟩])).length = (delivered events).length + k := by
    rw [delivered_append, delivered_answer, hbody, List.length_append, ResponseBody.data, List.length_take,
      List.length_drop]
    omega
  refine ⟨events ++ [.copy (delivered events).length k, .sendTRData ⟨det, OK, none, (s.contexts c).answer around q len⟩],
    ?_, ?_, ?_, fun q' hq' => ?_⟩
  · rw [ha.log, h.log, hoffset, hk, Int.toNat_natCast, List.append_assoc]
  · rw [ha.context, h.context]
  · refine h.delivers.extend hinside hbody ?_ fun hnone => ?_
    · have hrest : (q.length : Int) - (delivered events).length - k = q.length - ((delivered events).length + k : Nat) := by
        omega
      rw [hremain, hk, hleft, hrest]
    · rw [ha.buffer] at hnone
      split at hnone
      · omega
      · cases hnone
  · rw [ha.buffer] at hq'
    split at hq'
    · cases hq'
    · rename_i hmore
      refine ⟨(Option.some.inj hq').symm, by rw [hlen, hleft'], ?_, Int.not_le.1 hmore⟩
      rw [ha.offset, hnext (by omega), hlen, hoffset, hk]
      omega

/-! ## A run of requests -/

/-- **RECEIVE DATA delivers the packet** exactly as long as no block is asked for when less is left. -/
theorem receiveData_delivers_iff (s : State) (id : Nat) (c : Addr) (hget : getStkContext id s = some c)
    (packet : List Byte) (hpacket : packet ≠ []) (ps : List (ReceiveRequest id)) :
    Runs.Always receiveStep
        (fun t => Delivers packet (t.log.drop s.log.length) ((t.contexts c).recevieData = none))
        (storePacket c packet s).2 ps ↔
      Runs.Steps receiveStep (BlockFits c) (storePacket c packet s).2 ps := by
  refine Runs.always_iff_steps_of_invariant (I := fun t => ∃ events, Receiving id c packet s.log t events) ?_ ?_ ?_ ?_ ps
  · rintro t p t' ⟨events, ht⟩ hfits hstep
    rcases receiveStep_spec (p := p) ht.context with ⟨q, t'', hstep', ha⟩ | ⟨hnone, -⟩
    · obtain rfl := Option.some.inj (hstep.symm.trans hstep')
      exact ht.answered ha fun hlen => hfits hlen (by rw [ha.buffered.1]; rfl)
    · cases hnone.symm.trans hstep
  · rintro t ⟨events, ht⟩
    rw [ht.log, List.drop_left]
    exact ht.delivers
  · rintro t p ⟨events, ht⟩ hnot
    obtain ⟨hlen, hsome, hless⟩ : RECEIVE_DATA_MAX_TR_LEN ≤ p.channelDataLength ∧ (t.contexts c).recevieData.isSome ∧
        ¬ RECEIVE_DATA_MAX_TR_LEN ≤ (t.contexts c).receiveDataLen := by
      simpa only [BlockFits, Classical.not_imp] using hnot
    obtain ⟨q, hq⟩ := Option.isSome_iff_exists.1 hsome
    obtain ⟨-, hleft, hoffset, hpos⟩ := ht.buffer q hq
    rcases receiveStep_spec (p := p) ht.context with ⟨q', t', hstep, ha⟩ | ⟨-, hnone⟩
    · refine ⟨t', hstep, fun hdelivers => ?_⟩
      rw [ha.log, ht.log, List.append_assoc, List.drop_left] at hdelivers
      have hinside := (hdelivers.inside _ _ (List.mem_append_right events List.mem_cons_self)).2
      have hblock : (receiveLengths p.channelDataLength (t.contexts c).receiveDataLen).1 = RECEIVE_DATA_MAX_TR_LEN := by
        rw [receiveLengths, if_pos hlen]
      have hmax : RECEIVE_DATA_MAX_TR_LEN = 237 := rfl
      rw [hblock, hoffset] at hinside
      omega
    · exact absurd hpos (hnone q hq)
  · have hcontext : ((storePacket c packet s).2.contexts c).recevieData = some packet := by
      simp [storePacket]
    refine ⟨[], by simp [storePacket], ?_, ⟨List.nil_prefix, ?_, ?_, ?_⟩, ?_⟩
    · exact (getStkContext_setContext (by intro ctx; rfl)).trans hget
    · rw [hcontext]
      exact fun hnone => nomatch hnone
    · simp
    · simp
    · intro q hq
      obtain rfl := Option.some.inj (hcontext.symm.trans hq)
      have hpos := List.length_pos_of_ne_nil hpacket
      refine ⟨rfl, ?_⟩
      simp [storePacket, delivered, hpos]

/-- RECEIVE DATA of so many bytes on channel 1. -/
def requestOf (channelDataLength : Byte) : ReceiveRequest 1 where
  beyond := fun _ => 0
  around := fun _ => 0
  tlvs := [⟨DEVICE_IDENTITIES, 1, 2, [0x81, 0x21]⟩, ⟨CHANNEL_DATA_LENGTH, 1, 1, [channelDataLength]⟩]
  cmdDet := noDetails
  onChannel := rfl

theorem receiveData_delivers_iff_three :
    Runs.Always receiveStep
        (fun t => Delivers [1, 2, 3] (t.log.drop 0) ((t.contexts 0).recevieData = none))
        (storePacket 0 [1, 2, 3] State.init.addChannel).2 [requestOf 2, requestOf 2] ↔
      Runs.Steps receiveStep (BlockFits 0) (storePacket 0 [1, 2, 3] State.init.addChannel).2 [requestOf 2, requestOf 2] :=
  receiveData_delivers_iff State.init.addChannel 1 0 (by decide) [1, 2, 3] (by decide) _

/-- A block of a packet of three bytes: 237 bytes are copied. -/
theorem block_reads_behind :
    ¬ Runs.Always receiveStep
      (fun t => Delivers [1, 2, 3] (t.log.drop 0) ((t.contexts 0).recevieData = none))
      (storePacket 0 [1, 2, 3] State.init.addChannel).2 [requestOf 0xFF] := by
  intro h
  have hend : (Runs.run receiveStep (storePacket 0 [1, 2, 3] State.init.addChannel).2 [requestOf 0xFF]).any
      (fun t => Event.copy 0 237 ∈ t.log) := by decide +kernel
  obtain ⟨t, hrun, ht⟩ := (Option.any_eq_true _ _).1 hend
  have hinside := ((h.last hrun).inside 0 237 (of_decide_eq_true ht)).2
  exact absurd hinside (by decide)

end UniRil.Stk
