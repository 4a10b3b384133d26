import UniRil.Stk.Channels
import UniRil.Stk.Sessions

/-!
# SEND DATA over a session

What was stored goes out with the next immediate command, as long as it fits the buffer of the
channel and the socket does not fail.
-/

namespace UniRil.Stk

open FailRules

variable {s s' : State} {c : Addr} {id : Nat}

/-! ## Commands -/

/-- SEND DATA on the channel, to store the payload or to send it at once. -/
structure SendRequest (id : Nat) where
  tlvs : List TLV
  cmdDet : CommandDetails
  payload : List Byte
  parsed : processSendData tlvs = { channelId := id, sendDataStr := some (convertBinToHex payload) }
  short : payload.length ≤ 255
  mode : cmdDet.commandQualifier = SEND_DATA_STORE ∨ cmdDet.commandQualifier = SEND_DATA_IMMEDIATELY

variable {p : SendRequest id}

/-- The state, with the payloads acknowledged since the last immediate command. -/
structure Session where
  state : State
  acknowledged : List Byte

def Event.isOk : Event → Bool
  | .sendTRData r => r.resCode = OK
  | _ => false

/-- What goes out between two states. -/
def eventsSince (s s' : State) : List Event := s'.log.drop s.log.length

def sendStep (t : Session) (p : SendRequest id) : Option Session :=
  (completed (clientSendData p.tlvs p.cmdDet) t.state).map fun s =>
    { state := s
      acknowledged :=
        if p.cmdDet.commandQualifier = SEND_DATA_IMMEDIATELY then []
        else if (eventsSince t.state s).any Event.isOk then t.acknowledged ++ p.payload
        else t.acknowledged }

def Event.written (fd : Int) : Event → List Byte
  | .write fd' data => if fd' = fd then data else []
  | _ => []

/-- What the socket has taken. -/
def written (fd : Int) (events : List Event) : List Byte := events.flatMap (Event.written fd)

/-- An immediate command sends what was acknowledged and its own payload, and the length that is
reported is one. -/
def SendsAll (fd : Int) (t : Session) (p : SendRequest id) : Prop :=
  ∀ t', sendStep t p = some t' →
    (p.cmdDet.commandQualifier = SEND_DATA_IMMEDIATELY →
        written fd (eventsSince t.state t'.state) = t.acknowledged ++ p.payload) ∧
      ∀ r channelLen, .sendTRData r ∈ eventsSince t.state t'.state → r.body = .channelDataLength channelLen →
        0 ≤ channelLen ∧ channelLen ≤ 255

theorem eventsSince_of_log {es : List Event} (h : s'.log = s.log ++ es) : eventsSince s s' = es := by
  rw [eventsSince, h, List.drop_left]

/-- Whether the socket fails before it has taken so many bytes. -/
def fails : List WriteResult → Nat → Bool
  | _, 0 => false
  | [], _ + 1 => false
  | .again :: writes, n + 1 => fails writes (n + 1)
  | .failed :: _, _ + 1 => true
  | .written k :: writes, n + 1 => fails writes (n + 1 - k)

/-- What is stored fits the buffer, and the socket does not fail. -/
def Fits (bufferSize : Nat) (t : Session) (p : SendRequest id) : Prop :=
  (p.cmdDet.commandQualifier = SEND_DATA_STORE → t.acknowledged.length + p.payload.length ≤ bufferSize) ∧
    (p.cmdDet.commandQualifier = SEND_DATA_IMMEDIATELY →
      fails t.state.writes (t.acknowledged.length + p.payload.length) = false)

/-! ## The socket -/

theorem written_blockingWrite {fd : Int} {writes : List WriteResult} {data : List Byte}
    {r : List Event × List WriteResult} (h : blockingWrite fd writes data = some r) :
    written fd r.1 = data ↔ fails writes data.length = false := by
  induction writes generalizing data r with
  | nil =>
    cases data with
    | nil => cases h; simp [written, fails]
    | cons b data => cases h
  | cons w writes ih =>
    cases data with
    | nil => cases w <;> cases h <;> simp [written, fails]
    | cons b data =>
      cases w with
      | written n =>
        obtain ⟨r', hr', rfl⟩ := Option.map_eq_some_iff.1 h
        have hsplit := List.take_append_drop n (b :: data)
        have hrest := ih hr'
        rw [List.length_drop, List.length_cons] at hrest
        rw [List.length_cons, fails, ← hrest]
        simp only [written, List.flatMap_cons, Event.written, if_true]
        constructor
        · intro heq
          exact List.append_cancel_left (heq.trans hsplit.symm)
        · intro heq
          rw [heq, hsplit]
      | again => exact ih h
      | failed =>
        cases h
        simp [written, Event.written, fails]

theorem not_fails_of_blocked {fd : Int} {writes : List WriteResult} {data : List Byte}
    (h : blockingWrite fd writes data = none) : fails writes data.length = false := by
  induction writes generalizing data with
  | nil => cases data <;> rfl
  | cons w writes ih =>
    cases data with
    | nil => cases w <;> cases h
    | cons b data =>
      cases w with
      | written n =>
        have hrest := ih (Option.map_eq_none_iff.1 h)
        rwa [List.length_drop, List.length_cons] at hrest
      | again => exact ih h
      | failed => cases h

/-! ## The storer -/

theorem convertBinToHex_append (bin bin' : List Byte) :
    convertBinToHex (bin ++ bin') = convertBinToHex bin ++ convertBinToHex bin' :=
  List.flatMap_append

theorem binOfHex_convertBinToHex (bin : List Byte) : binOfHex (convertBinToHex bin) = bin := by
  have hhalf : (convertBinToHex bin).length / 2 = bin.length := by
    rw [length_convertBinToHex]
    omega
  rw [binOfHex, convertHexToBin_convertBinToHex, hhalf]
  exact List.take_left

/-- The text of at most 4095 bytes is not cut. -/
theorem strlcat_convertBinToHex {bin bin' : List Byte} (h : 2 * (bin.length + bin'.length) < MAX_BUFFER_BYTES) :
    strlcat (convertBinToHex bin) (convertBinToHex bin') MAX_BUFFER_BYTES = convertBinToHex (bin ++ bin') := by
  have hlen := length_convertBinToHex bin
  have hlen' := length_convertBinToHex (bin ++ bin')
  rw [List.length_append] at hlen'
  rw [strlcat, if_neg (by omega), ← convertBinToHex_append, List.take_of_length_le (by omega)]

/-- The storer holds what was acknowledged, and its length is counted. -/
structure Pending (id : Nat) (c : Addr) (oc : OpenChannelData) (fd : Int) (t : Session) : Prop where
  context : getStkContext id t.state = some c
  channel : (t.state.contexts c).pOCData = some oc
  socket : fdSocketIdOf (t.state.contexts c) oc.transportType = some fd
  stored : (t.state.contexts c).sendDataStorer = convertBinToHex t.acknowledged
  counted : (t.state.contexts c).sendDataLen = t.acknowledged.length
  fits : t.acknowledged.length ≤ oc.bufferSize

variable {oc : OpenChannelData} {fd : Int} {t : Session}

theorem clientSendData_pending (h : Pending id c oc fd t) (hfd : 0 ≤ fd) :
    clientSendData p.tlvs p.cmdDet t.state =
      (t.state.setContext c (·.givenSend p.cmdDet ⟨id, some (convertBinToHex p.payload)⟩)).sendData c p.cmdDet oc
        (convertBinToHex p.payload) fd := by
  have hrun : clientSendData p.tlvs p.cmdDet t.state = _ := clientSendData_apply p.parsed h.context
  simpa only [h.channel, h.socket, if_neg (show fd ≠ -1 by omega)] using hrun

/-- At most 1500 bytes are stored, so that the text of the next payload is not cut. -/
theorem Pending.length_le (h : Pending id c oc fd t) (hbuffer : oc.bufferSize ≤ DEFAULT_BUFFER_SIZE) :
    t.acknowledged.length + p.payload.length ≤ 1755 := by
  have hfits := h.fits
  have hshort := p.short
  have hmax : DEFAULT_BUFFER_SIZE = 1500 := rfl
  omega

theorem Pending.storer_appended (h : Pending id c oc fd t) (hbuffer : oc.bufferSize ≤ DEFAULT_BUFFER_SIZE) :
    (((t.state.contexts c).givenSend p.cmdDet ⟨id, some (convertBinToHex p.payload)⟩).appended
      (convertBinToHex p.payload)).sendDataStorer = convertBinToHex (t.acknowledged ++ p.payload) := by
  have hlen := h.length_le (p := p) hbuffer
  show strlcat (t.state.contexts c).sendDataStorer _ _ = _
  rw [h.stored, strlcat_convertBinToHex (show _ < 8192 by omega)]

theorem channelLen_pending (h : Pending id c oc fd t) (sc : SendChannelData) :
    ((t.state.contexts c).givenSend p.cmdDet sc).channelLen p.cmdDet.commandQualifier (convertBinToHex p.payload) oc.bufferSize =
      CalcChannelDataLen p.cmdDet.commandQualifier p.payload.length t.acknowledged.length oc.bufferSize := by
  have hhalf : ((convertBinToHex p.payload).length : Int) / 2 = p.payload.length := by
    rw [length_convertBinToHex]
    omega
  rw [StkContext.channelLen, hhalf, ← h.counted]
  rfl

/-- The session when a command came to its end. -/
theorem sendStep_eq {es : List Event} (hrun : clientSendData p.tlvs p.cmdDet t.state = (.ok (), s'))
    (hlog : s'.log = t.state.log ++ es) (hok : es.any Event.isOk) :
    sendStep t p =
        some ⟨s', if p.cmdDet.commandQualifier = SEND_DATA_IMMEDIATELY then [] else t.acknowledged ++ p.payload⟩ ∧
      eventsSince t.state s' = es := by
  have hevents := eventsSince_of_log hlog
  refine ⟨?_, hevents⟩
  simp only [sendStep, completed_eq_some_iff.2 hrun, Option.map_some, hevents, if_pos hok]

theorem sendStep_store (h : Pending id c oc fd t) (hfd : 0 ≤ fd) (hbuffer : oc.bufferSize ≤ DEFAULT_BUFFER_SIZE)
    (hmode : p.cmdDet.commandQualifier = SEND_DATA_STORE) :
    ∃ s', sendStep t p = some ⟨s', t.acknowledged ++ p.payload⟩ ∧
      eventsSince t.state s' = [sendDataAnswer p.cmdDet OK
        (CalcChannelDataLen SEND_DATA_STORE p.payload.length t.acknowledged.length oc.bufferSize).2] ∧
      (t.acknowledged.length + p.payload.length ≤ oc.bufferSize →
        Pending id c oc fd ⟨s', t.acknowledged ++ p.payload⟩) := by
  have hrun : clientSendData p.tlvs p.cmdDet t.state = _ := clientSendData_pending h hfd
  simp only [State.sendData, if_pos hmode] at hrun
  rw [setContext_self, channelLen_pending h, hmode] at hrun
  obtain ⟨hstep, hevents⟩ := sendStep_eq hrun rfl (by simp [Event.isOk, sendDataAnswer])
  rw [if_neg (by rw [hmode]; decide)] at hstep
  refine ⟨_, hstep, hevents, fun hfits => ⟨?_, ?_, ?_, ?_, ?_, ?_⟩⟩
  · rw [getStkContext_noted, getStkContext_setContext (by intro ctx; rfl), getStkContext_setContext (by intro ctx; rfl),
      getStkContext_setContext (by intro ctx; rfl), h.context]
  · rw [noted_contexts, setContext_self, setContext_self, setContext_self]
    exact h.channel
  · rw [noted_contexts, setContext_self, setContext_self, setContext_self]
    exact h.socket
  · rw [noted_contexts, setContext_self, setContext_self, setContext_self]
    exact h.storer_appended hbuffer
  · rw [noted_contexts, setContext_self, setContext_self, setContext_self, StkContext.counted, channelLen_appended,
      ← hmode, channelLen_pending h, hmode, List.length_append]
    rfl
  · rw [List.length_append]
    exact hfits

theorem sendStep_immediate (h : Pending id c oc fd t) (hfd : 0 ≤ fd) (hbuffer : oc.bufferSize ≤ DEFAULT_BUFFER_SIZE)
    (hmode : p.cmdDet.commandQualifier = SEND_DATA_IMMEDIATELY) :
    match blockingWrite fd t.state.writes (t.acknowledged ++ p.payload) with
    | none => sendStep t p = none
    | some r => ∃ s' rest, sendStep t p = some ⟨s', []⟩ ∧
        eventsSince t.state s' = r.1 ++ sendDataAnswer p.cmdDet OK
          (CalcChannelDataLen SEND_DATA_IMMEDIATELY p.payload.length t.acknowledged.length oc.bufferSize).2 :: rest ∧
        (∀ e ∈ rest, e = .receiveDataThread) ∧ Pending id c oc fd ⟨s', []⟩ := by
  have hrun : clientSendData p.tlvs p.cmdDet t.state = _ := clientSendData_pending h hfd
  have hstore : p.cmdDet.commandQualifier ≠ SEND_DATA_STORE := by
    rw [hmode]
    decide
  have hsent : sent fd t.state.writes (t.acknowledged ++ p.payload) =
      blockingWrite fd t.state.writes (t.acknowledged ++ p.payload) := by
    have hlen := h.length_le (p := p) hbuffer
    have hmax : MAX_BUFFER_BYTES = 8192 := rfl
    rw [sent, List.length_append, if_neg (by omega)]
  have hstorer := h.storer_appended (p := p) hbuffer
  simp only [State.sendData, if_neg hstore, setContext_self, setContext_writes, hstorer, binOfHex_convertBinToHex,
    hsent, channelLen_pending h] at hrun
  cases hwrite : blockingWrite fd t.state.writes (t.acknowledged ++ p.payload) with
  | none =>
    simp only [hwrite] at hrun
    simp only [sendStep, completed, hrun, Option.map_none]
  | some r =>
    simp only [hwrite] at hrun
    obtain ⟨rest, hlog, hrest⟩ := sentImmediately_log (congrArg Prod.snd hrun)
    rw [hrun] at hlog
    obtain ⟨hstep, hevents⟩ := sendStep_eq hrun hlog (by simp [Event.isOk, sendDataAnswer])
    rw [if_pos hmode] at hstep
    refine ⟨_, rest, hstep, ?_, hrest, ?_, ?_, ?_, ?_, ?_, Nat.zero_le _⟩
    · rw [hevents, hmode]
    · rw [getStkContext_sentImmediately (by intro ctx; rfl), getStkContext_setContext (by intro ctx; rfl),
        getStkContext_setContext (by intro ctx; rfl), h.context]
    · rw [sentImmediately_context, setContext_self, setContext_self]
      exact h.channel
    · rw [sentImmediately_context, setContext_self, setContext_self]
      exact h.socket
    · rw [sentImmediately_context]
      rfl
    · rw [sentImmediately_context, hmode]
      rfl

/-! ## A run of commands -/

/-- The length that is reported is one exactly as long as the stored data fit. -/
theorem channelLen_range_iff (sendlen sendDataLen bufferSize : Nat) :
    (0 ≤ (CalcChannelDataLen SEND_DATA_STORE sendlen sendDataLen bufferSize).2 ∧
      (CalcChannelDataLen SEND_DATA_STORE sendlen sendDataLen bufferSize).2 ≤ 255) ↔ sendDataLen + sendlen ≤ bufferSize := by
  have hmax : RECEIVE_DATA_MAX_TR_LEN = 237 := rfl
  have hmode : ¬ SEND_DATA_STORE = SEND_DATA_IMMEDIATELY := by decide
  simp only [CalcChannelDataLen, if_neg hmode]
  split <;> omega

theorem channelLen_immediate_range (sendlen sendDataLen : Int) (bufferSize : Nat) :
    0 ≤ (CalcChannelDataLen SEND_DATA_IMMEDIATELY sendlen sendDataLen bufferSize).2 ∧
      (CalcChannelDataLen SEND_DATA_IMMEDIATELY sendlen sendDataLen bufferSize).2 ≤ 255 := by
  have hmax : RECEIVE_DATA_MAX_TR_LEN = 237 := rfl
  simp only [CalcChannelDataLen, if_true]
  split <;> omega

/-- The only answer among the events. -/
theorem mem_answer {events rest : List Event} {det : CommandDetails} {len : Int} (hevents : ∀ e ∈ events, e.ofSocket fd)
    (hrest : ∀ e ∈ rest, e = .receiveDataThread) {r : TerminalResponse} {channelLen : Int}
    (hmem : .sendTRData r ∈ events ++ sendDataAnswer det OK len :: rest) (hbody : r.body = .channelDataLength channelLen) :
    channelLen = len := by
  rcases List.mem_append.1 hmem with hmem | hmem
  · exact (hevents _ hmem).elim
  · rcases List.mem_cons.1 hmem with heq | hmem
    · obtain rfl := Event.sendTRData.inj heq
      exact (ResponseBody.channelDataLength.inj hbody).symm
    · exact nomatch hrest _ hmem

theorem written_answer {events rest : List Event} {det : CommandDetails} {len : Int}
    (hrest : ∀ e ∈ rest, e = .receiveDataThread) :
    written fd (events ++ sendDataAnswer det OK len :: rest) = written fd events := by
  have hnone : written fd rest = [] := List.flatMap_eq_nil_iff.2 fun e he => by rw [hrest e he]; rfl
  rw [written, List.flatMap_append, List.flatMap_cons]
  show _ ++ ([] ++ written fd rest) = _
  rw [hnone, List.nil_append, List.append_nil]
  rfl

theorem sendsAll_iff_fits (h : Pending id c oc fd t) (hfd : 0 ≤ fd) (hbuffer : oc.bufferSize ≤ DEFAULT_BUFFER_SIZE) :
    SendsAll fd t p ↔ Fits oc.bufferSize t p := by
  rcases p.mode with hmode | hmode
  · obtain ⟨s', hstep, hevents, -⟩ := sendStep_store h hfd hbuffer hmode
    have hrange := channelLen_range_iff p.payload.length t.acknowledged.length oc.bufferSize
    have hnot : ¬ p.cmdDet.commandQualifier = SEND_DATA_IMMEDIATELY := by
      rw [hmode]
      decide
    have hfits : Fits oc.bufferSize t p ↔ t.acknowledged.length + p.payload.length ≤ oc.bufferSize := by
      rw [Fits, and_iff_left fun heq => absurd heq hnot, forall_prop_of_true hmode]
    rw [hfits, ← hrange]
    refine ⟨fun hall => ?_, fun hlen t' ht' => ⟨fun heq => absurd heq hnot, fun r channelLen hmem hbody => ?_⟩⟩
    · have hanswer := (hall _ hstep).2
      rw [hevents] at hanswer
      exact hanswer _ _ List.mem_cons_self rfl
    · obtain rfl := Option.some.inj (hstep.symm.trans ht')
      rw [hevents] at hmem
      have hnone : ∀ e ∈ ([] : List Event), e.ofSocket fd := by simp
      rw [mem_answer hnone (by simp) hmem hbody]
      exact hlen
  · have hnot : ¬ p.cmdDet.commandQualifier = SEND_DATA_STORE := by
      rw [hmode]
      decide
    have hfits : Fits oc.bufferSize t p ↔ fails t.state.writes (t.acknowledged ++ p.payload).length = false := by
      rw [Fits, and_iff_right fun heq => absurd heq hnot, forall_prop_of_true hmode, List.length_append]
    rw [hfits]
    have hstep := sendStep_immediate h hfd hbuffer hmode
    cases hwrite : blockingWrite fd t.state.writes (t.acknowledged ++ p.payload) with
    | none =>
      rw [hwrite] at hstep
      refine iff_of_true (fun t' ht' => ?_) (not_fails_of_blocked hwrite)
      cases hstep.symm.trans ht'
    | some r =>
      rw [hwrite] at hstep
      obtain ⟨s', rest, hstep, hevents, hrest, -⟩ := hstep
      rw [← written_blockingWrite hwrite]
      refine ⟨fun hall => ?_, fun hwritten t' ht' => ?_⟩
      · have hwritten := (hall _ hstep).1 hmode
        rwa [hevents, written_answer hrest] at hwritten
      · obtain rfl := Option.some.inj (hstep.symm.trans ht')
        rw [hevents]
        refine ⟨fun _ => (written_answer hrest).trans hwritten, fun r' channelLen hmem hbody => ?_⟩
        rw [mem_answer (blockingWrite_events hwrite) hrest hmem hbody]
        exact channelLen_immediate_range _ _ _

/-- The buffer is not larger than the RIL allows, once the socket was created. -/
theorem createSocketThread_bufferSize {oc : OpenChannelData}
    (h : ((createSocketThread c s).2.contexts c).pOCData = some oc) : oc.bufferSize ≤ DEFAULT_BUFFER_SIZE := by
  simp only [createSocketThread, modifyContext_apply, setContext_self, Option.map_eq_some_iff] at h
  obtain ⟨oc, -, rfl⟩ := h
  split
  · exact Nat.le_refl _
  · rename_i hle
    exact Nat.not_lt.1 hle

/-- The channel has a socket and a buffer that the RIL allows, and nothing is stored for it. -/
structure Established (s : State) (id : Nat) (c : Addr) (oc : OpenChannelData) (fd : Int) : Prop where
  context : getStkContext id s = some c
  channel : (s.contexts c).pOCData = some oc
  buffer : oc.bufferSize ≤ DEFAULT_BUFFER_SIZE
  socket : fdSocketIdOf (s.contexts c) oc.transportType = some fd
  open_ : 0 ≤ fd
  stored : (s.contexts c).sendDataStorer = []
  counted : (s.contexts c).sendDataLen = 0

/-- **SEND DATA loses nothing** exactly as long as what is stored fits the buffer of the channel and the
socket does not fail. -/
theorem sendData_sendsAll_iff (s : State) (id : Nat) (c : Addr) (oc : OpenChannelData) (fd : Int)
    (h : Established s id c oc fd) (ps : List (SendRequest id)) :
    Runs.Steps sendStep (SendsAll fd) ⟨s, []⟩ ps ↔ Runs.Steps sendStep (Fits oc.bufferSize) ⟨s, []⟩ ps := by
  refine Runs.steps_iff_steps (I := Pending id c oc fd) (fun t p t' ht hfits hstep => ?_)
    (fun t p ht => sendsAll_iff_fits ht h.open_ h.buffer) ?_ ps
  · rcases p.mode with hmode | hmode
    · obtain ⟨s', hstep', -, hnext⟩ := sendStep_store ht h.open_ h.buffer hmode
      obtain rfl := Option.some.inj (hstep'.symm.trans hstep)
      exact hnext (hfits.1 hmode)
    · have hstep' := sendStep_immediate ht h.open_ h.buffer hmode
      cases hwrite : blockingWrite fd t.state.writes (t.acknowledged ++ p.payload) with
      | none =>
        rw [hwrite] at hstep'
        cases hstep'.symm.trans hstep
      | some r =>
        rw [hwrite] at hstep'
        obtain ⟨s', -, hstep', -, -, hnext⟩ := hstep'
        obtain rfl := Option.some.inj (hstep'.symm.trans hstep)
        exact hnext
  · exact ⟨h.context, h.channel, h.socket, h.stored, h.counted, Nat.zero_le _⟩

/-- Channel 1 over TCP, with a buffer of two bytes. -/
def smallChannel : State :=
  State.init.addChannel.setContext 0 fun ctx =>
    { ctx with tcpSocket := 5, pOCData := some { bufferSize := 2, transportType := TRANSPORT_TYPE_TCP, hasText := false } }

theorem smallChannel_established :
    Established smallChannel 1 0 { bufferSize := 2, transportType := TRANSPORT_TYPE_TCP, hasText := false } 5 :=
  ⟨by decide, rfl, by decide, rfl, by decide, rfl, rfl⟩

/-- SEND DATA of three bytes, to be stored. -/
def storeThree : SendRequest 1 where
  tlvs := [⟨DEVICE_IDENTITIES, 1, 2, [0x81, 0x21]⟩, ⟨CHANNEL_DATA, 1, 3, [1, 2, 3]⟩]
  cmdDet := noDetails
  payload := [1, 2, 3]
  parsed := rfl
  short := by decide
  mode := .inl rfl

theorem sendData_sendsAll_iff_three :
    Runs.Steps sendStep (SendsAll 5) ⟨smallChannel, []⟩ [storeThree] ↔
      Runs.Steps sendStep (Fits 2) ⟨smallChannel, []⟩ [storeThree] :=
  sendData_sendsAll_iff _ _ _ _ _ smallChannel_established _

/-- Three bytes in a buffer of two: the length that is reported is -1. -/
theorem store_reports_negative : ¬ Runs.Steps sendStep (SendsAll 5) ⟨smallChannel, []⟩ [storeThree] := by
  intro h
  have hend : (sendStep ⟨smallChannel, []⟩ storeThree).any fun t =>
      sendDataAnswer noDetails OK (-1) ∈ eventsSince smallChannel t.state := by decide
  obtain ⟨t, hstep, ht⟩ := (Option.any_eq_true _ _).1 hend
  have hrange := (h.1 t hstep).2 _ (-1) (of_decide_eq_true ht) rfl
  exact absurd hrange.1 (by decide)

end UniRil.Stk
