import UniRil.Stk.Client

/-!
# What a session does

The functions of ril_stk_bip.c, each run on the context that it finds.
-/

namespace UniRil.Stk

open FailRules

variable {s : State} {c : Addr} {id : Nat}

/-! ## The state -/

/-- The state with one more event. -/
def State.noted (s : State) (e : Event) : State := { s with log := s.log ++ [e] }

@[simp] theorem noted_log (e : Event) : (s.noted e).log = s.log ++ [e] := rfl

@[simp] theorem noted_contexts (e : Event) : (s.noted e).contexts = s.contexts := rfl

@[simp] theorem noted_writes (e : Event) : (s.noted e).writes = s.writes := rfl

@[simp] theorem setContext_log (f : StkContext → StkContext) : (s.setContext c f).log = s.log := rfl

@[simp] theorem setContext_writes (f : StkContext → StkContext) : (s.setContext c f).writes = s.writes := rfl

@[simp] theorem setContext_self (f : StkContext → StkContext) : (s.setContext c f).contexts c = f (s.contexts c) := by
  simp [State.setContext]

@[simp] theorem note_apply (e : Event) : note e s = (.ok (), s.noted e) := rfl

@[simp] theorem readContext_apply {α : Type} (f : StkContext → α) : readContext c f s = (.ok (f (s.contexts c)), s) := rfl

@[simp] theorem modifyContext_apply (f : StkContext → StkContext) : modifyContext c f s = (.ok (), s.setContext c f) := rfl

@[simp] theorem deref_some {α : Type} (a : α) : deref (some a) s = (.ok a, s) := rfl

@[simp] theorem deref_none {α : Type} : deref (none : Option α) s = (.error .nullPointer, s) := rfl

theorem getStkContextFrom_congr {s' : State} (hnodes : s'.nodes = s.nodes)
    (hids : ∀ c, (s'.contexts c).channel_id = (s.contexts c).channel_id) (head : Addr) (fuel : Nat) (tmp : Addr) :
    getStkContextFrom id head s' fuel tmp = getStkContextFrom id head s fuel tmp := by
  induction fuel generalizing tmp with
  | zero => rfl
  | succ fuel ih => simp only [getStkContextFrom, hnodes, hids, ih]

/-- The look-up reads the ring and the numbers of the contexts. -/
theorem getStkContext_congr {s' : State} (hlist : s'.s_stkContextList = s.s_stkContextList) (hnodes : s'.nodes = s.nodes)
    (hfresh : s'.fresh = s.fresh) (hids : ∀ c, (s'.contexts c).channel_id = (s.contexts c).channel_id) :
    getStkContext id s' = getStkContext id s := by
  rw [getStkContext, getStkContext, hlist, hfresh]
  congr 1
  funext head
  exact getStkContextFrom_congr hnodes hids head _ _

theorem getStkContext_setContext {f : StkContext → StkContext} (hf : ∀ ctx, (f ctx).channel_id = ctx.channel_id) :
    getStkContext id (s.setContext c f) = getStkContext id s := by
  refine getStkContext_congr rfl rfl rfl fun d => ?_
  by_cases h : d = c
  · simp [State.setContext, h, hf]
  · simp [State.setContext, h]

@[simp] theorem getStkContext_noted (e : Event) : getStkContext id (s.noted e) = getStkContext id s :=
  getStkContext_congr rfl rfl rfl fun _ => rfl

/-! ## Terminal responses -/

theorem length_bytes (r : TerminalResponse) : r.bytes.length ≤ 13 + r.body.bytes.length := by
  cases h : r.additionalInfo <;> simp [TerminalResponse.bytes, h] <;> omega

theorem fits_of_length (r : TerminalResponse) (h : r.body.bytes.length ≤ 4000) : r.fits = true := by
  have := length_bytes r
  exact decide_eq_true (show r.bytes.length < 4096 by omega)

theorem sendTerminalResponse_apply {det : CommandDetails} {code : Nat} {info : Option Nat} {body : ResponseBody}
    (h : body.bytes.length ≤ 4000) :
    sendTerminalResponse (some det) code info body s = (.ok (), s.noted (.sendTRData ⟨det, code, info, body⟩)) := by
  have hfits := fits_of_length ⟨det, code, info, body⟩ h
  simp [sendTerminalResponse, hfits]

theorem onCmdResponse_apply {det : CommandDetails} {code : Nat} {response : Response}
    (hdet : (s.contexts c).pCmdDet = some det) (h : (response.body code s).bytes.length ≤ 4000) :
    onCmdResponse c code response s = (.ok (), s.noted (.sendTRData ⟨det, code, none, response.body code s⟩)) := by
  simp [onCmdResponse, bindE_apply, hdet, sendTerminalResponse_apply h]

/-! ## Socket -/

/-- Whether the socket comes to take so many bytes, or fails. -/
def takes : List WriteResult → Nat → Bool
  | _, 0 => true
  | [], _ + 1 => false
  | .again :: writes, n + 1 => takes writes (n + 1)
  | .failed :: _, _ + 1 => true
  | .written k :: writes, n + 1 => takes writes (n + 1 - k)

theorem isSome_blockingWrite (fd : Int) (writes : List WriteResult) (data : List Byte) :
    (blockingWrite fd writes data).isSome = takes writes data.length := by
  induction writes generalizing data with
  | nil => cases data <;> rfl
  | cons w writes ih =>
    cases data with
    | nil => cases w <;> rfl
    | cons b data =>
      cases w with
      | written n => simp only [blockingWrite, Option.isSome_map, ih, List.length_drop, List.length_cons, takes]
      | again => simp only [blockingWrite, ih, List.length_cons, takes]
      | failed => rfl

/-- Only the socket is named in the events of a write. -/
def Event.ofSocket (fd : Int) : Event → Prop
  | .write fd' _ => fd' = fd
  | .close fd' => fd' = fd
  | _ => False

theorem blockingWrite_events {fd : Int} {writes : List WriteResult} {data : List Byte}
    {r : List Event × List WriteResult} (h : blockingWrite fd writes data = some r) : ∀ e ∈ r.1, e.ofSocket fd := by
  induction writes generalizing data r with
  | nil =>
    cases data with
    | nil => cases h; simp
    | cons b data => cases h
  | cons w writes ih =>
    cases data with
    | nil => cases w <;> cases h <;> simp
    | cons b data =>
      cases w with
      | written n =>
        obtain ⟨r', hr', rfl⟩ := Option.map_eq_some_iff.1 h
        simp only [List.mem_cons, forall_eq_or_imp]
        exact ⟨rfl, ih hr'⟩
      | again => exact ih h
      | failed => cases h; simp [Event.ofSocket]

/-- What the socket takes of the data that are sent, and the answers left; `none` while it takes no more. -/
def sent (fd : Int) (writes : List WriteResult) (data : List Byte) : Option (List Event × List WriteResult) :=
  if fd < 0 ∨ MAX_BUFFER_BYTES < data.length then some ([], writes) else blockingWrite fd writes data

def State.sending (s : State) (r : List Event × List WriteResult) : State :=
  { s with log := s.log ++ r.1, writes := r.2 }

@[simp] theorem sending_log (r : List Event × List WriteResult) : (s.sending r).log = s.log ++ r.1 := rfl

@[simp] theorem sending_contexts (r : List Event × List WriteResult) : (s.sending r).contexts = s.contexts := rfl

@[simp] theorem getStkContext_sending (r : List Event × List WriteResult) :
    getStkContext id (s.sending r) = getStkContext id s :=
  getStkContext_congr rfl rfl rfl fun _ => rfl

theorem sent_events {fd : Int} {writes : List WriteResult} {data : List Byte} {r : List Event × List WriteResult}
    (h : sent fd writes data = some r) : ∀ e ∈ r.1, e.ofSocket fd := by
  unfold sent at h
  split at h
  · cases h
    simp
  · exact blockingWrite_events h

theorem sendStrData_apply (fd : Int) (data : List Byte) :
    sendStrData fd data s = match sent fd s.writes data with
      | none => (.error .blocked, s)
      | some r => (.ok (), s.sending r) := by
  unfold sendStrData sent
  by_cases hfd : fd < 0 ∨ MAX_BUFFER_BYTES < data.length
  · rw [if_pos hfd, if_pos hfd]
    simp [State.sending]
  · rw [if_neg hfd, if_neg hfd]
    simp only [bindE_apply, getE_apply]
    cases blockingWrite fd s.writes data <;> rfl

/-! ## SEND DATA -/

/-- The storer with the data of one more command. -/
def StkContext.appended (data : List Byte) (ctx : StkContext) : StkContext :=
  { ctx with sendDataStorer := strlcat ctx.sendDataStorer data MAX_BUFFER_BYTES }

/-- The new length, and the length that is answered. -/
def StkContext.channelLen (mode : Nat) (data : List Byte) (bufferSize : Int) (ctx : StkContext) : Int × Int :=
  CalcChannelDataLen mode (data.length / 2) ctx.sendDataLen bufferSize

def StkContext.counted (mode : Nat) (data : List Byte) (bufferSize : Int) (ctx : StkContext) : StkContext :=
  { ctx with sendDataLen := (ctx.channelLen mode data bufferSize).1 }

@[simp] theorem appended_pCmdDet (data : List Byte) (ctx : StkContext) : (ctx.appended data).pCmdDet = ctx.pCmdDet := rfl

@[simp] theorem appended_pOCData (data : List Byte) (ctx : StkContext) : (ctx.appended data).pOCData = ctx.pOCData := rfl

@[simp] theorem channelLen_appended (mode : Nat) (data data' : List Byte) (bufferSize : Int) (ctx : StkContext) :
    (ctx.appended data').channelLen mode data bufferSize = ctx.channelLen mode data bufferSize := rfl

def StkContext.emptied (ctx : StkContext) : StkContext := { ctx with sendDataStorer := [] }

/-- The answer to SEND DATA. -/
def sendDataAnswer (det : CommandDetails) (code : Nat) (channelLen : Int) : Event :=
  .sendTRData ⟨det, code, none, .channelDataLength channelLen⟩

theorem length_channelDataLength_bytes (channelLen : Int) : (ResponseBody.channelDataLength channelLen).bytes.length = 3 :=
  rfl

theorem SendDataResponse_apply {det : CommandDetails} {code : Nat} {len : Int}
    (hdet : (s.contexts c).pCmdDet = some det) :
    SendDataResponse c len code s = (.ok (), s.noted (sendDataAnswer det code (if code = OK then len else 0))) :=
  onCmdResponse_apply hdet (Nat.le_trans (Nat.le_of_eq (length_channelDataLength_bytes _)) (by decide))

theorem answerSendData_apply {det : CommandDetails} {oc : OpenChannelData} {mode : Nat} {data : List Byte}
    (hdet : (s.contexts c).pCmdDet = some det) (hoc : (s.contexts c).pOCData = some oc) :
    answerSendData c mode (data.length / 2) s =
      (.ok (), (s.setContext c (·.counted mode data oc.bufferSize)).noted
        (sendDataAnswer det OK ((s.contexts c).channelLen mode data oc.bufferSize).2)) := by
  simp only [answerSendData, bindE_apply, readContext_apply, hoc, deref_some, modifyContext_apply]
  have hdet' : ((s.setContext c (·.counted mode data oc.bufferSize)).contexts c).pCmdDet = some det := by
    simp [StkContext.counted, hdet]
  refine (SendDataResponse_apply hdet').trans ?_
  rw [if_pos rfl]
  rfl

theorem appendSendData_apply {sc : SendChannelData} {data : List Byte} (hsc : (s.contexts c).pSCData = some sc)
    (hdata : sc.sendDataStr = some data) :
    appendSendData c s = (.ok (), s.setContext c (·.appended data)) := by
  simp only [appendSendData, bindE_apply, readContext_apply, hsc, hdata, deref_some, modifyContext_apply]
  rfl

theorem appendSendData_null {sc : SendChannelData} (hsc : (s.contexts c).pSCData = some sc)
    (hdata : sc.sendDataStr = none) : appendSendData c s = (.error .nullPointer, s) := by
  simp only [appendSendData, bindE_apply, readContext_apply, hsc, hdata, deref_some, deref_none]

/-- The state when the data of an immediate command were sent. -/
def State.sentImmediately (s : State) (c : Addr) (r : List Event × List WriteResult) (answer : Event)
    (counted : StkContext → StkContext) : State :=
  let s := ((s.sending r).setContext c counted).noted answer
  (if (s.contexts c).threadInLoop = false then s.noted .receiveDataThread else s).setContext c (·.emptied)

section SentImmediately

variable {r : List Event × List WriteResult} {answer : Event} {counted : StkContext → StkContext}

theorem sentImmediately_log {s' : State} (h : s' = s.sentImmediately c r answer counted) :
    ∃ rest, s'.log = s.log ++ (r.1 ++ answer :: rest) ∧ ∀ e ∈ rest, e = .receiveDataThread := by
  rw [h, State.sentImmediately]
  split
  · exact ⟨[.receiveDataThread], by simp, by simp⟩
  · exact ⟨[], by simp, by simp⟩

theorem sentImmediately_context :
    (s.sentImmediately c r answer counted).contexts c = (counted (s.contexts c)).emptied := by
  unfold State.sentImmediately
  dsimp only
  split <;> simp

theorem getStkContext_sentImmediately (hcounted : ∀ ctx, (counted ctx).channel_id = ctx.channel_id) :
    getStkContext id (s.sentImmediately c r answer counted) = getStkContext id s := by
  unfold State.sentImmediately
  rw [getStkContext_setContext (by intro ctx; rfl)]
  split <;> simp only [getStkContext_noted, getStkContext_setContext hcounted, getStkContext_sending]

end SentImmediately

theorem sendImmediately_apply {det : CommandDetails} {oc : OpenChannelData} {sc : SendChannelData} {data : List Byte}
    {fd : Int} {mode : Nat} (hdet : (s.contexts c).pCmdDet = some det) (hoc : (s.contexts c).pOCData = some oc)
    (hsc : (s.contexts c).pSCData = some sc) (hdata : sc.sendDataStr = some data) :
    sendImmediately c fd mode (data.length / 2) s =
      let t := s.setContext c (·.appended data)
      match sent fd s.writes (binOfHex (t.contexts c).sendDataStorer) with
      | none => (.error .blocked, t)
      | some r =>
        (.ok (), t.sentImmediately c r (sendDataAnswer det OK ((s.contexts c).channelLen mode data oc.bufferSize).2)
          (·.counted mode data oc.bufferSize)) := by
  simp only [sendImmediately, bindE_apply, appendSendData_apply hsc hdata, readContext_apply, sendStrData_apply]
  dsimp only [setContext_writes]
  cases hsent : sent fd s.writes (binOfHex ((s.setContext c (·.appended data)).contexts c).sendDataStorer) with
  | none => rfl
  | some r =>
    simp only
    have hdet' : (((s.setContext c (·.appended data)).sending r).contexts c).pCmdDet = some det := by
      simpa using hdet
    have hoc' : (((s.setContext c (·.appended data)).sending r).contexts c).pOCData = some oc := by
      simpa using hoc
    rw [answerSendData_apply hdet' hoc']
    have hlen : (((s.setContext c (·.appended data)).sending r).contexts c).channelLen mode data oc.bufferSize =
        (s.contexts c).channelLen mode data oc.bufferSize := by
      simp
    simp only [hlen, State.sentImmediately]
    generalize ((s.setContext c (·.appended data)).sending r).setContext c (·.counted mode data oc.bufferSize) = t
    cases hloop : (t.contexts c).threadInLoop <;> simp [whenE, hloop] <;> rfl

/-! ## RECEIVE DATA -/

/-- The context when a request was answered. -/
def StkContext.received (channelDataLength : Int) (ctx : StkContext) : StkContext :=
  let left := afterReceive channelDataLength ctx.receiveDataLen ctx.receiveDataOffset
  { ctx with
    receiveDataLen := left.1
    receiveDataOffset := left.2
    recevieData := if left.1 ≤ 0 then none else ctx.recevieData }

/-- The bytes of the answer to a request, and what it says to remain. -/
def StkContext.answer (ctx : StkContext) (beyond : Int → Byte) (packet : List Byte) (channelDataLength : Int) :
    ResponseBody :=
  .channelData
    (copyFrom packet beyond ctx.receiveDataOffset (receiveLengths channelDataLength ctx.receiveDataLen).1.toNat)
    (receiveLengths channelDataLength ctx.receiveDataLen).2

theorem receiveLengths_le (channelDataLength receiveDataLen : Int) :
    (receiveLengths channelDataLength receiveDataLen).1 ≤ RECEIVE_DATA_MAX_TR_LEN := by
  unfold receiveLengths
  split
  · exact Int.le_refl _
  · split
    · dsimp only
      omega
    · dsimp only
      omega

theorem length_channelData_bytes (data : List Byte) (dataLen : Int) :
    (ResponseBody.channelData data dataLen).bytes.length ≤ data.length + 6 := by
  by_cases h : data.length < 0x80 <;> simp [ResponseBody.bytes, h]

theorem length_copyFrom (packet : List Byte) (beyond : Int → Byte) (offset : Int) (count : Nat) :
    (copyFrom packet beyond offset count).length = count := by
  rw [copyFrom, List.length_map, List.length_range]

theorem receiveBytes_apply {beyond : Int → Byte} {packet : List Byte} {channelDataLength : Int} {det : CommandDetails}
    (hdet : (s.contexts c).pCmdDet = some det) :
    receiveBytes beyond c packet channelDataLength s =
      (.ok (), ((s.noted (.copy (s.contexts c).receiveDataOffset
          (receiveLengths channelDataLength (s.contexts c).receiveDataLen).1.toNat)).setContext c
        (·.received channelDataLength)).noted
          (.sendTRData ⟨det, OK, none, (s.contexts c).answer beyond packet channelDataLength⟩)) := by
  have hcount := receiveLengths_le channelDataLength (s.contexts c).receiveDataLen
  have hlen : ((s.contexts c).answer beyond packet channelDataLength).bytes.length ≤ 4000 := by
    refine Nat.le_trans (length_channelData_bytes _ _) ?_
    rw [length_copyFrom]
    simp only [RECEIVE_DATA_MAX_TR_LEN] at hcount
    omega
  have hbody : ∀ t, Response.body OK t (.RECEIVE_DATA
        (some (convertBinToHex (copyFrom packet beyond (s.contexts c).receiveDataOffset
          (receiveLengths channelDataLength (s.contexts c).receiveDataLen).1.toNat)))
        (receiveLengths channelDataLength (s.contexts c).receiveDataLen).2) =
      (s.contexts c).answer beyond packet channelDataLength := by
    intro t
    simp [Response.body, bytesOfHex, convertHexToBin_convertBinToHex, StkContext.answer]
  simp only [receiveBytes, bindE_apply, readContext_apply, note_apply, modifyContext_apply, ReceiveDataResponse,
    deref_some]
  refine (onCmdResponse_apply (by simpa using hdet) (by rw [hbody]; exact hlen)).trans ?_
  rw [hbody]
  rfl

/-- The parameters of SEND DATA. -/
def StkContext.givenSend (det : CommandDetails) (sc : SendChannelData) (ctx : StkContext) : StkContext :=
  { ctx with pSCData := some sc, pCmdDet := some det }

/-- What SEND DATA does to a context with a socket. -/
def State.sendData (s : State) (c : Addr) (det : CommandDetails) (oc : OpenChannelData) (data : List Byte) (fd : Int) :
    Except Fault Unit × State :=
  let mode := det.commandQualifier
  let answer := sendDataAnswer det OK ((s.contexts c).channelLen mode data oc.bufferSize).2
  let t := s.setContext c (·.appended data)
  if mode = SEND_DATA_STORE then (.ok (), (t.setContext c (·.counted mode data oc.bufferSize)).noted answer)
  else match sent fd s.writes (binOfHex (t.contexts c).sendDataStorer) with
    | none => (.error .blocked, t)
    | some r => (.ok (), t.sentImmediately c r answer (·.counted mode data oc.bufferSize))

section SendData

variable {tlvs : List TLV} {det : CommandDetails} {sc : SendChannelData}

theorem clientSendData_none (hsc : processSendData tlvs = sc) (hget : getStkContext sc.channelId s = none) :
    clientSendData tlvs det s =
      (.error .nullPointer, s.noted (.sendTRData ⟨det, BIP_ERROR, some CHANNEL_ID_INVALID, .none⟩)) := by
  have hanswer : sendTerminalResponse (some det) BIP_ERROR (some CHANNEL_ID_INVALID) .none s =
      (.ok (), s.noted (.sendTRData ⟨det, BIP_ERROR, some CHANNEL_ID_INVALID, .none⟩)) :=
    sendTerminalResponse_apply (by decide)
  simp only [clientSendData, bindE_apply, getE_apply, hsc, hget, whenE, Option.isNone_none, if_true, hanswer, deref_none]

theorem lunchSendData_apply (hget : getStkContext id s = some c) (hdet : (s.contexts c).pCmdDet = some det)
    (hsc : (s.contexts c).pSCData = some sc) :
    lunchSendData id s =
      match (s.contexts c).pOCData with
      | none => (.error .nullPointer, s)
      | some oc =>
        match fdSocketIdOf (s.contexts c) oc.transportType with
        | none => (.ok (), s.noted (sendDataAnswer det BEYOND_TERMINAL_CAPABILITY 0))
        | some fd =>
          if fd = -1 then (.ok (), s.noted (sendDataAnswer det BEYOND_TERMINAL_CAPABILITY 0))
          else match sc.sendDataStr with
            | none => (.error .nullPointer, s)
            | some data => s.sendData c det oc data fd := by
  have hanswer : SendDataResponse c 0 BEYOND_TERMINAL_CAPABILITY s =
      (.ok (), s.noted (sendDataAnswer det BEYOND_TERMINAL_CAPABILITY 0)) :=
    SendDataResponse_apply hdet
  simp only [lunchSendData, bindE_apply, getE_apply, hget, readContext_apply, hdet, hsc, deref_some]
  cases hoc : (s.contexts c).pOCData with
  | none => rfl
  | some oc =>
    simp only [deref_some]
    cases hfd : fdSocketIdOf (s.contexts c) oc.transportType with
    | none => exact hanswer
    | some fd =>
      simp only
      by_cases hnone : fd = -1
      · rw [if_pos hnone, if_pos hnone]
        exact hanswer
      · rw [if_neg hnone, if_neg hnone]
        cases hdata : sc.sendDataStr with
        | none =>
          split
          · rw [bindE_error (appendSendData_null hsc hdata)]
          · rw [sendImmediately, bindE_error (appendSendData_null hsc hdata)]
        | some data =>
          dsimp only [State.sendData]
          by_cases hstore : det.commandQualifier = SEND_DATA_STORE
          · rw [if_pos hstore, if_pos hstore, bindE_ok (appendSendData_apply hsc hdata)]
            have hdet' : ((s.setContext c (·.appended data)).contexts c).pCmdDet = some det := by simpa using hdet
            have hoc' : ((s.setContext c (·.appended data)).contexts c).pOCData = some oc := by simpa using hoc
            refine (answerSendData_apply hdet' hoc').trans ?_
            rw [setContext_self, channelLen_appended]
            rfl
          · rw [if_neg hstore, if_neg hstore]
            exact sendImmediately_apply hdet hoc hsc hdata

theorem clientSendData_apply (hsc : processSendData tlvs = sc) (hget : getStkContext sc.channelId s = some c) :
    clientSendData tlvs det s =
      let t := s.setContext c (·.givenSend det sc)
      match (s.contexts c).pOCData with
      | none => (.error .nullPointer, t)
      | some oc =>
        match fdSocketIdOf (s.contexts c) oc.transportType with
        | none => (.ok (), t.noted (sendDataAnswer det BEYOND_TERMINAL_CAPABILITY 0))
        | some fd =>
          if fd = -1 then (.ok (), t.noted (sendDataAnswer det BEYOND_TERMINAL_CAPABILITY 0))
          else match sc.sendDataStr with
            | none => (.error .nullPointer, t)
            | some data => t.sendData c det oc data fd := by
  have hget' : getStkContext sc.channelId (s.setContext c (·.givenSend det sc)) = some c := by
    rw [getStkContext_setContext (by intro ctx; rfl), hget]
  have hdet : ((s.setContext c (·.givenSend det sc)).contexts c).pCmdDet = some det := by rw [setContext_self]; rfl
  have hsc' : ((s.setContext c (·.givenSend det sc)).contexts c).pSCData = some sc := by rw [setContext_self]; rfl
  have hrun := lunchSendData_apply hget' hdet hsc'
  rw [setContext_self] at hrun
  simp only [clientSendData, bindE_apply, getE_apply, hsc, hget]
  exact hrun

end SendData

/-! ## RECEIVE DATA, from the command on -/

/-- The parameters of RECEIVE DATA. -/
def StkContext.givenReceive (det : CommandDetails) (rc : ReceiveChannelData) (ctx : StkContext) : StkContext :=
  { ctx with pRCData := some rc, pCmdDet := some det }

/-- The state when a request was answered. -/
def State.receiveData (s : State) (c : Addr) (det : CommandDetails) (around : Int → Byte) (packet : List Byte)
    (channelDataLength : Int) : State :=
  let ctx := s.contexts c
  ((s.noted (.copy ctx.receiveDataOffset (receiveLengths channelDataLength ctx.receiveDataLen).1.toNat)).setContext c
    (·.received channelDataLength)).noted (.sendTRData ⟨det, OK, none, ctx.answer around packet channelDataLength⟩)

theorem receiveData_log {det : CommandDetails} {around : Int → Byte} {packet : List Byte} {len : Int} :
    (s.receiveData c det around packet len).log = s.log ++ [.copy (s.contexts c).receiveDataOffset
        (receiveLengths len (s.contexts c).receiveDataLen).1.toNat,
      .sendTRData ⟨det, OK, none, (s.contexts c).answer around packet len⟩] := by
  simp [State.receiveData]

theorem receiveData_context {det : CommandDetails} {around : Int → Byte} {packet : List Byte} {len : Int} :
    (s.receiveData c det around packet len).contexts c = (s.contexts c).received len := by
  simp [State.receiveData]

theorem getStkContext_receiveData {det : CommandDetails} {around : Int → Byte} {packet : List Byte} {len : Int} :
    getStkContext id (s.receiveData c det around packet len) = getStkContext id s := by
  rw [State.receiveData, getStkContext_noted, getStkContext_setContext (by intro ctx; rfl), getStkContext_noted]

section ReceiveData

variable {tlvs : List TLV} {det : CommandDetails} {rc : ReceiveChannelData} {beyond : Mem} {around : Int → Byte}

theorem clientReceiveData_none (hrc : processReceiveData (beyond 0) tlvs = rc)
    (hget : getStkContext rc.channelId s = none) :
    clientReceiveData beyond around tlvs det s = (.error .nullPointer, s) := by
  simp only [clientReceiveData, bindE_apply, getE_apply, hrc, hget, deref_none]

/-- Without data, the answer is to be a copy of a text that is not there. -/
theorem lunchReceiveData_apply (hget : getStkContext id s = some c) (hdet : (s.contexts c).pCmdDet = some det)
    (hrc : (s.contexts c).pRCData = some rc) :
    lunchReceiveData around id s =
      match (s.contexts c).recevieData with
      | none => (.error .nullPointer, s)
      | some packet =>
        if (s.contexts c).receiveDataLen > 0 then (.ok (), s.receiveData c det around packet rc.channelDataLength)
        else (.error .nullPointer, s) := by
  simp only [lunchReceiveData, bindE_apply, getE_apply, hget, readContext_apply, hrc, deref_some]
  cases hpacket : (s.contexts c).recevieData with
  | none => rfl
  | some packet =>
    simp only
    split
    · exact receiveBytes_apply hdet
    · rfl

theorem clientReceiveData_apply (hrc : processReceiveData (beyond 0) tlvs = rc)
    (hget : getStkContext rc.channelId s = some c) :
    clientReceiveData beyond around tlvs det s =
      let t := s.setContext c (·.givenReceive det rc)
      match (s.contexts c).recevieData with
      | none => (.error .nullPointer, t)
      | some packet =>
        if (s.contexts c).receiveDataLen > 0 then (.ok (), t.receiveData c det around packet rc.channelDataLength)
        else (.error .nullPointer, t) := by
  have hget' : getStkContext rc.channelId (s.setContext c (·.givenReceive det rc)) = some c := by
    rw [getStkContext_setContext (by intro ctx; rfl), hget]
  have hdet : ((s.setContext c (·.givenReceive det rc)).contexts c).pCmdDet = some det := by rw [setContext_self]; rfl
  have hrc' : ((s.setContext c (·.givenReceive det rc)).contexts c).pRCData = some rc := by rw [setContext_self]; rfl
  have hrun : lunchReceiveData around rc.channelId _ = _ := lunchReceiveData_apply hget' hdet hrc'
  rw [setContext_self] at hrun
  simp only [clientReceiveData, bindE_apply, getE_apply, hrc, hget, deref_some]
  exact hrun

end ReceiveData

end UniRil.Stk
