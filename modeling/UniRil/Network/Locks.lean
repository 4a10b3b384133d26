import UniRil.Network.Machine

/-!
# The radio power locks and the answer of a request

A request owes one release of the locks it took and one answer. An entry in one of the two lists owes
both in its place. What is owed and what was done come to what was taken, as long as
removeAsyncCmdList takes the debt back from an entry that is there.
-/

namespace UniRil.Network

open Programs Runs
open Data (RIL_SOCKET_ID)

/-! ## Counting -/

def Event.answers (t : RIL_Token) : Event → Bool
  | .RIL_onRequestComplete t' _ _ => t' = t
  | _ => false

def State.acquired (s : State) (t : RIL_Token) : Nat := s.log.countP (· = .lockRadioPower t)

def State.released (s : State) (t : RIL_Token) : Nat := s.log.countP (· = .unlockRadioPower t)

def State.completed (s : State) (t : RIL_Token) : Nat := s.log.countP (Event.answers t)

/-- The entries of a request that wait. -/
def State.waiting (s : State) (t : RIL_Token) : Nat :=
  s.s_timerList.countP (·.token = t) + s.s_pendingList.countP (·.token = t)

/-- Each request that was made has released what it took and was answered once. -/
def Settled (s : State) : Prop :=
  ∀ t, (s.threads t).isSome = true → s.released t = s.acquired t ∧ s.completed t = 1

/-- No lock is released that is not held, none is taken twice, and no answer is given twice. -/
def Orderly (s : State) : Prop :=
  ∀ t, s.released t ≤ s.acquired t ∧ s.acquired t ≤ s.released t + 1 ∧ s.completed t ≤ 1

/-- The request whose entry the program is about to remove. -/
def removes : NetProg Unit → Option RIL_Token
  | .act (.removeAsyncCmdList t) _ => some t
  | _ => none

/-- The entry that removeAsyncCmdList looks for is still in `s_timerList`. -/
def Prompt (s : State) : Label → Prop
  | .thread t _ => ∀ t' ∈ (s.threads t).bind removes, ∃ e ∈ s.s_timerList, e.token = t'
  | _ => True

instance decidablePrompt (s : State) : (a : Label) → Decidable (Prompt s a)
  | .thread t _ => inferInstanceAs (Decidable (∀ t' ∈ (s.threads t).bind removes, ∃ e ∈ s.s_timerList, e.token = t'))
  | .request _ _ _ => isTrue trivial
  | .urc _ _ => isTrue trivial
  | .expire => isTrue trivial
  | .fire => isTrue trivial

/-! ## What a thread owes -/

structure Owed where
  lock : Bool
  token : Bool

def Owed.after (o : Owed) : Act → Owed
  | .lockRadioPower => { o with lock := true }
  | .unlockRadioPower => { o with lock := false }
  | .RIL_onRequestComplete _ _ _ => { o with token := false }
  | .addAsyncCmdList _ _ _ => { lock := false, token := false }
  | .removeAsyncCmdList _ => { lock := true, token := true }
  | _ => o

def Owed.allows (t : RIL_Token) (o : Owed) : Act → Prop
  | .lockRadioPower => o.lock = false ∧ o.token = true
  | .unlockRadioPower => o.lock = true
  | .RIL_onRequestComplete t' _ _ => t' = t ∧ o.token = true
  | .addAsyncCmdList _ t' _ => t' = t ∧ o.lock = true ∧ o.token = true
  | .removeAsyncCmdList t' => t' = t ∧ o.lock = false ∧ o.token = false
  | _ => True

/-- The thread of request `t` pays what it owes, and hands its debt to an entry or takes it back. -/
def owing (t : RIL_Token) : Contract Act Act.Reply Owed where
  rely := Eq
  pre := Owed.allows t
  post o a _ o' := o' = o.after a
  refl _ := rfl
  trans h h' := h.trans h'

abbrev Owes {α : Type} (t : RIL_Token) (o : Owed) (Q : Owed → α → Prop) (m : NetProg α) : Prop := Follows (owing t) Q o m

variable {α β : Type} {t : RIL_Token} {o : Owed} {Q : Owed → α → Prop}

theorem Owes.act {a : Act} {f : a.Reply → NetProg α} (hpre : o.allows t a) (h : ∀ r, Owes t (o.after a) Q (f r)) :
    Owes t o Q (Network.act a >>= f) := by
  rintro _ rfl
  exact ⟨hpre, by rintro r _ rfl; exact h r⟩

theorem Owes.last {a : Act} {Q : Owed → a.Reply → Prop} (hpre : o.allows t a) (h : ∀ r, Q (o.after a) r) :
    Owes t o Q (Network.act a) := by
  rintro _ rfl
  refine ⟨hpre, ?_⟩
  rintro r _ rfl _ rfl
  exact h r

theorem Owes.ret {value : α} (h : Q o value) : Owes t o Q (pure value) := by
  rintro _ rfl
  exact h

/-- An action that has nothing to do with the debt. -/
def Act.neutral : Act → Bool
  | .lockRadioPower | .unlockRadioPower | .RIL_onRequestComplete _ _ _ | .addAsyncCmdList _ _ _ | .removeAsyncCmdList _ => false
  | _ => true

theorem Act.neutral_after {a : Act} (ha : a.neutral = true) : o.after a = o ∧ o.allows t a := by
  cases a <;> first | exact ⟨rfl, trivial⟩ | cases ha

theorem Owes.neutral {a : Act} {f : a.Reply → NetProg α} (ha : a.neutral = true) (h : ∀ r, Owes t o Q (f r)) :
    Owes t o Q (Network.act a >>= f) := by
  obtain ⟨hafter, hallows⟩ := Act.neutral_after (t := t) (o := o) ha
  exact Owes.act hallows fun r => hafter.symm ▸ h r

theorem Owes.neutralLast {a : Act} {Q : Owed → a.Reply → Prop} (ha : a.neutral = true) (h : ∀ r, Q o r) :
    Owes t o Q (Network.act a) := by
  obtain ⟨hafter, hallows⟩ := Act.neutral_after (t := t) (o := o) ha
  exact Owes.last hallows fun r => hafter.symm ▸ h r

/-! ## The functions -/

def Owed.both : Owed := { lock := true, token := true }
def Owed.none : Owed := { lock := false, token := false }
def Owed.onlyLock : Owed := { lock := true, token := false }
def Owed.onlyToken : Owed := { lock := false, token := true }

/-- **After the loop the debt is with the entry or with the thread.** -/
theorem owes_sendTestMode (socket_id : RIL_SOCKET_ID) (data : Option RIL_RadioCapability) (cmd : List Byte) (retries : Nat) :
    Owes t .both (fun o taken => o = if taken then .none else .both) (sendTestMode socket_id t data cmd retries) := by
  induction retries with
  | zero =>
    refine Owes.act ⟨rfl, rfl, rfl⟩ fun _ => Owes.neutral rfl fun answer => ?_
    split
    · exact Owes.ret rfl
    · exact Owes.act ⟨rfl, rfl, rfl⟩ fun _ => Owes.ret rfl
  | succ retries ih =>
    refine Owes.act ⟨rfl, rfl, rfl⟩ fun _ => Owes.neutral rfl fun answer => ?_
    split
    · exact Owes.ret rfl
    · split
      · exact Owes.act ⟨rfl, rfl, rfl⟩ fun _ => ih
      · exact Owes.act ⟨rfl, rfl, rfl⟩ fun _ => Owes.ret rfl

/-- What requestSetLTEPreferredNetType leaves when it was entered with both debts. -/
def AfterPreferred (o : Owed) (err : Int) : Prop := o = if err < 0 then .onlyLock else .none

theorem owes_setLTEPreferredDone (errType : RIL_Errno) : Owes t .both AfterPreferred (setLTEPreferredDone t errType) :=
  Owes.neutral rfl fun _ => Owes.act ⟨rfl, rfl⟩ fun _ => Owes.ret rfl

theorem owes_setLTEPreferredMode (socket_id : RIL_SOCKET_ID) (type workMode : Int) :
    Owes t .both AfterPreferred (setLTEPreferredMode socket_id t type workMode) := by
  unfold setLTEPreferredMode
  split
  · exact owes_setLTEPreferredDone _
  · refine Owes.neutral rfl fun g => Follows.bind (owes_sendTestMode socket_id _ _ 3) fun o taken ho => ?_
    subst ho
    cases taken with
    | true => exact Owes.neutral rfl fun _ => Owes.neutral rfl fun _ => Owes.neutral rfl fun _ => Owes.ret rfl
    | false => exact owes_setLTEPreferredDone _

theorem owes_setLTEPreferredType (cfg : Config) (socket_id : RIL_SOCKET_ID) (type : Int) :
    Owes t .both AfterPreferred (setLTEPreferredType cfg socket_id t type) := by
  unfold setLTEPreferredType
  split
  · exact owes_setLTEPreferredDone _
  · refine Owes.neutral rfl fun g => ?_
    dsimp only
    split
    · split
      · exact owes_setLTEPreferredDone _
      · exact owes_setLTEPreferredMode socket_id _ _
    · split
      · refine Owes.neutral rfl fun g => ?_
        split
        · exact owes_setLTEPreferredDone _
        · exact owes_setLTEPreferredMode socket_id _ _
      · exact owes_setLTEPreferredMode socket_id _ _

theorem owes_requestSetLTEPreferredNetType (cfg : Config) (socket_id : RIL_SOCKET_ID) (data : Int) :
    Owes t .both AfterPreferred (requestSetLTEPreferredNetType cfg socket_id data t) :=
  Owes.neutral rfl fun _ => Owes.neutral rfl fun _ => Owes.neutral rfl fun _ => owes_setLTEPreferredType cfg socket_id _

/-- The answer is given, and no lock is owed. -/
def Paid (o : Owed) (_ : Unit) : Prop := o = .none

theorem owes_setPreferredDone (errType : RIL_Errno) : Owes t .onlyToken Paid (setPreferredDone t errType) :=
  Owes.neutral rfl fun _ => Owes.last ⟨rfl, rfl⟩ fun _ => rfl

theorem owes_sendAutoAttach (cfg : Config) (socket_id : RIL_SOCKET_ID) (o : Owed) :
    Owes t o (fun o' _ => o' = o) (sendAutoAttach cfg socket_id) := by
  unfold sendAutoAttach
  split
  · exact Owes.ret rfl
  · refine Owes.neutral rfl fun allowed => ?_
    split
    · exact Owes.neutralLast rfl fun _ => rfl
    · cases socket_id with
      | RIL_SOCKET_1 => exact Owes.neutralLast rfl fun _ => rfl
      | RIL_SOCKET_2 => exact Owes.neutral rfl fun _ => Owes.neutralLast rfl fun _ => rfl

theorem owes_requestSetPreferredNetType (cfg : Config) (socket_id : RIL_SOCKET_ID) (data : Int) :
    Owes t .onlyToken Paid (requestSetPreferredNetType cfg socket_id data t) := by
  refine Owes.neutral rfl fun _ => Owes.neutral rfl fun _ => ?_
  dsimp only
  split
  · exact owes_setPreferredDone _
  · refine Owes.neutral rfl fun g => ?_
    split
    · exact owes_setPreferredDone _
    · split
      · exact owes_setPreferredDone _
      · refine Follows.bind (owes_sendAutoAttach cfg socket_id _) fun o _ ho => ?_
        subst ho
        refine Owes.neutral rfl fun answer => ?_
        split
        · exact Owes.neutral rfl fun _ => Owes.neutral rfl fun g => Owes.neutral rfl fun _ => owes_setPreferredDone _
        · exact owes_setPreferredDone _

theorem owes_sendUnsolRadioCapability (o : Owed) : Owes t o (fun o' _ => o' = o) sendUnsolRadioCapability :=
  Owes.neutral rfl fun _ => Owes.neutral rfl fun _ => Owes.neutral rfl fun _ => Owes.neutral rfl fun _ =>
    Owes.neutral rfl fun _ => Owes.neutralLast rfl fun _ => rfl

theorem owes_setWorkMode (o : Owed) : Owes t o (fun o' _ => o' = o) setWorkMode :=
  Owes.neutral rfl fun _ => Owes.neutral rfl fun _ => Owes.neutral rfl fun _ => Owes.neutral rfl fun _ =>
    Owes.neutral rfl fun _ => Owes.neutralLast rfl fun _ => rfl

theorem owes_applySetLTERadioCapability (rc : RIL_RadioCapability) (socket_id : RIL_SOCKET_ID) :
    Owes t .both (fun o ret => ret = 1 ∧ o = .none ∨ (ret = 0 ∨ ret = 2) ∧ o = .both)
      (applySetLTERadioCapability rc socket_id t) := by
  refine Owes.neutral rfl fun g => ?_
  split
  · exact Owes.ret (Or.inr ⟨Or.inr rfl, rfl⟩)
  · refine Owes.neutral rfl fun _ => Owes.neutral rfl fun g => Owes.neutral rfl fun _ => Owes.neutral rfl fun _ => ?_
    refine Follows.bind (owes_setWorkMode _) fun o _ ho => ?_
    subst ho
    refine Owes.neutral rfl fun g => Follows.bind (owes_sendTestMode socket_id _ _ 3) fun o taken ho => ?_
    subst ho
    cases taken with
    | true => exact Owes.ret (Or.inl ⟨rfl, rfl⟩)
    | false => exact Owes.ret (Or.inr ⟨Or.inl rfl, rfl⟩)

theorem owes_shutDownRadios (l : List RIL_SOCKET_ID) (o : Owed) : Owes t o (fun o' _ => o' = o) (shutDownRadios l) := by
  induction l with
  | nil => exact Owes.ret rfl
  | cons simId rest ih =>
    refine Owes.neutral rfl fun off => ?_
    split
    · exact ih
    · refine Owes.neutral rfl fun answer => ?_
      split
      · exact ih
      · exact Owes.ret rfl

theorem owes_startRadios (cmd : List Byte) (l : List RIL_SOCKET_ID) (o : Owed) :
    Owes t o (fun o' _ => o' = o) (startRadios cmd l) := by
  induction l with
  | nil => exact Owes.ret rfl
  | cons simId rest ih =>
    refine Owes.neutral rfl fun off => ?_
    split
    · exact ih
    · refine Owes.neutral rfl fun _ => Owes.neutral rfl fun two => Owes.neutral rfl fun g => Owes.neutral rfl fun _ => ?_
      refine Owes.neutral rfl fun answer => ?_
      split
      · exact ih
      · exact Owes.ret rfl

theorem owes_applySetRadioCapability (rc : RIL_RadioCapability) (socket_id : RIL_SOCKET_ID) (o : Owed) :
    Owes t o (fun o' _ => o' = o) (applySetRadioCapability rc socket_id) := by
  refine Owes.neutral rfl fun g => ?_
  split
  · exact Owes.ret rfl
  · refine Owes.neutral rfl fun _ => Owes.neutral rfl fun _ => Follows.bind (owes_shutDownRadios _ _) fun o' down ho => ?_
    subst ho
    split
    · refine Follows.bind (owes_setWorkMode _) fun o' _ ho => ?_
      subst ho
      refine Owes.neutral rfl fun g => Follows.bind (owes_startRadios _ _ _) fun o' started ho => ?_
      subst ho
      exact Owes.ret rfl
    · exact Owes.ret rfl

theorem owes_runSwitch (cfg : Config) (responseRc : RIL_RadioCapability) (socket_id : RIL_SOCKET_ID) :
    Owes t .onlyToken Paid (runSwitch cfg responseRc socket_id t) := by
  refine Owes.act ⟨rfl, rfl⟩ fun _ => Owes.neutral rfl fun _ => ?_
  split
  · refine Follows.bind (owes_applySetLTERadioCapability responseRc socket_id) fun o ret ho => ?_
    obtain ⟨rfl, rfl⟩ | ⟨rfl | rfl, rfl⟩ := ho
    · exact Owes.ret rfl
    · exact Owes.act rfl fun _ => Owes.last ⟨rfl, rfl⟩ fun _ => rfl
    · refine Owes.act rfl fun _ => Owes.act ⟨rfl, rfl⟩ fun _ => ?_
      exact Follows.mono (owes_sendUnsolRadioCapability _) fun o _ ho => ho
  · refine Follows.bind (owes_applySetRadioCapability responseRc socket_id _) fun o ret ho => ?_
    subst ho
    refine Owes.act rfl fun _ => ?_
    split
    · refine Owes.act ⟨rfl, rfl⟩ fun _ => ?_
      exact Follows.mono (owes_sendUnsolRadioCapability _) fun o _ ho => ho
    · exact Owes.last ⟨rfl, rfl⟩ fun _ => rfl

theorem owes_requestSetRadioCapability (cfg : Config) (socket_id : RIL_SOCKET_ID) (rc : RIL_RadioCapability) :
    Owes t .onlyToken Paid (requestSetRadioCapability cfg socket_id rc t) := by
  unfold requestSetRadioCapability
  split
  · exact Owes.neutral rfl fun _ => Owes.last ⟨rfl, rfl⟩ fun _ => rfl
  · split
    · exact Owes.neutral rfl fun _ => Owes.last ⟨rfl, rfl⟩ fun _ => rfl
    · split
      · refine Owes.neutral rfl fun _ => Owes.neutral rfl fun g => ?_
        split
        · exact Owes.last ⟨rfl, rfl⟩ fun _ => rfl
        · exact Owes.neutral rfl fun _ => owes_runSwitch cfg _ socket_id
      · exact Owes.neutral rfl fun _ => Owes.last ⟨rfl, rfl⟩ fun _ => rfl

/-- **A request owes its answer when it comes, and nothing when its function has returned.** -/
theorem owes_processNetworkRequests (cfg : Config) (socket_id : RIL_SOCKET_ID) (r : Request) :
    Owes t .onlyToken Paid (processNetworkRequests cfg socket_id t r) := by
  cases r with
  | RIL_REQUEST_SET_PREFERRED_NETWORK_TYPE data =>
    rw [processNetworkRequests]
    split
    · refine Owes.act ⟨rfl, rfl⟩ fun _ => Follows.bind (owes_requestSetLTEPreferredNetType cfg socket_id data) fun o err ho => ?_
      obtain rfl : o = _ := ho
      split
      · exact Owes.last rfl fun _ => rfl
      · exact Owes.ret rfl
    · exact owes_requestSetPreferredNetType cfg socket_id data
  | RIL_REQUEST_SET_RADIO_CAPABILITY rc =>
    refine Owes.neutral rfl fun fixed => ?_
    split
    · exact Owes.last ⟨rfl, rfl⟩ fun _ => rfl
    · exact owes_requestSetRadioCapability cfg socket_id rc

/-! ## The balance -/

/-- A removal that finds no entry of the request. -/
def Act.misses (t : RIL_Token) (s : State) : Act → Nat
  | .removeAsyncCmdList t' => if t' = t ∧ s.s_timerList.countP (·.token = t) = 0 then 1 else 0
  | _ => 0

def missed (t : RIL_Token) (s : State) : Label → Nat
  | .thread u _ =>
    match s.threads u with
    | some (.act a _) => a.misses t s
    | _ => 0
  | _ => 0

/-- What is done, owed and waiting comes to what was taken, and to one answer, and to `d` more. -/
structure Balance (t : RIL_Token) (s : State) (o : Owed) (d : Nat) : Prop where
  locks : s.released t + o.lock.toNat + s.waiting t = s.acquired t + d
  answers : s.completed t + o.token.toNat + s.waiting t = 1 + d
  /-- The locks are owed by the thread or by one entry. -/
  once : d = 0 → o.lock.toNat + s.waiting t ≤ 1

/-- Nothing has been done for a request that was not made. -/
structure Untouched (t : RIL_Token) (s : State) : Prop where
  acquired : s.acquired t = 0
  released : s.released t = 0
  completed : s.completed t = 0
  waiting : s.waiting t = 0

/-- What a thread owes follows from the rest of its program. -/
def Obliged (s : State) : Prop := ∀ u m, s.threads u = some m → ∃ o, Owes u o Paid m

def Account (t : RIL_Token) (s : State) (d : Nat) : Prop :=
  match s.threads t with
  | none => Untouched t s ∧ d = 0
  | some m => ∃ o, Owes t o Paid m ∧ Balance t s o d

variable {cfg : Config} {s s' : State} {env : Env} {d : Nat} {u : RIL_Token}

/-- What is counted for the request is as before. -/
structure SameCounts (t : RIL_Token) (s s' : State) : Prop where
  released : s'.released t = s.released t
  acquired : s'.acquired t = s.acquired t
  completed : s'.completed t = s.completed t
  waiting : s'.waiting t = s.waiting t

theorem SameCounts.trans {m : State} (h : SameCounts t s m) (h' : SameCounts t m s') : SameCounts t s s' :=
  ⟨h'.released.trans h.released, h'.acquired.trans h.acquired, h'.completed.trans h.completed,
    h'.waiting.trans h.waiting⟩

theorem Balance.same (h : Balance t s o d) (hs : SameCounts t s s') : Balance t s' o d := by
  refine ⟨?_, ?_, ?_⟩
  · rw [hs.released, hs.acquired, hs.waiting]
    exact h.locks
  · rw [hs.completed, hs.waiting]
    exact h.answers
  · rw [hs.waiting]
    exact h.once

theorem released_record (e : Event) :
    (s.record e).released t = s.released t + if e = .unlockRadioPower t then 1 else 0 := by
  simp [State.released, State.record, List.countP_append, List.countP_singleton]

theorem acquired_record (e : Event) :
    (s.record e).acquired t = s.acquired t + if e = .lockRadioPower t then 1 else 0 := by
  simp [State.acquired, State.record, List.countP_append, List.countP_singleton]

theorem completed_record (e : Event) :
    (s.record e).completed t = s.completed t + if e.answers t = true then 1 else 0 := by
  simp [State.completed, State.record, List.countP_append, List.countP_singleton]

theorem waiting_record (e : Event) : (s.record e).waiting t = s.waiting t := rfl

/-- An event that is none of these. -/
theorem sameCounts_record {e : Event} (hlock : e ≠ .lockRadioPower t) (hunlock : e ≠ .unlockRadioPower t)
    (hanswer : e.answers t = false) : SameCounts t s (s.record e) := by
  refine ⟨?_, ?_, ?_, rfl⟩
  · rw [released_record, if_neg hunlock]
    rfl
  · rw [acquired_record, if_neg hlock]
    rfl
  · rw [completed_record, hanswer]
    rfl

/-- The counts are in the log and the lists. -/
theorem SameCounts.of_eq (hlog : s'.log = s.log) (htimer : s'.s_timerList = s.s_timerList)
    (hpending : s'.s_pendingList = s.s_pendingList) : SameCounts t s s' := by
  refine ⟨?_, ?_, ?_, ?_⟩
  · rw [State.released, hlog]
    rfl
  · rw [State.acquired, hlog]
    rfl
  · rw [State.completed, hlog]
    rfl
  · rw [State.waiting, htimer, hpending]
    rfl

/-- Actions without debt count nothing. -/
theorem execute_neutral {a : Act} {r : a.Reply} (ha : a.neutral = true) (hexec : execute u env s a = some (r, s')) :
    SameCounts t s s' := by
  cases a with
  | lockRadioPower => cases ha
  | unlockRadioPower => cases ha
  | RIL_onRequestComplete t' e response => cases ha
  | addAsyncCmdList socket_id t' data => cases ha
  | removeAsyncCmdList t' => cases ha
  | get => cases hexec; exact SameCounts.of_eq rfl rfl rfl
  | modify f => cases hexec; exact SameCounts.of_eq rfl rfl rfl
  | test q => cases hexec; exact SameCounts.of_eq rfl rfl rfl
  | lockWorkMode =>
    obtain ⟨-, heq⟩ := Option.ite_none_left_eq_some.1 hexec
    cases heq
    exact SameCounts.of_eq rfl rfl rfl
  | unlockWorkMode => cases hexec; exact SameCounts.of_eq rfl rfl rfl
  | send simId cmd => cases hexec; exact sameCounts_record (by simp) (by simp) rfl
  | ask simId cmd => cases hexec; exact sameCounts_record (by simp) (by simp) rfl
  | voiceNetworkStateChanged socket_id => cases hexec; exact sameCounts_record (by simp) (by simp) rfl
  | unsolRadioCapability socket_id session => cases hexec; exact sameCounts_record (by simp) (by simp) rfl
  | callApply lte => cases hexec; exact sameCounts_record (by simp) (by simp) rfl

theorem Act.misses_neutral {a : Act} (ha : a.neutral = true) : a.misses t s = 0 := by
  cases a <;> first | rfl | cases ha

theorem countP_eraseP_self (p : Entry → Bool) (l : List Entry) : (l.eraseP p).countP p = l.countP p - 1 := by
  induction l with
  | nil => rfl
  | cons e l ih =>
    by_cases he : p e = true
    · rw [List.eraseP_cons_of_pos he, List.countP_cons_of_pos he, Nat.add_sub_cancel]
    · rw [List.eraseP_cons_of_neg he, List.countP_cons_of_neg he, List.countP_cons_of_neg he, ih]

/-- What is counted is not what is erased. -/
theorem countP_eraseP_disjoint {p q : Entry → Bool} (h : ∀ e, q e = true → p e = false) (l : List Entry) :
    (l.eraseP q).countP p = l.countP p := by
  induction l with
  | nil => rfl
  | cons e l ih =>
    by_cases he : q e = true
    · rw [List.eraseP_cons_of_pos he, List.countP_cons_of_neg (by simp [h e he])]
    · rw [List.eraseP_cons_of_neg he, List.countP_cons, List.countP_cons, ih]

/-- An action of the request itself keeps the balance, but for a removal that finds nothing. -/
theorem Balance.execute (h : Balance t s o d) {a : Act} {r : a.Reply} (ha : o.allows t a)
    (hexec : Network.execute t env s a = some (r, s')) : Balance t s' (o.after a) (d + a.misses t s) := by
  obtain ⟨hlocks, hanswers, honce⟩ := h
  by_cases hneutral : a.neutral = true
  · rw [(Act.neutral_after (t := t) hneutral).1, Act.misses_neutral hneutral]
    exact Balance.same ⟨hlocks, hanswers, honce⟩ (execute_neutral hneutral hexec)
  cases a with
  | lockRadioPower =>
    obtain ⟨-, heq⟩ := Option.ite_none_left_eq_some.1 hexec
    cases heq
    obtain ⟨hlock, htoken⟩ := ha
    simp only [hlock, htoken, Bool.toNat_true, Bool.toNat_false] at hlocks hanswers
    refine ⟨?_, ?_, ?_⟩
    · rw [released_record, acquired_record, waiting_record, if_neg (by simp), if_pos rfl]
      show s.released t + 0 + 1 + s.waiting t = s.acquired t + 1 + (d + 0)
      omega
    · rw [completed_record, waiting_record]
      simp only [Owed.after, htoken, Bool.toNat_true]
      exact hanswers
    · rw [waiting_record]
      show d + 0 = 0 → 1 + s.waiting t ≤ 1
      omega
  | unlockRadioPower =>
    cases hexec
    have hlock : o.lock = true := ha
    simp only [hlock, Bool.toNat_true] at honce
    refine ⟨?_, ?_, ?_⟩
    · rw [released_record, acquired_record, waiting_record, if_pos rfl, if_neg (by simp)]
      simp only [Owed.after, Act.misses, hlock, Bool.toNat_true, Bool.toNat_false] at hlocks ⊢
      show s.released t + 1 + 0 + s.waiting t = s.acquired t + 0 + (d + 0)
      omega
    · rw [completed_record, waiting_record]
      exact hanswers
    · rw [waiting_record]
      show d + 0 = 0 → 0 + s.waiting t ≤ 1
      omega
  | RIL_onRequestComplete t' e response =>
    cases hexec
    obtain ⟨rfl, htoken⟩ := ha
    refine ⟨?_, ?_, honce⟩
    · rw [released_record, acquired_record, waiting_record, if_neg (by simp), if_neg (by simp)]
      exact hlocks
    · rw [completed_record, waiting_record, if_pos (by simp [Event.answers])]
      simp only [Owed.after, Act.misses, htoken, Bool.toNat_true, Bool.toNat_false] at hanswers ⊢
      omega
  | addAsyncCmdList socket_id t' data =>
    cases hexec
    obtain ⟨rfl, hlock, htoken⟩ := ha
    have hwaiting : State.waiting
        { s with s_timerList := s.s_timerList ++ [{ socket_id := socket_id, token := t', data := data }] } t' =
          s.waiting t' + 1 := by
      simp only [State.waiting, List.countP_append, List.countP_singleton, decide_true, if_true]
      omega
    simp only [hlock, htoken, Bool.toNat_true] at hlocks hanswers
    refine ⟨?_, ?_, ?_⟩
    · rw [hwaiting]
      show s.released t' + 0 + (s.waiting t' + 1) = s.acquired t' + (d + 0)
      omega
    · rw [hwaiting]
      show s.completed t' + 0 + (s.waiting t' + 1) = 1 + (d + 0)
      omega
    · rw [hwaiting]
      show d + 0 = 0 → 0 + (s.waiting t' + 1) ≤ 1
      omega
  | removeAsyncCmdList t' =>
    cases hexec
    obtain ⟨rfl, hlock, htoken⟩ := ha
    have hwaiting : State.waiting { s with s_timerList := s.s_timerList.eraseP (·.token = t') } t' + 1 =
        s.waiting t' + (Act.removeAsyncCmdList t').misses t' s := by
      have herase := countP_eraseP_self (fun e : Entry => decide (e.token = t')) s.s_timerList
      simp only [State.waiting, Act.misses, true_and]
      split <;> omega
    simp only [hlock, htoken, Bool.toNat_false] at hlocks hanswers
    refine ⟨?_, ?_, ?_⟩
    · show s.released t' + 1 + _ = s.acquired t' + _
      omega
    · show s.completed t' + 1 + _ = 1 + _
      omega
    · show d + _ = 0 → 1 + _ ≤ 1
      omega
  | get => exact absurd rfl hneutral
  | modify f => exact absurd rfl hneutral
  | test q => exact absurd rfl hneutral
  | lockWorkMode => exact absurd rfl hneutral
  | unlockWorkMode => exact absurd rfl hneutral
  | send simId cmd => exact absurd rfl hneutral
  | ask simId cmd => exact absurd rfl hneutral
  | voiceNetworkStateChanged socket_id => exact absurd rfl hneutral
  | unsolRadioCapability socket_id session => exact absurd rfl hneutral
  | callApply lte => exact absurd rfl hneutral

/-- An action of another request does not touch it. -/
theorem execute_other {a : Act} {r : a.Reply} (hne : u ≠ t) (ha : o.allows u a)
    (hexec : execute u env s a = some (r, s')) : SameCounts t s s' ∧ a.misses t s = 0 := by
  by_cases hneutral : a.neutral = true
  · exact ⟨execute_neutral hneutral hexec, Act.misses_neutral hneutral⟩
  cases a with
  | lockRadioPower =>
    obtain ⟨-, heq⟩ := Option.ite_none_left_eq_some.1 hexec
    cases heq
    have hsame : SameCounts t s { s with radioPower := true } := SameCounts.of_eq rfl rfl rfl
    exact ⟨hsame.trans (sameCounts_record (by simp [hne]) (by simp) rfl), rfl⟩
  | unlockRadioPower =>
    cases hexec
    have hsame : SameCounts t s { s with radioPower := false } := SameCounts.of_eq rfl rfl rfl
    exact ⟨hsame.trans (sameCounts_record (by simp) (by simp [hne]) rfl), rfl⟩
  | RIL_onRequestComplete t' e response =>
    cases hexec
    obtain ⟨rfl, -⟩ := ha
    exact ⟨sameCounts_record (by simp) (by simp) (decide_eq_false hne), rfl⟩
  | addAsyncCmdList socket_id t' data =>
    cases hexec
    obtain ⟨rfl, -⟩ := ha
    refine ⟨⟨rfl, rfl, rfl, ?_⟩, rfl⟩
    simp [State.waiting, List.countP_append, hne]
  | removeAsyncCmdList t' =>
    cases hexec
    obtain ⟨rfl, -⟩ := ha
    refine ⟨⟨rfl, rfl, rfl, ?_⟩, if_neg fun h => hne h.1⟩
    have herase := @countP_eraseP_disjoint (fun e : Entry => decide (e.token = t)) (fun e => decide (e.token = t'))
      (fun e he => decide_eq_false fun h => hne ((of_decide_eq_true he).symm.trans h)) s.s_timerList
    rw [State.waiting, herase]
    rfl
  | get => exact absurd rfl hneutral
  | modify f => exact absurd rfl hneutral
  | test q => exact absurd rfl hneutral
  | lockWorkMode => exact absurd rfl hneutral
  | unlockWorkMode => exact absurd rfl hneutral
  | send simId cmd => exact absurd rfl hneutral
  | ask simId cmd => exact absurd rfl hneutral
  | voiceNetworkStateChanged socket_id => exact absurd rfl hneutral
  | unsolRadioCapability socket_id session => exact absurd rfl hneutral
  | callApply lte => exact absurd rfl hneutral

end UniRil.Network
