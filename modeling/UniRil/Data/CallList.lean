import UniRil.Data.Flags
import UniRil.Data.Steps

/-!
# The array of the data-call list

requestOrSendDataCallList has an array with an entry for each +CGACT line. Where it looks into that array, and what it
reports from it.
-/

namespace UniRil.Data

open StateRules AtTok

/-! ## The indexes -/

def indexes (n : Nat) : List Int := (List.range n).map Int.ofNat

/-- The entries that the code for one +CGDCONT line looks at or stores to. -/
def lineAccesses (n : Nat) (cid : Int) (hasToken : Bool) (responses : Int → DataCall) (line : Line) : List Int :=
  match (at_tok_nextint (at_tok_start (some line))).value with
  | none => []
  | some ncid =>
    if ncid = cid ∧ hasToken = false then [cid - 1]
    else
      match (List.range n).find? fun i : Nat => (responses i).cid = ncid with
      | none => indexes n
      | some i => indexes (i + 1)

/-- At the end a setup looks for its call, and everything else hands over the array. -/
def endAccesses (n : Nat) (cid : Int) (hasToken : Bool) (responses : Int → DataCall) : List Int :=
  if hasToken ∧ 0 < cid then
    match [0, 1, 2, 3, 4, 5].find? fun i => (responses i).cid = cid with
    | some i => indexes (i.toNat + 1)
    | none => [0, 1, 2, 3, 4, 5]
  else indexes n

def cgdcontAccesses (g : Shared) (n : Nat) (cid : Int) (hasToken idle : Bool) :
    (Int → DataCall) → List Line → List Int
  | responses, [] => endAccesses n cid hasToken responses
  | responses, line :: lines =>
    lineAccesses n cid hasToken responses line ++
      match cgdcontEntry g n cid hasToken idle responses line with
      | none => []
      | some responses => cgdcontAccesses g n cid hasToken idle responses lines

/-- The answers that requestOrSendDataCallList gets. -/
def World.cgactReply (w : World) : Reply := w.env.next.1.reply

def World.cgdcontReply (w : World) : Reply := w.env.next.2.next.1.reply

/-- The array has an entry for each line, even when one of them cannot be read. -/
def World.entries (w : World) : Nat := w.cgactReply.p_intermediates.length

/-- The slot of the context that the list is sent for. -/
def isIdle (socket_id : RIL_SOCKET_ID) (cid : Int) (w : World) : Bool :=
  (getPDPState socket_id (cid - 1) w).1 = .PDP_IDLE

/-- All entries that requestOrSendDataCallList looks at or stores to. -/
def listAccesses (socket_id : RIL_SOCKET_ID) (cid : Int) (hasToken : Bool) (w : World) : List Int :=
  if w.cgactReply.success then
    indexes w.entries ++
      match cgactEntries w.cgactReply.p_intermediates with
      | none => []
      | some calls =>
        if w.cgdcontReply.success then
          cgdcontAccesses w.shared w.entries cid hasToken (isIdle socket_id cid w) (responsesOf calls w.env.stack)
            w.cgdcontReply.p_intermediates
        else []
  else []

/-! ## What is reported -/

/-- The data calls that an event hands to the framework. -/
def Event.calls : Event → List DataCall
  | .RIL_onRequestComplete _ calls => calls
  | .RIL_UNSOL_DATA_CALL_LIST_CHANGED calls => calls
  | _ => []

/-- What requestOrSendDataCallList reports. -/
def reportedCalls (cfg : Config) (socket_id : RIL_SOCKET_ID) (cid : Int) (hasToken : Bool) (w : World) :
    List DataCall :=
  ((requestOrSendDataCallList cfg socket_id cid hasToken w).2.log.drop w.log.length).flatMap Event.calls

def AllBelow (n : Nat) (accesses : List Int) : Prop := ∀ i ∈ accesses, 0 ≤ i ∧ i < n

/-- Everything stays in the array, and every entry that is reported is one of the +CGACT lines. -/
def BuiltInside (cfg : Config) (socket_id : RIL_SOCKET_ID) (cid : Int) (hasToken : Bool) (w : World) : Prop :=
  AllBelow w.entries (listAccesses socket_id cid hasToken w) ∧
    ∀ call ∈ reportedCalls cfg socket_id cid hasToken w,
      ∃ calls, cgactEntries w.cgactReply.p_intermediates = some calls ∧
        ∃ e ∈ calls, call.cid = e.cid ∧ call.active = e.active

/-- A +CGDCONT line for the cid. -/
def Names (cid : Int) (line : Line) : Prop := (at_tok_nextint (at_tok_start (some line))).value = some cid

/-- The array after some of the +CGDCONT lines, when the code gets there. -/
def arrayAfter (socket_id : RIL_SOCKET_ID) (cid : Int) (hasToken : Bool) (w : World) (lines : List Line) :
    Option (Int → DataCall) :=
  if w.cgactReply.success ∧ w.cgdcontReply.success then do
    let calls ← cgactEntries w.cgactReply.p_intermediates
    lines.foldlM (cgdcontEntry w.shared w.entries cid hasToken (isIdle socket_id cid w))
      (responsesOf calls w.env.stack)
  else none

/-- The entry by position is there when an unsolicited list comes to a line for its own cid. A setup finds the first
MAX_PDP entries, or its call. -/
structure Positions (socket_id : RIL_SOCKET_ID) (cid : Int) (hasToken : Bool) (w : World) : Prop where
  own : hasToken = false → ∀ pre line post, w.cgdcontReply.p_intermediates = pre ++ line :: post → Names cid line →
    (arrayAfter socket_id cid hasToken w pre).isSome → 1 ≤ cid ∧ cid ≤ w.entries
  setup : hasToken = true → 0 < cid →
    (arrayAfter socket_id cid hasToken w w.cgdcontReply.p_intermediates).isSome →
    MAX_PDP ≤ w.entries ∨
      ∃ calls, cgactEntries w.cgactReply.p_intermediates = some calls ∧ ∃ e ∈ calls, e.cid = cid

/-- A line of an unsolicited list that takes the flag from the entry at cid - 1. -/
def Marks (cid : Int) (hasToken idle : Bool) (line : Line) : Prop :=
  hasToken = false ∧ idle = true ∧ Names cid line

/-- The call has the cid of one +CGACT line. It has the active flag of that line too, unless it is the entry that an
unsolicited list marks as down. -/
def Listed (socket_id : RIL_SOCKET_ID) (cid : Int) (hasToken : Bool) (w : World) (call : DataCall) : Prop :=
  ∃ calls, cgactEntries w.cgactReply.p_intermediates = some calls ∧
    ∃ (k : Nat) (e : DataCall), calls[k]? = some e ∧ call.cid = e.cid ∧
      ((k : Int) = cid - 1 →
        (∃ line ∈ w.cgdcontReply.p_intermediates, Marks cid hasToken (isIdle socket_id cid w) line) →
        call.active = 0) ∧
      (¬ ((k : Int) = cid - 1 ∧
          ∃ line ∈ w.cgdcontReply.p_intermediates, Marks cid hasToken (isIdle socket_id cid w) line) →
        call.active = e.active)

variable {cfg : Config} {socket_id : RIL_SOCKET_ID} {cid : Int} {hasToken idle : Bool} {w : World} {g : Shared}
  {calls : List DataCall} {responses responses' : Int → DataCall} {line : Line} {lines : List Line} {n : Nat}
  {P : DataCall → Prop} {marked m : Prop}

/-! ## The entries -/

theorem length_cgactEntries (h : cgactEntries lines = some calls) : calls.length = lines.length := by
  induction lines generalizing calls with
  | nil =>
    cases h
    rfl
  | cons line lines ih =>
    simp only [cgactEntries, Option.bind_eq_bind, Option.bind_eq_some_iff, Option.pure_def, Option.some.injEq] at h
    obtain ⟨c, -, a, -, calls, hcalls, rfl⟩ := h
    rw [List.length_cons, List.length_cons, ih hcalls]

/-- The entries have the cids and the active flags of their lines, but for the one that is marked. -/
def Tracks (calls : List DataCall) (cid : Int) (marked : Prop) (responses : Int → DataCall) : Prop :=
  ∀ (k : Nat) e, calls[k]? = some e →
    (responses k).cid = e.cid ∧ ((k : Int) = cid - 1 → marked → (responses k).active = 0) ∧
      (¬ ((k : Int) = cid - 1 ∧ marked) → (responses k).active = e.active)

theorem tracks_responsesOf (calls : List DataCall) (stack : Stack) (cid : Int) :
    Tracks calls cid False (responsesOf calls stack) := by
  intro k e he
  have hresponse : responsesOf calls stack k = e := by
    unfold responsesOf
    simp [he]
  rw [hresponse]
  exact ⟨rfl, fun _ h => h.elim, fun _ => rfl⟩

theorem withAddresses_flags (call : DataCall) (p : NetProps) :
    (withAddresses call p).cid = call.cid ∧ (withAddresses call p).active = call.active := by
  unfold withAddresses
  cases p.ip_type with
  | IPV4 => exact ⟨rfl, rfl⟩
  | IPV6 => exact ⟨rfl, rfl⟩
  | IPV4V6 => exact ⟨rfl, rfl⟩
  | UNKNOWN => exact ⟨rfl, rfl⟩

/-- One store that keeps the cid; the mark goes to the entry at cid - 1. -/
theorem Tracks.update (h : Tracks calls cid marked responses) {i : Int} {call : DataCall}
    (hcid : call.cid = (responses i).cid) (hmark : m → i = cid - 1 ∧ call.active = 0)
    (hkeep : ¬ m → call.active = (responses i).active) :
    Tracks calls cid (marked ∨ m) (Function.update responses i call) := by
  intro k e he
  obtain ⟨hc, hdown, hsame⟩ := h k e he
  by_cases hk : (k : Int) = i
  · subst hk
    rw [Function.update_self]
    refine ⟨hcid.trans hc, fun hown hm => ?_, fun hm => ?_⟩
    · by_cases hnew : m
      · exact (hmark hnew).2
      · exact (hkeep hnew).trans (hdown hown (hm.resolve_right hnew))
    · have hnew : ¬ m := fun hnew => hm ⟨(hmark hnew).1, .inr hnew⟩
      exact (hkeep hnew).trans (hsame fun hold => hm ⟨hold.1, .inl hold.2⟩)
  · rw [Function.update_of_ne hk]
    refine ⟨hc, fun hown hm => ?_, fun hm => hsame fun hold => hm ⟨hold.1, .inl hold.2⟩⟩
    exact hdown hown (hm.resolve_right fun hnew => hk (hown.trans (hmark hnew).1.symm))

/-- What a +CGDCONT line does to the array. -/
theorem cgdcontEntry_update (h : cgdcontEntry g n cid hasToken idle responses line = some responses') :
    ∃ i call, responses' = Function.update responses i call ∧ call.cid = (responses i).cid ∧
      (Marks cid hasToken idle line → i = cid - 1 ∧ call.active = 0) ∧
      (¬ Marks cid hasToken idle line → call.active = (responses i).active) := by
  unfold cgdcontEntry at h
  simp only [Option.bind_eq_bind, Option.bind_eq_some_iff, Option.pure_def] at h
  obtain ⟨c, hc, h⟩ := h
  split at h
  · rename_i hown
    cases h
    cases idle with
    | true =>
      refine ⟨_, _, rfl, rfl, fun _ => ⟨rfl, rfl⟩, fun hno => ?_⟩
      exact (hno ⟨hown.2, rfl, hc.trans (congrArg some hown.1)⟩).elim
    | false => exact ⟨_, _, rfl, rfl, fun hmark => Bool.noConfusion hmark.2.1, fun _ => rfl⟩
  · rename_i hown
    have hno : ¬ Marks cid hasToken idle line :=
      fun hmark => hown ⟨Option.some.inj (hc.symm.trans hmark.2.2), hmark.1⟩
    split at h
    · cases h
      exact ⟨0, responses 0, (Function.update_eq_self 0 responses).symm, rfl, fun hmark => (hno hmark).elim,
        fun _ => rfl⟩
    · rename_i i _
      simp only [Option.bind_eq_some_iff, Option.some.injEq] at h
      obtain ⟨_, -, _, -, rfl⟩ := h
      obtain ⟨hcid, hactive⟩ :=
        withAddresses_flags { responses i with status := some .PDP_FAIL_NONE } (g.net (c - 1))
      refine ⟨i, _, rfl, ?_, fun hmark => (hno hmark).elim, fun _ => ?_⟩
      · split
        · exact hcid
        · exact hcid
      · split
        · exact hactive
        · exact hactive

/-- All lines keep the cids and the flags, but for the mark. -/
theorem tracks_foldlM (h : Tracks calls cid marked responses)
    (hfold : lines.foldlM (cgdcontEntry g n cid hasToken idle) responses = some responses') :
    Tracks calls cid (marked ∨ ∃ line ∈ lines, Marks cid hasToken idle line) responses' := by
  induction lines generalizing responses marked with
  | nil =>
    cases hfold
    simpa using h
  | cons line lines ih =>
    rw [List.foldlM_cons] at hfold
    obtain ⟨next, hnext, hrest⟩ := Option.bind_eq_some_iff.1 hfold
    obtain ⟨i, call, rfl, hcid, hmark, hkeep⟩ := cgdcontEntry_update hnext
    have hall := ih (h.update hcid hmark hkeep) hrest
    simpa only [List.mem_cons, exists_eq_or_imp, or_assoc] using hall

/-! ## The bound -/

theorem AllBelow.append {k l : List Int} (hk : AllBelow n k) (hl : AllBelow n l) : AllBelow n (k ++ l) := by
  intro i hi
  exact (List.mem_append.1 hi).elim (hk i) (hl i)

theorem allBelow_indexes {k : Nat} (h : k ≤ n) : AllBelow n (indexes k) := by
  intro i hi
  obtain ⟨j, hj, rfl⟩ := List.mem_map.1 hi
  have := List.mem_range.1 hj
  constructor
  · exact Int.natCast_nonneg j
  · show (j : Int) < n
    omega

theorem allBelow_lineAccesses (h : hasToken = false → Names cid line → 1 ≤ cid ∧ cid ≤ n) :
    AllBelow n (lineAccesses n cid hasToken responses line) := by
  unfold lineAccesses
  split
  · intro i hi
    cases hi
  · rename_i ncid hncid
    split
    · rename_i hown
      have hbound := h hown.2 (hncid.trans (congrArg some hown.1))
      intro i hi
      obtain rfl := List.mem_singleton.1 hi
      omega
    · split
      · exact allBelow_indexes (Nat.le_refl n)
      · rename_i i hfind
        exact allBelow_indexes (List.mem_range.1 (List.mem_of_find?_eq_some hfind))

/-- A setup looks at the entries up to its call. -/
theorem allBelow_endAccesses (htracks : Tracks calls cid marked responses) (hlength : calls.length = n)
    (h : hasToken = true → 0 < cid → MAX_PDP ≤ n ∨ ∃ e ∈ calls, e.cid = cid) :
    AllBelow n (endAccesses n cid hasToken responses) := by
  have hsix : [0, 1, 2, 3, 4, 5] = (List.range 6).map Int.ofNat := rfl
  unfold endAccesses
  split
  · rename_i hsetup
    rw [hsix, List.find?_map]
    by_cases hlong : MAX_PDP ≤ (n : Int)
    · have hn : 6 ≤ n := by
        unfold MAX_PDP at hlong
        omega
      cases hfind : (List.range 6).find? ((fun i => decide ((responses i).cid = cid)) ∘ Int.ofNat) with
      | none => exact allBelow_indexes hn
      | some i =>
        have hi := List.mem_range.1 (List.mem_of_find?_eq_some hfind)
        exact allBelow_indexes (show i + 1 ≤ n by omega)
    · obtain ⟨e, he, hcid⟩ := (h hsetup.1 hsetup.2).resolve_left hlong
      obtain ⟨k, hk, rfl⟩ := List.getElem_of_mem he
      have hfound : (responses k).cid = cid := (htracks k _ (List.getElem?_eq_getElem hk)).1.trans hcid
      have hn : n < 6 := by
        unfold MAX_PDP at hlong
        omega
      cases hfind : (List.range 6).find? ((fun i => decide ((responses i).cid = cid)) ∘ Int.ofNat) with
      | none =>
        have := List.find?_eq_none.1 hfind k (List.mem_range.2 (by omega))
        exact (this (by simpa using hfound)).elim
      | some i =>
        -- the first match is not behind the entry of the call
        have hfirst : i ≤ k := by
          by_contra hlt
          have := (List.find?_range_eq_some.1 hfind).2.2 k (by omega)
          simp [hfound] at this
        exact allBelow_indexes (show i + 1 ≤ n by omega)
  · exact allBelow_indexes (Nat.le_refl n)

theorem allBelow_cgdcontAccesses
    (hown : hasToken = false → ∀ pre line post, lines = pre ++ line :: post → Names cid line →
      (pre.foldlM (cgdcontEntry g n cid hasToken idle) responses).isSome → 1 ≤ cid ∧ cid ≤ n)
    (hend : ∀ last, lines.foldlM (cgdcontEntry g n cid hasToken idle) responses = some last →
      AllBelow n (endAccesses n cid hasToken last)) :
    AllBelow n (cgdcontAccesses g n cid hasToken idle responses lines) := by
  induction lines generalizing responses with
  | nil => exact hend responses rfl
  | cons line lines ih =>
    rw [cgdcontAccesses]
    refine .append (allBelow_lineAccesses fun htoken hline => hown htoken [] line lines rfl hline rfl) ?_
    cases hnext : cgdcontEntry g n cid hasToken idle responses line with
    | none =>
      intro i hi
      cases hi
    | some next =>
      refine ih (fun htoken pre line' post hlines hline hreached => ?_) fun last hlast => ?_
      · refine hown htoken (line :: pre) line' post (by rw [hlines, List.cons_append]) hline ?_
        rw [List.foldlM_cons, hnext]
        exact hreached
      · refine hend last ?_
        rw [List.foldlM_cons, hnext]
        exact hlast

/-! ## The reports -/

/-- All data calls that are reported satisfy `P`. -/
def Reports (P : DataCall → Prop) (w w' : World) : Prop :=
  ∃ events, w'.log = w.log ++ events ∧ ∀ e ∈ events, ∀ call ∈ e.calls, P call

instance : IsPreorder World (Reports P) where
  refl w := ⟨[], (List.append_nil _).symm, fun _ he => (List.not_mem_nil he).elim⟩
  trans _ _ _ h h' := by
    obtain ⟨events, hlog, hall⟩ := h
    obtain ⟨events', hlog', hall'⟩ := h'
    refine ⟨events ++ events', by rw [hlog', hlog, List.append_assoc], fun e he => ?_⟩
    exact (List.mem_append.1 he).elim (hall e) (hall' e)

theorem reports_note {e : Event} (h : ∀ call ∈ e.calls, P call) : Keeps (Reports P) (note e) := by
  intro w
  refine ⟨[e], rfl, fun e' he' => ?_⟩
  obtain rfl := List.mem_singleton.1 he'
  exact h

theorem reports_send {cmd : AtCommand} : Keeps (Reports P) (at_send_command cmd) := by
  intro w
  refine ⟨[.at_send_command cmd], rfl, fun e he => ?_⟩
  obtain rfl := List.mem_singleton.1 he
  intro call hcall
  cases hcall

theorem reports_modifySim {f : Sim → Sim} : Keeps (Reports P) (modifySim socket_id f) :=
  fun w => ⟨[], (List.append_nil w.log).symm, fun _ he => (List.not_mem_nil he).elim⟩

theorem reports_modifyShared {f : Shared → Shared} : Keeps (Reports P) (modifyShared f) :=
  fun w => ⟨[], (List.append_nil w.log).symm, fun _ he => (List.not_mem_nil he).elim⟩

theorem reports_complete {e : RIL_Errno} (h : ∀ call ∈ calls, P call) :
    Keeps (Reports P) (RIL_onRequestComplete e calls) := reports_note h

theorem reports_fail {e : RIL_Errno} : Keeps (Reports P) (RIL_onRequestComplete e []) :=
  reports_complete fun _ hcall => (List.not_mem_nil hcall).elim

theorem reports_sendDataCallList {e : RIL_Errno} (h : ∀ call ∈ calls, P call) :
    Keeps (Reports P) (sendDataCallList hasToken e calls) :=
  .ite (reports_complete h) (reports_note h)

theorem reports_putPDP {i : Int} : Keeps (Reports P) (putPDP socket_id i) :=
  .ite .pure (.bind reports_modifySim fun _ => reports_modifyShared)

theorem reports_reportFailure {fb_cid cid : Int} : Keeps (Reports P) (reportFailure socket_id fb_cid cid) :=
  .bind reports_putPDP fun _ => .bind reports_putPDP fun _ => .bind reports_modifySim fun _ => reports_fail

theorem reports_reportSetup {call : DataCall} (h : P call) :
    Keeps (Reports P) (reportSetup cfg socket_id cid call) := by
  have hdeact : Keeps (Reports P) (cgact_deact_cmd_rsp cid) :=
    .bind (reports_note fun _ hcall => (List.not_mem_nil hcall).elim) fun _ => reports_modifyShared
  have hcall : ∀ c ∈ [call], P c := by
    intro c hc
    obtain rfl := List.mem_singleton.1 hc
    exact h
  unfold reportSetup
  refine .bind Steps.getFallbackCid fun fb_cid => .bind .reads fun detached => ?_
  refine .ite reports_reportFailure (.ite ?_ (reports_complete hcall))
  exact .bind reports_send fun _ => .bind hdeact fun _ => reports_reportFailure

/-- The entry of the call, or all entries. -/
theorem reports_answerDataCallList
    (hentry : ∀ i, (responses i).cid = cid → i ∈ endAccesses n cid hasToken responses → P (responses i))
    (hall : ¬ (hasToken = true ∧ 0 < cid) → ∀ i : Nat, i < n → P (responses i)) :
    Keeps (Reports P) (answerDataCallList cfg socket_id cid hasToken n responses) := by
  have hclear : Keeps (Reports P) (clearSetupMarks socket_id) := reports_modifySim
  unfold answerDataCallList
  unfold endAccesses at hentry
  split
  · rename_i hsetup
    rw [if_pos hsetup] at hentry
    cases hfind : [0, 1, 2, 3, 4, 5].find? fun i : Int => (responses i).cid = cid with
    | some i =>
      rw [hfind] at hentry
      have hi : 0 ≤ i := by
        have := List.mem_of_find?_eq_some hfind
        simp only [List.mem_cons, List.not_mem_nil, or_false] at this
        omega
      have hcid : (responses i).cid = cid := by simpa using List.find?_some hfind
      have hmem : i ∈ indexes (i.toNat + 1) :=
        List.mem_map.2 ⟨i.toNat, List.mem_range.2 (Nat.lt_succ_self _), Int.toNat_of_nonneg hi⟩
      exact .bind (reports_reportSetup (hentry i hcid hmem)) fun _ => hclear
    | none => exact .bind (.bind reports_modifySim fun _ => reports_fail) fun _ => hclear
  · rename_i hsetup
    refine reports_sendDataCallList fun call hcall => ?_
    obtain ⟨i, hi, rfl⟩ := List.mem_map.1 hcall
    exact hall hsetup i (List.mem_range.1 hi)

/-! ## The whole function -/

theorem getPDPState_eq {i : Int} {w w' : World} (h : w'.sim = w.sim) :
    getPDPState socket_id i w' = ((getPDPState socket_id i w).1, w') := by
  unfold getPDPState
  rw [if_apply, if_apply]
  split
  · rfl
  · simp only [readSim, reads_apply, h]

/-- The entries at the end of the list. -/
theorem listed_of_foldlM {last : Int → DataCall} (hcalls : cgactEntries w.cgactReply.p_intermediates = some calls)
    (hfold : w.cgdcontReply.p_intermediates.foldlM
      (cgdcontEntry w.shared w.entries cid hasToken (isIdle socket_id cid w)) (responsesOf calls w.env.stack) =
        some last) {i : Int} (hi : 0 ≤ i ∧ i < w.entries) :
    Listed socket_id cid hasToken w (last i) := by
  have htracks := tracks_foldlM (tracks_responsesOf calls w.env.stack cid) hfold
  rw [false_or] at htracks
  obtain ⟨k, rfl⟩ := Int.eq_ofNat_of_zero_le hi.1
  have hlength : calls.length = w.entries := length_cgactEntries hcalls
  have hk : k < calls.length := by omega
  exact ⟨calls, hcalls, k, calls[k], List.getElem?_eq_getElem hk, htracks k _ (List.getElem?_eq_getElem hk)⟩

/-- Where a setup looks when the array is finished. -/
theorem Positions.ends (h : Positions socket_id cid hasToken w) {last : Int → DataCall}
    (hsuccess : w.cgactReply.success ∧ w.cgdcontReply.success)
    (hcalls : cgactEntries w.cgactReply.p_intermediates = some calls)
    (hfold : w.cgdcontReply.p_intermediates.foldlM
      (cgdcontEntry w.shared w.entries cid hasToken (isIdle socket_id cid w)) (responsesOf calls w.env.stack) =
        some last) :
    AllBelow w.entries (endAccesses w.entries cid hasToken last) := by
  have hafter : arrayAfter socket_id cid hasToken w w.cgdcontReply.p_intermediates = some last := by
    rw [arrayAfter, if_pos hsuccess, hcalls]
    exact hfold
  refine allBelow_endAccesses (tracks_foldlM (tracks_responsesOf calls w.env.stack cid) hfold)
    (length_cgactEntries hcalls) fun htoken hcid => ?_
  obtain hlong | ⟨calls', hcalls', e, he, heq⟩ := h.setup htoken hcid (by rw [hafter]; rfl)
  · exact .inl hlong
  · obtain rfl := Option.some.inj (hcalls.symm.trans hcalls')
    exact .inr ⟨e, he, heq⟩

theorem allBelow_listAccesses (h : Positions socket_id cid hasToken w) :
    AllBelow w.entries (listAccesses socket_id cid hasToken w) := by
  have hnone : AllBelow w.entries [] := fun _ hi => (List.not_mem_nil hi).elim
  unfold listAccesses
  split
  · rename_i hcgact
    refine .append (allBelow_indexes (Nat.le_refl _)) ?_
    cases hcalls : cgactEntries w.cgactReply.p_intermediates with
    | none => exact hnone
    | some calls =>
      dsimp only
      split
      · rename_i hcgdcont
        refine allBelow_cgdcontAccesses (fun htoken pre line post hlines hline hreached => ?_) fun last hlast => ?_
        · refine h.own htoken pre line post hlines hline ?_
          rw [arrayAfter, if_pos ⟨hcgact, hcgdcont⟩, hcalls]
          exact hreached
        · exact h.ends ⟨hcgact, hcgdcont⟩ hcalls hlast
      · exact hnone
  · exact hnone

theorem reports_list (h : Positions socket_id cid hasToken w) :
    Reports (Listed socket_id cid hasToken w) w (requestOrSendDataCallList cfg socket_id cid hasToken w).2 := by
  -- the commands change nothing that is read afterwards
  let sent : World := (at_send_command .CGACT_query w).2
  let asked : World := (at_send_command .CGDCONT_query sent).2
  have hsent : Reports (Listed socket_id cid hasToken w) w sent := reports_send w
  have hasked : Reports (Listed socket_id cid hasToken w) w asked := IsTrans.trans _ _ _ hsent (reports_send sent)
  have hempty : ∀ e, Keeps (Reports (Listed socket_id cid hasToken w)) (sendDataCallList hasToken e []) :=
    fun e => reports_sendDataCallList fun _ hcall => (List.not_mem_nil hcall).elim
  unfold requestOrSendDataCallList
  rw [bind_apply, if_apply]
  by_cases hcgact : w.cgactReply.success = true
  · have hgot : (at_send_command .CGACT_query w).1.success = true := hcgact
    have hlines : (at_send_command .CGACT_query w).1.p_intermediates = w.cgactReply.p_intermediates := rfl
    rw [if_pos hgot, hlines]
    cases hcalls : cgactEntries w.cgactReply.p_intermediates with
    | none => exact IsTrans.trans _ _ _ hsent (hempty _ sent)
    | some calls =>
      dsimp only
      rw [bind_apply, if_apply]
      by_cases hcgdcont : w.cgdcontReply.success = true
      · have hgot : (at_send_command .CGDCONT_query sent).1.success = true := hcgdcont
        have hlines : (at_send_command .CGDCONT_query sent).1.p_intermediates = w.cgdcontReply.p_intermediates := rfl
        have hstack : asked.env.stack = w.env.stack := (next_stack _).trans (next_stack _)
        have hidle : getPDPState socket_id (cid - 1) asked = ((getPDPState socket_id (cid - 1) w).1, asked) :=
          getPDPState_eq rfl
        have hlength : calls.length = w.entries := length_cgactEntries hcalls
        rw [if_pos hgot, hlines]
        have hworld : (at_send_command .CGDCONT_query (at_send_command .CGACT_query w).2).2 = asked := rfl
        have hshared : id asked.shared = w.shared := rfl
        simp only [bind_apply, readShared, reads_apply, hworld, hidle, hshared, hstack, hlength]
        refine IsTrans.trans _ _ _ hasked ?_
        have hslot : decide ((getPDPState socket_id (cid - 1) w).1 = .PDP_IDLE) = isIdle socket_id cid w := rfl
        rw [hslot]
        cases hfold : w.cgdcontReply.p_intermediates.foldlM
          (cgdcontEntry w.shared w.entries cid hasToken (isIdle socket_id cid w)) (responsesOf calls w.env.stack) with
        | none => exact hempty _ asked
        | some last =>
          have hends := h.ends ⟨hcgact, hcgdcont⟩ hcalls hfold
          refine reports_answerDataCallList (fun i _ hi => ?_) (fun _ i hi => ?_) asked
          · exact listed_of_foldlM hcalls hfold (hends i hi)
          · exact listed_of_foldlM hcalls hfold (by omega)
      · have hgot : ¬ (at_send_command .CGDCONT_query sent).1.success = true := hcgdcont
        rw [if_neg hgot]
        exact IsTrans.trans _ _ _ hasked (hempty _ asked)
  · have hgot : ¬ (at_send_command .CGACT_query w).1.success = true := hcgact
    rw [if_neg hgot]
    exact IsTrans.trans _ _ _ hsent (hempty _ sent)

/-- **The list stays in its array**: as long as the entries that are taken by position are there, every access is below
the number of lines. Each call that is reported has the cid and the active flag of its line, but for the one that is
marked as down. -/
theorem builtInside (h : Positions socket_id cid hasToken w) :
    AllBelow w.entries (listAccesses socket_id cid hasToken w) ∧
      ∀ call ∈ reportedCalls cfg socket_id cid hasToken w, Listed socket_id cid hasToken w call := by
  constructor
  · exact allBelow_listAccesses h
  · intro call hcall
    have hlist : Reports (Listed socket_id cid hasToken w) w
        (requestOrSendDataCallList cfg socket_id cid hasToken w).2 := reports_list h
    obtain ⟨events, hlog, hall⟩ := hlist
    unfold reportedCalls at hcall
    rw [hlog, List.drop_left] at hcall
    obtain ⟨e, he, hmem⟩ := List.mem_flatMap.1 hcall
    exact hall e he call hmem

/-! ### The list after a call that the network has ended -/

/-- Context 1 is listed as active, but its slot is idle again. -/
def endedCall : World :=
  .init (envOf [.response (ascii "OK") [ascii "+CGACT: 1,1"], .response (ascii "OK") [ascii "+CGDCONT:1,\"IP\",\"a\""]])

theorem positions_endedCall : Positions .RIL_SOCKET_1 1 false endedCall where
  own _ _ _ _ _ _ _ := by decide
  setup htoken := Bool.noConfusion htoken

theorem builtInside_endedCall :
    AllBelow endedCall.entries (listAccesses .RIL_SOCKET_1 1 false endedCall) ∧
      ∀ call ∈ reportedCalls gsmConfig .RIL_SOCKET_1 1 false endedCall, Listed .RIL_SOCKET_1 1 false endedCall call :=
  builtInside positions_endedCall

theorem builtInside_fails_endedCall : ¬ BuiltInside gsmConfig .RIL_SOCKET_1 1 false endedCall := by
  intro h
  have hreported : (reportedCalls gsmConfig .RIL_SOCKET_1 1 false endedCall).map DataCall.active = [0] := by
    decide
  have hanswered : (cgactEntries endedCall.cgactReply.p_intermediates).map (·.map DataCall.active) = some [1] := by
    decide
  obtain ⟨call, hcall, hdown⟩ := List.mem_map.1 (hreported.symm ▸ List.mem_singleton_self (0 : Int))
  obtain ⟨calls, hcalls, e, he, -, hactive⟩ := h.2 call hcall
  rw [hcalls] at hanswered
  have hup : e.active ∈ [(1 : Int)] := Option.some.inj hanswered ▸ List.mem_map_of_mem he
  have := List.mem_singleton.1 hup
  omega

end UniRil.Data
