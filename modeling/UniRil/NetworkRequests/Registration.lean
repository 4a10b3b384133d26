import UniRil.NetworkRequests.CellsDecoded

/-!
# The registration (ril_network.c)

The number of commas in an answer tells its layout, and each layout fills the same four numbers; the strings of the
response are printed from them.
-/

namespace UniRil.NetworkRequests

open Flows Handlers
open Sim (lineOf lineOf_eq_some)
open AtTok (Line toInt)

/-! ## Numbers in base 16 -/

/-- `strtoul` with base 16, where there are digits. -/
def strtoul16 (s : Line) : Option Int :=
  let (neg, s) := hexSign (s.dropWhile AtTok.isspace)
  let digits := hexDigits s
  if digits = [] then none
  else
    let value : Int := hexDigitsValue digits
    some (if 2 ^ 64 ≤ value then 2 ^ 64 - 1 else if neg then -value else value)

def hexNumber (i : Nat) (cur : Option Line) : Option Int := (field i cur).bind fun s => (strtoul16 s).map toInt

def nexthexint : Reader Int := fun cur => (hexNumber 0 cur).map fun n => (n, behind 1 cur)

/-- The text of `%x`. -/
def hexadecimal (value : Int) : Line := (Nat.toDigits 16 (value % 2 ^ 32).toNat).map digitByte

/-! ## The request -/

inductive RegistrationRequest
  | VOICE_REGISTRATION_STATE
  | DATA_REGISTRATION_STATE
  | IMS_REGISTRATION_STATE
  | VOICE_RADIO_TECH
  deriving DecidableEq

structure RegistrationGlobals where
  s_PSRegStateDetail : Int
  /-- `s_PSRegState[socket_id] == STATE_IN_SERVICE` -/
  inService : Bool
  s_in2G : Bool
  s_in4G : Bool
  s_imsRegistered : Int
  deriving DecidableEq

/-- `response[0]` to `response[3]` -/
structure RegResponse where
  stat : Int
  lac : Int
  cid : Int
  act : Int
  deriving DecidableEq

def RADIO_TECH_GPRS : Int := 1
def RADIO_TECH_EDGE : Int := 2

def mapCgregResponse (in_response : Int) : Int :=
  if in_response = 0 then RADIO_TECH_GPRS
  else if in_response = 3 then RADIO_TECH_EDGE
  else if in_response = 2 then 3
  else if in_response = 4 then 9
  else if in_response = 5 then 10
  else if in_response = 6 then 11
  else if in_response = 15 then 15
  else if in_response = 7 then 14
  else if in_response = 16 then 19
  else 0

def mapRegState (inResponse : Int) : Int :=
  if inResponse ∈ [0, 1, 2, 3, 4, 5, 12, 13, 14] then inResponse
  else if inResponse = 8 ∨ inResponse = 10 then 10
  else 4

/-- The fields, by the number of commas. -/
def registrationFields : Nat → Reader RegResponse
  | 0 => do
    let stat ← nextint
    pure { stat := stat, lac := -1, cid := -1, act := -1 }
  | 1 => do
    let _ ← nextint
    let stat ← nextint
    pure { stat := stat, lac := -1, cid := -1, act := -1 }
  | 2 => do
    let stat ← nextint
    let lac ← nexthexint
    let cid ← nexthexint
    pure { stat := stat, lac := lac, cid := cid, act := -1 }
  | 3 => do
    let _ ← nextint
    let stat ← nextint
    let lac ← nexthexint
    let cid ← nexthexint
    pure { stat := stat, lac := lac, cid := cid, act := -1 }
  | 4 => do
    let _ ← nextint
    let stat ← nextint
    let lac ← nexthexint
    let cid ← nexthexint
    let act ← nextint
    pure { stat := stat, lac := lac, cid := cid, act := act }
  | 5 => do
    let _ ← nextint
    let stat ← nextint
    let lac ← nexthexint
    -- the field that is skipped is the one behind the next
    let cid ← nexthexint
    let _ ← nexthexint
    let act ← nextint
    pure { stat := stat, lac := lac, cid := cid, act := act }
  | _ => fun _ => none

def commasIn (cur : Option Line) : Nat := (cur.getD []).count 44

def readRegistration : Reader RegResponse := fun cur => registrationFields (commasIn cur) cur

def readTac : Reader Int := fun cur =>
  if 2 ≤ commasIn cur then
    (do
      let _ ← nextint
      let _ ← nextint
      nexthexint) cur
  else
    some (-1, cur)

variable {γ ε : Type}

/-- What is stored in `*tac`, if something is. -/
def queryCeregTac : Handler γ ε (Option Int) :=
  labelled (do
      let (r, line) ← askLine (ascii "AT+CEREG?") (ascii "+CEREG:") none
      let (tac, _) ← demand (readLine readTac line) (some r, none)
      at_response_free (some r)
      pure (if tac ≠ -1 then some tac else none))
    -- error:
    fun p => do
      at_response_free p.1
      pure none

def registrationQuery (s_isLTE : Bool) : RegistrationRequest → Line × Line
  | .VOICE_REGISTRATION_STATE => (ascii "AT+CREG?", ascii "+CREG:")
  | .VOICE_RADIO_TECH => (ascii "AT+CREG?", ascii "+CREG:")
  | .DATA_REGISTRATION_STATE =>
    if s_isLTE then (ascii "AT+CEREG?", ascii "+CEREG:") else (ascii "AT+CGREG?", ascii "+CGREG:")
  | .IMS_REGISTRATION_STATE => (ascii "AT+CIREG?", ascii "+CIREG:")

/-- The numbers as they are reported. -/
def RegResponse.mapped (r : RegResponse) : RegResponse :=
  { r with
    stat := if r.stat = 8 then 10 else r.stat
    act := if r.act ≠ -1 then mapCgregResponse r.act else r.act }

/-- What an answer changes. -/
def registered (s_isLTE : Bool) (request : RegistrationRequest) (r : RegResponse) (g : RegistrationGlobals) :
    RegistrationGlobals :=
  let g := if request = .DATA_REGISTRATION_STATE then { g with s_PSRegStateDetail := mapRegState r.stat } else g
  let r' := r.mapped
  let g := if r.act ≠ -1 ∧ (r'.act = RADIO_TECH_GPRS ∨ r'.act = RADIO_TECH_EDGE) then { g with s_in2G := true } else g
  if s_isLTE ∧ request = .DATA_REGISTRATION_STATE then
    if r'.stat = 1 ∨ r'.stat = 5 then { g with inService := true, s_in4G := r'.act = 14 ∨ r'.act = 19 }
    else { g with inService := false, s_in4G := false }
  else
    g

/-- -1 stands for a field that is not there. -/
def present (print : Int → Line) (n : Int) : Option Line := if n ≠ -1 then some (print n) else none

/-- `responseStr[0]` to `responseStr[3]` -/
def RegResponse.strings (r : RegResponse) : List (Option Line) :=
  [some (decimal r.stat), present hexadecimal r.lac, present hexadecimal r.cid, present decimal r.act]

def completeRegistration (s_isLTE : Bool) (t : RIL_Token) (r : RegResponse) :
    RegistrationRequest → Handler RegistrationGlobals ε Unit
  | .VOICE_REGISTRATION_STATE => do
    let g ← getGlobals
    let responseStr ←
      if s_isLTE ∧ g.s_in4G then do
        let tac ← queryCeregTac
        pure (r.strings.set 1 (some (hexadecimal (tac.getD r.lac))))
      else
        pure r.strings
    RIL_onRequestComplete t .SUCCESS
      (.strings (responseStr ++ [none, none, none, some (ascii "0")] ++ List.replicate 7 none))
  | .DATA_REGISTRATION_STATE => RIL_onRequestComplete t .SUCCESS (.strings (r.strings ++ [none, some (ascii "3")]))
  | .IMS_REGISTRATION_STATE => do
    modifyGlobals fun g => { g with s_imsRegistered := r.lac }
    RIL_onRequestComplete t .SUCCESS (.ints [r.lac, r.cid])
  | .VOICE_RADIO_TECH => RIL_onRequestComplete t .SUCCESS (.ints [if r.act ≠ -1 then 2 ^ r.act.toNat else 1])

def requestRegistrationState (s_isLTE : Bool) (request : RegistrationRequest) (t : RIL_Token) :
    Handler RegistrationGlobals Empty Unit :=
  labelled (do
      let (r, line) ← askLine (registrationQuery s_isLTE request).1 (registrationQuery s_isLTE request).2 none
      let (response, _) ← demand (readLine readRegistration line) (some r, none)
      modifyGlobals (registered s_isLTE request response)
      completeRegistration s_isLTE t response.mapped request
      at_response_free (some r))
    -- error:
    fun p => do
      RIL_onRequestComplete t .GENERIC_FAILURE .NULL
      at_response_free p.1

/-! ## Answers -/

/-- The layouts of an answer. -/
inductive RegAnswer
  | stat (stat : Int)
  | nStat (n stat : Int)
  | statLacCid (stat lac cid : Int)
  | nStatLacCid (n stat lac cid : Int)
  | nStatLacCidAct (n stat lac cid act : Int)
  | nStatLacRacCidAct (n stat lac rac cid act : Int)
  deriving DecidableEq

/-- A field of an answer, in its base. -/
inductive RegField
  | dec (n : Int)
  | hex (n : Int)
  deriving DecidableEq

def RegField.StandsAt (i : Nat) (cur : Option Line) : RegField → Prop
  | .dec n => number i cur = some n
  | .hex n => hexNumber i cur = some n

instance (i : Nat) (cur : Option Line) : ∀ f : RegField, Decidable (f.StandsAt i cur)
  | .dec n => inferInstanceAs (Decidable (number i cur = some n))
  | .hex n => inferInstanceAs (Decidable (hexNumber i cur = some n))

/-- The fields stand one after the other. -/
def StandFrom (cur : Option Line) : Nat → List RegField → Prop
  | _, [] => True
  | i, f :: fs => f.StandsAt i cur ∧ StandFrom cur (i + 1) fs

instance decidableStandFrom (cur : Option Line) : ∀ (i : Nat) (fs : List RegField), Decidable (StandFrom cur i fs)
  | _, [] => .isTrue trivial
  | i, _ :: fs =>
    have := decidableStandFrom cur (i + 1) fs
    inferInstanceAs (Decidable (_ ∧ _))

namespace RegAnswer

def fields : RegAnswer → List RegField
  | stat s => [.dec s]
  | nStat n s => [.dec n, .dec s]
  | statLacCid s l c => [.dec s, .hex l, .hex c]
  | nStatLacCid n s l c => [.dec n, .dec s, .hex l, .hex c]
  | nStatLacCidAct n s l c a => [.dec n, .dec s, .hex l, .hex c, .dec a]
  | nStatLacRacCidAct n s l r c a => [.dec n, .dec s, .hex l, .hex r, .hex c, .dec a]

/-- The fields stand in the line, with a comma between any two. -/
def Written (a : RegAnswer) (line : Line) : Prop :=
  ∃ cur, AtTok.at_tok_start (some line) = some cur ∧ cur.count 44 + 1 = a.fields.length ∧
    StandFrom (some cur) 0 a.fields

def statOf : RegAnswer → Int
  | stat s => s
  | nStat _ s => s
  | statLacCid s _ _ => s
  | nStatLacCid _ s _ _ => s
  | nStatLacCidAct _ s _ _ _ => s
  | nStatLacRacCidAct _ s _ _ _ _ => s

def lacOf : RegAnswer → Option Int
  | stat _ => none
  | nStat _ _ => none
  | statLacCid _ l _ => some l
  | nStatLacCid _ _ l _ => some l
  | nStatLacCidAct _ _ l _ _ => some l
  | nStatLacRacCidAct _ _ l _ _ _ => some l

def cidOf : RegAnswer → Option Int
  | stat _ => none
  | nStat _ _ => none
  | statLacCid _ _ c => some c
  | nStatLacCid _ _ _ c => some c
  | nStatLacCidAct _ _ _ c _ => some c
  | nStatLacRacCidAct _ _ _ _ c _ => some c

def actOf : RegAnswer → Option Int
  | stat _ => none
  | nStat _ _ => none
  | statLacCid _ _ _ => none
  | nStatLacCid _ _ _ _ => none
  | nStatLacCidAct _ _ _ _ a => some a
  | nStatLacRacCidAct _ _ _ _ _ a => some a

/-- The answer has no `rac`. -/
def plain : RegAnswer → Bool
  | nStatLacRacCidAct _ _ _ _ _ _ => false
  | _ => true

end RegAnswer

/-! ## What is reported -/

/-- The strings are those of the answer. -/
structure ReadByPosition (a : RegAnswer) (strings : List (Option Line)) : Prop where
  stat : strings[0]? = some (some (decimal a.statOf))
  lac : strings[1]? = some (a.lacOf.map hexadecimal)
  cid : strings[2]? = some (a.cidOf.map hexadecimal)
  act : strings[3]? = some (a.actOf.map fun act => decimal (mapCgregResponse act))

/-- The number that AT+CEREG? has for `tac`. -/
def tacOf (a : Answer) : Option Int :=
  (lineOf (ascii "+CEREG:") a).bind fun line =>
    (readLine readTac line).bind fun r => if r.1 ≠ -1 then some r.1 else none

/-- With LTE the area of the voice registration is asked for again. -/
def AsksTac (s_isLTE : Bool) (request : RegistrationRequest) (g : RegistrationGlobals) : Prop :=
  s_isLTE = true ∧ request = .VOICE_REGISTRATION_STATE ∧ g.s_in4G = true

/-- Where a number is -1 the string is NULL. -/
def shown (print : Int → Line) (n : Option Int) : Option Line := n.bind (present print)

/-- The strings are those of the answer, with 10 for the state 8, with -1 for a field that is not there, and with the
area of AT+CEREG? where that is asked for. -/
structure ReadByLayout (a : RegAnswer) (asked : Prop) (tac : Option Int) (strings : List (Option Line)) : Prop where
  stat : strings[0]? = some (some (decimal (if a.statOf = 8 then 10 else a.statOf)))
  lac : ¬ asked → strings[1]? = some (shown hexadecimal a.lacOf)
  area : ∀ n, tac = some n → asked → strings[1]? = some (some (hexadecimal n))
  kept : ∀ n, a.lacOf = some n → n ≠ -1 → tac = none → asked → strings[1]? = some (some (hexadecimal n))
  cid : a.plain = true → strings[2]? = some (shown hexadecimal a.cidOf)
  act : strings[3]? = some (shown (fun act => decimal (mapCgregResponse act)) a.actOf)

/-! ## Reading -/

theorem bind_nexthexint_eq_some {α : Type} {cur : Option Line} {v : α × Option Line} (i : Nat) (f : Int → Reader α) :
    (nexthexint >>= f) (behind i cur) = some v ↔ ∃ n, hexNumber i cur = some n ∧ f n (behind (i + 1) cur) = some v := by
  have hplace : hexNumber 0 (behind i cur) = hexNumber i cur := by
    rw [hexNumber, hexNumber, field_behind, Nat.add_zero]
  simp [bind, StateT.bind, nexthexint, hplace, Option.bind_eq_some_iff, behind_behind]

/-- What the layout leaves in `response`. -/
def RegAnswer.response (a : RegAnswer) : RegResponse :=
  match a with
  | nStatLacRacCidAct _ s l r _ act => { stat := s, lac := l, cid := r, act := act }
  | a => { stat := a.statOf, lac := a.lacOf.getD (-1), cid := a.cidOf.getD (-1), act := a.actOf.getD (-1) }

theorem readRegistration_written {a : RegAnswer} {line : Line} (h : a.Written line) :
    ∃ rest, readLine readRegistration line = some (a.response, rest) := by
  obtain ⟨cur, hcur, hcommas, hfields⟩ := h
  rw [readLine, hcur, Option.bind_some, readRegistration, commasIn, Option.getD_some]
  have hcount : cur.count 44 = a.fields.length - 1 := by omega
  rw [hcount, ← behind_zero (some cur)]
  cases a with
  | stat s =>
    obtain ⟨h0, -⟩ := hfields
    refine ⟨behind 1 (some cur), ?_⟩
    simp only [RegAnswer.fields, List.length, registrationFields, bind_nextint_eq_some, pure_eq_some]
    exact ⟨_, h0, rfl⟩
  | nStat n s =>
    obtain ⟨h0, h1, -⟩ := hfields
    refine ⟨behind 2 (some cur), ?_⟩
    simp only [RegAnswer.fields, List.length, registrationFields, bind_nextint_eq_some, pure_eq_some]
    exact ⟨_, h0, _, h1, rfl⟩
  | statLacCid s l c =>
    obtain ⟨h0, h1, h2, -⟩ := hfields
    refine ⟨behind 3 (some cur), ?_⟩
    simp only [RegAnswer.fields, List.length, registrationFields, bind_nextint_eq_some, bind_nexthexint_eq_some,
      pure_eq_some]
    exact ⟨_, h0, _, h1, _, h2, rfl⟩
  | nStatLacCid n s l c =>
    obtain ⟨h0, h1, h2, h3, -⟩ := hfields
    refine ⟨behind 4 (some cur), ?_⟩
    simp only [RegAnswer.fields, List.length, registrationFields, bind_nextint_eq_some, bind_nexthexint_eq_some,
      pure_eq_some]
    exact ⟨_, h0, _, h1, _, h2, _, h3, rfl⟩
  | nStatLacCidAct n s l c act =>
    obtain ⟨h0, h1, h2, h3, h4, -⟩ := hfields
    refine ⟨behind 5 (some cur), ?_⟩
    simp only [RegAnswer.fields, List.length, registrationFields, bind_nextint_eq_some, bind_nexthexint_eq_some,
      pure_eq_some]
    exact ⟨_, h0, _, h1, _, h2, _, h3, _,
      h4, rfl⟩
  | nStatLacRacCidAct n s l r c act =>
    obtain ⟨h0, h1, h2, h3, h4, h5, -⟩ := hfields
    refine ⟨behind 6 (some cur), ?_⟩
    simp only [RegAnswer.fields, List.length, registrationFields, bind_nextint_eq_some, bind_nexthexint_eq_some,
      pure_eq_some]
    exact ⟨_, h0, _, h1, _, h2, _, h3, _,
      h4, _, h5, rfl⟩

/-! ## The run -/

section

variable {w : World γ}

/-- AT+CEREG? is sent, and nothing is reported. -/
theorem wp_queryCeregTac {Q : Option Int → World γ → Prop} {E : Exit ε → World γ → Prop}
    (h : ∀ w' : World γ, w'.log = w.log ++ [.at_send_command (ascii "AT+CEREG?")] → Q (tacOf (w.answers 0)) w') :
    wp (queryCeregTac : Handler γ ε (Option Int)) Q E w := by
  unfold queryCeregTac
  rw [wp_labelled, wp_bind]
  refine wp_askLine (fun r line w₁ hline hasked => ?_) fun p w₁ hline hasked => ?_
  · simp only [wp_bind, wp_demand]
    refine ⟨fun v hv => wp_at_response_free (some r) fun w₂ hlog => ?_, fun hnone => ?_⟩
    · have htac : tacOf (w.answers 0) = if v.1 ≠ -1 then some v.1 else none := by
        rw [tacOf, hline, Option.bind_some, hv, Option.bind_some]
      rw [wp_pure, ← htac]
      exact h w₂ (by rw [hlog, hasked.1])
    · have htac : tacOf (w.answers 0) = none := by rw [tacOf, hline, Option.bind_some, hnone, Option.bind_none]
      rw [atLabel_goto, wp_bind]
      refine wp_at_response_free _ fun w₂ hlog => ?_
      rw [wp_pure, ← htac]
      exact h w₂ (by rw [hlog, hasked.1])
  · have htac : tacOf (w.answers 0) = none := by rw [tacOf, hline, Option.bind_none]
    rw [atLabel_goto, wp_bind]
    refine wp_at_response_free _ fun w₂ hlog => ?_
    rw [wp_pure, ← htac]
    exact h w₂ (by rw [hlog, hasked.1])

end

/-! ## The strings -/

section

variable (a : RegAnswer)

theorem mapCgregResponse_ne (n : Int) : mapCgregResponse n ≠ -1 := by
  unfold mapCgregResponse RADIO_TECH_GPRS RADIO_TECH_EDGE
  repeat' split
  all_goals decide

theorem response_stat : a.response.stat = a.statOf := by
  cases a with
  | stat s => rfl
  | nStat n s => rfl
  | statLacCid s l c => rfl
  | nStatLacCid n s l c => rfl
  | nStatLacCidAct n s l c act => rfl
  | nStatLacRacCidAct n s l r c act => rfl

theorem response_lac : a.response.lac = a.lacOf.getD (-1) := by
  cases a with
  | stat s => rfl
  | nStat n s => rfl
  | statLacCid s l c => rfl
  | nStatLacCid n s l c => rfl
  | nStatLacCidAct n s l c act => rfl
  | nStatLacRacCidAct n s l r c act => rfl

theorem response_cid (h : a.plain = true) : a.response.cid = a.cidOf.getD (-1) := by
  cases a with
  | stat s => rfl
  | nStat n s => rfl
  | statLacCid s l c => rfl
  | nStatLacCid n s l c => rfl
  | nStatLacCidAct n s l c act => rfl
  | nStatLacRacCidAct n s l r c act => cases h

theorem response_act : a.response.act = a.actOf.getD (-1) := by
  cases a with
  | stat s => rfl
  | nStat n s => rfl
  | statLacCid s l c => rfl
  | nStatLacCid n s l c => rfl
  | nStatLacCidAct n s l c act => rfl
  | nStatLacRacCidAct n s l r c act => rfl

theorem present_getD (print : Int → Line) (n : Option Int) : present print (n.getD (-1)) = shown print n := by
  cases n with
  | none => rfl
  | some n => rfl

/-- The strings that are printed without AT+CEREG?. -/
theorem strings_mapped :
    a.response.mapped.strings[0]? = some (some (decimal (if a.statOf = 8 then 10 else a.statOf))) ∧
      a.response.mapped.strings[1]? = some (shown hexadecimal a.lacOf) ∧
      (a.plain = true → a.response.mapped.strings[2]? = some (shown hexadecimal a.cidOf)) ∧
      a.response.mapped.strings[3]? = some (shown (fun act => decimal (mapCgregResponse act)) a.actOf) := by
  refine ⟨?_, ?_, ?_, ?_⟩
  · rw [RegResponse.strings, RegResponse.mapped, List.getElem?_cons_zero, response_stat]
  · rw [RegResponse.strings, RegResponse.mapped, List.getElem?_cons_succ, List.getElem?_cons_zero, response_lac,
      present_getD]
  · intro hplain
    rw [RegResponse.strings, RegResponse.mapped, List.getElem?_cons_succ, List.getElem?_cons_succ,
      List.getElem?_cons_zero, response_cid a hplain, present_getD]
  · have hact : present decimal a.response.mapped.act = shown (fun act => decimal (mapCgregResponse act)) a.actOf := by
      rw [RegResponse.mapped, response_act]
      cases a.actOf with
      | none => rfl
      | some n =>
        by_cases hn : n = -1
        · simp [hn, present, shown]
        · simp [hn, present, shown, mapCgregResponse_ne]
    exact congrArg some hact

end

/-! ## Every answer -/

theorem registered_in4G (s_isLTE : Bool) (r : RegResponse) (g : RegistrationGlobals) :
    (registered s_isLTE .VOICE_REGISTRATION_STATE r g).s_in4G = g.s_in4G := by
  simp only [registered, reduceCtorEq, if_false, and_false]
  split
  · rfl
  · rfl

theorem reads_strings (a : RegAnswer) {asks : Prop} (hasks : ¬ asks) (tac : Option Int) (rest : List (Option Line)) :
    ReadByLayout a asks tac (a.response.mapped.strings ++ rest) := by
  obtain ⟨hstat, hlac, hcid, hact⟩ := strings_mapped a
  constructor
  · exact hstat
  · exact fun _ => hlac
  · exact fun n _ h => absurd h hasks
  · exact fun n _ _ _ h => absurd h hasks
  · exact hcid
  · exact hact

theorem reads_tac (a : RegAnswer) (asks : Prop) (tac : Option Int) (rest : List (Option Line)) (hasks : asks) :
    ReadByLayout a asks tac
      (a.response.mapped.strings.set 1 (some (hexadecimal (tac.getD a.response.mapped.lac))) ++ rest) := by
  obtain ⟨hstat, hlac, hcid, hact⟩ := strings_mapped a
  have hkept : a.response.mapped.lac = a.lacOf.getD (-1) := response_lac a
  constructor
  · exact hstat
  · exact fun h => absurd hasks h
  · rintro n rfl -
    rfl
  · rintro n hn - rfl -
    rw [hkept, hn]
    rfl
  · exact hcid
  · exact hact

/-- The response is completed with the strings of the answer. -/
theorem wp_completeRegistration (s_isLTE : Bool) (t : RIL_Token) (a : RegAnswer) {request : RegistrationRequest}
    (hrequest : request = .VOICE_REGISTRATION_STATE ∨ request = .DATA_REGISTRATION_STATE)
    (w : World RegistrationGlobals) :
    wp (completeRegistration s_isLTE t a.response.mapped request : Handler RegistrationGlobals ε Unit)
      (fun _ w' => ∃ strings, .RIL_onRequestComplete t .SUCCESS (.strings strings) ∈ w'.log ∧
        ReadByLayout a (AsksTac s_isLTE request w.globals) (tacOf (w.answers 0)) strings) (fun _ _ => False) w := by
  rcases hrequest with rfl | rfl
  · unfold completeRegistration
    rw [wp_bind, wp_getGlobals]
    by_cases hasks : s_isLTE = true ∧ w.globals.s_in4G = true
    · rw [if_pos hasks, wp_bind]
      refine wp_queryCeregTac fun w₁ _ => ?_
      rw [wp_bind, wp_pure, wp_RIL_onRequestComplete]
      refine ⟨_, List.mem_append_right _ List.mem_cons_self, ?_⟩
      rw [List.append_assoc]
      exact reads_tac a _ _ _ ⟨hasks.1, rfl, hasks.2⟩
    · rw [if_neg hasks, wp_bind, wp_pure, wp_RIL_onRequestComplete]
      refine ⟨_, List.mem_append_right _ List.mem_cons_self, ?_⟩
      rw [List.append_assoc]
      refine reads_strings a ?_ _ _
      rintro ⟨hlte, -, h4G⟩
      exact hasks ⟨hlte, h4G⟩
  · unfold completeRegistration
    rw [wp_RIL_onRequestComplete]
    refine ⟨_, List.mem_append_right _ List.mem_cons_self, reads_strings a ?_ _ _⟩
    rintro ⟨-, hvoice, -⟩
    cases hvoice

/-- **An answer is read by its layout**: the strings of the registration are its fields. -/
theorem registration_reported (s_isLTE : Bool) (request : RegistrationRequest) (t : RIL_Token) (a : RegAnswer)
    (line : Line) (w : World RegistrationGlobals)
    (hrequest : request = .VOICE_REGISTRATION_STATE ∨ request = .DATA_REGISTRATION_STATE)
    (hline : lineOf (registrationQuery s_isLTE request).2 (w.answers 0) = some line) (hwritten : a.Written line) :
    ∃ strings, .RIL_onRequestComplete t .SUCCESS (.strings strings) ∈
        (after (requestRegistrationState s_isLTE request t) w).log ∧
      ReadByLayout a (AsksTac s_isLTE request w.globals) (tacOf (w.answers 1)) strings := by
  apply after_of_ends (P := fun w' : World RegistrationGlobals => ∃ strings,
    .RIL_onRequestComplete t .SUCCESS (.strings strings) ∈ w'.log ∧
      ReadByLayout a (AsksTac s_isLTE request w.globals) (tacOf (w.answers 1)) strings)
  obtain ⟨rest, hread⟩ := readRegistration_written hwritten
  unfold requestRegistrationState
  rw [wp_labelled, wp_bind]
  refine wp_askLine_globals (fun r line' w₁ hline' hasked hglobals => ?_) fun p w₁ hnone _ _ => ?_
  · obtain rfl := Option.some.inj (hline.symm.trans hline')
    simp only [hread, demand, wp_bind, wp_pure, wp_modifyGlobals]
    have hasks : AsksTac s_isLTE request (registered s_isLTE request a.response w₁.globals) =
        AsksTac s_isLTE request w.globals := by
      refine propext (and_congr_right fun _ => and_congr_right fun hvoice => ?_)
      rw [hvoice, registered_in4G, hglobals]
    refine wp_mono (wp_completeRegistration s_isLTE t a hrequest _) ?_ fun e w₂ h => h.elim
    rintro - w₂ ⟨strings, hmem, hreads⟩
    refine wp_at_response_free _ fun w₃ hlog => ⟨strings, ?_, ?_⟩
    · rw [hlog]
      exact hmem
    · rw [globals_setGlobals, hasks, answers_setGlobals, hasked.2.1] at hreads
      exact hreads
  · rw [hline] at hnone
    cases hnone

/-- A modem that answers so, one command after the other. -/
def answering (lines : List Line) : Nat → Answer := fun n => .response (ascii "OK") [lines.getD n []]

/-- The globals while the SIM is in LTE. -/
def in4G : RegistrationGlobals :=
  { s_PSRegStateDetail := 1, inService := true, s_in2G := false, s_in4G := true, s_imsRegistered := 0 }

/-- The log of a voice registration that is answered with these lines. -/
def voiceLog (s_isLTE : Bool) (lines : List Line) : List Event :=
  (after (requestRegistrationState s_isLTE .VOICE_REGISTRATION_STATE (some 0))
    (World.start (answering lines) (fun _ => true) in4G)).log

/-- The voice registration of a SIM in LTE, with the area of AT+CEREG?. -/
theorem registration_reported_4G :
    ∃ strings, .RIL_onRequestComplete (some 0) .SUCCESS (.strings strings) ∈
        voiceLog true [ascii "+CREG: 2,1,\"00D5\",\"1\",7", ascii "+CEREG: 2,1,\"00AB\",\"1\",7"] ∧
      ReadByLayout (.nStatLacCidAct 2 1 213 1 7) (AsksTac true .VOICE_REGISTRATION_STATE in4G) (some 171) strings :=
  registration_reported true .VOICE_REGISTRATION_STATE (some 0) (.nStatLacCidAct 2 1 213 1 7)
    (ascii "+CREG: 2,1,\"00D5\",\"1\",7")
    (World.start
      (answering [ascii "+CREG: 2,1,\"00D5\",\"1\",7", ascii "+CEREG: 2,1,\"00AB\",\"1\",7"]) (fun _ => true) in4G)
    (.inl rfl) (by decide)
    ⟨ascii " 2,1,\"00D5\",\"1\",7", by decide, by decide, by decide⟩

/-- The strings of a log whose last event completes the request. -/
theorem strings_of_mem {log cmds : List Event} {strings strings' : List (Option Line)}
    (hcmds : ∀ e ∈ cmds, Event.completes (some 0) e = false)
    (hlog : log = cmds ++ [.RIL_onRequestComplete (some 0) .SUCCESS (.strings strings')])
    (hmem : .RIL_onRequestComplete (some 0) .SUCCESS (.strings strings) ∈ log) : strings' = strings := by
  rw [hlog, List.mem_append, List.mem_singleton, Event.RIL_onRequestComplete.injEq, Payload.strings.injEq] at hmem
  rcases hmem with hmem | ⟨-, -, rfl⟩
  · have hnot := hcmds _ hmem
    simp [Event.completes] at hnot
  · rfl

/-- The state 8, a field that is -1, and the area of a SIM in LTE are not reported as they stand in the line. -/
theorem registration_fails_byPosition :
    (.nStat 2 8 : RegAnswer).Written (ascii "+CREG: 2,8") ∧
      (∀ strings, .RIL_onRequestComplete (some 0) .SUCCESS (.strings strings) ∈ voiceLog false [ascii "+CREG: 2,8"] →
        ¬ ReadByPosition (.nStat 2 8) strings) ∧
      (.nStatLacCid 2 1 (-1) 1 : RegAnswer).Written (ascii "+CREG: 2,1,FFFFFFFF,1") ∧
      (∀ strings, .RIL_onRequestComplete (some 0) .SUCCESS (.strings strings) ∈
        voiceLog false [ascii "+CREG: 2,1,FFFFFFFF,1"] → ¬ ReadByPosition (.nStatLacCid 2 1 (-1) 1) strings) ∧
      (.nStatLacCid 2 1 213 1 : RegAnswer).Written (ascii "+CREG: 2,1,00D5,1") ∧
      ∀ strings, .RIL_onRequestComplete (some 0) .SUCCESS (.strings strings) ∈
        voiceLog true [ascii "+CREG: 2,1,00D5,1", ascii "+CEREG: 2,1,00AB,1"] →
        ¬ ReadByPosition (.nStatLacCid 2 1 213 1) strings := by
  refine ⟨⟨ascii " 2,8", by decide, by decide, by decide⟩, ?_,
    ⟨ascii " 2,1,FFFFFFFF,1", by decide, by decide, by decide⟩, ?_,
    ⟨ascii " 2,1,00D5,1", by decide, by decide, by decide⟩, ?_⟩
  · intro strings hmem hreads
    have hlog : voiceLog false [ascii "+CREG: 2,8"] =
        [.at_send_command (ascii "AT+CREG?")] ++ [.RIL_onRequestComplete (some 0) .SUCCESS
          (.strings ([some (ascii "10"), none, none, none, none, none, none, some (ascii "0")] ++
            List.replicate 7 none))] := by decide
    obtain rfl := strings_of_mem (by decide) hlog hmem
    exact absurd hreads.stat (by decide)
  · intro strings hmem hreads
    have hlog : voiceLog false [ascii "+CREG: 2,1,FFFFFFFF,1"] =
        [.at_send_command (ascii "AT+CREG?")] ++ [.RIL_onRequestComplete (some 0) .SUCCESS
          (.strings ([some (ascii "1"), none, some (ascii "1"), none, none, none, none, some (ascii "0")] ++
            List.replicate 7 none))] := by decide
    obtain rfl := strings_of_mem (by decide) hlog hmem
    exact absurd hreads.lac (by decide)
  · intro strings hmem hreads
    have hlog : voiceLog true [ascii "+CREG: 2,1,00D5,1", ascii "+CEREG: 2,1,00AB,1"] =
        [.at_send_command (ascii "AT+CREG?"), .at_send_command (ascii "AT+CEREG?")] ++
          [.RIL_onRequestComplete (some 0) .SUCCESS
            (.strings ([some (ascii "1"), some (ascii "ab"), some (ascii "1"), none, none, none, none,
              some (ascii "0")] ++ List.replicate 7 none))] := by decide
    obtain rfl := strings_of_mem (by decide) hlog hmem
    exact absurd hreads.lac (by decide)

end UniRil.NetworkRequests
