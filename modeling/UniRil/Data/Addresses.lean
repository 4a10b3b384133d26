import UniRil.Data.Context

/-!
# What an answer to AT+CGCONTRDP reports

To the tables of the types an answer is a list of cids, each with the type of its address. The
contexts and the properties of the interfaces hold one such table each, and both take the same
reports.
-/

namespace UniRil.Data

open AtTok

/-! ## The reports -/

/-- The text of the address, when `raw` was left from the line before. -/
def addressOf (raw input : Option Line) : Option Line :=
  if at_tok_hasmore input then (at_tok_nextstr input).p_out else raw

/-- The cids of the lines and the types of their addresses. -/
def reports : Option Line → List Line → List (Int × IPType)
  | _, [] => []
  | raw, line :: lines =>
    match contrdpCid line with
    | none => reports raw lines
    | some (cid, input) =>
      if cid < MAX_PDP_NUM ∧ 1 ≤ cid then
        (cid, (readIPAddr (addressOf raw input) []).1) :: reports (readIPAddr (addressOf raw input) []).2.1 lines
      else reports (addressOf raw input) lines

/-- A table of types, the type that was asked for and the number of addresses so far. -/
structure Types where
  table : Int → IPType
  asked : IPType
  num : Nat

/-- An address of unknown type is not counted. -/
def Types.address (t : Types) (r : Int × IPType) : Types :=
  if r.2 = .UNKNOWN then t else { t with table := Function.update t.table (r.1 - 1) r.2, num := t.num + 1 }

/-- From the second address on the type is the one that was asked for. -/
def Types.settle (t : Types) (cid : Int) : Types :=
  if 1 < t.num then { t with table := Function.update t.table (cid - 1) t.asked, asked := .IPV4V6 } else t

def Types.report (t : Types) (r : Int × IPType) : Types := (t.address r).settle r.1

/-- The table after an answer. -/
def typesAfter (table : Int → IPType) (asked : IPType) (lines : List Line) : Int → IPType :=
  ((reports none lines).foldl Types.report { table := table, asked := asked, num := 0 }).table

/-- The answer names the cid of a context. -/
def named (index : Int) (lines : List Line) : Bool := (reports none lines).any fun r => r.1 = index + 1

/-! ## The code takes the reports -/

/-- The types of the contexts. -/
def Shared.ipTypes (g : Shared) : Int → IPType := fun i => (g.pdp_info i).ip_state

/-- The types of the interfaces. -/
def Shared.netTypes (g : Shared) : Int → IPType := fun i => (g.net i).ip_type

/-- The tables of the contexts and of the interfaces are `t` and `u`. -/
structure Sees (s : Shared × Contrdp) (t u : Types) : Prop where
  ip : s.1.ipTypes = t.table
  net : s.1.netTypes = u.table
  asked : s.1.s_pdpType = t.asked ∧ s.1.s_pdpType = u.asked
  num : s.2.ip_type_num = t.num ∧ s.2.ip_type_num = u.num

theorem readIPAddr_cases (raw : Option Line) :
    (readIPAddr raw []).1 = .UNKNOWN ∨ (readIPAddr raw []).1 = .IPV4 ∨ (readIPAddr raw []).1 = .IPV6 := by
  unfold readIPAddr
  cases raw with
  | none => exact .inl rfl
  | some raw =>
    simp only
    split
    · exact .inr (.inr rfl)
    · split
      · split
        · exact .inr (.inl rfl)
        · exact .inr (.inr rfl)
      · exact .inl rfl

/-- What `ip` held only matters when no address is found. -/
theorem readIPAddr_rsp (raw : Option Line) (rsp : Line) :
    (readIPAddr raw rsp).1 = (readIPAddr raw []).1 ∧ (readIPAddr raw rsp).2.1 = (readIPAddr raw []).2.1 := by
  unfold readIPAddr
  cases raw with
  | none => exact ⟨rfl, rfl⟩
  | some raw =>
    simp only
    split
    · exact ⟨rfl, rfl⟩
    · split
      · split
        · exact ⟨rfl, rfl⟩
        · exact ⟨rfl, rfl⟩
      · exact ⟨rfl, rfl⟩

theorem addrs_address (k : Contrdp) (input : Option Line) :
    (k.addrs input).local_addr_subnet_mask = addressOf k.local_addr_subnet_mask input ∧
      (k.addrs input).ip_type_num = k.ip_type_num := by
  unfold Contrdp.addrs addressOf
  split
  · dsimp only
    split
    · split
      · split
        · exact ⟨rfl, rfl⟩
        · exact ⟨rfl, rfl⟩
      · exact ⟨rfl, rfl⟩
    · exact ⟨rfl, rfl⟩
  · exact ⟨rfl, rfl⟩

theorem storeAddress_unknown (i : Int) (k : Contrdp) (g : Shared) :
    (storeAddress .UNKNOWN i k g).1.ipTypes = g.ipTypes := by
  funext j
  by_cases h : j = i
  · subst h
    simp [storeAddress, Shared.ipTypes, Shared.setInfo]
  · simp [storeAddress, Shared.ipTypes, Shared.setInfo, h]

theorem storeAddress_types {type : IPType} (htype : type = .IPV4 ∨ type = .IPV6) (i : Int) (k : Contrdp) (g : Shared) :
    (storeAddress type i k g).1.ipTypes = Function.update g.ipTypes i type ∧
      (storeAddress type i k g).1.netTypes = Function.update g.netTypes i type := by
  refine ⟨funext fun j => ?_, funext fun j => ?_⟩
  all_goals
    by_cases h : j = i
    · subst h
      rcases htype with rfl | rfl <;>
        simp [storeAddress, storeIPv4, storeIPv6, Shared.ipTypes, Shared.netTypes, Shared.setInfo, Shared.setNet]
    · rcases htype with rfl | rfl <;>
        simp [storeAddress, storeIPv4, storeIPv6, Shared.ipTypes, Shared.netTypes, Shared.setInfo, Shared.setNet, h]

theorem takePdpType_types (i : Int) (g : Shared) :
    (g.takePdpType i).ipTypes = Function.update g.ipTypes i g.s_pdpType ∧
      (g.takePdpType i).netTypes = Function.update g.netTypes i g.s_pdpType := by
  refine ⟨funext fun j => ?_, funext fun j => ?_⟩
  all_goals
    by_cases h : j = i
    · subst h
      simp [Shared.takePdpType, Shared.ipTypes, Shared.netTypes, Shared.setInfo, Shared.setNet]
    · simp [Shared.takePdpType, Shared.ipTypes, Shared.netTypes, Shared.setInfo, Shared.setNet, h]

theorem ipTypes_setInfo (g : Shared) (i : Int) (f : PDP_INFO → PDP_INFO) :
    (g.setInfo i f).ipTypes = Function.update g.ipTypes i (f (g.pdp_info i)).ip_state := by
  funext j
  by_cases h : j = i
  · subst h
    simp [Shared.ipTypes, Shared.setInfo]
  · simp [Shared.ipTypes, Shared.setInfo, h]

/-- A store that does not touch the type. -/
theorem ipTypes_setInfo_same {g : Shared} {i : Int} {f : PDP_INFO → PDP_INFO} (h : ∀ p, (f p).ip_state = p.ip_state) :
    (g.setInfo i f).ipTypes = g.ipTypes := by
  rw [ipTypes_setInfo, h]
  exact Function.update_eq_self i g.ipTypes

theorem storeAddress_sees {type : IPType} (htype : type = .UNKNOWN ∨ type = .IPV4 ∨ type = .IPV6) {cid : Int} {k : Contrdp}
    {g : Shared} {t u : Types} (h : Sees (g, k) t u) :
    Sees (storeAddress type (cid - 1) k g) (t.address (cid, type)) (u.address (cid, type)) := by
  obtain ⟨hip, hnet, hasked, hnum, hnum'⟩ := h
  rcases htype with rfl | htype
  · rw [Types.address, if_pos rfl, Types.address, if_pos rfl]
    exact ⟨(storeAddress_unknown _ _ _).trans hip, hnet, hasked, hnum, hnum'⟩
  · obtain ⟨hip', hnet'⟩ := storeAddress_types htype (cid - 1) k g
    have hknown : type ≠ .UNKNOWN := by rcases htype with rfl | rfl <;> nofun
    rw [Types.address, if_neg hknown, Types.address, if_neg hknown, ← hip, ← hnet, ← hnum, ← hnum']
    rcases htype with rfl | rfl
    · exact ⟨hip', hnet', hasked, rfl, rfl⟩
    · exact ⟨hip', hnet', hasked, rfl, rfl⟩

theorem settle_sees {cid : Int} {s : Shared × Contrdp} {t u : Types} (h : Sees s t u) :
    Sees (if 1 < s.2.ip_type_num then s.1.takePdpType (cid - 1) else s.1, s.2) (t.settle cid) (u.settle cid) := by
  obtain ⟨hip, hnet, ⟨hasked, hasked'⟩, hnum, hnum'⟩ := h
  obtain ⟨hip', hnet'⟩ := takePdpType_types (cid - 1) s.1
  rw [Types.settle, ← hnum, ← hasked, ← hip, Types.settle, ← hnum', ← hasked', ← hnet]
  split
  · exact ⟨hip', hnet', ⟨rfl, rfl⟩, rfl, rfl⟩
  · exact ⟨hip, hnet, ⟨hasked, hasked'⟩, hnum, hnum'⟩

/-- The state of the context ends as ACTIVE, and no other state changes. -/
def SetsActive (cid : Int) (g g' : Shared) : Prop :=
  ∀ i, (g'.pdp_info i).state = if i = cid - 1 then .ACTIVE else (g.pdp_info i).state

theorem setInfo_state (g : Shared) (i j : Int) (f : PDP_INFO → PDP_INFO) :
    ((g.setInfo i f).pdp_info j).state = if j = i then (f (g.pdp_info i)).state else (g.pdp_info j).state := by
  by_cases h : j = i
  · subst h
    simp [Shared.setInfo]
  · simp [Shared.setInfo, h]

theorem storeAddress_state (type : IPType) (i j : Int) (k : Contrdp) (g : Shared) (h : j ≠ i) :
    ((storeAddress type i k g).1.pdp_info j).state = (g.pdp_info j).state := by
  cases type <;> simp [storeAddress, storeIPv4, storeIPv6, Shared.setInfo, Shared.setNet, h]

theorem contrdpStore_state (cid : Int) (k : Contrdp) (g : Shared) : SetsActive cid g (contrdpStore cid k g).1 := by
  intro i
  unfold contrdpStore
  rw [setInfo_state]
  by_cases h : i = cid - 1
  · rw [if_pos h, if_pos h]
  · rw [if_neg h, if_neg h]
    split
    · simp only [Shared.takePdpType, Shared.setNet, Shared.setInfo, Function.update_of_ne h]
      exact storeAddress_state _ _ _ _ _ h
    · exact storeAddress_state _ _ _ _ _ h

/-- What is left of the address for the lines to come. -/
theorem contrdpStore_left (cid : Int) (k : Contrdp) (g : Shared) :
    (contrdpStore cid k g).2.local_addr_subnet_mask = (readIPAddr k.local_addr_subnet_mask []).2.1 := by
  have hstore : ∀ type i k, (storeAddress type i k g).2.local_addr_subnet_mask = k.local_addr_subnet_mask := by
    intro type i k
    cases type <;> rfl
  rw [← (readIPAddr_rsp k.local_addr_subnet_mask k.ip).2]
  exact hstore _ _ _

theorem contrdpStore_sees {cid : Int} {k : Contrdp} {g : Shared} {t u : Types} (h : Sees (g, k) t u) :
    Sees (contrdpStore cid k g) (t.report (cid, (readIPAddr k.local_addr_subnet_mask []).1))
      (u.report (cid, (readIPAddr k.local_addr_subnet_mask []).1)) := by
  let k' : Contrdp := { k with
    local_addr_subnet_mask := (readIPAddr k.local_addr_subnet_mask k.ip).2.1
    ip := (readIPAddr k.local_addr_subnet_mask k.ip).2.2 }
  have hstored : Sees (storeAddress (readIPAddr k.local_addr_subnet_mask k.ip).1 (cid - 1) k' g)
      (t.address (cid, (readIPAddr k.local_addr_subnet_mask []).1))
      (u.address (cid, (readIPAddr k.local_addr_subnet_mask []).1)) := by
    rw [(readIPAddr_rsp k.local_addr_subnet_mask k.ip).1]
    exact storeAddress_sees (readIPAddr_cases _) ⟨h.ip, h.net, h.asked, h.num⟩
  have hsettled := @settle_sees cid _ _ _ hstored
  refine ⟨Eq.trans ?_ hsettled.ip, hsettled.net, hsettled.asked, hsettled.num⟩
  exact @ipTypes_setInfo_same _ (cid - 1) (fun p => { p with state := .ACTIVE }) fun _ => rfl

/-- The loop over the lines, from locals `k`. -/
theorem contrdpLines_sees (lines : List Line) {k : Contrdp} {g : Shared} {t u : Types} (h : Sees (g, k) t u) :
    Sees (lines.foldl contrdpLine (g, k)) ((reports k.local_addr_subnet_mask lines).foldl Types.report t)
      ((reports k.local_addr_subnet_mask lines).foldl Types.report u) := by
  induction lines generalizing k g t u with
  | nil => exact h
  | cons line lines ih =>
    rw [List.foldl_cons, contrdpLine, reports]
    cases hline : contrdpCid line with
    | none => exact ih h
    | some r =>
      obtain ⟨cid, input⟩ := r
      obtain ⟨haddress, hnum⟩ := addrs_address k input
      have hsees : Sees (g, k.addrs input) t u :=
        ⟨h.ip, h.net, h.asked, hnum.trans h.num.1, hnum.trans h.num.2⟩
      dsimp only
      rw [← haddress]
      split
      · rw [← contrdpStore_left cid (k.addrs input) g, List.foldl_cons, List.foldl_cons]
        exact ih (contrdpStore_sees hsees)
      · exact ih hsees

theorem contrdpLines_state (lines : List Line) (k : Contrdp) (g : Shared) (i : Int) :
    ((lines.foldl contrdpLine (g, k)).1.pdp_info i).state =
      bif (reports k.local_addr_subnet_mask lines).any fun r => r.1 = i + 1 then .ACTIVE else (g.pdp_info i).state := by
  induction lines generalizing k g with
  | nil => rfl
  | cons line lines ih =>
    rw [List.foldl_cons, contrdpLine, reports]
    cases hline : contrdpCid line with
    | none => exact ih k g
    | some r =>
      obtain ⟨cid, input⟩ := r
      dsimp only
      rw [← (addrs_address k input).1]
      split
      · rw [← contrdpStore_left cid (k.addrs input) g, ih, contrdpStore_state cid (k.addrs input) g i, List.any_cons]
        by_cases h : i = cid - 1
        · have hcid : cid = i + 1 := by omega
          simp [hcid]
        · have hcid : cid ≠ i + 1 := by omega
          simp [h, hcid]
      · exact ih _ g

/-- **The answer to AT+CGCONTRDP** makes the contexts it names ACTIVE, and it changes the types of the
contexts and of the interfaces as it reports. -/
theorem cgcontrdp_spec (lines : List Line) (g : Shared) :
    (∀ i, ((cgcontrdp_set_cmd_rsp lines g).pdp_info i).state =
      bif named i lines then .ACTIVE else (g.pdp_info i).state) ∧
    (cgcontrdp_set_cmd_rsp lines g).ipTypes = typesAfter g.ipTypes g.s_pdpType lines ∧
    (cgcontrdp_set_cmd_rsp lines g).netTypes = typesAfter g.netTypes g.s_pdpType lines := by
  have hsees := @contrdpLines_sees lines
    { local_addr_subnet_mask := none, ip := [], dns1 := [], dns2 := [], ip_type_num := 0 } g
    { table := g.ipTypes, asked := g.s_pdpType, num := 0 } { table := g.netTypes, asked := g.s_pdpType, num := 0 }
    ⟨rfl, rfl, ⟨rfl, rfl⟩, rfl, rfl⟩
  exact ⟨contrdpLines_state lines _ g, hsees.ip, hsees.net⟩

end UniRil.Data
