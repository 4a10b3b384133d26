import UniRil.Data.State

/-!
# The PDP contexts (`pdp_info`) and the answers that change them

The mutex of the packet service is held in each function. The interface calls that change nothing
the RIL reads back are left out.
-/

namespace UniRil.Data

open StateRules AtTok

def AT_RESULT_OK : Int := 0
def AT_RESULT_NG : Int := -1

inductive ATResponseType
  | OK
  | MID
  | ERROR
  | CONNECT

def getATResponseType (str : Line) : ATResponseType :=
  if strStartsWith str (ascii "CONNECT") then .CONNECT
  else if Command.isFinalResponseError str then .ERROR
  else if Command.isFinalResponseSuccess str then .OK
  else .MID

def findInBuf (buf needle : Line) : Bool :=
  needle.isEmpty || go needle buf
where
  /-- What of `needle` is left to match. -/
  go : Line → Line → Bool
    | _, [] => false
    | [], _ => true
    | n :: left, c :: buf => if n = c then left.isEmpty || go left buf else go needle buf

/-! ## Activation and deactivation of a context -/

/-- The command carries `"<L2P>",<cid>`. -/
def cgdata_set_cmd_req (cid : Int) : M Unit :=
  modifyShared (·.setInfo (cid - 1) fun p => { p with state := .ACTING, cid := cid })

/-- The stores of `cgact_deact_cmd_rsp`. -/
def Shared.deactivate (g : Shared) (cid : Int) : Shared :=
  (g.setInfo (cid - 1) fun p => { p with state := .IDLE }).setNet (cid - 1) fun n => { n with ip_type := .UNKNOWN }

def cgact_deact_cmd_rsp (cid : Int) : M Unit := do
  note (.cgact_deact_cmd_rsp cid)
  modifyShared (·.deactivate cid)

/-! ## The addresses of a context -/

structure AddrScan where
  comma_count : Nat
  comma4_num : Nat
  comma16_num : Nat
  space_num : Nat

/-- The loop of `readIPAddr`. -/
def scanIPAddr : Nat → AddrScan → Line → AddrScan
  | _, k, [] => k
  | num, k, c :: raw =>
    let k := if c = 46 then { k with comma_count := k.comma_count + 1 } else k
    if c = 32 then { k with space_num := num }
    else
      let k := if k.comma_count = 4 ∧ k.comma4_num = 0 then { k with comma4_num := num } else k
      if k.comma_count = 16 then { k with comma16_num := num } else scanIPAddr (num + 1) k raw

/-- The type, the text at `raw` after it was cut, and `rsp`. -/
def readIPAddr (raw : Option Line) (rsp : Line) : IPType × Option Line × Line :=
  match raw with
  | none => (.UNKNOWN, none, rsp)
  | some raw =>
    let k := scanIPAddr 0 { comma_count := 0, comma4_num := 0, comma16_num := 0, space_num := 0 } raw
    let cut (type : IPType) (num : Nat) := (type, some (raw.take num), raw.take num)
    if 0 < k.space_num then cut .IPV6 k.space_num
    else if 7 ≤ k.comma_count then
      if k.comma_count = 7 then cut .IPV4 k.comma4_num else cut .IPV6 k.comma16_num
    else (.UNKNOWN, some raw, rsp)

/-- The locals of `cgcontrdp_set_cmd_rsp` that outlive a line. -/
structure Contrdp where
  local_addr_subnet_mask : Option Line
  ip : Line
  dns1 : Line
  dns2 : Line
  ip_type_num : Nat

/-- The fields after the APN. Behind `at_tok_hasmore` a string can always be read. -/
def Contrdp.addrs (k : Contrdp) (input : Option Line) : Contrdp :=
  if at_tok_hasmore input then
    let addr := at_tok_nextstr input
    let k := { k with local_addr_subnet_mask := addr.p_out }
    if at_tok_hasmore addr.p_cur then
      let gw_addr := at_tok_nextstr addr.p_cur
      if at_tok_hasmore gw_addr.p_cur then
        let dns_prim_addr := at_tok_nextstr gw_addr.p_cur
        let k := { k with dns1 := (dns_prim_addr.p_out.getD []).take 63 }
        if at_tok_hasmore dns_prim_addr.p_cur then
          { k with dns2 := ((at_tok_nextstr dns_prim_addr.p_cur).p_out.getD []).take 63 }
        else k
      else k
    else k
  else k

/-- The cid of a line and the input after its APN, if the line has these fields. -/
def contrdpCid (line : Line) : Option (Int × Option Line) :=
  if findInBuf line (ascii "+CGCONTRDP") || findInBuf line (ascii "+SIPCONFIG") then
    let cid := at_tok_nextint (at_tok_flag_start (some line) 58)
    let bearer_id := at_tok_nextint cid.p_cur
    let apn := at_tok_nextstr bearer_id.p_cur
    match cid.value, bearer_id.value, apn.value with
    | some cid, some _, some _ => some (cid, apn.p_cur)
    | _, _, _ => none
  else none

def DEFAULT_PUBLIC_DNS2 : Line := ascii "204.117.214.10"
def DEFAULT_PUBLIC_DNS2_IPV6 : Line := ascii "2409:8084:8000:0010:2002:4860:4860:8888"

/-- The second DNS server to use, and the one to save. -/
def secondDNS (saved fallback dns1 dns2 : Line) : Line × Line :=
  if dns2.isEmpty then (fallback, saved)
  else if dns1 = dns2 then (if saved.isEmpty then fallback else saved, saved)
  else (dns2, dns2)

def resetDNS2 (saved : Line) : Line := if saved.isEmpty then DEFAULT_PUBLIC_DNS2 else saved

/-- As `secondDNS`, but an empty DNS2 is also replaced by the saved one. -/
def secondDNSv4 (saved dns1 dns2 : Line) : Line × Line :=
  if dns2.isEmpty ∨ dns1 = dns2 then (resetDNS2 saved, saved) else (dns2, dns2.take 16)

/-- An address without its network part gets the link-local prefix. -/
def completeIPv6 (ip : Line) : Line :=
  if strStartsWith ip (ascii "0000:0000:0000:0000") then
    (ascii "FE80" ++ ip.dropWhile (· != 58)).take 63
  else ip

def storeIPv6 (index : Int) (k : Contrdp) (g : Shared) : Shared × Contrdp :=
  let ip := completeIPv6 k.ip
  let dns2 := secondDNS g.s_SavedDns_IPV6 DEFAULT_PUBLIC_DNS2_IPV6 k.dns1 k.dns2
  let g := g.setInfo index fun p =>
    { p with ipv6laddr := ip, ipv6dns1addr := k.dns1, ipv6dns2addr := dns2.1, ip_state := .IPV6 }
  let g := g.setNet index fun n => { n with ip_type := .IPV6, ipv6_ip := ip, ipv6_dns1 := k.dns1, ipv6_dns2 := dns2.1 }
  ({ g with s_SavedDns_IPV6 := dns2.2 }, { k with ip := ip, dns2 := dns2.1, ip_type_num := k.ip_type_num + 1 })

def storeIPv4 (index : Int) (k : Contrdp) (g : Shared) : Shared × Contrdp :=
  let dns2 := secondDNSv4 g.s_SavedDns k.dns1 k.dns2
  let g := g.setInfo index fun p =>
    { p with ipladdr := k.ip.take 16, dns1addr := k.dns1.take 16, dns2addr := dns2.1.take 16, ip_state := .IPV4 }
  let g := g.setNet index fun n => { n with ip_type := .IPV4, ip := k.ip, dns1 := k.dns1, dns2 := dns2.1 }
  ({ g with s_SavedDns := dns2.2 }, { k with dns2 := dns2.1, ip_type_num := k.ip_type_num + 1 })

def storeAddress (ip_type : IPType) (index : Int) (k : Contrdp) (g : Shared) : Shared × Contrdp :=
  match ip_type with
  | .IPV6 => storeIPv6 index k g
  | .IPV4 => storeIPv4 index k g
  | _ => (g.setInfo index fun p => { p with state := .EST_UP_ERROR }, k)

/-- Two addresses have come: the type is the one that was asked for. -/
def Shared.takePdpType (g : Shared) (index : Int) : Shared :=
  { (g.setInfo index fun p => { p with ip_state := g.s_pdpType }).setNet index
      fun n => { n with ip_type := g.s_pdpType } with s_pdpType := .IPV4V6 }

/-- One line of the answer that names a cid. Whatever the type, the state ends as ACTIVE. -/
def contrdpStore (cid : Int) (k : Contrdp) (g : Shared) : Shared × Contrdp :=
  let r := readIPAddr k.local_addr_subnet_mask k.ip
  let s := storeAddress r.1 (cid - 1) { k with local_addr_subnet_mask := r.2.1, ip := r.2.2 } g
  let g := if 1 < s.2.ip_type_num then s.1.takePdpType (cid - 1) else s.1
  (g.setInfo (cid - 1) fun p => { p with state := .ACTIVE }, s.2)

def contrdpLine (s : Shared × Contrdp) (line : Line) : Shared × Contrdp :=
  match contrdpCid line with
  | none => s
  | some (cid, input) =>
    let k := s.2.addrs input
    if cid < MAX_PDP_NUM ∧ 1 ≤ cid then contrdpStore cid k s.1 else (s.1, k)

def cgcontrdp_set_cmd_rsp (lines : List Line) (g : Shared) : Shared :=
  (lines.foldl contrdpLine
    (g, { local_addr_subnet_mask := none, ip := [], dns1 := [], dns2 := [], ip_type_num := 0 })).1

/-! ## The answer to AT+CGDATA -/

/-- The stores of `dispose_data_fallback`, when the contexts have different types. -/
def Shared.mergeFallback (g : Shared) (master_index secondary_index : Int) : Shared :=
  let q := g.pdp_info secondary_index
  let g := match (g.pdp_info master_index).ip_state with
    | .IPV4 =>
      (g.setInfo master_index fun p =>
          { p with ipv6laddr := q.ipv6laddr, ipv6dns1addr := q.ipv6dns1addr, ipv6dns2addr := q.ipv6dns2addr }).setNet
        master_index fun n => { n with ipv6_ip := q.ipv6laddr, ipv6_dns1 := q.ipv6dns1addr, ipv6_dns2 := q.ipv6dns2addr }
    | .IPV6 =>
      (g.setInfo master_index fun p =>
          { p with ipladdr := q.ipladdr, dns1addr := q.dns1addr, dns2addr := q.dns2addr }).setNet
        master_index fun n => { n with ip := q.ipladdr, dns1 := q.dns1addr, dns2 := q.dns2addr }
    | _ => g
  (g.setNet master_index fun n => { n with ip_type := .IPV4V6 }).setInfo master_index fun p => { p with ip_state := .IPV4V6 }

def dispose_data_fallback (masterCid secondaryCid : Int) : M Bool := do
  if masterCid < 1 ∨ MAX_PDP_NUM ≤ masterCid ∨ secondaryCid < 1 ∨ MAX_PDP_NUM ≤ secondaryCid then
    pure false
  else
    let same ← readShared fun g =>
      decide ((g.pdp_info (masterCid - 1)).ip_state = (g.pdp_info (secondaryCid - 1)).ip_state)
    if same then pure false
    else do
      modifyShared (·.mergeFallback (masterCid - 1) (secondaryCid - 1))
      pure true

/-- Whether the kernel got an address in time; it goes to the properties. -/
def getIPV6Addr (cidIndex : Int) : M Bool := fun w =>
  match w.env.ipv6Addrs with
  | [] => (false, w)
  | none :: addrs => (false, { w with env := { w.env with ipv6Addrs := addrs } })
  | some addr :: addrs =>
    (true, { w with
      env := { w.env with ipv6Addrs := addrs }
      shared := w.shared.setNet cidIndex fun n => { n with ipv6_ip := addr } })

/-- A type other than IPV4 is brought up as IPV6 first; the second pass for IPV4V6 waits for nothing. -/
def upNetInterface (cidIndex : Int) (ipType : IPType) : M Bool :=
  if ipType = .IPV4 then pure true
  else do
    if ← getIPV6Addr cidIndex then pure true
    else if ipType = .IPV4V6 then do
      modifyShared (·.setInfo cidIndex fun p => { p with ip_state := .IPV4 })
      pure true
    else pure false

/-- The label `error` of `cgdata_set_cmd_rsp`: only the text of the final response changes. -/
def cgdataError (p_response : Command.ATResponse) : Int × Reply :=
  (AT_RESULT_NG, .ok { p_response with finalResponse := some (ascii "ERROR") })

def bringUp (p_response : Command.ATResponse) (pdpIndex : Int) : M (Int × Reply) := do
  let ip_state ← readShared fun g => (g.pdp_info pdpIndex).ip_state
  if ← upNetInterface pdpIndex ip_state then pure (AT_RESULT_OK, .ok p_response)
  else pure (cgdataError p_response)

/-- From the test of `PDP_STATE_ACTIVE` on. -/
def establish (p_response : Command.ATResponse) (pdpIndex cid primaryCid : Int) : M (Int × Reply) := do
  let state ← readShared fun g => (g.pdp_info pdpIndex).state
  if state = .ACTIVE then
    let merged ← dispose_data_fallback primaryCid cid
    bringUp p_response (if merged then primaryCid - 1 else pdpIndex)
  else pure (AT_RESULT_OK, .ok p_response)

/-- The modem has connected: the addresses are asked for. -/
def connected (cfg : Config) (p_response : Command.ATResponse) (pdpIndex cid primaryCid : Int) :
    M (Int × Reply) := do
  modifyShared (·.setInfo pdpIndex fun p => { p with state := .ESTING })
  let rdp ← at_send_command (if cfg.s_isLTE then .CGCONTRDP cid else .SIPCONFIG cid)
  if rdp.isTimeout then
    modifyShared (·.setInfo pdpIndex fun p => { p with state := .DEACTING })
    let cgact ← at_send_command (.CGACT_0 cid)
    if cgact.isTimeout then pure (cgdataError p_response)
    else establish p_response pdpIndex cid primaryCid
  else
    modifyShared (cgcontrdp_set_cmd_rsp rdp.p_intermediates)
    establish p_response pdpIndex cid primaryCid

/-- The result and the response as the caller finds it afterwards. -/
def cgdata_set_cmd_rsp (cfg : Config) (reply : Reply) (pdpIndex primaryCid : Int) : M (Int × Reply) :=
  match reply with
  | .error _ => pure (AT_RESULT_NG, reply)
  | .ok p_response =>
    if pdpIndex < 0 ∨ MAX_PDP_NUM ≤ pdpIndex then pure (AT_RESULT_NG, reply)
    else do
      let cid ← readShared fun g => (g.pdp_info pdpIndex).cid
      match getATResponseType (p_response.finalResponse.getD []) with
      | .CONNECT => connected cfg p_response pdpIndex cid primaryCid
      | .ERROR =>
        -- by way of PDP_STATE_ACT_ERROR
        modifyShared (·.setInfo pdpIndex fun p => { p with state := .IDLE })
        pure (AT_RESULT_OK, reply)
      | _ => pure (cgdataError p_response)

end UniRil.Data
