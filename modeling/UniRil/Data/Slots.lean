import UniRil.Data.State

/-!
# The slots of a SIM (`s_PDP`)

Each function runs with the mutex of the slot held, so that it is one step of its caller.
-/

namespace UniRil.Data

open StateRules

variable (cfg : Config) (socket_id : RIL_SOCKET_ID)

def getMaxPDPNum : Int := if cfg.s_isLTE then MAX_PDP else MAX_PDP / 2

/-- The cids of the PDNs that the modem has set up itself are left alone. -/
def isPDNCid (g : Shared) (i : Int) : Bool :=
  (cfg.isLWG_LWG || socket_id = cfg.s_multiModeSim) && (0 < g.s_activePDN && (g.s_PDN i).nCid = i + 1)

/-- `getPDP` takes the slot. -/
def isFree (w : World) (i : Int) : Bool :=
  !isPDNCid cfg socket_id w.shared i &&
    (((w.sim socket_id).s_PDP i).state = .PDP_IDLE && ((w.sim socket_id).s_PDP i).cid = -1)

/-- The indexes the loop of `getPDP` visits. -/
def slotIndexes : List Int := [0, 1, 2, 3, 4, 5].filter (· < getMaxPDPNum cfg)

def getPDP : M Int := fun w =>
  match (slotIndexes cfg).find? (isFree cfg socket_id w) with
  | none => (-1, w)
  | some i =>
    (i, { w.setSim socket_id (·.setPDP i fun p => { p with state := .PDP_BUSY }) with log := w.log ++ [.getPDP i] })

/-- The stores of `putPDP` to the table. The release of the partner comes before the loss of its
number. -/
def Sim.putPDP (m : Sim) (cid : Int) : Sim :=
  let p := m.s_PDP cid
  let m := if 0 < p.secondary_cid ∧ p.secondary_cid ≤ MAX_PDP then
      m.setPDP (p.secondary_cid - 1) fun q => { q with secondary_cid := -1 }
    else m
  m.setPDP cid fun _ => { cid := -1, secondary_cid := -1, isPrimary := false, state := .PDP_IDLE }

/-- The parameter is an index; the source calls it `cid`. -/
def putPDP (cid : Int) : M Unit :=
  if cid < 0 ∨ MAX_PDP ≤ cid then pure ()
  else do
    modifySim socket_id (·.putPDP cid)
    modifyShared (·.setChannel cid fun c => { c with count := 0, pdpState := false })

def getPDPByIndex (index : Int) : M Int := fun w =>
  if 0 ≤ index ∧ index < MAX_PDP ∧ ((w.sim socket_id).s_PDP index).state = .PDP_IDLE then
    (index, { w.setSim socket_id (·.setPDP index fun p => { p with state := .PDP_BUSY }) with
      log := w.log ++ [.getPDP index] })
  else (-1, w)

def putPDPByIndex (index : Int) : M Unit :=
  if index < 0 ∨ MAX_PDP ≤ index then pure ()
  else modifySim socket_id (·.setPDP index fun p => { p with state := .PDP_IDLE })

def putUnusablePDPCid : M Unit :=
  modifySim socket_id fun m =>
    { m with s_PDP := fun i =>
        if 0 ≤ i ∧ i < MAX_PDP ∧ (m.s_PDP i).cid = UNUSABLE_CID then { m.s_PDP i with cid := -1 } else m.s_PDP i }

def PDPInfo.update (p : PDPInfo) (cid state : Int) : PDPInfo :=
  if state = 1 then { p with cid := cid }
  else if state = 0 then { p with cid := -1 }
  else if state = -1 ∧ p.cid = -1 then { p with cid := UNUSABLE_CID }
  else p

def updatePDPCid (cid state : Int) : M Unit :=
  if cid ≤ 0 ∨ MAX_PDP < cid then pure ()
  else modifySim socket_id (·.setPDP (cid - 1) (·.update cid state))

def getPDPCid (index : Int) : M Int :=
  if MAX_PDP ≤ index ∨ index < 0 then pure (-1)
  else readSim socket_id fun m => (m.s_PDP index).cid

def getPDPState (index : Int) : M PDPState :=
  if MAX_PDP ≤ index ∨ index < 0 then pure .PDP_IDLE
  else readSim socket_id fun m => (m.s_PDP index).state

def getFallbackCid (index : Int) : M Int :=
  if MAX_PDP ≤ index ∨ index < 0 then pure (-1)
  else readSim socket_id fun m => (m.s_PDP index).secondary_cid

def Sim.setPDPMapping (m : Sim) (primary secondary : Int) : Sim :=
  (m.setPDP primary fun p => { p with cid := primary + 1, secondary_cid := secondary + 1, isPrimary := true }).setPDP
    secondary fun p => { p with cid := secondary + 1, secondary_cid := primary + 1, isPrimary := false }

def setPDPMapping (primary secondary : Int) : M Unit :=
  if primary < 0 ∨ MAX_PDP ≤ primary ∨ secondary < 0 ∨ MAX_PDP ≤ secondary then pure ()
  else modifySim socket_id (·.setPDPMapping primary secondary)

def isExistActivePdp : M Bool :=
  readSim socket_id fun m => [0, 1, 2, 3, 4, 5].any fun i => (m.s_PDP i).state = .PDP_BUSY

end UniRil.Data
