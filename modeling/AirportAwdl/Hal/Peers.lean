import AirportAwdl.Hal.Radio
import AirportAwdl.Native.Peers

/-!
# The pool of AWDL stations

`rtw89LinuxAwdlSetPeer` takes a new station up the driver's states one by one and
`releaseAwdlPeer` takes it down again. Every step can fail. A station that cannot be taken down
stays in the pool, and the context asks for recovery until `rtw89LinuxAwdlQuiesce` succeeds.
-/

namespace AirportAwdl.Hal

open StateProgram Scheduler
open Native (PeerResult)

section
variable {D : Type} (driver : Driver D)

/-- `rtw89_macos_awdl_peer_capacity` -/
def ChipInfo.awdlPeerCapacity (chip : ChipInfo) : ℕ :=
  if chip.supportMlo ∧ chip.supportLinkNum = 0 then 0
  else
    let ids := if chip.supportMlo then chip.supportMacidNum / chip.supportLinkNum
      else chip.supportMacidNum
    if ids ≤ 2 then 0 else min (ids - 2) 16

/-- The loop of `releaseAwdlPeer`, from a state down to `NOTEXIST`. -/
def lowerPeer (i : Fin 16) (sta : Station) : StaState → StateM (Context D) Bool
  | 0 => return true
  | next + 1 => do
    if (← ask driver (.staState sta (next + 1) next)) ≠ 0 then return false
    assignEntry i fun e => { e with state := next }
    lowerPeer i sta next

/-- Transmissions to a station end with the visit. During a visit they have to be drained. -/
def drainForRelease : StateM (Context D) Bool := do
  if (← get).paused then return (← rtw89MacosAwdlTxDrain driver) = 0
  else return true

/-- `rtw88_remove_sta`, for a station that is registered. -/
def unregisterPeer (i : Fin 16) (sta : Station) : StateM (Context D) Unit := do
  if ((← get).entries i).registered then
    modify fun c => { c with
      registry := c.registry.removeSta sta
      log := c.log ++ [.unregister sta] }
    assignEntry i fun e => { e with registered := false }

def releaseAwdlPeer (i : Fin 16) : StateM (Context D) Bool := do
  match ((← get).entries i).station with
  | none => return true
  | some sta =>
    assignEntry i fun e => { e with retiring := true }
    if !(← drainForRelease driver) then return false
    unregisterPeer i sta
    if !(← lowerPeer driver i sta ((← get).entries i).state) then return false
    note (.free sta)
    assignEntry i fun _ => {}
    return true

/-- `rtw88_add_sta` for an entry of the pool. -/
def registerPeer (i : Fin 16) (sta : Station) : StateM (Context D) Bool := do
  let c ← get
  let out := c.registry.addSta sta (c.entries i).address
  if out.1 then
    modify fun c => { c with registry := out.2, log := c.log ++ [.register sta] }
  assignEntry i fun e => { e with registered := out.1 }
  return out.1

/-- The last loop of `rtw89LinuxAwdlSetPeer`, with the number of steps that are left. -/
def raisePeer (i : Fin 16) (sta : Station) : ℕ → StateM (Context D) Errno
  | 0 => return 0
  | left + 1 => do
    let state := ((← get).entries i).state
    let result ← ask driver (.staState sta state (state + 1))
    if result ≠ 0 then return result
    assignEntry i fun e => { e with state := state + 1 }
    raisePeer i sta left

def rtw89MacosAwdlPeerRetained (vif : AwdlVif) (sta : Station) : StateM (Context D) Bool := do
  if !vif.adhoc ∨ !vif.noBeacon then return false
  ask driver (.staLinks sta)

/-- The first step, which may fail and still leave the station with the driver. -/
def attachPeer (vif : AwdlVif) (i : Fin 16) (sta : Station) : StateM (Context D) Errno := do
  let result ← ask driver (.staState sta staNotexist staNone)
  if result = 0 then
    assignEntry i fun e => { e with state := staNone }
  else if ← rtw89MacosAwdlPeerRetained driver vif sta then
    assignEntry i fun e => { e with state := staNone }
  return result

/-- The part of `rtw89LinuxAwdlSetPeer` that takes a new station up. -/
def admitPeer (vif : AwdlVif) (i : Fin 16) (sta : Station) : StateM (Context D) Errno := do
  let result ← attachPeer driver vif i sta
  if result ≠ 0 then return result
  if !(← registerPeer i sta) then return -enospc
  raisePeer driver i sta (staAuthorized - ((← get).entries i).state)

/-- The address is of a station: not a group and not zero. -/
def stationAddress (address : Mac) : Bool := address.octet 0 &&& 1 == 0 && address != zeroMac

/-- The pool's entry for an address. -/
def foundEntry (c : Context D) (address : Mac) : Option (Fin 16) :=
  (List.finRange 16).reverse.find? fun i =>
    (c.entries i).station.isSome && (c.entries i).address == address

def emptyEntry (c : Context D) : Option (Fin 16) :=
  (List.finRange 16).find? fun i => (c.entries i).station.isNone

def occupied (c : Context D) : ℕ :=
  (List.finRange 16).countP fun i => (c.entries i).station.isSome

/-- A station is released and the answer is `result`, or recovery is asked for. -/
def releaseOrRecover (i : Fin 16) (result : PeerResult) : StateM (Context D) PeerResult := do
  if ← releaseAwdlPeer driver i then return result
  modify fun c => { c with awdlRecovery := true }
  return .recoveryRequired

/-- The answer to a failed admission. -/
def admissionError (result : Errno) : PeerResult :=
  if result = -enospc then .noResources else if result = -enomem then .noMemory else .hardwareError

/-- `rtw89LinuxAwdlSetPeer`, from the allocation on. -/
def addPeer (vif : AwdlVif) (i : Fin 16) (address : Mac) : StateM (Context D) PeerResult := do
  if !(← ask driver .allocate) then return .noMemory
  let sta := (← get).stations
  modify fun c => { c with stations := sta + 1 }
  assignEntry i fun e => { e with station := some sta, address }
  let result ← admitPeer driver vif i sta
  if result = 0 then return .success
  releaseOrRecover driver i (admissionError result)

/-- `rtw89LinuxAwdlSetPeer` with `add` unset, past the checks. -/
def removePeer (address : Mac) : StateM (Context D) PeerResult := do
  match foundEntry (← get) address with
  | none => return .success
  | some i => releaseOrRecover driver i .success

def rtw89LinuxAwdlSetPeer (address : Mac) (add : Bool) : StateM (Context D) PeerResult := do
  if !stationAddress address then return .invalid
  let c ← get
  match c.awdlInterface.vif with
  | none => return .notReady
  | some vif =>
    if !c.started ∨ !c.awdlInterface.hardwareAdded ∨ !c.awdlInterface.registered ∨ !c.awdlPeers then
      return .notReady
    if address = vif.addr ∨ c.vif = some address then return .invalid
    if !add then return ← removePeer driver address
    if c.awdlRecovery then return .recoveryRequired
    match foundEntry c address with
    | some i =>
      let entry := c.entries i
      return if !entry.retiring && entry.registered && entry.state == staAuthorized then .success
        else .recoveryRequired
    | none =>
      if c.scanning then return .notReady
      let capacity := (← ask driver .chip).awdlPeerCapacity
      match emptyEntry c with
      | none => return .noResources
      | some i =>
        if capacity ≤ occupied c then return .noResources
        addPeer driver vif i address

/-- `awdlPeers` is allocated with the first interface. -/
def allocatePool : StateM (Context D) Bool := do
  if (← get).awdlPeers then return true
  if !(← ask driver .allocate) then return false
  modify fun c => { c with awdlPeers := true, entries := fun _ => {} }
  return true

def rtw89LinuxAwdlAddInterface (mac : Mac) : StateM (Context D) Bool := do
  let c ← get
  if !c.started ∨ !c.interfaceAdded ∨ c.scanning ∨ c.awdlRecovery then return false
  if !(← allocatePool driver) then return false
  if c.vif = none ∨ c.awdlInterface.vif.isSome ∨ !stationAddress mac ∨ c.vif = some mac then
    return false
  if !(← ask driver (.addInterface mac)) then return false
  modify fun c => { c with
    awdlInterface := { vif := some { addr := mac }, hardwareAdded := true, registered := true }
    registry := { c.registry with awdlVif := true } }
  return true

/-- `okay=releaseAwdlPeer(context,entry) && okay`, over all entries. -/
def releaseAll : StateM (Context D) Bool :=
  (List.finRange 16).foldlM (fun okay i => do return (← releaseAwdlPeer driver i) && okay) true

def demandRecovery : StateM (Context D) Bool := do
  modify fun c => { c with awdlRecovery := true }
  return false

/-- `rtw89LinuxAwdlQuiesce`, from the release of the stations on. -/
def removeInterface : StateM (Context D) Bool := do
  if !(← releaseAll driver) then demandRecovery
  else
    modify fun c => { c with
      awdlInterface := {}
      registry := c.registry.removeVif
      awdlRecovery := false }
    return true

def rtw89LinuxAwdlQuiesce : StateM (Context D) Bool := do
  let c ← get
  if c.awdlInterface.vif.isNone then
    if 0 < occupied c then demandRecovery
    else
      modify fun c => { c with awdlRecovery := false }
      return true
  else if !c.started then demandRecovery
  else if c.paused then
    if (← rtw89LinuxAwdlRestore driver) ≠ 0 then demandRecovery
    else removeInterface driver
  else removeInterface driver

/-- What other code does to the context between the calls. -/
structure Surroundings where
  started : Bool
  interfaceAdded : Bool
  scanning : Bool
  station : Option StaState
  vif : Option Mac
  /-- Another call failed and asks for recovery. -/
  recovery : Bool
deriving DecidableEq, Repr

inductive HalCall where
  | reserveRadio (frequency durationMs : ℕ)
  | restore
  | setPeer (address : Mac) (add : Bool)
  | addInterface (mac : Mac)
  | quiesce
  | surroundings (x : Surroundings)
  /-- A registry entry of another interface comes or goes. -/
  | otherPeer (slot : Fin 32) (peer : Option (ℕ × Mac))
deriving DecidableEq, Repr

def HalCall.exec : HalCall → StateM (Context D) Unit
  | .reserveRadio frequency durationMs =>
    discard (rtw89LinuxAwdlReserveRadio driver frequency durationMs)
  | .restore => discard (rtw89LinuxAwdlRestore driver)
  | .setPeer address add => discard (rtw89LinuxAwdlSetPeer driver address add)
  | .addInterface mac => discard (rtw89LinuxAwdlAddInterface driver mac)
  | .quiesce => discard (rtw89LinuxAwdlQuiesce driver)
  | .surroundings x => modify fun c => { c with
      started := x.started
      interfaceAdded := x.interfaceAdded
      scanning := x.scanning
      station := x.station
      vif := x.vif
      awdlRecovery := c.awdlRecovery || x.recovery }
  | .otherPeer slot peer => modify fun c =>
    if ((c.registry.peers slot).elim false fun p => p.holder.isAwdl) then c
    else { c with registry := { c.registry with
      peers := Function.update c.registry.peers slot
        (peer.map fun p => ⟨.other p.1, p.2⟩) } }

def runCalls (calls : List HalCall) (c : Context D) : Context D :=
  calls.foldl (fun c call => ((call.exec driver).run c).2) c

end

end AirportAwdl.Hal
