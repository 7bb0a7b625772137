import AirportAwdl.Lib.Program
import AirportAwdl.Sync

/-!
# The native peer owner

`NativePeers` owns the AWDL stations of the hardware. A peer is kept by two independent
references, the native peer cache and the traffic registration; disable, shutdown and abandon
requests that arrive while a transaction runs are deferred to its end.

The functions are written over any state `σ` that holds a `NativePeers` next to the hardware
and the native interface (`PeerHost`), so that the backend and the ledger below use the same
definitions.
-/

namespace AirportAwdl.Native

/-- `IOReturn` codes of the native control path and of the station interface. -/
inductive IOReturn where
  | success | error | noMemory | noResources | notReady | busy | badArgument | unsupported
  | notFound | timeout | offline | aborted
deriving DecidableEq, Repr

/-- `RTWAwdl::PeerResult` -/
inductive PeerResult where
  | success | unsupported | invalid | notReady | noMemory | noResources | hardwareError
  | recoveryRequired
deriving DecidableEq, Repr

def PeerResult.status : PeerResult → IOReturn
  | .success => .success
  | .unsupported => .unsupported
  | .invalid => .badArgument
  | .notReady => .notReady
  | .noMemory => .noMemory
  | .noResources => .noResources
  | .hardwareError | .recoveryRequired => .error

structure DataReplayWindow where
  bitmap : UInt64 := 0
  lastRx : ℕ := 0
  sequence : UInt16 := 0
  active : Bool := false
  sequenceBits : UInt8 := 0
deriving DecidableEq, Repr

/-- `DataReplayWindow::accept`, the part after the idle restart. -/
def DataReplayWindow.advance (w : DataReplayWindow) (seq : UInt16) : Bool × DataReplayWindow :=
  let mask : UInt32 := if w.sequenceBits = 12 then 0xfff else 0xffff
  let forward := (seq.toUInt32 - w.sequence.toUInt32) &&& mask
  if forward ≤ mask / 2 ∧ forward ≠ 0 then
    (true, { w with
      bitmap := if forward ≥ 64 then 1 else (w.bitmap <<< forward.toUInt64) ||| 1
      sequence := seq })
  else
    let back := (w.sequence.toUInt32 - seq.toUInt32) &&& mask
    if back ≥ 64 ∨ w.bitmap &&& (1 <<< back.toUInt64) ≠ 0 then (false, w)
    else (true, { w with bitmap := w.bitmap ||| (1 <<< back.toUInt64) })

/-- `DataReplayWindow::accept` -/
def DataReplayWindow.accept (w : DataReplayWindow) (seq : UInt16) (now : ℕ) :
    Bool × DataReplayWindow :=
  if !w.active ∨ now < w.lastRx ∨ now - w.lastRx > 3000000 then
    (true, {
      active := true
      sequence := seq
      bitmap := 1
      lastRx := now
      sequenceBits := if seq > 0xfff then 16 else 0 })
  else
    { w with
      lastRx := now
      sequenceBits :=
        if seq > 0xfff then 16
        else if w.sequenceBits = 0 ∧ w.sequence ≥ 0xfc0 ∧ seq < 0x800 then 12
        else w.sequenceBits }.advance seq

/-- `NativePeers::Entry` -/
structure PeerEntry where
  address : Mac := zeroMac
  used : Bool := false
  cached : Bool := false
  traffic : Bool := false
  installed : Bool := false
  retiring : Bool := false
  windows : Vector DataReplayWindow 17 := Vector.replicate 17 {}
deriving DecidableEq, Repr

structure NativePeers where
  /-- `interface_` is set. -/
  interface : Bool := false
  entries : Vector PeerEntry 16 := Vector.replicate 16 {}
  trafficPeer : Mac := zeroMac
  lastError : IOReturn := .success
  bound : Bool := false
  active : Bool := false
  fault : Bool := false
  busy : Bool := false
  closing : Bool := false
  shutdownPending : Bool := false
  disablePending : Bool := false
  abandonPending : Bool := false
deriving DecidableEq, Repr

def maximumPeers : ℕ := 16

/-- The part of `apple80211_awdl_peer_traffic_registration` that is read. -/
structure TrafficRegistration where
  version : UInt32
  addr : Mac
  nameLen : UInt32
  active : UInt32
deriving DecidableEq, Repr

/-- What the owner is embedded in: its fields inside a larger state, the hardware and the
native interface. -/
structure PeerHost (σ : Type) where
  peers : σ → NativePeers
  setPeers : NativePeers → σ → σ
  awdlPeerCapacity : StateM σ UInt32
  setAwdlPeer : Mac → Bool → StateM σ PeerResult
  canPostPeerCacheCompletion : StateM σ Bool
  postPeerCacheCompletion : Mac → Bool → StateM σ Bool
  /-- `getHardwareAddress`; `none` when it fails. -/
  getHardwareAddress : StateM σ (Option Mac)

namespace PeerHost

variable {σ : Type} (host : PeerHost σ)

def read : StateM σ NativePeers := fun s => (host.peers s, s)

def update (f : NativePeers → NativePeers) : StateM σ Unit :=
  modify fun s => host.setPeers (f (host.peers s)) s

end PeerHost

namespace NativePeers

def valid (address : Mac) : Bool := unicast address

def find (p : NativePeers) (address : Mac) : Option (Fin 16) :=
  (List.finRange 16).find? fun i => p.entries[i].used && p.entries[i].address == address

/-- Number of used entries. -/
def usedCount (p : NativePeers) : ℕ := (List.finRange 16).countP fun i => p.entries[i].used

/-- First unused entry. -/
def empty (p : NativePeers) : Option (Fin 16) :=
  (List.finRange 16).find? fun i => !p.entries[i].used

def setEntry (p : NativePeers) (i : Fin 16) (entry : PeerEntry) : NativePeers :=
  { p with entries := p.entries.put i entry }

def authorized (p : NativePeers) (address : Mac) : Bool :=
  p.bound && p.active && !p.fault && !p.closing && valid address &&
    (p.find address).any fun i =>
      p.entries[i].installed && !p.entries[i].retiring &&
        (p.entries[i].cached || p.entries[i].traffic)

def acceptData (p : NativePeers) (address : Mac) (stream : ℕ) (sequence : UInt16) (now : ℕ) :
    Bool × NativePeers :=
  if hstream : stream < 17 then
    if !p.authorized address then (false, p)
    else
      match p.find address with
      | none => (false, p)
      | some i =>
        let answer := (p.entries[i].windows.get ⟨stream, hstream⟩).accept sequence now
        (answer.1, p.setEntry i { p.entries[i] with
          windows := p.entries[i].windows.set stream answer.2 })
  else (false, p)

section
variable {σ : Type} (host : PeerHost σ)

def ready : StateM σ Bool := do
  let p ← host.read
  if p.fault then pure false
  else return (← host.awdlPeerCapacity) != 0

def capacity : StateM σ ℕ := do
  let p ← host.read
  if p.bound && !p.fault then return min (← host.awdlPeerCapacity).toNat maximumPeers
  else pure 0

def isLocal (address : Mac) : StateM σ Bool := do
  let p ← host.read
  if !p.interface then pure true
  else
    match ← host.getHardwareAddress with
    | none => pure true
    | some current => pure (!valid current || current == address)

/-- `bind`; `native` says whether the interface is an AWDL interface. -/
def bind (native : Bool) (address : Mac) : StateM σ IOReturn := do
  let p ← host.read
  if p.busy || p.closing || p.bound then pure .busy
  else if !native || !valid address then pure .badArgument
  else if (← host.getHardwareAddress) ≠ some address then pure .badArgument
  else if (← host.awdlPeerCapacity) = 0 then pure .notReady
  else
    host.update fun p => { p with
      interface := true, bound := true, active := false, fault := false, lastError := .success }
    pure .success

/-- `install`: the result and the entry's index. -/
def install (address : Mac) : StateM σ (IOReturn × Option (Fin 16)) := do
  let p ← host.read
  match p.find address, p.empty with
  | some i, _ =>
    pure (if p.entries[i].installed && !p.entries[i].retiring then .success else .notReady, some i)
  | none, none => pure (.noResources, none)
  | none, some i =>
    if p.usedCount ≥ (← capacity host) then pure (.noResources, none)
    else
      host.update fun p => p.setEntry i { p.entries[i] with used := true, address := address }
      let result ← host.setAwdlPeer address true
      host.update fun p => { p with lastError := result.status }
      if result = .success then
        host.update fun p => p.setEntry i { p.entries[i] with installed := true }
        pure (.success, some i)
      else if result = .recoveryRequired then
        -- the hardware keeps the station until it is fenced
        host.update fun p => { p.setEntry i { p.entries[i] with
          installed := true, retiring := true } with fault := true }
        pure (result.status, none)
      else
        host.update fun p => p.setEntry i {}
        pure (result.status, none)

def remove (i : Fin 16) : StateM σ IOReturn := do
  host.update fun p => p.setEntry i { p.entries[i] with retiring := true }
  let p ← host.read
  let result ← host.setAwdlPeer p.entries[i].address false
  host.update fun p => { p with lastError := result.status }
  if result ≠ .success then
    host.update fun p => { p with fault := true }
    pure result.status
  else
    host.update fun p => p.setEntry i {}
    pure .success

/-- One entry of the loop of `clear`. -/
def clearEntry (failure : IOReturn) (i : Fin 16) : StateM σ IOReturn := do
  let p ← host.read
  let failure ←
    if p.entries[i].used && p.entries[i].installed then do
      let result ← host.setAwdlPeer p.entries[i].address false
      pure (if result.status ≠ .success then result.status else failure)
    else pure failure
  host.update fun p => p.setEntry i {}
  pure failure

def clear (unbind : Bool) : StateM σ Unit := do
  let p ← host.read
  if p.closing then host.update fun p => { p with shutdownPending := p.shutdownPending || unbind }
  else
    host.update fun p => { p with closing := true, active := false }
    let failure ← (List.finRange 16).foldlM (clearEntry host) .success
    host.update fun p =>
      let unbound := unbind || p.shutdownPending || p.abandonPending
      { p with
        trafficPeer := zeroMac
        lastError := failure
        fault := p.fault || failure != .success
        interface := p.interface && !unbound
        bound := p.bound && !unbound
        shutdownPending := false
        disablePending := false
        abandonPending := false
        closing := false }

def revoke : StateM σ Unit := host.update fun p => { p with active := false }

def enable (value : Bool) : StateM σ IOReturn := do
  if !value then
    revoke host
    let p ← host.read
    if p.busy then
      host.update fun p => { p with disablePending := true }
      pure .success
    else
      clear host false
      return (← host.read).lastError
  else
    let p ← host.read
    if p.busy || p.closing then pure .busy
    else if !p.bound || !p.interface then pure .notReady
    else if !(← ready host) then pure .notReady
    else
      host.update fun p => { p with active := true }
      pure .success

def shutdown : StateM σ Unit := do
  revoke host
  let p ← host.read
  if p.busy || p.closing then host.update fun p => { p with shutdownPending := true }
  else clear host true

def abandon : StateM σ Unit := do
  revoke host
  let p ← host.read
  if p.busy || p.closing then host.update fun p => { p with abandonPending := true }
  else
    host.update fun p => { p with
      entries := Vector.replicate 16 {}
      trafficPeer := zeroMac
      interface := false
      bound := false
      abandonPending := false
      shutdownPending := false
      disablePending := false }

/-- The end of a `Transaction`: what was deferred takes effect. -/
def finish : StateM σ Unit := do
  host.update fun p => { p with busy := false }
  let p ← host.read
  if p.abandonPending then abandon host
  else if p.shutdownPending then clear host true
  else if p.disablePending then clear host false
  else pure ()

/-- A body run as a `Transaction`. -/
def transaction {α : Type} (body : StateM σ α) : StateM σ α := do
  host.update fun p => { p with busy := true }
  let result ← body
  finish host
  pure result

/-- `cache`, once the entry is in place: the completion is handed off; an add whose hand-off
failed is taken back. -/
def complete (address : Mac) (added : Option (Fin 16 × PeerEntry)) : StateM σ IOReturn := do
  let p ← host.read
  if !p.active || p.shutdownPending then pure .notReady
  else if ← host.postPeerCacheCompletion address added.isSome then pure .success
  else
    match added with
    | none => pure .notReady
    | some (i, previous) =>
      host.update fun p => p.setEntry i { p.entries[i] with cached := previous.cached }
      let p ← host.read
      if !previous.installed && !p.entries[i].traffic then discard <| remove host i
      pure .notReady

/-- `cache` with an add operation. -/
def cacheAdd (address : Mac) : StateM σ IOReturn := do
  let p ← host.read
  let previous := match p.find address with
    | some i => p.entries[i]
    | none => {}
  match ← install host address with
  | (.success, some i) =>
    let p ← host.read
    if !p.active || p.shutdownPending then pure .notReady
    else
      host.update fun p => p.setEntry i { p.entries[i] with cached := true }
      complete host address (some (i, previous))
  | (result, _) => pure result

/-- `cache` with the remove operation. -/
def cacheRemove (address : Mac) : StateM σ IOReturn := do
  let p ← host.read
  match p.find address with
  | none => complete host address none
  | some i =>
    -- data is revoked at once, also when the removal fails
    host.update fun p => p.setEntry i { p.entries[i] with cached := false }
    if p.entries[i].traffic then complete host address none
    else
      let result ← remove host i
      if result ≠ .success then pure result else complete host address none

def cache (operation : UInt32) (address : Mac) : StateM σ IOReturn := do
  let p ← host.read
  if ← pure (!p.bound || !p.active || !p.interface) <||>
      (not <$> host.canPostPeerCacheCompletion) then pure .notReady
  else if p.busy || p.closing then pure .busy
  else if ← pure (!valid address) <||> isLocal host address then pure .badArgument
  else if operation ≠ 0 ∧ operation ≠ 2 ∧ operation ≠ 6 then pure .unsupported
  else if operation = 2 then transaction host (cacheRemove host address)
  else if !(← ready host) then pure .notReady
  else transaction host (cacheAdd host address)

/-- `traffic`, once the new peer is in place: the old one loses its reference. -/
def dropTraffic (next : Option (Fin 16)) (address : Mac) : StateM σ IOReturn := do
  let p ← host.read
  let old := p.find p.trafficPeer
  host.update fun p => { p with trafficPeer := address }
  let result ←
    match old with
    | none => pure none
    | some i =>
      if next = some i then pure none
      else
        host.update fun p => p.setEntry i { p.entries[i] with traffic := false }
        if p.entries[i].cached then pure none
        else
          let result ← remove host i
          pure (if result ≠ .success then some result else none)
  match result with
  | some failure => pure failure
  | none =>
    let p ← host.read
    pure (if p.active && !p.shutdownPending then .success else .notReady)

/-- `traffic` for an active registration. -/
def trafficAdd (address : Mac) : StateM σ IOReturn := do
  match ← install host address with
  | (.success, some i) =>
    let p ← host.read
    if !p.active || p.shutdownPending then pure .notReady
    else
      host.update fun p => p.setEntry i { p.entries[i] with traffic := true }
      dropTraffic host (some i) address
  | (result, _) => pure result

def traffic (d : TrafficRegistration) : StateM σ IOReturn := do
  let p ← host.read
  if !p.bound || !p.active then pure .notReady
  else if p.busy || p.closing then pure .busy
  else if ← pure (decide (d.version > 1 ∨ d.active > 1 ∨ d.nameLen = 0 ∨ d.nameLen > 128)) <||>
      (pure (d.active != 0) <&&> (pure (!valid d.addr) <||> isLocal host d.addr)) then
    pure .badArgument
  else if d.active = 0 then transaction host (dropTraffic host none zeroMac)
  else if !(← ready host) then pure .notReady
  else transaction host (trafficAdd host d.addr)

end

end NativePeers

end AirportAwdl.Native
