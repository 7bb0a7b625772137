import AirportAwdl.SyncTheorems

/-!
# The election engine: state, clock queries and control setters

The data of `RTWAwdlElection.hpp` and every operation that does not run an election.
Counters, metrics and bytes keep the source's fixed widths; times are host
microseconds. The control setters have two faces: with `controlsHeld` they only edit
the pending transaction, otherwise they act on the live state.
-/

namespace AirportAwdl.Election

open ByteBuffer

/-- Lifetime of a peer observation. -/
def peerLifetimeUs : ℕ := 3000000

/-- Length of one availability window (AW). -/
def awUs : ℕ := 16 * 1024

/-- The AWDL BSSID. -/
def bssid : Mac := Mac.of 0 0x25 0 0xff 0x94 0x73

/-- The 16-slot channel plan; each slot lasts `step + 1` availability windows. -/
structure Sequence where
  channels : Vector UInt8 16 := Vector.replicate 16 0
  count : UInt8 := 0
  step : UInt8 := 0
deriving DecidableEq, Repr

/-- Powers of two up to 16. -/
def validPresence (n : ℕ) : Bool := n != 0 && n ≤ 16 && n &&& (n - 1) == 0

/-- A full list, a power-of-two slot length and no channel above 196. -/
def validSequence (s : Sequence) : Bool :=
  s.count == 16 && validPresence (s.step.toNat + 1) && s.channels.toList.all (· ≤ 196)

/-- Channel of the slot that contains availability window `counter`. -/
def Sequence.channelOf (s : Sequence) (counter : UInt16) : UInt8 :=
  s.channels[(counter.toNat / (s.step.toNat + 1)) % s.count.toNat]?.getD 0

/-- The part of a synchronization message the engine keeps. -/
structure Advertisement where
  sequence : Sequence := {}
  master : Mac := zeroMac
  sync : Mac := zeroMac
  period : UInt16 := 0
  counter : UInt16 := 0
  down : UInt16 := 0
  presence : UInt8 := 0
  metric : UInt32 := 0
  distance : UInt32 := 0
  masterCounter : UInt32 := 0
  selfCounter : UInt32 := 0
deriving DecidableEq, Repr

/-- Decode a frame and check that its counter and countdown describe one instant. -/
def parseAdvertisement (frame : Bytes) : Option Advertisement :=
  if (parseFrame frame).1 ≠ .valid ∨ !unicast (macAt frame 10) ∨ macAt frame 16 ≠ bssid then none
  else
    match decodeSyncAction (frame.drop 24) with
    | (.valid, decoded) =>
      if decoded.periodTu ≠ 16 ∨ decoded.countdownTu = 0 ∨ decoded.height > 10 ∨
          decoded.counter.toNat % decoded.presence.toNat ≠
            (decoded.presence.toNat * 16 - decoded.countdownTu.toNat) / 16 then none
      else some {
        sequence := {
          count := decoded.sequence.count
          step := decoded.sequence.stride - 1
          channels := decoded.sequence.channel }
        master := decoded.master
        sync := if decoded.electionPresent then decoded.syncAddress else macAt frame 10
        period := decoded.periodTu
        counter := decoded.counter
        down := decoded.countdownTu
        presence := decoded.presence
        metric := decoded.masterMetric
        distance := decoded.height
        masterCounter := decoded.masterCounter
        selfCounter := decoded.selfCounter }
    | _ => none

/-- One entry of the peer table. -/
structure Peer where
  mac : Mac := zeroMac
  advertisement : Advertisement := {}
  seen : ℕ := 0
  epoch : ℕ := 0
  baseCounter : UInt16 := 0
  used : Bool := false
deriving DecidableEq, Repr

/-- Availability window the peer is in, from its last observation. -/
def Peer.counter (p : Peer) (now : ℕ) : UInt16 :=
  p.baseCounter + UInt16.ofNat ((now - p.epoch) / awUs)

/-- Channel the peer is on, zero when unknown. -/
def Peer.channel (p : Peer) (now : ℕ) : UInt8 :=
  if !p.used ∨ now < p.epoch ∨ now < p.seen ∨ now - p.seen > peerLifetimeUs ∨
      !validSequence p.advertisement.sequence then 0
  else p.advertisement.sequence.channelOf (p.counter now)

/-- Radio controls requested while a window holds them. -/
structure Controls where
  sequence : Sequence := {}
  presence : UInt8 := 0
  role : UInt8 := 0
  forced : Mac := zeroMac
  parent : Mac := zeroMac
  parentSelected : Bool := false
deriving DecidableEq, Repr

/-- `Election::State`. -/
structure State where
  mac : Mac
  master : Mac
  sync : Mac
  forcedSync : Mac
  sequence : Sequence
  ownSequence : Sequence
  peers : Vector Peer 16
  epoch : ℕ
  baseCounter : UInt16
  dataCounter : UInt16
  frameCounter : UInt16
  psfPeriod : UInt16
  metric : UInt32
  masterMetric : UInt32
  distance : UInt32
  masterCounter : UInt32
  selfCounter : UInt32
  synchronized : Bool
  electionEpoch : ℕ
  presence : UInt8
  ownPresence : UInt8
  syncRole : UInt8
  minExtension : Vector UInt8 4
  nativeElectionManaged : Bool
  nativeParentSelected : Bool
  nativeParent : Mac
  clockSampleAt : ℕ
  clockCorrections : ℕ
  clockRejected : ℕ
  /-- Phase discipline waits until the promised radio window ends. -/
  clockHoldUntil : ℕ
  clockDeferredAt : ℕ
  clockDeferred : ℕ
  nativeClockSelected : Bool
  nativeTimelineStarted : Bool
  controlsHeld : Bool
  controlsDirty : Bool
  nativeClockHoldover : Bool
  nativeClockValidated : Bool
  nativeClockAcquisitionPending : Bool
  clockSampleRejected : Bool
  nativeHoldoverTransitions : ℕ
  nativeClockAcquisitions : ℕ
  clockParent : Mac
  clockRoot : Mac
  acquisitionParent : Mac
  acquisitionRoot : Mac
  acquisitionRootKnown : Bool
  controlsDeferred : ℕ
  pendingControls : Controls
deriving DecidableEq, Repr

namespace State

/-- The fields `State::init` sets, on an object cleared to zero. -/
def fresh (address : Mac) (initial : Sequence) (now : ℕ) (initialMetric : UInt32)
    (nativeManaged : Bool) : State where
  mac := address
  master := address
  sync := address
  forcedSync := address
  sequence := initial
  ownSequence := initial
  peers := Vector.replicate 16 {}
  epoch := now
  baseCounter := 0
  dataCounter := 0
  frameCounter := 0
  psfPeriod := 110
  metric := initialMetric
  masterMetric := initialMetric
  distance := 0
  masterCounter := 0
  selfCounter := 0
  synchronized := false
  electionEpoch := now
  presence := initial.step + 1
  ownPresence := initial.step + 1
  syncRole := 1
  minExtension := Vector.replicate 4 3
  nativeElectionManaged := nativeManaged
  nativeParentSelected := false
  nativeParent := zeroMac
  clockSampleAt := 0
  clockCorrections := 0
  clockRejected := 0
  clockHoldUntil := 0
  clockDeferredAt := 0
  clockDeferred := 0
  nativeClockSelected := false
  nativeTimelineStarted := false
  controlsHeld := false
  controlsDirty := false
  nativeClockHoldover := false
  nativeClockValidated := false
  nativeClockAcquisitionPending := false
  clockSampleRejected := false
  nativeHoldoverTransitions := 0
  nativeClockAcquisitions := 0
  clockParent := zeroMac
  clockRoot := zeroMac
  acquisitionParent := zeroMac
  acquisitionRoot := zeroMac
  acquisitionRootKnown := false
  controlsDeferred := 0
  pendingControls := {}

/-- `State::init`; `none` when the source returns false and leaves the object alone. -/
def init (address : Mac) (initial : Sequence) (now : ℕ) (initialMetric : UInt32)
    (nativeManaged : Bool) : Option State :=
  if !unicast address ∨ !validSequence initial then none
  else some (fresh address initial now initialMetric nativeManaged)

/-- Host time since the epoch, zero before it. -/
def elapsed (s : State) (now : ℕ) : ℕ := if now ≥ s.epoch then now - s.epoch else 0

/-- The 16-bit availability-window counter. -/
def counter (s : State) (now : ℕ) : UInt16 :=
  s.baseCounter + UInt16.ofNat (s.elapsed now / awUs)

/-- Microseconds to the next extended availability window (EAW) of `presence` windows. -/
def untilNext (s : State) (now : ℕ) : ℕ :=
  if !validPresence s.presence.toNat then 0
  else
    let period := s.presence.toNat * awUs
    period - (s.baseCounter.toNat % s.presence.toNat * awUs + s.elapsed now % period) % period

/-- Whether the effective schedule may drive the radio. -/
def radioScheduleReady (s : State) : Bool :=
  s.syncRole != 2 || s.synchronized ||
    (s.nativeClockHoldover && s.nativeElectionManaged && s.nativeClockSelected &&
      s.nativeClockValidated && s.nativeParentSelected && s.clockParent == s.nativeParent)

/-- Channel of the effective schedule, zero when there is none. -/
def channel (s : State) (now : ℕ) : UInt8 :=
  if !s.radioScheduleReady then 0
  else if validSequence s.sequence then s.sequence.channelOf (s.counter now) else 0

/-- Index of the used table entry for `address`. -/
def find (s : State) (address : Mac) : Option (Fin 16) :=
  (List.finRange 16).find? fun i => s.peers[i].used && s.peers[i].mac == address

/-- Defer phase discipline until the given time. -/
def holdClock (s : State) (deadline : ℕ) : State := { s with clockHoldUntil := deadline }

/-- Open a control transaction holding the current requests. -/
def holdControls (s : State) : State :=
  if s.controlsHeld then s
  else { s with
    pendingControls := {
      sequence := s.ownSequence
      presence := s.ownPresence
      role := s.syncRole
      forced := s.forcedSync
      parent := s.nativeParent
      parentSelected := s.nativeParentSelected }
    controlsHeld := true
    controlsDirty := false }

/-- Drop the control transaction. -/
def discardControls (s : State) : State := { s with controlsHeld := false, controlsDirty := false }

/-- Acquisition bookkeeping of `selectNativeParent`: only an explicit native selection
authorizes acquiring another AW namespace. -/
def noteAcquisition (s : State) (address : Mac) (root : Option Mac) (acquire : Bool) : State :=
  let keepRoot := root.isNone && s.nativeClockAcquisitionPending && s.acquisitionParent == address
  { s with
    nativeElectionManaged := true
    nativeClockAcquisitionPending :=
      keepRoot || (acquire || !s.nativeClockSelected || s.clockParent != address ||
        (root.isSome && some s.clockRoot != root))
    acquisitionParent := address
    acquisitionRootKnown := if keepRoot then s.acquisitionRootKnown else root.isSome
    acquisitionRoot := root.getD s.acquisitionRoot }

/-- `selectNativeParent`: the selection itself is deferred while controls are held. -/
def selectNativeParent (s : State) (address : Mac) (root : Option Mac) (acquire : Bool) : State :=
  let s := s.noteAcquisition address root acquire
  if s.controlsHeld then
    if !s.pendingControls.parentSelected ∨ s.pendingControls.parent ≠ address then
      { s with
        pendingControls := { s.pendingControls with parent := address, parentSelected := true }
        controlsDirty := true
        controlsDeferred := s.controlsDeferred + 1 }
    else s
  else
    { s with
      nativeClockHoldover := if s.nativeParent ≠ address then false else s.nativeClockHoldover
      nativeParent := address
      nativeParentSelected := true }

/-- Unheld part of `clearNativeParent`: local-master promotion that keeps the physical AW
counter and phase. -/
def promoteLocalMaster (s : State) : State :=
  { s with
    nativeParentSelected := false
    nativeClockSelected := false
    nativeClockValidated := false
    nativeClockHoldover := false
    clockSampleRejected := false
    synchronized := false
    nativeParent := zeroMac
    clockParent := zeroMac
    clockRoot := zeroMac
    master := s.mac
    sync := s.mac
    sequence := s.ownSequence
    presence := s.ownPresence
    masterMetric := s.metric
    masterCounter := s.selfCounter
    distance := 0 }

def clearNativeParent (s : State) : State :=
  let s := { s with nativeClockAcquisitionPending := false, acquisitionRootKnown := false }
  if s.controlsHeld then
    if s.pendingControls.parentSelected then
      { s with
        pendingControls := { s.pendingControls with parentSelected := false }
        controlsDirty := true
        controlsDeferred := s.controlsDeferred + 1 }
    else s
  else s.promoteLocalMaster

/-- The argument check of `setSyncRole`, for an engine with address `mac`. -/
def roleAccepted (mac : Mac) (nativeManaged : Bool) (role : ℕ) (address : Mac) : Bool :=
  1 ≤ role && role ≤ 3 && unicast address &&
    !(if role = 2 then address == mac
      else if role = 3 then address != mac
      else !nativeManaged && address != mac)

/-- Unheld part of `setSyncRole`. -/
def applySyncRole (s : State) (role : UInt8) (address : Mac) : State :=
  { s.holdClock 0 with
    syncRole := role
    forcedSync := address
    synchronized := false
    nativeClockHoldover := false
    sequence := s.ownSequence
    presence := s.ownPresence
    master := s.mac
    sync := s.mac
    masterMetric := s.metric
    masterCounter := s.selfCounter
    distance := 0 }

def setSyncRole (s : State) (role : ℕ) (address : Mac) : Bool × State :=
  if !roleAccepted s.mac s.nativeElectionManaged role address then (false, s)
  else if s.controlsHeld then
    if s.pendingControls.role.toNat ≠ role ∨ s.pendingControls.forced ≠ address then
      (true, { s with
        pendingControls := { s.pendingControls with role := UInt8.ofNat role, forced := address }
        controlsDirty := true
        controlsDeferred := s.controlsDeferred + 1 })
    else (true, s)
  else if s.syncRole.toNat = role ∧ s.forcedSync = address then (true, s)
  else (true, s.applySyncRole (UInt8.ofNat role) address)

/-- Keep the current AW counter and sub-AW phase through a change of EAW duration. -/
def rebaseTimeline (s : State) (now : ℕ) : State :=
  { s with baseCounter := s.counter now, epoch := now - s.elapsed now % awUs }

/-- Unheld part of `setPresence`. -/
def applyPresence (s : State) (value : UInt8) (now : ℕ) : State :=
  let s := { s with
    ownPresence := value
    ownSequence := { s.ownSequence with step := value - 1 } }
  if !s.synchronized then
    { s.rebaseTimeline now with
      presence := value
      sequence := { s.sequence with step := value - 1 } }
  else s

def setPresence (s : State) (value : UInt8) (now : ℕ) : Bool × State :=
  if !validPresence value.toNat then (false, s)
  else if s.controlsHeld then
    if s.pendingControls.presence ≠ value then
      (true, { s with
        pendingControls := { s.pendingControls with
          presence := value
          sequence := { s.pendingControls.sequence with step := value - 1 } }
        controlsDirty := true
        controlsDeferred := s.controlsDeferred + 1 })
    else (true, s)
  else (true, s.applyPresence value now)

/-- Unheld part of `setSequence`. -/
def applySequence (s : State) (value : Sequence) (now : ℕ) : State :=
  { ({ s with ownSequence := value }.setPresence (value.step + 1) now).2 with
    sequence := value
    presence := value.step + 1 }

def setSequence (s : State) (value : Sequence) (now : ℕ) : Bool × State :=
  if !validSequence value ∨ !validPresence (value.step.toNat + 1) then (false, s)
  else if s.controlsHeld then
    if s.pendingControls.sequence ≠ value then
      (true, { s with
        pendingControls := { s.pendingControls with sequence := value, presence := value.step + 1 }
        controlsDirty := true
        controlsDeferred := s.controlsDeferred + 1 })
    else (true, s)
  else (true, s.applySequence value now)

/-- `setSocialChannel`: replace one slot of the requested sequence. -/
def setSocialChannel (s : State) (index : ℕ) (channel : UInt8) (now : ℕ) : State :=
  let desired := if s.controlsHeld then s.pendingControls.sequence else s.ownSequence
  if index ≥ desired.count.toNat then s
  else
    (s.setSequence { desired with channels := desired.channels.setIfInBounds index channel } now).2

end State
end AirportAwdl.Election
