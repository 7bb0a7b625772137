import AirportAwdl.Election.State

/-!
# The election engine: `elect` and the operations that run it

`elect` is cut where the source returns early: the election counter
(`advanceElection`), the table scan (`scanPeers`), the loss of a parent
(`loseParent`) and the treatment of a found peer (`followPeer`), which blocks,
rejects, defers, acquires or tracks. `Op` lists the engine's public operations and
`Reachable` and `ReachableBy` the states they lead to.
-/

namespace AirportAwdl.Election

open ByteBuffer

namespace State

/-- Only a top master advances its own election counter. -/
def advanceElection (s : State) (now : ℕ) : State :=
  if now < s.electionEpoch ∨ s.synchronized ∨ s.nativeClockHoldover then
    { s with electionEpoch := now }
  else
    let intervals := (now - s.electionEpoch) / 3140000
    { s with
      selfCounter := s.selfCounter + UInt32.ofNat intervals
      electionEpoch := s.electionEpoch + intervals * 3140000 }

/-- Retire an observation that is in the future or older than its lifetime. -/
def expirePeer (now : ℕ) (p : Peer) : Peer :=
  if p.used ∧ (now < p.seen ∨ now - p.seen > peerLifetimeUs) then { p with used := false } else p

/-- Peers the scan considers at all: no loops, no deep trees, no follower role for role 3. -/
def eligible (s : State) (p : Peer) : Bool :=
  p.used && p.advertisement.master != s.mac && p.advertisement.distance < 10 &&
    p.advertisement.sync != s.mac && s.syncRole != 3

/-- `memcmp(a, b, 6) < 0`. -/
def macLess (a b : Mac) : Bool := a.toList < b.toList

/-- The signed difference of two wrapping 32-bit counters. -/
def rank (a b : UInt32) : ℤ := (a - b).toBitVec.toInt

/-- Whether an unmanaged engine ranks the peer above itself: metric, then counter, then a
root with a larger address. -/
def outranksSelf (s : State) (p : Peer) : Bool :=
  let a := p.advertisement
  !(a.metric < s.metric || (a.metric == s.metric && (rank a.masterCounter s.selfCounter < 0 ||
    (rank a.masterCounter s.selfCounter == 0 && (a.distance != 0 || !macLess s.mac p.mac)))))

/-- Whether peer `p` replaces the best candidate `q` so far. -/
def outranks (p q : Peer) : Bool :=
  let a := p.advertisement
  let b := q.advertisement
  a.metric > b.metric || (a.metric == b.metric && (rank a.masterCounter b.masterCounter > 0 ||
    (rank a.masterCounter b.masterCounter == 0 && (a.distance < b.distance ||
      (a.distance == b.distance && macLess q.mac p.mac)))))

/-- One iteration of the scan over the table. -/
def scanStep (s : State) (now : ℕ) (acc : Vector Peer 16 × Option (Fin 16)) (i : Fin 16) :
    Vector Peer 16 × Option (Fin 16) :=
  let p := expirePeer now acc.1[i]
  let peers := acc.1.put i p
  if !s.eligible p then (peers, acc.2)
  else if s.nativeElectionManaged then
    (peers, if p.mac = s.nativeParent then some i else acc.2)
  else if s.syncRole = 2 then (peers, if p.mac = s.forcedSync then some i else acc.2)
  else if !s.outranksSelf p then (peers, acc.2)
  else
    match acc.2 with
    | none => (peers, some i)
    | some best => (peers, if outranks p peers[best] then some i else some best)

/-- The scan: the table with stale entries retired, and the best entry. -/
def scanPeers (s : State) (now : ℕ) : Vector Peer 16 × Option (Fin 16) :=
  (List.finRange 16).foldl (s.scanStep now) (s.peers, none)

/-- The clock that survives a short cache expiry: still selected, validated and native's. -/
def holdsNativeClock (s : State) : Bool :=
  s.nativeElectionManaged && s.nativeClockSelected && s.nativeClockValidated &&
    s.nativeParentSelected && s.syncRole != 3 && s.clockParent == s.nativeParent

/-- The branch `best < 0`: holdover of the native clock, or our own schedule. -/
def loseParent (s : State) : State :=
  if s.holdsNativeClock then
    { s with
      nativeHoldoverTransitions :=
        if s.nativeClockHoldover then s.nativeHoldoverTransitions
        else s.nativeHoldoverTransitions + 1
      nativeClockHoldover := true
      synchronized := false
      sequence := s.ownSequence
      presence := s.ownPresence
      master := s.clockRoot
      sync := s.clockParent }
  else
    { s with
      nativeClockHoldover := false
      sequence := if s.synchronized then s.ownSequence else s.sequence
      presence := if s.synchronized then s.ownPresence else s.presence
      clockHoldUntil := if s.synchronized then 0 else s.clockHoldUntil
      synchronized := false
      masterMetric := s.metric
      masterCounter := s.selfCounter
      distance := 0
      master := s.mac
      sync := s.mac }

/-- Whether the peer carries the clock that is already followed. -/
def sameClock (s : State) (p : Peer) : Bool :=
  if s.nativeElectionManaged then
    s.nativeClockSelected && s.clockParent == p.mac && s.clockRoot == p.advertisement.master
  else s.synchronized && s.sync == p.mac && s.master == p.advertisement.master

/-- A pending native selection authorizes its own parent and root only. -/
def acquisitionBlocked (s : State) (p : Peer) : Bool :=
  s.nativeElectionManaged && s.nativeClockAcquisitionPending &&
    (s.acquisitionParent != p.mac ||
      (s.acquisitionRootKnown && s.acquisitionRoot != p.advertisement.master))

/-- Whether the peer's clock is taken over as it stands. -/
def adopts (s : State) : Bool :=
  !s.nativeElectionManaged || s.nativeClockAcquisitionPending ||
    (!s.nativeClockSelected && !s.nativeTimelineStarted)

/-- Enter holdover, counting the transition. -/
def enterHoldover (s : State) : State :=
  { s with
    synchronized := false
    nativeHoldoverTransitions :=
      if s.nativeClockHoldover then s.nativeHoldoverTransitions
      else s.nativeHoldoverTransitions + 1
    nativeClockHoldover := true }

/-- An observation from another clock tree that native has not selected. -/
def rejectForeign (s : State) (p : Peer) : State :=
  { s with
    clockRejected := if p.seen > s.clockSampleAt then s.clockRejected + 1 else s.clockRejected
    clockSampleAt := if p.seen > s.clockSampleAt then p.seen else s.clockSampleAt
    clockSampleRejected := true }.enterHoldover

/-- Keep the sample for the end of the promised window. -/
def deferSample (s : State) (p : Peer) : State :=
  { s with
    clockDeferred := if p.seen > s.clockDeferredAt then s.clockDeferred + 1 else s.clockDeferred
    clockDeferredAt := if p.seen > s.clockDeferredAt then p.seen else s.clockDeferredAt }

/-- Follow the peer's tree. Native programs our sequence independently of the parent. -/
def bindPeer (s : State) (p : Peer) : State :=
  { s with
    nativeClockHoldover := s.clockSampleRejected
    synchronized := !s.clockSampleRejected
    master := p.advertisement.master
    sync := p.mac
    sequence := if s.nativeElectionManaged then s.ownSequence else p.advertisement.sequence
    presence := if s.nativeElectionManaged then s.ownPresence else p.advertisement.presence
    masterMetric := p.advertisement.metric
    masterCounter := p.advertisement.masterCounter
    distance := p.advertisement.distance + 1
    nativeClockSelected :=
      if s.nativeElectionManaged ∧ !s.sameClock p then true else s.nativeClockSelected
    nativeClockValidated :=
      if s.nativeElectionManaged ∧ !s.sameClock p then false else s.nativeClockValidated
    clockParent := if s.nativeElectionManaged ∧ !s.sameClock p then p.mac else s.clockParent
    clockRoot :=
      if s.nativeElectionManaged ∧ !s.sameClock p then p.advertisement.master else s.clockRoot }

/-- Take over the peer's counter and phase. -/
def acquireClock (s : State) (p : Peer) : State :=
  let s := { s.holdClock 0 with
    epoch := p.epoch
    baseCounter := p.baseCounter
    clockSampleAt := p.seen }
  if s.nativeElectionManaged then
    { s with
      nativeClockValidated := true
      nativeClockAcquisitionPending := false
      clockSampleRejected := false
      nativeClockHoldover := false
      synchronized := true
      nativeClockAcquisitions := s.nativeClockAcquisitions + 1 }
  else s

/-- Signed offset of the peer's clock from ours: the counters as `int16_t`, then the phases. -/
def clockDelta (s : State) (p : Peer) (now : ℕ) : ℤ :=
  let local_ := s.elapsed now
  let remote := if now ≥ p.epoch then now - p.epoch else 0
  let counters : ℤ :=
    ((p.baseCounter + UInt16.ofNat (remote / awUs)).toNat : ℤ) - (s.counter now).toNat
  counters.bmod 65536 * awUs + (remote % awUs : ℕ) - (local_ % awUs : ℕ)

/-- Half a time unit per fresh sample at most. -/
def clockCorrection (delta : ℤ) : ℤ :=
  if delta > 512 then 512 else if delta < -512 then -512 else delta

/-- Re-anchor the timeline with `correction` added to the current phase. -/
def slewClock (s : State) (correction : ℤ) (now : ℕ) : State :=
  if correction = 0 then s
  else
    let phase : ℤ := (s.elapsed now % awUs : ℕ) + correction
    let base := if phase < 0 then s.counter now - 1
      else if phase ≥ awUs then s.counter now + 1 else s.counter now
    let phase := if phase < 0 then phase + awUs else if phase ≥ awUs then phase - awUs else phase
    if now ≥ phase.toNat then
      { s with
        epoch := now - phase.toNat
        baseCounter := base
        clockCorrections := s.clockCorrections + 1 }
    else s

/-- Accept an aligned sample of the native clock. -/
def validateSample (s : State) : State :=
  if s.nativeElectionManaged then
    { s with
      nativeClockValidated := true
      clockSampleRejected := false
      nativeClockHoldover := false
      synchronized := true }
  else s

/-- A fresh sample of the clock that is followed: reject, defer or slew. -/
def trackClock (s : State) (p : Peer) (now : ℕ) : State :=
  let delta := s.clockDelta p now
  if delta > 5 * 1024 ∨ delta < -(5 * 1024) then
    { s with
      clockSampleAt := p.seen
      clockRejected := s.clockRejected + 1
      clockSampleRejected := true }.enterHoldover
  else
    let s := s.validateSample
    if now < s.clockHoldUntil then s.deferSample p
    else { s with clockSampleAt := p.seen }.slewClock (clockCorrection delta) now

/-- The part of `elect` after a peer was found. -/
def followPeer (s : State) (p : Peer) (now : ℕ) : State :=
  if s.acquisitionBlocked p then s
  else if s.nativeElectionManaged ∧ !s.sameClock p ∧ !s.adopts then s.rejectForeign p
  else if s.adopts ∧ s.nativeElectionManaged ∧ now < s.clockHoldUntil then s.deferSample p
  else if s.adopts then (s.bindPeer p).acquireClock p
  else if !s.sameClock p ∨ p.seen > s.clockSampleAt then (s.bindPeer p).trackClock p now
  else s.bindPeer p

/-- `State::elect`. -/
def elect (s : State) (now : ℕ) : State :=
  -- an open window's role, parent, channel and clock stay as they are
  if s.controlsHeld then s
  else
    let s := s.advanceElection now
    -- a native interface receives its election result through advertisers
    if s.nativeElectionManaged ∧ !s.nativeParentSelected then s
    else
      let scan := s.scanPeers now
      let s := { s with peers := scan.1 }
      match scan.2 with
      | none => s.loseParent
      | some best => s.followPeer scan.1[best] now

/-- The transaction part of `releaseControls`: apply a dirty transaction to the live state. -/
def commitControls (s : State) (now : ℕ) : State :=
  let changed := s.controlsDirty
  let s := s.discardControls
  if changed then
    let s := (s.setSyncRole s.pendingControls.role.toNat s.pendingControls.forced).2
    let s := (s.setSequence s.pendingControls.sequence now).2
    let s := { s with
      nativeParent := s.pendingControls.parent
      nativeParentSelected := s.pendingControls.parentSelected }
    if s.nativeElectionManaged ∧ !s.nativeParentSelected then s.clearNativeParent else s
  else s

def releaseControls (s : State) (now : ℕ) : Bool × State :=
  if !s.controlsHeld then (false, s)
  else (s.controlsDirty, (s.commitControls now).elect now)

/-- Table slot for an observation: the sender's own entry, else the first free or stale one. -/
def peerSlot (s : State) (source : Mac) (now : ℕ) : Option (Fin 16) :=
  match s.find source with
  | some i => some i
  | none => (List.finRange 16).find? fun i =>
      !s.peers[i].used || now < s.peers[i].seen || now - s.peers[i].seen > peerLifetimeUs

/-- Part of the current EAW the sender had spent, in whole time units. -/
def spentUs (a : Advertisement) : ℕ := (a.presence.toNat * a.period.toNat - a.down.toNat) * 1024

/-- The observation `receiveAction` stores; it sets every field of the entry. -/
def observation (source : Mac) (a : Advertisement) (now : ℕ) : Peer where
  mac := source
  advertisement := a
  seen := now
  epoch := now - spentUs a
  baseCounter := a.counter - a.counter % a.presence.toUInt16
  used := true

/-- Store an observation in slot `i`. -/
def storePeer (s : State) (i : Fin 16) (p : Peer) : State := { s with peers := s.peers.put i p }

/-- `receiveAction`; `none` where the source returns -1. -/
def receiveAction (s : State) (f : Bytes) (now : ℕ) : Option (Fin 16) × State :=
  match parseAdvertisement f with
  | none => (none, s)
  | some a =>
    if macAt f 10 = s.mac then (none, s)
    else if now < spentUs a then (none, s)
    else
      match s.peerSlot (macAt f 10) now with
      | none => (none, s)
      | some i => (some i, (s.storePeer i (observation (macAt f 10) a now)).elect now)

end State

/-- The engine's public operations. `startTimeline` is the scheduler's mark that a window
event was started, `nextFrame` the frame counter consumed by a transmission. -/
inductive Op where
  | receiveAction (frame : Bytes)
  | elect
  | setSyncRole (role : ℕ) (address : Mac)
  | setPresence (value : UInt8)
  | setSequence (value : Sequence)
  | setSocialChannel (index : ℕ) (channel : UInt8)
  | holdControls
  | releaseControls
  | discardControls
  | selectNativeParent (address : Mac) (root : Option Mac) (acquire : Bool)
  | clearNativeParent
  | holdClock (deadline : ℕ)
  | startTimeline
  | nextFrame
deriving DecidableEq, Repr

/-- The state after one operation at time `now`. -/
def Op.apply (op : Op) (s : State) (now : ℕ) : State :=
  match op with
  | .receiveAction frame => (s.receiveAction frame now).2
  | .elect => s.elect now
  | .setSyncRole role address => (s.setSyncRole role address).2
  | .setPresence value => (s.setPresence value now).2
  | .setSequence value => (s.setSequence value now).2
  | .setSocialChannel index channel => s.setSocialChannel index channel now
  | .holdControls => s.holdControls
  | .releaseControls => (s.releaseControls now).2
  | .discardControls => s.discardControls
  | .selectNativeParent address root acquire => s.selectNativeParent address root acquire
  | .clearNativeParent => s.clearNativeParent
  | .holdClock deadline => s.holdClock deadline
  | .startTimeline => { s with nativeTimelineStarted := true }
  | .nextFrame => { s with frameCounter := s.frameCounter + 1 }

/-- Whether an operation reports success; those without a result always do. -/
def Op.accepted (op : Op) (s : State) (now : ℕ) : Bool :=
  match op with
  | .setSyncRole role address => (s.setSyncRole role address).1
  | .setPresence value => (s.setPresence value now).1
  | .setSequence value => (s.setSequence value now).1
  | .receiveAction frame => (s.receiveAction frame now).1.isSome
  | _ => true

/-- Run operations in order, each at its own time. -/
def runOps (s : State) (ops : List (ℕ × Op)) : State :=
  ops.foldl (fun s step => step.2.apply s step.1) s

/-- States reached from a successful `init` by operations at arbitrary times. -/
inductive Reachable : State → Prop
  | init {address : Mac} {initial : Sequence} {now : ℕ} {metric : UInt32} {native : Bool}
      {s : State} (h : State.init address initial now metric native = some s) : Reachable s
  | step {s : State} (h : Reachable s) (op : Op) (now : ℕ) : Reachable (op.apply s now)

/-- States reached by operations at nondecreasing times, the last one at `now`, each of
which met the condition `ok` in the state it was called in. -/
inductive ReachableBy (ok : State → Op → Prop) : State → ℕ → Prop
  | init {address : Mac} {initial : Sequence} {now : ℕ} {metric : UInt32} {native : Bool}
      {s : State} (h : State.init address initial now metric native = some s) : ReachableBy ok s now
  | step {s : State} {last : ℕ} (h : ReachableBy ok s last) {op : Op} (hok : ok s op) {now : ℕ}
      (hle : last ≤ now) : ReachableBy ok (op.apply s now) now

/-- States reached by any operations at nondecreasing times. -/
abbrev ReachableAt : State → ℕ → Prop := ReachableBy fun _ _ => True

variable {ok : State → Op → Prop}

lemma ReachableBy.reachable {s : State} {now : ℕ} (h : ReachableBy ok s now) : Reachable s := by
  induction h with
  | init h => exact .init h
  | step _ _ _ ih => exact .step ih _ _

lemma ReachableBy.fresh {address : Mac} {initial : Sequence}
    (ha : unicast address) (hi : validSequence initial) (now : ℕ) (metric : UInt32)
    (native : Bool) : ReachableBy ok (State.fresh address initial now metric native) now :=
  .init (by rw [State.init, ha, hi]; rfl)

/-- The listed operations run at nondecreasing times from `last` on, each under its condition. -/
def RunOk (ok : State → Op → Prop) : State → ℕ → List (ℕ × Op) → Prop
  | _, _, [] => True
  | s, last, step :: rest =>
    last ≤ step.1 ∧ ok s step.2 ∧ RunOk ok (step.2.apply s step.1) step.1 rest

instance RunOk.decidable (ok : State → Op → Prop) [∀ s op, Decidable (ok s op)] (s : State)
    (last : ℕ) : (ops : List (ℕ × Op)) → Decidable (RunOk ok s last ops)
  | [] => isTrue trivial
  | step :: rest =>
    have := RunOk.decidable ok (step.2.apply s step.1) step.1 rest
    inferInstanceAs (Decidable (_ ∧ _ ∧ _))

/-- Time of the last listed operation. -/
def lastTime (last : ℕ) (ops : List (ℕ × Op)) : ℕ := ops.foldl (fun _ step => step.1) last

/-- Operations that meet their conditions lead to reachable states. -/
lemma ReachableBy.runOps {s : State} {last : ℕ}
    (h : ReachableBy ok s last) (ops : List (ℕ × Op)) (hrun : RunOk ok s last ops) :
    ReachableBy ok (runOps s ops) (lastTime last ops) := by
  induction ops generalizing s last with
  | nil => exact h
  | cons step rest ih =>
    obtain ⟨hle, hok, hrest⟩ := hrun
    exact ih (.step h hok hle) hrest

end AirportAwdl.Election
