import AirportAwdl.Native.Device

/-!
# The native backend

`NativeBackend` runs the election engine and the window scheduler on the hardware, answers the
native controls and carries IPv6 traffic inside the windows. It drives the scheduler and is the
scheduler's driver at the same time: window events go to the native side, which may call back
into the backend before the event returns. `native` is what the native side does in an event.

`fault` is permanent: a backend that lost control of its hardware refuses everything.
-/

namespace AirportAwdl.Native

open ByteBuffer Election Scheduler

namespace NativeBackend

def frequencyFor (channel : UInt8) : UInt16 :=
  if 1 ≤ channel ∧ channel ≤ 13 then 2407 + 5 * channel.toUInt16
  else if 36 ≤ channel ∧ channel ≤ 177 then 5000 + 5 * channel.toUInt16
  else 0

def channelFor (frequency : UInt16) : UInt8 :=
  if 2412 ≤ frequency ∧ frequency ≤ 2472 ∧ (frequency - 2407) % 5 = 0 then
    ((frequency - 2407) / 5).toUInt8
  else if 5180 ≤ frequency ∧ frequency ≤ 5885 ∧ frequency % 5 = 0 then
    ((frequency - 5000) / 5).toUInt8
  else 0

/-- `APPLE80211_C_FLAG_2GHZ` -/
def flag2GHz : UInt32 := 0x8

/-- `APPLE80211_C_FLAG_5GHZ` -/
def flag5GHz : UInt32 := 0x10

/-- `describe`: a channel of 20 MHz. -/
def describe (number : UInt8) : Channel where
  version := apple80211Version
  channel := number.toUInt32
  flags := 0x2 ||| (if number ≤ 13 then flag2GHz else flag5GHz)

/-- What `channelAllowed` checks before it asks for the number: the version, the range, a width
of 20 MHz and the band. -/
def describable (channel : Channel) : Bool :=
  channel.version ≤ apple80211Version && channel.channel ≤ 255 &&
    channel.flags &&& (0x4 ||| 0x400 ||| 0x800) == 0 &&
    !(channel.channel.toUInt8 ≤ 13 && channel.flags &&& flag5GHz != 0) &&
    !(channel.channel.toUInt8 > 13 && channel.flags &&& flag2GHz != 0)

/-- The role of the engine under the settings. -/
def role (s : Settings) : ℕ :=
  if s.parent.state ≠ 0 then
    if s.parent.state = 1 ∧ s.synchronization.nonElectionMaster ≠ 0 then 3 else s.parent.state.toNat
  else 1

/-- The channel list of the settings. -/
def sequence (s : Settings) : Sequence where
  channels := Vector.ofFn fun i : Fin 16 => (s.channels.seqs.get (i.castLE (by decide))).channel.toUInt8
  count := 16
  step := (s.presence - 1).toUInt8

/-- The extensions of the settings. -/
def extensions (s : Settings) : Vector UInt8 4 :=
  #v[s.extension.unk1.toUInt8, s.extension.unk2.toUInt8, s.extension.unk3.toUInt8,
    s.extension.unk4.toUInt8]

/-- The descriptors of the channel list that are in use. -/
def channelList (s : Settings) : List Channel := s.channels.seqs.toList.take 16

/-- The part of `valid` that asks nobody, for an engine with address `mac`. -/
def validFields (s : Settings) (mac : Mac) : Bool :=
  s.synchronization.availabilityWindowLength == 16 &&
    s.synchronization.availabilityWindowPeriod == 16 && s.synchronization.extensionLength == 16 &&
    s.synchronization.nonElectionMaster ≤ 1 &&
    (s.synchronization.synchronizationFramePeriod == 110 ||
      s.synchronization.synchronizationFramePeriod == 440) &&
    s.channels.encoding ≤ 1 && s.channels.duplicateCount == 0 && s.electionId ≤ 65535 &&
    (s.actionMode == 0 || s.actionMode == 3) && s.extension.unk1 ≤ 255 && s.extension.unk2 ≤ 255 &&
    s.extension.unk3 ≤ 255 && s.extension.unk4 ≤ 255 && s.thresholds.unk1 == 0 &&
    s.thresholds.unk2 == 0 && s.thresholds.unk3 == 0 && s.parent.modeFlags &&& ~~~0x20 == 0 &&
    s.presence != 0 && s.presence ≤ 4 && s.presence &&& (s.presence - 1) == 0 &&
    s.channels.length == 16 && s.channels.stepCount.toUInt32 + 1 == s.presence &&
    s.parent.state ≤ 3 &&
    !(s.parent.state == 2 && (!unicast s.parent.master || s.parent.master == mac)) &&
    !((s.parent.state == 1 || s.parent.state == 3) && s.parent.master != mac) &&
    -127 ≤ s.thresholds.peerRssiThreshold && s.thresholds.peerRssiThreshold ≤ -1

/-- The settings of a backend that was just opened. -/
def openSettings (mac : Mac) (plan : Sequence) : Settings where
  presence := 4
  thresholds := { version := apple80211Version, peerRssiThreshold := -70 }
  synchronization :=
    { version := apple80211Version, availabilityWindowLength := 16, availabilityWindowPeriod := 16,
      extensionLength := 16, synchronizationFramePeriod := 110, nonElectionMaster := 0 }
  extension := { version := apple80211Version, unk1 := 3, unk2 := 3, unk3 := 3, unk4 := 3 }
  parent := { version := apple80211Version, state := 1, master := mac }
  channels :=
    { version := apple80211Version, length := 16, stepCount := 3
      seqs := Vector.ofFn fun i : Fin 32 => if h : i.val < 16 then describe plan.channels[i] else {} }

/-- The plan that repeats the allowed social channels. -/
def socialPlan (social : List UInt8) : Sequence where
  channels := Vector.ofFn fun i : Fin 16 => social[i.val % social.length]?.getD 0
  count := 16
  step := 3

/-- The part of `applySettings` that works on the engine, under the settings in force. -/
def configureEngine (s : State) (previous next : Settings) (root : Option Mac) (now : ℕ) : State :=
  let parent := if role next = 2 then next.parent.master else s.mac
  let s := (s.setSyncRole (role next) parent).2
  let s := (s.setSequence (sequence next) now).2
  let s := { s with
    metric := next.metric
    masterMetric := if s.master = s.mac then next.metric else s.masterMetric
    psfPeriod := next.synchronization.synchronizationFramePeriod.toUInt16
    minExtension := extensions next }
  let s :=
    if role next ≠ 2 then s.clearNativeParent
    else if next.parent.modeFlags &&& 0x20 ≠ 0 then
      let fresh := previous.parent.modeFlags &&& 0x20 == 0 || previous.parent.master != parent ||
        root.any fun root => !s.nativeClockSelected || s.clockRoot != root
      s.selectNativeParent parent root fresh
    else s
  s.elect now

section
variable {H : Type} (hal : Hal H)

def nowUs : StateM (Device H) ℕ := ask hal .runtimeNowUs

/-- `channelAllowed` of a number. -/
def channelAllowed (channel : UInt8) : StateM (Device H) Bool :=
  if frequencyFor channel ≠ 0 then ask hal (.awdlChannelAllowed (frequencyFor channel))
  else pure false

/-- `channelAllowed` of a native descriptor. -/
def descriptorAllowed (channel : Channel) : StateM (Device H) Bool :=
  if describable channel then channelAllowed hal channel.channel.toUInt8 else pure false

/-- `currentChannel` of the radio. -/
def currentChannel : StateM (Device H) UInt8 := do
  let radio ← ask hal .awdlRadioState
  pure (if radio.ready then channelFor radio.frequency else 0)

/-- `radioReady`, while the scheduler is in phase `p`. -/
def radioReady (p : Phase) : StateM (Device H) Bool := do
  let radio ← ask hal .awdlRadioState
  let d ← get
  pure (!d.backend.fault && radio.ready && radio.frequency != 0 &&
    (!radio.recoveryRequired || (p != .stopped && p != .failed)))

/-- Every descriptor of the list that names a channel is allowed. -/
def allAllowed : List Channel → StateM (Device H) Bool
  | [] => pure true
  | c :: rest => do
    if ← pure (c.channel != 0) <&&> (not <$> descriptorAllowed hal c) then pure false
    else allAllowed rest

/-- `valid`, for an engine with address `mac`. -/
def valid (s : Settings) (mac : Mac) : StateM (Device H) Bool := do
  if !validFields s mac then pure false
  else if ← allAllowed hal (channelList s) then pure ((channelList s).any (·.channel != 0))
  else pure false

/-- The earlier of two deadlines, where zero is none. -/
def earliest (windowDeadline pumpDeadline : ℕ) : ℕ :=
  if pumpDeadline ≠ 0 ∧ (windowDeadline = 0 ∨ pumpDeadline < windowDeadline) then pumpDeadline
  else windowDeadline

def rearm : StateM (Device H) Bool := do
  let b := (← get).backend
  if !b.interface then pure false
  else if !b.active ∨ earliest b.windowDeadline b.pumpDeadline = 0 then
    cancelWindowTimer hal
    pure true
  else
    let now ← nowUs hal
    armWindowTimer hal (earliest b.windowDeadline b.pumpDeadline) now

/-- `pumpDeadline_=deadline; rearm()` -/
def pumpAt (deadline : ℕ) : StateM (Device H) Bool := do
  assign fun b => { b with pumpDeadline := deadline }
  rearm hal

/-- `if(!..){fault_=true;return kIOReturnError;} return kIOReturnSuccess;` -/
def orFault (m : StateM (Device H) Bool) : StateM (Device H) IOReturn := do
  if ← m then pure .success
  else
    assign fun b => { b with fault := true }
    pure .error

def wireTime (host : ℕ) : StateM (Device H) (Option UInt32) := do
  let now ← nowUs hal
  pure (if host > now then none else some (UInt32.ofNat host))

def armTimer (deadline : ℕ) : StateM (Device H) Bool := do
  assign fun b => { b with windowDeadline := deadline }
  rearm hal

def cancelTimer : StateM (Device H) Unit := do
  assign fun b => { b with windowDeadline := 0 }
  discard <| rearm hal

variable (native : StateM (World (Device H)) Unit)

/-- An event is posted; native code runs before `postMessage` returns. -/
def post (op : StateM (Device H) Bool) : StateM (World (Device H)) Bool := do
  if (← get).driver.backend.interface then
    if ← onDevice op then
      native
      pure true
    else pure false
  else pure false

/-- `SchedulerDriver` -/
def driver : WindowDriver (Device H) where
  nowUs := nowUs hal
  ready := radioReady hal
  channelAllowed := channelAllowed hal
  currentChannel := currentChannel hal
  wireTime := wireTime hal
  armTimer deadline _ := armTimer hal deadline
  cancelTimer d := (cancelTimer hal d).2
  restore := ask hal .restoreAwdlRadio
  reserve channel durationMs :=
    onDevice (ask hal (.reserveAwdlRadio (frequencyFor channel) durationMs))
  windowStart window wire :=
    post native (ask hal (.postWindowStart window (describe window.channel) wire))
  windowEnd _ wire := post native (ask hal (.postWindowEnd wire))

def fields : StateM (World (Device H)) NativeBackend := fun w => (w.driver.backend, w)

lemma wp_fields {Q : NativeBackend → World (Device H) → Prop} {w : World (Device H)} :
    StateProgram.wp fields Q w ↔ Q w.driver.backend w := Iff.rfl

/-- `fault_=true;` -/
def fail : StateM (World (Device H)) Unit := onDevice (assign fun b => { b with fault := true })

def ready : StateM (World (Device H)) Bool := do
  let w ← get
  if w.driver.backend.fault then pure false
  else if (← onDevice (ask hal .awdlPeerCapacity)) = 0 then pure false
  else if !w.driver.backend.owns then pure true
  else if ← onDevice (radioReady hal w.sched.phase) then pure true
  else
    let radio ← onDevice (ask hal .awdlRadioState)
    -- the primary interface is not authorized yet, or scans
    pure (!radio.recoveryRequired && radio.blockers != 0 && radio.blockers &&& ~~~0x108 == 0)

/-- The social channels that are allowed. -/
def allowedOf : List UInt8 → StateM (Device H) (List UInt8)
  | [] => pure []
  | c :: rest => do
    let allowed ← channelAllowed hal c
    let others ← allowedOf rest
    pure (if allowed then c :: others else others)

/-- `open`, once the hardware has the interface. -/
def openEngine (mac : Mac) : StateM (World (Device H)) IOReturn := do
  let social ← onDevice (allowedOf hal [6, 44, 149])
  -- `close` owns the accepted partial open
  if social = [] then pure .notReady
  else
    let now ← onDevice (nowUs hal)
    match State.init mac (socialPlan social) now 0 true with
    | none => pure .badArgument
    | some s =>
      engineSet fun _ => s
      onDevice (record .initialized)
      onDevice (assign fun b => { b with settings := openSettings mac (socialPlan social) })
      pure .success

def open_ (interface : ℕ) (mac : Mac) : StateM (World (Device H)) IOReturn := do
  let b ← fields
  if b.owns || b.interface || b.fault then pure .busy
  else if ← (not <$> onDevice (ask hal (.isAwdlInterface interface))) <||> pure (!unicast mac) then
    pure .badArgument
  else
    let added ← onDevice (ask hal (.addAwdlInterface mac))
    discard <| onDevice (ask hal .awdlRadioState)
    if !added then pure .notReady
    else
      onDevice (assign fun b => { b with owns := true, interface := true })
      openEngine hal mac

def startWhenAuthorized : StateM (World (Device H)) Bool := do
  if ← onDevice (ask hal .prepareAwdlRadio) then start (driver hal native) 100000 5000
  else
    let now ← onDevice (nowUs hal)
    onDevice (pumpAt hal (now + 100000))

def clearQueues (cause : ClearCause) : StateM (Device H) Unit := do
  assign fun b => { b with data := emptyData, oob := emptyOob }
  record (.cleared cause)

/-- `activate(false)` -/
def deactivate : StateM (World (Device H)) IOReturn := do
  onDevice (assign fun b => { b with active := false, pumpDeadline := 0 })
  discard <| onDevice (ask hal (.setAwdlReceiver false))
  let stopped ← stop (driver hal native)
  onDevice (clearQueues .disable)
  discard <| onDevice (rearm hal)
  if !stopped then
    fail
    pure .error
  else pure .success

def activate (enabled : Bool) : StateM (World (Device H)) IOReturn := do
  let b ← fields
  if !b.owns || !b.interface then pure .notReady
  else if !enabled then deactivate hal native
  else if b.active then pure .success
  else if !(← ready hal) then pure .notReady
  else
    onDevice (assign fun b => { b with active := true })
    if !(← onDevice (ask hal (.setAwdlReceiver true))) then
      onDevice (assign fun b => { b with active := false })
      pure .error
    else if ← pure b.settings.synchronize <&&> (not <$> startWhenAuthorized hal native) then
      discard <| onDevice (ask hal (.setAwdlReceiver false))
      onDevice (assign fun b => { b with active := false })
      pure .error
    else pure .success

/-- `applySettings`, once the scheduler runs or not as before. -/
def installSettings (next : Settings) (now : ℕ) : StateM (World (Device H)) IOReturn := do
  onDevice (assign fun b => { b with settings := next, nextPsf := 0, miCounterValid := false })
  let b ← fields
  if b.active && next.synchronize then onDevice (orFault (pumpAt hal (now + 1)))
  else pure .success

/-- `applySettings`, once a scheduler that is no longer wanted was stopped. -/
def applyValid (next : Settings) (root : Option Mac) : StateM (World (Device H)) IOReturn := do
  let now ← onDevice (nowUs hal)
  let b ← fields
  engineSet fun s => configureEngine s b.settings next root now
  if ← pure (b.active && next.synchronize && !b.settings.synchronize) <&&>
      (not <$> startWhenAuthorized hal native) then
    fail
    pure .error
  else installSettings hal next now

def applySettings (next : Settings) (root : Option Mac) : StateM (World (Device H)) IOReturn := do
  let w ← get
  let b := w.driver.backend
  if !b.owns || b.fault then pure .notReady
  else if !(← onDevice (valid hal next w.state.mac)) then pure .unsupported
  else if ← pure (b.active && b.settings.synchronize && !next.synchronize) <&&>
      (not <$> stop (driver hal native)) then
    fail
    pure .error
  else applyValid hal native next root

def configure (next : Settings) : StateM (World (Device H)) IOReturn :=
  applySettings hal native next none

def transmitEthernet (ethernet : Bytes) : StateM (World (Device H)) Bool := do
  let w ← get
  let b := w.driver.backend
  if !b.active || !b.settings.synchronize || !DataCodec.validEthernet ethernet ||
      macAt ethernet 6 != w.state.mac || b.data.count == 64 then pure false
  else
    let queued ← onDevice (nowUs hal)
    onDevice (assign fun b => { b with
      data := (b.data.push? ⟨queued, ethernet⟩).getD b.data })
    onDevice (record (.accepted ethernet))
    let now ← onDevice (nowUs hal)
    discard <| onDevice (pumpAt hal (now + 1))
    pure true

/-- A 32-bit big-endian field. -/
def read32be (b : Bytes) (i : ℕ) : UInt32 :=
  ((byteAt b i).toUInt32 <<< 24) ||| ((byteAt b (i + 1)).toUInt32 <<< 16) |||
    ((byteAt b (i + 2)).toUInt32 <<< 8) ||| (byteAt b (i + 3)).toUInt32

/-- When a frame with the wire time in `metadata` was received, if that is at most three seconds
ago. -/
def receivedAt (metadata : Bytes) (now : ℕ) : Option ℕ :=
  let age := (UInt32.ofNat now - read32be metadata 48).toNat
  if age > 3000000 ∨ now < age then none else some (now - age)

/-- `observeRadioAction`, once the time of reception is known. -/
def observeAt (frame : Bytes) (received : ℕ) : StateM (World (Device H)) Unit := do
  let w ← get
  let observed := w.state.receiveAction frame received
  engineSet fun _ => observed.2
  if observed.1.isNone then pure ()
  else
    onDevice (assign fun b => { b with
      samples := b.samples.put b.sampleSlot
        (match parseAdvertisement frame with
          | none => {}
          | some advertisement =>
            { advertisement, received, peer := macAt frame 10, valid := true })
      sampleNext := b.sampleNext + 1 })

def observeRadioAction (frame metadata : Bytes) : StateM (World (Device H)) Unit := do
  let b ← fields
  if !b.active || metadata.length != 72 || frame.length < 40 ||
      macAt frame 10 != macAt metadata 0 then pure ()
  else if (le32 metadata 44).toInt32 < b.settings.thresholds.peerRssiThreshold then pure ()
  else
    let now ← onDevice (nowUs hal)
    match receivedAt metadata now with
    | none => pure ()
    | some received => observeAt frame received

def popData : StateM (Device H) Unit := do
  assign fun b => { b with data := b.data.drop }
  if (← get).backend.interface then ask hal .resumeTransmit

/-- `transmitAwdlData` for the frame built from `ethernet`. -/
def submit (ethernet frame : Bytes) (window : ScheduledWindow) : StateM (Device H) Bool := do
  let d ← get
  let answer ← ask hal (.transmitAwdlData frame (frequencyFor window.channel) window.endUs)
  record (.submitted ethernet frame (d.peers.authorized (macAt ethernet 0)) answer)
  pure answer

/-- `state_.frameCounter++` -/
def countFrame (s : State) : State := { s with frameCounter := s.frameCounter + 1 }

/-- `state_.dataCounter++` -/
def countData (s : State) : State := { s with dataCounter := s.dataCounter + 1 }

/-- `serviceTransmit`: the frame at the head of the queue, once it may go out. `true` when the
loop goes on. -/
def transmitHead (ethernet : Bytes) (window : ScheduledWindow) :
    StateM (World (Device H)) Bool := do
  let s := (← get).state
  engineSet countFrame
  match DataCodec.encode ethernet 4096 s.frameCounter s.dataCounter with
  | none =>
    onDevice (record (.unencodable ethernet))
    onDevice (popData hal)
    pure true
  | some frame =>
    if ← onDevice (submit hal ethernet frame window) then
      engineSet countData
      onDevice (popData hal)
      pure true
    else pure false

end

end NativeBackend

end AirportAwdl.Native
