import AirportAwdl.Native.Codec
import AirportAwdl.Native.Settings

/-!
# The native runtime

`Runtime` validates native controls and owns the life of its backend. Every operation of the
backend may call back into it; a shutdown that arrives inside such a call is completed when the
last `Call` unwinds.

The backend is a parameter: its operations (`BackendOp`) and its queries (`BackendQuery`) run on
any state `σ` that holds the runtime's own fields.
-/

namespace AirportAwdl.Native

open ByteBuffer

/-- Operations of `RuntimeBackend`, each with its arguments. -/
inductive BackendOp where
  | open_ (interface : ℕ) (mac : Mac)
  | bindPeers (interface : ℕ) (mac : Mac)
  | enablePeers (enabled : Bool)
  | revokePeers
  | abandonPeers
  | updateReceiveAddress (mac : Mac)
  | activate (enabled : Bool)
  | close
  | configure (next : Settings)
  | installTemplate (value : TxTemplate)
  | setAddress (mac : Mac)
  | transmitEthernet (bytes : Bytes)
  | cachePeer (operation : UInt32) (address : Mac)
  | registerTraffic (d : TrafficRegistration)
  | nativeSet (n : NativeSet)
  | nativeGet (request : Request)
  | observeRadioAction (frame metadata : Bytes)
  | receiveRadioData (frame metadata : Bytes)
  | timerFired
deriving DecidableEq, Repr

@[reducible] def BackendOp.Result : BackendOp → Type
  | .open_ .. | .bindPeers .. | .enablePeers _ | .activate _ | .configure _ | .installTemplate _
  | .setAddress _ | .cachePeer .. | .registerTraffic _ | .nativeSet _ => IOReturn
  | .nativeGet _ => IOReturn × Option NativeReply
  | .transmitEthernet _ | .receiveRadioData .. => Bool
  | .revokePeers | .abandonPeers | .updateReceiveAddress _ | .close | .observeRadioAction ..
  | .timerFired => Unit

/-- Queries of `RuntimeBackend`. -/
inductive BackendQuery where
  | capabilities
  | ready
  | peersReady
  | channelAllowed (channel : Channel)
  | currentChannel
  | configuration
  | peerCapacity
deriving DecidableEq, Repr

@[reducible] def BackendQuery.Result : BackendQuery → Type
  | .capabilities | .peerCapacity => UInt32
  | .ready | .peersReady | .channelAllowed _ => Bool
  | .currentChannel => Option Channel
  | .configuration => Option Settings

/-- `Runtime`; an interface is known by a number. -/
structure Runtime where
  interface : Option ℕ := none
  settings : Settings := {}
  pendingTemplate : TxTemplate := {}
  address : Mac := zeroMac
  /-- `calls_`, 32 bits wide: the calls that are open, at most as many as calls nest. -/
  calls : ℕ := 0
  attempted : Bool := false
  opened : Bool := false
  enabled : Bool := false
  stopped : Bool := false
deriving DecidableEq, Repr

/-- The state a runtime runs on. -/
structure RuntimeBackend (σ : Type) where
  runtime : σ → Runtime
  setRuntime : Runtime → σ → σ
  invoke : (op : BackendOp) → StateM σ op.Result
  query : (q : BackendQuery) → StateM σ q.Result
  retain : ℕ → StateM σ Unit
  release : ℕ → StateM σ Unit

namespace Runtime

/-- `validAddress`; a null address is rejected like the zero address. -/
def validAddress (mac : Mac) : Bool := unicast mac

def validPresence (value : UInt32) : Bool :=
  value != 0 && value ≤ 16 && value &&& (value - 1) == 0

def requiredCapabilities : UInt32 := 0x7f

section
variable {σ : Type} (backend : RuntimeBackend σ)

def read : StateM σ Runtime := fun s => (backend.runtime s, s)

def update (f : Runtime → Runtime) : StateM σ Unit :=
  modify fun s => backend.setRuntime (f (backend.runtime s)) s

/-- `retain` or `release` of an interface, unless it is null. -/
def pin (reference : ℕ → StateM σ Unit) : Option ℕ → StateM σ Unit
  | none => pure ()
  | some interface => reference interface

def finishShutdown : StateM σ Unit := do
  let r ← read backend
  pin backend.retain r.interface
  if r.attempted then do
    update backend fun r => { r with attempted := false }
    backend.invoke .abandonPeers
    backend.invoke .close
  update backend fun r => { r with
    interface := none, pendingTemplate := {}, settings := {}, address := zeroMac }
  pin backend.release r.interface

/-- The scope of a `Call`. -/
def call {α : Type} (body : StateM σ α) : StateM σ α := do
  let interface := (← read backend).interface
  pin backend.retain interface
  update backend fun r => { r with calls := r.calls + 1 }
  let result ← body
  update backend fun r => { r with calls := r.calls - 1 }
  let r ← read backend
  if r.calls = 0 ∧ r.stopped then finishShutdown backend
  pin backend.release interface
  pure result

def shutdown : StateM σ Unit := do
  let r ← read backend
  if r.stopped then pure ()
  else
    update backend fun r => { r with stopped := true, enabled := false, opened := false }
    backend.invoke .revokePeers
    let r ← read backend
    if r.calls = 0 then finishShutdown backend else pure ()

def ready : StateM σ Bool := do
  let r ← read backend
  pure (!r.stopped) <&&> backend.query .ready <&&> backend.query .peersReady

/-- `prepare`, within its call. -/
def prepareCall (interface : ℕ) (mac : Mac) : StateM σ IOReturn := do
  update backend fun r => { r with attempted := true }
  let result ← backend.invoke (.open_ interface mac)
  if result ≠ .success then
    shutdown backend
    pure result
  else if (← read backend).stopped then pure .notReady
  else
    let peerResult ← backend.invoke (.bindPeers interface mac)
    if peerResult ≠ .success then
      shutdown backend
      pure peerResult
    else
      update backend fun r => { r with address := mac }
      match ← backend.query .configuration with
      | none =>
        shutdown backend
        pure .notReady
      | some settings =>
        update backend fun r => { r with settings }
        if (← read backend).stopped then pure .notReady
        else
          update backend fun r => { r with opened := true }
          pure .success

def prepare (interface : Option ℕ) (mac : Mac) : StateM σ IOReturn := do
  let r ← read backend
  match interface with
  | none => pure .badArgument
  | some interface =>
    if r.stopped || r.opened || !validAddress mac then pure .badArgument
    else if ← (not <$> ready backend) <||>
        ((fun c => c &&& requiredCapabilities != requiredCapabilities) <$>
          backend.query .capabilities) then pure .notReady
    else
      update backend fun r => { r with interface := some interface }
      call backend (prepareCall backend interface mac)

/-- `enable(true)`, within its call. -/
def enableCall : StateM σ IOReturn := do
  let result ← backend.invoke (.activate true)
  if (← read backend).stopped then pure .notReady
  else if result ≠ .success then pure result
  else
    let peers ← backend.invoke (.enablePeers true)
    if peers ≠ .success then
      discard <| backend.invoke (.activate false)
      pure peers
    else if (← read backend).stopped then pure .notReady
    else
      update backend fun r => { r with enabled := true }
      pure .success

/-- `enable(false)`, within its call. -/
def disableCall : StateM σ IOReturn := do
  update backend fun r => { r with enabled := false }
  backend.invoke .revokePeers
  let result ← backend.invoke (.activate false)
  if (← read backend).stopped then pure .notReady
  else
    let peers ← backend.invoke (.enablePeers false)
    pure (if result ≠ .success then result else peers)

def enable (value : Bool) : StateM σ IOReturn := do
  let r ← read backend
  if ← pure (!r.opened || r.stopped) <||> (pure value <&&> (not <$> ready backend)) then
    pure .notReady
  else if value == r.enabled then pure .success
  else call backend (if value then enableCall backend else disableCall backend)

/-- `setAddress`, within its call. -/
def setAddressCall (mac : Mac) : StateM σ IOReturn := do
  let result ← backend.invoke (.setAddress mac)
  if (← read backend).stopped then pure .notReady
  else if result = .success then
    update backend fun r => { r with address := mac }
    backend.invoke (.updateReceiveAddress mac)
    pure result
  else pure result

def setAddress (mac : Mac) : StateM σ IOReturn := do
  let r ← read backend
  if !validAddress mac then pure .badArgument
  else if !r.opened || r.stopped then pure .notReady
  else if r.enabled then pure .busy
  else call backend (setAddressCall backend mac)

def transmitEthernet (bytes : Bytes) : StateM σ Bool := do
  let r ← read backend
  if ← pure (!r.opened || !r.enabled) <||> (not <$> ready backend) <||>
      pure (!DataCodec.validEthernet bytes) then pure false
  else call backend (backend.invoke (.transmitEthernet bytes))

def receiveRadioData (frame metadata : Bytes) : StateM σ Bool := do
  let r ← read backend
  if ← pure (!r.opened || !r.enabled || r.stopped) <||> (not <$> ready backend) then pure false
  else call backend (backend.invoke (.receiveRadioData frame metadata))

def observeRadioAction (frame metadata : Bytes) : StateM σ Unit := do
  let r ← read backend
  if ← pure (!r.opened || !r.enabled || r.stopped) <||> (not <$> ready backend) then pure ()
  else call backend (backend.invoke (.observeRadioAction frame metadata))

def timerFired : StateM σ Unit := do
  let r ← read backend
  if r.opened && r.enabled && !r.stopped then call backend (backend.invoke .timerFired)
  else pure ()

def get (request : Request) : StateM σ (IOReturn × Option Reply) := do
  let settings := (← read backend).settings
  match request with
  | .peerCacheMaximumSize =>
    let capacity ← backend.query .peerCapacity
    pure (if capacity = 0 then (.unsupported, none)
      else (.success, some (.peerCacheMaximumSize capacity)))
  | .ssid => pure (.success, some .ssid)
  | .state =>
    let r ← read backend
    let running ← pure r.enabled <&&> ready backend
    pure (.success, some (.state (if running then 4 else 0)))
  | .channel =>
    match ← backend.query .currentChannel with
    | none => pure (.notReady, none)
    | some channel => pure (.success, some (.channel channel))
  | .awdlSyncParams =>
    pure (.success, some (.syncParams
      { settings.synchronization with version := apple80211Version }))
  | .awdlSyncState =>
    pure (.success, some (.syncState { settings.parent with version := apple80211Version }))
  | .awdlSynchronizationChannelSequence =>
    pure (.success, some (.synchronizationChannelSequence
      { settings.channels with version := apple80211Version }))
  | .awdlExtensionStateMachineParameters =>
    pure (.success, some (.extensionStateMachineParameters
      { settings.extension with version := apple80211Version }))
  | .awdlElectionRssiThresholds =>
    pure (.success, some (.electionRssiThresholds
      { settings.thresholds with version := apple80211Version }))
  | .awdlSyncEnabled => pure (.success, some (.syncEnabled settings.synchronize))
  | .awdlPresenceMode => pure (.success, some (.presenceMode settings.presence))
  | .awdlElectionId => pure (.success, some (.electionId settings.electionId))
  | .awdlElectionMetric => pure (.success, some (.electionMetric settings.metric))
  | .awdlAfTxMode => pure (.success, some (.afTxMode settings.actionMode))
  | request =>
    let (result, reply) ← backend.invoke (.nativeGet request)
    pure (result, reply.map .native)

/-- Every channel of the list that is not empty is allowed. -/
def channelsAllowed : List Channel → StateM σ Bool
  | [] => pure true
  | c :: rest => do
    if c.channel ≠ 0 then
      if ← backend.query (.channelAllowed c) then channelsAllowed rest else pure false
    else channelsAllowed rest

/-- What a set request asks of the settings: a refusal, or the next settings. Requests that
change no settings are `none`. -/
def nextSettings (settings : Settings) :
    SetRequest → StateM σ (Option (Except IOReturn Settings))
  | .syncParams d =>
    pure <| some <|
      if d.availabilityWindowLength ≠ 16 ∨ d.availabilityWindowPeriod ≠ 16 ∨
          d.extensionLength ≠ 16 ∨ d.nonElectionMaster > 1 ∨
          (d.synchronizationFramePeriod ≠ 110 ∧ d.synchronizationFramePeriod ≠ 440) then
        .error .unsupported
      else .ok { settings with synchronization := d }
  | .syncState d =>
    pure <| some <|
      if d.state > 3 ∨ (d.state ≠ 0 ∧ !validAddress d.master) then .error .badArgument
      else .ok { settings with
        parent := d, synchronize := if d.state = 0 then false else settings.synchronize }
  | .syncEnabled _ enabled =>
    pure <| some <|
      if enabled > 1 then .error .badArgument
      else .ok { settings with synchronize := enabled != 0 }
  | .synchronizationChannelSequence d => do
    if d.length = 0 ∨ d.length > 16 ∨ d.encoding > 1 ∨ d.duplicateCount ≠ 0 ∨
        !validPresence (d.stepCount.toUInt32 + 1) then pure (some (.error .unsupported))
    else if ← channelsAllowed backend (d.seqs.toList.take d.length.toNat) then
      pure (some (.ok { settings with channels := d }))
    else pure (some (.error .badArgument))
  | .presenceMode _ mode =>
    pure <| some <|
      if !validPresence mode then .error .unsupported
      else .ok { settings with presence := mode }
  | .electionId _ electionId => pure (some (.ok { settings with electionId }))
  | .electionMetric _ metric => pure (some (.ok { settings with metric }))
  | .afTxMode _ mode =>
    pure <| some <|
      if mode ≠ 0 ∧ mode ≠ 3 then .error .unsupported
      else .ok { settings with actionMode := mode }
  | .extensionStateMachineParameters d =>
    pure <| some <|
      if d.unk1 > 255 ∨ d.unk2 > 255 ∨ d.unk3 > 255 ∨ d.unk4 > 255 then .error .badArgument
      else .ok { settings with extension := d }
  | .electionRssiThresholds d =>
    pure <| some <|
      if d.peerRssiThreshold < -127 ∨ d.peerRssiThreshold > -1 then .error .badArgument
      else .ok { settings with thresholds := d }
  | .peerCacheControl .. | .peerTrafficRegistration _ | .syncFrameTemplate .. | .native _ =>
    pure none

/-- Set requests that change no settings. -/
def setOther : SetRequest → StateM σ IOReturn
  | .peerCacheControl _ operation address => do
    let r ← read backend
    if !r.enabled then pure .notReady
    else if !validAddress address || address == r.address then pure .badArgument
    else if operation ≠ 0 ∧ operation ≠ 2 ∧ operation ≠ 6 then pure .unsupported
    else backend.invoke (.cachePeer operation address)
  | .peerTrafficRegistration d => do
    let r ← read backend
    if !r.enabled then pure .notReady
    else if d.active > 1 ∨ d.nameLen > 128 ∨ d.nameLen = 0 ∨
        (d.active ≠ 0 ∧ (!validAddress d.addr ∨ d.addr = r.address)) then pure .badArgument
    else backend.invoke (.registerTraffic d)
  | .syncFrameTemplate _ payload => do
    if payload = [] then pure .badArgument
    else
      match TxTemplate.replaceTlvs payload 0x10 0 with
      | none => pure .badArgument
      | some template =>
        update backend fun r => { r with pendingTemplate := template }
        let result ← backend.invoke (.installTemplate template)
        update backend fun r => { r with pendingTemplate := {} }
        pure result
  | .native n => backend.invoke (.nativeSet n)
  -- the others change settings
  | _ => pure .unsupported

/-- A set request, once the settings were read. -/
def set (request : SetRequest) : StateM σ IOReturn := do
  if request.version.any (· > apple80211Version) then pure .badArgument
  else
    match ← nextSettings backend (← read backend).settings request with
    | none => setOther backend request
    | some (.error refusal) => pure refusal
    | some (.ok next) =>
      let result ← backend.invoke (.configure next)
      if result = .success then
        update backend fun r => { r with settings := next }
        pure result
      else pure result

/-- A request and its payload. -/
inductive Control where
  | get (request : Request)
  | set (request : SetRequest)
deriving DecidableEq, Repr

/-- `request`, within its call. -/
def requestCall (control : Control) : StateM σ (IOReturn × Option Reply) := do
  match ← backend.query .configuration with
  | none => pure (.notReady, none)
  | some settings =>
    update backend fun r => { r with settings }
    match control with
    | .get request => get backend request
    | .set request => return (← set backend request, none)

/-- `request`; `none` is a null payload. -/
def request (payload : Option Control) : StateM σ (IOReturn × Option Reply) := do
  let r ← read backend
  match payload with
  | none => pure (.badArgument, none)
  | some control =>
    if !r.opened || r.stopped then pure (.notReady, none)
    else call backend (requestCall backend control)

end

end Runtime

end AirportAwdl.Native
