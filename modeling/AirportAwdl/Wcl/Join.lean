import AirportAwdl.Lib.BoundedRing
import AirportAwdl.Native.Peers

/-!
# The station's join state machine

The part of the Wi-Fi interface that takes join requests from the native connection manager
(`WCL.cpp`): one request at a time is pending, net80211 events move it along, and what happens
is reported through a ring of 32 messages that a timer drains.

net80211 and the hardware are inputs. An operation that asks net80211 for a state change
comes with that change's result and with the events the receive path delivers meanwhile, which
is not under the interface's gate. Two fields are ghost state: `trace`, what was asked, reported
and delivered, in order, and `started`, the request net80211 was last given.
-/

namespace AirportAwdl.Wcl

open ByteBuffer
open Native (IOReturn)

/-- `AirportWCL::JoinRequest`; the name and the element have the lengths the source keeps beside
them. -/
structure JoinRequest where
  lowerAuth : UInt32 := 0
  upperAuth : UInt32 := 0
  ssid : Bytes := []
  keyLength : UInt32 := 0
  keyCipher : UInt32 := 0
  keyIndex : UInt16 := 0
  key : Bytes := []
  bssid : Mac := zeroMac
  channelSpec : UInt16 := 0
  rsn : Bytes := []
deriving DecidableEq, Repr

inductive LegacyAuth where
  | invalid | open_ | wep | personal | enterprise | sae | personalPassphrase
deriving DecidableEq, Repr

def validRSNOverride (ie : Bytes) : Bool :=
  if ie.length > 257 then false
  else if ie.length = 0 then true
  else if ie.length < 4 || (byteAt ie 1).toNat + 2 ≠ ie.length then false
  else if byteAt ie 0 = 48 then byteAt ie 2 = 1 && byteAt ie 3 = 0
  else
    ie.length ≥ 8 && byteAt ie 0 = 221 && byteAt ie 2 = 0 && byteAt ie 3 = 0x50 &&
      byteAt ie 4 = 0xf2 && byteAt ie 5 = 1 && byteAt ie 6 = 1 && byteAt ie 7 = 0

/-- `apple80211_authtype_upper`, as far as a join uses it. -/
def authWpa : UInt32 := 0x1
def authWpaPsk : UInt32 := 0x2
def authWpa2 : UInt32 := 0x4
def authWpa2Psk : UInt32 := 0x8
def authSha256Psk : UInt32 := 0x400
def authSha256Enterprise : UInt32 := 0x800
def authWpa3Sae : UInt32 := 0x1000

def classifyLegacyAuth (j : JoinRequest) : LegacyAuth :=
  let personal := authWpaPsk ||| authWpa2Psk ||| authSha256Psk
  let enterprise := authWpa ||| authWpa2 ||| authSha256Enterprise
  let pmk := j.keyLength = 32 && (j.keyCipher = 6 || j.keyCipher = 7)
  if !validRSNOverride j.rsn then .invalid
  else if j.lowerAuth ≠ 1 then .invalid
  else if j.upperAuth = 0 then
    if j.keyLength = 0 then .open_
    else if j.keyIndex < 4 && ((j.keyLength = 5 && j.keyCipher = 1) ||
        (j.keyLength = 13 && j.keyCipher = 2)) then .wep
    else .invalid
  else if j.upperAuth = authWpa3Sae then
    if j.keyCipher = 10 && j.keyLength ≥ 1 && j.keyLength ≤ 63 then .sae else .invalid
  else if j.upperAuth = authWpa2Psk && j.keyCipher = 10 then
    if j.keyLength ≥ 8 && j.keyLength ≤ 63 then .personalPassphrase else .invalid
  else if j.upperAuth &&& ~~~(personal ||| enterprise) ≠ 0 then .invalid
  else if j.upperAuth &&& personal ≠ 0 && j.upperAuth &&& enterprise ≠ 0 then .invalid
  else if j.upperAuth &&& personal ≠ 0 then if pmk then .personal else .invalid
  else if j.upperAuth &&& enterprise ≠ 0 then
    if j.keyLength = 0 || pmk then .enterprise else .invalid
  else .invalid

/-- What net80211 answers while the credentials of a join are installed. -/
structure SecurityAnswers where
  /-- `ieee80211_ioctl_setwpaparms` -/
  setwpaparms : ℤ := 0
  pbkdf2Sha1 : ℤ := 0
  /-- `ieee80211_pmksa_add` for the 802.1X and for the SHA-256 key management. -/
  pmksaAdd : Bool := true
  pmksaAddSha256 : Bool := true
  /-- `ieee80211_ioctl_setnwkeys` -/
  setnwkeys : ℤ := 0
deriving DecidableEq, Repr

def ENETRESET : ℤ := 52

/-- The middle of `startWCLJoin`: install what the kind of authentication needs. -/
def installSecurity (auth : LegacyAuth) (join : JoinRequest) (a : SecurityAnswers) : IOReturn :=
  match auth with
  | .sae | .personal | .personalPassphrase | .enterprise =>
    if a.setwpaparms ≠ 0 ∧ a.setwpaparms ≠ ENETRESET then .badArgument
    else if auth = .personalPassphrase then if a.pbkdf2Sha1 ≠ 0 then .error else .success
    else if auth = .enterprise ∧ join.keyLength = 32 then
      let cached := if join.upperAuth &&& (authWpa ||| authWpa2) ≠ 0 then a.pmksaAdd else true
      let cached :=
        if cached && join.upperAuth &&& authSha256Enterprise ≠ 0 then a.pmksaAddSha256 else cached
      if !cached then .noMemory else .success
    else .success
  | .wep => if a.setnwkeys ≠ 0 ∧ a.setnwkeys ≠ ENETRESET then .badArgument else .success
  | .open_ | .invalid => .success

structure AssociationEvent where
  status : UInt16
  bssid : Mac
  driverStatus : IOReturn
deriving DecidableEq, Repr

structure FirstBeaconEvent where
  bssid : Mac
deriving DecidableEq, Repr

/-- `ConnectionEvent`, with the one peer that is filled in. -/
structure ConnectionEvent where
  status : UInt16
  reason : UInt16
  bssid : Mac
  driverStatus : IOReturn
deriving DecidableEq, Repr

structure LinkStatusEvent where
  bssid : Mac
  up : Bool
  reason : UInt32
deriving DecidableEq, Repr

structure DeauthEvent where
  reason : UInt16
  bssid : Mac
deriving DecidableEq, Repr

structure LqmBeaconUpdate where
  receivedDelta : UInt32
deriving DecidableEq, Repr

/-- What goes through the join ring. -/
inductive JoinMessage where
  | assocComplete (event : AssociationEvent)
  | firstBeacon (event : FirstBeaconEvent)
  | connectComplete (event : ConnectionEvent)
  | linkStatus (event : LinkStatusEvent)
  | deauth (event : DeauthEvent)
  | lqmUpdate (event : LqmBeaconUpdate)
deriving DecidableEq, Repr

/-- `sizeof` of the payload. -/
def JoinMessage.size : JoinMessage → ℕ
  | assocComplete _ => 28
  | firstBeacon _ => 20
  | connectComplete _ => 164
  | linkStatus _ => 16
  | deauth _ => 20
  | lqmUpdate _ => 0x1dc

/-- `sizeof(JoinMessage::payload)` -/
def payloadSize : ℕ := 0x1dc

def makeBeaconUpdate (receivedDelta : UInt32) : Option LqmBeaconUpdate :=
  if receivedDelta = 0 then none else some { receivedDelta }

/-- `enum ieee80211_state` -/
inductive NetState where
  | init | scan | auth | assoc | run
deriving DecidableEq, Repr

/-- A node as a beacon or the scan cache presents it. -/
structure Node where
  bssid : Mac
  esslen : ℕ := 0
  /-- The channel number; none without a channel. -/
  channel : Option ℕ
  ies : Bytes := []
  /-- What `selectWPA2TransitionMode` leaves of the elements. -/
  selected : ℕ := 0
  /-- Whether the message buffer can be allocated. -/
  allocated : Bool := true
deriving DecidableEq, Repr

/-- `ieee80211com`, as far as the join code reads it. -/
structure Ieee80211com where
  /-- `ic_wcl_mac_reconfig` -/
  macReconfig : Bool := false
  /-- `IFF_UP`, `IFF_RUNNING` and `IEEE80211_F_BGSCAN` -/
  up : Bool := false
  running : Bool := false
  bgscan : Bool := false
  state : NetState := .init
  assocStatus : UInt16 := 0
  deauthReason : UInt16 := 0
  /-- The BSSID of `ic_bss`. -/
  bss : Option Mac := none
  /-- The nodes of `ic_tree` that a finished scan replays. -/
  scanCache : List Node := []
deriving DecidableEq, Repr

def validElements : ℕ → Bytes → Bool
  | _, [] => true
  | 0, _ => false
  | _, [_] => false
  | fuel + 1, _ :: length :: rest =>
    length.toNat ≤ rest.length && validElements fuel (rest.drop length.toNat)

def validIEs (ies : Bytes) : Bool := ies.length ≤ 2048 && validElements ies.length ies

def consumeMacReconfiguration (pending ready : Bool) : Bool × Bool :=
  if !pending then (false, pending) else (true, if ready then false else pending)

structure BeaconEvent where
  node : Node
  frame : Bytes
deriving DecidableEq, Repr

/-- What the receive path and net80211 do on their own. -/
inductive RxEvent where
  /-- net80211 changes its own state. -/
  | changed (ic : Ieee80211com)
  | link (up : Bool)
  | beacon (beacon : Option BeaconEvent)
  | scanDone
  | assocDone
  | deauth
deriving DecidableEq, Repr

/-- A state change that net80211 was asked for. -/
structure Transition where
  error : ℤ := 0
  /-- What arrives before it returns. -/
  events : List RxEvent := []
deriving DecidableEq, Repr

/-- Who starts a join. -/
inductive Origin where
  | request | resume
deriving DecidableEq, Repr

inductive JoinEvent where
  /-- `joinPending` was set for this BSSID. -/
  | pending (origin : Origin) (bssid : Mac)
  /-- The state change of a started join failed. -/
  | refused (origin : Origin)
  /-- A pending join was dropped by a leave, an abort or the interface's stop. -/
  | withdrawn
  | link (up : Bool)
  | posted (message : JoinMessage)
  | dropped (message : JoinMessage)
  | delivered (message : JoinMessage)
deriving DecidableEq, Repr

/-- `AirportRTWSkywalkInterface`, as far as joins use it. -/
structure WclInterface where
  wclStopping : Bool := false
  wclJoinLock : Bool := true
  wclJoinMessageTimer : Bool := true
  wclJoinMessages : BoundedRing JoinMessage 32 := .empty (.lqmUpdate ⟨0⟩) (by decide)
  /-- The timeout in milliseconds, while armed. -/
  joinTimer : Option ℕ := none
  joinBSSID : Mac := zeroMac
  scanPending : Bool := false
  scanCompleted : Bool := false
  scanSkipCompletion : Bool := false
  wclBssValid : Bool := false
  wclLinkIndicated : Bool := false
  wclAssociatedBeacons : UInt32 := 0
  wclLqmBeacons : UInt32 := 0
  wclLqmReportedBeacons : UInt32 := 0
  joinPending : Bool := false
  joinDeferred : Bool := false
  deferredJoin : JoinRequest := {}
  assocNotified : Bool := false
  firstBeaconNotified : Bool := false
  portAuthorized : Bool := false
  ic : Ieee80211com := {}
  /-- The request whose network name, BSSID, authentication types and key net80211 was last set
  to look for. -/
  started : Option JoinRequest := none
  trace : List JoinEvent := []

namespace WclInterface

def record (e : JoinEvent) (w : WclInterface) : WclInterface := { w with trace := w.trace ++ [e] }

def postWCLJoinMessage (message : JoinMessage) (w : WclInterface) : IOReturn × WclInterface :=
  if !w.wclJoinLock || w.wclStopping then (.notReady, w.record (.dropped message))
  else if message.size > payloadSize then (.badArgument, w.record (.dropped message))
  else if !w.wclJoinMessageTimer then (.noResources, w.record (.dropped message))
  else
    match w.wclJoinMessages.push? message with
    | none => (.noResources, w.record (.dropped message))
    | some messages => (.success, { w with wclJoinMessages := messages }.record (.posted message))

/-- A post whose result the caller does not look at. -/
def post (message : JoinMessage) (w : WclInterface) : WclInterface :=
  (w.postWCLJoinMessage message).2

/-- One turn of the loop of `drainWCLJoinMessages`; the lock is free between two turns. -/
def drainWCLJoinMessages (w : WclInterface) : WclInterface :=
  if w.wclStopping || w.wclJoinMessages.count = 0 then w
  else
    { w with wclJoinMessages := w.wclJoinMessages.drop }.record (.delivered w.wclJoinMessages.front)

def finishWCLJoin (status reason : UInt16) (driverStatus : IOReturn) (w : WclInterface) :
    WclInterface :=
  if !w.joinPending then w
  else
    { w with
      joinPending := false
      joinDeferred := false
      deferredJoin := {}
      joinTimer := none }.post
        (.connectComplete { status, reason, bssid := w.joinBSSID, driverStatus })

/-- `publishWCLBeacon`: keep the snapshot of the BSS that is being joined up to date. -/
def publishWCLBeacon (node : Node) (w : WclInterface) : WclInterface :=
  if node.esslen > 32 || !validIEs node.ies then w
  else
    match node.channel with
    | none => w
    | some channel =>
      if channel = 0 || channel > 196 || !node.allocated then w
      else if w.assocNotified && node.bssid = w.joinBSSID then
        { w with wclBssValid := node.selected ≤ 0x800 }
      else w

def finishWCLScan (status : IOReturn) (w : WclInterface) : WclInterface :=
  if !w.scanPending then w
  else
    let w := { w with scanPending := false, scanCompleted := false }
    if status = .success then w.ic.scanCache.foldl (fun w node => w.publishWCLBeacon node) w else w

/-- The scan timer. -/
def completeWCLScan (w : WclInterface) : WclInterface :=
  if w.wclStopping then w
  else w.finishWCLScan (if w.scanCompleted then .success else .timeout)

def handleWCLLink (up : Bool) (w : WclInterface) : WclInterface :=
  if w.wclStopping then w
  else
    let w := { w with portAuthorized := up }.record (.link up)
    let w :=
      if !up && w.wclLinkIndicated then
        { w with wclLinkIndicated := false, wclBssValid := false }.post
          (.linkStatus { bssid := w.joinBSSID, up := false, reason := 255 })
      else w
    if up && w.joinPending && w.firstBeaconNotified then w.finishWCLJoin 0 0 .success else w

/-- A frame that counts as a beacon of the associated network. -/
def beaconFrame (frame : Bytes) : Bool :=
  frame.length ≥ 36 && frame.length ≤ 0x800 && byteAt frame 0 &&& 0xfc = 0x80

/-- Count a beacon of the associated network, and report every eighth. -/
def countBeacon (w : WclInterface) : WclInterface :=
  let w := { w with
    wclAssociatedBeacons := w.wclAssociatedBeacons + 1, wclLqmBeacons := w.wclLqmBeacons + 1 }
  if w.portAuthorized && w.wclLqmBeacons % 8 = 0 then
    match makeBeaconUpdate (w.wclLqmBeacons - w.wclLqmReportedBeacons) with
    | none => w
    | some update =>
      let (status, w) := w.postWCLJoinMessage (.lqmUpdate update)
      if status = .success then { w with wclLqmReportedBeacons := w.wclLqmBeacons } else w
  else w

/-- The first beacon of the network after a successful association. -/
def firstBeacon (w : WclInterface) : WclInterface :=
  let bssid := w.joinBSSID
  let w := { w with firstBeaconNotified := true, wclLinkIndicated := true }
  let w := w.post (.linkStatus { bssid, up := true, reason := 255 })
  let w := w.post (.firstBeacon { bssid })
  if w.portAuthorized then w.finishWCLJoin 0 0 .success else w

/-- `IEEE80211_EVT_BEACON` -/
def beaconReceived (beacon : BeaconEvent) (w : WclInterface) : WclInterface :=
  let w :=
    if w.assocNotified && (w.joinPending || w.portAuthorized) &&
        beacon.node.bssid = w.joinBSSID && beaconFrame beacon.frame then w.countBeacon
    else w
  let w :=
    if w.scanPending || w.joinPending || w.ic.state = .scan ||
        (w.portAuthorized && beacon.node.bssid = w.joinBSSID) then
      w.publishWCLBeacon beacon.node
    else w
  if w.joinPending && w.assocNotified && !w.firstBeaconNotified &&
      beacon.node.bssid = w.joinBSSID && w.wclBssValid then w.firstBeacon
  else w

/-- `IEEE80211_EVT_STA_ASSOC_DONE` -/
def associationDone (w : WclInterface) : WclInterface :=
  if w.joinPending && !w.assocNotified then
    let status := w.ic.assocStatus
    let driverStatus := if status ≠ 0 then .error else .success
    let w := { w with assocNotified := status = 0 }.post
      (.assocComplete { status, bssid := w.joinBSSID, driverStatus })
    if status ≠ 0 then w.finishWCLJoin status 0 .error else w
  else w

/-- `IEEE80211_EVT_STA_DEAUTH` -/
def deauthenticated (w : WclInterface) : WclInterface :=
  let reason := w.ic.deauthReason
  let w := w.post (.deauth { reason, bssid := w.ic.bss.getD zeroMac })
  w.finishWCLJoin 1 reason .offline

/-- `IEEE80211_EVT_SCAN_DONE` -/
def scanEnded (w : WclInterface) : WclInterface :=
  if w.scanPending then
    if w.scanSkipCompletion then { w with scanSkipCompletion := false }
    else { w with scanCompleted := true }
  else w

/-- What the receive path delivers, outside the gate. -/
def receive (e : RxEvent) (w : WclInterface) : WclInterface :=
  match e with
  | .changed ic => { w with ic }
  | .link up => w.handleWCLLink up
  | .beacon none => w
  | .beacon (some beacon) => if w.wclStopping then w else w.beaconReceived beacon
  | .scanDone => if w.wclStopping then w else w.scanEnded
  | .assocDone => if w.wclStopping then w else w.associationDone
  | .deauth => if w.wclStopping then w else w.deauthenticated

/-- `ic_newstate`: the events that arrive until it returns. -/
def newState (t : Transition) (w : WclInterface) : WclInterface :=
  t.events.foldl (fun w e => w.receive e) w

def leaveWCLNetwork (t : Transition) (w : WclInterface) : WclInterface :=
  let w := if w.joinPending then w.record .withdrawn else w
  let w := { w with
    joinPending := false
    joinDeferred := false
    deferredJoin := {}
    joinTimer := none
    wclAssociatedBeacons := 0
    wclBssValid := false
    ic := { w.ic with deauthReason := 3 } }
  if w.ic.state = .auth || w.ic.state = .assoc || w.ic.state = .run then w.newState t else w

/-- What net80211 answers to a join. -/
structure JoinAnswers where
  /-- The way out of the present network. -/
  leave : Transition := {}
  security : SecurityAnswers := {}
  /-- The way to the scan that looks for the network. -/
  scan : Transition := {}
deriving DecidableEq, Repr

/-- A request that has to wait until the MAC address is in place. -/
def defers (join : JoinRequest) (w : WclInterface) : Bool :=
  classifyLegacyAuth join ≠ .invalid && !w.joinPending && w.ic.macReconfig && w.ic.up

/-- The end of `startWCLJoin`, with the credentials installed: look for the network. -/
def scanForJoin (origin : Origin) (join : JoinRequest) (t : Transition) (w : WclInterface) :
    IOReturn × WclInterface :=
  let w := { w with
    started := some join
    joinBSSID := join.bssid
    wclBssValid := false
    joinPending := true
    assocNotified := false
    firstBeaconNotified := false
    portAuthorized := false
    wclAssociatedBeacons := 0
    joinTimer := some 30000 }.record (.pending origin join.bssid)
  if w.ic.state ≠ .scan then
    let w := w.newState t
    if t.error ≠ 0 then
      (.error, { w with joinPending := false, joinTimer := none }.record (.refused origin))
    else (.success, w)
  else (.success, w)

def startWCLJoin (origin : Origin) (join : JoinRequest) (a : JoinAnswers) (w : WclInterface) :
    IOReturn × WclInterface :=
  let auth := classifyLegacyAuth join
  if w.defers join then
    (.success, { w with
      deferredJoin := join
      joinBSSID := join.bssid
      joinDeferred := true
      joinPending := true
      joinTimer := some 30000 }.record (.pending origin join.bssid))
  else if auth = .invalid then (.unsupported, w)
  else if !w.ic.running || w.joinPending || w.scanPending then (.busy, w)
  else
    let w :=
      if w.ic.state = .run || w.ic.state = .auth || w.ic.state = .assoc then
        w.leaveWCLNetwork a.leave
      else w
    match installSecurity auth join a.security with
    | .success => w.scanForJoin origin join a.scan
    | status => (status, w)

def resumeWCLJoin (a : JoinAnswers) (w : WclInterface) : WclInterface :=
  if !w.joinDeferred || w.wclStopping then w
  else
    let join := w.deferredJoin
    let w := { w with
      deferredJoin := {}, joinDeferred := false, joinPending := false, joinTimer := none }
    let (status, w) := w.startWCLJoin .resume join a
    if status ≠ .success then { w with joinPending := true }.finishWCLJoin 1 0 status else w

/-- `IEEE80211_EVT_DRIVER_READY` and `IEEE80211_EVT_DRIVER_STOPPED` -/
def driverChanged (ready : Bool) (a : JoinAnswers) (w : WclInterface) : WclInterface :=
  let w :=
    if !ready then
      let w := w.finishWCLScan (if w.ic.macReconfig then .aborted else .offline)
      { w.finishWCLJoin 1 0 .offline with portAuthorized := false }
    else w
  let (_, macReconfig) := consumeMacReconfiguration w.ic.macReconfig ready
  let w := { w with ic := { w.ic with macReconfig } }
  -- an address change and a reset of the adapter differ only in what else is announced
  if ready then w.resumeWCLJoin a else w

def wclJoinTimeout (t : Transition) (w : WclInterface) : WclInterface :=
  (w.finishWCLJoin 1 1004 .timeout).leaveWCLNetwork t

/-- What a scan request finds. -/
structure ScanAnswers where
  /-- Whether the request selects a channel that is in use here. -/
  usable : Bool := true
  /-- Whether the wait for the scan under way must not count for the new one. -/
  skipCompletion : Bool := false
  bgscanStart : Bool := true
  /-- `IEEE80211_F_BGSCAN` after `ieee80211_begin_cache_bgscan`. -/
  bgscanBegun : Bool := true
  scan : Transition := {}
deriving DecidableEq, Repr

def beginWCLScan (a : ScanAnswers) (w : WclInterface) : IOReturn × WclInterface :=
  if !w.ic.running then (.notReady, w)
  else if w.scanPending || w.joinPending || w.ic.bgscan then (.busy, w)
  else if w.ic.state = .auth || w.ic.state = .assoc then (.busy, w)
  else if !a.usable then (.unsupported, w)
  else
    let w := { w with
      scanPending := true
      scanCompleted := false
      scanSkipCompletion := w.ic.state = .scan && a.skipCompletion }
    if w.ic.state = .run then
      if !a.bgscanStart then (.success, { w with scanCompleted := true }.finishWCLScan .success)
      else if !a.bgscanBegun then (.busy, { w with scanPending := false })
      else (.success, { w with ic := { w.ic with bgscan := true } })
    else if w.ic.state ≠ .scan then
      let w := w.newState a.scan
      if a.scan.error ≠ 0 then (.error, { w with scanPending := false }) else (.success, w)
    else (.success, w)

def stopWCL (w : WclInterface) : WclInterface :=
  let w := if w.joinPending then w.record .withdrawn else w
  { w with
    wclStopping := true
    joinTimer := none
    wclJoinMessageTimer := false
    wclJoinMessages := w.wclJoinMessages.clear
    scanPending := false
    joinPending := false
    joinDeferred := false
    deferredJoin := {} }

end WclInterface

/-- What can happen to the interface. -/
inductive WclCall where
  | received (e : RxEvent)
  | driver (ready : Bool) (a : WclInterface.JoinAnswers)
  | join (request : JoinRequest) (a : WclInterface.JoinAnswers)
  | leave (t : Transition)
  | abort (t : Transition)
  | timeout (t : Transition)
  | scan (a : WclInterface.ScanAnswers)
  | scanAbort
  | scanTimer
  | drain
  | stop
deriving DecidableEq, Repr

namespace WclInterface

/-- One call. Commands and timers do nothing once the interface stops. -/
def step (w : WclInterface) : WclCall → WclInterface
  | .received e => w.receive e
  | .drain => w.drainWCLJoinMessages
  | .scanTimer => w.completeWCLScan
  | .stop => w.stopWCL
  | .driver ready a => if w.wclStopping then w else w.driverChanged ready a
  | .join request a => if w.wclStopping then w else (w.startWCLJoin .request request a).2
  | .leave t | .abort t => if w.wclStopping then w else w.leaveWCLNetwork t
  | .timeout t => if w.wclStopping then w else w.wclJoinTimeout t
  | .scan a => if w.wclStopping then w else (w.beginWCLScan a).2
  | .scanAbort => if w.wclStopping then w else w.finishWCLScan .aborted

end WclInterface

/-- The states of the interface in runs in which every call was admitted in the state before
it. -/
inductive WclRun (admitted : WclInterface → WclCall → Prop) : WclInterface → Prop where
  | start : WclRun admitted {}
  | call {w : WclInterface} (c : WclCall) : WclRun admitted w → admitted w c →
      WclRun admitted (w.step c)

/-- What holds at the start and is kept by every admitted call holds in every run. -/
theorem WclRun.invariant {admitted : WclInterface → WclCall → Prop} {P : WclInterface → Prop}
    (hstart : P {}) (hcall : ∀ w c, P w → admitted w c → P (w.step c)) {w : WclInterface}
    (h : WclRun admitted w) : P w := by
  induction h with
  | start => exact hstart
  | call c _ hadmitted ih => exact hcall _ c ih hadmitted

/-- Calls that are each admitted in the state before them. -/
def Admitted (admitted : WclInterface → WclCall → Prop) : WclInterface → List WclCall → Prop
  | _, [] => True
  | w, c :: rest => admitted w c ∧ Admitted admitted (w.step c) rest

theorem WclRun.calls {admitted : WclInterface → WclCall → Prop} {w : WclInterface}
    (h : WclRun admitted w) (calls : List WclCall) (hcalls : Admitted admitted w calls) :
    WclRun admitted (calls.foldl WclInterface.step w) := by
  induction calls generalizing w with
  | nil => exact h
  | cons c rest ih => exact ih (.call c h hcalls.1) hcalls.2

lemma admitted_true (w : WclInterface) (calls : List WclCall) :
    Admitted (fun _ _ => True) w calls := by
  induction calls generalizing w with
  | nil => trivial
  | cons c rest ih => exact ⟨trivial, ih _⟩

end AirportAwdl.Wcl
