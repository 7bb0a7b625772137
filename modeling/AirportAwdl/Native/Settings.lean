import AirportAwdl.Election.Wire
import AirportAwdl.Native.Peers

/-!
# Native settings and requests

The payloads of the native control requests, the owned configuration snapshot `Settings`, and
the owned action body `TxTemplate`. A set request carries its typed payload; padding and
reserved bytes are left out.
-/

namespace AirportAwdl.Native

open ByteBuffer

inductive Request where
  | ssid | channel | bssid | state | awdlSyncParams | awdlSyncEnabled
  | awdlExtensionStateMachineParameters | awdlElectionId | awdlElectionMetric
  | awdlSynchronizationChannelSequence | peerCacheMaximumSize | awdlMasterChannel | awdlSyncState
  | awdlElectionRssiThresholds | awdlPresenceMode | awdlElectionParams | awdlDeviceCapabilities
  | awdlSecondaryMasterChannel | awdlAfTxMode | awdlMinRate | awdlEncryptionType
  | awdlTxcalPeriod | awdlDevStats | awdlDfspConfig | awdlCca
  | awdlAfSecondaryPayloadCapabilities | llwParams | awdlBssid | peerCacheControl
  | awdlOobRequest | awdlSyncFrameTemplate | awdlPeerTrafficRegistration | awdlEncryptionKeys
  | awdlOobAutoRequest | awdlAwdlAdvertisers | awdlDfspUcsaConfig | companionSkywalkIfCreate
  | awdlOobSecPayloadRequest | txRate | p2pCoexProtection | psfDwell | awdlConfig
  | awdlRtgPeerStatsConfig
deriving DecidableEq, Repr

def apple80211Version : UInt32 := 1

/-- `apple80211_channel` -/
structure Channel where
  version : UInt32 := 0
  channel : UInt32 := 0
  flags : UInt32 := 0
deriving DecidableEq, Repr

/-- `apple80211_awdl_sync_params` -/
structure SyncParams where
  version : UInt32 := 0
  availabilityWindowLength : UInt32 := 0
  availabilityWindowPeriod : UInt32 := 0
  extensionLength : UInt32 := 0
  synchronizationFramePeriod : UInt32 := 0
  nonElectionMaster : UInt32 := 0
deriving DecidableEq, Repr

/-- `apple80211_awdl_sync_state` -/
structure SyncState where
  version : UInt32 := 0
  state : UInt32 := 0
  master : Mac := zeroMac
  flags : UInt32 := 0
  modeFlags : UInt8 := 0
deriving DecidableEq, Repr

/-- `apple80211_awdl_sync_channel_sequence` -/
structure SyncChannelSequence where
  version : UInt32 := 0
  length : UInt8 := 0
  encoding : UInt8 := 0
  stepCount : UInt8 := 0
  duplicateCount : UInt8 := 0
  fillChannel : UInt8 := 0
  seqs : Vector Channel 32 := Vector.replicate 32 {}
deriving DecidableEq, Repr

/-- `apple80211_awdl_election_rssi_thresholds` -/
structure ElectionRssiThresholds where
  version : UInt32 := 0
  unk1 : UInt32 := 0
  unk2 : UInt32 := 0
  unk3 : UInt32 := 0
  peerRssiThreshold : Int32 := 0
deriving DecidableEq, Repr

/-- `apple80211_awdl_extension_state_machine_parameter` -/
structure ExtensionStateMachineParameter where
  version : UInt32 := 0
  unk1 : UInt32 := 0
  unk2 : UInt32 := 0
  unk3 : UInt32 := 0
  unk4 : UInt32 := 0
deriving DecidableEq, Repr

structure Settings where
  synchronization : SyncParams := {}
  parent : SyncState := {}
  channels : SyncChannelSequence := {}
  thresholds : ElectionRssiThresholds := {}
  extension : ExtensionStateMachineParameter := {}
  presence : UInt32 := 0
  electionId : UInt32 := 0
  metric : UInt32 := 0
  actionMode : UInt32 := 0
  synchronize : Bool := false
deriving DecidableEq, Repr

/-- `apple80211_awdl_oob_request`: `peer` and `bssid` are the bytes at 4 and 22, `kind` the
word at 20; `data` is a null pointer or what it points to. -/
structure OobRequest where
  version : UInt32
  peer : Mac
  unk3 : UInt32
  unk4 : UInt32
  kind : UInt16
  bssid : Mac
  dataLen : UInt16
  data : Option Bytes
deriving DecidableEq, Repr

/-- `apple80211_awdl_election_params` -/
structure ElectionParams where
  version : UInt32 := 0
  electionId : UInt16 := 0
  distance : UInt8 := 0
  master : Mac := zeroMac
  masterMetric : UInt32 := 0
  selfMetric : UInt32 := 0
deriving DecidableEq, Repr

/-- Set requests that only the backend interprets, with their payloads. -/
inductive NativeSet where
  /-- The 44-byte advertiser selection; it has no version. -/
  | advertisers (raw : Bytes)
  | config (version : UInt32)
  | oobRequest (automatic : Bool) (value : OobRequest)
  | electionParams (value : ElectionParams)
  | masterChannel (secondary : Bool) (version number : UInt32)
  | minRate (version : UInt32) (rate : UInt8)
  | bssid (version : UInt32) (bssid : Mac)
  /-- A request that cannot be set. -/
  | other (request : Request) (version : UInt32)
deriving DecidableEq, Repr

/-- A set request with its payload. -/
inductive SetRequest where
  | syncParams (d : SyncParams)
  | syncState (d : SyncState)
  | syncEnabled (version enabled : UInt32)
  | synchronizationChannelSequence (d : SyncChannelSequence)
  | presenceMode (version mode : UInt32)
  | electionId (version electionId : UInt32)
  | electionMetric (version metric : UInt32)
  | afTxMode (version mode : UInt32)
  | extensionStateMachineParameters (d : ExtensionStateMachineParameter)
  | electionRssiThresholds (d : ElectionRssiThresholds)
  | peerCacheControl (version operation : UInt32) (address : Mac)
  | peerTrafficRegistration (d : TrafficRegistration)
  /-- A null or empty template is the empty list. -/
  | syncFrameTemplate (version : UInt32) (payload : Bytes)
  | native (n : NativeSet)
deriving DecidableEq, Repr

/-- The version a set payload starts with; the advertiser selection has none. -/
def NativeSet.version : NativeSet → Option UInt32
  | .advertisers _ => none
  | .config version | .masterChannel _ version _ | .minRate version _ | .bssid version _
  | .other _ version => some version
  | .oobRequest _ value => some value.version
  | .electionParams value => some value.version

@[inherit_doc NativeSet.version]
def SetRequest.version : SetRequest → Option UInt32
  | .syncParams d => some d.version
  | .syncState d => some d.version
  | .synchronizationChannelSequence d => some d.version
  | .extensionStateMachineParameters d => some d.version
  | .electionRssiThresholds d => some d.version
  | .peerTrafficRegistration d => some d.version
  | .syncEnabled version _ | .presenceMode version _ | .electionId version _
  | .electionMetric version _ | .afTxMode version _ | .peerCacheControl version _ _
  | .syncFrameTemplate version _ => some version
  | .native n => n.version

/-- What the backend answers to a get request. -/
inductive NativeReply where
  | deviceCapabilities (maxHops maxPeers maxChannelSequence : UInt32)
  | electionParams (value : ElectionParams)
  | masterChannel (number : UInt32)
  | minRate (rate : UInt8)
  | bssid (bssid : Mac)
deriving DecidableEq, Repr

/-- What a get request writes to its payload. -/
inductive Reply where
  | peerCacheMaximumSize (maxPeers : UInt32)
  | ssid
  | state (state : UInt32)
  | channel (channel : Channel)
  | syncParams (d : SyncParams)
  | syncState (d : SyncState)
  | synchronizationChannelSequence (d : SyncChannelSequence)
  | extensionStateMachineParameters (d : ExtensionStateMachineParameter)
  | electionRssiThresholds (d : ElectionRssiThresholds)
  | syncEnabled (enabled : Bool)
  | presenceMode (mode : UInt32)
  | electionId (electionId : UInt32)
  | electionMetric (metric : UInt32)
  | afTxMode (mode : UInt32)
  | native (r : NativeReply)
deriving DecidableEq, Repr

/-- `TxTemplate`: the bytes in use. -/
structure TxTemplate where
  bytes : Bytes := []
deriving DecidableEq, Repr

namespace TxTemplate

def capacity : ℕ := 4096

/-- Every TLV of the list is complete. -/
def complete (tlvs : Bytes) : Bool :=
  match TlvCursor.forEach (ε := Unit) (fun s _ => .ok s) tlvs.length ⟨tlvs, false⟩ () with
  | .ok (_, c) => !c.malformed
  | .error _ => false

def replaceTlvs (tlvs : Bytes) (version subtype : UInt8) : Option TxTemplate :=
  if tlvs.length > capacity - 16 ∨ version = 0 ∨ (subtype ≠ 0 ∧ subtype ≠ 3) then none
  else if !complete tlvs then none
  else some ⟨[127, 0, 0x17, 0xf2, 8, version, subtype, 0, 0, 0, 0, 0, 0, 0, 0, 0] ++ tlvs⟩

/-- `tlvs` with its `tlvSize`; a null pointer is the empty list. -/
def tlvs (t : TxTemplate) : Bytes := t.bytes.drop 16

end TxTemplate

end AirportAwdl.Native
