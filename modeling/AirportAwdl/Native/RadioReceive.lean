import AirportAwdl.Native.ActionBuffers
import AirportAwdl.Native.Backend
import AirportAwdl.Native.DataReceive

/-!
# The receive path

A frame comes from the hardware's worker to `dispatchReceiver`. What it takes for an AWDL frame is
copied, with 72 bytes of metadata, into a slot of one of two rings; the native workloop takes it
out again and gives it to `observeRadioAction` or, through `receiveRadioData`, to
`DataReceive::deliver`.

Frames are any byte strings, and the surroundings do what they like between the calls and between
the turns of a drain.
No access leaves its buffer (`receive_in_bounds`).
-/

namespace AirportAwdl.Native

open ByteBuffer Election CheckedMemory Scheduler StateProgram

/-- `ReceiveRegistration`; `bound` is whether it has an owner and a handler. -/
structure ReceiveRegistration where
  lock : Bool := true
  bound : Bool := false
  localAddress : Mac := zeroMac
  enabled : Bool := false
deriving DecidableEq, Repr

inductive FrameKind where
  | action | ipv6
deriving DecidableEq, Repr

structure ReceiveMetadata where
  kind : FrameKind
  rssi : Int32
  frequency : UInt16
  radioTimestamp : UInt32
  radioTimestampValid : Bool
deriving DecidableEq

namespace Buffers

/-- `dispatchReceiver`, up to the call of the handler: what that is given besides the frame. -/
def dispatchReceiver (r : ReceiveRegistration) (b : Bytes) (rssi : Int32) (frequency : UInt16)
    (timestamp : UInt32) (timestampValid : Bool) : Checked (Option ReceiveMetadata) := do
  if !r.lock ∨ !r.enabled ∨ b.length < 24 ∨ b.length > DataCodec.maximumAggregateFrame ∨
      !r.bound then return none
  else
    let frame := Span.all b
    let destination ← readMac b frame 4
    let source ← readMac b frame 10
    if (destination.octet 0 &&& 1 = 0 ∧ destination ≠ r.localAddress) ∨ !unicast source ∨
        source = r.localAddress then return none
    else
      let (result, info) ← parseFrame b
      let third ← readMac b frame 16
      if result = .valid ∧ (info.subtype = 0 ∨ info.subtype = 3) ∧ third = bssid then
        return some ⟨.action, rssi, frequency, timestamp, timestampValid⟩
      else
        let single ← inspect b
        let (aggregate, _) ← inspectAggregate b none DataCodec.maximumSubframes
        if single.isSome ∨ aggregate then
          return some ⟨.ipv6, rssi, frequency, timestamp, timestampValid⟩
        else return none

end Buffers

/-- `NativeRxMetadata::size` -/
def metadataSize : ℕ := 72

/-- A 32-bit big-endian field. -/
def put32be (v : UInt32) : Bytes := (put32 v).reverse

namespace Buffers

/-- `NativeRxMetadata::build` with a receive time, into the array `out`. -/
def buildMetadata (source : Mac) (channel : Bytes) (rssi : Int32) (wire : UInt32) (out : Bytes) :
    Checked (Bool × Bytes) := do
  if out.length ≠ metadataSize ∨ channel.length ≠ 12 ∨ rssi < -127 ∨ rssi ≥ 0 ∨ !unicast source then
    return (false, out)
  else
    let out ← storeList out 0 (List.replicate metadataSize 0)
    let out ← storeList out 0 source.toList
    let out ← storeList out 12 channel
    let out ← storeList out 44 (put32 rssi.toUInt32)
    let out ← storeList out 48 (put32be wire)
    return (true, out)

end Buffers

/-- `ActionSlot` or `DataSlot`, with room for `n` bytes. -/
structure FrameSlot (n : ℕ) where
  length : UInt16 := 0
  metadata : Bytes := List.replicate metadataSize 0
  bytes : Bytes := List.replicate n 0
  length_metadata : metadata.length = metadataSize := by exact List.length_replicate
  length_bytes : bytes.length = n := by exact List.length_replicate
  fits : length.toNat ≤ n := by exact Nat.zero_le _

namespace FrameSlot
variable {n : ℕ}

/-- A frame and its metadata are copied into the slot. -/
def copy (slot : FrameSlot n) (frame metadata : Bytes) : Checked (FrameSlot n) := do
  let bytes ← storeList slot.bytes 0 frame
  let metadata ← storeList slot.metadata 0 metadata
  let length := UInt16.ofNat frame.length
  if h : metadata.length = metadataSize ∧ bytes.length = n ∧ length.toNat ≤ n then
    return ⟨length, metadata, bytes, h.1, h.2.1, h.2.2⟩
  else throw .write

/-- The frame in the slot. -/
def frame (slot : FrameSlot n) : Checked Bytes :=
  (Span.all slot.bytes).readSlice slot.bytes 0 slot.length.toNat

end FrameSlot

def actionCapacity : ℕ := 16

/-- A ring of slots with its indices. -/
structure SlotRing (n : ℕ) where
  slots : List (FrameSlot n) := List.replicate actionCapacity {}
  read : ℕ := 0
  write : ℕ := 0
  count : ℕ := 0
  length_slots : slots.length = actionCapacity := by exact List.length_replicate
  read_lt : read < actionCapacity := by decide
  write_lt : write < actionCapacity := by decide

namespace SlotRing
variable {n : ℕ}

def slot (r : SlotRing n) (i : ℕ) : Checked (FrameSlot n) :=
  match r.slots[i]? with
  | some s => pure s
  | none => throw .read

/-- The slot at `write` is filled. -/
def push (r : SlotRing n) (frame metadata : Bytes) : Checked (SlotRing n) := do
  let slot ← (← r.slot r.write).copy frame metadata
  let slots ← store r.slots r.write slot
  if h : slots.length = actionCapacity then
    return { r with
      slots, length_slots := h, count := r.count + 1
      write := (r.write + 1) % actionCapacity, write_lt := Nat.mod_lt _ (by decide) }
  else throw .write

/-- The slot at `read` is copied to the scratch slot. -/
def pop (r : SlotRing n) (scratch : FrameSlot n) : Checked (Option (FrameSlot n) × SlotRing n) := do
  if r.count = 0 then return (none, r)
  else
    let source ← r.slot r.read
    let scratch ← scratch.copy (← source.frame) source.metadata
    return (some scratch, { r with
      count := r.count - 1
      read := (r.read + 1) % actionCapacity, read_lt := Nat.mod_lt _ (by decide) })

/-- The indices are reset. -/
def clear (r : SlotRing n) : SlotRing n :=
  { r with read := 0, write := 0, count := 0, read_lt := by decide, write_lt := by decide }

end SlotRing

/-- `AirportRTWAwdlDatapath`, the part between the radio and the protocol. -/
structure Datapath where
  enabled : Bool := false
  /-- `rxEnabled_`, with an event source to signal. -/
  rxEnabled : Bool := false
  actionReceiver : Bool := true
  dataReceiver : Bool := true
  action : SlotRing 4120 := {}
  actionScratch : FrameSlot 4120 := {}
  data : SlotRing DataCodec.maximumAggregateFrame := {}
  dataScratch : FrameSlot DataCodec.maximumAggregateFrame := {}

namespace Datapath

def queueAction (d : Datapath) (b metadata : Bytes) : Checked (Bool × Datapath) := do
  if metadata.length ≠ metadataSize ∨ b.length > 4120 then return (false, d)
  else
    let (result, info) ← Buffers.parseFrame b
    if result ≠ .valid ∨ (info.subtype ≠ 0 ∧ info.subtype ≠ 3) then return (false, d)
    else
      let source ← Buffers.readMac b (Span.all b) 10
      let expected ← Buffers.readMac metadata (Span.all metadata) 0
      if source ≠ expected ∨ !unicast source then return (false, d)
      else if d.rxEnabled ∧ d.actionReceiver ∧ d.action.count < actionCapacity then
        let action ← d.action.push (← (Span.all b).readSlice b 0 b.length)
          (← (Span.all metadata).readSlice metadata 0 metadataSize)
        return (true, { d with action })
      else return (false, d)

def queueData (d : Datapath) (b metadata : Bytes) : Checked (Bool × Datapath) := do
  if b.length < 24 ∨ b.length > DataCodec.maximumAggregateFrame ∨
      metadata.length ≠ metadataSize then return (false, d)
  else
    let source ← Buffers.readMac b (Span.all b) 10
    let expected ← Buffers.readMac metadata (Span.all metadata) 0
    let single ← Buffers.inspect b
    let (aggregate, _) ← Buffers.inspectAggregate b none DataCodec.maximumSubframes
    if source ≠ expected ∨ (single.isNone ∧ !aggregate) then return (false, d)
    else if d.rxEnabled ∧ d.dataReceiver ∧ d.data.count < actionCapacity then
      let data ← d.data.push (← (Span.all b).readSlice b 0 b.length)
        (← (Span.all metadata).readSlice metadata 0 metadataSize)
      return (true, { d with data })
    else return (false, d)

/-- The channel at a frequency, zero for an unknown one. -/
def channelNumber (f : UInt16) : UInt8 :=
  if f ≥ 2412 ∧ f ≤ 2472 ∧ (f - 2407) % 5 = 0 then ((f - 2407) / 5).toUInt8
  else if f ≥ 5180 ∧ f ≤ 5885 ∧ f % 5 = 0 then ((f - 5000) / 5).toUInt8
  else 0

/-- `apple80211_channel` -/
def channelDescriptor (number : UInt8) : Bytes :=
  put32 1 ++ put32 number.toUInt32 ++ put32 (0x2 ||| if number ≤ 13 then 0x8 else 0x10)

/-- `AirportRTWAwdlInterface::receiveRadio` with `queueRadioAction` and `queueRadioData`. -/
def receiveRadio (d : Datapath) (b : Bytes) (metadata : ReceiveMetadata) (nowUs : ℕ) :
    Checked Datapath := do
  let number := channelNumber metadata.frequency
  if number = 0 ∨ b.length < 24 then return d
  else
    let source ← Buffers.readMac b (Span.all b) 10
    let (built, out) ← Buffers.buildMetadata source (channelDescriptor number) metadata.rssi
      (UInt32.ofNat nowUs) (List.replicate metadataSize 0)
    if !built then return d
    else if metadata.kind = .action then return (← d.queueAction b out).2
    else return (← d.queueData b out).2

/-- What a turn of `drainActions` takes out. -/
def takeAction (d : Datapath) : Checked (Option (FrameSlot 4120) × Datapath) := do
  if !d.enabled ∨ !d.actionReceiver then return (none, d)
  else
    let (taken, action) ← d.action.pop d.actionScratch
    return (taken, { d with action, actionScratch := taken.getD d.actionScratch })

/-- What a turn of `drainRadioData` takes out. -/
def takeData (d : Datapath) :
    Checked (Option (FrameSlot DataCodec.maximumAggregateFrame) × Datapath) := do
  if !d.enabled ∨ !d.dataReceiver then return (none, d)
  else
    let (taken, data) ← d.data.pop d.dataScratch
    return (taken, { d with data, dataScratch := taken.getD d.dataScratch })

/-- `enableGated`, and `stopGated` for the rings. -/
def setEnabled (d : Datapath) (value : Bool) : Datapath :=
  if value then { d with enabled := true, rxEnabled := true }
  else { d with
    enabled := false, rxEnabled := false, action := d.action.clear, data := d.data.clear }

end Datapath

section
variable {H : Type} (hal : Hal H)

namespace Buffers

/-- `NativeBackend::observeRadioAction`, once the time of reception is known. -/
def observeAt (b : Bytes) (received : ℕ) (w : World (Device H)) : Checked (World (Device H)) := do
  let (slot, state) ← receiveAction b received w.state
  if slot.isNone then return { w with state }
  else
    let advertisement ← parseAdvertisement b
    let peer ← readMac b (Span.all b) 10
    let fields := w.driver.backend
    let sample : Sample :=
      match advertisement with
      | none => {}
      | some advertisement => { advertisement, received, peer, valid := true }
    return { w with
      state
      driver := { w.driver with backend := { fields with
        samples := fields.samples.put fields.sampleSlot sample
        sampleNext := fields.sampleNext + 1 } } }

/-- `NativeBackend::observeRadioAction` -/
def observeRadioAction (b metadata : Bytes) (w : World (Device H)) :
    Checked (World (Device H)) := do
  let info := Span.all metadata
  if !w.driver.backend.active ∨ metadata.length ≠ metadataSize ∨ b.length < 40 then return w
  else
    let source ← readMac b (Span.all b) 10
    let expected ← readMac metadata info 0
    let rssi := (le32 (← info.readSlice metadata 44 4) 0).toInt32
    if source ≠ expected ∨ rssi < w.driver.backend.settings.thresholds.peerRssiThreshold then
      return w
    else
      let clock ← info.readSlice metadata 48 4
      let (now, driver) := NativeBackend.nowUs hal w.driver
      let age := (UInt32.ofNat now - NativeBackend.read32be clock 0).toNat
      if age > 3000000 ∨ now < age then return { w with driver }
      else observeAt b (now - age) { w with driver }

/-- `RuntimeBackend::receiveRadioData`; the peers and the sink are in `host`. -/
def receiveRadioData (host : ReceiveHost (World (Device H))) (b metadata : Bytes)
    (r : Reception (World (Device H))) : Checked (Bool × Reception (World (Device H))) := do
  let info := Span.all metadata
  let device := r.outside.driver
  if !device.dataEnabled ∨ !device.dataInterface ∨ b.length < 24 ∨
      metadata.length ≠ metadataSize then return (false, r)
  else
    let source ← readMac b (Span.all b) 10
    let expected ← readMac metadata info 0
    let clock ← info.readSlice metadata 48 4
    if source ≠ expected then return (false, r)
    else
      let (now, driver) := NativeBackend.nowUs hal device
      let r := { r with outside := { r.outside with driver } }
      let age := (UInt32.ofNat now - NativeBackend.read32be clock 0).toNat
      if age > 3000000 ∨ now < age then return (false, r)
      else
        let (delivered, r) ← DataReceive.deliver host 1 b device.dataAddress (now - age) r
        return (delivered != 0, r)

end Buffers

/-- The registration, the rings and the protocol behind them. -/
structure Radio (H : Type) where
  registration : ReceiveRegistration := {}
  datapath : Datapath := {}
  reception : Reception (World (Device H))
  /-- The interface is enabled and has a control provider. -/
  listening : Bool := false

/-- What may happen at any time. -/
inductive RadioChange (H : Type) where
  | registration (r : ReceiveRegistration)
  | world (w : World (Device H))
  | enable (value : Bool)
  | listen (value : Bool)
  /-- The hardware's worker hands a frame to `dispatchReceiver` at the time `nowUs`. -/
  | frame (bytes : Bytes) (rssi : Int32) (frequency : UInt16) (timestamp : UInt32)
      (timestampValid : Bool) (nowUs : ℕ)

inductive RadioEvent (H : Type) where
  /-- `receiveReady`; `between i` is what happens, in native code or in the hardware's worker, until
  the next turn, with `i` more turns to come. -/
  | ready (between : ℕ → List (RadioChange H))
  | change (c : RadioChange H)

namespace Radio

def change (r : Radio H) : RadioChange H → Checked (Radio H)
  | .registration registration => return { r with registration }
  | .world w => return { r with reception := { r.reception with outside := w } }
  | .enable value => return { r with datapath := r.datapath.setEnabled value }
  | .listen listening => return { r with listening }
  | .frame b rssi frequency timestamp timestampValid nowUs => do
    match ← Buffers.dispatchReceiver r.registration b rssi frequency timestamp timestampValid with
    | none => return r
    | some metadata => return { r with datapath := ← r.datapath.receiveRadio b metadata nowUs }

/-- The loop of `drainActions` and `drainRadioData`, with so many turns left. The lock is held while
a frame is taken out, and no longer. -/
def drain {n : ℕ} (take : Datapath → Checked (Option (FrameSlot n) × Datapath))
    (deliver : Bytes → Bytes → Radio H → Checked (Radio H)) (between : ℕ → List (RadioChange H)) :
    ℕ → Radio H → Checked (Radio H)
  | 0, r => return r
  | turns + 1, r => do
    let (taken, datapath) ← take r.datapath
    match taken with
    | none => return r
    | some scratch =>
      let r ← deliver (← scratch.frame) scratch.metadata { r with datapath }
      drain take deliver between turns (← (between turns).foldlM change r)

def deliverAction (b metadata : Bytes) (r : Radio H) : Checked (Radio H) := do
  if !r.listening then return r
  else
    let outside ← Buffers.observeRadioAction hal b metadata r.reception.outside
    return { r with reception := { r.reception with outside } }

def drainActions (between : ℕ → List (RadioChange H)) : Radio H → Checked (Radio H) :=
  drain Datapath.takeAction (deliverAction hal) between actionCapacity

variable (host : ReceiveHost (World (Device H)))

def deliverData (b metadata : Bytes) (r : Radio H) : Checked (Radio H) := do
  if !r.listening then return r
  else
    let (_, reception) ← Buffers.receiveRadioData hal host b metadata r.reception
    return { r with reception }

def drainRadioData (between : ℕ → List (RadioChange H)) : Radio H → Checked (Radio H) :=
  drain Datapath.takeData (deliverData hal host) between actionCapacity

def step (r : Radio H) : RadioEvent H → Checked (Radio H)
  | .ready between => do
    let r ← r.drainActions hal between
    r.drainRadioData hal host between
  | .change c => r.change c

def run (r : Radio H) (events : List (RadioEvent H)) : Checked (Radio H) :=
  events.foldlM (step hal host) r

end Radio

end

namespace Buffers

variable {b metadata : Bytes}

lemma safe_readMac {s : Span} (h : s.Inside b) {i : ℕ} (hi : i + 6 ≤ s.length) :
    Safe (readMac b s i) fun _ => True :=
  safe_of_eq (readMac_ok h hi)

lemma safe_inspect (b : Bytes) : Safe (inspect b) fun _ => True := by
  obtain ⟨r, hr, -⟩ := inspect_ok b
  exact safe_of_eq hr

lemma safe_validAggregate (b : Bytes) :
    Safe (inspectAggregate b none DataCodec.maximumSubframes) fun _ => True := by
  obtain ⟨hnone, hsome⟩ := inspectAggregate_ok b none DataCodec.maximumSubframes nofun
  cases hviews : DataCodec.inspectAggregate b DataCodec.maximumSubframes with
  | none => exact safe_of_eq (hnone hviews)
  | some vs =>
    obtain ⟨stored, hok, -⟩ := hsome vs hviews
    exact safe_of_eq hok

lemma safe_dispatchReceiver (r : ReceiveRegistration) (b : Bytes) (rssi : Int32)
    (frequency : UInt16) (timestamp : UInt32) (timestampValid : Bool) :
    Safe (dispatchReceiver r b rssi frequency timestamp timestampValid) fun _ => True := by
  have hinside := Span.inside_all b
  have hall : (Span.all b).length = b.length := rfl
  refine safe_ite (fun _ => safe_pure trivial) fun hopen => ?_
  refine (safe_readMac hinside (by omega)).bind fun destination _ => ?_
  refine (safe_readMac hinside (by omega)).bind fun source _ => ?_
  refine safe_ite (fun _ => safe_pure trivial) fun _ => ?_
  refine (safe_of_eq (parseFrame_ok b)).bind fun parsed _ => ?_
  refine (safe_readMac hinside (by omega)).bind fun third _ => ?_
  refine safe_ite (fun _ => safe_pure trivial) fun _ => ?_
  refine (safe_inspect b).bind fun single _ => ?_
  refine (safe_validAggregate b).bind fun aggregate _ => ?_
  exact safe_ite (fun _ => safe_pure trivial) fun _ => safe_pure trivial

lemma safe_storeList {α : Type} {a : List α} {i n : ℕ} (l : List α) (ha : a.length = n)
    (h : i + l.length ≤ n) : Safe (storeList a i l) fun a' => a'.length = n :=
  ⟨overwrite a i l, storeList_ok l (by omega), (length_overwrite l a i).trans ha⟩

lemma safe_buildMetadata (source : Mac) (channel : Bytes) (rssi : Int32) (wire : UInt32)
    {out : Bytes} (hout : out.length = metadataSize) :
    Safe (buildMetadata source channel rssi wire out) fun r => r.2.length = metadataSize := by
  have hsize : metadataSize = 72 := rfl
  refine safe_ite (fun _ => safe_pure hout) fun hgood => ?_
  refine (safe_storeList _ hout (by simp)).bind fun out hout => ?_
  refine (safe_storeList _ hout (by simp [hsize])).bind fun out hout => ?_
  refine (safe_storeList _ hout (by omega)).bind fun out hout => ?_
  refine (safe_storeList _ hout (by simp [hsize])).bind fun out hout => ?_
  refine (safe_storeList _ hout (by simp [put32be, hsize])).bind fun out hout => ?_
  exact safe_pure hout

end Buffers

namespace FrameSlot
variable {n : ℕ}

lemma safe_copy (slot : FrameSlot n) {frame metadata : Bytes} (hframe : frame.length ≤ n)
    (hmetadata : metadata.length = metadataSize) : Safe (slot.copy frame metadata) fun _ => True := by
  refine (Buffers.safe_storeList frame slot.length_bytes (by omega)).bind fun bytes hbytes => ?_
  refine (Buffers.safe_storeList metadata slot.length_metadata (by omega)).bind fun data hdata => ?_
  have hlength : (UInt16.ofNat frame.length).toNat ≤ n := by
    exact (Nat.mod_le _ _).trans hframe
  exact ⟨_, dif_pos ⟨hdata, hbytes, hlength⟩, trivial⟩

lemma safe_frame (slot : FrameSlot n) : Safe slot.frame fun frame => frame.length ≤ n := by
  have hfits : 0 + slot.length.toNat ≤ (Span.all slot.bytes).length := by
    show 0 + slot.length.toNat ≤ slot.bytes.length
    rw [slot.length_bytes, Nat.zero_add]
    exact slot.fits
  refine ⟨_, Span.readSlice_ok (Span.inside_all _) hfits, ?_⟩
  show (slice ((Span.all slot.bytes).view slot.bytes) 0 slot.length.toNat).length ≤ n
  rw [Span.view_all, length_slice hfits]
  exact slot.fits

end FrameSlot

namespace SlotRing
variable {n : ℕ}

lemma safe_slot (r : SlotRing n) {i : ℕ} (hi : i < actionCapacity) :
    Safe (r.slot i) fun _ => True := by
  have hlt : i < r.slots.length := by rwa [r.length_slots]
  refine safe_of_eq (a := r.slots[i]) ?_
  rw [slot, List.getElem?_eq_getElem hlt]
  rfl

lemma safe_push (r : SlotRing n) {frame metadata : Bytes} (hframe : frame.length ≤ n)
    (hmetadata : metadata.length = metadataSize) : Safe (r.push frame metadata) fun _ => True := by
  have hwrite : r.write < r.slots.length := by
    rw [r.length_slots]
    exact r.write_lt
  refine (r.safe_slot r.write_lt).bind fun slot _ => ?_
  refine (slot.safe_copy hframe hmetadata).bind fun slot _ => ?_
  rw [store_ok hwrite, ok_bind]
  have hlength : (r.slots.set r.write slot).length = actionCapacity := by
    rw [List.length_set, r.length_slots]
  exact ⟨_, dif_pos hlength, trivial⟩

lemma safe_pop (r : SlotRing n) (scratch : FrameSlot n) : Safe (r.pop scratch) fun _ => True := by
  refine safe_ite (fun _ => safe_pure trivial) fun _ => ?_
  refine (r.safe_slot r.read_lt).bind fun source _ => ?_
  refine source.safe_frame.bind fun frame hframe => ?_
  refine (scratch.safe_copy hframe source.length_metadata).bind fun scratch _ => ?_
  exact safe_pure trivial

end SlotRing

lemma safe_readAll {b : Bytes} {n : ℕ} (h : b.length = n) :
    Safe ((Span.all b).readSlice b 0 n) fun bytes => bytes.length = n := by
  have hread : 0 + n ≤ (Span.all b).length := by
    rw [Nat.zero_add]
    exact h.ge
  refine ⟨_, Span.readSlice_ok (Span.inside_all b) hread, ?_⟩
  show (slice ((Span.all b).view b) 0 n).length = n
  rw [Span.view_all, length_slice hread]

namespace Datapath

variable {b metadata : Bytes}

lemma safe_queueAction (d : Datapath) (b metadata : Bytes) :
    Safe (d.queueAction b metadata) fun _ => True := by
  have hinside := Span.inside_all b
  refine safe_ite (fun _ => safe_pure trivial) fun hgood => ?_
  rw [not_or, not_not] at hgood
  obtain ⟨hmetadata, hlong⟩ := hgood
  have hinfo : (Span.all metadata).length = 72 := hmetadata
  rw [Buffers.parseFrame_ok, ok_bind]
  generalize hparsed : AirportAwdl.parseFrame b = parsed
  obtain ⟨result, info⟩ := parsed
  refine safe_ite (fun _ => safe_pure trivial) fun hvalid => ?_
  have hresult : result = .valid := by
    by_contra hne
    exact hvalid (.inl hne)
  -- an accepted frame has a complete header
  have hlength : 40 ≤ (Span.all b).length :=
    length_of_parseFrame ((congrArg Prod.fst hparsed).trans hresult)
  refine (Buffers.safe_readMac hinside (by omega)).bind fun source _ => ?_
  refine (Buffers.safe_readMac (Span.inside_all metadata) (by omega)).bind fun expected _ => ?_
  refine safe_ite (fun _ => safe_pure trivial) fun _ => ?_
  refine safe_ite (fun _ => ?_) fun _ => safe_pure trivial
  refine (safe_readAll (b := b) rfl).bind fun frame hframe => ?_
  refine (safe_readAll hmetadata).bind fun info hinfo => ?_
  refine (d.action.safe_push (by omega) hinfo).bind fun action _ => ?_
  exact safe_pure trivial

lemma safe_queueData (d : Datapath) (b metadata : Bytes) :
    Safe (d.queueData b metadata) fun _ => True := by
  have hinside := Span.inside_all b
  have hall : (Span.all b).length = b.length := rfl
  refine safe_ite (fun _ => safe_pure trivial) fun hgood => ?_
  rw [not_or, not_or, not_not] at hgood
  obtain ⟨hshort, hlong, hmetadata⟩ := hgood
  have hinfo : (Span.all metadata).length = 72 := hmetadata
  refine (Buffers.safe_readMac hinside (by omega)).bind fun source _ => ?_
  refine (Buffers.safe_readMac (Span.inside_all metadata) (by omega)).bind fun expected _ => ?_
  refine (Buffers.safe_inspect b).bind fun single _ => ?_
  refine (Buffers.safe_validAggregate b).bind fun aggregate _ => ?_
  refine safe_ite (fun _ => safe_pure trivial) fun _ => ?_
  refine safe_ite (fun _ => ?_) fun _ => safe_pure trivial
  refine (safe_readAll (b := b) rfl).bind fun frame hframe => ?_
  refine (safe_readAll hmetadata).bind fun info hinfo => ?_
  refine (d.data.safe_push (by omega) hinfo).bind fun data _ => ?_
  exact safe_pure trivial

lemma safe_receiveRadio (d : Datapath) (b : Bytes) (metadata : ReceiveMetadata) (nowUs : ℕ) :
    Safe (d.receiveRadio b metadata nowUs) fun _ => True := by
  have hall : (Span.all b).length = b.length := rfl
  refine safe_ite (fun _ => safe_pure trivial) fun hgood => ?_
  refine (Buffers.safe_readMac (Span.inside_all b) (by omega)).bind fun source _ => ?_
  refine (Buffers.safe_buildMetadata source (channelDescriptor (channelNumber metadata.frequency))
    metadata.rssi (UInt32.ofNat nowUs) List.length_replicate).bind fun built _ => ?_
  refine safe_ite (fun _ => safe_pure trivial) fun _ => ?_
  refine safe_ite (fun _ => ?_) fun _ => ?_
  · exact (d.safe_queueAction b built.2).bind fun _ _ => safe_pure trivial
  · exact (d.safe_queueData b built.2).bind fun _ _ => safe_pure trivial

lemma safe_takeAction (d : Datapath) : Safe d.takeAction fun _ => True := by
  refine safe_ite (fun _ => safe_pure trivial) fun _ => ?_
  exact (d.action.safe_pop d.actionScratch).bind fun popped _ => safe_pure trivial

lemma safe_takeData (d : Datapath) : Safe d.takeData fun _ => True := by
  refine safe_ite (fun _ => safe_pure trivial) fun _ => ?_
  exact (d.data.safe_pop d.dataScratch).bind fun popped _ => safe_pure trivial

end Datapath

section
variable {H : Type} (hal : Hal H)

namespace Buffers

lemma observeAt_ok (b : Bytes) (received : ℕ) (w : World (Device H)) :
    observeAt b received w = .ok ((NativeBackend.observeAt b received).run w).2 := by
  show wp (NativeBackend.observeAt b received) (fun _ w' => observeAt b received w = .ok w') w
  unfold observeAt NativeBackend.observeAt
  rw [receiveAction_ok, ok_bind]
  generalize hobserved : w.state.receiveAction b received = observed
  refine wp_bind.mpr (wp_get.mpr (wp_bind.mpr (wp_engineSet.mpr (wp_ite.mpr ⟨fun hnone => ?_,
    fun hsome => ?_⟩))))
  · rw [hobserved] at hnone ⊢
    exact wp_pure.mpr (if_pos hnone)
  · rw [hobserved] at hsome ⊢
    cases hparsed : Election.parseAdvertisement b with
    | none =>
      -- a frame without an advertisement is not observed
      rw [State.receiveAction, hparsed] at hobserved
      grind
    | some advertisement =>
      have hlength : 40 ≤ (Span.all b).length := length_of_parseAdvertisement hparsed
      refine wp_onDevice.mpr (wp_assign.mpr ?_)
      dsimp only
      rw [if_neg hsome, parseAdvertisement_checked, ok_bind,
        readMac_ok (Span.inside_all b) (by omega), ok_bind, hparsed, Span.view_all]
      rfl

lemma read32be_slice (metadata : Bytes) (off : ℕ) :
    NativeBackend.read32be (slice metadata off 4) 0 = NativeBackend.read32be metadata off := by
  grind [NativeBackend.read32be, byteAt_slice]

lemma observeRadioAction_ok (b metadata : Bytes) (w : World (Device H)) :
    observeRadioAction hal b metadata w =
      .ok ((NativeBackend.observeRadioAction hal b metadata).run w).2 := by
  have hinside := Span.inside_all metadata
  show wp (NativeBackend.observeRadioAction hal b metadata)
    (fun _ w' => observeRadioAction hal b metadata w = .ok w') w
  unfold observeRadioAction NativeBackend.observeRadioAction
  refine wp_bind.mpr (NativeBackend.wp_fields.mpr ?_)
  by_cases hignored : (!w.driver.backend.active) = true ∨ metadata.length ≠ metadataSize ∨
      b.length < 40
  · refine wp_ite.mpr ⟨fun _ => wp_pure.mpr (if_pos hignored), fun hnot => absurd ?_ hnot⟩
    rcases hignored with hactive | hmetadata | hshort
    · simp [hactive]
    · simp [show metadata.length ≠ 72 from hmetadata]
    · simp [hshort]
  have hconditions := hignored
  rw [not_or, not_or, not_not] at hconditions
  obtain ⟨hactive, hmetadata, hshort⟩ := hconditions
  have hinfo : (Span.all metadata).length = 72 := hmetadata
  have hframe : (Span.all b).length = b.length := rfl
  rw [if_neg hignored, readMac_ok (Span.inside_all b) (by omega), ok_bind,
    readMac_ok hinside (by omega), ok_bind, Span.readSlice_ok hinside (by omega), ok_bind,
    Span.readSlice_ok hinside (by omega), ok_bind, Span.view_all, Span.view_all,
    le32_slice (by decide), read32be_slice]
  by_cases hsource : macAt b 10 = macAt metadata 0
  case neg =>
    refine wp_ite.mpr ⟨fun _ => wp_pure.mpr (if_pos (.inl hsource)), fun hnot => absurd ?_ hnot⟩
    simp [hsource]
  refine wp_ite.mpr ⟨fun hother => ?_, fun _ => wp_ite.mpr ⟨fun hweak => wp_pure.mpr
    (if_pos (.inr hweak)), fun hstrong => ?_⟩⟩
  · simp [hactive, show metadata.length = 72 from hmetadata, hshort, hsource] at hother
  have hheard : ¬(macAt b 10 ≠ macAt metadata 0 ∨
      (le32 metadata (44 + 0)).toInt32 < w.driver.backend.settings.thresholds.peerRssiThreshold) := by
    grind
  rw [if_neg hheard]
  refine wp_bind.mpr (wp_onDevice.mpr (wp_hal.mpr ?_))
  unfold NativeBackend.receivedAt NativeBackend.nowUs ask
  dsimp only
  generalize (hal .runtimeNowUs w.driver.hal).1 = now
  generalize (UInt32.ofNat now - NativeBackend.read32be metadata 48).toNat = age
  by_cases hold : age > 3000000 ∨ now < age
  · simp only [if_pos hold]
    exact wp_pure.mpr rfl
  · simp only [if_neg hold]
    exact observeAt_ok b (now - age) _

lemma safe_receiveRadioData (host : ReceiveHost (World (Device H))) (b metadata : Bytes)
    {r : Reception (World (Device H))} (hidle : r.engine.busy = false) :
    Safe (receiveRadioData hal host b metadata r) fun a => a.2.engine.busy = false := by
  have hinside := Span.inside_all metadata
  have hframe : (Span.all b).length = b.length := rfl
  refine safe_ite (fun _ => safe_pure hidle) fun hgood => ?_
  rw [not_or, not_or, not_or, not_not] at hgood
  obtain ⟨-, -, hshort, hmetadata⟩ := hgood
  have hinfo : (Span.all metadata).length = 72 := hmetadata
  refine (safe_readMac (Span.inside_all b) (by omega)).bind fun source _ => ?_
  refine (safe_readMac hinside (by omega)).bind fun expected _ => ?_
  refine (safe_of_eq (Span.readSlice_ok hinside (by omega))).bind fun clock _ => ?_
  refine safe_ite (fun _ => safe_pure hidle) fun _ => ?_
  refine safe_ite (fun _ => safe_pure hidle) fun _ => ?_
  refine Safe.bind (DataReceive.safe_deliver host 0 b _ _ ?_) fun result hresult => ?_
  · exact hidle
  · exact safe_pure hresult

end Buffers

namespace Radio

/-- No frame is being delivered. -/
def Idle (r : Radio H) : Prop := r.reception.engine.busy = false

variable {r : Radio H}

/-- What happens around the loops causes no fault. -/
lemma safe_change (h : r.Idle) (c : RadioChange H) : Safe (r.change c) Idle := by
  cases c with
  | registration | world | enable | listen => exact safe_pure h
  | frame b rssi frequency timestamp timestampValid nowUs =>
    refine (Buffers.safe_dispatchReceiver r.registration b rssi frequency timestamp
      timestampValid).bind fun taken _ => ?_
    cases taken with
    | none => exact safe_pure h
    | some metadata =>
      refine (r.datapath.safe_receiveRadio b metadata nowUs).bind fun datapath _ => ?_
      exact safe_pure h

/-- A drain is safe when its turns are, whatever happens between them. -/
lemma safe_drain {n : ℕ} {take : Datapath → Checked (Option (FrameSlot n) × Datapath)}
    {deliver : Bytes → Bytes → Radio H → Checked (Radio H)} (htake : ∀ d, Safe (take d) fun _ => True)
    (hdeliver : ∀ b metadata (r : Radio H), r.Idle → Safe (deliver b metadata r) Idle)
    (between : ℕ → List (RadioChange H)) (turns : ℕ) (h : r.Idle) :
    Safe (r.drain take deliver between turns) Idle := by
  induction turns generalizing r with
  | zero => exact safe_pure h
  | succ turns ih =>
    refine (htake r.datapath).bind fun popped _ => ?_
    obtain ⟨taken, datapath⟩ := popped
    cases taken with
    | none => exact safe_pure h
    | some scratch =>
      refine scratch.safe_frame.bind fun frame _ => ?_
      refine (hdeliver frame scratch.metadata { r with datapath } h).bind fun r' hr' => ?_
      exact (safe_foldlM (fun _ c hr => safe_change hr c) (between turns) hr').bind
        fun r'' hr'' => ih hr''

lemma safe_deliverAction (b metadata : Bytes) (h : r.Idle) :
    Safe (r.deliverAction hal b metadata) Idle := by
  refine safe_ite (fun _ => safe_pure h) fun _ => ?_
  refine (safe_of_eq (Buffers.observeRadioAction_ok hal b metadata r.reception.outside)).bind
    fun outside _ => ?_
  exact safe_pure h

variable (host : ReceiveHost (World (Device H)))

lemma safe_deliverData (b metadata : Bytes) (h : r.Idle) :
    Safe (r.deliverData hal host b metadata) Idle := by
  refine safe_ite (fun _ => safe_pure h) fun _ => ?_
  refine (Buffers.safe_receiveRadioData hal host b metadata h).bind fun result hresult => ?_
  exact safe_pure hresult

/-- An event on an idle radio causes no fault and leaves it idle. -/
lemma safe_step (h : r.Idle) (e : RadioEvent H) : Safe (r.step hal host e) Idle := by
  cases e with
  | ready between =>
    refine (safe_drain Datapath.safe_takeAction (fun b metadata _ => safe_deliverAction hal b metadata)
      between actionCapacity h).bind fun r' hr' => ?_
    exact safe_drain Datapath.safe_takeData
      (fun b metadata _ => safe_deliverData hal host b metadata) between actionCapacity hr'
  | change c => exact safe_change h c

/-- No run of the receive path causes a fault. -/
lemma safe_run (h : r.Idle) (events : List (RadioEvent H)) : Safe (r.run hal host events) Idle :=
  safe_foldlM (fun _ e hr => safe_step hal host hr e) events h

end Radio

/-- The parsers on a buffer: none reads outside of it, each gives what its model on byte lists
gives, and what they point at lies inside. -/
structure InBounds (b : Bytes) : Prop where
  parseFrame : Buffers.parseFrame b = .ok (AirportAwdl.parseFrame b)
  parseAction : ∀ body : Span, body.Inside b →
    Buffers.parseAction b body = .ok (AirportAwdl.parseAction (body.view b))
  next : ∀ c : Buffers.CursorAt, c.bytes.Inside b → ∃ t c', c.next b = .ok (t, c') ∧
    (c.load b).next = (t.map (·.load b), c'.load b) ∧ c'.bytes.Inside b ∧
    ∀ tlv ∈ t, tlv.data.Inside b
  decodeChannelSequence : ∀ p : Span, p.Inside b →
    Buffers.decodeChannelSequence b p = .ok (AirportAwdl.decodeChannelSequence (p.view b))
  decodeSyncAction : ∀ body : Span, body.Inside b →
    Buffers.decodeSyncAction b body = .ok (decodeSyncBody (body.view b))
  parseAdvertisement : Buffers.parseAdvertisement b = .ok (Election.parseAdvertisement b)
  receiveAction : ∀ now (s : State), Buffers.receiveAction b now s = .ok (s.receiveAction b now)
  inspectBody : ∀ (body : Span) qos, body.Inside b → ∃ r, Buffers.inspectBody b body qos = .ok r ∧
    ∀ p ∈ r, p.1.Inside b
  inspect : ∃ v, Buffers.inspect b = .ok v ∧ v.map (ViewAt.load b) = DataCodec.inspect b ∧
    ∀ view ∈ v, view.Inside b
  inspectAggregate : ∀ views capacity, (∀ array ∈ views, capacity ≤ array.length) →
    ∃ answer count stored, Buffers.inspectAggregate b views capacity = .ok (answer, count, stored) ∧
      (answer = true → ∃ found : List ViewAt, found.length = count ∧ (∀ v ∈ found, v.Inside b) ∧
        stored = views.map (overwrite · 0 (found.map some)))
  deliver : ∀ {σ : Type} (host : ReceiveHost σ) local_ now (w : Reception σ),
    w.engine.busy = false → ∃ r, DataReceive.deliver host 1 b local_ now w = .ok r

lemma inBounds (b : Bytes) : InBounds b where
  parseFrame := Buffers.parseFrame_ok b
  parseAction _ h := Buffers.parseAction_ok h
  next c h := by
    obtain ⟨t, c', hnext, hload, hwithin, hdata⟩ := Buffers.next_ok h
    exact ⟨t, c', hnext, hload, hwithin.inside h, fun tlv htlv => (hdata tlv htlv).inside h⟩
  decodeChannelSequence _ h := Buffers.decodeChannelSequence_ok h
  decodeSyncAction _ h := Buffers.decodeSyncAction_ok h
  parseAdvertisement := Buffers.parseAdvertisement_checked b
  receiveAction now s := Buffers.receiveAction_ok b now s
  inspectBody body qos h := by
    obtain ⟨r, hr, hlocated⟩ := Buffers.inspectBody_ok h qos
    exact ⟨r, hr, fun p hp => (hlocated.within p hp).inside h⟩
  inspect := Buffers.inspect_ok b
  inspectAggregate views capacity hroom := by
    obtain ⟨hnone, hsome⟩ := Buffers.inspectAggregate_ok b views capacity hroom
    cases hviews : DataCodec.inspectAggregate b capacity with
    | none => exact ⟨false, 0, views, hnone hviews, nofun⟩
    | some vs =>
      grind
  deliver host local_ now w hidle := by
    obtain ⟨r, hr, -⟩ := DataReceive.safe_deliver host 0 b local_ now hidle
    exact ⟨r, hr⟩

/-- Whatever frames come in, and whatever the surroundings do, no call on the way from the hardware
to the protocol makes an access outside of its buffer, and every call returns. -/
theorem receive_in_bounds (host : ReceiveHost (World (Device H))) (world : World (Device H)) :
    (∀ events, ∃ r, Radio.run hal host { reception := { engine := {}, outside := world } } events =
      .ok r) ∧
    ∀ b, InBounds b := by
  refine ⟨fun events => ?_, inBounds⟩
  obtain ⟨r, hr, -⟩ := Radio.safe_run hal host (r := { reception := { engine := {}, outside := world } })
    rfl events
  exact ⟨r, hr⟩

end

end AirportAwdl.Native
