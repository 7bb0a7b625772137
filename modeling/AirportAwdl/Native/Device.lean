import AirportAwdl.Lib.BoundedRing
import AirportAwdl.Native.Action
import AirportAwdl.Native.Runtime
import AirportAwdl.Scheduler.Model

/-!
# The native backend's surroundings

`NativeBackend` works on the hardware abstraction layer, a clock and the interface object. All
of them are behind `HalOp`: an operation with its arguments, whose answer and effect are given by
a `Hal` on any state `H`. A `Device` is everything the backend's code can reach besides the
scheduler and the election engine, which are in the `World` around it.

Two fields are no part of the source: `timer`, what is armed in the interface, and `trace`, what
became of the data frames.
-/

namespace AirportAwdl.Native

open ByteBuffer Election Scheduler

/-- `RTWAwdl::RadioState` -/
structure RadioState where
  frequency : UInt16 := 0
  ready : Bool := false
  recoveryRequired : Bool := false
  blockers : UInt32 := 1
deriving DecidableEq, Repr

inductive HalOp where
  | runtimeNowUs
  | awdlHardwareSupport
  | awdlPeerCapacity
  | awdlRadioState
  | addAwdlInterface (mac : Mac)
  /-- A receiver is set, or taken away. -/
  | setAwdlReceiver (receiving : Bool)
  | quiesceAwdlInterface
  | awdlChannelAllowed (frequency : UInt16)
  | prepareAwdlRadio
  | reserveAwdlRadio (frequency : UInt16) (durationMs : ℕ)
  | restoreAwdlRadio
  | transmitAwdlAction (frame : Bytes) (frequency : UInt16)
  | transmitAwdlData (frame : Bytes) (frequency : UInt16) (endUs : ℕ)
  | setAwdlPeer (address : Mac) (present : Bool)
  /-- The interface is an `AirportRTWAwdlInterface`. -/
  | isAwdlInterface (interface : ℕ)
  | armWindowTimer (deadlineUs nowUs : ℕ)
  | cancelWindowTimer
  | postWindowStart (window : ScheduledWindow) (channel : Channel) (wire : UInt32)
  | postWindowEnd (wire : UInt32)
  | canPostPeerCacheCompletion
  | postPeerCacheCompletion (address : Mac) (present : Bool)
  | getHardwareAddress
  | resumeTransmit
  | deliverRuntimeEthernet (bytes : Bytes)
deriving DecidableEq, Repr

@[reducible] def HalOp.Result : HalOp → Type
  | .runtimeNowUs => ℕ
  | .awdlHardwareSupport | .awdlPeerCapacity => UInt32
  | .awdlRadioState => RadioState
  | .reserveAwdlRadio .. => Reservation
  | .setAwdlPeer .. => PeerResult
  | .getHardwareAddress => Option Mac
  | .cancelWindowTimer | .resumeTransmit => Unit
  | _ => Bool

/-- Answers of the hardware, the clock and the interface object. -/
abbrev Hal (H : Type) := (op : HalOp) → H → op.Result × H

/-- `DataSlot`; its length is the length of `bytes`. -/
structure DataSlot where
  queued : ℕ := 0
  bytes : Bytes := []
deriving DecidableEq, Repr

structure OobSlot where
  queued : ℕ := 0
  peer : Mac := zeroMac
  action : TxTemplate := {}
deriving DecidableEq, Repr

/-- `Sample`: an advertisement that was observed. -/
structure Sample where
  advertisement : Advertisement := {}
  received : ℕ := 0
  peer : Mac := zeroMac
  valid : Bool := false
deriving DecidableEq, Repr

def emptyData : BoundedRing DataSlot 64 := .empty {} (by decide)

def emptyOob : BoundedRing OobSlot 4 := .empty {} (by decide)

structure NativeBackend where
  /-- `interface_` is set. -/
  interface : Bool := false
  settings : Settings := {}
  psf : TxTemplate := {}
  mi : TxTemplate := {}
  oob : BoundedRing OobSlot 4 := emptyOob
  miStart : ℕ := 0
  lastMiEaw : UInt16 := 0
  miActive : Bool := false
  miCounterValid : Bool := false
  configured : Bool := false
  samples : Vector Sample 16 := Vector.replicate 16 {}
  sampleNext : ℕ := 0
  data : BoundedRing DataSlot 64 := emptyData
  windowDeadline : ℕ := 0
  pumpDeadline : ℕ := 0
  nextPsf : ℕ := 0
  lastPsfChannel : UInt8 := 0
  owns : Bool := false
  active : Bool := false
  fault : Bool := false
  servicing : Bool := false

/-- Where the next sample is stored. -/
def NativeBackend.sampleSlot (b : NativeBackend) : Fin 16 :=
  ⟨b.sampleNext % 16, Nat.mod_lt _ (by decide)⟩

/-- A timer that was armed at `nowUs`. -/
structure WindowTimer where
  deadlineUs : ℕ
  nowUs : ℕ
deriving DecidableEq, Repr

/-- The calls that clear the transmit queues. -/
inductive ClearCause where
  | disable | close | setAddress
deriving DecidableEq, Repr

/-- What happens to data frames. -/
inductive TransmitEvent where
  /-- `State::init` succeeded: the data sequence starts anew. -/
  | initialized
  | accepted (ethernet : Bytes)
  | cleared (cause : ClearCause)
  | expired (ethernet : Bytes) (queued now : ℕ)
  | unencodable (ethernet : Bytes)
  /-- `canTransmit` was asked for a destination class. -/
  | permitted (group answer : Bool)
  /-- `transmitAwdlData` was called with the frame built from `ethernet`; `authorized` is what the
  peer owner says about its destination. -/
  | submitted (ethernet frame : Bytes) (authorized answer : Bool)
deriving DecidableEq, Repr

/-- The backend with its peer owner, its base class, its client and the hardware. -/
structure Device (H : Type) where
  hal : H
  backend : NativeBackend := {}
  peers : NativePeers := {}
  dataInterface : Bool := false
  dataAddress : Mac := zeroMac
  dataEnabled : Bool := false
  runtime : Runtime := {}
  timer : Option WindowTimer := none
  trace : List TransmitEvent := []

section
variable {H : Type}

/-- A program on the device, with the scheduler and the engine around it. -/
def onDevice {α : Type} (m : StateM (Device H) α) : StateM (World (Device H)) α := fun w =>
  ((m w.driver).1, { w with driver := (m w.driver).2 })

/-- Assignments to the backend's fields. -/
def assign (f : NativeBackend → NativeBackend) : StateM (Device H) Unit :=
  modify fun d => { d with backend := f d.backend }

/-- Assignments to the fields of the engine. -/
def engineSet (f : State → State) : StateM (World (Device H)) Unit :=
  modify fun w => { w with state := f w.state }

def record (e : TransmitEvent) : StateM (Device H) Unit :=
  modify fun d => { d with trace := d.trace ++ [e] }

variable (hal : Hal H)

def ask (op : HalOp) : StateM (Device H) op.Result := fun d =>
  ((hal op d.hal).1, { d with hal := (hal op d.hal).2 })

/-- `armWindowTimer` of the interface; a timer that cannot be set is cancelled. -/
def armWindowTimer (deadlineUs nowUs : ℕ) : StateM (Device H) Bool := do
  let armed ← ask hal (.armWindowTimer deadlineUs nowUs)
  modify fun d => { d with timer := if armed then some ⟨deadlineUs, nowUs⟩ else none }
  pure armed

/-- `cancelWindowTimer` of the interface. -/
def cancelWindowTimer : StateM (Device H) Unit := do
  ask hal .cancelWindowTimer
  modify fun d => { d with timer := none }

open StateProgram

section
variable {α : Type} {hal : Hal H} {w : World (Device H)} {d : Device H}

lemma wp_onDevice {m : StateM (Device H) α} {Q : α → World (Device H) → Prop} :
    wp (onDevice m) Q w ↔ wp m (fun a d => Q a { w with driver := d }) w.driver := Iff.rfl

lemma wp_assign {f : NativeBackend → NativeBackend} {Q : Unit → Device H → Prop} :
    wp (assign f) Q d ↔ Q () { d with backend := f d.backend } := Iff.rfl

lemma wp_engineSet {f : State → State} {Q : Unit → World (Device H) → Prop} :
    wp (engineSet f) Q w ↔ Q () { w with state := f w.state } := Iff.rfl

lemma wp_trace {e : TransmitEvent} {Q : Unit → Device H → Prop} :
    wp (record e) Q d ↔ Q () { d with trace := d.trace ++ [e] } := Iff.rfl

lemma wp_hal {op : HalOp} {Q : op.Result → Device H → Prop} :
    wp (ask hal op) Q d ↔ Q (hal op d.hal).1 { d with hal := (hal op d.hal).2 } := Iff.rfl

end

end

/-! ## A steady radio

Every operation succeeds and the radio is where it was last sent. `pending` is what the native
side does in its next events. -/

structure SteadyRadio (C : Type) where
  clock : ℕ := 10000000
  frequency : UInt16 := 2437
  pending : List (List C) := []

def steadyRadio {C : Type} : Hal (SteadyRadio C)
  | .runtimeNowUs, h => (h.clock, h)
  | .awdlHardwareSupport, h => (0xf, h)
  | .awdlPeerCapacity, h => (8, h)
  | .awdlRadioState, h => ({ frequency := h.frequency, ready := true, blockers := 0 }, h)
  | .reserveAwdlRadio frequency _, h => (.granted, { h with frequency })
  | .restoreAwdlRadio, h => (true, { h with frequency := 2437 })
  | .setAwdlPeer .., h => (.success, h)
  | .getHardwareAddress, h => (some zeroMac, h)
  | .cancelWindowTimer, h | .resumeTransmit, h => ((), h)
  | .addAwdlInterface _, h | .setAwdlReceiver _, h | .quiesceAwdlInterface, h
  | .awdlChannelAllowed _, h | .prepareAwdlRadio, h | .transmitAwdlAction .., h
  | .transmitAwdlData .., h | .isAwdlInterface _, h | .armWindowTimer .., h
  | .postWindowStart .., h | .postWindowEnd _, h | .canPostPeerCacheCompletion, h
  | .postPeerCacheCompletion .., h | .deliverRuntimeEthernet _, h => (true, h)

end AirportAwdl.Native
