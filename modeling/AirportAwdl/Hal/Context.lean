import AirportAwdl.Lib.Program
import AirportAwdl.Lib.Trace
import AirportAwdl.Sync

/-!
# The hardware bridge

`Rtw89LinuxContext` connects the native side to the driver: the gate of the primary traffic, the
AWDL interface with its remain-on-channel (ROC) state, and the pool of AWDL stations. What the
driver and the hardware answer is given by a `Driver` on any state `D`.

`log` is no part of the source. It holds every answer of the driver and every step of the gate, the
station registry and the station memory, in their order; where the radio is, or how far a station
has been taken, is read off it.
-/

namespace AirportAwdl.Hal

/-- Results of the driver are zero or minus an error number. -/
abbrev Errno := ℤ

def enomem : Errno := 12
def ebusy : Errno := 16
def enodev : Errno := 19
def einval : Errno := 22
def enospc : Errno := 28
def enolink : Errno := 67
def eopnotsupp : Errno := 95
def etimedout : Errno := 110

lemma ebusy_ne_zero : -ebusy ≠ 0 := by decide
lemma einval_ne_zero : -einval ≠ 0 := by decide
lemma enolink_ne_zero : -enolink ≠ 0 := by decide
lemma enospc_ne_zero : -enospc ≠ 0 := by decide

inductive Band where
  | ghz2 | ghz5 | ghz6
deriving DecidableEq, Repr

structure Ieee80211Channel where
  band : Band := .ghz2
  centerFreq : ℕ := 0
  flags : UInt32 := 0
deriving DecidableEq, Repr

/-- `DISABLED`, `NO_IR`, `RADAR` or `NO_OFDM`. -/
def Ieee80211Channel.barred (c : Ieee80211Channel) : Bool :=
  c.flags &&& (0x1 ||| 0x2 ||| 0x80 ||| 0x40) != 0

/-- `ieee80211_sta_state`, as the number that the pool stores: `NOTEXIST`, `NONE`, `AUTH`, `ASSOC`,
`AUTHORIZED`. -/
abbrev StaState := ℕ

def staNotexist : StaState := 0
def staNone : StaState := 1
def staAuthorized : StaState := 4

/-- The chip's MAC-ID namespace. -/
structure ChipInfo where
  supportMacidNum : ℕ
  supportMlo : Bool
  supportLinkNum : ℕ
deriving DecidableEq, Repr

/-- Stations of the AWDL pool are numbered in the order of their allocation. -/
abbrev Station := ℕ

inductive DriverOp where
  /-- `drained` of the gate: no primary producer is inside. -/
  | txGateDrained
  | supportedChannels (band : Band)
  /-- `rtwdev->scanning` -/
  | scanning
  /-- Another interface has a ROC. -/
  | otherRoc
  /-- The link id of `rtw89_get_designated_link`. -/
  | designatedLink
  /-- `links[link_id]` is there. -/
  | link (linkId : ℕ)
  /-- `rtw89_roc_station_ps` -/
  | stationPs (ps : Bool)
  /-- `rtw89_set_channel` with the ROC channel, or with none. -/
  | setChannel (channel : Option Ieee80211Channel)
  /-- The MAC generation has `is_txq_empty`. -/
  | canQueryTxq
  | pciTxDrain
  /-- The power is on and the device runs. -/
  | running
  | txqEmpty
  | staState (sta : Station) (old next : StaState)
  /-- Some link of the driver's station is there. -/
  | staLinks (sta : Station)
  | chip
  /-- `IOMallocZero`, of a size that does not overflow. -/
  | allocate
  /-- `addLinuxInterface` and `openReceiver`, past the checks of their arguments. -/
  | addInterface (mac : Mac)
deriving DecidableEq, Repr

@[reducible] def DriverOp.Result : DriverOp → Type
  | .supportedChannels _ => Option (List Ieee80211Channel)
  | .designatedLink => Option ℕ
  | .chip => ChipInfo
  | .stationPs _ | .setChannel _ | .pciTxDrain | .staState .. => Errno
  | _ => Bool

/-- Answers of the driver. -/
abbrev Driver (D : Type) := (op : DriverOp) → D → op.Result × D

/-- `rtw89_roc_state` -/
inductive RocState where
  | idle | normal | mgmt
deriving DecidableEq, Repr

/-- `rtw89_roc` -/
structure Roc where
  chan : Ieee80211Channel := {}
  state : RocState := .idle
  duration : ℕ := 0
  linkId : ℕ := 0
  manual : Bool := false
  onChannel : Bool := false
  announced : Bool := false
deriving DecidableEq, Repr

/-- The AWDL interface: `ieee80211_vif` with the driver's `rtw89_vif`. -/
structure AwdlVif where
  addr : Mac
  /-- `type` is `ADHOC`. -/
  adhoc : Bool := true
  noBeacon : Bool := true
  roc : Roc := {}
deriving DecidableEq, Repr

structure InterfaceState where
  vif : Option AwdlVif := none
  hardwareAdded : Bool := false
  registered : Bool := false
deriving DecidableEq, Repr

/-- `Rtw89AwdlPeerPool::Entry` -/
structure PoolEntry where
  station : Option Station := none
  address : Mac := zeroMac
  state : StaState := staNotexist
  registered : Bool := false
  retiring : Bool := false
deriving DecidableEq, Repr

/-- Whose interface or station a registry entry is. -/
inductive Holder where
  | awdl (sta : Station)
  | other (id : ℕ)
deriving DecidableEq, Repr

def Holder.isAwdl : Holder → Bool
  | .awdl _ => true
  | .other _ => false

/-- An entry of `g_registry_peers`. -/
structure RegistryPeer where
  holder : Holder
  addr : Mac
deriving DecidableEq, Repr

/-- The registry of interfaces and stations. -/
structure Registry where
  /-- The AWDL interface is in `g_registry_vifs`. -/
  awdlVif : Bool := false
  peers : Fin 32 → Option RegistryPeer := fun _ => none
deriving DecidableEq

inductive HalEvent where
  | driver (op : DriverOp) (answer : op.Result)
  | pause
  | resume
  | txResume
  /-- `rtw89_macos_awdl_tx_drain` returned. -/
  | txDrain (result : Errno)
  | register (sta : Station)
  | unregister (sta : Station)
  | free (sta : Station)

/-- `Rtw89LinuxContext` -/
structure Context (D : Type) where
  driver : D
  started : Bool := false
  interfaceAdded : Bool := false
  scanning : Bool := false
  awdlRecovery : Bool := false
  /-- `stationState` of the primary station, if there is one. -/
  station : Option StaState := none
  /-- The address of the primary interface. -/
  vif : Option Mac := none
  awdlInterface : InterfaceState := {}
  /-- `awdlTxGate.paused` -/
  paused : Bool := false
  /-- A `txResume` callback is set. -/
  txResume : Bool := false
  /-- `awdlPeers` is allocated. -/
  awdlPeers : Bool := false
  entries : Fin 16 → PoolEntry := fun _ => {}
  registry : Registry := {}
  /-- Stations allocated so far. -/
  stations : ℕ := 0
  log : List HalEvent := []

section
variable {D : Type}

def note (e : HalEvent) : StateM (Context D) Unit :=
  modify fun c => { c with log := c.log ++ [e] }

/-- The context after the driver was asked. -/
def Context.asked (c : Context D) (driver : Driver D) (op : DriverOp) : Context D :=
  { c with
    driver := (driver op c.driver).2
    log := c.log ++ [.driver op (driver op c.driver).1] }

def ask (driver : Driver D) (op : DriverOp) : StateM (Context D) op.Result := fun c =>
  ((driver op c.driver).1, c.asked driver op)

open StateProgram in
lemma wp_ask {driver : Driver D} {op : DriverOp} {c : Context D}
    {Q : op.Result → Context D → Prop} :
    wp (ask driver op) Q c ↔ Q (driver op c.driver).1 (c.asked driver op) := Iff.rfl

/-- The gate is opened and the native owner gets its signal. -/
def Context.opened (c : Context D) : Context D :=
  { c with
    paused := false
    log := c.log ++ .resume :: if c.txResume then [.txResume] else [] }

/-- `resume` of the gate with the `txResume` that follows it. -/
def gateResume : StateM (Context D) Unit := modify Context.opened

/-- `pause` of the gate. -/
def gatePause : StateM (Context D) Bool := do
  if (← get).paused then return false
  modify fun c => { c with paused := true, log := c.log ++ [.pause] }
  return true

/-- The ROC of the AWDL interface. -/
def Context.roc (c : Context D) : Roc := c.awdlInterface.vif.elim {} AwdlVif.roc

def Context.setRoc (c : Context D) (f : Roc → Roc) : Context D :=
  { c with
    awdlInterface := { c.awdlInterface with
      vif := c.awdlInterface.vif.map fun v => { v with roc := f v.roc } } }

def Context.setEntry (c : Context D) (i : Fin 16) (f : PoolEntry → PoolEntry) : Context D :=
  { c with entries := Function.update c.entries i (f (c.entries i)) }

lemma entries_setEntry_self (c : Context D) (i : Fin 16) (f : PoolEntry → PoolEntry) :
    (c.setEntry i f).entries i = f (c.entries i) := Function.update_self ..

lemma entries_setEntry_of_ne (c : Context D) {i j : Fin 16} (h : j ≠ i)
    (f : PoolEntry → PoolEntry) : (c.setEntry i f).entries j = c.entries j :=
  Function.update_of_ne h ..

/-- Assignments to the ROC of the AWDL interface. -/
def assignRoc (f : Roc → Roc) : StateM (Context D) Unit := modify fun c => c.setRoc f

/-- Assignments to an entry of the pool. -/
def assignEntry (i : Fin 16) (f : PoolEntry → PoolEntry) : StateM (Context D) Unit :=
  modify fun c => c.setEntry i f

lemma roc_setRoc {c : Context D} (h : c.awdlInterface.vif.isSome) (f : Roc → Roc) :
    (c.setRoc f).roc = f c.roc := by
  obtain ⟨v, hv⟩ := Option.isSome_iff_exists.mp h
  simp [Context.roc, Context.setRoc, hv]

lemma isSome_of_roc {c : Context D} (h : c.roc.state ≠ .idle) : c.awdlInterface.vif.isSome := by
  cases hv : c.awdlInterface.vif with
  | none => simp [Context.roc, hv] at h
  | some v => rfl

end

/-- Where the radio is: on the channel that was programmed last, a ROC channel or home, unless that
failed. -/
def tuned (log : List HalEvent) : Option (Option Ieee80211Channel) :=
  log.foldl (fun radio e =>
    match e with
    | .driver (.setChannel channel) result => if result = 0 then some channel else none
    | _ => radio) none

/-- How far the driver has taken a station. A failed first step that leaves a link behind counts
as a step. -/
def ladder (sta : Station) (log : List HalEvent) : StaState :=
  log.foldl (fun state e =>
    match e with
    | .driver (.staState sta' _ next) result => if sta' = sta ∧ result = 0 then next else state
    | .driver (.staLinks sta') held => if sta' = sta ∧ held then staNone else state
    | _ => state) staNotexist

/-- The station is in the registry. -/
def registeredIn (sta : Station) (log : List HalEvent) : Bool :=
  log.foldl (fun held e =>
    match e with
    | .register sta' => held || sta' == sta
    | .unregister sta' => held && sta' != sta
    | _ => held) false

/-- The gate was paused last. -/
def pausedIn (log : List HalEvent) : Bool :=
  log.foldl (fun paused e =>
    match e with
    | .pause => true
    | .resume => false
    | _ => paused) false

/-- A step of the gate. -/
def HalEvent.isGate : HalEvent → Bool
  | .pause | .resume | .txResume => true
  | _ => false

/-- The station that an event is about. -/
def HalEvent.about : HalEvent → Option Station
  | .driver (.staState sta _ _) _ | .driver (.staLinks sta) _ => some sta
  | .register sta | .unregister sta | .free sta => some sta
  | _ => none

variable {log seg : List HalEvent}

lemma pausedIn_append (h : ∀ e ∈ seg, e.isGate = false) : pausedIn (log ++ seg) = pausedIn log := by
  refine Trace.foldl_append_neutral log fun e he paused => ?_
  have hgate : e.isGate = false := h e he
  cases e <;> first | rfl | simp [HalEvent.isGate] at hgate

lemma ladder_append {sta : Station}
    (h : ∀ e ∈ seg, e.about ≠ some sta) : ladder sta (log ++ seg) = ladder sta log := by
  refine Trace.foldl_append_neutral log fun e he state => ?_
  grind [HalEvent.about]

lemma registeredIn_append {sta : Station}
    (h : ∀ e ∈ seg, e.about ≠ some sta) : registeredIn sta (log ++ seg) = registeredIn sta log := by
  refine Trace.foldl_append_neutral log fun e he held => ?_
  have habout : e.about ≠ some sta := h e he
  cases e <;> first | rfl | simp_all [HalEvent.about]

namespace Registry

/-- `rtw88_add_sta` of an AWDL station. -/
def addSta (r : Registry) (sta : Station) (addr : Mac) : Bool × Registry :=
  if !r.awdlVif then (false, r)
  else
    match (List.finRange 32).findSome? fun i => (r.peers i).filter fun p =>
        p.holder == .awdl sta || p.holder.isAwdl && p.addr == addr with
    | some p => (p.holder == .awdl sta, r)
    | none =>
      match (List.finRange 32).find? fun i => r.peers i = none with
      | some i => (true, { r with peers := Function.update r.peers i (some ⟨.awdl sta, addr⟩) })
      | none => (false, r)

/-- `rtw88_remove_sta` -/
def removeSta (r : Registry) (sta : Station) : Registry :=
  { r with peers := fun i => (r.peers i).filter fun p => p.holder != .awdl sta }

/-- `rtw88_remove_vif` of the AWDL interface. -/
def removeVif (r : Registry) : Registry :=
  { r with
    awdlVif := false
    peers := fun i => (r.peers i).filter fun p => !p.holder.isAwdl }

end Registry

end AirportAwdl.Hal
