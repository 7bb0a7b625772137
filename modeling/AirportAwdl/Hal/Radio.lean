import AirportAwdl.Hal.Context
import AirportAwdl.Scheduler.Model

/-!
# Radio leases

`rtw89LinuxAwdlReserve` pauses the primary traffic, waits for the producers to leave and starts a
manual ROC on the AWDL interface; `rtw89LinuxAwdlRestore` ends it and opens the gate. A start that
fails after the stations were told to wait rolls itself back, and that can fail too.
-/

namespace AirportAwdl.Hal

open StateProgram Scheduler

section
variable {D : Type} (driver : Driver D)

def rtw89RocEnd : StateM (Context D) Errno := do
  let roc := (← get).roc
  if roc.state = .idle then return 0
  if roc.linkId ≥ 15 then return -einval
  if !(← ask driver (.link roc.linkId)) then return -enolink
  let ret ← ask driver (.setChannel none)
  if ret ≠ 0 then return ret
  assignRoc fun r => { r with onChannel := false }
  let ret ← ask driver (.stationPs false)
  if ret ≠ 0 then return ret
  assignRoc fun r => { r with state := .idle, announced := false }
  return 0

/-- `rtw89_roc_start_internal`, after a designated link was found. -/
def rtw89RocStartOn (linkId : ℕ) (manual : Bool) : StateM (Context D) Errno := do
  assignRoc fun r => { r with linkId }
  let ret ← ask driver (.stationPs true)
  if ret ≠ 0 then
    -- The access point may have taken the frame although its answer was lost.
    let _ ← ask driver (.stationPs false)
    assignRoc fun r => { r with state := .idle }
    return ret
  let ret ← ask driver (.setChannel (some (← get).roc.chan))
  if ret ≠ 0 then
    let _ ← rtw89RocEnd driver
    return ret
  assignRoc fun r => { r with onChannel := true, announced := !manual }
  return 0

def rtw89RocStartInternal (manual : Bool) : StateM (Context D) Errno := do
  assignRoc fun r => { r with manual, onChannel := false, announced := false }
  if ← ask driver .otherRoc then
    assignRoc fun r => { r with state := .idle }
    return -ebusy
  match ← ask driver .designatedLink with
  | none =>
    assignRoc fun r => { r with state := .idle }
    return -enolink
  | some linkId => rtw89RocStartOn driver linkId manual

def rtw89AwdlRocStart (vif : AwdlVif) (channel : Ieee80211Channel) (durationMs : ℕ) :
    StateM (Context D) Errno := do
  let scanning ← ask driver .scanning
  if !vif.adhoc ∨ !vif.noBeacon ∨ durationMs = 0 ∨ durationMs > 100 ∨ scanning ∨
      channel.band = .ghz6 ∨
      channel.band = .ghz2 ∧ (channel.centerFreq < 2412 ∨ channel.centerFreq > 2472) ∨
      channel.barred then
    return -einval
  if vif.roc.state ≠ .idle then return -ebusy
  assignRoc fun r => { r with state := .normal, duration := durationMs, chan := channel }
  rtw89RocStartInternal driver true

/-- The loop of `rtw89_macos_awdl_tx_drain`. -/
def awaitTxqEmpty : ℕ → StateM (Context D) Errno
  | 0 => return -etimedout
  | attempts + 1 => do
    if !(← ask driver .running) then return -enodev
    if ← ask driver .txqEmpty then ask driver .pciTxDrain
    else awaitTxqEmpty attempts

/-- The body of `rtw89_macos_awdl_tx_drain`. -/
def drainQueues : StateM (Context D) Errno := do
  if !(← ask driver .canQueryTxq) then return -eopnotsupp
  let ret ← ask driver .pciTxDrain
  if ret ≠ 0 then return ret
  awaitTxqEmpty driver 20

def rtw89MacosAwdlTxDrain : StateM (Context D) Errno := do
  let result ← drainQueues driver
  note (.txDrain result)
  return result

def rtw89MacosAwdlRestore (vif : AwdlVif) : StateM (Context D) Errno := do
  if !vif.adhoc ∨ !vif.noBeacon then return -einval
  if vif.roc.state = .idle then return 0
  if !vif.roc.manual then return -ebusy
  if vif.roc.onChannel then
    let ret ← rtw89MacosAwdlTxDrain driver
    if ret ≠ 0 then return ret
  rtw89RocEnd driver

end

/-- `rtw89_macos_awdl_needs_restore` -/
def Context.needsRestore {D : Type} (c : Context D) : Bool :=
  c.roc.manual && c.roc.state != .idle

section
variable {D : Type} (driver : Driver D)

/-- The inner loop of `awdlFrequencyChannel`. -/
def usableChannel (band : Band) (frequency : ℕ) (c : Ieee80211Channel) : Bool :=
  c.centerFreq == frequency && !c.barred &&
    (band != .ghz2 || (2412 ≤ frequency && frequency ≤ 2472))

def awdlFrequencyChannel (frequency : ℕ) : StateM (Context D) (Option Ieee80211Channel) := do
  let low ← ask driver (.supportedChannels .ghz2)
  match (low.getD []).find? (usableChannel .ghz2 frequency) with
  | some c => return some c
  | none =>
    let high ← ask driver (.supportedChannels .ghz5)
    return (high.getD []).find? (usableChannel .ghz5 frequency)

/-- The drain loop of `rtw89LinuxAwdlReserve`: the producers are gone, or it gave up. -/
def awaitDrained : ℕ → StateM (Context D) Bool
  | 0 => ask driver .txGateDrained
  | wait + 1 => do
    if ← ask driver .txGateDrained then return true
    awaitDrained wait

/-- `rtw89_macos_awdl_reserve`, where the bridge found a channel. -/
def rtw89MacosAwdlReserve (vif : Option AwdlVif) (channel : Option Ieee80211Channel)
    (durationMs : ℕ) : StateM (Context D) Errno :=
  match channel, vif with
  | some channel, some vif => rtw89AwdlRocStart driver vif channel durationMs
  | _, _ => pure (-einval)

/-- The part of `rtw89LinuxAwdlReserve` under the hardware lock: its result and whether a restore is
owed. -/
def startVisit (frequency durationMs : ℕ) : StateM (Context D) (Errno × Bool) := do
  let c ← get
  if c.started ∧ c.interfaceAdded ∧ !c.scanning ∧ !c.awdlRecovery ∧
      c.awdlInterface.hardwareAdded ∧ c.awdlInterface.registered ∧
      (c.station.all fun state => staAuthorized ≤ state) then
    let channel ← awdlFrequencyChannel driver frequency
    let result ← rtw89MacosAwdlReserve driver c.awdlInterface.vif channel durationMs
    return (result, (← get).needsRestore)
  else return (-ebusy, false)

def rtw89LinuxAwdlReserve (frequency durationMs : ℕ) : StateM (Context D) Errno := do
  if !(← gatePause) then return -ebusy
  if !(← awaitDrained driver 100) then
    gateResume
    return -ebusy
  let (result, recovery) ← startVisit driver frequency durationMs
  if result ≠ 0 ∧ !recovery then gateResume
  return result

def rtw89LinuxAwdlReserveRadio (frequency durationMs : ℕ) : StateM (Context D) Reservation := do
  if durationMs = 0 ∨ durationMs > 100 then return .rejected
  let result ← rtw89LinuxAwdlReserve driver frequency durationMs
  if result = 0 then return .granted
  let c ← get
  return if c.awdlRecovery || c.paused then .recoveryRequired else .rejected

def rtw89LinuxAwdlRestore : StateM (Context D) Errno := do
  match (← get).awdlInterface.vif with
  | none => return -einval
  | some vif =>
    let result ← rtw89MacosAwdlRestore driver vif
    if result = 0 then gateResume
    return result

end

end AirportAwdl.Hal
