import AirportAwdl.Election.Elect
import AirportAwdl.Lib.Program

/-!
# The window scheduler

`WindowScheduler` opens the availability windows of the election engine on a shared radio:
it reserves the channel ahead of a window, hands a start event to the native side, hands it
an end event when the window is over and gives the radio back. Everything outside is behind
`WindowDriver`.

* A driver has a state of its own (`D`), which every answer may read and change, so answers
  and clock readings vary freely. Its calls `reserve`, `windowStart` and `windowEnd` work on
  the whole `World`: they run native code that may call back into the scheduler and the
  engine.
* Every interaction with the driver and the engine is noted in `World.log`. The log is no
  part of the source; results about whole runs are statements about it.
-/

namespace AirportAwdl.Scheduler

open AirportAwdl.Election ByteBuffer

/-- `UINT64_MAX`, the bound in the source's overflow checks on host times. -/
def uint64Max : ℕ := 2 ^ 64 - 1

def lateToleranceUs : ℕ := 5 * 1024

def guardUs : ℕ := 2 * 1024

/-- `Election::slots` -/
def slots : ℕ := 16

structure ScheduledWindow where
  startUs : ℕ := 0
  endUs : ℕ := 0
  actualStartUs : ℕ := 0
  counter : UInt16 := 0
  channel : UInt8 := 0
  presence : UInt8 := 0
  role : UInt8 := 0
  parent : Mac := zeroMac
  root : Mac := zeroMac
deriving DecidableEq, Repr

inductive Phase where
  | stopped | idle | preparing | reserved | opening | open | closing | returning | failed
deriving DecidableEq, Repr

/-- Phases in which native code runs inside a scheduler call. -/
def Phase.inHook : Phase → Bool
  | .preparing | .opening | .closing => true
  | _ => false

/-- `WindowDriver::Reservation` -/
inductive Reservation where
  | granted | rejected | recoveryRequired
deriving DecidableEq, Repr

structure WindowScheduler where
  phase : Phase := .stopped
  window : ScheduledWindow := {}
  skip : ScheduledWindow := {}
  maximumVisit : ℕ := 0
  lead : ℕ := 0
  samples : Vector ℕ 8 := Vector.replicate 8 0
  sampleCount : ℕ := 0
  sampleNext : ℕ := 0
  leaseOwned : Bool := false
  stopRequested : Bool := false
  haveSkip : Bool := false
  nativeResetRequired : Bool := false
deriving DecidableEq, Repr

/-- What a run of the scheduler shows to the outside. A call that runs native code has two
entries, one when it is issued and one when it returns. -/
inductive Event where
  | now (time : ℕ)
  | ready (answer : Bool)
  | channelAllowed (channel : UInt8) (answer : Bool)
  | currentChannel (channel : UInt8)
  | wireTime (host : ℕ) (wire : Option UInt32)
  | armTimer (deadline now : ℕ) (armed : Bool)
  | cancelTimer
  | restore (restored : Bool)
  | reserve (channel : UInt8) (durationMs : ℕ)
  | reserved (result : Reservation)
  | windowStart (window : ScheduledWindow) (wire : UInt32)
  | started (handedOff : Bool)
  | windowEnd (window : ScheduledWindow) (wire : UInt32)
  | ended (handedOff : Bool)
  /-- An engine call, by the scheduler or by others, and whether it was accepted. -/
  | engine (op : Op) (now : ℕ) (accepted : Bool)
  /-- `stop` was called. -/
  | stopRequest
  /-- `nativeResetRequired_` was set. -/
  | nativeReset
deriving DecidableEq, Repr

/-- The scheduler, the engine it works on, the driver and the log. -/
structure World (D : Type) where
  sched : WindowScheduler
  state : State
  driver : D
  log : List Event

/-- The integration hooks. `Option` for an out-parameter that is set when the call returns
true. -/
structure WindowDriver (D : Type) where
  nowUs : D → ℕ × D
  /-- A driver may look at the scheduler's phase. -/
  ready : Phase → D → Bool × D
  channelAllowed : UInt8 → D → Bool × D
  currentChannel : D → UInt8 × D
  wireTime : ℕ → D → Option UInt32 × D
  armTimer : ℕ → ℕ → D → Bool × D
  cancelTimer : D → D
  restore : D → Bool × D
  reserve : UInt8 → ℕ → World D → Reservation × World D
  windowStart : ScheduledWindow → UInt32 → World D → Bool × World D
  windowEnd : ScheduledWindow → UInt32 → World D → Bool × World D

variable {D : Type}

/-- A driver call that stays inside the driver. -/
def query {α : Type} (ask : D → α × D) (note : α → Event) : StateM (World D) α := fun w =>
  ((ask w.driver).1,
    { w with driver := (ask w.driver).2, log := w.log ++ [note (ask w.driver).1] })

/-- A driver call that may run native code. -/
def hook {α : Type} (call : World D → α × World D) (issued : Event) (note : α → Event) :
    StateM (World D) α := fun w =>
  let r := call { w with log := w.log ++ [issued] }
  (r.1, { r.2 with log := r.2.log ++ [note r.1] })

/-- An engine call at time `now`. -/
def World.engine (w : World D) (op : Op) (now : ℕ) : World D :=
  { w with
    state := op.apply w.state now
    log := w.log ++ [.engine op now (op.accepted w.state now)] }

def engine (op : Op) (now : ℕ) : StateM (World D) Unit := modify fun w => w.engine op now

/-- Update the scheduler's own fields. -/
def update (f : WindowScheduler → WindowScheduler) : StateM (World D) Unit :=
  modify fun w => { w with sched := f w.sched }

def World.inPhase (w : World D) (p : Phase) : World D :=
  { w with sched := { w.sched with phase := p } }

/-- `phase_=p;` -/
def enter (p : Phase) : StateM (World D) Unit := modify fun w => w.inPhase p

def World.logged (w : World D) (events : List Event) : World D := { w with log := w.log ++ events }

/-- Note a change of the scheduler's flags. -/
def note (e : Event) : StateM (World D) Unit := modify fun w => w.logged [e]

namespace WindowDriver

variable (driver : WindowDriver D)

def askNow : StateM (World D) ℕ := query driver.nowUs .now
def askReady : StateM (World D) Bool := fun w => query (driver.ready w.sched.phase) .ready w
def askAllowed (channel : UInt8) : StateM (World D) Bool :=
  query (driver.channelAllowed channel) (.channelAllowed channel)
def askChannel : StateM (World D) UInt8 := query driver.currentChannel .currentChannel
def askWireTime (host : ℕ) : StateM (World D) (Option UInt32) :=
  query (driver.wireTime host) (.wireTime host)
def callArmTimer (deadline now : ℕ) : StateM (World D) Bool :=
  query (driver.armTimer deadline now) (.armTimer deadline now)
def callCancelTimer : StateM (World D) Unit :=
  query (fun d => ((), driver.cancelTimer d)) fun _ => .cancelTimer
def callRestore : StateM (World D) Bool := query driver.restore .restore
def callReserve (channel : UInt8) (durationMs : ℕ) : StateM (World D) Reservation :=
  hook (driver.reserve channel durationMs) (.reserve channel durationMs) .reserved
def callWindowStart (window : ScheduledWindow) (wire : UInt32) : StateM (World D) Bool :=
  hook (driver.windowStart window wire) (.windowStart window wire) .started
def callWindowEnd (window : ScheduledWindow) (wire : UInt32) : StateM (World D) Bool :=
  hook (driver.windowEnd window wire) (.windowEnd window wire) .ended

end WindowDriver

/-- `currentWindow`: the extended availability window around `now`. -/
def currentWindow (s : State) (now : ℕ) : Option ScheduledWindow :=
  if !s.radioScheduleReady ∨ !validSequence s.sequence ∨ !validPresence s.presence.toNat ∨
      now < s.epoch then none
  else
    let period := s.presence.toNat * awUs
    let remaining := s.untilNext now
    if remaining = 0 ∨ remaining > period ∨ now < period - remaining ∨
        now > uint64Max - remaining then none
    else some {
      startUs := now - (period - remaining)
      endUs := now + remaining
      counter := s.counter now - s.counter now % s.presence.toUInt16
      channel := s.channel now
      presence := s.presence }

def ScheduledWindow.same (a b : ScheduledWindow) : Bool :=
  a.startUs == b.startUs && a.endUs == b.endUs && a.counter == b.counter && a.channel == b.channel

section
variable (driver : WindowDriver D)

/-- The loop of `plan`, with `fuel` iterations left. -/
def planFrom : ℕ → ℕ → StateM (World D) (Option ScheduledWindow)
  | 0, _ => pure none
  | fuel + 1, probe => do
    let w ← get
    match currentWindow w.state probe with
    | none => pure none
    | some window =>
      if ← pure (window.channel != 0) <&&> driver.askAllowed window.channel <&&>
          pure (probe - window.startUs ≤ lateToleranceUs &&
            (!w.sched.haveSkip || !window.same w.sched.skip)) then
        pure (some window)
      else if window.endUs ≤ probe then pure none
      else planFrom fuel window.endUs

/-- `plan`: the first window from the preparation lead on that may be visited. -/
def plan (now : ℕ) : StateM (World D) (Option ScheduledWindow) := do
  let w ← get
  if now > uint64Max - w.sched.lead then pure none
  else planFrom driver (slots + 1) (now + w.sched.lead)

/-- `observeCost`: the lead follows the slowest of the last eight reservations. -/
def observeCost (s : WindowScheduler) (presence : UInt8) (cost : ℕ) : WindowScheduler :=
  let samples := s.samples.set (s.sampleNext % 8) (min cost s.maximumVisit) (by omega)
  let sampleCount := if s.sampleCount < 8 then s.sampleCount + 1 else s.sampleCount
  let highest := (samples.toList.take sampleCount).foldl max 0
  let period := presence.toNat * awUs
  let budget := if period < s.maximumVisit then s.maximumVisit - period else 0
  { s with
    samples := samples
    sampleNext := s.sampleNext + 1
    sampleCount := sampleCount
    lead := if highest ≥ budget ∨ budget - highest < 1000 then budget else highest + 1000 }

def arm (deadline : ℕ) : StateM (World D) Bool := do
  let now ← driver.askNow
  driver.callArmTimer deadline now

def armAfter (now delay : ℕ) : StateM (World D) Bool :=
  if now ≤ uint64Max - delay then arm driver (now + delay) else pure false

/-- `closeWindow`: hand off the end event, if the time of the end is known. -/
def endWindow (window : ScheduledWindow) (now : ℕ) : StateM (World D) Bool :=
  if now < window.actualStartUs then pure false
  else do
    match ← driver.askWireTime (if now < window.endUs then now else window.endUs) with
    | none => pure false
    | some wire => driver.callWindowEnd window wire

/-- `closeWindow`: drop or commit the controls that were held. -/
def freeControls (now : ℕ) : StateM (World D) Unit := do
  engine (.holdClock 0) now
  let w ← get
  if w.sched.stopRequested ∨ w.sched.nativeResetRequired then engine .discardControls now
  else do
    let released ← driver.askNow
    engine .releaseControls released

def closeWindow (now : ℕ) : StateM (World D) Unit := do
  let w ← get
  if w.sched.phase ≠ .open then pure ()
  else
    enter .closing
    if !(← endWindow driver w.sched.window now) then
      update fun s => { s with nativeResetRequired := true }
      note .nativeReset
    freeControls driver now
    enter .reserved

/-- `returnHome`, once the radio is free -/
def settle : StateM (World D) Bool := do
  let w ← get
  if w.sched.nativeResetRequired then
    enter .failed
    pure false
  else if w.sched.stopRequested then
    enter .stopped
    pure true
  else
    enter .idle
    let now ← driver.askNow
    if ← armAfter driver now 1000 then pure true
    else
      update fun s => { s with stopRequested := true, phase := .stopped }
      pure false

def returnHome : StateM (World D) Bool := do
  driver.callCancelTimer
  enter .returning
  let w ← get
  if ← pure w.sched.leaseOwned <&&> (not <$> driver.callRestore) then
    enter .failed
    pure false
  else
    update fun s => { s with leaseOwned := false }
    settle driver

def stop : StateM (World D) Bool := do
  update fun s => { s with stopRequested := true }
  note .stopRequest
  driver.callCancelTimer
  let w ← get
  -- the in-progress dispatch finishes cancellation
  if w.sched.phase.inHook then pure false
  else if w.sched.phase = .stopped then pure true
  else
    if w.sched.phase = .open then
      let now ← driver.askNow
      closeWindow driver now
    returnHome driver

/-- The window as `openWindow` hands it to the native side. -/
def stampWindow (window : ScheduledWindow) (s : State) (now : ℕ) : ScheduledWindow :=
  { window with
    actualStartUs := now
    role := if s.syncRole = 3 then 3 else if s.synchronized || s.nativeClockHoldover then 2 else 1
    parent := s.sync
    root := s.master }

/-- `openWindow`, once the time of the start is fixed. -/
def startWindow (now : ℕ) (wire : UInt32) : StateM (World D) Unit := do
  let w ← get
  let window := stampWindow w.sched.window w.state now
  update fun s => { s with window := window }
  engine .holdControls now
  engine (.holdClock window.endUs) now
  enter .opening
  if ← driver.callWindowStart window wire then
    engine .startTimeline now
    enter .open
    let w ← get
    if w.sched.stopRequested then
      let ended ← driver.askNow
      closeWindow driver ended
      discard <| returnHome driver
    else
      if !(← arm driver window.endUs) then discard <| stop driver
  else
    enter .reserved
    engine (.holdClock 0) now
    let released ← driver.askNow
    engine .releaseControls released
    discard <| returnHome driver

def openWindow (now : ℕ) : StateM (World D) Unit := do
  let w ← get
  let window := w.sched.window
  if ← pure (decide (now ≥ window.endUs)) <||> (not <$> driver.askReady) <||>
      (not <$> driver.askAllowed window.channel) then
    discard <| returnHome driver
  else
    -- the queries may have blocked: the start is stamped with the time after them
    let now ← driver.askNow
    if now < window.startUs ∨ now > window.startUs + lateToleranceUs ∨ now ≥ window.endUs then
      discard <| returnHome driver
    else
      match ← driver.askWireTime now with
      | none => discard <| returnHome driver
      | some wire => startWindow driver now wire

/-- The checks of `start` on its arguments and the engine. -/
def startable (s : State) (maximumVisitUs preparationLeadUs : ℕ) : Bool :=
  maximumVisitUs != 0 && maximumVisitUs ≤ 100000 && preparationLeadUs < maximumVisitUs &&
    validSequence s.sequence && validPresence s.presence.toNat &&
    s.sequence.step.toNat + 1 == s.presence.toNat && unicast s.mac && unicast s.master &&
    s.presence.toNat * awUs ≤ maximumVisitUs - preparationLeadUs

/-- The scheduler's fields after `start` took its arguments. -/
def WindowScheduler.begin (s : WindowScheduler) (maximumVisitUs preparationLeadUs : ℕ) :
    WindowScheduler :=
  { s with
    maximumVisit := maximumVisitUs
    lead := preparationLeadUs
    samples := if preparationLeadUs ≠ 0 then s.samples.set 0 preparationLeadUs else s.samples
    sampleCount := if preparationLeadUs ≠ 0 then 1 else 0
    sampleNext := if preparationLeadUs ≠ 0 then 1 else 0
    stopRequested := false
    phase := .idle }

def start (maximumVisitUs preparationLeadUs : ℕ) : StateM (World D) Bool := do
  let w ← get
  if w.sched.phase ≠ .stopped ∨ w.state.controlsHeld then pure false
  else if ← (not <$> driver.askReady) <||>
      pure (!startable w.state maximumVisitUs preparationLeadUs) then pure false
  else
    let now ← driver.askNow
    if (← driver.askWireTime now).isNone then pure false
    else
      update fun s => s.begin maximumVisitUs preparationLeadUs
      let now ← driver.askNow
      if ← armAfter driver now 1 then pure true
      else
        enter .stopped
        pure false

/-- `if(!arm(..))stop();` -/
def orStop (armed : StateM (World D) Bool) : StateM (World D) Unit := do
  if !(← armed) then discard <| stop driver

/-- Whether a window that is open stays open at `now`. -/
def keepsOpen (window : ScheduledWindow) (now : ℕ) : StateM (World D) Bool :=
  pure (now < window.endUs && now ≥ window.actualStartUs) <&&>
    (Option.isSome <$> driver.askWireTime now) <&&>
    ((· == window.channel) <$> driver.askChannel) <&&> driver.askAllowed window.channel <&&>
    ((fun t => decide (t < window.endUs)) <$> driver.askNow)

/-- Whether a reservation at `now` is no longer for the engine's window. -/
def misses (window : ScheduledWindow) (s : State) (now : ℕ) : StateM (World D) Bool :=
  pure (!((currentWindow s (if now < window.startUs then window.startUs else now)).any
      (·.same window))) <||>
    (not <$> driver.askAllowed window.channel) <||>
    ((· != window.channel) <$> driver.askChannel) <||>
    pure (decide (now > window.startUs + lateToleranceUs))

/-- `service` in phase `Reserved` -/
def serviceReserved (now : ℕ) : StateM (World D) Unit := do
  let w ← get
  if ← misses driver w.sched.window w.state now then discard <| returnHome driver
  else if now < w.sched.window.startUs then orStop driver (arm driver w.sched.window.startUs)
  else openWindow driver now

/-- `service` after the driver granted the radio or asked for a recovery -/
def serviceGranted (result : Reservation) (now completed : ℕ) : StateM (World D) Unit := do
  update fun s => { s with leaseOwned := true, phase := .reserved }
  let w ← get
  let window := w.sched.window
  if ← pure (result != .granted || w.sched.stopRequested || decide (completed < now) ||
        decide (completed ≥ window.endUs) ||
        decide (completed > window.startUs + lateToleranceUs)) <||>
      ((· != window.channel) <$> driver.askChannel) then
    discard <| returnHome driver
  else if completed < window.startUs then orStop driver (arm driver window.startUs)
  else openWindow driver completed

/-- `service` after `reserve` returned -/
def serviceReturned (result : Reservation) (now : ℕ) : StateM (World D) Unit := do
  let completed ← driver.askNow
  let w ← get
  let cost := if completed ≥ now then completed - now else w.sched.maximumVisit
  update fun s => observeCost s w.state.presence cost
  if result = .rejected then
    driver.callCancelTimer
    enter .idle
    let w ← get
    if w.sched.stopRequested then enter .stopped
    else orStop driver (armAfter driver completed 1000)
  else serviceGranted driver result now completed

/-- `service` from the reservation of a planned window on -/
def serviceVisit (planned : ScheduledWindow) (now : ℕ) : StateM (World D) Unit := do
  update fun s => { s with window := planned, skip := planned, haveSkip := true }
  -- the expiry is armed before a driver call that may be slow
  if !(← arm driver planned.endUs) then discard <| stop driver
  else
    enter .preparing
    let result ← driver.callReserve planned.channel ((planned.endUs - now + 999) / 1000)
    serviceReturned driver result now

/-- `service` in phase `Idle` -/
def serviceIdle (now : ℕ) : StateM (World D) Unit := do
  if (← driver.askWireTime now).isNone then orStop driver (armAfter driver now 5000)
  else
    engine .elect now
    match ← plan driver now with
    | none => orStop driver (armAfter driver now 5000)
    | some planned =>
      let w ← get
      let requestAt := if planned.startUs > w.sched.lead then planned.startUs - w.sched.lead else 0
      if now < requestAt then orStop driver (arm driver requestAt)
      else if planned.endUs ≤ now ∨ planned.endUs - now > w.sched.maximumVisit then
        update fun s => { s with skip := planned, haveSkip := true }
        orStop driver (armAfter driver now 1000)
      else serviceVisit driver planned now

/-- The rest of `service` once an open window was dealt with. -/
def servicePhase (now : ℕ) : StateM (World D) Unit := do
  let w ← get
  if w.sched.phase = .reserved then serviceReserved driver now
  else if w.sched.phase = .idle then serviceIdle driver now
  else pure ()

/-- `service` in phase `Open` -/
def serviceOpen (now : ℕ) : StateM (World D) Unit := do
  let w ← get
  if ← keepsOpen driver w.sched.window now then orStop driver (arm driver w.sched.window.endUs)
  else
    closeWindow driver now
    let home ← returnHome driver
    let w ← get
    if !home || w.sched.phase = .stopped then pure ()
    else
      let now ← driver.askNow
      servicePhase driver now

def service : StateM (World D) Unit := do
  let w ← get
  if w.sched.phase = .stopped ∨ w.sched.phase = .failed ∨ w.sched.phase.inHook ∨
      w.sched.phase = .returning then pure ()
  else
    let now ← driver.askNow
    if ← pure w.sched.stopRequested <||> (not <$> driver.askReady) then discard <| stop driver
    else if w.sched.phase = .open then serviceOpen driver now
    else servicePhase driver now

def recover : StateM (World D) Bool := do
  let w ← get
  if w.sched.phase = .failed ∧ !w.sched.nativeResetRequired then returnHome driver
  else pure false

def canTransmit (now : ℕ) (multicast : Bool) : StateM (World D) Bool := do
  let w ← get
  let window := w.sched.window
  if ← pure (w.sched.phase != .open || w.sched.stopRequested ||
        decide (now < window.actualStartUs) || decide (now - window.actualStartUs < guardUs) ||
        decide (now ≥ window.endUs) || decide (window.endUs - now ≤ guardUs)) <||>
      ((· != window.channel) <$> driver.askChannel) <||> (not <$> driver.askReady) <||>
      (not <$> driver.askAllowed window.channel) then pure false
  else
    -- the queries may have waited: the actual time counts
    let observed ← driver.askNow
    if observed < now ∨ observed < window.actualStartUs ∨
        observed - window.actualStartUs < guardUs ∨ observed ≥ window.endUs ∨
        window.endUs - observed ≤ guardUs then pure false
    else if (← driver.askWireTime observed).isNone then pure false
    else
      let slot := window.counter.toNat / window.presence.toNat % slots
      pure (!multicast || slot == 0 || slot == 10)

end

/-- The scheduler's entry points that change it. -/
inductive Call where
  | start (maximumVisitUs preparationLeadUs : ℕ)
  | service
  | stop
  | recover
deriving DecidableEq, Repr

/-- The world after a call. -/
def Call.run (driver : WindowDriver D) (c : Call) (w : World D) : World D :=
  match c with
  | .start maximumVisitUs preparationLeadUs =>
    ((Scheduler.start driver maximumVisitUs preparationLeadUs).run w).2
  | .service => ((Scheduler.service driver).run w).2
  | .stop => ((Scheduler.stop driver).run w).2
  | .recover => ((Scheduler.recover driver).run w).2

/-- Engine calls that the native side makes: frames, elections, control setters. -/
def external (op : Op) : Bool :=
  match op with
  | .receiveAction .. | .elect | .setSyncRole .. | .setPresence .. | .setSequence ..
  | .setSocialChannel .. | .selectNativeParent .. | .clearNativeParent | .nextFrame => true
  | _ => false

/-- One thing native code may do: call the scheduler or the engine, or change the driver. -/
inductive Native (driver : WindowDriver D) : World D → World D → Prop
  | call {w : World D} (c : Call) : Native driver w (c.run driver w)
  | engine {w : World D} {op : Op} (hop : external op) (now : ℕ) :
      Native driver w (w.engine op now)
  | environment {w : World D} (d : D) : Native driver w { w with driver := d }

/-- The driver's hooks do nothing but what native code may do, any number of times. -/
structure WindowDriver.Reentrant (driver : WindowDriver D) : Prop where
  reserve : ∀ channel durationMs w, w.sched.phase = .preparing →
    Relation.ReflTransGen (Native driver) w (driver.reserve channel durationMs w).2
  windowStart : ∀ window wire w, w.sched.phase = .opening →
    Relation.ReflTransGen (Native driver) w (driver.windowStart window wire w).2
  windowEnd : ∀ window wire w, w.sched.phase = .closing →
    Relation.ReflTransGen (Native driver) w (driver.windowEnd window wire w).2

/-- A scheduler that was just constructed, over the engine `s` and the driver `d`. -/
def World.fresh (s : State) (d : D) : World D := ⟨{}, s, d, []⟩

/-- The worlds between the outermost calls of a run. -/
inductive Run (driver : WindowDriver D) (s : State) : World D → Prop
  | fresh (d : D) : Run driver s (World.fresh s d)
  | step {w w' : World D} (h : Run driver s w) (hstep : Native driver w w') : Run driver s w'

end AirportAwdl.Scheduler
