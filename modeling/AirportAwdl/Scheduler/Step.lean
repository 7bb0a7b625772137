import AirportAwdl.Scheduler.Model
import Mathlib.Logic.Relation

/-!
# What a scheduler call can do

The scheduler as a transition system. `Step` lists the moves between two points where native
code may run; each says under which circumstances it is made and what it leaves in the log.
Every entry point is a path of such moves (`service_spec` and its companions), so a property
that every move keeps holds in every run.

The system has one parameter, `R`: what may happen while native code runs inside a hook. A
driver is `Hooked` to `R` when its hooks do nothing else.
-/

namespace AirportAwdl.Scheduler

open AirportAwdl.Election StateProgram
open Relation (ReflTransGen)

variable {D : Type} {driver : WindowDriver D} {R : World D → World D → Prop} {w w' : World D}

/-- `window` is a window of the engine's schedule, as seen at most `lateToleranceUs` after
its start. -/
def Agrees (s : State) (window : ScheduledWindow) : Prop :=
  ∃ t current, currentWindow s t = some current ∧ current.same window ∧
    t ≤ window.startUs + lateToleranceUs

/-- The driver leaves the engine alone while it reserves the radio. -/
def WindowDriver.ReserveQuiet (driver : WindowDriver D) : Prop :=
  ∀ channel durationMs w, w.sched.phase = .preparing →
    (driver.reserve channel durationMs w).2.state = w.state

/-- What a driver in state `d` may answer to a query or a timer call. -/
inductive WindowDriver.Answer (driver : WindowDriver D) (d : D) : Event → D → Prop
  | now : Answer driver d (.now (driver.nowUs d).1) (driver.nowUs d).2
  | ready (p : Phase) : Answer driver d (.ready (driver.ready p d).1) (driver.ready p d).2
  | channelAllowed (c : UInt8) :
      Answer driver d (.channelAllowed c (driver.channelAllowed c d).1) (driver.channelAllowed c d).2
  | currentChannel :
      Answer driver d (.currentChannel (driver.currentChannel d).1) (driver.currentChannel d).2
  | wireTime (host : ℕ) :
      Answer driver d (.wireTime host (driver.wireTime host d).1) (driver.wireTime host d).2
  | armTimer (deadline now : ℕ) :
      Answer driver d (.armTimer deadline now (driver.armTimer deadline now d).1)
        (driver.armTimer deadline now d).2
  | cancelTimer : Answer driver d .cancelTimer (driver.cancelTimer d)

/-- Events of queries and timer calls. -/
def Event.isAnswer : Event → Bool
  | .now _ | .ready _ | .channelAllowed .. | .currentChannel _ | .wireTime .. | .armTimer ..
  | .cancelTimer => true
  | _ => false

lemma WindowDriver.Answer.isAnswer {driver : WindowDriver D} {d d' : D} {e : Event}
    (h : driver.Answer d e d') : e.isAnswer = true := by
  cases h <;> rfl

/-- The fields that the moves are about. The others only serve to choose the next window. -/
def WindowScheduler.core (s : WindowScheduler) :=
  (s.phase, s.window, s.leaseOwned, s.stopRequested, s.nativeResetRequired)

/-- Phase after the radio was given back. -/
def WindowScheduler.homePhase (s : WindowScheduler) : Phase :=
  if s.nativeResetRequired then .failed else if s.stopRequested then .stopped else .idle

/-- The phases from which the scheduler goes home. -/
def Phase.leaves : Phase → Bool
  | .idle | .reserved | .failed => true
  | _ => false

/-- Time at which a window that is closed at `now` ended. -/
def ScheduledWindow.endAt (window : ScheduledWindow) (now : ℕ) : ℕ :=
  if now < window.endUs then now else window.endUs

namespace World

/-- Controls and clock are held and the start event is issued. -/
def issueStart (w : World D) (now : ℕ) (wire : UInt32) : World D :=
  let window := stampWindow w.sched.window w.state now
  let held := ({ w with sched := { w.sched with window := window } }.engine .holdControls now).engine
    (.holdClock window.endUs) now
  (held.inPhase .opening).logged [.windowStart window wire]

/-- The native reset is recorded. -/
def resetNative (w : World D) : World D :=
  { w with
    sched := { w.sched with nativeResetRequired := true }
    log := w.log ++ [.nativeReset] }

/-- The end of a window whose controls are dropped. -/
def endDiscarding (w : World D) (now : ℕ) : World D :=
  ((w.engine (.holdClock 0) now).engine .discardControls now).inPhase .reserved

/-- The end of a window whose controls are committed, at the time `t` the driver shows. -/
def endReleasing (w : World D) (now t : ℕ) (d : D) : World D :=
  let asked := { (w.engine (.holdClock 0) now).logged [.now t] with driver := d }
  (asked.engine .releaseControls t).inPhase .reserved

section
variable (w : World D) (events : List Event) (p : Phase) (op : Op) (now t : ℕ) (wire : UInt32)
  (d : D)

@[simp] lemma sched_logged : (w.logged events).sched = w.sched := rfl
@[simp] lemma state_logged : (w.logged events).state = w.state := rfl
@[simp] lemma driver_logged : (w.logged events).driver = w.driver := rfl
@[simp] lemma log_logged : (w.logged events).log = w.log ++ events := rfl

@[simp] lemma sched_inPhase : (w.inPhase p).sched = { w.sched with phase := p } := rfl
@[simp] lemma state_inPhase : (w.inPhase p).state = w.state := rfl
@[simp] lemma driver_inPhase : (w.inPhase p).driver = w.driver := rfl
@[simp] lemma log_inPhase : (w.inPhase p).log = w.log := rfl

@[simp] lemma sched_engine : (w.engine op now).sched = w.sched := rfl
@[simp] lemma state_engine : (w.engine op now).state = op.apply w.state now := rfl
@[simp] lemma driver_engine : (w.engine op now).driver = w.driver := rfl
@[simp] lemma log_engine :
    (w.engine op now).log = w.log ++ [.engine op now (op.accepted w.state now)] := rfl

@[simp] lemma sched_issueStart : (w.issueStart now wire).sched =
    { w.sched with window := stampWindow w.sched.window w.state now, phase := .opening } := rfl
@[simp] lemma state_issueStart : (w.issueStart now wire).state =
    w.state.holdControls.holdClock w.sched.window.endUs := rfl
@[simp] lemma driver_issueStart : (w.issueStart now wire).driver = w.driver := rfl
@[simp] lemma log_issueStart : (w.issueStart now wire).log = w.log ++
    [.engine .holdControls now true, .engine (.holdClock w.sched.window.endUs) now true,
      .windowStart (stampWindow w.sched.window w.state now) wire] := by
  simp [issueStart, Op.accepted, stampWindow]

@[simp] lemma sched_resetNative :
    w.resetNative.sched = { w.sched with nativeResetRequired := true } := rfl
@[simp] lemma state_resetNative : w.resetNative.state = w.state := rfl
@[simp] lemma driver_resetNative : w.resetNative.driver = w.driver := rfl
@[simp] lemma log_resetNative : w.resetNative.log = w.log ++ [.nativeReset] := rfl

@[simp] lemma sched_endDiscarding :
    (w.endDiscarding now).sched = { w.sched with phase := .reserved } := rfl
@[simp] lemma state_endDiscarding :
    (w.endDiscarding now).state = (w.state.holdClock 0).discardControls := rfl
@[simp] lemma driver_endDiscarding : (w.endDiscarding now).driver = w.driver := rfl
@[simp] lemma log_endDiscarding : (w.endDiscarding now).log =
    w.log ++ [.engine (.holdClock 0) now true, .engine .discardControls now true] := by
  simp [endDiscarding, Op.accepted]

@[simp] lemma sched_endReleasing :
    (w.endReleasing now t d).sched = { w.sched with phase := .reserved } := rfl
@[simp] lemma state_endReleasing :
    (w.endReleasing now t d).state = ((w.state.holdClock 0).releaseControls t).2 := rfl
@[simp] lemma driver_endReleasing : (w.endReleasing now t d).driver = d := rfl
@[simp] lemma log_endReleasing : (w.endReleasing now t d).log =
    w.log ++ [.engine (.holdClock 0) now true, .now t, .engine .releaseControls t true] := by
  simp [endReleasing, Op.accepted]

end

end World

/-- One move of the scheduler. -/
inductive Step (driver : WindowDriver D) (R : World D → World D → Prop) :
    World D → World D → Prop
  | ask {w : World D} {e : Event} {d : D} (h : driver.Answer w.driver e d) :
      Step driver R w { w with driver := d, log := w.log ++ [e] }
  | tune {w : World D} {s : WindowScheduler} (h : s.core = w.sched.core) :
      Step driver R w { w with sched := s }
  | begin {w : World D} (maximumVisitUs preparationLeadUs : ℕ)
      (hphase : w.sched.phase = .stopped) (hfree : w.state.controlsHeld = false) :
      Step driver R w { w with sched := w.sched.begin maximumVisitUs preparationLeadUs }
  | giveUp {w : World D} (request : Bool) (hphase : w.sched.phase = .idle) :
      Step driver R w { w with sched := { w.sched with
        stopRequested := w.sched.stopRequested || request, phase := .stopped } }
  | requestStop {w : World D} :
      Step driver R w { w with
        sched := { w.sched with stopRequested := true }, log := w.log ++ [.stopRequest] }
  | elect {w : World D} (now : ℕ) (hphase : w.sched.phase = .idle) :
      Step driver R w (w.engine .elect now)
  | choose {w : World D} (planned : ScheduledWindow) (hphase : w.sched.phase = .idle) :
      Step driver R w { w with sched := { w.sched with
        window := planned, skip := planned, haveSkip := true } }
  | reserve {w : World D} (durationMs : ℕ) (hphase : w.sched.phase = .idle)
      (hagrees : Agrees w.state w.sched.window) :
      Step driver R w ((w.inPhase .preparing).logged [.reserve w.sched.window.channel durationMs])
  | native {w w' : World D} (hphase : w.sched.phase.inHook) (h : R w w') : Step driver R w w'
  | rejected {w : World D} (hphase : w.sched.phase = .preparing)
      (hanswer : ∃ channel durationMs v, driver.reserve channel durationMs v = (.rejected, w)) :
      Step driver R w ((w.inPhase .idle).logged [.reserved .rejected])
  | granted {w : World D} {result : Reservation} (hphase : w.sched.phase = .preparing)
      (hresult : result ≠ .rejected) :
      Step driver R w { (w.logged [.reserved result]) with
        sched := { w.sched with leaseOwned := true, phase := .reserved } }
  | issueStart {w : World D} {now : ℕ} (wire : UInt32) (hphase : w.sched.phase = .reserved)
      (hreset : w.sched.nativeResetRequired = false) (hstop : w.sched.stopRequested = false)
      (hnow : .now now ∈ w.log) (hstart : w.sched.window.startUs ≤ now)
      (hlate : now ≤ w.sched.window.startUs + lateToleranceUs)
      (hend : now < w.sched.window.endUs)
      (hagrees : driver.ReserveQuiet → Agrees w.state w.sched.window) :
      Step driver R w (w.issueStart now wire)
  | opened {w : World D} (now : ℕ) (hphase : w.sched.phase = .opening) :
      Step driver R w (((w.logged [.started true]).engine .startTimeline now).inPhase .open)
  | refused {w : World D} (now : ℕ) (hphase : w.sched.phase = .opening) :
      Step driver R w ((w.logged [.started false]).endReleasing now
        (driver.nowUs w.driver).1 (driver.nowUs w.driver).2)
  | issueEnd {w : World D} (wire : UInt32) (hphase : w.sched.phase = .open) :
      Step driver R w ((w.inPhase .closing).logged [.windowEnd w.sched.window wire])
  | skipEnd {w : World D} {now : ℕ} {earlier answers : List Event} (hphase : w.sched.phase = .open)
      (hlog : w.log = earlier ++ .now now :: answers) (hanswers : ∀ e ∈ answers, e.isAnswer)
      (hskip : now < w.sched.window.actualStartUs ∨
        .wireTime (w.sched.window.endAt now) none ∈ answers) :
      Step driver R w (w.resetNative.endDiscarding now)
  | endedDropped {w : World D} (now : ℕ) (hphase : w.sched.phase = .closing)
      (hdrop : w.sched.stopRequested ∨ w.sched.nativeResetRequired) :
      Step driver R w ((w.logged [.ended true]).endDiscarding now)
  | endedKept {w : World D} (now : ℕ) (hphase : w.sched.phase = .closing)
      (hstop : w.sched.stopRequested = false) (hreset : w.sched.nativeResetRequired = false) :
      Step driver R w ((w.logged [.ended true]).endReleasing now
        (driver.nowUs w.driver).1 (driver.nowUs w.driver).2)
  | endRefused {w : World D} (now : ℕ) (hphase : w.sched.phase = .closing)
      (hanswer : ∃ window wire v, driver.windowEnd window wire v = (false, w)) :
      Step driver R w ((w.logged [.ended false]).resetNative.endDiscarding now)
  | restoreFailed {w : World D} (hphase : w.sched.phase.leaves) (hlease : w.sched.leaseOwned)
      (hanswer : (driver.restore w.driver).1 = false) :
      Step driver R w { (w.inPhase .failed).logged [.restore false] with
        driver := (driver.restore w.driver).2 }
  | restored {w : World D} (hphase : w.sched.phase.leaves) (hlease : w.sched.leaseOwned)
      (hanswer : (driver.restore w.driver).1 = true) :
      Step driver R w { w.logged [.restore true] with
        sched := { w.sched with leaseOwned := false, phase := w.sched.homePhase }
        driver := (driver.restore w.driver).2 }
  | unleased {w : World D} (hphase : w.sched.phase.leaves) (hlease : w.sched.leaseOwned = false) :
      Step driver R w { w with
        sched := { w.sched with leaseOwned := false, phase := w.sched.homePhase } }

/-- A sequence of moves. -/
abbrev Path (driver : WindowDriver D) (R : World D → World D → Prop) : World D → World D → Prop :=
  ReflTransGen (Step driver R)

/-- The driver's hooks do nothing but `R`, and `R` leaves the scheduler to a stop request. -/
structure Hooked (driver : WindowDriver D) (R : World D → World D → Prop) : Prop where
  reserve : ∀ channel durationMs w, w.sched.phase = .preparing →
    ReflTransGen R w (driver.reserve channel durationMs w).2
  windowStart : ∀ window wire w, w.sched.phase = .opening →
    ReflTransGen R w (driver.windowStart window wire w).2
  windowEnd : ∀ window wire w, w.sched.phase = .closing →
    ReflTransGen R w (driver.windowEnd window wire w).2
  keeps : ∀ {w w'}, w.sched.phase.inHook → R w w' →
    ∃ b : Bool, (w.sched.stopRequested → b) ∧ w'.sched = { w.sched with stopRequested := b }
  grows : ∀ {w w'}, w.sched.phase.inHook → R w w' → w.log <+: w'.log

/-- The log only grows. -/
lemma Step.log_grows (hgrows : ∀ {w w'}, w.sched.phase.inHook → R w w' → w.log <+: w'.log)
    (h : Step driver R w w') : w.log <+: w'.log := by
  cases h with
  | native hphase h => exact hgrows hphase h
  | _ => simp

lemma Path.log_grows (hgrows : ∀ {w w'}, w.sched.phase.inHook → R w w' → w.log <+: w'.log)
    (h : Path driver R w w') : w.log <+: w'.log := by
  induction h with
  | refl => exact List.prefix_rfl
  | tail _ hstep ih => exact ih.trans (hstep.log_grows hgrows)

end AirportAwdl.Scheduler
