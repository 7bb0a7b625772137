import AirportAwdl.Election.Hold
import AirportAwdl.Election.Transfer
import AirportAwdl.Scheduler.Ledger
import AirportAwdl.Scheduler.Windows

/-!
# An open window is a window of the engine

The scheduler opens only a window of the engine that it saw shortly after its start, and while the
window is open the engine's controls are held, so that the schedule under it stays (`Guarded`).
What is sent in the window then advertises it.
-/

namespace AirportAwdl.Scheduler

open AirportAwdl.Election ByteBuffer StateProgram Timeline

variable {s s' : State} {t u : ℕ} {window : ScheduledWindow} {D : Type} {driver : WindowDriver D}
  {w w' : World D}

lemma Agrees.currentWindow (hplan : PlanOk s.sequence s.presence)
    (h : Agrees s window) (hlo : window.startUs ≤ u) (hhi : u < window.endUs) :
    ∃ current, currentWindow s u = some current ∧ current.same window := by
  obtain ⟨t, current, hcurrent, hsame, hearly⟩ := h
  obtain ⟨hin, rfl⟩ := (currentWindow_eq_some hplan).mp hcurrent
  obtain ⟨hstart, hend, hcounter, hchannel⟩ := ScheduledWindow.same_iff.mp hsame
  simp only [windowAround] at hstart hend
  have hstarted := hin.started
  have hposition : s.position t < awUs := by
    simp only [lateToleranceUs, awUs] at hearly ⊢
    omega
  obtain ⟨hepoch, hbegun, heq⟩ :=
    windowAround_eq (u := u) hplan hin.epoch_le hstarted hposition (by omega) (by omega)
  have hfits : u + (s.presence.toNat * awUs - s.position u) ≤ uint64Max := by
    grind [windowAround, hin.fits]
  exact ⟨windowAround s u, (currentWindow_eq_some hplan).mpr
    ⟨⟨hin.ready, hepoch, hbegun, hfits⟩, rfl⟩, by rw [heq]; exact hsame⟩

/-- Everything `currentWindow` looks at is the same in `s'`, which may be ready where `s` is
not. -/
structure SameSchedule (s s' : State) : Prop where
  sequence : s'.sequence = s.sequence
  presence : s'.presence = s.presence
  epoch : s'.epoch = s.epoch
  baseCounter : s'.baseCounter = s.baseCounter
  ready : s.radioScheduleReady → s'.radioScheduleReady

lemma SameSchedule.currentWindow (h : SameSchedule s s')
    (hwindow : currentWindow s t = some window) : currentWindow s' t = some window := by
  have hready : s.radioScheduleReady := by
    by_contra hnot
    simp [Scheduler.currentWindow, hnot] at hwindow
  have hcounter : s'.counter t = s.counter t := by
    simp only [State.counter, State.elapsed, h.epoch, h.baseCounter]
  have huntil : s'.untilNext t = s.untilNext t := by
    simp only [State.untilNext, State.elapsed, h.epoch, h.baseCounter, h.presence]
  have hchannel : s'.channel t = s.channel t := by
    simp only [State.channel, hready, h.ready hready, h.sequence, hcounter]
  rw [← hwindow]
  simp only [Scheduler.currentWindow, hready, h.ready hready, h.sequence, h.presence, h.epoch,
    hcounter, huntil, hchannel]

lemma Agrees.of_same (h : Agrees s window) (hs : SameSchedule s s') : Agrees s' window := by
  obtain ⟨t, current, hcurrent, hsame, hlate⟩ := h
  exact ⟨t, current, hs.currentWindow hcurrent, hsame, hlate⟩

/-- What a visit relies on does not move from `s` to `s'`. -/
structure Unmoved (s s' : State) : Prop where
  held : s'.controlsHeld = s.controlsHeld
  clock : s'.clockHoldUntil = s.clockHoldUntil
  schedule : SameSchedule s s'

lemma Unmoved.of_edit (h : HeldEdit s s') : Unmoved s s' := by
  obtain ⟨_, _, _, _, _, _, _, _, rfl⟩ := h
  exact ⟨rfl, rfl, rfl, rfl, rfl, rfl, id⟩

lemma Unmoved.selectNativeParent (hheld : s.controlsHeld) (address : Mac) (root : Option Mac)
    (acquire : Bool) : Unmoved s (s.selectNativeParent address root acquire) := by
  have hedit : Unmoved { s with nativeElectionManaged := true }
      (s.selectNativeParent address root acquire) :=
    .of_edit (HeldEdit.selectNativeParent (s := { s with nativeElectionManaged := true })
      hheld rfl address root acquire)
  refine ⟨hedit.held, hedit.clock, hedit.schedule.sequence, hedit.schedule.presence,
    hedit.schedule.epoch, hedit.schedule.baseCounter, fun hready => hedit.schedule.ready ?_⟩
  simp only [State.radioScheduleReady, Bool.or_eq_true, Bool.and_eq_true] at hready ⊢
  grind

/-- Nothing that native code asks of the engine moves a schedule whose controls are held. -/
lemma Unmoved.external (hheld : s.controlsHeld) {op : Op} (hop : external op) (now : ℕ) :
    Unmoved s (op.apply s now) := by
  cases op with
  | receiveAction frame => exact .of_edit (.receiveAction hheld frame now)
  | elect =>
    show Unmoved s (s.elect now)
    rw [State.elect_held hheld]
    exact .of_edit (.refl s)
  | setSyncRole role address => exact .of_edit (.setSyncRole hheld role address)
  | setPresence value => exact .of_edit (.setPresence hheld value now)
  | setSequence value => exact .of_edit (.setSequence hheld value now)
  | setSocialChannel index channel => exact .of_edit (.setSocialChannel hheld index channel now)
  | selectNativeParent address root acquire => exact .selectNativeParent hheld address root acquire
  | clearNativeParent => exact .of_edit (.clearNativeParent hheld)
  | nextFrame => exact ⟨rfl, rfl, rfl, rfl, rfl, rfl, id⟩
  | _ => cases hop

/-- The engine and the window between the start and the end event. -/
structure OnVisit (s : State) (window : ScheduledWindow) : Prop where
  held : s.controlsHeld
  clock : s.clockHoldUntil = window.endUs
  started : window.startUs ≤ window.actualStartUs
  intime : window.actualStartUs ≤ window.startUs + lateToleranceUs
  unended : window.actualStartUs < window.endUs
  agrees : Agrees s window

lemma OnVisit.of_unmoved (h : OnVisit s window) (hs : Unmoved s s') : OnVisit s' window where
  held := hs.held.trans h.held
  clock := hs.clock.trans h.clock
  started := h.started
  intime := h.intime
  unended := h.unended
  agrees := h.agrees.of_same hs.schedule

def Phase.visiting : Phase → Bool
  | .opening | .open | .closing => true
  | _ => false

/-- The engine is reachable, and on visit between the start and the end event. -/
structure Guarded (w : World D) : Prop where
  reachable : Reachable w.state
  visit : w.sched.phase.visiting → OnVisit w.state w.sched.window

lemma Guarded.of_same (h : Guarded w) (hphase : w'.sched.phase = w.sched.phase)
    (hwindow : w'.sched.window = w.sched.window) (hstate : w'.state = w.state) : Guarded w' := by
  refine ⟨by rw [hstate]; exact h.reachable, ?_⟩
  rw [hphase, hwindow, hstate]
  exact h.visit

lemma Guarded.of_outside (hreach : Reachable w'.state) (hphase : w'.sched.phase.visiting = false) :
    Guarded w' :=
  ⟨hreach, fun hvisiting => absurd hvisiting (by rw [hphase]; exact Bool.false_ne_true)⟩

/-- Native code inside a hook does not end a visit. -/
lemma Guarded.calm (h : Guarded w) (hstep : Calm driver w w') : Guarded w' := by
  cases hstep with
  | nothing => exact h
  | stop => exact h.of_same rfl rfl rfl
  | engine hop now =>
    refine ⟨.step h.reachable _ now, fun hvisiting => ?_⟩
    have hvisit := h.visit hvisiting
    exact hvisit.of_unmoved (.external hvisit.held hop now)
  | environment d => exact h.of_same rfl rfl rfl

/-- The start of a visit: the window is stamped and controls and clock are held over it. -/
lemma OnVisit.issueStart {now : ℕ} (hstart : w.sched.window.startUs ≤ now)
    (hlate : now ≤ w.sched.window.startUs + lateToleranceUs) (hend : now < w.sched.window.endUs)
    (hagrees : Agrees w.state w.sched.window) (wire : UInt32) :
    OnVisit (w.issueStart now wire).state (w.issueStart now wire).sched.window := by
  have hholds : SameSchedule w.state (w.state.holdControls.holdClock w.sched.window.endUs) := by
    unfold State.holdControls
    split <;> exact ⟨rfl, rfl, rfl, rfl, id⟩
  have hheld : w.state.holdControls.controlsHeld = true := by
    unfold State.holdControls
    split
    · assumption
    · rfl
  exact ⟨hheld, rfl, hstart, hlate, hend, hagrees.of_same hholds⟩

/-- A step keeps the engine on visit between the start and the end event. -/
lemma Guarded.step (hquiet : driver.ReserveQuiet) (h : Guarded w)
    (hstep : Step driver (Calm driver) w w') : Guarded w' := by
  have hreach := h.reachable
  cases hstep with
  | ask => exact h.of_same rfl rfl rfl
  | tune hcore =>
    grind [WindowScheduler.core, h.of_same]
  | native _ hcalm => exact h.calm hcalm
  | requestStop => exact h.of_same rfl rfl rfl
  -- outside visits: only the engine's reachability matters
  | elect now hphase => exact .of_outside (.step hreach .elect now) (by simp [hphase, Phase.visiting])
  | choose planned hphase => exact .of_outside hreach (by simp [hphase, Phase.visiting])
  | begin => exact .of_outside hreach rfl
  | giveUp => exact .of_outside hreach rfl
  | reserve => exact .of_outside hreach rfl
  | rejected => exact .of_outside hreach rfl
  | granted => exact .of_outside hreach rfl
  | restoreFailed => exact .of_outside hreach rfl
  | restored hphase hlease =>
    refine .of_outside hreach ?_
    unfold WindowScheduler.homePhase
    split_ifs <;> rfl
  | unleased hphase hlease =>
    refine .of_outside hreach ?_
    unfold WindowScheduler.homePhase
    split_ifs <;> rfl
  -- a visit
  | issueStart wire hphase hreset hstop hnow hstart hlate hend hagrees =>
    refine ⟨(hreach.step .holdControls 0).step (.holdClock w.sched.window.endUs) 0, fun _ => ?_⟩
    exact .issueStart hstart hlate hend (hagrees hquiet) wire
  | opened now hphase =>
    refine ⟨.step hreach .startTimeline now, fun _ => ?_⟩
    have hvisit := h.visit (by rw [hphase]; rfl)
    exact hvisit.of_unmoved ⟨rfl, rfl, rfl, rfl, rfl, rfl, id⟩
  | issueEnd wire hphase =>
    refine ⟨hreach, fun _ => ?_⟩
    exact h.visit (by rw [hphase]; rfl)
  -- and its end
  | refused now =>
    exact .of_outside ((hreach.step (.holdClock 0) now).step .releaseControls _) rfl
  | endedKept now =>
    exact .of_outside ((hreach.step (.holdClock 0) now).step .releaseControls _) rfl
  | skipEnd => exact .of_outside ((hreach.step (.holdClock 0) 0).step .discardControls 0) rfl
  | endedDropped => exact .of_outside ((hreach.step (.holdClock 0) 0).step .discardControls 0) rfl
  | endRefused => exact .of_outside ((hreach.step (.holdClock 0) 0).step .discardControls 0) rfl

theorem Run.guarded (hreach : Reachable s) (h : driver.Reentrant) (hquiet : driver.ReserveQuiet)
    (hrun : Run driver s w) : Guarded w :=
  hrun.invariant h (fun _ => .of_outside hreach rfl) (Guarded.step hquiet) Guarded.calm

lemma canTransmit_spec {now : ℕ} {multicast : Bool}
    (h : ((canTransmit driver now multicast).run w).1 = true) :
    w.sched.phase = .open ∧ w.sched.window.actualStartUs ≤ now ∧ now < w.sched.window.endUs := by
  by_contra hnot
  have hrefused : (w.sched.phase != .open || w.sched.stopRequested ||
      decide (now < w.sched.window.actualStartUs) ||
      decide (now - w.sched.window.actualStartUs < guardUs) ||
      decide (now ≥ w.sched.window.endUs) ||
      decide (w.sched.window.endUs - now ≤ guardUs)) = true := by
    grind
  have hno : wp (canTransmit driver now multicast) (fun answer _ => answer = false) w := by
    unfold canTransmit
    rw [wp_bind, wp_get, wp_bind, wp_orM, wp_pure, if_pos hrefused, if_pos rfl]
    rfl
  exact Bool.false_ne_true (hno.symm.trans h)

/-- A frame that announces the rest of `window` at `now`: its channel, and the time to its end
in whole time units, rounded up. -/
def Advertises (window : ScheduledWindow) (now : ℕ) (frame : Bytes) : Prop :=
  ∃ message, decodeSyncAction (frame.drop 24) = (.valid, message) ∧
    message.nextChannel = window.channel ∧ message.masterChannel = window.channel ∧
    message.countdownTu.toNat = (window.endUs - now + 1023) / 1024

lemma advertises_currentWindow (hinv : Inv s) {window current : ScheduledWindow} {now : ℕ}
    (hcurrent : currentWindow s now = some current) (hsame : current.same window)
    {capacity : ℕ} {phyTime targetTime : UInt32} {subtype : UInt8} {frame : Bytes}
    (hbuilt : (buildSynchronization s capacity now phyTime targetTime subtype).1 = some frame) :
    Advertises window now frame := by
  have hp := hinv.plan.validPresence_presence
  obtain ⟨hin, rfl⟩ := (currentWindow_eq_some hinv.plan).mp hcurrent
  obtain ⟨-, hend, -, hchannel⟩ := ScheduledWindow.same_iff.mp hsame
  obtain ⟨hcap, hsub⟩ := buildSynchronization_caller hinv hbuilt
  obtain ⟨f, hf, hframe⟩ :=
    buildSynchronization_some hinv hin.ready hin.epoch_le hcap phyTime targetTime hsub
  obtain rfl : f = frame := Option.some.inj (hf.symm.trans hbuilt)
  obtain ⟨message, hmessage, hnext, hmaster, -, hdown, -⟩ := hframe.decodeSyncBody hinv hsub
  refine ⟨message, by rw [decodeSyncAction, hmessage], hnext.trans hchannel,
    hmaster.trans hchannel, ?_⟩
  have huntil : s.untilNext now = window.endUs - now := by
    rw [State.untilNext_eq hp, ← hend]
    exact (Nat.add_sub_cancel_left ..).symm
  rw [hdown, State.toNat_countdownTu hp, State.countdownTu, huntil]

/-- **An open window is the engine's window.** While a window is open the radio is leased, the
window was started on time, controls and clock are held, and from the actual start to the end
the engine's current window is the one that was opened. So whatever is built when `canTransmit`
allows it announces that window. -/
theorem open_window (hreach : Reachable s) (h : driver.Reentrant) (hquiet : driver.ReserveQuiet)
    (hrun : Run driver s w) :
    let window := w.sched.window
    (w.sched.phase = .open →
      w.sched.leaseOwned = true ∧ window.startUs ≤ window.actualStartUs ∧
        window.actualStartUs ≤ window.startUs + lateToleranceUs ∧
        window.actualStartUs < window.endUs ∧ w.state.controlsHeld = true ∧
        w.state.clockHoldUntil = window.endUs ∧
        ∀ t, window.actualStartUs ≤ t → t < window.endUs →
          ∃ current, currentWindow w.state t = some current ∧
            current.startUs = window.startUs ∧ current.endUs = window.endUs ∧
            current.counter = window.counter ∧ current.channel = window.channel) ∧
      ∀ now multicast, ((canTransmit driver now multicast).run w).1 = true →
        ∀ capacity phyTime targetTime subtype,
          (∀ frame, (buildSynchronization w.state capacity now phyTime targetTime subtype).1 =
            some frame → Advertises window now frame) ∧
          (141 ≤ capacity → subtype = 0 ∨ subtype = 3 →
            (buildSynchronization w.state capacity now phyTime targetTime subtype).1.isSome) := by
  intro window
  have hguarded := hrun.guarded hreach h hquiet
  have hinv := hguarded.reachable.inv
  have hwindow : w.sched.phase = .open → ∀ t, window.actualStartUs ≤ t → t < window.endUs →
      ∃ current, currentWindow w.state t = some current ∧ current.same window := by
    intro hopen t hlo hhi
    have hvisit := hguarded.visit (by rw [hopen]; rfl)
    exact hvisit.agrees.currentWindow hinv.plan (hvisit.started.trans hlo) hhi
  constructor
  · intro hopen
    have hvisit := hguarded.visit (by rw [hopen]; rfl)
    have hlease := (hrun.accounted h).sound.leased (.inr (.inr (.inl hopen)))
    refine ⟨hlease, hvisit.started, hvisit.intime, hvisit.unended, hvisit.held, hvisit.clock, ?_⟩
    intro t hlo hhi
    obtain ⟨current, hcurrent, hsame⟩ := hwindow hopen t hlo hhi
    exact ⟨current, hcurrent, ScheduledWindow.same_iff.mp hsame⟩
  · intro now multicast hyes capacity phyTime targetTime subtype
    obtain ⟨hopen, hlo, hhi⟩ := canTransmit_spec hyes
    obtain ⟨current, hcurrent, hsame⟩ := hwindow hopen now hlo hhi
    refine ⟨fun frame hbuilt => advertises_currentWindow hinv hcurrent hsame hbuilt, ?_⟩
    intro hcap hsub
    obtain ⟨hin, -⟩ := (currentWindow_eq_some hinv.plan).mp hcurrent
    obtain ⟨frame, hframe, -⟩ :=
      buildSynchronization_some hinv hin.ready hin.epoch_le hcap phyTime targetTime hsub
    rw [hframe]
    rfl

/-- The bench's first window, three milliseconds after its start. -/
def benchOpen : World Bench :=
  { (benchStart {}).tick with driver := { (benchStart {}).tick.driver with time := 10003000 } }

lemma benchOpen_run : Run bench benchState benchOpen :=
  (benchStart_run {}).tick.step (.environment _)

lemma benchState_reachable : Reachable benchState :=
  .init (by decide +kernel : State.init benchState.mac benchState.sequence 10000000 1 false =
    some benchState)

theorem open_window_benchOpen :
    benchOpen.sched.phase = .open ∧ ((canTransmit bench 10003000 true).run benchOpen).1 = true ∧
      ∃ frame, (buildSynchronization benchOpen.state 141 10003000 7 9 3).1 = some frame ∧
        Advertises benchOpen.sched.window 10003000 frame := by
  have hopen := open_window benchState_reachable bench_reentrant (fun _ _ _ _ => rfl) benchOpen_run
  have hyes : ((canTransmit bench 10003000 true).run benchOpen).1 = true := by decide +kernel
  obtain ⟨hadvertises, hbuilt⟩ := hopen.2 10003000 true hyes 141 7 9 3
  obtain ⟨frame, hframe⟩ := Option.isSome_iff_exists.mp (hbuilt (le_refl _) (.inr rfl))
  exact ⟨by decide +kernel, hyes, frame, hframe, hadvertises frame hframe⟩

end AirportAwdl.Scheduler
