import AirportAwdl.Election.Requests
import AirportAwdl.Scheduler.OpenWindow

/-!
# Which control calls take effect

The scheduler holds the engine's controls over a window and commits or drops what was asked for
meanwhile. The log of a run shows which calls were kept (`keptCalls`), and the requests in effect
are those (`kept_requests`). A window drops its calls only when a stop was requested or a native
reset was recorded after it was held (`DropsForCause`).
-/

namespace AirportAwdl.Scheduler

open AirportAwdl.Election ByteBuffer Transaction

variable {D : Type} {driver : WindowDriver D} {s : State} {w w' : World D} {start : Requests}
  {log : List Event}

/-- What an event does to the control transaction. -/
def Event.act : Event → Option (Act Op)
  | .engine op _ accepted => if accepted then op.act else none
  | _ => none

/-- The control calls of a log: those that took effect, and those of a window that is held. -/
def controlCalls (log : List Event) : Calls Op := calls (log.filterMap Event.act)

/-- The control calls that took effect: accepted outside a window, or in one that was released. -/
def keptCalls (log : List Event) : List Op := (controlCalls log).kept

/-- All control calls that were accepted. -/
def acceptedCalls (log : List Event) : List Op := (log.filterMap Event.act).filterMap Act.call?

/-- The requests in effect after a log are those of the calls it kept. -/
def Tracked (start : Requests) (log : List Event) (s : State) : Prop :=
  Tracks start (controlCalls log) s

lemma Tracked.engine (h : Tracked start log s) (op : Op) (now : ℕ) :
    Tracked start (log ++ [.engine op now (op.accepted s now)]) (op.apply s now) := by
  rw [Tracked, controlCalls, calls_filterMap_concat]
  exact Tracks.apply h op now

lemma Tracked.note (h : Tracked start log s) {e : Event} (he : e.act = none) :
    Tracked start (log ++ [e]) s := by
  rw [Tracked, controlCalls, calls_filterMap_concat, he]
  exact h

lemma Tracked.calm (h : Tracked start w.log w.state) (hstep : Calm driver w w') :
    Tracked start w'.log w'.state := by
  cases hstep with
  | nothing => exact h
  | stop =>
    show Tracked start (w.log ++ [.stopRequest, .cancelTimer]) w.state
    rw [List.append_cons]
    exact (h.note rfl).note rfl
  | engine hop now => exact h.engine _ now
  | environment d => exact h

/-- Whatever a step asks of the engine is in the log. -/
lemma Tracked.step (h : Tracked start w.log w.state) (hstep : Step driver (Calm driver) w w') :
    Tracked start w'.log w'.state := by
  cases hstep with
  | ask hanswer => cases hanswer <;> exact h.note rfl
  | tune => exact h
  | native _ hcalm => exact h.calm hcalm
  | requestStop => exact h.note rfl
  | elect now => exact h.engine _ now
  | choose => exact h
  | begin => exact h
  | giveUp => exact h
  | reserve => exact h.note rfl
  | rejected => exact h.note rfl
  | granted => exact h.note rfl
  | restoreFailed => exact h.note rfl
  | restored => exact h.note rfl
  | unleased => exact h
  | issueStart => exact ((h.engine _ _).engine _ _).note rfl
  | opened => exact (h.note rfl).engine _ _
  | issueEnd => exact h.note rfl
  | refused => exact (((h.note rfl).engine _ _).note rfl).engine _ _
  | endedKept => exact (((h.note rfl).engine _ _).note rfl).engine _ _
  | skipEnd => exact ((h.note rfl).engine _ _).engine _ _
  | endedDropped => exact ((h.note rfl).engine _ _).engine _ _
  | endRefused => exact (((h.note rfl).note rfl).engine _ _).engine _ _

/-- Over an engine that was handed over with its controls held the scheduler does not start. -/
lemma Run.stays_held (h : driver.Reentrant) (hheld : s.controlsHeld) (hrun : Run driver s w) :
    w.sched.phase = .stopped ∧ w.state.controlsHeld = true := by
  have hcalm : ∀ {w w' : World D}, w.sched.phase = .stopped ∧ w.state.controlsHeld = true →
      Calm driver w w' → w'.sched.phase = .stopped ∧ w'.state.controlsHeld = true := by
    intro w w' hw hstep
    cases hstep with
    | engine hop now => exact ⟨hw.1, (Unmoved.external hw.2 hop now).held.trans hw.2⟩
    | _ => exact hw
  refine hrun.invariant h (fun d => ⟨rfl, hheld⟩) (fun {w w'} hw hstep => ?_) hcalm
  cases hstep with
  | ask => exact hw
  | tune hcore =>
    grind [WindowScheduler.core]
  | requestStop => exact hw
  | native _ hnative => exact hcalm hw hnative
  | begin _ _ _ hfree => cases hw.2.symm.trans hfree
  | restoreFailed hphase => rw [hw.1] at hphase; cases hphase
  | restored hphase => rw [hw.1] at hphase; cases hphase
  | unleased hphase => rw [hw.1] at hphase; cases hphase
  | _ => exact absurd (hw.1.symm.trans (by assumption)) (by decide)

/-- In every run the requests in effect are those of the calls that the log kept. -/
theorem Run.tracked (hreach : Reachable s) (h : driver.Reentrant) (hfree : s.controlsHeld = false)
    (hrun : Run driver s w) : Tracked s.requests w.log w.state :=
  hrun.invariant h (fun _ => Tracks.of_init hreach.inv hfree) Tracked.step Tracked.calm

/-- A window that holds the controls, and whether there was a reason to drop them since. -/
structure Hold where
  held : Bool := false
  cause : Bool := false
deriving DecidableEq, Repr

/-- A log in which controls are dropped without a reason is refused. -/
def Hold.step (m : Hold) : Event → Option Hold
  | .engine .holdControls _ _ => if m.held then none else some ⟨true, false⟩
  | .engine .releaseControls _ _ => if m.held then some { m with held := false } else none
  | .engine .discardControls _ _ =>
    if m.held ∧ m.cause then some { m with held := false } else none
  | .stopRequest => some { m with cause := true }
  | .nativeReset => some { m with cause := true }
  | _ => some m

/-- Events that begin or end a hold. -/
def Event.isHold : Event → Bool
  | .engine .holdControls _ _ | .engine .releaseControls _ _ | .engine .discardControls _ _ => true
  | _ => false

/-- Between the start and the end event the controls are held, and a flag that would drop them
was raised since. -/
def Excused (w : World D) (m : Hold) : Prop :=
  m.held = w.sched.phase.visiting ∧ (w.sched.phase.visiting →
    w.sched.stopRequested ∨ w.sched.nativeResetRequired → m.cause = true)

/-- The log up to here drops controls for a reason only. -/
def Justified (w : World D) : Prop :=
  ∃ m, Trace.after Hold.step {} w.log = some m ∧ Excused w m

lemma Justified.extend (h : Justified w) (events : List Event) (hlog : w'.log = w.log ++ events)
    (hnext : ∀ m, Excused w m → ∃ m', Trace.after Hold.step m events = some m' ∧ Excused w' m') :
    Justified w' := by
  obtain ⟨m, hm, hexcused⟩ := h
  obtain ⟨m', hm', hexcused'⟩ := hnext m hexcused
  exact ⟨m', by rw [hlog, Trace.after_append, hm]; exact hm', hexcused'⟩

lemma Justified.quiet (h : Justified w) (events : List Event) (hlog : w'.log = w.log ++ events)
    (hphase : w'.sched.phase.visiting = w.sched.phase.visiting)
    (hflags : w.sched.phase.visiting → w'.sched.stopRequested = w.sched.stopRequested ∧
      w'.sched.nativeResetRequired = w.sched.nativeResetRequired)
    (hevents : ∀ m : Hold, Trace.after Hold.step m events = some m) : Justified w' := by
  refine h.extend events hlog fun m hm => ⟨m, hevents m, hm.1.trans hphase.symm, fun hvisiting => ?_⟩
  rw [hphase] at hvisiting
  obtain ⟨hstop, hreset⟩ := hflags hvisiting
  rw [hstop, hreset]
  exact hm.2 hvisiting

lemma external_quiet {op : Op} (hop : external op) (now : ℕ) (ok : Bool) (m : Hold) :
    Trace.after Hold.step m [.engine op now ok] = some m := by
  cases op with
  | holdControls => cases hop
  | releaseControls => cases hop
  | discardControls => cases hop
  | _ => rfl

lemma Justified.calm (h : Justified w) (hstep : Calm driver w w') : Justified w' := by
  cases hstep with
  | nothing => exact h
  | stop =>
    refine h.extend [.stopRequest, .cancelTimer] rfl fun m hm => ⟨{ m with cause := true }, rfl, ?_⟩
    exact ⟨hm.1, fun _ _ => rfl⟩
  | engine hop now => exact h.quiet [_] rfl rfl (fun _ => ⟨rfl, rfl⟩) (external_quiet hop now _)
  | environment d =>
    exact h.quiet [] (List.append_nil _).symm rfl (fun _ => ⟨rfl, rfl⟩) fun _ => rfl

lemma Justified.outside (h : Justified w) (events : List Event) (hlog : w'.log = w.log ++ events)
    (hphase : w.sched.phase.visiting = false) (hphase' : w'.sched.phase.visiting = false)
    (hevents : ∀ m : Hold, Trace.after Hold.step m events = some m) : Justified w' :=
  h.quiet events hlog (hphase'.trans hphase.symm)
    (fun hvisiting => absurd (hphase.symm.trans hvisiting) Bool.false_ne_true) hevents

lemma Justified.ends (h : Justified w) (events : List Event) (hlog : w'.log = w.log ++ events)
    (hphase : w.sched.phase.visiting = true) (hphase' : w'.sched.phase.visiting = false)
    (hevents : ∀ m : Hold, m.held = true →
      (w.sched.stopRequested ∨ w.sched.nativeResetRequired → m.cause = true) →
        ∃ cause, Trace.after Hold.step m events = some ⟨false, cause⟩) : Justified w' := by
  refine h.extend events hlog fun m hm => ?_
  obtain ⟨cause, hafter⟩ := hevents m (hm.1.trans hphase) (hm.2 hphase)
  refine ⟨⟨false, cause⟩, hafter, hphase'.symm, fun hvisiting => ?_⟩
  cases hphase'.symm.trans hvisiting

lemma WindowScheduler.homePhase_outside (s : WindowScheduler) : s.homePhase.visiting = false := by
  unfold WindowScheduler.homePhase
  split_ifs <;> rfl

lemma Phase.leaves_outside {p : Phase} (h : p.leaves) : p.visiting = false := by
  rcases Phase.leaves_cases h with rfl | rfl | rfl <;> rfl

/-- A step drops controls for a reason only. -/
lemma Justified.step (h : Justified w) (hstep : Step driver (Calm driver) w w') : Justified w' := by
  cases hstep with
  | ask hanswer => cases hanswer <;> exact h.quiet [_] rfl rfl (fun _ => ⟨rfl, rfl⟩) fun _ => rfl
  | tune hcore =>
    simp only [WindowScheduler.core, Prod.mk.injEq] at hcore
    exact h.quiet [] (List.append_nil _).symm (by rw [hcore.1])
      (fun _ => ⟨hcore.2.2.2.1, hcore.2.2.2.2⟩) fun _ => rfl
  | native _ hcalm => exact h.calm hcalm
  | requestStop =>
    refine h.extend [.stopRequest] rfl fun m hm => ⟨{ m with cause := true }, rfl, hm.1, ?_⟩
    exact fun _ _ => rfl
  -- outside visits
  | elect now hphase => exact h.quiet [_] rfl rfl (fun _ => ⟨rfl, rfl⟩) fun _ => rfl
  | choose planned hphase =>
    exact h.quiet [] (List.append_nil _).symm rfl (fun _ => ⟨rfl, rfl⟩) fun _ => rfl
  | begin _ _ hphase =>
    exact h.outside [] (List.append_nil _).symm (by rw [hphase]; rfl) rfl fun _ => rfl
  | giveUp _ hphase =>
    exact h.outside [] (List.append_nil _).symm (by rw [hphase]; rfl) rfl fun _ => rfl
  | reserve _ hphase => exact h.outside [_] rfl (by rw [hphase]; rfl) rfl fun _ => rfl
  | rejected hphase => exact h.outside [_] rfl (by rw [hphase]; rfl) rfl fun _ => rfl
  | granted hphase => exact h.outside [_] rfl (by rw [hphase]; rfl) rfl fun _ => rfl
  | restoreFailed hphase =>
    exact h.outside [_] rfl (Phase.leaves_outside hphase) rfl fun _ => rfl
  | restored hphase =>
    exact h.outside [_] rfl (Phase.leaves_outside hphase) w.sched.homePhase_outside fun _ => rfl
  | unleased hphase =>
    exact h.outside [] (List.append_nil _).symm (Phase.leaves_outside hphase)
      w.sched.homePhase_outside fun _ => rfl
  -- a visit starts with both flags down
  | issueStart wire hphase hreset hstop =>
    refine h.extend [_, _, _] (World.log_issueStart ..) fun m hm => ⟨⟨true, false⟩, ?_, rfl, ?_⟩
    · have hheld : m.held = false := hm.1.trans (by rw [hphase]; rfl)
      simp [Hold.step, hheld]
    · simp [hreset, hstop]
  | opened now hphase =>
    exact h.quiet [_, _] (List.append_assoc ..) (by rw [hphase]; rfl) (fun _ => ⟨rfl, rfl⟩)
      fun _ => rfl
  | issueEnd wire hphase =>
    exact h.quiet [_] rfl (by rw [hphase]; rfl) (fun _ => ⟨rfl, rfl⟩) fun _ => rfl
  | refused now hphase =>
    refine h.ends _ ((World.log_endReleasing ..).trans (List.append_assoc ..)) (by rw [hphase]; rfl)
      rfl fun m hheld _ => ⟨m.cause, ?_⟩
    simp [Hold.step, hheld]
  | endedKept now hphase =>
    refine h.ends _ ((World.log_endReleasing ..).trans (List.append_assoc ..)) (by rw [hphase]; rfl)
      rfl fun m hheld _ => ⟨m.cause, ?_⟩
    simp [Hold.step, hheld]
  -- and drops its controls with one of them raised
  | skipEnd hphase =>
    refine h.ends _ ((World.log_endDiscarding ..).trans (List.append_assoc ..))
      (by rw [hphase]; rfl) rfl fun m hheld _ => ⟨true, ?_⟩
    simp [Hold.step, hheld]
  | endedDropped now hphase hdrop =>
    refine h.ends _ ((World.log_endDiscarding ..).trans (List.append_assoc ..))
      (by rw [hphase]; rfl) rfl fun m hheld hcause => ⟨true, ?_⟩
    simp [Hold.step, hheld, hcause hdrop]
  | endRefused now hphase =>
    refine h.ends _ (((World.log_endDiscarding ..).trans (List.append_assoc ..)).trans
      (List.append_assoc ..)) (by rw [hphase]; rfl) rfl fun m hheld _ => ⟨true, ?_⟩
    simp [Hold.step, hheld]

/-- Every run drops controls for a reason only. -/
theorem Run.justified (h : driver.Reentrant) (hrun : Run driver s w) : Justified w :=
  hrun.invariant h (fun _ => ⟨{}, rfl, rfl, fun hvisiting => absurd hvisiting Bool.false_ne_true⟩)
    Justified.step Justified.calm

/-- Controls are dropped only at the end of a hold during which a stop was requested or a native
reset was recorded. -/
def DropsForCause (log : List Event) : Prop :=
  ∀ before rest now ok, log = before ++ .engine .discardControls now ok :: rest →
    ∃ earlier heldAt ok' between, before = earlier ++ .engine .holdControls heldAt ok' :: between ∧
      (∀ e ∈ between, e.isHold = false) ∧ (.stopRequest ∈ between ∨ .nativeReset ∈ between)

section
variable {m m' : Hold} {e : Event}

lemma Hold.step_enters (hm : m.held ≠ true) (h : m.step e = some m') (hm' : m'.held = true) :
    m'.cause = false ∧ ∃ now ok, e = .engine .holdControls now ok := by
  unfold Hold.step at h
  split at h <;> grind

lemma Hold.step_inside (hm : m.held = true) (h : m.step e = some m') (hm' : m'.held = true) :
    e.isHold = false := by
  unfold Hold.step at h
  split at h <;> grind [Event.isHold]

/-- Only a stop request or a native reset is a reason. -/
lemma Hold.step_cause (hm : m.cause = false) (h : m.step e = some m') :
    m'.cause = false ∨ e = .stopRequest ∨ e = .nativeReset := by
  unfold Hold.step at h
  split at h <;> grind

end

lemma dropsForCause_of_after {m : Hold} (h : Trace.after Hold.step {} log = some m) :
    DropsForCause log := by
  intro before rest now ok hlog
  rw [hlog] at h
  obtain ⟨m₁, m₂, hbefore, hdrop, -⟩ := Trace.after_split_at h
  obtain ⟨hheld, hcause⟩ : m₁.held = true ∧ m₁.cause = true := by
    grind [Hold.step]
  obtain ⟨earlier, e, between, u, u', rfl, hu, hentry, hu', hbetween, hinside⟩ :=
    Trace.last_entry (fun m : Hold => m.held = true) hbefore (by simp) hheld
  obtain ⟨hfresh, heldAt, ok', rfl⟩ := Hold.step_enters hu hentry hu'
  refine ⟨earlier, heldAt, ok', between, rfl, fun e he => ?_, ?_⟩
  · grind [Hold.step_inside]
  · -- the reason was raised inside the hold, which began without one
    rcases Trace.region_or_exit (fun m : Hold => m.cause = false) _ hbetween hfresh
      (fun _ _ _ => Hold.step_cause) with hnot | ⟨e, hmem, rfl | rfl⟩
    · cases hnot.symm.trans hcause
    · exact .inl hmem
    · exact .inr hmem

section
variable (op : Op)

def setsRole : Bool :=
  match op with
  | .setSyncRole .. => true
  | _ => false

def setsChannels : Bool :=
  match op with
  | .setSequence .. | .setSocialChannel .. => true
  | _ => false

def setsPlan : Bool :=
  match op with
  | .setPresence .. | .setSequence .. | .setSocialChannel .. => true
  | _ => false

def setsParent : Bool :=
  match op with
  | .selectNativeParent .. | .clearNativeParent => true
  | _ => false

end

/-- The engine shows the arguments of the last call of each kind. A presence replaces the slot
length of the sequence, a sequence the presence. -/
structure InEffect (calls : List Op) (s : State) : Prop where
  role : ∀ before rest role address, calls = before ++ .setSyncRole role address :: rest →
    (∀ op ∈ rest, setsRole op = false) → s.syncRole.toNat = role ∧ s.forcedSync = address
  sequence : ∀ before rest value, calls = before ++ .setSequence value :: rest →
    (∀ op ∈ rest, setsPlan op = false) → s.ownSequence = value ∧ s.ownPresence = value.step + 1
  channels : ∀ before rest value, calls = before ++ .setSequence value :: rest →
    (∀ op ∈ rest, setsChannels op = false) →
      s.ownSequence.channels = value.channels ∧ s.ownSequence.count = value.count
  presence : ∀ before rest value, calls = before ++ .setPresence value :: rest →
    (∀ op ∈ rest, setsPlan op = false) → s.ownPresence = value ∧ s.ownSequence.step = value - 1
  parent : ∀ before rest address root acquire,
    calls = before ++ .selectNativeParent address root acquire :: rest →
      (∀ op ∈ rest, setsParent op = false) →
        s.nativeParentSelected = true ∧ s.nativeParent = address

section
variable (r : Requests) {op : Op}

/-! A call keeps what other kinds of calls set. -/

lemma call_role (h : setsRole op = false) :
    ((r.call op).role, (r.call op).forced) = (r.role, r.forced) := by
  cases op with
  | setSyncRole => cases h.symm
  | setSocialChannel index channel =>
    rw [Requests.call_setSocialChannel]
    dsimp only
    split <;> rfl
  | _ => rfl

lemma call_plan (h : setsPlan op = false) :
    ((r.call op).sequence, (r.call op).presence) = (r.sequence, r.presence) := by
  cases op with
  | setPresence => cases h.symm
  | setSequence => cases h.symm
  | setSocialChannel => cases h.symm
  | _ => rfl

lemma call_channels (h : setsChannels op = false) :
    ((r.call op).sequence.channels, (r.call op).sequence.count) =
      (r.sequence.channels, r.sequence.count) := by
  cases op with
  | setSequence => cases h.symm
  | setSocialChannel => cases h.symm
  | _ => rfl

lemma call_parent (h : setsParent op = false) : (r.call op).parent = r.parent := by
  cases op with
  | selectNativeParent => cases h.symm
  | clearNativeParent => cases h.symm
  | setSocialChannel index channel =>
    rw [Requests.call_setSocialChannel]
    dsimp only
    split <;> rfl
  | _ => rfl

end

lemma inEffect_of_requests {calls : List Op} {start : Requests}
    (h : s.requests = calls.foldl Requests.call start) : InEffect calls s where
  role before rest role address hcalls hrest := by
    have hlast : (s.requests.role, s.requests.forced) = (role, address) := by
      rw [h]
      exact foldl_last Requests.call (fun r => (r.role, r.forced)) hcalls (fun _ => rfl)
        (fun r op hop => call_role r (hrest op hop)) start
    exact Prod.mk.inj hlast
  sequence before rest value hcalls hrest := by
    have hlast : (s.requests.sequence, s.requests.presence) = (value, value.step + 1) := by
      rw [h]
      exact foldl_last Requests.call (fun r => (r.sequence, r.presence)) hcalls (fun _ => rfl)
        (fun r op hop => call_plan r (hrest op hop)) start
    exact Prod.mk.inj hlast
  channels before rest value hcalls hrest := by
    have hlast : (s.requests.sequence.channels, s.requests.sequence.count) =
        (value.channels, value.count) := by
      rw [h]
      exact foldl_last Requests.call (fun r => (r.sequence.channels, r.sequence.count)) hcalls
        (fun _ => rfl) (fun r op hop => call_channels r (hrest op hop)) start
    exact Prod.mk.inj hlast
  presence before rest value hcalls hrest := by
    have hlast : (s.requests.presence, s.requests.sequence.step) = (value, value - 1) := by
      rw [h]
      refine foldl_last Requests.call (fun r => (r.presence, r.sequence.step)) hcalls
        (fun _ => rfl) (fun r op hop => ?_) start
      grind [call_plan]
    exact Prod.mk.inj hlast
  parent before rest address root acquire hcalls hrest := by
    have hlast : s.requests.parent = some address := by
      rw [h]
      exact foldl_last Requests.call (fun r => r.parent) hcalls (fun _ => rfl)
        (fun r op hop => call_parent r (hrest op hop)) start
    grind [State.requests]

/-- **Which calls take effect.** Whenever the controls are free, the engine shows the arguments of
the last accepted call of each kind, not counting the calls of windows that dropped them. Such a
window saw a stop request or a native reset; where there is none, no accepted call is lost. -/
theorem kept_requests (hreach : Reachable s) (h : driver.Reentrant) (hrun : Run driver s w)
    (hfree : w.state.controlsHeld = false) :
    InEffect (keptCalls w.log) w.state ∧ DropsForCause w.log ∧
      ((∀ now ok, .engine .discardControls now ok ∉ w.log) →
        keptCalls w.log = acceptedCalls w.log) := by
  obtain ⟨m, hjustified, -⟩ := hrun.justified h
  have hstart : s.controlsHeld = false := by
    by_contra hheld
    have hstays := hrun.stays_held h (by simpa using hheld)
    exact Bool.false_ne_true (hfree.symm.trans hstays.2)
  have htracked : Tracks s.requests (controlCalls w.log) w.state := hrun.tracked hreach h hstart
  have hfollows := htracked.follows
  rw [State.pendingRequests_free hfree] at hfollows
  refine ⟨inEffect_of_requests hfollows.live_eq, dropsForCause_of_after hjustified, ?_⟩
  intro hkeeps
  have hno : .abort ∉ w.log.filterMap Event.act := by
    intro hmem
    obtain ⟨e, he, hact⟩ := List.mem_filterMap.mp hmem
    cases e with
    | engine op now ok =>
      rw [Event.act] at hact
      split at hact
      · rw [Op.eq_of_act_abort hact] at he
        exact hkeeps _ _ he
      · cases hact
    | _ => cases hact
  have hall : (controlCalls w.log).kept ++ (controlCalls w.log).held.getD [] = _ :=
    calls_of_no_abort hno
  rw [hfollows.held_none, Option.getD_none, List.append_nil] at hall
  exact hall

/-- The plan that native code asks for while the bench's window is open. -/
def benchPlan : Sequence :=
  { channels := (Vector.replicate 16 0).setIfInBounds 0 149, count := 16, step := 3 }

/-- The window in which it was asked for ends by its timer. -/
theorem kept_requests_timer :
    let w := (benchOpen.engine (.setSequence benchPlan) 10003000).tick
    w.state.controlsHeld = false ∧ keptCalls w.log = [.setSequence benchPlan] ∧
      w.state.ownSequence = benchPlan := by
  intro w
  have hrun : Run bench benchState w := (benchOpen_run.step (.engine rfl 10003000)).tick
  have hfree : w.state.controlsHeld = false := by decide +kernel
  have hkept : keptCalls w.log = [.setSequence benchPlan] := by decide +kernel
  have heffect := (kept_requests benchState_reachable bench_reentrant hrun hfree).1
  exact ⟨hfree, hkept, (heffect.sequence [] [] benchPlan hkept nofun).1⟩

/-- The same call in a window that `stop` ends: it was accepted, the controls are free, and the
engine keeps the plan it had. -/
theorem stop_drops_plan :
    let w := Call.stop.run bench (benchOpen.engine (.setSequence benchPlan) 10003000)
    Run bench benchState w ∧ .engine (.setSequence benchPlan) 10003000 true ∈ w.log ∧
      acceptedCalls w.log = [.setSequence benchPlan] ∧ w.state.controlsHeld = false ∧
      w.sched.phase = .stopped ∧ w.state.ownSequence = benchState.ownSequence ∧
      benchState.ownSequence ≠ benchPlan :=
  ⟨(benchOpen_run.step (.engine rfl 10003000)).step (.call .stop), by decide +kernel,
    by decide +kernel, by decide +kernel, by decide +kernel, by decide +kernel, by decide +kernel⟩

end AirportAwdl.Scheduler
