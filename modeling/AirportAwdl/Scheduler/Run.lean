import AirportAwdl.Scheduler.Service

/-!
# Runs with re-entrant drivers

Inside a hook, a call of native code back into the scheduler finds a phase in which it can do
nothing but request a stop (`Native.calm`). So a driver whose hooks do what native code may
do is hooked to `Calm`, every outermost call is a path of moves, and `Run.invariant` is the
rule by which properties of whole runs are proved: check them for one move and for one calm
step.
-/

namespace AirportAwdl.Scheduler

open AirportAwdl.Election StateProgram
open Relation (ReflTransGen)

variable {D : Type} {driver : WindowDriver D} {s : State} {w w' : World D}

/-- `stop` inside a hook: the request is noted, the dispatch in progress will act on it. -/
def World.deferStop (w : World D) (cancelTimer : D → D) : World D :=
  { w with
    sched := { w.sched with stopRequested := true }
    driver := cancelTimer w.driver
    log := w.log ++ [.stopRequest, .cancelTimer] }

/-- What native code achieves inside a hook, or between two calls, in one go. -/
inductive Calm (driver : WindowDriver D) : World D → World D → Prop
  | nothing {w : World D} : Calm driver w w
  | stop {w : World D} : Calm driver w (w.deferStop driver.cancelTimer)
  | engine {w : World D} {op : Op} (hop : external op) (now : ℕ) : Calm driver w (w.engine op now)
  | environment {w : World D} (d : D) : Calm driver w { w with driver := d }

lemma stop_inHook (hphase : w.sched.phase.inHook) :
    Call.stop.run driver w = w.deferStop driver.cancelTimer := by
  have hrun : Call.stop.run driver w = { w with
      sched := { w.sched with stopRequested := true }
      driver := driver.cancelTimer w.driver
      log := w.log ++ [.stopRequest] ++ [.cancelTimer] } := by
    show ((if w.sched.phase.inHook then pure false else _ : StateM (World D) Bool).run _).2 = _
    rw [if_pos hphase]
    rfl
  rw [hrun, List.append_assoc]
  rfl

/-- Inside a hook every call returns at once; `stop` leaves its request behind. -/
lemma Call.run_inHook (driver : WindowDriver D) (hphase : w.sched.phase.inHook) (c : Call) :
    c.run driver w = w ∨ c.run driver w = w.deferStop driver.cancelTimer := by
  have hne : ∀ p : Phase, p.inHook = false → w.sched.phase ≠ p := by
    grind
  cases c with
  | start maximumVisitUs preparationLeadUs =>
    left
    have hrun : (Scheduler.start driver maximumVisitUs preparationLeadUs).run w = (false, w) := by
      show (if w.sched.phase ≠ .stopped ∨ w.state.controlsHeld then _ else _ :
        StateM (World D) Bool).run w = _
      rw [if_pos (.inl (hne .stopped rfl))]
      rfl
    show ((Scheduler.start driver maximumVisitUs preparationLeadUs).run w).2 = w
    rw [hrun]
  | service =>
    left
    have hrun : (Scheduler.service driver).run w = ((), w) := by
      show (if w.sched.phase = .stopped ∨ w.sched.phase = .failed ∨ w.sched.phase.inHook ∨
        w.sched.phase = .returning then _ else _ : StateM (World D) Unit).run w = _
      rw [if_pos (.inr (.inr (.inl hphase)))]
      rfl
    show ((Scheduler.service driver).run w).2 = w
    rw [hrun]
  | stop => exact .inr (stop_inHook hphase)
  | recover =>
    left
    have hrun : (Scheduler.recover driver).run w = (false, w) := by
      show (if w.sched.phase = .failed ∧ !w.sched.nativeResetRequired then _ else _ :
        StateM (World D) Bool).run w = _
      rw [if_neg fun h => hne .failed rfl h.1]
      rfl
    show ((Scheduler.recover driver).run w).2 = w
    rw [hrun]

lemma Native.calm (hphase : w.sched.phase.inHook) (h : Native driver w w') : Calm driver w w' := by
  cases h with
  | engine hop now => exact .engine hop now
  | environment d => exact .environment d
  | call c =>
    rcases c.run_inHook driver hphase with hrun | hrun
    · rw [hrun]
      exact .nothing
    · rw [hrun]
      exact .stop

lemma Calm.sched (h : Calm driver w w') :
    ∃ b : Bool, (w.sched.stopRequested → b) ∧ w'.sched = { w.sched with stopRequested := b } := by
  cases h with
  | stop => exact ⟨true, fun _ => rfl, rfl⟩
  | _ => exact ⟨w.sched.stopRequested, id, rfl⟩

lemma Calm.log_grows (h : Calm driver w w') : w.log <+: w'.log := by
  cases h with
  | stop => exact List.prefix_append _ _
  | engine => exact List.prefix_append _ _
  | _ => exact List.prefix_rfl

lemma calm_of_native (hphase : w.sched.phase.inHook) (h : ReflTransGen (Native driver) w w') :
    ReflTransGen (Calm driver) w w' ∧ w'.sched.phase.inHook := by
  induction h with
  | refl => exact ⟨.refl, hphase⟩
  | tail _ hstep ih =>
    have hcalm := hstep.calm ih.2
    grind [hcalm.sched]

lemma WindowDriver.Reentrant.hooked (h : driver.Reentrant) : Hooked driver (Calm driver) where
  reserve channel durationMs w hw :=
    (calm_of_native (by rw [hw]; rfl) (h.reserve channel durationMs w hw)).1
  windowStart window wire w hw :=
    (calm_of_native (by rw [hw]; rfl) (h.windowStart window wire w hw)).1
  windowEnd window wire w hw :=
    (calm_of_native (by rw [hw]; rfl) (h.windowEnd window wire w hw)).1
  keeps _ h := h.sched
  grows _ h := h.log_grows

lemma Settled.atRest {R : World D → World D → Prop} (h : Settled driver R w w') :
    AtRest w'.sched := by
  refine ⟨?_, h.reset⟩
  rcases h.rest with h | h | ⟨h | h | h, -⟩ <;> simp [h]

/-- The scheduler is at rest between the outermost calls. -/
lemma Run.atRest (h : driver.Reentrant) (hrun : Run driver s w) : AtRest w.sched := by
  induction hrun with
  | fresh d => exact ⟨.inl rfl, nofun⟩
  | step _ hstep ih =>
    cases hstep with
    | engine => exact ih
    | environment => exact ih
    | call c =>
      rcases call_spec h.hooked ih c with hsame | hsettled
      · rw [hsame]
        exact ih
      · exact hsettled.atRest

/-- What every step keeps, a path keeps. -/
lemma Path.invariant {R : World D → World D → Prop} {I : World D → Prop}
    (hstep : ∀ {w w'}, I w → Step driver R w w' → I w') (h : Path driver R w w') (hw : I w) :
    I w' := by
  induction h with
  | refl => exact hw
  | tail _ hlast ih => exact hstep ih hlast

/-- **Invariant rule.** What holds of a fresh scheduler and survives every move and every calm
step holds throughout every run. -/
theorem Run.invariant (h : driver.Reentrant) {I : World D → Prop}
    (hfresh : ∀ d, I (World.fresh s d))
    (hstep : ∀ {w w'}, I w → Step driver (Calm driver) w w' → I w')
    (hcalm : ∀ {w w'}, I w → Calm driver w w' → I w') (hrun : Run driver s w) : I w := by
  induction hrun with
  | fresh d => exact hfresh d
  | step hbefore hlast ih =>
    cases hlast with
    | engine hop now => exact hcalm ih (.engine hop now)
    | environment d => exact hcalm ih (.environment d)
    | call c =>
      rcases call_spec h.hooked (hbefore.atRest h) c with hsame | hsettled
      · rw [hsame]
        exact ih
      · exact Path.invariant hstep hsettled.path ih

/-! ## A bench

A driver that grants everything and keeps a clock, a deadline and the radio's channel, like the
drivers that the scheduler is tested with. Its native side may ask for a stop from inside the
start event. -/

structure Bench where
  time : ℕ := 10000000
  deadline : ℕ := 0
  current : UInt8 := 6
  stopAtStart : Bool := false
deriving DecidableEq, Repr

def Bench.cancelTimer (d : Bench) : Bench := { d with deadline := 0 }

def bench : WindowDriver Bench where
  nowUs d := (d.time, d)
  ready _ d := (true, d)
  channelAllowed channel d := (channel == 44 || channel == 149, d)
  currentChannel d := (d.current, d)
  wireTime host d := (some (UInt32.ofNat (host + 1234)), d)
  armTimer deadline _ d := (true, { d with deadline := deadline })
  cancelTimer := Bench.cancelTimer
  restore d := (true, { d with current := 6 })
  reserve channel _ w := (.granted, { w with driver := { w.driver with current := channel } })
  windowStart _ _ w := (true, if w.driver.stopAtStart then w.deferStop Bench.cancelTimer else w)
  windowEnd _ _ w := (true, w)

lemma bench_reentrant : bench.Reentrant where
  reserve channel _ w _ := .single (.environment { w.driver with current := channel })
  windowStart _ _ w hw := by
    show ReflTransGen (Native bench) w (if w.driver.stopAtStart then _ else w)
    split
    · have hstop : Call.stop.run bench w = _ := stop_inHook (by rw [hw]; rfl)
      exact .single (hstop ▸ .call .stop)
    · exact .refl
  windowEnd _ _ _ _ := .refl

/-- The timer fires. -/
def World.tick (w : World Bench) : World Bench :=
  Call.service.run bench { w with driver := { w.driver with time := w.driver.deadline } }

lemma Run.tick {w : World Bench} (h : Run bench s w) : Run bench s w.tick :=
  (h.step (.environment _)).step (.call .service)

/-- An engine on its own schedule: channel 44 in the first slot, four windows a slot. -/
def benchState : State :=
  State.fresh (Mac.of 2 1 2 3 4 5)
    { channels := (Vector.replicate 16 0).setIfInBounds 0 44, count := 16, step := 3 } 10000000 1 false

/-- Started over `benchState`, before the first service. -/
def benchStart (d : Bench) : World Bench :=
  (Call.start 100000 0).run bench (World.fresh benchState d)

lemma benchStart_run (d : Bench) : Run bench benchState (benchStart d) :=
  (Run.fresh d).step (.call (.start 100000 0))

end AirportAwdl.Scheduler
