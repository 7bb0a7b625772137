import AirportAwdl.Scheduler.Run

/-!
# No lost wakeup

A scheduler that is neither stopped nor failed waits for a timer. Calls come to rest with the
timer armed last (`Settled`), and between two calls nothing else operates it, so the last timer
operation of a run is one that armed it.
-/

namespace AirportAwdl.Scheduler

open AirportAwdl.Election

variable {D : Type} {driver : WindowDriver D} {s : State} {w w' : World D}

/-- Operations on the driver's timer. -/
def Event.isTimer : Event → Bool
  | .armTimer _ _ _ | .cancelTimer => true
  | _ => false

/-- After `earlier`, the last timer operation of the log armed the timer. -/
def ArmedSince (earlier log : List Event) : Prop :=
  ∃ before deadline now rest, log = before ++ .armTimer deadline now true :: rest ∧
    earlier <+: before ∧ ∀ e ∈ rest, e.isTimer = false

lemma Rearmed.armedSince (h : Rearmed driver w w') : ArmedSince w.log w'.log := by
  obtain ⟨earlier, deadline, now, d, hlog, hearlier, -⟩ := h
  exact ⟨earlier, deadline, now, [], hlog, hearlier, nofun⟩

lemma ArmedSince.append {earlier log events : List Event} (h : ArmedSince earlier log)
    (hevents : ∀ e ∈ events, e.isTimer = false) : ArmedSince earlier (log ++ events) := by
  obtain ⟨before, deadline, now, rest, rfl, hbefore, hrest⟩ := h
  refine ⟨before, deadline, now, rest ++ events, by simp, hbefore, fun e he => ?_⟩
  rcases List.mem_append.mp he with he | he
  · exact hrest e he
  · exact hevents e he

lemma ArmedSince.from_start {earlier log : List Event} (h : ArmedSince earlier log) :
    ArmedSince [] log := by
  obtain ⟨before, deadline, now, rest, hlog, -, hrest⟩ := h
  exact ⟨before, deadline, now, rest, hlog, List.nil_prefix, hrest⟩

/-- Stopped, failed, or waiting for the timer that was armed after `earlier`. -/
def Awaits (earlier : List Event) (w : World D) : Prop :=
  (w.sched.phase = .stopped ∨ w.sched.phase = .failed) ∨
    (w.sched.phase = .idle ∨ w.sched.phase = .reserved ∨ w.sched.phase = .open) ∧
      ArmedSince earlier w.log

lemma Awaits.from_start {earlier : List Event} (h : Awaits earlier w) : Awaits [] w :=
  h.imp_right (.imp_right ArmedSince.from_start)

/-- A call that settles is stopped, failed or has armed the timer. -/
lemma Settled.awaits {R : World D → World D → Prop} (h : Settled driver R w w') :
    Awaits w.log w' := by
  rcases h.rest with hstopped | hfailed | ⟨hphase, harm⟩
  · exact .inl (.inl hstopped)
  · exact .inl (.inr hfailed)
  · exact .inr ⟨hphase, harm.armedSince⟩

/-- Between the outermost calls the scheduler is stopped, failed or waits. -/
theorem Run.awaits (h : driver.Reentrant) (hrun : Run driver s w) : Awaits [] w := by
  induction hrun with
  | fresh d => exact .inl (.inl rfl)
  | step hbefore hstep ih =>
    cases hstep with
    | engine hop now =>
      exact ih.imp_right (.imp_right fun harm => harm.append (by simp [Event.isTimer]))
    | environment d => exact ih
    | call c =>
      rcases call_spec h.hooked (hbefore.atRest h) c with hsame | hsettled
      · rw [hsame]
        exact ih
      · exact hsettled.awaits.from_start

/-- **No lost wakeup.** An outermost call returns with the scheduler stopped or failed, or with
the last timer operation one that armed the timer: during the call, or before a call that changed
nothing. A service always arms it anew, whatever became of the timer it was called for. -/
theorem call_awaits (h : driver.Reentrant) (hrun : Run driver s w) (c : Call) :
    (Awaits w.log (c.run driver w) ∨ c.run driver w = w ∧ Awaits [] w) ∧
      Awaits w.log (Call.service.run driver w) := by
  have hrest := hrun.atRest h
  refine ⟨?_, (service_spec h.hooked hrest).awaits⟩
  rcases call_spec h.hooked hrest c with hsame | hsettled
  · exact .inr ⟨hsame, hrun.awaits h⟩
  · exact .inl hsettled.awaits

/-- The first service after a start opens a window and waits for its end. -/
theorem call_awaits_open :
    let w := benchStart {}
    (w.tick.sched.phase = .open) ∧
      Awaits { w with driver := { w.driver with time := w.driver.deadline } }.log w.tick :=
  ⟨by decide +kernel,
    (call_awaits bench_reentrant ((benchStart_run {}).step (.environment _)) .service).2⟩

end AirportAwdl.Scheduler
