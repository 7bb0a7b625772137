import AirportAwdl.Scheduler.Run
import AirportAwdl.Scheduler.Windows

/-!
# The preparation lead

`lead` is how much ahead of a window its channel is reserved. It is computed when a scheduler is
started and after every reservation, from the time that reservations took and from the presence at
that moment, such that lead and window together fit the longest visit. A plan made with a longer
presence than that may not fit, and such a window is skipped (`planPoint` is the point of a service
at which it plans).

Everything but a start and the end of a reservation leaves the lead alone (`Quiet`).
-/

namespace AirportAwdl.Scheduler

open AirportAwdl.Election StateProgram
open Relation (ReflTransGen)

variable {D : Type} {driver : WindowDriver D} {s : State} {w w' w₁ : World D} {e : Event}
  {log events : List Event}

section
variable (driver : WindowDriver D)

/-- `service` in phase `Idle`, up to its plan; the result is the time it plans at. -/
def idlePoint (now : ℕ) : StateM (World D) (Option ℕ) := do
  if (← driver.askWireTime now).isNone then
    orStop driver (armAfter driver now 5000)
    pure none
  else
    engine .elect now
    pure (some now)

def phasePoint (now : ℕ) : StateM (World D) (Option ℕ) := do
  let w ← get
  if w.sched.phase = .reserved then
    serviceReserved driver now
    pure none
  else if w.sched.phase = .idle then idlePoint driver now
  else pure none

def openPoint (now : ℕ) : StateM (World D) (Option ℕ) := do
  let w ← get
  if ← keepsOpen driver w.sched.window now then
    orStop driver (arm driver w.sched.window.endUs)
    pure none
  else
    closeWindow driver now
    let home ← returnHome driver
    let w ← get
    if !home || w.sched.phase = .stopped then pure none
    else
      let now ← driver.askNow
      phasePoint driver now

/-- `service` up to its plan, if it comes to one. -/
def planPoint : StateM (World D) (Option ℕ) := do
  let w ← get
  if w.sched.phase = .stopped ∨ w.sched.phase = .failed ∨ w.sched.phase.inHook ∨
      w.sched.phase = .returning then pure none
  else
    let now ← driver.askNow
    if ← pure w.sched.stopRequested <||> (not <$> driver.askReady) then
      discard <| stop driver
      pure none
    else if w.sched.phase = .open then openPoint driver now
    else phasePoint driver now

/-- When the reservation of a window is due. -/
def requestAt (lead : ℕ) (planned : ScheduledWindow) : ℕ :=
  if planned.startUs > lead then planned.startUs - lead else 0

/-- `service` from its plan on -/
def servicePlan (now : ℕ) : StateM (World D) Unit := do
  match ← plan driver now with
  | none => orStop driver (armAfter driver now 5000)
  | some planned =>
    let w ← get
    if now < requestAt w.sched.lead planned then
      orStop driver (arm driver (requestAt w.sched.lead planned))
    else if planned.endUs ≤ now ∨ planned.endUs - now > w.sched.maximumVisit then
      update fun s => { s with skip := planned, haveSkip := true }
      orStop driver (armAfter driver now 1000)
    else serviceVisit driver planned now

end

lemma ite_bind_eq {σ α β : Type} {c : Prop} [Decidable c] (m n : StateM σ α) (f : α → StateM σ β) :
    ((if c then m else n) >>= f) = if c then m >>= f else n >>= f := by
  split <;> rfl

lemma service_eq (driver : WindowDriver D) :
    service driver = planPoint driver >>= fun point => point.elim (pure ()) (servicePlan driver) := by
  have hidle : ∀ now, serviceIdle driver now =
      idlePoint driver now >>= fun point => point.elim (pure ()) (servicePlan driver) := by
    intro now
    unfold serviceIdle idlePoint
    simp only [bind_assoc, ite_bind_eq, pure_bind, Option.elim_none, Option.elim_some]
    rfl
  have hphase : ∀ now, servicePhase driver now =
      phasePoint driver now >>= fun point => point.elim (pure ()) (servicePlan driver) := by
    intro now
    unfold servicePhase phasePoint
    simp only [bind_assoc, ite_bind_eq, pure_bind, Option.elim_none, hidle]
    rfl
  have hopen : ∀ now, serviceOpen driver now =
      openPoint driver now >>= fun point => point.elim (pure ()) (servicePlan driver) := by
    intro now
    unfold serviceOpen openPoint
    simp only [bind_assoc, ite_bind_eq, pure_bind, Option.elim_none, hphase]
    rfl
  unfold service planPoint
  simp only [bind_assoc, ite_bind_eq, pure_bind, Option.elim_none, hphase, hopen]
  rfl

/-- The engine after the calls that a log shows. -/
def replay (s : State) (events : List Event) : State :=
  events.foldl (fun s e => match e with
    | .engine op now _ => op.apply s now
    | _ => s) s

/-- The start and the end of a reservation. -/
def Event.reservation : Event → Bool
  | .reserve .. | .reserved _ => true
  | _ => false

/-- Events other than engine calls and reservations. -/
def Event.plain : Event → Bool
  | .engine .. | .reserve .. | .reserved _ => false
  | _ => true

lemma replay_append (s : State) (l l' : List Event) :
    replay s (l ++ l') = replay (replay s l) l' := List.foldl_append

lemma reservation_of_plain (h : e.plain = true) : e.reservation = false := by
  cases e <;> first | rfl | exact absurd h Bool.noConfusion

lemma replay_plain (s : State) (h : e.plain = true) : replay s [e] = s := by
  cases e <;> first | rfl | exact absurd h Bool.noConfusion

/-- From `w` to `w'` nothing was reserved. -/
structure Quiet (w w' : World D) : Prop where
  lead : w'.sched.lead = w.sched.lead
  maximumVisit : w'.sched.maximumVisit = w.sched.maximumVisit
  log : ∃ events, w'.log = w.log ++ events ∧ (∀ e ∈ events, e.reservation = false) ∧
    w'.state = replay w.state events

lemma Quiet.refl (w : World D) : Quiet w w :=
  ⟨rfl, rfl, [], (List.append_nil _).symm, fun _ he => absurd he List.not_mem_nil, rfl⟩

lemma Quiet.trans {w₂ : World D} (h : Quiet w w₁) (h' : Quiet w₁ w₂) : Quiet w w₂ := by
  obtain ⟨events, hlog, hevents, hstate⟩ := h.log
  obtain ⟨events', hlog', hevents', hstate'⟩ := h'.log
  refine ⟨h'.lead.trans h.lead, h'.maximumVisit.trans h.maximumVisit, events ++ events', ?_, ?_, ?_⟩
  · rw [hlog', hlog, List.append_assoc]
  · grind
  · rw [hstate', hstate, replay_append]

instance quietPreorder : IsPreorder (World D) Quiet where
  refl := Quiet.refl
  trans _ _ _ := Quiet.trans

lemma Quiet.single (hlead : w'.sched.lead = w.sched.lead)
    (hmaximum : w'.sched.maximumVisit = w.sched.maximumVisit) (hlog : w'.log = w.log ++ [e])
    (he : e.reservation = false) (hstate : w'.state = replay w.state [e]) : Quiet w w' := by
  refine ⟨hlead, hmaximum, [e], hlog, fun e' he' => ?_, hstate⟩
  rw [List.mem_singleton.mp he']
  exact he

lemma Quiet.of_sched {sched : WindowScheduler} (hlead : sched.lead = w.sched.lead)
    (hmaximum : sched.maximumVisit = w.sched.maximumVisit) : Quiet w { w with sched := sched } :=
  ⟨hlead, hmaximum, [], (List.append_nil _).symm, fun _ he => absurd he List.not_mem_nil, rfl⟩

lemma Quiet.inPhase (w : World D) (p : Phase) : Quiet w (w.inPhase p) := .of_sched rfl rfl

lemma Quiet.logged (w : World D) (he : e.plain = true) : Quiet w (w.logged [e]) :=
  .single rfl rfl rfl (reservation_of_plain he) (replay_plain _ he).symm

lemma Calm.quiet (h : Calm driver w w') : Quiet w w' := by
  cases h with
  | nothing => exact .refl w
  | stop =>
    refine ⟨rfl, rfl, [.stopRequest, .cancelTimer], rfl, ?_, rfl⟩
    decide
  | engine hop now => exact .single rfl rfl rfl rfl rfl
  | environment d =>
    exact ⟨rfl, rfl, [], (List.append_nil _).symm, fun _ he => absurd he List.not_mem_nil, rfl⟩

lemma quiet_of_native (hphase : w.sched.phase.inHook) (h : ReflTransGen (Native driver) w w') :
    Quiet w w' := by
  have hcalm := (calm_of_native hphase h).1
  clear h
  induction hcalm with
  | refl => exact .refl w
  | tail _ hlast ih => exact ih.trans hlast.quiet

section
variable {α : Type}

lemma quiet_query {ask : D → α × D} {note : α → Event} (hnote : ∀ a, (note a).plain = true) :
    Preserves Quiet (query ask note) := fun _ =>
  .single rfl rfl rfl (reservation_of_plain (hnote _)) (replay_plain _ (hnote _)).symm

lemma quiet_engine (op : Op) (now : ℕ) : Preserves (σ := World D) Quiet (engine op now) :=
  fun _ => .single rfl rfl rfl rfl rfl

lemma quiet_update {f : WindowScheduler → WindowScheduler}
    (hf : ∀ s, (f s).lead = s.lead ∧ (f s).maximumVisit = s.maximumVisit) :
    Preserves (σ := World D) Quiet (update f) := fun w => .of_sched (hf w.sched).1 (hf w.sched).2

lemma quiet_enter (p : Phase) : Preserves (σ := World D) Quiet (enter p) := fun w => .inPhase w p

lemma quiet_note {e : Event} (he : e.plain = true) : Preserves (σ := World D) Quiet (note e) :=
  fun w => .logged w he

end

section
variable (driver : WindowDriver D)

lemma quiet_askNow : Preserves Quiet driver.askNow := quiet_query fun _ => rfl
lemma quiet_askReady : Preserves Quiet driver.askReady := fun w => quiet_query (fun _ => rfl) w
lemma quiet_askAllowed (channel : UInt8) : Preserves Quiet (driver.askAllowed channel) :=
  quiet_query fun _ => rfl
lemma quiet_askChannel : Preserves Quiet driver.askChannel := quiet_query fun _ => rfl
lemma quiet_askWireTime (host : ℕ) : Preserves Quiet (driver.askWireTime host) :=
  quiet_query fun _ => rfl
lemma quiet_cancelTimer : Preserves Quiet driver.callCancelTimer := quiet_query fun _ => rfl
lemma quiet_restore : Preserves Quiet driver.callRestore := quiet_query fun _ => rfl

lemma quiet_arm (deadline : ℕ) : Preserves Quiet (arm driver deadline) :=
  (quiet_askNow driver).bind fun _ => quiet_query fun _ => rfl

lemma quiet_armAfter (now delay : ℕ) : Preserves Quiet (armAfter driver now delay) :=
  .ite (quiet_arm driver _) .pure

lemma quiet_freeControls (now : ℕ) : Preserves Quiet (freeControls driver now) :=
  (quiet_engine _ _).bind fun _ => .bind .get fun _ => .ite (quiet_engine _ _)
    ((quiet_askNow driver).bind fun _ => quiet_engine _ _)

lemma quiet_settle : Preserves Quiet (settle driver) :=
  .bind .get fun _ => .ite ((quiet_enter _).bind fun _ => .pure) <|
    .ite ((quiet_enter _).bind fun _ => .pure) <| (quiet_enter _).bind fun _ =>
      (quiet_askNow driver).bind fun _ => (quiet_armAfter driver _ _).bind fun _ =>
        .ite .pure ((quiet_update (by exact fun _ => ⟨rfl, rfl⟩)).bind fun _ => .pure)

lemma quiet_returnHome : Preserves Quiet (returnHome driver) :=
  (quiet_cancelTimer driver).bind fun _ => (quiet_enter _).bind fun _ => .bind .get fun _ =>
    (Preserves.andM .pure (quiet_restore driver).map).bind fun _ =>
      .ite ((quiet_enter _).bind fun _ => .pure)
        ((quiet_update (by exact fun _ => ⟨rfl, rfl⟩)).bind fun _ => quiet_settle driver)

lemma quiet_keepsOpen (window : ScheduledWindow) (now : ℕ) :
    Preserves Quiet (keepsOpen driver window now) :=
  .andM .pure <| .andM (quiet_askWireTime driver now).map <| .andM (quiet_askChannel driver).map <|
    .andM (quiet_askAllowed driver _) (quiet_askNow driver).map

lemma quiet_misses (window : ScheduledWindow) (s : State) (now : ℕ) :
    Preserves Quiet (misses driver window s now) :=
  .orM .pure <| .orM (quiet_askAllowed driver _).map <| .orM (quiet_askChannel driver).map .pure

end

section
variable (h : driver.Reentrant)
include h

lemma quiet_endWindow (window : ScheduledWindow) (now : ℕ) (hphase : w.sched.phase = .closing) :
    wp (endWindow driver window now) (fun _ w' => Quiet w w') w := by
  unfold endWindow
  rw [wp_ite]
  refine ⟨fun _ => .refl w, fun _ => ?_⟩
  rw [wp_bind, WindowDriver.askWireTime, wp_query]
  generalize hv : ({ w with driver := _, log := _ } : World D) = v
  have hasked : Quiet w v := hv ▸ quiet_askWireTime driver _ w
  have hphase : v.sched.phase = .closing := by rw [← hv]; exact hphase
  split
  · exact hasked
  · rename_i wire _
    have hissued : Quiet v (v.logged [.windowEnd window wire]) := .logged v rfl
    have hnative := quiet_of_native (by rw [World.sched_logged, hphase]; rfl)
      (h.windowEnd window wire (v.logged [.windowEnd window wire]) hphase)
    exact ((hasked.trans hissued).trans hnative).trans (.logged _ rfl)

lemma quiet_closeWindow (now : ℕ) : Preserves Quiet (closeWindow driver now) := by
  intro w
  unfold closeWindow
  rw [wp_bind, wp_get, wp_ite]
  refine ⟨fun _ => .refl w, fun _ => ?_⟩
  rw [wp_enter]
  refine wp_seq (quiet_endWindow h w.sched.window now rfl) fun ended w₁ h₁ => ?_
  have hfree : Preserves Quiet (freeControls driver now >>= fun _ => enter .reserved) :=
    (quiet_freeControls driver now).bind fun _ => quiet_enter _
  refine Preserves.after (.ite ?_ hfree) ((Quiet.inPhase w .closing).trans h₁)
  exact (quiet_update (by exact fun _ => ⟨rfl, rfl⟩)).bind fun _ => (quiet_note (by rfl)).bind fun _ => hfree

lemma quiet_stop : Preserves Quiet (stop driver) := by
  refine (quiet_update (by exact fun _ => ⟨rfl, rfl⟩)).bind fun _ => (quiet_note (by rfl)).bind fun _ =>
    (quiet_cancelTimer driver).bind fun _ => .bind .get fun w => .ite .pure <| .ite .pure <| .ite ?_ ?_
  · exact (quiet_askNow driver).bind fun now => (quiet_closeWindow h now).bind fun _ =>
      quiet_returnHome driver
  · exact quiet_returnHome driver

lemma quiet_orStop {armed : StateM (World D) Bool} (harm : Preserves Quiet armed) :
    Preserves Quiet (orStop driver armed) :=
  harm.bind fun _ => .ite (quiet_stop h).map .pure

lemma quiet_startWindow (now : ℕ) (wire : UInt32) : Preserves Quiet (startWindow driver now wire) := by
  intro w
  unfold startWindow
  rw [wp_bind, wp_get, wp_update, wp_engine, wp_engine, wp_enter, wp_bind,
    WindowDriver.callWindowStart, wp_hook]
  generalize hv : World.logged _ [Event.windowStart _ wire] = v
  have hissued : Quiet w v := by
    rw [← hv]
    refine ⟨rfl, rfl, _, List.append_assoc _ _ _ |>.trans (List.append_assoc _ _ _), ?_, rfl⟩
    simp [Event.reservation]
  have hphase : v.sched.phase = .opening := by rw [← hv]; rfl
  have hnative := quiet_of_native (by rw [hphase]; rfl)
    (h.windowStart (stampWindow w.sched.window w.state now) wire v hphase)
  refine Preserves.after (.ite ?_ ?_) ((hissued.trans hnative).trans
    (.logged _ (e := .started _) rfl))
  · refine (quiet_engine _ _).bind fun _ => (quiet_enter _).bind fun _ => .bind .get fun _ =>
      .ite ?_ ?_
    · exact (quiet_askNow driver).bind fun now => (quiet_closeWindow h now).bind fun _ =>
        (quiet_returnHome driver).map
    · exact (quiet_arm driver _).bind fun _ => .ite (quiet_stop h).map .pure
  · exact (quiet_enter _).bind fun _ => (quiet_engine _ _).bind fun _ =>
      (quiet_askNow driver).bind fun _ => (quiet_engine _ _).bind fun _ =>
        (quiet_returnHome driver).map

lemma quiet_openWindow (now : ℕ) : Preserves Quiet (openWindow driver now) := by
  refine .bind .get fun w => (Preserves.orM .pure (.orM (quiet_askReady driver).map
    (quiet_askAllowed driver _).map)).bind fun _ => .ite (quiet_returnHome driver).map ?_
  refine (quiet_askNow driver).bind fun now => .ite (quiet_returnHome driver).map ?_
  refine (quiet_askWireTime driver now).bind fun wire => ?_
  cases wire with
  | none => exact (quiet_returnHome driver).map
  | some wire => exact quiet_startWindow h now wire

lemma quiet_serviceReserved (now : ℕ) : Preserves Quiet (serviceReserved driver now) :=
  .bind .get fun _ => (quiet_misses driver _ _ now).bind fun _ => .ite (quiet_returnHome driver).map <|
    .ite (quiet_orStop h (quiet_arm driver _)) (quiet_openWindow h now)

lemma quiet_serviceGranted (result : Reservation) (now completed : ℕ) :
    Preserves Quiet (serviceGranted driver result now completed) :=
  (quiet_update (by exact fun _ => ⟨rfl, rfl⟩)).bind fun _ => .bind .get fun _ =>
    (Preserves.orM .pure (quiet_askChannel driver).map).bind fun _ =>
      .ite (quiet_returnHome driver).map <| .ite (quiet_orStop h (quiet_arm driver _))
        (quiet_openWindow h completed)

lemma quiet_planPoint : Preserves Quiet (planPoint driver) := by
  have hidle : ∀ now, Preserves Quiet (idlePoint driver now) := fun now =>
    (quiet_askWireTime driver now).bind fun _ => .ite
      ((quiet_orStop h (quiet_armAfter driver _ _)).bind fun _ => .pure)
      ((quiet_engine _ _).bind fun _ => .pure)
  have hphase : ∀ now, Preserves Quiet (phasePoint driver now) := fun now =>
    .bind .get fun _ => .ite ((quiet_serviceReserved h now).bind fun _ => .pure) <|
      .ite (hidle now) .pure
  have hopen : ∀ now, Preserves Quiet (openPoint driver now) := fun now =>
    .bind .get fun _ => (quiet_keepsOpen driver _ now).bind fun _ => .ite
      ((quiet_orStop h (quiet_arm driver _)).bind fun _ => .pure)
      ((quiet_closeWindow h now).bind fun _ => (quiet_returnHome driver).bind fun _ =>
        .bind .get fun _ => .ite .pure ((quiet_askNow driver).bind fun now => hphase now))
  exact .bind .get fun _ => .ite .pure <| (quiet_askNow driver).bind fun now =>
    (Preserves.orM .pure (quiet_askReady driver).map).bind fun _ =>
      .ite ((quiet_stop h).map.bind fun _ => .pure) (.ite (hopen now) (hphase now))

end

/-- The clock showed `now`, and was not asked since. -/
def Clock (now : ℕ) (log : List Event) : Prop :=
  ∃ earlier since, log = earlier ++ .now now :: since ∧ ∀ e ∈ since, ∀ t, e ≠ .now t

lemma Clock.append {now : ℕ} (h : Clock now log)
    (hevents : ∀ e ∈ events, ∀ t, e ≠ .now t) : Clock now (log ++ events) := by
  obtain ⟨earlier, since, rfl, hsince⟩ := h
  refine ⟨earlier, since ++ events, by simp, fun e he => ?_⟩
  grind

lemma Clock.snoc {now : ℕ} (h : Clock now log) (he : ∀ t, e ≠ .now t) : Clock now (log ++ [e]) :=
  h.append fun e' he' => by rw [List.mem_singleton.mp he']; exact he

lemma clock_askNow : wp driver.askNow (fun now w' => Clock now w'.log) w :=
  ⟨w.log, [], rfl, fun _ he => absurd he List.not_mem_nil⟩

lemma planPoint_clock (driver : WindowDriver D) (w : World D) : wp (planPoint driver)
    (fun point w' => ∀ now, point = some now → Clock now w'.log ∧ w.sched.phase ≠ .stopped) w := by
  have hidle : ∀ {now : ℕ} {v : World D}, Clock now v.log → wp (idlePoint driver now)
      (fun point w' => ∀ now, point = some now → Clock now w'.log) v := by
    intro now v hclock
    unfold idlePoint
    rw [wp_bind, WindowDriver.askWireTime, wp_query, wp_ite]
    refine ⟨fun _ => ?_, fun _ => ?_⟩
    · rw [wp_bind]
      exact fun _ h => by cases h.symm
    · rw [wp_engine, wp_pure]
      rintro _ ⟨⟩
      exact (hclock.snoc fun _ => Event.noConfusion).snoc fun _ => Event.noConfusion
  have hphase : ∀ {now : ℕ} {v : World D}, Clock now v.log → wp (phasePoint driver now)
      (fun point w' => ∀ now, point = some now → Clock now w'.log) v := by
    intro now v hclock
    unfold phasePoint
    rw [wp_bind, wp_get, wp_ite]
    refine ⟨fun _ _ h => absurd h.symm (Option.some_ne_none _), fun _ => ?_⟩
    rw [wp_ite]
    exact ⟨fun _ => hidle hclock, fun _ _ h => absurd h.symm (Option.some_ne_none _)⟩
  have hopen : ∀ (now : ℕ) (v : World D), wp (openPoint driver now)
      (fun point w' => ∀ now, point = some now → Clock now w'.log) v := by
    intro now v
    unfold openPoint
    rw [wp_bind, wp_get, wp_bind]
    refine wp_mono (Q := fun _ _ => True) trivial fun b v₁ _ => ?_
    rw [wp_ite]
    refine ⟨fun _ _ h => absurd h.symm (Option.some_ne_none _), fun _ => ?_⟩
    refine wp_seq (P := fun _ _ => True) trivial fun _ v₂ _ => ?_
    refine wp_seq (P := fun _ _ => True) trivial fun home v₃ _ => ?_
    rw [wp_bind, wp_get, wp_ite]
    exact ⟨fun _ _ h => absurd h.symm (Option.some_ne_none _), fun _ =>
      wp_seq clock_askNow fun now v₄ h₄ => hphase h₄⟩
  unfold planPoint
  rw [wp_bind, wp_get, wp_ite]
  refine ⟨fun _ _ h => absurd h.symm (Option.some_ne_none _), fun hgoing => ?_⟩
  refine wp_seq clock_askNow fun now w₁ h₁ => ?_
  have hready : wp (pure w.sched.stopRequested <||> (not <$> driver.askReady))
      (fun _ w' => Clock now w'.log) w₁ := by
    rw [wp_orM, wp_pure]
    split
    · exact h₁
    · exact h₁.snoc fun _ => Event.noConfusion
  refine wp_seq hready fun b w₂ h₂ => ?_
  rw [wp_ite]
  refine ⟨fun _ _ h => absurd h.symm (Option.some_ne_none _), fun _ => ?_⟩
  rw [wp_ite]
  simp_all

/-- The driver was asked about channels only. -/
structure Polled (w w' : World D) : Prop where
  sched : w'.sched = w.sched
  state : w'.state = w.state
  log : ∃ answers, w'.log = w.log ++ answers ∧ ∀ e ∈ answers, ∃ c b, e = .channelAllowed c b

lemma Polled.refl (w : World D) : Polled w w :=
  ⟨rfl, rfl, [], (List.append_nil _).symm, fun _ he => absurd he List.not_mem_nil⟩

lemma Polled.trans {w₂ : World D} (h : Polled w w₁) (h' : Polled w₁ w₂) : Polled w w₂ := by
  obtain ⟨answers, hlog, hanswers⟩ := h.log
  obtain ⟨answers', hlog', hanswers'⟩ := h'.log
  refine ⟨h'.sched.trans h.sched, h'.state.trans h.state, answers ++ answers', ?_, fun e he => ?_⟩
  · rw [hlog', hlog, List.append_assoc]
  grind

lemma polled_askAllowed (channel : UInt8) (w : World D) :
    wp (driver.askAllowed channel) (fun b w' => Polled w w' ∧
      w'.log = w.log ++ [.channelAllowed channel b]) w :=
  ⟨⟨rfl, rfl, _, rfl, fun _ he => ⟨_, _, List.mem_singleton.mp he⟩⟩, rfl⟩

lemma Polled.quiet (h : Polled w w') : Quiet w w' := by
  obtain ⟨answers, hlog, hanswers⟩ := h.log
  refine ⟨by rw [h.sched], by rw [h.sched], answers, hlog, ?_, ?_⟩
  · intro e he
    obtain ⟨c, b, rfl⟩ := hanswers e he
    rfl
  · rw [h.state]
    clear hlog
    induction answers with
    | nil => rfl
    | cons e answers ih =>
      obtain ⟨c, b, rfl⟩ := hanswers e List.mem_cons_self
      exact ih fun e he => hanswers e (List.mem_cons_of_mem _ he)

lemma Polled.clock {now : ℕ} (h : Polled w w') (hclock : Clock now w.log) : Clock now w'.log := by
  obtain ⟨answers, hlog, hanswers⟩ := h.log
  rw [hlog]
  refine hclock.append fun e he t => ?_
  obtain ⟨c, b, rfl⟩ := hanswers e he
  exact Event.noConfusion

/-- What a planned window is like, and what the driver said last. -/
structure Planned (probe : ℕ) (w : World D) (planned : ScheduledWindow) (w' : World D) : Prop where
  channel : planned.channel ≠ 0
  allowed : ∃ earlier, w'.log = earlier ++ [.channelAllowed planned.channel true]
  endUs : probe < planned.endUs
  length : planned.endUs = planned.startUs + w.state.presence.toNat * awUs

lemma window_of_currentWindow {s : State} {now : ℕ} {window : ScheduledWindow}
    (h : currentWindow s now = some window) :
    now < window.endUs ∧ window.endUs = window.startUs + s.presence.toNat * awUs := by
  unfold currentWindow at h
  split at h
  · cases h.symm
  dsimp only at h
  split at h
  · cases h.symm
  rename_i hbounds
  rw [← Option.some.inj h]
  dsimp only
  omega

lemma planFrom_planned (driver : WindowDriver D) (fuel probe : ℕ) (w : World D) :
    wp (planFrom driver fuel probe) (fun result w' => Polled w w' ∧
      ∀ planned, result = some planned → Planned probe w planned w') w := by
  have hnone : ∀ {w' : World D} (planned : ScheduledWindow), none = some planned →
      Planned probe w planned w' := fun planned h => by cases h.symm
  induction fuel generalizing probe w with
  | zero => exact ⟨.refl w, hnone⟩
  | succ fuel ih =>
    rw [planFrom, wp_bind, wp_get]
    cases hwindow : currentWindow w.state probe with
    | none => exact ⟨.refl w, hnone⟩
    | some window =>
      obtain ⟨hend, hlength⟩ := window_of_currentWindow hwindow
      have hasks : wp (pure (window.channel != 0) <&&> driver.askAllowed window.channel <&&>
          pure (decide (probe - window.startUs ≤ lateToleranceUs) &&
            (!w.sched.haveSkip || !window.same w.sched.skip)))
          (fun b w' => Polled w w' ∧ (b = true → window.channel ≠ 0 ∧
            w'.log = w.log ++ [.channelAllowed window.channel true])) w := by
        rw [wp_andM, wp_pure]
        split
        · rename_i hchannel
          rw [wp_andM]
          refine wp_mono (polled_askAllowed window.channel w) fun answer w₁ h₁ => ?_
          cases answer with
          | true => exact ⟨h₁.1, fun _ => ⟨by simpa using hchannel, h₁.2⟩⟩
          | false => exact ⟨h₁.1, fun h => absurd h Bool.false_ne_true⟩
        · exact ⟨.refl w, fun h => absurd h Bool.false_ne_true⟩
      refine wp_seq hasks fun b w₁ h₁ => ?_
      rw [wp_ite]
      refine ⟨fun hb => ⟨h₁.1, fun planned hplanned => ?_⟩, fun _ => ?_⟩
      · obtain rfl : window = planned := Option.some.inj hplanned
        exact ⟨(h₁.2 hb).1, ⟨w.log, (h₁.2 hb).2⟩, hend, hlength⟩
      rw [wp_ite]
      refine ⟨fun _ => ⟨h₁.1, hnone⟩, fun hnext => ?_⟩
      have hprobe : probe < window.endUs := not_le.mp hnext
      refine wp_mono (ih window.endUs w₁ fun planned h => absurd h.symm (Option.some_ne_none planned))
        fun result w' h' => ⟨h₁.1.trans h'.1, fun planned hplanned => ?_⟩
      have hlater := h'.2 planned hplanned
      exact ⟨hlater.channel, hlater.allowed, hprobe.trans hlater.endUs, by
        rw [hlater.length, h₁.1.state]⟩

lemma plan_planned (driver : WindowDriver D) (now : ℕ) (w : World D) :
    wp (plan driver now) (fun result w' => Polled w w' ∧
      ∀ planned, result = some planned → Planned (now + w.sched.lead) w planned w') w := by
  unfold plan
  rw [wp_bind, wp_get, wp_ite]
  exact ⟨fun _ => ⟨.refl w, fun planned h => absurd h.symm (Option.some_ne_none planned)⟩,
    fun _ => planFrom_planned driver _ _ w⟩

/-- Lead and window fit the longest visit, for windows of the presence `p`. -/
def LeadFits (s : WindowScheduler) (p : UInt8) : Prop :=
  s.lead + p.toNat * awUs ≤ s.maximumVisit ∨ s.lead = 0

/-- The presence at the last reservation that a log shows, or `p`. -/
def leadBasis : State → UInt8 → List Event → UInt8
  | _, p, [] => p
  | s, p, .engine op now _ :: events => leadBasis (op.apply s now) p events
  | s, _, .reserved _ :: events => leadBasis s s.presence events
  | s, p, _ :: events => leadBasis s p events

lemma leadBasis_append (s : State) (p : UInt8) (l l' : List Event) :
    leadBasis s p (l ++ l') = leadBasis (replay s l) (leadBasis s p l) l' := by
  induction l generalizing s p with
  | nil => rfl
  | cons e l ih => cases e <;> exact ih _ _

lemma leadBasis_quiet (h : ∀ e ∈ events, e.reservation = false) (s : State)
    (p : UInt8) : leadBasis s p events = p := by
  induction events generalizing s with
  | nil => rfl
  | cons e events ih =>
    have he := h e List.mem_cons_self
    have ih := fun s => ih (fun e' he' => h e' (List.mem_cons_of_mem _ he')) s
    cases e <;> first | exact ih _ | exact absurd he Bool.noConfusion

/-- A reservation covers its window: the channel is one that the driver allowed last, the driver
was armed with the end of the window, and the duration, 1 to 100 ms, reaches from the time of the
service to that end. -/
def Covered (before : List Event) (channel : UInt8) (durationMs : ℕ) : Prop :=
  ∃ earlier now since armed endUs, before = earlier ++ .now now :: since ++
      [.channelAllowed channel true, .now armed, .armTimer endUs armed true] ∧
    (∀ e ∈ since, ∀ t, e ≠ .now t) ∧ channel ≠ 0 ∧ now < endUs ∧
    endUs - now ≤ durationMs * 1000 ∧ 1 ≤ durationMs ∧ durationMs ≤ 100

/-- Every reservation that a log shows covers its window. -/
def AllCovered (log : List Event) : Prop :=
  ∀ before channel durationMs, before ++ [.reserve channel durationMs] <+: log →
    Covered before channel durationMs

lemma AllCovered.snoc (h : AllCovered log)
    (he : ∀ channel durationMs, e = .reserve channel durationMs → Covered log channel durationMs) :
    AllCovered (log ++ [e]) := by
  intro before channel durationMs hprefix
  rcases List.prefix_concat_iff.mp hprefix with heq | hprefix
  · simp_all
  · exact h before channel durationMs hprefix

lemma AllCovered.append (h : AllCovered log)
    (hevents : ∀ e ∈ events, e.reservation = false) : AllCovered (log ++ events) := by
  induction events generalizing log with
  | nil => rwa [List.append_nil]
  | cons e events ih =>
    have he := hevents e List.mem_cons_self
    have hsnoc : AllCovered (log ++ [e]) := h.snoc fun channel durationMs heq => by
      rw [heq] at he
      cases he.symm
    grind

/-- What a service does to the lead. -/
structure Follows (w w' : World D) : Prop where
  maximumVisit : w'.sched.maximumVisit = w.sched.maximumVisit
  log : ∃ events, w'.log = w.log ++ events ∧ w'.state = replay w.state events ∧
    ∀ p, LeadFits w.sched p → LeadFits w'.sched (leadBasis w.state p events)
  covered : w.sched.maximumVisit ≤ 100000 → AllCovered w.log → AllCovered w'.log

lemma Quiet.follows (h : Quiet w w') : Follows w w' := by
  obtain ⟨events, hlog, hevents, hstate⟩ := h.log
  refine ⟨h.maximumVisit, ⟨events, hlog, hstate, fun p hp => ?_⟩, fun _ hall => ?_⟩
  · rw [leadBasis_quiet hevents, LeadFits, h.lead, h.maximumVisit]
    exact hp
  · rw [hlog]
    exact hall.append hevents

lemma Follows.trans {w₂ : World D} (h : Follows w w₁) (h' : Follows w₁ w₂) : Follows w w₂ := by
  obtain ⟨events, hlog, hstate, hfits⟩ := h.log
  obtain ⟨events', hlog', hstate', hfits'⟩ := h'.log
  refine ⟨h'.maximumVisit.trans h.maximumVisit, ⟨events ++ events', ?_, ?_, fun p hp => ?_⟩,
    fun hmax hall => h'.covered (by rwa [h.maximumVisit]) (h.covered hmax hall)⟩
  · rw [hlog', hlog, List.append_assoc]
  · rw [hstate', hstate, replay_append]
  · rw [leadBasis_append, ← hstate]
    exact hfits' _ (hfits p hp)

lemma observeCost_fits (s : WindowScheduler) (presence : UInt8) (cost : ℕ) :
    LeadFits (observeCost s presence cost) presence := by
  unfold observeCost LeadFits
  dsimp only
  split_ifs <;> omega

lemma Clock.covered {now armed endUs durationMs : ℕ} {channel : UInt8}
    (hclock : Clock now log) (hallowed : ∃ earlier, log = earlier ++ [.channelAllowed channel true])
    (hchannel : channel ≠ 0) (hend : now < endUs) (hcover : endUs - now ≤ durationMs * 1000)
    (hduration : 1 ≤ durationMs ∧ durationMs ≤ 100) :
    Covered (log ++ [.now armed, .armTimer endUs armed true]) channel durationMs := by
  obtain ⟨earlier, since, hlog, hsince⟩ := hclock
  obtain ⟨before, hbefore⟩ := hallowed
  -- the last answer came after the clock was read
  rcases List.eq_nil_or_concat since with rfl | ⟨middle, last, rfl⟩
  · simp_all
  · have heq : (earlier ++ .now now :: middle) ++ [last] = before ++ [.channelAllowed channel true] := by
      rw [← hbefore, hlog]
      simp
    obtain ⟨-, hlast⟩ := List.append_inj' heq rfl
    obtain rfl := List.singleton_inj.mp hlast
    refine ⟨earlier, now, middle, armed, endUs, ?_, ?_, hchannel, hend, hcover, hduration⟩
    · rw [hlog]
      simp
    · exact fun e he => hsince e (by simp [he])

/-- What a start does: nothing, or it took its arguments and left a lead that fits. -/
structure Started (w w' : World D) : Prop where
  state : w'.state = w.state
  log : ∃ events, w'.log = w.log ++ events ∧ ∀ e ∈ events, e.isAnswer = true
  sched : w'.sched = w.sched ∨ w.sched.phase = .stopped ∧ w'.sched.maximumVisit ≤ 100000 ∧
    LeadFits w'.sched w.state.presence

section
variable (h : driver.Reentrant)
include h

/-- From the end of a reservation on. `v` is the world in which it was issued. -/
lemma serviceReturned_follows {v u : World D} {result : Reservation} (now : ℕ)
    (hnative : Quiet v u) :
    wp (serviceReturned driver result now) (fun _ w' =>
      w'.sched.maximumVisit = v.sched.maximumVisit ∧
      ∃ events, w'.log = v.log ++ events ∧ w'.state = replay v.state events ∧
        (∀ p, LeadFits w'.sched (leadBasis v.state p events)) ∧ (AllCovered v.log → AllCovered w'.log))
      (u.logged [.reserved result]) := by
  obtain ⟨events, hlog, hevents, hstate⟩ := hnative.log
  unfold serviceReturned
  rw [wp_bind, WindowDriver.askNow, wp_query, wp_bind, wp_get, wp_update]
  generalize (driver.nowUs (u.logged [.reserved result]).driver).1 = completed
  generalize (driver.nowUs (u.logged [.reserved result]).driver).2 = d
  generalize (if completed ≥ now then _ else _ : ℕ) = cost
  generalize hx : ({ (u.logged [.reserved result]) with
    sched := _, driver := d, log := _ } : World D) = x
  have hsched : x.sched = observeCost u.sched u.state.presence cost := by rw [← hx]; rfl
  have hxstate : x.state = u.state := by rw [← hx]; rfl
  have hxlog : x.log = v.log ++ (events ++ [.reserved result, .now completed]) := by
    rw [← hx]
    simp_all
  have hrest : ∀ {w' : World D}, Quiet x w' → w'.sched.maximumVisit = v.sched.maximumVisit ∧
      ∃ events, w'.log = v.log ++ events ∧ w'.state = replay v.state events ∧
        (∀ p, LeadFits w'.sched (leadBasis v.state p events)) ∧
        (AllCovered v.log → AllCovered w'.log) := by
    intro w' hquiet
    obtain ⟨events', hlog', hevents', hstate'⟩ := hquiet.log
    have hmax : x.sched.maximumVisit = v.sched.maximumVisit := by
      rw [hsched]
      exact hnative.maximumVisit
    refine ⟨hquiet.maximumVisit.trans hmax, events ++ [.reserved result, .now completed] ++ events',
      ?_, ?_, fun p => ?_, fun hall => ?_⟩
    · rw [hlog', hxlog, List.append_assoc]
    · rw [hstate', hxstate, hstate, replay_append, replay_append]
      rfl
    · have hbasis : leadBasis v.state p (events ++ [.reserved result, .now completed]) =
          u.state.presence := by
        rw [leadBasis_append, ← hstate]
        rfl
      rw [leadBasis_append, hbasis, leadBasis_quiet hevents', LeadFits, hquiet.lead,
        hquiet.maximumVisit, hsched]
      exact observeCost_fits _ _ _
    · rw [hlog', hxlog]
      refine AllCovered.append ?_ hevents'
      rw [← List.append_assoc]
      have hreturned : AllCovered (v.log ++ events ++ [.reserved result]) :=
        (hall.append hevents).snoc fun _ _ => Event.noConfusion
      have hread := hreturned.snoc (e := .now completed) fun _ _ => Event.noConfusion
      rwa [List.append_assoc] at hread
  rw [wp_ite]
  refine ⟨fun _ => ?_, fun _ => hrest (quiet_serviceGranted h result now completed x)⟩
  refine hrest (Preserves.bind (quiet_cancelTimer driver) (fun _ => ?_) x)
  exact (quiet_enter _).bind fun _ => .bind .get fun _ => .ite (quiet_enter _)
    (quiet_orStop h (quiet_armAfter driver _ _))

/-- A reservation reaches up to the end of its window, and the lead fits afterwards. -/
lemma serviceVisit_follows {planned : ScheduledWindow} {now : ℕ} (hclock : Clock now w.log)
    (hchannel : planned.channel ≠ 0)
    (hallowed : ∃ earlier, w.log = earlier ++ [.channelAllowed planned.channel true])
    (hend : now < planned.endUs) (hvisit : planned.endUs - now ≤ w.sched.maximumVisit) :
    wp (serviceVisit driver planned now) (fun _ w' => Follows w w') w := by
  unfold serviceVisit
  rw [wp_update]
  generalize hv : ({ w with sched := { w.sched with
    window := planned, skip := planned, haveSkip := true } } : World D) = v
  have hchosen : Quiet w v := by rw [← hv]; exact .of_sched rfl rfl
  have hvlog : v.log = w.log := by rw [← hv]
  have harm : wp (arm driver planned.endUs) (fun b w' => Quiet v w' ∧
      ∃ armed, w'.log = v.log ++ [.now armed, .armTimer planned.endUs armed b]) v :=
    ⟨quiet_arm driver planned.endUs v, _, List.append_assoc _ _ _⟩
  refine wp_seq harm fun b w₁ h₁ => ?_
  have hquiet := hchosen.trans h₁.1
  rw [wp_ite]
  refine ⟨fun _ => (Preserves.after (quiet_stop h) hquiet).follows, fun hb => ?_⟩
  obtain ⟨armed, hlog₁⟩ := h₁.2
  have hb : b = true := by simpa using hb
  rw [wp_enter, wp_bind, WindowDriver.callReserve, wp_hook]
  generalize hms : (planned.endUs - now + 999) / 1000 = durationMs
  generalize hv₁ : (w₁.inPhase .preparing).logged [.reserve planned.channel durationMs] = v₁
  have hpreparing : v₁.sched.phase = .preparing := by rw [← hv₁]; rfl
  have hnative := quiet_of_native (by rw [hpreparing]; rfl)
    (h.reserve planned.channel durationMs v₁ hpreparing)
  refine wp_mono (serviceReturned_follows h now hnative) fun _ w' h' => ?_
  obtain ⟨hmax, events, hlog, hstate, hfits, hcovered⟩ := h'
  have hissued : Follows w₁ w' := by
    refine ⟨by rw [hmax, ← hv₁]; rfl, ⟨.reserve planned.channel durationMs :: events, ?_, ?_,
      fun p _ => ?_⟩, fun hmax hall => ?_⟩
    · rw [hlog, ← hv₁, World.log_logged, World.log_inPhase, List.append_assoc]
      rfl
    · rw [hstate, ← hv₁]
      rfl
    · have hfits := hfits p
      rw [← hv₁] at hfits
      exact hfits
    · refine hcovered ?_
      rw [← hv₁]
      refine hall.snoc fun channel durationMs' heq => ?_
      obtain ⟨rfl, rfl⟩ := Event.reserve.inj heq
      grind [hquiet.maximumVisit, hclock.covered]
  exact hquiet.follows.trans hissued

lemma servicePlan_follows {now : ℕ} (hclock : Clock now w.log) :
    wp (servicePlan driver now) (fun _ w' => Follows w w') w := by
  refine wp_seq (plan_planned driver now w) fun result w₁ h₁ => ?_
  have hquiet := h₁.1.quiet
  cases result with
  | none => exact (Preserves.after (quiet_orStop h (quiet_armAfter driver _ _)) hquiet).follows
  | some planned =>
    have hplanned := h₁.2 planned rfl
    rw [wp_bind, wp_get, wp_ite]
    refine ⟨fun _ => (Preserves.after (quiet_orStop h (quiet_arm driver _)) hquiet).follows,
      fun _ => ?_⟩
    rw [wp_ite]
    refine ⟨fun _ => ?_, fun hfits => ?_⟩
    · refine (Preserves.after (m := update _ >>= fun _ => _) ?_ hquiet).follows
      exact (quiet_update (by exact fun _ => ⟨rfl, rfl⟩)).bind fun _ =>
        quiet_orStop h (quiet_armAfter driver _ _)
    · rw [not_or, not_le, not_lt] at hfits
      exact wp_mono (serviceVisit_follows h (h₁.1.clock hclock) hplanned.channel hplanned.allowed
        hfits.1 hfits.2) fun _ w' h' => hquiet.follows.trans h'

/-- What a whole service does to the lead. -/
lemma service_follows (w : World D) : Follows w (Call.service.run driver w) := by
  show wp (service driver) (fun _ w' => Follows w w') w
  rw [service_eq]
  refine wp_seq (wp_and (quiet_planPoint h w) (planPoint_clock driver w)) fun point w₁ h₁ => ?_
  cases point with
  | none => exact h₁.1.follows
  | some now =>
    exact wp_mono (servicePlan_follows h (h₁.2 now rfl).1) fun _ w' h' => h₁.1.follows.trans h'

lemma start_started (maximumVisitUs preparationLeadUs : ℕ) :
    wp (start driver maximumVisitUs preparationLeadUs) (fun _ w' => Started w w') w := by
  unfold start
  rw [wp_bind, wp_get, wp_ite]
  have hasked : ∀ {w' : World D}, Asked driver (Calm driver) w w' → Started w w' :=
    fun h => ⟨h.state, h.log, .inl h.sched⟩
  refine ⟨fun _ => hasked (.refl w), fun hstopped => ?_⟩
  rw [not_or, not_not] at hstopped
  -- the arguments are checked together with the driver
  have hchecks : wp ((not <$> driver.askReady) <||>
      pure (!startable w.state maximumVisitUs preparationLeadUs))
      (fun refused w' => Asked driver (Calm driver) w w' ∧
        (refused = false → startable w.state maximumVisitUs preparationLeadUs = true)) w := by
    rw [wp_orM]
    refine wp_mono (Asks.map not (fun _ => Asked.ready (Calm driver)) w) fun b w₁ h₁ => ?_
    split
    · exact ⟨h₁, fun hb => absurd hb.symm Bool.false_ne_true⟩
    · refine ⟨h₁, fun hb => ?_⟩
      change (!startable w.state maximumVisitUs preparationLeadUs) = false at hb
      simpa using hb
  refine wp_seq hchecks fun refused w₁ h₁ => ?_
  rw [wp_ite]
  refine ⟨fun _ => hasked h₁.1, fun hgoes => ?_⟩
  have hstartable := h₁.2 (by simpa using hgoes)
  refine wp_seq (Asked.now (Calm driver)) fun now w₂ h₂ => ?_
  refine wp_seq (Asked.wireTime (Calm driver) now) fun wire w₃ h₃ => ?_
  have h₃ := (h₁.1.trans h₂.1).trans h₃.1
  rw [wp_ite]
  refine ⟨fun _ => hasked h₃, fun _ => ?_⟩
  rw [wp_update]
  have hfits : (w₃.sched.begin maximumVisitUs preparationLeadUs).maximumVisit ≤ 100000 ∧
      LeadFits (w₃.sched.begin maximumVisitUs preparationLeadUs) w.state.presence := by
    simp only [startable, Bool.and_eq_true, decide_eq_true_eq] at hstartable
    obtain ⟨⟨⟨⟨⟨⟨⟨⟨-, hmax⟩, hlead⟩, -⟩, -⟩, -⟩, -⟩, -⟩, hperiod⟩ := hstartable
    exact ⟨hmax, .inl (by simp only [WindowScheduler.begin]; omega)⟩
  generalize hv : ({ w₃ with sched := w₃.sched.begin maximumVisitUs preparationLeadUs } : World D) = v
  refine wp_seq (Asked.now (Calm driver)) fun now w₄ h₄ => ?_
  refine wp_seq (armAfter_spec h.hooked now (by decide)) fun armed w₅ h₅ => ?_
  have h₅ := h₄.1.trans h₅.1
  obtain ⟨answers, hlog, hanswers⟩ := h₃.log
  obtain ⟨answers', hlog', hanswers'⟩ := h₅.log
  have hbegun : w₅.state = w.state ∧
      (∃ events, w₅.log = w.log ++ events ∧ ∀ e ∈ events, e.isAnswer = true) := by
    refine ⟨?_, answers ++ answers', ?_, fun e he => (List.mem_append.mp he).elim (hanswers e)
      (hanswers' e)⟩
    · rw [h₅.state, ← hv]
      exact h₃.state
    grind
  rw [← hv] at h₅
  rw [wp_ite]
  refine ⟨fun _ => ⟨hbegun.1, hbegun.2, .inr ⟨hstopped.1, ?_⟩⟩, fun _ => ?_⟩
  · show (w₅.sched).maximumVisit ≤ 100000 ∧ LeadFits w₅.sched _
    rw [h₅.sched]
    exact hfits
  · refine ⟨hbegun.1, hbegun.2, .inr ⟨hstopped.1, ?_⟩⟩
    show (w₅.sched).maximumVisit ≤ 100000 ∧ LeadFits w₅.sched _
    rw [h₅.sched]
    exact hfits

omit h in
lemma Call.stays_stopped (hphase : w.sched.phase = .stopped) {c : Call}
    (hc : ∀ maximumVisitUs preparationLeadUs, c ≠ .start maximumVisitUs preparationLeadUs) :
    (c.run driver w).sched.phase = .stopped := by
  cases c with
  | start maximumVisitUs preparationLeadUs => exact absurd rfl (hc _ _)
  | service =>
    show wp (Scheduler.service driver) (fun _ w' => w'.sched.phase = .stopped) w
    unfold Scheduler.service
    rw [wp_bind, wp_get, if_pos (.inl hphase)]
    exact hphase
  | stop =>
    show wp (Scheduler.stop driver) (fun _ w' => w'.sched.phase = .stopped) w
    unfold Scheduler.stop
    rw [wp_update, wp_note, wp_bind, WindowDriver.callCancelTimer, wp_query, wp_bind, wp_get,
      if_neg, if_pos]
    · exact hphase
    · exact hphase
    · show ¬w.sched.phase.inHook = true
      rw [hphase]
      exact Bool.false_ne_true
  | recover =>
    show wp (Scheduler.recover driver) (fun _ w' => w'.sched.phase = .stopped) w
    unfold Scheduler.recover
    rw [wp_bind, wp_get, if_neg fun hfailed => Phase.noConfusion (hphase.symm.trans hfailed.1)]
    exact hphase

/-- The same for every call but a start. -/
lemma Call.follows (w : World D) {c : Call}
    (hc : ∀ maximumVisitUs preparationLeadUs, c ≠ .start maximumVisitUs preparationLeadUs) :
    Follows w (c.run driver w) := by
  cases c with
  | start maximumVisitUs preparationLeadUs => exact absurd rfl (hc _ _)
  | service => exact service_follows h w
  | stop => exact Quiet.follows (quiet_stop h w)
  | recover =>
    have hquiet : Preserves Quiet (Scheduler.recover driver) :=
      .bind .get fun _ => .ite (quiet_returnHome driver) .pure
    exact Quiet.follows (hquiet w)

end

/-- The presence that the lead was computed with, after a step from `w` to `w'`: that of the start,
or of the last reservation. -/
def leadPresence (w w' : World D) (p : UInt8) : UInt8 :=
  if w.sched.phase = .stopped ∧ w'.sched.phase ≠ .stopped then w'.state.presence
  else leadBasis w.state p (w'.log.drop w.log.length)

/-- A run, and the presence that the lead was computed with last. -/
inductive LeadRun (driver : WindowDriver D) (s : State) : World D → UInt8 → Prop
  | fresh (d : D) : LeadRun driver s (World.fresh s d) s.presence
  | step {w w' : World D} {p : UInt8} (h : LeadRun driver s w p) (hstep : Native driver w w') :
      LeadRun driver s w' (leadPresence w w' p)

/-- Every run has such a presence. -/
lemma Run.leadRun (h : Run driver s w) : ∃ p, LeadRun driver s w p := by
  induction h with
  | fresh d => exact ⟨_, .fresh d⟩
  | step _ hstep ih =>
    obtain ⟨p, hp⟩ := ih
    exact ⟨_, hp.step hstep⟩

/-- What holds of the lead between the outermost calls. -/
structure LeadInv (w : World D) (p : UInt8) : Prop where
  fits : w.sched.phase = .stopped ∨ LeadFits w.sched p
  maximumVisit : w.sched.maximumVisit ≤ 100000
  covered : AllCovered w.log

/-- Such a call keeps the invariant. -/
lemma Follows.leadInv {p : UInt8} (h : Follows w w') (hinv : LeadInv w p)
    (hstopped : w.sched.phase = .stopped → w'.sched.phase = .stopped) :
    LeadInv w' (leadPresence w w' p) := by
  obtain ⟨events, hlog, -, hfits⟩ := h.log
  refine ⟨?_, by rw [h.maximumVisit]; exact hinv.maximumVisit,
    h.covered hinv.maximumVisit hinv.covered⟩
  rcases hinv.fits with hphase | hfit
  · exact .inl (hstopped hphase)
  · by_cases hphase : w.sched.phase = .stopped
    · exact .inl (hstopped hphase)
    grind [leadPresence]

lemma reservation_of_answer (h : e.isAnswer = true) : e.reservation = false := by
  cases e <;> first | rfl | exact absurd h Bool.noConfusion

/-- A start computes the lead anew. -/
lemma LeadInv.start {p : UInt8} (hinv : LeadInv w p) (h : Started w w') :
    LeadInv w' (leadPresence w w' p) := by
  obtain ⟨hstate, ⟨events, hlog, hevents⟩, hsched⟩ := h
  have hquiet : ∀ e ∈ events, e.reservation = false := fun e he => reservation_of_answer (hevents e he)
  have hcovered : AllCovered w'.log := by
    rw [hlog]
    exact hinv.covered.append hquiet
  rcases hsched with hsame | ⟨hstopped, hmax, hfits⟩
  · refine ⟨?_, by rw [hsame]; exact hinv.maximumVisit, hcovered⟩
    rw [hsame]
    refine hinv.fits.imp_right fun hfits => ?_
    grind [leadPresence, leadBasis_quiet]
  · refine ⟨?_, hmax, hcovered⟩
    by_cases hphase : w'.sched.phase = .stopped
    · exact .inl hphase
    grind [leadPresence]

/-- The invariant holds in every run. -/
lemma LeadRun.inv (h : driver.Reentrant) {p : UInt8} (hrun : LeadRun driver s w p) :
    LeadInv w p := by
  induction hrun with
  | fresh d =>
    exact ⟨.inl rfl, Nat.zero_le _, fun before channel durationMs hprefix => by
      have hnil := List.prefix_nil.mp hprefix
      simp at hnil⟩
  | @step w w' p _ hstep ih =>
    cases hstep with
    | engine hop now =>
      have hcalm : Calm driver w (w.engine _ now) := .engine hop now
      exact hcalm.quiet.follows.leadInv ih id
    | environment d =>
      have hcalm : Calm driver w { w with driver := d } := .environment d
      exact hcalm.quiet.follows.leadInv ih id
    | call c =>
      by_cases hc : ∀ maximumVisitUs preparationLeadUs, c ≠ .start maximumVisitUs preparationLeadUs
      · exact (Call.follows h w hc).leadInv ih fun hphase => Call.stays_stopped hphase hc
      · simp only [not_forall, not_not] at hc
        obtain ⟨maximumVisitUs, preparationLeadUs, rfl⟩ := hc
        exact ih.start (start_started h maximumVisitUs preparationLeadUs)

/-- A radio that takes 90 ms for a reservation. -/
def slowBench : WindowDriver Bench :=
  { bench with reserve := fun channel _ w => (.granted, { w with driver :=
    { w.driver with current := channel, time := w.driver.time + 90000 } }) }

lemma slowBench_reentrant : slowBench.Reentrant where
  reserve channel _ w _ := .single (.environment
    { w.driver with current := channel, time := w.driver.time + 90000 })
  windowStart _ _ w hw := by
    show ReflTransGen (Native slowBench) w (if w.driver.stopAtStart then _ else w)
    split
    · have hstop : Call.stop.run slowBench w = _ := stop_inHook (by rw [hw]; rfl)
      exact .single (hstop ▸ .call .stop)
    · exact .refl
  windowEnd _ _ _ _ := .refl

/-- Channel 44 in all slots, one window a slot. -/
def slowState : State :=
  State.fresh (Mac.of 2 1 2 3 4 5)
    { channels := Vector.replicate 16 44, count := 16, step := 0 } 10000000 1 false

/-- The timer is due. -/
def World.atDeadline (w : World Bench) : World Bench :=
  { w with driver := { w.driver with time := w.driver.deadline } }

/-- After the first reservation. -/
def slowVisit : World Bench :=
  Call.service.run slowBench
    ((Call.start 100000 0).run slowBench (World.fresh slowState {})).atDeadline

/-- The next window is due. -/
def slowNext : World Bench := (Call.service.run slowBench slowVisit.atDeadline).atDeadline

/-- **The lead never starves visits.** Every reservation of a run covers its window. Whenever a
service plans with a presence that has not grown since the lead was computed, lead and window fit
the longest visit, and a window that is due is not over and does not exceed it either. -/
theorem lead_fits_plan (h : driver.Reentrant) {p : UInt8} (hrun : LeadRun driver s w p) :
    AllCovered w.log ∧
    ∀ now w₁, (planPoint driver).run w = (some now, w₁) →
      w₁.state.presence.toNat * awUs ≤ w₁.sched.maximumVisit → w₁.state.presence ≤ p →
      w₁.sched.lead + w₁.state.presence.toNat * awUs ≤ w₁.sched.maximumVisit ∧
      ∀ planned w₂, (plan driver now).run w₁ = (some planned, w₂) →
        requestAt w₂.sched.lead planned ≤ now →
        now < planned.endUs ∧ planned.endUs - now ≤ w₂.sched.maximumVisit := by
  have hinv := hrun.inv h
  refine ⟨hinv.covered, fun now w₁ hpoint hperiod hle => ?_⟩
  have hquiet : Quiet w w₁ := by
    have hquiet : Quiet w ((planPoint driver).run w).2 := quiet_planPoint h w
    rwa [hpoint] at hquiet
  have hgoing : w.sched.phase ≠ .stopped := by
    have hclock := planPoint_clock driver w
    unfold wp at hclock
    rw [hpoint] at hclock
    exact (hclock now rfl).2
  have hlead : w₁.sched.lead + w₁.state.presence.toNat * awUs ≤ w₁.sched.maximumVisit := by
    have hfits := hinv.fits.resolve_left hgoing
    rw [LeadFits, ← hquiet.lead, ← hquiet.maximumVisit] at hfits
    have hpresence : w₁.state.presence.toNat * awUs ≤ p.toNat * awUs :=
      Nat.mul_le_mul_right _ (UInt8.le_iff_toNat_le.mp hle)
    rcases hfits with hfits | hzero <;> omega
  refine ⟨hlead, fun planned w₂ hplan hdue => ?_⟩
  have hplanned := plan_planned driver now w₁
  unfold wp at hplanned
  rw [hplan] at hplanned
  obtain ⟨hpolled, hplanned⟩ := hplanned
  obtain ⟨-, -, hend, hlength⟩ := hplanned planned rfl
  rw [hpolled.sched] at hdue ⊢
  unfold requestAt at hdue
  split at hdue <;> omega

/-- The plan after a slow reservation, with a lead of 83616 us. -/
theorem lead_fits_plan_slowNext :
    ∃ w₁, (planPoint slowBench).run slowNext = (some slowNext.driver.time, w₁) ∧
      w₁.sched.lead = 83616 ∧
      w₁.sched.lead + w₁.state.presence.toNat * awUs ≤ w₁.sched.maximumVisit := by
  have hrun : ∃ p, LeadRun slowBench slowState slowNext p ∧ 1 ≤ p := by
    have hdue : ∀ w : World Bench, Native slowBench w w.atDeadline := fun w => .environment _
    have hstart := (LeadRun.fresh {} : LeadRun slowBench slowState _ _).step (.call (.start 100000 0))
    have hvisit := (hstart.step (hdue _)).step (.call .service)
    have hhome := (hvisit.step (hdue _)).step (.call .service)
    exact ⟨_, hhome.step (hdue _), by decide +kernel⟩
  obtain ⟨p, hrun, hp⟩ := hrun
  have hnow : ((planPoint slowBench).run slowNext).1 = some slowNext.driver.time := by
    decide +kernel
  have hlead : ((planPoint slowBench).run slowNext).2.sched.lead = 83616 ∧
      ((planPoint slowBench).run slowNext).2.state.presence = 1 := by decide +kernel
  have hperiod : ((planPoint slowBench).run slowNext).2.state.presence.toNat * awUs ≤
      ((planPoint slowBench).run slowNext).2.sched.maximumVisit := by decide +kernel
  generalize hpoint : (planPoint slowBench).run slowNext = r at hnow hlead hperiod ⊢
  obtain ⟨point, w₁⟩ := r
  dsimp only at hnow hlead hperiod
  rw [hnow] at hpoint ⊢
  exact ⟨w₁, rfl, hlead.1, ((lead_fits_plan slowBench_reentrant hrun).2 _ w₁ hpoint hperiod
    (hlead.2 ▸ hp)).1⟩

/-- The presence was raised, and the next window is due. -/
def slowDue : World Bench :=
  (Call.service.run slowBench (slowVisit.engine (.setPresence 4) 10090001).atDeadline).atDeadline

lemma slowDue_run : Run slowBench slowState slowDue := by
  have hfire : ∀ {w : World Bench}, Run slowBench slowState w →
      Run slowBench slowState (Call.service.run slowBench w.atDeadline) :=
    fun h => (h.step (.environment _)).step (.call .service)
  refine .step (hfire (.step (hfire (.step (.fresh {}) (.call (.start 100000 0)))) ?_))
    (.environment _)
  exact .engine (by decide) _

/-- A presence raised between two windows: lead and window no longer fit the longest visit, and a
window is skipped at the very time its reservation was asked for. -/
theorem lead_exceeds_slowDue :
    Run slowBench slowState slowDue ∧
      slowDue.state.presence.toNat * awUs ≤ slowDue.sched.maximumVisit ∧
      ∃ planned w₁ w₂, (planPoint slowBench).run slowDue = (some slowDue.driver.time, w₁) ∧
        w₁.sched.maximumVisit < w₁.sched.lead + w₁.state.presence.toNat * awUs ∧
        (plan slowBench slowDue.driver.time).run w₁ = (some planned, w₂) ∧
        requestAt w₂.sched.lead planned = slowDue.driver.time ∧
        (Call.service.run slowBench slowDue).sched.skip = planned ∧
        (Call.service.run slowBench slowDue).sched.window ≠ planned := by
  have hnow : ((planPoint slowBench).run slowDue).1 = some slowDue.driver.time := by decide +kernel
  have hplan : ((plan slowBench slowDue.driver.time).run ((planPoint slowBench).run slowDue).2).1 =
      some (Call.service.run slowBench slowDue).sched.skip := by decide +kernel
  have hfits : slowDue.state.presence.toNat * awUs ≤ slowDue.sched.maximumVisit := by
    decide +kernel
  have hlead : ((planPoint slowBench).run slowDue).2.sched.maximumVisit <
      ((planPoint slowBench).run slowDue).2.sched.lead +
        ((planPoint slowBench).run slowDue).2.state.presence.toNat * awUs := by decide +kernel
  have hrequest : requestAt ((plan slowBench slowDue.driver.time).run
      ((planPoint slowBench).run slowDue).2).2.sched.lead
        (Call.service.run slowBench slowDue).sched.skip = slowDue.driver.time := by decide +kernel
  have hskip : (Call.service.run slowBench slowDue).sched.window ≠
      (Call.service.run slowBench slowDue).sched.skip := by decide +kernel
  generalize Call.service.run slowBench slowDue = w₃ at hplan hrequest hskip ⊢
  generalize hw₁ : (planPoint slowBench).run slowDue = r₁ at hnow hplan hlead hrequest ⊢
  obtain ⟨point, w₁⟩ := r₁
  generalize hw₂ : (plan slowBench slowDue.driver.time).run w₁ = r₂ at hplan hrequest ⊢
  obtain ⟨result, w₂⟩ := r₂
  dsimp only at hnow hplan
  exact ⟨slowDue_run, hfits, w₃.sched.skip, w₁, w₂, by rw [hnow], hlead, by rw [hw₂, hplan], hrequest,
    rfl, hskip⟩

end AirportAwdl.Scheduler
