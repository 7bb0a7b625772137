import AirportAwdl.Scheduler.Step

/-!
# Opening and closing windows as moves

The scheduler's helpers, run from a suitable world, end in a world that is reached by moves of
the transition system. `returnHome`, `stop` and `openWindow` also come to rest there
(`Settled`): stopped, failed, or in a phase that waits for a timer which was armed last.
-/

namespace AirportAwdl.Scheduler

open AirportAwdl.Election StateProgram
open Relation (ReflTransGen)

variable {D : Type} {driver : WindowDriver D} {R : World D → World D → Prop} {w w' w₁ : World D}

section
variable {α : Type} {Q : α → World D → Prop} {g : Unit → StateM (World D) α}

lemma wp_update {f : WindowScheduler → WindowScheduler} :
    wp (update f >>= g) Q w ↔ wp (g ()) Q { w with sched := f w.sched } := Iff.rfl

lemma wp_enter {p : Phase} : wp (enter p >>= g) Q w ↔ wp (g ()) Q (w.inPhase p) := Iff.rfl

lemma wp_note {e : Event} : wp (note e >>= g) Q w ↔ wp (g ()) Q (w.logged [e]) := Iff.rfl

lemma wp_engine {op : Op} {now : ℕ} :
    wp (engine op now >>= g) Q w ↔ wp (g ()) Q (w.engine op now) := Iff.rfl

lemma wp_query {α : Type} {ask : D → α × D} {note : α → Event} {Q : α → World D → Prop} :
    wp (query ask note) Q w ↔ Q (ask w.driver).1
      { w with driver := (ask w.driver).2, log := w.log ++ [note (ask w.driver).1] } := Iff.rfl

lemma wp_query_inPhase {α : Type} {ask : D → α × D} {note : α → Event}
    {Q : α → World D → Prop} {p : Phase} :
    wp (query ask note) Q (w.inPhase p) ↔ wp (query ask note) (fun a w₁ => Q a (w₁.inPhase p)) w :=
  Iff.rfl

lemma wp_hook {α : Type} {call : World D → α × World D} {issued : Event} {note : α → Event}
    {Q : α → World D → Prop} : wp (hook call issued note) Q w ↔
      Q (call (w.logged [issued])).1
        ((call (w.logged [issued])).2.logged [note (call (w.logged [issued])).1]) := Iff.rfl

end

lemma freeControls_dropping {now : ℕ} {Q : Unit → World D → Prop}
    (hdrop : w.sched.stopRequested ∨ w.sched.nativeResetRequired)
    (h : Q () (w.endDiscarding now)) :
    wp (freeControls driver now >>= fun _ => enter .reserved) Q w := by
  unfold freeControls
  rw [wp_bind, wp_engine, wp_bind, wp_get, World.sched_engine, if_pos hdrop]
  exact h

lemma freeControls_keeping {now : ℕ} {Q : Unit → World D → Prop}
    (hkeep : ¬(w.sched.stopRequested ∨ w.sched.nativeResetRequired))
    (h : Q () (w.endReleasing now (driver.nowUs w.driver).1 (driver.nowUs w.driver).2)) :
    wp (freeControls driver now >>= fun _ => enter .reserved) Q w := by
  unfold freeControls
  rw [wp_bind, wp_engine, wp_bind, wp_get, World.sched_engine, if_neg hkeep]
  exact h

/-- From `w` to `w'` the driver was only asked. -/
structure Asked (driver : WindowDriver D) (R : World D → World D → Prop) (w w' : World D) :
    Prop where
  path : Path driver R w w'
  sched : w'.sched = w.sched
  state : w'.state = w.state
  log : ∃ answers, w'.log = w.log ++ answers ∧ ∀ e ∈ answers, e.isAnswer

lemma Asked.refl (w : World D) : Asked driver R w w :=
  ⟨.refl, rfl, rfl, [], (List.append_nil _).symm, nofun⟩

lemma Asked.trans (h : Asked driver R w w₁) (h' : Asked driver R w₁ w') : Asked driver R w w' := by
  refine ⟨h.path.trans h'.path, h'.sched.trans h.sched, h'.state.trans h.state, ?_⟩
  grind [h.log, h'.log]

lemma Asked.query {α : Type} {ask : D → α × D} {note : α → Event}
    (h : driver.Answer w.driver (note (ask w.driver).1) (ask w.driver).2) :
    wp (query ask note) (fun a w' => Asked driver R w w' ∧ w'.log = w.log ++ [note a]) w := by
  refine ⟨⟨.single (.ask h), rfl, rfl, [_], rfl, fun e he => ?_⟩, rfl⟩
  rw [List.mem_singleton.mp he]
  exact h.isAnswer

/-- The clock showed `now`, and the driver was only asked since. -/
def Recent (now : ℕ) (log : List Event) : Prop :=
  ∃ earlier answers, log = earlier ++ .now now :: answers ∧ ∀ e ∈ answers, e.isAnswer

lemma Recent.mem {now : ℕ} {log : List Event} (h : Recent now log) : .now now ∈ log := by
  obtain ⟨earlier, answers, rfl, -⟩ := h
  simp

lemma Recent.append {now : ℕ} {log answers : List Event} (h : Recent now log)
    (hanswers : ∀ e ∈ answers, e.isAnswer) : Recent now (log ++ answers) := by
  obtain ⟨earlier, since, rfl, hsince⟩ := h
  refine ⟨earlier, since ++ answers, by simp, fun e he => ?_⟩
  grind

lemma Recent.asked {now : ℕ} (h : Recent now w.log) (h' : Asked driver R w w') :
    Recent now w'.log := by
  obtain ⟨answers, hlog, hanswers⟩ := h'.log
  rw [hlog]
  exact h.append hanswers

section
variable (R)

lemma Asked.now : wp driver.askNow (fun t w' => Asked driver R w w' ∧ Recent t w'.log) w :=
  wp_mono (Asked.query .now) fun _ _ h => ⟨h.1, w.log, [], h.2, nofun⟩

lemma Asked.ready : wp driver.askReady (fun _ w' => Asked driver R w w') w :=
  (Asked.query (.ready w.sched.phase)).1

lemma Asked.allowed (c : UInt8) : wp (driver.askAllowed c) (fun _ w' => Asked driver R w w') w :=
  (Asked.query (.channelAllowed c)).1

lemma Asked.channel : wp driver.askChannel (fun _ w' => Asked driver R w w') w :=
  (Asked.query .currentChannel).1

lemma Asked.wireTime (host : ℕ) : wp (driver.askWireTime host)
    (fun wire w' => Asked driver R w w' ∧ w'.log = w.log ++ [.wireTime host wire]) w :=
  Asked.query (.wireTime host)

lemma Asked.armTimer (deadline now : ℕ) : wp (driver.callArmTimer deadline now)
    (fun b w' => Asked driver R w w' ∧ w'.log = w.log ++ [.armTimer deadline now b] ∧
      driver.armTimer deadline now w.driver = (b, w'.driver)) w :=
  ⟨(Asked.query (.armTimer deadline now)).1, rfl, rfl⟩

lemma Asked.cancelTimer : wp driver.callCancelTimer (fun _ w' => Asked driver R w w') w :=
  (Asked.query .cancelTimer).1

end

/-- A condition that only asks the driver. -/
def Asks (driver : WindowDriver D) (R : World D → World D → Prop) (m : StateM (World D) Bool) :
    Prop :=
  ∀ w, wp m (fun _ w' => Asked driver R w w') w

lemma Asks.pure (b : Bool) : Asks driver R (Pure.pure b) := fun w => .refl w

lemma Asks.map {α : Type} {m : StateM (World D) α} (f : α → Bool)
    (h : ∀ w, wp m (fun _ w' => Asked driver R w w') w) : Asks driver R (f <$> m) := h

lemma Asks.and {x y : StateM (World D) Bool} (hx : Asks driver R x) (hy : Asks driver R y) :
    Asks driver R (x <&&> y) := by
  intro w
  rw [wp_andM]
  refine wp_mono (hx w) fun b w₁ h => ?_
  split
  · exact wp_mono (hy w₁) fun _ _ h' => h.trans h'
  · exact h

lemma Asks.or {x y : StateM (World D) Bool} (hx : Asks driver R x) (hy : Asks driver R y) :
    Asks driver R (x <||> y) := by
  intro w
  rw [wp_orM]
  refine wp_mono (hx w) fun b w₁ h => ?_
  split
  · exact h
  · exact wp_mono (hy w₁) fun _ _ h' => h.trans h'

lemma openWindow_asks (window : ScheduledWindow) (now : ℕ) :
    Asks driver R (pure (decide (now ≥ window.endUs)) <||> (not <$> driver.askReady) <||>
      (not <$> driver.askAllowed window.channel)) :=
  .or (.pure _) (.or (.map not fun _ => Asked.ready R) (.map not fun _ => Asked.allowed R _))

/-- The last thing that happened from `w` to `w'` is that the timer was armed. -/
def Rearmed (driver : WindowDriver D) (w w' : World D) : Prop :=
  ∃ earlier deadline now d, w'.log = earlier ++ [.armTimer deadline now true] ∧
    w.log <+: earlier ∧ deadline ≠ 0 ∧ driver.armTimer deadline now d = (true, w'.driver)

lemma Rearmed.since (h : Rearmed driver w₁ w') (hpre : w.log <+: w₁.log) : Rearmed driver w w' := by
  obtain ⟨earlier, deadline, now, d, hlog, hearlier, harm⟩ := h
  exact ⟨earlier, deadline, now, d, hlog, hpre.trans hearlier, harm⟩

/-- A call that was made in `w` may return in `w'`. -/
structure Settled (driver : WindowDriver D) (R : World D → World D → Prop) (w w' : World D) :
    Prop where
  path : Path driver R w w'
  rest : w'.sched.phase = .stopped ∨ w'.sched.phase = .failed ∨
    ((w'.sched.phase = .idle ∨ w'.sched.phase = .reserved ∨ w'.sched.phase = .open) ∧
      Rearmed driver w w')
  reset : w'.sched.nativeResetRequired → w'.sched.phase = .failed

/-- A call that stopped the scheduler, or could not give the radio back. -/
structure Halted (driver : WindowDriver D) (R : World D → World D → Prop) (w w' : World D) :
    Prop where
  path : Path driver R w w'
  rest : w'.sched.phase = .stopped ∨ w'.sched.phase = .failed
  reset : w'.sched.nativeResetRequired → w'.sched.phase = .failed

lemma Halted.settled (h : Halted driver R w w') : Settled driver R w w' :=
  ⟨h.path, h.rest.imp_right .inl, h.reset⟩

lemma Halted.of_path (hpath : Path driver R w w₁) (h : Halted driver R w₁ w') :
    Halted driver R w w' :=
  { h with path := hpath.trans h.path }

/-- After the radio was given back: stopped, failed, or idle with the timer armed. -/
structure Returned (driver : WindowDriver D) (R : World D → World D → Prop) (w w' : World D)
    (home : Bool) : Prop extends Settled driver R w w' where
  phase : w'.sched.phase = .stopped ∨ w'.sched.phase = .failed ∨ w'.sched.phase = .idle
  stops : w.sched.stopRequested → w'.sched.phase ≠ .idle
  goes : w'.sched.phase = .idle → w'.sched.stopRequested = false
  result : home → w'.sched.phase ≠ .failed
  stopped : w.sched.stopRequested → w'.sched.phase = .stopped → home

lemma Returned.halted {home : Bool} (h : Returned driver R w w' home)
    (hstop : w.sched.stopRequested) : Halted driver R w w' where
  path := h.path
  rest := h.phase.imp_right fun h' => h'.resolve_right (h.stops hstop)
  reset := h.reset

/-- What closing a window leaves of the scheduler: the phase, and possibly the two flags. -/
structure Closed (driver : WindowDriver D) (R : World D → World D → Prop) (w w' : World D) :
    Prop where
  path : Path driver R w w'
  phase : w'.sched.phase = .reserved
  stops : w.sched.stopRequested → w'.sched.stopRequested

/-- A phase in which a call may find the scheduler. -/
def AtRest (s : WindowScheduler) : Prop :=
  (s.phase = .stopped ∨ s.phase = .idle ∨ s.phase = .reserved ∨ s.phase = .open ∨
    s.phase = .failed) ∧ (s.nativeResetRequired → s.phase = .failed)

section
variable (H : Hooked driver R)
include H

lemma Settled.of_path (hpath : Path driver R w w₁) (h : Settled driver R w₁ w') :
    Settled driver R w w' where
  path := hpath.trans h.path
  rest := h.rest.imp_right (.imp_right fun ⟨hphase, harm⟩ =>
    ⟨hphase, harm.since (Path.log_grows H.grows hpath)⟩)
  reset := h.reset

lemma arm_spec {deadline : ℕ} (hdeadline : deadline ≠ 0) :
    wp (arm driver deadline) (fun b w' => Asked driver R w w' ∧ (b → Rearmed driver w w')) w := by
  refine wp_seq (Asked.now R) fun now w₁ h₁ => ?_
  refine wp_mono (Asked.armTimer R deadline now) fun b w₂ h₂ => ⟨h₁.1.trans h₂.1, fun hb => ?_⟩
  subst hb
  exact ⟨w₁.log, deadline, now, w₁.driver, h₂.2.1, Path.log_grows H.grows h₁.1.path, hdeadline,
    h₂.2.2⟩

lemma armAfter_spec (now : ℕ) {delay : ℕ} (hdelay : delay ≠ 0) :
    wp (armAfter driver now delay)
      (fun b w' => Asked driver R w w' ∧ (b → Rearmed driver w w')) w := by
  unfold armAfter
  rw [wp_ite]
  exact ⟨fun _ => arm_spec H (by omega), fun _ => ⟨.refl w, fun hb => absurd hb Bool.false_ne_true⟩⟩

lemma settle_spec {v : World D} (hpath : Path driver R w (v.inPhase v.sched.homePhase))
    (hstop : w.sched.stopRequested → v.sched.stopRequested) :
    wp (settle driver) (fun home w' => Returned driver R w w' home) v := by
  unfold settle WindowScheduler.homePhase at *
  rw [wp_bind, wp_get, wp_ite]
  refine ⟨fun hreset => ?_, fun hreset => ?_⟩
  · rw [if_pos hreset] at hpath
    show Returned driver R w (v.inPhase .failed) false
    exact ⟨⟨hpath, .inr (.inl rfl), fun _ => rfl⟩, .inr (.inl rfl), by simp, by simp, by simp,
      by simp⟩
  rw [if_neg hreset] at hpath
  rw [wp_ite]
  refine ⟨fun hstopped => ?_, fun hgoing => ?_⟩
  · rw [if_pos hstopped] at hpath
    show Returned driver R w (v.inPhase .stopped) true
    exact ⟨⟨hpath, .inl rfl, fun h => absurd h hreset⟩, .inl rfl, by simp, by simp, by simp,
      by simp⟩
  rw [if_neg hgoing] at hpath
  -- idle: the next service is due
  rw [wp_enter]
  refine wp_seq (Asked.now R) fun now w₁ h₁ => ?_
  refine wp_seq (armAfter_spec H now (by decide)) fun b w₂ h₂ => ?_
  have hasked := h₁.1.trans h₂.1
  have hpath₂ := hpath.trans hasked.path
  have hphase : w₂.sched.phase = .idle := by rw [hasked.sched]; rfl
  have hreset₂ : ¬w₂.sched.nativeResetRequired := by rw [hasked.sched]; exact hreset
  have hgoing₂ : w₂.sched.stopRequested = false := by
    rw [hasked.sched]
    exact Bool.eq_false_iff.mpr hgoing
  rw [wp_ite]
  refine ⟨fun hb => ?_, fun _ => ?_⟩
  · have harm : Rearmed driver w w₂ :=
      (h₂.2 hb).since (Path.log_grows H.grows (hpath.trans h₁.1.path))
    show Returned driver R w w₂ true
    exact ⟨⟨hpath₂, .inr (.inr ⟨.inl hphase, harm⟩), fun h => absurd h hreset₂⟩,
      .inr (.inr hphase), fun h => absurd (hstop h) hgoing, fun _ => hgoing₂,
      fun _ => by rw [hphase]; decide, fun _ _ => rfl⟩
  · have hgive : Step driver R _ _ := .giveUp true hphase
    rw [hgoing₂] at hgive
    exact ⟨⟨hpath₂.tail hgive, .inl rfl, fun h => absurd h hreset₂⟩, .inl rfl,
      fun _ => Phase.noConfusion, fun h => Phase.noConfusion h,
      fun h => absurd h Bool.false_ne_true, fun h => absurd (hstop h) hgoing⟩

lemma returnHome_spec (hphase : w.sched.phase.leaves) :
    wp (returnHome driver) (fun home w' => Returned driver R w w' home) w := by
  refine wp_seq (Asked.cancelTimer R) fun _ w₁ h₁ => ?_
  have hleaves : w₁.sched.phase.leaves := by rwa [h₁.sched]
  rw [wp_enter, wp_bind, wp_get, wp_bind, wp_andM, wp_pure]
  split
  · rename_i hlease
    rw [wp_map, WindowDriver.callRestore, wp_query, World.driver_inPhase]
    cases hanswer : (driver.restore w₁.driver).1 with
    | false =>
      have hstep := Step.restoreFailed (R := R) hleaves hlease hanswer
      exact ⟨⟨h₁.path.tail hstep, .inr (.inl rfl), fun _ => rfl⟩, .inr (.inl rfl),
        fun _ => Phase.noConfusion, fun h => Phase.noConfusion h,
        fun h => absurd h Bool.false_ne_true, fun _ => Phase.noConfusion⟩
    | true =>
      have hstep := Step.restored (R := R) hleaves hlease hanswer
      refine settle_spec H (h₁.path.tail hstep) fun h => ?_
      show w₁.sched.stopRequested = true
      rwa [h₁.sched]
  · rename_i hlease
    have hstep : Step driver R _ _ := .unleased hleaves (Bool.eq_false_iff.mpr hlease)
    refine settle_spec H (h₁.path.tail hstep) fun h => ?_
    show w₁.sched.stopRequested = true
    rwa [h₁.sched]

lemma Path.of_native (hphase : w.sched.phase.inHook) (h : ReflTransGen R w w') :
    Path driver R w w' ∧ ∃ b : Bool, (w.sched.stopRequested → b) ∧
      w'.sched = { w.sched with stopRequested := b } := by
  induction h with
  | refl => exact ⟨.refl, w.sched.stopRequested, id, rfl⟩
  | tail _ hstep ih =>
    obtain ⟨hpath, b, hb, hsched⟩ := ih
    rename_i v v' _
    have hv : v.sched.phase.inHook := by rw [hsched]; exact hphase
    obtain ⟨b', hb', hsched'⟩ := H.keeps hv hstep
    refine ⟨hpath.tail (.native hv hstep), b', fun h => hb' ?_, ?_⟩
    · rw [hsched]
      exact hb h
    · rw [hsched', hsched]

lemma endWindow_spec {now : ℕ} (hphase : w.sched.phase = .open) :
    wp (endWindow driver w.sched.window now) (fun ended v =>
      (ended = false ∧ ∃ w₁, Asked driver R w w₁ ∧ v = w₁.inPhase .closing ∧
        (now < w.sched.window.actualStartUs ∨
          w₁.log = w.log ++ [.wireTime (w.sched.window.endAt now) none])) ∨
      ∃ u, Path driver R w u ∧ u.sched.phase = .closing ∧
        (w.sched.stopRequested → u.sched.stopRequested) ∧ v = u.logged [.ended ended] ∧
        ∃ wire v₀, driver.windowEnd w.sched.window wire v₀ = (ended, u))
      (w.inPhase .closing) := by
  unfold endWindow
  rw [wp_ite]
  refine ⟨fun hearly => .inl ⟨rfl, w, .refl w, rfl, .inl hearly⟩, fun _ => ?_⟩
  rw [wp_bind, WindowDriver.askWireTime, wp_query_inPhase]
  refine wp_mono (Asked.wireTime R (w.sched.window.endAt now)) fun wire w₁ h₁ => ?_
  cases wire with
  | none => exact .inl ⟨rfl, w₁, h₁.1, rfl, .inr h₁.2⟩
  | some wire =>
    have hopen : w₁.sched.phase = .open := by rw [h₁.1.sched, hphase]
    have hissue : Step driver R _ _ := .issueEnd wire hopen
    rw [h₁.1.sched] at hissue
    show wp (driver.callWindowEnd w.sched.window wire) _ _
    obtain ⟨hpath, b, hb, hsched⟩ := Path.of_native H rfl (H.windowEnd w.sched.window wire
      ((w₁.inPhase .closing).logged [.windowEnd w.sched.window wire]) rfl)
    refine .inr ⟨_, (h₁.1.path.tail hissue).trans hpath, ?_, fun h => ?_, rfl, wire, _, rfl⟩
    · rw [hsched]
      rfl
    · rw [hsched]
      exact hb (by rw [World.sched_logged, World.sched_inPhase, h₁.1.sched]; exact h)

lemma closeWindow_spec {now : ℕ} (hphase : w.sched.phase = .open) (hnow : Recent now w.log) :
    wp (closeWindow driver now) (fun _ w' => Closed driver R w w') w := by
  unfold closeWindow
  rw [wp_bind, wp_get, if_neg (by simp [hphase]), wp_enter]
  refine wp_seq (endWindow_spec H hphase) fun ended v hv => ?_
  rcases hv with ⟨rfl, w₁, hasked, rfl, hskip⟩ | ⟨u, hpath, hclosing, hstop, rfl, wire, v₀, hanswer⟩
  · -- no end event: the native side must be reset
    have hopen : w₁.sched.phase = .open := by rw [hasked.sched, hphase]
    obtain ⟨earlier, since, hlog, hsince⟩ := hnow
    have hstep : Step driver R w₁ (w₁.resetNative.endDiscarding now) := by
      rw [← hasked.sched] at hskip
      obtain ⟨answers, hlog₁, hanswers⟩ := hasked.log
      refine .skipEnd hopen (hlog₁.trans (by rw [hlog, List.append_assoc, List.cons_append]))
        (fun e he => (List.mem_append.mp he).elim (hsince e) (hanswers e)) (hskip.imp_right ?_)
      simp_all
    rw [if_pos (by rfl), wp_update, wp_note]
    refine freeControls_dropping (.inr rfl) ⟨hasked.path.tail hstep, rfl, fun h => ?_⟩
    show w₁.sched.stopRequested = true
    rw [hasked.sched, h]
  · cases ended with
    | false =>
      rw [if_pos (by rfl), wp_update, wp_note]
      exact freeControls_dropping (.inr rfl)
        ⟨hpath.tail (Step.endRefused now hclosing ⟨_, _, _, hanswer⟩), rfl, fun h => hstop h⟩
    | true =>
      by_cases hdrop : u.sched.stopRequested ∨ u.sched.nativeResetRequired
      · exact freeControls_dropping hdrop
          ⟨hpath.tail (Step.endedDropped now hclosing hdrop), rfl, fun h => hstop h⟩
      · obtain ⟨hgoing, hfine⟩ := not_or.mp hdrop
        exact freeControls_keeping hdrop ⟨hpath.tail (Step.endedKept now hclosing
          (Bool.eq_false_iff.mpr hgoing) (Bool.eq_false_iff.mpr hfine)), rfl, fun h => hstop h⟩

lemma stop_spec (hrest : AtRest w.sched) :
    wp (stop driver) (fun b w' => Halted driver R w w' ∧ (b ↔ w'.sched.phase = .stopped)) w := by
  unfold stop
  rw [wp_update, wp_note]
  refine wp_seq (Asked.cancelTimer R) fun _ w₁ h₁ => ?_
  have hpath : Path driver R w w₁ := (ReflTransGen.single .requestStop).trans h₁.path
  have hphase : w₁.sched.phase = w.sched.phase := by rw [h₁.sched]; rfl
  have hstop : w₁.sched.stopRequested = true := by rw [h₁.sched]; rfl
  have hreset : w₁.sched.nativeResetRequired → w₁.sched.phase = .failed := by
    rw [h₁.sched]
    exact hrest.2
  have hhook : ¬w₁.sched.phase.inHook := by
    rw [hphase]
    rcases hrest.1 with h | h | h | h | h <;> rw [h] <;> decide
  rw [wp_bind, wp_get, if_neg hhook, wp_ite]
  refine ⟨fun hstopped => ⟨⟨hpath, .inl hstopped, hreset⟩, fun _ => hstopped, fun _ => rfl⟩,
    fun hgoing => ?_⟩
  rw [wp_ite]
  refine ⟨fun hopen => ?_, fun hshut => ?_⟩
  · refine wp_seq (Asked.now R) fun now w₂ h₂ => ?_
    have hopen₂ : w₂.sched.phase = .open := by rw [h₂.1.sched, hopen]
    refine wp_seq (closeWindow_spec H hopen₂ h₂.2) fun _ w₃ h₃ => ?_
    have hleaves : w₃.sched.phase.leaves := by rw [h₃.phase]; rfl
    have hstop₃ : w₃.sched.stopRequested := h₃.stops (by rw [h₂.1.sched, hstop])
    refine wp_mono (returnHome_spec H hleaves) fun home w' h' => ?_
    have hhalted := h'.halted hstop₃
    exact ⟨hhalted.of_path ((hpath.trans h₂.1.path).trans h₃.path),
      fun hb => hhalted.rest.resolve_right (h'.result hb), h'.stopped hstop₃⟩
  · have hleaves : w₁.sched.phase.leaves := by
      rcases hrest.1 with h | h | h | h | h <;> simp_all [Phase.leaves]
    refine wp_mono (returnHome_spec H hleaves) fun home w' h' => ?_
    have hhalted := h'.halted hstop
    exact ⟨hhalted.of_path hpath, fun hb => hhalted.rest.resolve_right (h'.result hb),
      h'.stopped hstop⟩

lemma orStop_spec {armed : StateM (World D) Bool}
    (harm : wp armed (fun b w' => Asked driver R w w' ∧ (b → Rearmed driver w w')) w)
    (hphase : w.sched.phase = .idle ∨ w.sched.phase = .reserved ∨ w.sched.phase = .open)
    (hreset : w.sched.nativeResetRequired = false) :
    wp (orStop driver armed) (fun _ w' => Settled driver R w w') w := by
  refine wp_seq harm fun b w₁ h₁ => ?_
  have hfine : ¬w₁.sched.nativeResetRequired := by rw [h₁.1.sched, hreset]; exact Bool.false_ne_true
  rw [wp_ite]
  refine ⟨fun _ => ?_, fun hb => ?_⟩
  · have hrest : AtRest w₁.sched := by
      refine ⟨?_, fun h => absurd h hfine⟩
      grind [h₁.1.sched]
    show wp (stop driver) (fun _ w' => Settled driver R w w') w₁
    exact wp_mono (stop_spec H hrest) fun _ w' h' => (h'.1.of_path h₁.1.path).settled
  · rw [← h₁.1.sched] at hphase
    exact ⟨h₁.1.path, .inr (.inr ⟨hphase, h₁.2 (by simpa using hb)⟩), fun h => absurd h hfine⟩

lemma startWindow_spec {now : ℕ} {wire : UInt32} (hreset : w.sched.nativeResetRequired = false)
    (hend : now < w.sched.window.endUs) (hissue : Step driver R w (w.issueStart now wire)) :
    wp (startWindow driver now wire) (fun _ w' => Settled driver R w w') w := by
  unfold startWindow
  rw [wp_bind, wp_get, wp_update, wp_engine, wp_engine, wp_enter, wp_bind,
    WindowDriver.callWindowStart, wp_hook]
  obtain ⟨hpath, b, -, hsched⟩ := Path.of_native H rfl (H.windowStart
    (stampWindow w.sched.window w.state now) wire (w.issueStart now wire) rfl)
  have hpath := (ReflTransGen.single hissue).trans hpath
  show wp (if (driver.windowStart (stampWindow w.sched.window w.state now) wire
    (w.issueStart now wire)).1 then _ else _) _ ((driver.windowStart
      (stampWindow w.sched.window w.state now) wire (w.issueStart now wire)).2.logged
        [.started (driver.windowStart (stampWindow w.sched.window w.state now) wire
          (w.issueStart now wire)).1])
  generalize driver.windowStart (stampWindow w.sched.window w.state now) wire
    (w.issueStart now wire) = r at hpath hsched ⊢
  obtain ⟨handedOff, u⟩ := r
  have hopening : u.sched.phase = .opening := by rw [hsched]; rfl
  have hfine : u.sched.nativeResetRequired = false := by rw [hsched]; exact hreset
  cases handedOff with
  | true =>
    rw [if_pos rfl, wp_engine, wp_enter, wp_bind, wp_get]
    have hopened : Step driver R _ _ := .opened now hopening
    generalize hv : ((u.logged [.started true]).engine .startTimeline now).inPhase .open = v
      at hopened ⊢
    have hopen : v.sched.phase = .open := by rw [← hv]; rfl
    have hfine : v.sched.nativeResetRequired = false := by rw [← hv]; exact hfine
    have hpath := hpath.tail hopened
    rw [wp_ite]
    refine ⟨fun hstop => ?_, fun _ => ?_⟩
    · refine wp_seq (Asked.now R) fun ended w₂ h₂ => ?_
      have hopen₂ : w₂.sched.phase = .open := by rw [h₂.1.sched, hopen]
      refine wp_seq (closeWindow_spec H hopen₂ h₂.2) fun _ w₃ h₃ => ?_
      have hleaves : w₃.sched.phase.leaves := by rw [h₃.phase]; rfl
      show wp (returnHome driver) (fun _ w' => Settled driver R w w') w₃
      exact wp_mono (returnHome_spec H hleaves) fun _ w' h' =>
        h'.toSettled.of_path H ((hpath.trans h₂.1.path).trans h₃.path)
    · have hdeadline : (stampWindow w.sched.window w.state now).endUs ≠ 0 := by
        show w.sched.window.endUs ≠ 0
        omega
      exact wp_mono (orStop_spec H (arm_spec H hdeadline) (.inr (.inr hopen)) hfine) fun _ w' h' =>
        h'.of_path H hpath
  | false =>
    have hrefused : Step driver R _ _ := .refused now hopening
    show wp (returnHome driver) (fun _ w' => Settled driver R w w')
      ((u.logged [.started false]).endReleasing now (driver.nowUs u.driver).1
        (driver.nowUs u.driver).2)
    exact wp_mono (returnHome_spec H rfl) fun _ w' h' =>
      h'.toSettled.of_path H (hpath.tail hrefused)

lemma openWindow_spec {now : ℕ} (hphase : w.sched.phase = .reserved)
    (hreset : w.sched.nativeResetRequired = false) (hstop : w.sched.stopRequested = false)
    (hagrees : driver.ReserveQuiet → Agrees w.state w.sched.window) :
    wp (openWindow driver now) (fun _ w' => Settled driver R w w') w := by
  have hhome : ∀ {v : World D}, Asked driver R w v →
      wp (returnHome driver) (fun _ w' => Settled driver R w w') v := by
    intro v h
    have hleaves : v.sched.phase.leaves := by rw [h.sched, hphase]; rfl
    exact wp_mono (returnHome_spec H hleaves) fun _ w' h' => h'.toSettled.of_path H h.path
  unfold openWindow
  rw [wp_bind, wp_get]
  refine wp_seq (openWindow_asks (R := R) w.sched.window now w) fun b w₁ h₁ => ?_
  rw [wp_ite]
  refine ⟨fun _ => hhome h₁, fun _ => ?_⟩
  refine wp_seq (Asked.now R) fun now w₂ h₂ => ?_
  have hasked := h₁.trans h₂.1
  rw [wp_ite]
  refine ⟨fun _ => hhome hasked, fun hintime => ?_⟩
  refine wp_seq (Asked.wireTime R now) fun wire w₃ h₃ => ?_
  have hasked₃ := hasked.trans h₃.1
  cases wire with
  | none => exact hhome hasked₃
  | some wire =>
    obtain ⟨hstart, hlate, hend⟩ := not_or.mp hintime |>.imp id not_or.mp
    have hread : .now now ∈ w₃.log := (h₂.2.asked h₃.1).mem
    have hissue : Step driver R w₃ (w₃.issueStart now wire) := by
      refine .issueStart wire ?_ ?_ ?_ hread ?_ ?_ ?_ ?_
      all_goals rw [hasked₃.sched]
      · exact hphase
      · exact hreset
      · exact hstop
      · exact not_lt.mp hstart
      · exact not_lt.mp hlate
      · exact not_le.mp hend
      · rw [hasked₃.state]
        exact hagrees
    have hend₃ : now < w₃.sched.window.endUs := by
      rw [hasked₃.sched]
      exact not_le.mp hend
    refine wp_mono (startWindow_spec H ?_ hend₃ hissue) fun _ w' h' => h'.of_path H hasked₃.path
    rw [hasked₃.sched, hreset]

end

end AirportAwdl.Scheduler
