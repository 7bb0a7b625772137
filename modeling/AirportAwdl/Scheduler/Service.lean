import AirportAwdl.Scheduler.Paths

/-!
# Every call is a path

`service` phase by phase, then the entry points: run from a world at rest, each reaches its
result by moves of the transition system and comes to rest again (`call_spec`).
-/

namespace AirportAwdl.Scheduler

open AirportAwdl.Election StateProgram
open Relation (ReflTransGen)

variable {D : Type} {driver : WindowDriver D} {R : World D → World D → Prop} {w w' w₁ : World D}

lemma keepsOpen_spec (window : ScheduledWindow) (now : ℕ) : wp (keepsOpen driver window now)
    (fun b w' => Asked driver R w w' ∧ (b → now < window.endUs)) w := by
  have hasks : Asks driver R ((Option.isSome <$> driver.askWireTime now) <&&>
      ((· == window.channel) <$> driver.askChannel) <&&> driver.askAllowed window.channel <&&>
      ((fun t => decide (t < window.endUs)) <$> driver.askNow)) :=
    .and (.map _ fun _ => (Asked.wireTime R now).1) (.and (.map _ fun _ => Asked.channel R)
      (.and (fun _ => Asked.allowed R _) (.map _ fun _ => (Asked.now R).1)))
  unfold keepsOpen
  rw [wp_andM, wp_pure]
  split
  · rename_i hopen
    simp only [Bool.and_eq_true, decide_eq_true_eq] at hopen
    exact wp_mono (hasks w) fun _ _ h => ⟨h, fun _ => hopen.1⟩
  · exact ⟨.refl w, nofun⟩

lemma misses_spec (now : ℕ) : wp (misses driver w.sched.window w.state now)
    (fun b w' => Asked driver R w w' ∧ (b = false → Agrees w.state w.sched.window)) w := by
  unfold misses
  generalize ht : (if now < w.sched.window.startUs then w.sched.window.startUs else now) = t
  rw [wp_orM, wp_pure]
  split
  · exact ⟨.refl w, Bool.noConfusion⟩
  rename_i hsame
  rw [wp_orM]
  refine wp_mono (Asks.map not (fun _ => Asked.allowed R _) w) fun b w₁ h₁ => ?_
  split
  · exact ⟨h₁, Bool.noConfusion⟩
  rw [wp_orM]
  refine wp_mono (Asks.map _ (fun _ => Asked.channel R) w₁) fun b w₂ h₂ => ?_
  split
  · exact ⟨h₁.trans h₂, Bool.noConfusion⟩
  rw [wp_pure]
  refine ⟨h₁.trans h₂, fun hlate => ?_⟩
  simp only [Bool.not_eq_true', Bool.not_eq_false, Option.any_eq_true] at hsame
  obtain ⟨current, hcurrent, hsame⟩ := hsame
  refine ⟨t, current, hcurrent, hsame, ?_⟩
  grind

lemma planFrom_spec (fuel probe : ℕ) : wp (planFrom driver fuel probe)
    (fun r w' => Asked driver R w w' ∧ ∀ planned, r = some planned → Agrees w.state planned) w := by
  induction fuel generalizing probe w with
  | zero => exact ⟨.refl w, nofun⟩
  | succ fuel ih =>
    rw [planFrom, wp_bind, wp_get]
    cases hwindow : currentWindow w.state probe with
    | none => exact ⟨.refl w, nofun⟩
    | some window =>
      have hasks : wp (pure (window.channel != 0) <&&> driver.askAllowed window.channel <&&>
          pure (decide (probe - window.startUs ≤ lateToleranceUs) &&
            (!w.sched.haveSkip || !window.same w.sched.skip)))
          (fun b w' => Asked driver R w w' ∧ (b → probe - window.startUs ≤ lateToleranceUs)) w := by
        rw [wp_andM, wp_pure]
        split
        · rw [wp_andM]
          refine wp_mono (Asked.allowed R _) fun b w₁ h₁ => ?_
          split
          · rw [wp_pure]
            refine ⟨h₁, fun h => ?_⟩
            grind
          · exact ⟨h₁, nofun⟩
        · exact ⟨.refl w, nofun⟩
      refine wp_seq hasks fun b w₁ h₁ => ?_
      rw [wp_ite]
      refine ⟨fun hb => ⟨h₁.1, fun planned hplanned => ?_⟩, fun _ => ?_⟩
      · obtain rfl : window = planned := Option.some.inj hplanned
        have hsame : window.same window := by simp [ScheduledWindow.same]
        exact ⟨probe, window, hwindow, hsame, by have := h₁.2 hb; omega⟩
      rw [wp_ite]
      refine ⟨fun _ => ⟨h₁.1, nofun⟩, fun _ => ?_⟩
      refine wp_mono (ih window.endUs) fun r w' h' => ⟨h₁.1.trans h'.1, ?_⟩
      rw [h₁.1.state] at h'
      exact h'.2

lemma plan_spec (now : ℕ) : wp (plan driver now)
    (fun r w' => Asked driver R w w' ∧ ∀ planned, r = some planned → Agrees w.state planned) w := by
  unfold plan
  rw [wp_bind, wp_get, wp_ite]
  exact ⟨fun _ => ⟨.refl w, nofun⟩, fun _ => planFrom_spec _ _⟩

section
variable (H : Hooked driver R)
include H

lemma serviceReserved_spec (now : ℕ) (hphase : w.sched.phase = .reserved)
    (hreset : w.sched.nativeResetRequired = false) (hstop : w.sched.stopRequested = false) :
    wp (serviceReserved driver now) (fun _ w' => Settled driver R w w') w := by
  unfold serviceReserved
  rw [wp_bind, wp_get]
  refine wp_seq (misses_spec (R := R) now) fun b w₁ h₁ => ?_
  have hphase₁ : w₁.sched.phase = .reserved := by rw [h₁.1.sched, hphase]
  have hreset₁ : w₁.sched.nativeResetRequired = false := by rw [h₁.1.sched, hreset]
  have hstop₁ : w₁.sched.stopRequested = false := by rw [h₁.1.sched, hstop]
  rw [wp_ite]
  refine ⟨fun _ => ?_, fun hb => ?_⟩
  · have hleaves : w₁.sched.phase.leaves := by rw [hphase₁]; rfl
    show wp (returnHome driver) (fun _ w' => Settled driver R w w') w₁
    exact wp_mono (returnHome_spec H hleaves) fun _ w' h' => h'.toSettled.of_path H h₁.1.path
  rw [wp_ite]
  refine ⟨fun _ => ?_, fun _ => ?_⟩
  · rename_i hearly
    have hdeadline : w.sched.window.startUs ≠ 0 := by omega
    exact wp_mono (orStop_spec H (arm_spec H hdeadline) (.inr (.inl hphase₁)) hreset₁)
      fun _ w' h' => h'.of_path H h₁.1.path
  · have hagrees : Agrees w₁.state w₁.sched.window := by
      rw [h₁.1.state, h₁.1.sched]
      exact h₁.2 (by simpa using hb)
    exact wp_mono (openWindow_spec H hphase₁ hreset₁ hstop₁ fun _ => hagrees) fun _ w' h' =>
      h'.of_path H h₁.1.path

lemma serviceGranted_spec {v : World D} {result : Reservation} {now completed : ℕ}
    (hpath : Path driver R w { v with
      sched := { v.sched with leaseOwned := true, phase := .reserved } })
    (hreset : v.sched.nativeResetRequired = false)
    (hagrees : driver.ReserveQuiet → Agrees v.state v.sched.window) :
    wp (serviceGranted driver result now completed) (fun _ w' => Settled driver R w w') v := by
  unfold serviceGranted
  rw [wp_update]
  generalize hv : { v with sched := { v.sched with leaseOwned := true, phase := .reserved } } = v₁
    at hpath ⊢
  have hphase₁ : v₁.sched.phase = .reserved := by rw [← hv]
  have hreset₁ : v₁.sched.nativeResetRequired = false := by rw [← hv]; exact hreset
  have hagrees₁ : driver.ReserveQuiet → Agrees v₁.state v₁.sched.window := by
    rw [← hv]
    exact hagrees
  rw [wp_bind, wp_get]
  refine wp_seq (P := fun b w' => Asked driver R v₁ w' ∧
    (b = false → v₁.sched.stopRequested = false)) ?_ fun b w₁ h₁ => ?_
  · rw [wp_orM, wp_pure]
    split
    · exact ⟨.refl v₁, nofun⟩
    · rename_i hgranted
      simp only [Bool.or_eq_true, not_or, Bool.not_eq_true] at hgranted
      exact wp_mono (Asks.map _ (fun _ => Asked.channel R) v₁) fun _ _ h =>
        ⟨h, fun _ => hgranted.1.1.1.2⟩
  have hphase₁ : w₁.sched.phase = .reserved := by rw [h₁.1.sched, hphase₁]
  have hreset₁ : w₁.sched.nativeResetRequired = false := by rw [h₁.1.sched, hreset₁]
  rw [wp_ite]
  refine ⟨fun _ => ?_, fun hb => ?_⟩
  · have hleaves : w₁.sched.phase.leaves := by rw [hphase₁]; rfl
    show wp (returnHome driver) (fun _ w' => Settled driver R w w') w₁
    exact wp_mono (returnHome_spec H hleaves) fun _ w' h' =>
      h'.toSettled.of_path H (hpath.trans h₁.1.path)
  rw [wp_ite]
  refine ⟨fun _ => ?_, fun _ => ?_⟩
  · rename_i hearly
    have hdeadline : v₁.sched.window.startUs ≠ 0 := by omega
    exact wp_mono (orStop_spec H (arm_spec H hdeadline) (.inr (.inl hphase₁)) hreset₁)
      fun _ w' h' => h'.of_path H (hpath.trans h₁.1.path)
  · have hstop₁ : w₁.sched.stopRequested = false := by
      rw [h₁.1.sched]
      exact h₁.2 (by simpa using hb)
    rw [← h₁.1.state, ← h₁.1.sched] at hagrees₁
    exact wp_mono (openWindow_spec H hphase₁ hreset₁ hstop₁ hagrees₁) fun _ w' h' =>
      h'.of_path H (hpath.trans h₁.1.path)

lemma serviceReturned_spec {u : World D} {result : Reservation} (now : ℕ)
    (hpath : Path driver R w u) (hphase : u.sched.phase = .preparing)
    (hreset : u.sched.nativeResetRequired = false)
    (hagrees : driver.ReserveQuiet → Agrees u.state u.sched.window)
    (hanswer : ∃ channel durationMs v, driver.reserve channel durationMs v = (result, u)) :
    wp (serviceReturned driver result now) (fun _ w' => Settled driver R w w')
      (u.logged [.reserved result]) := by
  unfold serviceReturned
  rw [wp_bind, WindowDriver.askNow, wp_query, wp_bind, wp_get, wp_update, World.driver_logged]
  have hnow : driver.Answer u.driver _ _ := .now
  generalize driver.nowUs u.driver = asked at hnow ⊢
  obtain ⟨completed, d⟩ := asked
  dsimp only [World.sched_logged, World.state_logged] at hnow ⊢
  generalize (if completed ≥ now then completed - now else u.sched.maximumVisit) = cost
  rw [wp_ite]
  refine ⟨fun hrejected => ?_, fun hgranted => ?_⟩
  · subst hrejected
    have hmoves : Path driver R w _ := (((hpath.tail (.rejected hphase hanswer)).tail
      (.ask hnow)).tail (.tune (s := observeCost { u.sched with phase := .idle } u.state.presence
        cost) rfl)).tail (.ask .cancelTimer)
    rw [wp_bind, WindowDriver.callCancelTimer, wp_query, wp_enter, wp_bind, wp_get]
    generalize hv : World.inPhase _ .idle = v
    replace hmoves : Path driver R w v := hv ▸ hmoves
    have hidle : v.sched.phase = .idle := by rw [← hv]; rfl
    have hreset : v.sched.nativeResetRequired = false := by rw [← hv]; exact hreset
    rw [wp_ite]
    refine ⟨fun _ => ?_, fun _ => ?_⟩
    · have hgive : Step driver R _ _ := .giveUp false hidle
      rw [Bool.or_false] at hgive
      show Settled driver R w (v.inPhase .stopped)
      exact ⟨hmoves.tail hgive, .inl rfl, fun h => by simp [hreset] at h⟩
    · exact wp_mono (orStop_spec H (armAfter_spec H _ (by decide)) (.inl hidle) hreset)
        fun _ w' h' => h'.of_path H hmoves
  · have hmoves : Path driver R w _ := ((hpath.tail (.granted hphase hgranted)).tail
      (.ask hnow)).tail (.tune (s := observeCost { u.sched with
        leaseOwned := true, phase := .reserved } u.state.presence cost) rfl)
    exact serviceGranted_spec H hmoves hreset hagrees

lemma serviceVisit_spec {planned : ScheduledWindow} (now : ℕ) (hphase : w.sched.phase = .idle)
    (hreset : w.sched.nativeResetRequired = false) (hagrees : Agrees w.state planned)
    (hend : now < planned.endUs) :
    wp (serviceVisit driver planned now) (fun _ w' => Settled driver R w w') w := by
  unfold serviceVisit
  rw [wp_update]
  have hchoose : Step driver R _ _ := .choose planned hphase
  generalize hv : { w with sched := { w.sched with
    window := planned, skip := planned, haveSkip := true } } = v at hchoose ⊢
  have hphase : v.sched.phase = .idle := by rw [← hv]; exact hphase
  have hreset : v.sched.nativeResetRequired = false := by rw [← hv]; exact hreset
  have hagrees : Agrees v.state v.sched.window := by rw [← hv]; exact hagrees
  have hplanned : v.sched.window = planned := by rw [← hv]
  refine wp_seq (arm_spec H (show planned.endUs ≠ 0 by omega)) fun b w₁ h₁ => ?_
  have hpath := (ReflTransGen.single hchoose).trans h₁.1.path
  rw [← h₁.1.sched] at hphase hreset hplanned hagrees
  rw [← h₁.1.state] at hagrees
  rw [wp_ite]
  refine ⟨fun _ => ?_, fun _ => ?_⟩
  · have hrest : AtRest w₁.sched := ⟨.inr (.inl hphase), fun h => by simp [hreset] at h⟩
    show wp (stop driver) (fun _ w' => Settled driver R w w') w₁
    exact wp_mono (stop_spec H hrest) fun _ w' h' => (h'.1.of_path hpath).settled
  have hreserve : Step driver R _ _ := .reserve ((planned.endUs - now + 999) / 1000)
    hphase hagrees
  rw [hplanned] at hreserve
  rw [wp_enter, wp_bind, WindowDriver.callReserve, wp_hook]
  generalize hv₁ : (w₁.inPhase .preparing).logged
    [.reserve planned.channel ((planned.endUs - now + 999) / 1000)] = v₁ at hreserve ⊢
  have hpreparing : v₁.sched.phase = .preparing := by rw [← hv₁]; rfl
  obtain ⟨hnative, stopped, -, hsched⟩ := Path.of_native H (by rw [hpreparing]; rfl)
    (H.reserve planned.channel ((planned.endUs - now + 999) / 1000) v₁ hpreparing)
  have hquiet : driver.ReserveQuiet → (driver.reserve planned.channel
      ((planned.endUs - now + 999) / 1000) v₁).2.state = w₁.state := by
    intro hquiet
    rw [hquiet _ _ _ hpreparing, ← hv₁]
    rfl
  have hanswer : ∃ channel durationMs v, driver.reserve channel durationMs v =
      driver.reserve planned.channel ((planned.endUs - now + 999) / 1000) v₁ := ⟨_, _, _, rfl⟩
  generalize driver.reserve planned.channel ((planned.endUs - now + 999) / 1000) v₁ = r
    at hnative hsched hquiet hanswer ⊢
  obtain ⟨result, u⟩ := r
  have hpath := (hpath.tail hreserve).trans hnative
  have hpreparing : u.sched.phase = .preparing := by rw [hsched, hpreparing]
  have hreset : u.sched.nativeResetRequired = false := by rw [hsched, ← hv₁]; exact hreset
  have hagrees : driver.ReserveQuiet → Agrees u.state u.sched.window := by
    intro hq
    rw [hquiet hq, hsched, ← hv₁]
    exact hagrees
  exact serviceReturned_spec H now hpath hpreparing hreset hagrees hanswer

lemma serviceIdle_spec (now : ℕ) (hphase : w.sched.phase = .idle)
    (hreset : w.sched.nativeResetRequired = false) :
    wp (serviceIdle driver now) (fun _ w' => Settled driver R w w') w := by
  refine wp_seq (Asked.wireTime R now) fun wire w₁ h₁ => ?_
  rw [← h₁.1.sched] at hphase hreset
  rw [wp_ite]
  refine ⟨fun _ => ?_, fun _ => ?_⟩
  · exact wp_mono (orStop_spec H (armAfter_spec H _ (by decide)) (.inl hphase) hreset)
      fun _ w' h' => h'.of_path H h₁.1.path
  rw [wp_engine]
  refine wp_seq (plan_spec (R := R) now) fun planned w₂ h₂ => ?_
  have hpath := (h₁.1.path.tail (.elect now hphase)).trans h₂.1.path
  have hphase₂ : w₂.sched.phase = .idle := by rw [h₂.1.sched]; exact hphase
  have hreset₂ : w₂.sched.nativeResetRequired = false := by rw [h₂.1.sched]; exact hreset
  have hwait : ∀ {v : World D} {armed : StateM (World D) Bool}, Path driver R w v →
      v.sched.phase = .idle → v.sched.nativeResetRequired = false →
      wp armed (fun b w' => Asked driver R v w' ∧ (b → Rearmed driver v w')) v →
      wp (orStop driver armed) (fun _ w' => Settled driver R w w') v :=
    fun hpath hphase hreset harm =>
      wp_mono (orStop_spec H harm (.inl hphase) hreset) fun _ w' h' => h'.of_path H hpath
  cases planned with
  | none => exact hwait hpath hphase₂ hreset₂ (armAfter_spec H _ (by decide))
  | some planned =>
    rw [wp_bind, wp_get, wp_ite]
    refine ⟨fun hearly => hwait hpath hphase₂ hreset₂ (arm_spec H (by omega)), fun _ => ?_⟩
    rw [wp_ite]
    refine ⟨fun _ => ?_, fun hfits => ?_⟩
    · rw [wp_update]
      exact hwait (hpath.tail (.tune rfl)) hphase₂ hreset₂ (armAfter_spec H _ (by decide))
    · have hagrees : Agrees w₂.state planned := by
        rw [h₂.1.state]
        exact h₂.2 planned rfl
      have hend : now < planned.endUs := not_le.mp (not_or.mp hfits).1
      exact wp_mono (serviceVisit_spec H now hphase₂ hreset₂ hagrees hend) fun _ w' h' =>
        h'.of_path H hpath

lemma servicePhase_spec (now : ℕ) (hphase : w.sched.phase = .idle ∨ w.sched.phase = .reserved)
    (hreset : w.sched.nativeResetRequired = false) (hstop : w.sched.stopRequested = false) :
    wp (servicePhase driver now) (fun _ w' => Settled driver R w w') w := by
  unfold servicePhase
  rw [wp_bind, wp_get, wp_ite]
  grind [serviceReserved_spec, serviceIdle_spec]

lemma serviceOpen_spec {now : ℕ} (hphase : w.sched.phase = .open) (hnow : Recent now w.log)
    (hreset : w.sched.nativeResetRequired = false) :
    wp (serviceOpen driver now) (fun _ w' => Settled driver R w w') w := by
  unfold serviceOpen
  rw [wp_bind, wp_get]
  refine wp_seq (keepsOpen_spec (R := R) w.sched.window now) fun b w₁ h₁ => ?_
  have hphase₁ : w₁.sched.phase = .open := by rw [h₁.1.sched, hphase]
  have hreset₁ : w₁.sched.nativeResetRequired = false := by rw [h₁.1.sched, hreset]
  rw [wp_ite]
  refine ⟨fun hb => ?_, fun _ => ?_⟩
  · have hdeadline : w.sched.window.endUs ≠ 0 := by
      have := h₁.2 hb
      omega
    exact wp_mono (orStop_spec H (arm_spec H hdeadline) (.inr (.inr hphase₁)) hreset₁)
      fun _ w' h' => h'.of_path H h₁.1.path
  refine wp_seq (closeWindow_spec H hphase₁ (hnow.asked h₁.1)) fun _ w₂ h₂ => ?_
  have hleaves : w₂.sched.phase.leaves := by rw [h₂.phase]; rfl
  refine wp_seq (returnHome_spec H hleaves) fun home w₃ h₃ => ?_
  have hpath := h₁.1.path.trans h₂.path
  rw [wp_bind, wp_get, wp_ite]
  refine ⟨fun _ => h₃.toSettled.of_path H hpath, fun hgoing => ?_⟩
  have hidle : w₃.sched.phase = .idle := by
    grind [h₃.phase, h₃.result]
  refine wp_seq (Asked.now R) fun now w₄ h₄ => ?_
  have hidle₄ : w₄.sched.phase = .idle := by rw [h₄.1.sched, hidle]
  have hreset₄ : w₄.sched.nativeResetRequired = false := by
    rw [h₄.1.sched]
    by_contra h
    have := h₃.reset (by simpa using h)
    rw [hidle] at this
    exact Phase.noConfusion this
  have hstop₄ : w₄.sched.stopRequested = false := by rw [h₄.1.sched, h₃.goes hidle]
  exact wp_mono (servicePhase_spec H now (.inl hidle₄) hreset₄ hstop₄) fun _ w' h' =>
    h'.of_path H ((hpath.trans h₃.path).trans h₄.1.path)

theorem service_spec (hrest : AtRest w.sched) :
    wp (service driver) (fun _ w' => Settled driver R w w') w := by
  unfold service
  rw [wp_bind, wp_get, wp_ite]
  refine ⟨fun hnone => ?_, fun hgoing => ?_⟩
  · refine ⟨.refl, ?_, hrest.2⟩
    rcases hnone with h | h | h | h
    · exact .inl h
    · exact .inr (.inl h)
    all_goals
      rcases hrest.1 with h' | h' | h' | h' | h' <;> rw [h'] at h <;> cases h
  simp only [not_or] at hgoing
  have hreset : w.sched.nativeResetRequired = false := by
    by_contra h
    exact hgoing.2.1 (hrest.2 (by simpa using h))
  refine wp_seq (Asked.now R) fun now w₁ h₁ => ?_
  refine wp_seq (P := fun b w' => Asked driver R w₁ w' ∧
    (b = false → w.sched.stopRequested = false)) ?_ fun b w₂ h₂ => ?_
  · rw [wp_orM, wp_pure]
    split
    · exact ⟨.refl w₁, nofun⟩
    · rename_i hstop
      exact wp_mono (Asks.map not (fun _ => Asked.ready R) w₁) fun _ _ h =>
        ⟨h, fun _ => Bool.eq_false_iff.mpr hstop⟩
  have hasked := h₁.1.trans h₂.1
  have hrest₂ : AtRest w₂.sched := by rwa [hasked.sched]
  rw [wp_ite]
  refine ⟨fun _ => ?_, fun hb => ?_⟩
  · show wp (stop driver) (fun _ w' => Settled driver R w w') w₂
    exact wp_mono (stop_spec H hrest₂) fun _ w' h' => (h'.1.of_path hasked.path).settled
  have hstop := h₂.2 (by simpa using hb)
  have hread : Recent now w₂.log := h₁.2.asked h₂.1
  rw [← hasked.sched] at hreset hstop hgoing
  rw [← hasked.sched]
  rw [wp_ite]
  refine ⟨fun hopen => ?_, fun hshut => ?_⟩
  · exact wp_mono (serviceOpen_spec H hopen hread hreset) fun _ w' h' => h'.of_path H hasked.path
  · have hphase : w₂.sched.phase = .idle ∨ w₂.sched.phase = .reserved := by
      rcases hrest₂.1 with h | h | h | h | h
      · exact absurd h hgoing.1
      · exact .inl h
      · exact .inr h
      · exact absurd h hshut
      · exact absurd h hgoing.2.1
    exact wp_mono (servicePhase_spec H now hphase hreset hstop) fun _ w' h' =>
      h'.of_path H hasked.path

/-- A call that finds nothing to do, or one that came to rest. -/
def Answered (driver : WindowDriver D) (R : World D → World D → Prop) (w w' : World D) : Prop :=
  w' = w ∨ Settled driver R w w'

/-- A start leaves the engine alone; one that succeeds waits for its first service. -/
theorem start_spec (hrest : AtRest w.sched) (maximumVisitUs preparationLeadUs : ℕ) :
    wp (start driver maximumVisitUs preparationLeadUs) (fun b w' => Answered driver R w w' ∧
      w'.state = w.state ∧ (b → w'.sched.phase = .idle ∧ Rearmed driver w w')) w := by
  unfold start
  rw [wp_bind, wp_get, wp_ite]
  refine ⟨fun _ => ⟨.inl rfl, rfl, nofun⟩, fun hready => ?_⟩
  simp only [ne_eq, not_or, not_not, Bool.not_eq_true] at hready
  obtain ⟨hstopped, hfree⟩ := hready
  have hreset : w.sched.nativeResetRequired = false := by
    by_contra h
    have := hrest.2 (by simpa using h)
    rw [hstopped] at this
    exact Phase.noConfusion this
  have hstays : ∀ {v : World D}, Asked driver R w v → Answered driver R w v ∧ v.state = w.state := by
    intro v h
    refine ⟨.inr ⟨h.path, .inl (by rw [h.sched, hstopped]), ?_⟩, h.state⟩
    rw [h.sched, hreset]
    exact nofun
  refine wp_seq (Asks.or (.map not fun _ => Asked.ready R) (.pure _) w) fun b w₁ h₁ => ?_
  rw [wp_ite]
  refine ⟨fun _ => ⟨(hstays h₁).1, (hstays h₁).2, nofun⟩, fun _ => ?_⟩
  refine wp_seq (Asked.now R) fun now w₂ h₂ => ?_
  refine wp_seq (Asked.wireTime R now) fun wire w₃ h₃ => ?_
  have hasked := (h₁.trans h₂.1).trans h₃.1
  rw [wp_ite]
  refine ⟨fun _ => ⟨(hstays hasked).1, (hstays hasked).2, nofun⟩, fun _ => ?_⟩
  rw [wp_update]
  have hbegin : Step driver R _ _ := .begin maximumVisitUs preparationLeadUs
    (show w₃.sched.phase = .stopped by rw [hasked.sched, hstopped])
    (show w₃.state.controlsHeld = false by rw [hasked.state, hfree])
  generalize hv : { w₃ with sched := w₃.sched.begin maximumVisitUs preparationLeadUs } = v
    at hbegin ⊢
  have hpath := hasked.path.tail hbegin
  have hstate : v.state = w.state := by rw [← hv]; exact hasked.state
  have hidle : v.sched.phase = .idle := by rw [← hv]; rfl
  have hreset : v.sched.nativeResetRequired = false := by
    rw [← hv]
    show w₃.sched.nativeResetRequired = false
    rw [hasked.sched, hreset]
  refine wp_seq (Asked.now R) fun now w₄ h₄ => ?_
  refine wp_seq (armAfter_spec H now (by decide)) fun b w₅ h₅ => ?_
  have harmed := h₄.1.trans h₅.1
  have hpath₅ := hpath.trans harmed.path
  rw [← harmed.sched] at hidle hreset
  rw [← harmed.state] at hstate
  rw [wp_ite]
  refine ⟨fun hb => ?_, fun _ => ?_⟩
  · have hrearmed : Rearmed driver w w₅ :=
      (h₅.2 hb).since (Path.log_grows H.grows (hpath.trans h₄.1.path))
    refine ⟨.inr ⟨hpath₅, .inr (.inr ⟨.inl hidle, hrearmed⟩), ?_⟩, hstate, fun _ =>
      ⟨hidle, hrearmed⟩⟩
    show w₅.sched.nativeResetRequired → _
    rw [hreset]
    exact nofun
  · have hgive : Step driver R _ _ := .giveUp false hidle
    rw [Bool.or_false] at hgive
    refine ⟨.inr ⟨hpath₅.tail hgive, .inl rfl, ?_⟩, hstate, nofun⟩
    show w₅.sched.nativeResetRequired → _
    rw [hreset]
    exact nofun

theorem recover_spec : wp (recover driver) (fun _ w' => Answered driver R w w') w := by
  unfold recover
  rw [wp_bind, wp_get, wp_ite]
  refine ⟨fun hfailed => ?_, fun _ => .inl rfl⟩
  have hleaves : w.sched.phase.leaves := by rw [hfailed.1]; rfl
  exact wp_mono (returnHome_spec H hleaves) fun _ w' h' => .inr h'.toSettled

/-- Every call at rest comes to rest by moves. -/
theorem call_spec (hrest : AtRest w.sched) (c : Call) : Answered driver R w (c.run driver w) := by
  cases c with
  | start maximumVisitUs preparationLeadUs =>
    exact (start_spec H hrest maximumVisitUs preparationLeadUs).1
  | service => exact .inr (service_spec H hrest)
  | stop => exact .inr (stop_spec H hrest).1.settled
  | recover => exact recover_spec H

end

end AirportAwdl.Scheduler
