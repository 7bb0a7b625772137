import AirportAwdl.Election.WireTheorems
import AirportAwdl.Scheduler.Model

/-!
# The windows of a schedule

`currentWindow` cuts the engine's timeline into windows of `presence` availability windows. Its
start and end come from the position inside the current frame, its counter and its channel from
the wrapped counter. `windowAround_of_mem` says that all of them are the same from every instant of
a window, `windowAround_next` what the window after it is.
-/

namespace AirportAwdl.Scheduler

open AirportAwdl.Election ByteBuffer Timeline

variable {s : State} {t u : ℕ}

/-- The extended availability window around `t`, without the checks of `currentWindow`. -/
def windowAround (s : State) (t : ℕ) : ScheduledWindow where
  startUs := t - s.position t
  endUs := t + (s.presence.toNat * awUs - s.position t)
  counter := s.counter t - s.counter t % s.presence.toUInt16
  channel := s.channel t
  presence := s.presence

/-- The times at which `currentWindow` succeeds. -/
structure InWindow (s : State) (t : ℕ) : Prop where
  ready : s.radioScheduleReady
  epoch_le : s.epoch ≤ t
  started : s.position t ≤ t
  fits : t + (s.presence.toNat * awUs - s.position t) ≤ uint64Max

lemma currentWindow_eq_some (hplan : PlanOk s.sequence s.presence) {window : ScheduledWindow} :
    currentWindow s t = some window ↔ InWindow s t ∧ windowAround s t = window := by
  have hp := hplan.validPresence_presence
  have hlt := s.position_lt hp t
  have hback : s.presence.toNat * awUs - (s.presence.toNat * awUs - s.position t) =
      s.position t := by omega
  have hmax : s.presence.toNat * awUs < uint64Max := by
    have hbyte := s.presence.toNat_lt
    simp only [awUs, uint64Max]
    omega
  unfold currentWindow
  simp only [State.untilNext_eq hp, hback]
  split
  · rename_i hbad
    simp only [reduceCtorEq, false_iff, not_and]
    intro hin
    simp only [hin.ready, hplan.valid, hp, Bool.not_true, Bool.false_eq_true, false_or] at hbad
    exact absurd hin.epoch_le (not_le.mpr hbad)
  · rename_i hchecks
    simp only [not_or, Bool.not_eq_true', Bool.not_eq_false, not_lt] at hchecks
    split
    · rename_i hbad
      simp only [reduceCtorEq, false_iff, not_and]
      intro hin
      have hstarted := hin.started
      have hfits := hin.fits
      omega
    · rename_i hgood
      rw [Option.some.injEq]
      exact ⟨fun h => ⟨⟨hchecks.1, hchecks.2.2.2, by omega, by omega⟩, h⟩, fun h => h.2⟩

lemma toNat_windowCounter (hp : validPresence s.presence.toNat) (t : ℕ) :
    (s.counter t - s.counter t % s.presence.toUInt16).toNat =
      s.line.frameIndex awUs s.presence.toNat t * s.presence.toNat % 65536 := by
  have hle : s.counter t % s.presence.toUInt16 ≤ s.counter t := by
    exact Nat.mod_le _ _
  rw [UInt16.toNat_sub_of_le _ _ hle, UInt16.toNat_mod, UInt8.toNat_toUInt16, State.toNat_counter,
    Line.wrapped_frame_start awUs_pos (validPresence_dvd hp)]

lemma channelOf_windowCounter (hplan : PlanOk s.sequence s.presence) (t : ℕ) :
    s.sequence.channelOf (s.counter t) =
      s.sequence.channelOf (s.counter t - s.counter t % s.presence.toUInt16) := by
  have hle : s.counter t % s.presence.toUInt16 ≤ s.counter t := by
    exact Nat.mod_le _ _
  unfold Sequence.channelOf
  rw [UInt16.toNat_sub_of_le _ _ hle, UInt16.toNat_mod, UInt8.toNat_toUInt16,
    ← hplan.toNat_presence, ← Nat.div_eq_sub_mod_div]

lemma windowAround_of_mem (hplan : PlanOk s.sequence s.presence) (ht : s.epoch ≤ t)
    (hu : s.epoch ≤ u) (hstarted : s.position t ≤ t) (hlo : t - s.position t ≤ u)
    (hhi : u < t + (s.presence.toNat * awUs - s.position t)) :
    s.position u ≤ u ∧ windowAround s u = windowAround s t := by
  have hp := hplan.validPresence_presence
  have hlt := s.position_lt hp t
  obtain ⟨hindex, hoffset⟩ := Line.frameOffset_of_mem (L := s.line) (validPresence_pos hp) awUs_pos
    ht hu (show t ≤ u + s.position t by omega)
    (show u + s.position t < t + s.presence.toNat * awUs by omega)
  have hoffset : s.position u + t = u + s.position t := hoffset
  have hcounter : s.counter u - s.counter u % s.presence.toUInt16 =
      s.counter t - s.counter t % s.presence.toUInt16 := by
    apply UInt16.toNat_inj.mp
    rw [toNat_windowCounter hp, toNat_windowCounter hp, hindex]
  have hchannel : s.channel u = s.channel t := by
    unfold State.channel
    rw [channelOf_windowCounter hplan u, channelOf_windowCounter hplan t, hcounter]
  refine ⟨by omega, ?_⟩
  unfold windowAround
  congr 1 <;> omega

lemma windowAround_eq (hplan : PlanOk s.sequence s.presence) (hepoch : s.epoch ≤ t)
    (hstarted : s.position t ≤ t) (hearly : s.position t < awUs)
    (hlo : t - s.position t ≤ u) (hhi : u < t + (s.presence.toNat * awUs - s.position t)) :
    s.epoch ≤ u ∧ s.position u ≤ u ∧ windowAround s u = windowAround s t := by
  -- inside the first availability window the position is the phase, so the epoch is no later
  -- than the start
  have hphase : s.position t = (t - s.epoch) % awUs := by
    have hmod : s.position t % awUs = (t - s.epoch) % awUs := by
      rw [State.position, Line.frameOffset_eq awUs_pos, Nat.mul_add_mod_self_right, Nat.mod_mod]
      rfl
    rwa [Nat.mod_eq_of_lt hearly] at hmod
  have hle : (t - s.epoch) % awUs ≤ t - s.epoch := Nat.mod_le _ _
  have hu : s.epoch ≤ u := by omega
  exact ⟨hu, windowAround_of_mem hplan hepoch hu hstarted hlo hhi⟩

lemma ScheduledWindow.same_iff {a b : ScheduledWindow} : a.same b ↔
    a.startUs = b.startUs ∧ a.endUs = b.endUs ∧ a.counter = b.counter ∧ a.channel = b.channel := by
  simp [ScheduledWindow.same, and_assoc]

/-- The slot of the channel sequence that a window is in. -/
def ScheduledWindow.slot (w : ScheduledWindow) : ℕ := w.counter.toNat / w.presence.toNat % slots

lemma slot_windowAround (hp : validPresence s.presence.toNat) (t : ℕ) :
    (windowAround s t).slot = s.line.frameIndex awUs s.presence.toNat t % slots := by
  show (s.counter t - s.counter t % s.presence.toUInt16).toNat / s.presence.toNat % slots = _
  rw [toNat_windowCounter hp]
  simp only [slots]
  rcases (validPresence_iff _).mp hp with h | h | h | h | h <;> rw [h] <;> omega

lemma channel_windowAround (hplan : PlanOk s.sequence s.presence) (hready : s.radioScheduleReady)
    (t : ℕ) : (windowAround s t).channel =
      s.sequence.channels[(windowAround s t).slot]?.getD 0 := by
  have hcount : s.sequence.count.toNat = 16 := by
    rw [((validSequence_iff _).mp hplan.valid).1]
    rfl
  show s.channel t = _
  rw [State.channel, if_neg (by simp [hready]), if_pos hplan.valid,
    channelOf_windowCounter hplan, Sequence.channelOf, ← hplan.toNat_presence, hcount]
  rfl

lemma windowAround_next (hplan : PlanOk s.sequence s.presence) (ht : s.epoch ≤ t) :
    let next := windowAround s (windowAround s t).endUs
    next.startUs = (windowAround s t).endUs ∧
      next.counter = (windowAround s t).counter + s.presence.toUInt16 ∧
      next.slot = ((windowAround s t).slot + 1) % slots := by
  have hp := hplan.validPresence_presence
  obtain ⟨hindex, hoffset⟩ := Line.frame_next (L := s.line) (validPresence_pos hp) awUs_pos ht
  have hposition : s.position (windowAround s t).endUs = 0 := hoffset
  have hnumber : s.line.frameIndex awUs s.presence.toNat (windowAround s t).endUs =
      s.line.frameIndex awUs s.presence.toNat t + 1 := hindex
  refine ⟨?_, ?_, ?_⟩
  · show (windowAround s t).endUs - s.position (windowAround s t).endUs = (windowAround s t).endUs
    rw [hposition, Nat.sub_zero]
  · apply UInt16.toNat_inj.mp
    show (s.counter _ - s.counter _ % s.presence.toUInt16).toNat =
      ((s.counter t - s.counter t % s.presence.toUInt16) + s.presence.toUInt16).toNat
    rw [UInt16.toNat_add, toNat_windowCounter hp, toNat_windowCounter hp, hnumber,
      UInt8.toNat_toUInt16, Nat.succ_mul, Nat.mod_add_mod]
  · rw [slot_windowAround hp, slot_windowAround hp, hnumber, Nat.mod_add_mod]

/-- **Windows tile time.** Take a valid sequence whose slots last `presence` availability windows,
on a schedule that is ready, with any base counter. Where `currentWindow` succeeds, the window
contains the time it was asked for, is `presence` availability windows long and is the same for
every time in it from the epoch on. The window at its end starts there, with the counter advanced
by `presence` modulo 2^16 and the channel of the next slot. `currentWindow` fails only for a start
below zero or an end above 2^64 - 1. -/
theorem currentWindow_tiles (s : State) (hvalid : validSequence s.sequence)
    (hpresence : s.presence.toNat = s.sequence.step.toNat + 1) (hready : s.radioScheduleReady)
    (t : ℕ) (ht : s.epoch ≤ t) :
    (∀ window, currentWindow s t = some window →
      (window.startUs ≤ t ∧ t < window.endUs ∧
        window.endUs - window.startUs = s.presence.toNat * 16384) ∧
      (∀ u, max window.startUs s.epoch ≤ u → u < window.endUs →
        ∃ same, currentWindow s u = some same ∧ same.startUs = window.startUs ∧
          same.endUs = window.endUs ∧ same.counter = window.counter ∧
          same.channel = window.channel) ∧
      window.channel = s.sequence.channels[window.slot]?.getD 0 ∧
      (∀ next, currentWindow s window.endUs = some next →
        next.startUs = window.endUs ∧ next.counter = window.counter + s.presence.toUInt16 ∧
        next.channel = s.sequence.channels[(window.slot + 1) % 16]?.getD 0)) ∧
    (currentWindow s t = none →
      t < s.presence.toNat * 16384 - s.untilNext t ∨ t + s.untilNext t > 2 ^ 64 - 1) := by
  have hplan : PlanOk s.sequence s.presence := .of_toNat hvalid hpresence
  have hp := hplan.validPresence_presence
  have hlt := s.position_lt hp t
  refine ⟨fun window hwindow => ?_, fun hnone => ?_⟩
  · obtain ⟨hin, rfl⟩ := (currentWindow_eq_some hplan).mp hwindow
    have hstarted := hin.started
    refine ⟨⟨Nat.sub_le _ _, ?_, ?_⟩, fun u hlo hhi => ?_, channel_windowAround hplan hready t,
      fun next hnext => ?_⟩
    · show t < t + (s.presence.toNat * awUs - s.position t)
      omega
    · show t + (s.presence.toNat * awUs - s.position t) - (t - s.position t) = _
      simp only [awUs] at hlt ⊢
      omega
    · have hu := (le_max_right _ _).trans hlo
      obtain ⟨hbegun, hsame⟩ := windowAround_of_mem hplan ht hu hstarted
        ((le_max_left _ _).trans hlo) hhi
      have hfits : (windowAround s u).endUs ≤ uint64Max := by
        rw [hsame]
        exact hin.fits
      refine ⟨windowAround s u, (currentWindow_eq_some hplan).mpr ⟨⟨hready, hu, hbegun, hfits⟩, rfl⟩,
        ?_⟩
      rw [hsame]
      exact ⟨rfl, rfl, rfl, rfl⟩
    · obtain ⟨-, rfl⟩ := (currentWindow_eq_some hplan).mp hnext
      obtain ⟨hstart, hcounter, hslot⟩ := windowAround_next hplan ht
      refine ⟨hstart, hcounter, ?_⟩
      rw [channel_windowAround hplan hready, hslot]
      rfl
  · -- everything else that `currentWindow` checks holds
    by_contra hinside
    rw [not_or, not_lt, not_lt, State.untilNext_eq hp] at hinside
    have hin : InWindow s t := by
      refine ⟨hready, ht, ?_, hinside.2⟩
      have hle := hinside.1
      simp only [awUs] at hlt hle
      omega
    have hsome := (currentWindow_eq_some hplan).mpr ⟨hin, rfl⟩
    rw [hnone] at hsome
    exact Option.some_ne_none _ hsome.symm

/-- The last window before the wrap of the counter and the first one after it. -/
theorem currentWindow_tiles_wrap :
    let s := { State.fresh stationA samplePlan 10000000 1 true with baseCounter := 65535 }
    ∃ last first, currentWindow s 10000500 = some last ∧ last.counter = 65535 ∧
      currentWindow s last.endUs = some first ∧ first.startUs = last.endUs ∧ first.counter = 0 := by
  intro s
  have hvalid : validSequence s.sequence := by decide +kernel
  have hepoch : s.epoch ≤ 10000500 := by decide +kernel
  have hlast : currentWindow s 10000500 = some (windowAround s 10000500) := by decide +kernel
  have hfirst : currentWindow s (windowAround s 10000500).endUs =
      some (windowAround s (windowAround s 10000500).endUs) := by decide +kernel
  have htiles := (currentWindow_tiles s hvalid rfl rfl 10000500 hepoch).1 _ hlast
  obtain ⟨hstart, hcounter, -⟩ := htiles.2.2.2 _ hfirst
  have hwrap : (windowAround s 10000500).counter = 65535 := by decide +kernel
  have hzero : 65535 + s.presence.toUInt16 = 0 := by decide +kernel
  rw [hwrap, hzero] at hcounter
  exact ⟨_, _, hlast, hwrap, hfirst, hstart, hcounter⟩

end AirportAwdl.Scheduler
